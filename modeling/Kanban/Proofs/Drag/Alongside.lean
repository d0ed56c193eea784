import Kanban.Proofs.Confirmation.Exchange
import Kanban.Proofs.Drag.Stages

/-!
# `Proofs.Drag.Alongside` — an enquiry beside a scene

A release obtains its confirmation at its own gate, so of all that happens in a scene only the events of its
own wait and of its own handle count. An enquiry that learns of nothing else is where the release is, and it
obtains the same.

## Contents
- `Event.own`, `Scene.learns`, `Scene.history`: what is known to an enquiry beside a scene.
- `Scene.confirmation`: what a release obtains; `Scene.Prompt`, `Scene.deed`: when it looks, and what is done
  first at its handle.
- `Alongside`, `alongside_step`, `alongside_run`: the enquiry and the release.
- `confirmation_of_prompt`: a release that looks promptly.
-/

namespace Kanban.Scene

variable {κ : Type} {w : Scene κ} {gate : Nat} {limit : Option Nat} {q : Enquiry}

/-! ## What concerns one release -/

/-- For how long the release in progress has waited, if it waits. -/
def waited? (w : Scene κ) : Option Nat :=
  match w.stage with
  | .waiting _ _ waited => some waited
  | _ => none

/-- What an event is to the release that has asked at a gate and waits with a limit: it concerns its wait or
    its handle. -/
def Event.own (gate : Nat) (limit : Option Nat) : Event κ → Option Enquiry.Event
  | .callbackReturns => some (.begins limit)
  | .pass ms => some (.passes ms)
  | .poll => some .looks
  | .cancel => some .leaves
  | .answer g accepted => if g = gate then some (.replies (.answered accepted)) else none
  | .abandon g => if g = gate then some (.replies .dropped) else none
  | _ => none

/-- What the release that has asked at a gate learns of an event while it is in progress. It cannot be given
    up before it waits. -/
def learns (w : Scene κ) (gate : Nat) (e : Event κ) : Option Enquiry.Event :=
  if w.gate? = some gate then
    match e with
    | .cancel => w.waited?.map fun _ => .leaves
    | e => e.own gate w.controller.limit
  else none

/-- What happens to a release in several events, as long as it is in progress. -/
def history (w : Scene κ) (gate : Nat) : List (Event κ) → List Enquiry.Event
  | [] => []
  | e :: es => (w.learns gate e).toList ++ (w.step e).1.history gate es

/-- The confirmation that a release obtains in an event: what it hears when it looks at its gate. -/
def obtains (w : Scene κ) (gate : Nat) (e : Event κ) : Option Confirmation :=
  match e with
  | .poll => if w.gate? = some gate then w.heard else none
  | _ => none

/-- The confirmation that a release obtains in several events. -/
def confirmation (w : Scene κ) (gate : Nat) : List (Event κ) → Option Confirmation
  | [] => none
  | e :: es => (w.obtains gate e).or ((w.step e).1.confirmation gate es)

/-- While a release has something to hear, no time passes for it and nothing is done to its handle. -/
def Prompt (w : Scene κ) (gate : Nat) : List (Event κ) → Prop
  | [] => True
  | e :: es => (w.gate? = some gate → w.heard.isSome = true →
      (e.own gate w.controller.limit).any Enquiry.Event.delays = false) ∧ (w.step e).1.Prompt gate es

instance decidablePrompt : (w : Scene κ) → (es : List (Event κ)) → Decidable (w.Prompt gate es)
  | _, [] => inferInstanceAs (Decidable True)
  | w, e :: es =>
    have := decidablePrompt (w.step e).1 es
    inferInstanceAs (Decidable ((w.gate? = some gate → w.heard.isSome = true →
      (e.own gate w.controller.limit).any Enquiry.Event.delays = false) ∧ (w.step e).1.Prompt gate es))

/-- What is done to the handle of a release in several events: the first thing, timed from the beginning of
    the wait. -/
def deed (w : Scene κ) (gate : Nat) (es : List (Event κ)) : Answer × Timing :=
  Enquiry.deed none (es.filterMap (Event.own gate w.controller.limit))

/-! ## An enquiry beside a scene -/

/-- The waiting end of an enquiry has waited with a limit for a time, or it has not begun. -/
def WaitsFor (q : Enquiry) (limit : Option Nat) : Option Nat → Prop
  | none => q.waiter = .ready
  | some waited => ∃ since, q.waiter = .waiting limit since ∧ q.now = since + waited

theorem WaitsFor.there {waited : Option Nat} (h : WaitsFor q limit waited) : q.waiter.done = false := by
  cases waited with
  | none => rw [show q.waiter = .ready from h]; rfl
  | some t =>
    obtain ⟨since, hw, -⟩ := h
    rw [hw]
    rfl

theorem WaitsFor.verdict {waited : Option Nat} (h : WaitsFor q limit waited) :
    q.heard = waited.bind (q.gate.verdict limit) := by
  cases waited with
  | none => simp only [Enquiry.heard, show q.waiter = .ready from h, Option.bind_none]
  | some t =>
    obtain ⟨since, hw, hnow⟩ := h
    rw [Enquiry.heard_of_waiting hw, hnow, Nat.add_sub_cancel_left]
    rfl

/-- **An enquiry that has learnt what concerns one release** is where that release is. -/
inductive Alongside (gate : Nat) (limit : Option Nat) (q : Enquiry) (w : Scene κ) : Prop where
  /-- The release is in progress, and the enquiry has its gate and its time. -/
  | underway (hg : w.gate? = some gate) (hgate : w.gates[gate]? = some q.gate)
      (hl : w.controller.limit = limit) (hw : WaitsFor q limit w.waited?)
  /-- The release is over, and its gate will not be used again. -/
  | ended (hd : q.waiter = .gone ∨ ∃ since c moment, q.waiter = .settled limit since c moment)
      (hg : w.gate? ≠ some gate) (hlt : gate < w.gates.length)

/-- Both hear the same at the gate. -/
theorem heard_eq (hg : w.gate? = some gate) (hgate : w.gates[gate]? = some q.gate)
    (hl : w.controller.limit = limit) (hw : WaitsFor q limit w.waited?) : q.heard = w.heard := by
  rw [hw.verdict]
  obtain ⟨p, hst | ⟨t, hst⟩⟩ := gate?_eq_some.mp hg
  · simp [heard, waited?, hst]
  · simp [heard, waited?, hst, hgate, hl]

/-- What an event does to one gate. -/
def Event.upon (gate : Nat) (e : Event κ) (g : Gate) : Gate :=
  match e.own gate none with
  | some (.replies r) => g.record r
  | _ => g

theorem getElem?_onGates (e : Event κ) (gates : List Gate) (gate : Nat) :
    (e.onGates gates)[gate]? = gates[gate]?.map (e.upon gate) := by
  cases e with
  | answer i accepted =>
    have hupon : Event.upon gate (.answer i accepted : Event κ) =
        if i = gate then fun g => (g.resolve accepted).1 else id := by
      funext g
      by_cases hi : i = gate <;> simp [Event.upon, Event.own, Gate.resolve, hi]
    rw [hupon, Event.onGates, List.getElem?_modify]
    by_cases hi : i = gate <;> simp [hi]
  | abandon i =>
    have hupon : Event.upon gate (.abandon i : Event κ) = if i = gate then Gate.abandon else id := by
      funext g
      by_cases hi : i = gate <;> simp [Event.upon, Event.own, Gate.abandon, hi]
    rw [hupon, Event.onGates, List.getElem?_modify]
    by_cases hi : i = gate <;> simp [hi]
  | _ => exact (congrFun Option.map_id _).symm

theorem length_onGates (e : Event κ) (gates : List Gate) : (e.onGates gates).length = gates.length := by
  cases e <;> simp [Event.onGates]

/-- A reply reaches the gate of an enquiry and leaves its wait alone. -/
theorem reply_of_waitsFor {waited : Option Nat} (hs : q.Sound) (hw : WaitsFor q limit waited) (r : Reply) :
    (q.reply r).gate = q.gate.record r ∧ WaitsFor (q.reply r) limit waited := by
  refine ⟨hs.reply_gate hw.there r, ?_⟩
  have hnow : (q.reply r).now = q.now := by
    unfold Enquiry.reply
    split <;> rfl
  cases waited with
  | none => exact (Enquiry.reply_waiter q r).trans hw
  | some t =>
    obtain ⟨since, hwaiting, hclock⟩ := hw
    exact ⟨since, (Enquiry.reply_waiter q r).trans hwaiting, hnow.trans hclock⟩

/-- To a release that an event does not move on, the event is at most a reply. -/
theorem run_learns_of_beside {e : Event κ} (hs : q.Sound) (hg : w.gate? = some gate)
    (hgate : w.gates[gate]? = some q.gate) (hl : w.controller.limit = limit)
    (hw : WaitsFor q limit w.waited?) (he : w.concerns e = false) :
    let q' := q.run (w.learns gate e).toList
    q'.gate = e.upon gate q.gate ∧ WaitsFor q' limit w.waited? := by
  obtain ⟨p, hasking⟩ := gate?_eq_some.mp hg
  cases e with
  | answer i accepted =>
    by_cases hi : i = gate
    · subst hi
      have hlearns : w.learns i (.answer i accepted) = some (.replies (.answered accepted)) := by
        simp [learns, hg, Event.own]
      have hupon : Event.upon i (.answer i accepted : Event κ) q.gate = q.gate.record (.answered accepted) := by
        simp [Event.upon, Event.own]
      rw [hlearns, hupon]
      exact reply_of_waitsFor hs hw (.answered accepted)
    · simpa [learns, hg, Event.own, Event.upon, hi] using hw
  | abandon i =>
    by_cases hi : i = gate
    · subst hi
      have hlearns : w.learns i (.abandon i) = some (.replies .dropped) := by simp [learns, hg, Event.own]
      have hupon : Event.upon i (.abandon i : Event κ) q.gate = q.gate.record .dropped := by
        simp [Event.upon, Event.own]
      rw [hlearns, hupon]
      exact reply_of_waitsFor hs hw .dropped
    · simpa [learns, hg, Event.own, Event.upon, hi] using hw
  | callbackReturns =>
    -- The wait has begun before, or this would begin it.
    rcases hasking with hst | ⟨t, hst⟩
    · simp [concerns, hst] at he
    · have hbegun : q.waiter ≠ .ready := by
        have hwaited : w.waited? = some t := by simp [waited?, hst]
        rw [hwaited] at hw
        obtain ⟨since, hwaiting, -⟩ := hw
        rw [hwaiting]
        intro heq
        cases heq
      have hsame : q.step (.begins w.controller.limit) = q := Enquiry.beginWait_of_begun hbegun _
      simpa [learns, hg, Event.own, Event.upon, hsame] using hw
  | pass ms =>
    rcases hasking with hst | ⟨t, hst⟩
    · have hwaited : w.waited? = none := by simp [waited?, hst]
      rw [hwaited] at hw ⊢
      have hlearns : w.learns gate (.pass ms) = some (.passes ms) := by simp [learns, hg, Event.own]
      rw [hlearns]
      exact ⟨rfl, hw⟩
    · simp [concerns, hst] at he
  | cancel =>
    rcases hasking with hst | ⟨t, hst⟩
    · simpa [learns, hg, Event.own, Event.upon, waited?, hst] using hw
    · simp [concerns, hst] at he
  | poll =>
    have hsilent : q.heard = none := by
      rw [heard_eq hg hgate hl hw]
      rcases hasking with hst | ⟨t, hst⟩
      · simp [heard, hst]
      · simpa [concerns, hst] using he
    have hsame : q.step .looks = q := Enquiry.look_of_silent hsilent
    simpa [learns, hg, Event.own, Event.upon, hsame] using hw
  | _ => simpa [learns, hg, Event.own, Event.upon] using hw

/-- An event that lets a release be is none in which it obtains its confirmation. -/
theorem obtains_of_beside {e : Event κ} (he : w.concerns e = false) : w.obtains gate e = none := by
  cases e with
  | poll =>
    unfold obtains
    by_cases hg : w.gate? = some gate
    · obtain ⟨p, hst | ⟨t, hst⟩⟩ := gate?_eq_some.mp hg
      · simp [heard, hst]
      · have hnone : w.heard = none := by simpa [concerns, hst] using he
        simp [hnone]
    · simp [hg]
  | _ => rfl

/-- **One step of a release in progress** and of the enquiry beside it. -/
theorem alongside_underway (hs : q.Sound) (hg : w.gate? = some gate) (hgate : w.gates[gate]? = some q.gate)
    (hl : w.controller.limit = limit) (hw : WaitsFor q limit w.waited?) (e : Event κ) :
    let q' := q.run (w.learns gate e).toList
    Alongside gate limit q' (w.step e).1 ∧ q'.waiter.outcome = w.obtains gate e := by
  intro q'
  obtain ⟨p, hasking⟩ := gate?_eq_some.mp hg
  have hlt : gate < w.gates.length := by
    obtain ⟨hlt, _⟩ := List.getElem?_eq_some_iff.mp hgate
    exact hlt
  have hrelease := releaseStep_of_releasing hasking.releasing e
  generalize w.step e = next at hrelease ⊢
  cases hrelease with
  | beside he hn =>
    obtain ⟨hupon, hw'⟩ := run_learns_of_beside hs hg hgate hl hw he
    rw [obtains_of_beside he]
    refine ⟨.underway (w := w.amid e) hg ?_ hl hw', Enquiry.outcome_of_there hw'.there⟩
    show (e.onGates w.gates)[gate]? = some q'.gate
    rw [getElem?_onGates, hgate, hupon]
    rfl
  | settles hs => exact absurd hs hasking.not_ending
  | begins hst =>
    obtain ⟨rfl, rfl⟩ := hasking.of_calling hst
    have hready : WaitsFor q limit none := by simpa [waited?, hst] using hw
    have hrun : q' = { q with waiter := .waiting limit q.now } := by
      show q.run (w.learns gate .callbackReturns).toList = _
      rw [show w.learns gate .callbackReturns = some (.begins limit) by simp [learns, hg, Event.own, hl]]
      exact Enquiry.beginWait_of_ready hready limit
    rw [hrun]
    exact ⟨.underway (w := { w with controller := w.controller.await, stage := .waiting p gate 0 })
      rfl hgate hl ⟨q.now, rfl, rfl⟩, rfl⟩
  | @passes _ _ t ms hst =>
    obtain ⟨rfl, rfl⟩ := hasking.of_waiting hst
    obtain ⟨since, hwaiting, hnow⟩ : WaitsFor q limit (some t) := by simpa [waited?, hst] using hw
    have hrun : q' = q.pass ms := by
      show q.run (w.learns gate (.pass ms)).toList = _
      rw [show w.learns gate (.pass ms) = some (.passes ms) by simp [learns, hg, Event.own]]
      rfl
    rw [hrun]
    refine ⟨.underway (w := { w with stage := .waiting p gate (t + ms) }) rfl hgate hl
      ⟨since, hwaiting, ?_⟩, Enquiry.outcome_of_there ?_⟩
    · show q.now + ms = since + (t + ms)
      omega
    · show q.waiter.done = false
      rw [hwaiting]
      rfl
  | @concludes _ _ t c hst hc =>
    obtain ⟨rfl, rfl⟩ := hasking.of_waiting hst
    have hheard : q.heard = some c := (heard_eq hg hgate hl hw).trans hc
    obtain ⟨since, hwaiting, -⟩ : WaitsFor q limit (some t) := by simpa [waited?, hst] using hw
    have hrun : q' = { q with gate := q.gate.close, waiter := .settled limit since c q.now } := by
      show q.run (w.learns gate .poll).toList = _
      rw [show w.learns gate .poll = some .looks by simp [learns, hg, Event.own]]
      exact Enquiry.look_of_verdict hwaiting ((Enquiry.heard_of_waiting hwaiting).symm.trans hheard)
    have hobtains : w.obtains gate .poll = some c := by simp [obtains, hg, hc]
    rw [hrun, hobtains]
    exact ⟨.ended (Or.inr ⟨since, c, q.now, rfl⟩) (by simp [gate?]) (by simpa using hlt), rfl⟩
  | @cancels _ _ t hst =>
    obtain ⟨rfl, rfl⟩ := hasking.of_waiting hst
    have hrun : q' = { q with gate := q.gate.close, waiter := .gone } := by
      show q.run (w.learns gate .cancel).toList = _
      rw [show w.learns gate .cancel = some .leaves by simp [learns, hg, waited?, hst]]
      exact Enquiry.leave_of_there hw.there
    rw [hrun]
    exact ⟨.ended (Or.inl rfl) (by simp [gate?]) (by simpa using hlt), rfl⟩

/-- The gates after a step: there are no fewer, and the gate of a release in progress is the same one, or a
    new one. -/
theorem gate?_step (w : Scene κ) (e : Event κ) :
    w.gates.length ≤ (w.step e).1.gates.length ∧
      ((w.step e).1.gate? = w.gate? ∨ (w.step e).1.gate? = none ∨
        (w.step e).1.gate? = some w.gates.length) := by
  cases hreleasing : w.releasing with
  | true =>
    have hrelease := releaseStep_of_releasing hreleasing e
    generalize w.step e = next at hrelease ⊢
    cases hrelease with
    | beside he hn => exact ⟨Nat.le_of_eq (length_onGates e w.gates).symm, Or.inl rfl⟩
    | settles hs => exact ⟨Nat.le_refl _, Or.inr (Or.inl rfl)⟩
    | begins hs => exact ⟨Nat.le_refl _, Or.inl (by simp [gate?, hs])⟩
    | passes ms hs => exact ⟨Nat.le_refl _, Or.inl (by simp [gate?, hs])⟩
    | concludes hs hc => exact ⟨by simp, Or.inr (Or.inl rfl)⟩
    | cancels hs => exact ⟨by simp, Or.inr (Or.inl rfl)⟩
  | false =>
    rcases step_idle hreleasing e with ⟨hnone, hgates, _⟩ | ⟨p, _, hstage, hgates, _⟩
    · exact ⟨Nat.le_of_eq (by rw [hgates, length_onGates]), Or.inr (Or.inl hnone)⟩
    · exact ⟨by simp [hgates], Or.inr (Or.inr (by simp [gate?, hstage]))⟩

/-- A release that is given up while it waits is over. -/
theorem gate?_cancel (h : w.waited?.isSome = true) : (w.step .cancel).1.gate? = none := by
  show w.cancel.gate? = none
  unfold waited? at h
  unfold cancel
  cases hst : w.stage with
  | waiting p gate waited => rfl
  | _ => simp [hst] at h

/-- A release that is over stays over. -/
theorem ended_step (hg : w.gate? ≠ some gate) (hlt : gate < w.gates.length) (e : Event κ) :
    (w.step e).1.gate? ≠ some gate ∧ gate < (w.step e).1.gates.length := by
  obtain ⟨hlength, hstep⟩ := gate?_step w e
  refine ⟨?_, Nat.lt_of_lt_of_le hlt hlength⟩
  rcases hstep with hsame | hnone | hnew
  · rw [hsame]
    exact hg
  · simp [hnone]
  · rw [hnew]
    intro heq
    exact absurd (Option.some.inj heq) (Nat.ne_of_gt hlt)

/-- **One step** keeps an enquiry beside a scene, and both obtain the same. -/
theorem alongside_step (hs : q.Sound) (h : Alongside gate limit q w) (e : Event κ) :
    Alongside gate limit (q.run (w.learns gate e).toList) (w.step e).1 ∧
      (q.run (w.learns gate e).toList).waiter.outcome = q.waiter.outcome.or (w.obtains gate e) := by
  cases h with
  | underway hg hgate hl hw =>
    rw [Enquiry.outcome_of_there hw.there, Option.none_or]
    exact alongside_underway hs hg hgate hl hw e
  | ended hd hg hlt =>
    obtain ⟨hg', hlt'⟩ := ended_step hg hlt e
    have hlearns : w.learns gate e = none := if_neg hg
    have hobtains : w.obtains gate e = none := by
      cases e with
      | poll => simp [obtains, hg]
      | _ => rfl
    rw [hlearns, hobtains]
    exact ⟨.ended hd hg' hlt', by simp⟩

/-! ## Whole runs -/

/-- **An enquiry obtains what the release obtains,** and is where the release is in the end. -/
theorem alongside_run (hs : q.Sound) (h : Alongside gate limit q w) (es : List (Event κ)) :
    Alongside gate limit (q.run (w.history gate es)) (w.run es) ∧
      (q.run (w.history gate es)).waiter.outcome = q.waiter.outcome.or (w.confirmation gate es) := by
  induction es generalizing w q with
  | nil => exact ⟨h, by simp [confirmation, history]⟩
  | cons e rest ih =>
    obtain ⟨hnext, hobtains⟩ := alongside_step hs h e
    obtain ⟨hrest, hconfirmation⟩ := ih (Enquiry.sound_run hs _) hnext
    rw [history, Enquiry.run_append]
    refine ⟨hrest, ?_⟩
    rw [hconfirmation, hobtains, Option.or_assoc]
    rfl

/-- What a release learns concerns it. -/
theorem own_of_learns {e : Event κ} {o : Enquiry.Event} (h : w.learns gate e = some o) :
    w.gate? = some gate ∧ e.own gate w.controller.limit = some o := by
  unfold learns at h
  by_cases hg : w.gate? = some gate
  · rw [if_pos hg] at h
    cases e with
    | cancel =>
      obtain ⟨t, -, rfl⟩ := Option.map_eq_some_iff.mp h
      exact ⟨hg, rfl⟩
    | _ => exact ⟨hg, h⟩
  · rw [if_neg hg] at h
    cases h

/-- What concerns a release in progress without being learnt is that it is given up too early. -/
theorem eq_leaves_of_not_learnt {e : Event κ} {o : Enquiry.Event} (hg : w.gate? = some gate)
    (h : w.learns gate e = none) (ho : e.own gate w.controller.limit = some o) : o = .leaves := by
  unfold learns at h
  rw [if_pos hg] at h
  cases e with
  | cancel => exact (Option.some.inj ho).symm
  | _ => exact absurd (h.symm.trans ho) nofun

/-- A release that looks promptly is a prompt enquiry. -/
theorem prompt_history {es : List (Event κ)} (hs : q.Sound) (h : Alongside gate limit q w)
    (hp : w.Prompt gate es) : q.Prompt (w.history gate es) := by
  induction es generalizing w q with
  | nil => exact trivial
  | cons e rest ih =>
    obtain ⟨hprompt, hrest⟩ := hp
    obtain ⟨hnext, _⟩ := alongside_step hs h e
    have hlater := ih (Enquiry.sound_run hs _) hnext hrest
    rw [history]
    cases hlearns : w.learns gate e with
    | none =>
      rw [hlearns] at hlater
      exact hlater
    | some o =>
      rw [hlearns] at hlater
      obtain ⟨hasks, hown⟩ := own_of_learns hlearns
      refine ⟨fun hheard => ?_, hlater⟩
      cases h with
      | underway hg hgate hl hw =>
        rw [heard_eq hg hgate hl hw] at hheard
        have hdelays := hprompt hg hheard
        rw [hown] at hdelays
        exact hdelays
      | ended hd hg hlt => exact absurd hasks hg

theorem history_of_ended (hg : w.gate? ≠ some gate) (hlt : gate < w.gates.length) (es : List (Event κ)) :
    w.history gate es = [] := by
  induction es generalizing w with
  | nil => rfl
  | cons e rest ih =>
    obtain ⟨hg', hlt'⟩ := ended_step hg hlt e
    rw [history, show w.learns gate e = none from if_neg hg, ih hg' hlt']
    rfl

/-- What is done first to the handle of a release is done while it is in progress, or else later. -/
theorem deed_history (hs : q.Sound) (h : Alongside gate limit q w) (es : List (Event κ))
    (waited : Option Nat) :
    ∃ later, Enquiry.deed waited (es.filterMap (Event.own gate limit)) =
      Enquiry.deed waited (w.history gate es ++ later) := by
  induction es generalizing w q waited with
  | nil => exact ⟨[], rfl⟩
  | cons e rest ih =>
    obtain ⟨hnext, _⟩ := alongside_step hs h e
    have hrest := ih (Enquiry.sound_run hs _) hnext
    cases h with
    | ended hd hg hlt =>
      rw [history_of_ended hg hlt]
      exact ⟨_, rfl⟩
    | underway hg hgate hl hw =>
      rw [history]
      cases hlearns : w.learns gate e with
      | none =>
        cases hown : e.own gate limit with
        | none =>
          rw [List.filterMap_cons_none hown]
          exact hrest waited
        | some o =>
          -- To be given up is nothing that is done to the handle.
          have ho : o = .leaves := eq_leaves_of_not_learnt hg hlearns (by rw [hl]; exact hown)
          rw [List.filterMap_cons_some hown, ho]
          exact hrest waited
      | some o =>
        rw [List.filterMap_cons_some (hl ▸ (own_of_learns hlearns).2)]
        cases o with
        | begins limit' => exact hrest (some (waited.getD 0))
        | passes ms => exact hrest (waited.map (· + ms))
        | replies r => exact ⟨[], rfl⟩
        | looks => exact hrest waited
        | leaves => exact hrest waited

/-- An enquiry that has heard something is over with that, and so is the release. -/
theorem Alongside.of_outcome {c : Confirmation} (h : Alongside gate limit q w)
    (hc : q.waiter.outcome = some c) :
    w.gate? ≠ some gate ∧ ∃ since moment, q.waiter = .settled limit since c moment := by
  cases h with
  | underway hg hgate hl hw =>
    rw [Enquiry.outcome_of_there hw.there] at hc
    cases hc
  | ended hd hg hlt =>
    rcases hd with hd | ⟨since, c', moment, hd⟩
    · rw [hd] at hc
      cases hc
    · rw [hd] at hc
      cases hc
      exact ⟨hg, since, moment, hd⟩

/-- **What a prompt release obtains** is what the first deed at its handle is worth at that moment. -/
theorem confirmation_of_prompt {es : List (Event κ)} {c : Confirmation}
    (h : Alongside gate limit .fresh w) (hp : w.Prompt gate es) (hc : w.confirmation gate es = some c) :
    (Exchange.run limit (w.deed gate es).1 (w.deed gate es).2).confirmation = some c := by
  have hprompt := prompt_history Enquiry.sound_fresh h hp
  obtain ⟨later, hdeed⟩ := deed_history Enquiry.sound_fresh h es none
  obtain ⟨hend, hconfirmation⟩ := alongside_run Enquiry.sound_fresh h es
  rw [hc] at hconfirmation
  have hl : w.controller.limit = limit := by
    cases h with
    | underway hg hgate hl hw => exact hl
    | ended hd hg hlt => rcases hd with hd | ⟨_, _, _, hd⟩ <;> cases hd
  obtain ⟨_, since, moment, hsettled⟩ := hend.of_outcome hconfirmation
  unfold deed
  rw [hl, hdeed]
  exact Enquiry.exchange_of_prompt Enquiry.sound_fresh Enquiry.dated_fresh rfl rfl hprompt hsettled later

end Kanban.Scene
