import Kanban.Proofs.Drag.Alongside

/-!
# `Proofs.Drag.Handles` — confirmations do not cross

Many releases may have asked before, and their handles may still be about. Only the gate of the release in
progress is listened to, and what a release obtains there an enquiry obtains that knows of nothing else. So
two releases to which the same happens obtain the same, whatever becomes of all other handles.

## Contents
- `OneListener` and `oneListener_step`: only the gate of the release in progress is listened to.
- `step_stale`: answers that come too late.
- `confirmation_of_own_handle`: two runs, and stale handles.
-/

namespace Kanban.Scene

variable {κ : Type} {w : Scene κ} {gate : Nat}

/-! ## Stale handles -/

/-- Only the gate of the release in progress is listened to. -/
structure OneListener (w : Scene κ) : Prop where
  bound : ∀ i, w.gate? = some i → i < w.gates.length
  closed : ∀ (i : Nat) (g : Gate), w.gates[i]? = some g → w.gate? ≠ some i → g.listening = false

theorem oneListener_new (c : Controller κ) (s : Commons) : (Scene.new c s).OneListener :=
  ⟨fun _ h => (by cases h), fun _ _ h => (by cases h)⟩

theorem upon_listening (gate : Nat) (e : Event κ) (g : Gate) :
    (e.upon gate g).listening = g.listening := by
  unfold Event.upon
  split <;> simp

/-- Answers of others open no gate. -/
theorem closed_onGates (h : w.OneListener) (e : Event κ) {i : Nat} {g : Gate}
    (hg : (e.onGates w.gates)[i]? = some g) (hi : w.gate? ≠ some i) : g.listening = false := by
  rw [getElem?_onGates, Option.map_eq_some_iff] at hg
  obtain ⟨g', hg', rfl⟩ := hg
  rw [upon_listening]
  exact h.closed i g' hg' hi

/-- A release that is over closes its gate. -/
theorem closed_close (h : w.OneListener) (hgate : w.gate? = some gate) {i : Nat} {g : Gate}
    (hg : (w.gates.modify gate Gate.close)[i]? = some g) : g.listening = false := by
  rw [List.getElem?_modify] at hg
  obtain ⟨g', hg', hclose⟩ := Option.map_eq_some_iff.mp hg
  by_cases hi : gate = i
  · rw [if_pos hi] at hclose
    rw [← hclose]
    rfl
  · rw [if_neg hi] at hclose
    refine h.closed i g (hclose ▸ hg') ?_
    rw [hgate]
    intro heq
    exact hi (Option.some.inj heq)

/-- **One step** keeps it so. -/
theorem oneListener_step (h : w.OneListener) (e : Event κ) : (w.step e).1.OneListener := by
  cases hreleasing : w.releasing with
  | true =>
    have hrelease := releaseStep_of_releasing hreleasing e
    generalize w.step e = next at hrelease ⊢
    cases hrelease with
    | beside he hn =>
      refine ⟨fun i hi => ?_, fun i g hg hi => closed_onGates h e hg hi⟩
      show i < (e.onGates w.gates).length
      rw [length_onGates]
      exact h.bound i hi
    | settles hs =>
      exact ⟨fun _ hi => (by cases hi), fun i g hg _ => h.closed i g hg (by simp [gate?, hs])⟩
    | @begins _ gate hs =>
      have hgate : w.gate? = some gate := by simp only [gate?, hs]
      exact ⟨fun i hi => h.bound i (hgate.trans hi), fun i g hg hi => h.closed i g hg (hgate ▸ hi)⟩
    | @passes _ gate _ ms hs =>
      have hgate : w.gate? = some gate := by simp only [gate?, hs]
      exact ⟨fun i hi => h.bound i (hgate.trans hi), fun i g hg hi => h.closed i g hg (hgate ▸ hi)⟩
    | concludes hs hc =>
      exact ⟨fun _ hi => (by cases hi), fun i g hg _ => closed_close h (by simp only [gate?, hs]) hg⟩
    | cancels hs =>
      exact ⟨fun _ hi => (by cases hi), fun i g hg _ => closed_close h (by simp only [gate?, hs]) hg⟩
  | false =>
    have hidle : w.gate? = none := gate?_of_idle hreleasing
    rcases step_idle hreleasing e with ⟨hnone, hgates, _⟩ | ⟨p, _, hstage, hgates, _⟩
    · refine ⟨fun i hi => (by rw [hnone] at hi; cases hi), fun i g hg _ => ?_⟩
      rw [hgates] at hg
      exact closed_onGates h e hg (by simp [hidle])
    · have hgate : (w.step e).1.gate? = some w.gates.length := by simp [gate?, hstage]
      refine ⟨fun i hi => ?_, fun i g hg hi => ?_⟩
      · rw [hgate] at hi
        cases hi
        simp [hgates]
      · -- The new gate is the one of the release in progress.
        rw [hgates, List.getElem?_append] at hg
        rw [hgate] at hi
        by_cases hlt : i < w.gates.length
        · rw [if_pos hlt] at hg
          exact h.closed i g hg (by simp [hidle])
        · rw [if_neg hlt] at hg
          have hzero : i - w.gates.length < 1 := by
            obtain ⟨hbound, _⟩ := List.getElem?_eq_some_iff.mp hg
            simpa using hbound
          exact absurd (congrArg some (by omega : w.gates.length = i)) hi

theorem oneListener_run (h : w.OneListener) (es : List (Event κ)) : (w.run es).OneListener := by
  induction es generalizing w with
  | nil => exact h
  | cons e rest ih => exact ih (oneListener_step h e)

/-- What nobody hears changes no gate. -/
theorem modify_of_closed (h : w.OneListener) (hg : w.gate? ≠ some gate) (r : Reply) :
    w.gates.modify gate (fun g => g.record r) = w.gates := by
  apply List.ext_getElem?
  intro i
  rw [List.getElem?_modify]
  by_cases hi : gate = i
  · subst hi
    cases hget : w.gates[gate]? with
    | none => rfl
    | some g => simp [Gate.record_of_closed (h.closed gate g hget hg)]
  · simp [hi]

/-- **A stale answer** is told that nobody was there, and changes nothing at all. -/
theorem step_stale (h : w.OneListener) (hg : w.gate? ≠ some gate) (accepted : Bool) :
    w.step (.answer gate accepted) = (w, .flag false) ∧ w.step (.abandon gate) = (w, .nothing) := by
  constructor
  · have hgates : w.gates.modify gate (fun g => (g.resolve accepted).1) = w.gates :=
      modify_of_closed h hg (.answered accepted)
    have hflag : ((w.gates[gate]?.map fun g => (g.resolve accepted).2).getD false) = false := by
      cases hget : w.gates[gate]? with
      | none => rfl
      | some g => simp [Gate.resolve, h.closed gate g hget hg]
    simp only [step, updateGate, hgates, hflag]
  · have hgates : w.gates.modify gate Gate.abandon = w.gates := modify_of_closed h hg .dropped
    simp only [step, updateGate, hgates]

/-! ## Every release -/

/-- A release that calls asks at a gate of its own, which nobody has touched. -/
theorem alongside_fresh (h : (w.step .release).2.call.isSome = true) :
    Alongside w.gates.length w.controller.limit .fresh (w.step .release).1 := by
  cases hreleasing : w.releasing with
  | true =>
    rw [call_of_releasing hreleasing] at h
    cases h
  | false =>
    rcases step_idle hreleasing .release with ⟨_, _, hcall⟩ | ⟨p, _, hstage, hgates, hlimit⟩
    · rw [hcall] at h
      cases h
    · have hgate : (w.step .release).1.gate? = some w.gates.length := by simp [gate?, hstage]
      have hfresh : (w.step .release).1.gates[w.gates.length]? = some Gate.fresh := by simp [hgates]
      have hwaited : (w.step .release).1.waited? = none := by simp [waited?, hstage]
      refine .underway hgate hfresh hlimit ?_
      rw [hwaited]
      rfl

/-- **Confirmations do not cross.** Take two releases that call, in any two runs, whatever releases have been
    before them and whatever becomes of all other handles, and let their limits be the same.
    - If the same happens to them and their own handles while they are in progress, they obtain the same
      confirmation or both none.
    - If they look as soon as there is something to hear, it is enough that the same is done first to their
      own handles, timed from the beginning of the wait: what they obtain is what that is worth then.
    - A release that has obtained its confirmation is over, and one that is given up while it waits.
    - An answer to a handle whose release is over, be it one of these or any other, returns `false` and
      changes nothing in the scene. Neither does dropping such a handle. -/
theorem confirmation_of_own_handle {κ' : Type} (c : Controller κ) (s : Commons)
    (before es : List (Event κ)) (c' : Controller κ') (s' : Commons) (before' es' : List (Event κ')) :
    let w := (Scene.new c s).run before
    let w' := (Scene.new c' s').run before'
    let v := (w.step .release).1
    let v' := (w'.step .release).1
    let gate := w.gates.length
    let gate' := w'.gates.length
    (w.step .release).2.call.isSome = true → (w'.step .release).2.call.isSome = true →
      w.controller.limit = w'.controller.limit →
        (v.history gate es = v'.history gate' es' → v.confirmation gate es = v'.confirmation gate' es') ∧
        (v.Prompt gate es → v'.Prompt gate' es' → v.deed gate es = v'.deed gate' es' → ∀ a a',
          v.confirmation gate es = some a → v'.confirmation gate' es' = some a' →
            a = a' ∧ (Exchange.run w.controller.limit (v.deed gate es).1 (v.deed gate es).2).confirmation =
              some a) ∧
        ((v.confirmation gate es).isSome = true → (v.run es).gate? ≠ some gate) ∧
        ((v.run es).waited?.isSome = true → ((v.run es).step .cancel).1.gate? = none) ∧
        ∀ i, (v.run es).gate? ≠ some i → ∀ accepted,
          (v.run es).step (.answer i accepted) = (v.run es, .flag false) ∧
            (v.run es).step (.abandon i) = (v.run es, .nothing) := by
  intro w w' v v' gate gate' hcall hcall' hlimit
  have hv : Alongside gate w.controller.limit .fresh v := alongside_fresh hcall
  have hv' : Alongside gate' w.controller.limit .fresh v' := by
    rw [hlimit]
    exact alongside_fresh hcall'
  obtain ⟨hend, hconfirmation⟩ := alongside_run Enquiry.sound_fresh hv es
  obtain ⟨_, hconfirmation'⟩ := alongside_run Enquiry.sound_fresh hv' es'
  refine ⟨?_, ?_, ?_, gate?_cancel, ?_⟩
  · intro hhistory
    -- Both obtain what an enquiry with this history obtains.
    rw [← hhistory] at hconfirmation'
    exact hconfirmation.symm.trans hconfirmation'
  · intro hp hp' hdeed a a' ha ha'
    have hexchange := confirmation_of_prompt hv hp ha
    have hexchange' := confirmation_of_prompt hv' hp' ha'
    rw [← hdeed, hexchange] at hexchange'
    exact ⟨Option.some.inj hexchange', hexchange⟩
  · intro hsome
    obtain ⟨a, ha⟩ := Option.isSome_iff_exists.mp hsome
    rw [ha] at hconfirmation
    exact (hend.of_outcome hconfirmation).1
  · intro i hi accepted
    have hone : (v.run es).OneListener :=
      oneListener_run (oneListener_step (oneListener_run (oneListener_new c s) before) .release) es
    exact step_stale hone hi accepted

/-- A card is carried to another column. -/
def carried : List (Event Unit) := [.start "c1" 0, .dropOn "done"]

/-- Two columns, a card, and fifty milliseconds for each release. -/
def furnished : List (Event Unit) :=
  [.edit (.addContainer "todo" true), .edit (.addContainer "done" true), .edit (.addCard "todo" "c1" .null 100),
    .registerZone "done" (some ()), .registerDraggable "c1" true, .setLimit (some 50)]

/-- A first release has timed out, and its handle is still about. -/
def timedOutOnce : List (Event Unit) :=
  furnished ++ carried ++ [.release, .callbackReturns, .pass 50, .poll] ++ carried

/-- While the second release waits, the first handle is answered with yes, and then the second with no. -/
def answeredLate : List (Event Unit) :=
  [.callbackReturns, .pass 10, .answer 0 true, .poll, .pass 10, .answer 1 false, .poll]

/-- A first release is answered with no after the same time. -/
def answeredAlone : List (Event Unit) := [.callbackReturns, .pass 20, .answer 0 false, .poll]

/-- The yes to the first release does not reach the second, which obtains what it would obtain alone. -/
theorem confirmation_of_own_handle_late :
    let first : Scene Unit := Scene.new (Controller.new ⟨⟨0, 500⟩, 500, 0⟩) (.ofBoard .empty)
    let v := ((first.run timedOutOnce).step .release).1
    let v' := ((first.run (furnished ++ carried)).step .release).1
    ((first.run timedOutOnce).step .release).2.call.isSome = true ∧
      ((first.run (furnished ++ carried)).step .release).2.call.isSome = true ∧
      (first.run timedOutOnce).controller.limit = (first.run (furnished ++ carried)).controller.limit ∧
      v.Prompt 1 answeredLate ∧ v'.Prompt 0 answeredAlone ∧
      v.deed 1 answeredLate = v'.deed 0 answeredAlone ∧
      v.confirmation 1 answeredLate = some .rejected ∧
      v'.confirmation 0 answeredAlone = some .rejected ∧
      (v.run answeredLate).step (.answer 0 true) = (v.run answeredLate, .flag false) := by
  have hmain := confirmation_of_own_handle (Controller.new ⟨⟨0, 500⟩, 500, 0⟩) (.ofBoard .empty)
    timedOutOnce answeredLate (Controller.new ⟨⟨0, 500⟩, 500, 0⟩) (.ofBoard .empty)
    (furnished ++ carried) answeredAlone
  have hfacts :
      let first : Scene Unit := Scene.new (Controller.new ⟨⟨0, 500⟩, 500, 0⟩) (.ofBoard .empty)
      let v := ((first.run timedOutOnce).step .release).1
      let v' := ((first.run (furnished ++ carried)).step .release).1
      (((first.run timedOutOnce).step .release).2.call.isSome = true ∧
        ((first.run (furnished ++ carried)).step .release).2.call.isSome = true ∧
        (first.run timedOutOnce).controller.limit = (first.run (furnished ++ carried)).controller.limit) ∧
      ((first.run timedOutOnce).gates.length = 1 ∧ (first.run (furnished ++ carried)).gates.length = 0) ∧
      v.Prompt 1 answeredLate ∧ v'.Prompt 0 answeredAlone ∧
      v.deed 1 answeredLate = v'.deed 0 answeredAlone ∧
      (v.confirmation 1 answeredLate).isSome = true ∧
      v'.confirmation 0 answeredAlone = some .rejected ∧ (v.run answeredLate).gate? ≠ some 0 := by
    decide +kernel
  -- From here on the first scene is whatever it is; only these facts about it matter.
  generalize (Scene.new (Controller.new ⟨⟨0, 500⟩, 500, 0⟩) (.ofBoard .empty) : Scene Unit) = first
    at hmain hfacts ⊢
  intro _ v v'
  obtain ⟨⟨hcall, hcall', hlimit⟩, ⟨hone, hzero⟩, hp, hp', hdeed, hsome, ha', hover⟩ := hfacts
  obtain ⟨_, hprompt, _, _, hstale⟩ := hmain hcall hcall' hlimit
  rw [hone, hzero] at hprompt
  obtain ⟨a, ha⟩ := Option.isSome_iff_exists.mp hsome
  obtain ⟨haa', _⟩ := hprompt hp hp' hdeed a .rejected ha ha'
  exact ⟨hcall, hcall', hlimit, hp, hp', hdeed, haa' ▸ ha, ha', (hstale 0 hover true).1⟩

end Kanban.Scene
