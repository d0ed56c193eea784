import Kanban.Proofs.Confirmation.Punctual

/-!
# `Proofs.Confirmation.Exchange` — one answer and one wait

In an exchange on a clock the handle is used once or kept, at a time of its own, and the waiting end waits
out. It is what a punctual executor makes of both ends. An executor that is late, but lets nobody act while
there is something to hear, comes to the same outcome.

## Contents
- `script`, `exchange_eq_punctually`: an exchange is a punctual enquiry.
- `deed`: what the answering end does first, timed from the beginning of the wait; `Prompt`: a wait that looks
  before it is too late.
- `exchange_of_prompt`: a prompt wait obtains what an exchange comes to.
-/

namespace Kanban.Enquiry

variable {q : Enquiry} {limit : Option Nat} {since moment : Nat} {c : Confirmation} {r : Reply}

/-! ## One answer and one wait -/

/-- What happens in an exchange: the handle is used or kept, at its time, and whoever waits waits out. -/
def script (limit : Option Nat) (answer : Answer) (timing : Timing) : List Event :=
  let acts : List Event :=
    match answer with
    | .resolve accepted => [.replies (.answered accepted)]
    | .abandon => [.replies .dropped]
    | .keep => []
  match timing with
  | .before => acts ++ [.begins limit, .passes (limit.getD 0)]
  | .during after => [.begins limit, .passes after] ++ acts ++ [.passes (limit.getD 0)]
  | .unattended => .leaves :: acts

/-- A punctual wait after a time in which nothing has come from the other end. -/
theorem punctually_wait (limit : Option Nat) (after : Nat) :
    fresh.punctually [.begins limit, .passes after] =
      match Gate.fresh.verdict limit after with
      | none => ⟨Gate.fresh, .held, .waiting limit 0, after⟩
      | some c => ⟨Gate.fresh.close, .held, .settled limit 0 c (limit.getD 0), after⟩ := by
  cases limit with
  | none => simp [punctually, act, step, beginWait, look, pass, alarm, fresh, Gate.verdict, Gate.fresh]
  | some l =>
    by_cases hzero : l = 0
    · subst hzero
      simp [punctually, act, step, beginWait, look, pass, alarm, fresh, Gate.verdict, Gate.fresh, Gate.close]
    · -- The alarm rings on the way if the time is long enough.
      by_cases hl : l ≤ after
      · simp [punctually, act, step, beginWait, look, pass, alarm, fresh, Gate.verdict, Gate.fresh,
          Gate.close, hzero, hl]
      · simp [punctually, act, step, beginWait, look, pass, alarm, fresh, Gate.verdict, Gate.fresh,
          hzero, hl]

theorem punctually_append (q : Enquiry) (es es' : List Event) :
    q.punctually (es ++ es') = (q.punctually es).punctually es' := List.foldl_append

/-- Waiting does nothing to the other end. -/
theorem look_handle (q : Enquiry) : q.look.handle = q.handle := by
  unfold look
  split
  · split <;> rfl
  · rfl

theorem passes_handle (q : Enquiry) (ms : Nat) : (q.act (.passes ms)).handle = q.handle := by
  unfold act
  dsimp only
  split
  · split
    · exact look_handle _
    · rfl
  · rfl

/-- What is left of an exchange while somebody waits whose limit is ahead. -/
theorem waitOut_eq_punctually (g : Gate) (h : Handle) (limit : Option Nat) (now : Nat)
    (hl : ∀ l, limit = some l → now < l) :
    let q := (look ⟨g, h, .waiting limit 0, now⟩).act (.passes (limit.getD 0))
    (Exchange.waitOut g h.told limit now).confirmation = q.waiter.outcome ∧
      (Exchange.waitOut g h.told limit now).delivered = q.handle.told := by
  intro q
  have hhandle : q.handle = h := (passes_handle _ _).trans (look_handle _)
  rw [hhandle]
  cases hv : g.verdict limit now with
  | some c =>
    have hlook := look_of_verdict (q := ⟨g, h, .waiting limit 0, now⟩) rfl hv
    rw [Exchange.waitOut_of_verdict hv]
    refine ⟨?_, rfl⟩
    simp only [q, hlook]
    rfl
  | none =>
    have hlook := look_of_none (q := ⟨g, h, .waiting limit 0, now⟩) rfl hv
    have hreply := Gate.reply_of_verdict hv
    simp only [q, hlook]
    cases limit with
    | none =>
      rw [Exchange.waitOut_unlimited hv]
      exact ⟨rfl, rfl⟩
    | some l =>
      have hlt := hl l rfl
      have hlate : l ≤ now + l := by omega
      have halarm : now + (l - now) = l := by omega
      rw [Exchange.waitOut_of_limit hv]
      refine ⟨?_, rfl⟩
      simp [act, alarm, hlate, pass, look, Gate.verdict, hreply, halarm, Waiter.outcome]

/-- **An exchange is a punctual enquiry.** -/
theorem exchange_eq_punctually (limit : Option Nat) (answer : Answer) (timing : Timing) :
    let q := fresh.punctually (script limit answer timing)
    (Exchange.run limit answer timing).confirmation = q.waiter.outcome ∧
      (Exchange.run limit answer timing).delivered = q.handle.told := by
  intro q
  cases timing with
  | unattended => cases answer <;> exact ⟨rfl, rfl⟩
  | before =>
    cases answer with
    | resolve accepted => cases limit <;> cases accepted <;> exact ⟨rfl, rfl⟩
    | abandon => cases limit <;> exact ⟨rfl, rfl⟩
    | keep =>
      cases limit with
      | none => exact ⟨rfl, rfl⟩
      | some l =>
        cases l with
        | zero => exact ⟨rfl, rfl⟩
        | succ l =>
          exact waitOut_eq_punctually Gate.fresh .held (some (l + 1)) 0 fun l' h => (by cases h; omega)
  | during after =>
    have hwait := punctually_wait limit after
    cases hv : Gate.fresh.verdict limit after with
    | some c =>
      -- The limit was reached on the way, so whatever the other end does comes too late.
      obtain ⟨l, rfl, hl, rfl⟩ := Gate.eq_timedOut_of_verdict hv
      rw [hv] at hwait
      simp only [q, script, punctually_append, hwait, Exchange.run, hv]
      cases answer <;> exact ⟨rfl, rfl⟩
    | none =>
      rw [hv] at hwait
      have hahead : ∀ l, limit = some l → after < l := by
        rintro l rfl
        exact Gate.lt_of_verdict hv
      have hout := fun g h => waitOut_eq_punctually g h limit after hahead
      simp only [q, script, punctually_append, hwait, Exchange.run, hv]
      cases answer with
      | resolve accepted => exact hout _ (.used (.answered accepted) (some true) after)
      | abandon => exact hout _ (.used .dropped none after)
      | keep =>
        have hlook : (⟨Gate.fresh, .held, .waiting limit 0, after⟩ : Enquiry).look = _ :=
          look_of_none rfl hv
        have hkept := hout Gate.fresh .held
        rw [hlook] at hkept
        exact hkept

/-! ## A prompt wait -/

/-- For how long somebody has waited, if somebody waits. -/
def waited (q : Enquiry) : Option Nat :=
  match q.waiter with
  | .waiting _ since => some (q.now - since)
  | _ => none

/-- What whoever waits hears in a look. -/
def heard (q : Enquiry) : Option Confirmation :=
  match q.waiter with
  | .waiting limit since => q.gate.verdict limit (q.now - since)
  | _ => none

/-- What the answering end does first, and when, where the wait has lasted for a time or has not begun. -/
def deed (waited : Option Nat) : List Event → Answer × Timing
  | [] => (.keep, .before)
  | .begins _ :: es => deed (some (waited.getD 0)) es
  | .passes ms :: es => deed (waited.map (· + ms)) es
  | .replies r :: _ => (r.answer, waited.elim .before .during)
  | .looks :: es | .leaves :: es => deed waited es

/-- Whether an event is one that a prompt wait lets nobody do while it has something to hear. -/
def Event.delays : Event → Bool
  | passes _ | replies _ => true
  | begins _ | looks | leaves => false

/-- No time passes, and the handle is not used, while there is something to hear. -/
def Prompt (q : Enquiry) : List Event → Prop
  | [] => True
  | e :: es => (q.heard.isSome = true → e.delays = false) ∧ (q.step e).Prompt es

/-- Whatever is done once the limit is reached is done too late. -/
theorem exchange_of_late {l t : Nat} (h : l ≤ t) (es : List Event) :
    (Exchange.run (some l) (deed (some t) es).1 (deed (some t) es).2).confirmation = some .timedOut := by
  induction es generalizing t with
  | nil => exact Exchange.run_kept l
  | cons e rest ih =>
    cases e with
    | begins limit => exact ih h
    | passes ms => exact ih (Nat.le_add_right_of_le h)
    | replies r => exact Exchange.run_late r.answer h
    | looks => exact ih h
    | leaves => exact ih h

theorem waited_of_waiting (hw : q.waiter = .waiting limit since) : q.waited = some (q.now - since) := by
  simp only [waited, hw]

theorem heard_of_waiting (hw : q.waiter = .waiting limit since) :
    q.heard = q.gate.verdict limit (q.now - since) := by
  simp only [heard, hw]

/-- Only somebody who waits hears anything. -/
theorem waiting_of_heard (h : q.heard = some c) :
    ∃ limit since, q.waiter = .waiting limit since ∧ q.gate.verdict limit (q.now - since) = some c := by
  cases hw : q.waiter with
  | waiting limit since => exact ⟨limit, since, rfl, (heard_of_waiting hw).symm.trans h⟩
  | ready | settled | gone => simp [heard, hw] at h

/-- A look of somebody who hears nothing changes nothing. -/
theorem look_of_silent (h : q.heard = none) : q.look = q := by
  cases hw : q.waiter with
  | waiting limit since => exact look_of_none hw ((heard_of_waiting hw).symm.trans h)
  | ready | settled | gone => exact look_of_idle (by intro limit since heq; rw [hw] at heq; cases heq)

/-- Time that passes is added to the wait. -/
theorem waited_pass (h : q.Dated) (ms : Nat) : (q.pass ms).waited = q.waited.map (· + ms) := by
  cases hw : q.waiter with
  | waiting limit since =>
    have hbegan := h.began limit since hw
    have hlater : q.now + ms - since = q.now - since + ms := by omega
    rw [waited_of_waiting hw, waited_of_waiting (q := q.pass ms) hw]
    exact congrArg some hlater
  | ready | settled | gone => simp [waited, pass, hw]

/-- A wait that has lasted for some time goes on, and another one begins. -/
theorem waited_beginWait (h : q.waiter.done = false) (limit : Option Nat) :
    (q.beginWait limit).waited = some (q.waited.getD 0) := by
  cases hw : q.waiter with
  | ready =>
    have hbegun : ({ q with waiter := .waiting limit q.now } : Enquiry).waited = some (q.now - q.now) := rfl
    rw [beginWait_of_ready hw, hbegun]
    simp [waited, hw]
  | waiting limit' since =>
    rw [beginWait_of_begun (by rw [hw]; exact nofun), waited_of_waiting hw]
    rfl
  | settled | gone => rw [hw] at h; cases h

/-- A prompt wait has nothing to hear when it is delayed. -/
theorem Prompt.silent {e : Event} {es : List Event} (h : q.Prompt (e :: es)) (he : e.delays = true) :
    q.heard = none := by
  cases hheard : q.heard with
  | none => rfl
  | some c =>
    rw [h.1 (by rw [hheard]; rfl)] at he
    cases he

/-- A reply that comes while there is nothing to hear is what an exchange with this reply comes to. -/
theorem exchange_of_reply {es : List Event} (hs : q.Sound) (hthere : q.waiter.done = false)
    (hnone : q.gate.reply = none) (hsilent : q.heard = none)
    (h : ((q.reply r).run es).waiter = .settled limit since c moment) :
    (Exchange.run limit r.answer (q.waited.elim .before .during)).confirmation = some c := by
  have hreply : (q.reply r).gate.reply = some r := by
    rw [hs.reply_gate hthere]
    exact Gate.reply_record (by rw [hs.listening, hthere]; rfl) hnone
  have hc : c = r.confirmation :=
    (sound_run (sound_reply hs r) es).heard r c (gate_reply_run hreply es) (by rw [h]; rfl)
  rw [hc]
  cases hw : q.waiter with
  | ready =>
    have hwaited : q.waited = none := by simp only [waited, hw]
    rw [hwaited]
    exact Exchange.run_replied limit r
  | waiting limit' since' =>
    obtain ⟨rfl, rfl⟩ := settled_of_waiting ((reply_waiter q r).trans hw) h
    rw [waited_of_waiting hw]
    refine Exchange.run_replied_during r ?_
    rw [← Gate.verdict_of_none hnone, ← heard_of_waiting hw, hsilent]
  | settled | gone => rw [hw] at hthere; cases hthere

/-- **A prompt wait obtains what an exchange comes to:** what the next thing done at its handle is worth at
    that moment. What is done after its end makes no difference. -/
theorem exchange_of_prompt {es : List Event} (hs : q.Sound) (hd : q.Dated) (hh : q.handle = .held)
    (hthere : q.waiter.done = false) (hp : q.Prompt es) (h : (q.run es).waiter = .settled limit since c moment)
    (later : List Event) :
    (Exchange.run limit (deed q.waited (es ++ later)).1 (deed q.waited (es ++ later)).2).confirmation =
      some c := by
  induction es generalizing q with
  | nil =>
    rw [run_nil] at h
    rw [h] at hthere
    cases hthere
  | cons e rest ih =>
    rw [run_cons] at h
    have hsound := sound_step hs e
    have hdated := dated_step hd e
    have hnone : q.gate.reply = none := by rw [hs.reply hthere, hh]; rfl
    cases e with
    | replies r => exact exchange_of_reply hs hthere hnone (hp.silent rfl) h
    | begins limit' =>
      have hnext := ih hsound hdated ((beginWait_handle q limit').trans hh)
        ((beginWait_done q limit').trans hthere) hp.2 h
      rw [show (q.step (.begins limit')).waited = _ from waited_beginWait hthere limit'] at hnext
      exact hnext
    | passes ms =>
      have hnext := ih hsound hdated hh hthere hp.2 h
      rw [show (q.step (.passes ms)).waited = _ from waited_pass hd ms] at hnext
      exact hnext
    | looks =>
      cases hheard : q.heard with
      | none =>
        have hsame : q.step .looks = q := look_of_silent hheard
        have hrest := hp.2
        rw [hsame] at h hrest
        exact ih hs hd hh hthere hrest h
      | some c' =>
        obtain ⟨limit', since', hw, hv⟩ := waiting_of_heard hheard
        have hlook : q.step .looks = _ := look_of_verdict hw hv
        rw [hlook, run_of_done rfl] at h
        cases h
        -- Without a reply there is only the limit to hear.
        rw [Gate.verdict_of_none hnone] at hv
        obtain ⟨l, rfl, hle, rfl⟩ := Gate.eq_timedOut_of_verdict hv
        rw [waited_of_waiting hw]
        exact exchange_of_late hle (rest ++ later)
    | leaves =>
      have hleave : q.step .leaves = _ := leave_of_there hthere
      rw [hleave, run_of_done rfl] at h
      cases h

end Kanban.Enquiry
