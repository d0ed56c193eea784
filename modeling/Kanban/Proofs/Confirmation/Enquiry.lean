import Kanban.Proofs.Confirmation

/-!
# `Proofs.Confirmation.Enquiry` — both ends of a confirmation

Whoever holds the handle of a confirmation is told whether an answer counts, and whoever waits at the gate
obtains an outcome. Each of the two acts when it likes, and either may go away. An enquiry is all that can
happen between them: a look at the gate finds a reply or a limit that is reached, or nothing, and it is one
event together with the end of the wait that it brings.

## Contents
- `Enquiry`, its ends and events; `Enquiry.step`, `Enquiry.run`.
- `Sound`, `sound_step`, `sound_run`: what the gate shows of both ends; `gate_reply_run`: it forgets nothing.
- `settled_step`, `look_of_settled`: a wait ends in a look; `gone_run`: or because somebody leaves.
- `waiting_step`, `settled_of_waiting`: a wait from its beginning to its end.
- `verdict_eq_some`: what a look finds.
-/

namespace Kanban

/-! ## Both ends -/

/-- What has become of the end that answers. -/
inductive Enquiry.Handle where
  /-- Somebody holds it. -/
  | held
  /-- It was used up at a moment by an answer, which is told whether it counts, or by dropping it. -/
  | used (reply : Reply) (told : Option Bool) (moment : Nat)
  deriving DecidableEq, Repr

/-- What has become of the end that waits. -/
inductive Enquiry.Waiter where
  /-- Nobody waits yet. -/
  | ready
  /-- Somebody has waited since a moment, for a number of milliseconds at most if there is a limit. -/
  | waiting (limit : Option Nat) (since : Nat)
  /-- The wait has ended at a moment with an outcome. -/
  | settled (limit : Option Nat) (since : Nat) (outcome : Confirmation) (moment : Nat)
  /-- The gate was dropped, or the wait was given up. -/
  | gone
  deriving DecidableEq, Repr

/-- One confirmation with both its ends, on a clock. -/
structure Enquiry where
  gate : Gate
  handle : Enquiry.Handle
  waiter : Enquiry.Waiter
  now : Nat
  deriving DecidableEq, Repr

namespace Enquiry

/-- Something that happens in an enquiry. -/
inductive Event where
  /-- The handle is used up. -/
  | replies (r : Reply)
  /-- Somebody begins to wait. -/
  | begins (limit : Option Nat)
  /-- Whoever waits looks at the gate. -/
  | looks
  /-- The gate is dropped, or the wait is given up. -/
  | leaves
  /-- Milliseconds pass. -/
  | passes (ms : Nat)
  deriving DecidableEq, Repr

/-- Whether an event is something that one of the ends does of its own accord. -/
def Event.ofEnds : Event → Bool
  | replies _ | begins _ | leaves => true
  | looks | passes _ => false

/-- Both ends are there, and nothing has happened. -/
def fresh : Enquiry := ⟨Gate.fresh, .held, .ready, 0⟩

/-- What has come from the answering end. -/
def Handle.reply : Handle → Option Reply
  | held => none
  | used r _ _ => some r

/-- When it came. -/
def Handle.moment : Handle → Option Nat
  | held => none
  | used _ _ moment => some moment

/-- What an answer was told. -/
def Handle.told : Handle → Option Bool
  | held => none
  | used _ told _ => told

/-- Whether the waiting end is no longer there. -/
def Waiter.done : Waiter → Bool
  | settled _ _ _ _ | gone => true
  | ready | waiting _ _ => false

/-- The outcome that a wait has had. -/
def Waiter.outcome : Waiter → Option Confirmation
  | settled _ _ outcome _ => some outcome
  | ready | waiting _ _ | gone => none

/-! ## What happens -/

/-- Use the handle, unless it has been used. -/
def reply (q : Enquiry) (r : Reply) : Enquiry :=
  match q.handle with
  | .held => { q with gate := (r.answer.give q.gate).1, handle := .used r (r.answer.give q.gate).2 q.now }
  | .used _ _ _ => q

/-- Begin to wait. -/
def beginWait (q : Enquiry) (limit : Option Nat) : Enquiry :=
  match q.waiter with
  | .ready => { q with waiter := .waiting limit q.now }
  | _ => q

/-- Look at the gate. A wait that finds something there is over, and the gate is closed. -/
def look (q : Enquiry) : Enquiry :=
  match q.waiter with
  | .waiting limit since =>
    match q.gate.verdict limit (q.now - since) with
    | some outcome => { q with gate := q.gate.close, waiter := .settled limit since outcome q.now }
    | none => q
  | _ => q

/-- The waiting end goes away. -/
def leave (q : Enquiry) : Enquiry :=
  if q.waiter.done then q else { q with gate := q.gate.close, waiter := .gone }

/-- Milliseconds pass. -/
def pass (q : Enquiry) (ms : Nat) : Enquiry := { q with now := q.now + ms }

/-- What happens in an event. -/
def step (q : Enquiry) : Event → Enquiry
  | .replies r => q.reply r
  | .begins limit => q.beginWait limit
  | .looks => q.look
  | .leaves => q.leave
  | .passes ms => q.pass ms

/-- An enquiry after several events, in whatever order and at whatever moments they come. -/
def run (q : Enquiry) (es : List Event) : Enquiry := es.foldl step q

@[simp] theorem run_nil (q : Enquiry) : q.run [] = q := rfl

@[simp] theorem run_cons (q : Enquiry) (e : Event) (es : List Event) :
    q.run (e :: es) = (q.step e).run es := rfl

theorem run_append (q : Enquiry) (es es' : List Event) : q.run (es ++ es') = (q.run es).run es' :=
  List.foldl_append

variable {q : Enquiry} {limit : Option Nat} {since moment : Nat} {c : Confirmation} {r : Reply}

theorem reply_of_held (h : q.handle = .held) (r : Reply) :
    q.reply r =
      { q with gate := (r.answer.give q.gate).1, handle := .used r (r.answer.give q.gate).2 q.now } := by
  rw [reply, h]

theorem reply_of_used {told : Option Bool} (h : q.handle = .used r told moment) (r' : Reply) :
    q.reply r' = q := by
  rw [reply, h]

theorem reply_waiter (q : Enquiry) (r : Reply) : (q.reply r).waiter = q.waiter := by
  unfold reply
  split <;> rfl

theorem beginWait_of_ready (h : q.waiter = .ready) (limit : Option Nat) :
    q.beginWait limit = { q with waiter := .waiting limit q.now } := by
  rw [beginWait, h]

theorem beginWait_of_begun (h : q.waiter ≠ .ready) (limit : Option Nat) : q.beginWait limit = q := by
  unfold beginWait
  split
  · exact absurd ‹_› h
  · rfl

theorem beginWait_handle (q : Enquiry) (limit : Option Nat) : (q.beginWait limit).handle = q.handle := by
  unfold beginWait
  split <;> rfl

theorem beginWait_done (q : Enquiry) (limit : Option Nat) :
    (q.beginWait limit).waiter.done = q.waiter.done := by
  cases hw : q.waiter with
  | ready => rw [beginWait_of_ready hw]; rfl
  | waiting | settled | gone => rw [beginWait_of_begun (by rw [hw]; exact nofun), hw]

/-- A look that finds something ends the wait. -/
theorem look_of_verdict (h : q.waiter = .waiting limit since)
    (hv : q.gate.verdict limit (q.now - since) = some c) :
    q.look = { q with gate := q.gate.close, waiter := .settled limit since c q.now } := by
  rw [look, h]
  simp only [hv]

/-- A look that finds nothing changes nothing. -/
theorem look_of_none (h : q.waiter = .waiting limit since)
    (hv : q.gate.verdict limit (q.now - since) = none) : q.look = q := by
  rw [look, h]
  simp only [hv]

/-- Nor does a look of nobody. -/
theorem look_of_idle (h : ∀ limit since, q.waiter ≠ .waiting limit since) : q.look = q := by
  unfold look
  split
  · exact absurd ‹_› (h _ _)
  · rfl

/-- A wait that goes on after a look has found nothing. -/
theorem look_of_waiting (h : q.look.waiter = .waiting limit since) : q.look = q := by
  cases hw : q.waiter with
  | waiting limit' since' =>
    cases hv : q.gate.verdict limit' (q.now - since') with
    | none => exact look_of_none hw hv
    | some c =>
      rw [look_of_verdict hw hv] at h
      cases h
  | ready | settled | gone => exact look_of_idle (by intro limit since heq; rw [hw] at heq; cases heq)

theorem leave_of_done (h : q.waiter.done = true) : q.leave = q := by
  rw [leave, if_pos h]

theorem leave_of_there (h : q.waiter.done = false) :
    q.leave = { q with gate := q.gate.close, waiter := .gone } := by
  simp [leave, h]

/-- What comes from the answering end is recorded at the gate, and an answer is told whether somebody
    listens who has not heard anything before. -/
theorem give_answer (g : Gate) (r : Reply) :
    (r.answer.give g).1 = g.record r ∧
      ∀ b, r = .answered b → (r.answer.give g).2 = some (g.listening && g.reply.isNone) := by
  cases r with
  | answered accepted => exact ⟨rfl, fun b _ => rfl⟩
  | dropped => exact ⟨rfl, fun b h => (by cases h)⟩

/-! ## What the gate shows -/

theorem outcome_of_there (h : q.waiter.done = false) : q.waiter.outcome = none := by
  cases hw : q.waiter with
  | ready => rfl
  | waiting limit since => rfl
  | settled limit since c moment => rw [hw] at h; cases h
  | gone => rfl

/-- **What the gate shows of both ends.** -/
structure Sound (q : Enquiry) : Prop where
  /-- Somebody listens until the waiting end is no longer there. -/
  listening : q.gate.listening = !q.waiter.done
  /-- As long as it is there, the gate has what has come from the other end. -/
  reply : q.waiter.done = false → q.gate.reply = q.handle.reply
  /-- An answer that counts is at the gate for good. Others come after the waiting end has gone. -/
  told : ∀ b told t, q.handle = .used (.answered b) told t →
    (told = some true ∧ q.gate.reply = some (.answered b)) ∨ (told = some false ∧ q.waiter.done = true)
  /-- A wait that is over has obtained what is at the gate, if anything is. -/
  heard : ∀ r c, q.gate.reply = some r → q.waiter.outcome = some c → c = r.confirmation

theorem sound_fresh : fresh.Sound :=
  ⟨rfl, fun _ => rfl, fun _ _ _ h => (by cases h), fun _ _ h => (by cases h)⟩

/-- Only the waiting end changes, and it was there and still is. -/
theorem Sound.of_there {w : Waiter} (h : q.Sound) (hd : q.waiter.done = false) (hw : w.done = false) :
    ({ q with waiter := w } : Enquiry).Sound := by
  refine ⟨?_, fun _ => h.reply hd, fun b told t hb => ?_, fun r c _ hc => ?_⟩
  · show q.gate.listening = !w.done
    rw [h.listening, hd, hw]
  · rcases h.told b told t hb with hcounts | ⟨_, hdone⟩
    · exact Or.inl hcounts
    · rw [hd] at hdone
      cases hdone
  · rw [outcome_of_there (q := { q with waiter := w }) hw] at hc
    cases hc

/-- The waiting end goes away, with what is at the gate if it goes with an outcome. -/
theorem Sound.of_closed {w : Waiter} (h : q.Sound) (hd : q.waiter.done = false) (hw : w.done = true)
    (hc : ∀ r c, q.gate.reply = some r → w.outcome = some c → c = r.confirmation) :
    ({ q with gate := q.gate.close, waiter := w } : Enquiry).Sound := by
  refine ⟨?_, fun hnot => ?_, fun b told t hb => ?_, hc⟩
  · show false = !w.done
    rw [hw]
    rfl
  · rw [show w.done = false from hnot] at hw
    cases hw
  · rcases h.told b told t hb with hcounts | ⟨_, hdone⟩
    · exact Or.inl hcounts
    · rw [hd] at hdone
      cases hdone

theorem sound_reply (h : q.Sound) (r : Reply) : (q.reply r).Sound := by
  cases hh : q.handle with
  | used r' told t =>
    rw [reply_of_used hh]
    exact h
  | held =>
    obtain ⟨hrecord, htold⟩ := give_answer q.gate r
    rw [reply_of_held hh, hrecord]
    cases hd : q.waiter.done with
    | true =>
      -- Whatever comes now comes too late: the gate stays as it is, and an answer is told so.
      have hlistening : q.gate.listening = false := by rw [h.listening, hd]; rfl
      rw [Gate.record_of_closed hlistening]
      refine ⟨h.listening, fun hnot => ?_, fun b told t hb => ?_, h.heard⟩
      · rw [show q.waiter.done = false from hnot] at hd
        cases hd
      · obtain ⟨rfl, hgiven, _⟩ := Handle.used.inj hb
        rw [htold b rfl, hlistening, Bool.false_and] at hgiven
        exact Or.inr ⟨hgiven.symm, hd⟩
    | false =>
      have hlistening : q.gate.listening = true := by rw [h.listening, hd]; rfl
      have hnone : q.gate.reply = none := by rw [h.reply hd, hh]; rfl
      have hreply : (q.gate.record r).reply = some r := Gate.reply_record hlistening hnone
      refine ⟨?_, fun _ => hreply, fun b told t hb => ?_, fun r' c _ hc => ?_⟩
      · rw [Gate.record_listening]
        exact h.listening
      · obtain ⟨rfl, hgiven, _⟩ := Handle.used.inj hb
        rw [htold b rfl, hlistening, hnone] at hgiven
        exact Or.inl ⟨hgiven.symm, hreply⟩
      · have hnot : q.waiter.outcome = some c := hc
        rw [outcome_of_there hd] at hnot
        cases hnot

theorem sound_beginWait (h : q.Sound) (limit : Option Nat) : (q.beginWait limit).Sound := by
  by_cases hw : q.waiter = .ready
  · rw [beginWait_of_ready hw]
    exact h.of_there (by rw [hw]; rfl) rfl
  · rw [beginWait_of_begun hw]
    exact h

theorem sound_look (h : q.Sound) : q.look.Sound := by
  cases hw : q.waiter with
  | waiting limit since =>
    cases hv : q.gate.verdict limit (q.now - since) with
    | none =>
      rw [look_of_none hw hv]
      exact h
    | some c =>
      rw [look_of_verdict hw hv]
      refine h.of_closed (by rw [hw]; rfl) rfl fun r c' hr hc => ?_
      rw [Gate.verdict_of_reply hr] at hv
      cases hv
      cases hc
      rfl
  | ready | settled | gone =>
    rw [look_of_idle (by intro limit since heq; rw [hw] at heq; cases heq)]
    exact h

theorem sound_leave (h : q.Sound) : q.leave.Sound := by
  cases hd : q.waiter.done with
  | true =>
    rw [leave_of_done hd]
    exact h
  | false =>
    rw [leave_of_there hd]
    exact h.of_closed hd rfl fun _ _ _ hc => (by cases hc)

/-- **One step** keeps the gate in step with both ends. -/
theorem sound_step (h : q.Sound) (e : Event) : (q.step e).Sound := by
  cases e with
  | replies r => exact sound_reply h r
  | begins limit => exact sound_beginWait h limit
  | looks => exact sound_look h
  | leaves => exact sound_leave h
  | passes ms => exact ⟨h.listening, h.reply, h.told, h.heard⟩

/-- **So does a whole run.** -/
theorem sound_run (h : q.Sound) (es : List Event) : (q.run es).Sound := by
  induction es generalizing q with
  | nil => exact h
  | cons e rest ih => exact ih (sound_step h e)

/-- While the waiting end is there, its gate records everything that is said. -/
theorem Sound.reply_gate (h : q.Sound) (hd : q.waiter.done = false) (r : Reply) :
    (q.reply r).gate = q.gate.record r := by
  cases hh : q.handle with
  | held =>
    rw [reply_of_held hh]
    exact (give_answer q.gate r).1
  | used r' told t =>
    have hreply : q.gate.reply = some r' := by rw [h.reply hd, hh]; rfl
    rw [reply_of_used hh, Gate.record_of_reply hreply]

/-- What has come to the gate stays there. -/
theorem gate_reply_step (hr : q.gate.reply = some r) (e : Event) : (q.step e).gate.reply = some r := by
  cases e with
  | replies r' =>
    show (q.reply r').gate.reply = some r
    unfold reply
    split
    · rw [(give_answer q.gate r').1, Gate.record_of_reply hr]
      exact hr
    · exact hr
  | begins limit =>
    show (q.beginWait limit).gate.reply = some r
    unfold beginWait
    split <;> exact hr
  | looks =>
    show q.look.gate.reply = some r
    unfold look
    split
    · split <;> exact hr
    · exact hr
  | leaves =>
    show q.leave.gate.reply = some r
    unfold leave
    split <;> exact hr
  | passes ms => exact hr

theorem gate_reply_run (hr : q.gate.reply = some r) (es : List Event) : (q.run es).gate.reply = some r := by
  induction es generalizing q with
  | nil => exact hr
  | cons e rest ih => exact ih (gate_reply_step hr e)

/-! ## How a wait ends -/

/-- Once the waiting end is no longer there it stays away. -/
theorem waiter_of_done (h : q.waiter.done = true) (e : Event) : (q.step e).waiter = q.waiter := by
  cases e with
  | replies r => exact reply_waiter q r
  | begins limit =>
    have hbegun : q.waiter ≠ .ready := by
      intro heq
      rw [heq] at h
      cases h
    exact congrArg waiter (beginWait_of_begun hbegun limit)
  | looks =>
    have hidle : ∀ limit since, q.waiter ≠ .waiting limit since := by
      intro limit since heq
      rw [heq] at h
      cases h
    exact congrArg waiter (look_of_idle hidle)
  | leaves => exact congrArg waiter (leave_of_done h)
  | passes ms => rfl

theorem run_of_done (h : q.waiter.done = true) (es : List Event) : (q.run es).waiter = q.waiter := by
  induction es generalizing q with
  | nil => rfl
  | cons e rest ih =>
    have hstep := waiter_of_done h e
    rw [run_cons, ih (hstep ▸ h), hstep]

/-- **A wait ends in a look** that finds something at the gate. -/
theorem settled_step {e : Event} (hd : q.waiter.done = false)
    (h : (q.step e).waiter = .settled limit since c moment) :
    e = .looks ∧ q.waiter = .waiting limit since ∧ q.now = moment ∧
      q.gate.verdict limit (q.now - since) = some c := by
  have hnot : q.waiter ≠ .settled limit since c moment := by
    intro heq
    rw [heq] at hd
    cases hd
  cases e with
  | replies r =>
    rw [show (q.step (.replies r)).waiter = q.waiter from reply_waiter q r] at h
    exact absurd h hnot
  | begins limit' =>
    have hbegin : (q.beginWait limit').waiter = .settled limit since c moment := h
    by_cases hready : q.waiter = .ready
    · rw [beginWait_of_ready hready] at hbegin
      cases hbegin
    · rw [beginWait_of_begun hready] at hbegin
      exact absurd hbegin hnot
  | looks =>
    have hlook : q.look.waiter = .settled limit since c moment := h
    cases hw : q.waiter with
    | waiting limit' since' =>
      cases hv : q.gate.verdict limit' (q.now - since') with
      | none =>
        rw [look_of_none hw hv] at hlook
        exact absurd hlook hnot
      | some c' =>
        rw [look_of_verdict hw hv] at hlook
        cases hlook
        exact ⟨rfl, rfl, rfl, hv⟩
    | ready | settled | gone =>
      rw [look_of_idle (by intro limit since heq; rw [hw] at heq; cases heq)] at hlook
      exact absurd hlook hnot
  | leaves =>
    have hleave : q.leave.waiter = .settled limit since c moment := h
    rw [leave_of_there hd] at hleave
    cases hleave
  | passes ms => exact absurd h hnot

/-- **A wait that is over** has ended in a look at some point of the run. -/
theorem look_of_settled {es : List Event} (hd : q.waiter.done = false)
    (h : (q.run es).waiter = .settled limit since c moment) :
    ∃ before after, es = before ++ .looks :: after ∧ (q.run before).waiter = .waiting limit since ∧
      (q.run before).now = moment ∧ (q.run before).gate.verdict limit (moment - since) = some c := by
  induction es generalizing q with
  | nil =>
    rw [run_nil] at h
    rw [h] at hd
    cases hd
  | cons e rest ih =>
    rw [run_cons] at h
    cases hdone : (q.step e).waiter.done with
    | false =>
      obtain ⟨before, after, rfl, hwaiting, hnow, hv⟩ := ih hdone h
      exact ⟨e :: before, after, rfl, hwaiting, hnow, hv⟩
    | true =>
      -- What the step has brought is there to the end.
      rw [run_of_done hdone] at h
      obtain ⟨rfl, hwaiting, rfl, hv⟩ := settled_step hd h
      exact ⟨[], rest, rfl, hwaiting, rfl, hv⟩

/-- The waiting end goes away without an outcome only by its own will. -/
theorem gone_step {e : Event} (hd : q.waiter.done = false) (h : (q.step e).waiter = .gone) :
    e = .leaves := by
  have hnot : q.waiter ≠ .gone := by
    intro heq
    rw [heq] at hd
    cases hd
  cases e with
  | leaves => rfl
  | passes ms => exact absurd h hnot
  | replies r =>
    rw [show (q.step (.replies r)).waiter = q.waiter from reply_waiter q r] at h
    exact absurd h hnot
  | begins limit =>
    change (q.beginWait limit).waiter = .gone at h
    by_cases hready : q.waiter = .ready
    · rw [beginWait_of_ready hready] at h
      cases h
    · rw [beginWait_of_begun hready] at h
      exact absurd h hnot
  | looks =>
    change q.look.waiter = .gone at h
    unfold look at h
    split at h
    · split at h
      · cases h
      · exact absurd h hnot
    · exact absurd h hnot

theorem gone_run {es : List Event} (hd : q.waiter.done = false) (h : (q.run es).waiter = .gone) :
    .leaves ∈ es := by
  induction es generalizing q with
  | nil =>
    rw [run_nil] at h
    rw [h] at hd
    cases hd
  | cons e rest ih =>
    rw [run_cons] at h
    cases hdone : (q.step e).waiter.done with
    | false => exact List.mem_cons_of_mem e (ih hdone h)
    | true =>
      rw [run_of_done hdone] at h
      exact List.mem_cons.mpr (Or.inl (gone_step hd h).symm)

/-- A wait goes on, or it is over. -/
theorem waiting_step (hw : q.waiter = .waiting limit since) (e : Event) :
    (q.step e).waiter = .waiting limit since ∨ (q.step e).waiter.done = true := by
  cases e with
  | replies r => exact Or.inl ((reply_waiter q r).trans hw)
  | begins limit' =>
    have hbegun : q.waiter ≠ .ready := by
      intro heq
      rw [hw] at heq
      cases heq
    exact Or.inl ((congrArg waiter (beginWait_of_begun hbegun limit')).trans hw)
  | looks =>
    show q.look.waiter = _ ∨ q.look.waiter.done = true
    cases hv : q.gate.verdict limit (q.now - since) with
    | none =>
      rw [look_of_none hw hv]
      exact Or.inl hw
    | some c =>
      rw [look_of_verdict hw hv]
      exact Or.inr rfl
  | leaves =>
    show q.leave.waiter = _ ∨ q.leave.waiter.done = true
    rw [leave_of_there (by rw [hw]; rfl)]
    exact Or.inr rfl
  | passes ms => exact Or.inl hw

theorem waiting_run (hw : q.waiter = .waiting limit since) (es : List Event) :
    (q.run es).waiter = .waiting limit since ∨ (q.run es).waiter.done = true := by
  induction es generalizing q with
  | nil => exact Or.inl hw
  | cons e rest ih =>
    rcases waiting_step hw e with hon | hdone
    · exact ih hon
    · rw [run_cons, run_of_done hdone]
      exact Or.inr hdone

/-- A wait that is over is the one that was begun. -/
theorem settled_of_waiting {limit' : Option Nat} {since' : Nat} {es : List Event}
    (hw : q.waiter = .waiting limit since) (h : (q.run es).waiter = .settled limit' since' c moment) :
    limit' = limit ∧ since' = since := by
  obtain ⟨before, after, -, hbefore, -⟩ := look_of_settled (by rw [hw]; rfl) h
  rcases waiting_run hw before with hon | hdone
  · rw [hbefore] at hon
    cases hon
    exact ⟨rfl, rfl⟩
  · rw [hbefore] at hdone
    cases hdone

/-- **What a look finds** is what has come from the other end by then, or that the limit is reached. -/
theorem Sound.verdict_eq_some {waited : Nat} (h : q.Sound) (hd : q.waiter.done = false)
    (hv : q.gate.verdict limit waited = some c) :
    (∃ r told t, q.handle = .used r told t ∧ c = r.confirmation ∧ ∀ b, r = .answered b → told = some true) ∨
      (q.handle = .held ∧ c = .timedOut ∧ ∃ l, limit = some l ∧ l ≤ waited) := by
  have hreply := h.reply hd
  cases hh : q.handle with
  | held =>
    rw [hh] at hreply
    rw [Gate.verdict_of_none hreply] at hv
    obtain ⟨l, hl, hle, rfl⟩ := Gate.eq_timedOut_of_verdict hv
    exact Or.inr ⟨rfl, rfl, l, hl, hle⟩
  | used r told t =>
    rw [hh] at hreply
    rw [Gate.verdict_of_reply hreply] at hv
    refine Or.inl ⟨r, told, t, rfl, (Option.some.inj hv).symm, fun b hb => ?_⟩
    rcases h.told b told t (hb ▸ hh) with ⟨htold, _⟩ | ⟨_, hdone⟩
    · exact htold
    · rw [hd] at hdone
      cases hdone

end Enquiry
end Kanban
