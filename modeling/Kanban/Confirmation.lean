/-!
# `Confirmation` — asking somebody else and waiting for the answer

A gate has two ends: somebody answers once, or walks away; somebody else waits, perhaps only for a while. An
answer counts exactly if it comes before the waiting is over.

## Contents
- `Confirmation`: the outcome of waiting.
- `Gate`: `Gate.resolve` and `Gate.abandon` for one end, `Gate.verdict` and `Gate.close` for the other.
- `Exchange`: one answer and one wait on a clock.
-/

namespace Kanban

/-- The outcome of waiting for an answer. -/
inductive Confirmation where
  | accepted
  | rejected
  /-- The other end walked away without an answer. -/
  | abandoned
  | timedOut
  deriving DecidableEq, Repr

namespace Confirmation

/-- Whether the answer was yes. -/
def isAccepted (c : Confirmation) : Bool := c = accepted

end Confirmation

/-- What came from the answering end. -/
inductive Reply where
  | answered (accepted : Bool)
  | dropped
  deriving DecidableEq, Repr

/-- The outcome that a reply stands for. -/
def Reply.confirmation : Reply → Confirmation
  | answered true => .accepted
  | answered false => .rejected
  | dropped => .abandoned

/-- The state between the two ends of a confirmation. -/
structure Gate where
  /-- What has come from the answering end; it speaks at most once. -/
  reply : Option Reply
  /-- Whether the waiting end is still there. -/
  listening : Bool
  deriving DecidableEq, Repr

namespace Gate

/-- A gate whose ends are both there. -/
def fresh : Gate := ⟨none, true⟩

/-- Record what comes from the answering end. Nobody hears it once the waiting end is gone, and nothing
    follows a first reply. -/
def record (g : Gate) (r : Reply) : Gate :=
  if g.listening ∧ g.reply = none then { g with reply := some r } else g

/-- Answer, and learn whether the waiting end was still there. -/
def resolve (g : Gate) (accepted : Bool) : Gate × Bool :=
  (g.record (.answered accepted), g.listening && g.reply.isNone)

/-- Walk away without an answer. -/
def abandon (g : Gate) : Gate := g.record .dropped

/-- The waiting end goes away. -/
def close (g : Gate) : Gate := { g with listening := false }

/-- The outcome after having waited for a time, once there is one. A reply counts even when the limit is
    reached at the same moment. -/
def verdict (g : Gate) (limit : Option Nat) (waited : Nat) : Option Confirmation :=
  match g.reply with
  | some r => some r.confirmation
  | none =>
    match limit with
    | some l => if l ≤ waited then some .timedOut else none
    | none => none

end Gate

/-! ## One answer and one wait -/

/-- What the answering end does. -/
inductive Answer where
  | resolve (accepted : Bool)
  | abandon
  /-- Hold on without ever answering. -/
  | keep
  deriving DecidableEq, Repr

/-- Do it to a gate; an answer learns whether it was heard. -/
def Answer.give (a : Answer) (g : Gate) : Gate × Option Bool :=
  match a with
  | resolve accepted => ((g.resolve accepted).1, some (g.resolve accepted).2)
  | abandon => (g.abandon, none)
  | keep => (g, none)

/-- When the answering end acts. -/
inductive Timing where
  /-- Before the waiting begins. -/
  | before
  /-- A time after the waiting has begun. -/
  | during (after : Nat)
  /-- After the waiting end has gone away without waiting. -/
  | unattended
  deriving DecidableEq, Repr

/-- How one answer and one wait turn out. -/
structure Exchange where
  /-- The outcome of the wait, if it ends or began at all. -/
  confirmation : Option Confirmation
  /-- What an answer learnt. -/
  delivered : Option Bool
  /-- When both ends were done, or when the last of them acted if the wait never ends. -/
  elapsed : Nat
  deriving DecidableEq, Repr

namespace Exchange

/-- Wait from a moment on with nothing more to come from the other end. -/
def waitOut (g : Gate) (delivered : Option Bool) (limit : Option Nat) (now : Nat) : Exchange :=
  match g.verdict limit now with
  | some c => ⟨some c, delivered, now⟩
  | none =>
    match limit with
    | some l => ⟨some .timedOut, delivered, l⟩
    | none => ⟨none, delivered, now⟩

/-- Let the answering end act at its time while the other end waits. Of a limit and an answer at the same
    moment, the limit comes first. -/
def run (limit : Option Nat) (answer : Answer) : Timing → Exchange
  | .before =>
    let (g, delivered) := answer.give Gate.fresh
    waitOut g delivered limit 0
  | .during after =>
    match Gate.fresh.verdict limit after with
    | some c => ⟨some c, (answer.give Gate.fresh.close).2, after⟩
    | none =>
      let (g, delivered) := answer.give Gate.fresh
      waitOut g delivered limit after
  | .unattended => ⟨none, (answer.give Gate.fresh.close).2, 0⟩

end Exchange

end Kanban
