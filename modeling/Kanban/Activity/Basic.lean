/-!
# `Activity.Basic` — counting interactions in progress

While anything is in progress, background work holds still. A count that is lowered too often stays at zero.

The count is a natural number. Somebody who keeps it in a machine word of 64 bits has the same count as long
as fewer than `UInt64.size` interactions are in progress at a time; one more, and the word begins again at
zero.

## Contents
- `Activity`, `Activity.increment`, `Activity.decrement`, `Activity.suppressed`.
- `Activity.wrapped`: the count in a machine word.
-/

namespace Kanban

/-- The number of interactions in progress. It stands for a machine word while it is less than
    `UInt64.size`. -/
structure Activity where
  count : Nat
  deriving DecidableEq, Repr, Inhabited

namespace Activity

/-- Nothing is in progress. -/
def idle : Activity := ⟨0⟩

/-- One more interaction is in progress. -/
def increment (a : Activity) : Activity := ⟨a.count + 1⟩

/-- One interaction is over. At zero nothing happens. -/
def decrement (a : Activity) : Activity := ⟨a.count - 1⟩

/-- Whether background work has to hold still. -/
def suppressed (a : Activity) : Bool := 0 < a.count

/-- The count in a machine word: zero follows the greatest word. -/
def wrapped (a : Activity) : Activity := ⟨(UInt64.ofNat a.count).toNat⟩

end Activity

end Kanban
