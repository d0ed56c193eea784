/-!
# `Bounds` — horizontal extents

Extents and scrolling are written over any type with a `Coordinate` structure: doubles when the program
runs, exact numbers when one reasons about it.

## Contents
- `Coordinate` and its instance for doubles; `larger`, `smaller`, `clamp`.
- `Bounds`, its right edge and its shifts.
-/

namespace Kanban

/-- Numbers that positions are measured in. One value may be undefined; it is below nothing and nothing is
    below it. -/
class Coordinate (α : Type) extends Zero α, Add α, Sub α where
  /-- Whether one number is strictly below another. -/
  below : α → α → Bool
  /-- Whether a number is undefined. -/
  undefined : α → Bool

instance : Coordinate Float where
  zero := 0
  below a b := decide (a < b)
  undefined := Float.isNaN

namespace Coordinate

variable {α : Type} [Coordinate α]

/-- The larger of two numbers; an undefined one is ignored. -/
def larger (a b : α) : α := if undefined a then b else if below a b then b else a

/-- The smaller of two numbers; an undefined one is ignored. -/
def smaller (a b : α) : α := if undefined a then b else if below b a then b else a

/-- The nearest number between two limits; an undefined number stays undefined. -/
def clamp (x least greatest : α) : α :=
  let x := if below x least then least else x
  if below greatest x then greatest else x

end Coordinate

/-- A horizontal extent. -/
structure Bounds (α : Type) where
  left : α
  width : α
  deriving Repr

namespace Bounds

variable {α : Type} [Coordinate α]

/-- The right edge. -/
def right (b : Bounds α) : α := b.left + b.width

/-- The extent moved to the right by `dx`. -/
def shifted (b : Bounds α) (dx : α) : Bounds α := ⟨b.left + dx, b.width⟩

end Bounds

/-- Whether two extents have equal numbers; an undefined number equals nothing. -/
def Bounds.same (a b : Bounds Float) : Bool := a.left == b.left && a.width == b.width

end Kanban
