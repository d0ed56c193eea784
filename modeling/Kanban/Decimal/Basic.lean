/-!
# `Decimal.Basic` — decimal numbers and the nearest double

A decimal is a natural number of units of a power of ten. Reading one as a double rounds to nearest.

## Contents
- `Decimal`, its point position and trailing-zero form.
- `Decimal.nearest`: the double nearest to a decimal, infinite when it is beyond the largest one.
-/

namespace Kanban

/-- The number `digits · 10 ^ exponent`. -/
structure Decimal where
  /-- The decimal digits, read as one number. -/
  digits : Nat
  /-- The power of ten that one unit of `digits` stands for. -/
  exponent : Int
  deriving DecidableEq, Repr

namespace Decimal

/-- How many decimal digits a number is written with. -/
def length (n : Nat) : Nat := (Nat.toDigits 10 n).length

/-- How many digits stand before the decimal point; zero or negative below one tenth and one. -/
def point (d : Decimal) : Int := (length d.digits : Int) + d.exponent

/-- The same number without zeros at the end of its digits. -/
def trim (d : Decimal) : Decimal :=
  if h : 0 < d.digits ∧ d.digits % 10 = 0 then trim ⟨d.digits / 10, d.exponent + 1⟩ else d
termination_by d.digits
decreasing_by exact Nat.div_lt_self h.1 (by decide)

/-! ## Reading as a double -/

/-- Positive infinity. -/
def infinity : Float := Float.ofBits 0x7FF0000000000000

/-- The double nearest to a decimal. Every decimal with more than 310 digits before its point is beyond
    the largest double, and every one with more than 330 zeros behind it rounds to zero. -/
def nearest (d : Decimal) : Float :=
  if d.digits = 0 ∨ d.point < -330 then 0
  else if 310 < d.point then infinity
  else Float.ofScientific d.digits (decide (d.exponent < 0)) d.exponent.natAbs

end Decimal

end Kanban
