/-!
# `Refresh.Schedule` — when ticks are due

Ticks are due at a first moment and then at every multiple of an interval after it. A tick that was missed
happens late, once; the one after it is due at the first multiple that is still to come.

## Contents
- `Schedule`, `Schedule.dueAfter`.
- `Schedule.lt_dueAfter`, `Schedule.dueAfter_le`: it is the first one to come.
-/

namespace Kanban

/-- A first moment and an interval. -/
structure Schedule where
  start : Nat
  interval : Nat
  deriving DecidableEq, Repr, Inhabited

namespace Schedule

/-- The moment of a multiple of the interval. -/
def moment (s : Schedule) (k : Nat) : Nat := s.start + k * s.interval

/-- The first moment strictly after a given one, which is not before the start. -/
def dueAfter (s : Schedule) (t : Nat) : Nat := s.moment ((t - s.start) / s.interval + 1)

/-- What is due after a moment is still to come. -/
theorem lt_dueAfter (s : Schedule) (t : Nat) (h : 0 < s.interval) : t < s.dueAfter t := by
  have := Nat.lt_div_mul_add (a := t - s.start) h
  simp only [dueAfter, moment, Nat.add_mul, Nat.one_mul]
  omega

/-- Nothing is due between a moment and what is due after it. -/
theorem dueAfter_le (s : Schedule) (t k : Nat) (hs : s.start ≤ t) (h : t < s.moment k) :
    s.dueAfter t ≤ s.moment k := by
  simp only [dueAfter, moment] at *
  have : (t - s.start) / s.interval < k := Nat.div_lt_of_lt_mul (by rw [Nat.mul_comm]; omega)
  exact Nat.add_le_add_left (Nat.mul_le_mul_right _ this) _

end Schedule

end Kanban
