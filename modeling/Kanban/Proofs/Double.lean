import Mathlib.Data.Int.Order.Basic
import Mathlib.Data.Prod.Lex

/-!
# `Proofs.Double` — doubles in order

Doubles are compared by what their bits stand for: a sign, an exponent and a significand. All of them that
are defined have a place on one line, and comparing two of them is comparing their places. Zero has the same
place with either sign, so two doubles that compare equal need not be the same.

## Contents
- `line`, `compare_eq_some_lt`, `compare_swap`, `compare_isSome`, `compare_eq_some_eq`: comparing what bits
  stand for.
- `place`; `lt_iff`, `le_iff`, `beq_iff`: comparing doubles.
- `not_lt_iff`: doubles that are defined can always be compared; `le_congr_left`, `le_congr_right`: those
  that compare equal have the same bounds.
-/

namespace Kanban.Double

open Float.Model (UnpackedFloat)

/-! ## What bits stand for -/

variable {a b : UnpackedFloat}

/-- The place on the line: the sign and whether it is zero or infinite, then the exponent, then the
    significand. What is undefined is put at zero and takes part in no comparison. -/
def line : UnpackedFloat → ℤ ×ₗ ℤ ×ₗ ℤ
  | .infinity .negative => toLex (-2, toLex (0, 0))
  | .finite .negative m e _ => toLex (-1, toLex (-e, -(m : ℤ)))
  | .zero _ | .notANumber => toLex (0, toLex (0, 0))
  | .finite .positive m e _ => toLex (1, toLex (e, (m : ℤ)))
  | .infinity .positive => toLex (2, toLex (0, 0))

theorem then_eq_lt {e e' : ℤ} {m m' : ℕ} :
    (compare e e').then (compare m m') = .lt ↔ e < e' ∨ e = e' ∧ m < m' := by
  rw [Ordering.then_eq_lt, Int.compare_eq_lt, Int.compare_eq_eq, Nat.compare_eq_lt]

theorem then_eq_gt {e e' : ℤ} {m m' : ℕ} :
    (compare e e').then (compare m m') = .gt ↔ e' < e ∨ e = e' ∧ m' < m := by
  rw [Ordering.then_eq_gt, Int.compare_eq_gt, Int.compare_eq_eq, Nat.compare_eq_gt]

theorem isNaN_notANumber : UnpackedFloat.notANumber.isNaN = true := rfl
theorem isNaN_infinity (s : UnpackedFloat.Sign) : (UnpackedFloat.infinity s).isNaN = false := rfl
theorem isNaN_zero (s : UnpackedFloat.Sign) : (UnpackedFloat.zero s).isNaN = false := rfl
theorem isNaN_finite (s : UnpackedFloat.Sign) (m : ℕ) (e : ℤ) (h : 0 < m) :
    (UnpackedFloat.finite s m e h).isNaN = false := rfl

/-- One is below another exactly if both are defined and its place is. -/
theorem compare_eq_some_lt :
    a.compare b = some .lt ↔ a.isNaN = false ∧ b.isNaN = false ∧ line a < line b := by
  rcases a with ⟨_ | _⟩ | _ | ⟨_ | _⟩ | ⟨_ | _, m, e, hm⟩ <;>
    rcases b with ⟨_ | _⟩ | _ | ⟨_ | _⟩ | ⟨_ | _, m', e', hm'⟩ <;>
    dsimp only [UnpackedFloat.compare, isNaN_notANumber, isNaN_infinity, isNaN_zero, isNaN_finite, line] <;>
    simp [Prod.Lex.toLex_lt_toLex, then_eq_lt, then_eq_gt]
  -- Only the signs of two infinities are left.
  all_goals rfl

theorem compare_swap (a b : UnpackedFloat) : b.compare a = (a.compare b).map Ordering.swap := by
  rcases a with ⟨_ | _⟩ | _ | ⟨_ | _⟩ | ⟨_ | _, m, e, hm⟩ <;>
    rcases b with ⟨_ | _⟩ | _ | ⟨_ | _⟩ | ⟨_ | _, m', e', hm'⟩ <;>
    dsimp only [UnpackedFloat.compare] <;>
    simp [Ordering.swap_then, Int.compare_swap, Nat.compare_swap]
  all_goals rfl

theorem compare_isSome : (a.compare b).isSome = true ↔ a.isNaN = false ∧ b.isNaN = false := by
  rcases a with ⟨_ | _⟩ | _ | ⟨_ | _⟩ | ⟨_ | _, m, e, hm⟩ <;>
    rcases b with ⟨_ | _⟩ | _ | ⟨_ | _⟩ | ⟨_ | _, m', e', hm'⟩ <;>
    dsimp only [UnpackedFloat.compare, isNaN_notANumber, isNaN_infinity, isNaN_zero, isNaN_finite] <;>
    simp

theorem compare_eq_some_gt :
    a.compare b = some .gt ↔ a.isNaN = false ∧ b.isNaN = false ∧ line b < line a := by
  have hswap : a.compare b = some .gt ↔ b.compare a = some .lt := by
    rw [compare_swap a b]
    cases a.compare b with
    | none => simp
    | some o => cases o <;> simp
  rw [hswap, compare_eq_some_lt]
  exact ⟨fun ⟨hb, ha, h⟩ => ⟨ha, hb, h⟩, fun ⟨ha, hb, h⟩ => ⟨hb, ha, h⟩⟩

/-- Two are equal exactly if both are defined and have the same place. -/
theorem compare_eq_some_eq :
    a.compare b = some .eq ↔ a.isNaN = false ∧ b.isNaN = false ∧ line a = line b := by
  constructor
  · intro h
    obtain ⟨ha, hb⟩ := compare_isSome.mp (by rw [h]; rfl)
    refine ⟨ha, hb, le_antisymm (not_lt.mp fun hlt => ?_) (not_lt.mp fun hlt => ?_)⟩
    · rw [compare_eq_some_gt.mpr ⟨ha, hb, hlt⟩] at h
      cases h
    · rw [compare_eq_some_lt.mpr ⟨ha, hb, hlt⟩] at h
      cases h
  · rintro ⟨ha, hb, hsame⟩
    obtain ⟨o, ho⟩ := Option.isSome_iff_exists.mp (compare_isSome.mpr ⟨ha, hb⟩)
    cases o with
    | eq => exact ho
    | lt => exact absurd hsame (compare_eq_some_lt.mp ho).2.2.ne
    | gt => exact absurd hsame (compare_eq_some_gt.mp ho).2.2.ne'

/-! ## Doubles -/

variable {x y z : Float}

/-- The place of a double on the line. -/
def place (x : Float) : ℤ ×ₗ ℤ ×ₗ ℤ := line x.toModel.unpack

theorem lt_iff : x < y ↔ x.isNaN = false ∧ y.isNaN = false ∧ place x < place y := by
  show decide ((x.toModel.unpack.compare y.toModel.unpack == some .lt) = true) = true ↔ _
  rw [decide_eq_true_iff, beq_iff_eq]
  exact compare_eq_some_lt

theorem le_iff : x ≤ y ↔ x.isNaN = false ∧ y.isNaN = false ∧ place x ≤ place y := by
  show decide ((x.toModel.unpack.compare y.toModel.unpack).any (·.isLE) = true) = true ↔ _
  have hdefined := compare_isSome (a := x.toModel.unpack) (b := y.toModel.unpack)
  have hgt := compare_eq_some_gt (a := x.toModel.unpack) (b := y.toModel.unpack)
  rw [decide_eq_true_iff, ← not_lt, ← and_assoc]
  -- Below or equal is to be compared and not above.
  show _ ↔ (x.toModel.unpack.isNaN = false ∧ y.toModel.unpack.isNaN = false) ∧
    ¬line y.toModel.unpack < line x.toModel.unpack
  rw [← hdefined]
  cases hc : x.toModel.unpack.compare y.toModel.unpack with
  | none => simp
  | some o =>
    rw [hc] at hdefined hgt
    obtain ⟨hx, hy⟩ := hdefined.mp rfl
    cases o <;> simp_all

theorem beq_iff : (x == y) = true ↔ x.isNaN = false ∧ y.isNaN = false ∧ place x = place y := by
  show (x.toModel.unpack.compare y.toModel.unpack == some .eq) = true ↔ _
  rw [beq_iff_eq]
  exact compare_eq_some_eq

/-- A double that is defined compares equal to itself. -/
theorem beq_self (hx : x.isNaN = false) : (x == x) = true := beq_iff.mpr ⟨hx, hx, rfl⟩

/-- Doubles that are defined can always be compared. -/
theorem not_lt_iff (hx : x.isNaN = false) (hy : y.isNaN = false) : ¬x < y ↔ y ≤ x := by
  rw [lt_iff, le_iff, ← not_lt (a := place x)]
  constructor
  · exact fun h => ⟨hy, hx, fun hlt => h ⟨hx, hy, hlt⟩⟩
  · exact fun h hlt => h.2.2 hlt.2.2

/-- What is undefined is below nothing, and nothing is below it. -/
theorem not_lt_of_isNaN (h : x.isNaN = true ∨ y.isNaN = true) : ¬x < y := by
  rw [lt_iff]
  rintro ⟨hx, hy, -⟩
  rcases h with h | h
  · rw [hx] at h; cases h
  · rw [hy] at h; cases h

theorem not_lt_self (x : Float) : ¬x < x := by
  rw [lt_iff]
  exact fun h => lt_irrefl _ h.2.2

/-- Doubles that compare equal are above the same ones. -/
theorem le_congr_right (h : (x == y) = true) : z ≤ x ↔ z ≤ y := by
  obtain ⟨hx, hy, hplace⟩ := beq_iff.mp h
  rw [le_iff, le_iff, hx, hy, hplace]

/-- Doubles that compare equal are below the same ones. -/
theorem le_congr_left (h : (x == y) = true) : x ≤ z ↔ y ≤ z := by
  obtain ⟨hx, hy, hplace⟩ := beq_iff.mp h
  rw [le_iff, le_iff, hx, hy, hplace]

end Kanban.Double
