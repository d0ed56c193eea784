import Kanban.Proofs.Double
import Kanban.Scroll

/-!
# `Proofs.Scroll.Range` — offsets that a container can be scrolled to

Numbers may be undefined, and sums and differences of them may be anything at all. What keeps an offset in
range is comparing alone: every correction ends with a comparison against a number that is defined, and the
last one brings whatever is defined between zero and the greatest offset.

## Contents
- `Comparable`: numbers that are compared in an orderly way.
- `Allowed`; `clamp_of_undefined`, `clamp_allowed`: what the last comparison makes of a number.
- `limit_allowed`, `ordered_of_comparable`: the greatest offset.
- `follow_undefined`, `follow_allowed`: the offset that is scrolled to.
- `Coordinate.doubles`: doubles with sums and differences of any kind; `ordered_float`, `follow_doubles`.
-/

namespace Kanban

/-- Numbers that are compared in an orderly way: nothing is below itself, what is undefined takes no part,
    and zero is defined. Sums and differences may be anything. -/
class Comparable (α : Type) [Coordinate α] : Prop where
  below_self (a : α) : Coordinate.below a a = false
  below_undefined {a b : α} (h : Coordinate.undefined a = true ∨ Coordinate.undefined b = true) :
    Coordinate.below a b = false
  zero_defined : Coordinate.undefined (0 : α) = false

namespace Scroll

open Coordinate Comparable

section Comparing

variable {α : Type} [Coordinate α] {a b : α}

/-! ## Comparing -/

theorem larger_defined (hb : undefined b = false) : undefined (larger a b) = false := by
  unfold larger
  by_cases ha : undefined a = true
  · rw [if_pos ha]
    exact hb
  · rw [if_neg ha]
    split
    · exact hb
    · exact Bool.eq_false_iff.mpr ha

theorem smaller_defined (hb : undefined b = false) : undefined (smaller a b) = false := by
  unfold smaller
  by_cases ha : undefined a = true
  · rw [if_pos ha]
    exact hb
  · rw [if_neg ha]
    split
    · exact hb
    · exact Bool.eq_false_iff.mpr ha

/-- Whether a number is an offset from zero up to a greatest one. -/
def Allowed (greatest x : α) : Prop := undefined x = false ∧ below x 0 = false ∧ below greatest x = false

variable [Comparable α] {greatest x : α}

/-- The larger one of a number and zero is not below zero. -/
theorem not_below_larger : below (larger a 0) 0 = false := by
  unfold larger
  by_cases ha : undefined a = true
  · rw [if_pos ha]
    exact below_self 0
  · rw [if_neg ha]
    by_cases hlow : below a 0 = true
    · rw [if_pos hlow]
      exact below_self 0
    · rw [if_neg hlow]
      exact Bool.eq_false_iff.mpr hlow

/-- What is undefined stays so. -/
theorem clamp_of_undefined (hx : undefined x = true) : clamp x 0 greatest = x := by
  simp [clamp, below_undefined (Or.inl hx), below_undefined (Or.inr hx)]

/-- What is defined is brought into range. -/
theorem clamp_allowed (hg : Allowed greatest greatest) (hx : undefined x = false) :
    Allowed greatest (clamp x 0 greatest) := by
  -- After the first comparison the number is defined and not below zero.
  have hfirst : undefined (if below x 0 then 0 else x) = false ∧
      below (if below x 0 then 0 else x) 0 = false := by
    by_cases hlow : below x 0 = true
    · rw [if_pos hlow]
      exact ⟨zero_defined, below_self 0⟩
    · rw [if_neg hlow]
      exact ⟨hx, Bool.eq_false_iff.mpr hlow⟩
  unfold clamp
  dsimp only
  by_cases hhigh : below greatest (if below x 0 then 0 else x) = true
  · rw [if_pos hhigh]
    exact hg
  · rw [if_neg hhigh]
    exact ⟨hfirst.1, hfirst.2, Bool.eq_false_iff.mpr hhigh⟩

end Comparing

/-! ## Following -/

section Following

variable {α : Type} [Coordinate α] [Comparable α]
variable (container helper : Bounds α) (offset contentWidth : α)

theorem limit_allowed : Allowed (limit container contentWidth) (limit container contentWidth) :=
  ⟨larger_defined zero_defined, not_below_larger, below_self _⟩

/-- **There is always a greatest offset,** and it is not below zero. -/
theorem ordered_of_comparable : ordered container contentWidth = true := by
  obtain ⟨hdefined, hzero, -⟩ := limit_allowed container contentWidth
  simp [ordered, hdefined, hzero]

/-- The correction for the left edge defines the offset. -/
theorem followLeft_undefined :
    undefined (followLeft container helper offset).2 = true ↔
      undefined offset = true ∧ below helper.left container.left = false := by
  unfold followLeft
  by_cases hfires : below helper.left container.left = true
  · have hdefined : undefined (larger (offset - (container.left - helper.left)) 0) = false :=
      larger_defined zero_defined
    simp [hfires, hdefined]
  · simp [hfires]

omit [Comparable α] in
/-- Without a left overflow the helper stays where it is. -/
theorem followLeft_of_not_below (h : below helper.left container.left = false) :
    followLeft container helper offset = (helper, offset) := by
  simp [followLeft, h]

omit [Comparable α] in
/-- The correction for the right edge defines the offset. -/
theorem followRight_undefined {greatest : α} (hg : undefined greatest = false) :
    undefined (followRight container helper offset greatest) = true ↔
      undefined offset = true ∧ below container.right helper.right = false := by
  unfold followRight
  by_cases hfires : below container.right helper.right = true
  · have hdefined : undefined (smaller (offset + (helper.right - container.right)) greatest) = false :=
      smaller_defined hg
    simp [hfires, hdefined]
  · simp [hfires]

/-- **An offset that is undefined** was so before, and neither edge called for a correction. -/
theorem follow_undefined :
    undefined (follow container helper offset contentWidth) = true ↔
      undefined offset = true ∧ below helper.left container.left = false ∧
        below container.right helper.right = false := by
  have hlimit := limit_allowed container contentWidth
  have hclamp (x : α) : undefined (clamp x 0 (limit container contentWidth)) = true ↔
      undefined x = true := by
    constructor
    · intro h
      by_contra hx
      rw [(clamp_allowed hlimit (Bool.eq_false_iff.mpr hx)).1] at h
      cases h
    · intro hx
      rw [clamp_of_undefined hx]
      exact hx
  have hleft := followLeft_undefined container helper offset
  unfold follow
  dsimp only
  rw [hclamp, followRight_undefined _ _ _ hlimit.1, hleft, and_assoc]
  -- Where the left edge calls for nothing, the right edge is looked at where it was.
  refine and_congr_right fun _ => and_congr_right fun hin => ?_
  rw [followLeft_of_not_below container helper offset hin]

/-- **An offset that is defined** is one that the container can be scrolled to. -/
theorem follow_allowed (h : undefined (follow container helper offset contentWidth) = false) :
    Allowed (limit container contentWidth) (follow container helper offset contentWidth) := by
  have hlimit := limit_allowed container contentWidth
  unfold follow at h ⊢
  dsimp only at h ⊢
  generalize followRight container _ _ _ = x at h ⊢
  by_cases hx : undefined x = true
  · rw [clamp_of_undefined hx, hx] at h
    cases h
  · exact clamp_allowed hlimit (Bool.eq_false_iff.mpr hx)

end Following

end Scroll

/-! ## Doubles -/

/-- Doubles that are compared as ever, with sums and differences of any kind. -/
@[reducible] def Coordinate.doubles (add sub : Float → Float → Float) : Coordinate Float where
  zero := 0
  add := add
  sub := sub
  below a b := decide (a < b)
  undefined := Float.isNaN

/-- Doubles with their own sums and differences. -/
theorem coordinate_eq_doubles : (inferInstance : Coordinate Float) = Coordinate.doubles (· + ·) (· - ·) := rfl

theorem comparable_doubles (add sub : Float → Float → Float) :
    letI := Coordinate.doubles add sub
    Comparable Float :=
  letI := Coordinate.doubles add sub
  { below_self := fun a => decide_eq_false (Double.not_lt_self a)
    below_undefined := fun h => decide_eq_false (Double.not_lt_of_isNaN h)
    zero_defined := show (0 : Float).isNaN = false by decide }

namespace Scroll

/-- With doubles there is always a greatest scroll offset. -/
theorem ordered_float (container : Bounds Float) (contentWidth : Float) :
    ordered container contentWidth = true :=
  have _ := comparable_doubles (· + ·) (· - ·)
  ordered_of_comparable container contentWidth

/-- **Whatever sums and differences of doubles are,** the greatest offset is defined and not below zero, the
    offset that is scrolled to is undefined only if it was so before and neither edge calls for a correction,
    and otherwise it lies between zero and the greatest one. -/
theorem follow_doubles (add sub : Float → Float → Float) (container helper : Bounds Float)
    (offset contentWidth : Float) :
    letI := Coordinate.doubles add sub
    let greatest := limit container contentWidth
    let scrolled := follow container helper offset contentWidth
    (greatest.isNaN = false ∧ 0 ≤ greatest) ∧
    (scrolled.isNaN = true ↔
      offset.isNaN = true ∧ ¬helper.left < container.left ∧ ¬container.right < helper.right) ∧
    (scrolled.isNaN = false → 0 ≤ scrolled ∧ scrolled ≤ greatest) := by
  let _ := Coordinate.doubles add sub
  have _ := comparable_doubles add sub
  intro greatest scrolled
  have hzero : (0 : Float).isNaN = false := by decide
  have hgreatest := limit_allowed container contentWidth
  have hundefined := follow_undefined container helper offset contentWidth
  refine ⟨⟨hgreatest.1, ?_⟩, ?_, fun hdefined => ?_⟩
  · exact (Double.not_lt_iff hgreatest.1 hzero).mp (of_decide_eq_false hgreatest.2.1)
  · exact hundefined.trans (and_congr_right' (and_congr decide_eq_false_iff_not decide_eq_false_iff_not))
  · have hallowed := follow_allowed container helper offset contentWidth hdefined
    exact ⟨(Double.not_lt_iff hdefined hzero).mp (of_decide_eq_false hallowed.2.1),
      (Double.not_lt_iff hgreatest.1 hdefined).mp (of_decide_eq_false hallowed.2.2)⟩

end Scroll
end Kanban
