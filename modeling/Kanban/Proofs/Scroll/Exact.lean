import Kanban.Scroll
import Mathlib.Algebra.Order.Ring.Rat
import Mathlib.Algebra.Order.Group.Abs
import Mathlib.Tactic.Linarith
import Mathlib.Tactic.Ring

/-!
# `Proofs.Scroll.Exact` — scrolling in exact numbers

A container looks at two edges of the helper, one after the other, and the helper moves in between. With
exact numbers the two corrections come to one formula. There is an offset at which the left edges of
container and helper meet and one at which the right edges meet. The content carries the helper along, so
scrolling changes neither of the two, and the helper is in sight exactly between them.

## Contents
- `Coordinate ℚ`; `nearest`: the nearest number of a range; `larger_exact`, `smaller_exact`, `clamp_exact`.
- `alignLeft`, `alignRight`: where edges meet, however far one has scrolled; `inside_carried_iff`.
- `followLeft_exact`, `followRight_exact`: the two corrections; `follow_exact`: both of them.
- `follow_nearest`: both of them come to a nearest number.
- `follow_corrects`: where a container scrolls to.
- `follow_settles`: it gets there in one step, and no further than needed.
-/

namespace Kanban

/-- Exact numbers; every one of them is defined. -/
instance : Coordinate ℚ where
  below a b := decide (a < b)
  undefined _ := false

namespace Bounds

/-- Whether an extent lies between the edges of another one. -/
def Inside (b outer : Bounds ℚ) : Prop := outer.left ≤ b.left ∧ b.right ≤ outer.right

theorem right_exact (b : Bounds ℚ) : b.right = b.left + b.width := rfl

theorem left_shifted (b : Bounds ℚ) (dx : ℚ) : (b.shifted dx).left = b.left + dx := rfl

theorem right_shifted (b : Bounds ℚ) (dx : ℚ) : (b.shifted dx).right = b.right + dx := by
  rw [right_exact, right_exact, left_shifted]
  exact add_right_comm b.left dx b.width

theorem shifted_zero (b : Bounds ℚ) : b.shifted 0 = b := by
  show (⟨b.left + 0, b.width⟩ : Bounds ℚ) = b
  rw [add_zero]

end Bounds

namespace Scroll

open Coordinate

/-! ## The nearest number of a range -/

/-- The number from `least` to `greatest` that is nearest to `x`. -/
def nearest (least greatest x : ℚ) : ℚ := max least (min x greatest)

section Nearest

variable {least greatest : ℚ}

theorem le_nearest (least greatest x : ℚ) : least ≤ nearest least greatest x := le_max_left _ _

theorem nearest_le (h : least ≤ greatest) (x : ℚ) : nearest least greatest x ≤ greatest :=
  max_le h (min_le_right _ _)

theorem nearest_of_mem {x : ℚ} (h : least ≤ x) (h' : x ≤ greatest) : nearest least greatest x = x := by
  rw [nearest, min_eq_left h', max_eq_right h]

theorem nearest_nearest (h : least ≤ greatest) (x : ℚ) :
    nearest least greatest (nearest least greatest x) = nearest least greatest x :=
  nearest_of_mem (le_nearest least greatest x) (nearest_le h x)

theorem nearest_mono (least greatest : ℚ) {x y : ℚ} (h : x ≤ y) :
    nearest least greatest x ≤ nearest least greatest y :=
  max_le_max_left least (min_le_min_right greatest h)

/-- Every other number of the range is farther away. -/
theorem abs_nearest_sub_lt {x p : ℚ} (h : least ≤ p) (h' : p ≤ greatest)
    (hne : p ≠ nearest least greatest x) : |nearest least greatest x - x| < |p - x| := by
  rcases lt_or_ge x least with hbelow | hleast
  · have hx : nearest least greatest x = least := max_eq_left (le_trans (min_le_left _ _) hbelow.le)
    have hp : least < p := lt_of_le_of_ne h fun he => hne (by rw [hx, he])
    rw [hx, abs_of_nonneg (by linarith), abs_of_nonneg (by linarith)]
    linarith
  · rcases lt_or_ge greatest x with habove | hgreatest
    · have hx : nearest least greatest x = greatest := by
        rw [nearest, min_eq_right habove.le, max_eq_right (h.trans h')]
      have hp : p < greatest := lt_of_le_of_ne h' fun he => hne (by rw [hx, he])
      rw [hx, abs_of_nonpos (by linarith), abs_of_nonpos (by linarith)]
      linarith
    · have hx : nearest least greatest x = x := nearest_of_mem hleast hgreatest
      rw [hx, sub_self, abs_zero, abs_pos]
      exact sub_ne_zero_of_ne fun he => hne (by rw [hx, he])

theorem abs_nearest_sub_le {p : ℚ} (h : least ≤ p) (h' : p ≤ greatest) (x : ℚ) :
    |nearest least greatest x - x| ≤ |p - x| := by
  by_cases hp : p = nearest least greatest x
  · rw [hp]
  · exact (abs_nearest_sub_lt h h' hp).le

end Nearest

/-! ## Comparing exact numbers -/

theorem larger_exact (a b : ℚ) : larger a b = max a b := by
  show (if decide (a < b) then b else a) = max a b
  grind

theorem smaller_exact (a b : ℚ) : smaller a b = min a b := by
  show (if decide (b < a) then b else a) = min a b
  grind

theorem clamp_exact {least greatest : ℚ} (h : least ≤ greatest) (x : ℚ) :
    clamp x least greatest = nearest least greatest x := by
  simp only [clamp, below, nearest, decide_eq_true_eq]
  grind

variable (container helper : Bounds ℚ) (offset contentWidth : ℚ)

theorem limit_exact : limit container contentWidth = max 0 (contentWidth - container.width) := by
  rw [limit, larger_exact, max_comm]

theorem limit_nonneg : 0 ≤ limit container contentWidth := by
  rw [limit_exact]
  exact le_max_left _ _

/-! ## Where edges meet -/

/-- The offset at which the left edges of a container and a helper meet. -/
def alignLeft : ℚ := offset - (container.left - helper.left)

/-- The offset at which the right edges of a container and a helper meet. -/
def alignRight : ℚ := offset + (helper.right - container.right)

/-- However far one has scrolled, the left edges meet at the same offset. -/
theorem alignLeft_carried (p : ℚ) :
    alignLeft container (helper.shifted (offset - p)) p = alignLeft container helper offset := by
  simp only [alignLeft, Bounds.left_shifted]
  ring

/-- However far one has scrolled, the right edges meet at the same offset. -/
theorem alignRight_carried (p : ℚ) :
    alignRight container (helper.shifted (offset - p)) p = alignRight container helper offset := by
  simp only [alignRight, Bounds.right_shifted]
  ring

/-- At an offset between the two the helper is in sight, and at no other one. -/
theorem inside_carried_iff (p : ℚ) :
    (helper.shifted (offset - p)).Inside container ↔
      alignRight container helper offset ≤ p ∧ p ≤ alignLeft container helper offset := by
  unfold Bounds.Inside alignLeft alignRight
  rw [Bounds.left_shifted, Bounds.right_shifted]
  constructor
  · rintro ⟨hleft, hright⟩
    exact ⟨by linarith, by linarith⟩
  · rintro ⟨hright, hleft⟩
    exact ⟨by linarith, by linarith⟩

/-- The two offsets lie as far apart as the widths of container and helper. -/
theorem alignLeft_sub_alignRight :
    alignLeft container helper offset - alignRight container helper offset =
      container.width - helper.width := by
  unfold alignLeft alignRight
  rw [Bounds.right_exact, Bounds.right_exact]
  ring

/-! ## The two corrections -/

/-- The offset after the correction for the left edge. -/
def leftCorrected : ℚ :=
  if alignLeft container helper offset < offset then max (alignLeft container helper offset) 0 else offset

/-- The correction for the left edge carries the helper along. -/
theorem followLeft_exact :
    followLeft container helper offset =
      (helper.shifted (offset - leftCorrected container helper offset),
        leftCorrected container helper offset) := by
  have hfires : helper.left < container.left ↔ alignLeft container helper offset < offset := by
    unfold alignLeft
    constructor <;> intro h <;> linarith
  simp only [followLeft, leftCorrected, below, decide_eq_true_eq, hfires]
  by_cases h : alignLeft container helper offset < offset
  · rw [if_pos h, if_pos h, larger_exact]
    rfl
  · rw [if_neg h, if_neg h, sub_self, Bounds.shifted_zero]

/-- The correction for the right edge goes to where the right edges meet, if that is further on. -/
theorem followRight_exact (greatest : ℚ) :
    followRight container helper offset greatest =
      if offset < alignRight container helper offset then
        min (alignRight container helper offset) greatest else offset := by
  have hfires : container.right < helper.right ↔ offset < alignRight container helper offset := by
    unfold alignRight
    constructor <;> intro h <;> linarith
  simp only [followRight, below, decide_eq_true_eq, hfires, smaller_exact]
  rfl

/-- Both corrections. What each of them clamps is clamped once more in the end. -/
theorem follow_exact :
    follow container helper offset contentWidth =
      nearest 0 (limit container contentWidth)
        (max (alignRight container helper offset) (min offset (alignLeft container helper offset))) := by
  have hlimit := limit_nonneg container contentWidth
  unfold follow
  rw [followLeft_exact]
  dsimp only
  -- The right edges meet where they met before the first correction carried the helper along.
  rw [followRight_exact, alignRight_carried, clamp_exact hlimit]
  unfold leftCorrected nearest
  generalize limit container contentWidth = greatest at hlimit
  generalize alignLeft container helper offset = left
  generalize alignRight container helper offset = right
  grind

/-- The least offset that a container scrolls to. -/
def leastOffset : ℚ := nearest 0 (limit container contentWidth) (alignRight container helper offset)

/-- The greatest offset that a container scrolls to. -/
def greatestOffset : ℚ :=
  nearest 0 (limit container contentWidth)
    (max (alignRight container helper offset) (alignLeft container helper offset))

theorem leastOffset_le_greatestOffset :
    leastOffset container helper offset contentWidth ≤ greatestOffset container helper offset contentWidth :=
  nearest_mono _ _ (le_max_left _ _)

/-- A container scrolls to the nearest offset of a range, which stays the same however far one has
    scrolled. -/
theorem follow_nearest :
    follow container helper offset contentWidth =
      nearest (leastOffset container helper offset contentWidth)
        (greatestOffset container helper offset contentWidth) offset := by
  have hlimit := limit_nonneg container contentWidth
  rw [follow_exact]
  unfold leastOffset greatestOffset nearest
  generalize limit container contentWidth = greatest at hlimit
  generalize alignLeft container helper offset = left
  generalize alignRight container helper offset = right
  grind

theorem leastOffset_carried (p : ℚ) :
    leastOffset container (helper.shifted (offset - p)) p contentWidth =
      leastOffset container helper offset contentWidth := by
  rw [leastOffset, alignRight_carried, leastOffset]

theorem greatestOffset_carried (p : ℚ) :
    greatestOffset container (helper.shifted (offset - p)) p contentWidth =
      greatestOffset container helper offset contentWidth := by
  rw [greatestOffset, alignRight_carried, alignLeft_carried, greatestOffset]

/-- If the helper can be in sight at all, it is in sight in the whole range, and at no other offset that the
    content allows. -/
theorem inside_iff_mem {p q : ℚ} (hp : 0 ≤ p) (hp' : p ≤ limit container contentWidth)
    (hin : (helper.shifted (offset - p)).Inside container)
    (hq : 0 ≤ q) (hq' : q ≤ limit container contentWidth) :
    (helper.shifted (offset - q)).Inside container ↔
      leastOffset container helper offset contentWidth ≤ q ∧
        q ≤ greatestOffset container helper offset contentWidth := by
  obtain ⟨hright, hleft⟩ := (inside_carried_iff container helper offset p).mp hin
  rw [inside_carried_iff]
  unfold leastOffset greatestOffset nearest
  rw [max_eq_right (hright.trans hleft)]
  constructor
  · rintro ⟨hright', hleft'⟩
    exact ⟨max_le hq (le_trans (min_le_left _ _) hright'), le_max_of_le_right (le_min hleft' hq')⟩
  · rintro ⟨hleast, hgreatest⟩
    rw [min_eq_left (hright.trans hp')] at hleast
    exact ⟨(le_max_right _ _).trans hleast,
      hgreatest.trans (max_le (hp.trans hleft) (min_le_left _ _))⟩

/-! ## Where a container scrolls to -/

/-- **Where a container scrolls to,** in exact numbers and for widths of any size.
    - The two corrections, with the helper carried along by the first one, come to one formula that is
      clamped once.
    - A helper that sticks out at the left is followed to there if nothing of it then sticks out at the
      right; otherwise the left overflow does not count. Without one, only the right overflow counts.
    - A helper wider than the container is followed to where the right edges meet, or as near to it as the
      content allows. -/
theorem follow_corrects (container helper : Bounds ℚ) (offset contentWidth : ℚ) :
    let greatest := max 0 (contentWidth - container.width)
    let clamped (x : ℚ) := max 0 (min x greatest)
    let leftOverflow := container.left - helper.left
    let rightOverflow := helper.right - container.right
    let scrolled := follow container helper offset contentWidth
    scrolled = clamped (max (offset + rightOverflow) (min offset (offset - leftOverflow))) ∧
    (0 < leftOverflow → (helper.shifted leftOverflow).right ≤ container.right →
      scrolled = clamped (offset - leftOverflow)) ∧
    (0 < leftOverflow → container.right < (helper.shifted leftOverflow).right →
      scrolled = clamped (offset + rightOverflow)) ∧
    (leftOverflow ≤ 0 → scrolled = clamped (offset + max 0 rightOverflow)) ∧
    (container.width < helper.width → scrolled = clamped (offset + rightOverflow) ∧
      ∀ p, 0 ≤ p → p ≤ greatest →
        |(helper.shifted (offset - scrolled)).right - container.right| ≤
          |(helper.shifted (offset - p)).right - container.right|) := by
  intro greatest clamped leftOverflow rightOverflow scrolled
  have hformula : scrolled = clamped (max (offset + rightOverflow) (min offset (offset - leftOverflow))) := by
    show follow container helper offset contentWidth = _
    rw [follow_exact, limit_exact]
    rfl
  have hwide : container.width < helper.width → scrolled = clamped (offset + rightOverflow) := by
    intro hwidth
    have happart := alignLeft_sub_alignRight container helper offset
    have hleft : offset - leftOverflow ≤ offset + rightOverflow := by
      show alignLeft container helper offset ≤ alignRight container helper offset
      linarith
    rw [hformula, max_eq_left ((min_le_right _ _).trans hleft)]
  refine ⟨hformula, ?_, ?_, ?_, fun hwidth => ⟨hwide hwidth, fun p hp hp' => ?_⟩⟩
  · intro hout hfits
    rw [Bounds.right_shifted] at hfits
    rw [hformula, min_eq_right (by linarith), max_eq_right (by grind)]
  · intro hout hover
    rw [Bounds.right_shifted] at hover
    rw [hformula, min_eq_right (by linarith), max_eq_left (by grind)]
  · intro hin
    have hright : max (offset + rightOverflow) offset = offset + max 0 rightOverflow := by
      rw [← max_add_add_left, add_zero, max_comm]
    rw [hformula, min_eq_left (by linarith), hright]
  · -- The right edges are as far apart as the offset is from where they meet.
    have hgap (q : ℚ) : |(helper.shifted (offset - q)).right - container.right| =
        |q - (offset + rightOverflow)| := by
      rw [Bounds.right_shifted, abs_sub_comm q]
      congr 1
      show helper.right + (offset - q) - container.right = offset + (helper.right - container.right) - q
      ring
    rw [hgap, hgap, hwide hwidth]
    exact abs_nearest_sub_le hp hp' _

/-- A helper of 650 in a container of 500 that sticks out at both ends is brought to the right edge. -/
theorem follow_corrects_wide :
    (500 : ℚ) < 650 ∧ follow (⟨0, 500⟩ : Bounds ℚ) ⟨-50, 650⟩ 200 1000 = 300 := by
  have hwide := (follow_corrects ⟨0, 500⟩ ⟨-50, 650⟩ 200 1000).2.2.2.2 (by norm_num)
  refine ⟨by norm_num, hwide.1.trans ?_⟩
  norm_num [Bounds.right_exact]

/-- **One step is enough,** and it goes no further than needed, in exact numbers and for widths of any size.
    - A second look, with the helper where the content has carried it, changes nothing.
    - If the helper can be in sight at an offset that the content allows, then it is in sight where the
      container scrolls to, and every other such offset is farther away.
    - In particular nothing moves while the helper is in sight and the offset is one that the content
      allows. -/
theorem follow_settles (container helper : Bounds ℚ) (offset contentWidth : ℚ) :
    let greatest := max 0 (contentWidth - container.width)
    let scrolled := follow container helper offset contentWidth
    follow container (helper.shifted (offset - scrolled)) scrolled contentWidth = scrolled ∧
    (∀ p, 0 ≤ p → p ≤ greatest → (helper.shifted (offset - p)).Inside container →
      0 ≤ scrolled ∧ scrolled ≤ greatest ∧ (helper.shifted (offset - scrolled)).Inside container ∧
      |scrolled - offset| ≤ |p - offset| ∧ (|scrolled - offset| = |p - offset| → scrolled = p)) ∧
    (helper.Inside container → 0 ≤ offset → offset ≤ greatest → scrolled = offset) := by
  intro greatest scrolled
  have hgreatest : limit container contentWidth = greatest := limit_exact container contentWidth
  have horder := leastOffset_le_greatestOffset container helper offset contentWidth
  have hscrolled : scrolled = nearest (leastOffset container helper offset contentWidth)
      (greatestOffset container helper offset contentWidth) offset :=
    follow_nearest container helper offset contentWidth
  have hbest (p : ℚ) (hp : 0 ≤ p) (hp' : p ≤ greatest)
      (hin : (helper.shifted (offset - p)).Inside container) :
      0 ≤ scrolled ∧ scrolled ≤ greatest ∧ (helper.shifted (offset - scrolled)).Inside container ∧
      |scrolled - offset| ≤ |p - offset| ∧ (|scrolled - offset| = |p - offset| → scrolled = p) := by
    rw [← hgreatest] at hp' ⊢
    have hnonneg : 0 ≤ scrolled := by
      rw [hscrolled]
      exact (le_nearest _ _ _).trans (le_nearest _ _ _)
    have hle : scrolled ≤ limit container contentWidth := by
      rw [hscrolled]
      exact (nearest_le horder _).trans (nearest_le (limit_nonneg container contentWidth) _)
    obtain ⟨hleast, hmost⟩ := (inside_iff_mem container helper offset contentWidth hp hp' hin hp hp').mp hin
    refine ⟨hnonneg, hle, ?_, ?_, ?_⟩
    · rw [inside_iff_mem container helper offset contentWidth hp hp' hin hnonneg hle, hscrolled]
      exact ⟨le_nearest _ _ _, nearest_le horder _⟩
    · rw [hscrolled]
      exact abs_nearest_sub_le hleast hmost offset
    · intro hsame
      by_contra hne
      rw [hscrolled] at hsame hne
      exact (abs_nearest_sub_lt hleast hmost (Ne.symm hne)).ne hsame
  refine ⟨?_, hbest, ?_⟩
  · -- The range of the second look is that of the first one.
    rw [follow_nearest, leastOffset_carried, greatestOffset_carried, hscrolled, nearest_nearest horder]
  · intro hin hzero hlimit
    have hstays : (helper.shifted (offset - offset)).Inside container := by
      rw [sub_self, Bounds.shifted_zero]
      exact hin
    have hclosest := (hbest offset hzero hlimit hstays).2.2.2.1
    rw [sub_self, abs_zero] at hclosest
    exact sub_eq_zero.mp (abs_nonpos_iff.mp hclosest)

/-- A helper that sticks out by 100 at the right is brought into sight by scrolling 100 and no less. -/
theorem follow_settles_overflow :
    (0 : ℚ) ≤ 150 ∧ (150 : ℚ) ≤ max 0 (800 - 500) ∧
      ((⟨400, 200⟩ : Bounds ℚ).shifted (0 - 150)).Inside ⟨0, 500⟩ ∧
      |follow (⟨0, 500⟩ : Bounds ℚ) ⟨400, 200⟩ 0 800 - 0| ≤ |(150 : ℚ) - 0| := by
  have hrange : (150 : ℚ) ≤ max 0 (800 - 500) := by norm_num
  have hin : ((⟨400, 200⟩ : Bounds ℚ).shifted (0 - 150)).Inside ⟨0, 500⟩ := by
    rw [inside_carried_iff]
    norm_num [alignLeft, alignRight, Bounds.right_exact]
  have hsettles := (follow_settles ⟨0, 500⟩ ⟨400, 200⟩ 0 800).2.1 150 (by norm_num) hrange hin
  exact ⟨by norm_num, hrange, hin, hsettles.2.2.2.1⟩

end Scroll
end Kanban
