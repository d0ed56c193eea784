import Kanban.Proofs.Drag.Sessions
import Kanban.Proofs.Scroll.Range

/-!
# `Proofs.Drag.Scrolling` — scrolling during a drag

A session measures the scrolled content when its card is taken up, and all its moves scroll within that
width. The viewport may be given another width or another offset at any time; only an offset that is
undefined keeps a move from bringing it into range.

## Contents
- `Controller.move_of_session`, `move_in_range`: one move.
- `Scene.Measures`, `measures_step`, `measures_run`: the width that a session has measured.
- `scroll_in_range`: every scroll, and every move of a drag.
-/

namespace Kanban

/-! ## One move -/

namespace Controller

variable {κ : Type} {c : Controller κ} {x : Session}

/-- A move with a session scrolls, and the viewport takes an offset that is another one. -/
theorem move_of_session (hs : c.session = some x) (left : Float) :
    let offset := Scroll.follow c.viewport.bounds ⟨left, x.helper.width⟩ c.viewport.offset x.contentWidth
    c.move left = .ok ({ c with
      session := some { x with helper := ⟨left, x.helper.width⟩ }
      viewport := if offset != c.viewport.offset then { c.viewport with offset } else c.viewport }, offset) := by
  unfold move
  rw [hs]

/-- **One move** from an offset that is defined ends at one within what the session has measured. -/
theorem move_in_range (hs : c.session = some x) (ho : c.viewport.offset.isNaN = false) (left : Float) :
    ∃ c' offset, c.move left = .ok (c', offset) ∧ (offset == c'.viewport.offset) = true ∧
      0 ≤ offset ∧ offset ≤ Scroll.limit c.viewport.bounds x.contentWidth := by
  have hmove := move_of_session hs left
  obtain ⟨-, hundefined, hrange⟩ := Scroll.follow_doubles (· + ·) (· - ·) c.viewport.bounds
    ⟨left, x.helper.width⟩ c.viewport.offset x.contentWidth
  rw [← coordinate_eq_doubles] at hundefined hrange
  generalize Scroll.follow c.viewport.bounds ⟨left, x.helper.width⟩ c.viewport.offset x.contentWidth = offset
    at hmove hundefined hrange
  have hdefined : offset.isNaN = false := by
    refine Bool.eq_false_iff.mpr fun h => ?_
    rw [(hundefined.mp h).1] at ho
    cases ho
  refine ⟨_, offset, hmove, ?_, hrange hdefined⟩
  dsimp only
  by_cases hsame : (offset != c.viewport.offset) = true
  · rw [if_pos hsame]
    exact Double.beq_self hdefined
  · rw [if_neg hsame]
    simpa [bne] using hsame

end Controller

/-! ## A whole drag -/

namespace Scene

variable {κ : Type} {w : Scene κ}

/-- A session, if there is one, has measured the scrolled content to be so wide. -/
def Measures (contentWidth : Float) (w : Scene κ) : Prop :=
  ∀ x, w.controller.session = some x → x.contentWidth = contentWidth

/-- A card that was taken up stays known. -/
theorem eq_none_of_takenFrom {before : Option (String × Card)} {es : List (Event κ)}
    (h : w.takenFrom before es = none) : before = none := by
  induction es generalizing w before with
  | nil => exact h
  | cons e rest ih =>
    have hboth : (w.takesUp e).or before = none := ih h
    exact (Option.or_eq_none_iff.mp hboth).2

/-- **One step** keeps what the session has measured, unless a card is taken up. -/
theorem measures_step {contentWidth : Float} (h : w.Measures contentWidth) {e : Event κ}
    (ht : w.takesUp e = none) : (w.step e).1.Measures contentWidth := by
  have hleads := step_leads w e
  unfold Measures
  generalize (w.step e).2 = note, (w.step e).1.controller.session = after at hleads ⊢
  intro y hy
  cases hleads with
  | kept => exact h y hy
  | opened hopened =>
    rw [hopened] at ht
    cases ht
  | @moved x left _ hx =>
    cases hy
    exact h x hx
  | @aimed x target hx =>
    cases hy
    exact h x hx
  | ended => cases hy

/-- **A whole run** keeps what the session has measured, as long as no card is taken up. -/
theorem measures_run {contentWidth : Float} (h : w.Measures contentWidth) {es : List (Event κ)}
    (ht : w.taken es = none) : (w.run es).Measures contentWidth := by
  induction es generalizing w with
  | nil => exact h
  | cons e rest ih =>
    have htakes : w.takesUp e = none := (Option.or_eq_none_iff.mp (eq_none_of_takenFrom ht)).1
    have hrest : (w.step e).1.takenFrom ((w.takesUp e).or none) rest = none := ht
    rw [htakes] at hrest
    exact ih (measures_step h htakes) hrest

/-- A card that is taken up has the scrolled content measured. -/
theorem measures_of_started {card : String} {left : Float} {issue : Payload}
    (h : (w.step (.start card left)).2 = .started issue) :
    (w.step (.start card left)).1.Measures w.controller.viewport.contentWidth := by
  have hfree : w.isFree = true := by
    by_contra hf
    rw [show w.step (.start card left) = w.whenFree (w.start card left) from rfl, whenFree, if_neg hf] at h
    cases h
  rw [show w.step (.start card left) = w.start card left from if_pos hfree] at h ⊢
  unfold start at h ⊢
  cases hstart : w.controller.start w.commons card left with
  | error fault =>
    rw [hstart] at h
    cases h
  | ok result =>
    obtain ⟨c, s⟩ := result
    obtain ⟨_, _, _, found, _, rfl, rfl⟩ := Controller.start_eq_ok hstart
    intro x hx
    cases hx
    rfl

/-- A session is moved at once. -/
theorem step_move_of_session (hq : w.Quiet) {x : Session} (hs : w.controller.session = some x)
    (left : Float) : w.step (.move left) = w.move left := by
  have hfree : w.isFree = true := by
    by_contra hf
    rw [hq (Bool.eq_false_iff.mpr hf)] at hs
    cases hs
  exact if_pos hfree

end Scene

/-! ## Every scroll -/

open Scene in
/-- **Scrolling stays in range,** whatever numbers there are.
    - Whatever sums and differences of doubles are, the greatest offset is defined and not below zero. The
      offset that is scrolled to is undefined exactly if it was so before and neither edge calls for a
      correction, and otherwise it lies between zero and the greatest one.
    - After a card was taken up, and as long as its session is open, every move from an offset that is
      defined ends at one between zero and the greatest one for the width that was measured when the card
      was taken up. The viewport has that offset then, whatever else was set or moved in between. -/
theorem scroll_in_range :
    (∀ (add sub : Float → Float → Float) (container helper : Bounds Float) (offset contentWidth : Float),
      letI := Coordinate.doubles add sub
      let greatest := Scroll.limit container contentWidth
      let scrolled := Scroll.follow container helper offset contentWidth
      (greatest.isNaN = false ∧ 0 ≤ greatest) ∧
      (scrolled.isNaN = true ↔
        offset.isNaN = true ∧ ¬helper.left < container.left ∧ ¬container.right < helper.right) ∧
      (scrolled.isNaN = false → 0 ≤ scrolled ∧ scrolled ≤ greatest)) ∧
    (∀ (κ : Type) (viewport : Viewport) (s : Commons) (before between : List (Event κ)) (card : String)
        (left : Float) (issue : Payload) (helperLeft : Float),
      let u := (Scene.new (Controller.new viewport) s).run before
      let started := u.step (.start card left)
      let w := started.1.run between
      let v := (w.step (.move helperLeft)).1.controller.viewport
      let greatest :=
        Coordinate.larger (u.controller.viewport.contentWidth - w.controller.viewport.bounds.width) 0
      started.2 = .started issue → started.1.taken between = none → w.controller.session.isSome = true →
      w.controller.viewport.offset.isNaN = false →
      ∃ offset, (w.step (.move helperLeft)).2 = .offset offset ∧ (offset == v.offset) = true ∧
        (0 ≤ offset ∧ offset ≤ greatest) ∧ (0 ≤ v.offset ∧ v.offset ≤ greatest)) := by
  refine ⟨Scroll.follow_doubles, ?_⟩
  intro κ viewport s before between card left issue helperLeft u started w v greatest hstarted htaken hopen
    hoffset
  obtain ⟨x, hx⟩ := Option.isSome_iff_exists.mp hopen
  have hmeasured : x.contentWidth = u.controller.viewport.contentWidth :=
    measures_run (measures_of_started hstarted) htaken x hx
  have hquiet : w.Quiet := quiet_run (quiet_step (quiet_run quiet_new before) _) between
  obtain ⟨c, offset, hmove, hsame, hrange⟩ := Controller.move_in_range hx hoffset helperLeft
  have hstep : w.step (.move helperLeft) = (w.withController c w.commons, .offset offset) := by
    rw [step_move_of_session hquiet hx, move, hmove]
  have hv : v = c.viewport := by
    show (w.step (.move helperLeft)).1.controller.viewport = c.viewport
    rw [hstep]
    rfl
  rw [hmeasured] at hrange
  rw [hv, hstep]
  refine ⟨offset, rfl, hsame, hrange, ?_, ?_⟩
  · exact (Double.le_congr_right hsame).mp hrange.1
  · exact (Double.le_congr_left hsame).mp hrange.2

/-- A board with one card that may be dragged. -/
def laidOut : List (Scene.Event Unit) :=
  [.edit (.addContainer "todo" true), .edit (.addCard "todo" "c1" (.flag true) 200),
    .registerDraggable "c1" true]

/-- A card of 200 is dragged out of a container of 500 over 800 of content. Then the content's width is set
    to something undefined and the offset far beyond the content; the next move is in range all the same. -/
theorem scroll_in_range_resized :
    let u : Scene Unit := (Scene.new (Controller.new ⟨⟨0, 500⟩, 800, 0⟩) (.ofBoard .empty)).run laidOut
    let w := (u.step (.start "c1" 0)).1.run [.move 450, .setViewport (some (0 / 0)) (some 1000)]
    (∃ issue, (u.step (.start "c1" 0)).2 = .started issue) ∧ w.controller.session.isSome = true ∧
      w.controller.viewport.offset.isNaN = false ∧
      ∃ offset, (w.step (.move (-40))).2 = .offset offset ∧ 0 ≤ offset ∧ offset ≤ 300 := by
  have hrange := scroll_in_range.2 Unit ⟨⟨0, 500⟩, 800, 0⟩ (.ofBoard .empty) laidOut
    [.move 450, .setViewport (some (0 / 0)) (some 1000)] "c1" 0
  have hfacts :
      let u : Scene Unit := (Scene.new (Controller.new ⟨⟨0, 500⟩, 800, 0⟩) (.ofBoard .empty)).run laidOut
      let started := u.step (.start "c1" 0)
      let w := started.1.run [.move 450, .setViewport (some (0 / 0)) (some 1000)]
      (u.takesUp (.start "c1" 0)).isSome = true ∧
      (started.1.taken [.move 450, .setViewport (some (0 / 0)) (some 1000)]).isNone = true ∧
      w.controller.session.isSome = true ∧ w.controller.viewport.offset.isNaN = false ∧
      Coordinate.larger (u.controller.viewport.contentWidth - w.controller.viewport.bounds.width) 0 = 300 := by
    decide +kernel
  -- From here on the scene is whatever it is; only these facts about it matter.
  generalize (Scene.new (Controller.new ⟨⟨0, 500⟩, 800, 0⟩) (.ofBoard .empty) : Scene Unit).run laidOut = u
    at hrange hfacts ⊢
  intro u w
  obtain ⟨hstarted, htaken, hopen, hoffset, hgreatest⟩ := hfacts
  obtain ⟨issue, hissue⟩ := Scene.exists_started_of_takesUp hstarted
  obtain ⟨offset, hnote, -, hbetween, -⟩ :=
    hrange issue (-40) hissue (Option.isNone_iff_eq_none.mp htaken) hopen hoffset
  rw [hgreatest] at hbetween
  exact ⟨⟨issue, hissue⟩, hopen, hoffset, offset, hnote, hbetween⟩

end Kanban
