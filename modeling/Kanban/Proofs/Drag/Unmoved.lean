import Kanban.Proofs.Board.Arrivals
import Kanban.Proofs.Board.Unmarked
import Kanban.Proofs.Drag.Steps

/-!
# `Proofs.Drag.Unmoved` — a controller never moves a card

Whoever drags a card across a board only seems to move it. The controller marks the card, and it is up to
the callback, or to whoever else is there, to move it. Without the marks the board of a scene is the one that
the others would have made by themselves.

## Contents
- `Board.Consistent.of_unmarked`, `Board.Follows.of_unmarked`: marks have nothing to do with arrivals.
- `Scene.edits`: what others do to the board in several events.
- `board_step`: an event of the controller marks one card at most; `unmarked_step`, `unmarked_run`: the board
  beside the one that others make.
- `board_unmoved`: what a controller does to a board.
- `follows_arrivals_run`: the board of a scene as a history of arrivals.
-/

namespace Kanban

namespace Board

variable {b b' : Board}

/-- Who owns a card does not depend on marks. -/
theorem owns_of_unmarked (h : b.unmarked = b'.unmarked) : b.owns = b'.owns := by
  funext container x
  have hcard := (unmarked_eq_iff.mp h).2 x
  unfold owns
  cases hb : b.card? x with
  | none =>
    rw [hb] at hcard
    rw [Option.map_eq_none_iff.mp hcard.symm]
  | some c =>
    rw [hb] at hcard
    obtain ⟨c', hc', hsame⟩ := Option.map_eq_some_iff.mp hcard.symm
    rw [hc']
    exact congrArg (fun home => decide (home = container)) (congrArg Card.container hsame).symm

theorem Consistent.of_unmarked (h : b'.Consistent) (hb : b.unmarked = b'.unmarked) : b.Consistent := by
  obtain ⟨hcontainers, hcards⟩ := unmarked_eq_iff.mp hb
  have hcard : ∀ x c, b.card? x = some c → ∃ c', b'.card? x = some c' ∧ c'.unmarked = c.unmarked := by
    intro x c hx
    have hx' := hcards x
    rw [hx] at hx'
    exact Option.map_eq_some_iff.mp hx'.symm
  refine ⟨hcontainers ▸ h.ids, fun x c hx => ?_, fun x c hx => ?_, hcontainers ▸ h.nodup, ?_⟩
  · obtain ⟨c', hc', hsame⟩ := hcard x c hx
    exact (congrArg Card.id hsame).symm.trans (h.key x c' hc')
  · obtain ⟨c', hc', hsame⟩ := hcard x c hx
    rw [hcontainers, show c.container = c'.container from (congrArg Card.container hsame).symm]
    exact h.home x c' hc'
  · rw [hcontainers, owns_of_unmarked hb]
    exact h.mem_iff

/-- Marks are no arrivals. -/
theorem Follows.of_unmarked {created arrived : List String} (h : Follows b' created arrived)
    (hb : b.unmarked = b'.unmarked) : Follows b created arrived :=
  h.of_kept (f := id) (h.consistent.of_unmarked hb) (fun _ => ⟨rfl, rfl⟩)
    ((unmarked_eq_iff.mp hb).1.trans (List.map_id _).symm) (owns_of_unmarked hb)

end Board

namespace Scene

variable {κ : Type} {w : Scene κ}

/-- The operations that others try on the board in several events. -/
def edits : List (Event κ) → List Board.Edit
  | [] => []
  | .edit e :: es => e :: edits es
  | _ :: es => edits es

/-! ## One step -/

/-- Letting go of a card changes the board in its mark at most. -/
theorem letGo_board (s : Commons) (card : String) :
    (s.letGo card).1.board = s.board ∨ (s.letGo card).1.board = s.board.setDragging card false := by
  cases hp : s.poisoned with
  | true =>
    rw [Commons.letGo_of_poisoned card hp]
    exact Or.inl rfl
  | false =>
    rw [Commons.letGo_of_clean card hp]
    exact Or.inr rfl

/-- Of what others do, only operations on the board change it. -/
theorem amid_board {e : Event κ} (he : ∀ edit, e ≠ .edit edit) (s : Commons) :
    (e.amid s).board = s.board := by
  cases e with
  | edit e => exact absurd rfl (he e)
  | _ => rfl

/-- **One step** in which nobody else operates on the board marks one card at most, or takes its mark off:
    the card that is in hand before or after it. -/
theorem board_step (hq : w.Quiet) {e : Event κ} (he : ∀ edit, e ≠ .edit edit) :
    let w' := (w.step e).1
    w'.commons.board = w.commons.board ∨
      ∃ card mark, (w.inHand = some card ∨ w'.inHand = some card) ∧
        w'.commons.board = w.commons.board.setDragging card mark := by
  intro w'
  obtain ⟨_, heffect⟩ := step_effect hq e
  change Effect w e w'.inHand w'.commons at heffect
  generalize w'.inHand = hand, w'.commons = s at heffect ⊢
  cases heffect with
  | kept hc hg => exact Or.inl (amid_board he w.commons)
  | @takenUp card left hn hp hb => exact Or.inr ⟨card, true, Or.inr rfl, rfl⟩
  | @settled card hh hc | @concluded card hh hc =>
    rcases letGo_board w.commons card with hsame | hmark
    · exact Or.inl hsame
    · exact Or.inr ⟨card, false, Or.inl hh, hmark⟩
  | refused | cancelled | dismissed => exact Or.inl rfl

/-- So without the marks nothing happens to the board. -/
theorem unmarked_kept (hq : w.Quiet) {e : Event κ} (he : ∀ edit, e ≠ .edit edit) :
    (w.step e).1.commons.board.unmarked = w.commons.board.unmarked := by
  rcases board_step hq he with hsame | ⟨card, mark, _, hmark⟩
  · rw [hsame]
  · rw [hmark, Board.unmarked_setDragging]

/-- **One step** beside what others do. -/
theorem unmarked_step (hq : w.Quiet) (e : Event κ) :
    (w.step e).1.commons.board.unmarked = (w.commons.board.attempts (edits [e])).unmarked := by
  cases e with
  | edit e => rfl
  | _ => exact unmarked_kept hq fun edit h => (by cases h)

theorem edits_cons (e : Event κ) (es : List (Event κ)) : edits (e :: es) = edits [e] ++ edits es := by
  cases e <;> rfl

/-! ## Whole runs -/

/-- **A whole run.** -/
theorem unmarked_run (hq : w.Quiet) (es : List (Event κ)) :
    (w.run es).commons.board.unmarked = (w.commons.board.attempts (edits es)).unmarked := by
  induction es generalizing w with
  | nil => rfl
  | cons e rest ih =>
    have hstep := unmarked_step hq e
    have hrest := ih (quiet_step hq e)
    rw [run_cons, hrest, edits_cons, Board.attempts_append]
    exact Board.attempts_congr hstep (edits rest)

/-- **What a controller does to a board,** whatever it is made to do, on any board and whoever else acts
    on it.
    - Without the marks the board is the one that the others alone would have made, and nobody who operates
      on it is told anything else than without the controller.
    - An event in which nobody else operates on the board leaves all containers alone, and all cards but for
      their marks. It changes the mark of one card at most, which is the one in hand. -/
theorem board_unmoved (c : Controller κ) (s : Commons) (es : List (Event κ)) :
    let w := (Scene.new c s).run es
    let alone := s.board.attempts (edits es)
    w.commons.board.unmarked = alone.unmarked ∧
    (∀ edit, (w.commons.board.attempt edit).2 = (alone.attempt edit).2) ∧
    ∀ e, (∀ edit, e ≠ .edit edit) →
      let w' := (w.step e).1
      w'.commons.board.containers = w.commons.board.containers ∧
      (∀ y, (w'.commons.board.card? y).map Card.unmarked = (w.commons.board.card? y).map Card.unmarked) ∧
      (w'.commons.board = w.commons.board ∨
        ∃ card mark, (w.inHand = some card ∨ w'.inHand = some card) ∧
          w'.commons.board = w.commons.board.setDragging card mark) := by
  intro w alone
  have hq : w.Quiet := quiet_run quiet_new es
  have hrun : w.commons.board.unmarked = alone.unmarked := unmarked_run quiet_new es
  refine ⟨hrun, ?_, ?_⟩
  · intro edit
    exact (Board.attempt_congr hrun edit).2
  · intro e he w'
    obtain ⟨hcontainers, hcards⟩ := Board.unmarked_eq_iff.mp (unmarked_kept hq he)
    exact ⟨hcontainers, hcards, board_step hq he⟩

/-- A card is dropped on another column, and somebody else moves it there while the release waits. -/
def overtaken : List (Event Unit) :=
  [.edit (.addContainer "todo" true), .edit (.addContainer "done" true),
    .edit (.addCard "todo" "c1" (.flag true) 100), .registerZone "done" (some ()),
    .registerDraggable "c1" true, .start "c1" 0, .dropOn "done", .release, .callbackReturns,
    .edit (.transfer "c1" "done"), .answer 0 false]

/-- The end of that release takes the mark off the card and leaves it where it is. -/
theorem board_unmoved_overtaken :
    let w : Scene Unit := (Scene.new (Controller.new ⟨⟨0, 500⟩, 500, 0⟩) (.ofBoard .empty)).run overtaken
    let w' := (w.step .poll).1
    w.commons.board.unmarked = (Board.empty.attempts (edits overtaken)).unmarked ∧
      w.inHand = some "c1" ∧ w'.inHand = none ∧ w'.commons.board ≠ w.commons.board ∧
      w'.commons.board.containers = w.commons.board.containers ∧
      ∃ mark, w'.commons.board = w.commons.board.setDragging "c1" mark := by
  have hunmoved := board_unmoved (Controller.new ⟨⟨0, 500⟩, 500, 0⟩) (.ofBoard .empty) overtaken
  have hfacts :
      let w : Scene Unit := (Scene.new (Controller.new ⟨⟨0, 500⟩, 500, 0⟩) (.ofBoard .empty)).run overtaken
      let w' := (w.step .poll).1
      w.inHand = some "c1" ∧ w'.inHand = none ∧
        (w'.commons.board.card? "c1").map (·.dragging) ≠ (w.commons.board.card? "c1").map (·.dragging) := by
    decide +kernel
  intro w w'
  obtain ⟨hhand, hnone, hmark⟩ := hfacts
  obtain ⟨hboard, _, hstep⟩ := hunmoved
  obtain ⟨hcontainers, _, hmarked⟩ := hstep .poll fun edit h => (by cases h)
  have hne : w'.commons.board ≠ w.commons.board := fun h => hmark (by rw [h])
  refine ⟨hboard, hhand, hnone, hne, hcontainers, ?_⟩
  rcases hmarked with hsame | ⟨card, mark, hcard, hset⟩
  · exact absurd hsame hne
  · have hc1 : w.inHand = some card := hcard.resolve_right fun h => by
      rw [hnone] at h
      cases h
    rw [hhand] at hc1
    cases hc1
    exact ⟨mark, hset⟩

/-- **The board of a scene is the history of its arrivals,** where it is empty at first and nobody loads
    another one. Whatever is dragged there, only the operations of others count. -/
theorem follows_arrivals_run (c : Controller κ) {es : List (Event κ)}
    (h : ∀ e ∈ edits es, e.replaces = false) :
    let ops := (edits es).filterMap Board.Edit.operation?
    ((Scene.new c (.ofBoard .empty)).run es).commons.board.Follows (Board.creations ops)
      (Board.arrivals ops) := by
  intro ops
  have hunmarked := unmarked_run (quiet_new (c := c) (s := .ofBoard .empty)) es
  have hmade : Board.empty.attempts (edits es) = Board.made ops := Board.attempts_eq_performed h .empty
  have hfollows : (Board.made ops).Follows (Board.creations ops) (Board.arrivals ops) :=
    Board.follows_foldl Board.follows_empty ops
  exact hfollows.of_unmarked (hunmarked.trans (congrArg Board.unmarked hmade))

end Scene
end Kanban
