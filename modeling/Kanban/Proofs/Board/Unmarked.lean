import Kanban.Proofs.Board.InPlace
import Kanban.Proofs.Dict

/-!
# `Proofs.Board.Unmarked` — a board without its marks

The mark that a card is being dragged is the only thing on a board that the operations of a board never read.
So two boards that differ in their marks alone are treated alike: an operation is refused on both for the
same reason, or it leaves boards behind that differ in their marks alone.

## Contents
- `Board.unmarked`: a board whose marks are taken off; `unmarked_eq_iff`: what is left of it.
- `apply_unmarked`, `apply_congr`: an operation and the marks.
- `attempt_congr`, `attempts_congr`: operations that may be refused, and several of them.
-/

namespace Kanban

/-- A card without its mark. -/
def Card.unmarked (c : Card) : Card := { c with dragging := false }

namespace Board

variable {b b' : Board}

/-- A board without its marks. -/
def unmarked (b : Board) : Board := { b with cards := b.cards.mapValues Card.unmarked }

@[simp] theorem unmarked_containers (b : Board) : b.unmarked.containers = b.containers := rfl

theorem unmarked_container? (b : Board) (id : String) : b.unmarked.container? id = b.container? id := rfl

theorem unmarked_findContainer (b : Board) (id : String) :
    b.unmarked.findContainer id = b.findContainer id := rfl

theorem unmarked_card? (b : Board) (id : String) : b.unmarked.card? id = (b.card? id).map Card.unmarked :=
  Dict.get?_mapValues b.cards Card.unmarked id

/-- **Boards that differ in their marks alone** have the same containers, and the same cards but for the
    marks. -/
theorem unmarked_eq_iff : b.unmarked = b'.unmarked ↔
    b.containers = b'.containers ∧ ∀ y, (b.card? y).map Card.unmarked = (b'.card? y).map Card.unmarked := by
  constructor
  · intro h
    have hcontainers : b.unmarked.containers = b'.unmarked.containers := by rw [h]
    refine ⟨hcontainers, fun y => ?_⟩
    rw [← unmarked_card?, ← unmarked_card?, h]
  · rintro ⟨hcontainers, hcards⟩
    have hdict : b.unmarked.cards = b'.unmarked.cards := by
      refine Dict.ext_get? fun y => ?_
      exact (unmarked_card? b y).trans ((hcards y).trans (unmarked_card? b' y).symm)
    show (⟨b.containers, b.unmarked.cards⟩ : Board) = ⟨b'.containers, b'.unmarked.cards⟩
    rw [hcontainers, hdict]

/-! ## Operations and marks -/

/-- Marking a card is all about marks. -/
theorem unmarked_setDragging (b : Board) (card : String) (d : Bool) :
    (b.setDragging card d).unmarked = b.unmarked := by
  have hunseen : ∀ c : Card, Card.unmarked { c with dragging := d } = c.unmarked := fun _ => rfl
  have hcards : (b.setDragging card d).unmarked.cards = b.unmarked.cards :=
    Dict.mapValues_modify_of_unseen hunseen b.cards card
  exact congrArg (Board.mk b.containers) hcards

theorem addContainer_unmarked (b : Board) (id : String) (droppable : Bool) :
    b.unmarked.addContainer id droppable = (b.addContainer id droppable).map unmarked := by
  unfold addContainer
  rw [unmarked_container?]
  split <;> rfl

theorem addCard_unmarked (b : Board) (container id : String) (issue : Payload) (width : Float) :
    b.unmarked.addCard container id issue width = (b.addCard container id issue width).map unmarked := by
  have hcontains : b.unmarked.cards.contains id = b.cards.contains id := Dict.contains_mapValues ..
  unfold addCard
  rw [hcontains, unmarked_findContainer]
  cases b.cards.contains id with
  | true => rfl
  | false =>
    cases b.findContainer container with
    | error fault => rfl
    | ok k =>
      -- A new card has no mark that could be taken off.
      have hcards : (b.cards.insert id ⟨id, issue, container, width, false⟩).mapValues Card.unmarked =
          b.unmarked.cards.insert id ⟨id, issue, container, width, false⟩ := Dict.mapValues_insert ..
      simp only [bind, Except.bind, pure, Except.pure, Except.map, unmarked, Bool.false_eq_true, if_false]
      rw [updateContainer_cards, updateContainer_cards, hcards]
      rfl

theorem unmarked_transferred (b : Board) (card source target : String) :
    (b.transferred card source target).unmarked = b.unmarked.transferred card source target := by
  let move : Card → Card := fun c => { c with container := target }
  have hmove : ∀ c : Card, (move c).unmarked = move c.unmarked := fun _ => rfl
  have hcards : (b.transferred card source target).unmarked.cards =
      (b.unmarked.transferred card source target).cards :=
    Dict.mapValues_modify (f := Card.unmarked) (g := move) (h := move) hmove b.cards card
  exact congrArg (Board.mk (b.transferred card source target).containers) hcards

theorem transfer_unmarked (b : Board) (card target : String) :
    b.unmarked.transfer card target = (b.transfer card target).map unmarked := by
  cases hc : b.card? card with
  | none =>
    have hnone : b.unmarked.card? card = none := by rw [unmarked_card?, hc]; rfl
    rw [transfer_of_none hc, transfer_of_none hnone]
    rfl
  | some c =>
    have hsome : b.unmarked.card? card = some c.unmarked := by rw [unmarked_card?, hc]; rfl
    rw [transfer_of_some hc, transfer_of_some hsome, unmarked_findContainer, unmarked_findContainer]
    by_cases hsame : c.container = target
    · rw [if_pos hsame, if_pos (by exact hsame)]
      rfl
    · rw [if_neg hsame, if_neg (by exact hsame), ← unmarked_transferred]
      cases b.findContainer target with
      | error fault => rfl
      | ok k =>
        show (b.findContainer c.container).bind _ = _
        cases b.findContainer c.container <;> rfl

theorem setDroppable_unmarked (b : Board) (container : String) (droppable : Bool) :
    b.unmarked.setDroppable container droppable = (b.setDroppable container droppable).map unmarked := by
  unfold setDroppable
  rw [unmarked_findContainer]
  cases b.findContainer container <;> rfl

/-- **An operation does the same without the marks,** unless it replaces the board. -/
theorem apply_unmarked (b : Board) {e : Edit} (he : ∀ document, e ≠ .load document) :
    b.unmarked.apply e = (b.apply e).map unmarked := by
  cases e with
  | addContainer id droppable => exact addContainer_unmarked b id droppable
  | addCard container id issue width => exact addCard_unmarked b container id issue width
  | transfer card target => exact transfer_unmarked b card target
  | setDroppable container droppable => exact setDroppable_unmarked b container droppable
  | load document => exact absurd rfl (he document)

/-- **Operations do not see marks.** On two boards that differ in their marks alone an operation is refused
    for the same reason, or it leaves boards that differ in their marks alone. -/
theorem apply_congr (h : b.unmarked = b'.unmarked) (e : Edit) :
    (b.apply e).map unmarked = (b'.apply e).map unmarked := by
  cases e with
  | load document =>
    -- What replaces the board does not look at it at all.
    rfl
  | addContainer | addCard | transfer | setDroppable =>
    rw [← apply_unmarked b (by simp), ← apply_unmarked b' (by simp), h]

theorem attempt_congr (h : b.unmarked = b'.unmarked) (e : Edit) :
    (b.attempt e).1.unmarked = (b'.attempt e).1.unmarked ∧ (b.attempt e).2 = (b'.attempt e).2 := by
  have happly := apply_congr h e
  rw [attempt_eq b, attempt_eq b']
  cases hb : b.apply e with
  | error fault =>
    cases hb' : b'.apply e with
    | error fault' =>
      rw [hb, hb'] at happly
      cases happly
      exact ⟨h, rfl⟩
    | ok after' => rw [hb, hb'] at happly; cases happly
  | ok after =>
    cases hb' : b'.apply e with
    | error fault' => rw [hb, hb'] at happly; cases happly
    | ok after' =>
      rw [hb, hb'] at happly
      exact ⟨Except.ok.inj happly, rfl⟩

theorem attempts_congr (h : b.unmarked = b'.unmarked) (edits : List Edit) :
    (b.attempts edits).unmarked = (b'.attempts edits).unmarked := by
  induction edits generalizing b b' with
  | nil => exact h
  | cons e rest ih =>
    rw [attempts_cons, attempts_cons]
    exact ih (attempt_congr h e).1

end Board
end Kanban
