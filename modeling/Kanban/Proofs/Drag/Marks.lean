import Kanban.Proofs.Board.InPlace
import Kanban.Proofs.Drag.Steps

/-!
# `Proofs.Drag.Marks` — which cards are marked as being dragged

A card is marked when its drag starts, and the mark is taken off when a release ends. A pending release that
is given up leaves the mark behind, although it gives its unit of activity back and lets the controller
rest. So at every moment the marked cards are the card in hand and those whose latest drag was given up.

## Contents
- `Board.marked`, `Board.built`: marks, and boards made by board operations alone.
- `Scene.stranded`: the latest drag of a card to be over was given up.
- `stranded_of_kept`: no card is stranded unless a drag is given up.
- `marked_step`, `marked_run`: the invariant over one step and over a run.
- `marked_iff_inHand`: the marked card of a run in which no drag is given up.
- `marked_iff_inHand_or_stranded`: the marked cards of every run.
-/

namespace Kanban

/-! ## Marks on a board -/

namespace Board

variable {b : Board}

/-- Whether a card is on the board and marked as being dragged. -/
def marked (b : Board) (card : String) : Bool := (b.card? card).any (·.dragging)

/-- The board that several operations make of the empty one. -/
def built (edits : List Edit) : Board := empty.attempts edits

theorem marked_setDragging (card : String) (d : Bool) (y : String) :
    (b.setDragging card d).marked y = if y = card then (b.card? y).isSome && d else b.marked y := by
  unfold marked
  rw [card?_setDragging]
  by_cases h : y = card
  · rw [if_pos h, if_pos h]
    cases b.card? y <;> rfl
  · rw [if_neg h, if_neg h]

/-- A new card is not marked, and there was none of its identifier before. -/
theorem marked_addCard {b' : Board} {container id : String} {issue : Payload} {width : Float}
    (h : b.addCard container id issue width = .ok b') (y : String) : b'.marked y = b.marked y := by
  obtain ⟨hfresh, _, _⟩ := addCard_eq_ok.mp h
  unfold marked
  rw [card?_addCard h]
  by_cases hy : y = id
  · rw [if_pos hy, hy, hfresh]
    rfl
  · rw [if_neg hy]

/-- A move keeps the mark of the card that moves. -/
theorem marked_transferred (card source target y : String) :
    (b.transferred card source target).marked y = b.marked y := by
  unfold marked
  rw [card?_transferred]
  by_cases hy : y = card
  · rw [if_pos hy]
    cases b.card? y <;> rfl
  · rw [if_neg hy]

/-- **Board operations leave all marks alone,** unless they replace the board. -/
theorem marked_attempt {e : Edit} (he : e.replaces = false) (y : String) :
    (b.attempt e).1.marked y = b.marked y := by
  rw [attempt_eq]
  cases h : b.apply e with
  | error fault => rfl
  | ok b' =>
    show b'.marked y = b.marked y
    cases e with
    | addContainer id droppable =>
      obtain ⟨_, rfl⟩ := addContainer_eq_ok.mp h
      rfl
    | addCard container id issue width => exact marked_addCard h y
    | transfer card target =>
      obtain ⟨c, _, rfl | rfl⟩ := transfer_eq_ok h
      · rfl
      · exact marked_transferred card c.container target y
    | setDroppable container droppable =>
      obtain ⟨_, rfl⟩ := setDroppable_eq_ok.mp h
      rfl
    | load document => cases he

theorem marked_attempts {edits : List Edit} (h : ∀ e ∈ edits, e.replaces = false) (y : String) :
    (b.attempts edits).marked y = b.marked y := by
  induction edits generalizing b with
  | nil => rfl
  | cons e rest ih =>
    obtain ⟨he, hrest⟩ := List.forall_mem_cons.mp h
    rw [attempts_cons, ih hrest, marked_attempt he]

/-- A board made by board operations has no marks. -/
theorem marked_built {edits : List Edit} (h : ∀ e ∈ edits, e.replaces = false) (y : String) :
    (built edits).marked y = false := by
  rw [built, marked_attempts h]
  rfl

end Board

/-! ## Marks in a scene -/

namespace Scene

variable {κ : Type} {w : Scene κ}

/-- Whether an event neither poisons the board nor replaces it. -/
def Event.harmless : Event κ → Bool
  | .poison => false
  | .edit e => !e.replaces
  | _ => true

/-- Whether the latest drag of a card to be over was given up, from what is known before an event. -/
def strands (w : Scene κ) (card : String) (before : Bool) (e : Event κ) : Bool :=
  if w.givesUp e = some card then true else if w.clears e = some card then false else before

/-- Whether the latest drag of a card to be over was given up, from what is known before some events. -/
def strandedFrom (w : Scene κ) (card : String) (before : Bool) : List (Event κ) → Bool
  | [] => before
  | e :: es => (w.step e).1.strandedFrom card (w.strands card before e) es

/-- Whether the latest drag of a card to be over in a run was given up rather than brought to its end. -/
def stranded (w : Scene κ) (es : List (Event κ)) (card : String) : Bool := w.strandedFrom card false es

/-- Only a pending release that is dropped and a controller that goes away give a drag up. -/
theorem givesUp_eq_none {e : Event κ} (hc : e ≠ .cancel) (hd : e ≠ .dismiss) : w.givesUp e = none := by
  cases e with
  | cancel => exact absurd rfl hc
  | dismiss => exact absurd rfl hd
  | _ => rfl

/-- **No card is stranded** as long as no pending release is dropped and the controller stays. -/
theorem stranded_of_kept {es : List (Event κ)} (hc : .cancel ∉ es) (hd : .dismiss ∉ es) (card : String) :
    w.stranded es card = false := by
  unfold stranded
  induction es generalizing w with
  | nil => rfl
  | cons e rest ih =>
    rw [List.mem_cons, not_or] at hc hd
    have hstrands : w.strands card false e = false := by
      unfold strands
      rw [givesUp_eq_none (Ne.symm hc.1) (Ne.symm hd.1), if_neg (by simp)]
      split <;> rfl
    rw [strandedFrom, hstrands]
    exact ih hc.2 hd.2

/-- The marked cards are the one in hand and the stranded ones, on a board in good order. -/
def Marked (stranded : String → Bool) (w : Scene κ) : Prop :=
  w.commons.poisoned = false ∧
    ∀ x, w.commons.board.marked x = true ↔ w.inHand = some x ∨ stranded x = true

theorem amid_poisoned {e : Event κ} {s : Commons} (he : e.harmless = true) (h : s.poisoned = false) :
    (e.amid s).poisoned = false := by
  cases e with
  | poison => cases he
  | heal => rfl
  | _ => exact h

theorem amid_marked {e : Event κ} {s : Commons} (he : e.harmless = true) (x : String) :
    (e.amid s).board.marked x = s.board.marked x := by
  cases e with
  | edit e =>
    refine Board.marked_attempt ?_ x
    simpa [Event.harmless] using he
  | _ => rfl

/-- Taking the mark off the card in hand leaves the mark of a stranded card, unless it is the same one. -/
theorem marked_letGo {card : String} {stranded : String → Bool} (hh : w.inHand = some card)
    (h : Marked stranded w) (x : String) :
    (w.commons.letGo card).1.board.marked x = true ↔
      (if some card = some x then false else stranded x) = true := by
  rw [Commons.letGo_of_clean card h.1]
  show (w.commons.board.setDragging card false).marked x = true ↔ _
  rw [Board.marked_setDragging]
  by_cases hx : x = card
  · rw [if_pos hx, if_pos (by rw [hx])]
    simp
  · rw [if_neg hx, if_neg (by simpa [eq_comm] using hx), h.2 x, hh]
    simp [Ne.symm hx]

/-- Giving up the card in hand leaves its mark. -/
theorem marked_unhold {card : String} {stranded : String → Bool} (hh : w.inHand = some card)
    (h : Marked stranded w) (x : String) :
    w.commons.unhold.board.marked x = true ↔ (if some card = some x then true else stranded x) = true := by
  rw [Commons.unhold_board, h.2 x, hh]
  by_cases hx : card = x
  · simp [hx]
  · simp [hx]

/-- **One step** keeps the marks in step with the card in hand and the stranded cards. -/
theorem marked_step {stranded : String → Bool} {e : Event κ} (hq : w.Quiet) (he : e.harmless = true)
    (h : Marked stranded w) : Marked (fun x => w.strands x (stranded x) e) (w.step e).1 := by
  obtain ⟨_, heffect⟩ := step_effect hq e
  unfold Marked strands
  generalize (w.step e).1.inHand = hand, (w.step e).1.commons = s at heffect ⊢
  cases heffect with
  | kept hc hg =>
    refine ⟨amid_poisoned he h.1, fun x => ?_⟩
    rw [hc, hg, amid_marked he, h.2 x]
    simp
  | @takenUp card left hn hp hb =>
    refine ⟨hp, fun x => ?_⟩
    show (w.commons.board.setDragging card true).marked x = true ↔ some card = some x ∨ stranded x = true
    rw [Board.marked_setDragging]
    by_cases hx : x = card
    · rw [if_pos hx, hx, hb]
      simp
    · rw [if_neg hx, h.2 x, hn]
      simp [Ne.symm hx]
  | refused hh hp => rw [h.1] at hp; cases hp
  | settled hh hc =>
    refine ⟨by rw [Commons.letGo_of_clean _ h.1]; exact h.1, fun x => ?_⟩
    rw [marked_letGo hh h x, hc]
    simp [givesUp]
  | concluded hh hc =>
    refine ⟨by rw [Commons.letGo_of_clean _ h.1]; exact h.1, fun x => ?_⟩
    rw [marked_letGo hh h x, hc]
    simp [givesUp]
  | cancelled hh hg =>
    refine ⟨h.1, fun x => ?_⟩
    rw [marked_unhold hh h x, hg]
    simp [clears]
  | dismissed hh hg =>
    refine ⟨h.1, fun x => ?_⟩
    rw [marked_unhold hh h x, hg]
    simp [clears]

/-- **A whole run** keeps the marks in step. -/
theorem marked_run {stranded : String → Bool} {es : List (Event κ)} (hq : w.Quiet)
    (hes : ∀ e ∈ es, e.harmless = true) (h : Marked stranded w) :
    Marked (fun x => w.strandedFrom x (stranded x) es) (w.run es) := by
  induction es generalizing w stranded with
  | nil => exact h
  | cons e rest ih =>
    rw [run_cons]
    exact ih (step_effect hq e).1 (fun e' he' => hes e' (List.mem_cons_of_mem e he'))
      (marked_step hq (hes e List.mem_cons_self) h)

/-- A new controller on a board made by board operations: no card is in hand and none is marked. -/
theorem marked_new {c : Controller κ} {edits : List Board.Edit} {a : Activity} (hc : c.session = none)
    (hedits : ∀ e ∈ edits, e.replaces = false) :
    Marked (fun _ => false) (Scene.new c ⟨Board.built edits, false, a⟩) := by
  refine ⟨rfl, fun x => ?_⟩
  show (Board.built edits).marked x = true ↔ c.session.map (·.card) = some x ∨ false = true
  rw [Board.marked_built hedits, hc]
  simp

/-- The marks in every run of a new controller on such a board. -/
theorem marked_stranded (viewport : Viewport) (a : Activity) {edits : List Board.Edit} {es : List (Event κ)}
    (hedits : ∀ e ∈ edits, e.replaces = false) (hes : ∀ e ∈ es, e.harmless = true) :
    let w : Scene κ := Scene.new (Controller.new viewport) ⟨Board.built edits, false, a⟩
    Marked (w.stranded es) (w.run es) :=
  marked_run quiet_new hes (marked_new rfl hedits)

/-- **The marked card is the one in hand,** and there is no other, as long as no pending release is dropped
    and the controller stays. -/
theorem marked_iff_inHand (viewport : Viewport) (a : Activity) {edits : List Board.Edit}
    {es : List (Event κ)} (hedits : ∀ e ∈ edits, e.replaces = false) (hes : ∀ e ∈ es, e.harmless = true)
    (hc : .cancel ∉ es) (hd : .dismiss ∉ es) (x : String) :
    let w : Scene κ := Scene.new (Controller.new viewport) ⟨Board.built edits, false, a⟩
    (w.run es).commons.board.marked x = true ↔ (w.run es).inHand = some x := by
  intro w
  rw [(marked_stranded viewport a hedits hes).2 x, stranded_of_kept hc hd]
  simp [w]

/-- **The marked cards of every run.** Whatever a new controller on a board made by board operations is made
    to do, and whoever changes the board meanwhile, the marked cards are the one in hand and those whose
    latest drag was given up. So the marks tell which card is in hand exactly as long as no other card is
    stranded. -/
theorem marked_iff_inHand_or_stranded (viewport : Viewport) (a : Activity) (edits : List Board.Edit)
    (es : List (Event κ)) (hedits : ∀ e ∈ edits, e.replaces = false)
    (hes : ∀ e ∈ es, e.harmless = true) :
    let w : Scene κ := Scene.new (Controller.new viewport) ⟨Board.built edits, false, a⟩
    let marked := (w.run es).commons.board.marked
    (∀ x, marked x = true ↔ (w.run es).inHand = some x ∨ w.stranded es x = true) ∧
      ((∀ x, marked x = true ↔ (w.run es).inHand = some x) ↔
        ∀ x, w.stranded es x = true → (w.run es).inHand = some x) := by
  intro w marked
  have hmarks : ∀ x, marked x = true ↔ (w.run es).inHand = some x ∨ w.stranded es x = true :=
    (marked_stranded viewport a hedits hes).2
  refine ⟨hmarks, ?_⟩
  constructor
  · intro h x hx
    exact (h x).mp ((hmarks x).mpr (Or.inr hx))
  · intro h x
    rw [hmarks x]
    exact ⟨fun hx => hx.elim id (h x), Or.inl⟩

/-- A board with one card and two columns. -/
def twoColumns : List Board.Edit :=
  [.addContainer "todo" true, .addContainer "done" true, .addCard "todo" "c1" .null 100]

/-- The card is dropped on the other column, and the release is given up while it waits. -/
def givenUp : List (Event Unit) :=
  [.registerZone "done" (some ()), .registerDraggable "c1" true, .start "c1" 0, .dropOn "done", .release,
    .callbackReturns, .cancel]

/-- The marks after a release that is given up. -/
theorem marked_iff_inHand_or_stranded_givenUp :
    let w : Scene Unit := Scene.new (Controller.new ⟨⟨0, 500⟩, 500, 0⟩) ⟨Board.built twoColumns, false, ⟨0⟩⟩
    let marked := (w.run givenUp).commons.board.marked
    (∀ e ∈ twoColumns, e.replaces = false) ∧ (∀ e ∈ givenUp, e.harmless = true) ∧
      (∀ x, marked x = true ↔ (w.run givenUp).inHand = some x ∨ w.stranded givenUp x = true) ∧
      ((∀ x, marked x = true ↔ (w.run givenUp).inHand = some x) ↔
        ∀ x, w.stranded givenUp x = true → (w.run givenUp).inHand = some x) :=
  ⟨by decide, by decide, marked_iff_inHand_or_stranded _ _ _ _ (by decide) (by decide)⟩

/-- Marks alone do not tell which card is in hand: a release that is given up leaves one behind, though the
    controller rests. -/
theorem marked_of_givenUp :
    ¬ ∀ (edits : List Board.Edit) (es : List (Event Unit)), (∀ e ∈ edits, e.replaces = false) →
      (∀ e ∈ es, e.harmless = true) →
        let w := Scene.new (Controller.new ⟨⟨0, 500⟩, 500, 0⟩) ⟨Board.built edits, false, ⟨0⟩⟩
        ∀ x, (w.run es).commons.board.marked x = true ↔ (w.run es).inHand = some x := by
  intro h
  have hmarked := (h twoColumns givenUp (by decide) (by decide) "c1").mp (by decide +kernel)
  revert hmarked
  decide +kernel

end Scene
end Kanban
