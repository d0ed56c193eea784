import Kanban.Proofs.Replay.Registration
import Kanban.Replay.Report
import Mathlib.Data.List.Nodup

/-!
# `Proofs.Replay.Sketch` — a replay with pen and paper

Somebody who follows a scenario with pen and paper needs the lists of the columns, the scroll offset, and the
card that is being dragged. There is no controller, no board of cards, no dialog, no count and no clock here:
a sketch says what a replay is to come to.

## Contents
- `Sketch`, `Sketch.Grip`: what is on the paper.
- `Sketch.start`, `move`, `dropOn`, `release`, `setDroppable`: one step; `Sketch.play`: all of them.
- `Scenario.sketch`: the report, or nothing if a dialog is left open with no limit for waiting.
- `callback?_eq_accepts`, `contains_eq_draggable?`: what a controller has registered, on paper.
-/

namespace Kanban

namespace Scenario

/-- Whether there is a column that accepts drops. -/
def accepts (s : Scenario) (column : String) : Bool := s.columns.any fun c => c.id = column && c.acceptsDrops

/-- The card with an identifier, if it may be dragged. -/
def draggable? (s : Scenario) (card : String) : Option CardPlan :=
  s.cards.find? fun c => c.id = card && c.draggable

end Scenario

/-- The card that is being dragged. -/
structure Sketch.Grip where
  card : CardPlan
  /-- The column that listed the card when the drag started. -/
  origin : Option String
  /-- The column that the card was last dropped on, if that drop counts. -/
  target : Option String

/-- What somebody with pen and paper keeps of a replay. -/
structure Sketch where
  /-- The columns with their lists of cards. -/
  columns : List Container
  offset : Float
  grip : Option Sketch.Grip
  /-- The issues of the cards whose drags have started. -/
  starts : List Payload
  /-- The issues of the cards that a confirmation was asked for. -/
  requests : List Payload

namespace Sketch

/-- The columns as the scenario has them. -/
def begin (s : Scenario) : Sketch where
  columns := s.columns.map fun c => ⟨c.id, c.cards.map (·.id), c.droppable⟩
  offset := s.viewport.offset
  grip := none
  starts := []
  requests := []

/-! ## One step -/

/-- The column that lists a card. -/
def home (k : Sketch) (card : String) : Option String :=
  (k.columns.find? fun c => c.cards.contains card).map (·.id)

/-- Whether cards can be dropped on a column at present. -/
def isOpen (k : Sketch) (column : String) : Bool := k.columns.any fun c => c.id = column && c.droppable

/-- Whether a drop on a column counts: it accepts drops, it is open, and the card does not come from it. -/
def counts (s : Scenario) (k : Sketch) (g : Grip) (column : String) : Bool :=
  s.accepts column && k.isOpen column && decide (g.origin ≠ some column)

/-- A card leaves the column that lists it and goes to the end of another one. -/
def carry (k : Sketch) (card target : String) : Sketch :=
  { k with columns := k.columns.map fun c =>
      if c.id = target then { c with cards := c.cards ++ [card] }
      else { c with cards := c.cards.filter (· ≠ card) } }

/-- Start to drag a card. -/
def start (s : Scenario) (k : Sketch) (card : String) : Sketch × StepResult :=
  match k.grip with
  | some g => (k, .refused (.dragInProgress g.card.id))
  | none =>
    match s.draggable? card with
    | none => (k, .refused (.notDraggable card))
    | some plan =>
      ({ k with grip := some ⟨plan, k.home card, none⟩, starts := k.starts ++ [plan.issue] }, .started card)

/-- Move the dragged card. -/
def move (s : Scenario) (k : Sketch) (left : Float) : Sketch × StepResult :=
  match k.grip with
  | none => (k, .refused .noActiveDrag)
  | some g =>
    let offset := Scroll.follow ⟨s.viewport.left, s.viewport.width⟩ ⟨left, g.card.width⟩ k.offset
      s.viewport.contentWidth
    ({ k with offset := if offset == k.offset then k.offset else offset }, .scrolled offset)

/-- Drop the dragged card on a column. -/
def dropOn (s : Scenario) (k : Sketch) (column : String) : Sketch × StepResult :=
  match k.grip with
  | none => (k, .refused .noActiveDrag)
  | some g =>
    let target := if k.counts s g column then some column else none
    ({ k with grip := some { g with target } }, .dropEvaluated column (k.counts s g column))

/-- The card is not being dragged any more, and a confirmation was asked for it. -/
def ask (k : Sketch) (g : Grip) : Sketch := { k with grip := none, requests := k.requests ++ [g.card.issue] }

/-- What a dialog does about a card over a target. One that is left open with no limit for waiting never
    ends. -/
def confirm (s : Scenario) (k : Sketch) (g : Grip) (target : String) : Decision → Option (Sketch × StepResult)
  | .accept => some ((k.ask g).carry g.card.id target, .released (.committed target))
  | .reject => some (k.ask g, .released (.declined target .rejected))
  | .never =>
    if s.confirmationTimeout = some 0 then none
    else some (k.ask g, .released (.declined target .timedOut))

/-- Release the dragged card. -/
def release (s : Scenario) (k : Sketch) (decision : Decision) : Option (Sketch × StepResult) :=
  match k.grip with
  | none => some (k, .refused .noActiveDrag)
  | some g =>
    match g.target with
    | none => some ({ k with grip := none }, .released .noTarget)
    | some target => k.confirm s g target decision

/-- Open or close a column. -/
def setDroppable (k : Sketch) (column : String) (droppable : Bool) : Sketch × StepResult :=
  if k.columns.any (·.id = column) then
    ({ k with columns := k.columns.map fun c => if c.id = column then { c with droppable } else c },
      .droppableSet column droppable)
  else (k, .refused (.unknownContainer column))

/-- One step; nothing if it never ends. -/
def step (s : Scenario) (k : Sketch) : ScenarioStep → Option (Sketch × StepResult)
  | .start card _ => some (k.start s card)
  | .move left => some (k.move s left)
  | .dropOn column => some (k.dropOn s column)
  | .release decision => k.release s decision
  | .setDroppable column droppable => some (k.setDroppable column droppable)

/-! ## All steps -/

/-- All steps and how they turn out; nothing if one of them never ends. -/
def play (s : Scenario) (k : Sketch) : List ScenarioStep → Option (Sketch × List StepResult)
  | [] => some (k, [])
  | x :: rest => do
    let (k, result) ← k.step s x
    let (k, results) ← k.play s rest
    return (k, result :: results)

/-- What is on the paper as a report. An open session is one more interaction than those of others. -/
def report (s : Scenario) (k : Sketch) (others : Nat) (results : List StepResult) : Report where
  board := s.name
  steps := s.steps.zip results
  columns := k.columns
  offset := k.offset
  activity := if k.grip.isSome then others + 1 else others
  starts := k.starts
  requests := k.requests

end Sketch

namespace Scenario

/-- What a scenario is to come to, while a number of interactions are in progress elsewhere. -/
def sketch (s : Scenario) (others : Nat) : Option Report :=
  ((Sketch.begin s).play s s.steps).map fun (k, results) => k.report s others results

/-! ## What is registered -/

variable {s : Scenario}

theorem accepts_iff {column : String} :
    s.accepts column = true ↔ ∃ c ∈ s.columns, c.id = column ∧ c.acceptsDrops = true := by
  simp [accepts]

theorem mem_columnIds_of_accepts {column : String} (h : s.accepts column = true) : column ∈ s.columnIds := by
  obtain ⟨c, hc, rfl, _⟩ := accepts_iff.mp h
  exact List.mem_map_of_mem hc

/-- The zones of a scenario are the columns that accept drops. -/
theorem callback?_eq_accepts (hn : s.columnIds.Nodup) (column : String) :
    (Replay.controllerOf s).zones.callback? column = if s.accepts column then some column else none := by
  by_cases hmem : column ∈ s.columnIds
  · obtain ⟨c, hc, rfl⟩ := List.mem_map.mp hmem
    rw [Replay.callback?_controllerOf hn hc]
    have haccepts : s.accepts c.id = c.acceptsDrops := by
      rw [Bool.eq_iff_iff, accepts_iff]
      constructor
      · rintro ⟨c', hc', hid, haccepts⟩
        rw [← List.inj_on_of_nodup_map hn hc' hc hid]
        exact haccepts
      · intro haccepts
        exact ⟨c, hc, rfl, haccepts⟩
    rw [haccepts]
  · rw [Replay.callback?_controllerOf_of_not_mem hmem, if_neg]
    exact fun haccepts => hmem (mem_columnIds_of_accepts haccepts)

theorem isRegistered_eq_accepts (hn : s.columnIds.Nodup) (column : String) :
    (Replay.controllerOf s).zones.isRegistered column = s.accepts column := by
  show ((Replay.controllerOf s).zones.callback? column).isSome = _
  rw [callback?_eq_accepts hn]
  cases s.accepts column <;> rfl

theorem draggable?_eq_some {card : String} {plan : CardPlan} (h : s.draggable? card = some plan) :
    plan ∈ s.cards ∧ plan.id = card ∧ plan.draggable = true := by
  have hp := List.find?_some h
  exact ⟨List.mem_of_find?_eq_some h, by simpa using hp⟩

theorem draggable?_eq_none {card : String} :
    s.draggable? card = none ↔ ∀ c ∈ s.cards, c.id = card → c.draggable = false := by
  simp [draggable?, List.find?_eq_none]

/-- The draggable cards of a scenario are those that may be dragged. -/
theorem contains_eq_draggable? (hn : s.cardIds.Nodup) (card : String) :
    (Replay.controllerOf s).draggables.contains card = (s.draggable? card).isSome := by
  cases h : s.draggable? card with
  | some plan =>
    -- Identifiers differ, so the plan that is found is the only one of this identifier.
    obtain ⟨hmem, rfl, hdraggable⟩ := draggable?_eq_some h
    rw [Replay.draggables_controllerOf hn hmem]
    exact hdraggable
  | none =>
    rw [draggable?_eq_none] at h
    by_cases hmem : card ∈ s.cardIds
    · obtain ⟨c, hc, rfl⟩ := List.mem_map.mp hmem
      rw [Replay.draggables_controllerOf hn hc]
      exact h c hc rfl
    · exact Replay.draggables_controllerOf_of_not_mem hmem

end Scenario
end Kanban
