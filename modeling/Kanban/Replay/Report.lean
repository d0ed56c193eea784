import Kanban.Replay.Run
import Kanban.Scenario.Document

/-!
# `Replay.Report` — what a replay comes to

## Contents
- `Report` and `Report.toPayload`.
- `Replayed`, `Scenario.replay`.
-/

namespace Kanban

/-- What a replay comes to. -/
structure Report where
  board : String
  steps : List (ScenarioStep × StepResult)
  columns : List Container
  offset : Float
  activity : Nat
  starts : List Payload
  requests : List Payload

/-! ## Writing -/

/-- The name of a confirmation. -/
def Confirmation.name : Confirmation → String
  | accepted => "accepted"
  | rejected => "rejected"
  | abandoned => "abandoned"
  | timedOut => "timed_out"

/-- The end of a release as a record. -/
def DropOutcome.toPayload : DropOutcome → Payload
  | noTarget => .record [("outcome", .text "no_target")]
  | sameContainer container =>
    .record [("outcome", .text "same_container"), ("container", .text container)]
  | committed target => .record [("outcome", .text "committed"), ("target", .text target)]
  | declined target c =>
    .record [("outcome", .text "declined"), ("target", .text target), ("confirmation", .text c.name)]

/-- How a step turned out as a record. -/
def StepResult.toPayload : StepResult → Payload
  | started card => .record [("result", .text "started"), ("card", .text card)]
  | scrolled offset => .record [("result", .text "scrolled"), ("offset", .ofFloat offset)]
  | dropEvaluated column recorded =>
    .record [("result", .text "drop_evaluated"), ("column", .text column), ("recorded", .flag recorded)]
  | released outcome => .record [("result", .text "released"), ("outcome", outcome.toPayload)]
  | droppableSet column droppable =>
    .record [("result", .text "droppable_set"), ("column", .text column), ("droppable", .flag droppable)]
  | refused fault => .record [("result", .text "refused"), ("error", .text fault.message)]

namespace Report

/-- The steps as records with their indices. -/
def stepsToPayload (index : Nat) : List (ScenarioStep × StepResult) → List Payload
  | [] => []
  | (s, result) :: rest =>
    .record [("index", .ofNat index), ("step", s.toPayload), ("result", result.toPayload)] ::
      stepsToPayload (index + 1) rest

/-- A column as a record. -/
def columnToPayload (c : Container) : Payload :=
  .record [("id", .text c.id), ("droppable", .flag c.droppable), ("cards", .ofTexts c.cards)]

/-- A report as a record. -/
def toPayload (r : Report) : Payload :=
  .record [("board", .text r.board), ("steps", .list (stepsToPayload 0 r.steps)),
    ("columns", .list (r.columns.map columnToPayload)), ("scroll_offset", .ofFloat r.offset),
    ("activity_count", .ofNat r.activity), ("drag_starts", .list r.starts),
    ("confirmation_requests", .list r.requests)]

end Report

/-! ## Replaying -/

/-- How a replay ends. -/
inductive Replayed where
  /-- With a report, after so many milliseconds. -/
  | finished (report : Report) (elapsed : Nat) (log : List Log.Line)
  /-- Not at all: a dialog is left open and there is no limit for waiting. -/
  | waitsForever
  /-- Right away: a background refresh without an interval cannot run. -/
  | crashed

namespace Scenario

/-- What is said about a replay that has ended. -/
def replayed (s : Scenario) : Log.Line :=
  ⟨.info, .replay, s!"🏁 Replayed {s.steps.length} step(s) on board '{s.name}'"⟩

/-- The report on a replay whose steps turned out as given, unless the board is poisoned. -/
def report (s : Scenario) (r : Replay) (results : List StepResult) : Except Fault Report := do
  let board ← r.commons.lock
  return {
    board := s.name
    steps := s.steps.zip results
    columns := board.containers
    offset := r.controller.viewport.offset
    activity := r.commons.activity.count
    starts := r.starts
    requests := r.attendant.requests }

/-- Replay a scenario while a number of interactions are in progress elsewhere. -/
def replay (s : Scenario) (others : Nat) : Except Fault Replayed := do
  let board ← s.board
  if s.refreshInterval = some 0 then return .crashed
  match (Replay.begin s board others).play 0 s.steps with
  | none => return .waitsForever
  | some (r, results) => return .finished (← s.report r results) r.elapsed (r.log ++ [s.replayed])

end Scenario

end Kanban
