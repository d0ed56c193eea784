import Kanban.Drag.Notices
import Kanban.Scenario.Basic

/-!
# `Replay.Run` — replaying the steps of a scenario

The steps are played one after another on a controller. Where a person would see a confirmation dialog, an
attendant does what the step says; one that accepts moves the dragged card first. Time only passes while a
dialog is left open.

## Contents
- `StepResult`, `Attendant`, `Replay`.
- `Replay.attempt`: a step up to its end or its wait; `Replay.conclude`: the end of a wait.
- `Replay.step`, `Replay.play`: all of a step, all steps; `Replay.begin`: the state before them.
-/

namespace Kanban

/-- How a step turns out. -/
inductive StepResult where
  | started (card : String)
  | scrolled (offset : Float)
  | dropEvaluated (column : String) (recorded : Bool)
  | released (outcome : DropOutcome)
  | droppableSet (column : String) (droppable : Bool)
  | refused (fault : Fault)

/-- Who attends to the confirmation dialogs of a replay. -/
structure Attendant where
  /-- What the next dialog does. -/
  decision : Decision
  /-- The card that the next dialog moves if it accepts. -/
  dragged : Option String
  /-- The issues that dialogs were told. -/
  requests : List Payload
  /-- How many confirmations are held on to without an answer. -/
  parked : Nat

namespace Attendant

/-- Nothing has been asked yet. -/
def new : Attendant := ⟨.accept, none, [], 0⟩

/-- Be told what to do in the next dialog and which card is being dragged. -/
def prepare (a : Attendant) (decision : Decision) (dragged : Option String) : Attendant :=
  { a with decision, dragged }

/-- The release is over: forget its card and let go of what is held on to. -/
def finish (a : Attendant) : Attendant := { a with dragged := none, parked := 0 }

end Attendant

/-- A replay in progress. Every drop zone's callback is the column that its dialog speaks for. -/
structure Replay where
  controller : Controller String
  commons : Commons
  attendant : Attendant
  /-- The issues that start callbacks were told. -/
  starts : List Payload
  /-- Milliseconds spent waiting so far. -/
  elapsed : Nat
  log : List Log.Line

/-- How far a step has come. -/
inductive Progress where
  | ended (result : StepResult)
  /-- A release waits at a gate for its confirmation. -/
  | waiting (pending : Pending String) (gate : Gate)

/-- How the result of a release turns out as a step. -/
def StepResult.ofRelease : Except Fault DropOutcome → StepResult
  | .ok outcome => .released outcome
  | .error fault => .refused fault

namespace Replay

/-- A replay with more said about it. -/
def say (r : Replay) (lines : List Log.Line) : Replay := { r with log := r.log ++ lines }

/-! ## Dialogs -/

/-- Move the dragged card to the column of a dialog that accepts. The confirmation says whether that
    worked. -/
def commit (r : Replay) (column : String) : Replay × Bool :=
  match r.attendant.dragged with
  | none => (r, false)
  | some card =>
    match r.commons.lock.bind fun b => b.transfer card column with
    | .ok board => ({ r with commons := { r.commons with board } }, true)
    | .error fault => (r.say [⟨.warn, .replay, s!"⚠️ Could not commit move: {fault.message}"⟩], false)

/-- A dialog is told the issue of the card that it is about. -/
def asked (r : Replay) (issue : Payload) : Replay :=
  { r with attendant := { r.attendant with requests := r.attendant.requests ++ [issue] } }

/-- A confirmation is held on to without an answer. -/
def park (r : Replay) : Replay := { r with attendant := { r.attendant with parked := r.attendant.parked + 1 } }

/-- What a dialog does with the gate of its confirmation. -/
def runDialog (r : Replay) (p : Pending String) : Replay × Gate :=
  let r := r.asked p.session.issue
  match r.attendant.decision with
  | .accept =>
    let (r, committed) := r.commit p.callback
    (r, (Gate.fresh.resolve committed).1)
  | .reject => (r, (Gate.fresh.resolve false).1)
  | .never => (r.park, Gate.fresh)

/-! ## Releasing -/

/-- The attendant gets ready for a release. -/
def prepare (r : Replay) (decision : Decision) : Replay :=
  { r with attendant := r.attendant.prepare decision (r.controller.session.map (·.card)) }

/-- The attendant's part of a release is over. -/
def finish (r : Replay) : Replay := { r with attendant := r.attendant.finish }

/-- What is said about the result of a release. -/
def remarks (lines : List Log.Line) : Except Fault DropOutcome → List Log.Line
  | .ok _ => lines
  | .error _ => []

/-- End a release that asks nobody. -/
def settle (r : Replay) (session : Session) (ending : Ending) : Replay × StepResult :=
  let (commons, result) := Controller.settle r.commons session ending
  (({ r with commons }.say (remarks [Notice.ended session ending] result)).finish, .ofRelease result)

/-- The wait of a release is over. -/
def conclude (r : Replay) (p : Pending String) (c : Confirmation) (waited : Nat) : Replay × StepResult :=
  let (controller, commons, result) := r.controller.conclude r.commons p c
  let timeout := match c, r.controller.limit with
    | .timedOut, some limit => [Notice.timedOut limit]
    | _, _ => []
  let r := { r with controller, commons, elapsed := r.elapsed + waited }
  ((r.say (timeout ++ remarks [Notice.concluded p waited c] result)).finish, .ofRelease result)

/-- Release the dragged card, up to the end or the wait. -/
def release (r : Replay) (decision : Decision) : Replay × Progress :=
  let r := r.prepare decision
  match r.controller.release r.commons with
  | (controller, commons, .refused fault) =>
    ({ r with controller, commons }.finish, .ended (.refused fault))
  | (controller, commons, .ending session ending) =>
    let (r, result) := { r with controller, commons }.settle session ending
    (r, .ended result)
  | (controller, commons, .calling p) =>
    let (r, g) := ({ r with controller, commons }.say [Notice.asking p]).runDialog p
    ({ r with controller := r.controller.await }, .waiting p g)

/-! ## Steps -/

/-- Start to drag a card. -/
def start (r : Replay) (card : String) (left : Float) : Replay × StepResult :=
  match r.controller.start r.commons card left with
  | .error fault => (r, .refused fault)
  | .ok (controller, commons) =>
    let session := controller.session.toList
    ({ r with
        controller, commons,
        starts := r.starts ++ session.map Session.issue }.say (session.map Notice.started),
      .started card)

/-- Move the dragged card. -/
def move (r : Replay) (left : Float) : Replay × StepResult :=
  match r.controller.move left with
  | .error fault => (r, .refused fault)
  | .ok (controller, offset) => ({ r with controller }, .scrolled offset)

/-- Drop the dragged card on a column. -/
def dropOn (r : Replay) (column : String) : Replay × StepResult :=
  match r.controller.dropOn r.commons column with
  | (controller, .error fault) => ({ r with controller }, .refused fault)
  | (controller, .ok recorded) => ({ r with controller }, .dropEvaluated column recorded)

/-- Open or close a column. -/
def setDroppable (r : Replay) (column : String) (droppable : Bool) : Replay × StepResult :=
  match r.commons.lock.bind fun b => b.setDroppable column droppable with
  | .error fault => (r, .refused fault)
  | .ok board => ({ r with commons := { r.commons with board } }, .droppableSet column droppable)

/-- A step up to its end or its wait. -/
def attempt (r : Replay) : ScenarioStep → Replay × Progress
  | .start card left => (r.start card left).map id .ended
  | .move left => (r.move left).map id .ended
  | .dropOn column => (r.dropOn column).map id .ended
  | .release decision => r.release decision
  | .setDroppable column droppable => (r.setDroppable column droppable).map id .ended

/-- Wait at a gate to which nothing more comes. There is no state afterwards if the wait never ends. -/
def await (r : Replay) (p : Pending String) (g : Gate) : Option (Replay × StepResult) :=
  match Exchange.waitOut g none r.controller.limit 0 with
  | ⟨some c, _, waited⟩ => some (r.conclude p c waited)
  | ⟨none, _, _⟩ => none

/-- One step. There is no state afterwards if it never ends. -/
def step (r : Replay) (s : ScenarioStep) : Option (Replay × StepResult) :=
  match r.attempt s with
  | (r, .ended result) => some (r, result)
  | (r, .waiting p g) => r.await p g

/-- What is said about a step that was refused. -/
def remark (index : Nat) : StepResult → List Log.Line
  | .refused fault => [⟨.warn, .replay, s!"⚠️ Step {index} refused: {fault.message}"⟩]
  | _ => []

/-- All steps, the first of them with a given index, and how they turn out. -/
def play (r : Replay) (index : Nat) : List ScenarioStep → Option (Replay × List StepResult)
  | [] => some (r, [])
  | s :: rest => do
    let (r, result) ← r.step s
    let (r, results) ← (r.say (remark index result)).play (index + 1) rest
    return (r, result :: results)

/-! ## The state before all steps -/

/-- Register what a column and its cards allow. -/
def register (c : Controller String) (column : ColumnPlan) : Controller String :=
  column.cards.foldl (fun c card => c.registerDraggable card.id card.draggable)
    (c.registerZone column.id (if column.acceptsDrops then some column.id else none))

/-- The controller of a scenario. -/
def controllerOf (s : Scenario) : Controller String :=
  let v := s.viewport
  let c : Controller String := .new ⟨⟨v.left, v.width⟩, v.contentWidth, v.offset⟩
  s.columns.foldl register { c with limit := s.limit }

/-- A replay before its first step, with a number of interactions in progress elsewhere. -/
def begin (s : Scenario) (board : Board) (others : Nat) : Replay :=
  ⟨controllerOf s, ⟨board, false, ⟨others⟩⟩, .new, [], 0, []⟩

/-- What is left of the shared things once the controller is gone. -/
def dismiss (r : Replay) : Commons := (r.controller.dismiss r.commons).2

end Replay

end Kanban
