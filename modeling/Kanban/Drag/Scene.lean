import Kanban.Board.Edit
import Kanban.Drag.Controller

/-!
# `Drag.Scene` — a controller among others

A scene holds a controller, what it shares with others, and the gates of all releases so far. Everything
that happens is one event; the events of a release, its callback and its wait lie between those of others in
any order. A start callback runs when everything else about the start is done, so what it does comes right
after the start.

## Contents
- `Scene`, `Stage`, `Scene.Event`, `Scene.Note`.
- `Scene.step` and `Scene.run`.
-/

namespace Kanban

/-- Where a controller is with releasing. -/
inductive Stage (κ : Type) where
  /-- No release is in progress. -/
  | free
  /-- A release that asks nobody has looked at the board once and is going to look again. -/
  | ending (session : Session) (ending : Ending)
  /-- The callback of a release is running; its answer goes to a gate. -/
  | calling (pending : Pending κ) (gate : Nat)
  /-- A release has been waiting at a gate for a number of milliseconds. -/
  | waiting (pending : Pending κ) (gate waited : Nat)
  /-- The controller is no longer there. -/
  | gone

/-- A controller, what it shares, and the gates of its releases, oldest first. -/
structure Scene (κ : Type) where
  controller : Controller κ
  commons : Commons
  gates : List Gate
  stage : Stage κ

namespace Scene

variable {κ : Type}

/-- A controller on a board with no release in progress. -/
def new (controller : Controller κ) (commons : Commons) : Scene κ := ⟨controller, commons, [], .free⟩

/-- Something that happens in a scene. The controller's own operations need a free controller. -/
inductive Event (κ : Type) where
  | registerZone (container : String) (callback : Option κ)
  | registerDraggable (card : String) (allowed : Bool)
  | setLimit (limit : Option Nat)
  | setViewport (contentWidth offset : Option Float)
  | start (card : String) (left : Float)
  | move (left : Float)
  | dropOn (container : String)
  | release
  /-- A release that asks nobody ends. -/
  | settle
  /-- The callback of a release returns. -/
  | callbackReturns
  /-- A release looks at its gate. -/
  | poll
  /-- A release is given up while it waits. -/
  | cancel
  /-- The controller goes away. -/
  | dismiss
  /-- Milliseconds pass. -/
  | pass (ms : Nat)
  | answer (gate : Nat) (accepted : Bool)
  | abandon (gate : Nat)
  | edit (e : Board.Edit)
  | poison
  | heal
  | increment
  | decrement

/-- What an event tells the one who caused it. -/
inductive Note (κ : Type) where
  | nothing
  | refused (fault : Fault)
  | flag (b : Bool)
  | offset (x : Float)
  | outcome (o : DropOutcome)
  /-- A drag has started; its start callback is told the issue. -/
  | started (issue : Payload)
  /-- A release asks nobody and is about to end. -/
  | ending
  /-- A callback is to be run for a release; its answer goes to a gate. -/
  | calling (pending : Pending κ) (gate : Nat)

/-- What the result of a release tells the one who asked for it. -/
def Note.ofResult : Except Fault DropOutcome → Note κ
  | .ok o => .outcome o
  | .error fault => .refused fault

/-! ## Steps -/

/-- Whether no release is in progress. -/
def isFree (w : Scene κ) : Bool :=
  match w.stage with
  | .free => true
  | _ => false

/-- A scene in which the controller and what it shares have changed. -/
def withController (w : Scene κ) (c : Controller κ) (s : Commons) : Scene κ :=
  { w with controller := c, commons := s }

/-- Change one gate. -/
def updateGate (w : Scene κ) (gate : Nat) (f : Gate → Gate) : Scene κ :=
  { w with gates := w.gates.modify gate f }

/-- Change the shared things. -/
def updateCommons (w : Scene κ) (f : Commons → Commons) : Scene κ := { w with commons := f w.commons }

/-- Start to drag a card. -/
def start (w : Scene κ) (card : String) (left : Float) : Scene κ × Note κ :=
  match w.controller.start w.commons card left with
  | .error fault => (w, .refused fault)
  | .ok (c, s) => (w.withController c s, .started ((c.session.map (·.issue)).getD .null))

/-- Move the dragged card. -/
def move (w : Scene κ) (left : Float) : Scene κ × Note κ :=
  match w.controller.move left with
  | .error fault => (w, .refused fault)
  | .ok (c, x) => (w.withController c w.commons, .offset x)

/-- Drop the dragged card on a container. -/
def dropOn (w : Scene κ) (container : String) : Scene κ × Note κ :=
  match w.controller.dropOn w.commons container with
  | (c, .error fault) => (w.withController c w.commons, .refused fault)
  | (c, .ok counts) => (w.withController c w.commons, .flag counts)

/-- Release the dragged card. One that calls opens a gate. -/
def release (w : Scene κ) : Scene κ × Note κ :=
  match w.controller.release w.commons with
  | (c, s, .refused fault) => (w.withController c s, .refused fault)
  | (c, s, .ending session ending) =>
    ({ w.withController c s with stage := .ending session ending }, .ending)
  | (c, s, .calling pending) =>
    ({ w.withController c s with
        gates := w.gates ++ [Gate.fresh], stage := .calling pending w.gates.length },
      .calling pending w.gates.length)

/-- A release that asks nobody ends. -/
def settle (w : Scene κ) : Scene κ × Note κ :=
  match w.stage with
  | .ending session ending =>
    let (commons, result) := Controller.settle w.commons session ending
    ({ w with commons, stage := .free }, .ofResult result)
  | _ => (w, .nothing)

/-- The callback of a release returns and the wait begins. -/
def callbackReturns (w : Scene κ) : Scene κ :=
  match w.stage with
  | .calling pending gate => { w with controller := w.controller.await, stage := .waiting pending gate 0 }
  | _ => w

/-- A waiting release looks at its gate, and is over if there is an outcome. -/
def poll (w : Scene κ) : Scene κ × Note κ :=
  match w.stage with
  | .waiting pending gate waited =>
    match (w.gates.getD gate Gate.fresh).verdict w.controller.limit waited with
    | none => (w, .nothing)
    | some confirmation =>
      let (c, s, result) := w.controller.conclude w.commons pending confirmation
      ({ (w.withController c s).updateGate gate Gate.close with stage := .free }, .ofResult result)
  | _ => (w, .nothing)

/-- A waiting release is given up. -/
def cancel (w : Scene κ) : Scene κ :=
  match w.stage with
  | .waiting _ gate _ =>
    let (c, s) := w.controller.cancel w.commons
    { (w.withController c s).updateGate gate Gate.close with stage := .free }
  | _ => w

/-- The controller goes away. -/
def dismiss (w : Scene κ) : Scene κ :=
  let (c, s) := w.controller.dismiss w.commons
  { w.withController c s with stage := .gone }

/-- Milliseconds pass for a waiting release. -/
def pass (w : Scene κ) (ms : Nat) : Scene κ :=
  match w.stage with
  | .waiting pending gate waited => { w with stage := .waiting pending gate (waited + ms) }
  | _ => w

/-- An operation of the controller, which has to be free. -/
def whenFree (w : Scene κ) (next : Scene κ × Note κ) : Scene κ × Note κ :=
  if w.isFree then next else (w, .nothing)

/-- What happens in an event. -/
def step (w : Scene κ) : Event κ → Scene κ × Note κ
  | .registerZone container callback => w.whenFree
      ({ w with controller := w.controller.registerZone container callback }, .flag callback.isSome)
  | .registerDraggable card allowed => w.whenFree
      ({ w with controller := w.controller.registerDraggable card allowed }, .flag allowed)
  | .setLimit limit => w.whenFree ({ w with controller := { w.controller with limit } }, .nothing)
  | .setViewport contentWidth offset => w.whenFree
      (let v := w.controller.viewport
       let v := { v with
         contentWidth := contentWidth.getD v.contentWidth, offset := offset.getD v.offset }
       { w with controller := { w.controller with viewport := v } }, .nothing)
  | .start card left => w.whenFree (w.start card left)
  | .move left => w.whenFree (w.move left)
  | .dropOn container => w.whenFree (w.dropOn container)
  | .release => w.whenFree w.release
  | .dismiss => w.whenFree (w.dismiss, .nothing)
  | .settle => w.settle
  | .callbackReturns => (w.callbackReturns, .nothing)
  | .poll => w.poll
  | .cancel => (w.cancel, .nothing)
  | .pass ms => (w.pass ms, .nothing)
  | .answer gate accepted =>
    (w.updateGate gate fun g => (g.resolve accepted).1,
      .flag ((w.gates[gate]?.map fun g => (g.resolve accepted).2).getD false))
  | .abandon gate => (w.updateGate gate Gate.abandon, .nothing)
  | .edit e =>
    let (board, result) := w.commons.board.attempt e
    (w.updateCommons fun s => { s with board },
      match result with
      | .ok () => .nothing
      | .error fault => .refused fault)
  | .poison => (w.updateCommons fun s => { s with poisoned := true }, .nothing)
  | .heal => (w.updateCommons fun s => { s with poisoned := false }, .nothing)
  | .increment => (w.updateCommons Commons.hold, .nothing)
  | .decrement => (w.updateCommons Commons.unhold, .nothing)

/-- The scene after several events. -/
def run (w : Scene κ) (events : List (Event κ)) : Scene κ := events.foldl (fun w e => (w.step e).1) w

end Scene

end Kanban
