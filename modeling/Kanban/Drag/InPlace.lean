import Kanban.Drag.Controller

/-!
# `Drag.InPlace` — operations of a controller one change after another

A controller is changed in place, and so is what it shares with others. An operation looks something up or
changes something, one step after another, and it stops at the first look-up that fails. Nobody takes back what
it has changed by then. Only the unit of activity that a release holds is given back wherever the release stops.

## Contents
- `Call`, `Bench`: a controller at work, with the callbacks that have been run.
- `Controller.InPlace`: what can be done there; `lock`, `session`, `change`, `share`, `call`, `holding`: its steps.
- `InPlace.start`, `InPlace.move`, `InPlace.dropOn`: the operations of a drag.
- `InPlace.release`: a release up to where others act. Its end is one look at the board, `Commons.letGo`.
-/

namespace Kanban

/-- A callback that has been run. -/
inductive Call (κ : Type) where
  /-- The start callback of a card. -/
  | started (card : String) (issue : Payload)
  /-- The callback of a drop zone. -/
  | asked (pending : Pending κ)

/-- A controller at work, with everything that it can change. -/
structure Bench (κ : Type) where
  controller : Controller κ
  commons : Commons
  /-- The callbacks that have been run, in order. -/
  calls : List (Call κ)

namespace Controller

/-- Something that a controller does in place. When it stops, for whatever reason, everything stays as it is at
    that moment. -/
abbrev InPlace (κ : Type) := EStateM Fault (Bench κ)

namespace InPlace

variable {κ α : Type}

/-! ## Steps -/

/-- The session, if there is one. -/
def session : InPlace κ Session := do
  match (← get).controller.session with
  | some x => return x
  | none => throw .noActiveDrag

/-- The board, unless it is poisoned. -/
def lock : InPlace κ Board := do
  match (← get).commons.lock with
  | .ok board => return board
  | .error fault => throw fault

/-- Change the controller. -/
def change (f : Controller κ → Controller κ) : InPlace κ Unit :=
  modify fun b => { b with controller := f b.controller }

/-- Change what is shared. -/
def share (f : Commons → Commons) : InPlace κ Unit := modify fun b => { b with commons := f b.commons }

/-- Run a callback. -/
def call (c : Call κ) : InPlace κ Unit := modify fun b => { b with calls := b.calls ++ [c] }

/-- Hold a unit of activity. If the rest comes to a stop, the unit is given back in the state that this leaves. -/
def holding (rest : InPlace κ α) : InPlace κ α := fun b =>
  match rest.run b with
  | .ok a b' => .ok a b'
  | .error fault b' => .error fault { b' with commons := b'.commons.unhold }

/-! ## Dragging -/

/-- Start to drag a card. The mark on the board comes first, while the board is locked; then the unit of
    activity, the session and the phase; and the callback is the last thing of all. -/
def start (card : String) (left : Float) : InPlace κ Unit := do
  if let some x := (← get).controller.session then throw (.dragInProgress x.card)
  unless (← get).controller.draggables.contains card do throw (.notDraggable card)
  match (← lock).card? card with
  | none => throw (.unknownCard card)
  | some found =>
    share fun s => s.mark card true
    share Commons.hold
    change fun c => { c with session := some (c.openSession found card left) }
    change fun c => { c with phase := .dragging }
    call (.started card found.issue)

/-- Move the dragged card, and then the viewport if the card would be out of sight. -/
def move (left : Float) : InPlace κ Float := do
  let x ← session
  let x := { x with helper := ⟨left, x.helper.width⟩ }
  change fun c => { c with session := some x }
  let v := (← get).controller.viewport
  let offset := Scroll.follow v.bounds x.helper v.offset x.contentWidth
  if offset != v.offset then change fun c => { c with viewport := { c.viewport with offset } }
  return offset

/-- Put the card of a session over a container, or over none. -/
def aim (x : Session) (target : Option String) : InPlace κ Unit :=
  change fun c => { c with session := some { x with target } }

/-- Drop the card on a container. What it was over before is forgotten first. -/
def dropOn (target : String) : InPlace κ Bool := do
  let x ← session
  aim x none
  if (← get).controller.zones.isRegistered target then
    let board ← lock
    match board.container? target with
    | none => throw (.unknownContainer target)
    | some k =>
      let counts := k.droppable && decide (target ≠ x.origin) && board.canAccept x.card target
      aim x (if counts then some target else none)
      return counts
  else return false

/-! ## Releasing -/

/-- Release the dragged card, up to where others act. The session is taken first. -/
def release : InPlace κ (Release κ) := do
  let x ← session
  change fun c => { c with session := none }
  change fun c => { c with phase := .idle }
  holding do
    let board ← lock
    match (← get).controller.judge board x with
    | .ok pending =>
      call (.asked pending)
      return .calling pending
    | .error ending => return .ending x ending

end InPlace

end Controller

end Kanban
