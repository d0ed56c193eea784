import Kanban.Activity.Basic
import Kanban.Board.Basic
import Kanban.Confirmation
import Kanban.DropZones
import Kanban.Scroll

/-!
# `Drag.Controller` — dragging one card at a time

A controller leads a card through a drag: it starts, moves, may be over a drop target, and is released. It
never moves a card on the board. A release over a target calls the target's callback, which may move the
card itself, and then waits for a confirmation.

Releasing is cut at the points where others act. `Controller.release` takes a first look at the board. If
nobody is to be asked, `Controller.settle` takes a second one and ends the release. Otherwise
`Controller.release` stops where the callback is to be called, `Controller.await` begins the wait, and
`Controller.conclude` or `Controller.cancel` ends it.

## Contents
- `Phase`, `Session`, `Commons`, `Controller`.
- `Controller.start`, `Controller.move`, `Controller.dropOn`.
- `Release`, `Pending` and the stages of releasing.
- `DropOutcome`, `Controller.dismiss`.
-/

namespace Kanban

/-- What a controller is doing, as others see it. -/
inductive Phase where
  | idle
  | dragging
  | pendingConfirmation
  deriving DecidableEq, Repr

/-- A drag in progress. -/
structure Session where
  card : String
  /-- The card's issue when the drag started. -/
  issue : Payload
  /-- The card's container when the drag started. -/
  origin : String
  /-- Where the dragged image of the card is. -/
  helper : Bounds Float
  /-- The width of the scrolled content when the drag started. -/
  contentWidth : Float
  /-- The container that the card was last dropped on, if that drop counts. -/
  target : Option String

/-- What a controller shares with everybody else. -/
structure Commons where
  board : Board
  /-- Whether somebody left the board behind in the middle of a change. -/
  poisoned : Bool
  activity : Activity

namespace Commons

/-- A board in good order with nothing in progress. -/
def ofBoard (b : Board) : Commons := ⟨b, false, Activity.idle⟩

/-- The board, unless it is poisoned. -/
def lock (s : Commons) : Except Fault Board := if s.poisoned then .error .boardUnavailable else .ok s.board

/-- Mark a card on the board as being dragged or not. -/
def mark (s : Commons) (card : String) (dragging : Bool) : Commons :=
  { s with board := s.board.setDragging card dragging }

/-- Take a unit of activity. -/
def hold (s : Commons) : Commons := { s with activity := s.activity.increment }

/-- Give a unit of activity back. -/
def unhold (s : Commons) : Commons := { s with activity := s.activity.decrement }

/-- Take the mark off a card and give its unit of activity back. On a poisoned board the mark stays. -/
def letGo (s : Commons) (card : String) : Commons × Except Fault Unit :=
  match s.lock with
  | .error fault => (s.unhold, .error fault)
  | .ok _ => ((s.mark card false).unhold, .ok ())

end Commons

/-- A drag controller over callbacks `κ` of drop zones. -/
structure Controller (κ : Type) where
  viewport : Viewport
  zones : DropZones κ
  /-- The cards that may be dragged. -/
  draggables : Dict Unit
  /-- For how many milliseconds a release waits for its confirmation; for ever if there is no limit. -/
  limit : Option Nat
  phase : Phase
  session : Option Session

/-- How a release ends. -/
inductive DropOutcome where
  | noTarget
  | sameContainer (container : String)
  | committed (target : String)
  | declined (target : String) (confirmation : Confirmation)
  deriving DecidableEq, Repr

namespace Controller

variable {κ : Type}

/-- How long a release waits if nothing else is said: five minutes. -/
def defaultLimit : Nat := 300000

/-- A controller that knows no draggable cards and no drop zones. -/
def new (viewport : Viewport) : Controller κ :=
  ⟨viewport, DropZones.empty, Dict.empty, some defaultLimit, .idle, none⟩

/-- Set the callback of a drop zone. -/
def registerZone (c : Controller κ) (container : String) (callback : Option κ) : Controller κ :=
  { c with zones := c.zones.register container callback }

/-- Allow or forbid to drag a card. -/
def registerDraggable (c : Controller κ) (card : String) (allowed : Bool) : Controller κ :=
  { c with draggables := if allowed then c.draggables.insert card () else c.draggables.erase card }

/-! ## Dragging -/

/-- The session of a card that starts to be dragged with its left edge at `left`. -/
def openSession (c : Controller κ) (card : Card) (id : String) (left : Float) : Session where
  card := id
  issue := card.issue
  origin := card.container
  helper := ⟨left, card.width⟩
  contentWidth := c.viewport.contentWidth
  target := none

/-- Start to drag a card. -/
def start (c : Controller κ) (s : Commons) (card : String) (left : Float) :
    Except Fault (Controller κ × Commons) := do
  if let some session := c.session then
    throw (.dragInProgress session.card)
  unless c.draggables.contains card do
    throw (.notDraggable card)
  let board ← s.lock
  match board.card? card with
  | none => throw (.unknownCard card)
  | some found =>
    return ({ c with phase := .dragging, session := some (c.openSession found card left) },
      (s.mark card true).hold)

/-- Move the dragged card. The viewport scrolls to keep it in sight. -/
def move (c : Controller κ) (left : Float) : Except Fault (Controller κ × Float) :=
  match c.session with
  | none => .error .noActiveDrag
  | some session =>
    let session := { session with helper := ⟨left, session.helper.width⟩ }
    let current := c.viewport.offset
    let offset := Scroll.follow c.viewport.bounds session.helper current session.contentWidth
    let viewport := if offset != current then { c.viewport with offset } else c.viewport
    .ok ({ c with session := some session, viewport }, offset)

/-- Whether a drop of the session's card on a registered container counts. -/
def dropCounts (s : Commons) (session : Session) (target : String) : Except Fault Bool := do
  let board ← s.lock
  let container ← board.findContainer target
  return container.droppable && decide (target ≠ session.origin) && board.canAccept session.card target

/-- Drop the card on a container. A drop that does not count, for whatever reason, erases an earlier one. -/
def dropOn (c : Controller κ) (s : Commons) (target : String) : Controller κ × Except Fault Bool :=
  match c.session with
  | none => (c, .error .noActiveDrag)
  | some session =>
    let keep (t : Option String) : Controller κ := { c with session := some { session with target := t } }
    if c.zones.isRegistered target then
      match dropCounts s session target with
      | .error fault => (keep none, .error fault)
      | .ok counts => (keep (if counts then some target else none), .ok counts)
    else (keep none, .ok false)

end Controller

/-! ## Releasing -/

/-- How a release ends that asks for no confirmation. -/
inductive Ending where
  /-- The card was not dropped anywhere. -/
  | nowhere
  /-- The card was dropped where it is. -/
  | sameContainer (container : String)
  /-- The drop zone is gone. -/
  | zoneGone (target : String)
  deriving DecidableEq, Repr

/-- The outcome that an ending stands for. -/
def Ending.outcome : Ending → DropOutcome
  | nowhere => .noTarget
  | sameContainer container => .sameContainer container
  | zoneGone _ => .noTarget

/-- A release that asks for a confirmation. -/
structure Pending (κ : Type) where
  session : Session
  target : String
  callback : κ

/-- A release up to the point where the callback is to be called, if it gets there. -/
inductive Release (κ : Type) where
  | refused (fault : Fault)
  /-- Nobody is asked; only the second look at the board is left. -/
  | ending (session : Session) (ending : Ending)
  | calling (pending : Pending κ)

namespace Controller

variable {κ : Type}

/-- Whom the release of a session asks, or how it ends without asking. -/
def judge (c : Controller κ) (board : Board) (session : Session) : Except Ending (Pending κ) :=
  match session.target with
  | none => .error .nowhere
  | some target =>
    if target ≠ session.origin ∧ (board.card? session.card).map (·.container) ≠ some target then
      match c.zones.callback? target with
      | some callback => .ok ⟨session, target, callback⟩
      | none => .error (.zoneGone target)
    else .error (.sameContainer target)

/-- Release the dragged card, up to where others act. A release that goes on keeps its unit of activity. -/
def release (c : Controller κ) (s : Commons) : Controller κ × Commons × Release κ :=
  match c.session with
  | none => (c, s, .refused .noActiveDrag)
  | some session =>
    let c := { c with phase := .idle, session := none }
    match s.lock with
    | .error fault => (c, s.unhold, .refused fault)
    | .ok board =>
      match c.judge board session with
      | .ok pending => (c, s, .calling pending)
      | .error ending => (c, s, .ending session ending)

/-- End a release that asks nobody. -/
def settle (s : Commons) (session : Session) (ending : Ending) : Commons × Except Fault DropOutcome :=
  let (s, result) := s.letGo session.card
  (s, result.map fun _ => ending.outcome)

/-- Begin to wait for the confirmation, after the callback has returned. -/
def await (c : Controller κ) : Controller κ := { c with phase := .pendingConfirmation }

/-- End the wait with a confirmation. -/
def conclude (c : Controller κ) (s : Commons) (p : Pending κ) (confirmation : Confirmation) :
    Controller κ × Commons × Except Fault DropOutcome :=
  let (s, result) := s.letGo p.session.card
  ({ c with phase := .idle }, s, result.map fun _ =>
    if confirmation.isAccepted then .committed p.target else .declined p.target confirmation)

/-- Give up the wait. The card keeps its mark. -/
def cancel (c : Controller κ) (s : Commons) : Controller κ × Commons := ({ c with phase := .idle }, s.unhold)

/-- The controller goes away. A drag in progress gives its unit of activity back; the card keeps its mark. -/
def dismiss (c : Controller κ) (s : Commons) : Controller κ × Commons :=
  match c.session with
  | none => (c, s)
  | some _ => ({ c with session := none }, s.unhold)

end Controller

end Kanban
