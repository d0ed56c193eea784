import Kanban.Fault
import Kanban.Payload.Basic

/-!
# `Board.Basic` — containers, cards and moves

A board keeps who owns a card twice: every container lists its cards in order, and every card names its
container. All operations read the card's own word for its container and look a container up as the first
one with its identifier, so they also mean something on a board whose two records disagree.

## Contents
- `Card`, `Container`, `Board` and lookups.
- Building: `Board.addContainer`, `Board.addCard`.
- Changing: `Board.transfer`, `Board.setDroppable`, `Board.setDragging`.
- Asking: `Board.owns`, `Board.canAccept`.
-/

namespace Kanban

/-- A card on a board. -/
structure Card where
  id : String
  /-- What the card stands for; a board never looks inside. -/
  issue : Payload
  /-- The identifier of the container that the card is in. -/
  container : String
  width : Float
  /-- Whether the card is marked as being dragged. -/
  dragging : Bool

/-- A container of cards, such as a column. -/
structure Container where
  id : String
  /-- The identifiers of its cards, oldest arrival first. -/
  cards : List String
  /-- Whether cards can be dropped on it at present. -/
  droppable : Bool
  deriving DecidableEq, Repr

/-- Containers in order and cards by identifier. -/
structure Board where
  containers : List Container
  cards : Dict Card

namespace Board

/-- The board without containers. -/
def empty : Board := ⟨[], Dict.empty⟩

instance : Inhabited Board := ⟨empty⟩

/-! ## Lookups -/

/-- The card stored under an identifier. -/
def card? (b : Board) (id : String) : Option Card := b.cards.get? id

/-- The first container with an identifier. -/
def container? (b : Board) (id : String) : Option Container := b.containers.find? (·.id = id)

/-- The first container with an identifier, or the fault that there is none. -/
def findContainer (b : Board) (id : String) : Except Fault Container :=
  match b.container? id with
  | some c => .ok c
  | none => .error (.unknownContainer id)

/-- Change the first container with an identifier. -/
def updateFirst (id : String) (f : Container → Container) : List Container → List Container
  | [] => []
  | c :: rest => if c.id = id then f c :: rest else c :: updateFirst id f rest

/-- Change the first container with an identifier on a board. -/
def updateContainer (b : Board) (id : String) (f : Container → Container) : Board :=
  { b with containers := updateFirst id f b.containers }

/-! ## Building -/

/-- Append an empty container. Its identifier must be new. -/
def addContainer (b : Board) (id : String) (droppable : Bool) : Except Fault Board :=
  if (b.container? id).isSome then .error (.validation s!"Container {id} already exists")
  else .ok { b with containers := b.containers ++ [⟨id, [], droppable⟩] }

/-- Append a card to a container. Its identifier must be new. -/
def addCard (b : Board) (container id : String) (issue : Payload) (width : Float) : Except Fault Board :=
  if b.cards.contains id then .error (.validation s!"Card {id} already exists")
  else do
    let _ ← b.findContainer container
    let b := b.updateContainer container fun c => { c with cards := c.cards ++ [id] }
    return { b with cards := b.cards.insert id ⟨id, issue, container, width, false⟩ }

/-! ## Changing -/

/-- Move a card to the end of another container. Moving it to the one it is in changes nothing. Both ends
    are looked up before anything changes. -/
def transfer (b : Board) (card target : String) : Except Fault Board :=
  match b.card? card with
  | none => .error (.unknownCard card)
  | some c =>
    if c.container = target then .ok b
    else do
      let _ ← b.findContainer target
      let _ ← b.findContainer c.container
      let b := b.updateContainer c.container fun k => { k with cards := k.cards.filter (· ≠ card) }
      let b := b.updateContainer target fun k => { k with cards := k.cards ++ [card] }
      return { b with cards := b.cards.modify card fun c => { c with container := target } }

/-- Open or close a container for drops. -/
def setDroppable (b : Board) (container : String) (droppable : Bool) : Except Fault Board := do
  let _ ← b.findContainer container
  return b.updateContainer container fun c => { c with droppable }

/-- Mark a card as being dragged or not. A card that is not on the board has no mark. -/
def setDragging (b : Board) (card : String) (dragging : Bool) : Board :=
  { b with cards := b.cards.modify card fun c => { c with dragging } }

/-! ## Asking -/

/-- Whether a card says that it is in a container. -/
def owns (b : Board) (container card : String) : Bool :=
  match b.card? card with
  | some c => c.container = container
  | none => false

/-- Whether a card can move to a container: it is on the board and not there already. -/
def canAccept (b : Board) (card target : String) : Bool :=
  match b.card? card with
  | some c => c.container ≠ target
  | none => false

end Board

end Kanban
