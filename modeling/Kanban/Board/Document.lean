import Kanban.Board.Basic
import Kanban.Decode

/-!
# `Board.Document` — boards as documents

A board is written out as a record of its containers and its cards. Reading accepts every record in either
spelling, ignores fields it does not know and checks nothing about how containers and cards agree.

## Contents
- `Card.toPayload`, `Container.toPayload`, `Board.toPayload`.
- `Payload.view`: payloads as documents.
- `Board.ofPayload`.
-/

namespace Kanban

/-! ## Writing -/

/-- A card as a record. -/
def Card.toPayload (c : Card) : Payload :=
  .ofFields [("id", .text c.id), ("issue", c.issue), ("container", .text c.container),
    ("width", .ofFloat c.width), ("dragging", .flag c.dragging)]

/-- A container as a record. -/
def Container.toPayload (c : Container) : Payload :=
  .ofFields [("id", .text c.id), ("cards", .ofTexts c.cards), ("droppable", .flag c.droppable)]

/-- A board as a record. -/
def Board.toPayload (b : Board) : Payload :=
  .ofFields [("containers", .list (b.containers.map Container.toPayload)),
    ("cards", .record (b.cards.entries.map fun (id, c) => (id, c.toPayload)))]

/-! ## Reading -/

namespace Payload

/-- The topmost level of a payload. -/
def view : Payload → View Payload
  | null => .null
  | flag b => .flag b
  | integer n => .integer n
  | number x => .number x (Decimal.json.write x)
  | text s => .text s
  | list items => .list items
  | record fields => .record fields

/-- Read a record of a payload into a draft. A list longer than the fields is refused. -/
def readRecord {δ : Type} (shape : Shape Payload δ) (blank : δ) (p : Payload) :
    Decoded (Spelling × δ) := do
  let read ← shape.read (fun _ => .ok ()) blank p.view
  match p with
  | .list items =>
    if shape.fields.length < items.length then
      .error (.invalidLength items.length "fewer elements in array")
    else .ok read
  | _ => .ok read

end Payload

/-- The fields of a card read so far. -/
structure Card.Draft where
  id : Option String
  issue : Option Payload
  container : Option String
  width : Option Float
  dragging : Option Bool

namespace Card

/-- How a card is read. -/
def shape : Shape Payload Draft where
  name := "Card"
  fields := [
    ("id", fun d p => do return { d with id := some (← p.view.asText) }),
    ("issue", fun d p => .ok { d with issue := some p }),
    ("container", fun d p => do return { d with container := some (← p.view.asText) }),
    ("width", fun d p => do return { d with width := some (← p.view.asFloat) }),
    ("dragging", fun d p => do return { d with dragging := some (← p.view.asFlag) })]

/-- The card of a draft. Only the dragging mark may be left out. -/
def Draft.finish (d : Draft) (s : Spelling) : Decoded Card := do
  let id ← s.require 0 "id" d.id
  let issue ← s.require 1 "issue" d.issue
  let container ← s.require 2 "container" d.container
  let width ← s.require 3 "width" d.width
  return ⟨id, issue, container, width, d.dragging.getD false⟩

/-- Read a card. -/
def ofPayload (p : Payload) : Decoded Card := do
  let (s, d) ← p.readRecord shape ⟨none, none, none, none, none⟩
  d.finish s

end Card

/-- The fields of a container read so far. -/
structure Container.Draft where
  id : Option String
  cards : Option (List String)
  droppable : Option Bool

namespace Container

/-- How a container is read. -/
def shape : Shape Payload Draft where
  name := "Container"
  fields := [
    ("id", fun d p => do return { d with id := some (← p.view.asText) }),
    ("cards", fun d p => do return { d with cards := some (← (← p.view.asList).mapM (·.view.asText)) }),
    ("droppable", fun d p => do return { d with droppable := some (← p.view.asFlag) })]

/-- The container of a draft. -/
def Draft.finish (d : Draft) (s : Spelling) : Decoded Container := do
  let id ← s.require 0 "id" d.id
  let cards ← s.require 1 "cards" d.cards
  let droppable ← s.require 2 "droppable" d.droppable
  return ⟨id, cards, droppable⟩

/-- Read a container. -/
def ofPayload (p : Payload) : Decoded Container := do
  let (s, d) ← p.readRecord shape ⟨none, none, none⟩
  d.finish s

end Container

/-- The fields of a board read so far. -/
structure Board.Draft where
  containers : Option (List Container)
  cards : Option (Dict Card)

namespace Board

/-- Read the cards of a board; of cards under one key the last wins. -/
def cardsOfPayload (p : Payload) : Decoded (Dict Card) := do
  let entries ← (← p.view.asMap).mapM fun (id, c) => do return (id, ← Card.ofPayload c)
  return Dict.ofList entries

/-- How a board is read. -/
def shape : Shape Payload Draft where
  name := "Board"
  fields := [
    ("containers", fun d p => do
      return { d with containers := some (← (← p.view.asList).mapM Container.ofPayload) }),
    ("cards", fun d p => do return { d with cards := some (← cardsOfPayload p) })]

/-- The board of a draft. -/
def Draft.finish (d : Draft) (s : Spelling) : Decoded Board := do
  let containers ← s.require 0 "containers" d.containers
  let cards ← s.require 1 "cards" d.cards
  return ⟨containers, cards⟩

/-- Read a board. -/
def ofPayload (p : Payload) : Decoded Board := do
  let (s, d) ← p.readRecord shape ⟨none, none⟩
  d.finish s

/-- Read a board, with the fault that a caller is shown. -/
def load (p : Payload) : Except Fault Board :=
  match ofPayload p with
  | .ok b => .ok b
  | .error fault => .error (.serialization fault.message)

end Board

end Kanban
