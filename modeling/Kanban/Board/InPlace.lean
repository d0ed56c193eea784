import Kanban.Board.Basic

/-!
# `Board.InPlace` — board operations one step after another

A board that several share is changed in place. An operation on it looks something up or changes something,
one step after another, and it stops at the first look-up that fails. Nobody takes back what it has changed by
then.

## Contents
- `plus`, `without`: a container with one more card, and without one.
- `InPlace`: what can be done to a board in place.
- `InPlace.container`, `InPlace.change`: look a container up, change one.
- `InPlace.addContainer`, `InPlace.addCard`, `InPlace.transfer`, `InPlace.setDroppable`: the operations.
-/

namespace Kanban.Board

/-- A container with one more card at the end of its list. -/
def plus (card : String) (k : Container) : Container := { k with cards := k.cards ++ [card] }

/-- A container without a card, wherever that stands in its list. -/
def without (card : String) (k : Container) : Container :=
  { k with cards := k.cards.filter (· ≠ card) }

theorem plus_id (card : String) (k : Container) : (plus card k).id = k.id := rfl

theorem without_id (card : String) (k : Container) : (without card k).id = k.id := rfl

/-- Something that is done to a board in place. When it stops, for whatever reason, the board stays as it is
    at that moment. -/
abbrev InPlace := EStateM Fault Board

namespace InPlace

/-! ## Steps -/

/-- Look up the first container with an identifier. -/
def container (id : String) : InPlace Container := do
  match (← get).container? id with
  | some k => return k
  | none => throw (.unknownContainer id)

/-- Look up the first container with an identifier and change it. -/
def change (id : String) (f : Container → Container) : InPlace Unit := do
  let _ ← container id
  modify fun b => b.updateContainer id f

/-! ## Operations -/

/-- Append an empty container. -/
def addContainer (id : String) (droppable : Bool) : InPlace Unit := do
  if ((← get).container? id).isSome then throw (.validation s!"Container {id} already exists")
  modify fun b => { b with containers := b.containers ++ [⟨id, [], droppable⟩] }

/-- Append a card to a container: first to its list, then to the cards. -/
def addCard (container id : String) (issue : Payload) (width : Float) : InPlace Unit := do
  if (← get).cards.contains id then throw (.validation s!"Card {id} already exists")
  change container (plus id)
  modify fun b => { b with cards := b.cards.insert id ⟨id, issue, container, width, false⟩ }

/-- Move a card to the end of another container: out of the one list, into the other one, and then what the
    card says itself. The target is looked up before anything changes, and once more when it is its turn. -/
def transfer (card target : String) : InPlace Unit := do
  match (← get).card? card with
  | none => throw (.unknownCard card)
  | some c =>
    if c.container = target then return
    let _ ← container target
    change c.container (without card)
    change target (plus card)
    modify fun b => { b with cards := b.cards.modify card fun c => { c with container := target } }

/-- Open or close a container for drops. -/
def setDroppable (container : String) (droppable : Bool) : InPlace Unit :=
  change container fun k => { k with droppable }

end InPlace

end Kanban.Board
