import Kanban.Board.Document
import Kanban.Board.InPlace

/-!
# `Board.Edit` — board operations as data

## Contents
- `Board.Edit`: one operation with its arguments.
- `Board.apply`: the board that it comes to, or why it is refused.
- `Board.Edit.inPlace`, `Board.attempt`: the operation on a board in place, and the board it leaves there, also
  when it is refused.
-/

namespace Kanban

/-- An operation on a board. -/
inductive Board.Edit where
  | addContainer (id : String) (droppable : Bool)
  | addCard (container id : String) (issue : Payload) (width : Float)
  | transfer (card target : String)
  | setDroppable (container : String) (droppable : Bool)
  /-- Replace the whole board by the one that a document describes. -/
  | load (document : Payload)

namespace Board

/-- The board after an operation, or why it is refused. -/
def apply (b : Board) : Edit → Except Fault Board
  | .addContainer id droppable => b.addContainer id droppable
  | .addCard container id issue width => b.addCard container id issue width
  | .transfer card target => b.transfer card target
  | .setDroppable container droppable => b.setDroppable container droppable
  | .load document => Board.load document

/-- An operation on a board in place. -/
def Edit.inPlace : Edit → InPlace Unit
  | .addContainer id droppable => InPlace.addContainer id droppable
  | .addCard container id issue width => InPlace.addCard container id issue width
  | .transfer card target => InPlace.transfer card target
  | .setDroppable container droppable => InPlace.setDroppable container droppable
  | .load document => do
    match Board.load document with
    | .ok b => set b
    | .error fault => throw fault

/-- The board that an operation leaves behind and whether it was refused. -/
def attempt (b : Board) (e : Edit) : Board × Except Fault Unit :=
  match e.inPlace.run b with
  | .ok _ b' => (b', .ok ())
  | .error fault b' => (b', .error fault)

end Board

end Kanban
