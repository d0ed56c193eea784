import Kanban.Drag.Controller

/-!
# `Scenario.Basic` — a board and what happens on it

A scenario describes a board, how its cards can be dragged, and a list of steps to replay.

## Contents
- `Decision`, `ScenarioStep`: the steps.
- `CardPlan`, `ColumnPlan`, `ViewportPlan`, `RefreshPlan`, `Scenario`.
- `Scenario.limit`, `Scenario.refreshInterval`, `Scenario.board`, `Scenario.cardCount`: what they amount to.
-/

namespace Kanban

/-- What a confirmation dialog does when a card is released. -/
inductive Decision where
  | accept
  | reject
  /-- Leave the dialog open without an answer. -/
  | never
  deriving DecidableEq, Repr

/-- A step of a scenario. -/
inductive ScenarioStep where
  | start (card : String) (left : Float)
  | move (left : Float)
  | dropOn (column : String)
  | release (decision : Decision)
  | setDroppable (column : String) (droppable : Bool)
  deriving DecidableEq, Repr

/-- A card of a column. -/
structure CardPlan where
  id : String
  /-- Whether the card may be dragged. -/
  draggable : Bool
  width : Float
  issue : Payload

/-- A column of the board. -/
structure ColumnPlan where
  id : String
  /-- Whether cards can be dropped on it at the start. -/
  droppable : Bool
  /-- Whether it asks for a confirmation of drops; no card can be dropped on it otherwise. -/
  acceptsDrops : Bool
  cards : List CardPlan

/-- The scrolling container that shows the columns. -/
structure ViewportPlan where
  left : Float
  width : Float
  contentWidth : Float
  offset : Float

/-- Refreshing in the background. -/
structure RefreshPlan where
  enabled : Bool
  /-- Milliseconds from one refresh to the next. -/
  interval : Option Nat
  deriving DecidableEq, Repr

/-- A board and what happens on it. -/
structure Scenario where
  name : String
  description : Option String
  /-- For how many milliseconds a release waits for its confirmation; zero means for ever. -/
  confirmationTimeout : Option Nat
  refresh : Option RefreshPlan
  viewport : ViewportPlan
  columns : List ColumnPlan
  steps : List ScenarioStep

namespace Scenario

/-- For how many milliseconds a release waits; for ever if there is no limit. -/
def limit (s : Scenario) : Option Nat :=
  match s.confirmationTimeout with
  | some 0 => none
  | some ms => some ms
  | none => some (Controller.defaultLimit)

/-- The interval of the background refresh if nothing else is said. -/
def defaultInterval : Nat := 1000

/-- Milliseconds from one background refresh to the next, if there is any. -/
def refreshInterval (s : Scenario) : Option Nat :=
  match s.refresh with
  | some r => if r.enabled then some (r.interval.getD defaultInterval) else none
  | none => none

/-- All cards, column by column. -/
def cards (s : Scenario) : List CardPlan := s.columns.flatMap (·.cards)

/-- How many cards there are. -/
def cardCount (s : Scenario) : Nat := s.cards.length

/-- The identifiers of the columns. -/
def columnIds (s : Scenario) : List String := s.columns.map (·.id)

/-- The identifiers of all cards. -/
def cardIds (s : Scenario) : List String := s.cards.map (·.id)

/-! ## The board -/

/-- Add a card to its column. -/
def addCard (column : String) (b : Board) (c : CardPlan) : Except Fault Board :=
  b.addCard column c.id c.issue c.width

/-- Add a column and then its cards. -/
def addColumn (b : Board) (c : ColumnPlan) : Except Fault Board := do
  c.cards.foldlM (addCard c.id) (← b.addContainer c.id c.droppable)

/-- The board that a scenario starts with. -/
def board (s : Scenario) : Except Fault Board := s.columns.foldlM addColumn Board.empty

end Scenario

end Kanban
