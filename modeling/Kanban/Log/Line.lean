import Kanban.Payload.Json

/-!
# `Log.Line` — what the program says about its work

## Contents
- `Level`, `Component`, `Line`.
- `Line.plain`, `Line.json`: one line of text each.
-/

namespace Kanban.Log

/-- How much a line matters. -/
inductive Level where
  | error
  | warn
  | info
  deriving DecidableEq, Repr

/-- The name of a level. -/
def Level.name : Level → String
  | error => "ERROR"
  | warn => "WARN"
  | info => "INFO"

/-- How many levels matter more, counting this one. -/
def Level.rank : Level → Nat
  | error => 1
  | warn => 2
  | info => 3

/-- The part of the program that speaks. -/
inductive Component where
  | program
  | controller
  | confirmation
  | replay
  deriving DecidableEq, Repr

/-- The path of a component, by which lines can be filtered. -/
def Component.path : Component → String
  | program => "kanban_drag"
  | controller => "kanban_drag::core::controller"
  | confirmation => "kanban_drag::core::confirmation"
  | replay => "kanban_drag::app::replay"

/-- A line of a log. -/
structure Line where
  level : Level
  component : Component
  message : String
  deriving DecidableEq, Repr

namespace Line

/-- A line for people. -/
def plain (l : Line) : String := (if l.level = .error then "" else " ") ++ l.level.name ++ " " ++ l.message

/-- A line for programs. -/
def json (l : Line) : String :=
  Payload.Json.compact Payload.Json.standard
    (.record [("level", .text l.level.name), ("fields", .record [("message", .text l.message)]),
      ("target", .text l.component.path)])

end Line

end Kanban.Log
