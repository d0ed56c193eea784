import Kanban.Log.Line
import Kanban.Text.Basic

/-!
# `Log.Filter` — which lines are shown

A filter is a list of directives such as `warn` or `kanban_drag=info`. The directive with the longest path
that a component's path begins with decides up to which level its lines are shown.

## Contents
- `Directive`, `Filter.ofText`.
- `Filter.shows`.
-/

namespace Kanban.Log

/-- Up to which level the lines of some components are shown. -/
structure Directive where
  /-- What the path of a component has to begin with; everything if empty. -/
  path : String
  /-- How many levels are shown, from the most important one on. -/
  rank : Nat
  deriving DecidableEq, Repr

/-- A list of directives. -/
abbrev Filter := List Directive

/-- How many levels a level's name or number stands for. -/
def rankOfText (s : String) : Option Nat :=
  match s.toLower with
  | "off" | "0" => some 0
  | "error" | "1" => some 1
  | "warn" | "2" => some 2
  | "info" | "3" => some 3
  | "debug" | "4" => some 4
  | "trace" | "5" => some 5
  | _ => none

/-- All levels. -/
def allLevels : Nat := 5

/-- Characters of a path. -/
def isPathChar (c : Char) : Bool := c.isAlphanum || c == '-' || c == ':' || c == '_'

/-- A path, if every character may be part of one. -/
def pathOfText (s : String) : Option String :=
  if s.toList.all isPathChar && !s.isEmpty then some s else none

/-- A directive: a level, a path, or a path with its level. One that speaks of spans concerns no lines. -/
def directiveOfText (s : String) : Option (List Directive) :=
  let s := Text.trim s
  let path := String.ofList (s.toList.takeWhile (· ≠ '='))
  if s.toList.contains '[' then some []
  else if path.length = s.length then
    match rankOfText s with
    | some rank => some [⟨"", rank⟩]
    | none => (pathOfText s).map fun path => [⟨path, allLevels⟩]
  else do
    let path ← pathOfText path
    let level := String.ofList (s.toList.drop (path.length + 1))
    let rank ← if level.isEmpty then some allLevels else rankOfText level
    return [⟨path, rank⟩]

/-- Split a text at its commas. -/
def splitAtCommas (s : String) : List String :=
  (s.toList.splitOn ',').map String.ofList

namespace Filter

/-- The filter that a text describes, unless some directive of it makes no sense. Without directives only
    errors are shown. -/
def ofText (s : String) : Option Filter := do
  let parts := (splitAtCommas s).filter (!·.isEmpty)
  if parts.isEmpty then return [⟨"", 1⟩]
  return (← parts.mapM directiveOfText).flatten

/-- The filter if nothing else is said. -/
def default : Filter := [⟨"kanban_drag", 3⟩]

/-- Whether a directive speaks about a component. -/
def concerns (d : Directive) (c : Component) : Bool := d.path.toList.isPrefixOf c.path.toList

/-- Of two directives about a component, the one with the longer path; of equals the later one. -/
def closer (best : Option Directive) (d : Directive) : Option Directive :=
  match best with
  | none => some d
  | some b => if d.path.length < b.path.length then some b else some d

/-- Whether a line is shown. -/
def shows (f : Filter) (l : Line) : Bool :=
  match (f.filter (concerns · l.component)).foldl closer none with
  | some d => l.level.rank ≤ d.rank
  | none => false

end Filter

end Kanban.Log
