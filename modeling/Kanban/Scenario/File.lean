import Kanban.Scenario.Read
import Kanban.Scenario.Template

/-!
# `Scenario.File` — scenarios in board files

A board file is a text with references to the environment. Once these are replaced it is a TOML document with
one table for each section of a scenario.

## Contents
- `Scenario.ofToml`, `Scenario.load`: the scenario of a document and of a text.
- `Stored`: what there is under a path; `Stored.text`, `Scenario.loadStored`.
-/

namespace Kanban

open Toml (Value)

/-! ## All sections together -/

/-- The sections of a scenario read so far. -/
structure Scenario.Draft where
  heading : Option (String × Option String)
  confirmationTimeout : Option (Option Nat)
  refresh : Option (Option RefreshPlan)
  viewport : Option ViewportPlan
  columns : Option (List ColumnPlan)
  steps : Option (List ScenarioStep)

namespace Scenario

/-- How a scenario is read. -/
def shape : Shape Value Draft where
  name := "ScenarioConfig"
  fields := [
    ("board", fun d v => do return { d with heading := some (← headingOfToml v) }),
    ("drag", fun d v => do return { d with confirmationTimeout := some (← dragOfToml v) }),
    ("refresh", fun d v => do return { d with refresh := some (some (← RefreshPlan.ofToml v)) }),
    ("viewport", fun d v => do return { d with viewport := some (← ViewportPlan.ofToml v) }),
    ("columns", fun d v => do
      return { d with columns := some (← (← v.view.asList).mapM ColumnPlan.ofToml) }),
    ("steps", fun d v => do
      return { d with steps := some (← (← v.view.asList).mapM ScenarioStep.ofToml) })]

/-- Read a scenario. -/
def ofToml (v : Value) : Decoded Scenario := do
  let (s, d) ← v.readRecord shape ⟨none, none, none, none, none, none⟩
  let (name, description) ← s.require 0 "board" d.heading
  let refresh ← s.allow 2 d.refresh
  let viewport ← s.require 3 "viewport" d.viewport
  let columns ← s.require 4 "columns" d.columns
  return ⟨name, description, d.confirmationTimeout.getD none, refresh, viewport, columns,
    d.steps.getD []⟩

/-- Read the text of a board file, with references to the environment replaced. -/
def load (env : String → Option String) (text : String) : Except Fault Scenario :=
  match Toml.parse (Template.fill env text) with
  | none => .error (.toml "the document is not well formed")
  | some v =>
    match ofToml v with
    | .ok s => .ok s
    | .error fault => .error (.toml fault.message)

end Scenario

/-! ## Files as stored -/

/-- What there is under a path. -/
inductive Stored where
  | missing
  | directory
  /-- Something that cannot be read for another reason. -/
  | unreadable (cause : String)
  | bytes (content : ByteArray)

/-- The text of a file, or the reason why it cannot be read. -/
def Stored.text : Stored → Except Fault String
  | missing => .error (.io "No such file or directory (os error 2)")
  | directory => .error (.io "Is a directory (os error 21)")
  | unreadable cause => .error (.io cause)
  | bytes content =>
    match String.fromUTF8? content with
    | some s => .ok s
    | none => .error (.io "stream did not contain valid UTF-8")

/-- Read the scenario of a file. -/
def Scenario.loadStored (env : String → Option String) (file : Stored) : Except Fault Scenario := do
  Scenario.load env (← file.text)

end Kanban
