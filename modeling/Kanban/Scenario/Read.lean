import Kanban.Scenario.Basic
import Kanban.Toml.Syntax

/-!
# `Scenario.Read` — the sections of a board file

A board file is a TOML document. Its tables may also be written as lists of their fields in order, keys that
mean nothing are ignored, and integers are accepted for doubles.

## Contents
- One reader per section of a board file.
- `ScenarioStep.ofToml`: steps, which say in a field or in front of a list what they are.
-/

namespace Kanban

open Toml (Value)

/-- Read a table of a board file into a draft. -/
def Toml.Value.readRecord {δ : Type} (shape : Shape Value δ) (blank : δ) (v : Value) :
    Decoded (Spelling × δ) :=
  shape.read Value.skip blank v.view

/-! ## Cards and columns -/

/-- The fields of a card read so far. -/
structure CardPlan.Draft where
  id : Option String
  draggable : Option Bool
  width : Option Float
  issue : Option Payload

namespace CardPlan

/-- The width of a card if nothing else is said. -/
def defaultWidth : Float := 240

/-- How a card is read. -/
def shape : Shape Value Draft where
  name := "CardConfig"
  fields := [
    ("id", fun d v => do return { d with id := some (← v.view.asText) }),
    ("draggable", fun d v => do return { d with draggable := some (← v.view.asFlag) }),
    ("width", fun d v => do return { d with width := some (← v.view.asFloat) }),
    ("issue", fun d v => do return { d with issue := some (← v.toPayload) })]

/-- Read a card. -/
def ofToml (v : Value) : Decoded CardPlan := do
  let (s, d) ← v.readRecord shape ⟨none, none, none, none⟩
  let id ← s.require 0 "id" d.id
  return ⟨id, d.draggable.getD true, d.width.getD defaultWidth, d.issue.getD .null⟩

end CardPlan

/-- The fields of a column read so far. -/
structure ColumnPlan.Draft where
  id : Option String
  droppable : Option Bool
  acceptsDrops : Option Bool
  cards : Option (List CardPlan)

namespace ColumnPlan

/-- How a column is read. -/
def shape : Shape Value Draft where
  name := "ColumnConfig"
  fields := [
    ("id", fun d v => do return { d with id := some (← v.view.asText) }),
    ("droppable", fun d v => do return { d with droppable := some (← v.view.asFlag) }),
    ("accepts_drops", fun d v => do return { d with acceptsDrops := some (← v.view.asFlag) }),
    ("cards", fun d v => do
      return { d with cards := some (← (← v.view.asList).mapM CardPlan.ofToml) })]

/-- Read a column. -/
def ofToml (v : Value) : Decoded ColumnPlan := do
  let (s, d) ← v.readRecord shape ⟨none, none, none, none⟩
  let id ← s.require 0 "id" d.id
  return ⟨id, d.droppable.getD true, d.acceptsDrops.getD true, d.cards.getD []⟩

end ColumnPlan

/-! ## Viewport, refresh and dragging -/

/-- The fields of a viewport read so far. -/
structure ViewportPlan.Draft where
  left : Option Float
  width : Option Float
  contentWidth : Option Float
  offset : Option Float

namespace ViewportPlan

/-- How a viewport is read. -/
def shape : Shape Value Draft where
  name := "ViewportConfig"
  fields := [
    ("left", fun d v => do return { d with left := some (← v.view.asFloat) }),
    ("width", fun d v => do return { d with width := some (← v.view.asFloat) }),
    ("content_width", fun d v => do return { d with contentWidth := some (← v.view.asFloat) }),
    ("scroll_offset", fun d v => do return { d with offset := some (← v.view.asFloat) })]

/-- Read a viewport. -/
def ofToml (v : Value) : Decoded ViewportPlan := do
  let (s, d) ← v.readRecord shape ⟨none, none, none, none⟩
  let width ← s.require 1 "width" d.width
  let contentWidth ← s.require 2 "content_width" d.contentWidth
  return ⟨d.left.getD 0, width, contentWidth, d.offset.getD 0⟩

end ViewportPlan

/-- The fields of a refresh section read so far. -/
structure RefreshPlan.Draft where
  enabled : Option Bool
  interval : Option (Option Nat)

namespace RefreshPlan

/-- How a refresh section is read. -/
def shape : Shape Value Draft where
  name := "RefreshConfig"
  fields := [
    ("enabled", fun d v => do return { d with enabled := some (← v.view.asFlag) }),
    ("interval_ms", fun d v => do return { d with interval := some (some (← v.view.asCount)) })]

/-- Read a refresh section. -/
def ofToml (v : Value) : Decoded RefreshPlan := do
  let (s, d) ← v.readRecord shape ⟨none, none⟩
  let enabled ← s.require 0 "enabled" d.enabled
  let interval ← s.allow 1 d.interval
  return ⟨enabled, interval⟩

end RefreshPlan

namespace Scenario

/-- How the section about dragging is read. -/
def dragShape : Shape Value (Option (Option Nat)) where
  name := "DragConfig"
  fields := [("confirmation_timeout_ms", fun _ v => do return some (some (← v.view.asCount)))]

/-- Read the section about dragging: the confirmation timeout. -/
def dragOfToml (v : Value) : Decoded (Option Nat) := do
  let (s, d) ← v.readRecord dragShape none
  s.allow 0 d

/-- The fields of the heading read so far. -/
structure HeadingDraft where
  name : Option String
  description : Option (Option String)

/-- How the heading of a board is read. -/
def headingShape : Shape Value HeadingDraft where
  name := "BoardInfo"
  fields := [
    ("name", fun d v => do return { d with name := some (← v.view.asText) }),
    ("description", fun d v => do return { d with description := some (some (← v.view.asText)) })]

/-- Read the heading of a board: its name and its description. -/
def headingOfToml (v : Value) : Decoded (String × Option String) := do
  let (s, d) ← v.readRecord headingShape ⟨none, none⟩
  let name ← s.require 0 "name" d.name
  let description ← s.allow 1 d.description
  return (name, description)

end Scenario

/-! ## Steps -/

namespace Decision

/-- The names of the decisions. -/
def names : List String := ["accept", "reject", "never"]

/-- The decision of a name. -/
def ofName (name : String) : Decoded Decision :=
  match name with
  | "accept" => .ok accept
  | "reject" => .ok reject
  | "never" => .ok never
  | name => .error (.unknownVariant name names)

/-- Read a decision: its name, or a table with its name as the only key and nothing in it. -/
def ofToml (v : Value) : Decoded Decision :=
  match v.view with
  | .text name => ofName name
  | .record [(name, content)] => do
    let decision ← ofName name
    match content.view with
    | .record [] => return decision
    | content => .error (content.mismatch "unit")
  | .record _ => .error (.invalidValue .record "map with a single key")
  | v => .error (v.mismatch "string or map")

end Decision

namespace ScenarioStep

/-- What a step is, apart from its fields. -/
inductive Kind where
  | start
  | move
  | dropOn
  | release
  | setDroppable
  deriving DecidableEq, Repr

/-- The names of the kinds. -/
def kindNames : List String := ["start", "move", "drop_on", "release", "set_droppable"]

/-- Read the kind of a step. -/
def Kind.ofToml (v : Value) : Decoded Kind :=
  match v.view with
  | .text "start" => .ok start
  | .text "move" => .ok move
  | .text "drop_on" => .ok dropOn
  | .text "release" => .ok release
  | .text "set_droppable" => .ok setDroppable
  | .text name => .error (.unknownVariant name kindNames)
  | v@(.integer n) =>
    if Int.pow 2 63 ≤ n ∧ n < Int.pow 2 64 then .error (.invalidValue (.integer n) "variant index 0 <= i < 5")
    else .error (v.mismatch "variant identifier")
  | v => .error (v.mismatch "variant identifier")

/-- The fields of a step read so far. -/
structure Draft where
  card : Option String
  left : Option Float
  column : Option String
  droppable : Option Bool
  decision : Option Decision

/-- The field that names a card. -/
def cardField : String × (Draft → Value → Decoded Draft) :=
  ("card", fun d v => do return { d with card := some (← v.view.asText) })

/-- A field that says where the left edge goes. -/
def leftField (name : String) : String × (Draft → Value → Decoded Draft) :=
  (name, fun d v => do return { d with left := some (← v.view.asFloat) })

/-- The field that names a column. -/
def columnField : String × (Draft → Value → Decoded Draft) :=
  ("column", fun d v => do return { d with column := some (← v.view.asText) })

/-- The field that opens or closes a column. -/
def droppableField : String × (Draft → Value → Decoded Draft) :=
  ("droppable", fun d v => do return { d with droppable := some (← v.view.asFlag) })

/-- The field that holds a decision. -/
def decisionField : String × (Draft → Value → Decoded Draft) :=
  ("confirm", fun d v => do return { d with decision := some (← Decision.ofToml v) })

/-- How the fields of a kind are read. -/
def Kind.shape : Kind → Shape Value Draft
  | start => ⟨"variant ScenarioStep::Start", [cardField, leftField "left"]⟩
  | move => ⟨"variant ScenarioStep::Move", [leftField "helper_left"]⟩
  | dropOn => ⟨"variant ScenarioStep::DropOn", [columnField]⟩
  | release => ⟨"variant ScenarioStep::Release", [decisionField]⟩
  | setDroppable => ⟨"variant ScenarioStep::SetDroppable", [columnField, droppableField]⟩

/-- The step of a kind with the fields of a draft. -/
def Draft.finish (d : Draft) (s : Spelling) : Kind → Decoded ScenarioStep
  | .start => do return .start (← s.require 0 "card" d.card) (d.left.getD 0)
  | .move => do return .move (← s.require 0 "helper_left" d.left)
  | .dropOn => do return .dropOn (← s.require 0 "column" d.column)
  | .release => .ok (.release (d.decision.getD .accept))
  | .setDroppable => do
    let column ← s.require 0 "column" d.column
    return .setDroppable column (← s.require 1 "droppable" d.droppable)

/-- Read the fields of a step whose kind is known. All of them have been read before. -/
def ofFields (kind : Kind) (fields : View Value) : Decoded ScenarioStep := do
  let (s, d) ← kind.shape.read (fun _ => .ok ()) ⟨none, none, none, none, none⟩ fields
  match fields with
  | .list items =>
    if kind.shape.fields.length < items.length then
      throw (.invalidLength items.length s!"{kind.shape.fields.length} elements in sequence")
  | _ => pure ()
  d.finish s kind

/-- The field that says what a step is. -/
def kindField : String := "action"

/-- Read one field of a step: its kind, or something to be looked at when the kind is known. -/
def collect (found : Option Kind × List (String × Value)) (field : String × Value) :
    Decoded (Option Kind × List (String × Value)) :=
  if field.1 = kindField then do return (some (← Kind.ofToml field.2), found.2)
  else do
    field.2.buffer
    return (found.1, found.2 ++ [field])

/-- Read a step. -/
def ofToml (v : Value) : Decoded ScenarioStep :=
  match v.view with
  | .record fields => do
    match ← fields.foldlM collect (none, []) with
    | (some kind, rest) => ofFields kind (.record rest)
    | (none, _) => throw (.missingField kindField)
  | .list (first :: rest) => do
    let kind ← Kind.ofToml first
    Toml.Value.bufferItems rest
    ofFields kind (.list rest)
  | .list [] => .error (.missingField kindField)
  | v => .error (v.mismatch "internally tagged enum ScenarioStep")

end ScenarioStep

end Kanban
