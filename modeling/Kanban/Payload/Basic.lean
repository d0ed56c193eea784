import Kanban.Dict

/-!
# `Payload.Basic` — self-describing data

The value a card carries, and the shape in which boards, scenarios and reports are written out. Records
have no order of their own: `Payload.ofFields` keeps them sorted by key.

## Contents
- `Payload` and its constructors for optional values, doubles and records.
-/

namespace Kanban

/-- A self-describing value. -/
inductive Payload where
  | null
  | flag (b : Bool)
  | integer (n : Int)
  | number (x : Float)
  | text (s : String)
  | list (items : List Payload)
  | record (fields : List (String × Payload))
  deriving Inhabited, Repr

namespace Payload

/-- A double as written in a document: one that is not finite has no numeral and becomes `null`. -/
def ofFloat (x : Float) : Payload := if x.isFinite then .number x else .null

/-- A record with the given fields, sorted by key; of fields with one key the last wins. -/
def ofFields (fields : List (String × Payload)) : Payload := .record (Dict.ofList fields).entries

/-- An optional value, absent as `null`. -/
def ofOption {α : Type} (f : α → Payload) : Option α → Payload
  | none => .null
  | some a => f a

/-- A list of texts. -/
def ofTexts (ts : List String) : Payload := .list (ts.map .text)

/-- A natural number. -/
def ofNat (n : Nat) : Payload := .integer n

end Payload

end Kanban
