import Kanban.Decode
import Kanban.Payload.Basic

/-!
# `Toml.Value` — what a TOML document holds

## Contents
- `Toml.Value` and its view.
- `Value.skip`, `Value.buffer`: reading a value without keeping it, and ahead of knowing its type.
- `Value.toPayload`: the same data as a payload.
-/

namespace Kanban.Toml

/-- A value of a TOML document. The entries of a table are sorted by key. -/
inductive Value where
  | text (s : String)
  | integer (n : Int)
  | float (x : Float)
  | flag (b : Bool)
  /-- A date, a time or both, in normal form. -/
  | moment (written : String)
  /-- A numeral that stands for no number that can be held. -/
  | outOfRange
  | list (items : List Value)
  | table (entries : List (String × Value))
  deriving Inhabited, Repr

/-- The field that a date or time shows itself under. -/
def momentField : String := "$__toml_private_datetime"

/-- A double inside a message: whole numbers with a point. -/
def writtenFloat (x : Float) : String :=
  let s := Decimal.plain.write x
  if x.isFinite && !s.toList.contains '.' then s ++ ".0" else s

namespace Value

/-- The topmost level of a value. -/
def view : Value → View Value
  | text s => .text s
  | integer n => .integer n
  | float x => .number x (writtenFloat x)
  | flag b => .flag b
  | moment written => .record [(momentField, .text written)]
  | outOfRange => .unreadable
  | list items => .list items
  | table entries => .record entries

/-! ## Reading without a type -/

mutual

/-- Read a value and forget it. -/
def skip : Value → Decoded Unit
  | outOfRange => .error .outOfRange
  | list items => skipItems items
  | table entries => skipEntries entries
  | _ => .ok ()

/-- Read items and forget them. -/
def skipItems : List Value → Decoded Unit
  | [] => .ok ()
  | v :: rest => do
    skip v
    skipItems rest

/-- Read entries and forget them. -/
def skipEntries : List (String × Value) → Decoded Unit
  | [] => .ok ()
  | (_, v) :: rest => do
    skip v
    skipEntries rest

end

mutual

/-- Read a value ahead of knowing its type. Integers beyond 64 bits cannot be kept. -/
def buffer : Value → Decoded Unit
  | outOfRange => .error .outOfRange
  | integer n => if Found.isShort n then .ok () else .error (.invalidType (.integer n) "any value")
  | list items => bufferItems items
  | table entries => bufferEntries entries
  | _ => .ok ()

/-- Read items ahead of knowing their types. -/
def bufferItems : List Value → Decoded Unit
  | [] => .ok ()
  | v :: rest => do
    buffer v
    bufferItems rest

/-- Read entries ahead of knowing their types. -/
def bufferEntries : List (String × Value) → Decoded Unit
  | [] => .ok ()
  | (_, v) :: rest => do
    buffer v
    bufferEntries rest

end

/-! ## As payload -/

mutual

/-- The same data as a payload. Doubles that are not finite become `null`; integers are limited to 64 bits. -/
def toPayload : Value → Decoded Payload
  | text s => .ok (.text s)
  | integer n => if Found.isShort n then .ok (.integer n) else .error .outOfRange
  | float x => .ok (.ofFloat x)
  | flag b => .ok (.flag b)
  | moment written => .ok (.record [(momentField, .text written)])
  | outOfRange => .error .outOfRange
  | list items => do return .list (← itemsToPayload items)
  | table entries => do return .record (← entriesToPayload entries)

/-- The same items as payloads. -/
def itemsToPayload : List Value → Decoded (List Payload)
  | [] => .ok []
  | v :: rest => do
    let p ← toPayload v
    return p :: (← itemsToPayload rest)

/-- The same entries as payloads. -/
def entriesToPayload : List (String × Value) → Decoded (List (String × Payload))
  | [] => .ok []
  | (k, v) :: rest => do
    let p ← toPayload v
    return (k, p) :: (← entriesToPayload rest)

end

end Value

end Kanban.Toml
