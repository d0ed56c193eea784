import Kanban.Decimal.Layout
import Kanban.Text.Basic

/-!
# `Decode` — reading typed values out of documents

A document of any format shows one level of itself at a time as a `View`. The readers here turn views into
texts, flags, numbers, lists and records, and say precisely what they found when they cannot.

## Contents
- `DecodeFault`: the ways in which a document can have the wrong shape, and their messages.
- `View`: one level of a document.
- Readers of scalars and lists: `View.asText`, `View.asFlag`, `View.asFloat`, `View.asCount`, `View.asList`.
- `Shape`: readers of records, which may be spelled with named fields or as the list of their fields.
-/

namespace Kanban

/-! ## Faults -/

/-- What a reader found. -/
inductive Found where
  | null
  | flag (b : Bool)
  | integer (n : Int)
  | number (written : String)
  | text (s : String)
  | list
  | record
  deriving DecidableEq, Repr

namespace Found

/-- Whether a number fits the machine's signed or unsigned 64-bit integers. -/
def isShort (n : Int) : Bool := decide (-Int.pow 2 63 ≤ n ∧ n < Int.pow 2 64)

/-- A found value inside a message. Integers beyond 64 bits name their width. -/
def describe : Found → String
  | null => "null"
  | flag b => s!"boolean `{b}`"
  | integer n =>
    s!"integer `{n}`" ++ if isShort n then "" else if n < Int.pow 2 127 then " as i128" else " as u128"
  | number written => s!"floating point `{written}`"
  | text s => "string " ++ Text.quoted s
  | list => "sequence"
  | record => "map"

end Found

/-- A way in which a document has the wrong shape. -/
inductive DecodeFault where
  | missingField (name : String)
  | unknownVariant (found : String) (known : List String)
  | invalidType (found : Found) (expected : String)
  | invalidValue (found : Found) (expected : String)
  | invalidLength (length : Nat) (expected : String)
  /-- A numeral stands for no number that can be held. -/
  | outOfRange
  deriving DecidableEq, Repr

/-- The message of a fault. -/
def DecodeFault.message : DecodeFault → String
  | missingField name => s!"missing field `{name}`"
  | unknownVariant found known =>
    s!"unknown variant `{found}`, expected one of " ++ ", ".intercalate (known.map fun k => s!"`{k}`")
  | invalidType found expected => s!"invalid type: {found.describe}, expected {expected}"
  | invalidValue found expected => s!"invalid value: {found.describe}, expected {expected}"
  | invalidLength length expected => s!"invalid length {length}, expected {expected}"
  | outOfRange => "number out of range"

/-- A reading that may find the wrong shape. -/
abbrev Decoded (α : Type) := Except DecodeFault α

/-! ## Views -/

/-- One level of a document whose parts are of type `σ`. -/
inductive View (σ : Type) where
  | null
  | flag (b : Bool)
  | integer (n : Int)
  /-- A double and how a message writes it. -/
  | number (x : Float) (written : String)
  | text (s : String)
  | list (items : List σ)
  | record (fields : List (String × σ))
  /-- A numeral that stands for no number that can be held. -/
  | unreadable

namespace View

variable {σ : Type}

/-- The fault of finding this where something else was expected. -/
def mismatch (v : View σ) (expected : String) : DecodeFault :=
  match v with
  | null => .invalidType .null expected
  | flag b => .invalidType (.flag b) expected
  | integer n => .invalidType (.integer n) expected
  | number _ written => .invalidType (.number written) expected
  | text s => .invalidType (.text s) expected
  | list _ => .invalidType .list expected
  | record _ => .invalidType .record expected
  | unreadable => .outOfRange

/-! ## Scalars and lists -/

/-- A text. -/
def asText : View σ → Decoded String
  | text s => .ok s
  | v => .error (v.mismatch "a string")

/-- A flag. -/
def asFlag : View σ → Decoded Bool
  | flag b => .ok b
  | v => .error (v.mismatch "a boolean")

/-- The double nearest to an integer. -/
def integerAsFloat (n : Int) : Float :=
  let x := Decimal.nearest ⟨n.natAbs, 0⟩
  if n < 0 then -x else x

/-- A double; 64-bit integers are accepted. -/
def asFloat : View σ → Decoded Float
  | number x _ => .ok x
  | v@(integer n) => if Found.isShort n then .ok (integerAsFloat n) else .error (v.mismatch "f64")
  | v => .error (v.mismatch "f64")

/-- A count of at most 64 bits. -/
def asCount : View σ → Decoded Nat
  | v@(integer n) =>
    if 0 ≤ n ∧ n < Int.pow 2 64 then .ok n.toNat
    else if Found.isShort n then .error (.invalidValue (.integer n) "u64")
    else .error (v.mismatch "u64")
  | v => .error (v.mismatch "u64")

/-- The items of a list. -/
def asList : View σ → Decoded (List σ)
  | list items => .ok items
  | v => .error (v.mismatch "a sequence")

/-- The entries of a map. -/
def asMap : View σ → Decoded (List (String × σ))
  | record fields => .ok fields
  | v => .error (v.mismatch "a map")

end View

/-! ## Records -/

/-- How a record is spelled in a document. -/
inductive Spelling where
  | named
  /-- As the list of its fields; the text says what would have been a complete list. -/
  | listed (complete : String)
  deriving DecidableEq, Repr

namespace Spelling

/-- A field that must be given. -/
def require {α : Type} (s : Spelling) (index : Nat) (name : String) : Option α → Decoded α
  | some a => .ok a
  | none =>
    match s with
    | named => .error (.missingField name)
    | listed complete => .error (.invalidLength index complete)

/-- A field that may be left out among named fields, but has its place in a list. -/
def allow {α : Type} (s : Spelling) (index : Nat) : Option (Option α) → Decoded (Option α)
  | some a => .ok a
  | none =>
    match s with
    | named => .ok none
    | listed complete => .error (.invalidLength index complete)

end Spelling

/-- How a record is read: its name and, field by field in their order, how a value becomes part of a
    draft `δ`. -/
structure Shape (σ δ : Type) where
  name : String
  fields : List (String × (δ → σ → Decoded δ))

namespace Shape

variable {σ δ : Type}

/-- Read one named field into a draft. What a field of no known name holds is only skipped over. -/
def put (shape : Shape σ δ) (skip : σ → Decoded Unit) (draft : δ) (field : String × σ) : Decoded δ :=
  match shape.fields.lookup field.1 with
  | some read => read draft field.2
  | none => do
    skip field.2
    return draft

/-- Read listed fields into a draft as far as both lists go. -/
def fill : List (String × (δ → σ → Decoded δ)) → List σ → δ → Decoded δ
  | [], _, draft => .ok draft
  | _, [], draft => .ok draft
  | (_, read) :: fields, item :: items, draft => do fill fields items (← read draft item)

/-- What a complete list of the fields is called. -/
def complete (shape : Shape σ δ) : String :=
  s!"struct {shape.name} with {shape.fields.length} elements"

/-- Read a record in either spelling into a draft. -/
def read (shape : Shape σ δ) (skip : σ → Decoded Unit) (blank : δ) (v : View σ) :
    Decoded (Spelling × δ) :=
  match v with
  | .record fields => do return (.named, ← fields.foldlM (shape.put skip) blank)
  | .list items => do return (.listed shape.complete, ← fill shape.fields items blank)
  | v => .error (v.mismatch s!"struct {shape.name}")

end Shape

end Kanban
