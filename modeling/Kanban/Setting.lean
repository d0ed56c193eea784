import Kanban.Fault
import Kanban.Text.Basic
import Kanban.Decimal.Layout

/-!
# `Setting` — checks of single settings

Each check takes the name of the setting it speaks for and either accepts the value or names it in a
`Fault`.

## Contents
- Texts: `Setting.filled`, `Setting.distinct`, `Setting.known`.
- Numbers: `Setting.positive`, `Setting.nonNegative`, `Setting.finite`, `Setting.within`.
- `Setting.required`: an optional setting that must be present.
-/

namespace Kanban

/-- A scalar that settings are compared and shown as. -/
class Scalar (α : Type) where
  /-- Whether one value is strictly below another. -/
  below : α → α → Bool
  /-- The value inside a message. -/
  shown : α → String

instance : Scalar Int := ⟨fun a b => decide (a < b), toString⟩
instance : Scalar Nat := ⟨fun a b => decide (a < b), toString⟩
instance : Scalar String := ⟨fun a b => decide (a < b), id⟩
instance : Scalar Float := ⟨fun a b => decide (a < b), Decimal.plain.write⟩

namespace Setting

/-- Accept a value that keeps a rule; refuse any other with the rule's reason. -/
def demand (rule : Bool) (field value reason : String) : Except Fault Unit :=
  if rule then .ok () else .error (.invalidSetting field value reason)

/-! ## Texts -/

/-- A text with more than white space in it. -/
def filled (field value : String) : Except Fault Unit :=
  demand (!Text.isBlank value) field value "Value cannot be empty or whitespace-only"

/-- Identifiers that are filled and differ from all identifiers seen before them. -/
def distinctFrom (field : String) (seen : List String) : List String → Except Fault Unit
  | [] => .ok ()
  | id :: rest => do
    filled field id
    demand (!seen.contains id) field id "Duplicate id"
    distinctFrom field (id :: seen) rest

/-- Identifiers that are filled and pairwise different. -/
def distinct (field : String) (ids : List String) : Except Fault Unit := distinctFrom field [] ids

/-- An identifier that is one of those defined. -/
def known (field value : String) (ids : List String) : Except Fault Unit :=
  demand (ids.contains value) field value "Refers to an id that is not defined on the board"

/-! ## Numbers -/

/-- A finite number above zero. -/
def positive (field : String) (value : Float) : Except Fault Unit :=
  demand (value.isFinite && decide (0 < value)) field (Decimal.plain.write value)
    "Value must be a finite number greater than 0"

/-- A finite number not below zero. -/
def nonNegative (field : String) (value : Float) : Except Fault Unit :=
  demand (value.isFinite && decide (0 ≤ value)) field (Decimal.plain.write value)
    "Value must be a finite number of at least 0"

/-- A finite number. -/
def finite (field : String) (value : Float) : Except Fault Unit :=
  demand value.isFinite field (Decimal.plain.write value) "Value must be finite"

/-- A value neither below the least nor above the greatest one allowed. -/
def within {α : Type} [Scalar α] (field : String) (value least greatest : α) : Except Fault Unit :=
  demand (!(Scalar.below value least || Scalar.below greatest value)) field (Scalar.shown value)
    s!"Value must be between {Scalar.shown least} and {Scalar.shown greatest}"

/-! ## Presence -/

/-- The value of a setting that must be present. -/
def required {α : Type} (field : String) : Option α → Except Fault α
  | none => .error (.missingSetting field)
  | some value => .ok value

end Setting

end Kanban
