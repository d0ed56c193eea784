import Kanban.Payload.Basic
import Kanban.Decimal.Layout

/-!
# `Payload.Json` — payloads as JSON text

## Contents
- `Json.Style`: the decisions left open by the format.
- `compact`: one line without blanks.
- `pretty`: one item per line, two blanks per level.
-/

namespace Kanban.Payload.Json

/-- What the format leaves open. -/
structure Style where
  /-- The text of a double. -/
  number : Float → String
  /-- Characters that are written as escapes although the format does not ask for it. -/
  escaped : Char → Bool

/-- Finite doubles as JSON numbers, others as `null`; only the required escapes. -/
def standard : Style where
  number x := if x.isFinite then Decimal.json.write x else "null"
  escaped _ := false

/-! ## Texts -/

/-- One hexadecimal digit. -/
def hexDigit (n : Nat) : Char := Nat.digitChar n

/-- The four-digit escape of a character of the basic plane. -/
def unicodeEscape (c : Char) : List Char :=
  let n := c.toNat
  ['\\', 'u', hexDigit (n / 4096 % 16), hexDigit (n / 256 % 16), hexDigit (n / 16 % 16), hexDigit (n % 16)]

/-- A character inside quotes. -/
def escapeChar (style : Style) (c : Char) : List Char :=
  match c with
  | '"' => ['\\', '"']
  | '\\' => ['\\', '\\']
  | '\n' => ['\\', 'n']
  | '\r' => ['\\', 'r']
  | '\t' => ['\\', 't']
  | '\x08' => ['\\', 'b']
  | '\x0c' => ['\\', 'f']
  | c => if c.toNat < 32 ∨ style.escaped c then unicodeEscape c else [c]

/-- A text in quotes. -/
def quote (style : Style) (s : String) : String :=
  String.ofList ('"' :: s.toList.flatMap (escapeChar style) ++ ['"'])

/-! ## One line -/

mutual

/-- A payload on one line. -/
def compact (style : Style) : Payload → String
  | .null => "null"
  | .flag b => if b then "true" else "false"
  | .integer n => toString n
  | .number x => style.number x
  | .text s => quote style s
  | .list items => "[" ++ ",".intercalate (compactItems style items) ++ "]"
  | .record fields => "\x7b" ++ ",".intercalate (compactFields style fields) ++ "\x7d"

/-- The items of a list, each on one line. -/
def compactItems (style : Style) : List Payload → List String
  | [] => []
  | p :: rest => compact style p :: compactItems style rest

/-- The fields of a record, each on one line. -/
def compactFields (style : Style) : List (String × Payload) → List String
  | [] => []
  | (k, p) :: rest => (quote style k ++ ":" ++ compact style p) :: compactFields style rest

end

/-! ## One item per line -/

/-- A line break and the indentation of a level. -/
def newline (level : Nat) : String := "\n" ++ String.ofList (List.replicate (2 * level) ' ')

/-- Items between brackets, each on its own line. -/
def block (opening closing : String) (level : Nat) (items : List String) : String :=
  match items with
  | [] => opening ++ closing
  | items =>
    opening ++ newline (level + 1) ++ ("," ++ newline (level + 1)).intercalate items ++ newline level ++ closing

mutual

/-- A payload with one item per line, at a level of indentation. -/
def pretty (style : Style) (level : Nat) : Payload → String
  | .null => "null"
  | .flag b => if b then "true" else "false"
  | .integer n => toString n
  | .number x => style.number x
  | .text s => quote style s
  | .list items => block "[" "]" level (prettyItems style (level + 1) items)
  | .record fields => block "\x7b" "\x7d" level (prettyFields style (level + 1) fields)

/-- The items of a list at a level of indentation. -/
def prettyItems (style : Style) (level : Nat) : List Payload → List String
  | [] => []
  | p :: rest => pretty style level p :: prettyItems style level rest

/-- The fields of a record at a level of indentation. -/
def prettyFields (style : Style) (level : Nat) : List (String × Payload) → List String
  | [] => []
  | (k, p) :: rest => (quote style k ++ ": " ++ pretty style level p) :: prettyFields style level rest

end

end Kanban.Payload.Json
