import Kanban.Toml.Moment
import Kanban.Toml.Value

/-!
# `Toml.Scalar` — values without quotes or brackets

## Contents
- Numerals: `readInteger`, `readFloat`.
- `readBare`: the value of a bare text.
- `bareText`: how far a bare text reaches.
-/

namespace Kanban.Toml

/-! ## Digits -/

/-- Digits of a kind, with single underscores between them; the underscores are left out. -/
def grouped (isDigit : Char → Bool) : List Char → Option (List Char)
  | [] => none
  | [c] => if isDigit c then some [c] else none
  | c :: '_' :: rest => if isDigit c then (grouped isDigit rest).map (c :: ·) else none
  | c :: rest => if isDigit c then (grouped isDigit rest).map (c :: ·) else none

/-- Digits of a kind read in their base. -/
def groupedValue (base : Nat) (isDigit : Char → Bool) (cs : List Char) : Option Nat := do
  let ds ← grouped isDigit cs
  return ds.foldl (fun n c => base * n + (hexValue? c).getD 0) 0

/-- Decimal digits without a zero in front of others. -/
def decimalDigits (cs : List Char) : Option (List Char) := do
  match ← grouped Char.isDigit cs with
  | '0' :: _ :: _ => none
  | ds => some ds

/-- Whether a character is a digit in base sixteen. -/
def isHexDigit (c : Char) : Bool := (hexValue? c).isSome

/-! ## Numerals -/

/-- Split off a sign. -/
def splitSign : List Char → Bool × List Char
  | '-' :: rest => (true, rest)
  | '+' :: rest => (false, rest)
  | cs => (false, cs)

/-- The magnitude of an integer numeral; bases other than ten take no sign. -/
def readMagnitude (signed : Bool) (cs : List Char) : Option Nat :=
  match cs with
  | '0' :: 'x' :: rest => if signed then none else groupedValue 16 isHexDigit rest
  | '0' :: 'o' :: rest => if signed then none else groupedValue 8 (fun c => '0' ≤ c && c ≤ '7') rest
  | '0' :: 'b' :: rest => if signed then none else groupedValue 2 (fun c => c == '0' || c == '1') rest
  | cs => (decimalDigits cs).map decimalValue

/-- An integer. It is kept if it has at most 128 bits. -/
def readInteger (cs : List Char) : Option Value := do
  let (negative, body) := splitSign cs
  let n ← readMagnitude (body.length < cs.length) body
  let value : Int := if negative then -n else n
  return if -Int.pow 2 127 ≤ value ∧ value < Int.pow 2 128 then .integer value else .outOfRange

/-- The power of ten of a numeral: nothing, or `e` and a signed number. -/
def readExponent (cs : List Char) : Option Int :=
  match cs with
  | [] => some 0
  | e :: rest =>
    if e = 'e' ∨ e = 'E' then do
      let (negative, body) := splitSign rest
      let n := decimalValue (← grouped Char.isDigit body)
      return if negative then -(n : Int) else n
    else none

/-- The digits behind the point of a numeral, which are not empty if there is a point. -/
def readFractionDigits (cs : List Char) : Option (List Char) :=
  match cs with
  | [] => some []
  | '.' :: rest => grouped Char.isDigit rest
  | _ => none

/-- Whether a character starts the power of ten of a numeral. -/
def isExponentMark (c : Char) : Bool := c == 'e' || c == 'E'

/-- A double written with a point, a power of ten or both. It is kept if it is finite. -/
def readDecimal (cs : List Char) : Option Value := do
  let (negative, body) := splitSign cs
  let mantissa := body.takeWhile (!isExponentMark ·)
  let whole ← decimalDigits (mantissa.takeWhile (· != '.'))
  let fraction ← readFractionDigits (mantissa.dropWhile (· != '.'))
  let exponent ← readExponent (body.drop mantissa.length)
  let x := Decimal.nearest ⟨decimalValue (whole ++ fraction), exponent - fraction.length⟩
  return if x.isFinite then .float (if negative then -x else x) else .outOfRange

/-- A double that is not a number or not finite. -/
def readSpecial (cs : List Char) : Option Value :=
  let (negative, body) := splitSign cs
  if body = "inf".toList then some (.float (if negative then -Decimal.infinity else Decimal.infinity))
  else if body = "nan".toList then some (.float (Decimal.infinity - Decimal.infinity))
  else none

/-! ## Bare texts -/

/-- The value of a bare text. -/
def readBare (cs : List Char) : Option Value :=
  if cs = "true".toList then some (.flag true)
  else if cs = "false".toList then some (.flag false)
  else
    readInteger cs <|> readSpecial cs <|> readDecimal cs <|>
      (Moment.read cs).map fun m => .moment m.write

/-- Characters of a bare text. -/
def isBareChar (c : Char) : Bool := isBareKeyChar c || c == '+' || c == '.' || c == ':'

/-- Take a bare text. A date and a time may have one space between them. -/
def bareText (cs : List Char) : List Char × List Char :=
  let first := cs.takeWhile isBareChar
  let rest := cs.drop first.length
  match rest with
  | ' ' :: d :: more =>
    if d.isDigit && (readDate first).any (·.2.isEmpty) then
      let second := (d :: more).takeWhile isBareChar
      (first ++ ' ' :: second, (d :: more).drop second.length)
    else (first, rest)
  | _ => (first, rest)

/-- A bare value. -/
def bareValue : Scan Value := fun cs => do
  let (text, rest) := bareText cs
  return (← readBare text, rest)

end Kanban.Toml
