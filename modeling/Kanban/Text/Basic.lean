import Kanban.Text.Printable

/-!
# `Text.Basic` — texts that people read and write

White space is the 25 characters with the Unicode property White_Space. Inside a message a text is quoted so
that its reader sees every character, and a span of time is shown in its largest unit.

## Contents
- `isBlankChar`, `isBlank`, `trim`: white space.
- `quoted`: texts inside messages.
- `duration`: spans of time inside messages.
-/

namespace Kanban.Text

/-! ## White space -/

/-- Whether a character is white space. -/
def isBlankChar (c : Char) : Bool :=
  let n := c.toNat
  (9 ≤ n && n ≤ 13) || n == 32 || n == 0x85 || n == 0xA0 || n == 0x1680 || (0x2000 ≤ n && n ≤ 0x200A) ||
    n == 0x2028 || n == 0x2029 || n == 0x202F || n == 0x205F || n == 0x3000

/-- Whether a text is empty or white space only. -/
def isBlank (s : String) : Bool := s.toList.all isBlankChar

/-- A text without white space at its ends. -/
def trim (s : String) : String :=
  String.ofList ((s.toList.dropWhile isBlankChar).reverse.dropWhile isBlankChar).reverse

/-! ## Texts inside messages -/

/-- The digits of a number in base sixteen. -/
def hexadecimal (n : Nat) : String := String.ofList (Nat.toDigits 16 n)

/-- One character of a quoted text. -/
def quotedChar (c : Char) : String :=
  match c with
  | '\t' => "\\t"
  | '\r' => "\\r"
  | '\n' => "\\n"
  | '"' => "\\\""
  | '\\' => "\\\\"
  | c =>
    if c.toNat = 0 then "\\0"
    else if isPrintable c then c.toString
    else "\\u\x7b" ++ hexadecimal c.toNat ++ "\x7d"

/-- A text in quotes with its special characters escaped. -/
def quoted (s : String) : String := "\"" ++ String.join (s.toList.map quotedChar) ++ "\""

/-! ## Spans of time inside messages -/

/-- A fraction of a second without zeros at its end; nothing for a whole second. -/
def secondFraction (ms : Nat) : String :=
  if ms = 0 then ""
  else
    let padded := (Nat.toDigits 10 (1000 + ms)).drop 1
    "." ++ String.ofList (padded.reverse.dropWhile (· == '0')).reverse

/-- A number of milliseconds, in seconds from one second on. -/
def duration (ms : Nat) : String :=
  if ms = 0 then "0ns"
  else if ms < 1000 then s!"{ms}ms"
  else s!"{ms / 1000}" ++ secondFraction (ms % 1000) ++ "s"

end Kanban.Text
