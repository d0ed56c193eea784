import Kanban.Toml.Scan

/-!
# `Toml.Moment` — dates and times

A date, a time, or a date with a time and perhaps an offset. Every part has a fixed number of digits; a day
has to exist in its month, and a minute may have a leap second.

## Contents
- `Date`, `Time`, `Offset`, `Moment` and their normal forms.
- `Moment.read`.
-/

namespace Kanban.Toml

/-- A day of the calendar. -/
structure Date where
  year : Nat
  month : Nat
  day : Nat
  deriving DecidableEq, Repr

/-- A time of day. -/
structure Time where
  hour : Nat
  minute : Nat
  second : Option Nat
  nanosecond : Option Nat
  deriving DecidableEq, Repr

/-- A distance from universal time. -/
inductive Offset where
  | zulu
  | minutes (n : Int)
  deriving DecidableEq, Repr

/-- A date, a time or both. -/
structure Moment where
  date : Option Date
  time : Option Time
  offset : Option Offset
  deriving DecidableEq, Repr

/-! ## Normal forms -/

/-- A number with at least so many digits. -/
def padded (width n : Nat) : String :=
  let ds := Nat.toDigits 10 n
  String.ofList (List.replicate (width - ds.length) '0' ++ ds)

/-- A date as text. -/
def Date.write (d : Date) : String := padded 4 d.year ++ "-" ++ padded 2 d.month ++ "-" ++ padded 2 d.day

/-- A fraction of a second without zeros at its end, but with at least one digit. -/
def writeFraction (nanosecond : Nat) : String :=
  let ds := ((padded 9 nanosecond).toList.reverse.dropWhile (· == '0')).reverse
  if ds.isEmpty then "0" else String.ofList ds

/-- A time as text. -/
def Time.write (t : Time) : String :=
  padded 2 t.hour ++ ":" ++ padded 2 t.minute ++
    (match t.second with
      | some s => ":" ++ padded 2 s
      | none => "") ++
    (match t.nanosecond with
      | some n => "." ++ writeFraction n
      | none => "")

/-- An offset as text. -/
def Offset.write : Offset → String
  | zulu => "Z"
  | minutes n =>
    (if n < 0 then "-" else "+") ++ padded 2 (n.natAbs / 60) ++ ":" ++ padded 2 (n.natAbs % 60)

/-- A moment as text. -/
def Moment.write (m : Moment) : String :=
  (match m.date with
    | some d => d.write
    | none => "") ++
  (match m.date, m.time with
    | some _, some _ => "T"
    | _, _ => "") ++
  (match m.time with
    | some t => t.write
    | none => "") ++
  (match m.offset with
    | some o => o.write
    | none => "")

/-! ## Reading -/

/-- The value of decimal digits. -/
def decimalValue (ds : List Char) : Nat := ds.foldl (fun n c => 10 * n + (c.toNat - '0'.toNat)) 0

/-- A number of exactly so many digits. -/
def fixedNumber (width : Nat) (cs : List Char) : Option (Nat × List Char) :=
  let ds := cs.takeWhile Char.isDigit
  if ds.length = width then some (decimalValue ds, cs.drop width) else none

/-- Whether a year has a 29th of February. -/
def isLeapYear (year : Nat) : Bool := year % 4 = 0 && (year % 100 ≠ 0 || year % 400 = 0)

/-- The number of days of a month. -/
def daysOfMonth (year month : Nat) : Nat :=
  match month with
  | 2 => if isLeapYear year then 29 else 28
  | 4 | 6 | 9 | 11 => 30
  | _ => 31

/-- A date. -/
def readDate (cs : List Char) : Option (Date × List Char) := do
  let (year, cs) ← fixedNumber 4 cs
  let (month, cs) ← fixedNumber 2 (← take '-' cs)
  let (day, cs) ← fixedNumber 2 (← take '-' cs)
  if 1 ≤ month ∧ month ≤ 12 ∧ 1 ≤ day ∧ day ≤ daysOfMonth year month then
    some (⟨year, month, day⟩, cs)
  else none

/-- A fraction of a second in nanoseconds; further digits are dropped. -/
def readFraction (cs : List Char) : Option (Nat × List Char) :=
  let ds := cs.takeWhile Char.isDigit
  if ds.isEmpty then none
  else some (decimalValue (ds.take 9) * Nat.pow 10 (9 - ds.length), cs.drop ds.length)

/-- A time of day; its seconds may be left out. -/
def readTime (cs : List Char) : Option (Time × List Char) := do
  let (hour, cs) ← fixedNumber 2 cs
  let (minute, cs) ← fixedNumber 2 (← take ':' cs)
  if ¬(hour ≤ 23 ∧ minute ≤ 59) then none
  else
    match cs with
    | ':' :: cs => do
      let (second, cs) ← fixedNumber 2 cs
      if 60 < second then none
      else
        match cs with
        | '.' :: cs => do
          let (nanosecond, cs) ← readFraction cs
          return (⟨hour, minute, some second, some nanosecond⟩, cs)
        | cs => return (⟨hour, minute, some second, none⟩, cs)
    | cs => return (⟨hour, minute, none, none⟩, cs)

/-- An offset of hours and minutes. -/
def readDistance (cs : List Char) : Option (Nat × List Char) := do
  let (hours, cs) ← fixedNumber 2 cs
  let (minutes, cs) ← fixedNumber 2 (← take ':' cs)
  if hours ≤ 23 ∧ minutes ≤ 59 then some (hours * 60 + minutes, cs) else none

/-- An offset up to the end of the text; there may be none. -/
def readOffset : List Char → Option (Option Offset)
  | [] => some none
  | ['Z'] => some (some .zulu)
  | ['z'] => some (some .zulu)
  | '+' :: cs => do
    match ← readDistance cs with
    | (n, []) => some (some (.minutes n))
    | _ => none
  | '-' :: cs => do
    match ← readDistance cs with
    | (n, []) => some (some (.minutes (-n)))
    | _ => none
  | _ => none

/-- Whether a character separates a date from a time. -/
def isSeparator (c : Char) : Bool := c == 'T' || c == 't' || c == ' '

/-- A moment that is the whole text. -/
def Moment.read (cs : List Char) : Option Moment :=
  match readDate cs with
  | some (date, []) => some ⟨some date, none, none⟩
  | some (date, c :: rest) => do
    if isSeparator c then
      let (time, rest) ← readTime rest
      return ⟨some date, some time, ← readOffset rest⟩
    else none
  | none =>
    match readTime cs with
    | some (time, []) => some ⟨none, some time, none⟩
    | _ => none

end Kanban.Toml
