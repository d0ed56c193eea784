import Kanban.Decimal.Shortest

/-!
# `Decimal.Layout` — how a double is written

The digits of a double are the fewest that read back; a `Layout` decides how they are set.

## Contents
- `Layout` and `Layout.write`.
- `plain`: the layout of messages and reports about numbers.
- `json`: the layout of numbers in JSON text.
-/

namespace Kanban.Decimal

/-- The decisions of a number format. -/
structure Layout where
  /-- Whether a number with this many digits before its point is written positionally. -/
  positional : Int → Bool
  /-- What follows an integral number that is written positionally. -/
  whole : String
  /-- Which of two equally near shortest forms is written. -/
  tie : Tie

/-- A run of zeros. -/
def zeros (n : Int) : String := String.ofList (List.replicate n.toNat '0')

/-- A decimal with its point in place. -/
def positionalText (whole : String) (d : Decimal) : String :=
  let ds := Nat.toDigits 10 d.digits
  if 0 ≤ d.exponent then String.ofList ds ++ zeros d.exponent ++ whole
  else if 0 < d.point then
    String.ofList (ds.take d.point.toNat) ++ "." ++ String.ofList (ds.drop d.point.toNat)
  else "0." ++ zeros (-d.point) ++ String.ofList ds

/-- A decimal as one digit, the rest behind a point, and a power of ten. -/
def scientificText (d : Decimal) : String :=
  let ds := Nat.toDigits 10 d.digits
  let tail := if ds.length ≤ 1 then "" else "." ++ String.ofList (ds.drop 1)
  String.ofList (ds.take 1) ++ tail ++ "e" ++ toString (d.point - 1)

namespace Layout

/-- The text of a magnitude. -/
def magnitude (l : Layout) (x : Float) : String :=
  if x == 0 then "0" ++ l.whole
  else
    let d := (Dyadic.ofBits x.toBits).shortest l.tie
    if l.positional d.point then positionalText l.whole d else scientificText d

/-- The text of a double. A zero keeps its sign. -/
def write (l : Layout) (x : Float) : String :=
  if x.isNaN then "NaN"
  else
    let sign := if x.toBits >>> 63 = 1 then "-" else ""
    sign ++ if x.isInf then "inf" else l.magnitude x.abs

end Layout

/-- Numbers in messages: always positional, whole numbers without a point. -/
def plain : Layout := ⟨fun _ => true, "", .up⟩

/-- Numbers in JSON text: positional from `0.00001` below `1e16`, whole numbers with a point. -/
def json : Layout := ⟨fun p => decide (-5 < p ∧ p ≤ 16), ".0", .even⟩

end Kanban.Decimal
