import Kanban.Decimal.Basic

/-!
# `Decimal.Shortest` — the fewest digits that read back

A finite double stands for the reals that round to it. Of the decimals among them, the shortest is the one
on the coarsest decimal grid; of two on one grid, the one nearer to the double.

## Contents
- `Dyadic`: a positive finite double as `significand · 2 ^ exponent`, with its rounding interval.
- `Dyadic.candidate?`: the grid point that a grid contributes, if one reads back.
- `Dyadic.shortest`: the first candidate over finer and finer grids.

All comparisons cross-multiply natural numbers, so no step rounds.
-/

namespace Kanban

/-- A positive finite double, `significand · 2 ^ exponent`. -/
structure Dyadic where
  significand : Nat
  exponent : Int
  /-- Whether the next smaller double is only half as far away as the next larger one. -/
  narrow : Bool
  deriving DecidableEq, Repr

/-- Which of two equally near grid points is taken. -/
inductive Tie where
  | up
  | even
  deriving DecidableEq, Repr

namespace Dyadic

/-- The magnitude that the bits of a finite double encode. -/
def ofBits (b : UInt64) : Dyadic :=
  let e := ((b >>> 52) &&& 0x7FF).toNat
  let f := (b &&& 0xFFFFFFFFFFFFF).toNat
  if e = 0 then ⟨f, -1074, false⟩
  else ⟨Nat.pow 2 52 + f, (e : Int) - 1075, decide (f = 0 ∧ 1 < e)⟩

/-! ## Grids

On the grid of multiples of `10 ^ k`, a grid index times `gridUnit` and a quarter of the double's last
place times `placeUnit` are naturals in one unit, so they can be compared. -/

/-- One step of the grid `10 ^ k`, in the common unit. -/
def gridUnit (v : Dyadic) (k : Int) : Nat := Nat.pow 10 k.toNat * Nat.pow 2 (2 - v.exponent).toNat

/-- A quarter of the double's last place, in the common unit. -/
def placeUnit (v : Dyadic) (k : Int) : Nat := Nat.pow 2 (v.exponent - 2).toNat * Nat.pow 10 (-k).toNat

/-- Whether the grid point of index `c` rounds to the double; the ends of the interval do so exactly when
    the significand is even. -/
def readsBack (v : Dyadic) (k : Int) (c : Nat) : Bool :=
  let x := c * v.gridUnit k
  let lo := (4 * v.significand - if v.narrow then 1 else 2) * v.placeUnit k
  let hi := (4 * v.significand + 2) * v.placeUnit k
  if v.significand % 2 = 0 then decide (lo ≤ x ∧ x ≤ hi) else decide (lo < x ∧ x < hi)

/-- The grid point nearest to the double among its two neighbours that read back. -/
def candidate? (v : Dyadic) (tie : Tie) (k : Int) : Option Decimal :=
  let x := 4 * v.significand * v.placeUnit k
  let below := x / v.gridUnit k
  let above := below + 1
  let gapBelow := x - below * v.gridUnit k
  let gapAbove := above * v.gridUnit k - x
  let pickAbove :=
    gapAbove < gapBelow ∨ (gapAbove = gapBelow ∧ (tie = .up ∨ below % 2 = 1))
  match v.readsBack k below, v.readsBack k above with
  | true, true => some ⟨if pickAbove then above else below, k⟩
  | true, false => some ⟨below, k⟩
  | false, true => some ⟨above, k⟩
  | false, false => none

/-- The exponent of the double's leading decimal digit. -/
def leading (v : Dyadic) : Int :=
  let num := v.significand * Nat.pow 2 v.exponent.toNat
  let den := Nat.pow 2 (-v.exponent).toNat
  if den ≤ num then (Decimal.length (num / den) : Int) - 1
  else -(Decimal.length ((den - 1) / num) : Int)

/-- The double's value, digit for digit. -/
def exact (v : Dyadic) : Decimal :=
  ⟨v.significand * Nat.pow 2 v.exponent.toNat * Nat.pow 5 (-v.exponent).toNat, min v.exponent 0⟩

/-- The fewest digits that read back. Seventeen always suffice. -/
def shortest (v : Dyadic) (tie : Tie) : Decimal :=
  (((List.range 17).findSome? fun (n : Nat) => v.candidate? tie (v.leading - (n : Int))).getD v.exact).trim

end Dyadic

end Kanban
