import WampClient.Text.Decimal

/-! # Shortest decimals

The binary fraction `m · 2^q` stands for all reals that round to it. `shortest` finds the decimal
with the fewest digits among them, the nearest one if there are several, and the even one if two
are equally near. All arithmetic is exact.
-/

namespace WampClient.Decimal

/-- A decimal number: its digits, the first of which has the weight 10^`exponent`. -/
structure Scientific where
  digits : List Nat
  exponent : Int
  deriving Repr, DecidableEq

/-- A positive binary fraction `m · 2^q` with its rounding interval. Numerators are over the common
    denominator `unit`; the ends belong to the interval when `closed` holds. -/
structure Interval where
  low : Nat
  value : Nat
  high : Nat
  unit : Nat
  closed : Bool
  deriving Repr

namespace Interval

/-- The interval of `m · 2^q`. Below a power of two (`narrow`) the neighbours are twice as dense. -/
def ofBinary (m : Nat) (q : Int) (narrow : Bool) : Interval :=
  let up := (q - 2).toNat
  let down := (2 - q).toNat
  { low := (4 * m - if narrow then 1 else 2) * Nat.pow 2 up
    value := 4 * m * Nat.pow 2 up
    high := (4 * m + 2) * Nat.pow 2 up
    unit := Nat.pow 2 down
    closed := m % 2 = 0 }

def decade (i : Interval) : Int :=
  if i.unit ≤ i.value then (digits (i.value / i.unit)).length - 1
  else -(digits ((i.unit - 1) / i.value)).length

def holds (i : Interval) (c : Nat) (p : Int) : Bool :=
  let x := c * Nat.pow 10 p.toNat * i.unit
  let grow := Nat.pow 10 (-p).toNat
  if i.closed then i.low * grow ≤ x && x ≤ i.high * grow
  else i.low * grow < x && x < i.high * grow

/-- The multiple of 10^`p` in the interval that is nearest to the value, of the two around it. -/
def nearest? (i : Interval) (p : Int) : Option Nat :=
  let grow := Nat.pow 10 (-p).toNat
  let step := Nat.pow 10 p.toNat * i.unit
  let below := i.value * grow / step
  let excess := 2 * (i.value * grow - below * step)
  match i.holds below p, i.holds (below + 1) p with
  | false, false => none
  | true, false => some below
  | false, true => some (below + 1)
  | true, true =>
    if excess < step then some below
    else if step < excess then some (below + 1)
    else if below % 2 = 0 then some below else some (below + 1)

/-- Tries the grids with one digit more each time; `finer` grids are left. -/
def search (i : Interval) (p : Int) : (finer : Nat) → Nat × Int
  | 0 => (i.value * Nat.pow 10 (-p).toNat / (Nat.pow 10 p.toNat * i.unit), p)
  | finer + 1 =>
    match i.nearest? p with
    | some c => (c, p)
    | none => i.search (p - 1) finer

end Interval

/-- The shortest decimal that rounds to `m · 2^q`, where `m` is positive and has at most 53 bits:
    seventeen digits always suffice. -/
def shortest (m : Nat) (q : Int) (narrow : Bool) : Scientific :=
  let i := Interval.ofBinary m q narrow
  let (c, p) := i.search i.decade 17
  let all := digits c
  { digits := (all.reverse.dropWhile (· = 0)).reverse
    exponent := p + (all.length - 1) }

end WampClient.Decimal
