import WampClient.Text.Shortest

/-! # Doubles in JSON

A double is kept as its 64 bits. Its text has the fewest digits that read back: written out with a
point when the first digit has an exponent from -5 to 15, else with an exponent that always has a
sign.
-/

namespace WampClient.Json

/-- A double-precision number, by its bits. -/
structure Double where
  bits : UInt64
  deriving DecidableEq, Repr

namespace Double

def ofFloat (x : Float) : Double := ⟨x.toBits⟩

def isNegative (x : Double) : Bool :=
  x.bits.toNat / 0x8000_0000_0000_0000 = 1

/-- The absolute value as a decimal with the fewest digits; zero has the single digit 0. -/
def magnitude (x : Double) : Decimal.Scientific :=
  let fraction : Nat := x.bits.toNat % 0x10_0000_0000_0000
  let biased : Nat := x.bits.toNat / 0x10_0000_0000_0000 % 0x800
  if biased = 0 then
    if fraction = 0 then ⟨[0], 0⟩ else Decimal.shortest fraction (-1074) false
  else
    Decimal.shortest (0x10_0000_0000_0000 + fraction) ((biased : Int) - 1075)
      (fraction = 0 && 1 < biased)

/-- Digits with a point after the first `places` of them; missing digits are zeros. -/
def plain (digits : List Char) (places : Nat) : List Char :=
  let whole := digits.take places ++ List.replicate (places - digits.length) '0'
  match digits.drop places with
  | [] => whole ++ ['.', '0']
  | fraction => whole ++ '.' :: fraction

def render (x : Double) : List Char :=
  let ⟨ds, e⟩ := x.magnitude
  let digits := ds.map Decimal.digitChar
  let sign := if x.isNegative then ['-'] else []
  sign ++
    if 0 ≤ e ∧ e ≤ 15 then plain digits (e.toNat + 1)
    else if -5 ≤ e ∧ e < 0 then '0' :: '.' :: (List.replicate (-e - 1).toNat '0' ++ digits)
    else
      let mantissa := match digits with
        | [d] => [d]
        | d :: more => d :: '.' :: more
        | [] => []
      let signed := if e < 0 then '-' else '+'
      mantissa ++ 'e' :: signed :: Decimal.render e.natAbs

end Double

end WampClient.Json
