import WampClient.Text.Decimal

/-! # Durations

A duration is a whole number of seconds below 2^64 and a number of nanoseconds below one second.
`text` writes it in the largest unit whose whole part is not zero.
-/

namespace WampClient

structure Duration where
  seconds : Nat
  nanos : Nat
  seconds_lt : seconds < 0x1_0000_0000_0000_0000
  nanos_lt : nanos < 1_000_000_000
  deriving DecidableEq, Repr

namespace Duration

def zero : Duration := ⟨0, 0, by decide, by decide⟩

def toNanos (d : Duration) : Nat :=
  d.seconds * 1_000_000_000 + d.nanos

/-- The span of so many nanoseconds, if it has less than 2^64 seconds. -/
def ofNanos? (n : Nat) : Option Duration :=
  if h : n / 1_000_000_000 < 0x1_0000_0000_0000_0000 then
    some ⟨n / 1_000_000_000, n % 1_000_000_000, h, Nat.mod_lt _ (by decide)⟩
  else none

def ofMillis (n : UInt64) : Duration :=
  ⟨n.toNat / 1000, n.toNat % 1000 * 1_000_000,
    Nat.lt_of_le_of_lt (Nat.div_le_self _ _) n.toNat_lt, by omega⟩

def ofSeconds (n : UInt64) : Duration :=
  ⟨n.toNat, 0, n.toNat_lt, by decide⟩

def millis (d : Duration) : Nat :=
  d.toNanos / 1_000_000

def IsWholeMillis (d : Duration) : Prop :=
  d.nanos % 1_000_000 = 0

instance (d : Duration) : Decidable d.IsWholeMillis :=
  inferInstanceAs (Decidable (_ = _))

/-- A whole part, and after a point the `width` digits of a fraction less its trailing zeros. -/
def mixed (whole fraction width : Nat) : List Char :=
  let digits := Decimal.render fraction
  let padded := List.replicate (width - digits.length) '0' ++ digits
  match (padded.reverse.dropWhile (· = '0')).reverse with
  | [] => Decimal.render whole
  | kept => Decimal.render whole ++ '.' :: kept

/-- A span in seconds, milliseconds, microseconds or nanoseconds, whichever is the largest unit
    with a whole part. -/
def text (d : Duration) : String :=
  if 0 < d.seconds then String.ofList (mixed d.seconds d.nanos 9 ++ ['s'])
  else if 1_000_000 ≤ d.nanos then
    String.ofList (mixed (d.nanos / 1_000_000) (d.nanos % 1_000_000) 6 ++ ['m', 's'])
  else if 1000 ≤ d.nanos then
    String.ofList (mixed (d.nanos / 1000) (d.nanos % 1000) 3 ++ ['µ', 's'])
  else String.ofList (Decimal.render d.nanos ++ ['n', 's'])

end Duration

end WampClient
