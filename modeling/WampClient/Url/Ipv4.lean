import WampClient.Text.Decimal
import WampClient.Text.Split

/-! # IPv4 addresses

A host whose last part is a number is an IPv4 address. Its parts are decimal, octal or hexadecimal
numbers; the last part stands for all bytes that no part before it stands for.
-/

namespace WampClient.Url

def digitOf? (c : Char) : Option Nat :=
  if c.toNat < 0x80 then Decimal.hexDigit? c.toUInt8 else none

def numberIn? (base : Nat) (text : List Char) : Option Nat :=
  text.foldl
    (fun n? c => do
      let n ← n?
      let d ← digitOf? c
      if d < base then some (n * base + d) else none)
    (some 0)

/-- The number of a part: hexadecimal after `0x`, octal after a zero, otherwise decimal. A prefix
    with nothing behind it is zero. -/
def ipv4Number? (part : List Char) : Option Nat :=
  match part with
  | [] => none
  | '0' :: 'x' :: digits | '0' :: 'X' :: digits => numberIn? 16 digits
  | '0' :: d :: digits => numberIn? 8 (d :: digits)
  | digits => numberIn? 10 digits

/-- The parts of a host between points, without the empty part behind a final point. -/
def ipv4Parts (host : List Char) : List (List Char) :=
  let parts := Text.splitBy (· = '.') host
  match parts.reverse with
  | [] :: before@(_ :: _) => before.reverse
  | _ => parts

/-- The last part of a host is a number, so the host must be an IPv4 address. -/
def endsInNumber (host : List Char) : Bool :=
  match (ipv4Parts host).reverse with
  | last :: _ =>
    (!last.isEmpty && last.all fun c => '0' ≤ c ∧ c ≤ '9') || (ipv4Number? last).isSome
  | [] => false

structure Ipv4 where
  value : UInt32
  deriving DecidableEq, Repr

namespace Ipv4

def ofNumbers? (numbers : List Nat) : Option Ipv4 :=
  match numbers.reverse with
  | last :: before =>
    if before.length ≤ 3 ∧ last < Nat.pow 256 (4 - before.length) ∧ ∀ n ∈ before, n < 256 then
      let lead := before.reverse.foldl (fun v n => v * 256 + n) 0
      some ⟨UInt32.ofNat (lead * Nat.pow 256 (4 - before.length) + last)⟩
    else none
  | [] => none

def parse? (host : List Char) : Option Ipv4 :=
  ((ipv4Parts host).mapM ipv4Number?).bind ofNumbers?

def bytes (a : Ipv4) : List Nat :=
  let n := a.value.toNat
  [n / 0x100_0000 % 256, n / 0x1_0000 % 256, n / 0x100 % 256, n % 256]

def render (a : Ipv4) : List Char :=
  Text.joinWith '.' (a.bytes.map Decimal.render)

end Ipv4

end WampClient.Url
