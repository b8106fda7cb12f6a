import WampClient.Url.Ipv4

/-! # IPv6 addresses

An address is eight pieces of sixteen bits, in hexadecimal with colons between them. Two colons
stand for a run of zeros. The last two pieces may be written as an IPv4 address.
-/

namespace WampClient.Url

structure Ipv6 where
  pieces : List UInt16
  length_eq : pieces.length = 8
  deriving DecidableEq, Repr

namespace Ipv6

def piece? (text : List Char) : Option UInt16 :=
  if text.isEmpty ∨ 4 < text.length then none else (numberIn? 16 text).map UInt16.ofNat

def byte? (text : List Char) : Option Nat :=
  match text with
  | [] => none
  | '0' :: _ :: _ => none
  | digits =>
    match numberIn? 10 digits with
    | some n => if n < 256 then some n else none
    | none => none

def ipv4Pieces? (text : List Char) : Option (List UInt16) :=
  match (Text.splitBy (· = '.') text).mapM byte? with
  | some [a, b, c, d] => some [UInt16.ofNat (a * 256 + b), UInt16.ofNat (c * 256 + d)]
  | _ => none

/-- The pieces between colons. Only the last group may be an IPv4 address, and only where
    `withIpv4` allows it. -/
def groups? (withIpv4 : Bool) : List (List Char) → Option (List UInt16)
  | [] => some []
  | [last] =>
    if withIpv4 && last.contains '.' then ipv4Pieces? last else (piece? last).map ([·])
  | group :: groups =>
    match piece? group, groups? withIpv4 groups with
    | some p, some ps => some (p :: ps)
    | _, _ => none

def pieces? (withIpv4 : Bool) (text : List Char) : Option (List UInt16) :=
  if text.isEmpty then some [] else groups? withIpv4 (Text.splitBy (· = ':') text)

def cutGap : List Char → List Char × Option (List Char)
  | ':' :: ':' :: rest => ([], some rest)
  | c :: rest =>
    let (before, behind) := cutGap rest
    (c :: before, behind)
  | [] => ([], none)

def fill (before behind : List UInt16) : Option Ipv6 :=
  if h : before.length + behind.length ≤ 7 then
    some ⟨before ++ (List.replicate (8 - (before.length + behind.length)) 0 ++ behind), by
      simp only [List.length_append, List.length_replicate]; omega⟩
  else none

def parse? (text : List Char) : Option Ipv6 :=
  match cutGap text with
  | (_, none) =>
    match pieces? true text with
    | some ps => if h : ps.length = 8 then some ⟨ps, h⟩ else none
    | none => none
  | (before, some behind) =>
    match pieces? false before, pieces? true behind with
    | some bs, some ps => fill bs ps
    | _, _ => none

def zeros (pieces : List UInt16) : Nat :=
  (pieces.takeWhile (· = 0)).length

/-- The start and length of the longest run of zeros, the first one of several. -/
def longestZeros : (start : Nat) → List UInt16 → Nat × Nat
  | _, [] => (0, 0)
  | start, p :: ps =>
    let here := zeros (p :: ps)
    let (at_, length) := longestZeros (start + 1) ps
    if length ≤ here then (start, here) else (at_, length)

def renderPieces (pieces : List UInt16) : List Char :=
  Text.joinWith ':' (pieces.map fun p => Decimal.hexRender p.toNat)

/-- The text of an address. The longest run of at least two zeros is left out. -/
def render (a : Ipv6) : List Char :=
  let (start, length) := longestZeros 0 a.pieces
  if length < 2 then renderPieces a.pieces
  else
    renderPieces (a.pieces.take start) ++
      ':' :: ':' :: renderPieces (a.pieces.drop (start + length))

end Ipv6

end WampClient.Url
