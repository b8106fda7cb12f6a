import WampClient.Text.Bytes
import WampClient.Text.Decimal

/-! # UTF-8

`encode` writes characters as bytes and `decode` reads them back. Reading accepts the shortest
form of each Unicode scalar value and nothing else; where it stops, the fault tells at which byte
the first bad sequence begins and how much of it could still have been a character.
-/

namespace WampClient

namespace Utf8

def encode (text : List Char) : Bytes :=
  text.flatMap String.utf8EncodeChar

inductive Flaw where
  /-- The first `length` bytes begin no character, whatever follows them. -/
  | invalid (length : Nat)
  /-- The bytes end inside a character. -/
  | cutShort
  deriving Repr, DecidableEq

structure Fault where
  /-- Number of bytes before the bad sequence; all of them are well formed. -/
  index : Nat
  flaw : Flaw
  deriving Repr, DecidableEq

def Fault.text : Fault → String
  | ⟨index, .invalid length⟩ =>
    "invalid utf-8 sequence of " ++ Decimal.text length ++ " bytes from index " ++
      Decimal.text index
  | ⟨index, .cutShort⟩ => "incomplete utf-8 byte sequence from index " ++ Decimal.text index

/-- What a lead byte says about its sequence: the bits it contributes, the bounds of the second
    byte, and how many bytes follow the second one. -/
structure Lead where
  bits : Nat
  low : UInt8
  high : UInt8
  more : Nat
  deriving Repr, DecidableEq

/-- The lead bytes of the sequences of two, three and four bytes. The bounds of the second byte
    shut out overlong forms, surrogates and values above U+10FFFF. -/
def lead? (b : UInt8) : Option Lead :=
  if b < 0xC2 then none
  else if b < 0xE0 then some ⟨b.toNat - 0xC0, 0x80, 0xBF, 0⟩
  else if b < 0xF0 then
    some ⟨b.toNat - 0xE0, if b = 0xE0 then 0xA0 else 0x80, if b = 0xED then 0x9F else 0xBF, 1⟩
  else if b < 0xF5 then
    some ⟨b.toNat - 0xF0, if b = 0xF0 then 0x90 else 0x80, if b = 0xF4 then 0x8F else 0xBF, 2⟩
  else none

/-- Reads `more` continuation bytes; `seen` bytes of the sequence were read before them and
    `value` is what those contributed. -/
def tails : (more seen value : Nat) → (s : Bytes) →
    Except Flaw (Nat × Bytes.Tail s)
  | 0, _, value, s => .ok (value, .all s)
  | _ + 1, _, _, [] => .error .cutShort
  | more + 1, seen, value, b :: rest =>
    if 0x80 ≤ b ∧ b ≤ 0xBF then
      match tails more (seen + 1) (value * 64 + (b.toNat - 0x80)) rest with
      | .ok (v, r) => .ok (v, r.cons)
      | .error flaw => .error flaw
    else .error (.invalid seen)

def first (b : UInt8) (s : Bytes) : Except Flaw (Char × Bytes.Tail s) :=
  if b < 0x80 then .ok (Char.ofNat b.toNat, .all s)
  else
    match lead? b, s with
    | none, _ => .error (.invalid 1)
    | some _, [] => .error .cutShort
    | some lead, c :: rest =>
      if lead.low ≤ c ∧ c ≤ lead.high then
        match tails lead.more 2 (lead.bits * 64 + (c.toNat - 0x80)) rest with
        | .ok (v, r) => .ok (Char.ofNat v, r.cons)
        | .error flaw => .error flaw
      else .error (.invalid 1)

/-- Reads the rest of a text of which `done` (last character first) took `index` bytes. -/
def decodeFrom (done : List Char) (index : Nat) : Bytes → Except Fault (List Char)
  | [] => .ok done.reverse
  | b :: s =>
    match first b s with
    | .ok (c, ⟨r, _⟩) => decodeFrom (c :: done) (index + c.utf8Size) r
    | .error flaw => .error ⟨index, flaw⟩
termination_by s => s.length
decreasing_by simp only [List.length_cons]; omega

def decode (s : Bytes) : Except Fault (List Char) :=
  decodeFrom [] 0 s

end Utf8

def Bytes.ofString (s : String) : Bytes :=
  Utf8.encode s.toList

end WampClient
