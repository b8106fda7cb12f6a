import WampClient.Text.Decimal
import WampClient.Text.Utf8

/-! # Percent encoding

Each part of a URL has characters of its own that are written as the hexadecimal values of their
bytes. Characters beyond ASCII are written so everywhere.
-/

namespace WampClient.Url

def upperHexChar (d : Nat) : Char :=
  if d < 10 then Char.ofNat (0x30 + d) else Char.ofNat (0x41 + (d - 10))

def escapeByte (b : UInt8) : List Char :=
  ['%', upperHexChar (b.toNat / 16), upperHexChar (b.toNat % 16)]

def isControl (c : Char) : Bool :=
  c.toNat < 0x20 || 0x7E < c.toNat

def inFragmentSet (c : Char) : Bool :=
  isControl c || [' ', '"', '<', '>', '`'].contains c

def inPathSet (c : Char) : Bool :=
  inFragmentSet c || ['#', '?', '\x7b', '\x7d'].contains c

def inUserinfoSet (c : Char) : Bool :=
  inPathSet c || ['/', ':', ';', '=', '@', '[', '\\', ']', '^', '|'].contains c

def inQuerySet (c : Char) : Bool :=
  isControl c || [' ', '"', '#', '<', '>', '\''].contains c

/-- Escapes the characters of a set. Escapes that a text holds already stay as they are. -/
def percentEncode (set : Char → Bool) (text : List Char) : List Char :=
  text.flatMap fun c =>
    if set c then (String.utf8EncodeChar c).flatMap escapeByte else [c]

/-- Replaces each percent sign with two hexadecimal digits behind it by the byte they stand for. -/
def percentDecode : Bytes → Bytes
  | 0x25 :: a :: b :: rest =>
    match Decimal.hexDigit? a, Decimal.hexDigit? b with
    | some x, some y => UInt8.ofNat (x * 16 + y) :: percentDecode rest
    | _, _ => 0x25 :: percentDecode (a :: b :: rest)
  | b :: rest => b :: percentDecode rest
  | [] => []
termination_by s => s.length
decreasing_by all_goals simp only [List.length_cons]; omega

end WampClient.Url
