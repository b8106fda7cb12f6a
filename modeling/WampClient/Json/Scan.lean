import WampClient.Json.Fault

/-! # Scanning JSON text

The leaves of the grammar: blanks, words, numbers and strings. Every scanner takes the unread bytes
and gives back what is left of them; a scanner that reads at least one byte says so in its type, so
loops over scanners end. A failed scan tells how many bytes were left where the fault shows.
-/

namespace WampClient.Json

open Bytes (Tail Rest)

/-- Why scanning stopped, and how many bytes were still unread there. -/
structure Stop where
  cause : Cause
  left : Nat
  deriving Repr, DecidableEq

def Stop.fault (stop : Stop) (text : Bytes) : Fault :=
  Fault.after stop.cause text (text.length - stop.left)

/-- A fault that shows right before the unread bytes. -/
def stopBefore (cause : Cause) (unread : Bytes) : Stop := ⟨cause, unread.length⟩

/-- A fault of the next unread byte: it shows behind that byte. -/
def stopAt (cause : Cause) (unread : Bytes) : Stop := ⟨cause, unread.length - 1⟩

def stopAtEnd (cause : Cause) : Stop := ⟨cause, 0⟩

/-- A scanner that reads at least one byte. -/
abbrev Scanner (α : Type) := (s : Bytes) → Except Stop (α × Rest s)

def isBlank (b : UInt8) : Bool :=
  b = 0x20 || b = 0x09 || b = 0x0A || b = 0x0D

def skipBlanks : (s : Bytes) → Tail s
  | [] => .all []
  | b :: s => if isBlank b then (skipBlanks s).cons else .all (b :: s)

def scanWord : (word : Bytes) → (s : Bytes) → Except Stop (Tail s)
  | [], s => .ok (.all s)
  | _ :: _, [] => .error (stopAtEnd .endOfValue)
  | w :: word, b :: s =>
    if b = w then
      match scanWord word s with
      | .ok r => .ok r.cons
      | .error stop => .error stop
    else .error (stopBefore .expectedIdent s)

/-! ## Numbers -/

def spanDigits : (s : Bytes) → List Nat × Tail s
  | [] => ([], .all [])
  | b :: s =>
    match Decimal.digit? b with
    | some d =>
      let (ds, r) := spanDigits s
      (d :: ds, r.cons)
    | none => ([], .all (b :: s))

structure Literal where
  negative : Bool
  whole : List Nat
  /-- The digits after the point, if there is one. -/
  fraction : Option (List Nat)
  /-- The digits of the exponent, if there is one, and whether it has a minus sign. -/
  exponent : Option (Bool × List Nat)
  deriving Repr, DecidableEq

/-- The digits of a whole part: a leading zero stands alone. -/
def scanWhole : Scanner (List Nat)
  | [] => .error (stopAtEnd .endOfValue)
  | b :: s =>
    match Decimal.digit? b with
    | none => .error (stopBefore .invalidNumber s)
    | some 0 =>
      match spanDigits s with
      | ([], _) => .ok ([0], (Tail.all s).rest)
      | (_ :: _, _) => .error (stopAt .invalidNumber s)
    | some d =>
      let (ds, r) := spanDigits s
      .ok (d :: ds, r.rest)

def scanFraction : (s : Bytes) → Except Stop (Option (List Nat) × Tail s)
  | [] => .ok (none, .all [])
  | b :: s =>
    if b = 0x2E then
      match spanDigits s with
      | ([], ⟨[], _⟩) => .error (stopAtEnd .endOfValue)
      | ([], ⟨r, _⟩) => .error (stopAt .invalidNumber r)
      | (ds, r) => .ok (some ds, r.cons)
    else .ok (none, .all (b :: s))

def skipSign : (s : Bytes) → Bool × Tail s
  | [] => (false, .all [])
  | b :: s =>
    if b = 0x2B then (false, (Tail.all s).cons)
    else if b = 0x2D then (true, (Tail.all s).cons)
    else (false, .all (b :: s))

def scanExponent : (s : Bytes) → Except Stop (Option (Bool × List Nat) × Tail s)
  | [] => .ok (none, .all [])
  | b :: s =>
    if b = 0x65 || b = 0x45 then
      let (minus, ⟨t, ht⟩) := skipSign s
      match spanDigits t with
      | ([], ⟨[], _⟩) => .error (stopAtEnd .endOfValue)
      | ([], ⟨_ :: r, _⟩) => .error (stopBefore .invalidNumber r)
      | (ds, r) => .ok (some (minus, ds), (r.within ht).cons)
    else .ok (none, .all (b :: s))

def scanUnsigned (negative : Bool) : Scanner Literal := fun s =>
  match scanWhole s with
  | .error stop => .error stop
  | .ok (whole, ⟨t, ht⟩) =>
    match scanFraction t with
    | .error stop => .error stop
    | .ok (fraction, ⟨u, hu⟩) =>
      match scanExponent u with
      | .error stop => .error stop
      | .ok (exponent, r) =>
        .ok (⟨negative, whole, fraction, exponent⟩, (r.within hu).behind ht)

namespace Literal

/-- Takes digits into a significand as long as it stays below 2^64. The digits that do not fit
    are left over. -/
def gather (significand : Nat) : List Nat → Nat × List Nat
  | [] => (significand, [])
  | d :: ds =>
    if significand * 10 + d < 0x1_0000_0000_0000_0000 then gather (significand * 10 + d) ds
    else (significand, d :: ds)

/-- The value of exponent digits below 2^31; or else how many digits follow the one that leads
    out of that range. -/
def boundedExponent (e : Nat) : List Nat → Except Nat Nat
  | [] => .ok e
  | d :: ds =>
    if e * 10 + d < 0x8000_0000 then boundedExponent (e * 10 + d) ds else .error ds.length

def tenTo (k : Nat) : Float :=
  Float.ofScientific 1 false k

/-- Divides by 10^`k`, in steps when that power is no double. Zero is not divided further. -/
def shrink (x : Float) (k : Nat) : Float :=
  if k ≤ 308 then x / tenTo k
  else if x == 0 then x
  else shrink (x / tenTo 308) (k - 308)
termination_by k

/-- The double nearest to the significand, scaled by a power of ten; `none` if it is too large. -/
def scale? (significand : Nat) (exponent : Int) : Option Float :=
  let x := (UInt64.ofNat significand).toFloat
  if exponent < 0 then some (shrink x exponent.natAbs)
  else if exponent ≤ 308 then
    let y := x * tenTo exponent.toNat
    if y.isInf then none else some y
  else if x == 0 then some x
  else none

def signed (l : Literal) (x : Float) : Double :=
  Double.ofFloat (if l.negative then -x else x)

/-- The number that a literal stands for. A whole number in range is exact. Otherwise up to 64
    bits of digits count: further digits before the point scale the number, and further digits
    after the point are dropped. A failure tells how many digits of the literal were not
    looked at. -/
def value (l : Literal) : Except Nat (Whole ⊕ Double) :=
  let (whole, extra) := gather 0 l.whole
  match l.fraction, l.exponent, extra with
  | none, none, [] =>
    if h : whole < 0x1_0000_0000_0000_0000 then
      if hz : l.negative then
        if hn : 0 < whole ∧ whole ≤ 0x8000_0000_0000_0000 then
          .ok (.inl ⟨-whole, by omega, by omega⟩)
        else .ok (.inr (l.signed (UInt64.ofNat whole).toFloat))
      else .ok (.inl (Whole.ofNat whole h))
    else .error 0
  | fraction, exponent, extra =>
    let places := fraction.getD []
    let (significand, unused) := gather whole places
    let shift : Int := extra.length - (places.length - unused.length : Nat)
    let scaled (e : Int) : Except Nat (Whole ⊕ Double) :=
      match scale? significand e with
      | some x => .ok (.inr (l.signed x))
      | none => .error 0
    match exponent with
    | none => scaled shift
    | some (minus, digits) =>
      match boundedExponent 0 digits with
      | .ok e => scaled (if minus then shift - e else shift + e)
      | .error unread =>
        if significand = 0 || minus then .ok (.inr (l.signed 0)) else .error unread

end Literal

/-- Reads a number whose minus sign, if it has one, was read. -/
def scanNumber (negative : Bool) : Scanner (Whole ⊕ Double) := fun s =>
  match scanUnsigned negative s with
  | .error stop => .error stop
  | .ok (literal, r) =>
    match literal.value with
    | .ok n => .ok (n, r)
    | .error unread => .error ⟨.numberOutOfRange, r.val.length + unread⟩

/-! ## Strings -/

def scanHex : (s : Bytes) → Except Stop (Nat × Rest s)
  | a :: b :: c :: d :: s =>
    match Decimal.hexDigit? a, Decimal.hexDigit? b, Decimal.hexDigit? c, Decimal.hexDigit? d with
    | some a, some b, some c, some d =>
      .ok (((a * 16 + b) * 16 + c) * 16 + d, (Tail.all s).rest.cons.cons.cons)
    | _, _, _, _ => .error (stopBefore .invalidEscape s)
  | _ => .error (stopAtEnd .endOfString)

def scanLowSurrogate (high : Nat) : (s : Bytes) → Except Stop (Char × Rest s)
  | [] => .error (stopAtEnd .endOfString)
  | b :: s =>
    if b ≠ 0x5C then .error (stopBefore .endOfHexEscape s)
    else
      match s with
      | [] => .error (stopAtEnd .endOfString)
      | u :: t =>
        if u ≠ 0x75 then .error (stopBefore .endOfHexEscape t)
        else
          match scanHex t with
          | .error stop => .error stop
          | .ok (low, r) =>
            if 0xDC00 ≤ low ∧ low ≤ 0xDFFF then
              .ok (Char.ofNat ((high - 0xD800) * 0x400 + (low - 0xDC00) + 0x10000), r.cons.cons)
            else .error (stopBefore .loneSurrogate r.val)

def shortEscape? (b : UInt8) : Option Char :=
  if b = 0x22 then some '"'
  else if b = 0x5C then some '\\'
  else if b = 0x2F then some '/'
  else if b = 0x62 then some '\x08'
  else if b = 0x66 then some '\x0c'
  else if b = 0x6E then some '\n'
  else if b = 0x72 then some '\r'
  else if b = 0x74 then some '\t'
  else none

def scanEscape : Scanner Char
  | [] => .error (stopAtEnd .endOfString)
  | b :: s =>
    match shortEscape? b with
    | some c => .ok (c, (Tail.all s).rest)
    | none =>
      if b ≠ 0x75 then .error (stopBefore .invalidEscape s)
      else
        match scanHex s with
        | .error stop => .error stop
        | .ok (n, ⟨t, ht⟩) =>
          if 0xDC00 ≤ n ∧ n ≤ 0xDFFF then .error (stopBefore .loneSurrogate t)
          else if 0xD800 ≤ n ∧ n ≤ 0xDBFF then
            match scanLowSurrogate n t with
            | .error stop => .error stop
            | .ok (c, r) => .ok (c, (r.behind ht).cons)
          else .ok (Char.ofNat n, Rest.cons ⟨t, ht⟩)

/-- The string whose bytes are `content`, with `unread` behind its closing quotation mark. Whether
    the bytes are text is looked at only here. Bytes that are none show as far before the end of the
    mark as they stand before the end of the content. -/
def closeString (content unread : Bytes) : Except Stop String :=
  match Utf8.decode content with
  | .ok text => .ok (String.ofList text)
  | .error fault => .error ⟨.invalidCodePoint, unread.length + (content.length - fault.index)⟩

/-- Reads a string up to its closing quotation mark, within the unread part `s` of `whole`; `done`
    holds the bytes so far, last one first, with escapes replaced by what they stand for. -/
def scanStringFrom (whole done : Bytes) : (s : Tail whole) → Except Stop (String × Rest whole)
  | ⟨[], _⟩ => .error (stopAtEnd .endOfString)
  | ⟨b :: s, h⟩ =>
    if b = 0x22 then (closeString done.reverse s).map (·, ⟨s, h⟩)
    else if b = 0x5C then
      match scanEscape s with
      | .error stop => .error stop
      | .ok (c, t) =>
        scanStringFrom whole ((Utf8.encode [c]).reverse ++ done) (t.toTail.cons.within h)
    else if b < 0x20 then .error (stopBefore .controlCharacter s)
    else scanStringFrom whole (b :: done) ((Tail.all s).cons.within h)
termination_by s => s.val.length
decreasing_by
  · exact Nat.lt_succ_of_lt t.property
  · exact Nat.lt_succ_self _

def scanString : Scanner String := fun s =>
  scanStringFrom s [] (.all s)

end WampClient.Json
