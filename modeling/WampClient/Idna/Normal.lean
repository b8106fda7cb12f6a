import WampClient.Idna.NormalData
import WampClient.Text.Table

/-! # Composed normal form

A letter and the marks on it are one character where such a character exists. The marks behind a
letter are first put into the order of their combining classes.
-/

namespace WampClient.Idna

def combiningTable : Table := .ofText combiningClasses

def compositionTable : Table := .ofText compositions

/-- The combining class of a character; zero for one that attaches to nothing. -/
def combiningClass (c : Char) : Nat :=
  match combiningTable.inRange? c.toNat with
  | some [k] => k
  | _ => 0

/-- The two parts of a composed character, Hangul syllables included. -/
def parts? (c : Char) : Option (Char × Char) :=
  let n := c.toNat
  if 0xAC00 ≤ n ∧ n < 0xAC00 + 11172 then
    let s := n - 0xAC00
    if s % 28 = 0 then some (Char.ofNat (0x1100 + s / 588), Char.ofNat (0x1161 + s % 588 / 28))
    else some (Char.ofNat (n - s % 28), Char.ofNat (0x11A7 + s % 28))
  else
    match compositionTable.entry? n with
    | some [a, b] => some (Char.ofNat a, Char.ofNat b)
    | _ => none

/-- Takes a character apart, `depth` times over. No composed character is deeper than four. -/
def decomposeChar : (depth : Nat) → Char → List Char
  | 0, c => [c]
  | depth + 1, c =>
    match parts? c with
    | some (a, b) => decomposeChar depth a ++ [b]
    | none => [c]

/-- Puts a mark among those before it, which are given last one first. -/
def placeMark (c : Char) (k : Nat) : List Char → List Char
  | [] => [c]
  | d :: before =>
    if k ≠ 0 ∧ k < combiningClass d then d :: placeMark c k before else c :: d :: before

def decompose (text : List Char) : List Char :=
  ((text.flatMap (decomposeChar 4)).foldl
    (fun done c => placeMark c (combiningClass c) done) []).reverse

/-- The character composed of two. ASCII characters compose with nothing before them. -/
def compose? (a b : Char) : Option Char :=
  let m := a.toNat
  let n := b.toNat
  if n < 0x80 then none
  else if 0x1100 ≤ m ∧ m < 0x1113 ∧ 0x1161 ≤ n ∧ n < 0x1176 then
    some (Char.ofNat (0xAC00 + ((m - 0x1100) * 21 + (n - 0x1161)) * 28))
  else if 0xAC00 ≤ m ∧ m < 0xAC00 + 11172 ∧ (m - 0xAC00) % 28 = 0 ∧ 0x11A7 < n ∧ n < 0x11C3 then
    some (Char.ofNat (m + (n - 0x11A7)))
  else
    (compositionTable.find? fun row => row.drop 1 = [m, n]).bind fun row =>
      row.head?.map Char.ofNat

/-- Composes a letter with the marks behind it as they come: `kept` are the marks that stay (last
    one first) and `blocked` is the class of the last of them. -/
def composeFrom (letter : Char) (kept : List Char) (blocked : Option Nat) :
    List Char → List Char
  | [] => letter :: kept.reverse
  | c :: rest =>
    let k := combiningClass c
    let free := match blocked with
      | none => true
      | some b => b < k
    match if free then compose? letter c else none with
    | some d => composeFrom d kept blocked rest
    | none =>
      if k = 0 then letter :: (kept.reverse ++ composeFrom c [] none rest)
      else composeFrom letter (c :: kept) (some k) rest

def composeAll : List Char → List Char
  | [] => []
  | c :: rest =>
    if combiningClass c = 0 then composeFrom c [] none rest else c :: composeAll rest

def normalize (text : List Char) : List Char :=
  composeAll (decompose text)

end WampClient.Idna
