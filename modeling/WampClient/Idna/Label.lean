import WampClient.Idna.LabelData
import WampClient.Idna.Mapping
import WampClient.Idna.Normal

/-! # Labels of domain names

What a label beyond ASCII must satisfy: it is in normal form, it does not begin with a mark, joiners
stand only where they change how letters join, and text from right to left is not mixed up.
-/

namespace WampClient.Idna

def markTable : Table := .ofText markRanges

def joiningTable : Table := .ofText joiningTypes

def directionTable : Table := .ofText directions

def isMark (c : Char) : Bool :=
  (markTable.inRange? c.toNat).isSome

/-! ## Joiners -/

inductive Joining where
  | none
  | next
  | previous
  | both
  | transparent
  deriving DecidableEq, Repr

def joining (c : Char) : Joining :=
  match joiningTable.inRange? c.toNat with
  | some [1] => .next
  | some [2] => .previous
  | some [3] => .both
  | some [4] => .transparent
  | _ => .none

def firstSolid (cs : List Char) : Joining :=
  match cs.dropWhile (joining · = .transparent) with
  | c :: _ => joining c
  | [] => .none

/-- The combining class of the signs that silence a vowel. -/
def viramaClass : Nat := 9

/-- Joiners stand after a sign that silences a vowel; the non-joiner also between two letters that
    would join. `before` holds the characters passed, last one first. -/
def joinersFit (before : List Char) : List Char → Bool
  | [] => true
  | c :: rest =>
    let afterVirama := match before with
      | b :: _ => combiningClass b = viramaClass
      | [] => false
    let fits :=
      if c.toNat = 0x200D then afterVirama
      else if c.toNat = 0x200C then
        afterVirama ||
          ((firstSolid before = .next || firstSolid before = .both) &&
            (firstSolid rest = .previous || firstSolid rest = .both))
      else true
    fits && joinersFit (c :: before) rest

/-! ## Direction -/

inductive Direction where
  | left
  | right
  | arabicLetter
  | arabicNumber
  | europeanNumber
  | europeanSeparator
  | commonSeparator
  | europeanTerminator
  | otherNeutral
  | boundaryNeutral
  | mark
  | other
  deriving DecidableEq, Repr

def direction (c : Char) : Direction :=
  match directionTable.inRange? c.toNat with
  | none => .left
  | some [1] => .right
  | some [2] => .arabicLetter
  | some [3] => .arabicNumber
  | some [4] => .europeanNumber
  | some [5] => .europeanSeparator
  | some [6] => .commonSeparator
  | some [7] => .europeanTerminator
  | some [8] => .otherNeutral
  | some [9] => .boundaryNeutral
  | some [10] => .mark
  | some _ => .other

def isRightToLeft (c : Char) : Bool :=
  direction c = .right || direction c = .arabicLetter || direction c = .arabicNumber

def Direction.isNeutral : Direction → Bool
  | .europeanNumber | .europeanSeparator | .commonSeparator | .europeanTerminator
  | .otherNeutral | .boundaryNeutral | .mark => true
  | _ => false

def directionsFit (label : List Char) : Bool :=
  let ds := label.map direction
  match ds, ds.reverse.dropWhile (· = .mark) with
  | [], _ => true
  | .left :: _, last :: _ =>
    ds.all (fun d => d = .left || d.isNeutral) && (last = .left || last = .europeanNumber)
  | first :: _, last :: _ =>
    (first = .right || first = .arabicLetter) &&
      ds.all (fun d => d = .right || d = .arabicLetter || d = .arabicNumber || d.isNeutral) &&
      (last = .right || last = .arabicLetter || last = .arabicNumber || last = .europeanNumber) &&
      !(ds.contains .europeanNumber && ds.contains .arabicNumber)
  | _ :: _, [] => false

/-! ## Labels -/

def isWellFormed (label : List Char) : Bool :=
  (match label with
    | c :: _ => !isMark c
    | [] => true) &&
  joinersFit [] label

/-- A label is what mapping and normalizing leave as it is. -/
def isStable (label : List Char) : Bool :=
  label.all (fun c => mapChar c = some [c]) && normalize label = label

end WampClient.Idna
