import WampClient.Idna.MappingData
import WampClient.Text.Table

/-! # Mapping the characters of a domain name

Upper case and compatibility forms are mapped to plain lower case, some invisible characters are
dropped, and a character that no domain name may hold spoils the whole name.
-/

namespace WampClient.Idna

def mappedRunTable : Table := .ofText mappedRuns

def expansionTable : Table := .ofText expansions

def ignoredTable : Table := .ofText ignoredRanges

def disallowedTable : Table := .ofText disallowedRanges

def mappedRun? (n : Nat) : Option Nat :=
  match mappedRunTable.row n with
  | [first, last, step, target] =>
    if n ≤ last ∧ (n - first) % step = 0 then some (target + (n - first)) else none
  | _ => none

/-- The characters that take the place of a character, or `none` if it is refused. -/
def mapChar (c : Char) : Option (List Char) :=
  let n := c.toNat
  match mappedRun? n with
  | some m => some [Char.ofNat m]
  | none =>
    match expansionTable.entry? n with
    | some ms => some (ms.map Char.ofNat)
    | none =>
      if (ignoredTable.inRange? n).isSome then some []
      else if (disallowedTable.inRange? n).isSome then none
      else some [c]

def mapAll (text : List Char) : Option (List Char) :=
  (text.mapM mapChar).map List.flatten

end WampClient.Idna
