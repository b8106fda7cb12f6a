import WampClient.Text.Decimal

/-! # Tables of characters

A table is written as text: rows between blanks, and in a row hexadecimal numbers between colons.
The rows stand in the order of their first numbers, so a row is found by halving.
-/

namespace WampClient

abbrev Table := Array (List Nat)

namespace Table

/-- The rows of a text in reverse: finished `rows`, the numbers of the `row` at hand (last one
    first), and the number at hand, if one was begun. -/
structure Reading where
  rows : Array (List Nat)
  row : List Nat
  number : Option Nat

def Reading.endNumber (r : Reading) : Reading :=
  match r.number with
  | some n => { r with row := n :: r.row, number := none }
  | none => r

def Reading.endRow (r : Reading) : Reading :=
  let r := r.endNumber
  if r.row.isEmpty then r else { r with rows := r.rows.push r.row.reverse, row := [] }

def Reading.step (r : Reading) (c : Char) : Reading :=
  match Decimal.hexDigit? c.toUInt8 with
  | some d => { r with number := some (r.number.getD 0 * 16 + d) }
  | none => if c = ':' then r.endNumber else r.endRow

def ofText (text : String) : Table :=
  (text.toList.foldl Reading.step ⟨#[], [], none⟩).endRow.rows

/-- The last of the rows from `lo` up to but not including `hi` that begins with `n` or a smaller
    number; `best` is such a row before `lo`. -/
def find (t : Table) (n : Nat) (best : List Nat) (lo hi : Nat) : List Nat :=
  if _ : lo < hi then
    let mid := (lo + hi) / 2
    match t[mid]? with
    | some (first :: row) =>
      if first ≤ n then t.find n (first :: row) (mid + 1) hi else t.find n best lo mid
    | _ => best
  else best
termination_by hi - lo

/-- The last row that begins with `n` or a smaller number; an empty row if there is none. -/
def row (t : Table) (n : Nat) : List Nat :=
  t.find n [] 0 t.size

/-- What follows the bounds in the row whose range holds `n`. -/
def inRange? (t : Table) (n : Nat) : Option (List Nat) :=
  match t.row n with
  | _ :: last :: more => if n ≤ last then some more else none
  | _ => none

/-- What follows `n` in the row that begins with it. -/
def entry? (t : Table) (n : Nat) : Option (List Nat) :=
  match t.row n with
  | first :: more => if first = n then some more else none
  | [] => none

end Table

end WampClient
