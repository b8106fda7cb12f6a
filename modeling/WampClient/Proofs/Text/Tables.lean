import WampClient.Text.Table

/-! # Rows of tables

What is looked up in a table stands in one of its rows. What all rows of a table have in common is
checked on its text, row by row.
-/

namespace WampClient.Table

variable {p : List Nat → Bool}

/-- All rows of a text are as `p` says, where `row` and `number` are at hand as in a reading. -/
def everyRow (p : List Nat → Bool) : (row : List Nat) → (number : Option Nat) → List Char → Bool
  | row, number, [] =>
    let row := number.toList ++ row
    row.isEmpty || p row.reverse
  | row, number, c :: cs =>
    match Decimal.hexDigit? c.toUInt8 with
    | some d => everyRow p row (some (number.getD 0 * 16 + d)) cs
    | none =>
      let row := number.toList ++ row
      if c = ':' then everyRow p row none cs else (row.isEmpty || p row.reverse) && everyRow p [] none cs

theorem Reading.endNumber_eq (r : Reading) :
    r.endNumber = { r with row := r.number.toList ++ r.row, number := none } := by
  obtain ⟨rows, row, number⟩ := r
  cases number <;> rfl

theorem Reading.endRow_rows {r : Reading} (sound : ∀ row ∈ r.rows, p row = true)
    (last : (r.number.toList ++ r.row).isEmpty || p (r.number.toList ++ r.row).reverse) :
    (∀ row ∈ r.endRow.rows, p row = true) ∧ r.endRow.row = [] ∧ r.endRow.number = none := by
  simp only [endRow, endNumber_eq]
  split
  · rename_i empty
    exact ⟨sound, List.isEmpty_iff.mp empty, rfl⟩
  · rename_i full
    refine ⟨fun row member => ?_, rfl, rfl⟩
    rcases Array.mem_push.mp member with member | rfl
    · exact sound row member
    · exact ((Bool.or_eq_true _ _).mp last).resolve_left full

theorem Reading.rows_of_everyRow {r : Reading} {cs : List Char} (sound : ∀ row ∈ r.rows, p row = true)
    (every : everyRow p r.row r.number cs = true) :
    ∀ row ∈ (cs.foldl step r).endRow.rows, p row = true := by
  induction cs generalizing r with
  | nil => exact (endRow_rows sound every).1
  | cons c cs ih =>
      rw [List.foldl_cons]
      rw [everyRow] at every
      cases digit : Decimal.hexDigit? c.toUInt8 with
      | some d =>
          simp only [digit] at every
          exact ih (by simpa only [step, digit] using sound) (by simpa only [step, digit] using every)
      | none =>
          simp only [digit] at every
          split at every
          · rename_i colon
            refine ih ?_ ?_ <;> simp only [step, digit, if_pos colon, endNumber_eq]
            · exact sound
            · exact every
          · rename_i blank
            obtain ⟨last, more⟩ := (Bool.and_eq_true _ _).mp every
            obtain ⟨rows, row, number⟩ := endRow_rows sound last
            refine ih ?_ ?_ <;> simp only [step, digit, if_neg blank]
            · exact rows
            · rw [row, number]
              exact more

theorem ofText_rows {text : String} (every : everyRow p [] none text.toList = true) :
    ∀ row ∈ ofText text, p row = true :=
  Reading.rows_of_everyRow (r := ⟨#[], [], none⟩) (fun row member => absurd member (Array.not_mem_empty row))
    every

/-! ## Looking up -/

variable {t : Table} {n : Nat}

theorem find_cases (best : List Nat) (lo hi : Nat) : t.find n best lo hi = best ∨
    ∃ first more, t.find n best lo hi = first :: more ∧ first :: more ∈ t ∧ first ≤ n := by
  fun_induction find t n best lo hi with
  | case1 best lo hi _ mid first more found small ih =>
      rcases ih with same | found_later
      · exact .inr ⟨first, more, same, Array.mem_of_getElem? found, small⟩
      · exact .inr found_later
  | case2 _ _ _ _ _ _ _ _ _ ih => exact ih
  | case3 => exact .inl rfl
  | case4 => exact .inl rfl

theorem row_cases (t : Table) (n : Nat) : t.row n = [] ∨
    ∃ first more, t.row n = first :: more ∧ first :: more ∈ t ∧ first ≤ n :=
  find_cases [] 0 t.size

theorem row_of_lt {bound : Nat} (from_bound : ∀ row ∈ t, bound ≤ row.headD bound) (below : n < bound) :
    t.row n = [] := by
  rcases t.row_cases n with empty | ⟨first, more, _, member, small⟩
  · exact empty
  · exact absurd (from_bound _ member) (Nat.not_le.mpr (Nat.lt_of_le_of_lt small below))

theorem inRange?_of_row (empty : t.row n = []) : t.inRange? n = none := by
  rw [inRange?, empty]

theorem mem_of_inRange? {more : List Nat} (found : t.inRange? n = some more) :
    ∃ first last, first :: last :: more ∈ t ∧ first ≤ n ∧ n ≤ last := by
  rcases t.row_cases n with empty | ⟨first, bounds, same, member, small⟩
  · rw [inRange?_of_row empty] at found
    cases found
  · rw [inRange?, same] at found
    cases bounds with
    | nil => cases found
    | cons last bounds =>
        dsimp only at found
        split at found
        · rename_i large
          cases found
          exact ⟨first, last, member, small, large⟩
        · cases found

theorem entry?_of_row (empty : t.row n = []) : t.entry? n = none := by
  rw [Table.entry?, empty]

end WampClient.Table
