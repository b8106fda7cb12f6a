import WampClient.Idna.Domain
import WampClient.Proofs.Text.Pieces
import WampClient.Proofs.Text.Tables

/-! # Domain names that are plain ASCII

The tables say nothing about ASCII characters, but that capital letters are mapped and that some
characters are neutral in direction. So a name in ASCII without capital letters is its own ASCII
form, as long as no label of it is in Punycode. The ASCII form of any name holds no character that
ends a host in an address.
-/

namespace WampClient.Idna

open Table (everyRow)

variable {c : Char} {text : List Char} {n : Nat}

/-! ## What the tables say about ASCII -/

/-- The texts of the tables that have no rows for ASCII characters. -/
def rowless : List String :=
  [expansions, ignoredRanges, disallowedRanges, combiningClasses, compositions]

/-- The texts of all tables, each with what its rows that begin with an ASCII character are like: of
    the other tables, one maps the capital letters, and one has no such character that is written
    from right to left. -/
def asciiRows : List (String × (List Nat → Bool)) :=
  (mappedRuns, fun row => row = [0x41, 0x5A, 1, 0x61]) ::
    (directions, fun row => row.drop 2 ∉ [[1], [2], [3]]) ::
      rowless.map fun text => (text, fun _ => false)

set_option maxRecDepth 100000 in
theorem everyRow_asciiRows : ∀ entry ∈ asciiRows,
    everyRow (fun row => decide (0x80 ≤ row.headD 0x80) || entry.2 row) [] none entry.1.toList = true := by
  simp only [asciiRows, rowless, List.map_cons, List.map_nil, List.forall_mem_cons]
  refine ⟨?_, ?_, ?_, ?_, ?_, ?_, ?_, List.forall_mem_nil _⟩
  all_goals
    dsimp only [mappedRuns, directions, expansions, ignoredRanges, disallowedRanges,
      combiningClasses, compositions]
    rw [String.toList_ofList]
    decide +kernel

theorem ascii_row (text : String) {like : List Nat → Bool} (listed : (text, like) ∈ asciiRows)
    {row : List Nat} (member : row ∈ Table.ofText text) :
    0x80 ≤ row.headD 0x80 ∨ like row = true := by
  have every := Table.ofText_rows (everyRow_asciiRows _ listed) row member
  rwa [Bool.or_eq_true, decide_eq_true_iff] at every

theorem row_ascii {text : String} (listed : text ∈ rowless) (ascii : n < 0x80) :
    (Table.ofText text).row n = [] := by
  have member : (text, fun _ => false) ∈ asciiRows :=
    .tail _ (.tail _ (List.mem_map.mpr ⟨text, listed, rfl⟩))
  exact Table.row_of_lt
    (fun _ inTable => (ascii_row text member inTable).resolve_right Bool.false_ne_true) ascii

/-- Here and below, a function that goes by what a table holds is opened before it is applied: opened
    afterwards, it would make the kernel read the table. -/
theorem mappedRun?_ascii (ascii : n < 0x80) (lower : ¬ (0x41 ≤ n ∧ n ≤ 0x5A)) : mappedRun? n = none := by
  conv => lhs; fun; delta mappedRun?
  rcases mappedRunTable.row_cases n with empty | ⟨first, more, found, member, small⟩
  · rw [empty]
  · rcases ascii_row mappedRuns (.head _) member with large | capitals
    · exact absurd (Nat.le_trans large small) (Nat.not_le.mpr ascii)
    · obtain ⟨rfl, rfl⟩ := List.cons.inj (of_decide_eq_true capitals)
      rw [found]
      exact if_neg fun run => lower ⟨small, run.1⟩

theorem mapChar_ascii (ascii : c.toNat < 0x80) (lower : ¬ (0x41 ≤ c.toNat ∧ c.toNat ≤ 0x5A)) :
    mapChar c = some [c] := by
  have run := mappedRun?_ascii ascii lower
  have several : expansionTable.entry? c.toNat = none :=
    Table.entry?_of_row (row_ascii (by simp [rowless]) ascii)
  have ignored : ignoredTable.inRange? c.toNat = none :=
    Table.inRange?_of_row (row_ascii (by simp [rowless]) ascii)
  have refused : disallowedTable.inRange? c.toNat = none :=
    Table.inRange?_of_row (row_ascii (by simp [rowless]) ascii)
  conv => lhs; fun; delta mapChar
  dsimp only
  rw [run, several, ignored, refused]
  rfl

theorem combiningClass_ascii (ascii : c.toNat < 0x80) : combiningClass c = 0 := by
  have unmarked : combiningTable.inRange? c.toNat = none :=
    Table.inRange?_of_row (row_ascii (by simp [rowless]) ascii)
  conv => lhs; fun; delta combiningClass
  rw [unmarked]

theorem parts?_ascii (ascii : c.toNat < 0x80) : parts? c = none := by
  have single : compositionTable.entry? c.toNat = none :=
    Table.entry?_of_row (row_ascii (by simp [rowless]) ascii)
  conv => lhs; fun; delta parts?
  dsimp only
  rw [if_neg (by omega), single]

theorem directionTable_ascii (ascii : n < 0x80) {more : List Nat}
    (found : directionTable.inRange? n = some more) : more ∉ [[1], [2], [3]] := by
  obtain ⟨first, last, member, small, _⟩ := Table.mem_of_inRange? found
  have neutral := (ascii_row directions (.tail _ (.head _)) member).resolve_left fun large =>
    Nat.not_le.mpr ascii (Nat.le_trans large small)
  exact of_decide_eq_true neutral

theorem isRightToLeft_ascii (ascii : c.toNat < 0x80) : isRightToLeft c = false := by
  have neutral : direction c ∉ [.right, .arabicLetter, .arabicNumber] := by
    conv => rhs; arg 2; fun; delta direction
    generalize read : directionTable.inRange? c.toNat = found
    split
    · decide
    all_goals first
      | decide
      | exact absurd (directionTable_ascii ascii read) (by decide)
  rw [isRightToLeft]
  simpa [and_assoc] using neutral

/-! ## Normal form -/

theorem decompose_ascii (ascii : ∀ c ∈ text, c.toNat < 0x80) : decompose text = text := by
  have apart : text.flatMap (decomposeChar 4) = text := by
    induction text with
    | nil => rfl
    | cons c text ih =>
        obtain ⟨first, more⟩ := List.forall_mem_cons.mp ascii
        rw [List.flatMap_cons, decomposeChar, parts?_ascii first, ih more]
        rfl
  have place (done text : List Char) (ascii : ∀ c ∈ text, c.toNat < 0x80) :
      text.foldl (fun done c => placeMark c (combiningClass c) done) done = text.reverse ++ done := by
    induction text generalizing done with
    | nil => rfl
    | cons c text ih =>
        obtain ⟨first, more⟩ := List.forall_mem_cons.mp ascii
        have front : placeMark c 0 done = c :: done := by
          cases done <;> simp [placeMark]
        rw [List.foldl_cons, combiningClass_ascii first, front, ih _ more, List.reverse_cons,
          List.append_assoc, List.singleton_append]
  rw [decompose, apart, place [] text ascii, List.append_nil, List.reverse_reverse]

theorem composeFrom_alone {letter : Char} {rest : List Char} (starter : combiningClass c = 0)
    (alone : compose? letter c = none) :
    composeFrom letter [] none (c :: rest) = letter :: composeFrom c [] none rest := by
  conv => lhs; unfold composeFrom
  generalize combiningClass c = k at starter
  cases starter
  dsimp only
  rw [alone]
  rfl

theorem composeFrom_ascii {letter : Char} (ascii : ∀ c ∈ text, c.toNat < 0x80) :
    composeFrom letter [] none text = letter :: text := by
  induction text generalizing letter with
  | nil => rfl
  | cons c text ih =>
      obtain ⟨first, more⟩ := List.forall_mem_cons.mp ascii
      rw [composeFrom_alone (combiningClass_ascii first) (if_pos first), ih more]

theorem normalize_ascii (ascii : ∀ c ∈ text, c.toNat < 0x80) : normalize text = text := by
  rw [normalize, decompose_ascii ascii]
  cases text with
  | nil => rfl
  | cons c text =>
      obtain ⟨first, more⟩ := List.forall_mem_cons.mp ascii
      rw [composeAll, if_pos (combiningClass_ascii first), composeFrom_ascii more]

/-! ## Names -/

/-- The name is in ASCII without capital letters, and no label of it is in Punycode. -/
structure IsPlain (name : List Char) : Prop where
  ascii : ∀ c ∈ name, c.toNat < 0x80
  lower : ∀ c ∈ name, ¬ (0x41 ≤ c.toNat ∧ c.toNat ≤ 0x5A)
  sound : ∀ c ∈ name, isDomainChar c = true
  unmarked : ∀ label ∈ Text.splitBy (· = '.') name, label.take 4 ≠ acePrefix

theorem mapM_of_some {α β : Type} {f : α → Option β} {g : α → β} {l : List α}
    (found : ∀ a ∈ l, f a = some (g a)) : l.mapM f = some (l.map g) := by
  induction l with
  | nil => rfl
  | cons a l ih =>
      obtain ⟨first, more⟩ := List.forall_mem_cons.mp found
      rw [List.mapM_cons, first, ih more]
      rfl

theorem mapAll_plain (ascii : ∀ c ∈ text, c.toNat < 0x80)
    (lower : ∀ c ∈ text, ¬ (0x41 ≤ c.toNat ∧ c.toNat ≤ 0x5A)) : mapAll text = some text := by
  have single : text.mapM mapChar = some (text.map fun c => [c]) :=
    mapM_of_some fun c member => mapChar_ascii (ascii c member) (lower c member)
  rw [mapAll, single, Option.map_some, ← List.flatMap_def, List.flatMap_singleton']

/-- A plain name is its own ASCII form. Nothing in the tables changes, drops or refuses its
    characters, none of them composes with another, and none is written from right to left. -/
theorem toAscii?_plain {name : List Char} (plain : IsPlain name) : toAscii? name = some name := by
  obtain ⟨ascii, lower, sound, unmarked⟩ := plain
  have inLabel (label : List Char) (member : label ∈ Text.splitBy (· = '.') name) (c : Char)
      (inLabel : c ∈ label) : c ∈ name := (Text.mem_splitBy member c inLabel).2
  have allAscii (label : List Char) (member : label ∈ Text.splitBy (· = '.') name) :
      label.all isAscii = true :=
    List.all_eq_true.mpr fun c inside => decide_eq_true (ascii c (inLabel label member c inside))
  have read (label : List Char) (member : label ∈ Text.splitBy (· = '.') name) :
      unicodeLabel? label = some (id label) := by
    rw [unicodeLabel?, if_neg (unmarked label member), if_pos (by simp [allAscii label member])]
    rfl
  have valid : (Text.splitBy (· = '.') name).all (·.all isDomainChar) = true :=
    List.all_eq_true.mpr fun label member =>
      List.all_eq_true.mpr fun c inside => sound c (inLabel label member c inside)
  have leftToRight : (Text.splitBy (· = '.') name).any (·.any isRightToLeft) = false := by
    simp only [List.any_eq_false]
    intro label member right
    obtain ⟨c, inside, isRight⟩ := List.any_eq_true.mp right
    rw [isRightToLeft_ascii (ascii c (inLabel label member c inside))] at isRight
    cases isRight
  have written : (Text.splitBy (· = '.') name).map asciiLabel = Text.splitBy (· = '.') name := by
    refine (List.map_congr_left fun label member => ?_).trans (List.map_id _)
    rw [asciiLabel, if_pos (allAscii label member)]
    rfl
  simp only [toAscii?, mapAll_plain ascii lower, normalize_ascii ascii, mapM_of_some read, List.map_id,
    valid, leftToRight, written, Text.joinWith_splitBy]
  rfl

/-! ## What a name in ASCII holds -/

/-- The character may stand in the ASCII form of a name. -/
structure IsNameChar (c : Char) : Prop where
  ascii : c.toNat < 0x80
  sound : isDomainChar c = true

theorem isNameChar_punyChar {d : Nat} (digit : d < 36) : IsNameChar (punyChar d) := by
  have all : ∀ d, d < 36 → (punyChar d).toNat < 0x80 ∧ isDomainChar (punyChar d) = true := by decide
  exact ⟨(all d digit).1, (all d digit).2⟩

theorem distanceDigits_sound (bias k delta : Nat) : ∀ c ∈ distanceDigits bias k delta, IsNameChar c := by
  fun_induction distanceDigits bias k delta with
  | case1 k delta t last =>
      have := threshold_le k bias
      exact List.forall_mem_singleton.mpr (isNameChar_punyChar (by omega))
  | case2 k delta t more ih =>
      have := threshold_le k bias
      have := Nat.mod_lt (delta - t) (show 0 < 36 - t by omega)
      exact List.forall_mem_cons.mpr ⟨isNameChar_punyChar (by omega), ih⟩

theorem pass_sound {basic m : Nat} {w : Writing} (sound : ∀ c ∈ w.text, IsNameChar c) (c : Char) :
    ∀ d ∈ (w.pass basic m c).text, IsNameChar d := by
  unfold Writing.pass
  split
  · exact sound
  · split
    · exact List.forall_mem_append.mpr ⟨sound, distanceDigits_sound _ _ _⟩
    · exact sound

theorem writeFrom_sound {label : List Char} {basic : Nat} {ms : List Nat} {w : Writing}
    (sound : ∀ c ∈ w.text, IsNameChar c) : ∀ c ∈ (writeFrom label basic ms n w).text, IsNameChar c := by
  have passes {m : Nat} {w : Writing} (cs : List Char) (sound : ∀ c ∈ w.text, IsNameChar c) :
      ∀ c ∈ (cs.foldl (Writing.pass basic m) w).text, IsNameChar c := by
    induction cs generalizing w with
    | nil => exact sound
    | cons c cs ih => exact ih (pass_sound sound c)
  induction ms generalizing n w with
  | nil => exact sound
  | cons m ms ih => exact ih (passes label sound)

theorem asciiLabel_sound {label : List Char} (sound : ∀ c ∈ label, isDomainChar c = true) :
    ∀ c ∈ asciiLabel label, IsNameChar c := by
  unfold asciiLabel
  split
  · rename_i ascii
    exact fun c member => ⟨of_decide_eq_true (List.all_eq_true.mp ascii c member), sound c member⟩
  · have marks : ∀ c ∈ acePrefix, IsNameChar c := by
      have all : ∀ c ∈ acePrefix, c.toNat < 0x80 ∧ isDomainChar c = true :=
        Text.forall_mem_of_all (by decide)
      exact fun c member => ⟨(all c member).1, (all c member).2⟩
    have plain : ∀ c ∈ label.filter (·.toNat < 0x80), IsNameChar c := by
      intro c member
      obtain ⟨inLabel, ascii⟩ := List.mem_filter.mp member
      exact ⟨of_decide_eq_true ascii, sound c inLabel⟩
    refine List.forall_mem_append.mpr ⟨marks, writeFrom_sound ?_⟩
    dsimp only
    split
    · exact List.forall_mem_nil _
    · exact List.forall_mem_append.mpr
        ⟨plain, List.forall_mem_singleton.mpr ⟨by decide, by decide⟩⟩

/-- The ASCII form of a name is in ASCII, and holds nothing that has a meaning in an address. -/
theorem toAscii?_sound {domain name : List Char} (mapped : toAscii? domain = some name) :
    ∀ c ∈ name, IsNameChar c := by
  unfold toAscii? at mapped
  split at mapped
  · cases mapped
  · dsimp only at mapped
    split at mapped
    · cases mapped
    · split at mapped
      · rename_i valid
        cases mapped
        have sound := List.all_eq_true.mp ((Bool.and_eq_true _ _).mp valid).1
        intro c member
        rcases Text.mem_joinWith member with rfl | ⟨piece, inPieces, inPiece⟩
        · exact ⟨by decide, by decide⟩
        · obtain ⟨label, inLabels, rfl⟩ := List.mem_map.mp inPieces
          exact asciiLabel_sound (List.all_eq_true.mp (sound label inLabels)) c inPiece
      · cases mapped

end WampClient.Idna
