import WampClient.Proofs.Json.Printed
import WampClient.Proofs.Json.Values

/-! # Reading values that were printed

A value without doubles is read from its text as it was printed, if it is nested no deeper than the
reader goes. If it is nested deeper the reader says so, at the first place where it is.
-/

namespace WampClient.Json

open Bytes (Rest Tail)

variable {item : Scanner Value} {v : Value} {rest s : Bytes} {depth : Nat}

/-- What a scan comes to, with what it leaves as mere bytes. -/
def outcome {α : Type} {s : Bytes} (scanned : Except Stop (α × Rest s)) : Except Stop (α × Bytes) :=
  scanned.map fun (a, r) => (a, r.val)

/-! ## The text of lists and objects -/

/-- The items of a list and its closing bracket, as bytes. A comma stands before each item but the
    first one. -/
def itemsText (isFirst : Bool) : List Value → Bytes
  | [] => [0x5D]
  | v :: items => (if isFirst then [] else [0x2C]) ++ (v.encode ++ itemsText false items)

def fieldsText (isFirst : Bool) : List (String × Value) → Bytes
  | [] => [0x7D]
  | (k, v) :: fields => (if isFirst then [] else [0x2C]) ++
    (Utf8.encode (renderString k) ++ 0x3A :: (v.encode ++ fieldsText false fields))

theorem encode_items (items : List Value) : Utf8.encode (renderItems items) = itemsText false items := by
  induction items with
  | nil => rfl
  | cons v items ih =>
      rw [renderItems, Utf8.encode_cons, Utf8.encode_append, ih]
      rfl

theorem encode_list (items : List Value) : (Value.list items).encode = 0x5B :: itemsText true items := by
  cases items with
  | nil => rfl
  | cons v items =>
      rw [Value.encode, Value.render, Utf8.encode_cons, Utf8.encode_append, encode_items]
      rfl

theorem encode_fields_text (fields : List (String × Value)) :
    Utf8.encode (renderFields fields) = fieldsText false fields := by
  induction fields with
  | nil => rfl
  | cons f fields ih =>
      rw [encode_fields, ih]
      rfl

theorem encode_object_text (fields : List (String × Value)) :
    (Value.object fields).encode = 0x7B :: fieldsText true fields := by
  cases fields with
  | nil => rfl
  | cons f fields =>
      rw [encode_object, encode_fields_text]
      rfl

theorem endsNumber_itemsText (items : List Value) (rest : Bytes) :
    EndsNumber (itemsText false items ++ rest) := by
  cases items <;> rintro b ⟨⟩ <;> decide

theorem endsNumber_fieldsText (fields : List (String × Value)) (rest : Bytes) :
    EndsNumber (fieldsText false fields ++ rest) := by
  cases fields <;> rintro b ⟨⟩ <;> decide

structure LeadsValue (b : UInt8) : Prop where
  dark : isBlank b = false
  notEnd : b ≠ 0x5D

theorem encode_leads (exact : v.IsExact) : ∃ b s, v.encode = b :: s ∧ LeadsValue b := by
  cases v with
  | null => exact ⟨_, _, rfl, by decide, by decide⟩
  | bool b => cases b <;> exact ⟨_, _, rfl, by decide, by decide⟩
  | whole n =>
      obtain ⟨b, s, split, leads, _⟩ := scanLeaf_whole n endsNumber_nil
      rw [List.append_nil] at split
      refine ⟨b, s, split, isBlank_of_leadsNumber leads, ?_⟩
      rintro rfl
      revert leads
      simp [LeadsNumber, Decimal.digit?]
  | double x => exact absurd rfl (exact x)
  | string text =>
      obtain ⟨s, split, _⟩ := scanString_render text []
      rw [List.append_nil] at split
      exact ⟨0x22, s, split, by decide, by decide⟩
  | list items => exact ⟨_, _, encode_list items, by decide, by decide⟩
  | object fields => exact ⟨_, _, encode_object_text fields, by decide, by decide⟩

/-! ## Item by item -/

theorem nextItem_value (isFirst : Bool) (exact : v.IsExact) (rest : Bytes) :
    ∃ bound, nextItem isFirst ((if isFirst then [] else [0x2C]) ++ (v.encode ++ rest)) =
      .ok (some ⟨v.encode ++ rest, bound⟩) := by
  obtain ⟨b, s, split, dark, notEnd⟩ := encode_leads exact
  rw [split]
  cases isFirst with
  | true =>
      refine ⟨Nat.le_refl _, ?_⟩
      change nextItem true (b :: (s ++ rest)) = _
      simp only [nextItem, skipBlanks_cons dark, Tail.all, if_neg notEnd]
      rfl
  | false =>
      refine ⟨Nat.le_succ _, ?_⟩
      change nextItem false (0x2C :: b :: (s ++ rest)) = _
      simp only [nextItem, skipBlanks_cons (b := 0x2C) rfl, skipBlanks_cons dark, Tail.all,
        if_neg notEnd]
      rfl

theorem scanItems_step (done : List Value) (exact : v.IsExact) (rest : Bytes) :
    outcome (scanItems item done ((if done.isEmpty then [] else [0x2C]) ++ (v.encode ++ rest))) =
      (outcome (item (v.encode ++ rest))).bind fun (w, left) =>
        outcome (scanItems item (w :: done) left) := by
  obtain ⟨bound, next⟩ := nextItem_value done.isEmpty exact rest
  rw [scanItems]
  simp only [next]
  cases item (v.encode ++ rest) with
  | error stop => rfl
  | ok found =>
      obtain ⟨w, left, _⟩ := found
      dsimp only [outcome, Except.map, Except.bind]
      cases scanItems item (w :: done) left <;> rfl

theorem scanItems_end (done : List Value) (rest : Bytes) :
    outcome (scanItems item done (0x5D :: rest)) = .ok (done.reverse, rest) := by
  rw [scanItems]
  rfl

theorem scanKey_render (k : String) (s : Bytes) :
    ∃ t, Utf8.encode (renderString k) ++ 0x3A :: s = 0x22 :: t ∧
      ∃ bound, scanKey t = .ok (k, ⟨s, bound⟩) := by
  obtain ⟨t, quoted, ⟨u, textBound⟩, text, (rfl : u = _)⟩ := scanString_render k (0x3A :: s)
  have colon : skipColon (0x3A :: s) = .ok ⟨s, Nat.lt_succ_self _⟩ := rfl
  refine ⟨t, quoted, Nat.lt_trans (Nat.lt_succ_self _) textBound, ?_⟩
  simp only [scanKey, text, colon]
  rfl

theorem scanFields_step (done : List (String × Value)) (k : String) (s : Bytes) :
    outcome (scanFields item done ((if done.isEmpty then [] else [0x2C]) ++
        (Utf8.encode (renderString k) ++ 0x3A :: s))) =
      (outcome (item s)).bind fun (w, left) => outcome (scanFields item ((k, w) :: done) left) := by
  obtain ⟨t, quoted, textBound, key⟩ := scanKey_render k s
  have next : ∃ bound, nextKey done.isEmpty ((if done.isEmpty then [] else [0x2C]) ++ 0x22 :: t) =
      .ok (some ⟨t, bound⟩) := by
    cases done.isEmpty with
    | true => exact ⟨Nat.lt_succ_self _, rfl⟩
    | false => exact ⟨Nat.lt_succ_of_lt (Nat.lt_succ_self _), rfl⟩
  obtain ⟨nextBound, next⟩ := next
  rw [quoted, scanFields]
  simp only [next, key]
  cases item s with
  | error stop => rfl
  | ok found =>
      obtain ⟨w, left, _⟩ := found
      dsimp only [outcome, Except.map, Except.bind]
      cases scanFields item ((k, w) :: done) left <;> rfl

theorem scanFields_end (done : List (String × Value)) (rest : Bytes) :
    outcome (scanFields item done (0x7D :: rest)) = .ok (done.reverse, rest) := by
  rw [scanFields]
  rfl

/-! ## What a reader does with printed items -/

/-- The item is read from its text, whatever comes behind it. This is what a loop over items needs
    of each of them, and what the induction over values gives. -/
def Reads (item : Scanner Value) (v : Value) : Prop :=
  ∀ rest, EndsNumber rest → outcome (item (v.encode ++ rest)) = .ok (v, rest)

/-- The text of the item is refused because it is nested too deep. -/
def Refuses (item : Scanner Value) (v : Value) : Prop :=
  ∀ rest, EndsNumber rest →
    ∃ stop, outcome (item (v.encode ++ rest)) = .error stop ∧ stop.cause = .tooDeep

theorem scanItems_read {items : List Value} (done : List Value) (rest : Bytes)
    (exact : ∀ v ∈ items, v.IsExact) (reads : ∀ v ∈ items, Reads item v) :
    outcome (scanItems item done (itemsText done.isEmpty items ++ rest)) =
      .ok (done.reverse ++ items, rest) := by
  induction items generalizing done with
  | nil =>
      rw [List.append_nil]
      exact scanItems_end done rest
  | cons v items ih =>
      have more := ih (v :: done) (fun w member => exact w (List.mem_cons_of_mem v member))
        (fun w member => reads w (List.mem_cons_of_mem v member))
      rw [itemsText, List.append_assoc, List.append_assoc,
        scanItems_step done (exact v List.mem_cons_self),
        reads v List.mem_cons_self _ (endsNumber_itemsText items rest)]
      rw [List.reverse_cons, List.append_assoc] at more
      exact more

theorem scanFields_read {fields : List (String × Value)} (done : List (String × Value))
    (rest : Bytes) (reads : ∀ f ∈ fields, Reads item f.2) :
    outcome (scanFields item done (fieldsText done.isEmpty fields ++ rest)) =
      .ok (done.reverse ++ fields, rest) := by
  induction fields generalizing done with
  | nil =>
      rw [List.append_nil]
      exact scanFields_end done rest
  | cons f fields ih =>
      have more := ih (f :: done) (fun g member => reads g (List.mem_cons_of_mem f member))
      rw [fieldsText, List.append_assoc, List.append_assoc, List.cons_append, List.append_assoc,
        scanFields_step, reads f List.mem_cons_self _ (endsNumber_fieldsText fields rest)]
      rw [List.reverse_cons, List.append_assoc] at more
      exact more

/-- If some items are refused, the first of them stops the reading of the list. -/
theorem scanItems_refused {items : List Value} (done : List Value) (rest : Bytes)
    (exact : ∀ v ∈ items, v.IsExact) (told : ∀ v ∈ items, Reads item v ∨ Refuses item v)
    (refused : ∃ v ∈ items, Refuses item v) :
    ∃ stop, outcome (scanItems item done (itemsText done.isEmpty items ++ rest)) = .error stop ∧
      stop.cause = .tooDeep := by
  induction items generalizing done with
  | nil =>
      obtain ⟨v, member, _⟩ := refused
      cases member
  | cons v items ih =>
      rw [itemsText, List.append_assoc, List.append_assoc,
        scanItems_step done (exact v List.mem_cons_self)]
      by_cases first : Refuses item v
      · obtain ⟨stop, failed, cause⟩ := first _ (endsNumber_itemsText items rest)
        exact ⟨stop, by rw [failed]; rfl, cause⟩
      · rw [(told v List.mem_cons_self).resolve_right first _ (endsNumber_itemsText items rest)]
        refine ih (v :: done) (fun w member => exact w (List.mem_cons_of_mem v member))
          (fun w member => told w (List.mem_cons_of_mem v member)) ?_
        obtain ⟨w, member, refuses⟩ := refused
        rcases List.mem_cons.mp member with rfl | member
        · exact absurd refuses first
        · exact ⟨w, member, refuses⟩

theorem scanFields_refused {fields : List (String × Value)} (done : List (String × Value))
    (rest : Bytes) (told : ∀ f ∈ fields, Reads item f.2 ∨ Refuses item f.2)
    (refused : ∃ f ∈ fields, Refuses item f.2) :
    ∃ stop, outcome (scanFields item done (fieldsText done.isEmpty fields ++ rest)) = .error stop ∧
      stop.cause = .tooDeep := by
  induction fields generalizing done with
  | nil =>
      obtain ⟨f, member, _⟩ := refused
      cases member
  | cons f fields ih =>
      rw [fieldsText, List.append_assoc, List.append_assoc, List.cons_append, List.append_assoc,
        scanFields_step]
      by_cases first : Refuses item f.2
      · obtain ⟨stop, failed, cause⟩ := first _ (endsNumber_fieldsText fields rest)
        exact ⟨stop, by rw [failed]; rfl, cause⟩
      · rw [(told f List.mem_cons_self).resolve_right first _ (endsNumber_fieldsText fields rest)]
        refine ih (f :: done) (fun g member => told g (List.mem_cons_of_mem f member)) ?_
        obtain ⟨g, member, refuses⟩ := refused
        rcases List.mem_cons.mp member with rfl | member
        · exact absurd refuses first
        · exact ⟨g, member, refuses⟩

/-! ## Values -/

theorem scanValue_list (depth : Nat) (s : Bytes) : outcome (scanValue (depth + 1) (0x5B :: s)) =
    (outcome (scanItems (scanValue depth) [] s)).map fun (items, left) => (.list items, left) := by
  simp only [scanValue, skipBlanks_cons (b := 0x5B) rfl, Tail.all, if_true]
  cases scanItems (scanValue depth) [] s <;> rfl

theorem scanValue_object (depth : Nat) (s : Bytes) : outcome (scanValue (depth + 1) (0x7B :: s)) =
    (outcome (scanFields (scanValue depth) [] s)).map fun (fields, left) =>
      (.ofFields fields, left) := by
  simp only [scanValue, skipBlanks_cons (b := 0x7B) rfl, Tail.all]
  rw [if_neg (by decide), if_pos trivial]
  cases scanFields (scanValue depth) [] s <;> rfl

theorem scanValue_nested {b : UInt8} (opens : b = 0x5B ∨ b = 0x7B) (s : Bytes) :
    ∃ stop, outcome (scanValue 0 (b :: s)) = .error stop ∧ stop.cause = .tooDeep := by
  rcases opens with rfl | rfl <;> exact ⟨stopAt .tooDeep (_ :: s), rfl, rfl⟩

theorem scanValue_leaf {b : UInt8} (dark : isBlank b = false) (noList : b ≠ 0x5B)
    (noObject : b ≠ 0x7B) {r : Tail s} (scanned : scanLeaf b s = .ok (v, r)) (depth : Nat) :
    outcome (scanValue depth (b :: s)) = .ok (v, r.val) := by
  cases depth with
  | zero | succ =>
      simp only [scanValue, skipBlanks_cons dark, Tail.all, if_neg noList, if_neg noObject, scanned]
      rfl

theorem reads_leaf (exact : v.IsExact) (leaf : v.depth = 0) (depth : Nat) :
    Reads (scanValue depth) v := by
  intro rest ends
  cases v with
  | null =>
      exact scanValue_leaf (b := 0x6E) (r := (Tail.all rest).cons.cons.cons) rfl (by decide)
        (by decide) rfl depth
  | bool b =>
      cases b with
      | true =>
          exact scanValue_leaf (b := 0x74) (r := (Tail.all rest).cons.cons.cons) rfl (by decide)
            (by decide) rfl depth
      | false =>
          exact scanValue_leaf (b := 0x66) (r := (Tail.all rest).cons.cons.cons.cons) rfl
            (by decide) (by decide) rfl depth
  | whole n =>
      obtain ⟨b, s, split, leads, r, scanned, (rfl : r.val = rest)⟩ := scanLeaf_whole n ends
      have other {c : UInt8} (no : ¬ LeadsNumber c) : b ≠ c := fun same => no (same ▸ leads)
      rw [Value.encode, split]
      exact scanValue_leaf (isBlank_of_leadsNumber leads) (other (by simp [LeadsNumber, Decimal.digit?]))
        (other (by simp [LeadsNumber, Decimal.digit?])) scanned depth
  | double x => exact absurd rfl (exact x)
  | string text =>
      obtain ⟨s, split, r, scanned, (rfl : r.val = rest)⟩ := scanString_render text rest
      rw [Value.encode, Value.render, split]
      refine scanValue_leaf (b := 0x22) (r := r.toTail) rfl (by decide) (by decide) ?_ depth
      change (scanString s).map _ = _
      rw [scanned]
      rfl
  | list items => cases leaf
  | object fields => cases leaf

/-! ## Lists and objects around values -/

section

variable {items : List Value} {fields : List (String × Value)}

theorem reads_list (exact : ∀ v ∈ items, v.IsExact) (reads : ∀ v ∈ items, Reads (scanValue depth) v) :
    Reads (scanValue (depth + 1)) (.list items) := by
  intro rest _
  have read : outcome (scanItems (scanValue depth) [] (itemsText true items ++ rest)) =
      .ok (items, rest) := scanItems_read [] rest exact reads
  rw [encode_list, List.cons_append, scanValue_list, read]
  rfl

theorem reads_object (ascending : Ascending fields)
    (reads : ∀ f ∈ fields, Reads (scanValue depth) f.2) :
    Reads (scanValue (depth + 1)) (.object fields) := by
  intro rest _
  have read : outcome (scanFields (scanValue depth) [] (fieldsText true fields ++ rest)) =
      .ok (fields, rest) := scanFields_read [] rest reads
  rw [encode_object_text, List.cons_append, scanValue_object, read]
  change Except.ok (Value.ofFields fields, rest) = _
  rw [ofFields_ascending ascending]

theorem refuses_nested (nested : 0 < v.depth) : Refuses (scanValue 0) v := by
  intro rest _
  cases v with
  | list items =>
      rw [encode_list]
      exact scanValue_nested (.inl rfl) _
  | object fields =>
      rw [encode_object_text]
      exact scanValue_nested (.inr rfl) _
  | null | bool | whole | double | string => cases nested

theorem refuses_list (exact : ∀ v ∈ items, v.IsExact)
    (told : ∀ v ∈ items, Reads (scanValue depth) v ∨ Refuses (scanValue depth) v)
    (refused : ∃ v ∈ items, Refuses (scanValue depth) v) :
    Refuses (scanValue (depth + 1)) (.list items) := by
  intro rest _
  obtain ⟨stop, failed, cause⟩ := scanItems_refused [] rest exact told refused
  change outcome (scanItems (scanValue depth) [] (itemsText true items ++ rest)) = _ at failed
  refine ⟨stop, ?_, cause⟩
  rw [encode_list, List.cons_append, scanValue_list, failed]
  rfl

theorem refuses_object
    (told : ∀ f ∈ fields, Reads (scanValue depth) f.2 ∨ Refuses (scanValue depth) f.2)
    (refused : ∃ f ∈ fields, Refuses (scanValue depth) f.2) :
    Refuses (scanValue (depth + 1)) (.object fields) := by
  intro rest _
  obtain ⟨stop, failed, cause⟩ := scanFields_refused [] rest told refused
  change outcome (scanFields (scanValue depth) [] (fieldsText true fields ++ rest)) = _ at failed
  refine ⟨stop, ?_, cause⟩
  rw [encode_object_text, List.cons_append, scanValue_object, failed]
  rfl

end

/-! ## Depth -/

/-- A value is read from its text by a reader that goes deep enough. -/
theorem reads_scanValue (exact : v.IsExact) (ordered : v.IsOrdered) (shallow : v.depth ≤ depth) :
    Reads (scanValue depth) v := by
  induction depth generalizing v with
  | zero => exact reads_leaf exact (Nat.le_zero.mp shallow) 0
  | succ depth ih =>
      cases v with
      | list items =>
          rw [isExact_list_iff] at exact
          rw [isOrdered_list_iff] at ordered
          have shallow := itemsDepth_le_iff.mp (Nat.le_of_succ_le_succ shallow)
          exact reads_list exact fun v member =>
            ih (exact v member) (ordered v member) (shallow v member)
      | object fields =>
          rw [isExact_object_iff] at exact
          obtain ⟨ascending, ordered⟩ := isOrdered_object_iff.mp ordered
          have shallow := fieldsDepth_le_iff.mp (Nat.le_of_succ_le_succ shallow)
          exact reads_object ascending fun f member =>
            ih (exact f member) (ordered f member) (shallow f member)
      | null | bool | whole | double | string => exact reads_leaf exact rfl _

theorem reads_or_refuses (exact : v.IsExact) (ordered : v.IsOrdered)
    (refuses : depth < v.depth → Refuses (scanValue depth) v) :
    Reads (scanValue depth) v ∨ Refuses (scanValue depth) v :=
  (Nat.lt_or_ge depth v.depth).elim (fun deep => .inr (refuses deep))
    (fun shallow => .inl (reads_scanValue exact ordered shallow))

/-- A reader that does not go deep enough stops inside the value. -/
theorem refuses_scanValue (exact : v.IsExact) (ordered : v.IsOrdered) (deep : depth < v.depth) :
    Refuses (scanValue depth) v := by
  induction depth generalizing v with
  | zero => exact refuses_nested deep
  | succ depth ih =>
      cases v with
      | list items =>
          rw [isExact_list_iff] at exact
          rw [isOrdered_list_iff] at ordered
          obtain ⟨v, member, deep⟩ := lt_itemsDepth_iff.mp (Nat.lt_of_succ_lt_succ deep)
          have told (w : Value) (member : w ∈ items) :=
            reads_or_refuses (exact w member) (ordered w member) (ih (exact w member) (ordered w member))
          exact refuses_list exact told ⟨v, member, ih (exact v member) (ordered v member) deep⟩
      | object fields =>
          rw [isExact_object_iff] at exact
          obtain ⟨_, ordered⟩ := isOrdered_object_iff.mp ordered
          obtain ⟨f, member, deep⟩ := lt_fieldsDepth_iff.mp (Nat.lt_of_succ_lt_succ deep)
          have told (g : String × Value) (member : g ∈ fields) :=
            reads_or_refuses (exact g member) (ordered g member) (ih (exact g member) (ordered g member))
          exact refuses_object told ⟨f, member, ih (exact f member) (ordered f member) deep⟩
      | null | bool | whole | double | string => cases deep

end WampClient.Json
