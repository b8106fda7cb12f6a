import WampClient.Json.Value

/-! # Values as trees

How deep a value is, what holds of all values in it, and when the fields of its objects are in the
order of their keys.
-/

namespace WampClient.Json

mutual

def Value.depth : Value → Nat
  | .null | .bool _ | .whole _ | .double _ | .string _ => 0
  | .list items => itemsDepth items + 1
  | .object fields => fieldsDepth fields + 1

def itemsDepth : List Value → Nat
  | [] => 0
  | v :: rest => max v.depth (itemsDepth rest)

def fieldsDepth : List (String × Value) → Nat
  | [] => 0
  | (_, v) :: rest => max v.depth (fieldsDepth rest)

end

mutual

/-- The value and all values in it are as `p` says. -/
def Value.Every (p : Value → Prop) : Value → Prop
  | .null => p .null
  | .bool b => p (.bool b)
  | .whole n => p (.whole n)
  | .double x => p (.double x)
  | .string s => p (.string s)
  | .list items => p (.list items) ∧ EveryItem p items
  | .object fields => p (.object fields) ∧ EveryField p fields

def EveryItem (p : Value → Prop) : List Value → Prop
  | [] => True
  | v :: rest => v.Every p ∧ EveryItem p rest

def EveryField (p : Value → Prop) : List (String × Value) → Prop
  | [] => True
  | (_, v) :: rest => v.Every p ∧ EveryField p rest

end

variable {p : Value → Prop} {v : Value} {items : List Value} {fields : List (String × Value)}
  {n : Nat}

theorem itemsDepth_le_iff : itemsDepth items ≤ n ↔ ∀ v ∈ items, v.depth ≤ n := by
  induction items with
  | nil => simp [itemsDepth]
  | cons v items ih => rw [itemsDepth, Nat.max_le, ih, List.forall_mem_cons]

theorem fieldsDepth_le_iff : fieldsDepth fields ≤ n ↔ ∀ f ∈ fields, f.2.depth ≤ n := by
  induction fields with
  | nil => simp [fieldsDepth]
  | cons f fields ih => rw [fieldsDepth, Nat.max_le, ih, List.forall_mem_cons]

theorem lt_itemsDepth_iff : n < itemsDepth items ↔ ∃ v ∈ items, n < v.depth := by
  induction items with
  | nil => simp [itemsDepth]
  | cons v items ih =>
      simp only [itemsDepth, List.mem_cons, exists_eq_or_imp, ← ih]
      omega

theorem lt_fieldsDepth_iff : n < fieldsDepth fields ↔ ∃ f ∈ fields, n < f.2.depth := by
  induction fields with
  | nil => simp [fieldsDepth]
  | cons f fields ih =>
      simp only [fieldsDepth, List.mem_cons, exists_eq_or_imp, ← ih]
      omega

theorem everyItem_iff : EveryItem p items ↔ ∀ v ∈ items, v.Every p := by
  induction items with
  | nil => simp [EveryItem]
  | cons v items ih => simp [EveryItem, ih]

theorem everyField_iff : EveryField p fields ↔ ∀ f ∈ fields, f.2.Every p := by
  induction fields with
  | nil => simp [EveryField]
  | cons f fields ih => simp [EveryField, ih]

theorem every_list_iff :
    (Value.list items).Every p ↔ p (.list items) ∧ ∀ v ∈ items, v.Every p := by
  rw [Value.Every, everyItem_iff]

theorem every_object_iff :
    (Value.object fields).Every p ↔ p (.object fields) ∧ ∀ f ∈ fields, f.2.Every p := by
  rw [Value.Every, everyField_iff]

/-- There is no double in the value. -/
def Value.IsExact (v : Value) : Prop :=
  v.Every fun w => ∀ x, w ≠ .double x

def Ascending (fields : List (String × Value)) : Prop :=
  fields.Pairwise fun f g => f.1 < g.1

/-- The fields of all objects in the value are in the order of their keys, each key once. -/
def Value.IsOrdered (v : Value) : Prop :=
  v.Every fun w => ∀ fields, w = .object fields → Ascending fields

theorem isExact_list_iff : (Value.list items).IsExact ↔ ∀ v ∈ items, v.IsExact := by
  simp [Value.IsExact, every_list_iff]

theorem isExact_object_iff : (Value.object fields).IsExact ↔ ∀ f ∈ fields, f.2.IsExact := by
  simp [Value.IsExact, every_object_iff]

theorem isOrdered_list_iff : (Value.list items).IsOrdered ↔ ∀ v ∈ items, v.IsOrdered := by
  simp [Value.IsOrdered, every_list_iff]

theorem isOrdered_object_iff :
    (Value.object fields).IsOrdered ↔ Ascending fields ∧ ∀ f ∈ fields, f.2.IsOrdered := by
  simp [Value.IsOrdered, every_object_iff]

/-! ## Putting fields in order -/

variable {key : String}

theorem mem_insertField {f : String × Value} (member : f ∈ insertField key v fields) :
    f = (key, v) ∨ f ∈ fields := by
  induction fields with
  | nil => exact .inl (List.mem_singleton.mp member)
  | cons g fields ih =>
      simp only [insertField] at member
      split at member
      · simpa only [List.mem_cons] using member
      · split at member
        · exact (List.mem_cons.mp member).imp_right (List.mem_cons_of_mem g)
        · rcases List.mem_cons.mp member with rfl | member
          · exact .inr List.mem_cons_self
          · exact (ih member).imp_right (List.mem_cons_of_mem g)

theorem Ascending.insertField (ascending : Ascending fields) :
    Ascending (insertField key v fields) := by
  induction fields with
  | nil => exact List.pairwise_singleton _ _
  | cons g fields ih =>
      obtain ⟨first, more⟩ := List.pairwise_cons.mp ascending
      simp only [Json.insertField]
      split
      · rename_i before
        refine List.pairwise_cons.mpr ⟨?_, ascending⟩
        intro f member
        rcases List.mem_cons.mp member with rfl | member
        · exact before
        · exact String.lt_trans before (first f member)
      · split
        · rename_i same
          exact List.pairwise_cons.mpr ⟨fun f member => same ▸ first f member, more⟩
        · rename_i notBefore other
          refine List.pairwise_cons.mpr ⟨?_, ih more⟩
          intro f member
          rcases mem_insertField member with rfl | member
          · exact Std.lt_of_le_of_ne (String.not_lt.mp notBefore) (Ne.symm other)
          · exact first f member

theorem insertField_last (last : ∀ f ∈ fields, f.1 < key) :
    insertField key v fields = fields ++ [(key, v)] := by
  induction fields with
  | nil => rfl
  | cons g fields ih =>
      have before : g.1 < key := last g List.mem_cons_self
      have other : key ≠ g.1 := fun same => String.lt_irrefl key (same ▸ before)
      simp only [insertField, if_neg (String.lt_asymm before), if_neg other,
        ih fun f member => last f (List.mem_cons_of_mem g member), List.cons_append]

theorem ofFields_ascending (ascending : Ascending fields) : Value.ofFields fields = .object fields := by
  have insert_all (done more : List (String × Value)) (ascending : Ascending (done ++ more)) :
      more.foldl (fun all f => insertField f.1 f.2 all) done = done ++ more := by
    induction more generalizing done with
    | nil => exact (List.append_nil done).symm
    | cons f more ih =>
        have last : ∀ g ∈ done, g.1 < f.1 := fun g member =>
          (List.pairwise_append.mp ascending).2.2 g member f List.mem_cons_self
        rw [List.foldl_cons, insertField_last last]
        simpa only [List.append_assoc, List.singleton_append] using ih (done ++ [f])
          (by simpa only [List.append_assoc, List.singleton_append] using ascending)
  rw [Value.ofFields, insert_all [] fields ascending, List.nil_append]

theorem ofFields_sound (fields : List (String × Value)) :
    ∃ all, Value.ofFields fields = .object all ∧ Ascending all ∧ ∀ f ∈ all, f ∈ fields := by
  have insert_all (done more : List (String × Value)) (ascending : Ascending done) :
      Ascending (more.foldl (fun all f => insertField f.1 f.2 all) done) ∧
        ∀ f ∈ more.foldl (fun all f => insertField f.1 f.2 all) done, f ∈ done ∨ f ∈ more := by
    induction more generalizing done with
    | nil => exact ⟨ascending, fun f member => .inl member⟩
    | cons g more ih =>
        obtain ⟨sorted, from_one⟩ := ih (insertField g.1 g.2 done) ascending.insertField
        refine ⟨sorted, fun f member => ?_⟩
        rcases from_one f member with member | member
        · rcases mem_insertField member with rfl | member
          · exact .inr List.mem_cons_self
          · exact .inl member
        · exact .inr (List.mem_cons_of_mem g member)
  obtain ⟨sorted, from_one⟩ := insert_all [] fields List.Pairwise.nil
  exact ⟨_, rfl, sorted, fun f member => (from_one f member).resolve_left (List.not_mem_nil)⟩

end WampClient.Json
