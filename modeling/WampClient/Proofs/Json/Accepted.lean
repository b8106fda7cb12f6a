import WampClient.Json.Reader
import WampClient.Proofs.Json.Values

/-! # What is read

Every value that a reader gives has the fields of its objects in order, and is nested no deeper than
the reader goes.
-/

namespace WampClient.Json

open Bytes (Tail Rest)

theorem map_eq_ok {ε α β : Type} {x : Except ε α} {f : α → β} {b : β} :
    x.map f = .ok b ↔ ∃ a, x = .ok a ∧ f a = b := by
  cases x <;> simp [Except.map]

theorem readAll_eq_ok {α : Type} {scan : Scanner α} {text : Bytes} {a : α}
    (read : readAll scan text = .ok a) : ∃ r, scan text = .ok (a, r) := by
  unfold readAll at read
  split at read
  · cases read
  · rename_i scanned
    split at read
    · cases read
    · cases read
      exact ⟨_, scanned⟩

variable {item : Scanner Value} {p : Value → Prop} {v : Value} {s : Bytes} {depth : Nat}

theorem scanItems_sound (sound : ∀ s v r, item s = .ok (v, r) → p v) {done items : List Value}
    {r : Rest s} (scanned : scanItems item done s = .ok (items, r)) (before : ∀ v ∈ done, p v) :
    ∀ v ∈ items, p v := by
  induction length : s.length using Nat.strongRecOn generalizing done s items r with
  | ind n ih =>
      rw [scanItems] at scanned
      split at scanned
      · cases scanned
      · split at scanned
        · cases scanned
        · cases scanned
          exact fun v member => before v (List.mem_reverse.mp member)
      · rename_i t ht _
        split at scanned
        · cases scanned
        · rename_i w u hu read
          split at scanned
          · cases scanned
          · rename_i more
            cases scanned
            refine ih u.length (by omega) more ?_ rfl
            intro v member
            rcases List.mem_cons.mp member with rfl | member
            · exact sound _ _ _ read
            · exact before v member

theorem scanFields_sound (sound : ∀ s v r, item s = .ok (v, r) → p v)
    {done fields : List (String × Value)} {r : Rest s}
    (scanned : scanFields item done s = .ok (fields, r)) (before : ∀ f ∈ done, p f.2) :
    ∀ f ∈ fields, p f.2 := by
  induction length : s.length using Nat.strongRecOn generalizing done s fields r with
  | ind n ih =>
      rw [scanFields] at scanned
      split at scanned
      · cases scanned
      · split at scanned
        · cases scanned
        · cases scanned
          exact fun f member => before f (List.mem_reverse.mp member)
      · split at scanned
        · cases scanned
        · split at scanned
          · cases scanned
          · rename_i w _ read
            split at scanned
            · cases scanned
            · rename_i more
              cases scanned
              refine ih w.length (by omega) more ?_ rfl
              intro f member
              rcases List.mem_cons.mp member with rfl | member
              · exact sound _ _ _ read
              · exact before f member

theorem ofNumber_leaf (n : Whole ⊕ Double) : (Value.ofNumber n).depth = 0 := by
  cases n <;> rfl

theorem leaf_of_map {α : Type} {x : Except Stop α} {f : α → Value × Tail s} {r : Tail s}
    (leaf : ∀ a, (f a).1.depth = 0) (scanned : x.map f = .ok (v, r)) : v.depth = 0 := by
  obtain ⟨a, _, same⟩ := map_eq_ok.mp scanned
  have given := leaf a
  rw [same] at given
  exact given

theorem scanLeaf_leaf {b : UInt8} {r : Tail s} (scanned : scanLeaf b s = .ok (v, r)) :
    v.depth = 0 := by
  unfold scanLeaf at scanned
  split at scanned
  · exact leaf_of_map (fun _ => rfl) scanned
  · split at scanned
    · exact leaf_of_map (fun _ => rfl) scanned
    · split at scanned
      · exact leaf_of_map (fun _ => rfl) scanned
      · split at scanned
        · exact leaf_of_map (fun _ => rfl) scanned
        · split at scanned
          · exact leaf_of_map (fun found => ofNumber_leaf found.1) scanned
          · split at scanned
            · exact leaf_of_map (fun found => ofNumber_leaf found.1) scanned
            · cases scanned

/-- What is read is a leaf, or was read with less depth between brackets or braces. -/
theorem scanValue_cases {r : Rest s} (scanned : scanValue depth s = .ok (v, r)) :
    v.depth = 0 ∨ ∃ (below : Nat) (t : Bytes), depth = below + 1 ∧
      ((∃ (items : List Value) (q : Rest t),
          scanItems (scanValue below) [] t = .ok (items, q) ∧ v = .list items) ∨
        ∃ (fields : List (String × Value)) (q : Rest t),
          scanFields (scanValue below) [] t = .ok (fields, q) ∧ v = .ofFields fields) := by
  cases depth with
  | zero =>
      rw [scanValue] at scanned
      split at scanned
      · cases scanned
      · split at scanned
        · cases scanned
        · split at scanned
          · cases scanned
          · obtain ⟨_, read, same⟩ := map_eq_ok.mp scanned
            cases same
            exact .inl (scanLeaf_leaf read)
  | succ below =>
      rw [scanValue] at scanned
      split at scanned
      · cases scanned
      · split at scanned
        · obtain ⟨_, read, same⟩ := map_eq_ok.mp scanned
          cases same
          exact .inr ⟨below, _, rfl, .inl ⟨_, _, read, rfl⟩⟩
        · split at scanned
          · obtain ⟨_, read, same⟩ := map_eq_ok.mp scanned
            cases same
            exact .inr ⟨below, _, rfl, .inr ⟨_, _, read, rfl⟩⟩
          · obtain ⟨_, read, same⟩ := map_eq_ok.mp scanned
            cases same
            exact .inl (scanLeaf_leaf read)

theorem isOrdered_leaf (leaf : v.depth = 0) : v.IsOrdered := by
  cases v with
  | list | object => cases leaf
  | null | bool | whole | double | string => rintro fields ⟨⟩

structure Orderly (depth : Nat) (v : Value) : Prop where
  ordered : v.IsOrdered
  shallow : v.depth ≤ depth

theorem Orderly.list {items : List Value} (orderly : ∀ v ∈ items, Orderly depth v) :
    Orderly (depth + 1) (.list items) :=
  ⟨isOrdered_list_iff.mpr fun v member => (orderly v member).ordered,
    Nat.succ_le_succ (itemsDepth_le_iff.mpr fun v member => (orderly v member).shallow)⟩

theorem Orderly.ofFields {fields : List (String × Value)}
    (orderly : ∀ f ∈ fields, Orderly depth f.2) : Orderly (depth + 1) (.ofFields fields) := by
  obtain ⟨all, collected, ascending, given⟩ := ofFields_sound fields
  rw [collected]
  exact ⟨isOrdered_object_iff.mpr ⟨ascending, fun f member => (orderly f (given f member)).ordered⟩,
    Nat.succ_le_succ (fieldsDepth_le_iff.mpr fun f member => (orderly f (given f member)).shallow)⟩

theorem Orderly.leaf (leaf : v.depth = 0) : Orderly depth v :=
  ⟨isOrdered_leaf leaf, leaf ▸ Nat.zero_le depth⟩

/-- Whatever a reader accepts is in order: the fields of an object are put in their places as they
    are read. -/
theorem scanValue_orderly {r : Rest s} (scanned : scanValue depth s = .ok (v, r)) :
    Orderly depth v := by
  induction depth generalizing s v with
  | zero =>
      rcases scanValue_cases scanned with leaf | ⟨_, _, ⟨⟩, _⟩
      exact .leaf leaf
  | succ depth ih =>
      rcases scanValue_cases scanned with leaf | ⟨_, _, ⟨⟩, ⟨items, _, read, rfl⟩ | ⟨fields, _, read, rfl⟩⟩
      · exact .leaf leaf
      · exact .list (scanItems_sound (fun _ _ _ => ih) read (List.forall_mem_nil _))
      · exact .ofFields (scanFields_sound (fun _ _ _ => ih) read (List.forall_mem_nil _))

theorem parseList_orderly {text : Bytes} {items : List Value}
    (read : parseList text = .ok items) : Orderly maxDepth (.list items) := by
  obtain ⟨r, scanned⟩ := readAll_eq_ok read
  unfold scanList at scanned
  split at scanned
  · cases scanned
  · split at scanned
    · obtain ⟨_, found, same⟩ := map_eq_ok.mp scanned
      cases same
      exact .list (scanItems_sound (fun _ _ _ => scanValue_orderly) found (List.forall_mem_nil _))
    · cases scanned

end WampClient.Json
