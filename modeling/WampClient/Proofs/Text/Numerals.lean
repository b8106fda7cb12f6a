import WampClient.Proofs.Text.Decode

/-! # Numerals

The characters of decimal and hexadecimal numerals, and their bytes.
-/

namespace WampClient

namespace Decimal

def digitByte (d : Nat) : UInt8 :=
  .ofNat (0x30 + d)

theorem encode_digitChar : ∀ {d : Nat}, d < 10 → String.utf8EncodeChar (digitChar d) = [digitByte d] := by
  decide

theorem digit?_digitByte : ∀ {d : Nat}, d < 10 → digit? (digitByte d) = some d := by
  decide

theorem encode_render (n : Nat) : Utf8.encode (render n) = (digits n).map digitByte := by
  have small : ∀ d ∈ digits n, d < 10 := fun d => lt_ten_of_mem_digits
  rw [render]
  generalize digits n = ds at small
  induction ds with
  | nil => rfl
  | cons d ds ih =>
      have rest := ih fun e member => small e (List.mem_cons_of_mem d member)
      simp only [Utf8.encode, List.map_cons, List.flatMap_cons] at rest ⊢
      rw [rest, encode_digitChar (small d List.mem_cons_self), List.singleton_append]

theorem digits_cases (n : Nat) : digits n = [0] ∨ ∃ d ds, digits n = (d + 1) :: ds := by
  fun_induction digits n with
  | case1 n small =>
      cases n with
      | zero => exact .inl rfl
      | succ d => exact .inr ⟨d, [], rfl⟩
  | case2 n large ih =>
      rcases ih with zero | ⟨d, ds, more⟩
      · have value := value_digits (n / 10)
        rw [zero, Decimal.value, List.foldl_cons, List.foldl_nil] at value
        omega
      · exact .inr ⟨d, ds ++ [n % 10], by rw [more, List.cons_append]⟩

theorem digits_eq_cons (n : Nat) : ∃ d ds, d < 10 ∧ digits n = d :: ds := by
  have small : ∀ d ∈ digits n, d < 10 := fun d => lt_ten_of_mem_digits
  rcases digits_cases n with zero | ⟨d, ds, more⟩
  · exact ⟨0, [], by decide, zero⟩
  · exact ⟨d + 1, ds, small _ (more ▸ List.mem_cons_self), more⟩

theorem mem_render {n : Nat} {c : Char} (member : c ∈ render n) : ∃ d, d < 10 ∧ c = digitChar d := by
  obtain ⟨d, digit, rfl⟩ := List.mem_map.mp member
  exact ⟨d, lt_ten_of_mem_digits digit, rfl⟩

theorem render_ne_nil (n : Nat) : render n ≠ [] := by
  obtain ⟨d, ds, _, written⟩ := digits_eq_cons n
  rw [render, written]
  exact List.cons_ne_nil _ _

theorem hexRender_ne_nil (n : Nat) : hexRender n ≠ [] := by
  rw [hexRender]
  split
  · exact List.cons_ne_nil _ _
  · exact List.append_ne_nil_of_right_ne_nil _ (List.cons_ne_nil _ _)

theorem mem_hexRender {n : Nat} {c : Char} (member : c ∈ hexRender n) : ∃ d, d < 16 ∧ c = hexChar d := by
  fun_induction hexRender n with
  | case1 n small => exact ⟨n, small, List.mem_singleton.mp member⟩
  | case2 n large ih =>
      rcases List.mem_append.mp member with member | member
      · exact ih member
      · exact ⟨n % 16, Nat.mod_lt _ (by decide), List.mem_singleton.mp member⟩

theorem length_hexRender {n k : Nat} (bounded : n < Nat.pow 16 (k + 1)) : (hexRender n).length ≤ k + 1 := by
  induction k generalizing n with
  | zero =>
      rw [hexRender, if_pos bounded]
      exact Nat.le_refl 1
  | succ k ih =>
      rw [hexRender]
      split
      · exact Nat.le_add_left 1 _
      · rw [List.length_append, List.length_singleton]
        refine Nat.succ_le_succ (ih ?_)
        exact Nat.div_lt_of_lt_mul (Nat.mul_comm _ 16 ▸ bounded)

end Decimal

end WampClient
