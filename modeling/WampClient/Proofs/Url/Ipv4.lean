import WampClient.Proofs.Text.Numerals
import WampClient.Proofs.Text.Pieces
import WampClient.Url.Ipv4

/-! # IPv4 addresses read back

The text of an address ends in a number and is read as that address.
-/

namespace WampClient.Url

open Decimal (digitChar hexChar)
open Text (FreeOf)

/-! ## Numbers -/

theorem digitOf?_digitChar : ∀ {d : Nat}, d < 10 → digitOf? (digitChar d) = some d := by
  decide

theorem digitOf?_hexChar : ∀ {d : Nat}, d < 16 → digitOf? (hexChar d) = some d := by
  decide

theorem numberIn?_append {base n d : Nat} {text : List Char} {c : Char}
    (front : numberIn? base text = some n) (last : digitOf? c = some d) (digit : d < base) :
    numberIn? base (text ++ [c]) = some (n * base + d) := by
  rw [numberIn?] at front
  rw [numberIn?, List.foldl_append, front, List.foldl_cons, List.foldl_nil, last]
  exact if_pos digit

theorem numberIn?_singleton {base d : Nat} {c : Char} (only : digitOf? c = some d) (digit : d < base) :
    numberIn? base [c] = some d := by
  have read : numberIn? base ([] ++ [c]) = some (0 * base + d) := numberIn?_append rfl only digit
  rwa [Nat.zero_mul, Nat.zero_add] at read

theorem numberIn?_render (n : Nat) : numberIn? 10 (Decimal.render n) = some n := by
  rw [Decimal.render]
  fun_induction Decimal.digits n with
  | case1 n small => exact numberIn?_singleton (digitOf?_digitChar small) small
  | case2 n large ih =>
      have small : n % 10 < 10 := Nat.mod_lt _ (by decide)
      rw [List.map_append, List.map_singleton, numberIn?_append ih (digitOf?_digitChar small) small]
      exact congrArg some (Nat.div_add_mod' n 10)

theorem numberIn?_hexRender (n : Nat) : numberIn? 16 (Decimal.hexRender n) = some n := by
  fun_induction Decimal.hexRender n with
  | case1 n small => exact numberIn?_singleton (digitOf?_hexChar small) small
  | case2 n large ih =>
      have small : n % 16 < 16 := Nat.mod_lt _ (by decide)
      rw [numberIn?_append ih (digitOf?_hexChar small) small]
      exact congrArg some (Nat.div_add_mod' n 16)

/-- Only a number that begins with a zero may be anything but decimal. -/
theorem ipv4Number?_decimal {c : Char} (noZero : c ≠ '0') (digits : List Char) :
    ipv4Number? (c :: digits) = numberIn? 10 (c :: digits) := by
  unfold ipv4Number?
  split
  · contradiction
  · rename_i same
    exact absurd (List.cons.inj same).1 noZero
  · rename_i same
    exact absurd (List.cons.inj same).1 noZero
  · rename_i same
    exact absurd (List.cons.inj same).1 noZero
  · rfl

theorem ipv4Number?_render (n : Nat) : ipv4Number? (Decimal.render n) = some n := by
  have read := numberIn?_render n
  rw [Decimal.render] at read ⊢
  rcases Decimal.digits_cases n with zero | ⟨d, ds, more⟩
  · rw [zero] at read ⊢
    exact read
  · have small : d + 1 < 10 := Decimal.lt_ten_of_mem_digits (n := n) (more ▸ List.mem_cons_self)
    have noZero : ∀ d, d + 1 < 10 → digitChar (d + 1) ≠ '0' := by
      intro d small
      have all : ∀ k, k < 10 → k ≠ 0 → digitChar k ≠ '0' := by decide
      exact all (d + 1) small (Nat.succ_ne_zero d)
    rw [more] at read ⊢
    rw [List.map_cons] at read ⊢
    rw [ipv4Number?_decimal (noZero d small), read]

namespace Ipv4

variable (a : Ipv4)

theorem mem_render {c : Char} (member : c ∈ a.render) : c = '.' ∨ ∃ d, d < 10 ∧ c = digitChar d := by
  rcases Text.mem_joinWith member with point | ⟨part, inParts, inPart⟩
  · exact .inl point
  · obtain ⟨n, _, rfl⟩ := List.mem_map.mp inParts
    exact .inr (Decimal.mem_render inPart)

theorem splitBy_render : Text.splitBy (· = '.') a.render = a.bytes.map Decimal.render := by
  refine Text.splitBy_joinWith (decide_eq_true rfl) (by simp [bytes]) ?_
  intro part member c inPart
  obtain ⟨n, _, rfl⟩ := List.mem_map.mp member
  obtain ⟨d, digit, rfl⟩ := Decimal.mem_render inPart
  have noPoint : ∀ d, d < 10 → decide (digitChar d = '.') = false := by decide
  exact noPoint d digit

theorem render_ne_nil : a.render ≠ [] := by
  intro empty
  have parts := congrArg List.length a.splitBy_render
  rw [empty] at parts
  cases parts

theorem ipv4Parts_render : ipv4Parts a.render = a.bytes.map Decimal.render := by
  unfold ipv4Parts
  rw [splitBy_render]
  dsimp only [bytes, List.map_cons, List.map_nil]
  split
  · rename_i same
    exact absurd (List.cons.inj same).1 (Decimal.render_ne_nil _)
  · rfl

theorem endsInNumber_render : endsInNumber a.render = true := by
  rw [endsInNumber, ipv4Parts_render]
  dsimp only [bytes, List.map_cons, List.map_nil]
  change (_ || (ipv4Number? (Decimal.render _)).isSome) = true
  rw [ipv4Number?_render, Option.isSome_some, Bool.or_true]

theorem ofNumbers?_bytes : ofNumbers? a.bytes = some a := by
  obtain ⟨value⟩ := a
  have bounded := value.toNat_lt
  have whole : ((value.toNat / 0x1000000 % 256 * 256 + value.toNat / 0x10000 % 256) * 256 +
      value.toNat / 0x100 % 256) * 256 + value.toNat % 256 = value.toNat := by
    omega
  have small (n : Nat) : n % 256 < 256 := Nat.mod_lt n (by decide)
  simp [ofNumbers?, bytes, whole, small]

theorem parse?_render : parse? a.render = some a := by
  have numbers : (a.bytes.map Decimal.render).mapM ipv4Number? = some a.bytes := by
    simp only [bytes, List.map_cons, List.map_nil, List.mapM_cons, List.mapM_nil, ipv4Number?_render]
    rfl
  rw [parse?, ipv4Parts_render, numbers, Option.bind_some, ofNumbers?_bytes]

end Ipv4

end WampClient.Url
