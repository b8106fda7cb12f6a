import WampClient.Proofs.Text.Numerals
import WampClient.Url.Parser

/-! # Ports in addresses -/

namespace WampClient.Url

open Decimal (digitChar)

variable {text : List Char} {n : Nat}

theorem portNumber?_append (text : List Char) (c : Char) : portNumber? (text ++ [c]) =
    (portNumber? text).bind fun n =>
      if '0' ≤ c ∧ c ≤ '9' then
        if n * 10 + (c.toNat - 0x30) < 0x1_0000 then some (n * 10 + (c.toNat - 0x30)) else none
      else none := by
  rw [portNumber?, List.foldl_append]
  rfl

theorem portNumber?_render (bounded : n < 0x1_0000) : portNumber? (Decimal.render n) = some n := by
  have digit : ∀ d, d < 10 → ('0' ≤ digitChar d ∧ digitChar d ≤ '9') ∧ (digitChar d).toNat - 0x30 = d := by
    decide
  rw [Decimal.render]
  fun_induction Decimal.digits n with
  | case1 n small =>
      change portNumber? ([] ++ [digitChar n]) = _
      rw [portNumber?_append, (digit n small).2]
      exact (if_pos (digit n small).1).trans (by rw [Nat.zero_mul, Nat.zero_add, if_pos bounded])
  | case2 n large ih =>
      have last := digit (n % 10) (Nat.mod_lt n (by decide))
      rw [List.map_append, List.map_singleton, portNumber?_append, ih (by omega), Option.bind_some,
        if_pos last.1, last.2, Nat.div_add_mod', if_pos bounded]

theorem portNumber?_sound (read : portNumber? text = some n) :
    ∃ ds, (∀ d ∈ ds, d < 10) ∧ text = ds.map digitChar ∧ Decimal.value ds = n ∧ n < 0x1_0000 := by
  induction length : text.length generalizing text n with
  | zero =>
      cases List.length_eq_zero_iff.mp length
      cases read
      exact ⟨[], List.forall_mem_nil _, rfl, rfl, by decide⟩
  | succ k ih =>
      rcases List.eq_nil_or_concat text with rfl | ⟨front, c, rfl⟩
      · cases length
      · rw [List.concat_eq_append] at read length ⊢
        rw [portNumber?_append] at read
        obtain ⟨m, before, read⟩ := Option.bind_eq_some_iff.mp read
        split at read
        · rename_i digit
          split at read
          · rename_i bounded
            cases read
            obtain ⟨ds, small, rfl, value, _⟩ := ih before (by simpa using length)
            have low : 0x30 ≤ c.toNat := digit.1
            have high : c.toNat ≤ 0x39 := digit.2
            have same : digitChar (c.toNat - 0x30) = c := by
              rw [digitChar, Nat.add_sub_cancel' low, Char.ofNat_toNat]
            refine ⟨ds ++ [c.toNat - 0x30], ?_, ?_, ?_, bounded⟩
            · exact List.forall_mem_append.mpr ⟨small, List.forall_mem_singleton.mpr (by omega)⟩
            · rw [List.map_append, List.map_singleton, same]
            · rw [Decimal.value_append_singleton, value]
          · cases read
        · cases read

theorem parsePort_render {port defaultPort : UInt16} (other : port ≠ defaultPort) :
    parsePort defaultPort (Decimal.render port.toNat) = .ok (some port) := by
  have full : (Decimal.render port.toNat).isEmpty = false :=
    List.isEmpty_eq_false_iff.mpr (Decimal.render_ne_nil _)
  simp [parsePort, portNumber?_render port.toNat_lt, full, other]

theorem parsePort_sound {port : Option UInt16} {defaultPort : UInt16}
    (read : parsePort defaultPort text = .ok port) :
    port ≠ some defaultPort ∧ ∃ ds, (∀ d ∈ ds, d < 10) ∧ text = ds.map digitChar ∧
      (port.getD defaultPort).toNat = if ds = [] then defaultPort.toNat else Decimal.value ds := by
  unfold parsePort at read
  split at read
  · cases read
  · rename_i n number
    obtain ⟨ds, small, rfl, value, bounded⟩ := portNumber?_sound number
    have whole : (UInt16.ofNat n).toNat = n := UInt16.toNat_ofNat_of_lt' bounded
    split at read
    · rename_i default
      cases read
      refine ⟨(Option.some_ne_none _).symm, ds, small, rfl, ?_⟩
      split
      · rfl
      · rename_i some_digit
        have same := default.resolve_left (by simpa using some_digit)
        rw [Option.getD_none, ← same, whole, value]
    · rename_i kept
      cases read
      obtain ⟨some_digit, other⟩ := not_or.mp kept
      refine ⟨fun same => other (Option.some.inj same), ds, small, rfl, ?_⟩
      rw [if_neg (by simpa using some_digit), Option.getD_some, whole, value]

end WampClient.Url
