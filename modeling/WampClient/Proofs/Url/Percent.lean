import WampClient.Proofs.Text.Decode
import WampClient.Proofs.Text.Pieces
import WampClient.Url.Percent

/-! # Escaped text

Escaping leaves nothing to escape, so escaping once more changes nothing. Text without a percent
sign is not changed by resolving escapes.
-/

namespace WampClient

namespace Utf8

variable {c : Char} {text : List Char}

theorem encodeChar_ascii (ascii : c.toNat < 0x80) : String.utf8EncodeChar c = [UInt8.ofNat c.toNat] :=
  if_pos (Nat.le_of_lt_succ ascii)

theorem encode_ascii (ascii : ∀ c ∈ text, c.toNat < 0x80) :
    encode text = text.map fun c => UInt8.ofNat c.toNat := by
  induction text with
  | nil => rfl
  | cons c text ih =>
      obtain ⟨first, more⟩ := List.forall_mem_cons.mp ascii
      rw [encode_cons, encodeChar_ascii first, ih more]
      rfl

end Utf8

namespace Url

open Text (FreeOf)

variable {set : Char → Bool} {c : Char} {text : List Char}

/-- The characters that escapes are made of. -/
def escapeChars : List Char :=
  ['%', '0', '1', '2', '3', '4', '5', '6', '7', '8', '9', 'A', 'B', 'C', 'D', 'E', 'F']

theorem mem_escapeByte (b : UInt8) : ∀ c ∈ escapeByte b, c ∈ escapeChars := by
  have digit : ∀ d, d < 16 → upperHexChar d ∈ escapeChars := by decide
  have high : b.toNat / 16 < 16 := Nat.div_lt_of_lt_mul b.toNat_lt
  have low : b.toNat % 16 < 16 := Nat.mod_lt _ (by decide)
  simp only [escapeByte, List.forall_mem_cons]
  exact ⟨by decide, digit _ high, digit _ low, List.forall_mem_nil _⟩

/-- No character of an escaped text has to be escaped. -/
theorem percentEncode_free (escapes : FreeOf set escapeChars) (text : List Char) :
    FreeOf set (percentEncode set text) := by
  intro c member
  obtain ⟨d, _, member⟩ := List.mem_flatMap.mp member
  split at member
  · obtain ⟨b, _, member⟩ := List.mem_flatMap.mp member
    exact escapes c (mem_escapeByte b c member)
  · rename_i plain
    cases List.mem_singleton.mp member
    exact Bool.eq_false_iff.mpr plain

/-- What stays out of the escapes stays out of the escaped text, if it is not in the text. -/
theorem percentEncode_free_of {other : Char → Bool} (escapes : FreeOf other escapeChars)
    (free : FreeOf other text) : FreeOf other (percentEncode set text) := by
  intro c member
  obtain ⟨d, inText, member⟩ := List.mem_flatMap.mp member
  split at member
  · obtain ⟨b, _, member⟩ := List.mem_flatMap.mp member
    exact escapes c (mem_escapeByte b c member)
  · cases List.mem_singleton.mp member
    exact free c inText

theorem percentEncode_of_free (free : FreeOf set text) : percentEncode set text = text := by
  induction text with
  | nil => rfl
  | cons c text ih =>
      obtain ⟨first, more⟩ := Text.freeOf_cons.mp free
      have rest : percentEncode set text = text := ih more
      rw [percentEncode] at rest ⊢
      rw [List.flatMap_cons, rest, first]
      rfl

theorem percentDecode_plain {s : Bytes} (plain : ∀ b ∈ s, b ≠ 0x25) : percentDecode s = s := by
  fun_induction percentDecode s with
  | case1 | case2 => exact absurd rfl (plain 0x25 List.mem_cons_self)
  | case3 b rest _ ih => rw [ih fun c member => plain c (List.mem_cons_of_mem b member)]
  | case4 => rfl

theorem decode_plain (ascii : ∀ c ∈ text, c.toNat < 0x80) (plain : '%' ∉ text) :
    Utf8.decode (percentDecode (Utf8.encode text)) = .ok text := by
  have noPercent : ∀ b ∈ Utf8.encode text, b ≠ 0x25 := by
    rw [Utf8.encode_ascii ascii]
    rintro b member rfl
    obtain ⟨c, inText, same⟩ := List.mem_map.mp member
    have small := ascii c inText
    have code : c.toNat = 0x25 := by
      have := congrArg UInt8.toNat same
      rw [Utf8.toNat_ofNat (by omega)] at this
      exact this
    exact plain (Char.toNat_inj.mp (show c.toNat = '%'.toNat from code) ▸ inText)
  rw [percentDecode_plain noPercent, Utf8.decode_encode]

/-! ## What need not be escaped -/

/-- A character of ASCII that is neither a control nor a space. -/
def IsVisible (c : Char) : Prop :=
  0x20 < c.toNat ∧ c.toNat ≤ 0x7E

instance (c : Char) : Decidable (IsVisible c) :=
  inferInstanceAs (Decidable (_ ∧ _))

theorem isVisible_of_not_control (plain : isControl c = false) (noSpace : c ≠ ' ') : IsVisible c := by
  simp only [isControl, Bool.or_eq_false_iff, decide_eq_false_iff_not] at plain
  have other : c.toNat ≠ 0x20 := fun same => noSpace (Char.toNat_inj.mp same)
  rw [IsVisible]
  omega

theorem isVisible_of_fragment (plain : inFragmentSet c = false) : IsVisible c := by
  simp only [inFragmentSet, Bool.or_eq_false_iff] at plain
  refine isVisible_of_not_control plain.1 ?_
  rintro rfl
  exact absurd plain.2 (by decide)

theorem isVisible_of_query (plain : inQuerySet c = false) : IsVisible c := by
  simp only [inQuerySet, Bool.or_eq_false_iff] at plain
  refine isVisible_of_not_control plain.1 ?_
  rintro rfl
  exact absurd plain.2 (by decide)

theorem fragment_of_path (plain : inPathSet c = false) : inFragmentSet c = false :=
  ((Bool.or_eq_false_iff).mp plain).1

theorem path_of_userinfo (plain : inUserinfoSet c = false) : inPathSet c = false :=
  ((Bool.or_eq_false_iff).mp plain).1

theorem isVisible_of_path (plain : inPathSet c = false) : IsVisible c :=
  isVisible_of_fragment (fragment_of_path plain)

end Url

end WampClient
