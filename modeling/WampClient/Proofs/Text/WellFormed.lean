import WampClient.Proofs.Text.Decode

/-! # Which bytes are text

Bytes are text when they are a row of sequences, each of which stands for one scalar value in its
shortest form. Where other bytes are refused, all bytes before that place are text, and no longer
part from the front is.
-/

namespace WampClient.Utf8

/-- The sequences that stand for one scalar value. The bounds of the second byte shut out overlong
    forms, surrogates and values above U+10FFFF. -/
inductive IsSequence : Bytes → Prop where
  | one {b : UInt8} (ascii : b ≤ 0x7F) : IsSequence [b]
  | two {b c : UInt8} (lead : 0xC2 ≤ b ∧ b ≤ 0xDF) (second : IsTail c) : IsSequence [b, c]
  | three {b c d : UInt8} (lead : 0xE0 ≤ b ∧ b ≤ 0xEF) (second : IsTail c) (third : IsTail d)
      (long : b = 0xE0 → 0xA0 ≤ c) (scalar : b = 0xED → c ≤ 0x9F) : IsSequence [b, c, d]
  | four {b c d e : UInt8} (lead : 0xF0 ≤ b ∧ b ≤ 0xF4) (second : IsTail c) (third : IsTail d)
      (fourth : IsTail e) (long : b = 0xF0 → 0x90 ≤ c) (scalar : b = 0xF4 → c ≤ 0x8F) :
      IsSequence [b, c, d, e]

/-- Nothing but sequences of scalar values, one behind the other. -/
inductive IsWellFormed : Bytes → Prop where
  | nil : IsWellFormed []
  | cons {s rest : Bytes} (first : IsSequence s) (more : IsWellFormed rest) :
      IsWellFormed (s ++ rest)

/-! ## Sequences and scalar values -/

theorem IsSequence.exists_char {s : Bytes} (sequence : IsSequence s) :
    ∃ c, String.utf8EncodeChar c = s := by
  cases sequence with
  | @one b ascii =>
      rw [UInt8.le_iff_toNat_le] at ascii
      simp only [UInt8.reduceToNat] at ascii
      refine ⟨Char.ofNat b.toNat, ?_⟩
      rw [encode_ofNat (.inl (by omega)), if_pos ascii, UInt8.ofNat_toNat]
  | two lead second =>
      simp only [UInt8.le_iff_toNat_le, UInt8.reduceToNat] at lead
      exact ⟨_, encode_two (by omega) second⟩
  | three lead second third long scalar =>
      simp only [UInt8.le_iff_toNat_le, UInt8.reduceToNat] at lead long scalar
      exact ⟨_, encode_three (by omega) long scalar second third⟩
  | four lead second third fourth long scalar =>
      simp only [UInt8.le_iff_toNat_le, UInt8.reduceToNat] at lead long scalar
      exact ⟨_, encode_four (by omega) long scalar second third fourth⟩

theorem isSequence_encodeChar (c : Char) : IsSequence (String.utf8EncodeChar c) := by
  have valid : c.toNat.isValidChar := c.valid
  rw [← Char.ofNat_toNat c, encode_ofNat valid]
  generalize c.toNat = v at valid
  unfold Nat.isValidChar at valid
  have byte (k : Nat) (small : k < 256) := toNat_ofNat small
  split
  · refine .one ?_
    simp only [UInt8.le_iff_toNat_le, byte v (by omega), UInt8.reduceToNat]
    omega
  · split
    · refine .two ?_ (isTail_ofNat v)
      simp only [UInt8.le_iff_toNat_le, byte (v / 64 % 32 + 0xC0) (by omega), UInt8.reduceToNat]
      omega
    · split
      · refine .three ?_ (isTail_ofNat (v / 64)) (isTail_ofNat v) ?_ ?_ <;>
          simp only [← UInt8.toNat_inj, UInt8.le_iff_toNat_le, UInt8.reduceToNat,
            byte (v / 4096 % 16 + 0xE0) (by omega), byte (v / 64 % 64 + 0x80) (by omega)] <;>
          omega
      · refine .four ?_ (isTail_ofNat (v / 4096)) (isTail_ofNat (v / 64)) (isTail_ofNat v) ?_ ?_ <;>
          simp only [← UInt8.toNat_inj, UInt8.le_iff_toNat_le, UInt8.reduceToNat,
            byte (v / 262144 % 8 + 0xF0) (by omega), byte (v / 4096 % 64 + 0x80) (by omega)] <;>
          omega

/-- The bytes of texts are the well-formed ones. The grammar says nothing of reading or writing, so
    it can stand for both: what is accepted, and what is sent. -/
theorem isWellFormed_iff_exists_encode {s : Bytes} :
    IsWellFormed s ↔ ∃ text, encode text = s := by
  constructor
  · intro wellFormed
    induction wellFormed with
    | nil => exact ⟨[], rfl⟩
    | cons first _ ih =>
        obtain ⟨c, rfl⟩ := first.exists_char
        obtain ⟨text, rfl⟩ := ih
        exact ⟨c :: text, encode_cons c text⟩
  · rintro ⟨text, rfl⟩
    induction text with
    | nil => exact .nil
    | cons c text ih =>
        rw [encode_cons]
        exact .cons (isSequence_encodeChar c) ih

theorem decode_eq_ok_iff {s : Bytes} {text : List Char} : decode s = .ok text ↔ encode text = s :=
  ⟨encode_of_decode, fun written => written ▸ decode_encode text⟩

theorem exists_decode_iff {s : Bytes} : (∃ text, decode s = .ok text) ↔ IsWellFormed s := by
  simp only [decode_eq_ok_iff, isWellFormed_iff_exists_encode]

/-! ## Where reading stops -/

/-- The first `n` bytes are text, and no longer part from the front is. -/
structure EndsText (s : Bytes) (n : Nat) : Prop where
  within : n ≤ s.length
  wellFormed : IsWellFormed (s.take n)
  longest (m : Nat) (within : m ≤ s.length) (wellFormed : IsWellFormed (s.take m)) : m ≤ n

/-- Text at the front is passed, whatever comes behind it. -/
theorem decodeFrom_append (before text : List Char) (index : Nat) (rest : Bytes) :
    decodeFrom before index (encode text ++ rest) =
      decodeFrom (text.reverse ++ before) (index + (encode text).length) rest := by
  induction text generalizing before index with
  | nil => rfl
  | cons c text ih =>
      obtain ⟨b, s, whole, ⟨r, bound⟩, read, (rfl : r = _)⟩ := first_complete c (encode text ++ rest)
      rw [encode_cons, List.append_assoc, whole, decodeFrom, read]
      simp only [ih, List.reverse_cons, List.append_assoc, List.singleton_append, List.length_append,
        String.length_utf8EncodeChar, Nat.add_assoc]

theorem decodeFrom_index_le {before : List Char} {index : Nat} {s : Bytes} {fault : Fault}
    (failed : decodeFrom before index s = .error fault) : index ≤ fault.index := by
  induction before, index, s using decodeFrom.induct with
  | case1 before index =>
      rw [decodeFrom] at failed
      cases failed
  | case2 before index b s c r bound first ih =>
      rw [decodeFrom, first] at failed
      exact Nat.le_trans (Nat.le_add_right _ _) (ih failed)
  | case3 before index b s flaw first =>
      rw [decodeFrom, first] at failed
      cases failed
      exact Nat.le_refl _

theorem decodeFrom_stopped {before : List Char} {index : Nat} {s : Bytes} {fault : Fault}
    (failed : decodeFrom before index s = .error fault) :
    ∃ text b rest, encode text ++ b :: rest = s ∧ first b rest = .error fault.flaw ∧
      fault.index = index + (encode text).length := by
  induction before, index, s using decodeFrom.induct with
  | case1 before index =>
      rw [decodeFrom] at failed
      cases failed
  | case2 before index b s c r bound first ih =>
      rw [decodeFrom, first] at failed
      obtain ⟨text, d, rest, rfl, refused, stopped⟩ := ih failed
      refine ⟨c :: text, d, rest, ?_, refused, ?_⟩
      · rw [encode_cons, List.append_assoc]
        exact first_sound first
      · rw [stopped, encode_cons, List.length_append, String.length_utf8EncodeChar, Nat.add_assoc]
  | case3 before index b s flaw first =>
      rw [decodeFrom, first] at failed
      cases failed
      exact ⟨[], b, s, rfl, first, rfl⟩

/-- The fault shows behind the longest part that is text. -/
theorem endsText_of_decode {s : Bytes} {fault : Fault} (failed : decode s = .error fault) :
    EndsText s fault.index := by
  obtain ⟨text, b, rest, rfl, _, stopped⟩ := decodeFrom_stopped failed
  rw [Nat.zero_add] at stopped
  constructor
  case within =>
    rw [stopped, List.length_append]
    exact Nat.le_add_right _ _
  case wellFormed =>
    rw [stopped, List.take_left]
    exact isWellFormed_iff_exists_encode.mpr ⟨text, rfl⟩
  case longest =>
    intro m within wellFormed
    obtain ⟨front, front_eq⟩ := isWellFormed_iff_exists_encode.mp wellFormed
    rw [← List.take_append_drop m (encode text ++ b :: rest), ← front_eq, decode, decodeFrom_append,
      Nat.zero_add] at failed
    have length : (encode front).length = m := by
      rw [front_eq, List.length_take_of_le within]
    exact length ▸ decodeFrom_index_le failed

/-! ## Text that goes on -/

theorem tails_invalid {more seen value length : Nat} {s : Bytes}
    (failed : tails more seen value s = .error (.invalid length)) (rest : Bytes) :
    tails more seen value (s ++ rest) = .error (.invalid length) := by
  induction more generalizing seen value s with
  | zero => cases failed
  | succ more ih =>
      cases s with
      | nil => cases failed
      | cons b s =>
          simp only [List.cons_append, tails] at failed ⊢
          split at failed
          · rename_i isTail
            rw [if_pos isTail]
            split at failed
            · cases failed
            · rename_i refused
              cases failed
              rw [ih refused]
          · rename_i noTail
            cases failed
            rw [if_neg noTail]

theorem first_invalid {b : UInt8} {length : Nat} {s : Bytes}
    (failed : first b s = .error (.invalid length)) (rest : Bytes) :
    first b (s ++ rest) = .error (.invalid length) := by
  unfold first at failed ⊢
  split at failed
  · cases failed
  · rename_i wide
    rw [if_neg wide]
    cases leads : lead? b with
    | none =>
        rw [leads] at failed
        cases failed
        rfl
    | some lead =>
        rw [leads] at failed
        cases s with
        | nil => cases failed
        | cons c s =>
            simp only [List.cons_append] at failed ⊢
            split at failed
            · rename_i bounds
              split at failed
              · cases failed
              · rename_i refused
                cases failed
                simp only [if_pos bounds, tails_invalid refused]
            · rename_i outside
              cases failed
              simp only [if_neg outside]

/-- The front of a text can only end inside a character. -/
theorem cutShort_of_append {s rest : Bytes} {fault : Fault} (wellFormed : IsWellFormed (s ++ rest))
    (failed : decode s = .error fault) : fault.flaw = .cutShort := by
  obtain ⟨text, b, tail, rfl, refused, _⟩ := decodeFrom_stopped failed
  obtain ⟨whole, read⟩ := exists_decode_iff.mpr wellFormed
  cases flaw : fault.flaw with
  | cutShort => rfl
  | invalid length =>
      rw [flaw] at refused
      rw [List.append_assoc, List.cons_append, decode, decodeFrom_append, decodeFrom,
        first_invalid refused] at read
      cases read

end WampClient.Utf8
