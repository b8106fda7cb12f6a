import WampClient.Proofs.Text.Utf8

/-! # What was written can be read

The bytes of a text are read as that text, whatever comes behind the sequence of a character.
-/

namespace WampClient.Utf8

theorem tails_complete {bytes : Bytes} (all : ∀ b ∈ bytes, IsTail b) (seen value : Nat)
    (rest : Bytes) : ∃ r, tails bytes.length seen value (bytes ++ rest) =
      .ok (extend value bytes, r) ∧ r.val = rest := by
  induction bytes generalizing seen value with
  | nil => exact ⟨.all rest, rfl, rfl⟩
  | cons b bytes ih =>
      have isTail : 0x80 ≤ b ∧ b ≤ 0xBF := all b List.mem_cons_self
      obtain ⟨r, read, left⟩ := ih (fun c member => all c (List.mem_cons_of_mem b member))
        (seen + 1) (value * 64 + (b.toNat - 0x80))
      refine ⟨r.cons, ?_, left⟩
      simp only [List.length_cons, List.cons_append, tails]
      rw [if_pos isTail, read]
      simp only [extend, List.foldl_cons]

theorem toNat_ofNat {k : Nat} (byte : k < 256) : (UInt8.ofNat k).toNat = k :=
  UInt8.toNat_ofNat_of_lt' byte

theorem isTail_ofNat (k : Nat) : IsTail (.ofNat (k % 64 + 0x80)) := by
  simp only [IsTail, UInt8.le_iff_toNat_le, toNat_ofNat (k := k % 64 + 0x80) (by omega),
    UInt8.reduceToNat]
  omega

theorem lead?_eq_some_iff {b : UInt8} {lead : Lead} : lead? b = some lead ↔
    (0xC2 ≤ b.toNat ∧ b.toNat < 0xE0 ∧ lead = ⟨b.toNat - 0xC0, 0x80, 0xBF, 0⟩) ∨
    (0xE0 ≤ b.toNat ∧ b.toNat < 0xF0 ∧ lead = ⟨b.toNat - 0xE0, if b = 0xE0 then 0xA0 else 0x80,
      if b = 0xED then 0x9F else 0xBF, 1⟩) ∨
    (0xF0 ≤ b.toNat ∧ b.toNat < 0xF5 ∧ lead = ⟨b.toNat - 0xF0, if b = 0xF0 then 0x90 else 0x80,
      if b = 0xF4 then 0x8F else 0xBF, 2⟩) := by
  refine ⟨lead?_cases, ?_⟩
  simp only [lead?, UInt8.lt_iff_toNat_lt, UInt8.reduceToNat]
  rintro (⟨low, high, rfl⟩ | ⟨low, high, rfl⟩ | ⟨low, high, rfl⟩)
  · rw [if_neg (by omega), if_pos high]
  · rw [if_neg (by omega), if_neg (by omega), if_pos high]
  · rw [if_neg (by omega), if_neg (by omega), if_neg (by omega), if_pos high]

theorem first_sequence {b c : UInt8} {lead : Lead} {v : Nat} (bytes : Bytes)
    (leads : lead? b = some lead) (bounds : lead.low ≤ c ∧ c ≤ lead.high)
    (length : bytes.length = lead.more) (all : ∀ d ∈ bytes, IsTail d)
    (value : extend (lead.bits * 64 + (c.toNat - 0x80)) bytes = v) (rest : Bytes) :
    ∃ r, first b (c :: (bytes ++ rest)) = .ok (Char.ofNat v, r) ∧ r.val = rest := by
  have high : ¬ b < 0x80 := by
    simp only [UInt8.lt_iff_toNat_lt, UInt8.reduceToNat]
    rcases lead?_cases leads with ⟨low, _⟩ | ⟨low, _⟩ | ⟨low, _⟩ <;> omega
  subst value
  obtain ⟨r, read, left⟩ := tails_complete all 2 (lead.bits * 64 + (c.toNat - 0x80)) rest
  refine ⟨r.cons, ?_, left⟩
  simp only [first, if_neg high, leads, if_pos bounds, ← length, read]

theorem first_ascii {v : Nat} (ascii : v < 0x80) (rest : Bytes) :
    first (.ofNat v) rest = .ok (Char.ofNat v, .all rest) := by
  have byte : (UInt8.ofNat v).toNat = v := toNat_ofNat (by omega)
  have low : UInt8.ofNat v < 0x80 := by
    simpa only [UInt8.lt_iff_toNat_lt, byte, UInt8.reduceToNat] using ascii
  rw [first, if_pos low, byte]

theorem first_two {v : Nat} (low : 0x7F < v) (high : v ≤ 0x7FF) (rest : Bytes) :
    ∃ r, first (.ofNat (v / 64 % 32 + 0xC0)) (.ofNat (v % 64 + 0x80) :: rest) =
      .ok (Char.ofNat v, r) ∧ r.val = rest := by
  have lead := toNat_ofNat (k := v / 64 % 32 + 0xC0) (by omega)
  have second := toNat_ofNat (k := v % 64 + 0x80) (by omega)
  refine first_sequence [] (lead?_eq_some_iff.mpr (.inl ⟨?_, ?_, rfl⟩)) (isTail_ofNat v)
    rfl (by simp) ?_ rest
  · omega
  · omega
  · simp only [extend, lead, second, List.foldl_nil]
    omega

theorem first_three {v : Nat} (low : 0x7FF < v) (high : v ≤ 0xFFFF) (valid : v.isValidChar)
    (rest : Bytes) :
    ∃ r, first (.ofNat (v / 4096 % 16 + 0xE0))
      (.ofNat (v / 64 % 64 + 0x80) :: .ofNat (v % 64 + 0x80) :: rest) =
      .ok (Char.ofNat v, r) ∧ r.val = rest := by
  have lead := toNat_ofNat (k := v / 4096 % 16 + 0xE0) (by omega)
  have second := toNat_ofNat (k := v / 64 % 64 + 0x80) (by omega)
  have third := toNat_ofNat (k := v % 64 + 0x80) (by omega)
  unfold Nat.isValidChar at valid
  refine first_sequence [_] (lead?_eq_some_iff.mpr (.inr (.inl ⟨?_, ?_, rfl⟩))) ⟨?_, ?_⟩
    rfl (by simpa using isTail_ofNat v) ?_ rest
  · omega
  · omega
  · simp only [← UInt8.toNat_inj, UInt8.le_iff_toNat_le, lead, second, UInt8.reduceToNat]
    split <;> simp only [UInt8.reduceToNat] <;> omega
  · simp only [← UInt8.toNat_inj, UInt8.le_iff_toNat_le, lead, second, UInt8.reduceToNat]
    split <;> simp only [UInt8.reduceToNat] <;> omega
  · simp only [extend, lead, second, third, List.foldl_cons, List.foldl_nil]
    omega

theorem first_four {v : Nat} (low : 0xFFFF < v) (valid : v.isValidChar) (rest : Bytes) :
    ∃ r, first (.ofNat (v / 262144 % 8 + 0xF0)) (.ofNat (v / 4096 % 64 + 0x80) ::
      .ofNat (v / 64 % 64 + 0x80) :: .ofNat (v % 64 + 0x80) :: rest) =
      .ok (Char.ofNat v, r) ∧ r.val = rest := by
  have lead := toNat_ofNat (k := v / 262144 % 8 + 0xF0) (by omega)
  have second := toNat_ofNat (k := v / 4096 % 64 + 0x80) (by omega)
  have third := toNat_ofNat (k := v / 64 % 64 + 0x80) (by omega)
  have fourth := toNat_ofNat (k := v % 64 + 0x80) (by omega)
  unfold Nat.isValidChar at valid
  refine first_sequence [_, _] (lead?_eq_some_iff.mpr (.inr (.inr ⟨?_, ?_, rfl⟩)))
    ⟨?_, ?_⟩ rfl ?_ ?_ rest
  · omega
  · omega
  · simp only [← UInt8.toNat_inj, UInt8.le_iff_toNat_le, lead, second, UInt8.reduceToNat]
    split <;> simp only [UInt8.reduceToNat] <;> omega
  · simp only [← UInt8.toNat_inj, UInt8.le_iff_toNat_le, lead, second, UInt8.reduceToNat]
    split <;> simp only [UInt8.reduceToNat] <;> omega
  · simp only [List.mem_cons, List.not_mem_nil, or_false]
    rintro d (rfl | rfl)
    · exact isTail_ofNat (v / 64)
    · exact isTail_ofNat v
  · simp only [extend, lead, second, third, fourth, List.foldl_cons, List.foldl_nil]
    omega

theorem first_complete (c : Char) (rest : Bytes) :
    ∃ b s, String.utf8EncodeChar c ++ rest = b :: s ∧
      ∃ r, first b s = .ok (c, r) ∧ r.val = rest := by
  have valid : c.toNat.isValidChar := c.valid
  rw [← Char.ofNat_toNat c, encode_ofNat valid]
  split
  · exact ⟨_, _, rfl, .all rest, first_ascii (by omega) rest, rfl⟩
  · split
    · exact ⟨_, _, rfl, first_two (by omega) (by omega) rest⟩
    · split
      · exact ⟨_, _, rfl, first_three (by omega) (by omega) valid rest⟩
      · exact ⟨_, _, rfl, first_four (by omega) valid rest⟩

theorem encode_cons (c : Char) (text : List Char) :
    encode (c :: text) = String.utf8EncodeChar c ++ encode text :=
  List.flatMap_cons

theorem decodeFrom_complete (before text : List Char) (index : Nat) :
    decodeFrom before index (encode text) = .ok (before.reverse ++ text) := by
  induction text generalizing before index with
  | nil => simp [encode, decodeFrom]
  | cons c text ih =>
      obtain ⟨b, s, whole, ⟨r, bound⟩, read, left⟩ := first_complete c (encode text)
      obtain rfl : r = encode text := left
      rw [encode_cons, whole, decodeFrom, read]
      simp only [ih, List.reverse_cons, List.append_assoc, List.singleton_append]

/-- The bytes of a text are read as that text. -/
theorem decode_encode (text : List Char) : decode (encode text) = .ok text :=
  decodeFrom_complete [] text 0

end WampClient.Utf8
