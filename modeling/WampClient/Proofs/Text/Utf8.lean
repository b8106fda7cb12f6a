import WampClient.Frame

/-! # What is read is what was written

Each character that is read from bytes is written as the bytes that it was read from, so a text
payload travels unchanged.
-/

namespace WampClient

namespace Utf8

theorem val_ofNat {v : Nat} (valid : v.isValidChar) : (Char.ofNat v).val.toNat = v := by
  rw [Char.ofNat, dif_pos valid]
  rfl

def IsTail (b : UInt8) : Prop :=
  0x80 ≤ b ∧ b ≤ 0xBF

def extend (value : Nat) (bytes : Bytes) : Nat :=
  bytes.foldl (fun v b => v * 64 + (b.toNat - 0x80)) value

theorem tails_sound {more seen value v : Nat} {s : Bytes} {r : Bytes.Tail s}
    (read : tails more seen value s = .ok (v, r)) :
    ∃ bytes, bytes.length = more ∧ s = bytes ++ r.val ∧ (∀ b ∈ bytes, IsTail b) ∧
      v = extend value bytes := by
  induction more generalizing seen value s with
  | zero =>
      cases read
      exact ⟨[], rfl, rfl, nofun, rfl⟩
  | succ more ih =>
      cases s with
      | nil => cases read
      | cons b rest =>
          simp only [tails] at read
          split at read
          · rename_i isTail
            split at read
            · rename_i w q within
              cases read
              obtain ⟨bytes, length, whole, all, value⟩ := ih within
              refine ⟨b :: bytes, by simp [length], congrArg (b :: ·) whole, ?_, ?_⟩
              · intro c member
                cases member with
                | head => exact isTail
                | tail _ member => exact all c member
              · simpa only [extend, List.foldl_cons] using value
            · cases read
          · cases read

theorem encode_ofNat {v : Nat} (valid : v.isValidChar) :
    String.utf8EncodeChar (Char.ofNat v) =
      if v ≤ 0x7F then [.ofNat v]
      else if v ≤ 0x7FF then [.ofNat (v / 64 % 32 + 0xC0), .ofNat (v % 64 + 0x80)]
      else if v ≤ 0xFFFF then
        [.ofNat (v / 4096 % 16 + 0xE0), .ofNat (v / 64 % 64 + 0x80), .ofNat (v % 64 + 0x80)]
      else
        [.ofNat (v / 262144 % 8 + 0xF0), .ofNat (v / 4096 % 64 + 0x80), .ofNat (v / 64 % 64 + 0x80),
          .ofNat (v % 64 + 0x80)] := by
  simp only [String.utf8EncodeChar, val_ofNat valid]

theorem ofNat_eq {b : UInt8} {k : Nat} (same : b.toNat = k) : UInt8.ofNat k = b := by
  rw [← same, UInt8.ofNat_toNat]

theorem encode_two {b c : UInt8} (lead : 0xC2 ≤ b.toNat ∧ b.toNat < 0xE0) (isTail : IsTail c) :
    String.utf8EncodeChar (Char.ofNat ((b.toNat - 0xC0) * 64 + (c.toNat - 0x80))) = [b, c] := by
  obtain ⟨low, high⟩ := isTail
  rw [UInt8.le_iff_toNat_le] at low high
  simp only [UInt8.reduceToNat] at low high
  rw [encode_ofNat (.inl (by omega)), if_neg (by omega), if_pos (by omega),
    ofNat_eq (b := b) (by omega), ofNat_eq (b := c) (by omega)]

theorem encode_three {b c d : UInt8} (lead : 0xE0 ≤ b.toNat ∧ b.toNat < 0xF0)
    (low : b = 0xE0 → 0xA0 ≤ c.toNat) (high : b = 0xED → c.toNat ≤ 0x9F) (first : IsTail c)
    (second : IsTail d) :
    String.utf8EncodeChar (Char.ofNat
      (((b.toNat - 0xE0) * 64 + (c.toNat - 0x80)) * 64 + (d.toNat - 0x80))) = [b, c, d] := by
  simp only [IsTail, UInt8.le_iff_toNat_le, UInt8.reduceToNat] at first second
  simp only [← UInt8.toNat_inj, UInt8.reduceToNat] at low high
  have valid : (((b.toNat - 0xE0) * 64 + (c.toNat - 0x80)) * 64 + (d.toNat - 0x80)).isValidChar := by
    unfold Nat.isValidChar
    omega
  rw [encode_ofNat valid, if_neg (by omega), if_neg (by omega), if_pos (by omega),
    ofNat_eq (b := b) (by omega), ofNat_eq (b := c) (by omega), ofNat_eq (b := d) (by omega)]

theorem encode_four {b c d e : UInt8} (lead : 0xF0 ≤ b.toNat ∧ b.toNat < 0xF5)
    (low : b = 0xF0 → 0x90 ≤ c.toNat) (high : b = 0xF4 → c.toNat ≤ 0x8F) (first : IsTail c)
    (second : IsTail d) (third : IsTail e) :
    String.utf8EncodeChar (Char.ofNat
      ((((b.toNat - 0xF0) * 64 + (c.toNat - 0x80)) * 64 + (d.toNat - 0x80)) * 64 +
        (e.toNat - 0x80))) = [b, c, d, e] := by
  simp only [IsTail, UInt8.le_iff_toNat_le, UInt8.reduceToNat] at first second third
  simp only [← UInt8.toNat_inj, UInt8.reduceToNat] at low high
  have valid : ((((b.toNat - 0xF0) * 64 + (c.toNat - 0x80)) * 64 + (d.toNat - 0x80)) * 64 +
      (e.toNat - 0x80)).isValidChar := by
    unfold Nat.isValidChar
    omega
  rw [encode_ofNat valid, if_neg (by omega), if_neg (by omega), if_neg (by omega),
    ofNat_eq (b := b) (by omega), ofNat_eq (b := c) (by omega), ofNat_eq (b := d) (by omega),
    ofNat_eq (b := e) (by omega)]

theorem lead?_cases {b : UInt8} {lead : Lead} (leads : lead? b = some lead) :
    (0xC2 ≤ b.toNat ∧ b.toNat < 0xE0 ∧ lead = ⟨b.toNat - 0xC0, 0x80, 0xBF, 0⟩) ∨
    (0xE0 ≤ b.toNat ∧ b.toNat < 0xF0 ∧ lead = ⟨b.toNat - 0xE0, if b = 0xE0 then 0xA0 else 0x80,
      if b = 0xED then 0x9F else 0xBF, 1⟩) ∨
    (0xF0 ≤ b.toNat ∧ b.toNat < 0xF5 ∧ lead = ⟨b.toNat - 0xF0, if b = 0xF0 then 0x90 else 0x80,
      if b = 0xF4 then 0x8F else 0xBF, 2⟩) := by
  simp only [lead?, UInt8.lt_iff_toNat_lt, UInt8.reduceToNat] at leads
  split at leads
  · cases leads
  · split at leads
    · exact .inl ⟨by omega, by omega, (Option.some.inj leads).symm⟩
    · split at leads
      · exact .inr (.inl ⟨by omega, by omega, (Option.some.inj leads).symm⟩)
      · split at leads
        · exact .inr (.inr ⟨by omega, by omega, (Option.some.inj leads).symm⟩)
        · cases leads

theorem isTail_second {b c : UInt8} {lead : Lead} (leads : lead? b = some lead)
    (bounds : lead.low ≤ c ∧ c ≤ lead.high) : IsTail c := by
  have within : 0x80 ≤ lead.low ∧ lead.high ≤ 0xBF := by
    rcases lead?_cases leads with ⟨_, _, rfl⟩ | ⟨_, _, rfl⟩ | ⟨_, _, rfl⟩
    · exact ⟨UInt8.le_refl _, UInt8.le_refl _⟩
    · constructor <;> dsimp only <;> split <;> decide
    · constructor <;> dsimp only <;> split <;> decide
  exact ⟨UInt8.le_trans within.1 bounds.1, UInt8.le_trans bounds.2 within.2⟩

theorem sequence_sound {b c : UInt8} {bytes : Bytes} {lead : Lead} (leads : lead? b = some lead)
    (bounds : lead.low ≤ c ∧ c ≤ lead.high) (length : bytes.length = lead.more)
    (all : ∀ d ∈ bytes, IsTail d) :
    String.utf8EncodeChar (Char.ofNat (extend (lead.bits * 64 + (c.toNat - 0x80)) bytes)) =
      b :: c :: bytes := by
  have second := isTail_second leads bounds
  rcases lead?_cases leads with ⟨low, high, rfl⟩ | ⟨low, high, rfl⟩ | ⟨low, high, rfl⟩
  · obtain rfl := List.eq_nil_of_length_eq_zero length
    exact encode_two ⟨low, high⟩ second
  · obtain ⟨d, rfl⟩ := List.length_eq_one_iff.mp length
    refine encode_three ⟨low, high⟩ ?_ ?_ second (all d (by simp))
    · intro same
      simpa [same, UInt8.le_iff_toNat_le] using bounds.1
    · intro same
      simpa [same, UInt8.le_iff_toNat_le] using bounds.2
  · obtain ⟨d, tail, rfl⟩ := List.exists_cons_of_length_eq_add_one length
    obtain ⟨e, rfl⟩ := List.length_eq_one_iff.mp (Nat.succ.inj length)
    refine encode_four ⟨low, high⟩ ?_ ?_ second (all d (by simp)) (all e (by simp))
    · intro same
      simpa [same, UInt8.le_iff_toNat_le] using bounds.1
    · intro same
      simpa [same, UInt8.le_iff_toNat_le] using bounds.2

theorem first_sound {b : UInt8} {s : Bytes} {c : Char} {r : Bytes.Tail s}
    (read : first b s = .ok (c, r)) : String.utf8EncodeChar c ++ r.val = b :: s := by
  unfold first at read
  split at read
  · rename_i ascii
    cases read
    rw [UInt8.lt_iff_toNat_lt] at ascii
    simp only [UInt8.reduceToNat] at ascii
    rw [encode_ofNat (.inl (by omega)), if_pos (by omega), UInt8.ofNat_toNat]
    rfl
  · cases leads : lead? b with
    | none =>
        rw [leads] at read
        cases read
    | some lead =>
        rw [leads] at read
        cases s with
        | nil => cases read
        | cons d rest =>
            simp only at read
            split at read
            · rename_i bounds
              split at read
              · rename_i v q within
                cases read
                obtain ⟨bytes, length, whole, all, rfl⟩ := tails_sound within
                rw [sequence_sound leads bounds length all]
                exact congrArg (b :: d :: ·) whole.symm
              · cases read
            · cases read

theorem encode_append (first more : List Char) : encode (first ++ more) = encode first ++ encode more :=
  List.flatMap_append

theorem decodeFrom_sound {before : List Char} {index : Nat} {s : Bytes} {text : List Char}
    (read : decodeFrom before index s = .ok text) : encode text = encode before.reverse ++ s := by
  induction before, index, s using decodeFrom.induct with
  | case1 before index =>
      rw [decodeFrom] at read
      cases read
      rw [List.append_nil]
  | case2 before index b s c r bound first ih =>
      rw [decodeFrom, first] at read
      rw [ih read, List.reverse_cons, encode_append, List.append_assoc, ← first_sound first]
      simp [encode]
  | case3 before index b s flaw first =>
      rw [decodeFrom, first] at read
      cases read

/-- Bytes that are read as a text are the bytes of that text. -/
theorem encode_of_decode {s : Bytes} {text : List Char} (read : decode s = .ok text) :
    encode text = s :=
  decodeFrom_sound read

end Utf8

namespace Frame

theorem ofPayload_sound {payload : Bytes} {isBinary : Bool} {f : Frame}
    (made : ofPayload payload isBinary = .ok f) : f.payload = payload ∧ f.isBinary = isBinary := by
  unfold ofPayload at made
  split at made
  · rename_i binary
    cases made
    exact ⟨rfl, binary.symm⟩
  · rename_i text
    split at made
    · rename_i cs read
      cases made
      refine ⟨?_, ?_⟩
      · simp only [Frame.payload, Bytes.ofString, String.toList_ofList]
        exact Utf8.encode_of_decode read
      · simpa [Frame.isBinary] using text
    · cases made

theorem ofPayload_error {payload : Bytes} {isBinary : Bool} {e : Error}
    (failed : ofPayload payload isBinary = .error e) : ∃ fault, e = .invalidFrame fault := by
  unfold ofPayload at failed
  split at failed
  · cases failed
  · split at failed
    · cases failed
    · cases failed
      exact ⟨_, rfl⟩

end Frame

end WampClient
