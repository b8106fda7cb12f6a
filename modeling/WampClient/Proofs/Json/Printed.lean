import WampClient.Json.Printer
import WampClient.Json.Reader
import WampClient.Proofs.Text.Numerals

/-! # Scanning what was printed

A whole number and a string are scanned as what they were printed from, and what comes behind them
is left. Behind a number there may be anything that does not go on with the number.
-/

namespace WampClient

namespace Json

open Decimal (digitByte)

theorem skipBlanks_cons {b : UInt8} (dark : isBlank b = false) (s : Bytes) :
    skipBlanks (b :: s) = .all (b :: s) := by
  rw [skipBlanks, if_neg (by simp [dark])]

/-! ## Numbers -/

/-- The bytes do not go on with a number that comes before them. -/
def EndsNumber (rest : Bytes) : Prop :=
  ∀ b ∈ rest.head?, Decimal.digit? b = none ∧ b ≠ 0x2E ∧ b ≠ 0x65 ∧ b ≠ 0x45

theorem endsNumber_nil : EndsNumber [] := by
  rintro b ⟨⟩

theorem spanDigits_none {rest : Bytes} (ends : EndsNumber rest) : spanDigits rest = ([], .all rest) := by
  cases rest with
  | nil => rfl
  | cons b rest => simp only [spanDigits, (ends b rfl).1]

theorem spanDigits_append {ds : List Nat} (small : ∀ d ∈ ds, d < 10) {rest : Bytes}
    (ends : EndsNumber rest) :
    ∃ r, spanDigits (ds.map digitByte ++ rest) = (ds, r) ∧ r.val = rest := by
  induction ds with
  | nil => exact ⟨.all rest, spanDigits_none ends, rfl⟩
  | cons d ds ih =>
      obtain ⟨r, spanned, left⟩ := ih fun e member => small e (List.mem_cons_of_mem d member)
      refine ⟨r.cons, ?_, left⟩
      change spanDigits (digitByte d :: (ds.map digitByte ++ rest)) = _
      simp only [spanDigits, Decimal.digit?_digitByte (small d List.mem_cons_self), spanned]

theorem scanWhole_digits (n : Nat) {rest : Bytes} (ends : EndsNumber rest) :
    ∃ r, scanWhole ((Decimal.digits n).map digitByte ++ rest) = .ok (Decimal.digits n, r) ∧
      r.val = rest := by
  have small : ∀ d ∈ Decimal.digits n, d < 10 := fun d => Decimal.lt_ten_of_mem_digits
  rcases Decimal.digits_cases n with zero | ⟨d, ds, more⟩
  · rw [zero]
    refine ⟨(Bytes.Tail.all rest).rest, ?_, rfl⟩
    change scanWhole (digitByte 0 :: rest) = _
    simp only [scanWhole, Decimal.digit?_digitByte (d := 0) (by decide), spanDigits_none ends]
  · rw [more] at small ⊢
    obtain ⟨r, spanned, left⟩ := spanDigits_append
      (fun e member => small e (List.mem_cons_of_mem _ member)) ends
    refine ⟨r.rest, ?_, left⟩
    change scanWhole (digitByte (d + 1) :: (ds.map digitByte ++ rest)) = _
    simp only [scanWhole, Decimal.digit?_digitByte (small _ List.mem_cons_self), spanned]

theorem scanFraction_none {rest : Bytes} (ends : EndsNumber rest) :
    scanFraction rest = .ok (none, .all rest) := by
  cases rest with
  | nil => rfl
  | cons b rest => rw [scanFraction, if_neg (ends b rfl).2.1]

theorem scanExponent_none {rest : Bytes} (ends : EndsNumber rest) :
    scanExponent rest = .ok (none, .all rest) := by
  cases rest with
  | nil => rfl
  | cons b rest => rw [scanExponent, if_neg (by simpa using (ends b rfl).2.2)]

theorem scanUnsigned_digits (negative : Bool) (n : Nat) {rest : Bytes} (ends : EndsNumber rest) :
    ∃ r, scanUnsigned negative ((Decimal.digits n).map digitByte ++ rest) =
      .ok (⟨negative, Decimal.digits n, none, none⟩, r) ∧ r.val = rest := by
  obtain ⟨⟨r, bound⟩, scanned, left⟩ := scanWhole_digits n ends
  obtain rfl : r = rest := left
  refine ⟨⟨r, bound⟩, ?_, rfl⟩
  simp only [scanUnsigned, scanned, scanFraction_none ends, Bytes.Tail.all, scanExponent_none ends]
  rfl

namespace Literal

theorem le_foldl (ds : List Nat) (n : Nat) : n ≤ ds.foldl (fun n d => n * 10 + d) n := by
  induction ds generalizing n with
  | nil => exact Nat.le_refl n
  | cons d ds ih =>
      have step := ih (n * 10 + d)
      rw [List.foldl_cons]
      omega

theorem gather_fits {ds : List Nat} {n : Nat}
    (fits : ds.foldl (fun n d => n * 10 + d) n < 0x1_0000_0000_0000_0000) :
    gather n ds = (ds.foldl (fun n d => n * 10 + d) n, []) := by
  induction ds generalizing n with
  | nil => rfl
  | cons d ds ih =>
      rw [List.foldl_cons] at fits ⊢
      have step := le_foldl ds (n * 10 + d)
      rw [gather, if_pos (by omega), ih fits]

theorem gather_digits {n : Nat} (fits : n < 0x1_0000_0000_0000_0000) :
    gather 0 (Decimal.digits n) = (n, []) := by
  have value : (Decimal.digits n).foldl (fun n d => n * 10 + d) 0 = n := Decimal.value_digits n
  rw [gather_fits (by rwa [value]), value]

theorem value_digits (w : Whole) :
    value ⟨decide (w.toInt < 0), Decimal.digits w.toInt.natAbs, none, none⟩ = .ok (.inl w) := by
  have lower := w.lower
  have upper := w.upper
  have fits : w.toInt.natAbs < 0x1_0000_0000_0000_0000 := by omega
  simp only [value, gather_digits fits, dif_pos fits]
  by_cases negative : w.toInt < 0
  · have whole : -(w.toInt.natAbs : Int) = w.toInt := by omega
    simp only [negative, decide_true, dif_pos]
    rw [dif_pos (by omega)]
    simp only [whole]
  · have whole : (w.toInt.natAbs : Int) = w.toInt := by omega
    simp only [negative, decide_false, Bool.false_eq_true, dif_neg, not_false_eq_true,
      Whole.ofNat, whole]

end Literal

theorem scanNumber_digits (w : Whole) {rest : Bytes} (ends : EndsNumber rest) :
    ∃ r, scanNumber (decide (w.toInt < 0)) ((Decimal.digits w.toInt.natAbs).map digitByte ++ rest) =
      .ok (.inl w, r) ∧ r.val = rest := by
  obtain ⟨r, scanned, left⟩ := scanUnsigned_digits (decide (w.toInt < 0)) w.toInt.natAbs ends
  refine ⟨r, ?_, left⟩
  simp only [scanNumber, scanned, Literal.value_digits]

theorem scanLeaf_digit {b : UInt8} (isDigit : (Decimal.digit? b).isSome) (s : Bytes) :
    scanLeaf b s = (scanNumber false (b :: s)).map fun (n, r) => (.ofNumber n, r.uncons) := by
  have other {c : UInt8} (no : (Decimal.digit? c).isNone) : b ≠ c := by
    rintro rfl
    simp_all
  rw [scanLeaf, if_neg (other rfl), if_neg (other rfl), if_neg (other rfl), if_neg (other rfl),
    if_neg (other rfl), if_pos isDigit]

def LeadsNumber (b : UInt8) : Prop :=
  b = 0x2D ∨ (Decimal.digit? b).isSome

theorem isBlank_of_leadsNumber {b : UInt8} (leads : LeadsNumber b) : isBlank b = false := by
  rcases leads with rfl | isDigit
  · rfl
  · rw [Decimal.digit?] at isDigit
    split at isDigit
    · rename_i digit
      have low : b.toNat ≥ 0x30 := UInt8.le_iff_toNat_le.mp digit.1
      simp only [isBlank, ← UInt8.toNat_inj, UInt8.reduceToNat]
      simp only [Bool.or_eq_false_iff, decide_eq_false_iff_not]
      omega
    · cases isDigit

theorem scanLeaf_whole (w : Whole) {rest : Bytes} (ends : EndsNumber rest) :
    ∃ b s, Utf8.encode (Value.whole w).render ++ rest = b :: s ∧ LeadsNumber b ∧
      ∃ r, scanLeaf b s = .ok (.whole w, r) ∧ r.val = rest := by
  have scan := scanNumber_digits w ends
  rw [Value.render, Decimal.renderInt]
  split
  · rename_i negative
    simp only [negative, decide_true] at scan
    obtain ⟨r, scanned, left⟩ := scan
    refine ⟨0x2D, (Decimal.digits w.toInt.natAbs).map digitByte ++ rest, ?_, .inl rfl, r.toTail, ?_,
      left⟩
    · rw [← Decimal.encode_render]
      rfl
    · change (scanNumber true _).map _ = _
      rw [scanned]
      rfl
  · rename_i positive
    obtain ⟨d, ds, small, written⟩ := Decimal.digits_eq_cons w.toInt.natAbs
    simp only [positive, decide_false] at scan
    rw [written] at scan
    obtain ⟨r, scanned, left⟩ := scan
    have isDigit : (Decimal.digit? (digitByte d)).isSome := by
      rw [Decimal.digit?_digitByte small]
      rfl
    refine ⟨digitByte d, ds.map digitByte ++ rest, ?_, .inr isDigit, r.uncons, ?_, left⟩
    · rw [Decimal.encode_render, written]
      rfl
    · rw [scanLeaf_digit isDigit]
      change (scanNumber false ((d :: ds).map digitByte ++ rest)).map _ = _
      rw [scanned]
      rfl

/-! ## Strings -/

def shortEscapes : List (Char × UInt8) :=
  [('"', 0x22), ('\\', 0x5C), ('\x08', 0x62), ('\x0c', 0x66), ('\n', 0x6E), ('\r', 0x72),
    ('\t', 0x74)]

theorem renderChar_short : ∀ p ∈ shortEscapes,
    shortEscape? p.2 = some p.1 ∧ Utf8.encode (renderChar p.1) = [0x5C, p.2] := by
  decide

theorem renderChar_cases (c : Char) :
    (∃ b, shortEscape? b = some c ∧ Utf8.encode (renderChar c) = [0x5C, b]) ∨
    (c.toNat < 0x20 ∧ renderChar c =
      ['\\', 'u', '0', '0', Decimal.hexChar (c.toNat / 16), Decimal.hexChar (c.toNat % 16)]) ∨
    (0x20 ≤ c.toNat ∧ c ≠ '"' ∧ c ≠ '\\' ∧ renderChar c = [c]) := by
  by_cases short : ∃ p ∈ shortEscapes, p.1 = c
  · obtain ⟨p, member, rfl⟩ := short
    exact .inl ⟨p.2, renderChar_short p member⟩
  · have others : ∀ p ∈ shortEscapes, c ≠ p.1 := fun p member same => short ⟨p, member, same.symm⟩
    simp only [shortEscapes, List.forall_mem_cons] at others
    obtain ⟨quote, backslash, backspace, feed, line, carriage, tab, _⟩ := others
    rw [renderChar, if_neg quote, if_neg backslash, if_neg backspace, if_neg feed, if_neg line,
      if_neg carriage, if_neg tab]
    split
    · rename_i control
      exact .inr (.inl ⟨control, rfl⟩)
    · rename_i printable
      exact .inr (.inr ⟨Nat.le_of_not_lt printable, quote, backslash, rfl⟩)

section

variable {whole done s : Bytes}

theorem scanStringFrom_plain {b : UInt8} (quote : b ≠ 0x22) (backslash : b ≠ 0x5C)
    (printable : ¬ b < 0x20) (h : (b :: s).length ≤ whole.length) :
    scanStringFrom whole done ⟨b :: s, h⟩ =
      scanStringFrom whole (b :: done) ⟨s, Nat.le_of_succ_le h⟩ := by
  rw [scanStringFrom, if_neg quote, if_neg backslash, if_neg printable]
  rfl

theorem scanStringFrom_plains {bytes : Bytes} (done : Bytes)
    (plain : ∀ b ∈ bytes, b ≠ 0x22 ∧ b ≠ 0x5C ∧ ¬ b < 0x20)
    (h : (bytes ++ s).length ≤ whole.length) :
    ∃ bound, scanStringFrom whole done ⟨bytes ++ s, h⟩ =
      scanStringFrom whole (bytes.reverse ++ done) ⟨s, bound⟩ := by
  induction bytes generalizing done with
  | nil => exact ⟨h, rfl⟩
  | cons b bytes ih =>
      obtain ⟨quote, backslash, printable⟩ := plain b List.mem_cons_self
      obtain ⟨bound, scanned⟩ := ih (b :: done)
        (fun c member => plain c (List.mem_cons_of_mem b member)) (Nat.le_of_succ_le h)
      refine ⟨bound, ?_⟩
      rw [List.reverse_cons, List.append_assoc, List.singleton_append, ← scanned]
      exact scanStringFrom_plain quote backslash printable h

theorem scanStringFrom_escape {c : Char} {t : Bytes.Rest s} (escape : scanEscape s = .ok (c, t))
    (h : (0x5C :: s).length ≤ whole.length) :
    ∃ bound, scanStringFrom whole done ⟨0x5C :: s, h⟩ =
      scanStringFrom whole ((Utf8.encode [c]).reverse ++ done) ⟨t.val, bound⟩ := by
  refine ⟨Nat.le_of_lt (Nat.lt_trans t.property h), ?_⟩
  rw [scanStringFrom, if_neg (by decide), if_pos rfl, escape]
  rfl

theorem encode_hexChar : ∀ {d : Nat}, d < 16 →
    ∃ b, String.utf8EncodeChar (Decimal.hexChar d) = [b] ∧ Decimal.hexDigit? b = some d := by
  intro d small
  refine ⟨(String.utf8EncodeChar (Decimal.hexChar d)).headD 0, ?_⟩
  revert d
  decide

theorem scanEscape_control {c : Char} (control : c.toNat < 0x20) :
    ∃ e, Utf8.encode ['\\', 'u', '0', '0', Decimal.hexChar (c.toNat / 16),
        Decimal.hexChar (c.toNat % 16)] = 0x5C :: e ∧
      ∃ t, scanEscape (e ++ s) = .ok (c, t) ∧ t.val = s := by
  obtain ⟨high, encodeHigh, readHigh⟩ := encode_hexChar (d := c.toNat / 16) (by omega)
  obtain ⟨low, encodeLow, readLow⟩ := encode_hexChar (d := c.toNat % 16) (by omega)
  refine ⟨[0x75, 0x30, 0x30, high, low], ?_, ?_⟩
  · simp only [Utf8.encode, List.flatMap_cons, List.flatMap_nil, encodeHigh, encodeLow]
    rfl
  · have hex : scanHex (0x30 :: 0x30 :: high :: low :: s) =
        .ok (c.toNat, (Bytes.Tail.all s).rest.cons.cons.cons) := by
      have value : ((0 * 16 + 0) * 16 + c.toNat / 16) * 16 + c.toNat % 16 = c.toNat := by omega
      have zero : Decimal.hexDigit? 0x30 = some 0 := by decide
      simp only [scanHex, zero, readHigh, readLow, value]
    refine ⟨Bytes.Rest.cons (Bytes.Tail.all s).rest.cons.cons.cons, ?_, rfl⟩
    change scanEscape (0x75 :: 0x30 :: 0x30 :: high :: low :: s) = _
    have long : shortEscape? 0x75 = none := by decide
    simp only [scanEscape, long, hex]
    rw [if_neg (by decide), if_neg (by omega), if_neg (by omega), Char.ofNat_toNat]

/-- The bytes of a character that needs no escape are none that mean anything in a string. -/
theorem encodeChar_plain {c : Char} (printable : 0x20 ≤ c.toNat) (quote : c ≠ '"')
    (backslash : c ≠ '\\') : ∀ b ∈ String.utf8EncodeChar c, b ≠ 0x22 ∧ b ≠ 0x5C ∧ ¬ b < 0x20 := by
  have valid : c.toNat.isValidChar := c.valid
  have quote : c.toNat ≠ 0x22 := fun same => quote (Char.ext (UInt32.toNat_inj.mp same))
  have backslash : c.toNat ≠ 0x5C := fun same => backslash (Char.ext (UInt32.toNat_inj.mp same))
  rw [← Char.ofNat_toNat c, Utf8.encode_ofNat valid]
  simp only [ne_eq, ← UInt8.toNat_inj, UInt8.lt_iff_toNat_lt, UInt8.reduceToNat]
  have large {k : Nat} (low : 0x80 ≤ k) (byte : k < 256) : ¬ (UInt8.ofNat k).toNat = 0x22 ∧
      ¬ (UInt8.ofNat k).toNat = 0x5C ∧ ¬ (UInt8.ofNat k).toNat < 0x20 := by
    rw [Utf8.toNat_ofNat byte]
    omega
  split
  · simp only [List.mem_singleton, forall_eq]
    rw [Utf8.toNat_ofNat (by omega)]
    omega
  · split
    · simp only [List.mem_cons, List.not_mem_nil, or_false, forall_eq_or_imp, forall_eq]
      exact ⟨large (by omega) (by omega), large (by omega) (by omega)⟩
    · split
      · simp only [List.mem_cons, List.not_mem_nil, or_false, forall_eq_or_imp, forall_eq]
        exact ⟨large (by omega) (by omega), large (by omega) (by omega),
          large (by omega) (by omega)⟩
      · simp only [List.mem_cons, List.not_mem_nil, or_false, forall_eq_or_imp, forall_eq]
        exact ⟨large (by omega) (by omega), large (by omega) (by omega),
          large (by omega) (by omega), large (by omega) (by omega)⟩

theorem scanStringFrom_char (c : Char) (h : (Utf8.encode (renderChar c) ++ s).length ≤ whole.length) :
    ∃ bound, scanStringFrom whole done ⟨Utf8.encode (renderChar c) ++ s, h⟩ =
      scanStringFrom whole ((Utf8.encode [c]).reverse ++ done) ⟨s, bound⟩ := by
  revert h
  rcases renderChar_cases c with ⟨b, letter, printed⟩ | ⟨control, printed⟩ |
    ⟨printable, quote, backslash, printed⟩
  · have escape : scanEscape (b :: s) = .ok (c, (Bytes.Tail.all s).rest) := by
      simp only [scanEscape, letter]
    rw [printed]
    exact fun h => scanStringFrom_escape escape h
  · obtain ⟨e, split, ⟨t, bound⟩, escape, left⟩ := scanEscape_control (s := s) control
    obtain rfl : t = s := left
    rw [printed, split]
    exact fun h => scanStringFrom_escape escape h
  · have same : Utf8.encode [c] = String.utf8EncodeChar c := List.append_nil _
    rw [printed, same]
    exact fun h => scanStringFrom_plains done (encodeChar_plain printable quote backslash) h

theorem scanStringFrom_chars (cs : List Char) (done : Bytes)
    (h : (Utf8.encode (cs.flatMap renderChar) ++ s).length ≤ whole.length) :
    ∃ bound, scanStringFrom whole done ⟨Utf8.encode (cs.flatMap renderChar) ++ s, h⟩ =
      scanStringFrom whole ((Utf8.encode cs).reverse ++ done) ⟨s, bound⟩ := by
  induction cs generalizing done with
  | nil => exact ⟨h, rfl⟩
  | cons c cs ih =>
      have chars : Utf8.encode (c :: cs) = Utf8.encode [c] ++ Utf8.encode cs :=
        Utf8.encode_append [c] cs
      revert h
      rw [List.flatMap_cons, Utf8.encode_append, List.append_assoc, chars, List.reverse_append,
        List.append_assoc]
      intro h
      obtain ⟨within, first⟩ := scanStringFrom_char c h
      obtain ⟨bound, more⟩ := ih _ within
      exact ⟨bound, first.trans more⟩

theorem closeString_encode (cs : List Char) (unread : Bytes) :
    closeString (Utf8.encode cs) unread = .ok (String.ofList cs) := by
  rw [closeString, Utf8.decode_encode]

theorem scanString_render (text : String) (rest : Bytes) :
    ∃ s, Utf8.encode (renderString text) ++ rest = 0x22 :: s ∧
      ∃ r, scanString s = .ok (text, r) ∧ r.val = rest := by
  refine ⟨Utf8.encode (text.toList.flatMap renderChar) ++ 0x22 :: rest, ?_, ?_⟩
  · rw [renderString, Utf8.encode_cons, Utf8.encode_append, List.append_assoc, List.append_assoc]
    rfl
  · obtain ⟨bound, scanned⟩ := scanStringFrom_chars (s := 0x22 :: rest) text.toList [] (Nat.le_refl _)
    refine ⟨⟨rest, bound⟩, ?_, rfl⟩
    rw [scanString]
    refine scanned.trans ?_
    rw [scanStringFrom, if_pos rfl, List.append_nil, List.reverse_reverse, closeString_encode,
      String.ofList_toList]
    rfl

end

/-! ## Objects -/

theorem encode_entry (k : String) (v : Value) (fields : List (String × Value)) :
    Utf8.encode (renderString k ++ ':' :: (v.render ++ renderFields fields)) =
      Utf8.encode (renderString k) ++ 0x3A :: (v.encode ++ Utf8.encode (renderFields fields)) := by
  rw [Utf8.encode_append, Utf8.encode_cons, Utf8.encode_append]
  rfl

theorem encode_object (k : String) (v : Value) (fields : List (String × Value)) :
    (Value.object ((k, v) :: fields)).encode = 0x7B :: (Utf8.encode (renderString k) ++
      0x3A :: (v.encode ++ Utf8.encode (renderFields fields))) := by
  rw [Value.encode, Value.render, Utf8.encode_cons, encode_entry]
  rfl

theorem encode_fields (k : String) (v : Value) (fields : List (String × Value)) :
    Utf8.encode (renderFields ((k, v) :: fields)) = 0x2C :: (Utf8.encode (renderString k) ++
      0x3A :: (v.encode ++ Utf8.encode (renderFields fields))) := by
  rw [renderFields, Utf8.encode_cons, encode_entry]
  rfl

theorem endsNumber_fields (fields : List (String × Value)) (rest : Bytes) :
    EndsNumber (Utf8.encode (renderFields fields) ++ rest) := by
  cases fields with
  | nil =>
      rintro b ⟨⟩
      decide
  | cons field fields =>
      rw [encode_fields]
      rintro b ⟨⟩
      decide

end Json

end WampClient
