import WampClient.Options.Json
import WampClient.Proofs.Json.Printed
import WampClient.Proofs.Options.Valid

/-! # Storing options

Options that were written as a text are read from that text as they were. Valid options can be
written when each span has fewer than 2^64 milliseconds: a longer span is valid all the same, and
the first such span is reported.
-/

namespace WampClient

namespace Duration

variable {d : Duration}

def IsCountable (d : Duration) : Prop :=
  d.millis < 0x1_0000_0000_0000_0000

instance (d : Duration) : Decidable d.IsCountable :=
  inferInstanceAs (Decidable (_ < _))

theorem ofMillis_millis (whole : d.IsWholeMillis) (countable : d.IsCountable) :
    ofMillis (.ofNat d.millis) = d := by
  have word : (UInt64.ofNat d.millis).toNat = d.millis := UInt64.toNat_ofNat_of_lt' countable
  have nanos := d.nanos_lt
  unfold IsWholeMillis at whole
  cases d with
  | mk seconds nanos _ _ =>
      simp only [ofMillis, word, millis, toNanos, mk.injEq] at *
      omega

end Duration

namespace Options

open Json

variable {o : Options} {d : Duration}

theorem encodeDuration_of_countable (whole : d.IsWholeMillis) (countable : d.IsCountable) :
    encodeDuration d = .ok (.ofNat d.millis) := by
  unfold Duration.IsCountable at countable
  rw [encodeDuration, if_pos countable, if_pos (Duration.ofMillis_millis whole countable)]

theorem encodeDuration_of_not_countable (uncountable : ¬ d.IsCountable) :
    encodeDuration d = .error (.json (.durationOutOfRange d)) := by
  unfold Duration.IsCountable at uncountable
  rw [encodeDuration, if_neg uncountable]

theorem ofMillis_of_encodeDuration {ms : UInt64} (written : encodeDuration d = .ok ms) :
    Duration.ofMillis ms = d := by
  unfold encodeDuration at written
  split at written
  · split at written
    · rename_i same
      cases written
      exact same
    · cases written
  · cases written

/-! ## Reading one field -/

section

variable {rest : Bytes}

theorem scanUInt64_word (expected : String) (n : UInt64) (ends : EndsNumber rest) :
    ∃ r, scanUInt64 expected ((Value.whole (.ofWord n)).encode ++ rest) = .ok (n, r) ∧
      r.val = rest := by
  obtain ⟨b, s, split, leads, r, scanned, left⟩ := scanLeaf_whole (.ofWord n) ends
  have word : (Whole.ofWord n).toWord? = some n := by
    simp [Whole.toWord?, Whole.ofWord, Whole.ofNat]
  rw [Value.encode, split]
  refine ⟨r.behind (Nat.lt_succ_self _), ?_, left⟩
  simp only [scanUInt64, skipBlanks_cons (isBlank_of_leadsNumber leads), Bytes.Tail.all, scanned,
    word]

def encodeSpan (d : Duration) : Except Error Value :=
  (encodeDuration d).map fun ms => .whole (.ofWord ms)

theorem encodeSpan_eq_ok {v : Value} (written : encodeSpan d = .ok v) :
    ∃ ms, Duration.ofMillis ms = d ∧ v = .whole (.ofWord ms) := by
  unfold encodeSpan at written
  cases count : encodeDuration d with
  | error e =>
      rw [count] at written
      cases written
  | ok ms =>
      rw [count] at written
      cases written
      exact ⟨ms, ofMillis_of_encodeDuration count, rfl⟩

theorem scanDuration_span {v : Value} (written : encodeSpan d = .ok v) (ends : EndsNumber rest) :
    ∃ r, scanDuration (v.encode ++ rest) = .ok (d, r) ∧ r.val = rest := by
  obtain ⟨ms, rfl, rfl⟩ := encodeSpan_eq_ok written
  obtain ⟨r, scanned, left⟩ := scanUInt64_word "u64" ms ends
  refine ⟨r, ?_, left⟩
  rw [scanDuration, scanned]
  rfl

theorem scanInterval_of_leadsNumber {b : UInt8} (leads : LeadsNumber b) (s : Bytes) :
    scanInterval (b :: s) = (scanDuration (b :: s)).map fun (d, r) => (some d, r) := by
  have number : b ≠ 0x6E := by
    rintro rfl
    revert leads
    simp [LeadsNumber, Decimal.digit?]
  simp only [scanInterval, skipBlanks_cons (isBlank_of_leadsNumber leads), Bytes.Tail.all]
  rw [if_neg number]

theorem scanInterval_interval {interval : Option Duration} {v : Value}
    (written : encodeInterval interval = .ok v) (ends : EndsNumber rest) :
    ∃ r, scanInterval (v.encode ++ rest) = .ok (interval, r) ∧ r.val = rest := by
  cases interval with
  | none =>
      cases written
      exact ⟨(Bytes.Tail.all rest).rest.cons.cons.cons, rfl, rfl⟩
  | some d =>
      have scan := scanDuration_span written ends
      obtain ⟨ms, rfl, rfl⟩ := encodeSpan_eq_ok written
      obtain ⟨b, s, split, leads, _⟩ := scanLeaf_whole (.ofWord ms) ends
      rw [Value.encode, split] at scan ⊢
      obtain ⟨r, scanned, left⟩ := scan
      refine ⟨r, ?_, left⟩
      rw [scanInterval_of_leadsNumber leads, scanned]
      rfl

/-! ## Reading all fields -/

def store (o : Options) : Field → Except Error Value
  | .maxFramePayloadSize => .ok (.whole (.ofWord o.maxFramePayloadSize))
  | .autoPingInterval => encodeInterval o.autoPingInterval
  | .autoPingTimeout => encodeSpan o.autoPingTimeout
  | .closeTimeout => encodeSpan o.closeTimeout

/-- The draft once a field has the value that it has in the options. -/
def Draft.take (draft : Draft) (o : Options) : Field → Draft
  | .maxFramePayloadSize => { draft with maxFramePayloadSize := some o.maxFramePayloadSize }
  | .autoPingInterval => { draft with autoPingInterval := some o.autoPingInterval }
  | .autoPingTimeout => { draft with autoPingTimeout := some o.autoPingTimeout }
  | .closeTimeout => { draft with closeTimeout := some o.closeTimeout }

def Draft.takeAll (draft : Draft) (o : Options) (fields : List Field) : Draft :=
  fields.foldl (fun draft f => draft.take o f) draft

theorem Draft.has_empty (f : Field) : Draft.empty.has f = false := by
  cases f <;> rfl

theorem Draft.has_take (draft : Draft) {f g : Field} (other : f ≠ g) :
    (draft.take o f).has g = draft.has g := by
  cases f <;> cases g <;> simp_all [Draft.take, Draft.has]

theorem scan_store (draft : Draft) {f : Field} {v : Value} (stored : o.store f = .ok v)
    (ends : EndsNumber rest) :
    ∃ r, draft.scan f (v.encode ++ rest) = .ok (draft.take o f, r) ∧ r.val = rest := by
  cases f with
  | maxFramePayloadSize =>
      cases stored
      obtain ⟨r, scanned, left⟩ := scanUInt64_word "usize" o.maxFramePayloadSize ends
      exact ⟨r, by simp only [Draft.scan, scanned]; rfl, left⟩
  | autoPingInterval =>
      obtain ⟨r, scanned, left⟩ := scanInterval_interval stored ends
      exact ⟨r, by simp only [Draft.scan, scanned]; rfl, left⟩
  | autoPingTimeout | closeTimeout =>
      obtain ⟨r, scanned, left⟩ := scanDuration_span stored ends
      exact ⟨r, by simp only [Draft.scan, scanned]; rfl, left⟩

theorem ofKey?_key (f : Field) : Field.ofKey? f.key = some f := by
  cases f <;> decide

/-- A stored field, behind a comma if it is not the first one, is read before the fields that come
    behind it. What the draft holds by then does not matter, as long as it does not hold that field.
    -/
theorem scanObject_stored {draft last : Draft} {p : Field × Value} {fields : List (String × Value)}
    {left : Bytes} (isFirst : Bool) (stored : o.store p.1 = .ok p.2)
    (fresh : draft.has p.1 = false)
    (more : ∃ r, scanObject false (draft.take o p.1) (Utf8.encode (renderFields fields) ++ rest) =
      .ok (last, r) ∧ r.val = left) :
    ∃ r, scanObject isFirst draft ((if isFirst then [] else [0x2C]) ++
        (Utf8.encode (renderString p.1.key) ++
          0x3A :: (p.2.encode ++ (Utf8.encode (renderFields fields) ++ rest)))) =
      .ok (last, r) ∧ r.val = left := by
  obtain ⟨⟨w, valueBound⟩, value, (rfl : w = _)⟩ :=
    scan_store draft stored (endsNumber_fields fields rest)
  obtain ⟨t, quoted, ⟨u, textBound⟩, text, (rfl : u = _)⟩ := scanString_render p.1.key
    (0x3A :: (p.2.encode ++ (Utf8.encode (renderFields fields) ++ rest)))
  obtain ⟨r, more, rfl⟩ := more
  have key : ∃ k, nextKey isFirst ((if isFirst then [] else [0x2C]) ++ 0x22 :: t) = .ok (some k) ∧
      k.val = t := by
    cases isFirst with
    | true => exact ⟨(Bytes.Tail.all t).rest, rfl, rfl⟩
    | false => exact ⟨(Bytes.Tail.all t).rest.cons, rfl, rfl⟩
  obtain ⟨⟨k, keyBound⟩, key, (rfl : k = _)⟩ := key
  have colon (s : Bytes) : skipColon (0x3A :: s) = .ok ⟨s, Nat.lt_succ_self _⟩ := rfl
  rw [quoted]
  refine ⟨(((r.behind valueBound).behind (Nat.lt_succ_self _)).behind textBound).behind keyBound,
    ?_, rfl⟩
  rw [scanObject]
  simp only [key, text, ofKey?_key, Option.any_some, fresh, Bool.false_eq_true, if_false, colon,
    value, more]
  rfl

theorem fresh_take {draft : Draft} {p : Field × Value} {values : List (Field × Value)}
    (apart : p.1 ∉ values.map Prod.fst) (fresh : ∀ q ∈ values, draft.has q.1 = false) :
    ∀ q ∈ values, (draft.take o p.1).has q.1 = false := by
  intro q member
  have other : p.1 ≠ q.1 := fun same => apart (same ▸ List.mem_map_of_mem member)
  rw [Draft.has_take draft other]
  exact fresh q member

theorem scanObject_fields (rest : Bytes) (values : List (Field × Value)) (draft : Draft)
    (stored : ∀ p ∈ values, o.store p.1 = .ok p.2) (distinct : (values.map Prod.fst).Nodup)
    (fresh : ∀ p ∈ values, draft.has p.1 = false) :
    ∃ r, scanObject false draft
        (Utf8.encode (renderFields (values.map fun p => (p.1.key, p.2))) ++ rest) =
      .ok (draft.takeAll o (values.map Prod.fst), r) ∧ r.val = rest := by
  induction values generalizing draft with
  | nil =>
      refine ⟨(Bytes.Tail.all rest).rest, ?_, rfl⟩
      change scanObject false draft (0x7D :: rest) = _
      rw [scanObject]
      rfl
  | cons p values ih =>
      obtain ⟨apart, distinct⟩ := List.nodup_cons.mp distinct
      have more := ih (draft.take o p.1) (fun q member => stored q (List.mem_cons_of_mem p member))
        distinct (fresh_take apart fun q member => fresh q (List.mem_cons_of_mem p member))
      have text : Utf8.encode (renderFields ((p :: values).map fun p => (p.1.key, p.2))) ++ rest =
          [0x2C] ++ (Utf8.encode (renderString p.1.key) ++ 0x3A :: (p.2.encode ++
            (Utf8.encode (renderFields (values.map fun p => (p.1.key, p.2))) ++ rest))) := by
        rw [List.map_cons, encode_fields]
        simp only [List.cons_append, List.append_assoc, List.nil_append]
      rw [text]
      exact scanObject_stored false (stored p List.mem_cons_self) (fresh p List.mem_cons_self) more

end

theorem toValue_eq_ok {v : Value} (written : o.toValue = .ok v) :
    ∃ values : List (Field × Value), values.map Prod.fst = Field.all ∧
      (∀ p ∈ values, o.store p.1 = .ok p.2) ∧ v = .object (values.map fun p => (p.1.key, p.2)) := by
  simp only [toValue, bind_eq_ok] at written
  obtain ⟨i, interval, p, pong, c, close, written⟩ := written
  refine ⟨[(.maxFramePayloadSize, .whole (.ofWord o.maxFramePayloadSize)), (.autoPingInterval, i),
    (.autoPingTimeout, .whole (.ofWord p)), (.closeTimeout, .whole (.ofWord c))], rfl, ?_,
    (Except.ok.inj written).symm⟩
  simp only [List.forall_mem_cons, store, encodeSpan, interval, pong, close]
  simp [Except.map]

theorem scan_brace (s : Bytes) : scan (0x7B :: s) =
    (scanObject true .empty s).map fun (draft, r) =>
      (draft.finish, r.behind (Nat.lt_succ_self _)) := by
  simp only [Options.scan, skipBlanks_cons (b := 0x7B) rfl, Bytes.Tail.all]
  rw [if_neg (by decide), if_pos trivial]

/-- An object that holds some of the fields, in any order, is read as what they say. -/
theorem scan_object (values : List (Field × Value)) (stored : ∀ p ∈ values, o.store p.1 = .ok p.2)
    (distinct : (values.map Prod.fst).Nodup) :
    ∃ r, scan (Value.object (values.map fun p => (p.1.key, p.2))).encode =
      .ok ((Draft.empty.takeAll o (values.map Prod.fst)).finish, r) ∧ r.val = [] := by
  cases values with
  | nil =>
      refine ⟨⟨[], by decide⟩, ?_, rfl⟩
      change scan [0x7B, 0x7D] = _
      rw [scan_brace, scanObject]
      rfl
  | cons p values =>
      obtain ⟨apart, distinct⟩ := List.nodup_cons.mp distinct
      have more := scanObject_fields [] values (Draft.empty.take o p.1)
        (fun q member => stored q (List.mem_cons_of_mem p member)) distinct
        (fresh_take apart fun q _ => Draft.has_empty q.1)
      have scan := scanObject_stored true (stored p List.mem_cons_self) (Draft.has_empty p.1) more
      rw [if_pos rfl, List.nil_append, List.append_nil] at scan
      obtain ⟨r, scanned, left⟩ := scan
      rw [List.map_cons, encode_object]
      refine ⟨r.behind (Nat.lt_succ_self _), ?_, left⟩
      rw [scan_brace, scanned]
      rfl

theorem decode_object (values : List (Field × Value)) (stored : ∀ p ∈ values, o.store p.1 = .ok p.2)
    (distinct : (values.map Prod.fst).Nodup) :
    decode (Value.object (values.map fun p => (p.1.key, p.2))).encode =
      .ok (Draft.empty.takeAll o (values.map Prod.fst)).finish := by
  obtain ⟨⟨r, bound⟩, scanned, (rfl : r = [])⟩ := scan_object values stored distinct
  rw [decode, readAll, scanned]
  rfl

/-- Options are read from their text as they were written. -/
theorem decode_of_encode {text : Bytes} (written : o.encode = .ok text) : decode text = .ok o := by
  unfold encode at written
  cases value : o.toValue with
  | error e =>
      rw [value] at written
      cases written
  | ok v =>
      rw [value] at written
      cases written
      obtain ⟨values, fields, stored, rfl⟩ := toValue_eq_ok value
      rw [decode_object values stored (fields ▸ by decide), fields]
      rfl

theorem encodeInterval_ok {interval : Option Duration}
    (counted : ∀ d ∈ interval.toList, ∃ ms, encodeDuration d = .ok ms) :
    ∃ v, encodeInterval interval = .ok v := by
  cases interval with
  | none => exact ⟨.null, rfl⟩
  | some d =>
      obtain ⟨ms, count⟩ := counted d List.mem_cons_self
      exact ⟨.whole (.ofWord ms), by rw [encodeInterval, count]; rfl⟩

theorem toValue_ok (counted : ∀ d ∈ o.spans, ∃ ms, encodeDuration d = .ok ms) :
    ∃ v, o.toValue = .ok v := by
  obtain ⟨i, interval⟩ := encodeInterval_ok fun d member => counted d (List.mem_append_left _ member)
  obtain ⟨p, pong⟩ := counted o.autoPingTimeout (by simp [spans])
  obtain ⟨c, close⟩ := counted o.closeTimeout (by simp [spans])
  exact ⟨_, bind_eq_ok.mpr ⟨i, interval, bind_eq_ok.mpr ⟨p, pong, bind_eq_ok.mpr ⟨c, close, rfl⟩⟩⟩⟩

theorem spans_split {before after : List Duration} (split : o.spans = before ++ d :: after) :
    (before = [] ∧ o.autoPingInterval = some d) ∨
    (before = o.autoPingInterval.toList ∧ d = o.autoPingTimeout) ∨
    (before = o.autoPingInterval.toList ++ [o.autoPingTimeout] ∧ d = o.closeTimeout) := by
  unfold spans at split
  cases given : o.autoPingInterval with
  | none =>
      rw [given] at split
      match before with
      | [] => simp_all
      | [_] => simp_all
      | _ :: _ :: _ => simp at split
  | some ping =>
      rw [given] at split
      match before with
      | [] => simp_all
      | [_] => simp_all
      | [_, _] => simp_all
      | _ :: _ :: _ :: _ => simp at split

theorem toValue_error {before after : List Duration} {e : Error}
    (split : o.spans = before ++ d :: after)
    (counted : ∀ b ∈ before, ∃ ms, encodeDuration b = .ok ms) (failed : encodeDuration d = .error e) :
    o.toValue = .error e := by
  simp only [toValue, bind_eq_error]
  rcases spans_split split with ⟨rfl, given⟩ | ⟨rfl, rfl⟩ | ⟨rfl, rfl⟩
  · left
    rw [given, encodeInterval, failed]
    rfl
  · obtain ⟨i, interval⟩ := encodeInterval_ok counted
    exact .inr ⟨i, interval, .inl failed⟩
  · obtain ⟨i, interval⟩ :=
      encodeInterval_ok fun b member => counted b (List.mem_append_left _ member)
    obtain ⟨p, pong⟩ := counted o.autoPingTimeout (by simp)
    exact .inr ⟨i, interval, .inr ⟨p, pong, .inl failed⟩⟩

/-- The options are written as `text`, and that text gives valid options that are equal to them. -/
structure StoredAs (o : Options) (text : Bytes) : Prop where
  written : o.encode = .ok text
  read : decode text = .ok o
  accepted : (decode text).bind validate = .ok ()

/-- Which options are stored, and what becomes of the others. The spans are looked at in their
    order, so the first one that is too long is the one that is reported. -/
structure Storage (o : Options) : Prop where
  kept (countable : ∀ d ∈ o.spans, d.IsCountable) : ∃ text, o.StoredAs text
  refused (before : List Duration) (d : Duration) (after : List Duration)
    (split : o.spans = before ++ d :: after) (countable : ∀ b ∈ before, b.IsCountable)
    (exceeds : ¬ d.IsCountable) : o.encode = .error (.json (.durationOutOfRange d))

/-- Valid options are stored and read back if each span has fewer than 2^64 milliseconds. To be
    valid is not enough for that: `validate` has no upper bound, and the first span that is longer
    is reported. -/
theorem storage_of_valid (valid : o.validate = .ok ()) : o.Storage := by
  obtain ⟨_, checked⟩ := validate_eq_ok_iff.mp valid
  have counted (d : Duration) (member : d ∈ o.spans) (countable : d.IsCountable) :
      ∃ ms, encodeDuration d = .ok ms :=
    ⟨_, encodeDuration_of_countable (checked d member).2 countable⟩
  constructor
  case kept =>
    intro countable
    obtain ⟨v, value⟩ := toValue_ok fun d member => counted d member (countable d member)
    have written : o.encode = .ok v.encode := by
      rw [encode, value]
      rfl
    have read := decode_of_encode written
    exact ⟨v.encode, written, read, by rw [read]; exact valid⟩
  case refused =>
    intro before d after split countable exceeds
    have value := toValue_error split
      (fun b member => counted b (by simp [split, member]) (countable b member))
      (encodeDuration_of_not_countable exceeds)
    rw [encode, value]
    rfl

/-- The longest span of whole seconds. -/
def ever : Duration :=
  .ofSeconds 0xFFFF_FFFF_FFFF_FFFF

/-- Options that differ from the default ones in every field. -/
def brief : Options where
  maxFramePayloadSize := 4096
  autoPingInterval := none
  autoPingTimeout := .ofMillis 1500
  closeTimeout := .ofMillis 250

theorem storage_of_brief :
    (brief.validate = .ok () ∧ ∃ text, brief.StoredAs text) ∧
    ((brief.withAutoPingInterval (.ofMillis 333)).validate = .ok () ∧
      ∃ text, (brief.withAutoPingInterval (.ofMillis 333)).StoredAs text) ∧
    ((brief.withCloseTimeout ever).validate = .ok () ∧
      (brief.withCloseTimeout ever).encode = .error (.json (.durationOutOfRange ever))) :=
  ⟨⟨rfl, (storage_of_valid rfl).kept (by decide)⟩, ⟨rfl, (storage_of_valid rfl).kept (by decide)⟩,
    rfl, (storage_of_valid rfl).refused [brief.autoPingTimeout] ever [] rfl (by decide) (by decide)⟩

/-- The longest span is valid as each of the three, and options with it are not stored. -/
theorem unstored_although_valid :
    ((default.withAutoPingInterval ever).validate = .ok () ∧
      (default.withAutoPingInterval ever).encode = .error (.json (.durationOutOfRange ever))) ∧
    ((default.withAutoPingTimeout ever).validate = .ok () ∧
      (default.withAutoPingTimeout ever).encode = .error (.json (.durationOutOfRange ever))) ∧
    ((default.withCloseTimeout ever).validate = .ok () ∧
      (default.withCloseTimeout ever).encode = .error (.json (.durationOutOfRange ever))) :=
  ⟨⟨rfl, rfl⟩, ⟨rfl, rfl⟩, rfl, rfl⟩

end Options

end WampClient
