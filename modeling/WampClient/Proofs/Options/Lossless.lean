import WampClient.Proofs.Json.Accepted
import WampClient.Proofs.Options.Stored

/-! # Nothing is lost in storing options

Options are written exactly if each span is a whole number of milliseconds below 2^64, and what is
written is read as the same options. Every text that is read gives options of that kind, so writing
them again and reading that changes nothing.
-/

namespace WampClient

namespace Duration

/-- The span is a whole number of milliseconds, and there are fewer than 2^64 of them. -/
def IsStorable (d : Duration) : Prop :=
  d.IsWholeMillis ∧ d.IsCountable

instance (d : Duration) : Decidable d.IsStorable :=
  inferInstanceAs (Decidable (_ ∧ _))

theorem millis_ofMillis (n : UInt64) : (ofMillis n).millis = n.toNat := by
  simp only [millis, toNanos, ofMillis]
  omega

theorem isStorable_ofMillis (n : UInt64) : (ofMillis n).IsStorable := by
  constructor
  · simp only [IsWholeMillis, ofMillis]
    omega
  · simpa only [IsCountable, millis_ofMillis] using n.toNat_lt

end Duration

namespace Options

open Json

variable {o : Options} {d : Duration}

/-! ## What can be written -/

theorem exists_encodeDuration_iff : (∃ ms, encodeDuration d = .ok ms) ↔ d.IsStorable := by
  constructor
  · rintro ⟨ms, count⟩
    exact ofMillis_of_encodeDuration count ▸ Duration.isStorable_ofMillis ms
  · rintro ⟨whole, countable⟩
    exact ⟨_, encodeDuration_of_countable whole countable⟩

/-- What is wrong with a span that is not written: its length is looked at first. -/
def refusal (d : Duration) : JsonFault :=
  if d.IsCountable then .fractionalDuration d else .durationOutOfRange d

theorem encodeDuration_refused (bad : ¬ d.IsStorable) : encodeDuration d = .error (.json (refusal d)) := by
  by_cases countable : d.IsCountable
  · cases count : encodeDuration d with
    | ok ms => exact absurd (exists_encodeDuration_iff.mp ⟨ms, count⟩) bad
    | error e =>
        rw [encodeDuration, if_pos (by exact countable)] at count
        split at count
        · cases count
        · cases count
          rw [refusal, if_pos countable]
  · rw [encodeDuration_of_not_countable countable, refusal, if_neg countable]

theorem exists_encode_iff : (∃ text, o.encode = .ok text) ↔ ∀ d ∈ o.spans, d.IsStorable := by
  simp only [← exists_encodeDuration_iff]
  constructor
  · rintro ⟨text, written⟩
    cases value : o.toValue with
    | error e =>
        rw [encode, value] at written
        cases written
    | ok v =>
        simp only [toValue, bind_eq_ok] at value
        obtain ⟨i, interval, p, pong, c, close, _⟩ := value
        intro d member
        simp only [spans, List.mem_append, Option.mem_toList, List.mem_cons, List.not_mem_nil,
          or_false] at member
        rcases member with given | rfl | rfl
        · rw [given, encodeInterval] at interval
          cases count : encodeDuration d with
          | error e =>
              rw [count] at interval
              cases interval
          | ok ms => exact ⟨ms, rfl⟩
        · exact ⟨p, pong⟩
        · exact ⟨c, close⟩
  · intro counted
    obtain ⟨v, value⟩ := toValue_ok counted
    exact ⟨v.encode, by rw [encode, value]; rfl⟩

/-! ## What can be read -/

section

variable {s : Bytes} {draft next : Draft}

theorem scanDuration_storable {r : Bytes.Rest s} (scanned : scanDuration s = .ok (d, r)) :
    d.IsStorable := by
  obtain ⟨⟨n, _⟩, _, same⟩ := map_eq_ok.mp scanned
  cases same
  exact Duration.isStorable_ofMillis n

theorem scanInterval_storable {interval : Option Duration} {r : Bytes.Rest s}
    (scanned : scanInterval s = .ok (interval, r)) : ∀ d ∈ interval, d.IsStorable := by
  unfold scanInterval at scanned
  split at scanned
  · split at scanned
    · obtain ⟨_, _, same⟩ := map_eq_ok.mp scanned
      cases same
      rintro d ⟨⟩
    · obtain ⟨⟨d, r⟩, scanned, same⟩ := map_eq_ok.mp scanned
      cases same
      rintro d ⟨⟩
      exact scanDuration_storable scanned
  · cases scanned

def Draft.spans (draft : Draft) : List Duration :=
  (draft.autoPingInterval.bind id).toList ++ draft.autoPingTimeout.toList ++
    draft.closeTimeout.toList

/-- Whatever was read can be written again. -/
def Draft.IsStorable (draft : Draft) : Prop :=
  ∀ d ∈ draft.spans, d.IsStorable

theorem Draft.IsStorable.scan {f : Field} {r : Bytes.Rest s} (before : draft.IsStorable)
    (scanned : draft.scan f s = .ok (next, r)) : next.IsStorable := by
  simp only [IsStorable, spans, List.mem_append, or_imp, forall_and, Option.mem_toList] at before ⊢
  obtain ⟨⟨interval, pong⟩, close⟩ := before
  cases f with
  | maxFramePayloadSize =>
      obtain ⟨_, _, same⟩ := map_eq_ok.mp scanned
      cases same
      exact ⟨⟨interval, pong⟩, close⟩
  | autoPingInterval =>
      obtain ⟨_, read, same⟩ := map_eq_ok.mp scanned
      cases same
      exact ⟨⟨scanInterval_storable read, pong⟩, close⟩
  | autoPingTimeout =>
      obtain ⟨_, read, same⟩ := map_eq_ok.mp scanned
      cases same
      exact ⟨⟨interval, fun d given => Option.some.inj given ▸ scanDuration_storable read⟩, close⟩
  | closeTimeout =>
      obtain ⟨_, read, same⟩ := map_eq_ok.mp scanned
      cases same
      exact ⟨⟨interval, pong⟩, fun d given => Option.some.inj given ▸ scanDuration_storable read⟩

/-- The fields of an object are at their end, or one field is read into the draft and one that
    nobody knows is skipped, and the others come behind it. -/
theorem scanObject_cases {isFirst : Bool} {r : Bytes.Rest s}
    (scanned : scanObject isFirst draft s = .ok (next, r)) :
    next = draft ∨ ∃ (step : Draft) (w : Bytes) (q : Bytes.Rest w), w.length < s.length ∧
      (step = draft ∨ ∃ f v, ∃ p : Bytes.Rest v, draft.scan f v = .ok (step, p)) ∧
      scanObject false step w = .ok (next, q) := by
  rw [scanObject] at scanned
  split at scanned
  · cases scanned
  · obtain ⟨_, _, same⟩ := map_eq_ok.mp scanned
    cases same
    exact .inl rfl
  · split at scanned
    · cases scanned
    · dsimp only at scanned
      split at scanned
      · cases scanned
      · split at scanned
        · cases scanned
        · split at scanned
          · cases scanned
          · rename_i v hv _ _ step w hw read
            obtain ⟨⟨last, q⟩, more, same⟩ := map_eq_ok.mp scanned
            cases same
            refine .inr ⟨step, w, q, by omega, ?_, more⟩
            split at read
            · exact .inr ⟨_, _, _, read⟩
            · obtain ⟨_, _, same⟩ := map_eq_ok.mp read
              cases same
              exact .inl rfl

/-- Each field leaves less to be read, so the induction is on the length of what is left. What is
    carried along is that all spans in the draft can be written. -/
theorem scanObject_storable {isFirst : Bool} {r : Bytes.Rest s} (before : draft.IsStorable)
    (scanned : scanObject isFirst draft s = .ok (next, r)) : next.IsStorable := by
  induction length : s.length using Nat.strongRecOn generalizing isFirst draft s r with
  | ind n ih =>
      rcases scanObject_cases scanned with rfl | ⟨step, w, q, shorter, read, more⟩
      · exact before
      · refine ih _ (length ▸ shorter) ?_ more rfl
        rcases read with rfl | ⟨f, v, p, read⟩
        · exact before
        · exact before.scan read

theorem scanTuple_storable {isFirst : Bool} {fields : List Field} {r : Bytes.Rest s}
    (before : draft.IsStorable) (scanned : scanTuple isFirst draft fields s = .ok (next, r)) :
    next.IsStorable := by
  induction fields generalizing isFirst draft s with
  | nil =>
      obtain ⟨_, _, same⟩ := map_eq_ok.mp scanned
      cases same
      exact before
  | cons f fields ih =>
      rw [scanTuple] at scanned
      split at scanned
      · cases scanned
      · obtain ⟨_, _, same⟩ := map_eq_ok.mp scanned
        cases same
        exact before
      · split at scanned
        · cases scanned
        · rename_i read
          obtain ⟨_, more, same⟩ := map_eq_ok.mp scanned
          cases same
          exact ih (before.scan read) more

theorem Draft.empty_storable : Draft.empty.IsStorable :=
  List.forall_mem_nil _

theorem default_storable : ∀ d ∈ default.spans, d.IsStorable := by
  decide

theorem Draft.IsStorable.finish (storable : draft.IsStorable) :
    ∀ d ∈ draft.finish.spans, d.IsStorable := by
  have defaults := default_storable
  simp only [IsStorable, Draft.spans, Options.spans, List.mem_append, or_imp, forall_and,
    Option.mem_toList, List.forall_mem_cons] at storable defaults ⊢
  obtain ⟨⟨interval, pong⟩, close⟩ := storable
  obtain ⟨usualInterval, usualPong, usualClose, _⟩ := defaults
  refine ⟨?_, ?_, ?_, List.forall_mem_nil _⟩
  · change ∀ d, draft.autoPingInterval.getD default.autoPingInterval = some d → d.IsStorable
    cases read : draft.autoPingInterval with
    | none => exact usualInterval
    | some given => exact fun d isGiven => interval d (by rw [read]; exact isGiven)
  · change (draft.autoPingTimeout.getD default.autoPingTimeout).IsStorable
    cases read : draft.autoPingTimeout with
    | none => exact usualPong
    | some given => exact pong given read
  · change (draft.closeTimeout.getD default.closeTimeout).IsStorable
    cases read : draft.closeTimeout with
    | none => exact usualClose
    | some given => exact close given read

theorem scan_storable {r : Bytes.Rest s} (scanned : scan s = .ok (o, r)) :
    ∀ d ∈ o.spans, d.IsStorable := by
  unfold scan at scanned
  split at scanned
  · cases scanned
  · split at scanned
    · obtain ⟨_, fields, same⟩ := map_eq_ok.mp scanned
      cases same
      exact (scanTuple_storable Draft.empty_storable fields).finish
    · split at scanned
      · obtain ⟨_, fields, same⟩ := map_eq_ok.mp scanned
        cases same
        exact (scanObject_storable Draft.empty_storable fields).finish
      · cases scanned

theorem decode_storable {text : Bytes} (read : decode text = .ok o) :
    ∀ d ∈ o.spans, d.IsStorable := by
  unfold decode at read
  split at read
  · rename_i whole
    cases read
    obtain ⟨r, scanned⟩ := readAll_eq_ok whole
    exact scan_storable scanned
  · cases read

end

/-! ## Texts with some of the fields -/

/-- The options with defaults in all fields but these. -/
def only (o : Options) (fields : List Field) : Options where
  maxFramePayloadSize := if .maxFramePayloadSize ∈ fields then o.maxFramePayloadSize
    else default.maxFramePayloadSize
  autoPingInterval := if .autoPingInterval ∈ fields then o.autoPingInterval
    else default.autoPingInterval
  autoPingTimeout := if .autoPingTimeout ∈ fields then o.autoPingTimeout
    else default.autoPingTimeout
  closeTimeout := if .closeTimeout ∈ fields then o.closeTimeout else default.closeTimeout

theorem Draft.takeAll_eq (draft : Draft) (fields : List Field) : draft.takeAll o fields =
    { maxFramePayloadSize := if .maxFramePayloadSize ∈ fields then some o.maxFramePayloadSize
        else draft.maxFramePayloadSize
      autoPingInterval := if .autoPingInterval ∈ fields then some o.autoPingInterval
        else draft.autoPingInterval
      autoPingTimeout := if .autoPingTimeout ∈ fields then some o.autoPingTimeout
        else draft.autoPingTimeout
      closeTimeout := if .closeTimeout ∈ fields then some o.closeTimeout
        else draft.closeTimeout } := by
  induction fields generalizing draft with
  | nil => rfl
  | cons f fields ih =>
      change (draft.take o f).takeAll o fields = _
      rw [ih]
      cases f <;> simp [Draft.take]

theorem finish_takeAll (fields : List Field) :
    (Draft.empty.takeAll o fields).finish = o.only fields := by
  have read {α : Type} (p : Prop) [Decidable p] (a b : α) :
      (if p then some a else none).getD b = if p then a else b := by
    split <;> rfl
  rw [Draft.takeAll_eq]
  simp only [Draft.finish, Draft.empty, only, read]

/-- What is written is read as it was, and what was read is written so that it is read again. This
    holds of all options that can be written, be they valid or not, and of all texts that are
    accepted. -/
structure Lossless : Prop where
  kept (o : Options) (text : Bytes) (written : o.encode = .ok text) : decode text = .ok o
  written_iff (o : Options) : (∃ text, o.encode = .ok text) ↔ ∀ d ∈ o.spans, d.IsStorable
  refused (o : Options) (before : List Duration) (d : Duration) (after : List Duration)
    (split : o.spans = before ++ d :: after) (storable : ∀ b ∈ before, b.IsStorable)
    (bad : ¬ d.IsStorable) : o.encode = .error (.json (refusal d))
  /-- Fields may be given in any order, and fields that are not given have their defaults. -/
  some_given (o : Options) (values : List (Field × Value))
    (stored : ∀ p ∈ values, o.store p.1 = .ok p.2) (distinct : (values.map Prod.fst).Nodup) :
    decode (Value.object (values.map fun p => (p.1.key, p.2))).encode =
      .ok (o.only (values.map Prod.fst))
  reread (text : Bytes) (o : Options) (read : decode text = .ok o) :
    ∃ again, o.encode = .ok again ∧ decode again = .ok o ∧ (decode again).bind encode = .ok again

/-- Reading keeps to spans that can be written, and writing succeeds for nothing else. So what was
    written is read as it was, and what was read is written again, with the same text from then on.
    -/
theorem lossless_storage : Lossless where
  kept _ _ written := decode_of_encode written
  written_iff _ := exists_encode_iff
  refused o before d after split storable bad := by
    have value := toValue_error split
      (fun b member => exists_encodeDuration_iff.mpr (storable b member)) (encodeDuration_refused bad)
    rw [encode, value]
    rfl
  some_given o values stored distinct := by
    rw [decode_object values stored distinct, finish_takeAll]
  reread text o read := by
    obtain ⟨again, written⟩ := exists_encode_iff.mpr (decode_storable read)
    have reread := decode_of_encode written
    exact ⟨again, written, reread, by rw [reread]; exact written⟩

end Options

end WampClient
