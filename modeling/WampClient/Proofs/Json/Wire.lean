import WampClient.Serializer
import WampClient.Transport.Basic
import WampClient.Proofs.Json.Accepted
import WampClient.Proofs.Json.RoundTrip
import WampClient.Proofs.Text.WellFormed

/-! # Messages on the wire

The bytes of a message are text, and they are read as the message again unless it is nested too
deep. A payload that is read as a message can be replaced by the bytes of that message.
-/

namespace WampClient

namespace Json

variable {items : List Value} {bytes : Bytes}

theorem encode_wellFormed (v : Value) : Utf8.IsWellFormed v.encode :=
  Utf8.isWellFormed_iff_exists_encode.mpr ⟨v.render, rfl⟩

/-- A whole text is read when nothing stands behind what was scanned. -/
theorem readAll_outcome {α : Type} {scan : Scanner α} {text : Bytes} {a : α}
    (scanned : outcome (scan text) = .ok (a, [])) : readAll scan text = .ok a := by
  obtain ⟨⟨b, r, bound⟩, found, same⟩ := map_eq_ok.mp scanned
  cases same
  rw [readAll, found]
  rfl

theorem readAll_stop {α : Type} {scan : Scanner α} {text : Bytes} {stop : Stop}
    (scanned : outcome (scan text) = .error stop) : readAll scan text = .error (stop.fault text) := by
  cases found : scan text with
  | ok a =>
      rw [found] at scanned
      cases scanned
  | error other =>
      rw [found] at scanned
      cases scanned
      rw [readAll, found]

theorem scanList_open (s : Bytes) : outcome (scanList (0x5B :: s)) =
    outcome (scanItems (scanValue (maxDepth - 1)) [] s) := by
  simp only [scanList, skipBlanks_cons (b := 0x5B) rfl, Bytes.Tail.all, if_true]
  cases scanItems (scanValue (maxDepth - 1)) [] s <;> rfl

theorem parseList_encode (exact : (Value.list items).IsExact) (orderly : Orderly maxDepth (.list items)) :
    parseList (Value.list items).encode = .ok items := by
  rw [isExact_list_iff] at exact
  have ordered := isOrdered_list_iff.mp orderly.ordered
  have shallow := itemsDepth_le_iff.mp (Nat.le_of_succ_le_succ orderly.shallow)
  have read : outcome (scanItems (scanValue (maxDepth - 1)) [] (itemsText true items ++ [])) =
      .ok (items, []) := scanItems_read [] [] exact
    fun v member => reads_scanValue (exact v member) (ordered v member) (shallow v member)
  rw [List.append_nil] at read
  rw [encode_list]
  exact readAll_outcome (by rw [scanList_open, read])

theorem parseList_deep (exact : (Value.list items).IsExact) (ordered : (Value.list items).IsOrdered)
    (deep : maxDepth < (Value.list items).depth) :
    ∃ fault, parseList (Value.list items).encode = .error fault ∧ fault.cause = .tooDeep := by
  rw [isExact_list_iff] at exact
  rw [isOrdered_list_iff] at ordered
  have told (v : Value) (member : v ∈ items) :
      Reads (scanValue (maxDepth - 1)) v ∨ Refuses (scanValue (maxDepth - 1)) v :=
    reads_or_refuses (exact v member) (ordered v member)
      (refuses_scanValue (exact v member) (ordered v member))
  obtain ⟨v, member, below⟩ := lt_itemsDepth_iff.mp
    (show maxDepth - 1 < itemsDepth items from Nat.lt_of_succ_lt_succ deep)
  obtain ⟨stop, failed, cause⟩ := scanItems_refused [] [] exact told
    ⟨v, member, refuses_scanValue (exact v member) (ordered v member) below⟩
  change outcome (scanItems _ [] (itemsText true items ++ [])) = _ at failed
  rw [List.append_nil] at failed
  rw [encode_list]
  exact ⟨_, readAll_stop (by rw [scanList_open, failed]), cause⟩

end Json

theorem Transport.send_text {H : Type} {bytes : Bytes} {content : String}
    (text : Frame.ofPayload bytes false = .ok (.text content)) (t : Transport H)
    (fault : FrameFault) : (t.send bytes false).2.2 ≠ .failed (.invalidFrame fault) := by
  intro answer
  simp only [send, text, sendFrame] at answer
  split at answer
  · cases answer
  · split at answer <;> cases answer

namespace Serializer

open Json

variable {m : List Value} {bytes : Bytes}

theorem deserialize_eq (bytes : Bytes) (tag : Bool) : json.deserialize bytes tag =
    (parseList bytes).mapError fun fault => .json (.reading fault) := by
  simp only [json]
  cases parseList bytes <;> rfl

theorem deserialize_eq_ok {tag : Bool} :
    json.deserialize bytes tag = .ok m ↔ parseList bytes = .ok m := by
  rw [deserialize_eq]
  constructor
  · intro read
    cases parsed : parseList bytes with
    | error fault =>
        rw [parsed] at read
        cases read
    | ok items =>
        rw [parsed] at read
        cases read
        rfl
  · intro parsed
    rw [parsed]
    rfl

/-- How messages travel as JSON. -/
structure WireFormat : Prop where
  read_back (m : List Value) (exact : (Value.list m).IsExact) (ordered : (Value.list m).IsOrdered)
    (shallow : (Value.list m).depth ≤ 127) :
    ∃ bytes, json.serialize m = .ok bytes ∧ ∀ tag, json.deserialize bytes tag = .ok m
  too_deep (m : List Value) (exact : (Value.list m).IsExact) (ordered : (Value.list m).IsOrdered)
    (deep : 127 < (Value.list m).depth) :
    ∃ bytes, json.serialize m = .ok bytes ∧ ∀ tag, ∃ fault : Fault,
      json.deserialize bytes tag = .error (.json (.reading fault)) ∧ fault.cause = .tooDeep
  text (m : List Value) (bytes : Bytes) (written : json.serialize m = .ok bytes) :
    Utf8.IsWellFormed bytes ∧ ∃ content, Frame.ofPayload bytes json.isBinary = .ok (.text content) ∧
      (Frame.text content).payload = bytes
  sent (m : List Value) (bytes : Bytes) (written : json.serialize m = .ok bytes) (H : Type)
    (t : Transport H) (fault : FrameFault) :
    (t.send bytes json.isBinary).2.2 ≠ .failed (.invalidFrame fault)
  reread (payload : Bytes) (tag : Bool) (m : List Value) (read : json.deserialize payload tag = .ok m)
    (exact : (Value.list m).IsExact) :
    ∃ bytes, json.serialize m = .ok bytes ∧ ∀ tag, json.deserialize bytes tag = .ok m ∧
      (json.deserialize bytes tag).bind json.serialize = .ok bytes

theorem ofPayload_serialize (written : json.serialize m = .ok bytes) :
    ∃ content, Frame.ofPayload bytes json.isBinary = .ok (.text content) := by
  cases written
  obtain ⟨text, decoded⟩ := Utf8.exists_decode_iff.mpr (encode_wellFormed (.list m))
  exact ⟨String.ofList text, by simp [Frame.ofPayload, json, decoded]⟩

/-- Lists without doubles in them, whose objects are in order, are read back from their texts,
    unless they are too deep for any reader. Doubles are set apart, as the text of a number need not
    be that of the double that is read. -/
theorem wire_format : WireFormat where
  read_back m exact ordered shallow :=
    ⟨_, rfl, fun _ => deserialize_eq_ok.mpr (parseList_encode exact ⟨ordered, shallow⟩)⟩
  too_deep m exact ordered deep := by
    obtain ⟨fault, failed, cause⟩ := parseList_deep exact ordered deep
    exact ⟨_, rfl, fun tag => ⟨fault, by rw [deserialize_eq, failed]; rfl, cause⟩⟩
  text m bytes written := by
    obtain ⟨content, made⟩ := ofPayload_serialize written
    cases written
    exact ⟨encode_wellFormed _, content, made, (Frame.ofPayload_sound made).1⟩
  sent m bytes written H t fault := by
    obtain ⟨content, made⟩ := ofPayload_serialize written
    exact t.send_text made fault
  reread payload tag m read exact := by
    have again := parseList_encode exact (parseList_orderly (deserialize_eq_ok.mp read))
    refine ⟨_, rfl, fun tag => ?_⟩
    have same : json.deserialize _ tag = .ok m := deserialize_eq_ok.mpr again
    exact ⟨same, by rw [same]; rfl⟩

/-- Fields come in the order of their keys, and the last one with a key counts. -/
example : json.deserialize (Bytes.ofString "[\x7b\"b\":1,\"a\":\"\\n\",\"b\":null\x7d]") true =
    .ok [.object [("a", .string "\n"), ("b", .null)]] := by
  cbv

end Serializer

end WampClient
