import WampClient.Json.Printer
import WampClient.Json.Skip
import WampClient.Options.Basic

/-! # Options in JSON

Durations are whole milliseconds, and an interval of `null` turns pings off. A text gives the fields
of an object in any order, or of a list in the order of declaration; fields that are not given keep
their defaults and fields of other names are skipped.
-/

namespace WampClient.Options

/-- The fields of options, in the order of declaration. -/
inductive Field where
  | maxFramePayloadSize
  | autoPingInterval
  | autoPingTimeout
  | closeTimeout
  deriving DecidableEq, Repr

namespace Field

def all : List Field := [maxFramePayloadSize, autoPingInterval, autoPingTimeout, closeTimeout]

def key : Field → String
  | maxFramePayloadSize => "max_frame_payload_size"
  | autoPingInterval => "auto_ping_interval_ms"
  | autoPingTimeout => "auto_ping_timeout_ms"
  | closeTimeout => "close_timeout_ms"

def ofKey? (k : String) : Option Field :=
  all.find? fun f => f.key = k

end Field

/-! ## Writing -/

/-- The milliseconds of a duration, if it is a whole number of them below 2^64. The length is looked
    at before the fraction. -/
def encodeDuration (d : Duration) : Except Error UInt64 :=
  if d.millis < 0x1_0000_0000_0000_0000 then
    if Duration.ofMillis (UInt64.ofNat d.millis) = d then .ok (UInt64.ofNat d.millis)
    else .error (.json (.fractionalDuration d))
  else .error (.json (.durationOutOfRange d))

def encodeInterval : Option Duration → Except Error Json.Value
  | none => .ok .null
  | some d => (encodeDuration d).map fun ms => .whole (.ofWord ms)

/-- The value that stands for options; its fields are in the order of declaration. -/
def toValue (o : Options) : Except Error Json.Value := do
  let interval ← encodeInterval o.autoPingInterval
  let pong ← encodeDuration o.autoPingTimeout
  let close ← encodeDuration o.closeTimeout
  return .object
    [ (Field.maxFramePayloadSize.key, .whole (.ofWord o.maxFramePayloadSize)),
      (Field.autoPingInterval.key, interval),
      (Field.autoPingTimeout.key, .whole (.ofWord pong)),
      (Field.closeTimeout.key, .whole (.ofWord close)) ]

def encode (o : Options) : Except Error Bytes :=
  o.toValue.map Json.Value.encode

/-! ## Reading -/

structure Draft where
  maxFramePayloadSize : Option UInt64
  autoPingInterval : Option (Option Duration)
  autoPingTimeout : Option Duration
  closeTimeout : Option Duration

namespace Draft

def empty : Draft := ⟨none, none, none, none⟩

def has (draft : Draft) : Field → Bool
  | .maxFramePayloadSize => draft.maxFramePayloadSize.isSome
  | .autoPingInterval => draft.autoPingInterval.isSome
  | .autoPingTimeout => draft.autoPingTimeout.isSome
  | .closeTimeout => draft.closeTimeout.isSome

/-- The options with defaults for what was not read. -/
def finish (draft : Draft) : Options where
  maxFramePayloadSize := draft.maxFramePayloadSize.getD default.maxFramePayloadSize
  autoPingInterval := draft.autoPingInterval.getD default.autoPingInterval
  autoPingTimeout := draft.autoPingTimeout.getD default.autoPingTimeout
  closeTimeout := draft.closeTimeout.getD default.closeTimeout

end Draft

open Json
open Bytes (Rest)

def scanUInt64 (expected : String) : Scanner UInt64 := fun s =>
  match skipBlanks s with
  | ⟨[], _⟩ => .error (stopAtEnd .endOfValue)
  | ⟨b :: t, ht⟩ =>
    match scanLeaf b t with
    | .ok (.whole n, r) =>
      match n.toWord? with
      | some w => .ok (w, r.behind ht)
      | none => .error (stopBefore (.wrongValue (.whole n) expected) r.val)
    | _ => .error (unexpected expected b t)

def scanDuration : Scanner Duration := fun s =>
  (scanUInt64 "u64" s).map fun (n, r) => (Duration.ofMillis n, r)

def scanInterval : Scanner (Option Duration) := fun s =>
  match skipBlanks s with
  | ⟨b :: t, ht⟩ =>
    if b = 0x6E then
      (scanWord [0x75, 0x6C, 0x6C] t).map fun r => (none, r.behind ht)
    else (scanDuration s).map fun (d, r) => (some d, r)
  | ⟨[], _⟩ => .error (stopAtEnd .endOfValue)

def Draft.scan (draft : Draft) : Field → Scanner Draft
  | .maxFramePayloadSize, s =>
    (scanUInt64 "usize" s).map fun (n, r) => ({ draft with maxFramePayloadSize := some n }, r)
  | .autoPingInterval, s =>
    (scanInterval s).map fun (d, r) => ({ draft with autoPingInterval := some d }, r)
  | .autoPingTimeout, s =>
    (scanDuration s).map fun (d, r) => ({ draft with autoPingTimeout := some d }, r)
  | .closeTimeout, s =>
    (scanDuration s).map fun (d, r) => ({ draft with closeTimeout := some d }, r)

/-- The fault of a key that was given before. It shows behind the blanks after the key, and behind
    a closing brace that follows them. -/
def duplicate (key : String) (s : Bytes) : Stop :=
  match skipBlanks s with
  | ⟨b :: t, _⟩ => stopBefore (.duplicateField key) (if b = 0x7D then t else b :: t)
  | ⟨[], _⟩ => stopAtEnd (.duplicateField key)

/-- Reads the fields of an object whose opening brace was read, and its closing brace. -/
def scanObject (isFirst : Bool) (draft : Draft) (s : Bytes) : Except Stop (Draft × Rest s) :=
  match nextKey isFirst s with
  | .error stop => .error stop
  | .ok none => (endObject s).map (draft, ·)
  | .ok (some ⟨t, ht⟩) =>
    match scanString t with
    | .error stop => .error stop
    | .ok (key, ⟨u, hu⟩) =>
      let field := Field.ofKey? key
      if field.any draft.has then .error (duplicate key u)
      else
        match skipColon u with
        | .error stop => .error stop
        | .ok ⟨v, hv⟩ =>
          let value : Except Stop (Draft × Rest v) := match field with
            | some f => draft.scan f v
            | none => (skipValue v).map (draft, ·)
          match value with
          | .error stop => .error stop
          | .ok (draft, ⟨w, hw⟩) =>
            (scanObject false draft w).map fun (draft, r) =>
              (draft, (((r.behind hw).behind hv).behind hu).behind ht)
termination_by s.length
decreasing_by omega

def scanTuple (isFirst : Bool) (draft : Draft) :
    (fields : List Field) → (s : Bytes) → Except Stop (Draft × Rest s)
  | [], s => (endList s).map (draft, ·)
  | f :: fields, s =>
    match nextItem isFirst s with
    | .error stop => .error stop
    | .ok none => (endList s).map (draft, ·)
    | .ok (some ⟨t, ht⟩) =>
      match draft.scan f t with
      | .error stop => .error stop
      | .ok (draft, ⟨u, hu⟩) =>
        (scanTuple false draft fields u).map fun (draft, r) =>
          (draft, (r.behind hu).within ht)

def scan : Scanner Options := fun s =>
  match skipBlanks s with
  | ⟨[], _⟩ => .error (stopAtEnd .endOfValue)
  | ⟨b :: t, ht⟩ =>
    if b = 0x5B then
      (scanTuple true .empty Field.all t).map fun (draft, r) =>
        (draft.finish, r.behind ht)
    else if b = 0x7B then
      (scanObject true .empty t).map fun (draft, r) =>
        (draft.finish, r.behind ht)
    else .error (unexpected "struct TransportOptions" b t)

def decode (text : Bytes) : Except Error Options :=
  match readAll scan text with
  | .ok o => .ok o
  | .error fault => .error (.json (.reading fault))

end WampClient.Options
