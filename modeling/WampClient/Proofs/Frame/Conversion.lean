import WampClient.Frame
import WampClient.Proofs.Text.WellFormed

/-! # Frames, payloads and messages

A frame, its payload with its tag, and the message that carries it stand for each other. Only a text
payload can be refused, and then the error names the place up to which it is text.
-/

namespace WampClient

namespace Utf8

def Flaw.lead : Flaw → String
  | .invalid length => "invalid utf-8 sequence of " ++ Decimal.text length ++ " bytes from index "
  | .cutShort => "incomplete utf-8 byte sequence from index "

theorem Fault.text_eq (fault : Fault) :
    fault.text = fault.flaw.lead ++ Decimal.text fault.index := by
  obtain ⟨index, flaw⟩ := fault
  cases flaw <;> rfl

end Utf8

theorem message_notUtf8 (fault : Utf8.Fault) : (Error.invalidFrame (.notUtf8 fault)).message =
    "Invalid frame: " ++ ("text payload is not UTF-8: " ++
      (fault.flaw.lead ++ Decimal.text fault.index)) := by
  rw [← Utf8.Fault.text_eq]
  rfl

namespace Frame

variable {payload : Bytes} {isBinary : Bool} {f : Frame} {e : Error}

theorem exists_ofPayload_iff :
    (∃ f, ofPayload payload isBinary = .ok f) ↔ isBinary = true ∨ Utf8.IsWellFormed payload := by
  rw [← Utf8.exists_decode_iff, ofPayload]
  cases isBinary with
  | true => simp
  | false => cases Utf8.decode payload <;> simp

theorem ofPayload_payload (f : Frame) : ofPayload f.payload f.isBinary = .ok f := by
  cases f with
  | binary content => rfl
  | text content =>
      simp only [ofPayload, payload, Frame.isBinary, Bytes.ofString, Utf8.decode_encode,
        Bool.false_eq_true, if_false, String.ofList_toList]

/-- The error of a payload that is text up to byte `index`, and what it shows. -/
structure RefusedAt (e : Error) (index : Nat) (flaw : Utf8.Flaw) : Prop where
  fault : e = .invalidFrame (.notUtf8 ⟨index, flaw⟩)
  message : e.message = "Invalid frame: " ++ ("text payload is not UTF-8: " ++
    (flaw.lead ++ Decimal.text index))

theorem ofPayload_refused (failed : ofPayload payload isBinary = .error e) :
    ∃ index flaw, RefusedAt e index flaw ∧ Utf8.EndsText payload index := by
  unfold ofPayload at failed
  split at failed
  · cases failed
  · split at failed
    · cases failed
    · rename_i fault stopped
      cases failed
      exact ⟨fault.index, fault.flaw, ⟨rfl, message_notUtf8 fault⟩,
        Utf8.endsText_of_decode stopped⟩

/-- What is made of a payload with a tag. Binary payloads are never refused. A text is refused at
    the end of its longest front that is text. -/
structure Construction (payload : Bytes) (isBinary : Bool) : Prop where
  accepted : (∃ f, ofPayload payload isBinary = .ok f) ↔
    isBinary = true ∨ Utf8.IsWellFormed payload
  kept (f : Frame) (made : ofPayload payload isBinary = .ok f) :
    f.isBinary = isBinary ∧ f.size = payload.length ∧ f.payload = payload
  refused (e : Error) (failed : ofPayload payload isBinary = .error e) :
    ∃ index flaw, RefusedAt e index flaw ∧ Utf8.EndsText payload index

/-- Frames are the same as payloads that are accepted with their tag, and as messages that carry
    data. Both conversions keep every byte, and going there and back gives the same frame. -/
structure Conversions : Prop where
  construction (payload : Bytes) (isBinary : Bool) : Construction payload isBinary
  remade (f : Frame) : ofPayload f.payload f.isBinary = .ok f
  carried (m : WebSocket.Message) (f : Frame) : ofMessage? m = some f ↔ f.toMessage = m
  uncarried (content : Bytes) (notice : Option WebSocket.CloseNotice) (packet : WebSocket.Packet) :
    ∀ m ∈ [.ping content, .pong content, .close notice, .packet packet], ofMessage? m = none

/-- All of this follows from two facts: the bytes of texts are the well-formed sequences, and a
    fault of `decode` stands where the longest front that is text ends. -/
theorem conversions : Conversions where
  construction payload isBinary :=
    { accepted := exists_ofPayload_iff
      kept := by
        intro f made
        obtain ⟨same, tag⟩ := ofPayload_sound made
        exact ⟨tag, congrArg List.length same, same⟩
      refused := fun _ failed => ofPayload_refused failed }
  remade := ofPayload_payload
  carried m f :=
    ⟨toMessage_of_ofMessage?, fun same => same ▸ ofMessage?_toMessage f⟩
  uncarried content notice packet := by
    simp only [List.forall_mem_cons, ofMessage?, true_and]
    exact List.forall_mem_nil _

/-- The index counts all bytes of the text before the first bad sequence. -/
example : ofPayload [0x61, 0xC3, 0xA9, 0xED, 0xA0, 0x80] false =
    .error (.invalidFrame (.notUtf8 ⟨3, .invalid 1⟩)) := by
  cbv

end Frame

end WampClient
