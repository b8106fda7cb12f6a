import WampClient.Error
import WampClient.WebSocket.Message

/-! # Frames

A frame is the unit that a transport sends and delivers: bytes with a tag that says whether they
travel as text or as binary data.
-/

namespace WampClient

inductive Frame where
  | binary (content : Bytes)
  | text (content : String)
  deriving DecidableEq, Repr

namespace Frame

/-- The frame with this payload and tag. Text must be UTF-8. -/
def ofPayload (payload : Bytes) (isBinary : Bool) : Except Error Frame :=
  if isBinary then .ok (.binary payload)
  else
    match Utf8.decode payload with
    | .ok cs => .ok (.text (String.ofList cs))
    | .error fault => .error (.invalidFrame (.notUtf8 fault))

def isBinary : Frame → Bool
  | .binary _ => true
  | .text _ => false

def payload : Frame → Bytes
  | .binary content => content
  | .text content => Bytes.ofString content

def size (f : Frame) : Nat :=
  f.payload.length

/-- The data that a message carries; control messages and single packets carry none. -/
def ofMessage? : WebSocket.Message → Option Frame
  | .text content => some (.text content)
  | .binary content => some (.binary content)
  | .ping _ | .pong _ | .close _ | .packet _ => none

def toMessage : Frame → WebSocket.Message
  | .binary content => .binary content
  | .text content => .text content

theorem ofMessage?_toMessage (f : Frame) : ofMessage? f.toMessage = some f := by
  cases f <;> rfl

theorem toMessage_of_ofMessage? {m : WebSocket.Message} {f : Frame} (h : ofMessage? m = some f) :
    f.toMessage = m := by
  cases m <;> simp_all [ofMessage?] <;> subst h <;> rfl

end Frame

end WampClient
