import WampClient.Error
import WampClient.Json.Printer
import WampClient.Json.Reader

/-! # Serializers

A serializer names the subprotocol that a client asks for, says whether its messages travel as
binary frames, and turns messages, which are lists of values, into bytes and back. The transport
itself never looks into a payload.
-/

namespace WampClient

structure Serializer where
  /-- The token of the wire format in the upgrade request. -/
  subprotocol : String
  /-- Messages travel as binary frames. -/
  isBinary : Bool
  /-- How the serializer is shown when a transport is described. -/
  description : String
  serialize : List Json.Value → Except Error Bytes
  /-- Reads the message of a frame with the given tag. -/
  deserialize : Bytes → Bool → Except Error (List Json.Value)

namespace Serializer

/-- Messages as JSON lists in text frames. Reading does not depend on the tag of the frame. -/
def json : Serializer where
  subprotocol := "wamp.2.json"
  isBinary := false
  description := "JsonSerializer"
  serialize message := .ok (Json.Value.list message).encode
  deserialize payload _ :=
    match Json.parseList payload with
    | .ok message => .ok message
    | .error fault => .error (.json (.reading fault))

end Serializer

end WampClient
