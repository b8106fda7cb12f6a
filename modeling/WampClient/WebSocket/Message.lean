import WampClient.Text.Utf8

/-! # WebSocket messages

The units that a WebSocket connection reads and writes: data messages, control messages, and single
wire packets that were not put together into a message.
-/

namespace WampClient.WebSocket

structure CloseNotice where
  code : UInt16
  reason : String
  deriving DecidableEq, Repr

inductive Opcode where
  | continuation
  | text
  | binary
  | close
  | ping
  | pong
  /-- A code kept for further data packets (3 to 7) or control packets (11 to 15). -/
  | reserved (code : UInt8)
  deriving DecidableEq, Repr

structure Packet where
  /-- The packet is the last one of its message. -/
  fin : Bool
  /-- The three reserved bits. -/
  reserved : UInt8
  opcode : Opcode
  masked : Bool
  payload : Bytes
  deriving DecidableEq, Repr

inductive Message where
  | text (content : String)
  | binary (content : Bytes)
  | ping (content : Bytes)
  | pong (content : Bytes)
  | close (notice : Option CloseNotice)
  | packet (packet : Packet)
  deriving DecidableEq, Repr

end WampClient.WebSocket
