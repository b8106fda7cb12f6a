import WampClient.WebSocket.Fault
import WampClient.WebSocket.Message

/-! # Putting messages together

A data message travels in one packet or in several; control packets may stand between them. What was
read of an unfinished message is kept until its last packet. A packet that is too large, or that
would make its message too large, ends the reading: no part of such a message is given out.
-/

namespace WampClient.WebSocket

/-- How large inbound data may be, in bytes. -/
structure Limits where
  packetSize : Nat
  messageSize : Nat
  deriving DecidableEq, Repr

/-- The beginning of a message whose last packet was not read yet. -/
structure Fragment where
  isText : Bool
  content : Bytes
  deriving DecidableEq, Repr

structure Assembly where
  limits : Limits
  fragment : Option Fragment
  /-- A close packet was read, and no other may follow. -/
  isClosed : Bool
  deriving DecidableEq, Repr

namespace Assembly

def empty (limits : Limits) : Assembly := ⟨limits, none, false⟩

/-- The result of reading a packet: a message, if the packet completes one. -/
abbrev Outcome := Except Fault (Assembly × Option Message)

def kindName : Opcode → String
  | .continuation => "CONTINUE"
  | .text => "TEXT"
  | .binary => "BINARY"
  | .close => "CLOSE"
  | .ping => "PING"
  | .pong => "PONG"
  | .reserved code => "RESERVED_DATA_" ++ Decimal.text code.toNat

/-- The notice in a close packet: a code of two bytes and a reason, or nothing at all. -/
def readNotice : Bytes → Except Fault (Option CloseNotice)
  | [] => .ok none
  | [_] => .error (.protocol .invalidCloseSequence)
  | high :: low :: reason =>
    match Utf8.decode reason with
    | .ok cs => .ok (some ⟨UInt16.ofNat (high.toNat * 256 + low.toNat), String.ofList cs⟩)
    | .error fault => .error (.utf8 fault.text)

def maxControlSize : Nat := 125

def readControl (p : Packet) (rule : Outcome) : Outcome :=
  if !p.fin then .error (.protocol .fragmentedControl)
  else if maxControlSize < p.payload.length then .error (.protocol .controlTooBig)
  else rule

def readClose (a : Assembly) (p : Packet) : Outcome := do
  let notice ← readNotice p.payload
  return ({ a with isClosed := true }, some (.close notice))

def complete (isText : Bool) (content : Bytes) : Except Fault Message :=
  if isText then
    match Utf8.decode content with
    | .ok cs => .ok (.text (String.ofList cs))
    | .error fault => .error (.utf8 fault.text)
  else .ok (.binary content)

/-- The beginning of a text is sound so far. It may end inside a character, as more of it follows.
    -/
def checkBeginning (isText : Bool) (content : Bytes) : Except Fault Unit :=
  if isText then
    match Utf8.decode content with
    | .error ⟨index, .invalid length⟩ => .error (.utf8 (Utf8.Fault.text ⟨index, .invalid length⟩))
    | _ => .ok ()
  else .ok ()

/-- Goes on with the content of a message, which is complete if the packet is its last one. -/
def extend (a : Assembly) (isText : Bool) (content : Bytes) (fin : Bool) : Outcome := do
  if a.limits.messageSize < content.length then
    throw (.capacity (.messageTooLong content.length a.limits.messageSize))
  if fin then
    let m ← complete isText content
    return ({ a with fragment := none }, some m)
  else
    checkBeginning isText content
    return ({ a with fragment := some ⟨isText, content⟩ }, none)

def readFirst (a : Assembly) (p : Packet) (isText : Bool) : Outcome :=
  match a.fragment with
  | some _ => .error (.protocol (.expectedFragment (kindName p.opcode)))
  | none => a.extend isText p.payload p.fin

def readContinuation (a : Assembly) (p : Packet) : Outcome :=
  match a.fragment with
  | some f => a.extend f.isText (f.content ++ p.payload) p.fin
  | none => .error (.protocol .unexpectedContinuation)

def readReserved (a : Assembly) (p : Packet) (code : UInt8) : Outcome :=
  if 8 ≤ code then readControl p (.error (.protocol (.unknownControl code.toNat)))
  else
    match a.fragment with
    | some _ => .error (.protocol (.expectedFragment (kindName p.opcode)))
    | none => .error (.protocol (.unknownData code.toNat))

/-- Reads a packet from a server. What any packet can be refused for is looked at before its kind,
    its size first of all. -/
def read (a : Assembly) (p : Packet) : Outcome :=
  if a.limits.packetSize < p.payload.length then
    .error (.capacity (.messageTooLong p.payload.length a.limits.packetSize))
  else if a.isClosed then .error (.protocol .receivedAfterClosing)
  else if p.reserved ≠ 0 then .error (.protocol .nonZeroReservedBits)
  else if p.masked then .error (.protocol .maskedFromServer)
  else
    match p.opcode with
    | .text => a.readFirst p true
    | .binary => a.readFirst p false
    | .continuation => a.readContinuation p
    | .close => readControl p (a.readClose p)
    | .ping => readControl p (.ok (a, some (.ping p.payload)))
    | .pong => readControl p (.ok (a, some (.pong p.payload)))
    | .reserved code => a.readReserved p code

/-- The messages in a sequence of packets, and the fault that ends the reading if there is one. -/
def readAll (a : Assembly) : List Packet → List Message × Option Fault
  | [] => ([], none)
  | p :: rest =>
    match a.read p with
    | .error fault => ([], some fault)
    | .ok (a, m) =>
      let (messages, fault) := a.readAll rest
      (m.toList ++ messages, fault)

end Assembly

end WampClient.WebSocket
