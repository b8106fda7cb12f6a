import WampClient.Error
import WampClient.Handshake
import WampClient.Options.Basic
import WampClient.Socket.Signal
import WampClient.Time.Instant

/-! # Sockets

A socket carries one connection: it waits for the opening handshake and then, until the connection
ends, does what comes first of a read, a command and a due timer. While a write is under way it does
nothing else. It emits its events in a fixed order: it opens at most once, and its last event says
how it ended.
-/

namespace WampClient

inductive Reading where
  | message (message : WebSocket.Message)
  | fault (fault : WebSocket.Fault)
  /-- Nothing more will come. -/
  | ended
  deriving DecidableEq, Repr

/-- The code and reason of a close frame as they are reported. -/
def reported : Option WebSocket.CloseNotice → UInt16 × String
  | none => (noStatusReceived, "")
  | some notice => (notice.code, notice.reason)

namespace Socket

/-- What a socket remembers of an open connection: the timers that are armed, and the last close
    frame from the peer. That frame is not told as the end, since the close handshake is complete
    only when the stream has ended. -/
structure Watch where
  nextPing : Option Instant
  /-- When an unanswered ping ends the connection. -/
  pongDeadline : Option Instant
  /-- When an unanswered close frame ends the connection. -/
  closeDeadline : Option Instant
  /-- The code and reason of the last close frame from the peer. -/
  peerClose : Option (UInt16 × String)
  deriving DecidableEq, Repr

def Watch.isClosing (w : Watch) : Bool :=
  w.peerClose.isSome || w.closeDeadline.isSome

/-- A write that a socket makes of its own. Pongs and the answer to a close frame are not among
    them: the layer below writes these. -/
inductive Write where
  | data (frame : Frame)
  | close (code : UInt16) (reason : String)
  | ping
  deriving DecidableEq, Repr

def Write.message : Write → WebSocket.Message
  | .data f => f.toMessage
  | .close code reason => .close (some ⟨code, reason⟩)
  | .ping => .ping []

inductive Stage where
  | connecting
  /-- The socket waits for what comes first. -/
  | ready (watch : Watch)
  | writing (watch : Watch) (write : Write)
  | finished
  /-- The clock cannot show a deadline; no last event is emitted. -/
  | crashed
  deriving DecidableEq, Repr

end Socket

/-- A socket and its clock. Time passes only by an input. A deadline that has come is therefore not
    noticed at once: whatever else is ready may be served before it. -/
structure Socket where
  options : Options
  clock : Instant
  stage : Socket.Stage
  deriving DecidableEq

namespace Socket

inductive Input where
  | tick (clock : Instant)
  | handshake (result : Except WebSocket.Fault Unit)
  /-- The next command is received, or the end of all commands. -/
  | command (command : Option Command)
  | read (reading : Reading)
  | written (result : Except WebSocket.Fault Unit)
  | pingDue
  | pongOverdue
  | closeOverdue

inductive Output where
  | emit (event : Event)
  | wrote (message : WebSocket.Message)
  deriving DecidableEq, Repr

def emitted (outputs : List Output) : List Event :=
  outputs.filterMap fun
    | .emit e => some e
    | .wrote _ => none

def written (outputs : List Output) : List WebSocket.Message :=
  outputs.filterMap fun
    | .wrote m => some m
    | .emit _ => none

abbrev Outcome := Socket × List Output

def goTo (s : Socket) (stage : Stage) : Socket :=
  { s with stage := stage }

def finish (s : Socket) (e : Event) : Outcome :=
  (s.goTo .finished, [.emit e])

def fail (s : Socket) (e : Error) : Outcome :=
  s.finish (.failure e.message)

/-- Goes on with a deadline that lies a span of time ahead. If the clock cannot show it, the sum
    cannot be formed, and the socket crashes. -/
def schedule (s : Socket) (d : Duration) (next : Instant → Stage) : Socket :=
  match s.clock.add? d with
  | some deadline => s.goTo (next deadline)
  | none => s.goTo .crashed

def schedulePing (s : Socket) (w : Watch) : Socket :=
  match s.options.autoPingInterval with
  | some interval => s.schedule interval fun t => .ready { w with nextPing := some t }
  | none => s.goTo (.ready { w with nextPing := none })

def afterHandshake (s : Socket) : Except WebSocket.Fault Unit → Outcome
  | .error fault => s.fail (.webSocket fault)
  | .ok () => (s.schedulePing ⟨none, none, none, none⟩, [.emit .opened])

def commandWhileConnecting (s : Socket) : Option Command → Outcome
  | some (.send _) => (s, [])
  | some (.close _ _) | some .cancel => s.fail (.connection .cancelledBeforeOpen)
  | none => s.fail (.connection .transportDropped)

/-- A command is received on an open connection. Once a close frame was sent or received, nothing
    more is sent. -/
def commandWhileReady (s : Socket) (w : Watch) : Option Command → Outcome
  | some (.send f) =>
    (if w.isClosing then s else s.goTo (.writing w (.data f)), [])
  | some (.close code reason) =>
    (if w.isClosing then s else s.goTo (.writing w (.close code (reason.getD ""))), [])
  | some .cancel => s.fail (.connection .cancelled)
  | none => s.fail (.connection .transportDropped)

/-- A message is read. A close frame ends keep-alive, but a deadline for the answer to a close frame
    of our own stays as it is. A pong counts for all pings that are under way. -/
def readMessage (s : Socket) (w : Watch) : WebSocket.Message → Outcome
  | .close notice =>
    let (code, reason) := reported notice
    (s.goTo (.ready { w with
      peerClose := some (code, reason), nextPing := none, pongDeadline := none }),
      [.emit (.closing code reason)])
  | .pong _ => (s.goTo (.ready { w with pongDeadline := none }), [])
  | m =>
    match Frame.ofMessage? m with
    | some f => (s, [.emit (.message f)])
    | none => (s, [])

/-- The stream of messages has ended. If the peer has sent a close frame before, this completes the
    close handshake; otherwise the connection was lost. -/
def streamEnded (s : Socket) (w : Watch) : Outcome :=
  match w.peerClose with
  | some (code, reason) => s.finish (.closed code reason)
  | none => s.fail (.connection .endedWithoutClose)

def readWhileReady (s : Socket) (w : Watch) : Reading → Outcome
  | .message m => s.readMessage w m
  | .fault .connectionClosed | .fault .alreadyClosed | .ended => s.streamEnded w
  | .fault fault => s.fail (.webSocket fault)

/-- A write is complete. A close frame ends keep-alive and sets the deadline for the answer. A ping
    sets the time of the next one, and a deadline for the pong unless one is set already, so that
    several pings can be under way. -/
def afterWrite (s : Socket) (w : Watch) : Write → Socket
  | .data _ => s.goTo (.ready w)
  | .close _ _ =>
    s.schedule s.options.closeTimeout fun t =>
      .ready { w with closeDeadline := some t, nextPing := none, pongDeadline := none }
  | .ping =>
    match w.pongDeadline with
    | some _ => s.schedulePing w
    | none =>
      match s.clock.add? s.options.autoPingTimeout with
      | some t => s.schedulePing { w with pongDeadline := some t }
      | none => s.goTo .crashed

def isDue (s : Socket) : Option Instant → Bool
  | some deadline => deadline ≤ s.clock
  | none => false

/-- What a socket does about an input; nothing if the input cannot happen now. While a write is
    under way, only its end can happen, and time can pass. -/
def step? (s : Socket) (i : Input) : Option Outcome :=
  match s.stage, i with
  | _, .tick clock => if s.clock ≤ clock then some ({ s with clock := clock }, []) else none
  | .connecting, .handshake result => some (s.afterHandshake result)
  | .connecting, .command c => some (s.commandWhileConnecting c)
  | .ready w, .command c => some (s.commandWhileReady w c)
  | .ready w, .read r => some (s.readWhileReady w r)
  | .ready w, .pingDue =>
    if s.isDue w.nextPing then some (s.goTo (.writing w .ping), []) else none
  | .ready w, .pongOverdue =>
    if s.isDue w.pongDeadline then some (s.fail (.connection .pingTimeout)) else none
  | .ready w, .closeOverdue =>
    if s.isDue w.closeDeadline then some (s.fail (.connection .closeTimeout)) else none
  | .writing w write, .written (.ok ()) => some (s.afterWrite w write, [.wrote write.message])
  | .writing _ _, .written (.error fault) => some (s.fail (.webSocket fault))
  | _, _ => none

def isOver (s : Socket) : Bool :=
  s.stage = .finished || s.stage = .crashed

/-- One input of a run, with the time at which it happened and what the socket did about it. -/
structure Entry where
  time : Instant
  input : Input
  outputs : List Output

/-- A sequence of inputs leads from one state to another, as the entries tell. -/
inductive Run (s : Socket) : List Entry → Socket → Prop where
  | refl : Run s [] s
  | step {t u : Socket} {entries : List Entry} {outputs : List Output}
      (before : Run s entries t) (i : Input) (made : t.step? i = some (u, outputs)) :
      Run s (entries ++ [⟨u.clock, i, outputs⟩]) u

def connecting (options : Options) (clock : Instant) : Socket :=
  ⟨options, clock, .connecting⟩

/-- Starts to open a connection. What cannot be asked for fails at once. -/
def start (h : Handshake) (nonce : Nonce) (clock : Instant) : Outcome :=
  match h.request nonce with
  | .ok _ => (connecting h.options clock, [])
  | .error e => (connecting h.options clock).fail e

end Socket

end WampClient
