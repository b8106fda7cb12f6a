import WampClient.Socket.Basic
import WampClient.Transport.Dispatch

/-! # Clients

A client is a transport together with the sockets of its attempts. What a transport queues for a
socket, the socket receives in the same order, and what a socket emits, the transport takes in the
same order; either side may be late by any number of moves. A socket that is over gives up its ends
of the queues, one after the other and in its own time.
-/

namespace WampClient

/-- A transport and its sockets, in step: what a socket emits is queued for the dispatcher of its
    attempt, and a command that a socket receives leaves the queue of its attempt. `H` is the type
    of handlers. -/
structure Client (H : Type) where
  transport : Transport H
  /-- The socket of attempt `n` stands at index `n - 1`. -/
  sockets : List Socket

namespace Client

variable {H : Type}

def ofSettings (settings : Settings) : Client H :=
  ⟨.ofSettings settings, []⟩

def socket? (c : Client H) : Nat → Option Socket
  | 0 => none
  | n + 1 => c.sockets[n]?

inductive Note (H : Type) where
  | transport (note : Transport.Note H)
  /-- The socket of an attempt did something about an input. -/
  | socket (attempt : Nat) (input : Socket.Input) (outputs : List Socket.Output)
  /-- The socket of an attempt was started. -/
  | started (attempt : Nat) (outputs : List Socket.Output)

inductive Move (H : Type) where
  | perform (operation : Operation H)
  /-- An attempt is launched: its socket is started at this time. -/
  | launch (attempt : Nat) (nonce : Nonce) (clock : Instant)
  | take (attempt : Nat)
  | notice (attempt : Nat)
  | applyHeld (attempt : Nat)
  | finish (attempt : Nat) (failure : Option Error)
  | abortFailed (attempt : Nat)
  | settle (attempt : Nat)
  /-- Something other than a command comes to the socket of an attempt. -/
  | input (attempt : Nat) (input : Socket.Input)
  /-- The socket of an attempt receives its next command, or their end. -/
  | receive (attempt : Nat)
  /-- The socket of an attempt is over and gives up its end of a queue. -/
  | endEvents (attempt : Nat)
  | endCommands (attempt : Nat)

abbrev Outcome (H : Type) := Option (Client H × List (Note H))

def withTransport (c : Client H) (outcome : Transport.Outcome H) : Outcome H :=
  outcome.map fun (t, notes) => ({ c with transport := t }, notes.map .transport)

/-- Queues the events that the socket of attempt `n` emits; those that its dispatcher takes no more
    are lost. -/
def deliver (t : Transport H) (n : Nat) : List Event → Transport H × List (Note H)
  | [] => (t, [])
  | e :: rest =>
    match t.emit n e with
    | (u, .delivered) =>
      let (v, more) := deliver u n rest
      (v, .transport (.emitted n e) :: more)
    | _ => deliver t n rest

def launch (c : Client H) (n : Nat) (nonce : Nonce) (clock : Instant) : Outcome H :=
  if c.sockets.length + 1 = n then
    match c.transport.launch n with
    | some (t, notes) =>
      let (s, outputs) := Socket.start t.settings.handshake nonce clock
      let (t, more) := deliver t n (Socket.emitted outputs)
      some (⟨t, c.sockets ++ [s]⟩, notes.map .transport ++ .started n outputs :: more)
    | none => none
  else none

def feed (c : Client H) (n : Nat) (i : Socket.Input) : Outcome H :=
  match c.socket? n with
  | some s =>
    match s.step? i with
    | some (s, outputs) =>
      let (t, more) := deliver c.transport n (Socket.emitted outputs)
      some (⟨t, c.sockets.set (n - 1) s⟩, .socket n i outputs :: more)
    | none => none
  | none => none

def isOver (c : Client H) (n : Nat) : Bool :=
  ((c.socket? n).map Socket.isOver).getD false

/-- Nothing will be queued for the socket of attempt `n` any more, and nothing is left. -/
def commandsEnded (c : Client H) (n : Nat) : Bool :=
  c.transport.link.handle ≠ some n &&
    ((c.transport.attempt? n).map fun a => a.commands.isEmpty).getD false

/-- The socket of attempt `n` receives its next command, or their end. -/
def receive (c : Client H) (n : Nat) : Outcome H :=
  match c.transport.receive n with
  | some (command, t) =>
    ({ c with transport := t }.feed n (.command (some command))).map fun (c, notes) =>
      (c, .transport (.received n command) :: notes)
  | none => if c.commandsEnded n then c.feed n (.command none) else none

def isCommand : Socket.Input → Bool
  | .command _ => true
  | _ => false

def step? (c : Client H) : Move H → Outcome H
  | .perform op => c.withTransport (c.transport.step? (.perform op))
  | .launch n nonce clock => c.launch n nonce clock
  | .take n => c.withTransport (c.transport.step? (.take n))
  | .notice n => c.withTransport (c.transport.step? (.notice n))
  | .applyHeld n => c.withTransport (c.transport.step? (.applyHeld n))
  | .finish n failure => c.withTransport (c.transport.step? (.finish n failure))
  | .abortFailed n => c.withTransport (c.transport.step? (.abortFailed n))
  | .settle n => c.withTransport (c.transport.step? (.settle n))
  | .input n i => if isCommand i then none else c.feed n i
  | .receive n => c.receive n
  | .endEvents n => if c.isOver n then c.withTransport (c.transport.step? (.endEvents n)) else none
  | .endCommands n =>
    if c.isOver n then c.withTransport (c.transport.step? (.endCommands n)) else none

/-- A sequence of moves leads from one state to another, and these notes tell what happened.
    Callers, dispatchers, sockets and peers move in any order, so what holds of all runs holds under
    every schedule. -/
inductive Run (c : Client H) : List (Note H) → Client H → Prop where
  | refl : Run c [] c
  | step {d e : Client H} {seen more : List (Note H)} (before : Run c seen d) (m : Move H)
      (made : d.step? m = some (e, more)) : Run c (seen ++ more) e

end Client

end WampClient
