import WampClient.Handshake
import WampClient.Link
import WampClient.Serializer
import WampClient.Text.Quoted
import WampClient.Transport.Attempt

/-! # Transports

A transport is configured once and then makes any number of connection attempts, one at a time.
Its callers connect, send, close and abort; a failing call changes nothing.
-/

namespace WampClient

inductive Connector where
  /-- A client of the network. -/
  | network
  | custom
  deriving DecidableEq, Repr

/-- What stays the same over the life of a transport. -/
structure Settings where
  endpoint : Endpoint
  serializer : Serializer
  options : Options
  connector : Connector

def Settings.handshake (s : Settings) : Handshake :=
  ⟨s.endpoint, s.serializer.subprotocol, s.options⟩

/-- A transport and the state of all its attempts. Attempts that are over are kept: their sockets
    may still emit events, and commands may still wait in their queues. `H` is the type of handlers.
    -/
structure Transport (H : Type) where
  settings : Settings
  link : Link H
  /-- Attempt `n` stands at index `n - 1`. -/
  attempts : List (Attempt H)

inductive Operation (H : Type) where
  | connect (handler : H)
  | send (payload : Bytes) (isBinary : Bool)
  | sendFrame (frame : Frame)
  | close
  | abort
  | isOpen
  deriving DecidableEq, Repr

inductive Answer where
  | done
  | failed (error : Error)
  | flag (value : Bool)
  deriving DecidableEq

namespace Transport

/-- Something that happens in a transport. Moves give notes so that statements can speak of all that
    has happened; no move depends on them. -/
inductive Note (H : Type) where
  /-- A caller acted when the link stood at this attempt and phase. -/
  | performed (attempt : Nat) (phase : Phase) (operation : Operation H) (answer : Answer)
  | admitted (handler : H) (admission : Admission)
  /-- The socket of an attempt was opened. -/
  | launched (attempt : Nat) (handler : H) (handshake : Handshake)
  | queued (attempt : Nat) (command : Command)
  | received (attempt : Nat) (command : Command)
  /-- A socket gave up its end of the command queue. -/
  | commandsEnded (attempt : Nat)
  /-- A socket emitted an event that was queued. -/
  | emitted (attempt : Nat) (event : Event)
  /-- A socket gave up its end of the event queue. -/
  | eventsEnded (attempt : Nat)
  | applied (attempt : Nat) (event : Event)
  | called (attempt : Nat) (handler : H) (callback : Callback)
  | returned (attempt : Nat) (callback : Callback) (failure : Option Error)
  | settled (attempt : Nat)

variable {H : Type}

def ofSettings (settings : Settings) : Transport H :=
  ⟨settings, .initial, []⟩

def attempt? (t : Transport H) : Nat → Option (Attempt H)
  | 0 => none
  | n + 1 => t.attempts[n]?

def update (t : Transport H) (n : Nat) (f : Attempt H → Attempt H) : Transport H :=
  match n with
  | 0 => t
  | n + 1 => { t with attempts := t.attempts.modify n f }

theorem link_update (t : Transport H) (n : Nat) (f : Attempt H → Attempt H) :
    (t.update n f).link = t.link := by
  cases n <;> rfl

theorem attempt?_update (t : Transport H) (n m : Nat) (f : Attempt H → Attempt H) :
    (t.update n f).attempt? m = if n = m then (t.attempt? m).map f else t.attempt? m := by
  cases m with
  | zero =>
    have none_left : (t.update n f).attempt? 0 = none := rfl
    rw [none_left]
    split <;> rfl
  | succ m =>
    cases n with
    | zero => rfl
    | succ n =>
      simp only [update, attempt?, List.getElem?_modify, Nat.add_right_cancel_iff]
      split <;> simp

def receives (t : Transport H) (n : Nat) : Bool :=
  ((t.attempt? n).map Attempt.receives).getD false

/-- Whether messages can be delivered; a close handshake does not keep them back. -/
def isOpen (t : Transport H) : Bool :=
  t.link.isOpen

def push (t : Transport H) (n : Nat) (c : Command) : Transport H × List (Note H) :=
  if t.receives n then (t.update n (·.push c), [.queued n c]) else (t, [])

def carryOut (t : Transport H) : Effect → Transport H × List (Note H)
  | .command n c => t.push n c
  | .wake n => (t.update n ({ · with woken := true }), [])

def carryOutAll (t : Transport H) : List Effect → Transport H × List (Note H)
  | [] => (t, [])
  | e :: rest =>
    let (t, first) := t.carryOut e
    let (t, more) := t.carryOutAll rest
    (t, first ++ more)

/-- Replaces the link and carries out what comes with it. -/
def relink (t : Transport H) (change : Link H × List Effect) : Transport H × List (Note H) :=
  { t with link := change.1 }.carryOutAll change.2

def connect (t : Transport H) (h : H) : Transport H × List (Note H) :=
  let (link, admission) := t.link.connect h
  let attempts :=
    if admission = .started then t.attempts ++ [Attempt.ofHandler h] else t.attempts
  ({ t with link := link, attempts := attempts }, [.admitted h admission])

def sendFrame (t : Transport H) (f : Frame) : Transport H × List (Note H) × Answer :=
  match t.link.target? with
  | none => (t, [], .failed .notConnected)
  | some n =>
    if t.receives n then
      let (t, notes) := t.push n (.send f)
      (t, notes, .done)
    else (t, [], .failed .notConnected)

/-- Sends a payload. That it makes no frame is reported before anything else. -/
def send (t : Transport H) (payload : Bytes) (isBinary : Bool) :
    Transport H × List (Note H) × Answer :=
  match Frame.ofPayload payload isBinary with
  | .error e => (t, [], .failed e)
  | .ok f => t.sendFrame f

/-- Carries out an operation, but for the note of the operation itself. -/
def run (t : Transport H) : Operation H → Transport H × List (Note H) × Answer
  | .connect h => let (t, notes) := t.connect h; (t, notes, .done)
  | .send payload isBinary => t.send payload isBinary
  | .sendFrame f => t.sendFrame f
  | .close => let (t, notes) := t.relink t.link.close; (t, notes, .done)
  | .abort => let (t, notes) := t.relink t.link.abort; (t, notes, .done)
  | .isOpen => (t, [], .flag t.isOpen)

def perform (t : Transport H) (op : Operation H) : Transport H × List (Note H) × Answer :=
  let (u, notes, answer) := t.run op
  (u, notes ++ [.performed t.link.attempt t.link.phase op answer], answer)

def describe (t : Transport H) : String :=
  "WebSocketTransport \x7b endpoint: " ++ Text.quoted t.settings.endpoint.text ++
    ", serializer: " ++ t.settings.serializer.description ++
    ", attempt: " ++ Decimal.text t.link.attempt ++
    ", state: " ++ t.link.phase.name ++ ", .. \x7d"

end Transport

end WampClient
