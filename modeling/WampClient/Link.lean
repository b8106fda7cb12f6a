import WampClient.Error
import WampClient.Socket.Signal

/-! # The link

A transport makes one connection attempt after another and numbers them from one. The link is what
the callers of a transport and the dispatcher of the current attempt share: how far the attempt has
come, where its commands go, and whether another one waits for its end. Each operation is one
indivisible step; what it does outside the link is a list of effects.
-/

namespace WampClient

/-- How far the current attempt has come. An attempt goes through the phases from `connecting` on in
    this order. It may skip some of them, but it never goes back. -/
inductive Phase where
  /-- No attempt was made yet. -/
  | idle
  /-- The socket is not open yet. -/
  | connecting
  | opened
  /-- A close handshake is in progress. -/
  | closing
  /-- The attempt has ended, but its handler was not told yet. -/
  | draining
  | closed
  deriving DecidableEq, Repr

def Phase.name : Phase → String
  | .idle => "Idle"
  | .connecting => "Connecting"
  | .opened => "Open"
  | .closing => "Closing"
  | .draining => "Draining"
  | .closed => "Closed"

/-- What an event means to the dispatcher of its attempt. -/
inductive Step where
  | connected
  | deliver (frame : Frame)
  | disconnected (clean : Bool)
  | ignore
  deriving DecidableEq, Repr

inductive Admission where
  | started
  /-- The attempt starts once the current one has settled. -/
  | deferred
  | ignored
  deriving DecidableEq, Repr

inductive Effect where
  | command (attempt : Nat) (command : Command)
  /-- Tell the dispatcher of an attempt that it was aborted. -/
  | wake (attempt : Nat)
  deriving DecidableEq, Repr

/-- The state shared between callers and the current dispatcher. Each operation on it is one
    indivisible step. Attempts go by their numbers, so that what still comes from an earlier attempt
    is told from what the current one brings. `H` is the type of handlers. -/
structure Link (H : Type) where
  /-- The number of the current attempt; zero before the first one. -/
  attempt : Nat
  phase : Phase
  /-- The attempt whose socket takes commands. -/
  handle : Option Nat
  /-- The attempt whose dispatcher an abort wakes. -/
  alarm : Nat
  /-- The current attempt was asked to close. -/
  closeRequested : Bool
  /-- The handler of a connect that waits for the end of the current attempt. -/
  deferred : Option H
  deriving DecidableEq, Repr

namespace Link

variable {H : Type}

def initial : Link H := ⟨0, .idle, none, 0, false, none⟩

def isActive (l : Link H) : Bool :=
  l.phase = .connecting || l.phase = .opened || l.phase = .closing

def isOpen (l : Link H) : Bool :=
  l.phase = .opened || l.phase = .closing

/-- A completed close handshake with this code is clean. A close without a code is clean only if it
    was asked for. -/
def isCleanClose (l : Link H) (code : UInt16) : Bool :=
  code = normalClosure || code = goingAway || (code = noStatusReceived && l.closeRequested)

def start (l : Link H) : Link H :=
  { l with
    attempt := l.attempt + 1
    phase := .connecting
    handle := some (l.attempt + 1)
    alarm := l.attempt + 1
    closeRequested := false }

def drain (l : Link H) : Link H :=
  { l with phase := .draining, handle := none }

def cancel (l : Link H) : Link H × List Effect :=
  (l.drain, (l.handle.map (Effect.command · .cancel)).toList ++ [.wake l.alarm])

/-- Closes attempt `n`, whose handler was told of its end, and starts a deferred one. The handler is
    that of the new attempt. -/
def settle (l : Link H) (n : Nat) : Link H × Option H :=
  if n = l.attempt ∧ l.phase = .draining then
    match l.deferred with
    | none => ({ l with phase := .closed }, none)
    | some h => ({ l with phase := .closed, deferred := none }.start, some h)
  else (l, none)

/-- Applies an event from the socket of attempt `n`. What does not fit the phase is ignored, and so
    is what comes from any other attempt than the current one; but an end is told in any case, since
    each dispatcher waits for the call that tells it. -/
def apply (l : Link H) (n : Nat) : Event → Link H × Step
  | .opened =>
    if n = l.attempt ∧ l.phase = .connecting then ({ l with phase := .opened }, .connected)
    else (l, .ignore)
  | .message frame =>
    if n = l.attempt ∧ l.isOpen then (l, .deliver frame) else (l, .ignore)
  | .closing _ _ =>
    if n = l.attempt ∧ l.phase = .opened then ({ l with phase := .closing }, .ignore)
    else (l, .ignore)
  | .closed code _ =>
    if n = l.attempt then (l.drain, .disconnected (l.isOpen && l.isCleanClose code))
    else (l, .disconnected false)
  | .failure _ => (if n = l.attempt then l.drain else l, .disconnected false)

/-- Asks for a connection on behalf of a handler. An active attempt is left alone. While an attempt
    has ended but not settled, one such call can wait for it. -/
def connect (l : Link H) (h : H) : Link H × Admission :=
  match l.phase with
  | .idle | .closed => (l.start, .started)
  | .draining =>
    match l.deferred with
    | none => ({ l with deferred := some h }, .deferred)
    | some _ => (l, .ignored)
  | .connecting | .opened | .closing => (l, .ignored)

/-- The attempt whose socket takes a frame that is sent now. -/
def target? (l : Link H) : Option Nat :=
  if l.phase = .opened then l.handle else none

/-- Starts the close handshake of an open attempt. Before an attempt has opened there is nothing to
    shake hands on, and after that it is being closed or has ended. -/
def close (l : Link H) : Link H × List Effect :=
  if l.phase = .opened then
    ({ l with phase := .closing, closeRequested := true },
      (l.handle.map (Effect.command · (.close normalClosure none))).toList)
  else (l, [])

def abort (l : Link H) : Link H × List Effect :=
  if l.isActive then l.cancel else (l, [])

def abortAttempt (l : Link H) (n : Nat) : Link H × List Effect :=
  if n = l.attempt ∧ l.isActive then l.cancel else (l, [])

end Link

end WampClient
