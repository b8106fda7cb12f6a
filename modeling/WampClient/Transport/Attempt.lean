import WampClient.Socket.Signal

/-! # Attempts

An attempt has a socket at its far end, with a queue of commands towards it and a queue of events
from it, and a dispatcher that turns the events into calls of the handler.
-/

namespace WampClient

inductive Callback where
  | onConnect
  | onMessage (payload : Bytes) (isBinary : Bool)
  | onDisconnect (clean : Bool)
  deriving DecidableEq, Repr

def Callback.isLast : Callback → Bool
  | .onDisconnect _ => true
  | _ => false

inductive Dispatcher where
  /-- The attempt has begun, but neither its socket nor its dispatcher was launched. -/
  | begun
  | waiting
  /-- An event was taken, but not applied to the link yet. -/
  | holding (event : Event)
  | calling (callback : Callback)
  /-- A callback has failed, and the attempt was not aborted for it yet. -/
  | failed
  /-- The handler was told of the end, and the attempt is not settled yet. -/
  | settling
  | done
  deriving DecidableEq, Repr

/-- The event that stands for the end of a queue without a terminal event. -/
def Event.lost : Event := .failure "socket ended without terminal event"

/-- The event that stands for an abort. -/
def Event.aborted : Event := .failure "aborted"

structure Attempt (H : Type) where
  handler : H
  /-- The commands that the socket has not received yet, oldest first. -/
  commands : List Command
  /-- The socket still receives commands. -/
  receives : Bool
  /-- The events that the dispatcher has not taken yet, oldest first. -/
  events : List Event
  /-- The socket may still emit events. -/
  emits : Bool
  /-- The attempt was aborted, and the dispatcher has not noticed yet. -/
  woken : Bool
  dispatcher : Dispatcher
  deriving DecidableEq, Repr

namespace Attempt

variable {H : Type}

def ofHandler (handler : H) : Attempt H :=
  ⟨handler, [], true, [], true, false, .begun⟩

def isLaunched (a : Attempt H) : Bool :=
  a.dispatcher ≠ .begun

/-- Queues a command; a socket that receives no more never sees it. -/
def push (a : Attempt H) (c : Command) : Attempt H :=
  if a.receives then { a with commands := a.commands ++ [c] } else a

/-- The next event from the socket: the oldest in the queue, or its end once it is empty. -/
def next? (a : Attempt H) : Option (Event × List Event) :=
  match a.events with
  | e :: rest => some (e, rest)
  | [] => if a.emits then none else some (.lost, [])

end Attempt

end WampClient
