import WampClient.Frame

/-! # Commands and events of a socket

A transport sends commands to the socket of an attempt and receives events from it.
-/

namespace WampClient

def normalClosure : UInt16 := 1000

def goingAway : UInt16 := 1001

/-- Stands for the close code of a close frame without one. -/
def noStatusReceived : UInt16 := 1005

inductive Command where
  | send (frame : Frame)
  | close (code : UInt16) (reason : Option String)
  /-- Drop the connection without a close handshake. -/
  | cancel
  deriving DecidableEq, Repr

inductive Event where
  | opened
  | message (frame : Frame)
  /-- The peer sent a close frame. -/
  | closing (code : UInt16) (reason : String)
  | closed (code : UInt16) (reason : String)
  | failure (message : String)
  deriving DecidableEq, Repr

def Event.isTerminal : Event → Bool
  | .closed _ _ | .failure _ => true
  | .opened | .message _ | .closing _ _ => false

end WampClient
