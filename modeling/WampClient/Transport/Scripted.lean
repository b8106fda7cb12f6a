import WampClient.Transport.Dispatch

/-! # Scripted handlers

A script says what a handler does in each call of a callback: the calls that it makes in turn, and
whether it fails. A transport whose handlers follow scripts runs by itself. In a turn, callers and
sockets act first, and then the dispatcher works until nothing is left to do; it notices an abort
before it takes another event.
-/

namespace WampClient

inductive Action (H : Type) where
  /-- Carries out an operation; if it fails and is `required`, the callback fails as well. -/
  | perform (operation : Operation H) (required : Bool)
  | fail (message : String)
  deriving DecidableEq

/-- What a handler does: the first list of a callback is for its next call, and a call without a
    list does nothing. Lists are used up, so a script ends even if its actions connect again. -/
structure Script (H : Type) where
  onConnect : List (List (Action H))
  onMessage : List (List (Action H))
  onDisconnect : List (List (Action H))
  deriving DecidableEq

namespace Script

variable {H : Type}

def empty : Script H := ⟨[], [], []⟩

/-- The actions of the next call of a callback, and what is left of the script then. -/
def next (s : Script H) : Callback → List (Action H) × Script H
  | .onConnect => (s.onConnect.headD [], { s with onConnect := s.onConnect.tail })
  | .onMessage _ _ => (s.onMessage.headD [], { s with onMessage := s.onMessage.tail })
  | .onDisconnect _ => (s.onDisconnect.headD [], { s with onDisconnect := s.onDisconnect.tail })

end Script

structure CallRecord (H : Type) where
  attempt : Nat
  handler : H
  callback : Callback
  /-- Whether the transport was open at the beginning of the call. -/
  isOpen : Bool
  phase : Phase
  /-- What the operations of the handler gave. -/
  answers : List Answer
  failure : Option Error

structure Scripted (H : Type) where
  transport : Transport H
  scripts : List (H × Script H)

/-- What is seen of a scripted transport over some time: calls of handlers and launched attempts. -/
structure Sight (H : Type) where
  calls : List (CallRecord H)
  launches : List Nat

namespace Sight

variable {H : Type}

def nothing : Sight H := ⟨[], []⟩

def append (first more : Sight H) : Sight H :=
  ⟨first.calls ++ more.calls, first.launches ++ more.launches⟩

instance : Append (Sight H) := ⟨append⟩

end Sight

namespace Transport

variable {H : Type}

def launchBegun (t : Transport H) : Transport H × Sight H :=
  match t.launch t.link.attempt with
  | some (u, _) => (u, ⟨[], [t.link.attempt]⟩)
  | none => (t, .nothing)

/-- Carries out an operation and launches the attempt that it may have started. -/
def act (t : Transport H) (op : Operation H) : Transport H × Answer × Sight H :=
  let (t, _, answer) := t.perform op
  let (t, sight) := t.launchBegun
  (t, answer, sight)

/-- Carries out the actions of a callback: what the operations gave, and why the callback fails if
    it does. -/
def follow (t : Transport H) :
    List (Action H) → Transport H × List Answer × Option Error × Sight H
  | [] => (t, [], none, .nothing)
  | .fail message :: _ => (t, [], some (.handler message), .nothing)
  | .perform op required :: rest =>
    let (t, answer, sight) := t.act op
    match answer, required with
    | .failed e, true => (t, [answer], some e, sight)
    | _, _ =>
      let (t, answers, failure, more) := t.follow rest
      (t, answer :: answers, failure, sight ++ more)

/-- The dispatcher of attempt `n` notices an abort or else takes the next event, and applies it. -/
def advance? (t : Transport H) (n : Nat) : Option (Transport H) := do
  let t ← t.notice n <|> t.take n
  let (t, _) ← t.applyHeld n
  return t

def afterwards (t : Transport H) (n : Nat) : Transport H × Sight H :=
  match t.abortFailed n with
  | some (t, _) => (t, .nothing)
  | none =>
    match t.settle n with
    | some (t, _) => t.launchBegun
    | none => (t, .nothing)

end Transport

namespace Scripted

variable {H : Type} [DecidableEq H]

def script (s : Scripted H) (h : H) : Script H :=
  (s.scripts.lookup h).getD .empty

def setScript (s : Scripted H) (h : H) (script : Script H) : Scripted H :=
  { s with scripts := (h, script) :: s.scripts.filter (·.1 ≠ h) }

def carryOut (s : Scripted H) (n : Nat) (h : H) (c : Callback) : Scripted H × Sight H :=
  let (actions, script) := (s.script h).next c
  let s := s.setScript h script
  let t := s.transport
  let (u, answers, failure, sight) := t.follow actions
  let record : CallRecord H := ⟨n, h, c, t.isOpen, t.link.phase, answers, failure⟩
  let u := ((u.finish n failure).map Prod.fst).getD u
  let (u, more) := u.afterwards n
  ({ s with transport := u }, (⟨[record], []⟩ ++ sight) ++ more)

def round? (s : Scripted H) (n : Nat) : Option (Scripted H × Sight H) := do
  let t ← s.transport.advance? n
  let s := { s with transport := t }
  let a ← t.attempt? n
  match a.dispatcher with
  | .calling c => return s.carryOut n a.handler c
  | _ => return (s, .nothing)

def rounds (n : Nat) : Nat → Scripted H → Scripted H × Sight H
  | 0, s => (s, .nothing)
  | k + 1, s =>
    match s.round? n with
    | none => (s, .nothing)
    | some (s, sight) =>
      let (s, more) := rounds n k s
      (s, sight ++ more)

/-- The dispatcher of the current attempt works until nothing is left to do. Each round takes an
    event, but for one that notices an abort and one that finds the end of the queue. -/
def dispatch (s : Scripted H) : Scripted H × Sight H :=
  let n := s.transport.link.attempt
  rounds n (((s.transport.attempt? n).map (·.events.length)).getD 0 + 2) s

end Scripted

inductive Stimulus (H : Type) where
  | perform (operation : Operation H)
  | emit (attempt : Nat) (event : Event)
  /-- The socket of an attempt gives up its ends of the queues. -/
  | drop (attempt : Nat) (events commands : Bool)

inductive Response where
  | answer (answer : Answer)
  | delivery (delivery : Delivery)

structure Turn (H : Type) where
  responses : List Response
  sight : Sight H
  /-- The commands that the sockets received, attempt by attempt. -/
  commands : List (Nat × Command)

namespace Transport

variable {H : Type}

def drop (t : Transport H) (n : Nat) (events commands : Bool) : Transport H :=
  let t := if events then t.endEvents n else t
  if commands then t.endCommands n else t

def stimulate (t : Transport H) : Stimulus H → Transport H × Response × Sight H
  | .perform op =>
    let (t, answer, sight) := t.act op
    (t, .answer answer, sight)
  | .emit n e =>
    let (t, delivery) := t.emit n e
    (t, .delivery delivery, .nothing)
  | .drop n events commands =>
    if t.isLaunched n then (t.drop n events commands, .answer .done, .nothing)
    else (t, .delivery .noSuchAttempt, .nothing)

def stimulateAll (t : Transport H) : List (Stimulus H) → Transport H × List Response × Sight H
  | [] => (t, [], .nothing)
  | x :: rest =>
    let (t, response, sight) := t.stimulate x
    let (t, responses, more) := t.stimulateAll rest
    (t, response :: responses, sight ++ more)

def receiveAll (t : Transport H) : Transport H × List (Nat × Command) :=
  ({ t with attempts := t.attempts.map ({ · with commands := [] }) },
    (t.attempts.zipIdx 1).flatMap fun (a, n) => a.commands.map (n, ·))

end Transport

namespace Scripted

variable {H : Type} [DecidableEq H]

/-- One turn: what is done from outside, then the work of the dispatcher, and at last the sockets
    receive their commands. -/
def turn (s : Scripted H) (stimuli : List (Stimulus H)) : Scripted H × Turn H :=
  let (t, responses, first) := s.transport.stimulateAll stimuli
  let (s, more) := { s with transport := t }.dispatch
  let (t, commands) := s.transport.receiveAll
  ({ s with transport := t }, ⟨responses, first ++ more, commands⟩)

end Scripted

end WampClient
