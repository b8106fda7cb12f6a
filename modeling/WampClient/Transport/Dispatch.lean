import WampClient.Transport.Basic

/-! # Dispatching

The moves that a transport makes besides the calls of its callers: an attempt is launched, its
socket emits events and receives commands, and its dispatcher takes an event or notices an abort,
applies it to the link, calls the handler and settles. Each move is one indivisible step; a move
that cannot be made now gives nothing. Between any two of them callers may act, be it from outside
or from inside a callback.
-/

namespace WampClient

inductive Delivery where
  | delivered
  /-- The dispatcher of the attempt has ended. -/
  | notDelivered
  /-- The socket has given up its end of the queue. -/
  | dropped
  | noSuchAttempt
  deriving DecidableEq, Repr

namespace Transport

variable {H : Type}

abbrev Outcome (H : Type) := Option (Transport H × List (Note H))

def setDispatcher (t : Transport H) (n : Nat) (d : Dispatcher) : Transport H :=
  t.update n ({ · with dispatcher := d })

def dispatcher? (t : Transport H) (n : Nat) : Option Dispatcher :=
  (t.attempt? n).map Attempt.dispatcher

def isIdle (t : Transport H) (n : Nat) : Bool :=
  match t.attempt? n with
  | none => true
  | some a =>
    match a.dispatcher with
    | .done => true
    | .waiting => !a.woken && a.next?.isNone
    | _ => false

/-- Opens the socket of attempt `n` and starts its dispatcher. An attempt has begun before that, and
    callers may act on it in between. -/
def launch (t : Transport H) (n : Nat) : Outcome H :=
  match t.attempt? n with
  | some a =>
    if a.dispatcher = .begun then
      some (t.setDispatcher n .waiting, [.launched n a.handler t.settings.handshake])
    else none
  | none => none

def emit (t : Transport H) (n : Nat) (e : Event) : Transport H × Delivery :=
  match t.attempt? n with
  | some a =>
    if !a.isLaunched then (t, .noSuchAttempt)
    else if !a.emits then (t, .dropped)
    else if a.dispatcher = .done then (t, .notDelivered)
    else (t.update n ({ · with events := a.events ++ [e] }), .delivered)
  | none => (t, .noSuchAttempt)

def endEvents (t : Transport H) (n : Nat) : Transport H :=
  t.update n ({ · with emits := false })

/-- The socket of attempt `n` gives up its end of the command queue, and what is in it is lost. -/
def endCommands (t : Transport H) (n : Nat) : Transport H :=
  t.update n ({ · with commands := [], receives := false })

def receive (t : Transport H) (n : Nat) : Option (Command × Transport H) :=
  match t.attempt? n with
  | some a =>
    match a.commands with
    | c :: rest => some (c, t.update n ({ · with commands := rest }))
    | [] => none
  | none => none

/-- The dispatcher of attempt `n` takes the next event. It may do so although an abort waits to be
    noticed: which of the two comes first is left open. -/
def take (t : Transport H) (n : Nat) : Option (Transport H) :=
  match t.attempt? n with
  | some a =>
    if a.dispatcher = .waiting then
      a.next?.map fun (e, rest) =>
        t.update n ({ · with events := rest, dispatcher := .holding e })
    else none
  | none => none

def notice (t : Transport H) (n : Nat) : Option (Transport H) :=
  match t.attempt? n with
  | some a =>
    if a.dispatcher = .waiting ∧ a.woken then
      some (t.update n ({ · with woken := false, dispatcher := .holding .aborted }))
    else none
  | none => none

def afterStep : Step → Dispatcher
  | .connected => .calling .onConnect
  | .deliver f => .calling (.onMessage f.payload f.isBinary)
  | .disconnected clean => .calling (.onDisconnect clean)
  | .ignore => .waiting

def applyHeld (t : Transport H) (n : Nat) : Outcome H :=
  match t.attempt? n with
  | some a =>
    match a.dispatcher with
    | .holding e =>
      let (link, step) := t.link.apply n e
      let d := afterStep step
      let calls := match d with
        | .calling c => [.called n a.handler c]
        | _ => []
      some ({ t with link := link }.setDispatcher n d, .applied n e :: calls)
    | _ => none
  | none => none

/-- Where the dispatcher stands after a callback. What a handler returns when it is told of the end
    is of no consequence. -/
def afterCallback : Callback → Option Error → Dispatcher
  | .onDisconnect _, _ => .settling
  | _, some _ => .failed
  | _, none => .waiting

def finish (t : Transport H) (n : Nat) (failure : Option Error) : Outcome H :=
  match t.dispatcher? n with
  | some (.calling c) =>
    some (t.setDispatcher n (afterCallback c failure), [.returned n c failure])
  | _ => none

/-- The dispatcher of attempt `n` aborts the attempt because a callback has failed. Callers may act
    between the failure and this move. -/
def abortFailed (t : Transport H) (n : Nat) : Outcome H :=
  match t.dispatcher? n with
  | some .failed => some ((t.setDispatcher n .waiting).relink (t.link.abortAttempt n))
  | _ => none

/-- The dispatcher of attempt `n` settles the attempt and ends. Events that are still in its queue
    are lost, and a connect that waits for it begins the next attempt. -/
def settle (t : Transport H) (n : Nat) : Outcome H :=
  match t.dispatcher? n with
  | some .settling =>
    let (link, deferred) := t.link.settle n
    let t := t.update n ({ · with events := [], dispatcher := .done })
    some ({ t with
      link := link
      attempts := t.attempts ++ (deferred.map Attempt.ofHandler).toList }, [.settled n])
  | _ => none

/-- A move of a transport, of one of its callers or of one of its sockets. What a handler does in a
    callback is a `perform` between the move that calls it and `finish`. -/
inductive Move (H : Type) where
  | perform (operation : Operation H)
  | launch (attempt : Nat)
  | emit (attempt : Nat) (event : Event)
  | endEvents (attempt : Nat)
  | endCommands (attempt : Nat)
  | receive (attempt : Nat)
  | take (attempt : Nat)
  | notice (attempt : Nat)
  | applyHeld (attempt : Nat)
  | finish (attempt : Nat) (failure : Option Error)
  | abortFailed (attempt : Nat)
  | settle (attempt : Nat)

def isLaunched (t : Transport H) (n : Nat) : Bool :=
  ((t.attempt? n).map Attempt.isLaunched).getD false

def step? (t : Transport H) : Move H → Outcome H
  | .perform op => let (t, notes, _) := t.perform op; some (t, notes)
  | .launch n => t.launch n
  | .emit n e =>
    match t.emit n e with
    | (t, .delivered) => some (t, [.emitted n e])
    | _ => none
  | .endEvents n => if t.isLaunched n then some (t.endEvents n, [.eventsEnded n]) else none
  | .endCommands n => if t.isLaunched n then some (t.endCommands n, [.commandsEnded n]) else none
  | .receive n => (t.receive n).map fun (c, t) => (t, [.received n c])
  | .take n => (t.take n).map (·, [])
  | .notice n => (t.notice n).map (·, [])
  | .applyHeld n => t.applyHeld n
  | .finish n failure => t.finish n failure
  | .abortFailed n => t.abortFailed n
  | .settle n => t.settle n

/-- A sequence of moves leads from one state to another, and these notes tell what happened. -/
inductive Run (t : Transport H) : List (Note H) → Transport H → Prop where
  | refl : Run t [] t
  | step {u v : Transport H} {seen more : List (Note H)} (before : Run t seen u) (m : Move H)
      (made : u.step? m = some (v, more)) : Run t (seen ++ more) v

/-- A new transport can come to a state, and these notes tell what happened on the way. -/
def Reaches (settings : Settings) (seen : List (Note H)) (t : Transport H) : Prop :=
  Run (ofSettings settings) seen t

end Transport

end WampClient
