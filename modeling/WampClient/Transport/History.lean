import WampClient.Transport.Dispatch

/-! # Histories

The notes of a run, oldest first, are its history. The views here pick out what concerns one attempt
or one kind of happening, and keep its order.
-/

namespace WampClient.Transport

/-- What has happened, oldest first. `H` is the type of handlers. -/
abbrev History (H : Type) := List (Note H)

namespace History

variable {H : Type}

def callbacks (history : History H) (n : Nat) : List Callback :=
  history.filterMap fun
    | .called m _ c => if m = n then some c else none
    | _ => none

def commands (history : History H) (n : Nat) : List Command :=
  history.filterMap fun
    | .queued m c => if m = n then some c else none
    | _ => none

def received (history : History H) (n : Nat) : List Command :=
  history.filterMap fun
    | .received m c => if m = n then some c else none
    | _ => none

def sentFrame? : Operation H → Option Frame
  | .sendFrame f => some f
  | .send payload isBinary => (Frame.ofPayload payload isBinary).toOption
  | _ => none

/-- The frames whose sending was accepted during attempt `n`. -/
def accepted (history : History H) (n : Nat) : List Frame :=
  history.filterMap fun
    | .performed m _ op .done => if m = n then sentFrame? op else none
    | _ => none

def emitted (history : History H) (n : Nat) : List Event :=
  history.filterMap fun
    | .emitted m e => if m = n then some e else none
    | _ => none

def applied (history : History H) (n : Nat) : List Event :=
  history.filterMap fun
    | .applied m e => if m = n then some e else none
    | _ => none

def launches (history : History H) : List (Nat × H) :=
  history.filterMap fun
    | .launched n h _ => some (n, h)
    | _ => none

def connects (history : History H) : List (H × Admission) :=
  history.filterMap fun
    | .admitted h a => some (h, a)
    | _ => none

/-- The handlers of the connects that an attempt was or will be made for. -/
def admissions (history : History H) : List H :=
  history.connects.filterMap fun (h, a) => if a = .ignored then none else some h

/-- Attempt `n` was aborted by a caller while it was active, or a callback of it has failed. -/
def isCutShort (history : History H) (n : Nat) : Bool :=
  history.any fun
    | .performed m phase .abort _ =>
      m = n && (phase = .connecting || phase = .opened || phase = .closing)
    | .returned m c (some _) => m = n && !c.isLast
    | _ => false

def isCloseRequested (history : History H) (n : Nat) : Bool :=
  history.any fun
    | .performed m .opened .close _ => m = n
    | _ => false

theorem callbacks_append (a b : History H) (n : Nat) :
    callbacks (a ++ b) n = callbacks a n ++ callbacks b n :=
  List.filterMap_append

theorem commands_append (a b : History H) (n : Nat) :
    commands (a ++ b) n = commands a n ++ commands b n :=
  List.filterMap_append

theorem received_append (a b : History H) (n : Nat) :
    received (a ++ b) n = received a n ++ received b n :=
  List.filterMap_append

theorem accepted_append (a b : History H) (n : Nat) :
    accepted (a ++ b) n = accepted a n ++ accepted b n :=
  List.filterMap_append

theorem emitted_append (a b : History H) (n : Nat) :
    emitted (a ++ b) n = emitted a n ++ emitted b n :=
  List.filterMap_append

theorem applied_append (a b : History H) (n : Nat) :
    applied (a ++ b) n = applied a n ++ applied b n :=
  List.filterMap_append

theorem isCutShort_append (a b : History H) (n : Nat) :
    isCutShort (a ++ b) n = (isCutShort a n || isCutShort b n) :=
  List.any_append

theorem launches_append (a b : History H) : launches (a ++ b) = launches a ++ launches b :=
  List.filterMap_append

theorem connects_append (a b : History H) : connects (a ++ b) = connects a ++ connects b :=
  List.filterMap_append

end History

end WampClient.Transport
