import WampClient.Transport.History

/-! # The life of one attempt

A transport makes many attempts, but what can happen to one of them depends on that attempt alone:
on how far it has come, whether it was asked to close, and its queues and dispatcher. `Step` lists
all that can happen to it, with the notes that are made, and `Sound` is kept by each step. That a
transport does nothing else is shown in `WampClient.Proofs.Transport.Change`.
-/

namespace WampClient

/-- An attempt in this phase has not ended. -/
def Phase.isActive : Phase → Bool
  | .connecting | .opened | .closing => true
  | .idle | .draining | .closed => false

/-- An attempt in this phase has opened and has not ended. -/
def Phase.isOpen : Phase → Bool
  | .opened | .closing => true
  | .idle | .connecting | .draining | .closed => false

/-- The phases in the order in which an attempt goes through them. -/
def Phase.rank : Phase → Nat
  | .idle => 0
  | .connecting => 1
  | .opened => 2
  | .closing => 3
  | .draining => 4
  | .closed => 5

theorem Phase.rank_lt_of_isActive {p : Phase} (active : p.isActive = true) :
    p.rank < Phase.draining.rank := by
  cases p <;> first | decide | cases active

theorem Phase.ne_closed_of_isActive {p : Phase} (active : p.isActive = true) : p ≠ .closed := by
  rintro rfl
  cases active

theorem Phase.isActive_of_isOpen {p : Phase} (isOpen : p.isOpen = true) : p.isActive = true := by
  cases p <;> first | rfl | cases isOpen

theorem Link.isActive_eq {H : Type} (l : Link H) : l.isActive = l.phase.isActive := by
  cases phase : l.phase <;> simp [Link.isActive, Phase.isActive, phase]

theorem Link.isOpen_eq {H : Type} (l : Link H) : l.isOpen = l.phase.isOpen := by
  cases phase : l.phase <;> simp [Link.isOpen, Phase.isOpen, phase]

def Dispatcher.isFresh : Dispatcher → Bool
  | .begun | .waiting | .holding _ => true
  | .calling _ | .failed | .settling | .done => false

def Dispatcher.isServing : Dispatcher → Bool
  | .waiting | .holding _ | .failed => true
  | .calling callback => !callback.isLast
  | .begun | .settling | .done => false

/-- A dispatcher that tells its handler of the end, or has told it and not settled yet. -/
def Dispatcher.isEnding : Dispatcher → Bool
  | .calling callback => callback.isLast
  | .settling => true
  | .begun | .waiting | .holding _ | .failed | .done => false

theorem Dispatcher.not_isEnding_of_isFresh {d : Dispatcher} (fresh : d.isFresh = true) :
    d.isEnding = false := by
  cases d <;> first | rfl | cases fresh

theorem Dispatcher.not_isEnding_of_isServing {d : Dispatcher} (serving : d.isServing = true) :
    d.isEnding = false := by
  cases d with
  | calling c => simpa [isServing, isEnding] using serving
  | waiting | holding | failed => rfl
  | begun | settling | done => cases serving

theorem Attempt.next?_cases {H : Type} {a : Attempt H} {e : Event} {rest : List Event}
    (next : a.next? = some (e, rest)) :
    a.events = e :: rest ∨ (a.events = [] ∧ a.emits = false ∧ e = .lost ∧ rest = []) := by
  unfold next? at next
  split at next
  · rename_i queue
    cases next
    exact .inl queue
  · rename_i queue
    split at next
    · cases next
    · rename_i silent
      cases next
      exact .inr ⟨queue, by simpa using silent, rfl, rfl⟩

section push

variable {H : Type} (a : Attempt H) (c : Command)

@[simp] theorem Attempt.push_handler : (a.push c).handler = a.handler := by
  unfold push
  split <;> rfl

@[simp] theorem Attempt.push_receives : (a.push c).receives = a.receives := by
  unfold push
  split <;> rfl

@[simp] theorem Attempt.push_events : (a.push c).events = a.events := by
  unfold push
  split <;> rfl

@[simp] theorem Attempt.push_emits : (a.push c).emits = a.emits := by
  unfold push
  split <;> rfl

@[simp] theorem Attempt.push_woken : (a.push c).woken = a.woken := by
  unfold push
  split <;> rfl

@[simp] theorem Attempt.push_dispatcher : (a.push c).dispatcher = a.dispatcher := by
  unfold push
  split <;> rfl

end push

namespace Transport

variable {H : Type}

/-- The attempt that a note is about. What becomes of a connect is about none. -/
def Note.attempt? : Note H → Option Nat
  | .performed n .. | .launched n .. | .queued n _ | .received n _ | .commandsEnded n
  | .emitted n _ | .eventsEnded n | .applied n _ | .called n .. | .returned n .. | .settled n =>
    some n
  | .admitted .. => none

def History.about (history : History H) (n : Nat) : History H :=
  history.filter (·.attempt? = some n)

/-- What is noted when a command is queued; a socket that receives no more is sent nothing. -/
def pushed (n : Nat) (a : Attempt H) (c : Command) : List (Note H) :=
  if a.receives then [.queued n c] else []

section pushed

variable (n : Nat) (a : Attempt H) (c : Command)

@[simp] theorem callbacks_pushed : History.callbacks (pushed n a c) n = [] := by
  unfold pushed
  split <;> rfl

@[simp] theorem received_pushed : History.received (pushed n a c) n = [] := by
  unfold pushed
  split <;> rfl

@[simp] theorem accepted_pushed : History.accepted (pushed n a c) n = [] := by
  unfold pushed
  split <;> rfl

@[simp] theorem emitted_pushed : History.emitted (pushed n a c) n = [] := by
  unfold pushed
  split <;> rfl

@[simp] theorem isCutShort_pushed : History.isCutShort (pushed n a c) n = false := by
  unfold pushed
  split <;> rfl

@[simp] theorem mem_pushed {note : Note H} :
    note ∈ pushed n a c ↔ a.receives = true ∧ note = .queued n c := by
  unfold pushed
  split <;> simp_all

theorem commands_pushed :
    History.commands (pushed n a c) n = if a.receives then [c] else [] := by
  unfold pushed
  split <;> simp [History.commands]

end pushed

section performed

variable {n : Nat} {phase : Phase} {op : Operation H} {answer : Answer}

theorem sends_only {f : Frame} (frame : History.sentFrame? op = some f) : op ≠ .abort ∧ op ≠ .close := by
  constructor <;> rintro rfl <;> cases frame

theorem isCutShort_abort :
    History.isCutShort [.performed n phase (.abort : Operation H) answer] n = phase.isActive := by
  cases phase <;> simp [History.isCutShort, Phase.isActive]

theorem isCutShort_performed (unaborted : op = .abort → phase.isActive = false) :
    History.isCutShort [.performed n phase op answer] n = false := by
  cases op with
  | abort => exact isCutShort_abort.trans (unaborted rfl)
  | connect | send | sendFrame | close | isOpen => rfl

theorem isCloseRequested_performed (unclosed : op = .close → phase ≠ .opened) :
    History.isCloseRequested [.performed n phase op answer] n = false := by
  cases op with
  | close =>
      cases phase with
      | opened => exact absurd rfl (unclosed rfl)
      | idle | connecting | closing | draining | closed => rfl
  | connect | send | sendFrame | abort | isOpen => cases phase <;> rfl

end performed

theorem afterCallback_unsettled (c : Callback) (failure : Option Error) :
    afterCallback c failure ≠ .done := by
  unfold afterCallback
  split <;> nofun

theorem isServing_afterCallback (c : Callback) (failure : Option Error)
    (more : (!c.isLast) = true) : (afterCallback c failure).isServing = true := by
  unfold afterCallback
  split
  · cases more
  · rfl
  · rfl

theorem isEnding_afterCallback (c : Callback) (failure : Option Error) (last : c.isLast = true) :
    (afterCallback c failure).isEnding = true := by
  cases c with
  | onDisconnect => rfl
  | onConnect | onMessage => cases last

/-- One attempt and what the link holds about it. Whatever is shown of an attempt by itself is shown
    of its life, where no other attempt can get in the way. -/
structure Life (H : Type) where
  phase : Phase
  /-- The attempt was asked to close while it was open. -/
  closeRequested : Bool
  attempt : Attempt H

namespace Life

def ofHandler (handler : H) : Life H :=
  ⟨.connecting, false, .ofHandler handler⟩

def on (l : Life H) (f : Attempt H → Attempt H) : Life H :=
  { l with attempt := f l.attempt }

def cancel (l : Life H) : Life H :=
  { l with phase := .draining, attempt := { l.attempt.push .cancel with woken := true } }

/-- The end that this event brings is clean. -/
def verdict (l : Life H) : Event → Bool
  | .closed code _ => l.phase.isOpen &&
      (code = normalClosure || code = goingAway || (code = noStatusReceived && l.closeRequested))
  | _ => false

/-- The event changes nothing and is told to nobody. -/
def ignores (l : Life H) : Event → Bool
  | .opened => l.phase ≠ .connecting
  | .message _ => !l.phase.isOpen
  | .closing _ _ => l.phase ≠ .opened
  | .closed _ _ | .failure _ => false

theorem unended_of_ignores {l : Life H} {e : Event} (ignores : l.ignores e = true) :
    e.isTerminal = false := by
  cases e <;> first | rfl | cases ignores

/-- What can happen to attempt `n`, and what is noted of it. The rest of the transport does not show
    here, so what holds of one attempt is an invariant of these steps. -/
inductive Step (n : Nat) (l : Life H) : List (Note H) → Life H → Prop where
  /-- A caller acts, and the attempt stays as it is. -/
  | observed (op : Operation H) (answer : Answer)
      (unsent : answer = .done → History.sentFrame? op = none)
      (unclosed : op = .close → l.phase ≠ .opened)
      (unaborted : op = .abort → l.phase.isActive = false) :
      Step n l [.performed n l.phase op answer] l
  | sent (op : Operation H) (f : Frame) (frame : History.sentFrame? op = some f)
      (isOpen : l.phase = .opened) (receives : l.attempt.receives = true) :
      Step n l [.queued n (.send f), .performed n .opened op .done] (l.on (·.push (.send f)))
  | asked (isOpen : l.phase = .opened) :
      Step n l (pushed n l.attempt (.close normalClosure none) ++ [.performed n .opened .close .done])
        ⟨.closing, true, l.attempt.push (.close normalClosure none)⟩
  | aborted (active : l.phase.isActive = true) :
      Step n l (pushed n l.attempt .cancel ++ [.performed n l.phase .abort .done]) l.cancel
  | launched (handshake : Handshake) (begun : l.attempt.dispatcher = .begun) :
      Step n l [.launched n l.attempt.handler handshake] (l.on ({ · with dispatcher := .waiting }))
  | emitted (e : Event) (isLaunched : l.attempt.isLaunched = true)
      (emits : l.attempt.emits = true) (listens : l.attempt.dispatcher ≠ .done) :
      Step n l [.emitted n e] (l.on fun a => { a with events := l.attempt.events ++ [e] })
  | eventsEnded (isLaunched : l.attempt.isLaunched = true) :
      Step n l [.eventsEnded n] (l.on ({ · with emits := false }))
  | commandsEnded (isLaunched : l.attempt.isLaunched = true) :
      Step n l [.commandsEnded n] (l.on ({ · with commands := [], receives := false }))
  | received (c : Command) (rest : List Command) (queue : l.attempt.commands = c :: rest) :
      Step n l [.received n c] (l.on ({ · with commands := rest }))
  | taken (e : Event) (rest : List Event) (waiting : l.attempt.dispatcher = .waiting)
      (next : l.attempt.next? = some (e, rest)) :
      Step n l [] (l.on ({ · with events := rest, dispatcher := .holding e }))
  | noticed (waiting : l.attempt.dispatcher = .waiting) (woken : l.attempt.woken = true) :
      Step n l [] (l.on ({ · with woken := false, dispatcher := .holding .aborted }))
  | connected (held : l.attempt.dispatcher = .holding .opened) (phase : l.phase = .connecting) :
      Step n l [.applied n .opened, .called n l.attempt.handler .onConnect]
        ⟨.opened, l.closeRequested, { l.attempt with dispatcher := .calling .onConnect }⟩
  | delivered (f : Frame) (held : l.attempt.dispatcher = .holding (.message f))
      (isOpen : l.phase.isOpen = true) :
      Step n l [.applied n (.message f),
          .called n l.attempt.handler (.onMessage f.payload f.isBinary)]
        (l.on ({ · with dispatcher := .calling (.onMessage f.payload f.isBinary) }))
  | peerClosed (code : UInt16) (reason : String)
      (held : l.attempt.dispatcher = .holding (.closing code reason)) (isOpen : l.phase = .opened) :
      Step n l [.applied n (.closing code reason)]
        ⟨.closing, l.closeRequested, { l.attempt with dispatcher := .waiting }⟩
  | ignored (e : Event) (held : l.attempt.dispatcher = .holding e) (ignores : l.ignores e = true) :
      Step n l [.applied n e] (l.on ({ · with dispatcher := .waiting }))
  | ended (e : Event) (held : l.attempt.dispatcher = .holding e) (last : e.isTerminal = true) :
      Step n l [.applied n e, .called n l.attempt.handler (.onDisconnect (l.verdict e))]
        ⟨.draining, l.closeRequested,
          { l.attempt with dispatcher := .calling (.onDisconnect (l.verdict e)) }⟩
  | returned (c : Callback) (failure : Option Error) (calling : l.attempt.dispatcher = .calling c) :
      Step n l [.returned n c failure] (l.on ({ · with dispatcher := afterCallback c failure }))
  /-- A callback has failed, and the attempt is aborted for it. -/
  | cutShort (failed : l.attempt.dispatcher = .failed) (active : l.phase.isActive = true) :
      Step n l (pushed n l.attempt .cancel) (l.on ({ · with dispatcher := .waiting })).cancel
  /-- A callback has failed, but the attempt was aborted before. -/
  | wasAborted (failed : l.attempt.dispatcher = .failed) (ended : l.phase.isActive = false) :
      Step n l [] (l.on ({ · with dispatcher := .waiting }))
  | settled (settling : l.attempt.dispatcher = .settling) (draining : l.phase = .draining) :
      Step n l [.settled n]
        ⟨.closed, l.closeRequested, { l.attempt with events := [], dispatcher := .done }⟩

/-- All that has happened to attempt `n` since it began for a handler. -/
inductive Run (n : Nat) (handler : H) : List (Note H) → Life H → Prop where
  | begun : Run n handler [] (.ofHandler handler)
  | step {seen more : List (Note H)} {l m : Life H} (before : Run n handler seen l)
      (step : Step n l more m) : Run n handler (seen ++ more) m

/-- Where the dispatcher stands in a phase. While the end of an attempt is still to be told, the
    dispatcher tells it or has told it, or an abort is stored for it or was just noticed; so it does
    not wait in vain. -/
def Stands (phase : Phase) (a : Attempt H) : Prop :=
  match phase with
  | .idle => False
  | .connecting => a.woken = false ∧ a.dispatcher.isFresh = true
  | .opened | .closing => a.woken = false ∧ a.dispatcher.isServing = true
  | .draining => a.dispatcher.isEnding = true ∨
      (a.dispatcher ≠ .done ∧ (a.woken = true ∨ a.dispatcher = .holding .aborted))
  | .closed => a.dispatcher = .done

/-- What holds all through the life of an attempt. -/
structure Sound (l : Life H) : Prop where
  stands : Stands l.phase l.attempt
  asked : l.closeRequested = true → l.phase = .closing ∨ l.phase = .draining ∨ l.phase = .closed

theorem ofHandler_sound (handler : H) : (ofHandler handler).Sound :=
  ⟨⟨rfl, rfl⟩, nofun⟩

theorem Step.about {n : Nat} {l m : Life H} {notes : List (Note H)} (step : Step n l notes m) :
    ∀ note ∈ notes, note.attempt? = some n := by
  intro note member
  cases step <;> grind [Note.attempt?, pushed]

theorem Stands.congr {phase : Phase} {a b : Attempt H} (stands : Stands phase a)
    (woken : b.woken = a.woken) (dispatcher : b.dispatcher = a.dispatcher) : Stands phase b := by
  simp only [Stands, woken, dispatcher]
  exact stands

theorem Stands.begun {phase : Phase} {a : Attempt H} (stands : Stands phase a) : phase ≠ .idle := by
  rintro rfl
  exact stands

theorem Stands.unsettled {phase : Phase} {a : Attempt H} (stands : Stands phase a)
    (unsettled : phase ≠ .closed) : a.dispatcher ≠ .done := by
  intro done
  cases phase with
  | idle => exact stands
  | connecting => simp [Stands, done, Dispatcher.isFresh] at stands
  | opened | closing => simp [Stands, done, Dispatcher.isServing] at stands
  | draining =>
      rcases stands with ending | ⟨working, _⟩
      · simp [done, Dispatcher.isEnding] at ending
      · exact working done
  | closed => exact unsettled rfl

theorem Stands.unwoken {phase : Phase} {a : Attempt H} (stands : Stands phase a)
    (active : phase.isActive = true) : a.woken = false := by
  cases phase with
  | connecting | opened | closing => exact stands.1
  | idle | draining | closed => cases active

theorem Stands.not_isEnding {phase : Phase} {a : Attempt H} (stands : Stands phase a)
    (active : phase.isActive = true) : a.dispatcher.isEnding = false := by
  cases phase with
  | connecting => exact Dispatcher.not_isEnding_of_isFresh stands.2
  | opened | closing => exact Dispatcher.not_isEnding_of_isServing stands.2
  | idle | draining | closed => cases active

/-- An attempt that is not over is active, or its end is still to be told. -/
theorem Stands.active_or_draining {phase : Phase} {a : Attempt H} (stands : Stands phase a)
    (unsettled : a.dispatcher ≠ .done) : phase.isActive = true ∨ phase = .draining := by
  cases phase with
  | idle => exact stands.elim
  | connecting | opened | closing => exact .inl rfl
  | draining => exact .inr rfl
  | closed => exact absurd stands unsettled

theorem Stands.draining {phase : Phase} {a : Attempt H} (stands : Stands phase a)
    (ending : a.dispatcher.isEnding = true) : phase = .draining := by
  have unsettled : a.dispatcher ≠ .done := fun done => by simp [done, Dispatcher.isEnding] at ending
  exact (stands.active_or_draining unsettled).resolve_left fun active => by
    simp [stands.not_isEnding active] at ending

/-- A move keeps the dispatcher where it stands if it stays fresh, stays serving or goes on ending,
    whichever it is. It must not forget an abort that it has noticed. -/
theorem Stands.move {phase : Phase} {a : Attempt H} {events : List Event} {d : Dispatcher}
    (stands : Stands phase a) (unsettled : d ≠ .done)
    (fresh : phase = .connecting → a.dispatcher.isFresh = true → d.isFresh = true)
    (serving : a.dispatcher.isServing = true → d.isServing = true)
    (ending : a.dispatcher.isEnding = true → d.isEnding = true)
    (unnoticed : a.dispatcher ≠ .holding .aborted) (working : a.dispatcher ≠ .done) :
    Stands phase { a with events := events, dispatcher := d } := by
  cases phase with
  | idle => exact stands
  | connecting => exact ⟨stands.1, fresh rfl stands.2⟩
  | opened | closing => exact ⟨stands.1, serving stands.2⟩
  | draining =>
      rcases stands with ends | ⟨_, woken | noticed⟩
      · exact .inl (ending ends)
      · exact .inr ⟨unsettled, .inl woken⟩
      · exact absurd noticed unnoticed
  | closed => exact absurd stands working

/-- An attempt never goes back to an earlier phase. -/
theorem Step.rank_le {n : Nat} {l m : Life H} {notes : List (Note H)} (step : Step n l notes m)
    (sound : l.Sound) : l.phase.rank ≤ m.phase.rank := by
  cases step with
  | observed | sent | launched | emitted | eventsEnded | commandsEnded | received | taken | noticed
  | delivered | ignored | returned | wasAborted => exact Nat.le_refl _
  | asked isOpen | peerClosed _ _ _ isOpen | connected _ isOpen => simp [isOpen, Phase.rank]
  | aborted active | cutShort _ active => exact Nat.le_of_lt (Phase.rank_lt_of_isActive active)
  | ended _ held =>
      rcases sound.stands.active_or_draining (by simp [held]) with active | draining
      · exact Nat.le_of_lt (Phase.rank_lt_of_isActive active)
      · simp [draining]
  | settled _ draining => simp [draining, Phase.rank]

theorem Step.sound {n : Nat} {l m : Life H} {notes : List (Note H)} (step : Step n l notes m)
    (sound : l.Sound) : m.Sound := by
  obtain ⟨stands, asked⟩ := sound
  cases step with
  | observed => exact ⟨stands, asked⟩
  | sent | emitted | eventsEnded | commandsEnded | received =>
      exact ⟨stands.congr (by simp [on]) (by simp [on]), asked⟩
  | asked isOpen =>
      rw [isOpen] at stands
      exact ⟨stands.congr (by simp) (by simp), fun _ => .inl rfl⟩
  | aborted active =>
      refine ⟨.inr ⟨?_, .inl rfl⟩, fun _ => .inr (.inl rfl)⟩
      simp only [cancel, Attempt.push_dispatcher]
      exact stands.unsettled (Phase.ne_closed_of_isActive active)
  | launched handshake begun =>
      refine ⟨stands.move nofun (fun _ _ => rfl) (fun _ => rfl) ?_ ?_ ?_, asked⟩ <;>
        simp [begun, Dispatcher.isEnding]
  | taken e rest waiting next =>
      refine ⟨stands.move nofun (fun _ _ => rfl) (fun _ => rfl) ?_ ?_ ?_, asked⟩ <;>
        simp [waiting, Dispatcher.isEnding]
  | noticed waiting woken =>
      have draining : l.phase = .draining :=
        (stands.active_or_draining (by simp [waiting])).resolve_left fun active => by
          simp [stands.unwoken active] at woken
      refine ⟨?_, asked⟩
      simp only [on, draining]
      exact .inr ⟨nofun, .inr rfl⟩
  | connected held phase =>
      rw [phase] at stands asked
      exact ⟨⟨stands.1, rfl⟩, fun requested => by simpa using asked requested⟩
  | delivered f held isOpen =>
      have opened : l.phase ≠ .connecting := fun connecting => by
        simp [connecting, Phase.isOpen] at isOpen
      refine ⟨stands.move nofun (absurd · opened) (fun _ => rfl) ?_ ?_ ?_, asked⟩ <;>
        simp [held, Event.aborted, Dispatcher.isEnding]
  | peerClosed code reason held isOpen =>
      rw [isOpen] at stands
      exact ⟨⟨stands.1, rfl⟩, fun _ => .inl rfl⟩
  | ignored e held ignores =>
      have unnoticed : e ≠ .aborted := by
        rintro rfl
        simp [Life.ignores, Event.aborted] at ignores
      refine ⟨stands.move nofun (fun _ _ => rfl) (fun _ => rfl) ?_ ?_ ?_, asked⟩ <;>
        simp [held, unnoticed, Dispatcher.isEnding]
  | ended e held last => exact ⟨.inl rfl, fun _ => .inr (.inl rfl)⟩
  | returned c failure calling =>
      refine ⟨stands.move (afterCallback_unsettled c failure) ?_ ?_ ?_ ?_ ?_, asked⟩ <;>
        simp only [calling, Dispatcher.isFresh, Dispatcher.isServing, Dispatcher.isEnding]
      · nofun
      · exact isServing_afterCallback c failure
      · exact isEnding_afterCallback c failure
      · nofun
      · nofun
  | wasAborted failed ended =>
      refine ⟨stands.move nofun (fun _ _ => rfl) (fun _ => rfl) ?_ ?_ ?_, asked⟩ <;>
        simp [failed, Dispatcher.isEnding]
  | cutShort failed active =>
      exact ⟨.inr ⟨by simp [cancel, on], .inl rfl⟩, fun _ => .inr (.inl rfl)⟩
  | settled settling draining => exact ⟨rfl, fun _ => .inr (.inr rfl)⟩

theorem Run.sound {n : Nat} {handler : H} {seen : List (Note H)} {l : Life H}
    (run : Run n handler seen l) : l.Sound := by
  induction run with
  | begun => exact ofHandler_sound handler
  | step _ step ih => exact step.sound ih

end Life

end Transport

end WampClient
