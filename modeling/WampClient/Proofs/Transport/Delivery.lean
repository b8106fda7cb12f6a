import WampClient.Proofs.Transport.Phase
import WampClient.Proofs.Transport.Rest

/-! # What of a socket's events comes to the handler

Of an attempt that is not cut short, the handler is told just what the events of the socket amount to:
that it connected, once the first of them opens the socket, and each message after that, up to the
event that ends the socket. Neither a call to close nor a close of the peer makes a difference.
-/

namespace WampClient

namespace Event

def message? : Event → Option Callback
  | .message f => some (.onMessage f.payload f.isBinary)
  | .opened | .closing _ _ | .closed _ _ | .failure _ => none

def isClosing : Event → Bool
  | .closing _ _ => true
  | .opened | .message _ | .closed _ _ | .failure _ => false

/-- The events before the one that ends the socket. -/
def live (events : List Event) : List Event :=
  events.takeWhile (!·.isTerminal)

/-- What these events amount to for a handler: once the first one opens the socket, that it connected,
    and then their messages. -/
def told : List Event → List Callback
  | [] => []
  | .opened :: rest => .onConnect :: rest.filterMap message?
  | .message _ :: rest | .closing _ _ :: rest | .closed _ _ :: rest | .failure _ :: rest => told rest

variable {a b events : List Event} {e : Event}

theorem live_append (unended : ∀ e ∈ a, e.isTerminal = false) (b : List Event) :
    live (a ++ b) = a ++ live b :=
  List.takeWhile_append_of_pos fun e member => by simp [unended e member]

theorem live_eq_self (unended : ∀ e ∈ events, e.isTerminal = false) : live events = events := by
  simpa [live] using live_append unended []

theorem live_terminal (last : e.isTerminal = true) (b : List Event) : live (e :: b) = [] := by
  simp [live, last]

theorem live_append_of_ended (ended : ∃ e ∈ a, e.isTerminal = true) (b : List Event) :
    live (a ++ b) = live a := by
  induction a with
  | nil => simp at ended
  | cons x a ih =>
      cases last : x.isTerminal with
      | true => rw [List.cons_append, live_terminal last, live_terminal last]
      | false =>
          have later : ∃ e ∈ a, e.isTerminal = true := by
            obtain ⟨e, member, end_⟩ := ended
            rcases List.mem_cons.mp member with rfl | member
            · simp [last] at end_
            · exact ⟨e, member, end_⟩
          simpa [live, last] using ih later

theorem live_prefix (a b : List Event) : live a <+: live (a ++ b) := by
  by_cases ended : ∃ e ∈ a, e.isTerminal = true
  · exact (live_append_of_ended ended b).symm ▸ List.prefix_refl _
  · have unended : ∀ e ∈ a, e.isTerminal = false := by simpa using ended
    rw [live_append unended, live_eq_self unended]
    exact List.prefix_append ..

theorem told_eq_nil (unopened : .opened ∉ events) : told events = [] := by
  induction events with
  | nil => rfl
  | cons e rest ih =>
      simp only [List.mem_cons, not_or] at unopened
      cases e with
      | opened => exact absurd rfl unopened.1
      | message | closing | closed | failure => exact ih unopened.2

theorem told_append_of_unopened (unopened : .opened ∉ a) (b : List Event) :
    told (a ++ b) = told b := by
  induction a with
  | nil => rfl
  | cons e rest ih =>
      simp only [List.mem_cons, not_or] at unopened
      cases e with
      | opened => exact absurd rfl unopened.1
      | message | closing | closed | failure => exact ih unopened.2

theorem told_append_of_opened (opened : .opened ∈ a) (b : List Event) :
    told (a ++ b) = told a ++ b.filterMap message? := by
  induction a with
  | nil => cases opened
  | cons e rest ih =>
      cases e with
      | opened => simp [told]
      | message | closing | closed | failure => exact ih (by simpa using opened)

theorem told_prefix (a b : List Event) : told a <+: told (a ++ b) := by
  by_cases opened : .opened ∈ a
  · rw [told_append_of_opened opened]
    exact List.prefix_append ..
  · rw [told_eq_nil opened]
    exact List.nil_prefix

theorem onConnect_mem_told : .onConnect ∈ told events ↔ .opened ∈ events := by
  induction events with
  | nil => simp [told]
  | cons e rest ih => cases e <;> simp [told, ih]

/-- The messages that a handler is told are those after the event that opens the socket. -/
theorem messages_told (events : List Event) : (told events).filter Callback.isMessage =
    (events.dropWhile (· ≠ .opened)).filterMap message? := by
  have only (events : List Event) :
      (events.filterMap message?).filter Callback.isMessage = events.filterMap message? := by
    refine List.filter_eq_self.mpr fun c member => ?_
    obtain ⟨e, _, same⟩ := List.mem_filterMap.mp member
    cases e <;> cases same
    rfl
  induction events with
  | nil => rfl
  | cons e rest ih =>
      cases e with
      | opened =>
          rw [List.dropWhile_cons_of_neg (by simp), List.filterMap_cons_none rfl]
          exact only rest
      | message | closing | closed | failure => simpa [told] using ih

theorem isTerminal_of_isClosing (closing : e.isClosing = true) : e.isTerminal = false := by
  cases e <;> first | rfl | cases closing

theorem live_filter (events : List Event) :
    live (events.filter (!·.isClosing)) = (live events).filter (!·.isClosing) := by
  induction events with
  | nil => rfl
  | cons e rest ih =>
      unfold live at ih ⊢
      cases closing : e.isClosing with
      | true => simp [closing, isTerminal_of_isClosing closing, ih]
      | false => cases last : e.isTerminal <;> simp [closing, last, ih]

theorem told_filter (events : List Event) : told (events.filter (!·.isClosing)) = told events := by
  have messages (events : List Event) :
      (events.filter (!·.isClosing)).filterMap message? = events.filterMap message? := by
    rw [List.filterMap_filter]
    congr 1
    funext e
    cases e <;> rfl
  induction events with
  | nil => rfl
  | cons e rest ih =>
      cases e with
      | opened => simpa [told, isClosing] using messages rest
      | message | closing | closed | failure => simpa [told, isClosing] using ih

end Event

namespace Transport

variable {H : Type} {t : Transport H} {n : Nat} {settings : Settings} {seen : History H}

theorem mem_applied {e : Event} : e ∈ seen.applied n ↔ .applied n e ∈ seen := by
  constructor
  · intro member
    obtain ⟨note, here, same⟩ := List.mem_filterMap.mp member
    cases note <;> simp_all
  · intro here
    exact List.mem_filterMap.mpr ⟨_, here, by simp⟩

namespace Life

variable {h : H} {l m : Life H} {notes : History H} {e : Event}

@[simp] theorem applied_pushed (n : Nat) (a : Attempt H) (c : Command) :
    History.applied (pushed n a c) n = [] := by
  unfold pushed
  split <;> rfl

theorem Step.hasTold (step : Step n l notes m) (told : l.attempt.dispatcher.hasTold = true) :
    m.attempt.dispatcher.hasTold = true := by
  cases step with
  | observed | sent | asked | aborted | emitted | eventsEnded | commandsEnded | received =>
      simpa [on, cancel] using told
  | returned c failure calling =>
      cases c with
      | onDisconnect => rfl
      | onConnect | onMessage => simp [calling, Dispatcher.hasTold, Callback.isLast] at told
  | ended | settled => rfl
  | launched _ standing | taken _ _ standing | noticed standing | connected standing
  | delivered _ standing | peerClosed _ _ standing | ignored _ standing | cutShort standing
  | wasAborted standing => simp [standing, Dispatcher.hasTold] at told

theorem Run.live_applied (run : Run n h seen l) (untold : l.attempt.dispatcher.hasTold = false) :
    ∀ e ∈ seen.applied n, e.isTerminal = false := by
  induction run with
  | begun => nofun
  | @step seen more l m before step ih =>
      have untold' : l.attempt.dispatcher.hasTold = false :=
        Bool.eq_false_iff.mpr fun told => by simp [step.hasTold told] at untold
      intro e member
      rw [History.applied_append] at member
      rcases List.mem_append.mp member with earlier | now
      · exact ih untold' e earlier
      · cases step with
        | ended => cases untold
        | ignored f held ignores =>
            obtain rfl : e = f := by simpa [History.applied] using now
            exact unended_of_ignores ignores
        | connected | delivered | peerClosed =>
            obtain rfl := by simpa [History.applied] using now
            rfl
        | asked | aborted =>
            rw [History.applied_append, applied_pushed] at now
            cases now
        | cutShort => simp at now
        | observed | sent | launched | emitted | eventsEnded | commandsEnded | received | taken
        | noticed | returned | wasAborted | settled => simp [History.applied] at now

theorem Run.told_ignored (run : Run n h seen l) (uncut : seen.isCutShort n = false)
    (held : l.attempt.dispatcher = .holding e) (ignores : l.ignores e = true) :
    Event.told (seen.applied n ++ [e]) = Event.told (seen.applied n) := by
  have untold : l.attempt.dispatcher.hasTold = false := by simp [held, Dispatcher.hasTold]
  have isOpen_iff : l.phase.isOpen = true ↔ .opened ∈ seen.applied n :=
    (run.isOpen_iff_of_uncut uncut untold).trans mem_applied.symm
  have active := run.isActive_of_uncut uncut untold
  by_cases opened : .opened ∈ seen.applied n
  · rw [Event.told_append_of_opened opened]
    have isOpen := isOpen_iff.mpr opened
    cases e with
    | message => simp [Life.ignores, isOpen] at ignores
    | opened | closing | closed | failure => simp [Event.message?]
  · rw [Event.told_append_of_unopened opened, Event.told_eq_nil opened]
    rw [← isOpen_iff] at opened
    cases e with
    | opened =>
        cases phase : l.phase with
        | connecting => simp [Life.ignores, phase] at ignores
        | opened | closing => simp [phase, Phase.isOpen] at opened
        | idle | draining | closed => simp [phase, Phase.isActive] at active
    | message | closing | closed | failure => rfl

/-- What the handler of an attempt that was not cut short was told, but for the end. -/
theorem Run.told_applied (run : Run n h seen l) (uncut : seen.isCutShort n = false) :
    (seen.callbacks n).filter (!·.isLast) = Event.told (Event.live (seen.applied n)) := by
  induction run with
  | begun => rfl
  | @step seen more l m before step ih =>
      rw [History.isCutShort_append, Bool.or_eq_false_iff] at uncut
      have told := ih uncut.1
      have live {e : Event} (held : l.attempt.dispatcher = .holding e) (more : List Event) :
          Event.live (History.applied seen n ++ more) = History.applied seen n ++ Event.live more :=
        Event.live_append (before.live_applied (by simp [held, Dispatcher.hasTold])) more
      have all {e : Event} (held : l.attempt.dispatcher = .holding e) :
          Event.live (History.applied seen n) = History.applied seen n := by
        simpa [Event.live] using live held []
      have isOpen_iff {e : Event} (held : l.attempt.dispatcher = .holding e) :
          l.phase.isOpen = true ↔ .opened ∈ History.applied seen n :=
        (before.isOpen_iff_of_uncut uncut.1 (by simp [held, Dispatcher.hasTold])).trans
          mem_applied.symm
      rw [History.callbacks_append, History.applied_append, List.filter_append, told]
      cases step with
      | connected held phase =>
          have unopened : .opened ∉ History.applied seen n := by
            rw [← isOpen_iff held, phase]
            decide
          rw [live held, all held, Event.told_append_of_unopened unopened, Event.told_eq_nil unopened]
          simp [History.callbacks, History.applied, Callback.isLast, Event.live, Event.isTerminal,
            Event.told]
      | delivered f held isOpen =>
          rw [live held, all held, Event.told_append_of_opened ((isOpen_iff held).mp isOpen)]
          simp [History.callbacks, History.applied, Callback.isLast, Event.live, Event.isTerminal,
            Event.message?]
      | peerClosed code reason held isOpen =>
          have opened := (isOpen_iff held).mp (by simp [isOpen, Phase.isOpen])
          rw [live held, all held, Event.told_append_of_opened opened]
          simp [History.callbacks, History.applied, Event.live, Event.isTerminal, Event.message?]
      | ignored e held ignores =>
          have nothing := before.told_ignored uncut.1 held ignores
          have unended := unended_of_ignores ignores
          rw [live held, all held]
          simpa [History.callbacks, History.applied, Event.live, unended] using nothing.symm
      | ended e held last =>
          rw [live held, all held]
          simp [History.callbacks, History.applied, Callback.isLast, Event.live_terminal last]
      | asked | aborted =>
          rw [History.callbacks_append, History.applied_append, callbacks_pushed, applied_pushed]
          simp [History.callbacks, History.applied]
      | cutShort => simp
      | observed | sent | launched | emitted | eventsEnded | commandsEnded | received | taken
      | noticed | returned | wasAborted | settled => simp [History.callbacks, History.applied]

/-- How the events that a socket has emitted are spread: they were applied, or are held, or wait in
    the queue. Once the handler was told of the end, those that count were applied, and what is left
    in the queue has come too late. -/
structure Awaits (emitted applied : List Event) (l : Life H) : Prop where
  told : l.attempt.dispatcher.hasTold = true → Event.live emitted = Event.live applied ∧
    (l.attempt.emits = false ∨ ∃ e ∈ emitted, e.isTerminal = true)
  held : ∀ e, l.attempt.dispatcher = .holding e → emitted = applied ++ e :: l.attempt.events ∨
    e = .lost ∧ l.attempt.emits = false ∧ emitted = applied
  free : l.attempt.dispatcher.hasTold = false → (∀ e, l.attempt.dispatcher ≠ .holding e) →
    emitted = applied ++ l.attempt.events

section awaits

variable {emitted applied : List Event}

theorem Awaits.quiet (awaits : Awaits emitted applied l) (no_event : notes.emitted n = [])
    (not_applied : notes.applied n = []) (dispatcher : m.attempt.dispatcher = l.attempt.dispatcher)
    (events : m.attempt.events = l.attempt.events)
    (emits : l.attempt.emits = false → m.attempt.emits = false) :
    Awaits (emitted ++ notes.emitted n) (applied ++ notes.applied n) m := by
  rw [no_event, not_applied, List.append_nil, List.append_nil]
  constructor
  case told => exact fun hasTold => (awaits.told (dispatcher ▸ hasTold)).imp_right (.imp_left emits)
  case held =>
    intro e holds
    rw [events]
    exact (awaits.held e (dispatcher ▸ holds)).imp_right fun ⟨lost, silent, all⟩ =>
      ⟨lost, emits silent, all⟩
  case free =>
    intro untold unheld
    rw [events]
    exact awaits.free (dispatcher ▸ untold) (dispatcher ▸ unheld)

theorem Awaits.goes_on (awaits : Awaits emitted applied l) (no_event : notes.emitted n = [])
    (not_applied : notes.applied n = []) (untold : l.attempt.dispatcher.hasTold = false)
    (unheld : ∀ e, l.attempt.dispatcher ≠ .holding e) (still : m.attempt.dispatcher.hasTold = false)
    (unheld' : ∀ e, m.attempt.dispatcher ≠ .holding e)
    (events : m.attempt.events = l.attempt.events) :
    Awaits (emitted ++ notes.emitted n) (applied ++ notes.applied n) m := by
  rw [no_event, not_applied, List.append_nil, List.append_nil]
  refine ⟨fun told => ?_, fun e held => absurd held (unheld' e), fun _ _ => ?_⟩
  · simp [still] at told
  · rw [events]
    exact awaits.free untold unheld

theorem Awaits.applies (awaits : Awaits emitted applied l) (no_event : notes.emitted n = [])
    (now : notes.applied n = [e]) (held : l.attempt.dispatcher = .holding e)
    (unended : e.isTerminal = false) (still : m.attempt.dispatcher.hasTold = false)
    (unheld : ∀ e, m.attempt.dispatcher ≠ .holding e)
    (events : m.attempt.events = l.attempt.events) :
    Awaits (emitted ++ notes.emitted n) (applied ++ notes.applied n) m := by
  rw [no_event, now, List.append_nil]
  refine ⟨fun told => ?_, fun e held => absurd held (unheld e), fun _ _ => ?_⟩
  · simp [still] at told
  · rcases awaits.held e held with queue | ⟨rfl, _⟩
    · simp [queue, events]
    · cases unended

theorem Awaits.ends (awaits : Awaits emitted applied l) (no_event : notes.emitted n = [])
    (now : notes.applied n = [e]) (held : l.attempt.dispatcher = .holding e)
    (last : e.isTerminal = true) (unended : ∀ e ∈ applied, e.isTerminal = false)
    (told : m.attempt.dispatcher.hasTold = true) (emits : m.attempt.emits = l.attempt.emits) :
    Awaits (emitted ++ notes.emitted n) (applied ++ notes.applied n) m := by
  rw [no_event, now, List.append_nil]
  refine ⟨fun _ => ?_, fun x holds => ?_, fun untold => ?_⟩
  · rw [Event.live_append unended, Event.live_terminal last, List.append_nil]
    rcases awaits.held e held with queue | ⟨_, silent, rfl⟩
    · rw [queue, Event.live_append unended, Event.live_terminal last, List.append_nil]
      exact ⟨rfl, .inr ⟨e, by simp, last⟩⟩
    · exact ⟨Event.live_eq_self unended, .inl (emits ▸ silent)⟩
  · simp [holds, Dispatcher.hasTold] at told
  · simp [told] at untold

theorem Awaits.settles (awaits : Awaits emitted applied l) (no_event : notes.emitted n = [])
    (not_applied : notes.applied n = []) (before : l.attempt.dispatcher.hasTold = true)
    (told : m.attempt.dispatcher.hasTold = true) (emits : m.attempt.emits = l.attempt.emits) :
    Awaits (emitted ++ notes.emitted n) (applied ++ notes.applied n) m := by
  rw [no_event, not_applied, List.append_nil, List.append_nil]
  refine ⟨fun _ => emits ▸ awaits.told before, fun x holds => ?_, fun untold => ?_⟩
  · simp [holds, Dispatcher.hasTold] at told
  · simp [told] at untold

theorem Awaits.arrives (awaits : Awaits emitted applied l) (now : notes.emitted n = [e])
    (not_applied : notes.applied n = []) (emits : l.attempt.emits = true) :
    Awaits (emitted ++ notes.emitted n) (applied ++ notes.applied n)
      (l.on fun a => { a with events := l.attempt.events ++ [e] }) := by
  rw [now, not_applied, List.append_nil]
  constructor
  case told =>
    intro hasTold
    obtain ⟨same, silent | ended⟩ := awaits.told hasTold
    · simp [emits] at silent
    · refine ⟨(Event.live_append_of_ended ended _).trans same, .inr ?_⟩
      obtain ⟨x, member, last⟩ := ended
      exact ⟨x, List.mem_append_left _ member, last⟩
  case held =>
    intro x holds
    rcases awaits.held x holds with queue | ⟨_, silent, _⟩
    · exact .inl (by simp [queue, on])
    · simp [emits] at silent
  case free =>
    intro untold unheld
    simp [awaits.free untold unheld, on]

theorem Awaits.takes {rest : List Event} (awaits : Awaits emitted applied l)
    (no_event : notes.emitted n = []) (not_applied : notes.applied n = [])
    (waiting : l.attempt.dispatcher = .waiting) (next : l.attempt.next? = some (e, rest)) :
    Awaits (emitted ++ notes.emitted n) (applied ++ notes.applied n)
      (l.on ({ · with events := rest, dispatcher := .holding e })) := by
  rw [no_event, not_applied, List.append_nil, List.append_nil]
  have all := awaits.free (by simp [waiting, Dispatcher.hasTold]) (by simp [waiting])
  refine ⟨fun told => ?_, fun x holds => ?_, fun _ unheld => absurd rfl (unheld e)⟩
  · simp [on, Dispatcher.hasTold] at told
  · obtain rfl : e = x := by simpa [on] using holds
    rcases Attempt.next?_cases next with queue | ⟨queue, silent, rfl, rfl⟩
    · exact .inl (by rw [all, queue]; rfl)
    · exact .inr ⟨rfl, silent, by simp [all, queue]⟩

end awaits

theorem Run.unwoken (run : Run n h seen l) (uncut : seen.isCutShort n = false)
    (waiting : l.attempt.dispatcher = .waiting) : l.attempt.woken = false := by
  have active := run.isActive_of_uncut uncut (by simp [waiting, Dispatcher.hasTold])
  exact run.sound.stands.unwoken active

theorem Run.awaits (run : Run n h seen l) (uncut : seen.isCutShort n = false) :
    Awaits (seen.emitted n) (seen.applied n) l := by
  induction run with
  | begun => exact ⟨nofun, nofun, fun _ _ => rfl⟩
  | @step seen more l m before step ih =>
      rw [History.isCutShort_append, Bool.or_eq_false_iff] at uncut
      have awaits := ih uncut.1
      rw [History.emitted_append, History.applied_append]
      cases step with
      | observed | sent | commandsEnded | received =>
          exact awaits.quiet rfl rfl (by simp [on]) (by simp [on]) (by simp [on])
      | eventsEnded => exact awaits.quiet rfl rfl rfl rfl fun _ => rfl
      | asked | aborted =>
          refine awaits.quiet ?_ ?_ (by simp [cancel]) (by simp [cancel]) (by simp [cancel])
          · rw [History.emitted_append, emitted_pushed]
            rfl
          · rw [History.applied_append, applied_pushed]
            rfl
      | launched handshake begun =>
          exact awaits.goes_on rfl rfl (by simp [begun, Dispatcher.hasTold]) (by simp [begun]) rfl
            (by simp [on]) rfl
      | emitted e isLaunched emits =>
          exact awaits.arrives (by simp [History.emitted]) rfl emits
      | taken e rest waiting next => exact awaits.takes rfl rfl waiting next
      | noticed waiting woken => simp [before.unwoken uncut.1 waiting] at woken
      | connected held | peerClosed _ _ held | delivered _ held =>
          exact awaits.applies rfl (by simp [History.applied]) held rfl rfl (by simp [on]) rfl
      | ignored e held ignores =>
          exact awaits.applies rfl (by simp [History.applied]) held (unended_of_ignores ignores) rfl
            (by simp [on]) rfl
      | ended e held last =>
          have unended := before.live_applied (by simp [held, Dispatcher.hasTold])
          exact awaits.ends rfl (by simp [History.applied]) held last unended rfl rfl
      | returned c failure calling =>
          cases c with
          | onDisconnect clean =>
              exact awaits.settles rfl rfl (by rw [calling]; rfl) rfl rfl
          | onConnect | onMessage =>
              refine awaits.goes_on rfl rfl (by rw [calling]; rfl) (by simp [calling]) ?_ ?_ rfl
              · cases failure <;> rfl
              · cases failure <;> simp [on, afterCallback]
      | cutShort failed =>
          exact awaits.goes_on (emitted_pushed ..) (applied_pushed ..)
            (by simp [failed, Dispatcher.hasTold]) (by simp [failed])
            (by simp [cancel, on, Dispatcher.hasTold]) (by simp [cancel, on]) (by simp [cancel, on])
      | wasAborted failed =>
          exact awaits.goes_on rfl rfl (by simp [failed, Dispatcher.hasTold]) (by simp [failed]) rfl
            (by simp [on]) rfl
      | settled settling =>
          exact awaits.settles rfl rfl (by simp [settling, Dispatcher.hasTold]) rfl rfl

/-- What was applied of the events that count comes first among those that were emitted. -/
theorem Run.live_prefix (run : Run n h seen l) (uncut : seen.isCutShort n = false) :
    Event.live (seen.applied n) <+: Event.live (seen.emitted n) := by
  have awaits := run.awaits uncut
  cases told : l.attempt.dispatcher.hasTold with
  | true => exact (awaits.told told).1 ▸ List.prefix_refl _
  | false =>
      have unended := run.live_applied told
      obtain ⟨more, all⟩ : ∃ more, seen.emitted n = seen.applied n ++ more := by
        by_cases held : ∃ e, l.attempt.dispatcher = .holding e
        · obtain ⟨e, held⟩ := held
          rcases awaits.held e held with all | ⟨_, _, all⟩
          · exact ⟨_, all⟩
          · exact ⟨[], by simpa using all⟩
        · exact ⟨_, awaits.free told fun e holds => held ⟨e, holds⟩⟩
      rw [all, Event.live_append unended, Event.live_eq_self unended]
      exact List.prefix_append ..

theorem Run.live_eq (run : Run n h seen l) (uncut : seen.isCutShort n = false)
    (rests : l.attempt.dispatcher = .done ∨
      l.attempt.dispatcher = .waiting ∧ l.attempt.next? = none) :
    Event.live (seen.emitted n) = Event.live (seen.applied n) := by
  have awaits := run.awaits uncut
  rcases rests with done | ⟨waiting, empty⟩
  · exact (awaits.told (by simp [done, Dispatcher.hasTold])).1
  · have queue : l.attempt.events = [] := by
      unfold Attempt.next? at empty
      split at empty
      · cases empty
      · assumption
    rw [awaits.free (by simp [waiting, Dispatcher.hasTold]) (by simp [waiting]), queue,
      List.append_nil]

theorem Step.served (step : Step n l notes m) : (notes.callbacks n).filter (!·.isLast) = [] ∨
    ¬ Ends l ∧ History.isCutShort notes n = false := by
  cases step with
  | connected held phase => exact .inr ⟨by simp [Ends, held, phase, Phase.isActive], rfl⟩
  | delivered f held isOpen =>
      exact .inr ⟨by simp [Ends, held, Phase.isActive_of_isOpen isOpen], rfl⟩
  | ended => exact .inl (by simp [History.callbacks, Callback.isLast])
  | asked | aborted =>
      left
      rw [History.callbacks_append, callbacks_pushed]
      rfl
  | cutShort => exact .inl (by simp)
  | observed | sent | launched | emitted | eventsEnded | commandsEnded | received | taken
  | noticed | peerClosed | ignored | returned | wasAborted | settled => exact .inl rfl

/-- Cut short or not, an attempt tells its handler no more than what the events amount to. -/
theorem Run.told_prefix (run : Run n h seen l) :
    (seen.callbacks n).filter (!·.isLast) <+: Event.told (Event.live (seen.emitted n)) := by
  induction run with
  | begun => exact List.nil_prefix
  | @step seen more l m before step ih =>
      cases cut : History.isCutShort (seen ++ more) n with
      | false =>
          have whole := before.step step
          rw [whole.told_applied cut]
          obtain ⟨rest, all⟩ := whole.live_prefix cut
          rw [← all]
          exact Event.told_prefix _ rest
      | true =>
          rw [History.isCutShort_append, Bool.or_eq_true] at cut
          have nothing : (History.callbacks more n).filter (!·.isLast) = [] := by
            refine step.served.resolve_right ?_
            rintro ⟨running, uncut⟩
            rcases cut with earlier | now
            · exact running (before.ends earlier)
            · simp [uncut] at now
          rw [History.callbacks_append, List.filter_append, nothing, List.append_nil,
            History.emitted_append]
          obtain ⟨rest, all⟩ := Event.live_prefix (History.emitted seen n) (History.emitted more n)
          rw [← all]
          exact ih.trans (Event.told_prefix _ rest)

end Life

/-- What the handler of attempt `n`, which was not cut short, was told of the events of its socket.
    It is a function of the events alone, and all of it is told once the dispatcher rests. -/
structure InboundDelivery (n : Nat) (seen : History H) (t : Transport H) : Prop where
  /-- At every moment, no more was told than what the events amount to. -/
  prefixed : (seen.callbacks n).filter (!·.isLast) <+: Event.told (Event.live (seen.emitted n))
  complete : t.isIdle n = true →
    (seen.callbacks n).filter (!·.isLast) = Event.told (Event.live (seen.emitted n))
  connected : t.isIdle n = true →
    (.onConnect ∈ seen.callbacks n ↔ .opened ∈ Event.live (seen.emitted n))
  messages : t.isIdle n = true → (seen.callbacks n).filter Callback.isMessage =
    ((Event.live (seen.emitted n)).dropWhile (· ≠ .opened)).filterMap Event.message?
  /-- Another run with the same events tells the same, whatever its callers do, and whenever the peers
      start to close. -/
  unchanged : t.isIdle n = true → ∀ (other : Settings) (past : History H) (u : Transport H),
    Reaches other past u → past.isCutShort n = false → u.isIdle n = true →
    (past.emitted n).filter (!·.isClosing) = (seen.emitted n).filter (!·.isClosing) →
    (past.callbacks n).filter (!·.isLast) = (seen.callbacks n).filter (!·.isLast)
  rests : t.ComesToRest n

theorem Reaches.unborn_emitted (reached : Reaches settings seen t) (absent : t.attempt? n = none) :
    seen.emitted n = [] := by
  rw [← emitted_about]
  apply List.filterMap_eq_nil_iff.mpr
  intro note member
  obtain ⟨_, op, answer, rfl, _⟩ := reached.unborn absent note member
  rfl

theorem Reaches.told_prefix (reached : Reaches settings seen t) (n : Nat) :
    (seen.callbacks n).filter (!·.isLast) <+: Event.told (Event.live (seen.emitted n)) := by
  cases found : t.attempt? n with
  | none =>
      rw [reached.unborn_callbacks found]
      exact List.nil_prefix
  | some a =>
      obtain ⟨h, l, run, shows⟩ := reached.life found
      rw [← callbacks_about, ← emitted_about]
      exact run.told_prefix

theorem Reaches.told_emitted (reached : Reaches settings seen t) (uncut : seen.isCutShort n = false) :
    (seen.callbacks n).filter (!·.isLast) <+: Event.told (Event.live (seen.emitted n)) ∧
    (t.isIdle n = true →
      (seen.callbacks n).filter (!·.isLast) = Event.told (Event.live (seen.emitted n))) := by
  cases found : t.attempt? n with
  | none =>
      rw [reached.unborn_callbacks found, reached.unborn_emitted found]
      exact ⟨List.nil_prefix, fun _ => rfl⟩
  | some a =>
      obtain ⟨h, l, run, shows⟩ := reached.life found
      obtain rfl := shows.attempt_eq found
      rw [← isCutShort_about] at uncut
      rw [← callbacks_about, ← emitted_about, run.told_applied uncut]
      constructor
      · obtain ⟨more, all⟩ := run.live_prefix uncut
        rw [← all]
        exact Event.told_prefix _ more
      · intro idle
        rw [run.live_eq uncut ?_]
        simp only [isIdle, found] at idle
        split at idle
        · exact .inl ‹_›
        · exact .inr ⟨‹_›, by simp_all⟩
        · cases idle

/-- In every run, the handler of an attempt that is not cut short is told just what the events of
    its socket amount to. What callers do does not enter into it, since a close keeps no message
    back and a send changes nothing for the dispatcher. -/
theorem Reaches.inbound_delivery (reached : Reaches settings seen t)
    (uncut : seen.isCutShort n = false) : InboundDelivery n seen t := by
  obtain ⟨prefixed, complete⟩ := reached.told_emitted uncut
  constructor
  case prefixed => exact prefixed
  case complete => exact complete
  case connected =>
    intro idle
    rw [← Event.onConnect_mem_told, ← complete idle]
    simp [Callback.isLast]
  case messages =>
    intro idle
    rw [← Event.messages_told, ← complete idle, List.filter_filter]
    congr 1
    funext c
    cases c <;> rfl
  case unchanged =>
    intro idle other past u reached' uncut' idle' same
    rw [complete idle, (reached'.told_emitted uncut').2 idle', ← Event.told_filter,
      ← Event.live_filter, same, Event.live_filter, Event.told_filter]
  case rests => exact t.comesToRest n

/-- A message comes before the socket has opened, the socket opens twice, and a message comes after the
    peer has started to close and a caller has closed. -/
def crossedMoves : List (Move Nat) :=
  [.perform (.connect 1), .launch 1, .emit 1 (.message (.binary [1])), .emit 1 .opened,
    .emit 1 (.message (.binary [2])), .emit 1 .opened, .take 1, .applyHeld 1, .take 1, .applyHeld 1,
    .finish 1 none, .perform .close, .take 1, .applyHeld 1, .finish 1 none, .take 1, .applyHeld 1,
    .emit 1 (.closing 1000 ""), .emit 1 (.message (.text "late")), .take 1, .applyHeld 1, .take 1,
    .applyHeld 1, .finish 1 none]

theorem inbound_delivery_of_crossed : ∃ (t : Transport Nat) (seen : History Nat),
    (ofSettings .plain).replay crossedMoves = some (t, seen) ∧ t.isIdle 1 = true ∧
    seen.isCutShort 1 = false ∧ InboundDelivery 1 seen t ∧ seen.callbacks 1 =
      [.onConnect, .onMessage [2] true, .onMessage (Bytes.ofString "late") false] := by
  refine ⟨_, _, rfl, rfl, rfl, ?_, rfl⟩
  have replayed : (ofSettings .plain).replay crossedMoves = some _ := rfl
  exact Reaches.inbound_delivery (run_of_replay replayed) rfl

end Transport

end WampClient
