import WampClient.Proofs.Transport.Lives

/-! # What a handler is told

The handler of an attempt is told that it connected, of its messages, and of its end, in this order;
an attempt may end without ever having connected. The next attempt does not start before that, and
no dispatcher goes to rest without having told the end of an attempt that has ended.
-/

namespace WampClient

def Callback.isMessage : Callback → Bool
  | .onMessage _ _ => true
  | .onConnect | .onDisconnect _ => false

/-- What a handler may have been told of an attempt that has not ended for it yet: nothing, or that
    it connected and then messages. -/
inductive Callback.Opening : List Callback → Prop where
  | silent : Opening []
  | served (messages : List Callback) (only : ∀ c ∈ messages, c.isMessage = true) :
      Opening (.onConnect :: messages)

/-- All that a handler is told of one attempt. -/
inductive Callback.Whole : List Callback → Prop where
  | told (opening : List Callback) (clean : Bool) (opens : Opening opening) :
      Whole (opening ++ [.onDisconnect clean])

/-- A dispatcher that tells its handler of the end or has told it. -/
def Dispatcher.hasTold : Dispatcher → Bool
  | .calling callback => callback.isLast
  | .settling | .done => true
  | .begun | .waiting | .holding _ | .failed => false

theorem Dispatcher.isEnding_or_done_of_hasTold {d : Dispatcher} (told : d.hasTold = true) :
    d.isEnding = true ∨ d = .done := by
  cases d with
  | calling => exact .inl told
  | settling => exact .inl rfl
  | done => exact .inr rfl
  | begun | waiting | holding | failed => cases told

theorem Callback.Opening.unended {told : List Callback} (opens : Opening told) :
    told.countP isLast = 0 := by
  cases opens with
  | silent => rfl
  | served messages only =>
      apply List.countP_eq_zero.mpr
      intro c member
      cases member with
      | head => decide
      | tail _ member =>
          have message := only c member
          cases c <;> simp_all [isMessage, isLast]

theorem Callback.Whole.ended_once {told : List Callback} (whole : Whole told) :
    told.countP isLast = 1 := by
  cases whole with
  | told opening clean opens => simp [opens.unended, isLast]

theorem Callback.Opening.message {messages : List Callback} (only : ∀ c ∈ messages, c.isMessage = true)
    (payload : Bytes) (isBinary : Bool) :
    ∀ c ∈ messages ++ [.onMessage payload isBinary], c.isMessage = true := by
  intro c member
  rcases List.mem_append.mp member with earlier | now
  · exact only c earlier
  · obtain rfl := List.mem_singleton.mp now
    rfl

namespace Transport

variable {H : Type} {t : Transport H} {n : Nat} {settings : Settings} {seen : History H}

/-- The socket of attempt `n` has emitted its last event or given up its event queue, or the attempt
    was aborted. -/
def History.hasEnded (history : History H) (n : Nat) : Prop :=
  (∃ e ∈ history.emitted n, e.isTerminal = true) ∨ .eventsEnded n ∈ history ∨
    history.isCutShort n = true

namespace Life

variable {h : H} {l m : Life H} {notes : History H}

/-- What the handler was told, by how far its attempt has come. -/
def Tells (told : List Callback) (l : Life H) : Prop :=
  match l.phase with
  | .idle => False
  | .connecting => told = []
  | .opened | .closing =>
    ∃ messages, told = .onConnect :: messages ∧ ∀ c ∈ messages, c.isMessage = true
  | .draining | .closed =>
    if l.attempt.dispatcher.hasTold then Callback.Whole told else Callback.Opening told

theorem Tells.opening_or_whole {told : List Callback} (tells : Tells told l) :
    Callback.Opening told ∨ (l.attempt.dispatcher.hasTold = true ∧ Callback.Whole told) := by
  unfold Tells at tells
  split at tells
  · exact tells.elim
  · rw [tells]
    exact .inl .silent
  · obtain ⟨messages, rfl, only⟩ := tells
    exact .inl (.served messages only)
  · obtain ⟨messages, rfl, only⟩ := tells
    exact .inl (.served messages only)
  all_goals
    split at tells
    · rename_i hasTold
      exact .inr ⟨hasTold, tells⟩
    · exact .inl tells

theorem Tells.opening {told : List Callback} (tells : Tells told l)
    (untold : l.attempt.dispatcher.hasTold = false) : Callback.Opening told :=
  tells.opening_or_whole.resolve_right fun ended => by simp [untold] at ended

/-- What a handler was told can be completed to all that it is told of an attempt. -/
theorem Tells.covered {told : List Callback} (tells : Tells told l) :
    ∃ whole, Callback.Whole whole ∧ told <+: whole := by
  rcases tells.opening_or_whole with opening | ⟨_, whole⟩
  · exact ⟨_, .told told true opening, List.prefix_append ..⟩
  · exact ⟨told, whole, List.prefix_refl told⟩

/-- Where no callback is made, only the phase and whether the end was told matter. -/
theorem Tells.quiet {told : List Callback} (tells : Tells told l) (nothing : notes.callbacks n = [])
    (phase : m.phase = l.phase)
    (same : m.attempt.dispatcher.hasTold = l.attempt.dispatcher.hasTold) :
    Tells (told ++ notes.callbacks n) m := by
  rw [nothing, List.append_nil]
  simp only [Tells, phase, same]
  exact tells

theorem Tells.cancel {told : List Callback} (tells : Tells told l) (nothing : notes.callbacks n = [])
    (untold : l.attempt.dispatcher.hasTold = false) : Tells (told ++ notes.callbacks n) l.cancel := by
  have opening := tells.opening untold
  rw [nothing, List.append_nil]
  simp only [Tells, Life.cancel, Attempt.push_dispatcher, untold]
  exact opening

theorem Sound.untold (sound : l.Sound) (active : l.phase.isActive = true) :
    l.attempt.dispatcher.hasTold = false := by
  refine Bool.eq_false_iff.mpr fun told => ?_
  rcases Dispatcher.isEnding_or_done_of_hasTold told with ending | done
  · simp [sound.stands.not_isEnding active] at ending
  · exact sound.stands.unsettled (Phase.ne_closed_of_isActive active) done

theorem Step.tells (step : Step n l notes m) (sound : l.Sound) {told : List Callback}
    (tells : Tells told l) : Tells (told ++ notes.callbacks n) m := by
  cases step with
  | observed | emitted | eventsEnded | commandsEnded | received => exact tells.quiet rfl rfl rfl
  | sent => exact tells.quiet rfl rfl (by simp [on])
  | launched _ begun => exact tells.quiet rfl rfl (by simp [on, begun, Dispatcher.hasTold])
  | taken e rest waiting next => exact tells.quiet rfl rfl (by simp [on, waiting, Dispatcher.hasTold])
  | noticed waiting woken => exact tells.quiet rfl rfl (by simp [on, waiting, Dispatcher.hasTold])
  | asked isOpen =>
      rw [History.callbacks_append, callbacks_pushed]
      simp only [Tells, isOpen] at tells
      simpa [History.callbacks, Tells] using tells
  | aborted active =>
      refine tells.cancel ?_ (sound.untold active)
      rw [History.callbacks_append, callbacks_pushed]
      rfl
  | cutShort failed active =>
      have waits : Tells (told ++ History.callbacks [] n) (l.on ({ · with dispatcher := .waiting })) :=
        tells.quiet rfl rfl (by simp [on, failed, Dispatcher.hasTold])
      rw [History.callbacks, List.filterMap_nil, List.append_nil] at waits
      exact waits.cancel (callbacks_pushed ..) rfl
  | wasAborted failed ended => exact tells.quiet rfl rfl (by simp [on, failed, Dispatcher.hasTold])
  | connected held phase =>
      simp only [Tells, phase] at tells
      simp [Tells, History.callbacks, tells]
  | delivered f held isOpen =>
      simp only [History.callbacks, List.filterMap_cons, if_pos, List.filterMap_nil]
      cases phase : l.phase with
      | opened | closing =>
          simp only [Tells, phase] at tells
          obtain ⟨messages, rfl, only⟩ := tells
          simp only [Tells, on, phase]
          exact ⟨_, rfl, Callback.Opening.message only _ _⟩
      | idle | connecting | draining | closed => simp [phase, Phase.isOpen] at isOpen
  | peerClosed code reason held isOpen =>
      simp only [Tells, isOpen] at tells
      simpa [History.callbacks, Tells] using tells
  | ignored e held ignores => exact tells.quiet rfl rfl (by simp [on, held, Dispatcher.hasTold])
  | ended e held last =>
      have opening := tells.opening (by simp [held, Dispatcher.hasTold])
      simpa [Tells, History.callbacks, Dispatcher.hasTold, Callback.isLast] using
        Callback.Whole.told told (l.verdict e) opening
  | returned c failure calling =>
      refine tells.quiet rfl rfl ?_
      simp only [on, calling]
      cases c <;> cases failure <;> rfl
  | settled settling draining =>
      simp only [Tells, draining, settling] at tells
      simpa [History.callbacks, Tells, Dispatcher.hasTold] using tells

theorem Run.tells (run : Run n h seen l) : Tells (seen.callbacks n) l := by
  induction run with
  | begun => exact rfl
  | step before step ih =>
      rw [History.callbacks_append]
      exact step.tells before.sound ih

/-- A callback that told the end has returned before the attempt settles. -/
theorem Run.told_returned (run : Run n h seen l)
    (ended : l.attempt.dispatcher = .settling ∨ l.attempt.dispatcher = .done) :
    ∃ clean failure, .returned n (.onDisconnect clean) failure ∈ seen := by
  induction run with
  | begun => simp [ofHandler, Attempt.ofHandler] at ended
  | @step seen more l m before step ih =>
      have earlier (there : l.attempt.dispatcher = .settling ∨ l.attempt.dispatcher = .done) :
          ∃ clean failure, .returned n (.onDisconnect clean) failure ∈ seen ++ more := by
        obtain ⟨clean, failure, member⟩ := ih there
        exact ⟨clean, failure, List.mem_append_left _ member⟩
      cases step with
      | returned c failure calling =>
          cases c with
          | onDisconnect clean => exact ⟨clean, failure, List.mem_append_right _ (by simp)⟩
          | onConnect | onMessage => cases failure <;> simp [on, afterCallback] at ended
      | settled settling draining => exact earlier (.inl settling)
      | observed | sent | asked | aborted | emitted | eventsEnded | commandsEnded | received =>
          exact earlier (by simpa [on, cancel] using ended)
      | launched | taken | noticed | connected | delivered | peerClosed | ignored | ended | cutShort
      | wasAborted => simp [on, cancel] at ended

/-- A terminal event waits in the queue or at the dispatcher, or the end was told. A dispatcher with
    such an event cannot come to rest before it has told the end. -/
def Pends (l : Life H) : Prop :=
  l.attempt.dispatcher.hasTold = true ∨ (∃ e ∈ l.attempt.events, e.isTerminal = true) ∨
    ∃ e, l.attempt.dispatcher = .holding e ∧ e.isTerminal = true

/-- What pends is kept where the dispatcher stays and no event is taken. -/
theorem Pends.congr (pends : Pends l) (events : ∀ e ∈ l.attempt.events, e ∈ m.attempt.events)
    (dispatcher : m.attempt.dispatcher = l.attempt.dispatcher) : Pends m := by
  unfold Pends
  rw [dispatcher]
  rcases pends with told | ⟨e, member, last⟩ | held
  · exact .inl told
  · exact .inr (.inl ⟨e, events e member, last⟩)
  · exact .inr (.inr held)

theorem Pends.queued (pends : Pends l) (untold : l.attempt.dispatcher.hasTold = false)
    (unheld : ∀ e, l.attempt.dispatcher = .holding e → e.isTerminal = false)
    (events : m.attempt.events = l.attempt.events) : Pends m := by
  rcases pends with told | queued | ⟨e, held, last⟩
  · simp [untold] at told
  · exact .inr (.inl (events ▸ queued))
  · simp [unheld e held] at last

theorem Step.pends (step : Step n l notes m) (pends : Pends l) : Pends m := by
  cases step with
  | observed | sent | asked | aborted | eventsEnded | commandsEnded | received =>
      exact pends.congr (by simp [on, cancel]) (by simp [on, cancel])
  | emitted => exact pends.congr (fun _ member => List.mem_append_left _ member) rfl
  | launched _ begun => exact pends.queued (by simp [begun, Dispatcher.hasTold]) (by simp [begun]) rfl
  | taken e rest waiting next =>
      rcases pends with told | ⟨f, member, last⟩ | ⟨f, held, last⟩
      · simp [waiting, Dispatcher.hasTold] at told
      · rcases Attempt.next?_cases next with queue | ⟨empty, _⟩
        · rw [queue] at member
          cases member with
          | head => exact .inr (.inr ⟨e, rfl, last⟩)
          | tail _ member => exact .inr (.inl ⟨f, member, last⟩)
        · simp [empty] at member
      · simp [waiting] at held
  | noticed waiting woken => exact .inr (.inr ⟨.aborted, rfl, rfl⟩)
  | connected held | delivered _ held | peerClosed _ _ held =>
      refine pends.queued (by simp [held, Dispatcher.hasTold]) ?_ rfl
      intro e same
      rw [held] at same
      cases same
      rfl
  | ignored e held ignores =>
      refine pends.queued (by simp [held, Dispatcher.hasTold]) ?_ rfl
      intro e same
      rw [held] at same
      cases same
      exact unended_of_ignores ignores
  | ended e held last => exact .inl rfl
  | returned c failure calling =>
      cases c with
      | onDisconnect => exact .inl rfl
      | onConnect | onMessage =>
          refine pends.queued ?_ (by simp [calling]) rfl
          simp [calling, Dispatcher.hasTold, Callback.isLast]
  | cutShort failed | wasAborted failed =>
      exact pends.queued (by simp [failed, Dispatcher.hasTold]) (by simp [failed]) (by simp [cancel, on])
  | settled settling draining => exact .inl rfl

theorem Run.pends (run : Run n h seen l) (terminal : ∃ e ∈ seen.emitted n, e.isTerminal = true) :
    Pends l := by
  induction run with
  | begun => simp [History.emitted] at terminal
  | @step seen more l m before step ih =>
      obtain ⟨e, member, last⟩ := terminal
      rw [History.emitted_append] at member
      rcases List.mem_append.mp member with earlier | now
      · exact step.pends (ih ⟨e, earlier, last⟩)
      · cases step with
        | emitted f isLaunched emits listens =>
            obtain rfl : e = f := by simpa [History.emitted] using now
            exact .inr (.inl ⟨e, by simp [on], last⟩)
        | asked | aborted => simp [History.emitted_append] at now; simp [History.emitted] at now
        | cutShort => simp at now
        | _ => simp [History.emitted] at now

theorem Run.events_ended (run : Run n h seen l) (ended : .eventsEnded n ∈ seen) :
    l.attempt.emits = false := by
  induction run with
  | begun => cases ended
  | @step seen more l m before step ih =>
      have earlier (there : .eventsEnded n ∈ seen) : m.attempt.emits = false := by
        have silent := ih there
        cases step <;> simp_all [on, cancel]
      rcases List.mem_append.mp ended with there | now
      · exact earlier there
      · cases step <;> simp_all [on, pushed]

/-- The attempt has ended, or its dispatcher is about to abort it. -/
def Ends (l : Life H) : Prop :=
  l.attempt.dispatcher = .failed ∨ l.phase.isActive = false

theorem Step.ends (step : Step n l notes m) (ends : Ends l) : Ends m := by
  cases step with
  | observed | sent | emitted | eventsEnded | commandsEnded | received =>
      simpa [Ends, on] using ends
  | asked isOpen =>
      have failed := ends.resolve_right (by simp [isOpen, Phase.isActive])
      exact .inl (by simpa using failed)
  | aborted | ended | cutShort | settled => exact .inr rfl
  | launched _ standing | taken _ _ standing | noticed standing | delivered _ standing
  | ignored _ standing | returned _ _ standing => exact .inr (ends.resolve_left (by simp [standing]))
  | connected held isOpen | peerClosed _ _ held isOpen =>
      simp [Ends, held, isOpen, Phase.isActive] at ends
  | wasAborted failed ended => exact .inr ended

theorem Run.ends (run : Run n h seen l) (cut : seen.isCutShort n = true) : Ends l := by
  induction run with
  | begun => cases cut
  | @step seen more l m before step ih =>
      rw [History.isCutShort_append, Bool.or_eq_true] at cut
      rcases cut with earlier | now
      · exact step.ends (ih earlier)
      · cases step with
        | observed op answer unsent unclosed unaborted =>
            cases op with
            | abort => exact .inr (unaborted rfl)
            | connect | send | sendFrame | close | isOpen => cases now
        | sent op f frame =>
            cases op with
            | abort => cases frame
            | connect | send | sendFrame | close | isOpen => cases now
        | returned c failure calling =>
            cases failure with
            | none => cases now
            | some error =>
                cases c with
                | onDisconnect => simp [History.isCutShort, Callback.isLast] at now
                | onConnect | onMessage => exact .inl rfl
        | aborted | cutShort => exact .inr rfl
        | asked =>
            rw [History.isCutShort_append, isCutShort_pushed] at now
            cases now
        | launched | emitted | eventsEnded | commandsEnded | received | taken | noticed | connected
        | delivered | peerClosed | ignored | ended | wasAborted | settled => cases now

theorem Run.told_once (run : Run n h seen l) (done : l.attempt.dispatcher = .done) :
    (seen.callbacks n).countP Callback.isLast = 1 := by
  have closed : l.phase = .closed :=
    Classical.byContradiction fun unsettled => run.sound.stands.unsettled unsettled done
  have tells := run.tells
  simp only [Tells, closed, done, Dispatcher.hasTold, if_true] at tells
  exact tells.ended_once

theorem Run.unended (run : Run n h seen l) (waiting : l.attempt.dispatcher = .waiting)
    (unwoken : l.attempt.woken = false) (empty : l.attempt.next? = none) : ¬ seen.hasEnded n := by
  have quiet : l.attempt.events = [] ∧ l.attempt.emits = true := by
    unfold Attempt.next? at empty
    split at empty
    · cases empty
    · rename_i nothing
      exact ⟨nothing, by simpa using empty⟩
  rintro (terminal | ended | cut)
  · have pends := run.pends terminal
    simp [Pends, waiting, quiet.1, Dispatcher.hasTold] at pends
  · have silent := run.events_ended ended
    simp [quiet.2] at silent
  · have inactive := (run.ends cut).resolve_left (by simp [waiting])
    have stands := run.sound.stands
    have draining := (stands.active_or_draining (by simp [waiting])).resolve_left (by simp [inactive])
    simp [Stands, draining, waiting, unwoken, Dispatcher.isEnding] at stands

end Life

def Note.serves (n : Nat) : Note H → Prop
  | .launched m _ _ | .called m _ _ => m = n
  | _ => False

/-- The order in which handlers are called, over all attempts of a run. What was told of an attempt
    is always the beginning of something whole, and it is whole once the attempt has ended and its
    dispatcher has come to rest. -/
structure CallbackProtocol (seen : History H) (t : Transport H) : Prop where
  ordered : ∀ n, ∃ whole, Callback.Whole whole ∧ seen.callbacks n <+: whole
  /-- The next attempt is served only after the call that told the end of the last one. -/
  sequential : ∀ n before note after, 0 < n → seen = before ++ note :: after → note.serves (n + 1) →
    ∃ clean failure, .returned n (.onDisconnect clean) failure ∈ before
  told_once : ∀ n, t.isIdle n = true → seen.hasEnded n →
    (seen.callbacks n).countP Callback.isLast = 1
  settled : ∀ n, t.dispatcher? n = some .done → (seen.callbacks n).countP Callback.isLast = 1

theorem hasEnded_about (seen : History H) (n : Nat) (ended : seen.hasEnded n) :
    (seen.about n).hasEnded n := by
  unfold History.hasEnded
  rw [emitted_about, isCutShort_about]
  rcases ended with terminal | ended | cut
  · exact .inl terminal
  · exact .inr (.inl (mem_about ended rfl))
  · exact .inr (.inr cut)

theorem Reaches.unborn_callbacks (reached : Reaches settings seen t) (absent : t.attempt? n = none) :
    seen.callbacks n = [] := by
  rw [← callbacks_about]
  apply List.filterMap_eq_nil_iff.mpr
  intro note member
  obtain ⟨_, op, answer, rfl, _⟩ := reached.unborn absent note member
  rfl

theorem Reaches.unborn_unended (reached : Reaches settings seen t) (absent : t.attempt? n = none) :
    ¬ seen.hasEnded n := by
  intro ended
  rcases hasEnded_about seen n ended with ⟨e, member, _⟩ | ended | cut
  · obtain ⟨note, member, same⟩ := List.mem_filterMap.mp member
    obtain ⟨_, op, answer, rfl, _⟩ := reached.unborn absent note member
    cases same
  · obtain ⟨_, op, answer, same, _⟩ := reached.unborn absent _ ended
    cases same
  · obtain ⟨note, member, same⟩ := List.any_eq_true.mp cut
    obtain ⟨_, op, answer, rfl, _⟩ := reached.unborn absent note member
    cases op <;> simp at same

theorem Change.served {v : Transport H} {notes : History H} {note : Note H}
    (change : Change t notes v) (coherent : Coherent t) (member : note ∈ notes)
    (serves : note.serves n) : ∃ a, t.attempt? n = some a := by
  have about : note.attempt? = some n := by
    cases note <;> simp_all [Note.serves, Note.attempt?]
  have here := mem_about member about
  cases before : t.attempt? n with
  | some a => exact ⟨a, rfl⟩
  | none =>
      cases after : v.attempt? n with
      | none =>
          obtain ⟨_, op, answer, rfl, _⟩ := (change.unborn coherent after).2 note here
          cases serves
      | some a =>
          obtain ⟨_, _, nothing⟩ := change.born coherent before after
          rw [nothing] at here
          cases here

/-- Once the next attempt has begun, the end of this one was told. -/
theorem Reaches.past_told {b : Attempt H} (reached : Reaches settings seen t) (begun : 0 < n)
    (next : t.attempt? (n + 1) = some b) :
    ∃ clean failure, .returned n (.onDisconnect clean) failure ∈ seen := by
  have coherent := reached.coherent
  obtain ⟨bound, _⟩ := List.getElem?_eq_some_iff.mp next
  rw [coherent.count] at bound
  obtain ⟨a, found⟩ : ∃ a, t.attempt? n = some a := by
    cases n with
    | zero => cases begun
    | succ n =>
        have earlier : n < t.attempts.length := by rw [coherent.count]; omega
        exact ⟨t.attempts[n], List.getElem?_eq_getElem earlier⟩
  have done : a.dispatcher = .done := by
    apply Classical.byContradiction
    intro unsettled
    have number := coherent.number_eq found unsettled
    omega
  obtain ⟨h, l, run, shows⟩ := reached.life found
  obtain ⟨clean, failure, member⟩ := run.told_returned (.inr (shows.attempt_eq found ▸ done))
  exact ⟨clean, failure, (List.mem_filter.mp member).1⟩

/-- In every run, the handlers are called in the order of the protocol. For one attempt this is an
    invariant of its life. Between attempts, whoever serves the next one finds it begun, and it
    begins only when this one settles, after the call that told its end has returned. -/
theorem Reaches.callback_protocol (reached : Reaches settings seen t) : CallbackProtocol seen t := by
  have settled (n : Nat) (done : t.dispatcher? n = some .done) :
      (seen.callbacks n).countP Callback.isLast = 1 := by
    obtain ⟨a, found, done⟩ := dispatcher?_cases done
    obtain ⟨h, l, run, shows⟩ := reached.life found
    rw [← callbacks_about]
    exact run.told_once (shows.attempt_eq found ▸ done)
  constructor
  case ordered =>
    intro n
    rw [← callbacks_about]
    cases found : t.attempt? n with
    | none =>
        rw [callbacks_about, reached.unborn_callbacks found]
        exact ⟨_, .told [] true .silent, List.nil_prefix⟩
    | some a =>
        obtain ⟨h, l, run, shows⟩ := reached.life found
        exact run.tells.covered
  case sequential =>
    intro n before note after begun whole serves
    subst whole
    obtain ⟨seen, start, rest, u, w, m, run, rfl, made⟩ := Run.split reached
    have coherent := Reaches.coherent run
    obtain ⟨b, next⟩ := (coherent.step?_change made).served coherent (by simp) serves
    obtain ⟨clean, failure, member⟩ := Reaches.past_told run begun next
    exact ⟨clean, failure, List.mem_append_left _ member⟩
  case told_once =>
    intro n idle ended
    cases found : t.attempt? n with
    | none => exact absurd ended (reached.unborn_unended found)
    | some a =>
        apply settled
        simp only [isIdle, found] at idle
        split at idle
        · rename_i done
          simp [dispatcher?, found, done]
        · rename_i waiting
          obtain ⟨h, l, run, shows⟩ := reached.life found
          obtain rfl := shows.attempt_eq found
          have unended := run.unended waiting (by simp_all) (by simp_all)
          exact absurd (hasEnded_about seen n ended) unended
        · cases idle
  case settled => exact settled

/-- The handler of the first attempt fails when it is told of the connection; the second attempt has
    to wait. -/
def failedMoves : List (Move Nat) :=
  [.perform (.connect 1), .launch 1, .emit 1 .opened, .take 1, .applyHeld 1,
    .finish 1 (some .notConnected), .abortFailed 1, .perform (.connect 2), .notice 1, .applyHeld 1,
    .finish 1 none, .settle 1, .launch 2]

theorem callback_protocol_of_failed : ∃ (t : Transport Nat) (seen : History Nat),
    (ofSettings .plain).replay failedMoves = some (t, seen) ∧ t.isIdle 1 = true ∧
    seen.callbacks 1 = [.onConnect, .onDisconnect false] ∧ t.isIdle 2 = true ∧
    seen.callbacks 2 = [] ∧ CallbackProtocol seen t := by
  refine ⟨_, _, rfl, rfl, rfl, rfl, rfl, ?_⟩
  have replayed : (ofSettings .plain).replay failedMoves = some _ := rfl
  exact Reaches.callback_protocol (run_of_replay replayed)

end Transport

end WampClient
