import WampClient.Proofs.Transport.Lives

/-! # The link and its attempt

The fields of the link agree with each other and with the one attempt that has begun and not
settled. Each dispatcher that acts on the link is therefore that of the current attempt, and the
link is draining whenever an attempt settles.
-/

namespace WampClient.Transport

variable {H : Type} {t : Transport H} {n : Nat} {settings : Settings} {seen : History H}

/-- A dispatcher comes to the end of its attempt only by a terminal event. -/
theorem Life.Run.terminal_applied {h : H} {l : Life H} (run : Life.Run n h seen l)
    (ending : l.attempt.dispatcher.isEnding = true) :
    ∃ e ∈ seen.applied n, e.isTerminal = true := by
  induction run with
  | begun => cases ending
  | @step seen more l m before step ih =>
      rw [History.applied_append]
      have earlier (there : l.attempt.dispatcher.isEnding = true) :
          ∃ e ∈ History.applied seen n ++ History.applied more n, e.isTerminal = true := by
        obtain ⟨e, member, last⟩ := ih there
        exact ⟨e, List.mem_append_left _ member, last⟩
      cases step with
      | ended e held last =>
          exact ⟨e, List.mem_append_right _ (by simp [History.applied]), last⟩
      | returned c failure calling =>
          apply earlier
          rw [calling]
          cases c with
          | onDisconnect => rfl
          | onConnect | onMessage => cases failure <;> cases ending
      | observed | sent | asked | aborted | emitted | eventsEnded | commandsEnded | received =>
          exact earlier (by simpa [Life.on, Life.cancel] using ending)
      | launched | taken | noticed | connected | delivered | peerClosed | ignored | wasAborted
      | settled => cases ending
      | cutShort => simp [Life.on, Life.cancel, Dispatcher.isEnding] at ending

/-- What the link says of its attempt, and the attempt of the link. The two are kept apart and
    change in different moves; at every point between two moves they agree. -/
structure LinkInvariant (seen : History H) (t : Transport H) : Prop where
  handle : t.link.handle ≠ none ↔ t.link.phase ∈ [.connecting, .opened, .closing]
  deferred : t.link.deferred ≠ none → t.link.phase = .draining
  asked : t.link.closeRequested = true → t.link.phase ∈ [.closing, .draining, .closed]
  unsettled : (∃ n a, t.attempt? n = some a ∧ a.dispatcher ≠ .done) ↔
    t.link.phase ∈ [.connecting, .opened, .closing, .draining]
  current : ∀ n a, t.attempt? n = some a → a.dispatcher ≠ .done →
    n = t.link.attempt ∧ n = t.link.alarm
  /-- While the end is still to be told, an abort is stored for the dispatcher or was just noticed,
      or a terminal event was applied. -/
  draining : t.link.phase = .draining → ∃ a, t.attempt? t.link.attempt = some a ∧
    a.dispatcher ≠ .done ∧ (a.woken = true ∨ a.dispatcher = .holding .aborted ∨
      ∃ e ∈ seen.applied t.link.attempt, e.isTerminal = true)
  applies : ∀ n, t.step? (.applyHeld n) ≠ none → n = t.link.attempt
  aborts : ∀ n, t.step? (.abortFailed n) ≠ none → n = t.link.attempt
  settles : ∀ n, t.step? (.settle n) ≠ none → n = t.link.attempt ∧ t.link.phase = .draining

theorem mem_active_iff (p : Phase) :
    p ∈ [Phase.connecting, .opened, .closing] ↔ p.isActive = true := by
  cases p <;> decide

theorem Coherent.exists_unsettled (coherent : Coherent t)
    (phase : t.link.phase ∈ [.connecting, .opened, .closing, .draining]) :
    ∃ a, t.attempt? t.link.attempt = some a ∧ a.dispatcher ≠ .done := by
  obtain ⟨a, found⟩ := coherent.exists_current
    (coherent.begun fun idle => by simp [idle] at phase)
  refine ⟨a, found, ?_⟩
  exact (coherent.current_sound found).stands.unsettled fun closed => by
    simp [current] at closed
    simp [closed] at phase

theorem Coherent.phase_of_unsettled {a : Attempt H} (coherent : Coherent t)
    (found : t.attempt? t.link.attempt = some a) (unsettled : a.dispatcher ≠ .done) :
    t.link.phase ∈ [.connecting, .opened, .closing, .draining] := by
  rcases (coherent.current_sound found).stands.active_or_draining unsettled with active | draining
  · cases phase : t.link.phase with
    | connecting | opened | closing => simp
    | idle | draining | closed => simp [current, phase, Phase.isActive] at active
  · simp [show t.link.phase = .draining from draining]

theorem applyHeld_holds (possible : t.applyHeld n ≠ none) :
    ∃ a e, t.attempt? n = some a ∧ a.dispatcher = .holding e := by
  obtain ⟨⟨v, notes⟩, made⟩ := Option.ne_none_iff_exists'.mp possible
  cases applyHeld_moved made with
  | dispatched found moved =>
      cases moved with
      | applied e held => exact ⟨_, e, found, held⟩
  | socketed _ moved => cases moved

theorem abortFailed_failed (possible : t.abortFailed n ≠ none) :
    ∃ a, t.attempt? n = some a ∧ a.dispatcher = .failed := by
  obtain ⟨⟨v, notes⟩, made⟩ := Option.ne_none_iff_exists'.mp possible
  cases abortFailed_moved made with
  | dispatched found moved =>
      cases moved with
      | aborted failed => exact ⟨_, found, failed⟩
  | socketed _ moved => cases moved

theorem settle_settling (possible : t.settle n ≠ none) :
    ∃ a, t.attempt? n = some a ∧ a.dispatcher = .settling := by
  obtain ⟨⟨v, notes⟩, made⟩ := Option.ne_none_iff_exists'.mp possible
  cases settle_moved made with
  | dispatched found moved =>
      cases moved with
      | settled settling => exact ⟨_, found, settling⟩
  | socketed _ moved => cases moved

/-- In every state that a transport can come to, its link and its attempts agree. All of it is read
    off `Coherent` and the life of the current attempt. -/
theorem Reaches.link_invariant (reached : Reaches settings seen t) : LinkInvariant seen t := by
  have coherent := reached.coherent
  have handle := coherent.handle
  constructor
  case handle =>
    rw [mem_active_iff, coherent.handle]
    split <;> simp_all
  case deferred => exact coherent.deferred
  case asked =>
    intro asked
    by_cases unborn : t.link.attempt = 0
    · simp [coherent.fresh unborn, Link.initial] at asked
    · obtain ⟨a, found⟩ := coherent.exists_current unborn
      simpa [current] using (coherent.current_sound found).asked asked
  case unsettled =>
    constructor
    · rintro ⟨n, a, found, unsettled⟩
      obtain rfl := coherent.number_eq found unsettled
      exact coherent.phase_of_unsettled found unsettled
    · intro phase
      obtain ⟨a, found, unsettled⟩ := coherent.exists_unsettled phase
      exact ⟨_, a, found, unsettled⟩
  case current =>
    intro n a found unsettled
    obtain rfl := coherent.number_eq found unsettled
    exact ⟨rfl, coherent.alarm.symm⟩
  case draining =>
    intro draining
    obtain ⟨a, found, unsettled⟩ := coherent.exists_unsettled (by simp [draining])
    refine ⟨a, found, unsettled, ?_⟩
    have stands := (coherent.current_sound found).stands
    simp only [current, draining, Life.Stands] at stands
    rcases stands with ending | ⟨_, woken | noticed⟩
    · obtain ⟨h, l, run, shows⟩ := reached.life found
      have applied := run.terminal_applied (shows.attempt_eq found ▸ ending)
      rw [applied_about] at applied
      exact .inr (.inr applied)
    · exact .inl woken
    · exact .inr (.inl noticed)
  case applies =>
    intro n made
    obtain ⟨a, e, found, held⟩ := applyHeld_holds made
    exact coherent.number_eq found (by simp [held])
  case aborts =>
    intro n made
    obtain ⟨a, found, failed⟩ := abortFailed_failed made
    exact coherent.number_eq found (by simp [failed])
  case settles =>
    intro n made
    obtain ⟨a, found, settling⟩ := settle_settling made
    obtain rfl := coherent.number_eq found (by simp [settling])
    refine ⟨rfl, (coherent.current_sound found).stands.draining ?_⟩
    simp [current, settling, Dispatcher.isEnding]

/-- An attempt is aborted before it is launched, and the next connect comes when its dispatcher has
    just noticed. -/
def abortedMoves : List (Move Nat) :=
  [.perform (.connect 1), .perform .abort, .launch 1, .notice 1, .perform (.connect 2)]

theorem link_invariant_of_aborted : ∃ (t : Transport Nat) (seen : History Nat),
    (ofSettings .plain).replay abortedMoves = some (t, seen) ∧
    t.link.phase = .draining ∧ t.link.deferred = some 2 ∧ LinkInvariant seen t := by
  refine ⟨_, _, rfl, rfl, rfl, ?_⟩
  have replayed : (ofSettings .plain).replay abortedMoves = some _ := rfl
  exact Reaches.link_invariant (run_of_replay replayed)

end WampClient.Transport
