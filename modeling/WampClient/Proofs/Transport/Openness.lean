import WampClient.Proofs.Transport.Abort
import WampClient.Proofs.Transport.Verdict

/-! # When a transport is open

A transport is open from the event that opens its current attempt on, and no longer once something
has stopped that attempt: a last event of its socket, the end of the socket's events, an abort, or a
callback that fails. A handler therefore finds it open whenever it is told of a connection or of a
message, and closed as long as it is told of the end.
-/

namespace WampClient.Transport

variable {H : Type} {t u v : Transport H} {n : Nat} {settings : Settings} {notes seen : History H}

/-- A last event of attempt `n` was applied, a caller has aborted it, or a callback of it has failed. -/
def History.isStopped (history : History H) (n : Nat) : Bool :=
  history.any fun
    | .applied m e => m = n && e.isTerminal
    | .performed m _ .abort _ => m = n
    | .returned m _ (some _) => m = n
    | _ => false

theorem isStopped_append (a b : History H) (n : Nat) :
    History.isStopped (a ++ b) n = (a.isStopped n || b.isStopped n) :=
  List.any_append

theorem isStopped_about (seen : History H) (n : Nat) :
    (seen.about n).isStopped n = seen.isStopped n := by
  unfold History.isStopped History.about
  rw [List.any_filter]
  congr 1
  funext note
  unfold Note.attempt?
  split <;> grind

namespace Life

variable {k l m : Life H}

@[simp] theorem isStopped_pushed (n : Nat) (a : Attempt H) (c : Command) :
    History.isStopped (pushed n a c) n = false := by
  unfold pushed
  split <;> rfl

/-- The attempt is open, and its dispatcher is not about to abort it. -/
def Stays (l : Life H) : Prop :=
  l.phase.isOpen = true ∧ l.attempt.dispatcher ≠ .failed

/-- An open attempt stays open exactly if no callback has failed and nothing stops it now. -/
theorem Step.stays_iff (step : Step n l notes m) (sound : l.Sound) (isOpen : l.phase.isOpen = true) :
    m.Stays ↔ l.attempt.dispatcher ≠ .failed ∧ notes.isStopped n = false := by
  have active := Phase.isActive_of_isOpen isOpen
  cases step with
  | observed op answer unsent unclosed unaborted =>
      have harmless : History.isStopped [.performed n l.phase op answer] n = false := by
        cases op with
        | abort => simp [unaborted rfl] at active
        | connect | send | sendFrame | close | isOpen => rfl
      simp [Stays, isOpen, harmless]
  | sent op f frame =>
      have harmless : History.isStopped [.queued n (.send f), .performed n .opened op .done] n = false := by
        cases op with
        | abort => cases frame
        | connect | send | sendFrame | close | isOpen => rfl
      simp [Stays, on, isOpen, harmless]
  | asked =>
      rw [isStopped_append, isStopped_pushed]
      simp [Stays, History.isStopped, Phase.isOpen]
  | aborted =>
      rw [isStopped_append, isStopped_pushed]
      simp [Stays, cancel, History.isStopped, Phase.isOpen]
  | emitted | eventsEnded | commandsEnded | received => simp [Stays, on, isOpen, History.isStopped]
  | launched _ standing | taken _ _ standing | noticed standing | delivered _ standing =>
      simp [Stays, on, isOpen, standing, History.isStopped, Event.isTerminal]
  | connected _ connecting => simp [connecting, Phase.isOpen] at isOpen
  | peerClosed _ _ held => simp [Stays, held, Phase.isOpen, History.isStopped, Event.isTerminal]
  | ignored e held ignores =>
      simp [Stays, on, isOpen, held, History.isStopped, unended_of_ignores ignores]
  | ended e held last => simp [Stays, Phase.isOpen, History.isStopped, last]
  | returned c failure calling =>
      have unended : c.isLast = false := by
        have untold := sound.untold active
        simpa [calling, Dispatcher.hasTold] using untold
      cases c with
      | onDisconnect => cases unended
      | onConnect | onMessage =>
          cases failure <;> simp [Stays, on, isOpen, calling, afterCallback, History.isStopped]
  | cutShort failed => simp [Stays, cancel, failed, Phase.isOpen]
  | wasAborted _ ended => simp [ended] at active
  | settled _ draining => simp [draining, Phase.isOpen] at isOpen

theorem Step.connected_of_isOpen (step : Step n l notes m) (isOpen : m.phase.isOpen = true)
    (unopened : l.phase.isOpen = false) : l.attempt.dispatcher = .holding .opened ∧
      l.phase = .connecting ∧ .applied n .opened ∈ notes := by
  cases step with
  | connected held connecting => exact ⟨held, connecting, by simp⟩
  | asked phase | peerClosed _ _ _ phase => simp [phase, Phase.isOpen] at unopened
  | aborted | ended | cutShort | settled => cases isOpen
  | observed | sent | launched | emitted | eventsEnded | commandsEnded | received | taken | noticed
  | delivered | ignored | returned | wasAborted => simp [on, unopened] at isOpen

theorem Path.sound (path : Path n k seen l) (sound : k.Sound) : l.Sound := by
  induction path with
  | refl => exact sound
  | step _ step ih => exact step.sound ih

theorem Path.stays (path : Path n k seen l) (sound : k.Sound) (stays : k.Stays)
    (unstopped : seen.isStopped n = false) : l.Stays := by
  induction path with
  | refl => exact stays
  | step before step ih =>
      rw [isStopped_append, Bool.or_eq_false_iff] at unstopped
      obtain ⟨isOpen, unfailed⟩ := ih unstopped.1
      exact (step.stays_iff (before.sound sound) isOpen).mpr ⟨unfailed, unstopped.2⟩

end Life

/-! ## The transport and its current attempt -/

theorem isOpen_eq (t : Transport H) : t.isOpen = t.link.phase.isOpen :=
  Link.isOpen_eq t.link

theorem Shows.isOpen_eq {l : Life H} (shows : t.Shows t.link.attempt l) :
    t.isOpen = l.phase.isOpen := by
  rw [shows.eq_current]
  exact Transport.isOpen_eq t

/-- An attempt whose dispatcher is at work decides whether the transport is open. -/
theorem Coherent.isOpen_eq {l : Life H} (coherent : Coherent t) (shows : t.Shows n l)
    (working : l.attempt.dispatcher ≠ .done) : n = t.link.attempt ∧ t.isOpen = l.phase.isOpen := by
  obtain rfl := coherent.number_eq shows.1 working
  exact ⟨rfl, shows.isOpen_eq⟩

theorem Coherent.current_of_isOpen (coherent : Coherent t) (isOpen : t.isOpen = true) :
    ∃ a, t.attempt? t.link.attempt = some a := by
  apply coherent.exists_current
  apply coherent.begun
  intro idle
  simp [Transport.isOpen_eq, idle, Phase.isOpen] at isOpen

theorem applied_of_mem {m : Move H} {e : Event} (made : t.step? m = some (v, notes))
    (member : .applied n e ∈ notes) : m = .applyHeld n := by
  have unnoted {effects : History H} (only : effects.all Note.isEffect = true) :
      .applied n e ∉ effects := by
    intro here
    have effect := List.all_eq_true.mp only _ here
    cases effect
  cases step?_moved made with
  | performed op =>
      simp only [perform, List.mem_append, List.mem_singleton, reduceCtorEq, or_false] at member
      exact absurd member (unnoted (isEffect_run t op))
  | dispatched _ moved =>
      cases moved with
      | applied f held =>
          rcases List.mem_cons.mp member with same | called
          · cases same
            rfl
          · obtain ⟨c, same⟩ := mem_calls called
            cases same
      | aborted failed => exact absurd member (unnoted (isEffect_carryOutAll ..))
      | launched | taken | noticed | returned | settled => simp at member
  | socketed _ moved => cases moved <;> simp at member

/-- The event that opens attempt `n` was applied while the attempt was connecting, and nothing has
    stopped the attempt since. `seen` is all that has happened before `t`. -/
def OpenedSince (settings : Settings) (n : Nat) (seen : History H) (t : Transport H) : Prop :=
  ∃ (before notes since : History H) (u v : Transport H), seen = before ++ notes ++ since ∧
    Reaches settings before u ∧ u.link.attempt = n ∧ u.link.phase = .connecting ∧
    u.dispatcher? n = some (.holding .opened) ∧ u.step? (.applyHeld n) = some (v, notes) ∧
    Run v since t ∧ since.isStopped n = false

theorem OpenedSince.step {m : Move H} (opened : OpenedSince settings n seen t)
    (made : t.step? m = some (v, notes)) (unstopped : notes.isStopped n = false) :
    OpenedSince settings n (seen ++ notes) v := by
  obtain ⟨before, applied, since, u, w, rfl, reached, number, connecting, held, opens, run, quiet⟩ :=
    opened
  refine ⟨before, applied, since ++ notes, u, w, by simp, reached, number, connecting, held, opens,
    run.step m made, ?_⟩
  rw [isStopped_append, quiet, unstopped]
  rfl

/-- A transport that is open has been so since its current attempt opened. -/
theorem Reaches.openedSince (reached : Reaches settings seen t) (isOpen : t.isOpen = true)
    (unfailed : t.dispatcher? t.link.attempt ≠ some .failed) :
    OpenedSince settings t.link.attempt seen t := by
  induction reached with
  | refl => cases isOpen
  | @step u v seen notes before m made ih =>
      have coherent := Reaches.coherent before
      have change := coherent.step?_change made
      obtain ⟨a, found⟩ := (change.coherent coherent).current_of_isOpen isOpen
      cases earlier : u.attempt? v.link.attempt with
      | none =>
          obtain ⟨h, shows, _⟩ := change.born coherent earlier found
          rw [shows.isOpen_eq] at isOpen
          cases isOpen
      | some b =>
          obtain ⟨l, shows, sound⟩ := coherent.lives _ _ earlier
          obtain ⟨k, shows', step⟩ := change.shows coherent shows
          rw [shows'.isOpen_eq] at isOpen
          have stays : k.Stays := ⟨isOpen, by simpa [dispatcher?, shows'.1] using unfailed⟩
          cases wasOpen : l.phase.isOpen with
          | true =>
              have kept : l.attempt.dispatcher ≠ .failed ∧
                  History.isStopped notes v.link.attempt = false := by
                rw [← isStopped_about]
                rcases step with step | ⟨rfl, nothing⟩
                · exact (step.stays_iff sound wasOpen).mp stays
                · exact ⟨stays.2, by rw [nothing]; rfl⟩
              have working : l.attempt.dispatcher ≠ .done :=
                sound.stands.unsettled
                  (Phase.ne_closed_of_isActive (Phase.isActive_of_isOpen wasOpen))
              obtain ⟨number, same⟩ := coherent.isOpen_eq shows working
              have opened := ih (same.trans wasOpen)
                (number ▸ by simpa [dispatcher?, shows.1] using kept.1)
              exact (number ▸ opened).step made kept.2
          | false =>
              rcases step with step | ⟨rfl, _⟩
              · obtain ⟨held, connecting, applied⟩ := step.connected_of_isOpen isOpen wasOpen
                have member := (List.mem_filter.mp applied).1
                obtain rfl := applied_of_mem made member
                obtain ⟨number, _⟩ := coherent.isOpen_eq shows (by simp [held])
                have phase : u.link.phase = .connecting := by
                  rw [← connecting, shows.phase_eq (number ▸ shows_current (number ▸ earlier))]
                  rfl
                exact ⟨seen, notes, [], u, v, by simp, before, number.symm, phase,
                  by simp [dispatcher?, shows.1, held], made, .refl, rfl⟩
              · rw [wasOpen] at isOpen
                cases isOpen

theorem step?_applyHeld {e : Event} (held : t.dispatcher? n = some (.holding e))
    (made : t.step? (.applyHeld n) = some (v, notes)) :
    v.link = (t.link.apply n e).1 ∧ v.dispatcher? n = some (afterStep (t.link.apply n e).2) := by
  obtain ⟨a, found, standing⟩ := dispatcher?_cases held
  simp only [step?, applyHeld, found, standing] at made
  cases made
  refine ⟨link_update .., ?_⟩
  simp [dispatcher?, setDispatcher, attempt?_update, attempt?_relink, found]

theorem OpenedSince.isOpen (opened : OpenedSince settings n seen t) :
    n = t.link.attempt ∧ t.isOpen = true ∧ t.dispatcher? n ≠ some .failed := by
  obtain ⟨before, notes, since, u, v, _, reached, rfl, connecting, held, made, run, quiet⟩ := opened
  have coherent := (reached.coherent.step?_change made).coherent reached.coherent
  obtain ⟨link, standing⟩ := step?_applyHeld held made
  have applied : u.link.apply u.link.attempt .opened = ({ u.link with phase := .opened }, .connected) := by
    simp [Link.apply, connecting]
  rw [applied] at link standing
  obtain ⟨a, found, calling⟩ := dispatcher?_cases standing
  have number : u.link.attempt = v.link.attempt := by rw [link]
  rw [number] at found
  have stays : (v.current a).Stays := ⟨by simp [current, link, Phase.isOpen], by simp [current, calling, afterStep]⟩
  obtain ⟨l, path, shows⟩ := run.path coherent (shows_current found)
  rw [← isStopped_about, number] at quiet
  obtain ⟨isOpen, unfailed⟩ := path.stays (coherent.current_sound found) stays quiet
  have sound := path.sound (coherent.current_sound found)
  have working : l.attempt.dispatcher ≠ .done :=
    sound.stands.unsettled fun closed => by simp [closed, Phase.isOpen] at isOpen
  obtain ⟨current, same⟩ := (run.coherent coherent).isOpen_eq shows working
  exact ⟨number.trans current, same.trans isOpen, by simpa [dispatcher?, number, shows.1] using unfailed⟩

/-- A handler that is called finds its transport open, unless it is told of the end. -/
theorem Coherent.isOpen_of_called {m : Move H} {h : H} {c : Callback} (coherent : Coherent t)
    (made : t.step? m = some (v, notes)) (called : .called n h c ∈ notes) :
    v.isOpen = !c.isLast := by
  have change := coherent.step?_change made
  obtain ⟨l, k, _, shows, step⟩ := change.life_step coherent called rfl rfl
  have isOpen (working : k.attempt.dispatcher ≠ .done) :=
    ((change.coherent coherent).isOpen_eq shows working).2
  cases step with
  | connected | ended =>
      obtain rfl : c = _ := by simp at called; exact called.2
      exact isOpen (by simp)
  | delivered f held phase =>
      obtain rfl : c = _ := by simp at called; exact called.2
      exact (isOpen (by simp [Life.on])).trans phase
  | asked | aborted | cutShort => simp at called
  | observed | sent | launched | emitted | eventsEnded | commandsEnded | received | taken | noticed
  | peerClosed | ignored | returned | wasAborted | settled => simp at called

/-- The move asks for a close, or applies the peer's. -/
def Closes (t : Transport H) (m : Move H) : Prop :=
  m = .perform .close ∨
    ∃ n code reason, m = .applyHeld n ∧ t.dispatcher? n = some (.holding (.closing code reason))

theorem Closes.isOpen_eq {m : Move H} (closes : t.Closes m) (made : t.step? m = some (v, notes)) :
    v.isOpen = t.isOpen := by
  rw [Transport.isOpen_eq, Transport.isOpen_eq]
  rcases closes with rfl | ⟨n, code, reason, rfl, held⟩
  · cases made
    change (t.relink t.link.close).1.link.phase.isOpen = _
    rw [relink, link_carryOutAll, Link.close]
    split
    · simp [*, Phase.isOpen]
    · rfl
  · rw [(step?_applyHeld held made).1, Link.apply]
    split
    · simp [*, Phase.isOpen]
    · rfl

theorem Coherent.isOpen_of_failed (coherent : Coherent t)
    (made : t.step? (.abortFailed n) = some (v, notes)) : v.isOpen = false := by
  rw [Transport.isOpen_eq]
  cases step?_moved made with
  | dispatched found moved =>
      cases moved with
      | aborted failed =>
          obtain rfl := coherent.number_eq found (by simp [failed])
          rw [relink, link_carryOutAll, Link.abortAttempt, Link.isActive_eq]
          split
          · rfl
          · rename_i inactive
            apply Bool.eq_false_iff.mpr
            intro isOpen
            exact inactive ⟨rfl, Phase.isActive_of_isOpen isOpen⟩
  | socketed _ moved => cases moved

theorem Coherent.isOpen_of_ending {clean : Bool} (coherent : Coherent t)
    (calling : t.dispatcher? n = some (.calling (.onDisconnect clean))) : t.isOpen = false := by
  obtain ⟨a, found, standing⟩ := dispatcher?_cases calling
  obtain rfl := coherent.number_eq found (by simp [standing])
  have draining := (coherent.current_sound found).stands.draining (by
    simp [current, standing, Dispatcher.isEnding, Callback.isLast])
  rw [Transport.isOpen_eq, show t.link.phase = .draining from draining]
  rfl

theorem Reaches.unopened_before_end {k : Nat} {before after : History H} {h : H} {clean : Bool}
    (reached : Reaches settings (before ++ .called n h (.onDisconnect clean) :: after) t)
    (later : n < k) : .applied k .opened ∉ before := by
  obtain ⟨seen, start, rest, u, w, m, run, rfl, made⟩ := Run.split reached
  have origin : Reaches settings seen u := run
  have coherent := origin.coherent
  have among : .called n h (.onDisconnect clean) ∈ start ++ .called n h (.onDisconnect clean) :: rest :=
    List.mem_append_right _ List.mem_cons_self
  obtain ⟨l, _, shows, _, step⟩ :=
    (coherent.step?_change made).life_step coherent among rfl rfl
  have ends : (Note.called n h (.onDisconnect clean)).tellsEnd n := rfl
  obtain ⟨e, held, _, _⟩ := step.ending among ends
  obtain rfl := coherent.number_eq shows.1 (by simp [held])
  have unborn : u.attempt? k = none := by
    apply Option.eq_none_iff_forall_ne_some.mpr
    intro a found
    exact Nat.not_le_of_lt later (coherent.le_current found)
  intro member
  rcases List.mem_append.mp member with earlier | now
  · obtain ⟨_, op, answer, same, _⟩ := origin.unborn unborn _ (mem_about earlier rfl)
    cases same
  · have about := step.about _ (List.mem_append_left _ now)
    exact Nat.ne_of_gt later (Option.some.inj about)

/-- Once the end of an attempt was told, only a later attempt can open the transport. -/
theorem Reaches.unopened_after_end {before after : History H} {h : H} {clean : Bool}
    (reached : Reaches settings (before ++ .called n h (.onDisconnect clean) :: after) t)
    (unopened : ∀ k, n < k → .applied k .opened ∉ after) : t.isOpen = false := by
  apply Bool.eq_false_iff.mpr
  intro isOpen
  have coherent := reached.coherent
  obtain ⟨a, found⟩ := coherent.current_of_isOpen isOpen
  obtain ⟨_, l, run, shows⟩ := reached.life found
  rw [shows.isOpen_eq] at isOpen
  have applied := (List.mem_filter.mp (run.opened_of_isOpen isOpen)).1
  have told : .onDisconnect clean ∈ History.callbacks
      (before ++ .called n h (.onDisconnect clean) :: after) n := mem_callbacks.mpr ⟨h, by simp⟩
  have other : n ≠ t.link.attempt := by
    rintro rfl
    have untold := run.sound.untold (Phase.isActive_of_isOpen isOpen)
    rw [← callbacks_about] at told
    exact List.countP_eq_zero.mp (run.tells.opening untold).unended _ told rfl
  have later : n < t.link.attempt := by
    cases begun : t.attempt? n with
    | none =>
        rw [reached.unborn_callbacks begun] at told
        cases told
    | some b => exact Nat.lt_of_le_of_ne (coherent.le_current begun) other
  rcases List.mem_append.mp applied with earlier | now
  · exact reached.unopened_before_end later earlier
  · exact unopened _ later (by simpa using now)

/-- When a transport is open, in every run: what `isOpen` reads off the link is said of what has
    happened. A close keeps it open, since messages still come until the handshake is complete. -/
structure Openness (settings : Settings) (seen : History H) (t : Transport H) : Prop where
  /-- Between a callback that has failed and the abort for it, the dispatcher is in the midst of a step. -/
  isOpen_iff : t.dispatcher? t.link.attempt ≠ some .failed →
    (t.isOpen = true ↔ OpenedSince settings t.link.attempt seen t)
  failed : ∀ n v notes, t.step? (.abortFailed n) = some (v, notes) → v.isOpen = false
  /-- On entry to a callback the transport is open, unless it tells the end. -/
  called : ∀ m v notes n h c, t.step? m = some (v, notes) → .called n h c ∈ notes →
    v.isOpen = !c.isLast
  closes : ∀ m v notes, t.Closes m → t.step? m = some (v, notes) → v.isOpen = t.isOpen
  ending : ∀ n clean, t.dispatcher? n = some (.calling (.onDisconnect clean)) → t.isOpen = false
  ended : ∀ n (before : History H) h clean after,
    seen = before ++ .called n h (.onDisconnect clean) :: after →
    (∀ k, n < k → .applied k .opened ∉ after) → t.isOpen = false

/-- In every run, a transport is open from the event that opens its current attempt until something
    stops that attempt. A close does not stop it, be it of a caller or of the peer. -/
theorem Reaches.openness (reached : Reaches settings seen t) : Openness settings seen t := by
  have coherent := reached.coherent
  constructor
  case isOpen_iff =>
    intro unfailed
    constructor
    · intro isOpen
      exact reached.openedSince isOpen unfailed
    · intro opened
      exact opened.isOpen.2.1
  case failed =>
    intro n v notes made
    exact coherent.isOpen_of_failed made
  case called =>
    intro m v notes n h c made called
    exact coherent.isOpen_of_called made called
  case closes =>
    intro m v notes closes made
    exact closes.isOpen_eq made
  case ending =>
    intro n clean calling
    exact coherent.isOpen_of_ending calling
  case ended =>
    intro n before h clean after whole unopened
    subst whole
    exact reached.unopened_after_end unopened

/-- The handler closes when it is told of the connection, and the peer closes, too. -/
def closingMoves : List (Move Nat) :=
  [.perform (.connect 1), .launch 1, .emit 1 .opened, .take 1, .applyHeld 1, .perform .close,
    .finish 1 none, .emit 1 (.closing normalClosure ""), .take 1, .applyHeld 1]

/-- The handler connects again when it is told of the end. -/
def endingMoves : List (Move Nat) :=
  [.emit 1 (.closed normalClosure ""), .take 1, .applyHeld 1, .perform (.connect 2)]

theorem openness_of_closing : ∃ (t u : Transport Nat) (seen later : History Nat),
    (ofSettings .plain).replay closingMoves = some (t, seen) ∧
    t.link.phase = .closing ∧ t.isOpen = true ∧ OpenedSince .plain 1 seen t ∧
    t.replay endingMoves = some (u, later) ∧ u.link.deferred = some 2 ∧
    u.dispatcher? 1 = some (.calling (.onDisconnect true)) ∧ u.isOpen = false ∧
    Openness .plain (seen ++ later) u := by
  have closing : (ofSettings .plain).replay closingMoves = some _ := rfl
  have reached := run_of_replay closing
  have ending {t u : Transport Nat} {later : History Nat}
      (replayed : t.replay endingMoves = some (u, later)) : Run t later u := run_of_replay replayed
  refine ⟨_, _, _, _, rfl, rfl, rfl, ?_, rfl, rfl, rfl, rfl, ?_⟩
  · exact ((Reaches.openness reached).isOpen_iff (by decide)).mp rfl
  · exact Reaches.openness (reached.trans (ending rfl))

end WampClient.Transport
