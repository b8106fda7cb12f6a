import WampClient.Proofs.Transport.Life
import WampClient.Proofs.Transport.Moves

/-! # What a move of a transport changes

Every move of a coherent transport is a step in the life of one attempt, the begin of a new one, or
no more than a note. `step?_change` says so; what moves keep is then shown once for each kind of
change.
-/

namespace WampClient

def Link.turn {H : Type} (l : Link H) (phase : Phase) (closeRequested : Bool) : Link H :=
  { l with
    phase := phase
    handle := if phase.isActive then some l.attempt else none
    closeRequested := closeRequested }

namespace Transport

variable {H : Type} {t u v : Transport H} {n : Nat} {a : Attempt H} {notes : List (Note H)}

/-- The life of attempt `n` as the link and the attempt show it. The link speaks of the current
    attempt only; an attempt that is no longer the current one is closed. -/
def Shows (t : Transport H) (n : Nat) (l : Life H) : Prop :=
  t.attempt? n = some l.attempt ∧
    if n = t.link.attempt then
      l.phase = t.link.phase ∧ l.closeRequested = t.link.closeRequested
    else l.phase = .closed

/-- What holds of the link and all attempts in every state that a transport can come to: the current
    attempt and the link make up a sound life, and all earlier attempts have settled. -/
structure Coherent (t : Transport H) : Prop where
  count : t.attempts.length = t.link.attempt
  fresh : t.link.attempt = 0 → t.link = .initial
  alarm : t.link.alarm = t.link.attempt
  handle : t.link.handle = if t.link.phase.isActive then some t.link.attempt else none
  deferred : t.link.deferred ≠ none → t.link.phase = .draining
  lives : ∀ n a, t.attempt? n = some a → ∃ l, t.Shows n l ∧ l.Sound

def turn (t : Transport H) (l : Life H) : Transport H :=
  { t with link := t.link.turn l.phase l.closeRequested }.update t.link.attempt fun _ => l.attempt

def begin (t : Transport H) (h : H) : Transport H :=
  { t with
    link := { t.link with deferred := none }.start
    attempts := t.attempts ++ [.ofHandler h] }

def connectNotes (t : Transport H) (h : H) (admission : Admission) : History H :=
  [.admitted h admission, .performed t.link.attempt t.link.phase (.connect h) .done]

/-- What a connect changes, by what becomes of it. -/
inductive Admits (t : Transport H) (h : H) : Admission → Transport H → Prop where
  | started (ended : t.link.phase = .idle ∨ t.link.phase = .closed) : Admits t h .started (t.begin h)
  | deferred (draining : t.link.phase = .draining) (free : t.link.deferred = none) :
      Admits t h .deferred { t with link := { t.link with deferred := some h } }
  | ignored (busy : t.link.phase.isActive = true ∨
        t.link.phase = .draining ∧ t.link.deferred ≠ none) : Admits t h .ignored t

/-- What a move can change, and what is noted of it. Each case says which attempt goes on and
    whether the link goes with it, so that what holds of one attempt can be shown without looking at
    the moves. -/
inductive Change (t : Transport H) : List (Note H) → Transport H → Prop where
  /-- An attempt goes on, and the link stays as it is. -/
  | touched {n : Nat} {a : Attempt H} {notes : List (Note H)} (f : Attempt H → Attempt H)
      (found : t.attempt? n = some a)
      (step : ∀ l : Life H, t.Shows n l → Life.Step n l notes (l.on f)) :
      Change t notes (t.update n f)
  /-- The current attempt goes on, and the link with it. -/
  | turned {l m : Life H} {notes : List (Note H)} (shows : t.Shows t.link.attempt l)
      (step : Life.Step t.link.attempt l notes m)
      (waiting : t.link.deferred ≠ none → m.phase = .draining) : Change t notes (t.turn m)
  /-- A caller acts before the first attempt. -/
  | rested (op : Operation H) (answer : Answer) (unborn : t.link.attempt = 0)
      (unsent : answer = .done → History.sentFrame? op = none) :
      Change t [.performed t.link.attempt t.link.phase op answer] t
  | started (h : H) (ended : t.link.phase = .idle ∨ t.link.phase = .closed) :
      Change t (t.connectNotes h .started) (t.begin h)
  | deferred (h : H) (draining : t.link.phase = .draining) (free : t.link.deferred = none) :
      Change t (t.connectNotes h .deferred) { t with link := { t.link with deferred := some h } }
  | refused (h : H) (busy : t.link.phase.isActive = true ∨
        t.link.phase = .draining ∧ t.link.deferred ≠ none) :
      Change t (t.connectNotes h .ignored) t
  /-- The current attempt settles, and the one that waits for it begins. -/
  | succeeded {l m : Life H} {notes : List (Note H)} (h : H) (waits : t.link.deferred = some h)
      (shows : t.Shows t.link.attempt l) (step : Life.Step t.link.attempt l notes m)
      (closed : m.phase = .closed) : Change t notes ((t.turn m).begin h)

section update

theorem update_congr {f g : Attempt H → Attempt H} (found : t.attempt? n = some a)
    (same : f a = g a) : t.update n f = t.update n g := by
  cases n with
  | zero => rfl
  | succ n =>
      simp only [update]
      congr 1
      apply List.ext_getElem?
      intro k
      simp only [List.getElem?_modify]
      split
      · subst k
        simp only [attempt?] at found
        simp [found, same]
      · rfl

theorem update_id (t : Transport H) (n : Nat) : t.update n id = t := by
  cases n with
  | zero => rfl
  | succ n => simp [update]

theorem update_update (t : Transport H) (n : Nat) (f g : Attempt H → Attempt H) :
    (t.update n f).update n g = t.update n (g ∘ f) := by
  cases n with
  | zero => rfl
  | succ n => simp [update, List.modify_modify_eq]

theorem update_relink (t : Transport H) (l : Link H) (n : Nat) (f : Attempt H → Attempt H) :
    { t.update n f with link := l } = { t with link := l }.update n f := by
  cases n <;> rfl

theorem length_update (t : Transport H) (n : Nat) (f : Attempt H → Attempt H) :
    (t.update n f).attempts.length = t.attempts.length := by
  cases n with
  | zero => rfl
  | succ n => simp [update]

end update

def current (t : Transport H) (a : Attempt H) : Life H :=
  ⟨t.link.phase, t.link.closeRequested, a⟩

theorem shows_current (found : t.attempt? t.link.attempt = some a) :
    t.Shows t.link.attempt (t.current a) :=
  ⟨found, by simp [current]⟩

theorem Shows.eq_current {l : Life H} (shows : t.Shows t.link.attempt l) :
    l = t.current l.attempt := by
  obtain ⟨_, phase, asked⟩ := by simpa [Shows] using shows
  simp [current, ← phase, ← asked]

theorem receives_eq (found : t.attempt? n = some a) : t.receives n = a.receives := by
  simp [receives, found]

theorem push_eq (found : t.attempt? n = some a) (c : Command) :
    t.push n c = (t.update n (·.push c), pushed n a c) := by
  unfold push pushed
  rw [receives_eq found]
  cases receives : a.receives with
  | true => simp
  | false =>
      have kept : t.update n (·.push c) = t.update n id :=
        update_congr found (by simp [Attempt.push, receives])
      simp [kept, update_id]

theorem carryOutAll_command (found : t.attempt? n = some a) (c : Command) :
    t.carryOutAll [.command n c] = (t.update n (·.push c), pushed n a c) := by
  simp [carryOutAll, carryOut, push_eq found]

theorem carryOutAll_cancel (found : t.attempt? n = some a) :
    t.carryOutAll [.command n .cancel, .wake n] =
      (t.update n fun a => { a.push .cancel with woken := true }, pushed n a .cancel) := by
  simp [carryOutAll, carryOut, push_eq found, update_update, Function.comp_def]

theorem attempt?_relink (t : Transport H) (l : Link H) (n : Nat) :
    { t with link := l }.attempt? n = t.attempt? n := by
  cases n <;> rfl

theorem turn_eq {l : Life H} {f : Attempt H → Attempt H}
    (found : t.attempt? t.link.attempt = some a) (same : f a = l.attempt) :
    { t with link := t.link.turn l.phase l.closeRequested }.update t.link.attempt f = t.turn l :=
  update_congr ((attempt?_relink ..).trans found) same

theorem Shows.attempt_eq {l : Life H} (shows : t.Shows n l) (found : t.attempt? n = some a) :
    l.attempt = a :=
  Option.some.inj (shows.1.symm.trans found)

theorem Shows.phase_eq {l m : Life H} (shows : t.Shows n l) (shows' : t.Shows n m) :
    l.phase = m.phase := by
  have first := shows.2
  have second := shows'.2
  split at first
  · rw [if_pos ‹_›] at second
    exact first.1.trans second.1.symm
  · rw [if_neg ‹_›] at second
    exact first.trans second.symm

theorem Change.touch {f : Attempt H → Attempt H} (found : t.attempt? n = some a)
    (step : ∀ l : Life H, l.attempt = a → Life.Step n l notes (l.on f)) :
    Change t notes (t.update n f) :=
  .touched f found fun l shows => step l (shows.attempt_eq found)

namespace Coherent

theorem exists_current (coherent : Coherent t) (begun : t.link.attempt ≠ 0) :
    ∃ a, t.attempt? t.link.attempt = some a := by
  have count := coherent.count
  cases number : t.link.attempt with
  | zero => exact absurd number begun
  | succ n => exact ⟨t.attempts[n], by simp [attempt?]⟩

theorem begun (coherent : Coherent t) (phase : t.link.phase ≠ .idle) : t.link.attempt ≠ 0 :=
  fun unborn => phase (by simp [coherent.fresh unborn, Link.initial])

theorem le_current (coherent : Coherent t) (found : t.attempt? n = some a) : n ≤ t.link.attempt := by
  cases n with
  | zero => exact Nat.zero_le _
  | succ n =>
      obtain ⟨bound, _⟩ := List.getElem?_eq_some_iff.mp found
      exact coherent.count ▸ bound

/-- A connect waits only while the end of an attempt is still to be told. -/
theorem free (coherent : Coherent t) {P : Prop} (phase : t.link.phase ≠ .draining) :
    t.link.deferred ≠ none → P :=
  fun waits => absurd (coherent.deferred waits) phase

theorem current_sound (coherent : Coherent t) (found : t.attempt? t.link.attempt = some a) :
    (t.current a).Sound := by
  obtain ⟨l, shows, sound⟩ := coherent.lives _ _ found
  rwa [shows.eq_current, shows.attempt_eq found] at sound

theorem unborn (coherent : Coherent t) (idle : t.link.phase = .idle) (n : Nat) :
    t.attempt? n = none := by
  have number : t.link.attempt = 0 := by
    apply Classical.byContradiction
    intro begun
    obtain ⟨a, found⟩ := coherent.exists_current begun
    exact (coherent.current_sound found).stands.begun idle
  have empty : t.attempts = [] := List.eq_nil_of_length_eq_zero (coherent.count.trans number)
  cases n with
  | zero => rfl
  | succ n => simp [attempt?, empty]

/-- Only the dispatcher of the current attempt can be at work. -/
theorem number_eq (coherent : Coherent t) (found : t.attempt? n = some a)
    (unsettled : a.dispatcher ≠ .done) : n = t.link.attempt := by
  apply Classical.byContradiction
  intro other
  obtain ⟨l, shows, sound⟩ := coherent.lives n a found
  have closed : l.phase = .closed := by simpa [other] using shows.2
  have stands := sound.stands
  rw [closed, shows.attempt_eq found] at stands
  exact unsettled stands

theorem observed (coherent : Coherent t) (op : Operation H) (answer : Answer)
    (unsent : answer = .done → History.sentFrame? op = none)
    (unclosed : op = .close → t.link.phase ≠ .opened)
    (unaborted : op = .abort → t.link.phase.isActive = false) :
    Change t [.performed t.link.attempt t.link.phase op answer] t := by
  by_cases unborn : t.link.attempt = 0
  · exact .rested op answer unborn unsent
  · obtain ⟨a, found⟩ := coherent.exists_current unborn
    have touched : Change t [.performed t.link.attempt t.link.phase op answer] (t.update _ id) :=
      .touched id found fun l shows => by
        obtain ⟨_, phase, _⟩ := by simpa [Shows] using shows
        rw [← phase]
        exact .observed op answer unsent (phase ▸ unclosed) (phase ▸ unaborted)
    rwa [update_id] at touched

theorem sendFrame_cases (coherent : Coherent t) (f : Frame) :
    (∃ a, t.attempt? t.link.attempt = some a ∧ t.link.phase = .opened ∧ a.receives = true ∧
      t.sendFrame f = (t.update t.link.attempt (·.push (.send f)),
        [.queued t.link.attempt (.send f)], .done)) ∨
    t.sendFrame f = (t, [], .failed .notConnected) := by
  have handle := coherent.handle
  cases phase : t.link.phase with
  | opened =>
      obtain ⟨a, found⟩ := coherent.exists_current (coherent.begun (by simp [phase]))
      have target : t.link.target? = some t.link.attempt := by
        simp [Link.target?, handle, phase, Phase.isActive]
      simp only [sendFrame, target, receives_eq found, push_eq found]
      cases receives : a.receives with
      | true => exact .inl ⟨a, found, trivial, receives, by simp [pushed, receives]⟩
      | false => exact .inr (by simp)
  | idle | connecting | closing | draining | closed =>
      exact .inr (by simp [sendFrame, Link.target?, phase])

theorem sendFrame_change (coherent : Coherent t) {op : Operation H} {f : Frame}
    (frame : History.sentFrame? op = some f) :
    Change t ((t.sendFrame f).2.1 ++
        [.performed t.link.attempt t.link.phase op (t.sendFrame f).2.2]) (t.sendFrame f).1 := by
  rcases coherent.sendFrame_cases f with ⟨a, found, opened, receives, sent⟩ | refused
  · rw [sent, opened]
    refine .touched _ found fun l shows => ?_
    obtain ⟨_, phase, _⟩ := by simpa [Shows] using shows
    exact .sent op f frame (phase.trans opened) (shows.attempt_eq found ▸ receives)
  · rw [refused]
    exact coherent.observed op _ (by simp) (by rintro rfl; cases frame) (by rintro rfl; cases frame)

theorem send_change (coherent : Coherent t) (payload : Bytes) (isBinary : Bool) :
    Change t ((t.send payload isBinary).2.1 ++ [.performed t.link.attempt t.link.phase
      (.send payload isBinary) (t.send payload isBinary).2.2]) (t.send payload isBinary).1 := by
  unfold send
  split
  · exact coherent.observed _ _ (by simp) (by simp) (by simp)
  · rename_i f valid
    exact coherent.sendFrame_change (by simp [History.sentFrame?, valid, Except.toOption])

theorem close_change (coherent : Coherent t) :
    Change t ((t.relink t.link.close).2 ++ [.performed t.link.attempt t.link.phase .close .done])
      (t.relink t.link.close).1 := by
  by_cases opened : t.link.phase = .opened
  · obtain ⟨a, found⟩ := coherent.exists_current (coherent.begun (by simp [opened]))
    have turned := Change.turned (shows_current found) (.asked opened) (coherent.free (by simp [opened]))
    have handle : t.link.handle = some t.link.attempt := by simp [coherent.handle, opened, Phase.isActive]
    have close : t.link.close = (t.link.turn .closing true,
        [.command t.link.attempt (.close normalClosure none)]) := by
      simp [Link.close, opened, Link.turn, handle, Phase.isActive]
    rw [close, opened]
    simp only [relink]
    rw [carryOutAll_command ((attempt?_relink ..).trans found)]
    rwa [← turn_eq (f := (·.push (.close normalClosure none))) found rfl] at turned
  · have unmoved : t.relink t.link.close = (t, []) := by
      simp [Link.close, opened, relink, carryOutAll]
    rw [unmoved]
    exact coherent.observed _ _ (fun _ => rfl) (fun _ => opened) (by simp)

theorem cancel_eq (coherent : Coherent t) (active : t.link.phase.isActive = true) :
    t.link.cancel = (t.link.turn .draining t.link.closeRequested,
      [.command t.link.attempt .cancel, .wake t.link.attempt]) := by
  have ended : Phase.draining.isActive = false := rfl
  simp [Link.cancel, Link.drain, Link.turn, coherent.handle, coherent.alarm, active, ended]

theorem abort_change (coherent : Coherent t) :
    Change t ((t.relink t.link.abort).2 ++ [.performed t.link.attempt t.link.phase .abort .done])
      (t.relink t.link.abort).1 := by
  by_cases active : t.link.phase.isActive = true
  · obtain ⟨a, found⟩ := coherent.exists_current
      (coherent.begun (fun idle => by simp [idle, Phase.isActive] at active))
    have turned := Change.turned (shows_current found) (.aborted active) fun _ => rfl
    rw [Link.abort, Link.isActive_eq, if_pos active, coherent.cancel_eq active]
    simp only [relink]
    rw [carryOutAll_cancel ((attempt?_relink ..).trans found)]
    rwa [← turn_eq (f := fun a => { a.push .cancel with woken := true }) found rfl] at turned
  · have unmoved : t.relink t.link.abort = (t, []) := by
      simp [Link.abort, Link.isActive_eq, active, relink, carryOutAll]
    rw [unmoved]
    exact coherent.observed _ _ (fun _ => rfl) (by simp) (fun _ => by simpa using active)

/-- A connect starts an attempt, waits for the current one to settle, or does nothing. -/
theorem connect_admits (coherent : Coherent t) (h : H) : ∃ admission u,
    t.perform (.connect h) = (u, t.connectNotes h admission, .done) ∧ t.Admits h admission u := by
  have free (undrained : t.link.phase ≠ .draining) : { t.link with deferred := none } = t.link := by
    have none_waits : t.link.deferred = none :=
      Classical.byContradiction fun waits => undrained (coherent.deferred waits)
    rw [← none_waits]
  cases phase : t.link.phase with
  | idle | closed =>
      refine ⟨.started, _, ?_, .started (by simp [phase])⟩
      rw [begin, free (by simp [phase])]
      simp [perform, Transport.run, connect, connectNotes, Link.connect, phase]
  | draining =>
      cases waits : t.link.deferred with
      | none =>
          refine ⟨.deferred, _, ?_, .deferred phase waits⟩
          simp [perform, Transport.run, connect, connectNotes, Link.connect, phase, waits]
      | some _ =>
          refine ⟨.ignored, _, ?_, .ignored (.inr ⟨phase, by simp [waits]⟩)⟩
          simp [perform, Transport.run, connect, connectNotes, Link.connect, phase, waits]
  | connecting | opened | closing =>
      refine ⟨.ignored, _, ?_, .ignored (.inl (by simp [phase, Phase.isActive]))⟩
      simp [perform, Transport.run, connect, connectNotes, Link.connect, phase]

theorem connect_change (coherent : Coherent t) (h : H) :
    Change t (t.perform (.connect h)).2.1 (t.perform (.connect h)).1 := by
  obtain ⟨admission, u, made, admits⟩ := coherent.connect_admits h
  rw [made]
  cases admits with
  | started ended => exact .started h ended
  | deferred draining free => exact .deferred h draining free
  | ignored busy => exact .refused h busy

theorem perform_change (coherent : Coherent t) (op : Operation H) :
    Change t (t.perform op).2.1 (t.perform op).1 := by
  cases op with
  | connect h => exact coherent.connect_change h
  | send payload isBinary => exact coherent.send_change payload isBinary
  | sendFrame f => exact coherent.sendFrame_change rfl
  | close => exact coherent.close_change
  | abort => exact coherent.abort_change
  | isOpen => exact coherent.observed .isOpen _ (by simp) (by simp) (by simp)

end Coherent

/-! ## Sockets and dispatchers -/

theorem Socketed.change {m : Move H} (moved : Socketed t n a m notes v)
    (found : t.attempt? n = some a) : Change t notes v := by
  cases moved with
  | emitted e isLaunched emits listens =>
      refine .touch found fun l same => ?_
      subst same
      exact .emitted e isLaunched emits listens
  | eventsEnded isLaunched => exact .touch found fun l same => .eventsEnded (same ▸ isLaunched)
  | commandsEnded isLaunched => exact .touch found fun l same => .commandsEnded (same ▸ isLaunched)
  | received c rest queue => exact .touch found fun l same => .received c rest (same ▸ queue)

theorem ended_change {e : Event} (found : t.attempt? t.link.attempt = some a)
    (held : a.dispatcher = .holding e) (last : e.isTerminal = true) :
    Change t [.applied t.link.attempt e,
        .called t.link.attempt a.handler (.onDisconnect ((t.current a).verdict e))]
      ({ t with link := t.link.drain }.setDispatcher t.link.attempt
        (.calling (.onDisconnect ((t.current a).verdict e)))) := by
  have turned := Change.turned (shows_current found) (.ended e held last) fun _ => rfl
  rwa [← turn_eq (f := ({ · with dispatcher := .calling (.onDisconnect ((t.current a).verdict e)) }))
    found rfl] at turned

theorem ignored_change {e : Event} (found : t.attempt? t.link.attempt = some a)
    (held : a.dispatcher = .holding e) (ignores : (t.current a).ignores e = true) :
    Change t [.applied t.link.attempt e] (t.setDispatcher t.link.attempt .waiting) := by
  refine .touched _ found fun l shows => ?_
  have same := shows.eq_current
  rw [shows.attempt_eq found] at same
  exact same ▸ .ignored e held ignores

theorem delivered_change {f : Frame} (found : t.attempt? t.link.attempt = some a)
    (held : a.dispatcher = .holding (.message f)) (isOpen : t.link.phase.isOpen = true) :
    Change t [.applied t.link.attempt (.message f),
        .called t.link.attempt a.handler (.onMessage f.payload f.isBinary)]
      (t.setDispatcher t.link.attempt (.calling (.onMessage f.payload f.isBinary))) := by
  refine .touched _ found fun l shows => ?_
  have same := shows.eq_current
  rw [shows.attempt_eq found] at same
  exact same ▸ .delivered f held isOpen

theorem Coherent.applied_change (coherent : Coherent t) {e : Event} (found : t.attempt? n = some a)
    (held : a.dispatcher = .holding e) :
    Change t (.applied n e :: calls n a.handler (afterStep (t.link.apply n e).2))
      ({ t with link := (t.link.apply n e).1 }.setDispatcher n
        (afterStep (t.link.apply n e).2)) := by
  obtain rfl := coherent.number_eq found (by simp [held])
  have handle := coherent.handle
  cases e with
  | opened =>
      by_cases connecting : t.link.phase = .connecting
      · have turned := Change.turned (shows_current found) (.connected held connecting)
          (coherent.free (by simp [connecting]))
        have link : t.link.apply t.link.attempt .opened =
            (t.link.turn .opened t.link.closeRequested, .connected) := by
          simp [Link.apply, connecting, Link.turn, handle, Phase.isActive]
        rw [← turn_eq (f := ({ · with dispatcher := .calling .onConnect })) found rfl] at turned
        rw [link]
        exact turned
      · have ignored := ignored_change found held (by simp [Life.ignores, current, connecting])
        simp only [Link.apply, connecting, and_false, if_false]
        exact ignored
  | message f =>
      cases isOpen : t.link.phase.isOpen with
      | true =>
          have delivered := delivered_change found held isOpen
          simp only [Link.apply, Link.isOpen_eq, isOpen, and_self, if_true]
          exact delivered
      | false =>
          have ignored := ignored_change found held (by simp [Life.ignores, current, isOpen])
          simp only [Link.apply, Link.isOpen_eq, isOpen, Bool.false_eq_true, and_false, if_false]
          exact ignored
  | closing code reason =>
      by_cases opened : t.link.phase = .opened
      · have turned := Change.turned (shows_current found) (.peerClosed code reason held opened)
          (coherent.free (by simp [opened]))
        have link : t.link.apply t.link.attempt (.closing code reason) =
            (t.link.turn .closing t.link.closeRequested, .ignore) := by
          simp [Link.apply, opened, Link.turn, handle, Phase.isActive]
        rw [← turn_eq (f := ({ · with dispatcher := .waiting })) found rfl] at turned
        rw [link]
        exact turned
      · have ignored := ignored_change found held (by simp [Life.ignores, current, opened])
        simp only [Link.apply, opened, and_false, if_false]
        exact ignored
  | closed code reason =>
      have ended := ended_change found held rfl
      simp only [Link.apply, if_true, Link.isOpen_eq]
      exact ended
  | failure message =>
      have ended := ended_change found held rfl
      simp only [Link.apply, if_true]
      exact ended

theorem Coherent.aborted_change (coherent : Coherent t) (found : t.attempt? n = some a)
    (failed : a.dispatcher = .failed) :
    Change t ((t.setDispatcher n .waiting).relink (t.link.abortAttempt n)).2
      ((t.setDispatcher n .waiting).relink (t.link.abortAttempt n)).1 := by
  obtain rfl := coherent.number_eq found (by simp [failed])
  by_cases active : t.link.phase.isActive = true
  · have turned := Change.turned (shows_current found) (.cutShort failed active) fun _ => rfl
    have moved (l : Link H) : { t.setDispatcher t.link.attempt .waiting with link := l }.attempt?
        t.link.attempt = some { a with dispatcher := .waiting } := by
      simp [attempt?_relink, setDispatcher, attempt?_update, found]
    rw [Link.abortAttempt, Link.isActive_eq, if_pos ⟨rfl, active⟩, coherent.cancel_eq active]
    simp only [relink, carryOutAll_cancel (moved _)]
    rw [setDispatcher, update_relink, update_update]
    rwa [← turn_eq (f := fun a => { { a with dispatcher := .waiting }.push .cancel with woken := true })
      found rfl] at turned
  · have touched : Change t [] (t.update _ ({ · with dispatcher := .waiting })) :=
      .touched _ found fun l shows => by
        obtain ⟨_, phase, _⟩ := by simpa [Shows] using shows
        exact .wasAborted (shows.attempt_eq found ▸ failed) (by simpa [phase] using active)
    rw [Link.abortAttempt, Link.isActive_eq, if_neg (fun both => active both.2)]
    simp only [relink, carryOutAll]
    rw [setDispatcher, update_relink]
    exact touched

theorem Coherent.settled_change (coherent : Coherent t) (found : t.attempt? n = some a)
    (settling : a.dispatcher = .settling) :
    Change t [.settled n] ((t.update n ({ · with events := [], dispatcher := .done })).succeed n) := by
  obtain rfl := coherent.number_eq found (by simp [settling])
  have draining : t.link.phase = .draining :=
    (coherent.current_sound found).stands.draining (by simp [current, settling, Dispatcher.isEnding])
  have step := Life.Step.settled (n := t.link.attempt) (l := t.current a) settling draining
  have turn := turn_eq (l := ⟨.closed, t.link.closeRequested, _⟩)
    (f := ({ · with events := [], dispatcher := .done })) found rfl
  rw [succeed, link_update]
  cases waits : t.link.deferred with
  | none =>
      have turned := Change.turned (shows_current found) step (fun some => absurd waits some)
      have link : t.link.settle t.link.attempt =
          (t.link.turn .closed t.link.closeRequested, none) := by
        have ended : t.link.handle = none := by simp [coherent.handle, draining, Phase.isActive]
        simp [Link.settle, draining, waits, Link.turn, ended, Phase.isActive]
      rw [link]
      simp only [Option.map_none, Option.toList_none, List.append_nil]
      rw [update_relink]
      exact turn ▸ turned
  | some h =>
      have succeeded := Change.succeeded h waits (shows_current found) step rfl
      have link : t.link.settle t.link.attempt =
          ({ t.link with deferred := none }.start, some h) := by
        simp [Link.settle, draining, waits, Link.start]
      rw [link]
      simp only [current] at succeeded
      rwa [← turn, ← update_relink] at succeeded

theorem Coherent.dispatched_change (coherent : Coherent t) {m : Move H}
    (moved : Dispatched t n a m notes v) (found : t.attempt? n = some a) : Change t notes v := by
  cases moved with
  | launched begun => exact .touch found fun l same => same ▸ .launched _ (same ▸ begun)
  | taken e rest waiting next =>
      exact .touch found fun l same => .taken e rest (same ▸ waiting) (same ▸ next)
  | noticed waiting woken =>
      exact .touch found fun l same => .noticed (same ▸ waiting) (same ▸ woken)
  | applied e held => exact coherent.applied_change found held
  | returned c failure calling =>
      exact .touch found fun l same => .returned c failure (same ▸ calling)
  | aborted failed => exact coherent.aborted_change found failed
  | settled settling => exact coherent.settled_change found settling

/-- Every move is one of the changes. From here on no proof looks at the functions of the link. -/
theorem Coherent.step?_change (coherent : Coherent t) {m : Move H}
    (made : t.step? m = some (v, notes)) : Change t notes v := by
  cases step?_moved made with
  | performed op => exact coherent.perform_change op
  | dispatched found moved => exact coherent.dispatched_change moved found
  | socketed found moved => exact moved.change found

end Transport

end WampClient
