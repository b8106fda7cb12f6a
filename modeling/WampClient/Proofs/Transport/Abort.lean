import WampClient.Proofs.Transport.Confluence
import WampClient.Proofs.Transport.Phase

/-! # What follows an abort

Once an attempt is aborted, or a callback of it has failed, all that its handler is still told is an
unclean end, and nothing more is sent to its socket than one cancel. What the socket emits and what
the dispatcher turns to first make no difference.
-/

namespace WampClient.Transport

variable {H : Type} {t u v w : Transport H} {n : Nat} {settings : Settings} {seen : History H}

namespace Life

variable {h : H} {k l m : Life H} {notes later : History H}

/-- What the handler of an attempt that has ended, or is about to, is told from then on. -/
def Silent (told : List Callback) (l : Life H) : Prop :=
  Ends l ∧ if l.attempt.dispatcher.hasTold then told = [.onDisconnect false] else told = []

theorem Silent.quiet {told : List Callback} (silent : Silent told l) (step : Step n l notes m)
    (nothing : notes.callbacks n = [])
    (same : m.attempt.dispatcher.hasTold = l.attempt.dispatcher.hasTold) :
    Silent (told ++ notes.callbacks n) m := by
  obtain ⟨ends, told⟩ := silent
  refine ⟨step.ends ends, ?_⟩
  rwa [nothing, List.append_nil, same]

theorem Step.silent {told : List Callback} (step : Step n l notes m) (silent : Silent told l) :
    Silent (told ++ notes.callbacks n) m := by
  have step' := step
  cases step with
  | observed | emitted | eventsEnded | commandsEnded | received =>
      exact silent.quiet step' rfl rfl
  | sent => exact silent.quiet step' rfl (by simp [on])
  | launched _ begun => exact silent.quiet step' rfl (by simp [on, begun, Dispatcher.hasTold])
  | taken _ _ waiting | noticed waiting =>
      exact silent.quiet step' rfl (by simp [on, waiting, Dispatcher.hasTold])
  | asked | aborted =>
      refine silent.quiet step' ?_ (by simp [cancel])
      rw [History.callbacks_append, callbacks_pushed]
      rfl
  | connected held phase => simp [Silent, Ends, held, phase, Phase.isActive] at silent
  | delivered f held isOpen =>
      have ended := silent.1.resolve_left (by simp [held])
      simp [Phase.isActive_of_isOpen isOpen] at ended
  | peerClosed code reason held isOpen =>
      simp [Silent, Ends, held, isOpen, Phase.isActive] at silent
  | ignored e held => exact silent.quiet step' rfl (by simp [on, held, Dispatcher.hasTold])
  | ended e held last =>
      have ended := silent.1.resolve_left (by simp [held])
      have unopened : l.phase.isOpen = false :=
        Bool.eq_false_iff.mpr fun isOpen => by simp [Phase.isActive_of_isOpen isOpen] at ended
      have unclean : l.verdict e = false := by
        cases e with
        | closed => simp [verdict, unopened]
        | opened | message | closing | failure => rfl
      refine ⟨.inr rfl, ?_⟩
      have nothing : told = [] := by simpa [held, Dispatcher.hasTold] using silent.2
      simp [nothing, unclean, History.callbacks, Dispatcher.hasTold, Callback.isLast]
  | returned c failure calling =>
      refine silent.quiet step' rfl ?_
      cases c <;> cases failure <;>
        simp [on, calling, afterCallback, Dispatcher.hasTold, Callback.isLast]
  | cutShort failed =>
      exact silent.quiet step' (callbacks_pushed ..)
        (by simp [cancel, on, failed, Dispatcher.hasTold])
  | wasAborted failed => exact silent.quiet step' rfl (by simp [on, failed, Dispatcher.hasTold])
  | settled settling => exact silent.quiet step' rfl (by simp [settling, Dispatcher.hasTold])

theorem Path.silent (path : Path n k later l) (ends : Ends k)
    (untold : k.attempt.dispatcher.hasTold = false) : Silent (later.callbacks n) l := by
  induction path with
  | refl => exact ⟨ends, by simp [untold, History.callbacks]⟩
  | step _ step ih =>
      rw [History.callbacks_append]
      exact step.silent ih

/-- A step that cuts an attempt short finds the end untold, and leaves it so. -/
theorem Step.cut_now (step : Step n l notes m) (sound : l.Sound)
    (cut : History.isCutShort notes n = true) : l.attempt.dispatcher.hasTold = false ∧
      m.attempt.dispatcher.hasTold = false ∧ Ends m := by
  cases step with
  | observed op answer unsent unclosed unaborted =>
      rw [isCutShort_performed unaborted] at cut
      cases cut
  | sent op f frame =>
      have kept : History.isCutShort [.performed n .opened op .done] n = false :=
        isCutShort_performed (absurd · (sends_only frame).1)
      cases kept.symm.trans cut
  | asked =>
      rw [History.isCutShort_append, isCutShort_pushed] at cut
      cases cut
  | aborted active =>
      have untold := sound.untold active
      exact ⟨untold, by simpa [cancel] using untold, .inr rfl⟩
  | cutShort => simp at cut
  | returned c failure calling =>
      cases failure with
      | none => cases cut
      | some e =>
          cases c with
          | onDisconnect => simp [History.isCutShort, Callback.isLast] at cut
          | onConnect | onMessage => exact ⟨by rw [calling]; rfl, rfl, .inl rfl⟩
  | launched | emitted | eventsEnded | commandsEnded | received | taken | noticed | connected
  | delivered | peerClosed | ignored | ended | wasAborted | settled => cases cut

theorem Run.cut_before (run : Run n h seen l) (step : Step n l notes m)
    (ended : l.phase.isActive = false) (cut : History.isCutShort (seen ++ notes) n = true) :
    seen.isCutShort n = true := by
  rw [History.isCutShort_append, Bool.or_eq_true] at cut
  rcases cut with before | now
  · exact before
  · exact (run.cut_iff (step.cut_now run.sound now).1).mpr (.inr ended)

/-- An attempt that was cut short and has ended was cancelled, if its socket still receives. It ends
    by the abort that cancels it, or by an event that came before, and then it was not cut short. -/
theorem Run.cancelled (run : Run n h seen l) (cut : seen.isCutShort n = true)
    (ended : l.phase.isActive = false) (receives : l.attempt.receives = true) :
    .cancel ∈ seen.commands n := by
  induction run with
  | begun => cases cut
  | @step seen more l m before step ih =>
      rw [History.commands_append]
      have earlier (ended : l.phase.isActive = false) (receives : l.attempt.receives = true) :
          .cancel ∈ History.commands seen n ++ History.commands more n :=
        List.mem_append_left _ (ih (before.cut_before step ended cut) ended receives)
      have step' := step
      cases step with
      | aborted active =>
          rw [History.commands_append, commands_pushed]
          have still : l.attempt.receives = true := by simpa [cancel] using receives
          simp [still]
      | cutShort failed active =>
          rw [commands_pushed]
          have still : l.attempt.receives = true := by simpa [cancel, on] using receives
          simp [still]
      | ended e held last =>
          have cut' : History.isCutShort seen n = true := by
            rw [History.isCutShort_append, Bool.or_eq_true] at cut
            exact cut.resolve_right (by simp [History.isCutShort])
          exact earlier ((before.ends cut').resolve_left (by simp [held])) receives
      | settled settling draining => exact earlier (by simp [draining, Phase.isActive]) receives
      | asked isOpen | connected _ isOpen | peerClosed _ _ _ isOpen => cases ended
      | commandsEnded => cases receives
      | observed | launched | emitted | eventsEnded | received | taken | noticed | delivered
      | ignored | returned | wasAborted => exact earlier ended receives
      | sent _ _ _ isOpen => simp [on, isOpen, Phase.isActive] at ended

end Life

/-- The move aborts attempt `n` while it is active, or lets a callback of it fail. -/
inductive CutsShort (t : Transport H) (n : Nat) : Move H → Prop where
  | aborted (current : n = t.link.attempt) (active : t.link.phase.isActive = true) :
      CutsShort t n (.perform .abort)
  | failed (c : Callback) (e : Error) (calling : t.dispatcher? n = some (.calling c))
      (unended : c.isLast = false) : CutsShort t n (.finish n (some e))

theorem CutsShort.cut {m : Move H} {notes : History H} (cuts : t.CutsShort n m)
    (made : t.step? m = some (u, notes)) : notes.isCutShort n = true := by
  cases cuts with
  | aborted current active =>
      cases made
      subst current
      rw [History.isCutShort_append, isCutShort_abort, active, Bool.or_true]
  | failed c e calling unended =>
      simp only [step?, finish, calling] at made
      cases made
      simp [History.isCutShort, unended]

theorem CutsShort.exists_attempt {m : Move H} (cuts : t.CutsShort n m) (coherent : Coherent t) :
    ∃ a, t.attempt? n = some a := by
  cases cuts with
  | aborted current active =>
      subst current
      exact coherent.exists_current
        (coherent.begun fun idle => by simp [idle, Phase.isActive] at active)
  | failed c e calling unended =>
      obtain ⟨a, found, _⟩ := dispatcher?_cases calling
      exact ⟨a, found⟩

theorem CutsShort.shows {m : Move H} {notes : History H} (cuts : t.CutsShort n m)
    (coherent : Coherent t) (made : t.step? m = some (u, notes)) :
    ∃ l, u.Shows n l ∧ Life.Ends l ∧ l.attempt.dispatcher.hasTold = false := by
  obtain ⟨a, found⟩ := cuts.exists_attempt coherent
  obtain ⟨l, shows, sound⟩ := coherent.lives n a found
  have cut := cuts.cut made
  rw [← isCutShort_about] at cut
  obtain ⟨k, shows', step | ⟨_, nothing⟩⟩ := (coherent.step?_change made).shows coherent shows
  · obtain ⟨_, untold, ends⟩ := step.cut_now sound cut
    exact ⟨k, shows', ends, untold⟩
  · rw [nothing] at cut
    cases cut

theorem link_carryOut (t : Transport H) (e : Effect) : (t.carryOut e).1.link = t.link := by
  cases e with
  | command n c =>
      simp only [carryOut, push]
      split
      · exact link_update ..
      · rfl
  | wake n => exact link_update ..

theorem link_carryOutAll (effects : List Effect) (t : Transport H) :
    (t.carryOutAll effects).1.link = t.link := by
  induction effects generalizing t with
  | nil => rfl
  | cons e rest ih => exact (ih _).trans (link_carryOut t e)

theorem inactive_after_abort (t : Transport H) :
    (t.perform .abort).1.link.phase.isActive = false := by
  have link : (t.perform .abort).1.link = t.link.abort.1 := link_carryOutAll ..
  rw [link, Link.abort, Link.isActive_eq]
  split
  · rfl
  · rename_i inactive
    simpa using inactive

theorem Life.Tells.connected {told : List Callback} {l : Life H} (tells : Life.Tells told l)
    (isOpen : l.phase.isOpen = true) : .onConnect ∈ told := by
  cases phase : l.phase with
  | opened | closing =>
      simp only [Life.Tells, phase] at tells
      obtain ⟨messages, rfl, _⟩ := tells
      exact List.mem_cons_self
  | idle | connecting | draining | closed => simp [phase, Phase.isOpen] at isOpen

theorem Reaches.connected_of_isOpen (reached : Reaches settings seen t)
    (isOpen : t.link.phase.isOpen = true) : .onConnect ∈ seen.callbacks t.link.attempt := by
  obtain ⟨a, found⟩ := reached.coherent.exists_current
    (reached.coherent.begun fun idle => by simp [idle, Phase.isOpen] at isOpen)
  obtain ⟨h, l, run, shows⟩ := reached.life found
  rw [← callbacks_about]
  exact run.tells.connected (by rw [shows.eq_current]; exact isOpen)

/-! ## After the abort -/

def RefusesToSend (t : Transport H) : Prop :=
  (∀ f, (t.sendFrame f).2.2 = .failed .notConnected) ∧
    ∀ payload isBinary, ∃ e, (t.send payload isBinary).2.2 = .failed e

/-- What is left to tell of attempt `n` once it was cut short; `later` is what has happened since.
    Messages that were queued before are lost, and the only thing that is told is an end that was
    not clean. -/
structure CutShort (n : Nat) (later : History H) (t : Transport H) : Prop where
  silent : later.callbacks n = [] ∨ later.callbacks n = [.onDisconnect false]
  told : t.isIdle n = true → later.callbacks n = [.onDisconnect false]
  rests : t.ComesToRest n
  /-- A dispatcher whose callback has failed aborts the attempt before it does anything else. -/
  prompt : t.dispatcher? n = some .failed → t.step? (.abortFailed n) ≠ none ∧
    ∀ m, m.dispatches n = true → t.step? m ≠ none → m = .abortFailed n

/-- How things are once attempt `n` was aborted; `seen` is all that has happened and `later` what
    has happened since. -/
structure Aborted (n : Nat) (seen later : History H) (t : Transport H) : Prop where
  cancelled : t.receives n = true →
    ∃ earlier, seen.commands n = earlier ++ [.cancel] ∧ .cancel ∉ earlier
  sealed : ∀ (more : History H) u, Run t more u → more.commands n = []
  closed : (∀ k, n < k → .onConnect ∉ later.callbacks k) → t.isOpen = false ∧ t.RefusesToSend
  /-- Whatever the dispatcher turns to first and whatever its socket still emits, it leaves the same
      behind when it comes to rest, as long as the callers do the same and find the same meanwhile. -/
  converges : ∀ i j first second u w, Moves (·.concerns n) t i first u →
    Moves (·.concerns n) t j second w → u.isIdle n = true → w.isIdle n = true →
    first.requests = second.requests →
    u.link = w.link ∧
      ∀ k, first.callbacks k = second.callbacks k ∧ first.commands k = second.commands k

theorem refusesToSend (unopened : t.link.phase.isOpen = false) : t.RefusesToSend := by
  have refused (f : Frame) : (t.sendFrame f).2.2 = .failed .notConnected := by
    have untargeted : t.link.target? = none := by
      unfold Link.target?
      split
      · rename_i opened
        simp [opened, Phase.isOpen] at unopened
      · rfl
    rw [sendFrame, untargeted]
  refine ⟨refused, fun payload isBinary => ?_⟩
  unfold send
  split
  · rename_i e _
    exact ⟨e, rfl⟩
  · exact ⟨_, refused _⟩

section cut

variable {m : Move H} {notes later : History H}

theorem CutsShort.since (cuts : t.CutsShort n m) (coherent : Coherent t)
    (made : t.step? m = some (u, notes)) (since : Run u later v) :
    ∃ l, v.Shows n l ∧ Life.Silent (later.callbacks n) l := by
  obtain ⟨k, shows, ends, untold⟩ := cuts.shows coherent made
  obtain ⟨l, path, shows'⟩ := since.path ((coherent.step?_change made).coherent coherent) shows
  have silent := path.silent ends untold
  rw [callbacks_about] at silent
  exact ⟨l, shows', silent⟩

/-- Either the attempt has ended, or its dispatcher is about to abort it. -/
theorem CutsShort.hasEnded (cuts : t.CutsShort n m) (coherent : Coherent t)
    (made : t.step? m = some (u, notes)) (since : Run u later v)
    (aborts : m = .perform .abort ∨ v.dispatcher? n ≠ some .failed) : v.HasEnded n := by
  have coherent' := (coherent.step?_change made).coherent coherent
  rcases aborts with rfl | unfailed
  · obtain ⟨k, shows, ends, untold⟩ := cuts.shows coherent made
    obtain rfl := coherent'.number_eq shows.1 fun done => by
      simp [done, Dispatcher.hasTold] at untold
    refine (HasEnded.run ⟨k, shows, ?_⟩ coherent' since).1
    rw [shows.eq_current]
    cases made
    exact inactive_after_abort t
  · obtain ⟨l, shows, ends, _⟩ := cuts.since coherent made since
    refine ⟨l, shows, ends.resolve_left fun failed => unfailed ?_⟩
    simp [dispatcher?, shows.1, failed]

theorem CutsShort.told (cuts : t.CutsShort n m) (coherent : Coherent t)
    (made : t.step? m = some (u, notes)) (since : Run u later v) (idle : v.isIdle n = true) :
    later.callbacks n = [.onDisconnect false] := by
  obtain ⟨l, shows, _, told⟩ := cuts.since coherent made since
  have unfailed : v.dispatcher? n ≠ some .failed := by
    intro failed
    obtain ⟨a, found, standing⟩ := dispatcher?_cases failed
    simp [isIdle, found, standing] at idle
  have coherent' := since.coherent ((coherent.step?_change made).coherent coherent)
  have done := (cuts.hasEnded coherent made since (.inr unfailed)).done_of_isIdle coherent' idle
  obtain ⟨a, found, done⟩ := dispatcher?_cases done
  rwa [shows.attempt_eq found, done] at told

end cut

theorem prompt_of_failed (failed : t.dispatcher? n = some .failed) :
    t.step? (.abortFailed n) ≠ none ∧
      ∀ m, m.dispatches n = true → t.step? m ≠ none → m = .abortFailed n := by
  refine ⟨by simp [step?, abortFailed, failed], fun m own possible => ?_⟩
  obtain ⟨⟨u, notes⟩, made⟩ := Option.ne_none_iff_exists'.mp possible
  obtain ⟨a, found, moved⟩ := step?_dispatched own made
  exact moved.only.2.1 (by simpa [dispatcher?, found] using failed)

theorem Reaches.cancel_last (reached : Reaches settings seen t)
    (cancelled : .cancel ∈ seen.commands n) :
    ∃ earlier, seen.commands n = earlier ++ [.cancel] ∧ .cancel ∉ earlier := by
  obtain ⟨closes, cancels, word⟩ := reached.word n
  rw [word] at cancelled ⊢
  cases cancels with
  | true =>
      refine ⟨_, rfl, ?_⟩
      cases closes <;> simp
  | false => cases closes <;> simp [Command.stream] at cancelled

theorem CutsShort.unopened {m : Move H} {notes later : History H} (cuts : t.CutsShort n m)
    (reached : Reaches settings seen t) (made : t.step? m = some (u, notes)) (since : Run u later v)
    (ended : v.HasEnded n) (unopened : ∀ k, n < k → .onConnect ∉ later.callbacks k) :
    v.link.phase.isOpen = false := by
  have before : Reaches settings (seen ++ notes) u := Run.step reached m made
  have now : Reaches settings (seen ++ notes ++ later) v := Run.trans before since
  obtain ⟨k, shows, _, untold⟩ := cuts.shows reached.coherent made
  obtain rfl := before.coherent.number_eq shows.1 fun done => by
    simp [done, Dispatcher.hasTold] at untold
  apply Bool.eq_false_iff.mpr
  intro isOpen
  have connected := now.connected_of_isOpen isOpen
  have other := ended.aside.resolve_right (by simp [Phase.isActive_of_isOpen isOpen])
  obtain ⟨l, found, _⟩ := ended
  have next : u.link.attempt < v.link.attempt :=
    Nat.lt_of_le_of_ne (now.coherent.le_current found.1) other
  have unborn : u.attempt? v.link.attempt = none := by
    apply Option.eq_none_iff_forall_ne_some.mpr
    intro a found
    exact Nat.not_le_of_lt next (before.coherent.le_current found)
  rw [History.callbacks_append, before.unborn_callbacks unborn, List.nil_append] at connected
  exact unopened _ next connected

/-- Once an attempt was aborted, or a callback of it has failed, all that its handler is still told
    is one unclean end, and all that its socket is still sent is one cancel. What the dispatcher
    does from then on only takes from its own queue, so the order in which it winds up makes no
    difference to anybody else. -/
theorem Reaches.abort_final {m : Move H} {notes later : History H}
    (reached : Reaches settings seen t) (cuts : t.CutsShort n m)
    (made : t.step? m = some (u, notes)) (since : Run u later v) :
    CutShort n later v ∧ (m = .perform .abort ∨ v.dispatcher? n ≠ some .failed →
      Aborted n (seen ++ notes ++ later) later v) := by
  have coherent := reached.coherent
  have before : Reaches settings (seen ++ notes) u := Run.step reached m made
  have now : Reaches settings (seen ++ notes ++ later) v := Run.trans before since
  constructor
  · exact {
      silent := by
        obtain ⟨l, _, _, told⟩ := cuts.since coherent made since
        split at told
        · exact .inr told
        · exact .inl told
      told := cuts.told coherent made since
      rests := comesToRest v n
      prompt := prompt_of_failed }
  · intro aborts
    have ended := cuts.hasEnded coherent made since aborts
    exact {
      cancelled := by
        intro receives
        obtain ⟨k, shows, inactive⟩ := id ended
        obtain ⟨h, l, run, shows'⟩ := now.life shows.1
        have cut : (seen ++ notes ++ later).isCutShort n = true := by
          simp [History.isCutShort_append, cuts.cut made]
        rw [← isCutShort_about] at cut
        have member := run.cancelled cut (shows'.phase_eq shows ▸ inactive)
          (receives_eq shows'.1 ▸ receives)
        rw [commands_about] at member
        exact now.cancel_last member
      sealed := fun more w run => (ended.run now.coherent run).2
      closed := by
        intro unopened
        have closed := cuts.unopened reached made since ended unopened
        exact ⟨(Link.isOpen_eq _).trans closed, refusesToSend closed⟩
      converges := by
        intro i j first second w x moves moves' idle idle' same
        have coherent' := now.coherent
        have done := (ended.run coherent' moves.run).1.done_of_isIdle
          (moves.run.coherent coherent') idle
        have done' := (ended.run coherent' moves'.run).1.done_of_isIdle
          (moves'.run.coherent coherent') idle'
        obtain ⟨alike, about⟩ := moves.confluent moves' coherent' ended done done' same
        refine ⟨alike.link_eq.symm, fun k => ?_⟩
        by_cases own : k = n
        · subst own
          have told := cuts.told coherent made (since.trans moves.run) idle
          have told' := cuts.told coherent made (since.trans moves'.run) idle'
          rw [History.callbacks_append] at told told'
          refine ⟨List.append_cancel_left (told.trans told'.symm), ?_⟩
          rw [(ended.run coherent' moves.run).2, (ended.run coherent' moves'.run).2]
        · rw [← callbacks_about, ← commands_about, about k own, callbacks_about, commands_about]
          exact ⟨rfl, rfl⟩ }

/-- An open attempt has a message and the end of a close handshake in its queue. -/
def queuedMoves : List (Move Nat) :=
  [.perform (.connect 1), .launch 1, .emit 1 .opened, .take 1, .applyHeld 1, .finish 1 none,
    .emit 1 (.message (.text "late")), .emit 1 (.closed normalClosure "")]

/-- The dispatcher of an aborted attempt takes both before it would notice the abort, and a connect
    waits for it. -/
def windingMoves : List (Move Nat) :=
  [.take 1, .applyHeld 1, .perform (.connect 2), .take 1, .applyHeld 1, .finish 1 none, .settle 1]

theorem abort_final_of_queued : ∃ (t u v : Transport Nat) (seen notes later : History Nat),
    (ofSettings .plain).replay queuedMoves = some (t, seen) ∧ t.CutsShort 1 (.perform .abort) ∧
    t.step? (.perform .abort) = some (u, notes) ∧ u.replay windingMoves = some (v, later) ∧
    v.isIdle 1 = true ∧ later.callbacks 1 = [.onDisconnect false] ∧ CutShort 1 later v ∧
    Aborted 1 (seen ++ notes ++ later) later v := by
  refine ⟨_, _, _, _, _, _, rfl, .aborted rfl rfl, rfl, rfl, rfl, rfl, ?_⟩
  have queued : (ofSettings .plain).replay queuedMoves = some _ := rfl
  have winds {u v : Transport Nat} {later : History Nat}
      (replayed : u.replay windingMoves = some (v, later)) : Run u later v := run_of_replay replayed
  have final := Reaches.abort_final (run_of_replay queued) (.aborted rfl rfl) rfl (winds rfl)
  exact ⟨final.1, final.2 (.inl rfl)⟩

end WampClient.Transport
