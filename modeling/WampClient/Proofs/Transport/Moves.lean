import WampClient.Transport.History

/-! # What the moves do

Every move is one of a caller, of the dispatcher of an attempt or of its socket. `step?_moved` opens
the moves once and says what each of them does and what it takes; what follows from them is shown
without looking at them again.
-/

namespace WampClient.Transport

variable {H : Type} {t v : Transport H} {n : Nat} {a : Attempt H} {m : Move H} {notes : History H}

/-! ## Callers -/

/-- The note tells what a call has brought about. -/
def Note.isEffect : Note H → Bool
  | .queued _ _ | .admitted _ _ => true
  | _ => false

theorem isEffect_push (t : Transport H) (n : Nat) (c : Command) :
    (t.push n c).2.all Note.isEffect = true := by
  unfold push
  split <;> rfl

theorem isEffect_carryOutAll (effects : List Effect) (t : Transport H) :
    (t.carryOutAll effects).2.all Note.isEffect = true := by
  induction effects generalizing t with
  | nil => rfl
  | cons e rest ih =>
      refine List.all_append.trans (Bool.and_eq_true_iff.mpr ⟨?_, ih _⟩)
      cases e with
      | command k c => exact isEffect_push t k c
      | wake k => rfl

theorem isEffect_sendFrame (t : Transport H) (f : Frame) :
    (t.sendFrame f).2.1.all Note.isEffect = true := by
  unfold sendFrame
  split
  · rfl
  · split
    · exact isEffect_push ..
    · rfl

theorem isEffect_run (t : Transport H) (op : Operation H) :
    (t.run op).2.1.all Note.isEffect = true := by
  cases op with
  | connect h => rfl
  | send payload isBinary =>
      simp only [Transport.run, send]
      split
      · rfl
      · exact isEffect_sendFrame ..
  | sendFrame f => exact isEffect_sendFrame ..
  | close | abort => exact isEffect_carryOutAll ..
  | isOpen => rfl

/-! ## Dispatchers and sockets -/

def calls (n : Nat) (handler : H) : Dispatcher → History H
  | .calling c => [.called n handler c]
  | _ => []

theorem mem_calls {handler : H} {d : Dispatcher} {note : Note H} (called : note ∈ calls n handler d) :
    ∃ c, note = .called n handler c := by
  unfold calls at called
  split at called
  · exact ⟨_, List.mem_singleton.mp called⟩
  · cases called

/-- The link goes on when attempt `n` settles, and a deferred attempt begins. -/
def succeed (t : Transport H) (n : Nat) : Transport H :=
  { t with
    link := (t.link.settle n).1
    attempts := t.attempts ++ ((t.link.settle n).2.map Attempt.ofHandler).toList }

/-- What the moves of a dispatcher do, and where it stands before them. -/
inductive Dispatched (t : Transport H) (n : Nat) (a : Attempt H) :
    Move H → History H → Transport H → Prop where
  | launched (begun : a.dispatcher = .begun) :
      Dispatched t n a (.launch n) [.launched n a.handler t.settings.handshake]
        (t.setDispatcher n .waiting)
  | taken (e : Event) (rest : List Event) (waiting : a.dispatcher = .waiting)
      (next : a.next? = some (e, rest)) :
      Dispatched t n a (.take n) [] (t.update n ({ · with events := rest, dispatcher := .holding e }))
  | noticed (waiting : a.dispatcher = .waiting) (woken : a.woken = true) :
      Dispatched t n a (.notice n) []
        (t.update n ({ · with woken := false, dispatcher := .holding .aborted }))
  | applied (e : Event) (held : a.dispatcher = .holding e) :
      Dispatched t n a (.applyHeld n)
        (.applied n e :: calls n a.handler (afterStep (t.link.apply n e).2))
        ({ t with link := (t.link.apply n e).1 }.setDispatcher n (afterStep (t.link.apply n e).2))
  | returned (c : Callback) (failure : Option Error) (calling : a.dispatcher = .calling c) :
      Dispatched t n a (.finish n failure) [.returned n c failure]
        (t.setDispatcher n (afterCallback c failure))
  | aborted (failed : a.dispatcher = .failed) :
      Dispatched t n a (.abortFailed n)
        ((t.setDispatcher n .waiting).relink (t.link.abortAttempt n)).2
        ((t.setDispatcher n .waiting).relink (t.link.abortAttempt n)).1
  | settled (settling : a.dispatcher = .settling) :
      Dispatched t n a (.settle n) [.settled n]
        ((t.update n ({ · with events := [], dispatcher := .done })).succeed n)

/-- What the moves of a socket do, and what they take. -/
inductive Socketed (t : Transport H) (n : Nat) (a : Attempt H) :
    Move H → History H → Transport H → Prop where
  | emitted (e : Event) (isLaunched : a.isLaunched = true) (emits : a.emits = true)
      (listens : a.dispatcher ≠ .done) :
      Socketed t n a (.emit n e) [.emitted n e] (t.update n ({ · with events := a.events ++ [e] }))
  | eventsEnded (isLaunched : a.isLaunched = true) :
      Socketed t n a (.endEvents n) [.eventsEnded n] (t.endEvents n)
  | commandsEnded (isLaunched : a.isLaunched = true) :
      Socketed t n a (.endCommands n) [.commandsEnded n] (t.endCommands n)
  | received (c : Command) (rest : List Command) (queue : a.commands = c :: rest) :
      Socketed t n a (.receive n) [.received n c] (t.update n ({ · with commands := rest }))

/-- What a move does, be it of a caller, a dispatcher or a socket. The parts name what the move
    takes and what it leaves, guards included. -/
inductive Moved (t : Transport H) : Move H → History H → Transport H → Prop where
  | performed (op : Operation H) : Moved t (.perform op) (t.perform op).2.1 (t.perform op).1
  | dispatched {n : Nat} {a : Attempt H} {m : Move H} {notes : History H} {v : Transport H}
      (found : t.attempt? n = some a) (moved : Dispatched t n a m notes v) : Moved t m notes v
  | socketed {n : Nat} {a : Attempt H} {m : Move H} {notes : History H} {v : Transport H}
      (found : t.attempt? n = some a) (moved : Socketed t n a m notes v) : Moved t m notes v

theorem dispatcher?_cases {d : Dispatcher} (standing : t.dispatcher? n = some d) :
    ∃ a, t.attempt? n = some a ∧ a.dispatcher = d :=
  Option.map_eq_some_iff.mp standing

theorem isLaunched_cases (launched : t.isLaunched n = true) :
    ∃ a, t.attempt? n = some a ∧ a.isLaunched = true := by
  unfold isLaunched at launched
  cases found : t.attempt? n with
  | none => simp [found] at launched
  | some a => exact ⟨a, rfl, by simpa [found] using launched⟩

theorem emit_moved {e : Event} (made : t.emit n e = (v, .delivered)) :
    Moved t (.emit n e) [.emitted n e] v := by
  unfold emit at made
  split at made
  · rename_i a found
    split at made
    · cases made
    · rename_i isLaunched
      split at made
      · cases made
      · rename_i emits
        split at made
        · cases made
        · rename_i listens
          cases made
          exact .socketed found (.emitted e (by simpa using isLaunched) (by simpa using emits) listens)
  · cases made

theorem receive_moved {c : Command} (made : t.receive n = some (c, v)) :
    Moved t (.receive n) [.received n c] v := by
  unfold receive at made
  split at made
  · rename_i a found
    split at made
    · rename_i first rest queue
      cases made
      exact .socketed found (.received c rest queue)
    · cases made
  · cases made

theorem launch_moved (made : t.launch n = some (v, notes)) : Moved t (.launch n) notes v := by
  unfold launch at made
  split at made
  · rename_i a found
    split at made
    · rename_i begun
      cases made
      exact .dispatched found (.launched begun)
    · cases made
  · cases made

theorem take_moved (made : t.take n = some v) : Moved t (.take n) [] v := by
  unfold take at made
  split at made
  · rename_i a found
    split at made
    · rename_i waiting
      obtain ⟨⟨e, rest⟩, next, rfl⟩ := Option.map_eq_some_iff.mp made
      exact .dispatched found (.taken e rest waiting next)
    · cases made
  · cases made

theorem notice_moved (made : t.notice n = some v) : Moved t (.notice n) [] v := by
  unfold notice at made
  split at made
  · rename_i a found
    split at made
    · rename_i alarmed
      cases made
      exact .dispatched found (.noticed alarmed.1 alarmed.2)
    · cases made
  · cases made

theorem applyHeld_moved (made : t.applyHeld n = some (v, notes)) :
    Moved t (.applyHeld n) notes v := by
  unfold applyHeld at made
  split at made
  · rename_i a found
    split at made
    · rename_i e held
      cases made
      exact .dispatched found (.applied e held)
    · cases made
  · cases made

theorem finish_moved {failure : Option Error} (made : t.finish n failure = some (v, notes)) :
    Moved t (.finish n failure) notes v := by
  unfold finish at made
  split at made
  · rename_i c standing
    obtain ⟨a, found, calling⟩ := dispatcher?_cases standing
    cases made
    exact .dispatched found (.returned c failure calling)
  · cases made

theorem abortFailed_moved (made : t.abortFailed n = some (v, notes)) :
    Moved t (.abortFailed n) notes v := by
  unfold abortFailed at made
  split at made
  · rename_i standing
    obtain ⟨a, found, failed⟩ := dispatcher?_cases standing
    obtain ⟨rfl, rfl⟩ := Prod.ext_iff.mp (Option.some.inj made)
    exact .dispatched found (.aborted failed)
  · cases made

theorem settle_moved (made : t.settle n = some (v, notes)) : Moved t (.settle n) notes v := by
  unfold settle at made
  split at made
  · rename_i standing
    obtain ⟨a, found, settling⟩ := dispatcher?_cases standing
    cases made
    rw [← link_update t n ({ · with events := [], dispatcher := .done })]
    exact .dispatched found (.settled settling)
  · cases made

/-- Every move does one of these things. -/
theorem step?_moved (made : t.step? m = some (v, notes)) : Moved t m notes v := by
  cases m with
  | perform op =>
      cases made
      exact .performed op
  | launch n => exact launch_moved made
  | emit n e =>
      simp only [step?] at made
      split at made
      · rename_i emitted
        cases made
        exact emit_moved emitted
      · cases made
  | endEvents n =>
      simp only [step?] at made
      split at made
      · rename_i launched
        obtain ⟨a, found, isLaunched⟩ := isLaunched_cases launched
        cases made
        exact .socketed found (.eventsEnded isLaunched)
      · cases made
  | endCommands n =>
      simp only [step?] at made
      split at made
      · rename_i launched
        obtain ⟨a, found, isLaunched⟩ := isLaunched_cases launched
        cases made
        exact .socketed found (.commandsEnded isLaunched)
      · cases made
  | receive n =>
      obtain ⟨⟨c, u⟩, received, same⟩ := Option.map_eq_some_iff.mp made
      cases same
      exact receive_moved received
  | take n =>
      obtain ⟨u, taken, same⟩ := Option.map_eq_some_iff.mp made
      cases same
      exact take_moved taken
  | notice n =>
      obtain ⟨u, noticed, same⟩ := Option.map_eq_some_iff.mp made
      cases same
      exact notice_moved noticed
  | applyHeld n => exact applyHeld_moved made
  | finish n failure => exact finish_moved made
  | abortFailed n => exact abortFailed_moved made
  | settle n => exact settle_moved made

/-- The move is one that is left to do for the dispatcher of attempt `n`. -/
def Move.dispatches (n : Nat) : Move H → Bool
  | .launch m | .take m | .notice m | .applyHeld m | .finish m _ | .abortFailed m | .settle m => m = n
  | .perform _ | .emit _ _ | .endEvents _ | .endCommands _ | .receive _ => false

theorem Dispatched.dispatches {k : Nat} (moved : Dispatched t k a m notes v) :
    m.dispatches n = decide (k = n) := by
  cases moved <;> rfl

theorem Socketed.dispatches {k : Nat} (moved : Socketed t k a m notes v) :
    m.dispatches n = false := by
  cases moved <;> rfl

theorem step?_dispatched (own : m.dispatches n = true) (made : t.step? m = some (v, notes)) :
    ∃ a, t.attempt? n = some a ∧ Dispatched t n a m notes v := by
  cases step?_moved made with
  | performed => cases own
  | socketed _ moved =>
      rw [moved.dispatches] at own
      cases own
  | @dispatched k a _ _ _ found moved =>
      rw [moved.dispatches] at own
      obtain rfl := of_decide_eq_true own
      exact ⟨a, found, moved⟩

/-! ## What a dispatcher can do

The other way round, a dispatcher can make the move for which it stands ready.
-/

theorem dispatcher?_of_attempt? (found : t.attempt? n = some a) :
    t.dispatcher? n = some a.dispatcher := by
  rw [dispatcher?, found]
  rfl

theorem launch_made (found : t.attempt? n = some a) (begun : a.dispatcher = .begun) :
    t.step? (.launch n) =
      some (t.setDispatcher n .waiting, [.launched n a.handler t.settings.handshake]) := by
  simp only [step?, launch, found, if_pos begun]

theorem take_made {e : Event} {rest : List Event} (found : t.attempt? n = some a)
    (waiting : a.dispatcher = .waiting) (next : a.next? = some (e, rest)) :
    t.step? (.take n) =
      some (t.update n ({ · with events := rest, dispatcher := .holding e }), []) := by
  simp only [step?, take, found, if_pos waiting, next, Option.map_some]

theorem notice_made (found : t.attempt? n = some a) (waiting : a.dispatcher = .waiting)
    (woken : a.woken = true) :
    t.step? (.notice n) =
      some (t.update n ({ · with woken := false, dispatcher := .holding .aborted }), []) := by
  simp only [step?, notice, found, if_pos (And.intro waiting woken), Option.map_some]

theorem applyHeld_made {e : Event} (found : t.attempt? n = some a) (held : a.dispatcher = .holding e) :
    t.step? (.applyHeld n) =
      some ({ t with link := (t.link.apply n e).1 }.setDispatcher n (afterStep (t.link.apply n e).2),
        .applied n e :: calls n a.handler (afterStep (t.link.apply n e).2)) := by
  simp only [step?, applyHeld, found, held]
  rfl

theorem finish_made {c : Callback} (failure : Option Error) (found : t.attempt? n = some a)
    (calling : a.dispatcher = .calling c) :
    t.step? (.finish n failure) =
      some (t.setDispatcher n (afterCallback c failure), [.returned n c failure]) := by
  simp only [step?, finish, dispatcher?_of_attempt? found, calling]

theorem abortFailed_made (found : t.attempt? n = some a) (failed : a.dispatcher = .failed) :
    t.step? (.abortFailed n) =
      some ((t.setDispatcher n .waiting).relink (t.link.abortAttempt n)) := by
  simp only [step?, abortFailed, dispatcher?_of_attempt? found, failed]

theorem settle_made (found : t.attempt? n = some a) (settling : a.dispatcher = .settling) :
    t.step? (.settle n) =
      some ((t.update n ({ · with events := [], dispatcher := .done })).succeed n, [.settled n]) := by
  simp only [step?, settle, dispatcher?_of_attempt? found, settling, succeed, link_update]

theorem Dispatched.made (moved : Dispatched t n a m notes v) (found : t.attempt? n = some a) :
    t.step? m = some (v, notes) := by
  cases moved with
  | launched begun => exact launch_made found begun
  | taken e rest waiting next => exact take_made found waiting next
  | noticed waiting woken => exact notice_made found waiting woken
  | applied e held => exact applyHeld_made found held
  | returned c failure calling => exact finish_made failure found calling
  | aborted failed => exact abortFailed_made found failed
  | settled settling => exact settle_made found settling

theorem Dispatched.busy (moved : Dispatched t n a m notes v) (found : t.attempt? n = some a) :
    t.isIdle n = false := by
  cases moved with
  | launched standing | applied _ standing | returned _ _ standing | aborted standing
  | settled standing => simp only [isIdle, found, standing]
  | taken e rest waiting next => simp [isIdle, found, waiting, next]
  | noticed waiting woken => simp [isIdle, found, waiting, woken]

theorem exists_dispatched (found : t.attempt? n = some a) (busy : t.isIdle n = false) :
    ∃ m notes v, Dispatched t n a m notes v := by
  cases standing : a.dispatcher with
  | begun => exact ⟨_, _, _, .launched standing⟩
  | waiting =>
      rw [isIdle, found] at busy
      simp only [standing] at busy
      cases woken : a.woken with
      | true => exact ⟨_, _, _, .noticed standing woken⟩
      | false =>
          cases next : a.next? with
          | some first => exact ⟨_, _, _, .taken first.1 first.2 standing next⟩
          | none => simp [woken, next] at busy
  | holding e => exact ⟨_, _, _, .applied e standing⟩
  | calling c => exact ⟨_, _, _, .returned c none standing⟩
  | failed => exact ⟨_, _, _, .aborted standing⟩
  | settling => exact ⟨_, _, _, .settled standing⟩
  | done => simp [isIdle, found, standing] at busy

/-- A dispatcher is idle if it cannot make any move. Each place at which it can stand has a move of
    its own, but for a dispatcher that is done and one that waits and finds nothing. -/
theorem isIdle_iff (t : Transport H) (n : Nat) :
    t.isIdle n = true ↔ ∀ m : Move H, m.dispatches n = true → t.step? m = none := by
  constructor
  · intro idle m own
    refine Option.eq_none_iff_forall_ne_some.mpr fun ⟨v, notes⟩ made => ?_
    obtain ⟨a, found, moved⟩ := step?_dispatched own made
    rw [moved.busy found] at idle
    cases idle
  · intro stuck
    cases found : t.attempt? n with
    | none => simp [isIdle, found]
    | some a =>
        rw [← Bool.not_eq_false]
        intro busy
        obtain ⟨m, notes, v, moved⟩ := exists_dispatched found busy
        have made := moved.made found
        rw [stuck m (moved.dispatches.trans (decide_eq_true rfl))] at made
        cases made

/-- A dispatcher that neither waits nor holds an event nor calls its handler has one move at most. -/
theorem Dispatched.only (moved : Dispatched t n a m notes v) :
    (a.dispatcher = .begun → m = .launch n) ∧ (a.dispatcher = .failed → m = .abortFailed n) ∧
      (a.dispatcher = .settling → m = .settle n) ∧ a.dispatcher ≠ .done := by
  cases moved with
  | launched standing | taken _ _ standing | noticed standing | applied _ standing
  | returned _ _ standing | aborted standing | settled standing => simp [standing]

end WampClient.Transport
