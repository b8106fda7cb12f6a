import WampClient.Proofs.Transport.Turns

/-! # The rounds of a turn

In a round a dispatcher meets one event or an abort. After as many rounds as events wait for it, and
one more, it is at rest, whatever its handler does. Every turn can therefore be taken to its end.
-/

namespace WampClient

/-- What the dispatcher of an attempt finds: the next event, or an abort. The rest is left. -/
inductive Attempt.Finds {H : Type} (a : Attempt H) : Event → Attempt H → Prop where
  | event {e : Event} {rest : List Event} (next : a.next? = some (e, rest)) :
      Finds a e { a with events := rest }
  | abort (woken : a.woken = true) : Finds a .aborted { a with woken := false }

theorem Attempt.Finds.shorter {H : Type} {a b : Attempt H} {e : Event} (finds : a.Finds e b)
    (unended : e.isTerminal = false) : a.events.length = b.events.length + 1 := by
  cases finds with
  | event next =>
      rcases Attempt.next?_cases next with queue | ⟨_, _, rfl, _⟩
      · simp [queue]
      · cases unended
  | abort => cases unended

namespace Transport

variable {H : Type} {t u : Transport H} {n : Nat} {a b : Attempt H} {e : Event}
  {work : List Event × Dispatcher}

/-! ## What a dispatcher meets -/

/-- The dispatcher of attempt `n` has applied an event and left this of the attempt. -/
def applied (t : Transport H) (n : Nat) (e : Event) (b : Attempt H) : Transport H :=
  { t with link := (t.link.apply n e).1 }.update n fun _ =>
    { b with dispatcher := afterStep (t.link.apply n e).2 }

theorem attempt?_applied (found : t.attempt? n = some a) :
    (t.applied n e b).attempt? n =
      some { b with dispatcher := afterStep (t.link.apply n e).2 } := by
  simp [applied, attempt?_update, attempt?_relink, found]

theorem applied_eq {f : Attempt H → Attempt H} {v : Transport H} {notes : History H}
    (found : t.attempt? n = some a) (held : (f a).dispatcher = .holding e)
    (made : (t.update n f).applyHeld n = some (v, notes)) : v = t.applied n e (f a) := by
  have found' : (t.update n f).attempt? n = some (f a) := by simp [attempt?_update, found]
  simp only [applyHeld, found', held, link_update, Option.some.injEq, Prod.mk.injEq] at made
  obtain ⟨rfl, _⟩ := made
  rw [setDispatcher, update_relink, update_update, applied]
  exact update_congr ((attempt?_relink ..).trans found) rfl

theorem afterStep_cases (l : Link H) (n : Nat) (e : Event) :
    (afterStep (l.apply n e).2 = .waiting ∧ e.isTerminal = false) ∨
      ∃ c, afterStep (l.apply n e).2 = .calling c ∧ c.isLast = e.isTerminal := by
  cases e with
  | opened | message | closing =>
      simp only [Link.apply]
      split <;> simp [afterStep, Event.isTerminal, Callback.isLast]
  | closed =>
      simp only [Link.apply]
      split <;> simp [afterStep, Event.isTerminal, Callback.isLast]
  | failure => simp [Link.apply, afterStep, Event.isTerminal, Callback.isLast]

theorem AtRest.unfound (rest : t.AtRest) (found : t.attempt? n = some a)
    (waiting : a.dispatcher = .waiting) : ¬ a.Finds e b := by
  intro finds
  have idle := rest n
  simp only [isIdle, found, waiting] at idle
  cases finds with
  | event next => simp [next] at idle
  | abort woken => simp [woken] at idle

/-- All dispatchers but that of the current attempt are at rest anyway. -/
theorem Coherent.atRest_of_current (coherent : Coherent t)
    (idle : t.isIdle t.link.attempt = true) : t.AtRest := by
  intro n
  cases found : t.attempt? n with
  | none => simp [isIdle, found]
  | some a =>
      by_cases done : a.dispatcher = .done
      · simp [isIdle, found, done]
      · exact coherent.number_eq found done ▸ idle

/-! ## What a handler leaves to its dispatcher -/

theorem work?_cases (left : t.work? n = some work) : ∃ a, t.attempt? n = some a ∧ a.work = work :=
  Option.map_eq_some_iff.mp left

theorem work?_setDispatcher {events : List Event} {d : Dispatcher}
    (left : t.work? n = some (events, d)) (d' : Dispatcher) :
    (t.setDispatcher n d').work? n = some (events, d') := by
  obtain ⟨a, found, rfl, _⟩ := by simpa [Attempt.work] using work?_cases left
  simp [work?, setDispatcher, attempt?_update, found, Attempt.work]

theorem work?_extend (left : t.work? n = some work) (l : Link H) (more : List (Attempt H)) :
    { t with link := l, attempts := t.attempts ++ more }.work? n = some work := by
  obtain ⟨a, found, rfl⟩ := work?_cases left
  rw [work?, attempt?_extend found l more]
  rfl

theorem work?_relink (t : Transport H) (change : Link H × List Effect) (n : Nat) :
    (t.relink change).1.work? n = t.work? n := by
  rw [relink, work?_carryOutAll, work?, attempt?_relink, work?]

theorem work?_perform (left : t.work? n = some work) (op : Operation H) :
    (t.perform op).1.work? n = some work := by
  have sent (f : Frame) : (t.sendFrame f).1.work? n = t.work? n := by
    unfold sendFrame
    split
    · rfl
    · split
      · exact work?_carryOut t (.command _ _) n
      · rfl
  cases op with
  | connect h =>
      simp only [perform, Transport.run, connect]
      split
      · exact work?_extend left _ _
      · exact (work?_relink t (_, []) n).trans left
  | send payload isBinary =>
      simp only [perform, Transport.run, send]
      split
      · exact left
      · exact (sent _).trans left
  | sendFrame f => exact (sent f).trans left
  | close | abort => exact (work?_relink t _ n).trans left
  | isOpen => exact left

theorem work?_launchBegun (left : t.work? n = some work) (launched : work.2 ≠ .begun) :
    t.launchBegun.1.work? n = some work := by
  obtain ⟨a, found, rfl⟩ := work?_cases left
  rw [launchBegun_eq]
  split
  · rename_i begun
    have other : t.link.attempt ≠ n := by
      rintro rfl
      exact launched (Option.some.inj ((congrArg _ found).symm.trans begun))
    simp only [work?, setDispatcher, attempt?_update, if_neg other, found]
    rfl
  · exact left

theorem work?_act (left : t.work? n = some work) (launched : work.2 ≠ .begun) (op : Operation H) :
    (t.act op).1.work? n = some work :=
  work?_launchBegun (work?_perform left op) launched

/-- Whatever a handler does, it takes nothing of what is left to its dispatcher. -/
theorem work?_follow (left : t.work? n = some work) (launched : work.2 ≠ .begun)
    (actions : List (Action H)) : (t.follow actions).1.work? n = some work := by
  induction actions generalizing t with
  | nil => exact left
  | cons action rest ih =>
      cases action with
      | fail message => exact left
      | perform op required =>
          simp only [follow]
          split
          · exact work?_act left launched op
          · exact ih (work?_act left launched op)

theorem dispatcher?_of_work? {events : List Event} {d : Dispatcher}
    (left : t.work? n = some (events, d)) : t.dispatcher? n = some d := by
  obtain ⟨a, found, same⟩ := work?_cases left
  simp [Transport.dispatcher?, found, ← (Prod.mk.inj same).2]

/-- The callback of attempt `n` returns, and its dispatcher does what is left to do after it. -/
def returned (t : Transport H) (n : Nat) (failure : Option Error) : Transport H :=
  ((((t.finish n failure).map Prod.fst).getD t).afterwards n).1

section returned

variable {events : List Event} {c : Callback} (left : t.work? n = some (events, .calling c))
  (failure : Option Error)

include left

theorem work?_finish : (((t.finish n failure).map Prod.fst).getD t).work? n =
    some (events, afterCallback c failure) := by
  unfold finish
  rw [dispatcher?_of_work? left]
  exact work?_setDispatcher left _

theorem work?_returned (unended : c.isLast = false) :
    (t.returned n failure).work? n = some (events, .waiting) := by
  have finished := work?_finish left failure
  unfold returned
  generalize ((t.finish n failure).map Prod.fst).getD t = u at finished
  unfold afterwards abortFailed settle
  rw [dispatcher?_of_work? finished]
  cases c with
  | onDisconnect => cases unended
  | onConnect | onMessage =>
      cases failure with
      | none => exact finished
      | some e => exact (work?_relink _ _ n).trans (work?_setDispatcher finished .waiting)

end returned

theorem settle_cases (l : Link H) (n : Nat) :
    ((l.settle n).2 = none ∧ (l.settle n).1.attempt = l.attempt) ∨
      ∃ h, (l.settle n).2 = some h ∧ (l.settle n).1.attempt = l.attempt + 1 := by
  unfold Link.settle
  split
  · cases l.deferred with
    | none => exact .inl ⟨rfl, rfl⟩
    | some h => exact .inr ⟨h, rfl, rfl⟩
  · exact .inl ⟨rfl, rfl⟩

/-- When the current attempt has settled, the current one is at rest, be it this one or the next. -/
theorem isIdle_succeed (count : t.attempts.length = t.link.attempt) (current : n = t.link.attempt)
    (done : t.dispatcher? n = some .done) :
    (t.succeed n).launchBegun.1.isIdle (t.succeed n).launchBegun.1.link.attempt = true := by
  obtain ⟨a, found, standing⟩ := dispatcher?_cases done
  rw [launchBegun_eq]
  rcases settle_cases t.link n with ⟨_, number⟩ | ⟨h, next, number⟩
  · have same : (t.succeed n).link.attempt = n := number.trans current.symm
    have found' : (t.succeed n).attempt? n = some a := attempt?_extend found _ _
    simp [Transport.dispatcher?, isIdle, same, found', standing]
  · have found' : (t.succeed n).attempt? (t.succeed n).link.attempt = some (.ofHandler h) := by
      simp only [succeed, number, next, attempt?]
      simp [← count]
    simp [Transport.dispatcher?, isIdle, found', setDispatcher, link_update, attempt?_update,
      Attempt.ofHandler, Attempt.next?]

theorem isIdle_returned {events : List Event} {c : Callback}
    (left : t.work? n = some (events, .calling c)) (failure : Option Error) (last : c.isLast = true)
    (coherent : Coherent t) :
    (t.returned n failure).isIdle (t.returned n failure).link.attempt = true := by
  have finished := work?_finish left failure
  unfold returned
  have coherent := (leads_finish t n failure).coherent coherent
  generalize ((t.finish n failure).map Prod.fst).getD t = u at finished coherent
  cases c with
  | onConnect | onMessage => cases last
  | onDisconnect clean =>
      have settling : u.dispatcher? n = some .settling := dispatcher?_of_work? finished
      obtain ⟨a, found, standing⟩ := dispatcher?_cases settling
      have settled : (u.afterwards n).1 = ((u.update n
          ({ · with events := [], dispatcher := .done })).succeed n).launchBegun.1 := by
        simp only [afterwards, abortFailed, settle, settling, succeed, link_update]
      rw [settled]
      apply isIdle_succeed
      · rw [length_update, link_update, coherent.count]
      · rw [link_update]
        exact coherent.number_eq found (by simp [standing])
      · simp [Transport.dispatcher?, attempt?_update, found]

end Transport

namespace Scripted

open Transport

variable {H : Type} [DecidableEq H] {s u : Scripted H} {sight : Sight H} {n : Nat}

def meet (s : Scripted H) (n : Nat) (e : Event) (b : Attempt H) : Scripted H × Sight H :=
  { s with transport := s.transport.applied n e b }.respond n

theorem Round.found (round : Round s sight u) : ∃ n a e b, s.transport.attempt? n = some a ∧
    a.dispatcher = .waiting ∧ a.Finds e b ∧ Leads s.transport (s.transport.applied n e b) ∧
    u = (s.meet n e b).1 ∧ sight = (s.meet n e b).2 := by
  cases round with
  | @made n t v notes first applied =>
      have leads := leads_applied first applied
      rcases first with taken | noticed
      · cases take_moved taken with
        | dispatched found moved =>
            cases moved with
            | taken e rest waiting next =>
                obtain rfl := applied_eq found rfl applied
                exact ⟨n, _, e, _, found, waiting, .event next, leads, rfl, rfl⟩
        | socketed _ moved => cases moved
      · cases notice_moved noticed with
        | dispatched found moved =>
            cases moved with
            | noticed waiting woken =>
                obtain rfl := applied_eq found rfl applied
                exact ⟨n, _, .aborted, _, found, waiting, .abort woken, leads, rfl, rfl⟩
        | socketed _ moved => cases moved

theorem not_round_of_atRest (rest : s.transport.AtRest) : ¬ Round s sight u := by
  intro round
  obtain ⟨n, a, e, b, found, waiting, finds, _⟩ := round.found
  exact rest.unfound found waiting finds

theorem respond_waiting (waiting : s.transport.dispatcher? n = some .waiting) :
    s.respond n = (s, .nothing) := by
  obtain ⟨a, found, standing⟩ := dispatcher?_cases waiting
  simp [respond, found, standing]

theorem respond_calling {a : Attempt H} {c : Callback} (found : s.transport.attempt? n = some a)
    (calling : a.dispatcher = .calling c) : s.respond n = s.carryOut n a.handler c := by
  simp [respond, found, calling]

/-! ## Turns come to an end -/

/-- After a round all is at rest, or the dispatcher of the current attempt has one event less to
    meet. -/
theorem Round.outcome (round : Round s sight u) (coherent : Coherent s.transport) :
    u.transport.AtRest ∨ ∃ a events, s.transport.attempt? s.transport.link.attempt = some a ∧
      a.events.length = events.length + 1 ∧
      u.transport.work? s.transport.link.attempt = some (events, .waiting) := by
  obtain ⟨n, a, e, b, found, waiting, finds, leads, rfl, rfl⟩ := round.found
  obtain rfl := coherent.number_eq found (by simp [waiting])
  generalize s.transport.link.attempt = n at *
  have met := attempt?_applied (e := e) (b := b) found
  rcases afterStep_cases s.transport.link n e with ⟨ignored, unended⟩ | ⟨c, called, last⟩
  · rw [ignored] at met
    refine .inr ⟨a, b.events, found, finds.shorter unended, ?_⟩
    rw [meet, respond_waiting (by simp [Transport.dispatcher?, met])]
    simp [work?, met, Attempt.work]
  · rw [called] at met
    have left : (s.transport.applied n e b).work? n = some (b.events, .calling c) := by
      simp [work?, met, Attempt.work]
    rw [meet, respond_calling (s := { s with transport := s.transport.applied n e b }) met rfl]
    have followed := work?_follow left (by simp) ((s.script b.handler).next c).1
    have applied := leads.coherent coherent
    have followed' := (leads_follow ((s.script b.handler).next c).1 _).coherent applied
    cases terminal : e.isTerminal with
    | true =>
        exact .inl (Coherent.atRest_of_current ((leads_carryOut _ n _ c).coherent applied)
          (isIdle_returned followed _ (last.trans terminal) followed'))
    | false =>
        exact .inr ⟨a, b.events, found, finds.shorter terminal,
          work?_returned followed _ (last.trans terminal)⟩

theorem round?_eq (s : Scripted H) (n : Nat) : s.round? n = (s.transport.advance? n).bind fun t =>
    (t.attempt? n).map fun _ => { s with transport := t }.respond n := by
  unfold round?
  cases s.transport.advance? n with
  | none => rfl
  | some t =>
      cases found : t.attempt? n with
      | none => simp [found]
      | some a =>
          simp only [found, respond, Option.map_some, Option.bind_eq_bind, Option.bind_some,
            Option.pure_def]
          generalize a.dispatcher = d
          cases d <;> rfl

theorem round?_round (made : s.round? n = some (u, sight)) : Round s sight u := by
  rw [round?_eq] at made
  obtain ⟨t, advanced, made⟩ := Option.bind_eq_some_iff.mp made
  obtain ⟨a, _, same⟩ := Option.map_eq_some_iff.mp made
  obtain ⟨v, first, applying⟩ := Option.bind_eq_some_iff.mp advanced
  obtain ⟨⟨w, notes⟩, applied, kept⟩ := Option.bind_eq_some_iff.mp applying
  obtain rfl := Option.some.inj kept
  have found : s.transport.take n = some v ∨ s.transport.notice n = some v := by
    cases noticed : s.transport.notice n with
    | some v' => exact .inr (by simpa [noticed] using first)
    | none => exact .inl (by simpa [noticed] using first)
  have round := Round.made found applied
  rwa [same] at round

theorem isIdle_of_round?_none {a : Attempt H} (found : s.transport.attempt? n = some a)
    (waiting : a.dispatcher = .waiting) (unmade : s.round? n = none) :
    s.transport.isIdle n = true := by
  have goes_on {t : Transport H} {b : Attempt H} {e : Event}
      (first : (s.transport.notice n <|> s.transport.take n) = some t)
      (found : t.attempt? n = some b) (held : b.dispatcher = .holding e) : False := by
    simp [round?_eq, advance?, first, applyHeld, found, held, setDispatcher, attempt?_update,
      attempt?_relink] at unmade
  have unwoken : a.woken = false := by
    refine Bool.eq_false_iff.mpr fun woken => ?_
    have noticed : s.transport.notice n = some (s.transport.update n
        ({ · with woken := false, dispatcher := .holding .aborted })) := by
      simp [notice, found, waiting, woken]
    exact goes_on (by rw [noticed]; rfl) (by rw [attempt?_update, if_pos rfl, found]; rfl) rfl
  have eventless : a.next? = none := by
    refine Option.eq_none_iff_forall_ne_some.mpr ?_
    rintro ⟨e, rest⟩ next
    have unnoticed : s.transport.notice n = none := by simp [notice, found, unwoken]
    have taken : s.transport.take n = some (s.transport.update n
        ({ · with events := rest, dispatcher := .holding e })) := by
      simp [take, found, waiting, next]
    exact goes_on (by rw [unnoticed, taken]; rfl) (by rw [attempt?_update, if_pos rfl, found]; rfl) rfl
  simp [isIdle, found, waiting, unwoken, eventless]

theorem rounds_of_atRest (rest : s.transport.AtRest) (n k : Nat) : rounds n k s = (s, .nothing) := by
  cases k with
  | zero => rfl
  | succ k =>
      cases made : s.round? n with
      | none => simp [rounds, made]
      | some next => exact absurd (round?_round made) (not_round_of_atRest rest)

theorem works_rounds (n k : Nat) (rest : (rounds n k s).1.transport.AtRest) :
    Works s (rounds n k s).2 (rounds n k s).1 := by
  induction k generalizing s with
  | zero => exact .rest rest
  | succ k ih =>
      cases made : s.round? n with
      | none =>
          simp only [rounds, made] at rest ⊢
          exact .rest rest
      | some next =>
          simp only [rounds, made] at rest ⊢
          exact .round (round?_round made) (ih rest)

theorem atRest_rounds {events : List Event} (coherent : Coherent s.transport)
    (left : s.transport.work? n = some (events, .waiting)) {k : Nat} (enough : events.length < k) :
    (rounds n k s).1.transport.AtRest := by
  induction k generalizing s events with
  | zero => cases enough
  | succ k ih =>
      obtain ⟨a, found, same⟩ := work?_cases left
      obtain ⟨rfl, waiting⟩ := Prod.mk.inj same
      have number := coherent.number_eq found (by simp [waiting])
      cases made : s.round? n with
      | none =>
          simp only [rounds, made]
          exact coherent.atRest_of_current (number ▸ isIdle_of_round?_none found waiting made)
      | some next =>
          obtain ⟨u, sight⟩ := next
          have round := round?_round made
          simp only [rounds, made]
          rcases round.outcome coherent with rest | ⟨a', events, found', shorter, left'⟩
          · rwa [rounds_of_atRest rest]
          · rw [← number] at found' left'
            obtain rfl := Option.some.inj (found.symm.trans found')
            exact ih (round.leads.coherent coherent) left' (by omega)

end Scripted

/-! ## Dispatchers before their turn -/

namespace Transport

variable {H : Type} {t : Transport H} {n : Nat}

/-- All dispatchers wait for events or are done, as they are while callers and sockets act. -/
def Ready (t : Transport H) : Prop :=
  ∀ n a, t.attempt? n = some a → a.dispatcher = .waiting ∨ a.dispatcher = .done

theorem AtRest.ready (rest : t.AtRest) : Ready t := by
  intro n a found
  have idle := rest n
  simp only [isIdle, found] at idle
  cases standing : a.dispatcher <;> simp_all

theorem Ready.update (ready : Ready t) (n : Nat) {f : Attempt H → Attempt H}
    (same : ∀ a, (f a).dispatcher = a.dispatcher) : Ready (t.update n f) := by
  intro k b found
  rw [attempt?_update] at found
  split at found
  · obtain ⟨a, before, rfl⟩ := Option.map_eq_some_iff.mp found
    rw [same]
    exact ready k a before
  · exact ready k b found

theorem Ready.act (ready : Ready t) (coherent : Coherent t) (op : Operation H) :
    Ready (t.act op).1 := by
  intro k b found
  cases before : t.attempt? k with
  | some a =>
      have standing := ready k a before
      have left : t.work? k = some a.work := by simp [work?, before]
      have kept := work?_act left (by rcases standing with d | d <;> simp [Attempt.work, d]) op
      have same : b.work = a.work := by simpa [work?, found] using kept
      have dispatcher : b.dispatcher = a.dispatcher := congrArg Prod.snd same
      rwa [dispatcher]
  | none =>
      have performed := step?_perform t op
      have coherent' := (Leads.move _ performed).coherent coherent
      change (t.perform op).1.launchBegun.1.attempt? k = some b at found
      have born {c : Attempt H} (there : (t.perform op).1.attempt? k = some c) :
          ∃ h, c = .ofHandler h := by
        obtain ⟨h, shows, _⟩ := (coherent.step?_change performed).born coherent before there
        exact ⟨h, (shows.attempt_eq there).symm⟩
      rw [launchBegun_eq] at found
      split at found
      · rw [setDispatcher, attempt?_update] at found
        split at found
        · obtain ⟨c, _, rfl⟩ := Option.map_eq_some_iff.mp found
          exact .inl rfl
        · rename_i other
          obtain ⟨h, rfl⟩ := born found
          exact absurd (coherent'.number_eq found (by simp [Attempt.ofHandler])).symm other
      · rename_i launched
        obtain ⟨h, rfl⟩ := born found
        have number := coherent'.number_eq found (by simp [Attempt.ofHandler])
        rw [← number] at launched
        simp [Transport.dispatcher?, found, Attempt.ofHandler] at launched

theorem Ready.stimulate (ready : Ready t) (coherent : Coherent t) (x : Stimulus H) :
    Ready (t.stimulate x).1 := by
  cases x with
  | perform op => exact ready.act coherent op
  | emit n e =>
      simp only [Transport.stimulate, emit]
      split
      · split
        · exact ready
        · split
          · exact ready
          · split
            · exact ready
            · exact ready.update n fun _ => rfl
      · exact ready
  | drop n events commands =>
      have ended : Ready (if events then t.endEvents n else t) := by
        split
        · exact ready.update n fun _ => rfl
        · exact ready
      simp only [Transport.stimulate, drop]
      split
      · cases commands with
        | true => exact ended.update n fun _ => rfl
        | false => exact ended
      · exact ready

theorem Ready.stimulateAll (ready : Ready t) (coherent : Coherent t) (stimuli : List (Stimulus H)) :
    Ready (t.stimulateAll stimuli).1 := by
  induction stimuli generalizing t with
  | nil => exact ready
  | cons x rest ih =>
      exact ih (ready.stimulate coherent x) ((leads_stimulate t x).coherent coherent)

end Transport

namespace Scripted

open Transport

variable {H : Type} [DecidableEq H] {s : Scripted H}

theorem atRest_dispatch (coherent : Coherent s.transport) (ready : Ready s.transport) :
    s.dispatch.1.transport.AtRest := by
  have settled (idle : s.transport.isIdle s.transport.link.attempt = true) :
      s.dispatch.1.transport.AtRest := by
    have rest := coherent.atRest_of_current idle
    rw [dispatch, rounds_of_atRest rest]
    exact rest
  cases found : s.transport.attempt? s.transport.link.attempt with
  | none => exact settled (by simp [isIdle, found])
  | some a =>
      rcases ready _ a found with waiting | done
      · have left : s.transport.work? s.transport.link.attempt = some (a.events, .waiting) := by
          simp [work?, found, Attempt.work, waiting]
        exact atRest_rounds coherent left (by simp [found])
      · exact settled (by simp [isIdle, found, done])

/-- The scripted transport takes one of the turns, whatever is done from outside. So what holds of
    all turns holds of it, and it never stops with something left to do. -/
theorem turns_turn (coherent : Coherent s.transport) (rest : s.transport.AtRest)
    (stimuli : List (Stimulus H)) :
    Turns s stimuli ⟨s.transport.heard stimuli,
      Transport.answers stimuli (s.turn stimuli).2.responses, (s.turn stimuli).2.sight,
      (s.turn stimuli).2.commands⟩ (s.turn stimuli).1 := by
  have stimulated := (leads_stimulateAll stimuli s.transport).coherent coherent
  have ready := rest.ready.stimulateAll coherent stimuli
  exact .taken (works_rounds _ _ (atRest_dispatch (s := { s with transport := _ }) stimulated ready))

end Scripted

end WampClient
