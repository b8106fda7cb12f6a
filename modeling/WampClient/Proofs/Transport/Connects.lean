import WampClient.Proofs.Transport.Rest

/-! # Connects and their attempts

Each connect that is not ignored has one attempt made for it, at once or when the current attempt
has settled. The attempts are launched in the order of these connects and numbered without gaps.
-/

namespace WampClient.Transport

variable {H : Type} {t v : Transport H} {n : Nat} {a : Attempt H} {settings : Settings}
  {seen notes : History H}

def numbered (handlers : List H) : List (Nat × H) :=
  handlers.mapIdx fun k h => (k + 1, h)

theorem numbered_append (handlers : List H) (h : H) :
    numbered (handlers ++ [h]) = numbered handlers ++ [(handlers.length + 1, h)] :=
  List.mapIdx_concat

theorem numbered_prefix {some_ all : List H} (first : some_ <+: all) :
    numbered some_ <+: numbered all := by
  obtain ⟨rest, rfl⟩ := first
  exact ⟨_, List.mapIdx_append.symm⟩

theorem mem_numbered {handlers : List H} {h : H} :
    (n + 1, h) ∈ numbered handlers ↔ handlers[n]? = some h := by
  simp [numbered, List.mem_mapIdx, List.getElem?_eq_some_iff]

namespace Life

variable {h : H} {l m : Life H}

theorem Step.handler (step : Step n l notes m) : m.attempt.handler = l.attempt.handler := by
  cases step <;> simp [on, cancel]

theorem Run.handler (run : Run n h seen l) : l.attempt.handler = h := by
  induction run with
  | begun => rfl
  | step _ step ih => exact step.handler.trans ih

theorem Run.called_handler {h' : H} {c : Callback} (run : Run n h seen l)
    (called : .called n h' c ∈ seen) : h' = h := by
  induction run with
  | begun => cases called
  | @step seen more l m before step ih =>
      rcases List.mem_append.mp called with earlier | now
      · exact ih earlier
      · have handler := before.handler
        cases step <;> simp_all

theorem isLaunched_congr {b : Attempt H} (same : b.dispatcher = a.dispatcher) :
    b.isLaunched = a.isLaunched := by
  rw [Attempt.isLaunched, same, Attempt.isLaunched]

theorem Step.launches (step : Step n l notes m) :
    (notes.launches = [] ∧ m.attempt.isLaunched = l.attempt.isLaunched) ∨
      (l.attempt.isLaunched = false ∧ m.attempt.isLaunched = true ∧ m.phase = l.phase ∧
        notes.launches = [(n, l.attempt.handler)]) := by
  have quiet (same : m.attempt.isLaunched = l.attempt.isLaunched)
      (silent : ∀ h handshake, .launched n h handshake ∉ notes) :
      notes.launches = [] ∧ m.attempt.isLaunched = l.attempt.isLaunched := by
    refine ⟨List.filterMap_eq_nil_iff.mpr fun note member => ?_, same⟩
    have about := step.about note member
    cases note with
    | launched k h handshake =>
        obtain rfl : k = n := Option.some.inj about
        exact absurd member (silent h handshake)
    | _ => rfl
  cases step with
  | launched _ begun => exact .inr (by simp [Attempt.isLaunched, begun, on, History.launches])
  | observed | sent | emitted | eventsEnded | commandsEnded | received =>
      exact .inl (quiet (isLaunched_congr (by simp [on])) (by simp))
  | asked | aborted => exact .inl (quiet (isLaunched_congr (by simp [cancel])) (by simp))
  | cutShort failed =>
      exact .inl (quiet (by simp [Attempt.isLaunched, on, cancel, failed]) (by simp))
  | returned c failure calling =>
      refine .inl (quiet ?_ (by simp))
      cases c <;> cases failure <;> simp [Attempt.isLaunched, on, afterCallback, calling]
  | taken _ _ standing | noticed standing | connected standing | delivered _ standing
  | peerClosed _ _ standing | ignored _ standing | ended _ standing | wasAborted standing
  | settled standing => exact .inl (quiet (by simp [Attempt.isLaunched, on, standing]) (by simp))

theorem Step.admissions (step : Step n l notes m) : notes.admissions = [] := by
  have none_told : notes.connects = [] := by
    apply List.filterMap_eq_nil_iff.mpr
    intro note member
    have about := step.about note member
    cases note <;> first | rfl | cases about
  rw [History.admissions, none_told]
  rfl

theorem Run.settling_of_returned {clean : Bool} {failure : Option Error} (run : Run n h seen l)
    (returned : .returned n (.onDisconnect clean) failure ∈ seen) :
    l.attempt.dispatcher = .settling ∨ l.attempt.dispatcher = .done := by
  induction run with
  | begun => cases returned
  | @step seen more l m before step ih =>
      rcases List.mem_append.mp returned with earlier | now
      · have standing := ih earlier
        cases step <;> simp_all [on, cancel]
      · cases step with
        | returned =>
            cases List.mem_singleton.mp now
            exact .inl rfl
        | _ => simp at now

end Life

theorem admissions_append (a b : History H) :
    History.admissions (a ++ b) = History.admissions a ++ History.admissions b := by
  rw [History.admissions, History.connects_append, List.filterMap_append]
  rfl

def handlers (t : Transport H) : List H :=
  t.attempts.map (·.handler)

def launchCount (t : Transport H) : Nat :=
  match t.attempt? t.link.attempt with
  | some a => if a.isLaunched then t.link.attempt else t.link.attempt - 1
  | none => 0

/-- What has come of the connects so far. Only the current attempt can have begun without being
    launched, and only one connect can wait. -/
structure Accounted (seen : History H) (t : Transport H) : Prop where
  admitted : seen.admissions = t.handlers ++ t.link.deferred.toList
  launched : seen.launches = numbered (t.handlers.take t.launchCount)

theorem handlers_update {f : Attempt H → Attempt H} (found : t.attempt? n = some a)
    (same : (f a).handler = a.handler) : (t.update n f).handlers = t.handlers := by
  cases n with
  | zero => rfl
  | succ n =>
      apply List.ext_getElem?
      intro k
      simp only [handlers, update, List.getElem?_map, List.getElem?_modify]
      split
      · subst k
        simp only [attempt?] at found
        simp [found, same]
      · simp

theorem handlers_turn {l m : Life H} (shows : t.Shows t.link.attempt l)
    (step : Life.Step t.link.attempt l notes m) : (t.turn m).handlers = t.handlers := by
  rw [turn, handlers_update (attempt?_relink .. |>.trans shows.1) step.handler]
  rfl

theorem launchCount_eq (found : t.attempt? t.link.attempt = some a) :
    t.launchCount = if a.isLaunched then t.link.attempt else t.link.attempt - 1 := by
  rw [launchCount, found]

theorem Coherent.length_handlers (coherent : Coherent t) : t.handlers.length = t.link.attempt := by
  rw [handlers, List.length_map, coherent.count]

theorem Coherent.handlers_current (coherent : Coherent t)
    (found : t.attempt? t.link.attempt = some a) :
    numbered t.handlers =
      numbered (t.handlers.take (t.link.attempt - 1)) ++ [(t.link.attempt, a.handler)] := by
  have length := coherent.length_handlers
  cases number : t.link.attempt with
  | zero =>
      rw [number] at found
      cases found
  | succ k =>
      rw [number] at found length
      have last : t.handlers[k]? = some a.handler := by
        rw [attempt?] at found
        simp [handlers, found]
      calc numbered t.handlers
          = numbered (t.handlers.take (k + 1)) := by rw [← length, List.take_length]
        _ = numbered (t.handlers.take k ++ [a.handler]) := by rw [List.take_add_one, last]; rfl
        _ = numbered (t.handlers.take k) ++ [(k + 1, a.handler)] := by
          rw [numbered_append, List.length_take, length, Nat.min_eq_left (Nat.le_succ k)]

theorem Accounted.step {l m : Life H} (accounted : Accounted seen t) (coherent : Coherent t)
    (shows : t.Shows n l) (step : Life.Step n l notes m) (found : v.attempt? n = some m.attempt)
    (others : ∀ k, k ≠ n → v.attempt? k = t.attempt? k) (same : v.handlers = t.handlers)
    (number : v.link.attempt = t.link.attempt) :
    History.launches (seen ++ notes) = numbered (v.handlers.take v.launchCount) := by
  rw [History.launches_append, accounted.launched, same]
  rcases step.launches with ⟨nothing, still⟩ | ⟨before, after, _, launched⟩
  · have count : v.launchCount = t.launchCount := by
      rw [launchCount, launchCount, number]
      by_cases current : t.link.attempt = n
      · rw [current, found, shows.1]
        simp only [still]
      · rw [others _ current]
    rw [nothing, List.append_nil, count]
  · obtain rfl := coherent.number_eq shows.1 fun done => by simp [Attempt.isLaunched, done] at before
    rw [launched, launchCount_eq shows.1, launchCount_eq (number.symm ▸ found), number, before,
      after, if_pos rfl, if_neg Bool.false_ne_true, ← coherent.length_handlers, List.take_length,
      coherent.length_handlers, coherent.handlers_current shows.1]

theorem handlers_begin (t : Transport H) (h : H) : (t.begin h).handlers = t.handlers ++ [h] := by
  simp [handlers, begin, Attempt.ofHandler]

theorem take_begin (count : t.attempts.length = t.link.attempt) (h : H) :
    (t.begin h).handlers.take (t.begin h).launchCount = t.handlers := by
  have found : (t.begin h).attempt? (t.begin h).link.attempt = some (.ofHandler h) := by
    rw [attempt?_begin count]
    exact if_pos rfl
  have unlaunched : (t.begin h).launchCount = t.handlers.length := by
    rw [launchCount_eq found, handlers, List.length_map, count]
    rfl
  rw [unlaunched, handlers_begin, List.take_left]

theorem take_launched (count : t.attempts.length = t.link.attempt)
    (found : t.attempt? t.link.attempt = some a) (launched : a.isLaunched = true) :
    t.handlers.take t.launchCount = t.handlers := by
  rw [launchCount_eq found, if_pos launched, ← count]
  exact List.take_of_length_le (Nat.le_of_eq (List.length_map ..))

theorem Coherent.take_handlers (coherent : Coherent t)
    (ended : t.link.phase = .idle ∨ t.link.phase = .closed) :
    t.handlers.take t.launchCount = t.handlers := by
  by_cases begun : t.link.attempt = 0
  · have none_begun : t.handlers = [] :=
      List.eq_nil_of_length_eq_zero (coherent.length_handlers.trans begun)
    rw [none_begun, List.take_nil]
  · obtain ⟨a, found⟩ := coherent.exists_current begun
    have stands := (coherent.current_sound found).stands
    have done : a.dispatcher = .done := by
      rcases ended with idle | closed
      · exact absurd idle stands.begun
      · simpa [current, closed, Life.Stands] using stands
    exact take_launched coherent.count found (by simp [Attempt.isLaunched, done])

theorem Coherent.free_of_ended (coherent : Coherent t)
    (ended : t.link.phase = .idle ∨ t.link.phase = .closed) : t.link.deferred = none := by
  apply Classical.byContradiction
  intro waits
  have draining := coherent.deferred waits
  rcases ended with phase | phase <;> cases draining.symm.trans phase

theorem Change.accounted (change : Change t notes v) (coherent : Coherent t)
    (accounted : Accounted seen t) : Accounted (seen ++ notes) v := by
  obtain ⟨admitted, launched⟩ := id accounted
  cases change with
  | @touched n a _ f found step =>
      obtain ⟨l, shows, _⟩ := coherent.lives n a found
      have step := step l shows
      have same := handlers_update (f := f) found (shows.attempt_eq found ▸ step.handler)
      refine ⟨?_, accounted.step coherent shows step shows.update.1 ?_ same (by rw [link_update])⟩
      · rw [admissions_append, step.admissions, List.append_nil, admitted, same, link_update]
      · intro k other
        rw [attempt?_update, if_neg (Ne.symm other)]
  | @turned l m _ shows step waiting =>
      have same := handlers_turn shows step
      refine ⟨?_, accounted.step coherent shows step shows.turn.1 ?_ same (by rw [link_turn]; rfl)⟩
      · rw [admissions_append, step.admissions, List.append_nil, admitted, same, link_turn]
        rfl
      · intro k other
        rw [attempt?_turn shows.1, if_neg other]
  | rested op answer =>
      refine ⟨?_, ?_⟩
      · rw [admissions_append, admitted]
        exact List.append_nil _
      · rw [History.launches_append, launched]
        exact List.append_nil _
  | started h ended =>
      have free := coherent.free_of_ended ended
      refine ⟨?_, ?_⟩
      · rw [admissions_append, admitted, handlers_begin, free]
        simp [connectNotes, History.admissions, History.connects, begin, Link.start]
      · rw [History.launches_append, launched, take_begin coherent.count, coherent.take_handlers ended]
        exact List.append_nil _
  | deferred h draining free =>
      refine ⟨?_, ?_⟩
      · rw [admissions_append, admitted, free, Option.toList_none, List.append_nil]
        rfl
      · rw [History.launches_append, launched]
        exact List.append_nil _
  | refused h busy =>
      refine ⟨?_, ?_⟩
      · rw [admissions_append, admitted]
        exact List.append_nil _
      · rw [History.launches_append, launched]
        exact List.append_nil _
  | @succeeded l m _ h waits shows step closed =>
      have same := handlers_turn shows step
      have count := count_turn (m := m) coherent.count
      have number : (t.turn m).link.attempt = t.link.attempt := by rw [link_turn]; rfl
      have launches := accounted.step coherent shows step shows.turn.1
        (fun k other => by rw [attempt?_turn shows.1, if_neg other]) same number
      refine ⟨?_, ?_⟩
      · rw [admissions_append, step.admissions, List.append_nil, admitted, handlers_begin, same, waits]
        simp [begin, Link.start]
      · have stands := (step.sound (shows.eq_current ▸ coherent.current_sound shows.1)).stands
        have done : m.attempt.dispatcher = .done := by simpa [closed, Life.Stands] using stands
        rw [launches, take_begin count, take_launched count (number.symm ▸ shows.turn.1)]
        simp [Attempt.isLaunched, done]

theorem Reaches.accounted (reached : Reaches settings seen t) : Accounted seen t := by
  induction reached with
  | refl => exact ⟨rfl, rfl⟩
  | step before m made ih =>
      have coherent := Reaches.coherent before
      exact (coherent.step?_change made).accounted coherent ih

/-! ## From a connect to its launch -/

def History.hasReturned (history : History H) (n : Nat) : Prop :=
  ∃ clean failure, .returned n (.onDisconnect clean) failure ∈ history

/-- These moves launch attempt `n + 1` for the handler. Until they are made, its dispatcher and that
    of the attempt before it have nothing else to do. -/
structure LaunchedBy (seen : History H) (t : Transport H) (n : Nat) (h : H)
    (moves : List (Move H)) : Prop where
  launches : ∃ v more, t.replay moves = some (v, more) ∧
    (n + 1, h) ∈ History.launches (seen ++ more)
  next : ∀ m, m.dispatches n = true ∨ m.dispatches (n + 1) = true → t.step? m ≠ none →
    moves = [] ∨ moves.head? = some m

/-- What becomes of the connects of a run. Each attempt was asked for by one connect, whose handler
    serves it, and the attempts come in the order in which they were asked for. -/
structure ConnectAccounting (seen : History H) (t : Transport H) : Prop where
  admits : ∀ h, ∃ admission u,
    t.step? (.perform (.connect h)) = some (u, t.connectNotes h admission) ∧ t.Admits h admission u
  /-- The attempts are launched in the order of the connects, none of them twice. -/
  ordered : seen.launches <+: numbered seen.admissions
  complete : t.isIdle t.link.attempt = true → seen.launches = numbered seen.admissions
  /-- A connect that an attempt was not made for yet waits for the call that tells the end of the
      current one. -/
  waits : ∀ n h, seen.admissions[n]? = some h → 0 < n → ¬ seen.hasReturned n →
    t.link.attempt = n ∧ t.link.phase = .draining ∧ t.link.deferred = some h
  /-- Once that call has returned, the dispatchers do nothing before the launch but to settle. -/
  due : ∀ n h, seen.admissions[n]? = some h → n = 0 ∨ seen.hasReturned n →
    ∃ moves, moves <:+ [.settle n, .launch (n + 1)] ∧ LaunchedBy seen t n h moves
  served : ∀ n h c, .called n h c ∈ seen → 0 < n ∧ seen.admissions[n - 1]? = some h

/-- The connect that attempt `n + 1` is made for has its attempt already, or it waits. -/
theorem Reaches.admission_cases {h : H} (reached : Reaches settings seen t)
    (admitted : seen.admissions[n]? = some h) :
    (∃ a, t.attempt? (n + 1) = some a ∧ a.handler = h) ∨
      (0 < n ∧ t.link.attempt = n ∧ t.link.phase = .draining ∧ t.link.deferred = some h) := by
  have coherent := reached.coherent
  have length := coherent.length_handlers
  rw [reached.accounted.admitted] at admitted
  by_cases begun : n < t.handlers.length
  · rw [List.getElem?_append_left begun, handlers, List.getElem?_map] at admitted
    exact .inl (Option.map_eq_some_iff.mp admitted)
  · rw [List.getElem?_append_right (Nat.le_of_not_lt begun)] at admitted
    cases waits : t.link.deferred with
    | none => simp [waits] at admitted
    | some k =>
        have draining := coherent.deferred (by simp [waits])
        have positive := coherent.begun (by simp [draining])
        obtain ⟨bound, same⟩ := List.getElem?_eq_some_iff.mp admitted
        simp only [waits, Option.toList_some, List.length_singleton] at bound same
        have here : t.link.attempt = n := by omega
        obtain rfl : k = h := by simpa using same
        exact .inr ⟨by omega, here, draining, rfl⟩

theorem Reaches.launched_mem (reached : Reaches settings seen t)
    (found : t.attempt? (n + 1) = some a) (launched : a.isLaunched = true) :
    (n + 1, a.handler) ∈ seen.launches := by
  have coherent := reached.coherent
  have bound : n < t.launchCount := by
    have begun := coherent.le_current found
    obtain ⟨b, current⟩ := coherent.exists_current (by omega)
    rw [launchCount_eq current]
    by_cases last : n + 1 = t.link.attempt
    · rw [← last, found] at current
      cases current
      rw [if_pos launched]
      omega
    · split <;> omega
  rw [reached.accounted.launched, mem_numbered, List.getElem?_take_of_lt bound, handlers,
    List.getElem?_map]
  exact Option.map_eq_some_iff.mpr ⟨a, found, rfl⟩

theorem step?_launch (found : t.attempt? n = some a) (begun : a.dispatcher = .begun) :
    t.step? (.launch n) =
      some (t.setDispatcher n .waiting, [.launched n a.handler t.settings.handshake]) := by
  simp [step?, launch, found, begun]

/-- An attempt that has begun was launched, or its launch is next. -/
theorem Reaches.launch_due (reached : Reaches settings seen t)
    (found : t.attempt? (n + 1) = some a) :
    ∃ moves, moves <:+ [.settle n, .launch (n + 1)] ∧ LaunchedBy seen t n a.handler moves := by
  cases launched : a.isLaunched with
  | true =>
      refine ⟨[], List.nil_suffix, ⟨t, [], rfl, ?_⟩, fun _ _ _ => .inl rfl⟩
      rw [List.append_nil]
      exact reached.launched_mem found launched
  | false =>
      have begun : a.dispatcher = .begun := by simpa [Attempt.isLaunched] using launched
      have last : n + 1 = t.link.attempt := reached.coherent.number_eq found (by simp [begun])
      have replayed : t.replay [.launch (n + 1)] = some (t.setDispatcher (n + 1) .waiting,
          [.launched (n + 1) a.handler t.settings.handshake]) := by
        rw [replay, step?_launch found begun]
        rfl
      refine ⟨_, List.suffix_cons .., ⟨_, _, replayed, by simp [History.launches]⟩, ?_⟩
      intro m own possible
      obtain ⟨⟨u, notes⟩, made⟩ := Option.ne_none_iff_exists'.mp possible
      rcases own with before | own
      · obtain ⟨b, there, moved⟩ := step?_dispatched before made
        have number := reached.coherent.number_eq there moved.only.2.2.2
        omega
      · obtain ⟨b, there, moved⟩ := step?_dispatched own made
        obtain rfl : b = a := Option.some.inj (there.symm.trans found)
        exact .inr (by rw [moved.only.1 begun]; rfl)

/-- Where a connect waits, the attempt that has told its end settles and the next one is launched. -/
theorem Reaches.settle_due {h : H} (reached : Reaches settings seen t)
    (draining : t.link.phase = .draining) (waits : t.link.deferred = some h)
    (returned : seen.hasReturned t.link.attempt) :
    LaunchedBy seen t t.link.attempt h [.settle t.link.attempt, .launch (t.link.attempt + 1)] := by
  have coherent := reached.coherent
  obtain ⟨a, found⟩ := coherent.exists_current (coherent.begun (by simp [draining]))
  have settling : a.dispatcher = .settling := by
    obtain ⟨_, l, run, shows⟩ := reached.life found
    obtain ⟨clean, failure, member⟩ := returned
    have standing := run.settling_of_returned (mem_about member rfl)
    rw [shows.attempt_eq found] at standing
    refine standing.resolve_right ((coherent.current_sound found).stands.unsettled ?_)
    simp [current, draining]
  obtain ⟨u, made, begun⟩ : ∃ u,
      t.step? (.settle t.link.attempt) = some (u, [.settled t.link.attempt]) ∧
      u.attempt? (t.link.attempt + 1) = some (.ofHandler h) := by
    refine ⟨_, by simp only [step?, settle, dispatcher?, found, settling, Option.map_some]; rfl, ?_⟩
    simp [attempt?, Link.settle, draining, waits, length_update, coherent.count]
  constructor
  · have replayed : t.replay [.settle t.link.attempt, .launch (t.link.attempt + 1)] =
        some (u.setDispatcher (t.link.attempt + 1) .waiting, [.settled t.link.attempt,
          .launched (t.link.attempt + 1) h u.settings.handshake]) := by
      simp only [replay, made, step?_launch begun rfl, Option.bind_some]
      rfl
    exact ⟨_, _, replayed, by simp [History.launches]⟩
  · intro m own possible
    obtain ⟨⟨u, notes⟩, made⟩ := Option.ne_none_iff_exists'.mp possible
    rcases own with own | after
    · obtain ⟨b, there, moved⟩ := step?_dispatched own made
      obtain rfl : b = a := Option.some.inj (there.symm.trans found)
      exact .inr (by rw [moved.only.2.2.1 settling]; rfl)
    · obtain ⟨b, there, _⟩ := step?_dispatched after made
      have bound := coherent.le_current there
      omega

/-- In every run, each connect is accounted for: it starts the next attempt, or it waits for the
    current one to settle, or it is ignored because an attempt is active or another connect waits
    already. -/
theorem Reaches.connect_accounting (reached : Reaches settings seen t) : ConnectAccounting seen t := by
  have accounted := reached.accounted
  have coherent := reached.coherent
  constructor
  case admits =>
    intro h
    obtain ⟨admission, u, made, admits⟩ := coherent.connect_admits h
    exact ⟨admission, u, by simp only [step?, made], admits⟩
  case ordered =>
    rw [accounted.launched, accounted.admitted]
    exact numbered_prefix ((List.take_prefix ..).trans (List.prefix_append ..))
  case complete =>
    intro idle
    have free : t.link.deferred = none := by
      apply Classical.byContradiction
      intro waits
      rw [coherent.busy_of_draining (coherent.deferred waits)] at idle
      cases idle
    have all : t.handlers.take t.launchCount = t.handlers := by
      by_cases begun : t.link.attempt = 0
      · exact coherent.take_handlers (.inl (by simp [coherent.fresh begun, Link.initial]))
      · obtain ⟨a, found⟩ := coherent.exists_current begun
        refine take_launched coherent.count found ?_
        simp only [isIdle, found] at idle
        split at idle <;> simp_all [Attempt.isLaunched]
    rw [accounted.launched, accounted.admitted, all, free, Option.toList_none, List.append_nil]
  case waits =>
    intro n h admitted begun unreturned
    rcases reached.admission_cases admitted with ⟨a, found, _⟩ | ⟨_, waits⟩
    · exact absurd (reached.past_told begun found) unreturned
    · exact waits
  case due =>
    intro n h admitted returned
    rcases reached.admission_cases admitted with ⟨a, found, rfl⟩ | ⟨begun, rfl, draining, waits⟩
    · exact reached.launch_due found
    · have returned := returned.resolve_left (Nat.ne_of_gt begun)
      exact ⟨_, List.suffix_refl _, reached.settle_due draining waits returned⟩
  case served =>
    intro n h c called
    have here := mem_about called rfl
    cases found : t.attempt? n with
    | none =>
        obtain ⟨_, op, answer, same, _⟩ := reached.unborn found _ here
        cases same
    | some a =>
        obtain ⟨_, l, run, shows⟩ := reached.life found
        have handler : a.handler = h := by
          rw [← shows.attempt_eq found, run.handler, run.called_handler here]
        cases n with
        | zero => cases found
        | succ n =>
            obtain ⟨bound, _⟩ := List.getElem?_eq_some_iff.mp found
            refine ⟨Nat.succ_pos n, ?_⟩
            have within : n < t.handlers.length := by simpa [handlers] using bound
            rw [accounted.admitted, Nat.add_sub_cancel, List.getElem?_append_left within, handlers,
              List.getElem?_map]
            exact Option.map_eq_some_iff.mpr ⟨a, found, handler⟩

/-- A connect waits for the end of an aborted attempt. Others come before the abort, after it, and
    from inside the call that tells the end, where callers close and abort, too. -/
def deferredMoves : List (Move Nat) :=
  [.perform (.connect 1), .launch 1, .perform (.connect 2), .perform .abort, .perform (.connect 3),
    .perform (.connect 4), .notice 1, .applyHeld 1, .perform (.connect 5), .perform .close,
    .perform .abort, .finish 1 none, .settle 1, .perform (.connect 6), .launch 2]

theorem connect_accounting_of_deferred : ∃ (t : Transport Nat) (seen : History Nat),
    (ofSettings .plain).replay deferredMoves = some (t, seen) ∧
    seen.connects = [(1, .started), (2, .ignored), (3, .deferred), (4, .ignored), (5, .ignored),
      (6, .ignored)] ∧
    seen.launches = [(1, 1), (2, 3)] ∧ ConnectAccounting seen t := by
  refine ⟨_, _, rfl, rfl, rfl, ?_⟩
  have replayed : (ofSettings .plain).replay deferredMoves = some _ := rfl
  exact Reaches.connect_accounting (run_of_replay replayed)

end WampClient.Transport
