import WampClient.Proofs.Socket.Watch

/-! # Time and deadlines

A deadline lies at most as far ahead as the span that it measures. A run is timely if its clock never
passes a deadline that is armed and stands still while a write is under way: then no deadline is ever
overdue.
-/

namespace WampClient.Socket

variable {s t u : Socket} {i : Input} {outputs : List Output} {entries : List Entry} {e : Entry}
  {w : Watch}

/-- No deadline that is armed is passed, and no time passes while a write is under way. -/
def keepsTime (s : Socket) : Input → Bool
  | .tick clock =>
    match s.stage with
    | .ready w => w.deadlines.all fun d => clock ≤ d
    | .writing _ _ => clock ≤ s.clock
    | .connecting | .finished | .crashed => true
  | _ => true

/-- Throughout these entries, writes complete at once and the clock passes no armed deadline. This
    is what it is for a socket to run without delay, and all that is assumed of its surroundings. -/
def isTimely (s : Socket) : List Entry → Bool
  | [] => true
  | e :: rest =>
    s.keepsTime e.input &&
      match s.step? e.input with
      | some (t, _) => t.isTimely rest
      | none => false

theorem Run.isTimely_append (run : Run s entries t) (more : List Entry) :
    s.isTimely (entries ++ more) = (s.isTimely entries && t.isTimely more) := by
  induction run generalizing more with
  | refl => rfl
  | step before i made ih =>
      rw [List.append_assoc, ih, ih]
      simp [isTimely, made, Bool.and_assoc]

theorem Change.clock_le (change : s.Change i u outputs) : s.clock ≤ u.clock := by
  cases change with
  | ticked clock later => exact later
  | _ => exact Int.le_refl _

theorem Run.time_le (run : Run s entries u) : ∀ e ∈ entries, e.time ≤ u.clock := by
  induction run with
  | refl => exact List.forall_mem_nil _
  | step before i made ih =>
      intro e member
      rcases List.mem_append.mp member with old | new
      · exact Int.le_trans (ih e old) (change_of_step? made).clock_le
      · rw [List.mem_singleton.mp new]
        exact Int.le_refl _

theorem Paces.shows {n : Instant} (paces : s.Paces (some n)) : ∃ interval,
    s.options.autoPingInterval = some interval ∧ s.clock.add? interval = some n := by
  unfold Paces at paces
  split at paces
  · rename_i interval given
    obtain ⟨_, same, shown⟩ := paces
    cases same
    exact ⟨interval, given, shown⟩
  · cases paces

theorem Paces.isSome {next : Option Instant} (paces : s.Paces next) :
    next.isSome = s.options.autoPingInterval.isSome := by
  unfold Paces at paces
  split at paces
  · rename_i given
    obtain ⟨n, rfl, _⟩ := paces
    rw [given]
    rfl
  · rename_i absent
    rw [paces, absent, Option.isSome_none, Option.isSome_none]

/-- No deadline lies further ahead than the span of time that it measures. -/
structure Watch.Within (o : Options) (clock : Instant) (w : Watch) : Prop where
  ping : ∀ n, w.nextPing = some n → ∃ interval, o.autoPingInterval = some interval ∧
    n.toNanos ≤ clock.toNanos + interval.toNanos
  pong : ∀ d, w.pongDeadline = some d → d.toNanos ≤ clock.toNanos + o.autoPingTimeout.toNanos
  close : ∀ d, w.closeDeadline = some d → d.toNanos ≤ clock.toNanos + o.closeTimeout.toNanos

theorem Watch.Within.later {o : Options} {c d : Instant} (within : w.Within o c) (later : c ≤ d) :
    w.Within o d where
  ping n next := by
    obtain ⟨interval, given, bound⟩ := within.ping n next
    exact ⟨interval, given, Int.le_trans bound (Int.add_le_add_right later _)⟩
  pong n armed := Int.le_trans (within.pong n armed) (Int.add_le_add_right later _)
  close n armed := Int.le_trans (within.close n armed) (Int.add_le_add_right later _)

theorem Paces.within {next : Option Instant} (paces : s.Paces next) : ∀ n, next = some n →
    ∃ interval, s.options.autoPingInterval = some interval ∧
      n.toNanos ≤ s.clock.toNanos + interval.toNanos := by
  rintro n rfl
  obtain ⟨interval, given, shown⟩ := paces.shows
  exact ⟨interval, given, Int.le_of_eq (Instant.toNanos_of_add? shown)⟩

theorem Watched.within (watched : s.Watched e w)
    (before : ∀ v, s.stage.watch? = some v → v.Within s.options s.clock) :
    w.Within s.options e.time := by
  cases watched with
  | kept w there later => exact (before w there).later later
  | opened next stage paces => exact ⟨paces.within, fun _ => nofun, fun _ => nofun⟩
  | ponged w content stage =>
      have within := before w (watch_of_ready stage)
      exact ⟨within.ping, fun _ => nofun, within.close⟩
  | peerClosed w notice stage => exact ⟨fun _ => nofun, fun _ => nofun, (before w (watch_of_ready stage)).close⟩
  | closed w code reason deadline stage shown =>
      refine ⟨fun _ => nofun, fun _ => nofun, ?_⟩
      intro d armed
      cases armed
      exact Int.le_of_eq (Instant.toNanos_of_add? shown)
  | pinged w next deadline stage paces arms =>
      have within := before w (watch_of_writing stage)
      refine ⟨paces.within, ?_, within.close⟩
      intro d armed
      cases armed
      rcases arms with running | ⟨_, shown⟩
      · exact within.pong _ running
      · exact Int.le_of_eq (Instant.toNanos_of_add? shown)

theorem Fresh.within (fresh : s.Fresh) (run : Run s entries u) (watch : u.stage.watch? = some w) :
    w.Within s.options u.clock := by
  refine run.watches (P := fun _ clock w => w.Within s.options clock) ?_ ?_ watch
  · intro w there
    obtain ⟨next, paces, rfl⟩ := fresh.watch there
    exact ⟨paces.within, fun _ => nofun, fun _ => nofun⟩
  · intro entries t e w earlier before watched
    rw [← earlier.options] at before ⊢
    exact watched.within before

theorem Watch.mem_deadlines {d : Instant} : d ∈ w.deadlines ↔
    w.nextPing = some d ∨ w.pongDeadline = some d ∨ w.closeDeadline = some d := by
  simp [deadlines]

theorem le_of_add? {c d : Instant} {span : Duration} (shown : c.add? span = some d) : c ≤ d := by
  have ahead := Instant.toNanos_of_add? shown
  show c.toNanos ≤ d.toNanos
  omega

theorem Paces.le {n : Instant} (paces : s.Paces (some n)) : s.clock ≤ n := by
  obtain ⟨interval, _, shown⟩ := paces.shows
  exact le_of_add? shown

theorem keepsTime_cases (there : s.stage.watch? = some w)
    (time : e.time = s.clock ∨ e.input = .tick e.time) (keeps : s.keepsTime e.input = true) :
    e.time ≤ s.clock ∨ ∀ d ∈ w.deadlines, e.time ≤ d := by
  rcases time with same | tick
  · exact .inl (by rw [same]; exact Int.le_refl _)
  · rw [tick, keepsTime] at keeps
    cases stage : s.stage with
    | ready v =>
        rw [stage] at keeps there
        cases there
        exact .inr fun d armed => of_decide_eq_true (List.all_eq_true.mp keeps d armed)
    | writing v write =>
        rw [stage] at keeps
        exact .inl (of_decide_eq_true keeps)
    | connecting | finished | crashed =>
        rw [stage] at there
        cases there

theorem Watched.in_time (watched : s.Watched e w)
    (before : ∀ v, s.stage.watch? = some v → ∀ d ∈ v.deadlines, s.clock ≤ d)
    (keeps : s.keepsTime e.input = true) : ∀ d ∈ w.deadlines, e.time ≤ d := by
  intro d armed
  cases watched with
  | kept w there later time =>
      rcases keepsTime_cases there time keeps with still | due
      · exact Int.le_trans still (before w there d armed)
      · exact due d armed
  | opened next stage paces =>
      have first : next = some d := by simpa [Watch.mem_deadlines] using armed
      exact Paces.le (first ▸ paces)
  | ponged w content stage =>
      have old : d ∈ w.deadlines := by grind [Watch.mem_deadlines]
      exact before w (watch_of_ready stage) d old
  | peerClosed w notice stage =>
      have old : d ∈ w.deadlines := by grind [Watch.mem_deadlines]
      exact before w (watch_of_ready stage) d old
  | closed w code reason deadline stage shown =>
      have new : deadline = d := by simpa [Watch.mem_deadlines] using armed
      exact new ▸ le_of_add? shown
  | pinged w next deadline stage paces arms =>
      have there := before w (watch_of_writing stage)
      rcases Watch.mem_deadlines.mp armed with rfl | same | closing
      · exact paces.le
      · cases same
        rcases arms with running | ⟨_, shown⟩
        · exact there _ (Watch.mem_deadlines.mpr (.inr (.inl running)))
        · exact le_of_add? shown
      · exact there d (Watch.mem_deadlines.mpr (.inr (.inr closing)))

theorem Fresh.in_time (fresh : s.Fresh) (run : Run s entries u)
    (timely : s.isTimely entries = true) (watch : u.stage.watch? = some w) :
    ∀ d ∈ w.deadlines, u.clock ≤ d := by
  refine run.watches (P := fun entries clock w => s.isTimely entries = true →
    ∀ d ∈ w.deadlines, clock ≤ d) ?_ ?_ watch timely
  · intro w there _ d armed
    obtain ⟨next, paces, rfl⟩ := fresh.watch there
    rcases Watch.mem_deadlines.mp armed with rfl | absent | absent
    · exact paces.le
    · cases absent
    · cases absent
  · intro entries t e w earlier before watched timely
    rw [earlier.isTimely_append, Bool.and_eq_true] at timely
    obtain ⟨kept, last⟩ := timely
    rw [isTimely, Bool.and_eq_true] at last
    exact watched.in_time (fun v there => before v there kept) last.1

/-- A timeout is told when its deadline has come, and in no other way. -/
theorem Change.of_reports {fault : ConnectionFault} (change : s.Change i u outputs)
    (timeout : fault.isTimeout = true) (reports : (Entry.mk u.clock i outputs).reports fault = true) :
    u.clock = s.clock ∧ ∃ w, s.stage = .ready w ∧ s.isDue (w.deadline fault) = true := by
  have among : .emit (.failure (Error.connection fault).message) ∈ outputs := of_decide_eq_true reports
  cases change with
  | ended e ends =>
      have same := Output.emit.inj (List.mem_singleton.mp among)
      exact ⟨rfl, ends.overdue fault timeout same.symm⟩
  | passed unanswered told =>
      obtain ⟨f, same⟩ := told _ among
      cases same
  | _ => simp at among

theorem Watch.deadline_mem {fault : ConnectionFault} {d : Instant} (armed : w.deadline fault = some d) :
    d ∈ w.deadlines := by
  rw [mem_deadlines]
  cases fault with
  | pingTimeout => exact .inr (.inl armed)
  | closeTimeout => exact .inr (.inr armed)
  | _ => cases armed

/-- In a run that tells a timeout, the deadline was armed and had come; in a timely run it had come
    just then. -/
theorem Fresh.overdue {fault : ConnectionFault} {before after : List Entry} (fresh : s.Fresh)
    (run : Run s (before ++ e :: after) u) (timeout : fault.isTimeout = true)
    (reports : e.reports fault = true) :
    ∃ t w d, Run s before t ∧ t.stage = .ready w ∧ w.deadline fault = some d ∧ d ≤ e.time ∧
      (s.isTimely (before ++ e :: after) = true → e.time = d) := by
  obtain ⟨t, v, earlier, made, time, _⟩ := run.split
  have change := change_of_step? made
  have told : (Entry.mk v.clock e.input e.outputs).reports fault = true := reports
  obtain ⟨still, w, stage, due⟩ := change.of_reports timeout told
  obtain ⟨d, armed, come⟩ := isDue_iff.mp due
  rw [← time, still]
  refine ⟨t, w, d, earlier, stage, armed, come, ?_⟩
  intro timely
  rw [earlier.isTimely_append, Bool.and_eq_true] at timely
  have watch : t.stage.watch? = some w := watch_of_ready stage
  exact Instant.le_antisymm (fresh.in_time earlier timely.1 watch d (Watch.deadline_mem armed)) come

end WampClient.Socket
