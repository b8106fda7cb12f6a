import WampClient.Proofs.Socket.Deadlines

/-! # Keep-alive

In a timely run pings are written exactly an interval apart. A pong lifts the deadline for all pings
that are under way, and the first ping after that sets a new one. So whatever the interval and the
timeout, a connection is told to have timed out only when a ping was not followed by a pong for just
as long as the timeout says, and it does not outlive such a ping.
-/

namespace WampClient.Socket

variable {s t u : Socket} {i : Input} {outputs : List Output} {entries : List Entry} {e : Entry}
  {w : Watch} {o : Options} {opening : Instant} {interval : Duration}

def pingTimes (entries : List Entry) : List Int :=
  (entries.filter Entry.wrotePing).map (·.time.toNanos)

def beat (opening : Instant) (interval : Duration) (k : Nat) : Int :=
  opening.toNanos + k * interval.toNanos

/-- When the last pong was read, or else when the connection opened. -/
def lastHeard (opening : Instant) (entries : List Entry) : Int :=
  ((entries.filter Entry.readPong).getLast?.map (·.time.toNanos)).getD opening.toNanos

def Answers (o : Options) (p q : Entry) : Prop :=
  q.readPong = true ∧ p.time.toNanos ≤ q.time.toNanos ∧
    q.time.toNanos ≤ p.time.toNanos + o.autoPingTimeout.toNanos

/-- What keep-alive does for a connection that was opened at this time. Pings go out at fixed times,
    whether the last one was answered or not, and the timeout runs from the first ping that was not.
    Only a close frame, sent or received, puts an end to it. -/
structure KeepAlive (o : Options) (opening : Instant) (interval : Duration) (entries : List Entry)
    (u : Socket) : Prop where
  /-- The timeout is told only if a ping was written that long ago and no pong was read since. -/
  sound : ∀ before e after, entries = before ++ e :: after → e.reports .pingTimeout = true →
    ∃ earlier p between, before = earlier ++ p :: between ∧ p.wrotePing = true ∧
      p.time.add? o.autoPingTimeout = some e.time ∧ between.any Entry.readPong = false
  /-- Pings are written at the end of each interval, and at no other time. -/
  regular : entries.any Entry.closes = false → ∃ k,
    pingTimes entries = (List.range k).map (fun j => beat opening interval (j + 1)) ∧
      (u.isOver = false → beat opening interval k ≤ u.clock.toNanos ∧
        u.clock.toNanos ≤ beat opening interval (k + 1))
  /-- A connection does not outlive the timeout of a ping that no pong has followed in time. -/
  answered : entries.any Entry.closes = false → u.isOver = false →
    ∀ (before : List Entry) (p : Entry) (after : List Entry), entries = before ++ p :: after →
      p.wrotePing = true → p.time.toNanos + o.autoPingTimeout.toNanos < u.clock.toNanos →
        ∃ q ∈ after, Answers o p q
  bounded : entries.any Entry.closes = false → u.isOver = false →
    u.clock.toNanos ≤ lastHeard opening entries + interval.toNanos + o.autoPingTimeout.toNanos
  /-- Once a close frame was written or read, there is no keep-alive. -/
  closed : ∀ before c after, entries = before ++ c :: after → c.closes = true →
    ∀ e ∈ after, e.wrotePing = false ∧ e.reports .pingTimeout = false

theorem pingTimes_quiet (entries : List Entry) (quiet : e.wrotePing = false) :
    pingTimes (entries ++ [e]) = pingTimes entries := by
  simp [pingTimes, quiet]

theorem pingTimes_ping (entries : List Entry) (wrote : e.wrotePing = true) :
    pingTimes (entries ++ [e]) = pingTimes entries ++ [e.time.toNanos] := by
  simp [pingTimes, wrote]

theorem lastHeard_quiet (opening : Instant) (entries : List Entry) (quiet : e.readPong = false) :
    lastHeard opening (entries ++ [e]) = lastHeard opening entries := by
  simp [lastHeard, quiet]

theorem lastHeard_pong (opening : Instant) (entries : List Entry) (read : e.readPong = true) :
    lastHeard opening (entries ++ [e]) = e.time.toNanos := by
  simp [lastHeard, read]

theorem beat_succ (opening : Instant) (interval : Duration) (k : Nat) :
    beat opening interval (k + 1) = beat opening interval k + interval.toNanos := by
  rw [beat, beat, Int.natCast_succ, Int.add_mul, Int.one_mul, Int.add_assoc]

theorem Change.of_wrotePing (change : s.Change i u outputs)
    (wrote : (Entry.mk u.clock i outputs).wrotePing = true) :
    u.clock = s.clock ∧ ∃ w, s.stage = .writing w .ping := by
  have among : .wrote (.ping []) ∈ outputs := of_decide_eq_true wrote
  cases change with
  | pinged w next deadline stage => exact ⟨rfl, w, stage⟩
  | unarmed w write stage =>
      have same := Output.wrote.inj (List.mem_singleton.mp among)
      cases write with
      | ping => exact ⟨rfl, w, stage⟩
      | data f => cases f <;> cases same
      | close => cases same
  | passed unanswered told =>
      obtain ⟨f, same⟩ := told _ among
      cases same
  | sent w f => cases f <;> simp [Frame.toMessage] at among
  | _ => simp at among

/-! ## The ping behind the deadline -/

/-- A ping that was not answered sets this deadline. -/
def Awaits (o : Options) (entries : List Entry) (d : Instant) : Prop :=
  ∃ before p after, entries = before ++ p :: after ∧ p.wrotePing = true ∧
    p.time.add? o.autoPingTimeout = some d ∧ after.any Entry.readPong = false

theorem Awaits.append {d : Instant} (awaits : Awaits o entries d) (quiet : e.readPong = false) :
    Awaits o (entries ++ [e]) d := by
  obtain ⟨before, p, after, rfl, wrote, shown, unanswered⟩ := awaits
  refine ⟨before, p, after ++ [e], by simp, wrote, shown, ?_⟩
  rw [List.any_append, unanswered]
  simp [quiet]

theorem Watched.awaits (watched : s.Watched e w)
    (before : ∀ v, s.stage.watch? = some v → ∀ d, v.pongDeadline = some d → Awaits s.options entries d) :
    ∀ d, w.pongDeadline = some d → Awaits s.options (entries ++ [e]) d := by
  intro d armed
  cases watched with
  | kept w there later time quiet =>
      exact (before w there d armed).append (Entry.isQuiet_iff.mp quiet).2.1
  | pinged w next deadline stage paces arms =>
      cases armed
      rcases arms with running | ⟨_, shown⟩
      · exact (before w (watch_of_writing stage) _ running).append rfl
      · exact ⟨entries, _, [], rfl, rfl, shown, rfl⟩
  | opened | ponged | peerClosed | closed => cases armed

theorem Fresh.awaits (fresh : s.Fresh) (run : Run s entries u) (watch : u.stage.watch? = some w) :
    ∀ d, w.pongDeadline = some d → Awaits s.options entries d := by
  refine run.watches (P := fun entries _ w => ∀ d, w.pongDeadline = some d →
    Awaits s.options entries d) ?_ ?_ watch
  · intro w there d armed
    obtain ⟨next, _, rfl⟩ := fresh.watch there
    cases armed
  · intro entries t e w earlier before watched
    rw [← earlier.options] at before ⊢
    exact watched.awaits before

/-! ## Beat by beat -/

/-- A ping was answered in time, or the deadline will say that it was not. -/
def Covered (o : Options) (w : Watch) (p : Entry) (after : List Entry) : Prop :=
  (∃ q ∈ after, Answers o p q) ∨
    ∃ d, w.pongDeadline = some d ∧ d.toNanos ≤ p.time.toNanos + o.autoPingTimeout.toNanos

/-- What the watch over a connection that is not closing says in a timely run. The time of the next
    ping is the end of an interval, and a deadline is armed exactly while a ping waits for its pong.
    -/
structure Beating (o : Options) (opening : Instant) (interval : Duration) (entries : List Entry)
    (clock : Instant) (w : Watch) : Prop where
  next : ∃ n, w.nextPing = some n ∧
    n.toNanos = beat opening interval ((pingTimes entries).length + 1)
  since : beat opening interval (pingTimes entries).length ≤ clock.toNanos
  /-- A pong was read since the last ping. -/
  idle : w.pongDeadline = none →
    beat opening interval (pingTimes entries).length ≤ lastHeard opening entries
  awaiting : ∀ d, w.pongDeadline = some d →
    d.toNanos ≤ lastHeard opening entries + interval.toNanos + o.autoPingTimeout.toNanos
  answered : ∀ before p after, entries = before ++ p :: after → p.wrotePing = true →
    Covered o w p after

/-- One more entry leaves all pings covered if it does so for those before it and for itself. -/
theorem Beating.covered {clock : Instant} {v : Watch}
    (beating : Beating o opening interval entries clock w)
    (kept : ∀ p after, p ∈ entries → Covered o w p after → Covered o v p (after ++ [e]))
    (new : e.wrotePing = true → Covered o v e []) : ∀ before p after,
      entries ++ [e] = before ++ p :: after → p.wrotePing = true → Covered o v p after := by
  intro before p after whole wrote
  rcases split_snoc whole with ⟨rest, earlier, rfl⟩ | ⟨_, rfl, rfl⟩
  · exact kept p rest (by simp [earlier]) (beating.answered before p rest earlier wrote)
  · exact new wrote

theorem Beating.append {clock : Instant} (beating : Beating o opening interval entries clock w)
    (later : clock ≤ e.time) (unwritten : e.wrotePing = false) (unread : e.readPong = false) :
    Beating o opening interval (entries ++ [e]) e.time w := by
  have same := pingTimes_quiet entries unwritten
  have heard := lastHeard_quiet opening entries unread
  constructor
  case next => rw [same]; exact beating.next
  case since => rw [same]; exact Int.le_trans beating.since later
  case idle => rw [same, heard]; exact beating.idle
  case awaiting => rw [heard]; exact beating.awaiting
  case answered =>
    refine beating.covered ?_ fun wrote => absurd wrote (by simp [unwritten])
    rintro p after _ (⟨q, member, answers⟩ | armed)
    · exact .inl ⟨q, List.mem_append_left _ member, answers⟩
    · exact .inr armed

theorem Beating.pong (beating : Beating o opening interval entries e.time w)
    (in_time : ∀ d, w.pongDeadline = some d → e.time ≤ d) (times : ∀ x ∈ entries, x.time ≤ e.time)
    (unwritten : e.wrotePing = false) (read : e.readPong = true) :
    Beating o opening interval (entries ++ [e]) e.time { w with pongDeadline := none } := by
  have same := pingTimes_quiet entries unwritten
  have heard := lastHeard_pong opening entries read
  constructor
  case next => rw [same]; exact beating.next
  case since => rw [same]; exact beating.since
  case idle => rw [same, heard]; exact fun _ => beating.since
  case awaiting => exact fun _ => nofun
  case answered =>
    refine beating.covered ?_ fun wrote => absurd wrote (by simp [unwritten])
    rintro p after among (⟨q, member, answers⟩ | ⟨d, armed, due⟩)
    · exact .inl ⟨q, List.mem_append_left _ member, answers⟩
    · have before_pong : p.time.toNanos ≤ e.time.toNanos := times p among
      have early : e.time.toNanos ≤ d.toNanos := in_time d armed
      exact .inl ⟨e, List.mem_append_right _ List.mem_cons_self, read, before_pong, by omega⟩

theorem Beating.now (beating : Beating o opening interval entries s.clock w)
    (due : s.isDue w.nextPing = true) (in_time : ∀ d ∈ w.deadlines, s.clock ≤ d) :
    s.clock.toNanos = beat opening interval ((pingTimes entries).length + 1) := by
  obtain ⟨n, set, at_beat⟩ := beating.next
  obtain ⟨m, same, come⟩ := isDue_iff.mp due
  rw [set] at same
  cases same
  have ahead : s.clock.toNanos ≤ n.toNanos := in_time n (Watch.mem_deadlines.mpr (.inl set))
  have come : n.toNanos ≤ s.clock.toNanos := come
  omega

/-- A ping sets the time of the next one, and the deadline unless one is set already. In both cases
    the deadline lies at most the timeout ahead, since an earlier ping has set it earlier. -/
theorem Beating.ping {next : Option Instant} {deadline : Instant}
    (beating : Beating s.options opening interval entries s.clock w)
    (given : s.options.autoPingInterval = some interval) (due : s.isDue w.nextPing = true)
    (in_time : ∀ d ∈ w.deadlines, s.clock ≤ d) (within : w.Within s.options s.clock)
    (paces : s.Paces next) (arms : s.Arms w deadline) (time : e.time = s.clock)
    (wrote : e.wrotePing = true) (unread : e.readPong = false) :
    Beating s.options opening interval (entries ++ [e]) e.time
      { w with nextPing := next, pongDeadline := some deadline } := by
  have more : (pingTimes (entries ++ [e])).length = (pingTimes entries).length + 1 := by
    rw [pingTimes_ping entries wrote, List.length_append, List.length_singleton]
  have heard := lastHeard_quiet opening entries unread
  have step := beat_succ opening interval (pingTimes entries).length
  have now := beating.now due in_time
  have ahead : deadline.toNanos ≤ s.clock.toNanos + s.options.autoPingTimeout.toNanos := by
    rcases arms with running | ⟨_, shown⟩
    · exact within.pong deadline running
    · exact Int.le_of_eq (Instant.toNanos_of_add? shown)
  constructor
  case next =>
    rw [more, beat_succ]
    unfold Paces at paces
    rw [given] at paces
    obtain ⟨m, rfl, shown⟩ := paces
    have next_beat := Instant.toNanos_of_add? shown
    exact ⟨m, rfl, by omega⟩
  case since => rw [more, time]; exact Int.le_of_eq now.symm
  case idle => exact nofun
  case awaiting =>
    intro d armed
    cases armed
    rw [heard]
    rcases arms with running | ⟨off, shown⟩
    · exact beating.awaiting deadline running
    · have last := beating.idle off
      have set := Instant.toNanos_of_add? shown
      omega
  case answered =>
    refine beating.covered ?_ fun _ => .inr ⟨deadline, rfl, by rw [time]; exact ahead⟩
    rintro p after _ (⟨q, member, answers⟩ | ⟨d, armed, late⟩)
    · exact .inl ⟨q, List.mem_append_left _ member, answers⟩
    · rcases arms with running | ⟨off, _⟩
      · rw [armed] at running
        cases running
        exact .inr ⟨_, rfl, late⟩
      · rw [armed] at off
        cases off

theorem Watched.beating (watched : s.Watched e w)
    (given : s.options.autoPingInterval = some interval) (begun : s.stage ≠ .connecting)
    (unclosed : e.closes = false)
    (before : ∀ v, s.stage.watch? = some v → Beating s.options opening interval entries s.clock v)
    (in_time : ∀ v, s.stage.watch? = some v → ∀ d ∈ v.deadlines, s.clock ≤ d)
    (within : ∀ v, s.stage.watch? = some v → v.Within s.options s.clock)
    (begins : ∀ v write, s.stage = .writing v write → s.Begins v write)
    (times : ∀ x ∈ entries, x.time ≤ s.clock) :
    Beating s.options opening interval (entries ++ [e]) e.time w := by
  cases watched with
  | kept w there later time quiet =>
      obtain ⟨unwritten, unread, _⟩ := Entry.isQuiet_iff.mp quiet
      exact (before w there).append later unwritten unread
  | opened next stage => exact absurd stage begun
  | ponged w content stage =>
      have there : s.stage.watch? = some w := watch_of_ready stage
      refine Beating.pong (before w there) ?_ times rfl rfl
      intro d armed
      exact in_time w there d (Watch.mem_deadlines.mpr (.inr (.inl armed)))
  | peerClosed | closed => cases unclosed
  | pinged w next deadline stage paces arms =>
      have there : s.stage.watch? = some w := watch_of_writing stage
      exact (before w there).ping given (begins w .ping stage) (in_time w there) (within w there)
        paces arms rfl rfl rfl

section opened

variable (given : o.autoPingInterval = some interval)
include given

theorem opened_beating (watch : (opened o opening).stage.watch? = some w) :
    Beating o opening interval [] opening w := by
  obtain ⟨next, paces, rfl⟩ := (opened_fresh o opening).watch watch
  unfold Paces at paces
  rw [opened_options, opened_clock, given] at paces
  obtain ⟨n, rfl, shown⟩ := paces
  have first := Instant.toNanos_of_add? shown
  constructor
  case next => exact ⟨n, rfl, by simpa [beat, pingTimes] using first⟩
  case since => simp [beat, pingTimes]
  case idle => simp [beat, pingTimes, lastHeard]
  case awaiting => exact fun _ => nofun
  case answered =>
    intro before p after whole
    simp at whole

theorem Run.beating (run : Run (opened o opening) entries u)
    (timely : (opened o opening).isTimely entries = true)
    (unclosed : entries.any Entry.closes = false) (watch : u.stage.watch? = some w) :
    Beating o opening interval entries u.clock w := by
  have fresh := opened_fresh o opening
  refine run.watches (P := fun entries clock w => (opened o opening).isTimely entries = true →
    entries.any Entry.closes = false → Beating o opening interval entries clock w)
    ?_ ?_ watch timely unclosed
  · intro w there _ _
    rw [opened_clock]
    exact opened_beating given there
  · intro entries t e w earlier ih watched timely unclosed
    rw [earlier.isTimely_append, Bool.and_eq_true] at timely
    rw [List.any_append, Bool.or_eq_false_iff] at unclosed
    have options : t.options = o := earlier.options.trans (opened_options o opening)
    have begun : t.stage ≠ .connecting := fun stage =>
      opened_begun o opening (earlier.quiet_of_connecting stage).1
    have within (v : Watch) (there : t.stage.watch? = some v) : v.Within t.options t.clock := by
      rw [earlier.options]
      exact fresh.within earlier there
    have before (v : Watch) (there : t.stage.watch? = some v) :
        Beating t.options opening interval entries t.clock v := by
      rw [options]
      exact ih v there timely.1 unclosed.1
    have next := watched.beating (by rw [options]; exact given) begun (by simpa using unclosed.2)
      before (fun v there => fresh.in_time earlier timely.1 there) within
      (fun v write stage => fresh.begins earlier stage) earlier.time_le
    rwa [options] at next

/-- Also when the connection is over, pings were written at the end of each interval only. -/
theorem Run.paced (run : Run (opened o opening) entries u)
    (timely : (opened o opening).isTimely entries = true)
    (unclosed : entries.any Entry.closes = false) :
    pingTimes entries =
      (List.range (pingTimes entries).length).map fun j => beat opening interval (j + 1) := by
  have fresh := opened_fresh o opening
  induction run with
  | refl => rfl
  | @step t u entries outputs before i made ih =>
      rw [before.isTimely_append, Bool.and_eq_true] at timely
      rw [List.any_append, Bool.or_eq_false_iff] at unclosed
      have earlier := ih timely.1 unclosed.1
      cases wrote : (Entry.mk u.clock i outputs).wrotePing with
      | false => rwa [pingTimes_quiet entries wrote]
      | true =>
          obtain ⟨time, w, stage⟩ := (change_of_step? made).of_wrotePing wrote
          have there : t.stage.watch? = some w := watch_of_writing stage
          have now := (before.beating given timely.1 unclosed.1 there).now
            (fresh.begins before stage) (fresh.in_time before timely.1 there)
          rw [pingTimes_ping entries wrote, List.length_append, List.length_singleton,
            List.range_succ, List.map_append, ← earlier, List.map_singleton]
          rw [time, now]

end opened

theorem Fresh.silent {c : Entry} {before after : List Entry} (fresh : s.Fresh)
    (run : Run s (before ++ c :: after) u) (closes : c.closes = true) :
    ∀ e ∈ after, e.wrotePing = false ∧ e.reports .pingTimeout = false := by
  intro e member
  obtain ⟨sooner, later, rfl⟩ := List.append_of_mem member
  have split : before ++ c :: (sooner ++ e :: later) = (before ++ c :: sooner) ++ e :: later := by
    simp
  rw [split] at run
  have closed : (before ++ c :: sooner).any Entry.closes = true := by simp [closes]
  constructor
  · apply Bool.eq_false_iff.mpr
    intro wrote
    obtain ⟨t, v, earlier, made, time, _⟩ := run.split
    have told : (Entry.mk v.clock e.input e.outputs).wrotePing = true := wrote
    obtain ⟨_, w, stage⟩ := (change_of_step? made).of_wrotePing told
    have unclosed := fresh.unclosed_of_writing earlier stage
    rw [closed] at unclosed
    cases unclosed
  · apply Bool.eq_false_iff.mpr
    intro reports
    obtain ⟨t, w, d, earlier, stage, armed, _⟩ := fresh.overdue run rfl reports
    have watch : t.stage.watch? = some w := watch_of_ready stage
    have off : w.pongDeadline = none := ((fresh.arming earlier watch).still closed).2
    rw [show w.pongDeadline = some d from armed] at off
    cases off

/-- In every timely run of an open connection with pings, keep-alive is sound and complete. The
    interval may be shorter than the timeout: several pings are under way then, and the deadline is
    that of the first of them. -/
theorem Run.keep_alive (given : o.autoPingInterval = some interval)
    (run : Run (opened o opening) entries u)
    (timely : (opened o opening).isTimely entries = true) :
    KeepAlive o opening interval entries u := by
  have fresh := opened_fresh o opening
  have beating {w : Watch} (unclosed : entries.any Entry.closes = false)
      (watch : u.stage.watch? = some w) := run.beating given timely unclosed watch
  have in_time {w : Watch} (watch : u.stage.watch? = some w) {d : Instant}
      (armed : w.nextPing = some d ∨ w.pongDeadline = some d ∨ w.closeDeadline = some d) :
      u.clock.toNanos ≤ d.toNanos :=
    fresh.in_time run timely watch d (Watch.mem_deadlines.mpr armed)
  constructor
  case sound =>
    rintro before e after rfl reports
    obtain ⟨t, w, d, earlier, stage, armed, _, exact_time⟩ := fresh.overdue run rfl reports
    have watch : t.stage.watch? = some w := watch_of_ready stage
    obtain ⟨sooner, p, between, rfl, wrote, shown, unanswered⟩ := fresh.awaits earlier watch d armed
    rw [opened_options] at shown
    exact ⟨sooner, p, between, rfl, wrote, exact_time timely ▸ shown, unanswered⟩
  case regular =>
    intro unclosed
    refine ⟨_, run.paced given timely unclosed, ?_⟩
    intro running
    obtain ⟨w, watch⟩ := run.watched (opened_begun o opening) running
    obtain ⟨n, next, at_beat⟩ := (beating unclosed watch).next
    exact ⟨(beating unclosed watch).since, at_beat ▸ in_time watch (.inl next)⟩
  case answered =>
    intro unclosed running before p after whole wrote late
    obtain ⟨w, watch⟩ := run.watched (opened_begun o opening) running
    rcases (beating unclosed watch).answered before p after whole wrote with done | ⟨d, armed, due⟩
    · exact done
    · have ahead := in_time watch (.inr (.inl armed))
      omega
  case bounded =>
    intro unclosed running
    obtain ⟨w, watch⟩ := run.watched (opened_begun o opening) running
    have now := beating unclosed watch
    cases pong : w.pongDeadline with
    | some d =>
        have ahead := in_time watch (.inr (.inl pong))
        have last := now.awaiting d pong
        omega
    | none =>
        obtain ⟨n, next, at_beat⟩ := now.next
        have ahead := in_time watch (.inl next)
        have last := now.idle pong
        rw [beat_succ] at at_beat
        omega
  case closed =>
    rintro before c after rfl closes
    exact fresh.silent run closes

/-- A ping every three seconds, with seven seconds to answer. -/
def eagerPings : Options :=
  (Options.default.withAutoPingInterval (.ofSeconds 3)).withAutoPingTimeout (.ofSeconds 7)

/-- The first ping is answered after two seconds, and the next three are not. -/
def eagerInputs : List Input :=
  [.tick ⟨3_000_000_000, by decide, by decide⟩, .pingDue, .written (.ok ()),
    .tick ⟨5_000_000_000, by decide, by decide⟩, .read (.message (.pong [])),
    .tick ⟨6_000_000_000, by decide, by decide⟩, .pingDue, .written (.ok ()),
    .tick ⟨9_000_000_000, by decide, by decide⟩, .pingDue, .written (.ok ()),
    .tick ⟨12_000_000_000, by decide, by decide⟩, .pingDue, .written (.ok ()),
    .tick ⟨13_000_000_000, by decide, by decide⟩, .pongOverdue]

theorem keep_alive_of_eager : ∃ (u : Socket) (entries : List Entry),
    eagerPings.autoPingInterval = some (.ofSeconds 3) ∧
    (opened eagerPings .zero).replay eagerInputs = some (u, entries) ∧
    (opened eagerPings .zero).isTimely entries = true ∧
    pingTimes entries = [3_000_000_000, 6_000_000_000, 9_000_000_000, 12_000_000_000] ∧
    entries.any (Entry.reports .pingTimeout) = true ∧
    KeepAlive eagerPings .zero (.ofSeconds 3) entries u := by
  refine ⟨_, _, rfl, rfl, rfl, rfl, rfl, ?_⟩
  have replayed : (opened eagerPings .zero).replay eagerInputs = some _ := rfl
  exact Run.keep_alive rfl (run_of_replay replayed) rfl

end WampClient.Socket
