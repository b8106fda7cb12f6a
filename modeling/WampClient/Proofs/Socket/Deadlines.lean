import WampClient.Proofs.Socket.Timely

/-! # Which deadlines are armed

The deadline for the answer to a close frame is armed from the time at which the close frame was
written, whatever is read afterwards. The other two are armed as long as no close frame was written
or read, if pings are sent at all. So nothing is armed once the peer has closed and no close frame
was written: such a socket waits for the end of the stream, however long that takes. Where something
is armed, a socket that hears nothing is over within an interval and the two timeouts.
-/

namespace WampClient

/-- The longest that a connection can wait for one deadline after the other, in nanoseconds. -/
def Options.patience (o : Options) : Nat :=
  o.autoPingInterval.elim 0 Duration.toNanos + o.autoPingTimeout.toNanos + o.closeTimeout.toNanos

namespace Socket

variable {s t u : Socket} {i : Input} {outputs : List Output} {entries more : List Entry} {e : Entry}
  {w : Watch} {o : Options}

/-- The deadline for the answer to the only close frame that was written. -/
def ClosesBy (o : Options) (entries : List Entry) : Option Instant → Prop
  | none => entries.any Entry.wroteClose = false
  | some d => ∃ before c after, entries = before ++ c :: after ∧ c.wroteClose = true ∧
      c.time.add? o.closeTimeout = some d ∧ before.any Entry.closes = false ∧
        after.any Entry.wroteClose = false

/-- What is armed after these entries. -/
structure Arming (o : Options) (entries : List Entry) (w : Watch) : Prop where
  pinging : entries.any Entry.closes = false → w.nextPing.isSome = o.autoPingInterval.isSome
  still : entries.any Entry.closes = true → w.nextPing = none ∧ w.pongDeadline = none
  unpinged : o.autoPingInterval = none → w.pongDeadline = none
  peerClose : w.peerClose.isSome = entries.any Entry.readClose
  closing : ClosesBy o entries w.closeDeadline

theorem ClosesBy.isSome {deadline : Option Instant} (closing : ClosesBy o entries deadline) :
    deadline.isSome = entries.any Entry.wroteClose := by
  cases deadline with
  | none => exact (show entries.any Entry.wroteClose = false from closing).symm
  | some d =>
      obtain ⟨before, c, after, rfl, wrote, _⟩ := closing
      simp [wrote]

theorem ClosesBy.append {deadline : Option Instant} (closing : ClosesBy o entries deadline)
    (unwritten : e.wroteClose = false) : ClosesBy o (entries ++ [e]) deadline := by
  cases deadline with
  | none =>
      have none_before : entries.any Entry.wroteClose = false := closing
      simp [ClosesBy, List.any_append, none_before, unwritten]
  | some d =>
      obtain ⟨before, c, after, rfl, wrote, shown, first, only⟩ := closing
      refine ⟨before, c, after ++ [e], by simp, wrote, shown, first, ?_⟩
      simp [List.any_append, only, unwritten]

theorem Arming.isClosing_eq (arming : Arming o entries w) :
    w.isClosing = entries.any Entry.closes := by
  rw [Watch.isClosing, arming.peerClose, arming.closing.isSome, any_closes, Bool.or_comm]

theorem Arming.unclosed (arming : Arming o entries w) (due : s.isDue w.nextPing = true) :
    entries.any Entry.closes = false ∧ o.autoPingInterval.isSome = true := by
  obtain ⟨n, next, _⟩ := isDue_iff.mp due
  have unclosed : entries.any Entry.closes = false := by
    apply Bool.eq_false_iff.mpr
    intro closes
    have off := (arming.still closes).1
    rw [next] at off
    cases off
  refine ⟨unclosed, ?_⟩
  rw [← arming.pinging unclosed, next]
  rfl

theorem Arming.append (arming : Arming o entries w) (unclosed : e.closes = false) :
    Arming o (entries ++ [e]) w := by
  obtain ⟨unwritten, unread⟩ := Entry.closes_eq_false_iff.mp unclosed
  have same : (entries ++ [e]).any Entry.closes = entries.any Entry.closes := by
    simp [List.any_append, unclosed]
  constructor
  case pinging => rw [same]; exact arming.pinging
  case still => rw [same]; exact arming.still
  case unpinged => exact arming.unpinged
  case peerClose => rw [arming.peerClose]; simp [List.any_append, unread]
  case closing => exact arming.closing.append unwritten

theorem Watched.arming (watched : s.Watched e w)
    (before : ∀ v, s.stage.watch? = some v → Arming s.options entries v)
    (begins : ∀ v write, s.stage = .writing v write → s.Begins v write)
    (quiet : s.stage = .connecting → ∀ e ∈ entries, e.isQuiet = true) :
    Arming s.options (entries ++ [e]) w := by
  cases watched with
  | kept w there later time quiet =>
      exact (before w there).append (Entry.isQuiet_iff.mp quiet).2.2
  | opened next stage paces =>
      have unclosed : entries.any Entry.closes = false :=
        List.any_eq_false.mpr fun e member => by simp [(Entry.isQuiet_iff.mp (quiet stage e member))]
      refine Arming.append ?_ rfl
      have nothing := any_closes entries
      rw [unclosed, eq_comm, Bool.or_eq_false_iff] at nothing
      constructor
      case pinging => exact fun _ => paces.isSome
      case still => exact fun closes => absurd closes (by rw [unclosed]; decide)
      case unpinged => exact fun _ => rfl
      case peerClose => exact nothing.2.symm
      case closing => exact nothing.1
  | ponged w content stage =>
      have arming := before w (watch_of_ready stage)
      refine Arming.append ?_ rfl
      exact ⟨arming.pinging, fun closes => ⟨(arming.still closes).1, rfl⟩, fun _ => rfl,
        arming.peerClose, arming.closing⟩
  | peerClosed w notice stage =>
      have arming := before w (watch_of_ready stage)
      constructor
      case pinging => simp [List.any_append, Entry.closes, Entry.readClose, Input.isClose]
      case still => exact fun _ => ⟨rfl, rfl⟩
      case unpinged => exact fun _ => rfl
      case peerClose => simp [List.any_append, Entry.readClose, Input.isClose]
      case closing => exact arming.closing.append rfl
  | closed w code reason deadline stage shown =>
      have arming := before w (watch_of_writing stage)
      have unclosed : entries.any Entry.closes = false := by
        rw [← arming.isClosing_eq]
        exact begins w _ stage
      constructor
      case pinging => simp [List.any_append, Entry.closes, Entry.wroteClose]
      case still => exact fun _ => ⟨rfl, rfl⟩
      case unpinged => exact fun _ => rfl
      case peerClose =>
        rw [arming.peerClose]
        simp [List.any_append, Entry.readClose, Input.isClose]
      case closing => exact ⟨entries, _, [], rfl, rfl, shown, unclosed, rfl⟩
  | pinged w next deadline stage paces arms =>
      have arming := before w (watch_of_writing stage)
      obtain ⟨unclosed, pings⟩ := arming.unclosed (begins w .ping stage)
      refine Arming.append ?_ rfl
      constructor
      case pinging => exact fun _ => paces.isSome
      case still => exact fun closes => absurd closes (by rw [unclosed]; decide)
      case unpinged =>
        intro off
        rw [off] at pings
        cases pings
      case peerClose => exact arming.peerClose
      case closing => exact arming.closing

theorem Fresh.arming (fresh : s.Fresh) (run : Run s entries u) (watch : u.stage.watch? = some w) :
    Arming s.options entries w := by
  refine run.watches (P := fun entries _ w => Arming s.options entries w) ?_ ?_ watch
  · intro w there
    obtain ⟨next, paces, rfl⟩ := fresh.watch there
    exact ⟨fun _ => paces.isSome, nofun, fun _ => rfl, rfl, rfl⟩
  · intro entries t e w earlier before watched
    rw [← earlier.options] at before ⊢
    exact watched.arming before (fun v write stage => fresh.begins earlier stage)
      fun stage => (earlier.quiet_of_connecting stage).2

theorem Fresh.unclosed_of_writing {write : Write} (fresh : s.Fresh) (run : Run s entries u)
    (stage : u.stage = .writing w write) : entries.any Entry.closes = false := by
  have begins := fresh.begins run stage
  have arming := fresh.arming run (watch_of_writing stage)
  cases write with
  | ping => exact (arming.unclosed begins).1
  | data | close =>
      rw [← arming.isClosing_eq]
      exact begins

theorem Arming.armed_iff (arming : Arming o entries w) : w.deadlines ≠ [] ↔
    entries.any Entry.wroteClose = true ∨
      o.autoPingInterval.isSome = true ∧ entries.any Entry.readClose = false := by
  have parts := any_closes entries
  rw [← arming.closing.isSome] at parts ⊢
  have armed : w.deadlines ≠ [] ↔ w.nextPing.isSome = true ∨ w.pongDeadline.isSome = true ∨
      w.closeDeadline.isSome = true := by
    cases ping : w.nextPing <;> cases pong : w.pongDeadline <;> cases close : w.closeDeadline <;>
      simp [Watch.deadlines, ping, pong, close]
  rw [armed]
  cases closes : entries.any Entry.closes with
  | true =>
      obtain ⟨no_ping, no_pong⟩ := arming.still closes
      rw [closes] at parts
      rw [no_ping, no_pong]
      grind
  | false =>
      have pinging := arming.pinging closes
      have unpinged := arming.unpinged
      rw [closes] at parts
      cases interval : o.autoPingInterval with
      | none => grind
      | some interval => grind

/-! ## Where nothing is armed -/

/-- The transport neither cancels the connection nor goes away. -/
def Input.isIdle : Input → Bool
  | .command none | .command (some .cancel) => false
  | _ => true

/-- With no deadline armed, only something that is read or a cancel can end a connection that the
    peer has closed. -/
theorem Act.waits (act : s.Act i u outputs) (stage : s.stage = .ready w) (unarmed : w.deadlines = [])
    (closing : w.isClosing = true) (unread : i.reading? = none) (idle : i.isIdle = true) :
    u.stage = .ready w ∧ outputs = [] := by
  have none_armed (d : Instant) : ¬ (w.nextPing = some d ∨ w.pongDeadline = some d ∨
      w.closeDeadline = some d) := by
    rw [← Watch.mem_deadlines, unarmed]
    exact List.not_mem_nil
  have undue {deadline : Option Instant} (armed : ∀ d, deadline ≠ some d) :
      s.isDue deadline ≠ true := by
    intro due
    obtain ⟨d, same, _⟩ := isDue_iff.mp due
    exact armed d same
  cases act with
  | ticked => exact ⟨stage, rfl⟩
  | shaken result other | toldEarly command other =>
      rw [stage] at other
      cases other
  | told v command other =>
      rw [stage] at other
      cases other
      unfold commandWhileReady
      split
      · simp [closing, stage]
      · simp [closing, stage]
      · cases idle
      · cases idle
  | read v reading other => cases unread
  | pinged v other due =>
      rw [stage] at other
      cases other
      exact absurd due (undue fun d same => none_armed d (.inl same))
  | unanswered v other due =>
      rw [stage] at other
      cases other
      exact absurd due (undue fun d same => none_armed d (.inr (.inl same)))
  | unclosed v other due =>
      rw [stage] at other
      cases other
      exact absurd due (undue fun d same => none_armed d (.inr (.inr same)))
  | wrote v write other | unwritten v write fault other =>
      rw [stage] at other
      cases other

theorem Run.waits (run : Run s entries u) (stage : s.stage = .ready w) (unarmed : w.deadlines = [])
    (closing : w.isClosing = true) (unread : ∀ e ∈ entries, e.input.reading? = none)
    (idle : ∀ e ∈ entries, e.input.isIdle = true) :
    u.stage = .ready w ∧ ∀ e ∈ entries, e.outputs = [] := by
  refine run.stays (P := fun i => i.reading? = none ∧ i.isIdle = true) (Q := fun e => e.outputs = [])
    ?_ stage fun e member => ⟨unread e member, idle e member⟩
  rintro t v i outputs there ⟨unread, idle⟩ made
  exact (act_of_step? made).waits there unarmed closing unread idle

/-! ## Where something is armed -/

/-- Some deadline is armed, and this limit leaves time for it and for those that it can set. A ping
    that is due sets a deadline for the pong, but the deadlines for a pong and for the answer to a
    close frame set nothing further. -/
inductive Watch.EndsBy (o : Options) (limit : Int) (clock : Instant) (w : Watch) : Prop where
  | closing (d : Instant) (armed : w.closeDeadline = some d) (late : d.toNanos ≤ limit)
      (now : clock.toNanos ≤ limit) : EndsBy o limit clock w
  | awaiting (d : Instant) (unclosed : w.closeDeadline = none) (armed : w.pongDeadline = some d)
      (late : d.toNanos + o.closeTimeout.toNanos ≤ limit)
      (now : clock.toNanos + o.closeTimeout.toNanos ≤ limit) : EndsBy o limit clock w
  | pinging (n : Instant) (unclosed : w.closeDeadline = none) (unponged : w.pongDeadline = none)
      (armed : w.nextPing = some n)
      (late : n.toNanos + o.autoPingTimeout.toNanos + o.closeTimeout.toNanos ≤ limit)
      (now : clock.toNanos + o.autoPingTimeout.toNanos + o.closeTimeout.toNanos ≤ limit) :
      EndsBy o limit clock w

variable {limit : Int}

theorem Watch.EndsBy.clock_le {clock : Instant} (ends : w.EndsBy o limit clock) :
    clock.toNanos ≤ limit := by
  cases ends <;> omega

theorem Watch.EndsBy.later {c d : Instant} (ends : w.EndsBy o limit c)
    (due : d ≤ c ∨ ∀ n ∈ w.deadlines, d ≤ n) : w.EndsBy o limit d := by
  have reaches {n : Instant} (armed : w.nextPing = some n ∨ w.pongDeadline = some n ∨
      w.closeDeadline = some n) : d.toNanos ≤ c.toNanos ∨ d.toNanos ≤ n.toNanos :=
    due.imp id fun all => all n (Watch.mem_deadlines.mpr armed)
  cases ends with
  | closing n armed late now =>
      have := reaches (.inr (.inr armed))
      exact .closing n armed late (by omega)
  | awaiting n unclosed armed late now =>
      have := reaches (.inr (.inl armed))
      exact .awaiting n unclosed armed late (by omega)
  | pinging n unclosed unponged armed late now =>
      have := reaches (.inl armed)
      exact .pinging n unclosed unponged armed late (by omega)

/-- What is armed at any time ends within an interval and the two timeouts. -/
theorem Watch.Within.endsBy {clock : Instant} (within : w.Within o clock) (armed : w.deadlines ≠ []) :
    w.EndsBy o (clock.toNanos + o.patience) clock := by
  unfold Options.patience
  cases close : w.closeDeadline with
  | some d =>
      have := within.close d close
      exact .closing d close (by omega) (by omega)
  | none =>
      cases pong : w.pongDeadline with
      | some d =>
          have := within.pong d pong
          exact .awaiting d close pong (by omega) (by omega)
      | none =>
          cases ping : w.nextPing with
          | some n =>
              obtain ⟨interval, given, bound⟩ := within.ping n ping
              rw [given, Option.elim_some]
              exact .pinging n close pong ping (by omega) (by omega)
          | none => simp [Watch.deadlines, ping, pong, close] at armed

theorem Watched.endsBy (watched : s.Watched e w) (running : s.stage ≠ .connecting)
    (before : ∀ v, s.stage.watch? = some v → v.EndsBy s.options limit s.clock)
    (arming : ∀ v, s.stage.watch? = some v → Arming s.options entries v)
    (begins : ∀ v write, s.stage = .writing v write → s.Begins v write)
    (keeps : s.keepsTime e.input = true) (unread : e.input.reading? = none) :
    w.EndsBy s.options limit e.time := by
  cases watched with
  | kept w there later time => exact (before w there).later (keepsTime_cases there time keeps)
  | opened next stage => exact absurd stage running
  | ponged | peerClosed => cases unread
  | closed w code reason deadline stage shown =>
      have ahead := Instant.toNanos_of_add? shown
      have there : s.stage.watch? = some w := watch_of_writing stage
      refine .closing deadline rfl ?_ (before w there).clock_le
      cases before w there with
      | closing d armed =>
          have open_still : w.isClosing = false := begins w _ stage
          simp [Watch.isClosing, armed] at open_still
      | awaiting d unclosed armed late now =>
          show deadline.toNanos ≤ limit
          omega
      | pinging n unclosed unponged armed late now =>
          show deadline.toNanos ≤ limit
          omega
  | pinged w next deadline stage paces arms =>
      have there : s.stage.watch? = some w := watch_of_writing stage
      have unclosed : w.closeDeadline = none := by
        obtain ⟨unclosed, _⟩ := (arming w there).unclosed (begins w .ping stage)
        rw [any_closes, Bool.or_eq_false_iff, ← (arming w there).closing.isSome] at unclosed
        exact Option.isSome_eq_false_iff.mp unclosed.1 |> Option.isNone_iff_eq_none.mp
      cases before w there with
      | closing d armed =>
          rw [unclosed] at armed
          cases armed
      | awaiting d _ armed late now =>
          rcases arms with running | ⟨off, _⟩
          · rw [armed] at running
            cases running
            exact .awaiting _ unclosed rfl late now
          · rw [armed] at off
            cases off
      | pinging n _ unponged armed late now =>
          rcases arms with running | ⟨_, shown⟩
          · rw [unponged] at running
            cases running
          · have ahead := Instant.toNanos_of_add? shown
            refine .awaiting deadline unclosed rfl ?_ ?_
            · show deadline.toNanos + s.options.closeTimeout.toNanos ≤ limit
              omega
            · show s.clock.toNanos + s.options.closeTimeout.toNanos ≤ limit
              omega

/-- What the deadlines of an open connection are good for. As long as one of them is armed, silence
    cannot last; where none is, it can last for ever. -/
structure DeadlineContract (o : Options) (entries : List Entry) (u : Socket) : Prop where
  /-- Something is armed if a close frame was written, and else if pings are sent at all and no close
      frame was read. -/
  armed_iff : ∀ w, u.stage.watch? = some w → (w.deadlines ≠ [] ↔
    entries.any Entry.wroteClose = true ∨
      o.autoPingInterval.isSome = true ∧ entries.any Entry.readClose = false)
  /-- Then a connection on which nothing is read is over within an interval and the two timeouts. -/
  bounded : ∀ w more v, u.stage.watch? = some w → w.deadlines ≠ [] → Run u more v →
    u.isTimely more = true → (∀ e ∈ more, e.input.reading? = none) → v.isOver = false →
      v.clock.toNanos ≤ u.clock.toNanos + o.patience
  /-- If the peer has closed and nothing is armed, the connection waits for as long as nothing is
      read, whatever else it is told but to cancel. -/
  waits : ∀ w more v, u.stage = .ready w → w.deadlines = [] →
    entries.any Entry.readClose = true → Run u more v → (∀ e ∈ more, e.input.reading? = none) →
      (∀ e ∈ more, e.input.isIdle = true) → v.stage = .ready w ∧ ∀ e ∈ more, e.outputs = []
  /-- The clock may then come to any time at all. -/
  endless : ∀ w clock, u.stage = .ready w → w.deadlines = [] → u.clock ≤ clock →
    Run u [⟨clock, .tick clock, []⟩] { u with clock := clock } ∧
      u.isTimely [⟨clock, .tick clock, []⟩] = true

theorem tick_unarmed {clock : Instant} (stage : u.stage = .ready w) (unarmed : w.deadlines = [])
    (later : u.clock ≤ clock) : Run u [⟨clock, .tick clock, []⟩] { u with clock := clock } ∧
      u.isTimely [⟨clock, .tick clock, []⟩] = true := by
  have made : u.step? (.tick clock) = some ({ u with clock := clock }, []) := by
    simp [step?, later]
  refine ⟨Run.refl.step (.tick clock) made, ?_⟩
  simp [isTimely, keepsTime, made, stage, unarmed]

theorem Run.bounded {v : Socket} (fresh : s.Fresh) (before : Run s entries u)
    (watch : u.stage.watch? = some w) (armed : w.deadlines ≠ []) (run : Run u more v)
    (timely : u.isTimely more = true) (unread : ∀ e ∈ more, e.input.reading? = none)
    (running : v.isOver = false) :
    v.clock.toNanos ≤ u.clock.toNanos + s.options.patience := by
  have begun : u.stage ≠ .connecting := by
    intro connecting
    rw [connecting] at watch
    cases watch
  obtain ⟨x, watched⟩ := run.watched begun running
  have ends : x.EndsBy s.options (u.clock.toNanos + s.options.patience) v.clock := by
    refine run.watches (P := fun more clock x => u.isTimely more = true →
      (∀ e ∈ more, e.input.reading? = none) →
        x.EndsBy s.options (u.clock.toNanos + s.options.patience) clock) ?_ ?_ watched timely unread
    · intro x there _ _
      rw [watch] at there
      cases there
      exact (fresh.within before watch).endsBy armed
    · intro more t e x earlier ih watched timely unread
      rw [earlier.isTimely_append, Bool.and_eq_true, isTimely, Bool.and_eq_true] at timely
      obtain ⟨kept, last, _⟩ := timely
      have whole := before.trans earlier
      rw [← whole.options] at ih ⊢
      have arming (x : Watch) (there : t.stage.watch? = some x) :
          Arming t.options (entries ++ more) x := by
        rw [whole.options]
        exact fresh.arming whole there
      have before (x : Watch) (there : t.stage.watch? = some x) :=
        ih x there kept fun e member => unread e (List.mem_append_left _ member)
      exact watched.endsBy (fun stage => begun (earlier.quiet_of_connecting stage).1) before arming
        (fun x write stage => fresh.begins whole stage) last
        (unread e (List.mem_append_right _ List.mem_cons_self))
  exact ends.clock_le

/-- In every run, the deadlines are what the contract says. What is armed depends on the close
    frames that were written and read, and on whether pings are sent. After a close frame of the
    peer alone nothing is armed, and only a reading, a cancel or the end of all commands ends the
    wait. -/
theorem Run.deadline_contract {h : Handshake} {nonce : Nonce} {clock : Instant} {first : List Output}
    (start : Socket.start h nonce clock = (s, first)) (run : Run s entries u) :
    DeadlineContract h.options entries u := by
  have fresh := start_fresh start
  rw [← (start_tells start).2]
  constructor
  case armed_iff =>
    intro w watch
    exact (fresh.arming run watch).armed_iff
  case bounded =>
    intro w more v watch armed later timely unread running
    exact run.bounded fresh watch armed later timely unread running
  case waits =>
    intro w more v stage unarmed closed later unread idle
    have watch : u.stage.watch? = some w := watch_of_ready stage
    have closing : w.isClosing = true := by
      rw [Watch.isClosing, (fresh.arming run watch).peerClose, closed]
      rfl
    exact later.waits stage unarmed closing unread idle
  case endless =>
    intro w clock stage unarmed later
    exact tick_unarmed stage unarmed later

/-- The transport closes, and the peer answers but does not end the stream. -/
def answeredInputs : List Input :=
  [.handshake (.ok ()), .command (some (.close 1000 none)), .written (.ok ()),
    .read (.message (.close (some ⟨1000, ""⟩)))]

theorem deadline_contract_of_answered : ∃ (nonce : Nonce) (s : Socket) (first : List Output)
    (u : Socket) (entries : List Entry) (w : Watch),
    Socket.start plainHandshake nonce .zero = (s, first) ∧
    s.replay answeredInputs = some (u, entries) ∧ u.stage = .ready w ∧ w.deadlines ≠ [] ∧
    DeadlineContract plainHandshake.options entries u := by
  refine ⟨_, _, _, _, _, _, start_plain, rfl, rfl, nofun, ?_⟩
  have replayed : (connecting .default .zero).replay answeredInputs = some _ := rfl
  exact Run.deadline_contract start_plain (run_of_replay replayed)

/-- The peer closes by itself, and an hour passes. -/
def abandonedInputs : List Input :=
  [.handshake (.ok ()), .read (.message (.close (some ⟨1000, ""⟩))),
    .tick ⟨3_600_000_000_000, by decide, by decide⟩]

/-- Pings are sent and the peer has closed, but no deadline is armed: the close frame of the peer
    has ended keep-alive, and no deadline stands for the end of the stream. -/
theorem unarmed_after_peer_close : ∃ (nonce : Nonce) (s : Socket) (first : List Output) (u : Socket)
    (entries : List Entry) (w : Watch),
    Socket.start plainHandshake nonce .zero = (s, first) ∧ Run s entries u ∧
    u.options.autoPingInterval.isSome = true ∧ entries.any Entry.readClose = true ∧
    u.stage = .ready w ∧ w.deadlines = [] := by
  have replayed : (connecting .default .zero).replay abandonedInputs = some _ := rfl
  exact ⟨_, _, _, _, _, _, start_plain, run_of_replay replayed, rfl, rfl, rfl, rfl⟩

end Socket

end WampClient
