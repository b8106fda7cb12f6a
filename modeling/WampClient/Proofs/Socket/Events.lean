import WampClient.Proofs.Socket.Crash

/-! # What a socket emits

A socket that does not open fails once, with the first thing that keeps it from opening. One that
opens tells what it reads in the order in which it was read, and its last event tells how it ended: a
close handshake is complete only if the stream ended after a close frame, and then the last close
frame that was read is told.
-/

namespace WampClient

/-- The event that tells what was read. Pings, pongs and single packets are not told. -/
def Reading.event? : Reading → Option Event
  | .message (.close notice) => some (.closing (reported notice).1 (reported notice).2)
  | .message m => (Frame.ofMessage? m).map .message
  | .fault _ | .ended => none

def Reading.endsStream : Reading → Bool
  | .fault .connectionClosed | .fault .alreadyClosed | .ended => true
  | .message _ | .fault _ => false

def Event.closing? : Event → Option (UInt16 × String)
  | .closing code reason => some (code, reason)
  | .opened | .message _ | .closed _ _ | .failure _ => none

def Event.lastClosing (events : List Event) : Option (UInt16 × String) :=
  (events.filterMap closing?).getLast?

theorem Event.lastClosing_append (first more : List Event) :
    lastClosing (first ++ more) = (lastClosing more).or (lastClosing first) := by
  rw [lastClosing, List.filterMap_append, List.getLast?_append]
  rfl

theorem Event.lastClosing_of_isTerminal {e : Event} (last : e.isTerminal = true) :
    lastClosing [e] = none := by
  cases e <;> first | rfl | cases last

theorem Reading.unended_of_event? {r : Reading} {e : Event} (told : r.event? = some e) :
    e.isTerminal = false := by
  cases r with
  | message m => cases m <;> cases told <;> rfl
  | fault | ended => cases told

theorem Reading.event?_of_endsStream {r : Reading} (ends : r.endsStream = true) : r.event? = none := by
  cases r with
  | message => cases ends
  | fault | ended => rfl

namespace Socket

variable {s t u : Socket} {i : Input} {inputs : List Input} {events : List Event}
  {outputs first : List Output} {entries : List Entry}

def Input.reading? : Input → Option Reading
  | .read r => some r
  | _ => none

def readings (inputs : List Input) : List Reading :=
  inputs.filterMap Input.reading?

/-- What keeps a socket from opening. -/
def Input.refusal? : Input → Option Error
  | .handshake (.error fault) => some (.webSocket fault)
  | .command (some (.close _ _)) | .command (some .cancel) => some (.connection .cancelledBeforeOpen)
  | .command none => some (.connection .transportDropped)
  | _ => none

/-- What keeps a socket from opening before or after it has started. -/
def refusals (unusable : Option Error) (inputs : List Input) : List Error :=
  unusable.toList ++ inputs.filterMap Input.refusal?

def Opens (inputs : List Input) : Prop :=
  .handshake (.ok ()) ∈ inputs

theorem readings_append (first more : List Input) :
    readings (first ++ more) = readings first ++ readings more :=
  List.filterMap_append

theorem refusals_append (unusable : Option Error) (first more : List Input) :
    refusals unusable (first ++ more) = refusals unusable first ++ more.filterMap Input.refusal? := by
  rw [refusals, List.filterMap_append, ← List.append_assoc, refusals]

theorem emitted_append (first more : List Output) :
    emitted (first ++ more) = emitted first ++ emitted more :=
  List.filterMap_append

/-! ## What was emitted, stage by stage -/

/-- On an open connection all that was read was told, and no reading has ended the stream. -/
structure Served (inputs : List Input) (events : List Event) : Prop where
  opened : Opens inputs
  served : events = .opened :: (readings inputs).filterMap Reading.event?
  unended : ∀ r ∈ readings inputs, r.endsStream = false

/-- After all that was read, the last event tells how the connection ended. -/
structure Ended (inputs : List Input) (events : List Event) : Prop where
  opened : Opens inputs
  unended : ∀ r ∈ (readings inputs).dropLast, r.endsStream = false
  ended : ∃ last : Event, last.isTerminal = true ∧
    events = .opened :: (readings inputs).filterMap Reading.event? ++ [last] ∧
    ∀ code reason, last = .closed code reason ↔ (∃ r ∈ readings inputs, r.endsStream = true) ∧
      Event.lastClosing events = some (code, reason)

/-- The connection never opened, and the only event tells why. -/
structure Refused (unusable : Option Error) (inputs : List Input) (events : List Event) : Prop where
  unopened : ¬ Opens inputs
  unread : readings inputs = []
  refused : ∃ e : Error, refusals unusable inputs = [e] ∧ events = [.failure e.message]

/-- What a socket in this stage has emitted, as a function of what it has taken in. This is the
    invariant behind the contract: while the connection is open all readings were told, and once it
    is over the last event says which of them has ended it. -/
def Tells (unusable : Option Error) (inputs : List Input) (events : List Event) : Stage → Prop
  | .connecting =>
    ¬ Opens inputs ∧ readings inputs = [] ∧ refusals unusable inputs = [] ∧ events = []
  | .ready w | .writing w _ => Served inputs events ∧ w.peerClose = Event.lastClosing events
  | .crashed => Served inputs events
  | .finished => Ended inputs events ∨ Refused unusable inputs events

theorem Opens.append (opened : Opens inputs) (more : List Input) : Opens (inputs ++ more) :=
  List.mem_append_left _ opened

theorem opens_append_iff (unshaken : i ≠ .handshake (.ok ())) : Opens (inputs ++ [i]) ↔ Opens inputs := by
  simp [Opens, Ne.symm unshaken]

theorem readings_quiet (unread : i.reading? = none) : readings (inputs ++ [i]) = readings inputs := by
  rw [readings_append]
  simp [readings, unread]

theorem readings_read (inputs : List Input) (r : Reading) :
    readings (inputs ++ [.read r]) = readings inputs ++ [r] := by
  rw [readings_append]
  rfl

namespace Served

theorem quiet (served : Served inputs events) (unread : i.reading? = none) :
    Served (inputs ++ [i]) events := by
  refine ⟨served.opened.append _, ?_, ?_⟩
  · rw [readings_quiet unread]
    exact served.served
  · rw [readings_quiet unread]
    exact served.unended

theorem read {r : Reading} (served : Served inputs events) (unended : r.endsStream = false) :
    Served (inputs ++ [.read r]) (events ++ r.event?.toList) := by
  constructor
  case opened => exact served.opened.append _
  case served =>
    rw [served.served, readings_read, List.filterMap_append]
    cases told : r.event? <;> simp [told]
  case unended =>
    intro x member
    rw [readings_read] at member
    rcases List.mem_append.mp member with earlier | now
    · exact served.unended x earlier
    · obtain rfl := List.mem_singleton.mp now
      exact unended

theorem fails (served : Served inputs events) (message : String) :
    Ended inputs (events ++ [.failure message]) := by
  refine ⟨served.opened, fun r member => served.unended r (List.dropLast_subset _ member),
    .failure message, rfl, ?_, ?_⟩
  · rw [served.served]
  · intro code reason
    constructor
    · intro same
      cases same
    · rintro ⟨⟨r, member, ends⟩, _⟩
      rw [served.unended r member] at ends
      cases ends

theorem breaks {r : Reading} (served : Served inputs events) (unended : r.endsStream = false)
    (untold : r.event? = none) (message : String) :
    Ended (inputs ++ [.read r]) (events ++ [.failure message]) := by
  have read := served.read unended
  rw [untold, Option.toList_none, List.append_nil] at read
  exact read.fails message

theorem stops {r : Reading} {w : Watch} (served : Served inputs events) (ends : r.endsStream = true)
    (peerClose : w.peerClose = Event.lastClosing events) :
    Ended (inputs ++ [.read r]) (events ++ emitted (s.streamEnded w).2) := by
  have told : (readings (inputs ++ [.read r])).filterMap Reading.event? =
      (readings inputs).filterMap Reading.event? := by
    rw [readings_read, List.filterMap_append]
    simp [Reading.event?_of_endsStream ends]
  have gone : ∃ x ∈ readings (inputs ++ [.read r]), x.endsStream = true :=
    ⟨r, by simp [readings_read], ends⟩
  have unended : ∀ x ∈ (readings (inputs ++ [.read r])).dropLast, x.endsStream = false := by
    rw [readings_read, List.dropLast_concat]
    exact served.unended
  cases closing : w.peerClose with
  | none =>
      have output : emitted (s.streamEnded w).2 =
          [.failure (Error.connection .endedWithoutClose).message] := by
        simp only [streamEnded, closing]
        rfl
      refine ⟨served.opened.append _, unended, _, rfl, by rw [output, told, ← served.served], ?_⟩
      intro code reason
      rw [output, Event.lastClosing_append, ← peerClose, closing]
      simp [Event.lastClosing_of_isTerminal (e := .failure _) rfl]
  | some close =>
      obtain ⟨code, reason⟩ := close
      have output : emitted (s.streamEnded w).2 = [.closed code reason] := by
        simp only [streamEnded, closing]
        rfl
      refine ⟨served.opened.append _, unended, .closed code reason, rfl,
        by rw [output, told, ← served.served], ?_⟩
      intro code' reason'
      rw [output, Event.lastClosing_append, ← peerClose, closing,
        Event.lastClosing_of_isTerminal rfl, Option.none_or]
      constructor
      · intro same
        cases same
        exact ⟨gone, rfl⟩
      · rintro ⟨_, same⟩
        cases same
        rfl

end Served

theorem Tells.tick {unusable : Option Error} {stage : Stage} (tells : Tells unusable inputs events stage)
    (clock : Instant) : Tells unusable (inputs ++ [.tick clock]) events stage := by
  have opens : Opens (inputs ++ [.tick clock]) ↔ Opens inputs := opens_append_iff nofun
  have read : readings (inputs ++ [.tick clock]) = readings inputs := readings_quiet rfl
  have refused : refusals unusable (inputs ++ [.tick clock]) = refusals unusable inputs := by
    rw [refusals_append]
    exact List.append_nil _
  cases stage with
  | connecting =>
      simp only [Tells, opens, read, refused]
      exact tells
  | ready w | writing w write => exact ⟨tells.1.quiet rfl, tells.2⟩
  | crashed => exact Served.quiet tells rfl
  | finished =>
      rcases tells with ⟨opened, unended, ended⟩ | ⟨unopened, unread, refusal⟩
      · exact .inl ⟨opened.append _, read ▸ unended, read ▸ ended⟩
      · exact .inr ⟨(not_congr opens).mpr unopened, read ▸ unread, refused ▸ refusal⟩

section stages

variable {unusable : Option Error} {w : Watch}

theorem Tells.refuse {e : Error} (tells : Tells unusable inputs events .connecting)
    (refusal : i.refusal? = some e) (unread : i.reading? = none) :
    Tells unusable (inputs ++ [i]) (events ++ emitted (s.fail e).2) (s.fail e).1.stage := by
  obtain ⟨unopened, none_read, none_refused, rfl⟩ := tells
  have unshaken : i ≠ .handshake (.ok ()) := by
    rintro rfl
    cases refusal
  refine .inr ⟨(not_congr (opens_append_iff unshaken)).mpr unopened, (readings_quiet unread).trans none_read,
    e, ?_, rfl⟩
  rw [refusals_append, none_refused]
  simp [refusal]

theorem Tells.serve {v : Watch} {stage : Stage}
    (served : Served inputs events ∧ w.peerClose = Event.lastClosing events)
    (unread : i.reading? = none)
    (next : stage = .ready v ∨ (∃ write, stage = .writing v write) ∨ stage = .crashed)
    (kept : v.peerClose = w.peerClose) : Tells unusable (inputs ++ [i]) (events ++ []) stage := by
  rw [List.append_nil]
  have still := served.1.quiet (i := i) unread
  rcases next with rfl | ⟨write, rfl⟩ | rfl
  · exact ⟨still, kept.trans served.2⟩
  · exact ⟨still, kept.trans served.2⟩
  · exact still

theorem Tells.fail {e : Error} (served : Served inputs events) (unread : i.reading? = none) :
    Tells unusable (inputs ++ [i]) (events ++ emitted (s.fail e).2) (s.fail e).1.stage :=
  .inl ((served.quiet unread).fails e.message)

theorem afterHandshake_tells (tells : Tells unusable inputs events .connecting)
    (result : Except WebSocket.Fault Unit) :
    Tells unusable (inputs ++ [.handshake result]) (events ++ emitted (s.afterHandshake result).2)
      (s.afterHandshake result).1.stage := by
  cases result with
  | error fault => exact tells.refuse rfl rfl
  | ok =>
      obtain ⟨_, none_read, _, rfl⟩ := tells
      have served : Served (inputs ++ [.handshake (.ok ())]) [.opened] := by
        refine ⟨List.mem_append_right _ List.mem_cons_self, ?_, ?_⟩
        · rw [readings_quiet rfl, none_read]
          rfl
        · rw [readings_quiet rfl, none_read]
          nofun
      simp only [afterHandshake]
      rcases s.schedulePing_cases ⟨none, none, none, none⟩ with ⟨next, _, set⟩ | crashed
      · rw [set]
        exact ⟨served, rfl⟩
      · rw [crashed]
        exact served

theorem commandWhileConnecting_tells (stage : s.stage = .connecting)
    (tells : Tells unusable inputs events .connecting) (c : Option Command) :
    Tells unusable (inputs ++ [.command c]) (events ++ emitted (s.commandWhileConnecting c).2)
      (s.commandWhileConnecting c).1.stage := by
  cases c with
  | none => exact tells.refuse rfl rfl
  | some c =>
      cases c with
      | send f =>
          obtain ⟨unopened, none_read, none_refused, rfl⟩ := tells
          simp only [commandWhileConnecting, stage]
          have unopened' : ¬ Opens (inputs ++ [.command (some (.send f))]) :=
            (not_congr (opens_append_iff (by simp))).mpr unopened
          refine ⟨unopened', (readings_quiet rfl).trans none_read, ?_, rfl⟩
          rw [refusals_append, none_refused]
          rfl
      | close | cancel => exact tells.refuse rfl rfl

theorem commandWhileReady_tells (stage : s.stage = .ready w)
    (served : Served inputs events ∧ w.peerClose = Event.lastClosing events) (c : Option Command) :
    Tells unusable (inputs ++ [.command c]) (events ++ emitted (s.commandWhileReady w c).2)
      (s.commandWhileReady w c).1.stage := by
  cases c with
  | none => exact Tells.fail served.1 rfl
  | some c =>
      cases c with
      | send f | close code reason =>
          simp only [commandWhileReady]
          refine Tells.serve served rfl ?_ rfl
          cases w.isClosing with
          | true => exact .inl stage
          | false => exact .inr (.inl ⟨_, rfl⟩)
      | cancel => exact Tells.fail served.1 rfl

theorem readMessage_tells (stage : s.stage = .ready w)
    (served : Served inputs events ∧ w.peerClose = Event.lastClosing events) (m : WebSocket.Message) :
    Tells unusable (inputs ++ [.read (.message m)]) (events ++ emitted (s.readMessage w m).2)
      (s.readMessage w m).1.stage := by
  have read := served.1.read (r := .message m) rfl
  cases m with
  | close notice =>
      refine ⟨read, ?_⟩
      rw [Event.lastClosing_append]
      rfl
  | pong content =>
      refine ⟨read, ?_⟩
      rw [Event.lastClosing_append]
      exact served.2
  | text | binary | ping | packet =>
      simp only [readMessage, Frame.ofMessage?, stage]
      refine ⟨read, ?_⟩
      rw [Event.lastClosing_append]
      exact served.2

theorem readWhileReady_tells (stage : s.stage = .ready w)
    (served : Served inputs events ∧ w.peerClose = Event.lastClosing events) (r : Reading) :
    Tells unusable (inputs ++ [.read r]) (events ++ emitted (s.readWhileReady w r).2)
      (s.readWhileReady w r).1.stage := by
  have stops (ends : r.endsStream = true) :
      Tells unusable (inputs ++ [.read r]) (events ++ emitted (s.streamEnded w).2)
        (s.streamEnded w).1.stage := by
    obtain ⟨e, _, ended⟩ := s.streamEnded_cases w
    have gone : (s.streamEnded w).1.stage = .finished := by rw [ended]; rfl
    rw [gone]
    exact .inl (served.1.stops ends served.2)
  cases r with
  | message m => exact readMessage_tells stage served m
  | ended => exact stops rfl
  | fault fault =>
      cases fault with
      | connectionClosed | alreadyClosed => exact stops rfl
      | _ => exact .inl (served.1.breaks rfl rfl _)

theorem afterWrite_tells {write : Write}
    (served : Served inputs events ∧ w.peerClose = Event.lastClosing events) :
    Tells unusable (inputs ++ [.written (.ok ())]) (events ++ []) (s.afterWrite w write).stage := by
  cases write with
  | data f => exact Tells.serve served rfl (.inl rfl) rfl
  | close code reason =>
      rcases s.afterClose_cases w code reason with ⟨deadline, _, set⟩ | crashed
      · rw [set]
        exact Tells.serve served rfl (.inl rfl) rfl
      · rw [crashed]
        exact Tells.serve served rfl (.inr (.inr rfl)) rfl
  | ping =>
      rcases s.afterPing_cases w with ⟨next, deadline, _, _, set⟩ | crashed
      · rw [set]
        exact Tells.serve served rfl (.inl rfl) rfl
      · rw [crashed]
        exact Tells.serve served rfl (.inr (.inr rfl)) rfl

/-- Each input keeps what was emitted in step with the stage. -/
theorem Act.tells (act : Act s i u outputs) (tells : Tells unusable inputs events s.stage) :
    Tells unusable (inputs ++ [i]) (events ++ emitted outputs) u.stage := by
  cases act with
  | ticked clock later =>
      have still := tells.tick clock
      rwa [← List.append_nil events] at still
  | shaken result stage => exact afterHandshake_tells (stage ▸ tells) result
  | toldEarly c stage => exact commandWhileConnecting_tells stage (stage ▸ tells) c
  | told w c stage =>
      rw [stage] at tells
      exact commandWhileReady_tells stage tells c
  | read w r stage =>
      rw [stage] at tells
      exact readWhileReady_tells stage tells r
  | pinged w stage due =>
      rw [stage] at tells
      exact Tells.serve tells rfl (.inr (.inl ⟨.ping, rfl⟩)) rfl
  | unanswered w stage due | unclosed w stage due =>
      rw [stage] at tells
      exact Tells.fail (s := s) tells.1 rfl
  | wrote w write stage =>
      rw [stage] at tells
      exact afterWrite_tells tells
  | unwritten w write fault stage =>
      rw [stage] at tells
      exact Tells.fail (s := s) tells.1 rfl

end stages

/-! ## Runs -/

theorem crashed_cases (made : s.step? i = some (u, outputs)) (crashed : u.stage = .crashed) :
    s.stage = .crashed ∨ ∃ d ∈ s.options.spans, s.clock.add? d = none := by
  by_cases earlier : s.stage = .crashed
  · exact .inl earlier
  · obtain ⟨d, among, unshown⟩ := (crashed_iff made earlier).mp crashed
    exact .inr ⟨d, measured_mem_spans among, unshown⟩

theorem afterWrite_goTo (s : Socket) (w : Watch) (write : Write) :
    ∃ stage, s.afterWrite w write = s.goTo stage := by
  cases write with
  | data f => exact ⟨_, rfl⟩
  | close code reason =>
      rcases s.afterClose_cases w code reason with ⟨_, _, set⟩ | crashed
      · exact ⟨_, set⟩
      · exact ⟨_, crashed⟩
  | ping =>
      rcases s.afterPing_cases w with ⟨_, _, _, _, set⟩ | crashed
      · exact ⟨_, set⟩
      · exact ⟨_, crashed⟩

theorem Act.goTo_cases (act : Act s i u outputs) :
    (∃ clock, u = { s with clock := clock }) ∨ ∃ stage, u = s.goTo stage := by
  cases act with
  | ticked clock => exact .inl ⟨clock, rfl⟩
  | shaken result =>
      cases result with
      | error => exact .inr ⟨_, rfl⟩
      | ok =>
          rcases s.schedulePing_cases ⟨none, none, none, none⟩ with ⟨_, _, set⟩ | crashed
          · exact .inr ⟨_, set⟩
          · exact .inr ⟨_, crashed⟩
  | toldEarly c =>
      unfold commandWhileConnecting
      split
      · exact .inr ⟨s.stage, rfl⟩
      all_goals exact .inr ⟨_, rfl⟩
  | told w c =>
      unfold commandWhileReady
      split
      · split
        · exact .inr ⟨s.stage, rfl⟩
        · exact .inr ⟨_, rfl⟩
      · split
        · exact .inr ⟨s.stage, rfl⟩
        · exact .inr ⟨_, rfl⟩
      · exact .inr ⟨_, rfl⟩
      · exact .inr ⟨_, rfl⟩
  | read w r =>
      rcases (s.readWhileReady_cases w r).1 with same | ⟨_, next⟩ | ended
      · exact .inr ⟨s.stage, same⟩
      · exact .inr ⟨_, next⟩
      · exact .inr ⟨_, ended⟩
  | wrote w write => exact .inr (s.afterWrite_goTo w write)
  | pinged | unanswered | unclosed | unwritten => exact .inr ⟨_, rfl⟩

theorem Act.options (act : Act s i u outputs) : u.options = s.options := by
  rcases act.goTo_cases with ⟨clock, rfl⟩ | ⟨stage, rfl⟩ <;> rfl

/-- Everything that a run takes in, and the events that it gives. -/
def taken (entries : List Entry) : List Input :=
  entries.map Entry.input

def given (first : List Output) (entries : List Entry) : List Event :=
  emitted (first ++ entries.flatMap Entry.outputs)

/-- Why a socket cannot even ask for a connection. -/
def unusable (h : Handshake) (nonce : Nonce) : Option Error :=
  match h.request nonce with
  | .ok _ => none
  | .error e => some e

theorem given_append (first : List Output) (entries more : List Entry) :
    given first (entries ++ more) = given first entries ++ emitted (more.flatMap Entry.outputs) := by
  rw [given, List.flatMap_append, ← List.append_assoc, emitted_append, given]

section runs

variable {h : Handshake} {nonce : Nonce} {clock : Instant}

theorem start_tells (start : Socket.start h nonce clock = (s, first)) :
    Tells (unusable h nonce) [] (emitted first) s.stage ∧ s.options = h.options := by
  unfold Socket.start at start
  split at start
  · rename_i usable
    cases start
    have none_refused : unusable h nonce = none := by rw [unusable, usable]
    rw [none_refused]
    exact ⟨⟨nofun, rfl, rfl, rfl⟩, rfl⟩
  · rename_i e refused
    cases start
    have refusal : unusable h nonce = some e := by rw [unusable, refused]
    rw [refusal]
    exact ⟨.inr ⟨nofun, rfl, e, rfl, rfl⟩, rfl⟩

theorem Run.options (run : Run s entries u) : u.options = s.options := by
  induction run with
  | refl => rfl
  | step before i made ih => exact (act_of_step? made).options.trans ih

theorem Run.tells (start : Socket.start h nonce clock = (s, first)) (run : Run s entries u) :
    Tells (unusable h nonce) (taken entries) (given first entries) u.stage := by
  induction run with
  | refl =>
      rw [given, List.flatMap_nil, List.append_nil]
      exact (start_tells start).1
  | step before i made ih =>
      rw [taken, List.map_append, given_append, List.flatMap_singleton]
      exact (act_of_step? made).tells ih

theorem Run.crashed (run : Run s entries u) (begun : s.stage ≠ .crashed)
    (crashed : u.stage = .crashed) :
    ∃ entry ∈ entries, ∃ d ∈ s.options.spans, entry.time.add? d = none := by
  induction run with
  | refl => exact absurd crashed begun
  | @step t u entries outputs before i made ih =>
      have act := act_of_step? made
      by_cases earlier : t.stage = .crashed
      · obtain ⟨entry, member, unshown⟩ := ih earlier
        exact ⟨entry, List.mem_append_left _ member, unshown⟩
      · obtain ⟨d, among, unshown⟩ := (crashed_cases made crashed).resolve_left earlier
        refine ⟨_, List.mem_append_right _ List.mem_cons_self, d, before.options ▸ among, ?_⟩
        rcases act.goTo_cases with ⟨clock, rfl⟩ | ⟨stage, rfl⟩
        · exact absurd crashed earlier
        · exact unshown

theorem Run.trans {more : List Entry} (run : Run s entries t) (next : Run t more u) :
    Run s (entries ++ more) u := by
  induction next with
  | refl => rwa [List.append_nil]
  | step _ i made ih =>
      rw [← List.append_assoc]
      exact ih.step i made

/-- A run does not leave a stage that none of its inputs leads out of. -/
theorem Run.stays {stage : Stage} {P : Input → Prop} {Q : Entry → Prop} (run : Run s entries u)
    (step : ∀ (t v : Socket) i outputs, t.stage = stage → P i → t.step? i = some (v, outputs) →
      v.stage = stage ∧ Q ⟨v.clock, i, outputs⟩)
    (begun : s.stage = stage) (all : ∀ e ∈ entries, P e.input) :
    u.stage = stage ∧ ∀ e ∈ entries, Q e := by
  induction run with
  | refl => exact ⟨begun, List.forall_mem_nil _⟩
  | step before i made ih =>
      obtain ⟨there, earlier⟩ := ih fun e member => all e (List.mem_append_left _ member)
      obtain ⟨still, last⟩ :=
        step _ _ i _ there (all _ (List.mem_append_right _ List.mem_cons_self)) made
      exact ⟨still, List.forall_mem_append.mpr ⟨earlier, List.forall_mem_singleton.mpr last⟩⟩

theorem split_snoc {α : Type} {first before after : List α} {x y : α}
    (same : first ++ [y] = before ++ x :: after) :
    (∃ rest, first = before ++ x :: rest ∧ after = rest ++ [y]) ∨
      before = first ∧ x = y ∧ after = [] := by
  rcases List.eq_nil_or_concat after with rfl | ⟨rest, last, rfl⟩
  · obtain ⟨rfl, one⟩ := List.append_inj' same rfl
    cases one
    exact .inr ⟨rfl, rfl, rfl⟩
  · have parts : first ++ [y] = before ++ x :: rest ++ [last] := by
      simpa using same
    obtain ⟨rfl, one⟩ := List.append_inj' parts rfl
    cases one
    exact .inl ⟨rest, rfl, List.concat_eq_append⟩

/-- Each entry of a run was made between a run before it and a run after it. -/
theorem Run.split {before after : List Entry} {entry : Entry}
    (run : Run s (before ++ entry :: after) u) : ∃ t v, Run s before t ∧
      t.step? entry.input = some (v, entry.outputs) ∧ v.clock = entry.time ∧ Run v after u := by
  generalize whole : before ++ entry :: after = entries at run
  induction run generalizing after with
  | refl => simp at whole
  | @step t v entries outputs earlier i made ih =>
      rcases split_snoc whole.symm with ⟨rest, same, rfl⟩ | ⟨rfl, rfl, rfl⟩
      · obtain ⟨w, x, first, stepped, time, rested⟩ := ih same.symm
        exact ⟨w, x, first, stepped, time, rested.step i made⟩
      · exact ⟨t, v, earlier, made, rfl, .refl⟩

theorem Run.split_behind {before after : List Entry} {c e : Entry}
    (run : Run s (before ++ c :: after) u) (member : e ∈ after) : ∃ between t v,
      Run s (before ++ c :: between) t ∧ t.step? e.input = some (v, e.outputs) ∧
      v.clock = e.time := by
  obtain ⟨between, later, rfl⟩ := List.append_of_mem member
  have whole : before ++ c :: (between ++ e :: later) = (before ++ c :: between) ++ e :: later := by
    simp
  rw [whole] at run
  obtain ⟨t, v, earlier, made, time, _⟩ := run.split
  exact ⟨between, t, v, earlier, made, time⟩

end runs

/-- What a socket emits, whatever happens to it: either nothing but a failure, or the event that
    opens it, then what it reads, and at last one event that tells how it has ended. `first` is what
    it does as it starts, and `entries` is what follows. -/
structure EventContract (h : Handshake) (nonce : Nonce) (s : Socket) (first : List Output)
    (entries : List Entry) (u : Socket) : Prop where
  /-- A socket that has not opened has emitted nothing, or has failed with what keeps it from opening. -/
  unopened : ¬ Opens (taken entries) → ∃ refusal : Option Error,
    refusals (unusable h nonce) (taken entries) = refusal.toList ∧
      given first entries = refusal.toList.map (.failure ·.message)
  /-- One that has opened tells what it reads, and at last how it has ended. -/
  opened : Opens (taken entries) → ∃ last : Option Event, (∀ e ∈ last, e.isTerminal = true) ∧
    given first entries =
      .opened :: (readings (taken entries)).filterMap Reading.event? ++ last.toList
  closed_iff : ∀ code reason, .closed code reason ∈ given first entries ↔
    (∃ r ∈ readings (taken entries), r.endsStream = true) ∧
      Event.lastClosing (given first entries) = some (code, reason)
  /-- As long as the clock can show the deadlines, a socket that is over has told its end. -/
  ended : (∀ entry ∈ entries, ∀ d ∈ h.options.spans, entry.time.add? d ≠ none) →
    (u.isOver = true ↔ ∃ e ∈ given first entries, e.isTerminal = true)
  /-- A frame that comes before the socket has opened makes no difference. -/
  discarded : ∀ before time f outputs after,
    entries = before ++ ⟨time, .command (some (.send f)), outputs⟩ :: after →
      ¬ Opens (taken before) → outputs = [] ∧ Run s (before ++ after) u

section contract

variable {unusable : Option Error} {stage : Stage}

theorem Served.unended_events (served : Served inputs events) :
    ∀ e ∈ events, e.isTerminal = false := by
  rw [served.served]
  intro e member
  rcases List.mem_cons.mp member with rfl | told
  · rfl
  · obtain ⟨r, _, same⟩ := List.mem_filterMap.mp told
    exact Reading.unended_of_event? same

theorem Tells.unended (tells : Tells unusable inputs events stage) (running : stage ≠ .finished) :
    ∀ e ∈ events, e.isTerminal = false := by
  cases stage with
  | connecting =>
      obtain ⟨_, _, _, rfl⟩ := tells
      nofun
  | ready | writing => exact tells.1.unended_events
  | crashed => exact Served.unended_events tells
  | finished => exact absurd rfl running

theorem Tells.ended_of_finished (tells : Tells unusable inputs events .finished) :
    ∃ e ∈ events, e.isTerminal = true := by
  rcases tells with ⟨_, _, last, terminal, told, _⟩ | ⟨_, _, e, _, rfl⟩
  · exact ⟨last, by simp [told], terminal⟩
  · exact ⟨_, List.mem_singleton_self _, rfl⟩

theorem Tells.unopened (tells : Tells unusable inputs events stage) (unopened : ¬ Opens inputs) :
    ∃ refusal : Option Error, refusals unusable inputs = refusal.toList ∧
      events = refusal.toList.map (.failure ·.message) := by
  cases stage with
  | connecting =>
      obtain ⟨_, _, none_refused, rfl⟩ := tells
      exact ⟨none, none_refused, rfl⟩
  | ready | writing => exact absurd tells.1.opened unopened
  | crashed => exact absurd (Served.opened tells) unopened
  | finished =>
      rcases tells with ended | ⟨_, _, e, refused, rfl⟩
      · exact absurd ended.opened unopened
      · exact ⟨some e, refused, rfl⟩

theorem Tells.unread (tells : Tells unusable inputs events stage) (unopened : ¬ Opens inputs) :
    readings inputs = [] := by
  cases stage with
  | connecting => exact tells.2.1
  | ready | writing => exact absurd tells.1.opened unopened
  | crashed => exact absurd (Served.opened tells) unopened
  | finished =>
      rcases tells with ended | refused
      · exact absurd ended.opened unopened
      · exact refused.unread

theorem Tells.opened (tells : Tells unusable inputs events stage) (opened : Opens inputs) :
    ∃ last : Option Event, (∀ e ∈ last, e.isTerminal = true) ∧
      events = .opened :: (readings inputs).filterMap Reading.event? ++ last.toList := by
  have goes_on (served : Served inputs events) : ∃ last : Option Event,
      (∀ e ∈ last, e.isTerminal = true) ∧
        events = .opened :: (readings inputs).filterMap Reading.event? ++ last.toList :=
    ⟨none, nofun, served.served.trans (List.append_nil _).symm⟩
  cases stage with
  | connecting => exact absurd opened tells.1
  | ready | writing => exact goes_on tells.1
  | crashed => exact goes_on tells
  | finished =>
      rcases tells with ⟨_, _, last, terminal, told, _⟩ | refused
      · refine ⟨some last, ?_, told⟩
        intro e member
        cases Option.mem_def.mp member
        exact terminal
      · exact absurd opened refused.unopened

theorem Tells.closed_iff (tells : Tells unusable inputs events stage) (code : UInt16)
    (reason : String) : .closed code reason ∈ events ↔
      (∃ r ∈ readings inputs, r.endsStream = true) ∧
        Event.lastClosing events = some (code, reason) := by
  have running (unread : ∀ r ∈ readings inputs, r.endsStream = false) (going : stage ≠ .finished) :
      .closed code reason ∈ events ↔ (∃ r ∈ readings inputs, r.endsStream = true) ∧
        Event.lastClosing events = some (code, reason) := by
    constructor
    · intro member
      cases tells.unended going _ member
    · rintro ⟨⟨r, member, ends⟩, _⟩
      rw [unread r member] at ends
      cases ends
  cases stage with
  | connecting =>
      refine running ?_ nofun
      rw [tells.2.1]
      nofun
  | ready | writing => exact running tells.1.unended nofun
  | crashed => exact running (Served.unended tells) nofun
  | finished =>
      rcases tells with ⟨_, _, last, terminal, told, verdict⟩ | ⟨_, unread, e, _, rfl⟩
      · rw [← verdict code reason]
        constructor
        · intro member
          rw [told] at member
          rcases List.mem_append.mp member with earlier | now
          · rcases List.mem_cons.mp earlier with same | event
            · cases same
            · obtain ⟨r, _, same⟩ := List.mem_filterMap.mp event
              cases Reading.unended_of_event? same
          · exact (List.mem_singleton.mp now).symm
        · rintro rfl
          simp [told]
      · simp [unread]

end contract

/-- In every run, a socket keeps the contract. It is read off `Tells`, which each input keeps. What
    could break it is a clock that does not show a deadline; then the socket crashes and tells no
    end. -/
theorem Run.event_contract {h : Handshake} {nonce : Nonce} {clock : Instant}
    (start : Socket.start h nonce clock = (s, first)) (run : Run s entries u) :
    EventContract h nonce s first entries u := by
  have tells := run.tells start
  constructor
  case unopened => exact tells.unopened
  case opened => exact tells.opened
  case closed_iff => exact tells.closed_iff
  case ended =>
    intro shown
    have begun : s.stage ≠ .crashed := by
      intro crashed
      have told := (start_tells start).1
      rw [crashed] at told
      cases Served.opened told
    have uncrashed : u.stage ≠ .crashed := by
      intro crashed
      obtain ⟨entry, member, d, among, unshown⟩ := run.crashed begun crashed
      exact shown entry member d ((start_tells start).2 ▸ among) unshown
    constructor
    · intro gone
      have finished : u.stage = .finished := by simpa [isOver, uncrashed] using gone
      exact (finished ▸ tells).ended_of_finished
    · rintro ⟨e, member, last⟩
      apply Classical.byContradiction
      intro running
      have unended := tells.unended (by simp_all [isOver]) e member
      rw [last] at unended
      cases unended
  case discarded =>
    intro before time f outputs after whole unopened
    subst whole
    obtain ⟨t, v, earlier, made, _, later⟩ := run.split
    have told := earlier.tells start
    have act := act_of_step? made
    cases act with
    | toldEarly _ stage => exact ⟨rfl, earlier.trans later⟩
    | told w _ stage =>
        rw [stage] at told
        exact absurd told.1.opened unopened

/-- Lets these inputs happen one after the other, if they can. -/
def replay (s : Socket) : List Input → Option (Socket × List Entry)
  | [] => some (s, [])
  | i :: rest =>
    (s.step? i).bind fun (t, outputs) => (t.replay rest).map fun (u, entries) =>
      (u, ⟨t.clock, i, outputs⟩ :: entries)

theorem run_of_replay (replayed : s.replay inputs = some (u, entries)) : Run s entries u := by
  induction inputs generalizing s entries with
  | nil =>
      cases replayed
      exact .refl
  | cons i rest ih =>
      obtain ⟨⟨t, outputs⟩, made, replayed⟩ := Option.bind_eq_some_iff.mp replayed
      obtain ⟨⟨v, more⟩, rested, same⟩ := Option.map_eq_some_iff.mp replayed
      cases same
      exact (Run.refl.step i made).trans (ih rested)

/-- A frame comes too early, and the peer closes twice, at last without a code. -/
def closedInputs : List Input :=
  [.command (some (.send (.binary [1]))), .handshake (.ok ()), .read (.message (.text "a")),
    .read (.message (.ping [2])), .read (.message (.close (some ⟨1000, "bye"⟩))),
    .read (.message (.binary [3])), .read (.message (.close none)), .read .ended]

def plainHandshake : Handshake :=
  ⟨⟨⟨.ws, [], [], .domain "host".toList, none, ["rpc".toList], none, none⟩, .inl rfl⟩, "wamp.2.json",
    .default⟩

theorem event_contract_of_closed : ∃ (nonce : Nonce) (s : Socket) (first : List Output) (u : Socket)
    (entries : List Entry), Socket.start plainHandshake nonce .zero = (s, first) ∧
    s.replay closedInputs = some (u, entries) ∧
    given first entries = [.opened, .message (.text "a"), .closing 1000 "bye", .message (.binary [3]),
      .closing 1005 "", .closed 1005 ""] ∧ EventContract plainHandshake nonce s first entries u := by
  have start : Socket.start plainHandshake ⟨List.replicate 16 0, rfl⟩ .zero =
      (connecting .default .zero, []) := by decide +kernel
  refine ⟨_, _, _, _, _, start, rfl, rfl, ?_⟩
  have replayed : (connecting .default .zero).replay closedInputs = some _ := rfl
  exact Run.event_contract start (run_of_replay replayed)

end Socket

end WampClient
