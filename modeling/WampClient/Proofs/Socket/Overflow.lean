import WampClient.Proofs.Socket.Timely

/-! # Options that a clock cannot follow

Valid options say nothing about how long a span of time may be, and the clock has a last second. So
there are valid options with which a socket crashes: it is over, and no last event tells so. This
happens exactly where a sum lies beyond the end of the clock, and never as long as all spans fit
between the clock and its end.
-/

namespace WampClient.Socket

variable {s t u v : Socket} {i : Input} {outputs first : List Output} {entries more : List Entry}
  {o : Options}

/-- When the options of a socket let it crash. The clock has an end, and a deadline beyond it cannot
    be set; `validate` knows nothing of that end. A socket that crashes tells no end of its
    connection. -/
structure CrashContract (o : Options) (first : List Output) (entries : List Entry) (u : Socket) :
    Prop where
  /-- Any span will do that is a positive, whole number of milliseconds. -/
  accepted : ∀ d : Duration, d ≠ .zero → d.IsWholeMillis →
    (o.withAutoPingInterval d).validate = .ok () ∧ (o.withAutoPingTimeout d).validate = .ok () ∧
      (o.withCloseTimeout d).validate = .ok ()
  /-- An input crashes a socket if a sum that it makes lies beyond the end of the clock. -/
  crashes_iff : ∀ i v outputs, u.stage ≠ .crashed → u.step? i = some (v, outputs) →
    (v.stage = .crashed ↔ ∃ d ∈ u.measured i, Instant.limit ≤ u.clock.toNanos + d.toNanos)
  measured_spans : ∀ i, ∀ d ∈ u.measured i, d ∈ o.spans
  /-- No last event is told before a crash, and nothing at all after it. -/
  untold : u.stage = .crashed → (∀ e ∈ given first entries, e.isTerminal = false) ∧
    ∀ more v, Run u more v → v.stage = .crashed ∧ ∀ e ∈ more, e.outputs = []
  safe : (∀ d ∈ o.spans, u.clock.toNanos + d.toNanos < Instant.limit) → u.stage ≠ .crashed

theorem Act.stays_crashed (act : s.Act i u outputs) (crashed : s.stage = .crashed) :
    u.stage = .crashed ∧ outputs = [] := by
  cases act with
  | ticked => exact ⟨crashed, rfl⟩
  | shaken _ other | toldEarly _ other | told _ _ other | read _ _ other | pinged _ other
  | unanswered _ other | unclosed _ other | wrote _ _ other | unwritten _ _ _ other =>
      rw [crashed] at other
      cases other

theorem Run.stays_crashed (run : Run u more v) (crashed : u.stage = .crashed) :
    v.stage = .crashed ∧ ∀ e ∈ more, e.outputs = [] := by
  refine run.stays (P := fun _ => True) ?_ crashed fun _ _ => trivial
  intro t v i outputs there _ made
  exact (act_of_step? made).stays_crashed there

/-- A socket does not crash before the clock has come so far that some span leads beyond its end. -/
theorem Run.uncrashed (run : Run s entries u) (begun : s.stage ≠ .crashed)
    (fits : ∀ d ∈ s.options.spans, u.clock.toNanos + d.toNanos < Instant.limit) :
    u.stage ≠ .crashed := by
  intro crashed
  obtain ⟨e, member, d, among, unshown⟩ := run.crashed begun crashed
  have far := Instant.add?_eq_none_iff.mp unshown
  have near := fits d among
  have later := run.time_le e member
  have : e.time.toNanos ≤ u.clock.toNanos := later
  omega

theorem start_begun {h : Handshake} {nonce : Nonce} {clock : Instant}
    (start : Socket.start h nonce clock = (s, first)) : s.stage ≠ .crashed := by
  unfold Socket.start at start
  split at start <;> cases start <;> nofun

/-- With valid options, a socket crashes just where the clock cannot follow it. Every positive,
    whole number of milliseconds is valid, so for each of the three spans there are valid options
    with which this happens. -/
theorem Run.crash_contract {h : Handshake} {nonce : Nonce} {clock : Instant}
    (valid : h.options.validate = .ok ()) (start : Socket.start h nonce clock = (s, first))
    (run : Run s entries u) : CrashContract h.options first entries u := by
  have options : u.options = h.options := run.options.trans (start_tells start).2
  constructor
  case accepted =>
    intro d positive whole
    exact Options.validate_with valid positive whole
  case crashes_iff =>
    intro i v outputs running made
    simp only [crashed_iff made running, Instant.add?_eq_none_iff]
  case measured_spans =>
    intro i d among
    rw [← options]
    exact measured_mem_spans among
  case untold =>
    intro crashed
    have tells := run.tells start
    rw [crashed] at tells
    exact ⟨tells.unended nofun, fun more v later => later.stays_crashed crashed⟩
  case safe =>
    intro fits
    rw [← options, run.options] at fits
    exact run.uncrashed (start_begun start) fits

/-- More than the clock has left, at any time from its second zero on. -/
def ages : Duration :=
  .ofSeconds 0x8000_0000_0000_0000

def agelessHandshake : Handshake :=
  { plainHandshake with options := Options.default.withAutoPingInterval ages }

theorem crash_contract_of_ageless : ∃ (nonce : Nonce) (s : Socket) (first : List Output) (u : Socket)
    (entries : List Entry), agelessHandshake.options.validate = .ok () ∧
    Socket.start agelessHandshake nonce .zero = (s, first) ∧
    s.replay [.handshake (.ok ())] = some (u, entries) ∧ u.stage = .crashed ∧
    CrashContract agelessHandshake.options first entries u := by
  have start : Socket.start agelessHandshake ⟨List.replicate 16 0, rfl⟩ .zero =
      (connecting agelessHandshake.options .zero, []) := by decide +kernel
  refine ⟨_, _, _, _, _, rfl, start, rfl, rfl, ?_⟩
  have replayed : (connecting agelessHandshake.options .zero).replay [.handshake (.ok ())] = some _ :=
    rfl
  exact Run.crash_contract rfl start (run_of_replay replayed)

/-- With each of the three spans, a socket with valid options crashes and tells no end. -/
theorem crashed_although_valid :
    ((Options.default.withAutoPingInterval ages).validate = .ok () ∧ ∃ entries u,
      Run (connecting (.withAutoPingInterval .default ages) .zero) entries u ∧ u.stage = .crashed ∧
        given [] entries = [.opened]) ∧
    ((Options.default.withAutoPingTimeout ages).validate = .ok () ∧ ∃ entries u,
      Run (connecting (.withAutoPingTimeout .default ages) .zero) entries u ∧ u.stage = .crashed ∧
        given [] entries = [.opened]) ∧
    ((Options.default.withCloseTimeout ages).validate = .ok () ∧ ∃ entries u,
      Run (connecting (.withCloseTimeout .default ages) .zero) entries u ∧ u.stage = .crashed ∧
        given [] entries = [.opened]) := by
  have opening : (connecting (.withAutoPingInterval .default ages) .zero).replay
      [.handshake (.ok ())] = some _ := rfl
  have pinging : (connecting (.withAutoPingTimeout .default ages) .zero).replay
      [.handshake (.ok ()), .tick ⟨10_000_000_000, by decide, by decide⟩, .pingDue,
        .written (.ok ())] = some _ := rfl
  have closing : (connecting (.withCloseTimeout .default ages) .zero).replay
      [.handshake (.ok ()), .command (some (.close 1000 none)), .written (.ok ())] = some _ := rfl
  exact ⟨⟨rfl, _, _, run_of_replay opening, rfl, rfl⟩, ⟨rfl, _, _, run_of_replay pinging, rfl, rfl⟩,
    rfl, _, _, run_of_replay closing, rfl, rfl⟩

end WampClient.Socket
