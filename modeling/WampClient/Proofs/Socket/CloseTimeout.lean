import WampClient.Proofs.Socket.Deadlines

/-! # The timeout of the close handshake

A connection whose close handshake timed out is told so at the deadline that was set when its close
frame was written, and no close frame was read before that. The answer of the peer does not lift the
deadline: if the peer answers in time, and then takes longer to end the stream, the close handshake
is told to have timed out all the same.
-/

namespace WampClient.Socket

variable {s t u : Socket} {entries : List Entry} {o : Options}

/-- What the deadline for the answer to a close frame is good for. It is set once, by the write of
    the close frame, and stays set for as long as the connection lasts; the answer of the peer does
    not clear it. -/
structure CloseDeadline (o : Options) (s : Socket) (entries : List Entry) (u : Socket) : Prop where
  /-- The timeout is told at the deadline of the one close frame that was written. -/
  reported : ∀ before e after, entries = before ++ e :: after → e.reports .closeTimeout = true →
    ∃ earlier c between d, before = earlier ++ c :: between ∧ c.wroteClose = true ∧
      c.time.add? o.closeTimeout = some d ∧ d ≤ e.time ∧
      (s.isTimely entries = true → e.time = d) ∧
      earlier.any Entry.closes = false ∧ between.any Entry.wroteClose = false
  /-- Whatever is read after the close frame was written, the timeout is the next thing to happen as
      soon as the deadline has come, and time does not pass it. -/
  lasting : ∀ before c after w, entries = before ++ c :: after → c.wroteClose = true →
    u.stage = .ready w → ∃ d, c.time.add? o.closeTimeout = some d ∧
      (u.step? .closeOverdue = some (u.goTo .finished,
        [.emit (.failure (Error.connection .closeTimeout).message)]) ↔ d ≤ u.clock) ∧
      (s.isTimely entries = true → u.clock ≤ d)

theorem ClosesBy.of_mem {deadline : Option Instant} {c : Entry} (closing : ClosesBy o entries deadline)
    (member : c ∈ entries) (wrote : c.wroteClose = true) :
    ∃ d, deadline = some d ∧ c.time.add? o.closeTimeout = some d := by
  cases deadline with
  | none =>
      have unwritten := List.any_eq_false.mp closing c member
      exact absurd wrote unwritten
  | some d =>
      obtain ⟨before, x, after, rfl, _, shown, first, only⟩ := closing
      have same : c = x := by
        rcases List.mem_append.mp member with earlier | rest
        · have unclosed := List.any_eq_false.mp first c earlier
          simp [Entry.closes, wrote] at unclosed
        · rcases List.mem_cons.mp rest with same | later
          · exact same
          · exact absurd wrote (List.any_eq_false.mp only c later)
      exact ⟨d, rfl, same ▸ shown⟩

theorem step?_closeOverdue {w : Watch} {d : Instant} (stage : u.stage = .ready w)
    (armed : w.closeDeadline = some d) :
    u.step? .closeOverdue = some (u.goTo .finished,
      [.emit (.failure (Error.connection .closeTimeout).message)]) ↔ d ≤ u.clock := by
  have acts : u.step? .closeOverdue =
      if u.isDue w.closeDeadline then some (u.fail (.connection .closeTimeout)) else none := by
    simp only [step?, stage]
  rw [acts, armed]
  constructor
  · intro made
    apply Classical.byContradiction
    intro early
    simp [isDue, early] at made
  · intro come
    simp [isDue, come, fail, finish]

/-- In every run, the deadline for the answer to a close frame is kept. Only one close frame is ever
    written, and nothing that is read clears its deadline, not even the answer. -/
theorem Run.close_deadline {h : Handshake} {nonce : Nonce} {clock : Instant} {first : List Output}
    (start : Socket.start h nonce clock = (s, first)) (run : Run s entries u) :
    CloseDeadline h.options s entries u := by
  have fresh := start_fresh start
  rw [← (start_tells start).2]
  constructor
  case reported =>
    rintro before e after rfl reports
    obtain ⟨t, w, d, earlier, stage, armed, come, exact_time⟩ := fresh.overdue run rfl reports
    have watch : t.stage.watch? = some w := watch_of_ready stage
    have closing := (fresh.arming earlier watch).closing
    rw [show w.closeDeadline = some d from armed] at closing
    obtain ⟨sooner, c, between, rfl, wrote, shown, unclosed, only⟩ := closing
    exact ⟨sooner, c, between, d, rfl, wrote, shown, come, exact_time, unclosed, only⟩
  case lasting =>
    rintro before c after w rfl wrote stage
    have watch : u.stage.watch? = some w := watch_of_ready stage
    obtain ⟨d, armed, shown⟩ := (fresh.arming run watch).closing.of_mem (by simp) wrote
    refine ⟨d, shown, step?_closeOverdue stage armed, ?_⟩
    intro timely
    exact fresh.in_time run timely watch d (Watch.mem_deadlines.mpr (.inr (.inr armed)))

/-- The transport closes, and nothing is read for a minute. -/
def unansweredInputs : List Input :=
  [.handshake (.ok ()), .command (some (.close 1000 none)), .written (.ok ()),
    .tick ⟨60_000_000_000, by decide, by decide⟩, .closeOverdue]

theorem close_deadline_of_unanswered : ∃ (nonce : Nonce) (s : Socket) (first : List Output)
    (u : Socket) (entries : List Entry), Socket.start plainHandshake nonce .zero = (s, first) ∧
    s.replay unansweredInputs = some (u, entries) ∧ s.isTimely entries = true ∧
    entries.any (Entry.reports .closeTimeout) = true ∧
    CloseDeadline plainHandshake.options s entries u := by
  refine ⟨_, _, _, _, _, start_plain, rfl, rfl, rfl, ?_⟩
  have replayed : (connecting .default .zero).replay unansweredInputs = some _ := rfl
  exact Run.close_deadline start_plain (run_of_replay replayed)

/-- The transport closes, the peer answers half a minute later, and the stream goes on. -/
def lingeringInputs : List Input :=
  [.handshake (.ok ()), .command (some (.close 1000 none)), .written (.ok ()),
    .tick ⟨30_000_000_000, by decide, by decide⟩, .read (.message (.close (some ⟨1000, ""⟩))),
    .tick ⟨60_000_000_000, by decide, by decide⟩, .closeOverdue]

/-- The close handshake is told to have timed out although the peer has answered in time. The answer
    leaves the deadline armed, and the stream does not end before it. -/
theorem timed_out_after_answer : ∃ (nonce : Nonce) (s : Socket) (first : List Output) (u : Socket)
    (entries : List Entry) (c q e : Entry),
    Socket.start plainHandshake nonce .zero = (s, first) ∧ Run s entries u ∧
    s.isTimely entries = true ∧ entries[2]? = some c ∧ c.wroteClose = true ∧
    entries[4]? = some q ∧ q.readClose = true ∧ entries[6]? = some e ∧
    e.reports .closeTimeout = true ∧
    c.time.add? plainHandshake.options.closeTimeout = some e.time ∧
    q.time.toNanos < e.time.toNanos := by
  have replayed : (connecting .default .zero).replay lingeringInputs = some _ := rfl
  exact ⟨_, _, _, _, _, _, _, _, start_plain, run_of_replay replayed, rfl, rfl, rfl, rfl, rfl, rfl, rfl, rfl,
    by decide⟩

end WampClient.Socket
