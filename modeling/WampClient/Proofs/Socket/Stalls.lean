import WampClient.Proofs.Socket.Writes

/-! # Stalled writes

Between two writes, a cancel and a deadline that has passed end a connection at once. While a write is
under way they do not: until the write ends nothing but time passes, however long the peer stops
reading. A deadline for a pong that has passed meanwhile is noticed after the write, unless the write
was that of a close frame, which lifts it. The deadline for the answer to a close frame is never armed
while a write is under way.
-/

namespace WampClient.Socket

variable {s t u v : Socket} {i : Input} {outputs : List Output} {entries more : List Entry} {w : Watch}
  {write : Write} {o : Options} {clock : Instant}

/-- The peer has taken what is being written, or the write fails. -/
def Input.endsWrite : Input → Bool
  | .written _ => true
  | _ => false

/-- An input ends the connection, which is told to have failed for this reason. -/
def EndsOn (s : Socket) (i : Input) (reason : ConnectionFault) : Prop :=
  s.step? i = some (s.goTo .finished, [.emit (.failure (Error.connection reason).message)])

/-- Something other than the end of a write can end the connection. -/
def CanEnd (s : Socket) : Prop :=
  ∃ i t outputs, i.endsWrite = false ∧ s.step? i = some (t, outputs) ∧ t.isOver = true

/-- When a connection can be ended. Writes are not made beside the other work of a socket but in the
    midst of it, and so the answer depends on whether one is under way. -/
structure Promptness (u : Socket) : Prop where
  /-- Between two writes, a cancel and a deadline that has passed end it at once. -/
  prompt : ∀ w, u.stage = .ready w → u.EndsOn (.command (some .cancel)) .cancelled ∧
    (u.isDue w.pongDeadline = true → u.EndsOn .pongOverdue .pingTimeout) ∧
      (u.isDue w.closeDeadline = true → u.EndsOn .closeOverdue .closeTimeout)
  /-- While a write is under way it is not ended, for as long as the write does not end. -/
  held : ∀ w write more v, u.stage = .writing w write → Run u more v →
    (∀ e ∈ more, e.input.endsWrite = false) →
      v.stage = .writing w write ∧ ¬ v.CanEnd ∧ ∀ e ∈ more, e.input = .tick e.time ∧ e.outputs = []
  /-- The clock may then come to any time at all. -/
  endless : ∀ w write clock, u.stage = .writing w write → u.clock ≤ clock →
    Run u [⟨clock, .tick clock, []⟩] { u with clock := clock }
  /-- No deadline for the answer to a close frame passes during a write. -/
  unclosed : ∀ w write, u.stage = .writing w write → w.closeDeadline = none
  /-- A write that fails ends the connection. After one that succeeds it can be ended again, and a
      deadline for a pong still stands, unless a close frame was written. -/
  released : ∀ w write, u.stage = .writing w write →
    (∀ fault, u.step? (.written (.error fault)) = some (u.fail (.webSocket fault))) ∧
    ∃ t, u.step? (.written (.ok ())) = some (t, [.wrote write.message]) ∧ t.clock = u.clock ∧
      (t.isOver = true ∨ ∃ v, t.stage = .ready v ∧ (write.isClose = false →
        w.pongDeadline.isSome = true → v.pongDeadline = w.pongDeadline))

theorem Act.held (act : s.Act i u outputs) (stage : s.stage = .writing w write)
    (pending : i.endsWrite = false) :
    u.stage = .writing w write ∧ i = .tick u.clock ∧ outputs = [] := by
  cases act with
  | ticked clock later => exact ⟨stage, rfl, rfl⟩
  | wrote | unwritten => cases pending
  | shaken _ other | toldEarly _ other | told _ _ other | read _ _ other | pinged _ other
  | unanswered _ other | unclosed _ other =>
      rw [stage] at other
      cases other

theorem Run.held (run : Run u more v) (stage : u.stage = .writing w write)
    (pending : ∀ e ∈ more, e.input.endsWrite = false) :
    v.stage = .writing w write ∧ ∀ e ∈ more, e.input = .tick e.time ∧ e.outputs = [] := by
  refine run.stays (P := fun i => i.endsWrite = false)
    (Q := fun e => e.input = .tick e.time ∧ e.outputs = []) ?_ stage pending
  intro t v i outputs there pending made
  exact (act_of_step? made).held there pending

theorem not_canEnd_of_writing (stage : u.stage = .writing w write) : ¬ u.CanEnd := by
  rintro ⟨i, t, outputs, pending, made, ended⟩
  have still := ((act_of_step? made).held stage pending).1
  simp [isOver, still] at ended

theorem endsOn_cancel (stage : u.stage = .ready w) :
    u.EndsOn (.command (some .cancel)) .cancelled := by
  simp only [EndsOn, step?, stage]
  rfl

theorem endsOn_pongOverdue (stage : u.stage = .ready w) (due : u.isDue w.pongDeadline = true) :
    u.EndsOn .pongOverdue .pingTimeout := by
  simp only [EndsOn, step?, stage, due, if_true]
  rfl

theorem endsOn_closeOverdue (stage : u.stage = .ready w) (due : u.isDue w.closeDeadline = true) :
    u.EndsOn .closeOverdue .closeTimeout := by
  simp only [EndsOn, step?, stage, due, if_true]
  rfl

theorem Fresh.unclosed_watch (fresh : s.Fresh) (run : Run s entries u)
    (stage : u.stage = .writing w write) : w.closeDeadline = none := by
  have unclosed := fresh.unclosed_of_writing run stage
  have closing := (fresh.arming run (watch_of_writing stage)).isClosing_eq
  rw [unclosed, Watch.isClosing, Bool.or_eq_false_iff] at closing
  exact Option.isSome_eq_false_iff.mp closing.2 |> Option.isNone_iff_eq_none.mp

theorem afterWrite_released (s : Socket) (w : Watch) (write : Write) :
    (s.afterWrite w write).clock = s.clock ∧ ((s.afterWrite w write).isOver = true ∨
      ∃ v, (s.afterWrite w write).stage = .ready v ∧ (write.isClose = false →
        w.pongDeadline.isSome = true → v.pongDeadline = w.pongDeadline)) := by
  cases write with
  | data f => exact ⟨rfl, .inr ⟨w, rfl, fun _ _ => rfl⟩⟩
  | close code reason =>
      rcases s.afterClose_cases w code reason with ⟨deadline, _, set⟩ | crashed
      · rw [set]
        exact ⟨rfl, .inr ⟨_, rfl, nofun⟩⟩
      · rw [crashed]
        exact ⟨rfl, .inl rfl⟩
  | ping =>
      rcases s.afterPing_cases w with ⟨next, deadline, _, arms, set⟩ | crashed
      · rw [set]
        refine ⟨rfl, .inr ⟨_, rfl, ?_⟩⟩
        intro _ armed
        rcases arms with running | ⟨off, _⟩
        · exact running.symm
        · rw [off] at armed
          cases armed
      · rw [crashed]
        exact ⟨rfl, .inl rfl⟩

/-- In every run of an open connection, only a write that is under way keeps it from being ended.
    For as long as the peer does not take what is written, neither a cancel nor a deadline ends it.
    -/
theorem Run.promptness (run : Run (opened o clock) entries u) : Promptness u := by
  constructor
  case prompt =>
    intro w stage
    exact ⟨endsOn_cancel stage, endsOn_pongOverdue stage, endsOn_closeOverdue stage⟩
  case held =>
    intro w write more v stage later pending
    obtain ⟨still, silent⟩ := later.held stage pending
    exact ⟨still, not_canEnd_of_writing still, silent⟩
  case endless =>
    intro w write clock stage later
    have made : u.step? (.tick clock) = some ({ u with clock := clock }, []) := by
      simp [step?, later]
    exact Run.refl.step (.tick clock) made
  case unclosed =>
    intro w write stage
    exact (opened_fresh o clock).unclosed_watch run stage
  case released =>
    intro w write stage
    constructor
    · intro fault
      simp only [step?, stage]
    · have made : u.step? (.written (.ok ())) =
          some (u.afterWrite w write, [.wrote write.message]) := by
        simp only [step?, stage]
      exact ⟨_, made, u.afterWrite_released w write⟩

/-- A ping is not answered, and a frame is still being written when its deadline has passed. -/
def stalledInputs : List Input :=
  [.tick ⟨11_000_000_000, by decide, by decide⟩, .pingDue, .written (.ok ()),
    .tick ⟨14_000_000_000, by decide, by decide⟩, .command (some (.send (.text "a"))),
    .tick ⟨17_000_000_000, by decide, by decide⟩]

theorem promptness_of_stalled : ∃ (u : Socket) (entries : List Entry) (w : Watch),
    (opened .default .zero).replay stalledInputs = some (u, entries) ∧
    u.stage = .writing w (.data (.text "a")) ∧ Promptness u := by
  refine ⟨_, _, _, rfl, rfl, ?_⟩
  have replayed : (opened .default .zero).replay stalledInputs = some _ := rfl
  exact Run.promptness (run_of_replay replayed)

/-- No pong has come in time, and yet nothing but the end of a write can end the connection; neither
    can a cancel, which stays in its queue. -/
theorem unended_while_writing : ∃ (u : Socket) (entries : List Entry) (w : Watch) (write : Write),
    Run (opened .default .zero) entries u ∧ u.stage = .writing w write ∧
    u.isDue w.pongDeadline = true ∧ u.step? (.command (some .cancel)) = none ∧ ¬ u.CanEnd := by
  have replayed : (opened .default .zero).replay stalledInputs = some _ := rfl
  exact ⟨_, _, _, _, run_of_replay replayed, rfl, rfl, rfl, not_canEnd_of_writing rfl⟩

end WampClient.Socket
