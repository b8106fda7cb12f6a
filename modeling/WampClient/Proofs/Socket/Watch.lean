import WampClient.Proofs.Socket.Change
import WampClient.Proofs.Socket.Events

/-! # The watch over an open connection

What an entry of a run says about pings, pongs and close frames, and how it changes the deadlines:
`Watched` lists the entries that matter for them, and `Run.watches` is the induction over a run for
whatever is to be said of the deadlines.
-/

namespace WampClient.Socket

variable {s t u : Socket} {i : Input} {outputs : List Output} {entries : List Entry}
  {e : Entry} {w : Watch}

def Stage.watch? : Stage → Option Watch
  | .ready w | .writing w _ => some w
  | .connecting | .finished | .crashed => none

theorem watch_of_ready (stage : s.stage = .ready w) : s.stage.watch? = some w := by
  rw [stage, Stage.watch?]

theorem watch_of_writing {write : Write} (stage : s.stage = .writing w write) :
    s.stage.watch? = some w := by
  rw [stage, Stage.watch?]

def Watch.deadlines (w : Watch) : List Instant :=
  w.nextPing.toList ++ w.pongDeadline.toList ++ w.closeDeadline.toList

namespace Entry

def wrotePing (e : Entry) : Bool :=
  .wrote (.ping []) ∈ e.outputs

def wroteClose (e : Entry) : Bool :=
  e.outputs.any fun
    | .wrote (.close _) => true
    | _ => false

def readPong (e : Entry) : Bool :=
  e.input.isPong

def readClose (e : Entry) : Bool :=
  e.input.isClose

def closes (e : Entry) : Bool :=
  e.wroteClose || e.readClose

def reports (fault : ConnectionFault) (e : Entry) : Bool :=
  .emit (.failure (Error.connection fault).message) ∈ e.outputs

/-- Nothing that the deadlines depend on was written or read. -/
def isQuiet (e : Entry) : Bool :=
  !e.wrotePing && !e.readPong && !e.closes

theorem isQuiet_iff : e.isQuiet = true ↔
    e.wrotePing = false ∧ e.readPong = false ∧ e.closes = false := by
  simp [isQuiet, and_assoc]

theorem closes_eq_false_iff : e.closes = false ↔ e.wroteClose = false ∧ e.readClose = false := by
  simp [closes]

end Entry

theorem any_closes (entries : List Entry) : entries.any Entry.closes =
    (entries.any Entry.wroteClose || entries.any Entry.readClose) := by
  induction entries with
  | nil => rfl
  | cons e rest ih => grind [Entry.closes]

/-- What an entry leaves of the watch over an open connection. -/
inductive Watched (s : Socket) : Entry → Watch → Prop where
  | kept {e : Entry} (w : Watch) (there : s.stage.watch? = some w) (later : s.clock ≤ e.time)
      (time : e.time = s.clock ∨ e.input = .tick e.time) (quiet : e.isQuiet = true) : Watched s e w
  | opened (next : Option Instant) (stage : s.stage = .connecting) (paces : s.Paces next) :
      Watched s ⟨s.clock, .handshake (.ok ()), [.emit .opened]⟩ ⟨next, none, none, none⟩
  | ponged (w : Watch) (content : Bytes) (stage : s.stage = .ready w) :
      Watched s ⟨s.clock, .read (.message (.pong content)), []⟩ { w with pongDeadline := none }
  | peerClosed (w : Watch) (notice : Option WebSocket.CloseNotice) (stage : s.stage = .ready w) :
      Watched s ⟨s.clock, .read (.message (.close notice)),
          [.emit (.closing (reported notice).1 (reported notice).2)]⟩
        { w with peerClose := some (reported notice), nextPing := none, pongDeadline := none }
  | closed (w : Watch) (code : UInt16) (reason : String) (deadline : Instant)
      (stage : s.stage = .writing w (.close code reason))
      (shown : s.clock.add? s.options.closeTimeout = some deadline) :
      Watched s ⟨s.clock, .written (.ok ()), [.wrote (.close (some ⟨code, reason⟩))]⟩
        { w with closeDeadline := some deadline, nextPing := none, pongDeadline := none }
  | pinged (w : Watch) (next : Option Instant) (deadline : Instant)
      (stage : s.stage = .writing w .ping) (paces : s.Paces next) (arms : s.Arms w deadline) :
      Watched s ⟨s.clock, .written (.ok ()), [.wrote (.ping [])]⟩
        { w with nextPing := next, pongDeadline := some deadline }

theorem quiet_told {time : Instant} (unanswered : i.isPong = false ∧ i.isClose = false)
    (told : ∀ o ∈ outputs, ∃ e, o = .emit e) : (Entry.mk time i outputs).isQuiet = true := by
  rw [Entry.isQuiet_iff, Entry.closes_eq_false_iff]
  refine ⟨?_, unanswered.1, ?_, unanswered.2⟩
  · apply decide_eq_false
    intro member
    obtain ⟨e, same⟩ := told _ member
    cases same
  · apply List.any_eq_false.mpr
    intro o member
    obtain ⟨e, rfl⟩ := told o member
    nofun

theorem quiet_sent (time : Instant) (f : Frame) :
    (Entry.mk time (.written (.ok ())) [.wrote f.toMessage]).isQuiet = true := by
  cases f <;> rfl

theorem Change.watched (change : s.Change i u outputs) (watch : u.stage.watch? = some w) :
    s.Watched ⟨u.clock, i, outputs⟩ w := by
  cases change with
  | ticked clock later => exact .kept w watch later (.inr rfl) rfl
  | passed unanswered told =>
      have quiet : (Entry.mk s.clock i outputs).isQuiet = true :=
        quiet_told unanswered fun o member => (told o member).imp' _ fun _ => id
      exact .kept w watch (Int.le_refl _) (.inl rfl) quiet
  | opened next stage paces =>
      cases watch
      exact .opened next stage paces
  | began w write stage begins unanswered =>
      cases watch
      exact .kept w (watch_of_ready stage) (Int.le_refl _) (.inl rfl) (quiet_told unanswered nofun)
  | ponged w content stage =>
      cases watch
      exact .ponged w content stage
  | peerClosed w notice stage =>
      cases watch
      exact .peerClosed w notice stage
  | sent w f stage =>
      cases watch
      exact .kept w (watch_of_writing stage) (Int.le_refl _) (.inl rfl) (quiet_sent _ f)
  | closed w code reason deadline stage shown =>
      cases watch
      exact .closed w code reason deadline stage shown
  | pinged w next deadline stage paces arms =>
      cases watch
      exact .pinged w next deadline stage paces arms
  | ended | unopened | unarmed => cases watch

/-- What holds of the watch at first, and of every watch that an entry leaves, holds at last. This
    is the induction that all statements about deadlines use. -/
theorem Run.watches {P : List Entry → Instant → Watch → Prop} (run : Run s entries u)
    (first : ∀ w, s.stage.watch? = some w → P [] s.clock w)
    (step : ∀ {entries t e w}, Run s entries t →
      (∀ v, t.stage.watch? = some v → P entries t.clock v) → t.Watched e w →
        P (entries ++ [e]) e.time w)
    (watch : u.stage.watch? = some w) : P entries u.clock w := by
  induction run generalizing w with
  | refl => exact first w watch
  | step before i made ih =>
      exact step before (fun v there => ih there) ((change_of_step? made).watched watch)

theorem Run.begins (run : Run s entries u)
    (first : ∀ w write, s.stage = .writing w write → s.Begins w write) {write : Write}
    (stage : u.stage = .writing w write) : u.Begins w write := by
  induction run generalizing w write with
  | refl => exact first w write stage
  | @step t u entries outputs before i made ih =>
      have change := change_of_step? made
      cases change with
      | ticked clock later =>
          have begun := ih stage
          cases write with
          | data | close => exact begun
          | ping =>
              obtain ⟨n, next, due⟩ := isDue_iff.mp begun
              exact isDue_iff.mpr ⟨n, next, Int.le_trans due later⟩
      | passed => exact ih stage
      | began v write' _ begins =>
          cases stage
          exact begins
      | _ => cases stage

/-! ## Where a watch begins -/

def opened (options : Options) (clock : Instant) : Socket :=
  ((connecting options clock).afterHandshake (.ok ())).1

/-- Nothing has been written or read on an open connection yet. Statements about an open connection
    start here, so that they need not speak of the handshake. -/
structure Fresh (s : Socket) : Prop where
  idle : ∀ w write, s.stage ≠ .writing w write
  unheard : ∀ w, s.stage = .ready w → ∃ next, s.Paces next ∧ w = ⟨next, none, none, none⟩

theorem Fresh.watch (fresh : s.Fresh) (watch : s.stage.watch? = some w) :
    ∃ next, s.Paces next ∧ w = ⟨next, none, none, none⟩ := by
  cases stage : s.stage with
  | ready v =>
      rw [stage] at watch
      cases watch
      exact fresh.unheard _ stage
  | writing v write => exact absurd stage (fresh.idle v write)
  | connecting | finished | crashed =>
      rw [stage] at watch
      cases watch

theorem start_fresh {h : Handshake} {nonce : Nonce} {clock : Instant} {first : List Output}
    (start : Socket.start h nonce clock = (s, first)) : s.Fresh := by
  unfold Socket.start at start
  split at start <;> cases start <;> exact ⟨fun _ _ stage => (by cases stage), fun _ stage => (by cases stage)⟩

theorem start_plain : Socket.start plainHandshake ⟨List.replicate 16 0, rfl⟩ .zero =
    (connecting .default .zero, []) := by
  decide +kernel

theorem opened_cases (options : Options) (clock : Instant) :
    (∃ next, (connecting options clock).Paces next ∧
      opened options clock = (connecting options clock).goTo (.ready ⟨next, none, none, none⟩)) ∨
    opened options clock = (connecting options clock).goTo .crashed := by
  rcases (connecting options clock).schedulePing_cases ⟨none, none, none, none⟩ with
    ⟨next, paces, set⟩ | crashed
  · exact .inl ⟨next, paces, set⟩
  · exact .inr crashed

theorem opened_fresh (options : Options) (clock : Instant) : (opened options clock).Fresh := by
  rcases opened_cases options clock with ⟨next, paces, same⟩ | same
  · rw [same]
    refine ⟨fun _ _ stage => (by cases stage), ?_⟩
    intro w stage
    cases stage
    exact ⟨next, paces, rfl⟩
  · rw [same]
    exact ⟨fun _ _ stage => (by cases stage), fun _ stage => (by cases stage)⟩

theorem opened_clock (options : Options) (clock : Instant) : (opened options clock).clock = clock := by
  rcases opened_cases options clock with ⟨_, _, same⟩ | same <;> rw [same] <;> rfl

theorem opened_options (options : Options) (clock : Instant) :
    (opened options clock).options = options := by
  rcases opened_cases options clock with ⟨_, _, same⟩ | same <;> rw [same] <;> rfl

theorem opened_begun (options : Options) (clock : Instant) :
    (opened options clock).stage ≠ .connecting := by
  rcases opened_cases options clock with ⟨_, _, same⟩ | same <;> rw [same] <;> exact Stage.noConfusion

theorem Fresh.begins (fresh : s.Fresh) (run : Run s entries u) {write : Write}
    (stage : u.stage = .writing w write) : u.Begins w write :=
  run.begins (fun v other stage => absurd stage (fresh.idle v other)) stage

theorem Run.quiet_of_connecting (run : Run s entries u) (connecting : u.stage = .connecting) :
    s.stage = .connecting ∧ ∀ e ∈ entries, e.isQuiet = true := by
  induction run with
  | refl => exact ⟨connecting, List.forall_mem_nil _⟩
  | @step t u entries outputs before i made ih =>
      obtain ⟨earlier, quiet⟩ : t.stage = .connecting ∧ (Entry.mk u.clock i outputs).isQuiet = true := by
        cases change_of_step? made with
        | ticked => exact ⟨connecting, rfl⟩
        | passed unanswered told =>
            exact ⟨connecting, quiet_told unanswered fun o member => (told o member).imp' _ fun _ => id⟩
        | _ => cases connecting
      obtain ⟨first, quiet_before⟩ := ih earlier
      refine ⟨first, ?_⟩
      intro e member
      rcases List.mem_append.mp member with old | new
      · exact quiet_before e old
      · rwa [List.mem_singleton.mp new]

/-- Once a connection is open, there is a watch over it until the socket is over. -/
theorem Run.watched (run : Run s entries u) (begun : s.stage ≠ .connecting)
    (running : u.isOver = false) : ∃ w, u.stage.watch? = some w := by
  cases stage : u.stage with
  | connecting => exact absurd (run.quiet_of_connecting stage).1 begun
  | ready w | writing w => exact ⟨w, rfl⟩
  | finished | crashed => simp [isOver, stage] at running

end WampClient.Socket
