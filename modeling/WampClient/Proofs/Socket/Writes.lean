import WampClient.Proofs.Socket.Deadlines
import WampClient.Proofs.Socket.Outbound

/-! # What a socket writes of its own

The messages that a socket writes are data messages and pings, and at last a close frame at most. But
for pings they are what the commands have ordered: a data message for each frame, until a close
command is acted on or a close frame is read, and the close frame of that command. Whatever comes
after a close frame is received without effect.
-/

namespace WampClient.Socket

variable {s t u : Socket} {i : Input} {outputs : List Output} {entries : List Entry} {w : Watch}
  {o : Options} {clock : Instant}

def Input.order? : Input → Option Write
  | .command (some (.send f)) => some (.data f)
  | .command (some (.close code reason)) => some (.close code (reason.getD ""))
  | _ => none

/-- Nothing that is ordered later is written: a close command comes, or a close frame is read. -/
def Input.settles : Input → Bool
  | .command (some (.close _ _)) | .read (.message (.close _)) => true
  | _ => false

/-- What commands order until a close command comes, whose close frame is the last order, or until a
    close frame is read. -/
def orders : List Input → List Write
  | [] => []
  | i :: rest => i.order?.toList ++ if i.settles then [] else orders rest

def writes (entries : List Entry) : List WebSocket.Message :=
  written (entries.flatMap Entry.outputs)

def unpinged (messages : List WebSocket.Message) : List WebSocket.Message :=
  messages.filter (· ≠ .ping [])

/-- The order that a write carries out; a ping carries out none. -/
def Write.owed : Write → List Write
  | .ping => []
  | .data f => [.data f]
  | .close code reason => [.close code reason]

def Stage.owed : Stage → List Write
  | .writing _ write => write.owed
  | .connecting | .ready _ | .finished | .crashed => []

def Input.failsWrite : Input → Bool
  | .written (.error _) => true
  | _ => false

/-- What a socket writes on an open connection, whatever happens to it. Between the commands that it
    takes in and the messages that it writes lies at most the one write that is under way. -/
structure OutputGrammar (entries : List Entry) (u : Socket) : Prop where
  /-- Data messages and pings, and then a close frame at most. -/
  word : ∃ body close, writes entries = body ++ close ∧
    (∀ m ∈ body, m = .ping [] ∨ ∃ f : Frame, m = f.toMessage) ∧
      (close = [] ∨ ∃ notice, close = [.close (some notice)])
  /-- But for pings, what was written is what was ordered, less the one order whose write is under
      way or has failed. -/
  ordered : ∃ lost, lost.length ≤ 1 ∧
    unpinged (writes entries) ++ lost.map Write.message =
      (orders (taken entries)).map Write.message ∧
    ((taken entries).any Input.failsWrite = false → lost = u.stage.owed)
  /-- After a close frame nothing is written. -/
  silent : ∀ before c after, entries = before ++ c :: after → c.closes = true →
    ∀ e ∈ after, written e.outputs = []
  /-- After a close frame no command but a cancel has an effect. -/
  ignored : entries.any Entry.closes = true → u.isOver = false →
    ∀ command ≠ .cancel, u.step? (.command (some command)) = some (u, [])

theorem writes_snoc (entries : List Entry) (e : Entry) :
    writes (entries ++ [e]) = writes entries ++ written e.outputs := by
  simp [writes, written]

theorem taken_snoc (entries : List Entry) (e : Entry) :
    taken (entries ++ [e]) = taken entries ++ [e.input] := by
  simp [taken]

theorem orders_snoc (inputs : List Input) (i : Input) : orders (inputs ++ [i]) =
    orders inputs ++ if inputs.any Input.settles then [] else i.order?.toList := by
  induction inputs with
  | nil => simp [orders]
  | cons j rest ih =>
      rw [List.cons_append, orders, orders, ih, List.any_cons]
      cases j.settles <;> simp

theorem unpinged_message (write : Write) :
    unpinged [write.message] = write.owed.map Write.message := by
  cases write with
  | data f => cases f <;> rfl
  | close | ping => rfl

/-! ## Orders and writes, stage by stage -/

/-- All that was ordered was written, but for these orders. -/
def Lacks (entries : List Entry) (lost : List Write) : Prop :=
  unpinged (writes entries) ++ lost.map Write.message = (orders (taken entries)).map Write.message

section lacks

variable {lost : List Write} {e : Entry}

theorem Lacks.idle (lacks : Lacks entries lost) (unwritten : written e.outputs = [])
    (unordered : (taken entries).any Input.settles = true ∨ e.input.order? = none) :
    Lacks (entries ++ [e]) lost := by
  unfold Lacks
  rw [writes_snoc, unwritten, List.append_nil, taken_snoc, orders_snoc]
  rcases unordered with settled | none_ordered
  · rw [settled, if_pos rfl, List.append_nil]
    exact lacks
  · rw [none_ordered, Option.toList_none, ite_self, List.append_nil]
    exact lacks

theorem Lacks.order {write : Write} (lacks : Lacks entries []) (unwritten : written e.outputs = [])
    (unsettled : (taken entries).any Input.settles = false) (ordered : e.input.order? = some write) :
    Lacks (entries ++ [e]) [write] := by
  unfold Lacks at lacks ⊢
  rw [List.map_nil, List.append_nil] at lacks
  rw [writes_snoc, unwritten, List.append_nil, taken_snoc, orders_snoc, unsettled, ordered, lacks,
    List.map_append]
  rfl

theorem Lacks.wrote {write : Write} (lacks : Lacks entries write.owed)
    (wrote : e.outputs = [.wrote write.message]) (unordered : e.input.order? = none) :
    Lacks (entries ++ [e]) [] := by
  have message : unpinged (written e.outputs) = write.owed.map Write.message := by
    rw [wrote]
    exact unpinged_message write
  unfold Lacks at lacks ⊢
  rw [writes_snoc, unpinged, List.filter_append, ← unpinged, ← unpinged, message, taken_snoc,
    orders_snoc, unordered, Option.toList_none, ite_self, List.append_nil, List.map_nil,
    List.append_nil]
  exact lacks

end lacks

def Write.isClose : Write → Bool
  | .close _ _ => true
  | .data _ | .ping => false

/-- How a socket in a stage has carried out its orders. While it writes, one order is under way;
    once it has closed, what is ordered later is not owed any more. -/
def Obeys (entries : List Entry) : Stage → Prop
  | .connecting => False
  | .ready w => Lacks entries [] ∧ (taken entries).any Input.settles = w.isClosing
  | .writing w write => Lacks entries write.owed ∧ w.isClosing = false ∧
      (taken entries).any Input.settles = write.isClose
  | .crashed => Lacks entries []
  | .finished => ∃ lost, lost.length ≤ 1 ∧ Lacks entries lost ∧
      ((taken entries).any Input.failsWrite = false → lost = [])

section stages

variable {e : Entry}

theorem settles_snoc (entries : List Entry) (e : Entry) : (taken (entries ++ [e])).any Input.settles =
    ((taken entries).any Input.settles || e.input.settles) := by
  simp [taken]

theorem Obeys.idle {stage : Stage} (obeys : Obeys entries stage) (unwritten : written e.outputs = [])
    (unordered : e.input.order? = none) (unsettled : e.input.settles = false) :
    Obeys (entries ++ [e]) stage := by
  have settled : (taken (entries ++ [e])).any Input.settles = (taken entries).any Input.settles := by
    rw [settles_snoc, unsettled, Bool.or_false]
  cases stage with
  | connecting => exact obeys
  | ready w => exact ⟨obeys.1.idle unwritten (.inr unordered), settled.trans obeys.2⟩
  | writing w write =>
      exact ⟨obeys.1.idle unwritten (.inr unordered), obeys.2.1, settled.trans obeys.2.2⟩
  | crashed => exact Lacks.idle obeys unwritten (.inr unordered)
  | finished =>
      obtain ⟨lost, short, lacks, whole⟩ := obeys
      refine ⟨lost, short, lacks.idle unwritten (.inr unordered), ?_⟩
      intro unfailed
      rw [taken_snoc, List.any_append, Bool.or_eq_false_iff] at unfailed
      exact whole unfailed.1

theorem Lacks.finish (lacks : Lacks entries []) (unwritten : written e.outputs = [])
    (unordered : e.input.order? = none) : Obeys (entries ++ [e]) .finished :=
  ⟨[], Nat.zero_le 1, lacks.idle unwritten (.inr unordered), fun _ => rfl⟩

theorem commandWhileReady_obeys (stage : s.stage = .ready w) (obeys : Obeys entries s.stage)
    (c : Option Command) (time : Instant) :
    Obeys (entries ++ [⟨time, .command c, (s.commandWhileReady w c).2⟩])
      (s.commandWhileReady w c).1.stage := by
  rw [stage] at obeys
  obtain ⟨lacks, settled⟩ := obeys
  have unwritten := written_commandWhileReady s w c
  cases c with
  | none => exact lacks.finish unwritten rfl
  | some c =>
      cases c with
      | cancel => exact lacks.finish unwritten rfl
      | send f | close code reason =>
          cases closing : w.isClosing with
          | true =>
              rw [closing] at settled
              simp only [commandWhileReady, closing, if_true, stage]
              refine ⟨lacks.idle rfl (.inl settled), ?_⟩
              rw [settles_snoc, settled, closing, Bool.true_or]
          | false =>
              rw [closing] at settled
              simp only [commandWhileReady, closing, Bool.false_eq_true, if_false]
              refine ⟨lacks.order rfl settled rfl, closing, ?_⟩
              rw [settles_snoc, settled]
              rfl

theorem readWhileReady_obeys (stage : s.stage = .ready w) (obeys : Obeys entries s.stage)
    (r : Reading) (time : Instant) :
    Obeys (entries ++ [⟨time, .read r, (s.readWhileReady w r).2⟩])
      (s.readWhileReady w r).1.stage := by
  have unwritten := written_readWhileReady s w r
  have ended : Obeys (entries ++ [⟨time, .read r, (s.readWhileReady w r).2⟩]) .finished := by
    rw [stage] at obeys
    exact obeys.1.finish unwritten rfl
  have streamEnded : (s.streamEnded w).1.stage = .finished := by
    unfold streamEnded
    split <;> rfl
  cases r with
  | ended => exact streamEnded ▸ ended
  | fault fault =>
      cases fault with
      | connectionClosed | alreadyClosed => exact streamEnded ▸ ended
      | _ => exact ended
  | message m =>
      cases m with
      | close notice =>
          rw [stage] at obeys
          refine ⟨obeys.1.idle unwritten (.inr rfl), ?_⟩
          rw [settles_snoc]
          exact Bool.or_true _
      | pong content =>
          rw [stage] at obeys
          exact ⟨obeys.1.idle unwritten (.inr rfl), by rw [settles_snoc, obeys.2]; exact Bool.or_false _⟩
      | text | binary | ping | packet => exact obeys.idle unwritten rfl rfl

theorem afterWrite_obeys {write : Write} (stage : s.stage = .writing w write)
    (obeys : Obeys entries s.stage) (time : Instant) :
    Obeys (entries ++ [⟨time, .written (.ok ()), [.wrote write.message]⟩])
      (s.afterWrite w write).stage := by
  rw [stage] at obeys
  obtain ⟨lacks, running, settled⟩ := obeys
  have done : Lacks (entries ++ [⟨time, .written (.ok ()), [.wrote write.message]⟩]) [] :=
    lacks.wrote rfl rfl
  have settled : (taken (entries ++ [⟨time, .written (.ok ()), [.wrote write.message]⟩])).any
      Input.settles = write.isClose := by
    rw [settles_snoc, settled]
    exact Bool.or_false _
  cases write with
  | data f => exact ⟨done, settled.trans running.symm⟩
  | close code reason =>
      rcases s.afterClose_cases w code reason with ⟨deadline, _, set⟩ | crashed
      · rw [set]
        exact ⟨done, settled.trans (Bool.or_true _).symm⟩
      · rw [crashed]
        exact done
  | ping =>
      rcases s.afterPing_cases w with ⟨next, deadline, _, _, set⟩ | crashed
      · rw [set]
        exact ⟨done, settled.trans running.symm⟩
      · rw [crashed]
        exact done

theorem Act.obeys (act : Act s i u outputs) (obeys : Obeys entries s.stage)
    (calm : ∀ w, s.stage = .ready w → s.isDue w.nextPing = true → w.isClosing = false)
    (time : Instant) : Obeys (entries ++ [⟨time, i, outputs⟩]) u.stage := by
  cases act with
  | ticked clock later => exact obeys.idle rfl rfl rfl
  | shaken result stage | toldEarly command stage =>
      rw [stage] at obeys
      exact obeys.elim
  | told w command stage => exact commandWhileReady_obeys stage obeys command time
  | read w reading stage => exact readWhileReady_obeys stage obeys reading time
  | pinged w stage due =>
      have running := calm w stage due
      rw [stage] at obeys
      refine ⟨obeys.1.idle rfl (.inr rfl), running, ?_⟩
      rw [settles_snoc, obeys.2, running]
      rfl
  | unanswered w stage | unclosed w stage =>
      rw [stage] at obeys
      exact obeys.1.finish rfl rfl
  | wrote w write stage => exact afterWrite_obeys stage obeys time
  | unwritten w write fault stage =>
      rw [stage] at obeys
      refine ⟨write.owed, ?_, obeys.1.idle rfl (.inr rfl), ?_⟩
      · cases write <;> exact Nat.le_of_ble_eq_true rfl
      · intro unfailed
        simp [taken_snoc, Input.failsWrite] at unfailed

end stages

/-! ## Nothing after a close frame -/

theorem Fresh.written_cases (fresh : s.Fresh) (run : Run s entries t)
    (made : t.step? i = some (u, outputs)) : written outputs = [] ∨
      entries.any Entry.closes = false ∧ ∃ write : Write, outputs = [.wrote write.message] := by
  rcases (act_of_step? made).written_cases with nothing | ⟨w, write, stage, same⟩
  · exact .inl nothing
  · exact .inr ⟨fresh.unclosed_of_writing run stage, write, same⟩

theorem Fresh.unwritten {c : Entry} {before after : List Entry} (fresh : s.Fresh)
    (run : Run s (before ++ c :: after) u) (closes : c.closes = true) :
    ∀ e ∈ after, written e.outputs = [] := by
  intro e member
  obtain ⟨between, t, v, earlier, made, _⟩ := run.split_behind member
  rcases fresh.written_cases earlier made with nothing | ⟨unclosed, _⟩
  · exact nothing
  · simp [closes] at unclosed

theorem mem_writes_close {notice : Option WebSocket.CloseNotice}
    (member : .close notice ∈ writes entries) : entries.any Entry.closes = true := by
  simp only [writes, written, List.mem_filterMap, List.mem_flatMap] at member
  obtain ⟨o, ⟨e, among, there⟩, same⟩ := member
  rw [List.any_eq_true]
  refine ⟨e, among, ?_⟩
  cases o with
  | emit => cases same
  | wrote m =>
      cases same
      rw [Entry.closes, Bool.or_eq_true]
      exact .inl (List.any_eq_true.mpr ⟨_, there, rfl⟩)

theorem Fresh.word (fresh : s.Fresh) (run : Run s entries u) :
    ∃ body close, writes entries = body ++ close ∧
      (∀ m ∈ body, m = .ping [] ∨ ∃ f : Frame, m = f.toMessage) ∧
        (close = [] ∨ ∃ notice, close = [.close (some notice)]) := by
  induction run with
  | refl => exact ⟨[], [], rfl, nofun, .inl rfl⟩
  | @step t u entries outputs before i made ih =>
      obtain ⟨body, close, whole, plain, last⟩ := ih
      rw [writes_snoc]
      rcases fresh.written_cases before made with nothing | ⟨unclosed, write, rfl⟩
      · exact ⟨body, close, by rw [nothing, List.append_nil, whole], plain, last⟩
      · obtain rfl : close = [] := by
          rcases last with none_closed | ⟨notice, rfl⟩
          · exact none_closed
          · have member : .close (some notice) ∈ writes entries := by simp [whole]
            have closed := mem_writes_close member
            rw [unclosed] at closed
            cases closed
        rw [List.append_nil] at whole
        have more (m : WebSocket.Message) (known : m = .ping [] ∨ ∃ f : Frame, m = f.toMessage) :
            ∀ x ∈ body ++ [m], x = .ping [] ∨ ∃ f : Frame, x = f.toMessage := by
          intro x member
          rcases List.mem_append.mp member with old | new
          · exact plain x old
          · exact List.mem_singleton.mp new ▸ known
        cases write with
        | data f => exact ⟨body ++ [f.toMessage], [], by simp [whole, written, Write.message],
            more _ (.inr ⟨f, rfl⟩), .inl rfl⟩
        | ping => exact ⟨body ++ [.ping []], [], by simp [whole, written, Write.message],
            more _ (.inl rfl), .inl rfl⟩
        | close code reason => exact ⟨body, _, by rw [whole]; rfl, plain, .inr ⟨_, rfl⟩⟩

theorem Run.obeys (run : Run (opened o clock) entries u) : Obeys entries u.stage := by
  have fresh := opened_fresh o clock
  induction run with
  | refl =>
      rcases opened_cases o clock with ⟨next, _, same⟩ | same
      · rw [same]
        exact ⟨rfl, rfl⟩
      · rw [same]
        exact rfl
  | @step t u entries outputs before i made ih =>
      refine (act_of_step? made).obeys ih ?_ u.clock
      intro w stage due
      have arming := fresh.arming before (watch_of_ready stage)
      rw [arming.isClosing_eq]
      exact (arming.unclosed due).1

/-- In every run of an open connection, what is written is in order. Pings come from the timer and
    may stand anywhere before the close frame; without them, what is written is what was ordered. -/
theorem Run.output_grammar (run : Run (opened o clock) entries u) : OutputGrammar entries u := by
  have fresh := opened_fresh o clock
  constructor
  case word => exact fresh.word run
  case ordered =>
    have obeys := run.obeys
    cases stage : u.stage with
    | connecting =>
        rw [stage] at obeys
        exact obeys.elim
    | ready w =>
        rw [stage] at obeys
        exact ⟨[], Nat.zero_le 1, obeys.1, fun _ => rfl⟩
    | writing w write =>
        rw [stage] at obeys
        refine ⟨write.owed, ?_, obeys.1, fun _ => rfl⟩
        cases write <;> exact Nat.le_of_ble_eq_true rfl
    | crashed =>
        rw [stage] at obeys
        exact ⟨[], Nat.zero_le 1, obeys, fun _ => rfl⟩
    | finished =>
        rw [stage] at obeys
        exact obeys
  case silent =>
    rintro before c after rfl closes
    exact fresh.unwritten run closes
  case ignored =>
    intro closed running command uncancelled
    obtain ⟨w, watch⟩ := run.watched (opened_begun o clock) running
    have closing := (fresh.arming run watch).isClosing_eq
    rw [closed] at closing
    cases stage : u.stage with
    | ready v =>
        rw [stage] at watch
        cases watch
        cases command with
        | send f | close code reason => simp [step?, stage, commandWhileReady, closing]
        | cancel => exact absurd rfl uncancelled
    | writing v write =>
        have unclosed := fresh.unclosed_of_writing run stage
        rw [closed] at unclosed
        cases unclosed
    | connecting | finished | crashed =>
        rw [stage] at watch
        cases watch

/-- Two frames are sent around a ping, and then the connection closes; what comes later is dropped. -/
def orderedInputs : List Input :=
  [.command (some (.send (.text "a"))), .written (.ok ()),
    .tick ⟨10_000_000_000, by decide, by decide⟩, .pingDue, .written (.ok ()),
    .command (some (.send (.binary [1]))), .written (.ok ()), .read (.message (.text "b")),
    .command (some (.close 1001 none)), .written (.ok ()), .command (some (.send (.text "c"))),
    .command (some (.close 1000 (some "bye"))), .read (.message (.close (some ⟨1001, ""⟩)))]

theorem output_grammar_of_closed : ∃ (u : Socket) (entries : List Entry),
    (opened .default .zero).replay orderedInputs = some (u, entries) ∧
    writes entries = [.text "a", .ping [], .binary [1], .close (some ⟨1001, ""⟩)] ∧
    orders (taken entries) = [.data (.text "a"), .data (.binary [1]), .close 1001 ""] ∧
    OutputGrammar entries u := by
  refine ⟨_, _, rfl, rfl, rfl, ?_⟩
  have replayed : (opened .default .zero).replay orderedInputs = some _ := rfl
  exact Run.output_grammar (run_of_replay replayed)

end WampClient.Socket
