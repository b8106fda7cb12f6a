import WampClient.Proofs.Client.Change
import WampClient.Proofs.Socket.Outbound
import WampClient.Proofs.Transport.Commands
import WampClient.Proofs.Transport.Events

/-! # From a caller to the peer

The frames that a caller sends go through the queue of their attempt to its socket, and from there to
the peer. Neither side drops one of them: the transport accepts none before the socket has opened,
and the socket writes all that it receives until it closes.
-/

namespace WampClient

namespace Command

variable {frames : List Frame} {closes cancels : Bool} {received : List Command}

theorem frames_map_send (frames : List Frame) : Command.frames (frames.map .send) = frames := by
  rw [Command.frames, List.filterMap_map]
  exact List.filterMap_some

theorem frames_end (closes cancels : Bool) :
    Command.frames ((if closes then [.close normalClosure none] else []) ++
      (if cancels then [.cancel] else [])) = [] := by
  cases closes <;> cases cancels <;> rfl

theorem frames_stream : Command.frames (stream frames closes cancels) = frames := by
  rw [stream, List.append_assoc, frames_append, frames_map_send, frames_end, List.append_nil]

theorem frames_of_closed (received_first : received <+: stream frames closes cancels) {code : UInt16}
    {reason : Option String} (closed : .close code reason ∈ received) :
    Command.frames received = frames := by
  obtain ⟨rest, whole⟩ := received_first
  rw [stream, List.append_assoc] at whole
  rcases List.append_eq_append_iff.mp whole with ⟨more, sends, _⟩ | ⟨more, all, tail⟩
  · have among : .close code reason ∈ frames.map Command.send := by
      rw [sends]
      exact List.mem_append_left _ closed
    simp at among
  · have no_frames := frames_end closes cancels
    rw [tail, frames_append] at no_frames
    rw [all, frames_append, frames_map_send, (List.append_eq_nil_iff.mp no_frames).1, List.append_nil]

end Command

namespace Client

variable {H : Type} {c d : Client H} {notes seen : History H} {settings : Settings} {n : Nat}

theorem start_cases {h : Handshake} {nonce : Nonce} {clock : Instant} {s : Socket}
    {outputs : List Socket.Output} (start : Socket.start h nonce clock = (s, outputs)) :
    (s.stage = .connecting ∨ s.stage = .finished) ∧ Socket.dataWritten outputs = [] ∧
      .opened ∉ Socket.emitted outputs := by
  unfold Socket.start at start
  split at start
  · cases start
    exact ⟨.inl rfl, rfl, nofun⟩
  · cases start
    exact ⟨.inr rfl, rfl, by simp [Socket.emitted]⟩

def History.data (history : History H) (n : Nat) : List Frame :=
  Socket.dataWritten (history.outputs n)

theorem History.data_append (a b : History H) (n : Nat) : data (a ++ b) n = data a n ++ data b n := by
  rw [data, outputs_append, Socket.dataWritten_append]
  rfl

def History.hasOpened (history : History H) (n : Nat) : Prop :=
  ∃ outputs, .socket n (.handshake (.ok ())) outputs ∈ history

/-- The sockets of a client are in step with its transport: what an attempt has received is what its
    socket has taken in, and what its socket has written follows from that. -/
structure Linked (seen : History H) (c : Client H) : Prop where
  carries : ∀ n s, c.socket? n = some s →
    Socket.Carries (seen.transport.received n) (seen.data n) s.stage
  absent : ∀ n, c.socket? n = none →
    seen.transport.received n = [] ∧ seen.data n = [] ∧ ¬ seen.hasOpened n
  opened : ∀ n, .opened ∈ seen.transport.emitted n → seen.hasOpened n
  unopened : ∀ n s, c.socket? n = some s → s.stage = .connecting → ¬ seen.hasOpened n

theorem ofSettings_linked (settings : Settings) : Linked [] (ofSettings settings : Client H) := by
  have nothing (n : Nat) : ¬ History.hasOpened ([] : History H) n := fun ⟨_, member⟩ => nomatch member
  refine ⟨?_, fun n _ => ⟨rfl, rfl, nothing n⟩, fun n => nofun, fun n _ _ _ => nothing n⟩
  intro n s found
  cases n <;> cases found

theorem hasOpened_append :
    History.hasOpened (seen ++ notes) n ↔ seen.hasOpened n ∨ notes.hasOpened n := by
  simp only [History.hasOpened, List.mem_append, exists_or]

structure Notes (notes : History H) (n : Nat) (i : Socket.Input) (outputs : List Socket.Output) :
    Prop where
  received : ∀ k, notes.transport.received k = if k = n then i.commands else []
  data : ∀ k, notes.data k = if k = n then Socket.dataWritten outputs else []
  emitted : ∀ k e, e ∈ notes.transport.emitted k → k = n ∧ e ∈ Socket.emitted outputs
  opened : ∀ k, notes.hasOpened k ↔ k = n ∧ i = .handshake (.ok ())

theorem Linked.acted {s u : Socket} {i : Socket.Input} {outputs : List Socket.Output}
    {t : Transport H} (linked : Linked seen c) (noted : Notes notes n i outputs)
    (found : c.socket? n = some s) (act : s.Act i u outputs)
    (patient : s.stage = .connecting → ∀ f, i ≠ .command (some (.send f))) :
    Linked (seen ++ notes) ⟨t, c.sockets.set (n - 1) u⟩ := by
  constructor
  case carries =>
    intro k v there
    rw [History.transport_append, Transport.History.received_append, History.data_append,
      noted.received, noted.data]
    rw [socket?_set found] at there
    split at there
    · rename_i same
      cases there
      subst same
      rw [if_pos rfl, if_pos rfl]
      exact act.carries (linked.carries k s found) patient
    · rename_i other
      rw [if_neg other, if_neg other, List.append_nil, List.append_nil]
      exact linked.carries k v there
  case absent =>
    intro k absent
    rw [socket?_set found] at absent
    split at absent
    · cases absent
    · rename_i other
      obtain ⟨no_receipt, no_data, unopened⟩ := linked.absent k absent
      rw [History.transport_append, Transport.History.received_append, History.data_append,
        noted.received, noted.data, if_neg other, if_neg other, no_receipt, no_data]
      refine ⟨rfl, rfl, ?_⟩
      rw [hasOpened_append, noted.opened]
      rintro (earlier | ⟨same, _⟩)
      · exact unopened earlier
      · exact other same
  case opened =>
    intro k opened
    rw [hasOpened_append]
    rw [History.transport_append, Transport.History.emitted_append] at opened
    rcases List.mem_append.mp opened with earlier | now
    · exact .inl (linked.opened k earlier)
    · obtain ⟨same, emitted⟩ := noted.emitted k _ now
      exact .inr ((noted.opened k).mpr ⟨same, act.of_opened emitted⟩)
  case unopened =>
    intro k v there connecting opened
    rw [hasOpened_append, noted.opened] at opened
    rw [socket?_set found] at there
    split at there
    · rename_i same
      cases there
      subst same
      obtain ⟨before, unshaken⟩ := act.of_connecting connecting
      rcases opened with earlier | ⟨_, shaken⟩
      · exact linked.unopened k s found before earlier
      · exact unshaken _ shaken
    · rename_i other
      rcases opened with earlier | ⟨same, _⟩
      · exact linked.unopened k v there connecting earlier
      · exact other same

structure Quiet (notes : History H) : Prop where
  received : ∀ k, notes.transport.received k = []
  data : ∀ k, notes.data k = []
  emitted : ∀ k, .opened ∉ notes.transport.emitted k
  opened : ∀ k, ¬ notes.hasOpened k

theorem Linked.quiet {t : Transport H} (linked : Linked seen c) (quiet : Quiet notes) :
    Linked (seen ++ notes) { c with transport := t } := by
  have received (k : Nat) : (seen ++ notes).transport.received k = seen.transport.received k := by
    rw [History.transport_append, Transport.History.received_append, quiet.received, List.append_nil]
  have data (k : Nat) : (seen ++ notes).data k = seen.data k := by
    rw [History.data_append, quiet.data, List.append_nil]
  have opened (k : Nat) : (seen ++ notes).hasOpened k ↔ seen.hasOpened k := by
    rw [hasOpened_append]
    exact or_iff_left (quiet.opened k)
  constructor
  case carries =>
    intro k s found
    rw [received, data]
    exact linked.carries k s found
  case absent =>
    intro k absent
    rw [received, data, opened]
    exact linked.absent k absent
  case opened =>
    intro k emitted
    rw [opened]
    rw [History.transport_append, Transport.History.emitted_append] at emitted
    exact linked.opened k ((List.mem_append.mp emitted).resolve_right (quiet.emitted k))
  case unopened =>
    intro k s found connecting
    rw [opened]
    exact linked.unopened k s found connecting

theorem Linked.append {s : Socket} {t : Transport H} (linked : Linked seen c)
    (stage : s.stage = .connecting ∨ s.stage = .finished) :
    Linked seen ⟨t, c.sockets ++ [s]⟩ := by
  have absent : c.socket? (c.sockets.length + 1) = none := by simp [socket?]
  obtain ⟨no_receipt, no_data, unopened⟩ := linked.absent _ absent
  constructor
  case carries =>
    intro k v there
    rw [socket?_append] at there
    split at there
    · rename_i same
      cases there
      subst same
      rw [no_receipt, no_data]
      rcases stage with connecting | finished
      · rw [connecting]
        exact ⟨List.prefix_refl _, fun _ => rfl, by simp [Socket.Stage.writesClose]⟩
      · rw [finished]
        exact ⟨List.prefix_refl _, by simp [Socket.Stage.keepsUp], by simp [Socket.Stage.writesClose]⟩
    · exact linked.carries k v there
  case absent =>
    intro k absent
    rw [socket?_append] at absent
    split at absent
    · cases absent
    · exact linked.absent k absent
  case opened => exact linked.opened
  case unopened =>
    intro k v there connecting
    rw [socket?_append] at there
    split at there
    · rename_i same
      exact same ▸ unopened
    · exact linked.unopened k v there connecting

theorem data_deliver (t : Transport H) (n : Nat) (events : List Event) (k : Nat) :
    History.data (deliver t n events).2 k = [] := by
  rw [History.data, deliver_outputs]
  rfl

theorem hasOpened_deliver (t : Transport H) (n : Nat) (events : List Event) (k : Nat) :
    ¬ History.hasOpened (deliver t n events).2 k := by
  rintro ⟨outputs, member⟩
  obtain ⟨e, _, same⟩ := deliver_notes t n events _ member
  cases same

theorem quiet_own {own : Transport.History H} (is_own : ∀ note ∈ own, note.isOwn = true) :
    Quiet (own.map .transport) := by
  constructor
  case received =>
    intro k
    rw [History.transport_map, Transport.received_own is_own]
  case data =>
    intro k
    rw [History.data, History.outputs_map]
    rfl
  case emitted =>
    intro k
    rw [History.transport_map, Transport.emitted_own is_own]
    exact List.not_mem_nil
  case opened =>
    rintro k ⟨outputs, member⟩
    simp at member

theorem quiet_started {t : Transport H} {outputs : List Socket.Output}
    (no_data : Socket.dataWritten outputs = []) (unopened : .opened ∉ Socket.emitted outputs) :
    Quiet (.started n outputs :: (deliver t n (Socket.emitted outputs)).2) := by
  constructor
  case received => exact deliver_received t n _
  case data =>
    intro k
    have split : History.data (.started n outputs :: (deliver t n (Socket.emitted outputs)).2) k =
        History.data [.started n outputs] k ++
          History.data (deliver t n (Socket.emitted outputs)).2 k :=
      History.data_append [_] _ k
    rw [split, data_deliver, List.append_nil]
    by_cases here : n = k
    · simp [History.data, History.outputs, here, no_data]
    · simp [History.data, History.outputs, here, Socket.dataWritten, Socket.written]
  case emitted =>
    intro k emitted
    exact unopened (deliver_emitted t n _ emitted).2
  case opened =>
    intro k opened
    obtain ⟨shaken, member⟩ := opened
    have later := (List.mem_cons.mp member).resolve_left (by simp)
    exact hasOpened_deliver t n _ k ⟨shaken, later⟩

theorem Quiet.append {more : History H} (first : Quiet notes) (next : Quiet more) :
    Quiet (notes ++ more) := by
  constructor
  case received =>
    intro k
    rw [History.transport_append, Transport.History.received_append, first.received, next.received]
    rfl
  case data =>
    intro k
    rw [History.data_append, first.data, next.data]
    rfl
  case emitted =>
    intro k
    rw [History.transport_append, Transport.History.emitted_append]
    exact fun member => (List.mem_append.mp member).elim (first.emitted k) (next.emitted k)
  case opened =>
    intro k
    rw [hasOpened_append]
    exact fun either => either.elim (first.opened k) (next.opened k)

theorem data_socket (n : Nat) (i : Socket.Input) (outputs : List Socket.Output) (k : Nat) :
    History.data [(.socket n i outputs : Note H)] k =
      if k = n then Socket.dataWritten outputs else [] := by
  by_cases here : k = n
  · simp [History.data, History.outputs, here]
  · simp [History.data, History.outputs, here, Ne.symm here, Socket.dataWritten, Socket.written]

theorem hasOpened_socket (n : Nat) (i : Socket.Input) (outputs : List Socket.Output) (k : Nat) :
    History.hasOpened [(.socket n i outputs : Note H)] k ↔ k = n ∧ i = .handshake (.ok ()) := by
  constructor
  · rintro ⟨_, member⟩
    cases List.mem_singleton.mp member
    exact ⟨rfl, rfl⟩
  · rintro ⟨rfl, rfl⟩
    exact ⟨outputs, List.mem_singleton.mpr rfl⟩

theorem notes_acted (receipts : Transport.History H) {t : Transport H} {i : Socket.Input}
    {outputs : List Socket.Output}
    (received : ∀ k, receipts.received k = if k = n then i.commands else [])
    (unemitted : ∀ k, receipts.emitted k = []) :
    Notes (receipts.map .transport ++ ([.socket n i outputs] ++
      (deliver t n (Socket.emitted outputs)).2)) n i outputs := by
  constructor
  case received =>
    intro k
    rw [History.transport_append, History.transport_map, History.transport_append,
      Transport.History.received_append, Transport.History.received_append, received,
      deliver_received]
    exact List.append_nil _
  case data =>
    intro k
    have unwritten : History.data (receipts.map (.transport : _ → Note H)) k = [] := by
      rw [History.data, History.outputs_map]
      rfl
    rw [History.data_append, History.data_append, unwritten, data_deliver, data_socket,
      List.append_nil, List.nil_append]
  case emitted =>
    intro k e emitted
    rw [History.transport_append, History.transport_map, History.transport_append,
      Transport.History.emitted_append, unemitted] at emitted
    exact deliver_emitted t n _ emitted
  case opened =>
    intro k
    have unshaken : ¬ History.hasOpened (receipts.map (.transport : _ → Note H)) k := by
      rintro ⟨_, member⟩
      simp at member
    rw [hasOpened_append, hasOpened_append, hasOpened_socket]
    simp [unshaken, hasOpened_deliver]

/-- Before its socket has opened, an attempt receives nothing but a cancel. -/
theorem received_opened {own : Transport.History H} {t v : Transport H} {command : Command}
    (reached : Transport.Reaches settings own t) (received : t.receive n = some (command, v))
    (other : command ≠ .cancel) : .opened ∈ own.emitted n := by
  cases Transport.receive_moved received with
  | dispatched _ moved => cases moved
  | socketed found moved =>
      cases moved with
      | received c rest queue =>
          obtain ⟨lost, whole, _⟩ := reached.queue found
          have queued : command ∈ own.commands n := by simp [whole, queue]
          obtain ⟨h, l, run, shows⟩ := reached.life found
          rw [← Transport.commands_about] at queued
          have heard := run.applied_heard (run.opened_first queued other)
          rw [Transport.Life.Heard, Transport.emitted_about] at heard
          rcases heard with opened | lost | aborted
          · exact opened
          · cases lost
          · cases aborted

theorem fed_notes {t : Transport H} {i : Socket.Input} (outputs : List Socket.Output)
    (uncommanded : ∀ command, i ≠ .command (some command)) :
    Notes (.socket n i outputs :: (deliver t n (Socket.emitted outputs)).2) n i outputs := by
  refine notes_acted [] ?_ fun _ => rfl
  cases i with
  | command c =>
      cases c with
      | none => simp [Socket.Input.commands, Transport.History.received]
      | some command => exact absurd rfl (uncommanded command)
  | _ => simp [Socket.Input.commands, Transport.History.received]

theorem told_notes {t : Transport H} (command : Command) (outputs : List Socket.Output) :
    Notes (.transport (.received n command) :: .socket n (.command (some command)) outputs ::
      (deliver t n (Socket.emitted outputs)).2) n (.command (some command)) outputs := by
  refine notes_acted [.received n command] ?_ fun _ => rfl
  intro k
  by_cases here : k = n
  · simp [Transport.History.received, Socket.Input.commands, here]
  · simp [Transport.History.received, here, Ne.symm here]

/-- Each move of a client keeps its sockets in step with its transport. -/
theorem Change.linked (change : Change c notes d) (linked : Linked seen c)
    (reached : Transport.Reaches settings seen.transport c.transport) : Linked (seen ++ notes) d := by
  cases change with
  | moved m made own => exact linked.quiet (quiet_own own)
  | @started t own_notes s outputs nonce clock made own start =>
      obtain ⟨stage, no_data, unopened⟩ := start_cases start
      have quiet := (quiet_own own).append
        (quiet_started (n := c.sockets.length + 1) (t := t) no_data unopened)
      have rested := linked.quiet (t := t) quiet
      exact rested.append stage
  | fed found act uncommanded =>
      exact linked.acted (fed_notes _ uncommanded) found act fun _ f => uncommanded (.send f)
  | @told n command t s u outputs received found act =>
      refine linked.acted (told_notes _ _) found act ?_
      intro connecting f same
      cases same
      have opened := received_opened reached received nofun
      exact linked.unopened n s found connecting (linked.opened n opened)

theorem Change.of_socket {i : Socket.Input} {outputs : List Socket.Output} (change : Change c notes d)
    (member : .socket n i outputs ∈ notes) : ∃ s u, c.socket? n = some s ∧ s.Act i u outputs ∧
      Notes notes n i outputs ∧
      ∀ command, i = .command (some command) → ∃ t, c.transport.receive n = some (command, t) := by
  have undelivered {t : Transport H} {k : Nat} {events : List Event}
      (there : .socket n i outputs ∈ (deliver t k events).2) : False := by
    obtain ⟨e, _, same⟩ := deliver_notes t k events _ there
    cases same
  cases change with
  | moved m made own => simp at member
  | started nonce clock made own start =>
      rcases List.mem_append.mp member with own_note | later
      · simp at own_note
      · exact (undelivered ((List.mem_cons.mp later).resolve_left (by simp))).elim
  | fed found act uncommanded =>
      rcases List.mem_cons.mp member with same | later
      · cases same
        exact ⟨_, _, found, act, fed_notes _ uncommanded, fun command same =>
          absurd same (uncommanded command)⟩
      · exact (undelivered later).elim
  | told received found act =>
      rcases List.mem_cons.mp ((List.mem_cons.mp member).resolve_left (by simp)) with same | later
      · cases same
        refine ⟨_, _, found, act, told_notes _ _, ?_⟩
        intro command same
        cases same
        exact ⟨_, received⟩
      · exact (undelivered later).elim

theorem Run.linked (run : Run (ofSettings settings) seen c) : Linked seen c := by
  induction run with
  | refl => exact ofSettings_linked settings
  | step before m made ih => exact (step?_change made).linked ih before.transport

/-- What a client does with the frames that its callers send. That a caller was told of success only
    means that the frame was queued; it reaches the peer unless the connection ends before that
    otherwise than by a close. -/
structure OutboundDelivery (seen : History H) : Prop where
  /-- Until its handshake has succeeded, a socket receives nothing but a cancel. -/
  patient : ∀ n before command outputs after,
    seen = before ++ .socket n (.command (some command)) outputs :: after →
      ¬ History.hasOpened before n → command = .cancel
  ordered : ∀ n, seen.data n <+: seen.transport.accepted n
  /-- A socket that writes a close frame has written all frames that were or will be accepted. -/
  complete : ∀ n before i outputs after notice, seen = before ++ .socket n i outputs :: after →
    .close notice ∈ Socket.written outputs → History.data before n = seen.transport.accepted n

/-- In every run, the frames that were accepted reach the peer in order, as far as they were
    written, and no close frame overtakes them. What is accepted is queued, what is queued is
    received in order, and what is received is written in order. A socket that writes a close frame
    has received the close, behind which no frame is queued; so all frames that are ever accepted
    had come before it. -/
theorem Run.outbound_delivery (run : Run (ofSettings settings) seen c) : OutboundDelivery seen := by
  have received_first (n : Nat) : ∃ closes cancels, seen.transport.received n <+:
      Command.stream (seen.transport.accepted n) closes cancels := by
    obtain ⟨closes, cancels, word⟩ := run.transport.word n
    exact ⟨closes, cancels, word ▸ run.transport.received_prefix n⟩
  constructor
  case patient =>
    intro n before command outputs after whole unopened
    subst whole
    obtain ⟨seen, start, rest, d, e, earlier, rfl, change⟩ := run.split
    obtain ⟨_, _, _, _, _, received⟩ :=
      change.of_socket (List.mem_append_right _ List.mem_cons_self)
    obtain ⟨t, received⟩ := received command rfl
    apply Classical.byContradiction
    intro other
    have opened := earlier.linked.opened n (received_opened earlier.transport received other)
    exact unopened (hasOpened_append.mpr (.inl opened))
  case ordered =>
    intro n
    obtain ⟨closes, cancels, first⟩ := received_first n
    cases found : c.socket? n with
    | none =>
        rw [(run.linked.absent n found).2.1]
        exact List.nil_prefix
    | some s =>
        have carries := run.linked.carries n s found
        have frames_first := first.filterMap Command.frame?
        rw [← Command.frames, ← Command.frames, Command.frames_stream] at frames_first
        exact (List.prefix_append ..).trans (carries.sent.trans frames_first)
  case complete =>
    intro n before i outputs after notice whole closed
    subst whole
    obtain ⟨closes, cancels, first⟩ := received_first n
    obtain ⟨seen, start, rest, d, e, earlier, rfl, change⟩ := run.split
    obtain ⟨s, u, found, act, noted, _⟩ :=
      change.of_socket (List.mem_append_right _ List.mem_cons_self)
    obtain ⟨all, ⟨code, reason, asked⟩, no_data⟩ :=
      act.close_written (earlier.linked.carries n s found) closed
    have data := noted.data n
    rw [if_pos rfl, no_data, History.data_append] at data
    rw [History.data_append, (List.append_eq_nil_iff.mp data).1, List.append_nil, all]
    have received_now : (History.transport seen).received n <+:
        (History.transport (seen ++ start ++ .socket n i outputs :: after)).received n := by
      rw [List.append_assoc, History.transport_append, Transport.History.received_append]
      exact List.prefix_append ..
    exact Command.frames_of_closed (received_now.trans first) asked

/-- A caller sends two frames and closes; the socket writes one message at a time. -/
def closedMoves : List (Move Nat) :=
  [.perform (.connect 1), .launch 1 ⟨List.replicate 16 0, rfl⟩ .zero, .input 1 (.handshake (.ok ())),
    .take 1, .applyHeld 1, .finish 1 none, .perform (.sendFrame (.binary [7])),
    .perform (.sendFrame (.binary [8])), .receive 1, .perform .close, .input 1 (.written (.ok ())),
    .receive 1, .input 1 (.written (.ok ())), .receive 1, .input 1 (.written (.ok ()))]

theorem outbound_delivery_of_closed : ∃ (c : Client Nat) (seen : History Nat),
    (ofSettings .plain).replay closedMoves = some (c, seen) ∧
    Socket.written (seen.outputs 1) =
      [.binary [7], .binary [8], .close (some ⟨normalClosure, ""⟩)] ∧ OutboundDelivery seen := by
  refine ⟨_, _, rfl, rfl, ?_⟩
  have replayed : (ofSettings .plain).replay closedMoves = some _ := rfl
  exact Run.outbound_delivery (run_of_replay replayed)

end Client

end WampClient
