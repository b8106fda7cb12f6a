import WampClient.Proofs.Client.Sockets
import WampClient.Proofs.Transport.Events
import WampClient.Proofs.Transport.Verdict

/-! # What a clean end says of the peer

A handler is told of a clean end only after the peer's close frame was read and the stream of messages
has ended. The status of that frame is the one that the verdict is about, with one exception: the code
that stands for no status is taken for none even where the peer has sent it.
-/

namespace WampClient

def Reading.notice? : Reading → Option (Option WebSocket.CloseNotice)
  | .message (.close notice) => some notice
  | .message _ | .fault _ | .ended => none

theorem Reading.closing?_event? (r : Reading) :
    r.event?.bind Event.closing? = r.notice?.map reported := by
  cases r with
  | message m => cases m <;> rfl
  | fault | ended => rfl

namespace Socket

variable {unusable : Option Error} {inputs : List Input} {events : List Event} {stage : Stage}

def lastNotice (readings : List Reading) : Option (Option WebSocket.CloseNotice) :=
  (readings.filterMap Reading.notice?).getLast?

theorem lastNotice_concat {r : Reading} (ends : r.endsStream = true) (readings : List Reading) :
    lastNotice (readings ++ [r]) = lastNotice readings := by
  have nothing : r.notice? = none := by
    cases r with
    | message => cases ends
    | fault | ended => rfl
  simp [lastNotice, nothing]

theorem lastClosing_events (readings : List Reading) :
    Event.lastClosing (readings.filterMap Reading.event?) = (lastNotice readings).map reported := by
  rw [Event.lastClosing, List.filterMap_filterMap, lastNotice, ← List.getLast?_map, List.map_filterMap]
  congr 2
  funext r
  exact r.closing?_event?

/-- The stream of messages ends with the last reading, and what was told of the last close frame is its
    status. -/
theorem Tells.closed_read (tells : Tells unusable inputs events stage) {code : UInt16} {reason : String}
    (closed : .closed code reason ∈ events) : ∃ earlier r notice,
      readings inputs = earlier ++ [r] ∧ r.endsStream = true ∧ lastNotice earlier = some notice ∧
        reported notice = (code, reason) := by
  have finished : stage = .finished := by
    apply Classical.byContradiction
    intro running
    cases tells.unended running _ closed
  subst finished
  rcases tells with ⟨_, unended, last, terminal, told, verdict⟩ | ⟨_, _, e, _, rfl⟩
  · have same : last = .closed code reason := by
      rw [told] at closed
      rcases List.mem_append.mp closed with earlier | now
      · rcases List.mem_cons.mp earlier with other | event
        · cases other
        · obtain ⟨r, _, event⟩ := List.mem_filterMap.mp event
          cases Reading.unended_of_event? event
      · exact (List.mem_singleton.mp now).symm
    obtain ⟨⟨r, member, ends⟩, closing⟩ := (verdict code reason).mp same
    rw [told, Event.lastClosing_append, Event.lastClosing_of_isTerminal terminal, Option.none_or,
      ← List.singleton_append, Event.lastClosing_append, lastClosing_events] at closing
    rcases List.eq_nil_or_concat (readings inputs) with empty | ⟨earlier, x, parts⟩
    · simp [empty] at member
    · rw [List.concat_eq_append] at parts
      rw [parts, List.dropLast_concat] at unended
      rw [parts] at member closing ⊢
      obtain rfl : r = x := by
        rcases List.mem_append.mp member with before | now
        · rw [unended r before] at ends
          cases ends
        · exact List.mem_singleton.mp now
      rw [lastNotice_concat ends] at closing
      cases notice : lastNotice earlier with
      | none =>
          rw [notice] at closing
          cases closing
      | some notice' =>
          rw [notice] at closing
          exact ⟨earlier, r, notice', rfl, ends, notice, Option.some.inj closing⟩
  · cases List.mem_singleton.mp closed

end Socket

namespace Transport

variable {H : Type} {t : Transport H} {n : Nat} {settings : Settings} {seen : History H}

theorem Reaches.applied_heard (reached : Reaches settings seen t) {e : Event}
    (applied : .applied n e ∈ seen) : Life.Heard seen n e := by
  have about : .applied n e ∈ seen.about n := mem_about applied rfl
  cases found : t.attempt? n with
  | none =>
      obtain ⟨_, op, answer, same, _⟩ := reached.unborn found _ about
      cases same
  | some a =>
      obtain ⟨h, l, run, _⟩ := reached.life found
      have heard := run.applied_heard about
      rwa [Life.Heard, emitted_about] at heard

theorem step?_launch_notes {v : Transport H} {notes : History H}
    (made : t.step? (.launch n) = some (v, notes)) : ∃ h handshake, notes = [.launched n h handshake] := by
  cases step?_moved made with
  | dispatched _ moved =>
      cases moved with
      | launched => exact ⟨_, _, rfl⟩
  | socketed _ moved => cases moved

end Transport

namespace Client

variable {H : Type} {c d : Client H} {seen notes : History H} {settings : Settings} {n : Nat}

theorem Change.of_called {h : H} {callback : Callback} (change : Change c notes d)
    (member : .transport (.called n h callback) ∈ notes) :
    ∃ own : Transport.History H, notes = own.map .transport ∧ ∀ k, own.emitted k = [] := by
  have undelivered {t : Transport H} {k : Nat} {events : List Event}
      (there : .transport (.called n h callback) ∈ (deliver t k events).2) : False := by
    obtain ⟨e, _, same⟩ := deliver_notes t k events _ there
    cases same
  cases change with
  | moved m made own => exact ⟨_, rfl, Transport.emitted_own own⟩
  | started nonce clock made own start =>
      obtain ⟨_, _, rfl⟩ := Transport.step?_launch_notes made
      rcases List.mem_cons.mp member with other | later
      · cases other
      · exact (undelivered ((List.mem_cons.mp later).resolve_left nofun)).elim
  | fed found act uncommanded =>
      exact (undelivered ((List.mem_cons.mp member).resolve_left nofun)).elim
  | told received found act =>
      have later := (List.mem_cons.mp member).resolve_left nofun
      exact (undelivered ((List.mem_cons.mp later).resolve_left nofun)).elim

/-- After this history, the close frame with this status counts as a clean end of attempt `n`. -/
def History.CountsAsClean (history : History H) (n : Nat) : Option WebSocket.CloseNotice → Prop
  | none => history.transport.isCloseRequested n = true
  | some notice => notice.code = 1000 ∨ notice.code = 1001 ∨
      notice.code = 1005 ∧ history.transport.isCloseRequested n = true

/-- What a socket had read when its handler was told of a clean end: a close frame whose status
    counts, and then the end of the stream. A status of 1005 that the peer gives counts like no
    status at all. -/
structure CleanClose (seen : History H) : Prop where
  read : ∀ n (before : History H) h after,
    seen = before ++ .transport (.called n h (.onDisconnect true)) :: after → ∃ earlier r notice,
      Socket.readings (before.inputs n) = earlier ++ [r] ∧ r.endsStream = true ∧
        Socket.lastNotice earlier = some notice ∧ before.CountsAsClean n notice
  /-- A close frame with any other status does not make for a clean end. -/
  unclean : ∀ n (before : History H) h clean after (notice : WebSocket.CloseNotice),
    seen = before ++ .transport (.called n h (.onDisconnect clean)) :: after →
      Socket.lastNotice (Socket.readings (before.inputs n)) = some (some notice) →
        notice.code ∉ [1000, 1001, 1005] → clean = false

theorem Run.closed_emitted {before after : History H} {h : H} {callback : Callback}
    (run : Run (ofSettings settings) (before ++ .transport (.called n h callback) :: after) c)
    {code : UInt16} {reason : String} (applied : .applied n (.closed code reason) ∈ before.transport) :
    ∃ unusable stage, Socket.Tells unusable (before.inputs n) (before.events n) stage ∧
      .closed code reason ∈ before.events n := by
  obtain ⟨seen, start, rest, d, e, earlier, rfl, change⟩ := run.split
  obtain ⟨own, notes, unemitted⟩ := change.of_called (List.mem_append_right _ List.mem_cons_self)
  have reached := Transport.Run.trans earlier.transport change.transport
  rw [notes, History.transport_map] at reached
  have quiet : start.inputs n = [] ∧ start.events n = [] := by
    have inputs := History.inputs_map own n
    have outputs := History.outputs_map own n
    rw [← notes, History.inputs_append] at inputs
    rw [← notes, History.outputs_append] at outputs
    refine ⟨(List.append_eq_nil_iff.mp inputs).1, ?_⟩
    rw [History.events, (List.append_eq_nil_iff.mp outputs).1]
    rfl
  have member : .applied n (.closed code reason) ∈ History.transport seen ++ own := by
    rw [← History.transport_map own, ← notes, ← History.transport_append, ← List.append_assoc,
      History.transport_append]
    exact List.mem_append_left _ applied
  have emitted : .closed code reason ∈ (History.transport seen).emitted n := by
    rcases Transport.Reaches.applied_heard reached member with emitted | lost | aborted
    · rwa [Transport.History.emitted_append, unemitted, List.append_nil] at emitted
    · cases lost
    · cases aborted
  have relayed := earlier.relayed
  have told := (relayed.prefixed n).subset emitted
  rw [History.inputs_append, History.events_append, quiet.1, quiet.2, List.append_nil, List.append_nil]
  cases found : d.socket? n with
  | none =>
      rw [(relayed.unstarted n found).2] at told
      cases told
  | some s =>
      obtain ⟨unusable, tells⟩ := relayed.tells n s found
      exact ⟨unusable, s.stage, tells, told⟩

/-- Before a clean end, the socket has read a close frame that counts and then the end of the stream. -/
theorem Run.clean_read {before after : History H} {h : H}
    (run : Run (ofSettings settings) (before ++ .transport (.called n h (.onDisconnect true)) :: after) c) :
    ∃ earlier r notice, Socket.readings (before.inputs n) = earlier ++ [r] ∧ r.endsStream = true ∧
      Socket.lastNotice earlier = some notice ∧ before.CountsAsClean n notice := by
  have reached : Transport.Reaches settings (before.transport ++
      .called n h (.onDisconnect true) :: History.transport after) c.transport := by
    have whole := run.transport
    rwa [History.transport_append] at whole
  obtain ⟨past, e, _, _, _, _, verdict, ⟨other, _⟩ | ⟨same, first, _⟩⟩ :=
    reached.ending (n := n) rfl
  · cases other
  · cases same
    have cleanly := verdict.mp rfl
    cases e with
    | opened | message | closing | failure => exact cleanly.elim
    | closed code reason =>
        obtain ⟨_, _, counts⟩ := cleanly
        have applied : .applied n (.closed code reason) ∈ before.transport := by simp [first]
        obtain ⟨unusable, stage, tells, closed⟩ := run.closed_emitted applied
        obtain ⟨earlier, r, notice, parts, ends, last, status⟩ := tells.closed_read closed
        refine ⟨earlier, r, notice, parts, ends, last, ?_⟩
        have requested (asked : past.isCloseRequested n = true) :
            before.transport.isCloseRequested n = true := by
          rw [first, Transport.isCloseRequested_append, asked]
          rfl
        cases notice with
        | none =>
            cases status
            rcases counts with other | other | ⟨_, asked⟩
            · cases other
            · cases other
            · exact requested asked
        | some notice =>
            cases status
            exact counts.imp_right (.imp_right (.imp_right requested))

/-- In every run, a clean end means that the peer has closed with a status that counts. The verdict
    is that on the event which was applied; that event came from the socket, which emits it only at
    the end of the stream and with the last close frame that it has read. -/
theorem Run.clean_close (run : Run (ofSettings settings) seen c) : CleanClose seen := by
  constructor
  case read =>
    rintro n before h after rfl
    exact run.clean_read
  case unclean =>
    rintro n before h clean after notice rfl last other
    apply Classical.byContradiction
    intro not_false
    obtain rfl : clean = true := by simpa using not_false
    obtain ⟨earlier, r, notice', parts, ends, last', counts⟩ := run.clean_read
    rw [parts, Socket.lastNotice_concat ends, last'] at last
    cases last
    apply other
    simp only [List.mem_cons, List.not_mem_nil, or_false]
    exact counts.imp_right (.imp_right And.left)

/-- The peer answers a close with a close frame. -/
def answeredMoves (notice : Option WebSocket.CloseNotice) : List (Move Nat) :=
  [.perform (.connect 1), .launch 1 ⟨List.replicate 16 2, rfl⟩ .zero, .input 1 (.handshake (.ok ())),
    .take 1, .applyHeld 1, .finish 1 none, .perform .close, .receive 1, .input 1 (.written (.ok ())),
    .input 1 (.read (.message (.close notice))), .take 1, .applyHeld 1, .input 1 (.read .ended), .take 1,
    .applyHeld 1]

theorem clean_close_of_uncoded : ∃ (c : Client Nat) (seen : History Nat),
    (ofSettings .plain).replay (answeredMoves none) = some (c, seen) ∧
    seen.transport.callbacks 1 = [.onConnect, .onDisconnect true] ∧ CleanClose seen := by
  refine ⟨_, _, rfl, rfl, ?_⟩
  have replayed : (ofSettings .plain).replay (answeredMoves none) = some _ := rfl
  exact Run.clean_close (run_of_replay replayed)

/-- A peer that gives the status 1005 has given one, but its close counts as one without. -/
theorem clean_after_explicit_status : ∃ (c : Client Nat) (seen : History Nat),
    (ofSettings .plain).replay (answeredMoves (some ⟨1005, "bye"⟩)) = some (c, seen) ∧
    Socket.readings (seen.inputs 1) = [.message (.close (some ⟨1005, "bye"⟩)), .ended] ∧
    seen.transport.callbacks 1 = [.onConnect, .onDisconnect true] :=
  ⟨_, _, rfl, rfl, rfl⟩

end Client

end WampClient
