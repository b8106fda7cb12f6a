import WampClient.Proofs.Client.Sockets

/-! # From the peer to a handler

The data messages that the socket of an attempt reads come to the handler of that attempt in the
order in which they were read. If the attempt is not cut short, all of them have come once the handler
is told of the end.
-/

namespace WampClient

def Reading.callback? : Reading → Option Callback
  | .message (.text content) => some (.onMessage (Bytes.ofString content) false)
  | .message (.binary content) => some (.onMessage content true)
  | .message (.ping _) | .message (.pong _) | .message (.close _) | .message (.packet _) => none
  | .fault _ | .ended => none

theorem Reading.message?_event? (r : Reading) : r.event?.bind Event.message? = r.callback? := by
  cases r with
  | message m => cases m <;> rfl
  | fault | ended => rfl

theorem Callback.filter_isMessage (calls : List Callback) :
    (calls.filter (!·.isLast)).filter isMessage = calls.filter isMessage := by
  rw [List.filter_filter]
  congr 1
  funext c
  cases c <;> rfl

namespace Socket

variable {unusable : Option Error} {inputs : List Input} {events : List Event} {stage : Stage}

/-- What the events of a socket amount to for a handler is what the socket has read. -/
theorem Tells.messages (tells : Tells unusable inputs events stage) :
    (Event.told (Event.live events)).filter Callback.isMessage =
      (readings inputs).filterMap Reading.callback? := by
  by_cases opened : Opens inputs
  · obtain ⟨last, terminal, told⟩ := tells.opened opened
    have unended : ∀ e ∈ .opened :: (readings inputs).filterMap Reading.event?,
        e.isTerminal = false := by
      intro e member
      rcases List.mem_cons.mp member with rfl | told
      · rfl
      · obtain ⟨r, _, same⟩ := List.mem_filterMap.mp told
        exact Reading.unended_of_event? same
    have nothing_more : Event.live last.toList = [] := by
      cases last with
      | none => rfl
      | some e => exact Event.live_terminal (terminal e rfl) []
    rw [told, Event.live_append unended, nothing_more, List.append_nil, Event.messages_told,
      List.dropWhile_cons_of_neg (by simp), List.filterMap_cons_none rfl, List.filterMap_filterMap]
    congr 1
    funext r
    exact r.message?_event?
  · obtain ⟨refusal, _, told⟩ := tells.unopened opened
    have nothing : Event.live events = [] := by
      rw [told]
      cases refusal <;> rfl
    rw [nothing, tells.unread opened]
    rfl

end Socket

namespace Transport

variable {H : Type} {t : Transport H} {n : Nat} {settings : Settings} {seen : History H}

/-- Once the handler of an attempt that was not cut short is told of the end, it was told all that the
    events of the socket amount to. -/
theorem Reaches.told_of_ended (reached : Reaches settings seen t) (uncut : seen.isCutShort n = false)
    {clean : Bool} (ended : .onDisconnect clean ∈ seen.callbacks n) :
    (seen.callbacks n).filter (!·.isLast) = Event.told (Event.live (seen.emitted n)) := by
  cases found : t.attempt? n with
  | none =>
      rw [reached.unborn_callbacks found] at ended
      cases ended
  | some a =>
      obtain ⟨h, l, run, shows⟩ := reached.life found
      rw [← isCutShort_about] at uncut
      rw [← callbacks_about] at ended ⊢
      rw [← emitted_about, run.told_applied uncut, ((run.awaits uncut).told (run.hasTold ended)).1]

end Transport

namespace Client

variable {H : Type} {c : Client H} {seen : History H} {settings : Settings}

theorem Relayed.messages (relayed : Relayed seen c) (n : Nat) :
    (Event.told (Event.live (seen.events n))).filter Callback.isMessage =
      (Socket.readings (seen.inputs n)).filterMap Reading.callback? := by
  cases found : c.socket? n with
  | none =>
      obtain ⟨unread, untold⟩ := relayed.unstarted n found
      rw [unread, untold]
      rfl
  | some s =>
      obtain ⟨unusable, tells⟩ := relayed.tells n s found
      exact tells.messages

/-- What the handlers of a client are told of the messages that its sockets read. Messages keep
    their order, their bytes and their tags on the way, and none is told twice. -/
structure InboundMessages (seen : History H) : Prop where
  /-- No handler is told anything but what was read, in order, be its attempt cut short or not. -/
  prefixed : ∀ n, (seen.transport.callbacks n).filter Callback.isMessage <+:
    (Socket.readings (seen.inputs n)).filterMap Reading.callback?
  /-- The handler of an attempt that was not cut short was told all before it is told of the end. -/
  complete : ∀ n clean, seen.transport.isCutShort n = false →
    .onDisconnect clean ∈ seen.transport.callbacks n →
      (seen.transport.callbacks n).filter Callback.isMessage =
        (Socket.readings (seen.inputs n)).filterMap Reading.callback?

/-- In every run, the data messages that were read come to the handlers in order, each once, and
    none of them is lost unless the attempt is cut short. Two results meet here: what a socket emits
    of what it reads, and what a handler is told of what was emitted. -/
theorem Run.inbound_messages (run : Run (ofSettings settings) seen c) : InboundMessages seen := by
  have relayed := run.relayed
  constructor
  case prefixed =>
    intro n
    rw [← relayed.messages n, ← Callback.filter_isMessage]
    apply List.IsPrefix.filter
    obtain ⟨late, all⟩ := relayed.prefixed n
    obtain ⟨rest, live⟩ := Event.live_prefix (seen.transport.emitted n) late
    rw [← all, ← live]
    exact (run.transport.told_prefix n).trans (Event.told_prefix _ rest)
  case complete =>
    intro n clean uncut ended
    rw [← relayed.messages n, ← Callback.filter_isMessage, ← relayed.relayed n (.inr uncut),
      run.transport.told_of_ended uncut ended]

/-- A socket reads a text, a ping, binary data and a close frame. The peer goes on to send while the
    handler still answers the first message, and then the stream ends. -/
def inboundMoves : List (Move Nat) :=
  [.perform (.connect 1), .launch 1 ⟨List.replicate 16 1, rfl⟩ .zero, .input 1 (.handshake (.ok ())),
    .input 1 (.read (.message (.text "a"))), .take 1, .applyHeld 1, .input 1 (.read (.message (.ping [5]))),
    .finish 1 none, .take 1, .applyHeld 1, .input 1 (.read (.message (.binary [7]))),
    .perform .close, .input 1 (.read (.message (.close (some ⟨1000, "bye"⟩)))), .finish 1 none,
    .take 1, .applyHeld 1, .finish 1 none, .input 1 (.read (.message (.text "b"))), .take 1,
    .applyHeld 1, .input 1 (.read .ended), .take 1, .applyHeld 1, .finish 1 none, .take 1, .applyHeld 1]

theorem inbound_messages_of_closed : ∃ (c : Client Nat) (seen : History Nat),
    (ofSettings .plain).replay inboundMoves = some (c, seen) ∧
    seen.transport.isCutShort 1 = false ∧ seen.transport.callbacks 1 = [.onConnect,
      .onMessage (Bytes.ofString "a") false, .onMessage [7] true, .onMessage (Bytes.ofString "b") false,
      .onDisconnect true] ∧ InboundMessages seen := by
  refine ⟨_, _, rfl, rfl, rfl, ?_⟩
  have replayed : (ofSettings .plain).replay inboundMoves = some _ := rfl
  exact Run.inbound_messages (run_of_replay replayed)

end Client

end WampClient
