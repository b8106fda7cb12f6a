import WampClient.Proofs.Socket.Act

/-! # What an input changes

`Change` says of each input what it leaves of the deadlines, what is written, and why a socket ends.
The deadlines of an open connection are set and dropped in five places: when it opens, when a ping or
a close frame was written, and when a pong or a close frame is read.
-/

namespace WampClient

def ConnectionFault.isTimeout : ConnectionFault → Bool
  | .pingTimeout | .closeTimeout => true
  | _ => false

namespace Socket

variable {s u : Socket} {i : Input} {outputs : List Output}

def Input.isPong : Input → Bool
  | .read (.message (.pong _)) => true
  | _ => false

def Input.isClose : Input → Bool
  | .read (.message (.close _)) => true
  | _ => false

/-- The deadline whose passing is told as this fault. -/
def Watch.deadline (w : Watch) : ConnectionFault → Option Instant
  | .pingTimeout => w.pongDeadline
  | .closeTimeout => w.closeDeadline
  | _ => none

/-- When a socket starts to write: pings when they are due, all else until a close frame was sent or
    received. -/
def Begins (s : Socket) (w : Watch) : Write → Prop
  | .ping => s.isDue w.nextPing = true
  | .data _ | .close _ _ => w.isClosing = false

/-- A socket ends with this event; if the event tells of a timeout, the deadline has come. -/
structure Ends (s : Socket) (e : Event) : Prop where
  last : e.isTerminal = true
  overdue : ∀ fault : ConnectionFault, fault.isTimeout = true →
    e = .failure (Error.connection fault).message →
      ∃ w, s.stage = .ready w ∧ s.isDue (w.deadline fault) = true

/-- What an input does to the watch over an open connection, with the deadlines that it sets or
    clears. Everything about time goes by these cases. -/
inductive Change (s : Socket) : Input → Socket → List Output → Prop where
  | ticked (clock : Instant) (later : s.clock ≤ clock) :
      Change s (.tick clock) { s with clock := clock } []
  /-- What is read is told or passed over, or a command is dropped. -/
  | passed {i : Input} {outputs : List Output} (unanswered : i.isPong = false ∧ i.isClose = false)
      (told : ∀ o ∈ outputs, ∃ f, o = .emit (.message f)) : Change s i s outputs
  | opened (next : Option Instant) (stage : s.stage = .connecting) (paces : s.Paces next) :
      Change s (.handshake (.ok ())) (s.goTo (.ready ⟨next, none, none, none⟩)) [.emit .opened]
  | began {i : Input} (w : Watch) (write : Write) (stage : s.stage = .ready w)
      (begins : s.Begins w write) (unanswered : i.isPong = false ∧ i.isClose = false) :
      Change s i (s.goTo (.writing w write)) []
  | ponged (w : Watch) (content : Bytes) (stage : s.stage = .ready w) :
      Change s (.read (.message (.pong content))) (s.goTo (.ready { w with pongDeadline := none })) []
  | peerClosed (w : Watch) (notice : Option WebSocket.CloseNotice) (stage : s.stage = .ready w) :
      Change s (.read (.message (.close notice)))
        (s.goTo (.ready { w with
          peerClose := some (reported notice), nextPing := none, pongDeadline := none }))
        [.emit (.closing (reported notice).1 (reported notice).2)]
  | sent (w : Watch) (f : Frame) (stage : s.stage = .writing w (.data f)) :
      Change s (.written (.ok ())) (s.goTo (.ready w)) [.wrote f.toMessage]
  | closed (w : Watch) (code : UInt16) (reason : String) (deadline : Instant)
      (stage : s.stage = .writing w (.close code reason))
      (shown : s.clock.add? s.options.closeTimeout = some deadline) :
      Change s (.written (.ok ()))
        (s.goTo (.ready { w with
          closeDeadline := some deadline, nextPing := none, pongDeadline := none }))
        [.wrote (.close (some ⟨code, reason⟩))]
  | pinged (w : Watch) (next : Option Instant) (deadline : Instant)
      (stage : s.stage = .writing w .ping) (paces : s.Paces next) (arms : s.Arms w deadline) :
      Change s (.written (.ok ()))
        (s.goTo (.ready { w with nextPing := next, pongDeadline := some deadline }))
        [.wrote (.ping [])]
  | ended {i : Input} (e : Event) (ends : s.Ends e)
      (unanswered : i.isPong = false ∧ i.isClose = false) :
      Change s i (s.goTo .finished) [.emit e]
  /-- The clock cannot show the time of the first ping. -/
  | unopened (stage : s.stage = .connecting) :
      Change s (.handshake (.ok ())) (s.goTo .crashed) [.emit .opened]
  /-- The clock cannot show a deadline that the message sets. -/
  | unarmed (w : Watch) (write : Write) (stage : s.stage = .writing w write) :
      Change s (.written (.ok ())) (s.goTo .crashed) [.wrote write.message]

theorem isDue_iff {deadline : Option Instant} :
    s.isDue deadline = true ↔ ∃ d, deadline = some d ∧ d ≤ s.clock := by
  cases deadline <;> simp [isDue]

theorem webSocket_ne_connection (stream : WebSocket.Fault) (fault : ConnectionFault) :
    (Error.webSocket stream).message ≠ (Error.connection fault).message := by
  intro same
  have words : "WebSocket error: " ++ stream.text = "Connection failed: " ++ fault.text := same
  have chars := congrArg String.toList words
  have ours : "WebSocket error: ".toList = 'W' :: "ebSocket error: ".toList := by decide
  have theirs : "Connection failed: ".toList = 'C' :: "onnection failed: ".toList := by decide
  rw [String.toList_append, String.toList_append, ours, theirs] at chars
  exact absurd (List.cons.inj chars).1 (by decide)

/-- What is worded as a timeout is that timeout, for all causes with a wording of their own. An end
    is told by its wording only, so this is what makes a timeout known by what is told. -/
theorem cause_of_message {cause fault : ConnectionFault} (known : ∀ text, cause ≠ .other text)
    (timeout : fault.isTimeout = true)
    (same : Event.failure (Error.connection cause).message =
      .failure (Error.connection fault).message) : cause = fault := by
  have words : "Connection failed: " ++ cause.text = "Connection failed: " ++ fault.text :=
    Event.failure.inj same
  have texts := (String.append_right_inj _).mp words
  cases fault with
  | pingTimeout | closeTimeout =>
      cases cause with
      | other text => exact absurd rfl (known text)
      | _ => first | rfl | exact absurd texts (by decide)
  | _ => cases timeout

theorem ends_webSocket (s : Socket) (stream : WebSocket.Fault) :
    s.Ends (.failure (Error.webSocket stream).message) where
  last := rfl
  overdue fault _ same := absurd (Event.failure.inj same) (webSocket_ne_connection stream fault)

theorem ends_closed (s : Socket) (code : UInt16) (reason : String) :
    s.Ends (.closed code reason) where
  last := rfl
  overdue _ _ same := by cases same

theorem ends_connection (s : Socket) (cause : ConnectionFault) (known : ∀ text, cause ≠ .other text)
    (due : cause.isTimeout = true → ∃ w, s.stage = .ready w ∧ s.isDue (w.deadline cause) = true) :
    s.Ends (.failure (Error.connection cause).message) where
  last := rfl
  overdue fault timeout same := by
    obtain rfl := cause_of_message known timeout same
    exact due timeout

theorem commandWhileConnecting_change (s : Socket) (c : Option Command) :
    s.Change (.command c) (s.commandWhileConnecting c).1 (s.commandWhileConnecting c).2 := by
  unfold commandWhileConnecting
  split
  · exact .passed ⟨rfl, rfl⟩ nofun
  · exact .ended _ (s.ends_connection _ nofun nofun) ⟨rfl, rfl⟩
  · exact .ended _ (s.ends_connection _ nofun nofun) ⟨rfl, rfl⟩
  · exact .ended _ (s.ends_connection _ nofun nofun) ⟨rfl, rfl⟩

theorem commandWhileReady_change {w : Watch} (stage : s.stage = .ready w) (c : Option Command) :
    s.Change (.command c) (s.commandWhileReady w c).1 (s.commandWhileReady w c).2 := by
  have written (write : Write) (begins : w.isClosing = false → s.Begins w write) :
      s.Change (.command c) (if w.isClosing then s else s.goTo (.writing w write)) [] := by
    split
    · exact .passed ⟨rfl, rfl⟩ nofun
    · rename_i running
      exact .began w write stage (begins (Bool.eq_false_iff.mpr running)) ⟨rfl, rfl⟩
  unfold commandWhileReady
  split
  · exact written _ id
  · exact written _ id
  · exact .ended _ (s.ends_connection _ nofun nofun) ⟨rfl, rfl⟩
  · exact .ended _ (s.ends_connection _ nofun nofun) ⟨rfl, rfl⟩

theorem streamEnded_change {w : Watch} (unanswered : i.isPong = false ∧ i.isClose = false) :
    s.Change i (s.streamEnded w).1 (s.streamEnded w).2 := by
  unfold streamEnded
  split
  · exact .ended _ (s.ends_closed _ _) unanswered
  · exact .ended _ (s.ends_connection _ nofun nofun) unanswered

theorem readMessage_change {w : Watch} (stage : s.stage = .ready w) (m : WebSocket.Message) :
    s.Change (.read (.message m)) (s.readMessage w m).1 (s.readMessage w m).2 := by
  cases m with
  | close notice => exact .peerClosed w notice stage
  | pong content => exact .ponged w content stage
  | text | binary | ping | packet =>
      exact .passed ⟨rfl, rfl⟩ (by simp [readMessage, Frame.ofMessage?])

theorem readWhileReady_change {w : Watch} (stage : s.stage = .ready w) (r : Reading) :
    s.Change (.read r) (s.readWhileReady w r).1 (s.readWhileReady w r).2 := by
  unfold readWhileReady
  split
  · exact readMessage_change stage _
  · exact streamEnded_change ⟨rfl, rfl⟩
  · exact streamEnded_change ⟨rfl, rfl⟩
  · exact streamEnded_change ⟨rfl, rfl⟩
  · exact .ended _ (s.ends_webSocket _) ⟨rfl, rfl⟩

theorem afterHandshake_change (stage : s.stage = .connecting)
    (result : Except WebSocket.Fault Unit) :
    s.Change (.handshake result) (s.afterHandshake result).1 (s.afterHandshake result).2 := by
  cases result with
  | error fault => exact .ended _ (s.ends_webSocket fault) ⟨rfl, rfl⟩
  | ok =>
      rcases s.schedulePing_cases ⟨none, none, none, none⟩ with ⟨next, paces, set⟩ | crashed
      · rw [afterHandshake, set]
        exact .opened next stage paces
      · rw [afterHandshake, crashed]
        exact .unopened stage

theorem afterWrite_change {w : Watch} {write : Write} (stage : s.stage = .writing w write) :
    s.Change (.written (.ok ())) (s.afterWrite w write) [.wrote write.message] := by
  cases write with
  | data f => exact .sent w f stage
  | close code reason =>
      rcases s.afterClose_cases w code reason with ⟨deadline, shown, set⟩ | crashed
      · rw [set]
        exact .closed w code reason deadline stage shown
      · rw [crashed]
        exact .unarmed w _ stage
  | ping =>
      rcases s.afterPing_cases w with ⟨next, deadline, paces, arms, set⟩ | crashed
      · rw [set]
        exact .pinged w next deadline stage paces arms
      · rw [crashed]
        exact .unarmed w _ stage

/-- What a socket does about an input is one of these changes. -/
theorem Act.change (act : Act s i u outputs) : s.Change i u outputs := by
  cases act with
  | ticked clock later => exact .ticked clock later
  | shaken result stage => exact afterHandshake_change stage result
  | toldEarly c stage => exact commandWhileConnecting_change s c
  | told w c stage => exact commandWhileReady_change stage c
  | read w r stage => exact readWhileReady_change stage r
  | pinged w stage due => exact .began w .ping stage due ⟨rfl, rfl⟩
  | unanswered w stage due =>
      exact .ended _ (s.ends_connection .pingTimeout nofun fun _ => ⟨w, stage, due⟩) ⟨rfl, rfl⟩
  | unclosed w stage due =>
      exact .ended _ (s.ends_connection .closeTimeout nofun fun _ => ⟨w, stage, due⟩) ⟨rfl, rfl⟩
  | wrote w write stage => exact afterWrite_change stage
  | unwritten w write fault stage => exact .ended _ (s.ends_webSocket fault) ⟨rfl, rfl⟩

theorem change_of_step? (made : s.step? i = some (u, outputs)) : s.Change i u outputs :=
  (act_of_step? made).change

end Socket

end WampClient
