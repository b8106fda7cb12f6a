import WampClient.Proofs.Socket.Act

/-! # What a socket writes of what it receives

The data that a socket has written are frames that it was told to send, in that order. They are all
of them until a close frame was sent or received, and when the socket writes a close frame of its
own.
-/

namespace WampClient

def Command.frame? : Command → Option Frame
  | .send f => some f
  | .close _ _ | .cancel => none

def Command.frames (commands : List Command) : List Frame :=
  commands.filterMap frame?

theorem Command.frames_append (first more : List Command) :
    frames (first ++ more) = frames first ++ frames more :=
  List.filterMap_append

namespace Socket

variable {s u : Socket} {i : Input} {outputs : List Output} {received : List Command}
  {data : List Frame}

def Input.commands : Input → List Command
  | .command c => c.toList
  | _ => []

def dataWritten (outputs : List Output) : List Frame :=
  (written outputs).filterMap Frame.ofMessage?

theorem dataWritten_append (first more : List Output) :
    dataWritten (first ++ more) = dataWritten first ++ dataWritten more := by
  simp [dataWritten, written]

def Stage.pending : Stage → List Frame
  | .writing _ (.data f) => [f]
  | .writing _ (.close _ _) | .writing _ .ping | .connecting | .ready _ | .finished | .crashed => []

/-- No command was passed over in this stage. -/
def Stage.keepsUp : Stage → Bool
  | .connecting | .writing _ (.data _) | .writing _ (.close _ _) => true
  | .ready w | .writing w .ping => !w.isClosing
  | .finished | .crashed => false

def Stage.writesClose : Stage → Bool
  | .writing _ (.close _ _) => true
  | _ => false

/-- What a socket in this stage has written of the commands that it has received. Until a close
    frame was written or read, it keeps up: all frames are written but the one that is being written
    now. -/
structure Carries (received : List Command) (data : List Frame) (stage : Stage) : Prop where
  sent : data ++ stage.pending <+: Command.frames received
  whole : stage.keepsUp = true → data ++ stage.pending = Command.frames received
  asked : stage.writesClose = true → ∃ code reason, .close code reason ∈ received

theorem Carries.goes_on {a b : Stage} (carries : Carries received data a) (more : List Command)
    (idle : b.pending = []) (unasked : b.writesClose = false)
    (kept : b.keepsUp = true → a.keepsUp = true ∧ a.pending = [] ∧ Command.frames more = []) :
    Carries (received ++ more) data b := by
  constructor
  case sent =>
    rw [idle, List.append_nil, Command.frames_append]
    exact (List.prefix_append ..).trans (carries.sent.trans (List.prefix_append ..))
  case whole =>
    intro keeps
    obtain ⟨kept, nothing, no_frame⟩ := kept keeps
    have whole := carries.whole kept
    rw [idle, Command.frames_append, no_frame, ← whole, nothing, List.append_nil, List.append_nil]
  case asked => simp [unasked]

theorem Carries.same {a b : Stage} (carries : Carries received data a) (idle : b.pending = [])
    (unasked : b.writesClose = false) (kept : b.keepsUp = true → a.keepsUp = true ∧ a.pending = []) :
    Carries received data b := by
  have goes_on := carries.goes_on [] idle unasked fun keeps => ⟨(kept keeps).1, (kept keeps).2, rfl⟩
  rwa [List.append_nil] at goes_on

theorem Carries.finished {a : Stage} (carries : Carries received data a) (more : List Command) :
    Carries (received ++ more) data .finished := by
  refine carries.goes_on more rfl rfl ?_
  intro keeps
  cases keeps

theorem Carries.stops {a b : Stage} (carries : Carries received data a) (idle : b.pending = [])
    (unasked : b.writesClose = false) (behind : b.keepsUp = false) : Carries received data b := by
  refine carries.same idle unasked ?_
  intro keeps
  rw [behind] at keeps
  cases keeps

theorem afterHandshake_carries (stage : s.stage = .connecting)
    (carries : Carries received data s.stage) (result : Except WebSocket.Fault Unit) :
    Carries received data (s.afterHandshake result).1.stage := by
  cases result with
  | error fault => exact carries.stops rfl rfl rfl
  | ok =>
      simp only [afterHandshake]
      rcases s.schedulePing_cases ⟨none, none, none, none⟩ with ⟨next, _, set⟩ | crashed
      · rw [set]
        exact carries.same rfl rfl fun _ => by simp [stage, Stage.keepsUp, Stage.pending]
      · rw [crashed]
        exact carries.stops rfl rfl rfl

theorem commandWhileConnecting_carries (carries : Carries received data s.stage)
    (c : Option Command) (unsent : ∀ f, c ≠ some (.send f)) :
    Carries (received ++ c.toList) data (s.commandWhileConnecting c).1.stage := by
  cases c with
  | none => exact carries.finished _
  | some c =>
      cases c with
      | send f => exact absurd rfl (unsent f)
      | close | cancel => exact carries.finished _

theorem commandWhileReady_carries {w : Watch} (stage : s.stage = .ready w)
    (carries : Carries received data s.stage) (c : Option Command) :
    Carries (received ++ c.toList) data (s.commandWhileReady w c).1.stage := by
  rw [stage] at carries
  cases c with
  | none => exact carries.finished []
  | some c =>
      cases closing : w.isClosing with
      | true =>
          cases c with
          | send f | close code reason =>
              simp only [commandWhileReady, closing, if_true, stage]
              exact carries.goes_on _ rfl rfl fun keeps => by simp [Stage.keepsUp, closing] at keeps
          | cancel => exact carries.finished _
      | false =>
          have whole := carries.whole (by simp [Stage.keepsUp, closing])
          rw [Stage.pending, List.append_nil] at whole
          cases c with
          | send f =>
              simp only [commandWhileReady, closing]
              have next : data ++ [f] = Command.frames (received ++ [.send f]) := by
                rw [Command.frames_append, whole]
                rfl
              exact ⟨next ▸ List.prefix_refl _, fun _ => next, by simp [goTo, Stage.writesClose]⟩
          | close code reason =>
              simp only [commandWhileReady, closing]
              have next : data ++ [] = Command.frames (received ++ [.close code reason]) := by
                rw [Command.frames_append, whole]
                rfl
              exact ⟨next ▸ List.prefix_refl _, fun _ => next, fun _ => ⟨code, reason, by simp⟩⟩
          | cancel => exact carries.finished _

theorem streamEnded_carries (carries : Carries received data s.stage) (w : Watch) :
    Carries received data (s.streamEnded w).1.stage := by
  unfold streamEnded
  split <;> exact carries.stops rfl rfl rfl

theorem readMessage_carries {w : Watch} (stage : s.stage = .ready w)
    (carries : Carries received data s.stage) (m : WebSocket.Message) :
    Carries received data (s.readMessage w m).1.stage := by
  cases m with
  | close notice => exact carries.stops rfl rfl rfl
  | pong content =>
      rw [stage] at carries
      exact carries.same rfl rfl fun keeps => ⟨keeps, rfl⟩
  | text | binary | ping | packet => exact carries

theorem readWhileReady_carries {w : Watch} (stage : s.stage = .ready w)
    (carries : Carries received data s.stage) (reading : Reading) :
    Carries received data (s.readWhileReady w reading).1.stage := by
  unfold readWhileReady
  split
  · exact readMessage_carries stage carries _
  · exact streamEnded_carries carries w
  · exact streamEnded_carries carries w
  · exact streamEnded_carries carries w
  · exact carries.stops rfl rfl rfl

theorem afterWrite_carries {w : Watch} {write : Write} (stage : s.stage = .writing w write)
    (carries : Carries received data s.stage) :
    Carries received (data ++ dataWritten [.wrote write.message]) (s.afterWrite w write).stage := by
  rw [stage] at carries
  cases write with
  | data f =>
      have written : dataWritten [.wrote f.toMessage] = [f] := by
        simp [dataWritten, Socket.written, Frame.ofMessage?_toMessage]
      have whole : data ++ [f] ++ [] = Command.frames received :=
        (List.append_nil _).trans (carries.whole rfl)
      simp only [afterWrite, Write.message, written]
      exact ⟨whole ▸ List.prefix_refl _, fun _ => whole, by simp [goTo, Stage.writesClose]⟩
  | close code reason =>
      have nothing : dataWritten [.wrote (Write.close code reason).message] = [] := rfl
      rw [nothing, List.append_nil]
      rcases s.afterClose_cases w code reason with ⟨deadline, _, set⟩ | crashed
      · rw [set]
        exact carries.same rfl rfl fun keeps => by simp [goTo, Stage.keepsUp, Watch.isClosing] at keeps
      · rw [crashed]
        exact carries.stops rfl rfl rfl
  | ping =>
      have nothing : dataWritten [.wrote Write.ping.message] = [] := rfl
      rw [nothing, List.append_nil]
      rcases s.afterPing_cases w with ⟨next, deadline, _, _, set⟩ | crashed
      · rw [set]
        exact carries.same rfl rfl fun keeps => ⟨keeps, rfl⟩
      · rw [crashed]
        exact carries.stops rfl rfl rfl

section written

/-! Only the end of a write writes. -/

theorem written_afterHandshake (s : Socket) (result : Except WebSocket.Fault Unit) :
    written (s.afterHandshake result).2 = [] := by
  cases result <;> rfl

theorem written_commandWhileConnecting (s : Socket) (c : Option Command) :
    written (s.commandWhileConnecting c).2 = [] := by
  cases c with
  | none => rfl
  | some c => cases c <;> rfl

theorem written_commandWhileReady (s : Socket) (w : Watch) (c : Option Command) :
    written (s.commandWhileReady w c).2 = [] := by
  cases c with
  | none => rfl
  | some c => cases c <;> rfl

theorem written_streamEnded (s : Socket) (w : Watch) : written (s.streamEnded w).2 = [] := by
  unfold streamEnded
  split <;> rfl

theorem written_readWhileReady (s : Socket) (w : Watch) (reading : Reading) :
    written (s.readWhileReady w reading).2 = [] := by
  unfold readWhileReady
  split
  · rename_i m
    cases m <;> rfl
  · exact written_streamEnded s w
  · exact written_streamEnded s w
  · exact written_streamEnded s w
  · rfl

end written

theorem Act.written_cases (act : Act s i u outputs) :
    written outputs = [] ∨ ∃ w write, s.stage = .writing w write ∧ outputs = [.wrote write.message] := by
  cases act with
  | wrote w write stage => exact .inr ⟨w, write, stage, rfl⟩
  | shaken result => exact .inl (written_afterHandshake ..)
  | toldEarly c => exact .inl (written_commandWhileConnecting ..)
  | told w c => exact .inl (written_commandWhileReady ..)
  | read w reading => exact .inl (written_readWhileReady ..)
  | ticked | pinged | unanswered | unclosed | unwritten => exact .inl rfl

/-- Each input keeps what a socket has written in step with what it has received, as long as no frame
    reaches it before it has opened. -/
theorem Act.carries (act : Act s i u outputs) (carries : Carries received data s.stage)
    (patient : s.stage = .connecting → ∀ f, i ≠ .command (some (.send f))) :
    Carries (received ++ i.commands) (data ++ dataWritten outputs) u.stage := by
  have silent (nothing : written outputs = []) : data ++ dataWritten outputs = data := by
    simp [dataWritten, nothing]
  cases act with
  | ticked clock later =>
      rw [silent rfl]
      simpa [Input.commands] using carries
  | shaken result stage =>
      rw [silent (written_afterHandshake ..)]
      simpa [Input.commands] using afterHandshake_carries stage carries result
  | toldEarly c stage =>
      rw [silent (written_commandWhileConnecting ..)]
      refine commandWhileConnecting_carries carries c ?_
      intro f same
      exact patient stage f (by rw [same])
  | told w c stage =>
      rw [silent (written_commandWhileReady ..)]
      exact commandWhileReady_carries stage carries c
  | read w reading stage =>
      rw [silent (written_readWhileReady ..)]
      simpa [Input.commands] using readWhileReady_carries stage carries reading
  | pinged w stage due =>
      rw [silent rfl]
      rw [stage] at carries
      simpa [Input.commands, goTo] using
        carries.same (b := .writing w .ping) rfl rfl fun keeps => ⟨keeps, rfl⟩
  | unanswered w stage due =>
      rw [silent rfl]
      exact carries.finished _
  | unclosed w stage due =>
      rw [silent rfl]
      exact carries.finished _
  | wrote w write stage =>
      simpa [Input.commands] using afterWrite_carries stage carries
  | unwritten w write fault stage =>
      rw [silent rfl]
      exact carries.finished _

/-- When a close frame is written, all frames that were received before the close were written. -/
theorem Act.close_written (act : Act s i u outputs) (carries : Carries received data s.stage)
    {notice : Option WebSocket.CloseNotice} (closed : .close notice ∈ written outputs) :
    data = Command.frames received ∧ (∃ code reason, .close code reason ∈ received) ∧
      dataWritten outputs = [] := by
  rcases act.written_cases with nothing | ⟨w, write, stage, rfl⟩
  · rw [nothing] at closed
    cases closed
  · cases write with
    | close code reason =>
        rw [stage] at carries
        exact ⟨(List.append_nil _).symm.trans (carries.whole rfl), carries.asked rfl, rfl⟩
    | data f => cases f <;> simp [written, Write.message, Frame.toMessage] at closed
    | ping => simp [written, Write.message] at closed

end Socket

end WampClient
