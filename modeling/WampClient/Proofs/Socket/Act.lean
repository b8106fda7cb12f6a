import WampClient.Socket.Basic

/-! # What a socket does about an input

Each input can happen in one stage only, but for the time that passes in all of them. `Act` lists
what a socket does then; what its timers can leave behind is said once for each.
-/

namespace WampClient.Socket

variable {s u : Socket} {i : Input} {outputs : List Output}

/-- What a socket does about an input, with one case for each place at which an input can come. This
    is the one place where the functions of the socket are opened; what holds of all inputs is shown
    by these cases. -/
inductive Act (s : Socket) : Input → Socket → List Output → Prop where
  | ticked (clock : Instant) (later : s.clock ≤ clock) :
      Act s (.tick clock) { s with clock := clock } []
  | shaken (result : Except WebSocket.Fault Unit) (stage : s.stage = .connecting) :
      Act s (.handshake result) (s.afterHandshake result).1 (s.afterHandshake result).2
  | toldEarly (command : Option Command) (stage : s.stage = .connecting) :
      Act s (.command command) (s.commandWhileConnecting command).1 (s.commandWhileConnecting command).2
  | told (w : Watch) (command : Option Command) (stage : s.stage = .ready w) :
      Act s (.command command) (s.commandWhileReady w command).1 (s.commandWhileReady w command).2
  | read (w : Watch) (reading : Reading) (stage : s.stage = .ready w) :
      Act s (.read reading) (s.readWhileReady w reading).1 (s.readWhileReady w reading).2
  | pinged (w : Watch) (stage : s.stage = .ready w) (due : s.isDue w.nextPing = true) :
      Act s .pingDue (s.goTo (.writing w .ping)) []
  | unanswered (w : Watch) (stage : s.stage = .ready w) (due : s.isDue w.pongDeadline = true) :
      Act s .pongOverdue (s.goTo .finished) [.emit (.failure (Error.connection .pingTimeout).message)]
  | unclosed (w : Watch) (stage : s.stage = .ready w) (due : s.isDue w.closeDeadline = true) :
      Act s .closeOverdue (s.goTo .finished) [.emit (.failure (Error.connection .closeTimeout).message)]
  | wrote (w : Watch) (write : Write) (stage : s.stage = .writing w write) :
      Act s (.written (.ok ())) (s.afterWrite w write) [.wrote write.message]
  | unwritten (w : Watch) (write : Write) (fault : WebSocket.Fault)
      (stage : s.stage = .writing w write) :
      Act s (.written (.error fault)) (s.goTo .finished)
        [.emit (.failure (Error.webSocket fault).message)]

theorem act_of_step? (made : s.step? i = some (u, outputs)) : Act s i u outputs := by
  unfold step? at made
  split at made
  · rename_i clock
    split at made
    · rename_i later
      cases made
      exact .ticked clock later
    · cases made
  · rename_i result stage
    have act := Act.shaken result stage
    rwa [Option.some.inj made] at act
  · rename_i command stage
    have act := Act.toldEarly command stage
    rwa [Option.some.inj made] at act
  · rename_i w command stage
    have act := Act.told w command stage
    rwa [Option.some.inj made] at act
  · rename_i w reading stage
    have act := Act.read w reading stage
    rwa [Option.some.inj made] at act
  · rename_i w stage
    split at made
    · rename_i due
      cases made
      exact .pinged w stage due
    · cases made
  · rename_i w stage
    split at made
    · rename_i due
      cases made
      exact .unanswered w stage due
    · cases made
  · rename_i w stage
    split at made
    · rename_i due
      cases made
      exact .unclosed w stage due
    · cases made
  · rename_i w write stage
    cases made
    exact .wrote w write stage
  · rename_i w write fault stage
    cases made
    exact .unwritten w write fault stage
  · cases made

theorem schedule_cases (s : Socket) (d : Duration) (next : Instant → Stage) :
    (∃ deadline, s.clock.add? d = some deadline ∧ s.schedule d next = s.goTo (next deadline)) ∨
      (s.clock.add? d = none ∧ s.schedule d next = s.goTo .crashed) := by
  unfold schedule
  cases shown : s.clock.add? d with
  | some deadline => exact .inl ⟨deadline, rfl, rfl⟩
  | none => exact .inr ⟨rfl, rfl⟩

/-- The time of the next ping: a whole interval ahead, if pings are sent at all. -/
def Paces (s : Socket) (next : Option Instant) : Prop :=
  match s.options.autoPingInterval with
  | some interval => ∃ t, next = some t ∧ s.clock.add? interval = some t
  | none => next = none

/-- The deadline for an answer to a ping: one that runs already, or else one that starts to run. -/
def Arms (s : Socket) (w : Watch) (deadline : Instant) : Prop :=
  w.pongDeadline = some deadline ∨
    w.pongDeadline = none ∧ s.clock.add? s.options.autoPingTimeout = some deadline

theorem schedulePing_cases (s : Socket) (w : Watch) :
    (∃ next, s.Paces next ∧ s.schedulePing w = s.goTo (.ready { w with nextPing := next })) ∨
      s.schedulePing w = s.goTo .crashed := by
  unfold schedulePing Paces
  cases s.options.autoPingInterval with
  | none => exact .inl ⟨none, rfl, rfl⟩
  | some interval =>
      rcases s.schedule_cases interval fun t => .ready { w with nextPing := some t } with
        ⟨deadline, shown, set⟩ | ⟨_, crashed⟩
      · exact .inl ⟨some deadline, ⟨deadline, rfl, shown⟩, set⟩
      · exact .inr crashed

theorem afterClose_cases (s : Socket) (w : Watch) (code : UInt16) (reason : String) :
    (∃ deadline, s.clock.add? s.options.closeTimeout = some deadline ∧
      s.afterWrite w (.close code reason) = s.goTo (.ready
        { w with closeDeadline := some deadline, nextPing := none, pongDeadline := none })) ∨
      s.afterWrite w (.close code reason) = s.goTo .crashed := by
  rcases s.schedule_cases s.options.closeTimeout fun t => .ready
      { w with closeDeadline := some t, nextPing := none, pongDeadline := none } with
    ⟨deadline, shown, set⟩ | ⟨_, crashed⟩
  · exact .inl ⟨deadline, shown, set⟩
  · exact .inr crashed

theorem afterPing_cases (s : Socket) (w : Watch) :
    (∃ next deadline, s.Paces next ∧ s.Arms w deadline ∧ s.afterWrite w .ping =
        s.goTo (.ready { w with nextPing := next, pongDeadline := some deadline })) ∨
      s.afterWrite w .ping = s.goTo .crashed := by
  simp only [afterWrite]
  cases armed : w.pongDeadline with
  | some deadline =>
      rcases s.schedulePing_cases w with ⟨next, paces, set⟩ | crashed
      · refine .inl ⟨next, deadline, paces, .inl armed, ?_⟩
        simp only [set, armed]
      · exact .inr crashed
  | none =>
      cases shown : s.clock.add? s.options.autoPingTimeout with
      | some t =>
          rcases s.schedulePing_cases { w with pongDeadline := some t } with
            ⟨next, paces, set⟩ | crashed
          · exact .inl ⟨next, t, paces, .inr ⟨armed, shown⟩, set⟩
          · exact .inr crashed
      | none => exact .inr rfl

theorem streamEnded_cases (s : Socket) (w : Watch) :
    ∃ e, e.isTerminal = true ∧ s.streamEnded w = s.finish e := by
  unfold streamEnded
  split
  · exact ⟨_, rfl, rfl⟩
  · exact ⟨_, rfl, rfl⟩

theorem readMessage_cases (s : Socket) (w : Watch) (m : WebSocket.Message) :
    ((s.readMessage w m).1 = s ∨ ∃ v, (s.readMessage w m).1 = s.goTo (.ready v)) ∧
      .emit .opened ∉ (s.readMessage w m).2 := by
  cases m with
  | close notice => exact ⟨.inr ⟨_, rfl⟩, by simp [readMessage]⟩
  | pong content => exact ⟨.inr ⟨_, rfl⟩, by simp [readMessage]⟩
  | text | binary | ping | packet => exact ⟨.inl rfl, by simp [readMessage, Frame.ofMessage?]⟩

theorem readWhileReady_cases (s : Socket) (w : Watch) (reading : Reading) :
    ((s.readWhileReady w reading).1 = s ∨ (∃ v, (s.readWhileReady w reading).1 = s.goTo (.ready v)) ∨
      (s.readWhileReady w reading).1 = s.goTo .finished) ∧
      .emit .opened ∉ (s.readWhileReady w reading).2 := by
  have ended : (s.streamEnded w).1 = s.goTo .finished ∧ .emit .opened ∉ (s.streamEnded w).2 := by
    obtain ⟨e, last, same⟩ := s.streamEnded_cases w
    rw [same]
    refine ⟨rfl, ?_⟩
    cases e <;> simp_all [finish, Event.isTerminal]
  unfold readWhileReady
  split
  · rename_i m
    obtain ⟨same | ⟨v, next⟩, unopened⟩ := s.readMessage_cases w m
    · exact ⟨.inl same, unopened⟩
    · exact ⟨.inr (.inl ⟨v, next⟩), unopened⟩
  · exact ⟨.inr (.inr ended.1), ended.2⟩
  · exact ⟨.inr (.inr ended.1), ended.2⟩
  · exact ⟨.inr (.inr ended.1), ended.2⟩
  · exact ⟨.inr (.inr rfl), by simp [fail, finish]⟩

theorem mem_emitted {e : Event} : e ∈ emitted outputs ↔ .emit e ∈ outputs := by
  simp only [emitted, List.mem_filterMap]
  constructor
  · rintro ⟨o, member, same⟩
    cases o <;> simp_all
  · intro member
    exact ⟨_, member, rfl⟩

theorem Act.of_opened (act : Act s i u outputs) (opened : .opened ∈ emitted outputs) :
    i = .handshake (.ok ()) := by
  rw [mem_emitted] at opened
  cases act with
  | shaken result stage =>
      cases result with
      | ok => rfl
      | error fault => simp [afterHandshake, fail, finish] at opened
  | toldEarly c stage =>
      unfold commandWhileConnecting at opened
      split at opened <;> simp [fail, finish] at opened
  | told w c stage =>
      unfold commandWhileReady at opened
      split at opened <;> simp [fail, finish] at opened
  | read w reading stage => exact absurd opened (s.readWhileReady_cases w reading).2
  | ticked | pinged | unanswered | unclosed | wrote | unwritten => simp at opened

theorem Act.of_connecting (act : Act s i u outputs) (connecting : u.stage = .connecting) :
    s.stage = .connecting ∧ ∀ result, i ≠ .handshake result := by
  cases act with
  | ticked clock later => exact ⟨connecting, nofun⟩
  | shaken result stage =>
      cases result with
      | ok =>
          rcases s.schedulePing_cases ⟨none, none, none, none⟩ with ⟨next, _, set⟩ | crashed
          · simp [afterHandshake, set, goTo] at connecting
          · simp [afterHandshake, crashed, goTo] at connecting
      | error fault => cases connecting
  | toldEarly c stage => exact ⟨stage, nofun⟩
  | told w c stage =>
      unfold commandWhileReady at connecting
      split at connecting
      · split at connecting <;> simp [stage, goTo] at connecting
      · split at connecting <;> simp [stage, goTo] at connecting
      · cases connecting
      · cases connecting
  | read w reading stage =>
      rcases (s.readWhileReady_cases w reading).1 with same | ⟨v, next⟩ | ended
      · simp [same, stage] at connecting
      · simp [next, goTo] at connecting
      · simp [ended, goTo] at connecting
  | pinged | unanswered | unclosed | unwritten => cases connecting
  | wrote w write stage =>
      cases write with
      | data f => cases connecting
      | close code reason =>
          rcases s.afterClose_cases w code reason with ⟨deadline, _, set⟩ | crashed
          · simp [set, goTo] at connecting
          · simp [crashed, goTo] at connecting
      | ping =>
          rcases s.afterPing_cases w with ⟨next, deadline, _, _, set⟩ | crashed
          · simp [set, goTo] at connecting
          · simp [crashed, goTo] at connecting

end WampClient.Socket
