import WampClient.Proofs.Options.Valid
import WampClient.Proofs.Socket.Change

/-! # When a socket crashes

A socket adds a span of time to its clock in three places: when it opens, after a ping and after a
close frame. It crashes there if the clock cannot show the sum, and nowhere else.
-/

namespace WampClient

def Instant.limit : Int := 0x8000_0000_0000_0000 * 1_000_000_000

theorem Instant.add?_eq_none_iff {t : Instant} {d : Duration} :
    t.add? d = none ↔ limit ≤ t.toNanos + d.toNanos := by
  have first := t.toNanos_ge
  unfold add? ofNanos? limit
  split
  · simp only [reduceCtorEq, false_iff]
    omega
  · simp only [true_iff]
    omega

namespace Socket

variable {s u : Socket} {i : Input} {outputs : List Output} {w : Watch}

/-- The spans of time that a socket adds to its clock when this input happens. There are three
    places that add anything: the end of the handshake, and the ends of the writes of a ping and of
    a close frame. -/
def measured (s : Socket) (i : Input) : List Duration :=
  match s.stage, i with
  | .connecting, .handshake (.ok ()) => s.options.autoPingInterval.toList
  | .writing _ (.close _ _), .written (.ok ()) => [s.options.closeTimeout]
  | .writing w .ping, .written (.ok ()) =>
    (if w.pongDeadline.isSome then [] else [s.options.autoPingTimeout]) ++
      s.options.autoPingInterval.toList
  | _, _ => []

theorem measured_mem_spans {d : Duration} (among : d ∈ s.measured i) : d ∈ s.options.spans := by
  unfold measured at among
  unfold Options.spans
  split at among
  · exact List.mem_append_left _ among
  · simp_all
  · split at among <;> grind
  · cases among

theorem schedulePing_crashed_iff (s : Socket) (w : Watch) : (s.schedulePing w).stage = .crashed ↔
    ∃ d ∈ s.options.autoPingInterval.toList, s.clock.add? d = none := by
  unfold schedulePing
  cases s.options.autoPingInterval with
  | none => simp [goTo]
  | some interval =>
      rcases s.schedule_cases interval fun t => .ready { w with nextPing := some t } with
        ⟨deadline, shown, set⟩ | ⟨unshown, crashed⟩
      · simp [set, goTo, shown]
      · simp [crashed, goTo, unshown]

theorem afterPing_crashed_iff (s : Socket) (w : Watch) : (s.afterWrite w .ping).stage = .crashed ↔
    (w.pongDeadline = none ∧ s.clock.add? s.options.autoPingTimeout = none) ∨
      ∃ d ∈ s.options.autoPingInterval.toList, s.clock.add? d = none := by
  simp only [afterWrite]
  cases w.pongDeadline with
  | some deadline => simp [schedulePing_crashed_iff]
  | none =>
      cases shown : s.clock.add? s.options.autoPingTimeout with
      | some t => simp [schedulePing_crashed_iff]
      | none => simp [goTo]

theorem afterClose_crashed_iff (s : Socket) (w : Watch) (code : UInt16) (reason : String) :
    (s.afterWrite w (.close code reason)).stage = .crashed ↔
      s.clock.add? s.options.closeTimeout = none := by
  rcases s.schedule_cases s.options.closeTimeout fun t => .ready
      { w with closeDeadline := some t, nextPing := none, pongDeadline := none } with
    ⟨deadline, shown, set⟩ | ⟨unshown, crashed⟩
  · simp [afterWrite, set, goTo, shown]
  · simp [afterWrite, crashed, goTo, unshown]

theorem Change.uncrashed (change : s.Change i u outputs) (running : s.stage ≠ .crashed)
    (shaken : i ≠ .handshake (.ok ())) (wrote : i ≠ .written (.ok ())) : u.stage ≠ .crashed := by
  cases change with
  | ticked | passed => exact running
  | unopened => exact absurd rfl shaken
  | unarmed => exact absurd rfl wrote
  | _ => nofun

theorem measured_eq_nil (shaken : i ≠ .handshake (.ok ())) (wrote : i ≠ .written (.ok ())) :
    s.measured i = [] := by
  unfold measured
  split
  · exact absurd rfl shaken
  · exact absurd rfl wrote
  · exact absurd rfl wrote
  · rfl

/-- An input crashes a socket exactly if one of the sums that it makes cannot be formed. Away from
    the three places, nothing is added. -/
theorem crashed_iff (made : s.step? i = some (u, outputs)) (running : s.stage ≠ .crashed) :
    u.stage = .crashed ↔ ∃ d ∈ s.measured i, s.clock.add? d = none := by
  have act := act_of_step? made
  have elsewhere (shaken : i ≠ .handshake (.ok ())) (wrote : i ≠ .written (.ok ())) :
      u.stage = .crashed ↔ ∃ d ∈ s.measured i, s.clock.add? d = none := by
    rw [measured_eq_nil shaken wrote]
    simp [act.change.uncrashed running shaken wrote]
  cases act with
  | shaken result stage =>
      cases result with
      | error fault => exact elsewhere (by simp) (by simp)
      | ok =>
          simp only [measured, stage, afterHandshake]
          exact schedulePing_crashed_iff s _
  | wrote w write stage =>
      cases write with
      | data f => simp [measured, stage, afterWrite, goTo]
      | close code reason =>
          rw [afterClose_crashed_iff]
          simp [measured, stage]
      | ping =>
          rw [afterPing_crashed_iff]
          cases armed : w.pongDeadline <;> simp [measured, stage, armed]
  | ticked | toldEarly | told | read | pinged | unanswered | unclosed | unwritten =>
      exact elsewhere (by simp) (by simp)

end Socket

end WampClient
