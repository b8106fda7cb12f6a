import WampClient.Proofs.Transport.Callbacks
import WampClient.Proofs.Transport.Commands

/-! # What a history tells of a phase

The phase of an attempt is no secret: as long as the handler was not told of the end, the attempt is
active exactly if nothing has cut it short, and open exactly if the event that opens it was applied
besides. Whether the attempt was asked to close is in the history, too.
-/

namespace WampClient.Transport

variable {H : Type} {n : Nat} {seen : History H}

theorem isCloseRequested_append (a b : History H) (n : Nat) :
    History.isCloseRequested (a ++ b) n =
      (History.isCloseRequested a n || History.isCloseRequested b n) :=
  List.any_append

theorem isCloseRequested_about (seen : History H) (n : Nat) :
    (seen.about n).isCloseRequested n = seen.isCloseRequested n := by
  unfold History.isCloseRequested History.about
  rw [List.any_filter]
  congr 1
  funext note
  unfold Note.attempt?
  split <;> grind

namespace Life

variable {h : H} {l m : Life H} {notes : History H} {e : Event}

@[simp] theorem isCloseRequested_pushed (n : Nat) (a : Attempt H) (c : Command) :
    History.isCloseRequested (pushed n a c) n = false := by
  unfold pushed
  split <;> rfl

/-- A step after which the attempt has ended untold, or a callback has failed, cuts the attempt
    short, or this was so before. -/
theorem Step.cut_of_ends (step : Step n l notes m) (ends : Ends m)
    (untold : m.attempt.dispatcher.hasTold = false) :
    History.isCutShort notes n = true ∨ Ends l ∧ l.attempt.dispatcher.hasTold = false := by
  cases step with
  | observed => exact .inr ⟨ends, untold⟩
  | sent | emitted | eventsEnded | commandsEnded | received =>
      exact .inr ⟨by simpa [Ends, on] using ends, by simpa [on] using untold⟩
  | asked isOpen =>
      refine .inr ⟨.inl ?_, by simpa using untold⟩
      simpa [Ends, Phase.isActive] using ends
  | aborted active =>
      left
      rw [History.isCutShort_append, isCutShort_abort, active, Bool.or_true]
  | launched _ begun =>
      exact .inr ⟨.inr (ends.resolve_left (by simp [on])), by simp [begun, Dispatcher.hasTold]⟩
  | taken _ _ waiting | noticed waiting =>
      exact .inr ⟨.inr (ends.resolve_left (by simp [on])), by simp [waiting, Dispatcher.hasTold]⟩
  | connected | peerClosed => simp [Ends, Phase.isActive] at ends
  | delivered _ held | ignored _ held =>
      exact .inr ⟨.inr (ends.resolve_left (by simp [on])), by simp [held, Dispatcher.hasTold]⟩
  | ended => cases untold
  | returned c failure calling =>
      cases failure with
      | some error =>
          cases c with
          | onDisconnect => cases untold
          | onConnect | onMessage => exact .inl (by simp [History.isCutShort, Callback.isLast])
      | none =>
          cases c with
          | onDisconnect => cases untold
          | onConnect | onMessage =>
              refine .inr ⟨.inr (ends.resolve_left (by simp [on, afterCallback])), ?_⟩
              simp [calling, Dispatcher.hasTold, Callback.isLast]
  | cutShort failed | wasAborted failed =>
      exact .inr ⟨.inl failed, by simp [failed, Dispatcher.hasTold]⟩
  | settled => cases untold

/-- As long as the handler was not told of the end, an attempt has ended exactly if it was cut
    short. All other ends are told by the move that brings them. -/
theorem Run.cut_iff (run : Run n h seen l) (untold : l.attempt.dispatcher.hasTold = false) :
    seen.isCutShort n = true ↔ Ends l := by
  constructor
  · exact run.ends
  · intro ends
    induction run with
    | begun => simp [Ends, ofHandler, Attempt.ofHandler, Phase.isActive] at ends
    | step before step ih =>
        rw [History.isCutShort_append, Bool.or_eq_true]
        rcases step.cut_of_ends ends untold with now | ⟨earlier, untold⟩
        · exact .inr now
        · exact .inl (ih untold earlier)

theorem Run.isActive_of_uncut (run : Run n h seen l) (uncut : seen.isCutShort n = false)
    (untold : l.attempt.dispatcher.hasTold = false) : l.phase.isActive = true := by
  apply Classical.byContradiction
  intro ended
  have cut := (run.cut_iff untold).mpr (.inr (by simpa using ended))
  simp [uncut] at cut

theorem Run.opened_of_isOpen (run : Run n h seen l) (isOpen : l.phase.isOpen = true) :
    .applied n .opened ∈ seen := by
  induction run with
  | begun => cases isOpen
  | @step seen more l m before step ih =>
      cases step with
      | connected => simp
      | asked opened | peerClosed _ _ _ opened =>
          exact List.mem_append_left _ (ih (by simp [opened, Phase.isOpen]))
      | aborted | ended | cutShort | settled => cases isOpen
      | observed | sent | launched | emitted | eventsEnded | commandsEnded | received | taken
      | noticed | delivered | ignored | returned | wasAborted =>
          exact List.mem_append_left _ (ih isOpen)

theorem Run.unopened (run : Run n h seen l) (connecting : l.phase = .connecting) :
    .applied n .opened ∉ seen := by
  have opens := run.opens
  simp only [Opens, connecting] at opens
  exact opens.1

theorem Run.isOpen_iff_of_uncut (run : Run n h seen l) (uncut : seen.isCutShort n = false)
    (untold : l.attempt.dispatcher.hasTold = false) :
    l.phase.isOpen = true ↔ .applied n .opened ∈ seen := by
  have active := run.isActive_of_uncut uncut untold
  constructor
  · exact run.opened_of_isOpen
  · intro opened
    cases phase : l.phase with
    | opened | closing => rfl
    | connecting => exact absurd opened (run.unopened phase)
    | idle | draining | closed => simp [phase, Phase.isActive] at active

/-- A dispatcher that holds an event finds its attempt open exactly if the attempt has opened and was
    not cut short. -/
theorem Run.isOpen_iff (run : Run n h seen l) (held : l.attempt.dispatcher = .holding e) :
    l.phase.isOpen = true ↔ .applied n .opened ∈ seen ∧ seen.isCutShort n = false := by
  have untold : l.attempt.dispatcher.hasTold = false := by simp [held, Dispatcher.hasTold]
  constructor
  · intro isOpen
    refine ⟨run.opened_of_isOpen isOpen, Bool.eq_false_iff.mpr fun cut => ?_⟩
    have ended := (run.ends cut).resolve_left (by simp [held])
    simp [Phase.isActive_of_isOpen isOpen] at ended
  · rintro ⟨opened, uncut⟩
    exact (run.isOpen_iff_of_uncut uncut untold).mpr opened

theorem Step.closeRequested_eq (step : Step n l notes m) :
    m.closeRequested = (l.closeRequested || History.isCloseRequested notes n) := by
  cases step with
  | observed op answer unsent unclosed =>
      rw [isCloseRequested_performed unclosed, Bool.or_false]
  | sent op f frame =>
      have kept : History.isCloseRequested [.performed n .opened op .done] n = false :=
        isCloseRequested_performed (absurd · (sends_only frame).2)
      exact (Bool.or_false _).symm.trans (congrArg (l.closeRequested || ·) kept.symm)
  | asked =>
      rw [isCloseRequested_append]
      simp [History.isCloseRequested]
  | aborted =>
      rw [isCloseRequested_append, isCloseRequested_pushed]
      simp [History.isCloseRequested, cancel]
  | cutShort => simp [cancel, on]
  | launched | emitted | eventsEnded | commandsEnded | received | taken | noticed | connected
  | delivered | peerClosed | ignored | ended | returned | wasAborted | settled =>
      simp [History.isCloseRequested, on]

theorem Run.closeRequested_eq (run : Run n h seen l) :
    l.closeRequested = seen.isCloseRequested n := by
  induction run with
  | begun => rfl
  | step before step ih => rw [step.closeRequested_eq, ih, isCloseRequested_append]

end Life

end WampClient.Transport
