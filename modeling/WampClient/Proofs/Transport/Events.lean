import WampClient.Proofs.Transport.Lives

/-! # What a dispatcher applies

A dispatcher applies the events that the socket of its attempt has emitted, and the two events of
its own that stand for the end of the queue and for an abort.
-/

namespace WampClient.Transport.Life

variable {H : Type} {h : H} {n : Nat} {l m : Life H} {notes seen : History H}

/-- The event came from the socket, or stands for the end of its queue or for an abort. -/
def Heard (seen : History H) (n : Nat) (e : Event) : Prop :=
  e ∈ seen.emitted n ∨ e = .lost ∨ e = .aborted

theorem Heard.append {e : Event} (heard : Heard seen n e) : Heard (seen ++ notes) n e := by
  unfold Heard
  rw [History.emitted_append]
  exact heard.imp_left (List.mem_append_left _)

/-- The events at hand: in the queue, or at the dispatcher. -/
structure Hears (seen : History H) (n : Nat) (l : Life H) : Prop where
  queue : ∀ e ∈ l.attempt.events, e ∈ seen.emitted n
  held : ∀ e, l.attempt.dispatcher = .holding e → Heard seen n e

theorem Hears.quiet (hears : Hears seen n l) (events : ∀ e ∈ m.attempt.events, e ∈ l.attempt.events)
    (held : ∀ e, m.attempt.dispatcher = .holding e → l.attempt.dispatcher = .holding e) :
    Hears (seen ++ notes) n m := by
  constructor
  · intro e member
    rw [History.emitted_append]
    exact List.mem_append_left _ (hears.queue e (events e member))
  · intro e holds
    exact (hears.held e (held e holds)).append

theorem Step.hears (step : Step n l notes m) (hears : Hears seen n l) : Hears (seen ++ notes) n m := by
  cases step with
  | emitted e =>
      constructor
      · intro f member
        rw [History.emitted_append]
        rcases List.mem_append.mp member with before | now
        · exact List.mem_append_left _ (hears.queue f before)
        · obtain rfl := List.mem_singleton.mp now
          exact List.mem_append_right _ (by simp [History.emitted])
      · intro f holds
        exact (hears.held f holds).append
  | taken e rest waiting next =>
      rw [List.append_nil]
      rcases Attempt.next?_cases next with queue | ⟨_, _, rfl, rfl⟩
      · refine ⟨fun f member => hears.queue f (by simp_all [on]), ?_⟩
        intro f holds
        obtain rfl : e = f := by simpa [on] using holds
        exact .inl (hears.queue e (by simp [queue]))
      · constructor
        case queue =>
          intro f member
          cases member
        case held =>
          intro f holds
          obtain rfl : Event.lost = f := by simpa [on] using holds
          exact .inr (.inl rfl)
  | noticed =>
      refine ⟨fun f member => by simpa using hears.queue f member, ?_⟩
      intro f holds
      obtain rfl : Event.aborted = f := by simpa [on] using holds
      exact .inr (.inr rfl)
  | returned c failure =>
      refine hears.quiet (fun _ member => member) ?_
      intro f holds
      cases c <;> cases failure <;> simp [on, afterCallback] at holds
  | observed | sent | asked | aborted | launched | eventsEnded | commandsEnded | received | connected
  | delivered | peerClosed | ignored | ended | cutShort | wasAborted | settled =>
      exact hears.quiet (by simp [on, cancel]) (by simp [on, cancel])

theorem Run.hears (run : Run n h seen l) : Hears seen n l := by
  induction run with
  | begun => exact ⟨nofun, nofun⟩
  | step before step ih => exact step.hears ih

/-- What was applied was heard before. -/
theorem Run.applied_heard {e : Event} (run : Run n h seen l) (applied : .applied n e ∈ seen) :
    Heard seen n e := by
  induction run with
  | begun => cases applied
  | @step seen more l m before step ih =>
      rcases List.mem_append.mp applied with earlier | now
      · exact (ih earlier).append
      · have held := before.hears.held
        cases step with
        | connected at_hand | delivered _ at_hand | peerClosed _ _ at_hand | ignored _ at_hand
        | ended _ at_hand =>
            obtain rfl := by simpa using now
            exact (held _ at_hand).append
        | asked | aborted | cutShort =>
            simp [pushed] at now
        | observed | sent | launched | emitted | eventsEnded | commandsEnded | received | taken
        | noticed | returned | wasAborted | settled => simp at now

end WampClient.Transport.Life
