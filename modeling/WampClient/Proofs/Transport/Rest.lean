import WampClient.Proofs.Transport.Callbacks

/-! # Dispatchers come to rest

A dispatcher that is left alone with the events that its socket has emitted so far makes no more than a
bounded number of moves, whatever it chooses to do first and whatever its callbacks return. It can
therefore always be brought to rest.
-/

namespace WampClient

/-- How far a dispatcher is from its end, the events in the queue apart. -/
def Dispatcher.weight : Dispatcher → Nat
  | .done => 0
  | .settling => 1
  | .calling callback => if callback.isLast then 2 else 6
  | .holding event => if event.isTerminal then 3 else 7
  | .waiting => 4
  | .begun | .failed => 5

def Attempt.work {H : Type} (a : Attempt H) : List Event × Dispatcher :=
  (a.events, a.dispatcher)

theorem Attempt.work_push {H : Type} (a : Attempt H) (c : Command) : (a.push c).work = a.work := by
  simp [work]

/-- How many moves a dispatcher can make at most before the next event comes. An event is taken,
    applied and told, and the attempt aborted if that has failed, which makes four moves for each
    event in the queue. -/
def Attempt.weight {H : Type} (a : Attempt H) : Nat :=
  4 * a.events.length + a.dispatcher.weight

namespace Transport

variable {H : Type} {t u v : Transport H} {n : Nat} {notes : History H}

def work? (t : Transport H) (n : Nat) : Option (List Event × Dispatcher) :=
  (t.attempt? n).map Attempt.work

theorem work?_update (t : Transport H) (k : Nat) (n : Nat) {f : Attempt H → Attempt H}
    (same : ∀ a, (f a).work = a.work) : (t.update k f).work? n = t.work? n := by
  unfold work?
  rw [attempt?_update]
  split
  · rw [Option.map_map]
    congr 1
    exact funext same
  · rfl

theorem work?_carryOut (t : Transport H) (e : Effect) (n : Nat) :
    (t.carryOut e).1.work? n = t.work? n := by
  cases e with
  | command k c =>
      simp only [Transport.carryOut, push]
      split
      · exact work?_update t k n fun a => a.work_push c
      · rfl
  | wake k => exact work?_update t k n fun _ => rfl

theorem work?_carryOutAll (effects : List Effect) (t : Transport H) (n : Nat) :
    (t.carryOutAll effects).1.work? n = t.work? n := by
  induction effects generalizing t with
  | nil => rfl
  | cons e rest ih => exact (ih _).trans (work?_carryOut t e n)

def weight (t : Transport H) (n : Nat) : Nat :=
  ((t.attempt? n).map Attempt.weight).getD 0

theorem weight_eq {a : Attempt H} (found : t.attempt? n = some a) : t.weight n = a.weight := by
  simp [weight, found]

theorem weight_update {a : Attempt H} (found : t.attempt? n = some a) (f : Attempt H → Attempt H) :
    (t.update n f).weight n = (f a).weight :=
  weight_eq (by simp [attempt?_update, found])

theorem weight_relink (t : Transport H) (l : Link H) (n : Nat) :
    { t with link := l }.weight n = t.weight n := by
  rw [weight, attempt?_relink, weight]

theorem attempt?_extend {a : Attempt H} (found : t.attempt? n = some a) (l : Link H)
    (more : List (Attempt H)) :
    { t with link := l, attempts := t.attempts ++ more }.attempt? n = some a := by
  cases n with
  | zero => cases found
  | succ n =>
      obtain ⟨bound, _⟩ := List.getElem?_eq_some_iff.mp found
      exact (List.getElem?_append_left bound).trans found

theorem weight_of_work? (t : Transport H) (n : Nat) : t.weight n =
    ((t.work? n).map fun (events, d) => 4 * events.length + d.weight).getD 0 := by
  rw [weight, work?, Option.map_map]
  rfl

theorem weight_carryOutAll (effects : List Effect) (t : Transport H) (n : Nat) :
    (t.carryOutAll effects).1.weight n = t.weight n := by
  rw [weight_of_work?, weight_of_work?, work?_carryOutAll]

/-- The handler is told of the end when a last event is applied, and only then. -/
theorem weight_afterStep (l : Link H) (n : Nat) (e : Event) :
    (afterStep (l.apply n e).2).weight < (Dispatcher.holding e).weight := by
  cases e with
  | opened | message | closing | closed =>
      simp only [Link.apply]
      split <;> simp [afterStep, Dispatcher.weight, Callback.isLast, Event.isTerminal]
  | failure message => simp [Link.apply, afterStep, Dispatcher.weight, Callback.isLast, Event.isTerminal]

theorem weight_afterCallback (c : Callback) (failure : Option Error) :
    (afterCallback c failure).weight < (Dispatcher.calling c).weight := by
  cases c <;> cases failure <;> simp [afterCallback, Dispatcher.weight, Callback.isLast]

theorem Attempt.weight_next {a : Attempt H} {e : Event} {rest : List Event}
    (waiting : a.dispatcher = .waiting) (next : a.next? = some (e, rest)) :
    4 * rest.length + (Dispatcher.holding e).weight < a.weight := by
  rw [Attempt.weight, waiting]
  have light : (Dispatcher.holding e).weight ≤ 7 := by
    simp only [Dispatcher.weight]
    split <;> decide
  rcases Attempt.next?_cases next with queue | ⟨queue, _, rfl, rfl⟩
  · rw [queue, List.length_cons]
    simp only [Dispatcher.weight] at light ⊢
    omega
  · rw [queue]
    decide

/-- While its end is still to be told, the current attempt is not at rest. -/
theorem Coherent.busy_of_draining (coherent : Coherent t) (draining : t.link.phase = .draining) :
    t.isIdle t.link.attempt = false := by
  obtain ⟨a, found⟩ := coherent.exists_current (coherent.begun (by simp [draining]))
  have stands := (coherent.current_sound found).stands
  simp only [current, draining, Life.Stands] at stands
  simp only [isIdle, found]
  cases standing : a.dispatcher <;> simp_all [Dispatcher.isEnding]

theorem Dispatched.weight_lt {a : Attempt H} {m : Move H} (moved : Dispatched t n a m notes v)
    (found : t.attempt? n = some a) : v.weight n < t.weight n := by
  rw [weight_eq found]
  cases moved with
  | launched begun =>
      rw [setDispatcher, weight_update found]
      simp [Attempt.weight, begun, Dispatcher.weight]
  | taken e rest waiting next =>
      rw [weight_update found]
      exact Attempt.weight_next waiting next
  | noticed waiting =>
      rw [weight_update found]
      simp [Attempt.weight, waiting, Dispatcher.weight, Event.aborted, Event.isTerminal]
  | applied e held =>
      have lighter := weight_afterStep t.link n e
      rw [setDispatcher, weight_update ((attempt?_relink ..).trans found)]
      simp only [Attempt.weight, held]
      omega
  | returned c failure calling =>
      have lighter := weight_afterCallback c failure
      rw [setDispatcher, weight_update found]
      simp only [Attempt.weight, calling]
      omega
  | aborted failed =>
      rw [relink, weight_carryOutAll, weight_relink, setDispatcher, weight_update found]
      simp [Attempt.weight, failed, Dispatcher.weight]
  | settled settling =>
      have done : (t.update n ({ · with events := [], dispatcher := .done })).attempt? n =
          some { a with events := [], dispatcher := .done } := by
        simp [attempt?_update, found]
      rw [succeed, weight_eq (attempt?_extend done _ _)]
      simp [Attempt.weight, settling, Dispatcher.weight]

theorem step?_weight {m : Move H} (own : m.dispatches n = true)
    (made : t.step? m = some (v, notes)) : v.weight n < t.weight n := by
  obtain ⟨a, found, moved⟩ := step?_dispatched own made
  exact moved.weight_lt found

/-- So many moves are made one after the other, all of them of the allowed kind. -/
inductive Moves (allowed : Move H → Bool) : Transport H → Nat → History H → Transport H → Prop where
  | refl (t : Transport H) : Moves allowed t 0 [] t
  | step {t u v : Transport H} {k : Nat} {notes more : History H} (m : Move H)
      (own : allowed m = true) (made : t.step? m = some (u, notes))
      (rest : Moves allowed u k more v) : Moves allowed t (k + 1) (notes ++ more) v

theorem Moves.run {allowed : Move H → Bool} {k : Nat} {seen : History H}
    (moves : Moves allowed t k seen v) : Run t seen v := by
  induction moves with
  | refl => exact .refl
  | step m own made rest ih => exact (Run.refl.step m made).trans ih

/-- A dispatcher that is left alone comes to rest after so many moves at the latest. -/
theorem Moves.bounded {k : Nat} {seen : History H} (moves : Moves (·.dispatches n) t k seen v) :
    k + v.weight n ≤ t.weight n := by
  induction moves with
  | refl => simp
  | step m own made rest ih =>
      have lighter := step?_weight own made
      omega

/-- The dispatcher of attempt `n`, left alone, makes a bounded number of moves and can be brought to
    rest. -/
structure ComesToRest (t : Transport H) (n : Nat) : Prop where
  bounded : ∃ bound, ∀ k seen v, Moves (·.dispatches n) t k seen v → k ≤ bound
  rests : ∃ k seen v, Moves (·.dispatches n) t k seen v ∧ v.isIdle n = true

/-- A dispatcher that is not at rest has a move to make, and after that it weighs less. -/
theorem exists_rest (t : Transport H) (n : Nat) :
    ∃ k seen v, Moves (·.dispatches n) t k seen v ∧ v.isIdle n = true := by
  induction weight : t.weight n using Nat.strongRecOn generalizing t with
  | ind w ih =>
      cases idle : t.isIdle n with
      | true => exact ⟨0, [], t, .refl t, idle⟩
      | false =>
          have able := (not_congr (isIdle_iff t n)).mp (by simp [idle])
          simp only [Classical.not_forall] at able
          obtain ⟨m, own, able⟩ := able
          obtain ⟨⟨u, notes⟩, made⟩ := Option.ne_none_iff_exists'.mp able
          obtain ⟨k, seen, v, moves, resting⟩ := ih _ (weight ▸ step?_weight own made) u rfl
          exact ⟨k + 1, notes ++ seen, v, .step m own made moves, resting⟩

theorem comesToRest (t : Transport H) (n : Nat) : t.ComesToRest n where
  bounded := ⟨t.weight n, fun _ _ _ moves => Nat.le_of_add_right_le moves.bounded⟩
  rests := exists_rest t n

end Transport

end WampClient
