import WampClient.Proofs.Transport.Moves

/-! # Superseded attempts

What the dispatcher of an attempt asks of the link carries the number of the attempt. Asked with the
number of another attempt than the current one, the link answers that there is nothing to do or that
the attempt has ended uncleanly, and nothing changes, whatever state the transport is in. Asked with
the current number, the link goes on to another attempt only when it settles and one was deferred.
-/

namespace WampClient

/-! ## The link -/

/-- There is nothing to do, but for the end of an attempt that was not clean. -/
def Step.IsStale (s : Step) : Prop :=
  s = .ignore ∨ s = .disconnected false

namespace Link

variable {H : Type} {n : Nat}

theorem apply_stale (l : Link H) (stale : n ≠ l.attempt) (e : Event) :
    (l.apply n e).1 = l ∧ (l.apply n e).2.IsStale := by
  cases e with
  | opened | message | closing =>
      simp only [apply, stale, false_and, if_false]
      exact ⟨trivial, .inl rfl⟩
  | closed | failure =>
      simp only [apply, stale, if_false]
      exact ⟨trivial, .inr rfl⟩

theorem settle_stale (l : Link H) (stale : n ≠ l.attempt) : l.settle n = (l, none) := by
  rw [settle, if_neg fun current => stale current.1]

theorem abortAttempt_stale (l : Link H) (stale : n ≠ l.attempt) : l.abortAttempt n = (l, []) := by
  rw [abortAttempt, if_neg fun current => stale current.1]

/-- The link is at the same attempt, which was asked the same, and the same handler waits. -/
structure IsSameAttempt (l k : Link H) : Prop where
  attempt : k.attempt = l.attempt
  deferred : k.deferred = l.deferred
  closeRequested : k.closeRequested = l.closeRequested

theorem apply_sameAttempt (l : Link H) (n : Nat) (e : Event) : l.IsSameAttempt (l.apply n e).1 := by
  cases e <;> simp only [apply] <;> split <;> exact ⟨rfl, rfl, rfl⟩

theorem settle_cases (l : Link H) (n : Nat) :
    (∃ k, l.settle n = (k, none) ∧ l.IsSameAttempt k) ∨
      ∃ h, n = l.attempt ∧ l.phase = .draining ∧ l.deferred = some h ∧
        l.settle n = ({ l with phase := .closed, deferred := none }.start, some h) := by
  unfold settle
  split
  · rename_i current
    cases deferred : l.deferred with
    | none => exact .inl ⟨_, rfl, rfl, deferred.symm ▸ deferred, rfl⟩
    | some h => exact .inr ⟨h, current.1, current.2, rfl, rfl⟩
  · exact .inl ⟨l, rfl, rfl, rfl, rfl⟩

end Link

namespace Transport

/-! ## Calls -/

/-- What the dispatcher of an attempt asks of the link. -/
inductive Call where
  | apply (attempt : Nat) (event : Event)
  | settle (attempt : Nat)
  | abortAttempt (attempt : Nat)
  deriving DecidableEq, Repr

def Call.attempt : Call → Nat
  | .apply n _ | .settle n | .abortAttempt n => n

inductive Yield (H : Type) where
  | step (step : Step)
  /-- The handler of the attempt that has begun, if one has. -/
  | begun (handler : Option H)
  | nothing
  deriving DecidableEq, Repr

/-- No attempt has begun, and there is nothing to do but for an end that was not clean. -/
def Yield.IsStale {H : Type} : Yield H → Prop
  | .step s => s.IsStale
  | .begun handler => handler = none
  | .nothing => True

variable {H : Type} {t v : Transport H} {n : Nat} {a : Attempt H} {c : Call} {m : Move H}
  {notes : History H}

def answer (t : Transport H) : Call → Transport H × History H × Yield H
  | .apply n e => ({ t with link := (t.link.apply n e).1 }, [], .step (t.link.apply n e).2)
  | .settle n => (t.succeed n, [], .begun (t.link.settle n).2)
  | .abortAttempt n =>
    let (t, notes) := t.relink (t.link.abortAttempt n)
    (t, notes, .nothing)

def answerAll (t : Transport H) : List Call → Transport H × History H × List (Yield H)
  | [] => (t, [], [])
  | c :: rest =>
    let (t, notes, yield) := t.answer c
    let (t, more, yields) := t.answerAll rest
    (t, notes ++ more, yield :: yields)

theorem succeed_stale (stale : n ≠ t.link.attempt) : t.succeed n = t := by
  rw [succeed, t.link.settle_stale stale, Option.map_none, Option.toList_none, List.append_nil]

theorem relink_stale (stale : n ≠ t.link.attempt) : t.relink (t.link.abortAttempt n) = (t, []) := by
  rw [t.link.abortAttempt_stale stale]
  rfl

theorem answer_stale (stale : c.attempt ≠ t.link.attempt) :
    ∃ yield, t.answer c = (t, [], yield) ∧ yield.IsStale := by
  cases c with
  | apply n e =>
      obtain ⟨same, harmless⟩ := t.link.apply_stale stale e
      refine ⟨.step (t.link.apply n e).2, ?_, harmless⟩
      exact congrArg (fun link => ({ t with link := link }, [], Yield.step (t.link.apply n e).2)) same
  | settle n =>
      have other : n ≠ t.link.attempt := stale
      refine ⟨.begun none, ?_, rfl⟩
      rw [answer, succeed_stale other, t.link.settle_stale other]
  | abortAttempt n =>
      have other : n ≠ t.link.attempt := stale
      refine ⟨.nothing, ?_, trivial⟩
      rw [answer, relink_stale other]

/-- As a call of another attempt changes nothing, those after it are calls of other attempts too. -/
theorem answerAll_stale {calls : List Call} (stale : ∀ c ∈ calls, c.attempt ≠ t.link.attempt) :
    ∃ yields, t.answerAll calls = (t, [], yields) ∧ ∀ y ∈ yields, y.IsStale := by
  induction calls with
  | nil => exact ⟨[], rfl, List.forall_mem_nil _⟩
  | cons c rest ih =>
      obtain ⟨first, others⟩ := List.forall_mem_cons.mp stale
      obtain ⟨yield, answered, harmless⟩ := answer_stale first
      obtain ⟨yields, rested, all_harmless⟩ := ih others
      refine ⟨yield :: yields, ?_, List.forall_mem_cons.mpr ⟨harmless, all_harmless⟩⟩
      simp only [answerAll, answered, rested, List.append_nil]

/-! ## Moves -/

/-- A move of a superseded dispatcher leaves the link and all commands alone, and a handler is told of
    nothing but an end that was not clean. -/
structure IsHarmless (t : Transport H) (notes : History H) (v : Transport H) : Prop where
  link : v.link = t.link
  commands : ∀ k, (v.attempt? k).map Attempt.commands = (t.attempt? k).map Attempt.commands
  told : ∀ k h c, .called k h c ∈ notes → c = .onDisconnect false

theorem commands_update {f : Attempt H → Attempt H} (kept : ∀ a, (f a).commands = a.commands) (k : Nat) :
    ((t.update n f).attempt? k).map Attempt.commands = (t.attempt? k).map Attempt.commands := by
  rw [attempt?_update]
  split
  · cases t.attempt? k with
    | none => rfl
    | some a => exact congrArg some (kept a)
  · rfl

theorem IsHarmless.of_update {f : Attempt H → Attempt H} (kept : ∀ a, (f a).commands = a.commands)
    (told : ∀ k h c, .called k h c ∈ notes → c = .onDisconnect false) : IsHarmless t notes (t.update n f) where
  link := link_update t n f
  commands := commands_update kept
  told := told

theorem calls_stale {s : Step} {h : H} (harmless : s.IsStale) :
    ∀ k h' c, .called k h' c ∈ calls n h (afterStep s) → c = .onDisconnect false := by
  intro k h' c called
  rcases harmless with rfl | rfl
  · cases called
  · cases List.mem_singleton.mp called
    rfl

/-- Each move of a dispatcher that is not the current one changes its own attempt at most. -/
theorem Dispatched.harmless (moved : Dispatched t n a m notes v) (stale : n ≠ t.link.attempt) :
    IsHarmless t notes v := by
  cases moved with
  | launched | taken | noticed | returned => exact .of_update (fun _ => rfl) (by simp)
  | applied e =>
      obtain ⟨same, harmless⟩ := t.link.apply_stale stale e
      rw [same]
      refine .of_update (fun _ => rfl) ?_
      intro k h c called
      exact calls_stale harmless k h c (by simpa using called)
  | aborted =>
      have same : (t.setDispatcher n .waiting).link = t.link := link_update t n _
      rw [← same, relink_stale (by rwa [same])]
      exact .of_update (fun _ => rfl) (by simp)
  | settled =>
      have same (f : Attempt H → Attempt H) : (t.update n f).link = t.link := link_update t n f
      rw [succeed_stale (by rwa [same])]
      exact .of_update (fun _ => rfl) (by simp)

/-- What superseded attempts can do to a transport, and the current one to its link. Only `settle`
    begins another attempt, and only for the current one; so a dispatcher that is late is heard, but
    nothing comes of it. -/
structure Superseded (t : Transport H) : Prop where
  unchanged : ∀ calls : List Call, (∀ c ∈ calls, c.attempt ≠ t.link.attempt) →
    ∃ yields, t.answerAll calls = (t, [], yields) ∧ ∀ y ∈ yields, y.IsStale
  moved : ∀ n m notes v, n ≠ t.link.attempt → m.dispatches n = true → t.step? m = some (v, notes) →
    IsHarmless t notes v
  applied : ∀ n e, t.link.IsSameAttempt (t.link.apply n e).1
  settled : ∀ n, (∃ l, t.link.settle n = (l, none) ∧ t.link.IsSameAttempt l) ∨
    ∃ h, n = t.link.attempt ∧ t.link.phase = .draining ∧ t.link.deferred = some h ∧
      t.link.settle n = ({ t.link with phase := .closed, deferred := none }.start, some h)

/-- None of this depends on how the state came about: it holds of any transport and any link, as the
    number of the attempt is all that is looked at. -/
theorem superseded (t : Transport H) : Superseded t where
  unchanged _ := answerAll_stale
  moved n m notes v stale own made := by
    obtain ⟨a, _, moved⟩ := step?_dispatched own made
    exact moved.harmless stale
  applied := t.link.apply_sameAttempt
  settled := t.link.settle_cases

/-- The calls of the first attempt come while the second one drains and a connect waits for its end. -/
example (settings : Settings) : let t : Transport Nat :=
      ⟨settings, ⟨2, .draining, some 2, 2, true, some 7⟩, [.ofHandler 5, .ofHandler 6]⟩
    (t.answerAll [.apply 1 (.closed 1000 ""), .abortAttempt 1, .settle 1, .apply 1 .opened]).2.2 =
      [.step (.disconnected false), .nothing, .begun none, .step .ignore] :=
  rfl

end Transport

end WampClient
