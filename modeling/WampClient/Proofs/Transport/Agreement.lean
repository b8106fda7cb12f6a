import WampClient.Proofs.Transport.Rounds

/-! # States that differ in attempts that are over

What an attempt that is over still has for its dispatcher concerns nobody else. Two states that
differ in nothing but that are changed alike by all that callers, handlers and dispatchers do, and
by what the socket of a live attempt does.
-/

namespace WampClient

/-- An attempt without what its dispatcher finds in it. -/
def Attempt.outline {H : Type} (a : Attempt H) : Attempt H :=
  { a with events := [], emits := true, woken := false }

section outline

variable {H : Type} (a : Attempt H)

@[simp] theorem Attempt.outline_handler : a.outline.handler = a.handler :=
  rfl

@[simp] theorem Attempt.outline_commands : a.outline.commands = a.commands :=
  rfl

@[simp] theorem Attempt.outline_receives : a.outline.receives = a.receives :=
  rfl

@[simp] theorem Attempt.outline_dispatcher : a.outline.dispatcher = a.dispatcher :=
  rfl

theorem Attempt.outline_push (c : Command) : (a.push c).outline = a.outline.push c := by
  cases receives : a.receives <;> simp [push, outline, receives]

end outline

/-- The link is still that of the same attempt, and does not bring it back to life. -/
structure Link.Keeps {H : Type} (l k : Link H) : Prop where
  attempt : k.attempt = l.attempt
  active : k.phase.isActive = true → l.phase.isActive = true

section keeps

variable {H : Type} (l : Link H)

theorem Link.keeps_apply (n : Nat) (e : Event) : l.Keeps (l.apply n e).1 := by
  cases e with
  | opened | closing =>
      simp only [Link.apply]
      split
      · rename_i found
        exact ⟨rfl, fun _ => by simp [found.2, Phase.isActive]⟩
      · exact ⟨rfl, id⟩
  | message =>
      simp only [Link.apply]
      split <;> exact ⟨rfl, id⟩
  | closed | failure =>
      simp only [Link.apply]
      split
      · exact ⟨rfl, fun active => by cases active⟩
      · exact ⟨rfl, id⟩

theorem Link.keeps_close : l.Keeps l.close.1 := by
  unfold Link.close
  split
  · rename_i opened
    exact ⟨rfl, fun _ => by simp [opened, Phase.isActive]⟩
  · exact ⟨rfl, id⟩

theorem Link.keeps_abort : l.Keeps l.abort.1 := by
  unfold Link.abort
  split
  · exact ⟨rfl, nofun⟩
  · exact ⟨rfl, id⟩

theorem Link.keeps_abortAttempt (n : Nat) : l.Keeps (l.abortAttempt n).1 := by
  unfold Link.abortAttempt
  split
  · exact ⟨rfl, nofun⟩
  · exact ⟨rfl, id⟩

end keeps

namespace Transport

variable {H : Type} {t u v : Transport H} {n : Nat}

/-- The states differ only in what the dispatchers of attempts that are over still find. All that can
    be seen of a transport is the same in both. -/
structure Agree (t u : Transport H) : Prop where
  counts : t.attempts.length = t.link.attempt ∧ u.attempts.length = u.link.attempt
  link : t.link = u.link
  outlines : ∀ n, (t.attempt? n).map Attempt.outline = (u.attempt? n).map Attempt.outline
  live : t.link.phase.isActive = true → t.attempt? t.link.attempt = u.attempt? u.link.attempt

theorem Agree.refl (coherent : Coherent t) : Agree t t :=
  ⟨⟨coherent.count, coherent.count⟩, rfl, fun _ => rfl, fun _ => rfl⟩

theorem Agree.symm (agree : Agree t u) : Agree u t where
  counts := agree.counts.symm
  link := agree.link.symm
  outlines n := (agree.outlines n).symm
  live active := (agree.live (agree.link ▸ active)).symm

theorem Agree.trans (first : Agree t u) (second : Agree u v) : Agree t v where
  counts := ⟨first.counts.1, second.counts.2⟩
  link := first.link.trans second.link
  outlines n := (first.outlines n).trans (second.outlines n)
  live active := (first.live active).trans (second.live (first.link ▸ active))

theorem Agree.attempt?_cases (agree : Agree t u) (n : Nat) :
    (t.attempt? n = none ∧ u.attempt? n = none) ∨
      ∃ a b, t.attempt? n = some a ∧ u.attempt? n = some b ∧ a.outline = b.outline := by
  have same := agree.outlines n
  cases left : t.attempt? n with
  | none =>
      rw [left] at same
      exact .inl ⟨rfl, Option.map_eq_none_iff.mp same.symm⟩
  | some a =>
      rw [left] at same
      obtain ⟨b, right, outline⟩ := Option.map_eq_some_iff.mp same.symm
      exact .inr ⟨a, b, rfl, right, outline.symm⟩

theorem Agree.dispatcher? (agree : Agree t u) (n : Nat) : t.dispatcher? n = u.dispatcher? n := by
  rcases agree.attempt?_cases n with ⟨left, right⟩ | ⟨a, b, left, right, outline⟩
  · simp [Transport.dispatcher?, left, right]
  · simpa [Transport.dispatcher?, left, right] using congrArg Attempt.dispatcher outline

theorem Agree.receives (agree : Agree t u) (n : Nat) : t.receives n = u.receives n := by
  rcases agree.attempt?_cases n with ⟨left, right⟩ | ⟨a, b, left, right, outline⟩
  · simp [Transport.receives, left, right]
  · simpa [Transport.receives, left, right] using congrArg Attempt.receives outline

theorem Agree.isLaunched (agree : Agree t u) (n : Nat) : t.isLaunched n = u.isLaunched n := by
  rcases agree.attempt?_cases n with ⟨left, right⟩ | ⟨a, b, left, right, outline⟩
  · simp [Transport.isLaunched, left, right]
  · have same : a.dispatcher = b.dispatcher := by simpa using congrArg Attempt.dispatcher outline
    simp [Transport.isLaunched, left, right, Attempt.isLaunched, same]

/-! ## Changes of one attempt -/

/-- What is done to an attempt that is over may differ, as long as it makes no difference to anybody
    else. -/
theorem Agree.update (agree : Agree t u) {f g : Attempt H → Attempt H}
    (alike : ∀ a b, t.attempt? n = some a → u.attempt? n = some b → a.outline = b.outline →
      (f a).outline = (g b).outline)
    (same : n = t.link.attempt → t.link.phase.isActive = true → f = g) :
    Agree (t.update n f) (u.update n g) where
  counts := by
    rw [length_update, length_update, link_update, link_update]
    exact agree.counts
  link := by
    rw [link_update, link_update]
    exact agree.link
  outlines k := by
    rw [attempt?_update, attempt?_update]
    split
    · subst k
      rcases agree.attempt?_cases n with ⟨left, right⟩ | ⟨a, b, left, right, outline⟩
      · rw [left, right]
        rfl
      · rw [left, right]
        exact congrArg some (alike a b left right outline)
    · exact agree.outlines k
  live := by
    rw [link_update, link_update]
    intro active
    rw [attempt?_update, attempt?_update, ← agree.live active, ← agree.link]
    split
    · rename_i current
      rw [same current active]
    · rfl

theorem Agree.update_same (agree : Agree t u) (n : Nat) (f : Attempt H → Attempt H)
    (respects : ∀ a, (f a).outline = (f a.outline).outline) :
    Agree (t.update n f) (u.update n f) :=
  agree.update (fun a b _ _ outline => by rw [respects a, outline, ← respects b]) fun _ _ => rfl

theorem Agree.update_left (agree : Agree t u) (gone : t.isOver n = true)
    {f : Attempt H → Attempt H} (unseen : ∀ a, t.attempt? n = some a → (f a).outline = a.outline) :
    Agree (t.update n f) u := by
  rw [← update_id u n]
  refine agree.update (fun a b left _ outline => (unseen a left).trans outline) fun current active => ?_
  simp [Transport.isOver, current, Link.isActive_eq, active] at gone

theorem Agree.setDispatcher (agree : Agree t u) (n : Nat) (d : Dispatcher) :
    Agree (t.setDispatcher n d) (u.setDispatcher n d) :=
  agree.update_same n _ fun _ => rfl

/-! ## Changes of the link -/

theorem Agree.relinked (agree : Agree t u) {l : Link H} (keeps : t.link.Keeps l) :
    Agree { t with link := l } { u with link := l } where
  counts := ⟨agree.counts.1.trans keeps.attempt.symm,
    agree.counts.2.trans ((congrArg Link.attempt agree.link).symm.trans keeps.attempt.symm)⟩
  link := rfl
  outlines n := by
    rw [attempt?_relink, attempt?_relink]
    exact agree.outlines n
  live active := by
    rw [attempt?_relink, attempt?_relink]
    have live := agree.live (keeps.active active)
    rwa [← agree.link, ← keeps.attempt] at live

theorem Agree.extend (agree : Agree t u) {l : Link H} {more : List (Attempt H)}
    (number : l.attempt = t.link.attempt + more.length)
    (begins : l.phase.isActive = true → more ≠ []) :
    Agree { t with link := l, attempts := t.attempts ++ more }
      { u with link := l, attempts := u.attempts ++ more } := by
  have counts : t.attempts.length = u.attempts.length := by
    rw [agree.counts.1, agree.counts.2, agree.link]
  have later (k : Nat) (beyond : t.attempts.length ≤ k) :
      (t.attempts ++ more)[k]? = (u.attempts ++ more)[k]? := by
    rw [List.getElem?_append_right beyond, List.getElem?_append_right (counts ▸ beyond), counts]
  constructor
  case counts => simp [number, ← counts, agree.counts.1]
  case link => rfl
  case outlines =>
    intro n
    cases n with
    | zero => rfl
    | succ k =>
        by_cases bound : k < t.attempts.length
        · have same := agree.outlines (k + 1)
          simp only [attempt?] at same ⊢
          rwa [List.getElem?_append_left bound, List.getElem?_append_left (counts ▸ bound)]
        · exact congrArg _ (later k (Nat.le_of_not_lt bound))
  case live =>
    intro active
    cases number' : l.attempt with
    | zero => rfl
    | succ k =>
        refine later k ?_
        have some_begin := List.length_pos_iff.mpr (begins active)
        have count := agree.counts.1
        omega

theorem Agree.push (agree : Agree t u) (n : Nat) (c : Command) :
    Agree (t.push n c).1 (u.push n c).1 := by
  unfold Transport.push
  rw [agree.receives]
  split
  · exact agree.update_same n _ fun a => by rw [a.outline_push, a.outline.outline_push]; rfl
  · exact agree

theorem Agree.effect (agree : Agree t u) (e : Effect) :
    Agree (t.carryOut e).1 (u.carryOut e).1 := by
  cases e with
  | command n c => exact agree.push n c
  | wake n => exact agree.update_same n _ fun _ => rfl

theorem Agree.effects (agree : Agree t u) (effects : List Effect) :
    Agree (t.carryOutAll effects).1 (u.carryOutAll effects).1 := by
  induction effects generalizing t u with
  | nil => exact agree
  | cons e rest ih => exact ih (agree.effect e)

theorem Agree.relink (agree : Agree t u) {change : Link H × List Effect}
    (keeps : t.link.Keeps change.1) : Agree (t.relink change).1 (u.relink change).1 :=
  (agree.relinked keeps).effects change.2

/-! ## Callers -/

theorem Agree.connect (agree : Agree t u) (h : H) : Agree (t.connect h).1 (u.connect h).1 := by
  have unbegun {l : Link H} (keeps : t.link.Keeps l) :
      Agree { t with link := l, attempts := t.attempts } { u with link := l, attempts := u.attempts } :=
    agree.relinked keeps
  simp only [Transport.connect, ← agree.link]
  unfold Link.connect
  split
  · exact agree.extend rfl (by simp)
  · exact agree.extend rfl (by simp)
  · split
    · exact unbegun ⟨rfl, id⟩
    · exact unbegun ⟨rfl, id⟩
  all_goals exact unbegun ⟨rfl, id⟩

theorem Agree.sendFrame (agree : Agree t u) (f : Frame) :
    Agree (t.sendFrame f).1 (u.sendFrame f).1 ∧ (t.sendFrame f).2.2 = (u.sendFrame f).2.2 := by
  unfold Transport.sendFrame
  rw [← agree.link]
  split
  · exact ⟨agree, rfl⟩
  · rename_i n target
    rw [agree.receives n]
    split
    · exact ⟨agree.push n _, rfl⟩
    · exact ⟨agree, rfl⟩

/-- Callers change the states alike and are told the same. -/
theorem Agree.perform (agree : Agree t u) (op : Operation H) :
    Agree (t.perform op).1 (u.perform op).1 ∧ (t.perform op).2.2 = (u.perform op).2.2 := by
  cases op with
  | connect h => exact ⟨agree.connect h, rfl⟩
  | send payload isBinary =>
      simp only [Transport.perform, Transport.run, Transport.send]
      split
      · exact ⟨agree, rfl⟩
      · exact agree.sendFrame _
  | sendFrame f => exact agree.sendFrame f
  | close =>
      simp only [Transport.perform, Transport.run, ← agree.link]
      exact ⟨agree.relink t.link.keeps_close, trivial⟩
  | abort =>
      simp only [Transport.perform, Transport.run, ← agree.link]
      exact ⟨agree.relink t.link.keeps_abort, trivial⟩
  | isOpen =>
      simp only [Transport.perform, Transport.run, isOpen, ← agree.link]
      exact ⟨agree, trivial⟩

/-! ## Handlers -/

theorem Agree.launchBegun (agree : Agree t u) :
    Agree t.launchBegun.1 u.launchBegun.1 ∧ t.launchBegun.2 = u.launchBegun.2 := by
  rw [launchBegun_eq, launchBegun_eq, ← agree.link, agree.dispatcher?]
  split
  · exact ⟨agree.setDispatcher _ _, rfl⟩
  · exact ⟨agree, rfl⟩

theorem Agree.act (agree : Agree t u) (op : Operation H) :
    Agree (t.act op).1 (u.act op).1 ∧ (t.act op).2 = (u.act op).2 := by
  obtain ⟨performed, answer⟩ := agree.perform op
  obtain ⟨launched, sight⟩ := performed.launchBegun
  exact ⟨launched, Prod.ext answer sight⟩

theorem Agree.follow (agree : Agree t u) (actions : List (Action H)) :
    Agree (t.follow actions).1 (u.follow actions).1 ∧ (t.follow actions).2 = (u.follow actions).2 := by
  induction actions generalizing t u with
  | nil => exact ⟨agree, rfl⟩
  | cons action rest ih =>
      cases action with
      | fail message => exact ⟨agree, rfl⟩
      | perform op required =>
          obtain ⟨acted, same⟩ := agree.act op
          obtain ⟨followed, same'⟩ := ih acted
          rcases left : t.act op with ⟨t', answer, sight⟩
          rcases right : u.act op with ⟨u', answer', sight'⟩
          simp only [left, right] at acted same followed same'
          obtain ⟨rfl, rfl⟩ := Prod.mk.inj same
          simp only [Transport.follow, left, right]
          split
          · exact ⟨acted, rfl⟩
          · simp only [same']
            exact ⟨followed, trivial⟩

theorem Agree.finish (agree : Agree t u) (n : Nat) (failure : Option Error) :
    Agree (((t.finish n failure).map Prod.fst).getD t) (((u.finish n failure).map Prod.fst).getD u) := by
  unfold Transport.finish
  rw [agree.dispatcher?]
  split
  · exact agree.setDispatcher _ _
  · exact agree

theorem Agree.succeed (agree : Agree t u) (n : Nat) : Agree (t.succeed n) (u.succeed n) := by
  simp only [Transport.succeed, ← agree.link]
  unfold Link.settle
  split
  · cases t.link.deferred with
    | none => exact agree.extend rfl fun active => by cases active
    | some h => exact agree.extend rfl (by simp)
  · rename_i unsettled
    simpa using agree.relinked ⟨rfl, id⟩

theorem Agree.afterwards (agree : Agree t u) (n : Nat) :
    Agree (t.afterwards n).1 (u.afterwards n).1 ∧ (t.afterwards n).2 = (u.afterwards n).2 := by
  have same := agree.dispatcher? n
  unfold Transport.afterwards abortFailed settle
  rw [same, ← agree.link]
  cases standing : u.dispatcher? n with
  | none => exact ⟨agree, rfl⟩
  | some d =>
      cases d with
      | failed =>
          have keeps : (t.setDispatcher n .waiting).link.Keeps (t.link.abortAttempt n).1 := by
            rw [Transport.setDispatcher, link_update]
            exact t.link.keeps_abortAttempt n
          exact ⟨(agree.setDispatcher n .waiting).relink keeps, rfl⟩
      | settling =>
          have done := agree.update_same n ({ · with events := [], dispatcher := .done }) fun _ => rfl
          have settled := done.succeed n
          simp only [Transport.succeed, link_update, ← agree.link] at settled
          exact settled.launchBegun
      | begun | waiting | holding | calling | done => exact ⟨agree, rfl⟩

/-! ## Sockets -/

theorem Agree.endEvents_over (agree : Agree t u) (gone : t.isOver n = true) :
    Agree (t.endEvents n) u :=
  agree.update_left gone fun _ _ => rfl

theorem Agree.drop (agree : Agree t u) (n : Nat) (events commands : Bool) :
    Agree (t.drop n events commands) (u.drop n events commands) := by
  have ended : Agree (if events then t.endEvents n else t) (if events then u.endEvents n else u) := by
    split
    · exact agree.update_same n _ fun _ => rfl
    · exact agree
  unfold Transport.drop
  cases commands with
  | true => exact ended.update_same n _ fun _ => rfl
  | false => exact ended

theorem Agree.drop_over (agree : Agree t u) (gone : t.isOver n = true) (events commands : Bool) :
    Agree (t.drop n events commands) (u.drop n false commands) := by
  have dropped (t : Transport H) : t.drop n true commands = (t.endEvents n).drop n false commands := rfl
  cases events with
  | true => exact dropped t ▸ (agree.endEvents_over gone).drop n false commands
  | false => exact agree.drop n false commands

theorem Agree.emit (agree : Agree t u) (live : t.isOver n = false) (e : Event) :
    Agree (t.emit n e).1 (u.emit n e).1 := by
  rcases agree.attempt?_cases n with ⟨left, right⟩ | ⟨a, b, left, right, _⟩
  · simp only [Transport.emit, left, right]
    exact agree
  · have current : n = t.link.attempt ∧ t.link.phase.isActive = true := by
      simpa [Transport.isOver, left, Link.isActive_eq] using live
    obtain ⟨rfl, active⟩ := current
    have same := agree.live active
    rw [← agree.link] at same
    obtain rfl : a = b := Option.some.inj (left.symm.trans (same.trans right))
    simp only [Transport.emit, left, right]
    split
    · exact agree
    · split
      · exact agree
      · split
        · exact agree
        · exact agree.update_same _ _ fun _ => rfl

theorem Agree.emit_over (agree : Agree t u) (gone : t.isOver n = true) (e : Event) :
    Agree (t.emit n e).1 u := by
  unfold Transport.emit
  split
  · split
    · exact agree
    · split
      · exact agree
      · split
        · exact agree
        · exact agree.update_left gone fun _ _ => rfl
  · exact agree

theorem Agree.stimulate (agree : Agree t u) {x y : Stimulus H} (hears : t.hears x = some y) :
    Agree (t.stimulate x).1 (u.stimulate y).1 ∧
      x.answer? (t.stimulate x).2.1 = y.answer? (u.stimulate y).2.1 ∧
      (t.stimulate x).2.2 = (u.stimulate y).2.2 := by
  cases x with
  | perform op =>
      cases hears
      obtain ⟨acted, told⟩ := agree.act op
      simp only [Transport.stimulate, Stimulus.answer?, told]
      exact ⟨acted, trivial, trivial⟩
  | emit n e =>
      cases live : t.isOver n with
      | true => simp [Transport.hears, live] at hears
      | false =>
          obtain rfl : Stimulus.emit n e = y := by simpa [Transport.hears, live] using hears
          exact ⟨agree.emit live e, rfl, rfl⟩
  | drop n events commands =>
      have unanswered (events commands : Bool) (response : Response) :
          (Stimulus.drop n events commands : Stimulus H).answer? response = none := rfl
      cases live : t.isOver n with
      | true =>
          obtain ⟨rfl, rfl⟩ : commands = true ∧ Stimulus.drop n false true = y := by
            simpa [Transport.hears, live] using hears
          simp only [Transport.stimulate, agree.isLaunched, unanswered]
          split
          · exact ⟨agree.drop_over live events true, trivial, rfl⟩
          · exact ⟨agree, trivial, rfl⟩
      | false =>
          obtain rfl : Stimulus.drop n events commands = y := by
            simpa [Transport.hears, live] using hears
          simp only [Transport.stimulate, agree.isLaunched, unanswered]
          split
          · exact ⟨agree.drop n events commands, trivial, rfl⟩
          · exact ⟨agree, trivial, rfl⟩

/-- What does not count changes nothing that is to be seen. -/
theorem Agree.stimulate_unheard (agree : Agree t u) {x : Stimulus H} (hears : t.hears x = none) :
    Agree (t.stimulate x).1 u ∧ x.answer? (t.stimulate x).2.1 = none ∧
      (t.stimulate x).2.2 = .nothing := by
  cases x with
  | perform op => cases hears
  | emit n e =>
      have gone : t.isOver n = true := by simpa [Transport.hears] using hears
      exact ⟨agree.emit_over gone e, rfl, rfl⟩
  | drop n events commands =>
      obtain ⟨gone, rfl⟩ : t.isOver n = true ∧ commands = false := by
        cases gone : t.isOver n <;> simp_all [Transport.hears]
      simp only [Transport.stimulate]
      split
      · exact ⟨agree.drop_over gone events false, rfl, rfl⟩
      · exact ⟨agree, rfl, rfl⟩

theorem answers_cons (x : Stimulus H) (stimuli : List (Stimulus H)) (response : Response)
    (responses : List Response) : answers (x :: stimuli) (response :: responses) =
      (x.answer? response).toList ++ answers stimuli responses := by
  cases told : x.answer? response <;> simp [answers, told]

theorem Agree.heard (agree : Agree t u) (stimuli : List (Stimulus H)) :
    Agree (t.stimulateAll stimuli).1 (u.stimulateAll (t.heard stimuli)).1 ∧
      answers stimuli (t.stimulateAll stimuli).2.1 =
        answers (t.heard stimuli) (u.stimulateAll (t.heard stimuli)).2.1 ∧
      (t.stimulateAll stimuli).2.2 = (u.stimulateAll (t.heard stimuli)).2.2 := by
  induction stimuli generalizing t u with
  | nil => exact ⟨agree, rfl, rfl⟩
  | cons x rest ih =>
      simp only [Transport.stimulateAll, Transport.heard, answers_cons]
      cases hears : t.hears x with
      | none =>
          obtain ⟨agree, unanswered, unseen⟩ := agree.stimulate_unheard hears
          obtain ⟨agree, same, sight⟩ := ih agree
          rw [unanswered, unseen]
          exact ⟨agree, same, sight⟩
      | some y =>
          obtain ⟨agree, answer, seen⟩ := agree.stimulate hears
          obtain ⟨agree, same, sight⟩ := ih agree
          simp only [Option.toList_some, List.singleton_append, Transport.stimulateAll, answers_cons]
          rw [answer, seen, same, sight]
          exact ⟨agree, rfl, rfl⟩

theorem receiveAll_commands (t : Transport H) :
    t.receiveAll.2 = (t.attempts.zipIdx 1).flatMap fun entry => entry.1.commands.map (entry.2, ·) :=
  rfl

theorem Agree.receiveAll (agree : Agree t u) :
    Agree t.receiveAll.1 u.receiveAll.1 ∧ t.receiveAll.2 = u.receiveAll.2 := by
  have cleared (t : Transport H) (n : Nat) : t.receiveAll.1.attempt? n =
      (t.attempt? n).map ({ · with commands := [] }) := by
    cases n with
    | zero => rfl
    | succ n => simp [Transport.receiveAll, attempt?]
  have received (t : Transport H) : t.receiveAll.2 =
      ((t.attempts.map Attempt.outline).zipIdx 1).flatMap fun entry =>
        entry.1.commands.map (entry.2, ·) := by
    simp [receiveAll_commands, List.zipIdx_map, List.flatMap_map]
  constructor
  · constructor
    case counts => simpa [Transport.receiveAll] using agree.counts
    case link => exact agree.link
    case outlines =>
      intro n
      rw [cleared, cleared]
      rcases agree.attempt?_cases n with ⟨left, right⟩ | ⟨a, b, left, right, outline⟩
      · rw [left, right]
      · have same := congrArg (fun c : Attempt H => { c with commands := [] }) outline
        rw [left, right]
        exact congrArg some same
    case live =>
      intro active
      rw [cleared, cleared]
      exact congrArg (Option.map _) (agree.live active)
  · rw [received, received]
    congr 2
    apply List.ext_getElem?
    intro k
    rw [List.getElem?_map, List.getElem?_map]
    exact agree.outlines (k + 1)

end Transport

namespace Scripted

variable {H : Type} {s r : Scripted H} {n : Nat}

/-- The transports agree, and the handlers go on with the same scripts. -/
structure Agree (s r : Scripted H) : Prop where
  transport : s.transport.Agree r.transport
  scripts : s.scripts = r.scripts

theorem Agree.refl (coherent : s.transport.Coherent) : Agree s s :=
  ⟨.refl coherent, rfl⟩

theorem Agree.symm (agree : Agree s r) : Agree r s :=
  ⟨agree.transport.symm, agree.scripts.symm⟩

theorem Agree.trans {u : Scripted H} (first : Agree s r) (second : Agree r u) : Agree s u :=
  ⟨first.transport.trans second.transport, first.scripts.trans second.scripts⟩

variable [DecidableEq H]

theorem Agree.carryOut (agree : Agree s r) (n : Nat) (h : H) (c : Callback) :
    Agree (s.carryOut n h c).1 (r.carryOut n h c).1 ∧
      (s.carryOut n h c).2 = (r.carryOut n h c).2 := by
  have script : s.script h = r.script h := by rw [Scripted.script, agree.scripts, Scripted.script]
  obtain ⟨followed, told⟩ := agree.transport.follow ((s.script h).next c).1
  have link := agree.transport.link
  rcases left : s.transport.follow ((s.script h).next c).1 with ⟨t, answers, failure, sight⟩
  rcases right : r.transport.follow ((s.script h).next c).1 with ⟨u, answers', failure', sight'⟩
  simp only [left, right] at followed told
  obtain ⟨rfl, rfl, rfl⟩ := by simpa using told
  obtain ⟨after, more⟩ := (followed.finish n failure).afterwards n
  simp only [Scripted.carryOut, setScript, ← script, left, right, ← more, ← agree.scripts,
    Transport.isOpen, ← link]
  exact ⟨⟨after, rfl⟩, trivial⟩

theorem Agree.respond (agree : Agree s r) (n : Nat) :
    Agree (s.respond n).1 (r.respond n).1 ∧ (s.respond n).2 = (r.respond n).2 := by
  unfold Scripted.respond
  rcases agree.transport.attempt?_cases n with ⟨left, right⟩ | ⟨a, b, left, right, outline⟩
  · rw [left, right]
    exact ⟨agree, rfl⟩
  · have handler : a.handler = b.handler := by simpa using congrArg Attempt.handler outline
    have dispatcher : a.dispatcher = b.dispatcher := by
      simpa using congrArg Attempt.dispatcher outline
    rw [left, right]
    simp only [handler, dispatcher]
    split
    · exact agree.carryOut n _ _
    · exact ⟨agree, rfl⟩

end Scripted

end WampClient
