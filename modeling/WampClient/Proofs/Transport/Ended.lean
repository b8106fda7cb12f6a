import WampClient.Proofs.Transport.Rest

/-! # Attempts that have ended

Nothing is sent to the socket of an attempt that has ended, and neither the callers nor the link take
notice of it any more. All that is left of it is for its dispatcher to tell the end and to settle.
-/

namespace WampClient

theorem Link.apply_draining {H : Type} {l : Link H} (draining : l.phase = .draining)
    (unhandled : l.handle = none) (n : Nat) (e : Event) : (l.apply n e).1 = l := by
  have drained : l.drain = l := by
    cases l
    simp_all [Link.drain]
  cases e with
  | opened | closing => simp [Link.apply, draining]
  | message f =>
      simp only [Link.apply]
      split <;> rfl
  | closed | failure =>
      simp only [Link.apply]
      split <;> simp [drained]

def Effect.attempt : Effect → Nat
  | .command n _ | .wake n => n

namespace Transport

variable {H : Type} {t u v : Transport H} {n : Nat} {notes seen : History H}

namespace Life

variable {k l m : Life H}

/-- Nothing is sent to the socket of an attempt that has ended. -/
theorem Step.sealed (step : Step n l notes m) (ended : l.phase.isActive = false) :
    notes.commands n = [] ∧ m.phase.isActive = false := by
  cases step with
  | observed | launched | emitted | eventsEnded | commandsEnded | received | taken | noticed
  | delivered | ignored | returned | wasAborted => exact ⟨rfl, ended⟩
  | ended | settled => exact ⟨rfl, rfl⟩
  | sent _ _ _ isOpen | asked isOpen | connected _ isOpen | peerClosed _ _ _ isOpen =>
      simp [isOpen, Phase.isActive] at ended
  | aborted active | cutShort _ active => simp [active] at ended

theorem Path.sealed (path : Path n k seen l) (ended : k.phase.isActive = false) :
    seen.commands n = [] ∧ l.phase.isActive = false := by
  induction path with
  | refl => exact ⟨rfl, ended⟩
  | step _ step ih =>
      obtain ⟨nothing, ended⟩ := ih
      obtain ⟨nothing', ended'⟩ := step.sealed ended
      exact ⟨by rw [History.commands_append, nothing, nothing']; rfl, ended'⟩

end Life

/-- Attempt `n` has begun and has ended. -/
def HasEnded (t : Transport H) (n : Nat) : Prop :=
  ∃ l, t.Shows n l ∧ l.phase.isActive = false

theorem HasEnded.run (ended : t.HasEnded n) (coherent : Coherent t) (run : Run t seen v) :
    v.HasEnded n ∧ seen.commands n = [] := by
  obtain ⟨l, shows, inactive⟩ := ended
  obtain ⟨m, path, shows'⟩ := run.path coherent shows
  obtain ⟨nothing, inactive'⟩ := path.sealed inactive
  rw [commands_about] at nothing
  exact ⟨⟨m, shows', inactive'⟩, nothing⟩

theorem HasEnded.step? {m : Move H} (ended : t.HasEnded n) (coherent : Coherent t)
    (made : t.step? m = some (v, notes)) : v.HasEnded n :=
  (ended.run coherent (Run.refl.step m made)).1

/-- The link takes no notice of an attempt that has ended. -/
theorem HasEnded.aside (ended : t.HasEnded n) :
    n ≠ t.link.attempt ∨ t.link.phase.isActive = false := by
  obtain ⟨l, shows, inactive⟩ := ended
  apply Classical.or_iff_not_imp_left.mpr
  intro current
  obtain rfl := Classical.not_not.mp current
  rwa [shows.eq_current] at inactive

/-- While its dispatcher is at work, an attempt that has ended is the current one and drains. -/
theorem HasEnded.draining {a : Attempt H} (ended : t.HasEnded n) (coherent : Coherent t)
    (found : t.attempt? n = some a) (unsettled : a.dispatcher ≠ .done) :
    n = t.link.attempt ∧ t.link.phase = .draining := by
  obtain rfl := coherent.number_eq found unsettled
  have inactive := ended.aside.resolve_left (absurd rfl)
  have stands := (coherent.current_sound found).stands
  exact ⟨rfl, (stands.active_or_draining unsettled).resolve_left (by simp [current, inactive])⟩

theorem HasEnded.done_of_isIdle (ended : t.HasEnded n) (coherent : Coherent t)
    (idle : t.isIdle n = true) : t.dispatcher? n = some .done := by
  obtain ⟨l, shows, _⟩ := id ended
  have found := shows.1
  apply Classical.byContradiction
  intro unsettled
  have working : l.attempt.dispatcher ≠ .done := by
    intro done
    simp [dispatcher?, found, done] at unsettled
  obtain ⟨rfl, draining⟩ := ended.draining coherent found working
  rw [coherent.busy_of_draining draining] at idle
  cases idle

/-! ## Attempts that have settled -/

theorem Life.Step.stays_done {l m : Life H} (step : Life.Step n l notes m)
    (done : l.attempt.dispatcher = .done) :
    m.attempt.dispatcher = .done ∧ .settled n ∉ notes := by
  cases step with
  | observed | sent | emitted | eventsEnded | commandsEnded | received =>
      exact ⟨by simpa [Life.on] using done, by simp⟩
  | asked | aborted =>
      exact ⟨by simpa [Life.cancel] using done, by simp⟩
  | launched _ standing | taken _ _ standing | noticed standing | connected standing
  | delivered _ standing | peerClosed _ _ standing | ignored _ standing | ended _ standing
  | returned _ _ standing | cutShort standing | wasAborted standing | settled standing =>
      cases done.symm.trans standing

theorem Life.Path.stays_done {k l : Life H} (path : Life.Path n k seen l)
    (done : k.attempt.dispatcher = .done) :
    l.attempt.dispatcher = .done ∧ .settled n ∉ seen := by
  induction path with
  | refl => exact ⟨done, List.not_mem_nil⟩
  | step _ step ih =>
      obtain ⟨earlier, unsettled⟩ := ih
      obtain ⟨now, unsettled'⟩ := step.stays_done earlier
      exact ⟨now, fun member => (List.mem_append.mp member).elim unsettled unsettled'⟩

theorem Run.stays_done (run : Run t seen v) (coherent : Coherent t)
    (done : t.dispatcher? n = some .done) : v.dispatcher? n = some .done ∧ .settled n ∉ seen := by
  obtain ⟨a, found, standing⟩ := dispatcher?_cases done
  obtain ⟨k, shows, _⟩ := coherent.lives n a found
  obtain ⟨l, path, shows'⟩ := run.path coherent shows
  obtain ⟨still, unsettled⟩ := path.stays_done (shows.attempt_eq found ▸ standing)
  exact ⟨by simp [dispatcher?, shows'.1, still], fun member => unsettled (mem_about member rfl)⟩

theorem Life.Step.settled_of_done {l m : Life H} (step : Life.Step n l notes m)
    (working : l.attempt.dispatcher ≠ .done) (done : m.attempt.dispatcher = .done) :
    .settled n ∈ notes := by
  cases step with
  | settled => exact List.mem_singleton_self _
  | returned c failure => cases c <;> cases failure <;> cases done
  | observed | sent | asked | aborted | emitted | eventsEnded | commandsEnded | received =>
      exact absurd (by simpa [Life.on, Life.cancel] using done) working
  | cutShort => simp [Life.on, Life.cancel] at done
  | launched | taken | noticed | connected | delivered | peerClosed | ignored | ended | wasAborted =>
      cases done

theorem HasEnded.working {m : Move H} (ended : t.HasEnded n) (coherent : Coherent t)
    (made : t.step? m = some (v, notes)) (working : t.dispatcher? n ≠ some .done)
    (unsettled : .settled n ∉ notes) : v.dispatcher? n ≠ some .done := by
  obtain ⟨l, shows, _⟩ := ended
  have before : l.attempt.dispatcher ≠ .done := by simpa [dispatcher?, shows.1] using working
  obtain ⟨k, shows', step | ⟨rfl, _⟩⟩ := (coherent.step?_change made).shows coherent shows
  · intro done
    have member := step.settled_of_done before (by simpa [dispatcher?, shows'.1] using done)
    exact unsettled (List.mem_filter.mp member).1
  · simpa [dispatcher?, shows'.1] using before

/-! ## Callers do not touch an ended attempt -/

theorem update_comm {k : Nat} (t : Transport H) (other : n ≠ k) (f g : Attempt H → Attempt H) :
    (t.update n f).update k g = (t.update k g).update n f := by
  cases n with
  | zero => rfl
  | succ n =>
      cases k with
      | zero => rfl
      | succ k =>
          simp only [update]
          rw [List.modify_modify_ne]
          simpa using other

theorem receives_update {k : Nat} (t : Transport H) (other : n ≠ k) (f : Attempt H → Attempt H) :
    (t.update n f).receives k = t.receives k := by
  rw [receives, attempt?_update, if_neg other, receives]

theorem push_update {k : Nat} (t : Transport H) (other : n ≠ k) (f : Attempt H → Attempt H)
    (c : Command) : (t.update n f).push k c = ((t.push k c).1.update n f, (t.push k c).2) := by
  unfold push
  rw [receives_update t other]
  split
  · rw [update_comm t other]
  · rfl

theorem carryOut_update {e : Effect} (t : Transport H) (other : n ≠ e.attempt)
    (f : Attempt H → Attempt H) :
    (t.update n f).carryOut e = ((t.carryOut e).1.update n f, (t.carryOut e).2) := by
  cases e with
  | command k c => exact push_update t other f c
  | wake k => exact Prod.ext (update_comm t other f _) rfl

theorem carryOutAll_update {effects : List Effect} (t : Transport H)
    (others : ∀ e ∈ effects, n ≠ e.attempt) (f : Attempt H → Attempt H) :
    (t.update n f).carryOutAll effects =
      ((t.carryOutAll effects).1.update n f, (t.carryOutAll effects).2) := by
  induction effects generalizing t with
  | nil => rfl
  | cons e rest ih =>
      simp only [carryOutAll]
      rw [carryOut_update t (others e List.mem_cons_self)]
      rw [ih _ fun d member => others d (List.mem_cons_of_mem _ member)]

theorem update_extend {a : Attempt H} (found : t.attempt? n = some a) (l : Link H)
    (more : List (Attempt H)) (f : Attempt H → Attempt H) :
    { t.update n f with link := l, attempts := (t.update n f).attempts ++ more } =
      { t with link := l, attempts := t.attempts ++ more }.update n f := by
  cases n with
  | zero => rfl
  | succ n =>
      obtain ⟨bound, _⟩ := List.getElem?_eq_some_iff.mp found
      simp only [update]
      congr 1
      apply List.ext_getElem?
      intro k
      simp only [List.getElem?_append, List.getElem?_modify, List.length_modify]
      grind

theorem succeed_update {a : Attempt H} (found : t.attempt? n = some a) (f : Attempt H → Attempt H) :
    (t.update n f).succeed n = (t.succeed n).update n f := by
  simp only [succeed, link_update]
  exact update_extend found _ _ f

theorem connect_update {a : Attempt H} (found : t.attempt? n = some a) (h : H)
    (f : Attempt H → Attempt H) :
    (t.update n f).connect h = ((t.connect h).1.update n f, (t.connect h).2) := by
  simp only [connect, link_update]
  refine Prod.ext ?_ rfl
  split
  · exact update_extend found _ _ f
  · exact update_relink t _ n f

theorem relink_update {change : Link H × List Effect} (t : Transport H)
    (others : ∀ e ∈ change.2, n ≠ e.attempt) (f : Attempt H → Attempt H) :
    (t.update n f).relink change = ((t.relink change).1.update n f, (t.relink change).2) := by
  rw [relink, update_relink, carryOutAll_update _ others, relink]

theorem sendFrame_update (t : Transport H) (other : t.link.target? ≠ some n) (frame : Frame)
    (f : Attempt H → Attempt H) :
    (t.update n f).sendFrame frame = ((t.sendFrame frame).1.update n f, (t.sendFrame frame).2) := by
  simp only [sendFrame, link_update]
  cases target : t.link.target? with
  | none => rfl
  | some k =>
      have apart : n ≠ k := by
        rintro rfl
        exact other target
      simp only [receives_update t apart, push_update t apart]
      split <;> rfl

/-- Whatever callers do, they do it as if an ended attempt stood differently. -/
theorem HasEnded.perform_update (ended : t.HasEnded n) (coherent : Coherent t) (op : Operation H)
    (f : Attempt H → Attempt H) :
    (t.update n f).perform op = ((t.perform op).1.update n f, (t.perform op).2) := by
  obtain ⟨l, shows, _⟩ := id ended
  have aside := ended.aside
  have handle := coherent.handle
  have alarm := coherent.alarm
  have unhandled : t.link.handle ≠ some n := by
    rw [handle]
    split
    · rename_i active
      have other := aside.resolve_right (by simp [active])
      simp [Ne.symm other]
    · nofun
  have untargeted : t.link.target? ≠ some n := by
    unfold Link.target?
    split
    · exact unhandled
    · nofun
  have run : (t.update n f).run op = ((t.run op).1.update n f, (t.run op).2) := by
    cases op with
    | connect h =>
        simp only [Transport.run]
        rw [connect_update shows.1]
    | send payload isBinary =>
        simp only [Transport.run, send]
        split
        · rfl
        · exact sendFrame_update t untargeted _ f
    | sendFrame frame => exact sendFrame_update t untargeted frame f
    | close =>
        simp only [Transport.run, link_update]
        rw [relink_update]
        intro e member
        unfold Link.close at member
        split at member <;> grind [Effect.attempt]
    | abort =>
        simp only [Transport.run, link_update]
        rw [relink_update]
        intro e member
        unfold Link.abort at member
        rw [Link.isActive_eq] at member
        split at member
        · grind [Link.cancel, Effect.attempt]
        · cases member
    | isOpen => simp [Transport.run, isOpen, link_update]
  simp only [perform, run, link_update]

/-- Callers act one after the other, and nothing else happens. -/
def performAll (t : Transport H) : List (Operation H) → Transport H × History H
  | [] => (t, [])
  | op :: rest =>
    let (u, notes, _) := t.perform op
    let (v, more) := u.performAll rest
    (v, notes ++ more)

theorem step?_perform (t : Transport H) (op : Operation H) :
    t.step? (.perform op) = some ((t.perform op).1, (t.perform op).2.1) :=
  rfl

theorem HasEnded.performAll_update (ended : t.HasEnded n) (coherent : Coherent t)
    (ops : List (Operation H)) (f : Attempt H → Attempt H) :
    (t.update n f).performAll ops = ((t.performAll ops).1.update n f, (t.performAll ops).2) := by
  induction ops generalizing t with
  | nil => rfl
  | cons op rest ih =>
      have ended' := ended.step? coherent (step?_perform t op)
      have coherent' := (coherent.step?_change (step?_perform t op)).coherent coherent
      simp only [performAll, ended.perform_update coherent]
      rw [ih ended' coherent']

end Transport

end WampClient
