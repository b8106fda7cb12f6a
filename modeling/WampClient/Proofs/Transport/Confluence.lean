import WampClient.Proofs.Transport.Ended

/-! # How an ended attempt winds up

What is left to the dispatcher and the socket of an attempt that has ended concerns nobody else.
However they and the callers take turns, all but the attempt itself comes to the same state as if
the callers had acted alone, and the attempt had settled at the same point between their calls.
-/

namespace WampClient.Transport

variable {H : Type} {t u v : Transport H} {n : Nat} {notes seen : History H}

/-! ## The moves that are left -/

/-- The move is one of a caller, or of the dispatcher or the socket of attempt `n`. -/
def Move.concerns (n : Nat) : Move H → Bool
  | .perform _ => true
  | .launch m | .emit m _ | .endEvents m | .endCommands m | .receive m | .take m | .notice m
  | .applyHeld m | .finish m _ | .abortFailed m | .settle m => m = n

/-- The note tells what the socket or the dispatcher of attempt `n` did, short of settling. -/
def Note.isInternal (n : Nat) : Note H → Bool
  | .launched m _ _ | .received m _ | .commandsEnded m | .emitted m _ | .eventsEnded m | .applied m _
  | .called m _ _ | .returned m _ _ => m = n
  | .performed .. | .admitted .. | .queued .. | .settled _ => false

theorem Note.attempt?_of_isInternal {note : Note H} (internal : note.isInternal n = true) :
    note.attempt? = some n := by
  cases note <;> simp_all [Note.isInternal, Note.attempt?]

/-- What a move does when attempt `n` has ended and no other attempt goes on. Either a caller acts,
    or the attempt changes by itself, or it settles. -/
inductive WindsUp (t : Transport H) (n : Nat) : History H → Transport H → Prop where
  | asked (op : Operation H) : WindsUp t n (t.perform op).2.1 (t.perform op).1
  | internal {notes : History H} (f : Attempt H → Attempt H)
      (about : ∀ note ∈ notes, note.isInternal n = true) : WindsUp t n notes (t.update n f)
  | settled (f : Attempt H → Attempt H)
      (done : ((t.succeed n).update n f).dispatcher? n = some .done) :
      WindsUp t n [.settled n] ((t.succeed n).update n f)

theorem Dispatched.windsUp {a : Attempt H} {m : Move H} (moved : Dispatched t n a m notes v)
    (found : t.attempt? n = some a) (coherent : Coherent t) (ended : t.HasEnded n) :
    WindsUp t n notes v := by
  cases moved with
  | launched | returned | taken | noticed => exact .internal _ (by simp [Note.isInternal])
  | applied e held =>
      obtain ⟨rfl, draining⟩ := ended.draining coherent found (by simp [held])
      have unhandled : t.link.handle = none := by simp [coherent.handle, draining, Phase.isActive]
      rw [Link.apply_draining draining unhandled]
      refine .internal _ fun note member => ?_
      rcases List.mem_cons.mp member with rfl | called
      · simp [Note.isInternal]
      · obtain ⟨c, rfl⟩ := mem_calls called
        simp [Note.isInternal]
  | aborted failed =>
      obtain ⟨rfl, draining⟩ := ended.draining coherent found (by simp [failed])
      have inactive : t.link.abortAttempt t.link.attempt = (t.link, []) := by
        simp [Link.abortAttempt, Link.isActive_eq, draining, Phase.isActive]
      have unlinked : ((t.setDispatcher t.link.attempt .waiting).relink (t.link, [])) =
          (t.setDispatcher t.link.attempt .waiting, []) := by
        simp only [relink, carryOutAll, setDispatcher, update_relink]
      rw [inactive, unlinked]
      exact .internal _ (by simp)
  | settled settling =>
      have found' : (t.succeed n).attempt? n = some a := attempt?_extend found _ _
      rw [succeed_update found]
      exact .settled _ (by simp [dispatcher?, attempt?_update, found'])

theorem Socketed.windsUp {a : Attempt H} {m : Move H} (moved : Socketed t n a m notes v) :
    WindsUp t n notes v := by
  cases moved with
  | emitted | eventsEnded | commandsEnded | received =>
      exact .internal _ (by simp [Note.isInternal])

theorem step?_windsUp {m : Move H} (own : m.concerns n = true) (made : t.step? m = some (v, notes))
    (coherent : Coherent t) (ended : t.HasEnded n) : WindsUp t n notes v := by
  cases step?_moved made with
  | performed op => exact .asked op
  | @dispatched k a _ _ _ found moved =>
      obtain rfl : k = n := by
        cases moved <;> simpa [Move.concerns] using own
      exact moved.windsUp found coherent ended
  | @socketed k a _ _ _ _ moved =>
      obtain rfl : k = n := by
        cases moved <;> simpa [Move.concerns] using own
      exact moved.windsUp

/-! ## The order of the moves -/

/-- What callers did, each with the attempt and the phase that it found. -/
def History.requests (history : History H) : List (Nat × Phase × Operation H) :=
  history.filterMap fun
    | .performed n phase op _ => some (n, phase, op)
    | _ => none

def findsDraining (n : Nat) : Nat × Phase × Operation H → Bool
  | (m, phase, _) => m = n ∧ phase = .draining

theorem requests_append (a b : History H) :
    History.requests (a ++ b) = History.requests a ++ History.requests b :=
  List.filterMap_append

theorem unsettled_perform (t : Transport H) (op : Operation H) (n : Nat) :
    .settled n ∉ (t.perform op).2.1 := by
  intro member
  rcases List.mem_append.mp member with effect | call
  · cases List.all_eq_true.mp (isEffect_run t op) _ effect
  · cases List.mem_singleton.mp call

theorem requests_perform (t : Transport H) (op : Operation H) :
    History.requests (t.perform op).2.1 = [(t.link.attempt, t.link.phase, op)] := by
  have quiet : History.requests (t.run op).2.1 = [] := by
    apply List.filterMap_eq_nil_iff.mpr
    intro note member
    have effect := List.all_eq_true.mp (isEffect_run t op) note member
    cases note <;> first | rfl | cases effect
  calc History.requests (t.perform op).2.1
      = History.requests (t.run op).2.1 ++ [(t.link.attempt, t.link.phase, op)] := requests_append ..
    _ = [(t.link.attempt, t.link.phase, op)] := by rw [quiet, List.nil_append]

theorem requests_of_isInternal (internal : ∀ note ∈ notes, note.isInternal n = true) :
    notes.requests = [] := by
  apply List.filterMap_eq_nil_iff.mpr
  intro note member
  have own := internal note member
  cases note <;> first | rfl | cases own

theorem Moves.requests_of_done {k : Nat} (moves : Moves (·.concerns n) t k seen v)
    (coherent : Coherent t) (ended : t.HasEnded n) (done : t.dispatcher? n = some .done) :
    ∀ request ∈ seen.requests, findsDraining n request = false := by
  induction moves with
  | refl => nofun
  | @step t u v k notes more m own made rest ih =>
      have run := Run.refl.step m made
      have later := ih ((coherent.step?_change made).coherent coherent)
        (ended.step? coherent made) (run.stays_done coherent done).1
      intro request member
      rw [requests_append] at member
      refine (List.mem_append.mp member).elim (fun now => ?_) (later request)
      cases step?_windsUp own made coherent ended with
      | internal f about =>
          rw [requests_of_isInternal about] at now
          cases now
      | settled => cases now
      | asked op =>
          rw [requests_perform] at now
          obtain rfl := List.mem_singleton.mp now
          obtain ⟨a, found, standing⟩ := dispatcher?_cases done
          refine decide_eq_false fun ⟨same, draining⟩ => ?_
          subst same
          have stands := (coherent.current_sound found).stands
          exact stands.unsettled (by simp [current, draining]) standing

/-- The state differs in attempt `n` at most. -/
def Alike (n : Nat) (t u : Transport H) : Prop :=
  ∃ f, u = t.update n f

theorem Alike.symm {a : Attempt H} (alike : Alike n t u) (found : t.attempt? n = some a) :
    Alike n u t := by
  obtain ⟨f, rfl⟩ := alike
  refine ⟨fun _ => a, ?_⟩
  rw [update_update]
  exact (update_id t n).symm.trans (update_congr found rfl)

theorem Alike.trans {w : Transport H} (first : Alike n t u) (second : Alike n u w) :
    Alike n t w := by
  obtain ⟨f, rfl⟩ := first
  obtain ⟨g, rfl⟩ := second
  exact ⟨_, update_update ..⟩

theorem Alike.link_eq (alike : Alike n t u) : u.link = t.link := by
  obtain ⟨f, rfl⟩ := alike
  exact link_update ..

theorem Alike.exists_attempt {a : Attempt H} (alike : Alike n t u) (found : u.attempt? n = some a) :
    ∃ b, t.attempt? n = some b := by
  obtain ⟨f, rfl⟩ := alike
  rw [attempt?_update, if_pos rfl] at found
  obtain ⟨b, there, _⟩ := Option.map_eq_some_iff.mp found
  exact ⟨b, there⟩

/-- As long as an ended attempt has not settled, all else is as if callers had acted alone. By
    induction from the front: what the attempt itself does is put off until after the calls, which
    find the same with or without it. -/
theorem Moves.alike_performAll {k : Nat} (moves : Moves (·.concerns n) t k seen v)
    (coherent : Coherent t) (ended : t.HasEnded n) (unsettled : .settled n ∉ seen) :
    Alike n (t.performAll (seen.requests.map (·.2.2))).1 v ∧
      ∀ j, j ≠ n → seen.about j = (t.performAll (seen.requests.map (·.2.2))).2.about j := by
  induction moves with
  | refl t => exact ⟨⟨id, (update_id t n).symm⟩, fun _ _ => rfl⟩
  | @step t u v k notes more m own made rest ih =>
      obtain ⟨alike, about⟩ := ih ((coherent.step?_change made).coherent coherent)
        (ended.step? coherent made) (fun later => unsettled (List.mem_append_right _ later))
      rw [requests_append]
      cases step?_windsUp own made coherent ended with
      | settled => simp at unsettled
      | asked op =>
          rw [requests_perform]
          refine ⟨alike, fun j other => ?_⟩
          rw [about_append, about j other]
          exact (about_append ..).symm
      | internal f internal =>
          rw [requests_of_isInternal internal, List.nil_append]
          rw [ended.performAll_update coherent] at alike about
          refine ⟨Alike.trans ⟨f, rfl⟩ alike, fun j other => ?_⟩
          have about_n (note : Note H) (member : note ∈ notes) : note.attempt? = some n :=
            Note.attempt?_of_isInternal (internal note member)
          have nothing : notes.about j = [] := about_eq_nil about_n other
          rw [about_append, about j other, nothing, List.nil_append]

/-- Where the callers do the same, the order of all else makes no difference. -/
theorem Moves.alike {t' v' : Transport H} {seen' : History H} {k k' : Nat}
    (moves : Moves (·.concerns n) t k seen v) (moves' : Moves (·.concerns n) t' k' seen' v')
    (coherent : Coherent t) (coherent' : Coherent t') (ended : t.HasEnded n)
    (ended' : t'.HasEnded n) (unsettled : .settled n ∉ seen) (unsettled' : .settled n ∉ seen')
    (same : seen.requests = seen'.requests) (alike : Alike n t t') :
    Alike n v v' ∧ ∀ j, j ≠ n → seen.about j = seen'.about j := by
  obtain ⟨left, about⟩ := moves.alike_performAll coherent ended unsettled
  obtain ⟨right, about'⟩ := moves'.alike_performAll coherent' ended' unsettled'
  obtain ⟨f, rfl⟩ := alike
  rw [← same, ended.performAll_update coherent] at right about'
  obtain ⟨l, shows, _⟩ := (ended.run coherent moves.run).1
  obtain ⟨b, found⟩ := left.exists_attempt shows.1
  refine ⟨(left.symm found).trans (Alike.trans ⟨f, rfl⟩ right), fun j other => ?_⟩
  rw [about j other, about' j other]

/-- A run in which attempt `n` settles, up to that point and from there. -/
structure Settles (n : Nat) (t w u v : Transport H) (before after : History H) : Prop where
  leads : ∃ k, Moves (·.concerns n) t k before w
  unsettled : .settled n ∉ before
  draining : ∀ request ∈ before.requests, findsDraining n request = true
  settled : Run w [.settled n] u
  succeeds : ∃ f, u = (w.succeed n).update n f
  done : u.dispatcher? n = some .done
  follows : ∃ k, Moves (·.concerns n) u k after v

theorem Moves.settles {k : Nat} (moves : Moves (·.concerns n) t k seen v) (coherent : Coherent t)
    (ended : t.HasEnded n) (working : t.dispatcher? n ≠ some .done)
    (done : v.dispatcher? n = some .done) :
    ∃ w u before after, Settles n t w u v before after ∧ seen = before ++ .settled n :: after := by
  induction moves with
  | refl => exact absurd done working
  | @step t u v k notes more m own made rest ih =>
      have later (unsettled : .settled n ∉ notes)
          (draining : ∀ request ∈ notes.requests, findsDraining n request = true) :
          ∃ w x before after, Settles n t w x v before after ∧
            notes ++ more = before ++ .settled n :: after := by
        obtain ⟨w, x, before, after, settles, rfl⟩ :=
          ih ((coherent.step?_change made).coherent coherent) (ended.step? coherent made)
            (ended.working coherent made working unsettled) done
        obtain ⟨i, moves⟩ := settles.leads
        refine ⟨w, x, notes ++ before, after, ?_, by rw [List.append_assoc]⟩
        refine { settles with
          leads := ⟨i + 1, .step m own made moves⟩, unsettled := ?_, draining := ?_ }
        · exact fun member => (List.mem_append.mp member).elim unsettled settles.unsettled
        · intro request member
          rw [requests_append] at member
          exact (List.mem_append.mp member).elim (draining request) (settles.draining request)
      cases step?_windsUp own made coherent ended with
      | settled f done =>
          exact ⟨t, _, [], more, ⟨⟨0, .refl t⟩, nofun, nofun, Run.refl.step m made, ⟨f, rfl⟩, done,
            ⟨k, rest⟩⟩, rfl⟩
      | internal f internal =>
          refine later (fun member => by cases internal _ member) ?_
          rw [requests_of_isInternal internal]
          nofun
      | asked op =>
          refine later (unsettled_perform t op n) ?_
          rw [requests_perform]
          intro request member
          obtain rfl := List.mem_singleton.mp member
          obtain ⟨l, shows, _⟩ := id ended
          obtain ⟨number, draining⟩ := ended.draining coherent shows.1
            (by simpa [dispatcher?, shows.1] using working)
          simp [findsDraining, number, draining]

section settles

variable {w : Transport H} {before after : History H}

theorem Settles.around (settles : Settles n t w u v before after) (coherent : Coherent t)
    (ended : t.HasEnded n) : (Coherent w ∧ w.HasEnded n) ∧ Coherent u ∧ u.HasEnded n := by
  obtain ⟨_, moves⟩ := settles.leads
  have coherent' := moves.run.coherent coherent
  have ended' := (ended.run coherent moves.run).1
  exact ⟨⟨coherent', ended'⟩, settles.settled.coherent coherent',
    (ended'.run coherent' settles.settled).1⟩

theorem requests_settled (before after : History H) (n : Nat) :
    History.requests (before ++ .settled n :: after) = before.requests ++ after.requests :=
  requests_append ..

/-- What was found draining tells the calls before the attempt settled from those after it. -/
theorem Settles.filter_requests (settles : Settles n t w u v before after) (coherent : Coherent t)
    (ended : t.HasEnded n) :
    (History.requests (before ++ .settled n :: after)).filter (findsDraining n) =
      before.requests := by
  obtain ⟨_, coherent', ended'⟩ := settles.around coherent ended
  obtain ⟨_, moves⟩ := settles.follows
  have nothing : after.requests.filter (findsDraining n) = [] :=
    List.filter_eq_nil_iff.mpr fun request member => by
      simp [moves.requests_of_done coherent' ended' settles.done request member]
  rw [requests_settled, List.filter_append, nothing, List.append_nil]
  exact List.filter_eq_self.mpr settles.draining

theorem Settles.alike {t' w' u' v' : Transport H} {before' after' : History H}
    (settles : Settles n t w u v before after) (settles' : Settles n t' w' u' v' before' after')
    (ended : w.HasEnded n) (alike : Alike n w w') : Alike n u u' := by
  obtain ⟨l, shows, _⟩ := ended
  obtain ⟨f, rfl⟩ := alike
  obtain ⟨g, rfl⟩ := settles.succeeds
  obtain ⟨g', rfl⟩ := settles'.succeeds
  rw [succeed_update shows.1]
  have found : (w.succeed n).attempt? n = some l.attempt := attempt?_extend shows.1 _ _
  have back : Alike n ((w.succeed n).update n g) (w.succeed n) := Alike.symm ⟨g, rfl⟩ found
  exact back.trans (Alike.trans ⟨f, rfl⟩ ⟨g', rfl⟩)

end settles

/-- However an ended attempt winds up, it leaves the same behind. Both runs are cut where the
    attempt settles; before that point and after it, only the calls count, and in both runs the same
    calls found the attempt draining. -/
theorem Moves.confluent {v' : Transport H} {seen' : History H} {k k' : Nat}
    (moves : Moves (·.concerns n) t k seen v) (moves' : Moves (·.concerns n) t k' seen' v')
    (coherent : Coherent t) (ended : t.HasEnded n) (done : v.dispatcher? n = some .done)
    (done' : v'.dispatcher? n = some .done) (same : seen.requests = seen'.requests) :
    Alike n v v' ∧ ∀ j, j ≠ n → seen.about j = seen'.about j := by
  have start : Alike n t t := ⟨id, (update_id t n).symm⟩
  by_cases settled : t.dispatcher? n = some .done
  · exact moves.alike moves' coherent coherent ended ended
      (moves.run.stays_done coherent settled).2 (moves'.run.stays_done coherent settled).2 same start
  · obtain ⟨w, u, before, after, settles, rfl⟩ := moves.settles coherent ended settled done
    obtain ⟨w', u', before', after', settles', rfl⟩ := moves'.settles coherent ended settled done'
    have first : before.requests = before'.requests := by
      rw [← settles.filter_requests coherent ended, same, settles'.filter_requests coherent ended]
    have second : after.requests = after'.requests := by
      rw [requests_settled, requests_settled, first] at same
      exact List.append_cancel_left same
    obtain ⟨⟨coherent_w, ended_w⟩, coherent_u, ended_u⟩ := settles.around coherent ended
    obtain ⟨⟨coherent_w', ended_w'⟩, coherent_u', ended_u'⟩ := settles'.around coherent ended
    obtain ⟨_, moves⟩ := settles.leads
    obtain ⟨_, moves'⟩ := settles'.leads
    obtain ⟨alike, about⟩ := moves.alike moves' coherent coherent ended ended settles.unsettled
      settles'.unsettled first start
    obtain ⟨_, rest⟩ := settles.follows
    obtain ⟨_, rest'⟩ := settles'.follows
    obtain ⟨alike', about'⟩ := rest.alike rest' coherent_u coherent_u' ended_u ended_u'
      (rest.run.stays_done coherent_u settles.done).2
      (rest'.run.stays_done coherent_u' settles'.done).2 second
      (settles.alike settles' ended_w alike)
    refine ⟨alike', fun j other => ?_⟩
    calc History.about (before ++ .settled n :: after) j
        = before.about j ++ History.about [.settled n] j ++ after.about j := by
          rw [← about_append, ← about_append, List.append_assoc, List.singleton_append]
      _ = before'.about j ++ History.about [.settled n] j ++ after'.about j := by
          rw [about j other, about' j other]
      _ = History.about (before' ++ .settled n :: after') j := by
          rw [← about_append, ← about_append, List.append_assoc, List.singleton_append]

end WampClient.Transport
