import WampClient.Proofs.Transport.Change

/-! # A run as the lives of its attempts

Every state that a transport can come to is coherent, and the notes about any one attempt are those
of a run of its life. What is claimed of one attempt is therefore shown for its life alone.
-/

namespace WampClient

def Settings.plain : Settings :=
  ⟨⟨⟨.ws, [], [], .domain "host".toList, none, ["ws".toList], none, none⟩, .inl rfl⟩,
    .json, .default, .custom⟩

namespace Transport

variable {H : Type} {t v : Transport H} {n : Nat} {a : Attempt H} {notes : History H}

theorem about_eq_self (about : ∀ note ∈ notes, note.attempt? = some n) : notes.about n = notes :=
  List.filter_eq_self.mpr fun note member => by simp [about note member]

theorem about_eq_nil {k : Nat} (about : ∀ note ∈ notes, note.attempt? = some k) (other : n ≠ k) :
    notes.about n = [] :=
  List.filter_eq_nil_iff.mpr fun note member => by simp [about note member, Ne.symm other]

theorem filterMap_about {α : Type} (f : Note H → Option α) (seen : History H)
    (local_view : ∀ note, note.attempt? ≠ some n → f note = none) :
    (seen.about n).filterMap f = seen.filterMap f := by
  rw [History.about, List.filterMap_filter]
  congr 1
  funext note
  by_cases about : note.attempt? = some n
  · simp [about]
  · simp [about, local_view note about]

theorem callbacks_about (seen : History H) (n : Nat) :
    (seen.about n).callbacks n = seen.callbacks n :=
  filterMap_about _ _ fun note => by cases note <;> simp_all [Note.attempt?]

theorem commands_about (seen : History H) (n : Nat) :
    (seen.about n).commands n = seen.commands n :=
  filterMap_about _ _ fun note => by cases note <;> simp_all [Note.attempt?]

theorem received_about (seen : History H) (n : Nat) :
    (seen.about n).received n = seen.received n :=
  filterMap_about _ _ fun note => by cases note <;> simp_all [Note.attempt?]

theorem accepted_about (seen : History H) (n : Nat) :
    (seen.about n).accepted n = seen.accepted n :=
  filterMap_about _ _ fun note => by
    cases note with
    | performed _ _ _ answer => cases answer <;> simp_all [Note.attempt?]
    | _ => simp [Note.attempt?]

theorem emitted_about (seen : History H) (n : Nat) :
    (seen.about n).emitted n = seen.emitted n :=
  filterMap_about _ _ fun note => by cases note <;> simp_all [Note.attempt?]

theorem applied_about (seen : History H) (n : Nat) :
    (seen.about n).applied n = seen.applied n :=
  filterMap_about _ _ fun note => by cases note <;> simp_all [Note.attempt?]

theorem isCutShort_about (seen : History H) (n : Nat) :
    (seen.about n).isCutShort n = seen.isCutShort n := by
  unfold History.isCutShort History.about
  rw [List.any_filter]
  congr 1
  funext note
  unfold Note.attempt?
  split <;> grind

theorem mem_about {seen : History H} {note : Note H} (member : note ∈ seen)
    (about : note.attempt? = some n) : note ∈ seen.about n :=
  List.mem_filter.mpr ⟨member, by simp [about]⟩

theorem link_turn (t : Transport H) (m : Life H) :
    (t.turn m).link = t.link.turn m.phase m.closeRequested :=
  link_update ..

theorem attempt?_turn {m : Life H} (found : t.attempt? t.link.attempt = some a) (k : Nat) :
    (t.turn m).attempt? k = if k = t.link.attempt then some m.attempt else t.attempt? k := by
  rw [turn, attempt?_update, attempt?_relink]
  by_cases same : k = t.link.attempt
  · subst same
    simp [found]
  · rw [if_neg (Ne.symm same), if_neg same]

theorem count_turn {m : Life H} (count : t.attempts.length = t.link.attempt) :
    (t.turn m).attempts.length = (t.turn m).link.attempt := by
  rw [link_turn, turn, length_update]
  exact count

theorem attempt?_begin (count : t.attempts.length = t.link.attempt) (h : H) (k : Nat) :
    (t.begin h).attempt? k =
      if k = t.link.attempt + 1 then some (.ofHandler h) else t.attempt? k := by
  cases k with
  | zero => rfl
  | succ k =>
      simp only [begin, attempt?, List.getElem?_append, ← count, Nat.add_right_cancel_iff]
      grind

section shows

variable {l : Life H}

theorem Shows.update {f : Attempt H → Attempt H} (shows : t.Shows n l) :
    (t.update n f).Shows n (l.on f) := by
  refine ⟨?_, by simpa [link_update, Life.on] using shows.2⟩
  simp [attempt?_update, shows.1, Life.on]

theorem Shows.update_other {k : Nat} {f : Attempt H → Attempt H} (shows : t.Shows n l) (other : n ≠ k) :
    (t.update k f).Shows n l := by
  refine ⟨?_, by simpa [link_update] using shows.2⟩
  rw [attempt?_update, if_neg (Ne.symm other)]
  exact shows.1

theorem Shows.turn {m : Life H} (shows : t.Shows t.link.attempt l) :
    (t.turn m).Shows t.link.attempt m := by
  refine ⟨?_, by simp [link_turn, Link.turn]⟩
  rw [attempt?_turn shows.1, if_pos rfl]

theorem Shows.turn_other {m : Life H} (shows : t.Shows n l) (found : t.attempt? t.link.attempt = some a)
    (other : n ≠ t.link.attempt) : (t.turn m).Shows n l := by
  refine ⟨?_, by simpa [link_turn, Link.turn, other] using shows.2⟩
  rw [attempt?_turn found, if_neg other]
  exact shows.1

theorem Shows.closed (shows : t.Shows n l) (ended : t.link.phase = .closed) : l.phase = .closed := by
  have held := shows.2
  split at held
  · exact held.1.trans ended
  · exact held

theorem Shows.begin (shows : t.Shows n l) (closed : l.phase = .closed)
    (count : t.attempts.length = t.link.attempt) (h : H) : (t.begin h).Shows n l := by
  have before : n ≠ t.link.attempt + 1 := by
    rintro rfl
    have found := shows.1
    simp [attempt?, ← count] at found
  refine ⟨?_, ?_⟩
  · rw [attempt?_begin count, if_neg before]
    exact shows.1
  · have number : (t.begin h).link.attempt = t.link.attempt + 1 := rfl
    rw [number, if_neg before]
    exact closed

theorem shows_begin (count : t.attempts.length = t.link.attempt) (h : H) :
    (t.begin h).Shows (t.link.attempt + 1) (.ofHandler h) := by
  refine ⟨?_, ?_⟩
  · rw [attempt?_begin count, if_pos rfl]
    rfl
  · have number : (t.begin h).link.attempt = t.link.attempt + 1 := rfl
    rw [number, if_pos rfl]
    exact ⟨rfl, rfl⟩

end shows

theorem connectNotes_about (t : Transport H) (h : H) (admission : Admission) (n : Nat) :
    (t.connectNotes h admission).about n =
      if n = t.link.attempt then [.performed n t.link.phase (.connect h) .done] else [] := by
  by_cases same : n = t.link.attempt
  · simp [connectNotes, History.about, Note.attempt?, same]
  · simp [connectNotes, History.about, Note.attempt?, same, Ne.symm same]

theorem Shows.connect {l : Life H} (shows : t.Shows n l) (h : H) (admission : Admission) :
    Life.Step n l ((t.connectNotes h admission).about n) l ∨
      l = l ∧ (t.connectNotes h admission).about n = [] := by
  rw [connectNotes_about]
  by_cases same : n = t.link.attempt
  · subst same
    obtain ⟨_, phase, _⟩ := by simpa [Shows] using shows
    rw [if_pos rfl, ← phase]
    exact .inl (.observed _ _ (fun _ => rfl) (by simp) (by simp))
  · exact .inr ⟨rfl, if_neg same⟩

/-- What a move is to an attempt that has begun before. -/
theorem Change.shows (change : Change t notes v) (coherent : Coherent t) {l : Life H}
    (shows : t.Shows n l) :
    ∃ m, v.Shows n m ∧ (Life.Step n l (notes.about n) m ∨ m = l ∧ notes.about n = []) := by
  cases change with
  | @touched k b _ f found step =>
      have about : ∀ note ∈ notes, note.attempt? = some k := by
        obtain ⟨life, there, _⟩ := coherent.lives k b found
        exact (step life there).about
      by_cases same : n = k
      · subst same
        rw [about_eq_self about]
        exact ⟨_, shows.update, .inl (step l shows)⟩
      · exact ⟨l, shows.update_other same, .inr ⟨rfl, about_eq_nil about same⟩⟩
  | @turned now m _ current step waiting =>
      by_cases same : n = t.link.attempt
      · subst same
        rw [about_eq_self step.about, shows.eq_current, shows.attempt_eq current.1, ← current.eq_current]
        exact ⟨m, current.turn, .inl step⟩
      · exact ⟨l, shows.turn_other current.1 same, .inr ⟨rfl, about_eq_nil step.about same⟩⟩
  | rested op answer unborn unsent =>
      have other : n ≠ t.link.attempt := by
        rintro rfl
        rw [unborn] at shows
        cases shows.1
      exact ⟨l, shows, .inr ⟨rfl, about_eq_nil (by simp [Note.attempt?]) other⟩⟩
  | started h ended =>
      have found := shows.1
      have closed : l.phase = .closed := by
        rcases ended with idle | closed
        · simp [coherent.unborn idle n] at found
        · exact shows.closed closed
      exact ⟨l, shows.begin closed coherent.count h, shows.connect h .started⟩
  | deferred h draining free => exact ⟨l, shows, shows.connect h .deferred⟩
  | refused h busy => exact ⟨l, shows, shows.connect h .ignored⟩
  | @succeeded now m _ h waits current step closed =>
      have count := count_turn (m := m) coherent.count
      by_cases same : n = t.link.attempt
      · subst same
        rw [about_eq_self step.about, shows.eq_current, shows.attempt_eq current.1,
          ← current.eq_current]
        exact ⟨m, current.turn.begin closed count h, .inl step⟩
      · have past : l.phase = .closed := by simpa [same] using shows.2
        exact ⟨l, (shows.turn_other current.1 same).begin past count h,
          .inr ⟨rfl, about_eq_nil step.about same⟩⟩

/-- What a move is to an attempt that begins with it. -/
theorem Change.born (change : Change t notes v) (coherent : Coherent t)
    (absent : t.attempt? n = none) (found : v.attempt? n = some a) :
    ∃ h, v.Shows n (.ofHandler h) ∧ notes.about n = [] := by
  cases change with
  | touched f there step => simp [attempt?_update, absent] at found
  | @turned now m _ current step waiting =>
      rw [attempt?_turn current.1] at found
      split at found
      · rename_i same
        rw [same, current.1] at absent
        cases absent
      · simp [absent] at found
  | rested | deferred | refused => cases absent.symm.trans found
  | started h ended =>
      rw [attempt?_begin coherent.count] at found
      split at found
      · rename_i next
        subst next
        exact ⟨h, shows_begin coherent.count h, by simp [connectNotes_about]⟩
      · simp [absent] at found
  | @succeeded now m _ h waits current step closed =>
      have number : (t.turn m).link.attempt = t.link.attempt := by rw [link_turn]; rfl
      have count := count_turn (m := m) coherent.count
      rw [attempt?_begin count, number, attempt?_turn current.1] at found
      split at found
      · rename_i next
        subst next
        have shows := shows_begin count h
        rw [number] at shows
        exact ⟨h, shows, about_eq_nil step.about (by simp)⟩
      · split at found
        · rename_i same
          rw [same, current.1] at absent
          cases absent
        · simp [absent] at found

/-- An attempt that has not begun may only be named by a caller who acts before the first one. -/
theorem Change.unborn (change : Change t notes v) (coherent : Coherent t)
    (absent : v.attempt? n = none) :
    t.attempt? n = none ∧ ∀ note ∈ notes.about n, n = 0 ∧ ∃ op answer,
      note = .performed n .idle op answer ∧ (answer = .done → History.sentFrame? op = none) := by
  have missing : t.attempt? n = none := by
    cases before : t.attempt? n with
    | none => rfl
    | some b =>
        obtain ⟨l, shows, _⟩ := coherent.lives n b before
        obtain ⟨m, shows', _⟩ := change.shows coherent shows
        cases absent.symm.trans shows'.1
  have elsewhere {k : Nat} {b : Attempt H} (found : t.attempt? k = some b) : n ≠ k := by
    rintro rfl
    cases missing.symm.trans found
  have idle (same : n = t.link.attempt) : n = 0 ∧ t.link.phase = .idle := by
    have number : t.link.attempt = 0 := by
      apply Classical.byContradiction
      intro begun
      obtain ⟨b, found⟩ := coherent.exists_current begun
      exact elsewhere found same
    exact ⟨same.trans number, by simp [coherent.fresh number, Link.initial]⟩
  refine ⟨missing, ?_⟩
  intro note member
  cases change with
  | @touched k b _ f found step =>
      obtain ⟨life, there, _⟩ := coherent.lives k b found
      simp [about_eq_nil (step life there).about (elsewhere found)] at member
  | turned current step => simp [about_eq_nil step.about (elsewhere current.1)] at member
  | succeeded h waits current step =>
      simp [about_eq_nil step.about (elsewhere current.1)] at member
  | rested op answer unborn unsent =>
      obtain ⟨here, about⟩ := List.mem_filter.mp member
      obtain rfl := List.mem_singleton.mp here
      have same : t.link.attempt = n := by simpa [Note.attempt?] using about
      obtain ⟨zero, phase⟩ := idle same.symm
      exact ⟨zero, op, answer, by rw [phase, same], unsent⟩
  | started h | deferred h | refused h =>
      rw [connectNotes_about] at member
      split at member
      · rename_i same
        obtain rfl := List.mem_singleton.mp member
        obtain ⟨zero, phase⟩ := idle same
        exact ⟨zero, _, _, by rw [phase], fun _ => rfl⟩
      · cases member

def Note.isCall : Note H → Bool
  | .performed .. | .admitted .. => true
  | _ => false

theorem Change.life_step {note : Note H} (change : Change t notes v) (coherent : Coherent t)
    (member : note ∈ notes) (about : note.attempt? = some n) (own : note.isCall = false) :
    ∃ l m, t.Shows n l ∧ v.Shows n m ∧ Life.Step n l notes m := by
  have same {k : Nat} {l m : Life H} (step : Life.Step k l notes m) : n = k :=
    Option.some.inj (about.symm.trans (step.about note member))
  cases change with
  | @touched k b _ f found step =>
      obtain ⟨l, there, _⟩ := coherent.lives k b found
      obtain rfl := same (step l there)
      exact ⟨l, _, there, there.update, step l there⟩
  | turned current step =>
      obtain rfl := same step
      exact ⟨_, _, current, current.turn, step⟩
  | succeeded h waits current step closed =>
      obtain rfl := same step
      exact ⟨_, _, current, current.turn.begin closed (count_turn coherent.count) h, step⟩
  | rested =>
      obtain rfl := List.mem_singleton.mp member
      cases own
  | started | deferred | refused =>
      simp only [connectNotes, List.mem_cons, List.not_mem_nil, or_false] at member
      rcases member with rfl | rfl <;> cases own

theorem Change.lives (change : Change t notes v) (coherent : Coherent t) :
    ∀ n a, v.attempt? n = some a → ∃ l, v.Shows n l ∧ l.Sound := by
  intro n a found
  cases before : t.attempt? n with
  | none =>
      obtain ⟨h, shows, _⟩ := change.born coherent before found
      exact ⟨_, shows, Life.ofHandler_sound h⟩
  | some b =>
      obtain ⟨l, shows, sound⟩ := coherent.lives n b before
      obtain ⟨m, shows', step | ⟨rfl, _⟩⟩ := change.shows coherent shows
      · exact ⟨m, shows', step.sound sound⟩
      · exact ⟨m, shows', sound⟩

theorem Change.coherent (change : Change t notes v) (coherent : Coherent t) : Coherent v := by
  have lives := change.lives coherent
  cases change with
  | touched f found step =>
      refine ⟨?_, ?_, ?_, ?_, ?_, lives⟩
      · rw [length_update, link_update]
        exact coherent.count
      all_goals rw [link_update]
      · exact coherent.fresh
      · exact coherent.alarm
      · exact coherent.handle
      · exact coherent.deferred
  | @turned _ m _ current step waiting =>
      refine ⟨count_turn coherent.count, ?_, ?_, ?_, ?_, lives⟩
      all_goals rw [link_turn]
      · intro unborn
        have found := current.1
        simp [show t.link.attempt = 0 from unborn, attempt?] at found
      · exact coherent.alarm
      · rfl
      · exact waiting
  | rested | refused => exact coherent
  | started h ended =>
      refine ⟨?_, ?_, rfl, rfl, ?_, lives⟩
      · simp [begin, Link.start, coherent.count]
      · intro unborn
        cases unborn
      · intro waits
        exact absurd rfl waits
  | deferred h draining free =>
      refine ⟨coherent.count, ?_, coherent.alarm, coherent.handle, fun _ => draining, lives⟩
      intro unborn
      simp [coherent.fresh unborn, Link.initial] at draining
  | @succeeded _ m _ h waits current step closed =>
      have count := count_turn (m := m) coherent.count
      refine ⟨?_, ?_, rfl, rfl, ?_, lives⟩
      · simp [begin, Link.start, count]
      · intro unborn
        cases unborn
      · intro waits
        exact absurd rfl waits

/-! ## Runs -/

theorem Run.trans {u : Transport H} {seen more : History H} (before : Run t seen u)
    (after : Run u more v) : Run t (seen ++ more) v := by
  induction after with
  | refl => rwa [List.append_nil]
  | step _ m made ih => rw [← List.append_assoc]; exact ih.step m made

theorem Run.coherent {seen : History H} (run : Run t seen v) (coherent : Coherent t) :
    Coherent v := by
  induction run with
  | refl => exact coherent
  | step _ m made ih => exact (ih.step?_change made).coherent ih

theorem split_cases {α : Type} {first more before after : List α} {x : α}
    (same : first ++ more = before ++ x :: after) :
    (∃ rest, first = before ++ x :: rest) ∨
      ∃ start, before = first ++ start ∧ more = start ++ x :: after := by
  rcases List.append_eq_append_iff.mp same with ⟨start, whole, more⟩ | ⟨rest, whole, more⟩
  · exact .inr ⟨start, whole, more⟩
  · cases rest with
    | nil => exact .inr ⟨[], by simpa using whole.symm, by simpa using more.symm⟩
    | cons y rest =>
        cases more
        exact .inl ⟨rest, whole⟩

/-- Each note of a run was made by one of its moves, between a run before it and a run after it. -/
theorem Run.split_move {note : Note H} {before after : History H}
    (run : Run t (before ++ note :: after) v) :
    ∃ seen start rest later u w m, Run t seen u ∧ before = seen ++ start ∧
      u.step? m = some (w, start ++ note :: rest) ∧ Run w later v ∧ after = rest ++ later := by
  generalize whole : before ++ note :: after = seen at run
  induction run generalizing after with
  | refl => simp at whole
  | @step u w seen more run m made ih =>
      rcases split_cases whole.symm with ⟨rest, earlier⟩ | ⟨start, same, now⟩
      · obtain ⟨first, start, end_, later, x, y, k, before_it, same, moved, after_it, rfl⟩ :=
          ih earlier.symm
        refine ⟨first, start, end_, later ++ more, x, y, k, before_it, same, moved,
          after_it.step m made, ?_⟩
        subst earlier
        simpa using whole
      · exact ⟨seen, start, after, [], u, w, m, run, same, now ▸ made, .refl, by simp⟩

theorem Run.split {note : Note H} {before after : History H}
    (run : Run t (before ++ note :: after) v) :
    ∃ seen start rest u w m, Run t seen u ∧ before = seen ++ start ∧
      u.step? m = some (w, start ++ note :: rest) := by
  obtain ⟨seen, start, rest, _, u, w, m, earlier, same, made, _⟩ := run.split_move
  exact ⟨seen, start, rest, u, w, m, earlier, same, made⟩

def replay (t : Transport H) : List (Move H) → Outcome H
  | [] => some (t, [])
  | m :: rest =>
    (t.step? m).bind fun (u, notes) => (u.replay rest).map fun (v, more) => (v, notes ++ more)

theorem run_of_replay {moves : List (Move H)} {seen : History H}
    (replayed : t.replay moves = some (v, seen)) : Run t seen v := by
  induction moves generalizing t seen with
  | nil =>
      cases replayed
      exact .refl
  | cons m rest ih =>
      obtain ⟨⟨u, notes⟩, made, replayed⟩ := Option.bind_eq_some_iff.mp replayed
      obtain ⟨⟨w, more⟩, rested, same⟩ := Option.map_eq_some_iff.mp replayed
      cases same
      exact (Run.refl.step m made).trans (ih rested)

theorem ofSettings_coherent (settings : Settings) : Coherent (ofSettings settings : Transport H) :=
  ⟨rfl, fun _ => rfl, rfl, rfl, nofun, fun n _ found => by cases n <;> cases found⟩

section reaches

variable {settings : Settings} {seen : History H}

theorem Reaches.coherent (reached : Reaches settings seen t) : Coherent t :=
  Run.coherent reached (ofSettings_coherent settings)

theorem about_append (first more : History H) (n : Nat) :
    History.about (first ++ more) n = first.about n ++ more.about n :=
  List.filter_append ..

theorem Reaches.unborn (reached : Reaches settings seen t) (absent : t.attempt? n = none) :
    ∀ note ∈ seen.about n, n = 0 ∧ ∃ op answer,
      note = .performed n .idle op answer ∧ (answer = .done → History.sentFrame? op = none) := by
  induction reached with
  | refl =>
      intro note member
      cases member
  | step before m made ih =>
      have coherent := Reaches.coherent before
      obtain ⟨missing, quiet⟩ := (coherent.step?_change made).unborn coherent absent
      intro note member
      rw [about_append] at member
      rcases List.mem_append.mp member with earlier | now
      · exact ih missing note earlier
      · exact quiet note now

/-- The notes about an attempt that has begun are those of a run of its life. Through this, what is
    shown of lives is said of whole runs. -/
theorem Reaches.life (reached : Reaches settings seen t) (found : t.attempt? n = some a) :
    ∃ h l, Life.Run n h (seen.about n) l ∧ t.Shows n l := by
  induction reached generalizing a with
  | refl => cases n <;> cases found
  | @step u v seen more before m made ih =>
      have coherent := Reaches.coherent before
      have change := coherent.step?_change made
      rw [about_append]
      cases earlier : u.attempt? n with
      | none =>
          obtain ⟨h, shows, about⟩ := change.born coherent earlier found
          have nothing : History.about seen n = [] := by
            apply List.eq_nil_iff_forall_not_mem.mpr
            intro note member
            obtain ⟨rfl, _⟩ := Reaches.unborn before earlier note member
            cases found
          rw [nothing, about]
          exact ⟨h, _, .begun, shows⟩
      | some b =>
          obtain ⟨h, l, run, shows⟩ := ih earlier
          obtain ⟨m, shows', step | ⟨rfl, about⟩⟩ := change.shows coherent shows
          · exact ⟨h, m, run.step step, shows'⟩
          · rw [about, List.append_nil]
            exact ⟨h, m, run, shows'⟩

theorem Reaches.life_of_shows {l : Life H} (reached : Reaches settings seen t) (shows : t.Shows n l)
    (working : l.attempt.dispatcher ≠ .done) :
    n = t.link.attempt ∧ ∃ h, Life.Run n h (seen.about n) l := by
  obtain rfl := reached.coherent.number_eq shows.1 working
  obtain ⟨h, m, run, shows'⟩ := reached.life shows.1
  rw [shows'.eq_current, shows'.attempt_eq shows.1, ← shows.eq_current] at run
  exact ⟨rfl, h, run⟩

end reaches

/-! ## What comes later -/

/-- All that happens to attempt `n` from one state of its life to another. -/
inductive Life.Path (n : Nat) (k : Life H) : History H → Life H → Prop where
  | refl : Path n k [] k
  | step {seen more : History H} {l m : Life H} (before : Path n k seen l)
      (step : Step n l more m) : Path n k (seen ++ more) m

/-- What a run is to an attempt that has begun before. -/
theorem Run.path {k : Life H} {seen : History H} (run : Run t seen v) (coherent : Coherent t)
    (shows : t.Shows n k) : ∃ l, Life.Path n k (seen.about n) l ∧ v.Shows n l := by
  induction run with
  | refl => exact ⟨k, .refl, shows⟩
  | step before m made ih =>
      obtain ⟨l, path, there⟩ := ih
      have coherent := before.coherent coherent
      obtain ⟨m, there', step | ⟨rfl, about⟩⟩ := (coherent.step?_change made).shows coherent there
      · exact ⟨m, about_append .. ▸ path.step step, there'⟩
      · refine ⟨m, ?_, there'⟩
        rwa [about_append, about, List.append_nil]

end Transport

end WampClient
