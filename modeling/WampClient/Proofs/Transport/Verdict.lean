import WampClient.Proofs.Transport.Phase

/-! # What counts as a clean end

The handler of an attempt is told of a clean end exactly if its dispatcher applied a completed close
handshake while the attempt was open, and the code of the close counts. A close without a code counts
only if a caller had asked for it while the attempt was open.
-/

namespace WampClient.Transport

variable {H : Type} {t v : Transport H} {n : Nat} {settings : Settings} {seen : History H}

/-- After this history, the event is a clean end of attempt `n`. -/
def History.EndsCleanly (history : History H) (n : Nat) : Event → Prop
  | .closed code _ => .applied n .opened ∈ history ∧ history.isCutShort n = false ∧
      (code = 1000 ∨ code = 1001 ∨ code = 1005 ∧ history.isCloseRequested n = true)
  | .opened | .message _ | .closing _ _ | .failure _ => False

theorem endsCleanly_about (seen : History H) (n : Nat) (e : Event) :
    (seen.about n).EndsCleanly n e ↔ seen.EndsCleanly n e := by
  have opened : .applied n .opened ∈ seen.about n ↔ .applied n .opened ∈ seen :=
    ⟨fun member => (List.mem_filter.mp member).1, fun member => mem_about member rfl⟩
  cases e <;> simp [History.EndsCleanly, opened, isCutShort_about, isCloseRequested_about]

theorem Life.Run.verdict_iff {h : H} {l : Life H} {e : Event} (run : Life.Run n h seen l)
    (held : l.attempt.dispatcher = .holding e) : l.verdict e = true ↔ seen.EndsCleanly n e := by
  cases e with
  | closed code reason =>
      simp only [Life.verdict, History.EndsCleanly, Bool.and_eq_true, Bool.or_eq_true,
        decide_eq_true_eq, run.isOpen_iff held, run.closeRequested_eq, and_assoc, or_assoc]
      exact Iff.rfl
  | opened | message | closing | failure => simp [Life.verdict, History.EndsCleanly]

/-- The note tells that attempt `n` ends: its last event is applied, or its handler is told. -/
def Note.tellsEnd (n : Nat) : Note H → Prop
  | .applied m e => m = n ∧ e.isTerminal = true
  | .called m _ (.onDisconnect _) => m = n
  | _ => False

theorem Note.attempt?_of_tellsEnd {note : Note H} (ends : note.tellsEnd n) :
    note.attempt? = some n ∧ note.isCall = false := by
  unfold Note.tellsEnd at ends
  split at ends
  · exact ⟨congrArg some ends.1, rfl⟩
  · exact ⟨congrArg some ends, rfl⟩
  · exact ends.elim

/-- A step that ends an attempt applies an event and tells the handler at once. -/
theorem Life.Step.ending {l m : Life H} {notes : History H} {note : Note H}
    (step : Life.Step n l notes m) (member : note ∈ notes) (ends : note.tellsEnd n) :
    ∃ e, l.attempt.dispatcher = .holding e ∧ e.isTerminal = true ∧
      notes = [.applied n e, .called n l.attempt.handler (.onDisconnect (l.verdict e))] := by
  cases step with
  | ended e held last => exact ⟨e, held, last, rfl⟩
  | ignored e held ignores =>
      obtain rfl := List.mem_singleton.mp member
      simp [Note.tellsEnd, unended_of_ignores ignores] at ends
  | asked | aborted | cutShort => grind [pushed, Note.tellsEnd]
  | taken | noticed | wasAborted => cases member
  | observed | sent | launched | emitted | eventsEnded | commandsEnded | received | connected
  | delivered | peerClosed | returned | settled => grind [Note.tellsEnd, Event.isTerminal]

/-- Where attempt `n` ends, its last event is applied and its handler is told at once, with the verdict
    of the history before. -/
theorem Reaches.ending {note : Note H} {before after : History H}
    (reached : Reaches settings (before ++ note :: after) t) (ends : note.tellsEnd n) :
    ∃ (earlier : History H) (e : Event) (h : H) (clean : Bool) (later : History H),
      e.isTerminal = true ∧ (clean = true ↔ earlier.EndsCleanly n e) ∧
      (note = .applied n e ∧ before = earlier ∧ after = .called n h (.onDisconnect clean) :: later ∨
        note = .called n h (.onDisconnect clean) ∧ before = earlier ++ [.applied n e] ∧
          after = later) := by
  obtain ⟨seen, start, rest, later, u, w, m, run, rfl, made, _, rfl⟩ := Run.split_move reached
  have reached : Reaches settings seen u := run
  have coherent := reached.coherent
  obtain ⟨about, own⟩ := Note.attempt?_of_tellsEnd ends
  obtain ⟨l, _, shows, _, step⟩ :=
    (coherent.step?_change made).life_step coherent (by simp) about own
  obtain ⟨e, held, last, notes⟩ := step.ending (by simp) ends
  obtain ⟨_, h, run⟩ := reached.life_of_shows shows (by simp [held])
  have verdict := (run.verdict_iff held).trans (endsCleanly_about seen n e)
  rcases List.append_eq_cons_iff.mp notes with ⟨rfl, now⟩ | ⟨start, rfl, now⟩
  · cases now
    exact ⟨seen, e, _, _, later, last, verdict, .inl ⟨rfl, by simp, rfl⟩⟩
  · rcases List.append_eq_cons_iff.mp now.symm with ⟨rfl, now⟩ | ⟨start, rfl, now⟩
    · cases now
      exact ⟨seen, e, _, _, later, last, verdict, .inr ⟨rfl, rfl, rfl⟩⟩
    · simp at now

/-- How the ends of attempts are told in a run. The verdict depends on what has happened before the
    last event was applied, and nothing that comes later changes it. -/
structure CloseVerdict (seen : History H) : Prop where
  clean_iff : ∀ n, .onDisconnect true ∈ seen.callbacks n ↔
    ∃ (before : History H) (code : UInt16) (reason : String) (after : History H),
      seen = before ++ .applied n (.closed code reason) :: after ∧
      .applied n .opened ∈ before ∧ before.isCutShort n = false ∧
      (code = 1000 ∨ code = 1001 ∨ code = 1005 ∧ before.isCloseRequested n = true)
  /-- What is told is the verdict on the event that was applied just before. -/
  told : ∀ (n : Nat) (before : History H) h clean after,
    seen = before ++ .called n h (.onDisconnect clean) :: after →
    ∃ (earlier : History H) (e : Event), before = earlier ++ [.applied n e] ∧ e.isTerminal = true ∧
      (clean = true ↔ earlier.EndsCleanly n e)
  /-- An event that ends an attempt is told at once. -/
  ended : ∀ (n : Nat) (before : History H) e after,
    seen = before ++ .applied n e :: after → e.isTerminal = true →
    ∃ h clean later, after = .called n h (.onDisconnect clean) :: later ∧
      (clean = true ↔ before.EndsCleanly n e)

theorem mem_callbacks {c : Callback} : c ∈ seen.callbacks n ↔ ∃ h, .called n h c ∈ seen := by
  constructor
  · intro member
    obtain ⟨note, here, same⟩ := List.mem_filterMap.mp member
    cases note <;> simp_all
    obtain ⟨rfl, rfl⟩ := same
    exact ⟨_, here⟩
  · rintro ⟨h, here⟩
    exact List.mem_filterMap.mpr ⟨_, here, by simp⟩

/-- In every run, an end is told to be clean exactly if it was. Whether it was is said of the
    history before it: how the attempt has come to be open, whether a caller has closed it, and with
    which code it ends. -/
theorem Reaches.close_verdict (reached : Reaches settings seen t) : CloseVerdict seen := by
  have told (n : Nat) (before : History H) (h : H) (clean : Bool) (after : History H)
      (whole : seen = before ++ .called n h (.onDisconnect clean) :: after) :
      ∃ (earlier : History H) (e : Event), before = earlier ++ [.applied n e] ∧
        e.isTerminal = true ∧ (clean = true ↔ earlier.EndsCleanly n e) := by
    subst whole
    obtain ⟨earlier, e, _, _, _, last, verdict, ⟨other, _⟩ | ⟨same, first, _⟩⟩ :=
      reached.ending (n := n) rfl
    · cases other
    · cases same
      exact ⟨earlier, e, first, last, verdict⟩
  have ended (n : Nat) (before : History H) (e : Event) (after : History H)
      (whole : seen = before ++ .applied n e :: after) (last : e.isTerminal = true) :
      ∃ h clean later, after = .called n h (.onDisconnect clean) :: later ∧
        (clean = true ↔ before.EndsCleanly n e) := by
    subst whole
    obtain ⟨_, _, h, clean, later, _, verdict, ⟨same, rfl, now⟩ | ⟨other, _⟩⟩ :=
      reached.ending (n := n) ⟨rfl, last⟩
    · cases same
      exact ⟨h, clean, later, now, verdict⟩
    · cases other
  refine ⟨?_, told, ended⟩
  intro n
  constructor
  · intro member
    obtain ⟨h, here⟩ := mem_callbacks.mp member
    obtain ⟨before, after, rfl⟩ := List.append_of_mem here
    obtain ⟨earlier, e, rfl, _, verdict⟩ := told n before h true after rfl
    have cleanly := verdict.mp rfl
    cases e with
    | closed code reason =>
        exact ⟨earlier, code, reason, .called n h (.onDisconnect true) :: after, by simp, cleanly⟩
    | opened | message | closing | failure => exact cleanly.elim
  · rintro ⟨before, code, reason, after, whole, cleanly⟩
    obtain ⟨h, clean, later, rfl, verdict⟩ := ended n before _ after whole rfl
    obtain rfl : clean = true := verdict.mpr cleanly
    exact mem_callbacks.mpr ⟨h, by simp [whole]⟩

/-- The peer closes without a code after a caller has closed. In the next attempt, the same comes
    without a call to close. -/
def uncodedMoves : List (Move Nat) :=
  [.perform (.connect 1), .launch 1, .emit 1 .opened, .take 1, .applyHeld 1, .finish 1 none,
    .perform .close, .emit 1 (.closed 1005 ""), .take 1, .applyHeld 1, .perform (.connect 2),
    .finish 1 none, .settle 1, .launch 2, .emit 2 .opened, .take 2, .applyHeld 2, .finish 2 none,
    .emit 2 (.closed 1005 ""), .take 2, .applyHeld 2]

theorem close_verdict_of_uncoded : ∃ (t : Transport Nat) (seen : History Nat),
    (ofSettings .plain).replay uncodedMoves = some (t, seen) ∧
    seen.callbacks 1 = [.onConnect, .onDisconnect true] ∧
    seen.callbacks 2 = [.onConnect, .onDisconnect false] ∧ CloseVerdict seen := by
  refine ⟨_, _, rfl, rfl, rfl, ?_⟩
  have replayed : (ofSettings .plain).replay uncodedMoves = some _ := rfl
  exact Reaches.close_verdict (run_of_replay replayed)

end WampClient.Transport
