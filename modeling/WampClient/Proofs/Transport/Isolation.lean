import WampClient.Proofs.Transport.Agreement
import WampClient.Proofs.Transport.LinkInvariant

/-! # Attempts do not interfere

The socket of an attempt that was aborted or whose handler was told of its end may go on to emit
events for any length of time. Callers, handlers and the sockets of later attempts see nothing of
that: in two plays that differ in such events alone, the same is to be seen.
-/

namespace WampClient

theorem Attempt.Finds.outline {H : Type} {a b : Attempt H} {e : Event} (finds : a.Finds e b) :
    b.outline = a.outline := by
  cases finds <;> rfl

theorem Link.apply_draining_cases {H : Type} {l : Link H} (draining : l.phase = .draining) (n : Nat)
    (e : Event) : (l.apply n e).2 = .ignore ∨ (l.apply n e).2 = .disconnected false := by
  cases e with
  | opened | message | closing => simp [Link.apply, draining, Link.isOpen]
  | closed =>
      right
      simp only [Link.apply]
      split <;> simp [draining, Link.isOpen]
  | failure => exact .inr rfl

namespace Transport

variable {H : Type} {t u : Transport H} {n : Nat} {a b : Attempt H} {e : Event}

theorem Coherent.applied_of_draining (coherent : Coherent t) (draining : t.link.phase = .draining) :
    t.applied n e b = t.update n fun _ =>
      { b with dispatcher := afterStep (t.link.apply n e).2 } := by
  have unhandled : t.link.handle = none := by simp [coherent.handle, draining, Phase.isActive]
  rw [applied, Link.apply_draining draining unhandled]

theorem Coherent.works_cases (coherent : Coherent t) (found : t.attempt? n = some a)
    (waiting : a.dispatcher = .waiting) : n = t.link.attempt ∧
      (t.link.phase.isActive = true ∧ a.woken = false ∨ t.link.phase = .draining) := by
  obtain rfl := coherent.number_eq found (by simp [waiting])
  have stands := (coherent.current_sound found).stands
  have working := stands.active_or_draining (by simp [current, waiting])
  exact ⟨rfl, working.imp_left fun active => ⟨active, stands.unwoken active⟩⟩

theorem Agree.atRest (agree : Agree t u) (coherent : Coherent t) (rest : t.AtRest) : u.AtRest := by
  intro n
  have idle := rest n
  rcases agree.attempt?_cases n with ⟨left, right⟩ | ⟨a, b, left, right, outline⟩
  · simp [isIdle, right]
  · have same : a.dispatcher = b.dispatcher := by simpa using congrArg Attempt.dispatcher outline
    cases standing : a.dispatcher with
    | done => simp [isIdle, right, ← same, standing]
    | waiting =>
        obtain ⟨rfl, ⟨active, _⟩ | draining⟩ := coherent.works_cases left standing
        · have live := agree.live active
          rw [← agree.link] at live
          rwa [isIdle, ← live, ← isIdle]
        · rw [coherent.busy_of_draining draining] at idle
          cases idle
    | begun | holding | calling | failed | settling => simp [isIdle, left, standing] at idle

/-- Between two turns all dispatchers are at rest, and the sockets have received all commands. -/
structure Waits (t : Transport H) : Prop where
  coherent : Coherent t
  rest : t.AtRest
  received : ∀ a ∈ t.attempts, a.commands = []

theorem ofSettings_waits (settings : Settings) : Waits (ofSettings settings : Transport H) where
  coherent := ofSettings_coherent settings
  rest n := by cases n <;> rfl
  received := nofun

theorem Waits.receiveAll (waits : Waits t) : t.receiveAll = (t, []) := by
  have kept : t.attempts.map ({ · with commands := [] }) = t.attempts := by
    calc t.attempts.map ({ · with commands := [] })
        = t.attempts.map id := List.map_congr_left fun a member => by
          rw [← waits.received a member]
          rfl
      _ = t.attempts := List.map_id _
  have nothing : t.receiveAll.2 = [] := by
    rw [receiveAll_commands]
    apply List.flatMap_eq_nil_iff.mpr
    rintro ⟨a, n⟩ member
    simp [waits.received a (List.fst_mem_of_mem_zipIdx member)]
  refine Prod.ext ?_ nothing
  rw [Transport.receiveAll, kept]

end Transport

namespace Scripted

open Transport

variable {H : Type} [DecidableEq H] {s r u w : Scripted H} {sight sight' : Sight H} {n : Nat}

theorem Agree.ignored {a b : Attempt H} {e : Event} (agree : Agree s r)
    (coherent : Coherent s.transport) (draining : s.transport.link.phase = .draining)
    (found : s.transport.attempt? n = some a) (waiting : a.dispatcher = .waiting)
    (finds : a.Finds e b) (ignored : (s.transport.link.apply n e).2 = .ignore) :
    (s.meet n e b).2 = .nothing ∧ Agree (s.meet n e b).1 r := by
  have gone : s.transport.isOver n = true := by simp [isOver, found, Link.isActive, draining]
  have standing : (s.transport.applied n e b).dispatcher? n = some .waiting := by
    simp [Transport.dispatcher?, attempt?_applied found, ignored, afterStep]
  rw [meet, respond_waiting standing]
  refine ⟨rfl, ?_, agree.scripts⟩
  rw [coherent.applied_of_draining draining, ignored]
  refine agree.transport.update_left gone fun a' found' => ?_
  obtain rfl : a = a' := Option.some.inj (found.symm.trans found')
  calc { b with dispatcher := afterStep .ignore }.outline
      = { b.outline with dispatcher := .waiting } := rfl
    _ = { a.outline with dispatcher := a.dispatcher } := by rw [finds.outline, waiting]
    _ = a.outline := rfl

theorem Agree.meet (agree : Agree s r) (n : Nat) (e : Event) (b : Attempt H) :
    Agree (s.meet n e b).1 (r.meet n e b).1 ∧ (s.meet n e b).2 = (r.meet n e b).2 := by
  have applied : (s.transport.applied n e b).Agree (r.transport.applied n e b) := by
    rw [Transport.applied, Transport.applied, ← agree.transport.link]
    exact (agree.transport.relinked (s.transport.link.keeps_apply n e)).update_same n _ fun _ => rfl
  have met : Agree { s with transport := s.transport.applied n e b }
      { r with transport := r.transport.applied n e b } := ⟨applied, agree.scripts⟩
  exact met.respond n

/-- Whatever ends an attempt that was aborted, its handler is told the same. -/
theorem Agree.disconnected {a a' b b' : Attempt H} {e e' : Event} (agree : Agree s r)
    (coherent : Coherent s.transport) (coherent' : Coherent r.transport)
    (draining : s.transport.link.phase = .draining) (found : s.transport.attempt? n = some a)
    (found' : r.transport.attempt? n = some a') (finds : a.Finds e b) (finds' : a'.Finds e' b')
    (ended : (s.transport.link.apply n e).2 = .disconnected false)
    (ended' : (r.transport.link.apply n e').2 = .disconnected false) :
    Agree (s.meet n e b).1 (r.meet n e' b').1 ∧ (s.meet n e b).2 = (r.meet n e' b').2 := by
  have draining' : r.transport.link.phase = .draining := agree.transport.link ▸ draining
  have applied : (s.transport.applied n e b).Agree (r.transport.applied n e' b') := by
    rw [coherent.applied_of_draining draining, coherent'.applied_of_draining draining', ended, ended']
    refine agree.transport.update (fun c c' left right outline => ?_) fun _ active => ?_
    · obtain rfl : a = c := Option.some.inj (found.symm.trans left)
      obtain rfl : a' = c' := Option.some.inj (found'.symm.trans right)
      have same : b.outline = b'.outline := by rw [finds.outline, finds'.outline, outline]
      exact congrArg (fun c : Attempt H => { c with dispatcher := afterStep (.disconnected false) }) same
    · simp [draining, Phase.isActive] at active
  have met : Agree { s with transport := s.transport.applied n e b }
      { r with transport := r.transport.applied n e' b' } := ⟨applied, agree.scripts⟩
  exact met.respond n

/-- Of two rounds one does not count, or both do the same. -/
theorem Agree.round (agree : Agree s r) (coherent : Coherent s.transport)
    (coherent' : Coherent r.transport) (left : Round s sight u) (right : Round r sight' w) :
    (sight = .nothing ∧ Agree u r) ∨ (sight' = .nothing ∧ Agree s w) ∨
      (sight = sight' ∧ Agree u w) := by
  obtain ⟨n, a, e, b, found, waiting, finds, _, rfl, rfl⟩ := left.found
  obtain ⟨k, a', e', b', found', waiting', finds', _, rfl, rfl⟩ := right.found
  have link := agree.transport.link
  obtain ⟨number, standing⟩ := coherent.works_cases found waiting
  obtain ⟨number', _⟩ := coherent'.works_cases found' waiting'
  obtain rfl : n = k := by rw [number, number', link]
  rcases standing with ⟨active, unwoken⟩ | draining
  · have live := agree.transport.live active
    rw [← number, ← number', found, found'] at live
    obtain rfl := Option.some.inj live
    cases finds with
    | abort woken => simp [unwoken] at woken
    | event next =>
        cases finds' with
        | abort woken => simp [unwoken] at woken
        | event next' =>
            obtain ⟨rfl, rfl⟩ := by simpa [next] using next'
            obtain ⟨met, seen⟩ := agree.meet n e _
            exact .inr (.inr ⟨seen, met⟩)
  · have draining' : r.transport.link.phase = .draining := link ▸ draining
    rcases Link.apply_draining_cases draining n e with ignored | ended
    · exact .inl (agree.ignored coherent draining found waiting finds ignored)
    · rcases Link.apply_draining_cases draining' n e' with ignored' | ended'
      · obtain ⟨unseen, met⟩ := agree.symm.ignored coherent' draining' found' waiting' finds' ignored'
        exact .inr (.inl ⟨unseen, met.symm⟩)
      · obtain ⟨met, seen⟩ :=
          agree.disconnected coherent coherent' draining found found' finds finds' ended ended'
        exact .inr (.inr ⟨seen, met⟩)

/-- However the dispatchers work, in the end the same was to be seen. -/
theorem Works.confluent (left : Works s sight u) (right : Works r sight' w) (agree : Agree s r)
    (coherent : Coherent s.transport) (coherent' : Coherent r.transport) :
    sight = sight' ∧ Agree u w := by
  induction left generalizing r sight' with
  | rest rest =>
      cases right with
      | rest => exact ⟨rfl, agree⟩
      | round round _ =>
          exact absurd round (not_round_of_atRest (agree.transport.atRest coherent rest))
  | @round s t u first more round works ih =>
      have later := round.leads.coherent coherent
      induction right with
      | rest rest =>
          exact absurd round (not_round_of_atRest (agree.symm.transport.atRest coherent' rest))
      | @round r q w first' more' round' works' ih' =>
          have later' := round'.leads.coherent coherent'
          rcases agree.round coherent coherent' round round' with
            ⟨rfl, agree⟩ | ⟨rfl, agree⟩ | ⟨rfl, agree⟩
          · exact ih (.round round' works') agree later coherent'
          · exact ih' ih agree later'
          · obtain ⟨rfl, agree⟩ := ih works' agree later later'
            exact ⟨rfl, agree⟩

/-- Turns in which the same counts do the same. -/
theorem Turns.alike {stimuli stimuli' : List (Stimulus H)} {scene scene' : Scene H}
    (left : Turns s stimuli scene u) (right : Turns r stimuli' scene' w) (agree : Agree s r)
    (coherent : Coherent s.transport) (coherent' : Coherent r.transport)
    (same : scene.heard = scene'.heard) : scene = scene' ∧ Agree u w := by
  cases left with
  | @taken t sight works =>
      cases right with
      | @taken t' sight' works' =>
          obtain ⟨heard, answers, seen⟩ := (Transport.Agree.refl coherent).heard stimuli
          obtain ⟨heard', answers', seen'⟩ := agree.transport.symm.heard stimuli'
          simp only at same
          rw [same] at heard answers seen
          have stimulated : Agree { s with transport := (s.transport.stimulateAll stimuli).1 }
              { r with transport := (r.transport.stimulateAll stimuli').1 } :=
            ⟨heard.trans heard'.symm, agree.scripts⟩
          obtain ⟨rfl, worked⟩ := works.confluent works' stimulated
            ((leads_stimulateAll stimuli _).coherent coherent)
            ((leads_stimulateAll stimuli' _).coherent coherent')
          obtain ⟨received, commands⟩ := worked.transport.receiveAll
          rw [same, answers.trans answers'.symm, seen.trans seen'.symm, commands]
          exact ⟨rfl, received, worked.scripts⟩

/-! ## Between turns -/

theorem Turns.waits {stimuli : List (Stimulus H)} {scene : Scene H} (turns : Turns s stimuli scene u)
    (coherent : Coherent s.transport) : Waits u.transport where
  coherent := turns.leads.coherent coherent
  rest := by
    cases turns with
    | @taken t sight works =>
        intro n
        have rest := works.atRest n
        cases n with
        | zero => rfl
        | succ n =>
            simp only [isIdle, attempt?, receiveAll, List.getElem?_map] at rest ⊢
            cases found : t.transport.attempts[n]? <;> simp_all [Attempt.next?]
  received := by
    cases turns with
    | taken => simp [receiveAll]

theorem Plays.waits {scenes : List (Scene H)} (plays : Plays s scenes u)
    (waits : Waits s.transport) : Waits u.transport := by
  induction plays with
  | start => exact waits
  | turn _ turns ih => exact turns.waits ih.coherent

theorem turns_nothing (waits : Waits s.transport) : Turns s [] ⟨[], .nothing⟩ s := by
  have turns : Turns s [] ⟨[], [], .nothing, s.transport.receiveAll.2⟩
    { s with transport := s.transport.receiveAll.1 } := .taken (.rest waits.rest)
  rwa [waits.receiveAll] at turns

/-- A turn in which nothing counts is as if nothing was done. -/
theorem Turns.unheard {stimuli : List (Stimulus H)} {scene : Scene H}
    (turns : Turns s stimuli scene u) (waits : Waits s.transport) (quiet : scene.heard = []) :
    scene.view = .nothing ∧ Agree u s := by
  obtain ⟨rfl, agree⟩ := turns.alike (turns_nothing waits) (.refl waits.coherent) waits.coherent
    waits.coherent quiet
  exact ⟨rfl, agree⟩

/-! ## Plays -/

theorem Plays.quiet {scenes : List (Scene H)} {scene : Scene H} (plays : Plays s scenes u)
    (waits : Waits s.transport) (member : scene ∈ scenes) (quiet : scene.heard = []) :
    scene.view = .nothing := by
  induction plays with
  | start => cases member
  | turn before turns ih =>
      rcases List.mem_append.mp member with earlier | now
      · exact ih earlier
      · obtain rfl := List.mem_singleton.mp now
        exact (turns.unheard (before.waits waits) quiet).1

/-- A play without the turns in which nothing counted, and up to what they changed. Two plays in
    which the same counts need not be as long, but condensed they go turn by turn. -/
inductive Condensed (s : Scripted H) : List (Scene H) → Scripted H → Prop where
  | start {u : Scripted H} (agree : Agree s u) : Condensed s [] u
  | turn {t u w : Scripted H} {scenes : List (Scene H)} {scene : Scene H}
      {stimuli : List (Stimulus H)} (before : Condensed s scenes t) (waits : Waits t.transport)
      (turns : Turns t stimuli scene u) (agree : Agree u w) : Condensed s (scenes ++ [scene]) w

theorem Condensed.trans {scenes : List (Scene H)} (condensed : Condensed s scenes u)
    (agree : Agree u w) : Condensed s scenes w := by
  cases condensed with
  | start first => exact .start (first.trans agree)
  | turn before waits turns first => exact .turn before waits turns (first.trans agree)

theorem Plays.condensed {scenes : List (Scene H)} (plays : Plays s scenes u)
    (waits : Waits s.transport) : Condensed s (scenes.filter Scene.counts) u := by
  induction plays with
  | start => exact .start (.refl waits.coherent)
  | @turn t u scenes scene stimuli before turns ih =>
      have waits' := before.waits waits
      rw [List.filter_append]
      cases counts : scene.counts with
      | true =>
          rw [List.filter_cons_of_pos counts]
          exact .turn ih waits' turns (.refl (turns.waits waits'.coherent).coherent)
      | false =>
          have quiet : scene.heard = [] := by simpa [Scene.counts] using counts
          rw [List.filter_cons_of_neg (by simp [counts]), List.filter_nil, List.append_nil]
          exact ih.trans (turns.unheard waits' quiet).2.symm

/-- Plays in which the same counts come to the same. -/
theorem Condensed.alike {scenes scenes' : List (Scene H)} (left : Condensed s scenes u)
    (right : Condensed s scenes' w) (same : scenes.map Scene.heard = scenes'.map Scene.heard) :
    scenes = scenes' ∧ Agree u w := by
  induction left generalizing scenes' w with
  | start agree =>
      cases right with
      | start agree' => exact ⟨rfl, agree.symm.trans agree'⟩
      | turn => simp at same
  | turn before waits turns agree ih =>
      cases right with
      | start => simp at same
      | turn before' waits' turns' agree' =>
          rw [List.map_append, List.map_append] at same
          obtain ⟨earlier, last⟩ := List.append_inj' same rfl
          obtain ⟨rfl, between⟩ := ih before' earlier
          obtain ⟨rfl, after⟩ := turns.alike turns' between waits.coherent waits'.coherent
            (List.singleton_inj.mp last)
          exact ⟨rfl, (agree.symm.trans after).trans agree'⟩

/-- Whenever something is done from outside in a play, the attempts that are over are those that were
    aborted and those whose handlers were told of their end. -/
theorem Plays.isOver_iff {settings : Settings} {scripts : List (H × Script H)}
    {scenes : List (Scene H)} (plays : Plays ⟨ofSettings settings, scripts⟩ scenes u)
    (done : List (Stimulus H)) :
    ∃ seen : History H, Reaches settings seen (u.transport.stimulateAll done).1 ∧
      ∀ n a, (u.transport.stimulateAll done).1.attempt? n = some a →
        ((u.transport.stimulateAll done).1.isOver n = true ↔
          seen.isCutShort n = true ∨ ∃ clean, .onDisconnect clean ∈ seen.callbacks n) := by
  have waits := plays.waits (ofSettings_waits settings)
  have ready := waits.rest.ready.stimulateAll waits.coherent done
  obtain ⟨seen, reached⟩ := plays.leads.trans (leads_stimulateAll done u.transport)
  refine ⟨seen, reached, fun n a found => Reaches.isOver_iff reached found fun failed => ?_⟩
  rcases ready n a found with standing | standing <;> simp [standing] at failed

def scene (s : Scripted H) (stimuli : List (Stimulus H)) : Scene H :=
  ⟨s.transport.heard stimuli,
    Transport.answers stimuli (s.turn stimuli).2.responses, (s.turn stimuli).2.sight,
    (s.turn stimuli).2.commands⟩

def play (s : Scripted H) : List (List (Stimulus H)) → List (Scene H) × Scripted H
  | [] => ([], s)
  | stimuli :: rest =>
    let (scenes, u) := (s.turn stimuli).1.play rest
    (s.scene stimuli :: scenes, u)

theorem Turns.then {stimuli : List (Stimulus H)} {scene : Scene H} {scenes : List (Scene H)}
    (turns : Turns s stimuli scene r) (plays : Plays r scenes u) : Plays s (scene :: scenes) u := by
  induction plays with
  | start => exact Plays.start.turn turns
  | turn _ later ih => exact ih.turn later

/-- Whatever is done from outside, there is a play in which it is done. -/
theorem plays_play (waits : Waits s.transport) (batches : List (List (Stimulus H))) :
    Plays s (s.play batches).1 (s.play batches).2 := by
  induction batches generalizing s with
  | nil => exact .start
  | cons stimuli rest ih =>
      have turns := turns_turn waits.coherent waits.rest stimuli
      exact turns.then (ih (turns.waits waits.coherent))

/-- What is the same in two plays of a transport in which the same counts. Everything that anybody
    can see is the same, and the transports end up the same but for attempts that are over. -/
structure Isolated (scenes scenes' : List (Scene H)) (u w : Scripted H) : Prop where
  /-- Where something counted, the callers were told the same, the handlers were called with the same,
      the same attempts were launched, and the sockets received the same commands. -/
  counted : scenes.filter Scene.counts = scenes'.filter Scene.counts
  quiet : ∀ scene ∈ scenes ++ scenes', scene.heard = [] → scene.view = .nothing
  link : u.transport.link = w.transport.link
  live : u.transport.link.isActive = true →
    u.transport.attempt? u.transport.link.attempt = w.transport.attempt? w.transport.link.attempt
  scripts : u.scripts = w.scripts
  /-- A late event neither opens nor ends a later attempt, nor is it delivered to its handler. -/
  late : ∀ n e scene r, u.transport.isOver n = true → Turns u [.emit n e] scene r →
    scene.view = .nothing ∧ r.transport.link = u.transport.link

/-- Whatever the sockets of attempts that are over emit, and however the dispatchers take turns, it
    makes no difference to callers, handlers and the other sockets. Both plays are compared with the
    one in which only what counts was done. -/
theorem Plays.isolated {settings : Settings} {scripts : List (H × Script H)}
    {scenes scenes' : List (Scene H)} (left : Plays ⟨ofSettings settings, scripts⟩ scenes u)
    (right : Plays ⟨ofSettings settings, scripts⟩ scenes' w)
    (same : (scenes.filter Scene.counts).map Scene.heard =
      (scenes'.filter Scene.counts).map Scene.heard) : Isolated scenes scenes' u w := by
  have waits := ofSettings_waits (H := H) settings
  obtain ⟨counted, agree⟩ := (left.condensed waits).alike (right.condensed waits) same
  constructor
  case counted => exact counted
  case quiet =>
    intro scene member quiet
    rcases List.mem_append.mp member with here | there
    · exact left.quiet waits here quiet
    · exact right.quiet waits there quiet
  case link => exact agree.transport.link
  case live =>
    rw [Link.isActive_eq]
    exact agree.transport.live
  case scripts => exact agree.scripts
  case late =>
    intro n e scene r gone turns
    have quiet : scene.heard = [] := by
      cases turns with
      | taken => simp [heard, hears, gone]
    obtain ⟨unseen, after⟩ := turns.unheard (left.waits waits) quiet
    exact ⟨unseen, after.transport.link⟩

/-- The first attempt is aborted, and its socket goes on to emit events, before the abort is noticed
    and while the second attempt is made. -/
def lateStimuli : List (List (Stimulus Nat)) :=
  [[.perform (.connect 1)],
    [.perform .abort, .emit 1 .opened, .emit 1 (.message (.text "late"))],
    [.perform (.connect 2), .emit 1 (.closed normalClosure "late")],
    [.emit 1 (.failure "late"), .drop 1 true false],
    [.emit 2 .opened, .perform .isOpen]]

def promptStimuli : List (List (Stimulus Nat)) :=
  [[.perform (.connect 1)], [.perform .abort], [.perform (.connect 2)],
    [.emit 2 .opened, .perform .isOpen]]

theorem isolated_of_late :
    (play ⟨ofSettings .plain, []⟩ lateStimuli).1.map Scene.heard =
        [[.perform (.connect 1)], [.perform .abort], [.perform (.connect 2)], [],
          [.emit 2 .opened, .perform .isOpen]] ∧
      Isolated (play ⟨ofSettings .plain, []⟩ lateStimuli).1 (play ⟨ofSettings .plain, []⟩ promptStimuli).1
        (play ⟨ofSettings .plain, []⟩ lateStimuli).2 (play ⟨ofSettings .plain, []⟩ promptStimuli).2 := by
  have waits := ofSettings_waits (H := Nat) .plain
  have same : ((play ⟨ofSettings .plain, []⟩ lateStimuli).1.filter Scene.counts).map Scene.heard =
      ((play ⟨ofSettings .plain, []⟩ promptStimuli).1.filter Scene.counts).map Scene.heard := by
    decide +kernel
  exact ⟨by decide +kernel, Plays.isolated (plays_play waits _) (plays_play waits _) same⟩

end Scripted

end WampClient
