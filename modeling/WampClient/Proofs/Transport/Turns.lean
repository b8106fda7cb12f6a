import WampClient.Proofs.Transport.Ended
import WampClient.Proofs.Transport.Phase
import WampClient.Transport.Scripted

/-! # Turns

In a turn, callers and sockets act first, and then the dispatchers work until none of them has
anything left to do. A dispatcher that finds both an event and an abort takes whichever it likes, so
that a turn can be taken in several ways. All that is done in a turn are moves of the transport.
-/

namespace WampClient

/-! ## What counts in a turn -/

deriving instance DecidableEq for Stimulus

def Stimulus.answer? {H : Type} : Stimulus H → Response → Option Answer
  | .perform _, .answer answer => some answer
  | _, _ => none

namespace Transport

variable {H : Type}

/-- Attempt `n` has begun, and it was aborted since or its handler was told of its end. -/
def isOver (t : Transport H) (n : Nat) : Bool :=
  (t.attempt? n).isSome && (n ≠ t.link.attempt || !t.link.isActive)

/-- What is left of a stimulus when the events of attempts that are over do not count. The commands
    of such an attempt still do, as what its socket receives can be seen. -/
def hears (t : Transport H) : Stimulus H → Option (Stimulus H)
  | .perform op => some (.perform op)
  | .emit n e => if t.isOver n then none else some (.emit n e)
  | .drop n events commands =>
    if !t.isOver n then some (.drop n events commands)
    else if commands then some (.drop n false true)
    else none

def heard (t : Transport H) : List (Stimulus H) → List (Stimulus H)
  | [] => []
  | x :: rest => (t.hears x).toList ++ (t.stimulate x).1.heard rest

/-- What the callers are told, out of what comes of all stimuli. -/
def answers (stimuli : List (Stimulus H)) (responses : List Response) : List Answer :=
  (stimuli.zip responses).filterMap fun (x, response) => x.answer? response

def AtRest (t : Transport H) : Prop :=
  ∀ n, t.isIdle n = true

end Transport

/-- What is to be seen of a turn: what callers were told, the calls of handlers and the launches, and
    the commands that the sockets received. -/
structure View (H : Type) where
  answers : List Answer
  sight : Sight H
  commands : List (Nat × Command)

def View.nothing {H : Type} : View H := ⟨[], .nothing, []⟩

/-- A turn, by the stimuli that count and what is to be seen of it. -/
structure Scene (H : Type) where
  heard : List (Stimulus H)
  view : View H

/-- Something that counts was done. -/
def Scene.counts {H : Type} (scene : Scene H) : Bool :=
  !scene.heard.isEmpty

namespace Scripted

variable {H : Type} [DecidableEq H]

/-- The dispatcher of attempt `n` calls the handler if that is due, and does what follows. -/
def respond (s : Scripted H) (n : Nat) : Scripted H × Sight H :=
  match s.transport.attempt? n with
  | some a =>
    match a.dispatcher with
    | .calling c => s.carryOut n a.handler c
    | _ => (s, .nothing)
  | none => (s, .nothing)

/-- A dispatcher takes an event or notices an abort, and does all that follows from it, up to the
    point at which it looks for the next event. -/
inductive Round (s : Scripted H) : Sight H → Scripted H → Prop where
  | made {n : Nat} {t u : Transport H} {notes : List (Transport.Note H)}
      (first : s.transport.take n = some t ∨ s.transport.notice n = some t)
      (applied : t.applyHeld n = some (u, notes)) :
      Round s ({ s with transport := u }.respond n).2 ({ s with transport := u }.respond n).1

/-- The dispatchers work until nothing is left to do. -/
inductive Works : Scripted H → Sight H → Scripted H → Prop where
  | rest {s : Scripted H} (rest : s.transport.AtRest) : Works s .nothing s
  | round {s t u : Scripted H} {first more : Sight H} (round : Round s first t)
      (works : Works t more u) : Works s (first ++ more) u

inductive Turns (s : Scripted H) (stimuli : List (Stimulus H)) : Scene H → Scripted H → Prop where
  | taken {t : Scripted H} {sight : Sight H}
      (works : Works { s with transport := (s.transport.stimulateAll stimuli).1 } sight t) :
      Turns s stimuli
        ⟨s.transport.heard stimuli,
          Transport.answers stimuli (s.transport.stimulateAll stimuli).2.1,
          (s.transport.stimulateAll stimuli).2.2 ++ sight, t.transport.receiveAll.2⟩
        { t with transport := t.transport.receiveAll.1 }

/-- Turns are taken one after the other. -/
inductive Plays (s : Scripted H) : List (Scene H) → Scripted H → Prop where
  | start : Plays s [] s
  | turn {t u : Scripted H} {scenes : List (Scene H)} {scene : Scene H} {stimuli : List (Stimulus H)}
      (before : Plays s scenes t) (turns : Turns t stimuli scene u) : Plays s (scenes ++ [scene]) u

end Scripted

/-! ## Attempts that are over -/

namespace Transport

variable {H : Type} {t : Transport H} {n : Nat} {a : Attempt H} {l : Life H} {settings : Settings}
  {seen : History H}

theorem Shows.isOver_eq (shows : t.Shows n l) : t.isOver n = !l.phase.isActive := by
  obtain ⟨found, phase⟩ := shows
  split at phase
  · subst n
    simp [isOver, found, phase.1, Link.isActive_eq]
  · rename_i other
    simp [isOver, found, other, phase, Phase.isActive]

theorem Life.Run.told_iff {h : H} (run : Life.Run n h seen l) :
    (∃ clean, .onDisconnect clean ∈ seen.callbacks n) ↔ l.attempt.dispatcher.hasTold = true := by
  constructor
  · rintro ⟨clean, told⟩
    refine Classical.byContradiction fun untold => ?_
    have unended := (run.tells.opening (by simpa using untold)).unended
    exact List.countP_eq_zero.mp unended _ told rfl
  · intro hasTold
    have inactive : l.phase.isActive = false :=
      Bool.eq_false_iff.mpr fun active => by simp [run.sound.untold active] at hasTold
    have whole : Callback.Whole (seen.callbacks n) := by
      have tells := run.tells
      cases phase : l.phase with
      | idle => exact absurd phase run.sound.stands.begun
      | connecting | opened | closing => simp [phase, Phase.isActive] at inactive
      | draining | closed => simpa [Life.Tells, phase, hasTold] using tells
    generalize seen.callbacks n = told at whole
    cases whole with
    | told opening clean => exact ⟨clean, by simp⟩

/-- What it is for an attempt to be over, as callers and handlers have seen it. -/
theorem Reaches.isOver_iff (reached : Reaches settings seen t) (found : t.attempt? n = some a)
    (unfailed : a.dispatcher ≠ .failed) : t.isOver n = true ↔
      seen.isCutShort n = true ∨ ∃ clean, .onDisconnect clean ∈ seen.callbacks n := by
  obtain ⟨h, l, run, shows⟩ := reached.life found
  obtain rfl := shows.attempt_eq found
  rw [shows.isOver_eq, ← isCutShort_about, ← callbacks_about, run.told_iff]
  cases hasTold : l.attempt.dispatcher.hasTold with
  | true =>
      have inactive : l.phase.isActive = false :=
        Bool.eq_false_iff.mpr fun active => by simp [run.sound.untold active] at hasTold
      simp [inactive]
  | false =>
      rw [run.cut_iff hasTold]
      simp [Life.Ends, unfailed]

end Transport

/-! ## Turns are made of moves -/

namespace Transport

variable {H : Type} {t u v : Transport H} {n : Nat}

def Leads (t u : Transport H) : Prop :=
  ∃ seen, Run t seen u

theorem Leads.refl (t : Transport H) : Leads t t :=
  ⟨[], .refl⟩

theorem Leads.trans (first : Leads t u) (second : Leads u v) : Leads t v := by
  obtain ⟨_, first⟩ := first
  obtain ⟨_, second⟩ := second
  exact ⟨_, first.trans second⟩

theorem Leads.move {notes : History H} (m : Move H) (made : t.step? m = some (u, notes)) :
    Leads t u :=
  ⟨_, Run.refl.step m made⟩

theorem Leads.coherent (leads : Leads t u) (coherent : Coherent t) : Coherent u := by
  obtain ⟨_, run⟩ := leads
  exact run.coherent coherent

theorem launchBegun_eq (t : Transport H) : t.launchBegun =
    if t.dispatcher? t.link.attempt = some .begun then
      (t.setDispatcher t.link.attempt .waiting, ⟨[], [t.link.attempt]⟩)
    else (t, .nothing) := by
  unfold launchBegun launch Transport.dispatcher?
  cases t.attempt? t.link.attempt with
  | none => rfl
  | some a => by_cases begun : a.dispatcher = .begun <;> simp [begun]

theorem leads_launchBegun (t : Transport H) : Leads t t.launchBegun.1 := by
  unfold launchBegun
  split
  · rename_i u notes launched
    exact .move (.launch _) launched
  · exact .refl t

theorem leads_act (t : Transport H) (op : Operation H) : Leads t (t.act op).1 :=
  (Leads.move (.perform op) (step?_perform t op)).trans (leads_launchBegun _)

theorem leads_follow (actions : List (Action H)) (t : Transport H) : Leads t (t.follow actions).1 := by
  induction actions generalizing t with
  | nil => exact .refl t
  | cons action rest ih =>
      cases action with
      | fail message => exact .refl t
      | perform op required =>
          simp only [follow]
          split
          · exact leads_act t op
          · exact (leads_act t op).trans (ih _)

theorem leads_finish (t : Transport H) (n : Nat) (failure : Option Error) :
    Leads t (((t.finish n failure).map Prod.fst).getD t) := by
  cases finished : t.finish n failure with
  | none => exact .refl t
  | some next => exact .move (.finish n failure) finished

theorem leads_afterwards (t : Transport H) (n : Nat) : Leads t (t.afterwards n).1 := by
  unfold afterwards
  split
  · rename_i u notes aborted
    exact .move (.abortFailed n) aborted
  · split
    · rename_i u notes settled
      exact (Leads.move (.settle n) settled).trans (leads_launchBegun u)
    · exact .refl t

theorem leads_applied {notes : History H} (first : t.take n = some u ∨ t.notice n = some u)
    (applied : u.applyHeld n = some (v, notes)) : Leads t v := by
  have applies : Leads u v := .move (.applyHeld n) applied
  rcases first with taken | noticed
  · have made : t.step? (.take n) = some (u, []) := by simp [step?, taken]
    exact (Leads.move _ made).trans applies
  · have made : t.step? (.notice n) = some (u, []) := by simp [step?, noticed]
    exact (Leads.move _ made).trans applies

theorem leads_emit (t : Transport H) (n : Nat) (e : Event) : Leads t (t.emit n e).1 := by
  cases emitted : t.emit n e with
  | mk u delivery =>
      cases delivery with
      | delivered =>
          have made : t.step? (.emit n e) = some (u, [.emitted n e]) := by simp [step?, emitted]
          exact .move _ made
      | notDelivered | dropped | noSuchAttempt =>
          have unmoved : u = t := by
            unfold emit at emitted
            grind
          exact unmoved ▸ .refl t

theorem isLaunched_endEvents (t : Transport H) (n : Nat) :
    (t.endEvents n).isLaunched n = t.isLaunched n := by
  simp only [isLaunched, endEvents, attempt?_update, if_true]
  cases t.attempt? n <;> rfl

theorem leads_drop (launched : t.isLaunched n = true) (events commands : Bool) :
    Leads t (t.drop n events commands) := by
  have ends_commands {u : Transport H} (launched : u.isLaunched n = true) :
      Leads u (if commands then u.endCommands n else u) := by
    split
    · have made : u.step? (.endCommands n) = some (u.endCommands n, [.commandsEnded n]) :=
        if_pos launched
      exact .move _ made
    · exact .refl u
  cases events with
  | false => exact ends_commands launched
  | true =>
      have made : t.step? (.endEvents n) = some (t.endEvents n, [.eventsEnded n]) := if_pos launched
      exact (Leads.move _ made).trans (ends_commands ((isLaunched_endEvents t n).trans launched))

theorem leads_stimulate (t : Transport H) (x : Stimulus H) : Leads t (t.stimulate x).1 := by
  cases x with
  | perform op => exact leads_act t op
  | emit n e => exact leads_emit t n e
  | drop n events commands =>
      simp only [stimulate]
      split
      · rename_i launched
        exact leads_drop launched events commands
      · exact .refl t

theorem leads_stimulateAll (stimuli : List (Stimulus H)) (t : Transport H) :
    Leads t (t.stimulateAll stimuli).1 := by
  induction stimuli generalizing t with
  | nil => exact .refl t
  | cons x rest ih => exact (leads_stimulate t x).trans (ih _)

/-! ### Sockets receive their commands -/

theorem leads_received {a : Attempt H} (found : t.attempt? n = some a) :
    Leads t (t.update n ({ · with commands := [] })) := by
  induction queue : a.commands generalizing t a with
  | nil =>
      have kept : t.update n ({ · with commands := [] }) = t.update n id :=
        update_congr found (by rw [← queue, id])
      rw [kept, update_id]
      exact .refl t
  | cons c rest ih =>
      have made : t.step? (.receive n) =
          some (t.update n ({ · with commands := rest }), [.received n c]) := by
        simp [step?, receive, found, queue]
      have found' : (t.update n ({ · with commands := rest })).attempt? n =
          some { a with commands := rest } := by
        simp [attempt?_update, found]
      have later := ih found' rfl
      rw [update_update] at later
      exact (Leads.move _ made).trans later

def receiveFirst (t : Transport H) (k : Nat) : Transport H :=
  { t with attempts := (t.attempts.take k).map ({ · with commands := [] }) ++ t.attempts.drop k }

theorem leads_receiveFirst (t : Transport H) (k : Nat) (bound : k ≤ t.attempts.length) :
    Leads t (t.receiveFirst k) := by
  induction k with
  | zero => exact .refl t
  | succ k ih =>
      have next : (t.receiveFirst k).attempt? (k + 1) = some t.attempts[k] := by
        simp [receiveFirst, attempt?, List.getElem?_append, Nat.min_eq_left (Nat.le_of_lt bound)]
      have received : (t.receiveFirst k).update (k + 1) ({ · with commands := [] }) =
          t.receiveFirst (k + 1) := by
        simp only [update, receiveFirst]
        congr 1
        apply List.ext_getElem?
        intro i
        simp only [List.getElem?_modify, List.getElem?_append, List.getElem?_map,
          List.getElem?_take, List.getElem?_drop, List.length_map, List.length_take,
          Nat.min_eq_left bound, Nat.min_eq_left (Nat.le_of_lt bound)]
        rcases Nat.lt_trichotomy i k with before | rfl | after
        · simp [before, Nat.lt_succ_of_lt before, Nat.ne_of_gt before]
        · simp
        · have beyond : ¬ i < k + 1 := Nat.not_lt.mpr after
          simp [Nat.lt_asymm after, beyond, Nat.ne_of_lt after, Nat.add_sub_cancel' after,
            Nat.add_sub_cancel' (Nat.le_of_lt after)]
      exact received ▸ (ih (Nat.le_of_lt bound)).trans (leads_received next)

theorem leads_receiveAll (t : Transport H) : Leads t t.receiveAll.1 := by
  have all : t.receiveFirst t.attempts.length = t.receiveAll.1 := by
    simp [receiveFirst, receiveAll]
  exact all ▸ leads_receiveFirst t _ (Nat.le_refl _)

end Transport

namespace Scripted

open Transport

variable {H : Type} [DecidableEq H] {s u : Scripted H} {sight : Sight H}

theorem leads_carryOut (s : Scripted H) (n : Nat) (h : H) (c : Callback) :
    Leads s.transport (s.carryOut n h c).1.transport :=
  ((leads_follow _ s.transport).trans (leads_finish _ n _)).trans (leads_afterwards _ n)

theorem leads_respond (s : Scripted H) (n : Nat) : Leads s.transport (s.respond n).1.transport := by
  unfold respond
  split
  · split
    · exact leads_carryOut s n _ _
    · exact .refl _
  · exact .refl _

theorem Round.leads (round : Round s sight u) : Leads s.transport u.transport := by
  cases round with
  | @made n t u notes first applied =>
      exact (leads_applied first applied).trans (leads_respond { s with transport := u } n)

theorem Works.leads (works : Works s sight u) : Leads s.transport u.transport := by
  induction works with
  | rest => exact .refl _
  | round round _ ih => exact round.leads.trans ih

theorem Works.atRest (works : Works s sight u) : u.transport.AtRest := by
  induction works with
  | rest rest => exact rest
  | round _ _ ih => exact ih

theorem Turns.leads {stimuli : List (Stimulus H)} {scene : Scene H} (turns : Turns s stimuli scene u) :
    Leads s.transport u.transport := by
  cases turns with
  | taken works =>
      exact ((leads_stimulateAll stimuli s.transport).trans works.leads).trans (leads_receiveAll _)

theorem Plays.leads {scenes : List (Scene H)} (plays : Plays s scenes u) :
    Leads s.transport u.transport := by
  induction plays with
  | start => exact .refl _
  | turn _ turns ih => exact ih.trans turns.leads

end Scripted

end WampClient
