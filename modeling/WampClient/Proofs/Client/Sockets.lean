import WampClient.Proofs.Client.Change
import WampClient.Proofs.Socket.Events
import WampClient.Proofs.Transport.Connects
import WampClient.Proofs.Transport.Delivery
import WampClient.Proofs.Transport.Ended

/-! # From a socket to its transport

What a socket emits is queued for the dispatcher of its attempt in the same order. Nothing of it is
lost before that dispatcher is done, and it is done early only if the attempt was cut short: else the
socket is over by then.
-/

namespace WampClient

namespace Transport

variable {H : Type} {t v : Transport H} {n : Nat} {a : Attempt H} {settings : Settings}
  {seen notes : History H}

section life

variable {h : H} {k l : Life H}

theorem Life.Run.eventsEnded_of_silent (run : Life.Run n h seen l) (silent : l.attempt.emits = false) :
    .eventsEnded n ∈ seen := by
  induction run with
  | begun => cases silent
  | @step seen more l m before step ih =>
      have earlier (there : l.attempt.emits = false) : .eventsEnded n ∈ seen ++ more :=
        List.mem_append_left _ (ih there)
      cases step with
      | eventsEnded => simp
      | _ => exact earlier (by simpa [Life.on, Life.cancel] using silent)

theorem Life.Path.isLaunched (path : Life.Path n k seen l) (launched : k.attempt.isLaunched = true) :
    l.attempt.isLaunched = true := by
  induction path with
  | refl => exact launched
  | step _ step ih =>
      rcases step.launches with ⟨_, same⟩ | ⟨_, launched, _⟩
      · exact same.trans ih
      · exact launched

theorem Life.Run.hasTold (run : Life.Run n h seen l) {clean : Bool}
    (told : .onDisconnect clean ∈ seen.callbacks n) : l.attempt.dispatcher.hasTold = true := by
  rcases run.tells.opening_or_whole with opening | ⟨hasTold, _⟩
  · have unended := List.countP_eq_zero.mp opening.unended _ told
    exact absurd rfl unended
  · exact hasTold

end life

theorem isLaunched_eq (found : t.attempt? n = some a) : t.isLaunched n = a.isLaunched := by
  simp [isLaunched, found]

theorem Run.isLaunched (run : Run t seen v) (coherent : Coherent t) (launched : t.isLaunched n = true) :
    v.isLaunched n = true := by
  obtain ⟨a, found, was⟩ := isLaunched_cases launched
  obtain ⟨k, shows, _⟩ := coherent.lives n a found
  obtain ⟨l, path, shows'⟩ := run.path coherent shows
  rw [isLaunched_eq shows'.1]
  exact path.isLaunched (shows.attempt_eq found ▸ was)

theorem Reaches.eventsEnded_of_silent (reached : Reaches settings seen t)
    (found : t.attempt? n = some a) (silent : a.emits = false) : .eventsEnded n ∈ seen := by
  obtain ⟨h, l, run, shows⟩ := reached.life found
  have ended := run.eventsEnded_of_silent (shows.attempt_eq found ▸ silent)
  exact (List.mem_filter.mp ended).1

theorem launch_isLaunched (made : t.launch n = some (v, notes)) : v.isLaunched n = true := by
  unfold launch at made
  split at made
  · rename_i a found
    split at made
    · cases made
      simp [isLaunched, setDispatcher, attempt?_update, found, Attempt.isLaunched]
    · cases made
  · cases made

theorem step?_eventsEnded {m : Move H} (made : t.step? m = some (v, notes))
    (ended : .eventsEnded n ∈ notes) : m = .endEvents n := by
  cases step?_moved made with
  | performed op =>
      have own := List.mem_append.mp ended
      rcases own with effect | performed
      · have effects := List.all_eq_true.mp (isEffect_run t op) _ effect
        cases effects
      · simp at performed
  | dispatched _ moved =>
      cases moved with
      | launched | taken | noticed | returned | settled => simp at ended
      | aborted =>
          have effects := List.all_eq_true.mp (isEffect_carryOutAll ..) _ ended
          cases effects
      | applied e =>
          rcases List.mem_cons.mp ended with same | called
          · cases same
          · obtain ⟨c, same⟩ := mem_calls called
            cases same
  | socketed _ moved =>
      cases moved with
      | emitted | commandsEnded | received => simp at ended
      | eventsEnded =>
          cases List.mem_singleton.mp ended
          rfl

/-- What the socket of attempt `n` emits now is queued. -/
def Listens (t : Transport H) (n : Nat) : Prop :=
  ∃ a, t.attempt? n = some a ∧ a.isLaunched = true ∧ a.emits = true ∧ a.dispatcher ≠ .done

theorem Listens.emit (listens : t.Listens n) (e : Event) :
    (t.emit n e).2 = .delivered ∧ (t.emit n e).1.Listens n := by
  obtain ⟨a, found, launched, emits, working⟩ := listens
  have queued : t.emit n e = (t.update n ({ · with events := a.events ++ [e] }), .delivered) := by
    simp [Transport.emit, found, launched, emits, working]
  rw [queued]
  refine ⟨rfl, { a with events := a.events ++ [e] }, ?_, launched, emits, working⟩
  simp [attempt?_update, found]

end Transport

namespace Client

variable {H : Type} {c d : Client H} {seen notes : History H} {settings : Settings} {n : Nat}
  {t : Transport H}

def History.inputs (history : History H) (n : Nat) : List Socket.Input :=
  history.filterMap fun
    | .socket m i _ => if m = n then some i else none
    | .transport _ | .started _ _ => none

theorem History.inputs_append (a b : History H) (n : Nat) : inputs (a ++ b) n = inputs a n ++ inputs b n :=
  List.filterMap_append

theorem History.inputs_map (notes : Transport.History H) (n : Nat) :
    inputs (notes.map .transport) n = [] := by
  simp [inputs, List.filterMap_map]

/-- The events that the socket of attempt `n` has emitted, be they queued or not. -/
def History.events (history : History H) (n : Nat) : List Event :=
  Socket.emitted (history.outputs n)

theorem History.events_append (a b : History H) (n : Nat) : events (a ++ b) n = events a n ++ events b n := by
  rw [events, outputs_append, Socket.emitted_append]
  rfl

section deliver

variable {events : List Event}

theorem deliver_inputs (t : Transport H) (n : Nat) (events : List Event) (k : Nat) :
    History.inputs (deliver t n events).2 k = [] := by
  apply List.filterMap_eq_nil_iff.mpr
  intro note member
  obtain ⟨e, _, rfl⟩ := deliver_notes t n events note member
  rfl

theorem deliver_listens (listens : t.Listens n) :
    (History.transport (deliver t n events).2).emitted n = events := by
  induction events generalizing t with
  | nil => rfl
  | cons e rest ih =>
      obtain ⟨delivered, still⟩ := listens.emit e
      have queued : t.emit n e = ((t.emit n e).1, .delivered) := Prod.ext rfl delivered
      unfold deliver
      rw [queued]
      have first := Transport.History.emitted_append [.emitted n e]
        (History.transport (deliver (t.emit n e).1 n rest).2) n
      have now : Transport.History.emitted [(.emitted n e : Transport.Note H)] n = [e] := by
        simp [Transport.History.emitted]
      rw [now, ih still] at first
      exact first

theorem deliver_elsewhere (t : Transport H) (events : List Event) {k : Nat} (other : k ≠ n) :
    (History.transport (deliver t n events).2).emitted k = [] := by
  apply List.eq_nil_iff_forall_not_mem.mpr
  intro e member
  exact other (deliver_emitted t n events member).1

theorem deliver_unended {k : Nat} : .transport (.eventsEnded k) ∉ (deliver t n events).2 := by
  intro there
  obtain ⟨e, _, same⟩ := deliver_notes t n events _ there
  cases same

theorem deliver_done (done : t.dispatcher? n = some .done) : deliver t n events = (t, []) := by
  obtain ⟨a, found, standing⟩ := Transport.dispatcher?_cases done
  have lost (e : Event) : (t.emit n e).2 ≠ .delivered := by
    simp only [Transport.emit, found, Attempt.isLaunched, standing]
    cases a.emits <;> simp
  induction events with
  | nil => rfl
  | cons e rest ih =>
      unfold deliver
      split
      · rename_i u queued
        exact absurd (congrArg Prod.snd queued) (lost e)
      · exact ih

end deliver

/-- What sockets have emitted and what of it was queued. An event can only be lost on its way to a
    dispatcher that is done, and a dispatcher whose attempt was not cut short is done only once its
    socket is over. -/
structure Relayed (seen : History H) (c : Client H) : Prop where
  launched : ∀ n s, c.socket? n = some s → c.transport.isLaunched n = true
  unstarted : ∀ n, c.socket? n = none → seen.inputs n = [] ∧ seen.events n = []
  tells : ∀ n s, c.socket? n = some s →
    ∃ unusable, Socket.Tells unusable (seen.inputs n) (seen.events n) s.stage
  /-- A socket gives up its end of the event queue only when it is over. -/
  gone : ∀ n, .transport (.eventsEnded n) ∈ seen → c.isOver n = true
  relayed : ∀ n, c.transport.dispatcher? n ≠ some .done ∨ seen.transport.isCutShort n = false →
    seen.transport.emitted n = seen.events n
  prefixed : ∀ n, seen.transport.emitted n <+: seen.events n

theorem ofSettings_relayed (settings : Settings) : Relayed [] (ofSettings settings : Client H) := by
  have absent (n : Nat) : (ofSettings settings : Client H).socket? n = none := by cases n <;> rfl
  refine ⟨?_, fun _ _ => ⟨rfl, rfl⟩, ?_, nofun, fun _ _ => rfl, fun _ => List.prefix_refl _⟩
  · intro n s found
    cases (absent n).symm.trans found
  · intro n s found
    cases (absent n).symm.trans found

theorem mem_transport {note : Transport.Note H} : note ∈ seen.transport ↔ .transport note ∈ seen := by
  constructor
  · intro member
    obtain ⟨other, there, same⟩ := List.mem_filterMap.mp member
    cases other <;> simp_all
  · intro member
    exact List.mem_filterMap.mpr ⟨_, member, rfl⟩

theorem isOver_eq {s : Socket} (found : c.socket? n = some s) : c.isOver n = s.isOver := by
  simp [isOver, found]

theorem Relayed.over_of_terminal (relayed : Relayed seen c)
    (ended : ∃ e ∈ seen.events n, e.isTerminal = true) : c.isOver n = true := by
  obtain ⟨e, member, last⟩ := ended
  cases found : c.socket? n with
  | none =>
      rw [(relayed.unstarted n found).2] at member
      cases member
  | some s =>
      obtain ⟨unusable, tells⟩ := relayed.tells n s found
      rw [isOver_eq found]
      apply Classical.byContradiction
      intro running
      have unended := tells.unended (by simp_all [Socket.isOver]) e member
      simp [last] at unended

/-- The handler of an attempt that was not cut short is told of the end only when the socket is over. -/
theorem Relayed.over_of_told (relayed : Relayed seen c)
    (reached : Transport.Reaches settings seen.transport c.transport) {a : Attempt H}
    (uncut : seen.transport.isCutShort n = false) (found : c.transport.attempt? n = some a)
    (told : a.dispatcher.hasTold = true) : c.isOver n = true := by
  obtain ⟨h, l, run, shows⟩ := reached.life found
  obtain rfl := shows.attempt_eq found
  rw [← Transport.isCutShort_about] at uncut
  obtain ⟨_, silent | ⟨e, member, last⟩⟩ := (run.awaits uncut).told told
  · exact relayed.gone n (mem_transport.mp (reached.eventsEnded_of_silent found silent))
  · rw [Transport.emitted_about] at member
    exact relayed.over_of_terminal ⟨e, (relayed.prefixed n).subset member, last⟩

theorem working_before {own : Transport.History H} {past : Transport.History H} {k : Nat}
    (reached : Transport.Reaches settings past c.transport) (run : Transport.Run c.transport own t)
    (condition : t.dispatcher? k ≠ some .done ∨ (past ++ own).isCutShort k = false) :
    c.transport.dispatcher? k ≠ some .done ∨ past.isCutShort k = false := by
  rcases condition with working | uncut
  · exact .inl fun done => working (run.stays_done reached.coherent done).1
  · rw [Transport.History.isCutShort_append, Bool.or_eq_false_iff] at uncut
    exact .inr uncut.1

theorem Relayed.own {own : Transport.History H} (relayed : Relayed seen c)
    (reached : Transport.Reaches settings seen.transport c.transport)
    (run : Transport.Run c.transport own t) (unemitted : ∀ k, own.emitted k = [])
    (gone : ∀ k, .eventsEnded k ∈ own → c.isOver k = true) :
    Relayed (seen ++ own.map .transport) { c with transport := t } := by
  have events (k : Nat) : (seen ++ own.map Note.transport).events k = seen.events k := by
    rw [History.events_append, History.events, History.events, History.outputs_map]
    exact List.append_nil _
  have inputs (k : Nat) : (seen ++ own.map Note.transport).inputs k = seen.inputs k := by
    rw [History.inputs_append, History.inputs_map, List.append_nil]
  have emitted (k : Nat) :
      (seen ++ own.map Note.transport).transport.emitted k = seen.transport.emitted k := by
    rw [History.transport_append, History.transport_map, Transport.History.emitted_append, unemitted,
      List.append_nil]
  constructor
  case launched =>
    intro k s found
    exact run.isLaunched reached.coherent (relayed.launched k s found)
  case unstarted =>
    intro k absent
    rw [inputs, events]
    exact relayed.unstarted k absent
  case tells =>
    intro k s found
    rw [inputs, events]
    exact relayed.tells k s found
  case gone =>
    intro k ended
    rcases List.mem_append.mp ended with earlier | now
    · exact relayed.gone k earlier
    · exact gone k (by simpa using now)
  case relayed =>
    intro k condition
    rw [History.transport_append, History.transport_map] at condition
    rw [emitted, events]
    exact relayed.relayed k (working_before reached run condition)
  case prefixed =>
    intro k
    rw [emitted, events]
    exact relayed.prefixed k

structure Acts (note : Note H) (n : Nat) (inputs : List Socket.Input) (outputs : List Socket.Output) :
    Prop where
  transport : History.transport [note] = []
  inputs : ∀ k, History.inputs [note] k = if k = n then inputs else []
  outputs : ∀ k, History.outputs [note] k = if k = n then outputs else []

theorem acts_socket (n : Nat) (i : Socket.Input) (outputs : List Socket.Output) :
    Acts (.socket n i outputs : Note H) n [i] outputs := by
  refine ⟨rfl, fun k => ?_, fun k => ?_⟩
  · by_cases here : n = k
    · simp [History.inputs, here]
    · simp [History.inputs, here, Ne.symm here]
  · by_cases here : n = k
    · simp [History.outputs, here]
    · simp [History.outputs, here, Ne.symm here]

theorem acts_started (n : Nat) (outputs : List Socket.Output) :
    Acts (.started n outputs : Note H) n [] outputs := by
  refine ⟨rfl, fun k => ?_, fun k => ?_⟩
  · simp [History.inputs]
  · by_cases here : n = k
    · simp [History.outputs, here]
    · simp [History.outputs, here, Ne.symm here]

section acts

variable {note : Note H} {inputs : List Socket.Input} {outputs : List Socket.Output} {u : Socket}
  {sockets : List Socket}

theorem Acts.append_inputs (acts : Acts note n inputs outputs) (seen : History H) (t : Transport H)
    (events : List Event) (k : Nat) :
    (seen ++ note :: (deliver t n events).2).inputs k = seen.inputs k ++ if k = n then inputs else [] := by
  rw [List.append_cons, History.inputs_append, History.inputs_append, acts.inputs, deliver_inputs,
    List.append_nil]

theorem Acts.append_events (acts : Acts note n inputs outputs) (seen : History H) (t : Transport H)
    (events : List Event) (k : Nat) : (seen ++ note :: (deliver t n events).2).events k =
      seen.events k ++ if k = n then Socket.emitted outputs else [] := by
  rw [List.append_cons, History.events, History.outputs_append, History.outputs_append, acts.outputs,
    deliver_outputs, List.append_nil, Socket.emitted_append, History.events]
  split <;> rfl

theorem Acts.append_transport (acts : Acts note n inputs outputs) (seen notes : History H) :
    (seen ++ note :: notes).transport = seen.transport ++ History.transport notes := by
  rw [List.append_cons, History.transport_append, History.transport_append, acts.transport,
    List.append_nil]

theorem Relayed.delivers (relayed : Relayed seen c)
    (reached : Transport.Reaches settings seen.transport c.transport)
    (launched : c.transport.isLaunched n = true)
    (quiet : c.isOver n = true → Socket.emitted outputs = [])
    (working : c.transport.dispatcher? n ≠ some .done) :
    (History.transport (deliver c.transport n (Socket.emitted outputs)).2).emitted n =
      Socket.emitted outputs := by
  by_cases gone : c.isOver n = true
  · rw [quiet gone]
    rfl
  · obtain ⟨a, found, is_launched⟩ := Transport.isLaunched_cases launched
    refine deliver_listens ⟨a, found, is_launched, ?_, ?_⟩
    · apply Classical.byContradiction
      intro silent
      have ended := reached.eventsEnded_of_silent found (by simpa using silent)
      exact gone (relayed.gone n (mem_transport.mp ended))
    · intro done
      exact working (by simp [Transport.dispatcher?, found, done])

/-- Nothing that a socket emits is lost unless its attempt was cut short. -/
theorem Relayed.queued (relayed : Relayed seen c)
    (reached : Transport.Reaches settings seen.transport c.transport)
    (launched : c.transport.isLaunched n = true)
    (quiet : c.isOver n = true → Socket.emitted outputs = []) {k : Nat}
    (condition : c.transport.dispatcher? k ≠ some .done ∨ seen.transport.isCutShort k = false) :
    (History.transport (deliver c.transport n (Socket.emitted outputs)).2).emitted k =
      if k = n then Socket.emitted outputs else [] := by
  split
  · rename_i same
    subst same
    by_cases done : c.transport.dispatcher? k = some .done
    · obtain ⟨a, found, standing⟩ := Transport.dispatcher?_cases done
      have uncut := condition.resolve_left (absurd done)
      rw [quiet (relayed.over_of_told reached uncut found (by rw [standing]; rfl))]
      rfl
    · exact relayed.delivers reached launched quiet done
  · rename_i other
    exact deliver_elsewhere _ _ other

theorem Relayed.queued_prefix (relayed : Relayed seen c)
    (reached : Transport.Reaches settings seen.transport c.transport)
    (launched : c.transport.isLaunched n = true)
    (quiet : c.isOver n = true → Socket.emitted outputs = []) (k : Nat) :
    seen.transport.emitted k ++
        (History.transport (deliver c.transport n (Socket.emitted outputs)).2).emitted k <+:
      seen.events k ++ if k = n then Socket.emitted outputs else [] := by
  by_cases done : c.transport.dispatcher? k = some .done
  · have nothing : (History.transport (deliver c.transport n (Socket.emitted outputs)).2).emitted k =
        [] := by
      by_cases same : k = n
      · rw [deliver_done (same ▸ done)]
        rfl
      · exact deliver_elsewhere _ _ same
    rw [nothing, List.append_nil]
    exact (relayed.prefixed k).trans (List.prefix_append ..)
  · rw [relayed.queued reached launched quiet (.inl done)]
    exact relayed.relayed k (.inl done) ▸ List.prefix_refl _

theorem Relayed.acts (relayed : Relayed seen c)
    (reached : Transport.Reaches settings seen.transport c.transport) (acts : Acts note n inputs outputs)
    (placed : ∀ v k, (⟨v, sockets⟩ : Client H).socket? k = if k = n then some u else c.socket? k)
    (launched : c.transport.isLaunched n = true)
    (tells : ∃ unusable, Socket.Tells unusable (seen.inputs n ++ inputs)
      (seen.events n ++ Socket.emitted outputs) u.stage)
    (quiet : c.isOver n = true → Socket.emitted outputs = [] ∧ u.isOver = true) :
    Relayed (seen ++ note :: (deliver c.transport n (Socket.emitted outputs)).2)
      ⟨(deliver c.transport n (Socket.emitted outputs)).1, sockets⟩ := by
  have run := deliver_run c.transport n (Socket.emitted outputs)
  have silent (gone : c.isOver n = true) : Socket.emitted outputs = [] := (quiet gone).1
  constructor
  case launched =>
    intro k s found
    rw [placed] at found
    refine run.isLaunched reached.coherent ?_
    split at found
    · rename_i same
      rwa [same]
    · exact relayed.launched k s found
  case unstarted =>
    intro k absent
    rw [placed] at absent
    split at absent
    · cases absent
    · rename_i other
      rw [acts.append_inputs, acts.append_events, if_neg other, if_neg other, List.append_nil,
        List.append_nil]
      exact relayed.unstarted k absent
  case tells =>
    intro k s found
    rw [placed] at found
    rw [acts.append_inputs, acts.append_events]
    split at found
    · rename_i same
      cases found
      rw [if_pos same, if_pos same, same]
      exact tells
    · rename_i other
      rw [if_neg other, if_neg other, List.append_nil, List.append_nil]
      exact relayed.tells k s found
  case gone =>
    intro k ended
    rw [← mem_transport, acts.append_transport] at ended
    have earlier := (List.mem_append.mp ended).resolve_right fun now =>
      deliver_unended (mem_transport.mp now)
    have gone := relayed.gone k (mem_transport.mp earlier)
    by_cases same : k = n
    · subst same
      rw [isOver_eq ((placed _ k).trans (if_pos rfl))]
      exact (quiet gone).2
    · rwa [isOver, placed, if_neg same]
  case relayed =>
    intro k condition
    rw [acts.append_transport] at condition
    have before := working_before reached run condition
    rw [acts.append_transport, Transport.History.emitted_append, acts.append_events,
      relayed.relayed k before, relayed.queued reached launched silent before]
  case prefixed =>
    intro k
    rw [acts.append_transport, Transport.History.emitted_append, acts.append_events]
    exact relayed.queued_prefix reached launched silent k

/-- A socket that is over does nothing any more but see time pass. -/
theorem quiet_of_isOver {s : Socket} {i : Socket.Input} (found : c.socket? n = some s)
    (act : s.Act i u outputs) (gone : c.isOver n = true) :
    Socket.emitted outputs = [] ∧ u.isOver = true := by
  rw [isOver_eq found] at gone
  cases act with
  | ticked => exact ⟨rfl, gone⟩
  | shaken _ stage | toldEarly _ stage | told _ _ stage | read _ _ stage | pinged _ stage
  | unanswered _ stage | unclosed _ stage | wrote _ _ stage | unwritten _ _ _ stage =>
      simp [Socket.isOver, stage] at gone

theorem Relayed.tells_acted {s : Socket} {i : Socket.Input} (relayed : Relayed seen c)
    (found : c.socket? n = some s) (act : s.Act i u outputs) :
    ∃ unusable, Socket.Tells unusable (seen.inputs n ++ [i])
      (seen.events n ++ Socket.emitted outputs) u.stage := by
  obtain ⟨unusable, tells⟩ := relayed.tells n s found
  exact ⟨unusable, act.tells tells⟩

end acts

theorem step?_over {m : Move H} (made : c.step? m = some (d, notes))
    (ended : .transport (.eventsEnded n) ∈ notes) : c.isOver n = true := by
  have alone {k : Transport.Move H} (moved : c.withTransport (c.transport.step? k) = some (d, notes)) :
      k = .endEvents n := by
    obtain ⟨⟨t, own⟩, stepped, same⟩ := Option.map_eq_some_iff.mp moved
    cases same
    exact Transport.step?_eventsEnded stepped (by simpa using ended)
  have unfed {i : Socket.Input} {k : Nat} {b : Client H} {more : History H}
      (fed : b.feed k i = some (d, more)) (there : .transport (.eventsEnded n) ∈ more) : False := by
    obtain ⟨s, u, outputs, _, _, rfl, _⟩ := feed_cases fed
    exact deliver_unended ((List.mem_cons.mp there).resolve_left fun same => by cases same)
  cases m with
  | endEvents k =>
      simp only [step?] at made
      split at made
      · rename_i gone
        cases alone made
        exact gone
      · cases made
  | endCommands k =>
      simp only [step?] at made
      split at made
      · cases alone made
      · cases made
  | perform | take | notice | applyHeld | finish | abortFailed | settle =>
      simp only [step?] at made
      cases alone made
  | input k i =>
      simp only [step?] at made
      split at made
      · cases made
      · exact (unfed made ended).elim
  | receive k =>
      simp only [step?, receive] at made
      split at made
      · obtain ⟨⟨e, more⟩, fed, same⟩ := Option.map_eq_some_iff.mp made
        cases same
        exact (unfed fed ((List.mem_cons.mp ended).resolve_left fun same => by cases same)).elim
      · split at made
        · exact (unfed made ended).elim
        · cases made
  | launch k nonce clock =>
      simp only [step?] at made
      obtain ⟨_, t, own, s, outputs, launched, _, rfl, _⟩ := launch_cases made
      rcases List.mem_append.mp ended with there | later
      · cases Transport.step?_eventsEnded launched (by simpa using there)
      · exact (deliver_unended ((List.mem_cons.mp later).resolve_left fun same => by cases same)).elim

theorem step?_relayed {m : Move H} (made : c.step? m = some (d, notes)) (relayed : Relayed seen c)
    (reached : Transport.Reaches settings seen.transport c.transport) : Relayed (seen ++ notes) d := by
  have gone (k : Nat) (ended : .transport (.eventsEnded k) ∈ notes) : c.isOver k = true :=
    step?_over made ended
  cases step?_change made with
  | moved k moved own =>
      exact relayed.own reached (.step .refl k moved) (Transport.emitted_own own)
        fun k ended => gone k (by simpa using ended)
  | @started t own s outputs nonce clock launched is_own start =>
      have run := Transport.Run.step .refl _ launched
      have absent : c.socket? (c.sockets.length + 1) = none := by simp [socket?]
      have rested := relayed.own reached run (Transport.emitted_own is_own) fun k ended =>
        gone k (List.mem_append_left _ (by simpa using ended))
      have reached' : Transport.Reaches settings (seen ++ own.map Note.transport).transport t := by
        rw [History.transport_append, History.transport_map]
        exact Transport.Run.trans reached run
      obtain ⟨unread, untold⟩ := rested.unstarted (c.sockets.length + 1) absent
      rw [← List.append_assoc]
      refine rested.acts reached' (acts_started _ outputs) (fun v k => socket?_append k)
        (Transport.launch_isLaunched launched) ?_ ?_
      · rw [unread, untold]
        exact ⟨_, (Socket.start_tells start).1⟩
      · intro gone
        have running : c.isOver (c.sockets.length + 1) = false := by simp [isOver, absent]
        cases running.symm.trans gone
  | fed found act uncommanded =>
      exact relayed.acts reached (acts_socket ..) (fun v k => socket?_set found k)
        (relayed.launched _ _ found) (relayed.tells_acted found act) (quiet_of_isOver found act)
  | @told n command t s u outputs received found act =>
      have made : c.transport.step? (.receive n) = some (t, [.received n command]) := by
        simp [Transport.step?, received]
      have run := Transport.Run.step .refl _ made
      have rested := relayed.own reached run (fun k => rfl) (by simp)
      have reached' : Transport.Reaches settings
          (seen ++ [Transport.Note.received n command].map Note.transport).transport t := by
        rw [History.transport_append, History.transport_map]
        exact Transport.Run.trans reached run
      rw [List.append_cons]
      exact rested.acts reached' (acts_socket ..) (fun v k => socket?_set found k)
        (rested.launched n s found) (rested.tells_acted found act) (quiet_of_isOver found act)

theorem Run.relayed (run : Run (ofSettings settings) seen c) : Relayed seen c := by
  induction run with
  | refl => exact ofSettings_relayed settings
  | step before m made ih => exact step?_relayed made ih before.transport

end Client

end WampClient
