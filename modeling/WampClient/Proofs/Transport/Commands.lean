import WampClient.Proofs.Text.Utf8
import WampClient.Proofs.Transport.Lives

/-! # What a socket is sent

The commands that are queued for the socket of an attempt are the frames whose sending was accepted,
then at most one close, then at most one cancel. A frame is accepted only while the attempt is open,
and the socket receives its commands in the order in which they were queued.
-/

namespace WampClient

/-- A command stream: frames, then the close of a normal closure, then a cancel, each of the last two
    if it was queued at all. -/
def Command.stream (frames : List Frame) (closes cancels : Bool) : List Command :=
  frames.map .send ++ (if closes then [.close normalClosure none] else []) ++
    (if cancels then [.cancel] else [])

namespace Transport

variable {H : Type} {t : Transport H} {n : Nat} {settings : Settings} {seen : History H}

/-- The note tells of a call or an event that ends an attempt in whatever phase it finds it. -/
def Note.ends (n : Nat) : Note H → Bool
  | .performed m _ .abort _ => m = n
  | .applied m e => m = n && e.isTerminal
  | _ => false

/-- The note tells of a call or an event that begins the closing of an open attempt. -/
def Note.closes (n : Nat) : Note H → Bool
  | .performed m _ .close _ => m = n
  | .applied m (.closing _ _) => m = n
  | _ => false

theorem Note.ends_performed {m : Nat} {phase : Phase} {op : Operation H} {answer : Answer}
    (unaborted : op ≠ .abort) : Note.ends n (.performed m phase op answer) = false := by
  cases op with
  | abort => exact absurd rfl unaborted
  | connect | send | sendFrame | close | isOpen => rfl

theorem Note.closes_performed {m : Nat} {phase : Phase} {op : Operation H} {answer : Answer}
    (unclosed : op ≠ .close) : Note.closes n (.performed m phase op answer) = false := by
  cases op with
  | close => exact absurd rfl unclosed
  | connect | send | sendFrame | abort | isOpen => rfl

/-- The first event that opens the socket of attempt `n` was applied, nothing has ended the attempt,
    and nothing has closed it since it opened. -/
def History.StaysOpen (history : History H) (n : Nat) : Prop :=
  ∃ early late, history = early ++ .applied n .opened :: late ∧ .applied n .opened ∉ early ∧
    (∀ note ∈ early, note.ends n = false) ∧
    ∀ note ∈ late, note.ends n = false ∧ note.closes n = false

theorem History.StaysOpen.append {notes : History H} (open_still : seen.StaysOpen n)
    (harmless : ∀ note ∈ notes, note.ends n = false ∧ note.closes n = false) :
    History.StaysOpen (seen ++ notes) n := by
  obtain ⟨early, late, rfl, first, unended, unclosed⟩ := open_still
  refine ⟨early, late ++ notes, by simp, first, unended, ?_⟩
  intro note member
  rcases List.mem_append.mp member with before | now
  · exact unclosed note before
  · exact harmless note now

namespace Life

variable {h : H} {l m : Life H} {notes : History H} {frames : List Frame} {commands : List Command}

/-- What was queued for the socket, by how far its attempt has come. Frames are queued in the open
    phase only, a close leads out of it, and a cancel ends the attempt; so they come in this order
    and the last two at most once. -/
def Queued (frames : List Frame) (commands : List Command) (l : Life H) : Prop :=
  ∃ closes cancels : Bool, commands = Command.stream frames closes cancels ∧
    (closes = true → Phase.closing.rank ≤ l.phase.rank) ∧
    (cancels = true → Phase.draining.rank ≤ l.phase.rank)

theorem Queued.quiet (queued : Queued frames commands l) (ahead : l.phase.rank ≤ m.phase.rank)
    (no_frame : notes.accepted n = []) (no_command : notes.commands n = []) :
    Queued (frames ++ notes.accepted n) (commands ++ notes.commands n) m := by
  obtain ⟨closes, cancels, stream, closing, ended⟩ := queued
  rw [no_frame, no_command, List.append_nil, List.append_nil]
  exact ⟨closes, cancels, stream, fun late => Nat.le_trans (closing late) ahead,
    fun late => Nat.le_trans (ended late) ahead⟩

theorem Queued.eq_frames (queued : Queued frames commands l) (isOpen : l.phase = .opened) :
    commands = frames.map .send := by
  obtain ⟨closes, cancels, stream, closing, ended⟩ := queued
  cases closes with
  | true => simp [isOpen, Phase.rank] at closing
  | false =>
      cases cancels with
      | true => simp [isOpen, Phase.rank] at ended
      | false => simpa [Command.stream] using stream

theorem Queued.cancel (queued : Queued frames commands l) (active : l.phase.isActive = true)
    (no_frame : notes.accepted n = [])
    (cancel : notes.commands n = if l.attempt.receives then [.cancel] else []) :
    Queued (frames ++ notes.accepted n) (commands ++ notes.commands n) l.cancel := by
  obtain ⟨closes, cancels, stream, closing, ended⟩ := queued
  have uncancelled : cancels = false := by
    apply Bool.eq_false_iff.mpr
    intro late
    have rank := Phase.rank_lt_of_isActive active
    have rank_ge := ended late
    omega
  subst uncancelled
  refine ⟨closes, l.attempt.receives, ?_, ?_, fun _ => Nat.le_refl _⟩
  · rw [no_frame, cancel, stream]
    simp [Command.stream]
  · intro late
    exact Nat.le_trans (closing late) (Nat.le_of_lt (Phase.rank_lt_of_isActive active))

theorem Step.queued (step : Step n l notes m) (sound : l.Sound) (queued : Queued frames commands l) :
    Queued (frames ++ notes.accepted n) (commands ++ notes.commands n) m := by
  have ahead := step.rank_le sound
  cases step with
  | observed op answer unsent =>
      refine queued.quiet ahead ?_ rfl
      cases answer <;> simp [History.accepted, unsent]
  | sent op f frame isOpen receives =>
      refine ⟨false, false, ?_, nofun, nofun⟩
      simp [queued.eq_frames isOpen, Command.stream, History.accepted, History.commands, frame]
  | asked isOpen =>
      refine ⟨l.attempt.receives, false, ?_, fun _ => Nat.le_refl _, nofun⟩
      rw [History.accepted_append, History.commands_append, accepted_pushed, commands_pushed]
      simp [queued.eq_frames isOpen, Command.stream, History.accepted, History.commands,
        History.sentFrame?]
  | aborted active =>
      refine queued.cancel active ?_ ?_
      · rw [History.accepted_append, accepted_pushed]
        simp [History.accepted, History.sentFrame?]
      · rw [History.commands_append, commands_pushed]
        simp [History.commands]
  | cutShort failed active =>
      have waits : Queued frames commands (l.on ({ · with dispatcher := .waiting })) := queued
      exact waits.cancel active (accepted_pushed ..) (commands_pushed ..)
  | launched | emitted | eventsEnded | commandsEnded | received | taken | noticed | connected
  | delivered | peerClosed | ignored | ended | returned | wasAborted | settled =>
      exact queued.quiet ahead rfl rfl

/-- The commands of an attempt are the accepted frames, then a close, then a cancel. -/
theorem Run.queued (run : Run n h seen l) : Queued (seen.accepted n) (seen.commands n) l := by
  induction run with
  | begun => exact ⟨false, false, rfl, nofun, nofun⟩
  | step before step ih =>
      rw [History.accepted_append, History.commands_append]
      exact step.queued before.sound ih

/-- The queue is first in, first out, and holds all that was queued and not received, as long as the
    socket receives. -/
def Channel (received commands : List Command) (l : Life H) : Prop :=
  ∃ lost, commands = received ++ l.attempt.commands ++ lost ∧ (l.attempt.receives = true → lost = [])

theorem Channel.quiet {received : List Command} (channel : Channel received commands l)
    (queue : m.attempt.commands = l.attempt.commands) (receives : m.attempt.receives = l.attempt.receives)
    (no_receipt : notes.received n = []) (no_command : notes.commands n = []) :
    Channel (received ++ notes.received n) (commands ++ notes.commands n) m := by
  obtain ⟨lost, whole, open_end⟩ := channel
  rw [no_receipt, no_command, List.append_nil, List.append_nil]
  exact ⟨lost, by rw [whole, queue], fun still => open_end (receives ▸ still)⟩

theorem Channel.push {received : List Command} {c : Command} (channel : Channel received commands l)
    (queue : m.attempt.commands = (l.attempt.push c).commands)
    (receives : m.attempt.receives = l.attempt.receives) (no_receipt : notes.received n = [])
    (command : notes.commands n = if l.attempt.receives then [c] else []) :
    Channel (received ++ notes.received n) (commands ++ notes.commands n) m := by
  obtain ⟨lost, whole, open_end⟩ := channel
  rw [no_receipt, command, List.append_nil]
  cases still : l.attempt.receives with
  | true =>
      refine ⟨[], ?_, fun _ => rfl⟩
      simp [whole, queue, Attempt.push, still, open_end still]
  | false =>
      refine ⟨lost, ?_, fun late => by simp [receives, still] at late⟩
      simp [whole, queue, Attempt.push, still]

theorem Step.channel {received : List Command} (step : Step n l notes m)
    (channel : Channel received commands l) :
    Channel (received ++ notes.received n) (commands ++ notes.commands n) m := by
  cases step with
  | sent op f frame isOpen receives =>
      exact channel.push (c := .send f) rfl (by simp [on]) rfl (by simp [History.commands, receives])
  | asked isOpen =>
      refine channel.push (c := .close normalClosure none) rfl (by simp) ?_ ?_
      · rw [History.received_append, received_pushed]
        rfl
      · rw [History.commands_append, commands_pushed]
        simp [History.commands]
  | aborted active =>
      refine channel.push (c := .cancel) rfl (by simp [cancel]) ?_ ?_
      · rw [History.received_append, received_pushed]
        rfl
      · rw [History.commands_append, commands_pushed]
        simp [History.commands]
  | cutShort failed active =>
      have waits : Channel received commands (l.on ({ · with dispatcher := .waiting })) := channel
      exact waits.push (c := .cancel) rfl (by simp [cancel]) (received_pushed ..) (commands_pushed ..)
  | commandsEnded =>
      obtain ⟨lost, whole, _⟩ := channel
      exact ⟨l.attempt.commands ++ lost, by simp [on, whole, History.received, History.commands],
        by simp [on]⟩
  | received c rest queue =>
      obtain ⟨lost, whole, open_end⟩ := channel
      refine ⟨lost, ?_, open_end⟩
      simp [on, whole, queue, History.received, History.commands]
  | observed | launched | emitted | eventsEnded | taken | noticed | connected | delivered | peerClosed
  | ignored | ended | returned | wasAborted | settled => exact channel.quiet rfl rfl rfl rfl

theorem Run.channel (run : Run n h seen l) : Channel (seen.received n) (seen.commands n) l := by
  induction run with
  | begun => exact ⟨[], rfl, fun _ => rfl⟩
  | step before step ih =>
      rw [History.received_append, History.commands_append]
      exact step.channel ih

/-- What the notes tell of an attempt that nothing has ended or closed yet. -/
def Opens (n : Nat) (seen : History H) (l : Life H) : Prop :=
  match l.phase with
  | .connecting => .applied n .opened ∉ seen ∧ ∀ note ∈ seen, note.ends n = false
  | .opened => seen.StaysOpen n
  | .idle | .closing | .draining | .closed => True

theorem Opens.quiet (opens : Opens n seen l) (phase : m.phase = l.phase)
    (connecting : l.phase = .connecting →
      ∀ note ∈ notes, note ≠ .applied n .opened ∧ note.ends n = false)
    (opened : l.phase = .opened → ∀ note ∈ notes, note.ends n = false ∧ note.closes n = false) :
    Opens n (seen ++ notes) m := by
  unfold Opens at opens ⊢
  rw [phase]
  cases stands : l.phase with
  | connecting =>
      rw [stands] at opens
      obtain ⟨unopened, unended⟩ := opens
      refine ⟨?_, ?_⟩
      · intro member
        rcases List.mem_append.mp member with before | now
        · exact unopened before
        · exact (connecting stands _ now).1 rfl
      · intro note member
        rcases List.mem_append.mp member with before | now
        · exact unended note before
        · exact (connecting stands note now).2
  | opened =>
      rw [stands] at opens
      exact History.StaysOpen.append opens (opened stands)
  | idle | closing | draining | closed => trivial

theorem harmless_sent {op : Operation H} {f : Frame} (frame : History.sentFrame? op = some f) :
    ∀ note ∈ [Note.queued n (.send f), .performed n .opened op .done],
      note.ends n = false ∧ note.closes n = false := by
  obtain ⟨unaborted, unclosed⟩ := sends_only frame
  refine List.forall_mem_cons.mpr ⟨⟨rfl, rfl⟩, List.forall_mem_singleton.mpr ?_⟩
  exact ⟨Note.ends_performed unaborted, Note.closes_performed unclosed⟩

theorem Step.opens (step : Step n l notes m) (opens : Opens n seen l) : Opens n (seen ++ notes) m := by
  cases step with
  | asked | aborted | peerClosed | ended | cutShort | settled => trivial
  | connected held phase =>
      simp only [Opens, phase] at opens
      obtain ⟨unopened, unended⟩ := opens
      refine ⟨seen, [.called n l.attempt.handler .onConnect], rfl, unopened, unended, ?_⟩
      simp [Note.ends, Note.closes]
  | observed op answer unsent unclosed unaborted =>
      have unended (active : l.phase.isActive = true) :
          Note.ends n (.performed n l.phase op answer) = false :=
        Note.ends_performed fun abort => by simp [unaborted abort] at active
      refine opens.quiet rfl ?_ ?_
      · intro connecting
        simp [unended (by simp [connecting, Phase.isActive])]
      · intro opened
        have unclosing : Note.closes n (.performed n l.phase op answer) = false :=
          Note.closes_performed fun close => unclosed close opened
        simp [unended (by simp [opened, Phase.isActive]), unclosing]
  | sent op f frame isOpen receives =>
      exact opens.quiet rfl (by simp [isOpen]) fun _ => harmless_sent frame
  | delivered f held isOpen =>
      refine opens.quiet rfl (fun connecting => by simp [connecting, Phase.isOpen] at isOpen) ?_
      simp [Note.ends, Note.closes, Event.isTerminal]
  | ignored e held ignores =>
      have unended := unended_of_ignores ignores
      refine opens.quiet rfl ?_ ?_
      · intro connecting
        have unopened : e ≠ .opened := by
          rintro rfl
          simp [Life.ignores, connecting] at ignores
        simpa [Note.ends, unended] using unopened
      · intro opened
        cases e with
        | closing => simp [Life.ignores, opened] at ignores
        | opened | message | closed | failure => simpa [Note.ends, Note.closes] using unended
  | launched | emitted | eventsEnded | commandsEnded | received | taken | noticed | returned
  | wasAborted => exact opens.quiet rfl (by simp [Note.ends]) (by simp [Note.ends, Note.closes])

theorem Run.opens (run : Run n h seen l) : Opens n seen l := by
  induction run with
  | begun => simp [Opens, ofHandler]
  | step before step ih => exact step.opens ih

/-- Until its socket has opened, an attempt is sent nothing but a cancel. -/
theorem Run.opened_first {c : Command} (run : Run n h seen l) (queued : c ∈ seen.commands n)
    (other : c ≠ .cancel) : .applied n .opened ∈ seen := by
  induction run with
  | begun => cases queued
  | @step seen more l m before step ih =>
      have since_opened (isOpen : l.phase = .opened) : .applied n .opened ∈ seen ++ more := by
        have opens := before.opens
        simp only [Opens, isOpen] at opens
        obtain ⟨early, late, rfl, _⟩ := opens
        simp
      rw [History.commands_append] at queued
      rcases List.mem_append.mp queued with earlier | now
      · exact List.mem_append_left _ (ih earlier)
      · cases step with
        | sent op f frame isOpen => exact since_opened isOpen
        | asked isOpen => exact since_opened isOpen
        | aborted active =>
            rw [History.commands_append, commands_pushed] at now
            simp [History.commands, other] at now
        | cutShort failed active =>
            rw [commands_pushed] at now
            simp [other] at now
        | observed | launched | emitted | eventsEnded | commandsEnded | received | taken | noticed
        | connected | delivered | peerClosed | ignored | ended | returned | wasAborted | settled =>
            cases now

theorem Run.split {note : Note H} {before after : History H}
    (run : Run n h (before ++ note :: after) l) :
    ∃ seen start rest k m, Run n h seen k ∧ before = seen ++ start ∧
      Step n k (start ++ note :: rest) m := by
  generalize whole : before ++ note :: after = seen at run
  induction run generalizing after with
  | begun => simp at whole
  | @step seen more k m run step ih =>
      rcases split_cases whole.symm with ⟨rest, earlier⟩ | ⟨start, same, now⟩
      · exact ih earlier.symm
      · exact ⟨seen, start, after, k, m, run, same, now ▸ step⟩

theorem Step.sent_open {phase : Phase} {op : Operation H} {f : Frame} (step : Step n l notes m)
    (frame : History.sentFrame? op = some f) (sent : .performed n phase op .done ∈ notes) :
    l.phase = .opened ∧ phase = .opened ∧
      ∀ note ∈ notes, note.ends n = false ∧ note.closes n = false := by
  cases step with
  | observed other answer unsent =>
      obtain ⟨rfl, rfl, rfl⟩ := by simpa using sent
      simp [unsent] at frame
  | sent other g accepted isOpen =>
      obtain ⟨rfl, rfl⟩ := by simpa using sent
      exact ⟨isOpen, rfl, harmless_sent accepted⟩
  | asked | aborted =>
      rcases List.mem_append.mp sent with queued | now
      · unfold pushed at queued
        split at queued <;> simp at queued
      · obtain ⟨_, rfl⟩ := by simpa using now
        cases frame
  | cutShort =>
      unfold pushed at sent
      split at sent <;> simp at sent
  | launched | emitted | eventsEnded | commandsEnded | received | taken | noticed | connected
  | delivered | peerClosed | ignored | ended | returned | wasAborted | settled => simp at sent

/-- A frame is accepted only while its attempt stays open. -/
theorem Run.sent_open {phase : Phase} {op : Operation H} {f : Frame} {before after : History H}
    (run : Run n h (before ++ .performed n phase op .done :: after) l)
    (frame : History.sentFrame? op = some f) : phase = .opened ∧ before.StaysOpen n := by
  obtain ⟨seen, start, rest, k, m, earlier, rfl, step⟩ := run.split
  obtain ⟨isOpen, found, harmless⟩ :=
    step.sent_open frame (List.mem_append_right _ List.mem_cons_self)
  have opens := earlier.opens
  simp only [Opens, isOpen] at opens
  refine ⟨found, opens.append ?_⟩
  intro note member
  exact harmless note (List.mem_append_left _ member)

end Life

theorem Note.harmless_elsewhere {note : Note H} (other : note.attempt? ≠ some n) :
    note.ends n = false ∧ note.closes n = false := by
  constructor
  · unfold Note.ends
    split <;> simp_all [Note.attempt?]
  · unfold Note.closes
    split <;> simp_all [Note.attempt?]

theorem staysOpen_of_about (about : (seen.about n).StaysOpen n) : seen.StaysOpen n := by
  obtain ⟨early, late, same, first, unended, unclosed⟩ := about
  obtain ⟨start, rest, rfl, rfl, more⟩ := List.filter_eq_append_iff.mp same
  obtain ⟨gap, tail, rfl, elsewhere, _, rfl⟩ := List.filter_eq_cons_iff.mp more
  refine ⟨start ++ gap, tail, by simp, ?_, ?_, ?_⟩
  · intro member
    rcases List.mem_append.mp member with before | between
    · exact first (mem_about before rfl)
    · simpa [Note.attempt?] using elsewhere _ between
  · intro note member
    by_cases here : note.attempt? = some n
    · rcases List.mem_append.mp member with before | between
      · exact unended note (mem_about before here)
      · exact absurd here (by simpa using elsewhere note between)
    · exact (Note.harmless_elsewhere here).1
  · intro note member
    by_cases here : note.attempt? = some n
    · exact unclosed note (mem_about member here)
    · exact Note.harmless_elsewhere here

/-- The operation sends this frame, with its bytes and its tag. -/
def Operation.Sends (op : Operation H) (f : Frame) : Prop :=
  op = .sendFrame f ∨ op = .send f.payload f.isBinary

theorem sends_of_sentFrame? {op : Operation H} {f : Frame} (frame : History.sentFrame? op = some f) :
    Operation.Sends op f := by
  cases op with
  | sendFrame g =>
      cases frame
      exact .inl rfl
  | send payload isBinary =>
      simp only [History.sentFrame?] at frame
      cases made : Frame.ofPayload payload isBinary with
      | error e => simp [made, Except.toOption] at frame
      | ok g =>
          obtain rfl : g = f := by simpa [made, Except.toOption] using frame
          obtain ⟨rfl, rfl⟩ := Frame.ofPayload_sound made
          exact .inr rfl
  | connect | close | abort | isOpen => cases frame

theorem sendFrame_failed {f : Frame} {e : Error} (failed : (t.sendFrame f).2.2 = .failed e) :
    (t.sendFrame f).1 = t ∧ e = .notConnected := by
  unfold sendFrame at failed ⊢
  split at failed
  · cases failed
    exact ⟨rfl, rfl⟩
  · split at failed
    · cases failed
    · rename_i deaf
      cases failed
      simp [deaf]

theorem send_failed {payload : Bytes} {isBinary : Bool} {e : Error}
    (failed : (t.send payload isBinary).2.2 = .failed e) :
    (t.send payload isBinary).1 = t ∧ (e = .notConnected ∨ ∃ fault, e = .invalidFrame fault) := by
  unfold send at failed ⊢
  split at failed
  · rename_i invalid
    cases failed
    exact ⟨rfl, .inr (Frame.ofPayload_error invalid)⟩
  · obtain ⟨same, rfl⟩ := sendFrame_failed failed
    exact ⟨same, .inl rfl⟩

theorem perform_failed {op : Operation H} {e : Error} (failed : (t.perform op).2.2 = .failed e) :
    (t.perform op).1 = t ∧ (e = .notConnected ∨ ∃ fault, e = .invalidFrame fault) := by
  cases op with
  | sendFrame f =>
      obtain ⟨same, rfl⟩ := sendFrame_failed failed
      exact ⟨same, .inl rfl⟩
  | send payload isBinary => exact send_failed failed
  | connect | close | abort | isOpen => cases failed

/-- What is sent to the sockets of a run. The commands of an attempt are a word of three parts, and
    its queue hands them on in order, as long as the socket receives. -/
structure CommandStream (seen : History H) (t : Transport H) : Prop where
  word : ∀ n, ∃ closes cancels,
    seen.commands n = Command.stream (seen.accepted n) closes cancels
  channel : ∀ n a, t.attempt? n = some a → a.receives = true →
    seen.commands n = seen.received n ++ a.commands
  received : ∀ n, seen.received n <+: seen.commands n
  /-- A frame is accepted in an open attempt only, and as it was given. -/
  accepted : ∀ n before phase op f after, seen = before ++ .performed n phase op .done :: after →
    History.sentFrame? op = some f →
    phase = .opened ∧ History.StaysOpen before n ∧ Operation.Sends op f
  failed : ∀ op e, (t.perform op).2.2 = .failed e →
    (t.perform op).1 = t ∧ (e = .notConnected ∨ ∃ fault, e = .invalidFrame fault)

theorem Reaches.unborn_commands (reached : Reaches settings seen t) (absent : t.attempt? n = none) :
    seen.accepted n = [] ∧ seen.commands n = [] ∧ seen.received n = [] := by
  rw [← accepted_about, ← commands_about, ← received_about]
  refine ⟨?_, ?_, ?_⟩
  all_goals
    apply List.filterMap_eq_nil_iff.mpr
    intro note member
    obtain ⟨_, op, answer, rfl, unsent⟩ := reached.unborn absent note member
  · cases answer <;> simp [unsent]
  · rfl
  · rfl

/-- The commands of an attempt are the accepted frames, then at most one close, then at most one
    cancel. -/
theorem Reaches.word (reached : Reaches settings seen t) (n : Nat) : ∃ closes cancels,
    seen.commands n = Command.stream (seen.accepted n) closes cancels := by
  cases found : t.attempt? n with
  | none =>
      obtain ⟨no_frame, no_command, _⟩ := reached.unborn_commands found
      exact ⟨false, false, by simp [no_frame, no_command, Command.stream]⟩
  | some a =>
      obtain ⟨h, l, run, shows⟩ := reached.life found
      obtain ⟨closes, cancels, word, _⟩ := run.queued
      rw [commands_about, accepted_about] at word
      exact ⟨closes, cancels, word⟩

/-- What was queued for an attempt was received, is still in the queue, or was lost with it. -/
theorem Reaches.queue {a : Attempt H} (reached : Reaches settings seen t)
    (found : t.attempt? n = some a) : ∃ lost,
    seen.commands n = seen.received n ++ a.commands ++ lost ∧ (a.receives = true → lost = []) := by
  obtain ⟨h, l, run, shows⟩ := reached.life found
  have channel := run.channel
  rwa [commands_about, received_about, Life.Channel, shows.attempt_eq found] at channel

theorem Reaches.received_prefix (reached : Reaches settings seen t) (n : Nat) :
    seen.received n <+: seen.commands n := by
  cases found : t.attempt? n with
  | none =>
      obtain ⟨_, _, no_receipt⟩ := reached.unborn_commands found
      rw [no_receipt]
      exact List.nil_prefix
  | some a =>
      obtain ⟨lost, whole, _⟩ := reached.queue found
      exact ⟨a.commands ++ lost, by rw [whole, List.append_assoc]⟩

/-- In every run, each socket is sent the accepted frames, at most one close and at most one cancel.
    A frame is accepted from the event that opens the attempt until something closes or ends it;
    what comes before that event closes nothing. -/
theorem Reaches.command_stream (reached : Reaches settings seen t) : CommandStream seen t := by
  constructor
  case word => exact reached.word
  case channel =>
    intro n a found receives
    obtain ⟨lost, whole, open_end⟩ := reached.queue found
    rw [whole, open_end receives, List.append_nil]
  case received => exact reached.received_prefix
  case accepted =>
    intro n before phase op f after whole frame
    subst whole
    cases found : t.attempt? n with
    | none =>
        obtain ⟨_, other, answer, same, unsent⟩ :=
          reached.unborn found _ (mem_about (List.mem_append_right _ List.mem_cons_self) rfl)
        cases same
        rw [unsent rfl] at frame
        cases frame
    | some a =>
        obtain ⟨h, l, run, shows⟩ := reached.life found
        have split : History.about (before ++ .performed n phase op .done :: after) n =
            History.about before n ++ .performed n phase op .done :: History.about after n := by
          simp [History.about, Note.attempt?]
        rw [split] at run
        obtain ⟨isOpen, stays⟩ := run.sent_open frame
        exact ⟨isOpen, staysOpen_of_about stays, sends_of_sentFrame? frame⟩
  case failed => exact fun op e failed => perform_failed failed

/-- A caller closes twice: before the attempt has opened, which does nothing, and after a frame. -/
def closedMoves : List (Move Nat) :=
  [.perform (.connect 1), .perform .close, .launch 1, .emit 1 .opened, .take 1, .applyHeld 1,
    .finish 1 none, .perform (.send [7] true), .perform .close, .perform (.send [8] true)]

theorem command_stream_of_closed : ∃ (t : Transport Nat) (seen : History Nat),
    (ofSettings .plain).replay closedMoves = some (t, seen) ∧
    seen.accepted 1 = [.binary [7]] ∧
    seen.commands 1 = [.send (.binary [7]), .close normalClosure none] ∧ CommandStream seen t := by
  refine ⟨_, _, rfl, rfl, rfl, ?_⟩
  have replayed : (ofSettings .plain).replay closedMoves = some _ := rfl
  exact Reaches.command_stream (run_of_replay replayed)

/-- What happens when the peer sends a close frame, and a caller closes, before the attempt has opened;
    a frame is sent next. -/
def unopenedMoves : List (Move Nat) :=
  [.perform (.connect 1), .perform .close, .launch 1, .emit 1 (.closing normalClosure ""), .take 1,
    .applyHeld 1, .emit 1 .opened, .take 1, .applyHeld 1, .perform (.sendFrame (.binary [7]))]

def unopenedNotes : History Nat :=
  [.admitted 1 .started, .performed 0 .idle (.connect 1) .done, .performed 1 .connecting .close .done,
    .launched 1 1 Settings.plain.handshake, .emitted 1 (.closing normalClosure ""),
    .applied 1 (.closing normalClosure ""), .emitted 1 .opened, .applied 1 .opened,
    .called 1 1 .onConnect, .queued 1 (.send (.binary [7]))]

/-- A close that comes before the attempt has opened does nothing, be it of a caller or of the peer:
    frames are accepted after it. -/
theorem accepted_after_unopened_close :
    ¬ (∀ (seen : History Nat) (t : Transport Nat), Reaches .plain seen t →
      ∀ n before phase op f after, seen = before ++ .performed n phase op .done :: after →
        History.sentFrame? op = some f → ∀ found, .performed n found .close .done ∉ before) ∧
    ¬ (∀ (seen : History Nat) (t : Transport Nat), Reaches .plain seen t →
      ∀ n before phase op f after, seen = before ++ .performed n phase op .done :: after →
        History.sentFrame? op = some f → ∀ code reason, .applied n (.closing code reason) ∉ before) := by
  have replayed : (ofSettings .plain).replay unopenedMoves =
      some (_, unopenedNotes ++ [.performed 1 .opened (.sendFrame (.binary [7])) .done]) := rfl
  have reached := run_of_replay replayed
  constructor
  · intro refused
    exact refused _ _ reached 1 unopenedNotes .opened _ _ [] rfl rfl .connecting
      (by simp [unopenedNotes])
  · intro refused
    exact refused _ _ reached 1 unopenedNotes .opened _ _ [] rfl rfl normalClosure ""
      (by simp [unopenedNotes])

end Transport

end WampClient
