import WampClient.Client.History
import WampClient.Proofs.Socket.Act
import WampClient.Proofs.Transport.Lives

/-! # What a move of a client changes

A move of a client is a move of its transport alone, or one of its sockets acts: the socket starts,
or something comes to it. What the socket emits is then taken in by the transport. A run of a client
is therefore a run of its transport, too.
-/

namespace WampClient

namespace Transport

variable {H : Type} {t v : Transport H} {notes : History H}

/-- The note is not one of what passes between a transport and its sockets. -/
def Note.isOwn : Note H → Bool
  | .emitted _ _ | .received _ _ => false
  | _ => true

theorem Note.isOwn_of_isEffect {note : Note H} (effect : note.isEffect = true) :
    note.isOwn = true := by
  cases note <;> first | rfl | cases effect

theorem perform_own (t : Transport H) (op : Operation H) :
    ∀ note ∈ (t.perform op).2.1, note.isOwn = true := by
  intro note member
  rcases List.mem_append.mp member with noted | performed
  · exact Note.isOwn_of_isEffect (List.all_eq_true.mp (isEffect_run t op) note noted)
  · obtain rfl := List.mem_singleton.mp performed
    rfl

theorem step?_own {m : Move H} (made : t.step? m = some (v, notes)) (unemitted : ∀ n e, m ≠ .emit n e)
    (unreceived : ∀ n, m ≠ .receive n) : ∀ note ∈ notes, note.isOwn = true := by
  cases step?_moved made with
  | performed op => exact perform_own t op
  | socketed _ moved =>
      cases moved with
      | emitted e => exact absurd rfl (unemitted _ e)
      | received => exact absurd rfl (unreceived _)
      | eventsEnded | commandsEnded => simp [Note.isOwn]
  | @dispatched n _ _ _ _ _ moved =>
      cases moved with
      | launched | taken | noticed | returned | settled => simp [Note.isOwn]
      | aborted =>
          intro note member
          have effects := List.all_eq_true.mp (isEffect_carryOutAll ..) note member
          exact Note.isOwn_of_isEffect effects
      | applied e =>
          intro note member
          rcases List.mem_cons.mp member with rfl | called
          · rfl
          · obtain ⟨c, rfl⟩ := mem_calls called
            rfl

theorem received_own (own : ∀ note ∈ notes, note.isOwn = true) (n : Nat) : notes.received n = [] := by
  apply List.filterMap_eq_nil_iff.mpr
  intro note member
  have own := own note member
  cases note <;> first | rfl | cases own

theorem emitted_own (own : ∀ note ∈ notes, note.isOwn = true) (n : Nat) : notes.emitted n = [] := by
  apply List.filterMap_eq_nil_iff.mpr
  intro note member
  have own := own note member
  cases note <;> first | rfl | cases own

end Transport

namespace Client

variable {H : Type} {c d e : Client H} {notes seen more : History H} {settings : Settings} {n : Nat}

theorem Run.trans (first : Run c seen d) (next : Run d more e) : Run c (seen ++ more) e := by
  induction next with
  | refl => rwa [List.append_nil]
  | step _ m made ih =>
      rw [← List.append_assoc]
      exact ih.step m made

def replay (c : Client H) : List (Move H) → Outcome H
  | [] => some (c, [])
  | m :: rest =>
    (c.step? m).bind fun (d, notes) => (d.replay rest).map fun (e, more) => (e, notes ++ more)

theorem run_of_replay {moves : List (Move H)} (replayed : c.replay moves = some (d, seen)) :
    Run c seen d := by
  induction moves generalizing c seen with
  | nil =>
      cases replayed
      exact .refl
  | cons m rest ih =>
      obtain ⟨⟨e, notes⟩, made, replayed⟩ := Option.bind_eq_some_iff.mp replayed
      obtain ⟨⟨f, more⟩, rested, same⟩ := Option.map_eq_some_iff.mp replayed
      cases same
      exact (Run.refl.step m made).trans (ih rested)

section deliver

variable (t : Transport H) (n : Nat) (events : List Event)

theorem deliver_notes :
    ∀ note ∈ (deliver t n events).2, ∃ e ∈ events, note = .transport (.emitted n e) := by
  induction events generalizing t with
  | nil => simp [deliver]
  | cons e rest ih =>
      intro note member
      have later (u : Transport H) (there : note ∈ (deliver u n rest).2) :
          ∃ f ∈ e :: rest, note = .transport (.emitted n f) := by
        obtain ⟨f, among, same⟩ := ih u note there
        exact ⟨f, List.mem_cons_of_mem _ among, same⟩
      unfold deliver at member
      split at member
      · rename_i u emitted
        rcases List.mem_cons.mp member with same | there
        · exact ⟨e, List.mem_cons_self, same⟩
        · exact later u there
      · exact later t member

theorem deliver_run :
    Transport.Run t (History.transport (deliver t n events).2) (deliver t n events).1 := by
  induction events generalizing t with
  | nil => exact .refl
  | cons e rest ih =>
      unfold deliver
      split
      · rename_i u emitted
        have made : t.step? (.emit n e) = some (u, [.emitted n e]) := by
          simp [Transport.step?, emitted]
        exact (Transport.Run.refl.step (.emit n e) made).trans (ih u)
      · exact ih t

theorem deliver_received (k : Nat) : (History.transport (deliver t n events).2).received k = [] := by
  apply List.filterMap_eq_nil_iff.mpr
  intro note member
  obtain ⟨other, there, same⟩ := List.mem_filterMap.mp member
  obtain ⟨e, _, rfl⟩ := deliver_notes t n events other there
  cases same
  rfl

theorem deliver_outputs (k : Nat) : History.outputs (deliver t n events).2 k = [] := by
  apply List.flatMap_eq_nil_iff.mpr
  intro note member
  obtain ⟨e, _, rfl⟩ := deliver_notes t n events note member
  rfl

theorem deliver_emitted {k : Nat} {e : Event}
    (emitted : e ∈ (History.transport (deliver t n events).2).emitted k) : k = n ∧ e ∈ events := by
  obtain ⟨note, member, same⟩ := List.mem_filterMap.mp emitted
  obtain ⟨other, there, noted⟩ := List.mem_filterMap.mp member
  obtain ⟨f, among, rfl⟩ := deliver_notes t n events other there
  cases noted
  obtain ⟨rfl, rfl⟩ : n = k ∧ f = e := by simpa using same
  exact ⟨rfl, among⟩

end deliver

/-- What a move of a client changes, and what is noted of it. -/
inductive Change (c : Client H) : List (Note H) → Client H → Prop where
  /-- The transport moves alone. -/
  | moved {t : Transport H} {notes : Transport.History H} (m : Transport.Move H)
      (made : c.transport.step? m = some (t, notes)) (own : ∀ note ∈ notes, note.isOwn = true) :
      Change c (notes.map .transport) { c with transport := t }
  /-- The socket of the next attempt starts. -/
  | started {t : Transport H} {notes : Transport.History H} {s : Socket} {outputs : List Socket.Output}
      (nonce : Nonce) (clock : Instant)
      (made : c.transport.step? (.launch (c.sockets.length + 1)) = some (t, notes))
      (own : ∀ note ∈ notes, note.isOwn = true)
      (start : Socket.start t.settings.handshake nonce clock = (s, outputs)) :
      Change c
        (notes.map .transport ++ .started (c.sockets.length + 1) outputs ::
          (deliver t (c.sockets.length + 1) (Socket.emitted outputs)).2)
        ⟨(deliver t (c.sockets.length + 1) (Socket.emitted outputs)).1, c.sockets ++ [s]⟩
  /-- Something other than a command comes to a socket. -/
  | fed {n : Nat} {i : Socket.Input} {s u : Socket} {outputs : List Socket.Output}
      (found : c.socket? n = some s) (act : s.Act i u outputs)
      (uncommanded : ∀ command, i ≠ .command (some command)) :
      Change c (.socket n i outputs :: (deliver c.transport n (Socket.emitted outputs)).2)
        ⟨(deliver c.transport n (Socket.emitted outputs)).1, c.sockets.set (n - 1) u⟩
  /-- A socket receives a command. -/
  | told {n : Nat} {command : Command} {t : Transport H} {s u : Socket} {outputs : List Socket.Output}
      (received : c.transport.receive n = some (command, t)) (found : c.socket? n = some s)
      (act : s.Act (.command (some command)) u outputs) :
      Change c
        (.transport (.received n command) :: .socket n (.command (some command)) outputs ::
          (deliver t n (Socket.emitted outputs)).2)
        ⟨(deliver t n (Socket.emitted outputs)).1, c.sockets.set (n - 1) u⟩

theorem withTransport_change {m : Transport.Move H} (unemitted : ∀ n e, m ≠ .emit n e)
    (unreceived : ∀ n, m ≠ .receive n)
    (made : c.withTransport (c.transport.step? m) = some (d, notes)) : Change c notes d := by
  obtain ⟨⟨t, own_notes⟩, moved, same⟩ := Option.map_eq_some_iff.mp made
  cases same
  exact .moved m moved (Transport.step?_own moved unemitted unreceived)

theorem feed_cases {i : Socket.Input} (made : c.feed n i = some (d, notes)) :
    ∃ s u outputs, c.socket? n = some s ∧ s.Act i u outputs ∧
      notes = .socket n i outputs :: (deliver c.transport n (Socket.emitted outputs)).2 ∧
      d = ⟨(deliver c.transport n (Socket.emitted outputs)).1, c.sockets.set (n - 1) u⟩ := by
  unfold feed at made
  split at made
  · rename_i s found
    split at made
    · rename_i u outputs acted
      cases made
      exact ⟨s, u, outputs, found, Socket.act_of_step? acted, rfl, rfl⟩
    · cases made
  · cases made

theorem feed_change {i : Socket.Input} (uncommanded : ∀ command, i ≠ .command (some command))
    (made : c.feed n i = some (d, notes)) : Change c notes d := by
  obtain ⟨s, u, outputs, found, act, rfl, rfl⟩ := feed_cases made
  exact .fed found act uncommanded

theorem launch_cases {nonce : Nonce} {clock : Instant}
    (made : c.launch n nonce clock = some (d, notes)) :
    n = c.sockets.length + 1 ∧ ∃ t own s outputs, c.transport.step? (.launch n) = some (t, own) ∧
      Socket.start t.settings.handshake nonce clock = (s, outputs) ∧
      notes = own.map .transport ++ .started n outputs ::
        (deliver t n (Socket.emitted outputs)).2 ∧
      d = ⟨(deliver t n (Socket.emitted outputs)).1, c.sockets ++ [s]⟩ := by
  unfold launch at made
  split at made
  · rename_i next
    split at made
    · rename_i t own launched
      cases start : Socket.start t.settings.handshake nonce clock with
      | mk s outputs =>
          rw [start] at made
          obtain ⟨rfl, rfl⟩ := Prod.mk.inj (Option.some.inj made)
          exact ⟨next.symm, t, own, s, outputs, launched, start, rfl, rfl⟩
    · cases made
  · cases made

theorem launch_change {nonce : Nonce} {clock : Instant}
    (made : c.launch n nonce clock = some (d, notes)) : Change c notes d := by
  obtain ⟨rfl, t, own_notes, s, outputs, launched, start, rfl, rfl⟩ := launch_cases made
  have own := Transport.step?_own launched (fun _ _ => nofun) (fun _ => nofun)
  exact .started nonce clock launched own start

theorem receive_change (made : c.receive n = some (d, notes)) : Change c notes d := by
  unfold receive at made
  split at made
  · rename_i command t received
    obtain ⟨⟨e, more⟩, fed, same⟩ := Option.map_eq_some_iff.mp made
    cases same
    obtain ⟨s, u, outputs, found, act, rfl, rfl⟩ := feed_cases fed
    exact .told received found act
  · split at made
    · refine feed_change ?_ made
      intro command same
      cases same
    · cases made

theorem step?_change {m : Move H} (made : c.step? m = some (d, notes)) : Change c notes d := by
  cases m with
  | launch n nonce clock =>
      simp only [step?] at made
      exact launch_change made
  | receive n =>
      simp only [step?] at made
      exact receive_change made
  | input n i =>
      simp only [step?] at made
      split at made
      · cases made
      · rename_i uncommanded
        refine feed_change ?_ made
        rintro command rfl
        exact uncommanded rfl
  | endEvents n | endCommands n =>
      simp only [step?] at made
      split at made
      · exact withTransport_change (by simp) (by simp) made
      · cases made
  | perform | take | notice | applyHeld | finish | abortFailed | settle =>
      simp only [step?] at made
      exact withTransport_change (by simp) (by simp) made

theorem Change.transport (change : Change c notes d) :
    Transport.Run c.transport notes.transport d.transport := by
  cases change with
  | moved m made own =>
      rw [History.transport_map]
      exact Transport.Run.refl.step m made
  | @started t own_notes s outputs nonce clock made own start =>
      rw [History.transport_append, History.transport_map]
      exact (Transport.Run.refl.step _ made).trans (deliver_run ..)
  | fed found act uncommanded => exact deliver_run ..
  | @told n command t s u outputs received found act =>
      have made : c.transport.step? (.receive n) = some (t, [.received n command]) := by
        simp [Transport.step?, received]
      exact (Transport.Run.refl.step _ made).trans (deliver_run ..)

/-- A run of a client is one of its transport. So what holds of all runs of a transport holds here,
    with no second proof. -/
theorem Run.transport (run : Run (ofSettings settings) seen c) :
    Transport.Reaches settings seen.transport c.transport := by
  induction run with
  | refl => exact .refl
  | step before m made ih =>
      rw [History.transport_append]
      exact Transport.Run.trans ih (step?_change made).transport

/-- Each note of a run was made by one of its moves. -/
theorem Run.split {note : Note H} {before after : History H}
    (run : Run c (before ++ note :: after) d) :
    ∃ seen start rest e f, Run c seen e ∧ before = seen ++ start ∧
      Change e (start ++ note :: rest) f := by
  generalize whole : before ++ note :: after = seen at run
  induction run generalizing after with
  | refl => simp at whole
  | @step e f seen more run m made ih =>
      rcases Transport.split_cases whole.symm with ⟨rest, earlier⟩ | ⟨start, same, now⟩
      · exact ih earlier.symm
      · exact ⟨seen, start, after, e, f, run, same, step?_change (now ▸ made)⟩

theorem socket?_set {s u : Socket} {t : Transport H} (found : c.socket? n = some s) (k : Nat) :
    (⟨t, c.sockets.set (n - 1) u⟩ : Client H).socket? k = if k = n then some u else c.socket? k := by
  cases n with
  | zero => cases found
  | succ n =>
      cases k with
      | zero => rfl
      | succ k =>
          obtain ⟨bound, _⟩ := List.getElem?_eq_some_iff.mp found
          simp only [socket?, Nat.add_sub_cancel, List.getElem?_set, Nat.add_right_cancel_iff]
          by_cases same : k = n
          · simp [same, bound]
          · simp [same, Ne.symm same]

theorem socket?_append {s : Socket} {t : Transport H} (k : Nat) :
    (⟨t, c.sockets ++ [s]⟩ : Client H).socket? k =
      if k = c.sockets.length + 1 then some s else c.socket? k := by
  cases k with
  | zero => rfl
  | succ k =>
      simp only [socket?, Nat.add_right_cancel_iff, List.getElem?_append]
      grind

end Client

end WampClient
