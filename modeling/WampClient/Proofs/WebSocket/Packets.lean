import WampClient.Frame
import WampClient.Proofs.Text.Utf8
import WampClient.WebSocket.Assembly

/-! # Reading packets

A control packet is told or refused, and leaves alone what was read of a message. A part of a message
is refused, or it goes on with the message or completes it, within the limits. What is read behind
packets that met no fault is read as if they had not been there, but for what they left unfinished.
-/

namespace WampClient.WebSocket

def Packet.isControl (p : Packet) : Bool :=
  match p.opcode with
  | .close | .ping | .pong => true
  | .reserved code => 8 ≤ code
  | .continuation | .text | .binary => false

def Fault.isForSize : Fault → Bool
  | .capacity (.messageTooLong _ _) => true
  | _ => false

def Fault.isEnd : Fault → Bool
  | .connectionClosed | .alreadyClosed => true
  | _ => false

def Message.frames (messages : List Message) : List Frame :=
  messages.filterMap Frame.ofMessage?

theorem Message.frames_append (first more : List Message) :
    frames (first ++ more) = frames first ++ frames more :=
  List.filterMap_append

variable {isText : Bool} {p : Packet} {packets : List Packet}

namespace Assembly

variable {a b : Assembly} {m : Option Message} {f : Fragment} {fault : Fault}

/-! ## One packet -/

/-- What was read before of the message that a part belongs to; nothing if there is no such message. -/
def begun? (a : Assembly) (p : Packet) : Option Fragment :=
  match p.opcode, a.fragment with
  | .text, none => some ⟨true, []⟩
  | .binary, none => some ⟨false, []⟩
  | .continuation, some f => some f
  | _, _ => none

theorem begun?_of_continuation (later : p.opcode = .continuation) : a.begun? p = a.fragment := by
  cases fragment : a.fragment <;> simp [begun?, later, fragment]

theorem begun?_of_kind (kind : p.opcode = if isText then .text else .binary) :
    a.begun? p = some f ↔ a.fragment = none ∧ f = ⟨isText, []⟩ := by
  cases isText <;> cases fragment : a.fragment <;> simp [begun?, kind, fragment, eq_comm]

/-- How a packet is read that is not refused whatever its kind is. -/
def readKind (a : Assembly) (p : Packet) : Outcome :=
  match p.opcode with
  | .text => a.readFirst p true
  | .binary => a.readFirst p false
  | .continuation => a.readContinuation p
  | .close => readControl p (a.readClose p)
  | .ping => readControl p (.ok (a, some (.ping p.payload)))
  | .pong => readControl p (.ok (a, some (.pong p.payload)))
  | .reserved code => a.readReserved p code

/-- The packet may be read, whatever its kind is. -/
structure Admits (a : Assembly) (p : Packet) : Prop where
  sized : p.payload.length ≤ a.limits.packetSize
  unclosed : a.isClosed = false
  unreserved : p.reserved = 0
  unmasked : p.masked = false

theorem read_of_admits (admits : a.Admits p) : a.read p = a.readKind p := by
  obtain ⟨sized, unclosed, unreserved, unmasked⟩ := admits
  rw [read, if_neg (Nat.not_lt.mpr sized), unclosed, unreserved, unmasked]
  rfl

/-- Of what any packet may be refused for, only its own size is a matter of size. -/
theorem read_admitted (a : Assembly) (p : Packet) : a.Admits p ∨ ∃ fault, a.read p = .error fault ∧
    fault.isEnd = false ∧ (fault.isForSize = true → a.limits.packetSize < p.payload.length) := by
  unfold read
  split
  · exact .inr ⟨_, rfl, rfl, fun _ => ‹_›⟩
  · rename_i sized
    split
    · exact .inr ⟨_, rfl, rfl, nofun⟩
    · rename_i unclosed
      split
      · exact .inr ⟨_, rfl, rfl, nofun⟩
      · rename_i unreserved
        split
        · exact .inr ⟨_, rfl, rfl, nofun⟩
        · rename_i unmasked
          exact .inl ⟨Nat.not_lt.mp sized, by simpa using unclosed, by simpa using unreserved,
            by simpa using unmasked⟩

theorem complete_error {content : Bytes} (failed : complete isText content = .error fault) :
    ∃ text, fault = .utf8 text := by
  unfold complete at failed
  split at failed
  · split at failed
    · cases failed
    · cases failed
      exact ⟨_, rfl⟩
  · cases failed

theorem checkBeginning_error {content : Bytes} (failed : checkBeginning isText content = .error fault) :
    ∃ text, fault = .utf8 text := by
  unfold checkBeginning at failed
  split at failed
  · split at failed
    · cases failed
      exact ⟨_, rfl⟩
    · cases failed
  · cases failed

/-- What reading a control packet comes to. -/
inductive ReadsControl (a : Assembly) (p : Packet) : Outcome → Prop where
  | refused {fault : Fault} (breaks : fault.isEnd = false)
      (sized : fault.isForSize = true → a.limits.packetSize < p.payload.length) :
      ReadsControl a p (.error fault)
  | told {b : Assembly} {m : Message} (limits : b.limits = a.limits) (fragment : b.fragment = a.fragment)
      (closed : b.isClosed = decide (p.opcode = .close)) (untold : Frame.ofMessage? m = none) :
      ReadsControl a p (.ok (b, some m))

/-- What reading a part of a message comes to. -/
inductive ReadsPart (a : Assembly) (p : Packet) : Outcome → Prop where
  | refused {fault : Fault} (breaks : fault.isEnd = false)
      (sized : fault.isForSize = true → a.limits.packetSize < p.payload.length ∨
        ∃ f, a.begun? p = some f ∧ a.limits.messageSize < (f.content ++ p.payload).length) :
      ReadsPart a p (.error fault)
  | completed {f : Fragment} {m : Message} (begun : a.begun? p = some f)
      (within : (f.content ++ p.payload).length ≤ a.limits.messageSize) (finished : p.fin = true)
      (whole : complete f.isText (f.content ++ p.payload) = .ok m) :
      ReadsPart a p (.ok ({ a with fragment := none }, some m))
  | goesOn {f : Fragment} (begun : a.begun? p = some f)
      (within : (f.content ++ p.payload).length ≤ a.limits.messageSize) (unfinished : p.fin = false) :
      ReadsPart a p (.ok ({ a with fragment := some ⟨f.isText, f.content ++ p.payload⟩ }, none))

theorem readControl_reads {rule : Outcome} (reads : ReadsControl a p rule) :
    ReadsControl a p (readControl p rule) := by
  unfold readControl
  split
  · exact .refused rfl nofun
  · split
    · exact .refused rfl nofun
    · exact reads

theorem readClose_reads (close : p.opcode = .close) : ReadsControl a p (a.readClose p) := by
  have told (notice : Option CloseNotice) :
      ReadsControl a p (.ok ({ a with isClosed := true }, some (.close notice))) :=
    .told rfl rfl (by simp [close]) rfl
  unfold readClose readNotice
  split
  · exact told none
  · exact .refused rfl nofun
  · split
    · exact told _
    · exact .refused rfl nofun

theorem readsControl (isControl : p.isControl = true) : ReadsControl a p (a.read p) := by
  rcases a.read_admitted p with admits | ⟨fault, failed, breaks, sized⟩
  · rw [read_of_admits admits, readKind]
    cases kind : p.opcode with
    | text | binary | continuation => simp [Packet.isControl, kind] at isControl
    | close => exact readControl_reads (readClose_reads kind)
    | ping | pong => exact readControl_reads (.told rfl rfl (by simp [admits.unclosed, kind]) rfl)
    | reserved code =>
        have high : 8 ≤ code := by simpa [Packet.isControl, kind] using isControl
        simp only [readReserved, high, if_true]
        exact readControl_reads (.refused rfl nofun)
  · rw [failed]
    exact .refused breaks sized

theorem extend_reads (begun : a.begun? p = some f) :
    ReadsPart a p (a.extend f.isText (f.content ++ p.payload) p.fin) := by
  unfold extend
  by_cases large : a.limits.messageSize < (f.content ++ p.payload).length
  · rw [if_pos large]
    exact .refused rfl fun _ => .inr ⟨f, begun, large⟩
  · rw [if_neg large]
    have within := Nat.not_lt.mp large
    cases fin : p.fin with
    | true =>
        cases whole : complete f.isText (f.content ++ p.payload) with
        | ok m => exact .completed begun within fin whole
        | error fault =>
            obtain ⟨text, rfl⟩ := complete_error whole
            exact .refused rfl nofun
    | false =>
        cases checked : checkBeginning f.isText (f.content ++ p.payload) with
        | ok => exact .goesOn begun within fin
        | error fault =>
            obtain ⟨text, rfl⟩ := checkBeginning_error checked
            exact .refused rfl nofun

theorem readsPart (isPart : p.isControl = false) : ReadsPart a p (a.read p) := by
  rcases a.read_admitted p with admits | ⟨fault, failed, breaks, sized⟩
  · rw [read_of_admits admits, readKind]
    cases kind : p.opcode with
    | close | ping | pong => simp [Packet.isControl, kind] at isPart
    | text | binary =>
        simp only [readFirst]
        cases fragment : a.fragment with
        | none => exact extend_reads (f := ⟨_, []⟩) (by simp [begun?, kind, fragment])
        | some f => exact .refused rfl nofun
    | continuation =>
        simp only [readContinuation]
        cases fragment : a.fragment with
        | none => exact .refused rfl nofun
        | some f => exact extend_reads (by simp [begun?, kind, fragment])
    | reserved code =>
        have low : ¬ 8 ≤ code := by simpa [Packet.isControl, kind] using isPart
        simp only [readReserved, low, if_false]
        cases a.fragment <;> exact .refused rfl nofun
  · rw [failed]
    exact .refused breaks fun large => .inl (sized large)

theorem frame_of_complete {content : Bytes} {m : Message} (whole : complete isText content = .ok m) :
    ∃ f : Frame, Frame.ofMessage? m = some f ∧ f.payload = content ∧ f.isBinary = !isText := by
  unfold complete at whole
  split at whole
  · rename_i isText
    split at whole
    · rename_i cs decoded
      cases whole
      refine ⟨.text (String.ofList cs), rfl, ?_, by simp [isText, Frame.isBinary]⟩
      rw [Frame.payload, Bytes.ofString, String.toList_ofList]
      exact Utf8.encode_of_decode decoded
    · cases whole
  · rename_i isBinary
    cases whole
    exact ⟨.binary content, rfl, rfl, by simp [isBinary, Frame.isBinary]⟩

/-- Each packet is read as a control packet or as a part of a message. This opens `read` once; the
    limits, the faults and what is kept are read off the two relations. -/
theorem read_reads {outcome : Outcome} (read : a.read p = outcome) :
    p.isControl = true ∧ ReadsControl a p outcome ∨ p.isControl = false ∧ ReadsPart a p outcome := by
  subst read
  cases kind : p.isControl with
  | true => exact .inl ⟨rfl, readsControl kind⟩
  | false => exact .inr ⟨rfl, readsPart kind⟩

/-- What ends the reading is told as a fault, not as an end. -/
theorem isEnd_of_read (read : a.read p = .error fault) : fault.isEnd = false := by
  rcases read_reads read with ⟨_, reads⟩ | ⟨_, reads⟩
  · cases reads with
    | refused breaks => exact breaks
  · cases reads with
    | refused breaks => exact breaks

/-! ## A packet that is read without a fault -/

theorem limits_of_read (read : a.read p = .ok (b, m)) : b.limits = a.limits := by
  rcases read_reads read with ⟨_, reads⟩ | ⟨_, reads⟩
  · cases reads with
    | told limits => exact limits
  · cases reads <;> rfl

theorem within_of_read (isPart : p.isControl = false) (read : a.read p = .ok (b, m)) :
    ∃ f, a.begun? p = some f ∧ (f.content ++ p.payload).length ≤ a.limits.messageSize := by
  have reads := readsPart (a := a) isPart
  rw [read] at reads
  cases reads with
  | completed begun within | goesOn begun within => exact ⟨_, begun, within⟩

theorem kept_of_read (isPart : p.isControl = false) (unfinished : p.fin = false)
    (begun : a.begun? p = some f) (read : a.read p = .ok (b, m)) :
    m = none ∧ b = { a with fragment := some ⟨f.isText, f.content ++ p.payload⟩ } := by
  have reads := readsPart (a := a) isPart
  rw [read] at reads
  cases reads with
  | completed _ _ finished => exact absurd (unfinished.symm.trans finished) nofun
  | goesOn same =>
      cases begun.symm.trans same
      exact ⟨rfl, rfl⟩

theorem fragment_of_read (read : a.read p = .ok (b, m)) :
    b.fragment.isSome = if p.isControl then a.fragment.isSome else !p.fin := by
  rcases read_reads read with ⟨isControl, reads⟩ | ⟨isPart, reads⟩
  · cases reads with
    | told _ fragment => rw [fragment, if_pos isControl]
  · cases reads with
    | completed _ _ finished => simp [isPart, finished]
    | goesOn _ _ unfinished => simp [isPart, unfinished]

theorem isClosed_of_read (read : a.read p = .ok (b, m)) (unclosed : a.isClosed = false)
    (noClose : p.opcode ≠ .close) : b.isClosed = false := by
  rcases read_reads read with ⟨_, reads⟩ | ⟨_, reads⟩
  · cases reads with
    | told _ _ closed => rw [closed, decide_eq_false noClose]
  · cases reads <;> exact unclosed

theorem size_le_of_read {f : Frame} (read : a.read p = .ok (b, m)) (told : f ∈ Message.frames m.toList) :
    f.size ≤ a.limits.messageSize := by
  obtain ⟨message, some_message, isFrame⟩ := List.mem_filterMap.mp told
  obtain rfl := Option.mem_toList.mp some_message
  rcases read_reads read with ⟨_, reads⟩ | ⟨_, reads⟩
  · cases reads with
    | told _ _ _ untold => exact absurd (isFrame.symm.trans untold) nofun
  · cases reads with
    | completed _ within _ whole =>
        obtain ⟨g, isFrame', payload, _⟩ := frame_of_complete whole
        cases isFrame.symm.trans isFrame'
        rw [Frame.size, payload]
        exact within

/-! ## Many packets -/

/-- Packets that are all read without a fault, with the messages in them. -/
inductive Reads : Assembly → List Packet → List Message → Assembly → Prop where
  | nil {a : Assembly} : Reads a [] [] a
  | cons {a b c : Assembly} {p : Packet} {packets : List Packet} {m : Option Message}
      {messages : List Message} (read : a.read p = .ok (b, m)) (more : Reads b packets messages c) :
      Reads a (p :: packets) (m.toList ++ messages) c

theorem readAll_error (read : a.read p = .error fault) (rest : List Packet) :
    a.readAll (p :: rest) = ([], some fault) := by
  rw [readAll, read]

theorem readAll_ok (read : a.read p = .ok (b, m)) (rest : List Packet) :
    a.readAll (p :: rest) = (m.toList ++ (b.readAll rest).1, (b.readAll rest).2) := by
  rw [readAll, read]

theorem Reads.readAll_append {messages : List Message} (reads : Reads a packets messages b)
    (more : List Packet) :
    a.readAll (packets ++ more) = (messages ++ (b.readAll more).1, (b.readAll more).2) := by
  induction reads with
  | nil => rfl
  | cons read _ ih => rw [List.cons_append, readAll_ok read, ih, List.append_assoc]

theorem Reads.faultless {messages : List Message} (reads : Reads a packets messages b) :
    (a.readAll packets).2 = none := by
  have whole := reads.readAll_append []
  rw [List.append_nil] at whole
  rw [whole]
  rfl

/-- Packets are read up to a fault, behind which nothing is read, or all of them. -/
theorem reads_or_faults (a : Assembly) (packets : List Packet) :
    (∃ b, Reads a packets (a.readAll packets).1 b) ∨
      ∃ fault, fault.isEnd = false ∧
        ∀ more, a.readAll (packets ++ more) = ((a.readAll packets).1, some fault) := by
  induction packets generalizing a with
  | nil => exact .inl ⟨a, .nil⟩
  | cons p rest ih =>
      cases read : a.read p with
      | error fault =>
          refine .inr ⟨fault, isEnd_of_read read, fun more => ?_⟩
          rw [List.cons_append, readAll_error read, readAll_error read]
      | ok next =>
          obtain ⟨b, m⟩ := next
          rw [readAll_ok read]
          rcases ih b with ⟨c, reads⟩ | ⟨fault, breaks, stopped⟩
          · exact .inl ⟨c, .cons read reads⟩
          · refine .inr ⟨fault, breaks, fun more => ?_⟩
            rw [List.cons_append, readAll_ok read, stopped]

theorem fault_of_stopped {messages : List Message}
    (stopped : ∀ more, a.readAll (packets ++ more) = (messages, some fault)) :
    (a.readAll packets).2 = some fault := by
  have alone := stopped []
  rw [List.append_nil] at alone
  rw [alone]

theorem Reads.limits {messages : List Message} (reads : Reads a packets messages b) :
    b.limits = a.limits := by
  induction reads with
  | nil => rfl
  | cons read _ ih => exact ih.trans (limits_of_read read)

/-- A message was begun by these packets, and no part of it was its last. -/
def isUnfinished (packets : List Packet) : Bool :=
  packets.foldl (fun unfinished p => if p.isControl then unfinished else !p.fin) false

theorem Reads.fragment {messages : List Message} (reads : Reads a packets messages b) :
    b.fragment.isSome =
      packets.foldl (fun unfinished p => if p.isControl then unfinished else !p.fin) a.fragment.isSome := by
  induction reads with
  | nil => rfl
  | cons read _ ih => rw [ih, List.foldl_cons, fragment_of_read read]

theorem Reads.isClosed {messages : List Message} (reads : Reads a packets messages b)
    (unclosed : a.isClosed = false) (noClose : ∀ p ∈ packets, p.opcode ≠ .close) : b.isClosed = false := by
  induction reads with
  | nil => exact unclosed
  | cons read _ ih =>
      obtain ⟨first, others⟩ := List.forall_mem_cons.mp noClose
      exact ih (isClosed_of_read read unclosed first) others

/-- No data is told that is larger than a message may be. -/
theorem size_le_of_readAll (a : Assembly) (packets : List Packet) :
    ∀ f ∈ Message.frames (a.readAll packets).1, f.size ≤ a.limits.messageSize := by
  induction packets generalizing a with
  | nil => exact List.forall_mem_nil _
  | cons p rest ih =>
      cases read : a.read p with
      | error fault =>
          rw [readAll_error read]
          exact List.forall_mem_nil _
      | ok next =>
          obtain ⟨b, m⟩ := next
          rw [readAll_ok read, Message.frames_append]
          refine List.forall_mem_append.mpr ⟨fun f told => size_le_of_read read told, ?_⟩
          rw [← limits_of_read read]
          exact ih b

end Assembly

end WampClient.WebSocket
