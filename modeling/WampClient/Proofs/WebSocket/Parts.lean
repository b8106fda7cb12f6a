import WampClient.Proofs.Text.WellFormed
import WampClient.Proofs.WebSocket.Packets

/-! # Messages in parts

A data message is spread over packets: its first part, later parts, and control packets anywhere
between them. What its parts hold together is its content. If the content is too large, reading
faults at the latest at the part that makes it so, and has told nothing of it. If it is not, no part
of the message is at fault for its size, and packets in good order give the message.
-/

namespace WampClient.WebSocket

/-- What the parts among some packets hold together. -/
def content (packets : List Packet) : Bytes :=
  packets.flatMap fun p => if p.isControl then [] else p.payload

/-- Packets behind the first part of a message. If the message is done, its last part is the last of
    them. -/
inductive Continued : (done : Bool) → List Packet → Prop where
  | nil : Continued false []
  | control {done : Bool} {p : Packet} {rest : List Packet} (isControl : p.isControl = true)
      (more : Continued done rest) : Continued done (p :: rest)
  | part {done : Bool} {p : Packet} {rest : List Packet} (later : p.opcode = .continuation)
      (unfinished : p.fin = false) (more : Continued done rest) : Continued done (p :: rest)
  | last {p : Packet} (later : p.opcode = .continuation) (finished : p.fin = true) :
      Continued true [p]

/-- The packets of one data message, and control packets between them. What is shown of a message is
    shown by induction over how it is spread. -/
inductive Spread (isText : Bool) : (done : Bool) → List Packet → Prop where
  | whole {p : Packet} (kind : p.opcode = if isText then .text else .binary) (finished : p.fin = true) :
      Spread isText true [p]
  | parts {done : Bool} {p : Packet} {rest : List Packet}
      (kind : p.opcode = if isText then .text else .binary) (unfinished : p.fin = false)
      (more : Continued done rest) : Spread isText done (p :: rest)

variable {isText done : Bool} {p : Packet} {rest packets : List Packet}

theorem content_nil : content [] = [] :=
  List.flatMap_nil

theorem content_control (isControl : p.isControl = true) (rest : List Packet) :
    content (p :: rest) = content rest := by
  simp [content, isControl]

theorem content_part (isPart : p.isControl = false) (rest : List Packet) :
    content (p :: rest) = p.payload ++ content rest := by
  simp [content, isPart]

theorem isControl_of_continuation (later : p.opcode = .continuation) : p.isControl = false := by
  simp [Packet.isControl, later]

theorem isControl_of_kind (kind : p.opcode = if isText then .text else .binary) :
    p.isControl = false := by
  cases isText <;> simp [Packet.isControl, kind]

theorem length_pieces (front : Bytes) {piece rest : Bytes} {size : Nat}
    (fits : (front ++ piece ++ rest).length ≤ size) :
    (front ++ piece).length ≤ size ∧ piece.length ≤ size := by
  simp only [List.length_append] at fits ⊢
  omega

namespace Assembly

variable {a b : Assembly} {m : Option Message} {f : Fragment} {fault : Fault}

/-! ## Messages that are too large -/

/-- Reading packets ends in a fault, and no data is told before. -/
structure Refuses (a : Assembly) (packets : List Packet) : Prop where
  faults : ∃ fault, (a.readAll packets).2 = some fault ∧ fault.isEnd = false
  untold : Message.frames (a.readAll packets).1 = []

theorem refuses_of_error (read : a.read p = .error fault) (rest : List Packet) : a.Refuses (p :: rest) := by
  constructor
  · exact ⟨fault, by rw [readAll_error read], isEnd_of_read read⟩
  · rw [readAll_error read]
    rfl

theorem refuses_of_ok (read : a.read p = .ok (b, m)) (untold : Message.frames m.toList = [])
    (refuses : b.Refuses rest) : a.Refuses (p :: rest) := by
  constructor
  · rw [readAll_ok read]
    exact refuses.faults
  · rw [readAll_ok read, Message.frames_append, untold, refuses.untold]
    rfl

theorem refuses_of_continued (continued : Continued done rest) (fragment : a.fragment = some f)
    (within : f.content.length ≤ a.limits.messageSize)
    (large : a.limits.messageSize < (f.content ++ content rest).length) (after : List Packet) :
    a.Refuses (rest ++ after) := by
  induction continued generalizing a f with
  | nil => exact absurd large (by simpa [content] using within)
  | @control _ p rest isControl _ ih =>
      have reads := readsControl (a := a) isControl
      generalize read : a.read p = outcome at reads
      cases reads with
      | refused => exact refuses_of_error read _
      | told limits same _ untold =>
          rw [content_control isControl] at large
          refine refuses_of_ok read (by simp [Message.frames, untold]) (ih (same.trans fragment) ?_ ?_)
          · rwa [limits]
          · rwa [limits]
  | @part _ p rest later unfinished _ ih =>
      have isPart := isControl_of_continuation later
      cases read : a.read p with
      | error => exact refuses_of_error read _
      | ok next =>
          obtain ⟨b, m⟩ := next
          obtain ⟨g, begun, within⟩ := within_of_read isPart read
          obtain ⟨rfl, rfl⟩ := kept_of_read isPart unfinished begun read
          rw [begun?_of_continuation later, fragment] at begun
          cases begun
          rw [content_part isPart, ← List.append_assoc] at large
          exact refuses_of_ok read rfl (ih rfl within large)
  | @last p later finished =>
      have isPart := isControl_of_continuation later
      cases read : a.read p with
      | error => exact refuses_of_error read _
      | ok next =>
          obtain ⟨g, begun, within⟩ := within_of_read isPart read
          rw [begun?_of_continuation later, fragment] at begun
          cases begun
          rw [content_part isPart, ← List.append_assoc, content_nil, List.append_nil] at large
          exact absurd large (Nat.not_lt.mpr within)

/-- Reading a message that is too large ends in a fault, wherever it begins. -/
theorem refuses_of_spread (spread : Spread isText done packets)
    (large : a.limits.messageSize < (content packets).length) (after : List Packet) :
    a.Refuses (packets ++ after) := by
  cases spread with
  | @whole p kind finished =>
      have isPart := isControl_of_kind kind
      rw [content_part isPart, content_nil, List.append_nil] at large
      cases read : a.read p with
      | error => exact refuses_of_error read _
      | ok next =>
          obtain ⟨f, begun, within⟩ := within_of_read isPart read
          obtain ⟨_, rfl⟩ := (begun?_of_kind kind).mp begun
          exact absurd large (Nat.not_lt.mpr within)
  | @parts _ p rest kind unfinished more =>
      have isPart := isControl_of_kind kind
      rw [content_part isPart] at large
      cases read : a.read p with
      | error => exact refuses_of_error read _
      | ok next =>
          obtain ⟨b, m⟩ := next
          obtain ⟨f, begun, within⟩ := within_of_read isPart read
          obtain ⟨rfl, rfl⟩ := kept_of_read isPart unfinished begun read
          obtain ⟨_, rfl⟩ := (begun?_of_kind kind).mp begun
          exact refuses_of_ok read rfl (refuses_of_continued more rfl within large after)

/-- Behind a message that is too large nothing is read, and it tells no data. -/
theorem readAll_overflow (spread : Spread isText done packets)
    (large : a.limits.messageSize < (content packets).length) (before after : List Packet) :
    (∃ fault, (a.readAll (before ++ packets ++ after)).2 = some fault ∧ fault.isEnd = false) ∧
      Message.frames (a.readAll (before ++ packets ++ after)).1 = Message.frames (a.readAll before).1 := by
  rw [List.append_assoc]
  rcases a.reads_or_faults before with ⟨b, reads⟩ | ⟨fault, breaks, stopped⟩
  · rw [← reads.limits] at large
    obtain ⟨faults, untold⟩ := refuses_of_spread spread large after
    rw [reads.readAll_append, Message.frames_append, untold, List.append_nil]
    exact ⟨faults, rfl⟩
  · rw [stopped]
    exact ⟨⟨fault, rfl, breaks⟩, rfl⟩

/-! ## Messages that are not too large -/

/-- Size is a fault only of a control packet that is itself too large. -/
def BlamesControl (a : Assembly) (packets : List Packet) : Prop :=
  ∀ fault, (a.readAll packets).2 = some fault → fault.isForSize = true →
    ∃ p ∈ packets, p.isControl = true ∧ a.limits.packetSize < p.payload.length

theorem blamesControl_of_error (read : a.read p = .error fault)
    (sized : fault.isForSize = true → p.isControl = true ∧ a.limits.packetSize < p.payload.length)
    (rest : List Packet) : a.BlamesControl (p :: rest) := by
  intro other failed large
  rw [readAll_error read] at failed
  cases failed
  exact ⟨p, List.mem_cons_self, sized large⟩

theorem blamesControl_of_ok (read : a.read p = .ok (b, m)) (blames : b.BlamesControl rest) :
    a.BlamesControl (p :: rest) := by
  intro fault failed large
  rw [readAll_ok read] at failed
  obtain ⟨q, member, isControl, sized⟩ := blames fault failed large
  exact ⟨q, List.mem_cons_of_mem _ member, isControl, limits_of_read read ▸ sized⟩

theorem blamesControl_part (isPart : p.isControl = false) (small : p.payload.length ≤ a.limits.packetSize)
    (fits : ∀ f, a.begun? p = some f → (f.content ++ p.payload).length ≤ a.limits.messageSize)
    (next : ∀ b m, a.read p = .ok (b, m) → b.BlamesControl rest) : a.BlamesControl (p :: rest) := by
  cases read : a.read p with
  | ok outcome => exact blamesControl_of_ok read (next _ _ read)
  | error fault =>
      have reads := readsPart (a := a) isPart
      rw [read] at reads
      cases reads with
      | refused _ sized =>
          refine blamesControl_of_error read (fun large => ?_) rest
          rcases sized large with own | ⟨f, begun, whole⟩
          · exact absurd own (Nat.not_lt.mpr small)
          · exact absurd whole (Nat.not_lt.mpr (fits f begun))

theorem blamesControl_of_continued (continued : Continued done rest) (fragment : a.fragment = some f)
    (fits : (f.content ++ content rest).length ≤ a.limits.messageSize)
    (roomy : a.limits.messageSize ≤ a.limits.packetSize) : a.BlamesControl rest := by
  induction continued generalizing a f with
  | nil => exact nofun
  | @control _ p rest isControl _ ih =>
      have reads := readsControl (a := a) isControl
      generalize read : a.read p = outcome at reads
      cases reads with
      | refused _ sized => exact blamesControl_of_error read (fun large => ⟨isControl, sized large⟩) rest
      | told limits same =>
          rw [content_control isControl] at fits
          exact blamesControl_of_ok read (ih (same.trans fragment) (by rwa [limits]) (by rwa [limits]))
  | @part _ p rest later unfinished _ ih =>
      have isPart := isControl_of_continuation later
      have begun : a.begun? p = some f := (begun?_of_continuation later).trans fragment
      rw [content_part isPart, ← List.append_assoc] at fits
      obtain ⟨grown, small⟩ := length_pieces f.content fits
      refine blamesControl_part isPart (Nat.le_trans small roomy) ?_ ?_
      · intro g same
        cases begun.symm.trans same
        exact grown
      · intro b m read
        obtain ⟨_, rfl⟩ := kept_of_read isPart unfinished begun read
        exact ih rfl fits roomy
  | @last p later finished =>
      have isPart := isControl_of_continuation later
      rw [content_part isPart, ← List.append_assoc] at fits
      obtain ⟨grown, small⟩ := length_pieces f.content fits
      refine blamesControl_part isPart (Nat.le_trans small roomy) ?_ (fun _ _ _ => nofun)
      intro g same
      cases ((begun?_of_continuation later).trans fragment).symm.trans same
      exact grown

/-- A message that is not too large is not refused for its size, wherever it begins. -/
theorem blamesControl_of_spread (spread : Spread isText done packets)
    (fits : (content packets).length ≤ a.limits.messageSize)
    (roomy : a.limits.messageSize ≤ a.limits.packetSize) : a.BlamesControl packets := by
  cases spread with
  | @whole p kind finished =>
      have isPart := isControl_of_kind kind
      rw [content_part isPart, content_nil, List.append_nil] at fits
      refine blamesControl_part isPart (Nat.le_trans fits roomy) ?_ (fun _ _ _ => nofun)
      intro f begun
      obtain ⟨_, rfl⟩ := (begun?_of_kind kind).mp begun
      exact fits
  | @parts _ p rest kind unfinished more =>
      have isPart := isControl_of_kind kind
      rw [content_part isPart] at fits
      obtain ⟨_, small⟩ := length_pieces [] fits
      refine blamesControl_part isPart (Nat.le_trans small roomy) ?_ ?_
      · intro f begun
        obtain ⟨_, rfl⟩ := (begun?_of_kind kind).mp begun
        exact small
      · intro b m read
        obtain ⟨f, begun, _⟩ := within_of_read isPart read
        obtain ⟨_, rfl⟩ := kept_of_read isPart unfinished begun read
        obtain ⟨_, rfl⟩ := (begun?_of_kind kind).mp begun
        exact blamesControl_of_continued more rfl fits roomy

/-- If reading faults for size at a message that is not too large, then what comes before it was
    refused already, or a control packet between its parts is at fault. -/
theorem readAll_fits (spread : Spread isText done packets)
    (fits : (content packets).length ≤ a.limits.messageSize)
    (roomy : a.limits.messageSize ≤ a.limits.packetSize) (before : List Packet)
    (failed : (a.readAll (before ++ packets)).2 = some fault) (sized : fault.isForSize = true) :
    (a.readAll before).2 = some fault ∨
      ∃ p ∈ packets, p.isControl = true ∧ a.limits.packetSize < p.payload.length := by
  rcases a.reads_or_faults before with ⟨b, reads⟩ | ⟨fault', _, stopped⟩
  · rw [← reads.limits] at fits roomy ⊢
    rw [reads.readAll_append] at failed
    exact .inr (blamesControl_of_spread spread fits roomy fault failed sized)
  · rw [stopped] at failed
    cases failed
    exact .inl (fault_of_stopped stopped)

/-! ## Messages in good order -/

/-- What the wire format asks of a packet from a server. A control packet is a ping or a pong here: a
    close packet ends all messages. -/
structure IsOrderly (limits : Limits) (p : Packet) : Prop where
  unreserved : p.reserved = 0
  unmasked : p.masked = false
  control : p.isControl = true → (p.opcode = .ping ∨ p.opcode = .pong) ∧ p.fin = true ∧
    p.payload.length ≤ maxControlSize ∧ p.payload.length ≤ limits.packetSize

/-- Reading packets meets no fault and tells one frame. -/
structure Delivers (a : Assembly) (packets : List Packet) (isText : Bool) (bytes : Bytes) : Prop where
  faultless : (a.readAll packets).2 = none
  told : ∃ f, Message.frames (a.readAll packets).1 = [f] ∧ f.payload = bytes ∧ f.isBinary = !isText

theorem read_control (isControl : p.isControl = true) (orderly : IsOrderly a.limits p)
    (unclosed : a.isClosed = false) : ∃ m, a.read p = .ok (a, some m) ∧ Frame.ofMessage? m = none := by
  obtain ⟨kinds, fin, short, sized⟩ := orderly.control isControl
  rw [read_of_admits ⟨sized, unclosed, orderly.unreserved, orderly.unmasked⟩, readKind]
  rcases kinds with kind | kind
  · simp only [kind, readControl, fin, Nat.not_lt.mpr short, Bool.not_true, Bool.false_eq_true, if_false]
    exact ⟨_, rfl, rfl⟩
  · simp only [kind, readControl, fin, Nat.not_lt.mpr short, Bool.not_true, Bool.false_eq_true, if_false]
    exact ⟨_, rfl, rfl⟩

theorem read_part (admits : a.Admits p) (begun : a.begun? p = some f) :
    a.read p = a.extend f.isText (f.content ++ p.payload) p.fin := by
  rw [read_of_admits admits, readKind]
  cases kind : p.opcode <;> cases fragment : a.fragment <;>
    simp [begun?, kind, fragment] at begun <;> subst begun <;>
    simp [readFirst, readContinuation, fragment]

theorem extend_finished {content : Bytes} (fits : content.length ≤ a.limits.messageSize)
    (wellFormed : isText = true → Utf8.IsWellFormed content) : ∃ m, complete isText content = .ok m ∧
      a.extend isText content true = .ok ({ a with fragment := none }, some m) := by
  have whole : ∃ m, complete isText content = .ok m := by
    unfold complete
    cases isText with
    | false => exact ⟨_, rfl⟩
    | true =>
        obtain ⟨cs, decoded⟩ := Utf8.exists_decode_iff.mpr (wellFormed rfl)
        rw [if_pos rfl, decoded]
        exact ⟨_, rfl⟩
  obtain ⟨m, whole⟩ := whole
  refine ⟨m, whole, ?_⟩
  rw [extend, if_neg (Nat.not_lt.mpr fits), whole]
  rfl

theorem extend_unfinished {content later : Bytes} (fits : content.length ≤ a.limits.messageSize)
    (wellFormed : isText = true → Utf8.IsWellFormed (content ++ later)) :
    a.extend isText content false = .ok ({ a with fragment := some ⟨isText, content⟩ }, none) := by
  have checked : checkBeginning isText content = .ok () := by
    unfold checkBeginning
    cases isText with
    | false => rfl
    | true =>
        rw [if_pos rfl]
        split
        · rename_i failed
          cases Utf8.cutShort_of_append (wellFormed rfl) failed
        · rfl
  rw [extend, if_neg (Nat.not_lt.mpr fits), checked]
  rfl

theorem delivers_of_told {told : Message} {bytes : Bytes} (read : a.read p = .ok (b, some told))
    (untold : Frame.ofMessage? told = none) (delivers : b.Delivers rest isText bytes) :
    a.Delivers (p :: rest) isText bytes := by
  constructor
  · rw [readAll_ok read]
    exact delivers.faultless
  · rw [readAll_ok read, Message.frames_append]
    simpa [Message.frames, untold] using delivers.told

theorem delivers_of_more {bytes : Bytes} (read : a.read p = .ok (b, none))
    (delivers : b.Delivers rest isText bytes) : a.Delivers (p :: rest) isText bytes := by
  constructor <;> rw [readAll_ok read]
  · exact delivers.faultless
  · exact delivers.told

theorem delivers_of_last {told : Message} {bytes : Bytes} (read : a.read p = .ok (b, some told))
    (whole : complete isText bytes = .ok told) : a.Delivers [p] isText bytes := by
  obtain ⟨f, isFrame, same⟩ := frame_of_complete whole
  constructor <;> rw [readAll_ok read]
  · rfl
  · exact ⟨f, by simp [Message.frames, isFrame, readAll], same⟩

theorem delivers_of_continued (continued : Continued true rest) (fragment : a.fragment = some f)
    (unclosed : a.isClosed = false) (orderly : ∀ p ∈ rest, IsOrderly a.limits p)
    (fits : (f.content ++ content rest).length ≤ a.limits.messageSize)
    (roomy : a.limits.messageSize ≤ a.limits.packetSize)
    (wellFormed : f.isText = true → Utf8.IsWellFormed (f.content ++ content rest)) :
    a.Delivers rest f.isText (f.content ++ content rest) := by
  generalize isDone : true = done at continued
  induction continued generalizing a f with
  | nil => cases isDone
  | @control _ p rest isControl _ ih =>
      obtain ⟨first, others⟩ := List.forall_mem_cons.mp orderly
      obtain ⟨m, read, untold⟩ := read_control isControl first unclosed
      rw [content_control isControl] at fits wellFormed ⊢
      exact delivers_of_told read untold (ih fragment unclosed others fits roomy wellFormed isDone)
  | @part _ p rest later unfinished _ ih =>
      have isPart := isControl_of_continuation later
      obtain ⟨first, others⟩ := List.forall_mem_cons.mp orderly
      rw [content_part isPart, ← List.append_assoc] at fits wellFormed ⊢
      obtain ⟨grown, small⟩ := length_pieces f.content fits
      have read := read_part ⟨Nat.le_trans small roomy, unclosed, first.unreserved, first.unmasked⟩
        ((begun?_of_continuation later).trans fragment)
      rw [unfinished, extend_unfinished grown wellFormed] at read
      refine delivers_of_more read ?_
      exact ih (a := { a with fragment := some ⟨f.isText, _⟩ }) (f := ⟨f.isText, _⟩) rfl unclosed others
        fits roomy wellFormed isDone
  | @last p later finished =>
      have isPart := isControl_of_continuation later
      have first := orderly p List.mem_cons_self
      rw [content_part isPart, ← List.append_assoc] at fits
      obtain ⟨grown, small⟩ := length_pieces f.content fits
      rw [content_part isPart, content_nil, List.append_nil] at wellFormed ⊢
      have read := read_part ⟨Nat.le_trans small roomy, unclosed, first.unreserved, first.unmasked⟩
        ((begun?_of_continuation later).trans fragment)
      obtain ⟨m, whole, made⟩ := extend_finished grown wellFormed
      rw [finished, made] at read
      exact delivers_of_last read whole

theorem delivers_of_spread (spread : Spread isText true packets) (unfinished : a.fragment = none)
    (unclosed : a.isClosed = false) (orderly : ∀ p ∈ packets, IsOrderly a.limits p)
    (fits : (content packets).length ≤ a.limits.messageSize)
    (roomy : a.limits.messageSize ≤ a.limits.packetSize)
    (wellFormed : isText = true → Utf8.IsWellFormed (content packets)) :
    a.Delivers packets isText (content packets) := by
  cases spread with
  | @whole p kind finished =>
      have isPart := isControl_of_kind kind
      have first := orderly p List.mem_cons_self
      rw [content_part isPart, content_nil, List.append_nil] at fits wellFormed ⊢
      have read := read_part ⟨Nat.le_trans fits roomy, unclosed, first.unreserved, first.unmasked⟩
        ((begun?_of_kind kind).mpr ⟨unfinished, rfl⟩)
      obtain ⟨m, whole, made⟩ := extend_finished fits wellFormed
      rw [finished, List.nil_append, made] at read
      exact delivers_of_last read whole
  | @parts _ p rest kind unfinished' more =>
      have isPart := isControl_of_kind kind
      obtain ⟨first, others⟩ := List.forall_mem_cons.mp orderly
      rw [content_part isPart] at fits wellFormed ⊢
      obtain ⟨_, small⟩ := length_pieces [] fits
      have read := read_part ⟨Nat.le_trans small roomy, unclosed, first.unreserved, first.unmasked⟩
        ((begun?_of_kind kind).mpr ⟨unfinished, rfl⟩)
      rw [unfinished', List.nil_append, extend_unfinished small wellFormed] at read
      refine delivers_of_more read ?_
      exact delivers_of_continued (f := ⟨isText, _⟩) more rfl unclosed others fits roomy wellFormed

/-- A message in good order that is not too large is told, behind what was told before. -/
theorem readAll_delivers {limits : Limits} {before : List Packet} (spread : Spread isText true packets)
    (fits : (content packets).length ≤ limits.messageSize) (roomy : limits.messageSize ≤ limits.packetSize)
    (orderly : ∀ p ∈ packets, IsOrderly limits p)
    (wellFormed : isText = true → Utf8.IsWellFormed (content packets))
    (faultless : ((empty limits).readAll before).2 = none) (between : isUnfinished before = false)
    (noClose : ∀ p ∈ before, p.opcode ≠ .close) :
    ((empty limits).readAll (before ++ packets)).2 = none ∧ ∃ f : Frame,
      Message.frames ((empty limits).readAll (before ++ packets)).1 =
        Message.frames ((empty limits).readAll before).1 ++ [f] ∧
      f.payload = content packets ∧ f.isBinary = !isText := by
  rcases (empty limits).reads_or_faults before with ⟨b, reads⟩ | ⟨fault, _, stopped⟩
  · have same : b.limits = limits := reads.limits
    have unfinished : b.fragment = none := by
      have none_open : b.fragment.isSome = false := reads.fragment.trans between
      simpa using none_open
    obtain ⟨faultless, f, told, frame⟩ := delivers_of_spread (a := b) spread unfinished
      (reads.isClosed rfl noClose) (same ▸ orderly) (same ▸ fits) (same ▸ roomy) wellFormed
    rw [reads.readAll_append, Message.frames_append, told]
    exact ⟨faultless, f, rfl, frame⟩
  · exact absurd (faultless.symm.trans (fault_of_stopped stopped)) nofun

end Assembly

end WampClient.WebSocket
