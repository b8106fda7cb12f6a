import WampClient.Proofs.Socket.Events
import WampClient.Proofs.WebSocket.Parts

/-! # The limit on inbound messages

A socket tells the data in what it reads, and a fault that it reads ends it. Of packets that hold a
message above the limit, only what is in front of that message is told, and the socket fails. A
message up to the limit is never the reason that a socket fails for a size.
-/

namespace WampClient

open WebSocket (Packet Message Assembly Spread content)
open WebSocket.Assembly (IsOrderly isUnfinished)

def Event.frame? : Event → Option Frame
  | .message f => some f
  | .opened | .closing _ _ | .closed _ _ | .failure _ => none

def Event.frames (events : List Event) : List Frame :=
  events.filterMap frame?

def Reading.events (readings : List Reading) : List Event :=
  readings.filterMap event?

/-- What is read of packets: the messages in them, and then the fault that ends the reading or, if
    there is none, the end of the stream, which may itself come with a fault. -/
def Reading.ofPackets (limits : WebSocket.Limits) (packets : List Packet) (last : Option WebSocket.Fault) :
    List Reading :=
  let read := (Assembly.empty limits).readAll packets
  read.1.map .message ++ [(read.2.or last).elim .ended .fault]

theorem Event.mem_frames {f : Frame} {events : List Event} : f ∈ frames events ↔ .message f ∈ events := by
  simp only [frames, List.mem_filterMap]
  constructor
  · rintro ⟨e, member, told⟩
    cases e <;> cases told
    exact member
  · intro member
    exact ⟨_, member, rfl⟩

theorem Event.frames_append (first more : List Event) :
    frames (first ++ more) = frames first ++ frames more :=
  List.filterMap_append

theorem Reading.events_append (first more : List Reading) :
    events (first ++ more) = events first ++ events more :=
  List.filterMap_append

theorem Reading.frames_events (messages : List Message) :
    Event.frames (events (messages.map .message)) = Message.frames messages := by
  induction messages with
  | nil => rfl
  | cons m rest ih =>
      rw [List.map_cons, ← List.singleton_append, events_append, Event.frames_append, ih]
      cases m <;> rfl

namespace Socket

variable {s t u : Socket} {inputs : List Input} {events : List Event} {outputs first : List Output}
  {entries : List Entry} {unusable : Option Error} {stage : Stage} {h : Handshake} {nonce : Nonce}
  {clock : Instant} {fault : WebSocket.Fault}

/-! ## What is told of what was read -/

theorem Tells.frames (tells : Tells unusable inputs events stage) :
    Event.frames events = Event.frames (Reading.events (readings inputs)) := by
  by_cases opened : Opens inputs
  · obtain ⟨last, terminal, told⟩ := tells.opened opened
    have untold : Event.frames last.toList = [] := by
      cases last with
      | none => rfl
      | some e => cases e <;> first | rfl | cases terminal _ rfl
    rw [told, ← List.singleton_append, Event.frames_append, Event.frames_append, untold, List.append_nil]
    rfl
  · obtain ⟨refusal, _, told⟩ := tells.unopened opened
    rw [told, tells.unread opened]
    cases refusal <;> rfl

theorem readWhileReady_fault (s : Socket) (w : Watch) (breaks : fault.isEnd = false) :
    s.readWhileReady w (.fault fault) = s.fail (.webSocket fault) := by
  cases fault <;> first | rfl | cases breaks

theorem Run.failure_of_fault (run : Run s entries u) (breaks : fault.isEnd = false)
    (read : .fault fault ∈ readings (taken entries)) :
    .failure (Error.webSocket fault).message ∈ given first entries := by
  obtain ⟨i, taken_i, brings⟩ := List.mem_filterMap.mp read
  obtain ⟨entry, member, rfl⟩ := List.mem_map.mp taken_i
  have isRead : entry.input = .read (.fault fault) := by
    cases input : entry.input <;> rw [input] at brings <;> cases brings
    rfl
  obtain ⟨before, after, rfl⟩ := List.append_of_mem member
  obtain ⟨t, v, _, made, _, _⟩ := run.split
  rw [isRead] at made
  generalize outputs : entry.outputs = acts at made
  cases act_of_step? made with
  | read w _ stage =>
      rw [readWhileReady_fault t w breaks] at outputs
      rw [given_append]
      refine List.mem_append_right _ (mem_emitted.mpr ?_)
      simp [outputs, fail, finish]

theorem Tells.ended_of_failure {message : String} (tells : Tells unusable inputs events stage)
    (told : .failure message ∈ events) (read : readings inputs ≠ []) :
    stage = .finished ∧ events = .opened :: Reading.events (readings inputs) ++ [.failure message] := by
  have finished : stage = .finished := by
    by_cases finished : stage = .finished
    · exact finished
    · cases tells.unended finished _ told
  subst finished
  refine ⟨rfl, ?_⟩
  rcases tells with ended | refused
  · obtain ⟨last, _, whole, _⟩ := ended.ended
    rw [whole] at told ⊢
    rcases List.mem_append.mp told with earlier | now
    · rcases List.mem_cons.mp earlier with same | event
      · cases same
      · obtain ⟨r, _, same⟩ := List.mem_filterMap.mp event
        cases Reading.unended_of_event? same
    · rw [← List.mem_singleton.mp now]
      rfl
  · exact absurd refused.unread read

/-- A socket that has read a fault has failed with it, after all that it had read before. -/
theorem Run.failed (start : Socket.start h nonce clock = (s, first)) (run : Run s entries u)
    (breaks : fault.isEnd = false) (read : .fault fault ∈ readings (taken entries)) :
    u.stage = .finished ∧ given first entries =
      .opened :: Reading.events (readings (taken entries)) ++ [.failure (Error.webSocket fault).message] :=
  (run.tells start).ended_of_failure (run.failure_of_fault breaks read) (List.ne_nil_of_mem read)

/-! ## Reading packets -/

theorem ofPackets_of_fault {limits : WebSocket.Limits} {packets : List Packet}
    (failed : ((Assembly.empty limits).readAll packets).2 = some fault) (last : Option WebSocket.Fault) :
    Reading.ofPackets limits packets last =
      ((Assembly.empty limits).readAll packets).1.map .message ++ [.fault fault] := by
  rw [Reading.ofPackets, failed]
  rfl

theorem frames_ofPackets (limits : WebSocket.Limits) (packets : List Packet) (last : Option WebSocket.Fault) :
    Event.frames (Reading.events (Reading.ofPackets limits packets last)) =
      Message.frames ((Assembly.empty limits).readAll packets).1 := by
  rw [Reading.ofPackets, Reading.events_append, Event.frames_append, Reading.frames_events]
  cases (((Assembly.empty limits).readAll packets).2.or last) <;> exact List.append_nil _

theorem frames_mono {first all : List Reading} (begins : first <+: all) :
    Event.frames (Reading.events first) <+: Event.frames (Reading.events all) :=
  (begins.filterMap _).filterMap _

theorem fault_of_ofPackets {limits : WebSocket.Limits} {packets : List Packet} {last : Option WebSocket.Fault}
    (read : .fault fault ∈ Reading.ofPackets limits packets last) :
    ((Assembly.empty limits).readAll packets).2 = some fault ∨ last = some fault := by
  rcases List.mem_append.mp read with message | ended
  · obtain ⟨_, _, same⟩ := List.mem_map.mp message
    cases same
  · cases failed : ((Assembly.empty limits).readAll packets).2 <;> cases last <;>
      simp_all

/-! ## Packets with a message within or above the limit -/

/-- A data message, done or only begun, stands among packets behind others. -/
structure Holds (packets before message : List Packet) (isText done : Bool) : Prop where
  front : before ++ message <+: packets
  spread : Spread isText done message

/-- Nothing but its size could keep a message from being told. -/
structure IsProper (limits : WebSocket.Limits) (before message : List Packet) (isText : Bool) : Prop where
  orderly : ∀ p ∈ message, IsOrderly limits p
  wellFormed : isText = true → Utf8.IsWellFormed (content message)
  faultless : ((Assembly.empty limits).readAll before).2 = none
  between : isUnfinished before = false
  unclosed : ∀ p ∈ before, p.opcode ≠ .close

/-- A connection ends at a message above the limit, after these data. -/
structure EndsAtLimit (told : List Frame) (arrived read : List Reading) (u : Socket) (events : List Event) :
    Prop where
  untold : Event.frames events <+: told
  ends : ∃ others fault, arrived = others ++ [.fault fault] ∧
    (∀ w, u.stage = .ready w → u.step? (.read (.fault fault)) = some (u.fail (.webSocket fault))) ∧
    (read = arrived → u.stage = .finished ∧ Event.frames events = told ∧
      events = .opened :: Reading.events others ++ [.failure (Error.webSocket fault).message])

/-- What a socket with a limit makes of the packets that it reads. A message above the limit is
    never told and ends the connection, however it is spread over packets. One up to the limit is
    told if nothing else is wrong with it, and is never the reason that the connection fails for a
    size. -/
structure SizeLimit (limits : WebSocket.Limits) (packets : List Packet) (last : Option WebSocket.Fault)
    (size : Nat) (read : List Reading) (u : Socket) (events : List Event) : Prop where
  bounded : ∀ f, .message f ∈ events → f.size ≤ size
  oversized : ∀ before message isText done, Holds packets before message isText done →
    size < (content message).length →
      EndsAtLimit (Message.frames ((Assembly.empty limits).readAll before).1)
        (Reading.ofPackets limits packets last) read u events
  /-- What fails for a size has come behind the message, was there before it, or is a control packet. -/
  unblamed : ∀ before message isText done, Holds packets before message isText done →
    (content message).length ≤ size → ∀ fault : WebSocket.Fault, .fault fault ∈ read →
      fault.isForSize = true → last ≠ some fault →
        ((Assembly.empty limits).readAll (before ++ message)).2 = none ∨
          ((Assembly.empty limits).readAll before).2 = some fault ∨
            ∃ p ∈ message, p.isControl = true ∧ size < p.payload.length
  delivered : ∀ before message isText, Holds packets before message isText true →
    (content message).length ≤ size → IsProper limits before message isText →
      ((Assembly.empty limits).readAll (before ++ message)).2 = none ∧
        ∃ f : Frame, f.payload = content message ∧ f.isBinary = !isText ∧
          (((Assembly.empty limits).readAll (before ++ message)).1.map .message <+: read →
            Message.frames ((Assembly.empty limits).readAll before).1 ++ [f] <+: Event.frames events)

/-- What a socket tells of the packets that it reads, by the sizes of the messages in them. The
    limit is the same for a packet and for a message, and it is looked at with every part; so it
    makes no difference how a message is spread. -/
theorem Run.size_limit (start : Socket.start h nonce clock = (s, first)) (run : Run s entries u)
    {packets : List Packet} {last : Option WebSocket.Fault}
    (inbound : readings (taken entries) <+: Reading.ofPackets h.options.limits packets last) :
    SizeLimit h.options.limits packets last h.options.maxFramePayloadSize.toNat (readings (taken entries)) u
      (given first entries) := by
  have frames := (run.tells start).frames
  have begins := frames_mono inbound
  rw [← frames, frames_ofPackets] at begins
  constructor
  case bounded =>
    intro f told
    exact Assembly.size_le_of_readAll _ packets f (begins.subset (Event.mem_frames.mpr told))
  case oversized =>
    rintro before message isText done ⟨⟨after, rfl⟩, spread⟩ large
    obtain ⟨⟨fault, failed, breaks⟩, untold⟩ := Assembly.readAll_overflow (a := .empty h.options.limits)
      spread large before after
    have arrived := ofPackets_of_fault failed last
    refine ⟨untold ▸ begins, _, fault, arrived, ?_, ?_⟩
    · intro w ready
      rw [← readWhileReady_fault u w breaks]
      simp only [step?, ready]
    · intro all
      rw [arrived] at all
      obtain ⟨finished, told⟩ := run.failed start breaks (by rw [all]; simp)
      refine ⟨finished, ?_, ?_⟩
      · rw [frames, all, ← arrived, frames_ofPackets, untold]
      · rw [told, all, Reading.events_append]
        exact congrArg (Event.opened :: · ++ _) (List.append_nil _)
  case unblamed =>
    rintro before message isText done ⟨⟨after, rfl⟩, spread⟩ fits fault read sized other
    have failed := (fault_of_ofPackets (inbound.subset read)).resolve_right other
    rcases (Assembly.empty h.options.limits).reads_or_faults (before ++ message) with
      ⟨b, reads⟩ | ⟨first_fault, _, stopped⟩
    · exact .inl reads.faultless
    · have same : first_fault = fault := by
        rw [stopped after] at failed
        exact Option.some.inj failed
      have here := same ▸ Assembly.fault_of_stopped stopped
      exact .inr (Assembly.readAll_fits spread fits (Nat.le_refl _) before here sized)
  case delivered =>
    rintro before message isText ⟨_, spread⟩ fits proper
    obtain ⟨orderly, wellFormed, faultless, between, unclosed⟩ := proper
    obtain ⟨faultless, f, frame, payload, kind⟩ := Assembly.readAll_delivers spread fits (Nat.le_refl _)
      orderly wellFormed faultless between unclosed
    refine ⟨faultless, f, payload, kind, fun told => ?_⟩
    rw [← frame, frames, ← Reading.frames_events]
    exact frames_mono told

def narrowHandshake : Handshake :=
  { plainHandshake with options := { Options.default with maxFramePayloadSize := 4 } }

/-- A message of four bytes with a ping in it. -/
def fullPackets : List Packet :=
  [⟨false, 0, .binary, false, [1, 2]⟩, ⟨true, 0, .ping, false, [3]⟩, ⟨true, 0, .continuation, false, [4, 5]⟩]

def overfullPackets : List Packet :=
  [⟨false, 0, .binary, false, [6, 7, 8]⟩, ⟨true, 0, .continuation, false, [9, 10]⟩]

/-- The first message is told, and the second one ends the connection. -/
theorem size_limit_of_narrow : ∃ (nonce : Nonce) (s : Socket) (first : List Output) (u : Socket)
    (entries : List Entry), Socket.start narrowHandshake nonce .zero = (s, first) ∧ Run s entries u ∧
    readings (taken entries) =
      Reading.ofPackets narrowHandshake.options.limits (fullPackets ++ overfullPackets) none ∧
    Holds (fullPackets ++ overfullPackets) [] fullPackets false true ∧
    Holds (fullPackets ++ overfullPackets) fullPackets overfullPackets false true ∧
    given first entries = [.opened, .message (.binary [1, 2, 4, 5]),
      .failure (Error.webSocket (.capacity (.messageTooLong 5 4))).message] ∧
    SizeLimit narrowHandshake.options.limits (fullPackets ++ overfullPackets) none 4
      (readings (taken entries)) u (given first entries) := by
  have start : Socket.start narrowHandshake ⟨List.replicate 16 0, rfl⟩ .zero =
      (connecting narrowHandshake.options .zero, []) := by decide +kernel
  have replayed : (connecting narrowHandshake.options .zero).replay
      [.handshake (.ok ()), .read (.message (.ping [3])), .read (.message (.binary [1, 2, 4, 5])),
        .read (.fault (.capacity (.messageTooLong 5 4)))] = some _ := rfl
  have run := run_of_replay replayed
  refine ⟨_, _, _, _, _, start, run, rfl, ?_, ?_, rfl, ?_⟩
  · exact ⟨⟨_, rfl⟩, .parts rfl rfl (.control rfl (.last rfl rfl))⟩
  · exact ⟨⟨[], rfl⟩, .parts rfl rfl (.last rfl rfl)⟩
  · exact run.size_limit start ⟨[], rfl⟩

end Socket

end WampClient
