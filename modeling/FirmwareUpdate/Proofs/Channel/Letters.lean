import FirmwareUpdate.Proofs.Channel.Arrival
import FirmwareUpdate.Proofs.Channel.Reception
import FirmwareUpdate.Run.Endpoint

/-!
# Letters

A letter is a message as it waits in a queue: its packets one after the other, from the first
one to the last, and nothing in between. Whoever takes the packets of a letter has its message
with the last of them, or none, and is ready for the next letter. So a queue of letters comes to
the messages of the letters, and nothing depends on what other letters there are.
-/

namespace FirmwareUpdate

/-! ## Letters -/

namespace PacketHeader

/-- The tag in a header is one that has room there. -/
theorem tag_le_of_parse {contents body : List UInt8} {header : PacketHeader}
    (read : parse contents = .ok (header, body)) : header.tag.number ≤ maxTag := by
  unfold parse at read
  split at read
  · split at read
    · cases read
      exact UInt8.and_le_right
    · cases read
  · cases read

/-- The next packet of a message, after one with this header, says this about itself. -/
structure Precedes (header next : PacketHeader) : Prop where
  source : next.source = header.source
  destination : next.destination = header.destination
  tag : next.tag = header.tag
  first : next.first = false
  sequence : next.sequence = nextSequence header.sequence

/-- The packets go on with a message after one with this header, up to the last of it. -/
inductive Continued : PacketHeader → List Frame → Prop where
  | last {header : PacketHeader} (ends : header.last = true) : Continued header []
  | more {header next : PacketHeader} {frame : Frame} {body : List UInt8} {rest : List Frame}
      (goesOn : header.last = false)
      (read : parse frame.contents = .ok (next, body))
      (precedes : header.Precedes next)
      (continued : Continued next rest) : Continued header (frame :: rest)

end PacketHeader

/-- A complete message that waits in a queue. -/
structure Letter where
  head : Frame
  header : PacketHeader
  body : List UInt8
  tail : List Frame
  read : PacketHeader.parse head.contents = .ok (header, body)
  first : header.first = true
  continued : header.Continued tail

namespace Letter

/-- The packets of a letter. -/
def frames (letter : Letter) : List Frame := letter.head :: letter.tail

/-- The endpoint that has sent a letter. -/
def source (letter : Letter) : EndpointId := letter.header.source

end Letter

/-! ## Messages that are sent are letters -/

namespace Message

variable {message : Message}

/-- The packets of a message from one of its pieces on. -/
theorem continued_packetsFrom (fits : message.Fits) (source : EndpointId) (address : UInt8)
    {count index : Nat} (piece : List UInt8) {pieces : List (List UInt8)}
    (places : index + (piece :: pieces).length = count) :
    (message.fragment source count index piece).header.Continued
      ((message.packetsFrom source count (index + 1) pieces).map (Frame.mk address)) := by
  induction pieces generalizing index piece with
  | nil => exact .last (decide_eq_true places)
  | cons next rest ih =>
      simp only [List.length_cons] at places
      have read := PacketHeader.parse_toBytes
        (message.header_fits fits.tag source count (index + 1) next) next
      rw [packetsFrom_cons, List.map_cons]
      refine .more (decide_eq_false (by omega)) read ⟨rfl, rfl, rfl, ?_, ?_⟩
        (ih next (by rw [List.length_cons]; omega))
      · exact decide_eq_false (Nat.succ_ne_zero index)
      · exact (PacketHeader.nextSequence_ofNat index).symm

end Message

/-- The packets of a message that a channel sends are a letter of the endpoint that sends it. -/
theorem Letter.exists_of_sent (channel : Channel) {message : Message} (fits : message.Fits)
    (source : EndpointId) (address : UInt8) :
    ∃ letter : Letter, letter.source = source ∧
      letter.frames = (channel.sent message source).map (Frame.mk address) := by
  rw [channel.sent_eq fits]
  cases cut : pieces (channel.pieceSize message) (message.typ :: message.data) with
  | nil =>
      have whole := flatten_pieces (channel.pieceSize message) (message.typ :: message.data)
      rw [cut] at whole
      cases whole
  | cons piece rest =>
      have read := PacketHeader.parse_toBytes
        (message.header_fits fits.tag source (piece :: rest).length 0 piece) piece
      have continued := message.continued_packetsFrom fits source address piece
        (Nat.zero_add (piece :: rest).length)
      let head : Frame := ⟨address, message.packet source (piece :: rest).length 0 piece⟩
      refine ⟨⟨head, _, piece, _, read, rfl, continued⟩, rfl, ?_⟩
      exact (congrArg (List.map (Frame.mk address)) (Message.packetsFrom_cons ..)).symm

/-! ## What packets come to -/

/-- The message is one of management. -/
def Incoming.of? (message : Message) : Option Incoming :=
  if message.typ = managementType then some (.ofMessage message) else none

namespace Channel

/-- An assembler takes packets one after the other. Returns the management messages that they
complete. -/
def gather (channel : Channel) : Assembler → List Frame → List Incoming × Assembler
  | assembler, [] => ([], assembler)
  | assembler, frame :: rest =>
    let (message, assembler) := channel.taken assembler frame
    let (later, assembler) := channel.gather assembler rest
    ((message.bind Incoming.of?).toList ++ later, assembler)

/-- Frames are gathered one after the other. -/
theorem gather_cons (channel : Channel) (assembler : Assembler) (frame : Frame)
    (rest : List Frame) :
    channel.gather assembler (frame :: rest) =
      (((channel.taken assembler frame).1.bind Incoming.of?).toList ++
          (channel.gather (channel.taken assembler frame).2 rest).1,
        (channel.gather (channel.taken assembler frame).2 rest).2) := rfl

/-- What a batch of frames gathers begins where the batch before it has ended. -/
theorem gather_append (channel : Channel) (assembler : Assembler) (front back : List Frame) :
    channel.gather assembler (front ++ back) =
      ((channel.gather assembler front).1 ++
          (channel.gather (channel.gather assembler front).2 back).1,
        (channel.gather (channel.gather assembler front).2 back).2) := by
  induction front generalizing assembler with
  | nil => rfl
  | cons frame rest ih =>
      rw [List.cons_append, gather_cons, ih, gather_cons]
      simp only [List.append_assoc]

end Channel

/-- The message of a letter, if an assembler that is ready for it takes it. -/
def Letter.arrival (channel : Channel) (assembler : Assembler) (letter : Letter) :
    Option Incoming :=
  (channel.gather assembler letter.frames).1.head?

/-! ## The packets of a letter -/

namespace Assembler

/-- If a message is in progress, then it is the one of which a packet with this header was the
last. -/
def Follows (assembler : Assembler) (header : PacketHeader) : Prop :=
  ∀ part, assembler.current = some part →
    part.peer = header.source ∧ part.tag = header.tag ∧
      part.sequence = PacketHeader.nextSequence header.sequence ∧
      assembler.accepts header.destination = true

/-- What a packet of a message does to an assembler that is ready for it: only the last one can
complete the message, and whatever has become of it the assembler is then ready for another. -/
structure Handles (assembler : Assembler) (header : PacketHeader)
    (taken : Option Message × Assembler) : Prop where
  same : taken.2.reset = assembler.reset
  closed : header.last = true → taken.2.current = none
  early : header.last = false → taken.1 = none
  follows : taken.2.Follows header
  sender : ∀ message, taken.1 = some message →
    message.endpoint = header.source ∧ message.tag = header.tag

variable {assembler : Assembler} {header : PacketHeader}

/-- An assembler that holds nothing has nothing that a packet could break. -/
theorem Follows.of_idle (idle : assembler.current = none) : assembler.Follows header := by
  intro part inProgress
  rw [idle] at inProgress
  cases inProgress

/-- The packet has no effect, and no message is in progress. -/
theorem Handles.nothing (idle : assembler.current = none) :
    assembler.Handles header (none, assembler) where
  same := rfl
  closed _ := idle
  early _ := rfl
  follows := .of_idle idle
  sender := nofun

/-- The packet ends the message in progress without completing it. -/
theorem Handles.dropped : assembler.Handles header (none, assembler.reset) where
  same := rfl
  closed _ := rfl
  early _ := rfl
  follows := .of_idle rfl
  sender := nofun

/-- A packet that extends its message. -/
theorem Handles.extended {part : PartialMessage} (peer : part.peer = header.source)
    (tag : part.tag = header.tag) (sequence : part.sequence = header.sequence)
    (accepted : assembler.accepts header.destination = true) (payload : List UInt8) :
    assembler.Handles header ((assembler.extend part header.last payload).1.toOption.join,
      (assembler.extend part header.last payload).2) := by
  unfold extend
  split
  · exact .dropped
  · cases ending : header.last with
    | true =>
        exact {
          same := rfl
          closed := fun _ => rfl
          early := fun open_ => absurd open_ (by simp [ending])
          follows := .of_idle rfl
          sender := fun message completed => by cases completed; exact ⟨peer, tag⟩ }
    | false =>
        exact {
          same := rfl
          closed := fun closed => absurd closed (by simp [ending])
          early := fun _ => rfl
          follows := fun grown inProgress => by
            cases inProgress
            exact ⟨peer, tag, congrArg PacketHeader.nextSequence sequence, accepted⟩
          sender := nofun }

variable {frame : Frame} {body : List UInt8}

/-- The first packet of a letter. -/
theorem handles_first (channel : Channel) (idle : assembler.current = none)
    (read : PacketHeader.parse frame.contents = .ok (header, body))
    (first : header.first = true) :
    assembler.Handles header (channel.taken assembler frame) := by
  unfold Channel.taken receiveBytes
  rw [read]
  dsimp only
  rw [if_pos first]
  split
  · exact .dropped
  · split
    · cases body with
      | nil => exact .nothing idle
      | cons typ payload =>
          unfold receiveFirst
          dsimp only
          split
          · exact .nothing idle
          · exact .extended rfl rfl rfl ‹_› payload
    · exact .nothing idle

/-- A packet of a letter after its first one. -/
theorem handles_next (channel : Channel) {before : PacketHeader}
    (follows : assembler.Follows before)
    (read : PacketHeader.parse frame.contents = .ok (header, body))
    (precedes : before.Precedes header) :
    assembler.Handles header (channel.taken assembler frame) := by
  unfold Channel.taken receiveBytes
  rw [read]
  split
  · exact .dropped
  · dsimp only
    rw [precedes.first, if_neg Bool.false_ne_true]
    cases current : assembler.current with
    | none =>
        split
        · unfold receiveNext
          rw [current]
          exact .nothing current
        · exact .nothing current
    | some part =>
        obtain ⟨peer, tag, sequence, accepted⟩ := follows part current
        rw [← precedes.destination] at accepted
        rw [if_pos accepted]
        unfold receiveNext
        rw [current]
        dsimp only
        rw [if_neg (by simp [peer, tag, precedes.source, precedes.tag]),
          if_neg (by simp [sequence, precedes.sequence])]
        exact .extended (peer.trans precedes.source.symm) (tag.trans precedes.tag.symm)
          (sequence.trans precedes.sequence.symm) accepted body

end Assembler

namespace Channel

open Assembler

variable {channel : Channel} {assembler : Assembler} {header : PacketHeader} {frame : Frame}
  {rest : List Frame}

/-- From a packet of a letter on, the assembler gets the message or nothing, and is ready for
another letter. -/
theorem gather_of_handles (handles : assembler.Handles header (channel.taken assembler frame))
    (continued : header.Continued rest) :
    ∃ found : Option Incoming,
      channel.gather assembler (frame :: rest) = (found.toList, assembler.reset) ∧
        ∀ message, found = some message →
          message.source = header.source ∧ message.tag = header.tag := by
  induction continued generalizing assembler frame with
  | last ends =>
      refine ⟨(channel.taken assembler frame).1.bind Incoming.of?, ?_, ?_⟩
      · rw [gather_cons, ← handles.same, reset, ← handles.closed ends]
        exact congrArg (·, _) (List.append_nil _)
      · intro message found
        obtain ⟨whole, completed, management⟩ := Option.bind_eq_some_iff.mp found
        unfold Incoming.of? at management
        split at management
        · cases management
          exact handles.sender whole completed
        · cases management
  | more goesOn read precedes _ ih =>
      obtain ⟨found, gathered, sender⟩ := ih (handles_next channel handles.follows read precedes)
      refine ⟨found, ?_, fun message some => ?_⟩
      · rw [gather_cons, handles.early goesOn, gathered, handles.same]
        rfl
      · obtain ⟨source, tag⟩ := sender message some
        exact ⟨source.trans precedes.source, tag.trans precedes.tag⟩

/-- No packet but the last one of a letter completes a message. -/
theorem gather_of_handles_early (handles : assembler.Handles header (channel.taken assembler frame))
    (continued : header.Continued rest) {front back : List Frame}
    (split : frame :: rest = front ++ back) (before : back ≠ []) :
    (channel.gather assembler front).1 = [] := by
  induction continued generalizing assembler frame front with
  | last ends =>
      cases front with
      | nil => rfl
      | cons head front =>
          obtain ⟨-, nothing⟩ := List.cons.inj split
          exact absurd (List.append_eq_nil_iff.mp nothing.symm).2 before
  | more goesOn read precedes _ ih =>
      cases front with
      | nil => rfl
      | cons head front =>
          obtain ⟨rfl, later⟩ := List.cons.inj split
          rw [gather_cons, handles.early goesOn,
            ih (handles_next channel handles.follows read precedes) later]
          rfl

end Channel

namespace Letter

variable {channel : Channel} {assembler : Assembler} (letter : Letter)

/-- The packets of a letter come to its message, and leave the assembler as it was. -/
theorem gather_frames (idle : assembler.current = none) :
    channel.gather assembler letter.frames =
      ((letter.arrival channel assembler).toList, assembler) := by
  have handles := Assembler.handles_first channel idle letter.read letter.first
  obtain ⟨found, gathered, -⟩ := Channel.gather_of_handles handles letter.continued
  have ready : assembler.reset = assembler := by rw [Assembler.reset, ← idle]
  have arrived : letter.arrival channel assembler = found := by
    unfold arrival frames
    rw [gathered]
    cases found <;> rfl
  rw [arrived, frames, gathered, ready]

/-- The message of a letter comes from whoever has sent the letter, with the tag that the packets
carry. -/
theorem sender_of_arrival (idle : assembler.current = none) {message : Incoming}
    (arrives : letter.arrival channel assembler = some message) :
    message.source = letter.source ∧ message.tag = letter.header.tag := by
  have handles := Assembler.handles_first channel idle letter.read letter.first
  obtain ⟨found, gathered, sender⟩ := Channel.gather_of_handles handles letter.continued
  unfold arrival frames at arrives
  rw [gathered] at arrives
  cases found with
  | none => cases arrives
  | some sent =>
      cases arrives
      exact sender _ rfl

/-- Part of a letter is no message. -/
theorem gather_early (idle : assembler.current = none) {front back : List Frame}
    (split : letter.frames = front ++ back) (before : back ≠ []) :
    (channel.gather assembler front).1 = [] :=
  Channel.gather_of_handles_early (Assembler.handles_first channel idle letter.read letter.first)
    letter.continued split before

end Letter

/-! ## Queues of letters -/

namespace Letter

/-- The packets of some letters, in order. -/
def framesOf (letters : List Letter) : List Frame := letters.flatMap Letter.frames

/-- Every letter has packets. -/
theorem eq_nil_of_framesOf {letters : List Letter} (none : framesOf letters = []) :
    letters = [] := by
  cases letters with
  | nil => rfl
  | cons letter rest => cases none

/-- The messages of some letters, in order. -/
def arrivals (channel : Channel) (assembler : Assembler) (letters : List Letter) :
    List Incoming :=
  letters.filterMap (Letter.arrival channel assembler)

section

variable {channel : Channel} {assembler : Assembler} (idle : assembler.current = none)

include idle

/-- The packets of letters come to their messages, and leave the assembler as it was. -/
theorem gather_framesOf (letters : List Letter) :
    channel.gather assembler (framesOf letters) =
      (arrivals channel assembler letters, assembler) := by
  induction letters with
  | nil => rfl
  | cons letter rest ih =>
      rw [framesOf, List.flatMap_cons, Channel.gather_append, letter.gather_frames idle]
      dsimp only
      rw [← framesOf, ih]
      unfold arrivals
      cases arrives : letter.arrival channel assembler with
      | none => rw [List.filterMap_cons_none arrives]; rfl
      | some message => rw [List.filterMap_cons_some arrives]; rfl

/-- Without the letters of the others the messages of the others are gone, and nothing else. -/
theorem arrivals_filter (peer : EndpointId) (letters : List Letter) :
    arrivals channel assembler (letters.filter (·.source = peer)) =
      (arrivals channel assembler letters).filter (·.source = peer) := by
  induction letters with
  | nil => rfl
  | cons letter rest ih =>
      unfold arrivals at ih ⊢
      cases arrives : letter.arrival channel assembler with
      | none =>
          rw [List.filterMap_cons_none arrives, ← ih, List.filter_cons]
          split
          · exact List.filterMap_cons_none arrives
          · rfl
      | some message =>
          have source := (letter.sender_of_arrival idle arrives).1
          rw [List.filterMap_cons_some arrives, List.filter_cons, List.filter_cons, source, ← ih]
          split
          · exact List.filterMap_cons_some arrives
          · rfl

/-- The tags of messages that arrive have room in a header. -/
theorem tag_of_arrivals {letters : List Letter} {message : Incoming}
    (arrives : message ∈ arrivals channel assembler letters) : message.tag.number ≤ maxTag := by
  obtain ⟨letter, -, arrived⟩ := List.mem_filterMap.mp arrives
  rw [(letter.sender_of_arrival idle arrived).2]
  exact PacketHeader.tag_le_of_parse letter.read

/-- Once a message has been completed, whole letters have been taken and whole letters are left. -/
theorem letters_of_gather {letters : List Letter} {front rest : List Frame} {last : Frame}
    {message : Incoming} (queue : framesOf letters = front ++ last :: rest)
    (before : (channel.gather assembler front).1 = [])
    (completed : (channel.gather assembler (front ++ [last])).1 = [message]) :
    ∃ taken left, letters = taken ++ left ∧ framesOf taken = front ++ [last] ∧
      framesOf left = rest := by
  induction letters generalizing front with
  | nil => cases front <;> cases queue
  | cons letter more ih =>
      have queue : letter.frames ++ framesOf more = (front ++ [last]) ++ rest := by
        rw [List.append_assoc]
        exact queue
      rcases List.append_eq_append_iff.mp queue with
        ⟨beyond, longer, later⟩ | ⟨beyond, shorter, later⟩
      · -- the letter ends with the packet or before it
        rcases List.eq_nil_or_concat beyond with rfl | ⟨between, final, rfl⟩
        · rw [List.append_nil] at longer
          exact ⟨[letter], more, rfl, by rw [longer]; exact List.append_nil _, later⟩
        · rw [List.concat_eq_append] at longer later
          rw [← List.append_assoc] at longer
          obtain ⟨rfl, same⟩ := List.append_inj' longer rfl
          obtain rfl := List.singleton_inj.mp same
          rw [Channel.gather_append, letter.gather_frames idle] at before
          obtain ⟨silent, before⟩ := List.append_eq_nil_iff.mp before
          rw [List.append_assoc, Channel.gather_append, letter.gather_frames idle, silent]
            at completed
          obtain ⟨taken, left, rfl, first, second⟩ :=
            ih (by rw [later, List.append_assoc]; rfl) before completed
          refine ⟨letter :: taken, left, rfl, ?_, second⟩
          rw [framesOf, List.flatMap_cons, ← framesOf, first, List.append_assoc]
      · -- the letter goes on after the packet, which then completes nothing
        by_cases whole : beyond = []
        · subst whole
          rw [List.append_nil] at shorter
          exact ⟨[letter], more, rfl, by rw [← shorter]; exact List.append_nil _, later.symm⟩
        · rw [letter.gather_early idle shorter whole] at completed
          cases completed

end

end Letter

end FirmwareUpdate
