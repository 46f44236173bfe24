import FirmwareUpdate.Proofs.Channel.Letters
import FirmwareUpdate.Proofs.Channel.Reassembly

/-!
# Sending a message back

A message that an assembler has completed can be turned around: it goes back to the endpoint that it
came from, in packets like the one that opened it. The size it asks for is one byte more than the
data in that packet. If these are none, nothing is left beside the type, and no channel takes the
message.
-/

namespace FirmwareUpdate

/-- The message, sent back under the tag of a reply. -/
def Message.turned (message : Message) : Message := { message with tag := message.tag.reply }

/-! ## Messages that are completed -/

/-- What is read of a packet is its header and its body. -/
theorem PacketHeader.length_of_parse {contents body : List UInt8} {header : PacketHeader}
    (read : parse contents = .ok (header, body)) :
    contents.length = packetHeaderSize + body.length := by
  unfold parse at read
  split at read
  · split at read
    · cases read
      rw [packetHeaderSize, List.length_cons, List.length_cons, List.length_cons, List.length_cons]
      omega
    · cases read
  · cases read

/-- The packet is the first one of the message, and carries its type and the first of its data. -/
structure Message.OpenedBy (message : Message) (packet : Packet) : Prop where
  length_eq : packet.data.length = packetHeaderSize + message.packetSize
  read : ∃ header typ payload, PacketHeader.parse packet.data = .ok (header, typ :: payload) ∧
    header.first = true ∧ header.source = message.endpoint ∧ header.tag = message.tag ∧
    message.typ = typ &&& 0x7f ∧ payload <+: message.data

/-- The message has come with packets, one of which has opened it. -/
structure Message.CameWith (message : Message) (packets : List Packet) : Prop where
  sourced : message.endpoint ≠ .any
  tag : message.tag.number ≤ maxTag
  typ : message.typ &&& 0x80 = 0
  opened : ∃ packet ∈ packets, message.OpenedBy packet

namespace Message.CameWith

variable {message : Message} {packets : List Packet}

/-- One more packet may have come with a message. -/
theorem concat (came : message.CameWith packets) (packet : Packet) :
    message.CameWith (packets ++ [packet]) :=
  let ⟨opening, member, opens⟩ := came.opened
  { came with opened := ⟨opening, List.mem_append_left _ member, opens⟩ }

/-- More data leave it as it came. -/
theorem append (came : message.CameWith packets) (payload : List UInt8) :
    { message with data := message.data ++ payload }.CameWith packets :=
  let ⟨opening, member, length, header, typ, front, read, first, source, tag, code, early⟩ :=
    came.opened
  { came with
    opened := ⟨opening, member, length, header, typ, front, read, first, source, tag, code,
      early.trans (List.prefix_append _ _)⟩ }

/-- An empty message came with its type alone. -/
theorem packetSize_of_empty (came : message.CameWith packets) (empty : message.data = []) :
    message.packetSize = 1 := by
  obtain ⟨opening, -, length, header, typ, payload, read, -, -, -, -, early⟩ := came.opened
  have whole := PacketHeader.length_of_parse read
  rw [empty] at early
  rw [List.prefix_nil.mp early, List.length_singleton] at whole
  omega

/-- A message that came in more than single bytes may be sent back. -/
theorem sendable (came : message.CameWith packets) (wide : message.packetSize ≠ 1)
    {source : EndpointId} (sourced : source ≠ .any) : message.turned.Sendable source :=
  ⟨came.tag, came.typ, wide, sourced⟩

end Message.CameWith

/-- The reserved bit of a type is not read. -/
theorem reserved_of_read (typ : UInt8) : (typ &&& 0x7f) &&& 0x80 = 0 := by
  rw [UInt8.and_assoc]
  exact UInt8.and_zero

/-- A packet has room for more than one byte. -/
theorem lt_packetCapacity : packetHeaderSize + 1 < packetCapacity := by decide

/-- A channel with the largest packets. -/
def Channel.widest : Channel := { size_gt := lt_packetCapacity, size_le := Nat.le_refl _ }

namespace Assembler

variable {own : EndpointId} {limit : Nat} {heard : List Packet} {assembler : Assembler}

/-- The assembler has heard these packets since it was new. -/
inductive Reached (own : EndpointId) (limit : Nat) : List Packet → Assembler → Prop where
  | fresh : Reached own limit [] { own, limit }
  | heard {packets : List Packet} {assembler : Assembler}
      (reached : Reached own limit packets assembler) (packet : Packet) :
      Reached own limit (packets ++ [packet]) (assembler.receive packet).2
  | reset {packets : List Packet} {assembler : Assembler}
      (reached : Reached own limit packets assembler) : Reached own limit packets assembler.reset

/-- The message in progress, if it were complete, has come with the packets heard. -/
def Founded (assembler : Assembler) (heard : List Packet) : Prop :=
  ∀ part ∈ assembler.current, (finish part).CameWith heard

/-- All that a packet can do to an assembler: what it can do when it has come over a channel. -/
theorem takes_of_receive (assembler : Assembler) (packet : Packet) :
    assembler.Takes packetCapacity ⟨packet.address, packet.data⟩
      ((assembler.receive packet).1.toOption.join, (assembler.receive packet).2) := by
  have taken := takes_of_taken .widest assembler ⟨packet.address, packet.data⟩
  rwa [Channel.taken, if_neg (by exact Nat.not_lt.mpr packet.size_le)] at taken

/-- A message with one more packet has come with this packet, or with those before. -/
theorem Extends.cameWith {part : PartialMessage} {header : PacketHeader} {body : List UInt8}
    {packet : Packet} (founded : assembler.Founded heard)
    (extension : assembler.Extends packetCapacity ⟨packet.address, packet.data⟩ part header body) :
    (finish (grown part (header.payloadIn body))).CameWith (heard ++ [packet]) := by
  cases extension with
  | @opening header typ payload carries first sourced =>
      have carried : header.payloadIn (typ :: payload) = payload := by
        rw [PacketHeader.payloadIn, if_pos first, List.tail_cons]
      have length := PacketHeader.length_of_parse carries.read
      exact
        { sourced
          tag := PacketHeader.tag_le_of_parse carries.read
          typ := reserved_of_read typ
          opened := ⟨packet, List.mem_append_right _ List.mem_cons_self, length, header, typ,
            payload, carries.read, first, rfl, rfl, rfl, by simp [grown, finish, carried]⟩ }
  | following current => exact ((founded part current).append _).concat packet

/-- A packet keeps the message in progress founded, and so is the one that it completes. -/
theorem Takes.founded {packet : Packet} {taken : Option Message × Assembler}
    (founded : assembler.Founded heard)
    (takes : assembler.Takes packetCapacity ⟨packet.address, packet.data⟩ taken) :
    taken.2.Founded (heard ++ [packet]) ∧
      ∀ message ∈ taken.1, message.CameWith (heard ++ [packet]) := by
  cases takes with
  | kept => exact ⟨fun part current => (founded part current).concat packet, nofun⟩
  | dropped => exact ⟨nofun, nofun⟩
  | grew extension =>
      refine ⟨fun part current => ?_, nofun⟩
      cases current
      exact extension.cameWith founded
  | completed extension =>
      refine ⟨nofun, fun message completed => ?_⟩
      cases completed
      exact extension.cameWith founded

/-- What an assembler has reached is founded on what it has heard. -/
theorem Reached.founded (reached : Reached own limit heard assembler) :
    assembler.Founded heard := by
  induction reached with
  | fresh => exact nofun
  | heard _ packet ih => exact ((takes_of_receive _ packet).founded ih).1
  | reset => exact nofun

/-- Every message that is completed has come with packets that have been heard. -/
theorem Reached.cameWith (reached : Reached own limit heard assembler) {packet : Packet}
    {message : Message} (answer : (assembler.receive packet).1 = .ok (some message)) :
    message.CameWith (heard ++ [packet]) :=
  ((takes_of_receive _ packet).founded reached.founded).2 message (by rw [answer]; rfl)

end Assembler

/-! ## The way back -/

/-- The link takes every packet. -/
def Link.TakesAll {σ : Type} (link : Link σ) : Prop :=
  ∀ packet address medium, (link.send packet address medium).1 = .ok ()

/-- A link that takes every packet takes all of them. -/
theorem Link.TakesAll.sendAll {σ : Type} {link : Link σ} (takes : link.TakesAll) (address : UInt8)
    (packets : List (List UInt8)) (medium : σ) :
    (Channel.sendAll link address packets medium).1 = .ok () := by
  induction packets generalizing medium with
  | nil => rfl
  | cons packet rest ih =>
      have taken := takes packet address medium
      unfold Channel.sendAll
      generalize link.send packet address medium = sent at taken ⊢
      obtain ⟨outcome, after⟩ := sent
      cases taken
      exact ih after

/-- A message that came with a first packet of more than the type can be sent back, whatever the
channel, and arrives with the same data. One whose first packet carried the type alone, as that of
an empty message does, is refused by every channel. -/
theorem received_message_goes_back_unless_its_type_came_alone {own : EndpointId} {limit : Nat}
    {heard : List Packet} {assembler : Assembler}
    (reached : Assembler.Reached own limit heard assembler) {packet : Packet} {message : Message}
    (answer : (assembler.receive packet).1 = .ok (some message)) {source : EndpointId}
    (sourced : source ≠ .any) (channel : Channel) :
    (∃ opening ∈ heard ++ [packet], message.OpenedBy opening) ∧
      (message.data = [] → message.packetSize = 1) ∧
      (message.packetSize = 1 → ∀ (σ : Type) (link : Link σ) (medium : σ),
        channel.sendMessage link message.turned source medium =
          (.error .invalidArgument, medium)) ∧
      (message.packetSize ≠ 1 →
        (∀ (σ : Type) (link : Link σ) (medium : σ),
          channel.sendMessage link message.turned source medium =
              Channel.sendAll link message.address (channel.sent message.turned source) medium ∧
            (link.TakesAll → (channel.sendMessage link message.turned source medium).1 = .ok ())) ∧
        ∀ (peer : Assembler) (address : UInt8), peer.own = message.endpoint →
          message.data.length ≤ peer.limit →
          peer.receiveAll address (channel.sent message.turned source) =
            ([message.turned.received source address (channel.pieceSize message.turned)],
              peer.reset)) := by
  have came := reached.cameWith answer
  refine ⟨came.opened, came.packetSize_of_empty, fun narrow σ link medium => ?_, fun wide => ?_⟩
  · have unfit : ¬ message.turned.Fits := fun fits => fits.room narrow
    rw [Channel.sendMessage, channel.packetsOf_of_unfit unfit]
  · have sendable := came.sendable wide sourced
    refine ⟨fun σ link medium => ?_, fun peer address home within => ?_⟩
    · have sent : channel.sendMessage link message.turned source medium =
          Channel.sendAll link message.address (channel.sent message.turned source) medium := by
        rw [Channel.sendMessage, channel.packetsOf_eq_sent sendable.fits]
        rfl
      exact ⟨sent, fun takes => by rw [sent]; exact takes.sendAll _ _ _⟩
    · have addressed : peer.accepts message.turned.endpoint = true := by
        simp [Assembler.accepts, home, Message.turned]
      rw [Assembler.receiveAll_sent channel sendable addressed, if_pos (by exact within)]

namespace TypeAlone

/-- The only packet of a message from one endpoint to another, with this much data. -/
def packet (data : List UInt8) (short : data.length ≤ 250) : Packet where
  data := [1, 9, 8, 0xca, managementType] ++ data
  address := 32
  size_le := by simp [packetCapacity]; omega

/-- The message in it. -/
def message (data : List UInt8) : Message where
  data
  address := 32
  packetSize := data.length + 1
  endpoint := ⟨8⟩
  typ := managementType
  tag := ⟨2, true⟩

end TypeAlone

open TypeAlone in
/-- A message with one byte of data goes back. -/
theorem one_byte_goes_back :
    (({ own := ⟨9⟩ } : Assembler).receive (packet [7] (by decide))).1 = .ok (some (message [7])) ∧
      (Channel.widest.sendMessage Recorder.link (message [7]).turned ⟨9⟩ {}).1 = .ok () ∧
      (({ own := ⟨8⟩ } : Assembler).receiveAll 48
        (Channel.widest.sent (message [7]).turned ⟨9⟩)).1 =
        [{ (message [7]).turned with address := 48, endpoint := ⟨9⟩ }] := by
  have answer : (({ own := ⟨9⟩ } : Assembler).receive (packet [7] (by decide))).1 =
      .ok (some (message [7])) := by decide
  have other : (⟨9⟩ : EndpointId) ≠ .any := by decide
  obtain ⟨-, -, -, back⟩ := received_message_goes_back_unless_its_type_came_alone
    (.fresh : Assembler.Reached ⟨9⟩ 4096 [] _) answer other Channel.widest
  obtain ⟨sent, heard⟩ := back (by decide)
  exact ⟨answer, (sent Recorder Recorder.link {}).2 fun _ _ _ => rfl,
    congrArg Prod.fst (heard { own := ⟨8⟩ } 48 rfl (by decide))⟩

open TypeAlone in
/-- An empty message does not. -/
theorem empty_message_does_not_go_back :
    (({ own := ⟨9⟩ } : Assembler).receive (packet [] (by decide))).1 = .ok (some (message [])) ∧
      Channel.widest.sendMessage Recorder.link (message []).turned ⟨9⟩ {} =
        (.error .invalidArgument, {}) := by
  decide

end FirmwareUpdate
