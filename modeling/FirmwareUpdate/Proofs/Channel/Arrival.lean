import FirmwareUpdate.Proofs.Channel.Packets

/-!
# Messages arrive

An assembler that takes the packets of a message one after the other, and nothing else in
between, has the message after the last of them if it is within the limit. Otherwise the
packet that goes beyond the limit ends it, and those that follow are refused.
-/

namespace FirmwareUpdate

/-- The message as it reaches the endpoint that it is for, from an address and in packets with
`size` bytes of it. -/
def Message.received (message : Message) (source : EndpointId) (address : UInt8) (size : Nat) :
    Message :=
  { message with
    address
    packetSize := (message.data.take (size - 1)).length + 1
    endpoint := source }

/-- A type with the reserved bit free is read as it was written. -/
theorem typ_of_reserved {typ : UInt8} (free : typ &&& 0x80 = 0) : typ &&& 0x7f = typ := by
  have parts : typ &&& (0x80 ||| 0x7f) = (typ &&& 0x80) ||| (typ &&& 0x7f) :=
    UInt8.toBitVec_inj.mp BitVec.and_or_distrib_left
  rw [free, UInt8.zero_or] at parts
  exact parts.symm.trans UInt8.and_neg_one

namespace Assembler

/-- Hands packets from one address to an assembler, and collects the messages they complete. -/
def receiveAll (assembler : Assembler) (address : UInt8) :
    List (List UInt8) → List Message × Assembler
  | [] => ([], assembler)
  | packet :: rest =>
    let (answer, assembler) := assembler.receiveBytes packet address
    let (later, assembler) := assembler.receiveAll address rest
    (answer.toOption.join.toList ++ later, assembler)

variable {assembler : Assembler} {message : Message} {source : EndpointId} {address : UInt8}

/-- A packet of a message is taken by its place in the message. -/
theorem receiveBytes_packet (tagged : message.tag.number ≤ maxTag)
    (addressed : assembler.accepts message.endpoint = true) (count index : Nat)
    (piece : List UInt8) :
    assembler.receiveBytes (message.packet source count index piece) address =
      let header := (message.fragment source count index piece).header
      if index = 0 then assembler.receiveFirst header address piece
      else assembler.receiveNext header piece := by
  have read :=
    PacketHeader.parse_toBytes (message.header_fits tagged source count index piece) piece
  unfold receiveBytes
  rw [show message.packet source count index piece =
    (message.fragment source count index piece).header.toBytes ++ piece from rfl, read]
  dsimp only
  rw [if_pos (by exact addressed)]
  simp [Message.fragment]

/-- A packet for another endpoint has no effect. -/
theorem receiveBytes_elsewhere (tagged : message.tag.number ≤ maxTag)
    (elsewhere : assembler.accepts message.endpoint = false) (source : EndpointId)
    (count index : Nat) (piece : List UInt8) :
    assembler.receiveBytes (message.packet source count index piece) address =
      (.ok none, assembler) := by
  have read :=
    PacketHeader.parse_toBytes (message.header_fits tagged source count index piece) piece
  rw [receiveBytes, show message.packet source count index piece =
    (message.fragment source count index piece).header.toBytes ++ piece from rfl, read]
  dsimp only
  rw [if_neg]
  simpa [Message.fragment] using elsewhere

/-- Once a message is given up, the rest of its packets have no effect. -/
theorem receiveAll_givenUp (tagged : message.tag.number ≤ maxTag)
    (addressed : assembler.accepts message.endpoint = true) (count index : Nat)
    (pieces : List (List UInt8)) :
    assembler.reset.receiveAll address (message.packetsFrom source count (index + 1) pieces) =
      ([], assembler.reset) := by
  induction pieces generalizing index with
  | nil => rfl
  | cons piece rest ih =>
      have refused : assembler.reset.receiveBytes (message.packet source count (index + 1) piece)
          address = (.error .invalidPacketState, assembler.reset) := by
        rw [receiveBytes_packet tagged (by exact addressed)]
        rfl
      rw [Message.packetsFrom_cons]
      unfold receiveAll
      rw [refused]
      dsimp only
      rw [ih (index + 1)]
      rfl

/-- The message with the payload of one more packet. -/
def grown (part : PartialMessage) (payload : List UInt8) : PartialMessage :=
  { part with
    sequence := PacketHeader.nextSequence part.sequence
    data := part.data ++ payload }

/-- A packet that makes a message too long ends it. -/
theorem extend_of_long {part : PartialMessage} {payload : List UInt8}
    (long : assembler.limit < part.data.length + payload.length) (last : Bool) :
    assembler.extend part last payload = (.error .noMemory, assembler.reset) :=
  if_pos long

/-- The last packet completes its message. -/
theorem extend_of_last {part : PartialMessage} {payload : List UInt8}
    (short : part.data.length + payload.length ≤ assembler.limit) :
    assembler.extend part true payload =
      (.ok (some (finish (grown part payload))), assembler.reset) :=
  if_neg (Nat.not_lt.mpr short)

/-- Any other packet is added to its message. -/
theorem extend_of_more {part : PartialMessage} {payload : List UInt8}
    (short : part.data.length + payload.length ≤ assembler.limit) :
    assembler.extend part false payload =
      (.ok none, { assembler with current := grown part payload }) :=
  if_neg (Nat.not_lt.mpr short)

/-- What the packets of a message come to when the first of them extends a message: they
complete it, or one of them goes beyond the limit. -/
theorem receiveAll_extended (tagged : message.tag.number ≤ maxTag)
    (addressed : assembler.accepts message.endpoint = true) (part : PartialMessage)
    (peer : part.peer = source) (tag : part.tag = message.tag) {count index : Nat}
    (sequence : part.sequence = UInt8.ofNat (index % 4)) {packet piece : List UInt8}
    {pieces : List (List UInt8)} (places : index + (piece :: pieces).length = count)
    (taken : assembler.receiveBytes packet address =
      assembler.extend part (index + 1 = count) piece) :
    assembler.receiveAll address
        (packet :: message.packetsFrom source count (index + 1) pieces) =
      (if part.data.length + (piece :: pieces).flatten.length ≤ assembler.limit then
          [finish { part with data := part.data ++ (piece :: pieces).flatten }]
        else [],
        assembler.reset) := by
  -- `taken` holds of the first packet as of a later one, so it is what the induction carries:
  -- a first packet extends an empty message, a later one the message that is collected
  induction pieces generalizing index assembler part packet piece with
  | nil =>
      have last : index + 1 = count := places
      rw [decide_eq_true last] at taken
      rw [List.flatten_cons, List.flatten_nil, List.append_nil]
      unfold receiveAll
      rw [taken]
      by_cases short : part.data.length + piece.length ≤ assembler.limit
      · rw [extend_of_last short, if_pos short]
        rfl
      · rw [extend_of_long (Nat.not_le.mp short), if_neg short]
        rfl
  | cons next rest ih =>
      simp only [List.length_cons] at places
      have more : index + 1 ≠ count := by omega
      rw [decide_eq_false more] at taken
      rw [List.flatten_cons, List.length_append]
      unfold receiveAll
      rw [taken]
      by_cases short : part.data.length + piece.length ≤ assembler.limit
      · have follows : (grown part piece).sequence = UInt8.ofNat ((index + 1) % 4) := by
          show PacketHeader.nextSequence part.sequence = _
          rw [sequence, PacketHeader.nextSequence_ofNat]
        have continued : { assembler with current := grown part piece }.receiveBytes
            (message.packet source count (index + 1) next) address =
              { assembler with current := grown part piece }.extend (grown part piece)
                (index + 1 + 1 = count) next := by
          rw [receiveBytes_packet tagged (by exact addressed), if_neg (by omega)]
          unfold receiveNext
          dsimp only
          rw [if_neg (by simp [grown, peer, tag, Message.fragment]),
            if_neg (by simp [follows, Message.fragment])]
          rfl
        rw [extend_of_more short, Message.packetsFrom_cons]
        dsimp only
        rw [ih (by exact addressed) (grown part piece) peer tag follows
          (by rw [List.length_cons]; omega) continued]
        simp only [grown, List.length_append, List.append_assoc, Nat.add_assoc]
        rfl
      · rw [extend_of_long (Nat.not_le.mp short), if_neg (by omega)]
        dsimp only
        rw [receiveAll_givenUp tagged addressed]
        rfl

/-- The packets of a message complete it if it is within the limit, and nothing otherwise;
whatever the assembler has collected before is dropped. -/
theorem receiveAll_sent (channel : Channel) (sendable : message.Sendable source)
    (addressed : assembler.accepts message.endpoint = true) :
    assembler.receiveAll address (channel.sent message source) =
      (if message.data.length ≤ assembler.limit then
          [message.received source address (channel.pieceSize message)]
        else [],
        assembler.reset) := by
  have typ := typ_of_reserved sendable.typ
  rw [channel.sent_eq sendable.fits]
  -- the type byte is in the first packet only, which therefore has one byte less of the data
  generalize channel.pieceSize message = size
  let part : PartialMessage :=
    { peer := source
      tag := message.tag
      typ := message.typ &&& 0x7f
      sequence := 0
      replyAddress := address
      firstSize := (message.data.take (size - 1)).length
      data := [] }
  let rest := pieces size (message.data.drop (size - 1))
  have begun : assembler.receiveBytes (message.packet source (rest.length + 1) 0
      (message.typ :: message.data.take (size - 1))) address =
        assembler.extend part (0 + 1 = rest.length + 1) (message.data.take (size - 1)) := by
    rw [receiveBytes_packet sendable.tag addressed, if_pos rfl]
    exact if_neg sendable.source
  have extended := receiveAll_extended sendable.tag addressed part rfl rfl rfl
    (by rw [List.length_cons, Nat.zero_add]) begun
  have whole : (message.data.take (size - 1) :: rest).flatten = message.data := by
    rw [List.flatten_cons, flatten_pieces, List.take_append_drop]
  rw [whole] at extended
  simp only [part, List.length_nil, Nat.zero_add, List.nil_append, typ] at extended
  unfold pieces
  dsimp only
  rw [Message.packetsFrom_cons, List.length_cons]
  exact extended

end Assembler

end FirmwareUpdate
