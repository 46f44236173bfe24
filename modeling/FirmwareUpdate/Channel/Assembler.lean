import FirmwareUpdate.Channel.Packet

/-!
# Reassembly

An assembler rebuilds messages from the packets that reach one endpoint. It works
on one message at a time: a first packet drops what has been collected so far, and
a packet that does not continue the message is refused. A wrong sequence number,
or more data than the limit, ends the message.
-/

namespace FirmwareUpdate

/-- A message of which more packets are to come. -/
structure PartialMessage where
  peer : EndpointId
  tag : Tag
  typ : UInt8
  /-- The sequence number of the next packet. -/
  sequence : UInt8
  replyAddress : UInt8
  /-- The bytes of data in the first packet. -/
  firstSize : Nat
  data : List UInt8
deriving DecidableEq, Repr

/-- The receiving side of one endpoint. -/
structure Assembler where
  own : EndpointId
  /-- The most bytes of a message. -/
  limit : Nat := 4096
  current : Option PartialMessage := none
deriving DecidableEq, Repr

namespace Assembler

/-- Drops the message in progress. -/
def reset (assembler : Assembler) : Assembler := { assembler with current := none }

/-- A message is in progress. -/
def inProgress (assembler : Assembler) : Bool := assembler.current.isSome

/-- Packets for `destination` are for this endpoint. -/
def accepts (assembler : Assembler) (destination : EndpointId) : Bool :=
  destination == assembler.own || destination == EndpointId.null

/-- The message that a partial one has become. The first packet also carried the type. -/
def finish (part : PartialMessage) : Message :=
  { data := part.data
    address := part.replyAddress
    packetSize := part.firstSize + 1
    endpoint := part.peer
    typ := part.typ
    tag := part.tag }

/-- Adds the payload of a packet to the message it belongs to. -/
def extend (assembler : Assembler) (part : PartialMessage) (last : Bool)
    (payload : List UInt8) : Except ChannelError (Option Message) × Assembler :=
  if assembler.limit < part.data.length + payload.length then
    (.error .noMemory, assembler.reset)
  else
    let grown := { part with
      sequence := PacketHeader.nextSequence part.sequence
      data := part.data ++ payload }
    if last then (.ok (some (finish grown)), assembler.reset)
    else (.ok none, { assembler with current := some grown })

/-- Takes the first packet of a message; it has to carry the type byte. -/
def receiveFirst (assembler : Assembler) (header : PacketHeader) (address : UInt8) :
    List UInt8 → Except ChannelError (Option Message) × Assembler
  | [] => (.error .invalidPacketSize, assembler)
  | typ :: payload =>
    if header.source = EndpointId.any then (.error .invalidPacketState, assembler)
    else
      assembler.extend
        { peer := header.source
          tag := header.tag
          typ := typ &&& 0x7f
          sequence := header.sequence
          replyAddress := address
          firstSize := payload.length
          data := [] }
        header.last payload

/-- Takes a packet that continues a message. -/
def receiveNext (assembler : Assembler) (header : PacketHeader) (payload : List UInt8) :
    Except ChannelError (Option Message) × Assembler :=
  match assembler.current with
  | none => (.error .invalidPacketState, assembler)
  | some part =>
    if part.peer ≠ header.source ∨ part.tag ≠ header.tag then
      (.error .invalidPacketState, assembler)
    else if header.sequence ≠ part.sequence then
      (.error .invalidPacketState, assembler.reset)
    else assembler.extend part header.last payload

/-- Takes the contents of a packet that came from `address`. The answer is a message
once the packet completes one, and nothing for a packet that does not, or that is
for another endpoint. -/
def receiveBytes (assembler : Assembler) (contents : List UInt8) (address : UInt8) :
    Except ChannelError (Option Message) × Assembler :=
  match PacketHeader.parse contents with
  | .error error => (.error error, assembler)
  | .ok (header, body) =>
    if assembler.accepts header.destination then
      if header.first then assembler.receiveFirst header address body
      else assembler.receiveNext header body
    else (.ok none, assembler)

/-- Takes a packet. -/
def receive (assembler : Assembler) (packet : Packet) :
    Except ChannelError (Option Message) × Assembler :=
  assembler.receiveBytes packet.data packet.address

end Assembler

end FirmwareUpdate
