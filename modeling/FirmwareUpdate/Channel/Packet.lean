import FirmwareUpdate.Channel.Error
import FirmwareUpdate.Wire.Hex

/-!
# Packets and messages

A packet is what a medium carries at once: a header of four bytes and up to 251
more. A message is what endpoints exchange; it may take several packets, whose
headers name the endpoints, the place in the message and its tag.
-/

namespace FirmwareUpdate

open Wire

/-- An endpoint. -/
structure EndpointId where
  byte : UInt8
deriving DecidableEq, Repr

namespace EndpointId

/-- Stands for any endpoint; no message comes from it. -/
def any : EndpointId := ⟨0xff⟩

/-- Stands for whoever the packet reaches. -/
def null : EndpointId := ⟨0x00⟩

/-- The endpoint with the given number. The numbers 0 to 7 and 255 have other uses. -/
def normal? (byte : UInt8) : Except ChannelError EndpointId :=
  if byte ≤ 7 || byte = 0xff then .error .invalidArgument else .ok ⟨byte⟩

/-- The number of an endpoint. -/
def describe (endpoint : EndpointId) : String := toString endpoint.byte.toNat

end EndpointId

/-- The largest number of a tag. -/
def maxTag : UInt8 := 7

/-- Tells the messages between two endpoints apart. A request owns its tag, and the
response carries the same number without owning it. -/
structure Tag where
  number : UInt8
  owned : Bool
deriving DecidableEq, Repr

namespace Tag

/-- The tag of the response to a request with this tag. -/
def reply (tag : Tag) : Tag := { tag with owned := false }

/-- Owner mark and number. -/
def describe (tag : Tag) : String :=
  (if tag.owned then "TO," else "!TO,") ++ hexNumber 1 tag.number.toNat

end Tag

/-- The message type of the management protocol above this channel. -/
def managementType : UInt8 := 1

/-- The bytes of a packet header. -/
def packetHeaderSize : Nat := 4

/-- The most bytes of a packet, its header included. -/
def packetCapacity : Nat := 255

/-- What a packet says about itself. -/
structure PacketHeader where
  destination : EndpointId
  source : EndpointId
  /-- First packet of its message. -/
  first : Bool
  /-- Last packet of its message. -/
  last : Bool
  /-- Counts the packets of a message, modulo 4. -/
  sequence : UInt8
  tag : Tag
deriving DecidableEq, Repr

namespace PacketHeader

/-- The version that headers carry. -/
def version : UInt8 := 1

/-- The sequence number after `sequence`. -/
def nextSequence (sequence : UInt8) : UInt8 := (sequence + 1) &&& 0x03

/-- The bit of a condition, if it holds. -/
def mark (condition : Bool) (bit : UInt8) : UInt8 := if condition then bit else 0

/-- The last byte of a header. -/
def flags (header : PacketHeader) : UInt8 :=
  mark header.first 0x80 ||| mark header.last 0x40 ||| ((header.sequence &&& 0x03) <<< 4) |||
    mark header.tag.owned 0x08 ||| (header.tag.number &&& maxTag)

/-- The bytes of a header. -/
def toBytes (header : PacketHeader) : List UInt8 :=
  [version, header.destination.byte, header.source.byte, header.flags]

/-- Reads the header of a packet and returns what follows it. -/
def parse : List UInt8 → Except ChannelError (PacketHeader × List UInt8)
  | v :: destination :: source :: flags :: body =>
    if v &&& 0x0f = version then .ok
      ({ destination := ⟨destination⟩
         source := ⟨source⟩
         first := flags &&& 0x80 != 0
         last := flags &&& 0x40 != 0
         sequence := (flags >>> 4) &&& 0x03
         tag := { number := flags &&& maxTag, owned := flags &&& 0x08 != 0 } }, body)
    else .error .invalidPacketState
  | _ => .error .invalidPacketSize

end PacketHeader

/-- What became of a packet. -/
inductive PacketState where
  /-- Ready to be sent or processed. -/
  | valid
  /-- Longer than its channel allows, and cut. -/
  | overflow
  /-- To be refused, whatever it contains. -/
  | nack
  /-- To be left without an answer. -/
  | noResponse
  /-- Not received cleanly. -/
  | receiveError
deriving DecidableEq, Repr

/-- A packet and what is known about it. -/
structure Packet where
  data : List UInt8
  /-- Where a packet goes to, or where a received one came from. -/
  address : UInt8
  state : PacketState := .valid
  /-- The instant after which the packet must not be processed. -/
  deadline : Option Nat := none
  size_le : data.length ≤ packetCapacity
deriving DecidableEq

namespace Packet

/-- The packet with the given contents, if it is not too long. -/
def of? (data : List UInt8) (address : UInt8) : Except ChannelError Packet :=
  if fits : data.length ≤ packetCapacity then .ok { data, address, size_le := fits }
  else .error .invalidPacketSize

/-- The deadline has passed. -/
def isExpired (packet : Packet) (now : Nat) : Bool :=
  packet.deadline.any fun deadline => deadline ≤ now

/-- The packet may be processed now. -/
def check (packet : Packet) (now : Nat) : Except ChannelError Unit :=
  if packet.isExpired now then .error .packetExpired
  else match packet.state with
    | .valid => .ok ()
    | .overflow => .error .packetOverflow
    | .receiveError => .error .receiveFailed
    | .nack | .noResponse => .error .invalidPacketState

end Packet

/-- A message between two endpoints. -/
structure Message where
  data : List UInt8
  /-- Where the packets go to, or where they came from. -/
  address : UInt8
  /-- The bytes of message in each packet; 0 for as many as fit. -/
  packetSize : Nat := 0
  /-- The other endpoint. -/
  endpoint : EndpointId
  typ : UInt8
  tag : Tag
deriving DecidableEq, Repr

end FirmwareUpdate
