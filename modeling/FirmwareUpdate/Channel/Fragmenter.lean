import FirmwareUpdate.Channel.Fragment

/-!
# Fragments, one at a time

A fragmenter holds a message and how much of it has gone into packets. Each call makes the next
packet, until the one that takes the last byte of data; from then on there is none.
-/

namespace FirmwareUpdate

/-- A message on its way into packets. -/
structure Fragmenter where
  message : Message
  source : EndpointId
  /-- The bytes that are offered after each header. -/
  room : Nat
  /-- The sequence number of the next packet. -/
  sequence : UInt8 := 0
  /-- No packet has been made yet. -/
  first : Bool := true
  /-- The last packet has been made. -/
  done : Bool := false
  /-- The bytes of data that are in packets already. -/
  used : Nat := 0
deriving DecidableEq, Repr

namespace Fragmenter

/-- A fragmenter for a message. Tags and types without a place in the header are refused, and so
is a size that leaves no room beside the type byte. -/
def of? (message : Message) (source : EndpointId) (room : Nat) :
    Except ChannelError Fragmenter :=
  if maxTag < message.tag.number || message.typ &&& 0x80 != 0 || room < 2 then
    .error .invalidArgument
  else .ok { message, source, room }

/-- What comes before the data in the next packet: the type, if it is the first one. -/
def front (fragmenter : Fragmenter) : List UInt8 :=
  if fragmenter.first then [fragmenter.message.typ] else []

/-- The data in the next packet. -/
def portion (fragmenter : Fragmenter) : List UInt8 :=
  (fragmenter.message.data.drop fragmenter.used).take
    (Message.pieceSize fragmenter.room - fragmenter.front.length)

/-- The next packet takes the last byte of data. -/
def isLast (fragmenter : Fragmenter) : Bool :=
  fragmenter.used + fragmenter.portion.length == fragmenter.message.data.length

/-- The header of the next packet. -/
def header (fragmenter : Fragmenter) : PacketHeader where
  destination := fragmenter.message.endpoint
  source := fragmenter.source
  first := fragmenter.first
  last := fragmenter.isLast
  sequence := fragmenter.sequence
  tag := fragmenter.message.tag

/-- The contents of the next packet. -/
def contents (fragmenter : Fragmenter) : List UInt8 :=
  fragmenter.header.toBytes ++ (fragmenter.front ++ fragmenter.portion)

/-- The fragmenter when the next packet has been made. -/
def moved (fragmenter : Fragmenter) : Fragmenter :=
  { fragmenter with
    sequence := PacketHeader.nextSequence fragmenter.sequence
    first := false
    done := fragmenter.isLast
    used := fragmenter.used + fragmenter.portion.length }

/-- Makes the next packet, if there is one. -/
def next (fragmenter : Fragmenter) : Except ChannelError (Option Packet) × Fragmenter :=
  if fragmenter.done then (.ok none, fragmenter)
  else (some <$> Packet.of? fragmenter.contents fragmenter.message.address, fragmenter.moved)

/-- What is left of a fragmenter by a number of calls. -/
def after (fragmenter : Fragmenter) : Nat → Fragmenter
  | 0 => fragmenter
  | calls + 1 => fragmenter.next.2.after calls

end Fragmenter

end FirmwareUpdate
