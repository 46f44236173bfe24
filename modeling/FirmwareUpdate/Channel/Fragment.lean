import FirmwareUpdate.Channel.Packet

/-!
# Fragments

A message becomes packets by cutting its type byte and its data, taken together,
into pieces of one size. Only the first piece starts with the type byte, only the
last may be shorter, and even an empty message has one piece.
-/

namespace FirmwareUpdate

/-- Cuts a list into pieces of `size` elements; the last may be shorter. Pieces
have at least one element. -/
def pieces {α : Type} (size : Nat) : List α → List (List α)
  | [] => []
  | head :: tail =>
    (head :: tail.take (size - 1)) :: pieces size (tail.drop (size - 1))
termination_by list => list.length
decreasing_by simp only [List.length_drop, List.length_cons]; omega

@[simp] theorem flatten_pieces {α : Type} (size : Nat) (list : List α) :
    (pieces size list).flatten = list := by
  fun_induction pieces size list with
  | case1 => rfl
  | case2 head tail ih => simp [ih, List.take_append_drop]

/-- A packet of a message, before it is written. -/
structure Fragment where
  header : PacketHeader
  payload : List UInt8
deriving DecidableEq, Repr

namespace Fragment

/-- The contents of the packet. -/
def toBytes (fragment : Fragment) : List UInt8 :=
  fragment.header.toBytes ++ fragment.payload

end Fragment

namespace Message

/-- The bytes that go into each packet after its header, if `room` are offered. -/
def pieceSize (room : Nat) : Nat := min room (packetCapacity - packetHeaderSize)

/-- The fragment at `index` among `count`. -/
def fragment (message : Message) (source : EndpointId) (count index : Nat)
    (payload : List UInt8) : Fragment where
  header :=
    { destination := message.endpoint
      source
      first := index = 0
      last := index + 1 = count
      sequence := UInt8.ofNat (index % 4)
      tag := message.tag }
  payload

/-- The fragments of a message, with `room` bytes after each header. -/
def fragments (message : Message) (source : EndpointId) (room : Nat) : List Fragment :=
  let payloads := pieces (pieceSize room) (message.typ :: message.data)
  payloads.mapIdx fun index payload => message.fragment source payloads.length index payload

/-- The fragments of a message. Tags and types without a place in the header are
refused, and so is a size that leaves no room beside the type byte. -/
def fragments? (message : Message) (source : EndpointId) (room : Nat) :
    Except ChannelError (List Fragment) :=
  if maxTag < message.tag.number || message.typ &&& 0x80 != 0 || room < 2 then
    .error .invalidArgument
  else .ok (message.fragments source room)

end Message

end FirmwareUpdate
