import FirmwareUpdate.Channel.Basic
import FirmwareUpdate.Wire.Bytes

/-!
# Frames in a byte stream

Over a connection that carries bytes, each packet is a frame: its length as a
little-endian 16-bit word, the address of its sender, and its contents. A reader
with a small buffer still takes the whole frame, so the next one starts where it
should.
-/

namespace FirmwareUpdate

open Wire

namespace Frame

/-- The bytes before the contents of a frame. -/
def headerSize : Nat := 3

/-- The bytes of a frame. Contents whose length needs more than 16 bits are refused. -/
def toBytes (frame : Frame) : Except ChannelError (List UInt8) :=
  if frame.contents.length < 65536 then
    .ok (littleEndian 2 frame.contents.length ++ frame.source :: frame.contents)
  else .error .invalidPacketSize

end Frame

/-- The receiving side of a byte stream. -/
structure ByteStream where
  /-- Bytes that have arrived and not been read. -/
  pending : List UInt8 := []
  /-- No more bytes will arrive. -/
  closed : Bool := false
deriving DecidableEq, Repr

/-- A frame as a reader with a buffer sees it. -/
structure ReceivedFrame where
  /-- The length of the contents, which may be more than the buffer holds. -/
  length : Nat
  source : UInt8
  /-- The contents, as far as the buffer holds them. -/
  contents : List UInt8
deriving DecidableEq, Repr

namespace ReceivedFrame

/-- A buffer after the frame has been read into it: what lies behind the contents is
left alone. -/
def overwrite (frame : ReceivedFrame) (buffer : List UInt8) : List UInt8 :=
  frame.contents ++ buffer.drop frame.contents.length

end ReceivedFrame

namespace ByteStream

/-- Takes exactly `count` bytes, in the middle of a frame. Too few are a failure of the medium as
long as more may come, for the start of the next frame is not known any more, and a lost
connection after that. -/
def takeExactly (count : Nat) (stream : ByteStream) :
    Except ChannelError (List UInt8 × ByteStream) :=
  if count ≤ stream.pending.length then
    .ok (stream.pending.take count,
      { stream with pending := stream.pending.drop count })
  else .error (.medium (if stream.closed then .connect else .receive))

/-- Takes at most `count` bytes of those that have arrived. Nothing is a timeout as
long as more may come, and a lost connection after that. -/
def takeSome (count : Nat) (stream : ByteStream) :
    Except ChannelError (List UInt8 × ByteStream) :=
  if stream.pending.isEmpty then
    if stream.closed then .error (.medium .connect) else .error .receiveTimeout
  else .ok (stream.pending.take count, { stream with pending := stream.pending.drop count })

/-- Receives one frame into a buffer of `capacity` bytes. The first read of the
header may return as few bytes as `arrived`, but at least one. -/
def receive (arrived capacity : Nat) (stream : ByteStream) :
    Except ChannelError (ReceivedFrame × ByteStream) := do
  let (start, stream) ← stream.takeSome (max 1 (min arrived Frame.headerSize))
  let (more, stream) ← stream.takeExactly (Frame.headerSize - start.length)
  let header := start ++ more
  let length := ofLittleEndian (header.take 2)
  let (contents, stream) ← stream.takeExactly (min length capacity)
  let (_, stream) ← stream.takeExactly (length - min length capacity)
  pure ({ length, source := header.getLastD 0, contents }, stream)

end ByteStream

end FirmwareUpdate
