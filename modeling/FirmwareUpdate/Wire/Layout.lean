import FirmwareUpdate.Wire.Bytes
import FirmwareUpdate.Wire.Error

/-!
# Layouts and message buffers

The written form of a value is a layout: its fields in order, each the bytes it
contributes or the reason that it has none. Writing a layout takes the fields
one by one, so the first field that fails or does not fit decides the error.
`MessageBuffer` is the output side: bytes with a limit that no write exceeds.
-/

namespace FirmwareUpdate.Wire

/-- The largest message, and the default limit of a buffer. -/
def maxMessageSize : Nat := 4096

/-- The fields of an encoding, in order. -/
abbrev Layout := List (Except CodecError (List UInt8))

namespace Layout

/-- A field of given bytes. -/
def bytes (contents : List UInt8) : Layout := [.ok contents]

/-- A field of one byte. -/
def byte (value : UInt8) : Layout := bytes [value]

/-- A little-endian 16-bit field. -/
def word16 (value : UInt16) : Layout := bytes (bytes16 value)

/-- A little-endian 32-bit field. -/
def word32 (value : UInt32) : Layout := bytes (bytes32 value)

/-- A little-endian 64-bit field. -/
def word64 (value : UInt64) : Layout := bytes (bytes64 value)

/-- A field whose value cannot be written. -/
def refused (error : CodecError) : Layout := [.error error]

/-- The bytes of the fields, which have to fit into `room` bytes. -/
def encode (room : Nat) : Layout → Except CodecError (List UInt8)
  | [] => .ok []
  | .error error :: _ => .error error
  | .ok field :: rest =>
    if field.length ≤ room then
      (field ++ ·) <$> encode (room - field.length) rest
    else .error .noSpace

/-- The bytes of the fields in a buffer of the default size. -/
def toMessage (layout : Layout) : Except CodecError (List UInt8) :=
  layout.encode maxMessageSize

end Layout

/-- Bytes written so far, and the most there may be. -/
structure MessageBuffer where
  contents : List UInt8 := []
  limit : Nat := maxMessageSize
deriving DecidableEq, Repr

namespace MessageBuffer

/-- The number of bytes written. -/
def size (buffer : MessageBuffer) : Nat := buffer.contents.length

/-- The number of bytes that still fit. -/
def remaining (buffer : MessageBuffer) : Nat := buffer.limit - buffer.size

/-- No byte has been written. -/
def isEmpty (buffer : MessageBuffer) : Bool := buffer.contents.isEmpty

/-- Appends the bytes of a layout, or leaves the buffer as it is. -/
def push (buffer : MessageBuffer) (layout : Layout) : Except CodecError MessageBuffer :=
  (fun added => { buffer with contents := buffer.contents ++ added }) <$>
    layout.encode buffer.remaining

/-- Drops the contents and keeps the limit. -/
def clear (buffer : MessageBuffer) : MessageBuffer := { buffer with contents := [] }

end MessageBuffer

end FirmwareUpdate.Wire
