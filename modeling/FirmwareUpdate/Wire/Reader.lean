import FirmwareUpdate.Wire.Bytes
import FirmwareUpdate.Wire.Error

/-!
# Readers

A reader takes bytes from the front of its input. It keeps two failures apart:
the input ended too early, or it holds something that is no value. `decode` turns
them into the error of a whole message body, for which bytes left over are as bad
as bytes that are wrong.
-/

namespace FirmwareUpdate.Wire

/-- Why a reader stopped. -/
inductive ReadFailure where
  /-- More input was needed. -/
  | endOfInput
  /-- No continuation of the input makes it a value. -/
  | invalid
deriving DecidableEq, Repr

/-- A reader of values from the front of a byte string. -/
abbrev Reader := StateT (List UInt8) (Except ReadFailure)

namespace Reader

/-- Fails without looking at the input. -/
def fail {α : Type} (failure : ReadFailure) : Reader α := fun _ => .error failure

/-- The next `count` bytes. -/
def take (count : Nat) : Reader (List UInt8) := fun input =>
  if count ≤ input.length then .ok (input.take count, input.drop count)
  else .error .endOfInput

/-- The next byte. -/
def byte : Reader UInt8
  | [] => .error .endOfInput
  | head :: rest => .ok (head, rest)

/-- All that is left. -/
def rest : Reader (List UInt8) := fun input => .ok (input, [])

/-- A little-endian number of `width` bytes. -/
def number (width : Nat) : Reader Nat := ofLittleEndian <$> take width

/-- A little-endian 16-bit word. -/
def word16 : Reader UInt16 := UInt16.ofNat <$> number 2

/-- A little-endian 32-bit word. -/
def word32 : Reader UInt32 := UInt32.ofNat <$> number 4

/-- A little-endian 64-bit word. -/
def word64 : Reader UInt64 := UInt64.ofNat <$> number 8

/-- The value of an optional result; its absence makes the input invalid. -/
def require {α : Type} : Option α → Reader α
  | some value => pure value
  | none => fail .invalid

/-- Runs `reader` on exactly the next `count` bytes. A body that leaves some of
them over is reported like one that needs more. -/
def within {α : Type} (count : Nat) (reader : Reader α) : Reader α := do
  let body ← take count
  match reader body with
  | .ok (value, []) => pure value
  | .ok (_, _ :: _) => fail .endOfInput
  | .error failure => fail failure

/-- The values that `reader` finds one after the other, `count` of them. -/
def replicate {α : Type} (reader : Reader α) : Nat → Reader (List α)
  | 0 => pure []
  | count + 1 => do
    let head ← reader
    let tail ← replicate reader count
    pure (head :: tail)

end Reader

/-- Reads a complete body called `what`. -/
def decode {α : Type} (what : String) (reader : Reader α) (body : List UInt8) :
    Except CodecError α :=
  match reader body with
  | .ok (value, []) => .ok value
  | .ok (_, _ :: _) => .error (.malformed what)
  | .error .endOfInput => .error (.truncated what)
  | .error .invalid => .error (.malformed what)

end FirmwareUpdate.Wire
