/-!
# Little-endian words

Every multi-byte number of the protocol is written with its low byte first.
`littleEndian` and `ofLittleEndian` are the two directions, for any width. The
first loses only what the width cannot hold.
-/

namespace FirmwareUpdate.Wire

/-- The low `width` bytes of `value`, low byte first. -/
def littleEndian : (width value : Nat) → List UInt8
  | 0, _ => []
  | width + 1, value => UInt8.ofNat value :: littleEndian width (value / 256)

/-- The number whose bytes are given low byte first. -/
def ofLittleEndian : List UInt8 → Nat
  | [] => 0
  | byte :: rest => byte.toNat + 256 * ofLittleEndian rest

@[simp] theorem length_littleEndian (width value : Nat) :
    (littleEndian width value).length = width := by
  induction width generalizing value with
  | zero => rfl
  | succ width ih => simp [littleEndian, ih]

/-- The two bytes of a 16-bit word. -/
def bytes16 (value : UInt16) : List UInt8 := littleEndian 2 value.toNat

/-- The four bytes of a 32-bit word. -/
def bytes32 (value : UInt32) : List UInt8 := littleEndian 4 value.toNat

/-- The eight bytes of a 64-bit word. -/
def bytes64 (value : UInt64) : List UInt8 := littleEndian 8 value.toNat

end FirmwareUpdate.Wire
