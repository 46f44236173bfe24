/-!
# Hexadecimal and padded text

Numbers and byte strings as the printed forms of this library show them: lower
case hexadecimal, and decimal with leading zeros.
-/

namespace FirmwareUpdate.Wire

/-- Pads `text` on the left with zeros until it has at least `width` characters. -/
def zeroPadded (width : Nat) (text : String) : String :=
  String.ofList (List.replicate (width - text.length) '0') ++ text

/-- The hexadecimal digits of `value`, at least `width` of them. -/
def hexNumber (width value : Nat) : String :=
  zeroPadded width (String.ofList (Nat.toDigits 16 value))

/-- The decimal digits of `value`, at least `width` of them. -/
def decimalNumber (width value : Nat) : String :=
  zeroPadded width (String.ofList (Nat.toDigits 10 value))

/-- One byte as exactly two hexadecimal digits. -/
def hexByte (byte : UInt8) : String :=
  hexNumber 2 byte.toNat

/-- The bytes in order, two hexadecimal digits each. -/
def hexText (bytes : List UInt8) : String :=
  bytes.foldl (fun text byte => text ++ hexByte byte) ""

end FirmwareUpdate.Wire
