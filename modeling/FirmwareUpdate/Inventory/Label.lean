import FirmwareUpdate.Wire.Layout
import FirmwareUpdate.Wire.Reader

/-!
# Labels

Version strings and titles. A label is text, or bytes whose meaning is unknown.
On the wire a type byte tells the two apart; it also says whether text is plain
ASCII, which the reader ignores: both kinds of text are read as UTF-8.
-/

namespace FirmwareUpdate

open Wire

/-- A version string or title. -/
inductive Label where
  | text (value : String)
  | raw (contents : List UInt8)
deriving DecidableEq

namespace Label

/-- The label of nothing. -/
def empty : Label := raw []

/-- The bytes as text, if they are UTF-8. -/
def ofUtf8? (contents : List UInt8) : Option Label :=
  text <$> String.fromUTF8? ⟨contents.toArray⟩

/-- The contents as they are written. -/
def bytes : Label → List UInt8
  | text value => value.toUTF8.data.toList
  | raw contents => contents

/-- The type byte: 0 for bytes, 1 for ASCII text, 2 for other text. -/
def kind (label : Label) : UInt8 :=
  match label with
  | raw _ => 0
  | text _ => if label.bytes.all (· < 128) then 1 else 2

/-- Text without the blanks and zeros at its end. -/
def trimmed (value : String) : List Char :=
  (value.toList.reverse.dropWhile fun c => c = '\x00' || c = ' ').reverse

/-- A character as it is shown: printable ASCII as itself, quotes and the
backslash behind a backslash, everything else by its code. -/
def shownChar (c : Char) : String :=
  if c = '\t' then "\\t"
  else if c = '\n' then "\\n"
  else if c = '\r' then "\\r"
  else if c = '\\' || c = '\'' || c = '"' then "\\" ++ c.toString
  else if 0x20 ≤ c.toNat && c.toNat ≤ 0x7e then c.toString
  else "\\u\x7b" ++ hexNumber 1 c.toNat ++ "\x7d"

/-- The printed form of a label: text with its odd characters escaped, bytes in
hexadecimal. -/
def describe : Label → String
  | text value => (trimmed value).foldl (fun shown c => shown ++ shownChar c) ""
  | raw contents => hexText contents

/-- The length as a byte, if it fits one. -/
def size? (label : Label) : Except CodecError UInt8 :=
  if label.bytes.length < 256 then .ok (UInt8.ofNat label.bytes.length)
  else .error .invalidArgument

/-- The field that holds the length. -/
def sizeField (label : Label) : Layout := [(fun size => [size]) <$> label.size?]

/-- Type, length and contents, one after the other. -/
def layout (label : Label) : Layout :=
  Layout.byte label.kind ++ label.sizeField ++ Layout.bytes label.bytes

/-- The label of given type and contents. -/
def ofKind? (kind : UInt8) (contents : List UInt8) : Option Label :=
  if kind = 0 then some (raw contents)
  else if kind = 1 || kind = 2 then ofUtf8? contents
  else none

/-- Reads the contents of a label whose type and length are known. -/
def reader (kind size : UInt8) : Reader Label := do
  Reader.require (ofKind? kind (← Reader.take size.toNat))

/-- Reads type, length and contents, one after the other. -/
def adjacentReader : Reader Label := do
  let kind ← Reader.byte
  let size ← Reader.byte
  reader kind size

end Label

end FirmwareUpdate
