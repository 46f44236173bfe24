import FirmwareUpdate.Inventory.Label

/-!
# Device identifiers

A device names itself by a list of descriptors: registry numbers, a UUID, data of
its vendor under an optional title, or bytes of any other type, which are kept as
they are. Titles do not count when two descriptors are compared.
-/

namespace FirmwareUpdate

open Wire

/-- A 128-bit identifier. -/
structure Uuid where
  bytes : List UInt8
  size_eq : bytes.length = 16
deriving DecidableEq

namespace Uuid

/-- The identifier with the given bytes. -/
def ofBytes? (bytes : List UInt8) : Option Uuid :=
  if size : bytes.length = 16 then some ⟨bytes, size⟩ else none

/-- The bytes in five groups, with hyphens between them. -/
def describe (uuid : Uuid) : String :=
  let group (start count : Nat) := hexText ((uuid.bytes.drop start).take count)
  "-".intercalate [group 0 4, group 4 2, group 6 2, group 8 2, group 10 6]

end Uuid

/-- One statement about what a device is. -/
inductive Descriptor where
  /-- The vendor in the registry of the PCI bus. -/
  | pciVendor (id : UInt16)
  /-- The vendor's number as an enterprise. -/
  | enterprise (id : UInt32)
  | uuid (id : Uuid)
  /-- Data that the vendor defines. -/
  | vendor (title : Option Label) (data : List UInt8)
  /-- Data of a type without a meaning here. -/
  | other (kind : UInt16) (data : List UInt8)
deriving DecidableEq

namespace Descriptor

/-- Both descriptors say the same, whatever the titles of vendor data. -/
def agrees : Descriptor → Descriptor → Bool
  | pciVendor first, pciVendor second => first == second
  | enterprise first, enterprise second => first == second
  | uuid first, uuid second => first == second
  | vendor _ first, vendor _ second => first == second
  | other firstKind first, other secondKind second =>
    firstKind == secondKind && first == second
  | _, _ => false

/-- The type on the wire. -/
def kind : Descriptor → UInt16
  | pciVendor _ => 0x0000
  | enterprise _ => 0x0001
  | uuid _ => 0x0002
  | vendor _ _ => 0xffff
  | other kind _ => kind

/-- The value on the wire. -/
def valueLayout : Descriptor → Layout
  | pciVendor id => Layout.word16 id
  | enterprise id => Layout.word32 id
  | uuid id => Layout.bytes id.bytes
  | vendor none data => Layout.bytes data
  | vendor (some title) data => title.layout ++ Layout.bytes data
  | other _ data => Layout.bytes data

/-- Type, length and value. The value is written on its own first, so that it can
fail before anything else does. -/
def layout (descriptor : Descriptor) : Layout :=
  match descriptor.valueLayout.toMessage with
  | .error error => Layout.refused error
  | .ok value =>
    Layout.word16 descriptor.kind ++ Layout.word16 (UInt16.ofNat value.length) ++
      Layout.bytes value

/-- Reads vendor data. Data that does not start with a title is all data. -/
def vendorReader : Reader Descriptor := fun input =>
  match Label.adjacentReader input with
  | .ok (title, data) => .ok (vendor (some title) data, [])
  | .error _ => .ok (vendor none input, [])

/-- Reads the value of a descriptor of the given type. -/
def valueReader (kind : UInt16) : Reader Descriptor :=
  if kind = 0x0000 then pciVendor <$> Reader.word16
  else if kind = 0x0001 then enterprise <$> Reader.word32
  else if kind = 0x0002 then do
    let contents ← Reader.take 16
    uuid <$> Reader.require (Uuid.ofBytes? contents)
  else if kind = 0xffff then vendorReader
  else other kind <$> Reader.rest

/-- Reads type, length and value. -/
def reader : Reader Descriptor := do
  let kind ← Reader.word16
  let size ← Reader.word16
  Reader.within size.toNat (valueReader kind)

/-- The printed form of a descriptor. -/
def describe : Descriptor → String
  | pciVendor id => "pci-vid:" ++ hexNumber 4 id.toNat
  | enterprise id => "iana:" ++ hexNumber 8 id.toNat
  | uuid id => "uuid:" ++ id.describe
  | vendor title data =>
    "vendor:" ++ (title.map Label.describe).getD "" ++ "[" ++ hexText data ++ "]"
  | other kind data => hexNumber 4 kind.toNat ++ ":[" ++ hexText data ++ "]"

end Descriptor

/-- What a device says it is. The first descriptor is the initial one. -/
structure DeviceIdentifiers where
  descriptors : List Descriptor := []
deriving DecidableEq

namespace DeviceIdentifiers

/-- A count and the descriptors. -/
def layout (identifiers : DeviceIdentifiers) : Layout :=
  (if identifiers.descriptors.length < 256 then
    Layout.byte (UInt8.ofNat identifiers.descriptors.length)
  else Layout.refused .invalidArgument) ++
    identifiers.descriptors.flatMap Descriptor.layout

/-- The body of a response: the length of the descriptors before all else. -/
def responseLayout (identifiers : DeviceIdentifiers) : Layout :=
  match identifiers.layout.toMessage with
  | .error error => Layout.refused error
  | .ok body => Layout.word32 (UInt32.ofNat (body.length - 1)) ++ Layout.bytes body

/-- Reads a count and the descriptors. -/
def reader : Reader DeviceIdentifiers := do
  let count ← Reader.byte
  DeviceIdentifiers.mk <$> Reader.replicate Descriptor.reader count.toNat

/-- Reads the body of a response. Its length does not count the count. -/
def responseReader : Reader DeviceIdentifiers := do
  let size ← Reader.word32
  Reader.within (size.toNat + 1) reader

/-- The printed descriptors, separated by commas. -/
def describe (identifiers : DeviceIdentifiers) : String :=
  ",".intercalate (identifiers.descriptors.map Descriptor.describe)

end DeviceIdentifiers

end FirmwareUpdate
