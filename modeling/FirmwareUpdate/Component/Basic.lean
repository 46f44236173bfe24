import FirmwareUpdate.Inventory.Date
import FirmwareUpdate.Inventory.Label
import FirmwareUpdate.Component.Options

/-!
# Components of a device

A component is a part of a device that has firmware of its own. It is found by its
classification, identifier and index, and it reports the version in use and the
one that waits for activation. The parameters of a device list all its components.
-/

namespace FirmwareUpdate

open Wire

/-- What kind of thing a component is. -/
inductive Classification where
  | unknown
  | other
  | firmware
  /-- A classification without a name here. -/
  | number (value : UInt16)
deriving DecidableEq, Repr

namespace Classification

/-- The classification of a number. -/
def ofWord (word : UInt16) : Classification :=
  if word = 0x0000 then unknown
  else if word = 0x0001 then other
  else if word = 0x000a then firmware
  else number word

/-- The number of a classification. -/
def word : Classification → UInt16
  | unknown => 0x0000
  | other => 0x0001
  | firmware => 0x000a
  | number value => value

/-- The name of a classification. -/
def describe : Classification → String
  | unknown => "Unknown"
  | other => "Other"
  | firmware => "Firmware"
  | number value => "Code(" ++ toString value.toNat ++ ")"

/-- The field of a classification. -/
def layout (classification : Classification) : Layout :=
  Layout.word16 classification.word

/-- Reads a classification. -/
def reader : Reader Classification := ofWord <$> Reader.word16

end Classification

/-- A version of a component. -/
structure Version where
  /-- Orders the versions of a component; 0 if they have no order. -/
  stamp : UInt32 := 0
  label : Label := .empty
  date : Option Date := none
deriving DecidableEq

namespace Version

/-- The label, and date and stamp if there are any. -/
def describe (version : Version) : String :=
  version.label.describe ++
    (match version.date with
      | some date => " (" ++ date.describe ++ ")"
      | none => "") ++
    (if version.stamp = 0 then "" else " [" ++ hexNumber 8 version.stamp.toNat ++ "]")

/-- All fields of a version but the contents of its label. -/
def headLayout (version : Version) : Layout :=
  Layout.word32 version.stamp ++ Layout.byte version.label.kind ++
    version.label.sizeField ++ Date.layout version.date

end Version

/-- What is read of a version before the contents of its label. -/
structure VersionHead where
  stamp : UInt32
  kind : UInt8
  size : UInt8
  date : Option Date
deriving DecidableEq

namespace VersionHead

/-- Reads all fields of a version but the contents of its label. -/
def reader : Reader VersionHead := do
  let stamp ← Reader.word32
  let kind ← Reader.byte
  let size ← Reader.byte
  let date ← Date.reader
  pure { stamp, kind, size, date }

/-- Reads the contents of the label and completes the version. -/
def complete (head : VersionHead) : Reader Version := do
  let label ← Label.reader head.kind head.size
  pure { stamp := head.stamp, label, date := head.date }

end VersionHead

/-- What tells one component of a device from the others. -/
structure ComponentKey where
  classification : Classification
  identifier : UInt16
  index : UInt8 := 0
deriving DecidableEq, Repr

namespace ComponentKey

/-- The fields of a key. -/
def layout (key : ComponentKey) : Layout :=
  key.classification.layout ++ Layout.word16 key.identifier ++ Layout.byte key.index

/-- Reads a key. -/
def reader : Reader ComponentKey := do
  let classification ← Classification.reader
  let identifier ← Reader.word16
  let index ← Reader.byte
  pure { classification, identifier, index }

end ComponentKey

/-- A component as its device reports it. -/
structure Component where
  key : ComponentKey
  active : Version := {}
  pending : Version := {}
  methods : ActivationMethods := .empty
  capabilities : ComponentCapabilities := .empty
deriving DecidableEq

namespace Component

/-- The fields of a component; the labels come last. -/
def layout (component : Component) : Layout :=
  component.key.layout ++ component.active.headLayout ++ component.pending.headLayout ++
    component.methods.layout ++ component.capabilities.layout ++
    Layout.bytes component.active.label.bytes ++
    Layout.bytes component.pending.label.bytes

/-- Reads a component. -/
def reader : Reader Component := do
  let key ← ComponentKey.reader
  let activeHead ← VersionHead.reader
  let pendingHead ← VersionHead.reader
  let methods ← ActivationMethods.reader
  let capabilities ← OptionSet.reader
  let active ← activeHead.complete
  let pending ← pendingHead.complete
  pure { key, active, pending, methods, capabilities }

end Component

/-- Everything a device reports about its firmware. -/
structure FirmwareParameters where
  capabilities : DeviceCapabilities := .empty
  components : List Component := []
  /-- The version of the image set in use. -/
  active : Label := .empty
  /-- The version of the image set that waits for activation. -/
  pending : Label := .empty
deriving DecidableEq

namespace FirmwareParameters

/-- The fields of the parameters. More components than a word can count are refused
before anything is written. -/
def layout (parameters : FirmwareParameters) : Layout :=
  if parameters.components.length < 65536 then
    parameters.capabilities.layout ++
      Layout.word16 (UInt16.ofNat parameters.components.length) ++
      Layout.byte parameters.active.kind ++ parameters.active.sizeField ++
      Layout.byte parameters.pending.kind ++ parameters.pending.sizeField ++
      Layout.bytes parameters.active.bytes ++ Layout.bytes parameters.pending.bytes ++
      parameters.components.flatMap Component.layout
  else Layout.refused .invalidArgument

/-- Reads the parameters. -/
def reader : Reader FirmwareParameters := do
  let capabilities ← OptionSet.reader
  let count ← Reader.word16
  let activeKind ← Reader.byte
  let activeSize ← Reader.byte
  let pendingKind ← Reader.byte
  let pendingSize ← Reader.byte
  let active ← Label.reader activeKind activeSize
  let pending ← Label.reader pendingKind pendingSize
  let components ← Reader.replicate Component.reader count.toNat
  pure { capabilities, components, active, pending }

end FirmwareParameters

end FirmwareUpdate
