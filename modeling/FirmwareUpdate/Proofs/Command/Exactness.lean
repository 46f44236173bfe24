import FirmwareUpdate.Proofs.Inventory.Parameters
import FirmwareUpdate.Proofs.Wire.Cutoff

/-!
# Message bodies are encoded exactly

Every body but a portion of a multipart transfer says itself where it ends: by its fields alone, or
by the length of the label that comes last. Its reader is steady for that reason, so a body is read
back as it was, each part of it is truncated, and more bytes behind it make it malformed. A portion
has no such end: it takes all that is left.
-/

namespace FirmwareUpdate

open Wire

/-! ## Readers that know where a body ends -/

/-- A text of a given size fails the same way however its input goes on. -/
theorem Label.steady_reader (kind size : UInt8) : Reader.Steady (reader kind size) :=
  (Reader.steady_take _).bind fun _ => Reader.steady_require _

/-- The same of a text whose size stands right before it. -/
theorem Label.steady_adjacentReader : Reader.Steady adjacentReader :=
  Reader.steady_byte.bind fun kind => Reader.steady_byte.bind fun size => steady_reader kind size

theorem UpdateRequest.steady_reader : Reader.Steady reader :=
  Reader.steady_word32.bind fun _ => Reader.steady_word16.bind fun _ =>
    Reader.steady_byte.bind fun _ => Reader.steady_word16.bind fun _ =>
      Label.steady_adjacentReader.bind fun _ => Reader.steady_pure _

theorem UpdateResponse.steady_reader : Reader.Steady reader :=
  Reader.steady_word16.bind fun _ => Reader.steady_byte.bind fun _ => Reader.steady_pure _

theorem PartRequest.steady_reader : Reader.Steady reader :=
  Reader.steady_word32.bind fun _ => Reader.steady_byte.bind fun _ => Reader.steady_pure _

theorem ComponentKey.steady_reader : Reader.Steady reader :=
  (Reader.steady_word16.map _).bind fun _ => Reader.steady_word16.bind fun _ =>
    Reader.steady_byte.bind fun _ => Reader.steady_pure _

namespace ComponentRecord

/-- The component record of a PassComponentTable request is read steadily. -/
theorem steady_tableReader : Reader.Steady tableReader :=
  ComponentKey.steady_reader.bind fun _ => Reader.steady_word32.bind fun _ =>
    Label.steady_adjacentReader.bind fun _ => Reader.steady_pure _

/-- The component record of an UpdateComponent request is read steadily. -/
theorem steady_updateReader : Reader.Steady updateReader :=
  ComponentKey.steady_reader.bind fun _ => Reader.steady_word32.bind fun _ =>
    Reader.steady_word32.bind fun _ => Reader.steady_word32.bind fun _ =>
      Label.steady_adjacentReader.bind fun _ => Reader.steady_pure _

end ComponentRecord

theorem TableEntry.steady_reader : Reader.Steady reader :=
  Reader.steady_coded.bind fun _ => ComponentRecord.steady_tableReader.bind fun _ =>
    Reader.steady_pure _

theorem TableResponse.steady_reader : Reader.Steady reader :=
  Reader.steady_byte.bind fun _ => Reader.steady_byte.bind fun _ => Reader.steady_pure _

theorem ComponentResponse.steady_reader : Reader.Steady reader :=
  Reader.steady_byte.bind fun _ => Reader.steady_byte.bind fun _ =>
    Reader.steady_word32.bind fun _ => Reader.steady_word16.bind fun _ => Reader.steady_pure _

theorem DataRequest.steady_reader : Reader.Steady reader :=
  Reader.steady_word32.bind fun _ => Reader.steady_word32.bind fun _ => Reader.steady_pure _

theorem ResultReport.steady_reader : Reader.Steady reader := Reader.steady_byte.map _

theorem ActivationMethods.steady_reader : Reader.Steady reader :=
  Reader.steady_word16.bind fun _ => Reader.steady_pure _

theorem ApplyReport.steady_reader : Reader.Steady reader :=
  Reader.steady_byte.bind fun _ => ActivationMethods.steady_reader.bind fun _ =>
    Reader.steady_pure _

theorem ActivationRequest.steady_reader : Reader.Steady reader :=
  Reader.steady_byte.bind fun _ => Reader.steady_pure _

theorem ActivationResponse.steady_reader : Reader.Steady reader := Reader.steady_word16.map _

theorem DeviceStatus.steady_reader : Reader.Steady reader :=
  Reader.steady_coded.bind fun _ => Reader.steady_coded.bind fun _ =>
    Reader.steady_byte.bind fun _ => Reader.steady_byte.bind fun _ =>
      Reader.steady_byte.bind fun _ => Reader.steady_byte.bind fun _ =>
        Reader.steady_word32.bind fun _ => Reader.steady_pure _

theorem CancelResponse.steady_reader : Reader.Steady reader :=
  Reader.steady_byte.bind fun _ => Reader.steady_word64.bind fun _ => Reader.steady_pure _

/-! ## Components of an update -/

/-- The classification has no other name. -/
def Classification.IsCanonical (classification : Classification) : Prop :=
  ∀ value, classification = .number value → value ≠ 0x0000 ∧ value ≠ 0x0001 ∧ value ≠ 0x000a

/-- A key whose classification is canonical arrives as it was sent. -/
theorem ComponentKey.onWire_of_canonical {key : ComponentKey}
    (canonical : key.classification.IsCanonical) : key.onWire = key := by
  rw [onWire, Classification.onWire_eq_self.mpr canonical]

/-- An entry of the component table carries neither a size nor options, whether the record has them
or not. -/
theorem TableEntry.exactly (flag : TransferFlag) {key : ComponentKey} (stamp : UInt32)
    {version : Label} (size options : Option UInt32) (canonical : key.classification.IsCanonical)
    (short : version.IsShort) :
    EncodesExactly (layout { flag, record := { key, stamp, version, size, options } }) reader
      { flag, record := { key, stamp, version } } := by
  have trip := TableEntry.roundTrips
    { flag, record := { key, stamp, version, size, options } } short
  simp only [ComponentRecord.inTable, ComponentKey.onWire_of_canonical canonical] at trip
  exact trip.exactly steady_reader

/-- The request to update a component carries both. -/
theorem ComponentRecord.update_exactly {key : ComponentKey} (stamp size options : UInt32)
    {version : Label} (canonical : key.classification.IsCanonical) (short : version.IsShort) :
    EncodesExactly
      (updateLayout { key, stamp, version, size := some size, options := some options })
      updateReader { key, stamp, version, size := some size, options := some options } := by
  have trip := ComponentRecord.update_roundTrips
    { key, stamp, version, size := some size, options := some options } short
  simp only [inUpdate, inTable, ComponentKey.onWire_of_canonical canonical,
    Option.getD_some] at trip
  exact trip.exactly steady_updateReader

/-! ## All bodies -/

/-- Every body of these fourteen kinds whose labels are short, and whose classification has no other
name, has one encoding. It is decoded as the body, every strict prefix of it is truncated, and with
more bytes behind it it is malformed. A size and options belong to the request to update a
component; a record that has them is an entry of the component table without them. -/
theorem bodies_are_encoded_exactly :
    (∀ body : UpdateRequest, body.version.IsShort →
      EncodesExactly body.layout UpdateRequest.reader body) ∧
    (∀ body : UpdateResponse, EncodesExactly body.layout UpdateResponse.reader body) ∧
    (∀ body : PartRequest, EncodesExactly body.layout PartRequest.reader body) ∧
    (∀ (flag : TransferFlag) (key : ComponentKey) (stamp : UInt32) (version : Label)
      (size options : Option UInt32), key.classification.IsCanonical → version.IsShort →
      let record : ComponentRecord := { key, stamp, version }
      EncodesExactly (TableEntry.layout { flag, record := { record with size, options } })
        TableEntry.reader { flag, record }) ∧
    (∀ (key : ComponentKey) (stamp size options : UInt32) (version : Label),
      key.classification.IsCanonical → version.IsShort →
      let record : ComponentRecord :=
        { key, stamp, version, size := some size, options := some options }
      EncodesExactly record.updateLayout ComponentRecord.updateReader record) ∧
    (∀ body : TableResponse, EncodesExactly body.layout TableResponse.reader body) ∧
    (∀ body : ComponentResponse, EncodesExactly body.layout ComponentResponse.reader body) ∧
    (∀ body : DataRequest, EncodesExactly body.layout DataRequest.reader body) ∧
    (∀ body : ResultReport, EncodesExactly body.layout ResultReport.reader body) ∧
    (∀ body : ApplyReport, EncodesExactly body.layout ApplyReport.reader body) ∧
    (∀ body : ActivationRequest, EncodesExactly body.layout ActivationRequest.reader body) ∧
    (∀ body : ActivationResponse, EncodesExactly body.layout ActivationResponse.reader body) ∧
    (∀ body : DeviceStatus, EncodesExactly body.layout DeviceStatus.reader body) ∧
    (∀ body : CancelResponse, EncodesExactly body.layout CancelResponse.reader body) := by
  refine ⟨?_, ?_, ?_, ?_, ?_, ?_, ?_, ?_, ?_, ?_, ?_, ?_, ?_, ?_⟩
  · exact fun body short => (body.roundTrips short).exactly UpdateRequest.steady_reader
  · exact fun body => body.roundTrips.exactly UpdateResponse.steady_reader
  · exact fun body => body.roundTrips.exactly PartRequest.steady_reader
  · exact fun flag key stamp version size options canonical short =>
      TableEntry.exactly flag stamp size options canonical short
  · exact fun key stamp size options version canonical short =>
      ComponentRecord.update_exactly stamp size options canonical short
  · exact fun body => body.roundTrips.exactly TableResponse.steady_reader
  · exact fun body => body.roundTrips.exactly ComponentResponse.steady_reader
  · exact fun body => body.roundTrips.exactly DataRequest.steady_reader
  · exact fun body => body.roundTrips.exactly ResultReport.steady_reader
  · exact fun body => body.roundTrips.exactly ApplyReport.steady_reader
  · exact fun body => body.roundTrips.exactly ActivationRequest.steady_reader
  · exact fun body => body.roundTrips.exactly ActivationResponse.steady_reader
  · exact fun body => body.roundTrips.exactly DeviceStatus.steady_reader
  · exact fun body => body.roundTrips.exactly CancelResponse.steady_reader

namespace RequestedComponent

/-- A component whose classification has no name. -/
def key : ComponentKey := { classification := .number 0x8000, identifier := 2, index := 1 }

/-- The request to update it with fifty bytes. -/
def record : ComponentRecord :=
  { key, stamp := 0, version := .text "x", size := some 50, options := some 1 }

/-- The request as it is written. -/
def written : List UInt8 := [0, 0x80, 2, 0, 1, 0, 0, 0, 0, 50, 0, 0, 0, 1, 0, 0, 0, 1, 1, 0x78]

end RequestedComponent

open RequestedComponent in
/-- A request that ends with a label of one letter is encoded exactly. -/
theorem requested_component_is_encoded_exactly :
    key.classification.IsCanonical ∧ record.version.IsShort ∧
      IsExactly record.updateLayout ComponentRecord.updateReader record written := by
  have canonical : key.classification.IsCanonical := by
    rintro value ⟨⟩
    decide
  have short : record.version.IsShort :=
    show record.version.bytes.length < 256 by decide +kernel
  have encoded : record.updateLayout.encode 20 = .ok written := by decide +kernel
  obtain ⟨form, exactly⟩ :=
    bodies_are_encoded_exactly.2.2.2.2.1 key 0 50 1 (.text "x") canonical short
  have same := (exactly.encode 20).symm.trans encoded
  split at same
  · cases same
    exact ⟨canonical, short, exactly⟩
  · cases same

end FirmwareUpdate
