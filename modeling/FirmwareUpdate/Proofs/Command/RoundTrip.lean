import FirmwareUpdate.Command.Bodies
import FirmwareUpdate.Proofs.Wire.RoundTrip

/-!
# Message bodies are read back

One statement for each body that an update exchanges: its layout and its reader fit
together, and how long it is. Labels make the only condition, because their length
has to fit its byte. A classification that another number already names comes back
under that name, see `ComponentKey.onWire`.
-/

namespace FirmwareUpdate

open Wire

/-! ## Labels -/

namespace Label

/-- A text is what its own bytes spell. -/
theorem ofUtf8?_bytes (value : String) : ofUtf8? (text value).bytes = some (text value) := by
  have utf8 : (⟨value.toUTF8.data.toList.toArray⟩ : ByteArray) = value.toUTF8 := by
    rw [Array.toArray_toList]
  simp only [ofUtf8?, bytes, utf8]
  simp [String.fromUTF8?, value.isValidUTF8, String.fromUTF8]

/-- Type and contents determine a label. -/
theorem ofKind?_kind_bytes (label : Label) : ofKind? label.kind label.bytes = some label := by
  cases label with
  | raw contents => simp [ofKind?, kind, bytes]
  | text value =>
      simp only [ofKind?, kind]
      split <;> simp [ofUtf8?_bytes]

/-- A text shorter than 256 bytes has its length written before it. -/
theorem contents_sizeField {label : Label} (short : label.bytes.length < 256) :
    label.sizeField.contents = .ok [UInt8.ofNat label.bytes.length] := by
  simp only [sizeField, size?, if_pos short]
  rfl

/-- A length that fits its byte is read back. -/
theorem sizeField_roundTrips (label : Label) (short : label.bytes.length < 256) :
    RoundTrips label.sizeField Reader.byte (UInt8.ofNat label.bytes.length) 1 :=
  ⟨[UInt8.ofNat label.bytes.length], contents_sizeField short, rfl, Reader.reads_byte _⟩

/-- The contents of a label are read back by its type and its length. -/
theorem contents_roundTrips (label : Label) (short : label.bytes.length < 256) :
    RoundTrips (Layout.bytes label.bytes) (reader label.kind (UInt8.ofNat label.bytes.length))
      label label.bytes.length := by
  have sized : (UInt8.ofNat label.bytes.length).toNat = label.bytes.length := by
    rw [UInt8.toNat_ofNat', Nat.mod_eq_of_lt short]
  refine ⟨label.bytes, Layout.contents_bytes _, rfl, ?_⟩
  have read : Reader.Reads (reader label.kind (UInt8.ofNat label.bytes.length))
      (label.bytes ++ []) label := by
    rw [reader, sized]
    exact (Reader.reads_take label.bytes).bind
      (Reader.reads_require (ofKind?_kind_bytes label))
  rwa [List.append_nil] at read

/-- A label whose length fits its byte is read back. -/
theorem roundTrips (label : Label) (short : label.bytes.length < 256) :
    RoundTrips label.layout adjacentReader label (2 + label.bytes.length) := by
  rw [layout, List.append_assoc]
  exact RoundTrips.resize ((RoundTrips.byte label.kind).bind
    ((label.sizeField_roundTrips short).bind (label.contents_roundTrips short))) (by omega)

end Label

/-! ## Agent to device -/

/-- The body of RequestUpdate: eleven bytes, and the version of the image set. -/
theorem UpdateRequest.roundTrips (body : UpdateRequest)
    (short : body.version.bytes.length < 256) :
    RoundTrips body.layout reader body (11 + body.version.bytes.length) := by
  simp only [layout, List.append_assoc]
  exact RoundTrips.resize ((RoundTrips.word32 _).bind ((RoundTrips.word16 _).bind
    ((RoundTrips.byte _).bind ((RoundTrips.word16 _).bind
      ((body.version.roundTrips short).last _))))) (by omega)

/-- The body that asks for a part of the metadata or package data. -/
theorem PartRequest.roundTrips (body : PartRequest) : RoundTrips body.layout reader body 5 :=
  RoundTrips.resize ((RoundTrips.word32 _).bind ((RoundTrips.byte _).last _)) rfl

/-- The classification as it comes back from the wire. -/
def Classification.onWire (classification : Classification) : Classification :=
  ofWord classification.word

/-- A classification comes back in its canonical form. -/
theorem Classification.roundTrips (classification : Classification) :
    RoundTrips classification.layout reader classification.onWire 2 := by
  obtain ⟨written, spelled, sized, read⟩ := RoundTrips.word16 classification.word
  exact ⟨written, spelled, sized, read.map ofWord⟩

/-- The key as it comes back from the wire. -/
def ComponentKey.onWire (key : ComponentKey) : ComponentKey :=
  { key with classification := key.classification.onWire }

/-- A key comes back with its classification in canonical form. -/
theorem ComponentKey.roundTrips (key : ComponentKey) :
    RoundTrips key.layout reader key.onWire 5 := by
  rw [layout, List.append_assoc]
  exact RoundTrips.resize (key.classification.roundTrips.bind ((RoundTrips.word16 _).bind
    ((RoundTrips.byte _).last _))) rfl

namespace ComponentRecord

/-- The record as an entry of the component table comes back from the wire. -/
def inTable (record : ComponentRecord) : ComponentRecord :=
  { key := record.key.onWire, stamp := record.stamp, version := record.version }

/-- The record as the request to update the component comes back from the wire. -/
def inUpdate (record : ComponentRecord) : ComponentRecord :=
  { record.inTable with
    size := some (record.size.getD 0)
    options := some (record.options.getD 0) }

/-- A component record as PassComponentTable carries it: what that request leaves out comes back as
its default. -/
theorem table_roundTrips (record : ComponentRecord)
    (short : record.version.bytes.length < 256) :
    RoundTrips record.tableLayout tableReader record.inTable
      (11 + record.version.bytes.length) := by
  rw [tableLayout, List.append_assoc]
  exact RoundTrips.resize (record.key.roundTrips.bind ((RoundTrips.word32 _).bind
    ((record.version.roundTrips short).last _))) (by omega)

/-- A component record as UpdateComponent carries it: what that request leaves out comes back as its
default. -/
theorem update_roundTrips (record : ComponentRecord)
    (short : record.version.bytes.length < 256) :
    RoundTrips record.updateLayout updateReader record.inUpdate
      (19 + record.version.bytes.length) := by
  simp only [updateLayout, List.append_assoc]
  exact RoundTrips.resize (record.key.roundTrips.bind ((RoundTrips.word32 _).bind
    ((RoundTrips.word32 _).bind ((RoundTrips.word32 _).bind
      ((record.version.roundTrips short).last _))))) (by omega)

/-- A record that is read from a request to update a component has a size. -/
theorem size_of_decode {what : String} {body : List UInt8} {record : ComponentRecord}
    (decoded : decode what updateReader body = .ok record) : ∃ size, record.size = some size := by
  simp only [decode] at decoded
  split at decoded <;> try cases decoded
  rename_i read
  simp only [updateReader, Reader.bind_eq_ok_iff] at read
  obtain ⟨_, _, _, _, _, _, size, _, _, _, _, _, _, _, _, done⟩ := read
  cases done
  exact ⟨size, rfl⟩

end ComponentRecord

/-- The body of PassComponentTable: the place in the table, and the record. -/
theorem TableEntry.roundTrips (body : TableEntry)
    (short : body.record.version.bytes.length < 256) :
    RoundTrips body.layout reader { body with record := body.record.inTable }
      (12 + body.record.version.bytes.length) :=
  RoundTrips.resize ((RoundTrips.coded _).bind ((body.record.table_roundTrips short).last _))
    (by omega)

/-- The body of ActivateFirmware, one flag. -/
theorem ActivationRequest.roundTrips (body : ActivationRequest) :
    RoundTrips body.layout reader body 1 := by
  have read : ((if body.selfContained then (1 : UInt8) else 0) != 0) = body.selfContained := by
    cases body.selfContained <;> rfl
  have trip : RoundTrips body.layout reader
      { selfContained := (if body.selfContained then (1 : UInt8) else 0) != 0 } 1 :=
    (RoundTrips.byte _).last _
  rwa [read] at trip

/-- The answer to RequestUpdate. -/
theorem UpdateResponse.roundTrips (body : UpdateResponse) :
    RoundTrips body.layout reader body 3 :=
  RoundTrips.resize ((RoundTrips.word16 _).bind ((RoundTrips.byte _).last _)) rfl

/-- The answer to PassComponentTable. -/
theorem TableResponse.roundTrips (body : TableResponse) : RoundTrips body.layout reader body 2 :=
  RoundTrips.resize ((RoundTrips.byte _).bind ((RoundTrips.byte _).last _)) rfl

/-- The answer to UpdateComponent. -/
theorem ComponentResponse.roundTrips (body : ComponentResponse) :
    RoundTrips body.layout reader body 8 := by
  simp only [layout, List.append_assoc]
  exact RoundTrips.resize ((RoundTrips.byte _).bind ((RoundTrips.byte _).bind
    ((RoundTrips.word32 _).bind ((RoundTrips.word16 _).last _)))) rfl

/-- The answer to ActivateFirmware, an estimate of the time. -/
theorem ActivationResponse.roundTrips (body : ActivationResponse) :
    RoundTrips body.layout reader body 2 := by
  obtain ⟨written, spelled, sized, read⟩ := RoundTrips.word16 body.estimatedTime
  exact ⟨written, spelled, sized, read.map ActivationResponse.mk⟩

/-- The answer to GetStatus. -/
theorem DeviceStatus.roundTrips (body : DeviceStatus) : RoundTrips body.layout reader body 10 := by
  simp only [layout, List.append_assoc]
  exact RoundTrips.resize ((RoundTrips.coded _).bind ((RoundTrips.coded _).bind
    ((RoundTrips.byte _).bind ((RoundTrips.byte _).bind ((RoundTrips.byte _).bind
      ((RoundTrips.byte _).bind ((RoundTrips.word32 _).last _))))))) rfl

/-- The answer to CancelUpdate. -/
theorem CancelResponse.roundTrips (body : CancelResponse) :
    RoundTrips body.layout reader body 9 :=
  RoundTrips.resize ((RoundTrips.byte _).bind ((RoundTrips.word64 _).last _)) rfl

/-! ## Device to agent -/

/-- A portion is everything after the header of its body. -/
theorem PartResponse.written (body : PartResponse) :
    ∃ head, body.layout.contents = .ok (head ++ body.portion) ∧ head.length = headerSize ∧
      ∀ what, decode what reader (head ++ body.portion) = .ok body := by
  refine ⟨bytes32 body.nextHandle ++ [Coded.code body.flag], ?_, by simp [headerSize], ?_⟩
  · exact Layout.contents_append (Layout.contents_append (Layout.contents_word32 _)
      (Layout.contents_byte _)) (Layout.contents_bytes _)
  · intro what
    have head := (Reader.reads_word32 body.nextHandle) ([Coded.code body.flag] ++ body.portion)
    have flag := (Reader.reads_coded body.flag) body.portion
    have read : reader (bytes32 body.nextHandle ++ [Coded.code body.flag] ++ body.portion) =
        .ok (body, []) := by
      rw [List.append_assoc]
      simp only [reader, bind, StateT.bind, Except.bind, head, flag]
      rfl
    simp only [decode, read]

/-- A portion that has been written comes after the header of its body. -/
theorem PartResponse.length_of_written {body : PartResponse} {written : List UInt8}
    (encoded : body.layout.toMessage = .ok written) :
    written.length = headerSize + body.portion.length := by
  obtain ⟨head, spelled, length, -⟩ := body.written
  obtain ⟨same, -⟩ := Layout.toMessage_eq_ok_iff.mp encoded
  cases spelled.symm.trans same
  rw [List.length_append, length]

/-- A portion for which there is room is decoded from its message. -/
theorem PartResponse.message (body : PartResponse)
    (short : headerSize + body.portion.length ≤ maxMessageSize) (what : String) :
    ∃ written, body.layout.toMessage = .ok written ∧ decode what reader written = .ok body := by
  obtain ⟨head, spelled, length, read⟩ := body.written
  exact ⟨head ++ body.portion,
    Layout.toMessage_eq_ok_iff.mpr ⟨spelled, by rw [List.length_append, length]; exact short⟩,
    read what⟩

/-- The body of RequestFirmwareData, an offset and a length. -/
theorem DataRequest.roundTrips (body : DataRequest) : RoundTrips body.layout reader body 8 :=
  RoundTrips.resize ((RoundTrips.word32 _).bind ((RoundTrips.word32 _).last _)) rfl

/-- The body of a report that carries a single result. -/
theorem ResultReport.roundTrips (body : ResultReport) :
    RoundTrips body.layout reader body 1 := by
  obtain ⟨written, spelled, sized, read⟩ := RoundTrips.byte body.result
  exact ⟨written, spelled, sized, read.map ResultReport.mk⟩

namespace ActivationMethods

/-- All activation methods have their bits in the lowest byte. -/
theorem word_lt (methods : ActivationMethods) : methods.word.toNat < 256 := by
  have known : knownOptions ActivationMethod = 255 := by decide
  have masked := congrArg UInt32.toNat methods.word_known
  rw [known, UInt32.toNat_and] at masked
  have bounded : methods.word.toNat &&& (255 : UInt32).toNat ≤ (255 : UInt32).toNat :=
    Nat.and_le_right
  have top : (255 : UInt32).toNat = 255 := rfl
  omega

/-- The activation methods are a set of flags, and each flag comes back. -/
theorem roundTrips (methods : ActivationMethods) :
    RoundTrips methods.layout reader methods 2 := by
  have same : methods.word.toUInt16.toUInt32 = methods.word := by
    apply UInt32.toNat_inj.mp
    rw [UInt16.toNat_toUInt32, UInt32.toNat_toUInt16]
    have small := methods.word_lt
    exact Nat.mod_eq_of_lt (by omega)
  have trip : RoundTrips methods.layout reader
      (OptionSet.ofWord methods.word.toUInt16.toUInt32) 2 :=
    (RoundTrips.word16 _).last _
  rwa [same, OptionSet.ofWord_word] at trip

end ActivationMethods

/-- The body of ApplyComplete, a result and the methods that activate. -/
theorem ApplyReport.roundTrips (body : ApplyReport) : RoundTrips body.layout reader body 3 :=
  RoundTrips.resize ((RoundTrips.byte _).bind (body.methods.roundTrips.last _)) rfl

end FirmwareUpdate
