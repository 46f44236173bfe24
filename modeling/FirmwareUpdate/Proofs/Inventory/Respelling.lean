import FirmwareUpdate.Proofs.Inventory.Identifiers

/-!
# Device identifiers are written as they were read

Text is read under either of its two types and written under the one that fits it. This is all
that writing can change of identifiers that were read: lengths, counts and the choice whether
vendor data have a title come out the same. What is written is therefore read as the same
identifiers.
-/

namespace FirmwareUpdate

open Wire

/-- The byte strings are equally long, and differ at the given places at most. -/
def Wire.DifferAt (places : List Nat) (first second : List UInt8) : Prop :=
  first.length = second.length ∧ ∀ index, index ∉ places → first[index]? = second[index]?

namespace Wire.DifferAt

theorem refl (bytes : List UInt8) : DifferAt [] bytes bytes := ⟨rfl, fun _ _ => rfl⟩

theorem head (first second : UInt8) (rest : List UInt8) :
    DifferAt [0] (first :: rest) (second :: rest) := by
  refine ⟨rfl, fun index elsewhere => ?_⟩
  cases index with
  | zero => exact absurd (List.mem_singleton.mpr rfl) elsewhere
  | succ index => rfl

/-- Byte strings one after the other differ where each differs, counted from its start. -/
theorem append {places more : List Nat} {first second third fourth : List UInt8}
    (before : DifferAt places first second) (after : DifferAt more third fourth) :
    DifferAt (places ++ more.map (first.length + ·)) (first ++ third) (second ++ fourth) := by
  obtain ⟨sized, same⟩ := before
  obtain ⟨laterSized, laterSame⟩ := after
  refine ⟨by simp only [List.length_append, sized, laterSized], fun index elsewhere => ?_⟩
  simp only [List.mem_append, not_or, List.mem_map, not_exists, not_and] at elsewhere
  by_cases inFront : index < first.length
  · rw [List.getElem?_append_left inFront, List.getElem?_append_left (sized ▸ inFront)]
    exact same index elsewhere.1
  · have behind : first.length ≤ index := Nat.le_of_not_lt inFront
    rw [List.getElem?_append_right behind, List.getElem?_append_right (sized ▸ behind), ← sized]
    exact laterSame _ fun member => elsewhere.2 _ member (Nat.add_sub_cancel' behind)

/-- What stands before both byte strings moves the places. -/
theorem after {places : List Nat} {first second : List UInt8} (front : List UInt8)
    (differ : DifferAt places first second) :
    DifferAt (places.map (front.length + ·)) (front ++ first) (front ++ second) :=
  (refl front).append differ

end Wire.DifferAt

namespace Descriptor

/-- The number of bytes of the value on the wire. -/
def valueSize : Descriptor → Nat
  | pciVendor _ => 2
  | enterprise _ => 4
  | uuid _ => 16
  | vendor none data => data.length
  | vendor (some title) data => 2 + title.bytes.length + data.length
  | other _ data => data.length

/-- Where in the value the type of a title stands. -/
def titleKind : Descriptor → List Nat
  | vendor (some _) _ => [0]
  | _ => []

/-- Where the types of titles stand in descriptors that are one after the other. Four bytes of
each come before its value. -/
def titleKinds : List Descriptor → List Nat
  | [] => []
  | descriptor :: rest =>
    (descriptor.titleKind ++ (titleKinds rest).map (descriptor.valueSize + ·)).map (4 + ·)

/-- The descriptor has the type and comes from the value: it is one that a reader finds, and its
value is written again with another type for its title at most. -/
structure Restores (descriptor : Descriptor) (kind : UInt16) (value : List UInt8) : Prop where
  kind_eq : descriptor.kind = kind
  typed : descriptor.IsTyped
  clear : ¬ descriptor.IsAmbiguous
  size_eq : descriptor.valueSize = value.length
  spells : ∃ written, descriptor.valueLayout.contents = .ok written ∧
    DifferAt descriptor.titleKind written value

/-- Vendor data are split again where they were split. -/
theorem Restores.of_vendorReader {value left : List UInt8} {descriptor : Descriptor}
    (read : vendorReader value = .ok (descriptor, left)) : descriptor.Restores 0xffff value := by
  simp only [vendorReader] at read
  split at read
  · rename_i title data titled
    cases read
    obtain ⟨kind, size, rfl, sized, -⟩ := Label.adjacentReader_eq_ok_iff.mp titled
    have short : title.IsShort := Nat.lt_of_le_of_lt (Nat.le_of_eq sized) size.toNat_lt
    have same : UInt8.ofNat title.bytes.length = size := by rw [sized, UInt8.ofNat_toNat]
    refine ⟨rfl, trivial, not_false, ?_, title.kind :: size :: (title.bytes ++ data), ?_,
      .head _ _ _⟩
    · simp only [valueSize, List.length_cons, List.length_append]
      omega
    · rw [← same]
      exact Layout.contents_append (Label.contents_layout short) (Layout.contents_bytes data)
  · rename_i failure untitled
    cases read
    refine ⟨rfl, trivial, fun leads => ?_, rfl, value, Layout.contents_bytes value, .refl value⟩
    obtain ⟨title, rest, titled⟩ := Label.leads_iff.mp leads
    cases untitled.symm.trans titled

/-- The value of a descriptor is restored by what was read from it. -/
theorem Restores.of_valueReader {kind : UInt16} {value : List UInt8} {descriptor : Descriptor}
    (read : valueReader kind value = .ok (descriptor, [])) : descriptor.Restores kind value := by
  simp only [valueReader] at read
  split at read
  · rename_i pci
    obtain ⟨id, taken, rfl⟩ := Reader.mapped_eq_ok_iff.mp read
    obtain rfl := (Reader.word16_eq_ok_iff.mp taken).trans (List.append_nil _)
    exact ⟨pci.symm, trivial, not_false, (length_bytes16 id).symm, _, Layout.contents_word16 id,
      .refl _⟩
  split at read
  · rename_i enterprise
    obtain ⟨id, taken, rfl⟩ := Reader.mapped_eq_ok_iff.mp read
    obtain rfl := (Reader.word32_eq_ok_iff.mp taken).trans (List.append_nil _)
    exact ⟨enterprise.symm, trivial, not_false, (length_bytes32 id).symm, _,
      Layout.contents_word32 id, .refl _⟩
  split at read
  · rename_i uuid
    obtain ⟨contents, rest, taken, made⟩ := Reader.bind_eq_ok_iff.mp read
    obtain ⟨id, required, rfl⟩ := Reader.mapped_eq_ok_iff.mp made
    obtain ⟨known, rfl⟩ := Reader.require_eq_ok_iff.mp required
    obtain ⟨rfl, sized⟩ := Reader.take_eq_ok_iff.mp taken
    rw [Uuid.ofBytes?, dif_pos sized] at known
    cases known
    rw [List.append_nil]
    exact ⟨uuid.symm, trivial, not_false, sized.symm, _, Layout.contents_bytes contents, .refl _⟩
  split at read
  · rename_i vendor
    exact vendor ▸ of_vendorReader read
  · obtain ⟨data, taken, rfl⟩ := Reader.mapped_eq_ok_iff.mp read
    obtain ⟨rfl, -⟩ := Reader.rest_eq_ok_iff.mp taken
    exact ⟨rfl, ⟨‹_›, ‹_›, ‹_›, ‹_›⟩, not_false, rfl, _, Layout.contents_bytes _, .refl _⟩

/-- A descriptor was read from its type, its length and a value that it restores. -/
theorem of_reader {input left : List UInt8} {descriptor : Descriptor}
    (read : reader input = .ok (descriptor, left)) :
    ∃ value, descriptor.Restores descriptor.kind value ∧
      input = bytes16 descriptor.kind ++ bytes16 (UInt16.ofNat value.length) ++ value ++ left := by
  simp only [reader, Reader.bind_eq_ok_iff, Reader.word16_eq_ok_iff,
    Reader.within_eq_ok_iff] at read
  obtain ⟨kind, _, rfl, size, _, rfl, value, rfl, sized, found⟩ := read
  have restores := Restores.of_valueReader found
  cases restores.kind_eq
  refine ⟨value, restores, ?_⟩
  rw [sized, UInt16.ofNat_toNat]
  simp only [List.append_assoc]

/-- Descriptors that were read are as many as were asked for, and are written again with other
types for their titles at most. -/
theorem of_replicate {count : Nat} {input : List UInt8} {descriptors : List Descriptor}
    (short : input.length ≤ maxMessageSize)
    (read : Reader.replicate reader count input = .ok (descriptors, [])) :
    descriptors.length = count ∧
      (∀ descriptor ∈ descriptors, descriptor.IsTyped ∧ ¬ descriptor.IsAmbiguous) ∧
      ∃ written, Layout.contents (descriptors.flatMap layout) = .ok written ∧
        DifferAt (titleKinds descriptors) written input := by
  induction count generalizing input descriptors with
  | zero =>
      obtain ⟨rfl, rfl⟩ := Reader.replicate_zero_eq_ok_iff.mp read
      refine ⟨rfl, fun descriptor member => ?_, [], rfl, .refl []⟩
      cases member
  | succ count ih =>
      obtain ⟨descriptor, middle, rest, first, others, rfl⟩ :=
        Reader.replicate_succ_eq_ok_iff.mp read
      obtain ⟨value, restores, rfl⟩ := of_reader first
      obtain ⟨again, valued, differ⟩ := restores.spells
      have same : again.length = value.length := differ.1
      simp only [List.length_append, length_bytes16] at short
      obtain ⟨counted, clear, written, spelled, later⟩ := ih (by omega) others
      refine ⟨congrArg (· + 1) counted, ?_, ?_⟩
      · intro other member
        rcases List.mem_cons.mp member with rfl | among
        · exact ⟨restores.typed, restores.clear⟩
        · exact clear other among
      · have alone := contents_layout_eq_ok_iff.mpr ⟨again, valued, by omega, rfl⟩
        refine ⟨_, Layout.contents_append alone spelled, ?_⟩
        have joined := (differ.append later).after
          (bytes16 descriptor.kind ++ bytes16 (UInt16.ofNat value.length))
        rw [same, ← restores.size_eq] at joined
        simpa [titleKinds, same, restores.size_eq] using joined

end Descriptor

namespace DeviceIdentifiers

/-- Where the types of titles stand in the body of a response. The length of all descriptors and
their number come before them. -/
def titleKinds (identifiers : DeviceIdentifiers) : List Nat :=
  (Descriptor.titleKinds identifiers.descriptors).map (5 + ·)

/-- Identifiers that were read from a body are written as it, with other types for their titles
at most. -/
theorem of_responseReader {body : List UInt8} {identifiers : DeviceIdentifiers}
    (short : body.length ≤ maxMessageSize)
    (read : responseReader body = .ok (identifiers, [])) :
    (∀ descriptor ∈ identifiers.descriptors, descriptor.IsTyped ∧ ¬ descriptor.IsAmbiguous) ∧
      ∃ written, identifiers.responseLayout.contents = .ok written ∧
        DifferAt identifiers.titleKinds written body := by
  simp only [responseReader, reader, Reader.bind_eq_ok_iff, Reader.word32_eq_ok_iff,
    Reader.within_eq_ok_iff, Reader.byte_eq_ok_iff, Reader.mapped_eq_ok_iff] at read
  obtain ⟨size, _, rfl, _, rfl, sized, count, items, rfl, descriptors, listed, rfl⟩ := read
  simp only [List.append_nil, List.length_append, List.length_cons, length_bytes32] at short sized
  obtain ⟨counted, clear, written, spelled, differ⟩ :=
    Descriptor.of_replicate (by omega) listed
  have number : UInt8.ofNat descriptors.length = count := by rw [counted, UInt8.ofNat_toNat]
  refine ⟨clear, _, contents_responseLayout_eq_ok_iff.mpr ⟨count :: written, ?_, ?_, rfl⟩, ?_⟩
  · refine contents_layout_eq_ok_iff.mpr ⟨?_, written, spelled, by rw [number]⟩
    exact counted ▸ count.toNat_lt
  · rw [List.length_cons, differ.1]
    omega
  · have total : UInt32.ofNat ((count :: written).length - 1) = size := by
      rw [List.length_cons, Nat.add_sub_cancel, differ.1, Nat.succ.inj sized, UInt32.ofNat_toNat]
    rw [total]
    simpa [titleKinds] using differ.after (bytes32 size ++ [count])

end DeviceIdentifiers

/-- Identifiers that were decoded from the body of a response are written into one again. It has
the length of the first, differs from it at the types of titles at most, and is decoded as the
same identifiers. -/
theorem identifiers_survive_rewriting {what : String} {body : List UInt8}
    {identifiers : DeviceIdentifiers} (short : body.length ≤ maxMessageSize)
    (decoded : decode what DeviceIdentifiers.responseReader body = .ok identifiers) :
    ∃ written, identifiers.responseLayout.toMessage = .ok written ∧
      written.length = body.length ∧ DifferAt identifiers.titleKinds written body ∧
      decode what DeviceIdentifiers.responseReader written = .ok identifiers := by
  obtain ⟨clear, written, spelled, differ⟩ :=
    DeviceIdentifiers.of_responseReader short (Reader.decode_eq_ok_iff.mp decoded)
  have same := identifiers.onWire_of_unambiguous
    fun descriptor member => (clear descriptor member).2
  have encoded := Layout.toMessage_eq_ok_iff.mpr ⟨spelled, differ.1 ▸ short⟩
  have again := (DeviceIdentifiers.response_roundTrips
    (fun descriptor member => (clear descriptor member).1) spelled).decode_of_written encoded what
  exact ⟨written, encoded, differ.1, differ, same ▸ again⟩

namespace OddTitles

/-- A body with the given types of its two titles. Between them stands the number of a vendor,
and after them vendor data that only look like a title. -/
def body (ascii accented : UInt8) : List UInt8 :=
  [30, 0, 0, 0, 4, 0xff, 0xff, 4, 0, ascii, 1, 0x61, 9, 0, 0, 2, 0, 0xf4, 0x1a,
    0xff, 0xff, 5, 0, accented, 2, 0xc3, 0xa9, 0, 0xff, 0xff, 3, 0, 3, 1, 0x61]

/-- What is read from the body. -/
def identifiers : DeviceIdentifiers where
  descriptors :=
    [.vendor (some (.text "a")) [9], .pciVendor 0x1af4, .vendor (some (.text "é")) [0],
      .vendor none [3, 1, 0x61]]

end OddTitles

open OddTitles in
/-- ASCII text under the type of other text, and the other way round: both types are put right,
and nothing else changes. -/
theorem odd_titles_survive_rewriting :
    (body 2 1).length ≤ maxMessageSize ∧
      decode "QueryDeviceIdentifiers" DeviceIdentifiers.responseReader (body 2 1) =
        .ok identifiers ∧
      identifiers.responseLayout.toMessage = .ok (body 1 2) ∧
      identifiers.titleKinds = [9, 23] ∧ DifferAt [9, 23] (body 1 2) (body 2 1) ∧
      decode "QueryDeviceIdentifiers" DeviceIdentifiers.responseReader (body 1 2) =
        .ok identifiers := by
  have short : (body 2 1).length ≤ maxMessageSize := by decide
  have decoded : decode "QueryDeviceIdentifiers" DeviceIdentifiers.responseReader (body 2 1) =
      .ok identifiers := by decide +kernel
  have encoded : identifiers.responseLayout.toMessage = .ok (body 1 2) := by decide +kernel
  have places : identifiers.titleKinds = [9, 23] := by decide +kernel
  obtain ⟨written, same, -, differ, again⟩ := identifiers_survive_rewriting short decoded
  cases encoded.symm.trans same
  exact ⟨short, decoded, encoded, places, places ▸ differ, again⟩

end FirmwareUpdate
