import Mathlib.Data.List.Forall2
import FirmwareUpdate.Inventory.Descriptor
import FirmwareUpdate.Proofs.Inventory.Labels

/-!
# Device identifiers are read back

A descriptor comes after its type and its length, so that the value of each is delimited. All
values are read back but one: vendor data without a title are written as they are, and a reader
that finds a title at their beginning takes it for one. Apart from these (`IsAmbiguous`), a list
of descriptors comes back as it was.
-/

namespace FirmwareUpdate

open Wire

/-- The data begin like a title: a type, a length that fits, and contents that the type allows. -/
def Label.Leads (data : List UInt8) : Prop :=
  ∃ kind size contents rest, data = kind :: size :: (contents ++ rest) ∧
    contents.length = UInt8.toNat size ∧ (ofKind? kind contents).isSome = true

/-- Data begin like a title exactly if a title is read from them. -/
theorem Label.leads_iff {data : List UInt8} :
    Leads data ↔ ∃ title rest, adjacentReader data = .ok (title, rest) := by
  constructor
  · rintro ⟨kind, size, contents, rest, rfl, sized, allowed⟩
    obtain ⟨title, made⟩ := Option.isSome_iff_exists.mp allowed
    obtain rfl := bytes_of_ofKind? made
    exact ⟨title, rest, adjacentReader_eq_ok_iff.mpr ⟨kind, size, rfl, sized, made⟩⟩
  · rintro ⟨title, rest, read⟩
    obtain ⟨kind, size, rfl, sized, made⟩ := adjacentReader_eq_ok_iff.mp read
    exact ⟨kind, size, title.bytes, rest, rfl, sized, Option.isSome_of_mem made⟩

instance (data : List UInt8) : Decidable (Label.Leads data) :=
  decidable_of_iff ((Label.adjacentReader data).isOk = true) <| by
    rw [Label.leads_iff]
    cases Label.adjacentReader data with
    | error failure => simp [Except.isOk, Except.toBool]
    | ok found => simpa [Except.isOk, Except.toBool] using ⟨found.1, found.2, rfl⟩

namespace Descriptor

/-- Data of another type are not under a type that has a meaning. -/
def IsTyped : Descriptor → Prop
  | other kind _ => kind ≠ 0x0000 ∧ kind ≠ 0x0001 ∧ kind ≠ 0x0002 ∧ kind ≠ 0xffff
  | _ => True

/-- Data without a title that begin like one. -/
def IsAmbiguous : Descriptor → Prop
  | vendor none data => Label.Leads data
  | _ => False

instance : DecidablePred IsTyped
  | other _ _ => inferInstanceAs (Decidable (_ ∧ _))
  | pciVendor _ | enterprise _ | uuid _ | vendor _ _ => inferInstanceAs (Decidable True)

instance : DecidablePred IsAmbiguous
  | vendor none data => inferInstanceAs (Decidable (Label.Leads data))
  | vendor (some _) _ | pciVendor _ | enterprise _ | uuid _ | other _ _ =>
    inferInstanceAs (Decidable False)

/-- The descriptor as it comes back from the wire. -/
def onWire : Descriptor → Descriptor
  | vendor none data =>
    match Label.adjacentReader data with
    | .ok (title, rest) => vendor (some title) rest
    | .error _ => vendor none data
  | descriptor => descriptor

/-- A descriptor comes back as it was unless it is ambiguous. -/
theorem onWire_of_unambiguous {descriptor : Descriptor} (clear : ¬ descriptor.IsAmbiguous) :
    descriptor.onWire = descriptor := by
  cases descriptor with
  | vendor title data =>
      cases title with
      | some title => rfl
      | none =>
          simp only [onWire]
          split
          · rename_i title rest read
            exact absurd (Label.leads_iff.mpr ⟨title, rest, read⟩) clear
          · rfl
  | _ => rfl

theorem agrees_self (descriptor : Descriptor) : descriptor.agrees descriptor = true := by
  cases descriptor <;> simp [agrees]

/-- An ambiguous descriptor comes back with less data than it had. -/
theorem agrees_onWire_iff {descriptor : Descriptor} :
    descriptor.onWire.agrees descriptor = true ↔ ¬ descriptor.IsAmbiguous := by
  constructor
  · intro same ambiguous
    match descriptor, ambiguous with
    | vendor none data, ambiguous =>
        obtain ⟨title, rest, read⟩ := Label.leads_iff.mp ambiguous
        obtain ⟨kind, size, whole, -⟩ := Label.adjacentReader_eq_ok_iff.mp read
        simp only [onWire, read, agrees, beq_iff_eq] at same
        have shorter := congrArg List.length (same.trans whole)
        simp only [List.length_cons, List.length_append] at shorter
        omega
  · intro clear
    rw [onWire_of_unambiguous clear]
    exact agrees_self descriptor

/-- Data of another type are all that is read. -/
theorem valueReader_of_untyped {kind : UInt16} {data : List UInt8}
    (typed : (other kind data).IsTyped) : valueReader kind = other kind <$> Reader.rest := by
  obtain ⟨pci, enterprise, uuid, vendor⟩ := typed
  rw [valueReader, if_neg pci, if_neg enterprise, if_neg uuid, if_neg vendor]

/-- The value of a descriptor is read back. -/
theorem valueReader_of_written {descriptor : Descriptor} {value : List UInt8}
    (typed : descriptor.IsTyped) (spelled : descriptor.valueLayout.contents = .ok value) :
    valueReader descriptor.kind value = .ok (descriptor.onWire, []) := by
  cases descriptor with
  | pciVendor id =>
      cases (Layout.contents_word16 id).symm.trans spelled
      exact Reader.mapped_eq_ok_iff.mpr
        ⟨id, Reader.word16_eq_ok_iff.mpr (List.append_nil _).symm, rfl⟩
  | enterprise id =>
      cases (Layout.contents_word32 id).symm.trans spelled
      exact Reader.mapped_eq_ok_iff.mpr
        ⟨id, Reader.word32_eq_ok_iff.mpr (List.append_nil _).symm, rfl⟩
  | uuid id =>
      cases (Layout.contents_bytes id.bytes).symm.trans spelled
      have known : Uuid.ofBytes? id.bytes = some id := by
        rw [Uuid.ofBytes?, dif_pos id.size_eq]
      refine Reader.bind_eq_ok_iff.mpr ⟨id.bytes, [], ?_, ?_⟩
      · exact Reader.take_eq_ok_iff.mpr ⟨(List.append_nil _).symm, id.size_eq⟩
      · exact Reader.mapped_eq_ok_iff.mpr ⟨id, Reader.require_eq_ok_iff.mpr ⟨known, rfl⟩, rfl⟩
  | vendor title data =>
      show vendorReader value = _
      cases title with
      | none =>
          cases (Layout.contents_bytes data).symm.trans spelled
          simp only [vendorReader, onWire]
          cases Label.adjacentReader value <;> rfl
      | some title =>
          obtain ⟨front, back, titled, plain, rfl⟩ := Layout.contents_append_eq_ok_iff.mp spelled
          cases (Layout.contents_bytes data).symm.trans plain
          have short : title.IsShort := by
            refine Label.isShort_of_sizeField titled fun field member => ?_
            simp only [Label.layout, List.mem_append, member, true_or, or_true]
          obtain ⟨written, same, -, read⟩ := title.roundTrips short
          cases titled.symm.trans same
          simp only [vendorReader, read data, onWire]
  | other kind data =>
      cases (Layout.contents_bytes data).symm.trans spelled
      rw [Descriptor.kind, valueReader_of_untyped typed]
      rfl

/-- A descriptor has been written as its type, its length and its value. -/
theorem contents_layout_eq_ok_iff {descriptor : Descriptor} {written : List UInt8} :
    descriptor.layout.contents = .ok written ↔
      ∃ value, descriptor.valueLayout.contents = .ok value ∧ value.length ≤ maxMessageSize ∧
        written = bytes16 descriptor.kind ++ bytes16 (UInt16.ofNat value.length) ++ value :=
  Layout.contents_nested_eq_ok_iff fun value =>
    Layout.contents_append (Layout.contents_word16 descriptor.kind)
      (Layout.contents_word16 (UInt16.ofNat value.length))

/-- A length that a message has room for is read back. -/
theorem toNat_length {value : List UInt8} (short : value.length ≤ maxMessageSize) :
    (UInt16.ofNat value.length).toNat = value.length :=
  UInt16.toNat_ofNat_of_lt' (Nat.lt_of_le_of_lt short (by decide))

/-- A descriptor that has been written is read back. -/
theorem roundTrips {descriptor : Descriptor} {written : List UInt8} (typed : descriptor.IsTyped)
    (spelled : descriptor.layout.contents = .ok written) :
    RoundTrips descriptor.layout reader descriptor.onWire written.length := by
  refine ⟨written, spelled, rfl, ?_⟩
  obtain ⟨value, valued, short, rfl⟩ := contents_layout_eq_ok_iff.mp spelled
  have delimited := Reader.reads_within (valueReader_of_written typed valued)
  rw [← toNat_length short] at delimited
  rw [List.append_assoc]
  exact (Reader.reads_word16 _).bind ((Reader.reads_word16 _).bind delimited)

/-- Descriptors that have been written are read back one after the other. -/
theorem list_roundTrips {descriptors : List Descriptor} {written : List UInt8}
    (typed : ∀ descriptor ∈ descriptors, descriptor.IsTyped)
    (spelled : Layout.contents (descriptors.flatMap layout) = .ok written) :
    RoundTrips (descriptors.flatMap layout) (Reader.replicate reader descriptors.length)
      (descriptors.map onWire) written.length := by
  induction descriptors generalizing written with
  | nil =>
      cases spelled
      exact ⟨[], rfl, rfl, Reader.reads_pure []⟩
  | cons descriptor rest ih =>
      obtain ⟨front, back, first, others, rfl⟩ := Layout.contents_append_eq_ok_iff.mp spelled
      have later := ih (fun other member => typed other (List.mem_cons_of_mem _ member)) others
      exact ((roundTrips (typed descriptor List.mem_cons_self) first).bind
        (later.last _)).resize List.length_append.symm

end Descriptor

namespace DeviceIdentifiers

/-- The identifiers as they come back from the wire. -/
def onWire (identifiers : DeviceIdentifiers) : DeviceIdentifiers :=
  { descriptors := identifiers.descriptors.map Descriptor.onWire }

/-- Identifiers come back as they were if none of them is ambiguous. -/
theorem onWire_of_unambiguous (identifiers : DeviceIdentifiers)
    (clear : ∀ descriptor ∈ identifiers.descriptors, ¬ descriptor.IsAmbiguous) :
    identifiers.onWire = identifiers := by
  have each : identifiers.descriptors.map Descriptor.onWire = identifiers.descriptors := by
    refine (List.map_congr_left fun descriptor member => ?_).trans (List.map_id _)
    exact Descriptor.onWire_of_unambiguous (clear descriptor member)
  simp only [onWire, each]

/-- Identifiers have been written as their number and one descriptor after the other. -/
theorem contents_layout_eq_ok_iff {identifiers : DeviceIdentifiers} {written : List UInt8} :
    identifiers.layout.contents = .ok written ↔
      identifiers.descriptors.length < 256 ∧ ∃ items,
        Layout.contents (identifiers.descriptors.flatMap Descriptor.layout) = .ok items ∧
          written = UInt8.ofNat identifiers.descriptors.length :: items := by
  simp only [layout, Layout.contents_append_eq_ok_iff]
  by_cases counted : identifiers.descriptors.length < 256
  · simp only [counted, if_true, true_and]
    constructor
    · rintro ⟨_, items, ⟨⟩, spelled, rfl⟩
      exact ⟨items, spelled, rfl⟩
    · rintro ⟨items, spelled, rfl⟩
      exact ⟨_, items, rfl, spelled, rfl⟩
  · simp only [counted, if_false, false_and, iff_false]
    rintro ⟨_, items, refused, -⟩
    cases refused

/-- The body of a response has been written as the length of all descriptors, and the
identifiers. -/
theorem contents_responseLayout_eq_ok_iff {identifiers : DeviceIdentifiers}
    {written : List UInt8} :
    identifiers.responseLayout.contents = .ok written ↔
      ∃ body, identifiers.layout.contents = .ok body ∧ body.length ≤ maxMessageSize ∧
        written = bytes32 (UInt32.ofNat (body.length - 1)) ++ body :=
  Layout.contents_nested_eq_ok_iff fun body =>
    Layout.contents_word32 (UInt32.ofNat (body.length - 1))

/-- Identifiers that have been written are read back. -/
theorem roundTrips {identifiers : DeviceIdentifiers} {written : List UInt8}
    (typed : ∀ descriptor ∈ identifiers.descriptors, descriptor.IsTyped)
    (spelled : identifiers.layout.contents = .ok written) :
    reader written = .ok (identifiers.onWire, []) := by
  obtain ⟨counted, items, listed, rfl⟩ := contents_layout_eq_ok_iff.mp spelled
  obtain ⟨again, same, -, read⟩ := Descriptor.list_roundTrips typed listed
  cases listed.symm.trans same
  have count : (UInt8.ofNat identifiers.descriptors.length).toNat =
      identifiers.descriptors.length := UInt8.toNat_ofNat_of_lt' counted
  have all := read.map DeviceIdentifiers.mk []
  rw [← count, List.append_nil] at all
  exact Reader.bind_eq_ok_iff.mpr ⟨_, items, Reader.byte_eq_ok_iff.mpr rfl, all⟩

/-- The body of a response that has been written is read back. -/
theorem response_roundTrips {identifiers : DeviceIdentifiers} {written : List UInt8}
    (typed : ∀ descriptor ∈ identifiers.descriptors, descriptor.IsTyped)
    (spelled : identifiers.responseLayout.contents = .ok written) :
    RoundTrips identifiers.responseLayout responseReader identifiers.onWire written.length := by
  refine ⟨written, spelled, rfl, ?_⟩
  obtain ⟨body, bodySpelled, short, rfl⟩ := contents_responseLayout_eq_ok_iff.mp spelled
  obtain ⟨-, items, -, rfl⟩ := contents_layout_eq_ok_iff.mp bodySpelled
  have small : items.length < 2 ^ 32 :=
    Nat.lt_of_lt_of_le (Nat.lt_succ_self _) (Nat.le_trans short (by decide))
  have size : (UInt32.ofNat items.length).toNat + 1 = items.length + 1 :=
    congrArg (· + 1) (UInt32.toNat_ofNat_of_lt' small)
  have delimited := Reader.reads_within (roundTrips typed bodySpelled)
  rw [List.length_cons, ← size] at delimited
  exact (Reader.reads_word32 _).bind delimited

/-- The descriptors say the same, one by one; titles do not count. -/
def Agree (first second : DeviceIdentifiers) : Prop :=
  List.Forall₂ (fun one other => one.agrees other = true) first.descriptors second.descriptors

end DeviceIdentifiers

/-- The identifiers of a device that could be written into a response are decoded from it. They
are what they were, and say the same at all, exactly if no vendor data without a title begin like
a title. -/
theorem identifiers_reach_the_agent {what : String} {identifiers : DeviceIdentifiers}
    {written : List UInt8} (typed : ∀ descriptor ∈ identifiers.descriptors, descriptor.IsTyped)
    (encoded : identifiers.responseLayout.toMessage = .ok written) :
    ∃ received, decode what DeviceIdentifiers.responseReader written = .ok received ∧
      (received = identifiers ↔
        ∀ descriptor ∈ identifiers.descriptors, ¬ descriptor.IsAmbiguous) ∧
      (received.Agree identifiers ↔
        ∀ descriptor ∈ identifiers.descriptors, ¬ descriptor.IsAmbiguous) := by
  have spelled := (Layout.toMessage_eq_ok_iff.mp encoded).1
  have read := (DeviceIdentifiers.response_roundTrips typed spelled).decode_of_written encoded what
  have agree : identifiers.onWire.Agree identifiers ↔
      ∀ descriptor ∈ identifiers.descriptors, ¬ descriptor.IsAmbiguous := by
    simp only [DeviceIdentifiers.Agree, DeviceIdentifiers.onWire, List.forall₂_map_left_iff,
      List.forall₂_same, Descriptor.agrees_onWire_iff]
  refine ⟨identifiers.onWire, read, ?_, agree⟩
  constructor
  · intro same
    refine agree.mp ?_
    rw [same]
    exact List.forall₂_same.mpr fun descriptor _ => descriptor.agrees_self
  · exact identifiers.onWire_of_unambiguous

namespace MixedIdentifiers

/-- One descriptor of each kind; vendor data with a title, and without one. -/
def sent : DeviceIdentifiers where
  descriptors :=
    [.pciVendor 0x1af4, .enterprise 412, .uuid ⟨List.replicate 16 0x5a, rfl⟩,
      .vendor (some (.text "sku")) [9, 9], .vendor none [3, 1, 0x61], .vendor none [1, 9],
      .vendor none [1, 1, 0xff], .vendor none [], .other 0x0105 [0, 0]]

/-- The body of the response that says so. -/
def written : List UInt8 :=
  [0x4b, 0, 0, 0, 9, 0, 0, 2, 0, 0xf4, 0x1a, 1, 0, 4, 0, 0x9c, 1, 0, 0, 2, 0, 16, 0] ++
    List.replicate 16 0x5a ++
    [0xff, 0xff, 7, 0, 1, 3, 0x73, 0x6b, 0x75, 9, 9, 0xff, 0xff, 3, 0, 3, 1, 0x61,
      0xff, 0xff, 2, 0, 1, 9, 0xff, 0xff, 3, 0, 1, 1, 0xff, 0xff, 0xff, 0, 0, 5, 1, 2, 0, 0, 0]

end MixedIdentifiers

open MixedIdentifiers in
/-- Vendor data of an unknown title type, with too short a title, with a title that is not UTF-8
and without anything at all are no titles, and come back next to all other descriptors. -/
theorem mixed_identifiers_reach_the_agent :
    (∀ descriptor ∈ sent.descriptors, descriptor.IsTyped) ∧
      sent.responseLayout.toMessage = .ok written ∧
      decode "QueryDeviceIdentifiers" DeviceIdentifiers.responseReader written = .ok sent := by
  have typed : ∀ descriptor ∈ sent.descriptors, descriptor.IsTyped := by decide
  have encoded : sent.responseLayout.toMessage = .ok written := by decide +kernel
  have clear : ∀ descriptor ∈ sent.descriptors, ¬ descriptor.IsAmbiguous := by decide +kernel
  obtain ⟨received, read, same, -⟩ := identifiers_reach_the_agent typed encoded
  exact ⟨typed, encoded, same.mpr clear ▸ read⟩

/-- Vendor data that begin with two zeros are taken for an empty title. -/
theorem untitled_data_read_as_title :
    let sent : DeviceIdentifiers := ⟨[.vendor none [0, 0, 0x11]]⟩
    let received : DeviceIdentifiers := ⟨[.vendor (some (.raw [])) [0x11]]⟩
    (∀ descriptor ∈ sent.descriptors, descriptor.IsTyped) ∧
      ∃ written, sent.responseLayout.toMessage = .ok written ∧
        decode "QueryDeviceIdentifiers" DeviceIdentifiers.responseReader written = .ok received ∧
        ¬ received.Agree sent := by
  refine ⟨by decide, [7, 0, 0, 0, 1, 0xff, 0xff, 3, 0, 0, 0, 0x11], by decide, by decide, ?_⟩
  rintro (_ | ⟨same, -⟩)
  cases same

end FirmwareUpdate
