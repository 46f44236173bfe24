import FirmwareUpdate.Component.Basic
import FirmwareUpdate.Proofs.Inventory.Dates
import FirmwareUpdate.Proofs.Inventory.Labels

/-!
# The firmware parameters are read back

A component announces the lengths of its labels, writes its dates and options, and gives the
contents of the labels last; the parameters do the same for the labels of the image sets and
then list the components. Whatever has been written is read back, component by component. Two
things are lost on the way: a classification under a number that has a name comes back under the
name, and a date without a field of its own comes back as none.
-/

namespace FirmwareUpdate

open Wire

/-- A set of options is read back. -/
theorem OptionSet.roundTrips {α : Type} [WordOption α] (options : OptionSet α) :
    RoundTrips options.layout reader options 4 := by
  obtain ⟨written, spelled, sized, read⟩ := RoundTrips.word32 options.word
  have trip := read.map (OptionSet.ofWord (α := α))
  rw [ofWord_word] at trip
  exact ⟨written, spelled, sized, trip⟩

/-! ## Components -/

namespace Version

/-- The version as it comes back from the wire. -/
def onWire (version : Version) : Version := { version with date := Date.onWire version.date }

/-- All fields of a version but the contents of its label, as they come back from the wire. -/
def head (version : Version) : VersionHead where
  stamp := version.stamp
  kind := version.label.kind
  size := UInt8.ofNat version.label.bytes.length
  date := Date.onWire version.date

/-- The head of a version comes back as its head. -/
theorem head_roundTrips (version : Version) (short : version.label.IsShort) :
    RoundTrips version.headLayout VersionHead.reader version.head 14 := by
  simp only [headLayout, List.append_assoc]
  exact RoundTrips.resize ((RoundTrips.word32 _).bind ((RoundTrips.byte _).bind
    ((version.label.sizeField_roundTrips short).bind
      ((Date.roundTrips version.date).last _)))) rfl

/-- The text of a version completes its head. -/
theorem complete_roundTrips (version : Version) (short : version.label.IsShort) :
    RoundTrips (Layout.bytes version.label.bytes) version.head.complete version.onWire
      version.label.bytes.length :=
  (version.label.contents_roundTrips short).last _

end Version

namespace Component

/-- The component as it comes back from the wire. -/
def onWire (component : Component) : Component :=
  { component with
    key := component.key.onWire
    active := component.active.onWire
    pending := component.pending.onWire }

/-- How long a component is on the wire. -/
def writtenSize (component : Component) : Nat :=
  39 + component.active.label.bytes.length + component.pending.label.bytes.length

/-- How long components are on the wire. -/
def listSize (components : List Component) : Nat :=
  components.foldr (fun component size => component.writtenSize + size) 0

/-- A component comes back as it looks on the wire. -/
theorem roundTrips (component : Component) (active : component.active.label.IsShort)
    (pending : component.pending.label.IsShort) :
    RoundTrips component.layout reader component.onWire component.writtenSize := by
  simp only [layout, List.append_assoc]
  exact RoundTrips.resize (component.key.roundTrips.bind
    ((component.active.head_roundTrips active).bind
      ((component.pending.head_roundTrips pending).bind (component.methods.roundTrips.bind
        (component.capabilities.roundTrips.bind
          ((component.active.complete_roundTrips active).bind
            ((component.pending.complete_roundTrips pending).last _)))))))
    (by rw [writtenSize]; omega)

/-- A component that has been written has short labels. -/
theorem isShort_of_contents {component : Component} {layout : Layout} {written : List UInt8}
    (spelled : layout.contents = .ok written)
    (member : ∀ field ∈ component.layout, field ∈ layout) :
    component.active.label.IsShort ∧ component.pending.label.IsShort := by
  constructor
  · refine Label.isShort_of_sizeField spelled fun field among => member field ?_
    simp only [Component.layout, Version.headLayout, List.mem_append, among, true_or, or_true]
  · refine Label.isShort_of_sizeField spelled fun field among => member field ?_
    simp only [Component.layout, Version.headLayout, List.mem_append, among, true_or, or_true]

/-- Components are read back one after the other. -/
theorem list_roundTrips {components : List Component}
    (short : ∀ component ∈ components,
      component.active.label.IsShort ∧ component.pending.label.IsShort) :
    RoundTrips (components.flatMap layout) (Reader.replicate reader components.length)
      (components.map onWire) (listSize components) := by
  induction components with
  | nil => exact ⟨[], rfl, rfl, Reader.reads_pure []⟩
  | cons component rest ih =>
      obtain ⟨active, pending⟩ := short component List.mem_cons_self
      have later := ih fun other member => short other (List.mem_cons_of_mem _ member)
      exact (component.roundTrips active pending).bind (later.last _)

/-- The classification has no other name, and the dates have fields of their own. -/
structure IsCanonical (component : Component) : Prop where
  classification : ∀ value, component.key.classification = .number value →
    value ≠ 0x0000 ∧ value ≠ 0x0001 ∧ value ≠ 0x000a
  active : ∀ date ∈ component.active.date, date.HasField
  pending : ∀ date ∈ component.pending.date, date.HasField

end Component

/-- A classification comes back as it was exactly when it has no other name. -/
theorem Classification.onWire_eq_self {classification : Classification} :
    classification.onWire = classification ↔ ∀ value, classification = .number value →
      value ≠ 0x0000 ∧ value ≠ 0x0001 ∧ value ≠ 0x000a := by
  cases classification with
  | unknown => exact ⟨fun _ => nofun, fun _ => rfl⟩
  | other => exact ⟨fun _ => nofun, fun _ => rfl⟩
  | firmware => exact ⟨fun _ => nofun, fun _ => rfl⟩
  | number value =>
      simp only [onWire, word, ofWord, Classification.number.injEq, forall_eq']
      by_cases unknown : value = 0x0000
      · simp [unknown]
      · by_cases other : value = 0x0001
        · simp [other]
        · by_cases firmware : value = 0x000a
          · simp [firmware]
          · simp [unknown, other, firmware]

/-- A component comes back as it was exactly when it is canonical. -/
theorem Component.onWire_eq_self {component : Component} :
    component.onWire = component ↔ component.IsCanonical := by
  have parts : component.onWire = component ↔
      component.key.classification.onWire = component.key.classification ∧
        Date.onWire component.active.date = component.active.date ∧
          Date.onWire component.pending.date = component.pending.date := by
    obtain ⟨⟨classification, identifier, index⟩, ⟨stamp, label, date⟩, pending, methods,
      capabilities⟩ := component
    obtain ⟨stamp', label', date'⟩ := pending
    simp [onWire, ComponentKey.onWire, Version.onWire]
  rw [parts, Classification.onWire_eq_self, Date.onWire_eq_self, Date.onWire_eq_self]
  exact ⟨fun ⟨classification, active, pending⟩ => ⟨classification, active, pending⟩,
    fun canonical => ⟨canonical.classification, canonical.active, canonical.pending⟩⟩

/-! ## Parameters -/

namespace FirmwareParameters

/-- The parameters as they come back from the wire. -/
def onWire (parameters : FirmwareParameters) : FirmwareParameters :=
  { parameters with components := parameters.components.map Component.onWire }

/-- How long the parameters are on the wire. -/
def writtenSize (parameters : FirmwareParameters) : Nat :=
  10 + parameters.active.bytes.length + parameters.pending.bytes.length +
    Component.listSize parameters.components

/-- Parameters that can be counted and whose labels are short are read back. -/
theorem roundTrips_of_short {parameters : FirmwareParameters}
    (counted : parameters.components.length < 65536) (active : parameters.active.IsShort)
    (pending : parameters.pending.IsShort)
    (components : ∀ component ∈ parameters.components,
      component.active.label.IsShort ∧ component.pending.label.IsShort) :
    RoundTrips parameters.layout reader parameters.onWire parameters.writtenSize := by
  have count : (UInt16.ofNat parameters.components.length).toNat =
      parameters.components.length := UInt16.toNat_ofNat_of_lt' counted
  have listed := Component.list_roundTrips components
  rw [← count] at listed
  simp only [layout, if_pos counted, List.append_assoc]
  exact RoundTrips.resize (parameters.capabilities.roundTrips.bind ((RoundTrips.word16 _).bind
    ((RoundTrips.byte _).bind ((parameters.active.sizeField_roundTrips active).bind
      ((RoundTrips.byte _).bind ((parameters.pending.sizeField_roundTrips pending).bind
        ((parameters.active.contents_roundTrips active).bind
          ((parameters.pending.contents_roundTrips pending).bind (listed.last _)))))))))
    (by rw [writtenSize]; omega)

/-- Parameters that have been written can be counted, and their labels are short. -/
theorem isShort_of_contents {parameters : FirmwareParameters} {written : List UInt8}
    (spelled : parameters.layout.contents = .ok written) :
    parameters.components.length < 65536 ∧ parameters.active.IsShort ∧
      parameters.pending.IsShort ∧ ∀ component ∈ parameters.components,
        component.active.label.IsShort ∧ component.pending.label.IsShort := by
  by_cases counted : parameters.components.length < 65536
  · refine ⟨counted, ?_, ?_, fun component member => ?_⟩
    · refine Label.isShort_of_sizeField spelled fun field among => ?_
      simp only [layout, if_pos counted, List.mem_append, among, true_or, or_true]
    · refine Label.isShort_of_sizeField spelled fun field among => ?_
      simp only [layout, if_pos counted, List.mem_append, among, true_or, or_true]
    · refine Component.isShort_of_contents spelled fun field among => ?_
      simp only [layout, if_pos counted, List.mem_append]
      exact .inr (List.mem_flatMap.mpr ⟨component, member, among⟩)
  · rw [layout, if_neg counted] at spelled
    cases spelled

/-- Parameters that have been written are read back. -/
theorem roundTrips {parameters : FirmwareParameters} {written : List UInt8}
    (spelled : parameters.layout.contents = .ok written) :
    RoundTrips parameters.layout reader parameters.onWire parameters.writtenSize := by
  obtain ⟨counted, active, pending, components⟩ := isShort_of_contents spelled
  exact roundTrips_of_short counted active pending components

/-- Every component is canonical. -/
def IsCanonical (parameters : FirmwareParameters) : Prop :=
  ∀ component ∈ parameters.components, component.IsCanonical

/-- Parameters come back as they were exactly when they are canonical. -/
theorem onWire_eq_self {parameters : FirmwareParameters} :
    parameters.onWire = parameters ↔ parameters.IsCanonical := by
  have list : parameters.onWire = parameters ↔
      parameters.components.map Component.onWire = parameters.components := by
    obtain ⟨capabilities, components, active, pending⟩ := parameters
    simp [onWire]
  have each := List.map_inj_left (l := parameters.components) (f := Component.onWire) (g := id)
  rw [List.map_id] at each
  rw [list, each]
  exact forall₂_congr fun component _ => Component.onWire_eq_self

end FirmwareParameters

/-- Firmware parameters that have been written, into whatever room, are read back as they were
and with nothing left over, exactly if every classification is under its own name and every date
has a year from 0 to 9999. -/
theorem parameters_survive_the_wire (parameters : FirmwareParameters) {room : Nat}
    {written : List UInt8} (encoded : parameters.layout.encode room = .ok written) :
    FirmwareParameters.reader written = .ok (parameters, []) ↔ parameters.IsCanonical := by
  obtain ⟨spelled, -⟩ := Layout.encode_eq_ok_iff.mp encoded
  obtain ⟨contents, same, -, read⟩ := FirmwareParameters.roundTrips spelled
  cases spelled.symm.trans same
  have whole := read []
  rw [List.append_nil] at whole
  rw [whole, ← FirmwareParameters.onWire_eq_self]
  simp only [Except.ok.injEq, Prod.mk.injEq, and_true]

namespace ReportedFirmware

/-- Two components: one with text, a date and options, one with bytes and a classification that
has no name. -/
def parameters : FirmwareParameters where
  capabilities := OptionSet.ofWord 0x101
  active := .text "set-1"
  components :=
    [{ key := { classification := .firmware, identifier := 0x1234 }
       active :=
        { stamp := 7
          label := .text "1.0"
          date := some
            { year := 2024, month := 2, day := 29, year_known := by decide, day_exists := by decide } }
       methods := OptionSet.ofWord 3 },
     { key := { classification := .number 0x8000, identifier := 1, index := 2 }
       pending := { label := .raw [0xff, 0x00] } }]

/-- The parameters as they are written. -/
def written : List UInt8 :=
  [0x01, 0x01, 0, 0, 2, 0, 1, 5, 0, 0, 0x73, 0x65, 0x74, 0x2d, 0x31,
    0x0a, 0, 0x34, 0x12, 0, 7, 0, 0, 0, 1, 3, 0x32, 0x30, 0x32, 0x34, 0x30, 0x32, 0x32, 0x39,
    0, 0, 0, 0, 0, 0, 0, 0, 0, 0, 0, 0, 0, 0, 3, 0, 0, 0, 0, 0, 0x31, 0x2e, 0x30,
    0, 0x80, 1, 0, 2, 0, 0, 0, 0, 0, 0, 0, 0, 0, 0, 0, 0, 0, 0,
    0, 0, 0, 0, 0, 2, 0, 0, 0, 0, 0, 0, 0, 0, 0, 0, 0, 0, 0, 0, 0xff, 0x00]

/-- A version without a date has none to lose. -/
theorem undated (label : Label) (stamp : UInt32) :
    ∀ date ∈ ({ label, stamp } : Version).date, date.HasField := by
  intro date member
  cases member

theorem isCanonical : parameters.IsCanonical := by
  intro component member
  simp only [parameters, List.mem_cons, List.not_mem_nil, or_false] at member
  rcases member with rfl | rfl
  · refine ⟨nofun, ?_, undated _ _⟩
    rintro date ⟨⟩
    decide
  · refine ⟨?_, undated _ _, undated _ _⟩
    rintro value ⟨⟩
    decide

end ReportedFirmware

/-- Parameters with text, bytes, a date and an unnamed classification come back. -/
theorem reported_firmware_comes_back :
    ReportedFirmware.parameters.layout.encode 98 = .ok ReportedFirmware.written ∧
      FirmwareParameters.reader ReportedFirmware.written =
        .ok (ReportedFirmware.parameters, []) := by
  have encoded : ReportedFirmware.parameters.layout.encode 98 = .ok ReportedFirmware.written := by
    decide +kernel
  exact ⟨encoded, (parameters_survive_the_wire _ encoded).mpr ReportedFirmware.isCanonical⟩

end FirmwareUpdate
