import FirmwareUpdate.Proofs.Command.Exactness

/-!
# Parts of firmware parameters

Parameters that are cut off too early are truncated wherever the cut is, but for one case. No date
is written as eight zeros, and of these a reader that is given four to seven takes the first four
for a year without digits. `FirmwareParameters.misreadCuts` lists the lengths of the parts that end
so; they are malformed, and all others are truncated.
-/

namespace FirmwareUpdate

open Wire

/-! ## Dates -/

namespace Date

/-- The digits of a date are read steadily: what fails is the digits themselves. -/
theorem steady_digitsReader : Reader.Steady digitsReader :=
  (Reader.steady_take 4).bind fun _ => (Reader.steady_require _).bind fun _ =>
    (Reader.steady_take 2).bind fun _ => (Reader.steady_require _).bind fun _ =>
      (Reader.steady_take 2).bind fun _ => (Reader.steady_require _).bind fun _ =>
        Reader.steady_pure _

/-- How many bytes of its field make an optional date look like a date without digits. -/
def misreadCuts (date : Option Date) : List Nat :=
  if (onWire date).isSome then [] else [4, 5, 6, 7]

/-- No cut of a date is misread where the date arrives. -/
theorem misreadCuts_eq_nil_iff {date : Option Date} :
    misreadCuts date = [] ↔ (onWire date).isSome := by
  cases back : onWire date with
  | none => simp [misreadCuts, back]
  | some day => simp [misreadCuts, back]

/-- Of eight zeros too few are a date without digits if they are enough for a year. -/
theorem breaks_zeros :
    Reader.Breaks reader (List.replicate 8 0) [4, 5, 6, 7] where
  inside := by decide
  fails := by decide

/-- Of the digits of a date too few are just too few: nothing shorter than eight bytes is read as
no date. -/
theorem breaks_digits {written : List UInt8} {date : Date} (sized : written.length = 8)
    (read : reader written = .ok (some date, [])) : Reader.Breaks reader written [] where
  inside _ member := nomatch member
  fails kept short := by
    have digits : digitsReader written = .ok (some date, []) := by
      unfold reader at read
      split at read
      · cases read
      · exact read
    -- the zeros of no date are eight, so a part is read by its digits whatever its bytes are
    have fewer : ¬ (written.take kept).take 8 = List.replicate 8 0 := fun blank => by
      have length := congrArg List.length blank
      simp only [List.length_take, List.length_replicate] at length
      omega
    unfold reader
    rw [if_neg fewer]
    exact (steady_digitsReader.breaks digits).fails kept short

/-- A date that does not come back from the wire is written as eight zeros. -/
theorem layout_of_absent {date : Option Date} (absent : onWire date = none) :
    layout date = Layout.bytes (List.replicate 8 0) := by
  cases date with
  | none => rfl
  | some date =>
      have noField : ¬ date.HasField := fun field => by
        rw [onWire_eq_self.mpr fun day member => Option.mem_some.mp member ▸ field] at absent
        cases absent
      exact if_neg noField

/-- An optional date breaks as its field does, by digits or by zeros. -/
theorem breaksAt (date : Option Date) :
    BreaksAt (layout date) reader (onWire date) 8 (misreadCuts date) := by
  obtain ⟨written, spelled, sized, read⟩ := roundTrips date
  refine ⟨written, spelled, sized, read, ?_⟩
  cases back : onWire date with
  | none =>
      rw [layout_of_absent back, Layout.contents_bytes] at spelled
      cases spelled
      rw [misreadCuts, back]
      exact breaks_zeros
  | some day =>
      have whole := read []
      rw [List.append_nil, back] at whole
      rw [misreadCuts, back]
      exact breaks_digits sized whole

end Date

/-! ## Components -/

namespace Version

/-- The lengths of parts of all fields but the label that end in the zeros of no date. -/
def misreadCuts (version : Version) : List Nat := (Date.misreadCuts version.date).map (6 + ·)

/-- The head of a version is cut off with `Truncated`, but for the zeros of an absent date. -/
theorem head_breaksAt (version : Version) (short : version.label.IsShort) :
    BreaksAt version.headLayout VersionHead.reader version.head 14 version.misreadCuts := by
  simp only [headLayout, List.append_assoc]
  refine BreaksAt.resize (.after (RoundTrips.word32 _) Reader.steady_word32
    (.after (RoundTrips.byte _) Reader.steady_byte
      (.after (version.label.sizeField_roundTrips short) Reader.steady_byte
        ((Date.breaksAt version.date).last _)))) rfl ?_
  simp [misreadCuts, Function.comp_def, ← Nat.add_assoc]

/-- The text of a version is read steadily. -/
theorem steady_complete (head : VersionHead) : Reader.Steady head.complete :=
  (Label.steady_reader _ _).bind fun _ => Reader.steady_pure _

end Version

/-- A set of options is read steadily. -/
theorem OptionSet.steady_reader {α : Type} [WordOption α] :
    Reader.Steady (reader : Reader (OptionSet α)) :=
  Reader.steady_word32.map _

namespace Component

/-- The lengths of parts of a component that end in the zeros of no date. -/
def misreadCuts (component : Component) : List Nat :=
  component.active.misreadCuts.map (5 + ·) ++ component.pending.misreadCuts.map (19 + ·)

/-- A component is cut off with `Truncated`, but within its two dates. -/
theorem breaksAt (component : Component) (active : component.active.label.IsShort)
    (pending : component.pending.label.IsShort) :
    BreaksAt component.layout reader component.onWire component.writtenSize
      component.misreadCuts := by
  simp only [layout, List.append_assoc]
  refine BreaksAt.resize (.after component.key.roundTrips ComponentKey.steady_reader
    (.bind (component.active.head_breaksAt active)
      (.bind (component.pending.head_breaksAt pending)
        (.after component.methods.roundTrips ActivationMethods.steady_reader
          (.after component.capabilities.roundTrips OptionSet.steady_reader
            (.after (component.active.complete_roundTrips active) (Version.steady_complete _)
              ((BreaksAt.of_steady (component.pending.complete_roundTrips pending)
                (Version.steady_complete _)).last _))))))) ?_ ?_
  · rw [writtenSize]
    omega
  · simp [misreadCuts, List.map_append, List.map_map, Function.comp_def, ← Nat.add_assoc]

/-- The lengths of parts of components that end in the zeros of no date. -/
def misreadCutsAmong : List Component → List Nat
  | [] => []
  | component :: rest =>
    component.misreadCuts ++ (misreadCutsAmong rest).map (component.writtenSize + ·)

/-- So is a list of components, by induction on the list. -/
theorem list_breaksAt {components : List Component}
    (short : ∀ component ∈ components,
      component.active.label.IsShort ∧ component.pending.label.IsShort) :
    BreaksAt (components.flatMap layout) (Reader.replicate reader components.length)
      (components.map onWire) (listSize components) (misreadCutsAmong components) := by
  induction components with
  | nil => exact .of_steady (list_roundTrips short) (Reader.steady_pure [])
  | cons component rest ih =>
      obtain ⟨active, pending⟩ := short component List.mem_cons_self
      have later := ih fun other member => short other (List.mem_cons_of_mem _ member)
      exact (component.breaksAt active pending).bind (later.last _)

end Component

/-! ## Parameters -/

namespace FirmwareParameters

/-- The lengths of parts of the parameters that end in the zeros of no date. -/
def misreadCuts (parameters : FirmwareParameters) : List Nat :=
  (Component.misreadCutsAmong parameters.components).map
    (10 + parameters.active.bytes.length + parameters.pending.bytes.length + ·)

/-- So are all the parameters of a device. -/
theorem breaksAt {parameters : FirmwareParameters} {written : List UInt8}
    (spelled : parameters.layout.contents = .ok written) :
    BreaksAt parameters.layout reader parameters.onWire parameters.writtenSize
      parameters.misreadCuts := by
  obtain ⟨counted, active, pending, components⟩ := isShort_of_contents spelled
  have count : (UInt16.ofNat parameters.components.length).toNat =
      parameters.components.length := UInt16.toNat_ofNat_of_lt' counted
  have listed := Component.list_breaksAt components
  rw [← count] at listed
  simp only [layout, if_pos counted, List.append_assoc]
  refine BreaksAt.resize (.after parameters.capabilities.roundTrips OptionSet.steady_reader
    (.after (RoundTrips.word16 _) Reader.steady_word16
      (.after (RoundTrips.byte _) Reader.steady_byte
        (.after (parameters.active.sizeField_roundTrips active) Reader.steady_byte
          (.after (RoundTrips.byte _) Reader.steady_byte
            (.after (parameters.pending.sizeField_roundTrips pending) Reader.steady_byte
              (.after (parameters.active.contents_roundTrips active) (Label.steady_reader _ _)
                (.after (parameters.pending.contents_roundTrips pending) (Label.steady_reader _ _)
                  (listed.last _))))))))) ?_ ?_
  · rw [writtenSize]
    omega
  · simp [misreadCuts, Function.comp_def, ← Nat.add_assoc]

/-- No part is misread exactly if every version comes back from the wire with a date. -/
theorem misreadCuts_eq_nil_iff {parameters : FirmwareParameters} :
    parameters.misreadCuts = [] ↔ ∀ component ∈ parameters.components,
      (Date.onWire component.active.date).isSome ∧
        (Date.onWire component.pending.date).isSome := by
  obtain ⟨capabilities, components, active, pending⟩ := parameters
  rw [misreadCuts, List.map_eq_nil_iff]
  induction components with
  | nil => simp [Component.misreadCutsAmong]
  | cons component rest ih =>
      simp only [Component.misreadCutsAmong, Component.misreadCuts, Version.misreadCuts,
        List.append_eq_nil_iff, List.map_eq_nil_iff, Date.misreadCuts_eq_nil_iff,
        List.forall_mem_cons, ih]

end FirmwareParameters

/-- A part of firmware parameters that were written, cut off anywhere too early, is truncated,
unless it ends with four to seven of the eight zeros that stand for no date: then it is malformed.
There is no such part exactly if every version has a date that is written as one. -/
theorem parts_of_parameters_are_truncated_outside_absent_dates (parameters : FirmwareParameters)
    {room : Nat} {written : List UInt8} (encoded : parameters.layout.encode room = .ok written)
    {part : List UInt8} (front : part <+: written) (strict : part ≠ written) (what : String) :
    decode what FirmwareParameters.reader part = .error
      (if part.length ∈ parameters.misreadCuts then .malformed what else .truncated what) ∧
    (parameters.misreadCuts = [] ↔ ∀ component ∈ parameters.components,
      (Date.onWire component.active.date).isSome ∧
        (Date.onWire component.pending.date).isSome) := by
  obtain ⟨spelled, -⟩ := Layout.encode_eq_ok_iff.mp encoded
  exact ⟨(FirmwareParameters.breaksAt spelled).decode_of_part encoded front strict what,
    FirmwareParameters.misreadCuts_eq_nil_iff⟩

namespace HalfDated

/-- The date of the version in use. -/
def released : Date where
  year := 2023
  month := 9
  day := 15
  year_known := by decide
  day_exists := by decide

/-- One component, of which the version in use has a date and the pending one has none. -/
def parameters : FirmwareParameters where
  components :=
    [{ key := { classification := .firmware, identifier := 0x1234 }
       active := { label := .text "1.0", date := some released } }]

/-- The parameters as they are written. -/
def written : List UInt8 :=
  [0, 0, 0, 0, 1, 0, 0, 0, 0, 0, 0x0a, 0, 0x34, 0x12, 0,
    0, 0, 0, 0, 1, 3, 0x32, 0x30, 0x32, 0x33, 0x30, 0x39, 0x31, 0x35,
    0, 0, 0, 0, 0, 0, 0, 0, 0, 0, 0, 0, 0, 0, 0, 0, 0, 0, 0, 0, 0x31, 0x2e, 0x30]

end HalfDated

open HalfDated in
/-- Cut off after the year of its first date the parameters are truncated, and after as many zeros
of the second, which is none, they are malformed. -/
theorem half_dated_parameters_cut_twice :
    parameters.layout.encode 52 = .ok written ∧ parameters.misreadCuts = [39, 40, 41, 42] ∧
      written.take 25 <+: written ∧ written.take 25 ≠ written ∧
      decode "GetFirmwareParameters" FirmwareParameters.reader (written.take 25) =
        .error (.truncated "GetFirmwareParameters") ∧
      written.take 39 <+: written ∧ written.take 39 ≠ written ∧
      decode "GetFirmwareParameters" FirmwareParameters.reader (written.take 39) =
        .error (.malformed "GetFirmwareParameters") := by
  have encoded : parameters.layout.encode 52 = .ok written := by decide +kernel
  have places : parameters.misreadCuts = [39, 40, 41, 42] := by decide +kernel
  have early : written.take 25 ≠ written := by decide
  have late : written.take 39 ≠ written := by decide
  obtain ⟨truncated, -⟩ := parts_of_parameters_are_truncated_outside_absent_dates parameters encoded
    (List.take_prefix 25 written) early "GetFirmwareParameters"
  obtain ⟨malformed, -⟩ := parts_of_parameters_are_truncated_outside_absent_dates parameters encoded
    (List.take_prefix 39 written) late "GetFirmwareParameters"
  rw [places] at truncated malformed
  exact ⟨encoded, places, List.take_prefix 25 written, early, truncated,
    List.take_prefix 39 written, late, malformed⟩

namespace Undated

/-- One component without labels or dates. -/
def parameters : FirmwareParameters where
  components := [{ key := { classification := .unknown, identifier := 0 } }]

/-- The parameters up to the fourth byte of the first date, which are zeros but for the number of
components. -/
def part : List UInt8 := [0, 0, 0, 0, 1] ++ List.replicate 20 0

end Undated

open Undated in
/-- A strict prefix of an encoding that is not truncated but malformed. -/
theorem undated_parameters_cut_in_a_date_are_malformed :
    parameters.layout.toMessage = .ok (part ++ List.replicate 24 0) ∧
      decode "GetFirmwareParameters" FirmwareParameters.reader part =
        .error (.malformed "GetFirmwareParameters") := by
  decide +kernel

end FirmwareUpdate
