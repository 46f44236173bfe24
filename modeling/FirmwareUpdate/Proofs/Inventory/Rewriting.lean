import FirmwareUpdate.Proofs.Inventory.Parameters

/-!
# Parameters that were read can be written again

Parameters are read from more byte strings than are ever written: capabilities may have bits
without a meaning, a date may be short of digits or name no day, and text may be under the wrong
type. Whatever was read has short labels, classifications under their own names and dates before
the year 10000 (`Received`), so that it can be written, in as many bytes as it was read from. A
year field has room for a minus sign, though, and a date before the year 0 is written like no
date: it is all that is lost.
-/

namespace FirmwareUpdate

open Wire

/-! ## Dates that were read -/

namespace Date

/-- A number has no more digits than it was read from. -/
theorem foldl_digits_lt {digits : List UInt8} (all : ∀ byte ∈ digits, byte.toNat ≤ 57)
    (start : Nat) :
    digits.foldl (fun value byte => 10 * value + (byte.toNat - 48)) start <
      (start + 1) * 10 ^ digits.length := by
  induction digits generalizing start with
  | nil => simp
  | cons byte rest ih =>
      have digit := all byte List.mem_cons_self
      have later := ih (fun other member => all other (List.mem_cons_of_mem _ member))
        (10 * start + (byte.toNat - 48))
      have place : 10 * start + (byte.toNat - 48) + 1 ≤ (start + 1) * 10 := by omega
      rw [List.foldl_cons, List.length_cons, Nat.pow_succ', ← Nat.mul_assoc]
      exact Nat.lt_of_lt_of_le later (Nat.mul_le_mul_right _ place)

/-- A number that is read has no more digits than there are bytes. -/
theorem leadingNumber?_lt {contents : List UInt8} {value : Nat}
    (read : leadingNumber? contents = some value) : value < 10 ^ contents.length := by
  let isDigit : UInt8 → Bool := fun byte => 48 ≤ byte && byte ≤ 57
  have all : ∀ byte ∈ contents.takeWhile isDigit, byte.toNat ≤ 57 := by
    intro byte member
    have digit := List.mem_takeWhile_imp member
    simp only [isDigit, Bool.and_eq_true, decide_eq_true_eq, UInt8.le_iff_toNat_le] at digit
    exact digit.2
  have bounded := foldl_digits_lt all 0
  rw [Nat.zero_add, Nat.one_mul] at bounded
  have short : 10 ^ (contents.takeWhile isDigit).length ≤ 10 ^ contents.length :=
    Nat.pow_le_pow_right (by decide) (List.takeWhile_prefix isDigit).length_le
  simp only [leadingNumber?] at read
  split at read
  · cases read
  · cases read
    exact Nat.lt_of_lt_of_le bounded short

/-- A sign takes the place of a digit. -/
theorem leadingInteger?_lt {contents : List UInt8} {value : Int}
    (read : leadingInteger? contents = some value) : value < (10 ^ contents.length : Nat) := by
  have signed (byte : UInt8) (rest : List UInt8) : 10 ^ rest.length ≤ 10 ^ (byte :: rest).length :=
    Nat.pow_le_pow_right (by decide) (Nat.le_succ _)
  simp only [leadingInteger?] at read
  split at read
  · rename_i rest
    obtain ⟨number, found, rfl⟩ := Option.map_eq_some_iff.mp read
    have bounded := leadingNumber?_lt found
    have longer := signed 45 rest
    omega
  · rename_i rest
    obtain ⟨number, found, rfl⟩ := Option.map_eq_some_iff.mp read
    have bounded := leadingNumber?_lt found
    have longer := signed 43 rest
    omega
  · obtain ⟨number, found, rfl⟩ := Option.map_eq_some_iff.mp read
    have bounded := leadingNumber?_lt found
    omega

/-- The day with given numbers is in the given year. -/
theorem year_of_of? {year : Int} {month day : Nat} {date : Date}
    (made : of? year month day = some date) : date.year = year := by
  simp only [of?] at made
  split at made
  · split at made
    · cases made
      rfl
    · cases made
  · cases made

/-- A date is read from eight bytes, and four digits name no year after 9999. -/
theorem of_reader {input left : List UInt8} {date : Option Date}
    (read : reader input = .ok (date, left)) :
    input.length = 8 + left.length ∧ ∀ day ∈ date, day.year ≤ 9999 := by
  simp only [reader] at read
  split at read
  · rename_i blank
    cases read
    have sized := congrArg List.length blank
    rw [List.length_take, List.length_replicate] at sized
    constructor
    · rw [List.length_drop]
      omega
    · intro day none
      cases none
  · simp only [digitsReader, Reader.bind_eq_ok_iff, Reader.take_eq_ok_iff,
      Reader.require_eq_ok_iff, Reader.pure_eq_ok_iff] at read
    obtain ⟨yearField, _, ⟨rfl, yearSize⟩, year, _, ⟨yearRead, rfl⟩, monthField, _,
      ⟨rfl, monthSize⟩, month, _, ⟨-, rfl⟩, dayField, _, ⟨rfl, daySize⟩, day, _, ⟨-, rfl⟩, made,
      rfl⟩ := read
    constructor
    · simp only [List.length_append]
      omega
    · rintro found ⟨⟩
      have bounded := leadingInteger?_lt yearRead
      rw [yearSize] at bounded
      rw [year_of_of? made]
      omega

/-- The date, unless it is before the year 0. -/
def withoutEarly (date : Option Date) : Option Date := date.filter fun day => 0 ≤ day.year

/-- All that can be lost of a date that was read is that it is before the year 0. -/
theorem onWire_eq_withoutEarly {date : Option Date} (late : ∀ day ∈ date, day.year ≤ 9999) :
    onWire date = withoutEarly date := by
  cases date with
  | none => rfl
  | some day =>
      have known := late day rfl
      simp only [onWire, withoutEarly, Option.filter_some, HasField, known, and_true]

end Date

/-! ## Components that were read -/

/-- What is true of every version that was read. -/
structure Version.Received (version : Version) : Prop where
  short : version.label.IsShort
  year_le : ∀ date ∈ version.date, date.year ≤ 9999

/-- What is true of every component that was read. -/
structure Component.Received (component : Component) : Prop where
  key : component.key.onWire = component.key
  active : component.active.Received
  pending : component.pending.Received

/-- The version without a date before the year 0. -/
def Version.withoutEarlyDate (version : Version) : Version :=
  { version with date := Date.withoutEarly version.date }

/-- The component without dates before the year 0. -/
def Component.withoutEarlyDates (component : Component) : Component :=
  { component with
    active := component.active.withoutEarlyDate
    pending := component.pending.withoutEarlyDate }

/-- A number that was read is under its own name. -/
theorem Classification.onWire_ofWord (word : UInt16) : (ofWord word).onWire = ofWord word := by
  simp only [onWire, ofWord]
  by_cases unknown : word = 0x0000
  · simp [unknown, Classification.word]
  · by_cases other : word = 0x0001
    · simp [other, Classification.word]
    · by_cases firmware : word = 0x000a
      · simp [firmware, Classification.word]
      · simp [unknown, other, firmware, Classification.word]

/-- A key that is read takes five bytes and is in canonical form. -/
theorem ComponentKey.of_reader {input left : List UInt8} {key : ComponentKey}
    (read : reader input = .ok (key, left)) :
    input.length = 5 + left.length ∧ key.onWire = key := by
  simp only [reader, Classification.reader, Reader.bind_eq_ok_iff, Reader.mapped_eq_ok_iff,
    Reader.word16_eq_ok_iff, Reader.byte_eq_ok_iff, Reader.pure_eq_ok_iff] at read
  obtain ⟨_, _, ⟨word, rfl, rfl⟩, identifier, _, rfl, index, _, rfl, rfl, rfl⟩ := read
  constructor
  · simp only [List.length_append, List.length_cons, length_bytes16]
    omega
  · simp only [ComponentKey.onWire, Classification.onWire_ofWord]

/-- The head of a version takes fourteen bytes, and its year four digits. -/
theorem VersionHead.of_reader {input left : List UInt8} {head : VersionHead}
    (read : reader input = .ok (head, left)) :
    input.length = 14 + left.length ∧ ∀ date ∈ head.date, date.year ≤ 9999 := by
  simp only [reader, Reader.bind_eq_ok_iff, Reader.word32_eq_ok_iff, Reader.byte_eq_ok_iff,
    Reader.pure_eq_ok_iff] at read
  obtain ⟨stamp, _, rfl, kind, _, rfl, size, _, rfl, date, _, dated, rfl, rfl⟩ := read
  obtain ⟨sized, late⟩ := Date.of_reader dated
  constructor
  · simp only [List.length_append, List.length_cons, length_bytes32]
    omega
  · exact late

/-- The contents of the label complete a version. -/
theorem VersionHead.of_complete {head : VersionHead} {input left : List UInt8} {version : Version}
    (read : head.complete input = .ok (version, left))
    (late : ∀ date ∈ head.date, date.year ≤ 9999) :
    input.length = version.label.bytes.length + left.length ∧ version.Received := by
  simp only [complete, Reader.bind_eq_ok_iff, Label.reader_eq_ok_iff, Reader.pure_eq_ok_iff] at read
  obtain ⟨label, _, ⟨rfl, sized, -⟩, rfl, rfl⟩ := read
  have short : label.IsShort := sized.trans_lt head.size.toNat_lt
  exact ⟨List.length_append, short, late⟩

/-- A set of options takes four bytes. -/
theorem OptionSet.length_of_reader {α : Type} [WordOption α] {input left : List UInt8}
    {options : OptionSet α} (read : reader input = .ok (options, left)) :
    input.length = 4 + left.length := by
  simp only [reader, Reader.mapped_eq_ok_iff, Reader.word32_eq_ok_iff] at read
  obtain ⟨word, rfl, -⟩ := read
  simp only [List.length_append, length_bytes32]

/-- A set of activation methods takes two bytes. -/
theorem ActivationMethods.length_of_reader {input left : List UInt8} {methods : ActivationMethods}
    (read : reader input = .ok (methods, left)) : input.length = 2 + left.length := by
  simp only [reader, Reader.bind_eq_ok_iff, Reader.word16_eq_ok_iff, Reader.pure_eq_ok_iff] at read
  obtain ⟨word, _, rfl, -, rfl⟩ := read
  simp only [List.length_append, length_bytes16]

namespace Component

/-- A component is read from as many bytes as it is written with. -/
theorem of_reader {input left : List UInt8} {component : Component}
    (read : reader input = .ok (component, left)) :
    input.length = component.writtenSize + left.length ∧ component.Received := by
  simp only [reader, Reader.bind_eq_ok_iff, Reader.pure_eq_ok_iff] at read
  obtain ⟨key, afterKey, keyRead, activeHead, afterActive, activeRead, pendingHead, afterPending,
    pendingRead, methods, afterMethods, methodsRead, capabilities, afterCapabilities,
    capabilitiesRead, active, afterLabel, activeDone, pending, _, pendingDone, rfl, rfl⟩ := read
  obtain ⟨keySize, named⟩ := ComponentKey.of_reader keyRead
  obtain ⟨activeSize, activeLate⟩ := VersionHead.of_reader activeRead
  obtain ⟨pendingSize, pendingLate⟩ := VersionHead.of_reader pendingRead
  have methodsSize := ActivationMethods.length_of_reader methodsRead
  have capabilitiesSize := OptionSet.length_of_reader capabilitiesRead
  obtain ⟨activeLabel, activeReceived⟩ := VersionHead.of_complete activeDone activeLate
  obtain ⟨pendingLabel, pendingReceived⟩ := VersionHead.of_complete pendingDone pendingLate
  constructor
  · simp only [writtenSize]
    omega
  · exact ⟨named, activeReceived, pendingReceived⟩

/-- Components are read from as many bytes as they are written with. -/
theorem of_replicate {count : Nat} {input left : List UInt8} {components : List Component}
    (read : Reader.replicate reader count input = .ok (components, left)) :
    components.length = count ∧ input.length = listSize components + left.length ∧
      ∀ component ∈ components, component.Received := by
  induction count generalizing input components with
  | zero =>
      obtain ⟨rfl, rfl⟩ := Reader.replicate_zero_eq_ok_iff.mp read
      simp [listSize]
  | succ count ih =>
      obtain ⟨head, middle, tail, first, others, rfl⟩ := Reader.replicate_succ_eq_ok_iff.mp read
      obtain ⟨size, received⟩ := of_reader first
      obtain ⟨counted, listed, later⟩ := ih others
      refine ⟨congrArg (· + 1) counted, ?_, List.forall_mem_cons.mpr ⟨received, later⟩⟩
      simp only [listSize, List.foldr_cons] at listed ⊢
      omega

/-- All that can be lost of a component that was read are dates before the year 0. -/
theorem Received.onWire_eq {component : Component} (received : component.Received) :
    component.onWire = component.withoutEarlyDates := by
  simp only [onWire, withoutEarlyDates, Version.onWire, Version.withoutEarlyDate, received.key,
    Date.onWire_eq_withoutEarly received.active.year_le,
    Date.onWire_eq_withoutEarly received.pending.year_le]

/-- A component that was read is canonical unless it has a date before the year 0. -/
theorem Received.isCanonical_iff {component : Component} (received : component.Received) :
    component.IsCanonical ↔ (∀ date ∈ component.active.date, 0 ≤ date.year) ∧
      ∀ date ∈ component.pending.date, 0 ≤ date.year := by
  constructor
  · intro canonical
    exact ⟨fun date member => (canonical.active date member).1,
      fun date member => (canonical.pending date member).1⟩
  · rintro ⟨active, pending⟩
    have named : component.key.classification.onWire = component.key.classification :=
      congrArg ComponentKey.classification received.key
    exact ⟨Classification.onWire_eq_self.mp named,
      fun date member => ⟨active date member, received.active.year_le date member⟩,
      fun date member => ⟨pending date member, received.pending.year_le date member⟩⟩

end Component

/-! ## Parameters that were read -/

namespace FirmwareParameters

/-- The parameters without dates before the year 0. -/
def withoutEarlyDates (parameters : FirmwareParameters) : FirmwareParameters :=
  { parameters with components := parameters.components.map Component.withoutEarlyDates }

/-- All that can be lost of parameters that were read are dates before the year 0. -/
theorem onWire_eq_withoutEarlyDates {parameters : FirmwareParameters}
    (received : ∀ component ∈ parameters.components, component.Received) :
    parameters.onWire = parameters.withoutEarlyDates := by
  have each : parameters.components.map Component.onWire =
      parameters.components.map Component.withoutEarlyDates :=
    List.map_congr_left fun component member => (received component member).onWire_eq
  simp only [onWire, withoutEarlyDates, each]

/-- Parameters that were read are written with as many bytes as they were read from. -/
theorem rewritten_of_reader {body : List UInt8} {parameters : FirmwareParameters}
    (read : reader body = .ok (parameters, [])) :
    RoundTrips parameters.layout reader parameters.onWire body.length ∧
      ∀ component ∈ parameters.components, component.Received := by
  simp only [reader, Reader.bind_eq_ok_iff, Reader.pure_eq_ok_iff, Reader.word16_eq_ok_iff,
    Reader.byte_eq_ok_iff, Label.reader_eq_ok_iff] at read
  obtain ⟨capabilities, _, capabilitiesRead, count, _, rfl, activeKind, _, rfl, activeSize, _, rfl,
    pendingKind, _, rfl, pendingSize, _, rfl, active, _, ⟨rfl, activeSized, -⟩, pending, _,
    ⟨rfl, pendingSized, -⟩, components, _, listRead, rfl, rfl⟩ := read
  have capabilitiesSize := OptionSet.length_of_reader capabilitiesRead
  obtain ⟨counted, listed, received⟩ := Component.of_replicate listRead
  have trip := @roundTrips_of_short { capabilities, components, active, pending }
    (counted.trans_lt count.toNat_lt) (activeSized.trans_lt activeSize.toNat_lt)
    (pendingSized.trans_lt pendingSize.toNat_lt)
    fun component member => ⟨(received component member).active.short,
      (received component member).pending.short⟩
  refine ⟨trip.resize ?_, received⟩
  simp only [List.length_append, List.length_cons, length_bytes16, List.length_nil]
    at capabilitiesSize listed
  simp only [writtenSize]
  omega

end FirmwareParameters

/-- Firmware parameters that were decoded from a message can be written again, into as many bytes.
These are decoded as the same parameters but for the dates before the year 0, which have become
none: the parameters are the same exactly if they have no such date. -/
theorem parameters_survive_rewriting {what : String} {body : List UInt8}
    {parameters : FirmwareParameters} (short : body.length ≤ maxMessageSize)
    (decoded : decode what FirmwareParameters.reader body = .ok parameters) :
    ∃ written, parameters.layout.toMessage = .ok written ∧ written.length = body.length ∧
      decode what FirmwareParameters.reader written = .ok parameters.withoutEarlyDates ∧
      (parameters.withoutEarlyDates = parameters ↔ ∀ component ∈ parameters.components,
        (∀ date ∈ component.active.date, 0 ≤ date.year) ∧
          ∀ date ∈ component.pending.date, 0 ≤ date.year) := by
  obtain ⟨trip, received⟩ :=
    FirmwareParameters.rewritten_of_reader (Reader.decode_eq_ok_iff.mp decoded)
  obtain ⟨written, encoded, sized, again⟩ := trip.message short what
  have lost := FirmwareParameters.onWire_eq_withoutEarlyDates received
  rw [lost] at again
  refine ⟨written, encoded, sized, again, ?_⟩
  rw [← lost, FirmwareParameters.onWire_eq_self]
  exact forall₂_congr fun component member => (received component member).isCanonical_iff

namespace OddFirmware

/-- Capabilities and methods with bits that mean nothing, text under the types of the other kind
of text, a date with two digits for its year and one for its month, and a thirteenth month. -/
def body : List UInt8 :=
  [0x01, 0x01, 0xff, 0xff, 1, 0, 1, 2, 0, 1, 0xc3, 0xa9, 0xff,
    1, 0, 7, 0, 0, 0, 0, 0, 0, 2, 1, 0x31, 0x32, 0x61, 0x62, 0x31, 0x78, 0x30, 0x35,
    0, 0, 0, 0, 0, 0, 0x32, 0x30, 0x32, 0x33, 0x31, 0x33, 0x30, 0x31,
    0x80, 0xff, 0xff, 0xff, 0xff, 0xff, 0x61]

/-- What is read from the body. -/
def parameters : FirmwareParameters where
  capabilities := OptionSet.ofWord 0x101
  active := .text "é"
  pending := .raw [0xff]
  components :=
    [{ key := { classification := .other, identifier := 7 }
       active :=
        { label := .text "a"
          date := some
            { year := 12, month := 1, day := 5, year_known := by decide, day_exists := by decide } }
       methods := OptionSet.ofWord 0x80
       capabilities := OptionSet.ofWord 0x1d }]

/-- The body as it is written. -/
def written : List UInt8 :=
  [0x01, 0x01, 0, 0, 1, 0, 2, 2, 0, 1, 0xc3, 0xa9, 0xff,
    1, 0, 7, 0, 0, 0, 0, 0, 0, 1, 1, 0x30, 0x30, 0x31, 0x32, 0x30, 0x31, 0x30, 0x35,
    0, 0, 0, 0, 0, 0, 0, 0, 0, 0, 0, 0, 0, 0, 0x80, 0, 0x1d, 0, 0, 0, 0x61]

/-- The only date is after the year 0. -/
theorem dated : ∀ component ∈ parameters.components,
    (∀ date ∈ component.active.date, 0 ≤ date.year) ∧
      ∀ date ∈ component.pending.date, 0 ≤ date.year := by
  intro component member
  rw [List.mem_singleton.mp member]
  constructor
  · rintro date ⟨⟩
    decide
  · rintro date ⟨⟩

end OddFirmware

/-- Parameters that were read from an unusual body are written differently, and read as the
same. -/
theorem odd_firmware_survives_rewriting :
    OddFirmware.body.length ≤ maxMessageSize ∧
      decode "GetFirmwareParameters" FirmwareParameters.reader OddFirmware.body =
        .ok OddFirmware.parameters ∧
      OddFirmware.parameters.layout.toMessage = .ok OddFirmware.written ∧
      decode "GetFirmwareParameters" FirmwareParameters.reader OddFirmware.written =
        .ok OddFirmware.parameters := by
  have short : OddFirmware.body.length ≤ maxMessageSize := by decide
  have decoded : decode "GetFirmwareParameters" FirmwareParameters.reader OddFirmware.body =
      .ok OddFirmware.parameters := by decide +kernel
  have encoded : OddFirmware.parameters.layout.toMessage = .ok OddFirmware.written := by
    decide +kernel
  obtain ⟨written, same, -, again, kept⟩ := parameters_survive_rewriting short decoded
  cases encoded.symm.trans same
  rw [kept.mpr OddFirmware.dated] at again
  exact ⟨short, decoded, encoded, again⟩

namespace EarlyFirmware

/-- One component, without labels. -/
def parameters (date : Option Date) : FirmwareParameters where
  components := [{ key := { classification := .firmware, identifier := 7 }, active := { date } }]

/-- The first day of the year before the year 0. -/
def date : Date where
  year := -1
  month := 1
  day := 1
  year_known := by decide
  day_exists := by decide

/-- A body with the eight bytes of a date. -/
def body (digits : List UInt8) : List UInt8 :=
  [0, 0, 0, 0, 1, 0, 0, 0, 0, 0, 0x0a, 0, 7, 0, 0, 0, 0, 0, 0, 0, 0] ++ digits ++
    [0, 0, 0, 0, 0, 0, 0, 0, 0, 0, 0, 0, 0, 0, 0, 0, 0, 0, 0, 0]

/-- The digits of the date, with a minus sign. -/
def digits : List UInt8 := [0x2d, 0x30, 0x30, 0x31, 0x30, 0x31, 0x30, 0x31]

end EarlyFirmware

open EarlyFirmware in
/-- A date with a minus sign is read, and written again like no date. -/
theorem early_date_is_lost :
    (body digits).length ≤ maxMessageSize ∧
      decode "GetFirmwareParameters" FirmwareParameters.reader (body digits) =
        .ok (parameters (some date)) ∧
      (parameters (some date)).layout.toMessage = .ok (body (List.replicate 8 0)) ∧
      decode "GetFirmwareParameters" FirmwareParameters.reader (body (List.replicate 8 0)) =
        .ok (parameters none) ∧
      parameters none ≠ parameters (some date) := by
  decide +kernel

end FirmwareUpdate
