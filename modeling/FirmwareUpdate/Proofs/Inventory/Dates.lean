import Mathlib.Data.List.TakeWhile
import FirmwareUpdate.Inventory.Date
import FirmwareUpdate.Proofs.Wire.RoundTrip

/-!
# Dates are read back

A date is written with its decimal digits, four for the year and two each for month and day.
A number is read from its digits whatever zeros come before them, so a date whose year has at
most four digits comes back; a date without such a year is written like no date.
-/

namespace FirmwareUpdate.Date

open Wire

/-! ## Digits -/

/-- The digits of a number, with zeros before them. -/
def digitChars (width value : Nat) : List Char :=
  List.replicate (width - (Nat.toDigits 10 value).length) '0' ++ Nat.toDigits 10 value

/-- The byte of a digit. -/
def digitByte (c : Char) : UInt8 := UInt8.ofNat c.toNat

/-- The bytes of a padded number. -/
def digitBytes (width value : Nat) : List UInt8 := (digitChars width value).map digitByte

/-- A number is spelled by its digits. -/
theorem decimalNumber_eq (width value : Nat) :
    decimalNumber width value = String.ofList (digitChars width value) := by
  rw [decimalNumber, zeroPadded, digitChars, String.ofList_append, String.length_ofList]

/-- Each of them is a digit. -/
theorem isDigit_of_mem {width value : Nat} {c : Char} (member : c ∈ digitChars width value) :
    c.isDigit = true := by
  rcases List.mem_append.mp member with padding | digit
  · rw [List.eq_of_mem_replicate padding]
    rfl
  · exact Nat.isDigit_of_mem_toDigits (by decide) (by decide) digit

/-- A number that fits has as many digits as asked for. -/
theorem length_digitBytes {width value : Nat} (some : 0 < width) (fits : value < 10 ^ width) :
    (digitBytes width value).length = width := by
  have short := (Nat.length_toDigits_le_iff (b := 10) (by decide) some).mpr fits
  rw [digitBytes, List.length_map, digitChars, List.length_append, List.length_replicate]
  omega

/-- A number has at least one digit. -/
theorem digitBytes_ne_nil (width value : Nat) : digitBytes width value ≠ [] :=
  List.map_eq_nil_iff.not.mpr (List.append_ne_nil_of_right_ne_nil _ Nat.toDigits_ne_nil)

/-- The digits are the ten characters from zero to nine. -/
theorem bounds_of_isDigit {c : Char} (digit : c.isDigit = true) : 48 ≤ c.toNat ∧ c.toNat ≤ 57 := by
  simp only [Char.isDigit, Bool.and_eq_true, decide_eq_true_eq, UInt32.le_iff_toNat_le] at digit
  exact digit

/-- The byte of a digit is its character. -/
theorem toNat_digitByte {c : Char} (digit : c.isDigit = true) : (digitByte c).toNat = c.toNat := by
  have bounds := bounds_of_isDigit digit
  exact UInt8.toNat_ofNat_of_lt' (Nat.lt_of_le_of_lt bounds.2 (by decide))

/-- The bytes of a number are those of digits. -/
theorem bounds_of_mem {width value : Nat} {byte : UInt8} (member : byte ∈ digitBytes width value) :
    48 ≤ byte.toNat ∧ byte.toNat ≤ 57 := by
  obtain ⟨c, among, rfl⟩ := List.mem_map.mp member
  have digit := isDigit_of_mem among
  rw [toNat_digitByte digit]
  exact bounds_of_isDigit digit

/-- A digit is one byte of text. -/
theorem utf8_of_digits {chars : List Char} (digits : ∀ c ∈ chars, c.isDigit = true) :
    (String.ofList chars).toUTF8.data.toList = chars.map digitByte := by
  rw [String.toUTF8_eq_toByteArray, String.toByteArray_ofList]
  induction chars with
  | nil => rfl
  | cons c rest ih =>
      have bounds := bounds_of_isDigit (digits c List.mem_cons_self)
      have single : c.utf8Size = 1 := by
        rw [Char.utf8Size_eq_one_iff, UInt32.le_iff_toNat_le]
        exact Nat.le_trans bounds.2 (by decide)
      rw [List.utf8Encode_cons, List.utf8Encode_singleton, ByteArray.toList_data_append,
        ih fun other member => digits other (List.mem_cons_of_mem _ member),
        String.utf8EncodeChar_eq_singleton single]
      rfl

/-- The bytes of a date are those of its three numbers. -/
theorem digits_eq (date : Date) :
    date.digits =
      digitBytes 4 date.year.toNat ++ (digitBytes 2 date.month ++ digitBytes 2 date.day) := by
  simp only [digits, decimalNumber_eq, ← String.ofList_append, List.append_assoc]
  rw [utf8_of_digits]
  · simp only [List.map_append, digitBytes]
  · intro c member
    simp only [List.mem_append] at member
    rcases member with year | month | day
    · exact isDigit_of_mem year
    · exact isDigit_of_mem month
    · exact isDigit_of_mem day

/-! ## Numbers -/

/-- Adding up the bytes of digits is adding up the digits. -/
theorem foldl_digitByte {chars : List Char} (digits : ∀ c ∈ chars, c.isDigit = true)
    (start : Nat) :
    (chars.map digitByte).foldl (fun value byte => 10 * value + (byte.toNat - 48)) start =
      Nat.ofDigitChars 10 chars start := by
  induction chars generalizing start with
  | nil => rfl
  | cons c rest ih =>
      rw [List.map_cons, List.foldl_cons, Nat.ofDigitChars_cons,
        toNat_digitByte (digits c List.mem_cons_self)]
      exact ih (fun other member => digits other (List.mem_cons_of_mem _ member)) _

/-- A number is read from its digits. -/
theorem leadingNumber?_digitBytes (width value : Nat) :
    leadingNumber? (digitBytes width value) = some value := by
  have all : (digitBytes width value).takeWhile (fun byte => 48 ≤ byte && byte ≤ 57) =
      digitBytes width value := by
    refine List.takeWhile_eq_self_iff.mpr fun byte member => ?_
    simp only [Bool.and_eq_true, decide_eq_true_eq, UInt8.le_iff_toNat_le]
    exact bounds_of_mem member
  unfold leadingNumber?
  rw [all]
  split
  · rename_i nothing
    exact absurd nothing (digitBytes_ne_nil width value)
  · rw [digitBytes, foldl_digitByte fun c => isDigit_of_mem]
    simp [digitChars, Nat.ofDigitChars_append]

/-- A number without a sign is read as itself. -/
theorem leadingInteger?_digitBytes (width value : Nat) :
    leadingInteger? (digitBytes width value) = some (value : Int) := by
  have unsigned {byte : UInt8} {rest : List UInt8} (made : digitBytes width value = byte :: rest) :
      48 ≤ byte.toNat := (bounds_of_mem (made ▸ List.mem_cons_self)).1
  unfold leadingInteger?
  split
  · rename_i made
    exact absurd (unsigned made) (by decide)
  · rename_i made
    exact absurd (unsigned made) (by decide)
  · rw [leadingNumber?_digitBytes]
    rfl

/-! ## Dates -/

/-- A date is the only one with its numbers. -/
theorem of?_numbers (date : Date) : of? date.year date.month date.day = some date := by
  rw [of?, dif_pos date.year_known, dif_pos date.day_exists]

theorem month_le (date : Date) : date.month ≤ 12 := by
  have exists' := date.day_exists
  by_contra late
  have none : daysInMonth date.year date.month = 0 := by
    unfold daysInMonth
    split <;> omega
  omega

theorem day_le (date : Date) : date.day ≤ 31 := by
  have most : daysInMonth date.year date.month ≤ 31 := by
    unfold daysInMonth
    (repeat' split) <;> decide
  exact Nat.le_trans date.day_exists.2 most

/-- The year has at most four digits and no sign. -/
def HasField (date : Date) : Prop := 0 ≤ date.year ∧ date.year ≤ 9999

instance (date : Date) : Decidable date.HasField := inferInstanceAs (Decidable (_ ∧ _))

/-- A field of a fixed size is read as what its bytes spell. -/
theorem reads_field {α β : Type} {read? : List UInt8 → Option α} {next : α → Reader β}
    {size : Nat} {field more : List UInt8} {value : α} {result : β} (sized : field.length = size)
    (found : read? field = some value) (tail : Reader.Reads (next value) more result) :
    Reader.Reads (Reader.take size >>= fun taken => Reader.require (read? taken) >>= next)
      (field ++ more) result := by
  subst sized
  exact (Reader.reads_take field).bind ((Reader.reads_require found).bind tail)

/-- A date whose year fits is read back. -/
theorem digits_roundTrip {date : Date} (field : date.HasField) :
    RoundTrips (Layout.bytes date.digits) reader (some date) 8 := by
  obtain ⟨early, late⟩ := field
  have fitsYear : (digitBytes 4 date.year.toNat).length = 4 :=
    length_digitBytes (by decide) (by omega)
  have fitsMonth : (digitBytes 2 date.month).length = 2 :=
    length_digitBytes (by decide) (Nat.lt_of_le_of_lt date.month_le (by decide))
  have fitsDay : (digitBytes 2 date.day).length = 2 :=
    length_digitBytes (by decide) (Nat.lt_of_le_of_lt date.day_le (by decide))
  have year : leadingInteger? (digitBytes 4 date.year.toNat) = some date.year := by
    rw [leadingInteger?_digitBytes, Int.toNat_of_nonneg early]
  have read : Reader.Reads digitsReader date.digits (some date) := by
    have last : Reader.Reads (pure (of? date.year date.month date.day)) [] (some date) := by
      rw [of?_numbers]
      exact Reader.reads_pure _
    rw [digits_eq, ← List.append_nil (digitBytes 2 date.day)]
    unfold digitsReader
    refine reads_field fitsYear year ?_
    refine reads_field fitsMonth (leadingNumber?_digitBytes 2 date.month) ?_
    exact reads_field fitsDay (leadingNumber?_digitBytes 2 date.day) last
  refine ⟨date.digits, Layout.contents_bytes _, ?_, fun rest => ?_⟩
  · rw [digits_eq, List.length_append, List.length_append, fitsYear, fitsMonth, fitsDay]
  · -- the first digit tells a date from the eight zeros that stand for none
    have filled : ¬ (date.digits ++ rest).take 8 = List.replicate 8 0 := by
      intro blank
      cases made : digitBytes 4 date.year.toNat with
      | nil => exact digitBytes_ne_nil _ _ made
      | cons byte others =>
          have digit : 48 ≤ byte.toNat := (bounds_of_mem (made ▸ List.mem_cons_self)).1
          rw [digits_eq, made] at blank
          have zero := (List.cons.inj blank).1
          subst zero
          exact absurd digit (by decide)
    unfold reader
    rw [if_neg filled]
    exact read rest

/-- The date as it comes back from the wire. -/
def onWire (date : Option Date) : Option Date := date.filter fun date => date.HasField

/-- A date with a field of its own is read back, and any other comes back as none. -/
theorem roundTrips (date : Option Date) : RoundTrips (layout date) reader (onWire date) 8 := by
  have blank : RoundTrips (Layout.bytes (List.replicate 8 0)) reader none 8 := by
    refine ⟨List.replicate 8 0, Layout.contents_bytes _, rfl, fun rest => ?_⟩
    unfold reader
    rw [if_pos (by rfl)]
    rfl
  cases date with
  | none => exact blank
  | some date =>
      by_cases field : date.HasField
      · rw [show layout (some date) = Layout.bytes date.digits from if_pos field, onWire,
          Option.filter_some, if_pos (decide_eq_true field)]
        exact digits_roundTrip field
      · rw [show layout (some date) = Layout.bytes (List.replicate 8 0) from if_neg field, onWire,
          Option.filter_some, if_neg (by simpa using field)]
        exact blank

/-- A date comes back as it was exactly when it has a field of its own. -/
theorem onWire_eq_self {date : Option Date} : onWire date = date ↔ ∀ day ∈ date, day.HasField := by
  cases date with
  | none => simp [onWire]
  | some date => simp [onWire]

end FirmwareUpdate.Date
