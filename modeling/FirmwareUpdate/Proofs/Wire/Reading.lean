import FirmwareUpdate.Proofs.Wire.RoundTrip

/-!
# What a reader has taken

A reader that finds a value has taken bytes from the front of its input, and the value says
which. There is one equivalence for each reader and each way of combining readers, so that what
was read can be traced back to the bytes it was read from. They are the converse of
`Reader.Reads`, which starts from the bytes.
-/

namespace FirmwareUpdate.Wire

/-- Every byte string spells a number of its own width. -/
theorem littleEndian_ofLittleEndian (bytes : List UInt8) :
    littleEndian bytes.length (ofLittleEndian bytes) = bytes := by
  induction bytes with
  | nil => rfl
  | cons byte rest ih =>
      have bounded := byte.toNat_lt
      have low : UInt8.ofNat (byte.toNat + 256 * ofLittleEndian rest) = byte := by
        apply UInt8.toNat_inj.mp
        rw [UInt8.toNat_ofNat']
        omega
      have high : (byte.toNat + 256 * ofLittleEndian rest) / 256 = ofLittleEndian rest := by omega
      simp only [List.length_cons, ofLittleEndian, littleEndian, low, high, ih]

/-- A number is below what its width can hold. -/
theorem ofLittleEndian_lt (bytes : List UInt8) : ofLittleEndian bytes < 256 ^ bytes.length := by
  induction bytes with
  | nil => simp [ofLittleEndian]
  | cons byte rest ih =>
      have bounded := byte.toNat_lt
      simp only [ofLittleEndian, List.length_cons, Nat.pow_succ]
      omega

namespace Reader

variable {α β : Type} {input left : List UInt8}

/-- What is given without reading leaves the input as it is. -/
theorem pure_eq_ok_iff {value found : α} :
    (pure value : Reader α) input = .ok (found, left) ↔ value = found ∧ input = left := by
  show (Except.ok (value, input) : Except ReadFailure _) = _ ↔ _
  simp

/-- What is made of a value was read as the value. -/
theorem mapped_eq_ok_iff {reader : Reader α} {f : α → β} {found : β} :
    (f <$> reader) input = .ok (found, left) ↔
      ∃ value, reader input = .ok (value, left) ∧ f value = found := by
  rw [← bind_pure_comp, bind_eq_ok_iff]
  simp only [pure_eq_ok_iff]
  constructor
  · rintro ⟨value, rest, read, made, rfl⟩
    exact ⟨value, read, made⟩
  · rintro ⟨value, read, made⟩
    exact ⟨value, left, read, made, rfl⟩

/-- A check that succeeds leaves the input as it is. -/
theorem require_eq_ok_iff {value : Option α} {found : α} :
    require value input = .ok (found, left) ↔ value = some found ∧ input = left := by
  cases value with
  | none => simp [require, fail]
  | some value => simpa [require] using pure_eq_ok_iff

/-- What is taken is the front of the input, of the length asked for. -/
theorem take_eq_ok_iff {count : Nat} {taken : List UInt8} :
    take count input = .ok (taken, left) ↔ input = taken ++ left ∧ taken.length = count := by
  constructor
  · intro read
    simp only [take] at read
    split at read
    · cases read
      exact ⟨(List.take_append_drop count input).symm, List.length_take_of_le ‹_›⟩
    · cases read
  · rintro ⟨rfl, rfl⟩
    exact reads_take taken left

/-- A byte that is read is the first of the input. -/
theorem byte_eq_ok_iff {value : UInt8} :
    byte input = .ok (value, left) ↔ input = value :: left := by
  cases input with
  | nil => simp [byte]
  | cons head rest => simp [byte]

/-- What is read as the rest is all of the input. -/
theorem rest_eq_ok_iff {taken : List UInt8} :
    rest input = .ok (taken, left) ↔ input = taken ∧ [] = left := by
  simp [rest]

/-- A number is read from the bytes that it is written as. -/
theorem number_eq_ok_iff {width value : Nat} :
    number width input = .ok (value, left) ↔
      input = littleEndian width value ++ left ∧ value < 256 ^ width := by
  simp only [number, mapped_eq_ok_iff, take_eq_ok_iff]
  constructor
  · rintro ⟨taken, ⟨rfl, rfl⟩, rfl⟩
    exact ⟨by rw [littleEndian_ofLittleEndian], ofLittleEndian_lt taken⟩
  · rintro ⟨rfl, bounded⟩
    refine ⟨littleEndian width value, ⟨rfl, length_littleEndian ..⟩, ?_⟩
    rw [ofLittleEndian_littleEndian, Nat.mod_eq_of_lt bounded]

/-- A word that is read was written at the front of the input. -/
theorem word16_eq_ok_iff {value : UInt16} :
    word16 input = .ok (value, left) ↔ input = bytes16 value ++ left := by
  simp only [word16, mapped_eq_ok_iff, number_eq_ok_iff]
  constructor
  · rintro ⟨number, ⟨rfl, bounded⟩, rfl⟩
    rw [bytes16, UInt16.toNat_ofNat_of_lt' bounded]
  · rintro rfl
    exact ⟨value.toNat, ⟨rfl, value.toNat_lt⟩, UInt16.ofNat_toNat⟩

/-- A word that is read was written at the front of the input. -/
theorem word32_eq_ok_iff {value : UInt32} :
    word32 input = .ok (value, left) ↔ input = bytes32 value ++ left := by
  simp only [word32, mapped_eq_ok_iff, number_eq_ok_iff]
  constructor
  · rintro ⟨number, ⟨rfl, bounded⟩, rfl⟩
    rw [bytes32, UInt32.toNat_ofNat_of_lt' bounded]
  · rintro rfl
    exact ⟨value.toNat, ⟨rfl, value.toNat_lt⟩, UInt32.ofNat_toNat⟩

/-- A delimited value is read from all of its bytes. -/
theorem within_eq_ok_iff {count : Nat} {reader : Reader α} {value : α} :
    within count reader input = .ok (value, left) ↔
      ∃ body, input = body ++ left ∧ body.length = count ∧ reader body = .ok (value, []) := by
  simp only [within, bind_eq_ok_iff, take_eq_ok_iff]
  constructor
  · rintro ⟨body, rest, ⟨rfl, sized⟩, read⟩
    cases outcome : reader body with
    | error failure =>
        rw [outcome] at read
        cases read
    | ok found =>
        obtain ⟨found, unread⟩ := found
        rw [outcome] at read
        cases unread with
        | nil =>
            obtain ⟨rfl, rfl⟩ := pure_eq_ok_iff.mp read
            exact ⟨body, rfl, sized, outcome⟩
        | cons byte more => cases read
  · rintro ⟨body, rfl, sized, read⟩
    refine ⟨body, left, ⟨rfl, sized⟩, ?_⟩
    rw [read]
    rfl

/-- A delimited value takes its bytes, whatever follows them. -/
theorem reads_within {reader : Reader α} {body : List UInt8} {value : α}
    (read : reader body = .ok (value, [])) : Reads (within body.length reader) body value :=
  fun _ => within_eq_ok_iff.mpr ⟨body, rfl, rfl, read⟩

theorem replicate_zero_eq_ok_iff {reader : Reader α} {values : List α} :
    replicate reader 0 input = .ok (values, left) ↔ [] = values ∧ input = left :=
  pure_eq_ok_iff

/-- Values are read one after the other. -/
theorem replicate_succ_eq_ok_iff {reader : Reader α} {count : Nat} {values : List α} :
    replicate reader (count + 1) input = .ok (values, left) ↔
      ∃ head middle tail, reader input = .ok (head, middle) ∧
        replicate reader count middle = .ok (tail, left) ∧ head :: tail = values := by
  simp only [replicate, bind_eq_ok_iff, pure_eq_ok_iff]
  constructor
  · rintro ⟨head, middle, read, tail, rest, others, made, rfl⟩
    exact ⟨head, middle, tail, read, others, made⟩
  · rintro ⟨head, middle, tail, read, others, made⟩
    exact ⟨head, middle, read, tail, left, others, made, rfl⟩

/-- A body is decoded as a value exactly if the reader finds the value and takes all of it. -/
theorem decode_eq_ok_iff {what : String} {reader : Reader α} {body : List UInt8} {value : α} :
    decode what reader body = .ok value ↔ reader body = .ok (value, []) := by
  constructor
  · intro decoded
    simp only [decode] at decoded
    split at decoded
    · cases decoded
      assumption
    all_goals cases decoded
  · intro read
    simp only [decode, read]

end Reader

end FirmwareUpdate.Wire
