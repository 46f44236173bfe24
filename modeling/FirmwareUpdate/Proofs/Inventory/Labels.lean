import FirmwareUpdate.Proofs.Command.RoundTrip
import FirmwareUpdate.Proofs.Wire.Reading

/-!
# Labels that were written and labels that were read

A label that was written is short enough for the byte of its length. A label that was read has the
bytes that it was read from, whatever its type said. Only the type can be written differently:
text is read under either of its two types, and written under the one that fits it.
-/

namespace FirmwareUpdate.Label

open Wire

/-- A label is no longer than its length can say. -/
def IsShort (label : Label) : Prop := label.bytes.length < 256

/-- A label whose length has been written is short. -/
theorem isShort_of_sizeField {label : Label} {layout : Layout} {written : List UInt8}
    (spelled : layout.contents = .ok written)
    (member : ∀ field ∈ label.sizeField, field ∈ layout) : label.IsShort := by
  have sized := Layout.isOk_of_contents spelled (member _ List.mem_cons_self)
  refine Nat.lt_of_not_le fun long => ?_
  rw [size?, if_neg (Nat.not_lt.mpr long)] at sized
  cases sized

/-- A short label is written as its type, its length and its bytes. -/
theorem contents_layout {label : Label} (short : label.IsShort) :
    label.layout.contents =
      .ok (label.kind :: UInt8.ofNat label.bytes.length :: label.bytes) :=
  Layout.contents_append (Layout.contents_append (Layout.contents_byte label.kind)
    (contents_sizeField short)) (Layout.contents_bytes label.bytes)

/-- Text has the bytes that it was made of. -/
theorem bytes_of_ofUtf8? {contents : List UInt8} {label : Label}
    (made : ofUtf8? contents = some label) : label.bytes = contents := by
  obtain ⟨value, decoded, rfl⟩ := Option.map_eq_some_iff.mp made
  simp only [String.fromUTF8?] at decoded
  split at decoded
  · cases decoded
    rfl
  · cases decoded

/-- A label has the bytes that it was made of, under every type that allows them. -/
theorem bytes_of_ofKind? {kind : UInt8} {contents : List UInt8} {label : Label}
    (made : ofKind? kind contents = some label) : label.bytes = contents := by
  simp only [ofKind?] at made
  split at made
  · cases made
    rfl
  · split at made
    · exact bytes_of_ofUtf8? made
    · cases made

/-- The contents of a label are read from its bytes, under every type that allows them. -/
theorem reader_eq_ok_iff {kind size : UInt8} {input left : List UInt8} {label : Label} :
    reader kind size input = .ok (label, left) ↔
      input = label.bytes ++ left ∧ label.bytes.length = size.toNat ∧
        ofKind? kind label.bytes = some label := by
  simp only [reader, Reader.bind_eq_ok_iff, Reader.take_eq_ok_iff, Reader.require_eq_ok_iff]
  constructor
  · rintro ⟨contents, rest, ⟨rfl, sized⟩, made, rfl⟩
    obtain rfl := bytes_of_ofKind? made
    exact ⟨rfl, sized, made⟩
  · rintro ⟨rfl, sized, made⟩
    exact ⟨label.bytes, left, ⟨rfl, sized⟩, made, rfl⟩

/-- A label with its type and length before it is read from these and its bytes. -/
theorem adjacentReader_eq_ok_iff {input left : List UInt8} {label : Label} :
    adjacentReader input = .ok (label, left) ↔
      ∃ kind size, input = kind :: size :: (label.bytes ++ left) ∧
        label.bytes.length = size.toNat ∧ ofKind? kind label.bytes = some label := by
  simp only [adjacentReader, Reader.bind_eq_ok_iff, Reader.byte_eq_ok_iff, reader_eq_ok_iff]
  constructor
  · rintro ⟨kind, _, rfl, size, _, rfl, rfl, sized, made⟩
    exact ⟨kind, size, rfl, sized, made⟩
  · rintro ⟨kind, size, rfl, sized, made⟩
    exact ⟨kind, _, rfl, size, _, rfl, rfl, sized, made⟩

end FirmwareUpdate.Label
