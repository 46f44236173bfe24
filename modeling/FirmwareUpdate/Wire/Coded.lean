import FirmwareUpdate.Wire.Reader

/-!
# Coded enumerations

The protocol numbers its states, flags and results. `Coded` gives an enumeration
its byte codes and the names it is printed with; `ofCode?_eq_some_iff` says that
the codes are read back as they are written.
-/

namespace FirmwareUpdate.Wire

/-- An enumeration whose members have distinct byte codes. -/
class Coded (α : Type) where
  /-- The members, in the order of their definition. -/
  all : List α
  /-- The byte that stands for a member. -/
  code : α → UInt8
  /-- The name a member is printed with. -/
  name : α → String
  /-- No member is missing from the list. -/
  mem_all : ∀ member, member ∈ all
  /-- No two members share a code. -/
  code_injective : ∀ first second, code first = code second → first = second

/-- The member with the given code. -/
def ofCode? {α : Type} [Coded α] (byte : UInt8) : Option α :=
  Coded.all.find? fun member => Coded.code member == byte

theorem ofCode?_eq_some_iff {α : Type} [Coded α] {byte : UInt8} {member : α} :
    ofCode? byte = some member ↔ Coded.code member = byte := by
  constructor
  · intro found
    simpa using List.find?_some found
  · rintro rfl
    cases found : ofCode? (α := α) (Coded.code member) with
    | none =>
      have absent := List.find?_eq_none.mp found member (Coded.mem_all member)
      simp at absent
    | some other =>
      have same : Coded.code other = Coded.code member := by simpa using List.find?_some found
      rw [Coded.code_injective other member same]

@[simp] theorem ofCode?_code {α : Type} [Coded α] (member : α) :
    ofCode? (Coded.code member) = some member :=
  ofCode?_eq_some_iff.mpr rfl

/-- Reads the code of a member; other bytes are invalid. -/
def Reader.coded {α : Type} [Coded α] : Reader α := do
  Reader.require (ofCode? (← Reader.byte))

end FirmwareUpdate.Wire
