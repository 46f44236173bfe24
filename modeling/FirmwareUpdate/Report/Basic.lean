import FirmwareUpdate.Component.Options
import FirmwareUpdate.Message.CompletionCode
import FirmwareUpdate.Wire.Hex

/-!
# Reports

Tools that watch an update are shown reports: trees of numbers, texts, lists and
named entries. `Reported` says what a value of a type is shown as. Bytes are shown in
hexadecimal, members of enumerations and completion codes by their names, and sets
of options by their words.
-/

namespace FirmwareUpdate

open Wire

/-- What a tool is shown of a value. -/
inductive Report where
  /-- Stands where there is no value. -/
  | absent
  | truth (value : Bool)
  | number (value : Int)
  | text (value : String)
  | list (items : List Report)
  /-- Named parts, in no particular order. -/
  | record (entries : List (String × Report))

/-- A type whose values can be shown. -/
class Reported (α : Type) where
  /-- The report of a value. -/
  report : α → Report

export Reported (report)

namespace Report

/-- A named part of a record. -/
def entry {α : Type} [Reported α] (name : String) (value : α) : String × Report :=
  (name, report value)

/-- The report of a failure: what kind of failure it is, and its description. -/
def failure (kind message : String) : Report :=
  record [("error", text kind), ("message", text message)]

/-- The named part for the member of an enumeration with a given code, if there is one. -/
def memberEntry (name : String) (α : Type) [Coded α] (byte : UInt8) : String × Report :=
  (name, match (ofCode? byte : Option α) with
    | some member => text (Coded.name member)
    | none => absent)

/-- A record with further entries; what is no record stays as it is. -/
def extend (added : List (String × Report)) : Report → Report
  | record entries => record (entries ++ added)
  | other => other

end Report

instance : Reported Report := ⟨id⟩

instance : Reported Bool := ⟨Report.truth⟩

instance : Reported Int := ⟨Report.number⟩

instance : Reported Nat := ⟨fun value => Report.number value⟩

instance : Reported UInt8 := ⟨fun value => Report.number value.toNat⟩

instance : Reported UInt16 := ⟨fun value => Report.number value.toNat⟩

instance : Reported UInt32 := ⟨fun value => Report.number value.toNat⟩

instance : Reported String := ⟨Report.text⟩

/-- The end of an operation that has no other answer. -/
instance : Reported Unit := ⟨fun _ => Report.text "ok"⟩

instance {α : Type} [Coded α] : Reported α := ⟨fun value => Report.text (Coded.name value)⟩

instance {α : Type} [WordOption α] : Reported (OptionSet α) :=
  ⟨fun options => report options.word⟩

instance : Reported CompletionCode := ⟨fun cc => Report.text cc.describe⟩

instance {α : Type} [Reported α] : Reported (Option α) :=
  ⟨fun value => (value.map report).getD Report.absent⟩

instance {α : Type} [Reported α] : Reported (List α) :=
  ⟨fun values => Report.list (values.map report)⟩

/-- Bytes are shown as one text, not as a list of numbers. -/
instance : Reported (List UInt8) := ⟨fun contents => Report.text (hexText contents)⟩

instance {ε α : Type} [Reported ε] [Reported α] : Reported (Except ε α) :=
  ⟨fun result =>
    match result with
    | .ok value => report value
    | .error error => report error⟩

/-- The names of the options in a set. -/
def OptionSet.names {α : Type} [WordOption α] (options : OptionSet α) : List String :=
  options.toList.map WordOption.name

end FirmwareUpdate
