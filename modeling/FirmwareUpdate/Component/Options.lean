import FirmwareUpdate.Wire.Layout
import FirmwareUpdate.Wire.Reader

/-!
# Option sets

Capabilities and activation methods travel as words in which each option has its
bit. Bits without an option are dropped when a word is read, so a set holds known
options only and is written back as the word it is.
-/

namespace FirmwareUpdate

open Wire

/-- An enumeration of options, each at its own bit of a word. -/
class WordOption (α : Type) where
  /-- The options, lowest bit first. -/
  all : List α
  /-- The position of an option's bit. -/
  bit : α → Nat
  /-- The name an option is printed with. -/
  name : α → String

/-- The word in which all options are set. -/
def knownOptions (α : Type) [WordOption α] : UInt32 :=
  WordOption.all.foldl (fun word (option : α) =>
    word ||| UInt32.ofNat (1 <<< WordOption.bit option)) 0

/-- A set of options. -/
structure OptionSet (α : Type) [WordOption α] where
  word : UInt32
  word_known : word &&& knownOptions α = word
deriving DecidableEq

namespace OptionSet

variable {α : Type} [WordOption α]

/-- The options whose bits are set in a word. -/
def ofWord (word : UInt32) : OptionSet α where
  word := word &&& knownOptions α
  word_known := by rw [UInt32.and_assoc, UInt32.and_self]

/-- The set without options. -/
def empty : OptionSet α where
  word := 0
  word_known := UInt32.zero_and

/-- No option is set. -/
def isEmpty (options : OptionSet α) : Bool := options.word == 0

/-- The option is set. -/
def contains (options : OptionSet α) (option : α) : Bool :=
  options.word.toNat.testBit (WordOption.bit option)

/-- The options of a set, lowest bit first. -/
def toList (options : OptionSet α) : List α := WordOption.all.filter options.contains

@[simp] theorem ofWord_word (options : OptionSet α) : ofWord options.word = options := by
  cases options with
  | mk word known => simp only [ofWord, known]

end OptionSet

/-- Ways to put a new image into use. -/
inductive ActivationMethod where
  | automatic
  | selfContained
  | mediumSpecificReset
  | systemReboot
  | dcPowerCycle
  | acPowerCycle
  | pendingImage
  | pendingComponentImageSet
deriving DecidableEq, Repr

instance : WordOption ActivationMethod where
  all := [.automatic, .selfContained, .mediumSpecificReset, .systemReboot, .dcPowerCycle,
    .acPowerCycle, .pendingImage, .pendingComponentImageSet]
  bit
    | .automatic => 0
    | .selfContained => 1
    | .mediumSpecificReset => 2
    | .systemReboot => 3
    | .dcPowerCycle => 4
    | .acPowerCycle => 5
    | .pendingImage => 6
    | .pendingComponentImageSet => 7
  name
    | .automatic => "Automatic"
    | .selfContained => "SelfContained"
    | .mediumSpecificReset => "MediumSpecificReset"
    | .systemReboot => "SystemReboot"
    | .dcPowerCycle => "DCPowerCycle"
    | .acPowerCycle => "ACPowerCycle"
    | .pendingImage => "PendingImage"
    | .pendingComponentImageSet => "PendingComponentImageSet"

/-- The ways a component can be activated. -/
abbrev ActivationMethods := OptionSet ActivationMethod

/-- The field of the activation methods, a 16-bit word. -/
def ActivationMethods.layout (methods : ActivationMethods) : Layout :=
  Layout.word16 methods.word.toUInt16

/-- Reads activation methods. -/
def ActivationMethods.reader : Reader ActivationMethods := do
  let word ← Reader.word16
  pure (OptionSet.ofWord word.toUInt32)

/-- What a device can do during an update. -/
inductive DeviceCapability where
  | failureRecovery
  | failureRetry
  | hostFunctionality
  | partialUpdates
  | hostRestriction
  | downgradeRestrictions
  | securityRevisionUpdate
deriving DecidableEq, Repr

instance : WordOption DeviceCapability where
  all := [.failureRecovery, .failureRetry, .hostFunctionality, .partialUpdates,
    .hostRestriction, .downgradeRestrictions, .securityRevisionUpdate]
  bit
    | .failureRecovery => 0
    | .failureRetry => 1
    | .hostFunctionality => 2
    | .partialUpdates => 3
    | .hostRestriction => 4
    | .downgradeRestrictions => 8
    | .securityRevisionUpdate => 9
  name
    | .failureRecovery => "ComponentUpdateFailureRecovery"
    | .failureRetry => "ComponentUpdateFailureRetry"
    | .hostFunctionality => "FDHostFunctionalityDuringUpdate"
    | .partialUpdates => "FDPartialUpdates"
    | .hostRestriction => "FDUpdateModeRestrictionOSActive"
    | .downgradeRestrictions => "FDDowngradeRestrictions"
    | .securityRevisionUpdate => "SecurityRevisionUpdateRequest"

/-- What a device can do during an update, together. -/
abbrev DeviceCapabilities := OptionSet DeviceCapability

/-- What a component can do during an update. -/
inductive ComponentCapability where
  | applyState
  | downgrade
  | securityRevisionUpdate
  | securityRevisionNotLatest
deriving DecidableEq, Repr

instance : WordOption ComponentCapability where
  all := [.applyState, .downgrade, .securityRevisionUpdate, .securityRevisionNotLatest]
  bit
    | .applyState => 0
    | .downgrade => 2
    | .securityRevisionUpdate => 3
    | .securityRevisionNotLatest => 4
  name
    | .applyState => "FDApplyState"
    | .downgrade => "ComponentDowngrade"
    | .securityRevisionUpdate => "SecurityRevisionUpdateRequest"
    | .securityRevisionNotLatest => "SecurityRevisionNotLatest"

/-- What a component can do during an update, together. -/
abbrev ComponentCapabilities := OptionSet ComponentCapability

/-- The field of a set of capabilities, a 32-bit word. -/
def OptionSet.layout {α : Type} [WordOption α] (options : OptionSet α) : Layout :=
  Layout.word32 options.word

/-- Reads a set of capabilities. -/
def OptionSet.reader {α : Type} [WordOption α] : Reader (OptionSet α) :=
  OptionSet.ofWord <$> Reader.word32

end FirmwareUpdate
