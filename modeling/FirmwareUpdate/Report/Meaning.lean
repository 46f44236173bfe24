import FirmwareUpdate.Command.Codes
import FirmwareUpdate.Report.Inventory

/-!
# What bytes and words stand for

The same byte is a completion code, a command, a state or a result, depending on where
it stands, and the same word a set of options or a classification. These reports show
all that a byte or a word can mean.
-/

namespace FirmwareUpdate

open Report (entry memberEntry)
open Wire

namespace Report

/-- The byte equals the code of a member of an enumeration; absent if it has none. -/
def equalsCode (α : Type) [Coded α] (byte : UInt8) : Option Bool :=
  (ofCode? byte : Option α).map fun member => CompletionCode.of member == (⟨byte⟩ : CompletionCode)

/-- The name of a device state. -/
def stateName (byte : UInt8) : String :=
  ((ofCode? byte : Option DeviceState).map Coded.name).getD "unknown state!"

/-- All that a byte can mean. -/
def ofByte (byte : UInt8) : Report :=
  let cc : CompletionCode := ⟨byte⟩
  record
    [entry "cc" cc, entry "success" cc.isSuccess, entry "eq_ccode" (equalsCode BaseCode byte),
      entry "eq_fwcode" (equalsCode UpdateCode byte), entry "command_error" cc.refusalMessage,
      memberEntry "cmd" Command byte, entry "state" (stateName byte),
      memberEntry "idle_reason" IdleReason byte, memberEntry "flag" TransferFlag byte,
      memberEntry "transfer_op" TransferOperation byte,
      memberEntry "transfer_result" TransferResult byte,
      memberEntry "verify_result" VerifyResult byte,
      memberEntry "apply_result" ApplyResult byte,
      entry "apply_ok" ((ofCode? byte).map ApplyResult.isSuccess),
      memberEntry "component_response" ComponentAnswer byte]

/-- All that a word can mean. Activation methods and classifications have 16 bits. -/
def ofWord (word : UInt32) : Report :=
  let capabilities : DeviceCapabilities := .ofWord word
  let componentCapabilities : ComponentCapabilities := .ofWord word
  let methods : ActivationMethods := .ofWord word.toUInt16.toUInt32
  let classification := Classification.ofWord word.toUInt16
  record
    [entry "caps" capabilities, entry "caps_empty" capabilities.isEmpty,
      entry "caps_names" capabilities.names, entry "component_caps" componentCapabilities,
      entry "component_caps_names" componentCapabilities.names, entry "methods" methods,
      entry "methods_names" methods.names, entry "class" classification,
      entry "class_back" classification.word]

end Report

end FirmwareUpdate
