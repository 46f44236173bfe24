import FirmwareUpdate.Wire.Coded

/-!
# Completion codes

Every response carries one byte that says how its command ended. Two families of
names share that byte: the codes of all message types and those of firmware
update. A byte of neither family is still a code, only without a name.
-/

namespace FirmwareUpdate

open Wire

/-- Completion codes that every message type uses. -/
inductive BaseCode where
  | success
  | error
  | invalidData
  | invalidLength
  | notReady
  | unsupportedCommand
  | invalidType
deriving DecidableEq, Repr

instance : Coded BaseCode where
  all := [.success, .error, .invalidData, .invalidLength, .notReady, .unsupportedCommand,
    .invalidType]
  code
    | .success => 0
    | .error => 1
    | .invalidData => 2
    | .invalidLength => 3
    | .notReady => 4
    | .unsupportedCommand => 5
    | .invalidType => 32
  name
    | .success => "SUCCESS"
    | .error => "ERROR"
    | .invalidData => "ERROR_INVALID_DATA"
    | .invalidLength => "ERROR_INVALID_LENGTH"
    | .notReady => "ERROR_NOT_READY"
    | .unsupportedCommand => "ERROR_UNSUPPORTED_PLDM_CMD"
    | .invalidType => "ERROR_INVALID_PLDM_TYPE"
  mem_all member := by cases member <;> decide
  code_injective first second := by cases first <;> cases second <;> decide

/-- Completion codes of firmware update. -/
inductive UpdateCode where
  | notInUpdateMode
  | alreadyInUpdateMode
  | dataOutOfRange
  | invalidTransferLength
  | invalidStateForCommand
  | incompleteUpdate
  | busyInBackground
  | cancelPending
  | commandNotExpected
  | retryRequestFirmwareData
  | unableToInitiateUpdate
  | activationNotRequired
  | selfContainedActivationNotPermitted
  | noDeviceMetadata
  | retryRequestUpdate
  | noPackageData
  | invalidTransferHandle
  | invalidTransferOperationFlag
  | activatePendingImageNotPermitted
  | packageDataError
deriving DecidableEq, Repr

instance : Coded UpdateCode where
  all := [.notInUpdateMode, .alreadyInUpdateMode, .dataOutOfRange, .invalidTransferLength,
    .invalidStateForCommand, .incompleteUpdate, .busyInBackground, .cancelPending,
    .commandNotExpected, .retryRequestFirmwareData, .unableToInitiateUpdate,
    .activationNotRequired, .selfContainedActivationNotPermitted, .noDeviceMetadata,
    .retryRequestUpdate, .noPackageData, .invalidTransferHandle,
    .invalidTransferOperationFlag, .activatePendingImageNotPermitted, .packageDataError]
  code
    | .notInUpdateMode => 0x80
    | .alreadyInUpdateMode => 0x81
    | .dataOutOfRange => 0x82
    | .invalidTransferLength => 0x83
    | .invalidStateForCommand => 0x84
    | .incompleteUpdate => 0x85
    | .busyInBackground => 0x86
    | .cancelPending => 0x87
    | .commandNotExpected => 0x88
    | .retryRequestFirmwareData => 0x89
    | .unableToInitiateUpdate => 0x8A
    | .activationNotRequired => 0x8B
    | .selfContainedActivationNotPermitted => 0x8C
    | .noDeviceMetadata => 0x8D
    | .retryRequestUpdate => 0x8E
    | .noPackageData => 0x8F
    | .invalidTransferHandle => 0x90
    | .invalidTransferOperationFlag => 0x91
    | .activatePendingImageNotPermitted => 0x92
    | .packageDataError => 0x93
  name
    | .notInUpdateMode => "NOT_IN_UPDATE_MODE"
    | .alreadyInUpdateMode => "ALREADY_IN_UPDATE_MODE"
    | .dataOutOfRange => "DATA_OUT_OF_RANGE"
    | .invalidTransferLength => "INVALID_TRANSFER_LENGTH"
    | .invalidStateForCommand => "INVALID_STATE_FOR_COMMAND"
    | .incompleteUpdate => "INCOMPLETE_UPDATE"
    | .busyInBackground => "BUSY_IN_BACKGROUND"
    | .cancelPending => "CANCEL_PENDING"
    | .commandNotExpected => "COMMAND_NOT_EXPECTED"
    | .retryRequestFirmwareData => "RETRY_REQUEST_FW_DATA"
    | .unableToInitiateUpdate => "UNABLE_TO_INITIATE_UPDATE"
    | .activationNotRequired => "ACTIVATION_NOT_REQUIRED"
    | .selfContainedActivationNotPermitted => "SELF_CONTAINED_ACTIVATION_NOT_PERMITTED"
    | .noDeviceMetadata => "NO_DEVICE_METADATA"
    | .retryRequestUpdate => "RETRY_REQUEST_UPDATE"
    | .noPackageData => "NO_PACKAGE_DATA"
    | .invalidTransferHandle => "INVALID_TRANSFER_HANDLE"
    | .invalidTransferOperationFlag => "INVALID_TRANSFER_OPERATION_FLAG"
    | .activatePendingImageNotPermitted => "ACTIVATE_PENDING_IMAGE_NOT_PERMITTED"
    | .packageDataError => "PACKAGE_DATA_ERROR"
  mem_all member := by cases member <;> decide
  code_injective first second := by cases first <;> cases second <;> decide

/-- The completion code of a response, as its byte. -/
structure CompletionCode where
  byte : UInt8
deriving DecidableEq, Repr

namespace CompletionCode

/-- The code of a family member. -/
def of {α : Type} [Coded α] (member : α) : CompletionCode := ⟨Coded.code member⟩

instance : Coe BaseCode CompletionCode := ⟨of⟩

instance : Coe UpdateCode CompletionCode := ⟨of⟩

/-- The command succeeded. -/
def isSuccess (cc : CompletionCode) : Bool := cc.byte == 0

/-- The name of the code, or its byte in hexadecimal. -/
def describe (cc : CompletionCode) : String :=
  match ofCode? (α := BaseCode) cc.byte, ofCode? (α := UpdateCode) cc.byte with
  | some member, _ => Coded.name member
  | none, some member => Coded.name member
  | none, none => "0x" ++ hexByte cc.byte

/-- The description of a command that was refused with this code. -/
def refusalMessage (cc : CompletionCode) : String := "CC: " ++ cc.describe

/-- The code that reports a codec failure to the peer: short bodies have the wrong
length, bad ones the wrong data. -/
def ofCodecError : CodecError → CompletionCode
  | .truncated _ => BaseCode.invalidLength
  | .malformed _ => BaseCode.invalidData
  | .protocol _ | .noSpace | .invalidArgument => BaseCode.error

end CompletionCode

end FirmwareUpdate
