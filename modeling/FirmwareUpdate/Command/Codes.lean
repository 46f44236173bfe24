import FirmwareUpdate.Wire.Coded

/-!
# Commands and their vocabulary

The commands of firmware update, and the states, flags and results that they
carry as single bytes.
-/

namespace FirmwareUpdate

open Wire

/-- The commands of firmware update. -/
inductive Command where
  | queryDeviceIdentifiers
  | getFirmwareParameters
  | requestUpdate
  | getPackageData
  | getDeviceMetaData
  | passComponentTable
  | updateComponent
  | requestFirmwareData
  | transferComplete
  | verifyComplete
  | applyComplete
  | getMetaData
  | activateFirmware
  | getStatus
  | cancelUpdateComponent
  | cancelUpdate
deriving DecidableEq, Repr

instance : Coded Command where
  all := [.queryDeviceIdentifiers, .getFirmwareParameters, .requestUpdate, .getPackageData,
    .getDeviceMetaData, .passComponentTable, .updateComponent, .requestFirmwareData,
    .transferComplete, .verifyComplete, .applyComplete, .getMetaData, .activateFirmware,
    .getStatus, .cancelUpdateComponent, .cancelUpdate]
  code
    | .queryDeviceIdentifiers => 0x01
    | .getFirmwareParameters => 0x02
    | .requestUpdate => 0x10
    | .getPackageData => 0x11
    | .getDeviceMetaData => 0x12
    | .passComponentTable => 0x13
    | .updateComponent => 0x14
    | .requestFirmwareData => 0x15
    | .transferComplete => 0x16
    | .verifyComplete => 0x17
    | .applyComplete => 0x18
    | .getMetaData => 0x19
    | .activateFirmware => 0x1A
    | .getStatus => 0x1B
    | .cancelUpdateComponent => 0x1C
    | .cancelUpdate => 0x1D
  name
    | .queryDeviceIdentifiers => "QueryDeviceIdentifiers"
    | .getFirmwareParameters => "GetFirmwareParameters"
    | .requestUpdate => "RequestUpdate"
    | .getPackageData => "GetPackageData"
    | .getDeviceMetaData => "GetDeviceMetaData"
    | .passComponentTable => "PassComponentTable"
    | .updateComponent => "UpdateComponent"
    | .requestFirmwareData => "RequestFirmwareData"
    | .transferComplete => "TransferComplete"
    | .verifyComplete => "VerifyComplete"
    | .applyComplete => "ApplyComplete"
    | .getMetaData => "GetMetaData"
    | .activateFirmware => "ActivateFirmware"
    | .getStatus => "GetStatus"
    | .cancelUpdateComponent => "CancelUpdateComponent"
    | .cancelUpdate => "CancelUpdate"
  mem_all member := by cases member <;> decide
  code_injective first second := by cases first <;> cases second <;> decide

/-- The states of a firmware device, as it reports them. -/
inductive DeviceState where
  | idle
  | learnComponents
  | readyXfer
  | download
  | verify
  | apply
  | activate
deriving DecidableEq, Repr

instance : Coded DeviceState where
  all := [.idle, .learnComponents, .readyXfer, .download, .verify, .apply, .activate]
  code
    | .idle => 0
    | .learnComponents => 1
    | .readyXfer => 2
    | .download => 3
    | .verify => 4
    | .apply => 5
    | .activate => 6
  name
    | .idle => "Idle"
    | .learnComponents => "LearnComponents"
    | .readyXfer => "ReadyXfer"
    | .download => "Download"
    | .verify => "Verify"
    | .apply => "Apply"
    | .activate => "Activate"
  mem_all member := by cases member <;> decide
  code_injective first second := by cases first <;> cases second <;> decide

/-- Why a device is idle. -/
inductive IdleReason where
  | init
  | activate
  | cancel
  | timeoutLearn
  | timeoutReadyXfer
  | timeoutDownload
  | timeoutVerify
  | timeoutApply
deriving DecidableEq, Repr

instance : Coded IdleReason where
  all := [.init, .activate, .cancel, .timeoutLearn, .timeoutReadyXfer, .timeoutDownload,
    .timeoutVerify, .timeoutApply]
  code
    | .init => 0
    | .activate => 1
    | .cancel => 2
    | .timeoutLearn => 3
    | .timeoutReadyXfer => 4
    | .timeoutDownload => 5
    | .timeoutVerify => 6
    | .timeoutApply => 7
  name
    | .init => "Init"
    | .activate => "Activate"
    | .cancel => "Cancel"
    | .timeoutLearn => "TimeoutLearn"
    | .timeoutReadyXfer => "TimeoutReadyXfer"
    | .timeoutDownload => "TimeoutDownload"
    | .timeoutVerify => "TimeoutVerify"
    | .timeoutApply => "TimeoutApply"
  mem_all member := by cases member <;> decide
  code_injective first second := by cases first <;> cases second <;> decide

/-- Where an item stands in a sequence. -/
inductive TransferFlag where
  | start
  | middle
  | finish
  | startAndEnd
deriving DecidableEq, Repr

instance : Coded TransferFlag where
  all := [.start, .middle, .finish, .startAndEnd]
  code
    | .start => 0x01
    | .middle => 0x02
    | .finish => 0x04
    | .startAndEnd => 0x05
  name
    | .start => "Start"
    | .middle => "Middle"
    | .finish => "End"
    | .startAndEnd => "StartAndEnd"
  mem_all member := by cases member <;> decide
  code_injective first second := by cases first <;> cases second <;> decide

namespace TransferFlag

/-- The flag of an item that is the first or not, and the last or not. -/
def ofEnds (first last : Bool) : TransferFlag :=
  match first, last with
  | true, true => startAndEnd
  | true, false => start
  | false, true => finish
  | false, false => middle

/-- The flag of the item at `index` among `count` items. -/
def forIndex (index count : Nat) : TransferFlag :=
  ofEnds (index = 0) (count ≤ index + 1)

/-- The first item. -/
def isStart : TransferFlag → Bool
  | start | startAndEnd => true
  | middle | finish => false

/-- The last item. -/
def isEnd : TransferFlag → Bool
  | finish | startAndEnd => true
  | start | middle => false

end TransferFlag

/-- Which portion a multipart request asks for. -/
inductive TransferOperation where
  | getNextPart
  | getFirstPart
deriving DecidableEq, Repr

instance : Coded TransferOperation where
  all := [.getNextPart, .getFirstPart]
  code
    | .getNextPart => 0
    | .getFirstPart => 1
  name
    | .getNextPart => "GetNextPart"
    | .getFirstPart => "GetFirstPart"
  mem_all member := by cases member <;> decide
  code_injective first second := by cases first <;> cases second <;> decide

/-- How the transfer of an image ended. -/
inductive TransferResult where
  | success
  | corrupt
  | versionMismatch
  | aborted
  | timeout
  | generic
deriving DecidableEq, Repr

instance : Coded TransferResult where
  all := [.success, .corrupt, .versionMismatch, .aborted, .timeout, .generic]
  code
    | .success => 0
    | .corrupt => 1
    | .versionMismatch => 2
    | .aborted => 3
    | .timeout => 9
    | .generic => 0xa
  name
    | .success => "Success"
    | .corrupt => "Corrupt"
    | .versionMismatch => "VersionMismatch"
    | .aborted => "Aborted"
    | .timeout => "Timeout"
    | .generic => "Generic"
  mem_all member := by cases member <;> decide
  code_injective first second := by cases first <;> cases second <;> decide

/-- How the verification of an image ended. -/
inductive VerifyResult where
  | success
  | failure
  | versionMismatch
  | failedSecurityChecks
  | incompleteImage
  | timeout
  | generic
deriving DecidableEq, Repr

instance : Coded VerifyResult where
  all := [.success, .failure, .versionMismatch, .failedSecurityChecks, .incompleteImage,
    .timeout, .generic]
  code
    | .success => 0
    | .failure => 1
    | .versionMismatch => 2
    | .failedSecurityChecks => 3
    | .incompleteImage => 4
    | .timeout => 9
    | .generic => 0xa
  name
    | .success => "Success"
    | .failure => "Failure"
    | .versionMismatch => "VersionMismatch"
    | .failedSecurityChecks => "FailedFdSecurityChecks"
    | .incompleteImage => "IncompleteImage"
    | .timeout => "Timeout"
    | .generic => "Generic"
  mem_all member := by cases member <;> decide
  code_injective first second := by cases first <;> cases second <;> decide

/-- How the application of an image ended. -/
inductive ApplyResult where
  | success
  | successModifiedActivation
  | memoryWriteError
  | timeout
  | generic
deriving DecidableEq, Repr

instance : Coded ApplyResult where
  all := [.success, .successModifiedActivation, .memoryWriteError, .timeout, .generic]
  code
    | .success => 0
    | .successModifiedActivation => 1
    | .memoryWriteError => 2
    | .timeout => 9
    | .generic => 0xa
  name
    | .success => "Success"
    | .successModifiedActivation => "SuccessModifiedActivation"
    | .memoryWriteError => "MemoryWriteError"
    | .timeout => "Timeout"
    | .generic => "Generic"
  mem_all member := by cases member <;> decide
  code_injective first second := by cases first <;> cases second <;> decide

/-- The image has been applied, with or without new activation methods. -/
def ApplyResult.isSuccess : ApplyResult → Bool
  | success | successModifiedActivation => true
  | memoryWriteError | timeout | generic => false

/-- What a device says about a component that an agent wants to update. -/
inductive ComponentAnswer where
  | canBeUpdated
  | comparisonStampIdentical
  | comparisonStampLower
  | invalidComparisonStamp
  | conflictingClassification
  | prerequisitesNotMet
  | notSupported
  | securityRestrictions
  | incompleteComponentImageSet
  | activeImageNotUpdateable
  | versionStringIdentical
  | versionStringLower
deriving DecidableEq, Repr

instance : Coded ComponentAnswer where
  all := [.canBeUpdated, .comparisonStampIdentical, .comparisonStampLower,
    .invalidComparisonStamp, .conflictingClassification, .prerequisitesNotMet, .notSupported,
    .securityRestrictions, .incompleteComponentImageSet, .activeImageNotUpdateable,
    .versionStringIdentical, .versionStringLower]
  code
    | .canBeUpdated => 0x00
    | .comparisonStampIdentical => 0x01
    | .comparisonStampLower => 0x02
    | .invalidComparisonStamp => 0x03
    | .conflictingClassification => 0x04
    | .prerequisitesNotMet => 0x05
    | .notSupported => 0x06
    | .securityRestrictions => 0x07
    | .incompleteComponentImageSet => 0x08
    | .activeImageNotUpdateable => 0x09
    | .versionStringIdentical => 0x0a
    | .versionStringLower => 0x0b
  name
    | .canBeUpdated => "CanBeUpdated"
    | .comparisonStampIdentical => "ComparisonStampIdentical"
    | .comparisonStampLower => "ComparisonStampLower"
    | .invalidComparisonStamp => "InvalidComparisonStamp"
    | .conflictingClassification => "ConflictingClassification"
    | .prerequisitesNotMet => "PrerequisitesNotMet"
    | .notSupported => "NotSupported"
    | .securityRestrictions => "SecurityRestrictions"
    | .incompleteComponentImageSet => "IncompleteComponentImageSet"
    | .activeImageNotUpdateable => "ActiveImageNotUpdateable"
    | .versionStringIdentical => "VersionStringIdentical"
    | .versionStringLower => "VersionStringLower"
  mem_all member := by cases member <;> decide
  code_injective first second := by cases first <;> cases second <;> decide

end FirmwareUpdate
