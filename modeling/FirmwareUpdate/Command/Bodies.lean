import FirmwareUpdate.Command.Codes
import FirmwareUpdate.Component.Basic
import FirmwareUpdate.Message.CompletionCode

/-!
# Message bodies

What each command and its response carry after the envelope. Every body has a
layout, which writes it, and a reader, which takes it back.
-/

namespace FirmwareUpdate

open Wire

/-- An agent asks a device to enter an update. -/
structure UpdateRequest where
  /-- The most firmware data the agent serves at once. -/
  maxTransfer : UInt32
  componentCount : UInt16
  maxOutstanding : UInt8
  /-- The length of the package data on offer; 0 for none. -/
  packageDataSize : UInt16
  version : Label
deriving DecidableEq

namespace UpdateRequest

/-- The fields of the body. -/
def layout (body : UpdateRequest) : Layout :=
  Layout.word32 body.maxTransfer ++ Layout.word16 body.componentCount ++
    Layout.byte body.maxOutstanding ++ Layout.word16 body.packageDataSize ++
    body.version.layout

/-- Reads the body. -/
def reader : Reader UpdateRequest := do
  let maxTransfer ← Reader.word32
  let componentCount ← Reader.word16
  let maxOutstanding ← Reader.byte
  let packageDataSize ← Reader.word16
  let version ← Label.adjacentReader
  pure { maxTransfer, componentCount, maxOutstanding, packageDataSize, version }

end UpdateRequest

/-- A device enters an update. -/
structure UpdateResponse where
  /-- The length of the metadata the agent should retrieve; 0 for none. -/
  metadataSize : UInt16
  /-- Not 0 if the device will pull the package data. -/
  pullsPackageData : UInt8
deriving DecidableEq, Repr

namespace UpdateResponse

/-- The fields of the body. -/
def layout (body : UpdateResponse) : Layout :=
  Layout.word16 body.metadataSize ++ Layout.byte body.pullsPackageData

/-- Reads the body. -/
def reader : Reader UpdateResponse := do
  let metadataSize ← Reader.word16
  let pullsPackageData ← Reader.byte
  pure { metadataSize, pullsPackageData }

end UpdateResponse

/-- One side of a multipart transfer asks for a portion. -/
structure PartRequest where
  handle : UInt32
  /-- The operation as received; it may be none. -/
  operationCode : UInt8
deriving DecidableEq, Repr

namespace PartRequest

/-- The request of an operation. -/
def of (operation : TransferOperation) (handle : UInt32) : PartRequest :=
  { handle, operationCode := Coded.code operation }

/-- The operation, if there is one with this code. -/
def operation? (body : PartRequest) : Option TransferOperation :=
  ofCode? body.operationCode

/-- The fields of the body. -/
def layout (body : PartRequest) : Layout :=
  Layout.word32 body.handle ++ Layout.byte body.operationCode

/-- Reads the body. -/
def reader : Reader PartRequest := do
  let handle ← Reader.word32
  let operationCode ← Reader.byte
  pure { handle, operationCode }

end PartRequest

/-- The other side of a multipart transfer sends a portion. -/
structure PartResponse where
  /-- Asks for what follows this portion. -/
  nextHandle : UInt32
  flag : TransferFlag
  portion : List UInt8
deriving DecidableEq, Repr

namespace PartResponse

/-- The bytes of the body before the portion. -/
def headerSize : Nat := 5

/-- The fields of the body. -/
def layout (body : PartResponse) : Layout :=
  Layout.word32 body.nextHandle ++ Layout.byte (Coded.code body.flag) ++
    Layout.bytes body.portion

/-- Reads the body. -/
def reader : Reader PartResponse := do
  let nextHandle ← Reader.word32
  let flag ← Reader.coded
  let portion ← Reader.rest
  pure { nextHandle, flag, portion }

end PartResponse

/-- A component of an update, as the agent announces it. Its size and options are
known once the component itself is to be updated. -/
structure ComponentRecord where
  key : ComponentKey
  stamp : UInt32
  version : Label
  size : Option UInt32 := none
  options : Option UInt32 := none
deriving DecidableEq

namespace ComponentRecord

/-- The fields of an entry of the component table, after its flag. -/
def tableLayout (record : ComponentRecord) : Layout :=
  record.key.layout ++ Layout.word32 record.stamp ++ record.version.layout

/-- Reads an entry of the component table, after its flag. -/
def tableReader : Reader ComponentRecord := do
  let key ← ComponentKey.reader
  let stamp ← Reader.word32
  let version ← Label.adjacentReader
  pure { key, stamp, version }

/-- The fields of the request to update the component. -/
def updateLayout (record : ComponentRecord) : Layout :=
  record.key.layout ++ Layout.word32 record.stamp ++
    Layout.word32 (record.size.getD 0) ++ Layout.word32 (record.options.getD 0) ++
    record.version.layout

/-- Reads the request to update the component. -/
def updateReader : Reader ComponentRecord := do
  let key ← ComponentKey.reader
  let stamp ← Reader.word32
  let size ← Reader.word32
  let options ← Reader.word32
  let version ← Label.adjacentReader
  pure { key, stamp, version, size := some size, options := some options }

end ComponentRecord

/-- The record names this component. -/
def Component.isNamedBy (component : Component) (record : ComponentRecord) : Bool :=
  component.key == record.key

/-- An entry of the component table and its place in the table. -/
structure TableEntry where
  flag : TransferFlag
  record : ComponentRecord
deriving DecidableEq

namespace TableEntry

/-- The fields of the body. -/
def layout (entry : TableEntry) : Layout :=
  Layout.byte (Coded.code entry.flag) ++ entry.record.tableLayout

/-- Reads the body. -/
def reader : Reader TableEntry := do
  let flag ← Reader.coded
  let record ← ComponentRecord.tableReader
  pure { flag, record }

end TableEntry

/-- A device's answer to an entry of the component table. -/
structure TableResponse where
  /-- 0 if the component can be updated. -/
  response : UInt8
  answerCode : UInt8
deriving DecidableEq, Repr

namespace TableResponse

/-- The response with a given answer. -/
def of (answerCode : UInt8) : TableResponse :=
  { response := if answerCode = 0 then 0 else 1, answerCode }

/-- The fields of the body. -/
def layout (body : TableResponse) : Layout :=
  Layout.byte body.response ++ Layout.byte body.answerCode

/-- Reads the body. -/
def reader : Reader TableResponse := do
  let response ← Reader.byte
  let answerCode ← Reader.byte
  pure { response, answerCode }

end TableResponse

/-- A device's answer to the request to update a component. -/
structure ComponentResponse where
  /-- 0 if the component can be updated. -/
  response : UInt8
  answerCode : UInt8
  /-- The options that the device will honour. -/
  options : UInt32
  /-- Seconds until the device starts asking for data. -/
  estimatedTime : UInt16
deriving DecidableEq, Repr

namespace ComponentResponse

/-- The fields of the body. -/
def layout (body : ComponentResponse) : Layout :=
  Layout.byte body.response ++ Layout.byte body.answerCode ++
    Layout.word32 body.options ++ Layout.word16 body.estimatedTime

/-- Reads the body. -/
def reader : Reader ComponentResponse := do
  let response ← Reader.byte
  let answerCode ← Reader.byte
  let options ← Reader.word32
  let estimatedTime ← Reader.word16
  pure { response, answerCode, options, estimatedTime }

end ComponentResponse

/-- A device asks for a piece of the image. -/
structure DataRequest where
  offset : UInt32
  length : UInt32
deriving DecidableEq, Repr

namespace DataRequest

/-- The fields of the body. -/
def layout (body : DataRequest) : Layout :=
  Layout.word32 body.offset ++ Layout.word32 body.length

/-- Reads the body. -/
def reader : Reader DataRequest := do
  let offset ← Reader.word32
  let length ← Reader.word32
  pure { offset, length }

end DataRequest

/-- A device reports the end of a transfer or of a verification. -/
structure ResultReport where
  result : UInt8
deriving DecidableEq, Repr

namespace ResultReport

/-- The fields of the body. -/
def layout (body : ResultReport) : Layout := Layout.byte body.result

/-- Reads the body. -/
def reader : Reader ResultReport := ResultReport.mk <$> Reader.byte

end ResultReport

/-- A device reports the end of an application. -/
structure ApplyReport where
  result : UInt8
  /-- The activation methods that the application has changed. -/
  methods : ActivationMethods
deriving DecidableEq

namespace ApplyReport

/-- The fields of the body. -/
def layout (body : ApplyReport) : Layout :=
  Layout.byte body.result ++ body.methods.layout

/-- Reads the body. -/
def reader : Reader ApplyReport := do
  let result ← Reader.byte
  let methods ← ActivationMethods.reader
  pure { result, methods }

end ApplyReport

/-- An agent asks a device to use the new images. -/
structure ActivationRequest where
  /-- The device should activate by itself. -/
  selfContained : Bool
deriving DecidableEq, Repr

namespace ActivationRequest

/-- The fields of the body. -/
def layout (body : ActivationRequest) : Layout :=
  Layout.byte (if body.selfContained then 1 else 0)

/-- Reads the body. -/
def reader : Reader ActivationRequest := do
  let flag ← Reader.byte
  pure { selfContained := flag != 0 }

end ActivationRequest

/-- A device activates the new images. -/
structure ActivationResponse where
  /-- Seconds that the activation takes. -/
  estimatedTime : UInt16
deriving DecidableEq, Repr

namespace ActivationResponse

/-- The fields of the body. -/
def layout (body : ActivationResponse) : Layout := Layout.word16 body.estimatedTime

/-- Reads the body. -/
def reader : Reader ActivationResponse := ActivationResponse.mk <$> Reader.word16

end ActivationResponse

/-- What a device says about itself at any time. -/
structure DeviceStatus where
  current : DeviceState
  /-- The state before the last transition. -/
  previous : DeviceState
  auxState : UInt8
  /-- The failure, if the auxiliary state is one. -/
  auxStatus : UInt8
  /-- The share of the image received, in percent; 101 if it is not reported. -/
  progress : UInt8
  reason : UInt8
  /-- The options of the running update. -/
  options : UInt32
deriving DecidableEq, Repr

namespace DeviceStatus

/-- The name of the current state. -/
def describe (status : DeviceStatus) : String := Coded.name status.current

/-- The fields of the body. -/
def layout (body : DeviceStatus) : Layout :=
  Layout.byte (Coded.code body.current) ++ Layout.byte (Coded.code body.previous) ++
    Layout.byte body.auxState ++ Layout.byte body.auxStatus ++ Layout.byte body.progress ++
    Layout.byte body.reason ++ Layout.word32 body.options

/-- Reads the body. -/
def reader : Reader DeviceStatus := do
  let current ← Reader.coded
  let previous ← Reader.coded
  let auxState ← Reader.byte
  let auxStatus ← Reader.byte
  let progress ← Reader.byte
  let reason ← Reader.byte
  let options ← Reader.word32
  pure { current, previous, auxState, auxStatus, progress, reason, options }

end DeviceStatus

/-- A device gives up an update. -/
structure CancelResponse where
  /-- Not 0 if components are left that do not work. -/
  nonFunctioning : UInt8 := 0
  /-- Those components, by their place in the component table. -/
  bitmap : UInt64 := 0
deriving DecidableEq, Repr

namespace CancelResponse

/-- The fields of the body. -/
def layout (body : CancelResponse) : Layout :=
  Layout.byte body.nonFunctioning ++ Layout.word64 body.bitmap

/-- Reads the body. -/
def reader : Reader CancelResponse := do
  let nonFunctioning ← Reader.byte
  let bitmap ← Reader.word64
  pure { nonFunctioning, bitmap }

end CancelResponse

end FirmwareUpdate
