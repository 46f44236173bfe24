import FirmwareUpdate.Command.Bodies

/-!
# Multipart transfers

Package data and device metadata move in portions. The requester asks for the first
portion and then for the one whose handle it was told; a handle is the offset of
the portion it names. `Transfer` follows one flow from either end: `serve` answers
a request, and `accept` takes an answer.
-/

namespace FirmwareUpdate

open Wire

/-- What a transfer moves. -/
inductive TransferKind where
  /-- Package data, on its way to the device. -/
  | packageData
  /-- Device metadata, on its way to the agent. -/
  | deviceMetaData
deriving DecidableEq, Repr

namespace TransferKind

/-- The name of a flow. -/
def name : TransferKind → String
  | packageData => "PackageData"
  | deviceMetaData => "DeviceMetaData"

/-- The command that asks for a portion. -/
def command : TransferKind → Command
  | packageData => .getPackageData
  | deviceMetaData => .getDeviceMetaData

/-- The code that says that there is nothing to move. -/
def noDataCode : TransferKind → UpdateCode
  | packageData => .noPackageData
  | deviceMetaData => .noDeviceMetadata

end TransferKind

/-- Failures of a transfer. -/
inductive TransferError where
  | noDataAvailable (kind : TransferKind)
  /-- The first portion while a transfer runs, a next one while none does, or an
  operation that does not exist. -/
  | invalidOperation
  /-- A handle that does not continue the transfer. -/
  | invalidHandle (got expected : UInt32)
  /-- A flag that cannot follow. -/
  | unexpectedFlag (flag : TransferFlag)
  /-- Data that do not add up to the size that was announced. -/
  | lengthMismatch (expected got : Nat)
deriving DecidableEq, Repr

namespace TransferError

/-- The description of a failure. -/
def message : TransferError → String
  | noDataAvailable kind => "No " ++ kind.name ++ " available"
  | invalidOperation => "Invalid transfer operation flag"
  | invalidHandle got expected =>
    "Invalid data transfer handle " ++ toString got.toNat ++ ", expected " ++
      toString expected.toNat
  | unexpectedFlag flag => "Unexpected transfer flag " ++ Coded.name flag
  | lengthMismatch expected got =>
    "Transfer length mismatch, expected " ++ toString expected ++ " got " ++ toString got

/-- The code that reports a failure to the peer. -/
def completionCode : TransferError → CompletionCode
  | noDataAvailable kind => kind.noDataCode
  | invalidOperation => UpdateCode.invalidTransferOperationFlag
  | invalidHandle _ _ => UpdateCode.invalidTransferHandle
  | unexpectedFlag _ => BaseCode.invalidData
  | lengthMismatch _ _ => UpdateCode.invalidTransferLength

end TransferError

/-- How far a transfer has come. -/
structure Transfer where
  kind : TransferKind
  /-- The bytes to move. -/
  totalSize : Nat := 0
  /-- The handle of the next portion. -/
  handle : UInt32 := 0
  /-- The first portion has moved and the last has not. -/
  inProgress : Bool := false
deriving DecidableEq, Repr

namespace Transfer

/-- All data have moved. -/
def isComplete (transfer : Transfer) : Bool :=
  !transfer.inProgress && 0 < transfer.totalSize &&
    transfer.handle.toNat == transfer.totalSize

/-- Back to the beginning; the size stays as it is. -/
def reset (transfer : Transfer) : Transfer :=
  { transfer with handle := 0, inProgress := false }

/-- The next request of a requester. -/
def nextRequest (transfer : Transfer) : PartRequest :=
  if transfer.inProgress then .of .getNextPart transfer.handle else .of .getFirstPart 0

/-- Where the portion of a response belongs: at the start for the first portion and
at the handle for the others. Any other flag is out of sequence. -/
def offsetOf (transfer : Transfer) (flag : TransferFlag) : Except TransferError Nat :=
  if flag.isStart = transfer.inProgress then .error (.unexpectedFlag flag)
  else .ok (if transfer.inProgress then transfer.handle.toNat else 0)

/-- A requester takes a response: its portion goes into `output` at its offset, and
what was behind is dropped. Returns the transfer and the output. -/
def accept (transfer : Transfer) (response : PartResponse) (output : List UInt8) :
    Except TransferError (Transfer × List UInt8) := do
  let offset ← transfer.offsetOf response.flag
  let reached := offset + response.portion.length
  if output.length < offset then
    .error (.invalidHandle transfer.handle (UInt32.ofNat output.length))
  else if transfer.totalSize < reached ∨
      (response.flag.isEnd = true ∧ reached ≠ transfer.totalSize) then
    .error (.lengthMismatch transfer.totalSize reached)
  else
    .ok ({ transfer with handle := response.nextHandle, inProgress := !response.flag.isEnd },
      output.take offset ++ response.portion)

/-- The transfer that a request finds or begins. A first request may carry any
handle, a next one only the handle of the next portion. -/
def opened (transfer : Transfer) (request : PartRequest) (sourceSize : Nat) :
    Except TransferError Transfer :=
  match request.operation? with
  | some .getFirstPart =>
    if transfer.inProgress then .error .invalidOperation
    else .ok { transfer with handle := 0, totalSize := sourceSize }
  | some .getNextPart =>
    if transfer.inProgress then
      if request.handle = transfer.handle then .ok transfer
      else .error (.invalidHandle request.handle transfer.handle)
    else .error .invalidOperation
  | none => .error .invalidOperation

/-- The portion of `source` at the handle, and the transfer after it. A source that
has shrunk below the handle ends the transfer. -/
def servePortion (transfer : Transfer) (request : PartRequest) (source : List UInt8)
    (portionSize : Nat) : Except TransferError PartResponse × Transfer :=
  let total := min transfer.totalSize source.length
  let start := transfer.handle.toNat
  if total ≤ start then
    (.error (.invalidHandle request.handle transfer.handle),
      { transfer with inProgress := false })
  else
    let reached := start + min (max portionSize 1) (total - start)
    if reached < UInt32.size then
      (.ok
        { nextHandle := UInt32.ofNat reached
          flag := .ofEnds (start = 0) (reached = total)
          portion := (source.drop start).take (reached - start) },
        { transfer with handle := UInt32.ofNat reached, inProgress := reached ≠ total })
    else (.error (.lengthMismatch total reached), transfer)

/-- A responder answers a request with a portion of `source`, of `portionSize` bytes
at most and one at least. -/
def serve (transfer : Transfer) (request : PartRequest) (source : List UInt8)
    (portionSize : Nat) : Except TransferError PartResponse × Transfer :=
  if source.isEmpty then (.error (.noDataAvailable transfer.kind), transfer)
  else
    match transfer.opened request source.length with
    | .error error => (.error error, transfer)
    | .ok ready => ready.servePortion request source portionSize

end Transfer

end FirmwareUpdate
