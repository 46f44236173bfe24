import FirmwareUpdate.Agent.Error
import FirmwareUpdate.Report.Basic

/-!
# Reports of failures

Every failure has a kind, which tools can tell apart without reading its description.
A failure of an update that was caused by another has the kind of its cause.
-/

namespace FirmwareUpdate

open Report (entry)
open Wire

/-- The kind of a codec failure. -/
def Wire.CodecError.kind : CodecError → String
  | protocol _ => "Pldm.Protocol"
  | truncated _ => "Pldm.Truncated"
  | malformed _ => "Pldm.Malformed"
  | noSpace => "Pldm.NoSpace"
  | invalidArgument => "Pldm.InvalidArgument"

/-- The kind of a channel failure. -/
def ChannelError.kind : ChannelError → String
  | invalidArgument => "Channel.InvalidArgument"
  | noMemory => "Channel.NoMemory"
  | receiveFailed => "Channel.RxFailed"
  | sendFailed => "Channel.TxFailed"
  | receiveTimeout => "Channel.RxTimeout"
  | sendTimeout => "Channel.TxTimeout"
  | packetOverflow => "Channel.PacketOverflow"
  | invalidPacketState => "Channel.InvalidPacketState"
  | packetExpired => "Channel.PacketExpired"
  | invalidPacketSize => "Channel.InvalidPacketSize"
  | medium fault => "Channel.Medium(" ++ fault.name ++ ")"

/-- The kind of a transfer failure. -/
def TransferError.kind : TransferError → String
  | noDataAvailable _ => "Transfer.NoDataAvailable"
  | invalidOperation => "Transfer.InvalidTransferOperationFlag"
  | invalidHandle _ _ => "Transfer.InvalidDataTransferHandle"
  | unexpectedFlag _ => "Transfer.UnexpectedTransferFlag"
  | lengthMismatch _ _ => "Transfer.LengthMismatch"

/-- The kind of an update failure. -/
def UpdateError.kind : UpdateError → String
  | channel error => error.kind
  | codec error => error.kind
  | transfer error => error.kind
  | refused _ _ => "Command"
  | invalidState _ => "InvalidState"
  | unexpectedResponse _ => "UnexpectedResponse"
  | aborted _ => "Aborted"
  | metadataTooLarge _ _ => "Resource"
  | nothingUpdated => "NothingUpdated"
  | invalidArgument _ => "InvalidArgument"

instance : Reported CodecError := ⟨fun error => .failure error.kind error.message⟩

instance : Reported ChannelError := ⟨fun error => .failure error.kind error.message⟩

/-- A transfer failure is shown with the code that its peer is sent. -/
instance : Reported TransferError :=
  ⟨fun error => (Report.failure error.kind error.message).extend
    [entry "cc" error.completionCode.byte]⟩

instance : Reported UpdateError := ⟨fun error => .failure error.kind error.message⟩

end FirmwareUpdate
