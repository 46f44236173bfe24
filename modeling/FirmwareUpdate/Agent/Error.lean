import FirmwareUpdate.Agent.Plan
import FirmwareUpdate.Channel.Error
import FirmwareUpdate.Transfer.Basic

/-!
# Update failures

The states of an update agent, the commands it can issue, and everything that can
make an update fail.
-/

namespace FirmwareUpdate

open Wire

/-- The states of an update agent: its view of the device, and `aborted` after the
device or a local limit has ended the update. -/
inductive AgentState where
  | idle
  | learnComponents
  | readyXfer
  | download
  | verify
  | apply
  | activate
  | aborted
deriving DecidableEq, Repr

namespace AgentState

/-- The name of a state. -/
def name : AgentState → String
  | idle => "Idle"
  | learnComponents => "LearnComponents"
  | readyXfer => "ReadyXfer"
  | download => "Download"
  | verify => "Verify"
  | apply => "Apply"
  | activate => "Activate"
  | aborted => "Aborted"

/-- A component is being updated. -/
def isUpdating : AgentState → Bool
  | download | verify | apply => true
  | idle | learnComponents | readyXfer | activate | aborted => false

end AgentState

/-- The commands that an update agent issues. -/
inductive AgentCommand where
  | queryDeviceIdentifiers
  | getFirmwareParameters
  | requestUpdate
  | getDeviceMetaData
  | passComponentTable
  | updateComponent
  | activateFirmware
  | getStatus
  | cancelUpdateComponent
  | cancelUpdate
deriving DecidableEq, Repr

namespace AgentCommand

/-- All commands of an agent. -/
def all : List AgentCommand :=
  [queryDeviceIdentifiers, getFirmwareParameters, requestUpdate, getDeviceMetaData,
    passComponentTable, updateComponent, activateFirmware, getStatus, cancelUpdateComponent,
    cancelUpdate]

/-- The command on the wire. -/
def command : AgentCommand → Command
  | queryDeviceIdentifiers => .queryDeviceIdentifiers
  | getFirmwareParameters => .getFirmwareParameters
  | requestUpdate => .requestUpdate
  | getDeviceMetaData => .getDeviceMetaData
  | passComponentTable => .passComponentTable
  | updateComponent => .updateComponent
  | activateFirmware => .activateFirmware
  | getStatus => .getStatus
  | cancelUpdateComponent => .cancelUpdateComponent
  | cancelUpdate => .cancelUpdate

/-- The code of the command. -/
def code (command : AgentCommand) : UInt8 := Coded.code command.command

/-- The name of the command. -/
def name (command : AgentCommand) : String := Coded.name command.command

end AgentCommand

/-- A response that cannot be used. -/
inductive UnexpectedResponse where
  /-- Nothing has been asked. -/
  | nothingOutstanding (cmd iid : UInt8)
  /-- Something else has been asked. -/
  | mismatch (typ cmd iid : UInt8) (expected : AgentCommand) (expectedIid : UInt8)
deriving DecidableEq, Repr

namespace UnexpectedResponse

/-- The description of a response that cannot be used. -/
def message : UnexpectedResponse → String
  | nothingOutstanding cmd iid =>
    "0x" ++ hexByte cmd ++ " iid " ++ toString iid.toNat ++ " with no request outstanding"
  | mismatch typ cmd iid expected expectedIid =>
    "type " ++ toString typ.toNat ++ " cmd 0x" ++ hexByte cmd ++ " iid " ++
      toString iid.toNat ++ ", expected " ++ expected.name ++ " iid " ++
      toString expectedIid.toNat

end UnexpectedResponse

/-- Failures of an update. -/
inductive UpdateError where
  | channel (error : ChannelError)
  | codec (error : CodecError)
  | transfer (error : TransferError)
  /-- The peer ended a command with an error. -/
  | refused (command : Command) (cc : CompletionCode)
  /-- A command that has no place in the current state. -/
  | invalidState (state : AgentState)
  | unexpectedResponse (response : UnexpectedResponse)
  /-- The device refuses to be updated. -/
  | aborted (cc : CompletionCode)
  /-- Device metadata that are longer than the settings allow. -/
  | metadataTooLarge (size limit : Nat)
  /-- No component took its image. -/
  | nothingUpdated
  | invalidArgument (fault : PlanFault)
deriving DecidableEq, Repr

namespace UpdateError

/-- The description of a failure. -/
def message : UpdateError → String
  | channel error => "Channel error: " ++ error.message
  | codec error => "PLDM error: " ++ error.message
  | transfer error => "Transfer error: " ++ error.message
  | refused command cc => Coded.name command ++ " failed: " ++ cc.describe
  | invalidState state => "Command not valid in state " ++ state.name
  | unexpectedResponse response => "Unexpected response: " ++ response.message
  | aborted cc => "Update aborted: " ++ cc.describe
  | metadataTooLarge size limit =>
    "Resource error: device metadata of " ++ toString size ++ " bytes exceeds limit " ++
      toString limit
  | nothingUpdated => "No components were updated"
  | invalidArgument fault => "Invalid argument: " ++ fault.message

end UpdateError

end FirmwareUpdate
