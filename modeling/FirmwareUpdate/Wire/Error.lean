import FirmwareUpdate.Wire.Hex

/-!
# Codec failures

Why a message could not be read or written. Each constructor is a cause; the
printed form is given once, by `CodecError.message`.
-/

namespace FirmwareUpdate.Wire

/-- Ways a well formed message can break the rules of the exchange it belongs to. -/
inductive ProtocolFault where
  /-- A response from an endpoint that does not own the running update. -/
  | foreignEndpoint (endpoint : UInt8)
  /-- A response to a command that devices never issue. -/
  | unsupportedResponse
  /-- A response that answers nothing this device has asked. -/
  | unmatchedResponse
deriving DecidableEq, Repr

namespace ProtocolFault

/-- The description of a fault. -/
def message : ProtocolFault → String
  | foreignEndpoint endpoint => "Response from unexpected EID: " ++ toString endpoint.toNat
  | unsupportedResponse => "Unsupported PLDM response"
  | unmatchedResponse => "Unexpected pldm-fw response"

end ProtocolFault

/-- Failures of reading and writing messages. -/
inductive CodecError where
  /-- The message is well formed, but not allowed here. -/
  | protocol (fault : ProtocolFault)
  /-- The input ended before the structure called `what` was complete. -/
  | truncated (what : String)
  /-- The input is no structure called `what`, or continues after it. -/
  | malformed (what : String)
  /-- The encoding is longer than its buffer. -/
  | noSpace
  /-- The value has no encoding. -/
  | invalidArgument
deriving DecidableEq, Repr

namespace CodecError

/-- The description of a codec failure. -/
def message : CodecError → String
  | protocol fault => "PLDM protocol error: " ++ fault.message
  | truncated what => "Truncated PLDM " ++ what
  | malformed what => "Malformed PLDM " ++ what
  | noSpace => "No space in message buffer"
  | invalidArgument => "Invalid argument"

end CodecError

end FirmwareUpdate.Wire
