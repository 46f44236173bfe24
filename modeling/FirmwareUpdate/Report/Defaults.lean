import FirmwareUpdate.Report.Update

/-!
# Defaults

The limits of the protocol, and the settings that hold unless others are given.
-/

namespace FirmwareUpdate

open Report (entry)
open Wire

/-- The codes with which the kinds of codec failures are reported to a peer. -/
def codecErrorCodes : List UInt8 :=
  [CodecError.truncated "", .malformed "", .noSpace, .invalidArgument,
    .protocol .unsupportedResponse].map fun error => (CompletionCode.ofCodecError error).byte

/-- All limits and defaults. -/
def Report.defaults : Report :=
  .record
    [entry "baseline" baselineTransfer, entry "max_msgsize" maxMessageSize,
      entry "packet_capacity" packetCapacity, entry "fd_t1" Responder.silenceLimit,
      entry "max_message" ({} : Responder).maxMessage, entry "channel" ({} : ChannelSettings),
      entry "session" ({} : AgentSettings), entry "version" ({} : Version),
      entry "image" (ComponentImage.firmware 7 "1.0" []),
      entry "command_errors" (codecErrorCodes.map report)]

end FirmwareUpdate
