/-!
# Channel failures

Why a packet could not be sent, received or used.
-/

namespace FirmwareUpdate

/-- Failures inside the medium that carries packets. -/
inductive MediumFault where
  | init
  | address
  | connect
  | send
  | receive
  | select
  | timeout
  | bind
deriving DecidableEq, Repr

namespace MediumFault

/-- The name of a fault. -/
def name : MediumFault → String
  | init => "Init"
  | address => "Address"
  | connect => "Connect"
  | send => "Send"
  | receive => "Receive"
  | select => "Select"
  | timeout => "Timeout"
  | bind => "Bind"

end MediumFault

/-- Failures of a packet channel. -/
inductive ChannelError where
  | invalidArgument
  /-- A message is longer than the limit of its receiver. -/
  | noMemory
  | receiveFailed
  | sendFailed
  /-- No packet arrived in time. -/
  | receiveTimeout
  | sendTimeout
  /-- A packet is longer than the channel allows. -/
  | packetOverflow
  /-- A packet that cannot be processed now. -/
  | invalidPacketState
  /-- A packet was not processed in time. -/
  | packetExpired
  /-- A packet of a length that cannot be. -/
  | invalidPacketSize
  | medium (fault : MediumFault)
deriving DecidableEq, Repr

namespace ChannelError

/-- The description of a failure. -/
def message : ChannelError → String
  | invalidArgument => "invalid argument"
  | noMemory => "out of memory"
  | receiveFailed => "receive failed"
  | sendFailed => "send failed"
  | receiveTimeout => "receive timed out"
  | sendTimeout => "send timed out"
  | packetOverflow => "packet overflow"
  | invalidPacketState => "invalid packet state"
  | packetExpired => "packet expired"
  | invalidPacketSize => "invalid packet size"
  | medium fault => "medium failure: " ++ fault.name

end ChannelError

end FirmwareUpdate
