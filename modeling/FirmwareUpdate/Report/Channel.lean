import FirmwareUpdate.Channel.Stream
import FirmwareUpdate.Report.Failure
import FirmwareUpdate.Run.Endpoint

/-!
# Reports of packets and messages

What moves through a channel, and the settings of the channel itself.
-/

namespace FirmwareUpdate

open Report (entry)

instance : Reported EndpointId := ⟨fun endpoint => report endpoint.byte⟩

instance : Reported Tag := ⟨fun tag => .text tag.describe⟩

/-- Spans are shown in decimal, as texts. -/
instance : Reported Timeout :=
  ⟨fun timeout =>
    match timeout with
    | .forever => .text "Forever"
    | .poll => .text "Poll"
    | .after span => .record [entry "after_us" (toString span)]⟩

namespace PacketState

/-- All packet states. -/
def all : List PacketState := [valid, overflow, nack, noResponse, receiveError]

/-- The name of a packet state. -/
def name : PacketState → String
  | valid => "Valid"
  | overflow => "Overflow"
  | nack => "Nack"
  | noResponse => "NoResponse"
  | receiveError => "RxError"

end PacketState

instance : Reported PacketState := ⟨fun state => .text state.name⟩

/-- What a report says about a packet at a given time. -/
def Packet.entries (packet : Packet) (now : Nat) : List (String × Report) :=
  [entry "data" packet.data, entry "addr" packet.address,
    entry "has_deadline" packet.deadline.isSome, entry "check" (packet.check now)]

instance : Reported Message :=
  ⟨fun message => .record
    [entry "data" message.data, entry "addr" message.address,
      entry "pkt_size" message.packetSize, entry "eid" message.endpoint,
      entry "typ" message.typ, entry "tag" message.tag]⟩

instance : Reported Incoming :=
  ⟨fun incoming => .record
    [entry "data" incoming.data, entry "eid" incoming.source, entry "tag" incoming.tag,
      entry "addr" incoming.address, entry "is_request" incoming.isRequest]⟩

instance : Reported ChannelSettings :=
  ⟨fun settings => .record
    [entry "id" settings.id, entry "max_packet_size" settings.maxPacketSize,
      entry "packet_timeout" settings.packetTimeout.isSome]⟩

/-- What a report says about a channel at an address. -/
def Channel.entries (channel : Channel) (address : UInt8) : List (String × Report) :=
  [entry "id" channel.id, entry "max_packet_size" channel.maxPacketSize,
    entry "max_payload" channel.maxPayload, entry "addr" address,
    entry "debug" channel.describe]

end FirmwareUpdate
