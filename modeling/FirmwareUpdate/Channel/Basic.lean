import FirmwareUpdate.Channel.Assembler
import FirmwareUpdate.Channel.Fragment
import FirmwareUpdate.Channel.Timing

/-!
# Command channels

A channel puts its settings between a link, which moves packets, and the endpoints
above it. It checks lengths on the way out, cuts packets that are too long on the
way in and remembers that it had to, and gives every packet a deadline.
-/

namespace FirmwareUpdate

/-- A packet on its way: the address of its sender, and its contents. -/
structure Frame where
  source : UInt8
  contents : List UInt8
deriving DecidableEq, Repr

/-- A medium that moves packets, with a state of type `σ`. -/
structure Link (σ : Type) where
  /-- Hands a packet for an address to the medium. -/
  send : List UInt8 → UInt8 → σ → Except ChannelError Unit × σ
  /-- Waits for a packet. -/
  receive : Timeout → σ → Except ChannelError Frame × σ
  /-- Reads the clock. -/
  now : σ → Nat

/-- Settings of a channel. -/
structure ChannelSettings where
  id : Int := 0
  /-- The most bytes of a packet, its header included. -/
  maxPacketSize : Nat := packetCapacity
  /-- The time within which a received packet has to be processed. -/
  packetTimeout : Option Nat := none
deriving DecidableEq, Repr

/-- A channel over one link. Its packets hold a header, a type and at least one byte
of data, and fit a packet. -/
structure Channel extends ChannelSettings where
  /-- A packet was too long since the mark was last cleared. -/
  overflow : Bool := false
  size_gt : packetHeaderSize + 1 < maxPacketSize
  size_le : maxPacketSize ≤ packetCapacity
deriving DecidableEq

namespace Channel

/-- The channel with the given settings, if it can carry messages. -/
def of? (settings : ChannelSettings) : Except ChannelError Channel :=
  if bounds : packetHeaderSize + 1 < settings.maxPacketSize ∧
      settings.maxPacketSize ≤ packetCapacity then
    .ok { settings with size_gt := bounds.1, size_le := bounds.2 }
  else .error .invalidArgument

/-- The most bytes of a packet after its header. -/
def maxPayload (channel : Channel) : Nat := channel.maxPacketSize - packetHeaderSize

/-- Forgets that a packet was too long. -/
def resetOverflow (channel : Channel) : Channel := { channel with overflow := false }

/-- The printed form of a channel. -/
def describe (channel : Channel) : String :=
  "CmdChannel \x7b id: " ++ toString channel.id ++
    ", max_packet_size: " ++ toString channel.maxPacketSize ++
    ", overflow: " ++ toString channel.overflow ++ ", .. \x7d"

/-- A packet of this length may be sent. -/
def validateSize (channel : Channel) (size : Nat) : Except ChannelError Unit :=
  if size = 0 ∨ channel.maxPacketSize < size then .error .invalidPacketSize else .ok ()

/-- Sends one packet, which has to be valid and of a length that is allowed. -/
def send {σ : Type} (channel : Channel) (link : Link σ) (packet : Packet) (medium : σ) :
    Except ChannelError Unit × σ :=
  match channel.validateSize packet.data.length with
  | .error error => (.error error, medium)
  | .ok () =>
    if packet.state = .valid then link.send packet.data packet.address medium
    else (.error .invalidPacketState, medium)

/-- The bytes after each header that a message asks for, as far as they fit. -/
def roomFor (channel : Channel) (message : Message) : Nat :=
  if message.packetSize = 0 then channel.maxPayload
  else min message.packetSize channel.maxPayload

/-- The packets of a message, all of them checked. -/
def packetsOf (channel : Channel) (message : Message) (source : EndpointId) :
    Except ChannelError (List (List UInt8)) := do
  let fragments ← message.fragments? source (channel.roomFor message)
  fragments.mapM fun fragment => do
    channel.validateSize fragment.toBytes.length
    pure fragment.toBytes

/-- Sends packets until one fails. -/
def sendAll {σ : Type} (link : Link σ) (address : UInt8) :
    List (List UInt8) → σ → Except ChannelError Unit × σ
  | [], medium => (.ok (), medium)
  | packet :: rest, medium =>
    match link.send packet address medium with
    | (.error error, medium) => (.error error, medium)
    | (.ok (), medium) => sendAll link address rest medium

/-- Sends a message. No packet leaves before all have been built. -/
def sendMessage {σ : Type} (channel : Channel) (link : Link σ) (message : Message)
    (source : EndpointId) (medium : σ) : Except ChannelError Unit × σ :=
  match channel.packetsOf message source with
  | .error error => (.error error, medium)
  | .ok packets => sendAll link message.address packets medium

/-- The packet that a channel makes of a frame at a given time. -/
def packetOf (channel : Channel) (frame : Frame) (now : Nat) : Packet where
  data := frame.contents.take channel.maxPacketSize
  address := frame.source
  state := if channel.maxPacketSize < frame.contents.length then .overflow else .valid
  deadline := channel.packetTimeout.bind (instantAfter? now)
  size_le := by
    have bound := channel.size_le
    rw [List.length_take]
    omega

/-- The channel after a frame: it remembers one that was too long. -/
def noting (channel : Channel) (frame : Frame) : Channel :=
  { channel with
    overflow := channel.overflow || channel.maxPacketSize < frame.contents.length }

/-- Waits for one packet. -/
def receive {σ : Type} (channel : Channel) (link : Link σ) (timeout : Timeout) (medium : σ) :
    Except ChannelError Packet × Channel × σ :=
  match link.receive timeout medium with
  | (.error error, medium) => (.error error, channel, medium)
  | (.ok frame, medium) =>
    (.ok (channel.packetOf frame (link.now medium)), channel.noting frame, medium)

/-- Hands a packet to an assembler. A packet that cannot be processed is not looked
at, and one that was too long ends the message in progress. -/
def assemble (assembler : Assembler) (packet : Packet) (now : Nat) :
    Except ChannelError (Option Message) × Assembler :=
  match packet.check now with
  | .error .packetOverflow => (.error .packetOverflow, assembler.reset)
  | .error error => (.error error, assembler)
  | .ok () => assembler.receive packet

/-- Waits for one packet and hands it to an assembler. -/
def receiveMessage {σ : Type} (channel : Channel) (link : Link σ) (assembler : Assembler)
    (timeout : Timeout) (medium : σ) :
    Except ChannelError (Option Message) × Channel × Assembler × σ :=
  match channel.receive link timeout medium with
  | (.error error, channel, medium) => (.error error, channel, assembler, medium)
  | (.ok packet, channel, medium) =>
    let (answer, assembler) := assemble assembler packet (link.now medium)
    (answer, channel, assembler, medium)

/-- Waits for one packet, and hands a message that it completes to `dispatch`, which may
keep something of it. A refusal of the message becomes the answer. -/
def processInto {σ δ : Type} (channel : Channel) (link : Link σ) (assembler : Assembler)
    (dispatch : Message → δ → Except ChannelError Unit × δ) (timeout : Timeout) (medium : σ)
    (kept : δ) : Except ChannelError (Option Message) × Channel × Assembler × σ × δ :=
  match channel.receiveMessage link assembler timeout medium with
  | (.ok (some message), channel, assembler, medium) =>
    let (outcome, kept) := dispatch message kept
    ((fun _ => some message) <$> outcome, channel, assembler, medium, kept)
  | (answer, channel, assembler, medium) => (answer, channel, assembler, medium, kept)

/-- The same with a `dispatch` that keeps nothing. -/
def process {σ : Type} (channel : Channel) (link : Link σ) (assembler : Assembler)
    (dispatch : Message → Except ChannelError Unit) (timeout : Timeout) (medium : σ) :
    Except ChannelError (Option Message) × Channel × Assembler × σ :=
  let (answer, channel, assembler, medium, _) :=
    channel.processInto link assembler (fun message _ => (dispatch message, ())) timeout medium ()
  (answer, channel, assembler, medium)

end Channel

end FirmwareUpdate
