import FirmwareUpdate.Agent.Error
import FirmwareUpdate.Channel.Basic
import FirmwareUpdate.Message.Envelope

/-!
# Endpoints

An endpoint exchanges management messages with one peer over a channel. It numbers its
requests with tags, and skips packets that are damaged, foreign or of another type.
How many packets it looks at before it gives up is the caller's patience, so every
wait ends.
-/

namespace FirmwareUpdate

/-- A management message that has arrived. -/
structure Incoming where
  data : List UInt8
  source : EndpointId
  tag : Tag
  /-- Where an answer goes to. -/
  address : UInt8
deriving DecidableEq, Repr

namespace Incoming

/-- The message is a request. -/
def isRequest (incoming : Incoming) : Bool := FirmwareUpdate.isRequest incoming.data

/-- The message as it has come from a channel. -/
def ofMessage (message : Message) : Incoming :=
  { data := message.data
    source := message.endpoint
    tag := message.tag
    address := message.address }

end Incoming

/-- One side of a conversation with a peer. -/
structure Endpoint where
  channel : Channel
  assembler : Assembler
  own : EndpointId
  peer : EndpointId
  peerAddress : UInt8
  /-- The tag of the next request. -/
  nextTag : UInt8 := 0
deriving DecidableEq

namespace Endpoint

/-- The endpoint `own` of a channel that leads to `peer`. -/
def of (channel : Channel) (own peer : EndpointId) (peerAddress : UInt8) : Endpoint :=
  { channel, assembler := { own }, own, peer, peerAddress }

variable {σ : Type}

/-- Sends a request to some endpoint at the peer's address. Returns its tag. -/
def sendRequestTo (endpoint : Endpoint) (link : Link σ) (destination : EndpointId)
    (data : List UInt8) (medium : σ) : Except UpdateError Tag × Endpoint × σ :=
  let tag : Tag := { number := endpoint.nextTag, owned := true }
  let message : Message :=
    { data
      address := endpoint.peerAddress
      endpoint := destination
      typ := managementType
      tag }
  let endpoint := { endpoint with nextTag := (endpoint.nextTag + 1) &&& maxTag }
  match endpoint.channel.sendMessage link message endpoint.own medium with
  | (.error error, medium) => (.error (.channel error), endpoint, medium)
  | (.ok (), medium) => (.ok tag, endpoint, medium)

/-- Sends a request to the peer. -/
def sendRequest (endpoint : Endpoint) (link : Link σ) (data : List UInt8) (medium : σ) :
    Except UpdateError Tag × Endpoint × σ :=
  endpoint.sendRequestTo link endpoint.peer data medium

/-- Answers a request that has arrived. -/
def sendResponse (endpoint : Endpoint) (link : Link σ) (request : Incoming)
    (data : List UInt8) (medium : σ) : Except UpdateError Unit × σ :=
  let message : Message :=
    { data
      address := request.address
      endpoint := request.source
      typ := managementType
      tag := request.tag.reply }
  match endpoint.channel.sendMessage link message endpoint.own medium with
  | (.error error, medium) => (.error (.channel error), medium)
  | (.ok (), medium) => (.ok (), medium)

/-- What one packet comes to: a message, a failure of the link, or nothing, and then
the wait goes on. -/
def outcomeOf : Except ChannelError (Option Message) → Option (Except UpdateError Incoming)
  | .ok (some message) =>
    if message.typ = managementType then some (.ok (.ofMessage message)) else none
  | .ok none => none
  | .error .receiveFailed => some (.error (.channel .receiveFailed))
  | .error (.medium fault) => some (.error (.channel (.medium fault)))
  | .error _ => none

/-- Waits for a message until the deadline, and for `patience` packets at most. -/
def receiveUntil (link : Link σ) :
    (patience : Nat) → Deadline → Endpoint → σ → Except UpdateError Incoming × Endpoint × σ
  | 0, _, endpoint, medium => (.error (.channel .receiveTimeout), endpoint, medium)
  | patience + 1, deadline, endpoint, medium =>
    match deadline.remaining (link.now medium) with
    | (none, _) => (.error (.channel .receiveTimeout), endpoint, medium)
    | (some timeout, deadline) =>
      match endpoint.channel.receiveMessage link endpoint.assembler timeout medium with
      | (answer, channel, assembler, medium) =>
        let endpoint := { endpoint with channel, assembler }
        match outcomeOf answer with
        | some outcome => (outcome, endpoint, medium)
        | none => receiveUntil link patience deadline endpoint medium

/-- Waits for a message. -/
def receive (endpoint : Endpoint) (link : Link σ) (patience : Nat) (timeout : Timeout)
    (medium : σ) : Except UpdateError Incoming × Endpoint × σ :=
  receiveUntil link patience (timeout.start (link.now medium)) endpoint medium

end Endpoint

end FirmwareUpdate
