import FirmwareUpdate.Channel.Recorder
import FirmwareUpdate.Run.Endpoint

/-!
# What a link is handed

A link can keep the packets that it is handed. A message that an endpoint sends is handed over
packet by packet until the link refuses one; whoever receives hands over nothing. A request goes to
the peer under the next tag (`Endpoint.asking`), and an answer to where its request has come from,
under the tag of the request (`Incoming.answeredBy`).
-/

namespace FirmwareUpdate

/-- The link keeps what it is handed: the contents of each packet, and where it goes to. -/
structure Link.Keeps {σ : Type} (link : Link σ) (handed : σ → List (List UInt8 × UInt8)) :
    Prop where
  sent : ∀ contents address medium,
    handed (link.send contents address medium).2 = handed medium ++ [(contents, address)]
  received : ∀ timeout medium, handed (link.receive timeout medium).2 = handed medium

/-- The message with the next request of an endpoint. -/
def Endpoint.asking (endpoint : Endpoint) (data : List UInt8) : Message where
  data
  address := endpoint.peerAddress
  endpoint := endpoint.peer
  typ := managementType
  tag := { number := endpoint.nextTag, owned := true }

/-- The endpoint after a request: the tag is used up. -/
def Endpoint.asked (endpoint : Endpoint) : Endpoint :=
  { endpoint with nextTag := (endpoint.nextTag + 1) &&& maxTag }

/-- The message that answers a request. -/
def Incoming.answeredBy (request : Incoming) (data : List UInt8) : Message where
  data
  address := request.address
  endpoint := request.source
  typ := managementType
  tag := request.tag.reply

/-- The packets are those of the message, up to one that is refused, and each is for the address of
the message. A message that does not fit the channel has none. -/
def Channel.Hands (channel : Channel) (source : EndpointId) (message : Message)
    (packets : List (List UInt8 × UInt8)) : Prop :=
  match channel.packetsOf message source with
  | .error _ => packets = []
  | .ok all => packets <+: all.map (·, message.address)

/-- Only the size of its packets matters about a channel. -/
theorem Channel.Hands.congr {channel other : Channel} {source : EndpointId} {message : Message}
    {packets : List (List UInt8 × UInt8)} (hands : channel.Hands source message packets)
    (same : channel.maxPacketSize = other.maxPacketSize) : other.Hands source message packets := by
  have alike : channel.packetsOf = other.packetsOf := by
    unfold packetsOf validateSize roomFor maxPayload
    rw [same]
  unfold Hands at hands ⊢
  rwa [← alike]

namespace Link.Keeps

variable {σ : Type} {link : Link σ} {handed : σ → List (List UInt8 × UInt8)}
  (keeps : link.Keeps handed)

include keeps

theorem sendAll (address : UInt8) (packets : List (List UInt8)) (medium : σ) :
    ∃ taken, taken <+: packets.map (·, address) ∧
      handed (Channel.sendAll link address packets medium).2 = handed medium ++ taken := by
  induction packets generalizing medium with
  | nil => exact ⟨[], List.nil_prefix, (List.append_nil _).symm⟩
  | cons packet rest ih =>
      have first := keeps.sent packet address medium
      unfold Channel.sendAll
      cases sent : link.send packet address medium with
      | mk outcome after =>
          rw [sent] at first
          cases outcome with
          | error error => exact ⟨[(packet, address)], ⟨_, rfl⟩, first⟩
          | ok done =>
              obtain ⟨taken, early, further⟩ := ih after
              refine ⟨(packet, address) :: taken, List.cons_prefix_cons.mpr ⟨rfl, early⟩, ?_⟩
              rw [List.append_cons, ← first]
              exact further

/-- Packets of a message are handed over until the link refuses one. -/
theorem sendMessage (channel : Channel) (message : Message) (source : EndpointId) (medium : σ) :
    ∃ packets, channel.Hands source message packets ∧
      handed (channel.sendMessage link message source medium).2 = handed medium ++ packets := by
  unfold Channel.sendMessage Channel.Hands
  cases channel.packetsOf message source with
  | error error => exact ⟨[], rfl, (List.append_nil _).symm⟩
  | ok all => exact keeps.sendAll message.address all medium

/-- A request goes to the peer, under the next tag, and uses that up. -/
theorem sendRequest (endpoint : Endpoint) (request : List UInt8) (medium : σ) :
    let sent := endpoint.sendRequest link request medium
    sent.2.1 = endpoint.asked ∧
    ∃ packets, endpoint.channel.Hands endpoint.own (endpoint.asking request) packets ∧
      handed sent.2.2 = handed medium ++ packets := by
  have hands := keeps.sendMessage endpoint.channel (endpoint.asking request) endpoint.own medium
  unfold Endpoint.asking at hands
  unfold Endpoint.sendRequest Endpoint.sendRequestTo
  dsimp only
  split <;> rename_i sent
  all_goals
    rw [sent] at hands
    exact ⟨rfl, hands⟩

/-- An answer goes to where the request has come from, under its tag. -/
theorem sendResponse (endpoint : Endpoint) (request : Incoming) (response : List UInt8)
    (medium : σ) :
    ∃ packets, endpoint.channel.Hands endpoint.own (request.answeredBy response) packets ∧
      handed (endpoint.sendResponse link request response medium).2 =
        handed medium ++ packets := by
  have hands := keeps.sendMessage endpoint.channel (request.answeredBy response) endpoint.own medium
  unfold Incoming.answeredBy at hands
  unfold Endpoint.sendResponse
  dsimp only
  split <;> rename_i sent
  all_goals
    rw [sent] at hands
    exact hands

/-- Whoever waits for a message hands over nothing, and stays who he is. -/
theorem receiveUntil (patience : Nat) (deadline : Deadline) (endpoint : Endpoint) (medium : σ) :
    let received := Endpoint.receiveUntil link patience deadline endpoint medium
    (∃ channel assembler, received.2.1 = { endpoint with channel, assembler } ∧
        channel.maxPacketSize = endpoint.channel.maxPacketSize) ∧
      handed received.2.2 = handed medium := by
  induction patience generalizing deadline endpoint medium with
  | zero => exact ⟨⟨_, _, rfl, rfl⟩, rfl⟩
  | succ patience ih =>
      have kept (timeout : Timeout) :
          let received := endpoint.channel.receiveMessage link endpoint.assembler timeout medium
          received.2.1.maxPacketSize = endpoint.channel.maxPacketSize ∧
            handed received.2.2.2 = handed medium := by
        have same := keeps.received timeout medium
        unfold Channel.receiveMessage Channel.receive
        cases arrived : link.receive timeout medium with
        | mk arrival after =>
            rw [arrived] at same
            cases arrival <;> exact ⟨rfl, same⟩
      unfold Endpoint.receiveUntil
      split
      · exact ⟨⟨_, _, rfl, rfl⟩, rfl⟩
      · rename_i timeout deadline _
        have kept := kept timeout
        cases arrived : endpoint.channel.receiveMessage link endpoint.assembler timeout medium with
        | mk answer rest =>
            obtain ⟨channel, assembler, after⟩ := rest
            rw [arrived] at kept
            obtain ⟨size, same⟩ := kept
            dsimp only at size same ⊢
            split
            · exact ⟨⟨_, _, rfl, size⟩, same⟩
            · obtain ⟨⟨last, lastAssembler, stays, further⟩, later⟩ :=
                ih deadline { endpoint with channel, assembler } after
              exact ⟨⟨last, lastAssembler, stays, further.trans size⟩, later.trans same⟩

end Link.Keeps

/-- A recorder keeps the packets that were sent, the last one first. -/
theorem Recorder.link_keeps : link.Keeps fun recorder => recorder.sent.reverse where
  sent contents address recorder := List.reverse_cons
  received timeout recorder := by
    obtain ⟨inbox, sent⟩ := recorder
    cases inbox <;> rfl

end FirmwareUpdate
