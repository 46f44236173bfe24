import FirmwareUpdate.Channel.Recorder
import FirmwareUpdate.Run.Endpoint

/-!
# Links that run dry

A link whose packets come to an end has a measure that every packet lowers. Whoever waits on it
for a message and gets one has used up some of it, however many packets were skipped.
-/

namespace FirmwareUpdate

/-- A measure of what a link can still deliver: every packet that arrives lowers it. -/
structure Link.Supplied {σ : Type} (link : Link σ) (supply : σ → Nat) : Prop where
  received : ∀ timeout medium frame after, link.receive timeout medium = (.ok frame, after) →
    supply after < supply medium
  missed : ∀ timeout medium error after, link.receive timeout medium = (.error error, after) →
    supply after ≤ supply medium
  sent : ∀ contents address medium, supply (link.send contents address medium).2 ≤ supply medium

namespace Link.Supplied

variable {σ : Type} {link : Link σ} {supply : σ → Nat} (supplied : link.Supplied supply)

include supplied

/-- Sending packets takes nothing from the supply. -/
theorem sendAll (address : UInt8) (packets : List (List UInt8)) (medium : σ) :
    supply (Channel.sendAll link address packets medium).2 ≤ supply medium := by
  induction packets generalizing medium with
  | nil => exact Nat.le_refl _
  | cons packet rest ih =>
      have first := supplied.sent packet address medium
      unfold Channel.sendAll
      cases handed : link.send packet address medium with
      | mk sent after =>
          rw [handed] at first
          cases sent with
          | error error => exact first
          | ok done => exact Nat.le_trans (ih after) first

/-- Sending a message takes nothing from the supply. -/
theorem sendMessage (channel : Channel) (message : Message) (source : EndpointId) (medium : σ) :
    supply (channel.sendMessage link message source medium).2 ≤ supply medium := by
  unfold Channel.sendMessage
  split
  · exact Nat.le_refl _
  · exact supplied.sendAll ..

/-- Sending a request takes nothing from the supply. -/
theorem sendRequest (endpoint : Endpoint) (request : List UInt8) (medium : σ) :
    supply (endpoint.sendRequest link request medium).2.2 ≤ supply medium := by
  unfold Endpoint.sendRequest Endpoint.sendRequestTo
  dsimp only
  split <;> rename_i sent
  all_goals
    have kept := congrArg (supply ·.2) sent
    exact kept ▸ supplied.sendMessage ..

/-- Sending a response takes nothing from the supply. -/
theorem sendResponse (endpoint : Endpoint) (request : Incoming) (response : List UInt8)
    (medium : σ) :
    supply (endpoint.sendResponse link request response medium).2 ≤ supply medium := by
  unfold Endpoint.sendResponse
  dsimp only
  split <;> rename_i sent
  all_goals
    have kept := congrArg (supply ·.2) sent
    exact kept ▸ supplied.sendMessage ..

/-- A packet that arrives has been used up, whatever it comes to. -/
theorem receiveMessage (channel : Channel) (assembler : Assembler) (timeout : Timeout)
    (medium : σ) :
    supply (channel.receiveMessage link assembler timeout medium).2.2.2 ≤ supply medium ∧
      ∀ message, (channel.receiveMessage link assembler timeout medium).1 = .ok message →
        supply (channel.receiveMessage link assembler timeout medium).2.2.2 < supply medium := by
  unfold Channel.receiveMessage Channel.receive
  cases arrived : link.receive timeout medium with
  | mk arrival after =>
      cases arrival with
      | error error => exact ⟨supplied.missed _ _ _ _ arrived, nofun⟩
      | ok frame =>
          have less := supplied.received _ _ _ _ arrived
          exact ⟨Nat.le_of_lt less, fun _ _ => less⟩

/-- A message that arrives has used up packets. -/
theorem receiveUntil (patience : Nat) (deadline : Deadline) (endpoint : Endpoint) (medium : σ) :
    supply (Endpoint.receiveUntil link patience deadline endpoint medium).2.2 ≤ supply medium ∧
      ∀ message, (Endpoint.receiveUntil link patience deadline endpoint medium).1 = .ok message →
        supply (Endpoint.receiveUntil link patience deadline endpoint medium).2.2 <
          supply medium := by
  induction patience generalizing deadline endpoint medium with
  | zero => exact ⟨Nat.le_refl _, nofun⟩
  | succ patience ih =>
      unfold Endpoint.receiveUntil
      cases deadline.remaining (link.now medium) with
      | mk left deadline =>
          cases left with
          | none => exact ⟨Nat.le_refl _, nofun⟩
          | some timeout =>
              dsimp only
              have used := supplied.receiveMessage endpoint.channel endpoint.assembler timeout medium
              cases arrived : endpoint.channel.receiveMessage link endpoint.assembler timeout
                medium with
              | mk answer rest =>
                  obtain ⟨channel, assembler, after⟩ := rest
                  rw [arrived] at used
                  obtain ⟨kept, less⟩ := used
                  dsimp only at kept less ⊢
                  split
                  · rename_i outcome found
                    refine ⟨kept, fun message taken => ?_⟩
                    subst taken
                    unfold Endpoint.outcomeOf at found
                    split at found
                    all_goals first | exact less _ rfl | cases found
                  · have further := ih deadline { endpoint with channel, assembler } after
                    exact ⟨Nat.le_trans further.1 kept,
                      fun message taken => Nat.lt_of_lt_of_le (further.2 message taken) kept⟩

end Link.Supplied

/-- A recorder delivers the packets that were prepared. -/
theorem Recorder.link_supplied : link.Supplied fun recorder => recorder.inbox.length where
  received timeout recorder frame after arrived := by
    obtain ⟨inbox, sent⟩ := recorder
    cases inbox <;> cases arrived
    exact Nat.lt_succ_self _
  missed timeout recorder error after failed := by
    obtain ⟨inbox, sent⟩ := recorder
    cases inbox <;> cases failed
    exact Nat.le_refl _
  sent _ _ _ := Nat.le_refl _

end FirmwareUpdate
