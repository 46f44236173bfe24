import FirmwareUpdate.Proofs.Command.RoundTrip
import FirmwareUpdate.Proofs.Device.Answer
import FirmwareUpdate.Proofs.Device.Room
import FirmwareUpdate.Proofs.Transfer.Round

/-!
# How long the messages of a device are

A body is written into a buffer of the size of a message, and the header is put before it
afterwards. Every body that the protocol bounds leaves room for the header. What a device
tells about itself has no other bound than the buffer, so these answers can be too long by
as much as a header.
-/

namespace FirmwareUpdate

open Wire

namespace Responder

variable {σ : Type} {responder : Responder} {device : Device σ} {state : σ}

/-- The body of an answer leaves room for the header of a response. -/
def IsBrief (answer : Except CompletionCode Response) : Prop :=
  ∀ response, answer = .ok response → responseHeaderSize + response.data.length ≤ maxMessageSize

/-- A refusal has no body to be too long. -/
theorem isBrief_refused (cc : CompletionCode) : IsBrief (.error cc) := nofun

/-- An answer has a body that could be written. -/
theorem respondWith_eq_ok {request : Request} {body : Layout} {response : Response}
    (responds : respondWith request body = .ok response) :
    ∃ written, body.toMessage = .ok written ∧
      response = request.respond BaseCode.success written := by
  unfold respondWith at responds
  cases encoded : body.toMessage with
  | error error =>
      rw [encoded] at responds
      cases responds
  | ok written =>
      rw [encoded] at responds
      cases responds
      exact ⟨written, rfl, rfl⟩

/-- A body of known size leaves room for the header where its size does. -/
theorem isBrief_respondWith {α : Type} (request : Request) {body : Layout} {reader : Reader α}
    {value : α} {size : Nat} (trip : RoundTrips body reader value size)
    (short : responseHeaderSize + size ≤ maxMessageSize) : IsBrief (respondWith request body) := by
  intro response responds
  obtain ⟨written, encoded, rfl⟩ := respondWith_eq_ok responds
  rw [← trip.length_of_written encoded] at short
  exact short

/-- Portions of metadata leave room for both headers before them. -/
theorem answerMetadata_isBrief (room : responder.maxMessage = maxMessageSize)
    (request : Request) : IsBrief (responder.answerMetadata device request state).1 := by
  unfold answerMetadata
  split
  · split
    · exact isBrief_refused _
    · split
      · exact isBrief_refused _
      · rename_i part metadata served
        -- the size of the body is not known here, only that of the portion
        intro response responds
        obtain ⟨written, encoded, rfl⟩ := respondWith_eq_ok responds
        have length := PartResponse.length_of_written encoded
        have short := Transfer.length_portion_of_serve served
        have fits := metadataPortion_le (Nat.le_of_eq room) (by decide)
        show responseHeaderSize + written.length ≤ maxMessageSize
        omega
  · exact isBrief_refused _

/-- The answer to RequestUpdate is brief. -/
theorem answerUpdate_isBrief (agent : EndpointId) (request : Request) :
    IsBrief (responder.answerUpdate device agent request state).1 := by
  unfold answerUpdate
  split
  · split
    · exact isBrief_refused _
    · split
      · exact isBrief_refused _
      · exact isBrief_refused _
      · unfold acceptUpdate
        dsimp only
        split
        · exact isBrief_refused _
        · exact isBrief_respondWith request (UpdateResponse.roundTrips _) (by decide)
  · exact isBrief_refused _

/-- The answer to PassComponentTable is brief. -/
theorem answerTableEntry_isBrief (request : Request) :
    IsBrief (responder.answerTableEntry device request state).1 := by
  unfold answerTableEntry
  split
  · split
    · exact isBrief_refused _
    · split
      · exact isBrief_refused _
      · exact isBrief_respondWith request (TableResponse.roundTrips _) (by decide)
  · exact isBrief_refused _

/-- The answer to UpdateComponent is brief. -/
theorem answerComponent_isBrief (request : Request) :
    IsBrief (responder.answerComponent device request state).1 := by
  unfold answerComponent
  split
  · split
    · exact isBrief_refused _
    · exact isBrief_respondWith request (ComponentResponse.roundTrips _) (by decide)
  · exact isBrief_refused _

/-- The answer to ActivateFirmware is brief. -/
theorem answerActivation_isBrief (request : Request) :
    IsBrief (responder.answerActivation device request state).1 := by
  have brief := isBrief_respondWith request (ActivationResponse.roundTrips { estimatedTime := 0 })
    (by decide)
  unfold answerActivation
  split
  · exact isBrief_refused _
  · split
    · dsimp only
      split
      · intro response responds
        cases given : respondWith request (ActivationResponse.layout { estimatedTime := 0 }) with
        | error cc =>
            rw [given] at responds
            cases responds
        | ok written =>
            rw [given] at responds
            cases responds
            exact brief written given
      · exact isBrief_refused _
    · exact isBrief_refused _

/-- The answer to CancelUpdate is brief. -/
theorem answerCancel_isBrief (request : Request) :
    IsBrief (responder.answerCancel device request state).1 := by
  unfold answerCancel
  split
  · exact isBrief_refused _
  · exact isBrief_refused _
  · split
    · exact isBrief_respondWith request (CancelResponse.roundTrips _) (by decide)
    · exact isBrief_refused _

/-- The answer to CancelUpdateComponent is brief. -/
theorem answerCancelComponent_isBrief (request : Request) :
    IsBrief (responder.answerCancelComponent device request state).1 := by
  unfold answerCancelComponent
  split
  · exact isBrief_refused _
  · split
    · intro response responds
      cases responds
      exact (by decide : responseHeaderSize + 0 ≤ maxMessageSize)
    · exact isBrief_refused _

/-- The answer to GetStatus is brief. -/
theorem answerStatus_isBrief (request : Request) :
    IsBrief (responder.answerStatus request state).1 := by
  unfold answerStatus
  split
  · exact isBrief_respondWith request (DeviceStatus.roundTrips _) (by decide)
  · exact isBrief_refused _

/-- The command asks what the device is or what firmware it has. -/
def asksInventory : Command → Bool
  | .queryDeviceIdentifiers | .getFirmwareParameters => true
  | _ => false

/-- All answers but what a device tells about itself leave room for the header. -/
theorem answerCommand_isBrief (room : responder.maxMessage = maxMessageSize) (agent : EndpointId)
    (request : Request) {command : Command} (other : asksInventory command = false) :
    IsBrief (responder.answerCommand device agent request state command).1 := by
  cases command with
  | requestUpdate => exact answerUpdate_isBrief agent request
  | getDeviceMetaData => exact answerMetadata_isBrief room request
  | passComponentTable => exact answerTableEntry_isBrief request
  | updateComponent => exact answerComponent_isBrief request
  | activateFirmware => exact answerActivation_isBrief request
  | cancelUpdate => exact answerCancel_isBrief request
  | cancelUpdateComponent => exact answerCancelComponent_isBrief request
  | getStatus => exact answerStatus_isBrief request
  | queryDeviceIdentifiers | getFirmwareParameters => cases other
  | _ => exact isBrief_refused _

/-- What a device tells about itself fits the buffer that it is written into. -/
theorem length_of_inventory (agent : EndpointId) (request : Request) {command : Command}
    (asks : asksInventory command = true) {response : Response}
    (answered : (responder.answerCommand device agent request state command).1 = .ok response) :
    response.data.length ≤ maxMessageSize := by
  have written {body : Layout} (responds : respondWith request body = .ok response) :
      response.data.length ≤ maxMessageSize := by
    obtain ⟨written, encoded, rfl⟩ := respondWith_eq_ok responds
    exact (Layout.toMessage_eq_ok_iff.mp encoded).2
  cases command with
  | queryDeviceIdentifiers =>
      simp only [answerCommand, answerIdentifiers] at answered
      split at answered
      · exact written answered
      · cases answered
  | getFirmwareParameters =>
      simp only [answerCommand, answerParameters] at answered
      split at answered
      · exact written answered
      · cases answered
  | _ => cases asks

/-- An answer is as long as a message may be, unless it is about the device itself; then it may
be longer, by no more than a header. -/
theorem length_of_answer (room : responder.maxMessage = maxMessageSize) {agent : EndpointId}
    {asked message : List UInt8}
    (answered : (responder.answerRequest device agent asked state).1 = .ok message) :
    message.length ≤ maxMessageSize ∨
      message.length ≤ responseHeaderSize + maxMessageSize ∧ ∃ request command,
        Request.parse asked = .ok request ∧ request.IsFor command ∧
          asksInventory command = true := by
  cases parsed : Request.parse asked with
  | error error =>
      rw [answerRequest, parsed] at answered
      cases answered
  | ok request =>
      rw [answerRequest_of_parse _ _ _ parsed] at answered
      have given := Except.ok.inj answered
      subst given
      have refused (cc : CompletionCode) :
          (messageOf request (.error cc)).length ≤ maxMessageSize := by
        rw [messageOf, Response.length_toBytes]
        exact (by decide : responseHeaderSize + 0 ≤ maxMessageSize)
      unfold answer
      split
      · exact .inl (refused _)
      · rename_i ours
        split
        · exact .inl (refused _)
        · rename_i command known
          split
          · exact .inl (refused _)
          · cases result :
                (responder.answerCommand device agent request state command).1 with
            | error cc => exact .inl (refused cc)
            | ok response =>
                rw [messageOf, Response.length_toBytes]
                cases asks : asksInventory command with
                | false =>
                    exact .inl (answerCommand_isBrief room agent request asks response result)
                | true =>
                    refine .inr ⟨?_, request, command, rfl,
                      ⟨Decidable.not_not.mp ours, (ofCode?_eq_some_iff.mp known).symm⟩, asks⟩
                    exact Nat.add_le_add_left (length_of_inventory agent request asks result) _

/-! ## Requests of the device -/

/-- A request, if there is one, is as long as a message may be. -/
def IsShort (asked : Option (List UInt8)) : Prop :=
  ∀ message, asked = some message → message.length ≤ maxMessageSize

/-- No request is a short one. -/
theorem isShort_none : IsShort none := nofun

/-- A request with a body of known size is short. -/
theorem isShort_newRequest {α : Type} (command : Command) {body : Layout} {reader : Reader α}
    {value : α} {size : Nat} (trip : RoundTrips body reader value size)
    (short : requestHeaderSize + size ≤ maxMessageSize) {written : List UInt8}
    (encoded : body.toMessage = .ok written) :
    IsShort (some (responder.newRequest command written).1.toBytes) := by
  rintro - ⟨⟩
  rw [Request.length_toBytes]
  rw [← trip.length_of_written encoded] at short
  exact short

/-- A request for package data is short. -/
theorem progressPull_isShort (pull : PackagePull) (passed : Bool) :
    IsShort (responder.progressPull device pull passed state).1 := by
  unfold progressPull
  split
  · exact isShort_none
  · split
    · exact isShort_none
    · exact isShort_newRequest _ (PartRequest.roundTrips _) (by decide) ‹_›

/-- A request for firmware data is short, and so is the report at their end. -/
theorem progressDownload_isShort (offset : Nat) (result : Option TransferResult)
    (exchange : Exchange) (options : UInt32) (details : ComponentDetails) :
    IsShort (responder.progressDownload device offset result exchange options details state).1 := by
  unfold progressDownload
  split
  · exact isShort_none
  · cases result with
    | some result =>
        dsimp only
        split
        · exact isShort_none
        · exact isShort_newRequest _ (ResultReport.roundTrips _) (by decide) ‹_›
    | none =>
        dsimp only
        split
        · exact isShort_none
        · exact isShort_newRequest _ (DataRequest.roundTrips _) (by decide) ‹_›

/-- The report on the check of an image is short. -/
theorem progressVerify_isShort (exchange : Exchange) (details : ComponentDetails) :
    IsShort (responder.progressVerify device exchange details state).1 := by
  unfold progressVerify
  split
  · exact isShort_none
  · dsimp only
    split
    · exact isShort_none
    · exact isShort_newRequest _ (ResultReport.roundTrips _) (by decide) ‹_›

/-- The report on the installation of an image is short. -/
theorem progressApply_isShort (exchange : Exchange) (details : ComponentDetails) :
    IsShort (responder.progressApply device exchange details state).1 := by
  unfold progressApply
  split
  · exact isShort_none
  · dsimp only
    split
    · exact isShort_none
    · exact isShort_newRequest _ (ApplyReport.roundTrips _) (by decide) ‹_›

/-- Whatever a device asks for is as long as a message may be. -/
theorem progress_isShort : IsShort (responder.progress device state).1 := by
  unfold progress
  split
  · exact isShort_none
  · dsimp only
    split
    · exact isShort_none
    · unfold progressPhase
      split
      · exact progressPull_isShort _ _
      · exact progressDownload_isShort _ _ _ _ _
      · exact progressVerify_isShort _ _
      · exact progressApply_isShort _ _
      all_goals exact isShort_none

end Responder

/-- No reaction changes how long the messages of a device may be. -/
theorem ResponderHistory.run_maxMessage {σ : Type} (device : Device σ)
    (history : ResponderHistory σ) (inputs : List ResponderInput) :
    (history.run device inputs).responder.maxMessage = history.responder.maxMessage := by
  induction inputs generalizing history with
  | nil => rfl
  | cons input rest ih =>
      exact (ih (history.next device input)).trans (next_keepsRoom device input).1

end FirmwareUpdate
