import FirmwareUpdate.Proofs.Device.Asking
import FirmwareUpdate.Proofs.Device.Run

/-!
# Sizes and counters stay in range

A responder can always ask for at least one byte of an image: the agent serves the
baseline size or more, and a message of the device has room for it. The sizes start
that way and no reaction lowers them. Nor does any reaction take the number of the
next request out of its bits.
-/

namespace FirmwareUpdate

open Wire

namespace Responder

variable {σ : Type} (responder : Responder) (device : Device σ) (state : σ)

/-- The device may ask for at least one byte at once. -/
def HasRoom (responder : Responder) : Prop :=
  0 < responder.maxTransfer ∧ responseHeaderSize < responder.maxMessage

/-- The bytes that the device asks for are missing, and there are some where any are. -/
theorem requestSize_bounds {responder : Responder} (room : responder.HasRoom) (offset : Nat)
    (details : ComponentDetails) :
    responder.requestSize offset details ≤ details.size - offset ∧
      (offset < details.size → 0 < responder.requestSize offset details) := by
  obtain ⟨transfer, message⟩ := room
  unfold requestSize
  omega

/-- Portions of metadata fit a message with both headers before them, and so does a single byte. -/
theorem metadataPortion_le {responder : Responder} {room : Nat} (fits : responder.maxMessage ≤ room)
    (least : responseHeaderSize + PartResponse.headerSize < room) :
    responseHeaderSize + PartResponse.headerSize + max responder.metadataPortion 1 ≤ room := by
  simp only [metadataPortion]
  omega

/-- A new responder has room, whatever size is asked for. -/
theorem withMaxMessage_hasRoom (size : Nat) : (withMaxMessage size).HasRoom := by
  refine ⟨(by decide : 0 < baselineTransfer), ?_⟩
  have floor : responseHeaderSize < responseHeaderSize + baselineTransfer := by decide
  exact Nat.lt_of_lt_of_le floor (Nat.le_max_right ..)

/-- The sizes of a responder are not lowered, and the number of its next request stays in
range. -/
def KeepsRoom (before after : Responder) : Prop :=
  after.maxMessage = before.maxMessage ∧
    (after.maxTransfer = before.maxTransfer ∨ 0 < after.maxTransfer) ∧
    (after.nextIid = before.nextIid ∨ FitsInstance after.nextIid)

/-- Room that is kept is there. -/
theorem KeepsRoom.hasRoom {before after : Responder} (keeps : KeepsRoom before after)
    (room : before.HasRoom) : after.HasRoom := by
  obtain ⟨message, transfer, -⟩ := keeps
  obtain ⟨transferRoom, messageRoom⟩ := room
  refine ⟨?_, message ▸ messageRoom⟩
  rcases transfer with same | positive
  · exact same ▸ transferRoom
  · exact positive

/-- A number in range stays in range. -/
theorem KeepsRoom.fits {before after : Responder} (keeps : KeepsRoom before after)
    (fits : FitsInstance before.nextIid) : FitsInstance after.nextIid := by
  rcases keeps.2.2 with same | inRange
  · exact same ▸ fits
  · exact inRange

/-- An update is accepted with a transfer size that is not zero. -/
theorem acceptUpdate_keepsRoom (agent : EndpointId) (request : Request) (update : UpdateRequest) :
    KeepsRoom responder (responder.acceptUpdate device agent request update state).2.1 := by
  unfold acceptUpdate
  dsimp only
  split
  · exact ⟨rfl, .inl rfl, .inl rfl⟩
  · refine ⟨rfl, .inr ?_, .inl rfl⟩
    have floor : 0 < baselineTransfer := by decide
    exact Nat.lt_of_lt_of_le floor (Nat.le_max_right ..)

/-- Whatever the command is, room is kept. -/
theorem answerCommand_keepsRoom (agent : EndpointId) (request : Request) (command : Command) :
    KeepsRoom responder (responder.answerCommand device agent request state command).2.1 := by
  cases command with
  | requestUpdate =>
      simp only [answerCommand]
      unfold answerUpdate
      split
      · split
        · exact ⟨rfl, .inl rfl, .inl rfl⟩
        · split
          · exact ⟨rfl, .inl rfl, .inl rfl⟩
          · exact ⟨rfl, .inl rfl, .inl rfl⟩
          · exact acceptUpdate_keepsRoom ..
      · exact ⟨rfl, .inl rfl, .inl rfl⟩
  | _ =>
      unfold answerCommand
      grind [KeepsRoom, answerIdentifiers, answerParameters, answerMetadata, answerTableEntry,
        answerComponent, answerActivation, answerCancel, answerCancelComponent, answerStatus, touch,
        enter, enterIdle]

/-- Whatever the request is, room is kept. -/
theorem answerRequest_keepsRoom (agent : EndpointId) (message : List UInt8) :
    KeepsRoom responder (responder.answerRequest device agent message state).2.1 := by
  have aside : KeepsRoom responder responder := ⟨rfl, .inl rfl, .inl rfl⟩
  unfold answerRequest answer
  grind [answerCommand_keepsRoom]

/-- What a phase does of itself leaves both sizes alone. -/
theorem progressPhase_sizes :
    (responder.progressPhase device state).2.1.maxMessage = responder.maxMessage ∧
      (responder.progressPhase device state).2.1.maxTransfer = responder.maxTransfer := by
  unfold progressPhase
  split
  · grind [progressPull, newRequest]
  · grind [progressDownload, newRequest, enter]
  · grind [progressVerify, newRequest, enter]
  · grind [progressApply, newRequest, enter]
  all_goals exact ⟨rfl, rfl⟩

/-- What a responder does of itself keeps room. -/
theorem progress_keepsRoom : KeepsRoom responder (responder.progress device state).2.1 := by
  have sizes : (responder.progress device state).2.1.maxMessage = responder.maxMessage ∧
      (responder.progress device state).2.1.maxTransfer = responder.maxTransfer := by
    unfold progress
    split
    · exact ⟨rfl, rfl⟩
    · dsimp only
      split
      · exact ⟨rfl, rfl⟩
      · exact progressPhase_sizes ..
  have progresses := responder.progress_progresses device state
  refine ⟨sizes.1, .inl sizes.2, ?_⟩
  unfold Progresses at progresses
  split at progresses
  · exact .inr (progresses.1 ▸ fitsInstance_nextInstance _)
  · exact .inl progresses.1

/-- A portion of package data keeps room. -/
theorem takePart_keepsRoom (pull : PackagePull) (passed : Bool) (response : Response) :
    KeepsRoom responder (responder.takePart device pull passed response state).2.1 := by
  unfold takePart restartPull continuePull endPull touch
  grind [KeepsRoom]

/-- Whatever the response is, room is kept. -/
theorem takeReply_keepsRoom (agent : EndpointId) (message : List UInt8) :
    KeepsRoom responder (responder.takeReply device agent message state).2.1 := by
  have aside : KeepsRoom responder responder := ⟨rfl, .inl rfl, .inl rfl⟩
  unfold takeReply
  split
  · exact aside
  · split
    · exact aside
    · split
      · unfold takePackageReply
        split
        · split
          · exact takePart_keepsRoom ..
          · exact aside
        · exact aside
      · unfold takeDataReply
        grind [KeepsRoom, takeData, touch]
      all_goals exact aside

end Responder

namespace ResponderHistory

variable {σ : Type} (device : Device σ) {history : ResponderHistory σ}

/-- One input of a run keeps room. -/
theorem next_keepsRoom (input : ResponderInput) :
    history.responder.KeepsRoom (history.next device input).responder := by
  cases input with
  | request agent message => exact Responder.answerRequest_keepsRoom ..
  | reply agent message => exact Responder.takeReply_keepsRoom ..
  | progress => exact Responder.progress_keepsRoom ..

/-- No reaction takes the room away. -/
theorem next_hasRoom (room : history.responder.HasRoom) (input : ResponderInput) :
    (history.next device input).responder.HasRoom :=
  (next_keepsRoom device input).hasRoom room

/-- No run takes the room away. -/
theorem run_hasRoom (room : history.responder.HasRoom) (inputs : List ResponderInput) :
    (history.run device inputs).responder.HasRoom := by
  induction inputs generalizing history with
  | nil => exact room
  | cons input rest ih => exact ih (next_hasRoom device room input)

/-- The number of the next request stays in range. -/
theorem run_fits (fits : FitsInstance history.responder.nextIid) (inputs : List ResponderInput) :
    FitsInstance (history.run device inputs).responder.nextIid := by
  induction inputs generalizing history with
  | nil => exact fits
  | cons input rest ih =>
      exact ih ((next_keepsRoom device input).fits fits)

end ResponderHistory

end FirmwareUpdate
