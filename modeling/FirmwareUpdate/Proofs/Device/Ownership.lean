import FirmwareUpdate.Proofs.Device.Run

/-!
# Who owns an update

An update belongs to the agent whose request has begun it, until the device is idle again.
`KeepsOwner` is all that a reaction can do to the owner; that only an idle device has no
owner, and that an owner stays as long as its update runs, both follow from it.
-/

namespace FirmwareUpdate

open Wire

/-- The agent whose request this is. -/
def ResponderInput.requester? : ResponderInput → Option EndpointId
  | .request agent _ => some agent
  | .reply _ _ | .progress => none

namespace Responder

variable {σ : Type}

/-- What a reaction can do to the owner of an update. -/
inductive KeepsOwner (requester : Option EndpointId) (before after : Responder) : Prop where
  | kept (owner : after.owner = before.owner) (same : after.state = .idle ↔ before.state = .idle)
  | ended (nobody : after.owner = none) (idle : after.state = .idle)
  | begun {agent : EndpointId} (asked : requester = some agent) (free : before.state = .idle)
      (owner : after.owner = some agent) (running : after.state ≠ .idle)

section

variable (requester : Option EndpointId) (responder : Responder) (device : Device σ)

/-- A responder that does nothing keeps its owner. -/
theorem keepsOwner_refl : KeepsOwner requester responder responder := .kept rfl Iff.rfl

variable {responder}

/-- A reaction within an update. -/
theorem keepsOwner_running {after : Responder} (owner : after.owner = responder.owner)
    (before : responder.state ≠ .idle) (running : after.state ≠ .idle) :
    KeepsOwner requester responder after :=
  .kept owner (iff_of_false running before)

/-- A responder that goes to rest belongs to nobody. -/
theorem keepsOwner_enterIdle (reason : IdleReason) :
    KeepsOwner requester responder (responder.enterIdle reason) := .ended rfl rfl

/-- The device is not idle in a phase of an update. -/
theorem state_ne_idle {phase : DevicePhase} (current : responder.phase = phase)
    (running : phase.state ≠ .idle) : responder.state ≠ .idle := by
  rwa [state, current]

/-- A responder at rest has a reason for it. -/
theorem phase_of_state_idle (idle : responder.state = .idle) :
    ∃ reason, responder.phase = .idle reason := by
  unfold state at idle
  cases phase : responder.phase with
  | idle reason => exact ⟨reason, rfl⟩
  | _ => simp [phase, DevicePhase.state] at idle

/-- A responder at rest that accepts an update belongs to whoever requested it. -/
theorem acceptUpdate_keepsOwner (agent : EndpointId) (request : Request) (update : UpdateRequest)
    (state : σ) (free : responder.state = .idle) :
    KeepsOwner (some agent) responder
      (responder.acceptUpdate device agent request update state).2.1 := by
  unfold acceptUpdate
  dsimp only
  split
  · exact keepsOwner_refl ..
  · exact .begun rfl free rfl nofun

/-- A request for an update is taken at rest only, from anybody. -/
theorem answerUpdate_keepsOwner (agent : EndpointId) (request : Request) (state : σ) :
    KeepsOwner (some agent) responder
      (responder.answerUpdate device agent request state).2.1 := by
  unfold answerUpdate
  split
  · rename_i idle
    have free : responder.state = .idle := congrArg DevicePhase.state idle
    split
    · exact keepsOwner_refl ..
    · split
      · exact keepsOwner_refl ..
      · exact keepsOwner_refl ..
      · exact acceptUpdate_keepsOwner device agent request _ _ free
  · exact keepsOwner_refl ..

/-- Handing out metadata leaves the owner alone. -/
theorem answerMetadata_keepsOwner (request : Request) (state : σ) :
    KeepsOwner requester responder (responder.answerMetadata device request state).2.1 := by
  unfold answerMetadata
  split
  · split
    · exact keepsOwner_refl ..
    · split <;> exact .kept rfl Iff.rfl
  · exact keepsOwner_refl ..

/-- An entry of the component table leaves the owner alone. -/
theorem answerTableEntry_keepsOwner (request : Request) (state : σ) :
    KeepsOwner requester responder (responder.answerTableEntry device request state).2.1 := by
  unfold answerTableEntry
  split
  · rename_i learning
    have before := state_ne_idle learning nofun
    split
    · exact keepsOwner_refl ..
    · split
      · exact keepsOwner_refl ..
      · dsimp only
        split <;> exact keepsOwner_running _ rfl before nofun
  · exact keepsOwner_refl ..

/-- A component that begins to be updated leaves the owner alone. -/
theorem answerComponent_keepsOwner (request : Request) (state : σ) :
    KeepsOwner requester responder (responder.answerComponent device request state).2.1 := by
  unfold answerComponent
  split
  · rename_i ready
    have before := state_ne_idle ready nofun
    split
    · exact keepsOwner_refl ..
    · dsimp only
      split
      · exact keepsOwner_running _ rfl before nofun
      · exact .kept rfl Iff.rfl
  · exact keepsOwner_refl ..

/-- Activation ends the update, and the ownership with it, or is refused. -/
theorem answerActivation_keepsOwner (request : Request) (state : σ) :
    KeepsOwner requester responder (responder.answerActivation device request state).2.1 := by
  unfold answerActivation
  split
  · exact keepsOwner_refl ..
  · split
    · dsimp only
      split
      · exact .ended rfl rfl
      · exact keepsOwner_refl ..
    · exact keepsOwner_refl ..

/-- An update that is given up belongs to nobody. -/
theorem answerCancel_keepsOwner (request : Request) (state : σ) :
    KeepsOwner requester responder (responder.answerCancel device request state).2.1 := by
  unfold answerCancel
  repeat' split
  all_goals first | exact keepsOwner_refl .. | exact keepsOwner_enterIdle ..

/-- Giving up one component keeps the update, and its owner. -/
theorem answerCancelComponent_keepsOwner (request : Request) (state : σ) :
    KeepsOwner requester responder (responder.answerCancelComponent device request state).2.1 := by
  unfold answerCancelComponent
  split
  · exact keepsOwner_refl ..
  · rename_i updating
    split
    · refine keepsOwner_running _ rfl (fun idle => ?_) nofun
      obtain ⟨reason, phase⟩ := phase_of_state_idle idle
      simp [phase, DevicePhase.details?] at updating
    · exact keepsOwner_refl ..

/-- A command ends an update, begins one for the agent that has sent it, or keeps the owner. -/
theorem answerCommand_keepsOwner (agent : EndpointId) (request : Request) (command : Command)
    (state : σ) :
    KeepsOwner (some agent) responder
      (responder.answerCommand device agent request state command).2.1 := by
  cases command with
  | requestUpdate => exact answerUpdate_keepsOwner ..
  | getDeviceMetaData => exact answerMetadata_keepsOwner ..
  | passComponentTable => exact answerTableEntry_keepsOwner ..
  | updateComponent => exact answerComponent_keepsOwner ..
  | activateFirmware => exact answerActivation_keepsOwner ..
  | cancelUpdate => exact answerCancel_keepsOwner ..
  | cancelUpdateComponent => exact answerCancelComponent_keepsOwner ..
  | queryDeviceIdentifiers =>
      simp only [answerCommand, answerIdentifiers]
      split <;> exact keepsOwner_refl ..
  | getFirmwareParameters =>
      simp only [answerCommand, answerParameters]
      split <;> exact keepsOwner_refl ..
  | getStatus =>
      simp only [answerCommand, answerStatus]
      split <;> exact keepsOwner_refl ..
  | _ => exact keepsOwner_refl ..

/-- Whatever a request does, an update that goes on has the owner it had, and one that begins has
the requester. -/
theorem answerRequest_keepsOwner (agent : EndpointId) (message : List UInt8) (state : σ) :
    KeepsOwner (some agent) responder
      (responder.answerRequest device agent message state).2.1 := by
  have answered (request : Request) : KeepsOwner (some agent) responder
      (responder.answer device agent request state).2.1 := by
    unfold answer
    repeat' split
    all_goals first | exact keepsOwner_refl .. | exact answerCommand_keepsOwner ..
  unfold answerRequest
  split
  · exact keepsOwner_refl ..
  · rename_i request parsed
    have kept := answered request
    split <;> rename_i given <;> rw [given] at kept <;> exact kept

/-- A request that the device makes keeps it in the update. -/
theorem progressPhase_keepsOwner (state : σ) :
    KeepsOwner requester responder (responder.progressPhase device state).2.1 := by
  unfold progressPhase
  split
  · rename_i learning
    have before := state_ne_idle learning nofun
    unfold progressPull
    split
    · exact keepsOwner_refl ..
    · split
      · exact keepsOwner_refl ..
      · exact keepsOwner_running _ rfl before nofun
  · rename_i receiving
    have before := state_ne_idle receiving nofun
    unfold progressDownload
    split
    · exact keepsOwner_refl ..
    · split
      · split
        · exact keepsOwner_refl ..
        · dsimp only
          split <;> exact keepsOwner_running _ rfl before nofun
      · dsimp only
        split
        · exact keepsOwner_refl ..
        · exact keepsOwner_running _ rfl before nofun
  · rename_i checking
    have before := state_ne_idle checking nofun
    unfold progressVerify
    split
    · exact keepsOwner_refl ..
    · dsimp only
      split
      · exact keepsOwner_refl ..
      · dsimp only
        split <;> exact keepsOwner_running _ rfl before nofun
  · rename_i applying
    have before := state_ne_idle applying nofun
    unfold progressApply
    split
    · exact keepsOwner_refl ..
    · dsimp only
      split
      · exact keepsOwner_refl ..
      · dsimp only
        split <;> exact keepsOwner_running _ rfl before nofun
  all_goals exact keepsOwner_refl ..

/-- What a responder does of itself ends an update or keeps its owner. -/
theorem progress_keepsOwner (state : σ) :
    KeepsOwner requester responder (responder.progress device state).2.1 := by
  unfold progress
  split
  · exact keepsOwner_refl ..
  · dsimp only
    split
    · exact keepsOwner_enterIdle ..
    · exact progressPhase_keepsOwner ..

/-- A portion of package data ends the update or keeps its owner. -/
theorem takePart_keepsOwner (before : responder.state ≠ .idle) (pull : PackagePull) (passed : Bool)
    (response : Response) (state : σ) :
    KeepsOwner requester responder
      (responder.takePart device pull passed response state).2.1 := by
  have restarted : KeepsOwner requester responder
      (responder.restartPull device pull passed state).1 := by
    unfold restartPull
    split <;> exact keepsOwner_running _ rfl before nofun
  unfold takePart
  split
  · split
    · exact keepsOwner_running _ rfl before nofun
    · split
      · exact restarted
      · split <;> exact keepsOwner_running _ rfl before nofun
  · split
    · exact restarted
    · exact keepsOwner_running _ rfl before nofun

/-- A piece of an image ends the update or keeps its owner. -/
theorem takeData_keepsOwner (before : responder.state ≠ .idle) (offset : Nat)
    (exchange : Exchange) (options : UInt32) (details : ComponentDetails) (response : Response)
    (state : σ) :
    KeepsOwner requester responder
      (({ responder with lastActivity := (device.now state).1 } : Responder).takeData device offset
        exchange options details response (device.now state).2).1 := by
  unfold takeData
  split
  · exact keepsOwner_running _ rfl before nofun
  · split
    · split
      · dsimp only [afterData]
        split <;> exact keepsOwner_running _ rfl before nofun
      · exact keepsOwner_running _ rfl before nofun
    · exact keepsOwner_running _ rfl before nofun

/-- Whatever a response does, it gives the device no new owner. -/
theorem takeReply_keepsOwner (agent : EndpointId) (message : List UInt8) (state : σ) :
    KeepsOwner requester responder (responder.takeReply device agent message state).2.1 := by
  unfold takeReply
  split
  · exact keepsOwner_refl ..
  · split
    · exact keepsOwner_refl ..
    · split
      · unfold takePackageReply
        split
        · rename_i learning
          have before := state_ne_idle learning nofun
          split
          · exact takePart_keepsOwner _ device before ..
          · exact keepsOwner_refl ..
        · exact keepsOwner_refl ..
      · unfold takeDataReply
        split
        · rename_i receiving
          have before := state_ne_idle receiving nofun
          split
          · exact takeData_keepsOwner _ device before ..
          · exact keepsOwner_refl ..
        · exact keepsOwner_refl ..
      all_goals exact keepsOwner_refl ..

/-- Only requests can begin an update. -/
theorem react_keepsOwner (state : σ) (input : ResponderInput) :
    KeepsOwner input.requester? responder (responder.react device state input).2.1 := by
  cases input with
  | request agent message => exact answerRequest_keepsOwner ..
  | reply agent message => exact takeReply_keepsOwner ..
  | progress => exact progress_keepsOwner ..

end

/-- Only an idle device has no owner. -/
def Owned (responder : Responder) : Prop := responder.owner = none ↔ responder.state = .idle

/-- A new responder is at rest and has no owner. -/
theorem withMaxMessage_owned (size : Nat) : (withMaxMessage size).Owned := iff_of_true rfl rfl

namespace KeepsOwner

variable {requester : Option EndpointId} {before after : Responder}

/-- Being owned exactly while an update goes on survives every step. -/
theorem owned (keeps : KeepsOwner requester before after) (owned : before.Owned) :
    after.Owned := by
  cases keeps with
  | kept owner same => rw [Owned, owner, same]; exact owned
  | ended nobody idle => exact iff_of_true nobody idle
  | begun asked free owner running => exact iff_of_false (by simp [owner]) running

/-- An owner stays until the device is idle. -/
theorem owner_eq (keeps : KeepsOwner requester before after) (owned : before.Owned)
    {owner : EndpointId} (mine : before.owner = some owner) (running : after.state ≠ .idle) :
    after.owner = some owner := by
  cases keeps with
  | kept same => rw [same, mine]
  | ended nobody idle => exact absurd idle running
  | begun asked free => simp [owned.mpr free] at mine

end KeepsOwner

end Responder

namespace ResponderHistory

variable {σ : Type} (device : Device σ)

/-- One input of a run changes the owner only as the input's own requester. -/
theorem next_keepsOwner (history : ResponderHistory σ) (input : ResponderInput) :
    Responder.KeepsOwner input.requester? history.responder
      (history.next device input).responder :=
  Responder.react_keepsOwner device.recorded (history.state, []) input

/-- Only an idle device has no owner, whatever has happened to it. -/
theorem run_owned {history : ResponderHistory σ} (owned : history.responder.Owned)
    (inputs : List ResponderInput) : (history.run device inputs).responder.Owned := by
  induction inputs generalizing history with
  | nil => exact owned
  | cons input rest ih => exact ih ((next_keepsOwner device history input).owned owned)

end ResponderHistory

end FirmwareUpdate
