import FirmwareUpdate.Proofs.Device.ImageStep
import FirmwareUpdate.Proofs.Device.Ownership
import FirmwareUpdate.Proofs.Transfer.Round

/-!
# What every responder keeps

A responder never rests in activation, an idle one has no metadata under way, and its sizes
have room for the least of firmware data. A pull never holds more than the agent has announced,
and an image never more than its size; its transfer has succeeded exactly when it is complete.
`Steps` says for one reaction what it does to a pull and that it keeps the rest, handler by
handler; the images come from `ImageStep` and the owner from `KeepsOwner`.
-/

namespace FirmwareUpdate

open Wire

/-- The size of the package data in a request for an update that the device accepts. -/
def DeviceCall.declaredSize? : DeviceCall → Option Nat
  | requestUpdate update .accept => some update.packageDataSize.toNat
  | _ => none

/-- The size of the package data that an event declares. -/
def UpdateEvent.declaredSize? : UpdateEvent → Option Nat
  | called call => call.declaredSize?
  | accepted _ => none

/-- The size of the package data of the update that the device has accepted last. -/
def declaredSize? (events : List UpdateEvent) : Option Nat :=
  (events.filterMap UpdateEvent.declaredSize?).getLast?

/-- An update runs, and the device pulls no package data. -/
def DevicePhase.isPulless : DevicePhase → Bool
  | learnComponents pull _ => pull.isNone
  | readyXfer | download _ _ _ _ _ | verify _ _ | apply _ _ => true
  | idle _ | activate => false

namespace Responder

variable {σ : Type}

/-- What a responder keeps that no image and no pull is about. -/
structure Tidy (responder : Responder) : Prop where
  awake : responder.state ≠ .activate
  /-- No metadata are under way while no update runs. -/
  rested : responder.state = .idle →
    responder.metadata.handle = 0 ∧ responder.metadata.inProgress = false
  transfer : baselineTransfer ≤ responder.maxTransfer
  message : responseHeaderSize + baselineTransfer ≤ responder.maxMessage

/-- A new responder is tidy, whatever size of messages it is made for. -/
theorem withMaxMessage_tidy (size : Nat) : (withMaxMessage size).Tidy where
  awake := nofun
  rested := fun _ => ⟨rfl, rfl⟩
  transfer := Nat.le_refl _
  message := Nat.le_max_right ..

namespace Tidy

variable {before after : Responder}

/-- The time of the last activity and the owner do not matter. -/
theorem same (tidy : before.Tidy) (state : after.state = before.state)
    (metadata : after.metadata = before.metadata)
    (transfer : after.maxTransfer = before.maxTransfer)
    (message : after.maxMessage = before.maxMessage) : after.Tidy where
  awake := state ▸ tidy.awake
  rested := by rw [state, metadata]; exact tidy.rested
  transfer := transfer ▸ tidy.transfer
  message := message ▸ tidy.message

/-- A responder that does not go to rest stays tidy if its sizes stay as they are. -/
theorem running (tidy : before.Tidy) (busy : after.state ≠ .idle) (awake : after.state ≠ .activate)
    (transfer : after.maxTransfer = before.maxTransfer)
    (message : after.maxMessage = before.maxMessage) : after.Tidy where
  awake := awake
  rested := fun idle => absurd idle busy
  transfer := transfer ▸ tidy.transfer
  message := message ▸ tidy.message

/-- Whoever goes to rest drops the metadata that were under way. -/
theorem enterIdle (tidy : before.Tidy) (reason : IdleReason) : (before.enterIdle reason).Tidy where
  awake := nofun
  rested := fun _ => ⟨rfl, rfl⟩
  transfer := tidy.transfer
  message := tidy.message

end Tidy

/-! ## One reaction -/

/-- A reaction of a recorded device from an empty record leaves a pull that has just begun, with
the size that the agent has declared, or one that was there, of the same size. -/
def StepsPull (before : DevicePhase) (after : Responder × σ × List DeviceCall) : Prop :=
  ∀ pull passed, after.1.phase = .learnComponents (some pull) passed →
    (after.2.2.filterMap DeviceCall.declaredSize? = [pull.transfer.totalSize] ∧ pull.data = []) ∨
    (after.2.2.filterMap DeviceCall.declaredSize? = [] ∧
      ∃ earlier was, before = .learnComponents (some earlier) was ∧
        pull.transfer.totalSize = earlier.transfer.totalSize ∧
        (earlier.data.length ≤ earlier.transfer.totalSize →
          pull.data.length ≤ earlier.transfer.totalSize))

/-- What a reaction of a recorded device from an empty record keeps. -/
structure Steps (before : Responder) (after : Responder × σ × List DeviceCall) : Prop where
  tidy : before.Tidy → after.1.Tidy
  pull : StepsPull before.phase after

namespace Steps

variable {before after : Responder} {state : σ} {calls : List DeviceCall}

/-- Nothing that matters is changed. -/
theorem aside (quiet : calls.filterMap DeviceCall.declaredSize? = [])
    (phase : after.phase = before.phase) (metadata : after.metadata = before.metadata)
    (transfer : after.maxTransfer = before.maxTransfer)
    (message : after.maxMessage = before.maxMessage) : Steps before (after, state, calls) where
  tidy := fun tidy => tidy.same (congrArg DevicePhase.state phase) metadata transfer message
  pull := fun pull passed pulls =>
    .inr ⟨quiet, pull, passed, phase.symm.trans pulls, rfl, id⟩

/-- Only the pull is changed, or whether a component has been announced. -/
theorem pulling {pull earlier : PackagePull} {passed was : Bool}
    (quiet : calls.filterMap DeviceCall.declaredSize? = [])
    (phase : before.phase = .learnComponents (some earlier) was)
    (pulls : after.phase = .learnComponents (some pull) passed)
    (size : pull.transfer.totalSize = earlier.transfer.totalSize)
    (bounded : earlier.data.length ≤ earlier.transfer.totalSize →
      pull.data.length ≤ earlier.transfer.totalSize)
    (transfer : after.maxTransfer = before.maxTransfer)
    (message : after.maxMessage = before.maxMessage) : Steps before (after, state, calls) where
  tidy := by
    have learning : after.state = .learnComponents := congrArg DevicePhase.state pulls
    exact fun tidy => tidy.running (by rw [learning]; decide) (by rw [learning]; decide)
      transfer message
  pull := by
    intro other again found
    cases pulls.symm.trans found
    exact .inr ⟨quiet, earlier, was, phase, size, bounded⟩

/-- The update goes on without a pull. -/
theorem running (pulless : after.phase.isPulless = true)
    (transfer : after.maxTransfer = before.maxTransfer)
    (message : after.maxMessage = before.maxMessage) : Steps before (after, state, calls) where
  tidy := by
    refine fun tidy => tidy.running (fun idle => ?_) (fun active => ?_) transfer message
    all_goals
      cases phase : after.phase <;> simp_all [Responder.state, DevicePhase.state,
        DevicePhase.isPulless]
  pull := by
    intro pull passed pulls
    rw [show after.phase = _ from pulls] at pulless
    cases pulless

/-- A step into rest holds no pull any more. -/
theorem ended (reason : IdleReason) : Steps before (before.enterIdle reason, state, calls) where
  tidy := fun tidy => tidy.enterIdle reason
  pull := nofun

end Steps

section

variable (responder : Responder) (device : Device σ) (state : σ)

/-- Nothing happens. -/
theorem steps_refl : Steps responder (responder, state, []) := .aside rfl rfl rfl rfl rfl

/-! ## Requests of an agent -/

variable (request : Request)

/-- An update that is accepted declares how much of package data there is to pull. -/
theorem acceptUpdate_steps (agent : EndpointId) (update : UpdateRequest)
    (idle : responder.state = .idle) :
    Steps responder (responder.acceptUpdate device.recorded agent request update
      (state, [.requestUpdate update .accept])).2 := by
  unfold acceptUpdate
  dsimp only
  split
  · refine ⟨id, fun pull passed pulls => ?_⟩
    rw [Responder.state, show responder.phase = _ from pulls] at idle
    cases idle
  · refine ⟨fun tidy => ⟨by rintro ⟨⟩, by rintro ⟨⟩, Nat.le_max_right .., tidy.message⟩, ?_⟩
    intro pull passed pulls
    left
    simp only [enter, touch, Device.recorded_now, DevicePhase.learnComponents.injEq] at pulls
    obtain ⟨begun, -⟩ := pulls
    split at begun
    · cases begun
      exact ⟨rfl, rfl⟩
    · cases begun

/-- A request for an update begins one, or leaves everything as it is. -/
theorem answerUpdate_steps (agent : EndpointId) :
    Steps responder (responder.answerUpdate device.recorded agent request (state, [])).2 := by
  unfold answerUpdate
  split
  · rename_i idle
    have refused (later : σ) (calls : List DeviceCall) :
        Steps responder (responder, later, calls) :=
      ⟨id, fun pull passed pulls => by cases idle.symm.trans pulls⟩
    split
    · exact refused ..
    · rename_i update _
      rw [Device.recorded_requestUpdate]
      cases asked : device.requestUpdate update state with
      | mk policy later =>
          cases policy with
          | retry | unable => exact refused ..
          | accept =>
              exact acceptUpdate_steps responder device later request agent update
                (congrArg DevicePhase.state idle)
  · exact steps_refl ..

/-- A portion of the metadata moves the transfer of them and nothing else. -/
theorem answerMetadata_steps :
    Steps responder (responder.answerMetadata device.recorded request (state, [])).2 := by
  unfold answerMetadata
  split
  · rename_i pull passed learning
    have served (metadata : Transfer) (lastActivity : Nat) (later : σ) :
        Steps responder ({ responder with metadata, lastActivity }, later, []) := by
      have state : responder.state = .learnComponents := congrArg DevicePhase.state learning
      refine ⟨fun tidy => tidy.running ?_ ?_ rfl rfl, ?_⟩
      · exact fun idle => by cases state.symm.trans idle
      · exact fun active => by cases state.symm.trans active
      · exact fun pull passed pulls => .inr ⟨rfl, pull, passed, pulls, rfl, id⟩
    split
    · exact steps_refl ..
    · split
      · exact served ..
      · exact served ..
  · exact steps_refl ..

/-- A question about a component declares no package data. -/
theorem checkComponent_declares (begins : Bool) (record : ComponentRecord) :
    (checkComponent device.recorded begins record (state, [])).2.2.filterMap
      DeviceCall.declaredSize? = [] := by
  rcases checkComponent_record device state begins record with ⟨-, asked⟩ | asked <;>
    rw [asked] <;> rfl

/-- An entry of the component table is announced only once the pull is over. -/
theorem answerTableEntry_steps :
    Steps responder (responder.answerTableEntry device.recorded request (state, [])).2 := by
  unfold answerTableEntry
  split
  · rename_i pull passed learning
    split
    · exact steps_refl ..
    · split
      · exact steps_refl ..
      · have quiet := checkComponent_declares device (device.now state).2 false
        dsimp only
        split
        · exact .running rfl rfl rfl
        · cases pull with
          | none => exact .running rfl rfl rfl
          | some pull => exact .pulling (quiet _) learning rfl rfl id rfl rfl
  · exact steps_refl ..

/-- A component begins to be updated without package data. -/
theorem answerComponent_steps :
    Steps responder (responder.answerComponent device.recorded request (state, [])).2 := by
  unfold answerComponent
  split
  · rename_i ready
    split
    · exact steps_refl ..
    · rename_i record _
      have quiet := checkComponent_declares device (device.now state).2 true record
      dsimp only
      split
      · exact .running rfl rfl rfl
      · exact .aside quiet rfl rfl rfl rfl
  · exact steps_refl ..

/-- Activation ends the update or is refused. -/
theorem answerActivation_steps :
    Steps responder (responder.answerActivation device.recorded request (state, [])).2 := by
  unfold answerActivation
  split
  · exact steps_refl ..
  · split
    · dsimp only
      split
      · exact ⟨fun tidy => ⟨nofun, fun _ => ⟨rfl, rfl⟩, tidy.transfer, tidy.message⟩, nofun⟩
      · exact .aside rfl rfl rfl rfl rfl
    · exact steps_refl ..

/-- An update that is given up ends, and with it any pull. -/
theorem answerCancel_steps :
    Steps responder (responder.answerCancel device.recorded request (state, [])).2 := by
  unfold answerCancel
  repeat' split
  all_goals first | exact steps_refl .. | exact .ended _

/-- A component that is given up leaves a device that is ready for the next. -/
theorem answerCancelComponent_steps :
    Steps responder (responder.answerCancelComponent device.recorded request (state, [])).2 := by
  unfold answerCancelComponent
  split
  · exact steps_refl ..
  · split
    · exact .running rfl rfl rfl
    · exact steps_refl ..

/-- Whatever the command is, its answer is a step. -/
theorem answerCommand_steps (agent : EndpointId) (command : Command) :
    Steps responder
      (responder.answerCommand device.recorded agent request (state, []) command).2 := by
  cases command with
  | requestUpdate => exact answerUpdate_steps ..
  | getDeviceMetaData => exact answerMetadata_steps ..
  | passComponentTable => exact answerTableEntry_steps ..
  | updateComponent => exact answerComponent_steps ..
  | activateFirmware => exact answerActivation_steps ..
  | cancelUpdate => exact answerCancel_steps ..
  | cancelUpdateComponent => exact answerCancelComponent_steps ..
  | queryDeviceIdentifiers =>
      simp only [answerCommand, answerIdentifiers]
      split <;> exact steps_refl ..
  | getFirmwareParameters =>
      simp only [answerCommand, answerParameters]
      split <;> exact steps_refl ..
  | getStatus =>
      simp only [answerCommand, answerStatus]
      split <;> exact steps_refl ..
  | _ => exact steps_refl ..

/-- Whatever message is answered, the answer is a step. -/
theorem answerRequest_steps (agent : EndpointId) (message : List UInt8) :
    Steps responder (responder.answerRequest device.recorded agent message (state, [])).2 := by
  have answered (request : Request) :
      Steps responder (responder.answer device.recorded agent request (state, [])).2 := by
    unfold answer
    repeat' split
    all_goals first | exact steps_refl .. | exact answerCommand_steps ..
  cases parsed : Request.parse message with
  | error error =>
      unfold answerRequest
      rw [parsed]
      exact steps_refl ..
  | ok request =>
      rw [answerRequest_of_parse responder device.recorded agent parsed]
      exact answered request

end

section

variable {responder : Responder} (device : Device σ) (state : σ)

/-! ## Requests of the device -/

/-- A reading of the clock leaves everything as it is. -/
theorem steps_of_isDue {exchange : Exchange} {due : Bool} {later : σ × List DeviceCall}
    (asked : exchange.isDue device.recorded (state, []) = (due, later)) :
    Steps responder (responder, later) :=
  .aside (by rw [isDue_record device state asked]; rfl) rfl rfl rfl rfl

/-- A request for package data leaves what has been pulled. -/
theorem progressPull_steps {pull : PackagePull} {passed : Bool}
    (learning : responder.phase = .learnComponents (some pull) passed) :
    Steps responder (responder.progressPull device.recorded pull passed (state, [])).2 := by
  unfold progressPull
  split
  · exact steps_of_isDue device state ‹_›
  · rename_i later due
    split
    · exact steps_of_isDue device state due
    · refine .pulling ?_ learning rfl rfl id rfl rfl
      show later.2.filterMap DeviceCall.declaredSize? = []
      rw [isDue_record device state due]
      rfl

/-- A request for firmware data, or the report at their end, pulls no package data. -/
theorem progressDownload_steps (offset : Nat) (result : Option TransferResult)
    (exchange : Exchange) (options : UInt32) (details : ComponentDetails) :
    Steps responder (responder.progressDownload device.recorded offset result exchange options
      details (state, [])).2 := by
  unfold progressDownload
  split
  · exact steps_of_isDue device state ‹_›
  · rename_i later due
    split
    · split
      · exact steps_of_isDue device state due
      · dsimp only
        split <;> exact .running rfl rfl rfl
    · dsimp only
      split
      · exact steps_of_isDue device state due
      · exact .running rfl rfl rfl

/-- A check of the image pulls no package data. -/
theorem progressVerify_steps {exchange : Exchange} {details : ComponentDetails}
    (checking : responder.phase = .verify exchange details) :
    Steps responder
      (responder.progressVerify device.recorded exchange details (state, [])).2 := by
  have pulless : responder.phase.isPulless = true := by rw [checking]; rfl
  unfold progressVerify
  split
  · exact steps_of_isDue device state ‹_›
  · dsimp only
    split
    · exact .running pulless rfl rfl
    · dsimp only
      split <;> exact .running rfl rfl rfl

/-- To put an image in its place pulls no package data. -/
theorem progressApply_steps {exchange : Exchange} {details : ComponentDetails}
    (applying : responder.phase = .apply exchange details) :
    Steps responder
      (responder.progressApply device.recorded exchange details (state, [])).2 := by
  have pulless : responder.phase.isPulless = true := by rw [applying]; rfl
  unfold progressApply
  split
  · exact steps_of_isDue device state ‹_›
  · dsimp only
    split
    · exact .running pulless rfl rfl
    · dsimp only
      split <;> exact .running rfl rfl rfl

/-- Whatever the responder does next of its own, it is a step. -/
theorem progress_steps : Steps responder (responder.progress device.recorded (state, [])).2 := by
  unfold progress
  split
  · exact steps_refl ..
  · dsimp only
    split
    · exact .ended _
    · show Steps responder (responder.progressPhase device.recorded ((device.now state).2, [])).2
      unfold progressPhase
      split
      · exact progressPull_steps _ _ ‹_›
      · exact progressDownload_steps ..
      · exact progressVerify_steps _ _ ‹_›
      · exact progressApply_steps _ _ ‹_›
      all_goals exact steps_refl ..

/-! ## Responses to the device -/

/-- A portion of the package data goes behind those before it, or the pull starts over. -/
theorem takePart_steps {pull : PackagePull} {passed : Bool} (exchange : Exchange)
    (learning : responder.phase = .learnComponents (some pull) passed) (response : Response) :
    Steps responder (responder.takePart device.recorded { pull with exchange } passed response
      (state, [])).2 := by
  have restarted : Steps responder
      (responder.restartPull device.recorded { pull with exchange } passed (state, [])) := by
    unfold restartPull PackagePull.restart?
    dsimp only
    split
    · rename_i again begun
      split at begun
      · cases begun
      · cases begun
        exact .pulling rfl learning rfl rfl (fun _ => Nat.zero_le _) rfl rfl
    · exact .running rfl rfl rfl
  unfold takePart
  split
  · split
    · exact .pulling rfl learning rfl rfl id rfl rfl
    · split
      · exact restarted
      · rename_i transfer data accepted
        obtain ⟨size, bounded⟩ := Transfer.length_of_accept accepted
        split
        · exact .pulling rfl learning rfl size (fun _ => bounded) rfl rfl
        · exact .running rfl rfl rfl
  · split
    · exact restarted
    · exact .running rfl rfl rfl

/-- Firmware data pull no package data. -/
theorem takeData_steps (lastActivity : Nat) (offset : Nat) (exchange : Exchange)
    (options : UInt32) (details : ComponentDetails) (response : Response) :
    Steps responder (({ responder with lastActivity } : Responder).takeData device.recorded offset
      exchange options details response (state, [])) := by
  unfold takeData
  split
  · exact .running rfl rfl rfl
  · split
    · split
      · dsimp only [afterData]
        split <;> exact .running rfl rfl rfl
      · exact .running rfl rfl rfl
    · exact .running rfl rfl rfl

/-- Whatever reply comes, taking it is a step. -/
theorem takeReply_steps (agent : EndpointId) (message : List UInt8) :
    Steps responder (responder.takeReply device.recorded agent message (state, [])).2 := by
  unfold takeReply
  split
  · exact steps_refl ..
  · split
    · exact steps_refl ..
    · split
      · unfold takePackageReply
        split
        · split
          · exact takePart_steps _ _ _ ‹_› _
          · exact steps_refl ..
        · exact steps_refl ..
      · unfold takeDataReply
        split
        · split
          · exact takeData_steps ..
          · exact steps_refl ..
        · exact steps_refl ..
      all_goals exact steps_refl ..

end

/-- Every reaction of a recorded device from an empty record keeps what it has to. -/
theorem react_steps (responder : Responder) (device : Device σ) (state : σ)
    (input : ResponderInput) :
    Steps responder (responder.react device.recorded (state, []) input).2 := by
  cases input with
  | request agent message => exact answerRequest_steps ..
  | reply agent message => exact takeReply_steps ..
  | progress => exact progress_steps ..

end Responder

/-! ## Images -/

/-- What has been received of an image is no more than its size, and the transfer has succeeded
exactly when it is all. -/
def DevicePhase.Fetched : DevicePhase → Prop
  | .download offset result _ _ details =>
    offset ≤ details.size ∧ (result = some .success ↔ offset = details.size)
  | _ => True

/-- A phase without a component has no image that could be too long. -/
theorem DevicePhase.fetched_of_details {phase : DevicePhase} (none : phase.details? = none) :
    phase.Fetched := by
  cases phase with
  | download => cases none
  | _ => trivial

/-- What an image step does keeps each image within its size. -/
theorem ImageStep.fetched {before after : DevicePhase} {events : List UpdateEvent}
    (step : ImageStep before events after) (fetched : before.Fetched) : after.Fetched := by
  cases step with
  | aside quiet apart =>
      rcases apart with rfl | none
      · exact fetched
      · exact DevicePhase.fetched_of_details none
  | begun record options sized =>
      refine ⟨Nat.zero_le _, ?_⟩
      dsimp only
      split
      · rename_i empty
        exact iff_of_true rfl empty.symm
      · rename_i some
        exact iff_of_false nofun fun empty => some empty.symm
  | waited => exact fetched
  | received data result bounded some =>
      obtain ⟨within, unfinished⟩ := fetched
      unfold Responder.afterData
      split
      · refine ⟨by omega, ?_⟩
        split
        · exact iff_of_true rfl ‹_›
        · exact iff_of_false nofun ‹_›
      · rename_i failed
        refine ⟨within, iff_of_false (fun same => failed (Option.some.inj same)) fun whole => ?_⟩
        cases unfinished.mpr whole
  | broken =>
      obtain ⟨within, unfinished⟩ := fetched
      exact ⟨within, iff_of_false nofun fun whole => by cases unfinished.mpr whole⟩
  | _ => trivial

/-! ## Runs -/

namespace ResponderHistory

variable {σ : Type} {device : Device σ} {history : ResponderHistory σ}

/-- What a responder keeps, with the size of the package data that its agent has declared. -/
structure Sound (history : ResponderHistory σ) : Prop where
  tidy : history.responder.Tidy
  owned : history.responder.Owned
  fetched : history.responder.phase.Fetched
  pulled : ∀ pull passed, history.responder.phase = .learnComponents (some pull) passed →
    pull.data.length ≤ pull.transfer.totalSize ∧
      declaredSize? history.events = some pull.transfer.totalSize

/-- A responder that has nothing to do yet is sound. -/
theorem sound_of_fresh (size : Nat) (state : σ) :
    Sound { responder := .withMaxMessage size, state } where
  tidy := Responder.withMaxMessage_tidy size
  owned := Responder.withMaxMessage_owned size
  fetched := trivial
  pulled := nofun

/-- Components are accepted without a declaration of package data. -/
theorem declaredSize?_next (input : ResponderInput) :
    declaredSize? (history.next device input).events =
      (((history.react device input).2.2.2.filterMap DeviceCall.declaredSize?).getLast?).or
        (declaredSize? history.events) := by
  have accepted (component : Option ComponentRecord) :
      (component.map UpdateEvent.accepted).toList.filterMap UpdateEvent.declaredSize? = [] := by
    cases component <;> rfl
  unfold declaredSize? next
  simp only [List.filterMap_append, List.filterMap_map, accepted, List.append_nil,
    List.getLast?_append]
  rfl

/-- One reaction keeps all that a sound history keeps. -/
theorem Sound.next (sound : history.Sound) (input : ResponderInput) :
    (history.next device input).Sound := by
  have steps := Responder.react_steps history.responder device history.state input
  obtain ⟨events, -, image⟩ := history.imageStep device
    ⟨Nat.lt_of_lt_of_le (by decide) sound.tidy.transfer,
      Nat.lt_of_lt_of_le (by decide) sound.tidy.message⟩ input
  refine ⟨steps.tidy sound.tidy, (next_keepsOwner device history input).owned sound.owned,
    image.fetched sound.fetched, fun pull passed pulls => ?_⟩
  rw [declaredSize?_next]
  rcases steps.pull pull passed pulls with
    ⟨declared, empty⟩ | ⟨quiet, earlier, was, before, size, bounded⟩
  · rw [empty, show (history.react device input).2.2.2.filterMap DeviceCall.declaredSize? = _
      from declared]
    exact ⟨Nat.zero_le _, rfl⟩
  · obtain ⟨held, known⟩ := sound.pulled earlier was before
    rw [size, show (history.react device input).2.2.2.filterMap DeviceCall.declaredSize? = _
      from quiet]
    exact ⟨bounded held, known⟩

/-- Every run keeps it. -/
theorem Sound.run (sound : history.Sound) (inputs : List ResponderInput) :
    (history.run device inputs).Sound := by
  induction inputs generalizing history with
  | nil => exact sound
  | cons input rest ih => exact ih (sound.next input)

end ResponderHistory

end FirmwareUpdate
