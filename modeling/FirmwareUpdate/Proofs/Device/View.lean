import FirmwareUpdate.Proofs.Device.Run

/-!
# What a device answers from

A device need not answer from its whole state. `Device.SeenThrough` says that a view of the
state is enough: another device gives the same answers from the view alone. A responder in
front of either device then reacts alike (`Responder.react_seen`), so nothing that the view
leaves out can ever be told from outside.
-/

namespace FirmwareUpdate

open Wire

variable {σ τ : Type}

/-- `image` gives from the view of a state the answers that `device` gives from the state. -/
structure Device.SeenThrough (device : Device σ) (image : Device τ) (view : σ → τ) : Prop where
  identifiers : ∀ state,
    image.identifiers (view state) = Prod.map id view (device.identifiers state)
  components : ∀ state, image.components (view state) = device.components state
  activeVersion : ∀ state, image.activeVersion (view state) = device.activeVersion state
  pendingVersion : ∀ state, image.pendingVersion (view state) = device.pendingVersion state
  capabilities : ∀ state, image.capabilities (view state) = device.capabilities state
  requestUpdate : ∀ request state,
    image.requestUpdate request (view state) = Prod.map id view (device.requestUpdate request state)
  wantsPackageData : ∀ state,
    image.wantsPackageData (view state) = device.wantsPackageData state
  packageData : ∀ data state,
    image.packageData data (view state) = view (device.packageData data state)
  metadata : ∀ state, image.metadata (view state) = device.metadata state
  updateComponent : ∀ begins record state,
    image.updateComponent begins record (view state) =
      Prod.map id view (device.updateComponent begins record state)
  firmwareData : ∀ offset data details state,
    image.firmwareData offset data details (view state) =
      Prod.map id view (device.firmwareData offset data details state)
  verify : ∀ details state,
    image.verify details (view state) = Prod.map id view (device.verify details state)
  apply : ∀ details state,
    image.apply details (view state) = Prod.map id view (device.apply details state)
  activate : ∀ selfContained state,
    image.activate selfContained (view state) =
      Prod.map id view (device.activate selfContained state)
  cancelComponent : ∀ details state,
    image.cancelComponent details (view state) = view (device.cancelComponent details state)
  now : ∀ state, image.now (view state) = Prod.map id view (device.now state)

namespace Device.SeenThrough

variable {device : Device σ} {image : Device τ} {view : σ → τ}

/-- A device is seen through its whole state. -/
theorem refl (device : Device σ) : device.SeenThrough device id := by
  constructor <;> intros <;> rfl

/-- A record of the calls does not come between a device and its view. -/
theorem recorded (seen : device.SeenThrough image view) :
    device.recorded.SeenThrough image.recorded (Prod.map view id) where
  identifiers state := by simp [seen.identifiers]
  components state := seen.components state.1
  activeVersion state := seen.activeVersion state.1
  pendingVersion state := seen.pendingVersion state.1
  capabilities state := seen.capabilities state.1
  requestUpdate request state := by simp [seen.requestUpdate, Device.noting]
  wantsPackageData state := seen.wantsPackageData state.1
  packageData data state := by simp [seen.packageData]
  metadata state := seen.metadata state.1
  updateComponent begins record state := by simp [seen.updateComponent, Device.noting]
  firmwareData offset data details state := by simp [seen.firmwareData, Device.noting]
  verify details state := by simp [seen.verify, Device.noting]
  apply details state := by simp [seen.apply, Device.noting]
  activate selfContained state := by simp [seen.activate, Device.noting]
  cancelComponent details state := by simp [seen.cancelComponent]
  now state := by simp [seen.now]

end Device.SeenThrough

namespace Responder

/-- What a reaction comes to, with the view in place of the state of the device. -/
def through {α : Type} (view : σ → τ) (after : α × Responder × σ) : α × Responder × τ :=
  (after.1, after.2.1, view after.2.2)

section

variable {device : Device σ} {image : Device τ} {view : σ → τ}
  (seen : device.SeenThrough image view) (responder : Responder) (request : Request) (state : σ)

include seen

/-- Reading the clock to note activity is seen through the view. -/
theorem touch_seen :
    responder.touch image (view state) = Prod.map id view (responder.touch device state) := by
  simp [touch, seen.now]

/-- Whether a request is due is seen through the view. -/
theorem isDue_seen (exchange : Exchange) :
    exchange.isDue image (view state) = Prod.map id view (exchange.isDue device state) := by
  cases exchange <;> simp [Exchange.isDue, seen.now]

/-- What the device says about a component is seen through the view. -/
theorem checkComponent_seen (begins : Bool) (record : ComponentRecord) :
    checkComponent image begins record (view state) =
      Prod.map id view (checkComponent device begins record state) := by
  simp only [checkComponent, seen.components, seen.updateComponent]
  split <;> rfl

/-- The answer with the identifiers is seen through the view. -/
theorem answerIdentifiers_seen :
    responder.answerIdentifiers image request (view state) =
      through view (responder.answerIdentifiers device request state) := by
  simp only [answerIdentifiers, seen.identifiers]
  split <;> rfl

/-- The answer with the firmware parameters is seen through the view. -/
theorem answerParameters_seen :
    responder.answerParameters image request (view state) =
      through view (responder.answerParameters device request state) := by
  simp only [answerParameters, seen.capabilities, seen.components, seen.activeVersion,
    seen.pendingVersion]
  split <;> rfl

/-- That an update is accepted is seen through the view. -/
theorem acceptUpdate_seen (agent : EndpointId) (update : UpdateRequest) :
    responder.acceptUpdate image agent request update (view state) =
      through view (responder.acceptUpdate device agent request update state) := by
  simp only [acceptUpdate, seen.metadata, seen.wantsPackageData, touch_seen seen]
  split <;> rfl

/-- The answer to a request for an update is seen through the view. -/
theorem answerUpdate_seen (agent : EndpointId) :
    responder.answerUpdate image agent request (view state) =
      through view (responder.answerUpdate device agent request state) := by
  unfold answerUpdate
  split
  · split
    · rfl
    · rw [seen.requestUpdate]
      rcases device.requestUpdate _ state with ⟨policy, later⟩
      cases policy with
      | accept => exact acceptUpdate_seen seen ..
      | retry | unable => rfl
  · rfl

/-- A portion of the metadata is seen through the view. -/
theorem answerMetadata_seen :
    responder.answerMetadata image request (view state) =
      through view (responder.answerMetadata device request state) := by
  unfold answerMetadata
  split
  · split
    · rfl
    · rw [seen.metadata]
      split
      · rfl
      · simp only [touch_seen seen]
        rfl
  · rfl

/-- The answer to an entry of the component table is seen through the view. -/
theorem answerTableEntry_seen :
    responder.answerTableEntry image request (view state) =
      through view (responder.answerTableEntry device request state) := by
  unfold answerTableEntry
  split
  · split
    · rfl
    · split
      · rfl
      · simp only [touch_seen seen, Prod.map, checkComponent_seen seen]
        rfl
  · rfl

/-- The answer to a request to update a component is seen through the view. -/
theorem answerComponent_seen :
    responder.answerComponent image request (view state) =
      through view (responder.answerComponent device request state) := by
  unfold answerComponent
  split
  · split
    · rfl
    · simp only [touch_seen seen, Prod.map, checkComponent_seen seen]
      rfl
  · rfl

/-- The answer to a request for activation is seen through the view. -/
theorem answerActivation_seen :
    responder.answerActivation image request (view state) =
      through view (responder.answerActivation device request state) := by
  unfold answerActivation
  split
  · rfl
  · split
    · simp only [seen.activate, Prod.map, id_eq]
      split <;> rfl
    · rfl

/-- That an update is given up is seen through the view. -/
theorem answerCancel_seen :
    responder.answerCancel image request (view state) =
      through view (responder.answerCancel device request state) := by
  unfold answerCancel
  split
  · rfl
  · rfl
  · split
    · simp only [through]
      split <;> simp [seen.cancelComponent]
    · rfl

/-- That a component is given up is seen through the view. -/
theorem answerCancelComponent_seen :
    responder.answerCancelComponent image request (view state) =
      through view (responder.answerCancelComponent device request state) := by
  unfold answerCancelComponent
  split
  · rfl
  · split
    · simp [through, seen.cancelComponent]
    · rfl

/-- The answer to any command is seen through the view. -/
theorem answerCommand_seen (agent : EndpointId) (command : Command) :
    responder.answerCommand image agent request (view state) command =
      through view (responder.answerCommand device agent request state command) := by
  cases command with
  | queryDeviceIdentifiers => exact answerIdentifiers_seen seen ..
  | getFirmwareParameters => exact answerParameters_seen seen ..
  | requestUpdate => exact answerUpdate_seen seen ..
  | getDeviceMetaData => exact answerMetadata_seen seen ..
  | passComponentTable => exact answerTableEntry_seen seen ..
  | updateComponent => exact answerComponent_seen seen ..
  | activateFirmware => exact answerActivation_seen seen ..
  | cancelUpdate => exact answerCancel_seen seen ..
  | cancelUpdateComponent => exact answerCancelComponent_seen seen ..
  | getStatus =>
      simp only [answerCommand, answerStatus]
      split <;> rfl
  | _ => rfl

/-- The answer to any message is seen through the view. -/
theorem answerRequest_seen (agent : EndpointId) (message : List UInt8) :
    responder.answerRequest image agent message (view state) =
      through view (responder.answerRequest device agent message state) := by
  have answered (request : Request) : responder.answer image agent request (view state) =
      through view (responder.answer device agent request state) := by
    unfold answer
    repeat' split
    all_goals first | rfl | exact answerCommand_seen seen ..
  unfold answerRequest
  split
  · rfl
  · rw [answered]
    rcases responder.answer device agent _ state with ⟨answer, after, later⟩
    cases answer <;> rfl

/-- When a request was sent is seen through the view. -/
theorem markSent_seen :
    markSent image request (view state) = Prod.map id view (markSent device request state) := by
  simp [markSent, seen.now]

/-- The next request for package data is seen through the view. -/
theorem progressPull_seen (pull : PackagePull) (passed : Bool) :
    responder.progressPull image pull passed (view state) =
      through view (responder.progressPull device pull passed state) := by
  unfold progressPull
  rw [isDue_seen seen]
  rcases pull.exchange.isDue device state with ⟨due, later⟩
  cases due with
  | false => rfl
  | true =>
      simp only [Prod.map, id_eq, markSent_seen seen]
      split <;> rfl

/-- The next request for firmware data is seen through the view. -/
theorem progressDownload_seen (offset : Nat) (result : Option TransferResult)
    (exchange : Exchange) (options : UInt32) (details : ComponentDetails) :
    responder.progressDownload image offset result exchange options details (view state) =
      through view
        (responder.progressDownload device offset result exchange options details state) := by
  unfold progressDownload
  rw [isDue_seen seen]
  rcases exchange.isDue device state with ⟨due, later⟩
  cases due with
  | false => rfl
  | true =>
      cases result with
      | some result =>
          simp only [Prod.map, id_eq]
          split <;> rfl
      | none =>
          simp only [Prod.map, id_eq, markSent_seen seen]
          split <;> rfl

/-- A check of the image and its report are seen through the view. -/
theorem progressVerify_seen (exchange : Exchange) (details : ComponentDetails) :
    responder.progressVerify image exchange details (view state) =
      through view (responder.progressVerify device exchange details state) := by
  unfold progressVerify
  rw [isDue_seen seen]
  rcases exchange.isDue device state with ⟨due, later⟩
  cases due with
  | false => rfl
  | true =>
      simp only [Prod.map, id_eq, seen.verify]
      split <;> rfl

/-- That an image is put in its place is seen through the view. -/
theorem progressApply_seen (exchange : Exchange) (details : ComponentDetails) :
    responder.progressApply image exchange details (view state) =
      through view (responder.progressApply device exchange details state) := by
  unfold progressApply
  rw [isDue_seen seen]
  rcases exchange.isDue device state with ⟨due, later⟩
  cases due with
  | false => rfl
  | true =>
      simp only [Prod.map, id_eq, seen.apply]
      split <;> rfl

/-- All that a responder does of its own is seen through the view. -/
theorem progress_seen :
    responder.progress image (view state) = through view (responder.progress device state) := by
  unfold progress
  split
  · rfl
  · simp only [seen.now, Prod.map, id_eq]
    split
    · unfold giveUp through
      dsimp only
      split
      · rw [seen.cancelComponent]
      · rfl
    · unfold progressPhase
      split
      · exact progressPull_seen seen ..
      · exact progressDownload_seen seen ..
      · exact progressVerify_seen seen ..
      · exact progressApply_seen seen ..
      all_goals rfl

/-- The end of a pull is seen through the view. -/
theorem endPull_seen (passed : Bool) (data : Option (List UInt8)) :
    responder.endPull image passed data (view state) =
      Prod.map id view (responder.endPull device passed data state) := by
  simp only [endPull, touch_seen seen]
  cases data with
  | none => rfl
  | some data => simp [seen.packageData]

/-- A pull that starts over, or is given up, is seen through the view. -/
theorem restartPull_seen (pull : PackagePull) (passed : Bool) :
    responder.restartPull image pull passed (view state) =
      Prod.map id view (responder.restartPull device pull passed state) := by
  unfold restartPull
  split
  · exact touch_seen seen ..
  · exact endPull_seen seen ..

/-- A portion of package data that comes is seen through the view. -/
theorem takePart_seen (pull : PackagePull) (passed : Bool) (response : Response) :
    responder.takePart image pull passed response (view state) =
      through view (responder.takePart device pull passed response state) := by
  unfold takePart
  simp only [restartPull_seen seen, endPull_seen seen, continuePull, touch_seen seen]
  split
  · split
    · rfl
    · split
      · rfl
      · split <;> rfl
  · split <;> rfl

/-- Firmware data that come are seen through the view. -/
theorem takeData_seen (offset : Nat) (exchange : Exchange) (options : UInt32)
    (details : ComponentDetails) (response : Response) :
    responder.takeData image offset exchange options details response (view state) =
      Prod.map id view
        (responder.takeData device offset exchange options details response state) := by
  simp only [takeData, seen.firmwareData]
  split
  · rfl
  · split
    · split <;> rfl
    · rfl

/-- Any reply that comes is seen through the view. -/
theorem takeReply_seen (agent : EndpointId) (message : List UInt8) :
    responder.takeReply image agent message (view state) =
      through view (responder.takeReply device agent message state) := by
  unfold takeReply
  split
  · rfl
  · split
    · rfl
    · split
      · unfold takePackageReply
        split
        · split
          · exact takePart_seen seen ..
          · rfl
        · rfl
      · unfold takeDataReply
        split
        · split
          · simp only [touch_seen seen, Prod.map, takeData_seen seen]
            rfl
          · rfl
        · rfl
      all_goals rfl

/-- A responder reacts to what can be seen of its device. -/
theorem react_seen (input : ResponderInput) :
    responder.react image (view state) input =
      through view (responder.react device state input) := by
  cases input with
  | request agent message => simp only [react, answerRequest_seen seen, through]
  | reply agent message => simp only [react, takeReply_seen seen, through]
  | progress => simp only [react, progress_seen seen, through]

end

end Responder

end FirmwareUpdate
