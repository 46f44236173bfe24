import FirmwareUpdate.Proofs.Agent.Run
import FirmwareUpdate.Proofs.Device.Size
import FirmwareUpdate.Proofs.Device.Soundness

/-!
# Hearing of the agent

A device notes when it hears of the agent. It does so when it answers a command that brings the
update forward, and when it takes a reply that it waits for; nothing else touches the note. Each
handler has a lemma that says so, for every device with a clock that never goes backwards.
-/

namespace FirmwareUpdate

open Wire

variable {σ : Type}

/-! ## Clocks -/

/-- A clock that never goes backwards. No reading is before `clock`, none after a reading is
before it, and nothing that the device does sets the clock back. -/
structure Device.Forward (device : Device σ) (clock : σ → Nat) : Prop where
  now : ∀ state,
    clock state ≤ (device.now state).1 ∧ (device.now state).1 ≤ clock (device.now state).2
  identifiers : ∀ state, clock state ≤ clock (device.identifiers state).2
  requestUpdate : ∀ request state, clock state ≤ clock (device.requestUpdate request state).2
  packageData : ∀ data state, clock state ≤ clock (device.packageData data state)
  updateComponent : ∀ begins record state,
    clock state ≤ clock (device.updateComponent begins record state).2
  firmwareData : ∀ offset data details state,
    clock state ≤ clock (device.firmwareData offset data details state).2
  verify : ∀ details state, clock state ≤ clock (device.verify details state).2
  apply : ∀ details state, clock state ≤ clock (device.apply details state).2
  activate : ∀ selfContained state, clock state ≤ clock (device.activate selfContained state).2
  cancelComponent : ∀ details state, clock state ≤ clock (device.cancelComponent details state)

namespace Device.Forward

variable {device : Device σ} {clock : σ → Nat}

/-- A record of the calls does not touch the clock. -/
theorem recorded (forward : device.Forward clock) :
    device.recorded.Forward (clock ∘ Prod.fst) where
  now state := forward.now state.1
  identifiers state := forward.identifiers state.1
  requestUpdate request state := forward.requestUpdate request state.1
  packageData data state := forward.packageData data state.1
  updateComponent begins record state := forward.updateComponent begins record state.1
  firmwareData offset data details state := forward.firmwareData offset data details state.1
  verify details state := forward.verify details state.1
  apply details state := forward.apply details state.1
  activate selfContained state := forward.activate selfContained state.1
  cancelComponent details state := forward.cancelComponent details state.1

/-- Reading the clock does not turn it back. -/
theorem of_now (forward : device.Forward clock) (state : σ) :
    clock state ≤ clock (device.now state).2 :=
  Nat.le_trans (forward.now state).1 (forward.now state).2

/-- Neither does the question whether a component can be updated. -/
theorem checkComponent (forward : device.Forward clock) (begins : Bool) (record : ComponentRecord)
    (state : σ) : clock state ≤ clock (Responder.checkComponent device begins record state).2 := by
  unfold Responder.checkComponent
  split
  · exact forward.updateComponent ..
  · exact Nat.le_refl _

/-- Neither does the question whether a request is due. -/
theorem isDue (forward : device.Forward clock) (exchange : Exchange) (state : σ) :
    clock state ≤ clock (exchange.isDue device state).2 := by
  cases exchange with
  | sent => exact forward.of_now state
  | ready | failed => exact Nat.le_refl _

end Device.Forward

/-- The commands by which an agent begins an update and brings it forward. -/
def Command.isRenewal : Command → Bool
  | .requestUpdate | .getDeviceMetaData | .passComponentTable | .updateComponent => true
  | _ => false

namespace Responder

/-! ## Answers -/

section

variable (clock : σ → Nat) (device : Device σ) (responder : Responder) (agent : EndpointId)
  (request : Request) (state : σ)

/-- A portion of metadata is served that no message has room for. The device has to be made for
longer messages than there are. -/
def ServesTooMuch : Prop :=
  responder.state = .learnComponents ∧ responseHeaderSize + maxMessageSize < responder.maxMessage ∧
    ∃ part portion transfer error,
      decode "GetDeviceMetaData" PartRequest.reader request.data = .ok part ∧
        responder.metadata.serve part (device.metadata state) responder.metadataPortion =
          (.ok portion, transfer) ∧
        portion.layout.toMessage = .error error

/-- The note of when the agent was heard of is a time in the course of the reaction. -/
def NotedWithin (after : Responder × σ) : Prop :=
  clock state ≤ after.1.lastActivity ∧ after.1.lastActivity ≤ clock after.2

/-- What an answer to a command that brings the update forward can be. -/
inductive Renews : Answer σ → Prop where
  | heard {body : List UInt8} {after : Responder} {later : σ} (owner : after.owner = some agent)
      (noted : NotedWithin clock state (after, later)) :
      Renews (.ok (request.respond BaseCode.success body), after, later)
  | tooLong {cc : CompletionCode} {after : Responder} {later : σ}
      (asked : request.IsFor .getDeviceMetaData) (owner : responder.owner = some agent)
      (unwritten : responder.ServesTooMuch device request state)
      (failure : cc.isSuccess = false) (noted : NotedWithin clock state (after, later)) :
      Renews (.error cc, after, later)
  | refused {cc : CompletionCode} {after : Responder} {later : σ} (failure : cc.isSuccess = false)
      (forward : clock state ≤ clock later) (kept : after.lastActivity = responder.lastActivity)
      (still : after.state = responder.state) : Renews (.error cc, after, later)

end

variable {clock : σ → Nat} {device : Device σ} {responder : Responder} {agent : EndpointId}
  {request : Request} {state : σ}

/-- A command is refused. -/
theorem renews_refused {cc : CompletionCode} (failure : cc.isSuccess = false) :
    Renews clock device responder agent request state (.error cc, responder, state) :=
  .refused failure (Nat.le_refl _) rfl rfl

/-- A note taken in the course of a reaction is a time within it. -/
theorem noted_touch (forward : device.Forward clock) {ready : σ}
    (earlier : clock state ≤ clock ready) {after : Responder} {later : σ}
    (note : after.lastActivity = (device.now ready).1)
    (onwards : clock (device.now ready).2 ≤ clock later) :
    NotedWithin clock state (after, later) := by
  obtain ⟨reached, passed⟩ := forward.now ready
  unfold NotedWithin
  dsimp only
  omega

/-- An update that is accepted has its agent heard of. -/
theorem acceptUpdate_renews (forward : device.Forward clock) (update : UpdateRequest) {ready : σ}
    (earlier : clock state ≤ clock ready) :
    Renews clock device responder agent request state
      (responder.acceptUpdate device agent request update ready) := by
  unfold acceptUpdate
  dsimp only
  split
  · exact .refused rfl earlier rfl rfl
  · obtain ⟨written, responds⟩ :=
      respondWith_of_roundTrips request (UpdateResponse.roundTrips _) (by decide)
    rw [responds]
    exact .heard rfl (noted_touch forward earlier rfl (Nat.le_refl _))

/-- A request for an update has the agent heard of if it is accepted. -/
theorem answerUpdate_renews (forward : device.Forward clock) :
    Renews clock device responder agent request state
      (responder.answerUpdate device agent request state) := by
  unfold answerUpdate
  split
  · split
    · exact renews_refused (CompletionCode.isSuccess_ofCodecError _)
    · rename_i update decoded
      have earlier := forward.requestUpdate update state
      generalize device.requestUpdate update state = decision at earlier
      obtain ⟨policy, ready⟩ := decision
      cases policy with
      | accept => exact acceptUpdate_renews forward update earlier
      | retry | unable => exact .refused rfl earlier rfl rfl
  · exact renews_refused rfl

/-- So does a portion of metadata, even one that turns out too long to be sent. -/
theorem answerMetadata_renews (forward : device.Forward clock)
    (asked : request.IsFor .getDeviceMetaData)
    (mine : responder.state ≠ .idle → responder.owner = some agent) :
    Renews clock device responder agent request state
      (responder.answerMetadata device request state) := by
  unfold answerMetadata
  split
  · rename_i learning
    have learns : responder.state = .learnComponents := congrArg DevicePhase.state learning
    have owner := mine (by rw [learns]; decide)
    split
    · exact renews_refused (CompletionCode.isSuccess_ofCodecError _)
    · rename_i read
      split
      · exact .refused (TransferError.isSuccess_completionCode _) (Nat.le_refl _) rfl rfl
      · rename_i portion transfer served
        have noted : NotedWithin clock state (({ responder with metadata := transfer } :
            Responder).touch device state) :=
          noted_touch forward (Nat.le_refl _) rfl (Nat.le_refl _)
        unfold respondWith
        cases encoded : portion.layout.toMessage with
        | ok body => exact .heard owner noted
        | error error =>
            refine .tooLong asked owner ⟨learns, ?_, _, _, _, _, read, served, encoded⟩
              (CompletionCode.isSuccess_ofCodecError _) noted
            -- a portion that fits its room could have been written
            refine Nat.lt_of_not_le fun fits => ?_
            have short := Transfer.length_portion_of_serve served
            have room := metadataPortion_le fits (by decide)
            obtain ⟨body, written, -⟩ := portion.message (by omega) ""
            cases encoded.symm.trans written
  · exact renews_refused (isSuccess_refusal _)

/-- A portion that is too long has been noted before it is written. -/
theorem noted_of_servesTooMuch (forward : device.Forward clock)
    (unwritten : responder.ServesTooMuch device request state) :
    NotedWithin clock state (responder.answerMetadata device request state).2 := by
  obtain ⟨learns, -, part, portion, transfer, error, read, served, encoded⟩ := unwritten
  unfold answerMetadata
  split
  · rw [read]
    dsimp only
    rw [served]
    exact noted_touch forward (Nat.le_refl _) rfl (Nat.le_refl _)
  · rename_i elsewhere
    unfold Responder.state at learns
    cases phase : responder.phase with
    | learnComponents pull passed => exact absurd phase (elsewhere pull passed)
    | _ =>
        rw [phase] at learns
        cases learns

/-- So does an entry of the component table. -/
theorem answerTableEntry_renews (forward : device.Forward clock)
    (mine : responder.state ≠ .idle → responder.owner = some agent) :
    Renews clock device responder agent request state
      (responder.answerTableEntry device request state) := by
  unfold answerTableEntry
  split
  · rename_i learning
    have owner := mine (state_ne_idle learning nofun)
    split
    · exact renews_refused (CompletionCode.isSuccess_ofCodecError _)
    · split
      · exact renews_refused rfl
      · rename_i record _ _ _ _
        dsimp only
        obtain ⟨written, responds⟩ :=
          respondWith_of_roundTrips request (TableResponse.roundTrips _) (by decide)
        rw [responds]
        have noted (after : Responder) (note : after.lastActivity = (device.now state).1) :=
          noted_touch forward (Nat.le_refl _) note
            (forward.checkComponent false record (device.now state).2)
        refine .heard ?_ (noted _ ?_) <;> split <;> first | exact owner | rfl
  · exact renews_refused (isSuccess_refusal _)

/-- So does a component that is to be updated. -/
theorem answerComponent_renews (forward : device.Forward clock)
    (mine : responder.state ≠ .idle → responder.owner = some agent) :
    Renews clock device responder agent request state
      (responder.answerComponent device request state) := by
  unfold answerComponent
  split
  · rename_i ready
    have owner := mine (state_ne_idle ready nofun)
    split
    · exact renews_refused (CompletionCode.isSuccess_ofCodecError _)
    · rename_i record read
      dsimp only
      obtain ⟨written, responds⟩ :=
        respondWith_of_roundTrips request (ComponentResponse.roundTrips _) (by decide)
      rw [responds]
      have noted (after : Responder) (note : after.lastActivity = (device.now state).1) :=
        noted_touch forward (Nat.le_refl _) note
          (forward.checkComponent true record (device.now state).2)
      refine .heard ?_ (noted _ ?_) <;> split <;> first | exact owner | rfl
  · exact renews_refused (isSuccess_refusal _)

/-- A command that brings the update forward is answered with success when the agent is heard of,
and with a failure when it is not. -/
theorem answerCommand_renews (forward : device.Forward clock) {command : Command}
    (asked : request.IsFor command) (renewal : command.isRenewal = true)
    (mine : isOpen command = false → responder.state ≠ .idle → responder.owner = some agent) :
    Renews clock device responder agent request state
      (responder.answerCommand device agent request state command) := by
  cases command with
  | requestUpdate => exact answerUpdate_renews forward
  | getDeviceMetaData => exact answerMetadata_renews forward asked (mine rfl)
  | passComponentTable => exact answerTableEntry_renews forward (mine rfl)
  | updateComponent => exact answerComponent_renews forward (mine rfl)
  | _ => cases renewal

/-- Any other command notes nothing, and changes the state only if it ends the update or gives the
component up. -/
theorem answerCommand_aside (forward : device.Forward clock) (responder : Responder)
    (agent : EndpointId) (request : Request) (state : σ) {command : Command}
    (other : command.isRenewal = false) :
    let after := (responder.answerCommand device agent request state command).2
    clock state ≤ clock after.2 ∧ after.1.lastActivity = responder.lastActivity ∧
      (after.1.state = responder.state ∨ after.1.state = .idle ∨
        command = .cancelUpdateComponent ∧ responder.state ≠ .idle) := by
  cases command with
  | requestUpdate | getDeviceMetaData | passComponentTable | updateComponent => cases other
  | queryDeviceIdentifiers =>
      simp only [answerCommand, answerIdentifiers]
      split
      · exact ⟨forward.identifiers state, rfl, .inl rfl⟩
      · exact ⟨Nat.le_refl _, rfl, .inl rfl⟩
  | getFirmwareParameters =>
      simp only [answerCommand, answerParameters]
      split <;> exact ⟨Nat.le_refl _, rfl, .inl rfl⟩
  | getStatus =>
      simp only [answerCommand, answerStatus]
      split <;> exact ⟨Nat.le_refl _, rfl, .inl rfl⟩
  | activateFirmware =>
      simp only [answerCommand, answerActivation]
      split
      · exact ⟨Nat.le_refl _, rfl, .inl rfl⟩
      · split
        · split
          · exact ⟨forward.activate .., rfl, .inr (.inl rfl)⟩
          · exact ⟨forward.activate .., rfl, .inl rfl⟩
        · exact ⟨Nat.le_refl _, rfl, .inl rfl⟩
  | cancelUpdate =>
      simp only [answerCommand, answerCancel]
      split
      · exact ⟨Nat.le_refl _, rfl, .inl rfl⟩
      · exact ⟨Nat.le_refl _, rfl, .inl rfl⟩
      · split
        · refine ⟨?_, rfl, .inr (.inl rfl)⟩
          split
          · exact forward.cancelComponent ..
          · exact Nat.le_refl _
        · exact ⟨Nat.le_refl _, rfl, .inl rfl⟩
  | cancelUpdateComponent =>
      simp only [answerCommand, answerCancelComponent]
      split
      · exact ⟨Nat.le_refl _, rfl, .inl rfl⟩
      · rename_i details updating
        split
        · refine ⟨forward.cancelComponent .., rfl, .inr (.inr ⟨trivial, fun idle => ?_⟩)⟩
          obtain ⟨reason, phase⟩ := phase_of_state_idle idle
          rw [phase] at updating
          cases updating
        · exact ⟨Nat.le_refl _, rfl, .inl rfl⟩
  | _ => exact ⟨Nat.le_refl _, rfl, .inl rfl⟩

/-! ## Replies and progress -/

/-- The response answers the request for package data or firmware data that is outstanding. -/
def Awaits (responder : Responder) (response : Response) : Prop :=
  match responder.phase with
  | .learnComponents (some pull) _ =>
    response.cmd = Coded.code Command.getPackageData ∧ pull.exchange.isAnsweredBy response = true
  | .download _ none exchange _ _ =>
    response.cmd = Coded.code Command.requestFirmwareData ∧ exchange.isAnsweredBy response = true
  | _ => False

/-- What taking a reply can be: the reply is awaited and taken, and the agent is heard of; or
nothing is noted. -/
inductive TakesNote (clock : σ → Nat) (responder : Responder) (response : Response) (state : σ) :
    Except UpdateError Unit × Responder × σ → Prop where
  | heard {after : Responder} {later : σ} (awaited : responder.Awaits response)
      (noted : NotedWithin clock state (after, later)) :
      TakesNote clock responder response state (.ok (), after, later)
  | aside {outcome : Except UpdateError Unit} {after : Responder} {later : σ}
      (unheard : outcome = .ok () → ¬ responder.Awaits response)
      (forward : clock state ≤ clock later) (kept : after.lastActivity = responder.lastActivity) :
      TakesNote clock responder response state (outcome, after, later)

/-- A part that is taken is heard of, however the pull goes on. -/
theorem takePart_notes (forward : device.Forward clock) {pull : PackagePull} {passed : Bool}
    {response : Response} (awaited : responder.Awaits response) (exchange : Exchange) :
    TakesNote clock responder response state
      (responder.takePart device { pull with exchange } passed response state) := by
  have continued (next : PackagePull) : NotedWithin clock state
      (responder.continuePull device next passed state) :=
    noted_touch forward (Nat.le_refl _) rfl (Nat.le_refl _)
  have ended (data : Option (List UInt8)) : NotedWithin clock state
      (responder.endPull device passed data state) := by
    refine noted_touch forward (Nat.le_refl _) rfl ?_
    cases data with
    | none => exact Nat.le_refl _
    | some data => exact forward.packageData ..
  have restarted (next : PackagePull) : NotedWithin clock state
      (responder.restartPull device next passed state) := by
    unfold restartPull
    split
    · exact continued _
    · exact ended _
  unfold takePart
  split
  · split
    · exact .aside nofun (Nat.le_refl _) rfl
    · split
      · exact .heard awaited (restarted _)
      · split
        · exact .heard awaited (continued _)
        · exact .heard awaited (ended (some _))
  · split
    · exact .heard awaited (restarted _)
    · exact .heard awaited (ended none)

/-- A piece of an image leaves the note as it is. -/
theorem takeData_keepsNote (forward : device.Forward clock) (responder : Responder) (offset : Nat)
    (exchange : Exchange) (options : UInt32) (details : ComponentDetails) (response : Response)
    (state : σ) :
    let after := responder.takeData device offset exchange options details response state
    after.1.lastActivity = responder.lastActivity ∧ clock state ≤ clock after.2 := by
  unfold takeData
  split
  · exact ⟨rfl, Nat.le_refl _⟩
  · split
    · split
      · exact ⟨rfl, forward.firmwareData ..⟩
      · exact ⟨rfl, Nat.le_refl _⟩
    · exact ⟨rfl, Nat.le_refl _⟩

/-- A portion of package data has the agent heard of if it was awaited. -/
theorem takePackageReply_notes (forward : device.Forward clock) {response : Response}
    (asked : response.cmd = Coded.code Command.getPackageData) :
    TakesNote clock responder response state
      (responder.takePackageReply device response state) := by
  unfold takePackageReply
  split
  · rename_i pull passed pulling
    split
    · rename_i answers
      refine takePart_notes forward ?_ .ready
      rw [Awaits, pulling]
      exact ⟨asked, answers⟩
    · exact .aside nofun (Nat.le_refl _) rfl
  · rename_i elsewhere
    refine .aside (fun _ awaited => ?_) (Nat.le_refl _) rfl
    unfold Awaits at awaited
    split at awaited
    · exact elsewhere _ _ ‹_›
    · exact absurd (Coded.code_injective _ _ (asked.symm.trans awaited.1)) (by decide)
    · exact awaited

/-- A piece of an image has the agent heard of if it was awaited. -/
theorem takeDataReply_notes (forward : device.Forward clock) {response : Response}
    (asked : response.cmd = Coded.code Command.requestFirmwareData) :
    TakesNote clock responder response state
      (responder.takeDataReply device response state) := by
  unfold takeDataReply
  split
  · rename_i offset exchange options details receiving
    split
    · rename_i answers
      have awaited : responder.Awaits response := by
        rw [Awaits, receiving]
        exact ⟨asked, answers⟩
      obtain ⟨kept, onwards⟩ := takeData_keepsNote forward (responder.touch device state).1 offset
        exchange options details response (device.now state).2
      exact .heard awaited (noted_touch forward (Nat.le_refl _) kept onwards)
    · exact .aside nofun (Nat.le_refl _) rfl
  · rename_i elsewhere
    refine .aside (fun _ awaited => ?_) (Nat.le_refl _) rfl
    unfold Awaits at awaited
    split at awaited
    · exact absurd (Coded.code_injective _ _ (asked.symm.trans awaited.1)) (by decide)
    · exact elsewhere _ _ _ _ ‹_›
    · exact awaited

/-- The responses to other commands of a device are not awaited. -/
theorem takesNote_unawaited {response : Response} {command : Command}
    (known : (ofCode? response.cmd : Option Command) = some command)
    (other : command ≠ .getPackageData) (another : command ≠ .requestFirmwareData) :
    TakesNote clock responder response state (.ok (), responder, state) := by
  have cmd := ofCode?_eq_some_iff.mp known
  refine .aside (fun _ awaited => ?_) (Nat.le_refl _) rfl
  unfold Awaits at awaited
  split at awaited
  · exact other (Coded.code_injective _ _ (cmd.trans awaited.1))
  · exact another (Coded.code_injective _ _ (cmd.trans awaited.1))
  · exact awaited

/-- A message is refused, or it is a response that comes from the owner and may be awaited. -/
theorem takeReply_notes (forward : device.Forward clock) (responder : Responder)
    (agent : EndpointId) (message : List UInt8) (state : σ) :
    (∃ error, responder.takeReply device agent message state = (.error error, responder, state)) ∨
      ∃ response, responder.owner = some agent ∧ Response.parse message = .ok response ∧
        TakesNote clock responder response state
          (responder.takeReply device agent message state) := by
  unfold takeReply
  split
  · exact .inl ⟨_, rfl⟩
  · rename_i mine
    split
    · exact .inl ⟨_, rfl⟩
    · rename_i response parsed
      refine .inr ⟨response, Decidable.not_not.mp mine, parsed, ?_⟩
      split <;> rename_i known
      · exact takePackageReply_notes forward (ofCode?_eq_some_iff.mp known).symm
      · exact takeDataReply_notes forward (ofCode?_eq_some_iff.mp known).symm
      · exact takesNote_unawaited known nofun nofun
      · exact takesNote_unawaited known nofun nofun
      · exact takesNote_unawaited known nofun nofun
      · exact .aside nofun (Nat.le_refl _) rfl

/-- Nothing is noted, and the update goes on. -/
structure KeepsNote (clock : σ → Nat) (responder : Responder) (state : σ)
    (after : Responder × σ) : Prop where
  forward : clock state ≤ clock after.2
  kept : after.1.lastActivity = responder.lastActivity
  running : responder.state ≠ .idle → after.1.state ≠ .idle

/-- Nothing happens, but that the clock has been read. -/
theorem keepsNote_refl {ready : σ} (earlier : clock state ≤ clock ready) :
    KeepsNote clock responder state (responder, ready) :=
  ⟨earlier, rfl, id⟩

/-- Asking for package data is not hearing of the agent. -/
theorem progressPull_keepsNote (forward : device.Forward clock) (pull : PackagePull)
    (passed : Bool) :
    KeepsNote clock responder state (responder.progressPull device pull passed state).2 := by
  have earlier := forward.isDue pull.exchange state
  unfold progressPull
  split <;> rename_i due <;> rw [due] at earlier
  · exact keepsNote_refl earlier
  · split
    · exact keepsNote_refl earlier
    · exact ⟨Nat.le_trans earlier (forward.of_now _), rfl, fun _ => nofun⟩

/-- Asking for firmware data, or reporting on them, is not hearing of the agent. -/
theorem progressDownload_keepsNote (forward : device.Forward clock) (offset : Nat)
    (result : Option TransferResult) (exchange : Exchange) (options : UInt32)
    (details : ComponentDetails) :
    KeepsNote clock responder state
      (responder.progressDownload device offset result exchange options details state).2 := by
  have earlier := forward.isDue exchange state
  unfold progressDownload
  split <;> rename_i due <;> rw [due] at earlier
  · exact keepsNote_refl earlier
  · split
    · split
      · exact keepsNote_refl earlier
      · refine ⟨earlier, ?_, fun _ => ?_⟩ <;> dsimp only <;> split <;> first | rfl | exact nofun
    · dsimp only
      split
      · exact keepsNote_refl earlier
      · exact ⟨Nat.le_trans earlier (forward.of_now _), rfl, fun _ => nofun⟩

/-- Checking an image is not hearing of the agent. -/
theorem progressVerify_keepsNote (forward : device.Forward clock) (exchange : Exchange)
    (details : ComponentDetails) :
    KeepsNote clock responder state
      (responder.progressVerify device exchange details state).2 := by
  have earlier := forward.isDue exchange state
  unfold progressVerify
  split <;> rename_i due <;> rw [due] at earlier
  · exact keepsNote_refl earlier
  · have later := Nat.le_trans earlier (forward.verify details _)
    dsimp only
    split
    · exact keepsNote_refl later
    · refine ⟨later, ?_, fun _ => ?_⟩ <;> dsimp only <;> split <;> first | rfl | exact nofun

/-- Applying an image is not hearing of the agent. -/
theorem progressApply_keepsNote (forward : device.Forward clock) (exchange : Exchange)
    (details : ComponentDetails) :
    KeepsNote clock responder state
      (responder.progressApply device exchange details state).2 := by
  have earlier := forward.isDue exchange state
  unfold progressApply
  split <;> rename_i due <;> rw [due] at earlier
  · exact keepsNote_refl earlier
  · have later := Nat.le_trans earlier (forward.apply details _)
    dsimp only
    split
    · exact keepsNote_refl later
    · refine ⟨later, ?_, fun _ => ?_⟩ <;> dsimp only <;> split <;> first | rfl | exact nofun

/-- Making a request leaves the note as it is. -/
theorem progressPhase_keepsNote (forward : device.Forward clock) :
    KeepsNote clock responder state (responder.progressPhase device state).2 := by
  unfold progressPhase
  split
  · exact progressPull_keepsNote forward ..
  · exact progressDownload_keepsNote forward ..
  · exact progressVerify_keepsNote forward ..
  · exact progressApply_keepsNote forward ..
  all_goals exact keepsNote_refl (Nat.le_refl _)

/-- A device in an update gives it up after too long a silence, and moves it on otherwise. -/
theorem progress_of_running (running : responder.state ≠ .idle) :
    responder.progress device state =
      if silenceLimit < (device.now state).1 - responder.lastActivity then
        (none, responder.giveUp device (device.now state).2)
      else responder.progressPhase device (device.now state).2 := by
  unfold progress
  split
  · rename_i idle
    exact absurd (congrArg DevicePhase.state idle) running
  · rfl

/-- Progress is no note of the agent, whether or not the update is given up. -/
theorem progress_keepsNote (forward : device.Forward clock) (responder : Responder) (state : σ) :
    clock state ≤ clock (responder.progress device state).2.2 ∧
      (responder.progress device state).2.1.lastActivity = responder.lastActivity := by
  by_cases running : responder.state = .idle
  · obtain ⟨reason, idle⟩ := phase_of_state_idle running
    unfold progress
    rw [idle]
    exact ⟨Nat.le_refl _, rfl⟩
  · rw [progress_of_running running]
    split
    · refine ⟨Nat.le_trans (forward.of_now state) ?_, rfl⟩
      unfold giveUp
      dsimp only
      split
      · exact forward.cancelComponent ..
      · exact Nat.le_refl _
    · have kept : KeepsNote clock responder (device.now state).2
          (responder.progressPhase device (device.now state).2).2 :=
        progressPhase_keepsNote forward
      exact ⟨Nat.le_trans (forward.of_now state) kept.forward, kept.kept⟩

end Responder

end FirmwareUpdate
