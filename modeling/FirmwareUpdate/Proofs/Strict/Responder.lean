import FirmwareUpdate.Proofs.Device.Soundness
import FirmwareUpdate.Proofs.Strict.Basic

/-!
# Responders stay within what they assume

A strict responder goes on only where everything that the procedure takes for granted is so:
nobody owns a device that is idle and somebody any other, a phase is entered only by a device
that has an owner, an entry of the component table has neither size nor options, firmware data
are asked for only while they are received, and differences and quotients exist. Every sound
responder does the same as the strict one.
-/

namespace FirmwareUpdate

open Wire

namespace DeviceIdentifiers

/-- The body of a response: the length of the descriptors before all else. -/
def responseLayoutStrictly (identifiers : DeviceIdentifiers) : Option Layout :=
  match identifiers.layout.toMessage with
  | .error error => pure (Layout.refused error)
  | .ok body => do
    let size ← Strict.difference body.length 1
    pure (Layout.word32 (UInt32.ofNat size) ++ Layout.bytes body)

variable {identifiers : DeviceIdentifiers}

/-- The descriptors begin with their count. -/
theorem length_of_written {body : List UInt8}
    (written : identifiers.layout.toMessage = .ok body) : 1 ≤ body.length := by
  have spelled := (Layout.toMessage_eq_ok_iff.mp written).1
  unfold layout at spelled
  split at spelled
  · obtain ⟨rest, -, rfl⟩ := map_eq_ok_iff.mp spelled
    exact Nat.succ_pos _
  · cases spelled

/-- The length of the descriptors can always be given. -/
theorem responseLayoutStrictly_eq :
    identifiers.responseLayoutStrictly = some identifiers.responseLayout := by
  unfold responseLayoutStrictly responseLayout
  cases written : identifiers.layout.toMessage with
  | error error => rfl
  | ok body =>
      dsimp only
      rw [Strict.difference_of_le (length_of_written written)]
      rfl

end DeviceIdentifiers

namespace Responder

variable {σ : Type}

/-! ## Strict responders -/

/-- Enters another phase of an update, which somebody has to own. -/
def enterStrictly (responder : Responder) (phase : DevicePhase) : Option Responder := do
  Strict.ensure (phase.state ≠ .idle)
  Strict.ensure (responder.owner.isSome)
  pure (responder.enter phase)

/-- What the device says about itself. -/
def statusStrictly (responder : Responder) : Option DeviceStatus :=
  match responder.phase with
  | .download offset _ _ _ details =>
    if 0 < details.size then do
      let progress ← Strict.quotient offset ((details.size + 99) / 100)
      pure { responder.status with progress := UInt8.ofNat progress }
    else pure responder.status
  | _ => pure responder.status

/-- Says what the device is. -/
def answerIdentifiersStrictly (responder : Responder) (device : Device σ) (request : Request)
    (state : σ) : Option (Answer σ) :=
  if request.data.isEmpty then do
    let (identifiers, state) := device.identifiers state
    let layout ← identifiers.responseLayoutStrictly
    pure (respondWith request layout, responder, state)
  else pure (.error BaseCode.invalidData, responder, state)

/-- Enters an update that the device has accepted. -/
def acceptUpdateStrictly (responder : Responder) (device : Device σ) (agent : EndpointId)
    (request : Request) (update : UpdateRequest) (state : σ) : Option (Answer σ) :=
  let size := (device.metadata state).length
  if 65536 ≤ size then pure (.error BaseCode.error, responder, state)
  else do
    let pull : Option PackagePull :=
      if 0 < update.packageDataSize.toNat && device.wantsPackageData state then
        some { transfer :=
          { kind := .packageData, totalSize := update.packageDataSize.toNat } }
      else none
    let body : UpdateResponse :=
      { metadataSize := UInt16.ofNat size, pullsPackageData := if pull.isSome then 1 else 0 }
    let (responder, state) := responder.touch device state
    let responder ← { responder with
      maxTransfer := max update.maxTransfer.toNat baselineTransfer
      metadata := responder.metadata.reset
      owner := some agent }.enterStrictly (.learnComponents pull false)
    pure (respondWith request body.layout, responder, state)

/-- Enters an update, if the device is idle and agrees. -/
def answerUpdateStrictly (responder : Responder) (device : Device σ) (agent : EndpointId)
    (request : Request) (state : σ) : Option (Answer σ) :=
  match responder.phase with
  | .idle _ =>
    match decode "RequestUpdate" UpdateRequest.reader request.data with
    | .error error => pure (.error (.ofCodecError error), responder, state)
    | .ok update =>
      match device.requestUpdate update state with
      | (.retry, state) => pure (.error UpdateCode.retryRequestUpdate, responder, state)
      | (.unable, state) => pure (.error UpdateCode.unableToInitiateUpdate, responder, state)
      | (.accept, state) => responder.acceptUpdateStrictly device agent request update state
  | _ => pure (.error UpdateCode.alreadyInUpdateMode, responder, state)

/-- The most bytes of metadata in one portion. -/
def metadataPortionStrictly (responder : Responder) : Option Nat := do
  let message ← Strict.difference responder.maxMessage responseHeaderSize
  let room ← Strict.difference message PartResponse.headerSize
  pure (min responder.maxTransfer room)

/-- Serves a portion of the metadata. -/
def answerMetadataStrictly (responder : Responder) (device : Device σ) (request : Request)
    (state : σ) : Option (Answer σ) :=
  match responder.phase with
  | .learnComponents _ _ =>
    match decode "GetDeviceMetaData" PartRequest.reader request.data with
    | .error error => pure (.error (.ofCodecError error), responder, state)
    | .ok part => do
      let portion ← responder.metadataPortionStrictly
      match ← responder.metadata.serveStrictly part (device.metadata state) portion with
      | (.error error, metadata) =>
        pure (.error error.completionCode, { responder with metadata }, state)
      | (.ok part, metadata) =>
        let (responder, state) := { responder with metadata }.touch device state
        pure (respondWith request part.layout, responder, state)
  | phase => pure (.error phase.refusal, responder, state)

/-- Takes an entry of the component table, which has neither size nor options. -/
def answerTableEntryStrictly (responder : Responder) (device : Device σ) (request : Request)
    (state : σ) : Option (Answer σ) :=
  match responder.phase with
  | .learnComponents pull passed =>
    match decode "PassComponentTable" tableEntryReader request.data with
    | .error error => pure (.error (.ofCodecError error), responder, state)
    | .ok (code, record) => do
      Strict.ensure (record.options = none)
      Strict.ensure (record.size = none)
      match followingFlag? passed code with
      | none => pure (.error UpdateCode.invalidStateForCommand, responder, state)
      | some flag =>
        let (responder, state) := responder.touch device state
        let (answer, state) := checkComponent device false record state
        let responder := { responder with phase := .learnComponents pull true }
        let after ← if flag.isEnd then responder.enterStrictly .readyXfer else pure responder
        pure (respondWith request (TableResponse.of answer).layout, after, state)
  | phase => pure (.error phase.refusal, responder, state)

/-- Begins the update of a component, if the device agrees. -/
def answerComponentStrictly (responder : Responder) (device : Device σ) (request : Request)
    (state : σ) : Option (Answer σ) :=
  match responder.phase with
  | .readyXfer =>
    match decode "UpdateComponent" ComponentRecord.updateReader request.data with
    | .error error => pure (.error (.ofCodecError error), responder, state)
    | .ok record => do
      let (responder, state) := responder.touch device state
      let (answer, state) := checkComponent device true record state
      let options := record.options.getD 0 &&& 0x1
      let body : ComponentResponse :=
        { response := if answer = 0 then 0 else 1
          answerCode := answer
          options
          estimatedTime := 0 }
      let after ← if answer = 0 then responder.enterStrictly (beginDownload record options)
        else pure responder
      pure (respondWith request body.layout, after, state)
  | phase => pure (.error phase.refusal, responder, state)

/-- Activates the images that have been applied. -/
def answerActivationStrictly (responder : Responder) (device : Device σ) (request : Request)
    (state : σ) : Option (Answer σ) :=
  match decode "ActivateFirmware" ActivationRequest.reader request.data with
  | .error error => pure (.error (.ofCodecError error), responder, state)
  | .ok activation =>
    match responder.phase with
    | .readyXfer => do
      let (result, state) := device.activate activation.selfContained state
      if result.endsUpdate then
        let active ← responder.enterStrictly .activate
        pure ((fun response => { response with cc := result.completionCode }) <$>
            respondWith request (ActivationResponse.layout { estimatedTime := 0 }),
          active.enterIdle .activate, state)
      else pure (.error result.completionCode, responder, state)
    | phase => pure (.error phase.refusal, responder, state)

/-- Gives up the component that is being updated. -/
def answerCancelComponentStrictly (responder : Responder) (device : Device σ) (request : Request)
    (state : σ) : Option (Answer σ) :=
  match responder.phase.details? with
  | none => pure (.error responder.phase.refusal, responder, state)
  | some details =>
    if request.data.isEmpty then do
      let after ← responder.enterStrictly .readyXfer
      pure (.ok (request.respond BaseCode.success []), after, device.cancelComponent details state)
    else pure (.error BaseCode.invalidData, responder, state)

/-- Says what the device is doing. -/
def answerStatusStrictly (responder : Responder) (request : Request) (state : σ) :
    Option (Answer σ) :=
  if request.data.isEmpty then do
    let status ← responder.statusStrictly
    pure (respondWith request status.layout, responder, state)
  else pure (.error BaseCode.invalidData, responder, state)

/-- Answers a command. -/
def answerCommandStrictly (responder : Responder) (device : Device σ) (agent : EndpointId)
    (request : Request) (state : σ) : Command → Option (Answer σ)
  | .queryDeviceIdentifiers => responder.answerIdentifiersStrictly device request state
  | .requestUpdate => responder.answerUpdateStrictly device agent request state
  | .getDeviceMetaData => responder.answerMetadataStrictly device request state
  | .passComponentTable => responder.answerTableEntryStrictly device request state
  | .updateComponent => responder.answerComponentStrictly device request state
  | .activateFirmware => responder.answerActivationStrictly device request state
  | .cancelUpdateComponent => responder.answerCancelComponentStrictly device request state
  | .getStatus => responder.answerStatusStrictly request state
  | command => pure (responder.answerCommand device agent request state command)

/-- Answers a request of an agent that may make it. Only an idle device has no owner. -/
def answerStrictly (responder : Responder) (device : Device σ) (agent : EndpointId)
    (request : Request) (state : σ) : Option (Answer σ) :=
  if request.typ ≠ firmwareUpdateType then pure (.error BaseCode.invalidType, responder, state)
  else match (ofCode? request.cmd : Option Command) with
    | none => pure (.error BaseCode.unsupportedCommand, responder, state)
    | some command =>
      if !isOpen command && responder.isForeign agent then
        pure (.error BaseCode.notReady, responder, state)
      else do
        Strict.ensure (responder.owner = none ↔ responder.state = .idle)
        responder.answerCommandStrictly device agent request state command

/-- Answers a message from an agent. -/
def answerRequestStrictly (responder : Responder) (device : Device σ) (agent : EndpointId)
    (message : List UInt8) (state : σ) :
    Option (Except UpdateError (List UInt8) × Responder × σ) :=
  match Request.parse message with
  | .error error => pure (.error (.codec error), responder, state)
  | .ok request => do
    match ← responder.answerStrictly device agent request state with
    | (.ok response, responder, state) => pure (.ok response.toBytes, responder, state)
    | (.error cc, responder, state) =>
      pure (.ok (request.respond cc []).toBytes, responder, state)

/-- The bytes of firmware data to ask for next, by a device that receives them. -/
def requestSizeStrictly (responder : Responder) : Option Nat :=
  match responder.phase with
  | .download offset _ _ _ details => do
    let room ← Strict.difference responder.maxMessage responseHeaderSize
    pure (min (min (details.size - offset) responder.maxTransfer) room)
  | _ => none

/-- Asks for a piece of the image, or reports how the transfer has ended. -/
def progressDownloadStrictly (responder : Responder) (device : Device σ) (offset : Nat)
    (result : Option TransferResult) (exchange : Exchange) (options : UInt32)
    (details : ComponentDetails) (state : σ) :
    Option (Option (List UInt8) × Responder × σ) :=
  match exchange.isDue device state with
  | (false, state) => pure (none, responder, state)
  | (true, state) =>
    match result with
    | some result =>
      match (ResultReport.layout { result := Coded.code result }).toMessage with
      | .error _ => pure (none, responder, state)
      | .ok body => do
        let (request, responder) := responder.newRequest .transferComplete body
        let after ← if result = .success then responder.enterStrictly (.verify .ready details)
          else pure { responder with
            phase := .download offset (some result) (.failed (Coded.code result)) options details }
        pure (some request.toBytes, after, state)
    | none => do
      let size ← responder.requestSizeStrictly
      let wanted : DataRequest :=
        { offset := UInt32.ofNat offset, length := UInt32.ofNat size }
      match wanted.layout.toMessage with
      | .error _ => pure (none, responder, state)
      | .ok body =>
        let (request, responder) := responder.newRequest .requestFirmwareData body
        let (exchange, state) := markSent device request state
        pure (some request.toBytes,
          { responder with phase := .download offset none exchange options details },
          state)

/-- Checks the image and reports the result. -/
def progressVerifyStrictly (responder : Responder) (device : Device σ) (exchange : Exchange)
    (details : ComponentDetails) (state : σ) :
    Option (Option (List UInt8) × Responder × σ) :=
  match exchange.isDue device state with
  | (false, state) => pure (none, responder, state)
  | (true, state) =>
    let (result, state) := device.verify details state
    match (ResultReport.layout { result := Coded.code result }).toMessage with
    | .error _ => pure (none, responder, state)
    | .ok body => do
      let (request, responder) := responder.newRequest .verifyComplete body
      let after ← if result = .success then responder.enterStrictly (.apply .ready details)
        else pure { responder with phase := .verify (.failed (Coded.code result)) details }
      pure (some request.toBytes, after, state)

/-- Applies the image and reports the result. -/
def progressApplyStrictly (responder : Responder) (device : Device σ) (exchange : Exchange)
    (details : ComponentDetails) (state : σ) :
    Option (Option (List UInt8) × Responder × σ) :=
  match exchange.isDue device state with
  | (false, state) => pure (none, responder, state)
  | (true, state) =>
    let (outcome, state) := device.apply details state
    let (result, methods) := applyReport outcome
    match (ApplyReport.layout { result := Coded.code result, methods }).toMessage with
    | .error _ => pure (none, responder, state)
    | .ok body => do
      let (request, responder) := responder.newRequest .applyComplete body
      let after ← if result.isSuccess then responder.enterStrictly .readyXfer
        else pure { responder with phase := .apply (.failed (Coded.code result)) details }
      pure (some request.toBytes, after, state)

/-- Makes the request of the current phase, if one is due. -/
def progressPhaseStrictly (responder : Responder) (device : Device σ) (state : σ) :
    Option (Option (List UInt8) × Responder × σ) :=
  match responder.phase with
  | .learnComponents (some pull) passed => pure (responder.progressPull device pull passed state)
  | .download offset result exchange options details =>
    responder.progressDownloadStrictly device offset result exchange options details state
  | .verify exchange details => responder.progressVerifyStrictly device exchange details state
  | .apply exchange details => responder.progressApplyStrictly device exchange details state
  | .idle _ | .learnComponents none _ | .readyXfer | .activate => pure (none, responder, state)

/-- Moves the update on. -/
def progressStrictly (responder : Responder) (device : Device σ) (state : σ) :
    Option (Option (List UInt8) × Responder × σ) :=
  match responder.phase with
  | .idle _ => pure (none, responder, state)
  | _ =>
    let (now, state) := device.now state
    if silenceLimit < now - responder.lastActivity then
      let (responder, state) := responder.giveUp device state
      pure (none, responder, state)
    else responder.progressPhaseStrictly device state

/-- Takes the answer to a request for firmware data. -/
def takeDataStrictly (responder : Responder) (device : Device σ) (offset : Nat)
    (exchange : Exchange) (options : UInt32) (details : ComponentDetails) (response : Response)
    (state : σ) : Option (Responder × σ) :=
  if response.cc = UpdateCode.retryRequestFirmwareData then
    pure ({ responder with phase := .download offset none .ready options details }, state)
  else if response.cc.isSuccess then do
    let size ← responder.requestSizeStrictly
    if response.data.length = size then
      let (result, state) := device.firmwareData offset response.data details state
      pure ({ responder with
        phase := afterData offset response.data.length result options details }, state)
    else pure ({ responder with phase := .download offset none exchange options details }, state)
  else
    pure ({ responder with phase := .download offset (some .generic) .ready options details },
      state)

/-- Takes a response to a request for firmware data, if the device waits for any. -/
def takeDataReplyStrictly (responder : Responder) (device : Device σ) (response : Response)
    (state : σ) : Option (Except UpdateError Unit × Responder × σ) :=
  match responder.phase with
  | .download offset none exchange options details =>
    if exchange.isAnsweredBy response then do
      let (responder, state) := responder.touch device state
      let after ← responder.takeDataStrictly device offset exchange options details response state
      pure (.ok (), after)
    else pure (.error (.codec (.protocol .unmatchedResponse)), responder, state)
  | _ => pure (.ok (), responder, state)

/-- Takes a message that should be a response to a request of the device. -/
def takeReplyStrictly (responder : Responder) (device : Device σ) (agent : EndpointId)
    (message : List UInt8) (state : σ) : Option (Except UpdateError Unit × Responder × σ) :=
  if responder.owner ≠ some agent then
    pure (.error (.codec (.protocol (.foreignEndpoint agent.byte))), responder, state)
  else match Response.parse message with
    | .error error => pure (.error (.codec error), responder, state)
    | .ok response =>
      match (ofCode? response.cmd : Option Command) with
      | some .getPackageData => pure (responder.takePackageReply device response state)
      | some .requestFirmwareData => responder.takeDataReplyStrictly device response state
      | some .transferComplete | some .verifyComplete | some .applyComplete =>
        pure (.ok (), responder, state)
      | _ => pure (.error (.codec (.protocol .unsupportedResponse)), responder, state)

/-! ## They do what responders do -/

section

variable {responder : Responder} (device : Device σ) (request : Request) (state : σ)

/-- A device that has an owner may enter any phase of an update. -/
theorem enterStrictly_eq (owner : responder.owner.isSome = true) {after : Responder}
    {phase : DevicePhase} (same : after.owner = responder.owner)
    (running : phase.state ≠ .idle) : after.enterStrictly phase = some (after.enter phase) := by
  unfold enterStrictly
  rw [Strict.ensure_of_holds running, same, Strict.ensure_of_holds owner]
  rfl

/-- The status can be told in every phase. -/
theorem statusStrictly_eq : responder.statusStrictly = some responder.status := by
  unfold statusStrictly
  split
  · rename_i phase
    split
    · rename_i some
      rw [Strict.quotient_of_pos (by omega)]
      unfold status
      rw [phase]
      dsimp only
      rw [if_pos some]
      rfl
    · rfl
  · rfl

/-- The identifiers are given without an assumption. -/
theorem answerIdentifiersStrictly_eq :
    responder.answerIdentifiersStrictly device request state =
      some (responder.answerIdentifiers device request state) := by
  unfold answerIdentifiersStrictly answerIdentifiers
  split
  · dsimp only
    rw [DeviceIdentifiers.responseLayoutStrictly_eq]
    rfl
  · rfl

/-- An update is accepted without an assumption: the agent becomes the owner first. -/
theorem acceptUpdateStrictly_eq (agent : EndpointId) (update : UpdateRequest) :
    responder.acceptUpdateStrictly device agent request update state =
      some (responder.acceptUpdate device agent request update state) := by
  unfold acceptUpdateStrictly acceptUpdate
  dsimp only
  split
  · rfl
  · have owner : ({ responder with owner := some agent } : Responder).owner.isSome = true := rfl
    rw [enterStrictly_eq owner]
    · rfl
    · rfl
    · rintro ⟨⟩

/-- A request for an update is answered without an assumption. -/
theorem answerUpdateStrictly_eq (agent : EndpointId) :
    responder.answerUpdateStrictly device agent request state =
      some (responder.answerUpdate device agent request state) := by
  unfold answerUpdateStrictly answerUpdate
  cases responder.phase with
  | idle reason =>
      dsimp only
      cases decode "RequestUpdate" UpdateRequest.reader request.data with
      | error error => rfl
      | ok update =>
          dsimp only
          cases device.requestUpdate update state with
          | mk policy later =>
              cases policy with
              | accept => exact acceptUpdateStrictly_eq ..
              | _ => rfl
  | _ => rfl

/-- A tidy responder has room for metadata behind the header. -/
theorem metadataPortionStrictly_eq (tidy : responder.Tidy) :
    responder.metadataPortionStrictly = some responder.metadataPortion := by
  have room : responseHeaderSize + PartResponse.headerSize ≤ responder.maxMessage :=
    Nat.le_trans (by decide) tidy.message
  unfold metadataPortionStrictly
  simp only [Option.bind_eq_bind, Strict.difference_of_le (Nat.le_trans (Nat.le_add_right ..) room),
    Option.bind_some, Strict.difference_of_le (Nat.le_sub_of_add_le' room)]
  rfl

/-- So a portion of the metadata is answered as it should be. -/
theorem answerMetadataStrictly_eq (tidy : responder.Tidy) :
    responder.answerMetadataStrictly device request state =
      some (responder.answerMetadata device request state) := by
  unfold answerMetadataStrictly answerMetadata
  cases responder.phase with
  | learnComponents pull passed =>
      dsimp only
      cases decode "GetDeviceMetaData" PartRequest.reader request.data with
      | error error => rfl
      | ok part =>
          simp only [Option.bind_eq_bind, metadataPortionStrictly_eq tidy, Option.bind_some,
            Transfer.serveStrictly_eq]
          cases responder.metadata.serve part (device.metadata state) responder.metadataPortion with
          | mk served metadata => cases served <;> rfl
  | _ => rfl

/-- An entry of the component table has no fields for size and options. -/
theorem blank_of_tableEntry {what : String} {body : List UInt8} {code : UInt8}
    {record : ComponentRecord} (read : decode what tableEntryReader body = .ok (code, record)) :
    record.size = none ∧ record.options = none := by
  simp only [decode] at read
  split at read <;> try cases read
  rename_i read
  simp only [tableEntryReader, ComponentRecord.tableReader, Reader.bind_eq_ok_iff] at read
  obtain ⟨_, _, _, _, _, ⟨_, _, _, _, _, _, _, _, _, entry⟩, done⟩ := read
  cases entry
  cases done
  exact ⟨rfl, rfl⟩

/-- Who is not idle has an owner. -/
theorem Owned.isSome (owned : responder.Owned) (running : responder.state ≠ .idle) :
    responder.owner.isSome = true := by
  cases owner : responder.owner with
  | none => exact absurd (owned.mp owner) running
  | some agent => rfl

/-- An owned responder announces a component as it should. -/
theorem answerTableEntryStrictly_eq (owned : responder.Owned) :
    responder.answerTableEntryStrictly device request state =
      some (responder.answerTableEntry device request state) := by
  unfold answerTableEntryStrictly answerTableEntry
  cases phase : responder.phase with
  | learnComponents pull passed =>
      have owner := owned.isSome (state_ne_idle phase (by rintro ⟨⟩))
      dsimp only
      cases read : decode "PassComponentTable" tableEntryReader request.data with
      | error error => rfl
      | ok entry =>
          obtain ⟨code, record⟩ := entry
          obtain ⟨size, options⟩ := blank_of_tableEntry read
          simp only [Option.bind_eq_bind, Strict.ensure_of_holds options,
            Strict.ensure_of_holds size, Option.bind_some]
          cases followingFlag? passed code with
          | none => rfl
          | some flag =>
              dsimp only
              split
              · rw [enterStrictly_eq owner]
                · rfl
                · rfl
                · rintro ⟨⟩
              · rfl
  | _ => rfl

/-- An owned responder begins to receive a component as it should. -/
theorem answerComponentStrictly_eq (owned : responder.Owned) :
    responder.answerComponentStrictly device request state =
      some (responder.answerComponent device request state) := by
  unfold answerComponentStrictly answerComponent
  cases phase : responder.phase with
  | readyXfer =>
      have owner := owned.isSome (state_ne_idle phase (by rintro ⟨⟩))
      dsimp only
      cases decode "UpdateComponent" ComponentRecord.updateReader request.data with
      | error error => rfl
      | ok record =>
          dsimp only
          split
          · rw [enterStrictly_eq owner]
            · rfl
            · rfl
            · rintro ⟨⟩
          · rfl
  | _ => rfl

/-- An owned responder activates as it should. -/
theorem answerActivationStrictly_eq (owned : responder.Owned) :
    responder.answerActivationStrictly device request state =
      some (responder.answerActivation device request state) := by
  unfold answerActivationStrictly answerActivation
  cases decode "ActivateFirmware" ActivationRequest.reader request.data with
  | error error => rfl
  | ok activation =>
      dsimp only
      cases phase : responder.phase with
      | readyXfer =>
          have owner := owned.isSome (state_ne_idle phase (by rintro ⟨⟩))
          dsimp only
          split
          · rw [enterStrictly_eq owner]
            · rfl
            · rfl
            · rintro ⟨⟩
          · rfl
      | _ => rfl

/-- An owned responder gives up a component as it should. -/
theorem answerCancelComponentStrictly_eq (owned : responder.Owned) :
    responder.answerCancelComponentStrictly device request state =
      some (responder.answerCancelComponent device request state) := by
  unfold answerCancelComponentStrictly answerCancelComponent
  cases updating : responder.phase.details? with
  | none => rfl
  | some details =>
      have running : responder.state ≠ .idle := by
        intro idle
        obtain ⟨reason, phase⟩ := phase_of_state_idle idle
        rw [phase] at updating
        cases updating
      have owner := owned.isSome running
      dsimp only
      split
      · rw [enterStrictly_eq owner]
        · rfl
        · rfl
        · rintro ⟨⟩
      · rfl

/-- The status is answered without an assumption. -/
theorem answerStatusStrictly_eq :
    responder.answerStatusStrictly request state = some (responder.answerStatus request state) := by
  unfold answerStatusStrictly answerStatus
  rw [statusStrictly_eq]
  split <;> rfl

/-- Every command is answered as it should be. -/
theorem answerCommandStrictly_eq (tidy : responder.Tidy) (owned : responder.Owned)
    (agent : EndpointId) (command : Command) :
    responder.answerCommandStrictly device agent request state command =
      some (responder.answerCommand device agent request state command) := by
  cases command with
  | queryDeviceIdentifiers => exact answerIdentifiersStrictly_eq ..
  | requestUpdate => exact answerUpdateStrictly_eq ..
  | getDeviceMetaData => exact answerMetadataStrictly_eq device request state tidy
  | passComponentTable => exact answerTableEntryStrictly_eq device request state owned
  | updateComponent => exact answerComponentStrictly_eq device request state owned
  | activateFirmware => exact answerActivationStrictly_eq device request state owned
  | cancelUpdateComponent => exact answerCancelComponentStrictly_eq device request state owned
  | getStatus => exact answerStatusStrictly_eq ..
  | _ => rfl

/-- Every request is answered as it should be. -/
theorem answerStrictly_eq (tidy : responder.Tidy) (owned : responder.Owned) (agent : EndpointId) :
    responder.answerStrictly device agent request state =
      some (responder.answer device agent request state) := by
  unfold answerStrictly answer
  split
  · rfl
  · cases (ofCode? request.cmd : Option Command) with
    | none => rfl
    | some command =>
        dsimp only
        split
        · rfl
        · have owned : responder.owner = none ↔ responder.state = .idle := owned
          rw [Strict.ensure_of_holds owned]
          exact answerCommandStrictly_eq device request state tidy owned agent command

/-- The size of the next request for firmware data exists. -/
theorem requestSizeStrictly_eq (tidy : responder.Tidy) {offset : Nat}
    {result : Option TransferResult} {exchange : Exchange} {options : UInt32}
    {details : ComponentDetails}
    (phase : responder.phase = .download offset result exchange options details) :
    responder.requestSizeStrictly = some (responder.requestSize offset details) := by
  unfold requestSizeStrictly
  rw [phase]
  dsimp only
  rw [Strict.difference_of_le (Nat.le_trans (Nat.le_add_right ..) tidy.message)]
  rfl

/-- Firmware data are asked for as they should be. -/
theorem progressDownloadStrictly_eq (tidy : responder.Tidy) (owned : responder.Owned)
    {offset : Nat} {result : Option TransferResult} {exchange : Exchange} {options : UInt32}
    {details : ComponentDetails}
    (phase : responder.phase = .download offset result exchange options details) :
    responder.progressDownloadStrictly device offset result exchange options details state =
      some (responder.progressDownload device offset result exchange options details state) := by
  have owner := owned.isSome (state_ne_idle phase (by rintro ⟨⟩))
  unfold progressDownloadStrictly progressDownload
  cases exchange.isDue device state with
  | mk due later =>
      cases due with
      | false => rfl
      | true =>
          cases result with
          | some result =>
              dsimp only
              cases (ResultReport.layout { result := Coded.code result }).toMessage with
              | error error => rfl
              | ok body =>
                  dsimp only [newRequest]
                  split
                  · rw [enterStrictly_eq owner]
                    · rfl
                    · rfl
                    · rintro ⟨⟩
                  · rfl
          | none =>
              dsimp only
              rw [requestSizeStrictly_eq tidy phase]
              dsimp only [Option.bind_eq_bind, Option.bind_some]
              cases (DataRequest.layout
                { offset := UInt32.ofNat offset
                  length := UInt32.ofNat (responder.requestSize offset details) }).toMessage with
              | error error => rfl
              | ok body => rfl

/-- An image is checked as it should be. -/
theorem progressVerifyStrictly_eq (owned : responder.Owned) {exchange : Exchange}
    {details : ComponentDetails} (phase : responder.phase = .verify exchange details) :
    responder.progressVerifyStrictly device exchange details state =
      some (responder.progressVerify device exchange details state) := by
  have owner := owned.isSome (state_ne_idle phase (by rintro ⟨⟩))
  unfold progressVerifyStrictly progressVerify
  cases exchange.isDue device state with
  | mk due later =>
      cases due with
      | false => rfl
      | true =>
          dsimp only
          cases (ResultReport.layout
            { result := Coded.code (device.verify details later).1 }).toMessage with
          | error error => rfl
          | ok body =>
              dsimp only [newRequest]
              split
              · rw [enterStrictly_eq owner]
                · rfl
                · rfl
                · rintro ⟨⟩
              · rfl

/-- An image is put in its place as it should be. -/
theorem progressApplyStrictly_eq (owned : responder.Owned) {exchange : Exchange}
    {details : ComponentDetails} (phase : responder.phase = .apply exchange details) :
    responder.progressApplyStrictly device exchange details state =
      some (responder.progressApply device exchange details state) := by
  have owner := owned.isSome (state_ne_idle phase (by rintro ⟨⟩))
  unfold progressApplyStrictly progressApply
  cases exchange.isDue device state with
  | mk due later =>
      cases due with
      | false => rfl
      | true =>
          dsimp only
          cases (ApplyReport.layout
            { result := Coded.code (applyReport (device.apply details later).1).1
              methods := (applyReport (device.apply details later).1).2 }).toMessage with
          | error error => rfl
          | ok body =>
              dsimp only [newRequest]
              split
              · rw [enterStrictly_eq owner]
                · rfl
                · rfl
                · rintro ⟨⟩
              · rfl

/-- In every phase the responder goes on as it should. -/
theorem progressPhaseStrictly_eq (tidy : responder.Tidy) (owned : responder.Owned) :
    responder.progressPhaseStrictly device state =
      some (responder.progressPhase device state) := by
  unfold progressPhaseStrictly progressPhase
  cases phase : responder.phase with
  | download => exact progressDownloadStrictly_eq device state tidy owned phase
  | verify => exact progressVerifyStrictly_eq device state owned phase
  | apply => exact progressApplyStrictly_eq device state owned phase
  | learnComponents pull passed => cases pull <;> rfl
  | _ => rfl

/-- Firmware data are taken as they should be, in the phase that has asked for them. -/
theorem takeDataStrictly_eq (tidy : responder.Tidy) {offset : Nat} {result : Option TransferResult}
    {earlier : Exchange} {options : UInt32} {details : ComponentDetails}
    (phase : responder.phase = .download offset result earlier options details)
    (exchange : Exchange) (response : Response) :
    responder.takeDataStrictly device offset exchange options details response state =
      some (responder.takeData device offset exchange options details response state) := by
  unfold takeDataStrictly takeData
  rw [requestSizeStrictly_eq tidy phase]
  dsimp only [Option.bind_eq_bind, Option.bind_some]
  repeat' split
  all_goals rfl

end

/-! ## Every procedure of a sound responder -/

variable {responder : Responder} (tidy : responder.Tidy) (owned : responder.Owned)
  (device : Device σ) (state : σ)

include tidy owned

/-- A sound responder answers every message like the strict one. -/
theorem answerRequestStrictly_eq (agent : EndpointId) (message : List UInt8) :
    responder.answerRequestStrictly device agent message state =
      some (responder.answerRequest device agent message state) := by
  unfold answerRequestStrictly answerRequest
  cases Request.parse message with
  | error error => rfl
  | ok request =>
      dsimp only
      rw [answerStrictly_eq device request state tidy owned]
      dsimp only [Option.bind_eq_bind, Option.bind_some]
      cases responder.answer device agent request state with
      | mk answer rest => cases answer <;> rfl

/-- A sound responder goes on of its own like the strict one. -/
theorem progressStrictly_eq :
    responder.progressStrictly device state = some (responder.progress device state) := by
  have moved := progressPhaseStrictly_eq device (device.now state).2 tidy owned
  unfold progressStrictly progress
  cases responder.phase with
  | idle reason => rfl
  | _ =>
      dsimp only
      split
      · rfl
      · exact moved

omit owned in
/-- A sound responder takes every reply like the strict one. -/
theorem takeReplyStrictly_eq (agent : EndpointId) (message : List UInt8) :
    responder.takeReplyStrictly device agent message state =
      some (responder.takeReply device agent message state) := by
  have taken (response : Response) : responder.takeDataReplyStrictly device response state =
      some (responder.takeDataReply device response state) := by
    have touched : (responder.touch device state).1.Tidy := tidy.same rfl rfl rfl rfl
    unfold takeDataReplyStrictly takeDataReply
    cases phase : responder.phase with
    | download offset result exchange options details =>
        cases result with
        | none =>
            have phase : (responder.touch device state).1.phase = _ := phase
            dsimp only
            split
            · rw [takeDataStrictly_eq device _ touched phase]
              rfl
            · rfl
        | some result => rfl
    | _ => rfl
  unfold takeReplyStrictly takeReply
  split
  · rfl
  · cases Response.parse message with
    | error error => rfl
    | ok response =>
        dsimp only
        cases (ofCode? response.cmd : Option Command) with
        | none => rfl
        | some command =>
            cases command with
            | requestFirmwareData => exact taken response
            | _ => rfl

end Responder

/-- Whatever an agent and a device do, no condition that a responder takes for granted fails.
Exactly an idle device has no owner, and it has no metadata under way; no device rests in
activation. What has been received of an image is part of it, and has been transferred with
success once it is all. What has been pulled of the package data is no more than the agent has
declared when the update began. The sizes have room for the least of firmware data. -/
theorem responder_keeps_what_it_assumes {σ : Type} (device : Device σ) (size : Nat) (first : σ)
    (inputs : List ResponderInput) :
    let history := ResponderHistory.run device
      { responder := .withMaxMessage size, state := first } inputs
    let responder := history.responder
    (∀ agent message state, responder.answerRequestStrictly device agent message state =
      some (responder.answerRequest device agent message state)) ∧
    (∀ agent message state, responder.takeReplyStrictly device agent message state =
      some (responder.takeReply device agent message state)) ∧
    (∀ state, responder.progressStrictly device state = some (responder.progress device state)) ∧
    (responder.owner = none ↔ responder.state = .idle) ∧
    responder.state ≠ .activate ∧
    (responder.state = .idle →
      responder.metadata.inProgress = false ∧ responder.metadata.handle = 0) ∧
    (∀ offset result exchange options details,
      responder.phase = .download offset result exchange options details →
      offset ≤ details.size ∧ (result = some .success ↔ offset = details.size)) ∧
    (∀ pull passed, responder.phase = .learnComponents (some pull) passed →
      ∃ declared, declaredSize? history.events = some declared ∧ pull.data.length ≤ declared) ∧
    32 ≤ responder.maxTransfer ∧ 36 ≤ responder.maxMessage := by
  obtain ⟨tidy, owned, fetched, pulled⟩ :=
    @ResponderHistory.Sound.run σ device _ (ResponderHistory.sound_of_fresh size first) inputs
  refine ⟨fun _ _ state => Responder.answerRequestStrictly_eq tidy owned device state _ _,
    fun _ _ state => Responder.takeReplyStrictly_eq tidy device state _ _,
    fun state => Responder.progressStrictly_eq tidy owned device state,
    owned, tidy.awake, fun idle => (tidy.rested idle).symm, ?_, ?_, tidy.transfer, tidy.message⟩
  · intro offset result exchange options details phase
    rw [phase] at fetched
    exact fetched
  · intro pull passed phase
    obtain ⟨bounded, declared⟩ := pulled pull passed phase
    exact ⟨_, declared, bounded⟩

end FirmwareUpdate
