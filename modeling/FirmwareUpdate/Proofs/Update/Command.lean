import FirmwareUpdate.Proofs.Command.RoundTrip
import FirmwareUpdate.Proofs.Transfer.Round
import FirmwareUpdate.Proofs.Update.Pair

/-!
# What the commands of an update come to

One statement for each command that moves an update: the pair after it, in terms of what
the device says. The bodies are written by one side and read back by the other.
-/

namespace FirmwareUpdate

open Wire

variable {σ : Type}

/-- What a device knows of a component while it receives the image. -/
def ComponentImage.details (component : ComponentImage) : ComponentDetails where
  size := component.image.length
  key := component.key.onWire

/-- The pull of the package data, if there are any and the device wants them. -/
def UpdatePlan.pull? (plan : UpdatePlan) (wanted : Bool) : Option PackagePull :=
  if 0 < plan.packageData.length && wanted then
    some { transfer := { kind := .packageData, totalSize := plan.packageData.length } }
  else none

/-- There is a pull only of package data that there are. -/
theorem UpdatePlan.pull?_of_isSome {plan : UpdatePlan} {wanted : Bool}
    (pulls : (plan.pull? wanted).isSome = true) :
    plan.packageData ≠ [] ∧ plan.pull? wanted =
      some { transfer := { kind := .packageData, totalSize := plan.packageData.length } } := by
  unfold pull? at pulls ⊢
  split at pulls
  · rename_i both
    rw [if_pos both]
    rw [Bool.and_eq_true, decide_eq_true_eq] at both
    exact ⟨List.ne_nil_of_length_pos both.1, rfl⟩
  · cases pulls

namespace TransferFlag

/-- The first component of a table is marked as the start, and no other. -/
theorem isStart_forIndex (index count : Nat) :
    (forIndex index count).isStart = decide (index = 0) :=
  isStart_ofEnds _ _

/-- The last component of a table is marked as the end. -/
theorem isEnd_forIndex (index count : Nat) :
    (forIndex index count).isEnd = decide (count ≤ index + 1) :=
  isEnd_ofEnds _ _

end TransferFlag

namespace Session

variable {session : Session}

/-- The session after the response to a command, before it takes the body. -/
def answered (session : Session) (cc : CompletionCode) : Session :=
  { session with nextIid := nextInstance session.nextIid, pending := none, lastCode := cc }

/-- What the session asks of the device when it begins the update. -/
def updateRequest (session : Session) : UpdateRequest where
  maxTransfer := session.settings.maxTransferSize
  componentCount := UInt16.ofNat session.plan.components.length
  maxOutstanding := session.settings.maxOutstanding
  packageDataSize := UInt16.ofNat session.plan.packageData.length
  version := session.plan.version

/-- A body that could be written is no error of the codec. -/
private theorem codec_of_written {layout : Layout} {body : List UInt8}
    (written : layout.toMessage = .ok body) :
    layout.toMessage.mapError UpdateError.codec = .ok body := by
  rw [written]
  rfl

/-- A sound plan can be requested, and the device reads the request as it was meant. -/
theorem body_requestUpdate (sound : session.plan.Sound) :
    ∃ body, session.requestBody .requestUpdate = .ok body ∧
      decode "RequestUpdate" UpdateRequest.reader body = .ok session.updateRequest := by
  have short : session.updateRequest.version.bytes.length < 256 := sound.sizes.2.2.2
  obtain ⟨body, written, -, read⟩ :=
    (session.updateRequest.roundTrips short).message (by unfold maxMessageSize; omega)
      "RequestUpdate"
  exact ⟨body, codec_of_written written, read⟩

/-- The request for the next part of the metadata is read as it was meant. -/
theorem body_getDeviceMetaData (session : Session) :
    ∃ body, session.requestBody .getDeviceMetaData = .ok body ∧
      decode "GetDeviceMetaData" PartRequest.reader body = .ok session.metadata.nextRequest := by
  obtain ⟨body, written, -, read⟩ :=
    session.metadata.nextRequest.roundTrips.message (by decide) "GetDeviceMetaData"
  exact ⟨body, codec_of_written written, read⟩

/-- An entry of a sound plan is read with its place in the table. -/
theorem body_passComponentTable (sound : session.plan.Sound) {component : ComponentImage}
    (listed : session.plan.components[session.passed]? = some component) :
    ∃ body, session.requestBody .passComponentTable = .ok body ∧
      decode "PassComponentTable" Responder.tableEntryReader body =
        .ok (Coded.code (TransferFlag.forIndex session.passed session.plan.components.length),
          component.record.inTable) := by
  have short := (sound.component (List.mem_of_getElem? listed)).2
  have entry : RoundTrips
      (TableEntry.layout
        { flag := .forIndex session.passed session.plan.components.length
          record := component.record })
      Responder.tableEntryReader
      (Coded.code (TransferFlag.forIndex session.passed session.plan.components.length),
        component.record.inTable)
      (1 + (11 + component.version.bytes.length)) :=
    (RoundTrips.byte _).bind ((component.record.table_roundTrips short).last _)
  obtain ⟨body, written, -, read⟩ :=
    entry.message (by unfold maxMessageSize; omega) "PassComponentTable"
  refine ⟨body, ?_, read⟩
  unfold requestBody
  dsimp only
  rw [listed]
  exact codec_of_written written

/-- A component of a sound plan is read as it was meant. -/
theorem body_updateComponent (sound : session.plan.Sound) {index : Nat}
    {component : ComponentImage} (next : session.nextComponent? = some index)
    (listed : session.plan.components[index]? = some component) :
    ∃ body, session.requestBody .updateComponent = .ok body ∧
      decode "UpdateComponent" ComponentRecord.updateReader body =
        .ok component.record.inUpdate := by
  have short := (sound.component (List.mem_of_getElem? listed)).2
  obtain ⟨body, written, -, read⟩ :=
    (component.record.update_roundTrips short).message
      (by simp only [ComponentImage.record, maxMessageSize]; omega) "UpdateComponent"
  refine ⟨body, ?_, read⟩
  unfold requestBody
  dsimp only
  rw [next, Option.bind_some, listed]
  exact codec_of_written written

/-- The request for activation is read as it was meant. -/
theorem body_activateFirmware (session : Session) :
    ∃ body, session.requestBody .activateFirmware = .ok body ∧
      decode "ActivateFirmware" ActivationRequest.reader body =
        .ok { selfContained := session.settings.selfContained } := by
  obtain ⟨body, written, -, read⟩ :=
    (ActivationRequest.roundTrips { selfContained := session.settings.selfContained }).message
      (by decide) "ActivateFirmware"
  exact ⟨body, codec_of_written written, read⟩

/-- A successful response whose body is read has the effect of the body. -/
theorem processMatching_of_applied (session : Session) (request : Request)
    {command : AgentCommand} {data : List UInt8} {outcome : Except UpdateError Unit}
    {after : Session}
    (applied : (session.answered BaseCode.success).apply command data = (outcome, after))
    (read : ∀ error, outcome ≠ .error (.codec error)) :
    ((session.asking command).processMatching command
      (request.respond BaseCode.success data)).2 = after := by
  have taken : ({ session.asking command with pending := none, lastCode := BaseCode.success } :
      Session).apply command data = (outcome, after) := applied
  unfold processMatching Request.respond
  dsimp only
  rw [if_pos (by rfl), taken]
  cases outcome with
  | ok done => rfl
  | error error =>
      cases error with
      | codec error => exact absurd rfl (read error)
      | _ => rfl

/-- A refusal changes nothing, unless the device can never be updated. -/
theorem processMatching_of_refused (session : Session) (request : Request)
    {command : AgentCommand} {data : List UInt8} {cc : CompletionCode}
    (refused : cc.isSuccess = false)
    (mild : cc ≠ UpdateCode.unableToInitiateUpdate) :
    ((session.asking command).processMatching command (request.respond cc data)).2 =
      session.answered cc := by
  unfold processMatching Request.respond
  dsimp only
  rw [if_neg (by simp [refused]), processFailure, if_neg fun never => mild never.2]
  rfl

/-- The answer about an entry of the table is recorded. -/
theorem apply_passComponentTable {body : List UInt8} {response : TableResponse}
    (read : decode "PassComponentTable" TableResponse.reader body = .ok response) :
    session.apply .passComponentTable body = (.ok (), session.recordPassed response) := by
  unfold apply
  dsimp only
  rw [read]

/-- The answer to a request for an update begins it in the session. -/
theorem apply_requestUpdate {body : List UInt8} {response : UpdateResponse}
    (read : decode "RequestUpdate" UpdateResponse.reader body = .ok response) :
    session.apply .requestUpdate body = session.beginUpdate response := by
  unfold apply
  dsimp only
  rw [read]

/-- Whatever the response says, it has been read. -/
theorem beginUpdate_read (session : Session) (response : UpdateResponse) (error : CodecError) :
    (session.beginUpdate response).1 ≠ .error (.codec error) := by
  unfold beginUpdate
  dsimp only
  split <;> exact nofun

/-- The session receives the component at this index. -/
def beginning (session : Session) (index : Nat) : Session :=
  { session with
    nextUpdate := index + 1
    current := some index
    componentFailed := false
    state := .download }

/-- The session leaves the component at this index out. -/
def passingOver (session : Session) (index : Nat) : Session :=
  { session with
    nextUpdate := index + 1
    outcomes := session.outcomes.set index .skipped }

/-- The answer about a component begins its update or passes it over. -/
theorem apply_updateComponent {index : Nat} (next : session.nextComponent? = some index)
    {body : List UInt8} {response : ComponentResponse}
    (read : decode "UpdateComponent" ComponentResponse.reader body = .ok response) :
    session.apply .updateComponent body =
      (.ok (), if response.response = 0 then session.beginning index
        else session.passingOver index) := by
  unfold apply beginComponent
  dsimp only
  rw [read]
  dsimp only
  rw [next]
  dsimp only
  split <;> rfl

/-- What has been installed is active. -/
theorem apply_activateFirmware (session : Session) {body : List UInt8}
    {response : ActivationResponse}
    (read : decode "ActivateFirmware" ActivationResponse.reader body = .ok response) :
    session.apply .activateFirmware body =
      (.ok (), { session with state := .idle, activated := true, finished := true }) := by
  unfold apply
  dsimp only
  rw [read]

end Session

namespace Responder

/-- An update in which the device receives this component. -/
theorem beginDownload_inUpdate {component : ComponentImage}
    (small : component.image.length < 2 ^ 32) (options : UInt32) :
    beginDownload component.record.inUpdate options =
      .download 0 (if component.image.length = 0 then some .success else none) .ready options
        component.details := by
  have size : (UInt32.ofNat component.image.length).toNat = component.image.length :=
    UInt32.toNat_ofNat_of_lt' small
  unfold beginDownload
  simp only [ComponentRecord.inUpdate, ComponentRecord.inTable, ComponentImage.record,
    Option.getD_some, size, ComponentImage.details]

/-- An idle device is asked to enter an update. -/
theorem answerUpdate_of_read (device : Device σ) (agent : EndpointId) (request : Request)
    (state : σ) {responder : Responder} {reason : IdleReason}
    (idle : responder.phase = .idle reason) {update : UpdateRequest}
    (read : decode "RequestUpdate" UpdateRequest.reader request.data = .ok update) :
    responder.answerUpdate device agent request state =
      match device.requestUpdate update state with
      | (.retry, state) => (.error UpdateCode.retryRequestUpdate, responder, state)
      | (.unable, state) => (.error UpdateCode.unableToInitiateUpdate, responder, state)
      | (.accept, state) => responder.acceptUpdate device agent request update state := by
  unfold answerUpdate
  rw [idle]
  dsimp only
  cases decoded : decode "RequestUpdate" UpdateRequest.reader request.data with
  | error error => cases decoded.symm.trans read
  | ok other =>
      cases decoded.symm.trans read
      rfl

/-- The phase of the agent's update in which the device waits for the rest of the table. -/
theorem answerTableEntry_of_read (device : Device σ) (request : Request) (state : σ)
    {responder : Responder} {pull : Option PackagePull} {passed : Bool}
    (learning : responder.phase = .learnComponents pull passed) {flag : TransferFlag}
    {record : ComponentRecord}
    (read : decode "PassComponentTable" tableEntryReader request.data =
      .ok (Coded.code flag, record))
    (follows : flag.isStart = !passed) :
    responder.answerTableEntry device request state =
      let touched := responder.touch device state
      let checked := checkComponent device false record touched.2
      let next := { touched.1 with phase := .learnComponents pull true }
      (respondWith request (TableResponse.of checked.1).layout,
        if flag.isEnd then next.enter .readyXfer else next, checked.2) := by
  have following : followingFlag? passed (Coded.code flag) = some flag := by
    unfold followingFlag?
    rw [ofCode?_code]
    cases passed <;> simp [follows]
  unfold answerTableEntry
  rw [learning]
  dsimp only
  rw [read]
  dsimp only
  rw [following]

/-- A device that is ready is asked about a component. -/
theorem answerComponent_of_read (device : Device σ) (request : Request) (state : σ)
    {responder : Responder} (ready : responder.phase = .readyXfer) {record : ComponentRecord}
    (read : decode "UpdateComponent" ComponentRecord.updateReader request.data = .ok record) :
    responder.answerComponent device request state =
      let touched := responder.touch device state
      let checked := checkComponent device true record touched.2
      let options := record.options.getD 0 &&& 0x1
      let body : ComponentResponse :=
        { response := if checked.1 = 0 then 0 else 1
          answerCode := checked.1
          options
          estimatedTime := 0 }
      (respondWith request body.layout,
        if checked.1 = 0 then touched.1.enter (beginDownload record options) else touched.1,
        checked.2) := by
  unfold answerComponent
  rw [ready]
  dsimp only
  rw [read]

/-- A device that is ready is asked to activate what it has. -/
theorem answerActivation_of_read (device : Device σ) (request : Request) (state : σ)
    {responder : Responder} (ready : responder.phase = .readyXfer)
    {activation : ActivationRequest}
    (read : decode "ActivateFirmware" ActivationRequest.reader request.data = .ok activation) :
    ∃ body, decode "ActivateFirmware" ActivationResponse.reader body =
        .ok { estimatedTime := 0 } ∧
      responder.answerActivation device request state =
        let decided := device.activate activation.selfContained state
        if decided.1.endsUpdate then
          (.ok (request.respond decided.1.completionCode body),
            (responder.enter .activate).enterIdle .activate, decided.2)
        else (.error decided.1.completionCode, responder, decided.2) := by
  obtain ⟨body, written, -, understood⟩ :=
    (ActivationResponse.roundTrips { estimatedTime := 0 }).message (by decide) "ActivateFirmware"
  refine ⟨body, understood, ?_⟩
  unfold answerActivation
  rw [read, ready]
  dsimp only
  rw [respondWith_of_written request written]
  rfl

end Responder

namespace Pair

variable {device : Device σ} {agent : EndpointId} {pair : Pair σ}

/-- A command that succeeds has its effect on both sides. -/
theorem issue_of_applied {command : AgentCommand} {body : List UInt8}
    (allowed : Session.allows pair.session.state command = true)
    (written : pair.session.requestBody command = .ok body)
    (fits : FitsInstance pair.session.nextIid) (home : pair.responder.isForeign agent = false)
    {answer : Responder.Answer σ}
    (answered : pair.responder.answerCommand device agent (pair.session.request command body)
      pair.state command.command = answer)
    {data : List UInt8}
    (gives : answer.1 = .ok ((pair.session.request command body).respond BaseCode.success data))
    {outcome : Except UpdateError Unit} {session : Session}
    (applied : (pair.session.answered BaseCode.success).apply command data = (outcome, session))
    (read : ∀ error, outcome ≠ .error (.codec error)) :
    pair.issue device agent command =
      { session, responder := answer.2.1, state := answer.2.2 } := by
  rw [issue_eq allowed written fits home answered (.inl gives),
    pair.session.processMatching_of_applied _ applied read]

/-- The agent learns what the device is. -/
theorem issue_queryDeviceIdentifiers (fits : FitsInstance pair.session.nextIid)
    (home : pair.responder.isForeign agent = false) {body : List UInt8}
    (written : (device.identifiers pair.state).1.responseLayout.toMessage = .ok body)
    {identifiers : DeviceIdentifiers}
    (read : decode "QueryDeviceIdentifiers" DeviceIdentifiers.responseReader body =
      .ok identifiers) :
    pair.issue device agent .queryDeviceIdentifiers =
      { session :=
          { pair.session.answered BaseCode.success with deviceIdentifiers := some identifiers }
        responder := pair.responder
        state := (device.identifiers pair.state).2 } := by
  have gives := Responder.respondWith_of_written
    (pair.session.request .queryDeviceIdentifiers []) written
  have answered : pair.responder.answerCommand device agent
      (pair.session.request .queryDeviceIdentifiers []) pair.state .queryDeviceIdentifiers =
        (Responder.respondWith (pair.session.request .queryDeviceIdentifiers [])
          (device.identifiers pair.state).1.responseLayout,
          pair.responder, (device.identifiers pair.state).2) := rfl
  have applied : (pair.session.answered BaseCode.success).apply .queryDeviceIdentifiers body =
      (.ok (), { pair.session.answered BaseCode.success with
        deviceIdentifiers := some identifiers }) := by
    unfold Session.apply
    dsimp only
    rw [read]
  exact issue_of_applied rfl rfl fits home answered gives applied nofun

/-- What a device says about its firmware. -/
def parametersOf (device : Device σ) (state : σ) : FirmwareParameters where
  capabilities := device.capabilities state
  components := device.components state
  active := device.activeVersion state
  pending := device.pendingVersion state

/-- The agent learns what firmware the device has. -/
theorem issue_getFirmwareParameters (fits : FitsInstance pair.session.nextIid)
    (home : pair.responder.isForeign agent = false) {body : List UInt8}
    (written : (parametersOf device pair.state).layout.toMessage = .ok body)
    {parameters : FirmwareParameters}
    (read : decode "GetFirmwareParameters" FirmwareParameters.reader body = .ok parameters) :
    pair.issue device agent .getFirmwareParameters =
      { pair with
        session :=
          { pair.session.answered BaseCode.success with parameters := some parameters } } := by
  have gives := Responder.respondWith_of_written
    (pair.session.request .getFirmwareParameters []) written
  have answered : pair.responder.answerCommand device agent
      (pair.session.request .getFirmwareParameters []) pair.state .getFirmwareParameters =
        (Responder.respondWith (pair.session.request .getFirmwareParameters [])
          (parametersOf device pair.state).layout, pair.responder, pair.state) := rfl
  have applied : (pair.session.answered BaseCode.success).apply .getFirmwareParameters body =
      (.ok (), { pair.session.answered BaseCode.success with parameters := some parameters }) := by
    unfold Session.apply
    dsimp only
    rw [read]
  exact issue_of_applied rfl rfl fits home answered gives applied nofun

/-- The agent receives a portion of the metadata. -/
theorem issue_getDeviceMetaData (fits : FitsInstance pair.session.nextIid)
    (home : pair.responder.isForeign agent = false)
    (learning : pair.session.state = .learnComponents) {pull : Option PackagePull} {passed : Bool}
    (phase : pair.responder.phase = .learnComponents pull passed) {part : PartResponse}
    {sent received : Transfer} {bytes : List UInt8}
    (served : pair.responder.metadata.serve pair.session.metadata.nextRequest
      (device.metadata pair.state) pair.responder.metadataPortion = (.ok part, sent))
    (short : PartResponse.headerSize + part.portion.length ≤ maxMessageSize)
    (accepted : pair.session.metadata.accept part pair.session.metadataBytes =
      .ok (received, bytes)) :
    pair.issue device agent .getDeviceMetaData =
      { session :=
          { pair.session.answered BaseCode.success with
            metadata := received
            metadataBytes := bytes
            metadataDone := pair.session.metadataDone || !received.inProgress }
        responder :=
          { pair.responder with metadata := sent, lastActivity := (device.now pair.state).1 }
        state := (device.now pair.state).2 } := by
  obtain ⟨body, written, read⟩ := pair.session.body_getDeviceMetaData
  obtain ⟨reply, replied, understood⟩ := part.message short "GetDeviceMetaData"
  have gives := Responder.respondWith_of_written
    (pair.session.request .getDeviceMetaData body) replied
  have answered : pair.responder.answerCommand device agent
      (pair.session.request .getDeviceMetaData body) pair.state .getDeviceMetaData =
        (Responder.respondWith (pair.session.request .getDeviceMetaData body) part.layout,
          { pair.responder with metadata := sent, lastActivity := (device.now pair.state).1 },
          (device.now pair.state).2) := by
    show pair.responder.answerMetadata device _ _ = _
    unfold Responder.answerMetadata
    rw [phase]
    dsimp only
    rw [show (pair.session.request .getDeviceMetaData body).data = body from rfl, read]
    dsimp only
    rw [served, phase]
    rfl
  have applied : (pair.session.answered BaseCode.success).apply .getDeviceMetaData reply =
      (.ok (), { pair.session.answered BaseCode.success with
        metadata := received
        metadataBytes := bytes
        metadataDone := pair.session.metadataDone || !received.inProgress }) := by
    unfold Session.apply Session.acceptMetadata
    dsimp only
    rw [understood]
    dsimp only
    rw [show (pair.session.answered BaseCode.success).metadata.accept part
      (pair.session.answered BaseCode.success).metadataBytes = .ok (received, bytes) from accepted]
    rfl
  exact issue_of_applied (by rw [learning]; rfl) written fits home answered gives applied nofun

/-- What follows when the device has accepted the update. -/
def accepted (device : Device σ) (agent : EndpointId) (pair : Pair σ) (state : σ) : Pair σ :=
  let size := (device.metadata state).length
  if 65536 ≤ size then { pair with session := pair.session.answered BaseCode.error, state }
  else
    let pull := pair.session.plan.pull? (device.wantsPackageData state)
    let touched := pair.responder.touch device state
    { session := ((pair.session.answered BaseCode.success).beginUpdate
        { metadataSize := UInt16.ofNat size, pullsPackageData := if pull.isSome then 1 else 0 }).2
      responder :=
        { touched.1 with
          maxTransfer := max pair.session.settings.maxTransferSize.toNat baselineTransfer
          metadata := touched.1.metadata.reset
          owner := some agent }.enter (.learnComponents pull false)
      state := touched.2 }

/-- An update whose metadata are within the limits begins. -/
theorem accepted_of_short {state : σ}
    (short : (device.metadata state).length ≤ min 65535 pair.session.settings.maxMetadataSize) :
    pair.accepted device agent state =
      let size := (device.metadata state).length
      let pull := pair.session.plan.pull? (device.wantsPackageData state)
      { session :=
          { pair.session.answered BaseCode.success with
            state := .learnComponents
            metadataBytes := []
            metadata := { kind := .deviceMetaData, totalSize := size }
            metadataDone := size = 0
            devicePulls := pull.isSome
            package := pair.session.package.reset
            packageDone := !pull.isSome || pair.session.plan.packageData.isEmpty }
        responder :=
          { pair.responder with
            previous := pair.responder.state
            phase := .learnComponents pull false
            owner := some agent
            maxTransfer := max pair.session.settings.maxTransferSize.toNat baselineTransfer
            metadata := pair.responder.metadata.reset
            lastActivity := (device.now state).1 }
        state := (device.now state).2 } := by
  have small : (device.metadata state).length < 65536 := by omega
  have size : (UInt16.ofNat (device.metadata state).length).toNat =
      (device.metadata state).length := UInt16.toNat_ofNat_of_lt' small
  have pulls (pull : Option PackagePull) :
      ((if pull.isSome then (1 : UInt8) else 0) != 0) = pull.isSome := by
    cases pull <;> rfl
  have within : ¬ (pair.session.answered BaseCode.success).settings.maxMetadataSize <
      (device.metadata state).length :=
    Nat.not_lt.mpr (Nat.le_trans short (Nat.min_le_right ..))
  unfold accepted Session.beginUpdate
  dsimp only
  rw [if_neg (by omega), size, if_neg within, pulls]
  rfl

/-- An update that begins has metadata within the limits. -/
theorem short_of_accepted {state : σ} (idle : pair.session.state = .idle)
    (learning : (pair.accepted device agent state).session.state = .learnComponents) :
    (device.metadata state).length ≤ min 65535 pair.session.settings.maxMetadataSize := by
  unfold accepted Session.beginUpdate at learning
  dsimp only at learning
  split at learning
  · exact absurd (idle.symm.trans learning) nofun
  · rename_i small
    have size : (UInt16.ofNat (device.metadata state).length).toNat =
        (device.metadata state).length := UInt16.toNat_ofNat_of_lt' (Nat.not_le.mp small)
    rw [size] at learning
    split at learning
    · cases learning
    · rename_i within
      have limit : ¬ pair.session.settings.maxMetadataSize < (device.metadata state).length :=
        within
      omega

/-- A request that the device accepts begins the update on both sides. -/
private theorem issue_requestUpdate_of_accepted (sound : pair.session.plan.Sound)
    (fits : FitsInstance pair.session.nextIid) (home : pair.responder.isForeign agent = false)
    (allowed : Session.allows pair.session.state .requestUpdate = true) {body : List UInt8}
    (written : pair.session.requestBody .requestUpdate = .ok body) {state : σ}
    (answered : pair.responder.answerCommand device agent
      (pair.session.request .requestUpdate body) pair.state .requestUpdate =
        pair.responder.acceptUpdate device agent (pair.session.request .requestUpdate body)
          pair.session.updateRequest state) :
    pair.issue device agent .requestUpdate = pair.accepted device agent state := by
  have size : pair.session.updateRequest.packageDataSize.toNat =
      pair.session.plan.packageData.length := UInt16.toNat_ofNat_of_lt' sound.sizes.2.2.1
  unfold Responder.acceptUpdate at answered
  unfold accepted UpdatePlan.pull?
  dsimp only at answered ⊢
  rw [size] at answered
  split
  · rename_i large
    rw [if_pos large] at answered
    rw [issue_eq allowed written fits home answered (.inr ⟨rfl, rfl⟩),
      pair.session.processMatching_of_refused _ rfl (by decide)]
  · rename_i small
    rw [if_neg small] at answered
    obtain ⟨reply, replied, -, understood⟩ := (UpdateResponse.roundTrips
      { metadataSize := UInt16.ofNat (device.metadata state).length
        pullsPackageData := if (pair.session.plan.pull? (device.wantsPackageData state)).isSome
          then 1 else 0 }).message (by decide) "RequestUpdate"
    rw [issue_of_applied allowed written fits home answered
      (Responder.respondWith_of_written _ replied) (Session.apply_requestUpdate understood)
      (Session.beginUpdate_read _ _)]
    rfl

/-- The device decides about the update. -/
theorem issue_requestUpdate (sound : pair.session.plan.Sound)
    (fits : FitsInstance pair.session.nextIid) (home : pair.responder.isForeign agent = false)
    (idle : pair.session.state = .idle) {reason : IdleReason}
    (phase : pair.responder.phase = .idle reason) :
    pair.issue device agent .requestUpdate =
      let decided := device.requestUpdate pair.session.updateRequest pair.state
      match decided.1 with
      | .retry =>
        { pair with
          session := pair.session.answered UpdateCode.retryRequestUpdate
          state := decided.2 }
      | .unable =>
        { pair with
          session :=
            { pair.session.answered UpdateCode.unableToInitiateUpdate with state := .aborted }
          state := decided.2 }
      | .accept => pair.accepted device agent decided.2 := by
  obtain ⟨body, written, read⟩ := pair.session.body_requestUpdate sound
  have allowed : Session.allows pair.session.state .requestUpdate = true := by rw [idle]; rfl
  have answered := Responder.answerUpdate_of_read device agent
    (pair.session.request .requestUpdate body) pair.state phase read
  cases decided : device.requestUpdate pair.session.updateRequest pair.state with
  | mk policy state =>
      rw [decided] at answered
      cases policy with
      | retry =>
          rw [issue_eq allowed written fits home answered (.inr ⟨rfl, rfl⟩),
            pair.session.processMatching_of_refused _ rfl (by decide)]
      | unable =>
          rw [issue_eq allowed written fits home answered (.inr ⟨rfl, rfl⟩)]
          rfl
      | accept => exact issue_requestUpdate_of_accepted sound fits home allowed written answered

/-- A device that is already in an update does not enter another one. -/
theorem issue_requestUpdate_of_busy (sound : pair.session.plan.Sound)
    (fits : FitsInstance pair.session.nextIid) (idle : pair.session.state = .idle)
    (busy : pair.responder.state ≠ .idle) :
    pair.issue device agent .requestUpdate =
      { pair with session := pair.session.answered UpdateCode.alreadyInUpdateMode } := by
  obtain ⟨body, written, -⟩ := pair.session.body_requestUpdate sound
  have allowed : Session.allows pair.session.state .requestUpdate = true := by rw [idle]; rfl
  have parsed : Request.parse (pair.session.request .requestUpdate body).toBytes =
      .ok (pair.session.request .requestUpdate body) :=
    Request.parse_toBytes fits fitsType_firmwareUpdate
  have answered : pair.responder.answer device agent (pair.session.request .requestUpdate body)
      pair.state = (.error UpdateCode.alreadyInUpdateMode, pair.responder, pair.state) := by
    have known : (ofCode? (pair.session.request .requestUpdate body).cmd : Option Command) =
        some .requestUpdate := ofCode?_code _
    have updating : pair.responder.answerUpdate device agent
        (pair.session.request .requestUpdate body) pair.state =
          (.error UpdateCode.alreadyInUpdateMode, pair.responder, pair.state) := by
      unfold Responder.answerUpdate
      split
      · rename_i phase
        exact absurd (by rw [Responder.state, phase]; rfl) busy
      · rfl
    unfold Responder.answer
    rw [if_neg (by simp [Session.request]), known]
    exact updating
  unfold issue
  rw [Session.issue_eq allowed written]
  dsimp only
  rw [Responder.answerRequest_of_parse _ _ _ parsed, answered]
  dsimp only
  rw [Responder.Says.messageOf_eq (.inr ⟨rfl, rfl⟩), Session.process_asking fits,
    pair.session.processMatching_of_refused _ rfl (by decide)]

/-- The component that the agent announces next is announced. -/
theorem issue_passComponentTable (sound : pair.session.plan.Sound)
    (fits : FitsInstance pair.session.nextIid) (home : pair.responder.isForeign agent = false)
    (learning : pair.session.state = .learnComponents) {pull : Option PackagePull}
    (phase : pair.responder.phase = .learnComponents pull (decide (0 < pair.session.passed)))
    {component : ComponentImage}
    (listed : pair.session.plan.components[pair.session.passed]? = some component) :
    pair.issue device agent .passComponentTable =
      let touched := pair.responder.touch device pair.state
      let checked := Responder.checkComponent device false component.record.inTable touched.2
      let next := { touched.1 with phase := .learnComponents pull true }
      { session := (pair.session.answered BaseCode.success).recordPassed (.of checked.1)
        responder :=
          if pair.session.plan.components.length = pair.session.passed + 1 then
            next.enter .readyXfer
          else next
        state := checked.2 } := by
  obtain ⟨body, written, read⟩ := Session.body_passComponentTable sound listed
  have bounded : pair.session.passed < pair.session.plan.components.length :=
    (List.getElem?_eq_some_iff.mp listed).1
  have last : (TransferFlag.forIndex pair.session.passed
      pair.session.plan.components.length).isEnd =
        decide (pair.session.plan.components.length = pair.session.passed + 1) := by
    rw [TransferFlag.isEnd_forIndex]
    exact decide_eq_decide.mpr (by omega)
  have answered := Responder.answerTableEntry_of_read device
    (pair.session.request .passComponentTable body) pair.state phase read
    (by rw [TransferFlag.isStart_forIndex]; by_cases first : pair.session.passed = 0 <;>
      simp [first, Nat.pos_iff_ne_zero])
  obtain ⟨reply, replied, -, understood⟩ := (TableResponse.roundTrips (.of
    (Responder.checkComponent device false component.record.inTable
      (pair.responder.touch device pair.state).2).1)).message (by decide) "PassComponentTable"
  have gives := Responder.respondWith_of_written
    (pair.session.request .passComponentTable body) replied
  rw [issue_of_applied (by rw [learning]; rfl) written fits home answered gives
    (Session.apply_passComponentTable understood) nofun, last]
  simp only [decide_eq_true_eq]

/-- The next component that the device has accepted begins, or is left out after all. -/
theorem issue_updateComponent (sound : pair.session.plan.Sound)
    (fits : FitsInstance pair.session.nextIid) (home : pair.responder.isForeign agent = false)
    (ready : pair.session.state = .readyXfer) (phase : pair.responder.phase = .readyXfer)
    {index : Nat} {component : ComponentImage} (next : pair.session.nextComponent? = some index)
    (listed : pair.session.plan.components[index]? = some component) :
    pair.issue device agent .updateComponent =
      let touched := pair.responder.touch device pair.state
      let checked := Responder.checkComponent device true component.record.inUpdate touched.2
      if checked.1 = 0 then
        { session := (pair.session.answered BaseCode.success).beginning index
          responder := touched.1.enter (.download 0
            (if component.image.length = 0 then some .success else none) .ready
            (component.options &&& 0x1) component.details)
          state := checked.2 }
      else
        { session := (pair.session.answered BaseCode.success).passingOver index
          responder := touched.1
          state := checked.2 } := by
  obtain ⟨body, written, read⟩ := Session.body_updateComponent sound next listed
  have small := (sound.component (List.mem_of_getElem? listed)).1
  have answered := Responder.answerComponent_of_read device
    (pair.session.request .updateComponent body) pair.state phase read
  dsimp only at answered
  obtain ⟨reply, replied, -, understood⟩ := (ComponentResponse.roundTrips
    { response := if (Responder.checkComponent device true component.record.inUpdate
        (pair.responder.touch device pair.state).2).1 = 0 then 0 else 1
      answerCode := (Responder.checkComponent device true component.record.inUpdate
        (pair.responder.touch device pair.state).2).1
      options := component.options &&& 0x1
      estimatedTime := 0 }).message (by decide) "UpdateComponent"
  have gives := Responder.respondWith_of_written
    (pair.session.request .updateComponent body) replied
  rw [issue_of_applied (by rw [ready]; rfl) written fits home answered gives
    (Session.apply_updateComponent (by exact next) understood) nofun]
  dsimp only
  by_cases accepts : (Responder.checkComponent device true component.record.inUpdate
    (pair.responder.touch device pair.state).2).1 = 0
  · simp only [accepts, if_true]
    rw [← Responder.beginDownload_inUpdate small]
    rfl
  · simp only [accepts, if_false]
    rfl

/-- The agent gives up the component that is being updated. -/
theorem issue_cancelUpdateComponent (fits : FitsInstance pair.session.nextIid)
    (home : pair.responder.isForeign agent = false)
    (updating : Session.allows pair.session.state .cancelUpdateComponent = true)
    {details : ComponentDetails} (phase : pair.responder.phase.details? = some details) :
    pair.issue device agent .cancelUpdateComponent =
      { session :=
          { (pair.session.answered BaseCode.success).endComponent .failed with
            componentFailed := false }
        responder := pair.responder.enter .readyXfer
        state := device.cancelComponent details pair.state } := by
  have answered : pair.responder.answerCommand device agent
      (pair.session.request .cancelUpdateComponent []) pair.state .cancelUpdateComponent =
        (.ok ((pair.session.request .cancelUpdateComponent []).respond BaseCode.success []),
          pair.responder.enter .readyXfer, device.cancelComponent details pair.state) := by
    show pair.responder.answerCancelComponent device _ _ = _
    unfold Responder.answerCancelComponent
    rw [phase]
    rfl
  have applied : (pair.session.answered BaseCode.success).apply .cancelUpdateComponent [] =
      (.ok (), { (pair.session.answered BaseCode.success).endComponent .failed with
        componentFailed := false }) := rfl
  rw [issue_of_applied updating rfl fits home answered rfl applied nofun]

/-- The agent gives up the update. -/
theorem issue_cancelUpdate (fits : FitsInstance pair.session.nextIid)
    (home : pair.responder.isForeign agent = false)
    (running : Session.allows pair.session.state .cancelUpdate = true)
    (phase : pair.responder.state ≠ .idle ∧ pair.responder.state ≠ .activate) :
    pair.issue device agent .cancelUpdate =
      { session := { (pair.session.answered BaseCode.success).clear with finished := true }
        responder := pair.responder.enterIdle .cancel
        state := match pair.responder.phase.details? with
          | some details => device.cancelComponent details pair.state
          | none => pair.state } := by
  obtain ⟨reply, replied, length, understood⟩ :=
    (CancelResponse.roundTrips {}).message (by decide) "CancelUpdate"
  have answered : pair.responder.answerCommand device agent
      (pair.session.request .cancelUpdate []) pair.state .cancelUpdate =
        (Responder.respondWith (pair.session.request .cancelUpdate []) (CancelResponse.layout {}),
          pair.responder.enterIdle .cancel,
          match pair.responder.phase.details? with
          | some details => device.cancelComponent details pair.state
          | none => pair.state) := by
    show pair.responder.answerCancel device _ _ = _
    unfold Responder.answerCancel
    split
    · rename_i idle
      exact absurd (by rw [Responder.state, idle]; rfl) phase.1
    · rename_i active
      exact absurd (by rw [Responder.state, active]; rfl) phase.2
    · rfl
  have gives := Responder.respondWith_of_written (pair.session.request .cancelUpdate []) replied
  have applied : (pair.session.answered BaseCode.success).apply .cancelUpdate reply =
      (.ok (), { (pair.session.answered BaseCode.success).clear with finished := true }) := by
    have some : reply.isEmpty = false := by
      cases reply with
      | nil => cases length
      | cons first rest => rfl
    simp only [Session.apply, some, understood, Bool.false_eq_true, if_false]
  rw [issue_of_applied running rfl fits home answered gives applied nofun]

/-- What a device answers to the request to activate what it has. -/
def activation (device : Device σ) (pair : Pair σ) : ActivationResult × σ :=
  device.activate pair.session.settings.selfContained pair.state

/-- The agent asks to activate what has been updated. The session goes by the code of the
answer, the device by what it has decided. -/
theorem issue_activation (fits : FitsInstance pair.session.nextIid)
    (home : pair.responder.isForeign agent = false) (ready : pair.session.state = .readyXfer)
    (phase : pair.responder.phase = .readyXfer) :
    pair.issue device agent .activateFirmware =
      let answered := pair.session.answered (pair.activation device).1.completionCode
      { session :=
          if (pair.activation device).1 = .success then
            { answered with state := .idle, activated := true, finished := true }
          else answered
        responder :=
          if (pair.activation device).1.endsUpdate then
            (pair.responder.enter .activate).enterIdle .activate
          else pair.responder
        state := (pair.activation device).2 } := by
  obtain ⟨body, written, read⟩ := pair.session.body_activateFirmware
  have allowed : Session.allows pair.session.state .activateFirmware = true := by rw [ready]; rfl
  obtain ⟨reply, understood, answered⟩ := Responder.answerActivation_of_read device
    (pair.session.request .activateFirmware body) pair.state phase read
  have applied := (pair.session.answered BaseCode.success).apply_activateFirmware understood
  have mild (result : ActivationResult) :
      result.completionCode ≠ UpdateCode.unableToInitiateUpdate := by cases result <;> decide
  unfold activation
  dsimp only at answered
  generalize device.activate pair.session.settings.selfContained pair.state = decided at answered ⊢
  obtain ⟨result, state⟩ := decided
  cases result with
  | success => rw [issue_of_applied allowed written fits home answered rfl applied nofun]; rfl
  | activationNotRequired =>
      rw [issue_eq allowed written fits home answered (.inl rfl),
        pair.session.processMatching_of_refused _ rfl (mild _)]
      rfl
  | error | incompleteUpdate | selfContainedNotPermitted =>
      rw [issue_eq allowed written fits home answered (.inr ⟨rfl, rfl⟩),
        pair.session.processMatching_of_refused _ rfl (mild _)]
      rfl

/-- The agent activates what has been updated. -/
theorem issue_activateFirmware (fits : FitsInstance pair.session.nextIid)
    (home : pair.responder.isForeign agent = false) (ready : pair.session.state = .readyXfer)
    (phase : pair.responder.phase = .readyXfer)
    (success : (device.activate pair.session.settings.selfContained pair.state).1 = .success) :
    pair.issue device agent .activateFirmware =
      { session :=
          { pair.session.answered BaseCode.success with
            state := .idle
            activated := true
            finished := true }
        responder := (pair.responder.enter .activate).enterIdle .activate
        state := (device.activate pair.session.settings.selfContained pair.state).2 } := by
  have decided : (pair.activation device).1 = .success := success
  rw [issue_activation fits home ready phase, decided]
  rfl

/-- A device that is idle has nothing to activate. -/
theorem issue_activateFirmware_of_idle (fits : FitsInstance pair.session.nextIid)
    (home : pair.responder.isForeign agent = false) (ready : pair.session.state = .readyXfer)
    {reason : IdleReason} (idle : pair.responder.phase = .idle reason) :
    pair.issue device agent .activateFirmware =
      { pair with session := pair.session.answered UpdateCode.notInUpdateMode } := by
  obtain ⟨body, written, read⟩ := pair.session.body_activateFirmware
  have answered : pair.responder.answerCommand device agent
      (pair.session.request .activateFirmware body) pair.state .activateFirmware =
        (.error UpdateCode.notInUpdateMode, pair.responder, pair.state) := by
    show pair.responder.answerActivation device _ _ = _
    unfold Responder.answerActivation
    rw [show (pair.session.request .activateFirmware body).data = body from rfl, read, idle]
    rfl
  rw [issue_eq (by rw [ready]; rfl) written fits home answered (.inr ⟨rfl, rfl⟩),
    pair.session.processMatching_of_refused _ rfl (by decide)]

end Pair

end FirmwareUpdate
