import FirmwareUpdate.Agent.Error
import FirmwareUpdate.Inventory.Descriptor
import FirmwareUpdate.Message.Envelope

/-!
# Update sessions

A session is one attempt of an update agent to update a device. It decides which
command comes next (`nextAction`), writes requests (`issue`), takes their responses
(`process`), and answers what the device asks in between (`handleRequest`). It does
no input or output. Responses count only for the request that was issued last.
-/

namespace FirmwareUpdate

open Wire

/-- What has become of a component of the plan. -/
inductive ComponentOutcome where
  /-- Not announced yet. -/
  | notPassed
  /-- Announced, and the device takes it. -/
  | accepted
  /-- The device does not take it. -/
  | skipped
  /-- The device has applied its image. -/
  | updated
  /-- Cancelled on the way. -/
  | failed
deriving DecidableEq, Repr

/-- A request that awaits its response. -/
structure PendingRequest where
  iid : UInt8
  command : AgentCommand
deriving DecidableEq, Repr

/-- What a session needs next. -/
inductive AgentAction where
  | issue (command : AgentCommand)
  /-- Wait for the device to ask. -/
  | awaitRequest
  | finished
deriving DecidableEq, Repr

/-- One attempt to update one device. -/
structure Session where
  settings : AgentSettings
  plan : UpdatePlan
  state : AgentState := .idle
  /-- The code of the last command, issued or answered. -/
  lastCode : CompletionCode := BaseCode.success
  nextIid : UInt8 := 0
  pending : Option PendingRequest := none
  /-- The device has announced that it pulls the package data. -/
  devicePulls : Bool := false
  package : Transfer := { kind := .packageData }
  packageDone : Bool := false
  metadata : Transfer := { kind := .deviceMetaData }
  metadataBytes : List UInt8 := []
  metadataDone : Bool := false
  /-- How many components have been announced. -/
  passed : Nat := 0
  /-- One entry for each component of the plan. -/
  outcomes : List ComponentOutcome
  /-- Components before this one have had their turn. -/
  nextUpdate : Nat := 0
  /-- The component that is being updated. -/
  current : Option Nat := none
  /-- The device has reported a failure of that component. -/
  componentFailed : Bool := false
  finished : Bool := false
  activated : Bool := false
  deviceIdentifiers : Option DeviceIdentifiers := none
  parameters : Option FirmwareParameters := none
  status : Option DeviceStatus := none
deriving DecidableEq

namespace Session

/-- No component of a plan has been announced. -/
def freshOutcomes (plan : UpdatePlan) : List ComponentOutcome :=
  List.replicate plan.components.length .notPassed

/-- The session that begins an update, if settings and plan allow one. -/
def start (settings : AgentSettings) (plan : UpdatePlan) : Except UpdateError Session :=
  if settings.maxTransferSize.toNat < baselineTransfer then
    .error (.invalidArgument .transferBelowBaseline)
  else match plan.fault? with
    | some fault => .error (.invalidArgument fault)
    | none => .ok { settings, plan, outcomes := freshOutcomes plan }

/-- Gives up what the running update has reached. -/
def clear (session : Session) : Session :=
  { session with
    state := .idle
    pending := none
    devicePulls := false
    package := session.package.reset
    packageDone := false
    metadata := { kind := .deviceMetaData }
    metadataBytes := []
    metadataDone := false
    passed := 0
    outcomes := freshOutcomes session.plan
    nextUpdate := 0
    current := none
    componentFailed := false }

/-- Back to idle, as if nothing had been updated. What the device has said about
itself stays known. -/
def reset (session : Session) : Session :=
  { session.clear with
    lastCode := BaseCode.success
    finished := false
    activated := false }

/-- Takes a new plan, which is possible while no update runs. -/
def load (session : Session) (plan : UpdatePlan) : Except UpdateError Session :=
  if session.state = .idle ∨ session.state = .aborted then
    match plan.fault? with
    | some fault => .error (.invalidArgument fault)
    | none => .ok { session with plan }.reset
  else .error (.invalidState session.state)

/-- The device metadata, once all of them have arrived. -/
def deviceMetadata (session : Session) : Option (List UInt8) :=
  if session.metadataDone then some session.metadataBytes else none

/-- How many components have been updated. -/
def updatedComponents (session : Session) : Nat :=
  session.outcomes.count .updated

/-- The first accepted component that has not had its turn. -/
def nextComponent? (session : Session) : Option Nat :=
  (List.range' session.nextUpdate (session.outcomes.length - session.nextUpdate)).find?
    fun index => session.outcomes[index]? = some .accepted

/-- What the session needs next. -/
def nextAction (session : Session) : AgentAction :=
  if session.finished then .finished
  else match session.state with
    | .idle =>
      if session.deviceIdentifiers.isNone then .issue .queryDeviceIdentifiers
      else if session.parameters.isNone then .issue .getFirmwareParameters
      else .issue .requestUpdate
    | .learnComponents =>
      if !session.packageDone then .awaitRequest
      else if !session.metadataDone then .issue .getDeviceMetaData
      else .issue .passComponentTable
    | .readyXfer =>
      if session.nextComponent?.isSome then .issue .updateComponent
      else if 0 < session.updatedComponents then .issue .activateFirmware
      else .issue .cancelUpdate
    | .download | .verify | .apply =>
      if session.componentFailed then .issue .cancelUpdateComponent else .awaitRequest
    | .activate | .aborted => .finished

/-- The states in which a command may be issued. -/
def allows (state : AgentState) : AgentCommand → Bool
  | .queryDeviceIdentifiers | .getFirmwareParameters | .getStatus => true
  | .requestUpdate => state == .idle
  | .getDeviceMetaData | .passComponentTable => state == .learnComponents
  | .updateComponent | .activateFirmware => state == .readyXfer
  | .cancelUpdateComponent => state.isUpdating
  | .cancelUpdate => !(state == .idle || state == .aborted)

/-- The body of the request that a command makes. -/
def requestBody (session : Session) (command : AgentCommand) :
    Except UpdateError (List UInt8) :=
  let written (layout : Layout) : Except UpdateError (List UInt8) :=
    layout.toMessage.mapError .codec
  match command with
  | .queryDeviceIdentifiers | .getFirmwareParameters | .getStatus | .cancelUpdateComponent
  | .cancelUpdate => .ok []
  | .requestUpdate =>
    written (UpdateRequest.layout
      { maxTransfer := session.settings.maxTransferSize
        componentCount := UInt16.ofNat session.plan.components.length
        maxOutstanding := session.settings.maxOutstanding
        packageDataSize := UInt16.ofNat session.plan.packageData.length
        version := session.plan.version })
  | .getDeviceMetaData => written session.metadata.nextRequest.layout
  | .passComponentTable =>
    match session.plan.components[session.passed]? with
    | none => .error (.invalidState session.state)
    | some component =>
      written (TableEntry.layout
        { flag := .forIndex session.passed session.plan.components.length
          record := component.record })
  | .updateComponent =>
    match session.nextComponent?.bind fun index => session.plan.components[index]? with
    | none => .error (.invalidArgument .noComponentLeft)
    | some component => written component.record.updateLayout
  | .activateFirmware =>
    written (ActivationRequest.layout { selfContained := session.settings.selfContained })

/-- Writes the request of a command, which replaces a request that still awaits its
response. A command that has no place in the current state is refused, and the
code of the refusal is recorded. -/
def issue (session : Session) (command : AgentCommand) :
    Except UpdateError (List UInt8) × Session :=
  if allows session.state command then
    match session.requestBody command with
    | .error error => (.error error, session)
    | .ok data =>
      let request : Request :=
        { iid := session.nextIid, typ := firmwareUpdateType, cmd := command.code, data }
      (.ok request.toBytes,
        { session with
          nextIid := nextInstance session.nextIid
          pending := some { iid := session.nextIid, command } })
  else
    (.error (.invalidState session.state),
      { session with
        lastCode :=
          if session.state = .idle then UpdateCode.notInUpdateMode
          else UpdateCode.invalidStateForCommand })

/-- The update begins, unless the device announces more metadata than allowed. -/
def beginUpdate (session : Session) (response : UpdateResponse) :
    Except UpdateError Unit × Session :=
  let size := response.metadataSize.toNat
  if session.settings.maxMetadataSize < size then
    (.error (.metadataTooLarge size session.settings.maxMetadataSize),
      { session with state := .aborted })
  else
    let pulls := response.pullsPackageData != 0
    (.ok (),
      { session with
        state := .learnComponents
        metadataBytes := []
        metadata := { kind := .deviceMetaData, totalSize := size }
        metadataDone := size = 0
        devicePulls := pulls
        package := session.package.reset
        packageDone := !pulls || session.plan.packageData.isEmpty })

/-- A portion of the device metadata arrives. -/
def acceptMetadata (session : Session) (response : PartResponse) :
    Except UpdateError Unit × Session :=
  match session.metadata.accept response session.metadataBytes with
  | .error error =>
    (.error (.transfer error), { session with lastCode := error.completionCode })
  | .ok (metadata, metadataBytes) =>
    (.ok (),
      { session with
        metadata
        metadataBytes
        metadataDone := session.metadataDone || !metadata.inProgress })

/-- The device answers the announcement of a component. -/
def recordPassed (session : Session) (response : TableResponse) : Session :=
  let passed := session.passed + 1
  { session with
    outcomes := session.outcomes.set session.passed
      (if response.response = 0 then .accepted else .skipped)
    passed
    state := if passed = session.plan.components.length then .readyXfer else session.state }

/-- The device answers the request to update the next component. -/
def beginComponent (session : Session) (response : ComponentResponse) :
    Except UpdateError Unit × Session :=
  match session.nextComponent? with
  | none => (.error (.invalidState session.state), session)
  | some index =>
    if response.response = 0 then
      (.ok (),
        { session with
          nextUpdate := index + 1
          current := some index
          componentFailed := false
          state := .download })
    else
      (.ok (),
        { session with
          nextUpdate := index + 1
          outcomes := session.outcomes.set index .skipped })

/-- The component that was being updated ends in a given way. -/
def endComponent (session : Session) (outcome : ComponentOutcome) : Session :=
  { session with
    outcomes := match session.current with
      | some index => session.outcomes.set index outcome
      | none => session.outcomes
    current := none
    state := .readyXfer }

/-- Takes the body of a successful response. -/
def apply (session : Session) (command : AgentCommand) (body : List UInt8) :
    Except UpdateError Unit × Session :=
  match command with
  | .queryDeviceIdentifiers =>
    match decode "QueryDeviceIdentifiers" DeviceIdentifiers.responseReader body with
    | .error error => (.error (.codec error), session)
    | .ok identifiers => (.ok (), { session with deviceIdentifiers := some identifiers })
  | .getFirmwareParameters =>
    match decode "GetFirmwareParameters" FirmwareParameters.reader body with
    | .error error => (.error (.codec error), session)
    | .ok parameters => (.ok (), { session with parameters := some parameters })
  | .requestUpdate =>
    match decode "RequestUpdate" UpdateResponse.reader body with
    | .error error => (.error (.codec error), session)
    | .ok response => session.beginUpdate response
  | .getDeviceMetaData =>
    match decode "GetDeviceMetaData" PartResponse.reader body with
    | .error error => (.error (.codec error), session)
    | .ok response => session.acceptMetadata response
  | .passComponentTable =>
    match decode "PassComponentTable" TableResponse.reader body with
    | .error error => (.error (.codec error), session)
    | .ok response => (.ok (), session.recordPassed response)
  | .updateComponent =>
    match decode "UpdateComponent" ComponentResponse.reader body with
    | .error error => (.error (.codec error), session)
    | .ok response => session.beginComponent response
  | .activateFirmware =>
    match decode "ActivateFirmware" ActivationResponse.reader body with
    | .error error => (.error (.codec error), session)
    | .ok _ => (.ok (), { session with state := .idle, activated := true, finished := true })
  | .getStatus =>
    match decode "GetStatus" DeviceStatus.reader body with
    | .error error => (.error (.codec error), session)
    | .ok status => (.ok (), { session with status := some status })
  | .cancelUpdateComponent =>
    (.ok (), { session.endComponent .failed with componentFailed := false })
  | .cancelUpdate =>
    match if body.isEmpty then .ok {} else decode "CancelUpdate" CancelResponse.reader body with
    | .error error => (.error (.codec error), session)
    | .ok _ => (.ok (), { session.clear with finished := true })

/-- Takes the code of a command that failed. It changes nothing, except that a device
which cannot be updated ends the update. -/
def processFailure (session : Session) (command : AgentCommand) (cc : CompletionCode) :
    Except UpdateError CompletionCode × Session :=
  if command = .requestUpdate ∧ cc = UpdateCode.unableToInitiateUpdate then
    (.error (.aborted cc), { session with state := .aborted })
  else (.ok cc, session)

/-- Takes the response to the request that awaits one. -/
def processMatching (session : Session) (command : AgentCommand) (response : Response) :
    Except UpdateError CompletionCode × Session :=
  let session := { session with pending := none, lastCode := response.cc }
  if response.cc.isSuccess then
    match session.apply command response.data with
    | (.ok (), session) => (.ok response.cc, session)
    | (.error (.codec error), session) =>
      (.error (.codec error), { session with lastCode := CompletionCode.ofCodecError error })
    | (.error error, session) => (.error error, session)
  else session.processFailure command response.cc

/-- The response answers the request that awaits one. -/
def PendingRequest.isAnsweredBy (pending : PendingRequest) (response : Response) : Bool :=
  response.typ == firmwareUpdateType && response.iid == pending.iid &&
    response.cmd == pending.command.code

/-- Takes a message that should be the response to the request issued last. Any other
message is refused and changes nothing. The answer is the completion code. -/
def process (session : Session) (message : List UInt8) :
    Except UpdateError CompletionCode × Session :=
  match Response.parse message with
  | .error error => (.error (.codec error), session)
  | .ok response =>
    match session.pending with
    | none =>
      (.error (.unexpectedResponse (.nothingOutstanding response.cmd response.iid)), session)
    | some pending =>
      if PendingRequest.isAnsweredBy pending response then
        session.processMatching pending.command response
      else
        (.error (.unexpectedResponse
          (.mismatch response.typ response.cmd response.iid pending.command pending.iid)),
          session)

/-- Serves a portion of the package data. A request for the first portion that cannot
be served still starts the transfer over. -/
def servePackageData (session : Session) (body : List UInt8) :
    Except CompletionCode (List UInt8) × Session :=
  match decode "GetPackageData" PartRequest.reader body with
  | .error error => (.error (.ofCodecError error), session)
  | .ok request =>
    let portion := min session.settings.portionSize
      (maxMessageSize - responseHeaderSize - PartResponse.headerSize)
    match session.package.serve request session.plan.packageData portion with
    | (.error error, package) =>
      (.error error.completionCode,
        { session with
          package := if request.operation? = some .getFirstPart then package.reset else package })
    | (.ok part, package) =>
      let session := { session with
        package
        packageDone := session.packageDone || !package.inProgress }
      (part.layout.toMessage.mapError CompletionCode.ofCodecError, session)

/-- Serves a piece of the image that is being transferred. -/
def serveFirmwareData (session : Session) (body : List UInt8) :
    Except CompletionCode (List UInt8) :=
  match decode "RequestFirmwareData" DataRequest.reader body with
  | .error error => .error (.ofCodecError error)
  | .ok request =>
    match session.current.bind fun index => session.plan.components[index]? with
    | none => .error UpdateCode.commandNotExpected
    | some component =>
      let offset := request.offset.toNat
      let length := request.length.toNat
      if length = 0 ∨ session.settings.maxTransferSize.toNat < length then
        .error UpdateCode.invalidTransferLength
      else if component.image.length < offset + length then
        .error UpdateCode.dataOutOfRange
      else .ok ((component.image.drop offset).take length)

/-- Takes a result that the device reports: success leads on, anything else fails the
component. -/
def takeReport (session : Session) (what : String) (succeeded : UInt8 → Bool)
    (next : Session → Session) (body : List UInt8) :
    Except CompletionCode (List UInt8) × Session :=
  match decode what ResultReport.reader body with
  | .error error => (.error (.ofCodecError error), session)
  | .ok report =>
    if succeeded report.result then (.ok [], next session)
    else (.ok [], { session with componentFailed := true })

/-- Takes the report that an image has been applied, or not. -/
def takeApplyReport (session : Session) (body : List UInt8) :
    Except CompletionCode (List UInt8) × Session :=
  match decode "ApplyComplete" ApplyReport.reader body with
  | .error error => (.error (.ofCodecError error), session)
  | .ok report =>
    if (ofCode? report.result : Option ApplyResult).any ApplyResult.isSuccess then
      (.ok [], session.endComponent .updated)
    else (.ok [], { session with componentFailed := true })

/-- The session expects the device to issue this command now; nothing if a device
never issues it. -/
def expects? (session : Session) : Command → Option Bool
  | .getPackageData => some (session.state == .learnComponents && session.devicePulls)
  | .requestFirmwareData | .transferComplete =>
    some (session.state == .download && !session.componentFailed)
  | .verifyComplete => some (session.state == .verify && !session.componentFailed)
  | .applyComplete => some (session.state == .apply && !session.componentFailed)
  | _ => none

/-- Serves a command of the device that is expected now. -/
def serveCommand (session : Session) (command : Command) (body : List UInt8) :
    Except CompletionCode (List UInt8) × Session :=
  match command with
  | .getPackageData => session.servePackageData body
  | .requestFirmwareData => (session.serveFirmwareData body, session)
  | .transferComplete =>
    session.takeReport "TransferComplete" (· == Coded.code TransferResult.success)
      (fun session => { session with state := .verify }) body
  | .verifyComplete =>
    session.takeReport "VerifyComplete" (· == Coded.code VerifyResult.success)
      (fun session => { session with state := .apply }) body
  | .applyComplete => session.takeApplyReport body
  | _ => (.error BaseCode.unsupportedCommand, session)

/-- Serves a request of the device. The answer is the body of the response, or the
code with which the request is refused. -/
def serve (session : Session) (request : Request) :
    Except CompletionCode (List UInt8) × Session :=
  if request.typ ≠ firmwareUpdateType then (.error BaseCode.invalidType, session)
  else match (ofCode? request.cmd : Option Command) with
    | none => (.error BaseCode.unsupportedCommand, session)
    | some command =>
      match session.expects? command with
      | none => (.error BaseCode.unsupportedCommand, session)
      | some false =>
        (.error (if session.state = .idle then UpdateCode.notInUpdateMode
          else UpdateCode.commandNotExpected), session)
      | some true => session.serveCommand command request.data

/-- Answers a request of the device, and records the code of the answer. Only a
message that is no request has no answer. -/
def handleRequest (session : Session) (message : List UInt8) :
    Except UpdateError (List UInt8) × Session :=
  match Request.parse message with
  | .error error => (.error (.codec error), session)
  | .ok request =>
    let (answer, session) := session.serve request
    let response := match answer with
      | .ok body => request.respond BaseCode.success body
      | .error cc => request.respond cc []
    (.ok response.toBytes, { session with lastCode := response.cc })

end Session

end FirmwareUpdate
