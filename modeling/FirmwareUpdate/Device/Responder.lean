import FirmwareUpdate.Agent.Error
import FirmwareUpdate.Channel.Packet
import FirmwareUpdate.Device.Basic
import FirmwareUpdate.Message.Envelope

/-!
# The device side of an update

A responder follows the protocol for a device. It answers the requests of update
agents (`answerRequest`), makes the requests that a device has to make (`progress`)
and takes the responses to them (`takeReply`). One agent owns an update from its
beginning to its end; others may ask for information and may cancel.
-/

namespace FirmwareUpdate

open Wire

/-- A request that the device makes and repeats until it is answered. -/
inductive Exchange where
  /-- To be sent. -/
  | ready
  /-- Sent at the given time. -/
  | sent (iid cmd : UInt8) (time : Nat)
  /-- A failure has been reported, with this code; the agent has to cancel. -/
  | failed (code : UInt8)
deriving DecidableEq, Repr

namespace Exchange

/-- Milliseconds after which a request without an answer is repeated. -/
def retryTime : Nat := 1000

/-- The response answers the request that has been sent. -/
def isAnsweredBy (exchange : Exchange) (response : Response) : Bool :=
  match exchange with
  | sent iid cmd _ =>
    response.typ == firmwareUpdateType && response.iid == iid && response.cmd == cmd
  | ready | failed _ => false

/-- The request has to be sent now, for the first time or again. -/
def isDue {σ : Type} (exchange : Exchange) (device : Device σ) (state : σ) : Bool × σ :=
  match exchange with
  | ready => (true, state)
  | sent _ _ time =>
    let (now, state) := device.now state
    (retryTime < now - time, state)
  | failed _ => (false, state)

/-- The auxiliary state of a device in this exchange, and the failure if it is one. -/
def auxiliary : Exchange → UInt8 × UInt8
  | ready | sent _ _ _ => (0, 0)
  | failed code => (2, code)

end Exchange

/-- The device pulls package data. -/
structure PackagePull where
  transfer : Transfer
  /-- The data that have arrived. -/
  data : List UInt8 := []
  exchange : Exchange := .ready
  /-- How often the pull has begun again. -/
  restarts : Nat := 0
deriving DecidableEq, Repr

namespace PackagePull

/-- How often a pull may begin again. -/
def maxRestarts : Nat := 2

/-- The pull begins again, if it still may. -/
def restart? (pull : PackagePull) : Option PackagePull :=
  if maxRestarts ≤ pull.restarts then none
  else some { pull with
    restarts := pull.restarts + 1
    transfer := pull.transfer.reset
    data := [] }

end PackagePull

/-- Where a device is in an update, and what it has to know there. -/
inductive DevicePhase where
  | idle (reason : IdleReason)
  /-- The agent announces components; the device may pull package data meanwhile.
  `passed` says that the first component has been announced. -/
  | learnComponents (pull : Option PackagePull) (passed : Bool)
  | readyXfer
  /-- The device has `offset` bytes of the image. The result is known once the image is
  complete or has failed. -/
  | download (offset : Nat) (result : Option TransferResult) (exchange : Exchange)
    (options : UInt32) (details : ComponentDetails)
  | verify (exchange : Exchange) (details : ComponentDetails)
  | apply (exchange : Exchange) (details : ComponentDetails)
  | activate
deriving DecidableEq, Repr

namespace DevicePhase

/-- The state that a device reports in this phase. -/
def state : DevicePhase → DeviceState
  | idle _ => .idle
  | learnComponents _ _ => .learnComponents
  | readyXfer => .readyXfer
  | download _ _ _ _ _ => .download
  | verify _ _ => .verify
  | apply _ _ => .apply
  | activate => .activate

/-- The component that is being updated. -/
def details? : DevicePhase → Option ComponentDetails
  | download _ _ _ _ details | verify _ details | apply _ details => some details
  | idle _ | learnComponents _ _ | readyXfer | activate => none

/-- Why a device is idle after an update that ended here without its agent. -/
def timeoutReason : DevicePhase → IdleReason
  | idle reason => reason
  | learnComponents _ _ => .timeoutLearn
  | readyXfer => .timeoutReadyXfer
  | download _ _ _ _ _ => .timeoutDownload
  | verify _ _ => .timeoutVerify
  | apply _ _ => .timeoutApply
  | activate => .activate

/-- Why a command that needs another phase is refused. -/
def refusal : DevicePhase → CompletionCode
  | idle _ => UpdateCode.notInUpdateMode
  | _ => UpdateCode.invalidStateForCommand

end DevicePhase

/-- The protocol state of a device. -/
structure Responder where
  phase : DevicePhase := .idle .init
  /-- The state before the last transition. -/
  previous : DeviceState := .idle
  /-- The agent that owns the running update. -/
  owner : Option EndpointId := none
  /-- The most firmware data that the agent serves at once. -/
  maxTransfer : Nat := baselineTransfer
  /-- The longest message that the device can take. -/
  maxMessage : Nat := maxMessageSize
  metadata : Transfer := { kind := .deviceMetaData }
  nextIid : UInt8 := 0
  /-- When the agent was last heard of. -/
  lastActivity : Nat := 0
deriving DecidableEq, Repr

namespace Responder

/-- Milliseconds without the agent after which an update is given up. -/
def silenceLimit : Nat := 120000

/-- An idle device that takes messages of the given size. A size that has no room for
the least of firmware data is raised. -/
def withMaxMessage (size : Nat) : Responder :=
  { maxMessage := max size (responseHeaderSize + baselineTransfer) }

/-- The state that the device reports. -/
def state (responder : Responder) : DeviceState := responder.phase.state

/-- Why the device is idle, if it is. -/
def idleReason? (responder : Responder) : Option IdleReason :=
  match responder.phase with
  | .idle reason => some reason
  | _ => none

/-- Enters another phase of the update. -/
def enter (responder : Responder) (phase : DevicePhase) : Responder :=
  { responder with previous := responder.state, phase }

/-- Ends the update. -/
def enterIdle (responder : Responder) (reason : IdleReason) : Responder :=
  { responder with
    previous := responder.state
    phase := .idle reason
    owner := none
    metadata := responder.metadata.reset }

/-- How many hundredths of an image of `size` bytes the first `offset` bytes are. A
hundredth is a whole number of bytes, rounded up, so small images end below 100. -/
def progressPercent (offset size : Nat) : Nat :=
  offset / ((size + 99) / 100)

/-- What the device says about itself. -/
def status (responder : Responder) : DeviceStatus :=
  let base : DeviceStatus :=
    { current := responder.state
      previous := responder.previous
      auxState := 0
      auxStatus := 0
      progress := 101
      reason := Coded.code IdleReason.init
      options := 0 }
  match responder.phase with
  | .idle reason => { base with reason := Coded.code reason, auxState := 3 }
  | .learnComponents (some pull) _ =>
    { base with auxState := pull.exchange.auxiliary.1, auxStatus := pull.exchange.auxiliary.2 }
  | .learnComponents none _ | .readyXfer => { base with auxState := 3 }
  | .download offset _ exchange options details =>
    { base with
      auxState := exchange.auxiliary.1
      auxStatus := exchange.auxiliary.2
      progress :=
        if 0 < details.size then UInt8.ofNat (progressPercent offset details.size) else 101
      options }
  | .verify exchange _ | .apply exchange _ =>
    { base with auxState := exchange.auxiliary.1, auxStatus := exchange.auxiliary.2 }
  | .activate => base

/-- What a command comes to: a response or the code that refuses it, and the device
after it. -/
abbrev Answer (σ : Type) := Except CompletionCode Response × Responder × σ

/-- A successful response with the given body. -/
def respondWith (request : Request) (body : Layout) : Except CompletionCode Response :=
  (request.respond BaseCode.success <$> body.toMessage).mapError CompletionCode.ofCodecError

variable {σ : Type}

/-- Notes that the agent has been heard of. -/
def touch (responder : Responder) (device : Device σ) (state : σ) : Responder × σ :=
  let (now, state) := device.now state
  ({ responder with lastActivity := now }, state)

/-! ## Requests of an agent -/

/-- Says what the device is. -/
def answerIdentifiers (responder : Responder) (device : Device σ) (request : Request)
    (state : σ) : Answer σ :=
  if request.data.isEmpty then
    let (identifiers, state) := device.identifiers state
    (respondWith request identifiers.responseLayout, responder, state)
  else (.error BaseCode.invalidData, responder, state)

/-- Says what firmware the device has. -/
def answerParameters (responder : Responder) (device : Device σ) (request : Request)
    (state : σ) : Answer σ :=
  if request.data.isEmpty then
    let parameters : FirmwareParameters :=
      { capabilities := device.capabilities state
        components := device.components state
        active := device.activeVersion state
        pending := device.pendingVersion state }
    (respondWith request parameters.layout, responder, state)
  else (.error BaseCode.invalidData, responder, state)

/-- Enters an update that the device has accepted. -/
def acceptUpdate (responder : Responder) (device : Device σ) (agent : EndpointId)
    (request : Request) (update : UpdateRequest) (state : σ) : Answer σ :=
  let size := (device.metadata state).length
  if 65536 ≤ size then (.error BaseCode.error, responder, state)
  else
    let pull : Option PackagePull :=
      if 0 < update.packageDataSize.toNat && device.wantsPackageData state then
        some { transfer :=
          { kind := .packageData, totalSize := update.packageDataSize.toNat } }
      else none
    let body : UpdateResponse :=
      { metadataSize := UInt16.ofNat size, pullsPackageData := if pull.isSome then 1 else 0 }
    let (responder, state) := responder.touch device state
    (respondWith request body.layout,
      { responder with
        maxTransfer := max update.maxTransfer.toNat baselineTransfer
        metadata := responder.metadata.reset
        owner := some agent }.enter (.learnComponents pull false),
      state)

/-- Enters an update, if the device is idle and agrees. -/
def answerUpdate (responder : Responder) (device : Device σ) (agent : EndpointId)
    (request : Request) (state : σ) : Answer σ :=
  match responder.phase with
  | .idle _ =>
    match decode "RequestUpdate" UpdateRequest.reader request.data with
    | .error error => (.error (.ofCodecError error), responder, state)
    | .ok update =>
      match device.requestUpdate update state with
      | (.retry, state) => (.error UpdateCode.retryRequestUpdate, responder, state)
      | (.unable, state) => (.error UpdateCode.unableToInitiateUpdate, responder, state)
      | (.accept, state) => responder.acceptUpdate device agent request update state
  | _ => (.error UpdateCode.alreadyInUpdateMode, responder, state)

/-- The most bytes of metadata in one portion. -/
def metadataPortion (responder : Responder) : Nat :=
  min responder.maxTransfer
    (responder.maxMessage - responseHeaderSize - PartResponse.headerSize)

/-- Serves a portion of the metadata. -/
def answerMetadata (responder : Responder) (device : Device σ) (request : Request)
    (state : σ) : Answer σ :=
  match responder.phase with
  | .learnComponents _ _ =>
    match decode "GetDeviceMetaData" PartRequest.reader request.data with
    | .error error => (.error (.ofCodecError error), responder, state)
    | .ok part =>
      match responder.metadata.serve part (device.metadata state) responder.metadataPortion with
      | (.error error, metadata) =>
        (.error error.completionCode, { responder with metadata }, state)
      | (.ok part, metadata) =>
        let (responder, state) := { responder with metadata }.touch device state
        (respondWith request part.layout, responder, state)
  | phase => (.error phase.refusal, responder, state)

/-- The device's answer about a component. Components that it does not have are not
supported, and the device is not asked. -/
def checkComponent (device : Device σ) (begins : Bool) (record : ComponentRecord)
    (state : σ) : UInt8 × σ :=
  if (device.components state).any (·.isNamedBy record) then
    device.updateComponent begins record state
  else (Coded.code ComponentAnswer.notSupported, state)

/-- Reads an entry of the component table; its flag may be none. -/
def tableEntryReader : Reader (UInt8 × ComponentRecord) := do
  let flag ← Reader.byte
  let record ← ComponentRecord.tableReader
  pure (flag, record)

/-- The flag of an entry that may follow: the first entry has to start the table, and
no other entry may. -/
def followingFlag? (passed : Bool) (code : UInt8) : Option TransferFlag :=
  (ofCode? code : Option TransferFlag).filter fun flag => flag.isStart != passed

/-- Takes an entry of the component table. The last one ends the announcement. -/
def answerTableEntry (responder : Responder) (device : Device σ) (request : Request)
    (state : σ) : Answer σ :=
  match responder.phase with
  | .learnComponents pull passed =>
    match decode "PassComponentTable" tableEntryReader request.data with
    | .error error => (.error (.ofCodecError error), responder, state)
    | .ok (code, record) =>
      match followingFlag? passed code with
      | none => (.error UpdateCode.invalidStateForCommand, responder, state)
      | some flag =>
        let (responder, state) := responder.touch device state
        let (answer, state) := checkComponent device false record state
        let responder := { responder with phase := .learnComponents pull true }
        (respondWith request (TableResponse.of answer).layout,
          if flag.isEnd then responder.enter .readyXfer else responder,
          state)
  | phase => (.error phase.refusal, responder, state)

/-- The phase in which a component that has been accepted begins. An empty image is
complete from the beginning. -/
def beginDownload (record : ComponentRecord) (options : UInt32) : DevicePhase :=
  let size := (record.size.getD 0).toNat
  .download 0 (if size = 0 then some .success else none) .ready options
    { size, key := record.key }

/-- Begins the update of a component, if the device agrees. -/
def answerComponent (responder : Responder) (device : Device σ) (request : Request)
    (state : σ) : Answer σ :=
  match responder.phase with
  | .readyXfer =>
    match decode "UpdateComponent" ComponentRecord.updateReader request.data with
    | .error error => (.error (.ofCodecError error), responder, state)
    | .ok record =>
      let (responder, state) := responder.touch device state
      let (answer, state) := checkComponent device true record state
      let options := record.options.getD 0 &&& 0x1
      let body : ComponentResponse :=
        { response := if answer = 0 then 0 else 1
          answerCode := answer
          options
          estimatedTime := 0 }
      (respondWith request body.layout,
        if answer = 0 then responder.enter (beginDownload record options) else responder,
        state)
  | phase => (.error phase.refusal, responder, state)

/-- Activates the images that have been applied. -/
def answerActivation (responder : Responder) (device : Device σ) (request : Request)
    (state : σ) : Answer σ :=
  match decode "ActivateFirmware" ActivationRequest.reader request.data with
  | .error error => (.error (.ofCodecError error), responder, state)
  | .ok activation =>
    match responder.phase with
    | .readyXfer =>
      let (result, state) := device.activate activation.selfContained state
      if result.endsUpdate then
        ((fun response => { response with cc := result.completionCode }) <$>
            respondWith request (ActivationResponse.layout { estimatedTime := 0 }),
          (responder.enter .activate).enterIdle .activate,
          state)
      else (.error result.completionCode, responder, state)
    | phase => (.error phase.refusal, responder, state)

/-- Gives up the update. -/
def answerCancel (responder : Responder) (device : Device σ) (request : Request)
    (state : σ) : Answer σ :=
  match responder.phase with
  | .idle _ | .activate => (.error responder.phase.refusal, responder, state)
  | phase =>
    if request.data.isEmpty then
      let state := match phase.details? with
        | some details => device.cancelComponent details state
        | none => state
      (respondWith request (CancelResponse.layout {}), responder.enterIdle .cancel, state)
    else (.error BaseCode.invalidData, responder, state)

/-- Gives up the component that is being updated. -/
def answerCancelComponent (responder : Responder) (device : Device σ) (request : Request)
    (state : σ) : Answer σ :=
  match responder.phase.details? with
  | none => (.error responder.phase.refusal, responder, state)
  | some details =>
    if request.data.isEmpty then
      (.ok (request.respond BaseCode.success []), responder.enter .readyXfer,
        device.cancelComponent details state)
    else (.error BaseCode.invalidData, responder, state)

/-- Says what the device is doing. -/
def answerStatus (responder : Responder) (request : Request) (state : σ) : Answer σ :=
  if request.data.isEmpty then
    (respondWith request responder.status.layout, responder, state)
  else (.error BaseCode.invalidData, responder, state)

/-- The commands that any agent may use, whoever owns the update. -/
def isOpen : Command → Bool
  | .queryDeviceIdentifiers | .getFirmwareParameters | .getStatus | .cancelUpdate
  | .requestUpdate => true
  | _ => false

/-- The update belongs to an agent other than this one. -/
def isForeign (responder : Responder) (agent : EndpointId) : Bool :=
  responder.owner.any (· != agent)

/-- Answers a command. -/
def answerCommand (responder : Responder) (device : Device σ) (agent : EndpointId)
    (request : Request) (state : σ) : Command → Answer σ
  | .queryDeviceIdentifiers => responder.answerIdentifiers device request state
  | .getFirmwareParameters => responder.answerParameters device request state
  | .requestUpdate => responder.answerUpdate device agent request state
  | .getDeviceMetaData => responder.answerMetadata device request state
  | .passComponentTable => responder.answerTableEntry device request state
  | .updateComponent => responder.answerComponent device request state
  | .activateFirmware => responder.answerActivation device request state
  | .cancelUpdate => responder.answerCancel device request state
  | .cancelUpdateComponent => responder.answerCancelComponent device request state
  | .getStatus => responder.answerStatus request state
  | _ => (.error BaseCode.unsupportedCommand, responder, state)

/-- Answers a request. An agent that does not own the update is told that the device
is not ready, unless the command is open to all. -/
def answer (responder : Responder) (device : Device σ) (agent : EndpointId)
    (request : Request) (state : σ) : Answer σ :=
  if request.typ ≠ firmwareUpdateType then (.error BaseCode.invalidType, responder, state)
  else match (ofCode? request.cmd : Option Command) with
    | none => (.error BaseCode.unsupportedCommand, responder, state)
    | some command =>
      if !isOpen command && responder.isForeign agent then
        (.error BaseCode.notReady, responder, state)
      else responder.answerCommand device agent request state command

/-- Answers a message from an agent. Only a message that is no request has no answer. -/
def answerRequest (responder : Responder) (device : Device σ) (agent : EndpointId)
    (message : List UInt8) (state : σ) :
    Except UpdateError (List UInt8) × Responder × σ :=
  match Request.parse message with
  | .error error => (.error (.codec error), responder, state)
  | .ok request =>
    match responder.answer device agent request state with
    | (.ok response, responder, state) => (.ok response.toBytes, responder, state)
    | (.error cc, responder, state) => (.ok (request.respond cc []).toBytes, responder, state)

/-! ## Requests of the device -/

/-- Writes a request of the device. -/
def newRequest (responder : Responder) (command : Command) (body : List UInt8) :
    Request × Responder :=
  ({ iid := responder.nextIid, typ := firmwareUpdateType, cmd := Coded.code command, data := body },
    { responder with nextIid := nextInstance responder.nextIid })

/-- The exchange after a request has been sent. -/
def markSent (device : Device σ) (request : Request) (state : σ) : Exchange × σ :=
  let (now, state) := device.now state
  (.sent request.iid request.cmd now, state)

/-- Asks for a portion of the package data, if a request is due. -/
def progressPull (responder : Responder) (device : Device σ) (pull : PackagePull)
    (passed : Bool) (state : σ) : Option (List UInt8) × Responder × σ :=
  match pull.exchange.isDue device state with
  | (false, state) => (none, responder, state)
  | (true, state) =>
    match pull.transfer.nextRequest.layout.toMessage with
    | .error _ => (none, responder, state)
    | .ok body =>
      let (request, responder) := responder.newRequest .getPackageData body
      let (exchange, state) := markSent device request state
      (some request.toBytes,
        { responder with phase := .learnComponents (some { pull with exchange }) passed },
        state)

/-- The bytes of firmware data to ask for next. -/
def requestSize (responder : Responder) (offset : Nat) (details : ComponentDetails) : Nat :=
  min (min (details.size - offset) responder.maxTransfer)
    (responder.maxMessage - responseHeaderSize)

/-- Asks for a piece of the image, or reports how the transfer has ended. -/
def progressDownload (responder : Responder) (device : Device σ) (offset : Nat)
    (result : Option TransferResult) (exchange : Exchange) (options : UInt32)
    (details : ComponentDetails) (state : σ) : Option (List UInt8) × Responder × σ :=
  match exchange.isDue device state with
  | (false, state) => (none, responder, state)
  | (true, state) =>
    match result with
    | some result =>
      match (ResultReport.layout { result := Coded.code result }).toMessage with
      | .error _ => (none, responder, state)
      | .ok body =>
        let (request, responder) := responder.newRequest .transferComplete body
        (some request.toBytes,
          if result = .success then responder.enter (.verify .ready details)
          else { responder with
            phase := .download offset (some result) (.failed (Coded.code result)) options details },
          state)
    | none =>
      let wanted : DataRequest :=
        { offset := UInt32.ofNat offset
          length := UInt32.ofNat (responder.requestSize offset details) }
      match wanted.layout.toMessage with
      | .error _ => (none, responder, state)
      | .ok body =>
        let (request, responder) := responder.newRequest .requestFirmwareData body
        let (exchange, state) := markSent device request state
        (some request.toBytes,
          { responder with phase := .download offset none exchange options details },
          state)

/-- Checks the image and reports the result. -/
def progressVerify (responder : Responder) (device : Device σ) (exchange : Exchange)
    (details : ComponentDetails) (state : σ) : Option (List UInt8) × Responder × σ :=
  match exchange.isDue device state with
  | (false, state) => (none, responder, state)
  | (true, state) =>
    let (result, state) := device.verify details state
    match (ResultReport.layout { result := Coded.code result }).toMessage with
    | .error _ => (none, responder, state)
    | .ok body =>
      let (request, responder) := responder.newRequest .verifyComplete body
      (some request.toBytes,
        if result = .success then responder.enter (.apply .ready details)
        else { responder with phase := .verify (.failed (Coded.code result)) details },
        state)

/-- What an application of an image is reported as. -/
def applyReport : Except ApplyResult ActivationMethods → ApplyResult × ActivationMethods
  | .ok methods => (.success, methods)
  | .error result => (result, .empty)

/-- Applies the image and reports the result. -/
def progressApply (responder : Responder) (device : Device σ) (exchange : Exchange)
    (details : ComponentDetails) (state : σ) : Option (List UInt8) × Responder × σ :=
  match exchange.isDue device state with
  | (false, state) => (none, responder, state)
  | (true, state) =>
    let (outcome, state) := device.apply details state
    let (result, methods) := applyReport outcome
    match (ApplyReport.layout { result := Coded.code result, methods }).toMessage with
    | .error _ => (none, responder, state)
    | .ok body =>
      let (request, responder) := responder.newRequest .applyComplete body
      (some request.toBytes,
        if result.isSuccess then responder.enter .readyXfer
        else { responder with phase := .apply (.failed (Coded.code result)) details },
        state)

/-- Gives up an update whose agent has been silent for too long. -/
def giveUp (responder : Responder) (device : Device σ) (state : σ) : Responder × σ :=
  (responder.enterIdle responder.phase.timeoutReason,
    match responder.phase.details? with
    | some details => device.cancelComponent details state
    | none => state)

/-- Makes the request of the current phase, if one is due. -/
def progressPhase (responder : Responder) (device : Device σ) (state : σ) :
    Option (List UInt8) × Responder × σ :=
  match responder.phase with
  | .learnComponents (some pull) passed => responder.progressPull device pull passed state
  | .download offset result exchange options details =>
    responder.progressDownload device offset result exchange options details state
  | .verify exchange details => responder.progressVerify device exchange details state
  | .apply exchange details => responder.progressApply device exchange details state
  | .idle _ | .learnComponents none _ | .readyXfer | .activate => (none, responder, state)

/-- Moves the update on. Returns a request for the agent, if one is due. -/
def progress (responder : Responder) (device : Device σ) (state : σ) :
    Option (List UInt8) × Responder × σ :=
  match responder.phase with
  | .idle _ => (none, responder, state)
  | _ =>
    let (now, state) := device.now state
    if silenceLimit < now - responder.lastActivity then
      let (responder, state) := responder.giveUp device state
      (none, responder, state)
    else responder.progressPhase device state

/-! ## Responses to the device -/

/-- Ends a pull, with the data if they are complete. -/
def endPull (responder : Responder) (device : Device σ) (passed : Bool)
    (data : Option (List UInt8)) (state : σ) : Responder × σ :=
  let (responder, state) :=
    { responder with phase := .learnComponents none passed }.touch device state
  (responder, match data with
    | some data => device.packageData data state
    | none => state)

/-- Goes on with a pull. -/
def continuePull (responder : Responder) (device : Device σ) (pull : PackagePull)
    (passed : Bool) (state : σ) : Responder × σ :=
  { responder with phase := .learnComponents (some pull) passed }.touch device state

/-- Begins a pull again, or ends it without data if it may not. -/
def restartPull (responder : Responder) (device : Device σ) (pull : PackagePull)
    (passed : Bool) (state : σ) : Responder × σ :=
  match pull.restart? with
  | some pull => responder.continuePull device pull passed state
  | none => responder.endPull device passed none state

/-- The refusals after which a pull may begin again. -/
def allowsRestart (cc : CompletionCode) : Bool :=
  cc == UpdateCode.invalidTransferOperationFlag || cc == UpdateCode.invalidTransferHandle

/-- Takes the answer to a request for package data. -/
def takePart (responder : Responder) (device : Device σ) (pull : PackagePull)
    (passed : Bool) (response : Response) (state : σ) :
    Except UpdateError Unit × Responder × σ :=
  if response.cc.isSuccess then
    match decode "GetPackageData" PartResponse.reader response.data with
    | .error error =>
      (.error (.codec error),
        { responder with phase := .learnComponents (some pull) passed }, state)
    | .ok part =>
      match pull.transfer.accept part pull.data with
      | .error _ => (.ok (), responder.restartPull device pull passed state)
      | .ok (transfer, data) =>
        if transfer.inProgress then
          (.ok (), responder.continuePull device { pull with transfer, data } passed state)
        else (.ok (), responder.endPull device passed (some data) state)
  else if allowsRestart response.cc then
    (.ok (), responder.restartPull device pull passed state)
  else (.ok (), responder.endPull device passed none state)

/-- Takes a response to a request for package data, if the device pulls any. -/
def takePackageReply (responder : Responder) (device : Device σ) (response : Response)
    (state : σ) : Except UpdateError Unit × Responder × σ :=
  match responder.phase with
  | .learnComponents (some pull) passed =>
    if pull.exchange.isAnsweredBy response then
      responder.takePart device { pull with exchange := .ready } passed response state
    else (.error (.codec (.protocol .unmatchedResponse)), responder, state)
  | _ => (.ok (), responder, state)

/-- The phase after a piece of the image, by what the device says about it. -/
def afterData (offset length : Nat) (result : TransferResult) (options : UInt32)
    (details : ComponentDetails) : DevicePhase :=
  if result = .success then
    .download (offset + length) (if offset + length = details.size then some .success else none)
      .ready options details
  else .download offset (some result) .ready options details

/-- Takes the answer to a request for firmware data. Data of another length than the
device has asked for are not used, and asked for again later. -/
def takeData (responder : Responder) (device : Device σ) (offset : Nat) (exchange : Exchange)
    (options : UInt32) (details : ComponentDetails) (response : Response) (state : σ) :
    Responder × σ :=
  if response.cc = UpdateCode.retryRequestFirmwareData then
    ({ responder with phase := .download offset none .ready options details }, state)
  else if response.cc.isSuccess then
    if response.data.length = responder.requestSize offset details then
      let (result, state) := device.firmwareData offset response.data details state
      ({ responder with
        phase := afterData offset response.data.length result options details }, state)
    else ({ responder with phase := .download offset none exchange options details }, state)
  else
    ({ responder with phase := .download offset (some .generic) .ready options details }, state)

/-- Takes a response to a request for firmware data, if the device waits for any. -/
def takeDataReply (responder : Responder) (device : Device σ) (response : Response)
    (state : σ) : Except UpdateError Unit × Responder × σ :=
  match responder.phase with
  | .download offset none exchange options details =>
    if exchange.isAnsweredBy response then
      let (responder, state) := responder.touch device state
      (.ok (), responder.takeData device offset exchange options details response state)
    else (.error (.codec (.protocol .unmatchedResponse)), responder, state)
  | _ => (.ok (), responder, state)

/-- Takes a message that should be a response to a request of the device. Only the
agent that owns the update can send one. -/
def takeReply (responder : Responder) (device : Device σ) (agent : EndpointId)
    (message : List UInt8) (state : σ) : Except UpdateError Unit × Responder × σ :=
  if responder.owner ≠ some agent then
    (.error (.codec (.protocol (.foreignEndpoint agent.byte))), responder, state)
  else match Response.parse message with
    | .error error => (.error (.codec error), responder, state)
    | .ok response =>
      match (ofCode? response.cmd : Option Command) with
      | some .getPackageData => responder.takePackageReply device response state
      | some .requestFirmwareData => responder.takeDataReply device response state
      | some .transferComplete | some .verifyComplete | some .applyComplete =>
        (.ok (), responder, state)
      | _ => (.error (.codec (.protocol .unsupportedResponse)), responder, state)

end Responder

end FirmwareUpdate
