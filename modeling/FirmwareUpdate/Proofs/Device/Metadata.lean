import FirmwareUpdate.Proofs.Device.Size
import FirmwareUpdate.Proofs.Transfer.Pull

/-!
# Pulls of device metadata

An agent pulls the metadata of a device while components are announced: it asks for the portion
that its transfer needs next and accepts the answer, until it has them all. The size of a portion
is bounded by what was negotiated and by the messages that the device is made for, but the buffer
into which the answer is written has a bound of its own. A pull yields the metadata unless a
portion is too long for that buffer.
-/

namespace FirmwareUpdate

open Wire

/-! ## The agent -/

namespace Transfer

variable (transfer : Transfer)

/-- The message that asks a device for the next portion of its metadata. -/
def metadataRequest (iid : UInt8) : Except CodecError (List UInt8) :=
  transfer.nextRequest.layout.toMessage.map fun body =>
    Request.toBytes
      { iid, typ := firmwareUpdateType, cmd := Coded.code Command.getDeviceMetaData, data := body }

/-- What an agent makes of an answer: it accepts the portion, unless there is none. -/
def takeMetadata (response : Response) (output : List UInt8) :
    Except UpdateError (Transfer × List UInt8) :=
  if response.cc.isSuccess then
    match decode "GetDeviceMetaData" PartResponse.reader response.data with
    | .error error => .error (.codec error)
    | .ok part => (transfer.accept part output).mapError .transfer
  else .error (.refused .getDeviceMetaData response.cc)

/-- The message that asks for metadata is read as such. -/
theorem metadataRequest_read (iid : UInt8) :
    ∃ message request, transfer.metadataRequest iid = .ok message ∧
      Request.parse message = .ok request ∧ request.IsFor .getDeviceMetaData ∧
      decode "GetDeviceMetaData" PartRequest.reader request.data = .ok transfer.nextRequest := by
  obtain ⟨body, written, -, read⟩ :=
    (PartRequest.roundTrips transfer.nextRequest).message (by decide) "GetDeviceMetaData"
  refine ⟨_, _, by rw [metadataRequest, written]; rfl, Request.parse_toBytes_masked _, ?_, read⟩
  exact ⟨fitsType_firmwareUpdate, rfl⟩

end Transfer

/-- What has come of a pull: the codes of the answers in their order, the output or the failure
unless the requests were used up before, and the device. -/
structure MetadataPull (σ : Type) where
  codes : List CompletionCode
  outcome : Option (Except UpdateError (List UInt8))
  responder : Responder
  state : σ

namespace Responder

variable {σ : Type}

/-- An agent pulls the metadata of a device with requests of these instance identifiers. -/
def pullMetadata (device : Device σ) (agent : EndpointId) :
    List UInt8 → Transfer → List UInt8 → Responder → σ → MetadataPull σ
  | [], _, _, responder, state => ⟨[], none, responder, state⟩
  | iid :: iids, requester, output, responder, state =>
    match requester.metadataRequest iid with
    | .error error => ⟨[], some (.error (.codec error)), responder, state⟩
    | .ok message =>
      match responder.answerRequest device agent message state with
      | (.error error, responder, state) => ⟨[], some (.error error), responder, state⟩
      | (.ok answer, responder, state) =>
        match Response.parse answer with
        | .error error => ⟨[], some (.error (.codec error)), responder, state⟩
        | .ok response =>
          match requester.takeMetadata response output with
          | .error error => ⟨[response.cc], some (.error error), responder, state⟩
          | .ok (requester, output) =>
            if requester.inProgress then
              let rest := pullMetadata device agent iids requester output responder state
              { rest with codes := response.cc :: rest.codes }
            else ⟨[response.cc], some (.ok output), responder, state⟩

/-! ## One round -/

section Round

variable {device : Device σ} {agent : EndpointId} {responder : Responder} {state : σ}
  {requester : Transfer} {output source : List UInt8} {pull : Option PackagePull} {passed : Bool}

/-- The owner is answered by the handler of metadata. -/
theorem answer_metadata (owner : responder.owner = some agent) {request : Request}
    (asks : request.IsFor .getDeviceMetaData) :
    responder.answer device agent request state =
      responder.answerMetadata device request state := by
  have mine : responder.isForeign agent = false := by simp [isForeign, owner]
  simp only [answer, asks.1, asks.2, ofCode?_code, mine]
  rfl

/-- A pull ends with the first refusal. -/
theorem pullMetadata_refused (owner : responder.owner = some agent) {cc : CompletionCode}
    (failure : cc.isSuccess = false) {after : Responder} {later : σ}
    (refused : ∀ request : Request,
      decode "GetDeviceMetaData" PartRequest.reader request.data = .ok requester.nextRequest →
        responder.answerMetadata device request state = (.error cc, after, later))
    (iid : UInt8) (iids : List UInt8) :
    pullMetadata device agent (iid :: iids) requester output responder state =
      ⟨[cc], some (.error (.refused .getDeviceMetaData cc)), after, later⟩ := by
  obtain ⟨message, request, asked, parsed, asks, read⟩ := requester.metadataRequest_read iid
  rw [pullMetadata, asked]
  dsimp only
  rw [answerRequest_of_parse responder device agent parsed, answer_metadata owner asks,
    refused request read]
  simp only [messageOf, Request.parse_respond parsed]
  rw [Transfer.takeMetadata, if_neg (by simp [Request.respond, failure])]
  rfl

/-- While another pull is under way, none can begin. -/
theorem pullMetadata_underWay (learning : responder.phase = .learnComponents pull passed)
    (owner : responder.owner = some agent) (some : device.metadata state ≠ [])
    (underWay : responder.metadata.inProgress = true) (fresh : requester.inProgress = false)
    (iid : UInt8) (iids : List UInt8) :
    pullMetadata device agent (iid :: iids) requester output responder state =
      ⟨[UpdateCode.invalidTransferOperationFlag],
        Option.some (.error (.refused .getDeviceMetaData UpdateCode.invalidTransferOperationFlag)),
        responder, state⟩ := by
  have refused : responder.metadata.serve requester.nextRequest (device.metadata state)
      responder.metadataPortion = (.error .invalidOperation, responder.metadata) := by
    simp [Transfer.serve, some, Transfer.opened, Transfer.nextRequest, fresh, underWay,
      PartRequest.of, PartRequest.operation?]
  refine pullMetadata_refused owner rfl (fun request read => ?_) iid iids
  simp only [answerMetadata, learning, read, refused]
  rw [← learning]
  rfl

/-- The device after it has served a portion of its metadata. -/
def afterMetadata (device : Device σ) (responder : Responder) (source : List UInt8)
    (moved : Nat) (state : σ) : Responder :=
  { responder with
    metadata := responder.metadata.afterPart source responder.metadataPortion moved
    lastActivity := (device.now state).1 }

variable {moved : Nat} (learning : responder.phase = .learnComponents pull passed)
  (moves : Transfer.Moved source requester responder.metadata output moved)
  (small : source.length < 2 ^ 32) (provides : device.metadata state = source)

include learning moves small provides

/-- The device serves the portion that comes next, and then writes the answer. -/
theorem answerMetadata_eq {request : Request}
    (read : decode "GetDeviceMetaData" PartRequest.reader request.data =
      .ok requester.nextRequest) :
    responder.answerMetadata device request state =
      (respondWith request
          (Transfer.nextPart source responder.metadataPortion moved).layout,
        afterMetadata device responder source moved state, (device.now state).2) := by
  rw [answerMetadata, learning]
  dsimp only
  rw [read]
  dsimp only
  rw [provides, moves.serve_eq small]
  simp only [touch, afterMetadata, learning]

/-- A portion for which there is room arrives. -/
theorem pullMetadata_portion (owner : responder.owner = some agent)
    (fits : PartResponse.headerSize +
      (Transfer.nextPart source responder.metadataPortion moved).portion.length ≤ maxMessageSize)
    (iid : UInt8) (iids : List UInt8) :
    pullMetadata device agent (iid :: iids) requester output responder state =
      if Transfer.reached source responder.metadataPortion moved = source.length then
        ⟨[BaseCode.success], some (.ok source),
          afterMetadata device responder source moved state, (device.now state).2⟩
      else
        let rest := pullMetadata device agent iids
          (requester.afterPart source responder.metadataPortion moved)
          (source.take (Transfer.reached source responder.metadataPortion moved))
          (afterMetadata device responder source moved state) (device.now state).2
        { rest with codes := BaseCode.success :: rest.codes } := by
  obtain ⟨message, request, asked, parsed, asks, read⟩ := requester.metadataRequest_read iid
  obtain ⟨body, written, decoded⟩ :=
    (Transfer.nextPart source responder.metadataPortion moved).message fits "GetDeviceMetaData"
  rw [pullMetadata, asked]
  dsimp only
  rw [answerRequest_of_parse responder device agent parsed, answer_metadata owner asks,
    answerMetadata_eq learning moves small provides read, respondWith_of_written request written]
  simp only [messageOf, Request.parse_respond parsed]
  have taken : requester.takeMetadata (request.respond BaseCode.success body) output =
      .ok (requester.afterPart source responder.metadataPortion moved,
        source.take (Transfer.reached source responder.metadataPortion moved)) := by
    rw [Transfer.takeMetadata, if_pos (by rfl)]
    simp only [Request.respond, decoded, moves.accept_eq small]
    rfl
  rw [taken]
  by_cases last : Transfer.reached source responder.metadataPortion moved = source.length
  · simp [Transfer.afterPart, last, Request.respond]
  · simp [Transfer.afterPart, last, Request.respond]

/-- A portion for which there is none is refused, although the transfer has moved past it. -/
theorem pullMetadata_overflow (owner : responder.owner = some agent)
    (overflows : maxMessageSize < PartResponse.headerSize +
      (Transfer.nextPart source responder.metadataPortion moved).portion.length)
    (iid : UInt8) (iids : List UInt8) :
    pullMetadata device agent (iid :: iids) requester output responder state =
      ⟨[BaseCode.error], some (.error (.refused .getDeviceMetaData BaseCode.error)),
        afterMetadata device responder source moved state, (device.now state).2⟩ := by
  refine pullMetadata_refused owner rfl (fun request read => ?_) iid iids
  rw [answerMetadata_eq learning moves small provides read]
  obtain ⟨head, spelled, length, -⟩ :=
    (Transfer.nextPart source responder.metadataPortion moved).written
  rw [← length, ← List.length_append] at overflows
  rw [respondWith, Layout.toMessage, Layout.encode_of_long spelled overflows]
  rfl

end Round

/-! ## Whole pulls -/

section Pull

variable {device : Device σ} {agent : EndpointId} {responder : Responder} {state : σ}
  {requester : Transfer} {output source : List UInt8} {pull : Option PackagePull} {passed : Bool}

/-- Where every portion fits, the requests that are needed are all answered with success, and the
agent has the rest of the metadata. -/
theorem pullMetadata_completes (learning : responder.phase = .learnComponents pull passed)
    (owner : responder.owner = some agent) {moved : Nat}
    (moves : Transfer.Moved source requester responder.metadata output moved)
    (small : source.length < 2 ^ 32)
    (steady : ∀ state, device.metadata (device.now state).2 = device.metadata state)
    (provides : device.metadata state = source)
    (fits : PartResponse.headerSize + min (max responder.metadataPortion 1) source.length ≤
      maxMessageSize) {iids : List UInt8}
    (enough : Transfer.roundsLeft source.length responder.metadataPortion moved ≤ iids.length) :
    (pullMetadata device agent iids requester output responder state).outcome =
        some (.ok source) ∧
      (pullMetadata device agent iids requester output responder state).codes =
        List.replicate (Transfer.roundsLeft source.length responder.metadataPortion moved)
          BaseCode.success ∧
      (pullMetadata device agent iids requester output responder state).responder.phase =
        responder.phase := by
  -- each round leaves the ends as `Moved` with more bytes, and the sizes as they were
  induction iids generalizing requester responder output moved state with
  | nil =>
      have some := moves.roundsLeft_pos responder.metadataPortion
      rw [List.length_nil] at enough
      omega
  | cons iid iids ih =>
      have short : PartResponse.headerSize +
          (Transfer.nextPart source responder.metadataPortion moved).portion.length ≤
            maxMessageSize := by
        have bounded := Transfer.length_nextPart source responder.metadataPortion moved
        have inside : (Transfer.nextPart source responder.metadataPortion moved).portion.length ≤
            source.length := by
          rw [Transfer.nextPart, List.length_take, List.length_drop]
          omega
        omega
      rw [pullMetadata_portion learning moves small provides owner short]
      split
      · rename_i last
        rw [moves.roundsLeft_of_last last]
        exact ⟨rfl, rfl, rfl⟩
      · rename_i more
        have count := moves.roundsLeft_of_more more
        rw [List.length_cons] at enough
        have learns : (afterMetadata device responder source moved state).phase =
            .learnComponents pull passed := learning
        obtain ⟨outcome, codes, phase⟩ :=
          ih learns owner (moves.next more) ((steady state).trans provides) fits
            (by show Transfer.roundsLeft _ responder.metadataPortion _ ≤ _; omega)
        refine ⟨outcome, ?_, phase⟩
        rw [count, List.replicate_succ]
        exact congrArg _ codes

end Pull

/-- A device that has been made for messages of any size has room for some metadata in each. -/
theorem metadataPortion_pos {responder : Responder} (room : responder.HasRoom)
    (least : responseHeaderSize + baselineTransfer ≤ responder.maxMessage) :
    0 < responder.metadataPortion := by
  have some := room.1
  have header : responseHeaderSize + PartResponse.headerSize <
      responseHeaderSize + baselineTransfer := by decide
  unfold metadataPortion
  omega

end Responder

/-- The most bytes of metadata that fit the buffer of a message. -/
def metadataRoom : Nat := maxMessageSize - PartResponse.headerSize

/-- What an agent that owns an update gets when it pulls the metadata of a device, in whatever
state earlier messages have left the device. If an earlier pull has not ended, it is told so. If
the portions fit the buffer of a message, every request is answered with success and the agent
has the metadata in the end. If they do not, the first request is answered with an error although
the transfer has moved; that takes a device that is made for more than a message with its
header. -/
theorem metadata_pulled_unless_portion_overflows {σ : Type} (device : Device σ)
    (steady : ∀ state, device.metadata (device.now state).2 = device.metadata state)
    (size : Nat) (start : σ) (inputs : List ResponderInput) {history : ResponderHistory σ}
    (reached : history = ResponderHistory.run device
      { responder := .withMaxMessage size, state := start } inputs)
    {pull : Option PackagePull} {passed : Bool} {agent : EndpointId} {source : List UInt8}
    (learning : history.responder.phase = .learnComponents pull passed)
    (owner : history.responder.owner = some agent)
    (provides : device.metadata history.state = source) (some : source ≠ [])
    (small : source.length < 2 ^ 32) {requester : Transfer}
    (total : requester.totalSize = source.length) (fresh : requester.inProgress = false)
    (output : List UInt8) {iids : List UInt8} (enough : source.length ≤ iids.length) :
    let portion := min history.responder.maxTransfer
      (max size (responseHeaderSize + baselineTransfer) - responseHeaderSize -
        PartResponse.headerSize)
    let pulled := Responder.pullMetadata device agent iids requester output history.responder
      history.state
    (history.responder.metadata.inProgress = true →
      pulled = ⟨[UpdateCode.invalidTransferOperationFlag],
        Option.some (.error (.refused .getDeviceMetaData UpdateCode.invalidTransferOperationFlag)),
        history.responder, history.state⟩) ∧
    (history.responder.metadata.inProgress = false → min portion source.length ≤ metadataRoom →
      pulled.outcome = Option.some (.ok source) ∧
        pulled.codes = List.replicate (source.length ⌈/⌉ portion) BaseCode.success ∧
        pulled.responder.phase = history.responder.phase) ∧
    (history.responder.metadata.inProgress = false → metadataRoom < min portion source.length →
      responseHeaderSize + maxMessageSize < size ∧ pulled.codes = [BaseCode.error] ∧
        pulled.outcome =
          Option.some (.error (.refused .getDeviceMetaData BaseCode.error)) ∧
        pulled.responder.metadata.handle.toNat = min portion source.length) := by
  have message : history.responder.maxMessage =
      max size (responseHeaderSize + baselineTransfer) := by
    rw [reached, ResponderHistory.run_maxMessage]
    rfl
  have room : history.responder.HasRoom := by
    rw [reached]
    exact ResponderHistory.run_hasRoom device (Responder.withMaxMessage_hasRoom size) inputs
  have positive := Responder.metadataPortion_pos room (message ▸ Nat.le_max_right ..)
  have portion_eq : history.responder.metadataPortion = min history.responder.maxTransfer
      (max size (responseHeaderSize + baselineTransfer) - responseHeaderSize -
        PartResponse.headerSize) := by
    rw [Responder.metadataPortion, message]
  rw [← portion_eq]
  have moves (idle : history.responder.metadata.inProgress = false) :
      Transfer.Moved source requester history.responder.metadata output 0 :=
    .of_idle total some fresh idle
  have header : PartResponse.headerSize ≤ maxMessageSize := by decide
  have whole : max history.responder.metadataPortion 1 = history.responder.metadataPortion :=
    Nat.max_eq_left positive
  obtain ⟨iid, later, rfl⟩ : ∃ iid later, iids = iid :: later := by
    refine List.exists_cons_of_length_pos ?_
    have := List.length_pos_iff.mpr some
    omega
  refine ⟨fun underWay => ?_, fun idle fits => ?_, fun idle overflows => ?_⟩
  · exact Responder.pullMetadata_underWay learning owner (provides ▸ some) underWay fresh iid later
  · have rounds := Transfer.roundsLeft_le source.length history.responder.metadataPortion
    have completes := Responder.pullMetadata_completes learning owner (moves idle) small steady
      provides (by rw [whole]; unfold metadataRoom at fits; omega)
      (Nat.le_trans rounds enough)
    rwa [Transfer.roundsLeft, whole, Nat.sub_zero] at completes
  · have first : Transfer.reached source history.responder.metadataPortion 0 =
        min history.responder.metadataPortion source.length := by
      rw [Transfer.reached, whole]
      omega
    have length : (Transfer.nextPart source history.responder.metadataPortion 0).portion.length =
        min history.responder.metadataPortion source.length := by
      rw [Transfer.nextPart, first, List.length_take, List.length_drop]
      omega
    unfold metadataRoom at overflows
    rw [Responder.pullMetadata_overflow learning (moves idle) small provides owner (by omega)]
    refine ⟨?_, rfl, rfl, ?_⟩
    · -- The baseline portion always fits, so the room was asked for by `size`.
      have least : responseHeaderSize + baselineTransfer < responseHeaderSize + maxMessageSize := by
        decide
      omega
    · show (UInt32.ofNat (Transfer.reached source history.responder.metadataPortion 0)).toNat = _
      rw [first]
      exact UInt32.toNat_ofNat_of_lt' (Nat.lt_of_le_of_lt (Nat.min_le_right ..) small)

namespace WideMessages

/-- A device with so many bytes of metadata. -/
def device (count : Nat) : Device Unit where
  identifiers state := ({}, state)
  components _ := []
  activeVersion _ := .raw []
  metadata _ := List.replicate count 0x5a
  updateComponent _ _ state := (0, state)
  firmwareData _ _ _ state := (.success, state)
  verify _ state := (.success, state)
  apply _ state := (.ok .empty, state)
  now state := (7, state)

/-- Begins an update in which the device may move as many bytes at once as the number with these
digits says. -/
def begins (low high : UInt8) : ResponderInput :=
  .request ⟨8⟩ [0x81, 5, 0x10, low, high, 0, 0, 1, 0, 1, 0, 0, 0, 0]

/-- A device with 4092 bytes of metadata that is made for messages of 4101 bytes, after an update
has begun in which it may move 4092 bytes at once. -/
def wide : ResponderHistory Unit :=
  ResponderHistory.run (device 4092) { responder := .withMaxMessage 4101, state := () }
    [begins 0xfc 0x0f]

/-- A device with 100 bytes that is made for messages of 41 bytes. -/
def narrow : ResponderHistory Unit :=
  ResponderHistory.run (device 100) { responder := .withMaxMessage 41, state := () } [begins 32 0]

/-- A transfer of metadata that has not begun. -/
def fresh (count : Nat) : Transfer := { kind := .deviceMetaData, totalSize := count }

end WideMessages

open WideMessages in
/-- Portions of 32 bytes fit, and four of them bring 100 bytes. -/
theorem narrow_metadata_pulled :
    (Responder.pullMetadata (device 100) ⟨8⟩ (List.replicate 100 0) (fresh 100) []
        narrow.responder narrow.state).outcome = some (.ok (List.replicate 100 0x5a)) ∧
      (Responder.pullMetadata (device 100) ⟨8⟩ (List.replicate 100 0) (fresh 100) []
        narrow.responder narrow.state).codes = List.replicate 4 BaseCode.success := by
  have learning : narrow.responder.phase = .learnComponents none false := rfl
  have owner : narrow.responder.owner = some ⟨8⟩ := rfl
  have provides : (device 100).metadata narrow.state = List.replicate 100 0x5a := rfl
  have total : (fresh 100).totalSize = (List.replicate 100 (0x5a : UInt8)).length := rfl
  have enough : (List.replicate 100 (0x5a : UInt8)).length ≤
      (List.replicate 100 (0 : UInt8)).length := by decide
  obtain ⟨-, pulled, -⟩ := metadata_pulled_unless_portion_overflows (device 100) (fun _ => rfl) 41
    () [begins 32 0] rfl learning owner provides (by decide) (by decide) total rfl [] enough
  obtain ⟨outcome, codes, -⟩ := pulled rfl (by decide)
  exact ⟨outcome, codes⟩

open WideMessages in
/-- A portion of 4092 bytes does not fit, and the agent gets an error and no metadata. -/
theorem wide_metadata_refused :
    wide.responder.state = .learnComponents ∧ wide.responder.owner = some ⟨8⟩ ∧
      wide.responder.metadata.inProgress = false ∧
      (device 4092).metadata wide.state = List.replicate 4092 0x5a ∧
      ∀ iid iids output,
        (Responder.pullMetadata (device 4092) ⟨8⟩ (iid :: iids) (fresh 4092) output
            wide.responder wide.state).codes = [BaseCode.error] ∧
          (Responder.pullMetadata (device 4092) ⟨8⟩ (iid :: iids) (fresh 4092) output
            wide.responder wide.state).outcome =
              some (.error (.refused .getDeviceMetaData BaseCode.error)) := by
  -- the kernel counts the metadata; the elaborator would run out of depth
  have learning : wide.responder.phase = .learnComponents none false := by decide +kernel
  have owner : wide.responder.owner = some ⟨8⟩ := by decide +kernel
  have idle : wide.responder.metadata.inProgress = false := by decide +kernel
  have portion : wide.responder.metadataPortion = 4092 := by decide +kernel
  have some : List.replicate 4092 (0x5a : UInt8) ≠ [] := List.cons_ne_nil _ _
  refine ⟨congrArg DevicePhase.state learning, owner, idle, rfl, fun iid iids output => ?_⟩
  rw [Responder.pullMetadata_overflow learning
    (.of_idle (List.length_replicate (a := (0x5a : UInt8))).symm some rfl idle)
    (by rw [List.length_replicate]; decide) rfl owner]
  · exact ⟨rfl, rfl⟩
  · rw [portion, Transfer.nextPart, Transfer.reached, List.length_take, List.length_drop,
      List.length_replicate]
    decide

end FirmwareUpdate
