import FirmwareUpdate.Agent.Session
import FirmwareUpdate.Proofs.Command.RoundTrip
import FirmwareUpdate.Proofs.Message.Envelope
import FirmwareUpdate.Proofs.Transfer.Round

/-!
# What a message does to a session

A session takes two kinds of messages: the response to the request it has issued last, and
requests of the device. `Applies` and `Serves` list everything that the one and the other can
do to it, each with what has to hold for it, so that whatever a session keeps is read off them.
-/

namespace FirmwareUpdate

open Wire

namespace Session

/-- The message is the response to the request that awaits one. -/
def Answers (session : Session) (command : AgentCommand) (message : List UInt8)
    (response : Response) : Prop :=
  Response.parse message = .ok response ∧ ∃ pending, session.pending = some pending ∧
    pending.command = command ∧ PendingRequest.isAnsweredBy pending response = true

/-- What the body of a successful response can do to a session. -/
inductive Applies (session : Session) (body : List UInt8) : AgentCommand → Session → Prop where
  /-- The body is not understood, or comes when there is nothing it could be about. -/
  | ignored (command : AgentCommand) : Applies session body command session
  | identifiers (identifiers : DeviceIdentifiers) :
      Applies session body .queryDeviceIdentifiers
        { session with deviceIdentifiers := some identifiers }
  | parameters (parameters : FirmwareParameters) :
      Applies session body .getFirmwareParameters { session with parameters := some parameters }
  | status (status : DeviceStatus) :
      Applies session body .getStatus { session with status := some status }
  | begun {response : UpdateResponse}
      (read : decode "RequestUpdate" UpdateResponse.reader body = .ok response)
      (within : response.metadataSize.toNat ≤ session.settings.maxMetadataSize) :
      Applies session body .requestUpdate
        { session with
          state := .learnComponents
          metadataBytes := []
          metadata := { kind := .deviceMetaData, totalSize := response.metadataSize.toNat }
          metadataDone := response.metadataSize.toNat = 0
          devicePulls := response.pullsPackageData != 0
          package := session.package.reset
          packageDone :=
            !(response.pullsPackageData != 0) || session.plan.packageData.isEmpty }
  | tooMuchMetadata {response : UpdateResponse}
      (read : decode "RequestUpdate" UpdateResponse.reader body = .ok response)
      (beyond : session.settings.maxMetadataSize < response.metadataSize.toNat) :
      Applies session body .requestUpdate { session with state := .aborted }
  | metadata {response : PartResponse} {metadata : Transfer} {metadataBytes : List UInt8}
      (read : decode "GetDeviceMetaData" PartResponse.reader body = .ok response)
      (accepted : session.metadata.accept response session.metadataBytes =
        .ok (metadata, metadataBytes)) :
      Applies session body .getDeviceMetaData
        { session with
          metadata
          metadataBytes
          metadataDone := session.metadataDone || !metadata.inProgress }
  | badMetadata (lastCode : CompletionCode) :
      Applies session body .getDeviceMetaData { session with lastCode }
  | announced (response : TableResponse) :
      Applies session body .passComponentTable (session.recordPassed response)
  | componentBegun {response : ComponentResponse} {index : Nat}
      (read : decode "UpdateComponent" ComponentResponse.reader body = .ok response)
      (next : session.nextComponent? = some index) (accepted : response.response = 0) :
      Applies session body .updateComponent
        { session with
          nextUpdate := index + 1
          current := some index
          componentFailed := false
          state := .download }
  | componentLeftOut {index : Nat} (next : session.nextComponent? = some index) :
      Applies session body .updateComponent
        { session with
          nextUpdate := index + 1
          outcomes := session.outcomes.set index .skipped }
  | activated :
      Applies session body .activateFirmware
        { session with state := .idle, activated := true, finished := true }
  | componentCancelled :
      Applies session body .cancelUpdateComponent
        { session.endComponent .failed with componentFailed := false }
  | cancelled :
      Applies session body .cancelUpdate { session.clear with finished := true }

variable (session : Session)

/-- The answer to RequestUpdate takes effect in one of its ways. -/
theorem beginUpdate_applies {body : List UInt8} {response : UpdateResponse}
    (read : decode "RequestUpdate" UpdateResponse.reader body = .ok response) :
    session.Applies body .requestUpdate (session.beginUpdate response).2 := by
  unfold beginUpdate
  dsimp only
  split
  · rename_i beyond
    exact .tooMuchMetadata read beyond
  · rename_i within
    exact .begun read (Nat.not_lt.mp within)

/-- The answer to GetDeviceMetaData takes effect in one of its ways. -/
theorem acceptMetadata_applies {body : List UInt8} {response : PartResponse}
    (read : decode "GetDeviceMetaData" PartResponse.reader body = .ok response) :
    session.Applies body .getDeviceMetaData (session.acceptMetadata response).2 := by
  unfold acceptMetadata
  split
  · exact .badMetadata _
  · exact .metadata read ‹_›

/-- The answer to UpdateComponent takes effect in one of its ways. -/
theorem beginComponent_applies {body : List UInt8} {response : ComponentResponse}
    (read : decode "UpdateComponent" ComponentResponse.reader body = .ok response) :
    session.Applies body .updateComponent (session.beginComponent response).2 := by
  unfold beginComponent
  split
  · exact .ignored _
  · rename_i index next
    split
    · rename_i accepted
      exact .componentBegun read next accepted
    · exact .componentLeftOut next

/-- Whatever the command is, its answer takes effect in one of its ways. -/
theorem apply_applies (command : AgentCommand) (body : List UInt8) :
    session.Applies body command (session.apply command body).2 := by
  cases command <;> unfold apply <;> dsimp only <;> (try split)
  all_goals first
    | exact .ignored _
    | exact .identifiers _
    | exact .parameters _
    | exact .status _
    | exact beginUpdate_applies session ‹_›
    | exact acceptMetadata_applies session ‹_›
    | exact .announced _
    | exact beginComponent_applies session ‹_›
    | exact .activated
    | exact .componentCancelled
    | exact .cancelled

/-- A successful response has the effect of its body, and leaves a code. -/
theorem processMatching_of_success (command : AgentCommand) {response : Response}
    (success : response.cc.isSuccess = true) :
    ∃ code, (session.processMatching command response).2 =
      { ({ session with pending := none, lastCode := response.cc }.apply command
          response.data).2 with
        lastCode := code } := by
  unfold processMatching
  dsimp only
  rw [if_pos success]
  split <;> rename_i applied <;> rw [applied] <;> exact ⟨_, rfl⟩

variable {session}

/-- A message is refused, or it is the response to the request that awaits one. -/
theorem process_cases (session : Session) (message : List UInt8) :
    (∃ error, session.process message = (.error error, session)) ∨
      ∃ command response, session.Answers command message response ∧
        session.process message = session.processMatching command response := by
  unfold process
  split
  · exact .inl ⟨_, rfl⟩
  · rename_i response parsed
    split
    · exact .inl ⟨_, rfl⟩
    · rename_i pending awaited
      split
      · rename_i matching
        exact .inr ⟨pending.command, response, ⟨parsed, pending, awaited, rfl, matching⟩, rfl⟩
      · exact .inl ⟨_, rfl⟩

/-- The response to the request that awaits one is taken. -/
theorem Answers.process_eq {command : AgentCommand} {message : List UInt8} {response : Response}
    (answers : session.Answers command message response) :
    session.process message = session.processMatching command response := by
  obtain ⟨parsed, pending, awaits, rfl, matching⟩ := answers
  unfold process
  rw [parsed]
  dsimp only
  rw [awaits]
  dsimp only
  rw [if_pos matching]

/-- The session when it has the code of a response, before it takes the body. -/
def coded (session : Session) (cc : CompletionCode) : Session :=
  { session with pending := none, lastCode := cc }

/-- A failure changes nothing but what is kept about the command, unless it says that the
device cannot be updated. -/
theorem processMatching_of_failure (session : Session) {command : AgentCommand}
    {response : Response} (failed : response.cc.isSuccess = false)
    (mild : ¬ (command = .requestUpdate ∧ response.cc = UpdateCode.unableToInitiateUpdate)) :
    session.processMatching command response = (.ok response.cc, session.coded response.cc) := by
  unfold processMatching processFailure
  dsimp only
  rw [if_neg (by simp [failed]), if_neg mild]
  rfl

/-- A device that cannot be updated ends the update. -/
theorem processMatching_of_unable (session : Session) {response : Response}
    (unable : response.cc = UpdateCode.unableToInitiateUpdate) :
    session.processMatching .requestUpdate response =
      (.error (.aborted response.cc), { session.coded response.cc with state := .aborted }) := by
  unfold processMatching processFailure
  dsimp only
  rw [unable, if_neg (by decide), if_pos ⟨rfl, rfl⟩]
  rfl

/-- A response succeeds and has the effect of its body, or it says that the device cannot be
updated, or it fails without effect. -/
theorem processMatching_cases (session : Session) (command : AgentCommand) (response : Response) :
    (response.cc.isSuccess = true ∧ ∃ code after,
        (session.coded response.cc).Applies response.data command after ∧
          (session.processMatching command response).2 = { after with lastCode := code }) ∨
      (command = .requestUpdate ∧ response.cc = UpdateCode.unableToInitiateUpdate ∧
        (session.processMatching command response).2 =
          { session.coded response.cc with state := .aborted }) ∨
      (session.processMatching command response).2 = session.coded response.cc := by
  by_cases success : response.cc.isSuccess = true
  · obtain ⟨code, after⟩ := session.processMatching_of_success command success
    exact .inl ⟨success, code, _, apply_applies .., after⟩
  · by_cases unable : command = .requestUpdate ∧ response.cc = UpdateCode.unableToInitiateUpdate
    · obtain ⟨rfl, code⟩ := unable
      exact .inr (.inl ⟨rfl, code, by rw [processMatching_of_unable session code]⟩)
    · refine .inr (.inr ?_)
      rw [processMatching_of_failure session (Bool.eq_false_iff.mpr success) unable]

/-- What a message that should be a response can do to a session. -/
inductive Takes (session : Session) (message : List UInt8) : Session → Prop where
  /-- The message is refused. -/
  | refused : Takes session message session
  /-- The response succeeds and has the effect of its body. -/
  | applied {command : AgentCommand} {response : Response} {after : Session}
      (answers : session.Answers command message response)
      (success : response.cc.isSuccess = true)
      (applies : (session.coded response.cc).Applies response.data command after)
      (code : CompletionCode) : Takes session message { after with lastCode := code }
  /-- The device cannot be updated. -/
  | unable {response : Response} (answers : session.Answers .requestUpdate message response)
      (code : response.cc = UpdateCode.unableToInitiateUpdate) :
      Takes session message { session.coded response.cc with state := .aborted }
  /-- The response fails without effect. -/
  | failed {command : AgentCommand} {response : Response}
      (answers : session.Answers command message response) :
      Takes session message (session.coded response.cc)

/-- Whatever the message is, it is taken in one of the ways of a reply. -/
theorem process_takes (session : Session) (message : List UInt8) :
    session.Takes message (session.process message).2 := by
  rcases session.process_cases message with ⟨error, refused⟩ | ⟨command, response, answers, taken⟩
  · rw [refused]
    exact .refused
  · rw [taken]
    obtain ⟨success, code, after, applies, result⟩ | ⟨rfl, code, result⟩ | result :=
      session.processMatching_cases command response
    · rw [result]
      exact .applied answers success applies code
    · rw [result]
      exact .unable answers code
    · rw [result]
      exact .failed answers

/-- What a session keeps through everything that a response can do to it. -/
theorem of_process (keeps : Session → Prop) (message : List UInt8) (aside : keeps session)
    (applied : ∀ {cc command body after code}, (session.coded cc).Applies body command after →
      keeps { after with lastCode := code })
    (unable : ∀ cc, keeps { session.coded cc with state := .aborted })
    (failed : ∀ cc, keeps (session.coded cc)) : keeps (session.process message).2 := by
  have takes := session.process_takes message
  generalize (session.process message).2 = after at takes
  cases takes with
  | refused => exact aside
  | applied _ _ applies => exact applied applies
  | unable => exact unable _
  | failed => exact failed _

/-- What a request of the device can do to a session, and what it is answered. -/
inductive Serves (session : Session) (request : Request) :
    Except CompletionCode (List UInt8) → Session → Prop where
  | refused (cc : CompletionCode) : Serves session request (.error cc) session
  /-- No portion of the package data can be served, and the transfer may be over. -/
  | noPart (asked : request.IsFor .getPackageData) (cc : CompletionCode) (package : Transfer) :
      Serves session request (.error cc) { session with package }
  | part (asked : request.IsFor .getPackageData) {body : List UInt8}
      (short : responseHeaderSize + body.length ≤ maxMessageSize) (package : Transfer)
      (packageDone : Bool) :
      Serves session request (.ok body) { session with package, packageDone }
  | data (asked : request.IsFor .requestFirmwareData) {body : List UInt8}
      (short : body.length ≤ session.settings.maxTransferSize.toNat) :
      Serves session request (.ok body) session
  | failed (updating : session.state.isUpdating = true) :
      Serves session request (.ok []) { session with componentFailed := true }
  | transferred (asked : request.IsFor .transferComplete) (expected : session.state = .download)
      {report : ResultReport}
      (read : decode "TransferComplete" ResultReport.reader request.data = .ok report)
      (success : report.result = Coded.code TransferResult.success) :
      Serves session request (.ok []) { session with state := .verify }
  | verified (asked : request.IsFor .verifyComplete) (expected : session.state = .verify)
      {report : ResultReport}
      (read : decode "VerifyComplete" ResultReport.reader request.data = .ok report)
      (success : report.result = Coded.code VerifyResult.success) :
      Serves session request (.ok []) { session with state := .apply }
  | applied (asked : request.IsFor .applyComplete) (expected : session.state = .apply)
      {report : ApplyReport}
      (read : decode "ApplyComplete" ApplyReport.reader request.data = .ok report)
      (success : (ofCode? report.result : Option ApplyResult).any ApplyResult.isSuccess = true) :
      Serves session request (.ok []) (session.endComponent .updated)

/-- The portions of a session fit a message. -/
theorem servePackageData_serves (session : Session) {request : Request}
    (asked : request.IsFor .getPackageData) :
    session.Serves request (session.servePackageData request.data).1
      (session.servePackageData request.data).2 := by
  unfold servePackageData
  dsimp only
  split
  · exact .refused _
  · split
    · exact .noPart asked ..
    · rename_i part package served
      have short := Transfer.length_portion_of_serve served
      obtain ⟨body, written, -⟩ := part.message
        (by unfold maxMessageSize responseHeaderSize PartResponse.headerSize at *; omega) ""
      have length := PartResponse.length_of_written written
      rw [written]
      exact .part asked
        (by unfold maxMessageSize responseHeaderSize PartResponse.headerSize at *; omega) ..

/-- No piece of an image is longer than the settings say. -/
theorem length_of_serveFirmwareData {body piece : List UInt8}
    (served : session.serveFirmwareData body = .ok piece) :
    piece.length ≤ session.settings.maxTransferSize.toNat := by
  unfold serveFirmwareData at served
  split at served
  · cases served
  · split at served
    · cases served
    · dsimp only at served
      split at served
      · cases served
      · split at served
        · cases served
        · cases served
          rw [List.length_take]
          omega

/-- A command that is expected is served according to where the update is. -/
theorem serveCommand_serves (session : Session) {request : Request} {command : Command}
    (asked : request.IsFor command) (expected : session.expects? command = some true) :
    session.Serves request (session.serveCommand command request.data).1
      (session.serveCommand command request.data).2 := by
  cases command with
  | getPackageData => exact servePackageData_serves session asked
  | requestFirmwareData =>
      unfold serveCommand
      dsimp only
      cases served : session.serveFirmwareData request.data with
      | error cc => exact .refused cc
      | ok body => exact .data asked (length_of_serveFirmwareData served)
  | transferComplete =>
      have state : session.state = .download := by simp_all [expects?]
      unfold serveCommand takeReport
      dsimp only
      split
      · exact .refused _
      · rename_i report read
        split
        · rename_i success
          exact .transferred asked state read (eq_of_beq success)
        · exact .failed (by rw [state]; rfl)
  | verifyComplete =>
      have state : session.state = .verify := by simp_all [expects?]
      unfold serveCommand takeReport
      dsimp only
      split
      · exact .refused _
      · rename_i report read
        split
        · rename_i success
          exact .verified asked state read (eq_of_beq success)
        · exact .failed (by rw [state]; rfl)
  | applyComplete =>
      have state : session.state = .apply := by simp_all [expects?]
      unfold serveCommand takeApplyReport
      dsimp only
      split
      · exact .refused _
      · rename_i report read
        split
        · rename_i success
          exact .applied asked state read success
        · exact .failed (by rw [state]; rfl)
  | _ => cases expected

/-- A request of the device has one of the effects that requests can have. -/
theorem serve_serves (session : Session) (request : Request) :
    session.Serves request (session.serve request).1 (session.serve request).2 := by
  unfold serve
  split
  · exact .refused _
  · rename_i ours
    split
    · exact .refused _
    · rename_i command known
      have asked : request.IsFor command :=
        ⟨Decidable.not_not.mp ours, (ofCode?_eq_some_iff.mp known).symm⟩
      split
      · exact .refused _
      · exact .refused _
      · rename_i expected
        exact serveCommand_serves session asked expected

/-- The response that carries what a request of the device comes to. -/
def responseOf (request : Request) : Except CompletionCode (List UInt8) → Response
  | .ok body => request.respond BaseCode.success body
  | .error cc => request.respond cc []

/-- A request that is read is answered. -/
theorem handleRequest_of_parse (session : Session) {message : List UInt8} {request : Request}
    (parsed : Request.parse message = .ok request) :
    session.handleRequest message =
      (.ok (responseOf request (session.serve request).1).toBytes,
        { (session.serve request).2 with
          lastCode := (responseOf request (session.serve request).1).cc }) := by
  unfold handleRequest
  rw [parsed]
  rfl

/-- What a session keeps through everything that a request can do to it. -/
theorem of_handleRequest (keeps : Session → Prop) (message : List UInt8) (aside : keeps session)
    (served : ∀ {request result after code}, session.Serves request result after →
      keeps { after with lastCode := code }) : keeps (session.handleRequest message).2 := by
  cases parsed : Request.parse message with
  | error error =>
      rw [handleRequest, parsed]
      exact aside
  | ok request =>
      rw [handleRequest_of_parse session parsed]
      exact served (serve_serves session request)

end Session

end FirmwareUpdate
