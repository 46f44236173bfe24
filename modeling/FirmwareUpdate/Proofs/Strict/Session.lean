import FirmwareUpdate.Proofs.Agent.Bookkeeping
import FirmwareUpdate.Proofs.Strict.Basic

/-!
# Sessions stay within their lists

A strict session takes the outcome of a component, the component itself, a piece of an image
and a portion of the package data only where these exist. As long as the bookkeeping is
consistent it does the same as the session, and the bookkeeping stays consistent.
-/

namespace FirmwareUpdate

open Wire

namespace Session

/-! ## Strict sessions -/

/-- The first accepted component that has not had its turn. -/
def nextComponentStrictly (session : Session) : Option (Option Nat) :=
  (List.range' session.nextUpdate (session.outcomes.length - session.nextUpdate)).findM?
    fun index => do
      let outcome ← session.outcomes[index]?
      pure (outcome == .accepted)

/-- The body of the request that a command makes. -/
def requestBodyStrictly (session : Session) (command : AgentCommand) :
    Option (Except UpdateError (List UInt8)) :=
  match command with
  | .updateComponent => do
    match ← session.nextComponentStrictly with
    | none => pure (.error (.invalidArgument .noComponentLeft))
    | some index =>
      let component ← session.plan.components[index]?
      pure (component.record.updateLayout.toMessage.mapError .codec)
  | command => pure (session.requestBody command)

/-- Writes the request of a command. -/
def issueStrictly (session : Session) (command : AgentCommand) :
    Option (Except UpdateError (List UInt8) × Session) :=
  if allows session.state command then do
    match ← session.requestBodyStrictly command with
    | .error error => pure (.error error, session)
    | .ok data =>
      let request : Request :=
        { iid := session.nextIid, typ := firmwareUpdateType, cmd := command.code, data }
      pure (.ok request.toBytes,
        { session with
          nextIid := nextInstance session.nextIid
          pending := some { iid := session.nextIid, command } })
  else
    pure (.error (.invalidState session.state),
      { session with
        lastCode :=
          if session.state = .idle then UpdateCode.notInUpdateMode
          else UpdateCode.invalidStateForCommand })

/-- The device answers the announcement of a component. -/
def recordPassedStrictly (session : Session) (response : TableResponse) : Option Session := do
  let passed := session.passed + 1
  let outcomes ← Strict.replace session.outcomes session.passed
    (if response.response = 0 then .accepted else .skipped)
  pure { session with
    outcomes
    passed
    state := if passed = session.plan.components.length then .readyXfer else session.state }

/-- The device answers the request to update the next component. -/
def beginComponentStrictly (session : Session) (response : ComponentResponse) :
    Option (Except UpdateError Unit × Session) := do
  match ← session.nextComponentStrictly with
  | none => pure (.error (.invalidState session.state), session)
  | some index =>
    if response.response = 0 then
      -- the component is named in a report
      let _ ← session.plan.components[index]?
      pure (.ok (),
        { session with
          nextUpdate := index + 1
          current := some index
          componentFailed := false
          state := .download })
    else
      let outcomes ← Strict.replace session.outcomes index .skipped
      pure (.ok (), { session with nextUpdate := index + 1, outcomes })

/-- The component that was being updated ends in a given way. -/
def endComponentStrictly (session : Session) (outcome : ComponentOutcome) : Option Session := do
  let outcomes ← match session.current with
    | some index =>
      -- the component is named in a report
      let _ ← session.plan.components[index]?
      Strict.replace session.outcomes index outcome
    | none => pure session.outcomes
  pure { session with outcomes, current := none, state := .readyXfer }

/-- Takes the body of a successful response. -/
def applyStrictly (session : Session) (command : AgentCommand) (body : List UInt8) :
    Option (Except UpdateError Unit × Session) :=
  match command with
  | .passComponentTable =>
    match decode "PassComponentTable" TableResponse.reader body with
    | .error error => pure (.error (.codec error), session)
    | .ok response => do
      let session ← session.recordPassedStrictly response
      pure (.ok (), session)
  | .updateComponent =>
    match decode "UpdateComponent" ComponentResponse.reader body with
    | .error error => pure (.error (.codec error), session)
    | .ok response => session.beginComponentStrictly response
  | .cancelUpdateComponent => do
    let session ← session.endComponentStrictly .failed
    pure (.ok (), { session with componentFailed := false })
  | command => pure (session.apply command body)

/-- Takes the response to the request that awaits one. -/
def processMatchingStrictly (session : Session) (command : AgentCommand) (response : Response) :
    Option (Except UpdateError CompletionCode × Session) :=
  let session := { session with pending := none, lastCode := response.cc }
  if response.cc.isSuccess then do
    match ← session.applyStrictly command response.data with
    | (.ok (), session) => pure (.ok response.cc, session)
    | (.error (.codec error), session) =>
      pure (.error (.codec error), { session with lastCode := CompletionCode.ofCodecError error })
    | (.error error, session) => pure (.error error, session)
  else pure (session.processFailure command response.cc)

/-- Takes a message that should be the response to the request issued last. -/
def processStrictly (session : Session) (message : List UInt8) :
    Option (Except UpdateError CompletionCode × Session) :=
  match Response.parse message with
  | .error error => pure (.error (.codec error), session)
  | .ok response =>
    match session.pending with
    | none =>
      pure (.error (.unexpectedResponse (.nothingOutstanding response.cmd response.iid)), session)
    | some pending =>
      if PendingRequest.isAnsweredBy pending response then
        session.processMatchingStrictly pending.command response
      else
        pure (.error (.unexpectedResponse
          (.mismatch response.typ response.cmd response.iid pending.command pending.iid)),
          session)

/-- Serves a portion of the package data. -/
def servePackageDataStrictly (session : Session) (body : List UInt8) :
    Option (Except CompletionCode (List UInt8) × Session) :=
  match decode "GetPackageData" PartRequest.reader body with
  | .error error => pure (.error (.ofCodecError error), session)
  | .ok request => do
    let message ← Strict.difference maxMessageSize responseHeaderSize
    let room ← Strict.difference message PartResponse.headerSize
    match ← session.package.serveStrictly request session.plan.packageData
        (min session.settings.portionSize room) with
    | (.error error, package) =>
      pure (.error error.completionCode,
        { session with
          package := if request.operation? = some .getFirstPart then package.reset else package })
    | (.ok part, package) =>
      let session := { session with
        package
        packageDone := session.packageDone || !package.inProgress }
      pure (part.layout.toMessage.mapError CompletionCode.ofCodecError, session)

/-- Serves a piece of the image that is being transferred. -/
def serveFirmwareDataStrictly (session : Session) (body : List UInt8) :
    Option (Except CompletionCode (List UInt8)) :=
  match decode "RequestFirmwareData" DataRequest.reader body with
  | .error error => pure (.error (.ofCodecError error))
  | .ok request =>
    match session.current with
    | none => pure (.error UpdateCode.commandNotExpected)
    | some index => do
      let component ← session.plan.components[index]?
      let offset := request.offset.toNat
      let length := request.length.toNat
      if length = 0 ∨ session.settings.maxTransferSize.toNat < length then
        pure (.error UpdateCode.invalidTransferLength)
      else if component.image.length < offset + length then
        pure (.error UpdateCode.dataOutOfRange)
      else
        let piece ← Strict.slice component.image offset (offset + length)
        pure (.ok piece)

/-- Takes the report that an image has been applied, or not. -/
def takeApplyReportStrictly (session : Session) (body : List UInt8) :
    Option (Except CompletionCode (List UInt8) × Session) :=
  match decode "ApplyComplete" ApplyReport.reader body with
  | .error error => pure (.error (.ofCodecError error), session)
  | .ok report =>
    if (ofCode? report.result : Option ApplyResult).any ApplyResult.isSuccess then do
      let session ← session.endComponentStrictly .updated
      pure (.ok [], session)
    else pure (.ok [], { session with componentFailed := true })

/-- Serves a command of the device that is expected now. -/
def serveCommandStrictly (session : Session) (command : Command) (body : List UInt8) :
    Option (Except CompletionCode (List UInt8) × Session) :=
  match command with
  | .getPackageData => session.servePackageDataStrictly body
  | .requestFirmwareData => do
    let piece ← session.serveFirmwareDataStrictly body
    pure (piece, session)
  | .applyComplete => session.takeApplyReportStrictly body
  | command => pure (session.serveCommand command body)

/-- Serves a request of the device. -/
def serveStrictly (session : Session) (request : Request) :
    Option (Except CompletionCode (List UInt8) × Session) :=
  if request.typ ≠ firmwareUpdateType then pure (.error BaseCode.invalidType, session)
  else match (ofCode? request.cmd : Option Command) with
    | none => pure (.error BaseCode.unsupportedCommand, session)
    | some command =>
      match session.expects? command with
      | none => pure (.error BaseCode.unsupportedCommand, session)
      | some false =>
        pure (.error (if session.state = .idle then UpdateCode.notInUpdateMode
          else UpdateCode.commandNotExpected), session)
      | some true => session.serveCommandStrictly command request.data

/-- Answers a request of the device. -/
def handleRequestStrictly (session : Session) (message : List UInt8) :
    Option (Except UpdateError (List UInt8) × Session) :=
  match Request.parse message with
  | .error error => pure (.error (.codec error), session)
  | .ok request => do
    let (answer, session) ← session.serveStrictly request
    let response := match answer with
      | .ok body => request.respond BaseCode.success body
      | .error cc => request.respond cc []
    pure (.ok response.toBytes, { session with lastCode := response.cc })

/-! ## They do what sessions do -/

variable {session : Session}

/-- A search that checks each index is the plain one where all of them are in range. -/
private theorem findM?_accepted {entries : List ComponentOutcome} {indices : List Nat}
    (within : ∀ index ∈ indices, index < entries.length) :
    (indices.findM? fun index => do
        let outcome ← entries[index]?
        pure (outcome == .accepted) : Option (Option Nat)) =
      some (indices.find? fun index => entries[index]? = some .accepted) := by
  induction indices with
  | nil => rfl
  | cons index rest ih =>
      obtain ⟨outcome, found⟩ : ∃ outcome, entries[index]? = some outcome :=
        ⟨_, List.getElem?_eq_getElem (within index List.mem_cons_self)⟩
      have following := ih fun other member => within other (List.mem_cons_of_mem _ member)
      simp only [List.findM?, List.find?, found, following]
      cases outcome <;> rfl

/-- Only outcomes that exist are looked at, whatever the bookkeeping says. -/
theorem nextComponentStrictly_eq (session : Session) :
    session.nextComponentStrictly = some session.nextComponent? := by
  refine findM?_accepted fun index member => ?_
  have within := List.mem_range'_1.mp member
  omega

/-- No index is out of range when a request is made up. -/
theorem requestBodyStrictly_eq (consistent : session.Consistent) (command : AgentCommand) :
    session.requestBodyStrictly command = some (session.requestBody command) := by
  cases command with
  | updateComponent =>
      simp only [requestBodyStrictly, requestBody, nextComponentStrictly_eq]
      cases next : session.nextComponent? with
      | none => rfl
      | some index =>
          have accepted := (nextComponent?_eq_some next).2
          have within : index < session.plan.components.length :=
            consistent.outcomes ▸ (List.getElem?_eq_some_iff.mp accepted).1
          simp [List.getElem?_eq_getElem within]
  | _ => rfl

/-- No index is out of range when a command is issued. -/
theorem issueStrictly_eq (consistent : session.Consistent) (command : AgentCommand) :
    session.issueStrictly command = some (session.issue command) := by
  unfold issueStrictly issue
  split
  · rw [requestBodyStrictly_eq consistent]
    cases session.requestBody command <;> rfl
  · rfl

/-- No index is out of range when an entry of the table is recorded. -/
theorem recordPassedStrictly_eq (consistent : session.Consistent)
    (within : session.passed < session.plan.components.length) (response : TableResponse) :
    session.recordPassedStrictly response = some (session.recordPassed response) := by
  unfold recordPassedStrictly
  rw [Strict.replace_of_lt (consistent.outcomes.symm ▸ within)]
  rfl

/-- No index is out of range when a component begins. -/
theorem beginComponentStrictly_eq (consistent : session.Consistent)
    (response : ComponentResponse) :
    session.beginComponentStrictly response = some (session.beginComponent response) := by
  unfold beginComponentStrictly beginComponent
  rw [nextComponentStrictly_eq]
  cases next : session.nextComponent? with
  | none => rfl
  | some index =>
      have within := (List.getElem?_eq_some_iff.mp (nextComponent?_eq_some next).2).1
      have listed := List.getElem?_eq_getElem (consistent.outcomes ▸ within)
      dsimp only [Option.bind_eq_bind, Option.bind_some]
      rw [listed, Strict.replace_of_lt within]
      split <;> rfl

/-- No index is out of range when a component ends. -/
theorem endComponentStrictly_eq (consistent : session.Consistent) (outcome : ComponentOutcome) :
    session.endComponentStrictly outcome = some (session.endComponent outcome) := by
  unfold endComponentStrictly endComponent
  cases current : session.current with
  | none => rfl
  | some index =>
      have within := consistent.current_lt current
      dsimp only
      rw [List.getElem?_eq_getElem within,
        Strict.replace_of_lt (consistent.outcomes.symm ▸ within)]
      rfl

/-- The body of a response is applied to components that exist. -/
theorem applyStrictly_eq (consistent : session.Consistent) (command : AgentCommand)
    (within : command = .passComponentTable → session.passed < session.plan.components.length)
    (body : List UInt8) :
    session.applyStrictly command body = some (session.apply command body) := by
  cases command with
  | passComponentTable =>
      unfold applyStrictly apply
      dsimp only
      cases decode "PassComponentTable" TableResponse.reader body with
      | error error => rfl
      | ok response =>
          dsimp only
          rw [recordPassedStrictly_eq consistent (within rfl)]
          rfl
  | updateComponent =>
      unfold applyStrictly apply
      dsimp only
      cases decode "UpdateComponent" ComponentResponse.reader body with
      | error error => rfl
      | ok response => exact beginComponentStrictly_eq consistent response
  | cancelUpdateComponent =>
      unfold applyStrictly
      dsimp only
      rw [endComponentStrictly_eq consistent]
      rfl
  | _ => rfl

/-- No index is out of range when a reply is processed. -/
theorem processStrictly_eq (consistent : session.Consistent) (message : List UInt8) :
    session.processStrictly message = some (session.process message) := by
  unfold processStrictly process
  cases Response.parse message with
  | error error => rfl
  | ok response =>
      cases awaits : session.pending with
      | none => rfl
      | some pending =>
          dsimp only
          split
          · unfold processMatchingStrictly processMatching
            dsimp only
            split
            · have applied := applyStrictly_eq (consistent.coded response.cc) pending.command
                (fun announces => (consistent.awaited pending awaits announces).2) response.data
              unfold coded at applied
              rw [applied]
              generalize apply _ pending.command response.data = outcome
              obtain ⟨result, after⟩ := outcome
              cases result with
              | ok done => rfl
              | error error => cases error <;> rfl
            · rfl
          · rfl

/-- Package data are cut within their length. -/
theorem servePackageDataStrictly_eq (session : Session) (body : List UInt8) :
    session.servePackageDataStrictly body = some (session.servePackageData body) := by
  unfold servePackageDataStrictly servePackageData
  cases decode "GetPackageData" PartRequest.reader body with
  | error error => rfl
  | ok request =>
      dsimp only
      rw [Strict.difference_of_le (by decide : responseHeaderSize ≤ maxMessageSize)]
      dsimp only [Option.bind_eq_bind, Option.bind_some]
      rw [Strict.difference_of_le
        (by decide : PartResponse.headerSize ≤ maxMessageSize - responseHeaderSize)]
      dsimp only [Option.bind_some]
      rw [Transfer.serveStrictly_eq]
      generalize session.package.serve .. = served
      obtain ⟨result, package⟩ := served
      cases result <;> rfl

/-- A piece that is served lies within its image. -/
theorem serveFirmwareDataStrictly_eq (consistent : session.Consistent) (body : List UInt8) :
    session.serveFirmwareDataStrictly body = some (session.serveFirmwareData body) := by
  unfold serveFirmwareDataStrictly serveFirmwareData
  cases decode "RequestFirmwareData" DataRequest.reader body with
  | error error => rfl
  | ok request =>
      cases current : session.current with
      | none => rfl
      | some index =>
          have listed := List.getElem?_eq_getElem (consistent.current_lt current)
          dsimp only [Option.bind_eq_bind, Option.bind_some]
          rw [listed]
          dsimp only [Option.bind_some]
          split
          · rfl
          · split
            · rfl
            · rename_i inside
              rw [Strict.slice_of_le (Nat.le_add_right ..) (Nat.le_of_not_lt inside),
                Nat.add_sub_cancel_left]
              rfl

/-- No index is out of range when the device reports an image applied. -/
theorem takeApplyReportStrictly_eq (consistent : session.Consistent) (body : List UInt8) :
    session.takeApplyReportStrictly body = some (session.takeApplyReport body) := by
  unfold takeApplyReportStrictly takeApplyReport
  cases decode "ApplyComplete" ApplyReport.reader body with
  | error error => rfl
  | ok report =>
      dsimp only
      split
      · rw [endComponentStrictly_eq consistent]
        rfl
      · rfl

/-- No index is out of range when a request of the device is handled. -/
theorem handleRequestStrictly_eq (consistent : session.Consistent) (message : List UInt8) :
    session.handleRequestStrictly message = some (session.handleRequest message) := by
  have commanded (command : Command) (body : List UInt8) :
      session.serveCommandStrictly command body = some (session.serveCommand command body) := by
    cases command with
    | getPackageData => exact servePackageDataStrictly_eq session body
    | requestFirmwareData =>
        unfold serveCommandStrictly
        dsimp only
        rw [serveFirmwareDataStrictly_eq consistent]
        rfl
    | applyComplete => exact takeApplyReportStrictly_eq consistent body
    | _ => rfl
  have served (request : Request) :
      session.serveStrictly request = some (session.serve request) := by
    unfold serveStrictly serve
    split
    · rfl
    · cases (ofCode? request.cmd : Option Command) with
      | none => rfl
      | some command =>
          dsimp only
          cases session.expects? command with
          | none => rfl
          | some expected =>
              cases expected with
              | false => rfl
              | true => exact commanded command request.data
  unfold handleRequestStrictly handleRequest
  cases Request.parse message with
  | error error => rfl
  | ok request =>
      dsimp only
      rw [served]
      rfl

end Session

/-- Whatever has been issued, processed, served, loaded and reset, a session looks only at
outcomes, components and pieces of images that exist, and its bookkeeping fits its plan: there is
one outcome for each component, a current component exactly while one is being updated, and all
components have been announced before the first is updated. -/
theorem session_stays_within_its_plan {settings : AgentSettings} {plan : UpdatePlan}
    {first : Session} (started : Session.start settings plan = .ok first)
    (inputs : List SessionInput) :
    let session := first.run inputs
    let updating := session.state = .download ∨ session.state = .verify ∨ session.state = .apply
    (∀ command, session.issueStrictly command = some (session.issue command)) ∧
    (∀ message, session.processStrictly message = some (session.process message)) ∧
    (∀ message, session.handleRequestStrictly message = some (session.handleRequest message)) ∧
    session.outcomes.length = session.plan.components.length ∧
    ((∃ index, session.current = some index) ↔ updating) ∧
    (∀ index, session.current = some index →
      index < session.plan.components.length ∧ session.outcomes[index]? = some .accepted ∧
        session.nextUpdate = index + 1) ∧
    (session.componentFailed = true → updating) ∧
    session.passed ≤ session.plan.components.length ∧
    session.nextUpdate ≤ session.plan.components.length ∧
    (session.state = .readyXfer ∨ updating →
      session.passed = session.plan.components.length ∧ .notPassed ∉ session.outcomes) := by
  obtain ⟨consistent, placed⟩ := Session.consistent_of_start started
  have consistent := consistent.run placed inputs
  have states := @AgentState.isUpdating_iff (first.run inputs).state
  refine ⟨Session.issueStrictly_eq consistent, Session.processStrictly_eq consistent,
    Session.handleRequestStrictly_eq consistent, consistent.outcomes, ?_, ?_, ?_,
    consistent.passed, consistent.nextUpdate, ?_⟩
  · rw [← states, ← consistent.updating, Option.isSome_iff_exists]
  · exact fun index current => ⟨consistent.current_lt current, consistent.current index current⟩
  · exact fun failed => states.mp (consistent.failed failed)
  · rw [← states]
    exact fun learned => ⟨consistent.complete learned, consistent.notPassed_notMem learned⟩

namespace TakenUp

/-- The device enters the update, takes the only component, and lets its update begin. -/
def inputs : List SessionInput :=
  [.issue .requestUpdate, .process AskedUpdate.accepts, .issue .passComponentTable,
    .process [0x01, 0x05, 0x13, 0x00, 0x00, 0x00], .issue .updateComponent,
    .process [0x02, 0x05, 0x14, 0x00, 0x00, 0x00, 0x00, 0x00, 0x00, 0x00, 0x00, 0x00]]

/-- The session whose only component is being updated. -/
def session : Session := AskedUpdate.first.run inputs

/-- The device asks for the second byte of the image. -/
def asks : List UInt8 := [0x80, 0x05, 0x15, 0x01, 0x00, 0x00, 0x00, 0x01, 0x00, 0x00, 0x00]

end TakenUp

/-- A component that is being updated is in the plan, and its image is served from there. -/
theorem component_taken_up_is_in_plan :
    Session.start {} AskedUpdate.plan = .ok AskedUpdate.first ∧
      TakenUp.session.state = .download ∧ TakenUp.session.current = some 0 ∧
      0 < TakenUp.session.plan.components.length ∧
      TakenUp.session.outcomes[0]? = some .accepted ∧ TakenUp.session.nextUpdate = 1 ∧
      TakenUp.session.handleRequestStrictly TakenUp.asks =
        some (TakenUp.session.handleRequest TakenUp.asks) ∧
      (TakenUp.session.handleRequest TakenUp.asks).1 = .ok [0x00, 0x05, 0x15, 0x00, 2] := by
  have within := session_stays_within_its_plan
    (rfl : Session.start {} AskedUpdate.plan = .ok AskedUpdate.first) TakenUp.inputs
  obtain ⟨-, -, strictly, -, -, current, -⟩ := within
  obtain ⟨listed, accepted, next⟩ := current 0 (by decide)
  exact ⟨rfl, by decide, by decide, listed, accepted, next, strictly _, rfl⟩

end FirmwareUpdate
