import FirmwareUpdate.Proofs.Agent.Responses

/-!
# The codes that failures leave

A session records the code of a response before it reads the body. What fails after that leaves
the success of the response on record, unless it records a code of its own. `Fails` lists what the
body of a successful response can fail with and what the session is then: a body that is not
understood gets its code from `processMatching` and a portion that does not fit from
`acceptMetadata`, but metadata that are too large get none. That there is no component to update
would get none either; it does not happen, since the request was about a component that is still
there.
-/

namespace FirmwareUpdate

open Wire

/-- The code that stands for a failure. -/
def UpdateError.code? : UpdateError → Option CompletionCode
  | codec fault => some (.ofCodecError fault)
  | transfer fault => some fault.completionCode
  | aborted cc => some cc
  | _ => none

namespace Session

variable {first session after : Session}

/-- With this message the device enters the update and says how large its metadata are. -/
def Announces (session : Session) (message : List UInt8) (announced : UpdateResponse) : Prop :=
  ∃ response, session.Answers .requestUpdate message response ∧ response.cc.isSuccess = true ∧
    decode "RequestUpdate" UpdateResponse.reader response.data = .ok announced

/-- The device announces more metadata than the settings allow. -/
def AnnouncesTooMuch (session : Session) (message : List UInt8) : Prop :=
  ∃ announced, session.Announces message announced ∧
    session.settings.maxMetadataSize < announced.metadataSize.toNat

/-! ## The body of a response -/

/-- What the body of a successful response can fail with, and what is left then. -/
inductive Fails (session : Session) (body : List UInt8) :
    AgentCommand → UpdateError → Session → Prop where
  | notUnderstood (command : AgentCommand) (fault : CodecError) :
      Fails session body command (.codec fault) session
  | unfit (fault : TransferError) :
      Fails session body .getDeviceMetaData (.transfer fault)
        { session with lastCode := fault.completionCode }
  | tooMuchMetadata {announced : UpdateResponse}
      (read : decode "RequestUpdate" UpdateResponse.reader body = .ok announced)
      (beyond : session.settings.maxMetadataSize < announced.metadataSize.toNat) :
      Fails session body .requestUpdate
        (.metadataTooLarge announced.metadataSize.toNat session.settings.maxMetadataSize)
        { session with state := .aborted }
  | noComponent (none : session.nextComponent? = none) :
      Fails session body .updateComponent (.invalidState session.state) session

/-- What taking a body comes to: it is taken and the code stays, or it fails. -/
def Settles (session : Session) (command : AgentCommand) (body : List UInt8)
    (result : Except UpdateError Unit × Session) : Prop :=
  (result.1 = .ok () ∧ result.2.lastCode = session.lastCode) ∨
    ∃ error, result.1 = .error error ∧ session.Fails body command error result.2

/-- The answer to RequestUpdate succeeds, or fails with a reason. -/
theorem beginUpdate_settles (session : Session) {body : List UInt8} {announced : UpdateResponse}
    (read : decode "RequestUpdate" UpdateResponse.reader body = .ok announced) :
    session.Settles .requestUpdate body (session.beginUpdate announced) := by
  unfold beginUpdate
  dsimp only
  split
  · rename_i beyond
    exact .inr ⟨_, rfl, .tooMuchMetadata read beyond⟩
  · exact .inl ⟨rfl, rfl⟩

/-- A portion of metadata succeeds, or fails with a reason. -/
theorem acceptMetadata_settles (session : Session) (body : List UInt8) (part : PartResponse) :
    session.Settles .getDeviceMetaData body (session.acceptMetadata part) := by
  unfold acceptMetadata
  split
  · exact .inr ⟨_, rfl, .unfit _⟩
  · exact .inl ⟨rfl, rfl⟩

/-- The answer to UpdateComponent succeeds, or fails with a reason. -/
theorem beginComponent_settles (session : Session) (body : List UInt8)
    (answer : ComponentResponse) :
    session.Settles .updateComponent body (session.beginComponent answer) := by
  unfold beginComponent
  split
  · rename_i none
    exact .inr ⟨_, rfl, .noComponent none⟩
  · split <;> exact .inl ⟨rfl, rfl⟩

/-- Whatever the command is, its answer succeeds, or fails with a reason. -/
theorem apply_settles (session : Session) (command : AgentCommand) (body : List UInt8) :
    session.Settles command body (session.apply command body) := by
  cases command <;> unfold apply <;> dsimp only <;> (try split)
  all_goals first
    | exact beginUpdate_settles session ‹_›
    | exact acceptMetadata_settles session body _
    | exact beginComponent_settles session body _
    | exact .inl ⟨rfl, rfl⟩
    | exact .inr ⟨_, rfl, .notUnderstood _ _⟩

/-- What taking a response comes to: its code is the answer, or the device cannot be updated, or
the body fails and leaves the code of its failure where there is one. -/
theorem processMatching_settles (session : Session) (command : AgentCommand)
    (response : Response) :
    ((session.processMatching command response).1 = .ok response.cc ∧
        (session.processMatching command response).2.lastCode = response.cc) ∨
      (response.cc = UpdateCode.unableToInitiateUpdate ∧
        session.processMatching command response =
          (.error (.aborted response.cc), { session.coded response.cc with state := .aborted })) ∨
      (response.cc.isSuccess = true ∧ ∃ error after,
        (session.coded response.cc).Fails response.data command error after ∧
        session.processMatching command response =
          (.error error, { after with lastCode := error.code?.getD after.lastCode })) := by
  by_cases success : response.cc.isSuccess = true
  · have settles := apply_settles (session.coded response.cc) command response.data
    unfold processMatching
    dsimp only
    rw [if_pos success, ← coded]
    generalize (session.coded response.cc).apply command response.data = result at settles
    obtain ⟨result, after⟩ := result
    obtain ⟨taken, code⟩ | ⟨error, failed, fails⟩ := settles
    · cases taken
      exact .inl ⟨rfl, code⟩
    · cases failed
      refine .inr (.inr ⟨success, error, after, fails, ?_⟩)
      cases fails <;> rfl
  · by_cases unable : command = .requestUpdate ∧ response.cc = UpdateCode.unableToInitiateUpdate
    · obtain ⟨rfl, code⟩ := unable
      exact .inr (.inl ⟨code, processMatching_of_unable session code⟩)
    · left
      rw [processMatching_of_failure session (Bool.eq_false_iff.mpr success) unable]
      exact ⟨rfl, rfl⟩

/-! ## What a message is -/

/-- A message answers one command with one response. -/
theorem Answers.unique {command other : AgentCommand} {message : List UInt8}
    {response another : Response} (answers : session.Answers command message response)
    (again : session.Answers other message another) : command = other ∧ response = another := by
  obtain ⟨parsed, pending, awaits, rfl, -⟩ := answers
  obtain ⟨parsed', pending', awaits', rfl, -⟩ := again
  cases parsed.symm.trans parsed'
  cases awaits.symm.trans awaits'
  exact ⟨rfl, rfl⟩

/-- Metadata that are too large end the update, and the success of the response stays on record. -/
theorem Announces.process_of_beyond {message : List UInt8} {announced : UpdateResponse}
    (announces : session.Announces message announced)
    (beyond : session.settings.maxMetadataSize < announced.metadataSize.toNat) :
    ∃ cc, cc.isSuccess = true ∧ session.process message =
      (.error (.metadataTooLarge announced.metadataSize.toNat session.settings.maxMetadataSize),
        { session.coded cc with state := .aborted }) := by
  obtain ⟨response, answers, success, read⟩ := announces
  refine ⟨response.cc, success, ?_⟩
  rw [answers.process_eq]
  unfold processMatching apply beginUpdate
  dsimp only
  rw [if_pos success, read]
  dsimp only
  rw [if_pos beyond]
  rfl

/-- Metadata within the limit begin the update. -/
theorem Announces.process_of_within {message : List UInt8} {announced : UpdateResponse}
    (announces : session.Announces message announced)
    (within : announced.metadataSize.toNat ≤ session.settings.maxMetadataSize) :
    ∃ cc, cc.isSuccess = true ∧ session.process message =
      (.ok cc, { session.coded cc with
        state := .learnComponents
        metadataBytes := []
        metadata := { kind := .deviceMetaData, totalSize := announced.metadataSize.toNat }
        metadataDone := announced.metadataSize.toNat = 0
        devicePulls := announced.pullsPackageData != 0
        package := session.package.reset
        packageDone :=
          !(announced.pullsPackageData != 0) || session.plan.packageData.isEmpty }) := by
  obtain ⟨response, answers, success, read⟩ := announces
  refine ⟨response.cc, success, ?_⟩
  rw [answers.process_eq]
  unfold processMatching apply beginUpdate
  dsimp only
  rw [if_pos success, read]
  dsimp only
  rw [if_neg (Nat.not_lt.mpr within)]
  rfl

/-- A message announces one thing. -/
theorem Announces.unique {message : List UInt8} {announced other : UpdateResponse}
    (announces : session.Announces message announced)
    (again : session.Announces message other) : announced = other := by
  obtain ⟨response, answers, -, read⟩ := announces
  obtain ⟨response', answers', -, read'⟩ := again
  obtain ⟨-, rfl⟩ := answers.unique answers'
  cases read.symm.trans read'
  rfl

/-- Nothing is announced by the input. -/
def Silent (session : Session) (input : SessionInput) : Prop :=
  ∀ message announced, input = .process message → ¬ session.Announces message announced

/-- The component that an answer is about is still there. -/
theorem Answers.nextComponent? (placed : first.Placed) (fits : FitsInstance first.nextIid)
    (settled : first.pending = none) {inputs : List SessionInput} {message : List UInt8}
    {response : Response}
    (answers : (first.run inputs).Answers .updateComponent message response) :
    (first.run inputs).nextComponent? ≠ none := by
  obtain ⟨-, pending, awaits, asked, -⟩ := answers
  rcases accounted placed fits settled inputs with none | ⟨asking, command, request, awaited⟩
  · cases none.symm.trans awaits
  · have awaiting := awaited.awaiting placed fits
    cases awaiting.pending.symm.trans awaits
    cases asked
    obtain ⟨index, -, next, -⟩ := awaiting.asksFor
    rw [awaiting.nextComponent?, next]
    exact nofun

/-- A response that fails leaves the code of its failure, or it announces too much. -/
theorem Answers.process_error {command : AgentCommand} {message : List UInt8}
    {response : Response} (answers : session.Answers command message response)
    (there : command = .updateComponent → session.nextComponent? ≠ none) {error : UpdateError}
    (failed : session.process message = (.error error, after)) :
    (after.lastCode.isSuccess = false ∧ error.code? = some after.lastCode) ∨
      (after.lastCode.isSuccess = true ∧ session.AnnouncesTooMuch message) := by
  rw [answers.process_eq] at failed
  obtain ⟨same, -⟩ | ⟨unable, same⟩ | ⟨success, error', left, fails, same⟩ :=
    session.processMatching_settles command response
  · rw [failed] at same
    cases same
  · cases failed.symm.trans same
    exact .inl ⟨by rw [show _ = response.cc from rfl, unable]; rfl, rfl⟩
  · cases fails with
    | notUnderstood command fault =>
        cases failed.symm.trans same
        exact .inl ⟨CompletionCode.isSuccess_ofCodecError fault, rfl⟩
    | unfit fault =>
        cases failed.symm.trans same
        exact .inl ⟨fault.isSuccess_completionCode, rfl⟩
    | tooMuchMetadata read beyond =>
        cases failed.symm.trans same
        exact .inr ⟨success, _, ⟨response, answers, success, read⟩, beyond⟩
    | noComponent none => exact absurd none (there rfl)

/-- A response that is taken leaves its code, which is the answer. -/
theorem Answers.process_ok {command : AgentCommand} {message : List UInt8}
    {response : Response} (answers : session.Answers command message response)
    {cc : CompletionCode} (taken : session.process message = (.ok cc, after)) :
    after.lastCode = cc ∧ cc = response.cc := by
  rw [answers.process_eq] at taken
  obtain ⟨same, code⟩ | ⟨-, same⟩ | ⟨-, _, _, -, same⟩ :=
    session.processMatching_settles command response
  · rw [taken] at same code
    cases same
    exact ⟨code, rfl⟩
  · cases taken.symm.trans same
  · cases taken.symm.trans same

end Session

/-- The answer to a request is the code that its response leaves. Where the response fails, the
code that is left is not a success and stands for the failure, except where the device announces
more metadata than the settings allow: then the update is over and the code is a success. -/
theorem failures_recorded_unless_metadata_too_large {settings : AgentSettings}
    {plan : UpdatePlan} {first : Session} (started : Session.start settings plan = .ok first)
    (inputs : List SessionInput) {command : AgentCommand} {message : List UInt8}
    {response : Response} (answers : (first.run inputs).Answers command message response) :
    let session := first.run inputs
    let (result, after) := session.process message
    (∀ cc, result = .ok cc → after.lastCode = cc ∧ cc = response.cc) ∧
    (∀ error, result = .error error →
      (after.lastCode.isSuccess = true ↔ session.AnnouncesTooMuch message) ∧
      (after.lastCode.isSuccess = false → error.code? = some after.lastCode)) ∧
    (∀ announced, session.Announces message announced →
      session.settings.maxMetadataSize < announced.metadataSize.toNat →
      result = .error
        (.metadataTooLarge announced.metadataSize.toNat session.settings.maxMetadataSize) ∧
      after.state = .aborted) := by
  obtain ⟨-, placed⟩ := Session.consistent_of_start started
  have there : command = .updateComponent → (first.run inputs).nextComponent? ≠ none := by
    obtain ⟨-, -, rfl⟩ := Session.sound_of_start started
    rintro rfl
    exact answers.nextComponent? placed fitsInstance_zero rfl
  intro session
  cases processed : session.process message with
  | mk result after =>
    refine ⟨?_, ?_, ?_⟩
    · rintro cc rfl
      exact answers.process_ok processed
    · rintro error rfl
      rcases answers.process_error there processed with ⟨refused, stands⟩ | ⟨success, tooMuch⟩
      · refine ⟨⟨fun success => ?_, ?_⟩, fun _ => stands⟩
        · cases refused.symm.trans success
        · rintro ⟨announced, announces, beyond⟩
          obtain ⟨cc, -, ended⟩ := announces.process_of_beyond beyond
          cases processed.symm.trans ended
          cases stands
      · refine ⟨⟨fun _ => tooMuch, fun _ => success⟩, fun refused => ?_⟩
        cases refused.symm.trans success
    · intro announced announces beyond
      obtain ⟨cc, -, ended⟩ := announces.process_of_beyond beyond
      cases processed.symm.trans ended
      exact ⟨rfl, rfl⟩

namespace LimitedMetadata

/-- Settings under which a device has at most three bytes of metadata. -/
def settings : AgentSettings := { maxMetadataSize := 3 }

/-- The session as it begins. -/
def first : Session :=
  { settings, plan := AskedUpdate.plan, outcomes := Session.freshOutcomes AskedUpdate.plan }

/-- The device enters the update, and says nothing about its metadata. -/
def short : Response :=
  { iid := 0, typ := firmwareUpdateType, cmd := 0x10, cc := BaseCode.success, data := [] }

/-- The device enters the update and announces four bytes of metadata. -/
def four : Response := { short with data := [4, 0, 0] }

end LimitedMetadata

open LimitedMetadata in
/-- A body that is missing is truncated, which is what is on record. -/
theorem missing_body_recorded :
    let session := first.run [.issue .requestUpdate]
    (session.process short.toBytes).1 = .error (.codec (.truncated "RequestUpdate")) ∧
      (UpdateError.codec (.truncated "RequestUpdate")).code? =
        some (session.process short.toBytes).2.lastCode := by
  have failed : ((first.run [.issue .requestUpdate]).process short.toBytes).1 =
      .error (.codec (.truncated "RequestUpdate")) := rfl
  have recorded := failures_recorded_unless_metadata_too_large
    (rfl : Session.start settings AskedUpdate.plan = .ok first) [.issue .requestUpdate]
    (⟨rfl, _, rfl, rfl, rfl⟩ : Session.Answers _ .requestUpdate short.toBytes short)
  exact ⟨failed, (recorded.2.1 _ failed).2 (by decide +kernel)⟩

open LimitedMetadata in
/-- Metadata beyond the limit end the update, and the success of the response is on record. -/
theorem success_recorded_beyond_limit :
    let session := first.run [.issue .requestUpdate]
    Session.start settings AskedUpdate.plan = .ok first ∧
      session.Answers .requestUpdate four.toBytes four ∧
      (session.process four.toBytes).1 = .error (.metadataTooLarge 4 3) ∧
      (session.process four.toBytes).2.lastCode.isSuccess = true := by
  exact ⟨rfl, ⟨rfl, _, rfl, rfl, rfl⟩, rfl, by decide +kernel⟩

end FirmwareUpdate
