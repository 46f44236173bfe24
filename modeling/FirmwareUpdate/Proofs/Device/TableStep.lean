import FirmwareUpdate.Proofs.Device.Beginning
import FirmwareUpdate.Proofs.Wire.Reading

/-!
# What a reaction does to the component table

An agent announces the components of an update one after the other. The responder keeps one bit of
what it has accepted, next to the pull of package data; `TableStage` is what there is to know of it,
and `TableStep` says what a reaction does to it. The entries are read off the messages: a request
that announces a component, and an answer to it that is success.
-/

namespace FirmwareUpdate

open Wire

/-! ## Entries that are accepted -/

/-- The flag of an entry of the component table, if it has one. -/
def Request.tableFlag? (request : Request) : Option TransferFlag := request.data.head?.bind ofCode?

/-- The first byte of a request for an entry is the flag of its place. -/
theorem Request.tableFlag?_eq_some {request : Request} {code : UInt8} {flag : TransferFlag}
    (read : request.data.head? = some code) (known : ofCode? code = some flag) :
    request.tableFlag? = some flag := by
  rw [tableFlag?, read]
  exact known

/-- The request that announces a component, if the answer to it is success. -/
def entryAccepted? (message : List UInt8) (answer : Except UpdateError (List UInt8)) :
    Option Request := do
  let request ← (Request.parse message).toOption
  let response ← (Response.parse (← answer.toOption)).toOption
  if request.typ = firmwareUpdateType ∧ request.cmd = Coded.code Command.passComponentTable ∧
      response.cc.isSuccess = true then some request
  else none

/-- The entry of the component table that is accepted with a reaction. -/
def ResponderInput.entryAccepted? : ResponderInput → ResponderOutput → Option Request
  | .request _ message, .answer answer => FirmwareUpdate.entryAccepted? message answer
  | _, _ => none

/-- What an accepted entry consists of. -/
theorem entryAccepted?_eq_some_iff {message : List UInt8}
    {answer : Except UpdateError (List UInt8)} {request : Request} :
    entryAccepted? message answer = some request ↔
      ∃ answered response, Request.parse message = .ok request ∧ answer = .ok answered ∧
        Response.parse answered = .ok response ∧ request.IsFor .passComponentTable ∧
        response.cc.isSuccess = true := by
  simp only [entryAccepted?, Option.bind_eq_bind, Option.bind_eq_some_iff,
    Responder.toOption_eq_some_iff, Request.IsFor]
  grind

/-- A request of another command, or one that is refused, announces nothing. -/
theorem entryAccepted?_eq_none {message : List UInt8} {request : Request}
    (parsed : Request.parse message = .ok request) {result : Except CompletionCode Response}
    (other : request.IsFor .passComponentTable →
      ∃ cc : CompletionCode, cc.isSuccess = false ∧ result = .error cc) :
    entryAccepted? message (.ok (Responder.messageOf request result)) = none := by
  rw [Option.eq_none_iff_forall_ne_some]
  intro entry accepted
  obtain ⟨answered, response, read, sent, answerParsed, asks, success⟩ :=
    entryAccepted?_eq_some_iff.mp accepted
  cases parsed.symm.trans read
  obtain ⟨cc, failure, rfl⟩ := other asks
  cases sent
  cases answerParsed.symm.trans (Request.parse_respond parsed cc [])
  cases failure.symm.trans success

/-! ## One reaction -/

/-- How far the component table has come. -/
inductive TableStage where
  /-- No update runs. -/
  | absent
  /-- Components are announced; a first one has been, or not. -/
  | learning (passed : Bool)
  | complete
deriving DecidableEq

/-- How far the component table has come in a phase. -/
def DevicePhase.table : DevicePhase → TableStage
  | idle _ => .absent
  | learnComponents _ passed => .learning passed
  | readyXfer | download _ _ _ _ _ | verify _ _ | apply _ _ | activate => .complete

/-- There is no table exactly while the device is idle. -/
theorem DevicePhase.table_eq_absent_iff {phase : DevicePhase} :
    phase.table = .absent ↔ phase.state = .idle := by
  cases phase <;> simp [table, state]

/-- The table is being announced exactly in the state that is for it. -/
theorem DevicePhase.state_eq_learnComponents_iff {phase : DevicePhase} :
    phase.state = .learnComponents ↔ ∃ passed, phase.table = .learning passed := by
  cases phase <;> simp [table, state]

/-- The table is complete when the components can be updated. -/
theorem DevicePhase.table_of_readyXfer {phase : DevicePhase} (ready : phase.state = .readyXfer) :
    phase.table = .complete := by
  cases phase with
  | readyXfer => rfl
  | _ => cases ready

/-- While an update runs, a request is refused for the state it is in. -/
theorem DevicePhase.refusal_of_ne_idle {phase : DevicePhase} (running : phase.state ≠ .idle) :
    phase.refusal = UpdateCode.invalidStateForCommand := by
  cases phase with
  | idle => exact absurd rfl running
  | _ => rfl

/-- The table is complete when a component is updated. -/
theorem DevicePhase.table_of_details? {phase : DevicePhase} {details : ComponentDetails}
    (updating : phase.details? = some details) : phase.table = .complete := by
  cases phase with
  | download | verify | apply => rfl
  | idle | learnComponents | readyXfer | activate => cases updating

/-- The flag of an entry that is accepted at a stage. -/
def TableStage.admits? : TableStage → UInt8 → Option TransferFlag
  | learning passed, code => Responder.followingFlag? passed code
  | absent, _ | complete, _ => none

/-- What a reaction does to the component table, with the update that begins and the entry that is
accepted. -/
inductive TableStep (before : DevicePhase) :
    Option UpdateRequest → Option Request → DevicePhase → Prop where
  | begun {after : DevicePhase} (update : UpdateRequest) (begins : after.table = .learning false) :
      TableStep before (some update) none after
  | announced {after : DevicePhase} {request : Request} {code : UInt8} {flag : TransferFlag}
      (read : request.data.head? = some code) (admits : before.table.admits? code = some flag)
      (next : if flag.isEnd then after = .readyXfer else after.table = .learning true) :
      TableStep before none (some request) after
  | kept {after : DevicePhase} (same : after.table = before.table) :
      TableStep before none none after
  | ended {after : DevicePhase} (none : after.table = .absent) : TableStep before .none .none after

namespace Responder

variable {σ : Type} (responder : Responder) (device : Device σ) (state : σ)

/-- A reaction that leaves the table as it is, or ends the update. -/
def LeavesTable (before after : Responder) : Prop :=
  after.phase.table = before.phase.table ∨ after.phase.table = .absent

/-- A table that is left alone takes no step. -/
theorem LeavesTable.step {before after : Responder} (leaves : LeavesTable before after) :
    TableStep before.phase none none after.phase := leaves.elim .kept .ended

/-- A responder that does nothing leaves the table alone. -/
theorem leavesTable_refl : LeavesTable responder responder := .inl rfl

/-- The table is at one stage before and after. -/
theorem LeavesTable.of_stage {before after : Responder} {stage : TableStage}
    (was : before.phase.table = stage) (still : after.phase.table = stage) :
    LeavesTable before after := .inl (still.trans was.symm)

/-! ### Requests of an agent -/

variable (request : Request)

/-- The first byte of an entry is its flag. -/
theorem head?_of_tableEntry {what : String} {body : List UInt8} {code : UInt8}
    {record : ComponentRecord} (read : decode what tableEntryReader body = .ok (code, record)) :
    body.head? = some code := by
  rw [Reader.decode_eq_ok_iff, tableEntryReader, Reader.bind_eq_ok_iff] at read
  obtain ⟨flag, rest, first, others⟩ := read
  obtain ⟨entry, left, -, made⟩ := Reader.bind_eq_ok_iff.mp others
  obtain ⟨same, -⟩ := Reader.pure_eq_ok_iff.mp made
  cases same
  rw [Reader.byte_eq_ok_iff.mp first]
  rfl

/-- An entry that follows is accepted, and any other that is understood is refused for the phase. -/
theorem answerTableEntry_of_decode {code : UInt8} {record : ComponentRecord}
    (read : decode "PassComponentTable" tableEntryReader request.data = .ok (code, record)) :
    let after := responder.answerTableEntry device request state
    match responder.phase.table.admits? code with
    | some flag => (∃ body, after.1 = .ok (request.respond BaseCode.success body)) ∧
        if flag.isEnd then after.2.1.phase = .readyXfer
        else after.2.1.phase.table = .learning true
    | none => after.1 = .error responder.phase.refusal ∧ after.2.1 = responder := by
  unfold answerTableEntry
  cases phase : responder.phase with
  | learnComponents pull passed =>
      dsimp only [DevicePhase.table, TableStage.admits?]
      rw [read]
      dsimp only
      cases followingFlag? passed code with
      | none => exact ⟨rfl, rfl⟩
      | some flag =>
          refine ⟨respondWith_of_roundTrips request (TableResponse.roundTrips _) (by decide), ?_⟩
          dsimp only
          cases flag.isEnd <;> rfl
  | _ => exact ⟨rfl, rfl⟩

/-- An entry that is not understood is refused. -/
theorem answerTableEntry_of_error {error : CodecError}
    (unread : decode "PassComponentTable" tableEntryReader request.data = .error error) :
    ∃ cc : CompletionCode, cc.isSuccess = false ∧
      responder.answerTableEntry device request state = (.error cc, responder, state) := by
  unfold answerTableEntry
  split
  · rw [unread]
    exact ⟨_, by cases error <;> rfl, rfl⟩
  · exact ⟨_, isSuccess_refusal _, rfl⟩

/-- Only a new update and an entry change the table. -/
theorem answerCommand_leavesTable (agent : EndpointId) {command : Command}
    (noUpdate : command ≠ .requestUpdate) (noEntry : command ≠ .passComponentTable) :
    LeavesTable responder (responder.answerCommand device agent request state command).2.1 := by
  have refl := leavesTable_refl responder
  cases command with
  | requestUpdate => exact absurd rfl noUpdate
  | passComponentTable => exact absurd rfl noEntry
  | getDeviceMetaData =>
      simp only [answerCommand, answerMetadata]
      repeat' split
      all_goals exact refl
  | updateComponent =>
      simp only [answerCommand, answerComponent]
      split
      · rename_i ready
        split
        · exact refl
        · dsimp only
          split
          · exact .of_stage (congrArg DevicePhase.table ready) rfl
          · exact refl
      · exact refl
  | activateFirmware =>
      simp only [answerCommand, answerActivation]
      repeat' split
      all_goals first | exact refl | exact .inr rfl
  | cancelUpdate =>
      simp only [answerCommand, answerCancel]
      repeat' split
      all_goals first | exact refl | exact .inr rfl
  | cancelUpdateComponent =>
      simp only [answerCommand, answerCancelComponent]
      split
      · exact refl
      · rename_i details updating
        split
        · exact .of_stage (DevicePhase.table_of_details? updating) rfl
        · exact refl
  | queryDeviceIdentifiers =>
      simp only [answerCommand, answerIdentifiers]
      split <;> exact refl
  | getFirmwareParameters =>
      simp only [answerCommand, answerParameters]
      split <;> exact refl
  | getStatus =>
      simp only [answerCommand, answerStatus]
      split <;> exact refl
  | _ => exact refl

/-- The answer to a request is a step of the table. -/
def AnswersTable {τ : Type} (before : DevicePhase) (message : List UInt8) (request : Request)
    (after : Answer τ) : Prop :=
  TableStep before (acceptedUpdate? message (.ok (messageOf request after.1)))
    (entryAccepted? message (.ok (messageOf request after.1))) after.2.1.phase

variable {request} {message : List UInt8} (parsed : Request.parse message = .ok request)

include parsed

/-- A refusal accepts nothing and leaves the table. -/
theorem answersTable_of_refusal {τ : Type} {after : Answer τ} {cc : CompletionCode}
    (failure : cc.isSuccess = false) (refused : after.1 = .error cc)
    (kept : after.2.1 = responder) : AnswersTable responder.phase message request after := by
  unfold AnswersTable
  rw [refused, kept, acceptedUpdate?_eq_none parsed fun _ => ⟨cc, failure, rfl⟩,
    entryAccepted?_eq_none parsed fun _ => ⟨cc, failure, rfl⟩]
  exact responder.leavesTable_refl.step

/-- A new update begins its table, or is refused. -/
theorem answerUpdate_answersTable (agent : EndpointId) (asks : request.IsFor .requestUpdate) :
    AnswersTable responder.phase message request
      (responder.answerUpdate device.recorded agent request (state, [])) := by
  rcases responder.answerUpdate_begins device state agent request with
    ⟨update, body, read, success, begins⟩ | ⟨cc, failure, refused, kept⟩
  · have accepted : acceptedUpdate? message (.ok (messageOf request
        (.ok (request.respond BaseCode.success body)))) = some update :=
      acceptedUpdate?_eq_some_iff.mpr ⟨request, _, request.respond BaseCode.success body,
        parsed, read, rfl, Request.parse_respond parsed _ body, asks, rfl⟩
    have noEntry : entryAccepted? message (.ok (messageOf request
        (.ok (request.respond BaseCode.success body)))) = none :=
      entryAccepted?_eq_none parsed fun meant =>
        nomatch Coded.code_injective _ _ (asks.2.symm.trans meant.2)
    unfold AnswersTable
    rw [success, accepted, noEntry]
    exact .begun update (congrArg DevicePhase.table begins.phase)
  · exact responder.answersTable_of_refusal parsed failure refused kept

/-- An entry of the table is accepted, or refused. -/
theorem answerTableEntry_answersTable (asks : request.IsFor .passComponentTable) :
    AnswersTable responder.phase message request
      (responder.answerTableEntry device.recorded request (state, [])) := by
  cases read : decode "PassComponentTable" tableEntryReader request.data with
  | error error =>
      obtain ⟨cc, failure, refused⟩ :=
        responder.answerTableEntry_of_error device.recorded (state, []) request read
      rw [refused]
      exact responder.answersTable_of_refusal parsed failure rfl rfl
  | ok entry =>
      have outcome :=
        responder.answerTableEntry_of_decode device.recorded (state, []) request read
      dsimp only at outcome
      split at outcome
      · rename_i flag admits
        obtain ⟨⟨body, success⟩, after⟩ := outcome
        have noUpdate : acceptedUpdate? message (.ok (messageOf request
            (.ok (request.respond BaseCode.success body)))) = none :=
          acceptedUpdate?_eq_none parsed fun meant =>
            nomatch Coded.code_injective _ _ (asks.2.symm.trans meant.2)
        have accepted : entryAccepted? message (.ok (messageOf request
            (.ok (request.respond BaseCode.success body)))) = some request :=
          entryAccepted?_eq_some_iff.mpr ⟨_, request.respond BaseCode.success body,
            parsed, rfl, Request.parse_respond parsed _ body, asks, rfl⟩
        unfold AnswersTable
        rw [success, noUpdate, accepted]
        exact .announced (head?_of_tableEntry read) admits after
      · obtain ⟨refused, same⟩ := outcome
        exact responder.answersTable_of_refusal parsed (isSuccess_refusal _) refused same

/-- Every answer is a step of the table. -/
theorem answer_answersTable (agent : EndpointId) :
    AnswersTable responder.phase message request
      (responder.answer device.recorded agent request (state, [])) := by
  rcases responder.answer_cases device.recorded agent request (state, []) with
    ⟨cc, failure, refused, -⟩ | ⟨command, asks, -, same⟩
  · rw [refused]
    exact responder.answersTable_of_refusal parsed failure rfl rfl
  rw [same]
  by_cases updates : command = .requestUpdate
  · subst updates
    exact responder.answerUpdate_answersTable device state parsed agent asks
  by_cases announces : command = .passComponentTable
  · subst announces
    exact responder.answerTableEntry_answersTable device state parsed asks
  have only {other : Command} (meant : request.IsFor other) : command = other :=
    Coded.code_injective _ _ (asks.2.symm.trans meant.2)
  unfold AnswersTable
  rw [acceptedUpdate?_eq_none parsed fun meant => absurd (only meant) updates,
    entryAccepted?_eq_none parsed fun meant => absurd (only meant) announces]
  exact (responder.answerCommand_leavesTable device.recorded (state, []) request agent
    updates announces).step

omit parsed

/-- The reaction to a message is a step of the table. -/
theorem answerRequest_tableStep (agent : EndpointId) (message : List UInt8) :
    let after := responder.answerRequest device.recorded agent message (state, [])
    TableStep responder.phase (acceptedUpdate? message after.1) (entryAccepted? message after.1)
      after.2.1.phase := by
  cases parsed : Request.parse message with
  | error error =>
      have same : responder.answerRequest device.recorded agent message (state, []) =
          (.error (.codec error), responder, state, []) := by
        simp only [answerRequest, parsed]
      rw [same]
      simpa [acceptedUpdate?, entryAccepted?, parsed, Except.toOption] using
        responder.leavesTable_refl.step
  | ok request =>
      have answered := answerRequest_of_parse responder device.recorded agent parsed (state, [])
      rw [answered]
      exact responder.answer_answersTable device state parsed agent

/-! ### Requests of the device -/

/-- Asking for package data leaves the table alone. -/
theorem progressPull_leavesTable {pull : PackagePull} {passed : Bool}
    (pulling : responder.phase = .learnComponents (some pull) passed) :
    LeavesTable responder (responder.progressPull device pull passed state).2.1 := by
  unfold progressPull
  repeat' split
  all_goals
    first
    | exact leavesTable_refl responder
    | exact .of_stage (congrArg DevicePhase.table pulling) rfl

/-- What a phase does of itself leaves the table alone. -/
theorem progressPhase_leavesTable :
    LeavesTable responder (responder.progressPhase device state).2.1 := by
  have refl := leavesTable_refl responder
  unfold progressPhase
  split
  · exact progressPull_leavesTable responder device state ‹_›
  · rename_i fetching
    have was := congrArg DevicePhase.table fetching
    unfold progressDownload
    split
    · exact refl
    · split
      · split
        · exact refl
        · dsimp only
          split <;> exact .of_stage was rfl
      · dsimp only
        split
        · exact refl
        · exact .of_stage was rfl
  · rename_i checking
    have was := congrArg DevicePhase.table checking
    unfold progressVerify
    split
    · exact refl
    · dsimp only
      split
      · exact refl
      · dsimp only
        split <;> exact .of_stage was rfl
  · rename_i applying
    have was := congrArg DevicePhase.table applying
    unfold progressApply
    split
    · exact refl
    · dsimp only
      split
      · exact refl
      · dsimp only
        split <;> exact .of_stage was rfl
  all_goals exact refl

/-- Whatever a responder does of itself, the table is left alone. -/
theorem progress_leavesTable : LeavesTable responder (responder.progress device state).2.1 := by
  unfold progress
  split
  · exact leavesTable_refl responder
  · dsimp only
    split
    · exact .inr rfl
    · exact progressPhase_leavesTable ..

/-! ### Responses to the device -/

/-- A portion of package data leaves the table alone, or ends the update. -/
theorem takePart_leavesTable (pull : PackagePull) {passed : Bool}
    (learning : responder.phase.table = .learning passed) (response : Response) :
    LeavesTable responder (responder.takePart device pull passed response state).2.1 := by
  have restarted (pull : PackagePull) :
      (responder.restartPull device pull passed state).1.phase.table = .learning passed := by
    unfold restartPull
    split <;> rfl
  refine .of_stage learning ?_
  unfold takePart
  split
  · split
    · rfl
    · split
      · exact restarted pull
      · split <;> rfl
  · split
    · exact restarted pull
    · rfl

/-- A piece of an image comes when the table is complete, and leaves it so. -/
theorem takeData_leavesTable {offset : Nat} {exchange : Exchange} {options : UInt32}
    {details : ComponentDetails} (updating : responder.phase.table = .complete)
    (response : Response) :
    LeavesTable responder
      (responder.takeData device offset exchange options details response state).1 := by
  unfold takeData
  repeat' split
  · exact .of_stage updating rfl
  · refine .of_stage updating ?_
    dsimp only [afterData]
    split <;> rfl
  · exact .of_stage updating rfl
  · exact .of_stage updating rfl

/-- Whatever a response does, the table is left alone. -/
theorem takeReply_leavesTable (agent : EndpointId) (message : List UInt8) :
    LeavesTable responder (responder.takeReply device agent message state).2.1 := by
  have refl := leavesTable_refl responder
  unfold takeReply
  repeat' split
  · exact refl
  · exact refl
  · unfold takePackageReply
    split
    · rename_i learning
      split
      · exact takePart_leavesTable _ _ _ _ (congrArg DevicePhase.table learning) _
      · exact refl
    · exact refl
  · unfold takeDataReply
    split
    · rename_i fetching
      split
      · exact takeData_leavesTable (responder.touch device state).1 _ _
          (congrArg DevicePhase.table fetching) _
      · exact refl
    · exact refl
  all_goals exact refl

end Responder

namespace ResponderHistory

variable {σ : Type} (device : Device σ) (history : ResponderHistory σ)

/-- Every reaction is a step of the table. -/
theorem next_table (input : ResponderInput) :
    let output := (history.react device input).1
    TableStep history.responder.phase (input.acceptedUpdate? output) (input.entryAccepted? output)
      (history.next device input).responder.phase := by
  cases input with
  | request agent message =>
      exact Responder.answerRequest_tableStep history.responder device history.state agent message
  | reply agent message => exact (Responder.takeReply_leavesTable ..).step
  | progress => exact (Responder.progress_leavesTable ..).step

end ResponderHistory

end FirmwareUpdate
