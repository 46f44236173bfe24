import FirmwareUpdate.Proofs.Agent.Run
import FirmwareUpdate.Proofs.Update.Poll

/-!
# Session and responder agree on where the update is

Each side keeps a state of its own and moves it on when it has seen a message of the other.
`Pair.Agrees` says what one state tells about the other between two exchanges, and
`Synced` is what every exchange preserves. The clock of the device stands still, so that
no side gives up in between.
-/

namespace FirmwareUpdate

open Wire

variable {σ : Type}

/-- The state of a device that has the name of this state of an agent, while an update
runs. -/
def AgentState.counterpart? : AgentState → Option DeviceState
  | learnComponents => some .learnComponents
  | readyXfer => some .readyXfer
  | download => some .download
  | verify => some .verify
  | apply => some .apply
  | idle | activate | aborted => none

namespace DevicePhase

/-- The exchange that the device repeats in this phase. -/
def exchange? : DevicePhase → Option Exchange
  | learnComponents (some pull) _ => some pull.exchange
  | download _ _ exchange _ _ | verify exchange _ | apply exchange _ => some exchange
  | idle _ | learnComponents none _ | readyXfer | activate => none

/-- The device has reported a failure. -/
def hasFailed (phase : DevicePhase) : Bool :=
  match phase.exchange? with
  | some (.failed _) => true
  | _ => false

end DevicePhase

/-- What the states of the two sides tell about each other. -/
structure Pair.Agrees (pair : Pair σ) : Prop where
  /-- One side is in a state exactly when the other is in the state of that name. -/
  running : pair.session.state ≠ .aborted → ∀ agent device, agent.counterpart? = some device →
    (pair.session.state = agent ↔ pair.responder.state = device)
  aborted : pair.session.state = .aborted →
    pair.responder.state = .idle ∨ pair.responder.state = .learnComponents
  idle : pair.session.state = .idle → pair.responder.state = .idle
  /-- The device receives the component that the session updates. -/
  details : pair.session.state.isUpdating = true → ∃ component,
    pair.session.currentComponent? = some component ∧
      pair.responder.phase.details? = some component.details
  failed : pair.session.componentFailed = true ↔ pair.responder.phase.hasFailed = true

/-! ## Inquiries -/

/-- The command asks for something and leaves the update where it is. -/
def AgentCommand.isInquiry : AgentCommand → Bool
  | queryDeviceIdentifiers | getFirmwareParameters | getDeviceMetaData | getStatus => true
  | requestUpdate | passComponentTable | updateComponent | activateFirmware
  | cancelUpdateComponent | cancelUpdate => false

namespace Session

/-- The update is where it was for the session, and its requests are still numbered. -/
def SameStanding (before after : Session) : Prop :=
  after.state = before.state ∧ after.passed = before.passed ∧ after.current = before.current ∧
    after.componentFailed = before.componentFailed ∧ after.plan = before.plan ∧
    (FitsInstance before.nextIid → FitsInstance after.nextIid)

/-- The body of an answer to an inquiry leaves the update where it is. -/
theorem apply_sameStanding (session : Session) {command : AgentCommand}
    (inquiry : command.isInquiry = true) (body : List UInt8) :
    session.SameStanding (session.apply command body).2 := by
  cases command with
  | queryDeviceIdentifiers | getFirmwareParameters | getStatus =>
      unfold apply
      dsimp only
      split <;> exact ⟨rfl, rfl, rfl, rfl, rfl, id⟩
  | getDeviceMetaData =>
      unfold apply acceptMetadata
      dsimp only
      repeat' split
      all_goals exact ⟨rfl, rfl, rfl, rfl, rfl, id⟩
  | _ => cases inquiry

/-- A portion that is served leaves the update where it is. -/
theorem servePackageData_sameStanding (session : Session) (body : List UInt8) :
    session.SameStanding (session.servePackageData body).2 := by
  unfold servePackageData
  dsimp only
  repeat' split
  all_goals exact ⟨rfl, rfl, rfl, rfl, rfl, id⟩

/-- A request for package data leaves the update where it is. -/
theorem serve_sameStanding (session : Session) (responder : Responder) (body : List UInt8) :
    session.SameStanding
      (session.serve (responder.newRequest .getPackageData body).1).2 := by
  have aside : session.SameStanding session := ⟨rfl, rfl, rfl, rfl, rfl, id⟩
  cases expected : session.expects? .getPackageData with
  | none => cases expected
  | some known =>
      cases known with
      | true =>
          rw [serve_newRequest expected]
          exact servePackageData_sameStanding ..
      | false =>
          have known : (ofCode? (responder.newRequest .getPackageData body).1.cmd :
              Option Command) = some .getPackageData := ofCode?_code _
          unfold serve
          rw [if_neg (by simp [Responder.newRequest]), known]
          dsimp only
          rw [expected]
          exact aside

/-- So does the whole response to an inquiry, whatever its code is. -/
theorem processMatching_sameStanding (session : Session) {command : AgentCommand}
    (inquiry : command.isInquiry = true) (response : Response) :
    session.SameStanding ((session.asking command).processMatching command response).2 := by
  have numbered (_ : FitsInstance session.nextIid) :
      FitsInstance (nextInstance session.nextIid) :=
    fitsInstance_nextInstance _
  by_cases success : response.cc.isSuccess = true
  · obtain ⟨code, after⟩ := (session.asking command).processMatching_of_success command success
    obtain ⟨state, passed, current, failed, plan, fits⟩ :=
      apply_sameStanding { session.asking command with pending := none, lastCode := response.cc }
        inquiry response.data
    rw [after]
    exact ⟨state, passed, current, failed, plan, fun _ => fits (fitsInstance_nextInstance _)⟩
  · unfold processMatching
    dsimp only
    rw [if_neg success, processFailure, if_neg]
    · exact ⟨rfl, rfl, rfl, rfl, rfl, numbered⟩
    · rintro ⟨rfl, -⟩
      cases inquiry

end Session

namespace Responder

/-- The update is where it was for the device, and its requests are still numbered. -/
def SameStanding (time : Nat) (before after : Responder) : Prop :=
  after.phase = before.phase ∧ after.owner = before.owner ∧
    (FitsInstance before.nextIid → FitsInstance after.nextIid) ∧
    (after.lastActivity = before.lastActivity ∨ after.lastActivity = time)

/-- The device still learns of components, and is ready for its next request. -/
def KeepsLearning (time : Nat) (passed : Bool) (before after : Responder) : Prop :=
  (∃ next, after.phase = .learnComponents next passed ∧
    ∀ part ∈ next, part.exchange = .ready) ∧
  after.owner = before.owner ∧ after.nextIid = before.nextIid ∧
  (after.lastActivity = before.lastActivity ∨ after.lastActivity = time)

/-- A reply to a request for package data leaves the device in the announcement. -/
theorem takePart_keepsLearning {device : Device σ} {time : Nat}
    (clock : ∀ state, (device.now state).1 = time) {pull : PackagePull}
    (ready : pull.exchange = .ready) (responder : Responder) (passed : Bool)
    (response : Response) (state : σ) :
    responder.KeepsLearning time passed
      (responder.takePart device pull passed response state).2.1 := by
  have ended (data : Option (List UInt8)) : responder.KeepsLearning time passed
      (responder.endPull device passed data state).1 :=
    ⟨⟨none, rfl, nofun⟩, rfl, rfl, .inr (clock _)⟩
  have continued {next : PackagePull} (unsent : next.exchange = .ready) :
      responder.KeepsLearning time passed (responder.continuePull device next passed state).1 :=
    ⟨⟨some next, rfl, by rintro _ ⟨⟩; exact unsent⟩, rfl, rfl, .inr (clock _)⟩
  have restarted : responder.KeepsLearning time passed
      (responder.restartPull device pull passed state).1 := by
    unfold restartPull
    split
    · rename_i next again
      unfold PackagePull.restart? at again
      split at again <;> cases again
      exact continued ready
    · exact ended none
  unfold takePart
  split
  · split
    · exact ⟨⟨some pull, rfl, by rintro _ ⟨⟩; exact ready⟩, rfl, rfl, .inl rfl⟩
    · split
      · exact restarted
      · split
        · exact continued ready
        · exact ended _
  · split
    · exact restarted
    · exact ended none

/-- The answer says something and leaves the update where it is. -/
def Informs (time : Nat) (responder : Responder) (request : Request) (answer : Answer σ) : Prop :=
  (∃ cc data, Says request answer.1 cc data) ∧ responder.SameStanding time answer.2.1

section Inquiry

variable {device : Device σ} {time : Nat} (responder : Responder) (request : Request)

/-- A refusal that changes nothing is information. -/
theorem informs_refused (cc : CompletionCode) (state : σ) :
    Informs time responder request (.error cc, responder, state) :=
  ⟨⟨cc, [], .inr ⟨rfl, rfl⟩⟩, rfl, rfl, id, .inl rfl⟩

/-- So is a response with any body after which the responder stands as before. -/
theorem informs_respondWith (body : Layout) {after : Responder}
    (standing : responder.SameStanding time after) (state : σ) :
    Informs time responder request (respondWith request body, after, state) := by
  refine ⟨?_, standing⟩
  unfold respondWith
  cases body.toMessage with
  | ok data => exact ⟨_, data, .inl rfl⟩
  | error error => exact ⟨_, [], .inr ⟨rfl, rfl⟩⟩

/-- A portion of the metadata moves their transfer, and the update stays where it is. -/
theorem answerMetadata_informs (clock : ∀ state, (device.now state).1 = time) (state : σ) :
    Informs time responder request (responder.answerMetadata device request state) := by
  unfold answerMetadata
  split
  · split
    · exact informs_refused ..
    · split
      · exact ⟨⟨_, [], .inr ⟨rfl, rfl⟩⟩, rfl, rfl, id, .inl rfl⟩
      · refine informs_respondWith _ _ _ ?_ _
        exact ⟨rfl, rfl, id, .inr (clock _)⟩
  · exact informs_refused ..

/-- Every inquiry is answered, and leaves the update where it is. -/
theorem answerCommand_informs (clock : ∀ state, (device.now state).1 = time) (agent : EndpointId)
    (state : σ) {command : AgentCommand} (inquiry : command.isInquiry = true) :
    Informs time responder request
      (responder.answerCommand device agent request state command.command) := by
  have aside : responder.SameStanding time responder := ⟨rfl, rfl, id, .inl rfl⟩
  cases command with
  | queryDeviceIdentifiers =>
      show Informs time responder request (responder.answerIdentifiers device request state)
      unfold answerIdentifiers
      split
      · exact informs_respondWith _ _ _ aside _
      · exact informs_refused ..
  | getFirmwareParameters =>
      show Informs time responder request (responder.answerParameters device request state)
      unfold answerParameters
      split
      · exact informs_respondWith _ _ _ aside _
      · exact informs_refused ..
  | getDeviceMetaData => exact answerMetadata_informs _ _ clock _
  | getStatus =>
      show Informs time responder request (responder.answerStatus request state)
      unfold answerStatus
      split
      · exact informs_respondWith _ _ _ aside _
      · exact informs_refused ..
  | _ => cases inquiry

end Inquiry

end Responder

/-! ## What every exchange preserves -/

/-- Neither side knows of a failure, or both do. -/
def Session.SharesFailure (session : Session) (exchange : Exchange) : Prop :=
  exchange = .ready ∧ session.componentFailed = false ∨
    ∃ code, exchange = .failed code ∧ session.componentFailed = true

/-- The phase of a device in which a session expects it to be. -/
inductive Alike (session : Session) : DevicePhase → Prop where
  | idle (state : session.state = .idle) (fresh : session.passed = 0)
      (whole : session.componentFailed = false) {reason : IdleReason} :
      Alike session (.idle reason)
  | refused (state : session.state = .aborted) (whole : session.componentFailed = false)
      {reason : IdleReason} : Alike session (.idle reason)
  | deserted (state : session.state = .aborted) (whole : session.componentFailed = false)
      {pull : Option PackagePull} (ready : ∀ part ∈ pull, part.exchange = .ready)
      {passed : Bool} : Alike session (.learnComponents pull passed)
  | learnComponents (state : session.state = .learnComponents)
      (whole : session.componentFailed = false)
      (some : session.passed < session.plan.components.length)
      {pull : Option PackagePull} (ready : ∀ part ∈ pull, part.exchange = .ready) :
      Alike session (.learnComponents pull (decide (0 < session.passed)))
  | readyXfer (state : session.state = .readyXfer) (whole : session.componentFailed = false) :
      Alike session .readyXfer
  | download (state : session.state = .download) {component : ComponentImage}
      (current : session.currentComponent? = some component) {offset : Nat}
      (within : offset ≤ component.image.length) {result : Option TransferResult}
      {exchange : Exchange} (shared : session.SharesFailure exchange) {options : UInt32} :
      Alike session (.download offset result exchange options component.details)
  | verify (state : session.state = .verify) {component : ComponentImage}
      (current : session.currentComponent? = some component)
      {exchange : Exchange} (shared : session.SharesFailure exchange) :
      Alike session (.verify exchange component.details)
  | apply (state : session.state = .apply) {component : ComponentImage}
      (current : session.currentComponent? = some component)
      {exchange : Exchange} (shared : session.SharesFailure exchange) :
      Alike session (.apply exchange component.details)

/-- A session and the responder that it updates, between two exchanges. -/
structure Synced (agent : EndpointId) (time : Nat) (pair : Pair σ) : Prop where
  sound : pair.session.plan.Sound
  sessionFits : FitsInstance pair.session.nextIid
  responderFits : FitsInstance pair.responder.nextIid
  owned : pair.responder.owner = if pair.responder.state = .idle then none else some agent
  recent : pair.responder.state ≠ .idle → pair.responder.lastActivity = time
  alike : Alike pair.session pair.responder.phase

namespace Alike

variable {session : Session} {phase : DevicePhase}

/-- An idle session has announced nothing, and its device is idle. -/
theorem of_idle (alike : Alike session phase) (state : session.state = .idle) :
    session.passed = 0 ∧ session.componentFailed = false ∧ ∃ reason, phase = .idle reason := by
  cases alike with
  | idle _ fresh whole => exact ⟨fresh, whole, _, rfl⟩
  | _ other => simp [state] at other

/-- A session that learns components has a device that does, and no request of the device awaits its
reply. -/
theorem of_learnComponents (alike : Alike session phase)
    (state : session.state = .learnComponents) :
    session.componentFailed = false ∧ session.passed < session.plan.components.length ∧
      ∃ pull, phase = .learnComponents pull (decide (0 < session.passed)) ∧
        ∀ part ∈ pull, part.exchange = .ready := by
  cases alike with
  | learnComponents _ whole some ready => exact ⟨whole, some, _, rfl, ready⟩
  | _ other => simp [state] at other

/-- A session between two components has a device between two components. -/
theorem of_readyXfer (alike : Alike session phase) (state : session.state = .readyXfer) :
    session.componentFailed = false ∧ phase = .readyXfer := by
  cases alike with
  | readyXfer _ whole => exact ⟨whole, rfl⟩
  | _ other => simp [state] at other

/-- A session that updates a component has a device that receives that component. -/
theorem of_updating (alike : Alike session phase) (state : session.state.isUpdating = true) :
    ∃ component, session.currentComponent? = some component ∧
      phase.details? = some component.details := by
  cases alike with
  | download _ current | verify _ current | apply _ current => exact ⟨_, current, rfl⟩
  | _ other => simp [other, AgentState.isUpdating] at state

/-- A session that is neither idle nor aborted updates a device that is not idle either. -/
theorem of_running (alike : Alike session phase)
    (running : Session.allows session.state .cancelUpdate = true) :
    phase.state ≠ .idle ∧ phase.state ≠ .activate := by
  cases alike with
  | idle state | refused state | deserted state => simp [state, Session.allows] at running
  | _ => exact ⟨nofun, nofun⟩

/-- The phase is expected for what it is and not for how the session has come there. -/
theorem congr {after : Session} (alike : Alike session phase) (state : after.state = session.state)
    (passed : after.passed = session.passed) (current : after.current = session.current)
    (failed : after.componentFailed = session.componentFailed) (plan : after.plan = session.plan) :
    Alike after phase := by
  have component : after.currentComponent? = session.currentComponent? := by
    unfold Session.currentComponent?
    rw [current, plan]
  have shares (exchange : Exchange) (shared : session.SharesFailure exchange) :
      after.SharesFailure exchange := by
    unfold Session.SharesFailure at shared ⊢
    rwa [failed]
  cases alike with
  | idle before fresh whole =>
      exact .idle (state.trans before) (passed.trans fresh) (failed.trans whole)
  | refused before whole => exact .refused (state.trans before) (failed.trans whole)
  | deserted before whole ready => exact .deserted (state.trans before) (failed.trans whole) ready
  | learnComponents before whole some ready =>
      rw [← passed]
      exact .learnComponents (state.trans before) (failed.trans whole)
        (by rw [passed, plan]; exact some) ready
  | readyXfer before whole => exact .readyXfer (state.trans before) (failed.trans whole)
  | download before current within shared =>
      exact .download (state.trans before) (component.trans current) within (shares _ shared)
  | verify before current shared =>
      exact .verify (state.trans before) (component.trans current) (shares _ shared)
  | apply before current shared =>
      exact .apply (state.trans before) (component.trans current) (shares _ shared)

end Alike

namespace Synced

variable {device : Device σ} {agent : EndpointId} {time : Nat} {pair : Pair σ}

/-- What the two sides know of failures is the same. -/
theorem failed_iff (synced : Synced agent time pair) :
    pair.session.componentFailed = true ↔ pair.responder.phase.hasFailed = true := by
  have alike := synced.alike
  have unfailed {pull : Option PackagePull} (ready : ∀ part ∈ pull, part.exchange = .ready)
      (passed : Bool) : (DevicePhase.learnComponents pull passed).hasFailed = false := by
    cases pull with
    | none => rfl
    | some part => simp [DevicePhase.hasFailed, DevicePhase.exchange?, ready part rfl]
  generalize pair.responder.phase = phase at alike
  cases alike with
  | idle _ _ whole | refused _ whole | readyXfer _ whole =>
      simp [whole, DevicePhase.hasFailed, DevicePhase.exchange?]
  | deserted _ whole ready | learnComponents _ whole _ ready =>
      simp [whole, unfailed ready]
  | download _ _ _ shared | verify _ _ shared | apply _ _ shared =>
      rcases shared with ⟨rfl, whole⟩ | ⟨code, rfl, failed⟩
      · simp [whole, DevicePhase.hasFailed, DevicePhase.exchange?]
      · simp [failed, DevicePhase.hasFailed, DevicePhase.exchange?]

/-- Sides that are in step agree. -/
theorem agrees (synced : Synced agent time pair) : pair.Agrees := by
  have alike := synced.alike
  refine ⟨fun running mine theirs named => ?_, fun aborted => ?_, fun idle => ?_,
    fun updating => alike.of_updating updating, synced.failed_iff⟩
  · unfold Responder.state
    generalize pair.responder.phase = phase at alike
    cases alike with
    | refused state | deserted state => exact absurd state running
    | idle state | learnComponents state | readyXfer state | download state | verify state
    | apply state =>
        rw [state]
        cases mine <;> cases named <;> simp [DevicePhase.state]
  · unfold Responder.state
    generalize pair.responder.phase = phase at alike
    cases alike with
    | refused => exact .inl rfl
    | deserted => exact .inr rfl
    | _ other => simp [aborted] at other
  · obtain ⟨-, -, reason, phase⟩ := alike.of_idle idle
    rw [Responder.state, phase]
    rfl

/-- The two sides begin in step. -/
theorem of_start {settings : AgentSettings} {plan : UpdatePlan} {session : Session}
    (started : Session.start settings plan = .ok session) (state : σ) :
    Synced agent time ({ session, responder := {}, state } : Pair σ) := by
  obtain ⟨sound, -, rfl⟩ := Session.sound_of_start started
  exact ⟨sound, fitsInstance_zero, fitsInstance_zero, rfl, fun running => absurd rfl running,
    .idle rfl rfl rfl⟩

/-- The agent of a pair in step is no stranger to the device. -/
theorem home (synced : Synced agent time pair) : pair.responder.isForeign agent = false := by
  unfold Responder.isForeign
  rw [synced.owned]
  split <;> simp

/-- The agent of a pair in step owns the update that runs. -/
theorem owner (synced : Synced agent time pair) (running : pair.responder.state ≠ .idle) :
    pair.responder.owner = some agent := by
  rw [synced.owned, if_neg running]

/-- An exchange after which both sides are where they were. -/
theorem aside (synced : Synced agent time pair) {after : Pair σ}
    (session : Session.SameStanding pair.session after.session)
    (responder : Responder.SameStanding time pair.responder after.responder) :
    Synced agent time after := by
  obtain ⟨state, passed, current, failed, plan, sessionFits⟩ := session
  obtain ⟨phase, owner, responderFits, recent⟩ := responder
  have same : after.responder.state = pair.responder.state := congrArg DevicePhase.state phase
  refine ⟨plan ▸ synced.sound, sessionFits synced.sessionFits, responderFits synced.responderFits,
    by rw [same, owner, synced.owned], fun running => ?_, ?_⟩
  · rcases recent with untouched | heard
    · rw [untouched]
      exact synced.recent (same ▸ running)
    · exact heard
  · rw [phase]
    exact synced.alike.congr state passed current failed plan

/-- An inquiry keeps a pair in step. -/
theorem issue_inquiry (synced : Synced agent time pair)
    (clock : ∀ state, (device.now state).1 = time) {command : AgentCommand} {body : List UInt8}
    (allowed : Session.allows pair.session.state command = true)
    (written : pair.session.requestBody command = .ok body) (inquiry : command.isInquiry = true) :
    Synced agent time (pair.issue device agent command) := by
  obtain ⟨⟨cc, data, gives⟩, responder⟩ := pair.responder.answerCommand_informs
    (pair.session.request command body) clock agent pair.state inquiry
  rw [Pair.issue_eq allowed written synced.sessionFits synced.home rfl gives]
  exact synced.aside (pair.session.processMatching_sameStanding inquiry _) responder

/-- A pair is in step when the device has accepted the update. -/
theorem accepted (synced : Synced agent time pair) (clock : ∀ state, (device.now state).1 = time)
    (fresh : pair.session.passed = 0) (whole : pair.session.componentFailed = false) (state : σ) :
    Synced agent time (pair.accepted device agent state) := by
  have ready : ∀ part ∈ pair.session.plan.pull? (device.wantsPackageData state),
      part.exchange = .ready := by
    unfold UpdatePlan.pull?
    split <;> simp
  have some : 0 < pair.session.plan.components.length :=
    List.length_pos_iff.mpr synced.sound.sizes.1
  unfold Pair.accepted Session.beginUpdate
  dsimp only
  split
  · exact synced.aside ⟨rfl, rfl, rfl, rfl, rfl, fun _ => fitsInstance_nextInstance _⟩
      ⟨rfl, rfl, id, .inl rfl⟩
  · split
    · refine ⟨synced.sound, fitsInstance_nextInstance _, synced.responderFits, rfl,
        fun _ => clock _, .deserted ?_ ?_ ready⟩
      · rfl
      · exact whole
    · refine ⟨synced.sound, fitsInstance_nextInstance _, synced.responderFits, rfl,
        fun _ => clock _, ?_⟩
      have begun : false = decide (0 < pair.session.passed) := by simp [fresh]
      dsimp only [Responder.enter]
      rw [begun]
      refine .learnComponents ?_ ?_ ?_ ready
      · rfl
      · exact whole
      · exact fresh ▸ some

/-- A request for an update keeps a pair in step, whatever the device answers. -/
theorem issue_requestUpdate (synced : Synced agent time pair)
    (clock : ∀ state, (device.now state).1 = time) (idle : pair.session.state = .idle) :
    Synced agent time (pair.issue device agent .requestUpdate) := by
  obtain ⟨fresh, whole, reason, phase⟩ := synced.alike.of_idle idle
  rw [Pair.issue_requestUpdate synced.sound synced.sessionFits synced.home idle phase]
  have numbered : pair.session.SameStanding (pair.session.answered BaseCode.error) :=
    ⟨rfl, rfl, rfl, rfl, rfl, fun _ => fitsInstance_nextInstance _⟩
  have aside : pair.responder.SameStanding time pair.responder := ⟨rfl, rfl, id, .inl rfl⟩
  dsimp only
  split
  · exact synced.aside numbered aside
  · refine ⟨synced.sound, fitsInstance_nextInstance _, synced.responderFits, synced.owned,
      synced.recent, ?_⟩
    dsimp only
    rw [phase]
    refine .refused ?_ ?_
    · rfl
    · exact whole
  · exact synced.accepted clock fresh whole _

/-- The announcement of a component keeps a pair in step. -/
theorem issue_passComponentTable (synced : Synced agent time pair)
    (clock : ∀ state, (device.now state).1 = time)
    (learning : pair.session.state = .learnComponents) :
    Synced agent time (pair.issue device agent .passComponentTable) := by
  obtain ⟨whole, some, pull, phase, ready⟩ := synced.alike.of_learnComponents learning
  have running := Responder.running_of_phase phase rfl
  have owner := synced.owner running
  rw [Pair.issue_passComponentTable synced.sound synced.sessionFits synced.home learning phase
    (List.getElem?_eq_getElem some)]
  dsimp only
  by_cases last : pair.session.plan.components.length = pair.session.passed + 1
  · rw [if_pos last]
    refine ⟨synced.sound, fitsInstance_nextInstance _, synced.responderFits, owner,
      fun _ => clock _, .readyXfer ?_ ?_⟩
    · exact if_pos last.symm
    · exact whole
  · rw [if_neg last]
    refine ⟨synced.sound, fitsInstance_nextInstance _, synced.responderFits, owner,
      fun _ => clock _, ?_⟩
    have begun : true = decide (0 < pair.session.passed + 1) := by simp
    dsimp only
    rw [begun]
    refine .learnComponents ?_ ?_ ?_ ready
    · exact (if_neg fun full => last full.symm).trans learning
    · exact whole
    · show pair.session.passed + 1 < pair.session.plan.components.length
      omega

/-- A request to update a component keeps a pair in step. -/
theorem issue_updateComponent (synced : Synced agent time pair)
    (clock : ∀ state, (device.now state).1 = time) (readyXfer : pair.session.state = .readyXfer)
    {index : Nat} {component : ComponentImage} (next : pair.session.nextComponent? = some index)
    (listed : pair.session.plan.components[index]? = some component) :
    Synced agent time (pair.issue device agent .updateComponent) := by
  obtain ⟨whole, phase⟩ := synced.alike.of_readyXfer readyXfer
  have running := Responder.running_of_phase phase rfl
  have owner := synced.owner running
  rw [Pair.issue_updateComponent synced.sound synced.sessionFits synced.home readyXfer phase next
    listed]
  dsimp only
  split
  · refine ⟨synced.sound, fitsInstance_nextInstance _, synced.responderFits, owner,
      fun _ => clock _, .download ?_ ?_ (Nat.zero_le _) ?_⟩
    · rfl
    · exact listed
    · exact .inl ⟨rfl, rfl⟩
  · refine ⟨synced.sound, fitsInstance_nextInstance _, synced.responderFits,
      synced.owned, fun _ => clock _, ?_⟩
    exact synced.alike.congr rfl rfl rfl rfl rfl

/-- A component that is given up is given up by both. -/
theorem issue_cancelUpdateComponent (synced : Synced agent time pair)
    (updating : Session.allows pair.session.state .cancelUpdateComponent = true) :
    Synced agent time (pair.issue device agent .cancelUpdateComponent) := by
  obtain ⟨component, -, phase⟩ := synced.alike.of_updating updating
  have running : pair.responder.state ≠ .idle := by
    intro idle
    cases current : pair.responder.phase with
    | idle reason =>
        rw [current] at phase
        cases phase
    | _ =>
        rw [Responder.state, current] at idle
        cases idle
  have owner := synced.owner running
  rw [Pair.issue_cancelUpdateComponent synced.sessionFits synced.home updating phase]
  refine ⟨synced.sound, fitsInstance_nextInstance _, synced.responderFits, owner,
    fun _ => synced.recent running, .readyXfer ?_ ?_⟩ <;> rfl

/-- An update that is given up is given up by both. -/
theorem issue_cancelUpdate (synced : Synced agent time pair)
    (running : Session.allows pair.session.state .cancelUpdate = true) :
    Synced agent time (pair.issue device agent .cancelUpdate) := by
  rw [Pair.issue_cancelUpdate synced.sessionFits synced.home running
    (synced.alike.of_running running)]
  refine ⟨synced.sound, fitsInstance_nextInstance _, synced.responderFits, rfl,
    fun running => absurd rfl running, .idle ?_ ?_ ?_⟩ <;> rfl

/-- A command that is answered keeps the two sides in step, if it does not end the update. -/
theorem issue (synced : Synced agent time pair) (clock : ∀ state, (device.now state).1 = time)
    {command : AgentCommand} (early : command = .activateFirmware →
      (pair.session.issue .activateFirmware).1.isOk = false) :
    Synced agent time (pair.issue device agent command) := by
  rcases pair.issue_cases device agent command with ⟨code, refused⟩ | ⟨body, allowed, written⟩
  · rw [refused]
    exact synced.aside ⟨rfl, rfl, rfl, rfl, rfl, id⟩ ⟨rfl, rfl, id, .inl rfl⟩
  · cases command with
    | queryDeviceIdentifiers | getFirmwareParameters | getDeviceMetaData | getStatus =>
        exact synced.issue_inquiry clock allowed written rfl
    | requestUpdate =>
        exact synced.issue_requestUpdate clock (by simpa [Session.allows] using allowed)
    | passComponentTable =>
        exact synced.issue_passComponentTable clock (by simpa [Session.allows] using allowed)
    | updateComponent =>
        have ready : pair.session.state = .readyXfer := by simpa [Session.allows] using allowed
        cases found : pair.session.nextComponent?.bind fun index =>
            pair.session.plan.components[index]? with
        | none => simp [Session.requestBody, found] at written
        | some component =>
            obtain ⟨index, next, listed⟩ := Option.bind_eq_some_iff.mp found
            exact synced.issue_updateComponent clock ready next listed
    | activateFirmware =>
        rw [Session.issue_eq allowed written] at early
        cases early rfl
    | cancelUpdateComponent => exact synced.issue_cancelUpdateComponent allowed
    | cancelUpdate => exact synced.issue_cancelUpdate allowed

/-- Every command but the last one keeps a pair in step. -/
theorem issue_other (synced : Synced agent time pair)
    (clock : ∀ state, (device.now state).1 = time) {command : AgentCommand}
    (other : command ≠ .activateFirmware) : Synced agent time (pair.issue device agent command) :=
  synced.issue clock fun same => absurd same other

/-- The device has heard of its agent at the only time that there is. -/
theorem inTouch (synced : Synced agent time pair) (clock : ∀ state, (device.now state).1 = time)
    (running : pair.responder.state ≠ .idle) : pair.InTouch device agent where
  owner := synced.owner running
  fits := synced.responderFits
  recent := by
    rw [clock, synced.recent running, Nat.sub_self]
    exact Nat.zero_le _

/-- A device that asks for nothing leaves everything as it is. -/
theorem poll_quiet (synced : Synced agent time pair) {state : σ}
    (quiet : pair.responder.progress device pair.state = (none, pair.responder, state)) :
    Synced agent time (pair.poll device agent) := by
  rw [Pair.poll_of_quiet quiet]
  exact synced.aside ⟨rfl, rfl, rfl, rfl, rfl, id⟩ ⟨rfl, rfl, id, .inl rfl⟩

/-- A device has nothing to ask for while it waits for its agent. -/
theorem poll_waiting (synced : Synced agent time pair)
    (clock : ∀ state, (device.now state).1 = time) (running : pair.responder.state ≠ .idle)
    (quiet : pair.responder.progressPhase device (device.now pair.state).2 =
      (none, pair.responder, (device.now pair.state).2)) :
    Synced agent time (pair.poll device agent) :=
  synced.poll_quiet
    ((Responder.progress_of_recent running (synced.inTouch clock running).recent).trans quiet)

/-- An exchange of package data, after which the session is where it was. -/
theorem learning (synced : Synced agent time pair) {after : Pair σ} {asking : Responder}
    {passed : Bool} (session : Session.SameStanding pair.session after.session)
    (responder : asking.KeepsLearning time passed after.responder)
    (owned : asking.owner = some agent) (fits : FitsInstance asking.nextIid)
    (recent : asking.lastActivity = time)
    (learns : ∀ {next : Option PackagePull}, (∀ part ∈ next, part.exchange = .ready) →
      Alike pair.session (.learnComponents next passed)) :
    Synced agent time after := by
  obtain ⟨state, announced, current, failed, plan, sessionFits⟩ := session
  obtain ⟨⟨next, phase, unsent⟩, owner, numbered, heard⟩ := responder
  have running := Responder.running_of_phase phase rfl
  refine ⟨plan ▸ synced.sound, sessionFits synced.sessionFits, numbered ▸ fits,
    by rw [if_neg running, owner, owned], fun _ => ?_, ?_⟩
  · rcases heard with same | heard
    · exact same.trans recent
    · exact heard
  · rw [phase]
    exact (learns unsent).congr state announced current failed plan

/-- A request for package data, or the end of the pull, keeps a pair in step. -/
theorem poll_pull (synced : Synced agent time pair) (clock : ∀ state, (device.now state).1 = time)
    {pull : PackagePull} {passed : Bool}
    (phase : pair.responder.phase = .learnComponents (some pull) passed)
    (ready : pull.exchange = .ready)
    (learns : ∀ {next : Option PackagePull}, (∀ part ∈ next, part.exchange = .ready) →
      Alike pair.session (.learnComponents next passed)) :
    Synced agent time (pair.poll device agent) := by
  have running := Responder.running_of_phase phase rfl
  have inTouch := synced.inTouch clock running
  obtain ⟨body, -, polled⟩ := Pair.poll_getPackageData inTouch phase (by rw [ready]; rfl)
  have standing := pair.session.serve_sameStanding pair.responder body
  cases served : pair.session.serve (pair.responder.newRequest .getPackageData body).1 with
  | mk answer session =>
      rw [served] at standing
      rw [polled served]
      exact synced.learning standing (Responder.takePart_keepsLearning clock rfl _ _ _ _)
        inTouch.owner (fitsInstance_nextInstance _) (synced.recent running) learns

/-- A piece of an image, or the report that all have come, keeps a pair in step. -/
theorem poll_download (synced : Synced agent time pair)
    (clock : ∀ state, (device.now state).1 = time) {offset : Nat} {result : Option TransferResult}
    {options : UInt32} {component : ComponentImage}
    (phase : pair.responder.phase = .download offset result .ready options component.details)
    (receiving : pair.session.state = .download)
    (whole : pair.session.componentFailed = false)
    (current : pair.session.currentComponent? = some component)
    (within : offset ≤ component.image.length) :
    Synced agent time (pair.poll device agent) := by
  have running := Responder.running_of_phase phase rfl
  have inTouch := synced.inTouch clock running
  cases result with
  | some result =>
      rw [Pair.poll_transferComplete inTouch phase receiving whole]
      dsimp only
      split
      · refine ⟨synced.sound, synced.sessionFits, fitsInstance_nextInstance _, inTouch.owner,
          fun _ => synced.recent running, .verify ?_ ?_ (.inl ⟨rfl, whole⟩)⟩
        · rfl
        · exact current
      · refine ⟨synced.sound, synced.sessionFits, fitsInstance_nextInstance _, inTouch.owner,
          fun _ => synced.recent running, .download ?_ ?_ within (.inr ⟨_, rfl, ?_⟩)⟩
        · exact receiving
        · exact current
        · rfl
  | none =>
      have small : component.image.length < 2 ^ 32 := by
        obtain ⟨index, -, listed⟩ := Option.bind_eq_some_iff.mp current
        exact (synced.sound.component (List.mem_of_getElem? listed)).1
      rw [Pair.poll_requestFirmwareData inTouch phase receiving whole current small within]
      dsimp only
      split
      · rename_i piece served
        have length := Session.length_of_piece served
        have asked : pair.responder.requestSize offset component.details ≤
            component.image.length - offset := by
          simp only [Responder.requestSize, ComponentImage.details]
          omega
        unfold Responder.afterData
        split
        · refine ⟨synced.sound, synced.sessionFits, fitsInstance_nextInstance _, inTouch.owner,
            fun _ => clock _, .download ?_ ?_ ?_ (.inl ⟨rfl, ?_⟩)⟩
          · exact receiving
          · exact current
          · omega
          · exact whole
        · refine ⟨synced.sound, synced.sessionFits, fitsInstance_nextInstance _, inTouch.owner,
            fun _ => clock _, .download ?_ ?_ within (.inl ⟨rfl, ?_⟩)⟩
          · exact receiving
          · exact current
          · exact whole
      · refine ⟨synced.sound, synced.sessionFits, fitsInstance_nextInstance _, inTouch.owner,
          fun _ => clock _, .download ?_ ?_ within (.inl ⟨rfl, ?_⟩)⟩
        · exact receiving
        · exact current
        · exact whole

/-- The report on a check keeps a pair in step. -/
theorem poll_verify (synced : Synced agent time pair)
    (clock : ∀ state, (device.now state).1 = time) {component : ComponentImage}
    (phase : pair.responder.phase = .verify .ready component.details)
    (checking : pair.session.state = .verify)
    (whole : pair.session.componentFailed = false)
    (current : pair.session.currentComponent? = some component) :
    Synced agent time (pair.poll device agent) := by
  have running := Responder.running_of_phase phase rfl
  have inTouch := synced.inTouch clock running
  rw [Pair.poll_verifyComplete inTouch phase checking whole]
  dsimp only
  split
  · refine ⟨synced.sound, synced.sessionFits, fitsInstance_nextInstance _, inTouch.owner,
      fun _ => synced.recent running, .apply ?_ ?_ (.inl ⟨rfl, whole⟩)⟩
    · rfl
    · exact current
  · refine ⟨synced.sound, synced.sessionFits, fitsInstance_nextInstance _, inTouch.owner,
      fun _ => synced.recent running, .verify ?_ ?_ (.inr ⟨_, rfl, ?_⟩)⟩
    · exact checking
    · exact current
    · rfl

/-- The report that an image is in its place, or is not, keeps a pair in step. -/
theorem poll_apply (synced : Synced agent time pair)
    (clock : ∀ state, (device.now state).1 = time) {component : ComponentImage}
    (phase : pair.responder.phase = .apply .ready component.details)
    (applying : pair.session.state = .apply)
    (whole : pair.session.componentFailed = false)
    (current : pair.session.currentComponent? = some component) :
    Synced agent time (pair.poll device agent) := by
  have running := Responder.running_of_phase phase rfl
  have inTouch := synced.inTouch clock running
  rw [Pair.poll_applyComplete inTouch phase applying whole]
  dsimp only
  split
  · refine ⟨synced.sound, synced.sessionFits, fitsInstance_nextInstance _, inTouch.owner,
      fun _ => synced.recent running, .readyXfer ?_ ?_⟩
    · rfl
    · exact whole
  · refine ⟨synced.sound, synced.sessionFits, fitsInstance_nextInstance _, inTouch.owner,
      fun _ => synced.recent running, .apply ?_ ?_ (.inr ⟨_, rfl, ?_⟩)⟩
    · exact applying
    · exact current
    · rfl

/-- A request of the device keeps the two sides in step. -/
theorem poll (synced : Synced agent time pair) (clock : ∀ state, (device.now state).1 = time) :
    Synced agent time (pair.poll device agent) := by
  have alike := synced.alike
  have quiet {phase : DevicePhase} (now : pair.responder.phase = phase)
      (running : (phase.state == .idle) = false) :=
    synced.poll_waiting clock (Responder.running_of_phase now running)
  generalize phase : pair.responder.phase = current at alike
  cases alike with
  | idle | refused =>
      have nothing : pair.responder.progress device pair.state =
          (none, pair.responder, pair.state) := by
        rw [Responder.progress, phase]
      exact synced.poll_quiet nothing
  | @deserted state whole pull ready =>
      cases pull with
      | none => exact quiet phase rfl (by rw [Responder.progressPhase, phase])
      | some part =>
          exact synced.poll_pull clock phase (ready part rfl) fun unsent =>
            .deserted state whole unsent
  | @learnComponents state whole announced pull ready =>
      cases pull with
      | none => exact quiet phase rfl (by rw [Responder.progressPhase, phase])
      | some part =>
          exact synced.poll_pull clock phase (ready part rfl) fun unsent =>
            .learnComponents state whole announced unsent
  | readyXfer => exact quiet phase rfl (by rw [Responder.progressPhase, phase])
  | @download state component current offset within result exchange shared options =>
      rcases shared with ⟨rfl, whole⟩ | ⟨code, rfl, failed⟩
      · exact synced.poll_download clock phase state whole current within
      · exact quiet phase rfl (by rw [Responder.progressPhase, phase]; rfl)
  | verify state current shared =>
      rcases shared with ⟨rfl, whole⟩ | ⟨code, rfl, failed⟩
      · exact synced.poll_verify clock phase state whole current
      · exact quiet phase rfl (by rw [Responder.progressPhase, phase]; rfl)
  | apply state current shared =>
      rcases shared with ⟨rfl, whole⟩ | ⟨code, rfl, failed⟩
      · exact synced.poll_apply clock phase state whole current
      · exact quiet phase rfl (by rw [Responder.progressPhase, phase]; rfl)

end Synced

/-! ## Runs -/

/-- The pairs that an update can reach, exchange by exchange, before the device has answered
a request to activate. -/
inductive Pair.Reaches (device : Device σ) (agent : EndpointId) (first : Pair σ) :
    Pair σ → Prop where
  | first : Reaches device agent first first
  /-- The caller chooses any command. One that the session does not issue is not answered. -/
  | issue {pair : Pair σ} (before : Reaches device agent first pair) (command : AgentCommand)
      (early : command = .activateFirmware →
        (pair.session.issue .activateFirmware).1.isOk = false) :
      Reaches device agent first (pair.issue device agent command)
  | poll {pair : Pair σ} (before : Reaches device agent first pair) :
      Reaches device agent first (pair.poll device agent)

/-- The two sides are in step in every pair that is reached. -/
theorem Pair.Reaches.synced {device : Device σ} {agent : EndpointId} {time : Nat}
    (clock : ∀ state, (device.now state).1 = time) {first pair : Pair σ}
    (begins : Synced agent time first) (reaches : Reaches device agent first pair) :
    Synced agent time pair := by
  induction reaches with
  | first => exact begins
  | issue before command early ih => exact ih.issue clock early
  | poll before ih => exact ih.poll clock

/-- Session and responder agree on where the update is, in every pair that is reached. -/
theorem sides_agree_until_activation {device : Device σ} {time : Nat}
    (clock : ∀ state, (device.now state).1 = time) {settings : AgentSettings} {plan : UpdatePlan}
    {session : Session} (started : Session.start settings plan = .ok session) {agent : EndpointId}
    {state : σ} {pair : Pair σ}
    (reaches : Pair.Reaches device agent { session, responder := {}, state } pair) :
    pair.Agrees :=
  (reaches.synced clock (Synced.of_start started state)).agrees

/-! ## An image that is not intact -/

namespace SpoiledImage

/-- The one component of the device. -/
def key : ComponentKey := { classification := .firmware, identifier := 7, index := 1 }

/-- A plan with an image of two bytes for it. -/
def plan : UpdatePlan :=
  { version := .raw [], components := [{ key, version := .raw [], image := [1, 2] }] }

/-- A device that takes the image and does not find it intact. -/
def device : Device Unit where
  identifiers _ := ({}, ())
  components _ := [{ key }]
  activeVersion _ := .raw []
  updateComponent _ _ _ := (0, ())
  firmwareData _ _ _ _ := (.success, ())
  verify _ _ := (.failedSecurityChecks, ())
  apply _ _ := (.ok .empty, ())
  now _ := (0, ())

/-- The two sides as they begin. -/
def first : Pair Unit where
  session := { settings := {}, plan, outcomes := Session.freshOutcomes plan }
  responder := {}
  state := ()

/-- The two sides when the component begins. -/
def begun : Pair Unit :=
  ((first.issue device ⟨8⟩ .requestUpdate).issue device ⟨8⟩ .passComponentTable).issue device ⟨8⟩
    .updateComponent

/-- The two sides when the device has reported on the image. -/
def failed : Pair Unit := ((begun.poll device ⟨8⟩).poll device ⟨8⟩).poll device ⟨8⟩

/-- The pair is reached by exchanges. -/
theorem reached : Pair.Reaches device ⟨8⟩ first failed :=
  .poll (.poll (.poll (.issue (.issue (.issue .first .requestUpdate nofun)
    .passComponentTable nofun) .updateComponent nofun)))

end SpoiledImage

/-- A device that does not find the image intact and the session that has heard of it agree. -/
theorem spoiled_image_known_to_both :
    SpoiledImage.failed.session.state = .verify ∧
      SpoiledImage.failed.session.componentFailed = true ∧ SpoiledImage.failed.Agrees :=
  ⟨rfl, rfl, sides_agree_until_activation (fun _ => rfl)
    (rfl : Session.start {} SpoiledImage.plan = .ok SpoiledImage.first.session)
    SpoiledImage.reached⟩

end FirmwareUpdate
