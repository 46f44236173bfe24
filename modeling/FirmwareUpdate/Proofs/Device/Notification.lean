import Mathlib.Data.List.Induction
import FirmwareUpdate.Proofs.Device.ImageStep

/-!
# What a device reports about a component

From the beginning of a component to its end a device asks for firmware data, and then reports
the results of the transfer, of the verification and of the application, each of them once and
only after a success in the one before. When it has reported a failure it says nothing more and
waits for the agent to cancel.
-/

namespace FirmwareUpdate

open Wire

/-! ## Notifications -/

/-- The message is a request for this command. -/
def AsksFor (message : List UInt8) (command : Command) : Prop :=
  ∃ request, Request.parse message = .ok request ∧ request.IsFor command

/-- The message reports a result with this code. -/
def Reports (message : List UInt8) (command : Command) (code : UInt8) : Prop :=
  ∃ request, Request.parse message = .ok request ∧ request.IsFor command ∧
    request.data.head? = some code

/-- What can have been reported about a component, in this order, and the code of the failure if
the last of it is one. -/
inductive Notifications : List (List UInt8) → Option UInt8 → Prop where
  | nothing : Notifications [] none
  | transferFailed {message : List UInt8} {result : TransferResult} (failure : result ≠ .success)
      (transfer : Reports message .transferComplete (Coded.code result)) :
      Notifications [message] (some (Coded.code result))
  | transferred {message : List UInt8}
      (transfer : Reports message .transferComplete (Coded.code TransferResult.success)) :
      Notifications [message] none
  | verifyFailed {first message : List UInt8} {result : VerifyResult} (failure : result ≠ .success)
      (transfer : Reports first .transferComplete (Coded.code TransferResult.success))
      (verification : Reports message .verifyComplete (Coded.code result)) :
      Notifications [first, message] (some (Coded.code result))
  | verified {first message : List UInt8}
      (transfer : Reports first .transferComplete (Coded.code TransferResult.success))
      (verification : Reports message .verifyComplete (Coded.code VerifyResult.success)) :
      Notifications [first, message] none
  | applyFailed {first second message : List UInt8} {result : ApplyResult}
      (failure : result.isSuccess = false)
      (transfer : Reports first .transferComplete (Coded.code TransferResult.success))
      (verification : Reports second .verifyComplete (Coded.code VerifyResult.success))
      (application : Reports message .applyComplete (Coded.code result)) :
      Notifications [first, second, message] (some (Coded.code result))
  | applied {first second message : List UInt8} {result : ApplyResult}
      (success : result.isSuccess = true)
      (transfer : Reports first .transferComplete (Coded.code TransferResult.success))
      (verification : Reports second .verifyComplete (Coded.code VerifyResult.success))
      (application : Reports message .applyComplete (Coded.code result)) :
      Notifications [first, second, message] none

/-- The failure that has been reported in this exchange. -/
def Exchange.failure? : Exchange → Option UInt8
  | failed code => some code
  | ready | sent _ _ _ => none

namespace DevicePhase

/-- The failure that has been reported about the component. -/
def failure? : DevicePhase → Option UInt8
  | download _ _ exchange _ _ | verify exchange _ | apply exchange _ => exchange.failure?
  | idle _ | learnComponents _ _ | readyXfer | activate => none

/-- How many successes have been reported about the component. -/
def reported : DevicePhase → Nat
  | verify _ _ => 1
  | apply _ _ => 2
  | idle _ | learnComponents _ _ | readyXfer | download _ _ _ _ _ | activate => 0

/-- The component is over, or the whole update is. -/
def EndsComponent (phase : DevicePhase) : Prop := phase.state = .readyXfer ∨ phase.state = .idle

instance (phase : DevicePhase) : Decidable phase.EndsComponent :=
  inferInstanceAs (Decidable (_ ∨ _))

end DevicePhase

/-- What a reaction means for the notifications about a component: the phase before it, the
request that it makes, the phase after it. -/
inductive NotificationStep : DevicePhase → Option (List UInt8) → DevicePhase → Prop where
  | quiet {before after : DevicePhase} (updating : after.details?.isSome = true)
      (failure : after.failure? = before.failure?) (reported : after.reported = before.reported) :
      NotificationStep before none after
  | left {before after : DevicePhase} (ends : after.EndsComponent) :
      NotificationStep before none after
  | fetched {offset : Nat} {exchange : Exchange} {options : UInt32} {details : ComponentDetails}
      {message : List UInt8} {iid cmd : UInt8} {time : Nat} (unfailed : exchange.failure? = none)
      (asks : AsksFor message .requestFirmwareData) :
      NotificationStep (.download offset none exchange options details) (some message)
        (.download offset none (.sent iid cmd time) options details)
  | transferred {offset : Nat} {exchange : Exchange} {options : UInt32}
      {details : ComponentDetails} {message : List UInt8} (unfailed : exchange.failure? = none)
      (reports : Reports message .transferComplete (Coded.code TransferResult.success)) :
      NotificationStep (.download offset (some .success) exchange options details) (some message)
        (.verify .ready details)
  | transferFailed {offset : Nat} {result : TransferResult} {exchange : Exchange}
      {options : UInt32} {details : ComponentDetails} {message : List UInt8}
      (unfailed : exchange.failure? = none) (failure : result ≠ .success)
      (reports : Reports message .transferComplete (Coded.code result)) :
      NotificationStep (.download offset (some result) exchange options details) (some message)
        (.download offset (some result) (.failed (Coded.code result)) options details)
  | verified {exchange : Exchange} {details : ComponentDetails} {message : List UInt8}
      (unfailed : exchange.failure? = none)
      (reports : Reports message .verifyComplete (Coded.code VerifyResult.success)) :
      NotificationStep (.verify exchange details) (some message) (.apply .ready details)
  | verifyFailed {exchange : Exchange} {details : ComponentDetails} {message : List UInt8}
      {result : VerifyResult} (unfailed : exchange.failure? = none) (failure : result ≠ .success)
      (reports : Reports message .verifyComplete (Coded.code result)) :
      NotificationStep (.verify exchange details) (some message)
        (.verify (.failed (Coded.code result)) details)
  | applied {exchange : Exchange} {details : ComponentDetails} {message : List UInt8}
      {result : ApplyResult} (unfailed : exchange.failure? = none)
      (success : result.isSuccess = true)
      (reports : Reports message .applyComplete (Coded.code result)) :
      NotificationStep (.apply exchange details) (some message) .readyXfer
  | applyFailed {exchange : Exchange} {details : ComponentDetails} {message : List UInt8}
      {result : ApplyResult} (unfailed : exchange.failure? = none)
      (failure : result.isSuccess = false)
      (reports : Reports message .applyComplete (Coded.code result)) :
      NotificationStep (.apply exchange details) (some message)
        (.apply (.failed (Coded.code result)) details)

/-! ## One reaction -/

namespace Responder

variable {σ : Type} {responder : Responder} {device : Device σ} {state : σ}

/-- A request of the device is read as a request for its command. -/
theorem newRequest_read (responder : Responder) (command : Command) (body : List UInt8) :
    ∃ request, Request.parse (responder.newRequest command body).1.toBytes = .ok request ∧
      request.IsFor command ∧ request.data = body :=
  ⟨_, Request.parse_toBytes_masked _, ⟨fitsType_firmwareUpdate, rfl⟩, rfl⟩

/-- A body that begins with a code reports it. -/
theorem reports_newRequest (responder : Responder) (command : Command) {body : List UInt8}
    {code : UInt8} (begins : body.head? = some code) :
    Reports (responder.newRequest command body).1.toBytes command code := by
  obtain ⟨request, parsed, asks, rfl⟩ := responder.newRequest_read command body
  exact ⟨request, parsed, asks, begins⟩

/-- What is due has not failed. -/
theorem failure?_of_isDue {exchange : Exchange} {earlier later : σ}
    (due : exchange.isDue device earlier = (true, later)) : exchange.failure? = none := by
  cases exchange with
  | ready | sent => rfl
  | failed code => cases due

/-- A reaction that asks for nothing and keeps the phase of a component. -/
theorem notificationStep_refl (updating : responder.phase.details?.isSome = true) :
    NotificationStep responder.phase none responder.phase :=
  .quiet updating rfl rfl

/-- In a download a call for progress is a step in what the agent is told. -/
theorem progressDownload_notifies {offset : Nat} {result : Option TransferResult}
    {exchange : Exchange} {options : UInt32} {details : ComponentDetails}
    (phase : responder.phase = .download offset result exchange options details) :
    NotificationStep responder.phase
      (responder.progressDownload device offset result exchange options details state).1
      (responder.progressDownload device offset result exchange options details
        state).2.1.phase := by
  have stays : NotificationStep responder.phase none responder.phase :=
    notificationStep_refl (by rw [phase]; rfl)
  unfold progressDownload
  split
  · exact stays
  · rename_i due
    have unfailed := failure?_of_isDue due
    cases result with
    | some result =>
        dsimp only
        split
        · exact stays
        · rename_i body written
          have reports : Reports (responder.newRequest .transferComplete body).1.toBytes
              .transferComplete (Coded.code result) := by
            refine reports_newRequest responder _ ?_
            cases written
            rfl
          split
          · rename_i success
            subst success
            rw [phase]
            exact .transferred unfailed reports
          · rename_i failure
            rw [phase]
            exact .transferFailed unfailed failure reports
    | none =>
        dsimp only
        split
        · exact stays
        · rename_i body written
          obtain ⟨request, parsed, asks, -⟩ := responder.newRequest_read .requestFirmwareData body
          rw [phase]
          exact .fetched unfailed ⟨request, parsed, asks⟩

/-- So it is while the image is checked. -/
theorem progressVerify_notifies {exchange : Exchange} {details : ComponentDetails}
    (phase : responder.phase = .verify exchange details) :
    NotificationStep responder.phase (responder.progressVerify device exchange details state).1
      (responder.progressVerify device exchange details state).2.1.phase := by
  have stays : NotificationStep responder.phase none responder.phase :=
    notificationStep_refl (by rw [phase]; rfl)
  unfold progressVerify
  split
  · exact stays
  · rename_i later due
    have unfailed := failure?_of_isDue due
    dsimp only
    split
    · exact stays
    · rename_i body written
      have reports : Reports (responder.newRequest .verifyComplete body).1.toBytes
          .verifyComplete (Coded.code (device.verify details later).1) := by
        refine reports_newRequest responder _ ?_
        cases written
        rfl
      rw [phase]
      split
      · rename_i success
        rw [success] at reports
        exact .verified unfailed reports
      · rename_i failure
        exact .verifyFailed unfailed failure reports

/-- So it is while the image is applied. -/
theorem progressApply_notifies {exchange : Exchange} {details : ComponentDetails}
    (phase : responder.phase = .apply exchange details) :
    NotificationStep responder.phase (responder.progressApply device exchange details state).1
      (responder.progressApply device exchange details state).2.1.phase := by
  have stays : NotificationStep responder.phase none responder.phase :=
    notificationStep_refl (by rw [phase]; rfl)
  unfold progressApply
  split
  · exact stays
  · rename_i later due
    have unfailed := failure?_of_isDue due
    dsimp only
    split
    · exact stays
    · rename_i body written
      have reports : Reports (responder.newRequest .applyComplete body).1.toBytes
          .applyComplete (Coded.code (applyReport (device.apply details later).1).1) := by
        refine reports_newRequest responder _ ?_
        obtain ⟨front, rest, code, -, rfl⟩ :=
          Layout.contents_append_eq_ok_iff.mp (Layout.toMessage_eq_ok_iff.mp written).1
        cases code
        rfl
      rw [phase]
      split
      · rename_i success
        exact .applied unfailed success reports
      · rename_i failure
        exact .applyFailed unfailed (by simpa using failure) reports

/-- A call for progress while a component is updated. -/
theorem progress_notifies (updating : responder.phase.details?.isSome = true) :
    NotificationStep responder.phase (responder.progress device state).1
      (responder.progress device state).2.1.phase := by
  unfold progress
  split
  · exact notificationStep_refl updating
  · dsimp only
    split
    · exact .left (.inr rfl)
    · unfold progressPhase
      split
      · rename_i phase
        rw [phase] at updating
        cases updating
      · exact progressDownload_notifies ‹_›
      · exact progressVerify_notifies ‹_›
      · exact progressApply_notifies ‹_›
      all_goals exact notificationStep_refl updating

/-- An exchange that is answered has not failed. -/
theorem failure?_of_isAnsweredBy {exchange : Exchange} {response : Response}
    (answered : exchange.isAnsweredBy response = true) : exchange.failure? = none := by
  cases exchange with
  | ready | failed => cases answered
  | sent => rfl

/-- A reply leaves the notifications as they are, and does nothing at all after a failure. -/
theorem takeReply_quiet (updating : responder.phase.details?.isSome = true) (agent : EndpointId)
    (message : List UInt8) :
    (responder.takeReply device agent message state).2 = (responder, state) ∨
      responder.phase.failure? = none ∧
        (responder.takeReply device agent message state).2.1.phase.details?.isSome = true ∧
        (responder.takeReply device agent message state).2.1.phase.failure? = none ∧
        (responder.takeReply device agent message state).2.1.phase.reported =
          responder.phase.reported := by
  unfold takeReply
  split
  · exact .inl rfl
  · split
    · exact .inl rfl
    · rename_i response parsed
      split
      · unfold takePackageReply
        split
        · rename_i phase
          rw [phase] at updating
          cases updating
        · exact .inl rfl
      · unfold takeDataReply
        split
        · rename_i offset exchange options details phase
          split
          · rename_i answered
            have unfailed := failure?_of_isAnsweredBy answered
            refine .inr ⟨by rw [phase]; exact unfailed, ?_⟩
            rw [phase]
            unfold takeData
            dsimp only
            split
            · exact ⟨rfl, rfl, rfl⟩
            · split
              · split
                · unfold afterData
                  dsimp only
                  split <;> exact ⟨rfl, rfl, rfl⟩
                · exact ⟨rfl, unfailed, rfl⟩
              · exact ⟨rfl, rfl, rfl⟩
          · exact .inl rfl
        · exact .inl rfl
      all_goals exact .inl rfl

variable (device state) in
/-- While a component is updated, a command leaves the responder as it is, or it cancels the
component or the update with success. -/
theorem answerCommand_cancels (updating : responder.phase.details?.isSome = true)
    (agent : EndpointId) (request : Request) (command : Command) :
    (responder.answerCommand device agent request state command).2.1 = responder ∨
      (command = .cancelUpdateComponent ∨ command = .cancelUpdate) ∧
        (∃ body, (responder.answerCommand device agent request state command).1 =
          .ok (request.respond BaseCode.success body)) ∧
        (responder.answerCommand device agent request state command).2.1.phase.EndsComponent := by
  obtain ⟨details, phase⟩ := Option.isSome_iff_exists.mp updating
  cases command with
  | cancelUpdate =>
      simp only [answerCommand, answerCancel]
      split
      · exact .inl rfl
      · exact .inl rfl
      · split
        · obtain ⟨body, responds⟩ := respondWith_of_roundTrips request
            (CancelResponse.roundTrips {}) (by decide)
          exact .inr ⟨.inr trivial, ⟨body, responds⟩, .inr rfl⟩
        · exact .inl rfl
  | cancelUpdateComponent =>
      simp only [answerCommand, answerCancelComponent]
      split
      · exact .inl rfl
      · split
        · exact .inr ⟨.inl trivial, ⟨[], rfl⟩, .inl rfl⟩
        · exact .inl rfl
  | _ =>
      refine .inl ?_
      unfold answerCommand
      grind [DevicePhase.details?, answerIdentifiers, answerParameters, answerUpdate,
        answerMetadata, answerTableEntry, answerComponent, answerActivation, answerStatus]

/-- The answer to this message is that the component or the update is cancelled. -/
def Cancels (responder : Responder) (device : Device σ) (agent : EndpointId)
    (message : List UInt8) (state : σ) : Prop :=
  (AsksFor message .cancelUpdateComponent ∨ AsksFor message .cancelUpdate) ∧
    ∃ answer response, (responder.answerRequest device agent message state).1 = .ok answer ∧
      Response.parse answer = .ok response ∧ response.cc = BaseCode.success

/-- While a component is updated, a request leaves the responder as it is, or it cancels. -/
theorem answerRequest_cancels (updating : responder.phase.details?.isSome = true)
    (agent : EndpointId) (message : List UInt8) :
    (responder.answerRequest device agent message state).2.1 = responder ∨
      responder.Cancels device agent message state ∧
        (responder.answerRequest device agent message state).2.1.phase.EndsComponent := by
  cases parsed : Request.parse message with
  | error error =>
      simp only [answerRequest, parsed]
      exact .inl trivial
  | ok request =>
      have answered := answerRequest_of_parse responder device agent parsed state
      rcases responder.answer_cases device agent request state with
        ⟨cc, -, refused, -⟩ | ⟨command, asks, -, same⟩
      · rw [answered, refused]
        exact .inl rfl
      · rw [same] at answered
        rcases responder.answerCommand_cancels device state updating agent request command with
          kept | ⟨cancels, ⟨body, success⟩, ends⟩
        · rw [answered]
          exact .inl kept
        · rw [Cancels, answered, success]
          refine .inr ⟨⟨?_, _, _, rfl, Request.parse_respond parsed _ body, rfl⟩, ends⟩
          rcases cancels with rfl | rfl
          · exact .inl ⟨request, parsed, asks⟩
          · exact .inr ⟨request, parsed, asks⟩

/-- What has failed is never due. -/
theorem isDue_of_failure {exchange : Exchange} {code : UInt8}
    (failed : exchange.failure? = some code) : exchange.isDue device state = (false, state) := by
  cases exchange with
  | ready | sent => cases failed
  | failed code => rfl

variable (device state) in
/-- After a failure the device has nothing to ask. -/
theorem progress_failed {code : UInt8} (failed : responder.phase.failure? = some code) :
    (responder.progress device state).1 = none ∧
      ((responder.progress device state).2.1 = responder ∨
        silenceLimit < (device.now state).1 - responder.lastActivity) := by
  unfold progress
  split
  · exact ⟨rfl, .inl rfl⟩
  · dsimp only
    split
    · rename_i late
      exact ⟨rfl, .inr late⟩
    · cases phase : responder.phase with
      | download | verify | apply =>
          rw [phase] at failed
          simp [progressPhase, phase, progressDownload, progressVerify, progressApply,
            isDue_of_failure failed]
      | _ =>
          rw [phase] at failed
          cases failed

/-- After a failure the device reports that it has one, and which. -/
theorem status_failed {code : UInt8} (failed : responder.phase.failure? = some code) :
    responder.status.auxState = 2 ∧ responder.status.auxStatus = code := by
  have auxiliary {exchange : Exchange} (failed : exchange.failure? = some code) :
      exchange.auxiliary = (2, code) := by
    cases exchange with
    | failed code =>
        cases failed
        rfl
    | ready | sent => cases failed
  cases phase : responder.phase with
  | download | verify | apply =>
      rw [phase] at failed
      simp [status, phase, auxiliary failed]
  | _ =>
      rw [phase] at failed
      cases failed

end Responder

/-! ## Every run -/

/-- What has been reported about a component in this phase. Once the component is over, the phase
says nothing about it. -/
structure Notified (phase : DevicePhase) (reports : List (List UInt8)) (failed : Option UInt8) :
    Prop where
  order : Notifications reports failed
  stands : ¬ phase.EndsComponent → phase.details?.isSome = true ∧ phase.failure? = failed ∧
    (failed = none → reports.length = phase.reported)

namespace ResponderHistory

variable {σ : Type} (device : Device σ) {history : ResponderHistory σ}

/-- The phase of a component begins with its acceptance. -/
theorem phase_of_accepted {input : ResponderInput} {record : ComponentRecord}
    (accepted : input.accepted? (history.react device input).1 = some record) :
    ∃ options,
      (history.next device input).responder.phase = Responder.beginDownload record options := by
  cases input with
  | request agent message =>
      have step := Responder.answerRequest_imageStep history.responder device history.state agent
        message
      refine (step.begins (List.mem_append_right _ ?_)).1
      rw [show acceptedComponent? message _ = some record from accepted]
      exact List.mem_singleton.mpr rfl
  | reply | progress => cases accepted

/-- Every reaction is a step of the notifications. -/
theorem notificationStep (updating : history.responder.phase.details?.isSome = true)
    (input : ResponderInput) :
    NotificationStep history.responder.phase (history.react device input).1.request?
      (history.next device input).responder.phase := by
  cases input with
  | progress => exact Responder.progress_notifies updating
  | reply agent message =>
      rcases Responder.takeReply_quiet updating agent message with
        same | ⟨unfailed, still, failure, reported⟩
      · rw [show (history.next device (.reply agent message)).responder = history.responder from
          congrArg Prod.fst same]
        exact Responder.notificationStep_refl updating
      · exact .quiet still (failure.trans unfailed.symm) reported
  | request agent message =>
      rcases Responder.answerRequest_cancels updating agent message with same | ⟨-, ends⟩
      · rw [show (history.next device (.request agent message)).responder = history.responder from
          same]
        exact Responder.notificationStep_refl updating
      · exact .left ends

end ResponderHistory

/-- A device that has reported a failure asks for nothing, takes no notice of replies, reports the
failure as its status, and changes only if the component or the update is cancelled with success
or the agent has been silent for too long. -/
structure ResponderHistory.AwaitsCancel {σ : Type} (device : Device σ)
    (history : ResponderHistory σ) (code : UInt8) : Prop where
  silent : ∀ input, (history.react device input).1.request? = none
  unmoved : ∀ agent message,
    (history.next device (.reply agent message)).responder = history.responder
  status : ∀ agent message request, Request.parse message = .ok request →
    request.IsFor .getStatus → request.data = [] → ∃ body status,
      (history.react device (.request agent message)).1 =
        .answer (.ok (request.respond BaseCode.success body).toBytes) ∧
      decode "GetStatus" DeviceStatus.reader body = .ok status ∧
      status.auxState = 2 ∧ status.auxStatus = code
  held : ∀ input, (history.next device input).responder = history.responder ∨
    (∃ agent message, input = .request agent message ∧
      history.responder.Cancels device.recorded agent message (history.state, [])) ∨
    input = .progress ∧
      Responder.silenceLimit < (device.now history.state).1 - history.responder.lastActivity

namespace ResponderHistory

variable {σ : Type} {device : Device σ} {history : ResponderHistory σ}

/-- A device whose phase has failed waits for the agent to cancel. -/
theorem awaitsCancel {code : UInt8} (failed : history.responder.phase.failure? = some code) :
    history.AwaitsCancel device code := by
  have updating : history.responder.phase.details?.isSome = true := by
    cases phase : history.responder.phase with
    | download | verify | apply => rfl
    | _ =>
        rw [phase] at failed
        cases failed
  have progress := Responder.progress_failed device.recorded (history.state, []) failed
  refine ⟨fun input => ?_, fun agent message => ?_, fun agent message request parsed asks empty =>
    ?_, fun input => ?_⟩
  · cases input with
    | progress => exact progress.1
    | request | reply => rfl
  · rcases Responder.takeReply_quiet updating agent message with same | ⟨unfailed, -⟩
    · exact congrArg Prod.fst same
    · cases failed.symm.trans unfailed
  · obtain ⟨body, written, -, read⟩ :=
      (DeviceStatus.roundTrips history.responder.status).message (by decide) "GetStatus"
    refine ⟨body, history.responder.status, ?_, read, Responder.status_failed failed⟩
    have answered : history.responder.answer device.recorded agent request (history.state, []) =
        history.responder.answerStatus request (history.state, []) := by
      simp only [Responder.answer, asks.1, asks.2, ofCode?_code]
      rfl
    show ResponderOutput.answer (history.responder.answerRequest ..).1 = _
    rw [Responder.answerRequest_of_parse _ _ _ parsed, answered, Responder.answerStatus, empty,
      Responder.respondWith_of_written request written]
    rfl
  · cases input with
    | progress => exact progress.2.imp id fun late => .inr ⟨rfl, late⟩
    | reply agent message =>
        rcases Responder.takeReply_quiet updating agent message with same | ⟨unfailed, -⟩
        · exact .inl (congrArg Prod.fst same)
        · cases failed.symm.trans unfailed
    | request agent message =>
        rcases Responder.answerRequest_cancels updating agent message with same | ⟨cancels, -⟩
        · exact .inl same
        · exact .inr (.inl ⟨agent, message, rfl, cancels⟩)

end ResponderHistory

namespace Notified

variable {before after : DevicePhase} {asked : Option (List UInt8)}
  {reports : List (List UInt8)} {failed : Option UInt8}

/-- Where nothing has failed yet, what has been reported are the successes before this phase. -/
theorem unfailed (notified : Notified before reports failed) (within : ¬ before.EndsComponent)
    (unfailed : before.failure? = none) : Notifications reports none ∧
      reports.length = before.reported := by
  obtain ⟨-, same, count⟩ := notified.stands within
  rw [unfailed] at same
  subst same
  exact ⟨notified.order, count rfl⟩

/-- A reaction asks for firmware data before anything has been reported, or it reports what comes
next. -/
theorem step (notified : Notified before reports failed) (within : ¬ before.EndsComponent)
    (step : NotificationStep before asked after) :
    (∃ message, asked = some message ∧ AsksFor message .requestFirmwareData ∧ reports = [] ∧
        Notified after [] none) ∨
      ∃ failed, Notified after (reports ++ asked.toList) failed := by
  have known := notified.unfailed within
  cases step with
  | quiet updating failure reported =>
      -- Nothing is sent, and the failure and the number of reports stay.
      obtain ⟨-, same, count⟩ := notified.stands within
      refine .inr ⟨failed, by rw [Option.toList_none, List.append_nil]; exact notified.order,
        fun _ => ⟨updating, failure.trans same, fun none => ?_⟩⟩
      rw [Option.toList_none, List.append_nil, reported]
      exact count none
  | left ends =>
      refine .inr ⟨failed, by rw [Option.toList_none, List.append_nil]; exact notified.order, ?_⟩
      exact fun within => absurd ends within
  | fetched unfailed asks =>
      obtain ⟨order, length⟩ := known unfailed
      -- Data are only asked for before the first report.
      exact .inl ⟨_, rfl, asks, List.length_eq_zero_iff.mp length, .nothing,
        fun _ => ⟨rfl, rfl, fun _ => rfl⟩⟩
  | transferred unfailed done =>
      obtain ⟨order, length⟩ := known unfailed
      rw [List.length_eq_zero_iff.mp length]
      exact .inr ⟨none, .transferred done, fun _ => ⟨rfl, rfl, fun _ => rfl⟩⟩
  | transferFailed unfailed failure done =>
      obtain ⟨order, length⟩ := known unfailed
      rw [List.length_eq_zero_iff.mp length]
      exact .inr ⟨_, .transferFailed failure done, fun _ => ⟨rfl, rfl, nofun⟩⟩
  | verified unfailed done =>
      obtain ⟨order, length⟩ := known unfailed
      cases order with
      | transferred transfer =>
          exact .inr ⟨none, .verified transfer done, fun _ => ⟨rfl, rfl, fun _ => rfl⟩⟩
      | _ => cases length
  | verifyFailed unfailed failure done =>
      obtain ⟨order, length⟩ := known unfailed
      cases order with
      | transferred transfer =>
          exact .inr ⟨_, .verifyFailed failure transfer done, fun _ => ⟨rfl, rfl, nofun⟩⟩
      | _ => cases length
  | applied unfailed success done =>
      obtain ⟨order, length⟩ := known unfailed
      cases order with
      | verified transfer verification =>
          exact .inr ⟨none, .applied success transfer verification done,
            fun within => absurd (.inl rfl) within⟩
      | _ => cases length
  | applyFailed unfailed failure done =>
      obtain ⟨order, length⟩ := known unfailed
      cases order with
      | verified transfer verification =>
          exact .inr ⟨_, .applyFailed failure transfer verification done,
            fun _ => ⟨rfl, rfl, nofun⟩⟩
      | _ => cases length

end Notified

/-- Nothing but the last of these inputs can end the component. -/
def ResponderHistory.Within {σ : Type} (device : Device σ) (history : ResponderHistory σ)
    (inputs : List ResponderInput) : Prop :=
  ∀ count < inputs.length,
    ¬ (history.run device (inputs.take count)).responder.phase.EndsComponent

/-- From the beginning of a component to its end a device asks for firmware data, and then reports
what there is to report. -/
theorem ResponderHistory.run_notified {σ : Type} {device : Device σ} {begun : ResponderHistory σ}
    {record : ComponentRecord} {options : UInt32}
    (phase : begun.responder.phase = Responder.beginDownload record options)
    {inputs : List ResponderInput} (within : begun.Within device inputs) :
    ∃ fetches reports failed, begun.requests device inputs = fetches ++ reports ∧
      (∀ message ∈ fetches, AsksFor message .requestFirmwareData) ∧
      Notified (begun.run device inputs).responder.phase reports failed := by
  -- from the end: the last reaction adds to what was asked or to what was reported
  induction inputs using List.reverseRecOn with
  | nil =>
      refine ⟨[], [], none, rfl, nofun, .nothing, fun _ => ?_⟩
      rw [show (begun.run device []).responder.phase = _ from phase]
      exact ⟨rfl, rfl, fun _ => rfl⟩
  | append_singleton front input ih =>
      have inside := within front.length (by simp)
      rw [List.take_left] at inside
      obtain ⟨fetches, reports, failed, made, fetching, notified⟩ := ih fun count less => by
        have earlier := within count (by rw [List.length_append]; omega)
        rwa [List.take_append_of_le_length (Nat.le_of_lt less)] at earlier
      rw [requests, gathered_append, run_append, gathered_singleton]
      rw [requests] at made
      rw [made]
      rcases notified.step inside (notificationStep device (notified.stands inside).1 input) with
        ⟨message, asked, asks, nothing, after⟩ | ⟨failed, after⟩
      · refine ⟨fetches ++ [message], [], none, by rw [asked, nothing]; simp, ?_, after⟩
        intro other member
        rcases List.mem_append.mp member with earlier | same
        · exact fetching other earlier
        · exact List.mem_singleton.mp same ▸ asks
      · exact ⟨fetches, _, failed, List.append_assoc .., fetching, after⟩

/-- Between the acceptance of a component and its end, whatever has led there, whatever the
responder receives and whatever its device answers, it asks for firmware data and then reports the
results, each at most once, in their order and only after a success. After a failure it waits for
the agent to cancel. -/
theorem notifications_come_once_in_order {σ : Type} (device : Device σ)
    (before : ResponderHistory σ) {input : ResponderInput} {record : ComponentRecord}
    (accepted : input.accepted? (before.react device input).1 = some record)
    (during : List ResponderInput) (within : (before.next device input).Within device during) :
    let last := (before.next device input).run device during
    ∃ fetches reports failed,
      (before.next device input).requests device during = fetches ++ reports ∧
      (∀ message ∈ fetches, AsksFor message .requestFirmwareData) ∧
      Notifications reports failed ∧
      (¬ last.responder.phase.EndsComponent → last.responder.phase.failure? = failed ∧
        ∀ code, failed = some code → last.AwaitsCancel device code) := by
  intro last
  obtain ⟨options, phase⟩ := ResponderHistory.phase_of_accepted device accepted
  obtain ⟨fetches, reports, failed, made, fetching, notified⟩ :=
    ResponderHistory.run_notified phase within
  refine ⟨fetches, reports, failed, made, fetching, notified.order, fun inside => ?_⟩
  obtain ⟨-, same, -⟩ := notified.stands inside
  exact ⟨same, fun code failure => ResponderHistory.awaitsCancel (same.trans failure)⟩

namespace WrongVersion

/-- A device with one component, whose images are all of the wrong version. -/
def device : Device Unit where
  identifiers state := ({}, state)
  components _ := [{ key := { classification := .firmware, identifier := 1 } }]
  activeVersion _ := .raw []
  updateComponent _ _ state := (0, state)
  firmwareData _ _ _ state := (.success, state)
  verify _ state := (.versionMismatch, state)
  apply _ state := (.ok .empty, state)
  now state := (1000, state)

/-- The device after an update has begun and its component has been announced. -/
def before : ResponderHistory Unit :=
  ResponderHistory.run device { responder := .withMaxMessage 4096, state := () }
    [.request ⟨8⟩ [0x80, 5, 0x10, 32, 0, 0, 0, 1, 0, 1, 0, 0, 0, 0],
      .request ⟨8⟩ [0x81, 5, 0x13, 5, 10, 0, 1, 0, 0, 0, 0, 0, 0, 0, 0]]

/-- Begins the component, with an image of four bytes. -/
def begins : ResponderInput :=
  .request ⟨8⟩ [0x82, 5, 0x14, 10, 0, 1, 0, 0, 0, 0, 0, 0, 4, 0, 0, 0, 0, 0, 0, 0, 0, 0]

/-- The image is asked for and arrives, and what has to be reported is reported. -/
def during : List ResponderInput :=
  [.progress, .reply ⟨8⟩ [0, 5, 0x15, 0, 1, 2, 3, 4], .progress, .progress, .progress]

/-- The component as it begins. -/
def record : ComponentRecord where
  key := { classification := .firmware, identifier := 1 }
  stamp := 0
  version := .raw []
  size := some 4
  options := some 0

end WrongVersion

open WrongVersion in
/-- An image of the wrong version is reported as such after its transfer, and the device waits for
the agent to cancel. -/
theorem spoiled_image_awaits_cancel :
    ((before.next device begins).requests device during).length = 3 ∧
      ((before.next device begins).run device during).AwaitsCancel device
        (Coded.code VerifyResult.versionMismatch) := by
  have within : (before.next device begins).Within device during := by
    unfold ResponderHistory.Within
    decide +kernel
  obtain ⟨fetches, reports, failed, -, -, -, ends⟩ :=
    notifications_come_once_in_order device before (show begins.accepted? _ = some record from rfl)
      during within
  obtain ⟨same, awaits⟩ := ends (by decide +kernel)
  exact ⟨by decide +kernel, awaits _ (same.symm.trans rfl)⟩

end FirmwareUpdate
