import FirmwareUpdate.Proofs.Command.RoundTrip
import FirmwareUpdate.Proofs.Device.Answer
import FirmwareUpdate.Proofs.Device.Room
import FirmwareUpdate.Proofs.Message.Envelope

/-!
# What a step does to an image

`ImageStep` lists what one reaction of a responder can mean for the image that its
device receives: nothing, the beginning of an update, a piece, a failure, the end of
the transfer, a verification, an application. `ResponderHistory.imageStep` says that
every reaction is one of these, whatever the input and the device.
-/

namespace FirmwareUpdate

open Wire

namespace UpdateEvent

/-- The event is about an image: its beginning, a piece of it, its verification or its
application. -/
def concernsImage : UpdateEvent → Bool
  | called (.firmwareData _ _ _ _) | called (.verify _ _) | called (.apply _ _) | accepted _ => true
  | _ => false

end UpdateEvent

/-- What a reaction means for an image: the phase before it, the events, the phase
after it. -/
inductive ImageStep : DevicePhase → List UpdateEvent → DevicePhase → Prop where
  /-- The reaction has nothing to do with an image, or gives it up. -/
  | aside {before after : DevicePhase} {events : List UpdateEvent}
      (quiet : ∀ event ∈ events, event.concernsImage = false)
      (apart : after = before ∨ after.details? = none) : ImageStep before events after
  | begun (record : ComponentRecord) (options : UInt32)
      (sized : ∃ size, record.size = some size) :
      ImageStep .readyXfer [.called (.updateComponent true record 0), .accepted record]
        (Responder.beginDownload record options)
  | waited {offset : Nat} {result : Option TransferResult} {exchange later : Exchange}
      {options : UInt32} {details : ComponentDetails} :
      ImageStep (.download offset result exchange options details) []
        (.download offset result later options details)
  /-- A piece arrives. Where something is missing, it is not empty. -/
  | received {offset : Nat} {exchange : Exchange} {options : UInt32} {details : ComponentDetails}
      (data : List UInt8) (result : TransferResult)
      (bounded : data.length ≤ details.size - offset) (some : offset < details.size → data ≠ []) :
      ImageStep (.download offset none exchange options details)
        [.called (.firmwareData offset data details result)]
        (Responder.afterData offset data.length result options details)
  /-- The agent cannot serve the image. -/
  | broken {offset : Nat} {exchange : Exchange} {options : UInt32} {details : ComponentDetails} :
      ImageStep (.download offset none exchange options details) []
        (.download offset (some .generic) .ready options details)
  | transferred {offset : Nat} {exchange : Exchange} {options : UInt32}
      {details : ComponentDetails} :
      ImageStep (.download offset (some .success) exchange options details) []
        (.verify .ready details)
  | verified {exchange : Exchange} {details : ComponentDetails}
      (unfailed : ∀ code, exchange ≠ .failed code) :
      ImageStep (.verify exchange details) [.called (.verify details .success)]
        (.apply .ready details)
  | unverified {exchange : Exchange} {details : ComponentDetails} {code : UInt8}
      (unfailed : ∀ code, exchange ≠ .failed code) (result : VerifyResult) :
      ImageStep (.verify exchange details) [.called (.verify details result)]
        (.verify (.failed code) details)
  | applied {exchange : Exchange} {details : ComponentDetails}
      (unfailed : ∀ code, exchange ≠ .failed code)
      (outcome : Except ApplyResult ActivationMethods) :
      ImageStep (.apply exchange details) [.called (.apply details outcome)] .readyXfer
  | unapplied {exchange : Exchange} {details : ComponentDetails} {code : UInt8}
      (unfailed : ∀ code, exchange ≠ .failed code)
      (outcome : Except ApplyResult ActivationMethods) :
      ImageStep (.apply exchange details) [.called (.apply details outcome)]
        (.apply (.failed code) details)

namespace ImageStep

/-- Nothing happens at all. -/
theorem refl (phase : DevicePhase) : ImageStep phase [] phase :=
  .aside (fun _ member => nomatch member) (.inl rfl)

/-- A step that accepts a component begins with it. -/
theorem begins {before after : DevicePhase} {new : List UpdateEvent}
    (step : ImageStep before new after) {record : ComponentRecord}
    (accepted : .accepted record ∈ new) :
    (∃ options, after = Responder.beginDownload record options) ∧
      ∃ earlier, new = earlier ++ [.accepted record] := by
  cases step with
  | begun other options sized =>
      have same : record = other := by simpa using accepted
      subst same
      exact ⟨⟨options, rfl⟩, [_], rfl⟩
  | aside quiet apart => cases quiet _ accepted
  | waited | broken | transferred => cases accepted
  | received | verified | unverified | applied | unapplied => simp at accepted

end ImageStep

namespace Responder

variable {σ : Type} (responder : Responder) (device : Device σ) (state : σ)

/-! ## Requests of the device -/

/-- A device whose exchange has failed has nothing to send. -/
theorem unfailed_of_isDue {exchange : Exchange} {later : σ × List DeviceCall}
    {earlier : σ × List DeviceCall}
    (due : exchange.isDue device.recorded earlier = (true, later)) :
    ∀ code, exchange ≠ .failed code := by
  rintro code rfl
  simp [Exchange.isDue] at due

/-- The clock is not part of the record. -/
theorem isDue_record {exchange : Exchange} {calls : List DeviceCall}
    {due : Bool} {later : σ × List DeviceCall}
    (asked : exchange.isDue device.recorded (state, calls) = (due, later)) : later.2 = calls := by
  cases exchange <;> simp [Exchange.isDue] at asked <;> simp [← asked]

/-- A reaction of a recorded device from an empty record is a step of its image. -/
def StepsImage (before : DevicePhase) (after : Responder × σ × List DeviceCall) : Prop :=
  ImageStep before (after.2.2.map .called) after.1.phase

/-- A responder that does nothing asks nothing of the device. -/
theorem stepsImage_refl (calls : List DeviceCall) (none : calls = []) :
    StepsImage responder.phase (responder, state, calls) := by
  subst none
  exact .refl responder.phase

/-- Asking for package data hands over no piece of an image. -/
theorem progressPull_stepsImage (pull : PackagePull) (passed : Bool) :
    StepsImage responder.phase
      (responder.progressPull device.recorded pull passed (state, [])).2 := by
  unfold progressPull
  split
  · rename_i later due
    exact stepsImage_refl responder _ _ (isDue_record device state due)
  · rename_i later due
    split
    · exact stepsImage_refl responder _ _ (isDue_record device state due)
    · refine .aside ?_ (.inr rfl)
      simp [markSent, isDue_record device state due]

/-- Asking for firmware data leaves the offset, and a report at the end of the data leads to the
check. -/
theorem progressDownload_stepsImage {offset : Nat} {result : Option TransferResult}
    {exchange : Exchange} {options : UInt32} {details : ComponentDetails}
    (phase : responder.phase = .download offset result exchange options details) :
    StepsImage responder.phase
      (responder.progressDownload device.recorded offset result exchange options details
        (state, [])).2 := by
  unfold progressDownload
  split
  · rename_i later due
    exact stepsImage_refl responder _ _ (isDue_record device state due)
  · rename_i later due
    have quiet := isDue_record device state due
    cases result with
    | some result =>
        obtain ⟨body, written, -, -⟩ :=
          (ResultReport.roundTrips { result := Coded.code result }).message (by decide) ""
        simp only [written, StepsImage, newRequest, quiet, phase, List.map_nil]
        split
        · rename_i success
          subst success
          exact .transferred
        · exact .waited
    | none =>
        simp only [StepsImage]
        split
        · simp only [quiet, List.map_nil]
          exact .refl _
        · simp only [newRequest, markSent, Device.recorded_now, quiet, phase, List.map_nil]
          exact .waited

/-- The image is checked at most once, and then reported on. -/
theorem progressVerify_stepsImage {exchange : Exchange} {details : ComponentDetails}
    (phase : responder.phase = .verify exchange details) :
    StepsImage responder.phase
      (responder.progressVerify device.recorded exchange details (state, [])).2 := by
  unfold progressVerify
  split
  · rename_i later due
    exact stepsImage_refl responder _ _ (isDue_record device state due)
  · rename_i later due
    have quiet := isDue_record device state due
    have unfailed := unfailed_of_isDue device due
    obtain ⟨body, written, -, -⟩ := (ResultReport.roundTrips
      { result := Coded.code (device.verify details later.1).1 }).message (by decide) ""
    simp only [Device.recorded_verify, Device.noting, written, StepsImage, newRequest, quiet,
      phase, List.nil_append, List.map_cons, List.map_nil]
    split
    · rename_i success
      rw [success]
      exact .verified unfailed
    · exact .unverified unfailed _

/-- The image is applied at most once, and then reported on. -/
theorem progressApply_stepsImage {exchange : Exchange} {details : ComponentDetails}
    (phase : responder.phase = .apply exchange details) :
    StepsImage responder.phase
      (responder.progressApply device.recorded exchange details (state, [])).2 := by
  unfold progressApply
  split
  · rename_i later due
    exact stepsImage_refl responder _ _ (isDue_record device state due)
  · rename_i later due
    have quiet := isDue_record device state due
    have unfailed := unfailed_of_isDue device due
    obtain ⟨body, written, -, -⟩ := (ApplyReport.roundTrips
      { result := Coded.code (applyReport (device.apply details later.1).1).1
        methods := (applyReport (device.apply details later.1).1).2 }).message (by decide) ""
    simp only [Device.recorded_apply, Device.noting, written, StepsImage, newRequest, quiet,
      phase, List.nil_append, List.map_cons, List.map_nil]
    split
    · exact .applied unfailed _
    · exact .unapplied unfailed _

/-- Whatever a responder does of itself is a step in the life of an image. -/
theorem progress_stepsImage :
    StepsImage responder.phase (responder.progress device.recorded (state, [])).2 := by
  unfold progress
  split
  · exact stepsImage_refl responder _ _ rfl
  · dsimp only
    split
    · refine .aside ?_ (.inr rfl)
      unfold giveUp
      split <;> simp [UpdateEvent.concernsImage]
    · show StepsImage _ (responder.progressPhase device.recorded ((device.now state).2, [])).2
      unfold progressPhase
      split
      · exact progressPull_stepsImage ..
      · exact progressDownload_stepsImage _ _ _ ‹_›
      · exact progressVerify_stepsImage _ _ _ ‹_›
      · exact progressApply_stepsImage _ _ _ ‹_›
      all_goals exact stepsImage_refl responder _ _ rfl

/-! ## Responses to the device -/

/-- A piece that is taken is the one at the offset, and moves the offset past it. -/
theorem takeData_stepsImage (room : responder.HasRoom) {offset : Nat} {exchange : Exchange}
    {options : UInt32} {details : ComponentDetails} (response : Response)
    (phase : responder.phase = .download offset none exchange options details) :
    StepsImage responder.phase
      (responder.takeData device.recorded offset exchange options details response
        (state, [])) := by
  obtain ⟨bounded, positive⟩ := requestSize_bounds room offset details
  unfold takeData
  split
  · exact phase ▸ .waited
  · split
    · split
      · rename_i sized
        simp only [Device.recorded_firmwareData, Device.noting, StepsImage, phase,
          List.nil_append, List.map_cons, List.map_nil]
        refine .received _ _ (by omega) fun missing empty => ?_
        have length := positive missing
        rw [← sized, empty] at length
        simp at length
      · exact phase ▸ .waited
    · exact phase ▸ .broken

/-- Package data are not part of an image. -/
theorem takePart_stepsImage (pull : PackagePull) (passed : Bool) (response : Response) :
    StepsImage responder.phase
      (responder.takePart device.recorded pull passed response (state, [])).2 := by
  refine .aside ?_ (.inr ?_)
  · unfold takePart restartPull continuePull endPull touch
    grind [Device.recorded_now, Device.recorded_packageData, UpdateEvent.concernsImage]
  · unfold takePart restartPull continuePull endPull touch
    grind [DevicePhase.details?]

/-- The reply to a request of the device, whoever sends it. -/
theorem takeReply_stepsImage (room : responder.HasRoom) (agent : EndpointId)
    (message : List UInt8) :
    StepsImage responder.phase
      (responder.takeReply device.recorded agent message (state, [])).2 := by
  unfold takeReply
  split
  · exact stepsImage_refl responder _ _ rfl
  · split
    · exact stepsImage_refl responder _ _ rfl
    · split
      · unfold takePackageReply
        split
        · split
          · exact takePart_stepsImage ..
          · exact stepsImage_refl responder _ _ rfl
        · exact stepsImage_refl responder _ _ rfl
      · unfold takeDataReply
        split
        · rename_i phase
          split
          · exact takeData_stepsImage (responder.touch device state).1 device
              (responder.touch device state).2 room _ phase
          · exact stepsImage_refl responder _ _ rfl
        · exact stepsImage_refl responder _ _ rfl
      all_goals exact stepsImage_refl responder _ _ rfl

/-! ## Requests of an agent -/

/-- A reaction that has nothing to do with an image. -/
theorem stepsImage_aside {before : DevicePhase} {after : Responder × σ × List DeviceCall}
    (quiet : ∀ call ∈ after.2.2, (UpdateEvent.called call).concernsImage = false)
    (apart : after.1.phase = before ∨ after.1.phase.details? = none) :
    StepsImage before after := by
  refine .aside ?_ apart
  intro event member
  obtain ⟨call, called, rfl⟩ := List.mem_map.mp member
  exact quiet call called

variable (request : Request)

/-- An inventory of identifiers leaves the image alone. -/
theorem answerIdentifiers_stepsImage :
    StepsImage responder.phase
      (responder.answerIdentifiers device.recorded request (state, [])).2 := by
  unfold answerIdentifiers
  split <;> exact stepsImage_refl responder _ _ rfl

/-- An inventory of firmware parameters leaves the image alone. -/
theorem answerParameters_stepsImage :
    StepsImage responder.phase
      (responder.answerParameters device.recorded request (state, [])).2 := by
  unfold answerParameters
  split <;> exact stepsImage_refl responder _ _ rfl

/-- A question about the state leaves the image alone. -/
theorem answerStatus_stepsImage :
    StepsImage responder.phase
      (responder.answerStatus request (state, ([] : List DeviceCall))).2 := by
  unfold answerStatus
  split <;> exact stepsImage_refl responder _ _ rfl

/-- A request for an update comes before there is an image. -/
theorem answerUpdate_stepsImage (agent : EndpointId) :
    StepsImage responder.phase
      (responder.answerUpdate device.recorded agent request (state, [])).2 := by
  unfold answerUpdate
  split
  · split
    · exact stepsImage_refl responder _ _ rfl
    · rename_i update _
      rw [Device.recorded_requestUpdate]
      cases asked : device.requestUpdate update state with
      | mk policy later =>
          cases policy with
          | retry =>
              exact stepsImage_aside (by simp [Device.noting, UpdateEvent.concernsImage]) (.inl rfl)
          | unable =>
              exact stepsImage_aside (by simp [Device.noting, UpdateEvent.concernsImage]) (.inl rfl)
          | accept =>
              simp only [Device.noting, acceptUpdate]
              split
              · exact stepsImage_aside (by simp [UpdateEvent.concernsImage]) (.inl rfl)
              · exact stepsImage_aside (by simp [touch, UpdateEvent.concernsImage]) (.inr rfl)
  · exact stepsImage_refl responder _ _ rfl

/-- Handing out metadata leaves the image alone. -/
theorem answerMetadata_stepsImage :
    StepsImage responder.phase
      (responder.answerMetadata device.recorded request (state, [])).2 := by
  unfold answerMetadata
  split
  · split
    · exact stepsImage_refl responder _ _ rfl
    · split
      · exact stepsImage_aside (by simp) (.inl rfl)
      · exact stepsImage_aside (by simp [touch]) (.inl rfl)
  · exact stepsImage_refl responder _ _ rfl

/-- The device is asked about a component, or does not have it. -/
theorem checkComponent_record (begins : Bool) (record : ComponentRecord) :
    ((checkComponent device.recorded begins record (state, [])).1 ≠ 0 ∧
      (checkComponent device.recorded begins record (state, [])).2.2 = []) ∨
      (checkComponent device.recorded begins record (state, [])).2.2 =
        [.updateComponent begins record
          (checkComponent device.recorded begins record (state, [])).1] := by
  unfold checkComponent
  split
  · exact .inr rfl
  · exact .inl ⟨(by decide : Coded.code ComponentAnswer.notSupported ≠ 0), rfl⟩

/-- An entry of the component table comes before there is an image. -/
theorem answerTableEntry_stepsImage :
    StepsImage responder.phase
      (responder.answerTableEntry device.recorded request (state, [])).2 := by
  unfold answerTableEntry
  split
  · split
    · exact stepsImage_refl responder _ _ rfl
    · rename_i code record _
      split
      · exact stepsImage_refl responder _ _ rfl
      · rename_i flag _
        refine stepsImage_aside ?_ (.inr ?_)
        · rcases checkComponent_record device (responder.touch device state).2 false record
            with ⟨-, asked⟩ | asked
          · simp [touch] at asked ⊢
            simp [asked]
          · simp [touch] at asked ⊢
            simp [asked, UpdateEvent.concernsImage]
        · dsimp only
          split <;> rfl
  · exact stepsImage_refl responder _ _ rfl

/-- Activation comes after the last image. -/
theorem answerActivation_stepsImage :
    StepsImage responder.phase
      (responder.answerActivation device.recorded request (state, [])).2 := by
  unfold answerActivation
  split
  · exact stepsImage_refl responder _ _ rfl
  · split
    · rename_i activation _ _ _
      rw [Device.recorded_activate]
      cases asked : device.activate activation.selfContained state with
      | mk result later =>
          dsimp only [Device.noting]
          split
          · exact stepsImage_aside (by simp [UpdateEvent.concernsImage]) (.inr rfl)
          · exact stepsImage_aside (by simp [UpdateEvent.concernsImage]) (.inl rfl)
    · exact stepsImage_refl responder _ _ rfl

/-- Giving up the update abandons the image. -/
theorem answerCancel_stepsImage :
    StepsImage responder.phase
      (responder.answerCancel device.recorded request (state, [])).2 := by
  unfold answerCancel
  split
  · exact stepsImage_refl responder _ _ rfl
  · exact stepsImage_refl responder _ _ rfl
  · split
    · refine stepsImage_aside ?_ (.inr rfl)
      dsimp only
      split <;> simp [UpdateEvent.concernsImage]
    · exact stepsImage_refl responder _ _ rfl

/-- Giving up the component abandons its image. -/
theorem answerCancelComponent_stepsImage :
    StepsImage responder.phase
      (responder.answerCancelComponent device.recorded request (state, [])).2 := by
  unfold answerCancelComponent
  split
  · exact stepsImage_refl responder _ _ rfl
  · split
    · exact stepsImage_aside (by simp [UpdateEvent.concernsImage]) (.inr rfl)
    · exact stepsImage_refl responder _ _ rfl

/-- Every command but the request to update a component leaves images alone. -/
theorem answerCommand_stepsImage (agent : EndpointId) {command : Command}
    (other : command ≠ .updateComponent) :
    StepsImage responder.phase
      (responder.answerCommand device.recorded agent request (state, []) command).2 := by
  cases command with
  | queryDeviceIdentifiers => exact answerIdentifiers_stepsImage ..
  | getFirmwareParameters => exact answerParameters_stepsImage ..
  | requestUpdate => exact answerUpdate_stepsImage ..
  | getDeviceMetaData => exact answerMetadata_stepsImage ..
  | passComponentTable => exact answerTableEntry_stepsImage ..
  | updateComponent => exact absurd rfl other
  | activateFirmware => exact answerActivation_stepsImage ..
  | cancelUpdate => exact answerCancel_stepsImage ..
  | cancelUpdateComponent => exact answerCancelComponent_stepsImage ..
  | getStatus => exact answerStatus_stepsImage ..
  | getPackageData | requestFirmwareData | transferComplete | verifyComplete | applyComplete
  | getMetaData => exact stepsImage_refl responder _ _ rfl

/-- The request to update a component: refused with a code, answered with the device's
refusal, or the beginning of the update. -/
theorem answerComponent_cases :
    (∃ cc : CompletionCode, cc.isSuccess = false ∧
      responder.answerComponent device.recorded request (state, []) =
        (.error cc, responder, state, [])) ∨
    ∃ record body, responder.phase = .readyXfer ∧
      decode "UpdateComponent" ComponentRecord.updateReader request.data = .ok record ∧
      (responder.answerComponent device.recorded request (state, [])).1 =
        respondWith request (ComponentResponse.layout body) ∧
      ((body.response ≠ 0 ∧ StepsImage responder.phase
          (responder.answerComponent device.recorded request (state, [])).2) ∨
        (body.response = 0 ∧
          (responder.answerComponent device.recorded request (state, [])).2.2.2 =
            [.updateComponent true record 0] ∧
          ∃ options, (responder.answerComponent device.recorded request (state, [])).2.1.phase =
            beginDownload record options)) := by
  unfold answerComponent
  split
  · rename_i ready
    split
    · rename_i error _
      exact .inl ⟨_, by cases error <;> rfl, rfl⟩
    · rename_i record decoded
      refine .inr ⟨record, _, ready, decoded, rfl, ?_⟩
      have asked := checkComponent_record device (responder.touch device state).2 true record
      have touched : (responder.touch device.recorded (state, [])).2 =
          ((responder.touch device state).2, []) := rfl
      simp only [touched]
      by_cases accepted : (checkComponent device.recorded true record
          ((responder.touch device state).2, [])).1 = 0
      · refine .inr ⟨by simp [accepted], ?_, ?_⟩
        · rcases asked with ⟨refused, -⟩ | asked
          · exact absurd accepted refused
          · rw [asked, accepted]
        · exact ⟨_, by rw [if_pos accepted]; rfl⟩
      · refine .inl ⟨by simp [accepted], stepsImage_aside ?_ (.inl ?_)⟩
        · rcases asked with ⟨-, asked⟩ | asked <;> simp [asked, UpdateEvent.concernsImage]
        · dsimp only
          rw [if_neg accepted]
          rfl
  · rename_i other
    refine .inl ⟨_, ?_, rfl⟩
    cases phase : responder.phase <;> first | exact absurd phase other | rfl

/-! ## Accepted components -/

/-- A result has a value exactly when it is that value. -/
theorem toOption_eq_some_iff {ε α : Type} {result : Except ε α} {value : α} :
    result.toOption = some value ↔ result = .ok value := by
  cases result <;> simp [Except.toOption]

/-- A component is accepted exactly where a request to update it is answered with success
and without a reason against it. -/
theorem acceptedComponent?_eq_some_iff {message : List UInt8}
    {answer : Except UpdateError (List UInt8)} {record : ComponentRecord} :
    acceptedComponent? message answer = some record ↔
      ∃ request answered response body, Request.parse message = .ok request ∧
        decode "UpdateComponent" ComponentRecord.updateReader request.data = .ok record ∧
        answer = .ok answered ∧ Response.parse answered = .ok response ∧
        decode "UpdateComponent" ComponentResponse.reader response.data = .ok body ∧
        request.typ = firmwareUpdateType ∧
        request.cmd = Coded.code Command.updateComponent ∧
        response.cc.isSuccess = true ∧ body.response = 0 := by
  simp only [acceptedComponent?, Option.bind_eq_bind, Option.bind_eq_some_iff,
    toOption_eq_some_iff]
  grind

/-- A request of another command accepts no component. -/
theorem acceptedComponent?_of_other {message : List UInt8}
    {answer : Except UpdateError (List UInt8)}
    (other : ∀ request, Request.parse message = .ok request → request.typ = firmwareUpdateType →
      request.cmd ≠ Coded.code Command.updateComponent) :
    acceptedComponent? message answer = none := by
  rw [Option.eq_none_iff_forall_ne_some]
  intro record accepted
  obtain ⟨request, _, _, _, parsed, _, _, _, _, typ, cmd, _⟩ :=
    acceptedComponent?_eq_some_iff.mp accepted
  exact other request parsed typ cmd

/-- A refusal accepts no component. -/
theorem acceptedComponent?_of_refusal {message : List UInt8} {request : Request}
    (parsed : Request.parse message = .ok request) {cc : CompletionCode}
    (refused : cc.isSuccess = false) (data : List UInt8) :
    acceptedComponent? message (.ok (request.respond cc data).toBytes) = none := by
  rw [Option.eq_none_iff_forall_ne_some]
  intro record accepted
  obtain ⟨_, answered, response, _, _, _, sent, answerParsed, _, _, _, success, _⟩ :=
    acceptedComponent?_eq_some_iff.mp accepted
  cases sent
  rw [Request.parse_respond parsed] at answerParsed
  cases answerParsed
  rw [Request.respond, refused] at success
  cases success

/-- An answer to a request to update a component accepts it, if it gives no reason against
it. -/
theorem acceptedComponent?_of_answer {message : List UInt8} {request : Request}
    (parsed : Request.parse message = .ok request) (typ : request.typ = firmwareUpdateType)
    (cmd : request.cmd = Coded.code Command.updateComponent) {record : ComponentRecord}
    (decoded : decode "UpdateComponent" ComponentRecord.updateReader request.data = .ok record)
    {body : ComponentResponse} {response : Response}
    (answered : respondWith request body.layout = .ok response) :
    acceptedComponent? message (.ok response.toBytes) =
      if body.response = 0 then some record else none := by
  obtain ⟨written, encoded, -, readBack⟩ := body.roundTrips.message (by decide) "UpdateComponent"
  rw [respondWith_of_written request encoded] at answered
  cases answered
  have answerParsed := Request.parse_respond parsed BaseCode.success written
  split
  · rename_i accepted
    exact acceptedComponent?_eq_some_iff.mpr ⟨request, _, _, body, parsed, decoded, rfl,
      answerParsed, readBack, typ, cmd, rfl, accepted⟩
  · rename_i refused
    rw [Option.eq_none_iff_forall_ne_some]
    intro other accepted
    obtain ⟨_, _, _, otherBody, _, _, sent, otherParsed, otherRead, _, _, _, none⟩ :=
      acceptedComponent?_eq_some_iff.mp accepted
    cases sent
    rw [answerParsed] at otherParsed
    cases otherParsed
    rw [Request.respond, readBack] at otherRead
    cases otherRead
    exact refused none

/-! ## Whole reactions -/

/-- What the answer to a message means for an image, with the component that it accepts. -/
def AnswersImage (before : DevicePhase) (message : List UInt8) (request : Request)
    (after : Answer (σ × List DeviceCall)) : Prop :=
  ImageStep before
    (after.2.2.2.map .called ++
      ((acceptedComponent? message (.ok (messageOf request after.1))).map .accepted).toList)
    after.2.1.phase

variable {message : List UInt8} {request : Request}

/-- A step whose answer accepts no component is an answer about the image there was. -/
theorem StepsImage.answersImage {before : DevicePhase} {after : Answer (σ × List DeviceCall)}
    (step : StepsImage before after.2)
    (quiet : acceptedComponent? message (.ok (messageOf request after.1)) = none) :
    AnswersImage before message request after := by
  unfold AnswersImage
  rw [quiet]
  simpa [StepsImage] using step

/-- A request to update a component, whose answer may accept it. -/
theorem answerComponent_answersImage (parsed : Request.parse message = .ok request)
    (typ : request.typ = firmwareUpdateType)
    (cmd : request.cmd = Coded.code Command.updateComponent) :
    AnswersImage responder.phase message request
      (responder.answerComponent device.recorded request (state, [])) := by
  rcases answerComponent_cases responder device state request with
    ⟨cc, refused, answered⟩ | ⟨record, body, ready, decoded, answered, outcome⟩
  · rw [answered]
    exact StepsImage.answersImage (stepsImage_refl responder _ _ rfl)
      (acceptedComponent?_of_refusal parsed refused [])
  · obtain ⟨written, encoded, -, -⟩ := body.roundTrips.message (by decide) ""
    have success := respondWith_of_written request encoded
    have accepted := acceptedComponent?_of_answer parsed typ cmd decoded success
    rw [success] at answered
    rcases outcome with ⟨refused, step⟩ | ⟨accepts, calls, options, phase⟩
    · refine step.answersImage ?_
      rw [answered]
      exact accepted.trans (if_neg refused)
    · unfold AnswersImage
      rw [answered, calls, phase, ready, messageOf, accepted, if_pos accepts]
      exact .begun record options (ComponentRecord.size_of_decode decoded)

/-- An answer is a step of the image. -/
theorem answer_answersImage (agent : EndpointId) (parsed : Request.parse message = .ok request) :
    AnswersImage responder.phase message request
      (responder.answer device.recorded agent request (state, [])) := by
  have other (unlike : request.typ = firmwareUpdateType →
      request.cmd ≠ Coded.code Command.updateComponent)
      (answer : Except UpdateError (List UInt8)) :
      acceptedComponent? message answer = none := by
    refine acceptedComponent?_of_other fun found foundParsed => ?_
    rw [parsed] at foundParsed
    cases foundParsed
    exact unlike
  unfold answer
  split
  · rename_i typ
    exact StepsImage.answersImage (stepsImage_refl responder _ _ rfl)
      (other (fun found => absurd found typ) _)
  · rename_i typ
    split
    · rename_i unknown
      refine StepsImage.answersImage (stepsImage_refl responder _ _ rfl)
        (other (fun _ cmd => ?_) _)
      simp [cmd] at unknown
    · rename_i command known
      split
      · exact StepsImage.answersImage (stepsImage_refl responder _ _ rfl)
          (acceptedComponent?_of_refusal parsed rfl [])
      · by_cases updates : command = .updateComponent
        · subst updates
          exact answerComponent_answersImage responder device state parsed
            (Decidable.not_not.mp typ) (ofCode?_eq_some_iff.mp known).symm
        · refine StepsImage.answersImage
            (answerCommand_stepsImage responder device state request agent updates)
            (other (fun _ cmd => updates ?_) _)
          rw [cmd, ofCode?_code] at known
          exact (Option.some.inj known).symm

/-- The reaction to a message is a step of the image. -/
theorem answerRequest_imageStep (agent : EndpointId) (message : List UInt8) :
    ImageStep responder.phase
      ((responder.answerRequest device.recorded agent message (state, [])).2.2.2.map .called ++
        ((acceptedComponent? message
          (responder.answerRequest device.recorded agent message (state, [])).1).map
            .accepted).toList)
      (responder.answerRequest device.recorded agent message (state, [])).2.1.phase := by
  cases parsed : Request.parse message with
  | error error =>
      unfold answerRequest
      rw [parsed, acceptedComponent?_of_other (by simp [parsed])]
      exact .refl responder.phase
  | ok request =>
      rw [answerRequest_of_parse responder device.recorded agent parsed]
      exact answer_answersImage responder device state agent parsed

end Responder

namespace ResponderHistory

variable {σ : Type} (device : Device σ) (history : ResponderHistory σ)

/-- Every reaction is a step of the image, and adds its events to the history. -/
theorem imageStep (room : history.responder.HasRoom) (input : ResponderInput) :
    ∃ events, (history.next device input).events = history.events ++ events ∧
      ImageStep history.responder.phase events (history.next device input).responder.phase := by
  refine ⟨_, rfl, ?_⟩
  cases input with
  | request agent message =>
      exact Responder.answerRequest_imageStep history.responder device history.state agent message
  | reply agent message =>
      rw [ResponderInput.accepted?, Option.map_none, Option.toList_none, List.append_nil]
      · exact Responder.takeReply_stepsImage history.responder device history.state room agent
          message
      · rintro _ _ _ ⟨⟩
  | progress =>
      rw [ResponderInput.accepted?, Option.map_none, Option.toList_none, List.append_nil]
      · exact Responder.progress_stepsImage history.responder device history.state
      · rintro _ _ _ ⟨⟩

end ResponderHistory

end FirmwareUpdate
