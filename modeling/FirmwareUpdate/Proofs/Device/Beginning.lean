import Mathlib.Data.List.Induction
import FirmwareUpdate.Proofs.Device.ImageStep
import FirmwareUpdate.Proofs.Device.Ownership

/-!
# How an update begins

An update begins with a request that the device answers with success, and with no other reaction.
Nothing that belongs to it is older: the sizes are agreed on anew, and a pull of package data has
everything before it.
-/

namespace FirmwareUpdate

open Wire

/-- The pull of package data that a device begins with an update. -/
def UpdateRequest.pull? (update : UpdateRequest) (wanted : Bool) : Option PackagePull :=
  if 0 < update.packageDataSize.toNat && wanted then
    some { transfer := { kind := .packageData, totalSize := update.packageDataSize.toNat } }
  else none

/-- The most firmware data that an agent serves at once, by its request for an update. -/
def UpdateRequest.negotiated (update : UpdateRequest) : Nat :=
  max update.maxTransfer.toNat baselineTransfer

/-- An update begins in an idle device that agrees to it. -/
structure BeginsUpdate {σ : Type} (device : Device σ) (update : UpdateRequest) (state : σ)
    (before after : Responder) (calls : List DeviceCall) : Prop where
  idle : before.state = .idle
  agreed : (device.requestUpdate update state).1 = .accept
  phase : after.phase = .learnComponents
    (update.pull? (device.wantsPackageData (device.requestUpdate update state).2)) false
  transfer : after.maxTransfer = update.negotiated
  calls : calls = [.requestUpdate update .accept]

/-- A reaction with which no update begins leaves the device idle, or an update that was there
goes on with the size that was agreed on. -/
def GoesOn (before after : Responder) : Prop :=
  after.state = .idle ∨ before.state ≠ .idle ∧ after.maxTransfer = before.maxTransfer

theorem GoesOn.refl (responder : Responder) : GoesOn responder responder := by
  by_cases idle : responder.state = .idle
  · exact .inl idle
  · exact .inr ⟨idle, rfl⟩

/-- What an accepted request for an update consists of. -/
theorem acceptedUpdate?_eq_some_iff {message : List UInt8}
    {answer : Except UpdateError (List UInt8)} {update : UpdateRequest} :
    acceptedUpdate? message answer = some update ↔
      ∃ request answered response, Request.parse message = .ok request ∧
        decode "RequestUpdate" UpdateRequest.reader request.data = .ok update ∧
        answer = .ok answered ∧ Response.parse answered = .ok response ∧
        request.IsFor .requestUpdate ∧ response.cc.isSuccess = true := by
  simp only [acceptedUpdate?, Option.bind_eq_bind, Option.bind_eq_some_iff,
    Responder.toOption_eq_some_iff, Request.IsFor]
  grind

/-- A request of another command, or one that is refused, begins no update. -/
theorem acceptedUpdate?_eq_none {message : List UInt8} {request : Request}
    (parsed : Request.parse message = .ok request) {result : Except CompletionCode Response}
    (other : request.IsFor .requestUpdate →
      ∃ cc : CompletionCode, cc.isSuccess = false ∧ result = .error cc) :
    acceptedUpdate? message (.ok (Responder.messageOf request result)) = none := by
  rw [Option.eq_none_iff_forall_ne_some]
  intro update accepted
  obtain ⟨found, answered, response, read, -, sent, answerParsed, asks, success⟩ :=
    acceptedUpdate?_eq_some_iff.mp accepted
  cases parsed.symm.trans read
  obtain ⟨cc, failure, rfl⟩ := other asks
  cases sent
  cases answerParsed.symm.trans (Request.parse_respond parsed cc [])
  cases failure.symm.trans success

namespace Responder

variable {σ : Type} (responder : Responder) (device : Device σ) (state : σ)

/-- A request for an update begins one, or it is refused and leaves the responder as it is. -/
theorem answerUpdate_begins (agent : EndpointId) (request : Request) :
    let after := responder.answerUpdate device.recorded agent request (state, [])
    (∃ update body, decode "RequestUpdate" UpdateRequest.reader request.data = .ok update ∧
        after.1 = .ok (request.respond BaseCode.success body) ∧
        BeginsUpdate device update state responder after.2.1 after.2.2.2) ∨
      ∃ cc : CompletionCode, cc.isSuccess = false ∧ after.1 = .error cc ∧
        after.2.1 = responder := by
  simp only [answerUpdate]
  split
  · rename_i idle
    split
    · rename_i error _
      exact .inr ⟨_, by cases error <;> rfl, rfl, rfl⟩
    · rename_i update read
      rw [Device.recorded_requestUpdate]
      cases asked : device.requestUpdate update state with
      | mk policy later =>
          cases policy with
          | retry => exact .inr ⟨_, rfl, rfl, rfl⟩
          | unable => exact .inr ⟨_, rfl, rfl, rfl⟩
          | accept =>
              simp only [Device.noting, acceptUpdate]
              split
              · exact .inr ⟨_, rfl, rfl, rfl⟩
              · obtain ⟨body, responds⟩ := respondWith_of_roundTrips request
                  (UpdateResponse.roundTrips _) (by decide)
                refine .inl ⟨update, body, read, responds, congrArg DevicePhase.state idle, ?_, ?_,
                  rfl, rfl⟩
                · rw [asked]
                · rw [asked]
                  rfl
  · exact .inr ⟨_, rfl, rfl, rfl⟩

/-- No other command begins an update. -/
theorem answerCommand_goesOn {device : Device σ} {state : σ} (agent : EndpointId)
    (request : Request) {command : Command} (other : command ≠ .requestUpdate) :
    GoesOn responder (responder.answerCommand device agent request state command).2.1 := by
  have refl := GoesOn.refl responder
  cases command with
  | requestUpdate => exact absurd rfl other
  | cancelUpdate =>
      simp only [answerCommand, answerCancel]
      repeat' split
      all_goals first | exact refl | exact .inl rfl
  | activateFirmware =>
      simp only [answerCommand, answerActivation]
      repeat' split
      all_goals first | exact refl | exact .inl rfl
  | getDeviceMetaData =>
      simp only [answerCommand, answerMetadata]
      split
      · rename_i learning
        have running := state_ne_idle learning (by rintro ⟨⟩)
        repeat' split
        all_goals exact .inr ⟨running, rfl⟩
      · exact refl
  | passComponentTable =>
      simp only [answerCommand, answerTableEntry]
      split
      · rename_i learning
        have running := state_ne_idle learning (by rintro ⟨⟩)
        repeat' split
        all_goals first | exact refl | exact .inr ⟨running, rfl⟩
      · exact refl
  | updateComponent =>
      simp only [answerCommand, answerComponent]
      split
      · rename_i ready
        have running := state_ne_idle ready (by rintro ⟨⟩)
        repeat' split
        all_goals first | exact refl | exact .inr ⟨running, rfl⟩
      · exact refl
  | cancelUpdateComponent =>
      simp only [answerCommand, answerCancelComponent]
      split
      · exact refl
      · rename_i details updating
        -- An update that has details is under way, so the device is not idle.
        have running : responder.state ≠ .idle := by
          intro idle
          obtain ⟨reason, phase⟩ := phase_of_state_idle idle
          rw [phase] at updating
          cases updating
        split
        · exact .inr ⟨running, rfl⟩
        · exact refl
  | queryDeviceIdentifiers =>
      simp only [answerCommand, answerIdentifiers]
      split <;> exact refl
  | getFirmwareParameters =>
      simp only [answerCommand, answerParameters]
      split <;> exact refl
  | getStatus =>
      simp only [answerCommand, answerStatus]
      split <;> exact refl
  | _ => exact refl

/-- A message begins an update if it is an accepted request for one, and only then. -/
theorem answerRequest_begins (agent : EndpointId) (message : List UInt8) :
    let after := responder.answerRequest device.recorded agent message (state, [])
    (∃ update, acceptedUpdate? message after.1 = some update ∧
        BeginsUpdate device update state responder after.2.1 after.2.2.2) ∨
      acceptedUpdate? message after.1 = none ∧ GoesOn responder after.2.1 := by
  intro after
  cases parsed : Request.parse message with
  | error error =>
      have same : after = (.error (.codec error), responder, state, []) := by
        simp only [after, answerRequest, parsed]
      rw [same]
      refine .inr ⟨?_, .refl responder⟩
      simp [acceptedUpdate?, parsed, Except.toOption]
  | ok request =>
      have answered : after = _ :=
        answerRequest_of_parse responder device.recorded agent parsed (state, [])
      rw [answered]
      rcases responder.answer_cases device.recorded agent request (state, []) with
        ⟨cc, failure, refused, -⟩ | ⟨command, asks, -, same⟩
      · rw [refused]
        exact .inr ⟨acceptedUpdate?_eq_none parsed fun _ => ⟨cc, failure, rfl⟩, .refl responder⟩
      · rw [same]
        by_cases updates : command = .requestUpdate
        · subst updates
          rcases responder.answerUpdate_begins device state agent request with
            ⟨update, body, read, success, begins⟩ | ⟨cc, failure, refused, kept⟩
          · refine .inl ⟨update, acceptedUpdate?_eq_some_iff.mpr ?_, begins⟩
            exact ⟨request, _, request.respond BaseCode.success body, parsed, read,
              congrArg (fun result => Except.ok (messageOf request result)) success,
              Request.parse_respond parsed _ body, asks, rfl⟩
          · refine .inr ⟨acceptedUpdate?_eq_none parsed fun _ => ⟨cc, failure, refused⟩, ?_⟩
            rw [answerCommand, kept]
            exact .refl responder
        · refine .inr ⟨acceptedUpdate?_eq_none parsed fun meant => ?_,
            responder.answerCommand_goesOn agent request updates⟩
          exact absurd (Coded.code_injective _ _ (asks.2.symm.trans meant.2)) updates

/-- Neither does a call for progress. -/
theorem progress_goesOn {device : Device σ} {state : σ} :
    GoesOn responder (responder.progress device state).2.1 := by
  unfold progress
  split
  · exact .refl responder
  · rename_i running
    dsimp only
    split
    · exact .inl rfl
    · refine .inr ⟨fun idle => ?_, (progressPhase_sizes ..).2⟩
      obtain ⟨reason, phase⟩ := phase_of_state_idle idle
      exact running reason phase

/-- Neither does a reply, which is none of the device's business while it is idle. -/
theorem takeReply_goesOn {device : Device σ} {state : σ} (agent : EndpointId)
    (message : List UInt8) :
    GoesOn responder (responder.takeReply device agent message state).2.1 := by
  have refl := GoesOn.refl responder
  unfold takeReply
  split
  · exact refl
  · split
    · exact refl
    · split
      · unfold takePackageReply
        split
        · rename_i learning
          have running := state_ne_idle learning (by rintro ⟨⟩)
          split
          · refine .inr ⟨running, ?_⟩
            unfold takePart restartPull continuePull endPull touch
            grind
          · exact refl
        · exact refl
      · unfold takeDataReply
        split
        · rename_i fetching
          have running := state_ne_idle fetching (by rintro ⟨⟩)
          split
          · refine .inr ⟨running, ?_⟩
            unfold takeData touch
            grind
          · exact refl
        · exact refl
      all_goals exact refl

end Responder

namespace ResponderHistory

variable {σ : Type} (device : Device σ) (history : ResponderHistory σ)

/-- An update begins exactly with the reactions that accept a request for one. -/
theorem next_begins (input : ResponderInput) :
    (∃ update, input.acceptedUpdate? (history.react device input).1 = some update ∧
        BeginsUpdate device update history.state history.responder
          (history.next device input).responder (history.react device input).2.2.2) ∨
      input.acceptedUpdate? (history.react device input).1 = none ∧
        GoesOn history.responder (history.next device input).responder := by
  cases input with
  | request agent message =>
      exact Responder.answerRequest_begins history.responder device history.state agent message
  | reply agent message =>
      exact .inr ⟨rfl, Responder.takeReply_goesOn history.responder agent message⟩
  | progress => exact .inr ⟨rfl, Responder.progress_goesOn history.responder⟩

/-- While an update runs, the size that the device goes by is the one that was negotiated when it
began. -/
theorem run_negotiated {start : ResponderHistory σ} (idle : start.responder.state = .idle)
    {inputs : List ResponderInput} (running : (start.run device inputs).responder.state ≠ .idle) :
    ∃ update, (start.updates device inputs).getLast? = some update ∧
      (start.run device inputs).responder.maxTransfer = update.negotiated := by
  induction inputs using List.reverseRecOn with
  | nil => exact absurd idle running
  | append_singleton front input ih =>
      rw [run_append] at running ⊢
      rw [updates, gathered_append, gathered_singleton]
      rcases next_begins device (start.run device front) input with
        ⟨update, accepted, begins⟩ | ⟨none, goes⟩
      · rw [accepted]
        exact ⟨update, List.getLast?_concat, begins.transfer⟩
      · rcases goes with ended | ⟨before, same⟩
        · exact absurd ended running
        · obtain ⟨update, last, negotiated⟩ := ih before
          rw [none, Option.toList_none, List.append_nil]
          exact ⟨update, last, same.trans negotiated⟩

end ResponderHistory

end FirmwareUpdate
