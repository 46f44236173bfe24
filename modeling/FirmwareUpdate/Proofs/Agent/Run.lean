import FirmwareUpdate.Proofs.Agent.Step

/-!
# Runs of a session

A session can be asked to issue commands, to take responses and to answer requests of
the device, in any order and with any bytes, and it can be reset or given another plan.
`Session.run` follows it. Only `load` changes the plan, and only for a plan without
fault, so the sizes of a plan fit their fields in every run.
-/

namespace FirmwareUpdate

open Wire

/-! ## Refusals -/

/-- No code that reports a codec failure is a success. -/
theorem CompletionCode.isSuccess_ofCodecError (error : CodecError) :
    (ofCodecError error).isSuccess = false := by
  cases error <;> rfl

/-- No code that reports a failed transfer is a success. -/
theorem TransferError.isSuccess_completionCode (error : TransferError) :
    error.completionCode.isSuccess = false := by
  cases error with
  | noDataAvailable kind => cases kind <;> rfl
  | _ => rfl

/-- A body that cannot be written is no success. -/
theorem CompletionCode.isSuccess_of_mapError {α : Type} {result : Except CodecError α}
    {cc : CompletionCode} (refused : result.mapError ofCodecError = .error cc) :
    cc.isSuccess = false := by
  cases result with
  | ok value => cases refused
  | error error =>
      cases refused
      exact isSuccess_ofCodecError error

/-! ## Plans -/

/-- A plan that an agent can send. -/
def UpdatePlan.Sound (plan : UpdatePlan) : Prop := plan.fault? = none

namespace UpdatePlan

variable {plan : UpdatePlan}

/-- The sizes of a sound plan fit their fields. -/
theorem Sound.sizes (sound : plan.Sound) :
    plan.components ≠ [] ∧ plan.components.length < 65536 ∧ plan.packageData.length < 65536 ∧
      plan.version.bytes.length < 256 := by
  simp only [Sound, fault?] at sound
  repeat' split at sound
  all_goals try cases sound
  rename_i some few package version
  exact ⟨by simpa using some, by omega, by omega, by omega⟩

/-- The sizes of each component of a sound plan fit their fields. -/
theorem Sound.component (sound : plan.Sound) {component : ComponentImage}
    (member : component ∈ plan.components) :
    component.image.length < 2 ^ 32 ∧ component.version.bytes.length < 256 := by
  simp only [Sound, fault?] at sound
  repeat' split at sound
  all_goals try cases sound
  have none := List.findSome?_eq_none_iff.mp sound component member
  simp only [ComponentImage.fault?, UInt32.size] at none
  repeat' split at none
  all_goals try cases none
  omega

end UpdatePlan

/-- What can happen to a session. -/
inductive SessionInput where
  | issue (command : AgentCommand)
  | process (message : List UInt8)
  | handle (message : List UInt8)
  | reset
  | load (plan : UpdatePlan)

namespace Session

/-- The session after an input. -/
def next (session : Session) : SessionInput → Session
  | .issue command => (session.issue command).2
  | .process message => (session.process message).2
  | .handle message => (session.handleRequest message).2
  | .reset => session.reset
  | .load plan => match session.load plan with
    | .ok loaded => loaded
    | .error _ => session

/-- The session after a sequence of inputs. -/
def run (session : Session) (inputs : List SessionInput) : Session :=
  inputs.foldl next session

/-- What follows a sequence and one more input. -/
theorem run_concat (first : Session) (inputs : List SessionInput) (input : SessionInput) :
    first.run (inputs ++ [input]) = (first.run inputs).next input := by
  unfold run
  rw [List.foldl_append]
  rfl

/-- A session after which the order to a device is the same: plan and settings. -/
def SameOrder (before after : Session) : Prop :=
  after.plan = before.plan ∧ after.settings = before.settings

/-- A body that a session has written is what its layout writes. -/
theorem toMessage_of_mapError {layout : Layout} {body : List UInt8}
    (written : layout.toMessage.mapError UpdateError.codec = .ok body) :
    layout.toMessage = .ok body := by
  cases encoded : layout.toMessage with
  | error error =>
      rw [encoded] at written
      cases written
  | ok other =>
      rw [encoded] at written
      cases written
      rfl

variable (session : Session)

/-- A response that takes effect changes neither plan nor settings. -/
theorem Applies.sameOrder {body : List UInt8} {command : AgentCommand} {after : Session}
    (applies : session.Applies body command after) : SameOrder session after := by
  cases applies <;> exact ⟨rfl, rfl⟩

/-- Serving a request changes neither plan nor settings. -/
theorem Serves.sameOrder {request : Request} {served : Except CompletionCode (List UInt8)}
    {after : Session} (serves : session.Serves request served after) :
    SameOrder session after := by
  cases serves <;> exact ⟨rfl, rfl⟩

/-- Issuing a command changes neither plan nor settings. -/
theorem issue_sameOrder (command : AgentCommand) : SameOrder session (session.issue command).2 := by
  unfold issue
  repeat' split
  all_goals exact ⟨rfl, rfl⟩

/-- Processing a reply changes neither plan nor settings. -/
theorem process_sameOrder (message : List UInt8) :
    SameOrder session (session.process message).2 :=
  of_process (SameOrder session) message ⟨rfl, rfl⟩ (fun applies => applies.sameOrder)
    (fun _ => ⟨rfl, rfl⟩) fun _ => ⟨rfl, rfl⟩

/-- Handling a request changes neither plan nor settings. -/
theorem handleRequest_sameOrder (message : List UInt8) :
    SameOrder session (session.handleRequest message).2 :=
  of_handleRequest (SameOrder session) message ⟨rfl, rfl⟩ fun serves => serves.sameOrder

/-- No refusal of a command is a success. -/
theorem serveCommand_refusal {command : Command} {body : List UInt8} {cc : CompletionCode}
    (refused : (session.serveCommand command body).1 = .error cc) : cc.isSuccess = false := by
  cases command with
  | getPackageData =>
      unfold serveCommand servePackageData at refused
      dsimp only at refused
      split at refused
      · cases refused
        exact CompletionCode.isSuccess_ofCodecError _
      · split at refused
        · cases refused
          exact TransferError.isSuccess_completionCode _
        · exact CompletionCode.isSuccess_of_mapError refused
  | requestFirmwareData =>
      simp only [serveCommand, serveFirmwareData] at refused
      repeat' split at refused
      all_goals cases refused
      · exact CompletionCode.isSuccess_ofCodecError _
      all_goals rfl
  | transferComplete | verifyComplete =>
      simp only [serveCommand, takeReport] at refused
      repeat' split at refused
      all_goals cases refused
      exact CompletionCode.isSuccess_ofCodecError _
  | applyComplete =>
      simp only [serveCommand, takeApplyReport] at refused
      repeat' split at refused
      all_goals cases refused
      exact CompletionCode.isSuccess_ofCodecError _
  | _ =>
      cases refused
      rfl

/-- No refusal of a request is a success. -/
theorem serve_refusal {request : Request} {cc : CompletionCode}
    (refused : (session.serve request).1 = .error cc) : cc.isSuccess = false := by
  unfold serve at refused
  split at refused
  · cases refused
    rfl
  · split at refused
    · cases refused
      rfl
    · split at refused
      · cases refused
        rfl
      · cases refused
        split <;> rfl
      · exact serveCommand_refusal session refused

/-- A plan is refused, or it has no fault and the session begins again with it. -/
theorem next_load (plan : UpdatePlan) :
    session.next (.load plan) = session ∨
      plan.Sound ∧ session.next (.load plan) = { session with plan }.reset := by
  unfold next load
  dsimp only
  split
  · rename_i loaded succeeded
    repeat' split at succeeded
    all_goals try cases succeeded
    rename_i faultless
    exact .inr ⟨faultless, rfl⟩
  · exact .inl rfl

/-- The plan stays sound, whatever happens. -/
theorem next_sound {session : Session} (sound : session.plan.Sound) (input : SessionInput) :
    (session.next input).plan.Sound := by
  cases input with
  | issue command => exact (issue_sameOrder session command).1 ▸ sound
  | process message => exact (process_sameOrder session message).1 ▸ sound
  | handle message => exact (handleRequest_sameOrder session message).1 ▸ sound
  | reset => exact sound
  | load plan =>
      rcases next_load session plan with refused | ⟨faultless, loaded⟩
      · rw [refused]
        exact sound
      · rw [loaded]
        exact faultless

/-- A sound plan is sound after any inputs. -/
theorem run_sound {session : Session} (sound : session.plan.Sound) (inputs : List SessionInput) :
    (session.run inputs).plan.Sound := by
  induction inputs generalizing session with
  | nil => exact sound
  | cons input rest ih => exact ih (next_sound sound input)

/-- A response that takes effect uses up no number. -/
theorem Applies.nextIid {body : List UInt8} {command : AgentCommand} {after : Session}
    (applies : session.Applies body command after) : after.nextIid = session.nextIid := by
  cases applies <;> rfl

/-- Serving a request uses up no number. -/
theorem Serves.nextIid {request : Request} {served : Except CompletionCode (List UInt8)}
    {after : Session} (serves : session.Serves request served after) :
    after.nextIid = session.nextIid := by
  cases serves <;> rfl

/-- The numbers of requests fit their bits, whatever happens. -/
theorem next_fits {session : Session} (fits : FitsInstance session.nextIid) (input : SessionInput) :
    FitsInstance (session.next input).nextIid := by
  cases input with
  | issue command =>
      show FitsInstance (session.issue command).2.nextIid
      unfold issue
      repeat' split
      all_goals first | exact fits | exact fitsInstance_nextInstance _
  | process message =>
      have same : (session.process message).2.nextIid = session.nextIid :=
        of_process (·.nextIid = session.nextIid) message rfl (fun applies => applies.nextIid)
          (fun _ => rfl) fun _ => rfl
      exact same ▸ fits
  | handle message =>
      have same : (session.handleRequest message).2.nextIid = session.nextIid :=
        of_handleRequest (·.nextIid = session.nextIid) message rfl fun serves => serves.nextIid
      exact same ▸ fits
  | reset => exact fits
  | load plan =>
      rcases next_load session plan with refused | ⟨-, loaded⟩
      · rw [refused]
        exact fits
      · rw [loaded]
        exact fits

/-- The number of the next request stays in range. -/
theorem run_fits {session : Session} (fits : FitsInstance session.nextIid)
    (inputs : List SessionInput) : FitsInstance (session.run inputs).nextIid := by
  induction inputs generalizing session with
  | nil => exact fits
  | cons input rest ih => exact ih (next_fits fits input)

/-- A session begins with a sound plan and with settings that every device accepts. -/
theorem sound_of_start {settings : AgentSettings} {plan : UpdatePlan} {session : Session}
    (started : start settings plan = .ok session) :
    plan.Sound ∧ baselineTransfer ≤ settings.maxTransferSize.toNat ∧
      session = { settings, plan, outcomes := freshOutcomes plan } := by
  unfold start at started
  repeat' split at started
  all_goals try cases started
  rename_i enough faultless
  exact ⟨faultless, by omega, rfl⟩

end Session

end FirmwareUpdate
