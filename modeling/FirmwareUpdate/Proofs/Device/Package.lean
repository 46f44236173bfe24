import FirmwareUpdate.Proofs.Device.Asking
import FirmwareUpdate.Proofs.Device.Beginning
import FirmwareUpdate.Proofs.Device.Notification
import FirmwareUpdate.Proofs.Device.Soundness

/-!
# Package data are handed over once and complete

A device that pulls package data hands them over when the last portion has arrived, and then the
pull is over: nothing more is asked for in that update. A pull that does not get on begins again,
but not for ever. What one reaction can do to a pull is `PullStep`; what is left of an update
after some reactions is `Pulled`.
-/

namespace FirmwareUpdate

open Wire

/-- The package data that the device is given with a call. -/
def DeviceCall.packageData? : DeviceCall → Option (List UInt8)
  | packageData data => some data
  | requestUpdate _ _ | updateComponent _ _ _ | firmwareData _ _ _ _ | verify _ _ | apply _ _
  | activate _ _ | cancelComponent _ => none

/-- The package data that the device is given with an event. -/
def UpdateEvent.packageData? : UpdateEvent → Option (List UInt8)
  | called call => call.packageData?
  | accepted _ => none

/-- The package data that the device has been given, in their order. -/
def handedOver (events : List UpdateEvent) : List (List UInt8) :=
  events.filterMap UpdateEvent.packageData?

namespace DevicePhase

/-- The pull that is under way. -/
def pull? : DevicePhase → Option PackagePull
  | learnComponents pull _ => pull
  | idle _ | readyXfer | download _ _ _ _ _ | verify _ _ | apply _ _ | activate => none

/-- A device that pulls package data learns of components. -/
theorem eq_learnComponents_of_pull? {phase : DevicePhase} {pull : PackagePull}
    (pulls : phase.pull? = some pull) : ∃ passed, phase = learnComponents (some pull) passed := by
  cases phase with
  | learnComponents found passed =>
      cases pulls
      exact ⟨passed, rfl⟩
  | idle _ | readyXfer | download _ _ _ _ _ | verify _ _ | apply _ _ | activate => cases pulls

/-- The reaction takes a reply, and then the pull is another than before and nothing of it is
under way: it has begun again. -/
def restartsPull (before : DevicePhase) (output : ResponderOutput) (after : DevicePhase) : Bool :=
  match output, before.pull?, after.pull? with
  | .taken (.ok ()), some pull, some again => again ≠ pull && !again.transfer.inProgress
  | _, _, _ => false

/-- What a reaction with which no update begins can do to a pull, whether it begins the pull
again, and what package data the device is given. -/
inductive PullStep : DevicePhase → Bool → List (List UInt8) → DevicePhase → Prop where
  /-- There is no pull any more, or there was none. -/
  | ended {before after : DevicePhase} (none : after.pull? = none) : PullStep before false [] after
  | goesOn {pull again : PackagePull} {was passed : Bool}
      (size : again.transfer.totalSize = pull.transfer.totalSize)
      (count : again.restarts = pull.restarts) :
      PullStep (learnComponents (some pull) was) false [] (learnComponents (some again) passed)
  | restarted {pull again : PackagePull} {passed : Bool}
      (few : pull.restarts < PackagePull.maxRestarts)
      (size : again.transfer.totalSize = pull.transfer.totalSize)
      (count : again.restarts = pull.restarts + 1) :
      PullStep (learnComponents (some pull) passed) true [] (learnComponents (some again) passed)
  | handedOver {pull : PackagePull} {passed : Bool} {data : List UInt8}
      (whole : data.length = pull.transfer.totalSize) :
      PullStep (learnComponents (some pull) passed) false [data] (learnComponents none passed)

namespace PullStep

variable {before after : DevicePhase} {restarted : Bool} {given : List (List UInt8)}

/-- A pull stays over. -/
theorem stays (step : PullStep before restarted given after) (none : before.pull? = none) :
    after.pull? = .none ∧ given = [] := by
  cases step with
  | ended none => exact ⟨none, rfl⟩
  | goesOn | restarted | handedOver => cases none

/-- Package data are handed over while the device learns of components. -/
theorem learning (step : PullStep before restarted given after) (some : given ≠ []) :
    before.state = .learnComponents ∧ after.state = .learnComponents := by
  cases step with
  | handedOver => exact ⟨rfl, rfl⟩
  | ended | goesOn | restarted => exact absurd rfl some

end PullStep

end DevicePhase

/-- A pull that begins again had a restart left, and has one less. -/
theorem PackagePull.restart?_eq_some {pull again : PackagePull}
    (restarts : pull.restart? = some again) :
    pull.restarts < maxRestarts ∧ again.restarts = pull.restarts + 1 ∧
      again.transfer = pull.transfer.reset := by
  unfold restart? at restarts
  split at restarts
  · cases restarts
  · cases restarts
    exact ⟨Nat.lt_of_not_le ‹_›, rfl, rfl⟩

/-! ## One reaction -/

namespace Responder

variable {σ : Type}

/-- A reaction of a recorded device from an empty record gives it no package data, and leaves the
pull as it is or ends it. -/
structure LeavesPull (before : DevicePhase) (after : Responder × σ × List DeviceCall) : Prop where
  quiet : after.2.2.filterMap DeviceCall.packageData? = []
  pull : after.1.phase.pull? = none ∨ after.1.phase.pull? = before.pull?

/-- A reaction of a recorded device from an empty record is a step of its pull, with which the
pull may begin again. -/
def MovesPull (before : DevicePhase) (restarted : Bool)
    (after : Responder × σ × List DeviceCall) : Prop :=
  before.PullStep restarted (after.2.2.filterMap DeviceCall.packageData?) after.1.phase

/-- A pull that is left as it is, or that ends, does not begin again. -/
theorem LeavesPull.moves {before : DevicePhase} {after : Responder × σ × List DeviceCall}
    (leaves : LeavesPull before after) : MovesPull before false after := by
  obtain ⟨quiet, same⟩ := leaves
  unfold MovesPull
  rw [quiet]
  cases pulls : after.1.phase.pull? with
  | none => exact .ended pulls
  | some pull =>
      have was := (same.resolve_left (by rw [pulls]; nofun)).symm.trans pulls
      obtain ⟨passed, phase⟩ := DevicePhase.eq_learnComponents_of_pull? pulls
      obtain ⟨earlier, before⟩ := DevicePhase.eq_learnComponents_of_pull? was
      rw [phase, before]
      exact .goesOn rfl rfl

section

variable (responder : Responder) (device : Device σ) (state : σ)

/-- A responder that does nothing leaves its pull alone. -/
theorem leavesPull_refl : LeavesPull responder.phase (responder, state, []) := ⟨rfl, .inr rfl⟩

/-! ### Requests of an agent -/

variable (request : Request)

/-- A question about a component gives the device no package data. -/
theorem checkComponent_quiet (begins : Bool) (record : ComponentRecord) :
    (checkComponent device.recorded begins record (state, [])).2.2.filterMap
      DeviceCall.packageData? = [] := by
  rcases checkComponent_record device state begins record with ⟨-, asked⟩ | asked <;>
    rw [asked] <;> rfl

/-- A request for an update gives the device no package data. -/
theorem answerUpdate_quiet (agent : EndpointId) :
    (responder.answerUpdate device.recorded agent request (state, [])).2.2.2.filterMap
      DeviceCall.packageData? = [] := by
  unfold answerUpdate
  split
  · split
    · rfl
    · rename_i update _
      rw [Device.recorded_requestUpdate]
      cases asked : device.requestUpdate update state with
      | mk policy later =>
          cases policy with
          | retry | unable => rfl
          | accept =>
              simp only [Device.noting, acceptUpdate]
              split <;> rfl
  · rfl

/-- An entry of the component table is announced once the pull is over. -/
theorem answerTableEntry_leavesPull :
    LeavesPull responder.phase
      (responder.answerTableEntry device.recorded request (state, [])).2 := by
  unfold answerTableEntry
  split
  · rename_i pull passed learning
    split
    · exact leavesPull_refl ..
    · split
      · exact leavesPull_refl ..
      · refine ⟨checkComponent_quiet device _ false _, ?_⟩
        dsimp only
        split
        · exact .inl rfl
        · exact .inr (by rw [learning]; rfl)
  · exact leavesPull_refl ..

/-- A component begins to be updated once the pull is over. -/
theorem answerComponent_leavesPull :
    LeavesPull responder.phase
      (responder.answerComponent device.recorded request (state, [])).2 := by
  unfold answerComponent
  split
  · split
    · exact leavesPull_refl ..
    · refine ⟨checkComponent_quiet device _ true _, ?_⟩
      dsimp only
      split
      · exact .inl rfl
      · exact .inr rfl
  · exact leavesPull_refl ..

/-- Whatever the command is, an update that goes on keeps its pull or has ended it. -/
theorem answerCommand_leavesPull (agent : EndpointId) {command : Command}
    (goes : GoesOn responder
      (responder.answerCommand device.recorded agent request (state, []) command).2.1) :
    LeavesPull responder.phase
      (responder.answerCommand device.recorded agent request (state, []) command).2 := by
  have refl := leavesPull_refl responder state
  cases command with
  | requestUpdate =>
      -- an update that begins here would not go on from anything
      refine ⟨answerUpdate_quiet responder device state request agent, ?_⟩
      rcases responder.answerUpdate_begins device state agent request with
        ⟨update, body, -, -, begins⟩ | ⟨-, -, -, kept⟩
      · rcases goes with idle | ⟨running, -⟩
        · exact nomatch (congrArg DevicePhase.state begins.phase).symm.trans idle
        · exact absurd begins.idle running
      · exact .inr (congrArg (fun after => after.phase.pull?) kept)
  | passComponentTable => exact answerTableEntry_leavesPull ..
  | updateComponent => exact answerComponent_leavesPull ..
  | getDeviceMetaData =>
      simp only [answerCommand, answerMetadata]
      repeat' split
      all_goals exact ⟨rfl, .inr rfl⟩
  | activateFirmware =>
      simp only [answerCommand, answerActivation]
      repeat' split
      all_goals first | exact refl | exact ⟨rfl, .inl rfl⟩ | exact ⟨rfl, .inr rfl⟩
  | cancelUpdate =>
      simp only [answerCommand, answerCancel]
      repeat' split
      all_goals first | exact refl | exact ⟨rfl, .inl rfl⟩
  | cancelUpdateComponent =>
      simp only [answerCommand, answerCancelComponent]
      repeat' split
      all_goals first | exact refl | exact ⟨rfl, .inl rfl⟩
  | queryDeviceIdentifiers =>
      simp only [answerCommand, answerIdentifiers]
      split <;> exact ⟨rfl, .inr rfl⟩
  | getFirmwareParameters =>
      simp only [answerCommand, answerParameters]
      split <;> exact ⟨rfl, .inr rfl⟩
  | getStatus =>
      simp only [answerCommand, answerStatus]
      split <;> exact ⟨rfl, .inr rfl⟩
  | _ => exact refl

/-- Whatever the request is, an update that goes on keeps its pull or has ended it. -/
theorem answerRequest_leavesPull (agent : EndpointId) (message : List UInt8)
    (goes : GoesOn responder
      (responder.answerRequest device.recorded agent message (state, [])).2.1) :
    LeavesPull responder.phase
      (responder.answerRequest device.recorded agent message (state, [])).2 := by
  cases parsed : Request.parse message with
  | error error =>
      unfold answerRequest
      rw [parsed]
      exact leavesPull_refl ..
  | ok request =>
      rw [answerRequest_of_parse responder device.recorded agent parsed] at goes ⊢
      rcases responder.answer_cases device.recorded agent request (state, []) with
        ⟨cc, -, refused, -⟩ | ⟨command, -, -, same⟩
      · rw [refused]
        exact leavesPull_refl ..
      · rw [same] at goes ⊢
        exact responder.answerCommand_leavesPull device state request agent goes

end

section

variable {responder : Responder} (device : Device σ) (state : σ)

/-! ### Requests of the device -/

/-- A reading of the clock leaves everything as it is. -/
theorem leavesPull_of_isDue {exchange : Exchange} {due : Bool} {later : σ × List DeviceCall}
    (asked : exchange.isDue device.recorded (state, []) = (due, later)) :
    LeavesPull responder.phase (responder, later) :=
  ⟨by rw [isDue_record device state asked]; rfl, .inr rfl⟩

/-- A request for the next portion leaves what has been pulled. -/
theorem progressPull_moves {pull : PackagePull} {passed : Bool}
    (pulling : responder.phase = .learnComponents (some pull) passed) :
    MovesPull responder.phase false
      (responder.progressPull device.recorded pull passed (state, [])).2 := by
  unfold progressPull
  split
  · exact (leavesPull_of_isDue device state ‹_›).moves
  · rename_i later due
    split
    · exact (leavesPull_of_isDue device state due).moves
    · simp only [MovesPull, markSent, Device.recorded_now, isDue_record device state due, pulling]
      exact .goesOn rfl rfl

/-- Asking for firmware data leaves the pull alone. -/
theorem progressDownload_leavesPull (offset : Nat) (result : Option TransferResult)
    (exchange : Exchange) (options : UInt32) (details : ComponentDetails) :
    LeavesPull responder.phase (responder.progressDownload device.recorded offset result exchange
      options details (state, [])).2 := by
  unfold progressDownload
  split
  · exact leavesPull_of_isDue device state ‹_›
  · rename_i later due
    have record := isDue_record device state due
    cases result with
    | some result =>
        dsimp only
        split
        · exact leavesPull_of_isDue device state due
        · refine ⟨by rw [record]; rfl, ?_⟩
          dsimp only
          split <;> exact .inl rfl
    | none =>
        dsimp only
        split
        · exact leavesPull_of_isDue device state due
        · exact ⟨by simp only [markSent, Device.recorded_now, record]; rfl, .inl rfl⟩

/-- Checking an image leaves the pull alone. -/
theorem progressVerify_leavesPull (exchange : Exchange) (details : ComponentDetails) :
    LeavesPull responder.phase
      (responder.progressVerify device.recorded exchange details (state, [])).2 := by
  unfold progressVerify
  split
  · exact leavesPull_of_isDue device state ‹_›
  · rename_i later due
    have record := isDue_record device state due
    dsimp only [Device.recorded_verify, Device.noting]
    split
    · exact ⟨by rw [record]; rfl, .inr rfl⟩
    · refine ⟨by rw [record]; rfl, ?_⟩
      dsimp only
      split <;> exact .inl rfl

/-- Applying an image leaves the pull alone. -/
theorem progressApply_leavesPull (exchange : Exchange) (details : ComponentDetails) :
    LeavesPull responder.phase
      (responder.progressApply device.recorded exchange details (state, [])).2 := by
  unfold progressApply
  split
  · exact leavesPull_of_isDue device state ‹_›
  · rename_i later due
    have record := isDue_record device state due
    dsimp only [Device.recorded_apply, Device.noting]
    split
    · exact ⟨by rw [record]; rfl, .inr rfl⟩
    · refine ⟨by rw [record]; rfl, ?_⟩
      dsimp only
      split <;> exact .inl rfl

/-- Whatever a responder does of itself, its pull does not begin again. -/
theorem progress_moves :
    MovesPull responder.phase false (responder.progress device.recorded (state, [])).2 := by
  unfold progress
  split
  · exact (leavesPull_refl ..).moves
  · dsimp only [Device.recorded_now]
    split
    · refine LeavesPull.moves ⟨?_, .inl rfl⟩
      unfold giveUp
      dsimp only
      split <;> rfl
    · unfold progressPhase
      split
      · exact progressPull_moves device _ ‹_›
      · exact (progressDownload_leavesPull ..).moves
      · exact (progressVerify_leavesPull ..).moves
      · exact (progressApply_leavesPull ..).moves
      all_goals exact (leavesPull_refl ..).moves

/-! ### Replies to the device -/

/-- A pull that is over has not begun again. -/
theorem restartsPull_of_ended {before after : DevicePhase} (output : ResponderOutput)
    (ended : after.pull? = none) : before.restartsPull output after = false := by
  unfold DevicePhase.restartsPull
  rw [ended]
  split
  · rename_i found
    cases found
  · rfl

/-- A pull that is left as it is has not begun again. -/
theorem restartsPull_of_same {before after : DevicePhase} (output : ResponderOutput)
    (same : after.pull? = before.pull?) : before.restartsPull output after = false := by
  unfold DevicePhase.restartsPull
  rw [same]
  split
  · rename_i was is
    cases was.symm.trans is
    simp
  · rfl

/-- Whether a step begins the pull again is for the reaction to say. -/
theorem MovesPull.of_eq {before : DevicePhase} {restarted : Bool} {output : ResponderOutput}
    {after : Responder × σ × List DeviceCall} (moves : MovesPull before restarted after)
    (same : before.restartsPull output after.1.phase = restarted) :
    MovesPull before (before.restartsPull output after.1.phase) after := same ▸ moves

/-- A pull that is left as it is, or that ends, has not begun again, whatever the outcome. -/
theorem LeavesPull.moves_of_reaction {before : DevicePhase}
    {after : Responder × σ × List DeviceCall} (leaves : LeavesPull before after)
    (output : ResponderOutput) :
    MovesPull before (before.restartsPull output after.1.phase) after :=
  leaves.moves.of_eq (leaves.pull.elim (restartsPull_of_ended _) (restartsPull_of_same _))

section

variable {pull : PackagePull} {passed : Bool}
  (learning : responder.phase = .learnComponents (some pull) passed)

include learning

/-- A pull begins again, or ends without data. -/
theorem restartPull_moves (exchange : Exchange) :
    let after := responder.restartPull device.recorded { pull with exchange } passed (state, [])
    MovesPull responder.phase
      (responder.phase.restartsPull (.taken (.ok ())) after.1.phase) after := by
  unfold restartPull
  split
  · rename_i again begun
    obtain ⟨few, count, transfer⟩ := PackagePull.restart?_eq_some begun
    -- the counter alone tells the two pulls apart: a first portion may have failed at once
    have other : again ≠ pull := by
      rintro rfl
      exact absurd count (by simp)
    rw [learning]
    refine MovesPull.of_eq (.restarted few (by rw [transfer]; rfl) count) ?_
    simp [DevicePhase.restartsPull, DevicePhase.pull?, continuePull, touch, other, transfer,
      Transfer.reset]
  · exact LeavesPull.moves_of_reaction ⟨rfl, .inl rfl⟩ _

/-- A portion is added to the data, completes them, or does not fit. -/
theorem takePart_moves (exchange : Exchange) (response : Response) :
    let after :=
      responder.takePart device.recorded { pull with exchange } passed response (state, [])
    MovesPull responder.phase
      (responder.phase.restartsPull (.taken after.1) after.2.1.phase) after.2 := by
  unfold takePart
  split
  · split
    · rw [learning]
      exact .goesOn rfl rfl
    · split
      · exact restartPull_moves device state learning exchange
      · rename_i transfer data accepted
        split
        · rename_i more
          rw [learning]
          refine MovesPull.of_eq (.goesOn (Transfer.length_of_accept accepted).1 rfl) ?_
          simp [DevicePhase.restartsPull, DevicePhase.pull?, continuePull, touch, more]
        · rename_i complete
          have whole := Transfer.length_of_completed accepted (by simpa using complete)
          rw [learning]
          exact MovesPull.of_eq (.handedOver whole) rfl
  · split
    · exact restartPull_moves device state learning exchange
    · exact LeavesPull.moves_of_reaction ⟨rfl, .inl rfl⟩ _

end

/-- A piece of an image is not a portion of package data. -/
theorem takeData_leavesPull (lastActivity : Nat) (offset : Nat) (exchange : Exchange)
    (options : UInt32) (details : ComponentDetails) (response : Response) :
    LeavesPull responder.phase (({ responder with lastActivity } : Responder).takeData
      device.recorded offset exchange options details response (state, [])) := by
  unfold takeData
  split
  · exact ⟨rfl, .inl rfl⟩
  · split
    · split
      · refine ⟨rfl, ?_⟩
        dsimp only [afterData]
        split <;> exact .inl rfl
      · exact ⟨rfl, .inl rfl⟩
    · exact ⟨rfl, .inl rfl⟩

/-- A response is at most one step of the pull, and alone can have it begin again. -/
theorem takeReply_moves (agent : EndpointId) (message : List UInt8) :
    let after := responder.takeReply device.recorded agent message (state, [])
    MovesPull responder.phase
      (responder.phase.restartsPull (.taken after.1) after.2.1.phase) after.2 := by
  have refl (outcome : Except UpdateError Unit) :=
    (leavesPull_refl responder state).moves_of_reaction (.taken outcome)
  unfold takeReply
  split
  · exact refl _
  · split
    · exact refl _
    · split
      · unfold takePackageReply
        split
        · split
          · exact takePart_moves device state ‹_› _ _
          · exact refl _
        · exact refl _
      · unfold takeDataReply
        split
        · split
          · exact (takeData_leavesPull ..).moves_of_reaction _
          · exact refl _
        · exact refl _
      all_goals exact refl _

end

end Responder

/-! ## Runs -/

namespace ResponderHistory

variable {σ : Type} (device : Device σ) (history : ResponderHistory σ)

/-- The replies with which a pull begins again. -/
def restarts (inputs : List ResponderInput) : List ResponderInput :=
  history.gathered device (fun history input =>
    if history.responder.phase.restartsPull (history.react device input).1
      (history.next device input).responder.phase then some input else none) inputs

/-- One more input adds at most one restart to those of the run so far. -/
theorem length_restarts_concat (front : List ResponderInput) (input : ResponderInput) :
    (history.restarts device (front ++ [input])).length = (history.restarts device front).length +
      ((history.run device front).responder.phase.restartsPull
        ((history.run device front).react device input).1
        ((history.run device front).next device input).responder.phase).toNat := by
  rw [restarts, gathered_append, gathered_singleton, List.length_append, ← restarts]
  congr 1
  cases DevicePhase.restartsPull .. <;> rfl

/-- What a reaction hands over comes behind what the device had. -/
theorem handedOver_next (input : ResponderInput) :
    handedOver (history.next device input).events = handedOver history.events ++
      (history.react device input).2.2.2.filterMap DeviceCall.packageData? := by
  have none : (((input.accepted? (history.react device input).1).map UpdateEvent.accepted).toList
      ).filterMap UpdateEvent.packageData? = [] := by
    cases input.accepted? (history.react device input).1 <;> rfl
  have same : UpdateEvent.packageData? ∘ UpdateEvent.called = DeviceCall.packageData? := rfl
  show (history.events ++ (_ ++ _)).filterMap _ = _
  rw [List.filterMap_append, List.filterMap_append, none, List.append_nil, List.filterMap_map, same]
  rfl

/-- A reaction with which no update begins is a step of the pull. -/
theorem next_pulls {input : ResponderInput}
    (none : input.acceptedUpdate? (history.react device input).1 = none) :
    history.responder.phase.PullStep
      (history.responder.phase.restartsPull (history.react device input).1
        (history.next device input).responder.phase)
      ((history.react device input).2.2.2.filterMap DeviceCall.packageData?)
      (history.next device input).responder.phase := by
  rcases next_begins device history input with ⟨update, accepted, -⟩ | ⟨-, goes⟩
  · cases none.symm.trans accepted
  · cases input with
    | request agent message =>
        exact (Responder.answerRequest_leavesPull _ device history.state agent message
          goes).moves_of_reaction (.answer _)
    | reply agent message => exact Responder.takeReply_moves device history.state agent message
    | progress =>
        exact Responder.MovesPull.of_eq (Responder.progress_moves device history.state) rfl

/-- Package data are handed over while the device learns of components. -/
theorem learning_of_handedOver {input : ResponderInput} {data : List UInt8}
    (given : .packageData data ∈ (history.react device input).2.2.2) :
    history.responder.state = .learnComponents ∧
      (history.next device input).responder.state = .learnComponents := by
  cases accepted : input.acceptedUpdate? (history.react device input).1 with
  | none =>
      refine (history.next_pulls device accepted).learning (List.ne_nil_of_mem (a := data) ?_)
      exact List.mem_filterMap.mpr ⟨_, given, rfl⟩
  | some update =>
      rcases next_begins device history input with ⟨found, -, begins⟩ | ⟨none, -⟩
      · rw [begins.calls] at given
        cases given with
        | tail _ rest => cases rest
      · cases none.symm.trans accepted

/-- A device that pulls nothing asks for no package data. -/
theorem not_asksFor_of_ended {history : ResponderHistory σ}
    (ended : history.responder.phase.pull? = none) {input : ResponderInput} {message : List UInt8}
    (made : (history.react device input).1.request? = some message) :
    ¬ AsksFor message .getPackageData := by
  rintro ⟨request, parsed, asks⟩
  cases input with
  | request | reply => cases made
  | progress =>
      cases Responder.due_of_made made parsed asks with
      | portion pulling =>
          rw [pulling] at ended
          cases ended
      | report noPortion => exact noPortion rfl

/-- When a pull is over, nothing more is pulled as long as no update begins. -/
theorem run_ended {history : ResponderHistory σ} (ended : history.responder.phase.pull? = none)
    {inputs : List ResponderInput} (same : history.updates device inputs = []) :
    (history.run device inputs).responder.phase.pull? = none ∧
      handedOver (history.run device inputs).events = handedOver history.events ∧
      ∀ message ∈ history.requests device inputs, ¬ AsksFor message .getPackageData := by
  induction inputs using List.reverseRecOn with
  | nil => exact ⟨ended, rfl, nofun⟩
  | append_singleton front input ih =>
      obtain ⟨earlier, none⟩ := (history.updates_concat_eq_nil device front input).mp same
      obtain ⟨already, kept, quiet⟩ := ih earlier
      obtain ⟨still, nothing⟩ := ((history.run device front).next_pulls device none).stays already
      rw [run_concat, requests, gathered_append, gathered_singleton]
      refine ⟨still, ?_, fun message made => ?_⟩
      · rw [handedOver_next, nothing, List.append_nil, kept]
      · rcases List.mem_append.mp made with earlier | last
        · exact quiet message earlier
        · exact not_asksFor_of_ended device already (Option.mem_toList.mp last)

end ResponderHistory

/-- What is left of an update after some reactions: the phase, the package data that were handed
over, and how often the pull has begun again. -/
inductive Pulled (update : UpdateRequest) (wanted : Bool) :
    DevicePhase → List (List UInt8) → Nat → Prop where
  | pulling {pull : PackagePull} {passed : Bool} (declared : 0 < update.packageDataSize.toNat)
      (wants : wanted = true) (size : pull.transfer.totalSize = update.packageDataSize.toNat)
      (few : pull.restarts ≤ PackagePull.maxRestarts) :
      Pulled update wanted (.learnComponents (some pull) passed) [] pull.restarts
  | without {phase : DevicePhase} {restarts : Nat} (ended : phase.pull? = none)
      (few : restarts ≤ PackagePull.maxRestarts) : Pulled update wanted phase [] restarts
  | delivered {phase : DevicePhase} {restarts : Nat} {data : List UInt8}
      (ended : phase.pull? = none) (few : restarts ≤ PackagePull.maxRestarts)
      (declared : 0 < update.packageDataSize.toNat) (wants : wanted = true)
      (whole : data.length = update.packageDataSize.toNat) :
      Pulled update wanted phase [data] restarts

namespace Pulled

variable {update : UpdateRequest} {wanted : Bool} {before after : DevicePhase}
  {had given : List (List UInt8)} {count : Nat} {restarted : Bool}

/-- An update begins with a pull that has everything before it, or without one. -/
theorem begins (update : UpdateRequest) (wanted passed : Bool) :
    Pulled update wanted (.learnComponents (update.pull? wanted) passed) [] 0 := by
  unfold UpdateRequest.pull?
  split
  · rename_i both
    rw [Bool.and_eq_true, decide_eq_true_eq] at both
    exact .pulling both.1 both.2 rfl (Nat.zero_le _)
  · exact .without rfl (Nat.zero_le _)

/-- A reaction leaves of an update what it should. -/
theorem step (pulled : Pulled update wanted before had count)
    (step : before.PullStep restarted given after) :
    Pulled update wanted after (had ++ given) (count + restarted.toNat) := by
  cases pulled with
  | without ended few =>
      obtain ⟨still, rfl⟩ := step.stays ended
      cases step with
      | ended => exact .without still few
      | goesOn | restarted => cases ended
  | delivered ended few declared wants whole =>
      obtain ⟨still, rfl⟩ := step.stays ended
      cases step with
      | ended => exact .delivered still few declared wants whole
      | goesOn | restarted => cases ended
  | pulling declared wants size few =>
      cases step with
      | ended none => exact .without none few
      | goesOn same count =>
          rw [← count] at few ⊢
          exact .pulling declared wants (same.trans size) few
      | restarted left same count =>
          rw [Bool.toNat_true, ← count]
          exact .pulling declared wants (same.trans size) (by omega)
      | handedOver whole => exact .delivered rfl few declared wants (whole.trans size)

/-- How often a pull has begun again. -/
theorem few (pulled : Pulled update wanted before had count) : count ≤ PackagePull.maxRestarts := by
  cases pulled <;> assumption

/-- What has been handed over. -/
theorem complete (pulled : Pulled update wanted before had count) :
    had.length ≤ 1 ∧ ∀ data ∈ had, 0 < update.packageDataSize.toNat ∧ wanted = true ∧
      data.length = update.packageDataSize.toNat := by
  cases pulled with
  | pulling | without => exact ⟨Nat.zero_le _, nofun⟩
  | delivered _ _ declared wants whole =>
      refine ⟨Nat.le_refl _, fun data member => ?_⟩
      cases List.mem_singleton.mp member
      exact ⟨declared, wants, whole⟩

/-- Reactions with which no other update begins leave of an update what they should. -/
theorem run {σ : Type} {device : Device σ} {begun : ResponderHistory σ}
    (pulled : Pulled update wanted begun.responder.phase [] 0) {during : List ResponderInput}
    (same : begun.updates device during = []) :
    ∃ given, handedOver (begun.run device during).events = handedOver begun.events ++ given ∧
      Pulled update wanted (begun.run device during).responder.phase given
        (begun.restarts device during).length := by
  induction during using List.reverseRecOn with
  | nil => exact ⟨[], (List.append_nil _).symm, pulled⟩
  | append_singleton front input ih =>
      obtain ⟨earlier, none⟩ := (begun.updates_concat_eq_nil device front input).mp same
      obtain ⟨given, added, reached⟩ := ih earlier
      rw [ResponderHistory.run_concat, ResponderHistory.length_restarts_concat,
        ResponderHistory.handedOver_next, added, List.append_assoc]
      exact ⟨_, rfl, reached.step ((begun.run device front).next_pulls device none)⟩

end Pulled

/-- In every run of a responder, package data are handed over only while it learns of components,
and none before an update has begun. As long as no other update begins, they are handed over at
most once in an update, only if its request has declared any and the device wants them, and all
that were declared. The pull begins again at most twice, and once there is none any more, nothing
of the package data is asked for. -/
theorem package_data_handed_over_complete {σ : Type} (device : Device σ) (size : Nat) (state : σ)
    (earlier : List ResponderInput) :
    let start : ResponderHistory σ := { responder := .withMaxMessage size, state }
    let before := start.run device earlier
    (∀ input data, .packageData data ∈ (before.react device input).2.2.2 →
      before.responder.state = .learnComponents ∧
        (before.next device input).responder.state = .learnComponents) ∧
    (start.updates device earlier = [] → handedOver before.events = []) ∧
    ∀ begins update during,
      begins.acceptedUpdate? (before.react device begins).1 = some update →
      (before.next device begins).updates device during = [] →
      let begun := before.next device begins
      (∃ given,
        handedOver (begun.run device during).events = handedOver before.events ++ given ∧
        given.length ≤ 1 ∧
        ∀ data ∈ given, 0 < update.packageDataSize.toNat ∧
          device.wantsPackageData (device.requestUpdate update before.state).2 = true ∧
          data.length = update.packageDataSize.toNat) ∧
      (begun.restarts device during).length ≤ 2 ∧
      ∀ front back, during = front ++ back →
        (begun.run device front).responder.phase.pull? = none →
        ∀ message ∈ (begun.run device front).requests device back,
          ¬ AsksFor message .getPackageData := by
  intro start before
  refine ⟨fun input data => before.learning_of_handedOver device, fun none => ?_, ?_⟩
  · exact (ResponderHistory.run_ended device (rfl : start.responder.phase.pull? = .none) none).2.1
  intro begins update during accepted same begun
  -- nothing of an earlier update is left when this one begins
  have initial :
      Pulled update (device.wantsPackageData (device.requestUpdate update before.state).2)
        begun.responder.phase [] 0 ∧ handedOver begun.events = handedOver before.events := by
    rcases ResponderHistory.next_begins device before begins with ⟨found, also, begun⟩ | ⟨none, -⟩
    · cases accepted.symm.trans also
      rw [begun.phase, ResponderHistory.handedOver_next, begun.calls]
      exact ⟨.begins update _ false, List.append_nil _⟩
    · cases none.symm.trans accepted
  obtain ⟨given, added, pulled⟩ := initial.1.run same
  rw [initial.2] at added
  refine ⟨⟨given, added, pulled.complete⟩, pulled.few, ?_⟩
  rintro front back rfl ended
  rw [ResponderHistory.updates, ResponderHistory.gathered_append, List.append_eq_nil_iff] at same
  exact (ResponderHistory.run_ended device ended same.2).2.2

namespace PackageOfThree

/-- A device that wants package data. -/
def device : Device Unit where
  identifiers state := ({}, state)
  components _ := [{ key := { classification := .firmware, identifier := 1 } }]
  activeVersion _ := .raw []
  wantsPackageData _ := true
  updateComponent _ _ state := (0, state)
  firmwareData _ _ _ state := (.success, state)
  verify _ state := (.success, state)
  apply _ state := (.ok .empty, state)
  now state := (1000, state)

/-- The device before the update. -/
def before : ResponderHistory Unit := { responder := .withMaxMessage 4096, state := () }

/-- Begins an update with three bytes of package data. -/
def begins : ResponderInput := .request ⟨8⟩ [0x80, 5, 0x10, 32, 0, 0, 0, 1, 0, 1, 3, 0, 0, 0]

/-- The first request is refused for its handle, and the pull begins again. -/
def during : List ResponderInput :=
  [.progress, .reply ⟨8⟩ [0, 5, 0x11, 0x90],
    .progress, .reply ⟨8⟩ [1, 5, 0x11, 0, 1, 0, 0, 0, 1, 7],
    .progress, .reply ⟨8⟩ [2, 5, 0x11, 0, 0, 0, 0, 0, 4, 8, 9]]

end PackageOfThree

open PackageOfThree in
/-- Three bytes are handed over after the pull has begun again, and not asked for any more. -/
theorem three_bytes_handed_over :
    let begun := before.next device begins
    handedOver (begun.run device (during ++ [.progress])).events = [[7, 8, 9]] ∧
      (begun.restarts device (during ++ [.progress])).length = 1 ∧
      (∀ data ∈ handedOver (begun.run device (during ++ [.progress])).events, data.length = 3) ∧
      ∀ message ∈ (begun.run device during).requests device [.progress],
        ¬ AsksFor message .getPackageData := by
  intro begun
  obtain ⟨-, -, complete⟩ := package_data_handed_over_complete device 4096 () []
  obtain ⟨⟨given, added, -, whole⟩, -, quiet⟩ := complete begins
    { maxTransfer := 32, componentCount := 1, maxOutstanding := 1, packageDataSize := 3,
      version := .raw [] } (during ++ [.progress]) rfl rfl
  have added : handedOver (begun.run device (during ++ [.progress])).events = given := added
  refine ⟨by decide +kernel, by decide +kernel, fun data member => ?_, quiet during _ rfl rfl⟩
  rw [added] at member
  exact (whole data member).2.2

end FirmwareUpdate
