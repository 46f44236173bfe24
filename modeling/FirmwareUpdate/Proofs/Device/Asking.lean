import FirmwareUpdate.Device.Responder
import FirmwareUpdate.Proofs.Message.Envelope

/-!
# What a responder asks for

The requests of a device are numbered one after the other, and a device that waits for
firmware data has asked for them with its latest request. What it asks for belongs to where it is
in an update.
-/

namespace FirmwareUpdate.Responder

open Wire

variable {σ : Type} (responder : Responder) (device : Device σ) (state : σ)

/-- A message that asks for something, numbered with the responder's next identifier, and the
responder after it. A request for firmware data asks for them where the image ends so far;
after any other request the device does not wait for firmware data. A report that the
transfer has ended gives its result. -/
def Asks (message : List UInt8) (after : Responder) : Prop :=
  after.nextIid = nextInstance responder.nextIid ∧
    ∃ (command : Command) (body : List UInt8), message = Request.toBytes
        { iid := responder.nextIid, typ := firmwareUpdateType, cmd := Coded.code command,
          data := body } ∧
      (command = .requestFirmwareData → ∃ offset length cmd time options details,
        (DataRequest.layout { offset := UInt32.ofNat offset, length }).toMessage = .ok body ∧
        after.phase = .download offset none (.sent responder.nextIid cmd time) options details) ∧
      (command ≠ .requestFirmwareData → ∀ offset exchange options details,
        after.phase ≠ .download offset none exchange options details) ∧
      (command = .transferComplete → ∃ offset result exchange options details,
        responder.phase = .download offset (some result) exchange options details ∧
        body = [Coded.code result])

/-- What a call for progress gives: a request, or nothing and no new phase of a component. -/
def Progresses (after : Option (List UInt8) × Responder × σ) : Prop :=
  match after.1 with
  | some message => Asks responder message after.2.1
  | none => after.2.1.nextIid = responder.nextIid ∧
      (after.2.1.phase = responder.phase ∨ after.2.1.phase.details? = none)

/-- Package data are asked for, or nothing is. -/
theorem progressPull_progresses (pull : PackagePull) (passed : Bool) :
    Progresses responder (responder.progressPull device pull passed state) := by
  unfold progressPull
  split
  · exact ⟨rfl, .inl rfl⟩
  · split
    · exact ⟨rfl, .inl rfl⟩
    · exact ⟨rfl, .getPackageData, _, rfl, nofun, nofun, nofun⟩

/-- Firmware data are asked for or reported on, or nothing is done. -/
theorem progressDownload_progresses {offset : Nat} {result : Option TransferResult}
    {exchange : Exchange} {options : UInt32} {details : ComponentDetails}
    (phase : responder.phase = .download offset result exchange options details) :
    Progresses responder
      (responder.progressDownload device offset result exchange options details state) := by
  unfold progressDownload
  split
  · exact ⟨rfl, .inl rfl⟩
  · cases result with
    | some result =>
        dsimp only
        split
        · exact ⟨rfl, .inl rfl⟩
        · rename_i written
          refine ⟨by dsimp only; split <;> rfl, .transferComplete, _, rfl, nofun, fun _ => ?_,
            fun _ => ⟨offset, result, exchange, options, details, phase, ?_⟩⟩
          · intro offset exchange options details
            dsimp only
            split <;> rintro ⟨⟩
          · cases written
            rfl
    | none =>
        dsimp only
        split
        · exact ⟨rfl, .inl rfl⟩
        · rename_i written
          exact ⟨rfl, .requestFirmwareData, _, rfl,
            fun _ => ⟨offset, _, _, _, options, details, written, rfl⟩,
            fun other => absurd rfl other, nofun⟩

/-- The check of an image is reported on, or nothing is done. -/
theorem progressVerify_progresses (exchange : Exchange) (details : ComponentDetails) :
    Progresses responder (responder.progressVerify device exchange details state) := by
  unfold progressVerify
  split
  · exact ⟨rfl, .inl rfl⟩
  · dsimp only
    split
    · exact ⟨rfl, .inl rfl⟩
    · refine ⟨by dsimp only; split <;> rfl, .verifyComplete, _, rfl, nofun, fun _ => ?_, nofun⟩
      intro offset exchange options details
      dsimp only
      split <;> rintro ⟨⟩

/-- The installation of an image is reported on, or nothing is done. -/
theorem progressApply_progresses (exchange : Exchange) (details : ComponentDetails) :
    Progresses responder (responder.progressApply device exchange details state) := by
  unfold progressApply
  split
  · exact ⟨rfl, .inl rfl⟩
  · dsimp only
    split
    · exact ⟨rfl, .inl rfl⟩
    · refine ⟨by dsimp only; split <;> rfl, .applyComplete, _, rfl, nofun, fun _ => ?_, nofun⟩
      intro offset exchange options details
      dsimp only
      split <;> rintro ⟨⟩

/-- Whatever the phase is, a call for progress asks something or does nothing. -/
theorem progress_progresses : Progresses responder (responder.progress device state) := by
  unfold progress
  split
  · exact ⟨rfl, .inl rfl⟩
  · dsimp only
    split
    · exact ⟨rfl, .inr rfl⟩
    · unfold progressPhase
      split
      · exact progressPull_progresses ..
      · exact progressDownload_progresses _ _ _ ‹_›
      · exact progressVerify_progresses ..
      · exact progressApply_progresses ..
      all_goals exact ⟨rfl, .inl rfl⟩

/-- A device that reports a successful transfer has come to the end of it. -/
theorem transferred_of_report {message : List UInt8} {request : Request}
    (asked : (responder.progress device state).1 = some message)
    (parsed : Request.parse message = .ok request)
    (reports : request.cmd = Coded.code Command.transferComplete)
    (success : request.data = [Coded.code TransferResult.success]) :
    ∃ offset exchange options details,
      responder.phase = .download offset (some .success) exchange options details := by
  have progresses := responder.progress_progresses device state
  unfold Progresses at progresses
  rw [asked] at progresses
  obtain ⟨-, command, body, rfl, -, -, ended⟩ := progresses
  obtain ⟨cmd, data⟩ := Request.body_of_parse_toBytes parsed
  rw [reports] at cmd
  rw [success] at data
  obtain ⟨offset, result, exchange, options, details, phase, written⟩ :=
    ended (Coded.code_injective _ _ cmd)
  have same : Coded.code result = Coded.code TransferResult.success :=
    (List.cons.inj (written.symm.trans data)).1
  cases Coded.code_injective _ _ same
  exact ⟨offset, exchange, options, details, phase⟩

/-! ## What a request is about -/

/-- The piece of an image that a device asks for next. -/
def wanted (offset : Nat) (details : ComponentDetails) : DataRequest where
  offset := UInt32.ofNat offset
  length := UInt32.ofNat (responder.requestSize offset details)

/-- The requests that belong to where a device is in an update, with their bodies: portions are
asked for in a pull, and pieces of an image in the middle of a transfer. -/
inductive Due : Command → List UInt8 → Prop
  | portion {pull : PackagePull} {passed : Bool} {body : List UInt8}
      (pulling : responder.phase = .learnComponents (some pull) passed) :
      Due .getPackageData body
  | piece {offset : Nat} {exchange : Exchange} {options : UInt32} {details : ComponentDetails}
      {body : List UInt8}
      (fetching : responder.phase = .download offset none exchange options details)
      (written : (responder.wanted offset details).layout.toMessage = .ok body) :
      Due .requestFirmwareData body
  | report {command : Command} {body : List UInt8} (noPortion : command ≠ .getPackageData)
      (noPiece : command ≠ .requestFirmwareData) : Due command body

/-- A call for progress makes no request but one that is due. -/
def MakesDue (made : Option (List UInt8)) : Prop :=
  ∀ message, made = some message → ∃ command body,
    message = (responder.newRequest command body).1.toBytes ∧ responder.Due command body

variable {responder device state}

/-- No request is due, and none is made. -/
theorem makesDue_none : responder.MakesDue none := nofun

/-- A request that is due may be made. -/
theorem makesDue_some {command : Command} {body : List UInt8} (due : responder.Due command body) :
    responder.MakesDue (some (responder.newRequest command body).1.toBytes) := by
  rintro - ⟨⟩
  exact ⟨command, body, rfl, due⟩

/-- In a pull it is the next portion that is asked for. -/
theorem progressPull_makesDue {pull : PackagePull} {passed : Bool}
    (pulling : responder.phase = .learnComponents (some pull) passed) :
    responder.MakesDue (responder.progressPull device pull passed state).1 := by
  unfold progressPull
  split
  · exact makesDue_none
  · split
    · exact makesDue_none
    · exact makesDue_some (.portion pulling)

/-- In a download it is the next piece, or the report at its end. -/
theorem progressDownload_makesDue {offset : Nat} {result : Option TransferResult}
    {exchange : Exchange} {options : UInt32} {details : ComponentDetails}
    (fetching : responder.phase = .download offset result exchange options details) :
    responder.MakesDue
      (responder.progressDownload device offset result exchange options details state).1 := by
  unfold progressDownload
  split
  · exact makesDue_none
  · cases result with
    | some result =>
        dsimp only
        split
        · exact makesDue_none
        · exact makesDue_some (.report nofun nofun)
    | none =>
        dsimp only
        split
        · exact makesDue_none
        · exact makesDue_some (.piece fetching ‹_›)

/-- After the check of an image it is the report on it. -/
theorem progressVerify_makesDue (exchange : Exchange) (details : ComponentDetails) :
    responder.MakesDue (responder.progressVerify device exchange details state).1 := by
  unfold progressVerify
  split
  · exact makesDue_none
  · dsimp only
    split
    · exact makesDue_none
    · exact makesDue_some (.report nofun nofun)

/-- After the installation of an image it is the report on it. -/
theorem progressApply_makesDue (exchange : Exchange) (details : ComponentDetails) :
    responder.MakesDue (responder.progressApply device exchange details state).1 := by
  unfold progressApply
  split
  · exact makesDue_none
  · dsimp only
    split
    · exact makesDue_none
    · exact makesDue_some (.report nofun nofun)

/-- Whatever the phase is, only what is due is asked for. -/
theorem progress_makesDue : responder.MakesDue (responder.progress device state).1 := by
  unfold progress
  split
  · exact makesDue_none
  · dsimp only
    split
    · exact makesDue_none
    · unfold progressPhase
      split
      · exact progressPull_makesDue ‹_›
      · exact progressDownload_makesDue ‹_›
      · exact progressVerify_makesDue _ _
      · exact progressApply_makesDue _ _
      all_goals exact makesDue_none

/-- A request that a device makes is due. -/
theorem due_of_made {message : List UInt8} {request : Request} {command : Command}
    (made : (responder.progress device state).1 = some message)
    (parsed : Request.parse message = .ok request) (asks : request.IsFor command) :
    responder.Due command request.data := by
  obtain ⟨found, body, rfl, due⟩ := progress_makesDue message made
  obtain ⟨cmd, data⟩ := Request.body_of_parse_toBytes parsed
  cases Coded.code_injective _ _ (cmd.trans asks.2)
  exact data ▸ due

end FirmwareUpdate.Responder
