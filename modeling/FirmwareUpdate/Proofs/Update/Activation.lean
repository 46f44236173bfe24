import FirmwareUpdate.Proofs.Agent.Run
import FirmwareUpdate.Proofs.Device.Ownership
import FirmwareUpdate.Proofs.Update.Course

/-!
# Who knows that an update is over

A device ends the update when it has activated the images, and also when it finds that there
is nothing to activate. Only the first has a code of success, and a session goes by that code.
So the two sides agree after every activation but one that was not required: the device is
then idle, and the session stays where no further command succeeds.
-/

namespace FirmwareUpdate

open Wire

variable {σ : Type}

/-- What the caller of a pair can do. -/
inductive PairInput where
  | issue (command : AgentCommand)
  | poll
  | reset
  | load (plan : UpdatePlan)

/-- An owner stays away from the agents that do not ask for an update. -/
theorem Responder.KeepsOwner.home {requester : Option EndpointId} {before after : Responder}
    {agent : EndpointId} (keeps : KeepsOwner requester before after)
    (only : ∀ other, requester = some other → other = agent)
    (home : before.isForeign agent = false) : after.isForeign agent = false := by
  cases keeps with
  | kept owner same => rwa [isForeign, owner]
  | ended nobody idle => rw [isForeign, nobody]; rfl
  | begun asked free owner running =>
      rw [isForeign, owner, only _ asked]
      simp

namespace Pair

/-- The pair after an input. -/
def next (device : Device σ) (agent : EndpointId) (pair : Pair σ) : PairInput → Pair σ
  | .issue command => pair.issue device agent command
  | .poll => pair.poll device agent
  | .reset => { pair with session := pair.session.next .reset }
  | .load plan => { pair with session := pair.session.next (.load plan) }

/-- The pair after a sequence of inputs. -/
def run (device : Device σ) (agent : EndpointId) (pair : Pair σ) (inputs : List PairInput) :
    Pair σ :=
  inputs.foldl (next device agent) pair

/-- The session numbers its requests, and the device belongs to nobody else. -/
structure Attached (agent : EndpointId) (pair : Pair σ) : Prop where
  fits : FitsInstance pair.session.nextIid
  home : pair.responder.isForeign agent = false

variable {device : Device σ} {agent : EndpointId} {pair : Pair σ}

namespace Attached

/-- A command keeps the device and its agent attached. -/
theorem issue (attached : pair.Attached agent) (command : AgentCommand) :
    (pair.issue device agent command).Attached agent := by
  have issued : FitsInstance (pair.session.issue command).2.nextIid :=
    Session.next_fits attached.fits (.issue command)
  unfold Pair.issue
  split
  rename_i message session sent
  rw [sent] at issued
  split
  · exact ⟨issued, attached.home⟩
  · rename_i message
    have keeps : pair.responder.KeepsOwner (some agent)
        (pair.responder.answerRequest device agent message pair.state).2.1 :=
      Responder.answerRequest_keepsOwner ..
    split
    rename_i answer responder state given
    rw [given] at keeps
    have home := keeps.home (fun other same => (Option.some.inj same).symm) attached.home
    split
    · exact ⟨issued, home⟩
    · exact ⟨Session.next_fits issued (.process _), home⟩

/-- A poll of the device keeps them attached. -/
theorem poll (attached : pair.Attached agent) : (pair.poll device agent).Attached agent := by
  have keeps : pair.responder.KeepsOwner none (pair.responder.progress device pair.state).2.1 :=
    Responder.progress_keepsOwner ..
  unfold Pair.poll
  split
  rename_i message responder state asked
  rw [asked] at keeps
  have home := keeps.home nofun attached.home
  split
  · exact ⟨attached.fits, home⟩
  · rename_i message
    have served : FitsInstance (pair.session.handleRequest message).2.nextIid :=
      Session.next_fits attached.fits (.handle message)
    split
    rename_i answer session handled
    rw [handled] at served
    split
    · exact ⟨served, home⟩
    · rename_i answer
      have taken : responder.KeepsOwner none
          (responder.takeReply device agent answer state).2.1 :=
        Responder.takeReply_keepsOwner ..
      split
      rename_i outcome responder state took
      rw [took] at taken
      exact ⟨served, taken.home nofun home⟩

/-- Whatever the input is, they stay attached. -/
theorem next (attached : pair.Attached agent) (input : PairInput) :
    (pair.next device agent input).Attached agent := by
  cases input with
  | issue command => exact attached.issue command
  | poll => exact attached.poll
  | reset => exact ⟨Session.next_fits attached.fits .reset, attached.home⟩
  | load plan => exact ⟨Session.next_fits attached.fits (.load plan), attached.home⟩

/-- Whatever the caller does, the two sides stay attached to each other. -/
theorem run (attached : pair.Attached agent) (inputs : List PairInput) :
    (pair.run device agent inputs).Attached agent := by
  induction inputs generalizing pair with
  | nil => exact attached
  | cons input rest ih => exact ih (attached.next input)

end Attached

/-- A session and a responder as they begin. -/
theorem attached_of_start {settings : AgentSettings} {plan : UpdatePlan} {session : Session}
    (started : Session.start settings plan = .ok session) (agent : EndpointId) (size : Nat)
    (state : σ) :
    Attached agent { session, responder := .withMaxMessage size, state } := by
  obtain ⟨-, -, rfl⟩ := Session.sound_of_start started
  exact ⟨fitsInstance_zero, rfl⟩

end Pair

/-! ## The end of an update -/

/-- The update is over for the device, which has been asked to activate the images. -/
def Responder.HasEnded (responder : Responder) : Prop := responder.phase = .idle .activate

/-- The update is over for the session, and the images are active. -/
def Session.HasEnded (session : Session) : Prop :=
  session.state = .idle ∧ session.activated = true ∧ session.nextAction = .finished

/-- A device that is ready for a component has nothing else to remember. -/
theorem Responder.phase_of_readyXfer {responder : Responder}
    (ready : responder.state = .readyXfer) : responder.phase = .readyXfer := by
  unfold state at ready
  cases phase : responder.phase with
  | readyXfer => rfl
  | _ => simp [phase, DevicePhase.state] at ready

/-- After the request to activate, the update is over for the device if it says so, and for the
session if the answer is a success; a side for which it is not over waits as before. So the
sides agree unless the device finds that there is nothing to activate. -/
theorem activation_known_to_both_unless_unneeded (device : Device σ) {settings : AgentSettings}
    {plan : UpdatePlan} {session : Session} (started : Session.start settings plan = .ok session)
    (agent : EndpointId) (size : Nat) (state : σ) (inputs : List PairInput) {pair : Pair σ}
    (reached : Pair.run device agent { session, responder := .withMaxMessage size, state } inputs =
      pair)
    (ready : pair.session.state = .readyXfer) (waiting : pair.responder.state = .readyXfer) :
    let result := (pair.activation device).1
    let after := pair.issue device agent .activateFirmware
    (after.responder.HasEnded ↔ result.endsUpdate = true) ∧
      (after.session.HasEnded ↔ result = .success) ∧
      (¬ after.responder.HasEnded → after.responder = pair.responder) ∧
      (¬ after.session.HasEnded → after.session = pair.session.answered result.completionCode) ∧
      ((after.responder.HasEnded ↔ after.session.HasEnded) ↔
        result ≠ .activationNotRequired) := by
  have phase := Responder.phase_of_readyXfer waiting
  have attached : pair.Attached agent :=
    reached ▸ (Pair.attached_of_start started agent size state).run inputs
  have concluded : ((pair.responder.enter .activate).enterIdle .activate).HasEnded := rfl
  have running : ¬ pair.responder.HasEnded := by simp [Responder.HasEnded, phase]
  have done (cc : CompletionCode) : Session.HasEnded
      { pair.session.answered cc with state := .idle, activated := true, finished := true } :=
    ⟨rfl, rfl, rfl⟩
  have unheard (cc : CompletionCode) : ¬ (pair.session.answered cc).HasEnded := fun ended => by
    have same : pair.session.state = .idle := ended.1
    simp [ready] at same
  dsimp only
  rw [Pair.issue_activation attached.fits attached.home ready phase]
  -- the device goes by the result, the session by its code: each result has to be looked at
  cases (pair.activation device).1 <;>
    simp [ActivationResult.endsUpdate, concluded, running, done, unheard]

/-! ## A device that has installed an image -/

namespace InstalledImage

/-- A device that installs the image, and answers in this way when it is asked to activate it. -/
def device (result : ActivationResult) : Device Unit :=
  { SpoiledImage.device with
    verify := fun _ _ => (.success, ())
    activate := fun _ _ => (result, ()) }

/-- The update of the image up to its activation. -/
def inputs : List PairInput :=
  [.issue .requestUpdate, .issue .passComponentTable, .issue .updateComponent, .poll, .poll, .poll,
    .poll]

/-- The two sides when the image is installed. -/
def installed (result : ActivationResult) : Pair Unit :=
  SpoiledImage.first.run (device result) ⟨8⟩ inputs

/-- The two sides after the request to activate it. -/
def asked (result : ActivationResult) : Pair Unit :=
  (installed result).issue (device result) ⟨8⟩ .activateFirmware

end InstalledImage

/-- Both sides know that an image has been activated. -/
theorem installed_image_active_for_both :
    (InstalledImage.installed .success).session.updatedComponents = 1 ∧
      (InstalledImage.asked .success).responder.HasEnded ∧
      (InstalledImage.asked .success).session.HasEnded :=
  have known := activation_known_to_both_unless_unneeded (InstalledImage.device .success)
    (rfl : Session.start {} SpoiledImage.plan = .ok SpoiledImage.first.session) ⟨8⟩ maxMessageSize
    () InstalledImage.inputs (rfl : _ = InstalledImage.installed .success) rfl rfl
  ⟨rfl, known.1.mpr rfl, known.2.1.mpr rfl⟩

/-- An activation that is not required is the end of the update for the device only. The session
has nothing left but to ask again. -/
theorem unneeded_activation_ends_device_only :
    (InstalledImage.installed .activationNotRequired).session.state = .readyXfer ∧
      (InstalledImage.installed .activationNotRequired).responder.state = .readyXfer ∧
      (InstalledImage.asked .activationNotRequired).responder.HasEnded ∧
      ¬ (InstalledImage.asked .activationNotRequired).session.HasEnded ∧
      (InstalledImage.asked .activationNotRequired).session.nextAction =
        .issue .activateFirmware :=
  ⟨rfl, rfl, rfl, (nomatch ·.1), rfl⟩

namespace Pair

variable {device : Device σ} {agent : EndpointId} {pair : Pair σ}

/-- A session that waits to activate what the device has given up stays there, however long it
is driven. -/
theorem drives_of_deserted (attached : pair.Attached agent)
    (ready : pair.session.state = .readyXfer) {reason : IdleReason}
    (idle : pair.responder.phase = .idle reason)
    (next : pair.session.nextAction = .issue .activateFirmware) (steps : Nat) :
    (drives device agent steps pair).session.nextAction = .issue .activateFirmware ∧
      (drives device agent steps pair).responder = pair.responder := by
  induction steps generalizing pair with
  | zero => exact ⟨next, rfl⟩
  | succ steps ih =>
      have step : pair.drive device agent =
          { pair with session := pair.session.answered UpdateCode.notInUpdateMode } := by
        rw [drive, next]
        exact issue_activateFirmware_of_idle attached.fits attached.home ready idle
      rw [drives, step]
      exact ih ⟨fitsInstance_nextInstance _, attached.home⟩ ready idle next

end Pair

end FirmwareUpdate
