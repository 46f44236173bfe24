import FirmwareUpdate.Proofs.Device.Record
import FirmwareUpdate.Proofs.Device.Room
import FirmwareUpdate.Proofs.Update.Agreement

/-!
# The course of an update

`Pair.drive` lets the session decide what happens next. This module follows a pair whose
device cooperates from its beginning until the session knows all that the device has to
say about itself, and the device has the package data if it wants them.
-/

namespace FirmwareUpdate

open Wire

variable {σ : Type}

/-! ## Driving a pair -/

namespace Pair

/-- What the session needs next: a command is issued, or the device is asked for progress. -/
def drive (device : Device σ) (agent : EndpointId) (pair : Pair σ) : Pair σ :=
  match pair.session.nextAction with
  | .issue command => pair.issue device agent command
  | .awaitRequest => pair.poll device agent
  | .finished => pair

/-- A number of such steps. -/
def drives (device : Device σ) (agent : EndpointId) : Nat → Pair σ → Pair σ
  | 0, pair => pair
  | steps + 1, pair => drives device agent steps (pair.drive device agent)

/-- Steps are taken one after the other. -/
theorem drives_add (device : Device σ) (agent : EndpointId) (before after : Nat) (pair : Pair σ) :
    drives device agent (before + after) pair =
      drives device agent after (drives device agent before pair) := by
  induction before generalizing pair with
  | zero => rw [Nat.zero_add, drives]
  | succ before ih =>
      rw [Nat.succ_add, drives, drives]
      exact ih _

/-- One pair follows from another after finitely many steps. -/
def Leads (device : Device σ) (agent : EndpointId) (first last : Pair σ) : Prop :=
  ∃ steps, drives device agent steps first = last

namespace Leads

variable {device : Device σ} {agent : EndpointId} {first middle last : Pair σ}

/-- A pair follows from itself after no step. -/
theorem refl (pair : Pair σ) : Leads device agent pair pair := ⟨0, rfl⟩

/-- What follows from a pair that follows from another one follows from that. -/
theorem trans (front : Leads device agent first middle) (back : Leads device agent middle last) :
    Leads device agent first last := by
  obtain ⟨before, rfl⟩ := front
  obtain ⟨after, rfl⟩ := back
  exact ⟨before + after, drives_add device agent before after first⟩

/-- A step in which the session issues a command. -/
theorem of_issue {command : AgentCommand} (next : first.session.nextAction = .issue command) :
    Leads device agent first (first.issue device agent command) := by
  refine ⟨1, ?_⟩
  rw [drives, drives, drive, next]

/-- A step in which the session waits for the device. -/
theorem of_poll (next : first.session.nextAction = .awaitRequest) :
    Leads device agent first (first.poll device agent) := by
  refine ⟨1, ?_⟩
  rw [drives, drives, drive, next]

end Leads

end Pair

/-! ## Devices that cooperate -/

/-- The metadata of the device stay the same while they are sent: neither a look at its clock nor
the package data change them. -/
structure Device.KeepsMetadata (device : Device σ) : Prop where
  now : ∀ state, device.metadata (device.now state).2 = device.metadata state
  packageData : ∀ data state,
    device.metadata (device.packageData data state) = device.metadata state

/-- What a device has to say after it has announced some metadata: as many bytes, and the same ones
if it keeps its metadata. -/
structure Device.Offers (device : Device σ) (announced offered : List UInt8) : Prop where
  length : offered.length = announced.length
  same : device.KeepsMetadata → offered = announced

/-- A device that enters every update and stores, checks, applies and activates all that it
receives. What it says about itself can be sent and read, and its metadata are within the
limit of the agent. When it enters the update it announces their length and nothing else of them;
that length stays while they are sent, and no more is asked of them. Its clock stands still. It may
refuse any component. -/
structure Device.Cooperates (device : Device σ) (metadataLimit : Nat) : Prop where
  clock : ∃ time, ∀ state, (device.now state).1 = time
  accepts : ∀ request state, (device.requestUpdate request state).1 = .accept
  identified : ∀ state, ∃ body identifiers,
    (device.identifiers state).1.responseLayout.toMessage = .ok body ∧
      decode "QueryDeviceIdentifiers" DeviceIdentifiers.responseReader body = .ok identifiers
  described : ∀ state, ∃ body parameters,
    (Pair.parametersOf device state).layout.toMessage = .ok body ∧
      decode "GetFirmwareParameters" FirmwareParameters.reader body = .ok parameters
  short : ∀ state, (device.metadata state).length ≤ min 65535 metadataLimit
  metadata_now : ∀ state,
    (device.metadata (device.now state).2).length = (device.metadata state).length
  metadata_packageData : ∀ data state,
    (device.metadata (device.packageData data state)).length = (device.metadata state).length
  stores : ∀ offset data details state, (device.firmwareData offset data details state).1 = .success
  verifies : ∀ details state, (device.verify details state).1 = .success
  applies : ∀ details state,
    (Responder.applyReport (device.apply details state).1).1.isSuccess = true
  activates : ∀ selfContained state, (device.activate selfContained state).1 = .success

namespace Device.Offers

variable {device : Device σ} {announced offered : List UInt8}

/-- A device offers the metadata that it has. -/
theorem refl (announced : List UInt8) : device.Offers announced announced := ⟨rfl, fun _ => rfl⟩

/-- A look at the clock leaves what the device has to say. -/
theorem now {metadataLimit : Nat} (cooperates : device.Cooperates metadataLimit) {state : σ}
    (offers : device.Offers announced (device.metadata state)) :
    device.Offers announced (device.metadata (device.now state).2) where
  length := (cooperates.metadata_now state).trans offers.length
  same keeps := (keeps.now state).trans (offers.same keeps)

/-- Package data that are handed to a device change the metadata no more than before. -/
theorem packageData {metadataLimit : Nat} (cooperates : device.Cooperates metadataLimit)
    {state : σ} (offers : device.Offers announced (device.metadata state)) (data : List UInt8) :
    device.Offers announced (device.metadata (device.packageData data state)) where
  length := (cooperates.metadata_packageData data state).trans offers.length
  same keeps := (keeps.packageData data state).trans (offers.same keeps)

/-- A part that has been sent and what the device has to say now fit together. -/
theorem refilled {current : List UInt8} {moved : Nat} (offers : device.Offers announced offered)
    (inside : moved ≤ offered.length) (now : device.Offers announced current) :
    device.Offers announced (Transfer.refilled offered current moved) where
  length := by
    have same := now.length.trans offers.length.symm
    exact (Transfer.refilled_parts inside same).1.trans offers.length
  same keeps := by rw [offers.same keeps, now.same keeps, Transfer.refilled_self]

end Device.Offers

/-- The device when it has accepted the update. -/
def Device.accepting (device : Device σ) (request : UpdateRequest) (start : σ) : σ :=
  (device.requestUpdate request (device.identifiers start).2).2

/-! ## Where the pair is -/

section Course

variable (agent : EndpointId) (time : Nat) (settings : AgentSettings) (plan : UpdatePlan)

/-- An update of this plan runs. -/
structure Underway (pair : Pair (σ × List DeviceCall)) : Prop where
  synced : Synced agent time pair
  planned : pair.session.plan = plan
  configured : pair.session.settings = settings
  unfinished : pair.session.finished = false
  inactive : pair.session.activated = false
  room : pair.responder.maxMessage = maxMessageSize
  pace : pair.responder.maxTransfer = settings.maxTransferSize.toNat

/-- The device has entered the update and announced its metadata, and the session has announced
nothing. -/
structure Entered (device : Device σ) (metadata : List UInt8)
    (pair : Pair (σ × List DeviceCall)) : Prop extends
    Underway agent time settings plan pair where
  learning : pair.session.state = .learnComponents
  unannounced : pair.session.passed = 0
  outcomes : pair.session.outcomes = Session.freshOutcomes plan
  waiting : pair.session.nextUpdate = 0
  offered : device.Offers metadata (device.metadata pair.state.1)

end Course

/-- The update is the same one, it is not over, and messages are as long as before. -/
def Pair.SameCourse (before after : Pair σ) : Prop :=
  after.session.plan = before.session.plan ∧ after.session.settings = before.session.settings ∧
    after.session.finished = before.session.finished ∧
    after.session.activated = before.session.activated ∧
    after.responder.maxMessage = before.responder.maxMessage ∧
    after.responder.maxTransfer = before.responder.maxTransfer

namespace Underway

variable {device : Device σ} {agent : EndpointId} {time : Nat} {settings : AgentSettings}
  {plan : UpdatePlan} {pair after : Pair (σ × List DeviceCall)}

/-- An update on the same course is still under way. -/
theorem goes_on (underway : Underway agent time settings plan pair)
    (synced : Synced agent time after) (same : pair.SameCourse after) :
    Underway agent time settings plan after := by
  obtain ⟨planned, configured, finished, activated, room, pace⟩ := same
  exact ⟨synced, planned.trans underway.planned, configured.trans underway.configured,
    finished.trans underway.unfinished, activated.trans underway.inactive,
    room.trans underway.room, pace.trans underway.pace⟩

/-- The session issues a command and the update goes on. -/
theorem issued (underway : Underway agent time settings plan pair)
    (clock : ∀ state, (device.recorded.now state).1 = time) {command : AgentCommand}
    (next : pair.session.nextAction = .issue command) (other : command ≠ .activateFirmware)
    (answered : pair.issue device.recorded agent command = after) (same : pair.SameCourse after) :
    Pair.Leads device.recorded agent pair after ∧ Underway agent time settings plan after := by
  subst answered
  exact ⟨.of_issue next, underway.goes_on (underway.synced.issue_other clock other) same⟩

/-- The session waits for the device, and the update goes on. -/
theorem polled (underway : Underway agent time settings plan pair)
    (clock : ∀ state, (device.recorded.now state).1 = time)
    (next : pair.session.nextAction = .awaitRequest)
    (served : pair.poll device.recorded agent = after) (same : pair.SameCourse after) :
    Pair.Leads device.recorded agent pair after ∧ Underway agent time settings plan after := by
  subst served
  exact ⟨.of_poll next, underway.goes_on (underway.synced.poll clock) same⟩

end Underway

/-- None of the metadata have moved. -/
structure Untold (metadata : List UInt8) (pair : Pair σ) : Prop where
  received : pair.session.metadata = { kind := .deviceMetaData, totalSize := metadata.length }
  bytes : pair.session.metadataBytes = []
  done : pair.session.metadataDone = decide (metadata.length = 0)
  sent : pair.responder.metadata.inProgress = false ∧ pair.responder.metadata.handle = 0

/-- What a driven update has done when it has been accepted: the session expects the package
data if the device pulls them. -/
structure Pulls (pull : Option PackagePull) (pair : Pair σ) : Prop where
  announced : pair.session.devicePulls = pull.isSome
  done : pair.session.packageDone =
    (!pull.isSome || pair.session.plan.packageData.isEmpty)
  package : pair.session.package = { kind := .packageData }
  phase : pair.responder.phase = .learnComponents pull false

section Driven

variable {device : Device σ} {agent : EndpointId} {settings : AgentSettings} {plan : UpdatePlan}

/-- A driven update is accepted. -/
theorem leads_to_entered (cooperates : device.Cooperates settings.maxMetadataSize) {time : Nat}
    (clock : ∀ state, (device.recorded.now state).1 = time) {session : Session}
    (started : Session.start settings plan = .ok session) (agent : EndpointId) (start : σ) :
    let accepting := device.accepting session.updateRequest start
    let first : Pair (σ × List DeviceCall) := { session, responder := {}, state := (start, []) }
    ∃ pair, Pair.Leads device.recorded agent first pair ∧
      Entered agent time settings plan device (device.metadata accepting) pair ∧
      Untold (device.metadata accepting) pair ∧
      Pulls (plan.pull? (device.wantsPackageData accepting)) pair ∧
      pair.state.2 = [.requestUpdate session.updateRequest .accept] := by
  intro accepting first
  obtain ⟨sound, enough, rfl⟩ := Session.sound_of_start started
  obtain ⟨identity, identifiers, identityWritten, identityRead⟩ := cooperates.identified start
  obtain ⟨firmware, parameters, firmwareWritten, firmwareRead⟩ :=
    cooperates.described (device.identifiers start).2
  have begins : Synced agent time first := Synced.of_start started (start, [])
  -- The device says what it is.
  let second : Pair (σ × List DeviceCall) :=
    { session :=
        { first.session.answered BaseCode.success with deviceIdentifiers := some identifiers }
      responder := first.responder
      state := ((device.identifiers start).2, []) }
  have asked : first.issue device.recorded agent .queryDeviceIdentifiers = second :=
    Pair.issue_queryDeviceIdentifiers begins.sessionFits begins.home identityWritten identityRead
  have secondSynced : Synced agent time second := asked ▸ begins.issue_other clock (by decide)
  -- The device says what firmware it has.
  let third : Pair (σ × List DeviceCall) :=
    { second with
      session := { second.session.answered BaseCode.success with parameters := some parameters } }
  have described : second.issue device.recorded agent .getFirmwareParameters = third :=
    Pair.issue_getFirmwareParameters secondSynced.sessionFits secondSynced.home firmwareWritten
      firmwareRead
  have thirdSynced : Synced agent time third :=
    described ▸ secondSynced.issue_other clock (by decide)
  -- The device agrees to the update.
  have agrees : (device.recorded.requestUpdate third.session.updateRequest third.state).1 =
      .accept := cooperates.accepts _ _
  let agreed : σ × List DeviceCall :=
    (accepting, [.requestUpdate third.session.updateRequest .accept])
  have decided : (device.recorded.requestUpdate third.session.updateRequest third.state).2 =
      agreed := by
    show (_, [] ++ [DeviceCall.requestUpdate _ (device.requestUpdate _ _).1]) = _
    rw [cooperates.accepts]
    rfl
  have requested : third.issue device.recorded agent .requestUpdate =
      third.accepted device.recorded agent agreed := by
    rw [Pair.issue_requestUpdate thirdSynced.sound thirdSynced.sessionFits thirdSynced.home rfl rfl]
    dsimp only
    rw [agrees, decided]
  have synced := thirdSynced.accepted clock rfl rfl agreed
  have short : (device.recorded.metadata agreed).length ≤
      min 65535 third.session.settings.maxMetadataSize := cooperates.short accepting
  have one : Pair.Leads device.recorded agent first second := asked ▸ .of_issue rfl
  have two : Pair.Leads device.recorded agent second third := described ▸ .of_issue rfl
  have three : Pair.Leads device.recorded agent third
      (third.accepted device.recorded agent agreed) := requested ▸ .of_issue rfl
  refine ⟨_, (one.trans two).trans three, ?_⟩
  rw [Pair.accepted_of_short short] at synced ⊢
  refine ⟨⟨⟨synced, rfl, rfl, rfl, rfl, rfl, ?_⟩, rfl, rfl, rfl, rfl, ?_⟩,
    ⟨rfl, rfl, rfl, rfl, rfl⟩, ⟨rfl, rfl, rfl, rfl⟩, rfl⟩
  · exact Nat.max_eq_left enough
  · exact .now cooperates (.refl _)

/-- The package data have arrived, if the device wanted them. -/
structure Prepared (pair : Pair σ) : Prop where
  done : pair.session.packageDone = true
  phase : pair.responder.phase = .learnComponents none false

/-- A device that has begun to pull the package data receives all of them. -/
theorem leads_to_package (cooperates : device.Cooperates settings.maxMetadataSize) {time : Nat}
    (clock : ∀ state, (device.recorded.now state).1 = time) {metadata : List UInt8}
    {pair : Pair (σ × List DeviceCall)}
    (entered : Entered agent time settings plan device metadata pair)
    (untold : Untold metadata pair) {pull : PackagePull} {moved : Nat}
    (phase : pair.responder.phase = .learnComponents (some pull) false)
    (ready : pull.exchange = .ready) (pulls : pair.session.devicePulls = true)
    (more : pair.session.packageDone = false)
    (moves : Transfer.Moved pair.session.plan.packageData pull.transfer pair.session.package
      pull.data moved) :
    ∃ last, Pair.Leads device.recorded agent pair last ∧
      Entered agent time settings plan device metadata last ∧ Untold metadata last ∧
      Prepared last ∧ last.state.2 = pair.state.2 ++ [.packageData plan.packageData] := by
  induction remaining : plan.packageData.length - moved using Nat.strongRecOn
    generalizing pair pull moved with
  | ind remaining ih =>
      have running := Responder.running_of_phase phase rfl
      have await : pair.session.nextAction = .awaitRequest := by
        simp [Session.nextAction, entered.unfinished, entered.learning, more]
      have small : pair.session.plan.packageData.length < 2 ^ 32 := by
        have sized := entered.synced.sound.sizes.2.2.1
        omega
      have bounds := moves.reached_bounds pair.session.packagePortion
      have planned := entered.planned
      have served := Pair.poll_packagePart (entered.synced.inTouch clock running) phase
        (by rw [ready]; rfl) entered.learning pulls moves small
      -- A poll reads the clock three times, and each reading keeps what is offered.
      have offered : device.Offers metadata (device.metadata
          (device.recorded.now (device.recorded.now
            (device.recorded.now pair.state).2).2).2.1) := by
        simp only [Device.recorded_now]
        exact ((entered.offered.now cooperates).now cooperates).now cooperates
      by_cases whole : Transfer.reached pair.session.plan.packageData pair.session.packagePortion
          moved = pair.session.plan.packageData.length
      · simp only [whole, if_true, decide_true, Bool.or_true] at served
        obtain ⟨step, underway⟩ :=
          entered.toUnderway.polled clock await served ⟨rfl, rfl, rfl, rfl, rfl, rfl⟩
        have after : Entered agent time settings plan device metadata _ :=
          ⟨underway, entered.learning, entered.unannounced, entered.outcomes, entered.waiting,
            offered.packageData cooperates _⟩
        exact ⟨_, step, after, ⟨untold.received, untold.bytes, untold.done, untold.sent⟩,
          ⟨rfl, rfl⟩, planned ▸ rfl⟩
      · simp only [whole, if_false, decide_false, more, Bool.or_false] at served
        obtain ⟨step, underway⟩ :=
          entered.toUnderway.polled clock await served ⟨rfl, rfl, rfl, rfl, rfl, rfl⟩
        have after : Entered agent time settings plan device metadata _ :=
          ⟨underway, entered.learning, entered.unannounced, entered.outcomes, entered.waiting,
            offered⟩
        obtain ⟨last, leads, rest⟩ := ih _ (by rw [← planned] at remaining ⊢; omega) after
          ⟨untold.received, untold.bytes, untold.done, untold.sent⟩ rfl rfl pulls rfl
          (moves.next whole) rfl
        exact ⟨last, step.trans leads, rest⟩

/-- The device receives the package data if there are any and it wants them. -/
theorem leads_to_prepared (cooperates : device.Cooperates settings.maxMetadataSize) {time : Nat}
    (clock : ∀ state, (device.recorded.now state).1 = time) {metadata : List UInt8}
    {pair : Pair (σ × List DeviceCall)}
    (entered : Entered agent time settings plan device metadata pair)
    (untold : Untold metadata pair) {wanted : Bool} (pulls : Pulls (plan.pull? wanted) pair) :
    ∃ last, Pair.Leads device.recorded agent pair last ∧
      Entered agent time settings plan device metadata last ∧ Untold metadata last ∧
      Prepared last ∧ last.state.2 = pair.state.2 ++
        if 0 < plan.packageData.length ∧ wanted = true then [.packageData plan.packageData]
        else [] := by
  obtain ⟨announced, done, package, phase⟩ := pulls
  unfold UpdatePlan.pull? at announced done phase
  by_cases any : 0 < plan.packageData.length ∧ wanted = true
  · have pulling : (0 < plan.packageData.length && wanted) = true := by simpa using any
    rw [if_pos pulling] at announced done phase
    rw [if_pos any]
    have some : pair.session.plan.packageData.isEmpty = false := by
      rw [entered.planned]
      cases data : plan.packageData with
      | nil => simp [data] at any
      | cons first rest => rfl
    exact leads_to_package cooperates clock entered untold phase rfl announced
      (by simpa [some] using done)
      (.of_idle (by rw [entered.planned])
        (by rw [entered.planned]; exact List.ne_nil_of_length_pos any.1) rfl (by rw [package]))
  · have pulling : (0 < plan.packageData.length && wanted) ≠ true := by simpa using any
    rw [if_neg pulling] at done phase
    rw [if_neg any, List.append_nil]
    exact ⟨pair, .refl pair, entered, untold, ⟨done, phase⟩, rfl⟩

/-- The session knows what the device has to say about itself. -/
structure Informed (metadata : List UInt8) (pair : Pair σ) : Prop extends Prepared pair where
  told : pair.session.metadataDone = true
  bytes : pair.session.metadataBytes = metadata

/-- A session that has begun to ask for the metadata receives all of them. The device may have
others each time, but as many. -/
theorem leads_to_metadata (cooperates : device.Cooperates settings.maxMetadataSize) {time : Nat}
    (clock : ∀ state, (device.recorded.now state).1 = time) {metadata source : List UInt8}
    (small : metadata.length < 2 ^ 32) {pair : Pair (σ × List DeviceCall)}
    (entered : Entered agent time settings plan device metadata pair) (prepared : Prepared pair)
    (more : pair.session.metadataDone = false) (offers : device.Offers metadata source)
    {moved : Nat} (moves : Transfer.Moved source pair.session.metadata pair.responder.metadata
      pair.session.metadataBytes moved) :
    ∃ last bytes, Pair.Leads device.recorded agent pair last ∧
      Entered agent time settings plan device metadata last ∧ Informed bytes last ∧
      device.Offers metadata bytes ∧ last.state.2 = pair.state.2 := by
  induction remaining : metadata.length - moved using Nat.strongRecOn
    generalizing pair source moved with
  | ind remaining ih =>
      have issues : pair.session.nextAction = .issue .getDeviceMetaData := by
        simp [Session.nextAction, entered.unfinished, entered.learning, prepared.done, more]
      have same : (device.metadata pair.state.1).length = source.length :=
        entered.offered.length.trans offers.length.symm
      have served : pair.responder.metadata.serve pair.session.metadata.nextRequest
          (device.recorded.metadata pair.state) pair.responder.metadataPortion = _ :=
        moves.serve_refill (offers.length.symm ▸ small) same _
      replace offers := offers.refilled (Nat.le_of_lt moves.inside) entered.offered
      replace moves := moves.refill same
      -- from here on the source is what has moved and what the device has to say now
      generalize Transfer.refilled source (device.metadata pair.state.1) moved = source
        at served offers moves
      have size := offers.length
      have bounds := moves.reached_bounds pair.responder.metadataPortion
      have short : PartResponse.headerSize + (Transfer.nextPart source
          pair.responder.metadataPortion moved).portion.length ≤ maxMessageSize := by
        have length := Transfer.length_nextPart source pair.responder.metadataPortion moved
        have fits := Responder.metadataPortion_le (Nat.le_of_eq entered.room) (by decide)
        omega
      have answered := Pair.issue_getDeviceMetaData entered.synced.sessionFits entered.synced.home
        entered.learning prepared.phase served short (moves.accept_eq (size.symm ▸ small) _)
      obtain ⟨step, underway⟩ := entered.toUnderway.issued clock issues (by decide) answered
        ⟨rfl, rfl, rfl, rfl, rfl, rfl⟩
      have after : Entered agent time settings plan device metadata _ :=
        ⟨underway, entered.learning, entered.unannounced, entered.outcomes, entered.waiting,
          entered.offered.now cooperates⟩
      by_cases whole : Transfer.reached source pair.responder.metadataPortion moved =
          source.length
      · refine ⟨_, source, step, after, ⟨⟨prepared.done, prepared.phase⟩, ?_, ?_⟩, offers, rfl⟩
        · simp [Transfer.afterPart, whole]
        · rw [whole, List.take_length]
      · obtain ⟨last, bytes, leads, rest⟩ := ih _ (by omega) after
          ⟨prepared.done, prepared.phase⟩ (by simp [Transfer.afterPart, whole, more]) offers
          (moves.next whole) rfl
        exact ⟨last, bytes, step.trans leads, rest⟩

/-- The session receives the metadata if there are any. -/
theorem leads_to_informed (cooperates : device.Cooperates settings.maxMetadataSize) {time : Nat}
    (clock : ∀ state, (device.recorded.now state).1 = time) {metadata : List UInt8}
    (small : metadata.length < 2 ^ 32) {pair : Pair (σ × List DeviceCall)}
    (entered : Entered agent time settings plan device metadata pair)
    (untold : Untold metadata pair) (prepared : Prepared pair) :
    ∃ last bytes, Pair.Leads device.recorded agent pair last ∧
      Entered agent time settings plan device metadata last ∧ Informed bytes last ∧
      device.Offers metadata bytes ∧ last.state.2 = pair.state.2 := by
  obtain ⟨received, bytes, done, quiet, -⟩ := untold
  by_cases none : metadata.length = 0
  · refine ⟨pair, metadata, .refl pair, entered, ⟨prepared, by simp [done, none], ?_⟩, .refl _, rfl⟩
    rw [bytes, List.eq_nil_of_length_eq_zero none]
  · exact leads_to_metadata cooperates clock small entered prepared (by simp [done, none])
      (.refl _) (.of_idle (by rw [received]) (List.ne_nil_of_length_pos (Nat.pos_of_ne_zero none))
        (by rw [received]) quiet)

end Driven

end FirmwareUpdate
