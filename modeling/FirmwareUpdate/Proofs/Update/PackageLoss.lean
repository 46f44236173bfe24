import FirmwareUpdate.Proofs.Device.Room
import FirmwareUpdate.Proofs.Update.Activation
import FirmwareUpdate.Proofs.Update.Pulling

/-!
# Package data arrive when a message is lost

Whichever message of a pull is lost, the device and the session are no further apart than they
can come together again: a lost message costs two refusals at most, and a pull may begin again
twice. So the device has the package data in the end, once and whole, unless it has heard nothing
of its agent for so long that it gives the update up.
-/

namespace FirmwareUpdate

open Wire

variable {σ : Type}

/-! ## Lost messages -/

/-- A message of a poll that can be lost. -/
inductive LostMessage where
  /-- The session does not hear of the request of the device. -/
  | request
  /-- The session answers, and the device does not hear of the answer. -/
  | answer

/-- The device is asked for progress, and a message is lost if it makes a request. -/
def Pair.pollLosing (device : Device σ) (pair : Pair σ) (lost : LostMessage) : Pair σ :=
  let (message, responder, state) := pair.responder.progress device pair.state
  match message with
  | none => { pair with responder, state }
  | some message =>
    { session := match lost with
        | .request => pair.session
        | .answer => (pair.session.handleRequest message).2
      responder
      state }

/-- Something happens to the state of the device. -/
def Pair.later (change : σ → σ) (pair : Pair (σ × List DeviceCall)) :
    Pair (σ × List DeviceCall) :=
  { pair with state := (change pair.state.1, pair.state.2) }

section Pull

variable {device : Device σ} {clock : σ → Nat} {agent : EndpointId} {calls : List DeviceCall}
  {plan : UpdatePlan} {pull : PackagePull} {pair : Pair (σ × List DeviceCall)} {advance : σ → σ}
  {delay : Nat}

/-- A device that has the package data has lost nothing. -/
theorem Delivered.lose (delivered : Delivered clock 0 calls plan pair)
    (clocked : device.Clocked clock)
    (advances : ∀ state, clock (advance state) = clock state + delay) (lost : LostMessage) :
    Delivered clock delay calls plan ((pair.pollLosing device.recorded lost).later advance) := by
  have same := delivered.now clocked
  have quiet : pair.pollLosing device.recorded lost =
      { pair with state := (device.recorded.now pair.state).2 } := by
    unfold Pair.pollLosing
    rw [delivered.progress_eq clocked (Nat.zero_le _)]
  rw [quiet]
  refine ⟨⟨⟨same.done, same.phase⟩, same.calls_eq⟩, ?_⟩
  have heard := same.heard
  dsimp only [Pair.later] at heard ⊢
  rw [advances]
  omega

/-- When the device has asked and time passes without an answer, it has a request to send again,
whether the session has heard of the first one or not. -/
theorem Pulling.unanswered (pulling : Pulling clock agent 0 calls plan pull pair)
    (clocked : device.Clocked clock)
    (advances : ∀ state, clock (advance state) = clock state + delay)
    (late : Exchange.retryTime < delay) {ready : σ × List DeviceCall}
    (same : SameMoment clock pair.state ready) {session : Session} (planned : session.plan = plan)
    (learning : session.state = .learnComponents) (pulls : session.devicePulls = true)
    {body : List UInt8} :
    let sent := device.recorded.now ready
    let request := (pair.responder.newRequest .getPackageData body).1
    let waiting := { pull with exchange := .sent request.iid request.cmd sent.1 }
    Pulling clock agent delay calls plan waiting (Pair.later advance
      { session
        responder :=
          { (pair.responder.newRequest .getPackageData body).2 with
            phase := .learnComponents (some waiting) false }
        state := sent.2 }) := by
  have sent := same.trans (clocked.sameMoment_now ready)
  have time : (device.recorded.now ready).1 = clock pair.state.1 := by
    rw [device.recorded_now, clocked.reads, same.1]
  refine ⟨planned, learning, pulls, pulling.owner, fitsInstance_nextInstance _, ?_,
    sent.2.trans pulling.calls_eq, rfl, ?_⟩
  · show clock (advance (device.recorded.now ready).2.1) - pair.responder.lastActivity ≤ delay
    have before := pulling.heard
    rw [advances, sent.1]
    omega
  · show Exchange.retryTime < clock (advance (device.recorded.now ready).2.1) -
      (device.recorded.now ready).1
    rw [advances, sent.1, time]
    omega

/-- When a message is lost and time passes, the two sides are no further apart than they can come
together again. -/
theorem Pulling.lose (pulling : Pulling clock agent 0 calls plan pull pair)
    (clocked : device.Clocked clock) (sound : plan.Sound)
    (advances : ∀ state, clock (advance state) = clock state + delay)
    (late : Exchange.retryTime < delay) (fresh : pull.restarts = 0) {moved : Nat}
    (moves : Transfer.Moved plan.packageData pull.transfer pair.session.package pull.data moved)
    (lost : LostMessage) :
    ∃ rounds, rounds ≤ plan.packageData.length + 2 ∧
      PullStands clock agent delay calls plan PackagePull.maxRestarts rounds
        ((pair.pollLosing device.recorded lost).later advance) := by
  obtain ⟨ready, due, same⟩ := pulling.isDue clocked
  have planned := pulling.planned
  subst planned
  have small : pair.session.plan.packageData.length < 2 ^ 32 :=
    Nat.lt_trans sound.sizes.2.2.1 (by decide)
  have inTouch := pulling.inTouch clocked (Nat.zero_le _)
  obtain ⟨body, read, asked⟩ := Pair.progress_getPackageData inTouch pulling.phase due
  unfold Pair.pollLosing
  rw [asked]
  cases lost with
  | request =>
      refine ⟨pair.session.plan.packageData.length - moved, by omega, .pulling
        (pulling.unanswered clocked advances late same rfl pulling.learning pulling.pulls)
        (by exact .level moves) ?_⟩
      show pull.restarts + 0 ≤ PackagePull.maxRestarts
      omega
  | answer =>
      obtain ⟨bytes, -, served⟩ := Session.serve_packagePart pulling.learning pulling.pulls moves
        small pair.responder read
      obtain ⟨needed, rounds, few, bounded, recovers⟩ :=
        moves.lost small pair.session.packagePortion
      dsimp only
      rw [Session.handleRequest_of_parse pair.session
        (Request.parse_toBytes inTouch.fits fitsType_firmwareUpdate), served]
      refine ⟨rounds, bounded, .pulling
        (pulling.unanswered clocked advances late same ?_ ?_ ?_) (by exact recovers) ?_⟩
      · rfl
      · exact pulling.learning
      · exact pulling.pulls
      · show pull.restarts + needed ≤ PackagePull.maxRestarts
        rw [fresh, Nat.zero_add]
        exact few

/-- One lost message leaves a pull that comes to its end. -/
theorem PullStands.lose {rounds : Nat}
    (stands : PullStands clock agent 0 calls plan 0 rounds pair) (clocked : device.Clocked clock)
    (sound : plan.Sound) (advances : ∀ state, clock (advance state) = clock state + delay)
    (late : Exchange.retryTime < delay) (lost : LostMessage) :
    ∃ rounds, rounds ≤ plan.packageData.length + 2 ∧
      PullStands clock agent delay calls plan PackagePull.maxRestarts rounds
        ((pair.pollLosing device.recorded lost).later advance) := by
  cases stands with
  | delivered delivered =>
      exact ⟨0, Nat.zero_le _, .delivered (delivered.lose clocked advances lost)⟩
  | @pulling pull needed _ _ pulling recovers enough =>
      obtain rfl : needed = 0 := by omega
      cases recovers with
      | level moves =>
          exact pulling.lose clocked sound advances late (Nat.le_zero.mp enough) moves lost

/-! ## The beginning of a pull -/

namespace Pair

/-- A device that has accepted an update and pulls the package data has none of them. -/
theorem pulling_of_accepted {pair : Pair (σ × List DeviceCall)} (clocked : device.Clocked clock)
    (fits : FitsInstance pair.responder.nextIid) (idle : pair.session.state = .idle)
    (state : σ × List DeviceCall)
    (learning : (pair.accepted device.recorded agent state).session.state = .learnComponents)
    (pulls : (pair.accepted device.recorded agent state).session.devicePulls = true) :
    let begun := pair.accepted device.recorded agent state
    ∃ pull, Pulling clock agent 0 begun.state.2 pair.session.plan pull begun ∧
      pull.restarts = 0 ∧ Transfer.Moved pair.session.plan.packageData pull.transfer
        begun.session.package pull.data 0 := by
  rw [accepted_of_short (short_of_accepted idle learning)] at pulls ⊢
  obtain ⟨some, pull⟩ := UpdatePlan.pull?_of_isSome pulls
  refine ⟨_, ⟨rfl, rfl, pulls, rfl, fits, ?_, rfl, congrArg (DevicePhase.learnComponents · false)
    pull, trivial⟩, rfl, .of_idle rfl some rfl rfl⟩
  show clock (device.recorded.now state).2.1 - (device.recorded.now state).1 ≤ 0
  refine Nat.le_of_eq ?_
  rw [device.recorded_now, clocked.kept_now, clocked.reads, Nat.sub_self]

/-- When the update has begun and the device pulls the package data, it has none of them. -/
theorem pulling_of_begun {pair begun : Pair (σ × List DeviceCall)} (clocked : device.Clocked clock)
    (sound : pair.session.plan.Sound) (sessionFits : FitsInstance pair.session.nextIid)
    (responderFits : FitsInstance pair.responder.nextIid) (owned : pair.responder.Owned)
    (idle : pair.session.state = .idle)
    (begins : pair.issue device.recorded agent .requestUpdate = begun)
    (learning : begun.session.state = .learnComponents)
    (pulls : begun.session.devicePulls = true) :
    ∃ pull, Pulling clock agent 0 begun.state.2 pair.session.plan pull begun ∧
      pull.restarts = 0 ∧ Transfer.Moved pair.session.plan.packageData pull.transfer
        begun.session.package pull.data 0 := by
  by_cases free : pair.responder.state = .idle
  · obtain ⟨reason, phase⟩ := Responder.phase_of_state_idle free
    have home : pair.responder.isForeign agent = false := by
      rw [Responder.isForeign, owned.mpr free]
      rfl
    rw [issue_requestUpdate sound sessionFits home idle phase] at begins
    dsimp only at begins
    split at begins
    · subst begins
      cases idle.symm.trans learning
    · subst begins
      cases learning
    · subst begins
      exact pulling_of_accepted clocked responderFits idle _ learning pulls
  · rw [issue_requestUpdate_of_busy sound sessionFits idle free] at begins
    subst begins
    cases idle.symm.trans learning

end Pair

/-- A device that pulls the package data gets them, once and whole, whichever message is lost on
the way, if it waits for longer than it takes to ask again and for no longer than it takes to
give up. -/
theorem package_data_survive_a_loss (device : Device σ) (clocked : device.Clocked clock)
    {advance : σ → σ} {delay : Nat}
    (advances : ∀ state, clock (advance state) = clock state + delay)
    (late : Exchange.retryTime < delay) (early : delay ≤ Responder.silenceLimit)
    {settings : AgentSettings} {plan : UpdatePlan} {first session : Session}
    (started : Session.start settings plan = .ok first) (events : List SessionInput)
    (prepared : first.run events = session) (idle : session.state = .idle) (size : Nat)
    (state : σ) (inputs : List ResponderInput) {history : ResponderHistory σ}
    (reached : ResponderHistory.run device { responder := .withMaxMessage size, state } inputs =
      history)
    (agent : EndpointId) {begun : Pair (σ × List DeviceCall)}
    (begins : Pair.issue device.recorded agent
      { session, responder := history.responder, state := (history.state, []) } .requestUpdate =
        begun)
    (learning : begun.session.state = .learnComponents)
    (pulls : begun.session.devicePulls = true) :
    let package := session.plan.packageData
    (∀ count, package.length ≤ count →
        (begun.polls device.recorded agent count).HasPulled begun.state.2 package) ∧
      ∀ before lost,
        let disturbed := ((begun.polls device.recorded agent before).pollLosing device.recorded
          lost).later advance
        ∀ count,
          (∀ pull passed, (disturbed.polls device.recorded agent count).responder.phase =
            .learnComponents (some pull) passed → pull.restarts ≤ PackagePull.maxRestarts) ∧
          (package.length + 2 ≤ count →
            (disturbed.polls device.recorded agent count).HasPulled begun.state.2 package) := by
  obtain ⟨sound, -, rfl⟩ := Session.sound_of_start started
  have planned : session.plan.Sound := prepared ▸ Session.run_sound sound events
  have sessionFits : FitsInstance session.nextIid :=
    prepared ▸ Session.run_fits fitsInstance_zero events
  have responderFits : FitsInstance history.responder.nextIid :=
    reached ▸ ResponderHistory.run_fits device fitsInstance_zero inputs
  have owned : history.responder.Owned :=
    reached ▸ ResponderHistory.run_owned device (Responder.withMaxMessage_owned size) inputs
  obtain ⟨pull, pulling, fresh, moves⟩ := Pair.pulling_of_begun clocked planned sessionFits
    responderFits owned idle begins learning pulls
  have stands : PullStands clock agent 0 begun.state.2 session.plan 0
      (session.plan.packageData.length - 0) begun :=
    .pulling pulling (.level moves) (Nat.le_of_eq fresh)
  refine ⟨fun count enough => ?_, fun before lost count => ?_⟩
  · obtain ⟨rounds, few, polled⟩ := stands.polls clocked (Nat.zero_le _) planned (Nat.zero_le _)
      count
    obtain rfl : rounds = 0 := by omega
    exact polled.delivered_of_zero.toHasPulled
  · obtain ⟨_, -, undisturbed⟩ := stands.polls clocked (Nat.zero_le _) planned (Nat.zero_le _)
      before
    -- Before the loss all goes as in the first half, and two polls more make up for it.
    obtain ⟨left, bounded, disturbed⟩ := undisturbed.lose clocked planned advances late lost
    obtain ⟨rounds, few, polled⟩ := disturbed.polls clocked early planned (Nat.le_refl _) count
    refine ⟨fun pull passed phase => polled.restarts_le phase, fun enough => ?_⟩
    obtain rfl : rounds = 0 := by omega
    exact polled.delivered_of_zero.toHasPulled

end Pull

/-! ## Three bytes of package data -/

namespace ThreeBytes

/-- A plan with three bytes of package data. -/
def plan : UpdatePlan := { SpoiledImage.plan with packageData := [7, 8, 9] }

/-- Package data move one byte at a time. -/
def settings : AgentSettings := { portionSize := 1 }

/-- A device that wants package data; its state is its clock. -/
def device : Device Nat where
  identifiers time := ({}, time)
  components _ := [{ key := SpoiledImage.key }]
  activeVersion _ := .raw []
  wantsPackageData _ := true
  updateComponent _ _ time := (0, time)
  firmwareData _ _ _ time := (.success, time)
  verify _ time := (.success, time)
  apply _ time := (.ok .empty, time)
  now time := (time, time)

theorem clocked : device.Clocked id := ⟨fun _ => rfl, fun _ => rfl, fun _ _ => rfl⟩

/-- The session as it begins. -/
def session : Session := { settings, plan, outcomes := Session.freshOutcomes plan }

/-- The two sides after the request to update. -/
def begun : Pair (Nat × List DeviceCall) :=
  Pair.issue device.recorded ⟨8⟩ { session, responder := .withMaxMessage 0, state := (0, []) }
    .requestUpdate

/-- The answer with the second byte is lost, and so much time passes. -/
def disturbed (delay : Nat) : Pair (Nat × List DeviceCall) :=
  ((begun.polls device.recorded ⟨8⟩ 1).pollLosing device.recorded .answer).later (· + delay)

end ThreeBytes

/-- The device has the three bytes although the answer with the second one was lost. -/
theorem three_bytes_survive_a_loss :
    Exchange.retryTime < 1001 ∧ 1001 ≤ Responder.silenceLimit ∧
      (((ThreeBytes.disturbed 1001).polls ThreeBytes.device.recorded ⟨8⟩ 5).HasPulled
        ThreeBytes.begun.state.2 [7, 8, 9]) :=
  have survives := package_data_survive_a_loss ThreeBytes.device ThreeBytes.clocked
    (fun _ => rfl : ∀ time : Nat, id (time + 1001) = id time + 1001) (by decide) (by decide)
    (rfl : Session.start ThreeBytes.settings ThreeBytes.plan = .ok ThreeBytes.session) [] rfl rfl 0
    0 [] rfl ⟨8⟩ (rfl : _ = ThreeBytes.begun) rfl rfl
  ⟨by decide, by decide, (survives.2 1 .answer 5).2 (by decide)⟩

/-- A device that waits for longer than it takes to give up does give up, and never has the
package data. -/
theorem long_silence_ends_a_pull :
    ThreeBytes.begun.session.state = .learnComponents ∧
      ThreeBytes.begun.responder.state = .learnComponents ∧
      ThreeBytes.begun.session.devicePulls = true ∧ ThreeBytes.plan.packageData ≠ [] ∧
      Exchange.retryTime < 120001 ∧
      ∀ count, ¬ ((ThreeBytes.disturbed 120001).polls ThreeBytes.device.recorded ⟨8⟩
        count).HasPulled ThreeBytes.begun.state.2 [7, 8, 9] := by
  refine ⟨rfl, rfl, rfl, by decide, by decide, fun count pulled => ?_⟩
  cases count with
  | zero => cases pulled.phase
  | succ count =>
      have idle : ((ThreeBytes.disturbed 120001).poll ThreeBytes.device.recorded
          ⟨8⟩).responder.phase = .idle .timeoutLearn := by decide
      rw [Pair.polls, Pair.polls_of_idle idle] at pulled
      cases idle.symm.trans pulled.phase

end FirmwareUpdate
