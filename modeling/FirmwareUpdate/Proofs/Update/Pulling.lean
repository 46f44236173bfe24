import FirmwareUpdate.Proofs.Update.Course

/-!
# Pulls of package data

A device that pulls package data asks again when it has waited for an answer, and begins again
when the session refuses what it asks for. `PullStands` says where a pull can stand: every poll
preserves it, and leaves fewer rounds until the device has the package data.
-/

namespace FirmwareUpdate

open Wire

variable {σ : Type}

/-! ## Devices with a clock -/

/-- The device reads its time off its state, and neither a reading nor the package data change
it. -/
structure Device.Clocked (device : Device σ) (clock : σ → Nat) : Prop where
  reads : ∀ state, (device.now state).1 = clock state
  kept_now : ∀ state, clock (device.now state).2 = clock state
  kept_packageData : ∀ data state, clock (device.packageData data state) = clock state

/-- The request has to be sent at this time. -/
def Exchange.IsDueAt (exchange : Exchange) (time : Nat) : Prop :=
  match exchange with
  | ready => True
  | sent _ _ since => retryTime < time - since
  | failed _ => False

/-- No time has passed, and the device has not been called. -/
def SameMoment (clock : σ → Nat) (before after : σ × List DeviceCall) : Prop :=
  clock after.1 = clock before.1 ∧ after.2 = before.2

/-- A moment that goes on is one moment. -/
theorem SameMoment.trans {clock : σ → Nat} {first middle last : σ × List DeviceCall}
    (front : SameMoment clock first middle) (back : SameMoment clock middle last) :
    SameMoment clock first last :=
  ⟨back.1.trans front.1, back.2.trans front.2⟩

namespace Device.Clocked

variable {device : Device σ} {clock : σ → Nat} {state : σ × List DeviceCall}

/-- Reading the clock does not end a moment. -/
theorem sameMoment_now (clocked : device.Clocked clock) (state : σ × List DeviceCall) :
    SameMoment clock state (device.recorded.now state).2 :=
  ⟨clocked.kept_now state.1, rfl⟩

/-- What is due is sent. -/
theorem isDue (clocked : device.Clocked clock) {exchange : Exchange}
    (due : exchange.IsDueAt (clock state.1)) :
    ∃ ready, exchange.isDue device.recorded state = (true, ready) ∧
      SameMoment clock state ready := by
  cases exchange with
  | ready => exact ⟨state, rfl, rfl, rfl⟩
  | sent iid cmd since =>
      refine ⟨_, ?_, clocked.sameMoment_now state⟩
      have late : Exchange.retryTime < (device.now state.1).1 - since := by
        rw [clocked.reads]
        exact due
      simp [Exchange.isDue, late]
  | failed code => exact due.elim

end Device.Clocked

/-! ## Where a pull stands -/

/-- The device has the package data once, all of them, and neither side expects any more. -/
structure Pair.HasPulled (calls : List DeviceCall) (package : List UInt8)
    (pair : Pair (σ × List DeviceCall)) : Prop extends Prepared pair where
  calls_eq : pair.state.2 = calls ++ [.packageData package]

section Standing

variable (clock : σ → Nat) (agent : EndpointId) (silence : Nat) (calls : List DeviceCall)
  (plan : UpdatePlan)

/-- The device pulls the package data, has a request to send, and has heard of the agent within
this time. It has not been called since the pull began. -/
structure Pulling (pull : PackagePull) (pair : Pair (σ × List DeviceCall)) : Prop where
  planned : pair.session.plan = plan
  learning : pair.session.state = .learnComponents
  pulls : pair.session.devicePulls = true
  owner : pair.responder.owner = some agent
  fits : FitsInstance pair.responder.nextIid
  heard : clock pair.state.1 - pair.responder.lastActivity ≤ silence
  calls_eq : pair.state.2 = calls
  phase : pair.responder.phase = .learnComponents (some pull) false
  due : pull.exchange.IsDueAt (clock pair.state.1)

/-- The device has the package data, and has heard of the agent within this time. -/
structure Delivered (pair : Pair (σ × List DeviceCall)) : Prop extends
    pair.HasPulled calls plan.packageData where
  heard : clock pair.state.1 - pair.responder.lastActivity ≤ silence

/-- Where a pull can stand, by the rounds that are left to it at most. The refusals that are
still to come stay within the times that it may begin again. -/
inductive PullStands (limit : Nat) : Nat → Pair (σ × List DeviceCall) → Prop where
  | pulling {pull : PackagePull} {needed rounds : Nat} {pair : Pair (σ × List DeviceCall)}
      (pulling : Pulling clock agent silence calls plan pull pair)
      (recovers : Transfer.Recovers plan.packageData pull.transfer pair.session.package pull.data
        needed rounds)
      (enough : pull.restarts + needed ≤ limit) : PullStands limit rounds pair
  | delivered {pair : Pair (σ × List DeviceCall)}
      (delivered : Delivered clock silence calls plan pair) : PullStands limit 0 pair

end Standing

section Pull

variable {device : Device σ} {clock : σ → Nat} {agent : EndpointId} {silence limit rounds : Nat}
  {calls : List DeviceCall} {plan : UpdatePlan} {pull : PackagePull}
  {pair : Pair (σ × List DeviceCall)}

namespace Pulling

/-- The device can ask. -/
theorem inTouch (pulling : Pulling clock agent silence calls plan pull pair)
    (clocked : device.Clocked clock) (patient : silence ≤ Responder.silenceLimit) :
    pair.InTouch device.recorded agent where
  owner := pulling.owner
  fits := pulling.fits
  recent := by
    rw [device.recorded_now, clocked.reads]
    exact Nat.le_trans pulling.heard patient

/-- The device asks, as its request is due. -/
theorem isDue (pulling : Pulling clock agent silence calls plan pull pair)
    (clocked : device.Clocked clock) :
    ∃ ready, pull.exchange.isDue device.recorded (device.recorded.now pair.state).2 =
        (true, ready) ∧ SameMoment clock pair.state ready := by
  have now := clocked.sameMoment_now pair.state
  obtain ⟨ready, asks, same⟩ := clocked.isDue (show pull.exchange.IsDueAt
    (clock (device.recorded.now pair.state).2.1) from now.1 ▸ pulling.due)
  exact ⟨ready, asks, now.trans same⟩

/-- The device hears of the agent at this very moment. -/
theorem heard_now (clocked : device.Clocked clock) {ready : σ × List DeviceCall}
    (same : SameMoment clock pair.state ready) :
    let heard := device.recorded.now (device.recorded.now ready).2
    SameMoment clock pair.state heard.2 ∧ ∀ silence, clock heard.2.1 - heard.1 ≤ silence := by
  have sent := same.trans (clocked.sameMoment_now ready)
  have later := sent.trans (clocked.sameMoment_now _)
  refine ⟨later, fun silence => ?_⟩
  rw [later.1, device.recorded_now, clocked.reads, sent.1, Nat.sub_self]
  exact Nat.zero_le _

/-- A portion arrives. -/
theorem poll_part (pulling : Pulling clock agent silence calls plan pull pair)
    (clocked : device.Clocked clock) (patient : silence ≤ Responder.silenceLimit)
    (sound : plan.Sound) (few : pull.restarts ≤ limit) {moved : Nat}
    (moves : Transfer.Moved plan.packageData pull.transfer pair.session.package pull.data moved) :
    ∃ fewer, fewer < plan.packageData.length - moved ∧
      PullStands clock agent silence calls plan limit fewer (pair.poll device.recorded agent) := by
  obtain ⟨ready, due, same⟩ := pulling.isDue clocked
  obtain ⟨later, heard⟩ := heard_now clocked same
  have planned := pulling.planned
  subst planned
  have small : pair.session.plan.packageData.length < 2 ^ 32 :=
    Nat.lt_trans sound.sizes.2.2.1 (by decide)
  have inside := moves.inside
  have bounds := moves.reached_bounds pair.session.packagePortion
  rw [Pair.poll_packagePart (pulling.inTouch clocked patient) pulling.phase due pulling.learning
    pulling.pulls moves small]
  by_cases whole : Transfer.reached pair.session.plan.packageData pair.session.packagePortion
      moved = pair.session.plan.packageData.length
  · simp only [whole, if_true, decide_true, Bool.or_true]
    refine ⟨0, by omega, .delivered ⟨⟨⟨rfl, rfl⟩, ?_⟩, ?_⟩⟩
    · exact congrArg (· ++ _) (later.2.trans pulling.calls_eq)
    · rw [device.recorded_packageData, clocked.kept_packageData]
      exact heard _
  · simp only [whole, if_false, decide_false, Bool.or_false]
    refine ⟨_, ?_, .pulling
      ⟨rfl, pulling.learning, pulling.pulls, pulling.owner, fitsInstance_nextInstance _, heard _,
        later.2.trans pulling.calls_eq, rfl, trivial⟩ (.level (moves.next whole)) few⟩
    omega

/-- A refusal brings the two sides closer to each other. -/
theorem poll_refused (pulling : Pulling clock agent silence calls plan pull pair)
    (clocked : device.Clocked clock) (patient : silence ≤ Responder.silenceLimit)
    (few : limit ≤ PackagePull.maxRestarts) {needed : Nat}
    (recovers : Transfer.Recovers plan.packageData pull.transfer pair.session.package pull.data
      (needed + 1) rounds) (enough : pull.restarts + (needed + 1) ≤ limit) :
    ∃ fewer, fewer < rounds ∧
      PullStands clock agent silence calls plan limit fewer (pair.poll device.recorded agent) := by
  obtain ⟨ready, due, same⟩ := pulling.isDue clocked
  obtain ⟨later, heard⟩ := heard_now clocked same
  have planned := pulling.planned
  subst planned
  obtain ⟨error, refused, again, fewer, less, closer⟩ :=
    recovers.refused pair.session.packagePortion
  rw [Pair.poll_packageRefused (pulling.inTouch clocked patient) pulling.phase due pulling.learning
    pulling.pulls refused again (by omega)]
  refine ⟨fewer, less, .pulling
    ⟨rfl, pulling.learning, pulling.pulls, pulling.owner, fitsInstance_nextInstance _, heard _,
      later.2.trans pulling.calls_eq, rfl, trivial⟩ closer ?_⟩
  show pull.restarts + 1 + needed ≤ limit
  omega

end Pulling

namespace Delivered

/-- A device that has the package data asks for nothing. -/
theorem progress_eq (delivered : Delivered clock silence calls plan pair)
    (clocked : device.Clocked clock) (patient : silence ≤ Responder.silenceLimit) :
    pair.responder.progress device.recorded pair.state =
      (none, pair.responder, (device.recorded.now pair.state).2) := by
  have phase := delivered.phase
  have recent : (device.recorded.now pair.state).1 - pair.responder.lastActivity ≤
      Responder.silenceLimit := by
    rw [device.recorded_now, clocked.reads]
    exact Nat.le_trans delivered.heard patient
  rw [Responder.progress_of_recent (Responder.running_of_phase phase rfl) recent,
    Responder.progressPhase, phase]

/-- Reading the clock delivers nothing. -/
theorem now (delivered : Delivered clock silence calls plan pair)
    (clocked : device.Clocked clock) :
    Delivered clock silence calls plan
      { pair with state := (device.recorded.now pair.state).2 } where
  toHasPulled := ⟨⟨delivered.done, delivered.phase⟩, delivered.calls_eq⟩
  heard := by
    rw [device.recorded_now, clocked.kept_now]
    exact delivered.heard

/-- The package data are not delivered again. -/
theorem poll (delivered : Delivered clock silence calls plan pair)
    (clocked : device.Clocked clock) (patient : silence ≤ Responder.silenceLimit) :
    Delivered clock silence calls plan (pair.poll device.recorded agent) := by
  rw [Pair.poll_of_quiet (delivered.progress_eq clocked patient)]
  exact delivered.now clocked

end Delivered

/-! ## Every poll -/

namespace Pair

/-- The device is asked for progress a number of times. -/
def polls (device : Device σ) (agent : EndpointId) : Nat → Pair σ → Pair σ
  | 0, pair => pair
  | count + 1, pair => polls device agent count (pair.poll device agent)

/-- An idle device stays idle. -/
theorem polls_of_idle {device : Device σ} {pair : Pair σ} {reason : IdleReason}
    (idle : pair.responder.phase = .idle reason) (agent : EndpointId) (count : Nat) :
    pair.polls device agent count = pair := by
  have asked : pair.responder.progress device pair.state = (none, pair.responder, pair.state) := by
    rw [Responder.progress, idle]
  induction count with
  | zero => rfl
  | succ count ih =>
      rw [polls, poll_of_quiet asked]
      exact ih

end Pair

namespace PullStands

/-- Every poll brings the package data closer to the device, or they are there. -/
theorem poll (stands : PullStands clock agent silence calls plan limit rounds pair)
    (clocked : device.Clocked clock) (patient : silence ≤ Responder.silenceLimit)
    (sound : plan.Sound) (few : limit ≤ PackagePull.maxRestarts) :
    ∃ fewer, fewer ≤ rounds - 1 ∧
      PullStands clock agent silence calls plan limit fewer (pair.poll device.recorded agent) := by
  cases stands with
  | delivered delivered => exact ⟨0, Nat.zero_le _, .delivered (delivered.poll clocked patient)⟩
  | pulling pulling recovers enough =>
      have closer : ∃ fewer, fewer < rounds ∧
          PullStands clock agent silence calls plan limit fewer
            (pair.poll device.recorded agent) := by
        rename_i needed
        cases needed with
        | zero =>
            cases recovers with
            | level moves => exact pulling.poll_part clocked patient sound enough moves
        | succ needed => exact pulling.poll_refused clocked patient few recovers enough
      obtain ⟨fewer, less, stands⟩ := closer
      exact ⟨fewer, by omega, stands⟩

/-- A pull comes to its end in so many polls. -/
theorem polls (stands : PullStands clock agent silence calls plan limit rounds pair)
    (clocked : device.Clocked clock) (patient : silence ≤ Responder.silenceLimit)
    (sound : plan.Sound) (few : limit ≤ PackagePull.maxRestarts) (count : Nat) :
    ∃ fewer, fewer ≤ rounds - count ∧
      PullStands clock agent silence calls plan limit fewer
        (pair.polls device.recorded agent count) := by
  induction count generalizing rounds pair with
  | zero => exact ⟨rounds, Nat.le_refl _, stands⟩
  | succ count ih =>
      obtain ⟨fewer, less, after⟩ := stands.poll clocked patient sound few
      obtain ⟨last, least, polled⟩ := ih after
      exact ⟨last, by omega, polled⟩

/-- When no rounds are left, the device has the package data. -/
theorem delivered_of_zero (stands : PullStands clock agent silence calls plan limit 0 pair) :
    Delivered clock silence calls plan pair := by
  generalize last : 0 = rounds at stands
  cases stands with
  | delivered delivered => exact delivered
  | pulling pulling recovers =>
      cases recovers with
      | level moves =>
          have inside := moves.inside
          omega
      | _ => cases last

/-- No pull begins again more often than it may. -/
theorem restarts_le (stands : PullStands clock agent silence calls plan limit rounds pair)
    {pull : PackagePull} {passed : Bool}
    (phase : pair.responder.phase = .learnComponents (some pull) passed) :
    pull.restarts ≤ limit := by
  cases stands with
  | delivered delivered => cases delivered.phase.symm.trans phase
  | pulling pulling recovers enough =>
      cases pulling.phase.symm.trans phase
      omega

end PullStands

end Pull

end FirmwareUpdate
