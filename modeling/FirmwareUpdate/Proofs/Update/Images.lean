import FirmwareUpdate.Proofs.Device.Room
import FirmwareUpdate.Proofs.Update.Announcement

/-!
# Sending the images of a plan

When all components have been announced, those that the device takes have their turn in
the order of the plan. A device that still takes one receives its image piece by piece,
checks it and applies it. `Updated` says what that comes to for the device; in a driven
update nothing else reaches it.
-/

namespace FirmwareUpdate

open Wire

variable {σ : Type}

/-- A device receives an image from this offset on. Every piece is put behind the one before
it, none is empty, and the pieces make up the image. The clock is read three times in each
exchange. -/
inductive Device.Receives (device : Device σ) (details : ComponentDetails) :
    Nat → List UInt8 → σ → List DeviceCall → σ → Prop where
  | done (offset : Nat) (state : σ) : Receives device details offset [] state [] state
  | piece {offset : Nat} {data image : List UInt8} {state next last : σ} {calls : List DeviceCall}
      (some : data ≠ [])
      (stores : device.firmwareData offset data details
        (device.later (device.later (device.later state))) = (.success, next))
      (rest : Receives device details (offset + data.length) image next calls last) :
      Receives device details offset (data ++ image) state
        (.firmwareData offset data details .success :: calls) last

/-- A device receives the image of a component from its beginning, verifies it once and
applies it once. -/
def Device.Installs (device : Device σ) (component : ComponentImage) (state : σ)
    (calls : List DeviceCall) (last : σ) : Prop :=
  ∃ pieces received checked outcome,
    device.Receives component.details 0 component.image state pieces received ∧
    device.verify component.details (device.later (device.later received)) =
      (.success, checked) ∧
    device.apply component.details (device.later checked) = (outcome, last) ∧
    (Responder.applyReport outcome).1.isSuccess = true ∧
    calls = pieces ++ [.verify component.details .success, .apply component.details outcome]

/-- What a device does when a component has its turn that it has agreed to take: it installs
the component, or it refuses or does not have it any more. -/
inductive Device.TakesTurn (device : Device σ) (component : ComponentImage) (state : σ) :
    Bool → List DeviceCall → σ → Prop where
  | unlisted (absent : ¬ device.Lists component (device.later state)) :
      TakesTurn device component state false [] (device.later state)
  | refused {answer : UInt8} {last : σ} (listed : device.Lists component (device.later state))
      (answers : device.updateComponent true component.record.inUpdate (device.later state) =
        (answer, last))
      (against : answer ≠ 0) :
      TakesTurn device component state false
        [.updateComponent true component.record.inUpdate answer] last
  | installed {next last : σ} {calls : List DeviceCall}
      (listed : device.Lists component (device.later state))
      (answers : device.updateComponent true component.record.inUpdate (device.later state) =
        (0, next))
      (installs : device.Installs component next calls last) :
      TakesTurn device component state true
        (.updateComponent true component.record.inUpdate 0 :: calls) last

/-- The components with a first flag `true` have their turn one after another. The second
flags tell which ones the device installs. -/
inductive Updated (device : Device σ) :
    σ → List ComponentImage → List Bool → List Bool → List DeviceCall → σ → Prop where
  | nil (state : σ) : Updated device state [] [] [] [] state
  | passedOver {state last : σ} {component : ComponentImage} {components : List ComponentImage}
      {announced updated : List Bool} {calls : List DeviceCall}
      (rest : Updated device state components announced updated calls last) :
      Updated device state (component :: components) (false :: announced) (false :: updated)
        calls last
  | turn {state next last : σ} {component : ComponentImage} {components : List ComponentImage}
      {flag : Bool} {announced updated : List Bool} {calls more : List DeviceCall}
      (takes : device.TakesTurn component state flag calls next)
      (rest : Updated device next components announced updated more last) :
      Updated device state (component :: components) (true :: announced) (flag :: updated)
        (calls ++ more) last

/-- What the session notes about a component that has had its turn. -/
def ComponentOutcome.ofUpdate (updated : Bool) : ComponentOutcome :=
  if updated then .updated else .skipped

/-! ## Whose turn it is -/

namespace Session

variable {session : Session}

/-- Behind components that have had their turn, an accepted one is next. -/
theorem nextComponent?_of_accepted {settled remaining : List ComponentOutcome}
    (outcomes : session.outcomes = settled ++ .accepted :: remaining)
    (closed : .accepted ∉ settled) (turn : session.nextUpdate ≤ settled.length) :
    session.nextComponent? = some settled.length := by
  unfold nextComponent?
  rw [List.find?_range'_eq_some, List.mem_range'_1, outcomes]
  refine ⟨by simp, ⟨turn, by simp; omega⟩, fun index _ before => ?_⟩
  rw [List.getElem?_append_left before]
  simp only [Bool.not_eq_true', decide_eq_false_iff_not]
  exact fun accepted => closed (List.mem_of_getElem? accepted)

/-- Without an accepted component there is no next one. -/
theorem nextComponent?_of_settled (closed : .accepted ∉ session.outcomes) :
    session.nextComponent? = none := by
  unfold nextComponent?
  rw [List.find?_range'_eq_none]
  intro index _ _
  simp only [Bool.not_eq_true', decide_eq_false_iff_not]
  exact fun accepted => closed (List.mem_of_getElem? accepted)

end Session

/-! ## One image -/

section Course

variable (agent : EndpointId) (time : Nat) (settings : AgentSettings) (plan : UpdatePlan)

/-- The session updates the component at this index, and both sides are at the same point of
it. The components before it have had their turn. -/
structure Installing (metadata : List UInt8) (settled : List ComponentOutcome) (index : Nat)
    (component : ComponentImage) (state : AgentState) (phase : DevicePhase)
    (pair : Pair (σ × List DeviceCall)) : Prop extends
    Underway agent time settings plan pair where
  state : pair.session.state = state
  phase : pair.responder.phase = phase
  whole : pair.session.componentFailed = false
  current : pair.session.current = some index
  listed : plan.components[index]? = some component
  outcomes : pair.session.outcomes = settled
  turn : pair.session.nextUpdate = index + 1
  told : pair.session.metadataDone = true
  bytes : pair.session.metadataBytes = metadata

end Course

/-- The phase of a device that has a part of an image. -/
def ComponentImage.receiving (component : ComponentImage) (offset : Nat) : DevicePhase :=
  .download offset (if offset = component.image.length then some .success else none) .ready
    (component.options &&& 0x1) component.details

section Driven

variable {device : Device σ} {agent : EndpointId} {settings : AgentSettings} {plan : UpdatePlan}
  {metadata : List UInt8} {settled : List ComponentOutcome} {index : Nat}
  {component : ComponentImage} {pair : Pair (σ × List DeviceCall)}

namespace Installing

variable {time : Nat} {state : AgentState} {phase : DevicePhase}

theorem currentComponent?_eq
    (installing : Installing agent time settings plan metadata settled index component state phase
      pair) : pair.session.currentComponent? = some component := by
  unfold Session.currentComponent?
  rw [installing.current, installing.planned]
  exact installing.listed

/-- The session waits for the device until the image has been applied. -/
theorem awaits
    (installing : Installing agent time settings plan metadata settled index component state phase
      pair) (updating : state.isUpdating = true) : pair.session.nextAction = .awaitRequest := by
  cases state <;> cases updating <;>
    simp [Session.nextAction, installing.unfinished, installing.state, installing.whole]

end Installing

/-- The device asks for bytes that the image has, and for no more than the session serves. -/
theorem Installing.requestSize_within {time : Nat} {state : AgentState} {phase : DevicePhase}
    (enough : baselineTransfer ≤ settings.maxTransferSize.toNat)
    (installing : Installing agent time settings plan metadata settled index component state phase
      pair) {offset : Nat} (more : offset < component.image.length) :
    0 < pair.responder.requestSize offset component.details ∧
      pair.responder.requestSize offset component.details ≤ settings.maxTransferSize.toNat ∧
      offset + pair.responder.requestSize offset component.details ≤ component.image.length := by
  simp only [Responder.requestSize, installing.pace, installing.room, ComponentImage.details,
    baselineTransfer, maxMessageSize, responseHeaderSize] at enough ⊢
  omega

/-- A piece that the image has and that is not too long is served. -/
theorem Session.piece_of_within {session : Session} {image : List UInt8} {offset length : Nat}
    (some : 0 < length) (short : length ≤ session.settings.maxTransferSize.toNat)
    (within : offset + length ≤ image.length) :
    session.piece image offset length = .ok ((image.drop offset).take length) := by
  unfold piece
  rw [if_neg (by omega), if_neg (by omega)]

/-- The next piece of an image moves to the device, which stores it. -/
theorem Installing.leads_to_piece (cooperates : device.Cooperates settings.maxMetadataSize)
    {time : Nat} (clock : ∀ state, (device.recorded.now state).1 = time)
    (enough : baselineTransfer ≤ settings.maxTransferSize.toNat) {offset : Nat}
    (installing : Installing agent time settings plan metadata settled index component .download
      (component.receiving offset) pair) (more : offset < component.image.length) :
    let length := pair.responder.requestSize offset component.details
    let data := (component.image.drop offset).take length
    let stored := device.firmwareData offset data component.details
      (device.later (device.later (device.later pair.state.1)))
    ∃ next, Pair.Leads device.recorded agent pair next ∧
      Installing agent time settings plan metadata settled index component .download
        (component.receiving (offset + length)) next ∧
      next.state =
        (stored.2, pair.state.2 ++ [.firmwareData offset data component.details stored.1]) := by
  intro length data stored
  have small := (installing.synced.sound.component
    (List.mem_of_getElem? (installing.planned ▸ installing.listed))).1
  have phase : pair.responder.phase = .download offset none .ready (component.options &&& 0x1)
      component.details := by
    rw [installing.phase, ComponentImage.receiving, if_neg (Nat.ne_of_lt more)]
  have running := Responder.running_of_phase phase rfl
  obtain ⟨some, short, within⟩ := installing.requestSize_within enough more
  have served : pair.session.piece component.image offset
      (pair.responder.requestSize offset component.details) = .ok data :=
    Session.piece_of_within some (installing.configured ▸ short) within
  have taken : data.length = length := Session.length_of_piece served
  have success : stored.1 = .success := cooperates.stores ..
  have called : device.recorded.firmwareData offset data component.details
      (device.recorded.now (device.recorded.now (device.recorded.now pair.state).2).2).2 =
        (stored.1, stored.2,
          pair.state.2 ++ [.firmwareData offset data component.details stored.1]) := rfl
  have polled := Pair.poll_requestFirmwareData (installing.synced.inTouch clock running) phase
    installing.state installing.whole installing.currentComponent?_eq small (Nat.le_of_lt more)
  simp only [served, called, success, taken, Responder.afterData, if_true] at polled
  obtain ⟨step, underway⟩ := installing.toUnderway.polled clock (installing.awaits rfl) polled
    ⟨rfl, rfl, rfl, rfl, rfl, rfl⟩
  refine ⟨_, step, ⟨underway, installing.state, rfl, installing.whole, installing.current,
    installing.listed, installing.outcomes, installing.turn, installing.told,
    installing.bytes⟩, ?_⟩
  rw [success]

/-- The rest of an image moves to the device. -/
theorem Installing.leads_to_received (cooperates : device.Cooperates settings.maxMetadataSize)
    {time : Nat} (clock : ∀ state, (device.recorded.now state).1 = time)
    (enough : baselineTransfer ≤ settings.maxTransferSize.toNat) {offset : Nat}
    (installing : Installing agent time settings plan metadata settled index component .download
      (component.receiving offset) pair) (within : offset ≤ component.image.length) :
    ∃ last calls, Pair.Leads device.recorded agent pair last ∧
      Installing agent time settings plan metadata settled index component .download
        (component.receiving component.image.length) last ∧
      device.Receives component.details offset (component.image.drop offset) pair.state.1 calls
        last.state.1 ∧
      last.state.2 = pair.state.2 ++ calls := by
  induction remaining : component.image.length - offset using Nat.strongRecOn
    generalizing pair offset with
  | ind remaining ih =>
      rcases Nat.eq_or_lt_of_le within with rfl | more
      · refine ⟨pair, [], .refl pair, installing, ?_, (List.append_nil _).symm⟩
        rw [List.drop_length]
        exact .done _ _
      · obtain ⟨some, -, fits⟩ := installing.requestSize_within enough more
        obtain ⟨next, step, continues, state⟩ :=
          installing.leads_to_piece cooperates clock enough more
        obtain ⟨last, calls, leads, received, receives, log⟩ :=
          ih _ (by omega) continues fits rfl
        generalize pair.responder.requestSize offset component.details = length at *
        have taken : ((component.image.drop offset).take length).length = length := by
          rw [List.length_take, List.length_drop]
          omega
        have stores := cooperates.stores offset ((component.image.drop offset).take length)
          component.details (device.later (device.later (device.later pair.state.1)))
        rw [state] at receives log
        rw [stores] at log
        rw [← List.take_append_drop length (component.image.drop offset), List.drop_drop]
        refine ⟨last, _ :: calls, step.trans leads, received,
          .piece ?_ (Prod.ext stores rfl) ?_, ?_⟩
        · exact List.ne_nil_of_length_pos (taken.symm ▸ some)
        · rw [taken]
          exact receives
        · rw [log]
          exact List.append_assoc ..

/-- The device reports that it has the whole image. -/
theorem Installing.leads_to_verify {time : Nat}
    (clock : ∀ state, (device.recorded.now state).1 = time)
    (installing : Installing agent time settings plan metadata settled index component .download
      (component.receiving component.image.length) pair) :
    ∃ next, Pair.Leads device.recorded agent pair next ∧
      Installing agent time settings plan metadata settled index component .verify
        (.verify .ready component.details) next ∧
      next.state = (device.later pair.state.1, pair.state.2) := by
  have phase : pair.responder.phase = .download component.image.length (some .success) .ready
      (component.options &&& 0x1) component.details := by
    rw [installing.phase, ComponentImage.receiving, if_pos rfl]
  have running := Responder.running_of_phase phase rfl
  have polled := Pair.poll_transferComplete (installing.synced.inTouch clock running) phase
    installing.state installing.whole
  simp only [if_true] at polled
  obtain ⟨step, underway⟩ := installing.toUnderway.polled clock (installing.awaits rfl) polled
    ⟨rfl, rfl, rfl, rfl, rfl, rfl⟩
  exact ⟨_, step, ⟨underway, rfl, rfl, installing.whole, installing.current, installing.listed,
    installing.outcomes, installing.turn, installing.told, installing.bytes⟩, rfl⟩

/-- The device checks the image and reports that it is intact. -/
theorem Installing.leads_to_apply (cooperates : device.Cooperates settings.maxMetadataSize)
    {time : Nat} (clock : ∀ state, (device.recorded.now state).1 = time)
    (installing : Installing agent time settings plan metadata settled index component .verify
      (.verify .ready component.details) pair) :
    ∃ next, Pair.Leads device.recorded agent pair next ∧
      Installing agent time settings plan metadata settled index component .apply
        (.apply .ready component.details) next ∧
      next.state = ((device.verify component.details (device.later pair.state.1)).2,
        pair.state.2 ++ [.verify component.details .success]) := by
  have running := Responder.running_of_phase installing.phase rfl
  have success := cooperates.verifies component.details (device.later pair.state.1)
  have called : device.recorded.verify component.details (device.recorded.now pair.state).2 =
      (.success, (device.verify component.details (device.later pair.state.1)).2,
        pair.state.2 ++ [.verify component.details .success]) := by
    rw [← success]
    rfl
  have polled := Pair.poll_verifyComplete (installing.synced.inTouch clock running)
    installing.phase installing.state installing.whole
  simp only [called, if_true] at polled
  obtain ⟨step, underway⟩ := installing.toUnderway.polled clock (installing.awaits rfl) polled
    ⟨rfl, rfl, rfl, rfl, rfl, rfl⟩
  exact ⟨_, step, ⟨underway, rfl, rfl, installing.whole, installing.current, installing.listed,
    installing.outcomes, installing.turn, installing.told, installing.bytes⟩, rfl⟩

/-- The device applies the image and reports that it has done so. -/
theorem Installing.leads_to_applied (cooperates : device.Cooperates settings.maxMetadataSize)
    {time : Nat} (clock : ∀ state, (device.recorded.now state).1 = time)
    (installing : Installing agent time settings plan metadata settled index component .apply
      (.apply .ready component.details) pair) :
    let applied := device.apply component.details (device.later pair.state.1)
    ∃ next, Pair.Leads device.recorded agent pair next ∧
      Updating agent time settings plan metadata (settled.set index .updated) (index + 1) next ∧
      next.state = (applied.2, pair.state.2 ++ [.apply component.details applied.1]) := by
  intro applied
  have running := Responder.running_of_phase installing.phase rfl
  have success : (Responder.applyReport applied.1).1.isSuccess = true := cooperates.applies ..
  have called : device.recorded.apply component.details (device.recorded.now pair.state).2 =
      (applied.1, applied.2, pair.state.2 ++ [.apply component.details applied.1]) := rfl
  have polled := Pair.poll_applyComplete (installing.synced.inTouch clock running)
    installing.phase installing.state installing.whole
  simp only [called, success, if_true] at polled
  obtain ⟨step, underway⟩ := installing.toUnderway.polled clock (installing.awaits rfl) polled
    ⟨rfl, rfl, rfl, rfl, rfl, rfl⟩
  refine ⟨_, step, ⟨underway, rfl, rfl, installing.told, installing.bytes, ?_,
    installing.turn⟩, rfl⟩
  simp only [Session.endComponent, installing.current, installing.outcomes]

/-- A device that has accepted a component installs it. -/
theorem Installing.leads_to_installed (cooperates : device.Cooperates settings.maxMetadataSize)
    {time : Nat} (clock : ∀ state, (device.recorded.now state).1 = time)
    (enough : baselineTransfer ≤ settings.maxTransferSize.toNat)
    (installing : Installing agent time settings plan metadata settled index component .download
      (component.receiving 0) pair) :
    ∃ last calls, Pair.Leads device.recorded agent pair last ∧
      Updating agent time settings plan metadata (settled.set index .updated) (index + 1) last ∧
      device.Installs component pair.state.1 calls last.state.1 ∧
      last.state.2 = pair.state.2 ++ calls := by
  obtain ⟨received, pieces, receiving, complete, receives, receivedLog⟩ :=
    installing.leads_to_received cooperates clock enough (Nat.zero_le _)
  obtain ⟨reported, reporting, intact, reportedState⟩ := complete.leads_to_verify clock
  obtain ⟨checked, checking, verified, checkedState⟩ := intact.leads_to_apply cooperates clock
  obtain ⟨last, applying, updating, lastState⟩ := verified.leads_to_applied cooperates clock
  rw [reportedState] at checkedState
  rw [checkedState] at lastState
  rw [List.drop_zero] at receives
  let intactImage := device.verify component.details (device.later (device.later received.state.1))
  let applied := device.apply component.details (device.later intactImage.2)
  have lastState : last.state = (applied.2, received.state.2 ++
      [.verify component.details .success] ++ [.apply component.details applied.1]) := lastState
  refine ⟨last, _, ((receiving.trans reporting).trans checking).trans applying, updating,
    ⟨pieces, received.state.1, intactImage.2, applied.1, receives,
      Prod.ext (cooperates.verifies ..) rfl, ?_, cooperates.applies .., rfl⟩, ?_⟩
  · rw [lastState]
  · rw [lastState, receivedLog]
    simp only [List.append_assoc, List.singleton_append]

/-! ## All images -/

/-- The next component that the device has accepted has its turn. -/
theorem Updating.leads_to_turn {time : Nat} (clock : ∀ state, (device.recorded.now state).1 = time)
    {remaining : List ComponentOutcome} {turn : Nat}
    (updating : Updating agent time settings plan metadata (settled ++ .accepted :: remaining) turn
      pair)
    (closed : .accepted ∉ settled) (early : turn ≤ settled.length)
    (listed : plan.components[settled.length]? = some component) :
    let checked := Responder.checkComponent device.recorded true component.record.inUpdate
      (device.later pair.state.1, pair.state.2)
    ∃ next, Pair.Leads device.recorded agent pair next ∧ next.state = checked.2 ∧
      (checked.1 = 0 → Installing agent time settings plan metadata
        (settled ++ .accepted :: remaining) settled.length component .download
        (component.receiving 0) next) ∧
      (checked.1 ≠ 0 → Updating agent time settings plan metadata
        (settled ++ .skipped :: remaining) (settled.length + 1) next) := by
  intro checked
  have turns : pair.session.nextComponent? = some settled.length :=
    Session.nextComponent?_of_accepted updating.outcomes closed (updating.turn ▸ early)
  have issues : pair.session.nextAction = .issue .updateComponent := by
    simp [Session.nextAction, updating.unfinished, updating.ready, turns]
  have answered : pair.issue device.recorded agent .updateComponent = _ :=
    Pair.issue_updateComponent updating.synced.sound updating.synced.sessionFits
      updating.synced.home updating.ready updating.phase turns
      (by rw [updating.planned]; exact listed)
  have asks : Responder.checkComponent device.recorded true component.record.inUpdate
      (pair.responder.touch device.recorded pair.state).2 = checked := rfl
  dsimp only at answered
  rw [asks] at answered
  by_cases accepts : checked.1 = 0
  · rw [if_pos accepts] at answered
    obtain ⟨step, underway⟩ := updating.toUnderway.issued clock issues (by decide) answered
      ⟨rfl, rfl, rfl, rfl, rfl, rfl⟩
    refine ⟨_, step, rfl, fun _ => ⟨underway, rfl, ?_, rfl, rfl, listed, updating.outcomes, rfl,
      updating.told, updating.bytes⟩, absurd accepts⟩
    simp only [Responder.enter, ComponentImage.receiving, eq_comm]
  · rw [if_neg accepts] at answered
    obtain ⟨step, underway⟩ := updating.toUnderway.issued clock issues (by decide) answered
      ⟨rfl, rfl, rfl, rfl, rfl, rfl⟩
    refine ⟨_, step, rfl, fun accepted => absurd accepted accepts, fun _ =>
      ⟨underway, updating.ready, updating.phase, updating.told, updating.bytes, ?_, rfl⟩⟩
    show pair.session.outcomes.set settled.length .skipped = _
    rw [updating.outcomes, List.set_append_right _ _ (Nat.le_refl _), Nat.sub_self,
      List.set_cons_zero]

/-- A component that has its turn is installed, or left out after all. -/
theorem Updating.leads_past (cooperates : device.Cooperates settings.maxMetadataSize)
    {time : Nat} (clock : ∀ state, (device.recorded.now state).1 = time)
    (enough : baselineTransfer ≤ settings.maxTransferSize.toNat)
    {remaining : List ComponentOutcome} {turn : Nat}
    (updating : Updating agent time settings plan metadata (settled ++ .accepted :: remaining) turn
      pair)
    (closed : .accepted ∉ settled) (early : turn ≤ settled.length)
    (listed : plan.components[settled.length]? = some component) :
    ∃ next updated calls, Pair.Leads device.recorded agent pair next ∧
      Updating agent time settings plan metadata (settled ++ .ofUpdate updated :: remaining)
        (settled.length + 1) next ∧
      device.TakesTurn component pair.state.1 updated calls next.state.1 ∧
      next.state.2 = pair.state.2 ++ calls := by
  obtain ⟨next, step, state, installing, refused⟩ :=
    updating.leads_to_turn clock closed early listed
  by_cases present : device.Lists component (device.later pair.state.1)
  · cases answers : device.updateComponent true component.record.inUpdate
        (device.later pair.state.1) with
    | mk answer after =>
        rw [Responder.checkComponent_of_listed component.record.inUpdate present true answers]
          at state installing refused
        by_cases accepts : answer = 0
        · subst accepts
          obtain ⟨last, calls, leads, updating, installs, log⟩ :=
            (installing rfl).leads_to_installed cooperates clock enough
          rw [List.set_append_right _ _ (Nat.le_refl _), Nat.sub_self, List.set_cons_zero]
            at updating
          rw [state] at installs log
          exact ⟨last, true, _ :: calls, step.trans leads, updating,
            .installed present answers installs, log.trans (List.append_assoc ..)⟩
        · refine ⟨next, false, _, step, refused accepts, ?_, congrArg Prod.snd state⟩
          rw [state]
          exact .refused present answers accepts
  · obtain ⟨against, same⟩ := Responder.checkComponent_of_absent
      component.record.inUpdate present true pair.state.2
    rw [same] at state
    refine ⟨next, false, [], step, refused against, ?_, by rw [state, List.append_nil]⟩
    rw [state]
    exact .unlisted present

/-- All components that are left have their turn. -/
theorem Updating.leads_to_updated (cooperates : device.Cooperates settings.maxMetadataSize)
    {time : Nat} (clock : ∀ state, (device.recorded.now state).1 = time)
    (enough : baselineTransfer ≤ settings.maxTransferSize.toNat) {announced : List Bool}
    {turn : Nat} (updating : Updating agent time settings plan metadata
      (settled ++ announced.map .ofAnnouncement) turn pair)
    (closed : .accepted ∉ settled) (early : turn ≤ settled.length)
    {components : List ComponentImage} (left : plan.components.drop settled.length = components)
    (answered : announced.length = components.length) :
    ∃ last updated calls, Pair.Leads device.recorded agent pair last ∧
      (∃ turn, Updating agent time settings plan metadata (settled ++ updated.map .ofUpdate) turn
        last) ∧
      Updated device pair.state.1 components announced updated calls last.state.1 ∧
      last.state.2 = pair.state.2 ++ calls := by
  induction components generalizing pair settled turn announced with
  | nil =>
      cases List.eq_nil_of_length_eq_zero answered
      exact ⟨pair, [], [], .refl pair, ⟨turn, updating⟩, .nil _, (List.append_nil _).symm⟩
  | cons component components ih =>
      obtain ⟨flag, announced, rfl⟩ := List.exists_cons_of_length_eq_add_one answered
      obtain ⟨listed, left⟩ := UpdatePlan.components_of_drop left
      have paired : announced.length = components.length := Nat.succ.inj answered
      have longer (mark : ComponentOutcome) : (settled ++ [mark]).length = settled.length + 1 := by
        rw [List.length_append, List.length_singleton]
      cases flag with
      | false =>
          have closed : .accepted ∉ settled ++ [ComponentOutcome.skipped] := by simp [closed]
          obtain ⟨last, updated, calls, leads, ended, rest, log⟩ :=
            ih (List.append_cons .. ▸ updating) closed (longer _ ▸ Nat.le_succ_of_le early)
              (longer _ ▸ left) paired
          rw [← List.append_cons] at ended
          exact ⟨last, false :: updated, calls, leads, ended, .passedOver rest, log⟩
      | true =>
          obtain ⟨next, flag, calls, step, updating, takes, log⟩ :=
            updating.leads_past cooperates clock enough closed early listed
          have closed : .accepted ∉ settled ++ [ComponentOutcome.ofUpdate flag] := by
            cases flag <;> simp [closed, ComponentOutcome.ofUpdate]
          obtain ⟨last, updated, more, leads, ended, rest, later⟩ :=
            ih (List.append_cons .. ▸ updating) closed (longer _ ▸ Nat.le_refl _) (longer _ ▸ left)
              paired
          rw [← List.append_cons] at ended
          refine ⟨last, flag :: updated, calls ++ more, step.trans leads, ended, .turn takes rest,
            ?_⟩
          rw [later, log, List.append_assoc]

end Driven

end FirmwareUpdate
