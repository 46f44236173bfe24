import FirmwareUpdate.Proofs.Update.Course

/-!
# Announcing the components of a plan

The session announces every component of its plan once and in order. The device is asked
about the components that it has, and its answers settle what the session does later.
`Announced` says what that comes to for the device, and a driven session does no more and
no less.
-/

namespace FirmwareUpdate

open Wire

variable {σ : Type}

/-- The device when its clock has been read. -/
def Device.later (device : Device σ) (state : σ) : σ := (device.now state).2

/-- The device has a component of this name. -/
def Device.Lists (device : Device σ) (component : ComponentImage) (state : σ) : Prop :=
  (device.components state).any (·.isNamedBy component.record.inTable) = true

/-- What a device says when components are announced to it one after another. It takes
those with the flag `true`. It is not asked about a component that it does not have, and
the clock is read before every announcement. -/
inductive Announced (device : Device σ) :
    σ → List ComponentImage → List Bool → List DeviceCall → σ → Prop where
  | nil (state : σ) : Announced device state [] [] [] state
  | unlisted {state last : σ} {component : ComponentImage} {components : List ComponentImage}
      {flags : List Bool} {calls : List DeviceCall}
      (absent : ¬ device.Lists component (device.later state))
      (rest : Announced device (device.later state) components flags calls last) :
      Announced device state (component :: components) (false :: flags) calls last
  | answered {state next last : σ} {component : ComponentImage}
      {components : List ComponentImage} {answer : UInt8} {flags : List Bool}
      {calls : List DeviceCall} (listed : device.Lists component (device.later state))
      (answers : device.updateComponent false component.record.inTable (device.later state) =
        (answer, next))
      (rest : Announced device next components flags calls last) :
      Announced device state (component :: components) (decide (answer = 0) :: flags)
        (.updateComponent false component.record.inTable answer :: calls) last

/-! ## The device is asked -/

section Checked

variable {device : Device σ} {state : σ} {log : List DeviceCall}

/-- A device that has the component is asked about it. -/
theorem Responder.checkComponent_of_listed (record : ComponentRecord)
    (listed : (device.components state).any (·.isNamedBy record) = true) (begins : Bool)
    {answer : UInt8} {next : σ}
    (answers : device.updateComponent begins record state = (answer, next)) :
    checkComponent device.recorded begins record (state, log) =
      (answer, next, log ++ [.updateComponent begins record answer]) := by
  unfold checkComponent
  rw [Device.recorded_components, if_pos listed, Device.recorded_updateComponent, answers]
  rfl

/-- A device that does not have the component is not asked, and does not take it. -/
theorem Responder.checkComponent_of_absent (record : ComponentRecord)
    (absent : ¬ (device.components state).any (·.isNamedBy record) = true) (begins : Bool)
    (log : List DeviceCall) :
    (checkComponent device.recorded begins record (state, log)).1 ≠ 0 ∧
      (checkComponent device.recorded begins record (state, log)).2 = (state, log) := by
  unfold checkComponent
  rw [Device.recorded_components, if_neg absent]
  exact ⟨(by decide : Coded.code ComponentAnswer.notSupported ≠ 0), rfl⟩

/-- One more component is announced first. -/
theorem Announced.cons (device : Device σ) (component : ComponentImage) (state : σ)
    (log : List DeviceCall) :
    let checked := Responder.checkComponent device.recorded false component.record.inTable
      (device.later state, log)
    ∃ asked, checked.2.2 = log ++ asked ∧
      ∀ {components : List ComponentImage} {flags : List Bool} {calls : List DeviceCall}
        {last : σ}, Announced device checked.2.1 components flags calls last →
        Announced device state (component :: components) (decide (checked.1 = 0) :: flags)
          (asked ++ calls) last := by
  intro checked
  by_cases listed : device.Lists component (device.later state)
  · cases answers : device.updateComponent false component.record.inTable (device.later state) with
    | mk answer next =>
        have asks : checked =
            (answer, next, log ++ [.updateComponent false component.record.inTable answer]) :=
          Responder.checkComponent_of_listed _ listed false answers
        rw [asks]
        exact ⟨[_], rfl, fun rest => .answered listed answers rest⟩
  · obtain ⟨refused, same⟩ : checked.1 ≠ 0 ∧ checked.2 = (device.later state, log) :=
      Responder.checkComponent_of_absent _ listed false log
    rw [same, decide_eq_false refused]
    exact ⟨[], (List.append_nil log).symm, fun rest => .unlisted listed rest⟩

end Checked

/-! ## The announcement -/

/-- The first of the components from an index on, and the others. -/
theorem UpdatePlan.components_of_drop {plan : UpdatePlan} {index : Nat}
    {component : ComponentImage} {components : List ComponentImage}
    (left : plan.components.drop index = component :: components) :
    plan.components[index]? = some component ∧ plan.components.drop (index + 1) = components := by
  constructor
  · rw [← Nat.add_zero index, ← List.getElem?_drop, left]
    rfl
  · rw [← List.drop_drop, left, List.drop_one, List.tail_cons]

/-- What the session notes about a component that has been announced. -/
def ComponentOutcome.ofAnnouncement (taken : Bool) : ComponentOutcome :=
  if taken then .accepted else .skipped

/-- The answer about the next component is noted behind the ones before it. -/
theorem Session.outcomes_recordPassed {session : Session} {settled : List ComponentOutcome}
    {left : Nat} (counted : session.passed = settled.length)
    (outcomes : session.outcomes = settled ++ List.replicate (left + 1) .notPassed)
    (answer : UInt8) :
    (session.recordPassed (.of answer)).outcomes =
      settled ++ [.ofAnnouncement (decide (answer = 0))] ++ List.replicate left .notPassed := by
  have mark : (if (TableResponse.of answer).response = 0 then ComponentOutcome.accepted
      else .skipped) = .ofAnnouncement (decide (answer = 0)) := by
    by_cases taken : answer = 0 <;>
      simp [TableResponse.of, ComponentOutcome.ofAnnouncement, taken]
  show session.outcomes.set session.passed _ = _
  rw [mark, outcomes, counted, List.set_append_right _ _ (Nat.le_refl _)]
  simp [List.replicate_succ]

section Course

variable (agent : EndpointId) (time : Nat) (settings : AgentSettings) (plan : UpdatePlan)

/-- The components before these ones have been announced, and it is settled what becomes of
them. -/
structure Announcing (metadata : List UInt8) (settled : List ComponentOutcome)
    (components : List ComponentImage) (pair : Pair (σ × List DeviceCall)) : Prop extends
    Underway agent time settings plan pair where
  learning : pair.session.state = .learnComponents
  prepared : pair.session.packageDone = true
  told : pair.session.metadataDone = true
  bytes : pair.session.metadataBytes = metadata
  phase : pair.responder.phase = .learnComponents none (decide (0 < pair.session.passed))
  counted : pair.session.passed = settled.length
  remaining : plan.components.drop settled.length = components
  outcomes : pair.session.outcomes =
    settled ++ List.replicate components.length .notPassed
  waiting : pair.session.nextUpdate = 0

/-- All components have been announced, and those before this index have had their turn. -/
structure Updating (metadata : List UInt8) (settled : List ComponentOutcome) (turn : Nat)
    (pair : Pair (σ × List DeviceCall)) : Prop extends
    Underway agent time settings plan pair where
  ready : pair.session.state = .readyXfer
  phase : pair.responder.phase = .readyXfer
  told : pair.session.metadataDone = true
  bytes : pair.session.metadataBytes = metadata
  outcomes : pair.session.outcomes = settled
  turn : pair.session.nextUpdate = turn

end Course

section Driven

variable {device : Device σ} {agent : EndpointId} {settings : AgentSettings} {plan : UpdatePlan}
  {metadata : List UInt8} {pair : Pair (σ × List DeviceCall)}

/-- A session that knows all that the device has to say announces the components. -/
theorem Informed.announcing {time : Nat} {announced : List UInt8}
    (entered : Entered agent time settings plan device announced pair)
    (informed : Informed metadata pair) :
    Announcing agent time settings plan metadata [] plan.components pair where
  toUnderway := entered.toUnderway
  learning := entered.learning
  prepared := informed.done
  told := informed.told
  bytes := informed.bytes
  phase := by rw [informed.phase, entered.unannounced]; rfl
  counted := entered.unannounced
  remaining := rfl
  outcomes := entered.outcomes
  waiting := entered.waiting

/-- The next component is announced; after the last one the updates begin. -/
theorem Announcing.leads_to_next {time : Nat}
    (clock : ∀ state, (device.recorded.now state).1 = time)
    {settled : List ComponentOutcome} {component : ComponentImage}
    {components : List ComponentImage}
    (announcing : Announcing agent time settings plan metadata settled (component :: components)
      pair) :
    let checked := Responder.checkComponent device.recorded false component.record.inTable
      (device.later pair.state.1, pair.state.2)
    let after := settled ++ [.ofAnnouncement (decide (checked.1 = 0))]
    ∃ next, Pair.Leads device.recorded agent pair next ∧ next.state = checked.2 ∧
      (components = [] → Updating agent time settings plan metadata after 0 next) ∧
      (components ≠ [] → Announcing agent time settings plan metadata after components next) := by
  intro checked after
  obtain ⟨listed, left⟩ := UpdatePlan.components_of_drop announcing.remaining
  rw [← announcing.planned, ← announcing.counted] at listed
  have total : pair.session.plan.components.length =
      pair.session.passed + 1 + components.length := by
    have rest := congrArg List.length announcing.remaining
    rw [List.length_drop, List.length_cons, ← announcing.planned, ← announcing.counted] at rest
    omega
  have issues : pair.session.nextAction = .issue .passComponentTable := by
    simp [Session.nextAction, announcing.unfinished, announcing.learning, announcing.prepared,
      announcing.told]
  have noted := Session.outcomes_recordPassed announcing.counted announcing.outcomes checked.1
  have answered : pair.issue device.recorded agent .passComponentTable = _ :=
    Pair.issue_passComponentTable announcing.synced.sound announcing.synced.sessionFits
      announcing.synced.home announcing.learning announcing.phase listed
  dsimp only at answered
  obtain ⟨step, underway⟩ := announcing.toUnderway.issued clock issues (by decide) answered
    ⟨rfl, rfl, rfl, rfl, by dsimp only; split <;> rfl, by dsimp only; split <;> rfl⟩
  refine ⟨_, step, rfl, fun last => ?_, fun more => ?_⟩
  · have whole : pair.session.plan.components.length = pair.session.passed + 1 := by
      simpa [last] using total
    rw [if_pos whole] at underway ⊢
    refine ⟨underway, if_pos whole.symm, rfl, announcing.told, announcing.bytes, ?_,
      announcing.waiting⟩
    refine noted.trans ?_
    rw [last, List.length_nil, List.replicate_zero, List.append_nil]
  · have some : 0 < components.length := List.length_pos_iff.mpr more
    have part : ¬ pair.session.plan.components.length = pair.session.passed + 1 := by omega
    rw [if_neg part] at underway ⊢
    refine ⟨underway, (if_neg fun full => part full.symm).trans announcing.learning,
      announcing.prepared, announcing.told, announcing.bytes, ?_, ?_, ?_, noted,
      announcing.waiting⟩
    · exact congrArg _ (decide_eq_true (Nat.succ_pos _)).symm
    · show pair.session.passed + 1 = after.length
      rw [List.length_append, announcing.counted, List.length_singleton]
    · rw [List.length_append, List.length_singleton, left]

/-- A session announces the components that it has not announced yet. -/
theorem leads_to_announced {time : Nat} (clock : ∀ state, (device.recorded.now state).1 = time)
    {settled : List ComponentOutcome} {component : ComponentImage}
    {components : List ComponentImage}
    (announcing : Announcing agent time settings plan metadata settled (component :: components)
      pair) :
    ∃ last flags calls, Pair.Leads device.recorded agent pair last ∧
      Updating agent time settings plan metadata
        (settled ++ flags.map ComponentOutcome.ofAnnouncement) 0 last ∧
      Announced device pair.state.1 (component :: components) flags calls last.state.1 ∧
      last.state.2 = pair.state.2 ++ calls := by
  induction components generalizing pair settled component with
  | nil =>
      obtain ⟨next, step, state, updating, -⟩ := announcing.leads_to_next clock
      obtain ⟨asked, log, announced⟩ := Announced.cons device component pair.state.1 pair.state.2
      have rest : Announced device next.state.1 [] [] [] next.state.1 := .nil _
      rw [state] at rest
      refine ⟨next, [_], _, step, updating rfl, state ▸ announced rest, ?_⟩
      rw [state, log, List.append_nil]
  | cons following components ih =>
      obtain ⟨next, step, state, -, announcing⟩ := announcing.leads_to_next clock
      obtain ⟨asked, log, announced⟩ := Announced.cons device component pair.state.1 pair.state.2
      obtain ⟨last, flags, calls, leads, updating, rest, logged⟩ :=
        ih (announcing (List.cons_ne_nil _ _))
      rw [state] at rest logged
      refine ⟨last, _ :: flags, _, step.trans leads, ?_, announced rest, ?_⟩
      · rwa [List.map_cons, List.append_cons]
      · rw [logged, log, List.append_assoc]

end Driven

end FirmwareUpdate
