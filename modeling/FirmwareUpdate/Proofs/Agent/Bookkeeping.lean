import FirmwareUpdate.Proofs.Agent.Lifecycle

/-!
# The bookkeeping of a session

A session counts the components that it has announced, keeps one outcome for each, and knows
which one is being updated and where to look for the next. `Consistent` says how these belong
together and to the state. Responses are taken in other states than their requests were made
in, so what awaits a response is part of it.
-/

namespace FirmwareUpdate

open Wire

/-- A component is being updated in three of the states. -/
theorem AgentState.isUpdating_iff {state : AgentState} :
    state.isUpdating = true ↔ state = .download ∨ state = .verify ∨ state = .apply := by
  cases state <;> decide

namespace Session

variable {session after : Session}

/-! ## The next component -/

/-- The next component is the first accepted one that has not had its turn. -/
theorem nextComponent?_eq_some {index : Nat} (next : session.nextComponent? = some index) :
    session.nextUpdate ≤ index ∧ session.outcomes[index]? = some .accepted := by
  unfold nextComponent? at next
  have accepted := List.find?_some next
  have within := List.mem_range'_1.mp (List.mem_of_find?_eq_some next)
  exact ⟨within.1, by simpa using accepted⟩

/-- Without a next component, every accepted one has had its turn. -/
theorem nextComponent?_eq_none (none : session.nextComponent? = none) {index : Nat}
    (accepted : session.outcomes[index]? = some .accepted) : index < session.nextUpdate := by
  unfold nextComponent? at none
  rw [List.find?_eq_none] at none
  have within := (List.getElem?_eq_some_iff.mp accepted).1
  refine Nat.lt_of_not_le fun later => ?_
  exact none index (List.mem_range'_1.mpr (by omega)) (by simpa using accepted)

/-! ## The invariant -/

/-- What a session keeps about the components of its plan belongs together. -/
structure Consistent (session : Session) : Prop where
  /-- There is one outcome for each component. -/
  outcomes : session.outcomes.length = session.plan.components.length
  passed : session.passed ≤ session.plan.components.length
  nextUpdate : session.nextUpdate ≤ session.plan.components.length
  /-- There is a current component exactly while one is being updated. -/
  updating : session.current.isSome = session.state.isUpdating
  /-- The current component has been accepted and has its turn. -/
  current : ∀ index, session.current = some index →
    session.outcomes[index]? = some .accepted ∧ session.nextUpdate = index + 1
  failed : session.componentFailed = true → session.state.isUpdating = true
  /-- Only components that have been announced have another outcome than that. -/
  announced : ∀ index < session.passed, session.outcomes[index]? ≠ some .notPassed
  /-- Components are updated only after all of them have been announced. -/
  complete : session.state = .readyXfer ∨ session.state.isUpdating = true →
    session.passed = session.plan.components.length
  /-- While the announcement of a component awaits its answer there is such a component. -/
  awaited : ∀ pending, session.pending = some pending → pending.command = .passComponentTable →
    session.state = .learnComponents ∧ session.passed < session.plan.components.length

namespace Consistent

/-- A session that begins, or begins again. -/
theorem fresh (state : session.state = .idle ∨ session.state = .aborted)
    (pending : session.pending = none) (passed : session.passed = 0)
    (nextUpdate : session.nextUpdate = 0) (current : session.current = none)
    (whole : session.componentFailed = false)
    (outcomes : session.outcomes = freshOutcomes session.plan) : session.Consistent where
  outcomes := by rw [outcomes, freshOutcomes, List.length_replicate]
  passed := by omega
  nextUpdate := by omega
  updating := by rcases state with state | state <;> rw [current, state] <;> rfl
  current := by rw [current]; exact nofun
  failed := by rw [whole]; exact nofun
  announced := by rw [passed]; exact nofun
  complete := by rcases state with state | state <;> rw [state] <;> rintro (⟨⟨⟩⟩ | ⟨⟨⟩⟩)
  awaited := by rw [pending]; exact nofun

/-- The current component has a place in the plan. -/
theorem current_lt (consistent : session.Consistent) {index : Nat}
    (current : session.current = some index) : index < session.plan.components.length := by
  have accepted := (consistent.current index current).1
  exact consistent.outcomes ▸ (List.getElem?_eq_some_iff.mp accepted).1

/-- No component is being updated where the state says so. -/
theorem current_eq_none (consistent : session.Consistent)
    (resting : session.state.isUpdating = false) : session.current = none := by
  have none := consistent.updating
  rwa [resting, Option.isSome_eq_false_iff, Option.isNone_iff_eq_none] at none

/-- No failure is reported where no component is being updated. -/
theorem whole (consistent : session.Consistent) (resting : session.state.isUpdating = false) :
    session.componentFailed = false := by
  rw [← Bool.not_eq_true]
  intro failed
  exact Bool.false_ne_true (resting.symm.trans (consistent.failed failed))

/-- Where components are updated, none is left to announce. -/
theorem notPassed_notMem (consistent : session.Consistent)
    (learned : session.state = .readyXfer ∨ session.state.isUpdating = true) :
    .notPassed ∉ session.outcomes := by
  intro member
  obtain ⟨index, within, found⟩ := List.mem_iff_getElem.mp member
  have early : index < session.passed := by
    rw [consistent.complete learned, ← consistent.outcomes]
    exact within
  exact consistent.announced index early (List.getElem?_eq_some_iff.mpr ⟨within, found⟩)

/-! ## One message -/

/-- The code of a response is no part of it. -/
theorem coded (consistent : session.Consistent) (cc : CompletionCode) :
    (session.coded cc).Consistent :=
  { consistent with awaited := nofun }

/-- A response may lead from a state in which no component is being updated to another one. -/
theorem left (consistent : session.Consistent) (cc : CompletionCode)
    (resting : session.state.isUpdating = false) (state : AgentState)
    (idle : state.isUpdating = false) (unready : state ≠ .readyXfer) :
    ({ session.coded cc with state } : Session).Consistent :=
  { consistent with
    updating := by
      rw [idle, show ({ session.coded cc with state } : Session).current = none from
        consistent.current_eq_none resting]
      rfl
    failed := by
      intro failed
      cases (consistent.whole resting).symm.trans failed
    complete := by
      rintro (ready | updating)
      · exact absurd ready unready
      · cases idle.symm.trans updating
    awaited := nofun }

/-- A component gets an outcome after it has been announced. -/
private theorem announced_set (consistent : session.Consistent) (place : Nat)
    {outcome : ComponentOutcome} (known : outcome ≠ .notPassed) (index : Nat)
    (early : index < session.passed) :
    (session.outcomes.set place outcome)[index]? ≠ some .notPassed := by
  rw [List.getElem?_set]
  split
  · split
    · exact fun same => known (Option.some.inj same)
    · exact nofun
  · exact consistent.announced index early

/-- The next component is announced and gets its outcome. -/
theorem recordPassed (consistent : session.Consistent)
    (learning : session.state = .learnComponents)
    (within : session.passed < session.plan.components.length)
    (settled : session.pending = none) (response : TableResponse) :
    (session.recordPassed response).Consistent := by
  have none := consistent.current_eq_none (by rw [learning]; rfl)
  have whole := consistent.whole (by rw [learning]; rfl)
  have resting : (session.recordPassed response).state.isUpdating = false := by
    unfold Session.recordPassed
    dsimp only
    split
    · rfl
    · rw [learning]; rfl
  exact {
    outcomes := (List.length_set ..).trans consistent.outcomes
    passed := within
    nextUpdate := consistent.nextUpdate
    updating := by
      rw [resting, show (session.recordPassed response).current = Option.none from none]
      rfl
    current := by
      intro index current
      cases none.symm.trans current
    failed := by
      intro failed
      cases whole.symm.trans failed
    announced := by
      intro index early
      have early : index < session.passed + 1 := early
      show (session.outcomes.set session.passed _)[index]? ≠ _
      rw [List.getElem?_set]
      split
      · split
        · split <;> exact nofun
        · exact nofun
      · exact consistent.announced index (by omega)
    complete := by
      rintro (ready | updating)
      · unfold Session.recordPassed at ready
        dsimp only at ready
        split at ready
        · assumption
        · cases learning.symm.trans ready
      · cases resting.symm.trans updating
    awaited := by
      intro pending awaits
      cases settled.symm.trans awaits }

/-- The next component is taken up. -/
theorem componentBegun (consistent : session.Consistent) (ready : session.state = .readyXfer)
    (settled : session.pending = none) {index : Nat}
    (next : session.nextComponent? = some index) :
    ({ session with
        nextUpdate := index + 1, current := some index, componentFailed := false,
        state := .download } : Session).Consistent := by
  have accepted := (nextComponent?_eq_some next).2
  exact { consistent with
    nextUpdate := consistent.outcomes ▸ (List.getElem?_eq_some_iff.mp accepted).1
    updating := rfl
    current := by
      rintro _ ⟨⟩
      exact ⟨accepted, rfl⟩
    failed := nofun
    complete := fun _ => consistent.complete (.inl ready)
    awaited := by
      intro pending awaits
      cases settled.symm.trans awaits }

/-- The next component is left out. -/
theorem componentLeftOut (consistent : session.Consistent) (ready : session.state = .readyXfer)
    {index : Nat} (next : session.nextComponent? = some index) :
    ({ session with
        nextUpdate := index + 1
        outcomes := session.outcomes.set index .skipped } : Session).Consistent := by
  have none := consistent.current_eq_none (by rw [ready]; rfl)
  have accepted := (nextComponent?_eq_some next).2
  exact { consistent with
    outcomes := (List.length_set ..).trans consistent.outcomes
    nextUpdate := consistent.outcomes ▸ (List.getElem?_eq_some_iff.mp accepted).1
    current := by
      intro other current
      cases none.symm.trans current
    announced := announced_set consistent index
        (by decide : ComponentOutcome.skipped ≠ .notPassed) }

/-- The update of a component ends, in a state in which all have been announced. -/
theorem endComponent (consistent : session.Consistent)
    (learned : session.state = .readyXfer ∨ session.state.isUpdating = true)
    {outcome : ComponentOutcome} (known : outcome ≠ .notPassed) :
    ({ session.endComponent outcome with componentFailed := false } : Session).Consistent where
  outcomes := by
    unfold Session.endComponent
    dsimp only
    split
    · rw [List.length_set, consistent.outcomes]
    · exact consistent.outcomes
  passed := consistent.passed
  nextUpdate := consistent.nextUpdate
  updating := rfl
  current := nofun
  failed := nofun
  announced := by
    intro index early
    unfold Session.endComponent
    dsimp only
    split
    · exact announced_set consistent _ known index early
    · exact consistent.announced index early
  complete := fun _ => consistent.complete learned
  awaited := by
    intro pending awaits announces
    obtain ⟨learning, -⟩ := consistent.awaited pending awaits announces
    rw [learning] at learned
    rcases learned with ⟨⟨⟩⟩ | ⟨⟨⟩⟩

end Consistent

/-- What a response does keeps the bookkeeping consistent. -/
theorem Applies.consistent {command : AgentCommand} {message : List UInt8} {response : Response}
    (applies : (session.coded response.cc).Applies response.data command after)
    (consistent : session.Consistent) (placed : session.Placed)
    (answers : session.Answers command message response) : after.Consistent := by
  have allowed := answers.allowed placed
  have coded : (session.coded response.cc).Consistent := consistent.coded response.cc
  cases applies with
  | ignored | identifiers | parameters | status | metadata | badMetadata => exact { coded with }
  | begun =>
      have idle : session.state = .idle := by simpa [allows] using allowed
      exact { consistent.left response.cc (by rw [idle]; rfl) .learnComponents rfl (by decide) with }
  | tooMuchMetadata =>
      have idle : session.state = .idle := by simpa [allows] using allowed
      exact { consistent.left response.cc (by rw [idle]; rfl) .aborted rfl (by decide) with }
  | announced body =>
      obtain ⟨-, pending, awaits, announces, -⟩ := answers
      obtain ⟨learning, within⟩ := consistent.awaited pending awaits announces
      exact coded.recordPassed learning within rfl body
  | componentBegun read next accepted =>
      have ready : session.state = .readyXfer := by simpa [allows] using allowed
      exact coded.componentBegun ready rfl next
  | componentLeftOut next =>
      have ready : session.state = .readyXfer := by simpa [allows] using allowed
      exact coded.componentLeftOut ready next
  | activated =>
      have ready : session.state = .readyXfer := by simpa [allows] using allowed
      exact { consistent.left response.cc (by rw [ready]; rfl) .idle rfl (by decide) with }
  | componentCancelled =>
      refine coded.endComponent ?_ (by decide)
      rcases allowed with updating | ⟨-, ready⟩
      · exact .inr updating
      · exact .inl ready
  | cancelled => exact .fresh (.inl rfl) rfl rfl rfl rfl rfl rfl

/-- What a request of the device does keeps the bookkeeping consistent. -/
theorem Serves.consistent {request : Request} {served : Except CompletionCode (List UInt8)}
    (serves : session.Serves request served after) (consistent : session.Consistent)
    (whole : session.componentFailed = false) : after.Consistent := by
  cases serves with
  | refused | noPart | part | data => exact { consistent with }
  | failed updating => exact { consistent with failed := fun _ => updating }
  | transferred asked expected | verified asked expected =>
      have updating : session.state.isUpdating = true := by rw [expected]; rfl
      exact { consistent with
        updating := consistent.updating.trans updating
        failed := fun _ => rfl
        complete := fun _ => consistent.complete (.inr updating)
        awaited := by
          intro pending awaits announces
          cases expected.symm.trans (consistent.awaited pending awaits announces).1 }
  | applied asked expected =>
      have updating : session.state.isUpdating = true := by rw [expected]; rfl
      have ended := consistent.endComponent (.inr updating)
        (by decide : ComponentOutcome.updated ≠ .notPassed)
      exact { ended with
        failed := by
          intro failed
          cases whole.symm.trans failed }

/-- A session to which the device has reported a failure takes no request until the component
is given up. -/
theorem serve_of_failed (failed : session.componentFailed = true)
    (updating : session.state.isUpdating = true) (request : Request) :
    (session.serve request).2 = session := by
  have unexpected (command : Command) : session.expects? command ≠ some true := by
    rcases AgentState.isUpdating_iff.mp updating with state | state | state <;>
      cases command <;> simp [expects?, failed, state]
  unfold serve
  split
  · rfl
  · split
    · rfl
    · split
      · rfl
      · rfl
      · exact absurd ‹_› (unexpected _)

/-! ## Runs -/

namespace Consistent

/-- Issuing a command keeps the books consistent. -/
theorem issue (consistent : session.Consistent) (command : AgentCommand) :
    (session.issue command).2.Consistent := by
  unfold Session.issue
  split
  · rename_i allowed
    split
    · exact consistent
    · rename_i body written
      refine { consistent with awaited := ?_ }
      rintro _ ⟨⟩ rfl
      refine ⟨by simpa [allows] using allowed, ?_⟩
      unfold requestBody at written
      dsimp only at written
      split at written
      · cases written
      · rename_i listed
        exact (List.getElem?_eq_some_iff.mp listed).1
  · exact { consistent with }

/-- Processing a reply keeps the books consistent. -/
theorem process (consistent : session.Consistent) (placed : session.Placed)
    (message : List UInt8) : (session.process message).2.Consistent := by
  have takes := session.process_takes message
  generalize (session.process message).2 = after at takes
  cases takes with
  | refused => exact consistent
  | applied answers _ applies => exact { applies.consistent consistent placed answers with }
  | unable answers =>
      have idle : session.state = .idle := by simpa [allows] using answers.allowed placed
      exact consistent.left _ (by rw [idle]; rfl) .aborted rfl (by decide)
  | failed => exact consistent.coded _

/-- Handling a request keeps the books consistent. -/
theorem handle (consistent : session.Consistent) (message : List UInt8) :
    (session.handleRequest message).2.Consistent := by
  cases parsed : Request.parse message with
  | error error =>
      rw [handleRequest, parsed]
      exact consistent
  | ok request =>
      rw [handleRequest_of_parse session parsed]
      have served : (session.serve request).2.Consistent := by
        by_cases failed : session.componentFailed = true
        · rw [serve_of_failed failed (consistent.failed failed)]
          exact consistent
        · exact (serve_serves session request).consistent consistent
            (Bool.eq_false_iff.mpr failed)
      exact { served with }

/-- Whatever the input is, the books stay consistent. -/
theorem next (consistent : session.Consistent) (placed : session.Placed) (input : SessionInput) :
    (session.next input).Consistent := by
  cases input with
  | issue command => exact consistent.issue command
  | process message => exact consistent.process placed message
  | handle message => exact consistent.handle message
  | reset => exact .fresh (.inl rfl) rfl rfl rfl rfl rfl rfl
  | load plan =>
      rcases next_load session plan with refused | ⟨-, loaded⟩
      · rw [refused]
        exact consistent
      · rw [loaded]
        exact .fresh (.inl rfl) rfl rfl rfl rfl rfl rfl

/-- The bookkeeping stays consistent, whatever happens to a session. -/
theorem run (consistent : session.Consistent) (placed : session.Placed)
    (inputs : List SessionInput) : (session.run inputs).Consistent := by
  induction inputs generalizing session with
  | nil => exact consistent
  | cons input rest ih => exact ih (consistent.next placed input) (placed.next input)

end Consistent

/-- A session begins with consistent bookkeeping, and nothing awaits a response. -/
theorem consistent_of_start {settings : AgentSettings} {plan : UpdatePlan}
    (started : start settings plan = .ok session) : session.Consistent ∧ session.Placed := by
  obtain ⟨-, -, rfl⟩ := sound_of_start started
  exact ⟨.fresh (.inl rfl) rfl rfl rfl rfl rfl rfl, .of_settled nofun rfl⟩

end Session

end FirmwareUpdate
