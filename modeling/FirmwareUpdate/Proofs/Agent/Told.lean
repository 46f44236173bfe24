import FirmwareUpdate.Proofs.Agent.Log

/-!
# A session and its log

What a session keeps about its components is what the log of its agent tells: `Told` is the
invariant between two actions of a session that has not finished. A request that the session
needs next is then within the limits, and a response that is taken keeps the invariant, because
what it changes is what the log has it change.
-/

namespace FirmwareUpdate

open Wire AgentLog

variable {settings : AgentSettings} {plan : UpdatePlan} {retries : Nat} {log : List AgentEvent}

namespace Session

variable {session asking after : Session}

/-- The session carries out an order, and its bookkeeping is in order. -/
structure Ordered (settings : AgentSettings) (plan : UpdatePlan) (session : Session) : Prop where
  planned : session.plan = plan
  configured : session.settings = settings
  consistent : session.Consistent
  placed : session.Placed
  fits : FitsInstance session.nextIid

/-- An exchange keeps the order of the plan and the settings. -/
theorem Ordered.next (ordered : session.Ordered settings plan) {input : SessionInput}
    (exchange : input.isExchange = true) : (session.next input).Ordered settings plan := by
  have same : SameOrder session (session.next input) := by
    cases input with
    | issue command => exact issue_sameOrder session command
    | process message => exact process_sameOrder session message
    | handle message => exact handleRequest_sameOrder session message
    | reset | load => cases exchange
  exact ⟨same.1.trans ordered.planned, same.2.trans ordered.configured,
    ordered.consistent.next ordered.placed input, ordered.placed.next input,
    next_fits ordered.fits input⟩

/-- A session that has started has its order. -/
theorem ordered_of_start (started : start settings plan = .ok session) :
    session.Ordered settings plan := by
  obtain ⟨consistent, placed⟩ := consistent_of_start started
  obtain ⟨-, -, rfl⟩ := sound_of_start started
  exact ⟨rfl, rfl, consistent, placed, fitsInstance_zero⟩

/-- No accepted component that has its turn yet comes before the next one. -/
theorem nextComponent?_le {index other : Nat} (next : session.nextComponent? = some index)
    (later : session.nextUpdate ≤ other) (accepted : session.outcomes[other]? = some .accepted) :
    index ≤ other := by
  obtain ⟨-, -, first⟩ := List.find?_range'_eq_some.mp next
  refine Nat.le_of_not_lt fun earlier => ?_
  have skipped := first other later earlier
  simp [accepted] at skipped

/-- The images are to be activated when no accepted component is left and one was updated. -/
theorem nextAction_activateFirmware (next : session.nextAction = .issue .activateFirmware) :
    session.state = .readyXfer ∧ session.nextComponent? = none ∧ .updated ∈ session.outcomes := by
  unfold nextAction at next
  repeat' split at next
  all_goals try cases next
  rename_i ready none updated
  exact ⟨ready, by simpa using none, List.count_pos_iff.mp updated⟩

/-! ## What the session and its log tell -/

/-- While the session has not finished, what it keeps about its components is what the log
tells. -/
structure Told (settings : AgentSettings) (plan : UpdatePlan) (retries : Nat) (session : Session)
    (log : List AgentEvent) : Prop where
  unfinished : session.finished = false
  inactive : session.activated = false
  unasked : requests .activateFirmware log = []
  unanswered : replies .activateFirmware log = []
  within : retries ≤ settings.updateRetries
  asked : (requests .requestUpdate log).length ≤ retries + 1
  /-- While no update runs, each request to update but the first one was a repetition. -/
  idle : session.state = .idle → (requests .requestUpdate log).length ≤ retries
  counted : (requests .passComponentTable log).length = session.passed
  answered : (replies .passComponentTable log).length = session.passed
  announced : ∀ (index : Nat) request, (requests .passComponentTable log)[index]? = some request →
    ∃ entry, plan.table[index]? = some entry ∧ Carries request entry.layout
  early : session.nextUpdate ≤ session.passed
  known : ∀ index, session.outcomes[index]? = some .accepted → Accepted log index
  /-- Every accepted component is left for later, or it has had its turn. -/
  turns : ∃ tried, Tries plan log tried ∧ (∀ index ∈ tried, index < session.nextUpdate) ∧
    ∀ index, Accepted log index →
      session.nextUpdate ≤ index ∧ session.outcomes[index]? = some .accepted ∨ index ∈ tried
  applied : .updated ∈ session.outcomes → Applied log

namespace Told

/-- At the beginning there is nothing to tell. -/
theorem of_start (started : start settings plan = .ok session) :
    Told settings plan 0 session [] := by
  obtain ⟨-, -, rfl⟩ := sound_of_start started
  have unaccepted (index : Nat) : ¬ Accepted [] index := by
    rintro ⟨request, message, response, answer, asked, -⟩
    cases asked
  have fresh (outcome : ComponentOutcome) (known : outcome ≠ .notPassed) :
      outcome ∉ freshOutcomes plan := fun member => known (List.eq_of_mem_replicate member)
  exact {
    unfinished := rfl
    inactive := rfl
    unasked := rfl
    unanswered := rfl
    within := Nat.zero_le _
    asked := Nat.zero_le _
    idle := fun _ => Nat.zero_le _
    counted := rfl
    answered := rfl
    announced := nofun
    early := Nat.le_refl _
    known := fun index accepted =>
      absurd (List.mem_of_getElem? accepted) (fresh .accepted nofun)
    turns := ⟨[], ⟨.nil, nofun, rfl, nofun⟩, nofun, fun index accepted =>
      absurd accepted (unaccepted index)⟩
    applied := fun updated => absurd updated (fresh .updated nofun) }

/-- The log has grown by nothing about components or activation. -/
theorem relog (told : Told settings plan retries session log) {grown : List AgentEvent}
    {again : Nat} (within : again ≤ settings.updateRetries)
    (asked : (requests .requestUpdate grown).length ≤ again + 1)
    (idle : session.state = .idle → (requests .requestUpdate grown).length ≤ again)
    (quiet : ∀ command ∈ [.passComponentTable, .updateComponent, .activateFirmware],
      requests command grown = requests command log ∧ replies command grown = replies command log)
    (applied : Applied log → Applied grown) : Told settings plan again session grown := by
  obtain ⟨table, answers⟩ := quiet .passComponentTable (by simp)
  obtain ⟨component, -⟩ := quiet .updateComponent (by simp)
  obtain ⟨activation, activated⟩ := quiet .activateFirmware (by simp)
  have same (index : Nat) : Accepted grown index ↔ Accepted log index := by
    unfold Accepted
    rw [table, answers]
  obtain ⟨tried, tries, past, turns⟩ := told.turns
  exact { told with
    within, asked, idle
    unasked := activation.trans told.unasked
    unanswered := activated.trans told.unanswered
    counted := table ▸ told.counted
    answered := answers ▸ told.answered
    announced := table ▸ told.announced
    known := fun index accepted => (same index).mpr (told.known index accepted)
    turns := ⟨tried, tries.mono component fun index => (same index).mpr, past,
      fun index accepted => turns index ((same index).mp accepted)⟩
    applied := fun updated => applied (told.applied updated) }

/-- A component that ends has had its turn. -/
theorem endComponent (told : Told settings plan retries session log)
    (consistent : session.Consistent) {outcome : ComponentOutcome} (ended : outcome ≠ .accepted)
    (applied : outcome = .updated → Applied log) :
    Told settings plan retries (session.endComponent outcome) log := by
  cases current : session.current with
  | none =>
      have outcomes : (session.endComponent outcome).outcomes = session.outcomes := by
        unfold Session.endComponent
        rw [current]
      exact { told with
        idle := by rintro ⟨⟩
        known := outcomes ▸ told.known
        turns := outcomes ▸ told.turns
        applied := outcomes ▸ told.applied }
  | some place =>
      have outcomes : (session.endComponent outcome).outcomes =
          session.outcomes.set place outcome := by
        unfold Session.endComponent
        rw [current]
      have next := (consistent.current place current).2
      obtain ⟨tried, tries, past, turns⟩ := told.turns
      refine { told with
        idle := by rintro ⟨⟩
        known := fun index accepted => told.known index ?_
        turns := ⟨tried, tries, past, fun index accepted => ?_⟩
        applied := fun updated => ?_ }
      · rw [outcomes] at accepted
        by_cases same : place = index
        · subst same
          rw [List.getElem?_set_self'] at accepted
          cases found : session.outcomes[place]? with
          | none => simp [found] at accepted
          | some _ => exact absurd (by simpa [found] using accepted) ended
        · rwa [List.getElem?_set_ne same] at accepted
      · refine (turns index accepted).imp_left fun ⟨later, left⟩ => ⟨later, ?_⟩
        rw [outcomes, List.getElem?_set_ne (by omega)]
        exact left
      · rw [outcomes] at updated
        rcases List.mem_or_eq_of_mem_set updated with member | same
        · exact told.applied member
        · exact applied same.symm

/-! ## One request or answer -/

/-- Issuing a command is told by its request. -/
theorem issue (told : Told settings plan retries session log) {command : AgentCommand}
    {request : List UInt8} (made : (session.issue command).1 = .ok request) :
    Told settings plan retries (session.issue command).2 log := by
  obtain ⟨data, -, -, -, left⟩ := issue_eq_ok made
  rw [left]
  exact { told with }

/-- An answer to the device is nothing that a limit is about. -/
theorem log_served (told : Told settings plan retries session log) (message : Incoming)
    (answer : List UInt8) :
    Told settings plan retries session (log ++ [.served message answer]) := by
  have same (command : AgentCommand) :
      requests command (log ++ [.served message answer]) = requests command log := by
    rw [requests_append]
    exact List.append_nil _
  refine told.relog told.within ?_ ?_ (fun command _ => ⟨same command, ?_⟩)
    fun applied => applied.append _
  · rw [same]
    exact told.asked
  · rw [same]
    exact told.idle
  · rw [replies_append]
    exact List.append_nil _

/-- An answer to a request of the device is told as well. -/
theorem served (told : Told settings plan retries session log) (consistent : session.Consistent)
    {message : Incoming} {answer : List UInt8}
    (answered : (session.handleRequest message.data).1 = .ok answer) :
    Told settings plan retries (session.handleRequest message.data).2
      (log ++ [.served message answer]) := by
  cases parsed : Request.parse message.data with
  | error error =>
      rw [handleRequest, parsed] at answered
      cases answered
  | ok request =>
      rw [handleRequest_of_parse session parsed] at answered ⊢
      have told : Told settings plan retries session (log ++ [.served message answer]) :=
        told.log_served message answer
      have serves := serve_serves session request
      cases result : (session.serve request).1 with
      | error cc =>
          rw [result] at serves
          obtain ⟨package, left, -⟩ := serves.of_refused
          rw [left]
          exact { told with }
      | ok body =>
          rw [result] at answered serves
          cases answered
          have replied := Request.parse_respond parsed BaseCode.success body
          generalize (session.serve request).2 = left at serves
          cases serves with
          | part | data | failed => exact { told with }
          | transferred asked expected | verified asked expected =>
              exact { told with idle := by rintro ⟨⟩ }
          | applied asked expected read success =>
              have ended := told.endComponent consistent (by decide : ComponentOutcome.updated ≠ .accepted)
                fun _ => ⟨message, _, request, _, _, List.mem_append_right _ List.mem_cons_self,
                  parsed, asked, read, success, replied, rfl⟩
              exact { ended with }

/-- Whatever a device asks for while an agent waits, the log tells it. -/
theorem serving (told : Told settings plan retries session log)
    (ordered : session.Ordered settings plan) {events : List AgentEvent}
    (serving : session.Serving events after) :
    Told settings plan retries after (log ++ events) ∧ after.Ordered settings plan := by
  induction serving with
  | idle => exact ⟨(List.append_nil log).symm ▸ told, ordered⟩
  | @served events waiting message answer serving answered ih =>
      obtain ⟨told, ordered⟩ := ih
      rw [← List.append_assoc]
      exact ⟨told.served ordered.consistent answered,
        @Ordered.next settings plan waiting ordered (.handle message.data) rfl⟩

/-! ## Requests are within the limits -/

/-- What has been sent is within the limits. -/
theorem obeys (told : Told settings plan retries session log) : Obeys settings plan log := by
  obtain ⟨tried, tries, -⟩ := told.turns
  refine ⟨Nat.le_trans told.asked (Nat.succ_le_succ told.within), told.announced, ⟨tried, tries⟩,
    ?_, ?_⟩
  · rintro before request rfl
    have sent : request ∈ requests .activateFirmware (before ++ [.sent .activateFirmware request]) :=
      mem_requests (List.mem_append_right before List.mem_cons_self)
    rw [told.unasked] at sent
    cases sent
  · rw [told.unasked]
    exact Nat.zero_le _

/-- The component that is asked for has its turn. -/
theorem tries_next (told : Told settings plan retries session log)
    (ordered : session.Ordered settings plan) {request : List UInt8}
    (awaiting : Awaiting asking .updateComponent request session) {grown : List AgentEvent}
    (sent : requests .updateComponent grown = requests .updateComponent log ++ [request])
    (kept : ∀ index, Accepted log index → Accepted grown index) :
    ∃ tried index, session.nextComponent? = some index ∧ Tries plan grown (tried ++ [index]) ∧
      (∀ earlier ∈ tried, earlier < session.nextUpdate) ∧
      ∀ other, Accepted log other → session.nextUpdate ≤ other ∧
        session.outcomes[other]? = some .accepted ∨ other ∈ tried := by
  obtain ⟨index, component, next, listed, carries⟩ := awaiting.asksFor
  rw [ordered.planned] at listed
  rw [← awaiting.nextComponent?] at next
  obtain ⟨tried, tries, past, turns⟩ := told.turns
  obtain ⟨later, accepted⟩ := nextComponent?_eq_some next
  refine ⟨tried, index, next, ⟨?_, ?_, ?_, ?_⟩, past, turns⟩
  · refine List.pairwise_append.mpr ⟨tries.increasing, List.pairwise_singleton .., ?_⟩
    intro earlier member other same
    rw [List.mem_singleton.mp same]
    exact Nat.lt_of_lt_of_le (past earlier member) later
  · intro other member
    rcases List.mem_append.mp member with member | same
    · exact kept other (tries.accepted other member)
    · rw [List.mem_singleton.mp same]
      exact kept index (told.known index accepted)
  · rw [sent, List.length_append, List.length_append, tries.length]
    rfl
  · intro place asked other place_asked place_tried
    rw [sent] at place_asked
    rcases getElem?_concat_eq_some place_tried with old | ⟨last, rfl⟩
    · rcases getElem?_concat_eq_some place_asked with sent | ⟨beyond, -⟩
      · exact tries.carried place asked other sent old
      · have inside := (List.getElem?_eq_some_iff.mp old).1
        rw [beyond, tries.length] at inside
        exact absurd inside (Nat.lt_irrefl _)
    · rcases getElem?_concat_eq_some place_asked with sent | ⟨-, rfl⟩
      · have inside := (List.getElem?_eq_some_iff.mp sent).1
        rw [last, tries.length] at inside
        exact absurd inside (Nat.lt_irrefl _)
      · exact ⟨component, listed, carries⟩

/-- The entry that is announced is the next one of the table. -/
theorem announced_next (told : Told settings plan retries session log)
    (ordered : session.Ordered settings plan) {request : List UInt8}
    (awaiting : Awaiting asking .passComponentTable request session) {grown : List AgentEvent}
    (sent : requests .passComponentTable grown = requests .passComponentTable log ++ [request])
    (index : Nat) (asked : List UInt8)
    (place : (requests .passComponentTable grown)[index]? = some asked) :
    ∃ entry, plan.table[index]? = some entry ∧ Carries asked entry.layout := by
  rw [sent] at place
  rcases getElem?_concat_eq_some place with old | ⟨last, rfl⟩
  · exact told.announced index asked old
  · obtain ⟨component, listed, carries⟩ := awaiting.announces
    rw [ordered.planned, ← awaiting.passed, ← told.counted, ← last] at listed carries
    exact ⟨_, UpdatePlan.table_getElem? listed, carries⟩

/-- What the session needs next may be sent. -/
theorem obeys_sent (told : Told settings plan retries session log)
    (ordered : session.Ordered settings plan) {command : AgentCommand} {request : List UInt8}
    (next : session.nextAction = .issue command)
    (made : (session.issue command).1 = .ok request) :
    Obeys settings plan (log ++ [.sent command request]) := by
  have sent (other : AgentCommand) : requests other (log ++ [.sent command request]) =
      requests other log ++ if command = other then [request] else [] := by
    rw [requests_append, requests_sent]
  have apart {other : AgentCommand} (distinct : command ≠ other) :
      requests other (log ++ [.sent command request]) = requests other log := by
    rw [sent, if_neg distinct, List.append_nil]
  have obeys := told.obeys
  have awaiting := Awaiting.of_issue ordered.fits made
  have issued := @Ordered.next settings plan session ordered (.issue command) rfl
  refine ⟨?_, ?_, ?_, ?_, ?_⟩
  · by_cases update : command = .requestUpdate
    · subst update
      obtain ⟨_, allowed, -⟩ := issue_eq_ok made
      have idle : session.state = .idle := by simpa [allows] using allowed
      rw [sent, if_pos rfl, List.length_append]
      exact Nat.succ_le_succ (Nat.le_trans (told.idle idle) told.within)
    · rw [apart update]
      exact obeys.retries
  · by_cases table : command = .passComponentTable
    · subst table
      exact (told.issue made).announced_next issued awaiting (by rw [sent, if_pos rfl])
    · rw [apart table]
      exact obeys.announced
  · by_cases component : command = .updateComponent
    · subst component
      obtain ⟨tried, index, -, tries, -⟩ := (told.issue made).tries_next issued awaiting
        (by rw [sent, if_pos rfl]) fun _ accepted => accepted.append _
      exact ⟨_, tries⟩
    · obtain ⟨tried, tries⟩ := obeys.updated
      refine ⟨tried, tries.append ?_⟩
      rw [requests_sent, if_neg component]
  · -- No component is left to update, so each accepted one has had its turn.
    intro before activation same
    obtain ⟨rfl, last⟩ := List.append_inj' same rfl
    cases last
    obtain ⟨ready, none, updated⟩ := nextAction_activateFirmware next
    obtain ⟨tried, tries, -, turns⟩ := told.turns
    refine ⟨told.applied updated, ?_, tried, tries, fun index accepted => ?_⟩
    · rw [told.counted, ordered.consistent.complete (.inl ready), ordered.planned]
    · rcases turns index accepted with ⟨later, left⟩ | had
      · exact absurd (nextComponent?_eq_none none left) (Nat.not_lt.mpr later)
      · exact had
  · by_cases activation : command = .activateFirmware
    · subst activation
      rw [sent, told.unasked, if_pos rfl]
      exact Nat.le_refl _
    · rw [apart activation]
      exact obeys.once

/-! ## Responses -/

section

variable {request message : List UInt8} {grown : List AgentEvent} {command : AgentCommand}

/-- A response says nothing about a component unless it was asked about one. -/
theorem exchanged (told : Told settings plan retries session log)
    (exchanged : Exchanged log grown command request message)
    (aside : command ∉ [.passComponentTable, .updateComponent, .activateFirmware])
    {again : Nat} (within : again ≤ settings.updateRetries)
    (asked : (requests .requestUpdate grown).length ≤ again + 1)
    (idle : session.state = .idle → (requests .requestUpdate grown).length ≤ again) :
    Told settings plan again session grown :=
  told.relog within asked idle
    (fun _ member => exchanged.apart fun same => aside (same ▸ member)) exchanged.applied

/-- A response is about neither the update nor a component. -/
theorem unrelated (told : Told settings plan retries session log)
    (exchanged : Exchanged log grown command request message)
    (aside : command ∉ [.requestUpdate, .passComponentTable, .updateComponent, .activateFirmware]) :
    Told settings plan retries session grown := by
  obtain ⟨update, aside⟩ := not_or.mp (mt List.mem_cons.mpr aside)
  have same := (exchanged.apart update).1
  exact told.exchanged exchanged aside told.within (same ▸ told.asked) (same ▸ told.idle)

/-- Nothing has been said about activation. -/
theorem unactivated (told : Told settings plan retries session log)
    (exchanged : Exchanged log grown command request message)
    (distinct : command ≠ .activateFirmware) :
    requests .activateFirmware grown = [] ∧ replies .activateFirmware grown = [] := by
  obtain ⟨asked, answered⟩ := exchanged.apart distinct
  exact ⟨asked.trans told.unasked, answered.trans told.unanswered⟩

/-- One more request to update has been made, while no update ran. -/
theorem asked_succ (told : Told settings plan retries session log)
    (exchanged : Exchanged log grown .requestUpdate request message)
    (idle : session.state = .idle) : (requests .requestUpdate grown).length ≤ retries + 1 := by
  rw [exchanged.asked_self, List.length_append]
  exact Nat.succ_le_succ (told.idle idle)

/-- The answer to an announcement is what the log tells about the component. -/
theorem recordPassed (told : Told settings plan retries session log)
    (ordered : session.Ordered settings plan)
    (awaiting : Awaiting asking .passComponentTable request session)
    (exchanged : Exchanged log grown .passComponentTable request message)
    {response : Response} {answer : TableResponse} (replied : Replies request message response)
    (success : response.cc.isSuccess = true)
    (read : decode "PassComponentTable" TableResponse.reader response.data = .ok answer) :
    Told settings plan retries (session.recordPassed answer) grown := by
  obtain ⟨learning, within⟩ := ordered.consistent.awaited _ awaiting.pending rfl
  have place : session.passed < session.outcomes.length := by
    rw [ordered.consistent.outcomes]
    exact within
  have accepted (index : Nat) : Accepted grown index ↔
      Accepted log index ∨ index = session.passed ∧ answer.response = 0 := by
    rw [← told.counted]
    exact exchanged.accepted_last (told.counted.trans told.answered.symm) replied success read index
  have outcomes : (session.recordPassed answer).outcomes = session.outcomes.set session.passed
      (if answer.response = 0 then .accepted else .skipped) := rfl
  have update := (exchanged.apart (by decide : _ ≠ AgentCommand.requestUpdate)).1
  have component := (exchanged.apart (by decide : _ ≠ AgentCommand.updateComponent)).1
  obtain ⟨unasked, unanswered⟩ := told.unactivated exchanged (by decide)
  obtain ⟨tried, tries, past, turns⟩ := told.turns
  exact { told with
    unasked, unanswered
    asked := update ▸ told.asked
    idle := by
      intro idle
      unfold Session.recordPassed at idle
      dsimp only at idle
      split at idle
      · cases idle
      · cases learning.symm.trans idle
    counted := by
      rw [exchanged.asked_self, List.length_append, told.counted]
      rfl
    answered := by
      rw [exchanged.answered_self, List.length_append, told.answered]
      rfl
    announced := told.announced_next ordered awaiting exchanged.asked_self
    early := Nat.le_succ_of_le told.early
    known := by
      intro index known
      rw [accepted]
      rw [outcomes] at known
      by_cases same : session.passed = index
      · rw [← same, List.getElem?_set_self place] at known
        -- Only an accepting answer leaves a component marked accepted.
        refine .inr ⟨same.symm, Decidable.byContradiction fun refused => ?_⟩
        rw [if_neg refused] at known
        cases known
      · rw [List.getElem?_set_ne same] at known
        exact .inl (told.known index known)
    turns := by
      refine ⟨tried, tries.mono component fun index before => (accepted index).mpr (.inl before),
        past, fun index taken => ?_⟩
      rw [outcomes]
      rcases (accepted index).mp taken with before | ⟨rfl, accepts⟩
      · -- An answer from before is about an earlier entry, which this one does not touch.
        have earlier : index < session.passed := told.counted ▸ before.lt
        rw [List.getElem?_set_ne (by omega)]
        exact turns index before
      · rw [List.getElem?_set_self place, if_pos accepts]
        exact .inl ⟨told.early, rfl⟩
    applied := by
      intro updated
      rw [outcomes] at updated
      refine exchanged.applied (told.applied ?_)
      refine (List.mem_or_eq_of_mem_set updated).resolve_right fun same => ?_
      split at same <;> cases same }

/-- The component that the device was asked to update has its turn. -/
theorem turned (told : Told settings plan retries session log)
    (ordered : session.Ordered settings plan)
    (awaiting : Awaiting asking .updateComponent request session)
    (exchanged : Exchanged log grown .updateComponent request message) {index : Nat}
    (next : session.nextComponent? = some index) {outcomes : List ComponentOutcome}
    (others : ∀ other : Nat, other ≠ index → outcomes[other]? = session.outcomes[other]?)
    (known : ∀ other : Nat, outcomes[other]? = some .accepted →
      session.outcomes[other]? = some .accepted)
    (updated : .updated ∈ outcomes → .updated ∈ session.outcomes) :
    Told settings plan retries { session with nextUpdate := index + 1, outcomes } grown := by
  have accepted := exchanged.accepted_iff (by decide)
  have update := (exchanged.apart (by decide : _ ≠ AgentCommand.requestUpdate)).1
  obtain ⟨table, answers⟩ := exchanged.apart (by decide : _ ≠ AgentCommand.passComponentTable)
  obtain ⟨unasked, unanswered⟩ := told.unactivated exchanged (by decide)
  obtain ⟨tried, place, found, tries, past, turns⟩ :=
    told.tries_next ordered awaiting exchanged.asked_self fun index => (accepted index).mpr
  cases found.symm.trans next
  obtain ⟨later, left⟩ := nextComponent?_eq_some next
  exact { told with
    unasked, unanswered
    asked := update ▸ told.asked
    idle := update ▸ told.idle
    counted := table ▸ told.counted
    answered := answers ▸ told.answered
    announced := table ▸ told.announced
    early := by
      have announced := (told.known index left).lt
      rw [told.counted] at announced
      exact announced
    known := fun other acceptable =>
      (accepted other).mpr (told.known other (known other acceptable))
    turns := by
      refine ⟨tried ++ [index], tries, fun other member => ?_, fun other taken => ?_⟩
      · rcases List.mem_append.mp member with before | last
        · exact Nat.lt_succ_of_lt (Nat.lt_of_lt_of_le (past other before) later)
        · exact Nat.lt_succ_of_le (Nat.le_of_eq (List.mem_singleton.mp last))
      · rcases turns other ((accepted other).mp taken) with ⟨ahead, acceptable⟩ | had
        · by_cases same : other = index
          · exact .inr (List.mem_append_right _ (List.mem_singleton.mpr same))
          · have least := nextComponent?_le next ahead acceptable
            refine .inl ⟨?_, (others other same).trans acceptable⟩
            exact Nat.lt_of_le_of_ne least (Ne.symm same)
        · exact .inr (List.mem_append_left _ had)
    applied := fun member => exchanged.applied (told.applied (updated member)) }

end

end Told

end Session

end FirmwareUpdate
