import FirmwareUpdate.Proofs.Agent.Bookkeeping
import FirmwareUpdate.Proofs.Update.Command

/-!
# Updates one after the other

A session that is idle may ask the device for an update, whether or not it has driven one before.
Cancelling an update, a reset and a new plan clear what was recorded of it. Activation does not:
its bookkeeping stays, and an update that begins on top of it has nothing left to announce.
`Rested` says what an idle session may still have recorded.
-/

namespace FirmwareUpdate

open Wire

namespace Session

variable {session after : Session}

/-- Nothing of an update is recorded. -/
structure Fresh (session : Session) : Prop where
  passed : session.passed = 0
  outcomes : session.outcomes = freshOutcomes session.plan

namespace Fresh

/-- In a fresh session no component has been announced. -/
theorem notPassed (fresh : session.Fresh) {outcome : ComponentOutcome}
    (member : outcome ∈ session.outcomes) : outcome = .notPassed :=
  List.eq_of_mem_replicate (fresh.outcomes ▸ member)

/-- In a fresh session no component has been updated. -/
theorem updatedComponents (fresh : session.Fresh) : session.updatedComponents = 0 :=
  List.count_eq_zero.mpr fun member => nomatch fresh.notPassed member

end Fresh

/-- The session can announce the first component of its plan. -/
def AnnouncesFirst (session : Session) : Prop :=
  ∃ component body, session.plan.components[0]? = some component ∧
    (session.issue .passComponentTable).1 =
      .ok (Request.toBytes
        { iid := session.nextIid
          typ := firmwareUpdateType
          cmd := AgentCommand.passComponentTable.code
          data := body }) ∧
    decode "PassComponentTable" Responder.tableEntryReader body =
      .ok (Coded.code (TransferFlag.forIndex 0 session.plan.components.length),
        component.record.inTable)

/-- A fresh session that learns of its components announces the first of them next. -/
theorem Fresh.announcesFirst (fresh : session.Fresh) (sound : session.plan.Sound)
    (learning : session.state = .learnComponents) : session.AnnouncesFirst := by
  obtain ⟨component, first⟩ : ∃ component, session.plan.components[0]? = some component :=
    ⟨_, List.getElem?_eq_getElem (List.length_pos_iff.mpr sound.sizes.1)⟩
  have next : session.plan.components[session.passed]? = some component := by
    rw [fresh.passed, first]
  obtain ⟨body, written, read⟩ := body_passComponentTable sound next
  rw [fresh.passed] at read
  refine ⟨component, body, first, ?_, read⟩
  unfold issue
  rw [if_pos (by rw [learning]; rfl), written]

/-- Where everything has been announced, nothing can be. -/
theorem issue_of_complete (learning : session.state = .learnComponents)
    (complete : session.passed = session.plan.components.length) :
    (session.issue .passComponentTable).1 = .error (.invalidState .learnComponents) := by
  unfold issue requestBody
  rw [if_pos (by rw [learning]; rfl), complete]
  dsimp only
  rw [List.getElem?_eq_none (Nat.le_refl _), learning]

/-! ## What an idle session has recorded -/

/-- What an idle session has recorded is nothing, or an update that has been activated; and after
an activation the session is done. -/
structure Rested (session : Session) : Prop where
  idle : session.state = .idle →
    session.Fresh ∨ session.activated = true ∧ session.passed = session.plan.components.length
  done : session.activated = true → session.finished = true

namespace Rested

/-- A session that is not idle only has to know that it is done. -/
theorem of_busy (busy : session.state ≠ .idle)
    (done : session.activated = true → session.finished = true) : session.Rested :=
  ⟨fun idle => absurd idle busy, done⟩

/-- What a response does leaves an idle session rested. -/
theorem applies {command : AgentCommand} {message : List UInt8} {response : Response}
    (applies : (session.coded response.cc).Applies response.data command after)
    (rested : session.Rested) (consistent : session.Consistent) (placed : session.Placed)
    (answers : session.Answers command message response) : after.Rested := by
  have allowed := answers.allowed placed
  obtain ⟨idle, done⟩ := rested
  cases applies with
  | ignored | identifiers | parameters | status | metadata | badMetadata =>
      exact ⟨fun resting => (idle resting).imp_left fun fresh => { fresh with }, done⟩
  | begun | tooMuchMetadata | componentBegun | componentCancelled => exact of_busy nofun done
  | announced body =>
      have learning : session.state = .learnComponents := by simpa [allows] using allowed
      have busy : session.state ≠ .idle := by rw [learning]; decide
      refine of_busy ?_ done
      unfold recordPassed
      dsimp only
      split
      · decide
      · exact busy
  | componentLeftOut next =>
      have ready : session.state = .readyXfer := by simpa [allows] using allowed
      have busy : session.state ≠ .idle := by rw [ready]; decide
      exact of_busy busy done
  | activated =>
      have ready : session.state = .readyXfer := by simpa [allows] using allowed
      exact ⟨fun _ => .inr ⟨rfl, consistent.complete (.inl ready)⟩, fun _ => rfl⟩
  | cancelled => exact ⟨fun _ => .inl ⟨rfl, rfl⟩, fun _ => rfl⟩

/-- What a request of the device does leaves an idle session rested. -/
theorem serves {request : Request} {served : Except CompletionCode (List UInt8)}
    (serves : session.Serves request served after) (rested : session.Rested) : after.Rested := by
  cases serves with
  | refused | noPart | part | data | failed =>
      exact ⟨fun idle => (rested.idle idle).imp_left fun fresh => { fresh with }, rested.done⟩
  | transferred | verified | applied => exact of_busy nofun rested.done

/-- A session that has begun again has nothing recorded. -/
theorem reset (session : Session) : session.reset.Rested :=
  ⟨fun _ => .inl ⟨rfl, rfl⟩, nofun⟩

/-- Issuing a command keeps a session rested. -/
theorem issue (rested : session.Rested) (command : AgentCommand) :
    (session.issue command).2.Rested := by
  unfold Session.issue
  repeat' split
  all_goals
    exact ⟨fun idle => (rested.idle idle).imp_left fun fresh => { fresh with }, rested.done⟩

/-- Processing a reply keeps a session rested. -/
theorem process (rested : session.Rested) (consistent : session.Consistent)
    (placed : session.Placed) (message : List UInt8) : (session.process message).2.Rested := by
  have takes := session.process_takes message
  generalize (session.process message).2 = after at takes
  cases takes with
  | refused => exact rested
  | applied answers _ applied =>
      have kept := rested.applies applied consistent placed answers
      exact ⟨fun idle => (kept.idle idle).imp_left fun fresh => { fresh with }, kept.done⟩
  | unable => exact of_busy nofun rested.done
  | failed =>
      exact ⟨fun idle => (rested.idle idle).imp_left fun fresh => { fresh with }, rested.done⟩

/-- Handling a request keeps a session rested. -/
theorem handle (rested : session.Rested) (message : List UInt8) :
    (session.handleRequest message).2.Rested := by
  refine of_handleRequest Rested message rested fun served => ?_
  have kept := rested.serves served
  exact ⟨fun idle => (kept.idle idle).imp_left fun fresh => { fresh with }, kept.done⟩

/-- Whatever the input is, a session stays rested. -/
theorem next (rested : session.Rested) (consistent : session.Consistent) (placed : session.Placed)
    (input : SessionInput) : (session.next input).Rested := by
  cases input with
  | issue command => exact rested.issue command
  | process message => exact rested.process consistent placed message
  | handle message => exact rested.handle message
  | reset => exact reset session
  | load plan =>
      rcases next_load session plan with refused | ⟨-, loaded⟩
      · rw [refused]
        exact rested
      · rw [loaded]
        exact reset _

/-- An idle session is rested, whatever has happened to it. -/
theorem run (rested : session.Rested) (consistent : session.Consistent) (placed : session.Placed)
    (inputs : List SessionInput) : (session.run inputs).Rested := by
  induction inputs generalizing session with
  | nil => exact rested
  | cons input rest ih =>
      exact ih (rested.next consistent placed input) (consistent.next placed input)
        (placed.next input)

end Rested

/-- A session begins with a sound plan, and with nothing recorded. -/
theorem rested_of_start {settings : AgentSettings} {plan : UpdatePlan}
    (started : start settings plan = .ok session) : session.plan.Sound ∧ session.Rested := by
  obtain ⟨faultless, -, rfl⟩ := sound_of_start started
  exact ⟨faultless, fun _ => .inl ⟨rfl, rfl⟩, nofun⟩

/-! ## The next update -/

/-- The session that begins an update has recorded what it had before. -/
structure Begins (before after : Session) : Prop where
  plan : after.plan = before.plan
  passed : after.passed = before.passed
  outcomes : after.outcomes = before.outcomes
  current : after.current = before.current
  activated : after.activated = before.activated
  finished : after.finished = before.finished
  learning : after.state = .learnComponents

/-- Only the answer to a request for an update leads from idle to where components are
announced. It clears nothing. -/
theorem begins_of_process {message : List UInt8} (idle : session.state = .idle)
    (begun : (session.process message).2.state = .learnComponents) :
    session.Begins (session.process message).2 := by
  have takes := session.process_takes message
  generalize (session.process message).2 = after at takes begun
  cases takes with
  | refused | failed => cases idle.symm.trans begun
  | unable => cases begun
  | applied _ _ applied =>
      cases applied with
      | begun => exact ⟨rfl, rfl, rfl, rfl, rfl, rfl, rfl⟩
      | announced body =>
          unfold recordPassed at begun
          dsimp only at begun
          split at begun
          · cases begun
          · cases idle.symm.trans begun
      | ignored | identifiers | parameters | status | metadata | badMetadata | componentLeftOut =>
          cases idle.symm.trans begun
      | _ => cases begun

/-- Up to the announcement of its components, a session has nothing left to do exactly if it is
done. -/
theorem nextAction_of_early (early : session.state = .idle ∨ session.state = .learnComponents) :
    session.nextAction = .finished ↔ session.finished = true := by
  unfold nextAction
  rcases early with state | state <;> rw [state] <;> dsimp only <;> repeat' split
  all_goals simp_all

end Session

/-- An update of a session begins with nothing recorded, and the first component is announced
next, unless the session has been idle since it activated an update: then everything is announced
already, and no component can be. An update that has been activated or cancelled also leaves the
session done, and it stays so until it is reset or takes another plan. A session that is not done
begins its update as a new session does. -/
theorem update_begins_fresh_unless_one_was_activated {settings : AgentSettings}
    {plan : UpdatePlan} {first : Session} (started : Session.start settings plan = .ok first)
    (inputs : List SessionInput) (message : List UInt8)
    (idle : (first.run inputs).state = .idle)
    (begun : (first.run (inputs ++ [.process message])).state = .learnComponents) :
    let before := first.run inputs
    let session := first.run (inputs ++ [.process message])
    session.current = none ∧ session.activated = before.activated ∧
      (session.nextAction = .finished ↔ before.nextAction = .finished) ∧
      (before.nextAction ≠ .finished → before.activated = false) ∧
      ((session.passed = 0 ∧ (∀ outcome ∈ session.outcomes, outcome = .notPassed) ∧
          session.updatedComponents = 0 ∧ session.AnnouncesFirst) ∨
        (before.activated = true ∧ session.passed = session.plan.components.length ∧
          (session.issue .passComponentTable).1 = .error (.invalidState .learnComponents))) := by
  dsimp only
  obtain ⟨consistent, placed⟩ := Session.consistent_of_start started
  obtain ⟨sound, rested⟩ := Session.rested_of_start started
  have sound := Session.run_sound sound inputs
  have rested := rested.run consistent placed inputs
  have consistent := consistent.run placed inputs
  have last : first.run (inputs ++ [.process message]) =
      ((first.run inputs).process message).2 := List.foldl_append ..
  rw [last] at begun ⊢
  generalize first.run inputs = before at *
  have begins := Session.begins_of_process idle begun
  generalize (before.process message).2 = session at *
  have done := Session.nextAction_of_early (.inl idle)
  refine ⟨?_, begins.activated, ?_, ?_, ?_⟩
  · rw [begins.current]
    exact consistent.current_eq_none (by rw [idle]; rfl)
  · rw [Session.nextAction_of_early (.inr begun), done, begins.finished]
  · intro unfinished
    exact Bool.eq_false_iff.mpr fun activated => unfinished (done.mpr (rested.done activated))
  · rcases rested.idle idle with fresh | ⟨activated, complete⟩
    · have fresh : session.Fresh :=
        ⟨begins.passed.trans fresh.passed, by rw [begins.outcomes, fresh.outcomes, begins.plan]⟩
      exact .inl ⟨fresh.passed, fun _ => fresh.notPassed, fresh.updatedComponents,
        fresh.announcesFirst (begins.plan ▸ sound) begun⟩
    · have complete : session.passed = session.plan.components.length := by
        rw [begins.passed, complete, begins.plan]
      exact .inr ⟨activated, complete, Session.issue_of_complete begun complete⟩

/-- The first update of a session begins with nothing recorded. -/
theorem first_update_begins_fresh :
    AskedUpdate.asked.state = .idle ∧
      (AskedUpdate.asked.process AskedUpdate.accepts).2.state = .learnComponents ∧
      (AskedUpdate.asked.process AskedUpdate.accepts).2.passed = 0 ∧
      (AskedUpdate.asked.process AskedUpdate.accepts).2.current = none ∧
      (AskedUpdate.asked.process AskedUpdate.accepts).2.nextAction ≠ .finished ∧
      (AskedUpdate.asked.process AskedUpdate.accepts).2.AnnouncesFirst := by
  obtain ⟨current, -, -, -, fresh | ⟨before, -⟩⟩ :=
    update_begins_fresh_unless_one_was_activated
      (rfl : Session.start {} AskedUpdate.plan = .ok AskedUpdate.first) [.issue .requestUpdate]
      AskedUpdate.accepts rfl rfl
  · exact ⟨rfl, rfl, fresh.1, current, by decide, fresh.2.2.2⟩
  · cases before

namespace SecondUpdate

/-- An update of the only component, which is activated, and the request for another one. -/
def inputs : List SessionInput :=
  [.issue .requestUpdate, .process AskedUpdate.accepts,
    .issue .passComponentTable, .process [0x01, 0x05, 0x13, 0x00, 0x00, 0x00],
    .issue .updateComponent,
    .process [0x02, 0x05, 0x14, 0x00, 0x00, 0x00, 0x00, 0x00, 0x00, 0x00, 0x00, 0x00],
    .handle [0x80, 0x05, 0x16, 0x00], .handle [0x81, 0x05, 0x17, 0x00],
    .handle [0x82, 0x05, 0x18, 0x00, 0x00, 0x00],
    .issue .activateFirmware, .process [0x03, 0x05, 0x1a, 0x00, 0x00, 0x00],
    .issue .requestUpdate]

/-- The device enters the update again. -/
def accepts : List UInt8 := [0x04, 0x05, 0x10, 0x00, 0x00, 0x00, 0x00]

/-- The session whose second update has begun. -/
def session : Session := AskedUpdate.first.run (inputs ++ [.process accepts])

end SecondUpdate

/-- The update that begins after an activation finds the components announced and updated, and the
session activated and done; no component can be announced. -/
theorem second_update_begins_stale :
    Session.start {} AskedUpdate.plan = .ok AskedUpdate.first ∧
      (AskedUpdate.first.run SecondUpdate.inputs).state = .idle ∧
      SecondUpdate.session.state = .learnComponents ∧ SecondUpdate.session.passed = 1 ∧
      SecondUpdate.session.outcomes = [.updated] ∧ SecondUpdate.session.activated = true ∧
      SecondUpdate.session.updatedComponents = 1 ∧
      SecondUpdate.session.nextAction = .finished ∧
      (SecondUpdate.session.issue .passComponentTable).1 =
        .error (.invalidState .learnComponents) :=
  ⟨rfl, by decide, by decide, by decide, by decide, by decide, by decide, by decide, rfl⟩

end FirmwareUpdate
