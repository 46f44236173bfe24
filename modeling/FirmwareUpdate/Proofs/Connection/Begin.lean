import FirmwareUpdate.Proofs.Connection.Basic

/-!
# A component begins on both sides

When a session has issued the request to update a component, and the answer to it has
put the session into the transfer, the responder that gave the answer has begun the same
component: what it waits for is as long as the image that the session serves.
-/

namespace FirmwareUpdate

open Wire

namespace Session

/-- What the request to update a component says: the next component of the plan. -/
theorem issue_updateComponent {session asking : Session} {message : List UInt8}
    (issued : session.issue .updateComponent = (.ok message, asking)) :
    session.state = .readyXfer ∧ ∃ index component written,
      session.nextComponent? = some index ∧ session.plan.components[index]? = some component ∧
      component.record.updateLayout.toMessage = .ok written ∧
      message = Request.toBytes
        { iid := session.nextIid, typ := firmwareUpdateType,
          cmd := Coded.code Command.updateComponent, data := written } ∧
      asking = { session with
        nextIid := nextInstance session.nextIid
        pending := some { iid := session.nextIid, command := .updateComponent } } := by
  unfold issue at issued
  split at issued
  · rename_i allowed
    split at issued
    · cases issued
    · rename_i data written
      cases issued
      refine ⟨by simpa [allows] using allowed, ?_⟩
      unfold requestBody at written
      dsimp only at written
      split at written
      · cases written
      · rename_i component found
        obtain ⟨index, next, listed⟩ := Option.bind_eq_some_iff.mp found
        cases encoded : component.record.updateLayout.toMessage with
        | error error =>
            rw [encoded] at written
            cases written
        | ok body =>
            rw [encoded] at written
            cases written
            exact ⟨index, component, _, next, listed, encoded, rfl, rfl⟩
  · cases issued

/-- An answer that puts a session into a transfer lets its next component begin. -/
theorem process_updateComponent {asking : Session} {iid : UInt8}
    (pending : asking.pending = some { iid, command := .updateComponent })
    (ready : asking.state = .readyXfer) {answer : List UInt8}
    (begun : (asking.process answer).2.state = .download) :
    ∃ response body, Response.parse answer = .ok response ∧ response.cc.isSuccess = true ∧
      decode "UpdateComponent" ComponentResponse.reader response.data = .ok body ∧
      body.response = 0 ∧ (asking.process answer).2.current = asking.nextComponent? ∧
      (asking.process answer).2.plan = asking.plan := by
  have plan := (process_sameOrder asking answer).1
  unfold process at begun plan ⊢
  cases parsed : Response.parse answer with
  | error error => simp [parsed, ready] at begun
  | ok response =>
      rw [parsed] at begun plan
      simp only [pending] at begun plan ⊢
      split at begun
      · rename_i answers
        by_cases success : response.cc.isSuccess = true
        · obtain ⟨code, after⟩ :=
            asking.processMatching_of_success .updateComponent success
          rw [if_pos answers]
          rw [after] at begun ⊢
          simp only [apply, beginComponent] at begun ⊢
          cases decoded : decode "UpdateComponent" ComponentResponse.reader response.data with
          | error error => simp [decoded, ready] at begun
          | ok body =>
              rw [decoded] at begun
              dsimp only at begun ⊢
              split at begun
              · simp [ready] at begun
              · rename_i index next
                split at begun
                · rename_i accepts
                  rw [if_pos accepts]
                  exact ⟨response, body, rfl, success, decoded, accepts, next.symm, rfl⟩
                · simp [ready] at begun
        · rw [processMatching, if_neg success] at begun
          simp [processFailure, ready] at begun
      · simp [ready] at begun

end Session

/-- The responder whose answer accepts a component begins with it. -/
theorem ResponderHistory.begun_of_accepted {σ : Type} {device : Device σ}
    {history : ResponderHistory σ} (lawful : history.Lawful) {agent : EndpointId}
    {message : List UInt8} {answer : Except UpdateError (List UInt8)}
    (answered : (history.react device (.request agent message)).1 = .answer answer)
    {record : ComponentRecord} (accepted : acceptedComponent? message answer = some record) :
    (∃ options, (history.next device (.request agent message)).responder.phase =
        Responder.beginDownload record options) ∧
      ∃ earlier, (history.next device (.request agent message)).events =
        earlier ++ [.accepted record] := by
  obtain ⟨new, added, step⟩ := imageStep device history lawful.room (.request agent message)
  have among : .accepted record ∈ new := by
    have events : history.events ++ _ = history.events ++ new := added
    rw [List.append_cancel_left_eq] at events
    rw [← events, answered, ResponderInput.accepted?, accepted]
    simp
  obtain ⟨phase, earlier, last⟩ := step.begins among
  exact ⟨phase, history.events ++ earlier, by rw [added, last, List.append_assoc]⟩

namespace Connection

variable {σ : Type} {device : Device σ} {agent : EndpointId}

/-- A session that has begun a component, and the responder that has accepted it. Nothing is
on its way between them. -/
structure Begins (device : Device σ) (agent : EndpointId) (session : Session)
    (history : ResponderHistory σ) (connection : Connection σ) : Prop where
  /-- The request is issued, and it is answered. -/
  begun : ∃ message asking answer, session.issue .updateComponent = (.ok message, asking) ∧
    (history.react device (.request agent message)).1 = .answer (.ok answer) ∧
    connection.history = history.next device (.request agent message) ∧
    connection.session = (asking.process answer).2
  transferring : connection.session.state = .download
  idle : connection.requests = [] ∧ connection.replies = []

/-- Both sides begin the same image. -/
theorem Begins.offers {session : Session} {history : ResponderHistory σ}
    {connection : Connection σ} (begins : Begins device agent session history connection)
    (sound : session.plan.Sound) (lawful : history.Lawful) :
    ∃ component, (connection.session.current.bind fun index =>
        connection.session.plan.components[index]?) = some component ∧
      component.image.length < 2 ^ 32 ∧
      (∃ options, connection.history.responder.phase =
        Responder.beginDownload component.record.inUpdate options) ∧
      ∃ earlier, connection.history.events = earlier ++ [.accepted component.record.inUpdate] := by
  obtain ⟨⟨message, asking, answer, issued, answered, after, processed⟩, transferring, -⟩ := begins
  obtain ⟨ready, index, component, written, next, listed, encoded, sent, asks⟩ :=
    Session.issue_updateComponent issued
  rw [processed] at transferring ⊢
  obtain ⟨response, body, parsed, success, decoded, accepts, current, plan⟩ :=
    Session.process_updateComponent (by rw [asks]) (by rw [asks]; exact ready) transferring
  obtain ⟨small, short⟩ := sound.component (List.mem_of_getElem? listed)
  refine ⟨component, ?_, small, ?_⟩
  · rw [current, plan, asks]
    exact (congrArg (Option.bind · _) next).trans listed
  · have readBack := (component.record.update_roundTrips short).decode_of_written encoded
      "UpdateComponent"
    have requested := Request.parse_toBytes_masked
      { iid := session.nextIid, typ := firmwareUpdateType,
        cmd := Coded.code Command.updateComponent, data := written }
    rw [← sent] at requested
    rw [after]
    exact ResponderHistory.begun_of_accepted lawful answered
      (Responder.acceptedComponent?_eq_some_iff.mpr ⟨_, answer, response, body, requested,
        readBack, rfl, parsed, decoded, fitsType_firmwareUpdate, rfl, success, accepts⟩)

end Connection

end FirmwareUpdate
