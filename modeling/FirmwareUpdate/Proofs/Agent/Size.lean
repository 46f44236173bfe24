import FirmwareUpdate.Proofs.Agent.Run

/-!
# How long the messages of a session are

The requests of a session carry at most the labels of its plan, and its answers at most a
portion of the package data or a piece of an image. All of them leave room for their header.
-/

namespace FirmwareUpdate.Session

open Wire

variable {session : Session}

/-- The body of a request leaves room for its header. -/
theorem length_of_requestBody (sound : session.plan.Sound) {command : AgentCommand}
    {body : List UInt8} (written : session.requestBody command = .ok body) :
    requestHeaderSize + body.length ≤ maxMessageSize := by
  have bounded {size : Nat} (length : body.length = size) (short : size < 280) :
      requestHeaderSize + body.length ≤ maxMessageSize := by
    unfold requestHeaderSize maxMessageSize
    omega
  have label := sound.sizes.2.2.2
  cases command with
  | requestUpdate =>
      exact bounded ((UpdateRequest.roundTrips _ label).length_of_written
        (toMessage_of_mapError written)) (by dsimp only; omega)
  | getDeviceMetaData =>
      exact bounded ((PartRequest.roundTrips _).length_of_written (toMessage_of_mapError written))
        (by decide)
  | passComponentTable =>
      unfold requestBody at written
      dsimp only at written
      split at written
      · cases written
      · rename_i component listed
        have short := (sound.component (List.mem_of_getElem? listed)).2
        exact bounded ((TableEntry.roundTrips _ short).length_of_written
          (toMessage_of_mapError written)) (by simp only [ComponentImage.record]; omega)
  | updateComponent =>
      unfold requestBody at written
      dsimp only at written
      split at written
      · cases written
      · rename_i component listed
        obtain ⟨index, -, listed⟩ := Option.bind_eq_some_iff.mp listed
        have short := (sound.component (List.mem_of_getElem? listed)).2
        exact bounded ((component.record.update_roundTrips short).length_of_written
          (toMessage_of_mapError written)) (by simp only [ComponentImage.record]; omega)
  | activateFirmware =>
      exact bounded ((ActivationRequest.roundTrips _).length_of_written
        (toMessage_of_mapError written)) (by decide)
  | _ =>
      cases written
      decide

/-- Whatever a session asks for is as long as a message may be. -/
theorem length_of_issue (sound : session.plan.Sound) {command : AgentCommand}
    {message : List UInt8} (issued : (session.issue command).1 = .ok message) :
    message.length ≤ maxMessageSize := by
  unfold issue at issued
  split at issued
  · split at issued
    · cases issued
    · rename_i body written
      cases issued
      rw [Request.length_toBytes]
      exact length_of_requestBody sound written
  · cases issued

/-- Whatever a session answers is as long as a message may be, if a message has room for the
pieces of an image that it serves. -/
theorem length_of_handleRequest
    (room : responseHeaderSize + session.settings.maxTransferSize.toNat ≤ maxMessageSize)
    {asked message : List UInt8} (answered : (session.handleRequest asked).1 = .ok message) :
    message.length ≤ maxMessageSize := by
  cases parsed : Request.parse asked with
  | error error =>
      rw [handleRequest, parsed] at answered
      cases answered
  | ok request =>
      rw [handleRequest_of_parse session parsed] at answered
      have serves := serve_serves session request
      generalize session.serve request = served at answered serves
      obtain ⟨result, after⟩ := served
      cases answered
      rw [Response.length_toBytes]
      cases serves with
      | part asked short => exact short
      | data asked short => exact Nat.le_trans (Nat.add_le_add_left short _) room
      | _ => exact (by decide : responseHeaderSize + 0 ≤ maxMessageSize)

theorem next_settings (session : Session) (input : SessionInput) :
    (session.next input).settings = session.settings := by
  cases input with
  | issue command => exact (issue_sameOrder session command).2
  | process message => exact (process_sameOrder session message).2
  | handle message => exact (handleRequest_sameOrder session message).2
  | reset => rfl
  | load plan =>
      rcases next_load session plan with refused | ⟨-, loaded⟩
      · rw [refused]
      · rw [loaded]
        rfl

/-- The settings stay as they are. -/
theorem run_settings (session : Session) (inputs : List SessionInput) :
    (session.run inputs).settings = session.settings := by
  induction inputs generalizing session with
  | nil => rfl
  | cons input rest ih => exact (ih (session.next input)).trans (next_settings session input)

end FirmwareUpdate.Session
