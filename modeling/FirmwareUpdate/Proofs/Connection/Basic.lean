import Mathlib.Data.List.Forall2
import FirmwareUpdate.Proofs.Agent.Run
import FirmwareUpdate.Proofs.Device.Reply
import FirmwareUpdate.Proofs.Message.Instance

/-!
# A device and an agent joined by queues

The requests of a device wait in one queue until the agent serves them, and the answers
wait in another until the device takes them. Nothing is lost and nothing overtakes. The
three steps come in any order, so a request that the device repeats may stand behind
many others.
-/

namespace FirmwareUpdate

open Wire

variable {σ : Type}

/-- The request that a responder with this history makes when it is asked for progress. -/
def ResponderHistory.asked? (device : Device σ) (history : ResponderHistory σ) :
    Option (List UInt8) :=
  match (history.react device .progress).1 with
  | .asked request => request
  | _ => none

/-- A session, a responder with its device, and the messages on their way, the oldest
first. -/
structure Connection (σ : Type) where
  session : Session
  history : ResponderHistory σ
  requests : List (List UInt8) := []
  replies : List (List UInt8) := []

/-- What can happen on a connection. -/
inductive ConnectionStep where
  /-- The device is asked for progress. -/
  | progress
  /-- The agent serves the oldest request. -/
  | serve
  /-- The device takes the oldest answer. -/
  | reply

namespace Connection

/-- What follows a step; serving or taking nothing changes nothing. -/
def next (device : Device σ) (agent : EndpointId) (connection : Connection σ) :
    ConnectionStep → Connection σ
  | .progress =>
    { connection with
      history := connection.history.next device .progress
      requests := connection.requests ++ (connection.history.asked? device).toList }
  | .serve =>
    match connection.requests with
    | [] => connection
    | message :: rest =>
      let (answer, session) := connection.session.handleRequest message
      { connection with
        session
        requests := rest
        replies := connection.replies ++ answer.toOption.toList }
  | .reply =>
    match connection.replies with
    | [] => connection
    | message :: rest =>
      { connection with
        history := connection.history.next device (.reply agent message)
        replies := rest }

/-- What follows a schedule. -/
def run (device : Device σ) (agent : EndpointId) (connection : Connection σ)
    (schedule : List ConnectionStep) : Connection σ :=
  schedule.foldl (next device agent) connection

/-- How many requests of the device have not been answered yet. -/
def inFlight (connection : Connection σ) : Nat :=
  connection.requests.length + connection.replies.length

end Connection

/-! ## Requests in flight -/

/-- A request on its way, or its answer on the way back: its number, and the firmware data
that it asks for if it does. -/
structure Flight where
  iid : UInt8
  wanted : Option DataRequest

namespace Flight

/-- The message asks what the flight says. -/
def Carries (message : List UInt8) (flight : Flight) : Prop :=
  ∃ request, Request.parse message = .ok request ∧ request.iid = flight.iid ∧
    (request.cmd = Coded.code Command.requestFirmwareData →
      ∃ wanted, flight.wanted = some wanted ∧
        decode "RequestFirmwareData" DataRequest.reader request.data = .ok wanted)

/-- The message answers what the flight says: firmware data are those of the image at the
offset that was asked for. -/
def Answers (image : List UInt8) (message : List UInt8) (flight : Flight) : Prop :=
  ∃ response, Response.parse message = .ok response ∧ response.iid = flight.iid ∧
    (response.cmd = Coded.code Command.requestFirmwareData → response.cc.isSuccess = true →
      ∃ wanted, flight.wanted = some wanted ∧
        response.data = (image.drop wanted.offset.toNat).take wanted.length.toNat)

end Flight

/-- The session serves no image but this one. -/
def Session.Offers (session : Session) (image : List UInt8) : Prop :=
  ∀ component, (session.current.bind fun index => session.plan.components[index]?) =
    some component → component.image = image

namespace Session

/-- A component that is being updated stays the same while requests are served, until it
is none. -/
theorem serveCommand_current (session : Session) (command : Command) (body : List UInt8) :
    (session.serveCommand command body).2.current = session.current ∨
      (session.serveCommand command body).2.current = none := by
  cases command with
  | getPackageData =>
      unfold serveCommand servePackageData
      dsimp only
      repeat' split
      all_goals exact .inl rfl
  | transferComplete | verifyComplete =>
      unfold serveCommand takeReport
      dsimp only
      repeat' split
      all_goals exact .inl rfl
  | applyComplete =>
      unfold serveCommand takeApplyReport
      dsimp only
      repeat' split
      · exact .inl rfl
      · exact .inr rfl
      · exact .inl rfl
  | _ => exact .inl rfl

theorem serve_current (session : Session) (request : Request) :
    (session.serve request).2.current = session.current ∨
      (session.serve request).2.current = none := by
  unfold serve
  repeat' split
  all_goals first | exact .inl rfl | exact serveCommand_current ..

theorem handleRequest_offers {session : Session} {image : List UInt8}
    (offers : session.Offers image) (message : List UInt8) :
    (session.handleRequest message).2.Offers image := by
  have same : (session.handleRequest message).2.current = session.current ∨
      (session.handleRequest message).2.current = none := by
    cases parsed : Request.parse message with
    | error error =>
        unfold handleRequest
        rw [parsed]
        exact .inl rfl
    | ok request =>
        rw [handleRequest_of_parse session parsed]
        exact serve_current session request
  intro component found
  rw [(handleRequest_sameOrder session message).1] at found
  rcases same with same | none
  · rw [same] at found
    exact offers component found
  · rw [none] at found
    cases found

/-- Firmware data are a slice of the image on offer. -/
theorem serveFirmwareData_slice {session : Session} {image : List UInt8}
    (offers : session.Offers image) {body data : List UInt8} {wanted : DataRequest}
    (decoded : decode "RequestFirmwareData" DataRequest.reader body = .ok wanted)
    (served : session.serveFirmwareData body = .ok data) :
    data = (image.drop wanted.offset.toNat).take wanted.length.toNat := by
  unfold serveFirmwareData at served
  rw [decoded] at served
  dsimp only at served
  split at served
  · cases served
  · rename_i component found
    repeat' split at served
    all_goals cases served
    rw [offers component found]

/-- A request in flight is answered. -/
theorem handleRequest_answers {session : Session} {image message : List UInt8}
    (offers : session.Offers image) {flight : Flight} (carries : flight.Carries message) :
    ∃ reply, (session.handleRequest message).1 = .ok reply ∧ flight.Answers image reply := by
  obtain ⟨request, parsed, iid, asks⟩ := carries
  rw [handleRequest_of_parse session parsed]
  cases served : (session.serve request).1 with
  | error cc =>
      refine ⟨_, rfl, _, Request.parse_respond parsed cc [], iid, fun _ success => ?_⟩
      have accepted : cc.isSuccess = true := success
      rw [serve_refusal session served] at accepted
      cases accepted
  | ok body =>
      refine ⟨_, rfl, _, Request.parse_respond parsed _ body, iid, fun asked _ => ?_⟩
      obtain ⟨wanted, found, decoded⟩ := asks asked
      refine ⟨wanted, found, serveFirmwareData_slice offers decoded ?_⟩
      unfold serve at served
      split at served
      · cases served
      · rw [show request.cmd = _ from asked, ofCode?_code] at served
        dsimp only at served
        split at served
        · cases served
        · cases served
        · exact served

end Session

end FirmwareUpdate
