import FirmwareUpdate.Proofs.Agent.Run
import FirmwareUpdate.Proofs.Device.Answer
import FirmwareUpdate.Proofs.Message.Envelope

/-!
# A session and a responder, one exchange at a time

In a pair every request is answered, and the answer taken, before anything else happens.
`Pair.issue_eq` and `Pair.poll_eq` reduce an exchange to the functions that answer a
command and take a body: the messages in between are read as they were written.
-/

namespace FirmwareUpdate

open Wire

variable {σ : Type}

/-- A session, a responder, and the state of its device. -/
structure Pair (σ : Type) where
  session : Session
  responder : Responder
  state : σ
deriving DecidableEq

namespace Session

/-- The request of a command with the given body. -/
def request (session : Session) (command : AgentCommand) (body : List UInt8) : Request :=
  { iid := session.nextIid, typ := firmwareUpdateType, cmd := command.code, data := body }

/-- The session while it waits for the response to a command. -/
def asking (session : Session) (command : AgentCommand) : Session :=
  { session with
    nextIid := nextInstance session.nextIid
    pending := some { iid := session.nextIid, command } }

/-- A command that may be issued and has a body is issued. -/
theorem issue_eq {session : Session} {command : AgentCommand} {body : List UInt8}
    (allowed : allows session.state command = true)
    (written : session.requestBody command = .ok body) :
    session.issue command =
      (.ok (session.request command body).toBytes, session.asking command) := by
  rw [issue, if_pos allowed, written]
  rfl

/-- A command that is not issued leaves the session as it is, except for its code. -/
theorem issue_cases (session : Session) (command : AgentCommand) :
    (∃ error code, session.issue command = (.error error, { session with lastCode := code })) ∨
      ∃ body, allows session.state command = true ∧ session.requestBody command = .ok body := by
  unfold issue
  split
  · rename_i allowed
    cases written : session.requestBody command with
    | error error => exact .inl ⟨error, session.lastCode, rfl⟩
    | ok body => exact .inr ⟨body, allowed, rfl⟩
  · exact .inl ⟨_, _, rfl⟩

/-- The response to the request that awaits one is taken. -/
theorem process_asking {session : Session} {command : AgentCommand} {body : List UInt8}
    (fits : FitsInstance session.nextIid) (cc : CompletionCode) (data : List UInt8) :
    (session.asking command).process ((session.request command body).respond cc data).toBytes =
      (session.asking command).processMatching command
        ((session.request command body).respond cc data) := by
  have parsed : Response.parse ((session.request command body).respond cc data).toBytes =
      .ok ((session.request command body).respond cc data) :=
    Response.parse_toBytes fits fitsType_firmwareUpdate
  unfold process
  rw [parsed]
  simp [asking, request, Request.respond, PendingRequest.isAnsweredBy]

end Session

namespace Responder

/-- A request of the agent that owns the update, or of any agent if none does. -/
theorem answer_request {responder : Responder} {device : Device σ} {agent : EndpointId} {state : σ}
    (home : responder.isForeign agent = false) (session : Session) (command : AgentCommand)
    (body : List UInt8) :
    responder.answer device agent (session.request command body) state =
      responder.answerCommand device agent (session.request command body) state
        command.command := by
  have known : ofCode? (session.request command body).cmd = some command.command := ofCode?_code _
  unfold answer
  rw [if_neg (by simp [Session.request]), known]
  simp [home]

/-- An answer says what a response with this code and body says. -/
def Says (request : Request) (answer : Except CompletionCode Response) (cc : CompletionCode)
    (data : List UInt8) : Prop :=
  answer = .ok (request.respond cc data) ∨ answer = .error cc ∧ data = []

theorem Says.messageOf_eq {request : Request} {answer : Except CompletionCode Response}
    {cc : CompletionCode} {data : List UInt8} (gives : Says request answer cc data) :
    messageOf request answer = (request.respond cc data).toBytes := by
  rcases gives with rfl | ⟨rfl, rfl⟩ <;> rfl

/-- The device takes a response to a request of its own. -/
theorem takeReply_response {responder : Responder} {device : Device σ} {agent : EndpointId}
    (owner : responder.owner = some agent) {response : Response}
    (fits : FitsInstance response.iid) (typ : FitsType response.typ) (state : σ) :
    responder.takeReply device agent response.toBytes state =
      match (ofCode? response.cmd : Option Command) with
      | some .getPackageData => responder.takePackageReply device response state
      | some .requestFirmwareData => responder.takeDataReply device response state
      | some .transferComplete | some .verifyComplete | some .applyComplete =>
        (.ok (), responder, state)
      | _ => (.error (.codec (.protocol .unsupportedResponse)), responder, state) := by
  unfold takeReply
  rw [if_neg (by simp [owner])]
  cases parsed : Response.parse response.toBytes with
  | error error => cases parsed.symm.trans (Response.parse_toBytes fits typ)
  | ok other =>
      cases parsed.symm.trans (Response.parse_toBytes fits typ)
      rfl

end Responder

namespace Pair

/-- The agent issues a command; the device answers and the agent takes the answer. -/
def issue (device : Device σ) (agent : EndpointId) (pair : Pair σ) (command : AgentCommand) :
    Pair σ :=
  let (message, session) := pair.session.issue command
  match message with
  | .error _ => { pair with session }
  | .ok message =>
    let (answer, responder, state) :=
      pair.responder.answerRequest device agent message pair.state
    match answer with
    | .error _ => { session, responder, state }
    | .ok answer => { session := (session.process answer).2, responder, state }

/-- The device is asked for progress; if it makes a request, the agent answers and the device
takes the answer. -/
def poll (device : Device σ) (agent : EndpointId) (pair : Pair σ) : Pair σ :=
  let (message, responder, state) := pair.responder.progress device pair.state
  match message with
  | none => { pair with responder, state }
  | some message =>
    let (answer, session) := pair.session.handleRequest message
    match answer with
    | .error _ => { session, responder, state }
    | .ok answer =>
      let (_, responder, state) := responder.takeReply device agent answer state
      { session, responder, state }

variable {device : Device σ} {agent : EndpointId} {pair : Pair σ}

/-- A command that is issued is answered, and its answer taken. -/
theorem issue_eq {command : AgentCommand} {body : List UInt8}
    (allowed : Session.allows pair.session.state command = true)
    (written : pair.session.requestBody command = .ok body)
    (fits : FitsInstance pair.session.nextIid) (home : pair.responder.isForeign agent = false)
    {after : Responder.Answer σ}
    (answered : pair.responder.answerCommand device agent (pair.session.request command body)
      pair.state command.command = after)
    {cc : CompletionCode} {data : List UInt8}
    (gives : Responder.Says (pair.session.request command body) after.1 cc data) :
    pair.issue device agent command =
      { session := ((pair.session.asking command).processMatching command
          ((pair.session.request command body).respond cc data)).2
        responder := after.2.1
        state := after.2.2 } := by
  have parsed : Request.parse (pair.session.request command body).toBytes =
      .ok (pair.session.request command body) :=
    Request.parse_toBytes fits fitsType_firmwareUpdate
  unfold issue
  rw [Session.issue_eq allowed written]
  dsimp only
  rw [Responder.answerRequest_of_parse _ _ _ parsed, Responder.answer_request home, answered,
    gives.messageOf_eq]
  dsimp only
  rw [Session.process_asking fits]

/-- A command that is not issued changes nothing but the code of the session. -/
theorem issue_cases (device : Device σ) (agent : EndpointId) (pair : Pair σ)
    (command : AgentCommand) :
    (∃ code, pair.issue device agent command =
        { pair with session := { pair.session with lastCode := code } }) ∨
      ∃ body, Session.allows pair.session.state command = true ∧
        pair.session.requestBody command = .ok body := by
  rcases pair.session.issue_cases command with ⟨error, code, refused⟩ | issued
  · refine .inl ⟨code, ?_⟩
    unfold issue
    rw [refused]
  · exact .inr issued

/-- A request of the device is served, and the answer taken. -/
theorem poll_eq {request : Request} {responder : Responder} {state : σ}
    (asked : pair.responder.progress device pair.state =
      (some request.toBytes, responder, state))
    (owner : responder.owner = some agent) (fits : FitsInstance request.iid)
    (typ : request.typ = firmwareUpdateType) {served : Except CompletionCode (List UInt8)}
    {session : Session} (serves : pair.session.serve request = (served, session)) :
    pair.poll device agent =
      let response := Session.responseOf request served
      let taken := match (ofCode? request.cmd : Option Command) with
        | some .getPackageData => responder.takePackageReply device response state
        | some .requestFirmwareData => responder.takeDataReply device response state
        | some .transferComplete | some .verifyComplete | some .applyComplete =>
          (.ok (), responder, state)
        | _ => (.error (.codec (.protocol .unsupportedResponse)), responder, state)
      { session := { session with lastCode := response.cc }
        responder := taken.2.1
        state := taken.2.2 } := by
  have typFits : FitsType request.typ := typ ▸ fitsType_firmwareUpdate
  have same : (Session.responseOf request served).iid = request.iid ∧
      (Session.responseOf request served).typ = request.typ ∧
      (Session.responseOf request served).cmd = request.cmd := by
    cases served <;> exact ⟨rfl, rfl, rfl⟩
  unfold poll
  rw [asked]
  dsimp only
  rw [Session.handleRequest_of_parse _ (Request.parse_toBytes fits typFits), serves]
  dsimp only
  rw [Responder.takeReply_response owner (same.1 ▸ fits) (same.2.1 ▸ typFits), same.2.2]

end Pair

end FirmwareUpdate
