import FirmwareUpdate.Agent.Session
import FirmwareUpdate.Run.Endpoint

/-!
# Running an agent

A session meets an endpoint: requests are sent and their responses awaited, and what
the device asks meanwhile is answered. Messages from anyone but the peer, and
responses to anything but the last request, are passed over.
-/

namespace FirmwareUpdate

/-- A session, the endpoint it talks through, and the state of the link. -/
structure AgentRun (σ : Type) where
  session : Session
  endpoint : Endpoint
  medium : σ

namespace AgentRun

variable {σ : Type}

/-- The deadline of a wait that begins now. -/
def deadline (run : AgentRun σ) (link : Link σ) : Deadline :=
  (Timeout.ofSpan (run.session.settings.responseTimeout * 1000)).start (link.now run.medium)

/-- Answers a request, if it is one of the peer. -/
def answer (run : AgentRun σ) (link : Link σ) (request : Incoming) :
    Except UpdateError Unit × AgentRun σ :=
  if request.source = run.endpoint.peer then
    match run.session.handleRequest request.data with
    | (.error error, session) => (.error error, { run with session })
    | (.ok response, session) =>
      let (sent, medium) := run.endpoint.sendResponse link request response run.medium
      (sent, { run with session, medium })
  else (.ok (), run)

/-- Waits for the next message before the deadline. -/
def next (link : Link σ) (patience : Nat) (deadline : Deadline) (run : AgentRun σ) :
    Except UpdateError Incoming × Deadline × AgentRun σ :=
  match deadline.remaining (link.now run.medium) with
  | (none, deadline) => (.error (.channel .receiveTimeout), deadline, run)
  | (some timeout, deadline) =>
    let (message, endpoint, medium) :=
      run.endpoint.receive link patience timeout run.medium
    (message, deadline, { run with endpoint, medium })

/-- The message can be the response to a request of this tag. -/
def isResponseTo (run : AgentRun σ) (tag : Tag) (message : Incoming) : Bool :=
  message.source == run.endpoint.peer && message.tag == tag.reply

/-- Waits for the response to a request of this tag, through `messages` messages at
most. -/
def awaitResponse (link : Link σ) (patience : Nat) (tag : Tag) :
    (messages : Nat) → Deadline → AgentRun σ →
      Except UpdateError CompletionCode × AgentRun σ
  | 0, _, run => (.error (.channel .receiveTimeout), run)
  | messages + 1, deadline, run =>
    match run.next link patience deadline with
    | (.error error, _, run) => (.error error, run)
    | (.ok message, deadline, run) =>
      if message.isRequest then
        match run.answer link message with
        | (.error error, run) => (.error error, run)
        | (.ok (), run) => awaitResponse link patience tag messages deadline run
      else if run.isResponseTo tag message then
        match run.session.process message.data with
        | (.error (.unexpectedResponse _), session) =>
          awaitResponse link patience tag messages deadline { run with session }
        | (answer, session) => (answer, { run with session })
      else awaitResponse link patience tag messages deadline run

/-- Issues a command and waits for its response. -/
def exchange (run : AgentRun σ) (link : Link σ) (patience : Nat) (command : AgentCommand) :
    Except UpdateError CompletionCode × AgentRun σ :=
  match run.session.issue command with
  | (.error error, session) => (.error error, { run with session })
  | (.ok request, session) =>
    match run.endpoint.sendRequest link request run.medium with
    | (.error error, endpoint, medium) => (.error error, { session, endpoint, medium })
    | (.ok tag, endpoint, medium) =>
      let run : AgentRun σ := { session, endpoint, medium }
      awaitResponse link patience tag patience (run.deadline link) run

/-- Waits for one request and answers it, through `messages` messages at most. -/
def awaitRequest (link : Link σ) (patience : Nat) :
    (messages : Nat) → Deadline → AgentRun σ → Except UpdateError Unit × AgentRun σ
  | 0, _, run => (.error (.channel .receiveTimeout), run)
  | messages + 1, deadline, run =>
    match run.next link patience deadline with
    | (.error error, _, run) => (.error error, run)
    | (.ok message, deadline, run) =>
      if message.isRequest then run.answer link message
      else awaitRequest link patience messages deadline run

/-- Waits for one request and answers it. -/
def serveNext (run : AgentRun σ) (link : Link σ) (patience : Nat) :
    Except UpdateError Unit × AgentRun σ :=
  awaitRequest link patience patience (run.deadline link) run

/-- What a session that has finished comes to. -/
def verdict (session : Session) : Except UpdateError Unit :=
  if session.activated then .ok ()
  else if session.state = .aborted then .error (.aborted session.lastCode)
  else .error .nothingUpdated

/-- The command may be repeated after this refusal. -/
def mayRetry (session : Session) (command : AgentCommand) (cc : CompletionCode)
    (retries : Nat) : Bool :=
  command == .requestUpdate && cc == UpdateCode.retryRequestUpdate &&
    retries < session.settings.updateRetries

/-- Takes at most `actions` actions of the session, `retries` repetitions having been
made before. -/
def runActions (link : Link σ) (patience : Nat) :
    (actions retries : Nat) → AgentRun σ → Except UpdateError Unit × AgentRun σ
  | 0, _, run => (.error (.channel .receiveTimeout), run)
  | actions + 1, retries, run =>
    match run.session.nextAction with
    | .finished => (verdict run.session, run)
    | .awaitRequest =>
      match run.serveNext link patience with
      | (.error error, run) => (.error error, run)
      | (.ok (), run) => runActions link patience actions retries run
    | .issue command =>
      match run.exchange link patience command with
      | (.error error, run) => (.error error, run)
      | (.ok cc, run) =>
        if cc.isSuccess then runActions link patience actions retries run
        else if mayRetry run.session command cc retries then
          runActions link patience actions (retries + 1) run
        else (.error (.refused command.command cc), run)

/-- Drives a session until it has finished. Success means that the device has activated
its new firmware. -/
def runSession (run : AgentRun σ) (link : Link σ) (patience : Nat) :
    Except UpdateError Unit × AgentRun σ :=
  runActions link patience patience 0 run

end AgentRun

/-- Updates the peer of an endpoint. The session is lost unless all goes well. -/
def performUpdate {σ : Type} (endpoint : Endpoint) (link : Link σ) (patience : Nat)
    (settings : AgentSettings) (plan : UpdatePlan) (medium : σ) :
    Except UpdateError Session × Endpoint × σ :=
  match Session.start settings plan with
  | .error error => (.error error, endpoint, medium)
  | .ok session =>
    match AgentRun.runSession { session, endpoint, medium } link patience with
    | (.error error, run) => (.error error, run.endpoint, run.medium)
    | (.ok (), run) => (.ok run.session, run.endpoint, run.medium)

end FirmwareUpdate
