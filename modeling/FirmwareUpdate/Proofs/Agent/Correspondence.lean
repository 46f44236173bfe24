import Mathlib.Data.List.Forall2
import FirmwareUpdate.Proofs.Agent.Step
import FirmwareUpdate.Proofs.Channel.Mailbox
import FirmwareUpdate.Run.Agent

/-!
# The correspondence of an agent

Between two messages an agent only waits, so a run is known from what every message does to it. A
desk is what an agent has before it between two messages: its session, what it waits for and what
it has sent. Messages from anyone but the peer leave the desk as it is, and every request of the
peer that can be read is answered with one message.
-/

namespace FirmwareUpdate

/-! ## Answers -/

namespace Incoming

/-- The message is a request of the peer that can be read. -/
def asks (peer : EndpointId) (message : Incoming) : Bool :=
  message.source == peer && (Request.parse message.data).isOk

variable {peer : EndpointId} {message : Incoming}

/-- A message of the device that reads as a request asks something of the agent. -/
theorem asks_of_parse (known : message.source = peer) {asked : Request}
    (parsed : Request.parse message.data = .ok asked) : message.asks peer = true := by
  rw [asks, known, parsed, beq_self_eq_true]
  rfl

/-- A message that reads as no request of the device asks nothing. -/
theorem not_asks
    (silent : ∀ asked, message.source = peer → Request.parse message.data ≠ .ok asked) :
    message.asks peer = false := by
  unfold asks
  cases parsed : Request.parse message.data with
  | error fault => exact Bool.and_false _
  | ok asked =>
      have foreign : message.source ≠ peer := fun known => silent asked known parsed
      rw [beq_eq_false_iff_ne.mpr foreign, Bool.false_and]

end Incoming

/-- What can be read as a request is one. -/
theorem isRequest_of_parse {message : List UInt8} {asked : Request}
    (parsed : Request.parse message = .ok asked) : isRequest message = true := by
  obtain ⟨flags, typ, cmd, data, rfl, marked, -⟩ := Request.parse_eq_ok_iff.mp parsed
  refine bne_iff_ne.mpr fun plain => marked ?_
  have part : flags &&& requestBit = (flags &&& (requestBit ||| datagramBit)) &&& requestBit := by
    rw [UInt8.and_assoc]
    rfl
  rw [part, plain, UInt8.zero_and]

/-- The message goes back to whoever has sent a request, in packets of the usual size, and carries a
response to it. -/
structure Message.Answers (message : Message) (request : Incoming) : Prop where
  packetSize : message.packetSize = 0
  typ : message.typ = managementType
  tag : message.tag = request.tag.reply
  endpoint : message.endpoint = request.source
  address : message.address = request.address
  response : ∃ asked cc body, Request.parse request.data = .ok asked ∧
    message.data = (asked.respond cc body).toBytes

/-! ## Desks -/

/-- What an agent waits for. -/
inductive AgentWait where
  /-- The response to a command, whose request had this tag. -/
  | response (command : AgentCommand) (tag : Tag)
  /-- A request of the device. -/
  | request
  /-- Nothing more: the run has ended. -/
  | nothing (result : Except UpdateError Unit)

/-- An agent between two messages. -/
structure AgentDesk where
  session : Session
  nextTag : UInt8
  waits : AgentWait
  /-- How often the request for an update has been repeated. -/
  retries : Nat := 0
  /-- The messages that have been sent, the first one first. -/
  sent : List Message := []

namespace AgentDesk

/-- The agent has not ended. -/
def Busy (desk : AgentDesk) : Prop := ∀ result, desk.waits ≠ .nothing result

/-- What the run comes to if no more messages arrive. -/
def outcome (desk : AgentDesk) : Except UpdateError Unit :=
  match desk.waits with
  | .nothing result => result
  | _ => .error (.channel .receiveTimeout)

/-- The run ends with an error. -/
def stop (desk : AgentDesk) (error : UpdateError) : AgentDesk :=
  { desk with waits := .nothing (.error error) }

/-- The next action of the session, up to the message that it waits for. -/
def act (home : Endpoint) (desk : AgentDesk) : AgentDesk :=
  match desk.session.nextAction with
  | .finished => { desk with waits := .nothing (AgentRun.verdict desk.session) }
  | .awaitRequest => { desk with waits := .request }
  | .issue command =>
    match desk.session.issue command with
    | (.error error, session) => { desk with session }.stop error
    | (.ok request, session) =>
      { desk with
        session
        nextTag := (desk.nextTag + 1) &&& maxTag
        waits := .response command { number := desk.nextTag, owned := true }
        sent := desk.sent ++ [{ home with nextTag := desk.nextTag }.asking request] }

/-- An agent that begins with a session, and its first action. -/
def begin (home : Endpoint) (session : Session) : AgentDesk :=
  act home { session, nextTag := home.nextTag, waits := .request }

/-- Answers a request of the device. -/
def answer (desk : AgentDesk) (request : Incoming) : Except UpdateError Unit × AgentDesk :=
  match desk.session.handleRequest request.data with
  | (.error error, session) => (.error error, { desk with session })
  | (.ok response, session) =>
    (.ok (), { desk with session, sent := desk.sent ++ [request.answeredBy response] })

/-- What follows the response to a command. -/
def conclude (home : Endpoint) (desk : AgentDesk) (command : AgentCommand) (cc : CompletionCode) :
    AgentDesk :=
  if cc.isSuccess then desk.act home
  else if AgentRun.mayRetry desk.session command cc desk.retries then
    { desk with retries := desk.retries + 1 }.act home
  else desk.stop (.refused command.command cc)

/-- Takes a message of the peer that comes while the response to a command is awaited. -/
def takeReply (home : Endpoint) (desk : AgentDesk) (command : AgentCommand) (message : Incoming) :
    AgentDesk :=
  match desk.session.process message.data with
  | (.error (.unexpectedResponse _), session) => { desk with session }
  | (.error error, session) => { desk with session }.stop error
  | (.ok cc, session) => { desk with session }.conclude home command cc

/-- Takes a message. -/
def take (home : Endpoint) (desk : AgentDesk) (message : Incoming) : AgentDesk :=
  if message.source = home.peer then
    match desk.waits with
    | .nothing _ => desk
    | .request =>
      if message.isRequest then
        match desk.answer message with
        | (.error error, desk) => desk.stop error
        | (.ok (), desk) => desk.act home
      else desk
    | .response command tag =>
      if message.isRequest then
        match desk.answer message with
        | (.error error, desk) => desk.stop error
        | (.ok (), desk) => desk
      else if message.tag = tag.reply then desk.takeReply home command message
      else desk
  else desk

section

variable {home : Endpoint} {desk after : AgentDesk} {message : Incoming}

/-- An agent that awaits an answer is busy. -/
theorem Busy.of_response {command : AgentCommand} {tag : Tag}
    (waits : desk.waits = .response command tag) : desk.Busy := by
  intro result ended
  rw [waits] at ended
  cases ended

/-- An agent that awaits a request is busy. -/
theorem Busy.of_request (waits : desk.waits = .request) : desk.Busy := by
  intro result ended
  rw [waits] at ended
  cases ended

/-- An agent that is still busy when the messages end has timed out. -/
theorem Busy.outcome (busy : desk.Busy) :
    desk.outcome = .error (.channel .receiveTimeout) := by
  unfold AgentDesk.outcome
  cases waits : desk.waits with
  | nothing result => exact absurd waits (busy result)
  | _ => rfl

/-- An action is no repetition by itself. -/
theorem act_retries (desk : AgentDesk) : (desk.act home).retries = desk.retries := by
  unfold act
  split
  · rfl
  · rfl
  · split <;> rfl

/-- A session that has finished leaves nothing to wait for. -/
theorem act_of_finished (action : desk.session.nextAction = .finished) :
    desk.act home = { desk with waits := .nothing (AgentRun.verdict desk.session) } := by
  rw [act, action]

/-- A session that waits for the device leaves the agent waiting for a request. -/
theorem act_of_awaitRequest (action : desk.session.nextAction = .awaitRequest) :
    desk.act home = { desk with waits := .request } := by
  rw [act, action]

/-- A session that wants a command issued has it sent under the next tag, or stops the agent. -/
theorem act_of_issue {command : AgentCommand}
    (action : desk.session.nextAction = .issue command) :
    desk.act home =
      match desk.session.issue command with
      | (.error error, session) => { desk with session }.stop error
      | (.ok request, session) =>
        { desk with
          session
          nextTag := (desk.nextTag + 1) &&& maxTag
          waits := .response command { number := desk.nextTag, owned := true }
          sent := desk.sent ++ [{ home with nextTag := desk.nextTag }.asking request] } := by
  rw [act, action]

/-- A message from anyone but the peer changes nothing. -/
theorem take_of_foreign (foreign : message.source ≠ home.peer) : desk.take home message = desk :=
  if_neg foreign

section

variable {command : AgentCommand} {tag : Tag} (waits : desk.waits = .response command tag)
  (known : message.source = home.peer)

include waits known

/-- A request that comes while a response is awaited. -/
theorem take_of_request (request : message.isRequest = true) :
    desk.take home message =
      match desk.answer message with
      | (.error error, desk) => desk.stop error
      | (.ok (), desk) => desk := by
  rw [take, if_pos known, waits]
  exact if_pos request

/-- The response that is awaited, to all appearances. -/
theorem take_of_reply (reply : message.isRequest = false) (number : message.tag = tag.reply) :
    desk.take home message = desk.takeReply home command message := by
  rw [take, if_pos known, waits]
  dsimp only
  rw [reply, if_neg Bool.false_ne_true, if_pos number]

/-- A response that is not awaited changes nothing. -/
theorem take_of_stray (reply : message.isRequest = false) (number : message.tag ≠ tag.reply) :
    desk.take home message = desk := by
  rw [take, if_pos known, waits]
  dsimp only
  rw [reply, if_neg Bool.false_ne_true, if_neg number]

end

section

variable (waits : desk.waits = .request)

include waits

/-- A request that is awaited. -/
theorem take_of_awaited (known : message.source = home.peer)
    (request : message.isRequest = true) :
    desk.take home message =
      match desk.answer message with
      | (.error error, desk) => desk.stop error
      | (.ok (), desk) => desk.act home := by
  rw [take, if_pos known, waits]
  exact if_pos request

/-- A response that comes while a request is awaited changes nothing. -/
theorem take_of_late (reply : message.isRequest = false) : desk.take home message = desk := by
  rw [take, waits]
  dsimp only
  rw [reply, if_neg Bool.false_ne_true]
  exact ite_self _

end

/-- To answer is not to stop waiting. -/
theorem answer_keeps (desk : AgentDesk) (request : Incoming) :
    (desk.answer request).2.waits = desk.waits ∧
      (desk.answer request).2.retries = desk.retries := by
  unfold answer
  split <;> exact ⟨rfl, rfl⟩

/-- After the end messages change nothing. -/
theorem take_of_ended {result : Except UpdateError Unit} (ended : desk.waits = .nothing result) :
    desk.take home message = desk := by
  unfold take
  rw [ended]
  exact ite_self _

/-- An agent that has ended reads nothing more. -/
theorem foldl_take_of_ended {result : Except UpdateError Unit}
    (ended : desk.waits = .nothing result) (messages : List Incoming) :
    messages.foldl (take home) desk = desk := by
  induction messages with
  | nil => rfl
  | cons message rest ih => rw [List.foldl_cons, take_of_ended ended, ih]

/-- Only the messages of the peer matter. -/
theorem foldl_take_filter (desk : AgentDesk) (messages : List Incoming) :
    (messages.filter (·.source = home.peer)).foldl (take home) desk =
      messages.foldl (take home) desk := by
  induction messages generalizing desk with
  | nil => rfl
  | cons message rest ih =>
      rw [List.filter_cons, List.foldl_cons]
      by_cases known : message.source = home.peer
      · rw [if_pos (decide_eq_true known), List.foldl_cons, ih]
      · rw [if_neg (by simpa using known), ih, take_of_foreign known]

/-! ## Correspondences -/

/-- The agent reads messages one after the other, and has not ended before the last of them. -/
inductive Reads (home : Endpoint) : AgentDesk → List Incoming → AgentDesk → Prop where
  | nothing (desk : AgentDesk) : Reads home desk [] desk
  | one {desk after : AgentDesk} {message : Incoming} {rest : List Incoming} (busy : desk.Busy)
      (reads : Reads home (desk.take home message) rest after) :
      Reads home desk (message :: rest) after

/-- What is read first and what is read then is read in one go. -/
theorem Reads.trans {middle : AgentDesk} {first second : List Incoming}
    (reads : Reads home desk first middle) (further : Reads home middle second after) :
    Reads home desk (first ++ second) after := by
  induction reads with
  | nothing => exact further
  | one busy _ ih => exact .one busy (ih further)

/-- An agent that has read some messages is where taking them one by one leads. -/
theorem Reads.foldl {messages : List Incoming} (reads : Reads home desk messages after) :
    messages.foldl (take home) desk = after := by
  induction reads with
  | nothing => rfl
  | one _ _ ih => exact ih

/-! ## Every request of the peer is answered -/

/-- What is sent between two moments: one answer to each of some requests, and requests. -/
def Corresponds (desk : AgentDesk) (requests : List Incoming) (after : AgentDesk) : Prop :=
  ∃ messages, after.sent = desk.sent ++ messages ∧
    List.Forall₂ (fun request message => Message.Answers message request) requests
      (messages.filter (!·.tag.owned))

/-- Nothing read, nothing sent. -/
theorem Corresponds.refl (desk : AgentDesk) : desk.Corresponds [] desk :=
  ⟨[], (List.append_nil _).symm, .nil⟩

/-- An agent that has sent nothing more has answered nothing. -/
theorem Corresponds.of_sent (same : after.sent = desk.sent) : desk.Corresponds [] after :=
  ⟨[], same.trans (List.append_nil _).symm, .nil⟩

/-- The answers to what is read first come before those to what is read then. -/
theorem Corresponds.trans {middle : AgentDesk} {first second : List Incoming}
    (corresponds : desk.Corresponds first middle) (further : middle.Corresponds second after) :
    desk.Corresponds (first ++ second) after := by
  obtain ⟨messages, sent, answered⟩ := corresponds
  obtain ⟨others, more, rest⟩ := further
  refine ⟨messages ++ others, by rw [more, sent, List.append_assoc], ?_⟩
  rw [List.filter_append]
  exact List.rel_append answered rest

/-- An action sends requests only. -/
theorem act_corresponds (desk : AgentDesk) : desk.Corresponds [] (desk.act home) := by
  unfold act
  split
  · exact .of_sent rfl
  · exact .of_sent rfl
  · split
    · exact .of_sent rfl
    · exact ⟨_, rfl, .nil⟩

/-- An agent that begins answers nothing: what it sends are commands. -/
theorem begin_corresponds (home : Endpoint) (session : Session) :
    Corresponds { session, nextTag := home.nextTag, waits := .request } [] (begin home session) :=
  act_corresponds _

/-- The end of a command answers nothing. -/
theorem conclude_corresponds (desk : AgentDesk) (command : AgentCommand) (cc : CompletionCode) :
    desk.Corresponds [] (desk.conclude home command cc) := by
  unfold conclude
  split
  · exact act_corresponds desk
  · split
    · exact act_corresponds { desk with retries := desk.retries + 1 }
    · exact .of_sent rfl

/-- A message taken as a reply is answered with nothing. -/
theorem takeReply_corresponds (desk : AgentDesk) (command : AgentCommand) (message : Incoming) :
    desk.Corresponds [] (desk.takeReply home command message) := by
  unfold takeReply
  split
  · exact .of_sent rfl
  · exact .of_sent rfl
  · rename_i cc session _
    exact conclude_corresponds { desk with session } command cc

/-- A request that can be read is answered with one message, any other with an error. -/
theorem answer_cases (desk : AgentDesk) (request : Incoming) :
    (∃ asked after, Request.parse request.data = .ok asked ∧ desk.answer request = (.ok (), after) ∧
        desk.Corresponds [request] after) ∨
      ∃ fault, Request.parse request.data = .error fault ∧
        desk.answer request = (.error (.codec fault), desk) := by
  cases parsed : Request.parse request.data with
  | error fault =>
      refine .inr ⟨fault, rfl, ?_⟩
      unfold answer Session.handleRequest
      rw [parsed]
  | ok asked =>
      have served := desk.session.handleRequest_of_parse parsed
      refine .inl ⟨asked, _, rfl, by unfold answer; rw [served], ?_⟩
      refine ⟨_, rfl, .cons ⟨rfl, rfl, rfl, rfl, rfl, ?_⟩ .nil⟩
      unfold Session.responseOf
      split <;> exact ⟨asked, _, _, parsed, rfl⟩

/-- A message is answered if it is a request of the peer that can be read. -/
theorem take_corresponds (busy : desk.Busy) (message : Incoming) :
    desk.Corresponds ([message].filter (·.asks home.peer)) (desk.take home message) := by
  have answered (known : message.source = home.peer) {asked : Request}
      (parsed : Request.parse message.data = .ok asked) :
      [message].filter (·.asks home.peer) = [message] := by
    simp [Incoming.asks_of_parse known parsed]
  have unanswered (silent : ∀ asked, message.source = home.peer →
      Request.parse message.data ≠ .ok asked) : [message].filter (·.asks home.peer) = [] := by
    simp [Incoming.not_asks silent]
  unfold take
  split
  · rename_i known
    cases waits : desk.waits with
    | nothing result => exact absurd waits (busy result)
    | request =>
        dsimp only
        split
        · rcases answer_cases desk message with
            ⟨asked, served, parsed, eq, corresponds⟩ | ⟨fault, unread, eq⟩
          · rw [eq, answered known parsed]
            exact corresponds.trans (act_corresponds served)
          · rw [eq, unanswered fun asked _ => by simp [unread]]
            exact .of_sent rfl
        · rename_i reply
          rw [unanswered fun asked _ parsed => reply (isRequest_of_parse parsed)]
          exact .refl desk
    | response command tag =>
        dsimp only
        split
        · rcases answer_cases desk message with
            ⟨asked, served, parsed, eq, corresponds⟩ | ⟨fault, unread, eq⟩
          · rw [eq, answered known parsed]
            exact corresponds
          · rw [eq, unanswered fun asked _ => by simp [unread]]
            exact .of_sent rfl
        · rename_i reply
          rw [unanswered fun asked _ parsed => reply (isRequest_of_parse parsed)]
          split
          · exact takeReply_corresponds desk command message
          · exact .refl desk
  · rename_i foreign
    rw [unanswered fun asked known => absurd known foreign]
    exact .refl desk

/-- An agent that reads messages answers the requests of the peer among them, each of them once and
in their order. -/
theorem Reads.corresponds {messages : List Incoming} (reads : Reads home desk messages after) :
    desk.Corresponds (messages.filter (·.asks home.peer)) after := by
  induction reads with
  | nothing desk => exact .refl desk
  | @one _ _ message rest busy _ ih =>
      rw [← List.singleton_append, List.filter_append]
      exact (take_corresponds busy message).trans ih

end

end AgentDesk

end FirmwareUpdate
