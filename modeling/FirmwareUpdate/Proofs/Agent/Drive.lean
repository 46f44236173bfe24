import FirmwareUpdate.Proofs.Agent.Responses
import FirmwareUpdate.Proofs.Channel.Supply
import FirmwareUpdate.Run.Agent

/-!
# What an agent does with its session

The procedures that run an agent are written once more, with a log of the requests that are
sent, of the messages with which waits for a response end, and of the requests of the device
that are answered. Without the log they are the same. `Serving` and `Exchanges` say what one
action does to the session, whatever the link delivers and when it fails.
-/

namespace FirmwareUpdate

open Wire

/-- Something that an agent does with its session. -/
inductive AgentEvent where
  /-- The request of a command is handed to the endpoint. -/
  | sent (command : AgentCommand) (request : List UInt8)
  /-- The wait for the response to a command ends with a message. -/
  | replied (command : AgentCommand) (message : List UInt8)
  /-- A request of the device is answered. -/
  | served (request : Incoming) (answer : List UInt8)
deriving DecidableEq

namespace AgentRun

variable {σ : Type}

/-! ## Procedures with a log -/

/-- What is done with a request. -/
def answerEvents (run : AgentRun σ) (request : Incoming) : List AgentEvent :=
  if request.source = run.endpoint.peer then
    match (run.session.handleRequest request.data).1 with
    | .error _ => []
    | .ok response => [.served request response]
  else []

/-- Waits for the response to the request of a command. -/
def awaitResponseLogged (link : Link σ) (patience : Nat) (command : AgentCommand) (tag : Tag) :
    (messages : Nat) → Deadline → AgentRun σ →
      (Except UpdateError CompletionCode × AgentRun σ) × List AgentEvent
  | 0, _, run => ((.error (.channel .receiveTimeout), run), [])
  | messages + 1, deadline, run =>
    match run.next link patience deadline with
    | (.error error, _, run) => ((.error error, run), [])
    | (.ok message, deadline, run) =>
      if message.isRequest then
        match run.answer link message with
        | (.error error, after) => ((.error error, after), run.answerEvents message)
        | (.ok (), after) =>
          let rest := awaitResponseLogged link patience command tag messages deadline after
          (rest.1, run.answerEvents message ++ rest.2)
      else if run.isResponseTo tag message then
        match run.session.process message.data with
        | (.error (.unexpectedResponse _), session) =>
          awaitResponseLogged link patience command tag messages deadline { run with session }
        | (answer, session) =>
          ((answer, { run with session }), [.replied command message.data])
      else awaitResponseLogged link patience command tag messages deadline run

/-- Issues a command and waits for its response. -/
def exchangeLogged (run : AgentRun σ) (link : Link σ) (patience : Nat) (command : AgentCommand) :
    (Except UpdateError CompletionCode × AgentRun σ) × List AgentEvent :=
  match run.session.issue command with
  | (.error error, session) => ((.error error, { run with session }), [])
  | (.ok request, session) =>
    match run.endpoint.sendRequest link request run.medium with
    | (.error error, endpoint, medium) =>
      ((.error error, { session, endpoint, medium }), [.sent command request])
    | (.ok tag, endpoint, medium) =>
      let run : AgentRun σ := { session, endpoint, medium }
      let rest := awaitResponseLogged link patience command tag patience (run.deadline link) run
      (rest.1, .sent command request :: rest.2)

/-- Waits for one request and answers it. -/
def awaitRequestLogged (link : Link σ) (patience : Nat) :
    (messages : Nat) → Deadline → AgentRun σ →
      (Except UpdateError Unit × AgentRun σ) × List AgentEvent
  | 0, _, run => ((.error (.channel .receiveTimeout), run), [])
  | messages + 1, deadline, run =>
    match run.next link patience deadline with
    | (.error error, _, run) => ((.error error, run), [])
    | (.ok message, deadline, run) =>
      if message.isRequest then (run.answer link message, run.answerEvents message)
      else awaitRequestLogged link patience messages deadline run

/-- Takes at most `actions` actions of the session. -/
def runActionsLogged (link : Link σ) (patience : Nat) :
    (actions retries : Nat) → AgentRun σ →
      (Except UpdateError Unit × AgentRun σ) × List AgentEvent
  | 0, _, run => ((.error (.channel .receiveTimeout), run), [])
  | actions + 1, retries, run =>
    match run.session.nextAction with
    | .finished => ((verdict run.session, run), [])
    | .awaitRequest =>
      match awaitRequestLogged link patience patience (run.deadline link) run with
      | ((.error error, run), events) => ((.error error, run), events)
      | ((.ok (), run), events) =>
        let rest := runActionsLogged link patience actions retries run
        (rest.1, events ++ rest.2)
    | .issue command =>
      match run.exchangeLogged link patience command with
      | ((.error error, run), events) => ((.error error, run), events)
      | ((.ok cc, run), events) =>
        if cc.isSuccess then
          let rest := runActionsLogged link patience actions retries run
          (rest.1, events ++ rest.2)
        else if mayRetry run.session command cc retries then
          let rest := runActionsLogged link patience actions (retries + 1) run
          (rest.1, events ++ rest.2)
        else ((.error (.refused command.command cc), run), events)

/-- What is done until the session has finished. -/
def log (run : AgentRun σ) (link : Link σ) (patience : Nat) : List AgentEvent :=
  (runActionsLogged link patience patience 0 run).2

/-! ## Without the log -/

/-- The log of a wait for a response changes nothing about the wait. -/
theorem awaitResponseLogged_fst (link : Link σ) (patience : Nat) (command : AgentCommand)
    (tag : Tag) (messages : Nat) (deadline : Deadline) (run : AgentRun σ) :
    (awaitResponseLogged link patience command tag messages deadline run).1 =
      awaitResponse link patience tag messages deadline run := by
  induction messages generalizing deadline run with
  | zero => rfl
  | succ messages ih =>
      unfold awaitResponseLogged awaitResponse
      cases run.next link patience deadline with
      | mk arrived rest =>
          obtain ⟨deadline, run⟩ := rest
          cases arrived with
          | error error => rfl
          | ok message =>
              dsimp only
              split
              · cases run.answer link message with
                | mk sent after =>
                    cases sent with
                    | error error => rfl
                    | ok done => exact ih deadline after
              · split
                · cases run.session.process message.data with
                  | mk answer session =>
                      cases answer with
                      | ok cc => rfl
                      | error error =>
                          cases error with
                          | unexpectedResponse fault => exact ih deadline { run with session }
                          | _ => rfl
                · exact ih deadline run

/-- The log of an exchange changes nothing about the exchange. -/
theorem exchangeLogged_fst (run : AgentRun σ) (link : Link σ) (patience : Nat)
    (command : AgentCommand) :
    (run.exchangeLogged link patience command).1 = run.exchange link patience command := by
  unfold exchangeLogged exchange
  cases run.session.issue command with
  | mk written session =>
      cases written with
      | error error => rfl
      | ok request =>
          dsimp only
          cases run.endpoint.sendRequest link request run.medium with
          | mk sent rest =>
              cases sent with
              | error error => rfl
              | ok tag => exact awaitResponseLogged_fst ..

/-- The log of a wait for a request changes nothing about the wait. -/
theorem awaitRequestLogged_fst (link : Link σ) (patience messages : Nat) (deadline : Deadline)
    (run : AgentRun σ) :
    (awaitRequestLogged link patience messages deadline run).1 =
      awaitRequest link patience messages deadline run := by
  induction messages generalizing deadline run with
  | zero => rfl
  | succ messages ih =>
      unfold awaitRequestLogged awaitRequest
      cases run.next link patience deadline with
      | mk arrived rest =>
          obtain ⟨deadline, run⟩ := rest
          cases arrived with
          | error error => rfl
          | ok message =>
              dsimp only
              split
              · rfl
              · exact ih deadline run

/-- The log of a run changes nothing about the run. -/
theorem runActionsLogged_fst (link : Link σ) (patience actions retries : Nat) (run : AgentRun σ) :
    (runActionsLogged link patience actions retries run).1 =
      runActions link patience actions retries run := by
  induction actions generalizing retries run with
  | zero => rfl
  | succ actions ih =>
      unfold runActionsLogged runActions
      cases run.session.nextAction with
      | finished => rfl
      | awaitRequest =>
          dsimp only [serveNext]
          rw [← awaitRequestLogged_fst]
          split <;> rename_i served <;> rw [served]
          exact ih ..
      | issue command =>
          dsimp only
          rw [← exchangeLogged_fst]
          split <;> rename_i exchanged <;> rw [exchanged]
          dsimp only
          split
          · exact ih ..
          · split
            · exact ih ..
            · rfl

/-- The log belongs to the run. -/
theorem runSession_eq (run : AgentRun σ) (link : Link σ) (patience : Nat) :
    run.runSession link patience = (runActionsLogged link patience patience 0 run).1 :=
  (runActionsLogged_fst ..).symm

end AgentRun

/-! ## What one action does to the session -/

namespace Session

variable {first session after : Session}

/-- The session answers requests of the device, one after the other. -/
inductive Serving (first : Session) : List AgentEvent → Session → Prop where
  | idle : Serving first [] first
  | served {events : List AgentEvent} {session : Session} {message : Incoming}
      {answer : List UInt8} (serving : Serving first events session)
      (answered : (session.handleRequest message.data).1 = .ok answer) :
      Serving first (events ++ [.served message answer]) (session.handleRequest message.data).2

/-- Requests served one after the other are requests served. -/
theorem Serving.trans {events later : List AgentEvent} (serving : first.Serving events session)
    (further : session.Serving later after) : first.Serving (events ++ later) after := by
  induction further with
  | idle => rwa [List.append_nil]
  | served further answered ih =>
      rw [← List.append_assoc]
      exact .served ih answered

/-- What the exchange of a command comes to: it cannot be issued, no response is taken, or one
message is the last that the session processes. -/
inductive Exchanges (first : Session) (command : AgentCommand) :
    List AgentEvent → Except UpdateError CompletionCode → Session → Prop where
  | refused {error : UpdateError} (refusal : (first.issue command).1 = .error error) :
      Exchanges first command [] (.error error) (first.issue command).2
  | unanswered {request : List UInt8} {events : List AgentEvent} {waiting : Session}
      (made : (first.issue command).1 = .ok request)
      (serving : Serving (first.issue command).2 events waiting) (error : UpdateError) :
      Exchanges first command (.sent command request :: events) (.error error) waiting
  | replied {request message : List UInt8} {events : List AgentEvent} {waiting : Session}
      (made : (first.issue command).1 = .ok request)
      (serving : Serving (first.issue command).2 events waiting) :
      Exchanges first command
        (.sent command request :: (events ++ [.replied command message]))
        (waiting.process message).1 (waiting.process message).2

/-- A message that is no request changes nothing. -/
theorem handleRequest_of_error {message : List UInt8} {error : UpdateError}
    (refused : (session.handleRequest message).1 = .error error) :
    (session.handleRequest message).2 = session := by
  cases parsed : Request.parse message with
  | error _ => rw [handleRequest, parsed]
  | ok request =>
      rw [handleRequest_of_parse session parsed] at refused
      cases refused

/-- The body of a response is never taken for a response to something else. -/
theorem apply_expected (session : Session) (command : AgentCommand) (body : List UInt8)
    (fault : UnexpectedResponse) :
    (session.apply command body).1 ≠ .error (.unexpectedResponse fault) := by
  have updates (response : UpdateResponse) :
      (session.beginUpdate response).1 ≠ .error (.unexpectedResponse fault) := by
    unfold beginUpdate
    dsimp only
    split <;> nofun
  have portions (response : PartResponse) :
      (session.acceptMetadata response).1 ≠ .error (.unexpectedResponse fault) := by
    unfold acceptMetadata
    split <;> nofun
  have components (response : ComponentResponse) :
      (session.beginComponent response).1 ≠ .error (.unexpectedResponse fault) := by
    unfold beginComponent
    split
    · nofun
    · split <;> nofun
  cases command <;> unfold apply <;> dsimp only <;> (try split)
  all_goals first | exact updates _ | exact portions _ | exact components _ | rintro ⟨⟩

/-- A response that is not expected changes nothing. -/
theorem process_unexpected {message : List UInt8} {fault : UnexpectedResponse}
    (unexpected : (session.process message).1 = .error (.unexpectedResponse fault)) :
    (session.process message).2 = session := by
  rcases session.process_cases message with ⟨error, refused⟩ | ⟨command, response, -, taken⟩
  · rw [refused]
  · rw [taken] at unexpected
    unfold processMatching at unexpected
    dsimp only at unexpected
    split at unexpected
    · have expected := apply_expected (session.coded response.cc) command response.data fault
      split at unexpected
      · cases unexpected
      · cases unexpected
      · rename_i failed
        unfold coded at expected
        rw [failed] at expected
        exact absurd (congrArg Except.error (Except.error.inj unexpected)) expected
    · unfold processFailure at unexpected
      split at unexpected <;> cases unexpected

end Session

namespace AgentRun

variable {σ : Type} {link : Link σ} {patience : Nat}

/-- How a wait for the response to a command goes, message by message. -/
inductive Waits (link : Link σ) (patience : Nat) (command : AgentCommand) : AgentRun σ →
    (Except UpdateError CompletionCode × AgentRun σ) × List AgentEvent → Prop where
  /-- Enough messages have come. -/
  | enough (run : AgentRun σ) (error : UpdateError) :
      Waits link patience command run ((.error error, run), [])
  /-- No message comes. -/
  | silent {run after : AgentRun σ} {deadline later : Deadline} {error : UpdateError}
      (arrived : run.next link patience deadline = (.error error, later, after)) :
      Waits link patience command run ((.error error, after), [])
  /-- A request comes that cannot be answered. -/
  | unanswered {run before after : AgentRun σ} {deadline later : Deadline} {message : Incoming}
      {error : UpdateError}
      (arrived : run.next link patience deadline = (.ok message, later, before))
      (failed : before.answer link message = (.error error, after)) :
      Waits link patience command run ((.error error, after), before.answerEvents message)
  /-- A request comes and is answered, or passed over. -/
  | answered {run before after : AgentRun σ} {deadline later : Deadline} {message : Incoming}
      {ended : (Except UpdateError CompletionCode × AgentRun σ) × List AgentEvent}
      (arrived : run.next link patience deadline = (.ok message, later, before))
      (answered : before.answer link message = (.ok (), after))
      (rest : Waits link patience command after ended) :
      Waits link patience command run (ended.1, before.answerEvents message ++ ended.2)
  /-- A message comes that is no response to the command. -/
  | stray {run before : AgentRun σ} {deadline later : Deadline} {message : Incoming}
      {ended : (Except UpdateError CompletionCode × AgentRun σ) × List AgentEvent}
      (arrived : run.next link patience deadline = (.ok message, later, before))
      (rest : Waits link patience command before ended) :
      Waits link patience command run ended
  /-- A message comes that is taken for the response. -/
  | replied {run before : AgentRun σ} {deadline later : Deadline} {message : Incoming}
      (arrived : run.next link patience deadline = (.ok message, later, before)) :
      Waits link patience command run
        (((before.session.process message.data).1,
            { before with session := (before.session.process message.data).2 }),
          [.replied command message.data])

/-- The wait for a response goes as `Waits` says, by induction on how many messages may come. -/
theorem awaitResponseLogged_waits (command : AgentCommand) (tag : Tag) (messages : Nat)
    (deadline : Deadline) (run : AgentRun σ) :
    Waits link patience command run
      (awaitResponseLogged link patience command tag messages deadline run) := by
  induction messages generalizing deadline run with
  | zero => exact .enough ..
  | succ messages ih =>
      unfold awaitResponseLogged
      cases arrived : run.next link patience deadline with
      | mk arrival rest =>
          obtain ⟨deadline, before⟩ := rest
          cases arrival with
          | error error => exact .silent arrived
          | ok message =>
              dsimp only
              split
              · cases answered : before.answer link message with
                | mk sent after =>
                    cases sent with
                    | error error => exact .unanswered arrived answered
                    | ok done => exact .answered arrived answered (ih deadline after)
              · split
                · have replied := @Waits.replied _ link patience command _ _ _ _ _ arrived
                  cases processed : before.session.process message.data with
                  | mk answer session =>
                      rw [processed] at replied
                      cases answer with
                      | ok cc => exact replied
                      | error error =>
                          cases error with
                          | unexpectedResponse fault =>
                              have left := @Session.process_unexpected before.session message.data
                                fault (by rw [processed])
                              rw [processed] at left
                              subst left
                              exact .stray arrived (ih deadline before)
                          | _ => exact replied
                · exact .stray arrived (ih deadline before)

/-- How a wait for a request goes, message by message. -/
inductive Attends (link : Link σ) (patience : Nat) : AgentRun σ →
    (Except UpdateError Unit × AgentRun σ) × List AgentEvent → Prop where
  /-- Enough messages have come. -/
  | enough (run : AgentRun σ) (error : UpdateError) :
      Attends link patience run ((.error error, run), [])
  /-- No message comes. -/
  | silent {run after : AgentRun σ} {deadline later : Deadline} {error : UpdateError}
      (arrived : run.next link patience deadline = (.error error, later, after)) :
      Attends link patience run ((.error error, after), [])
  /-- A request comes. -/
  | answered {run before : AgentRun σ} {deadline later : Deadline} {message : Incoming}
      (arrived : run.next link patience deadline = (.ok message, later, before)) :
      Attends link patience run (before.answer link message, before.answerEvents message)
  /-- A message comes that is no request. -/
  | stray {run before : AgentRun σ} {deadline later : Deadline} {message : Incoming}
      {ended : (Except UpdateError Unit × AgentRun σ) × List AgentEvent}
      (arrived : run.next link patience deadline = (.ok message, later, before))
      (rest : Attends link patience before ended) :
      Attends link patience run ended

/-- The wait for a request goes as `Attends` says, by the same induction. -/
theorem awaitRequestLogged_attends (messages : Nat) (deadline : Deadline) (run : AgentRun σ) :
    Attends link patience run (awaitRequestLogged link patience messages deadline run) := by
  induction messages generalizing deadline run with
  | zero => exact .enough ..
  | succ messages ih =>
      unfold awaitRequestLogged
      cases arrived : run.next link patience deadline with
      | mk arrival rest =>
          obtain ⟨deadline, before⟩ := rest
          cases arrival with
          | error error => exact .silent arrived
          | ok message =>
              dsimp only
              split
              · exact .answered arrived
              · exact .stray arrived (ih deadline before)

/-! ## Every action answers requests, and takes at most one response -/

/-- A wait for a message leaves the session alone. -/
theorem next_session {run after : AgentRun σ} {deadline later : Deadline}
    {arrival : Except UpdateError Incoming}
    (arrived : run.next link patience deadline = (arrival, later, after)) :
    after.session = run.session := by
  have left : (run.next link patience deadline).2.2.session = run.session := by
    unfold next
    split <;> rfl
  rwa [arrived] at left

/-- A request is answered or passed over. -/
theorem answer_serving (run : AgentRun σ) (request : Incoming) :
    run.session.Serving (run.answerEvents request) (run.answer link request).2.session := by
  unfold answerEvents answer
  split
  · cases handled : run.session.handleRequest request.data with
    | mk answer session =>
        have answered : (run.session.handleRequest request.data).1 = answer := by rw [handled]
        have left : (run.session.handleRequest request.data).2 = session := by rw [handled]
        cases answer with
        | error error =>
            rw [Session.handleRequest_of_error answered] at left
            exact left ▸ .idle
        | ok response =>
            have serving := Session.Serving.idle.served answered
            rw [left] at serving
            exact serving
  · exact .idle

/-- While a response is awaited requests are answered, and at most one message is processed. -/
theorem Waits.replies {command : AgentCommand} {run : AgentRun σ}
    {ended : (Except UpdateError CompletionCode × AgentRun σ) × List AgentEvent}
    (waits : Waits link patience command run ended) :
    (∃ error, ended.1.1 = .error error ∧ run.session.Serving ended.2 ended.1.2.session) ∨
    ∃ events waiting message, run.session.Serving events waiting ∧
      ended.2 = events ++ [.replied command message] ∧
      ended.1.1 = (waiting.process message).1 ∧
      ended.1.2.session = (waiting.process message).2 := by
  induction waits with
  | enough => exact .inl ⟨_, rfl, .idle⟩
  | silent arrived => exact .inl ⟨_, rfl, next_session arrived ▸ .idle⟩
  | @unanswered _ before _ _ _ message _ arrived failed =>
      have serving := @answer_serving _ link before message
      rw [next_session arrived, failed] at serving
      exact .inl ⟨_, rfl, serving⟩
  | @answered _ before _ _ _ message _ arrived answered _ ih =>
      have serving := @answer_serving _ link before message
      rw [next_session arrived, answered] at serving
      rcases ih with ⟨error, failed, further⟩ | ⟨events, waiting, last, further, logged, rest⟩
      · exact .inl ⟨error, failed, serving.trans further⟩
      · exact .inr ⟨_, waiting, last, serving.trans further,
          by dsimp only; rw [logged, List.append_assoc], rest⟩
  | stray arrived _ ih => exact next_session arrived ▸ ih
  | @replied _ before _ _ message arrived =>
      exact .inr ⟨[], before.session, message.data, next_session arrived ▸ .idle, rfl, rfl, rfl⟩

/-- A wait for a request does nothing to the session but serve requests. -/
theorem Attends.serving {run : AgentRun σ}
    {ended : (Except UpdateError Unit × AgentRun σ) × List AgentEvent}
    (attends : Attends link patience run ended) :
    run.session.Serving ended.2 ended.1.2.session := by
  induction attends with
  | enough => exact .idle
  | silent arrived => exact next_session arrived ▸ .idle
  | answered arrived => exact next_session arrived ▸ answer_serving ..
  | stray arrived _ ih => exact next_session arrived ▸ ih

/-- An exchange sends one request, serves what comes in between, and takes one reply or fails. -/
theorem exchangeLogged_exchanges (run : AgentRun σ) (command : AgentCommand) :
    let ended := run.exchangeLogged link patience command
    run.session.Exchanges command ended.2 ended.1.1 ended.1.2.session := by
  unfold exchangeLogged
  cases issued : run.session.issue command with
  | mk written session =>
      have written_eq : (run.session.issue command).1 = written := by rw [issued]
      have left : (run.session.issue command).2 = session := by rw [issued]
      subst left
      cases written with
      | error error => exact .refused written_eq
      | ok request =>
          dsimp only
          cases run.endpoint.sendRequest link request run.medium with
          | mk sent rest =>
              obtain ⟨endpoint, medium⟩ := rest
              cases sent with
              | error error => exact .unanswered written_eq .idle error
              | ok tag =>
                  let waiting : AgentRun σ :=
                    { session := (run.session.issue command).2, endpoint, medium }
                  rcases (@awaitResponseLogged_waits _ link patience command tag patience
                    (waiting.deadline link) waiting).replies with ⟨error, failed, serving⟩ |
                      ⟨events, answering, message, serving, logged, result, left⟩
                  · dsimp only
                    rw [failed]
                    exact .unanswered written_eq serving error
                  · dsimp only
                    rw [logged, result, left]
                    exact .replied written_eq serving

/-! ## Every action uses up packets -/

section

variable {supply : σ → Nat} (supplied : link.Supplied supply)

include supplied

/-- A message that comes has used up packets. -/
theorem next_supply {run after : AgentRun σ} {deadline later : Deadline} {message : Incoming}
    (arrived : run.next link patience deadline = (.ok message, later, after)) :
    supply after.medium < supply run.medium := by
  have used : ∀ message, (run.next link patience deadline).1 = .ok message →
      supply (run.next link patience deadline).2.2.medium < supply run.medium := by
    unfold next
    split
    · exact nofun
    · exact (supplied.receiveUntil ..).2
  rw [arrived] at used
  exact used message rfl

/-- An answer takes nothing from the link. -/
theorem answer_supply (run : AgentRun σ) (request : Incoming) :
    supply (run.answer link request).2.medium ≤ supply run.medium := by
  unfold answer
  split
  · split
    · exact Nat.le_refl _
    · exact supplied.sendResponse ..
  · exact Nat.le_refl _

/-- A wait for a response that ends with one has received it. -/
theorem Waits.uses {command : AgentCommand} {run : AgentRun σ}
    {ended : (Except UpdateError CompletionCode × AgentRun σ) × List AgentEvent}
    (waits : Waits link patience command run ended) {cc : CompletionCode}
    (taken : ended.1.1 = .ok cc) : supply ended.1.2.medium < supply run.medium := by
  induction waits with
  | enough | silent | unanswered => cases taken
  | @answered _ before _ _ _ message _ arrived answered _ ih =>
      have kept := answer_supply supplied before message
      rw [answered] at kept
      exact Nat.lt_trans (Nat.lt_of_lt_of_le (ih taken) kept) (next_supply supplied arrived)
  | stray arrived _ ih => exact Nat.lt_trans (ih taken) (next_supply supplied arrived)
  | replied arrived =>
      have less := next_supply supplied arrived
      exact less

/-- An exchange that succeeds has used up a message of the link. -/
theorem exchangeLogged_supply (run : AgentRun σ) (command : AgentCommand) {cc : CompletionCode}
    (taken : (run.exchangeLogged link patience command).1.1 = .ok cc) :
    supply (run.exchangeLogged link patience command).1.2.medium < supply run.medium := by
  unfold exchangeLogged at taken ⊢
  split at taken
  · cases taken
  · rename_i request session issued
    have kept := supplied.sendRequest run.endpoint request run.medium
    cases sent : run.endpoint.sendRequest link request run.medium with
    | mk outcome rest =>
        obtain ⟨endpoint, medium⟩ := rest
        rw [sent] at taken kept
        cases outcome with
        | error error => cases taken
        | ok tag =>
            exact Nat.lt_of_lt_of_le
              ((awaitResponseLogged_waits command tag patience _ _).uses supplied taken) kept

/-- A request that is served has used up a message of the link. -/
theorem Attends.uses {run : AgentRun σ}
    {ended : (Except UpdateError Unit × AgentRun σ) × List AgentEvent}
    (attends : Attends link patience run ended) (served : ended.1.1 = .ok ()) :
    supply ended.1.2.medium < supply run.medium := by
  induction attends with
  | enough | silent => cases served
  | answered arrived =>
      exact Nat.lt_of_le_of_lt (answer_supply supplied ..) (next_supply supplied arrived)
  | stray arrived _ ih => exact Nat.lt_trans (ih served) (next_supply supplied arrived)

end

end AgentRun

end FirmwareUpdate
