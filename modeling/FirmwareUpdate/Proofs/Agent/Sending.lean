import Mathlib.Data.List.Forall2
import FirmwareUpdate.Proofs.Agent.Drive
import FirmwareUpdate.Proofs.Channel.Handed

/-!
# What an agent sends

The log of an agent tells all that its link is handed: for every request that is sent and every
answer to the device the packets of that message, in this order, and nothing else. Which messages
these are, to whom each goes and under which tag, is read off the log and the endpoint of the agent
(`AgentLog.messages`).
-/

namespace FirmwareUpdate

namespace AgentLog

/-- The endpoint after what a log tells: every request has used up a tag. -/
def past (endpoint : Endpoint) : List AgentEvent → Endpoint
  | [] => endpoint
  | .sent _ _ :: rest => past endpoint.asked rest
  | .replied _ _ :: rest | .served _ _ :: rest => past endpoint rest

/-- The messages that a log tells of: requests to the peer of the endpoint, under one tag after the
other, and answers to the requests that have come. -/
def messages (endpoint : Endpoint) : List AgentEvent → List Message
  | [] => []
  | .sent _ request :: rest => endpoint.asking request :: messages endpoint.asked rest
  | .replied _ _ :: rest => messages endpoint rest
  | .served request answer :: rest => request.answeredBy answer :: messages endpoint rest

variable (endpoint : Endpoint) (channel : Channel) (assembler : Assembler)

/-- The endpoint goes through a log event by event. -/
theorem past_append (log later : List AgentEvent) :
    past endpoint (log ++ later) = past (past endpoint log) later := by
  induction log generalizing endpoint with
  | nil => rfl
  | cons event rest ih => cases event <;> exact ih _

/-- The messages of a log are those of its front, and those of its end from there on. -/
theorem messages_append (log later : List AgentEvent) :
    messages endpoint (log ++ later) =
      messages endpoint log ++ messages (past endpoint log) later := by
  induction log generalizing endpoint with
  | nil => rfl
  | cons event rest ih =>
      cases event with
      | sent command request => exact congrArg _ (ih endpoint.asked)
      | replied command message => exact ih endpoint
      | served request answer => exact congrArg _ (ih endpoint)

/-- What an endpoint receives with is nothing that its messages depend on. -/
theorem past_with (log : List AgentEvent) :
    past { endpoint with channel, assembler } log =
      { past endpoint log with channel, assembler } := by
  induction log generalizing endpoint with
  | nil => rfl
  | cons event rest ih =>
      cases event with
      | sent command request => exact ih endpoint.asked
      | _ => exact ih endpoint

/-- What is received has no part in the messages of a log. -/
theorem messages_with (log : List AgentEvent) :
    messages { endpoint with channel, assembler } log = messages endpoint log := by
  induction log generalizing endpoint with
  | nil => rfl
  | cons event rest ih =>
      cases event with
      | sent command request => exact congrArg _ (ih endpoint.asked)
      | replied command message => exact ih endpoint
      | served request answer => exact congrArg _ (ih endpoint)

/-- A log changes nothing but the tag. -/
theorem past_eq (log : List AgentEvent) :
    ∃ nextTag, past endpoint log = { endpoint with nextTag } := by
  induction log generalizing endpoint with
  | nil => exact ⟨endpoint.nextTag, rfl⟩
  | cons event rest ih =>
      cases event with
      | sent command request => exact ih endpoint.asked
      | _ => exact ih endpoint

end AgentLog

namespace AgentRun

variable {σ : Type} {link : Link σ} {patience : Nat}
  {handed : σ → List (List UInt8 × UInt8)}

/-- The endpoint is as an earlier one, but for what it receives with. -/
def Stays (earlier endpoint : Endpoint) : Prop :=
  ∃ channel assembler, endpoint = { earlier with channel, assembler } ∧
    channel.maxPacketSize = earlier.channel.maxPacketSize

/-- What the link has been handed between two moments of a run is what has happened, and only
requests of the peer have been answered. -/
structure Hands (handed : σ → List (List UInt8 × UInt8)) (run after : AgentRun σ)
    (events : List AgentEvent) : Prop where
  endpoint : Stays (AgentLog.past run.endpoint events) after.endpoint
  peers : ∀ request answer, .served request answer ∈ events → request.source = run.endpoint.peer
  parcels : ∃ parcels,
    List.Forall₂ (run.endpoint.channel.Hands run.endpoint.own)
      (AgentLog.messages run.endpoint events) parcels ∧
    handed after.medium = handed run.medium ++ parcels.flatten

namespace Hands

variable {run middle after : AgentRun σ} {events later : List AgentEvent}

/-- Nothing happens. -/
theorem nothing (stays : Stays run.endpoint after.endpoint)
    (same : handed after.medium = handed run.medium) : Hands handed run after [] where
  endpoint := stays
  peers := nofun
  parcels := ⟨[], .nil, same.trans (List.append_nil _).symm⟩

/-- At most the session has changed. -/
theorem idle (endpoint : after.endpoint = run.endpoint) (medium : after.medium = run.medium) :
    Hands handed run after [] :=
  .nothing ⟨_, _, endpoint, rfl⟩ (congrArg handed medium)

/-- A request is sent. -/
theorem request {command : AgentCommand} {message : List UInt8}
    {packets : List (List UInt8 × UInt8)} (endpoint : after.endpoint = run.endpoint.asked)
    (hands : run.endpoint.channel.Hands run.endpoint.own (run.endpoint.asking message) packets)
    (more : handed after.medium = handed run.medium ++ packets) :
    Hands handed run after [.sent command message] where
  endpoint := ⟨_, _, endpoint, rfl⟩
  peers := by simp
  parcels := ⟨[packets], .cons hands .nil, by rw [more, List.flatten_singleton]⟩

/-- A request of the peer is answered. -/
theorem answer {request : Incoming} {response : List UInt8} {packets : List (List UInt8 × UInt8)}
    (known : request.source = run.endpoint.peer) (endpoint : after.endpoint = run.endpoint)
    (hands : run.endpoint.channel.Hands run.endpoint.own (request.answeredBy response) packets)
    (more : handed after.medium = handed run.medium ++ packets) :
    Hands handed run after [.served request response] where
  endpoint := ⟨_, _, endpoint, rfl⟩
  peers other _ told := by
    cases List.mem_singleton.mp told
    exact known
  parcels := ⟨[packets], .cons hands .nil, by rw [more, List.flatten_singleton]⟩

/-- What happens between is told in its order. -/
theorem trans (hands : Hands handed run middle events) (further : Hands handed middle after later) :
    Hands handed run after (events ++ later) := by
  obtain ⟨⟨channel, assembler, stays, size⟩, peers, first, messages, handed_first⟩ := hands
  obtain ⟨⟨lastChannel, lastAssembler, ends, lastSize⟩, others, second, more, handed_second⟩ :=
    further
  obtain ⟨nextTag, past⟩ := AgentLog.past_eq run.endpoint events
  rw [stays, AgentLog.messages_with, past] at more
  rw [stays, AgentLog.past_with] at ends
  rw [stays, past] at others
  rw [stays, AgentLog.past_with] at lastSize
  have size : channel.maxPacketSize = run.endpoint.channel.maxPacketSize := by rw [size, past]
  refine ⟨⟨lastChannel, lastAssembler, ?_, ?_⟩, ?_, first ++ second, ?_, ?_⟩
  · rw [AgentLog.past_append]
    exact ends
  · obtain ⟨lastTag, all⟩ := AgentLog.past_eq run.endpoint (events ++ later)
    rw [all]
    exact lastSize.trans size
  · intro request answer told
    rcases List.mem_append.mp told with before | behind
    · exact peers request answer before
    · exact others request answer behind
  · rw [AgentLog.messages_append, past]
    exact List.rel_append messages (more.imp fun message packets hands => hands.congr size)
  · rw [handed_second, handed_first, List.flatten_append, List.append_assoc]

end Hands

section

variable (keeps : link.Keeps handed)

include keeps

/-- A wait for the next message hands nothing over. -/
theorem next_hands {run after : AgentRun σ} {deadline later : Deadline}
    {arrival : Except UpdateError Incoming}
    (arrived : run.next link patience deadline = (arrival, later, after)) :
    Hands handed run after [] := by
  have kept : Hands handed run (run.next link patience deadline).2.2 [] := by
    unfold next
    split
    · exact .idle rfl rfl
    · obtain ⟨stays, same⟩ := keeps.receiveUntil patience _ run.endpoint run.medium
      exact .nothing stays same
  rwa [arrived] at kept

/-- A request of the peer is answered with one message. -/
theorem answer_hands (run : AgentRun σ) (request : Incoming) :
    Hands handed run (run.answer link request).2 (run.answerEvents request) := by
  unfold answer answerEvents
  split
  · rename_i known
    cases handled : run.session.handleRequest request.data with
    | mk answer session =>
        cases answer with
        | error error => exact .idle rfl rfl
        | ok response =>
            obtain ⟨packets, hands, more⟩ :=
              keeps.sendResponse run.endpoint request response run.medium
            exact .answer known rfl hands more
  · exact .idle rfl rfl

/-- A wait for a response hands over the answers to what is served meanwhile. -/
theorem Waits.hands {command : AgentCommand} {run : AgentRun σ}
    {ended : (Except UpdateError CompletionCode × AgentRun σ) × List AgentEvent}
    (waits : Waits link patience command run ended) : Hands handed run ended.1.2 ended.2 := by
  induction waits with
  | enough => exact .idle rfl rfl
  | silent arrived => exact next_hands keeps arrived
  | @unanswered _ before _ _ _ message _ arrived failed =>
      have answered := answer_hands keeps before message
      rw [failed] at answered
      exact (next_hands keeps arrived).trans answered
  | @answered _ before _ _ _ message _ arrived answered _ ih =>
      have sent := answer_hands keeps before message
      rw [answered] at sent
      exact (next_hands keeps arrived).trans (sent.trans ih)
  | stray arrived _ ih => exact (next_hands keeps arrived).trans ih
  | replied arrived =>
      obtain ⟨stays, -, parcels⟩ := next_hands keeps arrived
      exact ⟨stays, by simp, parcels⟩

/-- So does a wait for a request. -/
theorem Attends.hands {run : AgentRun σ}
    {ended : (Except UpdateError Unit × AgentRun σ) × List AgentEvent}
    (attends : Attends link patience run ended) : Hands handed run ended.1.2 ended.2 := by
  induction attends with
  | enough => exact .idle rfl rfl
  | silent arrived => exact next_hands keeps arrived
  | answered arrived => exact (next_hands keeps arrived).trans (answer_hands keeps ..)
  | stray arrived _ ih => exact (next_hands keeps arrived).trans ih

/-- An exchange hands over its request, and the answers to what is served meanwhile. -/
theorem exchangeLogged_hands (run : AgentRun σ) (command : AgentCommand) :
    let ended := run.exchangeLogged link patience command
    Hands handed run ended.1.2 ended.2 := by
  unfold exchangeLogged
  cases issued : run.session.issue command with
  | mk written session =>
      cases written with
      | error error => exact .idle rfl rfl
      | ok request =>
          obtain ⟨asked, packets, hands, more⟩ :=
            keeps.sendRequest run.endpoint request run.medium
          dsimp only
          cases sent : run.endpoint.sendRequest link request run.medium with
          | mk outcome rest =>
              obtain ⟨endpoint, medium⟩ := rest
              rw [sent] at asked more
              have first : Hands handed run { session, endpoint, medium } [.sent command request] :=
                .request asked hands more
              cases outcome with
              | error error => exact first
              | ok tag =>
                  exact first.trans
                    ((awaitResponseLogged_waits command tag patience _ _).hands keeps)

/-- The log of a run tells all that the link is handed. -/
theorem runActionsLogged_hands (actions retries : Nat) (run : AgentRun σ) :
    let ended := runActionsLogged link patience actions retries run
    Hands handed run ended.1.2 ended.2 := by
  induction actions generalizing retries run with
  | zero => exact .idle rfl rfl
  | succ actions ih =>
      unfold runActionsLogged
      cases run.session.nextAction with
      | finished => exact .idle rfl rfl
      | awaitRequest =>
          have first := (@awaitRequestLogged_attends _ link patience patience (run.deadline link)
            run).hands keeps
          dsimp only
          cases served : awaitRequestLogged link patience patience (run.deadline link) run with
          | mk ended events =>
              obtain ⟨result, after⟩ := ended
              rw [served] at first
              cases result with
              | error error => exact first
              | ok done => exact first.trans (ih retries after)
      | issue command =>
          have first := @exchangeLogged_hands _ link patience _ keeps run command
          dsimp only at first ⊢
          cases exchanged : run.exchangeLogged link patience command with
          | mk ended events =>
              obtain ⟨result, after⟩ := ended
              rw [exchanged] at first
              cases result with
              | error error => exact first
              | ok cc =>
                  dsimp only
                  split
                  · exact first.trans (ih retries after)
                  · split
                    · exact first.trans (ih (retries + 1) after)
                    · exact first

end

end AgentRun

end FirmwareUpdate
