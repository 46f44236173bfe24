import FirmwareUpdate.Proofs.Agent.Drive

/-!
# What the log of an agent tells

A log tells which components a device has accepted, which ones the agent has asked it to update,
and whether images were applied and activated. `Obeys` says that what an agent has sent is within
its limits: so many repetitions of the request to update, the component table from its first
entry on, every accepted component at most once and in order, and one activation after all of
them. Only what is sent can exceed a limit.
-/

namespace FirmwareUpdate

open Wire

/-- The entries of the component table, in the order of the plan. -/
def UpdatePlan.table (plan : UpdatePlan) : List TableEntry :=
  plan.components.mapIdx fun index component =>
    { flag :=
        if plan.components.length = 1 then .startAndEnd
        else if index = 0 then .start
        else if index + 1 = plan.components.length then .finish
        else .middle
      record := component.record }

/-- The flags of the table are those of its places. -/
theorem TransferFlag.forIndex_eq {index count : Nat} (within : index < count) :
    forIndex index count =
      if count = 1 then .startAndEnd
      else if index = 0 then .start
      else if index + 1 = count then .finish
      else .middle := by
  unfold forIndex
  by_cases first : index = 0
  · rw [decide_eq_true first]
    by_cases last : count = 1
    · rw [if_pos last, decide_eq_true (by omega)]
      rfl
    · rw [if_neg last, if_pos first, decide_eq_false (by omega)]
      rfl
  · rw [decide_eq_false first, if_neg (by omega), if_neg first]
    by_cases last : index + 1 = count
    · rw [if_pos last, decide_eq_true (by omega)]
      rfl
    · rw [if_neg last, decide_eq_false (by omega)]
      rfl

/-- A component has its entry in the table. -/
theorem UpdatePlan.table_getElem? {plan : UpdatePlan} {index : Nat} {component : ComponentImage}
    (listed : plan.components[index]? = some component) :
    plan.table[index]? = some
      { flag := .forIndex index plan.components.length, record := component.record } := by
  rw [TransferFlag.forIndex_eq (List.getElem?_eq_some_iff.mp listed).1, table,
    List.getElem?_mapIdx, listed]
  rfl

namespace AgentEvent

/-- The request of a command. -/
def request? (command : AgentCommand) : AgentEvent → Option (List UInt8)
  | sent other request => if other = command then some request else none
  | replied _ _ | served _ _ => none

/-- The message that is taken for the response to a command. -/
def reply? (command : AgentCommand) : AgentEvent → Option (List UInt8)
  | replied other message => if other = command then some message else none
  | sent _ _ | served _ _ => none

end AgentEvent

namespace AgentLog

/-! ## What a log tells -/

/-- The requests of a command, in the order in which they were sent. -/
def requests (command : AgentCommand) (log : List AgentEvent) : List (List UInt8) :=
  log.filterMap (AgentEvent.request? command)

/-- The messages that were taken for responses to a command. -/
def replies (command : AgentCommand) (log : List AgentEvent) : List (List UInt8) :=
  log.filterMap (AgentEvent.reply? command)

/-- The device has accepted a component when it was announced. -/
def Accepted (log : List AgentEvent) (index : Nat) : Prop :=
  ∃ request message response answer,
    (requests .passComponentTable log)[index]? = some request ∧
    (replies .passComponentTable log)[index]? = some message ∧
    Replies request message response ∧ response.cc.isSuccess = true ∧
    decode "PassComponentTable" TableResponse.reader response.data = .ok answer ∧
    answer.response = 0

/-- The components whose updates were asked for: each was accepted, none comes twice, and they
come in the order of the plan. -/
structure Tries (plan : UpdatePlan) (log : List AgentEvent) (tried : List Nat) : Prop where
  increasing : tried.Pairwise (· < ·)
  accepted : ∀ index ∈ tried, Accepted log index
  length : (requests .updateComponent log).length = tried.length
  carried : ∀ (place : Nat) request index,
    (requests .updateComponent log)[place]? = some request → tried[place]? = some index →
    ∃ component, plan.components[index]? = some component ∧
      Carries request component.record.updateLayout

/-- The device has reported that it has applied an image, and was answered with success. -/
def Applied (log : List AgentEvent) : Prop :=
  ∃ (message : Incoming) (answer : List UInt8) (request : Request) (report : ApplyReport)
      (response : Response), .served message answer ∈ log ∧
    Request.parse message.data = .ok request ∧ request.IsFor .applyComplete ∧
    decode "ApplyComplete" ApplyReport.reader request.data = .ok report ∧
    (ofCode? report.result : Option ApplyResult).any ApplyResult.isSuccess = true ∧
    Response.parse answer = .ok response ∧ response.cc.isSuccess = true

/-- The device has activated the images: it has replied to the request with success. -/
def Activated (log : List AgentEvent) : Prop :=
  ∃ request message response answer, .sent .activateFirmware request ∈ log ∧
    .replied .activateFirmware message ∈ log ∧ Replies request message response ∧
    response.cc.isSuccess = true ∧
    decode "ActivateFirmware" ActivationResponse.reader response.data = .ok answer

/-- What an agent has sent is within its limits. -/
structure Obeys (settings : AgentSettings) (plan : UpdatePlan) (log : List AgentEvent) : Prop where
  retries : (requests .requestUpdate log).length ≤ settings.updateRetries + 1
  /-- The component table is passed in its order, from the first entry on. -/
  announced : ∀ (index : Nat) request, (requests .passComponentTable log)[index]? = some request →
    ∃ entry, plan.table[index]? = some entry ∧ Carries request entry.layout
  updated : ∃ tried, Tries plan log tried
  /-- When the images are to be activated, one has been applied, all components have been
  announced, and each that was accepted has had its turn. -/
  activation : ∀ before request, log = before ++ [.sent .activateFirmware request] →
    Applied before ∧ (requests .passComponentTable before).length = plan.components.length ∧
      ∃ tried, Tries plan before tried ∧ ∀ index, Accepted before index → index ∈ tried
  once : (requests .activateFirmware log).length ≤ 1

/-- An agent has been within its limits at every moment. -/
def Lawful (settings : AgentSettings) (plan : UpdatePlan) (log : List AgentEvent) : Prop :=
  ∀ earlier, earlier <+: log → Obeys settings plan earlier

variable {settings : AgentSettings} {plan : UpdatePlan} {log events : List AgentEvent}
  {command : AgentCommand}

/-- A place in a list that has grown by one entry is an old place, or the last. -/
theorem getElem?_concat_eq_some {α : Type} {entries : List α} {last entry : α} {place : Nat}
    (found : (entries ++ [last])[place]? = some entry) :
    entries[place]? = some entry ∨ place = entries.length ∧ entry = last := by
  rw [List.getElem?_append] at found
  split at found
  · exact .inl found
  · rw [List.getElem?_singleton] at found
    split at found
    · exact .inr ⟨by omega, (Option.some.inj found).symm⟩
    · cases found

/-- The requests of a command are those of each part of the log. -/
theorem requests_append (command : AgentCommand) (log events : List AgentEvent) :
    requests command (log ++ events) = requests command log ++ requests command events :=
  List.filterMap_append

/-- The replies to a command are those of each part of the log. -/
theorem replies_append (command : AgentCommand) (log events : List AgentEvent) :
    replies command (log ++ events) = replies command log ++ replies command events :=
  List.filterMap_append

/-- A request that is sent is one of its own command only. -/
theorem requests_sent (command other : AgentCommand) (request : List UInt8) :
    requests other [.sent command request] = if command = other then [request] else [] := by
  by_cases same : command = other <;> simp [requests, AgentEvent.request?, same]

/-- A reply that is taken is one to its own command only. -/
theorem replies_replied (command other : AgentCommand) (message : List UInt8) :
    replies other [.replied command message] = if command = other then [message] else [] := by
  by_cases same : command = other <;> simp [replies, AgentEvent.reply?, same]

/-- A request on record is among the requests of its command. -/
theorem mem_requests {request : List UInt8} (sent : .sent command request ∈ log) :
    request ∈ requests command log :=
  List.mem_filterMap.mpr ⟨_, sent, if_pos rfl⟩

/-- A reply on record is among the replies to its command. -/
theorem mem_replies {message : List UInt8} (replied : .replied command message ∈ log) :
    message ∈ replies command log :=
  List.mem_filterMap.mpr ⟨_, replied, if_pos rfl⟩

/-- Answers to the device are neither requests nor responses. -/
theorem silent_of_serving {first after : Session} (serving : first.Serving events after)
    (command : AgentCommand) : requests command events = [] ∧ replies command events = [] := by
  induction serving with
  | idle => exact ⟨rfl, rfl⟩
  | served _ _ ih =>
      rw [requests_append, replies_append, ih.1, ih.2]
      exact ⟨rfl, rfl⟩

/-- A component stays accepted. -/
theorem Accepted.mono {grown : List AgentEvent} {index : Nat} (accepted : Accepted log index)
    (asked : requests .passComponentTable log <+: requests .passComponentTable grown)
    (replied : replies .passComponentTable log <+: replies .passComponentTable grown) :
    Accepted grown index := by
  obtain ⟨request, message, response, answer, place, answered, rest⟩ := accepted
  obtain ⟨more, asked⟩ := asked
  obtain ⟨others, replied⟩ := replied
  refine ⟨request, message, response, answer, ?_, ?_, rest⟩
  · rw [← asked, List.getElem?_append_left (List.getElem?_eq_some_iff.mp place).1, place]
  · rw [← replied, List.getElem?_append_left (List.getElem?_eq_some_iff.mp answered).1, answered]

/-- A component that was accepted stays so, whatever happens then. -/
theorem Accepted.append {index : Nat} (accepted : Accepted log index) (events : List AgentEvent) :
    Accepted (log ++ events) index := by
  refine accepted.mono ?_ ?_
  · rw [requests_append]
    exact List.prefix_append ..
  · rw [replies_append]
    exact List.prefix_append ..

/-- Only a component that has been announced can be accepted. -/
theorem Accepted.lt {index : Nat} (accepted : Accepted log index) :
    index < (requests .passComponentTable log).length := by
  obtain ⟨request, message, response, answer, place, -⟩ := accepted
  exact (List.getElem?_eq_some_iff.mp place).1

/-- Without a reply to the request nothing has been activated. -/
theorem not_activated (unanswered : replies .activateFirmware log = []) : ¬ Activated log := by
  rintro ⟨request, message, response, answer, -, replied, -⟩
  have member := mem_replies replied
  rw [unanswered] at member
  cases member

/-- An image that was applied stays so, whatever happens then. -/
theorem Applied.append (applied : Applied log) (events : List AgentEvent) :
    Applied (log ++ events) := by
  obtain ⟨message, answer, request, report, response, served, rest⟩ := applied
  exact ⟨message, answer, request, report, response, List.mem_append_left _ served, rest⟩

/-- The components tried are the same in a log with the same requests in which no acceptance is
lost. -/
theorem Tries.mono {grown : List AgentEvent} {tried : List Nat} (tries : Tries plan log tried)
    (same : requests .updateComponent grown = requests .updateComponent log)
    (kept : ∀ index, Accepted log index → Accepted grown index) : Tries plan grown tried :=
  ⟨tries.increasing, fun index member => kept index (tries.accepted index member),
    same ▸ tries.length, same ▸ tries.carried⟩

/-- Nothing new is tried where no component is asked to be updated. -/
theorem Tries.append {tried : List Nat} (tries : Tries plan log tried)
    (silent : requests .updateComponent events = []) : Tries plan (log ++ events) tried :=
  tries.mono (by rw [requests_append, silent, List.append_nil]) fun _ accepted =>
    accepted.append events

/-- A log after the exchange of a command, while which nothing but that and requests of the
device has happened. -/
structure Exchanged (log after : List AgentEvent) (command : AgentCommand)
    (request message : List UInt8) : Prop where
  asked : ∀ other, requests other after =
    requests other log ++ if command = other then [request] else []
  answered : ∀ other, replies other after =
    replies other log ++ if command = other then [message] else []
  applied : Applied log → Applied after
  sent : .sent command request ∈ after
  replied : .replied command message ∈ after

/-- The device may have asked for something while the response was awaited. -/
theorem exchanged_of_serving {first waiting : Session} (log : List AgentEvent)
    (serving : first.Serving events waiting) (command : AgentCommand)
    (request message : List UInt8) :
    Exchanged (log ++ events)
      (log ++ (.sent command request :: (events ++ [.replied command message])))
      command request message where
  asked other := by
    rw [requests_append, requests_append, ← List.singleton_append, requests_append,
      requests_append, (silent_of_serving serving other).1, requests_sent, List.append_nil]
    exact congrArg _ (List.append_nil _)
  answered other := by
    rw [replies_append, replies_append, ← List.singleton_append, replies_append,
      replies_append, (silent_of_serving serving other).2, replies_replied, List.append_nil]
    rfl
  applied applied := by
    obtain ⟨message, answer, asked, report, response, served, rest⟩ := applied
    refine ⟨message, answer, asked, report, response, ?_, rest⟩
    rcases List.mem_append.mp served with served | served
    · exact List.mem_append_left _ served
    · exact List.mem_append_right _ (List.mem_cons_of_mem _ (List.mem_append_left _ served))
  sent := List.mem_append_right _ List.mem_cons_self
  replied := List.mem_append_right _
    (List.mem_cons_of_mem _ (List.mem_append_right _ List.mem_cons_self))

namespace Exchanged

variable {grown : List AgentEvent} {request message : List UInt8}

/-- Of other commands the log tells what it told. -/
theorem apart (exchanged : Exchanged log grown command request message) {other : AgentCommand}
    (distinct : command ≠ other) :
    requests other grown = requests other log ∧ replies other grown = replies other log := by
  rw [exchanged.asked, exchanged.answered, if_neg distinct, if_neg distinct, List.append_nil,
    List.append_nil]
  exact ⟨rfl, rfl⟩

/-- An exchange adds its request to those of its command. -/
theorem asked_self (exchanged : Exchanged log grown command request message) :
    requests command grown = requests command log ++ [request] := by
  rw [exchanged.asked, if_pos rfl]

/-- An exchange adds its reply to those of its command. -/
theorem answered_self (exchanged : Exchanged log grown command request message) :
    replies command grown = replies command log ++ [message] := by
  rw [exchanged.answered, if_pos rfl]

/-- Components are accepted when they are announced. -/
theorem accepted_iff (exchanged : Exchanged log grown command request message)
    (distinct : command ≠ .passComponentTable) (index : Nat) :
    Accepted grown index ↔ Accepted log index := by
  obtain ⟨asked, answered⟩ := exchanged.apart distinct
  unfold Accepted
  rw [asked, answered]

/-- The component that is announced is accepted by a response that says so. -/
theorem accepted_last (exchanged : Exchanged log grown .passComponentTable request message)
    (level : (requests .passComponentTable log).length =
      (replies .passComponentTable log).length)
    {response : Response} {answer : TableResponse} (replied : Replies request message response)
    (success : response.cc.isSuccess = true)
    (read : decode "PassComponentTable" TableResponse.reader response.data = .ok answer)
    (index : Nat) :
    Accepted grown index ↔ Accepted log index ∨
      index = (requests .passComponentTable log).length ∧ answer.response = 0 := by
  constructor
  · rintro ⟨asked, said, other, body, asked_at, said_at, replies, rest⟩
    rw [exchanged.asked_self] at asked_at
    rw [exchanged.answered_self] at said_at
    rcases getElem?_concat_eq_some asked_at with before | ⟨last, rfl⟩
    · rcases getElem?_concat_eq_some said_at with earlier | ⟨beyond, -⟩
      · exact .inl ⟨asked, said, other, body, before, earlier, replies, rest⟩
      · have inside := (List.getElem?_eq_some_iff.mp before).1
        omega
    · rcases getElem?_concat_eq_some said_at with earlier | ⟨-, rfl⟩
      · have inside := (List.getElem?_eq_some_iff.mp earlier).1
        omega
      · cases replies.parsed.symm.trans replied.parsed
        cases rest.2.1.symm.trans read
        exact .inr ⟨last, rest.2.2⟩
  · rintro (accepted | ⟨rfl, accepts⟩)
    · refine accepted.mono ?_ ?_
      · rw [exchanged.asked_self]
        exact List.prefix_append ..
      · rw [exchanged.answered_self]
        exact List.prefix_append ..
    · refine ⟨request, message, response, answer, ?_, ?_, replied, success, read, accepts⟩
      · rw [exchanged.asked_self, List.getElem?_concat_length]
      · rw [exchanged.answered_self, level, List.getElem?_concat_length]

end Exchanged

/-! ## Obeying -/

/-- Nothing that is not sent can exceed a limit. -/
theorem Obeys.concat (obeys : Obeys settings plan log) {event : AgentEvent}
    (unsent : ∀ command, event.request? command = none) :
    Obeys settings plan (log ++ [event]) := by
  have same (command : AgentCommand) : requests command (log ++ [event]) = requests command log := by
    rw [requests_append]
    simp [requests, unsent]
  obtain ⟨tried, tries⟩ := obeys.updated
  refine ⟨?_, ?_, ⟨tried, tries.append ?_⟩, ?_, ?_⟩
  · rw [same]
    exact obeys.retries
  · rw [same]
    exact obeys.announced
  · simp [requests, unsent]
  · intro before request last
    have found := (List.append_inj' last rfl).2
    cases found
    have none : some request = Option.none := unsent .activateFirmware
    cases none
  · rw [same]
    exact obeys.once

/-- A lawful log keeps the limits at its end. -/
theorem Lawful.obeys (lawful : Lawful settings plan log) : Obeys settings plan log :=
  lawful log (List.prefix_refl log)

/-- A lawful log stays lawful with one more event after which the limits are kept. -/
theorem Lawful.concat (lawful : Lawful settings plan log) {event : AgentEvent}
    (obeys : Obeys settings plan (log ++ [event])) : Lawful settings plan (log ++ [event]) := by
  intro earlier first
  rcases List.prefix_concat_iff.mp first with rfl | first
  · exact obeys
  · exact lawful earlier first

/-- Serving the device keeps a log lawful: no limit is about the requests that are served. -/
theorem Lawful.serving {first after : Session} (lawful : Lawful settings plan log)
    (serving : first.Serving events after) : Lawful settings plan (log ++ events) := by
  induction serving with
  | idle => rwa [List.append_nil]
  | served _ _ ih =>
      rw [← List.append_assoc]
      exact ih.concat (ih.obeys.concat fun _ => rfl)

end AgentLog

end FirmwareUpdate
