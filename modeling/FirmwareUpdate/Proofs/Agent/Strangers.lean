import FirmwareUpdate.Proofs.Agent.Correspondence
import FirmwareUpdate.Proofs.Agent.Lifecycle

/-!
# Strangers cannot influence an update

A run on a link with a mailbox comes to what its agent reads: the run and the desk of the agent
advance together, message by message, whatever the waits in between are. So the run depends only
on the messages of the peer, however many others there are and wherever they stand in the queue.
-/

namespace FirmwareUpdate

namespace AgentRun

variable {σ : Type}

/-- Where a run stands: some letters wait for it, and it is as its desk says. The run began with
`start`. -/
structure Sits (inbox : σ → List Frame) (handed : σ → List (List UInt8 × UInt8))
    (start : AgentRun σ) (letters : List Letter) (desk : AgentDesk) (run : AgentRun σ) : Prop where
  session : run.session = desk.session
  endpoint : ∃ overflow, run.endpoint = { start.endpoint with
    channel := start.endpoint.channel.marked overflow
    nextTag := desk.nextTag }
  tag : desk.nextTag ≤ maxTag
  inbox : inbox run.medium = Letter.framesOf letters
  handed : handed run.medium = handed start.medium ++
    desk.sent.flatMap (start.endpoint.channel.mailed start.endpoint.own)
  sends : ∀ message ∈ desk.sent, start.endpoint.Sends message

/-- The messages of some letters for the endpoint with which a run began. -/
def mail (start : AgentRun σ) (letters : List Letter) : List Incoming :=
  Letter.arrivals start.endpoint.channel start.endpoint.assembler letters

/-- How a run ends: its agent has read what has been taken from the queue, and ended with it. If
the run has given up instead, then the agent has read everything, unless there is more. -/
def Ends (inbox : σ → List Frame) (handed : σ → List (List UInt8 × UInt8)) (start : AgentRun σ)
    (letters : List Letter) (desk : AgentDesk) (result : Except UpdateError Unit)
    (last : AgentRun σ) : Prop :=
  (∃ taken left after, letters = taken ++ left ∧
      desk.Reads start.endpoint (start.mail taken) after ∧ Sits inbox handed start left after last ∧
      after.waits = .nothing result) ∨
    result = .error (.channel .receiveTimeout) ∧
      (inbox last.medium = [] → ∃ after, desk.Reads start.endpoint (start.mail letters) after ∧
        Sits inbox handed start [] after last ∧ after.Busy)

variable {link : Link σ} {patience : Nat} {inbox : σ → List Frame}
  {handed : σ → List (List UInt8 × UInt8)} {start : AgentRun σ} {letters : List Letter}
  {desk : AgentDesk} {run : AgentRun σ}

/-- The mail of two batches of letters is that of one and of the other. -/
theorem mail_append (start : AgentRun σ) (front back : List Letter) :
    start.mail (front ++ back) = start.mail front ++ start.mail back :=
  List.filterMap_append

/-- What has been read before the end has been read. -/
theorem Ends.after {taken left : List Letter} {middle : AgentDesk}
    {result : Except UpdateError Unit} {last : AgentRun σ}
    (reads : desk.Reads start.endpoint (start.mail taken) middle)
    (ends : Ends inbox handed start left middle result last) :
    Ends inbox handed start (taken ++ left) desk result last := by
  rcases ends with ⟨more, rest, after, rfl, further, sits, ended⟩ | ⟨gaveUp, dry⟩
  · refine .inl ⟨taken ++ more, rest, after, (List.append_assoc ..).symm, ?_, sits, ended⟩
    rw [mail_append]
    exact reads.trans further
  · refine .inr ⟨gaveUp, fun empty => ?_⟩
    obtain ⟨after, further, sits, busy⟩ := dry empty
    refine ⟨after, ?_, sits, busy⟩
    rw [mail_append]
    exact reads.trans further

/-- How a wait within a run ends: with the run, or with a result after which the agent goes on. -/
def Leads {α : Type} (inbox : σ → List Frame) (handed : σ → List (List UInt8 × UInt8))
    (start : AgentRun σ) (letters : List Letter) (desk : AgentDesk)
    (goesOn : α → AgentDesk → AgentDesk) (got : Except UpdateError α × AgentRun σ) : Prop :=
  (∃ error, got.1 = .error error ∧
      Ends inbox handed start letters desk (.error error) got.2) ∨
    ∃ value taken left middle, got.1 = .ok value ∧ letters = taken ++ left ∧ taken ≠ [] ∧
      desk.Reads start.endpoint (start.mail taken) (goesOn value middle) ∧
      middle.retries = desk.retries ∧ Sits inbox handed start left middle got.2

/-- What has been read before has been read. -/
theorem Leads.after {α : Type} {goesOn : α → AgentDesk → AgentDesk}
    {got : Except UpdateError α × AgentRun σ} {taken left : List Letter} {middle : AgentDesk}
    (reads : desk.Reads start.endpoint (start.mail taken) middle)
    (retries : middle.retries = desk.retries)
    (leads : Leads inbox handed start left middle goesOn got) :
    Leads inbox handed start (taken ++ left) desk goesOn got := by
  rcases leads with ⟨error, failed, ends⟩ |
    ⟨value, more, rest, last, result, rfl, some, further, same, sits⟩
  · exact .inl ⟨error, failed, ends.after reads⟩
  · refine .inr ⟨value, taken ++ more, rest, last, result, (List.append_assoc ..).symm,
      List.append_ne_nil_of_right_ne_nil _ some, ?_, same.trans retries, sits⟩
    rw [mail_append]
    exact reads.trans further

/-- The run gives up, and nothing has been read since. -/
theorem Ends.of_dry {last : AgentRun σ} (busy : desk.Busy)
    (dry : inbox last.medium = [] →
      start.mail letters = [] ∧ Sits inbox handed start [] desk last) :
    Ends inbox handed start letters desk (.error (.channel .receiveTimeout)) last := by
  refine .inr ⟨rfl, fun empty => ?_⟩
  obtain ⟨silent, sits⟩ := dry empty
  exact ⟨desk, silent ▸ .nothing desk, sits, busy⟩

namespace Sits

variable (sits : Sits inbox handed start letters desk run)

include sits

/-- The agent has ended. -/
theorem ends {result : Except UpdateError Unit} (ended : desk.waits = .nothing result) :
    Ends inbox handed start letters desk result run :=
  .inl ⟨[], letters, desk, rfl, .nothing desk, sits, ended⟩

/-- The run gives up. -/
theorem givesUp (busy : desk.Busy) :
    Ends inbox handed start letters desk (.error (.channel .receiveTimeout)) run := by
  refine .inr ⟨rfl, fun empty => ?_⟩
  have none := Letter.eq_nil_of_framesOf (sits.inbox.symm.trans empty)
  subst none
  exact ⟨desk, .nothing desk, sits, busy⟩

/-- What the agent waits for is not part of where it stands. -/
theorem of_same {other : AgentDesk} (session : other.session = desk.session)
    (tag : other.nextTag = desk.nextTag) (sent : other.sent = desk.sent) :
    Sits inbox handed start letters other run where
  session := sits.session.trans session.symm
  endpoint := tag ▸ sits.endpoint
  tag := tag ▸ sits.tag
  inbox := sits.inbox
  handed := sent ▸ sits.handed
  sends := sent ▸ sits.sends

/-- The agent ends with an error. -/
theorem stops (error : UpdateError) :
    Ends inbox handed start letters (desk.stop error) (.error error) run := by
  have stopped : Sits inbox handed start letters (desk.stop error) run :=
    sits.of_same rfl rfl rfl
  exact stopped.ends rfl

/-- The session changes in the run as at the desk. -/
theorem withSession (session : Session) :
    Sits inbox handed start letters { desk with session } { run with session } :=
  ⟨rfl, sits.endpoint, sits.tag, sits.inbox, sits.handed, sits.sends⟩

/-- Whatever a run does, it keeps its peer. -/
theorem peer : run.endpoint.peer = start.endpoint.peer := by
  obtain ⟨overflow, endpoint⟩ := sits.endpoint
  rw [endpoint]

/-- One message more has been sent. -/
theorem sent {message : Message} (sends : start.endpoint.Sends message) {medium : σ}
    (more : handed medium = handed run.medium ++
      start.endpoint.channel.mailed start.endpoint.own message) :
    handed medium = handed start.medium ++
        (desk.sent ++ [message]).flatMap (start.endpoint.channel.mailed start.endpoint.own) ∧
      ∀ other ∈ desk.sent ++ [message], start.endpoint.Sends other := by
  constructor
  · rw [more, sits.handed, List.flatMap_append, List.append_assoc, List.flatMap_singleton]
  · intro other member
    rcases List.mem_append.mp member with before | last
    · exact sits.sends other before
    · exact List.mem_singleton.mp last ▸ sends

end Sits

/-- A request of anyone else is passed over. -/
theorem Sits.answer_of_foreign (sits : Sits inbox handed start letters desk run)
    {message : Incoming} (foreign : message.source ≠ start.endpoint.peer) :
    run.answer link message = (.ok (), run) :=
  if_neg (sits.peer ▸ foreign)

/-- A message that does not respond to the command changes nothing at the desk, whoever has sent
it. -/
theorem Sits.take_of_stray (sits : Sits inbox handed start letters desk run)
    {command : AgentCommand} {tag : Tag} (waits : desk.waits = .response command tag)
    {message : Incoming} (reply : message.isRequest = false)
    (stray : ¬ run.isResponseTo tag message = true) :
    desk.take start.endpoint message = desk := by
  by_cases known : message.source = start.endpoint.peer
  · refine AgentDesk.take_of_stray waits known reply fun number => stray ?_
    rw [isResponseTo, sits.peer, known, number, beq_self_eq_true, beq_self_eq_true]
    rfl
  · exact AgentDesk.take_of_foreign known

section

variable (delivers : link.Delivers inbox) (keeps : link.Keeps handed)

include delivers keeps

/-- A request of the peer is answered as it is at the desk. -/
theorem Sits.answer (sits : Sits inbox handed start letters desk run) {message : Incoming}
    (known : message.source = start.endpoint.peer) (tag : message.tag.number ≤ maxTag) :
    ∃ after, run.answer link message = ((desk.answer message).1, after) ∧
      Sits inbox handed start letters (desk.answer message).2 after := by
  obtain ⟨overflow, endpoint⟩ := sits.endpoint
  unfold AgentRun.answer AgentDesk.answer
  rw [if_pos (known.trans sits.peer.symm), sits.session]
  cases handled : desk.session.handleRequest message.data with
  | mk answer session =>
      cases answer with
      | error error => exact ⟨_, rfl, sits.withSession session⟩
      | ok response =>
          obtain ⟨after, sent, kept, more⟩ :=
            delivers.sendResponse keeps run.endpoint tag response run.medium
          dsimp only
          rw [sent]
          rw [endpoint] at more
          obtain ⟨handed, sends⟩ :=
            sits.sent (Endpoint.Sends.answeredBy start.endpoint tag response) more
          exact ⟨_, rfl, rfl, ⟨overflow, endpoint⟩, sits.tag, kept.trans sits.inbox, handed, sends⟩

/-- A request that comes while a response is awaited ends the run, or the wait goes on. -/
theorem Sits.request (sits : Sits inbox handed start letters desk run) {command : AgentCommand}
    {tag : Tag} (waits : desk.waits = .response command tag) {message : Incoming}
    (request : message.isRequest = true) (numbered : message.tag.number ≤ maxTag) :
    let taken := desk.take start.endpoint message
    (∃ error after, run.answer link message = (.error error, after) ∧
        Ends inbox handed start letters taken (.error error) after) ∨
      ∃ after, run.answer link message = (.ok (), after) ∧
        Sits inbox handed start letters taken after ∧
        taken.waits = .response command tag ∧ taken.retries = desk.retries := by
  by_cases known : message.source = start.endpoint.peer
  · obtain ⟨after, answered, sits⟩ := sits.answer delivers keeps known numbered
    obtain ⟨still, retries⟩ := desk.answer_keeps message
    rw [AgentDesk.take_of_request waits known request, answered]
    cases served : desk.answer message with
    | mk result desk' =>
        rw [served] at sits still retries
        cases result with
        | error error => exact .inl ⟨error, after, rfl, sits.stops error⟩
        | ok done => exact .inr ⟨after, rfl, sits, still.trans waits, retries⟩
  · rw [AgentDesk.take_of_foreign known]
    exact .inr ⟨run, sits.answer_of_foreign known, sits, waits, rfl⟩

variable (lasting : start.endpoint.channel.Lasting)
  (idle : start.endpoint.assembler.current = none)

include lasting idle

/-- The next message is that of a letter, or the run gives up. -/
theorem Sits.next (sits : Sits inbox handed start letters desk run) {deadline later : Deadline}
    {arrival : Except UpdateError Incoming} {after : AgentRun σ}
    (arrived : run.next link patience deadline = (arrival, later, after)) :
    (∃ taken left message, letters = taken ++ left ∧ start.mail taken = [message] ∧
        message.tag.number ≤ maxTag ∧ arrival = .ok message ∧
        Sits inbox handed start left desk after) ∨
      arrival = .error (.channel .receiveTimeout) ∧
        (inbox after.medium = [] → start.mail letters = [] ∧
          Sits inbox handed start [] desk after) := by
  obtain ⟨overflow, endpoint⟩ := sits.endpoint
  unfold AgentRun.next at arrived
  split at arrived
  · cases arrived
    refine .inr ⟨rfl, fun empty => ?_⟩
    have none := Letter.eq_nil_of_framesOf (sits.inbox.symm.trans empty)
    subst none
    exact ⟨rfl, sits⟩
  · rename_i timeout _ _
    have got := delivers.receiveUntil_letters patience (timeout.start (link.now run.medium))
      run.endpoint run.medium (by rw [endpoint]; exact lasting) (by rw [endpoint]; exact idle)
      sits.inbox
    have kept := (keeps.receiveUntil patience (timeout.start (link.now run.medium)) run.endpoint
      run.medium).2
    unfold Endpoint.receive at arrived
    cases received : Endpoint.receiveUntil link patience (timeout.start (link.now run.medium))
        run.endpoint run.medium with
    | mk message rest =>
        obtain ⟨reached, medium⟩ := rest
        rw [received] at got kept arrived
        cases arrived
        rw [endpoint] at got
        dsimp only at got kept
        rw [Letter.arrivals_marked] at got
        have still {left : List Letter} (queue : inbox medium = Letter.framesOf left)
            (stays : ∃ overflow, reached = { start.endpoint with
              channel := (start.endpoint.channel.marked overflow)
              nextTag := desk.nextTag }) :
            Sits inbox handed start left desk { run with endpoint := reached, medium } :=
          ⟨sits.session, stays, sits.tag, queue, kept.trans sits.handed, sits.sends⟩
        rcases got with ⟨taken, left, found, rfl, one, rfl, queue, stays⟩ | ⟨rfl, dry⟩
        · have tag := Letter.tag_of_arrivals idle (one ▸ List.mem_singleton_self found)
          exact .inl ⟨taken, left, found, rfl, one, tag, rfl, still queue stays⟩
        · refine .inr ⟨rfl, fun empty => ?_⟩
          obtain ⟨nothing, stays⟩ := dry empty
          exact ⟨nothing, still empty stays⟩

/-- A wait for the response to a command. -/
theorem awaitResponse_leads (messages : Nat) (deadline : Deadline) {command : AgentCommand}
    {tag : Tag} (sits : Sits inbox handed start letters desk run)
    (waits : desk.waits = .response command tag) :
    Leads inbox handed start letters desk
      (fun cc middle => middle.conclude start.endpoint command cc)
      (awaitResponse link patience tag messages deadline run) := by
  induction messages generalizing letters desk deadline run with
  | zero => exact .inl ⟨_, rfl, sits.givesUp (.of_response waits)⟩
  | succ messages ih =>
      unfold awaitResponse
      cases arrived : run.next link patience deadline with
      | mk arrival rest =>
          obtain ⟨later, before⟩ := rest
          rcases sits.next delivers keeps lasting idle arrived with
            ⟨taken, left, message, rfl, one, numbered, rfl, sits⟩ | ⟨rfl, dry⟩
          · have some : taken ≠ [] := by rintro rfl; cases one
            have read : desk.Reads start.endpoint (start.mail taken)
                (desk.take start.endpoint message) :=
              one ▸ .one (.of_response waits) (.nothing _)
            dsimp only
            cases request : message.isRequest with
            | true =>
                rw [if_pos rfl]
                rcases sits.request delivers keeps waits request numbered with
                  ⟨error, after, answered, ends⟩ | ⟨after, answered, sits, waits, retries⟩
                · rw [answered]
                  exact .inl ⟨error, rfl, .after read ends⟩
                · rw [answered]
                  exact .after read retries (ih later sits waits)
            | false =>
                rw [if_neg Bool.false_ne_true]
                split
                · rename_i matching
                  obtain ⟨source, number⟩ := Bool.and_eq_true_iff.mp matching
                  have known := (eq_of_beq source).trans sits.peer
                  rw [AgentDesk.take_of_reply waits known request (eq_of_beq number)] at read
                  unfold AgentDesk.takeReply at read
                  rw [sits.session]
                  cases processed : desk.session.process message.data with
                  | mk answer session =>
                      rw [processed] at read
                      have stands := sits.withSession session
                      cases answer with
                      | ok cc =>
                          exact .inr
                            ⟨cc, taken, left, { desk with session }, rfl, rfl, some, read, rfl,
                              stands⟩
                      | error error =>
                          -- only a response that the session does not expect is passed over
                          cases error with
                          | unexpectedResponse => exact .after read rfl (ih later stands waits)
                          | _ => exact .inl ⟨_, rfl, .after read (stands.stops _)⟩
                · rename_i stray
                  rw [sits.take_of_stray waits request stray] at read
                  exact .after read rfl (ih later sits waits)
          · exact .inl ⟨_, rfl, .of_dry (.of_response waits) dry⟩

/-- A wait for a request. A request from anyone else ends it as well, and then the next action of
the session is to wait again. -/
theorem awaitRequest_leads (messages : Nat) (deadline : Deadline)
    (sits : Sits inbox handed start letters desk run) (waits : desk.waits = .request)
    (again : desk.act start.endpoint = desk) :
    Leads inbox handed start letters desk (fun _ middle => middle.act start.endpoint)
      (awaitRequest link patience messages deadline run) := by
  induction messages generalizing letters desk deadline run with
  | zero => exact .inl ⟨_, rfl, sits.givesUp (.of_request waits)⟩
  | succ messages ih =>
      unfold awaitRequest
      cases arrived : run.next link patience deadline with
      | mk arrival rest =>
          obtain ⟨later, before⟩ := rest
          rcases sits.next delivers keeps lasting idle arrived with
            ⟨taken, left, message, rfl, one, numbered, rfl, sits⟩ | ⟨rfl, dry⟩
          · have some : taken ≠ [] := by rintro rfl; cases one
            have read : desk.Reads start.endpoint (start.mail taken)
                (desk.take start.endpoint message) :=
              one ▸ .one (.of_request waits) (.nothing _)
            dsimp only
            cases request : message.isRequest with
            | true =>
                rw [if_pos rfl]
                by_cases known : message.source = start.endpoint.peer
                · obtain ⟨after, answered, sits⟩ := sits.answer delivers keeps known numbered
                  obtain ⟨-, retries⟩ := desk.answer_keeps message
                  rw [AgentDesk.take_of_awaited waits known request] at read
                  rw [answered]
                  cases served : desk.answer message with
                  | mk result desk' =>
                      rw [served] at read sits retries
                      cases result with
                      | error error => exact .inl ⟨error, rfl, .after read (sits.stops error)⟩
                      | ok done =>
                          exact .inr ⟨done, taken, left, desk', rfl, rfl, some, read, retries, sits⟩
                -- the run goes on to its next action, and that is to wait as before
                · have acted : desk.take start.endpoint message = desk.act start.endpoint :=
                    (AgentDesk.take_of_foreign known).trans again.symm
                  rw [acted] at read
                  rw [sits.answer_of_foreign known]
                  exact .inr ⟨(), taken, left, desk, rfl, rfl, some, read, rfl, sits⟩
            | false =>
                rw [if_neg Bool.false_ne_true]
                rw [AgentDesk.take_of_late waits request] at read
                exact .after read rfl (ih later sits waits again)
          · exact .inl ⟨_, rfl, .of_dry (.of_request waits) dry⟩

/-- A command is issued, and its response awaited. -/
theorem exchange_leads (sits : Sits inbox handed start letters desk run) {command : AgentCommand}
    (action : desk.session.nextAction = .issue command) :
    Leads inbox handed start letters (desk.act start.endpoint)
      (fun cc middle => middle.conclude start.endpoint command cc)
      (run.exchange link patience command) := by
  obtain ⟨overflow, endpoint⟩ := sits.endpoint
  unfold exchange
  rw [AgentDesk.act_of_issue action, sits.session]
  cases desk.session.issue command with
  | mk written session =>
      cases written with
      | error error => exact .inl ⟨error, rfl, (sits.withSession session).stops error⟩
      | ok request =>
          obtain ⟨after, sent, kept, more⟩ := delivers.sendRequest keeps run.endpoint
            (by rw [endpoint]; exact sits.tag) request run.medium
          dsimp only
          rw [sent]
          rw [endpoint] at more ⊢
          obtain ⟨handed, sends⟩ :=
            sits.sent (Endpoint.Sends.asking start.endpoint sits.tag request) more
          exact awaitResponse_leads delivers keeps lasting idle patience _
            ⟨rfl, ⟨overflow, rfl⟩, UInt8.and_le_right, kept.trans sits.inbox, handed, sends⟩ rfl

/-- A run comes to what its agent reads. Every action uses up a letter, so there is no need for
more actions than letters. -/
theorem runActions_ends (actions : Nat) (sits : Sits inbox handed start letters desk run)
    (enough : letters.length < actions) :
    let got := runActions link patience actions desk.retries run
    Ends inbox handed start letters (desk.act start.endpoint) got.1 got.2 := by
  induction actions generalizing letters desk run with
  | zero => exact absurd enough (Nat.not_lt_zero _)
  | succ actions ih =>
      -- an action that has taken a letter leaves fewer of them for the actions that remain
      have fewer {taken left : List Letter} (split : letters = taken ++ left) (some : taken ≠ []) :
          left.length < actions := by
        have := List.length_pos_of_ne_nil some
        rw [split, List.length_append] at enough
        omega
      dsimp only
      unfold runActions
      rw [sits.session]
      cases action : desk.session.nextAction with
      | finished =>
          have ended : Sits inbox handed start letters (desk.act start.endpoint) run := by
            rw [AgentDesk.act_of_finished action]
            exact sits.of_same rfl rfl rfl
          exact ended.ends (by rw [AgentDesk.act_of_finished action])
      | awaitRequest =>
          have acted : desk.act start.endpoint = { desk with waits := .request } :=
            AgentDesk.act_of_awaitRequest action
          have waiting : Sits inbox handed start letters (desk.act start.endpoint) run := by
            rw [acted]
            exact sits.of_same rfl rfl rfl
          have served : Leads inbox handed start letters (desk.act start.endpoint)
              (fun _ middle => middle.act start.endpoint)
              (awaitRequest link patience patience (run.deadline link) run) :=
            awaitRequest_leads delivers keeps lasting idle patience _ waiting (by rw [acted])
              (by rw [acted]; exact AgentDesk.act_of_awaitRequest action)
          dsimp only [serveNext]
          cases attended : awaitRequest link patience patience (run.deadline link) run with
          | mk result after =>
              rw [attended] at served
              rcases served with ⟨error, rfl, ends⟩ |
                ⟨done, taken, left, middle, rfl, split, some, reads, retries, sits⟩
              · exact ends
              · have rest := ih sits (fewer split some)
                rw [retries, desk.act_retries] at rest
                rw [split]
                exact .after reads rest
      | issue command =>
          have exchanged : Leads inbox handed start letters (desk.act start.endpoint)
              (fun cc middle => middle.conclude start.endpoint command cc)
              (run.exchange link patience command) :=
            exchange_leads delivers keeps lasting idle sits action
          dsimp only
          cases replied : run.exchange link patience command with
          | mk result after =>
              rw [replied] at exchanged
              rcases exchanged with ⟨error, rfl, ends⟩ |
                ⟨cc, taken, left, middle, rfl, split, some, reads, retries, sits⟩
              · exact ends
              · have less := fewer split some
                rw [desk.act_retries] at retries
                rw [split]
                unfold AgentDesk.conclude at reads
                dsimp only at reads sits ⊢
                rw [sits.session]
                split
                · rename_i success
                  rw [if_pos success] at reads
                  have rest := ih sits less
                  rw [retries] at rest
                  exact .after reads rest
                · rename_i failure
                  rw [if_neg failure, retries] at reads
                  split
                  · rename_i again
                    rw [if_pos again] at reads
                    exact .after reads (ih (sits.of_same rfl rfl rfl) less)
                  · rename_i refused
                    rw [if_neg refused] at reads
                    exact .after reads (sits.stops _)

end

/-! ## Without the others -/

/-- Deadlines pass only once the queue of the run is empty. -/
def Outlasts (inbox : σ → List Frame) (link : Link σ) (patience : Nat) (run : AgentRun σ) : Prop :=
  (run.runSession link patience).1 = .error (.channel .receiveTimeout) →
    inbox (run.runSession link patience).2.medium = []

/-- A run whose deadlines pass late enough comes to what its agent makes of all messages. -/
theorem Ends.settled {result : Except UpdateError Unit} {last : AgentRun σ}
    (ends : Ends inbox handed start letters desk result last)
    (late : result = .error (.channel .receiveTimeout) → inbox last.medium = []) :
    ∃ taken left after, letters = taken ++ left ∧
      desk.Reads start.endpoint (start.mail taken) after ∧ Sits inbox handed start left after last ∧
      after = (start.mail letters).foldl (AgentDesk.take start.endpoint) desk ∧
      result = after.outcome := by
  rcases ends with ⟨taken, left, after, rfl, reads, sits, ended⟩ | ⟨gaveUp, dry⟩
  · refine ⟨taken, left, after, rfl, reads, sits, ?_, ?_⟩
    · rw [mail_append, List.foldl_append, reads.foldl, AgentDesk.foldl_take_of_ended ended]
    · rw [AgentDesk.outcome, ended]
  · obtain ⟨after, reads, sits, busy⟩ := dry (late gaveUp)
    refine ⟨letters, [], after, (List.append_nil _).symm, reads, sits, reads.foldl.symm, ?_⟩
    rw [gaveUp, busy.outcome]

theorem runSession_settled (delivers : link.Delivers inbox) (keeps : link.Keeps handed)
    (start : AgentRun σ) (lasting : start.endpoint.channel.Lasting)
    (idle : start.endpoint.assembler.current = none) (tag : start.endpoint.nextTag ≤ maxTag)
    (queue : inbox start.medium = Letter.framesOf letters) (enough : letters.length < patience)
    (late : start.Outlasts inbox link patience) :
    let got := start.runSession link patience
    let begun := AgentDesk.begin start.endpoint start.session
    ∃ taken left after, letters = taken ++ left ∧
      begun.Reads start.endpoint (start.mail taken) after ∧
      Sits inbox handed start left after got.2 ∧
      after = (start.mail letters).foldl (AgentDesk.take start.endpoint) begun ∧
      got.1 = after.outcome := by
  have sits : Sits inbox handed start letters
      { session := start.session, nextTag := start.endpoint.nextTag, waits := .request } start :=
    ⟨rfl, ⟨start.endpoint.channel.overflow, rfl⟩, tag, queue, (List.append_nil _).symm, nofun⟩
  exact (runActions_ends delivers keeps lasting idle patience sits enough).settled late

end AgentRun

/-- Other endpoints cannot influence a running update. Whatever messages wait for an agent, if its
deadlines pass only once they have all been looked at, then the run has the result, leaves the
session and sends the messages that it has, leaves and sends if only the messages of the peer
wait. Each of these messages leaves in at least one packet, and is a request to the peer or an
answer. And every request of the peer that the run takes from the queue and can read is answered
with one of them, in order, under the tag of the request and to where it has come from. -/
theorem strangers_cannot_influence_an_update {σ : Type} {link : Link σ} {inbox : σ → List Frame}
    {handed : σ → List (List UInt8 × UInt8)} (delivers : link.Delivers inbox)
    (keeps : link.Keeps handed) (session : Session) (endpoint : Endpoint)
    (lasting : endpoint.channel.Lasting) (idle : endpoint.assembler.current = none)
    (tag : endpoint.nextTag ≤ maxTag) (letters : List Letter) (patience : Nat)
    (enough : letters.length < patience) (crowded quiet : σ)
    (all : inbox crowded = Letter.framesOf letters)
    (peers : inbox quiet = Letter.framesOf (letters.filter (·.source = endpoint.peer))) :
    let amongOthers : AgentRun σ := { session, endpoint, medium := crowded }
    let alone : AgentRun σ := { session, endpoint, medium := quiet }
    amongOthers.Outlasts inbox link patience → alone.Outlasts inbox link patience →
    let first := amongOthers.runSession link patience
    let second := alone.runSession link patience
    first.1 = second.1 ∧ first.2.session = second.2.session ∧
    ∃ messages : List Message,
      handed first.2.medium =
          handed crowded ++ messages.flatMap (endpoint.channel.mailed endpoint.own) ∧
      handed second.2.medium =
          handed quiet ++ messages.flatMap (endpoint.channel.mailed endpoint.own) ∧
      (∀ message ∈ messages, endpoint.Sends message) ∧
      ∃ taken left, letters = taken ++ left ∧ inbox first.2.medium = Letter.framesOf left ∧
        List.Forall₂ (fun request message => Message.Answers message request)
          ((Letter.arrivals endpoint.channel endpoint.assembler taken).filter
            (·.asks endpoint.peer))
          (messages.filter (!·.tag.owned)) := by
  intro amongOthers alone lateAmong lateAlone
  have few : (letters.filter (·.source = endpoint.peer)).length < patience :=
    Nat.lt_of_le_of_lt (List.length_filter_le ..) enough
  obtain ⟨taken, left, after, split, reads, sits, settled, result⟩ :=
    AgentRun.runSession_settled delivers keeps amongOthers lasting idle tag all enough lateAmong
  obtain ⟨_, _, other, _, _, otherSits, otherSettled, otherResult⟩ :=
    AgentRun.runSession_settled delivers keeps alone lasting idle tag peers few lateAlone
  have same : other = after := by
    rw [settled, otherSettled]
    exact (congrArg (List.foldl _ _) (Letter.arrivals_filter idle endpoint.peer letters)).trans
      (AgentDesk.foldl_take_filter ..)
  subst same
  obtain ⟨messages, sent, answered⟩ :=
    (AgentDesk.begin_corresponds endpoint session).trans reads.corresponds
  have sent : other.sent = messages := sent
  refine ⟨result.trans otherResult.symm, sits.session.trans otherSits.session.symm, messages,
    sent ▸ sits.handed, sent ▸ otherSits.handed, sent ▸ sits.sends, taken, left, split, sits.inbox,
    answered⟩

namespace Crowd

/-- The endpoint 8, which updates the endpoint 9. -/
def endpoint : Endpoint :=
  .of { maxPacketSize := 48, size_gt := by decide, size_le := by decide } ⟨8⟩ ⟨9⟩ 0x20

/-- The header of a packet for the agent. -/
def header (source : EndpointId) (first last : Bool) (sequence : Fin 4) (number : Fin 8)
    (owned : Bool) : PacketHeader where
  destination := ⟨8⟩
  source
  first
  last
  sequence := UInt8.ofNat sequence
  tag := { number := UInt8.ofNat number, owned }

theorem header_fits (source : EndpointId) (first last : Bool) (sequence : Fin 4) (number : Fin 8)
    (owned : Bool) : (header source first last sequence number owned).Fits := by
  have small : ∀ sequence : Fin 4, UInt8.ofNat sequence < 4 := by decide
  have known : ∀ number : Fin 8, UInt8.ofNat number ≤ maxTag := by decide
  exact ⟨small sequence, known number⟩

theorem second_follows :
    UInt8.ofNat (1 : Fin 4) = PacketHeader.nextSequence (UInt8.ofNat (0 : Fin 4)) := by decide

/-- A message in one packet. -/
def letter (source : EndpointId) (number : Fin 8) (owned : Bool) (data : List UInt8) : Letter where
  head :=
    { source := 0x20
      contents := (header source true true 0 number owned).toBytes ++ (managementType :: data) }
  header := header source true true 0 number owned
  body := managementType :: data
  tail := []
  read := PacketHeader.parse_toBytes (header_fits ..) _
  first := rfl
  continued := .last rfl

/-- A message in two packets. -/
def longLetter (source : EndpointId) (number : Fin 8) (owned : Bool) (front back : List UInt8) :
    Letter where
  head :=
    { source := 0x20
      contents := (header source true false 0 number owned).toBytes ++ (managementType :: front) }
  header := header source true false 0 number owned
  body := managementType :: front
  tail := [
    { source := 0x20
      contents := (header source false true 1 number owned).toBytes ++ back }]
  read := PacketHeader.parse_toBytes (header_fits ..) _
  first := rfl
  continued := .more rfl (PacketHeader.parse_toBytes (header_fits ..) _)
    ⟨rfl, rfl, rfl, rfl, second_follows⟩ (.last rfl)

/-- The agent asks the device who it is. Before the device answers, the endpoint 10 answers in its
place, and both endpoints have a request. Then the endpoint 10 is late. -/
def letters : List Letter :=
  [letter ⟨10⟩ 0 false [0x00, 0x05, 0x01, 0x00, 0, 0, 0, 0, 0],
    letter ⟨9⟩ 5 true [0x81, 0x05, 0x16, 0x00],
    longLetter ⟨10⟩ 5 true [0x81, 0x05] [0x16, 0x00],
    letter ⟨9⟩ 0 false [0x00, 0x05, 0x01, 0x00, 0, 0, 0, 0, 0],
    letter ⟨10⟩ 1 false [0x01, 0x05, 0x02, 0x00]]

/-- The request of the device. -/
def request : Incoming where
  data := [0x81, 0x05, 0x16, 0x00]
  source := ⟨9⟩
  tag := ⟨5, true⟩
  address := 0x20

/-- An agent with some letters before it. -/
def run (letters : List Letter) : AgentRun Mailbox where
  session := AskedUpdate.first
  endpoint
  medium.inbox := Letter.framesOf letters

end Crowd

/-- Among three letters of a stranger the agent asks its device who it is, answers the request of
the device, asks for its firmware and gives up when nothing more comes. Without the stranger it
does the same. -/
theorem stranger_makes_no_difference :
    let amongOthers := Crowd.run Crowd.letters
    let alone := Crowd.run (Crowd.letters.filter (·.source = Crowd.endpoint.peer))
    let first := amongOthers.runSession Mailbox.link 16
    let second := alone.runSession Mailbox.link 16
    (Mailbox.link.Delivers Mailbox.inbox ∧ Mailbox.link.Keeps Mailbox.sent ∧
      Crowd.endpoint.channel.Lasting ∧ amongOthers.Outlasts Mailbox.inbox Mailbox.link 16 ∧
      alone.Outlasts Mailbox.inbox Mailbox.link 16) ∧
    first.1 = second.1 ∧ first.2.session = second.2.session ∧
    first.2.medium.sent = second.2.medium.sent ∧ first.2.medium.sent.length = 3 ∧
    ∃ (messages : List Message) (answer : Message),
      first.2.medium.sent = messages.flatMap (Crowd.endpoint.channel.mailed ⟨8⟩) ∧
      messages.filter (!·.tag.owned) = [answer] ∧ answer.Answers Crowd.request ∧
      Crowd.endpoint.Sends answer := by
  intro amongOthers alone first second
  have dry : first.2.medium.inbox = [] := by decide +kernel
  have dryAlone : second.2.medium.inbox = [] := by decide +kernel
  have count : first.2.medium.sent.length = 3 := by decide +kernel
  obtain ⟨result, session, messages, sent, sentAlone, sends, taken, left, split, rest, answered⟩ :=
    strangers_cannot_influence_an_update Mailbox.link_delivers Mailbox.link_keeps
      AskedUpdate.first Crowd.endpoint nofun rfl (by decide) Crowd.letters 16 (by decide)
      amongOthers.medium alone.medium rfl rfl (fun _ => dry) (fun _ => dryAlone)
  have none := Letter.eq_nil_of_framesOf (rest.symm.trans dry)
  rw [none, List.append_nil] at split
  have asked : (Letter.arrivals Crowd.endpoint.channel Crowd.endpoint.assembler
      Crowd.letters).filter (·.asks Crowd.endpoint.peer) = [Crowd.request] := by decide +kernel
  rw [← split, asked] at answered
  obtain ⟨answer, others, answers, nothing, one⟩ := List.forall₂_cons_left_iff.mp answered
  rw [List.forall₂_nil_left_iff.mp nothing] at one
  have leaves : answer ∈ messages :=
    (List.mem_filter.mp (one ▸ List.mem_singleton_self answer)).1
  exact ⟨⟨Mailbox.link_delivers, Mailbox.link_keeps, nofun, fun _ => dry, fun _ => dryAlone⟩,
    result, session, sent.trans sentAlone.symm, count, messages, answer, sent, one, answers,
    sends answer leaves⟩

end FirmwareUpdate
