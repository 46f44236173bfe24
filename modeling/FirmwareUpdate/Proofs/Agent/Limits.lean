import FirmwareUpdate.Proofs.Agent.Sending
import FirmwareUpdate.Proofs.Agent.Told

/-!
# The limits that an agent keeps

Whatever a device and others send, an agent repeats its request to update only so often, passes
the component table from its first entry on, updates every component that was accepted at most
once and in order, and activates once, after all of them have had their turn. It succeeds exactly
if the device has activated the images. Each action of the session keeps this, and the loop that
takes one after the other ends for lack of a message at the latest.
-/

namespace FirmwareUpdate

open Wire AgentLog

variable {settings : AgentSettings} {plan : UpdatePlan} {retries : Nat} {log : List AgentEvent}

namespace Session

variable {session asking after : Session}

/-- A response is taken with everything that it says, or it leaves nothing but its code. -/
theorem process_eq_ok {message : List UInt8} {cc : CompletionCode}
    (taken : (session.process message).1 = .ok cc) :
    ∃ command response, session.Answers command message response ∧ response.cc = cc ∧
      (cc.isSuccess = true ∧
          (session.coded cc).apply command response.data = (.ok (), (session.process message).2) ∨
        cc.isSuccess = false ∧ (session.process message).2 = session.coded cc) := by
  rcases session.process_cases message with ⟨error, refused⟩ | ⟨command, response, answers, result⟩
  · rw [refused] at taken
    cases taken
  · rw [result] at taken ⊢
    by_cases success : response.cc.isSuccess = true
    · unfold processMatching at taken ⊢
      dsimp only at taken ⊢
      rw [if_pos success] at taken ⊢
      cases applied : (session.coded response.cc).apply command response.data with
      | mk outcome left =>
          unfold coded at applied
          rw [applied] at taken ⊢
          cases outcome with
          | ok done =>
              cases taken
              exact ⟨command, response, answers, rfl, .inl ⟨success, applied⟩⟩
          | error error => cases error <;> cases taken
    · have failed := Bool.eq_false_iff.mpr success
      by_cases unable : command = .requestUpdate ∧ response.cc = UpdateCode.unableToInitiateUpdate
      · obtain ⟨rfl, code⟩ := unable
        rw [processMatching_of_unable session code] at taken
        cases taken
      · rw [processMatching_of_failure session failed unable] at taken ⊢
        cases taken
        exact ⟨command, response, answers, rfl, .inr ⟨failed, rfl⟩⟩

/-- Where an agent stands: its session has finished, with activated images if it says so, or it
goes on from what its log tells. -/
def Stands (settings : AgentSettings) (plan : UpdatePlan) (retries : Nat) (session : Session)
    (log : List AgentEvent) : Prop :=
  session.finished = true ∧ (session.activated = true ↔ Activated log) ∨
    Told settings plan retries session log

namespace Told

section

variable {request message : List UInt8} {grown : List AgentEvent} {command : AgentCommand}

/-- While nothing has been replied to a request to activate, nothing is active. -/
theorem not_activated (told : Told settings plan retries session log) : ¬ Activated log :=
  AgentLog.not_activated told.unanswered

/-- Images are activated by the response that says so. -/
theorem activated_iff (told : Told settings plan retries session log)
    (exchanged : Exchanged log grown .activateFirmware request message) :
    Activated grown ↔ ∃ response answer, Replies request message response ∧
      response.cc.isSuccess = true ∧
      decode "ActivateFirmware" ActivationResponse.reader response.data = .ok answer := by
  constructor
  · rintro ⟨asked, said, response, answer, sent, replied, replies, rest⟩
    have asked_mem := mem_requests sent
    have said_mem := mem_replies replied
    rw [exchanged.asked_self, told.unasked] at asked_mem
    rw [exchanged.answered_self, told.unanswered] at said_mem
    cases List.mem_singleton.mp asked_mem
    cases List.mem_singleton.mp said_mem
    exact ⟨response, answer, replies, rest⟩
  · rintro ⟨response, answer, replies, rest⟩
    exact ⟨request, message, response, answer, exchanged.sent, exchanged.replied, replies, rest⟩

/-- The component that the device takes up, or does not, has its turn. -/
theorem beginComponent (told : Told settings plan retries session log)
    (ordered : session.Ordered settings plan)
    (awaiting : Awaiting asking .updateComponent request session)
    (exchanged : Exchanged log grown .updateComponent request message) {cc : CompletionCode}
    {answer : ComponentResponse}
    (begun : (session.coded cc).beginComponent answer = (.ok (), after)) :
    Told settings plan retries after grown := by
  unfold Session.beginComponent at begun
  split at begun
  · cases begun
  · rename_i index next
    have next : session.nextComponent? = some index := next
    have elsewhere (other : Nat) (distinct : other ≠ index) :
        (session.outcomes.set index .skipped)[other]? = session.outcomes[other]? :=
      List.getElem?_set_ne distinct.symm
    split at begun <;> cases begun
    · have turned := told.turned ordered awaiting exchanged next (fun _ _ => rfl)
        (fun _ known => known) id
      exact { turned with idle := by rintro ⟨⟩ }
    · refine { told.turned ordered awaiting exchanged next elsewhere ?_ ?_ with }
      · intro other known
        by_cases same : other = index
        · rw [same]
          exact (nextComponent?_eq_some next).2
        · rwa [elsewhere other same] at known
      · intro updated
        exact (List.mem_or_eq_of_mem_set updated).resolve_right nofun

/-- A response that is taken with success leaves the agent where its log says. -/
theorem stands (told : Told settings plan retries session log)
    (ordered : session.Ordered settings plan)
    (awaiting : Awaiting asking command request session)
    (exchanged : Exchanged log grown command request message)
    {response : Response} (replied : Replies request message response)
    (success : response.cc.isSuccess = true)
    (applied : (session.coded response.cc).apply command response.data = (.ok (), after)) :
    Stands settings plan retries after grown := by
  have allowed := (awaiting.answers_iff.mpr replied).allowed ordered.placed
  cases command with
  | queryDeviceIdentifiers | getFirmwareParameters | getStatus =>
      unfold apply at applied
      dsimp only at applied
      split at applied <;> cases applied
      exact .inr { told.unrelated exchanged (by decide) with }
  | requestUpdate =>
      have idle : session.state = .idle := by simpa [allows] using allowed
      have asked := told.asked_succ exchanged idle
      unfold apply beginUpdate at applied
      dsimp only at applied
      split at applied
      · cases applied
      · split at applied <;> cases applied
        -- The session is idle no longer, so the bound that holds in idle is not asked of it.
        have learning : Told settings plan retries
            { session with state := .learnComponents } log := { told with idle := by rintro ⟨⟩ }
        exact .inr
          { learning.exchanged exchanged (by decide) told.within asked (by rintro ⟨⟩) with }
  | getDeviceMetaData =>
      unfold apply acceptMetadata at applied
      dsimp only at applied
      split at applied
      · cases applied
      · split at applied <;> cases applied
        exact .inr { told.unrelated exchanged (by decide) with }
  | passComponentTable =>
      unfold apply at applied
      dsimp only at applied
      split at applied <;> cases applied
      rename_i answer read
      exact .inr { told.recordPassed ordered awaiting exchanged replied success read with }
  | updateComponent =>
      unfold apply at applied
      dsimp only at applied
      split at applied
      · cases applied
      · exact .inr (told.beginComponent ordered awaiting exchanged applied)
  | activateFirmware =>
      unfold apply at applied
      dsimp only at applied
      split at applied <;> cases applied
      rename_i answer read
      exact .inl ⟨rfl, iff_of_true rfl
        ((told.activated_iff exchanged).mpr ⟨response, answer, replied, success, read⟩)⟩
  | cancelUpdateComponent =>
      cases applied
      have ended := (told.unrelated exchanged (by decide)).endComponent ordered.consistent
        (by decide : ComponentOutcome.failed ≠ .accepted) (by rintro ⟨⟩)
      exact .inr { ended with }
  | cancelUpdate =>
      unfold apply at applied
      dsimp only at applied
      split at applied <;> cases applied
      exact .inl ⟨rfl, iff_of_false (Bool.eq_false_iff.mp told.inactive)
        (told.unrelated exchanged (by decide)).not_activated⟩

/-- Images are activated only by an exchange that ends with success. -/
theorem process_of_activated (told : Told settings plan retries session log)
    (awaiting : Awaiting asking command request session)
    (exchanged : Exchanged log grown command request message) (activated : Activated grown) :
    ∃ cc, (session.process message).1 = .ok cc ∧ cc.isSuccess = true := by
  by_cases activation : command = .activateFirmware
  · subst activation
    obtain ⟨response, answer, replied, success, read⟩ := (told.activated_iff exchanged).mp activated
    refine ⟨response.cc, ?_, success⟩
    rw [(awaiting.answers_iff.mpr replied).process_eq]
    unfold processMatching apply
    dsimp only
    rw [if_pos success, read]
  · exact absurd activated (AgentLog.not_activated (told.unactivated exchanged activation).2)

/-- A device that refuses to begin the update may be asked again. -/
theorem again (told : Told settings plan retries session log) (idle : session.state = .idle)
    (exchanged : Exchanged log grown .requestUpdate request message)
    (left : retries < settings.updateRetries) :
    Told settings plan (retries + 1) session grown := by
  have asked := told.asked_succ exchanged idle
  exact told.exchanged exchanged (by decide) left (Nat.le_succ_of_le asked) fun _ => asked

end

end Told

/-! ## One action -/

/-- While the device is served, what has been asked awaits its response. -/
theorem Awaiting.serving {first : Session} {command : AgentCommand} {request : List UInt8}
    {events : List AgentEvent} (awaiting : Awaiting asking command request first)
    (placed : first.Placed) (serving : first.Serving events after) :
    Awaiting asking command request after ∧ after.Placed := by
  induction serving with
  | idle => exact ⟨awaiting, placed⟩
  | @served events waiting message answer serving answered ih =>
      exact ⟨ih.1.handle ih.2 message.data, ih.2.next (.handle message.data)⟩

/-- What is taken is the response that the session awaits. -/
theorem Awaiting.replied {command other : AgentCommand} {request message : List UInt8}
    {response : Response} (awaiting : Awaiting asking command request session)
    (answers : session.Answers other message response) :
    other = command ∧ Replies request message response := by
  have same : other = command := by
    obtain ⟨-, pending, awaits, rfl, -⟩ := answers
    cases awaiting.pending.symm.trans awaits
    rfl
  subst same
  exact ⟨rfl, awaiting.answers_iff.mp answers⟩

/-- What an exchange comes to for an agent that has been within its limits. -/
structure Continues (settings : AgentSettings) (plan : UpdatePlan) (retries : Nat)
    (command : AgentCommand) (result : Except UpdateError CompletionCode) (after : Session)
    (log : List AgentEvent) : Prop where
  lawful : Lawful settings plan log
  ordered : after.Ordered settings plan
  succeeded : ∀ cc, result = .ok cc → cc.isSuccess = true → Stands settings plan retries after log
  failed : (∀ cc, result = .ok cc → cc.isSuccess = false) → ¬ Activated log
  again : ∀ cc, result = .ok cc → cc.isSuccess = false → command = .requestUpdate →
    retries < settings.updateRetries → Told settings plan (retries + 1) after log

/-- An exchange keeps the limits, whatever the device says. -/
theorem Told.continues (told : Told settings plan retries session log)
    (ordered : session.Ordered settings plan) (lawful : Lawful settings plan log)
    {command : AgentCommand} (next : session.nextAction = .issue command)
    {events : List AgentEvent} {result : Except UpdateError CompletionCode}
    (exchanges : session.Exchanges command events result after) :
    Continues settings plan retries command result after (log ++ events) := by
  have issued := @Ordered.next settings plan session ordered (.issue command) rfl
  cases exchanges with
  | refused refusal =>
      rw [List.append_nil]
      exact ⟨lawful, issued, nofun, fun _ => told.not_activated, nofun⟩
  | @unanswered request events _ made serving error =>
      have sent := lawful.concat (told.obeys_sent ordered next made)
      have unanswered : replies .activateFirmware
          (log ++ [.sent command request] ++ events) = [] := by
        rw [replies_append, replies_append, (silent_of_serving serving _).2, told.unanswered]
        rfl
      obtain ⟨-, ordered⟩ := (told.issue made).serving issued serving
      rw [List.append_cons]
      exact ⟨sent.serving serving, ordered, nofun, fun _ => AgentLog.not_activated unanswered,
        nofun⟩
  | @replied request message events waiting made serving =>
      have sent := lawful.concat (told.obeys_sent ordered next made)
      have served := sent.serving serving
      have exchanged := exchanged_of_serving log serving command request message
      obtain ⟨awaiting, -⟩ := (Awaiting.of_issue ordered.fits made).serving issued.placed serving
      obtain ⟨told, ordered⟩ := (told.issue made).serving issued serving
      refine ⟨?_, @Ordered.next settings plan waiting ordered (.process message) rfl,
        fun cc taken success => ?_, fun unsuccessful activated => ?_,
        fun cc taken refused update left => ?_⟩
      · rw [List.append_cons, ← List.append_assoc]
        exact served.concat (served.obeys.concat fun _ => rfl)
      · obtain ⟨other, response, answers, rfl, ⟨-, applied⟩ | ⟨failed, -⟩⟩ := process_eq_ok taken
        · obtain ⟨rfl, replied⟩ := awaiting.replied answers
          exact told.stands ordered awaiting exchanged replied success applied
        · cases failed.symm.trans success
      · obtain ⟨cc, taken, success⟩ := told.process_of_activated awaiting exchanged activated
        cases (unsuccessful cc taken).symm.trans success
      · obtain ⟨other, response, answers, rfl, ⟨success, -⟩ | ⟨-, coded⟩⟩ := process_eq_ok taken
        · cases refused.symm.trans success
        · obtain ⟨rfl, -⟩ := awaiting.replied answers
          subst update
          have allowed := answers.allowed ordered.placed
          have idle : waiting.state = .idle := by simpa [allows] using allowed
          rw [coded]
          exact { told.again idle exchanged left with }

end Session

namespace AgentRun

variable {σ : Type} {link : Link σ} {patience : Nat}

/-- An agent succeeds if its session has activated the images. -/
theorem verdict_eq_ok {session : Session} :
    verdict session = .ok () ↔ session.activated = true := by
  unfold verdict
  split
  · rename_i activated
    exact iff_of_true rfl activated
  · rename_i inactive
    refine iff_of_false ?_ inactive
    split <;> nofun

/-- Only a refused request to update is repeated, and only so often. -/
theorem of_mayRetry {session : Session} {command : AgentCommand} {cc : CompletionCode}
    (again : mayRetry session command cc retries = true) :
    command = .requestUpdate ∧ retries < session.settings.updateRetries := by
  simp only [mayRetry, Bool.and_eq_true, beq_iff_eq, decide_eq_true_eq] at again
  exact ⟨again.1.1, again.2⟩

/-- A session that needs nothing more says whether the images have been activated. -/
theorem verdict_eq_ok_iff {session : Session} (stands : session.Stands settings plan retries log) :
    verdict session = .ok () ↔ Activated log := by
  rw [verdict_eq_ok]
  rcases stands with ⟨-, same⟩ | told
  · exact same
  · exact iff_of_false (Bool.eq_false_iff.mp told.inactive) told.not_activated

/-- A session that needs something has not finished. -/
theorem told_of_nextAction {session : Session} (stands : session.Stands settings plan retries log)
    (unfinished : session.nextAction ≠ .finished) : session.Told settings plan retries log := by
  rcases stands with ⟨finished, -⟩ | told
  · refine absurd ?_ unfinished
    unfold Session.nextAction
    exact if_pos finished
  · exact told

/-- What a run comes to: the agent has been within its limits, and it succeeds exactly if the
device has activated the images, unless it has given up waiting before it has had enough. -/
structure Complies (settings : AgentSettings) (plan : UpdatePlan) (enough : Prop)
    (result : Except UpdateError Unit) (log : List AgentEvent) : Prop where
  lawful : Lawful settings plan log
  activated : result = .ok () → Activated log
  succeeded : enough → Activated log → result = .ok ()

theorem Complies.of_error {enough : Prop} {error : UpdateError}
    (lawful : Lawful settings plan log) (inactive : ¬ Activated log) :
    Complies settings plan enough (.error error) log :=
  ⟨lawful, nofun, fun _ activated => absurd activated inactive⟩

theorem Complies.mono {enough more : Prop} {result : Except UpdateError Unit}
    (complies : Complies settings plan enough result log) (implies : more → enough) :
    Complies settings plan more result log :=
  ⟨complies.lawful, complies.activated, fun given => complies.succeeded (implies given)⟩

/-- A wait for a request of the device leaves the session as its log tells. -/
theorem awaitRequestLogged_told {run : AgentRun σ} (messages : Nat) (deadline : Deadline)
    (told : run.session.Told settings plan retries log) (ordered : run.session.Ordered settings plan)
    (lawful : Lawful settings plan log) :
    let ended := awaitRequestLogged link patience messages deadline run
    ended.1.2.session.Told settings plan retries (log ++ ended.2) ∧
      ended.1.2.session.Ordered settings plan ∧ Lawful settings plan (log ++ ended.2) := by
  have serving := (@awaitRequestLogged_attends _ link patience messages deadline run).serving
  obtain ⟨told, ordered⟩ := told.serving ordered serving
  exact ⟨told, ordered, lawful.serving serving⟩

/-- The loop keeps the limits from wherever an agent stands. Each action that it goes on from has
used up packets, so a link that runs dry ends it. -/
theorem runActionsLogged_complies {supply : σ → Nat} (actions : Nat) (run : AgentRun σ)
    (ordered : run.session.Ordered settings plan) (lawful : Lawful settings plan log)
    (stands : run.session.Stands settings plan retries log) :
    let ended := runActionsLogged link patience actions retries run
    Complies settings plan (link.Supplied supply ∧ supply run.medium < actions)
      ended.1.1 (log ++ ended.2) := by
  induction actions generalizing retries run log with
  | zero =>
      refine ⟨(List.append_nil log).symm ▸ lawful, by rintro ⟨⟩, fun enough => ?_⟩
      exact absurd enough.2 (Nat.not_lt_zero _)
  | succ actions ih =>
      -- an action that has used up packets leaves enough for the ones that remain
      have onward {retries : Nat} {log : List AgentEvent} (after : AgentRun σ)
          (ordered : after.session.Ordered settings plan) (lawful : Lawful settings plan log)
          (stands : after.session.Stands settings plan retries log)
          (used : link.Supplied supply → supply after.medium < supply run.medium) :=
        (ih after ordered lawful stands).mono fun enough : link.Supplied supply ∧
          supply run.medium < actions + 1 => ⟨enough.1, by have := used enough.1; omega⟩
      unfold runActionsLogged
      cases next : run.session.nextAction with
      | finished =>
          have verdict := verdict_eq_ok_iff stands
          dsimp only
          rw [List.append_nil]
          exact ⟨lawful, verdict.mp, fun _ => verdict.mpr⟩
      | awaitRequest =>
          have told := told_of_nextAction stands (by rw [next]; decide)
          have kept := @awaitRequestLogged_told _ _ _ _ _ link patience run patience
            (run.deadline link) told ordered lawful
          have used (supplied : link.Supplied supply) :=
            (@awaitRequestLogged_attends _ link patience patience (run.deadline link) run).uses
              supplied
          dsimp only at kept ⊢
          cases served : awaitRequestLogged link patience patience (run.deadline link) run with
          | mk ended events =>
              obtain ⟨result, after⟩ := ended
              rw [served] at kept used
              obtain ⟨told, ordered, lawful⟩ := kept
              cases result with
              | error error => exact .of_error lawful told.not_activated
              | ok done =>
                  dsimp only
                  rw [← List.append_assoc]
                  exact onward after ordered lawful (.inr told) fun supplied => used supplied rfl
      | issue command =>
          have told := told_of_nextAction stands (by rw [next]; rintro ⟨⟩)
          have continues := told.continues ordered lawful next
            (@exchangeLogged_exchanges _ link patience run command)
          have used (supplied : link.Supplied supply) :=
            @exchangeLogged_supply _ link patience _ supplied run command
          dsimp only at continues ⊢
          cases exchanged : run.exchangeLogged link patience command with
          | mk ended events =>
              obtain ⟨result, after⟩ := ended
              rw [exchanged] at continues used
              cases result with
              | error error => exact .of_error continues.lawful (continues.failed (by rintro _ ⟨⟩))
              | ok cc =>
                  have used (supplied : link.Supplied supply) := used supplied rfl
                  dsimp only
                  split
                  · rename_i success
                    rw [← List.append_assoc]
                    exact onward after continues.ordered continues.lawful
                      (continues.succeeded cc rfl success) used
                  · rename_i refused
                    have refused := Bool.eq_false_iff.mpr refused
                    split
                    · rename_i again
                      obtain ⟨update, left⟩ := of_mayRetry again
                      rw [continues.ordered.configured] at left
                      rw [← List.append_assoc]
                      exact onward after continues.ordered continues.lawful
                        (.inr (continues.again cc rfl refused update left)) used
                    · refine .of_error continues.lawful (continues.failed ?_)
                      rintro _ ⟨⟩
                      exact refused

end AgentRun

/-- Whatever a device and others send, an agent that begins an update is within its limits at
every moment: it repeats the request to update only so often, announces the components in the
order of the plan, asks for the update of each at most once, in order and only if the device has
accepted it, and asks for activation at most once, when a component has been applied and none
that was accepted is left. It succeeds only if the device has activated the images, and it does
so whenever the device has, if its patience outlasts the packets that the link delivers. The log
of the run tells all that the link is handed: each of its requests goes to the peer, under one tag
after the other, and each answer back to the peer that has asked, under the tag of the request. -/
theorem agent_keeps_its_limits {settings : AgentSettings} {plan : UpdatePlan} {session : Session}
    (started : Session.start settings plan = .ok session) {σ : Type} (endpoint : Endpoint)
    (link : Link σ) (patience : Nat) (medium : σ) :
    let run : AgentRun σ := { session, endpoint, medium }
    let log := run.log link patience
    (∀ earlier, earlier <+: log → Obeys settings plan earlier) ∧
    ((run.runSession link patience).1 = .ok () → Activated log) ∧
    (∀ supply, link.Supplied supply → supply medium < patience →
      ((run.runSession link patience).1 = .ok () ↔ Activated log)) ∧
    ∀ handed, link.Keeps handed →
      (∀ request answer, .served request answer ∈ log → request.source = endpoint.peer) ∧
      ∃ parcels,
        List.Forall₂ (endpoint.channel.Hands endpoint.own) (AgentLog.messages endpoint log)
          parcels ∧
        handed (run.runSession link patience).2.medium = handed medium ++ parcels.flatten := by
  intro run log
  have ordered := Session.ordered_of_start started
  have told := Session.Told.of_start started
  have lawful : Lawful settings plan [] := by
    intro earlier first
    rw [List.prefix_nil.mp first]
    exact told.obeys
  have complies (supply : σ → Nat) := @AgentRun.runActionsLogged_complies _ _ _ _ _ link patience
    supply patience run ordered lawful (.inr told)
  dsimp only at complies
  rw [← AgentRun.runSession_eq] at complies
  have limits := complies fun _ => 0
  refine ⟨limits.lawful, limits.activated, fun supply supplied enough => ?_, fun handed keeps => ?_⟩
  · exact ⟨limits.activated, (complies supply).succeeded ⟨supplied, enough⟩⟩
  · have hands := @AgentRun.runActionsLogged_hands _ link patience _ keeps patience 0 run
    dsimp only at hands
    rw [← AgentRun.runSession_eq] at hands
    exact ⟨hands.peers, hands.parcels⟩

namespace Willing

/-- The endpoint of the agent. -/
def endpoint : Endpoint :=
  .of { maxPacketSize := 64, size_gt := by decide, size_le := by decide } ⟨8⟩ ⟨9⟩ 0x20

/-- What the device says, each message behind the last byte of its header. It has to be asked
twice for the update, takes the component without asking for its image, and activates it. -/
def messages : List (UInt8 × List UInt8) :=
  [(0xc0, [0x00, 0x05, 0x01, 0x00, 0, 0, 0, 0, 0]),
    (0xc1, [0x01, 0x05, 0x02, 0x00, 0, 0, 0, 0, 0, 0, 0, 0, 0, 0]),
    (0xc2, [0x02, 0x05, 0x10, 0x8e]),
    (0xc3, [0x03, 0x05, 0x10, 0x00, 0, 0, 0]),
    (0xc4, [0x04, 0x05, 0x13, 0x00, 0, 0]),
    (0xc5, [0x05, 0x05, 0x14, 0x00, 0, 0, 0, 0, 0, 0, 0, 0]),
    (0xc8, [0x80, 0x05, 0x16, 0x00]),
    (0xc9, [0x81, 0x05, 0x17, 0x00]),
    (0xca, [0x82, 0x05, 0x18, 0x00, 0, 0]),
    (0xc6, [0x06, 0x05, 0x1a, 0x00, 0, 0])]

/-- The agent before it does anything. -/
def run : AgentRun Recorder where
  session := AskedUpdate.first
  endpoint
  medium.inbox := messages.map fun (flags, message) =>
    { source := 0x20, contents := [1, 8, 9, flags, managementType] ++ message }

end Willing

/-- A device that is willing is updated, and the agent knows it. Ten messages are sent to it: seven
requests, and three answers under the tags of what the device has asked. -/
theorem willing_device_is_updated :
    Session.start {} AskedUpdate.plan = .ok AskedUpdate.first ∧
    Recorder.link.Supplied (fun recorder => recorder.inbox.length) ∧
    Recorder.link.Keeps (fun recorder => recorder.sent.reverse) ∧
    (Willing.run.runSession Recorder.link 16).1 = .ok () ∧
    Activated (Willing.run.log Recorder.link 16) ∧
    ∃ parcels, List.Forall₂ (Willing.endpoint.channel.Hands ⟨8⟩)
        (AgentLog.messages Willing.endpoint (Willing.run.log Recorder.link 16)) parcels ∧
      parcels.flatten.length = 10 ∧
      (AgentLog.messages Willing.endpoint (Willing.run.log Recorder.link 16)).map Message.tag =
        [⟨0, true⟩, ⟨1, true⟩, ⟨2, true⟩, ⟨3, true⟩, ⟨4, true⟩, ⟨5, true⟩,
          ⟨0, false⟩, ⟨1, false⟩, ⟨2, false⟩, ⟨6, true⟩] := by
  have started : Session.start {} AskedUpdate.plan = .ok AskedUpdate.first := rfl
  obtain ⟨-, -, complete, tells⟩ := agent_keeps_its_limits started Willing.endpoint Recorder.link 16
    Willing.run.medium
  have succeeds : (Willing.run.runSession Recorder.link 16).1.isOk = true := by decide +kernel
  have result : (Willing.run.runSession Recorder.link 16).1 = .ok () := by
    cases outcome : (Willing.run.runSession Recorder.link 16).1 with
    | ok done => rfl
    | error error =>
        rw [outcome] at succeeds
        cases succeeds
  have sent : (Willing.run.runSession Recorder.link 16).2.medium.sent.length = 10 := by
    decide +kernel
  obtain ⟨-, parcels, messages, handed⟩ := tells _ Recorder.link_keeps
  refine ⟨started, Recorder.link_supplied, Recorder.link_keeps, result,
    (complete _ Recorder.link_supplied (by decide)).mp result, parcels, messages, ?_,
    by decide +kernel⟩
  exact (congrArg List.length handed).symm.trans (List.length_reverse.trans sent)

end FirmwareUpdate
