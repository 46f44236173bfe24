import FirmwareUpdate.Proofs.Agent.Bookkeeping

/-!
# Responses take effect on what was asked

`Awaits` reads off the inputs of a session which request still awaits its response: the one that
was issued last, while no message has replied to it. The session keeps only number and command
of that request, and finds the component it was about again when the response comes. Requests
of the device may be served in between; none of them leads the session to another component.
-/

namespace FirmwareUpdate

open Wire

/-- The message is a response with the instance and the command of a request. -/
structure Replies (request message : List UInt8) (response : Response) : Prop where
  parsed : Response.parse message = .ok response
  ours : response.typ = firmwareUpdateType
  matching : ∃ asked, Request.parse request = .ok asked ∧ response.iid = asked.iid ∧
    response.cmd = asked.cmd

/-- The body of the request is written by a layout. -/
def Carries (request : List UInt8) (layout : Layout) : Prop :=
  ∃ asked, Request.parse request = .ok asked ∧ layout.toMessage = .ok asked.data

namespace Session

variable {first session after : Session}

/-- After these inputs, the request that `asking` made of a command awaits its response. -/
inductive Awaits (first : Session) :
    List SessionInput → Session → AgentCommand → List UInt8 → Prop where
  | issued {inputs : List SessionInput} {command : AgentCommand} {request : List UInt8}
      (made : ((first.run inputs).issue command).1 = .ok request) :
      Awaits first (inputs ++ [.issue command]) (first.run inputs) command request
  /-- Another command cannot be issued. -/
  | refused {inputs : List SessionInput} {asking : Session} {command other : AgentCommand}
      {request : List UInt8} {error : UpdateError}
      (awaits : Awaits first inputs asking command request)
      (refusal : ((first.run inputs).issue other).1 = .error error) :
      Awaits first (inputs ++ [.issue other]) asking command request
  /-- A message comes that is no response to the request. -/
  | stray {inputs : List SessionInput} {asking : Session} {command : AgentCommand}
      {request message : List UInt8} (awaits : Awaits first inputs asking command request)
      (unrelated : ∀ response, ¬ Replies request message response) :
      Awaits first (inputs ++ [.process message]) asking command request
  | served {inputs : List SessionInput} {asking : Session} {command : AgentCommand}
      {request : List UInt8} (message : List UInt8)
      (awaits : Awaits first inputs asking command request) :
      Awaits first (inputs ++ [.handle message]) asking command request
  /-- Another plan cannot be loaded. -/
  | kept {inputs : List SessionInput} {asking : Session} {command : AgentCommand}
      {request : List UInt8} {plan : UpdatePlan} {error : UpdateError}
      (awaits : Awaits first inputs asking command request)
      (refusal : (first.run inputs).load plan = .error error) :
      Awaits first (inputs ++ [.load plan]) asking command request

/-! ## Issuing -/

/-- What a command that is issued writes and leaves. -/
theorem issue_eq_ok {command : AgentCommand} {request : List UInt8}
    (made : (session.issue command).1 = .ok request) :
    ∃ data, allows session.state command = true ∧ session.requestBody command = .ok data ∧
      request = Request.toBytes
        { iid := session.nextIid, typ := firmwareUpdateType, cmd := command.code, data } ∧
      (session.issue command).2 =
        { session with
          nextIid := nextInstance session.nextIid
          pending := some { iid := session.nextIid, command } } := by
  unfold issue at made ⊢
  split at made
  · rename_i allowed
    cases written : session.requestBody command with
    | error error =>
        rw [written] at made
        cases made
    | ok data =>
        rw [written] at made
        cases made
        rw [if_pos allowed]
        exact ⟨data, allowed, rfl, rfl, rfl⟩
  · cases made

/-- A command that is not issued changes at most the code. -/
theorem issue_eq_error {command : AgentCommand} {error : UpdateError}
    (refusal : (session.issue command).1 = .error error) :
    ∃ lastCode, (session.issue command).2 = { session with lastCode } := by
  unfold issue at refusal ⊢
  split at refusal
  · rename_i allowed
    cases written : session.requestBody command with
    | error _ =>
        rw [if_pos allowed]
        exact ⟨_, rfl⟩
    | ok data =>
        rw [written] at refusal
        cases refusal
  · rename_i forbidden
    rw [if_neg forbidden]
    exact ⟨_, rfl⟩

/-- The announcement of a component carries its record. -/
theorem of_requestBody_passComponentTable {data : List UInt8}
    (written : session.requestBody .passComponentTable = .ok data) :
    ∃ component, session.plan.components[session.passed]? = some component ∧
      (TableEntry.layout
        { flag := .forIndex session.passed session.plan.components.length
          record := component.record }).toMessage = .ok data := by
  unfold requestBody at written
  dsimp only at written
  split at written
  · cases written
  · rename_i component listed
    exact ⟨component, listed, toMessage_of_mapError written⟩

/-- The request to update a component carries its record. -/
theorem of_requestBody_updateComponent {data : List UInt8}
    (written : session.requestBody .updateComponent = .ok data) :
    ∃ index component, session.nextComponent? = some index ∧
      session.plan.components[index]? = some component ∧
      component.record.updateLayout.toMessage = .ok data := by
  unfold requestBody at written
  dsimp only at written
  split at written
  · cases written
  · rename_i component listed
    obtain ⟨index, next, listed⟩ := Option.bind_eq_some_iff.mp listed
    exact ⟨index, component, next, listed, toMessage_of_mapError written⟩

/-! ## While a request awaits its response -/

/-- The session awaits the response to what `asking` made of a command, and what the response
will be about is where it was. -/
structure Awaiting (asking : Session) (command : AgentCommand) (request : List UInt8)
    (session : Session) : Prop where
  made : (asking.issue command).1 = .ok request
  fits : FitsInstance asking.nextIid
  pending : session.pending = some { iid := asking.nextIid, command }
  plan : session.plan = asking.plan
  passed : session.passed = asking.passed
  nextUpdate : session.nextUpdate = asking.nextUpdate
  outcomes : command = .updateComponent → session.outcomes = asking.outcomes

namespace Awaiting

variable {asking : Session} {command : AgentCommand} {request : List UInt8}

/-- The request is read as it was made. -/
theorem parsed (awaiting : Awaiting asking command request session) :
    ∃ data, asking.requestBody command = .ok data ∧
      Request.parse request = .ok
        { iid := asking.nextIid, typ := firmwareUpdateType, cmd := command.code, data } := by
  obtain ⟨data, -, written, rfl, -⟩ := issue_eq_ok awaiting.made
  exact ⟨data, written, Request.parse_toBytes awaiting.fits fitsType_firmwareUpdate⟩

/-- A request that has been made is awaited. -/
theorem of_issue (fits : FitsInstance asking.nextIid)
    (made : (asking.issue command).1 = .ok request) :
    Awaiting asking command request (asking.issue command).2 := by
  obtain ⟨data, -, -, -, left⟩ := issue_eq_ok made
  rw [left]
  exact ⟨made, fits, rfl, rfl, rfl, rfl, fun _ => rfl⟩

/-- The code of the last command does not matter. -/
theorem coded (awaiting : Awaiting asking command request session) (lastCode : CompletionCode) :
    Awaiting asking command request { session with lastCode } :=
  { awaiting with }

/-- A request of the device may end the component that is being updated, but not while an answer
to the request for the next one is awaited. -/
theorem handle (awaiting : Awaiting asking command request session) (placed : session.Placed)
    (message : List UInt8) : Awaiting asking command request (session.handleRequest message).2 := by
  refine of_handleRequest (Awaiting asking command request) message awaiting fun serves => ?_
  have allowed := placed.awaited _ awaiting.pending
  refine coded ?_ _
  cases serves with
  | applied asked expected =>
      refine { awaiting with outcomes := ?_ }
      rintro rfl
      simp [expected, allows] at allowed
  | _ => exact { awaiting with }

/-- The request is answered by the messages that reply to it. -/
theorem answers_iff (awaiting : Awaiting asking command request session)
    {message : List UInt8} {response : Response} :
    session.Answers command message response ↔ Replies request message response := by
  obtain ⟨data, -, parsed⟩ := awaiting.parsed
  constructor
  · rintro ⟨read, pending, awaits, -, matching⟩
    cases awaiting.pending.symm.trans awaits
    simp only [PendingRequest.isAnsweredBy, Bool.and_eq_true, beq_iff_eq] at matching
    exact ⟨read, matching.1.1, _, parsed, matching.1.2, matching.2⟩
  · rintro ⟨read, ours, asked, again, iid, cmd⟩
    cases parsed.symm.trans again
    exact ⟨read, _, awaiting.pending, rfl,
      by simp [PendingRequest.isAnsweredBy, ours, iid, cmd]⟩

/-- A message that does not reply to the request is refused. -/
theorem process_stray (awaiting : Awaiting asking command request session)
    {message : List UInt8} (unrelated : ∀ response, ¬ Replies request message response) :
    ∃ error, session.process message = (.error error, session) := by
  rcases session.process_cases message with refused | ⟨other, response, answers, -⟩
  · exact refused
  · obtain ⟨read, pending, awaits, rfl, matching⟩ := answers
    have same := Option.some.inj (awaiting.pending.symm.trans awaits)
    exact absurd (awaiting.answers_iff.mp ⟨read, pending, awaits, by rw [← same], matching⟩)
      (unrelated response)

/-- The next component is the one whose update was asked for. -/
theorem nextComponent? (awaiting : Awaiting asking .updateComponent request session) :
    session.nextComponent? = asking.nextComponent? := by
  unfold Session.nextComponent?
  rw [awaiting.outcomes rfl, awaiting.nextUpdate]

/-- The announcement carries the record of the next component that has not been announced. -/
theorem announces (awaiting : Awaiting asking .passComponentTable request session) :
    ∃ component, session.plan.components[asking.passed]? = some component ∧
      Carries request (TableEntry.layout
        { flag := .forIndex asking.passed session.plan.components.length
          record := component.record }) := by
  obtain ⟨data, written, parsed⟩ := awaiting.parsed
  obtain ⟨component, listed, body⟩ := of_requestBody_passComponentTable written
  rw [awaiting.plan]
  exact ⟨component, listed, _, parsed, body⟩

/-- The request to update a component carries the record of the next one. -/
theorem asksFor (awaiting : Awaiting asking .updateComponent request session) :
    ∃ index component, asking.nextComponent? = some index ∧
      session.plan.components[index]? = some component ∧
      Carries request component.record.updateLayout := by
  obtain ⟨data, written, parsed⟩ := awaiting.parsed
  obtain ⟨index, component, next, listed, body⟩ := of_requestBody_updateComponent written
  rw [awaiting.plan]
  exact ⟨index, component, next, listed, _, parsed, body⟩

end Awaiting

/-! ## Runs -/

/-- The session that is left awaits the response to the request that the inputs tell. -/
theorem Awaits.awaiting {inputs : List SessionInput} {asking : Session} {command : AgentCommand}
    {request : List UInt8} (awaits : first.Awaits inputs asking command request)
    (placed : first.Placed) (fits : FitsInstance first.nextIid) :
    Awaiting asking command request (first.run inputs) := by
  induction awaits with
  | issued made =>
      rw [run_concat]
      exact .of_issue (run_fits fits _) made
  | refused _ refusal ih =>
      obtain ⟨code, left⟩ := issue_eq_error refusal
      rw [run_concat]
      show Awaiting _ _ _ ((first.run _).issue _).2
      rw [left]
      exact ih.coded code
  | stray _ unrelated ih =>
      obtain ⟨error, refused⟩ := ih.process_stray unrelated
      rw [run_concat]
      show Awaiting _ _ _ ((first.run _).process _).2
      rwa [refused]
  | served message _ ih =>
      rw [run_concat]
      exact ih.handle (placed.run _) message
  | kept _ refusal ih =>
      rw [run_concat]
      unfold next
      dsimp only
      rwa [refusal]

/-- A response that is taken is awaited no more. -/
theorem processMatching_pending (session : Session) (command : AgentCommand)
    (response : Response) : (session.processMatching command response).2.pending = none := by
  obtain ⟨-, code, after, applies, result⟩ | ⟨-, -, result⟩ | result :=
    session.processMatching_cases command response
  · rw [result]
    exact applies.settled rfl
  · rw [result]
    rfl
  · rw [result]
    rfl

/-- Serving a request leaves the command under way. -/
theorem Serves.pending {request : Request} {served : Except CompletionCode (List UInt8)}
    (serves : session.Serves request served after) : after.pending = session.pending := by
  cases serves <;> rfl

/-- No response is awaited, or the inputs tell to which request. -/
def Accounted (first : Session) (inputs : List SessionInput) : Prop :=
  (first.run inputs).pending = none ∨
    ∃ asking command request, first.Awaits inputs asking command request

/-- One more input keeps a run accounted for. -/
theorem Accounted.concat {inputs : List SessionInput} (accounted : first.Accounted inputs)
    (placed : first.Placed) (fits : FitsInstance first.nextIid) (input : SessionInput) :
    first.Accounted (inputs ++ [input]) := by
  unfold Accounted at *
  rw [run_concat]
  cases input with
  | issue command =>
      cases made : ((first.run inputs).issue command).1 with
      | ok request => exact .inr ⟨_, _, _, .issued made⟩
      | error error =>
          -- A command that is refused leaves what is pending as it was.
          obtain ⟨code, left⟩ := issue_eq_error made
          have same : ((first.run inputs).issue command).2.pending =
              (first.run inputs).pending := by rw [left]
          exact accounted.imp (fun settled => same.trans settled)
            fun ⟨asking, other, request, awaits⟩ => ⟨asking, other, request, .refused awaits made⟩
  | process message =>
      rcases accounted with settled | ⟨asking, command, request, awaits⟩
      · left
        rcases (first.run inputs).process_cases message with
          ⟨error, refused⟩ | ⟨command, response, -, taken⟩
        · show ((first.run inputs).process message).2.pending = none
          rwa [refused]
        · show ((first.run inputs).process message).2.pending = none
          rw [taken]
          exact processMatching_pending ..
      · have awaiting := awaits.awaiting placed fits
        -- Only an answer to the pending request settles it, every other message strays past.
        by_cases replied : ∃ response, Replies request message response
        · obtain ⟨response, replies⟩ := replied
          left
          show ((first.run inputs).process message).2.pending = none
          rw [(awaiting.answers_iff.mpr replies).process_eq]
          exact processMatching_pending ..
        · exact .inr ⟨asking, command, request, .stray awaits (not_exists.mp replied)⟩
  | handle message =>
      have same : ((first.run inputs).handleRequest message).2.pending =
          (first.run inputs).pending :=
        of_handleRequest (·.pending = (first.run inputs).pending) message rfl
          fun serves => serves.pending
      exact accounted.imp (fun settled => same.trans settled)
        fun ⟨asking, command, request, awaits⟩ => ⟨asking, command, request, .served _ awaits⟩
  | reset => exact .inl rfl
  | load plan =>
      unfold next
      dsimp only
      cases loaded : (first.run inputs).load plan with
      | error error =>
          exact accounted.imp id
            fun ⟨asking, command, request, awaits⟩ =>
              ⟨asking, command, request, .kept awaits loaded⟩
      | ok session =>
          left
          unfold load at loaded
          repeat' split at loaded
          all_goals cases loaded
          rfl

/-- Whatever awaits its response has been issued. -/
theorem accounted (placed : first.Placed) (fits : FitsInstance first.nextIid)
    (settled : first.pending = none) (inputs : List SessionInput) : first.Accounted inputs := by
  suffices ∀ done rest, first.Accounted done → first.Accounted (done ++ rest) from
    this [] inputs (.inl settled)
  intro done rest accounted
  induction rest generalizing done with
  | nil => rwa [List.append_nil]
  | cons input rest ih =>
      rw [List.append_cons]
      exact ih _ (accounted.concat placed fits input)

/-- A message that replies to nothing that awaits a response is refused. -/
theorem process_unasked (placed : first.Placed) (fits : FitsInstance first.nextIid)
    (settled : first.pending = none) (inputs : List SessionInput) (message : List UInt8)
    (unrelated : ∀ asking command request response,
      first.Awaits inputs asking command request → ¬ Replies request message response) :
    ∃ error, (first.run inputs).process message = (.error error, first.run inputs) := by
  rcases accounted placed fits settled inputs with none | ⟨asking, command, request, awaits⟩
  · rcases (first.run inputs).process_cases message with refused | ⟨_, _, answers, -⟩
    · exact refused
    · obtain ⟨-, pending, awaited, -⟩ := answers
      cases none.symm.trans awaited
  · exact (awaits.awaiting placed fits).process_stray
      fun response => unrelated asking command request response awaits

/-! ## What a response does -/

/-- The answer to an announcement is recorded for the next component that has not been
announced. -/
theorem process_announced {message : List UInt8} {response : Response} {answer : TableResponse}
    (answers : session.Answers .passComponentTable message response)
    (success : response.cc.isSuccess = true)
    (read : decode "PassComponentTable" TableResponse.reader response.data = .ok answer) :
    session.process message = (.ok response.cc, (session.coded response.cc).recordPassed answer) := by
  rw [answers.process_eq]
  unfold processMatching apply
  dsimp only
  rw [if_pos success, read]
  rfl

/-- The answer to the request to update a component is about the next component. -/
theorem process_taken {message : List UInt8} {response : Response} {answer : ComponentResponse}
    {index : Nat} (answers : session.Answers .updateComponent message response)
    (success : response.cc.isSuccess = true)
    (read : decode "UpdateComponent" ComponentResponse.reader response.data = .ok answer)
    (next : session.nextComponent? = some index) :
    session.process message = (.ok response.cc,
      if answer.response = 0 then
        { session.coded response.cc with
          nextUpdate := index + 1, current := some index, componentFailed := false,
          state := .download }
      else
        { session.coded response.cc with
          nextUpdate := index + 1
          outcomes := session.outcomes.set index .skipped }) := by
  have next : (session.coded response.cc).nextComponent? = some index := next
  have taken : (session.coded response.cc).apply .updateComponent response.data =
      (session.coded response.cc).beginComponent answer := by
    unfold apply
    dsimp only
    rw [read]
  have begun : (session.coded response.cc).beginComponent answer = (.ok (),
      if answer.response = 0 then
        { session.coded response.cc with
          nextUpdate := index + 1, current := some index, componentFailed := false,
          state := .download }
      else
        { session.coded response.cc with
          nextUpdate := index + 1
          outcomes := session.outcomes.set index .skipped }) := by
    unfold beginComponent
    rw [next]
    dsimp only
    split <;> rfl
  have success : response.cc.isSuccess = true := success
  rw [answers.process_eq]
  unfold processMatching
  dsimp only
  rw [if_pos success, ← coded, taken, begun]

end Session

/-- A message changes a session exactly if it replies to the request that was issued last and
that no message has replied to, and every other message is refused. An answer to the announcement
of a component, or to the request to update one, takes effect on the component whose record that
request carries, whatever requests of the device have been served in between: the first that had not
been announced when the request was made, or the next one to update at that time. -/
theorem responses_take_effect_on_what_was_asked {settings : AgentSettings} {plan : UpdatePlan}
    {first : Session} (started : Session.start settings plan = .ok first)
    (inputs : List SessionInput) (message : List UInt8) :
    let session := first.run inputs
    ((session.process message).2 ≠ session ↔ ∃ asking command request response,
      first.Awaits inputs asking command request ∧ Replies request message response) ∧
    ((∀ asking command request response, first.Awaits inputs asking command request →
        ¬ Replies request message response) →
      ∃ error, session.process message = (.error error, session)) ∧
    (∀ asking request response answer, first.Awaits inputs asking .passComponentTable request →
      Replies request message response → response.cc.isSuccess = true →
      decode "PassComponentTable" TableResponse.reader response.data = .ok answer →
      ∃ component, session.plan.components[asking.passed]? = some component ∧
        asking.passed < session.outcomes.length ∧
        Carries request (TableEntry.layout
          { flag := .forIndex asking.passed session.plan.components.length
            record := component.record }) ∧
        session.process message = (.ok response.cc,
          { session with
            pending := none
            lastCode := response.cc
            outcomes := session.outcomes.set asking.passed
              (if answer.response = 0 then .accepted else .skipped)
            passed := asking.passed + 1
            state :=
              if asking.passed + 1 = session.plan.components.length then .readyXfer
              else session.state })) ∧
    (∀ asking request response answer, first.Awaits inputs asking .updateComponent request →
      Replies request message response → response.cc.isSuccess = true →
      decode "UpdateComponent" ComponentResponse.reader response.data = .ok answer →
      ∃ index component, asking.nextComponent? = some index ∧
        session.plan.components[index]? = some component ∧
        index < session.outcomes.length ∧ Carries request component.record.updateLayout ∧
        session.process message = (.ok response.cc,
          if answer.response = 0 then
            { session with
              pending := none, lastCode := response.cc, nextUpdate := index + 1,
              current := some index, componentFailed := false, state := .download }
          else
            { session with
              pending := none, lastCode := response.cc, nextUpdate := index + 1,
              outcomes := session.outcomes.set index .skipped })) := by
  obtain ⟨consistent, placed⟩ := Session.consistent_of_start started
  have fits : FitsInstance first.nextIid := by
    obtain ⟨-, -, rfl⟩ := Session.sound_of_start started
    exact fitsInstance_zero
  have settled : first.pending = none := by
    obtain ⟨-, -, rfl⟩ := Session.sound_of_start started
    rfl
  have consistent := consistent.run placed inputs
  have refused := @Session.process_unasked first placed fits settled inputs message
  intro session
  refine ⟨⟨fun changed => ?_, ?_⟩, refused, ?_, ?_⟩
  · refine Classical.byContradiction fun nothing => changed ?_
    obtain ⟨error, aside⟩ := refused fun asking command request response awaits replies =>
      nothing ⟨asking, command, request, response, awaits, replies⟩
    rw [aside]
  · rintro ⟨asking, command, request, response, awaits, replies⟩ same
    have awaiting := awaits.awaiting placed fits
    -- A response that counts is no longer waited for afterwards, so the session has changed.
    have gone : (session.process message).2.pending = none := by
      rw [(awaiting.answers_iff.mpr replies).process_eq]
      exact Session.processMatching_pending ..
    rw [same] at gone
    cases awaiting.pending.symm.trans gone
  · intro asking request response answer awaits replies success read
    have awaiting := awaits.awaiting placed fits
    obtain ⟨component, listed, carries⟩ := awaiting.announces
    refine ⟨component, listed, ?_, carries, ?_⟩
    · rw [consistent.outcomes]
      exact (List.getElem?_eq_some_iff.mp listed).1
    · rw [Session.process_announced (awaiting.answers_iff.mpr replies) success read,
        ← awaiting.passed]
      rfl
  · intro asking request response answer awaits replies success read
    have awaiting := awaits.awaiting placed fits
    obtain ⟨index, component, next, listed, carries⟩ := awaiting.asksFor
    refine ⟨index, component, next, listed, ?_, carries, ?_⟩
    · rw [consistent.outcomes]
      exact (List.getElem?_eq_some_iff.mp listed).1
    · exact Session.process_taken (awaiting.answers_iff.mpr replies) success read
        (awaiting.nextComponent?.trans next)

namespace AnnouncedAgain

/-- The device enters the update. The only component is announced, and before it answers the
device asks for package data that it was not to ask for. -/
def before : List SessionInput :=
  [.issue .requestUpdate, .process AskedUpdate.accepts, .issue .passComponentTable,
    .handle [0x80, 0x05, 0x11, 0x00, 0x00, 0x00, 0x00, 0x01]]

/-- The component is announced once more. -/
def inputs : List SessionInput := before ++ [.issue .passComponentTable]

/-- The session that has announced the component twice. -/
def session : Session := AskedUpdate.first.run inputs

/-- The second announcement. -/
def announcement : List UInt8 :=
  [0x82, 0x05, 0x13, 0x05, 0x0a, 0x00, 0x07, 0x00, 0x00, 0x00, 0x00, 0x00, 0x00, 0x00, 0x00]

/-- The device takes the component, in reply to the first announcement. -/
def late : List UInt8 := [0x01, 0x05, 0x13, 0x00, 0x00, 0x00]

/-- The device takes the component, in reply to the second announcement. -/
def due : List UInt8 := [0x02, 0x05, 0x13, 0x00, 0x00, 0x00]

end AnnouncedAgain

/-- The reply to an announcement that has been replaced is refused. The reply to the one that has
replaced it is taken, for the component that it announces. -/
theorem reply_to_latest_announcement_is_taken :
    Session.start {} AskedUpdate.plan = .ok AskedUpdate.first ∧
    (∃ error, AnnouncedAgain.session.process AnnouncedAgain.late =
      (.error error, AnnouncedAgain.session)) ∧
    AskedUpdate.first.Awaits AnnouncedAgain.inputs (AskedUpdate.first.run AnnouncedAgain.before)
      .passComponentTable AnnouncedAgain.announcement ∧
    (AnnouncedAgain.session.process AnnouncedAgain.due).2.outcomes = [.accepted] ∧
    (AnnouncedAgain.session.process AnnouncedAgain.due).2.passed = 1 := by
  have started : Session.start {} AskedUpdate.plan = .ok AskedUpdate.first := rfl
  have awaits : AskedUpdate.first.Awaits AnnouncedAgain.inputs
      (AskedUpdate.first.run AnnouncedAgain.before) .passComponentTable
      AnnouncedAgain.announcement := .issued rfl
  obtain ⟨changes, refused, -⟩ :=
    responses_take_effect_on_what_was_asked started AnnouncedAgain.inputs AnnouncedAgain.late
  obtain ⟨-, -, announced, -⟩ :=
    responses_take_effect_on_what_was_asked started AnnouncedAgain.inputs AnnouncedAgain.due
  refine ⟨started, refused fun asking command request response waits replies => ?_, awaits, ?_⟩
  · exact changes.mpr ⟨asking, command, request, response, waits, replies⟩ (by decide)
  · obtain ⟨component, -, -, -, taken⟩ := announced _ _ _ _ awaits
      ⟨rfl, rfl, _, rfl, rfl, rfl⟩ rfl rfl
    have taken : AnnouncedAgain.session.process AnnouncedAgain.due = _ := taken
    rw [taken]
    decide

end FirmwareUpdate
