import FirmwareUpdate.Proofs.Agent.Run

/-!
# The life of a session

`Moves` lists the ways in which a session gets from one state to another, each with the message
that takes it there. A request may await its response while the device moves the session on;
`Placed` says what a response can then still be about. No refusal moves a session.
-/

namespace FirmwareUpdate

open Wire

/-- An update runs. -/
def AgentState.isRunning : AgentState → Bool
  | learnComponents | readyXfer | download | verify | apply => true
  | idle | activate | aborted => false

/-- The input is part of an exchange with the device. -/
def SessionInput.isExchange : SessionInput → Bool
  | issue _ | process _ | handle _ => true
  | reset | load _ => false

namespace Session

/-- The moves of a session from one state to another, and the message that makes each. -/
inductive Moves (session : Session) : SessionInput → AgentState → AgentState → Prop where
  /-- The device enters the update. -/
  | begun {message : List UInt8} {response : Response}
      (answers : session.Answers .requestUpdate message response)
      (success : response.cc.isSuccess = true) :
      Moves session (.process message) .idle .learnComponents
  /-- The device can never be updated. -/
  | unable {message : List UInt8} {response : Response}
      (answers : session.Answers .requestUpdate message response)
      (refused : response.cc = UpdateCode.unableToInitiateUpdate) :
      Moves session (.process message) .idle .aborted
  /-- The device announces more metadata than the settings allow. -/
  | tooMuchMetadata {message : List UInt8} {response : Response} {body : UpdateResponse}
      (answers : session.Answers .requestUpdate message response)
      (success : response.cc.isSuccess = true)
      (read : decode "RequestUpdate" UpdateResponse.reader response.data = .ok body)
      (beyond : session.settings.maxMetadataSize < body.metadataSize.toNat) :
      Moves session (.process message) .idle .aborted
  /-- The last component is announced. -/
  | announced {message : List UInt8} {response : Response}
      (answers : session.Answers .passComponentTable message response)
      (success : response.cc.isSuccess = true)
      (last : session.passed + 1 = session.plan.components.length) :
      Moves session (.process message) .learnComponents .readyXfer
  /-- The device accepts the component that is next. -/
  | componentBegun {message : List UInt8} {response : Response} {body : ComponentResponse}
      (answers : session.Answers .updateComponent message response)
      (success : response.cc.isSuccess = true)
      (read : decode "UpdateComponent" ComponentResponse.reader response.data = .ok body)
      (accepted : body.response = 0) :
      Moves session (.process message) .readyXfer .download
  /-- The device has the whole image. -/
  | transferred {message : List UInt8} {request : Request} {report : ResultReport}
      (parsed : Request.parse message = .ok request) (asked : request.IsFor .transferComplete)
      (read : decode "TransferComplete" ResultReport.reader request.data = .ok report)
      (success : report.result = Coded.code TransferResult.success) :
      Moves session (.handle message) .download .verify
  /-- The device has found the image intact. -/
  | verified {message : List UInt8} {request : Request} {report : ResultReport}
      (parsed : Request.parse message = .ok request) (asked : request.IsFor .verifyComplete)
      (read : decode "VerifyComplete" ResultReport.reader request.data = .ok report)
      (success : report.result = Coded.code VerifyResult.success) :
      Moves session (.handle message) .verify .apply
  /-- The device has put the image in its place. -/
  | applied {message : List UInt8} {request : Request} {report : ApplyReport}
      (parsed : Request.parse message = .ok request) (asked : request.IsFor .applyComplete)
      (read : decode "ApplyComplete" ApplyReport.reader request.data = .ok report)
      (success : (ofCode? report.result : Option ApplyResult).any ApplyResult.isSuccess = true) :
      Moves session (.handle message) .apply .readyXfer
  /-- The component is given up. -/
  | componentCancelled {message : List UInt8} {response : Response} {state : AgentState}
      (updating : state.isUpdating = true)
      (answers : session.Answers .cancelUpdateComponent message response)
      (success : response.cc.isSuccess = true) :
      Moves session (.process message) state .readyXfer
  | activated {message : List UInt8} {response : Response}
      (answers : session.Answers .activateFirmware message response)
      (success : response.cc.isSuccess = true) :
      Moves session (.process message) .readyXfer .idle
  /-- The update is given up. -/
  | cancelled {message : List UInt8} {response : Response} {state : AgentState}
      (running : state.isRunning = true)
      (answers : session.Answers .cancelUpdate message response)
      (success : response.cc.isSuccess = true) :
      Moves session (.process message) state .idle

/-- The command that awaits its response has a place where the session is, unless the device
has put the component in its place before it could be given up. The session never waits in
the state of activation. -/
structure Placed (session : Session) : Prop where
  inactive : session.state ≠ .activate
  awaited : ∀ pending, session.pending = some pending →
    allows session.state pending.command = true ∨
      pending.command = .cancelUpdateComponent ∧ session.state = .readyXfer

variable {session after : Session}

/-- The command that a reply answers was allowed, but for a cancelled component that has ended
meanwhile. -/
theorem Answers.allowed {command : AgentCommand} {message : List UInt8} {response : Response}
    (answers : session.Answers command message response) (placed : session.Placed) :
    allows session.state command = true ∨
      command = .cancelUpdateComponent ∧ session.state = .readyXfer := by
  obtain ⟨-, pending, awaits, rfl, -⟩ := answers
  exact placed.awaited pending awaits

/-! ## One message -/

/-- A response moves the session along an edge of its life. -/
theorem Applies.moves {command : AgentCommand} {message : List UInt8} {response : Response}
    (applies : (session.coded response.cc).Applies response.data command after)
    (placed : session.Placed) (answers : session.Answers command message response)
    (success : response.cc.isSuccess = true) :
    after.state = session.state ∨
      session.Moves (.process message) session.state after.state := by
  have allowed := answers.allowed placed
  have inactive := placed.inactive
  cases applies with
  | ignored | identifiers | parameters | status | metadata | badMetadata | componentLeftOut =>
      exact .inl rfl
  | begun read within =>
      have idle : session.state = .idle := by simpa [allows] using allowed
      rw [idle]
      exact .inr (.begun answers success)
  | tooMuchMetadata read beyond =>
      have idle : session.state = .idle := by simpa [allows] using allowed
      rw [idle]
      exact .inr (.tooMuchMetadata answers success read beyond)
  | announced body =>
      have learning : session.state = .learnComponents := by simpa [allows] using allowed
      by_cases last : session.passed + 1 = session.plan.components.length
      · have ready : ((session.coded response.cc).recordPassed body).state = .readyXfer :=
          if_pos last
        rw [learning, ready]
        exact .inr (.announced answers success last)
      · exact .inl (if_neg last)
  | componentBegun read next accepted =>
      have ready : session.state = .readyXfer := by simpa [allows] using allowed
      rw [ready]
      exact .inr (.componentBegun answers success read accepted)
  | activated =>
      have ready : session.state = .readyXfer := by simpa [allows] using allowed
      rw [ready]
      exact .inr (.activated answers success)
  | componentCancelled =>
      -- the device may have applied the component while the command was on its way
      rcases allowed with updating | ⟨-, ready⟩
      · exact .inr (.componentCancelled updating answers success)
      · exact .inl ready.symm
  | cancelled =>
      have running : session.state.isRunning = true := by
        cases state : session.state <;> simp_all [allows, AgentState.isRunning]
      exact .inr (.cancelled running answers success)

/-- A request of the device moves the session along an edge of its life. -/
theorem Serves.moves {message : List UInt8} {request : Request}
    {served : Except CompletionCode (List UInt8)} (serves : session.Serves request served after)
    (parsed : Request.parse message = .ok request) :
    after.state = session.state ∨
      session.Moves (.handle message) session.state after.state := by
  cases serves with
  | refused | noPart | part | data | failed => exact .inl rfl
  | transferred asked expected read success =>
      rw [expected]
      exact .inr (.transferred parsed asked read success)
  | verified asked expected read success =>
      rw [expected]
      exact .inr (.verified parsed asked read success)
  | applied asked expected read success =>
      rw [expected]
      exact .inr (.applied parsed asked read success)

/-- Serving a request keeps a session placed. -/
theorem Serves.placed {request : Request} {served : Except CompletionCode (List UInt8)}
    (serves : session.Serves request served after) (placed : session.Placed) : after.Placed := by
  obtain ⟨inactive, awaited⟩ := placed
  cases serves with
  | refused | noPart | part | data | failed => exact ⟨inactive, awaited⟩
  | transferred asked expected | verified asked expected | applied asked expected =>
      -- of the commands that are allowed here only the one to give up the component is lost
      refine ⟨nofun, fun pending awaits => ?_⟩
      have allowed := awaited pending awaits
      rw [expected] at allowed
      cases command : pending.command <;>
        simp_all [allows, AgentState.isUpdating, endComponent]

/-- Nothing awaits a response once one has come. -/
theorem Applies.settled {body : List UInt8} {command : AgentCommand}
    (applies : session.Applies body command after) (settled : session.pending = none) :
    after.pending = none := by
  cases applies with
  | cancelled => rfl
  | _ => exact settled

/-- A response whose body takes effect does not activate. -/
theorem Applies.inactive {body : List UInt8} {command : AgentCommand}
    (applies : session.Applies body command after) (inactive : session.state ≠ .activate) :
    after.state ≠ .activate := by
  cases applies with
  | announced body =>
      unfold recordPassed
      dsimp only
      split
      · exact nofun
      · exact inactive
  | ignored | identifiers | parameters | status | metadata | badMetadata | componentLeftOut =>
      exact inactive
  | _ => exact nofun

/-! ## Runs -/

namespace Placed

/-- A session without a command under way is placed unless it is activating. -/
theorem of_settled (inactive : session.state ≠ .activate) (settled : session.pending = none) :
    session.Placed :=
  ⟨inactive, fun _ awaits => by rw [settled] at awaits; cases awaits⟩

/-- Issuing a command keeps a session placed. -/
theorem issue (placed : session.Placed) (command : AgentCommand) :
    (session.issue command).2.Placed := by
  unfold Session.issue
  split
  · rename_i allowed
    split
    · exact placed
    · refine ⟨placed.inactive, fun pending awaits => ?_⟩
      cases awaits
      exact .inl allowed
  · exact ⟨placed.inactive, placed.awaited⟩

/-- Processing a reply keeps a session placed. -/
theorem process (placed : session.Placed) (message : List UInt8) :
    (session.process message).2.Placed :=
  of_process Placed message placed
    (fun applies => of_settled (applies.inactive placed.inactive) (applies.settled rfl))
    (fun _ => of_settled nofun rfl) fun _ => of_settled placed.inactive rfl

/-- Handling a request keeps a session placed. -/
theorem handle (placed : session.Placed) (message : List UInt8) :
    (session.handleRequest message).2.Placed := by
  refine of_handleRequest Placed message placed fun serves => ?_
  have served := serves.placed placed
  exact ⟨served.inactive, served.awaited⟩

/-- Whatever the input is, a session stays placed. -/
theorem next (placed : session.Placed) (input : SessionInput) : (session.next input).Placed := by
  cases input with
  | issue command => exact placed.issue command
  | process message => exact placed.process message
  | handle message => exact placed.handle message
  | reset => exact of_settled nofun rfl
  | load plan =>
      rcases next_load session plan with refused | ⟨-, loaded⟩
      · rw [refused]
        exact placed
      · rw [loaded]
        exact of_settled nofun rfl

/-- Whatever the inputs are, a session stays placed. -/
theorem run (placed : session.Placed) (inputs : List SessionInput) :
    (session.run inputs).Placed := by
  induction inputs generalizing session with
  | nil => exact placed
  | cons input rest ih => exact ih (placed.next input)

end Placed

/-- An exchange with the device leaves the state, or moves it along an edge. -/
theorem next_moves (placed : session.Placed) {input : SessionInput}
    (exchange : input.isExchange = true) :
    (session.next input).state = session.state ∨
      session.Moves input session.state (session.next input).state := by
  cases input with
  | issue command =>
      left
      show (session.issue command).2.state = session.state
      unfold issue
      repeat' split
      all_goals rfl
  | process message =>
      show (session.process message).2.state = _ ∨ Moves _ _ _ (session.process message).2.state
      have takes := session.process_takes message
      generalize (session.process message).2 = after at takes
      cases takes with
      | refused | failed => exact .inl rfl
      | applied answers success applies => exact applies.moves placed answers success
      | unable answers code =>
          have idle : session.state = .idle := by simpa [allows] using answers.allowed placed
          rw [idle]
          exact .inr (.unable answers code)
  | handle message =>
      show (session.handleRequest message).2.state = _ ∨
        Moves _ _ _ (session.handleRequest message).2.state
      cases parsed : Request.parse message with
      | error error =>
          rw [handleRequest, parsed]
          exact .inl rfl
      | ok request =>
          rw [handleRequest_of_parse session parsed]
          exact (serve_serves session request).moves parsed
  | reset | load plan => cases exchange

/-! ## Refusals -/

/-- A request that is refused changes at most the transfer of the package data that it asks for. -/
theorem Serves.of_refused {request : Request} {cc : CompletionCode}
    (serves : session.Serves request (.error cc) after) :
    ∃ package, after = { session with package } ∧
      (package ≠ session.package → request.IsFor .getPackageData) := by
  cases serves with
  | refused => exact ⟨_, rfl, fun changed => absurd rfl changed⟩
  | noPart asked _ package => exact ⟨package, rfl, fun _ => asked⟩

/-- A request that is answered with a code of failure changes nothing but that code, and at most
the transfer of the package data that it asks for. -/
theorem handleRequest_of_failure {message answer : List UInt8} {response : Response}
    (answered : (session.handleRequest message).1 = .ok answer)
    (parsed : Response.parse answer = .ok response) (failed : response.cc.isSuccess = false) :
    ∃ request package, Request.parse message = .ok request ∧
      (session.handleRequest message).2 = { session with package, lastCode := response.cc } ∧
      (package ≠ session.package → request.IsFor .getPackageData) := by
  cases asked : Request.parse message with
  | error error =>
      rw [handleRequest, asked] at answered
      cases answered
  | ok request =>
      rw [handleRequest_of_parse session asked] at answered ⊢
      have serves := serve_serves session request
      cases served : (session.serve request).1 with
      | ok body =>
          rw [served] at answered
          cases answered
          cases parsed.symm.trans (Request.parse_respond asked BaseCode.success body)
          cases failed
      | error cc =>
          rw [served] at answered serves
          cases answered
          cases parsed.symm.trans (Request.parse_respond asked cc [])
          obtain ⟨package, after, changed⟩ := serves.of_refused
          exact ⟨request, package, rfl, by rw [after]; rfl, changed⟩

end Session

/-- Every exchange of a session leaves its state or moves it along an edge of its life. A response
with a code of failure changes nothing but what is kept about the command, unless it says that
the device can never be updated. A request that is answered with such a code changes nothing but
the code, and at most the transfer of the package data that it asks for. -/
theorem session_moves_along_its_edges {settings : AgentSettings} {plan : UpdatePlan}
    {first : Session} (started : Session.start settings plan = .ok first)
    (inputs : List SessionInput) :
    let session := first.run inputs
    (∀ input : SessionInput, input.isExchange = true →
      (session.next input).state = session.state ∨
        session.Moves input session.state (session.next input).state) ∧
    (∀ command message response, session.Answers command message response →
      response.cc.isSuccess = false →
      ¬ (command = .requestUpdate ∧ response.cc = UpdateCode.unableToInitiateUpdate) →
      session.process message =
        (.ok response.cc, { session with pending := none, lastCode := response.cc })) ∧
    (∀ message answer response, (session.handleRequest message).1 = .ok answer →
      Response.parse answer = .ok response → response.cc.isSuccess = false →
      ∃ request package, Request.parse message = .ok request ∧
        (session.handleRequest message).2 = { session with package, lastCode := response.cc } ∧
        (package ≠ session.package → request.IsFor .getPackageData)) := by
  obtain ⟨-, -, rfl⟩ := Session.sound_of_start started
  have placed : Session.Placed { settings, plan, outcomes := Session.freshOutcomes plan } :=
    .of_settled nofun rfl
  refine ⟨fun input exchange => Session.next_moves (placed.run inputs) exchange, ?_, ?_⟩
  · intro command message response answers failed mild
    rw [answers.process_eq]
    exact Session.processMatching_of_failure _ failed mild
  · intro message answer response answered parsed failed
    exact Session.handleRequest_of_failure answered parsed failed

namespace AskedUpdate

/-- A plan with one image. -/
def plan : UpdatePlan :=
  { version := .raw []
    components :=
      [{ key := { classification := .firmware, identifier := 7 }, version := .raw [],
         image := [1, 2] }] }

/-- The session as it begins. -/
def first : Session := { settings := {}, plan, outcomes := Session.freshOutcomes plan }

/-- The session when it has asked the device to enter the update. -/
def asked : Session := first.run [.issue .requestUpdate]

/-- The device enters the update; it has no metadata and pulls nothing. -/
def accepts : List UInt8 := [0x00, 0x05, 0x10, 0x00, 0x00, 0x00, 0x00]

/-- The device is to be asked again. -/
def refuses : List UInt8 := [0x00, 0x05, 0x10, 0x8e]

end AskedUpdate

/-- An update begins when the device accepts it, and may be asked for again when it does not. -/
theorem asked_update_begins_or_waits :
    AskedUpdate.asked.Moves (.process AskedUpdate.accepts) .idle .learnComponents ∧
      AskedUpdate.asked.process AskedUpdate.refuses =
        (.ok UpdateCode.retryRequestUpdate,
          { AskedUpdate.asked with
            pending := none
            lastCode := UpdateCode.retryRequestUpdate }) :=
  have along := session_moves_along_its_edges
    (rfl : Session.start {} AskedUpdate.plan = .ok AskedUpdate.first) [.issue .requestUpdate]
  ⟨(along.1 (.process AskedUpdate.accepts) rfl).resolve_left (by decide),
    along.2.1 .requestUpdate AskedUpdate.refuses _ ⟨rfl, _, rfl, rfl, rfl⟩ rfl (by decide)⟩

end FirmwareUpdate
