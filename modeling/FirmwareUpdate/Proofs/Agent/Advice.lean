import FirmwareUpdate.Proofs.Agent.Renewal
import FirmwareUpdate.Proofs.Transfer.Serve
import FirmwareUpdate.Proofs.Update.Poll

/-!
# A session can take its own advice

A session says what it needs next, and it decides which commands have a place, writes them and
serves the device by other fields than those. `Advised` is what these have in common in every
run: where components are announced there is one left, and where the device is waited for there
is something for it to ask.
-/

namespace FirmwareUpdate

open Wire

namespace Session

variable {session after : Session}

/-- What makes the advice of a session one that it can take. -/
structure Advised (session : Session) : Prop where
  /-- A session that announces components and is not done has one left to announce. -/
  unfinished : session.state = .learnComponents →
    session.finished = true ∨ session.passed < session.plan.components.length
  /-- A device that is to pull the package data does so, and there are some. -/
  pulls : session.state = .learnComponents → session.packageDone = false →
    session.devicePulls = true ∧ session.plan.packageData ≠ []
  package : session.package.Amid session.plan.packageData

/-- An update begins with all components left, unless the session is done. -/
theorem Rested.leaves_component (rested : session.Rested) (idle : session.state = .idle)
    (sound : session.plan.Sound) :
    session.finished = true ∨ session.passed < session.plan.components.length := by
  rcases rested.idle idle with fresh | ⟨activated, -⟩
  · rw [fresh.passed]
    exact .inr (List.length_pos_iff.mpr sound.sizes.1)
  · exact .inl (rested.done activated)

namespace Advised

/-- Where no components are announced, only the transfer of the package data matters. -/
theorem of_elsewhere (elsewhere : (session.state == .learnComponents) = false)
    (package : session.package.Amid session.plan.packageData) : session.Advised :=
  have elsewhere := ne_of_beq_false elsewhere
  ⟨fun learning => absurd learning elsewhere, fun learning => absurd learning elsewhere, package⟩

/-! ## One message -/

/-- A response that takes effect leaves a session with good advice. -/
theorem applies {command : AgentCommand} {message : List UInt8} {response : Response}
    (applies : (session.coded response.cc).Applies response.data command after)
    (advised : session.Advised) (sound : session.plan.Sound) (consistent : session.Consistent)
    (placed : session.Placed) (rested : session.Rested)
    (answers : session.Answers command message response) : after.Advised := by
  have allowed := answers.allowed placed
  cases applies with
  | ignored | identifiers | parameters | status | metadata | badMetadata | componentLeftOut =>
      exact { advised with }
  | begun =>
      have idle : session.state = .idle := by simpa [allows] using allowed
      have left := rested.leaves_component idle sound
      refine ⟨fun _ => left, fun _ more => ?_, session.package.amid_reset _⟩
      simpa [coded] using more
  | announced body =>
      obtain ⟨-, pending, awaits, announces, -⟩ := answers
      obtain ⟨learning, within⟩ := consistent.awaited pending awaits announces
      refine ⟨fun still => .inr ?_, fun _ => advised.pulls learning, advised.package⟩
      unfold recordPassed at still
      dsimp only at still
      split at still
      · cases still
      · exact Nat.lt_of_le_of_ne within ‹_›
  | tooMuchMetadata | componentBegun | activated | componentCancelled =>
      exact of_elsewhere rfl advised.package
  | cancelled => exact of_elsewhere rfl (session.package.amid_reset _)

/-- Serving package data keeps the advice good. -/
theorem servePackageData (advised : session.Advised) (body : List UInt8) :
    (session.servePackageData body).2.Advised := by
  unfold Session.servePackageData
  split
  · exact advised
  · rename_i request read
    have amid := advised.package.serve request (min session.settings.portionSize
      (maxMessageSize - responseHeaderSize - PartResponse.headerSize))
    dsimp only
    split <;> rename_i served <;> rw [served] at amid
    · refine { advised with package := ?_ }
      dsimp only
      split
      · exact Transfer.amid_reset _ _
      · exact amid
    · refine { advised with pulls := fun learning more => ?_, package := amid }
      simp only [Bool.or_eq_false_iff] at more
      exact advised.pulls learning more.1

/-- Serving a command of the device keeps the advice good. -/
theorem serveCommand (advised : session.Advised) (command : Command) (body : List UInt8) :
    (session.serveCommand command body).2.Advised := by
  cases command with
  | getPackageData => exact advised.servePackageData body
  | transferComplete | verifyComplete =>
      simp only [Session.serveCommand, takeReport]
      repeat' split
      all_goals first | exact { advised with } | exact of_elsewhere rfl advised.package
  | applyComplete =>
      simp only [Session.serveCommand, takeApplyReport]
      repeat' split
      all_goals first | exact { advised with } | exact of_elsewhere rfl advised.package
  | _ => exact advised

/-- Serving a request keeps the advice good. -/
theorem serve (advised : session.Advised) (request : Request) :
    (session.serve request).2.Advised := by
  unfold Session.serve
  repeat' split
  all_goals first | exact advised | exact advised.serveCommand ..

/-! ## Runs -/

/-- Whatever the input is, the advice stays good. -/
theorem next (advised : session.Advised) (sound : session.plan.Sound)
    (consistent : session.Consistent) (placed : session.Placed) (rested : session.Rested)
    (input : SessionInput) : (session.next input).Advised := by
  cases input with
  | issue command =>
      show (session.issue command).2.Advised
      unfold Session.issue
      repeat' split
      all_goals exact { advised with }
  | process message =>
      show (session.process message).2.Advised
      have takes := session.process_takes message
      generalize (session.process message).2 = after at takes
      cases takes with
      | refused => exact advised
      | applied answers _ applied =>
          exact { advised.applies applied sound consistent placed rested answers with }
      | unable => exact of_elsewhere rfl advised.package
      | failed => exact { advised with }
  | handle message =>
      show (session.handleRequest message).2.Advised
      cases parsed : Request.parse message with
      | error error =>
          rw [handleRequest, parsed]
          exact advised
      | ok request =>
          rw [handleRequest_of_parse session parsed]
          exact { advised.serve request with }
  | reset => exact of_elsewhere rfl (session.package.amid_reset _)
  | load plan =>
      rcases next_load session plan with refused | ⟨-, loaded⟩
      · rw [refused]
        exact advised
      · rw [loaded]
        exact of_elsewhere rfl (session.package.amid_reset _)

/-- Every run keeps it. -/
theorem run (advised : session.Advised) (sound : session.plan.Sound)
    (consistent : session.Consistent) (placed : session.Placed) (rested : session.Rested)
    (inputs : List SessionInput) : (session.run inputs).Advised := by
  induction inputs generalizing session with
  | nil => exact advised
  | cons input rest ih =>
      exact ih (advised.next sound consistent placed rested input) (next_sound sound input)
        (consistent.next placed input) (placed.next input) (rested.next consistent placed input)

end Advised

/-! ## Commands -/

/-- A command that has a place and a body is issued. -/
theorem issue_of_written {command : AgentCommand} {body : List UInt8}
    (allowed : allows session.state command = true)
    (written : session.requestBody command = .ok body) :
    ∃ message, (session.issue command).1 = .ok message := by
  unfold issue
  rw [if_pos allowed, written]
  exact ⟨_, rfl⟩

/-- The command that a session needs next can be issued. -/
theorem Advised.issues (advised : session.Advised) (sound : session.plan.Sound)
    (consistent : session.Consistent) {command : AgentCommand}
    (needs : session.nextAction = .issue command) :
    ∃ message, (session.issue command).1 = .ok message := by
  unfold nextAction at needs
  split at needs
  · cases needs
  rename_i unfinished
  cases state : session.state <;> rw [state] at needs <;> dsimp only at needs
  case idle =>
    repeat' split at needs
    all_goals cases needs
    · exact issue_of_written rfl rfl
    · exact issue_of_written rfl rfl
    · obtain ⟨body, written, -⟩ := body_requestUpdate sound
      exact issue_of_written (by rw [state]; rfl) written
  case learnComponents =>
    repeat' split at needs
    all_goals cases needs
    · obtain ⟨body, written, -⟩ := body_getDeviceMetaData session
      exact issue_of_written (by rw [state]; rfl) written
    · have within := (advised.unfinished state).resolve_left unfinished
      obtain ⟨body, written, -⟩ := body_passComponentTable sound (List.getElem?_eq_getElem within)
      exact issue_of_written (by rw [state]; rfl) written
  case readyXfer =>
    repeat' split at needs
    all_goals cases needs
    · rename_i some
      obtain ⟨index, next⟩ := Option.isSome_iff_exists.mp some
      have accepted := (List.getElem?_eq_some_iff.mp (nextComponent?_eq_some next).2).1
      obtain ⟨body, written, -⟩ := body_updateComponent sound next
        (List.getElem?_eq_getElem (consistent.outcomes ▸ accepted))
      exact issue_of_written (by rw [state]; rfl) written
    · obtain ⟨body, written, -⟩ := body_activateFirmware session
      exact issue_of_written (by rw [state]; rfl) written
    · exact issue_of_written (by rw [state]; rfl) rfl
  case download | verify | apply =>
    split at needs <;> cases needs
    exact issue_of_written (by rw [state]; rfl) rfl
  case activate | aborted => cases needs

/-! ## Requests of the device -/

/-- Where a session waits for the device, and what it has not got yet. -/
theorem waits_of_nextAction (waits : session.nextAction = .awaitRequest) :
    (session.state = .learnComponents ∧ session.packageDone = false) ∨
      (session.state.isUpdating = true ∧ session.componentFailed = false) := by
  unfold nextAction at waits
  split at waits
  · cases waits
  cases state : session.state <;> rw [state] at waits <;> dsimp only at waits
  case learnComponents =>
    split at waits
    · rename_i unprepared
      exact .inl ⟨rfl, by simpa using unprepared⟩
    · split at waits <;> cases waits
  case download | verify | apply =>
    split at waits
    · cases waits
    · rename_i whole
      exact .inr ⟨rfl, eq_false_of_ne_true whole⟩
  all_goals
    repeat' split at waits
    all_goals cases waits

/-- The request of the device that leads on from where a session waits for one. -/
inductive IsLedOnBy (session : Session) (request : Request) : Prop where
  | firstPart (learning : session.state = .learnComponents)
      (resting : session.package.inProgress = false) (asks : request.IsFor .getPackageData)
      {part : PartRequest}
      (read : decode "GetPackageData" PartRequest.reader request.data = .ok part)
      (first : part.operation? = some .getFirstPart)
  | nextPart (learning : session.state = .learnComponents)
      (underWay : session.package.inProgress = true) (asks : request.IsFor .getPackageData)
      {part : PartRequest}
      (read : decode "GetPackageData" PartRequest.reader request.data = .ok part)
      (next : part.operation? = some .getNextPart) (handle : part.handle = session.package.handle)
  | transferred (fetching : session.state = .download) (asks : request.IsFor .transferComplete)
      {report : ResultReport}
      (read : decode "TransferComplete" ResultReport.reader request.data = .ok report)
  | verified (checking : session.state = .verify) (asks : request.IsFor .verifyComplete)
      {report : ResultReport}
      (read : decode "VerifyComplete" ResultReport.reader request.data = .ok report)
  | applied (applying : session.state = .apply) (asks : request.IsFor .applyComplete)
      {report : ApplyReport}
      (read : decode "ApplyComplete" ApplyReport.reader request.data = .ok report)

/-- A portion of the package data that is asked for where it should be is served. -/
theorem Advised.servesPart (advised : session.Advised) (sound : session.plan.Sound)
    (some : session.plan.packageData ≠ []) {body : List UInt8} {part : PartRequest}
    (read : decode "GetPackageData" PartRequest.reader body = .ok part) {ready : Transfer}
    (opens : session.package.opened part session.plan.packageData.length = .ok ready) :
    ∃ bytes, (session.servePackageData body).1 = .ok bytes := by
  have small : session.plan.packageData.length < UInt32.size :=
    Nat.lt_trans sound.sizes.2.2.1 (by decide)
  obtain ⟨given, package, served⟩ :=
    advised.package.serve_of_opened some small opens session.packagePortion
  obtain ⟨bytes, written, -⟩ := given.message (portion_fits served) ""
  exact ⟨bytes, by rw [servePackageData_of_served read served written]⟩

/-- The request that leads on is served. -/
theorem Advised.serves (advised : session.Advised) (sound : session.plan.Sound)
    (waits : session.nextAction = .awaitRequest) {request : Request}
    (leads : session.IsLedOnBy request) : ∃ body, (session.serve request).1 = .ok body := by
  have pulls (learning : session.state = .learnComponents) :
      session.expects? .getPackageData = some true ∧ session.plan.packageData ≠ [] := by
    have unprepared : session.packageDone = false := by
      rcases waits_of_nextAction waits with ⟨-, unprepared⟩ | ⟨updating, -⟩
      · exact unprepared
      · rw [learning] at updating
        cases updating
    obtain ⟨device, some⟩ := advised.pulls learning unprepared
    exact ⟨by simp [expects?, learning, device], some⟩
  have whole (updating : session.state.isUpdating = true) : session.componentFailed = false := by
    rcases waits_of_nextAction waits with ⟨learning, -⟩ | ⟨-, whole⟩
    · rw [learning] at updating
      cases updating
    · exact whole
  cases leads with
  | firstPart learning resting asks read first =>
      obtain ⟨expected, some⟩ := pulls learning
      rw [serve_of_expected asks expected]
      exact advised.servesPart sound some read (Transfer.opened_of_first resting first _)
  | nextPart learning underWay asks read next handle =>
      obtain ⟨expected, some⟩ := pulls learning
      rw [serve_of_expected asks expected]
      exact advised.servesPart sound some read (Transfer.opened_of_next underWay next handle _)
  | transferred fetching asks read =>
      have expected : session.expects? .transferComplete = some true := by
        simp [expects?, fetching, whole (by rw [fetching]; rfl)]
      rw [serve_of_expected asks expected, Session.serveCommand, takeReport_of_read read]
      exact ⟨_, rfl⟩
  | verified checking asks read =>
      have expected : session.expects? .verifyComplete = some true := by
        simp [expects?, checking, whole (by rw [checking]; rfl)]
      rw [serve_of_expected asks expected, Session.serveCommand, takeReport_of_read read]
      exact ⟨_, rfl⟩
  | applied applying asks read =>
      have expected : session.expects? .applyComplete = some true := by
        simp [expects?, applying, whole (by rw [applying]; rfl)]
      rw [serve_of_expected asks expected, Session.serveCommand, takeApplyReport_eq read]
      exact ⟨_, rfl⟩

/-- A session begins with advice that it can take. -/
theorem advised_of_start {settings : AgentSettings} {plan : UpdatePlan}
    (started : start settings plan = .ok session) : session.Advised := by
  obtain ⟨-, -, rfl⟩ := sound_of_start started
  exact .of_elsewhere rfl nofun

end Session

/-- A session is never stuck on its own advice, whatever it has been asked to do and whatever it
has received. The command that it needs next can be issued. Where it waits for the device, it is
announcing components or updating one, and the request that leads on from there is answered with
success: for the first portion of the package data or for the next one, as the pull is under way or
not, or with the report that ends what the device is doing. -/
theorem session_never_stuck_on_its_advice {settings : AgentSettings} {plan : UpdatePlan}
    {first : Session} (started : Session.start settings plan = .ok first)
    (inputs : List SessionInput) :
    let session := first.run inputs
    (∀ command, session.nextAction = .issue command →
      ∃ message, (session.issue command).1 = .ok message) ∧
    (session.nextAction = .awaitRequest →
      (session.state = .learnComponents ∨ session.state.isUpdating = true) ∧
      ∀ message request, Request.parse message = .ok request → session.IsLedOnBy request →
        ∃ answer response, (session.handleRequest message).1 = .ok answer ∧
          Response.parse answer = .ok response ∧ response.cc = BaseCode.success) := by
  intro session
  obtain ⟨consistent, placed⟩ := Session.consistent_of_start started
  obtain ⟨sound, rested⟩ := Session.rested_of_start started
  have advised := (Session.advised_of_start started).run sound consistent placed rested inputs
  have sound := Session.run_sound sound inputs
  have consistent := consistent.run placed inputs
  refine ⟨fun command needs => advised.issues sound consistent needs, fun waits => ⟨?_, ?_⟩⟩
  · exact (Session.waits_of_nextAction waits).imp And.left And.left
  · intro message request parsed leads
    obtain ⟨body, served⟩ := advised.serves sound waits leads
    refine ⟨_, request.respond BaseCode.success body, ?_, Request.parse_respond parsed _ _, rfl⟩
    rw [Session.handleRequest_of_parse _ parsed, served]
    rfl

namespace TwoPortions

/-- A plan with one image and three bytes of package data. -/
def plan : UpdatePlan := { AskedUpdate.plan with packageData := [7, 8, 9] }

/-- The session as it begins, with portions of two bytes. -/
def first : Session :=
  { settings := { portionSize := 2 }, plan, outcomes := Session.freshOutcomes plan }

/-- Asks for a portion of the package data. -/
def asks (handle operation : UInt8) : List UInt8 := [0x80, 5, 0x11, handle, 0, 0, 0, operation]

/-- The device enters the update, and pulls the first portion. -/
def inputs : List SessionInput :=
  [.issue .requestUpdate, .process [0x00, 5, 0x10, 0, 0, 0, 1], .handle (asks 0 1)]

end TwoPortions

open TwoPortions in
/-- After the first portion a session waits, and serves the next one; then it announces its
component. -/
theorem next_portion_leads_to_announcement :
    (first.run inputs).nextAction = .awaitRequest ∧
      (∃ answer response, ((first.run inputs).handleRequest (asks 2 0)).1 = .ok answer ∧
        Response.parse answer = .ok response ∧ response.cc = BaseCode.success) ∧
      (first.run (inputs ++ [.handle (asks 2 0)])).nextAction = .issue .passComponentTable ∧
      ∃ message, ((first.run (inputs ++ [.handle (asks 2 0)])).issue .passComponentTable).1 =
        .ok message := by
  have started : Session.start { portionSize := 2 } plan = .ok first := rfl
  have waits : (first.run inputs).nextAction = .awaitRequest := by decide +kernel
  have needs : (first.run (inputs ++ [.handle (asks 2 0)])).nextAction =
      .issue .passComponentTable := by decide +kernel
  have leads : (first.run inputs).IsLedOnBy
      { iid := 0, typ := 5, cmd := 0x11, data := [2, 0, 0, 0, 0] } :=
    .nextPart (by decide +kernel) (by decide +kernel) ⟨rfl, rfl⟩ rfl rfl (by decide +kernel)
  exact ⟨waits,
    ((session_never_stuck_on_its_advice started inputs).2 waits).2 (asks 2 0) _ rfl leads, needs,
    (session_never_stuck_on_its_advice started _).1 _ needs⟩

end FirmwareUpdate
