import Mathlib.Data.List.Induction
import Mathlib.Data.List.Infix
import FirmwareUpdate.Proofs.Agent.Advice
import FirmwareUpdate.Proofs.Agent.Failures
import FirmwareUpdate.Proofs.Transfer.Served

/-!
# Package data that a device pulls

A session waits until its device has pulled the package data. What makes it go on is one flag, and
the device may ask for anything in the meantime. `Portions` reads off the inputs of a session which
bytes it has answered with, from one first portion on; where the flag is set, there are inputs since
the update has begun in which these are all of the package data.
-/

namespace FirmwareUpdate

open Wire

namespace Session

variable {first session after : Session}

/-! ## Portions -/

/-- The message reads as a request of the device for a portion of the package data. -/
structure ReadsAs (message : List UInt8) (request : Request) (ask : PartRequest) : Prop where
  parsed : Request.parse message = .ok request
  ours : request.IsFor .getPackageData
  read : decode "GetPackageData" PartRequest.reader request.data = .ok ask

/-- The message is a well-formed request of the device for the first portion of the package data,
or for the next one. -/
def Asks (message : List UInt8) (operation : TransferOperation) : Prop :=
  ∃ request ask, ReadsAs message request ask ∧ ask.operation? = some operation

/-- The session answers the message with this response. -/
def AnswersWith (session : Session) (message : List UInt8) (response : Response) : Prop :=
  ∃ answer, (session.handleRequest message).1 = .ok answer ∧ Response.parse answer = .ok response

/-- The session answers a request for a portion of the package data with one. -/
structure AnswersPart (session : Session) (message : List UInt8) (operation : TransferOperation)
    (part : PartResponse) : Prop where
  asks : Asks message operation
  answers : ∃ response, session.AnswersWith message response ∧ response.cc.isSuccess = true ∧
    decode "GetPackageData" PartResponse.reader response.data = .ok part

/-- The session refuses the message. -/
def Refuses (session : Session) (message : List UInt8) : Prop :=
  ∃ response, session.AnswersWith message response ∧ response.cc.isSuccess = false

/-- The first of the inputs is answered with a first portion of the package data, and these are
the bytes of that portion and of all the next portions with which the other inputs are answered. -/
inductive Portions (session : Session) : List SessionInput → List UInt8 → Prop where
  | first {message : List UInt8} {part : PartResponse}
      (answers : session.AnswersPart message .getFirstPart part) :
      Portions session [.handle message] part.portion
  | next {inputs : List SessionInput} {bytes message : List UInt8} {part : PartResponse}
      (portions : Portions session inputs bytes)
      (answers : (session.run inputs).AnswersPart message .getNextPart part) :
      Portions session (inputs ++ [.handle message]) (bytes ++ part.portion)
  /-- Anything else may happen in between, and any other message may be refused. -/
  | aside {inputs : List SessionInput} {bytes : List UInt8} {input : SessionInput}
      (portions : Portions session inputs bytes)
      (other : ∀ message operation part, input = .handle message →
        ¬ (session.run inputs).AnswersPart message operation part) :
      Portions session (inputs ++ [input]) bytes

/-- A session whose device pulls the package data. -/
structure Pulling (session : Session) : Prop where
  learning : session.state = .learnComponents
  pulls : session.devicePulls = true
  there : session.plan.packageData ≠ []
  sound : session.plan.Sound
  placed : session.Placed
  amid : session.package.Amid session.plan.packageData

/-- What an input does to the package data. -/
inductive PullStep (session : Session) (input : SessionInput) (after : Session) : Prop where
  /-- A portion is served. -/
  | portion {message : List UInt8} {operation : TransferOperation} {ask : PartRequest}
      {part : PartResponse} {start : Nat} (handled : input = .handle message)
      (answers : session.AnswersPart message operation part)
      (asked : ask.operation? = some operation)
      (served : session.package.Served ask session.plan.packageData session.packagePortion start
        part after.package)
      (done : after.packageDone = (session.packageDone || !after.package.inProgress))
  /-- None is, and the transfer stays as it is or starts over. -/
  | aside (other : ∀ message operation part, input = .handle message →
        ¬ session.AnswersPart message operation part)
      (package : after.package = session.package ∨ after.package = session.package.reset)
      (done : after.packageDone = session.packageDone)

/-! ## One request -/

/-- What an answer reads as. -/
theorem answersWith_of_parse {message : List UInt8} {request : Request}
    (parsed : Request.parse message = .ok request) :
    session.AnswersWith message (responseOf request (session.serve request).1) := by
  rw [AnswersWith, handleRequest_of_parse session parsed]
  cases (session.serve request).1 with
  | ok body => exact ⟨_, rfl, Request.parse_respond parsed BaseCode.success body⟩
  | error cc => exact ⟨_, rfl, Request.parse_respond parsed cc []⟩

/-- A message is answered in one way. -/
theorem AnswersWith.unique {message : List UInt8} {response other : Response}
    (answers : session.AnswersWith message response) (again : session.AnswersWith message other) :
    response = other := by
  obtain ⟨answer, handled, read⟩ := answers
  obtain ⟨answer', handled', read'⟩ := again
  cases handled.symm.trans handled'
  cases read.symm.trans read'
  rfl

/-- A refusal is no portion. -/
theorem Refuses.not_answersPart {message : List UInt8} {operation : TransferOperation}
    {part : PartResponse} (refuses : session.Refuses message) :
    ¬ session.AnswersPart message operation part := by
  rintro ⟨-, response, answers, success, -⟩
  obtain ⟨other, refuses, refused⟩ := refuses
  cases answers.unique refuses
  cases refused.symm.trans success

theorem refuses_of_serve {message : List UInt8} {request : Request} {cc : CompletionCode}
    (parsed : Request.parse message = .ok request)
    (refused : (session.serve request).1 = .error cc) : session.Refuses message := by
  have answers := session.answersWith_of_parse parsed
  rw [refused] at answers
  exact ⟨_, answers, serve_refusal session refused⟩

/-- Handles reach to the end of the package data. -/
theorem Pulling.small (pulling : session.Pulling) :
    session.plan.packageData.length < UInt32.size :=
  Nat.lt_trans pulling.sound.sizes.2.2.1 (by decide)

/-- The device is expected to ask for the package data. -/
theorem Pulling.expects (pulling : session.Pulling) :
    session.expects? .getPackageData = some true := by
  simp [expects?, pulling.learning, pulling.pulls]

/-- A request for a portion is answered with one, or it is refused. -/
theorem Pulling.handle_cases (pulling : session.Pulling) {message : List UInt8}
    {request : Request} {ask : PartRequest} (reads : ReadsAs message request ask) :
    (∃ part package start,
      session.package.serve ask session.plan.packageData session.packagePortion =
        (.ok part, package) ∧
      session.package.Served ask session.plan.packageData session.packagePortion start part
        package ∧
      (∀ operation, ask.operation? = some operation →
        session.AnswersPart message operation part) ∧
      (session.handleRequest message).2 = { session with
        package
        packageDone := session.packageDone || !package.inProgress
        lastCode := BaseCode.success }) ∨
    (∃ error, session.package.serve ask session.plan.packageData session.packagePortion =
        (.error error, session.package) ∧
      session.Refuses message ∧
      (session.handleRequest message).2 = { session with
        package := session.package.afterRefusal ask
        lastCode := error.completionCode }) := by
  have serves := serve_of_expected reads.ours pulling.expects
  rw [serveCommand] at serves
  rw [handleRequest_of_parse session reads.parsed]
  cases result : session.package.serve ask session.plan.packageData session.packagePortion with
  | mk answer package =>
    cases answer with
    | ok part =>
        obtain ⟨bytes, written, understood⟩ := part.message (portion_fits result) "GetPackageData"
        obtain ⟨start, served⟩ := Transfer.served_of_serve result
        rw [servePackageData_of_served reads.read result written] at serves
        have answers := session.answersWith_of_parse reads.parsed
        rw [serves] at answers ⊢
        exact .inl ⟨part, package, start, rfl, served, fun operation asked =>
          ⟨⟨request, ask, reads, asked⟩, _, answers, rfl, understood⟩, rfl⟩
    | error error =>
        cases pulling.amid.serve_eq_error pulling.small result
        rw [servePackageData_of_refused reads.read result] at serves
        rw [serves]
        exact .inr ⟨error, rfl, refuses_of_serve reads.parsed (by rw [serves]), rfl⟩

/-- A request that is not about the package data leaves them alone. -/
theorem Serves.package {request : Request} {served : Except CompletionCode (List UInt8)}
    (serves : session.Serves request served after) (other : ¬ request.IsFor .getPackageData) :
    after.package = session.package ∧ after.packageDone = session.packageDone := by
  cases serves with
  | noPart asked | part asked => exact absurd asked other
  | _ => exact ⟨rfl, rfl⟩

/-- A message that asks for no portion leaves the package data alone. -/
theorem Pulling.handle_other (pulling : session.Pulling) {message : List UInt8}
    (other : ∀ request ask, ¬ ReadsAs message request ask) :
    (session.handleRequest message).2.package = session.package ∧
      (session.handleRequest message).2.packageDone = session.packageDone := by
  cases parsed : Request.parse message with
  | error error =>
      rw [handleRequest, parsed]
      exact ⟨rfl, rfl⟩
  | ok request =>
      rw [handleRequest_of_parse session parsed]
      by_cases ours : request.IsFor .getPackageData
      · rw [serve_of_expected ours pulling.expects, serveCommand, servePackageData]
        cases read : decode "GetPackageData" PartRequest.reader request.data with
        | error error => exact ⟨rfl, rfl⟩
        | ok ask => exact absurd ⟨parsed, ours, read⟩ (other request ask)
      · exact (serve_serves session request).package ours

/-- Any message of the device is a step. -/
theorem PullStep.handle (pulling : session.Pulling) (message : List UInt8) :
    PullStep session (.handle message) (session.handleRequest message).2 := by
  by_cases asks : ∃ request ask, ReadsAs message request ask
  · obtain ⟨request, ask, reads⟩ := asks
    obtain ⟨part, package, start, -, served, answers, left⟩ | ⟨error, -, refuses, left⟩ :=
      pulling.handle_cases reads
    · rw [left]
      obtain ⟨operation, asked⟩ : ∃ operation, ask.operation? = some operation := by
        rcases served.asked with ⟨asked, -⟩ | ⟨asked, -⟩ <;> exact ⟨_, asked⟩
      exact .portion rfl (answers operation asked) asked served rfl
    · rw [left]
      refine .aside ?_ ?_ rfl
      · rintro _ operation part ⟨⟩
        exact refuses.not_answersPart
      · unfold Transfer.afterRefusal
        dsimp only
        split
        · exact .inr rfl
        · exact .inl rfl
  · obtain ⟨package, done⟩ := pulling.handle_other fun request ask reads =>
      asks ⟨request, ask, reads⟩
    refine .aside ?_ (.inl package) done
    rintro _ operation part ⟨⟩ ⟨⟨request, ask, reads, -⟩, -⟩
    exact asks ⟨request, ask, reads⟩

/-- A first portion that is asked for where no pull is under way is the one that the package data
begin with. -/
theorem Pulling.answers_first (pulling : session.Pulling)
    (resting : session.package.inProgress = false) {message : List UInt8}
    (asks : Asks message .getFirstPart) :
    session.AnswersPart message .getFirstPart
      (Transfer.nextPart session.plan.packageData session.packagePortion 0) := by
  obtain ⟨request, ask, reads, asked⟩ := asks
  have serves := Transfer.serve_first resting asked pulling.there pulling.small
    session.packagePortion
  obtain ⟨part, package, start, served, -, answers, -⟩ | ⟨error, refused, -⟩ :=
    pulling.handle_cases reads
  · cases serves.symm.trans served
    exact answers _ asked
  · cases serves.symm.trans refused

/-- A first portion that is refused ends the pull that is under way. -/
theorem Pulling.rests_of_refused (pulling : session.Pulling) {message : List UInt8}
    (asks : Asks message .getFirstPart) (refuses : session.Refuses message) :
    (session.handleRequest message).2.package.inProgress = false := by
  obtain ⟨request, ask, reads, asked⟩ := asks
  obtain ⟨part, package, start, -, -, answers, -⟩ | ⟨error, -, -, left⟩ :=
    pulling.handle_cases reads
  · exact absurd (answers _ asked) refuses.not_answersPart
  · rw [left]
    exact congrArg Transfer.inProgress (if_pos asked)

/-! ## One input -/

/-- The plan does not change while components are learnt. -/
theorem next_plan {input : SessionInput}
    (still : (session.next input).state = .learnComponents) :
    (session.next input).plan = session.plan := by
  cases input with
  | issue command => exact (issue_sameOrder session command).1
  | process message => exact (process_sameOrder session message).1
  | handle message => exact (handleRequest_sameOrder session message).1
  | reset => rfl
  | load plan =>
      rcases next_load session plan with refused | ⟨-, loaded⟩
      · rw [refused]
      · rw [loaded] at still
        cases still

/-- A response neither begins a pull anew nor moves the package data. -/
theorem Pulling.process (pulling : session.Pulling) {message : List UInt8}
    (still : (session.process message).2.state = .learnComponents) :
    (session.process message).2.devicePulls = session.devicePulls ∧
      (session.process message).2.package = session.package ∧
      (session.process message).2.packageDone = session.packageDone := by
  have takes := session.process_takes message
  generalize (session.process message).2 = after at takes still
  cases takes with
  | refused | unable | failed => exact ⟨rfl, rfl, rfl⟩
  | applied answers _ applies =>
      have allowed := answers.allowed pulling.placed
      rw [pulling.learning] at allowed
      cases applies with
      | begun | tooMuchMetadata => simp [allows] at allowed
      | cancelled => cases still
      | _ => exact ⟨rfl, rfl, rfl⟩

/-- An input that leaves a session where its device pulls the package data is a step of the
pull. -/
theorem Pulling.next (pulling : session.Pulling) {input : SessionInput}
    (still : (session.next input).state = .learnComponents) :
    PullStep session input (session.next input) ∧ (session.next input).Pulling := by
  have step : PullStep session input (session.next input) ∧
      (session.next input).devicePulls = session.devicePulls := by
    cases input with
    | issue command =>
        show PullStep session _ (session.issue command).2 ∧
          (session.issue command).2.devicePulls = _
        unfold issue
        repeat' split
        all_goals exact ⟨.aside nofun (.inl rfl) rfl, rfl⟩
    | process message =>
        obtain ⟨pulls, package, done⟩ := pulling.process still
        exact ⟨.aside nofun (.inl package) done, pulls⟩
    | handle message =>
        refine ⟨.handle pulling message, of_handleRequest
          (fun after => after.devicePulls = session.devicePulls) message rfl fun serves => ?_⟩
        cases serves <;> rfl
    | reset => cases still
    | load plan =>
        rcases next_load session plan with refused | ⟨-, loaded⟩
        · rw [refused]
          exact ⟨.aside nofun (.inl rfl) rfl, rfl⟩
        · rw [loaded] at still
          cases still
  obtain ⟨step, pulls⟩ := step
  have plan := next_plan still
  refine ⟨step, still, pulls.trans pulling.pulls, by rw [plan]; exact pulling.there,
    next_sound pulling.sound input, pulling.placed.next input, ?_⟩
  rw [plan]
  cases step with
  | portion _ _ _ served => exact (served.amid pulling.amid).2
  | aside _ package =>
      rcases package with same | anew
      · rw [same]
        exact pulling.amid
      · rw [anew]
        exact Transfer.amid_reset _ _

/-! ## Runs -/

/-- The device has entered the update with the last of the inputs before, and the session has
learnt components since. -/
structure LearnsSince (first : Session) (before : List SessionInput) (announced : UpdateResponse)
    (since : List SessionInput) : Prop where
  begun : ∃ front message, before = front ++ [.process message] ∧
    (first.run front).Announces message announced
  learning : ∀ more, more <+: since → (first.run (before ++ more)).state = .learnComponents

theorem run_append (first : Session) (inputs more : List SessionInput) :
    first.run (inputs ++ more) = (first.run inputs).run more :=
  List.foldl_append

namespace LearnsSince

variable {before since more : List SessionInput} {announced : UpdateResponse}

/-- What holds since the update has begun has held all the time. -/
theorem of_prefix (learns : first.LearnsSince before announced since) (within : more <+: since) :
    first.LearnsSince before announced more where
  begun := learns.begun
  learning _ inside := learns.learning _ (inside.trans within)

/-- The plan is the one with which the update has begun. -/
theorem plan (learns : first.LearnsSince before announced since) :
    (first.run (before ++ since)).plan = (first.run before).plan := by
  induction since using List.reverseRecOn with
  | nil => rw [List.append_nil]
  | append_singleton front input ih =>
      have still := learns.learning (front ++ [input]) (List.prefix_refl _)
      rw [← List.append_assoc, run_concat] at still ⊢
      exact (next_plan still).trans (ih (learns.of_prefix (List.prefix_append front [input])))

end LearnsSince

/-- Where components are learnt and nothing has been announced, they were learnt before. -/
theorem learning_of_silent {input : SessionInput} (silent : session.Silent input)
    (learning : (session.next input).state = .learnComponents) :
    session.state = .learnComponents := by
  cases input with
  | issue command =>
      have same : (session.issue command).2.state = session.state := by
        unfold issue
        repeat' split
        all_goals rfl
      exact same.symm.trans learning
  | process message =>
      have takes := session.process_takes message
      change (session.process message).2.state = .learnComponents at learning
      generalize (session.process message).2 = after at takes learning
      cases takes with
      | refused | failed => exact learning
      | unable => cases learning
      | applied answers success applies =>
          cases applies with
          | begun read | tooMuchMetadata read =>
              exact absurd ⟨_, answers, success, read⟩ (silent message _ rfl)
          | announced answer =>
              unfold recordPassed at learning
              dsimp only at learning
              split at learning
              · cases learning
              · exact learning
          | componentBegun | activated | componentCancelled | cancelled => cases learning
          | _ => exact learning
  | handle message =>
      refine of_handleRequest (fun after => after.state = .learnComponents →
        session.state = .learnComponents) message id (fun serves => ?_) learning
      cases serves with
      | transferred | verified | applied => exact nofun
      | _ => exact id
  | reset => cases learning
  | load plan =>
      rcases next_load session plan with refused | ⟨-, loaded⟩
      · rwa [refused] at learning
      · rw [loaded] at learning
        cases learning

/-- Where components are learnt, the device has entered the update before. -/
theorem learnsSince_of_learning (idle : first.state = .idle) {inputs : List SessionInput}
    (learning : (first.run inputs).state = .learnComponents) :
    ∃ before announced since, inputs = before ++ since ∧
      first.LearnsSince before announced since := by
  induction inputs using List.reverseRecOn with
  | nil => cases idle.symm.trans learning
  | append_singleton front input ih =>
      have next := learning
      rw [run_concat] at next
      by_cases silent : (first.run front).Silent input
      · obtain ⟨before, announced, since, rfl, learns⟩ := ih (learning_of_silent silent next)
        refine ⟨before, announced, since ++ [input], List.append_assoc .., learns.begun, ?_⟩
        intro more within
        rcases List.prefix_concat_iff.mp within with rfl | within
        · rwa [← List.append_assoc]
        · exact learns.learning more within
      · simp only [Silent, not_forall, not_not] at silent
        obtain ⟨message, announced, rfl, announces⟩ := silent
        refine ⟨front ++ [.process message], announced, [], (List.append_nil _).symm,
          ⟨front, message, rfl, announces⟩, ?_⟩
        intro more within
        rwa [List.prefix_nil.mp within, List.append_nil]

/-- What a session has answered with since the device has entered the update: what has been handed
out of a pull that is under way comes before its handle, and all of the package data have been where
the pull is done. -/
structure HandedOut (first : Session) (before since : List SessionInput) : Prop where
  pulling : (first.run (before ++ since)).Pulling
  underWay : (first.run (before ++ since)).package.inProgress = true →
    ∃ early pull, since = early ++ pull ∧ (first.run (before ++ early)).Portions pull
      ((first.run (before ++ since)).plan.packageData.take
        (first.run (before ++ since)).package.handle.toNat)
  done : (first.run (before ++ since)).packageDone = true →
    ∃ early pull late, since = early ++ pull ++ late ∧
      (first.run (before ++ early)).Portions pull (first.run (before ++ since)).plan.packageData

namespace HandedOut

variable {before since : List SessionInput} {announced : UpdateResponse}

/-- As the device enters the update, nothing has been handed out. -/
theorem of_begun (sound : first.plan.Sound) (placed : first.Placed)
    (learns : first.LearnsSince before announced []) (pulls : announced.pullsPackageData ≠ 0)
    (there : (first.run before).plan.packageData ≠ []) : first.HandedOut before [] := by
  obtain ⟨⟨front, message, rfl, announces⟩, learning⟩ := learns
  have learning := learning [] (List.prefix_refl [])
  have sound := run_sound sound (front ++ [.process message])
  have placed := placed.run (front ++ [.process message])
  rw [List.append_nil, run_concat] at learning
  rw [run_concat] at there sound placed
  by_cases beyond : (first.run front).settings.maxMetadataSize < announced.metadataSize.toNat
  · obtain ⟨cc, -, ended⟩ := announces.process_of_beyond beyond
    change ((first.run front).process message).2.state = _ at learning
    rw [ended] at learning
    cases learning
  · obtain ⟨cc, -, begun⟩ := announces.process_of_within (Nat.not_lt.mp beyond)
    have begun : (first.run front).next (.process message) = _ := congrArg Prod.snd begun
    have some : (first.run front).plan.packageData.isEmpty = false := by
      rw [begun] at there
      exact List.isEmpty_eq_false_iff.mpr there
    constructor
    · rw [List.append_nil, run_concat]
      refine ⟨learning, ?_, there, sound, placed, ?_⟩
      · rw [begun]
        simpa using pulls
      · rw [begun]
        exact Transfer.amid_reset _ _
    · rw [List.append_nil, run_concat, begun]
      exact nofun
    · rw [List.append_nil, run_concat, begun]
      intro done
      simp [some, pulls] at done

/-- A portion continues what has been handed out, or begins it anew. -/
theorem portion (handed : first.HandedOut before since) {message : List UInt8}
    {operation : TransferOperation} {ask : PartRequest} {part : PartResponse} {start : Nat}
    {package : Transfer}
    (answers : (first.run (before ++ since)).AnswersPart message operation part)
    (asked : ask.operation? = some operation)
    (served : (first.run (before ++ since)).package.Served ask
      (first.run (before ++ since)).plan.packageData
      (first.run (before ++ since)).packagePortion start part package) :
    ∃ early pull, since ++ [.handle message] = early ++ pull ∧
      (first.run (before ++ early)).Portions pull
        ((first.run (before ++ since)).plan.packageData.take (start + part.portion.length)) := by
  have bytes := served.bytes
  rcases served.asked with ⟨begins, -, rfl, -⟩ | ⟨goesOn, underWay, -, rfl, -⟩
  · cases asked.symm.trans begins
    rw [List.drop_zero] at bytes
    refine ⟨since, [.handle message], rfl, ?_⟩
    rw [Nat.zero_add, ← bytes]
    exact .first answers
  · cases asked.symm.trans goesOn
    obtain ⟨early, pull, whole, portions⟩ := handed.underWay underWay
    refine ⟨early, pull ++ [.handle message], by rw [whole, List.append_assoc], ?_⟩
    rw [List.take_add, ← bytes]
    refine .next portions ?_
    rwa [← run_append, List.append_assoc, ← whole]

/-- Every input that leaves the session learning components keeps the record. -/
theorem next (handed : first.HandedOut before since) {input : SessionInput}
    (still : (first.run (before ++ (since ++ [input]))).state = .learnComponents) :
    first.HandedOut before (since ++ [input]) := by
  have step : first.run (before ++ (since ++ [input])) =
      (first.run (before ++ since)).next input := by
    rw [← List.append_assoc, run_concat]
  rw [step] at still
  obtain ⟨effect, pulling⟩ := handed.pulling.next still
  have plan := next_plan still
  -- a pull that has been done before is followed by one more input
  have later (done : (first.run (before ++ since)).packageDone = true) :
      ∃ early pull late, since ++ [input] = early ++ pull ++ late ∧
        (first.run (before ++ early)).Portions pull
          (first.run (before ++ since)).plan.packageData := by
    obtain ⟨early, pull, late, whole, portions⟩ := handed.done done
    exact ⟨early, pull, late ++ [input], by rw [whole, List.append_assoc], portions⟩
  constructor <;> rw [step]
  · exact pulling
  · intro underWay
    rw [plan]
    cases effect with
    | portion handled answers asked served =>
        subst handled
        rw [served.handle, served.next]
        exact handed.portion answers asked served
    | aside other package =>
        rcases package with same | anew
        · rw [same] at underWay ⊢
          obtain ⟨early, pull, whole, portions⟩ := handed.underWay underWay
          refine ⟨early, pull ++ [input], by rw [whole, List.append_assoc],
            .aside portions ?_⟩
          rwa [← run_append, List.append_assoc, ← whole]
        · rw [anew] at underWay
          cases underWay
  · intro done
    rw [plan]
    cases effect with
    | @portion message operation ask part start handled answers asked served done' =>
        rw [done', Bool.or_eq_true] at done
        rcases done with before | ended
        · exact later before
        · subst handled
          obtain ⟨early, pull, whole, portions⟩ := handed.portion answers asked served
          refine ⟨early, pull, [], by rw [whole, List.append_nil], ?_⟩
          have last : part.flag.isEnd = true := by simpa [served.underWay] using ended
          have reached := served.ends.mp last
          rw [(served.amid handed.pulling.amid).1, Nat.min_self] at reached
          rwa [reached, List.take_length] at portions
    | aside _ _ done' => exact later (done' ▸ done)

/-- It holds of every run since the device has entered the update. -/
theorem of_learnsSince (sound : first.plan.Sound) (placed : first.Placed)
    (learns : first.LearnsSince before announced since) (pulls : announced.pullsPackageData ≠ 0)
    (there : (first.run before).plan.packageData ≠ []) : first.HandedOut before since := by
  induction since using List.reverseRecOn with
  | nil => exact of_begun sound placed learns pulls there
  | append_singleton front input ih =>
      exact (ih (learns.of_prefix (List.prefix_append front [input]))).next
        (learns.learning _ (List.prefix_refl _))

end HandedOut

/-- Where no pull is under way, none is until the device asks for something. -/
theorem Pulling.rests (pulling : session.Pulling) (resting : session.package.inProgress = false)
    {inputs : List SessionInput} (quiet : ∀ message, .handle message ∉ inputs)
    (learning : ∀ more, more <+: inputs → (session.run more).state = .learnComponents) :
    (session.run inputs).package.inProgress = false := by
  induction inputs generalizing session with
  | nil => exact resting
  | cons input rest ih =>
      have still : (session.next input).state = .learnComponents :=
        learning [input] (List.prefix_append [input] rest)
      obtain ⟨step, pulling'⟩ := pulling.next still
      have resting' : (session.next input).package.inProgress = false := by
        cases step with
        | portion handled =>
            subst handled
            exact absurd List.mem_cons_self (quiet _)
        | aside _ package =>
            rcases package with same | anew
            · rwa [same]
            · rw [anew]
              rfl
      exact ih pulling' resting' (fun message member => quiet message (.tail input member))
        fun more within => learning (input :: more) (List.prefix_cons_inj input |>.mpr within)

/-- After a first portion has been refused, no pull is under way until the device asks again. -/
theorem HandedOut.rests {before earlier between : List SessionInput} {message : List UInt8}
    {announced : UpdateResponse} (handed : first.HandedOut before earlier)
    (learns : first.LearnsSince before announced (earlier ++ .handle message :: between))
    (asks : Asks message .getFirstPart) (refuses : (first.run (before ++ earlier)).Refuses message)
    (quiet : ∀ other, .handle other ∉ between) :
    (first.run (before ++ (earlier ++ .handle message :: between))).package.inProgress = false := by
  have learning (more : List SessionInput) (within : more <+: between) :
      (first.run (before ++ earlier ++ [.handle message] ++ more)).state = .learnComponents := by
    rw [List.append_assoc, List.append_assoc]
    refine learns.learning _ ((List.prefix_append_right_inj earlier).mpr ?_)
    exact (List.prefix_cons_inj _).mpr within
  have still := learning [] (List.nil_prefix)
  rw [List.append_nil] at still
  have refused :
      (first.run (before ++ earlier ++ [.handle message])).package.inProgress = false := by
    rw [run_concat]
    exact handed.pulling.rests_of_refused asks refuses
  have pulling : (first.run (before ++ earlier ++ [.handle message])).Pulling := by
    rw [run_concat] at still ⊢
    exact (handed.pulling.next still).2
  have whole : before ++ (earlier ++ .handle message :: between) =
      before ++ earlier ++ [.handle message] ++ between := by simp
  rw [whole, run_append]
  refine pulling.rests refused quiet fun more within => ?_
  rw [← run_append]
  exact learning more within

/-- A session that learns components and needs to issue a command has nothing left to hand out. -/
theorem packageDone_of_nextAction (learning : session.state = .learnComponents)
    {command : AgentCommand} (needs : session.nextAction = .issue command) :
    session.packageDone = true := by
  unfold nextAction at needs
  rw [learning] at needs
  cases done : session.packageDone with
  | true => rfl
  | false =>
      rw [done] at needs
      split at needs <;> cases needs

end Session

/-- While a session learns the components, the device has entered the update with a response and the
session has learnt them since. Where the device has announced with that response that it pulls the
package data, and there are some, the session needs to issue a command only when the device has
pulled all of them: since the response there are inputs of which the first is answered with a first
portion, and the portions with which it and the later ones are answered are the package data. A
first portion may be refused, but the next time that the device asks for it, it gets the portion
that the package data begin with. -/
theorem package_served_before_session_moves_on {settings : AgentSettings} {plan : UpdatePlan}
    {first : Session} (started : Session.start settings plan = .ok first)
    (inputs : List SessionInput) (learning : (first.run inputs).state = .learnComponents) :
    let session := first.run inputs
    (∃ before announced since, inputs = before ++ since ∧
      first.LearnsSince before announced since) ∧
    ∀ before announced since, inputs = before ++ since →
      first.LearnsSince before announced since → announced.pullsPackageData ≠ 0 →
      session.plan.packageData ≠ [] →
      (∀ command, session.nextAction = .issue command →
        ∃ early pull late, since = early ++ pull ++ late ∧
          (first.run (before ++ early)).Portions pull session.plan.packageData) ∧
      ∀ earlier message between, since = earlier ++ .handle message :: between →
        Session.Asks message .getFirstPart → (first.run (before ++ earlier)).Refuses message →
        (∀ other, .handle other ∉ between) →
        ∀ again, Session.Asks again .getFirstPart →
          session.AnswersPart again .getFirstPart
            (Transfer.nextPart session.plan.packageData session.packagePortion 0) := by
  intro session
  obtain ⟨-, placed⟩ := Session.consistent_of_start started
  obtain ⟨sound, -, idle⟩ := Session.sound_of_start started
  have idle : first.state = .idle := by rw [idle]
  have sound : first.plan.Sound := by rwa [(Session.sound_of_start started).2.2]
  refine ⟨Session.learnsSince_of_learning idle learning, ?_⟩
  rintro before announced since rfl learns pulls there
  have data : (first.run before).plan.packageData ≠ [] := by rwa [← learns.plan]
  have handed := Session.HandedOut.of_learnsSince sound placed learns pulls data
  refine ⟨fun command needs => ?_, ?_⟩
  · exact handed.done (Session.packageDone_of_nextAction learning needs)
  · rintro earlier message between rfl asks refuses quiet again asksAgain
    have before_refusal := Session.HandedOut.of_learnsSince sound placed
      (learns.of_prefix (List.prefix_append earlier _)) pulls data
    have resting := before_refusal.rests learns asks refuses quiet
    exact handed.pulling.answers_first resting asksAgain

namespace TwoPortions

/-- The device enters the update and announces that it pulls the package data. -/
def entered : List SessionInput := [.issue .requestUpdate, .process [0x00, 5, 0x10, 0, 0, 0, 1]]

/-- The device asks for the first portion twice. The second time it is refused, which starts the
pull over. -/
def repeated : List SessionInput := [.handle (asks 0 1), .handle (asks 0 1)]

/-- Then it pulls both portions. -/
def pulled : List SessionInput := repeated ++ [.handle (asks 0 1), .handle (asks 2 0)]

end TwoPortions

open TwoPortions in
/-- A pull that is started over serves three bytes in two portions before the component is
announced. -/
theorem two_portions_served_before_announcement :
    (∃ early pull late, pulled = early ++ pull ++ late ∧
      (first.run (entered ++ early)).Portions pull [7, 8, 9]) ∧
    (first.run (entered ++ [.handle (asks 0 1)])).Refuses (asks 0 1) ∧
    (first.run (entered ++ repeated)).AnswersPart (asks 0 1) .getFirstPart
      { nextHandle := 2, flag := .start, portion := [7, 8] } := by
  have started : Session.start { portionSize := 2 } plan = .ok first := rfl
  have learning :
      ∀ more ∈ pulled.inits, (first.run (entered ++ more)).state = .learnComponents := by
    decide +kernel
  have learns : first.LearnsSince entered { metadataSize := 0, pullsPackageData := 1 } pulled :=
    ⟨⟨[.issue .requestUpdate], _, rfl, _, ⟨rfl, _, rfl, rfl, rfl⟩, rfl, rfl⟩,
      fun more within => learning more ((List.mem_inits more pulled).mpr within)⟩
  have begins : repeated <+: pulled := List.prefix_append _ _
  have asked : Session.Asks (asks 0 1) .getFirstPart :=
    ⟨_, _, ⟨rfl, ⟨rfl, rfl⟩, rfl⟩, by decide +kernel⟩
  have refuses : (first.run (entered ++ [.handle (asks 0 1)])).Refuses (asks 0 1) :=
    ⟨_, ⟨_, rfl, rfl⟩, by decide +kernel⟩
  have served := (package_served_before_session_moves_on started (entered ++ pulled)
    (learns.learning _ (List.prefix_refl _))).2 _ _ _ rfl learns (by decide) (by decide)
  have again := (package_served_before_session_moves_on started (entered ++ repeated)
    (learns.learning _ begins)).2 _ _ _ rfl (learns.of_prefix begins) (by decide) (by decide)
  exact ⟨served.1 .passComponentTable (by decide +kernel), refuses,
    again.2 [.handle (asks 0 1)] (asks 0 1) [] rfl asked refuses nofun _ asked⟩

end FirmwareUpdate
