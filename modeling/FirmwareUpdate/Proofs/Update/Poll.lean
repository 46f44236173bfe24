import FirmwareUpdate.Proofs.Transfer.Recovery
import FirmwareUpdate.Proofs.Update.Command

/-!
# What the requests of a device come to

One statement for each request that a device makes: the pair after it. A request is due
when nothing has been sent in the current exchange, and every exchange is over before the
next one begins.
-/

namespace FirmwareUpdate

open Wire

variable {σ : Type}

namespace Session

variable {session : Session}

/-- A request that is expected is served. -/
theorem serve_of_expected {request : Request} {command : Command} (asked : request.IsFor command)
    (expected : session.expects? command = some true) :
    session.serve request = session.serveCommand command request.data := by
  unfold serve
  rw [if_neg (Decidable.not_not.mpr asked.1), asked.2, ofCode?_code]
  dsimp only
  rw [expected]

/-- A new request of a device that is expected is served. -/
theorem serve_newRequest {command : Command} (expected : session.expects? command = some true)
    (responder : Responder) (body : List UInt8) :
    session.serve (responder.newRequest command body).1 = session.serveCommand command body :=
  serve_of_expected ⟨rfl, rfl⟩ expected

/-- The most bytes of package data in one portion. -/
def packagePortion (session : Session) : Nat :=
  min session.settings.portionSize (maxMessageSize - responseHeaderSize - PartResponse.headerSize)

/-- A portion of that many bytes fits a message. -/
theorem portion_fits {transfer after : Transfer} {request : PartRequest} {source : List UInt8}
    {part : PartResponse}
    (served : transfer.serve request source session.packagePortion = (.ok part, after)) :
    PartResponse.headerSize + part.portion.length ≤ maxMessageSize := by
  have length := Transfer.length_portion_of_serve served
  simp only [packagePortion, maxMessageSize, responseHeaderSize, PartResponse.headerSize]
    at length ⊢
  omega

/-- A portion that can be served is served. -/
theorem servePackageData_of_served {body bytes : List UInt8} {request : PartRequest}
    (read : decode "GetPackageData" PartRequest.reader body = .ok request) {part : PartResponse}
    {package : Transfer}
    (served : session.package.serve request session.plan.packageData session.packagePortion =
      (.ok part, package))
    (written : part.layout.toMessage = .ok bytes) :
    session.servePackageData body =
      (.ok bytes, { session with
        package
        packageDone := session.packageDone || !package.inProgress }) := by
  unfold packagePortion at served
  unfold servePackageData
  rw [read]
  dsimp only
  rw [served]
  dsimp only
  rw [written]
  rfl

/-- The next portion of the package data is served. -/
theorem serve_packagePart (learning : session.state = .learnComponents)
    (pulls : session.devicePulls = true) {requester : Transfer} {output : List UInt8}
    {moved : Nat}
    (moves : Transfer.Moved session.plan.packageData requester session.package output moved)
    (small : session.plan.packageData.length < 2 ^ 32) (responder : Responder) {body : List UInt8}
    (read : decode "GetPackageData" PartRequest.reader body = .ok requester.nextRequest) :
    ∃ bytes, decode "GetPackageData" PartResponse.reader bytes =
        .ok (Transfer.nextPart session.plan.packageData session.packagePortion moved) ∧
      session.serve (responder.newRequest .getPackageData body).1 =
        (.ok bytes,
          { session with
            package :=
              session.package.afterPart session.plan.packageData session.packagePortion moved
            packageDone := session.packageDone ||
              decide (Transfer.reached session.plan.packageData session.packagePortion moved =
                session.plan.packageData.length) }) := by
  have expected : session.expects? .getPackageData = some true := by
    simp [expects?, learning, pulls]
  have served := moves.serve_eq small session.packagePortion
  obtain ⟨bytes, written, understood⟩ :=
    PartResponse.message _ (portion_fits served) "GetPackageData"
  refine ⟨bytes, understood, ?_⟩
  rw [serve_newRequest expected, serveCommand, servePackageData_of_served read served written]
  simp [Transfer.afterPart]

/-- A portion that cannot be served is refused. -/
theorem servePackageData_of_refused {body : List UInt8} {request : PartRequest}
    (read : decode "GetPackageData" PartRequest.reader body = .ok request) {error : TransferError}
    (refused : session.package.serve request session.plan.packageData session.packagePortion =
      (.error error, session.package)) :
    session.servePackageData body =
      (.error error.completionCode,
        { session with package := session.package.afterRefusal request }) := by
  unfold packagePortion at refused
  unfold servePackageData
  rw [read]
  dsimp only
  rw [refused]
  rfl

/-- The component that the session updates. -/
def currentComponent? (session : Session) : Option ComponentImage :=
  session.current.bind fun index => session.plan.components[index]?

/-- The piece of an image that the session serves, or why it serves none. -/
def piece (session : Session) (image : List UInt8) (offset length : Nat) :
    Except CompletionCode (List UInt8) :=
  if length = 0 ∨ session.settings.maxTransferSize.toNat < length then
    .error UpdateCode.invalidTransferLength
  else if image.length < offset + length then .error UpdateCode.dataOutOfRange
  else .ok ((image.drop offset).take length)

/-- A request for firmware data is served from the current component. -/
theorem serveFirmwareData_of_read {body : List UInt8} {request : DataRequest}
    (read : decode "RequestFirmwareData" DataRequest.reader body = .ok request)
    {component : ComponentImage} (current : session.currentComponent? = some component) :
    session.serveFirmwareData body =
      session.piece component.image request.offset.toNat request.length.toNat := by
  unfold currentComponent? at current
  unfold serveFirmwareData
  rw [read]
  dsimp only
  rw [current]
  rfl

/-- A piece is as long as the device has asked. -/
theorem length_of_piece {image piece : List UInt8} {offset length : Nat}
    (served : session.piece image offset length = .ok piece) : piece.length = length := by
  unfold Session.piece at served
  split at served
  · cases served
  · split at served
    · cases served
    · cases served
      rw [List.length_take, List.length_drop]
      omega

/-- The device does not ask again for a piece that is refused. -/
theorem refusal_of_piece {image : List UInt8} {offset length : Nat} {cc : CompletionCode}
    (refused : session.piece image offset length = .error cc) :
    cc.isSuccess = false ∧ cc ≠ UpdateCode.retryRequestFirmwareData := by
  unfold Session.piece at refused
  split at refused
  · cases refused
    decide
  · split at refused
    · cases refused
      decide
    · cases refused

/-- A report that is read leads on, or fails the component. -/
theorem takeReport_of_read {what : String} {body : List UInt8} {report : ResultReport}
    (read : decode what ResultReport.reader body = .ok report) (succeeded : UInt8 → Bool)
    (next : Session → Session) :
    session.takeReport what succeeded next body =
      (.ok [], if succeeded report.result then next session
        else { session with componentFailed := true }) := by
  unfold takeReport
  rw [read]
  dsimp only
  split <;> rfl

/-- A report of an application is taken as its result says. -/
theorem takeApplyReport_eq {body : List UInt8} {report : ApplyReport}
    (read : decode "ApplyComplete" ApplyReport.reader body = .ok report) :
    session.takeApplyReport body =
      (.ok [], if (ofCode? report.result : Option ApplyResult).any ApplyResult.isSuccess then
        session.endComponent .updated
        else { session with componentFailed := true }) := by
  unfold takeApplyReport
  rw [read]
  dsimp only
  split <;> rfl

/-- A report on an installation ends the component if it is one of success. -/
theorem takeApplyReport_of_read {body : List UInt8} {report : ApplyReport}
    (read : decode "ApplyComplete" ApplyReport.reader body = .ok report) {result : ApplyResult}
    (coded : report.result = Coded.code result) :
    session.takeApplyReport body =
      (.ok [], if result.isSuccess then session.endComponent .updated
        else { session with componentFailed := true }) := by
  rw [takeApplyReport_eq read, coded, ofCode?_code, Option.any_some]

end Session

/-- The pull when it has begun again. -/
def PackagePull.restarted (pull : PackagePull) : PackagePull :=
  { transfer := pull.transfer.reset, restarts := pull.restarts + 1 }

namespace Responder

/-- A device that is in a phase other than rest is not idle. -/
theorem running_of_phase {responder : Responder} {phase : DevicePhase}
    (now : responder.phase = phase) (busy : (phase.state == .idle) = false) :
    responder.state ≠ .idle := by
  rw [state, now]
  exact ne_of_beq_false busy

/-- A device that has heard of its agent moves the update on. -/
theorem progress_of_recent {responder : Responder} {device : Device σ} {state : σ}
    (running : responder.state ≠ .idle)
    (recent : (device.now state).1 - responder.lastActivity ≤ silenceLimit) :
    responder.progress device state = responder.progressPhase device (device.now state).2 := by
  unfold progress
  split
  · rename_i idle
    exact absurd (by rw [Responder.state, idle]; rfl) running
  · dsimp only
    rw [if_neg (Nat.not_lt.mpr recent)]

/-- The answer to the request for package data is taken. -/
theorem takePackageReply_of_waiting {responder : Responder} {device : Device σ}
    {response : Response} {state : σ} {pull : PackagePull} {passed : Bool} {time : Nat}
    (typ : response.typ = firmwareUpdateType)
    (waiting : responder.phase = .learnComponents
      (some { pull with exchange := .sent response.iid response.cmd time }) passed) :
    responder.takePackageReply device response state =
      responder.takePart device { pull with exchange := .ready } passed response state := by
  unfold takePackageReply
  rw [waiting]
  dsimp only
  rw [if_pos (by simp [Exchange.isAnsweredBy, typ])]

/-- A portion that is read and accepted is taken. -/
theorem takePart_of_accepted (responder : Responder) (device : Device σ) {pull : PackagePull}
    (passed : Bool) {response : Response} (state : σ) (success : response.cc.isSuccess = true)
    {part : PartResponse}
    (read : decode "GetPackageData" PartResponse.reader response.data = .ok part)
    {transfer : Transfer} {data : List UInt8}
    (accepted : pull.transfer.accept part pull.data = .ok (transfer, data)) :
    responder.takePart device pull passed response state =
      if transfer.inProgress then
        (.ok (), responder.continuePull device { pull with transfer, data } passed state)
      else (.ok (), responder.endPull device passed (some data) state) := by
  unfold takePart
  rw [if_pos success, read]
  dsimp only
  rw [accepted]

/-- A refusal after which the pull may begin again. -/
theorem takePart_of_refused (responder : Responder) (device : Device σ)
    {pull : PackagePull} (ready : pull.exchange = .ready) (passed : Bool) {response : Response}
    (state : σ) (refused : response.cc.isSuccess = false)
    (again : allowsRestart response.cc = true) (few : pull.restarts < PackagePull.maxRestarts) :
    responder.takePart device pull passed response state =
      (.ok (), responder.continuePull device pull.restarted passed state) := by
  have restarts : pull.restart? = some pull.restarted := by
    rw [PackagePull.restart?, if_neg (Nat.not_le.mpr few), PackagePull.restarted, ready]
  rw [takePart, if_neg (by simp [refused]), if_pos again, restartPull, restarts]

section DataReply

variable {responder : Responder} {device : Device σ} {response : Response} {state : σ}
  {offset time : Nat} {options : UInt32} {details : ComponentDetails}

/-- The answer to the request that the device waits for is taken. -/
theorem takeDataReply_of_waiting (typ : response.typ = firmwareUpdateType)
    (waiting : responder.phase =
      .download offset none (.sent response.iid response.cmd time) options details) :
    responder.takeDataReply device response state =
      let touched := responder.touch device state
      (.ok (), touched.1.takeData device offset (.sent response.iid response.cmd time) options
        details response touched.2) := by
  unfold takeDataReply
  rw [waiting]
  dsimp only
  rw [if_pos (by simp [Exchange.isAnsweredBy, typ])]

/-- A piece as long as the device has asked for is stored. -/
theorem takeDataReply_of_served (typ : response.typ = firmwareUpdateType)
    (waiting : responder.phase =
      .download offset none (.sent response.iid response.cmd time) options details)
    (success : response.cc = BaseCode.success)
    (length : response.data.length = responder.requestSize offset details) :
    responder.takeDataReply device response state =
      let touched := responder.touch device state
      let stored := device.firmwareData offset response.data details touched.2
      (.ok (),
        { touched.1 with
          phase := afterData offset response.data.length stored.1 options details },
        stored.2) := by
  have mild : response.cc ≠ UpdateCode.retryRequestFirmwareData := by
    rw [success]
    decide
  have same : (responder.touch device state).1.requestSize offset details =
      responder.requestSize offset details := rfl
  rw [takeDataReply_of_waiting typ waiting]
  unfold takeData
  dsimp only
  rw [if_neg mild, if_pos (by rw [success]; rfl), same, if_pos length]

/-- A refusal ends the transfer. -/
theorem takeDataReply_of_refused (typ : response.typ = firmwareUpdateType)
    (waiting : responder.phase =
      .download offset none (.sent response.iid response.cmd time) options details)
    (refused : response.cc.isSuccess = false)
    (final : response.cc ≠ UpdateCode.retryRequestFirmwareData) :
    responder.takeDataReply device response state =
      let touched := responder.touch device state
      (.ok (),
        { touched.1 with phase := .download offset (some .generic) .ready options details },
        touched.2) := by
  rw [takeDataReply_of_waiting typ waiting]
  unfold takeData
  dsimp only
  rw [if_neg final, if_neg (by simp [refused])]

end DataReply

end Responder

namespace Pair

variable {device : Device σ} {agent : EndpointId} {pair : Pair σ}

/-- The device can send its next request to the agent, which it has heard of not long ago. -/
structure InTouch (device : Device σ) (agent : EndpointId) (pair : Pair σ) : Prop where
  owner : pair.responder.owner = some agent
  fits : FitsInstance pair.responder.nextIid
  recent : (device.now pair.state).1 - pair.responder.lastActivity ≤ Responder.silenceLimit

/-- The device's request is one that it has just numbered. -/
theorem poll_of_request {responder : Responder} {state : σ} {command : Command}
    {body : List UInt8}
    (asked : pair.responder.progress device pair.state =
      (some (pair.responder.newRequest command body).1.toBytes, responder, state))
    (owner : responder.owner = some agent) (fits : FitsInstance pair.responder.nextIid)
    {answer : Except CompletionCode (List UInt8)} {session : Session}
    (served : pair.session.serve (pair.responder.newRequest command body).1 = (answer, session)) :
    pair.poll device agent =
      let response := Session.responseOf (pair.responder.newRequest command body).1 answer
      let taken := match command with
        | .getPackageData => responder.takePackageReply device response state
        | .requestFirmwareData => responder.takeDataReply device response state
        | .transferComplete | .verifyComplete | .applyComplete => (.ok (), responder, state)
        | _ => (.error (.codec (.protocol .unsupportedResponse)), responder, state)
      { session := { session with lastCode := response.cc }
        responder := taken.2.1
        state := taken.2.2 } := by
  rw [poll_eq asked owner fits rfl served]
  have known : (ofCode? (pair.responder.newRequest command body).1.cmd : Option Command) =
      some command := ofCode?_code command
  rw [known]
  cases command <;> rfl

/-- The device reports how the transfer has ended. -/
theorem poll_transferComplete (inTouch : pair.InTouch device agent)
    {offset : Nat} {result : TransferResult} {options : UInt32} {details : ComponentDetails}
    (phase : pair.responder.phase = .download offset (some result) .ready options details)
    (receiving : pair.session.state = .download)
    (whole : pair.session.componentFailed = false) :
    pair.poll device agent =
      let numbered := { pair.responder with nextIid := nextInstance pair.responder.nextIid }
      if result = .success then
        { session := { pair.session with state := .verify, lastCode := BaseCode.success }
          responder := numbered.enter (.verify .ready details)
          state := (device.now pair.state).2 }
      else
        { session :=
            { pair.session with componentFailed := true, lastCode := BaseCode.success }
          responder :=
            { numbered with
              phase := .download offset (some result) (.failed (Coded.code result)) options
                details }
          state := (device.now pair.state).2 } := by
  obtain ⟨body, written, -, read⟩ :=
    (ResultReport.roundTrips { result := Coded.code result }).message (by decide)
      "TransferComplete"
  have asked : pair.responder.progress device pair.state =
      (some (pair.responder.newRequest .transferComplete body).1.toBytes,
        if result = .success then
          (pair.responder.newRequest .transferComplete body).2.enter (.verify .ready details)
        else
          { (pair.responder.newRequest .transferComplete body).2 with
            phase := .download offset (some result) (.failed (Coded.code result)) options
              details },
        (device.now pair.state).2) := by
    rw [Responder.progress_of_recent (Responder.running_of_phase phase rfl) inTouch.recent,
      Responder.progressPhase, phase]
    simp only [Responder.progressDownload, Exchange.isDue, written]
  have expected : pair.session.expects? .transferComplete = some true := by
    simp [Session.expects?, receiving, whole]
  have served : pair.session.serve (pair.responder.newRequest .transferComplete body).1 =
      (.ok [], if result = .success then { pair.session with state := .verify }
        else { pair.session with componentFailed := true }) := by
    rw [Session.serve_newRequest expected, Session.serveCommand]
    dsimp only
    rw [Session.takeReport_of_read read]
    simp only [beq_iff_eq, code_eq_code_iff]
  rw [poll_of_request asked (by split <;> exact inTouch.owner) inTouch.fits served]
  dsimp only
  split <;> rfl

/-- The device reports whether the image is intact. -/
theorem poll_verifyComplete (inTouch : pair.InTouch device agent)
    {details : ComponentDetails} (phase : pair.responder.phase = .verify .ready details)
    (checking : pair.session.state = .verify)
    (whole : pair.session.componentFailed = false) :
    pair.poll device agent =
      let numbered := { pair.responder with nextIid := nextInstance pair.responder.nextIid }
      let verified := device.verify details (device.now pair.state).2
      if verified.1 = .success then
        { session := { pair.session with state := .apply, lastCode := BaseCode.success }
          responder := numbered.enter (.apply .ready details)
          state := verified.2 }
      else
        { session :=
            { pair.session with componentFailed := true, lastCode := BaseCode.success }
          responder :=
            { numbered with phase := .verify (.failed (Coded.code verified.1)) details }
          state := verified.2 } := by
  cases verified : device.verify details (device.now pair.state).2 with
  | mk result state =>
      obtain ⟨body, written, -, read⟩ :=
        (ResultReport.roundTrips { result := Coded.code result }).message (by decide)
          "VerifyComplete"
      have asked : pair.responder.progress device pair.state =
          (some (pair.responder.newRequest .verifyComplete body).1.toBytes,
            if result = .success then
              (pair.responder.newRequest .verifyComplete body).2.enter (.apply .ready details)
            else
              { (pair.responder.newRequest .verifyComplete body).2 with
                phase := .verify (.failed (Coded.code result)) details },
            state) := by
        rw [Responder.progress_of_recent (Responder.running_of_phase phase rfl) inTouch.recent,
          Responder.progressPhase, phase]
        simp only [Responder.progressVerify, Exchange.isDue, verified, written]
      have expected : pair.session.expects? .verifyComplete = some true := by
        simp [Session.expects?, checking, whole]
      have served : pair.session.serve (pair.responder.newRequest .verifyComplete body).1 =
          (.ok [], if result = .success then { pair.session with state := .apply }
            else { pair.session with componentFailed := true }) := by
        rw [Session.serve_newRequest expected, Session.serveCommand]
        dsimp only
        rw [Session.takeReport_of_read read]
        simp only [beq_iff_eq, code_eq_code_iff]
      rw [poll_of_request asked (by split <;> exact inTouch.owner) inTouch.fits served]
      dsimp only
      split <;> rfl

/-- The device reports whether the image has been put in its place. -/
theorem poll_applyComplete (inTouch : pair.InTouch device agent)
    {details : ComponentDetails} (phase : pair.responder.phase = .apply .ready details)
    (applying : pair.session.state = .apply)
    (whole : pair.session.componentFailed = false) :
    pair.poll device agent =
      let numbered := { pair.responder with nextIid := nextInstance pair.responder.nextIid }
      let applied := device.apply details (device.now pair.state).2
      let result := (Responder.applyReport applied.1).1
      if result.isSuccess then
        { session := { pair.session.endComponent .updated with lastCode := BaseCode.success }
          responder := numbered.enter .readyXfer
          state := applied.2 }
      else
        { session :=
            { pair.session with componentFailed := true, lastCode := BaseCode.success }
          responder := { numbered with phase := .apply (.failed (Coded.code result)) details }
          state := applied.2 } := by
  cases applied : device.apply details (device.now pair.state).2 with
  | mk outcome state =>
      cases reported : Responder.applyReport outcome with
      | mk result methods =>
          obtain ⟨body, written, -, read⟩ :=
            (ApplyReport.roundTrips { result := Coded.code result, methods }).message (by decide)
              "ApplyComplete"
          have asked : pair.responder.progress device pair.state =
              (some (pair.responder.newRequest .applyComplete body).1.toBytes,
                if result.isSuccess then
                  (pair.responder.newRequest .applyComplete body).2.enter .readyXfer
                else
                  { (pair.responder.newRequest .applyComplete body).2 with
                    phase := .apply (.failed (Coded.code result)) details },
                state) := by
            rw [Responder.progress_of_recent (Responder.running_of_phase phase rfl) inTouch.recent,
              Responder.progressPhase, phase]
            simp only [Responder.progressApply, Exchange.isDue, applied, reported, written]
          have expected : pair.session.expects? .applyComplete = some true := by
            simp [Session.expects?, applying, whole]
          have served : pair.session.serve (pair.responder.newRequest .applyComplete body).1 =
              (.ok [], if result.isSuccess then pair.session.endComponent .updated
                else { pair.session with componentFailed := true }) := by
            rw [Session.serve_newRequest expected, Session.serveCommand]
            dsimp only
            exact Session.takeApplyReport_of_read read rfl
          rw [poll_of_request asked (by split <;> exact inTouch.owner) inTouch.fits served]
          dsimp only
          rw [reported]
          dsimp only
          split <;> rfl

/-- A device that pulls package data asks for them when the request is due. -/
theorem progress_getPackageData (inTouch : pair.InTouch device agent)
    {pull : PackagePull} {passed : Bool}
    (phase : pair.responder.phase = .learnComponents (some pull) passed) {ready : σ}
    (due : pull.exchange.isDue device (device.now pair.state).2 = (true, ready)) :
    ∃ body, decode "GetPackageData" PartRequest.reader body = .ok pull.transfer.nextRequest ∧
      pair.responder.progress device pair.state =
        let request := (pair.responder.newRequest .getPackageData body).1
        (some request.toBytes,
          { (pair.responder.newRequest .getPackageData body).2 with
            phase := .learnComponents
              (some { pull with
                exchange := .sent request.iid request.cmd (device.now ready).1 }) passed },
          (device.now ready).2) := by
  obtain ⟨body, written, -, read⟩ :=
    pull.transfer.nextRequest.roundTrips.message (by decide) "GetPackageData"
  refine ⟨body, read, ?_⟩
  rw [Responder.progress_of_recent (Responder.running_of_phase phase rfl) inTouch.recent,
    Responder.progressPhase, phase]
  simp only [Responder.progressPull, due, written]
  rfl

/-- The device asks for package data, which the session serves or does not. -/
theorem poll_getPackageData (inTouch : pair.InTouch device agent)
    {pull : PackagePull} {passed : Bool}
    (phase : pair.responder.phase = .learnComponents (some pull) passed) {ready : σ}
    (due : pull.exchange.isDue device (device.now pair.state).2 = (true, ready)) :
    ∃ body, decode "GetPackageData" PartRequest.reader body = .ok pull.transfer.nextRequest ∧
      ∀ {answer : Except CompletionCode (List UInt8)} {session : Session},
        pair.session.serve (pair.responder.newRequest .getPackageData body).1 =
          (answer, session) →
        pair.poll device agent =
          let sent := device.now ready
          let request := (pair.responder.newRequest .getPackageData body).1
          let response := Session.responseOf request answer
          let waiting :=
            { (pair.responder.newRequest .getPackageData body).2 with
              phase := .learnComponents
                (some { pull with exchange := .sent request.iid request.cmd sent.1 }) passed }
          let taken := waiting.takePart device { pull with exchange := .ready } passed response
            sent.2
          { session := { session with lastCode := response.cc }
            responder := taken.2.1
            state := taken.2.2 } := by
  obtain ⟨body, read, asked⟩ := progress_getPackageData inTouch phase due
  refine ⟨body, read, fun {answer session} served => ?_⟩
  rw [poll_of_request asked inTouch.owner inTouch.fits served]
  dsimp only
  rw [Responder.takePackageReply_of_waiting (by cases answer <;> rfl) (by cases answer <;> rfl)]

/-- A portion of the package data moves on to the device. -/
theorem poll_packagePart (inTouch : pair.InTouch device agent)
    {pull : PackagePull} {passed : Bool}
    (phase : pair.responder.phase = .learnComponents (some pull) passed) {ready : σ}
    (due : pull.exchange.isDue device (device.now pair.state).2 = (true, ready))
    (learning : pair.session.state = .learnComponents)
    (pulls : pair.session.devicePulls = true) {moved : Nat}
    (moves : Transfer.Moved pair.session.plan.packageData pull.transfer pair.session.package
      pull.data moved)
    (small : pair.session.plan.packageData.length < 2 ^ 32) :
    pair.poll device agent =
      let package := pair.session.plan.packageData
      let portionSize := pair.session.packagePortion
      let reached := Transfer.reached package portionSize moved
      let heard := device.now (device.now ready).2
      { session :=
          { pair.session with
            package := pair.session.package.afterPart package portionSize moved
            packageDone := pair.session.packageDone || decide (reached = package.length)
            lastCode := BaseCode.success }
        responder :=
          { pair.responder with
            nextIid := nextInstance pair.responder.nextIid
            lastActivity := heard.1
            phase := .learnComponents
              (if reached = package.length then none
                else some { pull with
                  exchange := .ready
                  transfer := pull.transfer.afterPart package portionSize moved
                  data := package.take reached }) passed }
        state := if reached = package.length then device.packageData package heard.2
          else heard.2 } := by
  obtain ⟨body, read, polled⟩ := poll_getPackageData inTouch phase due
  obtain ⟨bytes, understood, served⟩ :=
    Session.serve_packagePart learning pulls moves small pair.responder read
  let heard : PackagePull := { pull with exchange := .ready }
  have accepted : heard.transfer.accept _ heard.data = .ok _ :=
    moves.accept_eq small pair.session.packagePortion
  rw [polled served]
  dsimp only
  rw [Responder.takePart_of_accepted _ _ _ _ rfl understood accepted]
  by_cases last : Transfer.reached pair.session.plan.packageData pair.session.packagePortion moved =
      pair.session.plan.packageData.length
  · simp only [Transfer.afterPart, last, ne_eq, not_true_eq_false, decide_false, decide_true,
      if_true, if_false, List.take_length, Bool.false_eq_true]
    rfl
  · simp only [Transfer.afterPart, last, ne_eq, not_false_eq_true, decide_true, decide_false,
      if_true, if_false]
    rfl

/-- A request for package data that the session refuses lets the pull begin again. -/
theorem poll_packageRefused (inTouch : pair.InTouch device agent)
    {pull : PackagePull} {passed : Bool}
    (phase : pair.responder.phase = .learnComponents (some pull) passed) {ready : σ}
    (due : pull.exchange.isDue device (device.now pair.state).2 = (true, ready))
    (learning : pair.session.state = .learnComponents)
    (pulls : pair.session.devicePulls = true) {error : TransferError}
    (refused : pair.session.package.serve pull.transfer.nextRequest
      pair.session.plan.packageData pair.session.packagePortion =
        (.error error, pair.session.package))
    (again : Responder.allowsRestart error.completionCode = true)
    (few : pull.restarts < PackagePull.maxRestarts) :
    pair.poll device agent =
      let heard := device.now (device.now ready).2
      { session :=
          { pair.session with
            package := pair.session.package.afterRefusal pull.transfer.nextRequest
            lastCode := error.completionCode }
        responder :=
          { pair.responder with
            nextIid := nextInstance pair.responder.nextIid
            lastActivity := heard.1
            phase := .learnComponents (some pull.restarted) passed }
        state := heard.2 } := by
  obtain ⟨body, read, polled⟩ := poll_getPackageData inTouch phase due
  have expected : pair.session.expects? .getPackageData = some true := by
    simp [Session.expects?, learning, pulls]
  have served := (Session.serve_newRequest expected pair.responder body).trans
    (Session.servePackageData_of_refused read refused)
  let heard : PackagePull := { pull with exchange := .ready }
  rw [polled served]
  dsimp only
  rw [Responder.takePart_of_refused _ _ (show heard.exchange = .ready from rfl) _ _
    error.isSuccess_completionCode again few]
  rfl

/-- A device that asks for nothing changes nothing. -/
theorem poll_of_quiet {state : σ}
    (quiet : pair.responder.progress device pair.state = (none, pair.responder, state)) :
    pair.poll device agent = { pair with state } := by
  unfold poll
  rw [quiet]

/-- The device asks for a piece of the image, and the session serves it or does not. -/
theorem poll_requestFirmwareData (inTouch : pair.InTouch device agent)
    {offset : Nat} {options : UInt32} {component : ComponentImage}
    (phase : pair.responder.phase = .download offset none .ready options component.details)
    (receiving : pair.session.state = .download)
    (whole : pair.session.componentFailed = false)
    (current : pair.session.currentComponent? = some component)
    (small : component.image.length < 2 ^ 32) (within : offset ≤ component.image.length) :
    pair.poll device agent =
      let size := pair.responder.requestSize offset component.details
      let heard := device.now (device.now (device.now pair.state).2).2
      let next :=
        { pair.responder with
          nextIid := nextInstance pair.responder.nextIid
          lastActivity := heard.1 }
      match pair.session.piece component.image offset size with
      | .ok piece =>
        let stored := device.firmwareData offset piece component.details heard.2
        { session := { pair.session with lastCode := BaseCode.success }
          responder :=
            { next with
              phase := Responder.afterData offset piece.length stored.1 options
                component.details }
          state := stored.2 }
      | .error cc =>
        { session := { pair.session with lastCode := cc }
          responder :=
            { next with
              phase := .download offset (some .generic) .ready options component.details }
          state := heard.2 } := by
  have bounded : pair.responder.requestSize offset component.details ≤ component.image.length := by
    simp only [Responder.requestSize, ComponentImage.details]
    omega
  obtain ⟨body, written, -, read⟩ := (DataRequest.roundTrips
    { offset := UInt32.ofNat offset
      length := UInt32.ofNat (pair.responder.requestSize offset component.details) }).message
    (by decide) "RequestFirmwareData"
  -- What the device asks for, what the agent answers, and what the device makes of it.
  have asked : pair.responder.progress device pair.state =
      (some (pair.responder.newRequest .requestFirmwareData body).1.toBytes,
        { (pair.responder.newRequest .requestFirmwareData body).2 with
          phase := .download offset none
            (.sent pair.responder.nextIid (Coded.code Command.requestFirmwareData)
              (device.now (device.now pair.state).2).1) options component.details },
        (device.now (device.now pair.state).2).2) := by
    rw [Responder.progress_of_recent (Responder.running_of_phase phase rfl) inTouch.recent,
      Responder.progressPhase, phase]
    simp only [Responder.progressDownload, Exchange.isDue, written]
    rfl
  have expected : pair.session.expects? .requestFirmwareData = some true := by
    simp [Session.expects?, receiving, whole]
  have served : pair.session.serve (pair.responder.newRequest .requestFirmwareData body).1 =
      (pair.session.piece component.image offset
        (pair.responder.requestSize offset component.details), pair.session) := by
    rw [Session.serve_newRequest expected, Session.serveCommand,
      Session.serveFirmwareData_of_read read current,
      UInt32.toNat_ofNat_of_lt' (Nat.lt_of_le_of_lt within small),
      UInt32.toNat_ofNat_of_lt' (Nat.lt_of_le_of_lt bounded small)]
  rw [poll_of_request asked inTouch.owner inTouch.fits served]
  dsimp only
  cases piece : pair.session.piece component.image offset
      (pair.responder.requestSize offset component.details) with
  | ok bytes =>
      have length := Session.length_of_piece piece
      rw [Responder.takeDataReply_of_served rfl rfl rfl length]
      rfl
  | error cc =>
      obtain ⟨refused, final⟩ := Session.refusal_of_piece piece
      rw [Responder.takeDataReply_of_refused rfl rfl refused final]
      rfl

end Pair

end FirmwareUpdate
