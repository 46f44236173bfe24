import FirmwareUpdate.Proofs.Agent.Size
import FirmwareUpdate.Proofs.Connection.Window
import FirmwareUpdate.Proofs.Device.Beginning
import FirmwareUpdate.Proofs.Device.Size
import FirmwareUpdate.Proofs.Update.Poll

/-!
# What a device asks of an image

A device asks for the piece of the image that comes next. The piece is not empty, is no longer
than what was negotiated and what its messages have room for, and does not reach beyond the
image. It asks for the same piece until it has it. An agent that has negotiated the size and
offers the image has no reason to refuse such a request.
-/

namespace FirmwareUpdate

open Wire

/-! ## Bytes that have arrived -/

/-- Pieces that follow each other are as long as the way between their ends. -/
theorem Contiguous.length_flatten {start finish : Nat} {pieces : List (Nat × List UInt8)}
    (contiguous : Contiguous start pieces finish) :
    start + (pieces.map Prod.snd).flatten.length = finish := by
  induction pieces generalizing start with
  | nil => exact contiguous
  | cons piece rest ih =>
      obtain ⟨-, -, following⟩ := contiguous
      rw [List.map_cons, List.flatten_cons, List.length_append, ← Nat.add_assoc]
      exact ih following

/-- An image is stored up to the number of bytes that have arrived. -/
theorem Stored.length_eq {details : ComponentDetails} {calls : List DeviceCall} {offset : Nat}
    (stored : Stored details calls offset) :
    (calls.flatMap DeviceCall.storedBytes).length = offset := by
  obtain ⟨pieces, filtered, contiguous⟩ := stored
  have bytes : (pieces.flatMap fun piece => DeviceCall.storedBytes
      (.firmwareData piece.1 piece.2 details .success)) = (pieces.map Prod.snd).flatten := rfl
  rw [flatMap_storedBytes, filtered, List.flatMap_map, bytes, ← contiguous.length_flatten,
    Nat.zero_add]

/-- The size of a component fits the field of its request. -/
theorem CallsSince.size_lt {events : List UpdateEvent} {details : ComponentDetails}
    {calls : List DeviceCall} (since : CallsSince events details calls) :
    details.size < 2 ^ 32 := by
  obtain ⟨-, -, size, -, -, rfl⟩ := since
  exact size.toNat_lt

/-! ## One request -/

/-- A request for a piece of an image that comes next and stays within its limits: the calls
since the component was accepted, the component, what was negotiated, the longest message. -/
structure DataRequest.WithinLimits (wanted : DataRequest) (calls : List DeviceCall)
    (details : ComponentDetails) (negotiated longest : Nat) : Prop where
  next : wanted.offset.toNat = (calls.flatMap DeviceCall.storedBytes).length
  some : 1 ≤ wanted.length.toNat
  served : wanted.length.toNat ≤ negotiated
  fits : responseHeaderSize + wanted.length.toNat ≤ longest
  inside : wanted.offset.toNat + wanted.length.toNat ≤ details.size

namespace Responder

variable {responder : Responder}

/-- The piece that comes next is within the limits, where something is missing. -/
theorem wanted_withinLimits (room : responder.HasRoom) {offset : Nat} {details : ComponentDetails}
    (missing : offset < details.size) (small : details.size < 2 ^ 32) {calls : List DeviceCall}
    (stored : Stored details calls offset) :
    (responder.wanted offset details).WithinLimits calls details responder.maxTransfer
      responder.maxMessage := by
  obtain ⟨bounded, some⟩ := requestSize_bounds room offset details
  have positive := some missing
  have header := room.2
  have offset_eq : (UInt32.ofNat offset).toNat = offset := UInt32.toNat_ofNat_of_lt' (by
    show offset < 2 ^ 32
    omega)
  have length_eq : (UInt32.ofNat (responder.requestSize offset details)).toNat =
      responder.requestSize offset details := UInt32.toNat_ofNat_of_lt' (by
    show responder.requestSize offset details < 2 ^ 32
    omega)
  have served : responder.requestSize offset details ≤ responder.maxTransfer :=
    Nat.le_trans (Nat.min_le_left ..) (Nat.min_le_right ..)
  have fits : responder.requestSize offset details ≤ responder.maxMessage - responseHeaderSize :=
    Nat.min_le_right ..
  refine ⟨?_, ?_, ?_, ?_, ?_⟩
  · show (UInt32.ofNat offset).toNat = _
    rw [offset_eq, stored.length_eq]
  all_goals
    simp only [wanted, offset_eq, length_eq]
    omega

end Responder

/-! ## Runs -/

namespace ResponderHistory

variable {σ : Type} {device : Device σ} {history : ResponderHistory σ}

/-- Events are only added. -/
theorem run_events (device : Device σ) (history : ResponderHistory σ)
    (inputs : List ResponderInput) :
    ∃ new, (history.run device inputs).events = history.events ++ new := by
  induction inputs generalizing history with
  | nil => exact ⟨[], (List.append_nil _).symm⟩
  | cons input rest ih =>
      obtain ⟨later, added⟩ := ih (history.next device input)
      exact ⟨_, added.trans (List.append_assoc ..)⟩

/-- A device that updates a component is not idle. -/
theorem state_of_details {responder : Responder} {details : ComponentDetails}
    (updating : responder.phase.details? = some details) : responder.state ≠ .idle := by
  intro idle
  obtain ⟨reason, phase⟩ := Responder.phase_of_state_idle idle
  rw [phase] at updating
  cases updating

/-- As long as no component is accepted, the one that is being updated stays the same until it is
none, and so does the size that was negotiated. -/
theorem run_component (room : history.responder.HasRoom) {inputs : List ResponderInput}
    {new : List UpdateEvent} (events : (history.run device inputs).events = history.events ++ new)
    (unaccepted : ∀ record, .accepted record ∉ new) :
    (history.run device inputs).responder.phase.details? = none ∨
      (history.run device inputs).responder.phase.details? = history.responder.phase.details? ∧
        (history.run device inputs).responder.maxTransfer = history.responder.maxTransfer := by
  induction inputs generalizing history new with
  | nil => exact .inr ⟨rfl, rfl⟩
  | cons input rest ih =>
      obtain ⟨first, added, step⟩ := imageStep device history room input
      obtain ⟨later, after⟩ := run_events device (history.next device input) rest
      have both : history.events ++ (first ++ later) = history.events ++ new := by
        rw [← List.append_assoc, ← added, ← after]
        exact events
      have split : first ++ later = new := List.append_cancel_left both
      subst split
      have same := details_of_imageStep step fun record member =>
        unaccepted record (List.mem_append_left _ member)
      have rest := ih (next_hasRoom device room input) after fun record member =>
        unaccepted record (List.mem_append_right _ member)
      rcases rest with ended | ⟨details, transfer⟩
      · exact .inl ended
      · rcases same with same | none
        · cases updating : (history.next device input).responder.phase.details? with
          | none => exact .inl (details.trans updating)
          | some component =>
              refine .inr ⟨details.trans same, transfer.trans ?_⟩
              rcases next_begins device history input with ⟨update, -, begins⟩ | ⟨-, goes⟩
              · exact absurd begins.idle (state_of_details (same.symm.trans updating))
              · exact (goes.resolve_left (state_of_details updating)).2
        · exact .inl (details.trans none)

/-- What is known of a device that asks for firmware data. -/
theorem fetching_of_asked (lawful : history.Lawful) {message : List UInt8} {request : Request}
    (made : (history.react device .progress).1.request? = some message)
    (parsed : Request.parse message = .ok request) (asks : request.IsFor .requestFirmwareData) :
    ∃ offset details calls, history.responder.phase.details? = some details ∧
      CallsSince history.events details calls ∧ Stored details calls offset ∧
      offset < details.size ∧ details.size < 2 ^ 32 ∧
      (history.responder.wanted offset details).layout.toMessage = .ok request.data := by
  obtain ⟨offset, exchange, options, details, phase, written⟩ :
      ∃ offset exchange options details,
        history.responder.phase = .download offset none exchange options details ∧
          (history.responder.wanted offset details).layout.toMessage = .ok request.data := by
    cases Responder.due_of_made made parsed asks with
    | piece fetching written => exact ⟨_, _, _, _, fetching, written⟩
    | report _ noPiece => exact absurd rfl noPiece
  have updating : history.responder.phase.details? = some details := by rw [phase]; rfl
  obtain ⟨calls, since, warrants⟩ := lawful.warranted details updating
  rw [phase] at warrants
  obtain ⟨missing, stored⟩ := warrants.2.2.1 rfl
  exact ⟨offset, details, calls, updating, since, stored, missing, since.size_lt, written⟩

/-- Two requests for firmware data between which no component is accepted and nothing is stored
ask for the same. -/
theorem same_request {later : ResponderHistory σ} {inputs : List ResponderInput}
    (lawful : history.Lawful) (reached : later = history.run device inputs)
    {new : List UpdateEvent} (events : later.events = history.events ++ new)
    (unaccepted : ∀ record, .accepted record ∉ new)
    (unstored : ∀ offset data details, .called (.firmwareData offset data details .success) ∉ new)
    {message again : List UInt8} {request other : Request}
    (made : (history.react device .progress).1.request? = some message)
    (parsed : Request.parse message = .ok request) (asks : request.IsFor .requestFirmwareData)
    (repeated : (later.react device .progress).1.request? = some again)
    (reparsed : Request.parse again = .ok other) (reasks : other.IsFor .requestFirmwareData) :
    other = { request with iid := other.iid } := by
  subst reached
  obtain ⟨offset, details, calls, updating, since, stored, -, -, written⟩ :=
    fetching_of_asked lawful made parsed asks
  obtain ⟨offset', details', calls', updating', since', stored', -, -, written'⟩ :=
    fetching_of_asked (run_lawful lawful inputs) repeated reparsed reasks
  -- the same component, and as many of its bytes
  obtain ⟨same, transfer⟩ := (run_component lawful.room events unaccepted).resolve_left
    (by rw [updating']; nofun)
  cases updating'.symm.trans (same.trans updating)
  obtain ⟨more, rfl⟩ := called_of_unaccepted unaccepted
  rw [events] at since'
  obtain ⟨before, rfl, earlier⟩ := since'.of_append
  cases since.unique earlier
  have nothing : more.flatMap DeviceCall.storedBytes = [] := by
    refine List.flatMap_eq_nil_iff.mpr fun call member => ?_
    unfold DeviceCall.storedBytes
    split
    · exact absurd (List.mem_map_of_mem member) (unstored _ _ _)
    · rfl
  have offsets : offset' = offset := by
    rw [← stored'.length_eq, ← stored.length_eq, List.flatMap_append, nothing, List.append_nil]
  have wanted : (history.run device inputs).responder.wanted offset' details =
      history.responder.wanted offset details := by
    rw [offsets, Responder.wanted, Responder.wanted, Responder.requestSize, Responder.requestSize,
      transfer, run_maxMessage]
  have data : other.data = request.data := by
    rw [wanted] at written'
    exact Except.ok.inj (written'.symm.trans written)
  obtain ⟨typ, cmd⟩ := asks
  obtain ⟨typ', cmd'⟩ := reasks
  cases request
  cases other
  simp_all

end ResponderHistory

/-! ## The agent -/

namespace Session

variable {session : Session} {component : ComponentImage} {wanted : DataRequest}

/-- A piece within the limits that the session has negotiated is served. -/
theorem piece_of_withinLimits {calls : List DeviceCall} {details : ComponentDetails}
    {negotiated longest : Nat} (within : wanted.WithinLimits calls details negotiated longest)
    (agreed : negotiated ≤ session.settings.maxTransferSize.toNat)
    (sized : component.image.length = details.size) :
    session.piece component.image wanted.offset.toNat wanted.length.toNat =
      .ok ((component.image.drop wanted.offset.toNat).take wanted.length.toNat) := by
  obtain ⟨-, some, served, -, inside⟩ := within
  unfold piece
  rw [if_neg (by omega), if_neg (by omega)]

/-- A session that transfers an image serves a piece of it, unless the component has failed. -/
theorem serve_fetching (transferring : session.state = .download)
    (current : session.currentComponent? = some component) {request : Request}
    (asks : request.IsFor .requestFirmwareData)
    (read : decode "RequestFirmwareData" DataRequest.reader request.data = .ok wanted) :
    (session.serve request).1 =
      if session.componentFailed then .error UpdateCode.commandNotExpected
      else session.piece component.image wanted.offset.toNat wanted.length.toNat := by
  have known : (ofCode? request.cmd : Option Command) = some .requestFirmwareData := by
    rw [asks.2, ofCode?_code]
  unfold serve
  rw [if_neg (not_not_intro asks.1), known]
  cases failed : session.componentFailed with
  | true =>
      have unexpected : session.expects? .requestFirmwareData = some false := by
        simp [expects?, failed]
      dsimp only
      rw [unexpected]
      simp [transferring]
  | false =>
      have expected : session.expects? .requestFirmwareData = some true := by
        simp [expects?, transferring, failed]
      dsimp only
      rw [expected]
      exact serveFirmwareData_of_read read current

/-- A request within the limits that the session has negotiated is not refused for what it asks,
and it is served unless the component has failed. -/
theorem handleRequest_fetching (transferring : session.state = .download)
    (current : session.currentComponent? = some component) {message : List UInt8}
    {request : Request} (parsed : Request.parse message = .ok request)
    (asks : request.IsFor .requestFirmwareData)
    (read : decode "RequestFirmwareData" DataRequest.reader request.data = .ok wanted)
    {calls : List DeviceCall} {details : ComponentDetails} {negotiated longest : Nat}
    (within : wanted.WithinLimits calls details negotiated longest)
    (agreed : negotiated ≤ session.settings.maxTransferSize.toNat)
    (sized : component.image.length = details.size) :
    ∃ answer response, (session.handleRequest message).1 = .ok answer ∧
      Response.parse answer = .ok response ∧
      response.cc ≠ UpdateCode.invalidTransferLength ∧
      response.cc ≠ UpdateCode.dataOutOfRange ∧
      (session.componentFailed = false → response.cc = BaseCode.success ∧
        response.data = (component.image.drop wanted.offset.toNat).take wanted.length.toNat) := by
  have served := serve_fetching transferring current asks read
  rw [piece_of_withinLimits within agreed sized] at served
  rw [handleRequest_of_parse session parsed, served]
  cases session.componentFailed with
  | true =>
      exact ⟨_, _, rfl, Request.parse_respond parsed _ _, nofun, nofun, nofun⟩
  | false =>
      exact ⟨_, _, rfl, Request.parse_respond parsed _ _, nofun, nofun, fun _ => ⟨rfl, rfl⟩⟩

end Session

/-! ## Every request for a piece -/

/-- In every run of a responder, each request for firmware data asks for the piece that follows
what has been stored of the component since its update began, and for no more than was
negotiated, than a message has room for and than there is of the component. The request is the
same until more is stored. A session that transfers an image of that size, and whose request for
the update the responder has agreed to last, refuses it neither for its length nor for its range. -/
theorem data_requests_stay_within_limits {σ : Type} (device : Device σ) (size : Nat) (state : σ)
    (inputs : List ResponderInput) :
    let start : ResponderHistory σ := { responder := .withMaxMessage size, state }
    let history := start.run device inputs
    ∀ message request, (history.react device .progress).1.request? = some message →
      Request.parse message = .ok request → request.IsFor .requestFirmwareData →
      ∃ details calls update wanted, history.responder.phase.details? = some details ∧
        CallsSince history.events details calls ∧
        (start.updates device inputs).getLast? = some update ∧
        decode "RequestFirmwareData" DataRequest.reader request.data = .ok wanted ∧
        wanted.WithinLimits calls details update.negotiated
          (max size (responseHeaderSize + baselineTransfer)) ∧
        (∀ between new again other,
          let later := (history.next device .progress).run device between
          later.events = history.events ++ new →
          (∀ record, .accepted record ∉ new) →
          (∀ offset data component,
            .called (.firmwareData offset data component .success) ∉ new) →
          (later.react device .progress).1.request? = some again →
          Request.parse again = .ok other → other.IsFor .requestFirmwareData →
          other = { request with iid := other.iid }) ∧
        ∀ settings plan fresh received component,
          Session.start settings plan = .ok fresh →
          settings.maxTransferSize = update.maxTransfer →
          (fresh.run received).state = .download →
          (fresh.run received).currentComponent? = some component →
          component.image.length = details.size →
          ∃ answer response, ((fresh.run received).handleRequest message).1 = .ok answer ∧
            Response.parse answer = .ok response ∧
            response.cc ≠ UpdateCode.invalidTransferLength ∧
            response.cc ≠ UpdateCode.dataOutOfRange ∧
            ((fresh.run received).componentFailed = false → response.cc = BaseCode.success ∧
              response.data =
                (component.image.drop wanted.offset.toNat).take wanted.length.toNat) := by
  intro start history message request made parsed asks
  have lawful : history.Lawful := ResponderHistory.run_lawful_of_start device size state inputs
  obtain ⟨offset, details, calls, updating, since, stored, missing, small, written⟩ :=
    ResponderHistory.fetching_of_asked lawful made parsed asks
  obtain ⟨update, last, negotiated⟩ := ResponderHistory.run_negotiated device
    (rfl : start.responder.state = .idle) (ResponderHistory.state_of_details updating)
  have read := (DataRequest.roundTrips _).decode_of_written written "RequestFirmwareData"
  have within := Responder.wanted_withinLimits lawful.room missing small stored
  have longest : history.responder.maxMessage = max size (responseHeaderSize + baselineTransfer) :=
    ResponderHistory.run_maxMessage device start inputs
  rw [negotiated, longest] at within
  refine ⟨details, calls, update, _, updating, since, last, read, within, ?_, ?_⟩
  · intro between new again other later events unaccepted unstored repeated reparsed reasks
    have reached : later = history.run device (.progress :: between) := rfl
    exact ResponderHistory.same_request lawful reached events unaccepted unstored made parsed asks
      repeated reparsed reasks
  · intro settings plan fresh received component started same transferring current sized
    obtain ⟨-, enough, rfl⟩ := Session.sound_of_start started
    -- a session never negotiates less than the baseline
    have agreed : update.negotiated ≤ settings.maxTransferSize.toNat := by
      rw [UpdateRequest.negotiated, ← same]
      exact Nat.max_le.mpr ⟨Nat.le_refl _, enough⟩
    refine Session.handleRequest_fetching transferring current parsed asks read within ?_ sized
    rw [Session.run_settings]
    exact agreed

namespace TwoPieces

/-- The device has been told of the component and has the first of its two pieces. -/
def halfway : List ResponderInput :=
  inputs ++ [.request ⟨8⟩ request, .progress, .reply ⟨8⟩ ([0, 5, 0x15, 0] ++ image.take 32)]

/-- The agent has been told that the device begins the component. -/
def received : List SessionInput := calls ++ [.issue .updateComponent, .process answer]

end TwoPieces

/-- The request for the second of two pieces is served with the rest of the image. -/
theorem second_piece_served :
    ∃ answer response,
      ((TwoPieces.fresh.run TwoPieces.received).handleRequest
        [0x81, 5, 0x15, 32, 0, 0, 0, 32, 0, 0, 0]).1 = .ok answer ∧
      Response.parse answer = .ok response ∧ response.cc = BaseCode.success ∧
      response.data = TwoPieces.image.drop 32 := by
  obtain ⟨details, calls, update, wanted, updating, -, last, read, -, -, served⟩ :=
    data_requests_stay_within_limits TwoPieces.device 4096 0 TwoPieces.halfway
      [0x81, 5, 0x15, 32, 0, 0, 0, 32, 0, 0, 0]
      { iid := 1, typ := 5, cmd := 0x15, data := [32, 0, 0, 0, 32, 0, 0, 0] } rfl rfl ⟨rfl, rfl⟩
  cases updating
  cases last
  cases read
  obtain ⟨answer, response, answered, parsed, -, -, whole⟩ :=
    served TwoPieces.settings TwoPieces.plan TwoPieces.fresh TwoPieces.received
      { key := TwoPieces.key, version := .raw [], image := TwoPieces.image } rfl rfl rfl rfl rfl
  obtain ⟨success, data⟩ := whole rfl
  exact ⟨answer, response, answered, parsed, success, data⟩

end FirmwareUpdate
