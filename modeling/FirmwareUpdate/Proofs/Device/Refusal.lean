import FirmwareUpdate.Proofs.Device.Size
import FirmwareUpdate.Proofs.Transfer.Serve

/-!
# A request that is refused changes nothing

Every handler decides before it changes anything: where an answer has a body that could be too
long, the responder is as it was, and the bodies of all other answers fit a message. The one
change that a refusal can leave is in the transfer of metadata, which ends if the device has no
longer the metadata that are asked for. `Settles` says so for each handler; that portions of
metadata fit, and that a transfer under way has a rest, is kept by every reaction (`Poised`).
-/

namespace FirmwareUpdate

open Wire

/-! ## Answers -/

namespace Responder

variable {σ : Type}

/-- Portions of metadata fit a message, and metadata under way have a rest. -/
structure Poised (responder : Responder) : Prop where
  room : responder.maxMessage = maxMessageSize
  rest : responder.metadata.HasRest

/-- A responder is as it was, but for metadata that have shrunk to the handle of their transfer:
the transfer has ended. -/
def LeftAlone (available : Nat) (before after : Responder) : Prop :=
  ∃ metadata, Transfer.LeftAlone available before.metadata metadata ∧
    after = { before with metadata }

/-- The codes of a command that has taken effect. -/
def TakesEffect (cc : CompletionCode) : Prop :=
  cc = BaseCode.success ∨ cc = UpdateCode.activationNotRequired

/-- What the answer to a request comes to: a response with the code of a command that has taken
effect, or a refusal that leaves the responder alone. -/
inductive Settles (available : Nat) (request : Request) (before : Responder) : Answer σ → Prop where
  | done {cc : CompletionCode} {body : List UInt8} {after : Responder} {later : σ}
      (effective : TakesEffect cc) (poised : after.Poised) :
      Settles available request before (.ok (request.respond cc body), after, later)
  | refused {cc : CompletionCode} {after : Responder} {later : σ}
      (left : before.LeftAlone available after) :
      Settles available request before (.error cc, after, later)

/-- A responder that does nothing is left alone. -/
theorem leftAlone_refl (available : Nat) (responder : Responder) :
    responder.LeftAlone available responder :=
  ⟨responder.metadata, .inl rfl, rfl⟩

/-- What is left alone stays poised. -/
theorem LeftAlone.poised {available : Nat} {before after : Responder}
    (left : before.LeftAlone available after) (poised : before.Poised) : after.Poised := by
  obtain ⟨metadata, same | ⟨-, -, -, ended⟩, rfl⟩ := left
  · exact ⟨poised.room, same ▸ poised.rest⟩
  · refine ⟨poised.room, ?_⟩
    rw [ended]
    exact nofun

section

variable {available : Nat} {request : Request} {responder : Responder}

/-- A refusal that changes nothing settles a request. -/
theorem settles_refused (cc : CompletionCode) (later : σ) :
    Settles available request responder (.error cc, responder, later) :=
  .refused (leftAlone_refl available responder)

/-- An answer that changes nothing may be too long. -/
theorem settles_inquiry (poised : responder.Poised) (body : Layout) (later : σ) :
    Settles available request responder (respondWith request body, responder, later) := by
  cases responds : respondWith request body with
  | error cc => exact settles_refused cc later
  | ok response =>
      obtain ⟨written, -, rfl⟩ := respondWith_eq_ok responds
      exact .done (.inl rfl) poised

/-- An answer that fits a message may come with a change. -/
theorem settles_respondWith {α : Type} {body : Layout} {reader : Reader α} {value : α}
    {size : Nat} (trip : RoundTrips body reader value size) (short : size ≤ maxMessageSize)
    {after : Responder} (poised : after.Poised) (later : σ) :
    Settles available request responder (respondWith request body, after, later) := by
  obtain ⟨written, responds⟩ := respondWith_of_roundTrips request trip short
  rw [responds]
  exact .done (.inl rfl) poised

/-- The end of an update ends the transfer of its metadata. -/
theorem Poised.enterIdle (poised : responder.Poised) (reason : IdleReason) :
    (responder.enterIdle reason).Poised :=
  ⟨poised.room, responder.metadata.hasRest_reset⟩

variable (device : Device σ) (state : σ)

/-- An update begins, or the device declines it and nothing has changed. -/
theorem acceptUpdate_settles (poised : responder.Poised) (agent : EndpointId)
    (update : UpdateRequest) :
    Settles available request responder
      (responder.acceptUpdate device agent request update state) := by
  simp only [acceptUpdate]
  split
  · exact settles_refused ..
  · refine settles_respondWith (UpdateResponse.roundTrips _) (by decide) ?_ _
    exact ⟨poised.room, Transfer.hasRest_reset _⟩

/-- A request for an update takes effect or changes nothing. -/
theorem answerUpdate_settles (poised : responder.Poised) (agent : EndpointId) :
    Settles available request responder
      (responder.answerUpdate device agent request state) := by
  simp only [answerUpdate]
  split
  · split
    · exact settles_refused ..
    · split
      · exact settles_refused ..
      · exact settles_refused ..
      · exact acceptUpdate_settles device _ poised agent _
  · exact settles_refused ..

/-- A portion of metadata is handed out, or the transfer is at most ended by metadata that have
shrunk. -/
theorem answerMetadata_settles (poised : responder.Poised) :
    Settles (device.metadata state).length request responder
      (responder.answerMetadata device request state) := by
  have fits := metadataPortion_le (Nat.le_of_eq poised.room) (by decide)
  simp only [answerMetadata]
  split
  · split
    · exact settles_refused ..
    · rename_i part read
      have rest := poised.rest.serve part (device.metadata state) responder.metadataPortion
      split
      · rename_i error metadata refused
        have size : maxMessageSize < UInt32.size := by decide
        exact .refused ⟨metadata, poised.rest.leftAlone (by omega) refused, rfl⟩
      · rename_i portion metadata served
        rw [served] at rest
        have short := Transfer.length_portion_of_serve served
        obtain ⟨written, encoded, -⟩ := portion.message (by omega) ""
        rw [respondWith_of_written request encoded]
        exact .done (.inl rfl) ⟨poised.room, rest⟩
  · exact settles_refused ..

/-- An entry of the component table takes effect or changes nothing. -/
theorem answerTableEntry_settles (poised : responder.Poised) :
    Settles available request responder
      (responder.answerTableEntry device request state) := by
  simp only [answerTableEntry]
  split
  · split
    · exact settles_refused ..
    · split
      · exact settles_refused ..
      · refine settles_respondWith (TableResponse.roundTrips _) (by decide) ?_ _
        split <;> exact ⟨poised.room, poised.rest⟩
  · exact settles_refused ..

/-- A component begins to be updated, or nothing changes. -/
theorem answerComponent_settles (poised : responder.Poised) :
    Settles available request responder
      (responder.answerComponent device request state) := by
  simp only [answerComponent]
  split
  · split
    · exact settles_refused ..
    · refine settles_respondWith (ComponentResponse.roundTrips _) (by decide) ?_ _
      split <;> exact ⟨poised.room, poised.rest⟩
  · exact settles_refused ..

/-- The answers that end an update have the codes of a command that has taken effect. -/
theorem takesEffect_of_endsUpdate {result : ActivationResult} (ends : result.endsUpdate = true) :
    TakesEffect result.completionCode := by
  cases result with
  | success => exact .inl rfl
  | activationNotRequired => exact .inr rfl
  | error | incompleteUpdate | selfContainedNotPermitted => cases ends

/-- Activation takes effect or changes nothing. -/
theorem answerActivation_settles (poised : responder.Poised) :
    Settles available request responder
      (responder.answerActivation device request state) := by
  simp only [answerActivation]
  split
  · exact settles_refused ..
  · split
    · split
      · rename_i ends
        obtain ⟨written, responds⟩ := respondWith_of_roundTrips request
          (ActivationResponse.roundTrips { estimatedTime := 0 }) (by decide)
        rw [responds]
        exact .done (takesEffect_of_endsUpdate ends) ⟨poised.room, Transfer.hasRest_reset _⟩
      · exact settles_refused ..
    · exact settles_refused ..

/-- Giving up an update takes effect or changes nothing. -/
theorem answerCancel_settles (poised : responder.Poised) :
    Settles available request responder (responder.answerCancel device request state) := by
  simp only [answerCancel]
  split
  · exact settles_refused ..
  · exact settles_refused ..
  · split
    · exact settles_respondWith (CancelResponse.roundTrips _) (by decide) (poised.enterIdle _) _
    · exact settles_refused ..

/-- Giving up a component takes effect or changes nothing. -/
theorem answerCancelComponent_settles (poised : responder.Poised) :
    Settles available request responder
      (responder.answerCancelComponent device request state) := by
  simp only [answerCancelComponent]
  split
  · exact settles_refused ..
  · split
    · exact .done (.inl rfl) ⟨poised.room, poised.rest⟩
    · exact settles_refused ..

/-- A command takes effect or leaves the responder alone. -/
theorem answerCommand_settles (poised : responder.Poised) (agent : EndpointId)
    (command : Command) :
    Settles (device.metadata state).length request responder
      (responder.answerCommand device agent request state command) := by
  cases command with
  | requestUpdate => exact answerUpdate_settles device state poised agent
  | getDeviceMetaData => exact answerMetadata_settles device state poised
  | passComponentTable => exact answerTableEntry_settles device state poised
  | updateComponent => exact answerComponent_settles device state poised
  | activateFirmware => exact answerActivation_settles device state poised
  | cancelUpdate => exact answerCancel_settles device state poised
  | cancelUpdateComponent => exact answerCancelComponent_settles device state poised
  | queryDeviceIdentifiers =>
      simp only [answerCommand, answerIdentifiers]
      split
      · exact settles_inquiry poised _ _
      · exact settles_refused ..
  | getFirmwareParameters =>
      simp only [answerCommand, answerParameters]
      split
      · exact settles_inquiry poised _ _
      · exact settles_refused ..
  | getStatus =>
      simp only [answerCommand, answerStatus]
      split
      · exact settles_inquiry poised _ _
      · exact settles_refused ..
  | _ => exact settles_refused ..

/-- A request takes effect or leaves the responder alone. -/
theorem answer_settles (poised : responder.Poised) (agent : EndpointId) (request : Request) :
    Settles (device.metadata state).length request responder
      (responder.answer device agent request state) := by
  simp only [answer]
  split
  · exact settles_refused ..
  · split
    · exact settles_refused ..
    · split
      · exact settles_refused ..
      · exact answerCommand_settles device state poised agent _

end

/-! ## Every responder -/

section

variable {responder : Responder} (device : Device σ) (state : σ)

/-- Whatever the request is, the responder stays poised. -/
theorem answerRequest_poised (poised : responder.Poised) (agent : EndpointId)
    (message : List UInt8) :
    (responder.answerRequest device agent message state).2.1.Poised := by
  cases parsed : Request.parse message with
  | error error =>
      simp only [answerRequest, parsed]
      exact poised
  | ok request =>
      rw [answerRequest_of_parse responder device agent parsed]
      have settles := answer_settles device state poised agent request
      generalize responder.answer device agent request state = answer at settles
      cases settles with
      | done _ after => exact after
      | refused left => exact left.poised poised

/-- The requests of the device are not about its metadata. -/
theorem progressPhase_metadata :
    (responder.progressPhase device state).2.1.metadata = responder.metadata := by
  simp only [progressPhase]
  split
  · grind [progressPull, newRequest]
  · grind [progressDownload, newRequest, enter]
  · grind [progressVerify, newRequest, enter]
  · grind [progressApply, newRequest, enter]
  all_goals rfl

/-- Whatever it does of itself, a responder stays poised. -/
theorem progress_poised (poised : responder.Poised) :
    (responder.progress device state).2.1.Poised := by
  refine ⟨(progress_keepsRoom responder device state).1.trans poised.room, ?_⟩
  simp only [progress]
  split
  · exact poised.rest
  · split
    · exact (poised.enterIdle _).rest
    · rw [progressPhase_metadata]
      exact poised.rest

/-- A portion of package data leaves the metadata alone. -/
theorem takePart_metadata (pull : PackagePull) (passed : Bool) (response : Response) :
    (responder.takePart device pull passed response state).2.1.metadata = responder.metadata := by
  have restarted : (responder.restartPull device pull passed state).1.metadata =
      responder.metadata := by
    simp only [restartPull]
    split <;> rfl
  simp only [takePart]
  split
  · split
    · rfl
    · split
      · exact restarted
      · split <;> rfl
  · split
    · exact restarted
    · rfl

/-- Neither are the replies to them. -/
theorem takeReply_metadata (agent : EndpointId) (message : List UInt8) :
    (responder.takeReply device agent message state).2.1.metadata = responder.metadata := by
  simp only [takeReply]
  split
  · rfl
  · split
    · rfl
    · split
      · grind [takePackageReply, takePart_metadata]
      · grind [takeDataReply, takeData, touch]
      all_goals rfl

/-- Every reaction leaves room for metadata, and a rest of those under way. -/
theorem react_poised (poised : responder.Poised) (input : ResponderInput) :
    (responder.react device state input).2.1.Poised := by
  cases input with
  | request agent message => exact answerRequest_poised device state poised agent message
  | progress => exact progress_poised device state poised
  | reply agent message =>
      refine ⟨(takeReply_keepsRoom responder device state agent message).1.trans poised.room, ?_⟩
      show (responder.takeReply device agent message state).2.1.metadata.HasRest
      rw [takeReply_metadata]
      exact poised.rest

end

/-- What a new responder can become, whatever happens to it and whatever its device does. -/
inductive Reached : Responder → Prop where
  | new : Reached {}
  | reacts {responder : Responder} (reached : Reached responder) {σ : Type} (device : Device σ)
      (state : σ) (input : ResponderInput) : Reached (responder.react device state input).2.1

/-- Every responder that is reached serves portions that fit, and serves no transfer beyond its
end. -/
theorem Reached.poised {responder : Responder} (reached : responder.Reached) :
    responder.Poised := by
  induction reached with
  | new => exact ⟨rfl, nofun⟩
  | reacts _ device state input ih => exact react_poised device state ih input

end Responder

/-- A message that does not begin with the header of a request is not answered and changes
nothing. Any other is answered with one response, which has the instance identifier, the type and
the command of the request. If its code is not one of a command that has taken effect, it has no
body, and the responder is left alone. -/
theorem refused_request_leaves_responder {σ : Type} {responder : Responder}
    (reached : responder.Reached) (device : Device σ) (agent : EndpointId) (message : List UInt8)
    (state : σ) :
    ((¬ ∃ flags typ cmd data, message = flags :: typ :: cmd :: data ∧ flags &&& requestBit ≠ 0) →
      ∃ error,
        responder.answerRequest device agent message state = (.error error, responder, state)) ∧
    ∀ flags typ cmd data, message = flags :: typ :: cmd :: data → flags &&& requestBit ≠ 0 →
      ∃ response after later,
        responder.answerRequest device agent message state =
          (.ok response.toBytes, after, later) ∧
        Response.parse response.toBytes = .ok response ∧
        response.iid = flags &&& instanceMask ∧ response.typ = typ &&& typeMask ∧
        response.cmd = cmd ∧
        (response.cc ≠ BaseCode.success → response.cc ≠ UpdateCode.activationNotRequired →
          response.data = [] ∧ responder.LeftAlone (device.metadata state).length after) := by
  constructor
  · intro headless
    cases parsed : Request.parse message with
    | error error => exact ⟨.codec error, by simp only [Responder.answerRequest, parsed]⟩
    | ok request =>
        obtain ⟨flags, typ, cmd, data, begins, marked, -⟩ := Request.parse_eq_ok_iff.mp parsed
        exact absurd ⟨flags, typ, cmd, data, begins, marked⟩ headless
  · intro flags typ cmd data begins marked
    have parsed := Request.parse_eq_ok_iff.mpr ⟨flags, typ, cmd, data, begins, marked, rfl⟩
    rw [Responder.answerRequest_of_parse responder device agent parsed]
    have settles := Responder.answer_settles device state reached.poised agent
      { iid := flags &&& instanceMask, typ := typ &&& typeMask, cmd, data }
    generalize responder.answer device agent _ state = answer at settles
    cases settles with
    | done effective _ =>
        refine ⟨_, _, _, rfl, Request.parse_respond parsed _ _, rfl, rfl, rfl, ?_⟩
        exact fun failed needed => (effective.elim failed needed).elim
    | refused left =>
        exact ⟨_, _, _, rfl, Request.parse_respond parsed _ _, rfl, rfl, rfl,
          fun _ _ => ⟨rfl, left⟩⟩

namespace ShrunkMetadata

/-- A device with as many bytes of metadata as its state says. -/
def device : Device Nat where
  identifiers size := ({}, size)
  components _ := []
  activeVersion _ := .raw []
  metadata size := List.replicate size 0x5a
  updateComponent _ _ size := (0, size)
  firmwareData _ _ _ size := (.success, size)
  verify _ size := (.success, size)
  apply _ size := (.ok .empty, size)
  now size := (7, size)

/-- Begins an update. -/
def begins : ResponderInput :=
  .request ⟨8⟩ [0x81, 5, 0x10, 32, 0, 0, 0, 1, 0, 1, 0, 0, 0, 0]

/-- Asks for the first portion of the metadata. -/
def asksFirst : ResponderInput := .request ⟨8⟩ [0x82, 5, 0x12, 0, 0, 0, 0, 1]

/-- The responder after the first portion of 40 bytes. -/
def asked : Responder :=
  ((Responder.react {} device 40 begins).2.1.react device 40 asksFirst).2.1

/-- Asks for the portion after the first. -/
def asksNext : List UInt8 := [0x83, 5, 0x12, 32, 0, 0, 0, 0]

/-- The run up to a question is one that an agent can bring about. -/
theorem reached : asked.Reached :=
  (Responder.Reached.new.reacts device 40 begins).reacts device 40 asksFirst

end ShrunkMetadata

open ShrunkMetadata in
/-- The next portion is refused when only 20 bytes are left, and the transfer has ended. -/
theorem shrunk_metadata_end_their_transfer :
    asked.Reached ∧
      ∃ after later,
        asked.answerRequest device ⟨8⟩ asksNext 20 = (.ok [3, 5, 0x12, 0x90], after, later) ∧
        asked.LeftAlone 20 after ∧ after ≠ asked := by
  obtain ⟨response, after, later, answered, parsed, -, -, -, left⟩ :=
    (refused_request_leaves_responder reached device ⟨8⟩ asksNext 20).2 _ _ _ _ rfl (by decide)
  have given : (asked.answerRequest device ⟨8⟩ asksNext 20).1 = .ok [3, 5, 0x12, 0x90] := rfl
  have bytes : response.toBytes = [3, 5, 0x12, 0x90] := by
    rw [answered] at given
    exact Except.ok.inj given
  have ended : (asked.answerRequest device ⟨8⟩ asksNext 20).2.1 ≠ asked := by decide +kernel
  rw [bytes] at answered parsed
  cases parsed
  rw [answered] at ended
  exact ⟨reached, after, later, answered, (left (by decide) (by decide)).2, ended⟩

end FirmwareUpdate
