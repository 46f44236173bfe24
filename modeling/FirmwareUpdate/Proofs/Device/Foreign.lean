import FirmwareUpdate.Proofs.Device.ImageStep
import FirmwareUpdate.Proofs.Device.Ownership
import FirmwareUpdate.Proofs.Device.View

/-!
# Only the owner drives an update

While an update runs, an agent that does not own it can ask questions and can give the update
up, and nothing else. `foreign_traffic_is_without_effect` says so for one message, and then for
whole runs: they can be told from the runs without the foreign messages by no answer, no request
and no state of the responder. Questions may leave a mark on the device itself; what its answers
depend on is the view of `Device.SeenThrough`.
-/

namespace FirmwareUpdate

open Wire

/-- The message asks to give up the update. -/
def cancelsUpdate (message : List UInt8) : Bool :=
  match Request.parse message with
  | .ok request =>
    request.typ == firmwareUpdateType && request.cmd == Coded.code Command.cancelUpdate
  | .error _ => false

/-- A message from an agent that does not own the update, unless it asks to give it up. -/
def ResponderInput.isForeign (owner : EndpointId) : ResponderInput → Bool
  | .request agent message => agent != owner && !cancelsUpdate message
  | .reply agent _ => agent != owner
  | .progress => false

namespace Responder

variable {σ : Type} {responder : Responder} {owner agent : EndpointId}

/-- Another agent than the owner is foreign. -/
theorem isForeign_of_ne (mine : responder.owner = some owner) (other : agent ≠ owner) :
    responder.isForeign agent = true := by
  simp [isForeign, mine, other.symm]

/-- The device is at most asked what it is. -/
def AsksAtMost (device : Device σ) (before after : σ) : Prop :=
  after = before ∨ after = (device.identifiers before).2

/-- While an update runs, what is open to all changes nothing, unless it gives the update up. -/
theorem answerCommand_of_open (device : Device σ) (agent : EndpointId) (request : Request)
    (state : σ) (running : responder.state ≠ .idle) {command : Command}
    (opened : isOpen command = true) (stays : command ≠ .cancelUpdate) :
    (responder.answerCommand device agent request state command).2.1 = responder ∧
      AsksAtMost device state
        (responder.answerCommand device agent request state command).2.2 := by
  cases command with
  | queryDeviceIdentifiers =>
      simp only [answerCommand, answerIdentifiers]
      split
      · exact ⟨rfl, .inr rfl⟩
      · exact ⟨rfl, .inl rfl⟩
  | getFirmwareParameters =>
      simp only [answerCommand, answerParameters]
      split <;> exact ⟨rfl, .inl rfl⟩
  | getStatus =>
      simp only [answerCommand, answerStatus]
      split <;> exact ⟨rfl, .inl rfl⟩
  | requestUpdate =>
      simp only [answerCommand, answerUpdate]
      split
      · rename_i idle
        exact absurd (congrArg DevicePhase.state idle) running
      · exact ⟨rfl, .inl rfl⟩
  | cancelUpdate => exact absurd rfl stays
  | _ => cases opened

/-- A request of another agent is a question, or comes to nothing. -/
theorem answer_of_foreign (device : Device σ) (state : σ) {request : Request}
    (mine : responder.owner = some owner) (running : responder.state ≠ .idle)
    (other : agent ≠ owner)
    (stays : request.typ = firmwareUpdateType → request.cmd ≠ Coded.code Command.cancelUpdate) :
    ((responder.answer device agent request state).2.1 = responder ∧
      AsksAtMost device state (responder.answer device agent request state).2.2) ∧
      (request.typ = firmwareUpdateType → request.cmd = Coded.code Command.updateComponent →
        (responder.answer device agent request state).1 = .error BaseCode.notReady) := by
  unfold answer
  split
  · rename_i typ
    exact ⟨⟨rfl, .inl rfl⟩, fun same => absurd same typ⟩
  · rename_i typ
    split
    · rename_i unknown
      refine ⟨⟨rfl, .inl rfl⟩, fun _ updates => ?_⟩
      simp [updates] at unknown
    · rename_i command known
      have cmd : Coded.code command = request.cmd := ofCode?_eq_some_iff.mp known
      split
      · exact ⟨⟨rfl, .inl rfl⟩, fun _ _ => rfl⟩
      · rename_i shut
        have opened : isOpen command = true := by
          simpa [isForeign_of_ne mine other] using shut
        have remains : command ≠ .cancelUpdate := by
          rintro rfl
          exact stays (Decidable.not_not.mp typ) cmd.symm
        refine ⟨answerCommand_of_open device agent request state running opened remains,
          fun _ updates => ?_⟩
        cases Coded.code_injective _ _ (cmd.trans updates)
        cases opened

/-- A message of another agent accepts no component, and the device is at most asked what it
is. -/
theorem answerRequest_of_foreign (device : Device σ) (state : σ) {message : List UInt8}
    (mine : responder.owner = some owner) (running : responder.state ≠ .idle)
    (other : agent ≠ owner) (stays : cancelsUpdate message = false) :
    ((responder.answerRequest device agent message state).2.1 = responder ∧
      AsksAtMost device state (responder.answerRequest device agent message state).2.2) ∧
      acceptedComponent? message (responder.answerRequest device agent message state).1 = none := by
  cases parsed : Request.parse message with
  | error error =>
      refine ⟨?_, acceptedComponent?_of_other (by simp [parsed])⟩
      unfold answerRequest
      rw [parsed]
      exact ⟨rfl, .inl rfl⟩
  | ok request =>
      have remains (typ : request.typ = firmwareUpdateType) :
          request.cmd ≠ Coded.code Command.cancelUpdate := by
        simpa [cancelsUpdate, parsed, typ] using stays
      obtain ⟨outcome, refused⟩ := answer_of_foreign device state mine running other remains
      rw [answerRequest_of_parse responder device agent parsed]
      refine ⟨outcome, ?_⟩
      by_cases updates : request.typ = firmwareUpdateType ∧
          request.cmd = Coded.code Command.updateComponent
      · rw [refused updates.1 updates.2]
        exact acceptedComponent?_of_refusal parsed rfl []
      · refine acceptedComponent?_of_other fun found foundParsed typ cmd => ?_
        cases foundParsed.symm.trans parsed
        exact updates ⟨typ, cmd⟩

/-- A reply of another agent is refused. -/
theorem takeReply_of_foreign (device : Device σ) (state : σ) (message : List UInt8)
    (mine : responder.owner = some owner) (other : agent ≠ owner) :
    (responder.takeReply device agent message state).2 = (responder, state) := by
  unfold takeReply
  rw [if_pos]
  simpa [mine] using other.symm

end Responder

namespace ResponderHistory

variable {σ τ : Type} (device : Device σ)

/-- The reactions to a sequence of inputs, each with what the responder gives back. -/
def trace (history : ResponderHistory σ) :
    List ResponderInput → List (ResponderInput × ResponderOutput)
  | [] => []
  | input :: rest =>
    (input, (history.react device input).1) :: trace (history.next device input) rest

/-- The device is in an update before each of the inputs. -/
def StaysInUpdate (history : ResponderHistory σ) (inputs : List ResponderInput) : Prop :=
  ∀ count < inputs.length, (history.run device (inputs.take count)).responder.state ≠ .idle

/-- Two histories that nothing but their devices' states tells apart, and those only outside of
the view. -/
structure SameSight (view : σ → τ) (first second : ResponderHistory σ) : Prop where
  responder : first.responder = second.responder
  events : first.events = second.events
  sight : view first.state = view second.state

variable {device}

/-- Histories with the same sight react alike. -/
theorem SameSight.next {image : Device τ} {view : σ → τ} (seen : device.SeenThrough image view)
    {first second : ResponderHistory σ} (same : SameSight view first second)
    (input : ResponderInput) :
    (first.react device input).1 = (second.react device input).1 ∧
      SameSight view (first.next device input) (second.next device input) := by
  have reacted (history : ResponderHistory σ) :=
    Responder.react_seen seen.recorded history.responder (history.state, []) input
  have alike := (reacted first).symm.trans
    ((by simp [same.responder, same.sight] :
      first.responder.react image.recorded (Prod.map view id (first.state, [])) input =
        second.responder.react image.recorded (Prod.map view id (second.state, [])) input).trans
      (reacted second))
  simp only [Responder.through, Prod.mk.injEq, Prod.map] at alike
  obtain ⟨output, responder, sight, calls⟩ := alike
  refine ⟨output, responder, ?_, sight⟩
  simp only [ResponderHistory.next, react, same.events, output]
  rw [show (first.responder.react device.recorded (first.state, []) input).2.2.2 =
    (second.responder.react device.recorded (second.state, []) input).2.2.2 from calls]

variable (device) in
/-- A foreign message leaves the responder as it is, makes no call that decides on the update,
and accepts no component. -/
theorem next_of_foreign {history : ResponderHistory σ} {owner : EndpointId}
    (mine : history.responder.owner = some owner) (running : history.responder.state ≠ .idle)
    {input : ResponderInput} (foreign : input.isForeign owner = true) :
    (history.react device input).2.1 = history.responder ∧
      (history.react device input).2.2.2 = [] ∧
      (history.next device input).events = history.events ∧
      Responder.AsksAtMost device history.state (history.next device input).state := by
  cases input with
  | request agent message =>
      simp only [ResponderInput.isForeign, Bool.and_eq_true, bne_iff_ne, ne_eq,
        Bool.not_eq_true'] at foreign
      obtain ⟨⟨same, asked⟩, unaccepted⟩ := Responder.answerRequest_of_foreign device.recorded
        (history.state, []) mine running foreign.1 foreign.2
      have quiet : (history.react device (.request agent message)).2.2.2 = [] := by
        rcases asked with nothing | question
        · exact congrArg Prod.snd nothing
        · exact congrArg Prod.snd question
      refine ⟨same, quiet, ?_, ?_⟩
      · have accepted : (ResponderInput.request agent message).accepted?
            (history.react device (.request agent message)).1 = none := unaccepted
        simp [next, quiet, accepted]
      · rcases asked with nothing | question
        · exact .inl (congrArg Prod.fst nothing)
        · exact .inr (congrArg Prod.fst question)
  | reply agent message =>
      have other : agent ≠ owner := by simpa [ResponderInput.isForeign] using foreign
      have refused := Responder.takeReply_of_foreign device.recorded (history.state, []) message
        mine other
      have after : (history.react device (.reply agent message)).2 =
          (history.responder, history.state, []) := refused
      refine ⟨congrArg Prod.fst after, congrArg (·.2.2) after, ?_, .inl (congrArg (·.2.1) after)⟩
      simp [next, after, ResponderInput.accepted?]
  | progress => cases foreign

/-- A foreign message is out of sight. -/
theorem SameSight.next_foreign {view : σ → τ}
    (unseen : ∀ state, view (device.identifiers state).2 = view state)
    {first second : ResponderHistory σ} (same : SameSight view first second)
    {owner : EndpointId} (mine : first.responder.owner = some owner)
    (running : first.responder.state ≠ .idle) {input : ResponderInput}
    (foreign : input.isForeign owner = true) :
    SameSight view (first.next device input) second := by
  obtain ⟨kept, -, events, asked⟩ := next_of_foreign device mine running foreign
  refine ⟨kept.trans same.responder, events.trans same.events, ?_⟩
  rcases asked with nothing | question
  · rw [nothing, same.sight]
  · rw [question, unseen, same.sight]

/-- A run is its first step and the run from there. -/
theorem run_cons (history : ResponderHistory σ) (input : ResponderInput)
    (rest : List ResponderInput) :
    history.run device (input :: rest) = (history.next device input).run device rest := rfl

/-- A run that stays in an update is in one, and its rest stays in one. -/
theorem staysInUpdate_cons {history : ResponderHistory σ} {input : ResponderInput}
    {rest : List ResponderInput} (stays : history.StaysInUpdate device (input :: rest)) :
    history.responder.state ≠ .idle ∧ (history.next device input).StaysInUpdate device rest := by
  refine ⟨stays 0 (Nat.zero_lt_succ _), fun count bounded => ?_⟩
  exact stays (count + 1) (Nat.succ_lt_succ bounded)

/-- Foreign messages can be left out of a run. -/
theorem SameSight.run_own {image : Device τ} {view : σ → τ}
    (seen : device.SeenThrough image view)
    (unseen : ∀ state, view (device.identifiers state).2 = view state) {owner : EndpointId}
    {inputs : List ResponderInput} {first second : ResponderHistory σ}
    (same : SameSight view first second) (owned : first.responder.Owned)
    (mine : first.responder.owner = some owner) (stays : first.StaysInUpdate device inputs) :
    (first.trace device inputs).filter (fun step => !step.1.isForeign owner) =
        second.trace device (inputs.filter fun input => !input.isForeign owner) ∧
      SameSight view (first.run device inputs)
        (second.run device (inputs.filter fun input => !input.isForeign owner)) := by
  induction inputs generalizing first second with
  | nil => exact ⟨rfl, same⟩
  | cons input rest ih =>
      obtain ⟨running, later⟩ := staysInUpdate_cons stays
      have keeps := next_keepsOwner device first input
      -- the last input may end the update, and then nobody owns it any more
      have next {other : ResponderHistory σ}
          (alike : SameSight view (first.next device input) other) :
          ((first.next device input).trace device rest).filter
              (fun step => !step.1.isForeign owner) =
            other.trace device (rest.filter fun input => !input.isForeign owner) ∧
          SameSight view ((first.next device input).run device rest)
            (other.run device (rest.filter fun input => !input.isForeign owner)) := by
        cases rest with
        | nil => exact ⟨rfl, alike⟩
        | cons following others =>
            exact ih alike (keeps.owned owned)
              (keeps.owner_eq owned mine (staysInUpdate_cons later).1) later
      by_cases foreign : input.isForeign owner = true
      · simpa [trace, run_cons, foreign] using
          next (same.next_foreign unseen mine running foreign)
      · obtain ⟨output, alike⟩ := same.next seen input
        have own := Bool.eq_false_iff.mpr foreign
        obtain ⟨reactions, sight⟩ := next alike
        simp only [trace, own, Bool.not_false, List.filter_cons_of_pos, output, reactions, true_and]
        exact sight

end ResponderHistory

/-- An agent that does not own the update leaves no trace in it, short of giving it up: none of
its messages changes the responder or lets the device decide on the update, and a run goes on as
if they had not been sent. Whoever asks a device what it is does not ask it to decide, so what its
decisions depend on is to stay as it is; `question_of_stranger_can_change_decision` has a device
that does not keep to this. -/
theorem foreign_traffic_is_without_effect {σ : Type} (device : Device σ) (size : Nat) (state : σ)
    (earlier : List ResponderInput) {owner : EndpointId}
    (mine : (ResponderHistory.run device { responder := .withMaxMessage size, state }
      earlier).responder.owner = some owner) :
    let history := ResponderHistory.run device { responder := .withMaxMessage size, state } earlier
    (∀ input : ResponderInput, input.isForeign owner = true →
      (history.react device input).2.1 = history.responder ∧
        (history.react device input).2.2.2 = []) ∧
      ∀ {τ : Type} (image : Device τ) (view : σ → τ), device.SeenThrough image view →
        (∀ state, view (device.identifiers state).2 = view state) →
        ∀ inputs, history.StaysInUpdate device inputs →
          let own := inputs.filter fun input => !input.isForeign owner
          (history.trace device inputs).filter (fun step => !step.1.isForeign owner) =
              history.trace device own ∧
            (history.run device inputs).responder = (history.run device own).responder ∧
            (history.run device inputs).events = (history.run device own).events ∧
            view (history.run device inputs).state = view (history.run device own).state := by
  intro history
  have owned : history.responder.Owned :=
    ResponderHistory.run_owned device (Responder.withMaxMessage_owned size) earlier
  have running : history.responder.state ≠ .idle := by
    intro idle
    cases (owned.mpr idle).symm.trans mine
  refine ⟨fun input foreign => ?_, fun image view seen unseen inputs stays => ?_⟩
  · obtain ⟨kept, quiet, -⟩ := ResponderHistory.next_of_foreign device mine running foreign
    exact ⟨kept, quiet⟩
  · obtain ⟨reactions, same⟩ := ResponderHistory.SameSight.run_own seen unseen
      (⟨rfl, rfl, rfl⟩ : ResponderHistory.SameSight view history history) owned mine stays
    exact ⟨reactions, same.responder, same.events, same.sight⟩

/-! ## A stranger in an update -/

namespace StrangerInUpdate

/-- The one component of the device. -/
def key : ComponentKey := { classification := .firmware, identifier := 7 }

/-- A device that takes every image, and counts how often it is asked what it is. -/
def device : Device Nat where
  identifiers asked := ({}, asked + 1)
  components _ := [{ key }]
  activeVersion _ := .raw []
  updateComponent _ _ asked := (0, asked)
  firmwareData _ _ _ asked := (.success, asked)
  verify _ asked := (.success, asked)
  apply _ asked := (.ok .empty, asked)
  now asked := (0, asked)

/-- The same device without the count. -/
def image : Device Unit where
  identifiers _ := ({}, ())
  components _ := [{ key }]
  activeVersion _ := .raw []
  updateComponent _ _ _ := (0, ())
  firmwareData _ _ _ _ := (.success, ())
  verify _ _ := (.success, ())
  apply _ _ := (.ok .empty, ())
  now _ := (0, ())

/-- What the device shows is all that there is to see. -/
theorem seen : device.SeenThrough image fun _ => () := by
  constructor <;> intros <;> rfl

/-- The message of a firmware update command. -/
def message (command : Command) (body : List UInt8) : List UInt8 :=
  Request.toBytes { iid := 0, typ := firmwareUpdateType, cmd := Coded.code command, data := body }

/-- The owner asks for an update of one component. -/
def request : ResponderInput :=
  .request ⟨8⟩ (message .requestUpdate [32, 0, 0, 0, 1, 0, 1, 0, 0, 0, 0])

/-- The only entry of the component table. -/
def entry : List UInt8 := [5, 10, 0, 7, 0, 0, 0, 0, 0, 0, 0, 0]

/-- Somebody else asks what the device is, announces the component and answers a question
that the device never had; then the owner announces the component. -/
def traffic : List ResponderInput :=
  [.request ⟨9⟩ (message .queryDeviceIdentifiers []),
    .request ⟨9⟩ (message .passComponentTable entry),
    .reply ⟨9⟩ [0, 5, 21, 0],
    .request ⟨8⟩ (message .passComponentTable entry)]

end StrangerInUpdate

open StrangerInUpdate in
/-- The owner's announcement is all that happens. -/
theorem stranger_is_ignored :
    let history :=
      ResponderHistory.run device { responder := .withMaxMessage 0, state := 0 } [request]
    history.responder.owner = some ⟨8⟩ ∧
      (history.run device traffic).responder.state = .readyXfer ∧
      (history.run device traffic).responder =
        (history.run device [.request ⟨8⟩ (message .passComponentTable entry)]).responder := by
  intro history
  have mine : history.responder.owner = some ⟨8⟩ := by decide
  have stays : history.StaysInUpdate device traffic := by
    unfold ResponderHistory.StaysInUpdate
    decide
  exact ⟨mine, by decide, ((foreign_traffic_is_without_effect device 0 0 [request] mine).2 image
    (fun _ => ()) seen (fun _ => rfl) traffic stays).2.1⟩

/-! ## A device that minds being asked -/

namespace TouchyDevice

/-- A device that takes no component any more once it has been asked what it is. -/
def device : Device Bool where
  identifiers _ := ({}, true)
  components _ := [{ key := StrangerInUpdate.key }]
  activeVersion _ := .raw []
  updateComponent _ _ asked := (if asked then 1 else 0, asked)
  firmwareData _ _ _ asked := (.success, asked)
  verify _ asked := (.success, asked)
  apply _ asked := (.ok .empty, asked)
  now asked := (0, asked)

/-- Somebody else asks what the device is; then the owner announces the component and asks for its
update. -/
def traffic : List ResponderInput :=
  [.request ⟨9⟩ (StrangerInUpdate.message .queryDeviceIdentifiers []),
    .request ⟨8⟩ (StrangerInUpdate.message .passComponentTable StrangerInUpdate.entry),
    .request ⟨8⟩ (StrangerInUpdate.message .updateComponent
      [10, 0, 7, 0, 0, 0, 0, 0, 0, 4, 0, 0, 0, 0, 0, 0, 0, 0, 0])]

end TouchyDevice

open TouchyDevice in
/-- Why the questions have to be out of sight: this device refuses to its owner what it would have
taken if nobody else had asked what it is. -/
theorem question_of_stranger_can_change_decision :
    let history := ResponderHistory.run device { responder := .withMaxMessage 0, state := false }
      [StrangerInUpdate.request]
    history.responder.owner = some ⟨8⟩ ∧ history.StaysInUpdate device traffic ∧
      (history.run device traffic).responder.state = .readyXfer ∧
      (history.run device (traffic.filter fun input => !input.isForeign ⟨8⟩)).responder.state =
        .download := by
  intro history
  have stays : history.StaysInUpdate device traffic := by
    unfold ResponderHistory.StaysInUpdate
    decide
  exact ⟨rfl, stays, by decide, by decide⟩

end FirmwareUpdate
