import FirmwareUpdate.Device.Responder
import FirmwareUpdate.Proofs.Device.Record

/-!
# Runs of a responder

A responder reacts to requests, to replies, and to being asked for progress, in any
order and with any bytes. `ResponderHistory.run` follows a responder and its device
through such a sequence, and keeps in one list what the device was told to do and
which components were accepted. Acceptance is read off the messages: a request to
update a component, or for an update as a whole, and an answer to it that lets it begin.
-/

namespace FirmwareUpdate

open Wire

/-- What can happen to a responder. -/
inductive ResponderInput where
  | request (agent : EndpointId) (message : List UInt8)
  | reply (agent : EndpointId) (message : List UInt8)
  | progress

/-- What a responder gives back. -/
inductive ResponderOutput where
  | answer (answer : Except UpdateError (List UInt8))
  | taken (outcome : Except UpdateError Unit)
  | asked (request : Option (List UInt8))

/-- The request that a responder makes, if it makes one. -/
def ResponderOutput.request? : ResponderOutput → Option (List UInt8)
  | asked request => request
  | answer _ | taken _ => none

/-- The reaction of a responder and its device to an input. -/
def Responder.react {σ : Type} (responder : Responder) (device : Device σ) (state : σ) :
    ResponderInput → ResponderOutput × Responder × σ
  | .request agent message =>
    let after := responder.answerRequest device agent message state
    (.answer after.1, after.2)
  | .reply agent message =>
    let after := responder.takeReply device agent message state
    (.taken after.1, after.2)
  | .progress =>
    let after := responder.progress device state
    (.asked after.1, after.2)

/-- The component that a message asks to update, if the answer to it is that the update
begins. -/
def acceptedComponent? (message : List UInt8) (answer : Except UpdateError (List UInt8)) :
    Option ComponentRecord := do
  let request ← (Request.parse message).toOption
  let record ← (decode "UpdateComponent" ComponentRecord.updateReader request.data).toOption
  let response ← (Response.parse (← answer.toOption)).toOption
  let body ← (decode "UpdateComponent" ComponentResponse.reader response.data).toOption
  if request.typ = firmwareUpdateType ∧ request.cmd = Coded.code Command.updateComponent ∧
      response.cc.isSuccess = true ∧ body.response = 0 then some record
  else none

/-- The update that a message asks for, if the answer to it is success. -/
def acceptedUpdate? (message : List UInt8) (answer : Except UpdateError (List UInt8)) :
    Option UpdateRequest := do
  let request ← (Request.parse message).toOption
  let update ← (decode "RequestUpdate" UpdateRequest.reader request.data).toOption
  let response ← (Response.parse (← answer.toOption)).toOption
  if request.typ = firmwareUpdateType ∧ request.cmd = Coded.code Command.requestUpdate ∧
      response.cc.isSuccess = true then some update
  else none

/-- Something that has happened to a device during an update. -/
inductive UpdateEvent where
  | called (call : DeviceCall)
  /-- The update of a component begins. -/
  | accepted (record : ComponentRecord)

/-- The component whose update begins with a reaction. -/
def ResponderInput.accepted? : ResponderInput → ResponderOutput → Option ComponentRecord
  | .request _ message, .answer answer => acceptedComponent? message answer
  | _, _ => none

/-- The update that begins with a reaction. -/
def ResponderInput.acceptedUpdate? : ResponderInput → ResponderOutput → Option UpdateRequest
  | .request _ message, .answer answer => FirmwareUpdate.acceptedUpdate? message answer
  | _, _ => none

/-- A responder and its device, and what has happened so far. -/
structure ResponderHistory (σ : Type) where
  responder : Responder
  state : σ
  events : List UpdateEvent := []

namespace ResponderHistory

variable {σ : Type}

/-- The reaction to an input, with the calls that it makes. -/
def react (device : Device σ) (history : ResponderHistory σ) (input : ResponderInput) :
    ResponderOutput × Responder × σ × List DeviceCall :=
  history.responder.react device.recorded (history.state, []) input

/-- What follows an input. -/
def next (device : Device σ) (history : ResponderHistory σ) (input : ResponderInput) :
    ResponderHistory σ :=
  let after := history.react device input
  { responder := after.2.1
    state := after.2.2.1
    events := history.events ++
      (after.2.2.2.map .called ++ ((input.accepted? after.1).map .accepted).toList) }

/-- What follows a sequence of inputs. -/
def run (device : Device σ) (history : ResponderHistory σ) (inputs : List ResponderInput) :
    ResponderHistory σ :=
  inputs.foldl (next device) history

/-- What follows one sequence after another. -/
theorem run_append (device : Device σ) (history : ResponderHistory σ)
    (front back : List ResponderInput) :
    history.run device (front ++ back) = (history.run device front).run device back :=
  List.foldl_append

/-- What follows a sequence and one more input. -/
theorem run_concat (device : Device σ) (history : ResponderHistory σ)
    (front : List ResponderInput) (input : ResponderInput) :
    history.run device (front ++ [input]) = (history.run device front).next device input :=
  history.run_append device front [input]

/-- What is notable about the reactions to a sequence of inputs, in their order. -/
def gathered {α : Type} (device : Device σ)
    (notable : ResponderHistory σ → ResponderInput → Option α) (history : ResponderHistory σ) :
    List ResponderInput → List α
  | [] => []
  | input :: rest =>
    (notable history input).toList ++ gathered device notable (history.next device input) rest

/-- What is notable about one sequence comes before what is notable about the next. -/
theorem gathered_append {α : Type} (device : Device σ)
    (notable : ResponderHistory σ → ResponderInput → Option α) (history : ResponderHistory σ)
    (front back : List ResponderInput) :
    history.gathered device notable (front ++ back) =
      history.gathered device notable front ++
        (history.run device front).gathered device notable back := by
  induction front generalizing history with
  | nil => rfl
  | cons input rest ih =>
      rw [List.cons_append, gathered, ih, ← List.append_assoc]
      rfl

@[simp] theorem gathered_singleton {α : Type} (device : Device σ)
    (notable : ResponderHistory σ → ResponderInput → Option α) (history : ResponderHistory σ)
    (input : ResponderInput) :
    history.gathered device notable [input] = (notable history input).toList :=
  List.append_nil _

/-- The requests that the device makes. -/
def requests (device : Device σ) (history : ResponderHistory σ) (inputs : List ResponderInput) :
    List (List UInt8) :=
  history.gathered device (fun history input => (history.react device input).1.request?) inputs

/-- The requests for an update that are accepted. -/
def updates (device : Device σ) (history : ResponderHistory σ) (inputs : List ResponderInput) :
    List UpdateRequest :=
  history.gathered device
    (fun history input => input.acceptedUpdate? (history.react device input).1) inputs

/-- No update begins with a sequence and one more input if none does with either. -/
theorem updates_concat_eq_nil (device : Device σ) (history : ResponderHistory σ)
    (front : List ResponderInput) (input : ResponderInput) :
    history.updates device (front ++ [input]) = [] ↔ history.updates device front = [] ∧
      input.acceptedUpdate? ((history.run device front).react device input).1 = none := by
  rw [updates, gathered_append, List.append_eq_nil_iff, gathered_singleton,
    Option.toList_eq_nil_iff, ← updates]

end ResponderHistory

end FirmwareUpdate
