import FirmwareUpdate.Device.Responder
import FirmwareUpdate.Proofs.Message.Envelope
import FirmwareUpdate.Proofs.Wire.RoundTrip

/-!
# Answers of a responder

A body that can be written is answered with, and an answer that is given is the
message of a response.
-/

namespace FirmwareUpdate.Responder

open Wire

variable {σ : Type}

/-- A body that can be written is answered with success. -/
theorem respondWith_of_written (request : Request) {body : Layout} {written : List UInt8}
    (encoded : body.toMessage = .ok written) :
    respondWith request body = .ok (request.respond BaseCode.success written) := by
  rw [respondWith, encoded]
  rfl

/-- A body that fits a message is answered with. -/
theorem respondWith_of_roundTrips {α : Type} (request : Request) {body : Layout}
    {reader : Reader α} {value : α} {size : Nat} (trip : RoundTrips body reader value size)
    (short : size ≤ maxMessageSize) :
    ∃ written, respondWith request body = .ok (request.respond BaseCode.success written) := by
  obtain ⟨written, encoded, -⟩ := trip.message short ""
  exact ⟨written, respondWith_of_written request encoded⟩

/-- No refusal for the phase is a success. -/
theorem isSuccess_refusal (phase : DevicePhase) : phase.refusal.isSuccess = false := by
  cases phase <;> rfl

/-- The message that carries an answer: the response, or the code that refuses. -/
def messageOf (request : Request) : Except CompletionCode Response → List UInt8
  | .ok response => response.toBytes
  | .error cc => (request.respond cc []).toBytes

/-- A request that is read is answered, with a response or with a code. -/
theorem answerRequest_of_parse (responder : Responder) (device : Device σ) (agent : EndpointId)
    {message : List UInt8} {request : Request} (parsed : Request.parse message = .ok request)
    (state : σ) :
    responder.answerRequest device agent message state =
      (.ok (messageOf request (responder.answer device agent request state).1),
        (responder.answer device agent request state).2) := by
  unfold answerRequest
  rw [parsed]
  dsimp only
  split <;> rename_i answered <;> rw [answered] <;> rfl

/-- A request is refused without any effect, and only if it is not for a command that its agent
may use; or its command is answered. -/
theorem answer_cases (responder : Responder) (device : Device σ) (agent : EndpointId)
    (request : Request) (state : σ) :
    (∃ cc : CompletionCode, cc.isSuccess = false ∧
        responder.answer device agent request state = (.error cc, responder, state) ∧
        ∀ command, request.IsFor command →
          isOpen command = false ∧ responder.isForeign agent = true) ∨
      ∃ command, request.IsFor command ∧
        (isOpen command = false → responder.isForeign agent = false) ∧
        responder.answer device agent request state =
          responder.answerCommand device agent request state command := by
  unfold answer
  split
  · rename_i other
    exact .inl ⟨_, rfl, rfl, fun _ asked => absurd asked.1 other⟩
  · rename_i ours
    split
    · rename_i unknown
      refine .inl ⟨_, rfl, rfl, fun command asked => ?_⟩
      rw [asked.2, ofCode?_code] at unknown
      cases unknown
    · rename_i command known
      have asked : request.IsFor command :=
        ⟨Decidable.not_not.mp ours, (ofCode?_eq_some_iff.mp known).symm⟩
      split
      · rename_i foreign
        refine .inl ⟨_, rfl, rfl, fun other same => ?_⟩
        cases Coded.code_injective _ _ (asked.2.symm.trans same.2)
        simpa using foreign
      · rename_i allowed
        refine .inr ⟨command, asked, fun shut => ?_, rfl⟩
        simpa [shut] using allowed

end FirmwareUpdate.Responder
