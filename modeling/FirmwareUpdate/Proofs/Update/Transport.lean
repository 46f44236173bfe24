import FirmwareUpdate.Proofs.Agent.Size
import FirmwareUpdate.Proofs.Channel.Arrival
import FirmwareUpdate.Proofs.Device.Size
import FirmwareUpdate.Proofs.Update.Agreement

/-!
# What the sides of an update say reaches the other side

A message arrives if it is within the limit of an assembler, and is lost otherwise. All the
messages of an agent are within it, and so are those of a device, but for its answers about
itself: the buffer that limits their bodies has no room for the header.
-/

namespace FirmwareUpdate

open Wire

/-- However these bytes are sent, and whatever the other side has collected before, it has them
after the last packet. -/
def Arrives (bytes : List UInt8) : Prop :=
  ∀ (channel : Channel) (message : Message) (source : EndpointId) (assembler : Assembler)
    (address : UInt8), message.data = bytes → message.Sendable source →
    assembler.accepts message.endpoint = true → assembler.limit = maxMessageSize →
    assembler.receiveAll address (channel.sent message source) =
      ([message.received source address (channel.pieceSize message)], assembler.reset)

/-- However these bytes are sent, the other side never has them. -/
def IsLost (bytes : List UInt8) : Prop :=
  ∀ (channel : Channel) (message : Message) (source : EndpointId) (assembler : Assembler)
    (address : UInt8), message.data = bytes → message.Sendable source →
    assembler.accepts message.endpoint = true → assembler.limit = maxMessageSize →
    assembler.receiveAll address (channel.sent message source) = ([], assembler.reset)

variable {bytes : List UInt8}

/-- A message within the limit arrives. -/
theorem arrives_of_length (short : bytes.length ≤ maxMessageSize) : Arrives bytes := by
  rintro channel message source assembler address rfl sendable addressed limit
  rw [Assembler.receiveAll_sent channel sendable addressed, limit, if_pos short]

/-- A message beyond the limit is lost. -/
theorem isLost_of_length (long : maxMessageSize < bytes.length) : IsLost bytes := by
  rintro channel message source assembler address rfl sendable addressed limit
  rw [Assembler.receiveAll_sent channel sendable addressed, limit, if_neg (Nat.not_le.mpr long)]

/-- What is lost does not arrive. -/
theorem IsLost.not_arrives (lost : IsLost bytes) : ¬ Arrives bytes := by
  intro arrives
  let channel : Channel := { size_gt := by decide, size_le := by decide }
  let message : Message :=
    { data := bytes
      address := 0
      endpoint := ⟨8⟩
      typ := managementType
      tag := { number := 0, owned := true } }
  have sendable : message.Sendable ⟨9⟩ :=
    ⟨(by decide : (0 : UInt8) ≤ maxTag), (by decide : managementType &&& 0x80 = 0), nofun,
      by decide⟩
  have nothing := lost channel message ⟨9⟩ { own := ⟨8⟩ } 0 rfl sendable rfl rfl
  rw [arrives channel message ⟨9⟩ { own := ⟨8⟩ } 0 rfl sendable rfl rfl] at nothing
  cases congrArg Prod.fst nothing

/-- Every message of a session arrives, and every message of a device but its answers about
itself. Of these, the ones that are longer than a message may be are lost; they are too long by
no more than the header of a response. -/
theorem messages_arrive_unless_inventory_overflows {σ : Type} (device : Device σ) (state : σ)
    (inputs : List ResponderInput) {plan : UpdatePlan} {first : Session}
    (started : Session.start {} plan = .ok first) (events : List SessionInput) :
    let history := ResponderHistory.run device { responder := {}, state } inputs
    let session := first.run events
    (∀ agent asked message,
      (history.react device (.request agent asked)).1 = .answer (.ok message) →
      (message.length ≤ maxMessageSize → Arrives message) ∧
        (maxMessageSize < message.length →
          IsLost message ∧ message.length ≤ responseHeaderSize + maxMessageSize ∧
            ∃ request command, Request.parse asked = .ok request ∧ request.IsFor command ∧
              Responder.asksInventory command = true)) ∧
      (∀ message, (history.react device .progress).1 = .asked (some message) →
        message.length ≤ maxMessageSize ∧ Arrives message) ∧
      (∀ command message, (session.issue command).1 = .ok message →
        message.length ≤ maxMessageSize ∧ Arrives message) ∧
      (∀ asked message, (session.handleRequest asked).1 = .ok message →
        message.length ≤ maxMessageSize ∧ Arrives message) := by
  obtain ⟨sound, -, rfl⟩ := Session.sound_of_start started
  have within {message : List UInt8} (short : message.length ≤ maxMessageSize) :
      message.length ≤ maxMessageSize ∧ Arrives message :=
    ⟨short, arrives_of_length short⟩
  refine ⟨fun agent asked message answered => ?_, fun message asked => ?_,
    fun command message issued => ?_, fun asked message answered => ?_⟩
  · have room := ResponderHistory.run_maxMessage device { responder := {}, state } inputs
    have bounded := Responder.length_of_answer room (ResponderOutput.answer.inj answered)
    exact ⟨arrives_of_length,
      fun long => ⟨isLost_of_length long, bounded.resolve_left (Nat.not_le.mpr long)⟩⟩
  · exact within (Responder.progress_isShort message (ResponderOutput.asked.inj asked))
  · exact within (Session.length_of_issue (Session.run_sound sound events) issued)
  · refine within (Session.length_of_handleRequest ?_ answered)
    rw [Session.run_settings]
    exact (by decide : responseHeaderSize + ({} : AgentSettings).maxTransferSize.toNat ≤
      maxMessageSize)

/-! ## A long descriptor -/

namespace LongDescriptor

/-- A device that names itself by `size` bytes. -/
def device (size : Nat) : Device Unit :=
  { SpoiledImage.device with
    identifiers := fun _ => ({ descriptors := [.other 77 (List.replicate size 0)] }, ()) }

/-- The agent asks what the device is. -/
def request : Request :=
  { iid := 0, typ := firmwareUpdateType, cmd := Coded.code Command.queryDeviceIdentifiers,
    data := [] }

/-- The request on the wire. -/
def asked : List UInt8 := [0x80, 0x05, 0x01]

/-- The descriptor on the wire. -/
def entry (size : Nat) : List UInt8 :=
  [0x4d, 0x00] ++ bytes16 (UInt16.ofNat size) ++ List.replicate size 0

/-- The body of the answer. -/
def body (size : Nat) : List UInt8 :=
  bytes32 (UInt32.ofNat (size + 4)) ++ ([0x01] ++ entry size)

/-- The answer of the device. -/
def answer (size : Nat) : List UInt8 :=
  (request.respond BaseCode.success (body size)).toBytes

theorem length_answer (size : Nat) : (answer size).length = size + 13 := by
  rw [answer, Response.length_toBytes]
  simp [Request.respond, body, entry, responseHeaderSize]
  omega

theorem answers {size : Nat} (short : size + 9 ≤ maxMessageSize) :
    (ResponderHistory.react (device size) { responder := {}, state := () }
      (.request ⟨8⟩ asked)).1 = .answer (.ok (answer size)) := by
  have value : (Layout.bytes (List.replicate size (0 : UInt8))).toMessage =
      .ok (List.replicate size 0) :=
    Layout.toMessage_eq_ok_iff.mpr ⟨Layout.contents_bytes _, by rw [List.length_replicate]; omega⟩
  have described : (Descriptor.layout (.other 77 (List.replicate size 0))).contents =
      .ok (entry size) := by
    unfold Descriptor.layout Descriptor.valueLayout
    rw [value]
    dsimp only
    rw [List.length_replicate]
    exact Layout.contents_append (Layout.contents_append (Layout.contents_word16 77)
      (Layout.contents_word16 _)) (Layout.contents_bytes _)
  have length : (entry size).length = size + 4 := by
    simp [entry]
    omega
  have listed : (((device size).identifiers ()).1.layout).toMessage = .ok ([0x01] ++ entry size) :=
    Layout.toMessage_eq_ok_iff.mpr
      ⟨Layout.contents_append (Layout.contents_byte 1)
        (by simpa [device] using described), by
          rw [List.length_append, length, List.length_singleton]
          omega⟩
  have written : (((device size).identifiers ()).1.responseLayout).toMessage =
      .ok (body size) := by
    unfold DeviceIdentifiers.responseLayout
    rw [listed]
    refine Layout.toMessage_eq_ok_iff.mpr
      ⟨Layout.contents_append ?_ (Layout.contents_bytes _), ?_⟩
    · rw [List.length_append, length, List.length_singleton, Nat.add_sub_cancel_left]
      exact Layout.contents_word32 _
    · simp [body, length]
      omega
  have parsed : Request.parse asked = .ok request := rfl
  have answered : (Responder.answer {} (device size).recorded ⟨8⟩ request ((), [])).1 =
      .ok (request.respond BaseCode.success (body size)) :=
    Responder.respondWith_of_written request written
  show ResponderOutput.answer (Responder.answerRequest {} (device size).recorded ⟨8⟩ asked
    ((), [])).1 = _
  rw [Responder.answerRequest_of_parse _ _ _ parsed, answered]
  rfl

end LongDescriptor

/-- The longest descriptor with which the answer is within the limit reaches the agent. -/
theorem longest_descriptor_arrives :
    (LongDescriptor.answer 4083).length = maxMessageSize ∧
      Arrives (LongDescriptor.answer 4083) :=
  have arrives := messages_arrive_unless_inventory_overflows (LongDescriptor.device 4083) () []
    (rfl : Session.start {} SpoiledImage.plan = .ok SpoiledImage.first.session) []
  ⟨LongDescriptor.length_answer 4083,
    (arrives.1 ⟨8⟩ LongDescriptor.asked _ (LongDescriptor.answers (by decide))).1
      (by rw [LongDescriptor.length_answer]; decide)⟩

/-- With one byte more the device answers, and the answer does not arrive. -/
theorem longer_descriptor_is_lost :
    (ResponderHistory.react (LongDescriptor.device 4084) { responder := {}, state := () }
        (.request ⟨8⟩ LongDescriptor.asked)).1 = .answer (.ok (LongDescriptor.answer 4084)) ∧
      (LongDescriptor.answer 4084).length = maxMessageSize + 1 ∧
      ¬ Arrives (LongDescriptor.answer 4084) := by
  have length := LongDescriptor.length_answer 4084
  refine ⟨LongDescriptor.answers (by decide), length, IsLost.not_arrives (isLost_of_length ?_)⟩
  rw [length]
  decide

end FirmwareUpdate
