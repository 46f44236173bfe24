import FirmwareUpdate.Command.Codes
import FirmwareUpdate.Message.Envelope

/-!
# Envelopes are read back

A request or response whose instance identifier and type fit their bits comes back
from its message unchanged. Everything that has been read fits, and so does the
response to a request that was read.
-/

namespace FirmwareUpdate

open Wire

/-- A mask passes over a union. -/
private theorem or_and_mask (first second mask : UInt8) :
    (first ||| second) &&& mask = (first &&& mask) ||| (second &&& mask) :=
  UInt8.toBitVec_inj.mp BitVec.and_or_distrib_right

/-- The instance identifier fits its bits. -/
def FitsInstance (iid : UInt8) : Prop := iid &&& instanceMask = iid

/-- The message type fits its bits. -/
def FitsType (typ : UInt8) : Prop := typ &&& typeMask = typ

/-- A masked number is in range. -/
theorem fitsInstance_and (iid : UInt8) : FitsInstance (iid &&& instanceMask) := by
  rw [FitsInstance, UInt8.and_assoc, UInt8.and_self]

/-- A masked type is in range. -/
theorem fitsType_and (typ : UInt8) : FitsType (typ &&& typeMask) := by
  rw [FitsType, UInt8.and_assoc, UInt8.and_self]

theorem fitsInstance_zero : FitsInstance 0 := rfl

/-- The number that comes next is in range. -/
theorem fitsInstance_nextInstance (iid : UInt8) : FitsInstance (nextInstance iid) :=
  fitsInstance_and (iid + 1)

theorem fitsType_firmwareUpdate : FitsType firmwareUpdateType := rfl

namespace Request

/-- A request for a command of firmware update. -/
def IsFor (request : Request) (command : Command) : Prop :=
  request.typ = firmwareUpdateType ∧ request.cmd = Coded.code command

/-- A request that fits its envelope comes back from its message. -/
theorem parse_toBytes {request : Request} (iidFits : FitsInstance request.iid)
    (typFits : FitsType request.typ) : parse request.toBytes = .ok request := by
  have marked : (requestBit ||| (request.iid &&& instanceMask)) &&& requestBit ≠ 0 := by
    have apart : instanceMask &&& requestBit = 0 := by decide
    rw [or_and_mask, UInt8.and_assoc, apart, UInt8.and_zero]
    decide
  have instanceOf : (requestBit ||| (request.iid &&& instanceMask)) &&& instanceMask =
      request.iid := by
    have apart : requestBit &&& instanceMask = 0 := by decide
    rw [or_and_mask, apart, UInt8.zero_or, iidFits]
    exact iidFits
  have typeOf : (request.typ &&& typeMask) &&& typeMask = request.typ := by
    rw [typFits]
    exact typFits
  simp only [toBytes, parse, if_neg marked, instanceOf, typeOf]

/-- Every request is read back, as far as its instance identifier and type have room. -/
theorem parse_toBytes_masked (request : Request) :
    parse request.toBytes = .ok
      { request with
        iid := request.iid &&& instanceMask
        typ := request.typ &&& typeMask } := by
  let masked : Request :=
    { request with
      iid := request.iid &&& instanceMask
      typ := request.typ &&& typeMask }
  have same : request.toBytes = masked.toBytes := by
    simp only [toBytes, masked, UInt8.and_assoc, UInt8.and_self]
  rw [same]
  exact parse_toBytes (fitsInstance_and _) (fitsType_and _)

/-- Command and body of a request come back from its message, whether the rest fits or not. -/
theorem body_of_parse_toBytes {request again : Request}
    (parsed : parse request.toBytes = .ok again) :
    request.cmd = again.cmd ∧ request.data = again.data := by
  rw [parse_toBytes_masked] at parsed
  cases parsed
  exact ⟨rfl, rfl⟩

/-- A request is read from a message that begins with its header. -/
theorem parse_eq_ok_iff {message : List UInt8} {request : Request} :
    parse message = .ok request ↔
      ∃ flags typ cmd data, message = flags :: typ :: cmd :: data ∧ flags &&& requestBit ≠ 0 ∧
        request = { iid := flags &&& instanceMask, typ := typ &&& typeMask, cmd, data } := by
  constructor
  · intro parsed
    match message, parsed with
    | flags :: typ :: cmd :: data, parsed =>
        simp only [parse] at parsed
        split at parsed
        · cases parsed
        · cases parsed
          exact ⟨flags, typ, cmd, data, rfl, ‹_›, rfl⟩
    | [], parsed => cases parsed
    | [_], parsed => cases parsed
    | [_, _], parsed => cases parsed
  · rintro ⟨flags, typ, cmd, data, rfl, marked, rfl⟩
    simp only [parse, if_neg marked]

/-- A request that was read fits its envelope. -/
theorem fits_of_parse {message : List UInt8} {request : Request}
    (parsed : parse message = .ok request) :
    FitsInstance request.iid ∧ FitsType request.typ := by
  obtain ⟨flags, typ, cmd, data, -, -, rfl⟩ := parse_eq_ok_iff.mp parsed
  exact ⟨fitsInstance_and flags, fitsType_and typ⟩

end Request

/-- A response that fits its envelope comes back from its message. -/
theorem Response.parse_toBytes {response : Response} (iidFits : FitsInstance response.iid)
    (typFits : FitsType response.typ) : parse response.toBytes = .ok response := by
  have unmarked : (response.iid &&& instanceMask) &&& requestBit = 0 := by
    have apart : instanceMask &&& requestBit = 0 := by decide
    rw [UInt8.and_assoc, apart, UInt8.and_zero]
  have instanceOf : (response.iid &&& instanceMask) &&& instanceMask = response.iid := by
    rw [iidFits]
    exact iidFits
  have typeOf : (response.typ &&& typeMask) &&& typeMask = response.typ := by
    rw [typFits]
    exact typFits
  simp only [toBytes, parse, if_pos unmarked, instanceOf, typeOf]

/-- The response to a request that was read comes back from its message. -/
theorem Request.parse_respond {message : List UInt8} {request : Request}
    (parsed : parse message = .ok request) (cc : CompletionCode) (data : List UInt8) :
    Response.parse (request.respond cc data).toBytes = .ok (request.respond cc data) := by
  obtain ⟨iidFits, typFits⟩ := fits_of_parse parsed
  exact Response.parse_toBytes iidFits typFits

/-- The bytes before the body of a request. -/
def requestHeaderSize : Nat := 3

/-- A request is its header and its data. -/
@[simp] theorem Request.length_toBytes (request : Request) :
    request.toBytes.length = requestHeaderSize + request.data.length := by
  simp [toBytes, requestHeaderSize]
  omega

/-- A response is its header and its data. -/
@[simp] theorem Response.length_toBytes (response : Response) :
    response.toBytes.length = responseHeaderSize + response.data.length := by
  simp [toBytes, responseHeaderSize]
  omega

end FirmwareUpdate
