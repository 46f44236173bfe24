import FirmwareUpdate.Message.CompletionCode

/-!
# Requests and responses

The envelope of every message: instance identifier, message type and command,
and for a response the completion code. A bit of the first byte tells the two
apart. Bits that have no place in the envelope are dropped on either side.
-/

namespace FirmwareUpdate

open Wire

/-- The bits of an instance identifier. -/
def instanceMask : UInt8 := 0x1f

/-- The bits of a message type. -/
def typeMask : UInt8 := 0x3f

/-- Marks a request. -/
def requestBit : UInt8 := 0x80

/-- Marks a message that wants no response. -/
def datagramBit : UInt8 := 0x40

/-- The message type of firmware update. -/
def firmwareUpdateType : UInt8 := 5

/-- The bytes before the body of a response. -/
def responseHeaderSize : Nat := 4

/-- The instance identifier after `iid`. -/
def nextInstance (iid : UInt8) : UInt8 := (iid + 1) &&& instanceMask

/-- A response and its envelope. -/
structure Response where
  iid : UInt8
  typ : UInt8
  cmd : UInt8
  cc : CompletionCode
  data : List UInt8
deriving DecidableEq, Repr

/-- A request and its envelope. -/
structure Request where
  iid : UInt8
  typ : UInt8
  cmd : UInt8
  data : List UInt8
deriving DecidableEq, Repr

namespace Request

/-- Reads a complete request message. -/
def parse : List UInt8 → Except CodecError Request
  | flags :: typ :: cmd :: data =>
    if flags &&& requestBit = 0 then .error (.malformed "request header")
    else .ok
      { iid := flags &&& instanceMask, typ := typ &&& typeMask, cmd := cmd, data := data }
  | _ => .error (.truncated "request header")

/-- The message of a request. -/
def toBytes (request : Request) : List UInt8 :=
  (requestBit ||| (request.iid &&& instanceMask)) :: (request.typ &&& typeMask) ::
    request.cmd :: request.data

/-- The response to a request, with the given code and body. -/
def respond (request : Request) (cc : CompletionCode) (data : List UInt8) : Response :=
  { iid := request.iid, typ := request.typ, cmd := request.cmd, cc := cc, data := data }

end Request

namespace Response

/-- Reads a complete response message. -/
def parse : List UInt8 → Except CodecError Response
  | flags :: typ :: cmd :: cc :: data =>
    if flags &&& requestBit = 0 then .ok
      { iid := flags &&& instanceMask, typ := typ &&& typeMask, cmd := cmd, cc := ⟨cc⟩,
        data := data }
    else .error (.malformed "response header")
  | _ => .error (.truncated "response header")

/-- The message of a response. -/
def toBytes (response : Response) : List UInt8 :=
  (response.iid &&& instanceMask) :: (response.typ &&& typeMask) :: response.cmd ::
    response.cc.byte :: response.data

end Response

/-- A message is a request if it is marked so or wants no response. -/
def isRequest : List UInt8 → Bool
  | [] => false
  | flags :: _ => flags &&& (requestBit ||| datagramBit) != 0

end FirmwareUpdate
