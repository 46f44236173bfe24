import FirmwareUpdate.Command.Bodies
import FirmwareUpdate.Inventory.Descriptor

/-!
# Firmware devices

What a device has to do itself: say what it is, decide about updates and components,
store and check images, activate them, and tell the time. A device is a record of
functions on a state of its own, so that its answers may depend on everything that
has happened to it. The protocol around these functions is `Responder`.
-/

namespace FirmwareUpdate

open Wire

/-- The component whose image a device receives. -/
structure ComponentDetails where
  /-- The size of the image, as the agent announced it. -/
  size : Nat
  key : ComponentKey
deriving DecidableEq, Repr

/-- A device's answer to the request to enter an update. -/
inductive UpdatePolicy where
  | accept
  /-- Not now. -/
  | retry
  /-- Never. -/
  | unable
deriving DecidableEq, Repr

/-- A device's answer to the request to activate new images. -/
inductive ActivationResult where
  | success
  | error
  /-- A component that is needed has not been updated. -/
  | incompleteUpdate
  | activationNotRequired
  | selfContainedNotPermitted
deriving DecidableEq, Repr

namespace ActivationResult

/-- All answers. -/
def all : List ActivationResult :=
  [success, error, incompleteUpdate, activationNotRequired, selfContainedNotPermitted]

/-- The completion code of an answer. -/
def completionCode : ActivationResult → CompletionCode
  | success => BaseCode.success
  | error => BaseCode.error
  | incompleteUpdate => UpdateCode.incompleteUpdate
  | activationNotRequired => UpdateCode.activationNotRequired
  | selfContainedNotPermitted => UpdateCode.selfContainedActivationNotPermitted

/-- The update is over after this answer. -/
def endsUpdate : ActivationResult → Bool
  | success | activationNotRequired => true
  | error | incompleteUpdate | selfContainedNotPermitted => false

end ActivationResult

/-- A device with a state of type `σ`. What a device need not provide has a default. -/
structure Device (σ : Type) where
  identifiers : σ → DeviceIdentifiers × σ
  components : σ → List Component
  /-- The version of the image set in use. -/
  activeVersion : σ → Label
  /-- The version of the image set that waits for activation. -/
  pendingVersion : σ → Label := fun _ => .empty
  capabilities : σ → DeviceCapabilities := fun _ => .empty
  /-- Decides whether to enter an update. -/
  requestUpdate : UpdateRequest → σ → UpdatePolicy × σ := fun _ state => (.accept, state)
  /-- The device wants package data, if there are any. -/
  wantsPackageData : σ → Bool := fun _ => false
  /-- Receives the whole package data. -/
  packageData : List UInt8 → σ → σ := fun _ state => state
  /-- The metadata on offer; empty for none. -/
  metadata : σ → List UInt8 := fun _ => []
  /-- Decides about a component, when it is announced (`false`) and when its update
  begins (`true`). The answer is 0 or the reason against it. -/
  updateComponent : Bool → ComponentRecord → σ → UInt8 × σ
  /-- Stores a piece of an image at its offset. -/
  firmwareData : Nat → List UInt8 → ComponentDetails → σ → TransferResult × σ
  /-- Checks a complete image. -/
  verify : ComponentDetails → σ → VerifyResult × σ
  /-- Puts a checked image in its place. -/
  apply : ComponentDetails → σ → Except ApplyResult ActivationMethods × σ
  /-- Activates the images; the flag asks the device to do so by itself. -/
  activate : Bool → σ → ActivationResult × σ := fun _ state => (.success, state)
  /-- Drops what has been received of a component. -/
  cancelComponent : ComponentDetails → σ → σ := fun _ state => state
  /-- Milliseconds since some fixed moment. -/
  now : σ → Nat × σ

end FirmwareUpdate
