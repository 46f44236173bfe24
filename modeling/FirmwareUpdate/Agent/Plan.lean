import FirmwareUpdate.Command.Bodies

/-!
# Update plans

What an update agent sends in one update, and the settings with which it does so. A
plan whose sizes do not fit their fields is refused before anything is sent.
-/

namespace FirmwareUpdate

/-- The most firmware data that every device accepts at once, and the least that an
agent may offer. -/
def baselineTransfer : Nat := 32

/-- Settings of an update agent. Times are milliseconds. -/
structure AgentSettings where
  /-- The most firmware data served at once. -/
  maxTransferSize : UInt32 := 512
  maxOutstanding : UInt8 := 2
  /-- The bytes of package data in each portion. -/
  portionSize : Nat := baselineTransfer
  /-- The longest device metadata accepted. -/
  maxMetadataSize : Nat := Wire.maxMessageSize
  /-- How long to wait for a response or for the next request of the device. -/
  responseTimeout : Nat := 60000
  /-- How often a refused request to update may be repeated. -/
  updateRetries : Nat := 3
  /-- How long to wait before a repetition. -/
  retryDelay : Nat := 1000
  /-- Ask the device to activate by itself. -/
  selfContained : Bool := false
deriving DecidableEq, Repr

/-- A component and the image to put into it. -/
structure ComponentImage where
  key : ComponentKey
  stamp : UInt32 := 0
  version : Label
  options : UInt32 := 0
  image : List UInt8
deriving DecidableEq

namespace ComponentImage

/-- The image of a firmware component without stamp or options. -/
def firmware (identifier : UInt16) (version : String) (image : List UInt8) : ComponentImage where
  key := { classification := .firmware, identifier }
  version := .text version
  image

/-- The record that announces the component. -/
def record (component : ComponentImage) : ComponentRecord where
  key := component.key
  stamp := component.stamp
  version := component.version
  size := some (UInt32.ofNat component.image.length)
  options := some component.options

end ComponentImage

/-- Everything that one update sends. -/
structure UpdatePlan where
  /-- The version of the whole set of images. -/
  version : Label
  packageData : List UInt8 := []
  /-- The components, in the order of the component table. -/
  components : List ComponentImage
deriving DecidableEq

/-- What an update cannot be made of. -/
inductive PlanFault where
  | transferBelowBaseline
  | noComponents
  | tooManyComponents
  | packageTooLarge
  | versionTooLong
  | componentTooLarge
  | componentVersionTooLong
  /-- Every component has had its turn. -/
  | noComponentLeft
deriving DecidableEq, Repr

namespace PlanFault

/-- The description of a fault. -/
def message : PlanFault → String
  | transferBelowBaseline => "max transfer size below baseline"
  | noComponents => "no components"
  | tooManyComponents => "too many components"
  | packageTooLarge => "package data too large"
  | versionTooLong => "version string too long"
  | componentTooLarge => "component too large"
  | componentVersionTooLong => "component version too long"
  | noComponentLeft => "no component left to update"

end PlanFault

namespace ComponentImage

/-- What stands against sending the component. -/
def fault? (component : ComponentImage) : Option PlanFault :=
  if UInt32.size ≤ component.image.length then some .componentTooLarge
  else if 256 ≤ component.version.bytes.length then some .componentVersionTooLong
  else none

end ComponentImage

namespace UpdatePlan

/-- What stands against the plan: the first fault of the whole, or else of the first
component with one. -/
def fault? (plan : UpdatePlan) : Option PlanFault :=
  if plan.components.isEmpty then some .noComponents
  else if 65536 ≤ plan.components.length then some .tooManyComponents
  else if 65536 ≤ plan.packageData.length then some .packageTooLarge
  else if 256 ≤ plan.version.bytes.length then some .versionTooLong
  else plan.components.findSome? ComponentImage.fault?

end UpdatePlan

end FirmwareUpdate
