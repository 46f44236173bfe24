import FirmwareUpdate.Device.Basic

/-!
# Scripted devices

A device whose answers are fixed beforehand, and which keeps a record of what it was
asked. Answers that come in lists are used up in order; after the last one the device
agrees to everything.
-/

namespace FirmwareUpdate

open Wire

/-- What a device has been asked to do. -/
inductive DeviceEvent where
  | requestUpdate (request : UpdateRequest)
  | packageData (data : List UInt8)
  | updateComponent (begins : Bool) (record : ComponentRecord)
  | firmwareData (offset : Nat) (data : List UInt8) (identifier : UInt16)
  | verify (details : ComponentDetails)
  | apply (details : ComponentDetails)
  | activate (selfContained : Bool)
  | cancel (details : ComponentDetails)
deriving DecidableEq

/-- The answers of a device, and the record of what it was asked. -/
structure DeviceScript where
  identifiers : DeviceIdentifiers := {}
  components : List Component := []
  active : Label := .text "1.0"
  pending : Label := .empty
  capabilities : DeviceCapabilities := .empty
  policies : List UpdatePolicy := []
  wantsPackage : Bool := false
  metadata : List UInt8 := []
  /-- The answer about a component that is announced. -/
  announced : UInt8 := 0
  /-- The answer about a component whose update begins. -/
  begun : UInt8 := 0
  dataResults : List TransferResult := []
  verifyResult : VerifyResult := .success
  applyResult : Except ApplyResult ActivationMethods := .ok .empty
  activation : ActivationResult := .success
  now : Nat := 1000
  /-- The last event comes first. -/
  events : List DeviceEvent := []

namespace DeviceScript

/-- Records an event. -/
def note (script : DeviceScript) (event : DeviceEvent) : DeviceScript :=
  { script with events := event :: script.events }

/-- Lets time pass. -/
def advance (millis : Nat) (script : DeviceScript) : DeviceScript :=
  { script with now := script.now + millis }

/-- A device that leaves all it may to the defaults. -/
def minimalDevice : Device DeviceScript where
  identifiers script := (script.identifiers, script)
  components script := script.components
  activeVersion script := script.active
  updateComponent begins record script :=
    (if begins then script.begun else script.announced,
      script.note (.updateComponent begins record))
  firmwareData offset data details script :=
    (script.dataResults.headD .success,
      { script with dataResults := script.dataResults.tail }.note
        (.firmwareData offset data details.key.identifier))
  verify details script := (script.verifyResult, script.note (.verify details))
  apply details script := (script.applyResult, script.note (.apply details))
  now script := (script.now, script)

/-- A device that answers everything by its script. -/
def device : Device DeviceScript :=
  { minimalDevice with
    pendingVersion := fun script => script.pending
    capabilities := fun script => script.capabilities
    requestUpdate := fun request script =>
      (script.policies.headD .accept,
        { script with policies := script.policies.tail }.note (.requestUpdate request))
    wantsPackageData := fun script => script.wantsPackage
    packageData := fun data script => script.note (.packageData data)
    metadata := fun script => script.metadata
    activate := fun selfContained script =>
      (script.activation, script.note (.activate selfContained))
    cancelComponent := fun details script => script.note (.cancel details) }

end DeviceScript

end FirmwareUpdate
