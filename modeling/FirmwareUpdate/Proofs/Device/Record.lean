import FirmwareUpdate.Device.Basic

/-!
# Recorded devices

`Device.recorded` adds to a device a record of the calls that decide on an update or
store it, each with its answer, in the order in which they are made. It changes no
answer. Questions about what the device is, and readings of its clock, are not part
of the record.
-/

namespace FirmwareUpdate

/-- A call that decides on an update or stores it, and the device's answer. -/
inductive DeviceCall where
  | requestUpdate (request : UpdateRequest) (policy : UpdatePolicy)
  | packageData (data : List UInt8)
  | updateComponent (begins : Bool) (record : ComponentRecord) (answer : UInt8)
  | firmwareData (offset : Nat) (data : List UInt8) (details : ComponentDetails)
      (result : TransferResult)
  | verify (details : ComponentDetails) (result : VerifyResult)
  | apply (details : ComponentDetails) (outcome : Except ApplyResult ActivationMethods)
  | activate (selfContained : Bool) (result : ActivationResult)
  | cancelComponent (details : ComponentDetails)

namespace Device

variable {σ : Type}

/-- Adds a call to the record, which comes with the state. -/
def noting {α : Type} (calls : List DeviceCall) (call : α → DeviceCall) (answer : α × σ) :
    α × σ × List DeviceCall :=
  (answer.1, answer.2, calls ++ [call answer.1])

/-- The same device, which keeps a record of its calls. -/
def recorded (device : Device σ) : Device (σ × List DeviceCall) where
  identifiers state := ((device.identifiers state.1).1, (device.identifiers state.1).2, state.2)
  components state := device.components state.1
  activeVersion state := device.activeVersion state.1
  pendingVersion state := device.pendingVersion state.1
  capabilities state := device.capabilities state.1
  requestUpdate request state :=
    noting state.2 (.requestUpdate request) (device.requestUpdate request state.1)
  wantsPackageData state := device.wantsPackageData state.1
  packageData data state := (device.packageData data state.1, state.2 ++ [.packageData data])
  metadata state := device.metadata state.1
  updateComponent begins record state :=
    noting state.2 (.updateComponent begins record)
      (device.updateComponent begins record state.1)
  firmwareData offset data details state :=
    noting state.2 (.firmwareData offset data details)
      (device.firmwareData offset data details state.1)
  verify details state := noting state.2 (.verify details) (device.verify details state.1)
  apply details state := noting state.2 (.apply details) (device.apply details state.1)
  activate selfContained state :=
    noting state.2 (.activate selfContained) (device.activate selfContained state.1)
  cancelComponent details state :=
    (device.cancelComponent details state.1, state.2 ++ [.cancelComponent details])
  now state := ((device.now state.1).1, (device.now state.1).2, state.2)

variable (device : Device σ) (state : σ × List DeviceCall)

@[simp] theorem recorded_identifiers :
    device.recorded.identifiers state =
      ((device.identifiers state.1).1, (device.identifiers state.1).2, state.2) := rfl

@[simp] theorem recorded_components :
    device.recorded.components state = device.components state.1 := rfl

@[simp] theorem recorded_requestUpdate (request : UpdateRequest) :
    device.recorded.requestUpdate request state =
      noting state.2 (.requestUpdate request) (device.requestUpdate request state.1) := rfl

@[simp] theorem recorded_wantsPackageData :
    device.recorded.wantsPackageData state = device.wantsPackageData state.1 := rfl

@[simp] theorem recorded_packageData (data : List UInt8) :
    device.recorded.packageData data state =
      (device.packageData data state.1, state.2 ++ [.packageData data]) := rfl

@[simp] theorem recorded_metadata :
    device.recorded.metadata state = device.metadata state.1 := rfl

@[simp] theorem recorded_updateComponent (begins : Bool) (record : ComponentRecord) :
    device.recorded.updateComponent begins record state =
      noting state.2 (.updateComponent begins record)
        (device.updateComponent begins record state.1) := rfl

@[simp] theorem recorded_firmwareData (offset : Nat) (data : List UInt8)
    (details : ComponentDetails) :
    device.recorded.firmwareData offset data details state =
      noting state.2 (.firmwareData offset data details)
        (device.firmwareData offset data details state.1) := rfl

@[simp] theorem recorded_verify (details : ComponentDetails) :
    device.recorded.verify details state =
      noting state.2 (.verify details) (device.verify details state.1) := rfl

@[simp] theorem recorded_apply (details : ComponentDetails) :
    device.recorded.apply details state =
      noting state.2 (.apply details) (device.apply details state.1) := rfl

@[simp] theorem recorded_activate (selfContained : Bool) :
    device.recorded.activate selfContained state =
      noting state.2 (.activate selfContained) (device.activate selfContained state.1) := rfl

@[simp] theorem recorded_cancelComponent (details : ComponentDetails) :
    device.recorded.cancelComponent details state =
      (device.cancelComponent details state.1, state.2 ++ [.cancelComponent details]) := rfl

@[simp] theorem recorded_now :
    device.recorded.now state =
      ((device.now state.1).1, (device.now state.1).2, state.2) := rfl

end Device

end FirmwareUpdate
