import FirmwareUpdate.Device.Scripted
import FirmwareUpdate.Report.Channel
import FirmwareUpdate.Report.Message
import FirmwareUpdate.Run.Bench

/-!
# Reports of updates

How far an update has come at either end, and what has happened on the way.
-/

namespace FirmwareUpdate

open Report (entry)
open Wire

/-- Size, handle of the next portion, and whether the transfer runs or is complete. -/
instance : Reported Transfer :=
  ⟨fun transfer => .list
    [report transfer.totalSize, report transfer.handle, report transfer.inProgress,
      report transfer.isComplete]⟩

/-- What a report says about a transfer by name. -/
def Transfer.entries (transfer : Transfer) : List (String × Report) :=
  [entry "total" transfer.totalSize, entry "last" transfer.handle,
    entry "in_progress" transfer.inProgress, entry "complete" transfer.isComplete]

instance : Reported AgentSettings :=
  ⟨fun settings => .record
    [entry "max_metadata_size" settings.maxMetadataSize,
      entry "max_outstanding" settings.maxOutstanding,
      entry "max_transfer_size" settings.maxTransferSize,
      entry "portion_size" settings.portionSize,
      entry "request_update_retries" settings.updateRetries,
      entry "response_timeout_ms" settings.responseTimeout,
      entry "retry_delay_ms" settings.retryDelay,
      entry "self_contained_activation" settings.selfContained]⟩

/-- A component of a plan is shown without its image. -/
instance : Reported ComponentImage :=
  ⟨fun component => .record
    [entry "classification" component.key.classification, entry "index" component.key.index,
      entry "stamp" component.stamp, entry "version" component.version,
      entry "flags" component.options]⟩

instance : Reported AgentAction :=
  ⟨fun action =>
    match action with
    | .issue command => .record [entry "issue" command.command]
    | .awaitRequest => .text "AwaitRequest"
    | .finished => .text "Finished"⟩

namespace Session

/-- What a report says about a session while it runs. -/
def entries (session : Session) : List (String × Report) :=
  [entry "state" session.state.name, entry "cc" session.lastCode,
    entry "next" session.nextAction, entry "activated" session.activated,
    entry "updated" session.updatedComponents, entry "package" session.package,
    entry "metadata" session.metadata]

/-- What is left of a session in the end: all that the device has said about itself. -/
def summary (session : Session) : Report :=
  .record
    [entry "ids" (session.deviceIdentifiers.map DeviceIdentifiers.describe),
      entry "params" session.parameters, entry "status" session.status,
      entry "device_metadata" session.deviceMetadata,
      entry "components" session.plan.components.length,
      entry "max_transfer_size" session.settings.maxTransferSize]

end Session

/-- What a report says about the device side of an update. -/
def Responder.entries (responder : Responder) : List (String × Report) :=
  [entry "state" responder.state, entry "idle_reason" responder.idleReason?,
    entry "ua" responder.owner, entry "status" responder.status]

instance : Reported ComponentDetails :=
  ⟨fun details => .record (entry "size" details.size :: details.key.entries)⟩

instance : Reported DeviceEvent :=
  ⟨fun event => .list (match event with
    | .requestUpdate request =>
      [report "request_update", report request.maxTransfer, report request.componentCount,
        report request.maxOutstanding, report request.packageDataSize, report request.version]
    | .packageData data => [report "package_data", report data]
    | .updateComponent begins record =>
      [report "update_component", report begins, report record]
    | .firmwareData offset data identifier =>
      [report "firmware_data", report offset, report data, report identifier]
    | .verify details => [report "verify", report details]
    | .apply details => [report "apply", report details]
    | .activate selfContained => [report "activate", report selfContained]
    | .cancel details => [report "cancel", report details])⟩

instance : Reported BusSide :=
  ⟨fun side =>
    match side with
    | .device => .text "to_fd"
    | .agent => .text "to_ua"⟩

instance : Reported BusRecord :=
  ⟨fun sent => .list
    [report sent.destination, report sent.delivery.contents, report sent.delivery.copies]⟩

end FirmwareUpdate
