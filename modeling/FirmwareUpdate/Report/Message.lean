import FirmwareUpdate.Command.Bodies
import FirmwareUpdate.Message.Envelope
import FirmwareUpdate.Report.Inventory

/-!
# Reports of messages

The envelopes of messages, and the bodies of all commands and their responses.
-/

namespace FirmwareUpdate

open Report (entry)
open Wire

instance : Reported Request :=
  ⟨fun request => .record
    [entry "iid" request.iid, entry "typ" request.typ, entry "cmd" request.cmd,
      entry "data" request.data]⟩

instance : Reported Response :=
  ⟨fun response => .record
    [entry "iid" response.iid, entry "typ" response.typ, entry "cmd" response.cmd,
      entry "cc" response.cc.byte, entry "data" response.data]⟩

instance : Reported UpdateRequest :=
  ⟨fun body => .record
    [entry "max_transfer" body.maxTransfer, entry "num_components" body.componentCount,
      entry "max_outstanding" body.maxOutstanding,
      entry "package_data_len" body.packageDataSize, entry "version" body.version]⟩

instance : Reported UpdateResponse :=
  ⟨fun body => .record
    [entry "fd_metadata_len" body.metadataSize,
      entry "fd_will_send_gpd" body.pullsPackageData]⟩

instance : Reported PartRequest :=
  ⟨fun body => .record
    [entry "handle" body.handle, entry "op" body.operationCode,
      entry "op_name" body.operation?]⟩

instance : Reported PartResponse :=
  ⟨fun body => .record
    [entry "next_handle" body.nextHandle, entry "flag" body.flag,
      entry "portion" body.portion]⟩

/-- What a report says about a transfer flag. -/
def TransferFlag.entries (flag : TransferFlag) : List (String × Report) :=
  [entry "flag" flag, entry "is_start" flag.isStart, entry "is_end" flag.isEnd]

instance : Reported ComponentRecord :=
  ⟨fun record => .record (record.key.entries ++
    [entry "stamp" record.stamp, entry "version" record.version,
      entry "size" record.size, entry "flags" record.options])⟩

instance : Reported TableEntry :=
  ⟨fun body => .record (entry "record" body.record :: body.flag.entries)⟩

instance : Reported TableResponse :=
  ⟨fun body => .record [entry "response" body.response, entry "code" body.answerCode]⟩

instance : Reported ComponentResponse :=
  ⟨fun body => .record
    [entry "compat_response" body.response, entry "compat_code" body.answerCode,
      entry "flags_enabled" body.options, entry "estimated_time" body.estimatedTime]⟩

instance : Reported DataRequest :=
  ⟨fun body => .record [entry "offset" body.offset, entry "length" body.length]⟩

instance : Reported ResultReport := ⟨fun body => .record [entry "result" body.result]⟩

instance : Reported ApplyReport :=
  ⟨fun body => .record
    [entry "result" body.result, entry "methods" body.methods,
      entry "names" body.methods.names]⟩

instance : Reported ActivationRequest :=
  ⟨fun body => .record [entry "self_contained" body.selfContained]⟩

instance : Reported ActivationResponse :=
  ⟨fun body => .record [entry "estimated_time" body.estimatedTime]⟩

instance : Reported DeviceStatus :=
  ⟨fun status => .record
    [entry "current" status.current, entry "previous" status.previous,
      entry "aux_state" status.auxState, entry "aux_status" status.auxStatus,
      entry "progress" status.progress, entry "reason" status.reason,
      entry "flags" status.options]⟩

/-- Wide words are shown in decimal, as texts. -/
instance : Reported CancelResponse :=
  ⟨fun body => .record
    [entry "non_functioning" body.nonFunctioning,
      entry "bitmap" (toString body.bitmap.toNat)]⟩

end FirmwareUpdate
