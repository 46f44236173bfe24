import FirmwareUpdate.Component.Basic
import FirmwareUpdate.Inventory.Descriptor
import FirmwareUpdate.Report.Failure

/-!
# Reports of what a device is

Labels and dates, the identifiers of a device, and its components and their versions.
-/

namespace FirmwareUpdate

open Report (entry)

instance : Reported Label :=
  ⟨fun label =>
    match label with
    | .text value => .record [entry "s" value]
    | .raw contents => .record [entry "b" contents]⟩

/-- All there is to say about a label, as it is written and as it is printed. -/
def Label.entries (label : Label) : List (String × Report) :=
  [entry "s" label, entry "type" label.kind, entry "bytes" label.bytes,
    entry "len" label.size?, entry "display" label.describe,
    entry "adjacent" label.layout.toMessage]

instance : Reported Date :=
  ⟨fun date => .list [report date.year, report date.month, report date.day]⟩

instance : Reported Descriptor :=
  ⟨fun descriptor => .record (match descriptor with
    | .pciVendor id => [entry "t" "pcivid", entry "id" id]
    | .enterprise id => [entry "t" "iana", entry "id" id]
    | .uuid id => [entry "t" "uuid", entry "b" id.bytes]
    | .vendor title data => [entry "t" "vendor", entry "title" title, entry "data" data]
    | .other kind data => [entry "t" "other", entry "typ" kind, entry "data" data])⟩

instance : Reported DeviceIdentifiers :=
  ⟨fun identifiers => .record
    [entry "ids" identifiers.descriptors, entry "display" identifiers.describe]⟩

instance : Reported Classification := ⟨fun classification => .text classification.describe⟩

instance : Reported Version :=
  ⟨fun version => .record
    [entry "stamp" version.stamp, entry "version" version.label, entry "date" version.date,
      entry "display" version.describe]⟩

/-- What a report of a component says about its key. -/
def ComponentKey.entries (key : ComponentKey) : List (String × Report) :=
  [entry "classification" key.classification, entry "identifier" key.identifier,
    entry "index" key.index]

instance : Reported Component :=
  ⟨fun component => .record (component.key.entries ++
    [entry "active" component.active, entry "pending" component.pending,
      entry "methods" component.methods, entry "caps" component.capabilities])⟩

instance : Reported FirmwareParameters :=
  ⟨fun parameters => .record
    [entry "caps" parameters.capabilities, entry "components" parameters.components,
      entry "active" parameters.active, entry "pending" parameters.pending]⟩

end FirmwareUpdate
