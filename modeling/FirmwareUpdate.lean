import FirmwareUpdate.Channel.Loopback
import FirmwareUpdate.Channel.Recorder
import FirmwareUpdate.Report.Defaults
import FirmwareUpdate.Report.Meaning
import FirmwareUpdate.Transfer.Pull
import FirmwareUpdate.Proofs.Device.Record
import FirmwareUpdate.Proofs.Command.RoundTrip
import FirmwareUpdate.Proofs.Message.Envelope
import FirmwareUpdate.Proofs.Device.Run
import FirmwareUpdate.Proofs.Device.ImageStep
import FirmwareUpdate.Proofs.Device.Answer
import FirmwareUpdate.Proofs.Device.Delivery
import FirmwareUpdate.Proofs.Agent.Run
import FirmwareUpdate.Proofs.Message.Instance
import FirmwareUpdate.Proofs.Device.Asking
import FirmwareUpdate.Proofs.Connection.Basic
import FirmwareUpdate.Proofs.Connection.Window
import FirmwareUpdate.Proofs.Connection.Begin
import FirmwareUpdate.Proofs.Update.Command
import FirmwareUpdate.Proofs.Update.Poll
import FirmwareUpdate.Proofs.Update.Agreement
import FirmwareUpdate.Proofs.Update.Course
import FirmwareUpdate.Proofs.Update.Announcement
import FirmwareUpdate.Proofs.Update.Images
import FirmwareUpdate.Proofs.Update.Lossless
import FirmwareUpdate.Proofs.Device.Foreign
import FirmwareUpdate.Proofs.Agent.Lifecycle
import FirmwareUpdate.Proofs.Update.Activation
import FirmwareUpdate.Proofs.Agent.Size
import FirmwareUpdate.Proofs.Channel.Arrival
import FirmwareUpdate.Proofs.Device.Size
import FirmwareUpdate.Proofs.Update.Transport
import FirmwareUpdate.Proofs.Transfer.Pull
import FirmwareUpdate.Proofs.Channel.Crossing
import FirmwareUpdate.Proofs.Channel.Reassembly
import FirmwareUpdate.Proofs.Transfer.Recovery
import FirmwareUpdate.Proofs.Update.PackageLoss
import FirmwareUpdate.Proofs.Strict.Session
import FirmwareUpdate.Proofs.Strict.Responder
import FirmwareUpdate.Proofs.Agent.Limits
import FirmwareUpdate.Proofs.Inventory.Dates
import FirmwareUpdate.Proofs.Inventory.Parameters
import FirmwareUpdate.Proofs.Agent.Renewal
import FirmwareUpdate.Proofs.Device.Hearing
import FirmwareUpdate.Proofs.Device.Silence
import FirmwareUpdate.Proofs.Agent.Strangers
import FirmwareUpdate.Proofs.Inventory.Labels
import FirmwareUpdate.Proofs.Inventory.Rewriting
import FirmwareUpdate.Proofs.Inventory.Identifiers
import FirmwareUpdate.Proofs.Inventory.Respelling
import FirmwareUpdate.Proofs.Device.Refusal
import FirmwareUpdate.Proofs.Device.Metadata
import FirmwareUpdate.Proofs.Device.Notification
import FirmwareUpdate.Proofs.Device.Beginning
import FirmwareUpdate.Proofs.Connection.Fetching
import FirmwareUpdate.Proofs.Device.Package
import FirmwareUpdate.Proofs.Device.Table
import FirmwareUpdate.Proofs.Device.Progress
import FirmwareUpdate.Proofs.Agent.Advice
import FirmwareUpdate.Proofs.Agent.Shown
import FirmwareUpdate.Proofs.Transfer.Served
import FirmwareUpdate.Proofs.Transfer.Receiving
import FirmwareUpdate.Proofs.Agent.Failures
import FirmwareUpdate.Proofs.Agent.Buffer
import FirmwareUpdate.Proofs.Agent.Package
import FirmwareUpdate.Channel.Fragmenter
import FirmwareUpdate.Proofs.Transfer.Completion
import FirmwareUpdate.Proofs.Channel.Cutting
import FirmwareUpdate.Proofs.Channel.Losses
import FirmwareUpdate.Proofs.Channel.Returning
import FirmwareUpdate.Proofs.Channel.Framing
import FirmwareUpdate.Proofs.Command.Exactness
import FirmwareUpdate.Proofs.Inventory.Parts
