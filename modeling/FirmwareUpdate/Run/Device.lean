import FirmwareUpdate.Device.Responder
import FirmwareUpdate.Run.Endpoint

/-!
# Running a device

A responder meets an endpoint: whatever the device has to ask is sent, and every
message that arrives is answered or taken, until the caller wants to stop or the link
fails.
-/

namespace FirmwareUpdate

/-- A device and its responder, the endpoint they talk through, and the state of the
link. -/
structure DeviceRun (τ σ : Type) where
  responder : Responder
  device : τ
  endpoint : Endpoint
  medium : σ

namespace DeviceRun

variable {τ σ : Type}

/-- Microseconds that a device waits for a message before it looks after itself. -/
def pollSpan : Nat := 10000

/-- Sends what the device has to ask, if anything. -/
def sendDue (run : DeviceRun τ σ) (device : Device τ) (link : Link σ) :
    Except UpdateError Unit × DeviceRun τ σ :=
  match run.responder.progress device run.device with
  | (none, responder, state) => (.ok (), { run with responder, device := state })
  | (some request, responder, state) =>
    let agent := responder.owner.getD run.endpoint.peer
    match run.endpoint.sendRequestTo link agent request run.medium with
    | (.error error, endpoint, medium) =>
      (.error error, { responder, device := state, endpoint, medium })
    | (.ok _, endpoint, medium) => (.ok (), { responder, device := state, endpoint, medium })

/-- Answers a request, or takes a response. Messages that are neither are dropped. -/
def take (run : DeviceRun τ σ) (device : Device τ) (link : Link σ) (message : Incoming) :
    Except UpdateError Unit × DeviceRun τ σ :=
  if message.isRequest then
    match run.responder.answerRequest device message.source message.data run.device with
    | (.error _, responder, state) => (.ok (), { run with responder, device := state })
    | (.ok response, responder, state) =>
      let (sent, medium) := run.endpoint.sendResponse link message response run.medium
      (sent, { run with responder, device := state, medium })
  else
    match run.responder.takeReply device message.source message.data run.device with
    | (_, responder, state) => (.ok (), { run with responder, device := state })

/-- Serves the device for at most `rounds` rounds, until `stop` holds before a round. -/
def serveRounds (device : Device τ) (link : Link σ) (patience : Nat)
    (stop : Responder → Bool) :
    (rounds : Nat) → DeviceRun τ σ → Except UpdateError Unit × DeviceRun τ σ
  | 0, run => (.ok (), run)
  | rounds + 1, run =>
    if stop run.responder then (.ok (), run)
    else match run.sendDue device link with
      | (.error error, run) => (.error error, run)
      | (.ok (), run) =>
        match run.endpoint.receive link patience (.after pollSpan) run.medium with
        | (.error (.channel .receiveTimeout), endpoint, medium) =>
          serveRounds device link patience stop rounds { run with endpoint, medium }
        | (.error error, endpoint, medium) => (.error error, { run with endpoint, medium })
        | (.ok message, endpoint, medium) =>
          match { run with endpoint, medium }.take device link message with
          | (.error error, run) => (.error error, run)
          | (.ok (), run) => serveRounds device link patience stop rounds run

/-- Serves the device until `stop` holds or the link fails. -/
def serve (run : DeviceRun τ σ) (device : Device τ) (link : Link σ) (patience : Nat)
    (stop : Responder → Bool) : Except UpdateError Unit × DeviceRun τ σ :=
  serveRounds device link patience stop patience run

end DeviceRun

end FirmwareUpdate
