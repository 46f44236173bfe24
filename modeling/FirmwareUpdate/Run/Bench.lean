import FirmwareUpdate.Run.Agent
import FirmwareUpdate.Run.Device

/-!
# A bench for whole updates

An agent and a device on one bus, in one thread. The device is served whenever the
agent waits and nothing is on its way to it. Faults on the way can be planned: packets
are lost, doubled, changed or slipped in at given places. Time passes for the device
in ticks, and only while the agent waits in vain.
-/

namespace FirmwareUpdate

/-- What happens to a packet on its way. -/
inductive Fault where
  /-- Another packet goes before it, from the given address or else the sender's. -/
  | inject (source : Option UInt8) (contents : List UInt8)
  /-- It is lost. -/
  | drop
  /-- It is delivered twice. -/
  | duplicate
  /-- The bits of `mask` are flipped in one of its bytes, if it has that byte. -/
  | corrupt (index : Nat) (mask : UInt8)
deriving DecidableEq, Repr

/-- A fault, and which packet of its direction it meets, counted from 0. -/
structure PlannedFault where
  position : Nat
  fault : Fault
deriving DecidableEq, Repr

/-- A packet after its faults, and how often it is delivered. -/
structure Delivery where
  contents : List UInt8
  copies : Nat := 1
deriving DecidableEq, Repr

namespace Fault

/-- The packet after one fault. -/
def strike (delivery : Delivery) : Fault → Delivery
  | inject _ _ => delivery
  | drop => { delivery with copies := 0 }
  | duplicate => { delivery with copies := 2 }
  | corrupt index mask =>
    { delivery with contents := delivery.contents.modify index (· ^^^ mask) }

/-- The frame that a fault slips in, if it does. -/
def slippedIn? (sender : UInt8) : Fault → Option Frame
  | inject source contents => some { source := source.getD sender, contents }
  | _ => none

end Fault

/-- One direction of the bus. -/
structure Lane where
  /-- The address of the sender. -/
  sender : UInt8
  /-- Frames that have not been received. -/
  queue : List Frame := []
  /-- How many packets have been sent. -/
  sent : Nat := 0
  faults : List PlannedFault := []
deriving DecidableEq, Repr

namespace Lane

/-- The faults that the next packet meets. -/
def due (lane : Lane) : List Fault :=
  (lane.faults.filter (·.position == lane.sent)).map (·.fault)

/-- What becomes of the next packet. -/
def deliveryOf (lane : Lane) (contents : List UInt8) : Delivery :=
  lane.due.foldl Fault.strike { contents }

/-- The lane after a packet has been sent. -/
def push (lane : Lane) (contents : List UInt8) : Lane :=
  let delivery := lane.deliveryOf contents
  { lane with
    queue := lane.queue ++ lane.due.filterMap (Fault.slippedIn? lane.sender) ++
      List.replicate delivery.copies { source := lane.sender, contents := delivery.contents }
    sent := lane.sent + 1 }

end Lane

/-- The two ends of the bus. -/
inductive BusSide where
  | device
  | agent
deriving DecidableEq, Repr

/-- A packet that was sent, and what became of it. -/
structure BusRecord where
  destination : BusSide
  delivery : Delivery
deriving DecidableEq, Repr

/-- The bus between an agent and a device. -/
structure Bus where
  toDevice : Lane := { sender := 0x10 }
  toAgent : Lane := { sender := 0x20 }
  /-- All packets; the last one comes first. -/
  trace : List BusRecord := []
deriving DecidableEq, Repr

namespace Bus

/-- Sends a packet to the device. -/
def sendToDevice (contents : List UInt8) (bus : Bus) : Bus :=
  { bus with
    toDevice := bus.toDevice.push contents
    trace := { destination := .device, delivery := bus.toDevice.deliveryOf contents } :: bus.trace }

/-- Sends a packet to the agent. -/
def sendToAgent (contents : List UInt8) (bus : Bus) : Bus :=
  { bus with
    toAgent := bus.toAgent.push contents
    trace := { destination := .agent, delivery := bus.toAgent.deliveryOf contents } :: bus.trace }

/-- The device takes the next frame; with none the link fails, whatever the timeout. -/
def receiveAtDevice (_timeout : Timeout) (bus : Bus) : Except ChannelError Frame × Bus :=
  match bus.toDevice.queue with
  | frame :: rest => (.ok frame, { bus with toDevice := { bus.toDevice with queue := rest } })
  | [] => (.error .receiveFailed, bus)

/-- The agent takes the next frame, if there is one. -/
def receiveAtAgent? (bus : Bus) : Option (Frame × Bus) :=
  match bus.toAgent.queue with
  | frame :: rest => some (frame, { bus with toAgent := { bus.toAgent with queue := rest } })
  | [] => none

/-- The device's end of the bus, on a clock that stands still. -/
def deviceLink : Link Bus where
  send contents _ bus := (.ok (), bus.sendToAgent contents)
  receive := receiveAtDevice
  now _ := 0

end Bus

/-- How a bench is set up. -/
structure BenchSetup (τ : Type) where
  device : Device τ
  /-- Lets time pass for the device. -/
  advance : Nat → τ → τ
  /-- Milliseconds of a tick. -/
  tickMillis : Nat := 1001
  /-- The device is left alone once this holds. -/
  stop : Responder → Bool := fun _ => false
  /-- How many packets, messages and actions each loop allows. -/
  patience : Nat

/-- The device, its end of the bus, and the ticks that are left. -/
structure Bench (τ : Type) where
  run : DeviceRun τ Bus
  ticks : Nat := 0

namespace Bench

variable {τ : Type}

/-- Serves the device until it has nothing more to do. -/
def serveDevice (setup : BenchSetup τ) (bench : Bench τ) : Bench τ :=
  { bench with
    run := (bench.run.serve setup.device Bus.deviceLink setup.patience setup.stop).2 }

/-- The agent takes the next frame, if there is one. -/
def takeFrame? (bench : Bench τ) : Option (Frame × Bench τ) :=
  bench.run.medium.receiveAtAgent?.map fun (frame, bus) =>
    (frame, { bench with run := { bench.run with medium := bus } })

/-- Serves the device, and lets at most `ticks` ticks pass, until there is a frame for
the agent. -/
def awaitFrame (setup : BenchSetup τ) : (ticks : Nat) → Bench τ → Option Frame × Bench τ
  | 0, bench =>
    let bench := bench.serveDevice setup
    match bench.takeFrame? with
    | some (frame, bench) => (some frame, { bench with ticks := 0 })
    | none => (none, { bench with ticks := 0 })
  | ticks + 1, bench =>
    let bench := bench.serveDevice setup
    match bench.takeFrame? with
    | some (frame, bench) => (some frame, { bench with ticks := ticks + 1 })
    | none =>
      awaitFrame setup ticks { bench with
        run := { bench.run with device := setup.advance setup.tickMillis bench.run.device } }

/-- The agent waits for a frame. In vain it fails, or times out if it only polls. -/
def receiveAtAgent (setup : BenchSetup τ) (timeout : Timeout) (bench : Bench τ) :
    Except ChannelError Frame × Bench τ :=
  match bench.takeFrame? with
  | some (frame, bench) => (.ok frame, bench)
  | none =>
    match awaitFrame setup bench.ticks bench with
    | (some frame, bench) => (.ok frame, bench)
    | (none, bench) =>
      (.error (if timeout = .poll then .receiveTimeout else .receiveFailed), bench)

/-- A patience that lets a whole update through: many times the bytes that it moves,
and the faults, ticks and repetitions on the way. -/
def patienceFor (plan : UpdatePlan) (settings : AgentSettings) (metadataSize ticks : Nat)
    (bus : Bus) : Nat :=
  65536 * (1 + plan.components.foldl (fun bytes component => bytes + component.image.length + 1) 0 +
    plan.packageData.length + metadataSize + ticks + settings.updateRetries +
    bus.toDevice.faults.length + bus.toAgent.faults.length)

/-- The agent's end of the bus, on a clock that stands still. -/
def agentLink (setup : BenchSetup τ) : Link (Bench τ) where
  send contents _ bench :=
    (.ok (), { bench with
      run := { bench.run with medium := bench.run.medium.sendToDevice contents } })
  receive := receiveAtAgent setup
  now _ := 0

end Bench

end FirmwareUpdate
