import FirmwareUpdate.Channel.Basic

/-!
# Loopback links

Two ends in one process. What one end sends waits in order at the other. An end
that has left receives nothing more, and what it sent before can still be taken.
-/

namespace FirmwareUpdate

/-- One end of a loopback link. -/
structure LoopbackEnd where
  address : UInt8
  /-- Packets that wait for this end. -/
  inbox : List Frame := []
  /-- The end has not left. -/
  present : Bool := true
deriving DecidableEq, Repr

/-- The two ends of a loopback link. -/
structure Loopback where
  near : LoopbackEnd
  far : LoopbackEnd
deriving DecidableEq, Repr

namespace Loopback

/-- Connects two addresses. -/
def connect (near far : UInt8) : Loopback :=
  { near := { address := near }, far := { address := far } }

/-- The same link seen from the other end. -/
def turned (loopback : Loopback) : Loopback :=
  { near := loopback.far, far := loopback.near }

/-- The near end leaves. -/
def leave (loopback : Loopback) : Loopback :=
  { loopback with near := { loopback.near with present := false } }

/-- Sends from the near end, to whatever address. -/
def send (contents : List UInt8) (_address : UInt8) (loopback : Loopback) :
    Except ChannelError Unit × Loopback :=
  if loopback.far.present then
    (.ok (), { loopback with
      far := { loopback.far with
        inbox := loopback.far.inbox ++ [{ source := loopback.near.address, contents }] } })
  else (.error .sendFailed, loopback)

/-- Receives at the near end. A wait for a packet that never comes fails once the
other end has left, and otherwise times out. -/
def receive (_timeout : Timeout) (loopback : Loopback) :
    Except ChannelError Frame × Loopback :=
  match loopback.near.inbox with
  | frame :: rest =>
    (.ok frame, { loopback with near := { loopback.near with inbox := rest } })
  | [] =>
    if loopback.far.present then (.error .receiveTimeout, loopback)
    else (.error .receiveFailed, loopback)

/-- The link of the near end, on a clock that stands still. -/
def link : Link Loopback := { send, receive, now := fun _ => 0 }

end Loopback

end FirmwareUpdate
