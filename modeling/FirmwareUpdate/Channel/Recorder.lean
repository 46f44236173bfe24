import FirmwareUpdate.Channel.Basic

/-!
# Recording links

A link that keeps what is sent and hands out packets prepared beforehand.
-/

namespace FirmwareUpdate

/-- Packets that wait to be received, and those that were sent. -/
structure Recorder where
  inbox : List Frame := []
  /-- Contents and address; the last packet comes first. -/
  sent : List (List UInt8 × UInt8) := []
deriving DecidableEq, Repr

namespace Recorder

/-- Keeps a packet. -/
def send (contents : List UInt8) (address : UInt8) (recorder : Recorder) :
    Except ChannelError Unit × Recorder :=
  (.ok (), { recorder with sent := (contents, address) :: recorder.sent })

/-- Hands out the next packet. With none, a poll times out and a wait fails. -/
def receive (timeout : Timeout) (recorder : Recorder) :
    Except ChannelError Frame × Recorder :=
  match recorder.inbox with
  | frame :: rest => (.ok frame, { recorder with inbox := rest })
  | [] =>
    (.error (if timeout = .poll then .receiveTimeout else .receiveFailed), recorder)

/-- The link to a recorder, on a clock that stands still. -/
def link : Link Recorder := { send, receive, now := fun _ => 0 }

end Recorder

end FirmwareUpdate
