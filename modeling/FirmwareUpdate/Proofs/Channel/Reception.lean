import FirmwareUpdate.Channel.Basic

/-!
# Messages that a channel hands on

A reception is a channel with its assembler, the medium that it listens to and the state of
whoever takes its messages. It keeps a record of the packets that have arrived and of the
messages that have been handed on, whether they were refused or not. On a channel without a
packet timeout the assembler depends on the packets alone (`Reception.poll_of_frame`).
-/

namespace FirmwareUpdate

variable {σ δ : Type}

/-- The same `dispatch`, which keeps a record of the messages that it is handed. -/
def recordingMessages (dispatch : Message → δ → Except ChannelError Unit × δ) (message : Message)
    (kept : δ × List Message) : Except ChannelError Unit × δ × List Message :=
  ((dispatch message kept.1).1, (dispatch message kept.1).2, kept.2 ++ [message])

/-- A channel that receives, and what it has received. -/
structure Reception (σ δ : Type) where
  channel : Channel
  assembler : Assembler
  medium : σ
  /-- What has been kept of the messages by whoever takes them. -/
  kept : δ
  /-- The packets that have arrived, as the medium has handed them over. -/
  frames : List Frame := []
  /-- How many of them had arrived when the mark of the channel was last cleared. -/
  cleared : Nat := 0
  /-- The messages that have been handed on. -/
  messages : List Message := []

/-- What can be done at a channel that receives. -/
inductive ReceptionStep where
  /-- A packet is waited for and processed. -/
  | poll (timeout : Timeout)
  /-- The mark of packets that were too long is cleared. -/
  | resetOverflow

namespace Reception

section Run

variable (link : Link σ) (dispatch : Message → δ → Except ChannelError Unit × δ)

/-- A packet is waited for and processed. -/
def poll (timeout : Timeout) (reception : Reception σ δ) : Reception σ δ :=
  let (_, channel, assembler, medium, kept, messages) :=
    reception.channel.processInto link reception.assembler (recordingMessages dispatch) timeout
      reception.medium (reception.kept, reception.messages)
  { reception with
    channel
    assembler
    medium
    kept
    frames :=
      reception.frames ++ (link.receive timeout reception.medium).1.toOption.toList
    messages }

/-- What follows a step. -/
def next (reception : Reception σ δ) : ReceptionStep → Reception σ δ
  | .poll timeout => reception.poll link dispatch timeout
  | .resetOverflow =>
    { reception with
      channel := reception.channel.resetOverflow
      cleared := reception.frames.length }

/-- What follows a sequence of steps. -/
def run (reception : Reception σ δ) (steps : List ReceptionStep) : Reception σ δ :=
  steps.foldl (next link dispatch) reception

/-- Looks for a packet a number of times, without waiting. -/
def polls : (count : Nat) → Reception σ δ → Reception σ δ
  | 0, reception => reception
  | count + 1, reception => polls count (reception.poll link dispatch .poll)

end Run

end Reception

namespace Channel

/-- Packets do not expire. -/
def Untimed (channel : Channel) : Prop := channel.packetTimeout = none

/-- An assembler takes a packet from a channel on which packets do not expire. -/
def taken (channel : Channel) (assembler : Assembler) (frame : Frame) :
    Option Message × Assembler :=
  if channel.maxPacketSize < frame.contents.length then (none, assembler.reset)
  else
    let (answer, assembler) := assembler.receiveBytes frame.contents frame.source
    (answer.toOption.join, assembler)

variable {channel : Channel}

theorem Untimed.noting (untimed : channel.Untimed) (frame : Frame) :
    (channel.noting frame).Untimed := untimed

/-- What a packet comes to on such a channel, whatever the time is. -/
theorem assemble_eq (untimed : channel.Untimed) (assembler : Assembler) (frame : Frame)
    (arrived now : Nat) :
    ((assemble assembler (channel.packetOf frame arrived) now).1.toOption.join,
      (assemble assembler (channel.packetOf frame arrived) now).2) =
      channel.taken assembler frame := by
  have fresh : (channel.packetOf frame arrived).isExpired now = false := by
    simp only [Packet.isExpired, packetOf, show channel.packetTimeout = none from untimed]
    rfl
  by_cases long : channel.maxPacketSize < frame.contents.length
  · have cut : (channel.packetOf frame arrived).check now = .error .packetOverflow := by
      rw [Packet.check, fresh, if_neg Bool.false_ne_true]
      simp [packetOf, long]
    simp [assemble, cut, taken, long]
    rfl
  · have whole : (channel.packetOf frame arrived).check now = .ok () := by
      rw [Packet.check, fresh, if_neg Bool.false_ne_true]
      simp [packetOf, long]
    have contents : (channel.packetOf frame arrived).data = frame.contents :=
      List.take_of_length_le (Nat.not_lt.mp long)
    simp only [assemble, whole, taken, if_neg long, Assembler.receive, contents]
    rfl

end Channel

namespace Reception

variable {link : Link σ} (dispatch : Message → δ → Except ChannelError Unit × δ)
  {reception : Reception σ δ} {timeout : Timeout}

/-- A packet that arrives is put into the record and taken by the assembler, and a message that
it completes is handed on. -/
theorem poll_of_frame (untimed : reception.channel.Untimed) {frame : Frame} {medium : σ}
    (arrives : link.receive timeout reception.medium = (.ok frame, medium)) :
    ∃ kept, reception.poll link dispatch timeout =
      { channel := reception.channel.noting frame
        assembler := (reception.channel.taken reception.assembler frame).2
        medium
        kept
        frames := reception.frames ++ [frame]
        cleared := reception.cleared
        messages := reception.messages ++
          (reception.channel.taken reception.assembler frame).1.toList } := by
  have taken := reception.channel.assemble_eq untimed reception.assembler frame (link.now medium)
    (link.now medium)
  simp only [poll, Channel.processInto, Channel.receiveMessage, Channel.receive, arrives]
  rw [← taken]
  cases completed : (Channel.assemble reception.assembler
      (reception.channel.packetOf frame (link.now medium)) (link.now medium)).1 with
  | error error =>
      refine ⟨reception.kept, ?_⟩
      simp [Except.toOption]
  | ok found =>
      cases found with
      | none => exact ⟨reception.kept, by simp [Except.toOption]⟩
      | some message =>
          exact ⟨(dispatch message reception.kept).2,
            by simp [Except.toOption, recordingMessages]⟩

/-- Without a packet only the medium may change. -/
theorem poll_of_failure {error : ChannelError} {medium : σ}
    (fails : link.receive timeout reception.medium = (.error error, medium)) :
    reception.poll link dispatch timeout = { reception with medium } := by
  simp [poll, Channel.processInto, Channel.receiveMessage, Channel.receive, fails,
    Except.toOption]

end Reception

end FirmwareUpdate
