import FirmwareUpdate.Channel.Stream
import FirmwareUpdate.Proofs.Wire.RoundTrip

/-!
# A byte stream stays aligned

A stream that stands at the start of a frame holds whole frames, one behind the other
(`ByteStream.Holds`). Sending puts one more frame behind them or refuses it, and receiving takes
the first one off, however its header arrives and however small the buffer is. So what has been
received is always the front of what has been sent, and the next frame is never begun in its middle.
A frame of which only a part has arrived is none yet (`ByteStream.receive_of_cut`).
-/

namespace FirmwareUpdate

open Wire

namespace Frame

/-- The length of the contents fits its 16 bits. -/
def Fits (frame : Frame) : Prop := frame.contents.length < 65536

instance : DecidablePred Fits := fun frame =>
  inferInstanceAs (Decidable (frame.contents.length < 65536))

/-- The bytes before the contents: their length, and the source. -/
def header (frame : Frame) : List UInt8 := littleEndian 2 frame.contents.length ++ [frame.source]

/-- A header has one length, whatever the frame is. -/
@[simp] theorem length_header (frame : Frame) : frame.header.length = headerSize := by
  rw [header, List.length_append, length_littleEndian]
  rfl

/-- The header says how long the contents are. -/
theorem length_of_header {frame : Frame} (fits : frame.Fits) :
    ofLittleEndian (frame.header.take 2) = frame.contents.length := by
  rw [header, List.take_left' (length_littleEndian 2 _), ofLittleEndian_littleEndian]
  exact Nat.mod_eq_of_lt fits

/-- The last byte of the header is the source of the frame. -/
theorem source_of_header (frame : Frame) : frame.header.getLastD 0 = frame.source := by
  simp [header]

/-- The header and the contents, one behind the other. -/
def bytes (frame : Frame) : List UInt8 := frame.header ++ frame.contents

/-- A frame that fits is written. -/
theorem toBytes_of_fits {frame : Frame} (fits : frame.Fits) : frame.toBytes = .ok frame.bytes := by
  have spelled : frame.toBytes =
      .ok (littleEndian 2 frame.contents.length ++ frame.source :: frame.contents) := if_pos fits
  rw [spelled, bytes, header, List.append_assoc, List.singleton_append]

/-- A frame that does not fit is refused. -/
theorem toBytes_of_long {frame : Frame} (long : ¬ frame.Fits) :
    frame.toBytes = .error .invalidPacketSize :=
  if_neg long

end Frame

/-- How one frame is received: how many bytes of its header the first read returns, and how many
bytes the buffer has room for. -/
structure Reading where
  arrived : Nat
  capacity : Nat
deriving DecidableEq, Repr

/-- What a reader is to find of a frame: its full length, its source, and its contents as far as the
buffer holds them. -/
def Reading.sees (reading : Reading) (frame : Frame) : ReceivedFrame where
  length := frame.contents.length
  source := frame.source
  contents := frame.contents.take (min frame.contents.length reading.capacity)

namespace ByteStream

/-! ## Sending and receiving one after the other -/

/-- Puts a frame behind what has not been read. A frame that is refused leaves the stream alone. -/
def send (frame : Frame) (stream : ByteStream) : Except ChannelError Unit × ByteStream :=
  match frame.toBytes with
  | .ok bytes => (.ok (), { stream with pending := stream.pending ++ bytes })
  | .error error => (.error error, stream)

/-- Sends frames one after the other, whatever becomes of each. -/
def sendAll : List Frame → ByteStream → List (Except ChannelError Unit) × ByteStream
  | [], stream => ([], stream)
  | frame :: rest, stream =>
    let (answer, stream) := stream.send frame
    let (answers, stream) := stream.sendAll rest
    (answer :: answers, stream)

/-- Receives frames one after the other. -/
def receiveAll : List Reading → ByteStream → Except ChannelError (List ReceivedFrame × ByteStream)
  | [], stream => .ok ([], stream)
  | reading :: rest, stream => do
    let (frame, stream) ← stream.receive reading.arrived reading.capacity
    let (frames, stream) ← stream.receiveAll rest
    pure (frame :: frames, stream)

/-! ## Alignment -/

/-- The stream stands at the start of a frame and holds exactly these frames. -/
structure Holds (stream : ByteStream) (frames : List Frame) : Prop where
  fits : ∀ frame ∈ frames, frame.Fits
  pending : stream.pending = frames.flatMap Frame.bytes

/-- A refused frame leaves nothing in the stream. -/
theorem send_of_long {frame : Frame} (long : ¬ frame.Fits) (stream : ByteStream) :
    stream.send frame = (.error .invalidPacketSize, stream) := by
  rw [send, Frame.toBytes_of_long long]

/-- A frame that is sent comes behind all that the stream holds. -/
theorem Holds.send {stream : ByteStream} {frames : List Frame} (holds : stream.Holds frames)
    {frame : Frame} (fits : frame.Fits) :
    ∃ stream', stream.send frame = (.ok (), stream') ∧ stream'.Holds (frames ++ [frame]) := by
  refine ⟨{ stream with pending := stream.pending ++ frame.bytes }, ?_, ?_, ?_⟩
  · rw [ByteStream.send, Frame.toBytes_of_fits fits]
  · intro other member
    rcases List.mem_append.mp member with before | last
    · exact holds.fits other before
    · exact List.mem_singleton.mp last ▸ fits
  · simp only [holds.pending, List.flatMap_append, List.flatMap_singleton]

/-- Bytes in front of the stream are taken exactly. -/
theorem takeExactly_append {taken : List UInt8} {count : Nat} (sized : taken.length = count)
    (left : List UInt8) (closed : Bool) :
    takeExactly count { pending := taken ++ left, closed } =
      .ok (taken, { pending := left, closed }) := by
  subst sized
  simp [takeExactly]

/-- Of bytes in front of the stream at most as many are taken as are asked for. -/
theorem takeSome_append {taken : List UInt8} {count : Nat} (sized : taken.length = count)
    (some : 0 < count) (left : List UInt8) (closed : Bool) :
    takeSome count { pending := taken ++ left, closed } =
      .ok (taken, { pending := left, closed }) := by
  subst sized
  cases taken with
  | nil => cases some
  | cons byte rest => simp [takeSome]

/-- A header comes whole from two reads, however many of its bytes the first of them returns. -/
theorem header_arrives {header : List UInt8} (sized : header.length = Frame.headerSize)
    (arrived : Nat) (left : List UInt8) (closed : Bool) :
    ∃ start more middle,
      takeSome (max 1 (min arrived Frame.headerSize)) { pending := header ++ left, closed } =
        .ok (start, middle) ∧
      middle.takeExactly (Frame.headerSize - start.length) =
        .ok (more, { pending := left, closed }) ∧
      start ++ more = header := by
  obtain ⟨first, asked⟩ : ∃ first, first = max 1 (min arrived Frame.headerSize) := ⟨_, rfl⟩
  have some : 0 < first := asked ▸ Nat.le_max_left 1 _
  have within : first ≤ Frame.headerSize := by
    rw [asked, Frame.headerSize]
    omega
  rw [← asked]
  have started : (header.take first).length = first := List.length_take_of_le (sized ▸ within)
  refine ⟨header.take first, header.drop first, { pending := header.drop first ++ left, closed },
    ?_, ?_, List.take_append_drop first header⟩
  · have taken := takeSome_append started some (header.drop first ++ left) closed
    rwa [← List.append_assoc, List.take_append_drop] at taken
  · refine takeExactly_append ?_ left closed
    rw [List.length_drop, sized, started]

/-- A frame in front of the stream is received whole, in however many parts its header comes and
however little of its contents the buffer holds. -/
theorem receive_bytes {frame : Frame} (fits : frame.Fits) (reading : Reading) (left : List UInt8)
    (closed : Bool) :
    receive reading.arrived reading.capacity { pending := frame.bytes ++ left, closed } =
      .ok (reading.sees frame, { pending := left, closed }) := by
  obtain ⟨start, more, middle, begun, finished, header⟩ :=
    header_arrives frame.length_header reading.arrived (frame.contents ++ left) closed
  let kept := min frame.contents.length reading.capacity
  have split : frame.contents ++ left =
      frame.contents.take kept ++ (frame.contents.drop kept ++ left) := by
    rw [← List.append_assoc, List.take_append_drop]
  have fitting : (frame.contents.take kept).length = kept :=
    List.length_take_of_le (Nat.min_le_left _ _)
  have rest : (frame.contents.drop kept).length = frame.contents.length - kept := List.length_drop
  simp only [receive, Frame.bytes, List.append_assoc, begun, finished, header, bind, Except.bind,
    Frame.length_of_header fits, Frame.source_of_header]
  -- what the buffer holds is taken first, and the rest of the contents is taken and dropped
  rw [split, takeExactly_append fitting]
  simp only
  rw [takeExactly_append rest]
  rfl

/-- Too few bytes in the middle of a frame are a failure, or a lost connection if no more come. -/
theorem takeExactly_of_short {count : Nat} {stream : ByteStream}
    (short : stream.pending.length < count) :
    stream.takeExactly count = .error (.medium (if stream.closed then .connect else .receive)) :=
  if_neg (Nat.not_le.mpr short)

/-- Some bytes are taken as soon as some have arrived. -/
theorem takeSome_of_pending {pending : List UInt8} (some : pending ≠ []) (count : Nat)
    (closed : Bool) :
    takeSome count { pending, closed } =
      .ok (pending.take count, { pending := pending.drop count, closed }) := by
  cases pending with
  | nil => exact absurd rfl some
  | cons byte rest => rfl

/-- A frame of which only a part has arrived is not received. Unless the connection is lost, the
wait for the rest of it is no timeout but a failure of the medium. -/
theorem receive_of_cut {frame : Frame} (fits : frame.Fits) (reading : Reading)
    {part : List UInt8} (begun : part ≠ []) (cut : part <+: frame.bytes)
    (short : part.length < frame.bytes.length) (closed : Bool) :
    receive reading.arrived reading.capacity { pending := part, closed } =
      .error (.medium (if closed then .connect else .receive)) := by
  by_cases early : part.length < Frame.headerSize
  · let first := max 1 (min reading.arrived Frame.headerSize)
    have missing : (part.drop first).length < Frame.headerSize - (part.take first).length := by
      rw [List.length_drop, List.length_take]
      omega
    have failed : takeExactly _ { pending := part.drop first, closed } = _ :=
      takeExactly_of_short missing
    simp only [receive, takeSome_of_pending begun, bind, Except.bind, failed, first]
  · have whole : frame.header <+: part :=
      List.prefix_of_prefix_length_le ⟨frame.contents, rfl⟩ cut
        (frame.length_header ▸ Nat.not_lt.mp early)
    obtain ⟨body, rfl⟩ := whole
    have less : body.length < frame.contents.length := by
      simpa [Frame.bytes, List.length_append] using short
    obtain ⟨start, more, middle, arrives, finished, header⟩ :=
      header_arrives frame.length_header reading.arrived body closed
    simp only [receive, arrives, finished, header, bind, Except.bind,
      Frame.length_of_header fits]
    -- the part ends in what the buffer has room for, or in what is taken behind it
    by_cases kept : body.length < min frame.contents.length reading.capacity
    · have failed : takeExactly _ { pending := body, closed } = _ := takeExactly_of_short kept
      rw [failed]
    · let room := min frame.contents.length reading.capacity
      have fitting : (body.take room).length = room :=
        List.length_take_of_le (Nat.not_lt.mp kept)
      have missing : (body.drop room).length < frame.contents.length - room := by
        rw [List.length_drop]
        omega
      have taken := takeExactly_append fitting (body.drop room) closed
      rw [List.take_append_drop] at taken
      have failed : takeExactly _ { pending := body.drop room, closed } = _ :=
        takeExactly_of_short missing
      rw [taken]
      simp only [failed, room]

/-- The first byte of a header, and then nothing. -/
example : receive 3 8 { pending := [3] } = .error (.medium .receive) := rfl

/-- The first frame of a stream is received, and the stream stands at the start of the next. -/
theorem Holds.receive {stream : ByteStream} {frame : Frame} {rest : List Frame}
    (holds : stream.Holds (frame :: rest)) (reading : Reading) :
    ∃ left, stream.receive reading.arrived reading.capacity = .ok (reading.sees frame, left) ∧
      left.Holds rest := by
  obtain ⟨pending, closed⟩ := stream
  obtain ⟨fits, rfl⟩ := holds
  exact ⟨_, receive_bytes (fits frame List.mem_cons_self) reading _ closed,
    fun other member => fits other (List.mem_cons_of_mem _ member), rfl⟩

/-! ## Whole runs -/

/-- Of frames that are sent the stream holds those that fit, behind what it has held. -/
theorem Holds.sendAll {stream : ByteStream} {held : List Frame} (holds : stream.Holds held)
    (frames : List Frame) :
    ∃ stream', stream.sendAll frames =
        (frames.map fun frame => if frame.Fits then .ok () else .error .invalidPacketSize,
          stream') ∧
      stream'.Holds (held ++ frames.filter Frame.Fits) := by
  induction frames generalizing stream held with
  | nil => exact ⟨stream, rfl, by rwa [List.filter_nil, List.append_nil]⟩
  | cons frame rest ih =>
      by_cases fits : frame.Fits
      · obtain ⟨next, sent, holdsNext⟩ := holds.send fits
        obtain ⟨last, others, holdsLast⟩ := ih holdsNext
        refine ⟨last, ?_, ?_⟩
        · simp only [ByteStream.sendAll, sent, others, List.map_cons, if_pos fits]
        · rwa [List.filter_cons_of_pos (by simpa using fits), List.append_cons]
      · obtain ⟨last, others, holdsLast⟩ := ih holds
        refine ⟨last, ?_, ?_⟩
        · simp only [ByteStream.sendAll, send_of_long fits, others, List.map_cons, if_neg fits]
        · rwa [List.filter_cons_of_neg (by simpa using fits)]

/-- Frames are received in the order in which the stream holds them. -/
theorem Holds.receiveAll {stream : ByteStream} {held : List Frame} (holds : stream.Holds held)
    {readings : List Reading} (few : readings.length ≤ held.length) :
    ∃ left, stream.receiveAll readings = .ok (List.zipWith Reading.sees readings held, left) ∧
      left.Holds (held.drop readings.length) := by
  induction readings generalizing stream held with
  | nil => exact ⟨stream, rfl, holds⟩
  | cons reading rest ih =>
      cases held with
      | nil => cases few
      | cons frame others =>
          obtain ⟨next, received, holdsNext⟩ := holds.receive reading
          obtain ⟨left, more, holdsLeft⟩ := ih holdsNext (Nat.le_of_succ_le_succ few)
          refine ⟨left, ?_, holdsLeft⟩
          simp only [ByteStream.receiveAll, received, more, bind, Except.bind]
          rfl

end ByteStream

/-- A stream that stands at the start of a frame stays aligned, whatever is sent and however it is
received. Frames whose length needs more than 16 bits are refused and leave nothing in the stream.
The others come out behind those already there, in order, each with its full length, its source and
as much of its contents as the buffer holds, whether the first read of its header returns one, two
or three bytes; and after any number of them the stream stands at the start of the next. -/
theorem stream_stays_aligned {stream : ByteStream} {held : List Frame} (holds : stream.Holds held)
    (frames : List Frame) {readings : List Reading}
    (few : readings.length ≤ (held ++ frames.filter Frame.Fits).length) :
    (∀ frame, ¬ frame.Fits → ∀ stream : ByteStream,
      stream.send frame = (.error .invalidPacketSize, stream)) ∧
    ∃ written left,
      stream.sendAll frames =
        (frames.map fun frame => if frame.Fits then .ok () else .error .invalidPacketSize,
          written) ∧
      written.Holds (held ++ frames.filter Frame.Fits) ∧
      written.receiveAll readings =
        .ok (List.zipWith Reading.sees readings (held ++ frames.filter Frame.Fits), left) ∧
      left.Holds ((held ++ frames.filter Frame.Fits).drop readings.length) := by
  refine ⟨fun frame long stream => ByteStream.send_of_long long stream, ?_⟩
  obtain ⟨written, sent, holdsSent⟩ := holds.sendAll frames
  obtain ⟨left, received, holdsLeft⟩ := holdsSent.receiveAll few
  exact ⟨written, left, sent, holdsSent, received, holdsLeft⟩

namespace FramedPackets

/-- A frame that fits its buffer. -/
def short : Frame := { source := 0x10, contents := [1, 2, 3, 4] }

/-- A frame of one byte more than its length can say. -/
def long : Frame := { source := 0x10, contents := List.replicate 65536 0 }

/-- A frame that is longer than its buffer. -/
def wide : Frame := { source := 0x20, contents := List.replicate 10 5 }

/-- The header of the first frame comes in two parts; both buffers have eight bytes. -/
def readings : List Reading := [{ arrived := 1, capacity := 8 }, { arrived := 3, capacity := 8 }]

theorem fits_short : short.Fits := by decide

theorem fits_wide : wide.Fits := by decide

theorem not_fits_long : ¬ long.Fits := by
  rw [Frame.Fits, show long.contents.length = 65536 from List.length_replicate]
  exact Nat.lt_irrefl _

theorem filter_fits : [short, long, wide].filter Frame.Fits = [short, wide] := by
  rw [List.filter_cons_of_pos (by simpa using fits_short),
    List.filter_cons_of_neg (by simpa using not_fits_long),
    List.filter_cons_of_pos (by simpa using fits_wide), List.filter_nil]

end FramedPackets

open FramedPackets in
/-- Neither the frame that is refused nor the one that is cut short moves the start of the next. -/
theorem frames_around_a_refused_one_arrive :
    ByteStream.Holds {} [] ∧
      readings.length ≤ ([] ++ [short, long, wide].filter Frame.Fits).length ∧
      ∃ written left : ByteStream,
        ByteStream.sendAll [short, long, wide] {} =
          ([.ok (), .error .invalidPacketSize, .ok ()], written) ∧
        written.receiveAll readings =
          .ok ([{ length := 4, source := 0x10, contents := [1, 2, 3, 4] },
            { length := 10, source := 0x20, contents := List.replicate 8 5 }], left) ∧
        left.pending = [] := by
  have fresh : ByteStream.Holds {} [] := ⟨nofun, rfl⟩
  have few : readings.length ≤ ([] ++ [short, long, wide].filter Frame.Fits).length := by
    rw [filter_fits]
    decide
  obtain ⟨-, written, left, sent, -, received, holds⟩ :=
    stream_stays_aligned fresh [short, long, wide] few
  rw [filter_fits] at received holds
  refine ⟨fresh, few, written, left, ?_, received, holds.pending⟩
  rw [sent, List.map_cons, List.map_cons, List.map_cons, List.map_nil, if_pos fits_short,
    if_neg not_fits_long, if_pos fits_wide]

end FirmwareUpdate
