import Mathlib.Data.List.Chain
import Mathlib.Data.List.Forall2
import FirmwareUpdate.Proofs.Channel.Arrival
import FirmwareUpdate.Proofs.Channel.Reception

/-!
# What messages are made of

Whatever packets arrive, a message that is handed on has been put together from some of them,
in order, and no packet is in two messages. `Assembler.Takes` says all that a packet can do to
an assembler; the invariant follows the packets of the message in progress.
-/

namespace FirmwareUpdate

variable {σ δ : Type}

/-! ## Packets and the messages they belong to -/

namespace Frame

/-- The packet is no longer than allowed and has this header and body, and the header names an
endpoint or whoever the packet reaches. -/
structure Carries (frame : Frame) (own : EndpointId) (capacity : Nat) (header : PacketHeader)
    (body : List UInt8) : Prop where
  short : frame.contents.length ≤ capacity
  read : PacketHeader.parse frame.contents = .ok (header, body)
  addressed : header.destination = own ∨ header.destination = .null

/-- An endpoint accepts the packet as the first one of a message. -/
def Opens (frame : Frame) (own : EndpointId) (capacity : Nat) : Prop :=
  ∃ header typ payload, frame.Carries own capacity header (typ :: payload) ∧
    header.first = true ∧ header.source ≠ .any

/-- The packet does nothing to a message in progress that it is no part of. -/
def IsQuiet (frame : Frame) (own : EndpointId) (capacity : Nat) : Prop :=
  frame.contents.length ≤ capacity ∧ ¬ frame.Opens own capacity

end Frame

/-- A packet as a part of a message. -/
structure MessagePart where
  /-- Its place among all packets that have arrived. -/
  place : Nat
  header : PacketHeader
  /-- What follows the header. -/
  body : List UInt8

/-- The data in a packet: in the first one, the type comes before them. -/
def PacketHeader.payloadIn (header : PacketHeader) (body : List UInt8) : List UInt8 :=
  if header.first then body.tail else body

/-- The data in a part. -/
def MessagePart.payload (part : MessagePart) : List UInt8 := part.header.payloadIn part.body

/-- Packets that follow each other in one message of this source, tag and type, with its data.
All but the last of them announce another one. -/
structure Strand (own : EndpointId) (capacity : Nat) (frames : List Frame) (source : EndpointId)
    (tag : Tag) (typ : UInt8) (data : List UInt8) (parts : List MessagePart) : Prop where
  nonempty : parts ≠ []
  /-- Each part is a packet that has arrived, for this endpoint. -/
  arrived : ∀ part ∈ parts, ∃ frame, frames[part.place]? = some frame ∧
    frame.Carries own capacity part.header part.body
  sourced : source ≠ .any
  oneSource : ∀ part ∈ parts, part.header.source = source
  oneTag : ∀ part ∈ parts, part.header.tag = tag
  opening : ∀ part ∈ parts.head?, part.header.first = true ∧
    ∃ code payload, part.body = code :: payload ∧ typ = code &&& 0x7f
  later : ∀ part ∈ parts.tail, part.header.first = false
  sequence : parts.IsChain fun part next =>
    next.header.sequence = PacketHeader.nextSequence part.header.sequence
  unfinished : ∀ part ∈ parts.dropLast, part.header.last = false
  data_eq : data = parts.flatMap MessagePart.payload

/-- The message is what these packets carry together: the last of them and no other is marked as
the last, and in between there is no packet that would have ended or replaced the message. -/
structure Message.MadeOf (message : Message) (own : EndpointId) (limit capacity : Nat)
    (frames : List Frame) (parts : List MessagePart) : Prop extends
    Strand own capacity frames message.endpoint message.tag message.typ message.data parts where
  within : message.data.length ≤ limit
  closing : ∀ part ∈ parts.getLast?, part.header.last = true
  alone : ∀ place frame, (∃ part ∈ parts, part.place < place) →
    (∃ part ∈ parts, place < part.place) → frames[place]? = some frame →
      frame.IsQuiet own capacity

/-- What has been collected of a message is what these packets carry, and none has come since
that would have ended or replaced it. -/
structure PartialMessage.MadeOf (part : PartialMessage) (own : EndpointId) (capacity : Nat)
    (frames : List Frame) (parts : List MessagePart) : Prop extends
    Strand own capacity frames part.peer part.tag part.typ part.data parts where
  next : ∀ other ∈ parts.getLast?, part.sequence = PacketHeader.nextSequence other.header.sequence
  alone : ∀ place frame, (∃ other ∈ parts, other.place < place) →
    frames[place]? = some frame → frame.IsQuiet own capacity

/-! ## All that a packet can do -/

namespace Assembler

/-- What a packet extends: a message that it opens, or the one in progress. -/
inductive Extends (assembler : Assembler) (capacity : Nat) (frame : Frame) :
    PartialMessage → PacketHeader → List UInt8 → Prop where
  | opening {header : PacketHeader} {typ : UInt8} {payload : List UInt8}
      (carries : frame.Carries assembler.own capacity header (typ :: payload))
      (first : header.first = true) (sourced : header.source ≠ .any) :
      Extends assembler capacity frame
        { peer := header.source
          tag := header.tag
          typ := typ &&& 0x7f
          sequence := header.sequence
          replyAddress := frame.source
          firstSize := payload.length
          data := [] }
        header (typ :: payload)
  | following {part : PartialMessage} {header : PacketHeader} {body : List UInt8}
      (current : assembler.current = some part)
      (carries : frame.Carries assembler.own capacity header body)
      (later : header.first = false) (source : header.source = part.peer)
      (tag : header.tag = part.tag) (sequence : header.sequence = part.sequence) :
      Extends assembler capacity frame part header body

/-- All that a packet can do to an assembler: the message that it completes, and the assembler
after it. -/
inductive Takes (assembler : Assembler) (capacity : Nat) (frame : Frame) :
    Option Message × Assembler → Prop where
  /-- Nothing. -/
  | kept (quiet : frame.IsQuiet assembler.own capacity) :
      Takes assembler capacity frame (none, assembler)
  /-- The message in progress is dropped. -/
  | dropped : Takes assembler capacity frame (none, assembler.reset)
  /-- The message grows. -/
  | grew {part : PartialMessage} {header : PacketHeader} {body : List UInt8}
      (extends' : assembler.Extends capacity frame part header body)
      (more : header.last = false) :
      Takes assembler capacity frame
        (none, { assembler with current := grown part (header.payloadIn body) })
  /-- The message is complete. -/
  | completed {part : PartialMessage} {header : PacketHeader} {body : List UInt8}
      (extends' : assembler.Extends capacity frame part header body)
      (last : header.last = true)
      (within : (grown part (header.payloadIn body)).data.length ≤ assembler.limit) :
      Takes assembler capacity frame
        (some (finish (grown part (header.payloadIn body))), assembler.reset)

variable {assembler : Assembler} {capacity : Nat} {frame : Frame}

/-- A packet that extends a message within the limit adds to it or completes it. -/
theorem Extends.takes {part : PartialMessage} {header : PacketHeader} {body : List UInt8}
    (extension : assembler.Extends capacity frame part header body) :
    assembler.Takes capacity frame
      ((assembler.extend part header.last (header.payloadIn body)).1.toOption.join,
        (assembler.extend part header.last (header.payloadIn body)).2) := by
  by_cases short : part.data.length + (header.payloadIn body).length ≤ assembler.limit
  · cases ends : header.last with
    | true =>
        rw [extend_of_last short]
        exact .completed extension ends (by simpa [grown] using short)
    | false =>
        rw [extend_of_more short]
        exact .grew extension ends
  · rw [extend_of_long (Nat.not_le.mp short)]
    exact .dropped

/-- A packet that has been read otherwise does not open a message. -/
theorem not_opens {own : EndpointId} {header : PacketHeader} {body : List UInt8}
    (read : PacketHeader.parse frame.contents = .ok (header, body))
    (unfit : ∀ typ payload, body = typ :: payload →
      (header.destination = own ∨ header.destination = .null) → header.first = true →
        header.source = .any) :
    ¬ frame.Opens own capacity := by
  rintro ⟨other, typ, payload, carries, first, sourced⟩
  have same := read.symm.trans carries.read
  simp only [Except.ok.injEq, Prod.mk.injEq] at same
  obtain ⟨rfl, rfl⟩ := same
  exact sourced (unfit typ payload rfl carries.addressed first)

/-- A frame that goes on a message begins none. -/
theorem quiet_of_later {own : EndpointId} {header : PacketHeader} {body : List UInt8}
    (carries : frame.Carries own capacity header body) (later : header.first = false) :
    frame.IsQuiet own capacity :=
  ⟨carries.short, not_opens carries.read fun _ _ _ _ first =>
    absurd (later.symm.trans first) Bool.false_ne_true⟩

/-- A packet for the endpoint that is marked as the first one opens a message, if it has a type
and a source. -/
theorem takes_of_first {header : PacketHeader} {body : List UInt8}
    (carries : frame.Carries assembler.own capacity header body) (first : header.first = true) :
    assembler.Takes capacity frame
      ((assembler.receiveFirst header frame.source body).1.toOption.join,
        (assembler.receiveFirst header frame.source body).2) := by
  cases body with
  | nil =>
      exact .kept ⟨carries.short, not_opens carries.read fun _ _ none => nomatch none⟩
  | cons typ payload =>
      rw [receiveFirst]
      by_cases source : header.source = .any
      · rw [if_pos source]
        exact .kept ⟨carries.short, not_opens carries.read fun _ _ _ _ _ => source⟩
      · have taken := (Extends.opening carries first source).takes
        rw [if_neg source]
        rwa [PacketHeader.payloadIn, if_pos first] at taken

/-- Another packet for the endpoint is quiet, and continues the message in progress or breaks it
off if it belongs to it. -/
theorem takes_of_later {header : PacketHeader} {body : List UInt8}
    (carries : frame.Carries assembler.own capacity header body) (later : header.first = false) :
    assembler.Takes capacity frame
      ((assembler.receiveNext header body).1.toOption.join,
        (assembler.receiveNext header body).2) := by
  have quiet := quiet_of_later carries later
  rw [receiveNext]
  cases current : assembler.current with
  | none => exact .kept quiet
  | some part =>
      by_cases foreign : part.peer ≠ header.source ∨ part.tag ≠ header.tag
      · simp only [if_pos foreign]
        exact .kept quiet
      · simp only [if_neg foreign]
        obtain ⟨peer, tag⟩ := not_or.mp foreign
        by_cases sequence : header.sequence = part.sequence
        · have taken := (Extends.following current carries later (not_not.mp peer).symm
            (not_not.mp tag).symm sequence).takes
          rw [if_neg (not_not.mpr sequence)]
          rwa [PacketHeader.payloadIn, if_neg (by rw [later]; exact Bool.false_ne_true)] at taken
        · rw [if_pos sequence]
          exact .dropped

/-- Whatever packet arrives, it does one of these things. -/
theorem takes_of_taken (channel : Channel) (assembler : Assembler) (frame : Frame) :
    assembler.Takes channel.maxPacketSize frame (channel.taken assembler frame) := by
  by_cases long : channel.maxPacketSize < frame.contents.length
  · rw [Channel.taken, if_pos long]
    exact .dropped
  · have short := Nat.not_lt.mp long
    rw [Channel.taken, if_neg long]
    cases read : PacketHeader.parse frame.contents with
    | error error =>
        have shut : ¬ frame.Opens assembler.own channel.maxPacketSize := by
          rintro ⟨header, typ, payload, carries, -⟩
          cases read.symm.trans carries.read
        simp only [receiveBytes, read]
        exact .kept ⟨short, shut⟩
    | ok found =>
        obtain ⟨header, body⟩ := found
        simp only [receiveBytes, read]
        by_cases addressed : assembler.accepts header.destination = true
        · have carries : frame.Carries assembler.own channel.maxPacketSize header body :=
            ⟨short, read, by simpa [accepts] using addressed⟩
          rw [if_pos addressed]
          cases first : header.first with
          | true => exact takes_of_first carries first
          | false => exact takes_of_later carries first
        · rw [if_neg addressed]
          exact .kept ⟨short, not_opens read fun _ _ _ reaches _ =>
            absurd (by simpa [accepts] using reaches) addressed⟩

end Assembler

/-! ## What a packet does to the parts -/

variable {own : EndpointId} {capacity : Nat} {frames : List Frame} {frame : Frame}
  {source : EndpointId} {tag : Tag} {typ : UInt8} {data : List UInt8} {parts : List MessagePart}

/-- A frame that arrived stays at its place. -/
theorem getElem?_of_arrived (frame : Frame) {place : Nat} {found : Frame}
    (present : frames[place]? = some found) : (frames ++ [frame])[place]? = some found := by
  rw [List.getElem?_append_left (List.getElem?_eq_some_iff.mp present).1, present]

namespace Strand

/-- Each part of a strand stands at a place where a frame has arrived. -/
theorem place_lt (strand : Strand own capacity frames source tag typ data parts)
    {part : MessagePart} (member : part ∈ parts) : part.place < frames.length := by
  obtain ⟨frame, present, -⟩ := strand.arrived part member
  exact (List.getElem?_eq_some_iff.mp present).1

/-- Packets stay what they are when another one arrives. -/
theorem later_frame (strand : Strand own capacity frames source tag typ data parts)
    (frame : Frame) : Strand own capacity (frames ++ [frame]) source tag typ data parts where
  nonempty := strand.nonempty
  arrived part member := by
    obtain ⟨found, present, carries⟩ := strand.arrived part member
    exact ⟨found, getElem?_of_arrived frame present, carries⟩
  sourced := strand.sourced
  oneSource := strand.oneSource
  oneTag := strand.oneTag
  opening := strand.opening
  later := strand.later
  sequence := strand.sequence
  unfinished := strand.unfinished
  data_eq := strand.data_eq

/-- The packet that opens a message. -/
theorem single {header : PacketHeader} {code : UInt8} {payload : List UInt8}
    (carries : frame.Carries own capacity header (code :: payload))
    (first : header.first = true) (sourced : header.source ≠ .any) :
    Strand own capacity (frames ++ [frame]) header.source header.tag (code &&& 0x7f) payload
      [⟨frames.length, header, code :: payload⟩] where
  nonempty := by simp
  arrived part member := by
    rw [List.mem_singleton.mp member]
    exact ⟨frame, List.getElem?_concat_length, carries⟩
  sourced := sourced
  oneSource := by simp
  oneTag := by simp
  opening := by simp [first]
  later := by simp
  sequence := by simp
  unfinished := by simp
  data_eq := by simp [MessagePart.payload, PacketHeader.payloadIn, first]

/-- A packet that continues a message. -/
theorem concat (strand : Strand own capacity frames source tag typ data parts)
    (more : ∀ part ∈ parts, part.header.last = false) {header : PacketHeader} {body : List UInt8}
    (carries : frame.Carries own capacity header body) (later : header.first = false)
    (sameSource : header.source = source) (sameTag : header.tag = tag)
    (follows : ∀ part ∈ parts.getLast?,
      header.sequence = PacketHeader.nextSequence part.header.sequence) :
    Strand own capacity (frames ++ [frame]) source tag typ (data ++ body)
      (parts ++ [⟨frames.length, header, body⟩]) where
  nonempty := by simp
  arrived part member := by
    rcases List.mem_append.mp member with earlier | added
    · exact (strand.later_frame frame).arrived part earlier
    · rw [List.mem_singleton.mp added]
      exact ⟨frame, List.getElem?_concat_length, carries⟩
  sourced := strand.sourced
  oneSource part member := by
    rcases List.mem_append.mp member with earlier | added
    · exact strand.oneSource part earlier
    · rw [List.mem_singleton.mp added, sameSource]
  oneTag part member := by
    rcases List.mem_append.mp member with earlier | added
    · exact strand.oneTag part earlier
    · rw [List.mem_singleton.mp added, sameTag]
  opening := by
    rw [List.head?_append_of_ne_nil _ strand.nonempty]
    exact strand.opening
  later part member := by
    rw [List.tail_append_of_ne_nil strand.nonempty] at member
    rcases List.mem_append.mp member with earlier | added
    · exact strand.later part earlier
    · rw [List.mem_singleton.mp added, later]
  sequence := by
    refine List.isChain_append.mpr ⟨strand.sequence, List.isChain_singleton _, ?_⟩
    intro part isLast next isNext
    rw [List.head?_cons, Option.mem_some_iff] at isNext
    rw [← isNext]
    exact follows part isLast
  unfinished := by
    rw [List.dropLast_concat]
    exact more
  data_eq := by
    simp [strand.data_eq, MessagePart.payload, PacketHeader.payloadIn, later]

end Strand

/-- A message is made of the same packets when another one arrives. -/
theorem Message.MadeOf.later_frame {message : Message} {limit : Nat}
    (made : message.MadeOf own limit capacity frames parts) (frame : Frame) :
    message.MadeOf own limit capacity (frames ++ [frame]) parts where
  toStrand := made.toStrand.later_frame frame
  within := made.within
  closing := made.closing
  alone place found after before present := by
    obtain ⟨part, member, earlier⟩ := before
    rw [List.getElem?_append_left (Nat.lt_trans earlier (made.place_lt member))] at present
    exact made.alone place found after ⟨part, member, earlier⟩ present

/-- What is at a place after a further packet has arrived. -/
theorem getElem?_append_singleton {place : Nat} {found : Frame}
    (present : (frames ++ [frame])[place]? = some found) :
    frames[place]? = some found ∨ place = frames.length ∧ found = frame := by
  rcases Nat.lt_trichotomy place frames.length with before | here | beyond
  · rw [List.getElem?_append_left before] at present
    exact .inl present
  · subst here
    rw [List.getElem?_concat_length, Option.some.injEq] at present
    exact .inr ⟨rfl, present.symm⟩
  · have inside := (List.getElem?_eq_some_iff.mp present).1
    rw [List.length_append, List.length_singleton] at inside
    omega

/-- A quiet packet leaves the message in progress as it is. -/
theorem PartialMessage.MadeOf.quiet_frame {part : PartialMessage}
    (made : part.MadeOf own capacity frames parts) (quiet : frame.IsQuiet own capacity) :
    part.MadeOf own capacity (frames ++ [frame]) parts where
  toStrand := made.toStrand.later_frame frame
  next := made.next
  alone place found after present := by
    rcases getElem?_append_singleton present with earlier | ⟨-, rfl⟩
    · exact made.alone place found after earlier
    · exact quiet

namespace Assembler

variable {assembler : Assembler}

/-- The message in progress is made of these packets, and more are to come. -/
def Holds (assembler : Assembler) (capacity : Nat) (frames : List Frame)
    (parts : List MessagePart) : Prop :=
  match assembler.current with
  | none => parts = []
  | some part => part.MadeOf assembler.own capacity frames parts ∧
      ∀ other ∈ parts, other.header.last = false

/-- What a packet extends is made of the packets of the message in progress, or of none, and of
this one. -/
theorem Extends.madeOf {part : PartialMessage} {header : PacketHeader} {body : List UInt8}
    (extension : assembler.Extends capacity frame part header body)
    (holds : assembler.Holds capacity frames parts) :
    ∃ before, (before = [] ∨ before = parts) ∧ (∀ other ∈ before, other.header.last = false) ∧
      (grown part (header.payloadIn body)).MadeOf assembler.own capacity (frames ++ [frame])
        (before ++ [⟨frames.length, header, body⟩]) := by
  cases extension with
  | @opening _ code payload carries first sourced =>
      refine ⟨[], .inl rfl, by simp, ?_, by simp [grown], ?_⟩
      · rw [PacketHeader.payloadIn, if_pos first]
        exact .single carries first sourced
      · rintro place found ⟨other, only, before⟩ present
        rw [List.nil_append, List.mem_singleton] at only
        have beyond : frames.length < place := by rwa [only] at before
        have inside := (List.getElem?_eq_some_iff.mp present).1
        rw [List.length_append, List.length_singleton] at inside
        omega
  | following current carries later sameSource sameTag sequence =>
      rw [Holds, current] at holds
      obtain ⟨made, more⟩ := holds
      refine ⟨parts, .inr rfl, more, ?_, ?_, ?_⟩
      · rw [PacketHeader.payloadIn, if_neg (by rw [later]; exact Bool.false_ne_true)]
        exact made.concat more carries later sameSource sameTag fun other isLast =>
          sequence.trans (made.next other isLast)
      · simp [grown, sequence]
      · rintro place found ⟨other, member, before⟩ present
        rcases getElem?_append_singleton present with earlier | ⟨-, rfl⟩
        · rcases List.mem_append.mp member with part | added
          · exact made.alone place found ⟨other, part, before⟩ earlier
          · rw [List.mem_singleton.mp added] at before
            exact absurd (List.getElem?_eq_some_iff.mp earlier).1 (Nat.lt_asymm before)
        · exact quiet_of_later carries later

/-- A frame that begins no message leaves what an assembler holds. -/
theorem Holds.quiet_frame (holds : assembler.Holds capacity frames parts)
    (quiet : frame.IsQuiet assembler.own capacity) :
    assembler.Holds capacity (frames ++ [frame]) parts := by
  unfold Holds at holds ⊢
  cases current : assembler.current with
  | none =>
      rw [current] at holds
      exact holds
  | some part =>
      rw [current] at holds
      exact ⟨holds.1.quiet_frame quiet, holds.2⟩

/-- What is complete is a message made of its packets. -/
theorem madeOf_finish {part : PartialMessage} {limit : Nat} {before : List MessagePart}
    {last : MessagePart} (made : part.MadeOf own capacity frames (before ++ [last]))
    (ends : last.header.last = true) (within : part.data.length ≤ limit) :
    (finish part).MadeOf own limit capacity frames (before ++ [last]) where
  toStrand := made.toStrand
  within := within
  closing := by simp [ends]
  alone place frame after _ present := made.alone place frame after present

/-- A packet leaves a message in progress that is made of its packets, and completes a message
that is. Each packet is used once, the new one after the others. -/
theorem Takes.holds {taken : Option Message × Assembler}
    (takes : assembler.Takes capacity frame taken)
    (holds : assembler.Holds capacity frames parts) :
    taken.2.own = assembler.own ∧ taken.2.limit = assembler.limit ∧
      ∃ done rest, taken.2.Holds capacity (frames ++ [frame]) rest ∧
        List.Forall₂ (fun message parts => message.MadeOf assembler.own assembler.limit capacity
          (frames ++ [frame]) parts) taken.1.toList done ∧
        ((done.flatten ++ rest).map MessagePart.place).Sublist
          (parts.map MessagePart.place ++ [frames.length]) := by
  have places : ∀ {before : List MessagePart} (header : PacketHeader) (body : List UInt8),
      before = [] ∨ before = parts →
        ((before ++ [(⟨frames.length, header, body⟩ : MessagePart)]).map
          MessagePart.place).Sublist (parts.map MessagePart.place ++ [frames.length]) := by
    rintro before header body (rfl | rfl) <;> simp
  cases takes with
  | kept quiet =>
      exact ⟨rfl, rfl, [], parts, holds.quiet_frame quiet, .nil, by simp⟩
  | dropped => exact ⟨rfl, rfl, [], [], rfl, .nil, by simp⟩
  | @grew part header body extension more =>
      obtain ⟨before, origin, unfinished, made⟩ := extension.madeOf holds
      refine ⟨rfl, rfl, [], _, ⟨made, ?_⟩, .nil, places header body origin⟩
      intro other member
      rcases List.mem_append.mp member with earlier | added
      · exact unfinished other earlier
      · rw [List.mem_singleton.mp added, more]
  | @completed part header body extension last within =>
      obtain ⟨before, origin, unfinished, made⟩ := extension.madeOf holds
      refine ⟨rfl, rfl, [before ++ [⟨frames.length, header, body⟩]], [], rfl,
        .cons (madeOf_finish made last within) .nil, ?_⟩
      rw [List.flatten_singleton, List.append_nil]
      exact places header body origin

end Assembler

/-! ## Whole receptions -/

namespace Reception

variable (link : Link σ) (dispatch : Message → δ → Except ChannelError Unit × δ)
  {reception : Reception σ δ} {limit : Nat} {made : List (List MessagePart)}

/-- The messages that have been handed on are made of these packets, and the one in progress of
those. The packets stand in the order in which they arrived, and none is in two places. -/
structure Traced (own : EndpointId) (limit capacity : Nat) (made : List (List MessagePart))
    (parts : List MessagePart) (reception : Reception σ δ) : Prop where
  own_eq : reception.assembler.own = own
  limit_eq : reception.assembler.limit = limit
  capacity_eq : reception.channel.maxPacketSize = capacity
  untimed : reception.channel.Untimed
  messages : List.Forall₂
    (fun message parts => message.MadeOf own limit capacity reception.frames parts)
    reception.messages made
  holds : reception.assembler.Holds capacity reception.frames parts
  arrived : ∀ part ∈ made.flatten ++ parts, part.place < reception.frames.length
  ordered : ((made.flatten ++ parts).map MessagePart.place).Pairwise (· < ·)

/-- A packet keeps the record true. -/
theorem Traced.poll_of_frame {parts : List MessagePart}
    (traced : reception.Traced own limit capacity made parts) {timeout : Timeout} {frame : Frame}
    {medium : σ} (arrives : link.receive timeout reception.medium = (.ok frame, medium)) :
    ∃ made parts, (reception.poll link dispatch timeout).Traced own limit capacity made parts := by
  obtain ⟨kept, polled⟩ := Reception.poll_of_frame dispatch traced.untimed arrives
  have takes := Assembler.takes_of_taken reception.channel reception.assembler frame
  rw [traced.capacity_eq] at takes
  obtain ⟨sameOwn, sameLimit, done, rest, holds, completed, sublist⟩ := takes.holds traced.holds
  rw [traced.own_eq, traced.limit_eq] at completed
  have order : (((made ++ done).flatten ++ rest).map MessagePart.place).Sublist
      ((made.flatten ++ parts).map MessagePart.place ++ [reception.frames.length]) := by
    simp only [List.flatten_append, List.map_append, List.append_assoc] at sublist ⊢
    exact sublist.append_left _
  have earlier : ∀ place ∈ (made.flatten ++ parts).map MessagePart.place,
      place < reception.frames.length := by
    intro place member
    obtain ⟨part, among, rfl⟩ := List.mem_map.mp member
    exact traced.arrived part among
  rw [polled]
  refine ⟨made ++ done, rest, ?_⟩
  constructor
  · exact sameOwn.trans traced.own_eq
  · exact sameLimit.trans traced.limit_eq
  · exact traced.capacity_eq
  · exact traced.untimed
  · exact List.rel_append (traced.messages.imp fun _ _ made => made.later_frame frame) completed
  · exact holds
  · intro part member
    have place := order.subset (List.mem_map_of_mem member)
    rw [List.length_append, List.length_singleton]
    rcases List.mem_append.mp place with before | here
    · exact Nat.lt_succ_of_lt (earlier _ before)
    · rw [List.mem_singleton.mp here]
      exact Nat.lt_succ_self _
  · refine .sublist order
      (List.pairwise_append.mpr ⟨traced.ordered, List.pairwise_singleton _ _, ?_⟩)
    intro place member last here
    rw [List.mem_singleton.mp here]
    exact earlier place member

/-- Whatever is done next, the record stays true. -/
theorem Traced.next {parts : List MessagePart}
    (traced : reception.Traced own limit capacity made parts) (step : ReceptionStep) :
    ∃ made parts, (reception.next link dispatch step).Traced own limit capacity made parts := by
  cases step with
  | poll timeout =>
      cases arrives : link.receive timeout reception.medium with
      | mk answer medium =>
          cases answer with
          | ok frame => exact traced.poll_of_frame link dispatch arrives
          | error error =>
              refine ⟨made, parts, ?_⟩
              rw [Reception.next, poll_of_failure dispatch arrives]
              exact { traced with }
  | resetOverflow => exact ⟨made, parts, { traced with }⟩

/-- The channel is marked exactly if a packet has been too long since the mark was cleared. -/
structure Marked (reception : Reception σ δ) : Prop where
  cleared_le : reception.cleared ≤ reception.frames.length
  overflow_iff : reception.channel.overflow = true ↔
    ∃ frame ∈ reception.frames.drop reception.cleared,
      reception.channel.maxPacketSize < frame.contents.length

/-- One more step keeps the mark of what was too long exact. -/
theorem Marked.next (untimed : reception.channel.Untimed) (marked : reception.Marked)
    (step : ReceptionStep) : (reception.next link dispatch step).Marked := by
  cases step with
  | poll timeout =>
      cases arrives : link.receive timeout reception.medium with
      | mk answer medium =>
          cases answer with
          | error error =>
              rw [Reception.next, poll_of_failure dispatch arrives]
              exact { marked with }
          | ok frame =>
              obtain ⟨kept, polled⟩ := Reception.poll_of_frame dispatch untimed arrives
              rw [Reception.next, polled]
              constructor
              · rw [List.length_append]
                exact Nat.le_add_right_of_le marked.cleared_le
              · rw [List.drop_append_of_le_length marked.cleared_le]
                simp [Channel.noting, marked.overflow_iff, or_and_right, exists_or]
  | resetOverflow =>
      constructor
      · exact Nat.le_refl _
      · simp [Reception.next, Channel.resetOverflow]

/-- Whatever is done, the record stays true. -/
theorem Traced.run {parts : List MessagePart}
    (traced : reception.Traced own limit capacity made parts) (marked : reception.Marked)
    (steps : List ReceptionStep) :
    (reception.run link dispatch steps).Marked ∧
      ∃ made parts, (reception.run link dispatch steps).Traced own limit capacity made parts := by
  induction steps generalizing reception made parts with
  | nil => exact ⟨marked, made, parts, traced⟩
  | cons step rest ih =>
      obtain ⟨made, parts, after⟩ := traced.next link dispatch step
      exact ih after (marked.next link dispatch traced.untimed step)

end Reception

/-- Whatever arrives at a channel, each message that is handed on is made of packets that have
arrived, in their order, and each packet belongs to one message at most. The channel is marked if
and only if a packet has been too long since the mark was last cleared. -/
theorem messages_are_made_of_packets (link : Link σ)
    (dispatch : Message → δ → Except ChannelError Unit × δ) (channel : Channel)
    (untimed : channel.Untimed) (unmarked : channel.overflow = false) (own : EndpointId)
    (limit : Nat) (medium : σ) (kept : δ) (steps : List ReceptionStep) :
    let last := Reception.run link dispatch
      { channel, assembler := { own, limit }, medium, kept } steps
    (∃ made, List.Forall₂
        (fun message parts => message.MadeOf own limit channel.maxPacketSize last.frames parts)
        last.messages made ∧
      (made.flatten.map MessagePart.place).Pairwise (· < ·)) ∧
      (last.channel.overflow = true ↔
        ∃ frame ∈ last.frames.drop last.cleared,
          channel.maxPacketSize < frame.contents.length) := by
  let fresh : Reception σ δ := { channel, assembler := { own, limit }, medium, kept }
  have traced : fresh.Traced own limit channel.maxPacketSize [] [] :=
    ⟨rfl, rfl, rfl, untimed, .nil, rfl, by simp, .nil⟩
  have marked : fresh.Marked := ⟨Nat.le_refl _, by simp [fresh, unmarked]⟩
  obtain ⟨⟨-, overflow⟩, made, parts, after⟩ := traced.run link dispatch marked steps
  rw [after.capacity_eq] at overflow
  refine ⟨⟨made, after.messages, ?_⟩, overflow⟩
  have ordered := after.ordered
  rw [List.map_append] at ordered
  exact (List.pairwise_append.mp ordered).1

/-! ## A disturbed message -/

namespace Disturbance

/-- A channel with packets of up to eight bytes. -/
def channel : Channel := { maxPacketSize := 8, size_gt := by decide, size_le := by decide }

/-- The bytes of a packet from the endpoint 5 for the endpoint 9. -/
def packet (flags : UInt8) (body : List UInt8) : Frame := ⟨48, [1, 9, 5, flags] ++ body⟩

/-- The two packets of a message, between them one for another endpoint, one from another one, one
without a type and one of an unknown version. A packet that is too long ends the next message. -/
def arriving : List Frame :=
  [packet 0x80 [1, 7], ⟨48, [1, 10, 5, 0x80, 1]⟩, ⟨48, [1, 9, 6, 0x50, 3]⟩, packet 0x80 [],
    ⟨48, [2, 9, 5, 0x80, 1]⟩, packet 0x50 [8], packet 0x80 [1, 9], packet 0x50 [1, 2, 3, 4, 5],
    packet 0x50 [10]]

/-- What has become of the packets when all have been looked at, and the mark was cleared after the
first of them. -/
def last : Reception Recorder Unit :=
  Reception.run Recorder.link (fun _ _ => (.ok (), ()))
    { channel, assembler := { own := ⟨9⟩, limit := 2 }, medium := { inbox := arriving }, kept := () }
    (.poll .poll :: .resetOverflow :: List.replicate 9 (.poll .poll))

end Disturbance

/-- The message is made of its two packets, and the channel is marked. -/
theorem disturbed_message_is_made_of_its_packets :
    Disturbance.channel.packetTimeout = none ∧ Disturbance.channel.overflow = false ∧
      Disturbance.last.messages =
        [{ data := [7, 8], address := 48, packetSize := 2, endpoint := ⟨5⟩, typ := managementType,
            tag := ⟨0, false⟩ }] ∧
      (∃ made, List.Forall₂ (fun message parts => message.MadeOf ⟨9⟩ 2 8 Disturbance.arriving parts)
        Disturbance.last.messages made) ∧
      Disturbance.last.channel.overflow = true := by
  have handedOn : Disturbance.last.messages =
      [{ data := [7, 8], address := 48, packetSize := 2, endpoint := ⟨5⟩, typ := managementType,
          tag := ⟨0, false⟩ }] := by decide
  have arrived : Disturbance.last.frames = Disturbance.arriving := by decide
  obtain ⟨⟨made, parts, -⟩, marked⟩ :=
    messages_are_made_of_packets Recorder.link (fun _ _ => (.ok (), ())) Disturbance.channel rfl rfl
      ⟨9⟩ 2 { inbox := Disturbance.arriving } ()
      (.poll .poll :: .resetOverflow :: List.replicate 9 (.poll .poll))
  refine ⟨rfl, rfl, handedOn, ⟨made, ?_⟩, ?_⟩
  · exact arrived ▸ parts
  · exact marked.mpr ⟨Disturbance.packet 0x50 [1, 2, 3, 4, 5], by decide, by decide⟩

end FirmwareUpdate
