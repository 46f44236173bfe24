import FirmwareUpdate.Channel.Recorder

/-!
# The packets of a message

A header is read as it was written. A message that a channel takes becomes packets that the
channel sends, all of them: the pieces of its type and data, each behind a header that says
where in the message it belongs.
-/

namespace FirmwareUpdate

namespace PacketHeader

/-- Sequence number and tag have room in a header. -/
def Fits (header : PacketHeader) : Prop :=
  header.sequence < 4 ∧ header.tag.number ≤ maxTag

/-- What is packed into the last byte of a header can be told apart. -/
private theorem flags_eq : ∀ (first last owned : Bool) (sequence : Fin 4) (number : Fin 8),
    let flags := mark first 0x80 ||| mark last 0x40 |||
      ((UInt8.ofNat sequence &&& 0x03) <<< 4) ||| mark owned 0x08 |||
      (UInt8.ofNat number &&& maxTag)
    (flags &&& 0x80 != 0) = first ∧ (flags &&& 0x40 != 0) = last ∧
      (flags >>> 4) &&& 0x03 = UInt8.ofNat sequence ∧ flags &&& maxTag = UInt8.ofNat number ∧
      (flags &&& 0x08 != 0) = owned := by
  decide +kernel

/-- A header comes back from its bytes, whatever follows it. -/
theorem parse_toBytes {header : PacketHeader} (fits : header.Fits) (payload : List UInt8) :
    parse (header.toBytes ++ payload) = .ok (header, payload) := by
  obtain ⟨destination, source, first, last, sequence, number, owned⟩ := header
  obtain ⟨small, tagged⟩ := fits
  have sequenceOf : UInt8.ofNat sequence.toNat = sequence := UInt8.ofNat_toNat
  have numberOf : UInt8.ofNat number.toNat = number := UInt8.ofNat_toNat
  have known := flags_eq first last owned ⟨sequence.toNat, small⟩
    ⟨number.toNat, Nat.lt_succ_of_le tagged⟩
  simp only [sequenceOf, numberOf] at known
  obtain ⟨isFirst, isLast, sequenceRead, numberRead, ownedRead⟩ := known
  simp only [toBytes, List.cons_append, List.nil_append, parse, flags, isFirst, isLast,
    sequenceRead, numberRead, ownedRead]
  rfl

/-- Packets are numbered modulo four. -/
theorem nextSequence_ofNat (index : Nat) :
    nextSequence (UInt8.ofNat (index % 4)) = UInt8.ofNat ((index + 1) % 4) := by
  have known : ∀ place : Fin 4, nextSequence (UInt8.ofNat place) =
      UInt8.ofNat ((place + 1) % 4) := by decide
  have small : index % 4 < 4 := Nat.mod_lt _ (by decide)
  rw [known ⟨index % 4, small⟩, Nat.mod_add_mod]

end PacketHeader

/-- Pieces are no longer than their size. -/
theorem length_of_mem_pieces {α : Type} {size : Nat} (some : 0 < size) {list piece : List α}
    (member : piece ∈ pieces size list) : piece.length ≤ size := by
  fun_induction pieces size list with
  | case1 => cases member
  | case2 head tail ih =>
      rcases List.mem_cons.mp member with rfl | later
      · rw [List.length_cons, List.length_take]
        omega
      · exact ih later

/-- A channel takes the message: header and packets have room for what is in it. -/
structure Message.Fits (message : Message) : Prop where
  tag : message.tag.number ≤ maxTag
  typ : message.typ &&& 0x80 = 0
  room : message.packetSize ≠ 1

instance (message : Message) : Decidable message.Fits :=
  decidable_of_iff (message.tag.number ≤ maxTag ∧ message.typ &&& 0x80 = 0 ∧
    message.packetSize ≠ 1) ⟨fun ⟨tag, typ, room⟩ => ⟨tag, typ, room⟩,
      fun fits => ⟨fits.tag, fits.typ, fits.room⟩⟩

/-- A channel can carry the message: header and packets have room for what is in it, and an
endpoint sends it. -/
structure Message.Sendable (message : Message) (source : EndpointId) : Prop where
  tag : message.tag.number ≤ maxTag
  typ : message.typ &&& 0x80 = 0
  room : message.packetSize ≠ 1
  source : source ≠ .any

namespace Message

variable {message : Message} {source : EndpointId}

/-- A message that may be sent fits a channel. -/
theorem Sendable.fits (sendable : message.Sendable source) : message.Fits :=
  ⟨sendable.tag, sendable.typ, sendable.room⟩

/-- The header of a packet can be written where the tag is in range. -/
theorem header_fits (tag : message.tag.number ≤ maxTag) (source : EndpointId) (count index : Nat)
    (payload : List UInt8) : (message.fragment source count index payload).header.Fits := by
  refine ⟨?_, tag⟩
  show UInt8.ofNat (index % 4) < 4
  have small : index % 4 < 4 := Nat.mod_lt _ (by decide)
  rw [UInt8.lt_iff_toNat_lt, UInt8.toNat_ofNat_of_lt' (Nat.lt_trans small (by decide))]
  exact small

/-- The packet with this piece of the message. -/
def packet (message : Message) (source : EndpointId) (count index : Nat) (piece : List UInt8) :
    List UInt8 :=
  (message.fragment source count index piece).toBytes

/-- The packets with these pieces of the message, the first of them at `index`. -/
def packetsFrom (message : Message) (source : EndpointId) (count index : Nat)
    (pieces : List (List UInt8)) : List (List UInt8) :=
  pieces.mapIdx fun later => message.packet source count (index + later)

/-- The packets of a message are made piece by piece. -/
@[simp] theorem packetsFrom_cons (message : Message) (source : EndpointId) (count index : Nat)
    (piece : List UInt8) (rest : List (List UInt8)) :
    message.packetsFrom source count index (piece :: rest) =
      message.packet source count index piece ::
        message.packetsFrom source count (index + 1) rest := by
  have shift : (fun later => message.packet source count (index + (later + 1))) =
      fun later => message.packet source count (index + 1 + later) := by
    funext later
    rw [show index + (later + 1) = index + 1 + later by omega]
  unfold packetsFrom
  rw [List.mapIdx_cons, shift, Nat.add_zero]

/-- Some piece of the message in each packet, the pieces in order. -/
theorem map_toBytes_fragments (message : Message) (source : EndpointId) (room : Nat) :
    (message.fragments source room).map Fragment.toBytes =
      let payloads := pieces (pieceSize room) (message.typ :: message.data)
      message.packetsFrom source payloads.length 0 payloads := by
  unfold fragments packetsFrom
  dsimp only
  rw [List.mapIdx_eq_zipIdx_map, List.map_map, List.mapIdx_eq_zipIdx_map]
  simp [Function.comp_def, packet]

/-- Each packet carries one of the pieces, at its place. -/
theorem mem_packetsFrom {count index : Nat} {pieces : List (List UInt8)} {packet : List UInt8}
    (member : packet ∈ message.packetsFrom source count index pieces) :
    ∃ later piece, packet = message.packet source count (index + later) piece := by
  obtain ⟨later, inside, rfl⟩ := List.mem_mapIdx.mp member
  exact ⟨later, _, rfl⟩

/-- A packet is not longer than its header and the room after it. -/
theorem length_of_mem_fragments {room : Nat} (some : 0 < room) {fragment : Fragment}
    (member : fragment ∈ message.fragments source room) :
    0 < fragment.toBytes.length ∧ fragment.toBytes.length ≤ packetHeaderSize + room := by
  obtain ⟨index, inside, rfl⟩ := List.mem_mapIdx.mp member
  have size : pieceSize room ≤ room := Nat.min_le_left _ _
  have positive : 0 < pieceSize room := by
    unfold pieceSize packetCapacity packetHeaderSize
    omega
  have short := length_of_mem_pieces positive (List.getElem_mem inside)
  simp only [Fragment.toBytes, PacketHeader.toBytes, List.length_append, List.length_cons,
    List.length_nil, packetHeaderSize, fragment]
  omega

end Message

namespace Channel

variable {channel : Channel} {message : Message} {source : EndpointId}

/-- The bytes of message in each packet of a message that can be carried. -/
def pieceSize (channel : Channel) (message : Message) : Nat :=
  Message.pieceSize (channel.roomFor message)

/-- A message that fits is given room for at least two bytes, and no more than the channel has. -/
theorem roomFor_bounds (channel : Channel) (fits : message.Fits) :
    2 ≤ channel.roomFor message ∧
      packetHeaderSize + channel.roomFor message ≤ channel.maxPacketSize := by
  have lower := channel.size_gt
  have room := fits.room
  unfold roomFor maxPayload
  split <;> omega

/-- A map that never fails is a plain one. -/
private theorem mapM_eq_ok {α β ε : Type} {f : α → Except ε β} {g : α → β} {list : List α}
    (gives : ∀ element ∈ list, f element = .ok (g element)) :
    list.mapM f = .ok (list.map g) := by
  induction list with
  | nil => rfl
  | cons head tail ih =>
      rw [List.mapM_cons, gives head List.mem_cons_self,
        ih fun element member => gives element (List.mem_cons_of_mem _ member)]
      rfl

/-- Every fragment of a message that is taken fits a packet. -/
theorem packetsOf_eq (channel : Channel) (fits : message.Fits) (source : EndpointId) :
    channel.packetsOf message source =
      .ok ((message.fragments source (channel.roomFor message)).map Fragment.toBytes) := by
  obtain ⟨lower, upper⟩ := channel.roomFor_bounds fits
  have tagged : ¬ maxTag < message.tag.number := UInt8.not_lt.mpr fits.tag
  have taken : message.fragments? source (channel.roomFor message) =
      .ok (message.fragments source (channel.roomFor message)) := by
    unfold Message.fragments?
    rw [if_neg]
    simp [tagged, fits.typ]
    omega
  unfold packetsOf
  rw [taken]
  refine mapM_eq_ok fun fragment member => ?_
  have length := Message.length_of_mem_fragments (Nat.zero_lt_of_lt lower) member
  rw [validateSize, if_neg (by omega)]
  rfl

/-- A message that is not taken has no packets. -/
theorem packetsOf_of_unfit (channel : Channel) (unfit : ¬ message.Fits) (source : EndpointId) :
    channel.packetsOf message source = .error .invalidArgument := by
  have refused : message.fragments? source (channel.roomFor message) =
      .error .invalidArgument := by
    refine if_pos ?_
    rw [Bool.or_eq_true, Bool.or_eq_true]
    by_cases tag : maxTag < message.tag.number
    · exact .inl (.inl (decide_eq_true tag))
    · by_cases typ : message.typ &&& 0x80 = 0
      · have narrow : message.packetSize = 1 := by
          by_cases room : message.packetSize = 1
          · exact room
          · exact absurd ⟨UInt8.not_lt.mp tag, typ, room⟩ unfit
        refine .inr (decide_eq_true ?_)
        rw [roomFor, narrow, if_neg Nat.one_ne_zero]
        omega
      · exact .inl (.inr (by simpa using typ))
  rw [packetsOf, refused]
  rfl

/-- The contents of the packets that a channel sends for a message. -/
def sent (channel : Channel) (message : Message) (source : EndpointId) : List (List UInt8) :=
  (channel.sendMessage Recorder.link message source {}).2.sent.reverse.map Prod.fst

/-- A recorder takes every packet, and remembers the last one first. -/
theorem sendAll_recorder (address : UInt8) (packets : List (List UInt8)) (recorder : Recorder) :
    sendAll Recorder.link address packets recorder =
      (.ok (), { recorder with
        sent := (packets.map fun packet => (packet, address)).reverse ++ recorder.sent }) := by
  induction packets generalizing recorder with
  | nil => rfl
  | cons packet rest ih =>
      unfold sendAll
      simp only [Recorder.link, Recorder.send]
      rw [show ({ send := Recorder.send, receive := Recorder.receive, now := fun _ => 0 } :
        Link Recorder) = Recorder.link from rfl, ih]
      simp

/-- A message that is taken is sent, in packets with its pieces. -/
theorem sent_eq (channel : Channel) (fits : message.Fits) (source : EndpointId) :
    channel.sent message source =
      let payloads := pieces (channel.pieceSize message) (message.typ :: message.data)
      message.packetsFrom source payloads.length 0 payloads := by
  unfold sent sendMessage
  rw [channel.packetsOf_eq fits]
  dsimp only
  rw [sendAll_recorder, message.map_toBytes_fragments]
  simp [pieceSize, Function.comp_def]

/-- A message that is taken has packets: at least the one with its type. -/
theorem sent_ne_nil (channel : Channel) (fits : message.Fits) (source : EndpointId) :
    channel.sent message source ≠ [] := by
  rw [channel.sent_eq fits, pieces, Message.packetsFrom_cons]
  exact List.cons_ne_nil _ _

/-- A channel sends no packet that is longer than its limit. -/
theorem length_of_mem_sent (channel : Channel) (fits : message.Fits) {packet : List UInt8}
    (member : packet ∈ channel.sent message source) :
    packet.length ≤ channel.maxPacketSize := by
  obtain ⟨lower, upper⟩ := channel.roomFor_bounds fits
  have packets := channel.sent_eq fits source
  rw [pieceSize, ← message.map_toBytes_fragments] at packets
  rw [packets] at member
  obtain ⟨fragment, among, rfl⟩ := List.mem_map.mp member
  have length := Message.length_of_mem_fragments (Nat.zero_lt_of_lt lower) among
  omega

/-- The packets of a message that fits are those that it is cut into. -/
theorem packetsOf_eq_sent (channel : Channel) (fits : message.Fits) (source : EndpointId) :
    channel.packetsOf message source = .ok (channel.sent message source) := by
  rw [channel.packetsOf_eq fits, channel.sent_eq fits, message.map_toBytes_fragments]
  rfl

end Channel

end FirmwareUpdate
