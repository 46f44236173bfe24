import Mathlib.Algebra.Order.Floor.Div
import Mathlib.Data.Nat.Bitwise
import FirmwareUpdate.Channel.Fragmenter
import FirmwareUpdate.Proofs.Channel.Packets

/-!
# How a message is cut

A message of `n` bytes of data takes as many packets as there are pieces of the given size in
`n + 1` bytes, all but the last of them full. A fragmenter makes exactly these packets, one with
each call, and none after them (`Fragmenter.Yields`); they are the ones that `Message.fragments?`
lists at once. So a channel never meets a packet of a message that is too long for it.
-/

namespace FirmwareUpdate

/-! ## Pieces -/

section Pieces

variable {α : Type} {size : Nat}

/-- The first piece is cut off, and the rest is cut up. -/
theorem pieces_of_ne_nil (some : 0 < size) {list : List α} (nonempty : list ≠ []) :
    pieces size list = list.take size :: pieces size (list.drop size) := by
  obtain ⟨head, tail, rfl⟩ := List.exists_cons_of_ne_nil nonempty
  obtain ⟨smaller, rfl⟩ := Nat.exists_eq_add_of_lt some
  simp [pieces]

/-- There are as many pieces as the size goes into the length, rounded up. -/
theorem length_pieces (some : 0 < size) (list : List α) :
    (pieces size list).length = list.length ⌈/⌉ size := by
  fun_induction pieces size list with
  | case1 => simp
  | case2 head tail ih =>
      rw [List.length_cons, ih, Nat.ceilDiv_eq_add_pred_div, Nat.ceilDiv_eq_add_pred_div,
        List.length_drop, List.length_cons]
      by_cases short : tail.length < size
      · have none : tail.length - (size - 1) + size - 1 < size := by omega
        have once : (tail.length + 1 + size - 1) / size = 1 :=
          Nat.div_eq_of_lt_le (by omega) (by omega)
        rw [Nat.div_eq_of_lt none, once]
      · rw [show tail.length + 1 + size - 1 = tail.length - (size - 1) + size - 1 + size by omega,
          Nat.add_div_right _ some]

/-- All pieces but the last are full. -/
theorem length_of_mem_dropLast_pieces (some : 0 < size) {list piece : List α}
    (member : piece ∈ (pieces size list).dropLast) : piece.length = size := by
  fun_induction pieces size list with
  | case1 => cases member
  | case2 head tail ih =>
      cases later : tail.drop (size - 1) with
      | nil =>
          rw [later] at member
          simp [pieces] at member
      | cons next rest =>
          have long := congrArg List.length later
          rw [List.length_drop, List.length_cons] at long
          have more : pieces size (tail.drop (size - 1)) ≠ [] := by
            rw [later, pieces]
            exact List.cons_ne_nil _ _
          rw [List.dropLast_cons_of_ne_nil more] at member
          rcases List.mem_cons.mp member with rfl | among
          · rw [List.length_cons, List.length_take]
            omega
          · exact ih among

end Pieces

/-! ## Calls of a fragmenter -/

/-- Data within the capacity make a packet. -/
theorem Packet.of?_eq_ok {data : List UInt8} (fits : data.length ≤ packetCapacity)
    (address : UInt8) : of? data address = .ok { data, address, size_le := fits } :=
  dif_pos fits

namespace Message

/-- Room for two bytes is room for some data. -/
theorem pieceSize_pos {room : Nat} (enough : 2 ≤ room) : 0 < pieceSize room := by
  unfold pieceSize packetCapacity packetHeaderSize
  omega

/-- A packet is its header and its piece. -/
theorem length_packet (message : Message) (source : EndpointId) (count index : Nat)
    (piece : List UInt8) :
    (message.packet source count index piece).length = packetHeaderSize + piece.length := by
  simp [packet, fragment, Fragment.toBytes, PacketHeader.toBytes, packetHeaderSize]
  omega

end Message

namespace Fragmenter

variable {fragmenter : Fragmenter} {index : Nat}

/-- The calls make these packets, one after the other, and then none any more. -/
inductive Yields : Fragmenter → List Packet → Prop where
  | ended {fragmenter : Fragmenter} (none : fragmenter.next = (.ok none, fragmenter)) :
      Yields fragmenter []
  | made {fragmenter after : Fragmenter} {packet : Packet} {packets : List Packet}
      (next : fragmenter.next = (.ok (some packet), after)) (later : Yields after packets) :
      Yields fragmenter (packet :: packets)

/-- Each call makes the packet that is due, and those beyond the last one make none. -/
theorem Yields.call {packets : List Packet} (yields : fragmenter.Yields packets) (calls : Nat) :
    (fragmenter.after calls).next.1 = .ok packets[calls]? := by
  induction yields generalizing calls with
  | @ended fragmenter none =>
      have stays : fragmenter.after calls = fragmenter := by
        induction calls with
        | zero => rfl
        | succ calls ih => rw [after, none, ih]
      rw [stays, none, List.getElem?_nil]
  | made next _ ih =>
      cases calls with
      | zero => rw [after, next, List.getElem?_cons_zero]
      | succ calls => rw [after, next, ih, List.getElem?_cons_succ]

/-- What has still to go into packets: the type, before the first of them, and data. -/
def left (fragmenter : Fragmenter) : List UInt8 :=
  fragmenter.front ++ fragmenter.message.data.drop fragmenter.used

/-- The fragmenter has made `index` packets, and is done once nothing is left. -/
structure Stands (fragmenter : Fragmenter) (index : Nat) : Prop where
  sequence : fragmenter.sequence = UInt8.ofNat (index % 4)
  first : fragmenter.first = decide (index = 0)
  inside : fragmenter.used ≤ fragmenter.message.data.length
  done : fragmenter.done = fragmenter.left.isEmpty

/-- Nothing left gives no packet, and changes nothing. -/
theorem next_of_empty (stands : fragmenter.Stands index) (empty : fragmenter.left = []) :
    fragmenter.next = (.ok none, fragmenter) := by
  have done : fragmenter.done = true := by rw [stands.done, empty, List.isEmpty_nil]
  exact if_pos done

/-- The bytes of message in each packet but the last. -/
def size (fragmenter : Fragmenter) : Nat := Message.pieceSize fragmenter.room

/-- The type byte is all that comes before the data. -/
theorem length_front_le (fragmenter : Fragmenter) : fragmenter.front.length ≤ 1 := by
  unfold front
  split <;> simp

/-- A portion is never more than is left of the data. -/
theorem length_portion_le (fragmenter : Fragmenter) :
    fragmenter.portion.length ≤ fragmenter.message.data.length - fragmenter.used := by
  rw [portion, List.length_take, List.length_drop]
  exact Nat.min_le_right _ _

/-- The next packet holds the first piece of what is left. -/
theorem front_append_portion (some : 0 < fragmenter.size) :
    fragmenter.front ++ fragmenter.portion = fragmenter.left.take fragmenter.size := by
  have front := fragmenter.length_front_le
  rw [left, List.take_append, List.take_of_length_le (by omega), portion, size]

/-- After it, the rest is left. -/
theorem left_moved (some : 0 < fragmenter.size) :
    fragmenter.moved.left = fragmenter.left.drop fragmenter.size := by
  have front := fragmenter.length_front_le
  have rest : fragmenter.left.drop fragmenter.size =
      (fragmenter.message.data.drop fragmenter.used).drop
        (fragmenter.size - fragmenter.front.length) := by
    rw [left, List.drop_append, List.drop_of_length_le (Nat.le_trans front some), List.nil_append]
  have portion : fragmenter.portion = (fragmenter.message.data.drop fragmenter.used).take
      (fragmenter.size - fragmenter.front.length) := rfl
  have moved : fragmenter.moved.left = (fragmenter.message.data.drop fragmenter.used).drop
      fragmenter.portion.length := by
    rw [List.drop_drop]
    rfl
  rw [rest, moved, portion]
  generalize fragmenter.message.data.drop fragmenter.used = data
  by_cases short : data.length ≤ fragmenter.size - fragmenter.front.length
  · rw [List.take_of_length_le short, List.drop_length, List.drop_of_length_le short]
  · rw [List.length_take_of_le (Nat.le_of_not_le short)]

/-- The next packet is the last one if nothing is left after it. -/
theorem isLast_eq (inside : fragmenter.used ≤ fragmenter.message.data.length) :
    fragmenter.isLast = fragmenter.moved.left.isEmpty := by
  have moved : fragmenter.moved.left =
      fragmenter.message.data.drop (fragmenter.used + fragmenter.portion.length) := rfl
  have within := fragmenter.length_portion_le
  rw [Bool.eq_iff_iff, moved, List.isEmpty_iff, List.drop_eq_nil_iff, isLast, beq_iff_eq]
  omega

/-- After a packet the fragmenter stands one further. -/
theorem Stands.moved (stands : fragmenter.Stands index) : fragmenter.moved.Stands (index + 1) where
  sequence := by
    show PacketHeader.nextSequence fragmenter.sequence = _
    rw [stands.sequence, PacketHeader.nextSequence_ofNat]
  first := rfl
  inside := by
    have within := fragmenter.length_portion_le
    have inside := stands.inside
    show fragmenter.used + fragmenter.portion.length ≤ fragmenter.message.data.length
    omega
  done := isLast_eq stands.inside

/-- A call makes a packet of the first piece, as long as something is left. -/
theorem next_of_left (stands : fragmenter.Stands index) (some : 0 < fragmenter.size)
    (nonempty : fragmenter.left ≠ []) {count : Nat}
    (places : index + (pieces fragmenter.size fragmenter.left).length = count) :
    ∃ packet : Packet, fragmenter.next = (.ok packet, fragmenter.moved) ∧
      packet.data = fragmenter.message.packet fragmenter.source count index
        (fragmenter.left.take fragmenter.size) ∧
      packet.address = fragmenter.message.address ∧ packet.state = .valid ∧
        packet.deadline = none := by
  have unfinished : fragmenter.done = false := by simpa [stands.done] using nonempty
  have last : fragmenter.isLast = decide (index + 1 = count) := by
    rw [isLast_eq stands.inside, left_moved some, Bool.eq_iff_iff, List.isEmpty_iff,
      decide_eq_true_iff, ← places, pieces_of_ne_nil some nonempty, List.length_cons]
    constructor
    · intro none
      rw [none, pieces, List.length_nil]
    · intro none
      by_contra more
      rw [pieces_of_ne_nil some more, List.length_cons] at none
      omega
  have contents : fragmenter.contents = fragmenter.message.packet fragmenter.source count index
      (fragmenter.left.take fragmenter.size) := by
    rw [Fragmenter.contents, front_append_portion some, header, last, stands.first,
      stands.sequence]
    rfl
  have fits : fragmenter.contents.length ≤ packetCapacity := by
    have upper : fragmenter.size ≤ packetCapacity - packetHeaderSize := Nat.min_le_right _ _
    rw [contents, Message.length_packet, List.length_take]
    unfold packetCapacity packetHeaderSize at *
    omega
  refine ⟨{ data := fragmenter.contents, address := fragmenter.message.address, size_le := fits },
    ?_, contents, rfl, rfl, rfl⟩
  rw [next, unfinished, Packet.of?_eq_ok fits]
  rfl

/-- The calls make packets of all pieces of what is left. -/
theorem Stands.yields (stands : fragmenter.Stands index) (some : 0 < fragmenter.size)
    {count : Nat} (places : index + (pieces fragmenter.size fragmenter.left).length = count) :
    ∃ packets, fragmenter.Yields packets ∧
      packets.map Packet.data = fragmenter.message.packetsFrom fragmenter.source count index
        (pieces fragmenter.size fragmenter.left) ∧
      ∀ packet ∈ packets, packet.address = fragmenter.message.address ∧ packet.state = .valid ∧
        packet.deadline = none := by
  generalize remains : fragmenter.left.length = remaining
  induction remaining using Nat.strong_induction_on generalizing fragmenter index with
  | _ remaining ih =>
      by_cases empty : fragmenter.left = []
      · refine ⟨[], .ended (next_of_empty stands empty), ?_, nofun⟩
        rw [empty, pieces]
        rfl
      · obtain ⟨packet, made, data, fresh⟩ := next_of_left stands some empty places
        rw [pieces_of_ne_nil some empty, List.length_cons] at places
        rw [pieces_of_ne_nil some empty, Message.packetsFrom_cons]
        have left : fragmenter.moved.left = fragmenter.left.drop fragmenter.size := left_moved some
        have shorter : fragmenter.moved.left.length < remaining := by
          have positive := List.length_pos_iff.mpr empty
          rw [left, List.length_drop]
          omega
        obtain ⟨packets, later, rest, others⟩ := ih _ shorter stands.moved some
          (by rw [left]; show index + 1 + (pieces fragmenter.size _).length = count; omega) rfl
        refine ⟨packet :: packets, .made made later, ?_, ?_⟩
        · rw [left] at rest
          rw [List.map_cons, data, rest]
          rfl
        · intro other member
          rcases List.mem_cons.mp member with rfl | among
          · exact fresh
          · exact others other among

end Fragmenter

/-! ## The packets of a message -/

/-- The packets are those of the message, each with up to `size` bytes of it. -/
structure Message.CutInto (message : Message) (source : EndpointId) (size : Nat)
    (packets : List Packet) : Prop where
  length_eq : packets.length = max 1 ((message.data.length + 1) ⌈/⌉ size)
  short : ∀ packet ∈ packets, packet.data.length ≤ packetHeaderSize + size
  full : ∀ packet ∈ packets.dropLast, packet.data.length = packetHeaderSize + size
  ready : ∀ packet ∈ packets, packet.address = message.address ∧ packet.state = .valid ∧
    packet.deadline = none
  /-- The headers say where in the message the packets belong. The first packet has the type
  before its portion of the data. -/
  read : ∃ portions : List (List UInt8), portions.length = packets.length ∧
    portions.flatten = message.data ∧
    ∀ index packet portion, packets[index]? = some packet → portions[index]? = some portion →
      PacketHeader.parse packet.data = .ok
        ({ destination := message.endpoint
           source
           first := index = 0
           last := index + 1 = packets.length
           sequence := UInt8.ofNat (index % 4)
           tag := message.tag },
          if index = 0 then message.typ :: portion else portion)

namespace Message

variable {message : Message} {source : EndpointId} {size : Nat} {packets : List Packet}

/-- The packets hold the pieces of the message, in their order. -/
def Holds (message : Message) (source : EndpointId) (size : Nat) (packets : List Packet) : Prop :=
  packets.map Packet.data =
    let payloads := pieces size (message.typ :: message.data)
    message.packetsFrom source payloads.length 0 payloads

/-- A message has one packet for each piece. -/
theorem Holds.length_eq (holds : message.Holds source size packets) :
    packets.length = (pieces size (message.typ :: message.data)).length := by
  have lengths := congrArg List.length holds
  simpa [packetsFrom] using lengths

/-- Each packet is made of the piece at its place. -/
theorem Holds.piece (holds : message.Holds source size packets) {index : Nat} {packet : Packet}
    (found : packets[index]? = some packet) :
    ∃ piece, (pieces size (message.typ :: message.data))[index]? = some piece ∧
      packet.data = message.packet source packets.length index piece := by
  have data := congrArg (·[index]?) holds
  simp only [packetsFrom, List.getElem?_map, List.getElem?_mapIdx, found, Option.map_some,
    Nat.zero_add] at data
  obtain ⟨piece, present, same⟩ := Option.map_eq_some_iff.mp data.symm
  exact ⟨piece, present, by rw [← same, holds.length_eq]⟩

/-- Packets that hold the pieces of a message have the shape of its packets. -/
theorem Holds.cutInto (holds : message.Holds source size packets) (some : 0 < size)
    (tag : message.tag.number ≤ maxTag)
    (ready : ∀ packet ∈ packets, packet.address = message.address ∧ packet.state = .valid ∧
      packet.deadline = none) : message.CutInto source size packets where
  length_eq := by
    have whole := length_pieces some (message.typ :: message.data)
    have begun : pieces size (message.typ :: message.data) ≠ [] := by
      rw [pieces]
      exact List.cons_ne_nil _ _
    rw [List.length_cons] at whole
    rw [holds.length_eq, ← whole, Nat.max_eq_right (List.length_pos_iff.mpr begun)]
  short packet member := by
    obtain ⟨index, inside⟩ := List.mem_iff_getElem?.mp member
    obtain ⟨piece, present, data⟩ := holds.piece inside
    rw [data, length_packet]
    exact Nat.add_le_add_left (length_of_mem_pieces some (List.mem_of_getElem? present)) _
  full packet member := by
    obtain ⟨index, inside⟩ := List.mem_iff_getElem?.mp member
    rw [List.getElem?_dropLast] at inside
    split at inside
    · rename_i early
      obtain ⟨piece, present, data⟩ := holds.piece inside
      rw [holds.length_eq] at early
      have among : piece ∈ (pieces size (message.typ :: message.data)).dropLast := by
        refine List.mem_of_getElem? (i := index) ?_
        rw [List.getElem?_dropLast, if_pos early, present]
      rw [data, length_packet, length_of_mem_dropLast_pieces some among]
    · cases inside
  ready := ready
  read := by
    have begun : pieces size (message.typ :: message.data) =
        (message.typ :: message.data.take (size - 1)) ::
          pieces size (message.data.drop (size - 1)) := by rw [pieces]
    refine ⟨message.data.take (size - 1) :: pieces size (message.data.drop (size - 1)), ?_, ?_, ?_⟩
    · rw [holds.length_eq, begun, List.length_cons, List.length_cons]
    · rw [List.flatten_cons, flatten_pieces, List.take_append_drop]
    · intro index packet portion inside due
      obtain ⟨piece, present, data⟩ := holds.piece inside
      have body : piece = if index = 0 then message.typ :: portion else portion := by
        rw [begun] at present
        cases index with
        | zero =>
            cases present
            cases due
            rfl
        | succ index => exact Option.some.inj (present.symm.trans due)
      rw [data, ← body]
      exact PacketHeader.parse_toBytes (header_fits tag source packets.length index piece) piece

/-- A type below 0x80 leaves the reserved bit free. -/
theorem reserved_of_typ_lt {typ : UInt8} (small : typ < 0x80) : typ &&& 0x80 = 0 := by
  have below : typ.toNat < 2 ^ 7 := small
  rw [← UInt8.toNat_inj, UInt8.toNat_and]
  show typ.toNat &&& 2 ^ 7 = 0
  rw [Nat.and_two_pow, Nat.testBit_lt_two_pow below]
  rfl

/-- A fragmenter and the list of all fragments come to the same packets. -/
theorem exists_packets (tag : message.tag.number ≤ maxTag) (typ : message.typ &&& 0x80 = 0)
    (source : EndpointId) {room : Nat} (enough : 2 ≤ room) :
    ∃ fragmenter packets, Fragmenter.of? message source room = .ok fragmenter ∧
      fragmenter.Yields packets ∧ message.Holds source (pieceSize room) packets ∧
      message.CutInto source (pieceSize room) packets ∧
      message.fragments? source room = .ok (message.fragments source room) ∧
      (message.fragments source room).map Fragment.toBytes = packets.map Packet.data := by
  have taken : (maxTag < message.tag.number || message.typ &&& 0x80 != 0 || room < 2) = false := by
    rw [decide_eq_false (UInt8.not_lt.mpr tag), decide_eq_false (Nat.not_lt.mpr enough), typ]
    rfl
  let fragmenter : Fragmenter := { message, source, room }
  have some : 0 < fragmenter.size := pieceSize_pos enough
  have left : fragmenter.left = message.typ :: message.data := rfl
  have stands : fragmenter.Stands 0 := ⟨rfl, rfl, Nat.zero_le _, rfl⟩
  obtain ⟨packets, yields, data, ready⟩ := stands.yields some rfl
  rw [left, Nat.zero_add] at data
  refine ⟨fragmenter, packets, if_neg (ne_true_of_eq_false taken), yields, data,
    Holds.cutInto data some tag ready, if_neg (ne_true_of_eq_false taken), ?_⟩
  rw [map_toBytes_fragments, data]
  rfl

end Message

/-- Calls of a fragmenter make as many packets of a message as there are pieces in its type and its
data, each full but the last, with headers that say where in the message they belong, and then none
ever after; the list of all fragments is the same. So a channel either refuses the size that a
message asks for, which is the case only for one byte, or it can send all packets of the message,
and hands them to its link. -/
theorem message_is_cut_exactly {message : Message} (tag : message.tag.number ≤ 7)
    (typ : message.typ < 0x80) (source : EndpointId) {room : Nat} (enough : 2 ≤ room) :
    (∃ fragmenter packets, Fragmenter.of? message source room = .ok fragmenter ∧
      (∀ calls, (fragmenter.after calls).next.1 = .ok packets[calls]?) ∧
      message.CutInto source (min room 251) packets ∧
      List.map Fragment.toBytes <$> message.fragments? source room =
        .ok (packets.map Packet.data)) ∧
      ∀ channel : Channel,
        (message.packetSize = 1 ∧ ∀ (σ : Type) (link : Link σ) (medium : σ),
          channel.sendMessage link message source medium = (.error .invalidArgument, medium)) ∨
        (message.packetSize ≠ 1 ∧ ∃ packets,
          message.CutInto source (channel.pieceSize message) packets ∧
          (∀ packet ∈ packets, channel.validateSize packet.data.length = .ok ()) ∧
          ∀ (σ : Type) (link : Link σ) (medium : σ),
            channel.sendMessage link message source medium =
              Channel.sendAll link message.address (packets.map Packet.data) medium) := by
  have free := Message.reserved_of_typ_lt typ
  refine ⟨?_, fun channel => ?_⟩
  · obtain ⟨fragmenter, packets, made, yields, -, cut, listed, same⟩ :=
      message.exists_packets tag free source enough
    refine ⟨fragmenter, packets, made, yields.call, cut, ?_⟩
    rw [listed, ← same]
    rfl
  · by_cases narrow : message.packetSize = 1
    · refine .inl ⟨narrow, fun σ link medium => ?_⟩
      rw [Channel.sendMessage, channel.packetsOf_of_unfit fun fits => fits.room narrow]
    · have fits : message.Fits := ⟨tag, free, narrow⟩
      obtain ⟨lower, upper⟩ := channel.roomFor_bounds fits
      obtain ⟨-, packets, -, -, holds, cut, -, same⟩ :=
        message.exists_packets tag free source lower
      refine .inr ⟨narrow, packets, cut, fun packet member => ?_, fun σ link medium => ?_⟩
      · have short := cut.short packet member
        have room : channel.pieceSize message ≤ channel.roomFor message := Nat.min_le_left _ _
        obtain ⟨index, inside⟩ := List.mem_iff_getElem?.mp member
        obtain ⟨piece, -, data⟩ := holds.piece inside
        have some : 0 < packet.data.length := by
          rw [data, Message.length_packet]
          exact Nat.add_pos_left (by decide) _
        have within : packet.data.length ≤ channel.maxPacketSize :=
          Nat.le_trans short (Nat.le_trans (Nat.add_le_add_left room _) upper)
        exact if_neg (by omega)
      · rw [Channel.sendMessage, channel.packetsOf_eq fits, same]

namespace TenBytes

/-- A message of ten bytes of data. -/
def message : Message :=
  { data := [0, 1, 2, 3, 4, 5, 6, 7, 8, 9]
    address := 32
    endpoint := ⟨9⟩
    typ := managementType
    tag := ⟨2, true⟩ }

end TenBytes

open TenBytes in
/-- In pieces of four bytes the message takes three packets, the last of them with one byte less. -/
theorem ten_bytes_in_three_packets :
    message.tag.number ≤ 7 ∧ message.typ < 0x80 ∧ 2 ≤ 4 ∧
      ∃ (fragmenter : Fragmenter) (packets : List Packet),
        Fragmenter.of? message ⟨8⟩ 4 = .ok fragmenter ∧ packets.length = 3 ∧
        (∀ packet ∈ packets.dropLast, packet.data.length = 8) ∧
        (fragmenter.after 2).next.1 = .ok packets[2]? ∧
        (fragmenter.after 3).next.1 = .ok none := by
  have tag : message.tag.number ≤ 7 := by decide
  have typ : message.typ < 0x80 := by decide
  have enough : 2 ≤ 4 := by decide
  obtain ⟨⟨fragmenter, packets, made, calls, cut, -⟩, -⟩ :=
    message_is_cut_exactly tag typ ⟨8⟩ enough
  have length : packets.length = 3 := cut.length_eq
  refine ⟨tag, typ, enough, fragmenter, packets, made, length, cut.full, calls 2, ?_⟩
  rw [calls 3, List.getElem?_eq_none (Nat.le_of_eq length)]

end FirmwareUpdate
