import Mathlib.Data.List.Chain
import Mathlib.Data.List.FinRange
import FirmwareUpdate.Proofs.Channel.Crossing
import FirmwareUpdate.Proofs.Channel.Cutting

/-!
# Packets that are lost

Some packets of a message do not arrive; those that do are in order. Sequence numbers count modulo
four, so a gap of one, two or three packets shows, and it ends the message. What an assembler has
of a message that has come in without a gap is computed from the message and the number of packets
(`Message.collected`).
-/

namespace FirmwareUpdate

/-- Pieces by their place. -/
theorem getElem?_pieces {α : Type} {size : Nat} (positive : 0 < size) (list : List α)
    (place : Nat) :
    (pieces size list)[place]? =
      if place * size < list.length then some ((list.drop (place * size)).take size)
      else none := by
  induction place generalizing list with
  | zero =>
      cases list with
      | nil => simp [pieces]
      | cons head tail =>
          rw [pieces_of_ne_nil positive (List.cons_ne_nil _ _)]
          simp
  | succ place ih =>
      by_cases empty : list = []
      · simp [empty, pieces]
      · rw [pieces_of_ne_nil positive empty, List.getElem?_cons_succ, ih, List.length_drop,
          List.drop_drop, Nat.succ_mul, Nat.add_comm size]
        by_cases inside : place * size + size < list.length
        · rw [if_pos inside, if_pos (by omega)]
        · rw [if_neg inside, if_neg (by omega)]

/-! ## What has been collected -/

namespace Message

variable {message : Message} {size : Nat}

/-- How many packets a message takes. -/
def count (message : Message) (size : Nat) : Nat :=
  (pieces size (message.typ :: message.data)).length

/-- A message has at least one packet. -/
theorem count_pos (message : Message) (size : Nat) : 0 < message.count size := by
  rw [count, pieces]
  exact Nat.succ_pos _

/-- The data in the packet at a place. -/
def portion (message : Message) (size place : Nat) : List UInt8 :=
  (message.data.drop (place * size - 1)).take (if place = 0 then size - 1 else size)

/-- The piece in the packet at a place. -/
def piece (message : Message) (size place : Nat) : List UInt8 :=
  if place = 0 then message.typ :: message.portion size 0 else message.portion size place

/-- The message when its first `index` packets have arrived. -/
def collected (message : Message) (source : EndpointId) (address : UInt8) (size index : Nat) :
    PartialMessage where
  peer := source
  tag := message.tag
  typ := message.typ
  sequence := UInt8.ofNat (index % 4)
  replyAddress := address
  firstSize := (message.data.take (size - 1)).length
  data := message.data.take (index * size - 1)

/-- The piece at a place of a message is cut from there. -/
theorem getElem?_pieces_message (positive : 0 < size) (message : Message) {place : Nat}
    (inside : place < message.count size) :
    (pieces size (message.typ :: message.data))[place]? = some (message.piece size place) := by
  have found := getElem?_pieces positive (message.typ :: message.data) place
  rw [List.getElem?_eq_getElem (by exact inside)] at found ⊢
  split at found
  · rw [found]
    cases place with
    | zero =>
        obtain ⟨smaller, rfl⟩ := Nat.exists_eq_add_of_lt positive
        simp [piece, portion]
    | succ place =>
        have later : (place + 1) * size ≠ 0 := Nat.mul_ne_zero (Nat.succ_ne_zero _) positive.ne'
        obtain ⟨before, same⟩ := Nat.exists_eq_succ_of_ne_zero later
        simp [piece, portion, same]
  · cases found

/-- With one packet more there is one portion more. -/
theorem collected_append (source : EndpointId) (address : UInt8) (positive : 0 < size)
    (index : Nat) :
    Assembler.grown (message.collected source address size index) (message.portion size index) =
      message.collected source address size (index + 1) := by
  have data : message.data.take (index * size - 1) ++ message.portion size index =
      message.data.take ((index + 1) * size - 1) := by
    rw [portion, ← List.take_add]
    congr 1
    rw [Nat.succ_mul]
    cases index with
    | zero => simp
    | succ index =>
        have begun : 0 < (index + 1) * size := Nat.mul_pos (Nat.succ_pos _) positive
        rw [if_neg (Nat.succ_ne_zero _)]
        omega
  rw [Assembler.grown]
  simp only [collected, data, PacketHeader.nextSequence_ofNat]

/-- With all packets the message is whole. -/
theorem data_collected (source : EndpointId) (address : UInt8) (positive : 0 < size) :
    (message.collected source address size (message.count size)).data = message.data := by
  have beyond := getElem?_pieces positive (message.typ :: message.data) (message.count size)
  rw [List.getElem?_eq_none (by exact Nat.le_refl _)] at beyond
  split at beyond
  · cases beyond
  · rename_i past
    rw [List.length_cons] at past
    exact List.take_of_length_le (by omega)

/-- The packet at a place. -/
def packetAt (message : Message) (source : EndpointId) (size place : Nat) : List UInt8 :=
  message.packet source (message.count size) place (message.piece size place)

/-- An assembler takes the message from this source if all packets of it arrive. -/
structure Reaches (message : Message) (source : EndpointId) (assembler : Assembler) : Prop where
  tag : message.tag.number ≤ maxTag
  typ : message.typ &&& 0x80 = 0
  sourced : source ≠ .any
  addressed : assembler.accepts message.endpoint = true
  within : message.data.length ≤ assembler.limit

/-- What the assembler has collected makes no difference to that. -/
theorem Reaches.collecting {source : EndpointId} {assembler : Assembler}
    (reaches : message.Reaches source assembler) (part : Option PartialMessage) :
    message.Reaches source { assembler with current := part } :=
  { reaches with }

end Message

/-! ## One packet -/

namespace Assembler

variable {assembler : Assembler} {message : Message} {source : EndpointId} {address : UInt8}
  {size index place : Nat}

/-- What a packet that is due comes to: it completes the message, or there is more of it. -/
def taken (assembler : Assembler) (message : Message) (source : EndpointId) (address : UInt8)
    (size index : Nat) : Except ChannelError (Option Message) × Assembler :=
  if index + 1 = message.count size then
    (.ok (some (message.received source address size)), assembler.reset)
  else
    (.ok none,
      { assembler with current := some (message.collected source address size (index + 1)) })

/-- The next packet extends what the ones before it have collected. -/
theorem extend_collected (reaches : message.Reaches source assembler) (positive : 0 < size)
    (index : Nat) :
    assembler.extend (message.collected source address size index)
        (index + 1 = message.count size) (message.portion size index) =
      assembler.taken message source address size index := by
  have grows := message.collected_append source address positive index
  have short : (message.collected source address size index).data.length +
      (message.portion size index).length ≤ assembler.limit := by
    rw [← List.length_append]
    show (grown (message.collected source address size index)
      (message.portion size index)).data.length ≤ _
    rw [grows, Message.collected, List.length_take]
    exact Nat.le_trans (Nat.min_le_right _ _) reaches.within
  unfold taken
  by_cases last : index + 1 = message.count size
  · have whole := message.data_collected source address positive
    rw [if_pos last, decide_eq_true last, extend_of_last short, grows, finish, last,
      whole]
    rfl
  · rw [if_neg last, decide_eq_false last, extend_of_more short, grows]

/-- The first packet of a message begins it, whatever the assembler has collected before. -/
theorem receiveBytes_first (reaches : message.Reaches source assembler) (positive : 0 < size) :
    assembler.receiveBytes (message.packetAt source size 0) address =
      assembler.taken message source address size 0 := by
  rw [← extend_collected reaches positive, Message.packetAt,
    receiveBytes_packet reaches.tag reaches.addressed]
  rw [if_pos rfl, Message.piece, if_pos rfl, receiveFirst, if_neg (by exact reaches.sourced)]
  have begun : message.collected source address size 0 =
      { peer := source
        tag := message.tag
        typ := message.typ &&& 0x7f
        sequence := UInt8.ofNat (0 % 4)
        replyAddress := address
        firstSize := (message.portion size 0).length
        data := [] } := by
    simp [Message.collected, Message.portion, typ_of_reserved reaches.typ]
  rw [begun]
  rfl

/-- The packet that is due continues its message. -/
theorem receiveBytes_due (reaches : message.Reaches source assembler) (positive : 0 < size)
    (current : assembler.current = some (message.collected source address size index))
    (later : 0 < index) :
    assembler.receiveBytes (message.packetAt source size index) address =
      assembler.taken message source address size index := by
  rw [← extend_collected reaches positive, Message.packetAt,
    receiveBytes_packet reaches.tag reaches.addressed]
  rw [if_neg later.ne', Message.piece, if_neg later.ne']
  unfold receiveNext
  rw [current]
  dsimp only
  rw [if_neg (by simp [Message.fragment, Message.collected]),
    if_neg (by simp [Message.fragment, Message.collected])]
  rfl

/-- A packet that is ahead of its turn, but not by a multiple of four, ends the message. -/
theorem receiveBytes_ahead (reaches : message.Reaches source assembler)
    (current : assembler.current = some (message.collected source address size index))
    (later : 0 < place) (ahead : place % 4 ≠ index % 4) :
    assembler.receiveBytes (message.packetAt source size place) address =
      (.error .invalidPacketState, assembler.reset) := by
  have differs : UInt8.ofNat (place % 4) ≠ UInt8.ofNat (index % 4) := by
    intro same
    have numbers := congrArg UInt8.toNat same
    simp only [UInt8.toNat_ofNat'] at numbers
    omega
  rw [Message.packetAt, receiveBytes_packet reaches.tag reaches.addressed]
  rw [if_neg later.ne']
  unfold receiveNext
  rw [current]
  dsimp only
  rw [if_neg (by simp [Message.fragment, Message.collected]), if_pos (by exact differs)]

/-- Without the first packet of a message no other is taken. -/
theorem receiveBytes_idle (reaches : message.Reaches source assembler)
    (idle : assembler.current = none) (later : 0 < place) :
    assembler.receiveBytes (message.packetAt source size place) address =
      (.error .invalidPacketState, assembler) := by
  rw [Message.packetAt, receiveBytes_packet reaches.tag reaches.addressed]
  rw [if_neg later.ne', receiveNext, idle]

/-! ## Packets with gaps between them -/

/-- The first `index` packets of the message have been taken, and nothing is collected besides. -/
def Holding (assembler : Assembler) (message : Message) (source : EndpointId) (address : UInt8)
    (size index : Nat) : Prop :=
  assembler.current =
    if index = 0 then none else some (message.collected source address size index)

/-- The packet that is due is taken, by an assembler that holds those before it. -/
theorem Holding.due (holding : assembler.Holding message source address size index)
    (reaches : message.Reaches source assembler) (positive : 0 < size) :
    assembler.receiveBytes (message.packetAt source size index) address =
      assembler.taken message source address size index := by
  cases index with
  | zero => exact receiveBytes_first reaches positive
  | succ index => exact receiveBytes_due reaches positive holding (Nat.succ_pos _)

/-- A packet with fewer than four missing before it, or any number when it is the first to arrive,
ends the message. -/
theorem Holding.skipped (holding : assembler.Holding message source address size index)
    (reaches : message.Reaches source assembler) (ahead : index < place)
    (near : 0 < index → place ≤ index + 3) :
    assembler.receiveBytes (message.packetAt source size place) address =
      (.error .invalidPacketState, assembler.reset) := by
  have later : 0 < place := Nat.zero_lt_of_lt ahead
  cases index with
  | zero =>
      have idle : assembler.reset = assembler := by
        rw [reset, ← show assembler.current = none from holding]
      rw [receiveBytes_idle reaches holding later, idle]
  | succ index =>
      have bound := near (Nat.succ_pos _)
      exact receiveBytes_ahead reaches holding later (by omega)

/-- Hands packets from one address to an assembler, and collects its answers. -/
def receiveEach (assembler : Assembler) (address : UInt8) :
    List (List UInt8) → List (Except ChannelError (Option Message)) × Assembler
  | [] => ([], assembler)
  | packet :: rest =>
    let (answer, assembler) := assembler.receiveBytes packet address
    let (later, assembler) := assembler.receiveEach address rest
    (answer :: later, assembler)

/-- An assembler that holds nothing refuses every packet but a first one. -/
theorem receiveEach_idle (reaches : message.Reaches source assembler)
    (idle : assembler.current = none) {places : List Nat} (later : ∀ place ∈ places, 0 < place) :
    assembler.receiveEach address (places.map (message.packetAt source size)) =
      (places.map fun _ => .error .invalidPacketState, assembler) := by
  induction places with
  | nil => rfl
  | cons place rest ih =>
      have refused : assembler.receiveBytes (message.packetAt source size place) address =
          (.error .invalidPacketState, assembler) :=
        receiveBytes_idle reaches idle (later place List.mem_cons_self)
      have others := ih fun other member => later other (List.mem_cons_of_mem _ member)
      rw [List.map_cons, receiveEach, refused]
      dsimp only
      rw [others]
      rfl

/-- The answers to the packets of a message: nothing, until the last one completes it. -/
def answersTo (message : Message) : Nat → List (Except ChannelError (Option Message))
  | 0 => []
  | 1 => [.ok (some message)]
  | count + 2 => .ok none :: answersTo message (count + 1)

/-- What is heard of a message of which `count` packets are still due: all of it, with the last of
them, if `whole` holds, and otherwise no message. The assembler is the same but for what it has
collected. -/
structure Hears (assembler : Assembler) (message : Message) (count : Nat) (whole : Prop)
    (heard : List (Except ChannelError (Option Message)) × Assembler) : Prop where
  complete : whole → heard = (answersTo message count, assembler.reset)
  incomplete : ¬ whole → ∀ answer ∈ heard.1, answer.toOption.join = none
  same : heard.2.reset = assembler.reset

/-- A packet that completes nothing comes before what is heard of the rest. -/
theorem Hears.more {count : Nat} {whole : Prop} {part : Option PartialMessage}
    {heard : List (Except ChannelError (Option Message)) × Assembler}
    (later : { assembler with current := part }.Hears message (count + 1) whole heard) :
    assembler.Hears message (count + 2) whole (.ok none :: heard.1, heard.2) where
  complete arrived := by
    rw [later.complete arrived]
    rfl
  incomplete missing := by
    rintro answer (_ | ⟨_, member⟩)
    · rfl
    · exact later.incomplete missing answer member
  same := later.same

/-- The packet that is due last completes the message. -/
theorem hears_last : assembler.Hears message 1 True ([.ok (some message)], assembler.reset) where
  complete _ := rfl
  incomplete missing := absurd trivial missing
  same := rfl

/-- A packet before which some are missing brings nothing, and neither do those after it. -/
theorem Holding.hears_nothing (holding : assembler.Holding message source address size index)
    (reaches : message.Reaches source assembler) (ahead : index < place)
    (near : 0 < index → place ≤ index + 3) {rest : List Nat} (later : ∀ other ∈ rest, 0 < other)
    (due : Nat) :
    assembler.Hears (message.received source address size) due False
      (assembler.receiveEach address ((place :: rest).map (message.packetAt source size))) := by
  have refused : assembler.reset.receiveEach address (rest.map (message.packetAt source size)) =
      (rest.map fun _ => .error .invalidPacketState, assembler.reset) :=
    receiveEach_idle (reaches.collecting none) rfl later
  rw [List.map_cons, receiveEach, holding.skipped reaches ahead near]
  dsimp only
  rw [refused]
  refine ⟨False.elim, fun _ answer member => ?_, rfl⟩
  rcases List.mem_cons.mp member with rfl | among
  · rfl
  · obtain ⟨_, -, rfl⟩ := List.mem_map.mp among
    rfl

/-- Two places of which the first arrives before the second, with fewer than four lost in
between. -/
def Apart (place next : Nat) : Prop := place < next ∧ next ≤ place + 4

/-- A message is heard if every packet that is due arrives. -/
theorem Holding.hears (holding : assembler.Holding message source address size index)
    (reaches : message.Reaches source assembler) (positive : 0 < size) {due : Nat}
    (unfinished : index + due + 1 = message.count size) {places : List Nat}
    (start : ∀ place ∈ places.head?, index ≤ place ∧ (0 < index → place ≤ index + 3))
    (apart : places.IsChain Apart) (inside : ∀ place ∈ places, place < message.count size) :
    assembler.Hears (message.received source address size) (due + 1)
      (places = List.range' index (due + 1))
      (assembler.receiveEach address (places.map (message.packetAt source size))) := by
  -- as long as nothing is missing each packet is the one that is due; the first gap shows, and
  -- what is left of the message after it is refused
  induction places generalizing index due assembler with
  | nil => exact ⟨nofun, fun _ => nofun, rfl⟩
  | cons place rest ih =>
      obtain ⟨order, near⟩ := start place rfl
      have beyond : ∀ other ∈ rest, place < other :=
        fun _ member => List.rel_of_pairwise_cons (apart.imp fun _ _ gap => gap.1).pairwise member
      have within : ∀ other ∈ rest, other < message.count size :=
        fun other member => inside other (List.mem_cons_of_mem _ member)
      obtain ⟨following, rest_apart⟩ := List.isChain_cons.mp apart
      rw [List.range'_succ, List.cons.injEq]
      rcases Nat.eq_or_lt_of_le order with rfl | ahead
      · rw [List.map_cons, receiveEach, holding.due reaches positive, taken]
        cases due with
        | zero =>
            have empty : rest = [] := List.eq_nil_iff_forall_not_mem.mpr fun other member => by
              have := beyond other member
              have := within other member
              omega
            have all : index = index ∧ [] = List.range' (index + 1) 0 := ⟨rfl, rfl⟩
            rw [if_pos unfinished, empty, eq_true all]
            exact hears_last
        | succ due =>
            rw [if_neg (by omega)]
            have goesOn : Holding { assembler with
                current := some (message.collected source address size (index + 1)) }
                message source address size (index + 1) := (if_neg (Nat.succ_ne_zero _)).symm
            have fewer : index + 1 + due + 1 = message.count size := by omega
            have later := ih goesOn (reaches.collecting _) fewer
              (fun next head => ⟨(following next head).1, fun _ => (following next head).2⟩)
              rest_apart within
            simpa only [true_and] using later.more
      · have differs : place ≠ index := Nat.ne_of_gt ahead
        rw [eq_false differs, false_and]
        exact holding.hears_nothing reaches ahead near
          (fun other member => Nat.zero_lt_of_lt (beyond other member)) _

/-- All packets of a message are heard, whatever has been collected before them. -/
theorem receiveEach_whole (reaches : message.Reaches source assembler) (positive : 0 < size) :
    assembler.receiveEach address
        ((List.range (message.count size)).map (message.packetAt source size)) =
      (answersTo (message.received source address size) (message.count size), assembler.reset) := by
  obtain ⟨due, count⟩ := Nat.exists_eq_add_one_of_ne_zero (message.count_pos size).ne'
  have fresh : assembler.reset.Holding message source address size 0 := rfl
  have whole : 0 + due + 1 = message.count size := by omega
  have apart : (List.range' 0 (due + 1)).IsChain Apart :=
    (List.isChain_range' 0 (due + 1) 1).imp fun place next follows => by unfold Apart; omega
  have inside : ∀ place ∈ List.range' 0 (due + 1), place < message.count size :=
    fun place member => by rw [List.mem_range'_1] at member; omega
  have heard := fresh.hears (reaches.collecting none) positive whole
    (fun _ _ => ⟨Nat.zero_le _, nofun⟩) apart inside
  -- the first packet drops what has been collected
  have begins : assembler.receiveBytes (message.packetAt source size 0) address =
      assembler.reset.receiveBytes (message.packetAt source size 0) address :=
    (receiveBytes_first reaches positive).trans
      (receiveBytes_first (reaches.collecting none) positive).symm
  have answers := heard.complete rfl
  rw [List.range'_succ, List.map_cons, receiveEach] at answers
  rw [count, List.range_eq_range', List.range'_succ, List.map_cons, receiveEach, begins]
  exact answers

end Assembler

/-! ## Losses -/

namespace Message

variable {message : Message} {source : EndpointId} {room : Nat}

/-- A message has as many fragments as packets are counted. -/
theorem length_fragments (message : Message) (source : EndpointId) (room : Nat) :
    (message.fragments source room).length = message.count (pieceSize room) := by
  simp [fragments, count]

/-- The fragment at a place makes the packet at that place. -/
theorem toBytes_getElem_fragments (enough : 2 ≤ room) {place : Nat}
    (inside : place < (message.fragments source room).length) :
    (message.fragments source room)[place].toBytes =
      message.packetAt source (pieceSize room) place := by
  have within : place < (pieces (pieceSize room) (message.typ :: message.data)).length := by
    rwa [length_fragments] at inside
  have piece := message.getElem?_pieces_message (pieceSize_pos enough) within
  rw [List.getElem?_eq_getElem within, Option.some.injEq] at piece
  simp only [fragments, List.getElem_mapIdx, piece]
  rfl

/-- All fragments in order make the packets at all places. -/
theorem map_toBytes_fragments_range (enough : 2 ≤ room) :
    (message.fragments source room).map Fragment.toBytes =
      (List.range (message.count (pieceSize room))).map
        (message.packetAt source (pieceSize room)) := by
  refine List.ext_getElem (by simp [length_fragments]) fun place inside _ => ?_
  rw [List.length_map] at inside
  simp [toBytes_getElem_fragments enough inside]

end Message

/-- A message that can be cut reaches an assembler that it is for. -/
theorem Parcel.IsFor.reaches {parcel : Parcel} {assembler : Assembler}
    (meant : parcel.IsFor assembler.own assembler.limit) {room : Nat} {fragments : List Fragment}
    (cut : parcel.message.fragments? parcel.source room = .ok fragments) :
    parcel.message.Reaches parcel.source assembler ∧ 2 ≤ room ∧
      fragments = parcel.message.fragments parcel.source room := by
  obtain ⟨addressed, sourced, within⟩ := meant
  unfold Message.fragments? at cut
  split at cut
  · cases cut
  · rename_i taken
    simp only [Bool.or_eq_true, decide_eq_true_eq, not_or, bne_iff_ne, ne_eq, not_not] at taken
    obtain ⟨⟨tag, typ⟩, enough⟩ := taken
    cases cut
    have accepted : assembler.accepts parcel.message.endpoint = true := by
      simpa [Assembler.accepts] using addressed
    exact ⟨⟨UInt8.not_lt.mp tag, typ, sourced, accepted, within⟩, Nat.not_lt.mp enough, rfl⟩

/-- What an idle assembler hears of a parcel of which some packets are lost. -/
theorem Parcel.IsFor.hears {parcel : Parcel} {assembler : Assembler}
    (meant : parcel.IsFor assembler.own assembler.limit) (idle : assembler.current = none)
    {room : Nat} {fragments : List Fragment}
    (cut : parcel.message.fragments? parcel.source room = .ok fragments) (address : UInt8)
    {places : List (Fin fragments.length)}
    (gaps : places.IsChain fun place next => place < next ∧ next.val ≤ place.val + 4) :
    assembler.Hears (parcel.message.received parcel.source address (Message.pieceSize room))
      fragments.length (places = List.finRange fragments.length)
      (assembler.receiveEach address (places.map fun place => fragments[place].toBytes)) := by
  obtain ⟨reaches, enough, rfl⟩ := meant.reaches cut
  have count := parcel.message.length_fragments parcel.source room
  obtain ⟨due, more⟩ := Nat.exists_eq_add_one_of_ne_zero
    (parcel.message.count_pos (Message.pieceSize room)).ne'
  have holding : assembler.Holding parcel.message parcel.source address
      (Message.pieceSize room) 0 := idle
  have whole : 0 + due + 1 = parcel.message.count (Message.pieceSize room) := by omega
  have inside : ∀ place ∈ places.map Fin.val,
      place < parcel.message.count (Message.pieceSize room) := fun place member => by
    obtain ⟨within, -, rfl⟩ := List.mem_map.mp member
    omega
  have packets : (places.map fun place =>
      (parcel.message.fragments parcel.source room)[place].toBytes) =
        (places.map Fin.val).map
          (parcel.message.packetAt parcel.source (Message.pieceSize room)) := by
    rw [List.map_map]
    exact List.map_congr_left fun place _ => Message.toBytes_getElem_fragments enough place.isLt
  have all : places = List.finRange _ ↔ places.map Fin.val = List.range' 0
      (parcel.message.fragments parcel.source room).length := by
    rw [← List.range_eq_range', ← List.map_coe_finRange_eq_range]
    exact (List.map_injective_iff.mpr Fin.val_injective).eq_iff.symm
  have hears := holding.hears reaches (Message.pieceSize_pos enough) whole
    (fun _ _ => ⟨Nat.zero_le _, nofun⟩) ((List.isChain_map _).mpr gaps) inside
  rwa [← more, ← count, ← packets, ← all] at hears

/-- All of a parcel is heard, whatever has been collected before. -/
theorem Parcel.IsFor.heard {parcel : Parcel} {assembler : Assembler}
    (meant : parcel.IsFor assembler.own assembler.limit) {room : Nat} {fragments : List Fragment}
    (cut : parcel.message.fragments? parcel.source room = .ok fragments) (address : UInt8) :
    assembler.receiveEach address (fragments.map Fragment.toBytes) =
      (Assembler.answersTo
        (parcel.message.received parcel.source address (Message.pieceSize room)) fragments.length,
        assembler.reset) := by
  obtain ⟨reaches, enough, rfl⟩ := meant.reaches cut
  rw [Message.map_toBytes_fragments_range enough,
    Assembler.receiveEach_whole reaches (Message.pieceSize_pos enough), Message.length_fragments]

/-- Of the packets of a message some are lost, fewer than four of them between two that arrive. The
message is heard with its last packet if none is lost, and otherwise nothing is heard; either way
the assembler is ready for the next message. -/
theorem losses_never_corrupt_a_message {assembler : Assembler} (idle : assembler.current = none)
    {parcel : Parcel} (meant : parcel.IsFor assembler.own assembler.limit) {room : Nat}
    {fragments : List Fragment}
    (cut : parcel.message.fragments? parcel.source room = .ok fragments) (address : UInt8)
    {places : List (Fin fragments.length)}
    (gaps : places.IsChain fun place next => place < next ∧ next.val ≤ place.val + 4) :
    let heard := assembler.receiveEach address (places.map fun place => fragments[place].toBytes)
    (places = List.finRange fragments.length →
      heard.1 = Assembler.answersTo
        (parcel.message.received parcel.source address (Message.pieceSize room))
        fragments.length) ∧
      (places ≠ List.finRange fragments.length →
        ∀ answer ∈ heard.1, answer.toOption.join = none) ∧
      ∀ (next : Parcel) (nextRoom : Nat) (later : List Fragment) (other : UInt8),
        next.IsFor assembler.own assembler.limit →
        next.message.fragments? next.source nextRoom = .ok later →
        heard.2.receiveEach other (later.map Fragment.toBytes) =
          (Assembler.answersTo
            (next.message.received next.source other (Message.pieceSize nextRoom)) later.length,
            assembler) := by
  have hears := meant.hears idle cut address gaps
  refine ⟨fun arrived => congrArg Prod.fst (hears.complete arrived), hears.incomplete,
    fun next nextRoom later other nextMeant nextCut => ?_⟩
  have same := hears.same
  generalize assembler.receiveEach address _ = heard at same ⊢
  have own : heard.2.reset.own = assembler.own := by rw [same]; rfl
  have limit : heard.2.reset.limit = assembler.limit := by rw [same]; rfl
  have stillMeant : next.IsFor heard.2.own heard.2.limit := by rwa [← own, ← limit] at nextMeant
  have ready : assembler.reset = assembler := by rw [Assembler.reset, ← idle]
  rw [stillMeant.heard nextCut, same, ready]

open TenBytes in
/-- The middle one of three packets is lost: the last one is refused, and when the message is sent
once more it is heard. -/
theorem middle_packet_is_lost :
    ∃ first middle last : Fragment, message.fragments? ⟨8⟩ 4 = .ok [first, middle, last] ∧
      let assembler : Assembler := { own := ⟨9⟩ }
      let heard := assembler.receiveEach 32 [first.toBytes, last.toBytes]
      (∀ answer ∈ heard.1, answer.toOption.join = none) ∧
        (heard.2.receiveEach 32 [first.toBytes, middle.toBytes, last.toBytes]).1 =
          [.ok none, .ok none, .ok (some { message with packetSize := 4, endpoint := ⟨8⟩ })] := by
  have three : (message.fragments ⟨8⟩ 4).length = 3 := by cbv
  obtain ⟨first, middle, last, fragments⟩ := List.length_eq_three.mp three
  have cut : message.fragments? ⟨8⟩ 4 = .ok [first, middle, last] := congrArg Except.ok fragments
  have meant : Parcel.IsFor ⟨message, ⟨8⟩⟩ ⟨9⟩ 4096 := by decide
  have idle : ({ own := ⟨9⟩ } : Assembler).current = none := rfl
  have gaps : [(0 : Fin 3), 2].IsChain fun place next =>
    place < next ∧ next.val ≤ place.val + 4 := by simp
  have gap : [(0 : Fin 3), 2] ≠ List.finRange 3 := by decide
  obtain ⟨-, missing, next⟩ := losses_never_corrupt_a_message idle meant cut 32 gaps
  have again := next ⟨message, ⟨8⟩⟩ 4 _ 32 meant cut
  exact ⟨first, middle, last, cut, missing gap, congrArg Prod.fst again⟩

open TenBytes in
/-- Four packets that are lost are not noticed. -/
example :
    (({ own := ⟨9⟩ } : Assembler).receiveEach 32
      [message.packetAt ⟨8⟩ 2 0, message.packetAt ⟨8⟩ 2 5]).1 =
        [.ok none,
          .ok (some { message with data := [0, 9], packetSize := 2, endpoint := ⟨8⟩ })] := by
  cbv

end FirmwareUpdate
