import FirmwareUpdate.Channel.Loopback
import FirmwareUpdate.Proofs.Channel.Arrival
import FirmwareUpdate.Proofs.Channel.Reception

/-!
# Messages cross a link in order

One end of a loopback link sends messages, the other takes the packets one after the other.
A message that the sender takes is in the queue with all of its packets or, if an error is
reported, with none. The receiver hands on those that are meant for it and within its limit,
and is ready for the next one after each of them.
-/

namespace FirmwareUpdate

variable {σ δ : Type}

/-- A message to be sent, and the endpoint that sends it. -/
structure Parcel where
  message : Message
  source : EndpointId
deriving DecidableEq, Repr

namespace Parcel

/-- The parcel is for an endpoint that takes messages within a limit. -/
def IsFor (parcel : Parcel) (own : EndpointId) (limit : Nat) : Prop :=
  (parcel.message.endpoint = own ∨ parcel.message.endpoint = .null) ∧ parcel.source ≠ .any ∧
    parcel.message.data.length ≤ limit

instance (parcel : Parcel) (own : EndpointId) (limit : Nat) :
    Decidable (parcel.IsFor own limit) :=
  inferInstanceAs (Decidable (_ ∧ _))

end Parcel

namespace Channel

/-- Sends a message over one end of a link. -/
def post (channel : Channel) (link : Link σ) (parcel : Parcel) (medium : σ) :
    Except ChannelError Unit × σ :=
  channel.sendMessage link parcel.message parcel.source medium

/-- Sends one message after the other. Returns those that were sent without an error. -/
def postAll (channel : Channel) (link : Link σ) : List Parcel → σ → List Parcel × σ
  | [], medium => ([], medium)
  | parcel :: rest, medium =>
    match channel.post link parcel medium with
    | (.error _, medium) => channel.postAll link rest medium
    | (.ok (), medium) =>
      let (posted, medium) := channel.postAll link rest medium
      (parcel :: posted, medium)

/-- The parcel as it reaches an endpoint that it is for. -/
def delivered (channel : Channel) (address : UInt8) (parcel : Parcel) : Message :=
  parcel.message.received parcel.source address (channel.pieceSize parcel.message)

end Channel

/-! ## The queue -/

namespace Loopback

/-- The link when packets from the near end have been added to the queue of the far end. -/
def queued (loopback : Loopback) (packets : List (List UInt8)) : Loopback :=
  { loopback with
    far := { loopback.far with
      inbox := loopback.far.inbox ++ packets.map (Frame.mk loopback.near.address) } }

/-- Packets are queued one after the other. -/
theorem queued_append (loopback : Loopback) (front back : List (List UInt8)) :
    (loopback.queued front).queued back = loopback.queued (front ++ back) := by
  simp [queued]

variable {loopback : Loopback}

/-- An endpoint that is there has every packet queued. -/
theorem sendAll_of_present (present : loopback.far.present = true) (address : UInt8)
    (packets : List (List UInt8)) :
    Channel.sendAll link address packets loopback = (.ok (), loopback.queued packets) := by
  induction packets generalizing loopback with
  | nil => simp [Channel.sendAll, queued]
  | cons packet rest ih =>
      have sent : link.send packet address loopback = (.ok (), loopback.queued [packet]) := by
        simp [link, send, present, queued]
      have still : (loopback.queued [packet]).far.present = true := present
      rw [Channel.sendAll, sent]
      dsimp only
      rw [ih still, queued_append]
      rfl

/-- An endpoint that is not there has none of them queued. -/
theorem sendAll_of_absent (absent : loopback.far.present = false) (address : UInt8)
    (packets : List (List UInt8)) :
    (Channel.sendAll link address packets loopback).2 = loopback := by
  cases packets with
  | nil => rfl
  | cons packet rest => simp [Channel.sendAll, link, send, absent]

end Loopback

namespace Channel

variable {loopback : Loopback}

/-- A message that is taken is sent to an end that has not left. -/
theorem post_of_fits (channel : Channel) {parcel : Parcel} (fits : parcel.message.Fits)
    (present : loopback.far.present = true) :
    channel.post Loopback.link parcel loopback =
      (.ok (), loopback.queued (channel.sent parcel.message parcel.source)) := by
  rw [post, sendMessage, channel.packetsOf_eq_sent fits]
  exact Loopback.sendAll_of_present present _ _

/-- A message that does not fit is refused, and nothing is queued. -/
theorem post_of_unfit (channel : Channel) {parcel : Parcel} (unfit : ¬ parcel.message.Fits) :
    channel.post Loopback.link parcel loopback = (.error .invalidArgument, loopback) := by
  rw [post, sendMessage, channel.packetsOf_of_unfit unfit]

/-- Nothing of a message that is reported as not sent is in the queue. -/
theorem post_of_error (channel : Channel) {parcel : Parcel} {error : ChannelError}
    (failed : (channel.post Loopback.link parcel loopback).1 = .error error) :
    (channel.post Loopback.link parcel loopback).2 = loopback := by
  by_cases fits : parcel.message.Fits
  · cases present : loopback.far.present with
    | true =>
        rw [channel.post_of_fits fits present] at failed
        cases failed
    | false =>
        rw [post, sendMessage, channel.packetsOf_eq_sent fits]
        exact Loopback.sendAll_of_absent present _ _
  · rw [channel.post_of_unfit fits]

/-- The packets of some parcels, in order. -/
def packetsOfAll (channel : Channel) (parcels : List Parcel) : List (List UInt8) :=
  parcels.flatMap fun parcel => channel.sent parcel.message parcel.source

/-- The messages that are taken are sent, and their packets stand in the queue in order. -/
theorem postAll_eq (channel : Channel) (parcels : List Parcel)
    (present : loopback.far.present = true) :
    channel.postAll Loopback.link parcels loopback =
      (parcels.filter (·.message.Fits),
        loopback.queued (channel.packetsOfAll (parcels.filter (·.message.Fits)))) := by
  induction parcels generalizing loopback with
  | nil => simp [postAll, packetsOfAll, Loopback.queued]
  | cons parcel rest ih =>
      by_cases fits : parcel.message.Fits
      · have still : (loopback.queued (channel.sent parcel.message parcel.source)).far.present =
            true := present
        rw [postAll, channel.post_of_fits fits present]
        dsimp only
        rw [ih still, Loopback.queued_append, List.filter_cons_of_pos (by simpa using fits)]
        rfl
      · rw [postAll, channel.post_of_unfit fits, List.filter_cons_of_neg (by simpa using fits)]
        exact ih present

end Channel

/-! ## The assembler at the far end -/

namespace Assembler

variable {assembler : Assembler} {address : UInt8}

/-- Packets are received one after the other. -/
theorem receiveAll_append (assembler : Assembler) (address : UInt8)
    (front back : List (List UInt8)) :
    assembler.receiveAll address (front ++ back) =
      (let first := assembler.receiveAll address front
       let second := first.2.receiveAll address back
       (first.1 ++ second.1, second.2)) := by
  induction front generalizing assembler with
  | nil => rfl
  | cons packet rest ih => simp [receiveAll, ih]

/-- Packets that have no effect one by one have none together. -/
theorem receiveAll_of_ignored {packets : List (List UInt8)}
    (ignored : ∀ packet ∈ packets,
      (assembler.receiveBytes packet address).1.toOption.join = none ∧
        (assembler.receiveBytes packet address).2 = assembler) :
    assembler.receiveAll address packets = ([], assembler) := by
  induction packets with
  | nil => rfl
  | cons packet rest ih =>
      obtain ⟨nothing, same⟩ := ignored packet List.mem_cons_self
      have later := ih fun other member => ignored other (List.mem_cons_of_mem _ member)
      simp [receiveAll, nothing, same, later]

variable {message : Message} {source : EndpointId}

/-- An assembler with nothing in progress ignores a message that is for another endpoint or comes
from none. -/
theorem receiveAll_ignored (fits : message.Fits) (idle : assembler.current = none)
    (apart : assembler.accepts message.endpoint = false ∨ source = .any) (channel : Channel) :
    assembler.receiveAll address (channel.sent message source) = ([], assembler) := by
  refine receiveAll_of_ignored fun packet member => ?_
  rw [channel.sent_eq fits] at member
  obtain ⟨index, piece, rfl⟩ := Message.mem_packetsFrom member
  cases addressed : assembler.accepts message.endpoint with
  | false => simp [receiveBytes_elsewhere fits.tag addressed, Except.toOption]
  | true =>
      have sourceless : source = .any := apart.resolve_left (by simp [addressed])
      rw [receiveBytes_packet fits.tag addressed]
      dsimp only
      split
      · cases piece <;> simp [receiveFirst, Message.fragment, sourceless, Except.toOption]
      · simp [receiveNext, idle, Except.toOption]

/-- What the packets of one parcel come to. -/
theorem receiveAll_parcel {parcel : Parcel} (fits : parcel.message.Fits)
    (idle : assembler.current = none) (channel : Channel) :
    assembler.receiveAll address (channel.sent parcel.message parcel.source) =
      (if parcel.IsFor assembler.own assembler.limit then [channel.delivered address parcel]
        else [], assembler) := by
  have accepted : assembler.accepts parcel.message.endpoint = true ↔
      parcel.message.endpoint = assembler.own ∨ parcel.message.endpoint = .null := by
    simp [accepts]
  have same : assembler.reset = assembler := by
    rw [reset, ← idle]
  by_cases apart : assembler.accepts parcel.message.endpoint = false ∨ parcel.source = .any
  · rw [receiveAll_ignored fits idle apart, if_neg]
    rintro ⟨addressed, sourced, -⟩
    rcases apart with elsewhere | sourceless
    · simp [accepted.mpr addressed] at elsewhere
    · exact sourced sourceless
  · obtain ⟨addressed, sourced⟩ := not_or.mp apart
    rw [Bool.not_eq_false] at addressed
    rw [receiveAll_sent channel ⟨fits.tag, fits.typ, fits.room, sourced⟩ addressed, same]
    simp only [Parcel.IsFor, accepted.mp addressed, sourced, ne_eq, not_false_eq_true, true_and]
    rfl

/-- What the packets of many parcels come to, one parcel after the other. -/
theorem receiveAll_parcels (channel : Channel) {parcels : List Parcel}
    (fits : ∀ parcel ∈ parcels, parcel.message.Fits) (idle : assembler.current = none) :
    assembler.receiveAll address (channel.packetsOfAll parcels) =
      ((parcels.filter (·.IsFor assembler.own assembler.limit)).map (channel.delivered address),
        assembler) := by
  induction parcels with
  | nil => rfl
  | cons parcel rest ih =>
      have first : assembler.receiveAll address (channel.sent parcel.message parcel.source) = _ :=
        receiveAll_parcel (fits parcel List.mem_cons_self) idle channel
      have later := ih fun other member => fits other (List.mem_cons_of_mem _ member)
      rw [Channel.packetsOfAll, List.flatMap_cons, receiveAll_append, first]
      dsimp only
      rw [show rest.flatMap (fun parcel => channel.sent parcel.message parcel.source) =
        channel.packetsOfAll rest from rfl, later]
      by_cases meant : parcel.IsFor assembler.own assembler.limit
      · simp [meant]
      · simp [meant]

end Assembler

/-! ## Polling until the queue is empty -/

namespace Reception

variable (dispatch : Message → δ → Except ChannelError Unit × δ)

/-- With nothing in the queue a poll has no effect. -/
theorem poll_of_empty {reception : Reception Loopback δ}
    (empty : reception.medium.near.inbox = []) :
    reception.poll Loopback.link dispatch .poll = reception := by
  have fails : ∃ error, Loopback.link.receive .poll reception.medium =
      (.error error, reception.medium) := by
    cases present : reception.medium.far.present <;>
      exact ⟨_, by simp [Loopback.link, Loopback.receive, empty, present]; rfl⟩
  obtain ⟨error, fails⟩ := fails
  rw [poll_of_failure dispatch fails]

/-- Polls take the packets in the queue one after the other. -/
theorem polls_of_queue (reception : Reception Loopback δ) (untimed : reception.channel.Untimed)
    {address : UInt8} {packets : List (List UInt8)}
    (queue : reception.medium.near.inbox = packets.map (Frame.mk address))
    (short : ∀ packet ∈ packets, packet.length ≤ reception.channel.maxPacketSize) {count : Nat}
    (enough : packets.length ≤ count) :
    let last := reception.polls Loopback.link dispatch count
    last.medium.near.inbox = [] ∧
      last.messages = reception.messages ++ (reception.assembler.receiveAll address packets).1 ∧
      last.assembler = (reception.assembler.receiveAll address packets).2 := by
  induction count generalizing reception packets with
  | zero =>
      have none : packets = [] := List.length_eq_zero_iff.mp (Nat.le_zero.mp enough)
      subst none
      simpa [polls, Assembler.receiveAll] using queue
  | succ count ih =>
      cases packets with
      | nil =>
          rw [polls, poll_of_empty dispatch queue]
          exact ih reception untimed queue short (Nat.zero_le _)
      | cons packet rest =>
          have arrives : Loopback.link.receive .poll reception.medium =
              (.ok ⟨address, packet⟩, { reception.medium with
                near := { reception.medium.near with inbox := rest.map (Frame.mk address) } }) := by
            simp [Loopback.link, Loopback.receive, queue]
          have taken : reception.channel.taken reception.assembler ⟨address, packet⟩ =
              ((reception.assembler.receiveBytes packet address).1.toOption.join,
                (reception.assembler.receiveBytes packet address).2) :=
            if_neg (Nat.not_lt.mpr (short packet List.mem_cons_self))
          obtain ⟨kept, polled⟩ := poll_of_frame dispatch untimed arrives
          rw [taken] at polled
          obtain ⟨emptied, handedOn, left⟩ := ih (reception.poll Loopback.link dispatch .poll)
            (by rw [polled]; exact untimed.noting _) (by rw [polled])
            (fun other member => by rw [polled]; exact short other (List.mem_cons_of_mem _ member))
            (Nat.le_of_succ_le_succ enough)
          rw [polls]
          refine ⟨emptied, handedOn.trans ?_, left.trans ?_⟩
          · simp [polled, Assembler.receiveAll]
          · simp [polled, Assembler.receiveAll]

end Reception

/-- A sender reports a message as sent if and only if it fits, and puts all of its packets on the
link or none. The receiver, with packets at least as long, hands on what was sent to it in the
order in which it was sent, each message with its data, type and tag and with the endpoint and the
address of its sender, and nothing else. -/
theorem messages_cross_exactly_in_order (sender receiver : Channel)
    (wide : sender.maxPacketSize ≤ receiver.maxPacketSize) (untimed : receiver.Untimed)
    (near far : UInt8) (own : EndpointId) (limit : Nat)
    (dispatch : Message → δ → Except ChannelError Unit × δ) (kept : δ) (parcels : List Parcel) :
    (∀ (loopback : Loopback) (parcel : Parcel) (error : ChannelError),
      (sender.post Loopback.link parcel loopback).1 = .error error →
        (sender.post Loopback.link parcel loopback).2 = loopback) ∧
      let posted := sender.postAll Loopback.link parcels (Loopback.connect near far)
      let waiting : Reception Loopback δ :=
        { channel := receiver, assembler := { own, limit }, medium := posted.2.turned, kept }
      posted.1 = parcels.filter (·.message.Fits) ∧
        ∀ count, posted.2.far.inbox.length ≤ count →
          let last := waiting.polls Loopback.link dispatch count
          last.medium.near.inbox = [] ∧
            last.messages =
              (posted.1.filter (·.IsFor own limit)).map (sender.delivered near) := by
  refine ⟨fun loopback parcel error => sender.post_of_error, ?_⟩
  rw [sender.postAll_eq parcels rfl]
  refine ⟨rfl, fun count enough => ?_⟩
  have fits : ∀ parcel ∈ parcels.filter (·.message.Fits), parcel.message.Fits :=
    fun parcel member => of_decide_eq_true (List.mem_filter.mp member).2
  generalize parcels.filter (·.message.Fits) = posted at fits enough ⊢
  have short : ∀ packet ∈ sender.packetsOfAll posted, packet.length ≤ receiver.maxPacketSize := by
    intro packet member
    obtain ⟨parcel, among, inside⟩ := List.mem_flatMap.mp member
    exact Nat.le_trans (sender.length_of_mem_sent (fits parcel among) inside) wide
  have idle : ({ own, limit } : Assembler).current = none := rfl
  let waiting : Reception Loopback δ :=
    { channel := receiver
      assembler := { own, limit }
      medium :=
        ((Loopback.connect near far).queued (sender.packetsOfAll posted)).turned
      kept }
  obtain ⟨emptied, handedOn, -⟩ := waiting.polls_of_queue dispatch untimed rfl short
    (by simpa [Loopback.queued, Loopback.connect] using enough)
  refine ⟨emptied, handedOn.trans ?_⟩
  rw [Assembler.receiveAll_parcels sender fits idle]
  rfl

/-! ## A mixed mail -/

namespace MixedMail

/-- A channel with packets of five bytes of message. -/
def sender : Channel := { maxPacketSize := 9, size_gt := by decide, size_le := by decide }

/-- A channel with packets as long as they can be. -/
def receiver : Channel := { size_gt := by decide, size_le := by decide }

/-- A parcel for an endpoint. -/
def parcel (data : List UInt8) (tag : UInt8) (endpoint source : EndpointId) : Parcel where
  message := { data, address := 32, endpoint, typ := managementType, tag := ⟨tag, true⟩ }
  source

/-- Two parcels for the endpoint 9 and, between them, one with a tag that does not fit, one that is
too long, one for another endpoint and one from no endpoint. -/
def parcels : List Parcel :=
  [parcel [1, 2, 3, 4] 0 ⟨9⟩ ⟨8⟩, parcel [5] 8 ⟨9⟩ ⟨8⟩, parcel [1, 2, 3, 4, 5, 6, 7] 1 ⟨9⟩ ⟨8⟩,
    parcel [6] 2 ⟨10⟩ ⟨8⟩, parcel [7] 3 ⟨9⟩ .any, parcel [] 4 .null ⟨11⟩]

end MixedMail

/-- Of six parcels the first and the last one reach the endpoint. -/
theorem first_and_last_parcel_cross :
    let posted := MixedMail.sender.postAll Loopback.link MixedMail.parcels (.connect 16 32)
    let waiting : Reception Loopback Unit :=
      { channel := MixedMail.receiver
        assembler := { own := ⟨9⟩, limit := 6 }
        medium := posted.2.turned
        kept := () }
    (waiting.polls Loopback.link (fun _ _ => (.ok (), ())) posted.2.far.inbox.length).messages =
      [{ data := [1, 2, 3, 4], address := 16, packetSize := 5, endpoint := ⟨8⟩,
          typ := managementType, tag := ⟨0, true⟩ },
        { data := [], address := 16, packetSize := 1, endpoint := ⟨11⟩, typ := managementType,
          tag := ⟨4, true⟩ }] := by
  obtain ⟨-, posted, crossed⟩ :=
    messages_cross_exactly_in_order MixedMail.sender MixedMail.receiver (by decide) rfl 16 32 ⟨9⟩ 6
      (fun _ _ => (.ok (), ())) () MixedMail.parcels
  rw [posted] at crossed
  exact (crossed _ (Nat.le_refl _)).2.trans (by decide)

end FirmwareUpdate
