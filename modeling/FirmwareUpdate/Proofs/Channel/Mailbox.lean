import FirmwareUpdate.Proofs.Channel.Handed
import FirmwareUpdate.Proofs.Channel.Letters
import FirmwareUpdate.Proofs.Channel.Packets

/-!
# Endpoints with a mailbox

A link with a mailbox hands over the packets that wait there, whatever the timeout, and takes all
that is sent. An endpoint that waits for a message on it gets the next message of its letters, or
gives up. What it sends leaves in full.
-/

namespace FirmwareUpdate

variable {σ : Type}

/-! ## The link -/

/-- The link hands over the packets of a mailbox in order and takes all that it is handed. With an
empty mailbox it lets every wait run out. -/
structure Link.Delivers (link : Link σ) (inbox : σ → List Frame) : Prop where
  arrives : ∀ timeout medium frame rest, inbox medium = frame :: rest →
    ∃ after, link.receive timeout medium = (.ok frame, after) ∧ inbox after = rest
  silent : ∀ timeout medium, inbox medium = [] →
    ∃ after, link.receive timeout medium = (.error .receiveTimeout, after) ∧ inbox after = []
  sends : ∀ contents address medium,
    ∃ after, link.send contents address medium = (.ok (), after) ∧ inbox after = inbox medium

/-- Packets that wait to be received, those that were sent and the time. -/
structure Mailbox where
  inbox : List Frame := []
  /-- Contents and address, the first packet first. -/
  sent : List (List UInt8 × UInt8) := []
  clock : Nat := 0
deriving DecidableEq

namespace Mailbox

/-- Keeps a packet. -/
def send (contents : List UInt8) (address : UInt8) (mailbox : Mailbox) :
    Except ChannelError Unit × Mailbox :=
  (.ok (), { mailbox with sent := mailbox.sent ++ [(contents, address)] })

/-- Hands out the next packet. With none, the wait takes the time that it may take. -/
def receive (timeout : Timeout) (mailbox : Mailbox) : Except ChannelError Frame × Mailbox :=
  match mailbox.inbox, timeout with
  | frame :: rest, _ => (.ok frame, { mailbox with inbox := rest })
  | [], .after span => (.error .receiveTimeout, { mailbox with clock := mailbox.clock + span })
  | [], _ => (.error .receiveTimeout, mailbox)

/-- The link to a mailbox. Only waits without a packet take time. -/
def link : Link Mailbox := { send, receive, now := Mailbox.clock }

/-- A mailbox delivers what is in it, in order. -/
theorem link_delivers : link.Delivers Mailbox.inbox where
  arrives timeout mailbox frame rest queue := by
    obtain ⟨inbox, sent, clock⟩ := mailbox
    cases queue
    exact ⟨_, rfl, rfl⟩
  silent timeout mailbox queue := by
    obtain ⟨inbox, sent, clock⟩ := mailbox
    cases queue
    cases timeout <;> exact ⟨_, rfl, rfl⟩
  sends _ _ _ := ⟨_, rfl, rfl⟩

/-- A mailbox keeps what is handed to it. -/
theorem link_keeps : link.Keeps Mailbox.sent where
  sent _ _ _ := rfl
  received timeout mailbox := by
    obtain ⟨inbox, sent, clock⟩ := mailbox
    cases inbox <;> cases timeout <;> rfl

end Mailbox

/-! ## Messages that leave -/

/-- The packets of a message, and where they go to. -/
def Channel.mailed (channel : Channel) (source : EndpointId) (message : Message) :
    List (List UInt8 × UInt8) :=
  (channel.sent message source).map (·, message.address)

/-- The type of management messages has room in a packet. -/
theorem managementType_plain : managementType &&& 0x80 = 0 := by decide

/-- A message that an endpoint sends has packets, and is an answer or a request to the peer. -/
structure Endpoint.Sends (endpoint : Endpoint) (message : Message) : Prop where
  fits : message.Fits
  mailed : endpoint.channel.mailed endpoint.own message ≠ []
  asks : message.tag.owned = true →
    ∃ nextTag data, message = { endpoint with nextTag }.asking data

namespace Endpoint.Sends

variable {endpoint : Endpoint} {message : Message}

/-- Whatever fits its packets has some. -/
theorem of_fits (fits : message.Fits)
    (asks : message.tag.owned = true →
      ∃ nextTag data, message = { endpoint with nextTag }.asking data) :
    endpoint.Sends message where
  fits
  mailed := fun none => endpoint.channel.sent_ne_nil fits endpoint.own (List.map_eq_nil_iff.mp none)
  asks

/-- The message in which an endpoint asks something goes out in packets. -/
theorem asking (endpoint : Endpoint) {nextTag : UInt8} (tag : nextTag ≤ maxTag)
    (data : List UInt8) : endpoint.Sends ({ endpoint with nextTag }.asking data) :=
  of_fits ⟨tag, managementType_plain, nofun⟩ fun _ => ⟨nextTag, data, rfl⟩

/-- So does the message in which it answers a request. -/
theorem answeredBy (endpoint : Endpoint) {request : Incoming} (tag : request.tag.number ≤ maxTag)
    (data : List UInt8) : endpoint.Sends (request.answeredBy data) :=
  of_fits ⟨tag, managementType_plain, nofun⟩ nofun

end Endpoint.Sends

namespace Link.Delivers

variable {link : Link σ} {inbox : σ → List Frame} (delivers : link.Delivers inbox)
  {handed : σ → List (List UInt8 × UInt8)} (keeps : link.Keeps handed)

include delivers keeps

/-- Packets that are sent one by one are handed over in order, and the inbox stays. -/
theorem sendAll (address : UInt8) (packets : List (List UInt8)) (medium : σ) :
    ∃ after, Channel.sendAll link address packets medium = (.ok (), after) ∧
      inbox after = inbox medium ∧ handed after = handed medium ++ packets.map (·, address) := by
  induction packets generalizing medium with
  | nil => exact ⟨medium, rfl, rfl, (List.append_nil _).symm⟩
  | cons packet rest ih =>
      obtain ⟨middle, sent, kept⟩ := delivers.sends packet address medium
      have more := keeps.sent packet address medium
      rw [sent] at more
      obtain ⟨after, others, same, further⟩ := ih middle
      refine ⟨after, ?_, same.trans kept, ?_⟩
      · unfold Channel.sendAll
        rw [sent]
        exact others
      · rw [further, more, List.append_assoc]
        rfl

/-- A message that fits is handed over in its packets, and the inbox stays. -/
theorem sendMessage (channel : Channel) {message : Message} (fits : message.Fits)
    (source : EndpointId) (medium : σ) :
    ∃ after, channel.sendMessage link message source medium = (.ok (), after) ∧
      inbox after = inbox medium ∧
      handed after = handed medium ++ channel.mailed source message := by
  unfold Channel.sendMessage
  rw [channel.packetsOf_eq_sent fits]
  exact delivers.sendAll keeps ..

/-- A request to the peer leaves, and its tag is used up. -/
theorem sendRequest (endpoint : Endpoint) (tag : endpoint.nextTag ≤ maxTag) (data : List UInt8)
    (medium : σ) :
    ∃ after, endpoint.sendRequest link data medium =
        (.ok { number := endpoint.nextTag, owned := true }, endpoint.asked, after) ∧
      inbox after = inbox medium ∧
      handed after = handed medium ++
        endpoint.channel.mailed endpoint.own (endpoint.asking data) := by
  obtain ⟨after, sent, kept, more⟩ := delivers.sendMessage keeps endpoint.channel
    (Endpoint.Sends.asking endpoint tag data).fits endpoint.own medium
  refine ⟨after, ?_, kept, more⟩
  unfold Endpoint.asking at sent
  unfold Endpoint.sendRequest Endpoint.sendRequestTo Endpoint.asked
  dsimp only
  rw [sent]

/-- An answer to a request leaves. -/
theorem sendResponse (endpoint : Endpoint) {request : Incoming}
    (tag : request.tag.number ≤ maxTag) (data : List UInt8) (medium : σ) :
    ∃ after, endpoint.sendResponse link request data medium = (.ok (), after) ∧
      inbox after = inbox medium ∧
      handed after = handed medium ++
        endpoint.channel.mailed endpoint.own (request.answeredBy data) := by
  obtain ⟨after, sent, kept, more⟩ := delivers.sendMessage keeps endpoint.channel
    (Endpoint.Sends.answeredBy endpoint tag data).fits endpoint.own medium
  refine ⟨after, ?_, kept, more⟩
  unfold Incoming.answeredBy at sent
  unfold Endpoint.sendResponse
  dsimp only
  rw [sent]

end Link.Delivers

/-! ## Messages that arrive -/

namespace Assembler

/-- A reason for which an assembler refuses a packet. -/
def Refusal (error : ChannelError) : Prop :=
  error = .invalidPacketSize ∨ error = .invalidPacketState ∨ error = .noMemory

variable {assembler : Assembler} {error : ChannelError}

/-- A packet that cannot go on a message is refused without an error of the medium. -/
theorem extend_refusal {part : PartialMessage} {last : Bool} {payload : List UInt8}
    (failed : (assembler.extend part last payload).1 = .error error) : Refusal error := by
  unfold extend at failed
  split at failed
  · cases failed
    exact .inr (.inr rfl)
  · split at failed <;> cases failed

/-- So is one that cannot begin a message. -/
theorem receiveFirst_refusal {header : PacketHeader} {address : UInt8} {body : List UInt8}
    (failed : (assembler.receiveFirst header address body).1 = .error error) : Refusal error := by
  unfold receiveFirst at failed
  split at failed
  · cases failed
    exact .inl rfl
  · split at failed
    · cases failed
      exact .inr (.inl rfl)
    · exact extend_refusal failed

/-- So is one that comes out of place. -/
theorem receiveNext_refusal {header : PacketHeader} {body : List UInt8}
    (failed : (assembler.receiveNext header body).1 = .error error) : Refusal error := by
  unfold receiveNext at failed
  split at failed
  · cases failed
    exact .inr (.inl rfl)
  · split at failed
    · cases failed
      exact .inr (.inl rfl)
    · split at failed
      · cases failed
        exact .inr (.inl rfl)
      · exact extend_refusal failed

/-- Whatever bytes come, they are taken, or refused without an error of the medium. -/
theorem receiveBytes_refusal {contents : List UInt8} {address : UInt8}
    (failed : (assembler.receiveBytes contents address).1 = .error error) : Refusal error := by
  unfold receiveBytes at failed
  split at failed
  · rename_i unread
    cases failed
    unfold PacketHeader.parse at unread
    split at unread
    · split at unread <;> cases unread
      exact .inr (.inl rfl)
    · cases unread
      exact .inl rfl
  · split at failed
    · split at failed
      · exact receiveFirst_refusal failed
      · exact receiveNext_refusal failed
    · cases failed

end Assembler

/-- Whoever waits skips what an assembler refuses, and messages that are none of management. -/
theorem Endpoint.outcomeOf_receiveBytes (assembler : Assembler) (contents : List UInt8)
    (address : UInt8) :
    outcomeOf (assembler.receiveBytes contents address).1 =
      ((assembler.receiveBytes contents address).1.toOption.join.bind Incoming.of?).map .ok := by
  cases answer : (assembler.receiveBytes contents address).1 with
  | error error =>
      rcases Assembler.receiveBytes_refusal answer with rfl | rfl | rfl <;> rfl
  | ok found =>
      cases found with
      | none => rfl
      | some message =>
          show outcomeOf (.ok (some message)) = (Incoming.of? message).map .ok
          unfold outcomeOf Incoming.of?
          dsimp only
          split <;> rfl

namespace Channel

/-- Packets do not expire while they are looked at. -/
def Lasting (channel : Channel) : Prop := channel.packetTimeout ≠ some 0

variable {channel : Channel}

/-- A packet that has just come has not expired. -/
theorem Lasting.fresh (lasting : channel.Lasting) (frame : Frame) (now : Nat) :
    (channel.packetOf frame now).isExpired now = false := by
  unfold Packet.isExpired packetOf
  dsimp only
  cases expiry : channel.packetTimeout with
  | none => rfl
  | some span =>
      have positive : 0 < span :=
        Nat.pos_of_ne_zero fun zero => lasting (expiry.trans (congrArg some zero))
      rw [Option.bind_some, instantAfter?]
      split
      · exact decide_eq_false (by omega)
      · rfl

/-- What a packet comes to for whoever waits, whatever the time is. -/
theorem outcomeOf_assemble (lasting : channel.Lasting) (assembler : Assembler) (frame : Frame)
    (now : Nat) :
    Endpoint.outcomeOf (assemble assembler (channel.packetOf frame now) now).1 =
        ((channel.taken assembler frame).1.bind Incoming.of?).map .ok ∧
      (assemble assembler (channel.packetOf frame now) now).2 =
        (channel.taken assembler frame).2 := by
  by_cases long : channel.maxPacketSize < frame.contents.length
  · have cut : (channel.packetOf frame now).check now = .error .packetOverflow := by
      rw [Packet.check, lasting.fresh, if_neg Bool.false_ne_true]
      simp [packetOf, long]
    simp [assemble, cut, taken, long, Endpoint.outcomeOf]
  · have whole : (channel.packetOf frame now).check now = .ok () := by
      rw [Packet.check, lasting.fresh, if_neg Bool.false_ne_true]
      simp [packetOf, long]
    have contents : (channel.packetOf frame now).data = frame.contents :=
      List.take_of_length_le (Nat.not_lt.mp long)
    simp only [assemble, whole, taken, if_neg long, Assembler.receive, contents]
    exact ⟨Endpoint.outcomeOf_receiveBytes .., rfl⟩

/-- The channel with its mark of packets that were too long set or cleared. -/
def marked (channel : Channel) (overflow : Bool) : Channel := { channel with overflow }

/-- The mark says nothing about the packets to come. -/
theorem gather_marked (channel : Channel) (overflow : Bool) (assembler : Assembler)
    (frames : List Frame) :
    (channel.marked overflow).gather assembler frames = channel.gather assembler frames := by
  induction frames generalizing assembler with
  | nil => rfl
  | cons frame rest ih =>
      rw [gather_cons, gather_cons, ← ih]
      rfl

/-- A frame that is only noted leaves the messages under way. -/
theorem gather_noting (channel : Channel) (frame : Frame) :
    (channel.noting frame).gather = channel.gather := by
  funext assembler frames
  exact channel.gather_marked _ assembler frames

end Channel

/-- A mark for an overflow adds nothing to what has arrived. -/
theorem Letter.arrivals_marked (channel : Channel) (overflow : Bool) :
    arrivals (channel.marked overflow) = arrivals channel := by
  funext assembler letters
  unfold arrivals arrival
  simp only [channel.gather_marked]

namespace Link.Delivers

variable {link : Link σ} {inbox : σ → List Frame} (delivers : link.Delivers inbox)

include delivers

/-- Whoever waits takes packets up to the first one that completes a message, or gives up before
there is one. -/
theorem receiveUntil_gather (patience : Nat) (deadline : Deadline) (endpoint : Endpoint)
    (medium : σ) (lasting : endpoint.channel.Lasting) :
    let got := Endpoint.receiveUntil link patience deadline endpoint medium
    let gathered := endpoint.channel.gather endpoint.assembler
    ∃ used, inbox medium = used ++ inbox got.2.2 ∧
      (∃ overflow, got.2.1 = { endpoint with
        channel := endpoint.channel.marked overflow
        assembler := (gathered used).2 }) ∧
      ((got.1 = .error (.channel .receiveTimeout) ∧ (gathered used).1 = []) ∨
        ∃ front last message, used = front ++ [last] ∧ got.1 = .ok message ∧
          (gathered front).1 = [] ∧ (gathered used).1 = [message]) := by
  induction patience generalizing deadline endpoint medium with
  | zero => exact ⟨[], rfl, ⟨_, rfl⟩, .inl ⟨rfl, rfl⟩⟩
  | succ patience ih =>
      dsimp only
      unfold Endpoint.receiveUntil
      cases deadline.remaining (link.now medium) with
      | mk left deadline =>
          cases left with
          | none => exact ⟨[], rfl, ⟨_, rfl⟩, .inl ⟨rfl, rfl⟩⟩
          | some timeout =>
              dsimp only
              unfold Channel.receiveMessage Channel.receive
              cases queue : inbox medium with
              | nil =>
                  -- Nothing has come: the wait goes on with the same endpoint until patience ends.
                  obtain ⟨after, silent, still⟩ := delivers.silent timeout medium queue
                  rw [silent]
                  obtain ⟨used, further, same, outcome⟩ := ih deadline endpoint after lasting
                  rw [still] at further
                  exact ⟨used, further, same, outcome⟩
              | cons frame rest =>
                  obtain ⟨after, arrives, left⟩ := delivers.arrives timeout medium frame rest queue
                  obtain ⟨outcome, assembled⟩ := Channel.outcomeOf_assemble lasting
                    endpoint.assembler frame (link.now after)
                  rw [arrives]
                  dsimp only
                  rw [outcome, assembled]
                  cases completed : ((endpoint.channel.taken endpoint.assembler frame).1.bind
                      Incoming.of?) with
                  | some message =>
                      refine ⟨[frame], congrArg (frame :: ·) left.symm, ⟨_, rfl⟩,
                        .inr ⟨[], frame, message, rfl, rfl, rfl, ?_⟩⟩
                      rw [Channel.gather_cons, completed]
                      rfl
                  | none =>
                      -- The frame ends no message: the rest is gathered by the assembler it leaves.
                      obtain ⟨used, further, ⟨overflow, same⟩, outcome⟩ := ih deadline
                        { endpoint with
                          channel := endpoint.channel.noting frame
                          assembler := (endpoint.channel.taken endpoint.assembler frame).2 }
                        after lasting
                      dsimp only at same outcome
                      rw [Channel.gather_noting] at same outcome
                      have skipped (frames : List Frame) :
                          endpoint.channel.gather endpoint.assembler (frame :: frames) =
                            endpoint.channel.gather
                              (endpoint.channel.taken endpoint.assembler frame).2 frames := by
                        rw [Channel.gather_cons, completed]
                        rfl
                      refine ⟨frame :: used, ?_, ⟨overflow, ?_⟩, ?_⟩
                      · rw [← left, further]
                        rfl
                      · rw [skipped]
                        exact same
                      · rw [skipped]
                        refine outcome.imp_right ?_
                        rintro ⟨front, last, message, rfl, found, nothing, one⟩
                        exact ⟨frame :: front, last, message, rfl, found,
                          by rw [skipped]; exact nothing, one⟩

/-- Whoever waits gets the message of the first letter that has one for him. If he gives up and
nothing is left, then there was none. -/
theorem receiveUntil_letters (patience : Nat) (deadline : Deadline) (endpoint : Endpoint)
    (medium : σ) (lasting : endpoint.channel.Lasting) (idle : endpoint.assembler.current = none)
    {letters : List Letter} (queue : inbox medium = Letter.framesOf letters) :
    let got := Endpoint.receiveUntil link patience deadline endpoint medium
    let arrivals := Letter.arrivals endpoint.channel endpoint.assembler
    let stays := ∃ overflow, got.2.1 =
      { endpoint with channel := endpoint.channel.marked overflow }
    (∃ taken left message, letters = taken ++ left ∧ arrivals taken = [message] ∧
        got.1 = .ok message ∧ inbox got.2.2 = Letter.framesOf left ∧ stays) ∨
      got.1 = .error (.channel .receiveTimeout) ∧
        (inbox got.2.2 = [] → arrivals letters = [] ∧ stays) := by
  obtain ⟨used, further, ⟨overflow, same⟩, outcome⟩ :=
    delivers.receiveUntil_gather patience deadline endpoint medium lasting
  rw [queue] at further
  rcases outcome with ⟨gaveUp, nothing⟩ | ⟨front, last, message, rfl, found, before, completed⟩
  · refine .inr ⟨gaveUp, fun dry => ?_⟩
    rw [dry, List.append_nil] at further
    rw [← further, Letter.gather_framesOf idle] at nothing same
    exact ⟨nothing, overflow, same⟩
  · rw [List.append_assoc] at further
    obtain ⟨taken, left, rfl, first, second⟩ :=
      Letter.letters_of_gather idle further before completed
    rw [← first, Letter.gather_framesOf idle] at completed same
    exact .inl ⟨taken, left, message, rfl, completed, found, second.symm, overflow, same⟩

end Link.Delivers

end FirmwareUpdate
