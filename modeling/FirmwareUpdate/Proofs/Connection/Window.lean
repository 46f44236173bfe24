import FirmwareUpdate.Proofs.Connection.Begin

/-!
# Images stay intact within a window of requests

A reply does not say which piece it brings: the device goes by the number of its latest
request, and numbers wrap around. `Tracked` ties the queues to the requests in flight. An
image stays intact as long as there are no more of them than numbers; a device that has
repeated itself more often takes old pieces for new ones.
-/

namespace FirmwareUpdate

open Wire

variable {σ : Type}

namespace Connection

/-- The requests in flight, the oldest first: those at the front have been answered, and the
others wait. They are numbered one after the other, and if the device waits for firmware
data, the latest of them asked where the image ends so far. -/
structure Tracked (image : List UInt8) (connection : Connection σ)
    (answered waiting : List Flight) : Prop where
  replies : List.Forall₂ (fun message flight => flight.Answers image message)
    connection.replies answered
  requests : List.Forall₂ (fun message flight => flight.Carries message)
    connection.requests waiting
  numbered : ∃ first, FitsInstance first ∧
    Numbered first ((answered ++ waiting).map Flight.iid) connection.history.responder.nextIid
  latest : ∀ offset iid cmd time options details,
    connection.history.responder.phase =
        .download offset none (.sent iid cmd time) options details →
      ∀ last, (answered ++ waiting).getLast? = some last →
        last.iid = iid ∧ ∃ wanted, last.wanted = some wanted ∧
          wanted.offset = UInt32.ofNat offset
  offers : connection.session.Offers image
  lawful : connection.history.Lawful
  sized : ∀ details, connection.history.responder.phase.details? = some details →
    details.size = image.length

/-- There are as many requests in flight as messages. -/
theorem Tracked.inFlight_eq {image : List UInt8} {connection : Connection σ}
    {answered waiting : List Flight} (tracked : Tracked image connection answered waiting) :
    connection.inFlight = (answered ++ waiting).length := by
  rw [inFlight, List.length_append, tracked.replies.length_eq, tracked.requests.length_eq,
    Nat.add_comm]

end Connection

/-! ## The device moves on -/

namespace ResponderHistory

variable {device : Device σ} {history : ResponderHistory σ}

/-- A reaction that accepts no component leaves the component that is being updated as it
is, or ends its update. -/
theorem details_of_imageStep {before after : DevicePhase} {new : List UpdateEvent}
    (step : ImageStep before new after) (none : ∀ record, .accepted record ∉ new) :
    after.details? = before.details? ∨ after.details? = .none := by
  cases step with
  | aside quiet apart => exact apart.imp (congrArg DevicePhase.details?) id
  | begun record options sized => exact absurd (by simp) (none record)
  | received data result bounded some =>
      unfold Responder.afterData
      split <;> exact .inl rfl
  | waited | broken | transferred | verified | unverified | applied | unapplied =>
      first | exact .inl rfl | exact .inr rfl

/-- No component is accepted when the device is asked for progress. -/
theorem next_progress_events :
    (history.next device .progress).events =
      history.events ++ (history.react device .progress).2.2.2.map .called := by
  show history.events ++ (_ ++ _) = _
  simp [ResponderInput.accepted?]

/-- No component is accepted when the device takes a reply. -/
theorem next_reply_events (agent : EndpointId) (message : List UInt8) :
    (history.next device (.reply agent message)).events =
      history.events ++ (history.react device (.reply agent message)).2.2.2.map .called := by
  show history.events ++ (_ ++ _) = _
  simp [ResponderInput.accepted?]

end ResponderHistory

namespace Flight

/-- A request of the device is in flight once it has been made. -/
theorem carries_of_asks {responder after : Responder} {message : List UInt8}
    (fits : FitsInstance responder.nextIid) (asks : responder.Asks message after) :
    ∃ flight : Flight, flight.iid = responder.nextIid ∧ flight.Carries message ∧
      ∀ offset iid cmd time options details,
        after.phase = .download offset none (.sent iid cmd time) options details →
          iid = responder.nextIid ∧ ∃ wanted, flight.wanted = some wanted ∧
            wanted.offset = UInt32.ofNat offset := by
  obtain ⟨-, command, body, rfl, data, other, -⟩ := asks
  let request : Request :=
    { iid := responder.nextIid, typ := firmwareUpdateType, cmd := Coded.code command,
      data := body }
  have parsed : Request.parse request.toBytes = .ok request :=
    Request.parse_toBytes fits fitsType_firmwareUpdate
  by_cases wants : command = .requestFirmwareData
  · obtain ⟨offset, length, cmd, time, options, details, written, phase⟩ := data wants
    let wanted : DataRequest := { offset := UInt32.ofNat offset, length }
    refine ⟨⟨responder.nextIid, some wanted⟩, rfl, ⟨_, parsed, rfl, fun _ => ⟨wanted, rfl, ?_⟩⟩, ?_⟩
    · exact wanted.roundTrips.decode_of_written written "RequestFirmwareData"
    · intro reached iid cmd time options details sent
      rw [phase] at sent
      cases sent
      exact ⟨rfl, wanted, rfl, rfl⟩
  · refine ⟨⟨responder.nextIid, none⟩, rfl, ⟨_, parsed, rfl, fun asked => ?_⟩, ?_⟩
    · exact absurd (Coded.code_injective _ _ asked) wants
    · intro offset iid cmd time options details sent
      exact absurd sent (other wants offset _ options details)

/-- In a window of requests that is not longer than there are numbers, the latest request has
the number of the oldest only if it is the oldest. -/
theorem last_eq_first {flight last : Flight} {rest : List Flight} {first past : UInt8}
    (numbered : Numbered first ((flight :: rest).map Flight.iid) past) (fits : FitsInstance first)
    (window : (flight :: rest).length ≤ instanceCount)
    (newest : (flight :: rest).getLast? = some last) (same : last.iid = flight.iid) :
    last = flight := by
  have head : first = flight.iid := by
    cases numbered
    rfl
  subst head
  have alone := numbered.alone fits (by simpa using window)
    (by rw [← List.map_cons, List.getLast?_map, newest, Option.map_some, same])
  rw [List.map_eq_nil_iff.mp alone] at newest
  exact (Option.some.inj newest).symm

end Flight

namespace Connection

variable {device : Device σ} {agent : EndpointId} {image : List UInt8} {connection : Connection σ}
  {answered waiting : List Flight}

/-- After a call for progress, a request may be in flight behind the others. -/
theorem Tracked.progress (tracked : Tracked image connection answered waiting) :
    ∃ more, Tracked image (connection.next device agent .progress) answered (waiting ++ more) := by
  obtain ⟨replies, requests, ⟨first, fits, numbered⟩, latest, offers, lawful, sized⟩ := tracked
  have step := Responder.progress_stepsImage connection.history.responder device
    connection.history.state
  have details := ResponderHistory.details_of_imageStep step (by simp)
  have kept (found : ComponentDetails)
      (updating :
        (connection.history.next device .progress).responder.phase.details? = some found) :
      found.size = image.length := by
    rcases details with same | none
    · exact sized found (same ▸ updating)
    · cases none.symm.trans updating
  have progresses := Responder.progress_progresses connection.history.responder device.recorded
    (connection.history.state, [])
  unfold Responder.Progresses at progresses
  have lawfulNext : (connection.history.next device .progress).Lawful :=
    ResponderHistory.next_lawful lawful .progress
  cases asked : connection.history.asked? device with
  | none =>
      rw [show (connection.history.responder.progress device.recorded
        (connection.history.state, [])).1 = none from asked] at progresses
      obtain ⟨counter, apart⟩ := progresses
      -- Nothing is asked: the counter and the last request stay.
      refine ⟨[], ⟨replies, ?_, ⟨first, fits, ?_⟩, ?_, offers, lawfulNext, kept⟩⟩
      · simpa [next, asked] using requests
      · show Numbered first _ (connection.history.responder.progress device.recorded
          (connection.history.state, [])).2.1.nextIid
        rw [counter, List.append_nil]
        exact numbered
      · intro offset iid cmd time options details sent
        rw [List.append_nil]
        rcases apart with same | none
        · exact latest offset iid cmd time options details (same.symm.trans sent)
        · cases none.symm.trans (congrArg DevicePhase.details? sent)
  | some message =>
      rw [show (connection.history.responder.progress device.recorded
        (connection.history.state, [])).1 = some message from asked] at progresses
      have counter := progresses.1
      obtain ⟨flight, counted, carries, sent⟩ :=
        Flight.carries_of_asks (numbered.fits_past fits) progresses
      -- A request joins the end of what waits, under the next instance number.
      refine ⟨[flight], ⟨replies, ?_, ⟨first, fits, ?_⟩, ?_, offers, lawfulNext, kept⟩⟩
      · simpa [next, asked] using List.rel_append requests (.cons carries .nil)
      · show Numbered first _ (connection.history.responder.progress device.recorded
          (connection.history.state, [])).2.1.nextIid
        rw [counter, ← List.append_assoc, List.map_append, List.map_singleton, counted]
        exact numbered.concat
      · intro offset iid cmd time options details phase last newest
        rw [← List.append_assoc, List.getLast?_concat] at newest
        cases newest
        obtain ⟨same, wanted⟩ := sent offset iid cmd time options details phase
        exact ⟨counted.trans same.symm, wanted⟩

/-- After the agent has served a request, its answer is in flight. -/
theorem Tracked.serve (tracked : Tracked image connection answered waiting) :
    ∃ served left, answered ++ waiting = served ++ left ∧
      Tracked image (connection.next device agent .serve) served left := by
  obtain ⟨replies, requests, numbered, latest, offers, lawful, sized⟩ := tracked
  cases queue : connection.requests with
  | nil =>
      refine ⟨answered, waiting, rfl, ?_⟩
      simp only [next, queue]
      exact ⟨replies, requests, numbered, latest, offers, lawful, sized⟩
  | cons message rest =>
      rw [queue] at requests
      cases requests with
      | cons carries others =>
          rename_i flight left
          obtain ⟨reply, handled, answers⟩ := Session.handleRequest_answers offers carries
          refine ⟨answered ++ [flight], left, by simp, ?_⟩
          simp only [next, queue, handled]
          refine ⟨List.rel_append replies (.cons answers .nil), others, by simpa using numbered,
            by simpa using latest, Session.handleRequest_offers offers message, lawful, sized⟩

/-- After the device has taken an answer, it is no longer in flight. -/
theorem Tracked.reply (tracked : Tracked image connection answered waiting) :
    ∃ left, Tracked image (connection.next device agent .reply) left waiting := by
  obtain ⟨replies, requests, ⟨first, fits, numbered⟩, latest, offers, lawful, sized⟩ := tracked
  cases queue : connection.replies with
  | nil =>
      refine ⟨answered, ?_⟩
      simp only [next, queue]
      exact ⟨replies, requests, ⟨first, fits, numbered⟩, latest, offers, lawful, sized⟩
  | cons message rest =>
      rw [queue] at replies
      cases replies with
      | cons answers others =>
          rename_i flight left
          have step := Responder.takeReply_stepsImage connection.history.responder device
            connection.history.state lawful.room agent message
          have details := ResponderHistory.details_of_imageStep step (by simp)
          have takes := Responder.takeReply_takesReply connection.history.responder device
            connection.history.state agent message
          have lawfulNext : (connection.history.next device (.reply agent message)).Lawful :=
            ResponderHistory.next_lawful lawful (.reply agent message)
          have counted : (connection.history.next device (.reply agent message)).responder.nextIid =
              connection.history.responder.nextIid := by
            cases takes with
            | aside counter _ _ => exact counter
            | kept counter _ _ => exact counter
            | stored counter _ _ _ _ _ _ _ _ => exact counter
          cases numbered with
          | cons following =>
              refine ⟨left, ?_⟩
              simp only [next, queue]
              refine ⟨others, requests, ⟨_, fitsInstance_nextInstance _, counted ▸ following⟩, ?_,
                offers, lawfulNext, ?_⟩
              · -- A request is still out only after a reply set aside, and is the one from before.
                intro offset iid cmd time options details sent last newest
                cases takes with
                | aside _ _ apart =>
                    rcases apart with same | none
                    · refine latest offset iid cmd time options details (same.symm.trans sent)
                        last ?_
                      rw [List.cons_append, List.getLast?_cons, newest]
                      rfl
                    · cases none.symm.trans (congrArg DevicePhase.details? sent)
                | kept _ _ ready => cases ready.symm.trans sent
                | stored _ _ _ _ _ _ _ _ ready =>
                    have apart := ready.symm.trans sent
                    unfold Responder.afterData at apart
                    split at apart <;> simp at apart
              · intro found updating
                rcases details with same | none
                · exact sized found (same ▸ updating)
                · cases none.symm.trans updating

/-- A prefix is the prefix of its own length. -/
private theorem eq_take_length {bytes data : List UInt8} {count : Nat}
    (slice : data = bytes.take count) : data = bytes.take data.length := by
  rw [slice, List.length_take, ← List.take_eq_take_min]

/-- In a window of requests that is not longer than there are numbers, the device takes an
answer to the oldest request only for what that request has asked for. -/
theorem Tracked.offset_of_oldest (tracked : Tracked image connection answered waiting)
    (small : image.length < 2 ^ 32) {flight : Flight} {rest : List Flight}
    (flying : answered ++ waiting = flight :: rest) {offset time : Nat} {iid cmd : UInt8}
    {options : UInt32} {details : ComponentDetails}
    (awaiting : connection.history.responder.phase =
      .download offset none (.sent iid cmd time) options details)
    (matching : flight.iid = iid) (window : connection.inFlight ≤ instanceCount)
    {wanted : DataRequest} (carries : flight.wanted = some wanted) :
    wanted.offset.toNat = offset := by
  rw [tracked.inFlight_eq, flying] at window
  obtain ⟨-, -, ⟨first, fits, numbered⟩, latest, -, lawful, sized⟩ := tracked
  rw [flying] at numbered latest
  obtain ⟨last, newest⟩ : ∃ last, (flight :: rest).getLast? = some last :=
    ⟨_, List.getLast?_cons⟩
  obtain ⟨same, lastWanted, asked, asks⟩ :=
    latest offset iid cmd time options details awaiting last newest
  have sole : last = flight :=
    Flight.last_eq_first numbered fits window newest (same.trans matching.symm)
  rw [sole, carries] at asked
  cases asked
  have warranted := lawful.warranted
  rw [awaiting] at warranted sized
  obtain ⟨_, _, _, _, missing, _⟩ := warranted details rfl
  have inside : offset < details.size := (missing rfl).1
  rw [sized details rfl] at inside
  rw [asks]
  exact UInt32.toNat_ofNat_of_lt' (Nat.lt_trans inside small)

/-- A piece that the device stores when it takes the oldest answer. -/
theorem Tracked.reply_slice (tracked : Tracked image connection answered waiting)
    (small : image.length < 2 ^ 32) {message : List UInt8} {rest : List (List UInt8)}
    (queue : connection.replies = message :: rest) {offset : Nat} {data : List UInt8}
    {details : ComponentDetails} {result : TransferResult}
    (member : .firmwareData offset data details result ∈
      (connection.history.react device (.reply agent message)).2.2.2) :
    ∃ asked, data = (image.drop asked).take data.length ∧
      (connection.inFlight ≤ instanceCount → asked = offset) := by
  have replies := tracked.replies
  rw [queue] at replies
  cases replies with
  | cons answers others =>
      rename_i flight left
      obtain ⟨response, parsed, counted, brings⟩ := answers
      have takes := Responder.takeReply_takesReply connection.history.responder device
        connection.history.state agent message
      cases takes with
      | aside _ nothing _ => exact absurd rfl (List.filter_eq_nil_iff.mp nothing _ member)
      | kept _ nothing _ =>
          rw [show (connection.history.react device (.reply agent message)).2.2.2 = [] from
            nothing] at member
          cases member
      | @stored _ _ exchange options _ _ awaiting again answers asked success _ called _ =>
          rw [show (connection.history.react device (.reply agent message)).2.2.2 = _ from
            called] at member
          cases List.mem_singleton.mp member
          cases parsed.symm.trans again
          obtain ⟨wanted, flying, slice⟩ := brings asked success
          refine ⟨wanted.offset.toNat, eq_take_length slice, fun window => ?_⟩
          cases exchange with
          | ready => cases answers
          | failed code => cases answers
          | sent iid cmd time =>
              have matching : response.iid = iid := by
                simp only [Exchange.isAnsweredBy, Bool.and_eq_true, beq_iff_eq] at answers
                exact answers.1.2
              exact tracked.offset_of_oldest small rfl awaiting (counted.symm.trans matching)
                window flying

/-- A piece that the device stores is a piece of the image, from the offset that the
answered request asked for. That is the offset at which it is stored, if there are not more
requests in flight than numbers. -/
theorem Tracked.stored_slice (tracked : Tracked image connection answered waiting)
    (small : image.length < 2 ^ 32) {step : ConnectionStep} {new : List UpdateEvent}
    (added : (connection.next device agent step).history.events = connection.history.events ++ new)
    {offset : Nat} {data : List UInt8} {details : ComponentDetails} {result : TransferResult}
    (stored : .called (.firmwareData offset data details result) ∈ new) :
    ∃ asked, data = (image.drop asked).take data.length ∧
      (connection.inFlight ≤ instanceCount → asked = offset) := by
  cases step with
  | progress =>
      rw [next, ResponderHistory.next_progress_events, List.append_cancel_left_eq] at added
      subst added
      obtain ⟨call, member, same⟩ := List.mem_map.mp stored
      cases same
      have nothing := connection.history.responder.progress_storesNothing device
        connection.history.state
      exact absurd rfl (List.filter_eq_nil_iff.mp nothing _ member)
  | serve =>
      have same : (connection.next device agent .serve).history = connection.history := by
        unfold next
        dsimp only
        split <;> rfl
      rw [same, List.self_eq_append_right] at added
      subst added
      cases stored
  | reply =>
      cases queue : connection.replies with
      | nil =>
          simp only [next, queue, List.self_eq_append_right] at added
          subst added
          cases stored
      | cons message rest =>
          simp only [next, queue, ResponderHistory.next_reply_events,
            List.append_cancel_left_eq] at added
          subst added
          obtain ⟨call, member, same⟩ := List.mem_map.mp stored
          cases same
          exact tracked.reply_slice small queue member

/-- Every step keeps track of the requests in flight. -/
theorem Tracked.next (tracked : Tracked image connection answered waiting) (step : ConnectionStep) :
    ∃ answered waiting, Tracked image (connection.next device agent step) answered waiting := by
  cases step with
  | progress =>
      obtain ⟨more, after⟩ := tracked.progress
      exact ⟨_, _, after⟩
  | serve =>
      obtain ⟨served, left, -, after⟩ := tracked.serve
      exact ⟨_, _, after⟩
  | reply =>
      obtain ⟨left, after⟩ := tracked.reply
      exact ⟨_, _, after⟩

/-- What is tracked stays so, by induction on the schedule. -/
theorem Tracked.run (tracked : Tracked image connection answered waiting)
    (schedule : List ConnectionStep) :
    ∃ answered waiting, Tracked image (connection.run device agent schedule) answered waiting := by
  induction schedule generalizing connection answered waiting with
  | nil => exact ⟨answered, waiting, tracked⟩
  | cons step rest ih =>
      obtain ⟨_, _, after⟩ := tracked.next step
      exact ih after

/-- No step accepts a component. -/
theorem next_events (device : Device σ) (agent : EndpointId) (connection : Connection σ)
    (step : ConnectionStep) :
    ∃ calls : List DeviceCall, (connection.next device agent step).history.events =
      connection.history.events ++ calls.map .called := by
  cases step with
  | progress => exact ⟨_, ResponderHistory.next_progress_events⟩
  | serve =>
      refine ⟨[], ?_⟩
      unfold Connection.next
      dsimp only
      split <;> simp
  | reply =>
      unfold Connection.next
      dsimp only
      split
      · exact ⟨[], by simp⟩
      · exact ⟨_, ResponderHistory.next_reply_events agent _⟩

/-- All pieces stored since the latest component was accepted are pieces of the image, from
the offsets at which they are stored. -/
def Intact (image : List UInt8) (events : List UpdateEvent) : Prop :=
  ∀ details calls, CallsSince events details calls →
    ∀ offset data component result, .firmwareData offset data component result ∈ calls →
      data = (image.drop offset).take data.length

/-- There are never more requests in flight than numbers. -/
def Uncrowded (device : Device σ) (agent : EndpointId) (connection : Connection σ)
    (schedule : List ConnectionStep) : Prop :=
  ∀ count ≤ schedule.length,
    (connection.run device agent (schedule.take count)).inFlight ≤ instanceCount

/-- One step within the window keeps the image intact. -/
theorem Tracked.intact_next (tracked : Tracked image connection answered waiting)
    (small : image.length < 2 ^ 32) (window : connection.inFlight ≤ instanceCount)
    (intact : Intact image connection.history.events) (step : ConnectionStep) :
    Intact image (connection.next device agent step).history.events := by
  obtain ⟨more, added⟩ := next_events device agent connection step
  intro details calls since offset data component result member
  rw [added] at since
  obtain ⟨before, rfl, earlier⟩ := since.of_append
  rcases List.mem_append.mp member with old | new
  · exact intact details before earlier offset data component result old
  · obtain ⟨asked, slice, same⟩ := tracked.stored_slice small added
      (List.mem_map.mpr ⟨_, new, rfl⟩)
    exact same window ▸ slice

/-- So does any schedule that stays within the window. -/
theorem Tracked.intact_run (tracked : Tracked image connection answered waiting)
    (small : image.length < 2 ^ 32) (intact : Intact image connection.history.events)
    {schedule : List ConnectionStep} (uncrowded : Uncrowded device agent connection schedule) :
    Intact image (connection.run device agent schedule).history.events := by
  induction schedule generalizing connection answered waiting with
  | nil => exact intact
  | cons step rest ih =>
      obtain ⟨_, _, after⟩ := tracked.next step
      exact ih after (tracked.intact_next small (uncrowded 0 (Nat.zero_le _)) intact step)
        fun count bounded => uncrowded (count + 1) (Nat.succ_le_succ bounded)

end Connection

/-! ## Whole images -/

/-- Pieces that follow each other make up the image between their ends. -/
theorem Contiguous.flatten_eq {image : List UInt8} {start finish : Nat}
    {pieces : List (Nat × List UInt8)} (contiguous : Contiguous start pieces finish)
    (slices : ∀ piece ∈ pieces, piece.2 = (image.drop piece.1).take piece.2.length) :
    start ≤ finish ∧
      (pieces.map Prod.snd).flatten = (image.drop start).take (finish - start) := by
  induction pieces generalizing start with
  | nil =>
      cases contiguous
      simp
  | cons piece rest ih =>
      obtain ⟨offset, -, following⟩ := contiguous
      obtain ⟨bounded, remaining⟩ := ih following fun other member =>
        slices other (List.mem_cons_of_mem _ member)
      refine ⟨by omega, ?_⟩
      have first := slices piece List.mem_cons_self
      rw [offset] at first
      have length : finish - start = piece.2.length + (finish - (start + piece.2.length)) := by
        omega
      rw [List.map_cons, List.flatten_cons, remaining, length, List.take_add, ← first,
        List.drop_drop]

/-- A device that has stored all pieces of an image, each of them a piece of it, has the
image. -/
theorem Stored.bytes_eq {details : ComponentDetails} {calls : List DeviceCall} {image : List UInt8}
    (stored : Stored details calls image.length)
    (slices : ∀ offset data component result,
      .firmwareData offset data component result ∈ calls →
        data = (image.drop offset).take data.length) :
    calls.flatMap DeviceCall.storedBytes = image := by
  obtain ⟨pieces, filtered, contiguous⟩ := stored
  have assembled := contiguous.flatten_eq fun piece member => by
    have among : .firmwareData piece.1 piece.2 details .success ∈
        calls.filter DeviceCall.storesPiece := by
      rw [filtered]
      exact List.mem_map.mpr ⟨piece, member, rfl⟩
    exact slices piece.1 piece.2 details .success (List.mem_of_mem_filter among)
  rw [flatMap_storedBytes, filtered, List.flatMap_map]
  have bytes : (pieces.flatMap fun piece => DeviceCall.storedBytes
      (.firmwareData piece.1 piece.2 details .success)) = (pieces.map Prod.snd).flatten := rfl
  rw [bytes, assembled.2]
  simp

namespace Connection

variable {device : Device σ} {agent : EndpointId}

/-- A component that has just begun has nothing in flight, and nothing of it is stored. -/
theorem Begins.tracked {session : Session} {history : ResponderHistory σ}
    {connection : Connection σ} (begins : Begins device agent session history connection)
    (sound : session.plan.Sound) (lawful : history.Lawful) :
    ∃ component, (connection.session.current.bind fun index =>
        connection.session.plan.components[index]?) = some component ∧
      component.image.length < 2 ^ 32 ∧ Tracked component.image connection [] [] ∧
      Intact component.image connection.history.events := by
  obtain ⟨component, current, small, ⟨options, phase⟩, earlier, events⟩ :=
    begins.offers sound lawful
  obtain ⟨⟨message, asking, answer, -, -, after, -⟩, -, requests, replies⟩ := begins
  have lawfulNext : connection.history.Lawful :=
    after ▸ ResponderHistory.next_lawful lawful (.request agent message)
  have size : (UInt32.ofNat component.image.length).toNat = component.image.length :=
    UInt32.toNat_ofNat_of_lt' small
  refine ⟨component, current, small, ⟨replies ▸ .nil, requests ▸ .nil,
    ⟨_, lawfulNext.fits, .nil _⟩, nofun, ?_, lawfulNext, ?_⟩, ?_⟩
  · intro other found
    rw [current] at found
    cases found
    rfl
  · intro details updating
    rw [phase] at updating
    cases updating
    exact size
  · intro details calls since offset data found result member
    rw [events] at since
    rw [since.of_accepted] at member
    cases member

end Connection

/-- An update in which the agent serves the requests of a device in order, and the device takes
the answers in order, whatever else is between them: every piece that the device stores is a
piece of the image of the component, from the offset that the answered request asked for. As
long as there are no more requests in flight than instance identifiers, that is the offset at
which it is stored, and when the device reports the end of the transfer it has the image. -/
theorem image_intact_within_window (device : Device σ) (size : Nat) (state : σ)
    (inputs : List ResponderInput) {settings : AgentSettings} {plan : UpdatePlan}
    {fresh : Session} (started : Session.start settings plan = .ok fresh)
    (calls : List SessionInput) (agent : EndpointId) {connection : Connection σ}
    (begins : Connection.Begins device agent (fresh.run calls)
      (ResponderHistory.run device { responder := .withMaxMessage size, state } inputs) connection)
    (schedule : List ConnectionStep) :
    ∃ component, (connection.session.current.bind fun index =>
        connection.session.plan.components[index]?) = some component ∧
      let reached := connection.run device agent schedule
      (∀ step new offset data details result,
        (reached.next device agent step).history.events = reached.history.events ++ new →
          .called (.firmwareData offset data details result) ∈ new →
            ∃ asked, data = (component.image.drop asked).take data.length ∧
              (reached.inFlight ≤ instanceCount → asked = offset)) ∧
      (connection.Uncrowded device agent schedule → ∀ message request,
        reached.history.asked? device = some message → Request.parse message = .ok request →
          request.cmd = Coded.code Command.transferComplete →
            request.data = [Coded.code TransferResult.success] →
              ∃ details calls, CallsSince reached.history.events details calls ∧
                calls.flatMap DeviceCall.storedBytes = component.image) := by
  obtain ⟨sound, -, rfl⟩ := Session.sound_of_start started
  have lawful := ResponderHistory.run_lawful_of_start device size state inputs
  obtain ⟨component, current, small, tracked, intact⟩ :=
    begins.tracked (Session.run_sound sound calls) lawful
  obtain ⟨answered, waiting, reached⟩ :
      ∃ answered waiting, Connection.Tracked component.image
        (connection.run device agent schedule) answered waiting := tracked.run schedule
  refine ⟨component, current, fun step new offset data details result added stored =>
    reached.stored_slice small added stored,
    fun uncrowded message request asked parsed cmd success => ?_⟩
  obtain ⟨offset, exchange, options, details, phase⟩ :=
    Responder.transferred_of_report _ device.recorded _ asked parsed cmd success
  have warranted := reached.lawful.warranted
  have sized := reached.sized
  rw [phase] at warranted sized
  obtain ⟨calls, since, -, -, -, complete⟩ := warranted details rfl
  have stored : Stored details calls component.image.length := sized details rfl ▸ complete rfl
  exact ⟨details, calls, since,
    stored.bytes_eq (tracked.intact_run small intact uncrowded details calls since)⟩

/-! ## Two pieces -/

namespace TwoPieces

/-- The one component of the device. -/
def key : ComponentKey := { classification := .firmware, identifier := 1 }

/-- An image of two pieces. -/
def image : List UInt8 := (List.range 64).map UInt8.ofNat

/-- A plan with that image. -/
def plan : UpdatePlan := { version := .raw [], components := [{ key, version := .raw [], image }] }

/-- An agent that serves 32 bytes at once. -/
def settings : AgentSettings := { maxTransferSize := 32 }

/-- A device that agrees to everything, and whose clock moves on by more than the time of a
repetition whenever it is read. -/
def device : Device Nat where
  identifiers now := ({}, now)
  components _ := [{ key }]
  activeVersion _ := .raw []
  updateComponent _ _ now := (0, now)
  firmwareData _ _ _ now := (.success, now)
  verify _ now := (.success, now)
  apply _ now := (.ok .empty, now)
  now now := (now, now + 1001)

/-- The agent enters an update and announces the component, and the device agrees. -/
def calls : List SessionInput :=
  [.issue .requestUpdate, .process [0, 5, 0x10, 0, 0, 0, 0],
    .issue .passComponentTable, .process [1, 5, 0x13, 0, 0, 0]]

/-- The requests behind these calls. -/
def inputs : List ResponderInput :=
  [.request ⟨8⟩ [0x80, 5, 0x10, 32, 0, 0, 0, 1, 0, 2, 0, 0, 0, 0],
    .request ⟨8⟩ [0x81, 5, 0x13, 5, 10, 0, 1, 0, 0, 0, 0, 0, 0, 0, 0]]

/-- The session as it begins. -/
def fresh : Session := { settings, plan, outcomes := Session.freshOutcomes plan }

/-- The responder before the component begins. -/
def history : ResponderHistory Nat :=
  ResponderHistory.run device { responder := .withMaxMessage 4096, state := 0 } inputs

/-- The request to update the component. -/
def request : List UInt8 :=
  [0x82, 5, 0x14, 10, 0, 1, 0, 0, 0, 0, 0, 0, 64, 0, 0, 0, 0, 0, 0, 0, 0, 0]

/-- The answer to it. -/
def answer : List UInt8 := [2, 5, 0x14, 0, 0, 0, 0, 0, 0, 0, 0, 0]

/-- Both sides after the answer. -/
def begun : Connection Nat where
  session := (((fresh.run calls).issue .updateComponent).2.process answer).2
  history := history.next device (.request ⟨8⟩ request)

theorem begins : Connection.Begins device ⟨8⟩ (fresh.run calls) history begun where
  begun := ⟨request, _, answer, rfl, rfl, rfl, rfl⟩
  transferring := rfl
  idle := ⟨rfl, rfl⟩

end TwoPieces

/-- Two pieces that are asked for and answered one after the other are the image. -/
theorem two_pieces_arrive_intact :
    ∃ details calls, CallsSince
        (TwoPieces.begun.run TwoPieces.device ⟨8⟩
          [.progress, .serve, .reply, .progress, .serve, .reply]).history.events details calls ∧
      calls.flatMap DeviceCall.storedBytes = TwoPieces.image := by
  obtain ⟨component, current, -, complete⟩ :=
    image_intact_within_window TwoPieces.device 4096 0 TwoPieces.inputs
      (rfl : Session.start TwoPieces.settings TwoPieces.plan = .ok TwoPieces.fresh)
      TwoPieces.calls ⟨8⟩ TwoPieces.begins [.progress, .serve, .reply, .progress, .serve, .reply]
  have same : component.image = TwoPieces.image :=
    congrArg ComponentImage.image (Option.some.inj (current.symm.trans rfl))
  rw [← same]
  exact complete (by unfold Connection.Uncrowded; decide +kernel) [0x82, 5, 0x16, 0]
    { iid := 2, typ := 5, cmd := 0x16, data := [0] } rfl rfl rfl rfl

set_option maxRecDepth 4000 in
/-- The device repeats its first request until 33 of them are in flight. It takes the answer to
the first as the piece it is, asks for the next piece under the number of the second, and
takes the answer to the second, which brings the first piece again, for the next one. -/
theorem old_piece_taken_for_next :
    Connection.Begins TwoPieces.device ⟨8⟩ (TwoPieces.fresh.run TwoPieces.calls)
        TwoPieces.history TwoPieces.begun ∧
      ¬ ∀ schedule step new offset data details result,
        ((TwoPieces.begun.run TwoPieces.device ⟨8⟩ schedule).next TwoPieces.device ⟨8⟩
            step).history.events =
          (TwoPieces.begun.run TwoPieces.device ⟨8⟩ schedule).history.events ++ new →
        .called (.firmwareData offset data details result) ∈ new →
        data = (TwoPieces.image.drop offset).take data.length := by
  refine ⟨TwoPieces.begins, fun intact => ?_⟩
  have wrong := intact (List.replicate 33 .progress ++ [.serve, .serve, .reply, .progress]) .reply
    [.called (.firmwareData 32 (TwoPieces.image.take 32) { size := 64, key := TwoPieces.key }
      .success)] 32 (TwoPieces.image.take 32) _ _ rfl (List.mem_singleton.mpr rfl)
  exact absurd wrong (by decide)

end FirmwareUpdate
