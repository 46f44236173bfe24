import FirmwareUpdate.Device.Scripted
import FirmwareUpdate.Proofs.Device.ImageStep

/-!
# Images are applied only when they are complete and verified

`Warranted` is the invariant of a run: what the device must have been told since the
latest component was accepted, by the phase that the responder is in. A step of the
image keeps it, and every call to verify or apply is made in a phase that warrants it.
-/

namespace FirmwareUpdate

open Wire

namespace DeviceCall

/-- The call stores a piece of an image. -/
def storesPiece : DeviceCall → Bool
  | firmwareData _ _ _ _ => true
  | _ => false

/-- The call verifies an image. -/
def verifies : DeviceCall → Bool
  | verify _ _ => true
  | _ => false

/-- The call applies an image. -/
def applies : DeviceCall → Bool
  | apply _ _ => true
  | _ => false

/-- The bytes that a call stores. -/
def storedBytes : DeviceCall → List UInt8
  | .firmwareData _ data _ .success => data
  | _ => []

end DeviceCall

/-- Only the calls that store a piece bring bytes. -/
theorem flatMap_storedBytes (calls : List DeviceCall) :
    calls.flatMap DeviceCall.storedBytes =
      (calls.filter DeviceCall.storesPiece).flatMap DeviceCall.storedBytes := by
  induction calls with
  | nil => rfl
  | cons call rest ih =>
      cases call <;>
        simp [ih, List.filter_cons, DeviceCall.storesPiece, DeviceCall.storedBytes]

/-- Pieces that follow each other from one offset to another, none of them empty. -/
def Contiguous : Nat → List (Nat × List UInt8) → Nat → Prop
  | start, [], finish => start = finish
  | start, (offset, data) :: rest, finish =>
    offset = start ∧ data ≠ [] ∧ Contiguous (start + data.length) rest finish

/-- A piece that begins where the others end continues them. -/
theorem Contiguous.concat {start middle : Nat} {pieces : List (Nat × List UInt8)}
    (contiguous : Contiguous start pieces middle) {data : List UInt8} (some : data ≠ []) :
    Contiguous start (pieces ++ [(middle, data)]) (middle + data.length) := by
  induction pieces generalizing start with
  | nil =>
      cases contiguous
      exact ⟨rfl, some, rfl⟩
  | cons piece rest ih =>
      obtain ⟨offset, filled, following⟩ := contiguous
      exact ⟨offset, filled, ih following⟩

/-- The calls since the update of a component began, and what the component is: its size
is the size in the accepted request. -/
def CallsSince (events : List UpdateEvent) (details : ComponentDetails)
    (calls : List DeviceCall) : Prop :=
  ∃ earlier record size, events = earlier ++ .accepted record :: calls.map .called ∧
    record.size = some size ∧ details = { size := size.toNat, key := record.key }

/-- Every piece among the calls is one of this component and was stored with success, and
the pieces are the image up to an offset: none is missing, repeated or out of place. -/
def Stored (details : ComponentDetails) (calls : List DeviceCall) (offset : Nat) : Prop :=
  ∃ pieces : List (Nat × List UInt8),
    calls.filter DeviceCall.storesPiece =
      pieces.map (fun piece => .firmwareData piece.1 piece.2 details .success) ∧
    Contiguous 0 pieces offset

namespace CallsSince

variable {events : List UpdateEvent} {details : ComponentDetails} {calls : List DeviceCall}

/-- What the device is asked for after a component was accepted is asked for since then. -/
theorem append (since : CallsSince events details calls) (more : List DeviceCall) :
    CallsSince (events ++ more.map .called) details (calls ++ more) := by
  obtain ⟨earlier, record, size, rfl, sized, same⟩ := since
  exact ⟨earlier, record, size, by simp, sized, same⟩

/-- Calls that come after some events come last. -/
theorem of_append {more : List DeviceCall}
    (since : CallsSince (events ++ more.map .called) details calls) :
    ∃ before, calls = before ++ more ∧ CallsSince events details before := by
  obtain ⟨earlier, record, size, split, sized, details⟩ := since
  have outside (front : List UpdateEvent) (rest : List DeviceCall)
      (among : more.map UpdateEvent.called = front ++ .accepted record :: rest.map .called) :
      False := by
    have member : .accepted record ∈ more.map UpdateEvent.called := by simp [among]
    simp at member
  rcases List.append_eq_append_iff.mp split with ⟨front, -, among⟩ | ⟨back, rfl, rest⟩
  · exact (outside front calls among).elim
  · cases back with
    | nil => exact (outside [] calls rest.symm).elim
    | cons head tail =>
        obtain ⟨rfl, called⟩ := List.cons.inj rest
        obtain ⟨before, after, rfl, rfl, same⟩ := List.map_eq_append_iff.mp called
        rw [List.map_inj_right fun _ _ => UpdateEvent.called.inj] at same
        subst same
        exact ⟨before, rfl, earlier, record, size, rfl, sized, details⟩

/-- No call has been made since a component was accepted just now. -/
theorem of_accepted {record : ComponentRecord}
    (since : CallsSince (events ++ [.accepted record]) details calls) : calls = [] := by
  obtain ⟨earlier, other, size, split, -⟩ := since
  have last := congrArg List.getLast? split
  rw [List.getLast?_concat] at last
  rcases List.eq_nil_or_concat calls with rfl | ⟨front, call, rfl⟩
  · rfl
  · rw [List.concat_eq_append, List.map_append, List.map_singleton, ← List.cons_append,
      ← List.append_assoc, List.getLast?_concat] at last
    cases last

/-- The calls since a component was accepted are the same for all who count them. -/
theorem unique {other : ComponentDetails} {others : List DeviceCall}
    (since : CallsSince events details calls)
    (again : CallsSince events other others) : calls = others := by
  obtain ⟨earlier, record, size, rfl, -⟩ := since
  rw [List.append_cons] at again
  obtain ⟨before, rfl, none⟩ := again.of_append
  rw [none.of_accepted, List.nil_append]

/-- And so is the component. -/
theorem details_unique {other : ComponentDetails} {others : List DeviceCall}
    (since : CallsSince events details calls)
    (again : CallsSince events other others) : details = other := by
  cases since.unique again
  obtain ⟨earlier, record, size, rfl, sized, rfl⟩ := since
  obtain ⟨before, same, bytes, split, also, rfl⟩ := again
  cases (List.append_inj' split rfl).2
  cases sized.symm.trans also
  rfl

end CallsSince

namespace Stored

variable {details : ComponentDetails} {calls : List DeviceCall} {offset : Nat}

/-- No piece has stored nothing. -/
theorem nil : Stored details [] 0 := ⟨[], rfl, rfl⟩

/-- Calls that store nothing change nothing. -/
theorem append (stored : Stored details calls offset) {more : List DeviceCall}
    (other : more.filter DeviceCall.storesPiece = []) : Stored details (calls ++ more) offset := by
  obtain ⟨pieces, filtered, contiguous⟩ := stored
  exact ⟨pieces, by rw [List.filter_append, other, List.append_nil, filtered], contiguous⟩

/-- The next piece is stored behind the others. -/
theorem concat (stored : Stored details calls offset) {data : List UInt8} (some : data ≠ []) :
    Stored details (calls ++ [.firmwareData offset data details .success])
      (offset + data.length) := by
  obtain ⟨pieces, filtered, contiguous⟩ := stored
  refine ⟨pieces ++ [(offset, data)], ?_, contiguous.concat some⟩
  rw [List.filter_append, filtered, List.map_append]
  rfl

end Stored

/-- What the phase of a responder says about the calls since a component was accepted. -/
def PhaseWarrants (phase : DevicePhase) (calls : List DeviceCall) : Prop :=
  match phase with
  | .download offset result _ _ details =>
    calls.filter DeviceCall.verifies = [] ∧ calls.filter DeviceCall.applies = [] ∧
      (result = none → offset < details.size ∧ Stored details calls offset) ∧
      (result = some .success → Stored details calls details.size)
  | .verify exchange details =>
    Stored details calls details.size ∧ calls.filter DeviceCall.applies = [] ∧
      ((∀ code, exchange ≠ .failed code) → calls.filter DeviceCall.verifies = [])
  | .apply exchange details =>
    Stored details calls details.size ∧
      calls.filter DeviceCall.verifies = [.verify details .success] ∧
      ((∀ code, exchange ≠ .failed code) → calls.filter DeviceCall.applies = [])
  | .idle _ | .learnComponents _ _ | .readyXfer | .activate => True

/-- A component is being updated only after it has been accepted, and as far as the calls
since then allow. -/
def Warranted (phase : DevicePhase) (events : List UpdateEvent) : Prop :=
  ∀ details, phase.details? = some details →
    ∃ calls, CallsSince events details calls ∧ PhaseWarrants phase calls

/-- A call to verify or apply an image comes at the right moment. -/
def Rightful (before : List UpdateEvent) : UpdateEvent → Prop
  | .called (.verify details _) =>
    ∃ calls, CallsSince before details calls ∧ Stored details calls details.size ∧
      calls.filter DeviceCall.verifies = [] ∧ calls.filter DeviceCall.applies = []
  | .called (.apply details _) =>
    ∃ calls, CallsSince before details calls ∧ Stored details calls details.size ∧
      calls.filter DeviceCall.verifies = [.verify details .success] ∧
      calls.filter DeviceCall.applies = []
  | _ => True

/-- Calls without a bearing on images. -/
theorem filters_of_quiet {calls : List DeviceCall}
    (quiet : ∀ call ∈ calls, (UpdateEvent.called call).concernsImage = false) :
    calls.filter DeviceCall.storesPiece = [] ∧ calls.filter DeviceCall.verifies = [] ∧
      calls.filter DeviceCall.applies = [] := by
  refine ⟨?_, ?_, ?_⟩ <;> refine List.filter_eq_nil_iff.mpr fun call member => ?_ <;>
    have aside := quiet call member <;> cases call <;>
    simp_all [UpdateEvent.concernsImage, DeviceCall.storesPiece, DeviceCall.verifies,
      DeviceCall.applies]

/-- Quiet events are calls. -/
theorem called_of_quiet {events : List UpdateEvent}
    (quiet : ∀ event ∈ events, event.concernsImage = false) :
    ∃ calls : List DeviceCall, events = calls.map .called ∧
      ∀ call ∈ calls, (UpdateEvent.called call).concernsImage = false := by
  induction events with
  | nil => exact ⟨[], rfl, fun _ member => nomatch member⟩
  | cons event rest ih =>
      obtain ⟨calls, rfl, aside⟩ := ih fun other member =>
        quiet other (List.mem_cons_of_mem _ member)
      cases event with
      | called call =>
          refine ⟨call :: calls, rfl, fun other member => ?_⟩
          rcases List.mem_cons.mp member with rfl | among
          · exact quiet _ List.mem_cons_self
          · exact aside other among
      | accepted record =>
          have noisy := quiet (.accepted record) List.mem_cons_self
          simp [UpdateEvent.concernsImage] at noisy

/-- Events among which no component is accepted are calls. -/
theorem called_of_unaccepted {events : List UpdateEvent}
    (unaccepted : ∀ record, .accepted record ∉ events) :
    ∃ calls : List DeviceCall, events = calls.map .called := by
  induction events with
  | nil => exact ⟨[], rfl⟩
  | cons event rest ih =>
      obtain ⟨calls, rfl⟩ := ih fun record member => unaccepted record (.tail _ member)
      cases event with
      | called call => exact ⟨call :: calls, rfl⟩
      | accepted record => exact absurd List.mem_cons_self (unaccepted record)

/-- Calls that do not concern an image leave the warrants of a phase. -/
theorem PhaseWarrants.append {phase : DevicePhase} {calls more : List DeviceCall}
    (warrants : PhaseWarrants phase calls)
    (quiet : ∀ call ∈ more, (UpdateEvent.called call).concernsImage = false) :
    PhaseWarrants phase (calls ++ more) := by
  obtain ⟨stores, verifies, applies⟩ := filters_of_quiet quiet
  cases phase with
  | download offset result exchange options details =>
      obtain ⟨unverified, unapplied, incomplete, complete⟩ := warrants
      refine ⟨by simp [unverified, verifies], by simp [unapplied, applies], fun none => ?_,
        fun success => (complete success).append stores⟩
      obtain ⟨missing, stored⟩ := incomplete none
      exact ⟨missing, stored.append stores⟩
  | verify exchange details =>
      obtain ⟨stored, unapplied, unverified⟩ := warrants
      exact ⟨stored.append stores, by simp [unapplied, applies],
        fun unfailed => by simp [unverified unfailed, verifies]⟩
  | apply exchange details =>
      obtain ⟨stored, verified, unapplied⟩ := warrants
      exact ⟨stored.append stores, by simp [verified, verifies],
        fun unfailed => by simp [unapplied unfailed, applies]⟩
  | idle reason => trivial
  | learnComponents pull passed => trivial
  | readyXfer => trivial
  | activate => trivial

/-- A single event has nothing before it. -/
private theorem alone {single event : UpdateEvent} {earlier later : List UpdateEvent}
    (split : [single] = earlier ++ event :: later) : earlier = [] ∧ event = single := by
  cases earlier with
  | nil =>
      cases split
      exact ⟨rfl, rfl⟩
  | cons head tail => simp at split

/-- With a piece that was stored the image reaches further, and with one that was not there is a
failure to report. -/
theorem Warranted.received {offset : Nat} {exchange : Exchange} {options : UInt32}
    {details : ComponentDetails} {events : List UpdateEvent}
    (warranted : Warranted (.download offset none exchange options details) events)
    {data : List UInt8} (result : TransferResult) (bounded : data.length ≤ details.size - offset)
    (some : offset < details.size → data ≠ []) :
    Warranted (Responder.afterData offset data.length result options details)
      (events ++ [.called (.firmwareData offset data details result)]) := by
  obtain ⟨calls, since, unverified, unapplied, incomplete, -⟩ := warranted details rfl
  obtain ⟨missing, stored⟩ := incomplete rfl
  unfold Responder.afterData
  split
  · rename_i success
    subst success
    rintro details ⟨⟩
    have further := stored.concat (some missing)
    refine ⟨_, since.append [_], by simp [unverified, DeviceCall.verifies],
      by simp [unapplied, DeviceCall.applies], fun none => ?_, fun complete => ?_⟩
    -- there is no result yet as long as bytes are missing, and with the last one it is success
    · split at none
      · cases none
      · exact ⟨by omega, further⟩
    · split at complete
      · rename_i reached
        exact reached ▸ further
      · cases complete
  · rename_i failure
    rintro details ⟨⟩
    exact ⟨_, since.append [_], by simp [unverified, DeviceCall.verifies],
      by simp [unapplied, DeviceCall.applies], fun none => (by cases none),
      fun success => absurd (Option.some.inj success) failure⟩

namespace ImageStep

variable {before after : DevicePhase} {new : List UpdateEvent}

/-- A step of the image keeps what the phase needs. -/
theorem warranted (step : ImageStep before new after) {events : List UpdateEvent}
    (warranted : Warranted before events) : Warranted after (events ++ new) := by
  cases step with
  | aside quiet apart =>
      -- The calls that come are none of those about the image, so what they warrant stays.
      obtain ⟨more, rfl, aside⟩ := called_of_quiet quiet
      intro details updating
      rcases apart with rfl | left
      · obtain ⟨calls, since, warrants⟩ := warranted details updating
        exact ⟨calls ++ more, since.append more, warrants.append aside⟩
      · rw [left] at updating
        cases updating
  | begun record options sized =>
      rintro details ⟨⟩
      obtain ⟨size, sized⟩ := sized
      refine ⟨[], ⟨events ++ [.called (.updateComponent true record 0)], record, size, by simp,
        sized, by simp [sized]⟩, rfl, rfl, fun none => ?_, fun success => ?_⟩
      · -- An empty component is complete from the start, with nothing delivered.
        split at none
        · cases none
        · rename_i filled
          exact ⟨Nat.pos_of_ne_zero filled, .nil⟩
      · split at success
        · rename_i empty
          rw [empty]
          exact .nil
        · cases success
  | waited =>
      rintro details ⟨⟩
      rw [List.append_nil]
      exact warranted _ rfl
  | received data result bounded some => exact warranted.received result bounded some
  | broken =>
      rintro details ⟨⟩
      obtain ⟨calls, since, unverified, unapplied, -, -⟩ := warranted _ rfl
      rw [List.append_nil]
      exact ⟨calls, since, unverified, unapplied, fun none => (by cases none),
        fun success => (by cases success)⟩
  | transferred =>
      rintro details ⟨⟩
      obtain ⟨calls, since, unverified, unapplied, -, complete⟩ := warranted _ rfl
      rw [List.append_nil]
      -- Only a whole download ends in success, which is what verification rests on.
      exact ⟨calls, since, complete rfl, unapplied, fun _ => unverified⟩
  | verified unfailed =>
      rintro details ⟨⟩
      obtain ⟨calls, since, stored, unapplied, unverified⟩ := warranted _ rfl
      exact ⟨_, since.append [_], stored.append rfl,
        by simp [unverified unfailed, DeviceCall.verifies],
        fun _ => by simp [unapplied, DeviceCall.applies]⟩
  | unverified unfailed result =>
      rintro details ⟨⟩
      obtain ⟨calls, since, stored, unapplied, -⟩ := warranted _ rfl
      exact ⟨_, since.append [_], stored.append rfl, by simp [unapplied, DeviceCall.applies],
        fun again => absurd rfl (again _)⟩
  | applied unfailed outcome => rintro details ⟨⟩
  | unapplied unfailed outcome =>
      rintro details ⟨⟩
      obtain ⟨calls, since, stored, verified, -⟩ := warranted _ rfl
      exact ⟨_, since.append [_], stored.append rfl, by simp [verified, DeviceCall.verifies],
        fun again => absurd rfl (again _)⟩

/-- Every event of a step comes at the right moment. -/
theorem rightful (step : ImageStep before new after) {events earlier later : List UpdateEvent}
    {event : UpdateEvent} (warranted : Warranted before events)
    (occurs : new = earlier ++ event :: later) : Rightful (events ++ earlier) event := by
  have member : event ∈ new := by simp [occurs]
  cases step with
  | aside quiet apart =>
      have aside := quiet event member
      match event, aside with
      | .called (.requestUpdate _ _), _ | .called (.packageData _), _
      | .called (.updateComponent _ _ _), _ | .called (.activate _ _), _
      | .called (.cancelComponent _), _ => trivial
  | begun record options sized =>
      rcases List.mem_cons.mp member with rfl | accepted
      · trivial
      · cases List.mem_singleton.mp accepted
        trivial
  | waited | broken | transferred => simp at occurs
  | received data result bounded some =>
      cases List.mem_singleton.mp member
      trivial
  | verified unfailed =>
      obtain ⟨rfl, rfl⟩ := alone occurs
      obtain ⟨calls, since, stored, unapplied, unverified⟩ := warranted _ rfl
      exact ⟨calls, by simpa using since, stored, unverified unfailed, unapplied⟩
  | unverified unfailed result =>
      obtain ⟨rfl, rfl⟩ := alone occurs
      obtain ⟨calls, since, stored, unapplied, unverified⟩ := warranted _ rfl
      exact ⟨calls, by simpa using since, stored, unverified unfailed, unapplied⟩
  | applied unfailed outcome =>
      obtain ⟨rfl, rfl⟩ := alone occurs
      obtain ⟨calls, since, stored, verified, unapplied⟩ := warranted _ rfl
      exact ⟨calls, by simpa using since, stored, verified, unapplied unfailed⟩
  | unapplied unfailed outcome =>
      obtain ⟨rfl, rfl⟩ := alone occurs
      obtain ⟨calls, since, stored, verified, unapplied⟩ := warranted _ rfl
      exact ⟨calls, by simpa using since, stored, verified, unapplied unfailed⟩

end ImageStep

namespace ResponderHistory

variable {σ : Type} {device : Device σ}

/-- What holds along a run: sizes and counter are in range, the phase is warranted, and
every call so far came at the right moment. -/
structure Lawful (history : ResponderHistory σ) : Prop where
  room : history.responder.HasRoom
  fits : FitsInstance history.responder.nextIid
  warranted : Warranted history.responder.phase history.events
  rightful : ∀ before event after, history.events = before ++ event :: after →
    Rightful before event

/-- One more input keeps a history lawful. -/
theorem next_lawful {history : ResponderHistory σ} (lawful : history.Lawful)
    (input : ResponderInput) : (history.next device input).Lawful := by
  obtain ⟨new, added, step⟩ := imageStep device history lawful.room input
  refine ⟨next_hasRoom device lawful.room input, (next_keepsRoom device input).fits lawful.fits,
    ?_, fun before event after split => ?_⟩
  · rw [added]
    exact step.warranted lawful.warranted
  · rw [added] at split
    rcases List.append_eq_append_iff.mp split with
      ⟨earlier, rfl, occurs⟩ | ⟨middle, old, rest⟩
    · exact step.rightful lawful.warranted occurs
    · cases middle with
      | nil =>
          rw [List.append_nil] at old
          have occurs : new = [] ++ event :: after := rest.symm
          simpa [old] using step.rightful lawful.warranted occurs
      | cons head tail =>
          cases rest
          exact lawful.rightful before event tail old

/-- A history that is lawful stays so, whatever the inputs are. -/
theorem run_lawful {history : ResponderHistory σ} (lawful : history.Lawful)
    (inputs : List ResponderInput) : (history.run device inputs).Lawful := by
  induction inputs generalizing history with
  | nil => exact lawful
  | cons input rest ih => exact ih (next_lawful lawful input)

/-- Every run of a responder is lawful. -/
theorem run_lawful_of_start (device : Device σ) (size : Nat) (state : σ)
    (inputs : List ResponderInput) :
    (run device { responder := .withMaxMessage size, state } inputs).Lawful := by
  refine run_lawful ⟨Responder.withMaxMessage_hasRoom size, fitsInstance_zero,
    fun _ updating => ?_, fun before event after split => ?_⟩ inputs
  · cases updating
  · simp at split

end ResponderHistory

/-- In every run of a responder, whatever it receives and whatever its device answers, an
image is verified only when all of it has been stored since the latest component was
accepted, and only once; and it is applied only after that verification has succeeded,
and only once. -/
theorem image_applied_only_complete_and_verified {σ : Type} (device : Device σ) (size : Nat)
    (state : σ) (inputs : List ResponderInput) (before after : List UpdateEvent)
    (details : ComponentDetails) :
    let history : ResponderHistory σ :=
      { responder := .withMaxMessage size, state }
    (∀ result, (history.run device inputs).events =
        before ++ .called (.verify details result) :: after →
      ∃ calls, CallsSince before details calls ∧ Stored details calls details.size ∧
        calls.filter DeviceCall.verifies = [] ∧ calls.filter DeviceCall.applies = []) ∧
    (∀ outcome, (history.run device inputs).events =
        before ++ .called (.apply details outcome) :: after →
      ∃ calls, CallsSince before details calls ∧ Stored details calls details.size ∧
        calls.filter DeviceCall.verifies = [.verify details .success] ∧
        calls.filter DeviceCall.applies = []) := by
  intro history
  have lawful := ResponderHistory.run_lawful_of_start device size state inputs
  exact ⟨fun result split => lawful.rightful _ _ _ split,
    fun outcome split => lawful.rightful _ _ _ split⟩

/-! ## A small update -/

namespace SmallUpdate

/-- A device with one component, which agrees to everything. -/
def script : DeviceScript :=
  { components := [{ key := { classification := .firmware, identifier := 1 } }] }

/-- The component of an image of eight bytes. -/
def details : ComponentDetails :=
  { size := 8, key := { classification := .firmware, identifier := 1 } }

/-- The component as the table announces it. -/
def entry : ComponentRecord := { key := details.key, stamp := 0, version := .raw [] }

/-- The component as its update begins. -/
def begun : ComponentRecord := { entry with size := some 8, options := some 0 }

/-- Requests to update, with a table of one component and the beginning of its update; the
image in one piece; and the reports of transfer, verification and application. -/
def inputs : List ResponderInput :=
  [.request ⟨8⟩ [0x80, 5, 0x10, 32, 0, 0, 0, 1, 0, 1, 0, 0, 0, 0],
    .request ⟨8⟩ [0x81, 5, 0x13, 5, 10, 0, 1, 0, 0, 0, 0, 0, 0, 0, 0],
    .request ⟨8⟩ [0x82, 5, 0x14, 10, 0, 1, 0, 0, 0, 0, 0, 0, 8, 0, 0, 0, 0, 0, 0, 0, 0, 0],
    .progress,
    .reply ⟨8⟩ [0, 5, 0x15, 0, 1, 2, 3, 4, 5, 6, 7, 8],
    .progress, .progress, .progress]

/-- What happens until the image is verified. -/
def stored : List UpdateEvent :=
  [.called (.requestUpdate
      { maxTransfer := 32, componentCount := 1, maxOutstanding := 1, packageDataSize := 0,
        version := .raw [] } .accept),
    .called (.updateComponent false entry 0),
    .called (.updateComponent true begun 0),
    .accepted begun,
    .called (.firmwareData 0 [1, 2, 3, 4, 5, 6, 7, 8] details .success)]

end SmallUpdate

/-- An image of eight bytes is verified after its one piece, and applied after that. -/
theorem small_image_verified_and_applied :
    (∃ calls, CallsSince SmallUpdate.stored SmallUpdate.details calls ∧
      Stored SmallUpdate.details calls 8 ∧ calls.filter DeviceCall.verifies = [] ∧
      calls.filter DeviceCall.applies = []) ∧
    ∃ calls, CallsSince (SmallUpdate.stored ++ [.called (.verify SmallUpdate.details .success)])
        SmallUpdate.details calls ∧
      Stored SmallUpdate.details calls 8 ∧
      calls.filter DeviceCall.verifies = [.verify SmallUpdate.details .success] ∧
      calls.filter DeviceCall.applies = [] :=
  ⟨(image_applied_only_complete_and_verified DeviceScript.device 0 SmallUpdate.script
      SmallUpdate.inputs SmallUpdate.stored
      [.called (.apply SmallUpdate.details (.ok .empty))] SmallUpdate.details).1 .success rfl,
    (image_applied_only_complete_and_verified DeviceScript.device 0 SmallUpdate.script
      SmallUpdate.inputs
      (SmallUpdate.stored ++ [.called (.verify SmallUpdate.details .success)]) []
      SmallUpdate.details).2 (.ok .empty) rfl⟩

end FirmwareUpdate
