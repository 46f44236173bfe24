import FirmwareUpdate.Proofs.Device.Delivery
import FirmwareUpdate.Proofs.Device.Soundness

/-!
# The progress that a device reports

A device reports how much of an image it has, as a number of hundredths. A hundredth is a whole
number of bytes that is rounded up, so the report is the percentage of an image whose size is
rounded up to whole hundreds of bytes. It is exact for the images of such a size, and too low for
the others. `Counted` is the invariant behind it: the offset of a transfer is the number of bytes
that the device has stored since the component was accepted.
-/

namespace FirmwareUpdate

open Wire

/-! ## Hundredths -/

namespace Responder

variable {offset size : Nat}

/-- The report is the percentage of an image of whole hundreds of bytes. -/
theorem progressPercent_eq (offset size : Nat) :
    progressPercent offset size = 100 * offset / (100 * ((size + 99) / 100)) :=
  (Nat.mul_div_mul_left offset _ (by decide)).symm

/-- No report is above the percentage. -/
theorem progressPercent_le (some : 0 < size) :
    progressPercent offset size ≤ 100 * offset / size := by
  rw [progressPercent_eq]
  exact Nat.div_le_div_left (by omega) some

/-- A percentage is one. -/
theorem percentage_le (within : offset ≤ size) : 100 * offset / size ≤ 100 :=
  Nat.div_le_of_le_mul (Nat.mul_comm size 100 ▸ Nat.mul_le_mul_left 100 within)

/-- The report is the percentage where the size is a number of whole hundreds. -/
theorem progressPercent_of_hundreds (hundreds : 100 ∣ size) :
    progressPercent offset size = 100 * offset / size := by
  rw [progressPercent_eq]
  congr 1
  omega

/-- A complete image is reported as such only if its size is a number of whole hundreds. -/
theorem progressPercent_self_iff (some : 0 < size) :
    progressPercent size size = 100 ↔ 100 ∣ size := by
  constructor
  · intro complete
    have whole : 100 * ((size + 99) / 100) ≤ size := by
      have least := Nat.div_mul_le_self size ((size + 99) / 100)
      rwa [show size / ((size + 99) / 100) = 100 from complete] at least
    omega
  · intro hundreds
    rw [progressPercent_of_hundreds hundreds, Nat.mul_div_cancel _ some]

/-- What a device reports while it receives an image. -/
theorem progress_of_download {responder : Responder} {result : Option TransferResult}
    {exchange : Exchange} {options : UInt32} {details : ComponentDetails}
    (fetching : responder.phase = .download offset result exchange options details)
    (some : 0 < details.size) (within : offset ≤ details.size) :
    responder.status.progress.toNat = progressPercent offset details.size := by
  have small : progressPercent offset details.size ≤ 100 :=
    Nat.le_trans (progressPercent_le some) (percentage_le within)
  simp only [status, fetching, if_pos some]
  exact UInt8.toNat_ofNat_of_lt' (Nat.lt_of_le_of_lt small (by decide))

end Responder

/-! ## Bytes that are stored -/

/-- The offset of a transfer is the number of bytes that have been stored since the component was
accepted. -/
def Counted : DevicePhase → List UpdateEvent → Prop
  | .download offset _ _ _ details, events =>
    ∃ calls, CallsSince events details calls ∧
      (calls.flatMap DeviceCall.storedBytes).length = offset
  | _, _ => True

theorem Counted.of_details? {phase : DevicePhase} (none : phase.details? = none)
    (events : List UpdateEvent) : Counted phase events := by
  cases phase with
  | download => cases none
  | _ => trivial

/-- Calls that have no bearing on images store nothing. -/
theorem storedBytes_of_quiet {calls : List DeviceCall}
    (quiet : ∀ call ∈ calls, (UpdateEvent.called call).concernsImage = false) :
    calls.flatMap DeviceCall.storedBytes = [] := by
  rw [flatMap_storedBytes, (filters_of_quiet quiet).1, List.flatMap_nil]

theorem Counted.append {phase : DevicePhase} {events : List UpdateEvent}
    (counted : Counted phase events) {more : List DeviceCall}
    (quiet : ∀ call ∈ more, (UpdateEvent.called call).concernsImage = false) :
    Counted phase (events ++ more.map .called) := by
  cases phase with
  | download =>
      obtain ⟨calls, since, stored⟩ := counted
      refine ⟨calls ++ more, since.append more, ?_⟩
      rw [List.flatMap_append, storedBytes_of_quiet quiet, List.append_nil, stored]
  | _ => trivial

/-- A step of the image stores what it says. -/
theorem ImageStep.counted {before after : DevicePhase} {new events : List UpdateEvent}
    (step : ImageStep before new after) (counted : Counted before events) :
    Counted after (events ++ new) := by
  cases step with
  | aside quiet apart =>
      obtain ⟨more, rfl, aside⟩ := called_of_quiet quiet
      rcases apart with rfl | left
      · exact counted.append aside
      · exact .of_details? left _
  | begun record options sized =>
      obtain ⟨size, sized⟩ := sized
      exact ⟨[], ⟨events ++ [.called (.updateComponent true record 0)], record, size, by simp,
        sized, by simp [sized]⟩, rfl⟩
  | waited | broken => rwa [List.append_nil]
  | received data result bounded some =>
      obtain ⟨calls, since, stored⟩ := counted
      unfold Responder.afterData
      split <;> rename_i success <;> refine ⟨_, since.append [_], ?_⟩ <;>
        rw [List.flatMap_append, List.length_append, stored, List.flatMap_singleton]
      · rw [success]
        rfl
      · cases result with
        | success => exact absurd rfl success
        | _ => rfl
  | _ => trivial

namespace ResponderHistory

variable {σ : Type} (device : Device σ)

/-- Every run counts the bytes that are stored. -/
theorem run_counted {history : ResponderHistory σ} (room : history.responder.HasRoom)
    (counted : Counted history.responder.phase history.events) (inputs : List ResponderInput) :
    Counted (history.run device inputs).responder.phase (history.run device inputs).events := by
  induction inputs generalizing history with
  | nil => exact counted
  | cons input rest ih =>
      obtain ⟨new, added, step⟩ := imageStep device history room input
      exact ih (next_hasRoom device room input) (added ▸ step.counted counted)

/-- What is known of a transfer of firmware data. -/
theorem run_download (size : Nat) (state : σ) (inputs : List ResponderInput) {offset : Nat}
    {result : Option TransferResult} {exchange : Exchange} {options : UInt32}
    {details : ComponentDetails} :
    let history := run device { responder := .withMaxMessage size, state } inputs
    history.responder.phase = .download offset result exchange options details →
    offset ≤ details.size ∧ ∃ calls, CallsSince history.events details calls ∧
      (calls.flatMap DeviceCall.storedBytes).length = offset := by
  intro history fetching
  let start : ResponderHistory σ := { responder := .withMaxMessage size, state }
  have room : start.responder.HasRoom := Responder.withMaxMessage_hasRoom size
  have counted : Counted history.responder.phase history.events :=
    run_counted device room trivial inputs
  have fetched : history.responder.phase.Fetched :=
    ((sound_of_fresh size state).run inputs).fetched
  rw [fetching] at counted fetched
  exact ⟨fetched.1, counted⟩

end ResponderHistory

/-- While a device receives an image that is not empty, its offset is the number of bytes that it
has stored since the component was accepted, and its report is the percentage rounded down of an
image whose size is rounded up to whole hundreds of bytes: it fits its byte, is at most 100, is
never above the percentage, is the percentage for a size of whole hundreds, and reaches 100 with a
complete image for these sizes alone. As long as no other component is accepted, it never goes
down. -/
theorem progress_counts_hundredths_rounded_up {σ : Type} (device : Device σ) (size : Nat)
    (state : σ) (inputs : List ResponderInput) {offset : Nat} {result : Option TransferResult}
    {exchange : Exchange} {options : UInt32} {details : ComponentDetails} :
    let history := ResponderHistory.run device { responder := .withMaxMessage size, state } inputs
    let progress := history.responder.status.progress.toNat
    history.responder.phase = .download offset result exchange options details →
    0 < details.size →
    (∃ calls, CallsSince history.events details calls ∧
      (calls.flatMap DeviceCall.storedBytes).length = offset) ∧ offset ≤ details.size ∧
    progress = 100 * offset / (100 * ((details.size + 99) / 100)) ∧ progress ≤ 100 ∧
    progress ≤ 100 * offset / details.size ∧
    (100 ∣ details.size → progress = 100 * offset / details.size) ∧
    (offset = details.size → (progress = 100 ↔ 100 ∣ details.size)) ∧
    ∀ during new, (history.run device during).events = history.events ++ new →
      (∀ record, .accepted record ∉ new) → ∀ later result exchange options component,
        (history.run device during).responder.phase =
          .download later result exchange options component →
        component = details ∧ offset ≤ later ∧
          progress ≤ (history.run device during).responder.status.progress.toNat := by
  intro history progress fetching some
  obtain ⟨within, counted⟩ := ResponderHistory.run_download device size state inputs fetching
  have report := Responder.progress_of_download fetching some within
  have eq : progress = 100 * offset / (100 * ((details.size + 99) / 100)) :=
    report.trans (Responder.progressPercent_eq ..)
  have le : progress ≤ 100 * offset / details.size :=
    Nat.le_trans (Nat.le_of_eq report) (Responder.progressPercent_le some)
  refine ⟨counted, within, eq, Nat.le_trans le (Responder.percentage_le within), le,
    fun hundreds => report.trans (Responder.progressPercent_of_hundreds hundreds), ?_, ?_⟩
  · rintro rfl
    rw [show progress = _ from report]
    exact Responder.progressPercent_self_iff some
  · intro during new added unaccepted later result exchange options component still
    obtain ⟨more, rfl⟩ := called_of_unaccepted unaccepted
    have both : history.run device during = _ :=
      (ResponderHistory.run_append device _ inputs during).symm
    obtain ⟨calls, since, stored⟩ := counted
    obtain ⟨further, others, again, total⟩ := ResponderHistory.run_download device size state
      (inputs ++ during) (both ▸ still)
    rw [← both, added] at again
    obtain ⟨before, rfl, earlier⟩ := again.of_append
    cases since.details_unique earlier
    cases since.unique earlier
    have grown : offset ≤ later := by
      rw [← stored, ← total, List.flatMap_append, List.length_append]
      exact Nat.le_add_right ..
    refine ⟨rfl, grown, ?_⟩
    rw [show progress = _ from report, Responder.progress_of_download still some further]
    exact Nat.div_le_div_right grown

namespace FirstPiece

/-- An update begins in which 64 bytes are moved at once, and the first piece of an image of `size`
bytes arrives. -/
def inputs (size : UInt8) : List ResponderInput :=
  [.request ⟨8⟩ [0x80, 5, 0x10, 64, 0, 0, 0, 1, 0, 1, 0, 0, 0, 0],
    .request ⟨8⟩ [0x81, 5, 0x13, 5, 10, 0, 1, 0, 0, 0, 0, 0, 0, 0, 0],
    .request ⟨8⟩ [0x82, 5, 0x14, 10, 0, 1, 0, 0, 0, 0, 0, 0, size, 0, 0, 0, 0, 0, 0, 0, 0, 0],
    .progress,
    .reply ⟨8⟩ ([0, 5, 0x15, 0] ++ List.replicate 64 0)]

/-- The device after the first piece. -/
def arrived (size : UInt8) : ResponderHistory DeviceScript :=
  ResponderHistory.run DeviceScript.device
    { responder := .withMaxMessage 4096, state := SmallUpdate.script } (inputs size)

/-- The component of such an image. -/
def details (size : Nat) : ComponentDetails := { SmallUpdate.details with size }

end FirstPiece

open FirstPiece in
/-- Of 200 bytes, 64 are 32 hundredths. -/
theorem first_piece_of_two_hundred :
    (arrived 200).responder.phase = .download 64 none .ready 0 (details 200) ∧
      (arrived 200).responder.status.progress.toNat = 100 * 64 / 200 := by
  have fetching : (arrived 200).responder.phase = .download 64 none .ready 0 (details 200) := by
    decide +kernel
  obtain ⟨-, -, -, -, -, exact, -⟩ := progress_counts_hundredths_rounded_up DeviceScript.device 4096
    SmallUpdate.script (inputs 200) fetching (by decide)
  exact ⟨fetching, exact (by decide)⟩

open FirstPiece in
/-- Of 101 bytes, 64 are 63 hundredths, and the device reports 32. -/
theorem first_piece_of_hundred_and_one :
    (arrived 101).responder.phase = .download 64 none .ready 0 (details 101) ∧
      (∃ calls, CallsSince (arrived 101).events (details 101) calls ∧
        (calls.flatMap DeviceCall.storedBytes).length = 64) ∧
      (arrived 101).responder.status.progress.toNat = 32 ∧ 100 * 64 / (details 101).size = 63 := by
  have fetching : (arrived 101).responder.phase = .download 64 none .ready 0 (details 101) := by
    decide +kernel
  exact ⟨fetching, (ResponderHistory.run_download DeviceScript.device 4096 SmallUpdate.script
    (inputs 101) fetching).2, by decide +kernel, rfl⟩

end FirmwareUpdate
