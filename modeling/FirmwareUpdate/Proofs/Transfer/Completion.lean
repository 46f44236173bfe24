import FirmwareUpdate.Proofs.Transfer.Receiving
import FirmwareUpdate.Proofs.Transfer.Recovery
import FirmwareUpdate.Proofs.Transfer.Served

/-!
# What a requester takes for complete

The answer to the last portion says that the data are complete, and then they are. Asked later,
`Transfer.isComplete` goes by the handle that came with that portion, which the peer has chosen.
It agrees with the answer where the handle is the size of the data, as it is in every portion that
`Transfer.serve` makes of a request of the same transfer.
-/

namespace FirmwareUpdate

namespace Receiving

variable {receiving after : Receiving} {response : PartResponse} {last : Bool}

/-- A response that is accepted, by what it does to the transfer and the data. -/
theorem take_eq_ok (taken : receiving.take response = (.ok last, after)) :
    receiving.transfer.accept response receiving.output = .ok (after.transfer, after.output) ∧
      last = !after.transfer.inProgress := by
  rw [take_eq] at taken
  cases accepted : receiving.transfer.accept response receiving.output with
  | error error =>
      rw [accepted] at taken
      cases taken
  | ok left =>
      rw [accepted] at taken
      cases taken
      exact ⟨rfl, rfl⟩

/-- The announced size stays, whatever comes in. -/
@[simp] theorem totalSize_next (receiving : Receiving) (input : ReceivingInput) :
    (receiving.next input).transfer.totalSize = receiving.transfer.totalSize := by
  cases input with
  | reset => rfl
  | take response =>
      cases accepted : receiving.transfer.accept response receiving.output with
      | error error => simp [next, take_eq, accepted]
      | ok left =>
          rw [next_of_accept accepted]
          exact (Transfer.length_of_accept accepted).1

@[simp] theorem totalSize_run (receiving : Receiving) (inputs : List ReceivingInput) :
    (receiving.run inputs).transfer.totalSize = receiving.transfer.totalSize := by
  induction inputs generalizing receiving with
  | nil => rfl
  | cons input rest ih => exact (ih (receiving.next input)).trans (receiving.totalSize_next input)

/-- After an accepted response a transfer counts as complete if the portion was the last one and
came with the size as its handle. -/
theorem isComplete_of_take (taken : receiving.take response = (.ok last, after))
    (some : 0 < receiving.transfer.totalSize) :
    after.transfer.isComplete = true ↔
      last = true ∧ response.nextHandle.toNat = receiving.transfer.totalSize := by
  obtain ⟨accepted, rfl⟩ := take_eq_ok taken
  obtain ⟨_, _, _, _, left, -⟩ := Transfer.accept_eq_ok accepted
  rw [left]
  simp [Transfer.isComplete, some]

/-- Some responder has served the response for the request that comes next. -/
def IsServed (receiving : Receiving) (response : PartResponse) : Prop :=
  ∃ (responder : Transfer) (source : List UInt8) (portionSize : Nat),
    (responder.serve receiving.transfer.nextRequest source portionSize).1 = .ok response

/-- A portion that has been served for the next request belongs where its request says. -/
theorem IsServed.offset (served : receiving.IsServed response) {offset : Nat}
    (offsets : receiving.transfer.offsetOf response.flag = .ok offset) :
    response.nextHandle.toNat = offset + response.portion.length := by
  obtain ⟨responder, source, portionSize, answered⟩ := served
  obtain ⟨start, served⟩ := Transfer.served_of_serve (Prod.ext answered rfl)
  have place : offset = if receiving.transfer.inProgress then receiving.transfer.handle.toNat
      else 0 := by
    simp only [Transfer.offsetOf] at offsets
    split at offsets
    · cases offsets
    · cases offsets
      rfl
  have begins : start = offset := by
    rcases served.asked with ⟨first, -, rfl, -⟩ | ⟨next, -, same, rfl, -⟩
    · rw [Transfer.operation?_nextRequest] at first
      cases underWay : receiving.transfer.inProgress <;> simp_all
    · rw [Transfer.operation?_nextRequest] at next
      cases underWay : receiving.transfer.inProgress with
      | false => simp [underWay] at next
      | true =>
          rw [place, underWay, ← same]
          simp [Transfer.nextRequest, underWay, PartRequest.of]
  rw [served.next, begins]

end Receiving

/-- Of a transfer of some data, whatever has come in before: the answer to an accepted response
says that the data are complete only if they all are there. Afterwards the transfer counts as
complete if and only if the answer has said so and the handle that came with the portion is the
size, so it never does too early. A responder that has served the portion for this transfer has put
the size there, and then the two always agree. -/
theorem completion_seen_iff_last_handle_is_size (kind : TransferKind) {size : Nat}
    (some : 0 < size) (output : List UInt8) (inputs : List ReceivingInput) {response : PartResponse}
    {last : Bool} {after : Receiving} :
    let receiving := Receiving.run { transfer := { kind, totalSize := size }, output } inputs
    receiving.take response = (.ok last, after) →
      (last = true → after.output.length = size) ∧
        (after.transfer.isComplete = true ↔
          last = true ∧ response.nextHandle.toNat = size) ∧
        (receiving.IsServed response → (after.transfer.isComplete = true ↔ last = true)) := by
  intro receiving taken
  have announced : receiving.transfer.totalSize = size := Receiving.totalSize_run _ _
  have seen := Receiving.isComplete_of_take taken (announced ▸ some)
  rw [announced] at seen
  obtain ⟨accepted, answer⟩ := Receiving.take_eq_ok taken
  refine ⟨fun ends => ?_, seen, fun served => seen.trans (and_iff_left_of_imp fun ends => ?_)⟩
  · have resting : after.transfer.inProgress = false := by simpa [answer] using ends
    exact (Transfer.length_of_completed accepted resting).trans announced
  · obtain ⟨offset, offsets, -, -, whole, left, -⟩ := Transfer.accept_eq_ok_iff.mp accepted
    have isEnd : response.flag.isEnd = true := by simpa [answer, left] using ends
    rw [served.offset offsets, whole isEnd, announced]

namespace TwoBytes

/-- The first of two bytes. -/
def first : PartResponse := { nextHandle := 1, flag := .start, portion := [1] }

/-- The second byte, with the size as its handle. -/
def second : PartResponse := { nextHandle := 2, flag := .finish, portion := [2] }

/-- The second byte, and a handle for what follows the data. -/
def secondOfMore : PartResponse := { second with nextHandle := 0 }

/-- A requester of two bytes that has the first of them. -/
def half : Receiving := Receiving.run (.fresh .deviceMetaData 2) [.take first]

/-- What is left by the second one. -/
def whole (response : PartResponse) : Receiving := (half.take response).2

end TwoBytes

open TwoBytes in
/-- Two bytes are complete after the second one, and are seen to be so with one handle and not with
another. -/
theorem two_bytes_complete_with_handle_two :
    0 < 2 ∧ half.take second = (.ok true, whole second) ∧
      half.take secondOfMore = (.ok true, whole secondOfMore) ∧
      (whole second).transfer.isComplete = true ∧
      (whole secondOfMore).output.length = 2 ∧
      ¬ (whole secondOfMore).transfer.isComplete = true := by
  have ends : half.take second = (.ok true, whole second) := rfl
  have endsElsewhere : half.take secondOfMore = (.ok true, whole secondOfMore) := rfl
  have served : half.IsServed second :=
    ⟨{ kind := .deviceMetaData, totalSize := 2, handle := 1, inProgress := true }, [1, 2], 1, rfl⟩
  have seen :=
    completion_seen_iff_last_handle_is_size .deviceMetaData (by decide) [] [.take first] ends
  have unseen := completion_seen_iff_last_handle_is_size .deviceMetaData (by decide) []
    [.take first] endsElsewhere
  exact ⟨by decide, ends, endsElsewhere, (seen.2.2 served).mpr rfl, unseen.1 rfl,
    fun complete => absurd (unseen.2.1.mp complete).2 (by decide)⟩

/-- Data that have arrived as a whole need not count as complete: the handle that comes with the
only portion can be anything. -/
theorem complete_data_not_seen_as_complete :
    ¬ ∀ (kind : TransferKind) (size : Nat) (inputs : List ReceivingInput)
      (response : PartResponse) (last : Bool) (after : Receiving), 0 < size →
        ((Receiving.fresh kind size).run inputs).take response = (.ok last, after) →
          (after.transfer.isComplete = true ↔ last = true) := by
  intro agree
  have seen := agree .deviceMetaData 1 [] { nextHandle := 0, flag := .startAndEnd, portion := [7] }
    true _ (by decide) rfl
  exact absurd (seen.mpr rfl) (by decide)

end FirmwareUpdate
