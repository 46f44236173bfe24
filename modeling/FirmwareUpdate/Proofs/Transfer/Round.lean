import Mathlib.Algebra.Group.Nat.Defs
import FirmwareUpdate.Transfer.Basic

/-!
# One round of a transfer

While a transfer runs, both ends hold the same handle, which is the number of bytes that
have moved. A round of request, answer and acceptance moves at least one byte more and
leaves the ends in the same relation, until the requester has the whole source. Before the
first round it does not matter what an earlier transfer has left at the ends.
-/

namespace FirmwareUpdate

open Wire

namespace TransferFlag

/-- A portion is marked as the start if it is the first. -/
theorem isStart_ofEnds (first last : Bool) : (ofEnds first last).isStart = first := by
  cases first <;> cases last <;> rfl

/-- A portion is marked as the end if it is the last. -/
theorem isEnd_ofEnds (first last : Bool) : (ofEnds first last).isEnd = last := by
  cases first <;> cases last <;> rfl

end TransferFlag

namespace Transfer

/-- Both ends of a transfer have moved the first bytes of the source, but not all of them. -/
structure Moved (source : List UInt8) (requester responder : Transfer) (output : List UInt8)
    (moved : Nat) : Prop where
  size : requester.totalSize = source.length
  inside : moved < source.length
  asking : requester.inProgress = decide (0 < moved)
  serving : responder.inProgress = decide (0 < moved)
  requested : 0 < moved → requester.handle = UInt32.ofNat moved
  served : 0 < moved → responder.handle = UInt32.ofNat moved
  known : 0 < moved → responder.totalSize = source.length
  taken : 0 < moved → output = source.take moved

/-- How many bytes have moved after the next portion. -/
def reached (source : List UInt8) (portionSize moved : Nat) : Nat :=
  moved + min (max portionSize 1) (source.length - moved)

/-- The next portion. -/
def nextPart (source : List UInt8) (portionSize moved : Nat) : PartResponse where
  nextHandle := UInt32.ofNat (reached source portionSize moved)
  flag := .ofEnds (moved = 0) (reached source portionSize moved = source.length)
  portion := (source.drop moved).take (reached source portionSize moved - moved)

/-- An end of the transfer after the next portion. -/
def afterPart (source : List UInt8) (portionSize moved : Nat) (transfer : Transfer) : Transfer :=
  { transfer with
    totalSize := source.length
    handle := UInt32.ofNat (reached source portionSize moved)
    inProgress := reached source portionSize moved ≠ source.length }

/-- A portion is no longer than the size of portions. -/
theorem length_nextPart (source : List UInt8) (portionSize moved : Nat) :
    (nextPart source portionSize moved).portion.length ≤ max portionSize 1 := by
  rw [nextPart, List.length_take]
  unfold reached
  omega

/-- Whatever is served is no longer than the size of portions. -/
theorem length_portion_of_serve {transfer after : Transfer} {request : PartRequest}
    {source : List UInt8} {portionSize : Nat} {part : PartResponse}
    (served : transfer.serve request source portionSize = (.ok part, after)) :
    part.portion.length ≤ max portionSize 1 := by
  unfold serve at served
  split at served
  · cases served
  · split at served
    · cases served
    · simp only [servePortion] at served
      split at served
      · cases served
      · split at served
        · cases served
          rw [List.length_take]
          omega
        · cases served

/-- A portion is accepted where its offset lies in what is there and it does not reach beyond the
size; the last one reaches it. -/
theorem accept_eq_ok_iff {transfer after : Transfer} {response : PartResponse}
    {output data : List UInt8} : transfer.accept response output = .ok (after, data) ↔
    ∃ offset, transfer.offsetOf response.flag = .ok offset ∧ offset ≤ output.length ∧
      offset + response.portion.length ≤ transfer.totalSize ∧
      (response.flag.isEnd = true → offset + response.portion.length = transfer.totalSize) ∧
      after = { transfer with
        handle := response.nextHandle, inProgress := !response.flag.isEnd } ∧
      data = output.take offset ++ response.portion := by
  unfold accept
  cases transfer.offsetOf response.flag with
  | error error => simp [bind, Except.bind]
  | ok offset =>
      simp only [bind, Except.bind, Except.ok.injEq, exists_eq_left']
      constructor
      · intro accepted
        repeat' split at accepted
        all_goals cases accepted
        rename_i present fits
        rw [not_or, not_and, Decidable.not_not] at fits
        exact ⟨Nat.not_lt.mp present, Nat.not_lt.mp fits.1, fits.2, rfl, rfl⟩
      · rintro ⟨present, within, whole, rfl, rfl⟩
        rw [if_neg (Nat.not_lt.mpr present), if_neg]
        rintro (beyond | ⟨last, short⟩)
        · omega
        · exact short (whole last)

/-- A portion that is accepted goes behind what is there, and does not reach beyond the size; the
last one reaches it. -/
theorem accept_eq_ok {transfer after : Transfer} {response : PartResponse}
    {output data : List UInt8} (accepted : transfer.accept response output = .ok (after, data)) :
    ∃ offset, offset ≤ output.length ∧ offset + response.portion.length ≤ transfer.totalSize ∧
      (response.flag.isEnd = true → offset + response.portion.length = transfer.totalSize) ∧
      after = { transfer with
        handle := response.nextHandle, inProgress := !response.flag.isEnd } ∧
      data = output.take offset ++ response.portion := by
  obtain ⟨offset, -, fits⟩ := accept_eq_ok_iff.mp accepted
  exact ⟨offset, fits⟩

/-- A requester never takes more than the size of the transfer. -/
theorem length_of_accept {transfer after : Transfer} {response : PartResponse}
    {output data : List UInt8} (accepted : transfer.accept response output = .ok (after, data)) :
    after.totalSize = transfer.totalSize ∧ data.length ≤ transfer.totalSize := by
  obtain ⟨offset, present, within, -, rfl, rfl⟩ := accept_eq_ok accepted
  refine ⟨rfl, ?_⟩
  rw [List.length_append, List.length_take]
  omega

/-- The last portion makes the data complete. -/
theorem length_of_completed {transfer after : Transfer} {response : PartResponse}
    {output data : List UInt8} (accepted : transfer.accept response output = .ok (after, data))
    (completed : after.inProgress = false) : data.length = transfer.totalSize := by
  obtain ⟨offset, present, -, whole, rfl, rfl⟩ := accept_eq_ok accepted
  have reached := whole (by simpa using completed)
  rw [List.length_append, List.length_take]
  omega

/-- The source as a requester sees it when it has changed behind the bytes that have moved. -/
def refilled (source other : List UInt8) (moved : Nat) : List UInt8 :=
  source.take moved ++ other.drop moved

/-- What has moved stays as it was, and the rest is that of the other source. -/
theorem refilled_parts {source other : List UInt8} {moved : Nat} (inside : moved ≤ source.length)
    (same : other.length = source.length) :
    (refilled source other moved).length = source.length ∧
      (refilled source other moved).take moved = source.take moved ∧
      (refilled source other moved).drop moved = other.drop moved := by
  have front : (source.take moved).length = moved := List.length_take_of_le inside
  refine ⟨?_, List.take_left' front, List.drop_left' front⟩
  rw [refilled, List.length_append, List.length_drop, front]
  omega

/-- A source refilled with itself is the source. -/
theorem refilled_self (source : List UInt8) (moved : Nat) : refilled source source moved = source :=
  List.take_append_drop moved source

namespace Moved

variable {source output : List UInt8} {requester responder : Transfer} {moved : Nat}

/-- Nothing has moved between ends that are idle. -/
theorem of_idle (size : requester.totalSize = source.length) (some : source ≠ [])
    (asking : requester.inProgress = false) (serving : responder.inProgress = false) :
    Moved source requester responder output 0 :=
  have none {fact : Prop} (begun : 0 < 0) : fact := absurd begun (Nat.lt_irrefl 0)
  ⟨size, List.length_pos_iff.mpr some, asking, serving, none, none, none, none⟩

/-- The output begins with what has moved. -/
theorem front (moves : Moved source requester responder output moved) :
    moved ≤ output.length ∧ output.take moved = source.take moved := by
  have inside := moves.inside
  rcases Nat.eq_zero_or_pos moved with rfl | begun
  · exact ⟨Nat.zero_le _, rfl⟩
  · rw [moves.taken begun, List.length_take, List.take_take, Nat.min_self]
    exact ⟨by omega, rfl⟩

/-- A portion that is served gets somewhere, and no further than the source. -/
theorem reached_bounds (moves : Moved source requester responder output moved)
    (portionSize : Nat) :
    moved < reached source portionSize moved ∧
      reached source portionSize moved ≤ source.length := by
  have inside := moves.inside
  unfold reached
  omega

/-- The responder finds the transfer where the requester goes on. -/
theorem opened_eq (moves : Moved source requester responder output moved) :
    responder.opened requester.nextRequest source.length =
      .ok { responder with totalSize := source.length, handle := UInt32.ofNat moved } := by
  have asking := moves.asking
  have serving := moves.serving
  unfold opened nextRequest
  rcases Nat.eq_zero_or_pos moved with rfl | begun
  · rw [if_neg (by simp [asking])]
    simp only [PartRequest.of, PartRequest.operation?, ofCode?_code]
    rw [if_neg (by simp [serving])]
    rfl
  · have same : { responder with totalSize := source.length, handle := UInt32.ofNat moved } =
        responder := by
      rw [← moves.known begun, ← moves.served begun]
    rw [if_pos (by simp [asking, begun]), same]
    simp [PartRequest.of, PartRequest.operation?, serving, begun, moves.requested begun,
      moves.served begun]

/-- The responder serves the next portion. -/
theorem serve_eq (moves : Moved source requester responder output moved)
    (small : source.length < 2 ^ 32) (portionSize : Nat) :
    responder.serve requester.nextRequest source portionSize =
      (.ok (nextPart source portionSize moved), responder.afterPart source portionSize moved) := by
  obtain ⟨after, within⟩ := moves.reached_bounds portionSize
  have inside := moves.inside
  have some : source.isEmpty = false := by
    cases source with
    | nil => cases inside
    | cons first rest => rfl
  have start : (UInt32.ofNat moved).toNat = moved :=
    UInt32.toNat_ofNat_of_lt' (Nat.lt_trans inside small)
  unfold serve
  rw [some, if_neg Bool.false_ne_true, moves.opened_eq]
  unfold servePortion
  simp only [start, Nat.min_self, UInt32.size]
  rw [if_neg (by omega), if_pos (by omega)]
  rfl

/-- What is behind the bytes that have moved does not matter, as long as there is as much of it. -/
theorem refill (moves : Moved source requester responder output moved) {other : List UInt8}
    (same : other.length = source.length) :
    Moved (refilled source other moved) requester responder output moved := by
  obtain ⟨size, front, -⟩ := refilled_parts (Nat.le_of_lt moves.inside) same
  exact ⟨moves.size.trans size.symm, size.symm ▸ moves.inside, moves.asking, moves.serving,
    moves.requested, moves.served, fun begun => (moves.known begun).trans size.symm,
    fun begun => (moves.taken begun).trans front.symm⟩

/-- The responder serves the next portion of what it has now, if that is as much as before. -/
theorem serve_refill (moves : Moved source requester responder output moved)
    (small : source.length < 2 ^ 32) {other : List UInt8} (same : other.length = source.length)
    (portionSize : Nat) :
    responder.serve requester.nextRequest other portionSize =
      (.ok (nextPart (refilled source other moved) portionSize moved),
        responder.afterPart (refilled source other moved) portionSize moved) := by
  obtain ⟨size, -, behind⟩ := refilled_parts (Nat.le_of_lt moves.inside) same
  have current : Moved other requester responder (other.take moved) moved :=
    ⟨moves.size.trans same.symm, same.symm ▸ moves.inside, moves.asking, moves.serving,
      moves.requested, moves.served, fun begun => (moves.known begun).trans same.symm,
      fun _ => rfl⟩
  rw [current.serve_eq (same ▸ small)]
  simp only [nextPart, afterPart, reached, size, behind, same]

/-- The requester takes the next portion. -/
theorem accept_eq (moves : Moved source requester responder output moved)
    (small : source.length < 2 ^ 32) (portionSize : Nat) :
    requester.accept (nextPart source portionSize moved) output =
      .ok (requester.afterPart source portionSize moved,
        source.take (reached source portionSize moved)) := by
  obtain ⟨after, within⟩ := moves.reached_bounds portionSize
  have start : (UInt32.ofNat moved).toNat = moved :=
    UInt32.toNat_ofNat_of_lt' (Nat.lt_trans moves.inside small)
  have offset : requester.offsetOf (nextPart source portionSize moved).flag = .ok moved := by
    unfold offsetOf nextPart
    rw [TransferFlag.isStart_ofEnds, moves.asking]
    rcases Nat.eq_zero_or_pos moved with rfl | begun
    · rfl
    · rw [if_neg (by simp [begun]; omega), moves.requested begun, start]
      simp [begun]
  have length : (nextPart source portionSize moved).portion.length =
      reached source portionSize moved - moved := by
    rw [nextPart, List.length_take, List.length_drop]
    omega
  obtain ⟨held, front⟩ := moves.front
  have ends : moved + (nextPart source portionSize moved).portion.length =
      reached source portionSize moved := by omega
  have joined : output.take moved ++ (nextPart source portionSize moved).portion =
      source.take (reached source portionSize moved) := by
    rw [front, nextPart, ← List.take_add]
    congr 1
    omega
  unfold accept
  rw [offset]
  show (if output.length < moved then _ else _) = _
  rw [if_neg (by omega), moves.size, ends, if_neg ?_, joined]
  · have last : (!(nextPart source portionSize moved).flag.isEnd) =
        decide (reached source portionSize moved ≠ source.length) := by
      rw [nextPart, TransferFlag.isEnd_ofEnds, decide_not]
    rw [last, afterPart, ← moves.size]
    rfl
  · rw [nextPart, TransferFlag.isEnd_ofEnds, decide_eq_true_eq]
    omega

/-- Unless it was the last portion, the ends are as before. -/
theorem next (moves : Moved source requester responder output moved) {portionSize : Nat}
    (more : reached source portionSize moved ≠ source.length) :
    Moved source (requester.afterPart source portionSize moved)
      (responder.afterPart source portionSize moved)
      (source.take (reached source portionSize moved)) (reached source portionSize moved) := by
  obtain ⟨after, within⟩ := moves.reached_bounds portionSize
  have begun : decide (reached source portionSize moved ≠ source.length) =
      decide (0 < reached source portionSize moved) := by
    rw [decide_eq_true more, decide_eq_true (by omega)]
  exact ⟨rfl, by omega, begun, begun, fun _ => rfl, fun _ => rfl, fun _ => rfl, fun _ => rfl⟩

end Moved

end Transfer

end FirmwareUpdate
