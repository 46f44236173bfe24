import Mathlib.Algebra.Order.Floor.Div
import FirmwareUpdate.Transfer.Pull
import FirmwareUpdate.Proofs.Transfer.Round

/-!
# A pull reconstructs its source

A round moves a whole portion or all that is left, so the number of rounds is the size of
the source divided by the size of portions, rounded up. The flags say which portion is the
first and which is the last, and the requester ends with the source.
-/

namespace FirmwareUpdate

namespace TransferFlag

/-- The flags of the portions in a transfer of `count` portions. -/
def sequence : (count : Nat) → List TransferFlag
  | 0 => []
  | 1 => [.startAndEnd]
  | between + 2 => .start :: List.replicate between .middle ++ [.finish]

/-- The flags of the last `count` portions, of which the first begins the transfer or not. -/
def remaining (begins : Bool) : (count : Nat) → List TransferFlag
  | 0 => []
  | 1 => [.ofEnds begins true]
  | later + 2 => .ofEnds begins false :: remaining false (later + 1)

/-- After the first portion there are middle ones and the last. -/
theorem remaining_false (between : Nat) :
    remaining false (between + 1) = List.replicate between .middle ++ [.finish] := by
  induction between with
  | zero => rfl
  | succ between ih =>
      rw [remaining, ih]
      rfl

/-- From the beginning they are the whole sequence. -/
theorem remaining_true (count : Nat) : remaining true count = sequence count := by
  cases count with
  | zero => rfl
  | succ count =>
      cases count with
      | zero => rfl
      | succ between =>
          rw [remaining, remaining_false]
          rfl

/-- There is one flag for each portion that is left. -/
@[simp] theorem length_remaining (begins : Bool) (count : Nat) :
    (remaining begins count).length = count := by
  induction count generalizing begins with
  | zero => rfl
  | succ count ih =>
      cases count with
      | zero => rfl
      | succ later => rw [remaining, List.length_cons, ih]

/-- Another portion before the remaining ones. -/
theorem remaining_succ (begins : Bool) {count : Nat} (some : 0 < count) :
    remaining begins (count + 1) = .ofEnds begins false :: remaining false count := by
  cases count with
  | zero => exact absurd some (Nat.lt_irrefl 0)
  | succ later => rfl

end TransferFlag

namespace Transfer

/-- How many rounds move the rest of a source of `size` bytes. -/
def roundsLeft (size portionSize moved : Nat) : Nat := (size - moved) ⌈/⌉ max portionSize 1

/-- An end of the transfer after the last portion. -/
def completed (source : List UInt8) (transfer : Transfer) : Transfer :=
  { transfer with
    totalSize := source.length
    handle := UInt32.ofNat source.length
    inProgress := false }

/-- A transfer of some data is complete at the end of them. -/
theorem completed_isComplete {source : List UInt8} (some : source ≠ [])
    (small : source.length < 2 ^ 32) (transfer : Transfer) :
    (transfer.completed source).isComplete = true ∧
      (transfer.completed source).handle.toNat = source.length := by
  have same : (UInt32.ofNat source.length).toNat = source.length :=
    UInt32.toNat_ofNat_of_lt' small
  have positive : 0 < source.length := List.length_pos_iff.mpr some
  simp [isComplete, completed, same, positive]

namespace Moved

variable {source output : List UInt8} {requester responder : Transfer} {moved : Nat}

/-- The last round is the one that leaves nothing. -/
theorem roundsLeft_of_last (moves : Moved source requester responder output moved)
    {portionSize : Nat} (last : reached source portionSize moved = source.length) :
    roundsLeft source.length portionSize moved = 1 := by
  have inside := moves.inside
  unfold reached at last
  rw [roundsLeft, Nat.ceilDiv_eq_add_pred_div, Nat.div_eq_iff (by omega)]
  omega

/-- Every other round moves a whole portion. -/
theorem roundsLeft_of_more (moves : Moved source requester responder output moved)
    {portionSize : Nat} (more : reached source portionSize moved ≠ source.length) :
    roundsLeft source.length portionSize moved =
      roundsLeft source.length portionSize (reached source portionSize moved) + 1 := by
  have inside := moves.inside
  have whole : reached source portionSize moved = moved + max portionSize 1 := by
    unfold reached at more ⊢
    omega
  have left : source.length - moved =
      source.length - (moved + max portionSize 1) + max portionSize 1 := by
    unfold reached at more
    omega
  rw [whole, roundsLeft, roundsLeft, Nat.ceilDiv_eq_add_pred_div, Nat.ceilDiv_eq_add_pred_div,
    ← Nat.add_div_right _ (by omega : 0 < max portionSize 1), left]
  congr 1
  omega

/-- While data are left there is at least one round to go. -/
theorem roundsLeft_pos (moves : Moved source requester responder output moved)
    (portionSize : Nat) : 0 < roundsLeft source.length portionSize moved := by
  by_cases last : reached source portionSize moved = source.length
  · rw [moves.roundsLeft_of_last last]
    exact Nat.one_pos
  · rw [moves.roundsLeft_of_more last]
    exact Nat.succ_pos _

/-- The rounds that are left complete the transfer. -/
theorem pullRounds_completes (moves : Moved source requester responder output moved)
    (small : source.length < 2 ^ 32) {portionSize rounds : Nat}
    (enough : roundsLeft source.length portionSize moved ≤ rounds) :
    ∃ parts, pullRounds source portionSize rounds requester responder output =
        (parts, .complete (requester.completed source) (responder.completed source) source) ∧
      parts.map PartResponse.flag =
        TransferFlag.remaining (moved = 0) (roundsLeft source.length portionSize moved) := by
  -- each round leaves the ends as `Moved` with more bytes, until none are left
  induction rounds generalizing requester responder output moved with
  | zero =>
      have some := moves.roundsLeft_pos portionSize
      omega
  | succ rounds ih =>
      have after := moves.reached_bounds portionSize
      rw [pullRounds, moves.serve_eq small]
      dsimp only
      rw [moves.accept_eq small]
      dsimp only
      by_cases last : reached source portionSize moved = source.length
      · refine ⟨[nextPart source portionSize moved], ?_, ?_⟩
        · simp [afterPart, completed, last]
        · rw [moves.roundsLeft_of_last last]
          simp [nextPart, last, TransferFlag.remaining]
      · have count := moves.roundsLeft_of_more last
        obtain ⟨parts, pulled, flags⟩ := ih (moves.next last) (by omega)
        refine ⟨nextPart source portionSize moved :: parts, ?_, ?_⟩
        · rw [if_pos (by simp [afterPart, last]), pulled]
          rfl
        · have begun : reached source portionSize moved ≠ 0 := by omega
          rw [List.map_cons, flags, count,
            TransferFlag.remaining_succ _ ((moves.next last).roundsLeft_pos portionSize)]
          simp [nextPart, last, begun]

end Moved

/-- There are no more rounds than bytes. -/
theorem roundsLeft_le (size portionSize : Nat) : roundsLeft size portionSize 0 ≤ size := by
  rw [roundsLeft, ceilDiv_le_iff_le_mul (by omega)]
  exact Nat.le_mul_of_pos_left _ (by omega)

end Transfer

/-- A requester and a responder that are idle move a source of any size, in portions of any
size, whatever earlier transfers have left behind. -/
theorem pull_reconstructs_source {source : List UInt8} (some : source ≠ [])
    (small : source.length < 2 ^ 32) (portionSize : Nat) {requester responder : Transfer}
    (size : requester.totalSize = source.length) (asking : requester.inProgress = false)
    (serving : responder.inProgress = false) (output : List UInt8) :
    ∃ parts requesterAfter responderAfter,
      Transfer.pull source portionSize requester responder output =
        (parts, .complete requesterAfter responderAfter source) ∧
      parts.length = source.length ⌈/⌉ max portionSize 1 ∧
      parts.map PartResponse.flag = TransferFlag.sequence parts.length ∧
      ∀ transfer ∈ [requesterAfter, responderAfter], transfer.inProgress = false ∧
        transfer.isComplete = true ∧ transfer.handle.toNat = source.length := by
  have moves : Transfer.Moved source requester responder output 0 :=
    .of_idle size some asking serving
  have enough := Transfer.roundsLeft_le source.length portionSize
  obtain ⟨parts, pulled, flags⟩ := moves.pullRounds_completes small (Nat.le_succ_of_le enough)
  have length : parts.length = Transfer.roundsLeft source.length portionSize 0 := by
    rw [← List.length_map PartResponse.flag, flags, TransferFlag.length_remaining]
  refine ⟨parts, _, _, pulled, length, ?_, ?_⟩
  · rw [flags, length]
    exact TransferFlag.remaining_true _
  · intro transfer member
    rcases List.mem_pair.mp member with rfl | rfl
    · exact ⟨rfl, Transfer.completed_isComplete some small requester⟩
    · exact ⟨rfl, Transfer.completed_isComplete some small responder⟩

namespace StaleTransfers

/-- A requester that has got into an earlier transfer and was reset to a new size. -/
def requester : Transfer := { kind := .packageData, totalSize := 3, handle := 7 }

/-- A responder that has served another source. -/
def responder : Transfer := { kind := .packageData, totalSize := 5, handle := 5 }

end StaleTransfers

/-- Portions of no bytes have one byte, and what earlier transfers have left is dropped. -/
theorem three_bytes_pulled_singly :
    ∃ parts requesterAfter responderAfter,
      Transfer.pull [1, 2, 3] 0 StaleTransfers.requester StaleTransfers.responder [9, 9, 9, 9] =
        (parts, .complete requesterAfter responderAfter [1, 2, 3]) ∧
      parts.map PartResponse.flag = [.start, .middle, .finish] ∧
      requesterAfter.handle.toNat = 3 ∧ responderAfter.isComplete = true := by
  have some : ([1, 2, 3] : List UInt8) ≠ [] := by decide
  obtain ⟨parts, requesterAfter, responderAfter, pulled, length, flags, ends⟩ :=
    pull_reconstructs_source some (by decide) 0
      (rfl : StaleTransfers.requester.totalSize = 3)
      (rfl : StaleTransfers.requester.inProgress = false)
      (rfl : StaleTransfers.responder.inProgress = false) [9, 9, 9, 9]
  have count : parts.length = 3 := length
  rw [count] at flags
  exact ⟨parts, requesterAfter, responderAfter, pulled, flags,
    (ends requesterAfter (by simp)).2.2, (ends responderAfter (by simp)).2.1⟩

end FirmwareUpdate
