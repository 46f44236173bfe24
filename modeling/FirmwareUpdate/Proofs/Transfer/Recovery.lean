import FirmwareUpdate.Device.Responder
import FirmwareUpdate.Proofs.Transfer.Round

/-!
# Transfers whose ends are apart

When an answer is lost, the end that serves has moved on and the end that asks has not. What the
one asks for is then refused by the other, and the requester begins again; an end that still
serves another transfer refuses that too, once. `Transfer.Recovers` says how far apart the ends
can be and how many refusals are needed until they are together again.
-/

namespace FirmwareUpdate

open Wire

namespace Transfer

/-- The end that serves, after it has refused a request: it starts over if it has been asked for
the first portion. -/
def afterRefusal (responder : Transfer) (request : PartRequest) : Transfer :=
  if request.operation? = some .getFirstPart then responder.reset else responder

/-- How far the ends of a transfer are apart, by the refusals that are needed until they are
together, and by the most rounds until the requester has the source. -/
inductive Recovers (source : List UInt8) (requester responder : Transfer) (output : List UInt8) :
    Nat → Nat → Prop where
  /-- The ends are together. -/
  | level {moved : Nat} (moves : Moved source requester responder output moved) :
      Recovers source requester responder output 0 (source.length - moved)
  /-- The requester begins, and the other end is still in progress. -/
  | ahead (some : source ≠ []) (size : requester.totalSize = source.length)
      (asking : requester.inProgress = false) (serving : responder.inProgress = true) :
      Recovers source requester responder output 1 (source.length + 1)
  /-- The requester goes on, and the other end has served everything. -/
  | ended (some : source ≠ []) (size : requester.totalSize = source.length)
      (asking : requester.inProgress = true) (serving : responder.inProgress = false) :
      Recovers source requester responder output 1 (source.length + 1)
  /-- The requester goes on, and the other end is elsewhere. -/
  | apart (some : source ≠ []) (size : requester.totalSize = source.length)
      (asking : requester.inProgress = true) (serving : responder.inProgress = true)
      (elsewhere : requester.handle ≠ responder.handle) :
      Recovers source requester responder output 2 (source.length + 2)

variable {source output : List UInt8} {requester responder : Transfer} {moved : Nat}

/-- The next request asks for the first portion, or the one after. -/
theorem operation?_nextRequest (requester : Transfer) :
    requester.nextRequest.operation? =
      some (if requester.inProgress then .getNextPart else .getFirstPart) := by
  unfold nextRequest
  split <;> exact ofCode?_code _

/-- A refusal of the first portion resets the transfer that serves. -/
theorem afterRefusal_of_first (asking : requester.inProgress = false) (responder : Transfer) :
    responder.afterRefusal requester.nextRequest = responder.reset := by
  simp [afterRefusal, operation?_nextRequest, asking]

/-- A refusal of a later portion leaves it. -/
theorem afterRefusal_of_next (asking : requester.inProgress = true) (responder : Transfer) :
    responder.afterRefusal requester.nextRequest = responder := by
  simp [afterRefusal, operation?_nextRequest, asking]

/-- A request that does not find its transfer is refused. -/
theorem serve_of_refused {error : TransferError} (some : source ≠ [])
    (refused : responder.opened requester.nextRequest source.length = .error error)
    (portionSize : Nat) :
    responder.serve requester.nextRequest source portionSize = (.error error, responder) := by
  rw [serve, List.isEmpty_eq_false_iff.mpr some, if_neg Bool.false_ne_true, refused]

/-- A request that is refused brings the ends closer to each other. -/
theorem Recovers.refused {needed rounds : Nat}
    (recovers : Recovers source requester responder output (needed + 1) rounds)
    (portionSize : Nat) :
    ∃ error, responder.serve requester.nextRequest source portionSize =
        (.error error, responder) ∧ Responder.allowsRestart error.completionCode = true ∧
      ∃ fewer, fewer < rounds ∧ Recovers source requester.reset
        (responder.afterRefusal requester.nextRequest) [] needed fewer := by
  generalize sum : needed + 1 = refusals at recovers
  cases recovers with
  | level => cases sum
  | ahead some size asking serving =>
      cases sum
      have refused : responder.opened requester.nextRequest source.length =
          .error .invalidOperation := by
        simp [opened, operation?_nextRequest, asking, serving]
      refine ⟨_, serve_of_refused some refused portionSize, rfl, source.length - 0, by omega, ?_⟩
      rw [afterRefusal_of_first asking]
      exact .level (.of_idle size some rfl rfl)
  | ended some size asking serving =>
      cases sum
      have refused : responder.opened requester.nextRequest source.length =
          .error .invalidOperation := by
        simp [opened, operation?_nextRequest, asking, serving]
      refine ⟨_, serve_of_refused some refused portionSize, rfl, source.length - 0, by omega, ?_⟩
      rw [afterRefusal_of_next asking]
      exact .level (.of_idle size some rfl serving)
  | apart some size asking serving elsewhere =>
      cases sum
      have handle : requester.nextRequest.handle = requester.handle := by
        simp [nextRequest, asking, PartRequest.of]
      have refused : responder.opened requester.nextRequest source.length =
          .error (.invalidHandle requester.handle responder.handle) := by
        simp [opened, operation?_nextRequest, asking, serving, handle, elsewhere]
      refine ⟨_, serve_of_refused some refused portionSize, rfl, source.length + 1, by omega, ?_⟩
      rw [afterRefusal_of_next asking]
      exact .ahead some size rfl serving

/-- When a portion has been served and does not arrive, two refusals at most bring the ends
together again. -/
theorem Moved.lost (moves : Moved source requester responder output moved)
    (small : source.length < 2 ^ 32) (portionSize : Nat) :
    ∃ needed rounds, needed ≤ 2 ∧ rounds ≤ source.length + 2 ∧
      Recovers source requester (responder.afterPart source portionSize moved) output needed
        rounds := by
  have some : source ≠ [] := List.ne_nil_of_length_pos (Nat.zero_lt_of_lt moves.inside)
  obtain ⟨later, within⟩ := moves.reached_bounds portionSize
  by_cases whole : reached source portionSize moved = source.length
  · have served : (responder.afterPart source portionSize moved).inProgress = false := by
      simp [afterPart, whole]
    rcases Nat.eq_zero_or_pos moved with rfl | begun
    · exact ⟨0, _, by omega, by omega, .level (.of_idle moves.size some moves.asking served)⟩
    · exact ⟨1, _, by omega, by omega,
        .ended some moves.size (moves.asking.trans (decide_eq_true begun)) served⟩
  · have serving : (responder.afterPart source portionSize moved).inProgress = true := by
      simp [afterPart, whole]
    rcases Nat.eq_zero_or_pos moved with rfl | begun
    · exact ⟨1, _, by omega, by omega, .ahead some moves.size moves.asking serving⟩
    · refine ⟨2, _, by omega, by omega,
        .apart some moves.size (moves.asking.trans (decide_eq_true begun)) serving ?_⟩
      intro same
      have equal : UInt32.ofNat moved = UInt32.ofNat (reached source portionSize moved) :=
        (moves.requested begun).symm.trans same
      have numbers := congrArg UInt32.toNat equal
      rw [UInt32.toNat_ofNat_of_lt' (Nat.lt_trans moves.inside small),
        UInt32.toNat_ofNat_of_lt' (Nat.lt_of_le_of_lt within small)] at numbers
      omega

end Transfer

end FirmwareUpdate
