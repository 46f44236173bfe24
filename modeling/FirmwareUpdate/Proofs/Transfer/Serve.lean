import FirmwareUpdate.Transfer.Basic

/-!
# Serving a portion

What serving a request does to a transfer: `Portioned` lists the ways in which a portion can be
asked for. A transfer that is under way has bytes left to move (`HasRest`), and if its source stays
the same, they are bytes of it (`Transfer.Amid`): then every request that finds its transfer is
served.
-/

namespace FirmwareUpdate

open Wire

namespace Transfer

variable {transfer after ready : Transfer} {request : PartRequest} {source : List UInt8}
  {portionSize : Nat}

/-- A transfer that is under way has bytes left to move. -/
def HasRest (transfer : Transfer) : Prop :=
  transfer.inProgress = true → transfer.handle.toNat < transfer.totalSize

/-- A transfer that was reset is not under way. -/
theorem hasRest_reset (transfer : Transfer) : transfer.reset.HasRest := nofun

/-- A request that finds or begins its transfer, with the operation that it asks for. -/
theorem opened_eq_ok {sourceSize : Nat} (opens : transfer.opened request sourceSize = .ok ready) :
    (request.operation? = some .getFirstPart ∧ transfer.inProgress = false ∧
        ready = { transfer with handle := 0, totalSize := sourceSize }) ∨
      (request.operation? = some .getNextPart ∧ transfer.inProgress = true ∧
        request.handle = transfer.handle ∧ ready = transfer) := by
  simp only [opened] at opens
  split at opens
  · rename_i first
    split at opens
    · cases opens
    · rename_i resting
      cases opens
      exact .inl ⟨first, eq_false_of_ne_true resting, rfl⟩
  · rename_i next
    split at opens
    · rename_i underWay
      split at opens
      · rename_i same
        cases opens
        exact .inr ⟨next, underWay, same, rfl⟩
      · cases opens
    · cases opens
  · cases opens

/-- A first request begins a transfer, and a next one finds it under way. -/
theorem opened_cases {sourceSize : Nat} (opens : transfer.opened request sourceSize = .ok ready) :
    (transfer.inProgress = false ∧ ready = { transfer with handle := 0, totalSize := sourceSize }) ∨
      (transfer.inProgress = true ∧ ready = transfer) := by
  rcases opened_eq_ok opens with ⟨-, resting, begun⟩ | ⟨-, underWay, -, same⟩
  · exact .inl ⟨resting, begun⟩
  · exact .inr ⟨underWay, same⟩

/-- A first request begins a transfer that is not under way. -/
theorem opened_of_first (resting : transfer.inProgress = false)
    (first : request.operation? = some .getFirstPart) (sourceSize : Nat) :
    transfer.opened request sourceSize =
      .ok { transfer with handle := 0, totalSize := sourceSize } := by
  unfold opened
  rw [first]
  exact if_neg (ne_true_of_eq_false resting)

/-- A next request goes on with a transfer that is under way, if it has its handle. -/
theorem opened_of_next (underWay : transfer.inProgress = true)
    (next : request.operation? = some .getNextPart) (handle : request.handle = transfer.handle)
    (sourceSize : Nat) : transfer.opened request sourceSize = .ok transfer := by
  unfold opened
  rw [next]
  exact (if_pos underWay).trans (if_pos handle)

/-- What a request for the portion at the handle comes to: the transfer ends there or beyond the
source, a portion is served, or the portion ends beyond all handles. -/
inductive Portioned (transfer : Transfer) (source : List UInt8) (portionSize : Nat) :
    Except TransferError PartResponse × Transfer → Prop where
  | ended {error : TransferError}
      (past : min transfer.totalSize source.length ≤ transfer.handle.toNat) :
      Portioned transfer source portionSize (.error error, { transfer with inProgress := false })
  | moved {part : PartResponse} {reached : Nat} (small : reached < UInt32.size)
      (inside : reached ≤ min transfer.totalSize source.length) :
      Portioned transfer source portionSize
        (.ok part,
          { transfer with
            handle := UInt32.ofNat reached
            inProgress := reached ≠ min transfer.totalSize source.length })
  | beyond {error : TransferError}
      (far : UInt32.size ≤ transfer.handle.toNat + max portionSize 1) :
      Portioned transfer source portionSize (.error error, transfer)

/-- A portion is served in one of its ways, or refused in one. -/
theorem servePortion_portioned (transfer : Transfer) (request : PartRequest)
    (source : List UInt8) (portionSize : Nat) :
    transfer.Portioned source portionSize
      (transfer.servePortion request source portionSize) := by
  simp only [servePortion]
  split
  · exact .ended ‹_›
  · split
    · exact .moved ‹_› (by omega)
    · exact .beyond (by omega)

/-- Serving a portion leaves a rest, or ends the transfer. -/
theorem HasRest.serve (rest : transfer.HasRest) (request : PartRequest) (source : List UInt8)
    (portionSize : Nat) : (transfer.serve request source portionSize).2.HasRest := by
  simp only [Transfer.serve]
  split
  · exact rest
  · split
    · exact rest
    · rename_i ready opens
      have found : ready.HasRest := by
        rcases opened_cases opens with ⟨resting, rfl⟩ | ⟨-, rfl⟩
        · exact fun underWay => absurd (resting.symm.trans underWay) Bool.false_ne_true
        · exact rest
      have portioned := ready.servePortion_portioned request source portionSize
      generalize ready.servePortion request source portionSize = served at portioned
      cases portioned with
      | ended => exact nofun
      | @moved part reached small inside =>
          intro more
          have left : reached ≠ min ready.totalSize source.length := of_decide_eq_true more
          show (UInt32.ofNat reached).toNat < ready.totalSize
          rw [UInt32.toNat_ofNat_of_lt' small]
          omega
      | beyond => exact found

/-- The request goes on with a transfer whose source has shrunk to the handle or below. -/
structure FindsShrunk (transfer : Transfer) (request : PartRequest) (source : List UInt8) :
    Prop where
  underWay : transfer.inProgress = true
  next : request.operation? = some .getNextPart
  handle : request.handle = transfer.handle
  some : source ≠ []
  shrunk : source.length ≤ transfer.handle.toNat

/-- A request that is not served leaves the transfer as it was, unless it finds that the source
has shrunk. -/
theorem HasRest.serve_eq_error (rest : transfer.HasRest) {error : TransferError}
    (small : portionSize < UInt32.size ∨ source.length < UInt32.size)
    (refused : transfer.serve request source portionSize = (.error error, after)) :
    after = transfer ∨
      (transfer.FindsShrunk request source ∧ after = { transfer with inProgress := false }) := by
  simp only [Transfer.serve] at refused
  split at refused
  · cases refused
    exact .inl rfl
  · rename_i some
    have some : source ≠ [] := by simpa using some
    have positive : 0 < source.length := List.length_pos_iff.mpr some
    split at refused
    · cases refused
      exact .inl rfl
    · rename_i ready opens
      rcases opened_eq_ok opens with ⟨-, -, rfl⟩ | ⟨next, underWay, same, rfl⟩
      · -- a first portion is at the beginning of a source that is not empty, and it is small
        have size : 1 < UInt32.size := by decide
        have inside : ¬ min source.length source.length ≤ 0 := by omega
        have reachable : 0 + min (max portionSize 1) (min source.length source.length - 0) <
            UInt32.size := by omega
        simp only [servePortion, UInt32.toNat_zero, if_neg inside, if_pos reachable] at refused
        cases refused
      · have before := rest underWay
        simp only [servePortion] at refused
        split at refused
        · cases refused
          exact .inr ⟨⟨underWay, next, same, some, by omega⟩, rfl⟩
        · split at refused
          · cases refused
          · cases refused
            exact .inl rfl

/-- A transfer is as it was, or has ended because the source has shrunk to its handle. -/
def LeftAlone (available : Nat) (before after : Transfer) : Prop :=
  after = before ∨
    (before.inProgress = true ∧ available ≤ before.handle.toNat ∧
      before.handle.toNat < before.totalSize ∧ after = { before with inProgress := false })

/-- A request that is not served leaves the transfer alone. -/
theorem HasRest.leftAlone (rest : transfer.HasRest) {error : TransferError}
    (small : portionSize < UInt32.size)
    (refused : transfer.serve request source portionSize = (.error error, after)) :
    LeftAlone source.length transfer after := by
  rcases rest.serve_eq_error (.inl small) refused with same | ⟨finds, ended⟩
  · exact .inl same
  · exact .inr ⟨finds.underWay, finds.shrunk, rest finds.underWay, ended⟩

/-! ### A source that stays the same -/

/-- A transfer that is under way moves this source, and has some of it left to move. -/
def Amid (transfer : Transfer) (source : List UInt8) : Prop :=
  transfer.inProgress = true →
    transfer.totalSize = source.length ∧ transfer.handle.toNat < source.length

/-- A transfer that was reset is not in the middle of anything. -/
theorem amid_reset (transfer : Transfer) (source : List UInt8) : transfer.reset.Amid source := nofun

namespace Amid

/-- A request that finds or begins its transfer finds something to serve. -/
theorem opened (amid : transfer.Amid source) (some : source ≠ [])
    (opens : transfer.opened request source.length = .ok ready) :
    ready.totalSize = source.length ∧ ready.handle.toNat < source.length := by
  rcases opened_cases opens with ⟨-, rfl⟩ | ⟨underWay, rfl⟩
  · exact ⟨rfl, List.length_pos_iff.mpr some⟩
  · exact amid underWay

/-- Whatever serving a request comes to, the transfer moves its source as before. -/
theorem serve (amid : transfer.Amid source) (request : PartRequest) (portionSize : Nat) :
    (transfer.serve request source portionSize).2.Amid source := by
  simp only [Transfer.serve]
  split
  · exact amid
  · rename_i some
    split
    · exact amid
    · rename_i ready opens
      have found := amid.opened (by simpa using some) opens
      have portioned := ready.servePortion_portioned request source portionSize
      generalize ready.servePortion request source portionSize = served at portioned
      cases portioned with
      | ended => exact nofun
      | @moved part reached small inside =>
          intro more
          have left : reached ≠ min ready.totalSize source.length := of_decide_eq_true more
          refine ⟨found.1, ?_⟩
          show (UInt32.ofNat reached).toNat < source.length
          rw [UInt32.toNat_ofNat_of_lt' small]
          omega
      | beyond => exact fun _ => found

/-- A request that finds or begins its transfer is served. -/
theorem serve_of_opened (amid : transfer.Amid source) (some : source ≠ [])
    (small : source.length < UInt32.size)
    (opens : transfer.opened request source.length = .ok ready) (portionSize : Nat) :
    ∃ part after, transfer.serve request source portionSize = (.ok part, after) := by
  obtain ⟨total, left⟩ := amid.opened some opens
  unfold Transfer.serve
  rw [if_neg (by simpa using some), opens]
  unfold servePortion
  simp only [total, Nat.min_self]
  rw [if_neg (by omega), if_pos (by omega)]
  exact ⟨_, _, rfl⟩

/-- A refusal leaves the transfer as it was. -/
theorem serve_eq_error (amid : transfer.Amid source) (small : source.length < UInt32.size)
    {error : TransferError}
    (refused : transfer.serve request source portionSize = (.error error, after)) :
    after = transfer := by
  have rest : transfer.HasRest := fun underWay => by
    obtain ⟨total, left⟩ := amid underWay
    omega
  rcases rest.serve_eq_error (.inr small) refused with same | ⟨finds, -⟩
  · exact same
  · exact absurd (amid finds.underWay).2 (Nat.not_lt.mpr finds.shrunk)

end Amid

end Transfer

end FirmwareUpdate
