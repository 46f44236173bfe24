import FirmwareUpdate.Transfer.Basic

/-!
# Operations that are not defined everywhere

An index may be out of range and a difference may not exist. The operations of this module
have no result then, so a procedure that is written with them has none either once one of them
is used out of place. Procedures written that way are named `…Strictly`; each is shown to have
a result, the one of the procedure of the same name.
-/

namespace FirmwareUpdate

open Wire

namespace Strict

/-- A condition that has to hold. -/
def ensure (condition : Prop) [Decidable condition] : Option Unit :=
  if condition then some () else none

/-- The difference of two numbers, the second of which has to be the smaller one. -/
def difference (minuend subtrahend : Nat) : Option Nat :=
  if subtrahend ≤ minuend then some (minuend - subtrahend) else none

/-- The quotient by a number that has to be positive. -/
def quotient (dividend divisor : Nat) : Option Nat :=
  if 0 < divisor then some (dividend / divisor) else none

/-- The bytes from one index up to another, both of which have to be in range. -/
def slice (bytes : List UInt8) (first last : Nat) : Option (List UInt8) :=
  if first ≤ last ∧ last ≤ bytes.length then some ((bytes.drop first).take (last - first))
  else none

/-- The list with another entry at an index that has to be in range. -/
def replace {α : Type} (entries : List α) (index : Nat) (entry : α) : Option (List α) :=
  if index < entries.length then some (entries.set index entry) else none

/-- A condition that holds is assured. -/
theorem ensure_of_holds {condition : Prop} [Decidable condition] (holds : condition) :
    ensure condition = some () := if_pos holds

/-- A difference that does not go below zero is the plain one. -/
theorem difference_of_le {minuend subtrahend : Nat} (le : subtrahend ≤ minuend) :
    difference minuend subtrahend = some (minuend - subtrahend) := if_pos le

/-- A division by something is the plain one. -/
theorem quotient_of_pos {divisor : Nat} (positive : 0 < divisor) (dividend : Nat) :
    quotient dividend divisor = some (dividend / divisor) := if_pos positive

/-- A slice within bounds is the plain one. -/
theorem slice_of_le {bytes : List UInt8} {first last : Nat} (ordered : first ≤ last)
    (within : last ≤ bytes.length) :
    slice bytes first last = some ((bytes.drop first).take (last - first)) :=
  if_pos ⟨ordered, within⟩

/-- An entry within bounds is replaced. -/
theorem replace_of_lt {α : Type} {entries : List α} {index : Nat} (within : index < entries.length)
    (entry : α) : replace entries index entry = some (entries.set index entry) := if_pos within

end Strict

namespace Transfer

/-- Serves a portion of a source, which has to hold all bytes of the portion. -/
def servePortionStrictly (transfer : Transfer) (request : PartRequest) (source : List UInt8)
    (portionSize : Nat) : Option (Except TransferError PartResponse × Transfer) :=
  let total := min transfer.totalSize source.length
  let start := transfer.handle.toNat
  if total ≤ start then
    some (.error (.invalidHandle request.handle transfer.handle),
      { transfer with inProgress := false })
  else
    let reached := start + min (max portionSize 1) (total - start)
    if reached < UInt32.size then do
      let portion ← Strict.slice source start reached
      some (.ok
        { nextHandle := UInt32.ofNat reached
          flag := .ofEnds (start = 0) (reached = total)
          portion },
        { transfer with handle := UInt32.ofNat reached, inProgress := reached ≠ total })
    else some (.error (.lengthMismatch total reached), transfer)

/-- Answers a request with a portion of a source. -/
def serveStrictly (transfer : Transfer) (request : PartRequest) (source : List UInt8)
    (portionSize : Nat) : Option (Except TransferError PartResponse × Transfer) :=
  if source.isEmpty then some (.error (.noDataAvailable transfer.kind), transfer)
  else
    match transfer.opened request source.length with
    | .error error => some (.error error, transfer)
    | .ok ready => ready.servePortionStrictly request source portionSize

variable (transfer : Transfer) (request : PartRequest) (source : List UInt8) (portionSize : Nat)

/-- Nothing that a transfer computes for a portion goes out of bounds. -/
theorem servePortionStrictly_eq :
    transfer.servePortionStrictly request source portionSize =
      some (transfer.servePortion request source portionSize) := by
  unfold servePortionStrictly servePortion
  dsimp only
  split
  · rfl
  · split
    · rw [Strict.slice_of_le (by omega) (by omega)]
      rfl
    · rfl

/-- Whatever a transfer has come to, the portion that it serves is part of the source. -/
theorem serveStrictly_eq :
    transfer.serveStrictly request source portionSize =
      some (transfer.serve request source portionSize) := by
  unfold serveStrictly serve
  split
  · rfl
  · cases transfer.opened request source.length with
    | error error => rfl
    | ok ready => exact servePortionStrictly_eq ..

end Transfer

end FirmwareUpdate
