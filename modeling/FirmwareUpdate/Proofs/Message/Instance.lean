import FirmwareUpdate.Proofs.Message.Envelope

/-!
# Instance identifiers wrap around

Requests are numbered by identifiers of five bits. `Numbered` says that identifiers
follow each other, and `Numbered.alone` that among at most 32 of them the first comes
back only as itself: a window of that length tells its requests apart.
-/

namespace FirmwareUpdate

/-- How many instance identifiers there are. -/
def instanceCount : Nat := 32

/-- The numbers go round. -/
theorem toNat_nextInstance (iid : UInt8) :
    (nextInstance iid).toNat = (iid.toNat + 1) % instanceCount := by
  have masked (value : UInt8) : (value &&& instanceMask).toNat = value.toNat % 2 ^ 5 :=
    Nat.and_two_pow_sub_one_eq_mod value.toNat 5
  rw [nextInstance, masked, UInt8.toNat_add]
  simp only [instanceCount, UInt8.toNat_one]
  omega

/-- A number in range is below the number of instances. -/
theorem FitsInstance.lt {iid : UInt8} (fits : FitsInstance iid) : iid.toNat < instanceCount := by
  have masked : (iid &&& instanceMask).toNat = iid.toNat % 2 ^ 5 :=
    Nat.and_two_pow_sub_one_eq_mod iid.toNat 5
  rw [fits] at masked
  simp only [instanceCount]
  omega

/-- Identifiers that follow each other from the first one on, and the one after the last. -/
inductive Numbered : UInt8 → List UInt8 → UInt8 → Prop where
  | nil (iid : UInt8) : Numbered iid [] iid
  | cons {first past : UInt8} {rest : List UInt8}
      (following : Numbered (nextInstance first) rest past) :
      Numbered first (first :: rest) past

namespace Numbered

variable {first past last : UInt8} {iids : List UInt8}

/-- The next identifier comes behind the others. -/
theorem concat (numbered : Numbered first iids past) :
    Numbered first (iids ++ [past]) (nextInstance past) := by
  induction numbered with
  | nil iid => exact .cons (.nil _)
  | cons _ ih => exact .cons ih

/-- The identifier after the last one. -/
theorem past_eq (numbered : Numbered first (iids ++ [last]) past) : past = nextInstance last := by
  induction iids generalizing first with
  | nil =>
      cases numbered with
      | cons following =>
          cases following
          rfl
  | cons head rest ih =>
      cases numbered with
      | cons following => exact ih following

/-- The number after a stretch of requests is the first and their count, going round. -/
theorem toNat_past (numbered : Numbered first iids past) (fits : FitsInstance first) :
    past.toNat = (first.toNat + iids.length) % instanceCount := by
  induction numbered with
  | nil iid => rw [List.length_nil, Nat.add_zero, Nat.mod_eq_of_lt fits.lt]
  | cons following ih =>
      rw [ih (fitsInstance_nextInstance _), toNat_nextInstance, List.length_cons]
      simp only [instanceCount]
      omega

/-- It is in range again. -/
theorem fits_past (numbered : Numbered first iids past) (fits : FitsInstance first) :
    FitsInstance past := by
  induction numbered with
  | nil iid => exact fits
  | cons _ ih => exact ih (fitsInstance_nextInstance _)

/-- In a window that is not longer than there are identifiers, the first identifier is the
last one only if it is the only one. -/
theorem alone {rest : List UInt8} (numbered : Numbered first (first :: rest) past)
    (fits : FitsInstance first) (short : (first :: rest).length ≤ instanceCount)
    (same : (first :: rest).getLast? = some first) : rest = [] := by
  obtain ⟨earlier, window⟩ := List.getLast?_eq_some_iff.mp same
  have after := numbered.toNat_past fits
  rw [window] at numbered
  rw [numbered.past_eq, toNat_nextInstance] at after
  have bounded := fits.lt
  simp only [List.length_cons, instanceCount] at after short bounded
  exact List.eq_nil_of_length_eq_zero (by omega)

end Numbered

end FirmwareUpdate
