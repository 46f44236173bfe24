import FirmwareUpdate.Proofs.Transfer.Round

/-!
# Whatever comes in

A requester does not choose its responses: flags, handles and portions may be anything, and the
handle that comes with one portion says where the next one goes. `Receiving` is a requester with the
data that it has. It takes a response in place, check by check and write by write, so that whatever
has been written before a failure would stay; that it comes to the same as `Transfer.accept` says
that every check comes before the first write.
-/

namespace FirmwareUpdate

/-- A requester and the data that it has. -/
structure Receiving where
  transfer : Transfer
  output : List UInt8 := []
  /-- The handle that came with the last portion that was accepted. -/
  nextHandle : UInt32 := 0

/-- What can happen to a requester. -/
inductive ReceivingInput where
  | take (response : PartResponse)
  /-- The transfer starts over, and the data are dropped. -/
  | reset

namespace Receiving

/-- A requester of data of this size that has none of them. -/
def fresh (kind : TransferKind) (size : Nat) : Receiving :=
  { transfer := { kind, totalSize := size } }

/-- Takes a response in place. The answer says whether its portion was the last one. -/
def takeInPlace (response : PartResponse) : EStateM TransferError Receiving Bool := do
  let before ← get
  let offset ← MonadExcept.ofExcept (before.transfer.offsetOf response.flag)
  if before.output.length < offset then
    throw (.invalidHandle before.transfer.handle (UInt32.ofNat before.output.length))
  let reached := offset + response.portion.length
  if before.transfer.totalSize < reached ∨
      (response.flag.isEnd = true ∧ reached ≠ before.transfer.totalSize) then
    throw (.lengthMismatch before.transfer.totalSize reached)
  modify fun receiving => { receiving with output := receiving.output.take offset }
  modify fun receiving => { receiving with output := receiving.output ++ response.portion }
  modify fun receiving => { receiving with transfer.handle := response.nextHandle }
  modify fun receiving => { receiving with transfer.inProgress := !response.flag.isEnd }
  let after ← get
  return !after.transfer.inProgress

/-- The answer to a response, and what is left by it. -/
def take (receiving : Receiving) (response : PartResponse) :
    Except TransferError Bool × Receiving :=
  match (takeInPlace response).run receiving with
  | .ok last after => (.ok last, after)
  | .error error after => (.error error, after)

variable {receiving : Receiving} {response : PartResponse}

/-- What has been written stays where a check fails. -/
@[simp] theorem run_throw {α : Type} (error : TransferError) (receiving : Receiving) :
    (throw error : EStateM TransferError Receiving α).run receiving = .error error receiving := rfl

/-- A response is accepted as a whole or leaves everything as it was. -/
theorem take_eq (receiving : Receiving) (response : PartResponse) :
    receiving.take response =
      match receiving.transfer.accept response receiving.output with
      | .ok (transfer, output) => (.ok (!transfer.inProgress), { receiving with transfer, output })
      | .error error => (.error error, receiving) := by
  have accepts : receiving.transfer.accept response receiving.output =
      (receiving.transfer.offsetOf response.flag).bind _ := rfl
  rw [accepts]
  unfold take takeInPlace
  cases offsets : receiving.transfer.offsetOf response.flag with
  | error error => simp [offsets, ofExcept, Except.bind]
  | ok offset =>
      by_cases absent : receiving.output.length < offset
      · simp [offsets, ofExcept, Except.bind, absent]
      · by_cases unfit : receiving.transfer.totalSize < offset + response.portion.length ∨
            (response.flag.isEnd = true ∧
              ¬ offset + response.portion.length = receiving.transfer.totalSize)
        · simp [offsets, ofExcept, Except.bind, absent, unfit]
        · simp [offsets, ofExcept, Except.bind, absent, unfit, -bind_pure_comp]

/-- Where the portion of a response belongs, by the handle that came with the one before. -/
def offset (receiving : Receiving) (response : PartResponse) : Nat :=
  if response.flag.isStart then 0 else receiving.nextHandle.toNat

/-- What is left by an input. A handle is on record once its response has been accepted. -/
def next (receiving : Receiving) : ReceivingInput → Receiving
  | .take response => match receiving.take response with
    | (.ok _, after) => { after with nextHandle := response.nextHandle }
    | (.error _, after) => after
  | .reset => { receiving with transfer := receiving.transfer.reset, output := [] }

/-- What is left by a sequence of inputs. -/
def run (receiving : Receiving) (inputs : List ReceivingInput) : Receiving :=
  inputs.foldl next receiving

/-- The last input comes after all the others. -/
theorem run_concat (receiving : Receiving) (inputs : List ReceivingInput)
    (input : ReceivingInput) :
    receiving.run (inputs ++ [input]) = (receiving.run inputs).next input := by
  simp [run]

/-- A portion that is accepted moves the transfer and is remembered. -/
theorem next_of_accept {transfer : Transfer} {output : List UInt8}
    (accepted : receiving.transfer.accept response receiving.output = .ok (transfer, output)) :
    receiving.next (.take response) = { transfer, output, nextHandle := response.nextHandle } := by
  simp [next, take_eq, accepted]

/-- The data are no more than announced, and the transfer goes on with the handle on record. -/
structure Bounded (size : Nat) (receiving : Receiving) : Prop where
  announced : receiving.transfer.totalSize = size
  within : receiving.output.length ≤ size
  handle : receiving.transfer.inProgress = true →
    receiving.transfer.handle = receiving.nextHandle

namespace Bounded

variable {size : Nat}

/-- A new transfer has received nothing. -/
theorem of_fresh (kind : TransferKind) (size : Nat) : (fresh kind size).Bounded size where
  announced := rfl
  within := Nat.zero_le _
  handle := nofun

/-- Whatever is received, the data stay within the size. -/
theorem next (bounded : receiving.Bounded size) (input : ReceivingInput) :
    (receiving.next input).Bounded size := by
  cases input with
  | reset =>
      exact ⟨bounded.announced, Nat.zero_le _, nofun⟩
  | take response =>
      cases accepted : receiving.transfer.accept response receiving.output with
      | error error =>
          have left : receiving.next (.take response) = receiving := by
            simp [Receiving.next, take_eq, accepted]
          rwa [left]
      | ok accepted' =>
          obtain ⟨transfer, output⟩ := accepted'
          obtain ⟨same, within⟩ := Transfer.length_of_accept accepted
          obtain ⟨_, _, _, _, rfl, -⟩ := Transfer.accept_eq_ok accepted
          rw [next_of_accept accepted]
          exact ⟨bounded.announced, bounded.announced ▸ within, fun _ => rfl⟩

/-- Whatever the inputs are, the data stay within the size. -/
theorem run (bounded : receiving.Bounded size) (inputs : List ReceivingInput) :
    (receiving.run inputs).Bounded size := by
  induction inputs generalizing receiving with
  | nil => exact bounded
  | cons input rest ih => exact ih (bounded.next input)

end Bounded

/-- A response fits if it is a first one exactly where none is under way, its portion begins in what
is there, and it does not reach beyond the size, or reaches it where it is the last. -/
structure Fits (receiving : Receiving) (response : PartResponse) : Prop where
  turn : response.flag.isStart = !receiving.transfer.inProgress
  present : receiving.offset response ≤ receiving.output.length
  within : receiving.offset response + response.portion.length ≤ receiving.transfer.totalSize
  whole : response.flag.isEnd = true →
    receiving.offset response + response.portion.length = receiving.transfer.totalSize

/-- The transfer finds the place of a portion by the handle on record. -/
theorem Bounded.offsetOf_eq_ok_iff {size place : Nat} (bounded : receiving.Bounded size) :
    receiving.transfer.offsetOf response.flag = .ok place ↔
      response.flag.isStart = !receiving.transfer.inProgress ∧
        place = receiving.offset response := by
  unfold Transfer.offsetOf offset
  cases underWay : receiving.transfer.inProgress with
  | false => cases response.flag.isStart <;> simp [eq_comm]
  | true =>
      rw [bounded.handle underWay]
      cases response.flag.isStart <;> simp [eq_comm]

/-- The responses that fit are accepted: the portion goes behind what comes before its place. All
others leave everything as it was. -/
theorem Bounded.take_cases {size : Nat} (bounded : receiving.Bounded size)
    (response : PartResponse) :
    (receiving.Fits response ∧ receiving.take response =
        (.ok response.flag.isEnd,
          { receiving with
            transfer := { receiving.transfer with
              handle := response.nextHandle, inProgress := !response.flag.isEnd }
            output := receiving.output.take (receiving.offset response) ++ response.portion })) ∨
      (¬ receiving.Fits response ∧
        ∃ error, receiving.take response = (.error error, receiving)) := by
  rw [take_eq]
  cases accepted : receiving.transfer.accept response receiving.output with
  | ok left =>
      obtain ⟨transfer, output⟩ := left
      obtain ⟨place, offsets, present, within, whole, rfl, rfl⟩ :=
        Transfer.accept_eq_ok_iff.mp accepted
      obtain ⟨turn, rfl⟩ := bounded.offsetOf_eq_ok_iff.mp offsets
      exact .inl ⟨⟨turn, present, within, whole⟩, by simp⟩
  | error error =>
      refine .inr ⟨fun fits => ?_, error, rfl⟩
      have taken := Transfer.accept_eq_ok_iff.mpr ⟨receiving.offset response,
        bounded.offsetOf_eq_ok_iff.mpr ⟨fits.turn, rfl⟩, fits.present, fits.within, fits.whole,
        rfl, rfl⟩
      cases accepted.symm.trans taken

end Receiving

end FirmwareUpdate
