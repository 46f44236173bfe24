import FirmwareUpdate.Transfer.Basic

/-!
# Whole transfers

A requester pulls a source from a responder, portion by portion, until the data are
complete or one of the two refuses.
-/

namespace FirmwareUpdate

/-- How a pull ends. -/
inductive PullOutcome where
  /-- All data have arrived. -/
  | complete (requester responder : Transfer) (output : List UInt8)
  /-- The responder refused a request. -/
  | notServed (error : TransferError)
  /-- The requester refused a portion. -/
  | notAccepted (error : TransferError)
  /-- The rounds are used up. -/
  | unfinished
deriving DecidableEq

namespace Transfer

/-- Runs at most `rounds` rounds of request, answer and acceptance. Returns the
answers in order, and how the pull ended. -/
def pullRounds (source : List UInt8) (portionSize : Nat) :
    Nat → (requester responder : Transfer) → List UInt8 → List PartResponse × PullOutcome
  | 0, _, _, _ => ([], .unfinished)
  | rounds + 1, requester, responder, output =>
    match responder.serve requester.nextRequest source portionSize with
    | (.error error, _) => ([], .notServed error)
    | (.ok part, responder) =>
      match requester.accept part output with
      | .error error => ([part], .notAccepted error)
      | .ok (requester, output) =>
        if requester.inProgress then
          let (parts, outcome) := pullRounds source portionSize rounds requester responder output
          (part :: parts, outcome)
        else ([part], .complete requester responder output)

/-- Pulls a source. Every round moves at least one byte, so there are no more rounds
than bytes. -/
def pull (source : List UInt8) (portionSize : Nat) (requester responder : Transfer)
    (output : List UInt8) : List PartResponse × PullOutcome :=
  pullRounds source portionSize (source.length + 1) requester responder output

end Transfer

end FirmwareUpdate
