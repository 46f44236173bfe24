import FirmwareUpdate.Proofs.Strict.Basic
import FirmwareUpdate.Proofs.Transfer.Round
import FirmwareUpdate.Proofs.Transfer.Serve

/-!
# Whatever is asked for

A responder does not choose its requests: a peer may repeat, skip or make them up, and the source
may be another one each time. `Served` says what a portion is that is served all the same, and
`LeftAlone` what a refusal leaves. `Serving` keeps, beside the transfer, what has been answered with
success; with it, what a transfer remembers is read off the answers that it has given.
-/

namespace FirmwareUpdate

open Wire

namespace Transfer

variable {transfer after ready : Transfer} {request : PartRequest} {source : List UInt8}
  {portionSize : Nat} {part : PartResponse}

/-! ## One request -/

/-- The portion that a request is answered with: bytes of the source from its start on. A first
portion starts with the source and takes its size; a next one starts at the handle. -/
structure Served (transfer : Transfer) (request : PartRequest) (source : List UInt8)
    (portionSize start : Nat) (part : PartResponse) (after : Transfer) : Prop where
  asked :
    (request.operation? = some .getFirstPart ∧ transfer.inProgress = false ∧ start = 0 ∧
        after.totalSize = source.length) ∨
      (request.operation? = some .getNextPart ∧ transfer.inProgress = true ∧
        request.handle = transfer.handle ∧ start = transfer.handle.toNat ∧
        after.totalSize = transfer.totalSize)
  some : 1 ≤ part.portion.length
  short : part.portion.length ≤ max portionSize 1
  inside : start + part.portion.length ≤ min after.totalSize source.length
  bytes : part.portion = (source.drop start).take part.portion.length
  next : part.nextHandle.toNat = start + part.portion.length
  starts : part.flag.isStart = true ↔ start = 0
  ends : part.flag.isEnd = true ↔
    start + part.portion.length = min after.totalSize source.length
  handle : after.handle = part.nextHandle
  underWay : after.inProgress = !part.flag.isEnd

/-- A portion that is served goes from the handle to where the next one begins: no further than the
portion size, the announced total and the source allow. -/
theorem servePortion_eq_ok (served : transfer.servePortion request source portionSize =
    (.ok part, after)) :
    ∃ reached, transfer.handle.toNat < reached ∧
      reached ≤ transfer.handle.toNat + max portionSize 1 ∧
      reached ≤ min transfer.totalSize source.length ∧ reached < UInt32.size ∧
      part =
        { nextHandle := UInt32.ofNat reached
          flag := .ofEnds (transfer.handle.toNat = 0)
            (reached = min transfer.totalSize source.length)
          portion :=
            (source.drop transfer.handle.toNat).take (reached - transfer.handle.toNat) } ∧
      after = { transfer with
        handle := UInt32.ofNat reached
        inProgress := reached ≠ min transfer.totalSize source.length } := by
  simp only [servePortion] at served
  split at served
  · cases served
  · split at served
    · cases served
      exact ⟨_, by omega, by omega, by omega, ‹_›, rfl, rfl⟩
    · cases served

/-- Whatever is answered with success is a portion of the source. -/
theorem served_of_serve
    (served : transfer.serve request source portionSize = (.ok part, after)) :
    ∃ start, transfer.Served request source portionSize start part after := by
  simp only [serve] at served
  split at served
  · cases served
  · split at served
    · cases served
    · rename_i ready opens
      obtain ⟨reached, later, within, inside, small, rfl, rfl⟩ := servePortion_eq_ok served
      have length : ((source.drop ready.handle.toNat).take
          (reached - ready.handle.toNat)).length = reached - ready.handle.toNat := by
        rw [List.length_take, List.length_drop]
        omega
      have next : (UInt32.ofNat reached).toNat = reached := UInt32.toNat_ofNat_of_lt' small
      have whole : ready.handle.toNat + (reached - ready.handle.toNat) = reached := by omega
      refine ⟨ready.handle.toNat, ?_, ?_, ?_, ?_, ?_, ?_, ?_, ?_, rfl, ?_⟩
      · rcases opened_eq_ok opens with ⟨first, resting, rfl⟩ | ⟨next, underWay, same, rfl⟩
        · exact .inl ⟨first, resting, rfl, rfl⟩
        · exact .inr ⟨next, underWay, same, rfl, rfl⟩
      · rw [length]
        omega
      · rw [length]
        omega
      · rw [length, whole]
        exact inside
      · rw [length]
      · rw [length, next, whole]
      · simp [TransferFlag.isStart_ofEnds]
      · simp [TransferFlag.isEnd_ofEnds, length, whole]
      · simp [TransferFlag.isEnd_ofEnds]

/-- A transfer that has bytes of its source left serves some of them. -/
theorem servePortion_of_left (transfer : Transfer)
    (left : transfer.handle.toNat < min transfer.totalSize source.length)
    (small : source.length < UInt32.size) (request : PartRequest) (portionSize : Nat) :
    ∃ part after, transfer.servePortion request source portionSize = (.ok part, after) := by
  have inside : ¬ min transfer.totalSize source.length ≤ transfer.handle.toNat := by omega
  have reachable : transfer.handle.toNat + min (max portionSize 1)
      (min transfer.totalSize source.length - transfer.handle.toNat) < UInt32.size := by omega
  simp only [servePortion, if_neg inside, if_pos reachable]
  exact ⟨_, _, rfl⟩

/-- A first portion that is asked for where no transfer is under way is the one that the source
begins with. -/
theorem serve_first (resting : transfer.inProgress = false)
    (first : request.operation? = some .getFirstPart) (some : source ≠ [])
    (small : source.length < UInt32.size) (portionSize : Nat) :
    transfer.serve request source portionSize =
      (.ok (nextPart source portionSize 0), transfer.afterPart source portionSize 0) := by
  have positive : 0 < source.length := List.length_pos_iff.mpr some
  have inside : ¬ source.length ≤ 0 := by omega
  have reachable : 0 + min (max portionSize 1) (source.length - 0) < UInt32.size := by omega
  rw [Transfer.serve, if_neg (by simpa using some), opened_of_first resting first]
  simp only [servePortion, UInt32.toNat_zero, Nat.min_self, if_neg inside, if_pos reachable]
  rfl

/-- A transfer of a source takes its size with the first portion and has bytes left until the
last one. -/
theorem Served.amid {start : Nat}
    (served : transfer.Served request source portionSize start part after)
    (amid : transfer.Amid source) : after.totalSize = source.length ∧ after.Amid source := by
  have total : after.totalSize = source.length := by
    rcases served.asked with ⟨-, -, -, total⟩ | ⟨-, underWay, -, -, total⟩
    · exact total
    · exact total.trans (amid underWay).1
  refine ⟨total, fun underWay => ⟨total, ?_⟩⟩
  have more : part.flag.isEnd = false := by simpa [served.underWay] using underWay
  have inside := served.inside
  have unfinished : start + part.portion.length ≠ min after.totalSize source.length :=
    fun reached => by simp [served.ends.mpr reached] at more
  rw [served.handle, served.next]
  omega

/-- The request begins a transfer that is not under way, or it goes on with one that has bytes of
the source left. -/
def Finds (transfer : Transfer) (request : PartRequest) (source : List UInt8) : Prop :=
  source ≠ [] ∧
    ((request.operation? = some .getFirstPart ∧ transfer.inProgress = false) ∨
      (request.operation? = some .getNextPart ∧ transfer.inProgress = true ∧
        request.handle = transfer.handle ∧ transfer.handle.toNat < source.length))

/-- The requests that are served are those that find something to serve. -/
theorem HasRest.isOk_serve_iff (rest : transfer.HasRest) (small : source.length < UInt32.size) :
    (∃ part, (transfer.serve request source portionSize).1 = .ok part) ↔
      transfer.Finds request source := by
  constructor
  · rintro ⟨part, answered⟩
    obtain ⟨start, served⟩ := served_of_serve (Prod.ext answered rfl)
    have inside := served.inside
    have some := served.some
    refine ⟨List.length_pos_iff.mp (by omega), ?_⟩
    rcases served.asked with ⟨first, resting, -⟩ | ⟨next, underWay, same, rfl, -⟩
    · exact .inl ⟨first, resting⟩
    · exact .inr ⟨next, underWay, same, by omega⟩
  · rintro ⟨some, finds⟩
    have positive : 0 < source.length := List.length_pos_iff.mpr some
    rw [Transfer.serve, if_neg (by simpa using some)]
    rcases finds with ⟨first, resting⟩ | ⟨next, underWay, same, left⟩
    · rw [opened_of_first resting first]
      obtain ⟨part, after, served⟩ := servePortion_of_left
        { transfer with handle := 0, totalSize := source.length } (by simpa using positive) small
        request portionSize
      exact ⟨part, congrArg Prod.fst served⟩
    · have before := rest underWay
      rw [opened_of_next underWay next same]
      obtain ⟨part, after, served⟩ :=
        servePortion_of_left transfer (by omega) small request portionSize
      exact ⟨part, congrArg Prod.fst served⟩

/-- A transfer ends where its source has shrunk. -/
theorem FindsShrunk.serve_eq (finds : transfer.FindsShrunk request source) (portionSize : Nat) :
    transfer.serve request source portionSize =
      (.error (.invalidHandle request.handle transfer.handle),
        { transfer with inProgress := false }) := by
  have shrunk := finds.shrunk
  have past : min transfer.totalSize source.length ≤ transfer.handle.toNat := by omega
  rw [Transfer.serve, if_neg (by simpa using finds.some),
    opened_of_next finds.underWay finds.next finds.handle]
  simp only [servePortion, if_pos past]

/-! ## Any sequence of requests -/

/-- A request, with the source that is there when it comes and the size of portions then. -/
structure PortionCall where
  request : PartRequest
  source : List UInt8
  portionSize : Nat
  /-- Handles reach to the end of the source. -/
  small : source.length < UInt32.size

/-- What a transfer makes of a request. -/
def answer (transfer : Transfer) (call : PortionCall) :
    Except TransferError PartResponse × Transfer :=
  transfer.serve call.request call.source call.portionSize

end Transfer

/-- A transfer that serves, with a record of its answers. -/
structure Serving where
  transfer : Transfer
  /-- The handle that came with the last portion. -/
  nextHandle : UInt32 := 0
  /-- The size of the source when the last first portion was served. -/
  firstSize : Nat := 0
  /-- The last first portion, and the next ones that have been served since. -/
  portions : List (List UInt8) := []

namespace Serving

open Transfer (PortionCall)

/-- A transfer that has not served anything. -/
def fresh (kind : TransferKind) (totalSize : Nat) : Serving := { transfer := { kind, totalSize } }

/-- The record after a portion. -/
def record (serving : Serving) (call : PortionCall) (part : PartResponse) (transfer : Transfer) :
    Serving :=
  if call.request.operation? = some .getFirstPart then
    { transfer
      nextHandle := part.nextHandle
      firstSize := call.source.length
      portions := [part.portion] }
  else
    { serving with
      transfer
      nextHandle := part.nextHandle
      portions := serving.portions ++ [part.portion] }

/-- The transfer after a request, with its answer on record if it is a portion. -/
def next (serving : Serving) (call : PortionCall) : Serving :=
  match serving.transfer.answer call with
  | (.ok part, transfer) => serving.record call part transfer
  | (.error _, transfer) => { serving with transfer }

/-- The transfer after a sequence of requests. -/
def run (serving : Serving) (calls : List PortionCall) : Serving := calls.foldl next serving

variable {serving : Serving} {call : PortionCall}

@[simp] theorem transfer_record (part : PartResponse) (transfer : Transfer) :
    (serving.record call part transfer).transfer = transfer := by
  unfold record
  split <;> rfl

@[simp] theorem nextHandle_record (part : PartResponse) (transfer : Transfer) :
    (serving.record call part transfer).nextHandle = part.nextHandle := by
  unfold record
  split <;> rfl

/-- A call that is answered is put on record. -/
theorem next_of_ok {part : PartResponse} {after : Transfer}
    (answered : serving.transfer.answer call = (.ok part, after)) :
    serving.next call = serving.record call part after := by
  simp [next, answered]

/-- A call that is refused leaves the record, and the transfer as the refusal leaves it. -/
theorem next_of_error {error : TransferError} {after : Transfer}
    (answered : serving.transfer.answer call = (.error error, after)) :
    serving.next call = { serving with transfer := after } := by
  simp [next, answered]

/-- What a transfer remembers is on record. -/
structure Recorded (serving : Serving) : Prop where
  handle : serving.transfer.handle = serving.nextHandle
  size : serving.transfer.inProgress = true → serving.transfer.totalSize = serving.firstSize
  rest : serving.transfer.HasRest
  begun : serving.transfer.inProgress = true →
    0 < serving.transfer.handle.toNat ∧ serving.portions ≠ []

namespace Recorded

/-- A new transfer has nothing to remember. -/
theorem of_fresh (kind : TransferKind) (totalSize : Nat) : (fresh kind totalSize).Recorded where
  handle := rfl
  size := nofun
  rest := nofun
  begun := nofun

/-- A transfer that ends is on record as it was. -/
theorem ended (recorded : serving.Recorded) :
    { serving with transfer := { serving.transfer with inProgress := false } }.Recorded where
  handle := recorded.handle
  size := nofun
  rest := nofun
  begun := nofun

/-- The size on record after a portion is the one that the transfer goes on with. -/
theorem firstSize_record (recorded : serving.Recorded) {start : Nat} {part : PartResponse}
    {after : Transfer} (served : serving.transfer.Served call.request call.source call.portionSize
      start part after) :
    (serving.record call part after).firstSize = after.totalSize := by
  rcases served.asked with ⟨first, -, -, size⟩ | ⟨next, underWay, -, -, size⟩
  · simp [record, first, size]
  · simp [record, next, size, recorded.size underWay]

/-- A portion that goes on record takes the transfer's memory with it. -/
theorem record (recorded : serving.Recorded) {start : Nat} {part : PartResponse}
    {after : Transfer} (served : serving.transfer.Served call.request call.source call.portionSize
      start part after) : (serving.record call part after).Recorded where
  handle := by simp [served.handle]
  size _ := by simp [recorded.firstSize_record served]
  rest := by
    intro more
    have inside := served.inside
    have notLast : ¬ part.flag.isEnd = true := by
      simpa [served.underWay] using more
    rw [served.ends] at notLast
    rw [transfer_record, served.handle, served.next]
    omega
  begun _ := by
    have some := served.some
    have next := served.next
    refine ⟨by simp [served.handle]; omega, ?_⟩
    unfold Serving.record
    split <;> simp

/-- Every request leaves what a transfer remembers on record. -/
theorem next (recorded : serving.Recorded) (call : PortionCall) : (serving.next call).Recorded := by
  cases answered : serving.transfer.answer call with
  | mk result after =>
      cases result with
      | ok part =>
          obtain ⟨start, served⟩ := Transfer.served_of_serve answered
          rw [next_of_ok answered]
          exact recorded.record served
      | error error =>
          rw [next_of_error answered]
          rcases recorded.rest.serve_eq_error (.inr call.small) answered with rfl | ⟨-, rfl⟩
          · exact recorded
          · exact recorded.ended

/-- What a transfer remembers is on record after any calls. -/
theorem run (recorded : serving.Recorded) (calls : List PortionCall) :
    (serving.run calls).Recorded := by
  induction calls generalizing serving with
  | nil => exact recorded
  | cons call rest ih => exact ih (recorded.next call)

end Recorded

/-! ### A source that stays the same -/

/-- The portions on record are the source up to the handle. -/
structure Covers (serving : Serving) (source : List UInt8) : Prop where
  within : serving.transfer.handle.toNat ≤ source.length
  portions : serving.portions.flatten = source.take serving.transfer.handle.toNat

namespace Covers

variable {source : List UInt8}

/-- A new transfer has served nothing of its source. -/
theorem of_fresh (kind : TransferKind) (totalSize : Nat) (source : List UInt8) :
    (fresh kind totalSize).Covers source := ⟨Nat.zero_le _, rfl⟩

/-- A portion that goes on record is the next piece of the source. -/
theorem record (covers : serving.Covers call.source) {start : Nat} {part : PartResponse}
    {after : Transfer} (served : serving.transfer.Served call.request call.source call.portionSize
      start part after) : (serving.record call part after).Covers call.source := by
  have inside := served.inside
  refine ⟨by simp [served.handle, served.next]; omega, ?_⟩
  rw [transfer_record, served.handle, served.next]
  rcases served.asked with ⟨first, -, rfl, -⟩ | ⟨next, -, -, rfl, -⟩
  · rw [Nat.zero_add, Serving.record, if_pos first, List.flatten_singleton]
    exact served.bytes
  · have later : ¬ call.request.operation? = some .getFirstPart := by simp [next]
    rw [Serving.record, if_neg later, List.flatten_append, List.flatten_singleton, covers.portions,
      List.take_add, ← served.bytes]

/-- A call with the same source keeps the portions on record a prefix of it. -/
theorem next (covers : serving.Covers source) (recorded : serving.Recorded)
    (same : call.source = source) : (serving.next call).Covers source := by
  subst same
  cases answered : serving.transfer.answer call with
  | mk result after =>
      cases result with
      | ok part =>
          obtain ⟨start, served⟩ := Transfer.served_of_serve answered
          rw [next_of_ok answered]
          exact covers.record served
      | error error =>
          rw [next_of_error answered]
          rcases recorded.rest.serve_eq_error (.inr call.small) answered with rfl | ⟨-, rfl⟩
          · exact covers
          · exact ⟨covers.within, covers.portions⟩

/-- So do any number of calls. -/
theorem run (covers : serving.Covers source) (recorded : serving.Recorded)
    {calls : List PortionCall} (same : ∀ call ∈ calls, call.source = source) :
    (serving.run calls).Covers source := by
  induction calls generalizing serving with
  | nil => exact covers
  | cons call rest ih =>
      rw [List.forall_mem_cons] at same
      exact ih (covers.next recorded same.1) (recorded.next call) same.2

end Covers

end Serving

/-- Whatever a fresh transfer is asked for, with any handles, operations and portion sizes and with
sources that change in between, it reads nothing outside the source, and it serves the requests that
begin a transfer or go on with the one under way. A portion has a byte at least
and no more than the size of portions; it is the part of the source from the beginning or, for a
next portion, from the handle that came with the last one. It comes with the handle of what follows
and with the flags of a first and of a last portion where it is one, and it is a last one where it
reaches the smaller of what the source was at the first portion and what it is now. A refusal
leaves the transfer as it was, except where the next portion is asked for and the source has shrunk
to the handle or below: that ends the transfer. Of a source that stays the same, the portions since
the last first one are what is before the handle. -/
theorem portions_are_served_in_sequence (kind : TransferKind) (totalSize : Nat)
    (calls : List Transfer.PortionCall) :
    let serving := (Serving.fresh kind totalSize).run calls
    let transfer := serving.transfer
    (∀ call : Transfer.PortionCall,
      transfer.serveStrictly call.request call.source call.portionSize =
        some (transfer.answer call) ∧
      ((∃ part, (transfer.answer call).1 = .ok part) ↔
        transfer.Finds call.request call.source) ∧
      (∀ part, (transfer.answer call).1 = .ok part → ∃ start,
        ((call.request.operation? = some .getFirstPart ∧ start = 0) ∨
          (call.request.operation? = some .getNextPart ∧ serving.portions ≠ [] ∧
            start = serving.nextHandle.toNat)) ∧
        1 ≤ part.portion.length ∧ part.portion.length ≤ max call.portionSize 1 ∧
        start + part.portion.length ≤ call.source.length ∧
        part.portion = (call.source.drop start).take part.portion.length ∧
        part.nextHandle.toNat = start + part.portion.length ∧
        (part.flag.isStart = true ↔ start = 0) ∧
        (part.flag.isEnd = true ↔ start + part.portion.length =
          min (serving.next call).firstSize call.source.length)) ∧
      (∀ error, (transfer.answer call).1 = .error error →
        (transfer.answer call).2 = transfer ∨
          (transfer.FindsShrunk call.request call.source ∧
            (transfer.answer call).2 = { transfer with inProgress := false })) ∧
      (transfer.FindsShrunk call.request call.source →
        (∃ error, (transfer.answer call).1 = .error error) ∧
          (transfer.answer call).2 = { transfer with inProgress := false })) ∧
    (∀ source, (∀ call ∈ calls, call.source = source) →
      transfer.handle.toNat ≤ source.length ∧
        serving.portions.flatten = source.take transfer.handle.toNat) := by
  intro serving transfer
  have recorded : serving.Recorded := (Serving.Recorded.of_fresh kind totalSize).run calls
  refine ⟨fun call => ⟨Transfer.serveStrictly_eq .., recorded.rest.isOk_serve_iff call.small,
    ?_, ?_, ?_⟩, fun source same => ?_⟩
  · intro part answered
    have answered : transfer.answer call = (.ok part, (transfer.answer call).2) :=
      Prod.ext answered rfl
    obtain ⟨start, served⟩ := Transfer.served_of_serve answered
    have size := recorded.firstSize_record served
    have inside := served.inside
    rw [Serving.next_of_ok answered, size]
    refine ⟨start, ?_, served.some, served.short, by omega, served.bytes, served.next,
      served.starts, served.ends⟩
    rcases served.asked with ⟨first, -, start, -⟩ | ⟨next, underWay, -, start, -⟩
    · exact .inl ⟨first, start⟩
    · exact .inr ⟨next, (recorded.begun underWay).2, by rw [start, recorded.handle]⟩
  · intro error refused
    exact recorded.rest.serve_eq_error (.inr call.small) (Prod.ext refused rfl)
  · intro finds
    have ended := finds.serve_eq call.portionSize
    exact ⟨⟨_, congrArg Prod.fst ended⟩, congrArg Prod.snd ended⟩
  · have covers := (Serving.Covers.of_fresh kind totalSize source).run
      (Serving.Recorded.of_fresh kind totalSize) same
    exact ⟨covers.within, covers.portions⟩

namespace FiveBytes

/-- Asks for the first portion, two bytes of five; the handle does not matter. -/
def first : Transfer.PortionCall :=
  { request := .of .getFirstPart 9
    source := [1, 2, 3, 4, 5]
    portionSize := 2
    small := by decide }

/-- Asks for the next two bytes. -/
def second : Transfer.PortionCall := { first with request := .of .getNextPart 2 }

/-- Asks for the last byte. -/
def third : Transfer.PortionCall := { first with request := .of .getNextPart 4 }

/-- Asks for the last byte when there are only three bytes left. -/
def late : Transfer.PortionCall := { third with source := [1, 2, 3], small := by decide }

/-- What is served of the five bytes before they become fewer. -/
def serving : Serving := (Serving.fresh .packageData 0).run [first, second]

end FiveBytes

open FiveBytes in
/-- Four of five bytes are served. The last one comes with the flag of a last portion, unless the
source has become shorter than what has been served: then the transfer ends. -/
theorem four_bytes_served_of_five :
    serving.portions.flatten = [1, 2, 3, 4] ∧
      (∃ part, (serving.transfer.answer third).1 = .ok part ∧ part.portion = [5] ∧
        part.flag.isEnd = true) ∧
      (∃ error, (serving.transfer.answer late).1 = .error error) ∧
      (serving.transfer.answer late).2 = { serving.transfer with inProgress := false } := by
  obtain ⟨each, whole⟩ := portions_are_served_in_sequence .packageData 0 [first, second]
  have covers := whole [1, 2, 3, 4, 5] (by simp [first, second])
  have answered : (serving.transfer.answer third).1 =
      .ok { nextHandle := 5, flag := .finish, portion := [5] } := rfl
  obtain ⟨start, -, -, -, -, -, next, -, ends⟩ := (each third).2.2.1 _ answered
  have reaches : start + 1 = min (serving.next third).firstSize 5 := next.symm
  have finds : serving.transfer.FindsShrunk late.request late.source :=
    ⟨by decide, by decide, by decide, by decide, by decide⟩
  exact ⟨covers.2, ⟨_, answered, rfl, ends.mpr reaches⟩, (each late).2.2.2.2 finds⟩

end FirmwareUpdate
