import Mathlib.Data.List.Induction
import FirmwareUpdate.Proofs.Agent.Failures
import FirmwareUpdate.Proofs.Agent.Shown
import FirmwareUpdate.Proofs.Agent.Size
import FirmwareUpdate.Proofs.Transfer.Receiving

/-!
# What a requester can collect

Whatever a peer answers, a requester of data has no more of them than were announced, and a session
has no more metadata than the device has announced last and than the settings allow. `Collects`
says that transfer and buffer of a session are what is left by calls of a fresh requester, so the
second follows from the first: an input takes a portion, or drops what is there, or begins an update
with a fresh requester of the size that the device announces.
-/

namespace FirmwareUpdate

open Wire

namespace Session

variable {first session after : Session}

/-! ## Announcements -/

/-- What the device has announced last. -/
inductive LastAnnounced (first : Session) : List SessionInput → UpdateResponse → Prop where
  | now {inputs : List SessionInput} {message : List UInt8} {announced : UpdateResponse}
      (announces : (first.run inputs).Announces message announced) :
      LastAnnounced first (inputs ++ [.process message]) announced
  | before {inputs : List SessionInput} {announced : UpdateResponse} {input : SessionInput}
      (last : LastAnnounced first inputs announced) (silent : (first.run inputs).Silent input) :
      LastAnnounced first (inputs ++ [input]) announced

/-- The last announcement has come with the last input, or before it. -/
theorem LastAnnounced.cases_concat {front : List SessionInput} {input : SessionInput}
    {announced : UpdateResponse} (last : first.LastAnnounced (front ++ [input]) announced) :
    (∃ message, input = .process message ∧ (first.run front).Announces message announced) ∨
      (first.LastAnnounced front announced ∧ (first.run front).Silent input) := by
  generalize whole : front ++ [input] = inputs at last
  cases last with
  | now announces =>
      obtain ⟨rfl, same⟩ := List.append_inj' whole rfl
      cases same
      exact .inl ⟨_, rfl, announces⟩
  | before last silent =>
      obtain ⟨rfl, same⟩ := List.append_inj' whole rfl
      cases same
      exact .inr ⟨last, silent⟩

/-! ## The buffer -/

/-- What an input that announces nothing does to the metadata. -/
inductive Collecting (session after : Session) : Prop where
  | kept (metadata : after.metadata = session.metadata)
      (bytes : after.metadataBytes = session.metadataBytes)
  | portion {part : PartResponse}
      (accepted : session.metadata.accept part session.metadataBytes =
        .ok (after.metadata, after.metadataBytes))
  | cleared (metadata : after.metadata = { kind := .deviceMetaData })
      (bytes : after.metadataBytes = [])

/-- A reply that announces nothing goes on with what is collected. -/
theorem Collecting.process {message : List UInt8}
    (silent : ∀ announced, ¬ session.Announces message announced) :
    session.Collecting (session.process message).2 := by
  have takes := session.process_takes message
  generalize (session.process message).2 = after at takes
  cases takes with
  | refused | unable | failed => exact .kept rfl rfl
  | applied answers success applies =>
      cases applies with
      | begun read | tooMuchMetadata read => exact absurd ⟨_, answers, success, read⟩ (silent _)
      | metadata read accepted => exact .portion accepted
      | cancelled => exact .cleared rfl rfl
      | _ => exact .kept rfl rfl

/-- An input that announces nothing goes on with what is collected. -/
theorem Collecting.next {input : SessionInput} (silent : session.Silent input) :
    session.Collecting (session.next input) := by
  cases input with
  | issue command =>
      show session.Collecting (session.issue command).2
      unfold issue
      repeat' split
      all_goals exact .kept rfl rfl
  | process message => exact .process fun announced => silent message announced rfl
  | handle message =>
      refine of_handleRequest session.Collecting message (.kept rfl rfl) fun serves => ?_
      cases serves <;> exact .kept rfl rfl
  | reset => exact .cleared rfl rfl
  | load plan =>
      rcases next_load session plan with refused | ⟨-, loaded⟩
      · rw [refused]
        exact .kept rfl rfl
      · rw [loaded]
        exact .cleared rfl rfl

/-- Transfer and buffer are what calls leave of a fresh requester of this size. -/
def Collects (session : Session) (size : Nat) : Prop :=
  ∃ calls, session.metadata = ((Receiving.fresh .deviceMetaData size).run calls).transfer ∧
    session.metadataBytes = ((Receiving.fresh .deviceMetaData size).run calls).output

namespace Collects

variable {size : Nat}

/-- A transfer that has just been announced has filled nothing. -/
theorem of_fresh (metadata : session.metadata = { kind := .deviceMetaData, totalSize := size })
    (bytes : session.metadataBytes = []) : session.Collects size :=
  ⟨[], metadata, bytes⟩

/-- What has been collected is no more than the size. -/
theorem within (collects : session.Collects size) : session.metadataBytes.length ≤ size := by
  obtain ⟨calls, -, bytes⟩ := collects
  rw [bytes]
  exact ((Receiving.Bounded.of_fresh .deviceMetaData size).run calls).within

/-- Without an announcement the size does not grow. -/
theorem collecting (collects : session.Collects size) (step : session.Collecting after) :
    ∃ size' ≤ size, after.Collects size' := by
  cases step with
  | kept metadata bytes =>
      obtain ⟨calls, before⟩ := collects
      exact ⟨size, Nat.le_refl size, calls, by rwa [metadata, bytes]⟩
  | @portion part accepted =>
      obtain ⟨calls, metadata, bytes⟩ := collects
      rw [metadata, bytes] at accepted
      refine ⟨size, Nat.le_refl size, calls ++ [.take part], ?_⟩
      rw [Receiving.run_concat, Receiving.next_of_accept accepted]
      exact ⟨rfl, rfl⟩
  | cleared metadata bytes => exact ⟨0, Nat.zero_le size, .of_fresh metadata bytes⟩

end Collects

/-- The buffer belongs to a requester of a size within the limit, which the device has announced
last or more, and is empty as long as it has announced nothing. -/
structure Fills (first : Session) (inputs : List SessionInput) (size : Nat) : Prop where
  collects : (first.run inputs).Collects size
  allowed : size ≤ first.settings.maxMetadataSize
  announced : ∀ announced, first.LastAnnounced inputs announced →
    size ≤ announced.metadataSize.toNat
  unannounced : (∀ announced, ¬ first.LastAnnounced inputs announced) → size = 0

namespace Fills

variable {inputs : List SessionInput} {size : Nat}

/-- Where nothing is announced, the last announcement stays. -/
theorem of_silent (fills : first.Fills inputs size) {input : SessionInput}
    (silent : (first.run inputs).Silent input) :
    ∃ size', first.Fills (inputs ++ [input]) size' := by
  obtain ⟨size', less, collects⟩ := fills.collects.collecting (.next silent)
  refine ⟨size', by rwa [run_concat], Nat.le_trans less fills.allowed, ?_, ?_⟩
  · intro announced last
    rcases last.cases_concat with ⟨message, rfl, announces⟩ | ⟨last, -⟩
    · exact absurd announces (silent message announced rfl)
    · exact Nat.le_trans less (fills.announced announced last)
  · intro unannounced
    have none := fills.unannounced fun announced last =>
      unannounced announced (.before last silent)
    omega

/-- An announcement becomes the last one, and it is enough that the size fits it. -/
theorem of_announces {message : List UInt8} {announced : UpdateResponse}
    (announces : (first.run inputs).Announces message announced)
    (collects : ((first.run inputs).next (.process message)).Collects size)
    (allowed : size ≤ first.settings.maxMetadataSize)
    (fits : size ≤ announced.metadataSize.toNat) :
    first.Fills (inputs ++ [.process message]) size where
  collects := by rwa [run_concat]
  allowed := allowed
  announced := by
    intro other last
    rcases last.cases_concat with ⟨message', same, again⟩ | ⟨-, silent⟩
    · cases same
      rwa [← announces.unique again]
    · exact absurd announces (silent message announced rfl)
  unannounced unannounced := absurd (.now announces) (unannounced announced)

/-- The buffer is filled by the inputs since the announcement, input by input. -/
theorem concat (fills : first.Fills inputs size) (input : SessionInput) :
    ∃ size', first.Fills (inputs ++ [input]) size' := by
  by_cases silent : (first.run inputs).Silent input
  · exact fills.of_silent silent
  · simp only [Silent, not_forall, not_not] at silent
    obtain ⟨message, announced, rfl, announces⟩ := silent
    by_cases beyond : (first.run inputs).settings.maxMetadataSize < announced.metadataSize.toNat
    · -- the update ends, and what was collected before is within the limit
      obtain ⟨cc, -, ended⟩ := announces.process_of_beyond beyond
      have collects : ((first.run inputs).process message).2.Collects size := by
        rw [ended]
        exact fills.collects
      rw [run_settings] at beyond
      have fits := Nat.le_of_lt (Nat.lt_of_le_of_lt fills.allowed beyond)
      exact ⟨size, of_announces announces collects fills.allowed fits⟩
    · have within := Nat.not_lt.mp beyond
      obtain ⟨cc, -, begun⟩ := announces.process_of_within within
      have collects : ((first.run inputs).process message).2.Collects
          announced.metadataSize.toNat := by
        rw [begun]
        exact .of_fresh rfl rfl
      rw [run_settings] at within
      exact ⟨_, of_announces announces collects within (Nat.le_refl _)⟩

end Fills

/-- Every run of a session that begins with an empty buffer fills one of some size. -/
theorem fills (metadata : first.metadata = { kind := .deviceMetaData })
    (bytes : first.metadataBytes = []) (inputs : List SessionInput) :
    ∃ size, first.Fills inputs size := by
  induction inputs using List.reverseRecOn with
  | nil =>
      refine ⟨0, .of_fresh metadata bytes, Nat.zero_le _, fun _ _ => Nat.zero_le _, fun _ => rfl⟩
  | append_singleton front input ih =>
      obtain ⟨size, fills⟩ := ih
      exact fills.concat input

end Session

namespace Receiving

variable {receiving after : Receiving} {response : PartResponse} {size : Nat}

/-- Exactly the responses that fit are accepted. -/
theorem Bounded.accepts_iff {result : Except TransferError Bool}
    (bounded : receiving.Bounded size) (taken : receiving.take response = (result, after)) :
    (∃ last, result = .ok last) ↔ receiving.Fits response := by
  obtain ⟨fits, accepted⟩ | ⟨unfit, error, refused⟩ := bounded.take_cases response
  · cases taken.symm.trans accepted
    exact ⟨fun _ => fits, fun _ => ⟨_, rfl⟩⟩
  · cases taken.symm.trans refused
    exact ⟨nofun, fun fits => absurd fits unfit⟩

/-- What an accepted response leaves, and whether it was the last one. -/
theorem Bounded.of_accepted {last : Bool} (bounded : receiving.Bounded size)
    (taken : receiving.take response = (.ok last, after)) :
    receiving.Fits response ∧ last = response.flag.isEnd ∧
      after.output = receiving.output.take (receiving.offset response) ++ response.portion := by
  obtain ⟨fits, accepted⟩ | ⟨-, error, refused⟩ := bounded.take_cases response
  · cases taken.symm.trans accepted
    exact ⟨fits, rfl, rfl⟩
  · cases taken.symm.trans refused

/-- A response that is not accepted leaves everything as it was. -/
theorem Bounded.of_refused {error : TransferError} (bounded : receiving.Bounded size)
    (taken : receiving.take response = (.error error, after)) : after = receiving := by
  obtain ⟨-, accepted⟩ | ⟨-, error, refused⟩ := bounded.take_cases response
  · cases taken.symm.trans accepted
  · cases taken.symm.trans refused
    rfl

/-- After the last portion all data are there. -/
theorem Bounded.length_of_last (bounded : receiving.Bounded size)
    (taken : receiving.take response = (.ok true, after)) : after.output.length = size := by
  obtain ⟨fits, last, output⟩ := bounded.of_accepted taken
  have whole := fits.whole last.symm
  have present := fits.present
  rw [bounded.announced] at whole
  rw [output, List.length_append, List.length_take]
  omega

end Receiving

/-- Two of the four flags mark the last portion. -/
theorem TransferFlag.isEnd_iff {flag : TransferFlag} :
    flag.isEnd = true ↔ flag = .finish ∨ flag = .startAndEnd := by
  cases flag <;> decide

/-- A requester with a fresh transfer has never more data than were announced, whatever responses
it takes and however often it starts over. A response ends the transfer exactly if it is accepted
with one of the two flags that say so, and then all data are there. A portion that is accepted goes
to the start where its flag says so and else to the handle that came with the one before, and what
was there from that place on is dropped; a response that is not accepted changes nothing. So the
metadata of a session are no more than the device has announced last and than the settings allow,
and none as long as nothing has been announced. -/
theorem collected_data_stay_within_announced {settings : AgentSettings} {plan : UpdatePlan}
    {first : Session} (started : Session.start settings plan = .ok first) :
    (∀ (kind : TransferKind) (size : Nat) (inputs : List ReceivingInput),
      let receiving := (Receiving.fresh kind size).run inputs
      receiving.output.length ≤ size ∧ ∀ response,
        let (result, after) := receiving.take response
        (result = .ok true ↔ (∃ last, result = .ok last) ∧
          (response.flag = .finish ∨ response.flag = .startAndEnd)) ∧
        (result = .ok true → after.output.length = size) ∧
        (∀ last, result = .ok last →
          let offset := if response.flag.isStart then 0 else receiving.nextHandle.toNat
          offset ≤ receiving.output.length ∧
            after.output = receiving.output.take offset ++ response.portion) ∧
        (∀ error, result = .error error → after = receiving) ∧
        ((∃ last, result = .ok last) ↔ receiving.Fits response)) ∧
    ∀ inputs,
      let session := first.run inputs
      session.metadataBytes.length ≤ settings.maxMetadataSize ∧
      (∀ announced, first.LastAnnounced inputs announced →
        session.metadataBytes.length ≤ announced.metadataSize.toNat) ∧
      ((∀ announced, ¬ first.LastAnnounced inputs announced) → session.metadataBytes = []) := by
  refine ⟨fun kind size inputs => ?_, fun inputs => ?_⟩
  · intro receiving
    have bounded : receiving.Bounded size := (Receiving.Bounded.of_fresh kind size).run inputs
    refine ⟨bounded.within, fun response => ?_⟩
    cases taken : receiving.take response with
    | mk result after =>
      have accepts := bounded.accepts_iff taken
      refine ⟨⟨?_, ?_⟩, ?_, ?_, ?_, accepts⟩
      · rintro rfl
        have ends := (bounded.of_accepted taken).2.1.symm
        exact ⟨⟨true, rfl⟩, TransferFlag.isEnd_iff.mp ends⟩
      · rintro ⟨⟨last, rfl⟩, ends⟩
        rw [(bounded.of_accepted taken).2.1, TransferFlag.isEnd_iff.mpr ends]
      · rintro rfl
        exact bounded.length_of_last taken
      · rintro last rfl
        obtain ⟨fits, -, output⟩ := bounded.of_accepted taken
        exact ⟨fits.present, output⟩
      · rintro error rfl
        exact bounded.of_refused taken
  · obtain ⟨-, -, rfl⟩ := Session.sound_of_start started
    -- A fresh session has announced nothing and holds nothing, which starts the invariant.
    obtain ⟨size, fills⟩ := Session.fills
      (rfl : Session.metadata { settings, plan, outcomes := Session.freshOutcomes plan } = _) rfl
      inputs
    have within := fills.collects.within
    refine ⟨Nat.le_trans within fills.allowed, fun announced last =>
      Nat.le_trans within (fills.announced announced last), fun unannounced => ?_⟩
    rw [fills.unannounced unannounced] at within
    exact List.length_eq_zero_iff.mp (Nat.le_zero.mp within)

/-- Half of the metadata arrive. -/
def FourBytes.half : List SessionInput :=
  begun ++ [.issue .getDeviceMetaData] ++ [.process [0x01, 5, 0x12, 0, 2, 0, 0, 0, 1, 1, 2]]

open FourBytes in
/-- Two bytes are collected of the four that are announced. -/
theorem two_bytes_collected_of_four :
    AskedUpdate.first.LastAnnounced half response ∧ response.metadataSize.toNat = 4 ∧
      (AskedUpdate.first.run half).metadataBytes = [1, 2] ∧
      (AskedUpdate.first.run half).metadataBytes.length ≤ response.metadataSize.toNat := by
  have announces : (AskedUpdate.first.run [.issue .requestUpdate]).Announces
      [0x00, 5, 0x10, 0, 4, 0, 0] response :=
    ⟨_, ⟨rfl, _, rfl, rfl, rfl⟩, rfl, rfl⟩
  have last : AskedUpdate.first.LastAnnounced half response := by
    refine ((Session.LastAnnounced.now announces).before nofun).before ?_
    -- the message answers another request
    rintro message announced ⟨⟩ ⟨response, ⟨-, pending, awaits, asked, -⟩, -⟩
    cases awaits
    cases asked
  have within := (collected_data_stay_within_announced
    (rfl : Session.start {} AskedUpdate.plan = .ok AskedUpdate.first)).2 half
  exact ⟨last, rfl, by decide +kernel, within.2.1 response last⟩

end FirmwareUpdate
