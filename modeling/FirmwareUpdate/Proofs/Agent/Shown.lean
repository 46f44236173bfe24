import Mathlib.Data.List.Induction
import FirmwareUpdate.Proofs.Agent.Lifecycle

/-!
# Device metadata that are shown

A session shows the metadata of its device once all of them have arrived, and from then on for the
whole update. It may still ask for them again, and then the portions of the new answer go into the
same buffer. `MetadataStep` says what an input does to the metadata, and `InUpdate` reads off the
inputs of a session with which response of the device the update has begun that runs.
-/

namespace FirmwareUpdate

open Wire

namespace Session

variable {first session after : Session}

/-! ## One input -/

/-- What an input does to the metadata of a session. -/
inductive MetadataStep (session : Session) (input : SessionInput) (after : Session) : Prop where
  /-- An update begins, with the size that the device announces. -/
  | begun {message : List UInt8} {reply : Response} {response : UpdateResponse}
      (received : input = .process message) (idle : session.state = .idle)
      (parsed : Response.parse message = .ok reply)
      (read : decode "RequestUpdate" UpdateResponse.reader reply.data = .ok response)
      (learning : after.state = .learnComponents)
      (metadata : after.metadata =
        { kind := .deviceMetaData, totalSize := response.metadataSize.toNat })
      (bytes : after.metadataBytes = [])
      (done : after.metadataDone = true → response.metadataSize.toNat = 0)
      (settled : after.pending = none)
  /-- A portion arrives that has been asked for. -/
  | portion {pending : PendingRequest} {part : PartResponse}
      (awaited : session.pending = some pending) (asked : pending.command = .getDeviceMetaData)
      (accepted : session.metadata.accept part session.metadataBytes =
        .ok (after.metadata, after.metadataBytes))
      (done : after.metadataDone = (session.metadataDone || !after.metadata.inProgress))
      (same : after.state = session.state) (settled : after.pending = none)
  | kept (metadata : after.metadata = session.metadata)
      (bytes : after.metadataBytes = session.metadataBytes)
      (done : after.metadataDone = session.metadataDone)
      (goesOn : after.state.isRunning = true → session.state.isRunning = true)
      (awaited : ∀ pending, after.pending = some pending →
        session.pending = some pending ∨ input = .issue pending.command)
  /-- No update runs any more. -/
  | ended (stopped : after.state.isRunning = false)

namespace MetadataStep

/-- A response that takes effect is a step of the metadata. -/
theorem applies {command : AgentCommand} {message : List UInt8} {response : Response}
    (applies : (session.coded response.cc).Applies response.data command after)
    (placed : session.Placed) (answers : session.Answers command message response) :
    MetadataStep session (.process message) after := by
  have allowed := answers.allowed placed
  have settled (pending : PendingRequest) (awaits : after.pending = some pending) :
      session.pending = some pending ∨ SessionInput.process message = .issue pending.command :=
    nomatch (applies.settled rfl).symm.trans awaits
  cases applies with
  | ignored | identifiers | parameters | status | badMetadata | componentLeftOut =>
      exact .kept rfl rfl rfl id settled
  | begun read within =>
      have idle : session.state = .idle := by simpa [allows] using allowed
      exact .begun rfl idle answers.1 read rfl rfl rfl of_decide_eq_true rfl
  | metadata read accepted =>
      obtain ⟨-, pending, awaits, asked, -⟩ := answers
      exact .portion awaits asked accepted rfl rfl rfl
  | announced =>
      have learning : session.state = .learnComponents := by simpa [allows] using allowed
      exact .kept rfl rfl rfl (fun _ => by rw [learning]; rfl) settled
  | componentBegun =>
      have ready : session.state = .readyXfer := by simpa [allows] using allowed
      exact .kept rfl rfl rfl (fun _ => by rw [ready]; rfl) settled
  | componentCancelled =>
      refine .kept rfl rfl rfl (fun _ => ?_) settled
      rcases allowed with updating | ⟨-, ready⟩
      · cases state : session.state <;> simp_all [allows, AgentState.isUpdating,
          AgentState.isRunning]
      · rw [ready]
        rfl
  | tooMuchMetadata | activated | cancelled => exact .ended rfl

/-- Only the code of the last command differs. -/
theorem recoded {input : SessionInput} (step : MetadataStep session input after)
    (code : CompletionCode) : MetadataStep session input { after with lastCode := code } := by
  cases step with
  | begun received idle parsed read learning metadata bytes done settled =>
      exact .begun received idle parsed read learning metadata bytes done settled
  | portion awaited asked accepted done same settled =>
      exact .portion awaited asked accepted done same settled
  | kept metadata bytes done goesOn awaited => exact .kept metadata bytes done goesOn awaited
  | ended stopped => exact .ended stopped

/-- A reply that is processed is a step of the metadata. -/
theorem process (placed : session.Placed) (message : List UInt8) :
    MetadataStep session (.process message) (session.process message).2 := by
  have takes := session.process_takes message
  generalize (session.process message).2 = after at takes
  cases takes with
  | refused => exact .kept rfl rfl rfl id fun _ => .inl
  | applied answers _ applied code => exact (applies applied placed answers).recoded code
  | unable => exact .ended rfl
  | failed => exact .kept rfl rfl rfl id nofun

/-- The device asks for nothing that concerns its metadata. -/
theorem serves {request : Request} {served : Except CompletionCode (List UInt8)}
    (message : List UInt8) (serves : session.Serves request served after) :
    MetadataStep session (.handle message) after := by
  cases serves with
  | refused | noPart | part | data | failed => exact .kept rfl rfl rfl id fun _ => .inl
  | transferred asked expected | verified asked expected | applied asked expected =>
      exact .kept rfl rfl rfl (fun _ => by rw [expected]; rfl) fun _ => .inl

/-- Every input is a step of the metadata. -/
theorem next (placed : session.Placed) (input : SessionInput) :
    MetadataStep session input (session.next input) := by
  cases input with
  | issue command =>
      show MetadataStep session _ (session.issue command).2
      unfold issue
      split
      · split
        · exact .kept rfl rfl rfl id fun _ => .inl
        · refine .kept rfl rfl rfl id fun pending awaits => .inr ?_
          cases awaits
          rfl
      · exact .kept rfl rfl rfl id fun _ => .inl
  | process message => exact process placed message
  | handle message =>
      exact of_handleRequest (MetadataStep session (.handle message)) message
        (.kept rfl rfl rfl id fun _ => .inl) fun served => (serves message served).recoded _
  | reset => exact .ended rfl
  | load plan =>
      rcases next_load session plan with refused | ⟨-, loaded⟩
      · rw [refused]
        exact .kept rfl rfl rfl id fun _ => .inl
      · rw [loaded]
        exact .ended rfl

end MetadataStep

/-! ## Runs -/

/-- After these inputs an update runs that has begun with this response of the device. -/
inductive InUpdate (first : Session) : List SessionInput → UpdateResponse → Prop where
  | begun {inputs : List SessionInput} {message : List UInt8} {reply : Response}
      {response : UpdateResponse} (idle : (first.run inputs).state = .idle)
      (parsed : Response.parse message = .ok reply)
      (read : decode "RequestUpdate" UpdateResponse.reader reply.data = .ok response)
      (learning : (first.run (inputs ++ [.process message])).state = .learnComponents) :
      InUpdate first (inputs ++ [.process message]) response
  | goesOn {inputs : List SessionInput} {response : UpdateResponse} {input : SessionInput}
      (inside : InUpdate first inputs response)
      (running : (first.run (inputs ++ [input])).state.isRunning = true) :
      InUpdate first (inputs ++ [input]) response

/-- The metadata have been asked for in the update when they were shown already. -/
def AskedAgain (first : Session) (inputs : List SessionInput) (response : UpdateResponse) : Prop :=
  ∃ front rest, inputs = front ++ .issue .getDeviceMetaData :: rest ∧
    first.InUpdate front response ∧ (first.run front).deviceMetadata.isSome = true

/-- Metadata that were asked for again stay so. -/
theorem AskedAgain.concat {inputs : List SessionInput} {response : UpdateResponse}
    (again : first.AskedAgain inputs response) (input : SessionInput) :
    first.AskedAgain (inputs ++ [input]) response := by
  obtain ⟨front, rest, rfl, inside, shown⟩ := again
  exact ⟨front, rest ++ [input], by simp, inside, shown⟩

/-- Metadata are shown where they are done with. -/
theorem isSome_deviceMetadata (session : Session) :
    session.deviceMetadata.isSome = session.metadataDone := by
  unfold deviceMetadata
  cases session.metadataDone <;> rfl

/-- What a session has of the metadata in an update that has begun with this response: no more
than announced, and all of them where they are shown, unless they have been asked for again. -/
structure MetadataFit (first : Session) (inputs : List SessionInput) (response : UpdateResponse)
    (session : Session) : Prop where
  running : session.state.isRunning = true
  size : session.metadata.totalSize = response.metadataSize.toNat
  within : session.metadataBytes.length ≤ response.metadataSize.toNat
  whole : session.metadataDone = true → session.metadata.inProgress = false →
    session.metadataBytes.length = response.metadataSize.toNat
  again : session.metadataDone = true → session.metadata.inProgress = true →
    first.AskedAgain inputs response
  awaited : ∀ pending, session.pending = some pending → pending.command = .getDeviceMetaData →
    session.metadataDone = true → first.AskedAgain inputs response

namespace MetadataFit

variable {inputs : List SessionInput} {response : UpdateResponse}

/-- As an update begins, nothing has arrived. -/
theorem of_begun {message : List UInt8} {reply : Response} (idle : session.state = .idle)
    (parsed : Response.parse message = .ok reply)
    (read : decode "RequestUpdate" UpdateResponse.reader reply.data = .ok response)
    (step : MetadataStep session (.process message) after)
    (learning : after.state = .learnComponents) : first.MetadataFit inputs response after := by
  have running : after.state.isRunning = true := by rw [learning]; rfl
  cases step with
  | begun received _ parsed' read' _ metadata bytes done settled =>
      cases received
      cases parsed.symm.trans parsed'
      cases read.symm.trans read'
      have resting : after.metadata.inProgress = false := by rw [metadata]
      refine ⟨running, by rw [metadata], by rw [bytes]; exact Nat.zero_le _, ?_, ?_, ?_⟩
      · intro shown _
        rw [bytes, done shown]
        rfl
      · intro _ underWay
        cases resting.symm.trans underWay
      · intro pending awaits
        cases settled.symm.trans awaits
  | portion _ _ _ _ same => cases idle.symm.trans (same.symm.trans learning)
  | kept _ _ _ goesOn =>
      have before := goesOn running
      rw [idle] at before
      cases before
  | ended stopped => cases stopped.symm.trans running

/-- An input that the update survives leaves metadata that fit. -/
theorem next (fit : first.MetadataFit inputs response (first.run inputs))
    (inside : first.InUpdate inputs response) {input : SessionInput}
    (step : MetadataStep (first.run inputs) input after)
    (running : after.state.isRunning = true) :
    first.MetadataFit (inputs ++ [input]) response after := by
  cases step with
  | begun _ idle =>
      have before := fit.running
      rw [idle] at before
      cases before
  | portion awaits asked accepted done same settled =>
      obtain ⟨size, within⟩ := Transfer.length_of_accept accepted
      refine ⟨running, size.trans fit.size, fit.size ▸ within, ?_, ?_, ?_⟩
      · intro _ completed
        exact (Transfer.length_of_completed accepted completed).trans fit.size
      · -- what was shown before the portion came has been asked for again
        intro shown underWay
        rw [done, underWay, Bool.not_true, Bool.or_false] at shown
        exact (fit.awaited _ awaits asked shown).concat input
      · intro pending more
        cases settled.symm.trans more
  | kept metadata bytes done _ awaited =>
      refine ⟨running, by rw [metadata, fit.size], by rw [bytes]; exact fit.within, ?_, ?_, ?_⟩
      · rw [metadata, bytes, done]
        exact fit.whole
      · rw [metadata, done]
        exact fun shown underWay => (fit.again shown underWay).concat input
      · intro pending awaits asked shown
        rw [done] at shown
        rcases awaited pending awaits with before | rfl
        · exact (fit.awaited pending before asked shown).concat input
        · rw [asked]
          exact ⟨inputs, [], rfl, inside, (isSome_deviceMetadata _).trans shown⟩
  | ended stopped => cases stopped.symm.trans running

end MetadataFit

/-- In an update, the metadata fit the response with which it has begun. -/
theorem InUpdate.fit {inputs : List SessionInput} {response : UpdateResponse}
    (inside : first.InUpdate inputs response) (placed : first.Placed) :
    first.MetadataFit inputs response (first.run inputs) := by
  induction inside with
  | @begun inputs message reply response idle parsed read learning =>
      have step := MetadataStep.next (placed.run inputs) (.process message)
      rw [run_concat] at learning ⊢
      exact .of_begun idle parsed read step learning
  | @goesOn inputs response input inside running fit =>
      have step := MetadataStep.next (placed.run inputs) input
      rw [run_concat] at running ⊢
      exact fit.next inside step running

/-- An update that runs has begun with a response of the device. -/
theorem inUpdate_of_running (placed : first.Placed) (idle : first.state = .idle)
    {inputs : List SessionInput} (running : (first.run inputs).state.isRunning = true) :
    ∃ response, first.InUpdate inputs response := by
  induction inputs using List.reverseRecOn with
  | nil =>
      rw [show first.run [] = first from rfl, idle] at running
      cases running
  | append_singleton front input ih =>
      have step := MetadataStep.next (placed.run front) input
      have before (running' : (first.run front).state.isRunning = true) :
          ∃ response, first.InUpdate (front ++ [input]) response := by
        obtain ⟨response, inside⟩ := ih running'
        exact ⟨response, .goesOn inside running⟩
      rw [← run_concat] at step
      cases step with
      | @begun message reply response received resting parsed read learning =>
          subst received
          exact ⟨response, .begun resting parsed read learning⟩
      | portion _ _ _ _ same => exact before (same ▸ running)
      | kept _ _ _ goesOn => exact before (goesOn running)
      | ended stopped => cases stopped.symm.trans running

end Session

/-- While an update runs, whatever a session has been asked to do and whatever it has received, it
has begun with a response of the device, and the metadata that are shown are no more than that
response announces. They are all that it announces, unless the session has asked for them again in
this update after they were shown: then a part of them is shown while the new transfer is under
way. -/
theorem shown_metadata_complete_unless_asked_again {settings : AgentSettings} {plan : UpdatePlan}
    {first : Session} (started : Session.start settings plan = .ok first)
    (inputs : List SessionInput) (running : (first.run inputs).state.isRunning = true) :
    (∃ response, first.InUpdate inputs response) ∧
      ∀ response, first.InUpdate inputs response →
        ∀ shown, (first.run inputs).deviceMetadata = some shown →
          shown.length ≤ response.metadataSize.toNat ∧
          (shown.length ≠ response.metadataSize.toNat →
            (first.run inputs).metadata.inProgress = true ∧ first.AskedAgain inputs response) := by
  obtain ⟨-, -, rfl⟩ := Session.sound_of_start started
  have placed : Session.Placed { settings, plan, outcomes := Session.freshOutcomes plan } :=
    .of_settled nofun rfl
  refine ⟨Session.inUpdate_of_running placed rfl running, fun response inside shown shows => ?_⟩
  have fit := inside.fit placed
  generalize Session.run _ inputs = session at fit shows
  have done : session.metadataDone = true := by
    rw [← Session.isSome_deviceMetadata, shows]
    rfl
  have bytes : session.metadataBytes = shown := by
    rw [Session.deviceMetadata, if_pos done] at shows
    exact Option.some.inj shows
  rw [← bytes]
  refine ⟨fit.within, fun partly => ?_⟩
  have underWay : session.metadata.inProgress = true :=
    eq_true_of_ne_false fun completed => partly (fit.whole done completed)
  exact ⟨underWay, fit.again done underWay⟩

namespace FourBytes

/-- What the device says when it enters the update: it has four bytes of metadata. -/
def response : UpdateResponse := { metadataSize := 4, pullsPackageData := 0 }

/-- The device enters the update. -/
def begun : List SessionInput :=
  [.issue .requestUpdate, .process [0x00, 5, 0x10, 0, 4, 0, 0]]

/-- The metadata are asked for and arrive at once. -/
def complete : List SessionInput :=
  begun ++ [.issue .getDeviceMetaData] ++
    [.process [0x01, 5, 0x12, 0, 0, 0, 0, 0, 5, 1, 2, 3, 4]]

/-- They are asked for again, and half of them arrive. -/
def again : List SessionInput :=
  complete ++ [.issue .getDeviceMetaData] ++ [.process [0x02, 5, 0x12, 0, 2, 0, 0, 0, 1, 1, 2]]

end FourBytes

open FourBytes in
/-- Metadata that have been asked for once are shown as they are. -/
theorem four_bytes_shown :
    (AskedUpdate.first.run complete).deviceMetadata = some [1, 2, 3, 4] ∧
      ∃ response, AskedUpdate.first.InUpdate complete response ∧
        response.metadataSize.toNat = 4 := by
  have shows : (AskedUpdate.first.run complete).deviceMetadata = some [1, 2, 3, 4] := by
    decide +kernel
  obtain ⟨⟨response, inside⟩, fits⟩ := shown_metadata_complete_unless_asked_again
    (rfl : Session.start {} AskedUpdate.plan = .ok AskedUpdate.first) complete (by decide +kernel)
  refine ⟨shows, response, inside, Decidable.byContradiction fun other => ?_⟩
  have underWay := ((fits response inside _ shows).2 (Ne.symm other)).1
  exact absurd underWay (by decide +kernel)

open FourBytes in
/-- Metadata that have been asked for again are shown in part. -/
theorem two_bytes_of_four_shown :
    (AskedUpdate.first.run again).state = .learnComponents ∧
      AskedUpdate.first.InUpdate again response ∧ response.metadataSize.toNat = 4 ∧
      (AskedUpdate.first.run again).deviceMetadata = some [1, 2] := by
  have idle : (AskedUpdate.first.run [.issue .requestUpdate]).state = .idle := by decide +kernel
  have begins : AskedUpdate.first.InUpdate begun response :=
    .begun idle rfl rfl (by decide +kernel)
  have arrived : AskedUpdate.first.InUpdate complete response :=
    (begins.goesOn (by decide +kernel)).goesOn (by decide +kernel)
  exact ⟨by decide +kernel, (arrived.goesOn (by decide +kernel)).goesOn (by decide +kernel), rfl,
    by decide +kernel⟩

end FirmwareUpdate
