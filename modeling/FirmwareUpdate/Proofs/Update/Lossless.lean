import FirmwareUpdate.Proofs.Update.Images

/-!
# A lossless update delivers exactly the plan

When no message is lost and the device cooperates, a driven update ends. The device has then
received the package data if it wants them, has been asked about every component that it has,
and has installed those that it still takes when they have their turn. Nothing else has
reached it, and what it has installed is activated.
-/

namespace FirmwareUpdate

open Wire

variable {σ : Type}

/-- A device has said of every component whether it takes it. -/
theorem Announced.length_eq {device : Device σ} {state last : σ}
    {components : List ComponentImage} {flags : List Bool} {calls : List DeviceCall}
    (announced : Announced device state components flags calls last) :
    flags.length = components.length := by
  induction announced with
  | nil => rfl
  | unlisted _ _ ih | answered _ _ _ ih => rw [List.length_cons, List.length_cons, ih]

namespace ComponentOutcome

/-- A component that has had its turn is not waiting for it. -/
theorem accepted_notMem_ofUpdate (updated : List Bool) : accepted ∉ updated.map ofUpdate := by
  intro member
  obtain ⟨flag, -, same⟩ := List.mem_map.mp member
  cases flag <;> cases same

/-- As many components are counted as updated as the flags say. -/
theorem count_ofUpdate (updated : List Bool) :
    (updated.map ofUpdate).count .updated = updated.count true := by
  induction updated with
  | nil => rfl
  | cons flag updated ih => cases flag <;> simp [ofUpdate, ih]

end ComponentOutcome

section Driven

variable {device : Device σ} {agent : EndpointId} {settings : AgentSettings} {plan : UpdatePlan}
  {metadata : List UInt8} {updated : List Bool} {turn : Nat} {pair : Pair (σ × List DeviceCall)}

/-- What has been installed is activated. -/
theorem Updating.leads_to_activated (cooperates : device.Cooperates settings.maxMetadataSize)
    {time : Nat}
    (updating : Updating agent time settings plan metadata (updated.map .ofUpdate) turn pair)
    (some : true ∈ updated) :
    ∃ last, Pair.Leads device.recorded agent pair last ∧ last.session.finished = true ∧
      last.session.activated = true ∧ last.session.updatedComponents = updated.count true ∧
      last.session.deviceMetadata = Option.some metadata ∧
      last.state.2 = pair.state.2 ++ [.activate settings.selfContained .success] := by
  have outcomes : pair.session.updatedComponents = updated.count true := by
    rw [Session.updatedComponents, updating.outcomes, ComponentOutcome.count_ofUpdate]
  have settled : pair.session.nextComponent? = none :=
    Session.nextComponent?_of_settled (updating.outcomes ▸
      ComponentOutcome.accepted_notMem_ofUpdate updated)
  have issues : pair.session.nextAction = .issue .activateFirmware := by
    simp [Session.nextAction, updating.unfinished, updating.ready, settled, outcomes,
      List.count_pos_iff, some]
  have step : Pair.Leads device.recorded agent pair
      (pair.issue device.recorded agent .activateFirmware) := .of_issue issues
  have success := cooperates.activates settings.selfContained pair.state.1
  rw [Pair.issue_activateFirmware updating.synced.sessionFits updating.synced.home updating.ready
    updating.phase (by rw [updating.configured]; exact success)] at step
  refine ⟨_, step, rfl, rfl, outcomes, ?_, ?_⟩
  · show (if pair.session.metadataDone then Option.some pair.session.metadataBytes else none) = _
    rw [if_pos updating.told, updating.bytes]
  · show pair.state.2 ++ [.activate pair.session.settings.selfContained
      (device.activate pair.session.settings.selfContained pair.state.1).1] = _
    rw [updating.configured, success]

/-- An update in which nothing has been installed is given up. -/
theorem Updating.leads_to_cancelled (device : Device σ) {time : Nat}
    (updating : Updating agent time settings plan metadata (updated.map .ofUpdate) turn pair)
    (none : true ∉ updated) :
    ∃ last, Pair.Leads device.recorded agent pair last ∧ last.session.finished = true ∧
      last.session.activated = false ∧ last.state.2 = pair.state.2 := by
  have outcomes : pair.session.updatedComponents = 0 := by
    rw [Session.updatedComponents, updating.outcomes, ComponentOutcome.count_ofUpdate]
    exact List.count_eq_zero_of_not_mem none
  have settled : pair.session.nextComponent? = Option.none :=
    Session.nextComponent?_of_settled (updating.outcomes ▸
      ComponentOutcome.accepted_notMem_ofUpdate updated)
  have issues : pair.session.nextAction = .issue .cancelUpdate := by
    simp [Session.nextAction, updating.unfinished, updating.ready, settled, outcomes]
  have step : Pair.Leads device.recorded agent pair
      (pair.issue device.recorded agent .cancelUpdate) := .of_issue issues
  have running : pair.responder.state = .readyXfer := by rw [Responder.state, updating.phase]; rfl
  rw [Pair.issue_cancelUpdate updating.synced.sessionFits updating.synced.home
    (by rw [updating.ready]; rfl) (by rw [running]; decide), updating.phase] at step
  exact ⟨_, step, rfl, updating.inactive, rfl⟩

/-- A driven update of a device that cooperates comes to an end. On the way the device
receives the package data, if there are any and it wants them, is asked about every component
of the plan that it has, and installs the components that it takes both times, each of them
from beginning to end and in the order of the plan. If it installs any, they are activated
once, and the session knows how many there are and what the device's metadata are: as many bytes as
were announced, and the very metadata that were announced if the device keeps them. That their
length does not change is needed, see `shrunken_metadata_stall_the_update`. -/
theorem driven_update_delivers_exactly_the_plan {session : Session}
    (started : Session.start settings plan = .ok session)
    (cooperates : device.Cooperates settings.maxMetadataSize) (agent : EndpointId) (start : σ) :
    let first : Pair (σ × List DeviceCall) := { session, responder := {}, state := (start, []) }
    let accepting := device.accepting session.updateRequest start
    ∃ (informed ready done last : Pair (σ × List DeviceCall)) (announced updated : List Bool)
      (asked sent : List DeviceCall),
      Pair.Leads device.recorded agent first informed ∧
      Pair.Leads device.recorded agent informed ready ∧
      Pair.Leads device.recorded agent ready done ∧
      Pair.Leads device.recorded agent done last ∧
      Announced device informed.state.1 plan.components announced asked ready.state.1 ∧
      Updated device ready.state.1 plan.components announced updated sent done.state.1 ∧
      last.session.nextAction = .finished ∧
      last.state.2 = [.requestUpdate session.updateRequest .accept] ++
        (if 0 < plan.packageData.length ∧ device.wantsPackageData accepting = true then
          [.packageData plan.packageData] else []) ++
        asked ++ sent ++
        (if true ∈ updated then [.activate settings.selfContained .success] else []) ∧
      last.session.activated = decide (true ∈ updated) ∧
      (true ∈ updated → last.session.updatedComponents = updated.count true ∧
        ∃ metadata, last.session.deviceMetadata = some metadata ∧
          device.Offers (device.metadata accepting) metadata) := by
  intro first accepting
  obtain ⟨time, stands⟩ := cooperates.clock
  have clock (state : σ × List DeviceCall) : (device.recorded.now state).1 = time := stands state.1
  obtain ⟨sound, enough, -⟩ := Session.sound_of_start started
  have small : (device.metadata accepting).length < 2 ^ 32 := by
    have short := cooperates.short accepting
    omega
  -- The update begins, the package data are pulled and the metadata are retrieved.
  obtain ⟨entered, entering, hasEntered, untold, pulls, requested⟩ :=
    leads_to_entered cooperates clock started agent start
  obtain ⟨prepared, preparing, hasEntered, untold, isPrepared, packaged⟩ :=
    leads_to_prepared cooperates clock hasEntered untold pulls
  obtain ⟨informed, metadata, informing, hasEntered, isInformed, offers, told⟩ :=
    leads_to_informed cooperates clock small hasEntered untold isPrepared
  have before : Pair.Leads device.recorded agent first informed :=
    (entering.trans preparing).trans informing
  have announcing := isInformed.announcing hasEntered
  obtain ⟨component, components, listed⟩ := List.exists_cons_of_ne_nil sound.sizes.1
  rw [listed] at announcing
  -- The components are announced, then each accepted one is updated in its turn.
  obtain ⟨ready, announced, asked, announces, updating, answers, askedLog⟩ :=
    leads_to_announced clock announcing
  rw [← listed] at answers
  obtain ⟨done, updated, sent, updates, ⟨turn, ended⟩, turns, sentLog⟩ :=
    updating.leads_to_updated cooperates clock enough (List.not_mem_nil) (Nat.le_refl _) rfl
      answers.length_eq
  rw [List.nil_append] at ended
  have log : done.state.2 = [.requestUpdate session.updateRequest .accept] ++
      (if 0 < plan.packageData.length ∧ device.wantsPackageData accepting = true then
        [.packageData plan.packageData] else []) ++ asked ++ sent := by
    rw [sentLog, askedLog, told, packaged, requested]
  have nextAction {session : Session} (finished : session.finished = true) :
      session.nextAction = .finished := by
    rw [Session.nextAction, if_pos finished]
  -- One updated component is enough to activate, otherwise the update is cancelled.
  by_cases some : true ∈ updated
  · obtain ⟨last, ends, finished, activated, count, known, record⟩ :=
      ended.leads_to_activated cooperates some
    refine ⟨informed, ready, done, last, announced, updated, asked, sent, before, announces,
      updates, ends, answers, turns, nextAction finished, ?_, ?_,
      fun _ => ⟨count, metadata, known, offers⟩⟩
    · rw [record, log, if_pos some]
    · rw [activated, decide_eq_true some]
  · obtain ⟨last, ends, finished, inactive, record⟩ := ended.leads_to_cancelled device some
    refine ⟨informed, ready, done, last, announced, updated, asked, sent, before, announces,
      updates, ends, answers, turns, nextAction finished, ?_, ?_, fun any => absurd any some⟩
    · rw [record, log, if_neg some, List.append_nil]
    · rw [inactive, decide_eq_false some]

end Driven

/-! ## A plan of which the device takes a part -/

namespace MixedPlan

/-- A component and its image. -/
def part (identifier : UInt16) (image : List UInt8) : ComponentImage where
  key := { classification := .firmware, identifier }
  version := .raw []
  image

/-- A plan of three components, with package data. -/
def plan : UpdatePlan where
  version := .raw []
  packageData := [7]
  components := [part 1 [9], part 2 [8, 8], part 3 []]

/-- A device with the first two components. It takes the second one when it is announced,
and not any more when it has its turn. -/
def device : Device Unit where
  identifiers _ := ({}, ())
  components _ := [{ key := (part 1 []).key }, { key := (part 2 []).key }]
  activeVersion _ := .raw []
  wantsPackageData _ := true
  metadata _ := [1, 2]
  updateComponent begins record _ := (if begins && record.key.identifier == 2 then 1 else 0, ())
  firmwareData _ _ _ _ := (.success, ())
  verify _ _ := (.success, ())
  apply _ _ := (.ok .empty, ())
  now _ := (0, ())

/-- The session as it begins. -/
def session : Session :=
  { settings := {}, plan, outcomes := Session.freshOutcomes plan }

/-- The plan is one that a session may start with. -/
theorem started : Session.start {} plan = .ok session := rfl

/-- The device's identifiers are read as they were written. -/
theorem identified : ∃ body identifiers,
    (device.identifiers ()).1.responseLayout.toMessage = .ok body ∧
      decode "QueryDeviceIdentifiers" DeviceIdentifiers.responseReader body = .ok identifiers :=
  ⟨_, _, rfl, rfl⟩

/-- So are its firmware parameters. -/
theorem described : ∃ body parameters,
    (Pair.parametersOf device ()).layout.toMessage = .ok body ∧
      decode "GetFirmwareParameters" FirmwareParameters.reader body = .ok parameters :=
  ⟨_, _, rfl, rfl⟩

/-- The device does all that a lossless update needs of it. -/
theorem cooperates : device.Cooperates (AgentSettings.maxMetadataSize {}) where
  clock := ⟨0, fun _ => rfl⟩
  accepts _ _ := rfl
  identified _ := identified
  described _ := described
  short _ := (by decide : 2 ≤ min 65535 maxMessageSize)
  metadata_now _ := rfl
  metadata_packageData _ _ := rfl
  stores _ _ _ _ := rfl
  verifies _ _ := rfl
  applies _ _ := rfl
  activates _ _ := rfl

/-- What the device answers when the three components are announced. -/
theorem announced_eq {state last : Unit} {flags : List Bool} {calls : List DeviceCall}
    (announced : Announced device state [part 1 [9], part 2 [8, 8], part 3 []] flags calls last) :
    flags = [true, true, false] ∧
      calls = [.updateComponent false (part 1 [9]).record.inTable 0,
        .updateComponent false (part 2 [8, 8]).record.inTable 0] := by
  cases announced with
  | unlisted absent => exact absurd rfl absent
  | answered _ answers rest =>
      cases answers
      cases rest with
      | unlisted absent => exact absurd rfl absent
      | answered _ answers rest =>
          cases answers
          cases rest with
          | unlisted _ rest =>
              cases rest
              exact ⟨rfl, rfl⟩
          | answered listed => cases listed

/-- An image without bytes takes no call. -/
theorem receives_nil {details : ComponentDetails} {offset : Nat} {state last : Unit}
    {calls : List DeviceCall} (receives : device.Receives details offset [] state calls last) :
    calls = [] := by
  generalize nothing : [] = image at receives
  cases receives with
  | done => rfl
  | piece some => exact absurd (List.append_eq_nil_iff.mp nothing.symm).1 some

/-- A single byte moves in one piece. -/
theorem receives_byte {details : ComponentDetails} {offset : Nat} {byte : UInt8}
    {state last : Unit} {calls : List DeviceCall}
    (receives : device.Receives details offset [byte] state calls last) :
    calls = [.firmwareData offset [byte] details .success] := by
  generalize whole : [byte] = image at receives
  cases receives with
  | done => cases whole
  | piece some stores rest =>
      rcases List.append_eq_singleton_iff.mp whole.symm with ⟨rfl, -⟩ | ⟨rfl, rfl⟩
      · exact absurd rfl some
      · rw [receives_nil rest]
        rfl

/-- The first component is downloaded, checked and applied. -/
theorem first_installed {state last : Unit} {flag : Bool} {calls : List DeviceCall}
    (takes : device.TakesTurn (part 1 [9]) state flag calls last) :
    flag = true ∧
      calls = [.updateComponent true (part 1 [9]).record.inUpdate 0,
        .firmwareData 0 [9] (part 1 [9]).details .success,
        .verify (part 1 [9]).details .success,
        .apply (part 1 [9]).details (.ok .empty)] := by
  cases takes with
  | unlisted absent => exact absurd rfl absent
  | refused _ answers against =>
      cases answers
      exact absurd rfl against
  | installed _ _ installs =>
      obtain ⟨pieces, received, checked, outcome, receives, -, applied, -, rfl⟩ := installs
      cases receives_byte receives
      cases applied
      exact ⟨rfl, rfl⟩

/-- The second component is asked about, and goes no further. -/
theorem second_refused {state last : Unit} {flag : Bool} {calls : List DeviceCall}
    (takes : device.TakesTurn (part 2 [8, 8]) state flag calls last) :
    flag = false ∧ calls = [.updateComponent true (part 2 [8, 8]).record.inUpdate 1] := by
  cases takes with
  | unlisted absent => exact absurd rfl absent
  | refused _ answers =>
      cases answers
      exact ⟨rfl, rfl⟩
  | installed _ answers => cases answers

/-- What the device does when they have their turn. -/
theorem updated_eq {state last : Unit} {flags : List Bool} {calls : List DeviceCall}
    (updated : Updated device state [part 1 [9], part 2 [8, 8], part 3 []] [true, true, false]
      flags calls last) :
    flags = [true, false, false] ∧
      calls = [.updateComponent true (part 1 [9]).record.inUpdate 0,
        .firmwareData 0 [9] (part 1 [9]).details .success,
        .verify (part 1 [9]).details .success,
        .apply (part 1 [9]).details (.ok .empty),
        .updateComponent true (part 2 [8, 8]).record.inUpdate 1] := by
  cases updated with
  | turn first rest =>
      cases rest with
      | turn second rest =>
          cases rest with
          | passedOver rest =>
              cases rest
              obtain ⟨rfl, rfl⟩ := first_installed first
              obtain ⟨rfl, rfl⟩ := second_refused second
              exact ⟨rfl, rfl⟩

end MixedPlan

/-- Of three components one is installed: another one is refused when it has its turn, and
the device does not have the third. -/
theorem installed_part_of_plan_activated :
    ∃ last, Pair.Leads MixedPlan.device.recorded ⟨8⟩
        { session := MixedPlan.session, responder := {}, state := ((), []) } last ∧
      last.session.nextAction = .finished ∧ last.session.activated = true ∧
      last.session.updatedComponents = 1 ∧ last.session.deviceMetadata = some [1, 2] ∧
      last.state.2 =
        [.requestUpdate MixedPlan.session.updateRequest .accept, .packageData [7],
          .updateComponent false (MixedPlan.part 1 [9]).record.inTable 0,
          .updateComponent false (MixedPlan.part 2 [8, 8]).record.inTable 0,
          .updateComponent true (MixedPlan.part 1 [9]).record.inUpdate 0,
          .firmwareData 0 [9] (MixedPlan.part 1 [9]).details .success,
          .verify (MixedPlan.part 1 [9]).details .success,
          .apply (MixedPlan.part 1 [9]).details (.ok .empty),
          .updateComponent true (MixedPlan.part 2 [8, 8]).record.inUpdate 1,
          .activate false .success] := by
  obtain ⟨informed, ready, done, last, announced, updated, asked, sent, informing, announcing,
    updating, ending, answers, turns, finished, record, activated, known⟩ :=
    driven_update_delivers_exactly_the_plan MixedPlan.started MixedPlan.cooperates ⟨8⟩ ()
  obtain ⟨rfl, rfl⟩ := MixedPlan.announced_eq answers
  obtain ⟨rfl, rfl⟩ := MixedPlan.updated_eq turns
  obtain ⟨count, metadata, shown, offers⟩ := known (by decide)
  have kept : MixedPlan.device.KeepsMetadata := ⟨fun _ => rfl, fun _ _ => rfl⟩
  exact ⟨last, ((informing.trans announcing).trans updating).trans ending, finished, activated,
    count, shown.trans (congrArg some (offers.same kept)), record⟩

/-! ## A device whose metadata shrink -/

namespace ShrinkingMetadata

/-- A device whose metadata are cut short by the package data. -/
def device : Device Bool where
  identifiers shrunk := ({}, shrunk)
  components _ := [{ key := (MixedPlan.part 1 []).key }]
  activeVersion _ := .raw []
  wantsPackageData _ := true
  packageData _ _ := true
  metadata shrunk := if shrunk then [1] else [1, 2]
  updateComponent _ _ shrunk := (0, shrunk)
  firmwareData _ _ _ shrunk := (.success, shrunk)
  verify _ shrunk := (.success, shrunk)
  apply _ shrunk := (.ok .empty, shrunk)
  now shrunk := (0, shrunk)

/-- The pair before the update. -/
def first : Pair Bool := { session := MixedPlan.session, responder := {}, state := false }

/-- The pair when the session has asked for the metadata in vain, whatever the number of its next
request is. -/
def asking (number : Fin 32) : Pair Bool :=
  let pair := Pair.drives device ⟨8⟩ 5 first
  { pair with session := { pair.session with nextIid := UInt8.ofNat number } }

/-- One byte comes where two were announced, and the session asks once more. -/
theorem asks_again : ∀ number : Fin 32, (asking number).drive device ⟨8⟩ = asking (number + 1) := by
  decide +kernel

/-- However often it is asked, the session still wants the metadata. -/
theorem keeps_asking (steps : Nat) (number : Fin 32) :
    (Pair.drives device ⟨8⟩ steps (asking number)).session.nextAction =
      .issue .getDeviceMetaData := by
  induction steps generalizing number with
  | zero => rfl
  | succ steps ih =>
      rw [Pair.drives, asks_again]
      exact ih (number + 1)

/-- The update does not end in the steps before that. -/
theorem begins_to_ask : ∀ steps < 5,
    (Pair.drives device ⟨8⟩ steps first).session.nextAction ≠ .finished := by decide +kernel

end ShrinkingMetadata

open ShrinkingMetadata in
/-- A device may announce its metadata and then have fewer of them, and the update never ends: the
session waits for as many as were announced. -/
theorem shrunken_metadata_stall_the_update {last : Pair Bool}
    (leads : Pair.Leads device ⟨8⟩ first last) : last.session.nextAction ≠ .finished := by
  obtain ⟨steps, rfl⟩ := leads
  by_cases early : steps < 5
  · exact begins_to_ask steps early
  · obtain ⟨later, rfl⟩ := Nat.exists_eq_add_of_le (Nat.not_lt.mp early)
    have stuck : Pair.drives device ⟨8⟩ 5 first = asking 4 := by decide +kernel
    rw [Pair.drives_add, stuck, keeps_asking]
    exact nofun

end FirmwareUpdate
