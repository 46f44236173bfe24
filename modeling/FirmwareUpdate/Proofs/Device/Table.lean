import FirmwareUpdate.Proofs.Device.TableStep

/-!
# The component table is announced in order

The flag of each entry says where it stands. `TransferFlag.IsTable` says which flags make a table,
and `TableStage.Holds` what the stage of a responder says about the flags of the entries that have
been accepted since the update began.
-/

namespace FirmwareUpdate

open Wire

/-! ## The flags of a table -/

namespace TransferFlag

/-- The flags of a whole table: of one entry alone, or of a first one, any number of others and a
last one. -/
inductive IsTable : List TransferFlag → Prop where
  | single : IsTable [startAndEnd]
  | several (count : Nat) : IsTable (start :: (List.replicate count middle ++ [finish]))

/-- The flags with which some table begins. -/
def BeginsTable (flags : List TransferFlag) : Prop := ∃ table, IsTable table ∧ flags <+: table

/-- The flags of a table that is not complete, and whether it has a first entry. -/
inductive IsPartial : Bool → List TransferFlag → Prop where
  | empty : IsPartial false []
  | begun (count : Nat) : IsPartial true (start :: List.replicate count middle)

variable {flags : List TransferFlag} {flag : TransferFlag} {passed : Bool}

/-- The last entry of a table says that it is the last, and no other does. -/
theorem IsTable.split (table : IsTable flags) :
    ∃ front last, flags = front ++ [last] ∧ last.isEnd = true ∧
      ∀ earlier ∈ front, earlier.isEnd = false := by
  cases table with
  | single => exact ⟨[], startAndEnd, rfl, rfl, nofun⟩
  | several count =>
      refine ⟨start :: List.replicate count middle, finish, rfl, rfl, fun earlier member => ?_⟩
      rcases List.mem_cons.mp member with rfl | later
      · rfl
      · rw [List.eq_of_mem_replicate later]
        rfl

/-- A whole table begins as one. -/
theorem IsTable.begins (table : IsTable flags) : BeginsTable flags :=
  ⟨flags, table, List.prefix_refl flags⟩

/-- Nothing follows a table. -/
theorem IsTable.not_begins (table : IsTable flags) (flag : TransferFlag) :
    ¬ BeginsTable (flags ++ [flag]) := by
  rintro ⟨longer, whole, begins⟩
  obtain ⟨front, last, rfl, ends, -⟩ := table.split
  obtain ⟨before, final, rfl, -, unfinished⟩ := whole.split
  have within : front ++ [last] <+: before := by
    rcases List.prefix_concat_iff.mp begins with same | shorter
    · exact (List.append_inj' same rfl).1 ▸ List.prefix_refl _
    · exact (List.prefix_append _ _).trans shorter
  cases ends.symm.trans (unfinished last (within.subset (by simp)))

/-- A part of a table begins as a table. -/
theorem IsPartial.begins (part : IsPartial passed flags) : BeginsTable flags := by
  cases part with
  | empty => exact ⟨_, .single, List.nil_prefix⟩
  | begun count => exact ⟨_, .several count, List.prefix_append (start :: _) [finish]⟩

/-- A table that is not complete is none. -/
theorem IsPartial.not_isTable (part : IsPartial passed flags) : ¬ IsTable flags := by
  intro table
  obtain ⟨front, last, rfl, ends, -⟩ := table.split
  generalize whole : front ++ [last] = flags at part
  have member : last ∈ flags := by simp [← whole]
  cases part with
  | empty => cases member
  | begun count =>
      rcases List.mem_cons.mp member with rfl | later
      · cases ends
      · cases List.eq_of_mem_replicate later
        cases ends

/-- An entry that follows ends the table, or leaves one that has begun. -/
theorem IsPartial.concat (part : IsPartial passed flags) (follows : flag.isStart ≠ passed) :
    if flag.isEnd then IsTable (flags ++ [flag]) else IsPartial true (flags ++ [flag]) := by
  cases part with
  | empty =>
      cases flag with
      | start => exact .begun 0
      | startAndEnd => exact .single
      | middle | finish => exact absurd rfl follows
  | begun count =>
      cases flag with
      | middle =>
          have longer := IsPartial.begun (count + 1)
          rwa [List.replicate_succ'] at longer
      | finish => exact .several count
      | start | startAndEnd => exact absurd rfl follows

/-- Only an entry that follows goes on with a table. -/
theorem IsPartial.follows (part : IsPartial passed flags) (begins : BeginsTable (flags ++ [flag])) :
    flag.isStart ≠ passed := by
  obtain ⟨table, whole, begins⟩ := begins
  cases part with
  | empty =>
      obtain ⟨rest, rfl⟩ := begins
      cases whole <;> decide
  | begun count =>
      cases whole with
      | single => cases (List.cons_prefix_cons.mp begins).1
      | several other =>
          have member := (List.cons_prefix_cons.mp begins).2.subset
            (List.mem_append_right _ (List.mem_singleton_self flag))
          rcases List.mem_append.mp member with among | last
          · rw [List.eq_of_mem_replicate among]
            decide
          · rw [List.mem_singleton.mp last]
            decide

end TransferFlag

/-! ## Runs -/

/-- The entries that are accepted from one point on, behind those before it. An update that begins
has none. -/
def ResponderHistory.entriesAfter {σ : Type} (device : Device σ) (history : ResponderHistory σ)
    (earlier : List Request) : List ResponderInput → List Request
  | [] => earlier
  | input :: rest =>
    let output := (history.react device input).1
    entriesAfter device (history.next device input)
      (if (input.acceptedUpdate? output).isSome then []
        else earlier ++ (input.entryAccepted? output).toList)
      rest

/-- The entries that have been accepted since the last update began. -/
def ResponderHistory.entries {σ : Type} (device : Device σ) (history : ResponderHistory σ)
    (inputs : List ResponderInput) : List Request :=
  history.entriesAfter device [] inputs

/-- What follows a sequence and one more input. -/
theorem ResponderHistory.entriesAfter_concat {σ : Type} (device : Device σ)
    (history : ResponderHistory σ) (earlier : List Request) (front : List ResponderInput)
    (input : ResponderInput) :
    history.entriesAfter device earlier (front ++ [input]) =
      let output := ((history.run device front).react device input).1
      if (input.acceptedUpdate? output).isSome then []
      else history.entriesAfter device earlier front ++ (input.entryAccepted? output).toList := by
  induction front generalizing history earlier with
  | nil => rfl
  | cons first rest ih => exact ih ..

/-- What a stage says about the flags of the entries that have been accepted in the update. -/
def TableStage.Holds : TableStage → List TransferFlag → Prop
  | absent, _ => True
  | learning passed, flags => TransferFlag.IsPartial passed flags
  | complete, flags => TransferFlag.IsTable flags

/-- The entries have these flags, and no entry is without one. -/
def HaveFlags (entries : List Request) (flags : List TransferFlag) : Prop :=
  entries.map Request.tableFlag? = flags.map some

namespace TableStage

variable {stage : TableStage} {flags : List TransferFlag} {flag : TransferFlag} {code : UInt8}

/-- A flag is admitted while components are learned of, as the start or after it. -/
theorem admits?_eq_some_iff : stage.admits? code = some flag ↔
    ∃ passed, stage = learning passed ∧ ofCode? code = some flag ∧ flag.isStart ≠ passed := by
  cases stage with
  | absent | complete => simp [admits?]
  | learning passed => simp [admits?, Responder.followingFlag?, Option.filter_eq_some_iff]

/-- While an update runs, the flags are those of a table that begins. -/
theorem Holds.begins (holds : stage.Holds flags) (running : stage ≠ absent) :
    TransferFlag.BeginsTable flags := by
  cases stage with
  | absent => exact absurd rfl running
  | learning passed => exact TransferFlag.IsPartial.begins holds
  | complete => exact TransferFlag.IsTable.begins holds

/-- While an update runs, components are announced as long as the table is not complete. -/
theorem Holds.learning_iff (holds : stage.Holds flags) (running : stage ≠ absent) :
    (∃ passed, stage = learning passed) ↔ ¬ TransferFlag.IsTable flags := by
  cases stage with
  | absent => exact absurd rfl running
  | learning passed =>
      exact ⟨fun _ => TransferFlag.IsPartial.not_isTable holds, fun _ => ⟨passed, rfl⟩⟩
  | complete => exact ⟨nofun, fun incomplete => absurd holds incomplete⟩

/-- An entry that is accepted goes on with the table that is being announced. -/
theorem Holds.announced (holds : stage.Holds flags) (admits : stage.admits? code = some flag) :
    (∃ passed, stage = learning passed) ∧ ofCode? code = some flag ∧
      if flag.isEnd then TransferFlag.IsTable (flags ++ [flag])
      else TransferFlag.IsPartial true (flags ++ [flag]) := by
  obtain ⟨passed, rfl, known, follows⟩ := admits?_eq_some_iff.mp admits
  exact ⟨⟨passed, rfl⟩, known, TransferFlag.IsPartial.concat holds follows⟩

/-- While an update runs, the entries that are accepted are those that go on with a table. -/
theorem Holds.admits_iff (holds : stage.Holds flags) (running : stage ≠ absent) :
    stage.admits? code = some flag ↔
      ofCode? code = some flag ∧ TransferFlag.BeginsTable (flags ++ [flag]) := by
  constructor
  · intro admits
    obtain ⟨-, known, longer⟩ := holds.announced admits
    refine ⟨known, ?_⟩
    split at longer
    · exact longer.begins
    · exact longer.begins
  · rintro ⟨known, begins⟩
    cases stage with
    | absent => exact absurd rfl running
    | learning passed =>
        exact admits?_eq_some_iff.mpr
          ⟨passed, rfl, known, TransferFlag.IsPartial.follows holds begins⟩
    | complete => exact absurd begins (TransferFlag.IsTable.not_begins holds flag)

end TableStage

namespace TableStep

variable {before after : DevicePhase} {update : Option UpdateRequest} {entry : Option Request}
  {entries : List Request} {flags : List TransferFlag}

/-- What the stage says about the flags stays true. -/
theorem holds (step : TableStep before update entry after) (holds : before.table.Holds flags)
    (known : HaveFlags entries flags) :
    ∃ longer, HaveFlags (if update.isSome then [] else entries ++ entry.toList) longer ∧
      after.table.Holds longer := by
  cases step with
  | begun update begins => exact ⟨[], rfl, begins ▸ .empty⟩
  | announced read admits next =>
      rename_i request code flag
      obtain ⟨-, decoded, more⟩ := holds.announced admits
      have longer : HaveFlags (entries ++ [request]) (flags ++ [flag]) := by
        rw [HaveFlags, List.map_append, List.map_append, known, List.map_singleton,
          Request.tableFlag?_eq_some read decoded]
        rfl
      refine ⟨flags ++ [flag], longer, ?_⟩
      split at next <;> rename_i ends <;> rw [next]
      · rwa [if_pos ends] at more
      · rwa [if_neg ends] at more
  | kept same => exact ⟨flags, by simpa using known, same ▸ holds⟩
  | ended none => exact ⟨flags, by simpa using known, none ▸ trivial⟩

/-- The components are announced until the table is complete. -/
theorem completes_iff (step : TableStep before update entry after)
    (holds : before.table.Holds flags) :
    before.state = .learnComponents ∧ after.state = .readyXfer ↔
      ∃ request flag, entry = some request ∧ request.tableFlag? = some flag ∧
        TransferFlag.IsTable (flags ++ [flag]) := by
  have learning : before.state = .learnComponents ↔ ∃ passed, before.table = .learning passed :=
    DevicePhase.state_eq_learnComponents_iff
  have complete : after.state = .readyXfer → after.table = .complete :=
    DevicePhase.table_of_readyXfer
  cases step with
  | begun update begins =>
      refine ⟨fun ⟨_, ready⟩ => ?_, nofun⟩
      cases begins.symm.trans (complete ready)
  | announced read admits next =>
      rename_i request code flag
      obtain ⟨stage, decoded, more⟩ := holds.announced admits
      have has := Request.tableFlag?_eq_some read decoded
      split at next <;> rename_i ends
      · rw [if_pos ends] at more
        exact ⟨fun _ => ⟨request, flag, rfl, has, more⟩,
          fun _ => ⟨learning.mpr stage, congrArg DevicePhase.state next⟩⟩
      · rw [if_neg ends] at more
        constructor
        · rintro ⟨-, ready⟩
          cases next.symm.trans (complete ready)
        · rintro ⟨_, found, ⟨⟩, same, table⟩
          cases has.symm.trans same
          exact absurd table more.not_isTable
  | kept same =>
      refine ⟨fun ⟨learns, ready⟩ => ?_, nofun⟩
      obtain ⟨passed, stage⟩ := learning.mp learns
      cases stage.symm.trans (same.symm.trans (complete ready))
  | ended none =>
      refine ⟨fun ⟨_, ready⟩ => ?_, nofun⟩
      cases none.symm.trans (complete ready)

end TableStep

namespace ResponderHistory

variable {σ : Type} (device : Device σ) (history : ResponderHistory σ)

/-- The entries that have been accepted in an update are as far as the responder knows. -/
theorem run_table {start : ResponderHistory σ} (idle : start.responder.state = .idle)
    (inputs : List ResponderInput) :
    ∃ flags, HaveFlags (start.entries device inputs) flags ∧
      (start.run device inputs).responder.phase.table.Holds flags := by
  induction inputs using List.reverseRecOn with
  | nil =>
      have absent := DevicePhase.table_eq_absent_iff.mpr idle
      exact ⟨[], rfl, show start.responder.phase.table.Holds [] from absent ▸ trivial⟩
  | append_singleton front input ih =>
      obtain ⟨flags, known, holds⟩ := ih
      rw [run_concat, entries, entriesAfter_concat]
      exact ((start.run device front).next_table device input).holds holds known

/-- The message of an agent is answered with a code. -/
def AnswersWith (agent : EndpointId) (message : List UInt8) (cc : CompletionCode) : Prop :=
  ∃ answer response, (history.react device (.request agent message)).1 = .answer (.ok answer) ∧
    Response.parse answer = .ok response ∧ response.cc = cc

variable {device history} {agent : EndpointId} {message : List UInt8} {request : Request}
  {code : UInt8} {record : ComponentRecord}

/-- An entry of the owner is accepted at the stages that admit it. -/
theorem answersWith_of_tableEntry (owner : history.responder.owner = some agent)
    (parsed : Request.parse message = .ok request) (asked : request.IsFor .passComponentTable)
    (read : decode "PassComponentTable" Responder.tableEntryReader request.data =
      .ok (code, record)) :
    history.AnswersWith device agent message
      (if (history.responder.phase.table.admits? code).isSome then BaseCode.success
        else history.responder.phase.refusal) := by
  have answered : (history.react device (.request agent message)).1 = .answer (.ok
      (Responder.messageOf request
        (history.responder.answer device.recorded agent request (history.state, [])).1)) := by
    rw [react, Responder.react, Responder.answerRequest_of_parse _ _ _ parsed]
  have own : history.responder.isForeign agent = false := by
    simp [Responder.isForeign, owner]
  rcases history.responder.answer_cases device.recorded agent request (history.state, []) with
    ⟨cc, -, -, foreign⟩ | ⟨command, asks, -, same⟩
  · exact absurd (foreign _ asked).2 (by rw [own]; decide)
  · cases Coded.code_injective _ _ (asks.2.symm.trans asked.2)
    have outcome := history.responder.answerTableEntry_of_decode device.recorded
      (history.state, []) request read
    rw [same, Responder.answerCommand] at answered
    split at outcome <;> rename_i admits
    · obtain ⟨⟨body, success⟩, -⟩ := outcome
      rw [success] at answered
      exact ⟨_, _, answered, Request.parse_respond parsed _ _, by rw [admits]; rfl⟩
    · rw [outcome.1] at answered
      exact ⟨_, _, answered, Request.parse_respond parsed _ _, by rw [admits]; rfl⟩

end ResponderHistory

/-- The component table is accepted exactly in sequence. While an update runs, whatever the
responder receives and whatever its device answers, the entries that have been accepted since it
began are the beginning of a table. An entry of the owner that can be read is accepted if the table
can go on with it, and refused for the phase if not. The responder leaves the announcement for the
transfers with the entry that makes the table complete, and with nothing else. -/
theorem component_table_accepted_in_sequence {σ : Type} (device : Device σ) (size : Nat)
    (state : σ) (inputs : List ResponderInput) :
    let start : ResponderHistory σ := { responder := .withMaxMessage size, state }
    let history := start.run device inputs
    history.responder.state ≠ .idle →
    ∃ flags, HaveFlags (start.entries device inputs) flags ∧ TransferFlag.BeginsTable flags ∧
      (history.responder.state = .learnComponents ↔ ¬ TransferFlag.IsTable flags) ∧
      (∀ agent message request code record, history.responder.owner = some agent →
        Request.parse message = .ok request → request.IsFor .passComponentTable →
        decode "PassComponentTable" Responder.tableEntryReader request.data = .ok (code, record) →
        ((∃ flag, ofCode? code = some flag ∧ TransferFlag.BeginsTable (flags ++ [flag])) →
          history.AnswersWith device agent message BaseCode.success) ∧
        ((¬ ∃ flag, ofCode? code = some flag ∧ TransferFlag.BeginsTable (flags ++ [flag])) →
          history.AnswersWith device agent message UpdateCode.invalidStateForCommand)) ∧
      ∀ input, history.responder.state = .learnComponents ∧
          (history.next device input).responder.state = .readyXfer ↔
        ∃ entry flag, input.entryAccepted? (history.react device input).1 = some entry ∧
          entry.tableFlag? = some flag ∧ TransferFlag.IsTable (flags ++ [flag]) := by
  intro start history running
  have idle : start.responder.state = .idle := rfl
  obtain ⟨flags, known, holds⟩ := ResponderHistory.run_table device idle inputs
  have present := mt DevicePhase.table_eq_absent_iff.mp running
  refine ⟨flags, known, holds.begins present, ?_, ?_, fun input => ?_⟩
  · exact DevicePhase.state_eq_learnComponents_iff.trans (holds.learning_iff present)
  · intro agent message request code record owner parsed asked read
    have answered : history.AnswersWith device agent message _ :=
      ResponderHistory.answersWith_of_tableEntry owner parsed asked read
    have admitted : (∃ flag, ofCode? code = some flag ∧
          TransferFlag.BeginsTable (flags ++ [flag])) ↔
        (history.responder.phase.table.admits? code).isSome = true := by
      rw [Option.isSome_iff_exists]
      exact exists_congr fun flag => (holds.admits_iff present).symm
    refine ⟨fun goes => ?_, fun fails => ?_⟩
    · rwa [if_pos (admitted.mp goes)] at answered
    · rwa [if_neg (mt admitted.mpr fails), DevicePhase.refusal_of_ne_idle running] at answered
  · exact (history.next_table device input).completes_iff holds

namespace ThreeComponents

/-- A device with three components. -/
def device : Device Unit where
  identifiers state := ({}, state)
  components _ := (List.range 3).map fun count =>
    { key := { classification := .firmware, identifier := UInt16.ofNat count } }
  activeVersion _ := .raw []
  updateComponent _ _ state := (0, state)
  firmwareData _ _ _ state := (.success, state)
  verify _ state := (.success, state)
  apply _ state := (.ok .empty, state)
  now state := (7, state)

/-- Announces a component, in an entry with the flag of this code. -/
def announces (code identifier : UInt8) : List UInt8 :=
  [0x81, 5, 0x13, code, 10, 0, identifier, 0, 0, 0, 0, 0, 0, 0, 0]

/-- An update begins, and two components are announced. -/
def inputs : List ResponderInput :=
  [.request ⟨8⟩ [0x80, 5, 0x10, 32, 0, 0, 0, 3, 0, 1, 0, 0, 0, 0],
    .request ⟨8⟩ (announces 1 0), .progress, .request ⟨8⟩ (announces 2 1)]

/-- The device before anything has happened. -/
def fresh : ResponderHistory Unit := { responder := .withMaxMessage 4096, state := () }

/-- The device after two components have been announced. -/
def announced : ResponderHistory Unit := fresh.run device inputs

end ThreeComponents

open ThreeComponents in
/-- After a first component and another one, no other can be the first, and the last one ends the
announcement. -/
theorem third_component_ends_announcement :
    announced.responder.state = .learnComponents ∧
      announced.AnswersWith device ⟨8⟩ (announces 1 2) UpdateCode.invalidStateForCommand ∧
      announced.AnswersWith device ⟨8⟩ (announces 4 2) BaseCode.success ∧
      (announced.next device (.request ⟨8⟩ (announces 4 2))).responder.state = .readyXfer := by
  obtain ⟨flags, known, -, learning, answers, completes⟩ :=
    component_table_accepted_in_sequence device 4096 () inputs (by decide +kernel)
  have entries : (fresh.entries device inputs).map Request.tableFlag? =
      [TransferFlag.start, .middle].map some := by decide +kernel
  have same : flags = [.start, .middle] :=
    (List.map_inj_right fun _ _ => Option.some.inj).mp (known.symm.trans entries)
  subst same
  have part : TransferFlag.IsPartial true [.start, .middle] := .begun 1
  have whole : TransferFlag.IsTable ([.start, .middle] ++ [.finish]) := .several 1
  refine ⟨learning.mpr part.not_isTable, ?_, ?_, ?_⟩
  · refine (answers _ _ _ _ _ (by rfl) rfl ⟨rfl, rfl⟩ rfl).2 ?_
    rintro ⟨flag, code, begins⟩
    cases code.symm.trans (show ofCode? 1 = some TransferFlag.start from rfl)
    exact part.follows begins rfl
  · exact (answers _ _ _ _ _ (by rfl) rfl ⟨rfl, rfl⟩ rfl).1 ⟨.finish, rfl, whole.begins⟩
  · exact ((completes (.request ⟨8⟩ (announces 4 2))).mpr ⟨_, .finish, rfl, rfl, whole⟩).2

end FirmwareUpdate
