import FirmwareUpdate.Proofs.Device.Hearing

/-!
# When an update is given up

A device gives an update up when it has not heard of the agent for too long. `Moment.Heard` says
what counts, and `Silence` that the note of the device is the time of the last of it, whatever has
happened and however much time has passed in between. Giving up a component does not count,
although it is answered with success.
-/

namespace FirmwareUpdate

open Wire

variable {σ : Type}

/-- A responder and its device at the moment of an input. -/
structure Moment (σ : Type) where
  responder : Responder
  state : σ
  input : ResponderInput

namespace Moment

variable (device : Device σ) (moment : Moment σ)

/-- The reaction to the input, with the calls that it makes. -/
def reaction : ResponderOutput × Responder × σ × List DeviceCall :=
  moment.responder.react device.recorded (moment.state, []) moment.input

/-- The responder after its reaction. -/
def after : Responder := (moment.reaction device).2.1

/-- The device after the reaction. -/
def later : σ := (moment.reaction device).2.2.1

/-- The agent of the update is heard of: it brings the update forward, or it answers what the
device has asked for. A portion of metadata that no message has room for counts as well. -/
inductive Heard : Prop where
  | answered {agent : EndpointId} {message answer : List UInt8} {request : Request}
      {response : Response} {command : Command} (asked : moment.input = .request agent message)
      (parsed : Request.parse message = .ok request) (command_eq : request.IsFor command)
      (renewal : command.isRenewal = true)
      (given : (moment.reaction device).1 = .answer (.ok answer))
      (replied : Response.parse answer = .ok response) (success : response.cc.isSuccess = true)
      (owner : (moment.after device).owner = some agent)
  | tooLong {agent : EndpointId} {message : List UInt8} {request : Request}
      (asked : moment.input = .request agent message)
      (parsed : Request.parse message = .ok request) (command_eq : request.IsFor .getDeviceMetaData)
      (owner : moment.responder.owner = some agent)
      (unwritten : moment.responder.ServesTooMuch device request moment.state)
  | replied {agent : EndpointId} {message : List UInt8} {response : Response}
      (said : moment.input = .reply agent message) (owner : moment.responder.owner = some agent)
      (parsed : Response.parse message = .ok response) (awaited : moment.responder.Awaits response)
      (taken : (moment.reaction device).1 = .taken (.ok ()))

/-- What the clock of the device says when the agent is heard of. -/
def heardAt : Nat := (moment.after device).lastActivity

/-- A request changes the state of the device. -/
def Moves : Prop :=
  moment.input.requester?.isSome = true ∧ (moment.after device).state ≠ moment.responder.state

/-- A request asks to give the component up. -/
def CancelsComponent : Prop :=
  ∃ agent message request, moment.input = .request agent message ∧
    Request.parse message = .ok request ∧ request.IsFor .cancelUpdateComponent

/-- What a reaction does to the note of when the agent was heard of. -/
structure Notes (clock : σ → Nat) : Prop where
  forward : clock moment.state ≤ clock (moment.later device)
  noted : moment.Heard device →
    clock moment.state ≤ moment.heardAt device ∧ moment.heardAt device ≤ clock (moment.later device)
  kept : ¬ moment.Heard device → moment.heardAt device = moment.responder.lastActivity
  moved : moment.Moves device → moment.Heard device ∨ (moment.after device).state = .idle ∨
    moment.CancelsComponent ∧ moment.responder.state ≠ .idle

end Moment

namespace Responder

variable {clock : σ → Nat} {device : Device σ} {responder : Responder} {agent : EndpointId}
  {state : σ}

/-- The owner of an update is no stranger to it, and nobody else is none. -/
theorem owner_of_not_foreign (owned : responder.Owned) (known : responder.isForeign agent = false)
    (running : responder.state ≠ .idle) : responder.owner = some agent := by
  cases owner : responder.owner with
  | none => exact absurd (owned.mp owner) running
  | some other =>
      rw [isForeign, owner] at known
      simpa using known

end Responder

namespace Moment

variable {clock : σ → Nat} {device : Device σ} {moment : Moment σ}

section

variable {outcome : ResponderOutput × Responder × σ × List DeviceCall}
  (reacted : moment.reaction device = outcome)

include reacted

/-- A reaction in which the agent is heard of. -/
theorem notes_of_heard (heard : moment.Heard device)
    (noted : Responder.NotedWithin (clock ∘ Prod.fst) (moment.state, []) outcome.2) :
    moment.Notes device clock := by
  subst reacted
  exact {
    forward := Nat.le_trans noted.1 noted.2
    noted := fun _ => noted
    kept := fun unheard => absurd heard unheard
    moved := fun _ => .inl heard }

/-- A reaction that notes nothing. -/
theorem notes_of_unheard (unheard : ¬ moment.Heard device)
    (forward : clock moment.state ≤ clock outcome.2.2.1)
    (kept : outcome.2.1.lastActivity = moment.responder.lastActivity)
    (moved : moment.input.requester?.isSome = true →
      outcome.2.1.state ≠ moment.responder.state → outcome.2.1.state = .idle ∨
        moment.CancelsComponent ∧ moment.responder.state ≠ .idle) : moment.Notes device clock := by
  subst reacted
  exact {
    forward
    noted := fun heard => absurd heard unheard
    kept := fun _ => kept
    moved := fun moves => .inr (moved moves.1 moves.2) }

end

section

variable {responder : Responder} {state : σ} {agent : EndpointId} {message : List UInt8}
  {request : Request}

/-- A request as a moment of its responder. -/
def ofRequest (responder : Responder) (state : σ) (agent : EndpointId)
    (message : List UInt8) : Moment σ :=
  { responder, state, input := .request agent message }

/-- The reaction to a request that is read is the answer to it. -/
theorem reaction_ofRequest (parsed : Request.parse message = .ok request) :
    (ofRequest responder state agent message).reaction device =
      (.answer (.ok (Responder.messageOf request
          (responder.answer device.recorded agent request (state, [])).1)),
        (responder.answer device.recorded agent request (state, [])).2) := by
  simp only [reaction, ofRequest, Responder.react,
    Responder.answerRequest_of_parse responder device.recorded agent parsed]

/-- What a request that is heard of can be answered with. -/
theorem answer_of_heard (parsed : Request.parse message = .ok request)
    (heard : (ofRequest responder state agent message).Heard device) :
    ∃ command, request.IsFor command ∧ command.isRenewal = true ∧
      ((∃ response, (responder.answer device.recorded agent request (state, [])).1 =
          .ok response) ∨
        (∃ cc : CompletionCode, cc.isSuccess = true ∧
          (responder.answer device.recorded agent request (state, [])).1 = .error cc) ∨
        command = .getDeviceMetaData ∧ responder.owner = some agent ∧
          responder.ServesTooMuch device request state) := by
  cases heard with
  | answered asked read command_eq renewal given replied success owner =>
      cases asked
      cases parsed.symm.trans read
      refine ⟨_, command_eq, renewal, ?_⟩
      cases answered : (responder.answer device.recorded agent request (state, [])).1 with
      | ok response => exact .inl ⟨response, rfl⟩
      | error cc =>
          rw [reaction_ofRequest parsed, answered] at given
          cases given
          cases replied.symm.trans (Request.parse_respond parsed cc [])
          exact .inr (.inl ⟨cc, success, rfl⟩)
  | tooLong asked read command_eq owner unwritten =>
      cases asked
      cases parsed.symm.trans read
      exact ⟨_, command_eq, rfl, .inr (.inr ⟨rfl, owner, unwritten⟩)⟩
  | replied said => cases said

/-- A message that is no request notes nothing. -/
theorem notes_unread {error : CodecError} (unread : Request.parse message = .error error) :
    (ofRequest responder state agent message).Notes device clock := by
  have reacted : (ofRequest responder state agent message).reaction device =
      (.answer (.error (.codec error)), responder, state, []) := by
    simp only [reaction, ofRequest, Responder.react, Responder.answerRequest, unread]
  refine notes_of_unheard reacted ?_ (Nat.le_refl _) rfl fun _ moved => absurd rfl moved
  rintro (⟨⟨⟩, read, -⟩ | ⟨⟨⟩, read, -⟩ | ⟨⟨⟩, -⟩)
  · cases unread.symm.trans read
  · cases unread.symm.trans read

/-- A request that is refused from the start notes nothing. -/
theorem notes_refused (parsed : Request.parse message = .ok request) {cc : CompletionCode}
    (failure : cc.isSuccess = false)
    (refused : responder.answer device.recorded agent request (state, []) =
      (.error cc, responder, state, []))
    (foreign : ∀ command, request.IsFor command →
      Responder.isOpen command = false ∧ responder.isForeign agent = true) :
    (ofRequest responder state agent message).Notes device clock := by
  have reacted : (ofRequest responder state agent message).reaction device = _ :=
    reaction_ofRequest parsed
  rw [refused] at reacted
  refine notes_of_unheard reacted (fun heard => ?_) (Nat.le_refl _) rfl
    fun _ moved => absurd rfl moved
  have answer := answer_of_heard parsed heard
  rw [refused] at answer
  obtain ⟨command, asked, -, ⟨response, ⟨⟩⟩ | ⟨same, succeeded, ⟨⟩⟩ | ⟨-, owner, -⟩⟩ := answer
  · cases failure.symm.trans succeeded
  · have strange := (foreign command asked).2
    simp [Responder.isForeign, owner] at strange

/-- A command that brings the update forward notes the agent, or is refused. -/
theorem notes_renewal (forward : device.Forward clock)
    (parsed : Request.parse message = .ok request) {command : Command}
    (asked : request.IsFor command) (renewal : command.isRenewal = true)
    (mine : Responder.isOpen command = false → responder.state ≠ .idle →
      responder.owner = some agent)
    (answered : responder.answer device.recorded agent request (state, []) =
      responder.answerCommand device.recorded agent request (state, []) command) :
    (ofRequest responder state agent message).Notes device clock := by
  let moment : Moment σ := ofRequest responder state agent message
  have reacted : moment.reaction device = _ := reaction_ofRequest parsed
  have answer (heard : moment.Heard device) := answer_of_heard parsed heard
  have renews : Responder.Renews (clock ∘ Prod.fst) device.recorded responder agent request
      (state, []) (responder.answerCommand device.recorded agent request (state, []) command) :=
    Responder.answerCommand_renews forward.recorded asked renewal mine
  have long (meant : command = .getDeviceMetaData)
      (unwritten : responder.ServesTooMuch device.recorded request (state, [])) :
      Responder.NotedWithin (clock ∘ Prod.fst) (state, [])
        (responder.answerCommand device.recorded agent request (state, []) command).2 := by
    subst meant
    exact Responder.noted_of_servesTooMuch forward.recorded unwritten
  rw [answered] at reacted answer
  generalize responder.answerCommand device.recorded agent request (state, []) command =
    outcome at reacted answer renews long
  cases renews with
  | heard owner noted =>
      refine notes_of_heard reacted (.answered rfl parsed asked renewal (by rw [reacted]; rfl)
        (Request.parse_respond parsed ..) rfl ?_) noted
      rw [after, reacted]
      exact owner
  | tooLong meant owner unwritten failure noted =>
      exact notes_of_heard reacted (.tooLong rfl parsed meant owner unwritten) noted
  | refused failure onwards kept still =>
      by_cases heard : moment.Heard device
      · obtain ⟨other, same, -, ⟨response, ⟨⟩⟩ | ⟨_, succeeded, ⟨⟩⟩ | ⟨rfl, -, unwritten⟩⟩ :=
          answer heard
        · cases failure.symm.trans succeeded
        · exact notes_of_heard reacted heard
            (long (Coded.code_injective _ _ (asked.2.symm.trans same.2)) unwritten)
      · exact notes_of_unheard reacted heard onwards kept fun _ moved => absurd still moved

/-- Any other command notes nothing. -/
theorem notes_other (forward : device.Forward clock)
    (parsed : Request.parse message = .ok request) {command : Command}
    (asked : request.IsFor command) (other : command.isRenewal = false)
    (answered : responder.answer device.recorded agent request (state, []) =
      responder.answerCommand device.recorded agent request (state, []) command) :
    (ofRequest responder state agent message).Notes device clock := by
  have reacted : (ofRequest responder state agent message).reaction device = _ :=
    reaction_ofRequest parsed
  obtain ⟨onwards, kept, still⟩ :=
    Responder.answerCommand_aside forward.recorded responder agent request (state, []) other
  rw [answered] at reacted
  have unheard : ¬ (ofRequest responder state agent message).Heard device := by
    intro heard
    obtain ⟨meant, same, renewal, -⟩ := answer_of_heard parsed heard
    cases Coded.code_injective _ _ (asked.2.symm.trans same.2)
    cases other.symm.trans renewal
  refine notes_of_unheard reacted unheard onwards kept fun _ moved => ?_
  rcases still with same | idle | ⟨rfl, running⟩
  · exact absurd same moved
  · exact .inl idle
  · exact .inr ⟨⟨_, _, request, rfl, parsed, asked⟩, running⟩

/-- What a request does to the note. -/
theorem notes_request (forward : device.Forward clock) (owned : responder.Owned) :
    (ofRequest responder state agent message).Notes device clock := by
  cases parsed : Request.parse message with
  | error error => exact notes_unread parsed
  | ok request =>
      rcases responder.answer_cases device.recorded agent request (state, []) with
        ⟨cc, failure, refused, foreign⟩ | ⟨command, asked, known, answered⟩
      · exact notes_refused parsed failure refused foreign
      · cases renewal : command.isRenewal with
        | true =>
            exact notes_renewal forward parsed asked renewal
              (fun shut => Responder.owner_of_not_foreign owned (known shut)) answered
        | false => exact notes_other forward parsed asked renewal answered

end

/-- What a reply does to the note. -/
theorem notes_reply (forward : device.Forward clock) (responder : Responder) (state : σ)
    (agent : EndpointId) (message : List UInt8) :
    ({ responder, state, input := .reply agent message } : Moment σ).Notes device clock := by
  let moment : Moment σ := { responder, state, input := .reply agent message }
  have reacted : moment.reaction device =
      (.taken (responder.takeReply device.recorded agent message (state, [])).1,
        (responder.takeReply device.recorded agent message (state, [])).2) := rfl
  rcases Responder.takeReply_notes forward.recorded responder agent message (state, []) with
    ⟨error, refused⟩ | ⟨response, owner, parsed, takes⟩
  · rw [refused] at reacted
    refine notes_of_unheard reacted ?_ (Nat.le_refl _) rfl nofun
    rintro (⟨⟨⟩, -⟩ | ⟨⟨⟩, -⟩ | ⟨-, -, -, -, taken⟩)
    rw [reacted] at taken
    cases taken
  · generalize responder.takeReply device.recorded agent message (state, []) = outcome
      at reacted takes
    cases takes with
    | heard awaited noted =>
        have heard : moment.Heard device := .replied rfl owner parsed awaited (by rw [reacted])
        exact notes_of_heard reacted heard noted
    | aside unheard onwards kept =>
        refine notes_of_unheard reacted ?_ onwards kept nofun
        rintro (⟨⟨⟩, -⟩ | ⟨⟨⟩, -⟩ | ⟨⟨⟩, -, read, awaited, taken⟩)
        cases parsed.symm.trans read
        rw [reacted] at taken
        cases taken
        exact unheard rfl awaited

/-- What a call for progress does to the note. -/
theorem notes_progress (forward : device.Forward clock) (responder : Responder) (state : σ) :
    ({ responder, state, input := .progress } : Moment σ).Notes device clock := by
  obtain ⟨onwards, kept⟩ :=
    Responder.progress_keepsNote forward.recorded responder (state, [])
  exact notes_of_unheard rfl (by rintro (⟨⟨⟩, -⟩ | ⟨⟨⟩, -⟩ | ⟨⟨⟩, -⟩)) onwards kept nofun

/-- What any reaction does to the note. -/
theorem notes (forward : device.Forward clock) (owned : moment.responder.Owned) :
    moment.Notes device clock := by
  obtain ⟨responder, state, input⟩ := moment
  cases input with
  | request agent message => exact notes_request forward owned
  | reply agent message => exact notes_reply forward responder state agent message
  | progress => exact notes_progress forward responder state

end Moment

/-! ## Runs -/

/-- The moments of a run, the latest first, and where it has come to. Between two moments the
device may change by itself, but not set its clock back. -/
inductive Device.Follows (device : Device σ) (clock : σ → Nat) :
    List (Moment σ) → Responder → σ → Prop where
  | begins (size : Nat) (state : σ) : Follows device clock [] (.withMaxMessage size) state
  | passes {moments : List (Moment σ)} {responder : Responder} {state : σ} (later : σ)
      (earlier : Follows device clock moments responder state)
      (onwards : clock state ≤ clock later) : Follows device clock moments responder later
  | reacts {moments : List (Moment σ)} {responder : Responder} {state : σ} (input : ResponderInput)
      (earlier : Follows device clock moments responder state) :
      Follows device clock ({ responder, state, input } :: moments)
        (Moment.after device { responder, state, input })
        (Moment.later device { responder, state, input })

/-- What a responder knows of the silence of its agent. -/
structure Silence (device : Device σ) (clock : σ → Nat) (moments : List (Moment σ))
    (responder : Responder) (state : σ) : Prop where
  owned : responder.Owned
  tidy : responder.Tidy
  /-- All moments are past. -/
  past : ∀ moment ∈ moments, clock (moment.later device) ≤ clock state
  /-- The agent is heard of within a moment, and not after the note. -/
  heard : ∀ moment ∈ moments, moment.Heard device →
    clock moment.state ≤ moment.heardAt device ∧
      moment.heardAt device ≤ clock (moment.later device) ∧
      moment.heardAt device ≤ responder.lastActivity
  /-- While an update runs, the note is the time of one of the moments. -/
  last : responder.state ≠ .idle →
    ∃ moment ∈ moments, moment.Heard device ∧ moment.heardAt device = responder.lastActivity
  /-- While an update runs, all requests that have changed the state are from before the note,
  unless they have given a component up. -/
  moved : responder.state ≠ .idle → ∀ moment ∈ moments, moment.Moves device →
    ¬ moment.CancelsComponent →
      moment.Heard device ∨ clock (moment.later device) ≤ responder.lastActivity

namespace Silence

variable {clock : σ → Nat} {device : Device σ} {moments : List (Moment σ)} {responder : Responder}
  {state : σ}

/-- A new responder has been silent from the beginning. -/
theorem begins (size : Nat) (state : σ) :
    Silence device clock [] (.withMaxMessage size) state where
  owned := Responder.withMaxMessage_owned size
  tidy := Responder.withMaxMessage_tidy size
  past _ member := absurd member List.not_mem_nil
  heard _ member := absurd member List.not_mem_nil
  last running := absurd rfl running
  moved _ _ member := absurd member List.not_mem_nil

/-- Silence goes on while time passes. -/
theorem passes (silence : Silence device clock moments responder state) {later : σ}
    (onwards : clock state ≤ clock later) : Silence device clock moments responder later :=
  { silence with past := fun moment member => Nat.le_trans (silence.past moment member) onwards }

/-- An update that runs after a reaction in which the agent was not heard of has run before. -/
theorem ran {moment : Moment σ} (notes : moment.Notes device clock)
    (unheard : ¬ moment.Heard device) (running : (moment.after device).state ≠ .idle) :
    moment.responder.state ≠ .idle := by
  intro idle
  have keeps : Responder.KeepsOwner moment.input.requester? moment.responder
      (moment.after device) :=
    Responder.react_keepsOwner device.recorded (moment.state, []) moment.input
  cases keeps with
  | kept owner same => exact running (same.mpr idle)
  | ended nobody rests => exact running rests
  | begun asked free owner begins =>
      have moves : moment.Moves device :=
        ⟨by rw [asked]; rfl, fun same => running (same.trans idle)⟩
      rcases notes.moved moves with heard | rests | ⟨-, ran⟩
      · exact unheard heard
      · exact running rests
      · exact ran idle

/-- A reaction keeps what is known of the silence. -/
theorem reacts (forward : device.Forward clock) {moment : Moment σ}
    (silence : Silence device clock moments moment.responder moment.state) :
    Silence device clock (moment :: moments) (moment.after device) (moment.later device) := by
  have notes := moment.notes forward silence.owned
  have keeps : Responder.KeepsOwner moment.input.requester? moment.responder
      (moment.after device) :=
    Responder.react_keepsOwner device.recorded (moment.state, []) moment.input
  have steps : (moment.after device).Tidy :=
    (Responder.react_steps moment.responder device moment.state moment.input).tidy silence.tidy
  -- an earlier time is before the note, whether it is a new one or not
  have noted {time : Nat} (heard : moment.Heard device) (past : time ≤ clock moment.state) :
      time ≤ moment.heardAt device := Nat.le_trans past (notes.noted heard).1
  have kept {time : Nat} (unheard : ¬ moment.Heard device)
      (before : time ≤ moment.responder.lastActivity) : time ≤ moment.heardAt device :=
    Nat.le_trans before (Nat.le_of_eq (notes.kept unheard).symm)
  refine ⟨keeps.owned silence.owned, steps, ?_, ?_, ?_, ?_⟩
  · intro earlier member
    rcases List.mem_cons.mp member with rfl | member
    · exact Nat.le_refl _
    · exact Nat.le_trans (silence.past earlier member) notes.forward
  · intro earlier member heard
    rcases List.mem_cons.mp member with rfl | member
    · exact ⟨(notes.noted heard).1, (notes.noted heard).2, Nat.le_refl _⟩
    · obtain ⟨start, finish, before⟩ := silence.heard earlier member heard
      refine ⟨start, finish, ?_⟩
      by_cases again : moment.Heard device
      · exact noted again (Nat.le_trans finish (silence.past earlier member))
      · exact kept again before
  · intro running
    by_cases heard : moment.Heard device
    · exact ⟨moment, List.mem_cons_self, heard, rfl⟩
    · obtain ⟨earlier, member, spoke, same⟩ := silence.last (ran notes heard running)
      exact ⟨earlier, List.mem_cons_of_mem _ member, spoke, same.trans (notes.kept heard).symm⟩
  · intro running earlier member moves whole
    rcases List.mem_cons.mp member with rfl | member
    · rcases notes.moved moves with heard | idle | ⟨cancels, -⟩
      · exact .inl heard
      · exact absurd idle running
      · exact absurd cancels whole
    · by_cases heard : moment.Heard device
      · exact .inr (noted heard (silence.past earlier member))
      · exact (silence.moved (ran notes heard running) earlier member moves whole).imp_right
          (kept heard)

/-- The note of a device is the time of the last moment in which it has heard of its agent,
whatever has happened. -/
theorem of_follows (forward : device.Forward clock)
    (follows : device.Follows clock moments responder state) :
    Silence device clock moments responder state := by
  induction follows with
  | begins size state => exact begins size state
  | passes later earlier onwards silence => exact silence.passes onwards
  | reacts input earlier silence => exact silence.reacts forward

end Silence

/-- Progress that ends an update gives it up. -/
theorem Responder.state_progress {device : Device σ} {clock : σ → Nat}
    (forward : device.Forward clock) {responder : Responder} {state : σ}
    (running : responder.state ≠ .idle) :
    (responder.progress device state).2.1.state = .idle ↔
      silenceLimit < (device.now state).1 - responder.lastActivity := by
  rw [progress_of_running running]
  split <;> rename_i silent
  · exact iff_of_true rfl silent
  · have onwards : KeepsNote clock responder (device.now state).2
        (responder.progressPhase device (device.now state).2).2 := progressPhase_keepsNote forward
    exact iff_of_false (onwards.running running) silent

/-- What is left of an update that is given up. -/
theorem Responder.progress_of_silent (device : Device σ) {responder : Responder} {state : σ}
    (running : responder.state ≠ .idle)
    (silent : silenceLimit < (device.now state).1 - responder.lastActivity) :
    let after := responder.progress device.recorded (state, [])
    after.1 = none ∧ after.2.1.idleReason? = some responder.phase.timeoutReason ∧
      after.2.2.2 = (responder.phase.details?.map DeviceCall.cancelComponent).toList := by
  have gives : responder.progress device.recorded (state, []) =
      (none, responder.giveUp device.recorded ((device.now state).2, [])) := by
    rw [progress_of_running running]
    exact if_pos silent
  dsimp only
  rw [gives]
  refine ⟨rfl, rfl, ?_⟩
  unfold giveUp
  dsimp only
  split <;> rename_i updating <;> rw [updating] <;> rfl

/-- An update that is given up is over for want of its agent. -/
theorem DevicePhase.timeoutReason_of_running {phase : DevicePhase} (running : phase.state ≠ .idle)
    (awake : phase.state ≠ .activate) :
    phase.timeoutReason ≠ .init ∧ phase.timeoutReason ≠ .activate ∧
      phase.timeoutReason ≠ .cancel := by
  cases phase with
  | idle => exact absurd rfl running
  | activate => exact absurd rfl awake
  | _ => exact ⟨nofun, nofun, nofun⟩

/-- The phases of a component are those from download to installation. -/
theorem DevicePhase.isSome_details? (phase : DevicePhase) :
    phase.details?.isSome = true ↔
      phase.state = .download ∨ phase.state = .verify ∨ phase.state = .apply := by
  cases phase <;> simp [details?, state]

/-- An update is given up when, and only when, its agent has not been heard of for two minutes.
Then no request is left that has changed the state since, other than to give a component up; the
component that is being updated is cancelled, if there is one; and nothing is asked for. -/
theorem update_is_given_up_after_silence {device : Device σ} {clock : σ → Nat}
    (forward : device.Forward clock) {moments : List (Moment σ)} {responder : Responder} {state : σ}
    (follows : device.Follows clock moments responder state) (running : responder.state ≠ .idle) :
    let time := (device.now state).1
    let after := responder.progress device.recorded (state, [])
    (∀ moment ∈ moments, moment.Heard device →
      clock moment.state ≤ moment.heardAt device ∧
        moment.heardAt device ≤ clock (moment.later device)) ∧
    (after.2.1.state = .idle ↔
      ∀ moment ∈ moments, moment.Heard device →
        moment.heardAt device + Responder.silenceLimit < time) ∧
    (after.2.1.state = .idle →
      (∀ moment ∈ moments, moment.Moves device → ¬ moment.CancelsComponent →
        moment.Heard device ∨ clock (moment.later device) + Responder.silenceLimit < time) ∧
      (∃ reason, after.2.1.idleReason? = some reason ∧
        reason ≠ .init ∧ reason ≠ .activate ∧ reason ≠ .cancel) ∧
      after.1 = none ∧
      after.2.2.2 = (responder.phase.details?.map DeviceCall.cancelComponent).toList ∧
      (responder.phase.details?.isSome = true ↔
        responder.state = .download ∨ responder.state = .verify ∨ responder.state = .apply)) := by
  intro time after
  have silence := Silence.of_follows forward follows
  have ends : after.2.1.state = .idle ↔
      Responder.silenceLimit < time - responder.lastActivity :=
    Responder.state_progress forward.recorded running
  refine ⟨fun moment member heard => ?_, ?_, fun idle => ?_⟩
  · obtain ⟨start, finish, -⟩ := silence.heard moment member heard
    exact ⟨start, finish⟩
  · rw [ends]
    constructor
    · intro silent moment member heard
      obtain ⟨-, -, noted⟩ := silence.heard moment member heard
      omega
    · intro silent
      obtain ⟨moment, member, heard, last⟩ := silence.last running
      have before := silent moment member heard
      omega
  · have silent := ends.mp idle
    obtain ⟨nothing, reason, calls⟩ := Responder.progress_of_silent device running silent
    refine ⟨fun moment member moves whole => ?_, ?_, nothing, calls,
      DevicePhase.isSome_details? _⟩
    · refine (silence.moved running moment member moves whole).imp_right fun before => ?_
      omega
    · exact ⟨_, reason, DevicePhase.timeoutReason_of_running running silence.tidy.awake⟩

/-! ## An agent that falls silent -/

namespace SilentAgent

/-- The one component of the device. -/
def key : ComponentKey := { classification := .firmware, identifier := 7 }

/-- A device that takes every image. Its state is the time. -/
def device : Device Nat where
  identifiers time := ({}, time)
  components _ := [{ key }]
  activeVersion _ := .raw []
  updateComponent _ _ time := (0, time)
  firmwareData _ _ _ time := (.success, time)
  verify _ time := (.success, time)
  apply _ time := (.ok .empty, time)
  now time := (time, time)

/-- The clock of the example does not go back. -/
theorem forward : device.Forward id := by
  constructor <;> intros
  · exact ⟨Nat.le_refl _, Nat.le_refl _⟩
  all_goals exact Nat.le_refl _

/-- The message of a firmware update command. -/
def message (command : Command) (body : List UInt8) : List UInt8 :=
  Request.toBytes { iid := 0, typ := firmwareUpdateType, cmd := Coded.code command, data := body }

/-- The agent asks for an update of one component. -/
def asking : Moment Nat where
  responder := .withMaxMessage 0
  state := 0
  input := .request ⟨8⟩ (message .requestUpdate [32, 0, 0, 0, 1, 0, 1, 0, 0, 0, 0])

/-- It announces the component. -/
def announcing : Moment Nat where
  responder := asking.after device
  state := 0
  input := .request ⟨8⟩ (message .passComponentTable [5, 10, 0, 7, 0, 0, 0, 0, 0, 0, 0, 0])

/-- It begins the update of the component. -/
def updating : Moment Nat where
  responder := announcing.after device
  state := 0
  input := .request ⟨8⟩ (message .updateComponent
    [10, 0, 7, 0, 0, 0, 0, 0, 0, 2, 0, 0, 0, 0, 0, 0, 0, 0, 0])

/-- Two minutes later it gives the component up. -/
def cancelling : Moment Nat where
  responder := updating.after device
  state := 120000
  input := .request ⟨8⟩ (message .cancelUpdateComponent [])

end SilentAgent

open SilentAgent in
/-- An update is given up two minutes after its agent has been heard of, and not before. -/
theorem silent_agent_loses_its_update :
    device.Forward id ∧ device.Follows id [asking] (asking.after device) 120001 ∧
      (asking.after device).state ≠ .idle ∧ asking.Heard device ∧ asking.heardAt device = 0 ∧
      ((asking.after device).progress device.recorded (120001, [])).2.1.state = .idle ∧
      ((asking.after device).progress device.recorded (120001, [])).1 = none ∧
      ((asking.after device).progress device.recorded (120000, [])).2.1.state ≠ .idle := by
  have follows (time : Nat) : device.Follows id [asking] (asking.after device) time :=
    .passes time (.reacts _ (.begins 0 0)) (Nat.zero_le time)
  have running : (asking.after device).state ≠ .idle := by decide
  have heard : asking.Heard device :=
    .answered rfl rfl (show Request.IsFor _ .requestUpdate from ⟨rfl, rfl⟩) rfl rfl rfl rfl rfl
  obtain ⟨-, late, ended⟩ := update_is_given_up_after_silence forward (follows 120001) running
  have silent :
      ((asking.after device).progress device.recorded (120001, [])).2.1.state = .idle := by
    refine late.mpr fun moment member _ => ?_
    rw [List.mem_singleton.mp member]
    decide
  refine ⟨forward, follows 120001, running, heard, by decide, silent, (ended silent).2.2.1,
    fun early => ?_⟩
  have before := (update_is_given_up_after_silence forward (follows 120000) running).2.1.mp early
    asking List.mem_cons_self heard
  exact absurd before (by decide)

open SilentAgent in
/-- An agent that has just given a component up, and has been told so, is not heard of: the update
is given up a moment later. -/
theorem cancelling_agent_is_not_heard :
    device.Follows id [cancelling, updating, announcing, asking] (cancelling.after device)
        120001 ∧
      cancelling.state = 120000 ∧ cancelling.responder.owner = some ⟨8⟩ ∧
      cancelling.responder.state = .download ∧ (cancelling.after device).state = .readyXfer ∧
      (cancelling.reaction device).1 = .answer (.ok [0x00, 0x05, 0x1c, 0x00]) ∧
      (device.now 120001).1 = 120001 ∧
      ((cancelling.after device).progress device 120001).2.1.idleReason? =
        some .timeoutReadyXfer := by
  have follows : device.Follows id [cancelling, updating, announcing, asking]
      (cancelling.after device) 120001 :=
    .passes _ (.reacts _ (.passes 120000 (.reacts _ (.reacts _ (.reacts _ (.begins 0 0))))
      (by decide))) (by decide)
  exact ⟨follows, rfl, by decide, by decide, by decide, rfl, rfl, by decide⟩

end FirmwareUpdate
