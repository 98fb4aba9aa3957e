import AntennaBench.Conductor.ExactlyOnce
import AntennaBench.Conductor.SlotEvidence
import AntennaBench.Controller.ControlRuns
import AntennaBench.Timeline.Throughout

/-!
# The controller against the radio and the operator

What the commands and the armed events of the controller owe to the session at the moment
they are started or appended. A worker decides on a session it read earlier, so this holds of
the runs in which nobody arms a cycle, or commits an attempt for the same intention, between
that reading and the worker's commands.
-/

namespace AntennaBench

open Timeline

/-- The transmissions of the session are over at the deadline, if there are any. -/
def EndsBy (bundle : BundleV3Contents) (deadline : Option DateTime) : Prop :=
  ∀ cycle ∈ (projectWsprRunV3 bundle.schedule bundle.events).cycles,
    ∃ time ∈ deadline, cycle.window.transmissionEndsAt ≤ time

/-- No cycle ends after the last one. -/
def Chronological (bundle : BundleV3Contents) : Prop :=
  EndsBy bundle (priorEnd bundle)

/-- Every attempt leaves the record of its switch. -/
def Unattempted (bundle : BundleV3Contents) (intentId : String) : Prop :=
  ∀ record ∈ bundle.rig, record.switchesFor intentId = false

/-- What an effect owes to the run it happens in: a command is not started inside the
transmission of a cycle, an automatic attempt is not started for an intention that was
attempted, and an event is armed for the next intention of a running session. -/
def Respects (run : ControlRun) : ControlEffect → Prop
  | .command automatic role intentId startedAt =>
    (∀ cycle ∈ run.cycles, startedAt < cycle.window.startsAt ∨
      cycle.window.transmissionEndsAt ≤ startedAt) ∧
      (automatic = true → role = .switch → Unattempted run.bundle intentId)
  | .arms intentId => run.bundle.sessionState.lifecycle = .running ∧
      (nextIntent run.bundle).map (·.intentId) = some intentId

namespace WorkerPhase

/-- The session a worker read, while it may still start a command. -/
def mayStart? : WorkerPhase → Option BundleV3Contents
  | waiting look | preparing _ look _ | authorized look _ _ _ => some look.bundle
  | executing attempt _ execution =>
    if execution.pending attempt.profile then some attempt.bundle else none
  | _ => none

/-- The intention a worker read as unattempted, until its switch is started. -/
def unattempted? : WorkerPhase → Option String
  | waiting look | preparing _ look _ | authorized look _ _ _ => some look.intent.intentId
  | executing attempt _ .begun => some attempt.intent.intentId
  | _ => none

/-- The clock that ended the wait was not before the end of the last transmission. -/
def WaitedFor (bundle : BundleV3Contents) (readAt : Option DateTime) : Prop :=
  ∀ deadline ∈ priorEnd bundle, ∃ time ∈ readAt, deadline ≤ time

def Waited : WorkerPhase → Prop
  | preparing _ look readAt | authorized look readAt _ _ => WaitedFor look.bundle readAt
  | executing attempt readAt _ => WaitedFor attempt.bundle readAt
  | _ => True

end WorkerPhase

/-- The worker that takes a step. -/
def ControlStep.actor? : ControlStep → Option ℕ
  | .worker index _ => some index
  | _ => none

/-- The clock at which a step starts a command. -/
def ControlStep.startedAt? : ControlStep → Option DateTime
  | .worker _ (.command (.start startedAt)) | .operatorCommand (.start startedAt) => some startedAt
  | _ => none

/-- The workers other than the one that acts. -/
def ControlRun.bystanders (run : ControlRun) (step : ControlStep) : List Worker :=
  (run.workers.zipIdx.filter fun entry => step.actor? ≠ some entry.2).map (·.1)

/-- The clock that let the attempt of a step through, which was after the last transmission. -/
def ControlRun.passedAt? (run : ControlRun) : ControlStep → Option DateTime
  | .worker index _ =>
    match run.workers[index]? with
    | some ⟨_, .executing _ readAt _⟩ => readAt
    | _ => none
  | .operatorCommand _ => run.operator.map (·.readAt)
  | _ => none

/-- What a step must leave alone: the order of the cycles, and for every worker other than
the one that acts, the cycles while it may still start a command and the attempts for its
intention before its switch. The clock of a command is not before the one that let the
attempt through. -/
@[mk_iff]
structure Undisturbed (before after : ControlRun) (step : ControlStep) : Prop where
  chronological : Chronological after.bundle
  cycles : ∀ worker ∈ before.bystanders step, worker.phase.mayStart?.isSome →
    ∀ cycle ∈ after.cycles, ∃ earlier ∈ before.cycles, earlier.window = cycle.window
  attempts : ∀ worker ∈ before.bystanders step, ∀ intentId ∈ worker.phase.unattempted?,
    Unattempted before.bundle intentId → Unattempted after.bundle intentId
  clock : ∀ time ∈ before.passedAt? step, ∀ startedAt ∈ step.startedAt?, time ≤ startedAt

instance (bundle : BundleV3Contents) (deadline : Option DateTime) :
    Decidable (EndsBy bundle deadline) := by
  unfold EndsBy
  infer_instance

instance (bundle : BundleV3Contents) : Decidable (Chronological bundle) :=
  inferInstanceAs (Decidable (EndsBy _ _))

instance (bundle : BundleV3Contents) (intentId : String) :
    Decidable (Unattempted bundle intentId) := by
  unfold Unattempted
  infer_instance

instance (before after : ControlRun) (step : ControlStep) :
    Decidable (Undisturbed before after step) :=
  decidable_of_iff _ (undisturbed_iff before after step).symm

theorem mem_bystanders {run : ControlRun} {step : ControlStep} {index : ℕ} {worker : Worker}
    (hworker : run.workers[index]? = some worker) (hother : step.actor? ≠ some index) :
    worker ∈ run.bystanders step := by
  refine List.mem_map.2 ⟨(worker, index), List.mem_filter.2 ⟨?_, decide_eq_true hother⟩, rfl⟩
  exact List.mem_zipIdx_iff_getElem?.2 hworker

/-- A worker that may start a command knows all cycles of the session, and that its
intention is unattempted. -/
structure Attentive (bundle : BundleV3Contents) (phase : WorkerPhase) : Prop where
  ends : ∀ look ∈ phase.mayStart?, EndsBy bundle (priorEnd look)
  fresh : ∀ intentId ∈ phase.unattempted?, Unattempted bundle intentId
  waited : phase.Waited

/-- The same for every worker, and for the operator's controller the clock it read. -/
structure Watchful (run : ControlRun) : Prop where
  chronological : Chronological run.bundle
  workers : ∀ worker ∈ run.workers, Attentive run.bundle worker.phase
  operator : ∀ operator ∈ run.operator,
    operator.execution.pending operator.attempt.profile = true →
      EndsBy run.bundle (some operator.readAt)

section

variable {errorText : LivePersistenceError → String}
  {storageErrorPayload : BundleStoreError → SessionErrorPayload}
  {limits : BundleResourceProfile} {E : Env} {build : Option RuntimeContextV6}
  {paths : ResolvedBundlePathsV2} {run after : ControlRun} {bundle next : BundleV3Contents}
  {phase : WorkerPhase} {worker : Worker} {step : ControlStep}
  {controller : AntennaControllerState} {generation : ℕ} {intentId : String}

theorem attentive_of_idle (hstart : phase.mayStart? = none) (hfresh : phase.unattempted? = none)
    (hwaited : phase.Waited) : Attentive bundle phase := by
  refine ⟨?_, ?_, hwaited⟩
  · simp [hstart]
  · simp [hfresh]

theorem attentive_stopped : Attentive bundle .stopped :=
  attentive_of_idle rfl rfl trivial

theorem attentive_looking : Attentive bundle .looking :=
  attentive_of_idle rfl rfl trivial

theorem EndsBy.mono {deadline : Option DateTime} (h : EndsBy bundle deadline)
    (hcycles : ∀ cycle ∈ (projectWsprRunV3 next.schedule next.events).cycles,
      ∃ earlier ∈ (projectWsprRunV3 bundle.schedule bundle.events).cycles,
        earlier.window = cycle.window) : EndsBy next deadline := by
  intro cycle hcycle
  obtain ⟨earlier, hearlier, hwindow⟩ := hcycles cycle hcycle
  rw [← hwindow]
  exact h earlier hearlier

/-- A session in which nothing is committed for the intention is unattempted. -/
theorem unattempted_of_committedAttempt (h : committedAttempt bundle intentId = none) :
    Unattempted bundle intentId := by
  intro record hrecord
  cases hfind : bundle.rig.reverse.find? (·.switchesFor intentId) with
  | none =>
    have hnone := List.find?_eq_none.1 hfind record (List.mem_reverse.2 hrecord)
    simpa using hnone
  | some switchRecord =>
    have hswitches := List.find?_some hfind
    unfold committedAttempt at h
    rw [hfind] at h
    cases hinvocation : switchRecord.antennaControl with
    | none => simp [RigRecordV3.switchesFor, hinvocation] at hswitches
    | some invocation => simp [hinvocation] at h

theorem attentive_workerLook (hchronological : Chronological bundle) (unreadable : Bool) :
    Attentive bundle (workerLook controller bundle generation unreadable).1 := by
  have hends : ∀ look ∈ some bundle, EndsBy bundle (priorEnd look) := by
    rintro look ⟨⟩
    exact hchronological
  unfold workerLook
  split
  · exact attentive_stopped
  split
  · exact attentive_stopped
  split
  · exact attentive_stopped
  split
  · exact attentive_stopped
  rename_i intent _
  split
  · exact attentive_stopped
  rename_i hattempt
  have hfresh : ∀ id ∈ some intent.intentId, Unattempted bundle id := by
    rintro id ⟨⟩
    exact unattempted_of_committedAttempt hattempt
  split
  · exact ⟨hends, hfresh, trivial⟩
  · rename_i hprior
    refine ⟨hends, hfresh, ?_⟩
    intro deadline hdeadline
    rw [Option.mem_def.1 hdeadline] at hprior
    exact absurd rfl hprior

theorem attentive_workerWait {look : WorkerLook} (h : Attentive bundle (.waiting look))
    (now : DateTime) : Attentive bundle (workerWait controller generation look now) := by
  unfold workerWait
  split_ifs with hbefore
  · exact attentive_stopped
  · exact h
  · refine ⟨h.ends, h.fresh, ?_⟩
    intro deadline hdeadline
    rw [Option.mem_def.1 hdeadline] at hbefore
    exact ⟨now, rfl, by simpa using hbefore⟩

/-- A readiness that does not continue leaves the session as it is. -/
theorem continueReadiness_notApplicable {fault : CommitFault} {reread : Option SessionErrorPayload}
    {now : DateTime} (h : continueReadiness errorText storageErrorPayload limits E build
      paths bundle
      fault reread now = (.ok .notApplicable, next)) : next = bundle := by
  unfold continueReadiness at h
  split at h
  · dsimp only at h
    split at h <;> cases h
  · exact (Prod.mk.inj h).2.symm

theorem attentive_workerContinue {look : WorkerLook} {readAt : Option DateTime}
    (h : Attentive bundle (.preparing .passed look readAt)) (fault : CommitFault)
    (reread : Option SessionErrorPayload) (now : DateTime) :
    let turn := workerContinue errorText storageErrorPayload limits E build paths controller bundle
      generation look readAt fault reread now
    Attentive turn.bundle turn.phase := by
  unfold workerContinue
  dsimp only
  split
  · rename_i hdecision
    obtain rfl := continueReadiness_notApplicable hdecision
    exact ⟨h.ends, h.fresh, h.waited⟩
  · exact attentive_looking
  · exact attentive_stopped

theorem attentive_workerRecheck {look : WorkerLook} {readAt : Option DateTime}
    (h : Attentive bundle (.preparing .compared look readAt)) (unreadable : Bool) :
    Attentive bundle (workerRecheck bundle look readAt unreadable) := by
  unfold workerRecheck
  split
  · exact ⟨h.ends, h.fresh, h.waited⟩
  · exact attentive_looking

theorem attentive_workerAuthorize {look : WorkerLook} {readAt : Option DateTime}
    (h : Attentive bundle (.preparing .checked look readAt))
    (catalog : Except SessionErrorPayload (List ControllerProfile)) :
    Attentive bundle (workerAuthorize controller generation look readAt catalog).1 := by
  unfold workerAuthorize
  split
  · exact attentive_stopped
  · exact ⟨h.ends, h.fresh, h.waited⟩

theorem attentive_workerBegin {look : WorkerLook} {readAt : Option DateTime}
    {profile : ControllerProfile} {context : AntennaControlContextV5}
    (h : Attentive bundle (.authorized look readAt profile context)) (mutationId : String) :
    Attentive bundle
      (workerBegin controller generation look readAt profile context mutationId).1 := by
  unfold workerBegin
  split
  · exact attentive_stopped
  · exact ⟨h.ends, h.fresh, h.waited⟩

/-- An attempt that starts nothing more was not waiting to start more. -/
theorem Execution.pending_of_next {profile : ControllerProfile} {context : AntennaControlContextV5}
    {execution : Execution} {step : ExecutionStep}
    (h : (execution.next profile context step).pending profile = true) :
    execution.pending profile = true := by
  cases execution with
  | begun => rfl
  | switching =>
    cases step with
    | start startedAt => exact h
    | finish result =>
      simp only [next] at h
      split_ifs at h with hnext
      · simp only [Bool.and_eq_true] at hnext
        exact hnext.2
      · cases h
  | switched switch => rfl
  | verifying switch => cases step <;> cases h
  | ended switch verification => cases step <;> cases h

theorem Execution.begun_of_next {profile : ControllerProfile} {context : AntennaControlContextV5}
    {execution : Execution} {step : ExecutionStep}
    (h : execution.next profile context step = .begun) : execution = .begun := by
  cases execution <;> cases step <;> simp only [next] at h <;> try rfl
  all_goals first | cases h | (split_ifs at h)

theorem attentive_command {attempt : ControllerAttempt} {readAt : Option DateTime}
    {execution : Execution} (h : Attentive bundle (.executing attempt readAt execution))
    (step : ExecutionStep) : Attentive bundle
      (.executing attempt readAt (execution.next attempt.profile attempt.context step)) := by
  refine ⟨?_, ?_, h.waited⟩
  · intro look hlook
    simp only [WorkerPhase.mayStart?] at hlook
    split at hlook
    · rename_i hpending
      apply h.ends look
      simpa only [WorkerPhase.mayStart?, Execution.pending_of_next hpending, if_true] using hlook
    · cases hlook
  · intro id hid
    cases hnext : execution.next attempt.profile attempt.context step with
    | begun =>
      rw [hnext] at hid
      rw [Execution.begun_of_next hnext] at h
      exact h.fresh id hid
    | switching => rw [hnext] at hid; cases hid
    | switched switch => rw [hnext] at hid; cases hid
    | verifying switch => rw [hnext] at hid; cases hid
    | ended switch verification => rw [hnext] at hid; cases hid

/-- What a worker leaves it may rely on. -/
theorem attentive_workerTurn (hchronological : Chronological run.bundle)
    (h : Attentive run.bundle worker.phase) (own : WorkerStep) :
    let turn := run.workerTurn errorText storageErrorPayload limits E build paths worker own
    Attentive turn.bundle turn.phase := by
  obtain ⟨generation, phase⟩ := worker
  dsimp only at h ⊢
  unfold ControlRun.workerTurn
  dsimp only
  split
  · exact attentive_workerLook hchronological _
  · exact attentive_workerWait h _
  · split
    · exact h
    · exact attentive_workerContinue h _ _ _
  · exact attentive_workerRecheck h _
  · exact attentive_workerAuthorize h _
  · exact attentive_workerBegin h _
  · exact attentive_command h _
  · exact attentive_stopped
  · unfold workerJudge
    dsimp only
    split
    · exact attentive_stopped
    · exact attentive_of_idle rfl rfl trivial
  · split
    · exact h
    · exact attentive_of_idle rfl rfl trivial
  · unfold workerSettle
    dsimp only
    split
    · exact attentive_stopped
    · repeat' split
      all_goals first | exact attentive_stopped | exact attentive_looking
  · exact h

/-- A command that is started was pending. -/
theorem Execution.pending_of_starts {profile : ControllerProfile} {execution : Execution}
    {step : ExecutionStep} {start : AntennaControlRoleV5 × DateTime}
    (h : execution.starts? step = some start) :
    execution.pending profile = true ∧ step = .start start.2 ∧
      (start.1 = .switch → execution = .begun) := by
  cases execution <;> cases step <;> simp only [starts?] at h <;> cases h
  · exact ⟨rfl, rfl, fun _ => rfl⟩
  · refine ⟨rfl, rfl, ?_⟩
    intro hrole
    cases hrole

/-- A command after the end of all transmissions is inside none. -/
theorem EndsBy.outside {deadline : Option DateTime} (h : EndsBy run.bundle deadline)
    {startedAt : DateTime} (hclock : ∀ time ∈ deadline, time ≤ startedAt) :
    ∀ cycle ∈ run.cycles, startedAt < cycle.window.startsAt ∨
      cycle.window.transmissionEndsAt ≤ startedAt := by
  intro cycle hcycle
  obtain ⟨time, htime, hends⟩ := h cycle hcycle
  exact .inr (hends.trans (hclock time htime))

theorem respects_workerCommand {attempt : ControllerAttempt} {readAt : Option DateTime}
    {execution : Execution} {step : ExecutionStep}
    {start : AntennaControlRoleV5 × DateTime}
    (h : Attentive run.bundle (.executing attempt readAt execution))
    (hstarts : execution.starts? step = some start)
    (hclock : ∀ time ∈ readAt, time ≤ start.2) :
    Respects run (.command true start.1 attempt.intent.intentId start.2) := by
  obtain ⟨hpending, -, hswitch⟩ := @Execution.pending_of_starts attempt.profile _ _ _ hstarts
  have hends : EndsBy run.bundle (priorEnd attempt.bundle) := by
    apply h.ends attempt.bundle
    simp [WorkerPhase.mayStart?, hpending]
  refine ⟨hends.outside ?_, ?_⟩
  · intro deadline hdeadline
    obtain ⟨time, htime, hle⟩ := h.waited deadline hdeadline
    exact hle.trans (hclock time htime)
  · intro _ hrole
    obtain rfl := hswitch hrole
    exact h.fresh _ rfl

theorem nextIntent_of_continuation {now : DateTime} {mutation : LiveEventMutationV3}
    (h : continuationDecision E.sha256Hex bundle now = .ok (.append mutation)) :
    bundle.sessionState.lifecycle = .running ∧
      (nextIntent bundle).map (·.intentId) = mutation.event.slotId := by
  unfold continuationDecision at h
  split at h
  · cases h
  · rename_i hrunning
    dsimp only at h
    split at h
    · rename_i hnext _
      split at h
      · cases h
      · simp only [bind_eq_ok, orError_eq_ok] at h
        obtain ⟨cycle, -, h⟩ := h
        cases h
        refine ⟨by simpa using (not_or.1 hrunning).2, ?_⟩
        rw [hnext]
        rfl
    · cases h

theorem nextIntent_of_attemptMutation {attempt : ControllerAttempt} {review : Bool}
    {ids : AttemptIds} {switch : AntennaControlInvocationV5}
    {verification : Option AntennaControlInvocationV5} {mutation : LiveAntennaControlMutationV5}
    (h : attemptMutation bundle attempt review ids switch verification = .ok mutation)
    (harmed : mutation.armedEvent.isSome = true) :
    bundle.sessionState.lifecycle = .running ∧
      (nextIntent bundle).map (·.intentId) = some attempt.intent.intentId := by
  unfold attemptMutation at h
  simp only [bind_eq_ok, failIf_eq_ok] at h
  obtain ⟨-, hrunning, armedEvent, hevent, hmutation⟩ := h
  cases hmutation
  refine ⟨by simpa using hrunning, ?_⟩
  cases hintent : armedIntent? bundle attempt.intent.intentId review switch verification with
  | none =>
    rw [hintent] at hevent
    cases hevent
    cases harmed
  | some found =>
    unfold armedIntent? at hintent
    simp only [Option.bind_eq_bind, Option.bind_eq_some_iff] at hintent
    obtain ⟨invocation, -, intent, hnext, _, hguard, -⟩ := hintent
    simp only [Option.guard_eq_some', Bool.and_eq_true, decide_eq_true_eq] at hguard
    rw [hnext, Option.map_some, hguard.1.2]

theorem respects_of_mem_workerEffects {own : WorkerStep} {effect : ControlEffect}
    (h : Attentive run.bundle phase)
    (hclock : ∀ attempt readAt execution startedAt, phase = .executing attempt readAt execution →
      own = .command (.start startedAt) → ∀ time ∈ readAt, time ≤ startedAt)
    (heffect : effect ∈ run.workerEffects E phase own) : Respects run effect := by
  unfold ControlRun.workerEffects at heffect
  split at heffect
  · rename_i attempt readAt execution step
    rw [Option.mem_toList, Option.map_eq_some_iff] at heffect
    obtain ⟨start, hstarts, rfl⟩ := heffect
    obtain ⟨-, hstep, -⟩ := @Execution.pending_of_starts attempt.profile _ _ _ hstarts
    exact respects_workerCommand h hstarts
      (hclock attempt readAt execution start.2 rfl (by rw [hstep]))
  · split at heffect
    · rename_i hdecision
      rw [Option.mem_toList, Option.map_eq_some_iff] at heffect
      obtain ⟨intentId, hslot, rfl⟩ := heffect
      obtain ⟨hrunning, hnext⟩ := nextIntent_of_continuation hdecision
      exact ⟨hrunning, hnext.trans hslot⟩
    · cases heffect
  · split at heffect
    · rename_i hmutation
      split at heffect
      · rename_i harmed
        obtain rfl := List.mem_singleton.1 heffect
        exact nextIntent_of_attemptMutation hmutation harmed
      · cases heffect
    · cases heffect
  · cases heffect

/-- Every effect of an undisturbed step respects the session it finds. -/
theorem Watchful.respects (h : Watchful run) (hundisturbed : Undisturbed run after step)
    {effect : ControlEffect} (heffect : effect ∈ run.effects E step) : Respects run effect := by
  unfold ControlRun.effects at heffect
  split at heffect
  · rename_i own
    rw [Option.mem_toList, Option.bind_eq_some_iff] at heffect
    obtain ⟨operator, hoperator, heffect⟩ := heffect
    rw [Option.map_eq_some_iff] at heffect
    obtain ⟨start, hstarts, rfl⟩ := heffect
    obtain ⟨hpending, hstep, -⟩ :=
      @Execution.pending_of_starts operator.attempt.profile _ _ _ hstarts
    have hclock : operator.readAt ≤ start.2 := by
      refine hundisturbed.clock operator.readAt ?_ start.2 ?_
      · simp [ControlRun.passedAt?, hoperator]
      · rw [hstep]
        rfl
    refine ⟨(h.operator operator hoperator hpending).outside ?_, fun hauto => nomatch hauto⟩
    rintro time ⟨⟩
    exact hclock
  · rename_i index own
    split at heffect
    · cases heffect
    · rename_i worker hworker
      refine respects_of_mem_workerEffects (h.workers worker (List.mem_of_getElem? hworker)) ?_
        heffect
      rintro attempt readAt execution startedAt hphase rfl time htime
      obtain ⟨generation, phase⟩ := worker
      obtain rfl : phase = .executing attempt readAt execution := hphase
      refine hundisturbed.clock time ?_ startedAt rfl
      rw [ControlRun.passedAt?, hworker]
      exact htime
  · cases heffect

theorem Attentive.carried {index : ℕ} (h : Attentive run.bundle worker.phase)
    (hundisturbed : Undisturbed run after step) (hworker : run.workers[index]? = some worker)
    (hother : step.actor? ≠ some index) : Attentive after.bundle worker.phase := by
  have hbystander := mem_bystanders hworker hother
  refine ⟨?_, ?_, h.waited⟩
  · intro look hlook
    exact (h.ends look hlook).mono
      (hundisturbed.cycles worker hbystander (Option.isSome_of_mem hlook))
  · intro intentId hid
    exact hundisturbed.attempts worker hbystander intentId hid (h.fresh intentId hid)

/-- A step that leaves the workers alone leaves them attentive. -/
theorem Watchful.workers_carried (h : Watchful run) (hundisturbed : Undisturbed run after step)
    (hactor : step.actor? = none) {worker : Worker}
    (hworker : worker ∈ run.workers) : Attentive after.bundle worker.phase := by
  obtain ⟨index, hindex⟩ := List.getElem?_of_mem hworker
  exact (h.workers worker hworker).carried hundisturbed hindex (hactor ▸ nofun)

theorem workerTurn_bundle (hbusy : run.operator.isSome = true) (own : WorkerStep) :
    (run.workerTurn errorText storageErrorPayload limits E build paths worker own).bundle =
      run.bundle := by
  unfold ControlRun.workerTurn
  dsimp only
  split <;> try rfl
  · rw [if_pos hbusy]
  · rw [if_pos hbusy]

theorem ensurePriorTransmissionComplete_ok {now : DateTime} {u : Unit}
    (hchronological : Chronological bundle)
    (h : ensurePriorTransmissionComplete bundle now = .ok u) : EndsBy bundle (some now) := by
  unfold ensurePriorTransmissionComplete at h
  rw [failIf_eq_ok] at h
  intro cycle hcycle
  obtain ⟨time, htime, hends⟩ := hchronological cycle hcycle
  rw [Option.mem_def.1 htime] at h
  exact ⟨now, rfl, hends.trans (by simpa using h)⟩

theorem admitController_endsBy {attached : Option RuntimeAssociation} {call : ControllerCall}
    {intent : WsprCycleIntentV3} {association : RuntimeAssociation}
    (hchronological : Chronological bundle)
    (h : admitController bundle attached call = .ok (some (intent, association))) :
    EndsBy bundle (some call.now) := by
  unfold admitController at h
  simp only [bind_eq_ok] at h
  obtain ⟨_, -, _, -, _, -, h⟩ := h
  split at h
  · cases h
  · simp only [bind_eq_ok] at h
    obtain ⟨_, -, _, hprior, -⟩ := h
    exact ensurePriorTransmissionComplete_ok hchronological hprior

theorem Watchful.runController (h : Watchful run) (call : ControllerCall) :
    ∀ operator ∈ (run.runController call).operator,
      operator.execution.pending operator.attempt.profile = true →
        EndsBy (run.runController call).bundle (some operator.readAt) := by
  unfold ControlRun.runController
  split
  · exact h.operator
  split
  · rename_i hadmit _
    split
    · exact h.operator
    split
    · exact h.operator
    unfold ControlRun.beginController
    dsimp only
    split
    · exact h.operator
    · rintro operator ⟨⟩ _
      exact admitController_endsBy h.chronological hadmit
  · exact h.operator

theorem Watchful.operator_step (h : Watchful run) (step : ControlStep) :
    let after := run.step errorText storageErrorPayload limits E build paths step
    ∀ operator ∈ after.operator, operator.execution.pending operator.attempt.profile = true →
      EndsBy after.bundle (some operator.readAt) := by
  intro after
  cases step with
  | schedule =>
    simp only [after, ControlRun.step, ControlRun.schedule]
    split
    · exact h.operator
    · split <;> exact h.operator
  | worker index own =>
    simp only [after, ControlRun.step, ControlRun.stepWorker]
    split
    · exact h.operator
    · intro operator hoperator hpending
      have hbusy : run.operator.isSome = true := Option.isSome_of_mem hoperator
      dsimp only
      rw [workerTurn_bundle hbusy]
      exact h.operator operator hoperator hpending
  | runController call => exact h.runController call
  | operatorCommand own =>
    intro operator hoperator hpending
    simp only [after, ControlRun.step, ControlRun.operatorCommand, Option.mem_def,
      Option.map_eq_some_iff] at hoperator
    obtain ⟨before, hbefore, rfl⟩ := hoperator
    exact h.operator before hbefore (Execution.pending_of_next hpending)
  | operatorRefuse role detail =>
    simp only [after, ControlRun.step, ControlRun.operatorRefuse]
    split
    · exact h.operator
    · rintro operator ⟨⟩
  | operatorCommit ids fault project now =>
    simp only [after, ControlRun.step, ControlRun.operatorCommit]
    split
    · exact h.operator
    · split
      · split
        · rintro operator ⟨⟩
        · split <;> rintro operator ⟨⟩
      · exact h.operator
  | mutate mutation fault now =>
    simp only [after, ControlRun.step]
    split
    · exact h.operator
    · rename_i hfree
      intro operator hoperator
      exact absurd (Option.isSome_of_mem hoperator) hfree
  | continueReadiness fault now =>
    simp only [after, ControlRun.step]
    split
    · exact h.operator
    · rename_i hfree
      intro operator hoperator
      exact absurd (Option.isSome_of_mem hoperator) hfree
  | intake adapterRecords observations sessionState => exact h.operator
  | attach profileId profileRevision targets armed => exact h.operator
  | revoke => exact h.operator
  | requestAbort => exact h.operator

theorem workers_of_other (hactor : step.actor? = none) (hschedule : step ≠ .schedule) :
    (run.step errorText storageErrorPayload limits E build paths step).workers = run.workers := by
  cases step with
  | schedule => exact absurd rfl hschedule
  | worker index own => cases hactor
  | runController call =>
    simp only [ControlRun.step, ControlRun.runController, ControlRun.beginController]
    repeat' split
    all_goals rfl
  | operatorRefuse role detail =>
    simp only [ControlRun.step, ControlRun.operatorRefuse]
    split <;> rfl
  | operatorCommit ids fault project now =>
    simp only [ControlRun.step, ControlRun.operatorCommit]
    repeat' split
    all_goals rfl
  | mutate mutation fault now =>
    simp only [ControlRun.step]
    split <;> rfl
  | continueReadiness fault now =>
    simp only [ControlRun.step]
    split <;> rfl
  | operatorCommand own => rfl
  | intake adapterRecords observations sessionState => rfl
  | attach profileId profileRevision targets armed => rfl
  | revoke => rfl
  | requestAbort => rfl

/-- The worker that acts and the others. -/
theorem Watchful.workers_worker {index : ℕ} {own : WorkerStep} (h : Watchful run)
    (hundisturbed : Undisturbed run
      (run.step errorText storageErrorPayload limits E build paths (.worker index own))
      (.worker index own)) :
    ∀ worker ∈ (run.stepWorker errorText storageErrorPayload limits E build paths index
      own).workers,
      Attentive (run.stepWorker errorText storageErrorPayload limits E build paths index own).bundle
        worker.phase := by
  cases hacting : run.workers[index]? with
  | none =>
    simp only [ControlRun.stepWorker, hacting]
    exact h.workers
  | some acting =>
    intro worker hworker
    obtain ⟨other, hother⟩ := List.getElem?_of_mem hworker
    by_cases hsame : other = index
    · subst hsame
      have hturn : Attentive
          (run.workerTurn errorText storageErrorPayload limits E build paths acting own).bundle
          (run.workerTurn errorText storageErrorPayload limits E build paths acting own).phase :=
        attentive_workerTurn h.chronological (h.workers acting (List.mem_of_getElem? hacting)) own
      simp only [ControlRun.stepWorker, hacting] at hother ⊢
      have hlength := (List.getElem?_eq_some_iff.1 hacting).1
      rw [List.getElem?_set_self hlength] at hother
      cases hother
      exact hturn
    · have hbefore : run.workers[other]? = some worker := by
        simp only [ControlRun.stepWorker, hacting] at hother
        rwa [List.getElem?_set_ne (Ne.symm hsame)] at hother
      refine (h.workers worker (List.mem_of_getElem? hbefore)).carried hundisturbed hbefore ?_
      rintro ⟨⟩
      exact hsame rfl

/-- The workers after a step are the ones before it, the one that acted, or a new one. -/
theorem Watchful.workers_step (h : Watchful run)
    (hundisturbed : Undisturbed run
      (run.step errorText storageErrorPayload limits E build paths step) step) :
    ∀ worker ∈ (run.step errorText storageErrorPayload limits E build paths step).workers,
      Attentive (run.step errorText storageErrorPayload limits E build paths step).bundle
        worker.phase := by
  by_cases hworker : ∃ index own, step = .worker index own
  · obtain ⟨index, own, rfl⟩ := hworker
    exact h.workers_worker hundisturbed
  have hactor : step.actor? = none := by
    cases step with
    | worker index own => exact absurd ⟨index, own, rfl⟩ hworker
    | _ => rfl
  intro worker hmem
  by_cases hschedule : step = .schedule
  · subst hschedule
    have hmem' := hmem
    simp only [ControlRun.step, ControlRun.schedule] at hmem'
    split at hmem'
    · exact h.workers_carried hundisturbed hactor hmem'
    · split at hmem'
      · exact h.workers_carried hundisturbed hactor hmem'
      · rcases List.mem_append.1 hmem' with hold | hnew
        · exact h.workers_carried hundisturbed hactor hold
        · obtain rfl := List.mem_singleton.1 hnew
          exact attentive_looking
  · rw [workers_of_other hactor hschedule] at hmem
    exact h.workers_carried hundisturbed hactor hmem

theorem Watchful.keeps (h : Watchful run) (hundisturbed : Undisturbed run
    (run.step errorText storageErrorPayload limits E build paths step) step) :
    Watchful (run.step errorText storageErrorPayload limits E build paths step) where
  chronological := hundisturbed.chronological
  workers := h.workers_step hundisturbed
  operator := h.operator_step step

variable (errorText storageErrorPayload limits E build paths) in
/-- Every step of the run is undisturbed. -/
def UndisturbedSteps (opened : ControlRun) : List ControlStep → Prop :=
  Throughout fun earlier step =>
    let before := opened.steps errorText storageErrorPayload limits E build paths earlier
    Undisturbed before (before.step errorText storageErrorPayload limits E build paths step) step

theorem watchful_steps {opened : ControlRun} (h : Watchful opened) {steps : List ControlStep}
    (hundisturbed :
      UndisturbedSteps errorText storageErrorPayload limits E build paths opened steps) :
    Watchful (opened.steps errorText storageErrorPayload limits E build paths steps) := by
  induction steps using List.reverseRecOn with
  | nil => exact h
  | append_singleton steps step ih =>
    obtain ⟨hearlier, hstep⟩ := throughout_concat.1 hundisturbed
    rw [ControlRun.steps, List.foldl_append]
    exact (ih hearlier).keeps hstep

theorem watchful_opened (h : Chronological bundle) (controller : AntennaControllerState) :
    Watchful { bundle, controller } where
  chronological := h
  workers := by simp
  operator := by simp

end

/-- In an undisturbed run of a session whose cycles are in order, every command and every
armed event of the controller respects the radio and the operator. -/
theorem controlRun_respects (errorText : LivePersistenceError → String)
    (storageErrorPayload : BundleStoreError → SessionErrorPayload)
    (limits : BundleResourceProfile) (E : Env) (build : Option RuntimeContextV6)
    (paths : ResolvedBundlePathsV2) (bundle : BundleV3Contents)
    (controller : AntennaControllerState) (steps : List ControlStep)
    (hchronological : Chronological bundle)
    (hundisturbed : UndisturbedSteps errorText storageErrorPayload limits E build paths
      { bundle, controller } steps) :
    Throughout (fun earlier step =>
      let run := ControlRun.steps errorText storageErrorPayload limits E build paths
        { bundle, controller } earlier
      ∀ effect ∈ run.effects E step, Respects run effect) steps := by
  intro earlier step later hsplit run effect heffect
  have hearlier : UndisturbedSteps errorText storageErrorPayload limits E build paths
      { bundle, controller } earlier := by
    intro before entry after heq
    exact hundisturbed before entry (after ++ step :: later) (by simp [hsplit, heq])
  have hwatchful := watchful_steps (watchful_opened hchronological controller) hearlier
  exact hwatchful.respects (hundisturbed earlier step later hsplit) heffect

namespace Scenario

/-- A cycle on each antenna, switched and verified without a review. -/
def automaticSession : BundleV3Contents :=
  let session := running [cycleIntent "c1" 1 "A", cycleIntent "c2" 2 "B"] [startedEvent]
  { session with schedule := { session.schedule with
      antennaControl := some (.commandControlled .automatic false) } }

def relayProfile : ControllerProfile := ⟨"p1", "Relay", "r1", true⟩

def armedController : AntennaControllerState where
  generation := 1
  attached := some ⟨"p1", "r1", [("A", "relay-a"), ("B", "relay-b")], true, 1⟩

def controlled (steps : List ControlStep) : ControlRun :=
  ControlRun.steps plainText plainPayload localStandardV1 (env unknown) none session.paths
    { bundle := automaticSession, controller := armedController } steps

def exitZero (startedAt completedAt : ℕ) : ProcessResult where
  command := ⟨"relay", [], "relay", []⟩
  startedAt := noon startedAt
  completedAt := noon completedAt
  disposition := .exit 0
  stdout := ⟨.utf8, "", false⟩
  stderr := ⟨.utf8, "", false⟩

def switchByHand : ControllerCall where
  intentId := "c2"
  expectedRevision := 3
  actionToken := "token"
  now := noon 210
  workerSeen := false
  catalog := .ok [relayProfile]
  expanded := .ok ()
  authorized := .ok ()

/-- An attempt of the worker that switches, verifies and arms. -/
def attemptSteps (mutationId : String) (seconds : ℕ) : List ControlStep :=
  [.continue .none none (noon seconds), .recheck false, .authorize (.ok [relayProfile]),
    .begin mutationId, .command (.start (noon (seconds + 1))),
    .command (.finish (exitZero (seconds + 1) (seconds + 2))),
    .command (.start (noon (seconds + 3))),
    .command (.finish (exitZero (seconds + 3) (seconds + 4))), .judge,
    .persist ⟨mutationId ++ "-switch", mutationId ++ "-verify", mutationId ++ "-event"⟩ .none none
      (noon (seconds + 5)), .settle].map (.worker 0)

/-- The worker arms the first cycle and, once it is over, the second. Meanwhile the operator
takes a note and wants the controller, which the transmission refuses. -/
def twoAttempts : List ControlStep :=
  [.schedule, .worker 0 (.look false)] ++ attemptSteps "attempt-1" 100 ++
    [.worker 0 (.look false), .worker 0 (.wait (noon 200)),
      .mutate ⟨2, "note", runEvent "note" 205 none (.noteAdded "swr high")⟩ .none (noon 205),
      .runController switchByHand, .worker 0 (.wait (noon 240))] ++ attemptSteps "attempt-2" 240

/-- Both cycles are armed by the worker, each outside the transmission of the other. -/
theorem twoAttempts_respects :
    (controlled twoAttempts).cycles.map (·.intentId) = ["c1", "c2"] ∧
      Throughout (fun earlier step =>
        let run := controlled earlier
        ∀ effect ∈ run.effects (env unknown) step, Respects run effect) twoAttempts := by
  constructor
  · decide +kernel
  · apply controlRun_respects plainText plainPayload localStandardV1 (env unknown) none
      session.paths automaticSession armedController twoAttempts
    · decide +kernel
    · unfold UndisturbedSteps
      decide +kernel

/-- The worker's switch runs when the operator reports the antenna ready, and it comes back
after the cycle has begun. -/
def readyMeanwhile : List ControlStep :=
  [.schedule, .worker 0 (.look false), .worker 0 (.continue .none none (noon 100)),
    .worker 0 (.recheck false), .worker 0 (.authorize (.ok [relayProfile])),
    .worker 0 (.begin "attempt-1"), .worker 0 (.command (.start (noon 105))),
    .mutate ⟨1, "e1", armedEvent "e1" "c1" "A" 121⟩ .none (noon 110),
    .worker 0 (.command (.finish (exitZero 105 122)))]

/-- The verification command is started two seconds into the transmission. -/
theorem readyMeanwhile_verified :
    ¬ Throughout (fun earlier step =>
      let run := controlled earlier
      ∀ effect ∈ run.effects (env unknown) step, Respects run effect)
      (readyMeanwhile ++ [.worker 0 (.command (.start (noon 123)))]) := by
  intro h
  have hstart : ControlEffect.command true .verification "c1" (noon 123) ∈
      (controlled readyMeanwhile).effects (env unknown)
        (.worker 0 (.command (.start (noon 123)))) := by
    decide
  have hinside : ∃ cycle ∈ (controlled readyMeanwhile).cycles,
      ¬ (noon 123 < cycle.window.startsAt ∨ cycle.window.transmissionEndsAt ≤ noon 123) := by
    decide +kernel
  obtain ⟨cycle, hcycle, hinside⟩ := hinside
  exact hinside (((throughout_concat.1 h).2 _ hstart).1 cycle hcycle)

end Scenario

end AntennaBench
