import AntennaBench.Controller.Automation

/-!
# Runs of the controller

One open session with any number of automatic workers, of which all but one have lost their
authority, the controller the operator starts, which keeps the foreground, and every other
party that commits: the operator's actions, the continued readiness and the intake of reports.
-/

namespace AntennaBench

structure Worker where
  generation : ℕ
  phase : WorkerPhase

structure OperatorRun where
  attempt : ControllerAttempt
  /-- The clock at which the last transmission was found to be over. -/
  readAt : DateTime
  execution : Execution

/-- The checkpoint of the session, the controller state and whoever is under way. -/
structure ControlRun where
  bundle : BundleV3Contents
  controller : AntennaControllerState := {}
  workers : List Worker := []
  operator : Option OperatorRun := none

/-- `run_active_session_antenna_controller`: the request, the clock, the worker flag as it was
read before the foreground, the local catalog, and what the expansion of the commands and the
action token answer. -/
structure ControllerCall where
  intentId : String
  expectedRevision : ℕ
  actionToken : String
  now : DateTime
  workerSeen : Bool
  catalog : Except SessionErrorPayload (List ControllerProfile)
  expanded : Except SessionErrorPayload Unit
  authorized : Except SessionErrorPayload Unit

inductive WorkerStep where
  | look (unreadable : Bool)
  | wait (now : DateTime)
  | continue (fault : CommitFault) (reread : Option SessionErrorPayload) (now : DateTime)
  | recheck (unreadable : Bool)
  | authorize (catalog : Except SessionErrorPayload (List ControllerProfile))
  | begin (mutationId : String)
  | command (step : ExecutionStep)
  | refuse (detail : String)
  | judge
  | persist (ids : AttemptIds) (fault : CommitFault) (reread : Option SessionErrorPayload)
      (now : DateTime)
  | settle

inductive ControlStep where
  | schedule
  | worker (index : ℕ) (step : WorkerStep)
  | runController (call : ControllerCall)
  | operatorCommand (step : ExecutionStep)
  | operatorRefuse (role : AntennaControlRoleV5) (detail : String)
  | operatorCommit (ids : AttemptIds) (fault : CommitFault) (project : Option SessionErrorPayload)
      (now : DateTime)
  /-- An action of the operator: its event is appended in the foreground. -/
  | mutate (mutation : LiveEventMutationV3) (fault : CommitFault) (now : DateTime)
  /-- The coordinator of the conductor continues a readiness. -/
  | continueReadiness (fault : CommitFault) (now : DateTime)
  /-- Another adapter commits; it needs no foreground. -/
  | intake (adapterRecords : List AdapterRecordV2) (observations : List ObservationRecordV2)
      (sessionState : SessionStateV2)
  | attach (profileId profileRevision : String) (targets : List (String × String)) (armed : Bool)
  | revoke
  | requestAbort

/-- What the rules of the controller are about. -/
inductive ControlEffect where
  /-- A command is started. -/
  | command (automatic : Bool) (role : AntennaControlRoleV5) (intentId : String)
      (startedAt : DateTime)
  /-- The automation appends an armed event. -/
  | arms (intentId : String)
  deriving DecidableEq

def automationPreparing : SessionErrorPayload where
  kind := .busy
  message := "Automatic antenna control is already preparing this intention."
  detail := "wait for the current Rust-owned controller process to finish"

def controlRequiresRun : SessionErrorPayload where
  kind := .conflict
  message := "Antenna control is available only for an active schema-v5 session."
  detail := "the active session is not a running schema-v5 session"

def controlNotPlanned : SessionErrorPayload where
  kind := .conflict
  message := "This session was not planned for command-controlled antenna assistance."
  detail := "the portable antenna-control policy is manual"

def controlStale (expected actual : ℕ) : SessionErrorPayload where
  kind := .staleRevision
  message := "The session changed. Refresh Active Run before switching."
  detail := "expected checkpoint revision " ++ toString expected ++ ", actual revision " ++
    toString actual

def noPendingIntent : SessionErrorPayload where
  kind := .conflict
  message := "There is no pending antenna intention to switch."
  detail := "all cycle intentions are armed or skipped"

def pendingIntentChanged (requested current : String) : SessionErrorPayload where
  kind := .conflict
  message := "The pending antenna intention changed. Refresh before switching."
  detail := "requested intention " ++ debugString requested ++ ", current intention " ++
    debugString current

def controllerNotArmed : SessionErrorPayload where
  kind := .conflict
  message := "Attach and arm a local controller before switching."
  detail := "no armed local controller is associated with this active session"

def controllerChanged : SessionErrorPayload where
  kind := .conflict
  message := "The attached controller changed. Review and arm it again."
  detail := "the pinned local controller revision is stale"

def noControllerTarget (antennaLabel : String) : SessionErrorPayload where
  kind := .validation
  message := "The pending antenna has no local controller target."
  detail := "missing target for " ++ debugString antennaLabel

def intentNotExpandable (detail : String) : SessionErrorPayload where
  kind := .validation
  message := "The pending antenna intention cannot be expanded safely."
  detail := detail

def commandNotExpandable (role : AntennaControlRoleV5) (detail : String) :
    SessionErrorPayload where
  kind := .validation
  message :=
    match role with
    | .switch => "The switch command could not be expanded."
    | .verification => "The verification command could not be expanded."
  detail := detail

/-- `committed_outcome(..).is_some()`. -/
def hasCommittedOutcome (bundle : BundleV3Contents) (mutationId intentId : String) : Bool :=
  ((bundle.rig.filter (·.recordMeta.mutation.mutationId = mutationId)).filterMap
    (·.antennaControl)).find? (·.role = .switch) |>.any (·.context.intentId = intentId)

/-- What the operator's controller checks of the session and of its attachment; `none` when its
attempt is committed already. -/
def admitController (bundle : BundleV3Contents) (attached : Option RuntimeAssociation)
    (call : ControllerCall) :
    Except SessionErrorPayload (Option (WsprCycleIntentV3 × RuntimeAssociation)) := do
  failIf call.workerSeen automationPreparing
  failIf (decide (bundle.manifest.schemaVersion < schemaVersionV5 ∨
    bundle.sessionState.lifecycle ≠ .running)) controlRequiresRun
  failIf (!bundle.schedule.antennaControl.any (· ≠ .manual)) controlNotPlanned
  if hasCommittedOutcome bundle ("controller-attempt-" ++ call.actionToken) call.intentId then
    return none
  failIf (decide (call.expectedRevision ≠ bundle.sessionState.revision))
    (controlStale call.expectedRevision bundle.sessionState.revision)
  ensurePriorTransmissionComplete bundle call.now
  let intent ← orError (nextIntent bundle) noPendingIntent
  failIf (decide (intent.intentId ≠ call.intentId))
    (pendingIntentChanged call.intentId intent.intentId)
  let association ← orError (attached.filter (·.armed)) controllerNotArmed
  return some (intent, association)

/-- The profile a controller was attached with, as the catalog has it now. -/
def pinnedProfile (association : RuntimeAssociation) (profiles : List ControllerProfile) :
    Except SessionErrorPayload ControllerProfile :=
  orError (profiles.find? fun profile => profile.profileId = association.profileId &&
    profile.revision = association.profileRevision) controllerChanged

/-- The context of the commands, once both can be expanded and the action token is taken. -/
def authorizeController (bundle : BundleV3Contents) (association : RuntimeAssociation)
    (intent : WsprCycleIntentV3) (call : ControllerCall) :
    Except SessionErrorPayload AntennaControlContextV5 := do
  let target ← orError (association.targets.lookup intent.antennaLabel)
    (noControllerTarget intent.antennaLabel)
  let context ← (invocationContext bundle intent target).mapError intentNotExpandable
  call.expanded
  call.authorized
  return context

def operatorDetail (switchSuccess : Bool) (verificationSuccess : Option Bool)
    (manualReviewRequired : Bool) : String :=
  if !switchSuccess then
    "Switch did not exit successfully. No verification ran; manual operation remains available."
  else
    match verificationSuccess, manualReviewRequired with
    | some false, _ => "Switch exited successfully, but verification did not. " ++
      "Confirm hardware manually or retry explicitly."
    | some true, false => "Switch and verification exited successfully. " ++
      "Command verification armed the next eligible WSPR cycle."
    | some true, true => "Switch and verification exited successfully. " ++
      "Operator readiness is still required."
    | none, _ => "Switch exited successfully. " ++
      "No verification command is configured; operator readiness is required."

def operatorSummary (attempt : ControllerAttempt) (switch : AntennaControlInvocationV5)
    (verification : Option AntennaControlInvocationV5) : ControllerAttemptSummary :=
  let switchSuccess := switch.disposition.isExitZero
  let verificationSuccess := verification.map (·.disposition.isExitZero)
  ⟨attempt.intent.intentId, switchSuccess, verificationSuccess,
    operatorDetail switchSuccess verificationSuccess attempt.bundle.reviewRequired⟩

namespace ControlRun

section

variable (errorText : LivePersistenceError → String)
  (storageErrorPayload : BundleStoreError → SessionErrorPayload)
  (limits : BundleResourceProfile) (E : Env) (build : Option RuntimeContextV6)
  (paths : ResolvedBundlePathsV2) (run : ControlRun)

def cycles : List ArmedWsprCycleV3 :=
  (projectWsprRunV3 run.bundle.schedule run.bundle.events).cycles

/-- `schedule_automatic_coordinator`. -/
def schedule : ControlRun :=
  if !run.bundle.isAutomaticRun ||
    (transitionPlan run.bundle (nextIntent run.bundle)).canContinue ||
      run.controller.workerRunning then run
  else
    match run.controller.attached.filter (·.armed) with
    | none => { run with controller := { run.controller with automationStatus := .blocked } }
    | some attached =>
      { run with
        controller := { run.controller with workerRunning := true, automationStatus := .waiting }
        workers := run.workers ++ [⟨attached.generation, .looking⟩] }

/-- One part of the loop of a worker; a foreground part waits for the operator's controller. -/
def workerTurn (worker : Worker) (step : WorkerStep) : WorkerTurn :=
  let stay : WorkerTurn := ⟨worker.phase, run.controller, run.bundle⟩
  let turn := fun (next : WorkerPhase × AntennaControllerState) =>
    (⟨next.1, next.2, run.bundle⟩ : WorkerTurn)
  match worker.phase, step with
  | .looking, .look unreadable =>
    turn (workerLook run.controller run.bundle worker.generation unreadable)
  | .waiting look, .wait now =>
    { stay with phase := workerWait run.controller worker.generation look now }
  | .preparing .passed look readAt, .continue fault reread now =>
    if run.operator.isSome then stay
    else workerContinue errorText storageErrorPayload limits E build paths run.controller run.bundle
      worker.generation look readAt fault reread now
  | .preparing .compared look readAt, .recheck unreadable =>
    { stay with phase := workerRecheck run.bundle look readAt unreadable }
  | .preparing .checked look readAt, .authorize catalog =>
    turn (workerAuthorize run.controller worker.generation look readAt catalog)
  | .authorized look readAt profile context, .begin mutationId =>
    turn (workerBegin run.controller worker.generation look readAt profile context mutationId)
  | .executing attempt readAt execution, .command step =>
    { stay with phase :=
        .executing attempt readAt (execution.next attempt.profile attempt.context step) }
  | .executing attempt _ _, .refuse detail =>
    turn (.stopped, workerRefuse run.controller worker.generation attempt detail)
  | .executing attempt _ (.ended switch verification), .judge =>
    turn (workerJudge run.controller worker.generation attempt switch verification)
  | .judged attempt switch verification interrupted, .persist ids fault reread now =>
    if run.operator.isSome then stay
    else
      let (result, bundle) := persistAttempt errorText storageErrorPayload limits E build paths
        run.bundle attempt ids switch verification fault reread now
      ⟨.persisted attempt switch verification interrupted result, run.controller, bundle⟩
  | .persisted attempt switch verification interrupted result, .settle =>
    turn (workerSettle run.controller worker.generation attempt switch verification interrupted
      result)
  | _, _ => stay

def stepWorker (index : ℕ) (step : WorkerStep) : ControlRun :=
  match run.workers[index]? with
  | none => run
  | some worker =>
    let turn := run.workerTurn errorText storageErrorPayload limits E build paths worker step
    { run with
      bundle := turn.bundle
      controller := turn.controller
      workers := run.workers.set index { worker with phase := turn.phase } }

/-- The operator's controller begins its attempt and keeps the foreground. -/
def beginController (call : ControllerCall) (intent : WsprCycleIntentV3)
    (profile : ControllerProfile) (context : AntennaControlContextV5) : ControlRun :=
  let mutationId := "controller-attempt-" ++ call.actionToken
  match run.controller.beginAttempt mutationId with
  | .error _ => run
  | .ok (attemptId, controller) =>
    { run with
      controller
      operator := some {
        attempt := ⟨attemptId, mutationId, run.bundle, intent, profile, context⟩
        readAt := call.now
        execution := .begun } }

/-- The operator's controller up to its first command. A profile that changed since it was
attached revokes the controller. -/
def runController (call : ControllerCall) : ControlRun :=
  match run.operator with
  | some _ => run
  | none =>
    match admitController run.bundle run.controller.attached call, call.catalog with
    | .ok (some (intent, association)), .ok profiles =>
      match pinnedProfile association profiles with
      | .error _ => { run with controller := run.controller.revoke }
      | .ok profile =>
        match authorizeController run.bundle association intent call with
        | .error _ => run
        | .ok context => run.beginController call intent profile context
    | _, _ => run

def operatorCommand (step : ExecutionStep) : ControlRun :=
  { run with operator := run.operator.map fun operator =>
      { operator with execution :=
          operator.execution.next operator.attempt.profile operator.attempt.context step } }

/-- The operator's attempt is settled and the foreground is free again. -/
def releaseOperator (attempt : ControllerAttempt)
    (result : Except SessionErrorPayload AttemptCommit) (bundle : BundleV3Contents) : ControlRun :=
  { run with
    bundle
    controller := run.controller.settleAttempt attempt.attemptId result
    operator := none }

def operatorRefuse (role : AntennaControlRoleV5) (detail : String) : ControlRun :=
  match run.operator with
  | none => run
  | some operator =>
    run.releaseOperator operator.attempt (.error (commandNotExpandable role detail)) run.bundle

def rememberAttempt (summary : ControllerAttemptSummary) : ControlRun :=
  { run with controller := { run.controller with lastAttempt := some summary } }

/-- The commit of the operator's attempt, from the session it began with. -/
def operatorCommit (ids : AttemptIds) (fault : CommitFault) (project : Option SessionErrorPayload)
    (now : DateTime) : ControlRun :=
  match run.operator with
  | none => run
  | some operator =>
    match operator.execution with
    | .ended switch verification =>
      let attempt := operator.attempt
      match operatorArmedEvent attempt attempt.bundle.reviewRequired ids switch verification with
      | .error error => run.releaseOperator attempt (.error error) run.bundle
      | .ok armedEvent =>
        let revision := attempt.bundle.sessionState.revision
        let (answer, bundle) := commitControl limits E build paths fault run.bundle
          ⟨revision, attempt.mutationId,
            attemptRecords attempt.bundle ids switch verification, armedEvent⟩ now
        match answer, project with
        | .error error, _ => run.releaseOperator attempt
            (.error (liveErrorPayload errorText storageErrorPayload error)) bundle
        | .ok (), some error => run.releaseOperator attempt (.error error) bundle
        | .ok (), none =>
          (run.rememberAttempt
            (operatorSummary attempt switch verification)).releaseOperator attempt
            (.ok ⟨revision, bundle.sessionState.revision, attempt.mutationId⟩) bundle
    | _ => run

def step : ControlStep → ControlRun
  | .schedule => run.schedule
  | .worker index step => run.stepWorker errorText storageErrorPayload limits E build
    paths index step
  | .runController call => run.runController call
  | .operatorCommand step => run.operatorCommand step
  | .operatorRefuse role detail => run.operatorRefuse role detail
  | .operatorCommit ids fault project now =>
    run.operatorCommit errorText storageErrorPayload limits E build paths ids fault project now
  | .mutate mutation fault now =>
    if run.operator.isSome then run
    else { run with
      bundle := (commitEvent limits E build paths fault run.bundle mutation now).2 }
  | .continueReadiness fault now =>
    if run.operator.isSome then run
    else { run with
      bundle := (AntennaBench.continueReadiness errorText storageErrorPayload limits E build paths
        run.bundle fault none now).2 }
  | .intake adapterRecords observations sessionState =>
    { run with bundle := { run.bundle with adapterRecords, observations, sessionState } }
  | .attach profileId profileRevision targets armed =>
    { run with controller := run.controller.attach profileId profileRevision targets armed }
  | .revoke => { run with controller := run.controller.revoke }
  | .requestAbort => { run with controller := run.controller.requestAbort }

def steps : List ControlStep → ControlRun :=
  List.foldl (step errorText storageErrorPayload limits E build paths) run

def workerEffects : WorkerPhase → WorkerStep → List ControlEffect
  | .executing attempt _ execution, .command step =>
    ((execution.starts? step).map fun start =>
      .command true start.1 attempt.intent.intentId start.2).toList
  | .preparing .passed _ _, .continue _ _ now =>
    match run.operator, continuationDecision E.sha256Hex run.bundle now with
    | none, .ok (.append mutation) => (mutation.event.slotId.map .arms).toList
    | _, _ => []
  | .judged attempt switch verification _, .persist ids _ _ _ =>
    match run.operator, attemptMutation run.bundle attempt attempt.bundle.reviewRequired ids
        switch verification with
    | none, .ok mutation =>
      if mutation.armedEvent.isSome then [.arms attempt.intent.intentId] else []
    | _, _ => []
  | _, _ => []

/-- What a step starts or appends. -/
def effects : ControlStep → List ControlEffect
  | .operatorCommand step =>
    (run.operator.bind fun operator => (operator.execution.starts? step).map fun start =>
      .command false start.1 operator.attempt.intent.intentId start.2).toList
  | .worker index step =>
    match run.workers[index]? with
    | none => []
    | some worker => run.workerEffects E worker.phase step
  | _ => []

end

end ControlRun

end AntennaBench
