import AntennaBench.Controller.Attempts

/-!
# The automatic worker

The loop of the automatic worker, cut at every place where it looks at something others
change: the checkpoint, the controller state, the foreground. Between two of its parts any
other party may act.
-/

namespace AntennaBench

/-- What the worker read at the top of its loop. -/
structure WorkerLook where
  bundle : BundleV3Contents
  intent : WsprCycleIntentV3

def BundleV3Contents.reviewRequired (bundle : BundleV3Contents) : Bool :=
  bundle.schedule.antennaControl.any (·.requiresReview)

def BundleV3Contents.isAutomaticRun (bundle : BundleV3Contents) : Bool :=
  bundle.sessionState.lifecycle = .running && bundle.schedule.antennaControl.any (·.isAutomatic)

/-- What a worker has done since it read the session, before it has authority. -/
inductive PreparingStage where
  | passed
  | compared
  | checked
  deriving DecidableEq

inductive WorkerPhase where
  | looking
  | waiting (look : WorkerLook)
  /-- `readAt` is the clock that ended the wait for the last transmission. -/
  | preparing (stage : PreparingStage) (look : WorkerLook) (readAt : Option DateTime)
  | authorized (look : WorkerLook) (readAt : Option DateTime) (profile : ControllerProfile)
      (context : AntennaControlContextV5)
  | executing (attempt : ControllerAttempt) (readAt : Option DateTime) (execution : Execution)
  | judged (attempt : ControllerAttempt) (switch : AntennaControlInvocationV5)
      (verification : Option AntennaControlInvocationV5) (interrupted : Bool)
  | persisted (attempt : ControllerAttempt) (switch : AntennaControlInvocationV5)
      (verification : Option AntennaControlInvocationV5) (interrupted : Bool)
      (result : Except SessionErrorPayload AttemptCommit)
  | stopped

/-- What a part of the loop leaves: the phase, the controller state and the checkpoint. -/
structure WorkerTurn where
  phase : WorkerPhase
  controller : AntennaControllerState
  bundle : BundleV3Contents

section

variable (errorText : LivePersistenceError → String)
  (storageErrorPayload : BundleStoreError → SessionErrorPayload)
  (limits : BundleResourceProfile) (E : Env) (build : Option RuntimeContextV6)
  (paths : ResolvedBundlePathsV2)
  (controller : AntennaControllerState) (bundle : BundleV3Contents) (generation : ℕ)

/-- A worker that meets an attempt in the session ends. -/
def endAtAttempt (intent : WsprCycleIntentV3) (summary : ControllerAttemptSummary) :
    AntennaControllerState :=
  let successful := summary.successfulSwitch &&
    (bundle.reviewRequired || summary.successfulVerification = some true)
  if successful &&
      (bundle.reviewRequired || (transitionPlan bundle (some intent)).operatorActionRequired) then
    controller.finish generation .awaitingReview (some summary) false
  else controller.finish generation .blocked (some summary) true

/-- The top of the loop of `run_worker`. -/
def workerLook (unreadable : Bool) : WorkerPhase × AntennaControllerState :=
  if controller.cancelled generation then (.stopped, controller)
  else if unreadable then
    (.stopped, controller.block generation "unknown"
      "Automatic antenna control could not read the active checkpoint.")
  else if !bundle.isAutomaticRun then (.stopped, controller.finish generation .idle none false)
  else
    match nextIntent bundle with
    | none => (.stopped, controller.finish generation .idle none false)
    | some intent =>
      match committedAttempt bundle intent.intentId with
      | some summary => (.stopped, endAtAttempt controller bundle generation intent summary)
      | none =>
        if (priorEnd bundle).isSome then
          (.waiting ⟨bundle, intent⟩, controller.setStatus generation .waiting)
        else (.preparing .passed ⟨bundle, intent⟩ none, controller)

/-- One round of the wait for the end of the last transmission. -/
def workerWait (look : WorkerLook) (now : DateTime) : WorkerPhase :=
  if (priorEnd look.bundle).any (now < ·) then
    if controller.cancelled generation then .stopped else .waiting look
  else .preparing .passed look (some now)

/-- The appended continuation of a readiness, when there is one to append. -/
def continueReadiness (fault : CommitFault) (reread : Option SessionErrorPayload)
    (now : DateTime) : Except SessionErrorPayload ContinuationDecision × BundleV3Contents :=
  match continuationDecision E.sha256Hex bundle now with
  | .ok (.append mutation) =>
    let (answer, after) := commitEvent limits E build paths fault bundle mutation now
    match acknowledged errorText storageErrorPayload mutation.mutationId answer after, reread with
    | .error error, _ => (.error error, after)
    | .ok (), some error => (.error error, after)
    | .ok (), none => (.ok (.append mutation), after)
  | decision => (decision, bundle)

def workerContinue (look : WorkerLook) (readAt : Option DateTime) (fault : CommitFault)
    (reread : Option SessionErrorPayload) (now : DateTime) : WorkerTurn :=
  match continueReadiness errorText storageErrorPayload limits E build paths bundle fault reread
      now with
  | (.ok .notApplicable, after) => ⟨.preparing .compared look readAt, controller, after⟩
  | (.ok _, after) => ⟨.looking, controller, after⟩
  | (.error _, after) => ⟨.stopped, controller.block generation look.intent.intentId
      "Automatic continued-readiness evidence could not be committed.", after⟩

/-- The session is read once more; an unreadable one has no next intention. -/
def workerRecheck (look : WorkerLook) (readAt : Option DateTime) (unreadable : Bool) :
    WorkerPhase :=
  if !unreadable && (nextIntent bundle).any (·.intentId = look.intent.intentId) then
    .preparing .checked look readAt
  else .looking

/-- `controller_context` and the expansion of the intention. -/
def workerContext (look : WorkerLook)
    (catalog : Except SessionErrorPayload (List ControllerProfile)) :
    Except String (ControllerProfile × AntennaControlContextV5) := do
  let association ← orError (controller.attached.filter fun attached =>
    attached.armed && attached.generation = generation)
    "Attach and arm the local controller before automatic switching."
  let profiles ← catalog.mapError (·.message)
  let profile ← orError (profiles.find? fun profile => profile.profileId = association.profileId &&
    profile.revision = association.profileRevision)
    "The attached controller changed. Review and attach it again."
  let target ← orError (association.targets.lookup look.intent.antennaLabel)
    "The pending antenna has no local controller target."
  let context ← (invocationContext look.bundle look.intent target).mapError fun _ =>
    "The pending antenna intention cannot be expanded safely."
  return (profile, context)

def workerAuthorize (look : WorkerLook) (readAt : Option DateTime)
    (catalog : Except SessionErrorPayload (List ControllerProfile)) :
    WorkerPhase × AntennaControllerState :=
  match workerContext controller generation look catalog with
  | .error message => (.stopped, controller.block generation look.intent.intentId message)
  | .ok (profile, context) =>
    (.authorized look readAt profile context, controller.setStatus generation .running)

def workerBegin (look : WorkerLook) (readAt : Option DateTime) (profile : ControllerProfile)
    (context : AntennaControlContextV5) (mutationId : String) :
    WorkerPhase × AntennaControllerState :=
  match controller.beginAttempt mutationId with
  | .error error =>
    (.stopped, controller.block generation look.intent.intentId error.message)
  | .ok (attemptId, controller) =>
    (.executing ⟨attemptId, mutationId, look.bundle, look.intent, profile, context⟩ readAt .begun,
      controller)

def expansionRefused (detail : String) : SessionErrorPayload where
  kind := .validation
  message := "The controller command could not be expanded safely."
  detail := detail

def authorityRevoked : SessionErrorPayload where
  kind := .conflict
  message := "Antenna-controller authority was revoked before evidence was committed."
  detail := "the active controller generation changed outside an Abort request"

/-- A command that cannot be expanded ends the attempt. -/
def workerRefuse (attempt : ControllerAttempt) (detail : String) : AntennaControllerState :=
  (controller.settleAttempt attempt.attemptId (.error (expansionRefused detail))).block generation
    attempt.intent.intentId (expansionRefused detail).message

/-- After the commands: a worker without authority drops its evidence, unless an abort asked
for it. -/
def workerJudge (attempt : ControllerAttempt) (switch : AntennaControlInvocationV5)
    (verification : Option AntennaControlInvocationV5) : WorkerPhase × AntennaControllerState :=
  let interrupted := controller.abortRequested attempt.attemptId
  if controller.cancelled generation && !interrupted then
    (.stopped, controller.settleAttempt attempt.attemptId (.error authorityRevoked))
  else (.judged attempt switch verification interrupted, controller)

/-- `persist_attempt`: the answer and the checkpoint it leaves. -/
def persistAttempt (attempt : ControllerAttempt) (ids : AttemptIds)
    (switch : AntennaControlInvocationV5) (verification : Option AntennaControlInvocationV5)
    (fault : CommitFault) (reread : Option SessionErrorPayload) (now : DateTime) :
    Except SessionErrorPayload AttemptCommit × BundleV3Contents :=
  match attemptMutation bundle attempt attempt.bundle.reviewRequired ids switch verification with
  | .error error => (.error error, bundle)
  | .ok mutation =>
    let (answer, after) := commitControl limits E build paths fault bundle mutation now
    match acknowledged errorText storageErrorPayload mutation.mutationId answer after, reread with
    | .error error, _ => (.error error, after)
    | .ok (), some error => (.error error, after)
    | .ok (), none =>
      (.ok ⟨mutation.expectedRevision, after.sessionState.revision, attempt.mutationId⟩, after)

/-- The settlement of an attempt and the way the worker goes on. -/
def workerSettle (attempt : ControllerAttempt) (switch : AntennaControlInvocationV5)
    (verification : Option AntennaControlInvocationV5) (interrupted : Bool)
    (result : Except SessionErrorPayload AttemptCommit) : WorkerPhase × AntennaControllerState :=
  let controller := controller.settleAttempt attempt.attemptId result
  match result with
  | .error _ => (.stopped, controller.block generation attempt.intent.intentId
      "Automatic antenna-control evidence could not be committed coherently.")
  | .ok _ =>
    if interrupted then (.stopped, controller)
    else
      let review := attempt.bundle.reviewRequired
      let switchSuccess := switch.disposition.isExitZero
      let verificationSuccess := verification.map (·.disposition.isExitZero)
      let summary : ControllerAttemptSummary := ⟨attempt.intent.intentId, switchSuccess,
        verificationSuccess, attemptDetail switchSuccess verificationSuccess review⟩
      if !switchSuccess || verificationSuccess = some false then
        (.stopped, controller.finish generation .blocked (some summary) true)
      else if review then
        (.stopped, controller.finish generation .awaitingReview (some summary) false)
      else if verificationSuccess ≠ some true then
        (.stopped, controller.finish generation .blocked (some summary) true)
      else (.looking, controller.updateAttempt generation summary)

end

end AntennaBench
