import AntennaBench.Controller.Policy

/-!
# Controller attempts

An attempt runs the switch command and, after its exit zero, the verification command. The
operator's attempt keeps the foreground from its checks to its commit; the automatic one
commits in a foreground section of its own, after it read the session again.
-/

namespace AntennaBench

structure ControllerProfile where
  profileId : String
  name : String
  revision : String
  hasVerification : Bool
  deriving DecidableEq

/-- What a command that was started came back with. -/
structure ProcessResult where
  command : AntennaControlCommandV5
  startedAt : DateTime
  completedAt : DateTime
  disposition : AntennaControlDispositionV5
  stdout : AntennaControlOutputV5
  stderr : AntennaControlOutputV5
  deriving DecidableEq

def invocation (profile : ControllerProfile) (role : AntennaControlRoleV5)
    (context : AntennaControlContextV5) (result : ProcessResult) : AntennaControlInvocationV5 where
  role := role
  controllerProfileName := profile.name
  controllerProfileRevision := profile.revision
  command := result.command
  context := context
  startedAt := result.startedAt
  completedAt := result.completedAt
  elapsedMilliseconds :=
    ((result.completedAt - result.startedAt).tdiv DateTime.nanosPerMilli).toNat
  disposition := result.disposition
  stdout := result.stdout
  stderr := result.stderr

/-- How far the commands of an attempt are. -/
inductive Execution where
  | begun
  | switching
  | switched (switch : AntennaControlInvocationV5)
  | verifying (switch : AntennaControlInvocationV5)
  | ended (switch : AntennaControlInvocationV5) (verification : Option AntennaControlInvocationV5)
  deriving DecidableEq

/-- A command is started at a clock reading, or the running one comes back. -/
inductive ExecutionStep where
  | start (startedAt : DateTime)
  | finish (result : ProcessResult)

/-- The commands an attempt runs, with the association they run under. -/
structure ControllerAttempt where
  attemptId : ℕ
  mutationId : String
  bundle : BundleV3Contents
  intent : WsprCycleIntentV3
  profile : ControllerProfile
  context : AntennaControlContextV5

namespace Execution

/-- Whether the attempt may still start a command. -/
def pending (profile : ControllerProfile) : Execution → Bool
  | begun => true
  | switching => profile.hasVerification
  | switched _ => true
  | verifying _ => false
  | ended _ _ => false

/-- The command that a start starts. -/
def starts? : Execution → ExecutionStep → Option (AntennaControlRoleV5 × DateTime)
  | begun, .start startedAt => some (.switch, startedAt)
  | switched _, .start startedAt => some (.verification, startedAt)
  | _, _ => none

/-- `execute_profile_attempt`, command by command. -/
def next (profile : ControllerProfile) (context : AntennaControlContextV5) :
    Execution → ExecutionStep → Execution
  | begun, .start _ => switching
  | switching, .finish result =>
    let switch := invocation profile .switch context result
    if switch.disposition.isExitZero && profile.hasVerification then switched switch
    else ended switch none
  | switched switch, .start _ => verifying switch
  | verifying switch, .finish result =>
    ended switch (some (invocation profile .verification context result))
  | execution, _ => execution

end Execution

/-- The identities a commit uses. -/
structure AttemptIds where
  switchRecordId : String
  verificationRecordId : String
  eventId : String

/-- The evidence of an attempt. -/
def attemptRecords (bundle : BundleV3Contents) (ids : AttemptIds)
    (switch : AntennaControlInvocationV5) (verification : Option AntennaControlInvocationV5) :
    List RigRecordV3 :=
  rigRecord bundle ids.switchRecordId switch ::
    (verification.map (rigRecord bundle ids.verificationRecordId)).toList

section

variable (errorText : LivePersistenceError → String)
  (storageErrorPayload : BundleStoreError → SessionErrorPayload)
  (profile : BundleResourceProfile) (E : Env) (context : Option RuntimeContextV6)
  (paths : ResolvedBundlePathsV2)

/-- A commit of the writer: its answer and the checkpoint it leaves. -/
def committedUnder {ρ : Type} (fault : CommitFault) (committed : BundleV3Contents)
    (planned : Except LivePersistenceError (Decision ρ)) :
    Except LivePersistenceError Unit × BundleV3Contents :=
  match planned with
  | .error error => (.error error, committed)
  | .ok decision =>
    match decision.next? with
    | none => (.ok (), committed)
    | some next =>
      match fault with
      | .none => (.ok (), next)
      | .beforeReplace error => (.error error, committed)
      | .afterReplace error => (.error error, next)

/-- A failed commit counts when the checkpoint names its mutation. -/
def acknowledged (mutationId : String) (answer : Except LivePersistenceError Unit)
    (committed : BundleV3Contents) : Except SessionErrorPayload Unit :=
  match answer with
  | .ok () => .ok ()
  | .error error =>
    if committed.sessionState.lastCommittedMutationId = some mutationId then .ok ()
    else .error (liveErrorPayload errorText storageErrorPayload error)

def commitEvent (fault : CommitFault) (committed : BundleV3Contents)
    (mutation : LiveEventMutationV3) (now : DateTime) :
    Except LivePersistenceError Unit × BundleV3Contents :=
  committedUnder fault committed
    (planEvent E profile (writerOn context committed paths) mutation now)

def commitControl (fault : CommitFault) (committed : BundleV3Contents)
    (mutation : LiveAntennaControlMutationV5) (now : DateTime) :
    Except LivePersistenceError Unit × BundleV3Contents :=
  committedUnder fault committed
    (planAntennaControl E profile (writerOn context committed paths) mutation now)

/-- The armed event the operator's attempt commits. -/
def operatorArmedEvent (attempt : ControllerAttempt) (manualReviewRequired : Bool)
    (ids : AttemptIds) (switch : AntennaControlInvocationV5)
    (verification : Option AntennaControlInvocationV5) :
    Except SessionErrorPayload (Option OperatorEventV3) :=
  match verification with
  | some invocation =>
    if !manualReviewRequired && switch.disposition.isExitZero &&
        invocation.disposition.isExitZero then do
      return some (← commandVerifiedEvent attempt.bundle attempt.intent ids.switchRecordId
        ids.verificationRecordId invocation.completedAt ids.eventId)
    else .ok none
  | none => .ok none

def sessionStopped : SessionErrorPayload where
  kind := .conflict
  message := "The session stopped while antenna control was running."
  detail := "automatic authority was revoked before evidence could be committed"

/-- No cycle was armed or skipped yet and the intention is the first. -/
def isInitialIntent (current : BundleV3Contents) : Bool :=
  let run := projectWsprRunV3 current.schedule current.events
  run.cycles.isEmpty && run.skippedIntentIds.isEmpty &&
    (nextIntent current).any fun intent =>
      current.schedule.wsprCycleIntents.head?.any (·.intentId == intent.intentId)

/-- The intention `persist_attempt` arms, by the session it reads. -/
def armedIntent? (current : BundleV3Contents) (intentId : String) (manualReviewRequired : Bool)
    (switch : AntennaControlInvocationV5) (verification : Option AntennaControlInvocationV5) :
    Option (WsprCycleIntentV3 × AntennaControlInvocationV5) := do
  let invocation ← verification
  let intent ← nextIntent current
  guard (!manualReviewRequired && switch.disposition.isExitZero &&
    invocation.disposition.isExitZero && intent.intentId = intentId &&
      (isInitialIntent current ||
        (transitionPlan current (some intent)).automaticVerificationCanArm))
  return (intent, invocation)

/-- The event `persist_attempt` arms that intention with. -/
def attemptArmedEvent (current : BundleV3Contents) (ids : AttemptIds) :
    Option (WsprCycleIntentV3 × AntennaControlInvocationV5) →
    Except SessionErrorPayload (Option OperatorEventV3)
  | some (intent, invocation) => do
    return some (← commandVerifiedEvent current intent ids.switchRecordId
      ids.verificationRecordId invocation.completedAt ids.eventId)
  | none => .ok none

/-- The mutation `persist_attempt` appends to the session it reads. -/
def attemptMutation (current : BundleV3Contents) (attempt : ControllerAttempt)
    (manualReviewRequired : Bool) (ids : AttemptIds) (switch : AntennaControlInvocationV5)
    (verification : Option AntennaControlInvocationV5) :
    Except SessionErrorPayload LiveAntennaControlMutationV5 := do
  failIf (decide (current.sessionState.lifecycle ≠ .running)) sessionStopped
  let armedEvent ← attemptArmedEvent current ids
    (armedIntent? current attempt.intent.intentId manualReviewRequired switch verification)
  return {
    expectedRevision := current.sessionState.revision
    mutationId := attempt.mutationId
    rigRecords := attemptRecords attempt.bundle ids switch verification
    armedEvent }

end

end AntennaBench
