import AntennaBench.Acquisition.Snapshot
import AntennaBench.Conductor.Actions

/-!
# Acquisition advances

`advance_with_transport` on one open session, cut where it suspends the foreground: what a
call decides when it enters, what it does once the spots arrived, and what it does after the
census. Each part runs alone on the open session. What it reads from disk and what a commit
answers are inputs.
-/

namespace AntennaBench

structure WsprLiveFailure where
  windowEnd : DateTime
  completedSlotId : String
  message : String
  detail : String
  deriving DecidableEq

/-- What the process remembers about the requests of the session at `source`. -/
structure WsprLiveAcquisitionRuntime where
  source : Option String := none
  lastRequestStartedAt : Option DateTime := none
  failure : Option WsprLiveFailure := none
  deriving DecidableEq

/-- What a poll decides, as far as it needs no request. -/
inductive AcquisitionDecision where
  | disabled
  | dormant (capturedThrough : Option DateTime)
  | waiting (completedSlotId : String) (notBefore : DateTime) (capturedThrough : Option DateTime)
  | upToDate (capturedThrough : DateTime)
  | failed (failure : WsprLiveFailure)
  | awaitingAcknowledgement (plan : WsprLiveAcquisitionPlan) (capturedThrough : DateTime)
      (retryAvailable : Bool) (counts : AutomaticCaptureTotals)
  | finish (plan : WsprLiveAcquisitionPlan) (capturedThrough : DateTime)
  /-- `expect("a complete final capture has an authorized plan")`. -/
  | noFinalPlan
  | request (plan : WsprLiveAcquisitionPlan)
  deriving DecidableEq

namespace WsprLiveAcquisitionRuntime

variable (runtime : WsprLiveAcquisitionRuntime)

def resetForSource (source : String) : WsprLiveAcquisitionRuntime :=
  if runtime.source = some source then runtime else { source := some source }

def rememberFailure (plan : WsprLiveAcquisitionPlan) (error : SessionErrorPayload) :
    WsprLiveAcquisitionRuntime :=
  { runtime with
    failure := some {
      windowEnd := plan.query.windowEnd
      completedSlotId := plan.completedSlotId
      message := error.message
      detail := error.detail } }

def forgetFailure : WsprLiveAcquisitionRuntime :=
  { runtime with failure := none }

def started (now : DateTime) : WsprLiveAcquisitionRuntime :=
  { runtime with lastRequestStartedAt := some now, failure := none }

/-- The failure a poll repeats instead of trying the window again. -/
def repeated? (plan : WsprLiveAcquisitionPlan) (retry : Bool) : Option WsprLiveFailure :=
  runtime.failure.filter fun failure => failure.windowEnd = plan.query.windowEnd && !retry

/-- `finish_final_capture`, by what the end of the session answered. -/
def finished (plan : WsprLiveAcquisitionPlan) (ended : Except SessionErrorPayload Unit) :
    WsprLiveAcquisitionRuntime :=
  match ended with
  | .ok () => runtime.forgetFailure
  | .error error => runtime.rememberFailure plan { error with message :=
      "Public spots were saved, but the session could not end automatically." }

end WsprLiveAcquisitionRuntime

section

variable (env : WsprLiveEnv) (snapshot : AcquisitionSnapshot)
  (plans : List WsprLiveAcquisitionPlan)

/-- The plans that reach past everything captured so far. -/
def pendingPlans : List WsprLiveAcquisitionPlan :=
  plans.filter fun plan => (snapshot.capturedThrough env).all (· < plan.query.windowEnd)

/-- The last authorized plan inside what is captured. -/
def finalPlan? (capturedThrough : DateTime) : Option WsprLiveAcquisitionPlan :=
  plans.reverse.find? (·.query.windowEnd ≤ capturedThrough)

/-- The plan an explicit retry asks again: the final one, once, when no automatic capture
has created an observation. -/
def finalRetryPlan? (retry : Bool) : Option WsprLiveAcquisitionPlan := do
  guard ((pendingPlans env snapshot plans).isEmpty && retry)
  let capturedThrough ← snapshot.capturedThrough env
  guard (snapshot.finalCaptureIsComplete plans capturedThrough)
  let final ← finalPlan? plans capturedThrough
  guard ((snapshot.automaticCaptureCounts env).created = 0 ∧
    snapshot.automaticCaptureAttempts env final.query.windowEnd < 2)
  return final

/-- What a poll decides once nothing is pending. -/
def decideCaptured (runtime : WsprLiveAcquisitionRuntime) (retry : Bool) : AcquisitionDecision :=
  match snapshot.capturedThrough env with
  | none => .dormant none
  | some capturedThrough =>
    if snapshot.finalCaptureIsComplete plans capturedThrough then
      match finalPlan? plans capturedThrough with
      | none => .noFinalPlan
      | some final =>
        match runtime.repeated? final retry with
        | some failure => .failed failure
        | none =>
          let counts := snapshot.automaticCaptureCounts env
          if counts.created = 0 then
            .awaitingAcknowledgement final capturedThrough
              (snapshot.automaticCaptureAttempts env final.query.windowEnd < 2) counts
          else .finish final capturedThrough
    else .upToDate capturedThrough

/-- What a poll waits for: the first pending plan, and the interval after a request. -/
def waitingFor (pending : List WsprLiveAcquisitionPlan) (runtime : WsprLiveAcquisitionRuntime) :
    AcquisitionDecision :=
  match minByKey (fun plan => (toLex (plan.notBefore, plan.segmentEndedAt) : DateTime ×ₗ DateTime))
      pending with
  | none => .dormant (snapshot.capturedThrough env)
  | some next =>
    let deadline := runtime.lastRequestStartedAt.bind fun started =>
      DateTime.checkedAdd started (DateTime.seconds wsprLiveMinRequestIntervalSeconds)
    .waiting next.completedSlotId
      (deadline.elim next.notBefore fun deadline => max deadline next.notBefore)
      (snapshot.capturedThrough env)

/-- The decision of a call over the authorized plans of a running session. -/
def decidePlans (runtime : WsprLiveAcquisitionRuntime) (retry : Bool) (now : DateTime) :
    AcquisitionDecision :=
  let retried := finalRetryPlan? env snapshot plans retry
  let pending := pendingPlans env snapshot plans ++ retried.toList
  if pending.isEmpty then decideCaptured env snapshot plans runtime retry
  else
    match retried.or
        (latestDueWsprLiveAcquisition pending now runtime.lastRequestStartedAt) with
    | none => waitingFor env snapshot pending runtime
    | some plan =>
      match runtime.repeated? plan retry with
      | some failure => .failed failure
      | none => .request plan

end

/-- One call: the clock it read, whether it is an explicit retry, the session it reads and,
in case it ends the session, the answer to that. -/
structure AdvanceCall where
  now : DateTime
  retry : Bool
  snapshot : Except SessionErrorPayload AcquisitionSnapshot
  ended : Except SessionErrorPayload Unit

/-- The plans a call chooses from: those of a running session with acquisition enabled. -/
def AdvanceCall.Authorizes (call : AdvanceCall) (snapshot : AcquisitionSnapshot)
    (plans : List WsprLiveAcquisitionPlan) : Prop :=
  call.snapshot = .ok snapshot ∧ snapshot.lifecycle = .running ∧
    snapshot.wsprLiveAcquisitionEnabled = true ∧ snapshot.authorizedPlans = .ok plans

/-- The text of a planning error inside a payload. -/
def WsprLiveImportError.planPayload (error : WsprLiveImportError) : SessionErrorPayload where
  kind := .validation
  message := "The committed session cannot produce a WSPR.live acquisition plan."
  detail :=
    match error with
    | .config message => "invalid WSPR.live import configuration: " ++ message
    | .json message => "invalid WSPR.live JSON document: " ++ message
    | .schema message => "unsupported WSPR.live JSON schema: " ++ message
    | .resource diagnostic => diagnostic.code

/-- The first part of a call on the session at `source`. -/
def enterAcquisition (env : WsprLiveEnv) (source : String) (runtime : WsprLiveAcquisitionRuntime)
    (call : AdvanceCall) :
    Except SessionErrorPayload AcquisitionDecision × WsprLiveAcquisitionRuntime :=
  match call.snapshot with
  | .error error => (.error error, runtime)
  | .ok snapshot =>
    if snapshot.lifecycle ≠ .running then (.ok (.dormant (snapshot.capturedThrough env)), runtime)
    else if !snapshot.wsprLiveAcquisitionEnabled then (.ok .disabled, runtime)
    else
      match snapshot.authorizedPlans with
      | .error error => (.error error.planPayload, runtime)
      | .ok plans =>
        let runtime := runtime.resetForSource source
        match decidePlans env snapshot plans runtime call.retry call.now with
        | .request plan => (.ok (.request plan), runtime.started call.now)
        | .finish plan capturedThrough =>
          (.ok (.finish plan capturedThrough), runtime.finished plan call.ended)
        | decision => (.ok decision, runtime)

/-- `revalidate_acquisition_response`: the session as it is now with its plans, or nothing
when it no longer authorizes the plan. -/
def revalidateAcquisitionResponse (current : Except SessionErrorPayload AcquisitionSnapshot)
    (requestedRevision : ℕ) (plan : WsprLiveAcquisitionPlan) :
    Except SessionErrorPayload (Option (AcquisitionSnapshot × List WsprLiveAcquisitionPlan)) := do
  let snapshot ← current
  if snapshot.lifecycle ≠ .running ∨ snapshot.wsprLiveAcquisitionEnabled = false then
    return none
  failIf (decide (snapshot.revision < requestedRevision)) {
    kind := .conflict
    message := "The session checkpoint regressed while WSPR.live was responding."
    detail := "requested from revision " ++ toString requestedRevision ++ ", current revision " ++
      toString snapshot.revision }
  let plans ← snapshot.authorizedPlans.mapError WsprLiveImportError.planPayload
  return if plan ∈ plans then some (snapshot, plans) else none

/-- What a call meets when its spots arrive: the transport's answer, the session it reads
again and the answer to its commit. -/
structure SpotArrival where
  fetched : Except String Unit
  current : Except SessionErrorPayload AcquisitionSnapshot
  committed : Except SessionErrorPayload Unit

/-- The part of a call from its spots to the census it asks for, which starts from the
revision returned. -/
def afterSpots (runtime : WsprLiveAcquisitionRuntime) (plan : WsprLiveAcquisitionPlan)
    (requestedRevision : ℕ) (arrival : SpotArrival) : WsprLiveAcquisitionRuntime × Option ℕ :=
  match arrival.fetched with
  | .error error =>
    (runtime.rememberFailure plan {
      kind := .resource
      message := "WSPR.live spots could not be fetched."
      detail := error }, none)
  | .ok () =>
    match revalidateAcquisitionResponse arrival.current requestedRevision plan with
    | .error _ | .ok none => (runtime, none)
    | .ok (some (snapshot, _)) =>
      match arrival.committed with
      | .error error =>
        (runtime.rememberFailure plan {
          kind := error.kind
          message := "The WSPR.live response could not be saved."
          detail := error.detail }, none)
      | .ok () => (runtime, some snapshot.revision)

/-- What a call meets after the census: the session it reads again, the session it reads
once more for its counts, and the answer if it ends the session. -/
structure CensusArrival where
  current : Except SessionErrorPayload AcquisitionSnapshot
  refreshed : Except SessionErrorPayload AcquisitionSnapshot
  ended : Except SessionErrorPayload Unit

/-- The part of a call after the census, whatever became of the census itself. -/
def afterCensus (env : WsprLiveEnv) (runtime : WsprLiveAcquisitionRuntime)
    (plan : WsprLiveAcquisitionPlan) (requestedRevision : ℕ) (arrival : CensusArrival) :
    WsprLiveAcquisitionRuntime :=
  match revalidateAcquisitionResponse arrival.current requestedRevision plan with
  | .error _ | .ok none => runtime
  | .ok (some (snapshot, plans)) =>
    let runtime := runtime.forgetFailure
    if snapshot.finalCaptureIsComplete plans plan.query.windowEnd then
      match arrival.refreshed with
      | .error _ => runtime
      | .ok refreshed =>
        if (refreshed.automaticCaptureCounts env).created = 0 then runtime
        else runtime.finished plan arrival.ended
    else runtime

end AntennaBench
