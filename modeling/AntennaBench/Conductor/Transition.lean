import AntennaBench.Conductor.LiveSession

/-!
# Transitions between cycles

What has to change between the last armed cycle and the next intention, and the readiness
that continues when nothing has to.
-/

namespace AntennaBench

inductive TransitionDisposition where
  | noChangeNeeded
  | automaticActionPending
  | automaticallyCompletedAndVerified
  | operatorActionRequired
  | unknownBlocked
  deriving DecidableEq

structure ConductorTransitionView where
  antenna : TransitionDisposition
  direction : TransitionDisposition
  band : TransitionDisposition
  signal : TransitionDisposition
  deriving DecidableEq

structure TransitionPlan where
  view : ConductorTransitionView
  operatorActionRequired : Bool
  sourceReadyEventId : Option String
  nextIntentId : Option String
  priorTransmissionEndsAt : Option DateTime
  deriving DecidableEq

namespace TransitionPlan

variable (plan : TransitionPlan)

def canContinue : Bool :=
  [plan.view.antenna, plan.view.direction, plan.view.band, plan.view.signal].all
    (· = .noChangeNeeded) && plan.sourceReadyEventId.isSome && plan.nextIntentId.isSome &&
    plan.priorTransmissionEndsAt.isSome

def automaticVerificationCanArm : Bool :=
  plan.view.antenna = .automaticActionPending &&
    [plan.view.direction, plan.view.band, plan.view.signal].all (· = .noChangeNeeded)

/-- The plan of a transition nothing is known about. -/
def blocked (nextIntentId : Option String) (priorTransmissionEndsAt : Option DateTime) :
    TransitionPlan where
  view := ⟨.unknownBlocked, .unknownBlocked, .unknownBlocked, .unknownBlocked⟩
  operatorActionRequired := true
  sourceReadyEventId := none
  nextIntentId := nextIntentId
  priorTransmissionEndsAt := priorTransmissionEndsAt

end TransitionPlan

def AntennaControlDispositionV5.isExitZero : AntennaControlDispositionV5 → Bool
  | exit code => code = 0
  | _ => false

/-- The first intention that is neither armed nor skipped. -/
def nextIntent (bundle : BundleV3Contents) : Option WsprCycleIntentV3 :=
  let projection := projectWsprRunV3 bundle.schedule bundle.events
  bundle.schedule.wsprCycleIntents.find? fun intent =>
    !projection.cycles.any (·.intentId == intent.intentId) &&
      !projection.skippedIntentIds.contains intent.intentId

def RigRecordV3.isExitZero (record : RigRecordV3) (role : AntennaControlRoleV5)
    (intentId : String) : Bool :=
  record.antennaControl.any fun invocation =>
    invocation.role = role && invocation.context.intentId == intentId &&
      invocation.disposition.isExitZero

def RigRecordV3.target? (record : RigRecordV3) : Option String :=
  record.antennaControl.map (·.context.target)

def hasVerifiedAutomaticAttempt (bundle : BundleV3Contents) (intentId : String) : Bool :=
  bundle.rig.any fun switch =>
    switch.isExitZero .switch intentId &&
      bundle.rig.any fun verification =>
        verification.recordMeta.mutation.mutationId == switch.recordMeta.mutation.mutationId &&
          verification.isExitZero .verification intentId &&
          verification.target? == switch.target?

def hasSuccessfulSwitchAttempt (bundle : BundleV3Contents) (intentId : String) : Bool :=
  bundle.rig.any (·.isExitZero .switch intentId)

def AntennaControlPolicyV5.isAutomatic : AntennaControlPolicyV5 → Bool
  | commandControlled .automatic _ => true
  | _ => false

def AntennaControlPolicyV5.requiresReview : AntennaControlPolicyV5 → Bool
  | commandControlled _ true => true
  | _ => false

def unchanged {α : Type} [DecidableEq α] (previous next : α) : TransitionDisposition :=
  if previous = next then .noChangeNeeded else .operatorActionRequired

def antennaDisposition (bundle : BundleV3Contents) (previous next : WsprCycleIntentV3) :
    TransitionDisposition :=
  if previous.antennaLabel = next.antennaLabel then .noChangeNeeded
  else if hasVerifiedAutomaticAttempt bundle next.intentId then .automaticallyCompletedAndVerified
  else if hasSuccessfulSwitchAttempt bundle next.intentId then .operatorActionRequired
  else if bundle.schedule.antennaControl.any (·.isAutomatic) then .automaticActionPending
  else .operatorActionRequired

/-- The plan between two intentions under an occupancy that is still open. -/
def transitionBetween (bundle : BundleV3Contents) (previous next : WsprCycleIntentV3)
    (readyEventId : String) (transmissionEndsAt : DateTime) : TransitionPlan :=
  let view : ConductorTransitionView :=
    ⟨antennaDisposition bundle previous next, unchanged previous.direction next.direction,
      unchanged previous.band next.band, unchanged previous.signal next.signal⟩
  let reviewRequired := bundle.schedule.antennaControl.any (·.requiresReview) &&
    view.antenna = .automaticallyCompletedAndVerified
  { view
    operatorActionRequired := reviewRequired ||
      [view.antenna, view.direction, view.band, view.signal].any fun value =>
        value ≠ .noChangeNeeded && value ≠ .automaticallyCompletedAndVerified
    sourceReadyEventId := some readyEventId
    nextIntentId := some next.intentId
    priorTransmissionEndsAt := some transmissionEndsAt }

def transitionPlan (bundle : BundleV3Contents) : Option WsprCycleIntentV3 → TransitionPlan
  | none => .blocked none none
  | some next =>
    let projection := projectWsprRunV3 bundle.schedule bundle.events
    match projection.occupancies.getLast?.filter (·.endsAt.isNone) with
    | none =>
      .blocked (some next.intentId) (projection.cycles.getLast?.map (·.window.transmissionEndsAt))
    | some occupancy =>
      match projection.cycles.getLast?.filter fun cycle =>
          cycle.readyEventId == occupancy.readyEventId &&
            cycle.antennaLabel == occupancy.antennaLabel with
      | none => .blocked (some next.intentId) none
      | some previousCycle =>
        match bundle.schedule.findIntent? previousCycle.intentId with
        | none => .blocked (some next.intentId) (some previousCycle.window.transmissionEndsAt)
        | some previous =>
          transitionBetween bundle previous next occupancy.readyEventId
            previousCycle.window.transmissionEndsAt

inductive ContinuationDecision where
  | notApplicable
  | waiting (deadline : DateTime)
  | append (mutation : LiveEventMutationV3)

def continuationIdentity (sha256Hex : Bytes → String) (sessionId sourceEventId intentId : String) :
    String :=
  "continued-" ++ (sha256Hex (stringBytes (sessionId ++ "\x00" ++ sourceEventId ++ "\x00" ++
    intentId))).take 32

/-- The event by which a readiness continues for the next intention. -/
def continuationEvent (bundle : BundleV3Contents) (identity sourceReadyEventId : String)
    (next : WsprCycleIntentV3) (cycle : WsprCycleWindow) (now : DateTime) : OperatorEventV3 where
  recordMeta := {
    schemaVersion := bundle.manifest.schemaVersion
    sessionId := bundle.manifest.sessionId
    recordedAt := now
    provenance := .fromLegacy .derived "conductor-continuation-v1"
    mutation := ⟨"pending", 0, 1⟩
    runtimeContextId := none }
  eventId := "event-" ++ identity
  occurredAt := now
  timeBasis := .observedNow
  uncertaintySeconds := none
  slotId := some next.intentId
  payload := .wsprCycleArmed next.antennaLabel cycle.startsAt (some (.continued sourceReadyEventId))

/-- `persist_continued_readiness` up to its append. -/
def continuationDecision (sha256Hex : Bytes → String) (bundle : BundleV3Contents)
    (now : DateTime) : Except SessionErrorPayload ContinuationDecision :=
  if bundle.manifest.schemaVersion < schemaVersionV6 ∨ bundle.sessionState.lifecycle ≠ .running then
    .ok .notApplicable
  else
    let plan := transitionPlan bundle (nextIntent bundle)
    match plan.canContinue, plan.priorTransmissionEndsAt, nextIntent bundle,
        plan.sourceReadyEventId with
    | true, some deadline, some next, some source =>
      if now < deadline then .ok (.waiting deadline)
      else do
        let cycle ← orError (nextWsprCycleAfterReady? now DateTime.nanosPerSecond) cycleUnavailable
        let identity := continuationIdentity sha256Hex bundle.manifest.sessionId source
          next.intentId
        return .append {
          expectedRevision := bundle.sessionState.revision
          mutationId := "mutation-" ++ identity
          event := continuationEvent bundle identity source next cycle now }
    | _, _, _, _ => .ok .notApplicable

end AntennaBench
