import AntennaBench.Storage.ValidateV3

/-!
# Operator actions of the live conductor

The actions a request names and the operator events they become, for schema v2
and for schema v3 to v6. Every event of an action carries the action's token as
its mutation and the first time the token was used.
-/

namespace AntennaBench

inductive SessionErrorKind where
  | selection
  | destination
  | filesystem
  | jsonParse
  | validation
  | analysis
  | reportPipeline
  | verification
  | resource
  | busy
  | staleRevision
  | conflict
  | unsupported
  | cancelled
  deriving DecidableEq

/-- What an operation error names: its code and its stage. -/
structure OperationErrorDetail where
  code : String
  stage : String
  deriving DecidableEq

structure SessionErrorPayload where
  kind : SessionErrorKind
  message : String
  detail : String
  operation : Option OperationErrorDetail := none
  deriving DecidableEq

def SessionErrorPayload.reportPipeline (detail : String) : SessionErrorPayload :=
  { kind := .reportPipeline, message := "The local report could not be prepared.", detail }

/-- `PendingAction`: an issued token, the revision it was issued at, and when it was
first used. -/
structure PendingAction where
  token : String
  sessionId : String
  expectedRevision : ℕ
  occurredAt : Option DateTime
  deriving DecidableEq

inductive CorrectableAction where
  | confirmAntenna (antennaLabel : String) (note : Option String)
  | confirmSignal (confirmation : SignalStateConfirmationV3)
  | markMissed (reason : Option String)
  | markBad (reason : String)
  | addNote (note : String)

inductive ConductorAction where
  | start (note : Option String)
  | interrupt (reason : Option String)
  | resume (note : Option String)
  | finish (reason : Option String)
  | abandon (reason : Option String)
  | armWsprCycle (intentId antennaLabel : String)
  | skipWsprCycle (intentId : String) (reason : Option String)
  | confirmAntenna (slotId antennaLabel : String) (note : Option String)
  | confirmSignal (slotId : String) (confirmation : SignalStateConfirmationV3)
  | markMissed (slotId : String) (reason : Option String)
  | markBad (slotId reason : String)
  | addNote (slotId : Option String) (note : String)
  | retractEvent (targetEventId reason : String)
  | replaceEvent (targetEventId : String) (slotId : Option String)
      (replacement : CorrectableAction) (reason : String)

structure ConductorMutationRequest where
  actionToken : String
  expectedRevision : ℕ
  action : ConductorAction

def optionalText (value : Option String) : Option String :=
  (value.map trim).filter (!·.isEmpty)

def requiredText (value field : String) : Except SessionErrorPayload String :=
  if (trim value).isEmpty then
    .error {
      kind := .validation
      message := "Complete the required conductor action field."
      detail := field ++ " must not be empty" }
  else .ok (trim value)

def signalRequiresV3 : SessionErrorPayload where
  kind := .validation
  message := "Signal-state confirmation requires a schema-v3 session."
  detail := "schema-v2 events cannot represent actual signal state"

def cyclesRequireV3 : SessionErrorPayload where
  kind := .validation
  message := "Operator-paced WSPR actions require a current session."
  detail := "schema-v2 sessions do not support durable cycle intentions"

def correctionPayload :
    CorrectableAction → Except SessionErrorPayload CorrectableOperatorEventPayloadV2
  | .confirmAntenna antennaLabel note => do
    return .antennaStateConfirmed (← requiredText antennaLabel "antennaLabel") (optionalText note)
  | .confirmSignal _ => .error signalRequiresV3
  | .markMissed reason => .ok (.slotMissed (optionalText reason))
  | .markBad reason => return .slotBad (← requiredText reason "reason")
  | .addNote note => return .noteAdded (← requiredText note "note")

def actionPayload (occurredAt : DateTime) :
    ConductorAction → Except SessionErrorPayload (Option String × OperatorEventPayloadV2)
  | .start note => .ok (none, .sessionStarted (optionalText note))
  | .interrupt reason => .ok (none, .sessionInterrupted (optionalText reason))
  | .resume note => .ok (none, .sessionResumed (optionalText note))
  | .finish reason => .ok (none, .sessionEnded (optionalText reason))
  | .abandon reason => .ok (none, .sessionAbandoned (optionalText reason))
  | .armWsprCycle .. | .skipWsprCycle .. => .error cyclesRequireV3
  | .confirmAntenna slotId antennaLabel note => do
    return (← requiredText slotId "slotId",
      .antennaStateConfirmed (← requiredText antennaLabel "antennaLabel") (optionalText note))
  | .confirmSignal .. => .error signalRequiresV3
  | .markMissed slotId reason => do
    return (← requiredText slotId "slotId", .slotMissed (optionalText reason))
  | .markBad slotId reason => do
    return (← requiredText slotId "slotId", .slotBad (← requiredText reason "reason"))
  | .addNote slotId note => do
    return (optionalText slotId, .noteAdded (← requiredText note "note"))
  | .retractEvent targetEventId reason => do
    return (none, .eventCorrected (← requiredText targetEventId "targetEventId") .retract
      (← requiredText reason "reason"))
  | .replaceEvent targetEventId slotId replacement reason => do
    let targetEventId ← requiredText targetEventId "targetEventId"
    let payload ← correctionPayload replacement
    return (none, .eventCorrected targetEventId
      (.replace ⟨occurredAt, .observedNow, none, optionalText slotId, payload⟩)
      (← requiredText reason "reason"))

section

variable (packageVersion : String)

/-- The envelope of an action's event. -/
def actionMeta (schemaVersion : ℕ) (sessionId : String) (pending : PendingAction)
    (occurredAt : DateTime) : RecordMetaV2 where
  schemaVersion := schemaVersion
  sessionId := sessionId
  recordedAt := occurredAt
  provenance := .fromLegacy .operator packageVersion
  mutation := ⟨pending.token, 0, 1⟩
  runtimeContextId := none

def actionTime (pending : PendingAction) : Except SessionErrorPayload DateTime :=
  orError pending.occurredAt (.reportPipeline "conductor action time was not initialized")

def eventForAction (sessionId : String) (pending : PendingAction) (action : ConductorAction) :
    Except SessionErrorPayload OperatorEventV2 := do
  let occurredAt ← actionTime pending
  let (slotId, payload) ← actionPayload occurredAt action
  return {
    recordMeta := actionMeta packageVersion schemaVersionV2 sessionId pending occurredAt
    eventId := "event-for-" ++ pending.token
    occurredAt := occurredAt
    timeBasis := .observedNow
    uncertaintySeconds := none
    slotId := slotId
    payload := payload }

def signalConfirmation (confirmation : SignalStateConfirmationV3) : SignalStateConfirmationV3 :=
  { confirmation with
    transmittedCallsign := optionalText confirmation.transmittedCallsign
    note := optionalText confirmation.note }

def correctionPayloadV3 :
    CorrectableAction → Except SessionErrorPayload CorrectableOperatorEventPayloadV3
  | .confirmAntenna antennaLabel note => do
    return .antennaStateConfirmed (← requiredText antennaLabel "antennaLabel") (optionalText note)
  | .confirmSignal confirmation => .ok (.signalStateConfirmed (signalConfirmation confirmation))
  | .markMissed reason => .ok (.slotMissed (optionalText reason))
  | .markBad reason => return .slotBad (← requiredText reason "reason")
  | .addNote note => return .noteAdded (← requiredText note "note")

/-- `next_wspr_cycle_at_or_after`; every caller drops the error value. The
arithmetic on whole milliseconds cannot overflow within the range of `DateTime`. -/
def nextWsprCycleAtOrAfter? (notBefore : DateTime) : Option WsprCycleWindow :=
  let timestamp := notBefore / DateTime.nanosPerMilli
  let offset := wsprNominalStartOffsetSeconds * 1000
  let cycle := wsprCycleSeconds * 1000
  let candidate := (timestamp - offset) / cycle * cycle + offset
  let candidate := if candidate < timestamp then candidate + cycle else candidate
  let startsAt := candidate * DateTime.nanosPerMilli
  if DateTime.minUtc ≤ startsAt ∧ startsAt ≤ DateTime.maxUtc then
    WsprCycleWindow.fromStart? startsAt
  else none

def nextWsprCycleAfterReady? (readyAt : DateTime) (minimumLeadNanos : ℤ) :
    Option WsprCycleWindow := do
  guard (0 ≤ minimumLeadNanos)
  nextWsprCycleAtOrAfter? (← DateTime.checkedAdd readyAt minimumLeadNanos)

def cycleUnavailable : SessionErrorPayload where
  kind := .validation
  message := "The next WSPR cycle could not be calculated."
  detail := "WSPR cycle calculation exceeded the supported timestamp range"

def actionPayloadV3 (occurredAt : DateTime) (schemaVersion : ℕ) :
    ConductorAction → Except SessionErrorPayload (Option String × OperatorEventPayloadV3)
  | .start note => .ok (none, .sessionStarted (optionalText note))
  | .interrupt reason => .ok (none, .sessionInterrupted (optionalText reason))
  | .resume note => .ok (none, .sessionResumed (optionalText note))
  | .finish reason => .ok (none, .sessionEnded (optionalText reason))
  | .abandon reason => .ok (none, .sessionAbandoned (optionalText reason))
  | .armWsprCycle intentId antennaLabel => do
    let cycle ← orError (nextWsprCycleAfterReady? occurredAt DateTime.nanosPerSecond)
      cycleUnavailable
    return (← requiredText intentId "intentId",
      .wsprCycleArmed (← requiredText antennaLabel "antennaLabel") cycle.startsAt
        (if schemaVersionV5 ≤ schemaVersion then some .operatorConfirmed else none))
  | .skipWsprCycle intentId reason => do
    return (← requiredText intentId "intentId", .slotMissed (optionalText reason))
  | .confirmAntenna slotId antennaLabel note => do
    return (← requiredText slotId "slotId",
      .antennaStateConfirmed (← requiredText antennaLabel "antennaLabel") (optionalText note))
  | .confirmSignal slotId confirmation => do
    return (← requiredText slotId "slotId", .signalStateConfirmed (signalConfirmation confirmation))
  | .markMissed slotId reason => do
    return (← requiredText slotId "slotId", .slotMissed (optionalText reason))
  | .markBad slotId reason => do
    return (← requiredText slotId "slotId", .slotBad (← requiredText reason "reason"))
  | .addNote slotId note => do
    return (optionalText slotId, .noteAdded (← requiredText note "note"))
  | .retractEvent targetEventId reason => do
    return (none, .eventCorrected (← requiredText targetEventId "targetEventId") .retract
      (← requiredText reason "reason"))
  | .replaceEvent targetEventId slotId replacement reason => do
    let targetEventId ← requiredText targetEventId "targetEventId"
    let payload ← correctionPayloadV3 replacement
    return (none, .eventCorrected targetEventId
      (.replace ⟨occurredAt, .observedNow, none, optionalText slotId, payload⟩)
      (← requiredText reason "reason"))

def eventForActionV3 (sessionId : String) (schemaVersion : ℕ) (pending : PendingAction)
    (action : ConductorAction) : Except SessionErrorPayload OperatorEventV3 := do
  let occurredAt ← actionTime pending
  let (slotId, payload) ← actionPayloadV3 occurredAt schemaVersion action
  return {
    recordMeta := actionMeta packageVersion schemaVersion sessionId pending occurredAt
    eventId := "event-for-" ++ pending.token
    occurredAt := occurredAt
    timeBasis := .observedNow
    uncertaintySeconds := none
    slotId := slotId
    payload := payload }

end

end AntennaBench
