import AntennaBench.Core.OperatorEvents

/-!
# WSPR cycle timing and schema-v3 event reduction

Signal-state confirmations follow the correction rules of the other operator
facts; operational payloads need a running session and have no effective event.
-/

namespace AntennaBench

def wsprCycleSeconds : ℤ := 120

def wsprNominalStartOffsetSeconds : ℤ := 1

/-- 162 symbols of 8192/12000 seconds, in whole milliseconds. -/
def wsprTransmissionMilliseconds : ℤ := 162 * 8192 * 1000 / 12000

structure WsprCycleWindow where
  startsAt : DateTime
  transmissionEndsAt : DateTime
  nextCycleStartsAt : DateTime
  deriving DecidableEq

def isWsprCycleStart (timestamp : DateTime) : Bool :=
  timestamp % DateTime.nanosPerSecond == 0 &&
    (timestamp / DateTime.nanosPerSecond) % wsprCycleSeconds == wsprNominalStartOffsetSeconds

/-- `WsprCycleWindow::from_start`; every caller drops the error value. -/
def WsprCycleWindow.fromStart? (startsAt : DateTime) : Option WsprCycleWindow := do
  guard (isWsprCycleStart startsAt)
  let transmissionEndsAt ←
    DateTime.checkedAdd startsAt (wsprTransmissionMilliseconds * DateTime.nanosPerMilli)
  let nextCycleStartsAt ←
    DateTime.checkedAdd startsAt (wsprCycleSeconds * DateTime.nanosPerSecond)
  return ⟨startsAt, transmissionEndsAt, nextCycleStartsAt⟩

structure EffectiveOperatorEventV3 where
  sessionId : String
  sourceEventId : String
  effectiveThroughEventId : String
  recordedAt : DateTime
  occurredAt : DateTime
  timeBasis : EventTimeBasisV2
  uncertaintySeconds : Option ℕ
  slotId : Option String
  payload : CorrectableOperatorEventPayloadV3

structure OperatorEventReductionV3 where
  lifecycle : SessionLifecycleV2
  effectiveEvents : List EffectiveOperatorEventV3
  diagnostics : List OperatorEventDiagnosticV2

namespace OperatorEventPayloadV3

def isLifecycle : OperatorEventPayloadV3 → Bool
  | sessionStarted _ | sessionInterrupted _ | interruptionDetected _ | sessionResumed _
  | sessionEnded _ | sessionAbandoned _ => true
  | _ => false

def isOperational : OperatorEventPayloadV3 → Bool
  | antennaSwitchStarted _ | wsprCycleArmed .. => true
  | _ => false

def correctable? : OperatorEventPayloadV3 → Option CorrectableOperatorEventPayloadV3
  | antennaStateConfirmed antennaLabel note => some (.antennaStateConfirmed antennaLabel note)
  | signalStateConfirmed confirmation => some (.signalStateConfirmed confirmation)
  | slotMissed reason => some (.slotMissed reason)
  | slotBad reason => some (.slotBad reason)
  | noteAdded note => some (.noteAdded note)
  | _ => none

end OperatorEventPayloadV3

open SessionLifecycleV2 in
def applyLifecycleTransitionV3 (current : SessionLifecycleV2)
    (payload : OperatorEventPayloadV3) :
    Except LifecycleTransitionErrorV2 SessionLifecycleV2 :=
  match current, payload with
  | ready, .sessionStarted _ => .ok running
  | running, .sessionInterrupted _ | running, .interruptionDetected _ => .ok interrupted
  | interrupted, .sessionResumed _ => .ok running
  | running, .sessionEnded _ | interrupted, .sessionEnded _ => .ok ended
  | draft, .sessionAbandoned _ | ready, .sessionAbandoned _ | running, .sessionAbandoned _
  | interrupted, .sessionAbandoned _ => .ok abandoned
  | source, payload =>
    if payload.isLifecycle then .error (.invalidTransition source) else .error .notLifecycle

def replacementShapeErrorV3 (replacement : ReplacementOperatorEventV3) : Option String :=
  match replacement.payload with
  | .antennaStateConfirmed antennaLabel _ =>
    slotRequired replacement.slotId "replacement antenna confirmation" <|>
      thenText (isBlank antennaLabel || !isTrimmed antennaLabel)
        "replacement actual antenna label must be nonempty and trimmed"
  | .signalStateConfirmed _ =>
    slotRequired replacement.slotId "replacement signal-state confirmation"
  | .slotMissed _ => slotRequired replacement.slotId "replacement missed-slot event"
  | .slotBad reason =>
    slotRequired replacement.slotId "replacement bad-slot event" <|>
      thenText (isBlank reason) "replacement bad-slot reason must not be empty"
  | .noteAdded note => thenText (isBlank note) "replacement operator note must not be empty"

def eventShapeErrorV3 (event : OperatorEventV3) : Option String :=
  if event.payload.isLifecycle && event.slotId.isSome then
    some "lifecycle events must not reference a planned slot"
  else match event.payload with
  | .antennaSwitchStarted _ =>
    thenText event.slotId.isSome "antenna-switch events must not reference a cycle intent"
  | .wsprCycleArmed antennaLabel cycleStartsAt _ =>
    slotRequired event.slotId "armed WSPR cycle" <|>
      thenText (isBlank antennaLabel || !isTrimmed antennaLabel)
        "armed WSPR cycle antenna label must be nonempty and trimmed" <|>
      thenText (!isWsprCycleStart cycleStartsAt)
        "armed WSPR cycle must start one second into an even UTC minute" <|>
      thenText (cycleStartsAt < event.occurredAt)
        "armed WSPR cycle cannot start before the antenna was ready"
  | .antennaStateConfirmed antennaLabel _ =>
    slotRequired event.slotId "antenna confirmation" <|>
      thenText (isBlank antennaLabel || !isTrimmed antennaLabel)
        "actual antenna label must be nonempty and trimmed"
  | .signalStateConfirmed _ => slotRequired event.slotId "signal-state confirmation"
  | .slotMissed _ => slotRequired event.slotId "missed-slot event"
  | .slotBad reason =>
    slotRequired event.slotId "bad-slot event" <|>
      thenText (isBlank reason) "bad-slot reason must not be empty"
  | .noteAdded note => thenText (isBlank note) "operator note must not be empty"
  | .eventCorrected targetEventId correction reason =>
    correctionShapeError event.slotId targetEventId reason
      (match correction with
        | .retract => none
        | .replace replacement => replacementShapeErrorV3 replacement)
  | _ => none

structure ReductionStateV3 where
  lifecycle : SessionLifecycleV2
  diagnostics : List OperatorEventDiagnosticV2
  seenIds : List String
  originals : List (String × ℕ)
  effective : List (Option EffectiveOperatorEventV3)

namespace ReductionStateV3

def report (state : ReductionStateV3) (event : OperatorEventV3) (related : Option String)
    (code : OperatorEventDiagnosticCodeV2) (message : String) : ReductionStateV3 :=
  { state with diagnostics := state.diagnostics ++ [⟨event.eventId, related, code, message⟩] }

def effectiveOriginal (event : OperatorEventV3) (payload : CorrectableOperatorEventPayloadV3) :
    EffectiveOperatorEventV3 where
  sessionId := event.recordMeta.sessionId
  sourceEventId := event.eventId
  effectiveThroughEventId := event.eventId
  recordedAt := event.recordMeta.recordedAt
  occurredAt := event.occurredAt
  timeBasis := event.timeBasis
  uncertaintySeconds := event.uncertaintySeconds
  slotId := event.slotId
  payload := payload

def effectiveFromReplacement (targetEventId : String) (correction : OperatorEventV3)
    (replacement : ReplacementOperatorEventV3) : EffectiveOperatorEventV3 where
  sessionId := correction.recordMeta.sessionId
  sourceEventId := targetEventId
  effectiveThroughEventId := correction.eventId
  recordedAt := correction.recordMeta.recordedAt
  occurredAt := replacement.occurredAt
  timeBasis := replacement.timeBasis
  uncertaintySeconds := replacement.uncertaintySeconds
  slotId := replacement.slotId
  payload := replacement.payload

def correct (state : ReductionStateV3) (event : OperatorEventV3) (targetEventId : String)
    (correction : EventCorrectionActionV3) (reason : String) : ReductionStateV3 :=
  if isBlank reason then
    state.report event targetEventId .invalidCorrectionReason
      "correction reason must not be empty"
  else match state.originals.lookup targetEventId with
  | none =>
    state.report event targetEventId .invalidCorrectionTarget
      "correction target must be an earlier correctable event"
  | some index =>
    { state with
      effective := state.effective.set index
        (match correction with
          | .retract => none
          | .replace replacement =>
            some (effectiveFromReplacement targetEventId event replacement)) }

/-- One iteration of the loop of `reduce_operator_events_v3`. -/
def step (state : ReductionStateV3) (event : OperatorEventV3) : ReductionStateV3 :=
  if state.seenIds.contains event.eventId then
    state.report event none .duplicateEventId "event ID is duplicated"
  else
    let state := { state with seenIds := event.eventId :: state.seenIds }
    match eventShapeErrorV3 event with
    | some message => state.report event none .invalidEventShape message
    | none =>
      if event.payload.isLifecycle then
        match applyLifecycleTransitionV3 state.lifecycle event.payload with
        | .ok next => { state with lifecycle := next }
        | .error error => state.report event none .invalidLifecycleTransition error.text
      else if state.lifecycle.isTerminal then
        state.report event none .invalidLifecycleTransition terminalEvidenceText
      else if event.payload.isOperational then
        if state.lifecycle = .running then state
        else
          state.report event none .invalidLifecycleTransition
            "operator-paced run actions require a running session"
      else match event.payload with
      | .eventCorrected targetEventId correction reason =>
        state.correct event targetEventId correction reason
      | payload =>
        match payload.correctable? with
        | none =>
          state.report event none .invalidEventShape
            "event payload is neither lifecycle evidence nor correctable operator evidence"
        | some payload =>
          { state with
            originals := (event.eventId, state.effective.length) :: state.originals
            effective := state.effective ++ [some (effectiveOriginal event payload)] }

def init (lifecycle : SessionLifecycleV2) : ReductionStateV3 :=
  ⟨lifecycle, [], [], [], []⟩

def finish (state : ReductionStateV3) : OperatorEventReductionV3 :=
  ⟨state.lifecycle, state.effective.filterMap id, state.diagnostics⟩

end ReductionStateV3

/-- The loop state after all of `events`. -/
def reduceStateV3 (initialLifecycle : SessionLifecycleV2) (events : List OperatorEventV3) :
    ReductionStateV3 :=
  events.foldl ReductionStateV3.step (.init initialLifecycle)

def reduceOperatorEventsV3 (initialLifecycle : SessionLifecycleV2)
    (events : List OperatorEventV3) : OperatorEventReductionV3 :=
  (reduceStateV3 initialLifecycle events).finish

theorem reduceStateV3_append (initialLifecycle : SessionLifecycleV2)
    (events more : List OperatorEventV3) :
    reduceStateV3 initialLifecycle (events ++ more) =
      more.foldl ReductionStateV3.step (reduceStateV3 initialLifecycle events) :=
  List.foldl_append

end AntennaBench
