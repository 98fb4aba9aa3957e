import AntennaBench.Core.ModelV3

/-!
# Operator event reduction

The lifecycle machine and the reduction of correctable operator evidence in
committed append order, for schema v2 and schema v3. A reduction is a fold of
one step over the events; the step is the body of the loop in the source.
-/

namespace AntennaBench

inductive OperatorEventDiagnosticCodeV2 where
  | duplicateEventId
  | invalidLifecycleTransition
  | invalidCorrectionTarget
  | invalidCorrectionReason
  | invalidEventShape
  deriving DecidableEq

structure OperatorEventDiagnosticV2 where
  eventId : String
  relatedEventId : Option String
  code : OperatorEventDiagnosticCodeV2
  message : String
  deriving DecidableEq

inductive LifecycleTransitionErrorV2 where
  | staleRevision (expected actual : ℕ)
  | notLifecycle
  | invalidTransition (source : SessionLifecycleV2)
  deriving DecidableEq

namespace SessionLifecycleV2

/-- The name `{:?}` prints. -/
def debugName : SessionLifecycleV2 → String
  | draft => "Draft"
  | ready => "Ready"
  | running => "Running"
  | interrupted => "Interrupted"
  | ended => "Ended"
  | abandoned => "Abandoned"

def isTerminal : SessionLifecycleV2 → Bool
  | ended | abandoned => true
  | _ => false

end SessionLifecycleV2

def staleRevisionText (expected actual : ℕ) : String :=
  "expected checkpoint revision " ++ toString expected ++ ", but current revision is " ++
    toString actual

def LifecycleTransitionErrorV2.text : LifecycleTransitionErrorV2 → String
  | staleRevision expected actual => staleRevisionText expected actual
  | notLifecycle => "event is not a lifecycle transition"
  | invalidTransition source => "invalid lifecycle transition from " ++ source.debugName

def terminalEvidenceText : String :=
  "operator evidence cannot be appended after a terminal lifecycle event"

/-- `slot_required(kind)`: the shape error of an event without a slot. -/
def slotRequired (slotId : Option String) (kind : String) : Option String :=
  if slotId.isNone then some (kind ++ " requires a planned slot reference") else none

/-- `condition.then(|| text)`. -/
def thenText (condition : Bool) (text : String) : Option String :=
  if condition then some text else none

structure EffectiveOperatorEventV2 where
  sessionId : String
  sourceEventId : String
  effectiveThroughEventId : String
  recordedAt : DateTime
  occurredAt : DateTime
  timeBasis : EventTimeBasisV2
  uncertaintySeconds : Option ℕ
  slotId : Option String
  payload : CorrectableOperatorEventPayloadV2
  deriving DecidableEq

structure OperatorEventReductionV2 where
  lifecycle : SessionLifecycleV2
  effectiveEvents : List EffectiveOperatorEventV2
  diagnostics : List OperatorEventDiagnosticV2

namespace OperatorEventPayloadV2

def isLifecycle : OperatorEventPayloadV2 → Bool
  | sessionStarted _ | sessionInterrupted _ | interruptionDetected _ | sessionResumed _
  | sessionEnded _ | sessionAbandoned _ => true
  | _ => false

def correctable? : OperatorEventPayloadV2 → Option CorrectableOperatorEventPayloadV2
  | antennaStateConfirmed antennaLabel note => some (.antennaStateConfirmed antennaLabel note)
  | slotMissed reason => some (.slotMissed reason)
  | slotBad reason => some (.slotBad reason)
  | noteAdded note => some (.noteAdded note)
  | _ => none

end OperatorEventPayloadV2

open SessionLifecycleV2 in
def applyLifecycleTransition (current : SessionLifecycleV2) (payload : OperatorEventPayloadV2) :
    Except LifecycleTransitionErrorV2 SessionLifecycleV2 :=
  match current, payload with
  | ready, .sessionStarted _ => .ok running
  | running, .sessionInterrupted _ | running, .interruptionDetected _ => .ok interrupted
  | interrupted, .sessionResumed _ => .ok running
  | running, .sessionEnded _ | interrupted, .sessionEnded _ => .ok ended
  | draft, .sessionAbandoned _ | ready, .sessionAbandoned _ | running, .sessionAbandoned _
  | interrupted, .sessionAbandoned _ => .ok abandoned
  | source, payload =>
    if payload.isLifecycle then .error (.invalidTransition source) else .error .notLifecycle

def replacementShapeError (replacement : ReplacementOperatorEventV2) : Option String :=
  match replacement.payload with
  | .antennaStateConfirmed antennaLabel _ =>
    slotRequired replacement.slotId "replacement antenna confirmation" <|>
      thenText (isBlank antennaLabel || !isTrimmed antennaLabel)
        "replacement actual antenna label must be nonempty and trimmed"
  | .slotMissed _ => slotRequired replacement.slotId "replacement missed-slot event"
  | .slotBad reason =>
    slotRequired replacement.slotId "replacement bad-slot event" <|>
      thenText (isBlank reason) "replacement bad-slot reason must not be empty"
  | .noteAdded note => thenText (isBlank note) "replacement operator note must not be empty"

def correctionShapeError (slotId : Option String) (targetEventId reason : String)
    (replacementError : Option String) : Option String :=
  if slotId.isSome then
    some "correction events carry replacement slot state in the correction payload"
  else if isBlank targetEventId then some "correction target event ID must not be empty"
  else if isBlank reason then some "correction reason must not be empty"
  else replacementError

def eventShapeError (event : OperatorEventV2) : Option String :=
  if event.payload.isLifecycle && event.slotId.isSome then
    some "lifecycle events must not reference a planned slot"
  else match event.payload with
  | .antennaStateConfirmed antennaLabel _ =>
    slotRequired event.slotId "antenna confirmation" <|>
      thenText (isBlank antennaLabel || !isTrimmed antennaLabel)
        "actual antenna label must be nonempty and trimmed"
  | .slotMissed _ => slotRequired event.slotId "missed-slot event"
  | .slotBad reason =>
    slotRequired event.slotId "bad-slot event" <|>
      thenText (isBlank reason) "bad-slot reason must not be empty"
  | .noteAdded note => thenText (isBlank note) "operator note must not be empty"
  | .eventCorrected targetEventId correction reason =>
    correctionShapeError event.slotId targetEventId reason
      (match correction with
        | .retract => none
        | .replace replacement => replacementShapeError replacement)
  | _ => none

/-- The loop state of the reduction; `originals` maps an event to its index. -/
structure ReductionStateV2 where
  lifecycle : SessionLifecycleV2
  diagnostics : List OperatorEventDiagnosticV2
  seenIds : List String
  originals : List (String × ℕ)
  effective : List (Option EffectiveOperatorEventV2)

namespace ReductionStateV2

def report (state : ReductionStateV2) (event : OperatorEventV2) (related : Option String)
    (code : OperatorEventDiagnosticCodeV2) (message : String) : ReductionStateV2 :=
  { state with diagnostics := state.diagnostics ++ [⟨event.eventId, related, code, message⟩] }

def effectiveOriginal (event : OperatorEventV2) (payload : CorrectableOperatorEventPayloadV2) :
    EffectiveOperatorEventV2 where
  sessionId := event.recordMeta.sessionId
  sourceEventId := event.eventId
  effectiveThroughEventId := event.eventId
  recordedAt := event.recordMeta.recordedAt
  occurredAt := event.occurredAt
  timeBasis := event.timeBasis
  uncertaintySeconds := event.uncertaintySeconds
  slotId := event.slotId
  payload := payload

def effectiveFromReplacement (targetEventId : String) (correction : OperatorEventV2)
    (replacement : ReplacementOperatorEventV2) : EffectiveOperatorEventV2 where
  sessionId := correction.recordMeta.sessionId
  sourceEventId := targetEventId
  effectiveThroughEventId := correction.eventId
  recordedAt := correction.recordMeta.recordedAt
  occurredAt := replacement.occurredAt
  timeBasis := replacement.timeBasis
  uncertaintySeconds := replacement.uncertaintySeconds
  slotId := replacement.slotId
  payload := replacement.payload

def correct (state : ReductionStateV2) (event : OperatorEventV2) (targetEventId : String)
    (correction : EventCorrectionActionV2) (reason : String) : ReductionStateV2 :=
  if isBlank reason then
    state.report event targetEventId .invalidCorrectionReason
      "correction reason must not be empty"
  else match state.originals.lookup targetEventId with
  | none =>
    state.report event targetEventId .invalidCorrectionTarget
      "correction target must be an earlier correctable event"
  | some index =>
    { state with
      effective := state.effective.set index
        (match correction with
          | .retract => none
          | .replace replacement =>
            some (effectiveFromReplacement targetEventId event replacement)) }

/-- One iteration of the loop of `reduce_operator_events_v2`. -/
def step (state : ReductionStateV2) (event : OperatorEventV2) : ReductionStateV2 :=
  if state.seenIds.contains event.eventId then
    state.report event none .duplicateEventId "event ID is duplicated"
  else
    let state := { state with seenIds := event.eventId :: state.seenIds }
    match eventShapeError event with
    | some message => state.report event none .invalidEventShape message
    | none =>
      if event.payload.isLifecycle then
        match applyLifecycleTransition state.lifecycle event.payload with
        | .ok next => { state with lifecycle := next }
        | .error error => state.report event none .invalidLifecycleTransition error.text
      else if state.lifecycle.isTerminal then
        state.report event none .invalidLifecycleTransition terminalEvidenceText
      else match event.payload with
      | .eventCorrected targetEventId correction reason =>
        state.correct event targetEventId correction reason
      | payload =>
        match payload.correctable? with
        | none =>
          state.report event none .invalidEventShape
            "event payload is neither lifecycle evidence nor correctable operator evidence"
        | some payload =>
          { state with
            originals := (event.eventId, state.effective.length) :: state.originals
            effective := state.effective ++ [some (effectiveOriginal event payload)] }

def init (lifecycle : SessionLifecycleV2) : ReductionStateV2 :=
  ⟨lifecycle, [], [], [], []⟩

def finish (state : ReductionStateV2) : OperatorEventReductionV2 :=
  ⟨state.lifecycle, state.effective.filterMap id, state.diagnostics⟩

end ReductionStateV2

def reduceOperatorEventsV2 (initialLifecycle : SessionLifecycleV2)
    (events : List OperatorEventV2) : OperatorEventReductionV2 :=
  (events.foldl ReductionStateV2.step (.init initialLifecycle)).finish

inductive OperatorEventAppendErrorV2 where
  | staleRevision (expected actual : ℕ)
  | invalidEvent (message : String)
  deriving DecidableEq

def OperatorEventAppendErrorV2.text : OperatorEventAppendErrorV2 → String
  | staleRevision expected actual => staleRevisionText expected actual
  | invalidEvent message => "operator event is invalid: " ++ message

def validateOperatorEventAppendV2 (initialLifecycle : SessionLifecycleV2)
    (currentRevision expectedRevision : ℕ) (existing : List OperatorEventV2)
    (proposed : OperatorEventV2) :
    Except OperatorEventAppendErrorV2 OperatorEventReductionV2 :=
  if currentRevision ≠ expectedRevision then
    .error (.staleRevision expectedRevision currentRevision)
  else if existing.head?.any (·.recordMeta.sessionId ≠ proposed.recordMeta.sessionId) then
    .error (.invalidEvent "event belongs to a different session")
  else
    let baseline := reduceOperatorEventsV2 initialLifecycle existing
    let reduction := reduceOperatorEventsV2 initialLifecycle (existing ++ [proposed])
    if reduction.diagnostics.length ≠ baseline.diagnostics.length then
      .error (.invalidEvent ((reduction.diagnostics.getLast?.map (·.message)).getD
        "event did not produce a valid effective view"))
    else .ok reduction

def validateLifecycleTransitionV2 (current : SessionLifecycleV2)
    (currentRevision expectedRevision : ℕ) (payload : OperatorEventPayloadV2) :
    Except LifecycleTransitionErrorV2 SessionLifecycleV2 :=
  if currentRevision ≠ expectedRevision then
    .error (.staleRevision expectedRevision currentRevision)
  else applyLifecycleTransition current payload

end AntennaBench
