import Mathlib.Data.List.Sort
import AntennaBench.Core.WsprRun

/-!
# The analysis model and the projections into it

Analysis and reports read the schema-v1 records. A v2 bundle projects into them
after its operator events are reduced; a v3 bundle first repairs its WSPR.live
observations and projects to v2.
-/

namespace AntennaBench

structure RecordMeta where
  schemaVersion : ℕ
  sessionId : String
  timestamp : DateTime
  source : RecordSource
  deriving DecidableEq

inductive OperatorEventType where
  | sessionStarted
  | switched
  | missedSlot
  | badSlot
  | noteAdded
  | sessionEnded
  deriving DecidableEq

structure OperatorEvent where
  recordMeta : RecordMeta
  eventId : String
  slotId : Option String
  eventType : OperatorEventType
  note : Option String
  actualAntennaLabel : Option String
  deriving DecidableEq

structure ObservationRecord where
  recordMeta : RecordMeta
  observationId : String
  observationKind : ObservationKind
  band : Band
  frequencyHz : Option ℕ
  mode : Option String
  reporterCall : Option String
  heardCall : Option String
  reporterGrid : Option String
  heardGrid : Option String
  distanceKm : Option IeeeFloat
  azimuthDegrees : Option IeeeFloat
  snrDb : Option IeeeFloat
  driftHzPerMinute : Option IeeeFloat
  powerWatts : Option IeeeFloat
  slotId : Option String
  slotLabel : Option String
  slotConfidence : Option IeeeFloat
  raw : JsonValue
  deriving BEq

structure WsjtXRecord where
  recordMeta : RecordMeta
  recordId : String
  messageType : String
  raw : JsonValue
  deriving BEq

structure RigRecord where
  recordMeta : RecordMeta
  recordId : String
  status : String
  frequencyHz : Option ℕ
  mode : Option String
  raw : JsonValue
  deriving BEq

structure PropagationRecord where
  recordMeta : RecordMeta
  recordId : String
  observedAt : DateTime
  solarFluxF107 : Option IeeeFloat
  sunspotNumber : Option ℕ
  kpIndex : Option IeeeFloat
  aIndex : Option ℕ
  solarWindSpeedKms : Option IeeeFloat
  bzNt : Option IeeeFloat
  alerts : List String
  daylightState : Option String
  raw : JsonValue
  deriving BEq

structure BundleFiles where
  manifest : String := "manifest.json"
  station : String := "station.json"
  antennas : String := "antennas.json"
  schedule : String := "schedule.json"
  events : String := "events.jsonl"
  observations : String := "observations.jsonl"
  wsjtx : String := "wsjtx.jsonl"
  rig : String := "rig.jsonl"
  propagation : String := "propagation.jsonl"
  analysis : String := "analysis.json"
  attachmentsDir : String := "attachments"
  deriving DecidableEq

structure BundleManifest where
  schemaVersion : ℕ
  sessionId : String
  createdAt : DateTime
  appVersion : String
  files : BundleFiles
  deriving DecidableEq

structure BundleContents where
  manifest : BundleManifest
  station : Station
  antennas : AntennasFile
  schedule : Schedule
  events : List OperatorEvent
  observations : List ObservationRecord
  wsjtx : List WsjtXRecord
  rig : List RigRecord
  propagation : List PropagationRecord
  analysis : AnalysisFile

inductive CurrentRecordKind where
  | event
  | observation
  | rig
  | propagation
  deriving DecidableEq

structure CurrentRecordProvenance where
  recordKind : CurrentRecordKind
  recordId : String
  provenance : Provenance
  deriving DecidableEq

structure CurrentBundleContents where
  bundle : BundleContents
  recordProvenance : List CurrentRecordProvenance
  adapterRecords : List AdapterRecordV2
  sessionState : Option SessionStateV2

/-- `(!text.is_empty()).then_some(text)`. -/
def nonemptyText (text : String) : Option String :=
  if text.isEmpty then none else some text

/-- An operator fact of the analysis model, attributed to the operator. -/
def operatorFact (sessionId eventId : String) (occurredAt : DateTime) (slotId : Option String)
    (eventType : OperatorEventType) (note actualAntennaLabel : Option String) :
    OperatorEvent where
  recordMeta := ⟨2, sessionId, occurredAt, .operator⟩
  eventId := eventId
  slotId := slotId
  eventType := eventType
  note := note
  actualAntennaLabel := actualAntennaLabel

def EffectiveOperatorEventV2.projectLegacy (event : EffectiveOperatorEventV2) : OperatorEvent :=
  let fact := operatorFact event.sessionId event.sourceEventId event.occurredAt event.slotId
  match event.payload with
  | .antennaStateConfirmed antennaLabel note => fact .switched note antennaLabel
  | .slotMissed reason => fact .missedSlot reason none
  | .slotBad reason => fact .badSlot (nonemptyText reason) none
  | .noteAdded note => fact .noteAdded (nonemptyText note) none

def OperatorEventV2.projectLegacyLifecycle (event : OperatorEventV2) : Option OperatorEvent :=
  let lifecycle (eventType : OperatorEventType) (note : Option String) : OperatorEvent :=
    { recordMeta := ⟨2, event.recordMeta.sessionId, event.occurredAt,
        event.recordMeta.provenance.legacySource⟩
      eventId := event.eventId
      slotId := event.slotId
      eventType := eventType
      note := note
      actualAntennaLabel := none }
  match event.payload with
  | .sessionStarted note => some (lifecycle .sessionStarted note)
  | .sessionEnded reason => some (lifecycle .sessionEnded reason)
  | _ => none

def RecordMetaV2.project (recordMeta : RecordMetaV2) : RecordMeta where
  schemaVersion := 2
  sessionId := recordMeta.sessionId
  timestamp := recordMeta.recordedAt
  source := recordMeta.provenance.legacySource

def ObservationRecordV2.project (observation : ObservationRecordV2) : ObservationRecord where
  recordMeta := observation.recordMeta.project
  observationId := observation.observationId
  observationKind := observation.observationKind
  band := observation.band
  frequencyHz := observation.frequencyHz
  mode := observation.mode
  reporterCall := observation.reporterCall
  heardCall := observation.heardCall
  reporterGrid := observation.reporterGrid
  heardGrid := observation.heardGrid
  distanceKm := observation.distanceKm
  azimuthDegrees := observation.azimuthDegrees
  snrDb := observation.snrDb
  driftHzPerMinute := observation.driftHzPerMinute
  powerWatts := observation.powerWatts
  slotId := observation.slotId
  slotLabel := observation.slotLabel
  slotConfidence := observation.slotConfidence
  raw := observation.raw

def RigRecordV2.project (record : RigRecordV2) : RigRecord where
  recordMeta := record.recordMeta.project
  recordId := record.recordId
  status := record.status
  frequencyHz := record.frequencyHz
  mode := record.mode
  raw := record.raw

def PropagationRecordV2.project (record : PropagationRecordV2) : PropagationRecord where
  recordMeta := record.recordMeta.project
  recordId := record.recordId
  observedAt := record.observedAt
  solarFluxF107 := record.solarFluxF107
  sunspotNumber := record.sunspotNumber
  kpIndex := record.kpIndex
  aIndex := record.aIndex
  solarWindSpeedKms := record.solarWindSpeedKms
  bzNt := record.bzNt
  alerts := record.alerts
  daylightState := record.daylightState
  raw := record.raw

/-- The events in committed order, each lifecycle event as it is and each original with
the fact left for it in `effective`, which holds the latest entry of an identity first. -/
def legacyEvents (effective : List (String × OperatorEvent)) :
    List OperatorEventV2 → List OperatorEvent
  | [] => []
  | event :: rest =>
    match event.projectLegacyLifecycle with
    | some legacy => legacy :: legacyEvents effective rest
    | none =>
      match effective.lookup event.eventId with
      | some legacy =>
        legacy :: legacyEvents (effective.filter (·.1 != event.eventId)) rest
      | none => legacyEvents effective rest

def BundleV2Contents.legacyEvents (bundle : BundleV2Contents) : List OperatorEvent :=
  let reduction := reduceOperatorEventsV2 .ready bundle.events
  AntennaBench.legacyEvents ((reduction.effectiveEvents.map fun event =>
    (event.projectLegacy.eventId, event.projectLegacy)).reverse) bundle.events

def BundleV2Contents.intoCurrent (bundle : BundleV2Contents) : CurrentBundleContents where
  bundle := {
    manifest := {
      schemaVersion := 2
      sessionId := bundle.manifest.sessionId
      createdAt := bundle.manifest.createdAt
      appVersion := bundle.manifest.appVersion
      files := {} }
    station := bundle.station
    antennas := bundle.antennas
    schedule := bundle.schedule
    events := bundle.legacyEvents
    observations := bundle.observations.map (·.project)
    wsjtx := []
    rig := bundle.rig.map (·.project)
    propagation := bundle.propagation.map (·.project)
    analysis := bundle.analysis }
  recordProvenance :=
    bundle.events.map (fun event => ⟨.event, event.eventId, event.recordMeta.provenance⟩) ++
      bundle.observations.map (fun record =>
        ⟨.observation, record.observationId, record.recordMeta.provenance⟩) ++
      bundle.rig.map (fun record => ⟨.rig, record.recordId, record.recordMeta.provenance⟩) ++
      bundle.propagation.map fun record =>
        ⟨.propagation, record.recordId, record.recordMeta.provenance⟩
  adapterRecords := bundle.adapterRecords
  sessionState := some bundle.sessionState

def wsprDirection : String → Option WsprCycleDirection
  | "receive" => some .receive
  | "transmit" => some .transmit
  | _ => none

/-- The observation an accepted WSPR.live spot record links, with the time of the spot. -/
def AdapterRecordV2.spotSource? (record : AdapterRecordV2) : Option (String × DateTime) := do
  guard (record.disposition == .accepted && record.recordType == "wspr_live_spot" &&
    record.recordMeta.provenance.providerId.value == "wspr-live")
  let sourceTime ← record.sourceTime
  let link ← record.normalizedRecords.find? (·.recordKind == .observation)
  return (link.recordId, sourceTime)

/-- `source_times`: the last record that links an observation gives its time. -/
def spotSourceTime? (adapterRecords : List AdapterRecordV2) (observationId : String) :
    Option DateTime :=
  (adapterRecords.filterMap (·.spotSource?)).reverse.lookup observationId

/-- `directions`: the direction of the last intent of that identity. -/
def ScheduleV3.intentDirection? (schedule : ScheduleV3) (intentId : String) :
    Option WsprCycleDirection :=
  ((schedule.wsprCycleIntents.map fun intent => (intent.intentId, intent.direction)).reverse.lookup
    intentId).join

def ArmedWsprCycleV3.confirms (schedule : ScheduleV3) (band : Band)
    (direction : WsprCycleDirection) (sourceTime : DateTime) (cycle : ArmedWsprCycleV3) : Bool :=
  cycle.occupancyFullyCoversTransmission && cycle.band == band &&
    schedule.intentDirection? cycle.intentId == some direction &&
    (DateTime.checkedAdd cycle.window.startsAt
      (-(wsprNominalStartOffsetSeconds * DateTime.nanosPerSecond))).any (· ≤ sourceTime) &&
    sourceTime < cycle.window.transmissionEndsAt

/-- The nearest `f32` to 0.95. -/
def repairedSlotConfidence : IeeeFloat := .finite (15938355 / 2 ^ 24)

/-- The confirmed cycle a WSPR.live observation belongs to. -/
def repairCycle? (schedule : ScheduleV3) (cycles : List ArmedWsprCycleV3)
    (adapterRecords : List AdapterRecordV2) (observation : ObservationRecordV2) :
    Option ArmedWsprCycleV3 := do
  let sourceTime ← spotSourceTime? adapterRecords observation.observationId
  let directionText ← (observation.raw.get? "direction").bind (·.asStr?)
  let direction ← wsprDirection directionText
  cycles.find? (·.confirms schedule observation.band direction sourceTime)

def ObservationRecordV2.alignTo (observation : ObservationRecordV2) (cycle : ArmedWsprCycleV3) :
    ObservationRecordV2 :=
  { observation with
    recordMeta := { observation.recordMeta with recordedAt := cycle.window.startsAt }
    slotId := some cycle.intentId
    slotLabel := some cycle.antennaLabel
    slotConfidence := some repairedSlotConfidence }

def repairConfirmedWsprLiveObservations (schemaVersion : ℕ) (schedule : ScheduleV3)
    (events : List OperatorEventV3) (observations : List ObservationRecordV2)
    (adapterRecords : List AdapterRecordV2) : List ObservationRecordV2 :=
  if schemaVersion < 4 then observations
  else
    let cycles := (projectWsprRunV3 schedule events).cycles
    observations.map fun observation =>
      match repairCycle? schedule cycles adapterRecords observation with
      | some cycle => observation.alignTo cycle
      | none => observation

def PlannedSlotV3.project (slot : PlannedSlotV3) : PlannedSlot where
  slotId := slot.slotId
  sequenceNumber := slot.sequenceNumber
  startsAt := slot.startsAt
  durationSeconds := slot.durationSeconds
  guardSeconds := slot.guardSeconds
  band := slot.band
  antennaLabel := slot.antennaLabel

/-- The slot an armed event makes of its intent. -/
def OperatorEventV3.armedSlot? (schedule : ScheduleV3) (event : OperatorEventV3) :
    Option PlannedSlot :=
  match event.payload with
  | .wsprCycleArmed antennaLabel cycleStartsAt _ => do
    let intentId ← event.slotId
    let intent ← schedule.findIntent? intentId
    return {
      slotId := intent.intentId
      sequenceNumber := intent.sequenceNumber
      startsAt := cycleStartsAt
      durationSeconds := 120
      guardSeconds := 0
      band := intent.band
      antennaLabel := antennaLabel }
  | _ => none

/-- One iteration of the loop over the events that collects the armed slots. -/
def projectArmedSlot (schedule : ScheduleV3) (slots : List PlannedSlot)
    (event : OperatorEventV3) : List PlannedSlot :=
  match event.armedSlot? schedule with
  | none => slots
  | some slot => if slots.any (·.slotId == slot.slotId) then slots else slots ++ [slot]

/-- The order of `(slot.sequence_number, slot.starts_at)`. -/
def PlannedSlot.Before (a b : PlannedSlot) : Prop :=
  a.sequenceNumber < b.sequenceNumber ∨
    (a.sequenceNumber = b.sequenceNumber ∧ a.startsAt ≤ b.startsAt)

instance : DecidableRel PlannedSlot.Before := fun _ _ =>
  inferInstanceAs (Decidable (_ ∨ (_ ∧ _)))

def projectedSlots (schedule : ScheduleV3) (events : List OperatorEventV3) :
    List PlannedSlot :=
  (events.foldl (projectArmedSlot schedule) (schedule.slots.map (·.project))).insertionSort
    PlannedSlot.Before

def projectV3MetaToV2 (recordMeta : RecordMetaV3) : RecordMetaV2 :=
  { recordMeta with schemaVersion := 2 }

def projectV3CorrectableToV2 :
    CorrectableOperatorEventPayloadV3 → Option CorrectableOperatorEventPayloadV2
  | .antennaStateConfirmed antennaLabel note => some (.antennaStateConfirmed antennaLabel note)
  | .signalStateConfirmed _ => none
  | .slotMissed reason => some (.slotMissed reason)
  | .slotBad reason => some (.slotBad reason)
  | .noteAdded note => some (.noteAdded note)

def projectV3CorrectionToV2 : EventCorrectionActionV3 → Option EventCorrectionActionV2
  | .retract => some .retract
  | .replace replacement => do
    let payload ← projectV3CorrectableToV2 replacement.payload
    return .replace {
      occurredAt := replacement.occurredAt
      timeBasis := replacement.timeBasis
      uncertaintySeconds := replacement.uncertaintySeconds
      slotId := replacement.slotId
      payload := payload }

def armedCycleNote : String := "Antenna ready for the armed WSPR cycle."

def projectV3PayloadToV2 : OperatorEventPayloadV3 → Option OperatorEventPayloadV2
  | .sessionStarted note => some (.sessionStarted note)
  | .sessionInterrupted reason => some (.sessionInterrupted reason)
  | .interruptionDetected reason => some (.interruptionDetected reason)
  | .sessionResumed note => some (.sessionResumed note)
  | .sessionEnded reason => some (.sessionEnded reason)
  | .sessionAbandoned reason => some (.sessionAbandoned reason)
  | .antennaSwitchStarted _ => none
  | .wsprCycleArmed antennaLabel _ _ =>
    some (.antennaStateConfirmed antennaLabel (some armedCycleNote))
  | .antennaStateConfirmed antennaLabel note => some (.antennaStateConfirmed antennaLabel note)
  | .signalStateConfirmed _ => none
  | .slotMissed reason => some (.slotMissed reason)
  | .slotBad reason => some (.slotBad reason)
  | .noteAdded note => some (.noteAdded note)
  | .eventCorrected targetEventId correction reason => do
    let correction ← projectV3CorrectionToV2 correction
    return .eventCorrected targetEventId correction reason

def projectV3EventToV2 (event : OperatorEventV3) : Option OperatorEventV2 := do
  let payload ← projectV3PayloadToV2 event.payload
  return {
    recordMeta := projectV3MetaToV2 event.recordMeta
    eventId := event.eventId
    occurredAt := event.occurredAt
    timeBasis := event.timeBasis
    uncertaintySeconds := event.uncertaintySeconds
    slotId := event.slotId
    payload := payload }

def RigRecordV3.projectToV2 (record : RigRecordV3) : RigRecordV2 where
  recordMeta := projectV3MetaToV2 record.recordMeta
  recordId := record.recordId
  adapterRecordIds := record.adapterRecordIds
  status := record.status
  frequencyHz := record.frequencyHz
  mode := record.mode
  raw := record.raw

/-- The v2 bundle that `into_current` builds of a v3 bundle. -/
def BundleV3Contents.projectToV2 (bundle : BundleV3Contents) : BundleV2Contents where
  manifest := { bundle.manifest with schemaVersion := 2 }
  sessionState := { bundle.sessionState with schemaVersion := 2 }
  station := { bundle.station with schemaVersion := 2 }
  antennas := { bundle.antennas with schemaVersion := 2 }
  schedule := {
    schemaVersion := 2
    sessionId := bundle.schedule.sessionId
    mode := bundle.schedule.mode
    goal := bundle.schedule.goal
    slots := projectedSlots bundle.schedule bundle.events }
  events := bundle.events.filterMap projectV3EventToV2
  observations := (repairConfirmedWsprLiveObservations bundle.manifest.schemaVersion
    bundle.schedule bundle.events bundle.observations bundle.adapterRecords).map fun record =>
      { record with recordMeta := projectV3MetaToV2 record.recordMeta }
  adapterRecords := bundle.adapterRecords.map fun record =>
    { record with recordMeta := projectV3MetaToV2 record.recordMeta }
  rig := bundle.rig.map (·.projectToV2)
  propagation := bundle.propagation.map fun record =>
    { record with recordMeta := projectV3MetaToV2 record.recordMeta }
  analysis := { bundle.analysis with schemaVersion := 2 }

def BundleV3Contents.intoCurrent (bundle : BundleV3Contents) : CurrentBundleContents :=
  let current := bundle.projectToV2.intoCurrent
  let projectedEventIds := (current.recordProvenance.filter (·.recordKind == .event)).map
    (·.recordId)
  { current with
    recordProvenance := current.recordProvenance ++
      (bundle.events.map fun event =>
        (⟨.event, event.eventId, event.recordMeta.provenance⟩ : CurrentRecordProvenance)).filter
          fun record => !projectedEventIds.contains record.recordId }

end AntennaBench
