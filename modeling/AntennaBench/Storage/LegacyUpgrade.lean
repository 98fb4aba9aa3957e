import Mathlib.Data.List.Infix
import AntennaBench.Core.Validation
import AntennaBench.Storage.Checkpoint
import AntennaBench.Storage.ReadV3
import AntennaBench.Wsjtx.Scalars

/-!
# Schema upgrade of a v1 bundle

`migrate_bundle` turns the records of a schema-v1 bundle into schema-v2 records and
the evidence behind them. Each retained WSJT-X line becomes an adapter record linked to
the observations it matches; an observation no line matches, and each rig and propagation
record, brings its own raw value as evidence.
-/

namespace AntennaBench

inductive BundleUpgradeError where
  | legacyEvidenceCount (records lines : ℕ)
  deriving DecidableEq

/-- `text.contains(part)`. -/
def containsText (text part : String) : Bool :=
  decide (part.toList <:+: text.toList)

def legacyWsjtxMatches (wsjtx : WsjtXRecord) (observation : ObservationRecord) : Bool :=
  if wsjtx.recordMeta.source != observation.recordMeta.source ||
      wsjtx.recordMeta.timestamp != observation.recordMeta.timestamp ||
      !containsText wsjtx.messageType "decode" then false
  else match (wsjtx.raw.get? "line_number").bind (·.asU64?),
      (observation.raw.get? "line_number").bind (·.asU64?) with
    | some left, some right => left == right
    | none, none => true
    | _, _ => false

def BundleContents.matchingObservations (v1 : BundleContents) (record : WsjtXRecord) :
    List ObservationRecord :=
  v1.observations.filter (legacyWsjtxMatches record)

/-- The value `wsjtx_observation_links` holds for an observation. -/
structure EvidenceLink where
  evidenceId : String
  mutationId : String
  memberIndex : ℕ
  memberCount : ℕ
  deriving DecidableEq

def BundleFilesV2.standard : BundleFilesV2 where
  manifest := "manifest.json"
  sessionState := "session-state.json"
  station := "station.json"
  antennas := "antennas.json"
  schedule := "schedule.json"
  events := "events.jsonl"
  observations := "observations.jsonl"
  adapterRecords := "adapter-records.jsonl"
  rig := "rig.jsonl"
  propagation := "propagation.jsonl"
  analysis := "analysis.json"
  attachmentsDir := "attachments"
  runtimeContexts := none
  diagnostics := none

namespace LegacyUpgrade

def legacyMalformed : AdapterReasonId := ⟨"legacy.malformed", by decide⟩
def legacyAccepted : AdapterReasonId := ⟨"legacy.accepted", by decide⟩
def legacyNormalized : AdapterReasonId := ⟨"legacy.normalized", by decide⟩

section

variable (E : Env)

/-- `sha256_hex` of a text. -/
def textDigest (text : String) : String := E.sha256Hex (stringBytes text)

def boundedMigrationId (kind legacyId : String) : String :=
  let candidate := kind ++ "-" ++ legacyId
  if isMachineIdentity candidate then candidate else kind ++ "-" ++ textDigest E legacyId

/-- The text `migration_mutation_id` digests. -/
def mutationText (stream id : String) : String := stream ++ "\x00" ++ id

def migrationMutationId (stream id : String) : String :=
  "migration-" ++ textDigest E (mutationText stream id)

def kindName : NormalizedRecordKind → String
  | .observation => "observation"
  | .rig => "rig"
  | .propagation => "propagation"

def legacyEvidenceId (recordKind : NormalizedRecordKind) (normalizedId : String) : String :=
  boundedMigrationId E ("legacy-" ++ kindName recordKind) normalizedId

end

def migrateMetaWithMutation (recordMeta : RecordMeta) (mutationId : String)
    (memberIndex memberCount : ℕ) (appVersion : String) : RecordMetaV2 where
  schemaVersion := schemaVersionV2
  sessionId := recordMeta.sessionId
  recordedAt := recordMeta.timestamp
  provenance := .fromLegacy recordMeta.source appVersion
  mutation := ⟨mutationId, memberIndex, memberCount⟩
  runtimeContextId := none

section

variable (E : Env) (jsonText : JsonValue → String) (v1 : BundleContents)

def migrateMeta (recordMeta : RecordMeta) (stream id : String) (memberIndex memberCount : ℕ)
    (appVersion : String) : RecordMetaV2 :=
  migrateMetaWithMutation recordMeta (migrationMutationId E stream id) memberIndex memberCount
    appVersion

def migratePayload (event : OperatorEvent) : OperatorEventPayloadV2 :=
  match event.eventType with
  | .sessionStarted => .sessionStarted event.note
  | .switched => .antennaStateConfirmed
      ((event.slotId.bind fun slotId =>
        (v1.schedule.slots.find? (·.slotId == slotId)).map (·.antennaLabel)).getD
        "legacy-unknown") event.note
  | .missedSlot => .slotMissed event.note
  | .badSlot => .slotBad (event.note.getD "")
  | .noteAdded => .noteAdded (event.note.getD "")
  | .sessionEnded => .sessionEnded event.note

def migrateEvent (event : OperatorEvent) : OperatorEventV2 where
  recordMeta := migrateMeta E event.recordMeta "events" event.eventId 0 1 v1.manifest.appVersion
  eventId := event.eventId
  occurredAt := event.recordMeta.timestamp
  timeBasis := .operatorReported
  uncertaintySeconds := none
  slotId := event.slotId
  payload := migratePayload v1 event

def started : Bool := v1.events.any (·.eventType == .sessionStarted)

def ended : Bool := v1.events.any (·.eventType == .sessionEnded)

def startedWithoutEnd : Bool := started v1 && !ended v1

def interruptionId : String :=
  boundedMigrationId E "legacy-upgrade-interruption" v1.manifest.sessionId

/-- The interruption recorded for a session that started and never ended. -/
def interruptionEvent : OperatorEventV2 :=
  let timestamp := (v1.events.getLast?.map (·.recordMeta.timestamp)).getD v1.manifest.createdAt
  { recordMeta := migrateMeta E ⟨1, v1.manifest.sessionId, timestamp, .derived⟩ "events"
      (interruptionId E v1) 0 1 v1.manifest.appVersion
    eventId := interruptionId E v1
    occurredAt := timestamp
    timeBasis := .recoverySystem
    uncertaintySeconds := none
    slotId := none
    payload := .interruptionDetected
      (some "schema-v1 upgrade recovered a previously started session") }

def migrateEvents : List OperatorEventV2 :=
  v1.events.map (migrateEvent E v1) ++
    if startedWithoutEnd v1 then [interruptionEvent E v1] else []

def wsjtxMemberCount (record : WsjtXRecord) : ℕ :=
  (v1.matchingObservations record).length + 1

/-- What the loop over the WSJT-X records inserts for one record, in order. -/
def wsjtxLinks (record : WsjtXRecord) : List (String × EvidenceLink) :=
  (v1.matchingObservations record).zipIdx.map fun (observation, index) =>
    (observation.observationId,
      ⟨boundedMigrationId E "legacy-wsjtx" record.recordId,
        migrationMutationId E "wsjtx" record.recordId, index + 1, wsjtxMemberCount v1 record⟩)

/-- `wsjtx_observation_links.get(observation_id)`: the last insertion holds. -/
def wsjtxObservationLink? (observationId : String) : Option EvidenceLink :=
  (v1.wsjtx.flatMap (wsjtxLinks E v1)).reverse.lookup observationId

def wsjtxAdapter (record : WsjtXRecord) (line : String) (index : ℕ) : AdapterRecordV2 :=
  let malformed := containsText record.messageType "malformed"
  { recordMeta := migrateMetaWithMutation record.recordMeta
      (migrationMutationId E "wsjtx" record.recordId) 0 (wsjtxMemberCount v1 record)
      v1.manifest.appVersion
    recordId := boundedMigrationId E "legacy-wsjtx" record.recordId
    sourceTime := some record.recordMeta.timestamp
    recordType := record.messageType
    disposition := if malformed then .malformed else .accepted
    reason := if malformed then legacyMalformed else legacyAccepted
    normalizedRecords := (v1.matchingObservations record).map fun observation =>
      ⟨.observation, observation.observationId⟩
    input := .inline (line ++ "\n") "application/x-ndjson" (some "utf-8")
      (some ("wsjtx.jsonl#line=" ++ toString (index + 1))) }

def wsjtxAdapters (wsjtxLines : List String) : List AdapterRecordV2 :=
  (v1.wsjtx.zip wsjtxLines).zipIdx.map fun ((record, line), index) =>
    wsjtxAdapter E v1 record line index

/-- The evidence an observation brings itself. -/
def ownLink (record : ObservationRecord) : EvidenceLink :=
  ⟨boundedMigrationId E "legacy-observation" record.observationId,
    migrationMutationId E "observations" record.observationId, 1, 2⟩

def observationLink (record : ObservationRecord) : EvidenceLink :=
  (wsjtxObservationLink? E v1 record.observationId).getD (ownLink E record)

def observationAdapter (record : ObservationRecord) : AdapterRecordV2 where
  recordMeta := migrateMetaWithMutation record.recordMeta (ownLink E record).mutationId 0 2
    v1.manifest.appVersion
  recordId := (ownLink E record).evidenceId
  sourceTime := some record.recordMeta.timestamp
  recordType := "legacy-observation-evidence"
  disposition := .accepted
  reason := legacyNormalized
  normalizedRecords := [⟨.observation, record.observationId⟩]
  input := .inline (jsonText record.raw) "application/json" (some "utf-8")
    (some ("observations.jsonl#observation_id=" ++ record.observationId))

/-- The records without a link, in order: each of them pushes an adapter record. -/
def unlinkedObservations : List ObservationRecord :=
  v1.observations.filter fun record => (wsjtxObservationLink? E v1 record.observationId).isNone

def migrateObservation (record : ObservationRecord) : ObservationRecordV2 :=
  let link := observationLink E v1 record
  { recordMeta := migrateMetaWithMutation record.recordMeta link.mutationId link.memberIndex
      link.memberCount v1.manifest.appVersion
    observationId := record.observationId
    adapterRecordIds := [link.evidenceId]
    observationKind := record.observationKind
    band := record.band
    frequencyHz := record.frequencyHz
    mode := record.mode
    reporterCall := record.reporterCall
    heardCall := record.heardCall
    reporterGrid := record.reporterGrid
    heardGrid := record.heardGrid
    distanceKm := record.distanceKm
    azimuthDegrees := record.azimuthDegrees
    snrDb := record.snrDb
    driftHzPerMinute := record.driftHzPerMinute
    powerWatts := record.powerWatts
    slotId := record.slotId
    slotLabel := record.slotLabel
    slotConfidence := record.slotConfidence
    raw := record.raw }

def adapterFromRaw (recordMeta : RecordMeta) (normalizedId mutationId : String)
    (recordKind : NormalizedRecordKind) (raw : JsonValue) (appVersion : String) :
    AdapterRecordV2 where
  recordMeta := migrateMetaWithMutation recordMeta mutationId 0 2 appVersion
  recordId := legacyEvidenceId E recordKind normalizedId
  sourceTime := some recordMeta.timestamp
  recordType := "legacy-" ++ kindName recordKind ++ "-evidence"
  disposition := .accepted
  reason := legacyNormalized
  normalizedRecords := [⟨recordKind, normalizedId⟩]
  input := .inline (jsonText raw) "application/json" (some "utf-8") none

def rigAdapter (record : RigRecord) : AdapterRecordV2 :=
  adapterFromRaw E jsonText record.recordMeta record.recordId
    (migrationMutationId E "rig" record.recordId) .rig record.raw v1.manifest.appVersion

def migrateRig (record : RigRecord) : RigRecordV2 where
  recordMeta := migrateMetaWithMutation record.recordMeta
    (migrationMutationId E "rig" record.recordId) 1 2 v1.manifest.appVersion
  recordId := record.recordId
  adapterRecordIds := [legacyEvidenceId E .rig record.recordId]
  status := record.status
  frequencyHz := record.frequencyHz
  mode := record.mode
  raw := record.raw

def propagationAdapter (record : PropagationRecord) : AdapterRecordV2 :=
  adapterFromRaw E jsonText record.recordMeta record.recordId
    (migrationMutationId E "propagation" record.recordId) .propagation record.raw
    v1.manifest.appVersion

def migratePropagation (record : PropagationRecord) : PropagationRecordV2 where
  recordMeta := migrateMetaWithMutation record.recordMeta
    (migrationMutationId E "propagation" record.recordId) 1 2 v1.manifest.appVersion
  recordId := record.recordId
  adapterRecordIds := [legacyEvidenceId E .propagation record.recordId]
  observedAt := record.observedAt
  solarFluxF107 := record.solarFluxF107
  sunspotNumber := record.sunspotNumber
  kpIndex := record.kpIndex
  aIndex := record.aIndex
  solarWindSpeedKms := record.solarWindSpeedKms
  bzNt := record.bzNt
  alerts := record.alerts
  daylightState := record.daylightState
  raw := record.raw

/-- The plan of the migrated bundle, by the digests of its restamped documents. -/
def migratedPlan (station : Station) (antennas : AntennasFile) (schedule : Schedule) :
    PlanGenerationV2 :=
  let stationDigest := E.sha256Hex (serializeJson E.station station)
  let antennasDigest := E.sha256Hex (serializeJson E.antennas antennas)
  let scheduleDigest := E.sha256Hex (serializeJson E.scheduleV2 schedule)
  ⟨"migration-v1", stationDigest, antennasDigest, scheduleDigest,
    planRootSha256 E [stationDigest, antennasDigest, scheduleDigest]⟩

def migratedLifecycle : SessionLifecycleV2 :=
  if ended v1 then .ended else if started v1 then .interrupted else .ready

/-- The head of a stream written whole. -/
def migratedHead {α : Type} (codec : Codec α) (records : List α) (id : α → String) :
    StreamCheckpointV2 :=
  checkpointForBytes E (serializeJsonl codec records) records.length (records.getLast?.map id)

def migrateBundle (wsjtxLines : List String) :
    Except BundleUpgradeError BundleV2Contents := do
  failIf (wsjtxLines.length != v1.wsjtx.length)
    (.legacyEvidenceCount v1.wsjtx.length wsjtxLines.length)
  let station := { v1.station with schemaVersion := schemaVersionV2 }
  let antennas := { v1.antennas with schemaVersion := schemaVersionV2 }
  let schedule := { v1.schedule with schemaVersion := schemaVersionV2 }
  let events := migrateEvents E v1
  let adapterRecords := wsjtxAdapters E v1 wsjtxLines ++
    (unlinkedObservations E v1).map (observationAdapter E jsonText v1) ++
    v1.rig.map (rigAdapter E jsonText v1) ++
    v1.propagation.map (propagationAdapter E jsonText v1)
  let observations := v1.observations.map (migrateObservation E v1)
  let rig := v1.rig.map (migrateRig E v1)
  let propagation := v1.propagation.map (migratePropagation E v1)
  let lastCommittedMutationId :=
    (propagation.getLast?.map (·.recordMeta.mutation.mutationId)).or
    ((rig.getLast?.map (·.recordMeta.mutation.mutationId)).or
    ((observations.getLast?.map (·.recordMeta.mutation.mutationId)).or
    ((adapterRecords.getLast?.map (·.recordMeta.mutation.mutationId)).or
    (events.getLast?.map (·.recordMeta.mutation.mutationId)))))
  return {
    manifest := ⟨schemaVersionV2, v1.manifest.sessionId, v1.manifest.createdAt,
      v1.manifest.appVersion, .standard, none⟩
    sessionState := {
      schemaVersion := schemaVersionV2
      sessionId := v1.manifest.sessionId
      revision := 1
      lifecycle := migratedLifecycle v1
      wsprLiveAcquisitionEnabled := false
      activePlan := migratedPlan E station antennas schedule
      streams := [
        ("adapter_records", migratedHead E E.adapterRecord adapterRecords (·.recordId)),
        ("events", migratedHead E E.eventV2 events (·.eventId)),
        ("observations", migratedHead E E.observation observations (·.observationId)),
        ("propagation", migratedHead E E.propagation propagation (·.recordId)),
        ("rig", migratedHead E E.rigV2 rig (·.recordId))]
      lastCommittedMutationId
      activeRuntimeContextId := none
      diagnosticsStatus := none }
    station, antennas, schedule, events, observations, adapterRecords, rig, propagation
    analysis := { v1.analysis with schemaVersion := schemaVersionV2 } }

end

end LegacyUpgrade

end AntennaBench
