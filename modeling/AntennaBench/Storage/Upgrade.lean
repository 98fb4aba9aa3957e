import AntennaBench.Storage.ValidateV3

/-!
# Schema upgrades of the bundle contents

An upgrade restamps every record with the next schema and adds only what that
schema requires: no signal facts (v3), the operator's own readiness (v5) and a
creator context that knows nothing but the application version (v6).
-/

namespace AntennaBench

def upgradeV2Meta (recordMeta : RecordMetaV2) : RecordMetaV3 :=
  { recordMeta with schemaVersion := schemaVersionV3 }

/-- `impl From<CorrectableOperatorEventPayloadV2> for CorrectableOperatorEventPayloadV3`. -/
def upgradeV2Correctable :
    CorrectableOperatorEventPayloadV2 → CorrectableOperatorEventPayloadV3
  | .antennaStateConfirmed antennaLabel note => .antennaStateConfirmed antennaLabel note
  | .slotMissed reason => .slotMissed reason
  | .slotBad reason => .slotBad reason
  | .noteAdded note => .noteAdded note

/-- `impl From<EventCorrectionActionV2> for EventCorrectionActionV3`. -/
def upgradeV2Correction : EventCorrectionActionV2 → EventCorrectionActionV3
  | .retract => .retract
  | .replace replacement => .replace {
      occurredAt := replacement.occurredAt
      timeBasis := replacement.timeBasis
      uncertaintySeconds := replacement.uncertaintySeconds
      slotId := replacement.slotId
      payload := upgradeV2Correctable replacement.payload }

def upgradeV2Payload : OperatorEventPayloadV2 → OperatorEventPayloadV3
  | .sessionStarted note => .sessionStarted note
  | .sessionInterrupted reason => .sessionInterrupted reason
  | .interruptionDetected reason => .interruptionDetected reason
  | .sessionResumed note => .sessionResumed note
  | .sessionEnded reason => .sessionEnded reason
  | .sessionAbandoned reason => .sessionAbandoned reason
  | .antennaStateConfirmed antennaLabel note => .antennaStateConfirmed antennaLabel note
  | .slotMissed reason => .slotMissed reason
  | .slotBad reason => .slotBad reason
  | .noteAdded note => .noteAdded note
  | .eventCorrected targetEventId correction reason =>
    .eventCorrected targetEventId (upgradeV2Correction correction) reason

def upgradeV2Event (event : OperatorEventV2) : OperatorEventV3 where
  recordMeta := upgradeV2Meta event.recordMeta
  eventId := event.eventId
  occurredAt := event.occurredAt
  timeBasis := event.timeBasis
  uncertaintySeconds := event.uncertaintySeconds
  slotId := event.slotId
  payload := upgradeV2Payload event.payload

def upgradeV2Rig (record : RigRecordV2) : RigRecordV3 where
  recordMeta := upgradeV2Meta record.recordMeta
  recordId := record.recordId
  adapterRecordIds := record.adapterRecordIds
  status := record.status
  frequencyHz := record.frequencyHz
  mode := record.mode
  powerWatts := none
  antennaControl := none
  raw := record.raw

def upgradeV2Slot (slot : PlannedSlot) : PlannedSlotV3 where
  slotId := slot.slotId
  sequenceNumber := slot.sequenceNumber
  startsAt := slot.startsAt
  durationSeconds := slot.durationSeconds
  guardSeconds := slot.guardSeconds
  band := slot.band
  antennaLabel := slot.antennaLabel
  signal := none

def upgradeV2BundleModel (bundle : BundleV2Contents) : BundleV3Contents where
  manifest := { bundle.manifest with schemaVersion := schemaVersionV3 }
  sessionState := { bundle.sessionState with schemaVersion := schemaVersionV3 }
  station := { bundle.station with schemaVersion := schemaVersionV3 }
  antennas := { bundle.antennas with schemaVersion := schemaVersionV3 }
  schedule := {
    schemaVersion := schemaVersionV3
    sessionId := bundle.schedule.sessionId
    mode := bundle.schedule.mode
    goal := bundle.schedule.goal
    antennaControl := none
    signalPlans := []
    wsprCycleIntents := []
    slots := bundle.schedule.slots.map upgradeV2Slot }
  events := bundle.events.map upgradeV2Event
  observations := bundle.observations.map fun record =>
    { record with recordMeta := upgradeV2Meta record.recordMeta }
  adapterRecords := bundle.adapterRecords.map fun record =>
    { record with recordMeta := upgradeV2Meta record.recordMeta }
  rig := bundle.rig.map upgradeV2Rig
  propagation := bundle.propagation.map fun record =>
    { record with recordMeta := upgradeV2Meta record.recordMeta }
  analysis := { bundle.analysis with schemaVersion := schemaVersionV3 }
  runtimeContexts := []
  diagnostics := []

def upgradeV3Meta (recordMeta : RecordMetaV3) : RecordMetaV3 :=
  { recordMeta with schemaVersion := schemaVersionV5 }

/-- A historical ready action was the operator's. -/
def upgradeV3Payload : OperatorEventPayloadV3 → OperatorEventPayloadV3
  | .wsprCycleArmed antennaLabel cycleStartsAt _ =>
    .wsprCycleArmed antennaLabel cycleStartsAt (some .operatorConfirmed)
  | payload => payload

def upgradeV3Event (event : OperatorEventV3) : OperatorEventV3 :=
  { event with
    recordMeta := upgradeV3Meta event.recordMeta
    payload := upgradeV3Payload event.payload }

def upgradeV3BundleModelToV5 (bundle : BundleV3Contents) : BundleV3Contents :=
  { bundle with
    manifest := { bundle.manifest with schemaVersion := schemaVersionV5 }
    sessionState := { bundle.sessionState with schemaVersion := schemaVersionV5 }
    station := { bundle.station with schemaVersion := schemaVersionV5 }
    antennas := { bundle.antennas with schemaVersion := schemaVersionV5 }
    schedule := { bundle.schedule with
      schemaVersion := schemaVersionV5
      antennaControl := some .manual }
    analysis := { bundle.analysis with schemaVersion := schemaVersionV5 }
    events := bundle.events.map upgradeV3Event
    observations := bundle.observations.map fun record =>
      { record with recordMeta := upgradeV3Meta record.recordMeta }
    adapterRecords := bundle.adapterRecords.map fun record =>
      { record with recordMeta := upgradeV3Meta record.recordMeta }
    rig := bundle.rig.map fun record =>
      { record with recordMeta := upgradeV3Meta record.recordMeta, antennaControl := none }
    propagation := bundle.propagation.map fun record =>
      { record with recordMeta := upgradeV3Meta record.recordMeta } }

/-- `RuntimeContextV6::new`. -/
def RuntimeContextV6.new (E : Env) (firstRecordedAt : DateTime) (mutation : MutationMember)
    (build : BuildIdentityV6) (platform : RuntimePlatformV6) : RuntimeContextV6 where
  schema := runtimeContextSchemaV1
  contextId := runtimeContextIdV6 E build platform
  firstRecordedAt := firstRecordedAt
  mutation := mutation
  build := build
  platform := platform

def legacyCreatorContextV6 (E : Env) (appVersion : Option String) (firstRecordedAt : DateTime)
    (mutation : MutationMember) : RuntimeContextV6 :=
  .new E firstRecordedAt mutation
    ⟨appVersion, none, .unknown, .unknown, none, none, none, none⟩ ⟨none, none, none, none⟩

def upgradeIdentity (E : Env) (kind sessionId : String) : String :=
  "upgrade-" ++ kind ++ "-" ++ E.sha256Hex
    (stringBytes "antennabench.schema-v6-upgrade" ++ [0] ++ stringBytes kind ++ [0] ++
      stringBytes sessionId)

/-- The diagnostic that says an upgraded bundle has no earlier operational history. -/
def legacyHistoryUnavailable (E : Env) (sessionId activeId : String) (occurredAt : DateTime)
    (sourceRevision : ℕ) : OperationalDiagnosticV6 where
  schema := operationalDiagnosticSchemaV1
  diagnosticId := upgradeIdentity E "diagnostic" sessionId
  correlationId := upgradeIdentity E "correlation" sessionId
  attemptId := upgradeIdentity E "attempt" sessionId
  mutation := ⟨"upgrade-runtime-context", 1, 2⟩
  runtimeContextId := activeId
  occurredAt := occurredAt
  operation := .checkpointRecovery
  phase := .recover
  code := "bundle.legacy_history_unavailable"
  summary := "Earlier operational history is unavailable for this upgraded bundle."
  outcome := .recovered
  severity := .warning
  revisionBefore := some sourceRevision
  revisionAfter := some sourceRevision
  diagnosticRevision := min (sourceRevision + 1) (2 ^ 64 - 1)
  evidenceEffect := .earlierEvidenceRetained
  retry := ⟨.notRetryable, "legacy_history_unavailable"⟩
  targets := [.source "schema-v5"]
  causes := [⟨"bundle.legacy_history_unavailable", .recover,
    [⟨"source_schema", .u64 (schemaVersionV6 - 1)⟩]⟩]
  detailStatus := ⟨.complete, 0⟩

def upgradeV5Meta (legacyId : String) (recordMeta : RecordMetaV3) : RecordMetaV3 :=
  { recordMeta with schemaVersion := schemaVersionV6, runtimeContextId := some legacyId }

def upgradeV5BundleModelToV6 (E : Env) (bundle : BundleV3Contents)
    (upgrader : RuntimeContextV6) : BundleV3Contents :=
  let sourceRevision := bundle.sessionState.revision
  let legacy := legacyCreatorContextV6 E (some bundle.manifest.appVersion)
    bundle.manifest.createdAt ⟨"upgrade-legacy-creator-context", 0, 1⟩
  let legacyId := legacy.contextId
  let upgrader := { upgrader with mutation := ⟨"upgrade-runtime-context", 0, 2⟩ }
  let activeId := upgrader.contextId
  { manifest := { bundle.manifest with
      schemaVersion := schemaVersionV6
      files := { bundle.manifest.files with
        runtimeContexts := some "runtime-contexts.jsonl"
        diagnostics := some "diagnostics.jsonl" }
      creatorRuntimeContextId := some legacyId }
    sessionState := { bundle.sessionState with
      schemaVersion := schemaVersionV6
      activeRuntimeContextId := some activeId
      diagnosticsStatus := some ⟨.complete, 0, none, none⟩
      revision := min (sourceRevision + 1) (2 ^ 64 - 1)
      lastCommittedMutationId := some "upgrade-runtime-context" }
    station := { bundle.station with schemaVersion := schemaVersionV6 }
    antennas := { bundle.antennas with schemaVersion := schemaVersionV6 }
    schedule := { bundle.schedule with schemaVersion := schemaVersionV6 }
    analysis := { bundle.analysis with schemaVersion := schemaVersionV6 }
    events := bundle.events.map fun record =>
      { record with recordMeta := upgradeV5Meta legacyId record.recordMeta }
    rig := bundle.rig.map fun record =>
      { record with recordMeta := upgradeV5Meta legacyId record.recordMeta }
    observations := bundle.observations.map fun record =>
      { record with recordMeta := upgradeV5Meta legacyId record.recordMeta }
    adapterRecords := bundle.adapterRecords.map fun record =>
      { record with recordMeta := upgradeV5Meta legacyId record.recordMeta }
    propagation := bundle.propagation.map fun record =>
      { record with recordMeta := upgradeV5Meta legacyId record.recordMeta }
    runtimeContexts := if legacyId = activeId then [legacy] else [legacy, upgrader]
    diagnostics := [legacyHistoryUnavailable E bundle.manifest.sessionId activeId
      (if legacyId = activeId then legacy else upgrader).firstRecordedAt sourceRevision] }

end AntennaBench
