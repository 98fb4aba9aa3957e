import AntennaBench.Rbn.Archive
import AntennaBench.Wsjtx.WsprLiveImport
import AntennaBench.Conductor.Actions

/-!
# RBN imports

`prepare_rbn_import` turns the rows of an archive into the adapter records and the
observations of one mutation. The spots accepted before are read back from the stored row
records.
-/

namespace AntennaBench

def rbnAdapterId : String := "antennabench.rbn-daily-archive"
def rbnProviderId : String := "reverse-beacon-network"
def rbnSourceId : String := "rbn-daily-archive"
def rbnAcquisitionChannel : String := "file-import"

structure RbnImportPreparationConfig where
  capturedAt : DateTime
  sourceLocator : Option String

structure RbnPreparedSummary where
  total : ℕ := 0
  accepted : ℕ := 0
  malformed : ℕ := 0
  filtered : ℕ := 0
  unsupported : ℕ := 0
  duplicate : ℕ := 0
  conflict : ℕ := 0
  observationsCreated : ℕ := 0
  omitted : ℕ := 0
  deriving DecidableEq

structure PreparedRbnImport where
  mutationId : String
  adapterRecords : List AdapterRecordV2
  observations : List ObservationRecordV2
  summary : RbnPreparedSummary

/-- `import_config`: the call sign of the station, the window from the first slot to the end of
the last, and the bands of the slots. -/
def rbnImportConfig (bundle : BundleV3Contents) : Except SessionErrorPayload RbnImportConfig := do
  let slots := bundle.schedule.slots
  let windowStart ← orError (slots.map (·.startsAt)).min?
    { kind := .unsupported
      message := "The active signal session has no RBN import window."
      detail := "the schedule has no slots" }
  let ends := slots.filterMap fun slot =>
    if slot.durationSeconds + slot.guardSeconds < 2 ^ 32 then
      DateTime.checkedAdd slot.startsAt
        (DateTime.seconds (slot.durationSeconds + slot.guardSeconds))
    else none
  let windowEnd ← orError ends.max?
    { kind := .unsupported
      message := "The active signal session has no valid RBN import window."
      detail := "a scheduled slot end overflowed" }
  let selectedBands := slots.foldl (fun bands slot =>
    if bands.contains slot.band then bands else bands ++ [slot.band]) []
  return { heardCallsign := bundle.station.callsign, windowStart, windowEnd, selectedBands }

def SignalModeV3.debugName : SignalModeV3 → String
  | .cw => "Cw"
  | .rtty => "Rtty"

def SignalModeV3.rbnName : SignalModeV3 → String
  | .cw => "CW"
  | .rtty => "RTTY"

/-- The name a mode has in the JSON files. -/
def SignalModeV3.jsonName : SignalModeV3 → String
  | .cw => "cw"
  | .rtty => "rtty"

def RbnRowDisposition.adapterDisposition : RbnRowDisposition → AdapterDisposition
  | .accepted => .accepted
  | .malformed => .malformed
  | .filtered => .filtered
  | .unsupported => .unsupported
  | .duplicate => .duplicate

def RbnRowReason.adapterReason : RbnRowReason → AdapterReasonId
  | .accepted => ⟨"rbn.accepted", by decide⟩
  | .invalidValue => ⟨"rbn.invalid-value", by decide⟩
  | .callsignFiltered => ⟨"rbn.callsign-filtered", by decide⟩
  | .timeFiltered => ⟨"rbn.time-filtered", by decide⟩
  | .bandFiltered => ⟨"rbn.band-filtered", by decide⟩
  | .unsupportedBand => ⟨"rbn.unsupported-band", by decide⟩
  | .unsupportedMode => ⟨"rbn.unsupported-mode", by decide⟩
  | .exactDuplicate => ⟨"rbn.exact-duplicate-or-replay", by decide⟩

def rbnDispositionReason (disposition : AdapterDisposition) (rowReason : RbnRowReason) :
    AdapterReasonId :=
  match disposition with
  | .duplicate => ⟨"rbn.exact-duplicate-or-replay", by decide⟩
  | .conflict => ⟨"rbn.replay-conflict", by decide⟩
  | _ => rowReason.adapterReason

def rbnImportMeta (sessionId mutationId : String) (memberIndex : ℕ) (recordedAt : DateTime)
    (provenance : Provenance) : RecordMetaV2 :=
  { importMeta sessionId mutationId memberIndex recordedAt provenance with schemaVersion := 3 }

/-- The parameters of an import its row loop reads. -/
structure RbnImportIdentity where
  preparation : RbnImportPreparationConfig
  sessionId : String
  importId : String
  provenance : Provenance

def RbnImportIdentity.mutationId (identity : RbnImportIdentity) : String :=
  "rbn-import-" ++ identity.importId

def RbnImportIdentity.adapterId (identity : RbnImportIdentity) (rowNumber : ℕ) : String :=
  "rbn-row-" ++ identity.importId ++ "-" ++ toString rowNumber

def RbnImportIdentity.observationId (identity : RbnImportIdentity) (rowNumber : ℕ) : String :=
  "rbn-observation-" ++ identity.importId ++ "-" ++ toString rowNumber

/-- What the row loop of an import carries; the replay map has an identity's last entry first. -/
structure RbnPrepareState where
  replay : List (String × String)
  adapterRecords : List AdapterRecordV2
  observations : List ObservationRecordV2
  summary : RbnPreparedSummary

namespace RbnEnv

variable (env : RbnEnv)

def provenance : Provenance where
  providerId := ⟨rbnProviderId, by decide⟩
  sourceId := ⟨rbnSourceId, by decide⟩
  acquisitionChannel := ⟨rbnAcquisitionChannel, by decide⟩
  adapterId := ⟨rbnAdapterId, by decide⟩
  adapterVersion := env.packageVersion

def spotIdentity (spot : RbnSpot) : String :=
  spot.reporterCall ++ "|" ++ spot.heardCall ++ "|" ++ env.displayTime spot.observedAt ++ "|" ++
    toString spot.frequencyHz ++ "|" ++ spot.mode.debugName

def spotJson (spot : RbnSpot) : JsonValue :=
  .object [
    ("reporter_call", .string spot.reporterCall),
    ("heard_call", .string spot.heardCall),
    ("observed_at", .string (env.rfc3339 spot.observedAt)),
    ("frequency_hz", .number (.posInt spot.frequencyHz)),
    ("band", .string spot.band.jsonName),
    ("mode", .string spot.mode.jsonName),
    ("snr_db", .number (.float spot.snrDb.toFloat)),
    ("key_speed_wpm", spot.keySpeedWpm.elim .null fun speed => .number (.posInt speed))]

def spotFingerprint (spot : RbnSpot) : String :=
  env.sha256Hex (env.jsonText (env.spotJson spot))

/-- The data of a row record. -/
def rowData (row : RbnRowResult) : JsonValue :=
  .object [
    ("fields", .array (row.rawFields.map .string)),
    ("spot_fingerprint", row.spot.elim .null fun spot => .string (env.spotFingerprint spot)),
    ("spot_identity", row.spot.elim .null fun spot => .string (env.spotIdentity spot))]

/-- The spot an accepted row record holds: its identity and its fingerprint. -/
def storedSpot? (record : AdapterRecordV2) : Option (String × String) := do
  guard (record.recordMeta.provenance.adapterId.value == rbnAdapterId &&
    record.recordType == "rbn_archive_row" && record.disposition == .accepted)
  match record.input with
  | .attachment _ => none
  | .inline data _ _ _ =>
    let value ← env.fromStr data
    let identity ← (value.get? "spot_identity").bind (·.asStr?)
    let fingerprint ← (value.get? "spot_fingerprint").bind (·.asStr?)
    return (identity, fingerprint)

/-- `existing_rbn_spots`; of two records of one identity the later counts. -/
def existingRbnSpots (existing : List AdapterRecordV2) : List (String × String) :=
  (existing.filterMap env.storedSpot?).reverse

/-- The disposition of a row against the spots accepted so far. -/
def replayedDisposition (replay : List (String × String)) (row : RbnRowResult) :
    AdapterDisposition :=
  match row.spot.bind fun spot => (replay.lookup (env.spotIdentity spot)).map (spot, ·) with
  | some (spot, prior) => if env.spotFingerprint spot = prior then .duplicate else .conflict
  | none => row.disposition.adapterDisposition

def rowRecord (identity : RbnImportIdentity) (memberIndex : ℕ) (disposition : AdapterDisposition)
    (row : RbnRowResult) : AdapterRecordV2 where
  recordMeta := rbnImportMeta identity.sessionId identity.mutationId memberIndex
    (row.spot.elim identity.preparation.capturedAt (·.observedAt)) identity.provenance
  recordId := identity.adapterId row.rowNumber
  sourceTime := row.spot.map (·.observedAt)
  recordType := "rbn_archive_row"
  disposition := disposition
  reason := rbnDispositionReason disposition row.reason
  normalizedRecords :=
    if disposition = .accepted ∧ row.spot.isSome then
      [⟨.observation, identity.observationId row.rowNumber⟩]
    else []
  input := .inline (env.jsonText (env.rowData row)) "application/json" none
    identity.preparation.sourceLocator

def rbnObservation (identity : RbnImportIdentity) (row : RbnRowResult) (spot : RbnSpot) :
    ObservationRecordV2 where
  recordMeta := rbnImportMeta identity.sessionId identity.mutationId 0
    identity.preparation.capturedAt identity.provenance
  observationId := identity.observationId row.rowNumber
  adapterRecordIds := [identity.adapterId row.rowNumber]
  observationKind := .publicReport
  band := spot.band
  frequencyHz := some spot.frequencyHz
  mode := some spot.mode.rbnName
  reporterCall := some spot.reporterCall
  heardCall := some spot.heardCall
  reporterGrid := none
  heardGrid := none
  distanceKm := none
  azimuthDegrees := none
  snrDb := some spot.snrDb.toFloat
  driftHzPerMinute := none
  powerWatts := none
  slotId := none
  slotLabel := none
  slotConfidence := none
  raw := .object [
    ("fields", .array (row.rawFields.map .string)),
    ("key_speed_wpm", spot.keySpeedWpm.elim .null fun speed => .number (.posInt speed)),
    ("provider", .string rbnProviderId),
    ("row_number", .number (.posInt row.rowNumber)),
    ("source", .string rbnSourceId)]

def RbnPreparedSummary.count (summary : RbnPreparedSummary) :
    AdapterDisposition → RbnPreparedSummary
  | .malformed => { summary with malformed := summary.malformed + 1 }
  | .filtered => { summary with filtered := summary.filtered + 1 }
  | .unsupported => { summary with unsupported := summary.unsupported + 1 }
  | .duplicate => { summary with duplicate := summary.duplicate + 1 }
  | .conflict => { summary with conflict := summary.conflict + 1 }
  | .partiallyNormalized | .accepted => summary

/-- One turn of the row loop of `prepare_rbn_import`. -/
def prepareRow (identity : RbnImportIdentity) (state : RbnPrepareState) (row : RbnRowResult) :
    RbnPrepareState :=
  let disposition := env.replayedDisposition state.replay row
  let record := env.rowRecord identity state.adapterRecords.length disposition row
  let state := { state with adapterRecords := state.adapterRecords ++ [record] }
  match disposition, row.spot with
  | .accepted, some spot =>
    { state with
      replay := (env.spotIdentity spot, env.spotFingerprint spot) :: state.replay
      observations := state.observations ++ [rbnObservation identity row spot]
      summary := { state.summary with
        accepted := state.summary.accepted + 1
        observationsCreated := state.summary.observationsCreated + 1 } }
  | other, _ => { state with summary := RbnPreparedSummary.count state.summary other }

def captureRecord (identity : RbnImportIdentity) (exactArchive : AttachmentReference) :
    AdapterRecordV2 where
  recordMeta := rbnImportMeta identity.sessionId identity.mutationId 0
    identity.preparation.capturedAt identity.provenance
  recordId := "rbn-capture-" ++ identity.importId
  sourceTime := some identity.preparation.capturedAt
  recordType := "rbn_archive_capture"
  disposition := .accepted
  reason := ⟨"rbn.capture", by decide⟩
  normalizedRecords := []
  input := .attachment exactArchive

def summaryRecord (identity : RbnImportIdentity) (data : String) : AdapterRecordV2 where
  recordMeta := rbnImportMeta identity.sessionId identity.mutationId 1
    identity.preparation.capturedAt identity.provenance
  recordId := "rbn-summary-" ++ identity.importId
  sourceTime := some identity.preparation.capturedAt
  recordType := "rbn_import_summary"
  disposition := .accepted
  reason := ⟨"rbn.import-summary", by decide⟩
  normalizedRecords := []
  input := .inline data "application/json" none identity.preparation.sourceLocator

end RbnEnv

def RbnPreparedSummary.toJson (summary : RbnPreparedSummary) : JsonValue :=
  .object [
    ("accepted", .number (.posInt summary.accepted)),
    ("conflict", .number (.posInt summary.conflict)),
    ("duplicate", .number (.posInt summary.duplicate)),
    ("filtered", .number (.posInt summary.filtered)),
    ("malformed", .number (.posInt summary.malformed)),
    ("observations_created", .number (.posInt summary.observationsCreated)),
    ("omitted", .number (.posInt summary.omitted)),
    ("total", .number (.posInt summary.total)),
    ("unsupported", .number (.posInt summary.unsupported))]

namespace RbnEnv

variable (env : RbnEnv)

def importSummaryJson (parsed : ParsedRbnArchive) (config : RbnImportConfig)
    (capturedAt : DateTime) (exactArchive : AttachmentReference) (summary : RbnPreparedSummary) :
    JsonValue :=
  .object [
    ("acquisition_channel", .string rbnAcquisitionChannel),
    ("archive_member", .string parsed.archiveMember),
    ("captured_at", .string (env.rfc3339 capturedAt)),
    ("counts", summary.toJson),
    ("exact_archive", exactArchive.toJson),
    ("expected_columns", .array (rbnArchiveColumns.map .string)),
    ("provider_id", .string rbnProviderId),
    ("selected_bands", .array (config.selectedBands.map fun band => .string band.jsonName)),
    ("session_callsign", .string config.heardCallsign),
    ("source_id", .string rbnSourceId),
    ("window_end", .string (env.rfc3339 config.windowEnd)),
    ("window_start", .string (env.rfc3339 config.windowStart))]

/-- The row loop, from the spots accepted before. -/
def prepareRows (identity : RbnImportIdentity) (parsed : ParsedRbnArchive)
    (exactArchive : AttachmentReference) (existing : List AdapterRecordV2) : RbnPrepareState :=
  parsed.rows.foldl (env.prepareRow identity)
    { replay := env.existingRbnSpots existing
      adapterRecords := [captureRecord identity exactArchive, summaryRecord identity ""]
      observations := []
      summary := { total := parsed.summary.total, omitted := parsed.summary.omitted } }

def prepareRbnImport (parsed : ParsedRbnArchive) (config : RbnImportConfig)
    (preparation : RbnImportPreparationConfig) (sessionId importId : String)
    (exactArchive : AttachmentReference) (existing : List AdapterRecordV2) : PreparedRbnImport :=
  let identity : RbnImportIdentity := ⟨preparation, sessionId, importId, env.provenance⟩
  let state := env.prepareRows identity parsed exactArchive existing
  let data := env.jsonText
    (env.importSummaryJson parsed config preparation.capturedAt exactArchive state.summary)
  let adapterRecords := state.adapterRecords.modify 1 fun record =>
    match record.input with
    | .inline _ mediaType encoding sourceLocator =>
      { record with input := .inline data mediaType encoding sourceLocator }
    | .attachment _ => record
  let memberCount := adapterRecords.length + state.observations.length
  { mutationId := identity.mutationId
    adapterRecords := adapterRecords.map (·.withMemberCount memberCount)
    observations := state.observations.mapIdx fun offset observation =>
      observation.withMember (adapterRecords.length + offset) memberCount
    summary := state.summary }

end RbnEnv

end AntennaBench
