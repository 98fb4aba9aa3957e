import AntennaBench.Wsjtx.WsprLive

/-!
# WSPR.live imports

`parse_wspr_live_json` reads one response and classifies its rows;
`prepare_wspr_live_acquisition` turns the parsed response into the adapter records
and observations of one import. The spots accepted before are read back from the
adapter records under the current query.
-/

namespace AntennaBench

inductive AdapterResourceStage where
  | admission
  | queue
  | stream
  deriving DecidableEq

inductive AdapterResourceUnit where
  | bytes
  | lines
  | datagrams
  | clients
  | entries
  | checkpoints
  deriving DecidableEq

structure AdapterResourceDiagnostic where
  code : String
  profile : String := "local-standard-v1"
  profileVersion : ℕ := 1
  adapter : String
  source : String
  stage : AdapterResourceStage
  limit : ℕ
  observed : Option ℕ
  unit : AdapterResourceUnit
  retryableWithoutInputChange : Bool := false
  completeResult : Bool := false
  acquisitionGap : Bool
  deriving DecidableEq

inductive WsprLiveImportError where
  | resource (diagnostic : AdapterResourceDiagnostic)
  | config (message : String)
  | json (message : String)
  | schema (message : String)
  deriving DecidableEq

structure WsprLiveDispositionSummary where
  total : ℕ := 0
  accepted : ℕ := 0
  malformed : ℕ := 0
  filtered : ℕ := 0
  unsupported : ℕ := 0
  deriving DecidableEq

structure WsprLiveImportSummary where
  total : ℕ := 0
  accepted : ℕ := 0
  malformed : ℕ := 0
  filtered : ℕ := 0
  unsupported : ℕ := 0
  duplicate : ℕ := 0
  conflict : ℕ := 0
  observationsCreated : ℕ := 0
  evidenceCompletenessKnown : Bool := false
  deriving DecidableEq

structure ParsedWsprLiveJson where
  rows : List WsprLiveRowResult
  summary : WsprLiveDispositionSummary

structure PreparedWsprLiveImport where
  mutationId : String
  adapterRecords : List AdapterRecordV2
  observations : List ObservationRecordV2
  summary : WsprLiveImportSummary

inductive WsprLiveAcquisitionChannel where
  | fileImport
  | httpsQuery
  deriving DecidableEq

def WsprLiveAcquisitionChannel.id : WsprLiveAcquisitionChannel → String
  | .fileImport => wsprLiveAcquisitionChannel
  | .httpsQuery => wsprLiveHttpsAcquisitionChannel

structure WsprLiveQueryScope where
  sessionCallsign : String
  windowStart : DateTime
  windowEnd : DateTime
  selectedBands : List Band
  deriving DecidableEq

def validateQueryScope (scope : WsprLiveQueryScope) : Except WsprLiveImportError Unit := do
  failIf (normalizeWsprCallsign (trim scope.sessionCallsign)).isNone
    (.config "session_callsign must be a normalized WSPR callsign")
  failIf (decide (scope.windowEnd ≤ scope.windowStart))
    (.config "window_start must precede window_end")
  failIf scope.selectedBands.isEmpty (.config "selected_bands must not be empty")

namespace WsprLiveImportConfig

variable (config : WsprLiveImportConfig)

def scope : WsprLiveQueryScope :=
  ⟨config.sessionCallsign, config.windowStart, config.windowEnd, config.selectedBands⟩

def validate : Except WsprLiveImportError Unit := do
  validateQueryScope config.scope
  failIf (config.sourceLocator.any (2048 < ·.utf8ByteSize))
    (.config "source_locator exceeds 2048 bytes")

/-- The normalized call sign; `expect("validated config")`. -/
def callsign : String :=
  (normalizeWsprCallsign (trim config.sessionCallsign)).getD ""

def resourceError (code : String) (stage : AdapterResourceStage) (limit : ℕ) (observed : Option ℕ)
    (unit : AdapterResourceUnit) : WsprLiveImportError :=
  .resource
    { code, adapter := wsprLiveAdapterId, source := config.sourceLocator.getD "wspr-live-json",
      stage, limit, observed, unit, acquisitionGap := false }

end WsprLiveImportConfig

/-- `cancelled n` is what the `n`-th look at the cancellation token sees. -/
def checkCancelled (cancelled : ℕ → Bool) (look observed limit : ℕ) :
    Except WsprLiveImportError Unit :=
  failIf (cancelled look) (.resource
    { code := "resource.operation.cancelled", adapter := wsprLiveAdapterId,
      source := "wspr-live-json", stage := .stream, limit, observed := some observed,
      unit := .checkpoints, acquisitionGap := false })

/-- The loop of `validate_columns` over the `meta` entries. -/
def columnNames (names : List String) : List JsonValue → Except WsprLiveImportError (List String)
  | [] => .ok names
  | column :: rest => do
    let name ← orError ((column.get? "name").bind (·.asStr?)) (.schema "meta entries require name")
    failIf (names.contains name) (.schema ("duplicate meta column " ++ name))
    columnNames (names ++ [name]) rest

def validateColumns (columns : Option JsonValue) : Except WsprLiveImportError Unit := do
  let columns ← orError (columns.bind (·.asArray?)) (.schema "meta must be an array")
  let names ← columnNames [] columns
  failIf (names != wsprLiveColumns) (.schema ("expected projection " ++
    ",".intercalate wsprLiveColumns ++ ", received " ++ ",".intercalate names))

def WsprLiveDispositionSummary.count (summary : WsprLiveDispositionSummary) :
    WsprLiveRowDisposition → WsprLiveDispositionSummary
  | .accepted => { summary with total := summary.total + 1, accepted := summary.accepted + 1 }
  | .malformed => { summary with total := summary.total + 1, malformed := summary.malformed + 1 }
  | .filtered => { summary with total := summary.total + 1, filtered := summary.filtered + 1 }
  | .unsupported =>
    { summary with total := summary.total + 1, unsupported := summary.unsupported + 1 }

namespace WsprLiveEnv

variable (env : WsprLiveEnv)

/-- `classify_row` under the query of an import. -/
def classifyUnder (config : WsprLiveImportConfig) (rowNumber : ℕ) (raw : JsonValue) :
    WsprLiveRowResult :=
  env.classifyRow rowNumber raw config.callsign config.windowStart config.windowEnd
    config.selectedBands config.confirmedCycles

/-- The rows of a response from the one at `index`. -/
def parseRows (config : WsprLiveImportConfig) (cancelled : ℕ → Bool)
    (limits : WsprLiveImportLimits) (index : ℕ) :
    List JsonValue → Except WsprLiveImportError (List WsprLiveRowResult)
  | [] => .ok []
  | raw :: rest => do
    checkCancelled cancelled (index + 1) index limits.rows
    let rowBytes := (env.jsonText raw).utf8ByteSize
    failIf (limits.rowBytes < rowBytes) (config.resourceError "resource.adapter.row_bytes" .stream
      limits.rowBytes (some rowBytes) .bytes)
    let rows ← parseRows config cancelled limits (index + 1) rest
    return env.classifyUnder config (index + 1) raw :: rows

def parseWsprLiveJsonWithLimits (input : List UInt8) (config : WsprLiveImportConfig)
    (cancelled : ℕ → Bool) (limits : WsprLiveImportLimits) :
    Except WsprLiveImportError ParsedWsprLiveJson := do
  config.validate
  checkCancelled cancelled 0 input.length limits.sourceBytes
  failIf (limits.sourceBytes < input.length) (config.resourceError "resource.adapter.source_bytes"
    .admission limits.sourceBytes (some input.length) .bytes)
  let document ← (env.fromSlice input).mapError .json
  failIf (!document.isObject) (.schema "top level must be an object")
  validateColumns (document.get? "meta")
  let data ← orError ((document.get? "data").bind (·.asArray?)) (.schema "data must be an array")
  failIf (limits.rows < data.length) (config.resourceError "resource.adapter.rows" .admission
    limits.rows (some data.length) .entries)
  let declared := (document.get? "rows").bind (·.asU64?)
  failIf (declared.any (· != data.length)) (.schema ("rows declares " ++
    toString (declared.getD 0) ++ ", but data contains " ++ toString data.length ++ " entries"))
  let rows ← env.parseRows config cancelled limits 0 data
  return ⟨rows, rows.foldl (fun summary row => summary.count row.disposition) {}⟩

def parseWsprLiveJson (input : List UInt8) (config : WsprLiveImportConfig)
    (cancelled : ℕ → Bool) : Except WsprLiveImportError ParsedWsprLiveJson :=
  env.parseWsprLiveJsonWithLimits input config cancelled wsprLiveImportLimits

end WsprLiveEnv

def WsprLiveAcquisitionChannel.identity : WsprLiveAcquisitionChannel → AcquisitionChannelId
  | .fileImport => ⟨wsprLiveAcquisitionChannel, by decide⟩
  | .httpsQuery => ⟨wsprLiveHttpsAcquisitionChannel, by decide⟩

def WsprLiveEnv.provenance (env : WsprLiveEnv) (channel : WsprLiveAcquisitionChannel) :
    Provenance where
  providerId := ⟨wsprLiveProviderId, by decide⟩
  sourceId := ⟨wsprLiveSourceId, by decide⟩
  acquisitionChannel := channel.identity
  adapterId := ⟨wsprLiveAdapterId, by decide⟩
  adapterVersion := env.packageVersion

def WsprLiveRowDisposition.adapterDisposition : WsprLiveRowDisposition → AdapterDisposition
  | .accepted => .accepted
  | .malformed => .malformed
  | .filtered => .filtered
  | .unsupported => .unsupported

def WsprLiveRowReason.adapterReason : WsprLiveRowReason → AdapterReasonId
  | .accepted => ⟨"wspr-live.accepted", by decide⟩
  | .invalidValue => ⟨"wspr-live.invalid-value", by decide⟩
  | .callsignFiltered => ⟨"wspr-live.callsign-filtered", by decide⟩
  | .ambiguousCallsign => ⟨"wspr-live.ambiguous-callsign", by decide⟩
  | .directionFiltered => ⟨"wspr-live.direction-filtered", by decide⟩
  | .timeFiltered => ⟨"wspr-live.time-filtered", by decide⟩
  | .bandFiltered => ⟨"wspr-live.band-filtered", by decide⟩
  | .unsupportedBand => ⟨"wspr-live.unsupported-band", by decide⟩
  | .unsupportedMode => ⟨"wspr-live.unsupported-mode", by decide⟩

def dispositionReason (disposition : AdapterDisposition) (rowReason : WsprLiveRowReason) :
    AdapterReasonId :=
  match disposition with
  | .duplicate => ⟨"wspr-live.provider-id-duplicate", by decide⟩
  | .conflict => ⟨"wspr-live.provider-id-conflict", by decide⟩
  | _ => rowReason.adapterReason

def importMeta (sessionId mutationId : String) (memberIndex : ℕ) (recordedAt : DateTime)
    (provenance : Provenance) : RecordMetaV2 where
  schemaVersion := 2
  sessionId := sessionId
  recordedAt := recordedAt
  provenance := provenance
  mutation := ⟨mutationId, memberIndex, 0⟩
  runtimeContextId := none

def AttachmentReference.toJson (attachment : AttachmentReference) : JsonValue :=
  .object [
    ("byte_size", .number (.posInt attachment.byteSize)),
    ("container", attachment.container.elim .null .string),
    ("encoding", attachment.encoding.elim .null .string),
    ("media_type", .string attachment.mediaType),
    ("sha256", .string attachment.sha256),
    ("source_locator", attachment.sourceLocator.elim .null .string)]

def WsprLiveImportSummary.toJson (summary : WsprLiveImportSummary) : JsonValue :=
  .object [
    ("accepted", .number (.posInt summary.accepted)),
    ("conflict", .number (.posInt summary.conflict)),
    ("duplicate", .number (.posInt summary.duplicate)),
    ("filtered", .number (.posInt summary.filtered)),
    ("malformed", .number (.posInt summary.malformed)),
    ("observations_created", .number (.posInt summary.observationsCreated)),
    ("total", .number (.posInt summary.total)),
    ("unsupported", .number (.posInt summary.unsupported))]

def AdapterRecordV2.withMemberCount (record : AdapterRecordV2) (memberCount : ℕ) :
    AdapterRecordV2 :=
  { record with recordMeta := { record.recordMeta with
      mutation := { record.recordMeta.mutation with memberCount := memberCount } } }

def ObservationRecordV2.withMember (record : ObservationRecordV2) (memberIndex memberCount : ℕ) :
    ObservationRecordV2 :=
  { record with recordMeta := { record.recordMeta with
      mutation := { record.recordMeta.mutation with
        memberIndex := memberIndex, memberCount := memberCount } } }

namespace WsprLiveEnv

variable (env : WsprLiveEnv)

def dbmToWatts (dbm : ℤ) : IeeeFloat :=
  env.powf (.finite 10) (IeeeFormat.f32.round (decide (dbm < 30)) ((dbm - 30) / 10))

def wsprLiveObservation (spot : WsprLiveSpot)
    (sessionId mutationId adapterId observationId : String)
    (capturedAt : DateTime) (provenance : Provenance)
    (confirmedCycle : Option WsprLiveConfirmedCycle) : ObservationRecordV2 where
  recordMeta := importMeta sessionId mutationId 0 capturedAt provenance
  observationId := observationId
  adapterRecordIds := [adapterId]
  observationKind := .importedSpot
  band := spot.band
  frequencyHz := some spot.frequencyHz
  mode := some "WSPR"
  reporterCall := some spot.reporterCall
  heardCall := some spot.transmitterCall
  reporterGrid := spot.reporterGrid
  heardGrid := spot.transmitterGrid
  distanceKm := spot.distanceKm
  azimuthDegrees := match spot.direction with
    | .receive => spot.receiverAzimuthDegrees
    | .transmit => spot.azimuthDegrees
  snrDb := some spot.snrDb
  driftHzPerMinute := some spot.driftHzPerMinute
  powerWatts := some (env.dbmToWatts spot.powerDbm)
  slotId := confirmedCycle.map (·.slotId)
  slotLabel := confirmedCycle.map (·.antennaLabel)
  slotConfidence := confirmedCycle.map fun _ => IeeeFormat.f32.round false (95 / 100)
  raw :=
    let float (value : Option IeeeFloat) : JsonValue :=
      value.elim .null fun value => .number (.float value)
    .object [
      ("captured_at", .string (env.rfc3339 capturedAt)),
      ("direction", .string spot.direction.text),
      ("mode_code", .number (if 0 ≤ spot.modeCode then .posInt spot.modeCode.toNat
        else .negInt spot.modeCode)),
      ("provider", .string wsprLiveProviderId),
      ("provider_spot_id", .number (.posInt spot.providerSpotId)),
      ("receiver_version", spot.receiverVersion.elim .null .string),
      ("rx_azimuth_degrees", float spot.receiverAzimuthDegrees),
      ("source", .string wsprLiveSourceId),
      ("source_observed_at", .string (env.rfc3339 spot.observedAt)),
      ("tx_azimuth_degrees", float spot.azimuthDegrees)]

/-- The spot an accepted row record holds, read back under the current query. -/
def storedSpot? (config : WsprLiveImportConfig) (record : AdapterRecordV2) :
    Option WsprLiveSpot := do
  guard (record.recordMeta.provenance.adapterId.value == wsprLiveAdapterId &&
    record.recordType == "wspr_live_spot" && record.disposition == .accepted)
  match record.input with
  | .attachment _ => none
  | .inline data _ _ _ =>
    let raw ← env.fromStr data
    (env.classifyUnder config 0 raw).spot

/-- `existing_wspr_live_spots`; of two records with one provider ID the later counts. -/
def existingWsprLiveSpots (existing : List AdapterRecordV2) (config : WsprLiveImportConfig) :
    List (ℕ × String) :=
  (existing.filterMap fun record =>
    (env.storedSpot? config record).map fun spot =>
      (spot.providerSpotId, env.spotFingerprint spot)).reverse

/-- What the row loop of an import carries. -/
structure PrepareState where
  replay : List (ℕ × String)
  adapterRecords : List AdapterRecordV2
  observations : List ObservationRecordV2
  summary : WsprLiveImportSummary

/-- The parameters of an import the row loop reads. -/
structure ImportIdentity where
  config : WsprLiveImportConfig
  sessionId : String
  importId : String
  provenance : Provenance

def ImportIdentity.mutationId (identity : ImportIdentity) : String :=
  "wspr-live-import-" ++ identity.importId

def fingerprint (row : WsprLiveRowResult) : String :=
  row.spot.elim (env.rowFingerprint row.raw) env.spotFingerprint

/-- The disposition of a row against the spots accepted so far. -/
def replayedDisposition (replay : List (ℕ × String)) (row : WsprLiveRowResult) :
    AdapterDisposition :=
  let prior := if row.disposition = .accepted then row.providerSpotId.bind (replay.lookup ·)
    else none
  match prior with
  | some prior => if prior = env.fingerprint row then .duplicate else .conflict
  | none => row.disposition.adapterDisposition

def spotObservationId (providerSpotId : ℕ) : String :=
  "wspr-live-spot-" ++ toString providerSpotId

def rowRecord (identity : ImportIdentity) (memberIndex : ℕ) (disposition : AdapterDisposition)
    (row : WsprLiveRowResult) : AdapterRecordV2 where
  recordMeta := importMeta identity.sessionId identity.mutationId memberIndex
    (row.spot.elim identity.config.capturedAt (·.observedAt)) identity.provenance
  recordId := "wspr-live-row-" ++ identity.importId ++ "-" ++ toString row.rowNumber
  sourceTime := row.spot.map (·.observedAt)
  recordType := "wspr_live_spot"
  disposition := disposition
  reason := dispositionReason disposition row.reason
  normalizedRecords :=
    if disposition = .accepted ∧ row.spot.isSome then
      (row.providerSpotId.map fun id => ⟨.observation, spotObservationId id⟩).toList
    else []
  input := .inline (env.jsonText row.raw) "application/json" none identity.config.sourceLocator

/-- One turn of the row loop of `prepare_wspr_live_acquisition`. -/
def prepareRow (identity : ImportIdentity) (state : PrepareState) (row : WsprLiveRowResult) :
    PrepareState :=
  let disposition := env.replayedDisposition state.replay row
  let record := env.rowRecord identity state.adapterRecords.length disposition row
  let state := { state with adapterRecords := state.adapterRecords ++ [record] }
  match disposition, row.spot, row.providerSpotId with
  | .accepted, some spot, some providerSpotId =>
    { state with
      replay := (spot.providerSpotId, env.fingerprint row) :: state.replay
      observations := state.observations ++ [env.wsprLiveObservation spot identity.sessionId
        identity.mutationId record.recordId (spotObservationId providerSpotId)
        identity.config.capturedAt identity.provenance
        (matchingCycle identity.config.confirmedCycles spot)]
      summary := { state.summary with
        accepted := state.summary.accepted + 1
        observationsCreated := state.summary.observationsCreated + 1 } }
  | .duplicate, _, _ =>
    { state with summary := { state.summary with duplicate := state.summary.duplicate + 1 } }
  | .conflict, _, _ =>
    { state with summary := { state.summary with conflict := state.summary.conflict + 1 } }
  | _, _, _ => state

def captureRecord (identity : ImportIdentity) (exactResponse : AttachmentReference) :
    AdapterRecordV2 where
  recordMeta := importMeta identity.sessionId identity.mutationId 0 identity.config.capturedAt
    identity.provenance
  recordId := "wspr-live-capture-" ++ identity.importId
  sourceTime := some identity.config.capturedAt
  recordType := "wspr_live_import_capture"
  disposition := .accepted
  reason := ⟨"wspr-live.capture", by decide⟩
  normalizedRecords := []
  input := .attachment exactResponse

def importSummaryReason : AdapterReasonId := ⟨"wspr-live.import-summary", by decide⟩

def summaryRecord (identity : ImportIdentity) (data : String) : AdapterRecordV2 where
  recordMeta := importMeta identity.sessionId identity.mutationId 1 identity.config.capturedAt
    identity.provenance
  recordId := "wspr-live-summary-" ++ identity.importId
  sourceTime := some identity.config.capturedAt
  recordType := "wspr_live_import_summary"
  disposition := .accepted
  reason := importSummaryReason
  normalizedRecords := []
  input := .inline data "application/json" none identity.config.sourceLocator

/-- The data of the summary record. -/
def importSummaryJson (config : WsprLiveImportConfig) (exactResponse : AttachmentReference)
    (channel : WsprLiveAcquisitionChannel) (summary : WsprLiveImportSummary) : JsonValue :=
  .object [
    ("acquisition_channel", .string channel.id),
    ("captured_at", .string (env.rfc3339 config.capturedAt)),
    ("completeness", .string "unknown"),
    ("counts", summary.toJson),
    ("direction_filter", .string (if config.confirmedCycles.isNone then
      "historical-direction-unknown" else "confirmed-cycle-at-source-time")),
    ("exact_response", exactResponse.toJson),
    ("expected_columns", .array (wsprLiveColumns.map .string)),
    ("mode", .string "WSPR-2"),
    ("provider_id", .string wsprLiveProviderId),
    ("selected_bands", .array (config.selectedBands.map fun band => .string band.jsonName)),
    ("session_callsign", .string config.sessionCallsign),
    ("source_id", .string wsprLiveSourceId),
    ("station_roles", .array [.string "tx_sign", .string "rx_sign"]),
    ("window_end", .string (env.rfc3339 config.windowEnd)),
    ("window_start", .string (env.rfc3339 config.windowStart))]

/-- The row loop, from the spots accepted before. -/
def prepareRows (identity : ImportIdentity) (parsed : ParsedWsprLiveJson)
    (exactResponse : AttachmentReference) (existing : List AdapterRecordV2) : PrepareState :=
  parsed.rows.foldl (env.prepareRow identity)
    { replay := env.existingWsprLiveSpots existing identity.config
      adapterRecords := [captureRecord identity exactResponse, summaryRecord identity ""]
      observations := []
      summary :=
        { total := parsed.summary.total
          malformed := parsed.summary.malformed
          filtered := parsed.summary.filtered
          unsupported := parsed.summary.unsupported } }

def prepareWsprLiveAcquisition (parsed : ParsedWsprLiveJson) (config : WsprLiveImportConfig)
    (sessionId importId : String) (exactResponse : AttachmentReference)
    (existing : List AdapterRecordV2) (channel : WsprLiveAcquisitionChannel) :
    PreparedWsprLiveImport :=
  let identity : ImportIdentity := ⟨config, sessionId, importId, env.provenance channel⟩
  let state := env.prepareRows identity parsed exactResponse existing
  let data := env.jsonText (env.importSummaryJson config exactResponse channel state.summary)
  let adapterRecords := state.adapterRecords.modify 1 fun record =>
    match record.input with
    | .inline _ mediaType encoding sourceLocator =>
      { record with input := .inline data mediaType encoding sourceLocator }
    | .attachment _ => record
  let memberCount := adapterRecords.length + state.observations.length
  { mutationId := identity.mutationId
    adapterRecords := adapterRecords.map (·.withMemberCount memberCount)
    observations := state.observations.mapIdx fun offset observation =>
      observation.withMember (adapterRecords.length + offset) memberCount
    summary := state.summary }

def prepareWsprLiveImport (parsed : ParsedWsprLiveJson) (config : WsprLiveImportConfig)
    (sessionId importId : String) (exactResponse : AttachmentReference)
    (existing : List AdapterRecordV2) : PreparedWsprLiveImport :=
  env.prepareWsprLiveAcquisition parsed config sessionId importId exactResponse existing .fileImport

end WsprLiveEnv

end AntennaBench
