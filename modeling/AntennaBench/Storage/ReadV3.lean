import AntennaBench.Storage.ValidateV3

/-!
# Reading and checkpointing schema-v3 to schema-v6 bundles

`read_v3`, the verification of its checkpoint against the durable bytes, and
`refresh_v3_checkpoint`, which computes the heads of the next checkpoint from
the records in memory.
-/

namespace AntennaBench

section

variable (E : Env) (profile : BundleResourceProfile)

/-- The root may hold no more entries than the profile allows. -/
def inventoryRoot (operation : ResourceOperation) (disk : Disk) : Except BundleStoreError Unit :=
  checkLimit profile.rootEntries (min disk.rootEntries (profile.rootEntries + 1))
    "resource.bundle.root_entries" operation .inventory none .entries

/-- One file of the walk; the state is the bytes met so far. -/
def inventoryAttachment (operation : ResourceOperation) (total : ℕ)
    (entry : String × Bytes) : Except BundleStoreError ℕ := do
  let path := Path.attachment entry.1
  checkLimit profile.attachmentFileBytes entry.2.length "resource.attachments.file_bytes"
    operation .metadata path .bytes
  checkLimit profile.attachmentTotalBytes (total + entry.2.length)
    "resource.attachments.total_bytes" operation .metadata none .bytes
  return total + entry.2.length

/-- `inventory_attachment_tree`: the entries and the bytes below the attachments
directory. The order of the walk only decides which violation is reported. -/
def inventoryAttachmentTree (operation : ResourceOperation) (disk : Disk) :
    Except BundleStoreError (ℕ × ℕ) := do
  let entries := disk.digestDir.toNat + disk.attachments.length
  checkLimit profile.attachmentEntries (min entries (profile.attachmentEntries + 1))
    "resource.attachments.entries" operation .inventory none .entries
  let bytes ← disk.attachments.foldlM (inventoryAttachment profile operation) 0
  return (entries, bytes)

def readAttachment (reference : AttachmentReference) (disk : Disk) :
    Except BundleStoreError Bytes := do
  failIf (!hasValidDigest reference.sha256)
    (.invalidAttachmentReference ("invalid SHA-256 digest " ++ reference.sha256))
  let (manifest, _) ← readJsonBounded E profile E.manifest (.root "manifest.json") .empty disk
  let _ ← v2Paths manifest.files
  let path := Path.attachment reference.sha256
  let bytes ← readBounded path profile.attachmentFileBytes "resource.attachments.file_bytes"
    .read disk
  failIf (bytes.length != reference.byteSize || E.sha256Hex bytes != reference.sha256)
    (.attachmentMismatch path)
  return bytes

/-- The digest of the plan digests, one a line. -/
def planRootSha256 (digests : List String) : String :=
  E.sha256Hex (stringBytes ("\n".intercalate digests))

namespace BundleV3Contents

/-- The serialized records of a stream. -/
def streamBytes (bundle : BundleV3Contents) : LiveStreamV2 → Bytes
  | .adapterRecords => serializeJsonl E.adapterRecord bundle.adapterRecords
  | .observations => serializeJsonl E.observation bundle.observations
  | .events => serializeJsonl E.eventV3 bundle.events
  | .rig => serializeJsonl E.rigV3 bundle.rig
  | .propagation => serializeJsonl E.propagation bundle.propagation
  | .runtimeContexts => serializeJsonl E.runtimeContext bundle.runtimeContexts
  | .diagnostics => serializeJsonl E.diagnostic bundle.diagnostics

def streamCount (bundle : BundleV3Contents) : LiveStreamV2 → ℕ
  | .adapterRecords => bundle.adapterRecords.length
  | .observations => bundle.observations.length
  | .events => bundle.events.length
  | .rig => bundle.rig.length
  | .propagation => bundle.propagation.length
  | .runtimeContexts => bundle.runtimeContexts.length
  | .diagnostics => bundle.diagnostics.length

def streamLastId (bundle : BundleV3Contents) : LiveStreamV2 → Option String
  | .adapterRecords => bundle.adapterRecords.getLast?.map (·.recordId)
  | .observations => bundle.observations.getLast?.map (·.observationId)
  | .events => bundle.events.getLast?.map (·.eventId)
  | .rig => bundle.rig.getLast?.map (·.recordId)
  | .propagation => bundle.propagation.getLast?.map (·.recordId)
  | .runtimeContexts => bundle.runtimeContexts.getLast?.map (·.contextId)
  | .diagnostics => bundle.diagnostics.getLast?.map (·.diagnosticId)

/-- The checkpoint head of a stream whose file holds `bytes`. -/
def headFor (bundle : BundleV3Contents) (stream : LiveStreamV2) (bytes : Bytes) :
    StreamCheckpointV2 :=
  checkpointForBytes E bytes (bundle.streamCount stream) (bundle.streamLastId stream)

/-- The streams a checkpoint of this schema has heads for, in the order of
`validate_v3_checkpoint`. -/
def checkpointStreams (bundle : BundleV3Contents) : List LiveStreamV2 :=
  [.events, .observations, .adapterRecords, .rig, .propagation] ++
    if bundle.manifest.schemaVersion == schemaVersionV6 then operationalStreams else []

end BundleV3Contents

/-- The same streams in the key order of the map. -/
def orderedStreams (v6 : Bool) : List LiveStreamV2 :=
  if v6 then
    [.adapterRecords, .diagnostics, .events, .observations, .propagation, .rig, .runtimeContexts]
  else [.adapterRecords, .events, .observations, .propagation, .rig]

/-- `serialize_jsonl_bounded` with the store `BundleStore::new(".")`. -/
def serializeStream {α : Type} (codec : Codec α) (name : String) (records : List α)
    (budget : ModeledBudget) : Except BundleStoreError (Bytes × ModeledBudget) :=
  serializeJsonlBounded E localStandardV1 codec (.root name) records budget

def serializeDocument {α : Type} (codec : Codec α) (name : String) (value : α)
    (budget : ModeledBudget) : Except BundleStoreError (Bytes × ModeledBudget) :=
  serializeRootBounded E localStandardV1 codec (.root name) value budget

/-- `refresh_v3_checkpoint`: the serialization follows the order of the source,
one budget after the other. -/
def refreshV3Checkpoint (bundle : BundleV3Contents) :
    Except BundleStoreError BundleV3Contents := do
  let (station, budget) ← serializeDocument E E.station "station.json" bundle.station .empty
  let (antennas, budget) ← serializeDocument E E.antennas "antennas.json" bundle.antennas budget
  let (schedule, budget) ← serializeDocument E E.scheduleV3 "schedule.json" bundle.schedule budget
  let stationSha256 := E.sha256Hex station
  let antennasSha256 := E.sha256Hex antennas
  let scheduleSha256 := E.sha256Hex schedule
  let activePlan : PlanGenerationV2 := { bundle.sessionState.activePlan with
    stationSha256, antennasSha256, scheduleSha256
    rootSha256 := planRootSha256 E [stationSha256, antennasSha256, scheduleSha256] }
  let (events, budget) ← serializeStream E E.eventV3 "events.jsonl" bundle.events budget
  let (observations, budget) ←
    serializeStream E E.observation "observations.jsonl" bundle.observations budget
  let (adapterRecords, budget) ←
    serializeStream E E.adapterRecord "adapter-records.jsonl" bundle.adapterRecords budget
  let (rig, budget) ← serializeStream E E.rigV3 "rig.jsonl" bundle.rig budget
  let (propagation, budget) ←
    serializeStream E E.propagation "propagation.jsonl" bundle.propagation budget
  let (runtimeContexts, budget) ←
    serializeStream E E.runtimeContext "runtime-contexts.jsonl" bundle.runtimeContexts budget
  let (diagnostics, _) ←
    serializeStream E E.diagnostic "diagnostics.jsonl" bundle.diagnostics budget
  let bytes : LiveStreamV2 → Bytes
    | .adapterRecords => adapterRecords
    | .observations => observations
    | .events => events
    | .rig => rig
    | .propagation => propagation
    | .runtimeContexts => runtimeContexts
    | .diagnostics => diagnostics
  let streams := (orderedStreams (bundle.manifest.schemaVersion == schemaVersionV6)).map
    fun stream => (stream.checkpointName, bundle.headFor E stream (bytes stream))
  return { bundle with sessionState := { bundle.sessionState with activePlan, streams } }

def readInspectBounded (limit : ℕ) (code : String) (path : Path) (disk : Disk) :
    Except BundleStoreError Bytes :=
  readBounded path limit code .inspect disk

/-- One plan file of `validate_v3_checkpoint`; its digest. -/
def validatePlanDigest (disk : Disk) (entry : String × Path × String) :
    Except BundleStoreError String := do
  let bytes ← readInspectBounded profile.rootJsonBytes "resource.bundle.root_json_bytes"
    entry.2.1 disk
  let actual := E.sha256Hex bytes
  failIf (actual != entry.2.2) (invalidV3 "active plan digest does not match durable bytes")
  return actual

/-- One stream of `validate_v3_checkpoint`. -/
def validateStreamHead (bundle : BundleV3Contents) (paths : ResolvedBundlePathsV2)
    (disk : Disk) (stream : LiveStreamV2) : Except BundleStoreError Unit := do
  let name := stream.checkpointName
  let expected ← orError (bundle.sessionState.streams.lookup name)
    (invalidV3 ("checkpoint is missing stream " ++ name))
  let bytes ← readInspectBounded profile.jsonlStreamBytes "resource.jsonl.stream_bytes"
    (paths.stream stream) disk
  failIf (bundle.headFor E stream bytes != expected)
    (invalidV3 ("checkpoint head for stream " ++ name ++ " does not match durable bytes"))

def validateV3Checkpoint (bundle : BundleV3Contents) (paths : ResolvedBundlePathsV2)
    (disk : Disk) : Except BundleStoreError Unit := do
  let digests ← (planDigests bundle.sessionState paths).mapM (validatePlanDigest E profile disk)
  failIf (planRootSha256 E digests != bundle.sessionState.activePlan.rootSha256)
    (invalidV3 "active plan root digest does not match durable bytes")
  if bundle.manifest.schemaVersion == schemaVersionV6 then
    let _ ← orError paths.runtimeContexts (invalidV3 "schema-v6 runtime context path is missing")
    let _ ← orError paths.diagnostics (invalidV3 "schema-v6 diagnostics path is missing")
  bundle.checkpointStreams.forM (validateStreamHead E profile bundle paths disk)

/-- An operational stream, when the manifest declares one. -/
def readOptionalJsonl {α : Type} (codec : Codec α) (path : Option Path) (budget : ModeledBudget)
    (disk : Disk) : Except BundleStoreError (List α × ModeledBudget) :=
  match path with
  | some path => readJsonlBounded E profile codec path budget disk
  | none => .ok ([], budget)

/-- The modeled files of `read_v3`, in its order. -/
def readV3Files (manifest : BundleManifestV2) (sessionState : SessionStateV2)
    (paths : ResolvedBundlePathsV2) (budget : ModeledBudget) (disk : Disk) :
    Except BundleStoreError BundleV3Contents := do
  let (runtimeContexts, budget) ←
    readOptionalJsonl E profile E.runtimeContext paths.runtimeContexts budget disk
  let (diagnostics, budget) ←
    readOptionalJsonl E profile E.diagnostic paths.diagnostics budget disk
  let (station, budget) ← readJsonBounded E profile E.station paths.station budget disk
  let (antennas, budget) ← readJsonBounded E profile E.antennas paths.antennas budget disk
  let (schedule, budget) ← readJsonBounded E profile E.scheduleV3 paths.schedule budget disk
  let (events, budget) ← readJsonlBounded E profile E.eventV3 paths.events budget disk
  let (observations, budget) ←
    readJsonlBounded E profile E.observation paths.observations budget disk
  let (adapterRecords, budget) ←
    readJsonlBounded E profile E.adapterRecord paths.adapterRecords budget disk
  let (rig, budget) ← readJsonlBounded E profile E.rigV3 paths.rig budget disk
  let (propagation, budget) ←
    readJsonlBounded E profile E.propagation paths.propagation budget disk
  let (analysis, _) ← readJsonBounded E profile E.analysis paths.analysis budget disk
  return { manifest, sessionState, station, antennas, schedule, events, observations,
           adapterRecords, rig, propagation, analysis, runtimeContexts, diagnostics }

/-- The attachments the adapter records refer to can be read. -/
def readReferencedAttachments (bundle : BundleV3Contents) (disk : Disk) :
    Except BundleStoreError Unit :=
  bundle.adapterRecords.forM fun record =>
    match record.input with
    | .attachment attachment => do
      let _ ← readAttachment E profile attachment disk
    | .inline .. => .ok ()

def readV3 (disk : Disk) : Except BundleStoreError BundleV3Contents := do
  let (manifest, budget) ←
    readJsonBounded E profile E.manifest (.root "manifest.json") .empty disk
  failIf (!isV3Schema manifest.schemaVersion) (.unsupportedSchemaVersion manifest.schemaVersion)
  let bootstrap ← v2Paths manifest.files
  let (sessionState, budget) ←
    readJsonBounded E profile E.sessionState bootstrap.sessionState budget disk
  let paths ← v2PathsForState manifest.files sessionState disk
  inventoryRoot profile .read disk
  let _ ← inventoryAttachmentTree profile .read disk
  let bundle ← readV3Files E profile manifest sessionState paths budget disk
  validateV3Model E bundle
  validateV3Checkpoint E profile bundle paths disk
  readReferencedAttachments E profile bundle disk
  return bundle

end

end AntennaBench
