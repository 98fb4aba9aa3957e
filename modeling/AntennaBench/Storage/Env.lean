import AntennaBench.Core.AntennaControl
import AntennaBench.Storage.Disk

/-!
# Errors, codecs and resource limits

The error types of the storage crate, the third-party functions it calls
(`serde_json`, SHA-256, base64, the RFC 3339 formatter) as parameters, and the
resource profile with its reader and serializer.
-/

namespace AntennaBench

inductive ResourceOperation where
  | inspect
  | read
  | write
  deriving DecidableEq

inductive ResourceStage where
  | inventory
  | metadata
  | stream
  | parse
  | serialize
  deriving DecidableEq

inductive ResourceUnit where
  | bytes
  | records
  | entries
  | depth
  deriving DecidableEq

structure ResourceDiagnostic where
  code : String
  operation : ResourceOperation
  stage : ResourceStage
  path : Option Path
  limit : ℕ
  observed : ℕ
  unit : ResourceUnit
  deriving DecidableEq

inductive BundleStoreError where
  | createDirectory
  | read (path : Path)
  | write (path : Path)
  | parseJson (path : Path)
  | invalidUtf8 (path : Path)
  | invalidBundlePath (path : String)
  | duplicateBundlePath (path : String)
  | invalidBundleFilePath (path : Path)
  | invalidAttachmentsDirectory
  | destinationExists
  | invalidBundleSuffix (schemaVersion : ℕ)
  | unsupportedSchemaVersion (actual : ℕ)
  | invalidV2Bundle (message : String)
  | invalidV3Bundle (message : String)
  | invalidAttachmentReference (message : String)
  | attachmentMismatch (path : Path)
  | resource (diagnostic : ResourceDiagnostic)
  | validation
  deriving DecidableEq

inductive LivePersistenceError where
  | store (source : BundleStoreError)
  | writerBusy
  | capability (message : String)
  | staleRevision (expected actual : ℕ)
  | recoveryRequired (message : String)
  | externalModification (message : String)
  | invalidMutation (message : String)
  | resourceLimit (code stream : String) (observed limit : ℕ)
  | mutationConflict (mutationId : String)
  | planFrozen (lifecycle : SessionLifecycleV2)
  | io (operation : String) (path : Option Path)
  | checkpointVerification (message : String)
  deriving DecidableEq

/-- `serde_json` at one type: `to_vec`, `to_vec_pretty` and `from_slice`. -/
structure Codec (α : Type) where
  toVec : α → Bytes
  toVecPretty : α → Bytes
  fromSlice : Bytes → Option α

/-- What a `deserialize_any` pass over a JSON text delivers to its visitor: the
start and the end of an array or an object, and the byte length of a string or
a key. The list ends where the text stops being JSON. -/
inductive JsonEvent where
  | enter
  | leave
  | string (byteLength : ℕ)
  deriving DecidableEq

structure PlanGenerationMetadataV2 where
  schemaVersion : ℕ
  sessionId : String
  baseRevision : ℕ
  generation : PlanGenerationV2
  deriving DecidableEq

structure RecoveryArtifactMetadataV2 where
  schemaVersion : ℕ
  sessionId : String
  source : String
  committedOffset : ℕ
  detectedAt : DateTime
  diagnosis : String
  rawAttachment : AttachmentReference
  deriving DecidableEq

/-- The code the storage crate calls outside the repository. -/
structure Env where
  sha256Hex : Bytes → String
  base64Length : String → Option ℕ
  rfc3339Secs : DateTime → String
  jsonEvents : Bytes → List JsonEvent
  manifest : Codec BundleManifestV2
  sessionState : Codec SessionStateV2
  station : Codec Station
  antennas : Codec AntennasFile
  scheduleV2 : Codec Schedule
  scheduleV3 : Codec ScheduleV3
  analysis : Codec AnalysisFile
  eventV2 : Codec OperatorEventV2
  eventV3 : Codec OperatorEventV3
  observation : Codec ObservationRecordV2
  adapterRecord : Codec AdapterRecordV2
  rigV2 : Codec RigRecordV2
  rigV3 : Codec RigRecordV3
  propagation : Codec PropagationRecordV2
  runtimeContext : Codec RuntimeContextV6
  diagnostic : Codec OperationalDiagnosticV6
  planGeneration : Codec PlanGenerationMetadataV2
  recoveryArtifact : RecoveryArtifactMetadataV2 → Bytes

structure BundleResourceProfile where
  rootJsonBytes : ℕ
  jsonlLineBytes : ℕ
  jsonlStreamBytes : ℕ
  jsonlStreamRecords : ℕ
  modeledTotalBytes : ℕ
  modeledTotalRecords : ℕ
  jsonDepth : ℕ
  scalarStringBytes : ℕ
  rootEntries : ℕ
  attachmentEntries : ℕ
  attachmentFileBytes : ℕ
  attachmentTotalBytes : ℕ
  deriving DecidableEq

def localStandardV1 : BundleResourceProfile where
  rootJsonBytes := 4 * 1024 * 1024
  jsonlLineBytes := 256 * 1024
  jsonlStreamBytes := 128 * 1024 * 1024
  jsonlStreamRecords := 250000
  modeledTotalBytes := 256 * 1024 * 1024
  modeledTotalRecords := 500000
  jsonDepth := 64
  scalarStringBytes := 128 * 1024
  rootEntries := 64
  attachmentEntries := 4096
  attachmentFileBytes := 512 * 1024 * 1024
  attachmentTotalBytes := 2 * 1024 * 1024 * 1024

/-- The bytes and records counted so far over the modeled files. -/
structure ModeledBudget where
  bytes : ℕ
  records : ℕ
  deriving DecidableEq

def ModeledBudget.empty : ModeledBudget := ⟨0, 0⟩

def checkLimit (limit observed : ℕ) (code : String) (operation : ResourceOperation)
    (stage : ResourceStage) (path : Option Path) (unit : ResourceUnit) :
    Except BundleStoreError Unit :=
  if limit < observed then
    .error (.resource ⟨code, operation, stage, path, limit, observed, unit⟩)
  else .ok ()

@[simp] theorem checkLimit_eq_ok {limit observed : ℕ} {code : String}
    {operation : ResourceOperation} {stage : ResourceStage} {path : Option Path}
    {unit : ResourceUnit} {u : Unit} :
    checkLimit limit observed code operation stage path unit = .ok u ↔ observed ≤ limit := by
  unfold checkLimit
  split_ifs with h
  · simpa using h
  · simpa using h

/-- The continuation bytes a UTF-8 scan still expects: their number and the
bounds of the next one. -/
structure Utf8State where
  remaining : ℕ
  low : UInt8
  high : UInt8

/-- `std::str::from_utf8(bytes).is_ok()`. -/
def isUtf8 : Utf8State → Bytes → Bool
  | state, [] => state.remaining == 0
  | ⟨0, _, _⟩, b :: rest =>
    if b < 0x80 then isUtf8 ⟨0, 0, 0⟩ rest
    else if 0xC2 ≤ b ∧ b ≤ 0xDF then isUtf8 ⟨1, 0x80, 0xBF⟩ rest
    else if b = 0xE0 then isUtf8 ⟨2, 0xA0, 0xBF⟩ rest
    else if b = 0xED then isUtf8 ⟨2, 0x80, 0x9F⟩ rest
    else if 0xE1 ≤ b ∧ b ≤ 0xEF then isUtf8 ⟨2, 0x80, 0xBF⟩ rest
    else if b = 0xF0 then isUtf8 ⟨3, 0x90, 0xBF⟩ rest
    else if 0xF1 ≤ b ∧ b ≤ 0xF3 then isUtf8 ⟨3, 0x80, 0xBF⟩ rest
    else if b = 0xF4 then isUtf8 ⟨3, 0x80, 0x8F⟩ rest
    else false
  | ⟨n + 1, low, high⟩, b :: rest =>
    if low ≤ b ∧ b ≤ high then isUtf8 ⟨n, 0x80, 0xBF⟩ rest else false

def validUtf8 (bytes : Bytes) : Bool :=
  isUtf8 ⟨0, 0, 0⟩ bytes

/-- `text.trim().is_empty()` on UTF-8 bytes: every character is white space. -/
def isBlankText : Bytes → Bool
  | [] => true
  | 0xC2 :: b :: rest => (b == 0x85 || b == 0xA0) && isBlankText rest
  | 0xE1 :: 0x9A :: 0x80 :: rest => isBlankText rest
  | 0xE2 :: 0x80 :: b :: rest =>
    ((0x80 ≤ b && b ≤ 0x8A) || b == 0xA8 || b == 0xA9 || b == 0xAF) && isBlankText rest
  | 0xE2 :: 0x81 :: 0x9F :: rest => isBlankText rest
  | 0xE3 :: 0x80 :: 0x80 :: rest => isBlankText rest
  | b :: rest => ((9 ≤ b && b ≤ 13) || b == 0x20) && isBlankText rest

/-- `split_inclusive` at newlines. -/
def splitLines : Bytes → List Bytes
  | [] => []
  | b :: rest =>
    if b = newline then [b] :: splitLines rest
    else match splitLines rest with
    | [] => [[b]]
    | line :: lines => (b :: line) :: lines

/-- A line without its `\n` and then without its `\r`. -/
def stripLineEnd (line : Bytes) : Bytes :=
  let line := if line.getLast? = some newline then line.dropLast else line
  if line.getLast? = some 13 then line.dropLast else line

/-- The first violation a `JsonLimitVisitor` records, from nesting depth `depth`. -/
def firstViolation (profile : BundleResourceProfile) (operation : ResourceOperation)
    (path : Path) : ℕ → List JsonEvent → Option ResourceDiagnostic
  | _, [] => none
  | depth, .enter :: rest =>
    if profile.jsonDepth < depth + 1 then
      some ⟨"resource.json.depth", operation, .parse, path, profile.jsonDepth, depth + 1, .depth⟩
    else firstViolation profile operation path (depth + 1) rest
  | depth, .leave :: rest => firstViolation profile operation path (depth - 1) rest
  | depth, .string byteLength :: rest =>
    if profile.scalarStringBytes < byteLength then
      some ⟨"resource.json.scalar_bytes", operation, .parse, path, profile.scalarStringBytes,
        byteLength, .bytes⟩
    else firstViolation profile operation path depth rest

section

variable (E : Env) (profile : BundleResourceProfile)

def scanJsonLimits (path : Path) (text : Bytes) (operation : ResourceOperation) :
    Except BundleStoreError Unit :=
  match firstViolation profile operation path 0 (E.jsonEvents text) with
  | some diagnostic => .error (.resource diagnostic)
  | none => .ok ()

def ModeledBudget.addBytes (budget : ModeledBudget) (path : Path) (bytes : ℕ)
    (operation : ResourceOperation) : Except BundleStoreError ModeledBudget := do
  checkLimit profile.modeledTotalBytes (budget.bytes + bytes) "resource.bundle.modeled_bytes"
    operation .stream path .bytes
  return { budget with bytes := budget.bytes + bytes }

def ModeledBudget.addRecord (budget : ModeledBudget) (path : Path)
    (operation : ResourceOperation) : Except BundleStoreError ModeledBudget := do
  checkLimit profile.modeledTotalRecords (budget.records + 1) "resource.bundle.modeled_records"
    operation .stream path .records
  return { budget with records := budget.records + 1 }

def readBounded (path : Path) (limit : ℕ) (code : String) (operation : ResourceOperation)
    (disk : Disk) : Except BundleStoreError Bytes := do
  let bytes ← orError (disk.get path) (.read path)
  checkLimit limit bytes.length code operation .metadata path .bytes
  return bytes

theorem readBounded_eq_ok {path : Path} {limit : ℕ} {code : String}
    {operation : ResourceOperation} {disk : Disk} {bytes : Bytes} :
    readBounded path limit code operation disk = .ok bytes ↔
      disk.get path = some bytes ∧ bytes.length ≤ limit := by
  simp only [readBounded, bind_eq_ok, orError_eq_ok, checkLimit_eq_ok, pure_eq_ok]
  constructor
  · rintro ⟨_, hget, _, hlimit, rfl⟩
    exact ⟨hget, hlimit⟩
  · rintro ⟨hget, hlimit⟩
    exact ⟨bytes, hget, (), hlimit, rfl⟩

/-- `read_bounded` at the limit of a root document. -/
def readRootBounded (path : Path) (operation : ResourceOperation) (disk : Disk) :
    Except BundleStoreError Bytes :=
  readBounded path profile.rootJsonBytes "resource.bundle.root_json_bytes" operation disk

/-- `read_bounded` at the limit of a JSONL stream. -/
def readStreamBounded (path : Path) (operation : ResourceOperation) (disk : Disk) :
    Except BundleStoreError Bytes :=
  readBounded path profile.jsonlStreamBytes "resource.jsonl.stream_bytes" operation disk

def readJsonBounded {α : Type} (codec : Codec α) (path : Path) (budget : ModeledBudget)
    (disk : Disk) : Except BundleStoreError (α × ModeledBudget) := do
  let bytes ← readRootBounded profile path .read disk
  let budget ← budget.addBytes profile path bytes.length .read
  failIf (!validUtf8 bytes) (.invalidUtf8 path)
  scanJsonLimits E profile path bytes .read
  let value ← orError (codec.fromSlice bytes) (.parseJson path)
  return (value, budget)

/-- The state of the loop of `for_each_jsonl`. -/
structure JsonlState (α : Type) where
  budget : ModeledBudget
  streamBytes : ℕ
  records : List α

/-- One physical line of `for_each_jsonl`, with the record pushed at its end. -/
def readJsonlLine {α : Type} (codec : Codec α) (path : Path) (state : JsonlState α)
    (line : Bytes) : Except BundleStoreError (JsonlState α) := do
  checkLimit profile.jsonlLineBytes line.length "resource.jsonl.line_bytes" .read .stream path
    .bytes
  let streamBytes := state.streamBytes + line.length
  checkLimit profile.jsonlStreamBytes streamBytes "resource.jsonl.stream_bytes" .read .stream
    path .bytes
  let budget ← state.budget.addBytes profile path line.length .read
  failIf (!validUtf8 line) (.invalidUtf8 path)
  let record := stripLineEnd line
  if isBlankText record then
    return ⟨budget, streamBytes, state.records⟩
  else
    checkLimit profile.jsonlStreamRecords (state.records.length + 1) "resource.jsonl.records"
      .read .stream path .records
    let budget ← budget.addRecord profile path .read
    scanJsonLimits E profile path record .read
    let value ← orError (codec.fromSlice record) (.parseJson path)
    return ⟨budget, streamBytes, state.records ++ [value]⟩

def readJsonlBounded {α : Type} (codec : Codec α) (path : Path) (budget : ModeledBudget)
    (disk : Disk) : Except BundleStoreError (List α × ModeledBudget) := do
  let bytes ← readStreamBounded profile path .read disk
  let state ← (splitLines bytes).foldlM (readJsonlLine E profile codec path) ⟨budget, 0, []⟩
  return (state.records, state.budget)

/-- `serialize_bounded` of a JSONL line. A JSON text does not end in white
space, so the scanned `text.trim_end()` is the text before its newline. -/
def serializeLineBounded {α : Type} (codec : Codec α) (path : Path) (value : α) :
    Except BundleStoreError Bytes := do
  let text := codec.toVec value
  checkLimit profile.jsonlLineBytes (text.length + 1) "resource.jsonl.line_bytes" .write
    .serialize path .bytes
  scanJsonLimits E profile path text .write
  return text ++ [newline]

def serializeRootBounded {α : Type} (codec : Codec α) (path : Path) (value : α)
    (budget : ModeledBudget) : Except BundleStoreError (Bytes × ModeledBudget) := do
  let text := codec.toVecPretty value
  checkLimit profile.rootJsonBytes (text.length + 1) "resource.bundle.root_json_bytes" .write
    .serialize path .bytes
  scanJsonLimits E profile path text .write
  let bytes := text ++ [newline]
  let budget ← budget.addBytes profile path bytes.length .write
  return (bytes, budget)

/-- One record of the loop of `serialize_jsonl_bounded`. -/
def serializeJsonlRecord {α : Type} (codec : Codec α) (path : Path)
    (state : Bytes × ModeledBudget) (record : α) :
    Except BundleStoreError (Bytes × ModeledBudget) := do
  let line ← serializeLineBounded E profile codec path record
  checkLimit profile.jsonlStreamBytes (state.1.length + line.length)
    "resource.jsonl.stream_bytes" .write .serialize path .bytes
  let budget ← state.2.addBytes profile path line.length .write
  let budget ← budget.addRecord profile path .write
  return (state.1 ++ line, budget)

def serializeJsonlBounded {α : Type} (codec : Codec α) (path : Path) (records : List α)
    (budget : ModeledBudget) : Except BundleStoreError (Bytes × ModeledBudget) := do
  checkLimit profile.jsonlStreamRecords records.length "resource.jsonl.records" .write
    .serialize path .records
  records.foldlM (serializeJsonlRecord E profile codec path) ([], budget)

end

/-- `serialize_json`: a root document as it is written. -/
def serializeJson {α : Type} (codec : Codec α) (value : α) : Bytes :=
  codec.toVecPretty value ++ [newline]

/-- `serialize_jsonl`: a stream as it is written. -/
def serializeJsonl {α : Type} (codec : Codec α) (records : List α) : Bytes :=
  records.flatMap fun record => codec.toVec record ++ [newline]

end AntennaBench
