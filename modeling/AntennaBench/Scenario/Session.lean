import AntennaBench.Scenario.Encoding

/-!
# A session

A schema-v6 session that is ready and has recorded nothing yet, on disk as
`serde_json` writes it. Codecs that know a finite list of values stand for the
JSON parser: they read exactly the texts of these values.
-/

namespace AntennaBench

/-- The codec of a type at the values a run meets. -/
def Codec.ofValues {α : Type} (json : α → JsonText) (values : List α) : Codec α where
  toVec value := (json value).compact
  toVecPretty value := (json value).pretty
  fromSlice bytes := values.find? fun value =>
    bytes == (json value).compact || bytes == (json value).pretty ++ [newline]

/-- A digest function known at finitely many texts. -/
def digestOf (known : List (Bytes × String)) (bytes : Bytes) : String :=
  (known.lookup bytes).getD
    "0000000000000000000000000000000000000000000000000000000000000000"

/-- The brackets and strings of a JSON text. The state is the length of the string
the scan is in, and whether the next byte of it is escaped. -/
def scanJsonText : Option ℕ → Bool → Bytes → List JsonEvent
  | _, _, [] => []
  | none, _, b :: rest =>
    if b = 34 then scanJsonText (some 0) false rest
    else if b = 91 ∨ b = 123 then .enter :: scanJsonText none false rest
    else if b = 93 ∨ b = 125 then .leave :: scanJsonText none false rest
    else scanJsonText none false rest
  | some length, true, _ :: rest => scanJsonText (some (length + 1)) false rest
  | some length, false, b :: rest =>
    if b = 34 then .string length :: scanJsonText none false rest
    else if b = 92 then scanJsonText (some length) true rest
    else scanJsonText (some (length + 1)) false rest

namespace Scenario

/-- 2026-05-01, a number of seconds past noon. -/
def noon (seconds : ℕ) : DateTime := (1777636800 + seconds) * DateTime.nanosPerSecond

def files : BundleFilesV2 where
  manifest := "manifest.json"
  sessionState := "session-state.json"
  station := "station.json"
  antennas := "antennas.json"
  schedule := "schedule.json"
  events := "events.jsonl"
  observations := "observations.jsonl"
  adapterRecords := "adapter-records.jsonl"
  rig := "rig.jsonl"
  propagation := "propagation.jsonl"
  analysis := "analysis.json"
  attachmentsDir := "attachments"
  runtimeContexts := some "runtime-contexts.jsonl"
  diagnostics := some "diagnostics.jsonl"

def build : BuildIdentityV6 :=
  ⟨some "0.1.0", none, .unknown, .unknown, none, none, none, none⟩

def platform : RuntimePlatformV6 := ⟨none, none, none, none⟩

/-- The bytes a runtime context identity is the digest of. -/
def contextBytes : Bytes :=
  let fields := [build.appVersion, build.sourceCommit, some build.sourceState.text,
    some build.buildChannel.text, build.releaseTag, build.targetTriple, build.buildArchitecture,
    none, none, platform.osFamily, platform.osVersion, platform.runtimeArchitecture,
    platform.applicationId]
  stringBytes "antennabench.runtime-context.v1" ++ [0] ++ fields.flatMap contextFieldBytes

def emptySha256 : String :=
  "e3b0c44298fc1c14" ++ "9afbf4c8996fb924" ++ "27ae41e4649b934c" ++ "a495991b7852b855"
def contextDigest : String :=
  "b7b678188893d43a" ++ "df65b4bf527e3b30" ++ "e4eef604968ca34c" ++ "fd6adfb75a6ec5d4"
def stationSha256 : String :=
  "041dcf2b3fe0f98c" ++ "bfff17652ca5b6cf" ++ "3afa365d32932130" ++ "95d1beb034dcbc22"
def antennasSha256 : String :=
  "198eb8cb5fe72928" ++ "4f7afeb6aa3a7bbd" ++ "91801fb53e5bc22f" ++ "5a9fc288172f3755"
def scheduleSha256 : String :=
  "2059feb04b015537" ++ "04f3407245693edd" ++ "e00264af2ad9b358" ++ "679b3745a2ba1ade"
def rootSha256 : String :=
  "550fcd8d3a0dfa39" ++ "e826ef5061369a85" ++ "ce2c25990d4895f2" ++ "32413b811c790d87"
def contextsSha256 : String :=
  "0525e498252789a0" ++ "c46ae5a216f0f73e" ++ "c35c10dc4289e3d5" ++ "4e22e74601b68938"

def contextId : String := "ctx_" ++ contextDigest

def context : RuntimeContextV6 where
  schema := "runtime_context.v1"
  contextId := contextId
  firstRecordedAt := noon 0
  mutation := ⟨"create-s1", 0, 1⟩
  build := build
  platform := platform

def manifest : BundleManifestV2 where
  schemaVersion := 6
  sessionId := "s1"
  createdAt := noon 0
  appVersion := "0.1.0"
  files := files
  creatorRuntimeContextId := some contextId

def station : Station := ⟨6, "s1", "K1ABC", "FN42", none, none⟩

def antenna (label : String) : Antenna :=
  ⟨label, [], none, none, none, none, none, none, none⟩

def antennas : AntennasFile := ⟨6, "s1", [antenna "A", antenna "B"]⟩

def schedule : ScheduleV3 := ⟨6, "s1", .wholeStationAb, .dx, some .manual, [], [], []⟩

def analysis : AnalysisFile := ⟨6, "s1", none, .notRun, []⟩

def contextLine : Bytes := context.json.compact ++ [newline]

def activePlan : PlanGenerationV2 :=
  ⟨"root", stationSha256, antennasSha256, scheduleSha256, rootSha256⟩

def emptyHead : StreamCheckpointV2 := ⟨0, 0, none, emptySha256⟩

def contextsHead : StreamCheckpointV2 := ⟨508, 1, some contextId, contextsSha256⟩

def complete : DiagnosticsStatusV6 := ⟨.complete, 0, none, none⟩

def sessionState : SessionStateV2 where
  schemaVersion := 6
  sessionId := "s1"
  revision := 0
  lifecycle := .ready
  wsprLiveAcquisitionEnabled := false
  activePlan := activePlan
  streams := [("adapter_records", emptyHead), ("diagnostics", emptyHead), ("events", emptyHead),
    ("observations", emptyHead), ("propagation", emptyHead), ("rig", emptyHead),
    ("runtimeContexts", contextsHead)]
  lastCommittedMutationId := none
  activeRuntimeContextId := some contextId
  diagnosticsStatus := some complete

def document (text : JsonText) : Bytes := text.pretty ++ [newline]

def disk : Disk where
  files := [(.root "manifest.json", document manifest.json),
    (.root "session-state.json", document sessionState.json),
    (.root "station.json", document station.json),
    (.root "antennas.json", document antennas.json),
    (.root "schedule.json", document schedule.json),
    (.root "analysis.json", document analysis.json),
    (.root "events.jsonl", []), (.root "observations.jsonl", []),
    (.root "adapter-records.jsonl", []), (.root "rig.jsonl", []),
    (.root "propagation.jsonl", []), (.root "runtime-contexts.jsonl", contextLine),
    (.root "diagnostics.jsonl", [])]
  digestDir := false
  generationsDir := false
  generationDirs := []

def bundle : BundleV3Contents where
  manifest := manifest
  sessionState := sessionState
  station := station
  antennas := antennas
  schedule := schedule
  events := []
  observations := []
  adapterRecords := []
  rig := []
  propagation := []
  analysis := analysis
  runtimeContexts := [context]
  diagnostics := []

/-- The values and the digests a run meets besides those of the session itself. -/
structure Known where
  sessionStates : List SessionStateV2
  events : List OperatorEventV3
  diagnostics : List OperationalDiagnosticV6
  digests : List (Bytes × String)

def digests : List (Bytes × String) :=
  [([], emptySha256), (contextBytes, contextDigest), (document station.json, stationSha256),
    (document antennas.json, antennasSha256), (document schedule.json, scheduleSha256),
    (stringBytes (stationSha256 ++ "\n" ++ antennasSha256 ++ "\n" ++ scheduleSha256), rootSha256),
    (contextLine, contextsSha256)]

def env (known : Known) : Env where
  sha256Hex := digestOf (digests ++ known.digests)
  base64Length _ := none
  rfc3339Secs := JsonText.rfc3339
  jsonEvents := scanJsonText none false
  manifest := .ofValues BundleManifestV2.json [manifest]
  sessionState := .ofValues SessionStateV2.json (sessionState :: known.sessionStates)
  station := .ofValues Station.json [station]
  antennas := .ofValues AntennasFile.json [antennas]
  scheduleV2 := .ofValues (fun _ => .null) []
  scheduleV3 := .ofValues ScheduleV3.json [schedule]
  analysis := .ofValues AnalysisFile.json [analysis]
  eventV2 := .ofValues (fun _ => .null) []
  eventV3 := .ofValues OperatorEventV3.json known.events
  observation := .ofValues (fun _ => .null) []
  adapterRecord := .ofValues (fun _ => .null) []
  rigV2 := .ofValues (fun _ => .null) []
  rigV3 := .ofValues (fun _ => .null) []
  propagation := .ofValues (fun _ => .null) []
  runtimeContext := .ofValues RuntimeContextV6.json [context]
  diagnostic := .ofValues OperationalDiagnosticV6.json known.diagnostics
  planGeneration := .ofValues (fun _ => .null) []
  recoveryArtifact metadata := metadata.json.pretty

def session : LiveSessionV3 where
  bundle := bundle
  paths := {
    manifest := .root "manifest.json"
    sessionState := .root "session-state.json"
    station := .root "station.json"
    antennas := .root "antennas.json"
    schedule := .root "schedule.json"
    events := .root "events.jsonl"
    observations := .root "observations.jsonl"
    adapterRecords := .root "adapter-records.jsonl"
    rig := .root "rig.jsonl"
    propagation := .root "propagation.jsonl"
    analysis := .root "analysis.json"
    runtimeContexts := some (.root "runtime-contexts.jsonl")
    diagnostics := some (.root "diagnostics.jsonl")
    attachmentsDir := .root "attachments" }
  frozen := false
  pendingRuntimeContext := none

/-- The operator starts the session; the writer fills in the envelope. -/
def startEvent : OperatorEventV3 where
  recordMeta := {
    schemaVersion := 6
    sessionId := "s1"
    recordedAt := noon 60
    provenance := .fromLegacy .derived "0.1.0"
    mutation := ⟨"mutation-1", 0, 1⟩
    runtimeContextId := none }
  eventId := "event-1"
  occurredAt := noon 60
  timeBasis := .observedNow
  uncertaintySeconds := none
  slotId := none
  payload := .sessionStarted none

def startMutation : LiveEventMutationV3 := ⟨0, "mutation-1", startEvent⟩

end Scenario

end AntennaBench
