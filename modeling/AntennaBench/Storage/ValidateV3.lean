import AntennaBench.Storage.Checkpoint

/-!
# Model validation of schema-v3 to schema-v6 bundles

`validate_v3_model` and the schema-v6 checks of runtime contexts and operational
diagnostics. The loops of the source that carry sets of identities and a byte
count are folds over the same state.
-/

namespace AntennaBench

def invalidV3 (message : String) : BundleStoreError := .invalidV3Bundle message

def isV3Schema (schemaVersion : ℕ) : Bool :=
  schemaVersion == schemaVersionV3 || schemaVersion == schemaVersionV4 ||
    schemaVersion == schemaVersionV5 || schemaVersion == schemaVersionV6

def runtimeContextSchemaV1 : String := "runtime_context.v1"
def runtimeContextRecordMaxBytes : ℕ := 4 * 1024
def runtimeContextMaxRecords : ℕ := 256
def runtimeContextStreamMaxBytes : ℕ := 1024 * 1024

def SourceStateV6.text : SourceStateV6 → String
  | clean => "clean"
  | dirty => "dirty"
  | unknown => "unknown"

def BuildChannelV6.text : BuildChannelV6 → String
  | officialRelease => "official_release"
  | development => "development"
  | «local» => "local"
  | unknown => "unknown"

/-- `str::as_bytes`. -/
def stringBytes (value : String) : Bytes :=
  value.toUTF8.data.toList

/-- `u32::to_be_bytes`. -/
def bigEndian32 (n : ℕ) : Bytes :=
  [n / 2 ^ 24, n / 2 ^ 16, n / 2 ^ 8, n].map UInt8.ofNat

/-- One optional field of the digested identity: its length and its bytes. -/
def contextFieldBytes : Option String → Bytes
  | some value => bigEndian32 (min value.utf8ByteSize (2 ^ 32 - 1)) ++ stringBytes value
  | none => bigEndian32 (2 ^ 32 - 1)

def runtimeContextIdV6 (E : Env) (build : BuildIdentityV6) (platform : RuntimePlatformV6) :
    String :=
  let fields := [build.appVersion, build.sourceCommit, some build.sourceState.text,
    some build.buildChannel.text, build.releaseTag, build.targetTriple,
    build.buildArchitecture, build.buildTimestamp.map fun timestamp =>
      E.rfc3339Secs timestamp.value,
    build.buildTimestamp.map fun _ => "source_date_epoch", platform.osFamily,
    platform.osVersion, platform.runtimeArchitecture, platform.applicationId]
  "ctx_" ++ E.sha256Hex
    (stringBytes "antennabench.runtime-context.v1" ++ [0] ++ fields.flatMap contextFieldBytes)

def RuntimeContextV6.hasValidIdentity (E : Env) (context : RuntimeContextV6) : Bool :=
  context.schema == runtimeContextSchemaV1 &&
    context.contextId == runtimeContextIdV6 E context.build context.platform

def unboundedText (value : String) : Bool :=
  value.isEmpty || 256 < value.utf8ByteSize || value.toList.any isControl

def isFullCommit (commit : String) : Bool :=
  (commit.utf8ByteSize == 40 || commit.utf8ByteSize == 64) && commit.toList.all isLowerHex

def validateBuildIdentityV6 (context : RuntimeContextV6) : Except BundleStoreError Unit := do
  let build := context.build
  let platform := context.platform
  let bounded := [build.appVersion, build.sourceCommit, build.releaseTag, build.targetTriple,
    build.buildArchitecture, platform.osFamily, platform.osVersion,
    platform.runtimeArchitecture, platform.applicationId]
  failIf (bounded.any (·.any unboundedText))
    (invalidV3 "runtime build and platform values must be bounded nonempty text")
  failIf (build.sourceCommit.any fun commit => !isFullCommit commit)
    (invalidV3 "source commit must be a full lowercase hexadecimal identity")
  match build.buildChannel with
  | .officialRelease =>
    failIf (build.sourceState != .clean || build.sourceCommit.isNone || build.releaseTag.isNone ||
        build.targetTriple.isNone || build.buildArchitecture.isNone || build.appVersion.isNone ||
        build.releaseTag != build.appVersion.map ("v" ++ ·))
      (invalidV3 ("official release context requires agreeing version, tag, clean commit, " ++
        "target, and architecture"))
  | .development | .«local» | .unknown =>
    failIf build.releaseTag.isSome
      (invalidV3 "non-official build contexts cannot claim a release tag")

/-- The identities met so far and the bytes the records take as a stream. -/
structure StreamScan where
  ids : List String
  attempts : List String
  streamBytes : ℕ

def validateRuntimeContextV6 (E : Env) (scan : StreamScan) (context : RuntimeContextV6) :
    Except BundleStoreError StreamScan := do
  failIf (!context.hasValidIdentity E || scan.ids.contains context.contextId)
    (invalidV3 "runtime contexts require unique canonical context identities")
  validateBuildIdentityV6 context
  let lineBytes := (E.runtimeContext.toVec context).length + 1
  failIf (runtimeContextRecordMaxBytes < lineBytes)
    (invalidV3 "runtime context exceeds the 4 KiB record bound")
  return { scan with
    ids := context.contextId :: scan.ids
    streamBytes := scan.streamBytes + lineBytes }

def operationalDiagnosticSchemaV1 : String := "operational_diagnostic.v1"
def diagnosticRecordMaxBytes : ℕ := 8 * 1024
def diagnosticMaxRecords : ℕ := 2048
def diagnosticStreamMaxBytes : ℕ := 16 * 1024 * 1024
def diagnosticSummaryMaxBytes : ℕ := 256
def diagnosticMachineValueMaxBytes : ℕ := 64
def diagnosticIdentifierMaxBytes : ℕ := 128
def diagnosticTargetMaxCount : ℕ := 8
def diagnosticCauseMaxDepth : ℕ := 4
def diagnosticFactMaxCount : ℕ := 24

def validDiagnosticMachineValue (value : String) : Bool :=
  !value.isEmpty && value.utf8ByteSize ≤ diagnosticMachineValueMaxBytes &&
    value.toList.all fun c => isIdentityAlphanumeric c || isIdentitySeparator c

def validDiagnosticIdentifier (value : String) : Bool :=
  !value.isEmpty && value.utf8ByteSize ≤ diagnosticIdentifierMaxBytes &&
    !value.toList.any isControl

def validateDiagnosticsStatus (status : DiagnosticsStatusV6) : Except BundleStoreError Unit :=
  match status.state with
  | .complete =>
    failIf (status.omittedCount != 0 || status.firstOmittedAt.isSome || status.reasonCode.isSome)
      (invalidV3 "complete diagnostics status cannot claim omitted records")
  | .saturated | .gap =>
    failIf (status.omittedCount == 0 || status.firstOmittedAt.isNone ||
        !status.reasonCode.any validDiagnosticMachineValue)
      (invalidV3 "incomplete diagnostics status requires an omitted record, time, and reason")

def validateDiagnosticTarget : DiagnosticTargetV6 → Except BundleStoreError Unit
  | .acquisitionWindow start finish =>
    failIf (finish ≤ start) (invalidV3 "diagnostic acquisition window is empty")
  | .adapter id | .source id | .mutation id | .record id | .slot id | .intent id =>
    failIf (!validDiagnosticIdentifier id) (invalidV3 "diagnostic target identity is invalid")

def invalidDiagnosticFact (fact : DiagnosticFactV6) : Bool :=
  !validDiagnosticMachineValue fact.name ||
    match fact.value with
    | .enum value => !validDiagnosticMachineValue value
    | .identifier value => !validDiagnosticIdentifier value
    | _ => false

def validateDiagnosticCause (cause : DiagnosticCauseV6) : Except BundleStoreError Unit := do
  failIf (!validDiagnosticMachineValue cause.code) (invalidV3 "diagnostic cause code is invalid")
  failIf (cause.facts.any invalidDiagnosticFact) (invalidV3 "diagnostic fact is invalid")

def DiagnosticDetailStatusV6.isConsistent (status : DiagnosticDetailStatusV6) : Bool :=
  match status.state with
  | .complete => status.omittedFactCount == 0
  | .truncated => 0 < status.omittedFactCount

/-- The revisions a diagnostic reports lie before its own. -/
def inconsistentRevisions (diagnostic : OperationalDiagnosticV6) : Bool :=
  match diagnostic.revisionBefore, diagnostic.revisionAfter with
  | some before, some after => after < before || diagnostic.diagnosticRevision ≤ after
  | _, _ => false

def validateDiagnosticV6 (E : Env) (revision : ℕ) (scan : StreamScan)
    (diagnostic : OperationalDiagnosticV6) : Except BundleStoreError StreamScan := do
  failIf (diagnostic.schema != operationalDiagnosticSchemaV1 ||
      !validDiagnosticIdentifier diagnostic.diagnosticId ||
      !validDiagnosticIdentifier diagnostic.correlationId ||
      !validDiagnosticIdentifier diagnostic.attemptId ||
      scan.ids.contains diagnostic.diagnosticId || scan.attempts.contains diagnostic.attemptId)
    (invalidV3 "diagnostics require unique bounded identities and attempt IDs")
  failIf (!validDiagnosticMachineValue diagnostic.code ||
      !validDiagnosticMachineValue diagnostic.retry.guidanceCode || diagnostic.summary.isEmpty ||
      diagnosticSummaryMaxBytes < diagnostic.summary.utf8ByteSize ||
      diagnostic.summary.toList.any isControl)
    (invalidV3 "diagnostic code, guidance, or summary is outside its bound")
  failIf (diagnostic.mutation.memberCount == 0 ||
      diagnostic.mutation.memberCount ≤ diagnostic.mutation.memberIndex ||
      revision < diagnostic.diagnosticRevision || inconsistentRevisions diagnostic)
    (invalidV3 "diagnostic revision or mutation membership is inconsistent")
  failIf (diagnosticTargetMaxCount < diagnostic.targets.length ||
      diagnosticCauseMaxDepth < diagnostic.causes.length)
    (invalidV3 "diagnostic target or cause bound exceeded")
  diagnostic.targets.forM validateDiagnosticTarget
  failIf (diagnosticFactMaxCount < (diagnostic.causes.map (·.facts.length)).sum)
    (invalidV3 "diagnostic fact bound exceeded")
  diagnostic.causes.forM validateDiagnosticCause
  failIf (!diagnostic.detailStatus.isConsistent)
    (invalidV3 "diagnostic detail status is inconsistent")
  let lineBytes := (E.diagnostic.toVec diagnostic).length + 1
  failIf (diagnosticRecordMaxBytes < lineBytes)
    (invalidV3 "diagnostic exceeds the 8 KiB record bound")
  return ⟨diagnostic.diagnosticId :: scan.ids, diagnostic.attemptId :: scan.attempts,
    scan.streamBytes + lineBytes⟩

def validateDiagnosticsV6 (E : Env) (bundle : BundleV3Contents) :
    Except BundleStoreError Unit := do
  let status ← orError bundle.sessionState.diagnosticsStatus
    (invalidV3 "schema-v6 checkpoint is missing diagnostics status")
  validateDiagnosticsStatus status
  failIf (diagnosticMaxRecords < bundle.diagnostics.length)
    (invalidV3 "diagnostic stream exceeds the record bound")
  let scan ← bundle.diagnostics.foldlM (validateDiagnosticV6 E bundle.sessionState.revision)
    ⟨[], [], 0⟩
  failIf (diagnosticStreamMaxBytes < scan.streamBytes)
    (invalidV3 "diagnostic stream exceeds the 16 MiB bound")

namespace BundleV3Contents

/-- The envelopes of the evidence records, in the order the checks chain them. -/
def metas (bundle : BundleV3Contents) : List RecordMetaV2 :=
  bundle.events.map (·.recordMeta) ++ bundle.observations.map (·.recordMeta) ++
    bundle.adapterRecords.map (·.recordMeta) ++ bundle.rig.map (·.recordMeta) ++
    bundle.propagation.map (·.recordMeta)

def declaresV6Fields (bundle : BundleV3Contents) : Bool :=
  !bundle.runtimeContexts.isEmpty || !bundle.diagnostics.isEmpty ||
    bundle.manifest.creatorRuntimeContextId.isSome ||
    bundle.sessionState.activeRuntimeContextId.isSome ||
    bundle.sessionState.diagnosticsStatus.isSome || bundle.manifest.files.runtimeContexts.isSome ||
    bundle.manifest.files.diagnostics.isSome

end BundleV3Contents

def validateRuntimeContextsV6 (E : Env) (bundle : BundleV3Contents) :
    Except BundleStoreError Unit :=
  if bundle.manifest.schemaVersion != schemaVersionV6 then
    failIf bundle.declaresV6Fields
      (invalidV3 "schema-v3 through v5 cannot declare schema-v6 runtime context fields")
  else do
    failIf (bundle.manifest.files.runtimeContexts != some "runtime-contexts.jsonl" ||
        bundle.manifest.files.diagnostics != some "diagnostics.jsonl")
      (invalidV3 "schema-v6 requires the canonical runtime context and diagnostics stream paths")
    failIf (bundle.runtimeContexts.isEmpty ||
        runtimeContextMaxRecords < bundle.runtimeContexts.length)
      (invalidV3 "schema-v6 requires between one and 256 runtime contexts")
    let creator ← orError bundle.manifest.creatorRuntimeContextId
      (invalidV3 "schema-v6 manifest is missing creator runtime context")
    let active ← orError bundle.sessionState.activeRuntimeContextId
      (invalidV3 "schema-v6 checkpoint is missing active runtime context")
    failIf (bundle.runtimeContexts.head?.map (·.contextId) != some creator)
      (invalidV3 "schema-v6 creator must reference the first runtime context")
    let scan ← bundle.runtimeContexts.foldlM (validateRuntimeContextV6 E) ⟨[], [], 0⟩
    failIf (runtimeContextStreamMaxBytes < scan.streamBytes)
      (invalidV3 "runtime context stream exceeds the 1 MiB bound")
    failIf (!scan.ids.contains active)
      (invalidV3 "active runtime context does not exist in the committed stream")
    failIf (bundle.metas.any (fun record => !record.runtimeContextId.any scan.ids.contains) ||
        bundle.diagnostics.any fun record => !scan.ids.contains record.runtimeContextId)
      (invalidV3 "every schema-v6 record must reference a committed runtime context")
    validateDiagnosticsV6 E bundle

/-- Intent identities and sequence numbers met so far, and the next index. -/
structure IntentScan where
  index : ℕ
  ids : List String
  sequences : List ℕ

def validateIntent (bundle : BundleV3Contents) (antennaLabels : List String) (scan : IntentScan)
    (intent : WsprCycleIntentV3) : Except BundleStoreError IntentScan := do
  let schemaVersion := bundle.manifest.schemaVersion
  failIf ((schemaVersion == schemaVersionV4 || (schemaVersionV5 ≤ schemaVersion &&
      bundle.schedule.antennaControl != some .manual)) && intent.direction.isNone)
    (invalidV3 ("current command-controlled WSPR cycle intentions require an explicit " ++
      "direction"))
  failIf (isBlank intent.intentId || !isTrimmed intent.intentId || !isAscii intent.intentId ||
      scan.ids.contains intent.intentId)
    (invalidV3 "WSPR cycle intent identities must be unique, nonempty, trimmed ASCII")
  failIf (intent.sequenceNumber != min (scan.index + 1) (2 ^ 32 - 1) ||
      scan.sequences.contains intent.sequenceNumber)
    (invalidV3 "WSPR cycle intentions must be stored in contiguous sequence-number order")
  failIf (!antennaLabels.contains intent.antennaLabel)
    (invalidV3 ("WSPR cycle intent " ++ intent.intentId ++ " references unknown antenna " ++
      debugString intent.antennaLabel))
  failIf (intent.signal.isSome && intent.direction == some .receive)
    (invalidV3 "controlled signal intentions must have transmit direction")
  return ⟨scan.index + 1, intent.intentId :: scan.ids, intent.sequenceNumber :: scan.sequences⟩

/-- The directions of the intents are the ones the experiment mode asks for. -/
def directionsMatchMode (mode : ExperimentMode) (intents : List WsprCycleIntentV3) : Bool :=
  let directions := intents.filterMap (·.direction)
  let receives := directions.contains .receive
  let transmits := directions.contains .transmit
  match mode with
  | .txFocused => transmits && !receives
  | .rxFocused => receives && !transmits
  | .wholeStationAb | .singleAntennaProfiling => receives && transmits

def blockingSignalCodes : List String :=
  ["signal_state.missing_slot", "signal_state.unknown_slot", "signal_state.slot_without_plan",
    "signal_state.unknown_plan", "signal_state.invalid_frequency", "signal_state.invalid_power"]

def failOnSignalDiagnostic (diagnostics : List SignalPlanDiagnosticV3) :
    Except BundleStoreError Unit :=
  match diagnostics with
  | [] => .ok ()
  | diagnostic :: _ => .error (invalidV3 (diagnostic.code ++ ": " ++ diagnostic.message))

def failOnSignalState (diagnostics : List SignalPlanDiagnosticV3) :
    Except BundleStoreError Unit :=
  failOnSignalDiagnostic (diagnostics.filter (blockingSignalCodes.contains ·.code))

def validateDocumentIdentity (bundle : BundleV3Contents) (document : ℕ × String × String) :
    Except BundleStoreError Unit :=
  failIf (document.1 != bundle.manifest.schemaVersion ||
      document.2.1 != bundle.manifest.sessionId)
    (invalidV3 (document.2.2 ++ " schema/session identity does not match the v3 manifest"))

def documentIdentities (bundle : BundleV3Contents) : List (ℕ × String × String) :=
  [(bundle.manifest.schemaVersion, bundle.manifest.sessionId, "manifest"),
    (bundle.sessionState.schemaVersion, bundle.sessionState.sessionId, "session state"),
    (bundle.station.schemaVersion, bundle.station.sessionId, "station"),
    (bundle.antennas.schemaVersion, bundle.antennas.sessionId, "antennas"),
    (bundle.schedule.schemaVersion, bundle.schedule.sessionId, "schedule"),
    (bundle.analysis.schemaVersion, bundle.analysis.sessionId, "analysis")]

/-- The envelope of a record names the schema and the session of the manifest. -/
def RecordMetaV2.foreign (recordMeta : RecordMetaV2) (bundle : BundleV3Contents) : Bool :=
  recordMeta.schemaVersion != bundle.manifest.schemaVersion ||
    recordMeta.sessionId != bundle.manifest.sessionId

def validateRecordIdentity (bundle : BundleV3Contents) (name : String)
    (recordMeta : RecordMetaV2) : Except BundleStoreError Unit :=
  failIf (recordMeta.foreign bundle)
    (invalidV3 (name ++ " schema/session identity does not match manifest"))

def validateArmedLabel (antennaLabels : List String) (event : OperatorEventV3) :
    Except BundleStoreError Unit :=
  match event.payload with
  | .wsprCycleArmed antennaLabel _ _ =>
    failIf (!antennaLabels.contains antennaLabel)
      (invalidV3 ("armed WSPR cycle references unknown antenna " ++ debugString antennaLabel))
  | _ => .ok ()

def validateSchedule (bundle : BundleV3Contents) : Except BundleStoreError Unit := do
  failOnSignalDiagnostic
    (validateSignalPlanScheduleV3 bundle.station.callsign bundle.schedule)
  let intents := bundle.schedule.wsprCycleIntents
  let antennaLabels := bundle.antennas.antennas.map (·.label)
  let _ ← intents.foldlM (validateIntent bundle antennaLabels) ⟨0, [], []⟩
  failIf (schemaVersionV4 ≤ bundle.manifest.schemaVersion &&
      bundle.schedule.signalPlans.isEmpty && !intents.isEmpty &&
      intents.all (·.direction.isSome) && !directionsMatchMode bundle.schedule.mode intents)
    (invalidV3 "schema-v4 WSPR directions do not match the experiment mode")

def validateEventStream (bundle : BundleV3Contents) : Except BundleStoreError Unit := do
  match (projectWsprRunV3 bundle.schedule bundle.events).diagnostics with
  | [] => .ok ()
  | diagnostic :: _ =>
    .error (invalidV3 (diagnostic.code ++ " at event " ++ diagnostic.eventId ++ ": " ++
      diagnostic.message))
  bundle.events.forM (validateArmedLabel (bundle.antennas.antennas.map (·.label)))
  let reduction := reduceOperatorEventsV3 .ready bundle.events
  match reduction.diagnostics with
  | [] => .ok ()
  | diagnostic :: _ =>
    .error (invalidV3 ("operator event " ++ diagnostic.eventId ++ " is invalid: " ++
      diagnostic.message))
  failIf (reduction.lifecycle != bundle.sessionState.lifecycle)
    (invalidV3 "operator event lifecycle does not match the session checkpoint")
  reduction.effectiveEvents.forM fun effective =>
    match effective.payload with
    | .signalStateConfirmed confirmation =>
      failOnSignalState
        (validateSignalStateConfirmationV3 bundle.schedule effective.slotId confirmation)
    | _ => .ok ()
  bundle.events.forM fun event => do
    validateRecordIdentity bundle "event" event.recordMeta
    failOnSignalState (validateSignalStateEventV3 bundle.schedule event)

def validateV3Model (E : Env) (bundle : BundleV3Contents) : Except BundleStoreError Unit := do
  failIf (!isV3Schema bundle.manifest.schemaVersion)
    (.unsupportedSchemaVersion bundle.manifest.schemaVersion)
  validateRuntimeContextsV6 E bundle
  (documentIdentities bundle).forM (validateDocumentIdentity bundle)
  validateSchedule bundle
  validateEventStream bundle
  (bundle.observations.map (·.recordMeta)).forM (validateRecordIdentity bundle "observation")
  (bundle.adapterRecords.map (·.recordMeta)).forM
    (validateRecordIdentity bundle "adapter record")
  (bundle.rig.map (·.recordMeta)).forM (validateRecordIdentity bundle "rig record")
  (bundle.propagation.map (·.recordMeta)).forM
    (validateRecordIdentity bundle "propagation record")
  (AntennaControl.validateAntennaControlV5 E.base64Length bundle).mapError invalidV3

end AntennaBench
