import AntennaBench.Storage.LiveV3

/-!
# Recovery of schema-v3 to schema-v6 sessions

`recover_v3_internal`: the committed prefixes are verified, uncommitted tails are
cut off, then copied to recovery attachments, and the recovered session records
the interruption it found and a diagnostic about itself.
-/

namespace AntennaBench

open FaultIO

inductive RecoveryDispositionV2 where
  | clean
  | rolledForward
  | rolledBack
  | idempotentTailRemoved
  deriving DecidableEq

structure RecoveryArtifactV2 where
  source : String
  committedOffset : ℕ
  diagnosis : String
  rawAttachment : AttachmentReference
  metadataAttachment : AttachmentReference
  deriving DecidableEq

inductive DiagnosticPersistenceStatusV6 where
  | notApplicable
  | persisted (diagnosticId : Option String)
  | notPersisted (reasonCode : String)
  deriving DecidableEq

structure RecoveryReportV2 where
  startingRevision : ℕ
  recoveredRevision : ℕ
  finalRevision : ℕ
  disposition : RecoveryDispositionV2
  artifacts : List RecoveryArtifactV2
  interruption : Option CommitReceiptV2
  diagnosticPersistence : DiagnosticPersistenceStatusV6
  deriving DecidableEq

/-- What the hooks of one recovery answer: an identity for each kind, and the
time of each of its steps. -/
structure RecoveryHooks where
  newId : String → String
  tailsAt : DateTime
  temporaryAt : DateTime
  interruptedAt : DateTime
  interruptionRecordedAt : DateTime
  diagnosedAt : DateTime
  diagnosticRecordedAt : DateTime

structure StreamTail where
  stream : LiveStreamV2
  committedOffset : ℕ
  bytes : Bytes
  deriving DecidableEq

/-- What recovery knows of a directory before it changes anything. -/
structure RecoveryInput where
  manifest : BundleManifestV2
  checkpoint : SessionStateV2
  paths : ResolvedBundlePathsV2
  tails : List StreamTail

namespace RecoveryInput

/-- The tails that carry bytes. -/
def torn (input : RecoveryInput) : List StreamTail :=
  input.tails.filter (!·.bytes.isEmpty)

def hasTails (input : RecoveryInput) : Bool :=
  input.tails.any (!·.bytes.isEmpty)

end RecoveryInput

def recoveryStreams (checkpoint : SessionStateV2) (paths : ResolvedBundlePathsV2) :
    List LiveStreamV2 :=
  allStreams ++ operationalStreams.filter fun stream =>
    (checkpoint.streams.lookup stream.checkpointName).isSome && (paths.operational? stream).isSome

section

variable (E : Env) (profile : BundleResourceProfile)

def readStreamTail (checkpoint : SessionStateV2) (paths : ResolvedBundlePathsV2) (disk : Disk)
    (stream : LiveStreamV2) : Except LivePersistenceError StreamTail := do
  let head ← streamCheckpoint checkpoint stream
  let bytes ← liftStore (readStreamBounded profile (paths.stream stream) .write disk)
  return ⟨stream, head.committedBytes, bytes.drop head.committedBytes⟩

def readStreamTails (checkpoint : SessionStateV2) (paths : ResolvedBundlePathsV2) (disk : Disk) :
    Except LivePersistenceError (List StreamTail) :=
  (recoveryStreams checkpoint paths).mapM (readStreamTail profile checkpoint paths disk)

def readRecoveryInput (requested : Option RuntimeContextV6) (disk : Disk) :
    Except LivePersistenceError RecoveryInput := do
  let manifest ← readJsonFile profile E.manifest (.root "manifest.json") "manifest" disk
  failIf (!isV3Schema manifest.schemaVersion)
    (.store (.unsupportedSchemaVersion manifest.schemaVersion))
  failIf (requested.any fun context =>
      manifest.schemaVersion != schemaVersionV6 || !context.hasValidIdentity E)
    (.capability "runtime-context recovery requires a valid schema-v6 bundle")
  let bootstrap ← liftStore (v2Paths manifest.files)
  let checkpoint ← readJsonFile profile E.sessionState bootstrap.sessionState "checkpoint" disk
  let paths ← liftStore (v2PathsForState manifest.files checkpoint disk)
  verifyCommittedPrefixes E profile checkpoint paths disk
  let tails ← readStreamTails profile checkpoint paths disk
  return { manifest, checkpoint, paths, tails }

def truncateTail (checkpoint : SessionStateV2) (paths : ResolvedBundlePathsV2)
    (stream : LiveStreamV2) : FileProg Unit := do
  let head ← Prog.ofExcept (streamCheckpoint checkpoint stream)
  truncateStream ("open recovery truncation", "truncate recovered stream",
    "synchronize recovered stream") (paths.stream stream) head.committedBytes

def truncateTails (checkpoint : SessionStateV2) (paths : ResolvedBundlePathsV2) :
    FileProg Unit := do
  (recoveryStreams checkpoint paths).forM (truncateTail checkpoint paths)
  syncAll "synchronize recovered bundle directory" none

def cutTails (input : RecoveryInput) : FileProg Unit :=
  if input.hasTails then truncateTails input.checkpoint input.paths else pure ()

/-- `preserve_recovery_bytes`: the bytes and a description of them, each a durable
attachment. `rawLocator` and `metadataLocator` are the source locators. -/
def preserveBytes (metadata : AttachmentReference → RecoveryArtifactMetadataV2)
    (bytes : Bytes) (mediaType rawLocator metadataLocator : String) :
    FileProg RecoveryArtifactV2 := do
  let raw ← durableAttachment E profile bytes mediaType (some rawLocator)
  let description := metadata raw
  let metadataAttachment ← durableAttachment E profile
    (E.recoveryArtifact description ++ [newline]) "application/json" (some metadataLocator)
  return ⟨description.source, description.committedOffset, description.diagnosis, raw,
    metadataAttachment⟩

def rolledBackDiagnosis : String :=
  "schema-v3 recovery conservatively rolled back uncommitted stream data"

def preserveTail (manifest : BundleManifestV2) (sessionId : String) (detectedAt : DateTime)
    (tail : StreamTail) : FileProg RecoveryArtifactV2 :=
  let source := tail.stream.checkpointName
  let suffix := source ++ ":" ++ toString tail.committedOffset
  preserveBytes E profile
    (fun raw => ⟨manifest.schemaVersion, sessionId, source, tail.committedOffset, detectedAt,
      rolledBackDiagnosis, raw⟩)
    tail.bytes "application/octet-stream" ("recovery:" ++ suffix)
    ("recovery-metadata:" ++ suffix)

/-- `preserve_tails_for`. -/
def preserveTails (input : RecoveryInput) (sessionId : String) (detectedAt : DateTime) :
    FileProg (List RecoveryArtifactV2) :=
  if input.hasTails then
    input.torn.mapM (preserveTail E profile input.manifest sessionId detectedAt)
  else pure []

/-- The checkpoint temporary is not a checkpoint: its bytes are kept. -/
def isMalformedTemp (bytes : Bytes) : Bool :=
  !bytes.isEmpty && (E.sessionState.fromSlice bytes).isNone

def preserveTemp (manifest : BundleManifestV2) (sessionId : String) (detectedAt : DateTime)
    (bytes : Bytes) : FileProg (List RecoveryArtifactV2) :=
  if isMalformedTemp E bytes then do
    let artifact ← preserveBytes E profile
      (fun raw => ⟨manifest.schemaVersion, sessionId, "checkpoint_temp", 0, detectedAt,
        "checkpoint temporary file is malformed", raw⟩)
      bytes "application/json" "recovery:checkpoint-temp" "recovery-metadata:checkpoint-temp"
    return [artifact]
  else pure []

/-- `recover_checkpoint_temp_for`. -/
def recoverCheckpointTemp (manifest : BundleManifestV2) (sessionId : String)
    (detectedAt : DateTime) : FileProg (List RecoveryArtifactV2) := do
  let disk ← Prog.get
  if disk.exists? checkpointTemp then
    let bytes ← Prog.readWith .read (.store (.read checkpointTemp)) fun disk =>
      liftStore (readRootBounded profile checkpointTemp .write disk)
    let artifacts ← preserveTemp E profile manifest sessionId detectedAt bytes
    Prog.perform (FileEffect.remove checkpointTemp)
      (.io "remove recovered checkpoint temp" checkpointTemp)
    syncAll "synchronize checkpoint temp cleanup" none
    return artifacts
  else pure []

/-- The session recovery continues with and the artifacts it kept. -/
structure RecoveredSession where
  session : LiveSessionV3
  artifacts : List RecoveryArtifactV2

def restoreSession (input : RecoveryInput) (requested : Option RuntimeContextV6)
    (hooks : RecoveryHooks) : FileProg RecoveredSession := do
  cutTails input
  let bundle ← Prog.readWith .read (.store (.read (.root "manifest.json"))) fun disk =>
    liftStore (readV3 E profile disk)
  let sessionId := bundle.manifest.sessionId
  let tails ← preserveTails E profile input sessionId hooks.tailsAt
  let temporary ← recoverCheckpointTemp E profile input.manifest sessionId hooks.temporaryAt
  Prog.readWith .read (.store (.read (.root "manifest.json"))) fun disk =>
    verifyExactCheckpoint E profile bundle.sessionState input.paths disk
  return {
    session := {
      bundle
      paths := input.paths
      frozen := false
      pendingRuntimeContext := requested.filter fun context =>
        bundle.sessionState.activeRuntimeContextId != some context.contextId }
    artifacts := tails ++ temporary }

/-- `env!("CARGO_PKG_VERSION")`. -/
def packageVersion : String := "0.1.0"

def interruptionMutation (manifest : BundleManifestV2) (bundle : BundleV3Contents)
    (hooks : RecoveryHooks) : LiveEventMutationV3 where
  expectedRevision := bundle.sessionState.revision
  mutationId := hooks.newId "mutation"
  event := {
    recordMeta := {
      schemaVersion := manifest.schemaVersion
      sessionId := bundle.manifest.sessionId
      recordedAt := hooks.interruptedAt
      provenance := Provenance.fromLegacy .derived packageVersion
      mutation := ⟨hooks.newId "mutation", 0, 1⟩
      runtimeContextId := none }
    eventId := hooks.newId "event"
    occurredAt := hooks.interruptedAt
    timeBasis := .recoverySystem
    uncertaintySeconds := none
    slotId := none
    payload := .interruptionDetected (some "recovery opened a session left running") }

/-- The session was left running: recovery records that it was interrupted. -/
def recordInterruption (manifest : BundleManifestV2) (hooks : RecoveryHooks) :
    WriterProg (Option CommitReceiptV2) := do
  let bundle := (← Prog.get).session.bundle
  if bundle.sessionState.lifecycle = .running then
    let receipt ← appendEvent E profile (interruptionMutation manifest bundle hooks)
      hooks.interruptionRecordedAt
    return some receipt
  else pure none

def RecoveryDispositionV2.code : RecoveryDispositionV2 → String
  | clean => "clean"
  | rolledForward => "rolled_forward"
  | rolledBack => "rolled_back"
  | idempotentTailRemoved => "idempotent_tail_removed"

def recoveryCause (disposition : RecoveryDispositionV2) (artifactCount : ℕ)
    (interruptionRecorded : Bool) : DiagnosticCauseV6 where
  code := "session.recovery_trigger"
  phase := .recover
  facts := [⟨"disposition", .enum disposition.code⟩, ⟨"artifact_count", .u64 artifactCount⟩,
    ⟨"interruption_recorded", .bool interruptionRecorded⟩]

/-- The mutation of `append_recovery_diagnostic`. -/
def recoveryDiagnosticMutation (bundle : BundleV3Contents) (hooks : RecoveryHooks)
    (startingRevision : ℕ) (disposition : RecoveryDispositionV2) (artifactCount : ℕ)
    (interruptionRecorded : Bool) : LiveDiagnosticMutationV6 :=
  let revision := bundle.sessionState.revision
  { expectedRevision := revision
    mutationId := hooks.newId "diagnostic-mutation"
    diagnostic := {
      schema := operationalDiagnosticSchemaV1
      diagnosticId := hooks.newId "diagnostic"
      correlationId := "checkpoint-recovery-" ++ toString startingRevision
      attemptId :=
        "checkpoint-recovery-" ++ toString startingRevision ++ "-" ++ toString revision
      mutation := ⟨"pending-diagnostic", 0, 1⟩
      runtimeContextId := ""
      occurredAt := hooks.diagnosedAt
      operation := .checkpointRecovery
      phase := .recover
      code := "session.checkpoint_recovered"
      summary :=
        "Checkpoint recovery retained earlier evidence and restored a writable head."
      outcome := .recovered
      severity := .warning
      revisionBefore := startingRevision
      revisionAfter := revision
      diagnosticRevision := revision
      evidenceEffect := .earlierEvidenceRetained
      retry := ⟨.notRetryable, "inspect_recovery_artifacts_before_continuing"⟩
      targets := [.source "session-checkpoint"]
      causes := [recoveryCause disposition artifactCount interruptionRecorded]
      detailStatus := ⟨.complete, 0⟩ } }

/-- The diagnostic about the recovery; its failure does not fail the recovery. -/
def recordRecovery (input : RecoveryInput) (hooks : RecoveryHooks) (artifactCount : ℕ)
    (disposition : RecoveryDispositionV2) (interruption : Option CommitReceiptV2) :
    WriterProg DiagnosticPersistenceStatusV6 := do
  if input.manifest.schemaVersion == schemaVersionV6 &&
      (input.hasTails || artifactCount != 0 || interruption.isSome) then
    let bundle := (← Prog.get).session.bundle
    match ← (appendDiagnostic E profile
        (recoveryDiagnosticMutation bundle hooks input.checkpoint.revision disposition
          artifactCount interruption.isSome) hooks.diagnosticRecordedAt).attempt with
    | .ok receipt => pure (.persisted receipt.diagnosticId)
    | .error _ => pure (.notPersisted "diagnostic.persistence_failed")
  else pure .notApplicable

/-- `recover_v3_internal`. The handle it builds takes the place of the one the
state starts with. -/
def recoverV3 (requested : Option RuntimeContextV6) (hooks : RecoveryHooks) :
    WriterProg RecoveryReportV2 := do
  onDisk (openLock "open recovery lock")
  onDisk probeLivePersistence
  let input ← onDisk (Prog.readWith .read (.store (.read (.root "manifest.json")))
    (readRecoveryInput E profile requested))
  let recovered ← onDisk (restoreSession E profile input requested hooks)
  modifySession fun _ => recovered.session
  let recoveredRevision := recovered.session.bundle.sessionState.revision
  let disposition := if input.hasTails then RecoveryDispositionV2.rolledBack else .clean
  let interruption ← recordInterruption E profile input.manifest hooks
  let diagnosticPersistence ← recordRecovery E profile input hooks recovered.artifacts.length
    disposition interruption
  let finalRevision := (← Prog.get).session.bundle.sessionState.revision
  return {
    startingRevision := input.checkpoint.revision
    recoveredRevision, finalRevision, disposition
    artifacts := recovered.artifacts
    interruption, diagnosticPersistence }

end

end AntennaBench
