import AntennaBench.Storage.ReadV3

/-!
# Mutations of a schema-v3 to schema-v6 session

What the live writer decides in memory before it touches a file: whether a
mutation was committed before, whether it is admitted, and then the next bundle
together with the lines to append. `planEvent`, `planEvidence`,
`planAntennaControl` and `planDiagnostic` are the four operations up to their
first file effect, each with its checks in the order of the source.
-/

namespace AntennaBench

structure LiveEventMutationV3 where
  expectedRevision : ℕ
  mutationId : String
  event : OperatorEventV3

structure LiveEvidenceMutationV3 where
  expectedRevision : ℕ
  mutationId : String
  adapterRecords : List AdapterRecordV2
  observations : List ObservationRecordV2

structure LiveAntennaControlMutationV5 where
  expectedRevision : ℕ
  mutationId : String
  rigRecords : List RigRecordV3
  armedEvent : Option OperatorEventV3

structure LiveDiagnosticMutationV6 where
  expectedRevision : ℕ
  mutationId : String
  diagnostic : OperationalDiagnosticV6

structure CommitReceiptV2 where
  revision : ℕ
  mutationId : String
  idempotent : Bool
  deriving DecidableEq

inductive DiagnosticCommitDispositionV6 where
  | committed
  | saturated
  deriving DecidableEq

structure DiagnosticCommitReceiptV6 where
  revision : ℕ
  diagnosticId : Option String
  disposition : DiagnosticCommitDispositionV6
  idempotent : Bool
  deriving DecidableEq

structure LiveSessionV3 where
  bundle : BundleV3Contents
  paths : ResolvedBundlePathsV2
  frozen : Bool
  pendingRuntimeContext : Option RuntimeContextV6

/-- An admitted mutation: the next bundle, the lines of each stream in the order
they are appended, the streams a failed commit truncates again, and the pending
runtime context afterwards. -/
structure CommitPlan where
  candidate : BundleV3Contents
  lines : List (LiveStreamV2 × Bytes)
  rollback : List LiveStreamV2
  pending : Option RuntimeContextV6

/-- The decision on a mutation: an idempotent receipt, or a plan with the receipt
that acknowledges it. -/
inductive Decision (ρ : Type) where
  | settled (receipt : ρ)
  | commit (plan : CommitPlan) (receipt : ρ)

structure PreparedRuntimeActor where
  contextId : Option String
  newContext : Option RuntimeContextV6
  memberOffset : ℕ
  memberCount : ℕ

def LiveSessionV3.prepareRuntimeActor (session : LiveSessionV3) (mutationId : String)
    (primaryMemberCount : ℕ) (recordedAt : DateTime) :
    Except LivePersistenceError PreparedRuntimeActor :=
  if session.bundle.manifest.schemaVersion != schemaVersionV6 then
    .ok ⟨none, none, 0, primaryMemberCount⟩
  else do
    let requested := session.pendingRuntimeContext
    let contextId ← orError
      (requested.map (·.contextId) <|> session.bundle.sessionState.activeRuntimeContextId)
      (.invalidMutation "schema-v6 mutation has no runtime context")
    if session.bundle.runtimeContexts.any (·.contextId == contextId) then
      return ⟨contextId, none, 0, primaryMemberCount⟩
    else
      let memberCount := primaryMemberCount + 1
      failIf (2 ^ 32 ≤ memberCount)
        (.invalidMutation "schema-v6 mutation member count overflowed")
      let context ← orError requested
        (.invalidMutation "new schema-v6 actor context was not supplied")
      return {
        contextId
        newContext := some { context with
          firstRecordedAt := recordedAt
          mutation := ⟨mutationId, 0, memberCount⟩ }
        memberOffset := 1
        memberCount }

def PreparedRuntimeActor.apply (actor : PreparedRuntimeActor) (candidate : BundleV3Contents) :
    BundleV3Contents :=
  { candidate with
    runtimeContexts := candidate.runtimeContexts ++ actor.newContext.toList
    sessionState := { candidate.sessionState with
      activeRuntimeContextId :=
        actor.contextId <|> candidate.sessionState.activeRuntimeContextId } }

/-- The envelope the writer gives a record; its provenance stays. -/
def PreparedRuntimeActor.envelope (actor : PreparedRuntimeActor) (bundle : BundleV3Contents)
    (mutationId : String) (recordedAt : DateTime) (memberIndex : ℕ) (recordMeta : RecordMetaV2) :
    RecordMetaV2 :=
  { recordMeta with
    schemaVersion := bundle.manifest.schemaVersion
    sessionId := bundle.manifest.sessionId
    recordedAt
    mutation := ⟨mutationId, actor.memberOffset + memberIndex, actor.memberCount⟩
    runtimeContextId := actor.contextId }

def sameV3EventBusinessValue (existing proposed : OperatorEventV3) : Bool :=
  existing == { proposed with recordMeta := existing.recordMeta }

def sameAdapterBusinessValue (existing proposed : AdapterRecordV2) : Bool :=
  existing == { proposed with recordMeta := existing.recordMeta }

def sameObservationBusinessValue (existing proposed : ObservationRecordV2) : Bool :=
  existing == { proposed with recordMeta := existing.recordMeta }

/-- Two lists of one length whose members agree one by one. -/
def allSame {α : Type} (same : α → α → Bool) (existing proposed : List α) : Bool :=
  existing.length == proposed.length && (existing.zip proposed).all fun pair => same pair.1 pair.2

namespace BundleV3Contents

def committedAdapters (bundle : BundleV3Contents) (mutationId : String) : List AdapterRecordV2 :=
  bundle.adapterRecords.filter (·.recordMeta.mutation.mutationId == mutationId)

def committedObservations (bundle : BundleV3Contents) (mutationId : String) :
    List ObservationRecordV2 :=
  bundle.observations.filter (·.recordMeta.mutation.mutationId == mutationId)

def committedRig (bundle : BundleV3Contents) (mutationId : String) : List RigRecordV3 :=
  bundle.rig.filter (·.recordMeta.mutation.mutationId == mutationId)

def committedPropagation (bundle : BundleV3Contents) (mutationId : String) :
    List PropagationRecordV2 :=
  bundle.propagation.filter (·.recordMeta.mutation.mutationId == mutationId)

def committedEvent? (bundle : BundleV3Contents) (mutationId : String) : Option OperatorEventV3 :=
  bundle.events.find? (·.recordMeta.mutation.mutationId == mutationId)

/-- `v3_other_stream_has_mutation`: a stream other than the events. -/
def otherStreamHasMutation (bundle : BundleV3Contents) (mutationId : String) : Bool :=
  !(bundle.committedAdapters mutationId).isEmpty ||
    !(bundle.committedObservations mutationId).isEmpty ||
    !(bundle.committedRig mutationId).isEmpty ||
    !(bundle.committedPropagation mutationId).isEmpty

/-- The record identities of the evidence streams. -/
def recordIds (bundle : BundleV3Contents) : List String :=
  bundle.events.map (·.eventId) ++ bundle.adapterRecords.map (·.recordId) ++
    bundle.observations.map (·.observationId) ++ bundle.rig.map (·.recordId) ++
    bundle.propagation.map (·.recordId)

end BundleV3Contents

/-- `v3_committed_evidence` and `same_v3_evidence_business_value`: whether the
mutation was committed before, and whether with the same records. -/
def committedEvidence? (bundle : BundleV3Contents) (mutation : LiveEvidenceMutationV3) :
    Option Bool :=
  let adapters := bundle.committedAdapters mutation.mutationId
  let observations := bundle.committedObservations mutation.mutationId
  if adapters.isEmpty && observations.isEmpty then none
  else some (allSame sameAdapterBusinessValue adapters mutation.adapterRecords &&
    allSame sameObservationBusinessValue observations mutation.observations)

/-- The fields of a rig record `committed_v5_antenna_control` compares. -/
def sameRigBusinessValue (existing proposed : RigRecordV3) : Bool :=
  existing.recordId == proposed.recordId &&
    existing.adapterRecordIds == proposed.adapterRecordIds &&
    existing.status == proposed.status && existing.frequencyHz == proposed.frequencyHz &&
    existing.mode == proposed.mode && existing.powerWatts == proposed.powerWatts &&
    existing.antennaControl == proposed.antennaControl && existing.raw == proposed.raw

/-- The fields of an armed event `committed_v5_antenna_control` compares. -/
def sameArmedEvent (existing proposed : OperatorEventV3) : Bool :=
  existing.eventId == proposed.eventId && existing.occurredAt == proposed.occurredAt &&
    existing.timeBasis == proposed.timeBasis &&
    existing.uncertaintySeconds == proposed.uncertaintySeconds &&
    existing.slotId == proposed.slotId && existing.payload == proposed.payload

/-- `committed_v5_antenna_control`. -/
def committedAntennaControl? (bundle : BundleV3Contents)
    (mutation : LiveAntennaControlMutationV5) : Option Bool :=
  let existingRig := bundle.committedRig mutation.mutationId
  let existingEvent := bundle.committedEvent? mutation.mutationId
  if existingRig.isEmpty && existingEvent.isNone then none
  else some (allSame sameRigBusinessValue existingRig mutation.rigRecords &&
    match existingEvent, mutation.armedEvent with
    | none, none => true
    | some existing, some proposed => sameArmedEvent existing proposed
    | _, _ => false)

def sameDiagnosticOutcome (existing proposed : OperationalDiagnosticV6) : Bool :=
  existing.correlationId == proposed.correlationId &&
    existing.attemptId == proposed.attemptId && existing.operation == proposed.operation &&
    existing.phase == proposed.phase && existing.code == proposed.code &&
    existing.summary == proposed.summary && existing.outcome == proposed.outcome &&
    existing.severity == proposed.severity &&
    existing.revisionBefore == proposed.revisionBefore &&
    existing.revisionAfter == proposed.revisionAfter &&
    existing.evidenceEffect == proposed.evidenceEffect && existing.retry == proposed.retry &&
    existing.targets == proposed.targets && existing.causes == proposed.causes &&
    existing.detailStatus == proposed.detailStatus

def serializedJsonlUsage (stream : LiveStreamV2) (bytes : Bytes) (lineLimit : ℕ) :
    Except LivePersistenceError (ℕ × ℕ) := do
  let lines := splitLines bytes
  lines.forM fun line =>
    failIf (lineLimit < line.length)
      (.resourceLimit "resource.jsonl_line_bytes" stream.checkpointName line.length lineLimit)
  return (bytes.length, lines.length)

/-- The bytes and records a batch adds to a stream. -/
def addedUsage (usage : List (LiveStreamV2 × ℕ × ℕ)) (stream : LiveStreamV2) : ℕ × ℕ :=
  let own := usage.filter (·.1 = stream)
  ((own.map (·.2.1)).sum, (own.map (·.2.2)).sum)

def addOrOverflow (a b : ℕ) (what : String) : Except LivePersistenceError ℕ :=
  orError (checkedAdd64 a b) (.invalidMutation (what ++ " accounting overflowed"))

/-- One evidence stream of `preflight_live_budget`; the state is the total so far. -/
def preflightStream (profile : BundleResourceProfile) (checkpoint : SessionStateV2)
    (usage : List (LiveStreamV2 × ℕ × ℕ)) (total : ℕ × ℕ) (stream : LiveStreamV2) :
    Except LivePersistenceError (ℕ × ℕ) := do
  let current ← streamCheckpoint checkpoint stream
  let added := addedUsage usage stream
  let nextBytes ← addOrOverflow current.committedBytes added.1 "stream byte"
  let nextRecords ← addOrOverflow current.recordCount added.2 "stream record"
  failIf (profile.jsonlStreamBytes < nextBytes || profile.jsonlStreamRecords < nextRecords)
    (.invalidMutation
      (stream.checkpointName ++ " mutation would exceed the live stream resource profile"))
  let totalBytes ← addOrOverflow total.1 nextBytes "modeled byte"
  let totalRecords ← addOrOverflow total.2 nextRecords "modeled record"
  return (totalBytes, totalRecords)

/-- One operational stream of `preflight_live_budget`. -/
def preflightOperational (checkpoint : SessionStateV2) (usage : List (LiveStreamV2 × ℕ × ℕ))
    (total : ℕ × ℕ) (entry : LiveStreamV2 × ℕ × ℕ) :
    Except LivePersistenceError (ℕ × ℕ) := do
  let (stream, byteLimit, recordLimit) := entry
  let name := stream.checkpointName
  match checkpoint.streams.lookup name with
  | none =>
    failIf (usage.any (·.1 = stream)) (.checkpointVerification ("checkpoint is missing " ++ name))
    return total
  | some current =>
    let added := addedUsage usage stream
    let nextBytes := current.committedBytes + added.1
    let nextRecords := current.recordCount + added.2
    failIf (byteLimit < nextBytes || recordLimit < nextRecords)
      (.resourceLimit "resource.diagnostic_retention" name (max nextBytes nextRecords)
        (if byteLimit < nextBytes then byteLimit else recordLimit))
    return (total.1 + nextBytes, total.2 + nextRecords)

def operationalLimits : List (LiveStreamV2 × ℕ × ℕ) :=
  [(.runtimeContexts, runtimeContextStreamMaxBytes, runtimeContextMaxRecords),
    (.diagnostics, diagnosticStreamMaxBytes, diagnosticMaxRecords)]

def preflightLiveBudget (profile : BundleResourceProfile) (checkpoint : SessionStateV2)
    (serialized : List (LiveStreamV2 × Bytes)) : Except LivePersistenceError Unit := do
  let usage ← serialized.mapM fun entry => do
    return (entry.1, ← serializedJsonlUsage entry.1 entry.2 profile.jsonlLineBytes)
  let total ← allStreams.foldlM (preflightStream profile checkpoint usage) (0, 0)
  let total ← operationalLimits.foldlM (preflightOperational checkpoint usage) total
  failIf (profile.modeledTotalBytes < total.1 || profile.modeledTotalRecords < total.2)
    (.invalidMutation "mutation would exceed the aggregate live resource profile")

section

variable (E : Env) (profile : BundleResourceProfile)

def conflict (mutationId : String) : LivePersistenceError := .mutationConflict mutationId

/-- The receipt of a mutation that was committed before, or the conflict. -/
def settle (bundle : BundleV3Contents) (mutationId : String) (same : Bool) :
    Except LivePersistenceError (Decision CommitReceiptV2) :=
  if same then .ok (.settled ⟨bundle.sessionState.revision, mutationId, true⟩)
  else .error (conflict mutationId)

def checkRevision (bundle : BundleV3Contents) (expected : ℕ) : Except LivePersistenceError Unit :=
  failIf (expected != bundle.sessionState.revision)
    (.staleRevision expected bundle.sessionState.revision)

def nextRevision (bundle : BundleV3Contents) : Except LivePersistenceError ℕ :=
  orError (checkedAdd64 bundle.sessionState.revision 1)
    (.invalidMutation "checkpoint revision overflowed")

/-- The heads, the revision and the mutation identity of the next checkpoint, and
the validation of the bundle it describes. -/
def sealCandidate (bundle candidate : BundleV3Contents) (mutationId : String) :
    Except LivePersistenceError BundleV3Contents := do
  let candidate ← liftStore (refreshV3Checkpoint E candidate)
  let revision ← nextRevision bundle
  let candidate := { candidate with sessionState := { candidate.sessionState with
    revision
    lastCommittedMutationId := some mutationId } }
  liftStore (validateV3Model E candidate)
  return candidate

/-- The lifecycle the events reduce to. -/
def reduceCandidate (candidate : BundleV3Contents) :
    Except LivePersistenceError BundleV3Contents :=
  let reduction := reduceOperatorEventsV3 .ready candidate.events
  match reduction.diagnostics with
  | diagnostic :: _ => .error (.invalidMutation diagnostic.message)
  | [] => .ok { candidate with sessionState := { candidate.sessionState with
      lifecycle := reduction.lifecycle } }

def PreparedRuntimeActor.contextLines (actor : PreparedRuntimeActor) : LiveStreamV2 × Bytes :=
  (.runtimeContexts, serializeJsonl E.runtimeContext actor.newContext.toList)

/-- The batch without its empty members, after the budget check. -/
def preflightBatch (bundle : BundleV3Contents) (serialized : List (LiveStreamV2 × Bytes)) :
    Except LivePersistenceError (List (LiveStreamV2 × Bytes)) := do
  let lines := serialized.filter (!·.2.isEmpty)
  preflightLiveBudget profile bundle.sessionState lines
  return lines

def rollbackStreams (actor : PreparedRuntimeActor) (streams : List LiveStreamV2) :
    List LiveStreamV2 :=
  (if actor.newContext.isSome then [.runtimeContexts] else []) ++ streams

def commitReceipt (candidate : BundleV3Contents) (mutationId : String) : CommitReceiptV2 :=
  ⟨candidate.sessionState.revision, mutationId, false⟩

def planEvent (session : LiveSessionV3) (mutation : LiveEventMutationV3) (now : DateTime) :
    Except LivePersistenceError (Decision CommitReceiptV2) := do
  let bundle := session.bundle
  let mutationId := mutation.mutationId
  match bundle.committedEvent? mutationId with
  | some existing =>
    settle bundle mutationId (sameV3EventBusinessValue existing mutation.event)
  | none =>
    failIf (bundle.otherStreamHasMutation mutationId) (conflict mutationId)
    checkRevision bundle mutation.expectedRevision
    failIf (!isMachineIdentity mutationId)
      (.invalidMutation "mutation identity must be bounded nonempty ASCII")
    failIf (!isMachineIdentity mutation.event.eventId)
      (.invalidMutation "event identity must be bounded nonempty ASCII")
    let actor ← session.prepareRuntimeActor mutationId 1 now
    let event := { mutation.event with
      recordMeta := actor.envelope bundle mutationId now 0 mutation.event.recordMeta }
    let candidate := actor.apply bundle
    let candidate := { candidate with events := candidate.events ++ [event] }
    let candidate ← reduceCandidate candidate
    let candidate ← sealCandidate E bundle candidate mutationId
    let lines ← preflightBatch profile bundle
      [actor.contextLines E, (.events, serializeJsonl E.eventV3 [event])]
    return .commit ⟨candidate, lines, rollbackStreams actor [.events], none⟩
      (commitReceipt candidate mutationId)

/-- `prepare_v3_evidence_meta` on the record at one index of the batch. -/
def prepareEvidence {α : Type} (recordId : α → String) (setMeta : ℕ → α → α) (offset : ℕ)
    (records : List α) : Except LivePersistenceError (List α) :=
  records.zipIdx.mapM fun (record, index) => do
    failIf (!isMachineIdentity (recordId record))
      (.invalidMutation "evidence record identities must be bounded nonempty ASCII")
    return setMeta (offset + index) record

def prepareV3Evidence (bundle : BundleV3Contents) (actor : PreparedRuntimeActor)
    (mutation : LiveEvidenceMutationV3) (recordedAt : DateTime) :
    Except LivePersistenceError LiveEvidenceMutationV3 := do
  failIf (!isMachineIdentity mutation.mutationId || mutation.adapterRecords.isEmpty)
    (.invalidMutation "evidence mutation requires a bounded identity and adapter records")
  let primaryCount := mutation.adapterRecords.length + mutation.observations.length
  failIf (2 ^ 32 ≤ primaryCount) (.invalidMutation "evidence mutation has too many members")
  failIf (actor.memberCount < primaryCount ||
      actor.memberCount - primaryCount < actor.memberOffset)
    (.invalidMutation "evidence mutation membership is inconsistent")
  let envelope := actor.envelope bundle mutation.mutationId recordedAt
  let adapterRecords ← prepareEvidence (·.recordId)
    (fun index record => { record with recordMeta := envelope index record.recordMeta }) 0
    mutation.adapterRecords
  let observations ← prepareEvidence (·.observationId)
    (fun index record => { record with recordMeta := envelope index record.recordMeta })
    mutation.adapterRecords.length mutation.observations
  return { mutation with adapterRecords, observations }

def duplicateIdentity (recordId : String) : LivePersistenceError :=
  .invalidMutation ("record identity " ++ debugString recordId ++ " is already present")

/-- One adapter record of `validate_v3_evidence`; the state is the identities met. -/
def validateEvidenceAdapter (bundle : BundleV3Contents) (mutation : LiveEvidenceMutationV3)
    (ids : List String) (record : AdapterRecordV2) : Except LivePersistenceError (List String) := do
  failIf (ids.contains record.recordId) (duplicateIdentity record.recordId)
  failIf (record.normalizedRecords.any fun link =>
      link.recordKind != .observation ||
        !(bundle.observations ++ mutation.observations).any (·.observationId == link.recordId))
    (.invalidMutation ("adapter record " ++ debugString record.recordId ++
      " has a missing normalized observation link"))
  return record.recordId :: ids

/-- One observation of `validate_v3_evidence`. -/
def validateEvidenceObservation (bundle : BundleV3Contents) (mutation : LiveEvidenceMutationV3)
    (ids : List String) (record : ObservationRecordV2) :
    Except LivePersistenceError (List String) := do
  failIf (ids.contains record.observationId) (duplicateIdentity record.observationId)
  failIf (record.adapterRecordIds.isEmpty || !record.adapterRecordIds.all fun adapterId =>
      (bundle.adapterRecords ++ mutation.adapterRecords).any (·.recordId == adapterId))
    (.invalidMutation ("observation " ++ debugString record.observationId ++
      " has missing adapter backlinks"))
  return record.observationId :: ids

def validateV3Evidence (bundle : BundleV3Contents) (mutation : LiveEvidenceMutationV3) :
    Except LivePersistenceError Unit := do
  failIf (bundle.sessionState.lifecycle == .draft || bundle.sessionState.lifecycle == .ready)
    (.invalidMutation "adapter evidence may append only after the session has started")
  let ids ← mutation.adapterRecords.foldlM (validateEvidenceAdapter bundle mutation)
    bundle.recordIds
  let _ ← mutation.observations.foldlM (validateEvidenceObservation bundle mutation) ids

/-- The attachments of the batch can be read. -/
def readEvidenceAttachments (mutation : LiveEvidenceMutationV3) (disk : Disk) :
    Except LivePersistenceError Unit :=
  mutation.adapterRecords.forM fun record =>
    match record.input with
    | .attachment attachment => do
      let _ ← liftStore (readAttachment E profile attachment disk)
    | .inline .. => .ok ()

def planEvidence (session : LiveSessionV3) (mutation : LiveEvidenceMutationV3) (now : DateTime)
    (disk : Disk) : Except LivePersistenceError (Decision CommitReceiptV2) := do
  let bundle := session.bundle
  let mutationId := mutation.mutationId
  match committedEvidence? bundle mutation with
  | some same => settle bundle mutationId same
  | none =>
    failIf ((bundle.committedEvent? mutationId).isSome ||
        !(bundle.committedRig mutationId).isEmpty ||
        !(bundle.committedPropagation mutationId).isEmpty)
      (conflict mutationId)
    checkRevision bundle mutation.expectedRevision
    let primaryMemberCount := mutation.adapterRecords.length + mutation.observations.length
    failIf (2 ^ 32 ≤ primaryMemberCount)
      (.invalidMutation "evidence mutation has too many members")
    let actor ← session.prepareRuntimeActor mutationId primaryMemberCount now
    let mutation ← prepareV3Evidence bundle actor mutation now
    validateV3Evidence bundle mutation
    readEvidenceAttachments E profile mutation disk
    let candidate := actor.apply bundle
    let candidate := { candidate with
      adapterRecords := candidate.adapterRecords ++ mutation.adapterRecords
      observations := candidate.observations ++ mutation.observations }
    let candidate ← sealCandidate E bundle candidate mutationId
    let lines ← preflightBatch profile bundle
      [actor.contextLines E,
        (.adapterRecords, serializeJsonl E.adapterRecord mutation.adapterRecords),
        (.observations, serializeJsonl E.observation mutation.observations)]
    return .commit
      ⟨candidate, lines, rollbackStreams actor [.adapterRecords, .observations], none⟩
      (commitReceipt candidate mutationId)

def prepareRigRecord (bundle : BundleV3Contents) (actor : PreparedRuntimeActor)
    (mutationId : String) (now : DateTime) (entry : RigRecordV3 × ℕ) :
    Except LivePersistenceError RigRecordV3 := do
  let (record, index) := entry
  failIf (!isMachineIdentity record.recordId || record.antennaControl.isNone)
    (.invalidMutation ("antenna-control rig records require bounded identities and typed " ++
      "invocation evidence"))
  return { record with recordMeta := actor.envelope bundle mutationId now index record.recordMeta }

def prepareArmedEvent (bundle : BundleV3Contents) (actor : PreparedRuntimeActor)
    (mutationId : String) (now : DateTime) (index : ℕ) (event : OperatorEventV3) :
    Except LivePersistenceError OperatorEventV3 := do
  failIf (!isMachineIdentity event.eventId)
    (.invalidMutation "armed event identity must be bounded nonempty ASCII")
  return { event with recordMeta := actor.envelope bundle mutationId now index event.recordMeta }

/-- The armed event joins the events and the lifecycle is reduced again. -/
def appendArmedEvent (candidate : BundleV3Contents) :
    Option OperatorEventV3 → Except LivePersistenceError BundleV3Contents
  | none => .ok candidate
  | some event => reduceCandidate { candidate with events := candidate.events ++ [event] }

def planAntennaControl (session : LiveSessionV3) (mutation : LiveAntennaControlMutationV5)
    (now : DateTime) : Except LivePersistenceError (Decision CommitReceiptV2) := do
  let bundle := session.bundle
  let mutationId := mutation.mutationId
  failIf (bundle.sessionState.lifecycle != .running)
    (.invalidMutation "antenna-control evidence may append only to a running session")
  failIf (mutation.rigRecords.isEmpty || 2 < mutation.rigRecords.length)
    (.invalidMutation "antenna-control mutation requires one or two rig records")
  failIf (!isMachineIdentity mutationId)
    (.invalidMutation "mutation identity must be bounded nonempty ASCII")
  match committedAntennaControl? bundle mutation with
  | some same => settle bundle mutationId same
  | none =>
    checkRevision bundle mutation.expectedRevision
    failIf (bundle.otherStreamHasMutation mutationId) (conflict mutationId)
    let primaryMemberCount := mutation.rigRecords.length + mutation.armedEvent.toList.length
    let actor ← session.prepareRuntimeActor mutationId primaryMemberCount now
    let rigRecords ← mutation.rigRecords.zipIdx.mapM
      (prepareRigRecord bundle actor mutationId now)
    let armedEvent ← mutation.armedEvent.mapM
      (prepareArmedEvent bundle actor mutationId now mutation.rigRecords.length)
    let candidate := actor.apply bundle
    let candidate := { candidate with rig := candidate.rig ++ rigRecords }
    let candidate ← appendArmedEvent candidate armedEvent
    let candidate ← sealCandidate E bundle candidate mutationId
    let lines ← preflightBatch profile bundle
      [actor.contextLines E, (.rig, serializeJsonl E.rigV3 rigRecords),
        (.events, serializeJsonl E.eventV3 armedEvent.toList)]
    return .commit ⟨candidate, lines, rollbackStreams actor [.rig, .events], none⟩
      (commitReceipt candidate mutationId)

def diagnosticRetentionExhausted (recordCount committedBytes nextBytes : ℕ) : Bool :=
  diagnosticMaxRecords ≤ recordCount || diagnosticStreamMaxBytes < committedBytes + nextBytes

def diagnosticRetentionReason : String := "resource.diagnostic_retention"

/-- `commit_diagnostic_saturation` up to its commit. The pending runtime context
stays pending. -/
def planSaturation (session : LiveSessionV3) (mutationId : String) (occurredAt : DateTime) :
    Except LivePersistenceError (Decision DiagnosticCommitReceiptV6) := do
  let bundle := session.bundle
  let status ← orError bundle.sessionState.diagnosticsStatus
    (.checkpointVerification "checkpoint is missing diagnostics status")
  let diagnosticsStatus : DiagnosticsStatusV6 := {
    state := .saturated
    omittedCount := min (status.omittedCount + 1) (2 ^ 64 - 1)
    firstOmittedAt := status.firstOmittedAt <|> some occurredAt
    reasonCode := some diagnosticRetentionReason }
  let candidate := { bundle with sessionState := { bundle.sessionState with
    diagnosticsStatus := some diagnosticsStatus } }
  let candidate ← sealCandidate E bundle candidate mutationId
  return .commit ⟨candidate, [], [], session.pendingRuntimeContext⟩
    ⟨candidate.sessionState.revision, none, .saturated, false⟩

/-- The saturated status already accounts for this mutation. -/
def isSaturatedRetry (bundle : BundleV3Contents) (mutationId : String) : Bool :=
  bundle.sessionState.lastCommittedMutationId == some mutationId &&
    bundle.sessionState.diagnosticsStatus.any (·.state == .saturated)

def planNewDiagnostic (session : LiveSessionV3) (mutation : LiveDiagnosticMutationV6)
    (now : DateTime) : Except LivePersistenceError (Decision DiagnosticCommitReceiptV6) := do
  let bundle := session.bundle
  let mutationId := mutation.mutationId
  checkRevision bundle mutation.expectedRevision
  let revision ← nextRevision bundle
  let actor ← session.prepareRuntimeActor mutationId 1 now
  let runtimeContextId ← orError actor.contextId
    (.invalidMutation "diagnostic mutation has no runtime context")
  let diagnostic := { mutation.diagnostic with
    occurredAt := now
    runtimeContextId
    mutation := ⟨mutationId, actor.memberOffset, actor.memberCount⟩
    diagnosticRevision := revision }
  let bytes := serializeJsonl E.diagnostic [diagnostic]
  let head ← orError
    (bundle.sessionState.streams.lookup LiveStreamV2.diagnostics.checkpointName)
    (.checkpointVerification "checkpoint is missing diagnostics")
  failIf (diagnosticRecordMaxBytes < bytes.length)
    (.resourceLimit "resource.diagnostic_record_bytes" LiveStreamV2.diagnostics.checkpointName
      bytes.length diagnosticRecordMaxBytes)
  if diagnosticRetentionExhausted head.recordCount head.committedBytes bytes.length then
    planSaturation E session mutationId now
  else
    let candidate := actor.apply bundle
    let candidate := { candidate with diagnostics := candidate.diagnostics ++ [diagnostic] }
    let candidate ← sealCandidate E bundle candidate mutationId
    let lines ← preflightBatch profile bundle
      [actor.contextLines E, (.diagnostics, bytes)]
    return .commit ⟨candidate, lines, rollbackStreams actor [.diagnostics], none⟩
      ⟨revision, diagnostic.diagnosticId, .committed, false⟩

def planDiagnostic (session : LiveSessionV3) (mutation : LiveDiagnosticMutationV6)
    (now : DateTime) : Except LivePersistenceError (Decision DiagnosticCommitReceiptV6) := do
  let bundle := session.bundle
  failIf (bundle.manifest.schemaVersion != schemaVersionV6)
    (.invalidMutation "operational diagnostics require schema v6")
  match bundle.diagnostics.find? (·.attemptId == mutation.diagnostic.attemptId) with
  | some existing =>
    if sameDiagnosticOutcome existing mutation.diagnostic then
      return .settled
        ⟨bundle.sessionState.revision, existing.diagnosticId, .committed, true⟩
    else .error (conflict mutation.diagnostic.attemptId)
  | none =>
    if isSaturatedRetry bundle mutation.mutationId then
      return .settled ⟨bundle.sessionState.revision, none, .saturated, true⟩
    else planNewDiagnostic E profile session mutation now

/-- The diagnostic gets past its early returns. -/
def DiagnosticCommits (session : LiveSessionV3) (mutation : LiveDiagnosticMutationV6)
    (now : DateTime) : Prop :=
  ∃ plan receipt, planDiagnostic E profile session mutation now = .ok (.commit plan receipt)

end

end AntennaBench
