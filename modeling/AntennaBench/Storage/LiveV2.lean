import AntennaBench.Storage.LiveV3
import AntennaBench.Storage.ValidateV2
import AntennaBench.Storage.WriterV2

/-!
# The live writer of schema-v2 sessions

A `LiveSessionV2` handle together with the directory it writes: the checks it
starts every operation with, the append of a mutation, the plan commit and the
append with an attachment. What the store finds in the files of a bundle it
reads is a parameter.
-/

namespace AntennaBench

open FaultIO

structure LiveSessionV2 where
  bundle : BundleV2Contents
  paths : ResolvedBundlePathsV2
  frozen : Bool

/-- A schema-v2 handle and the bundle directory. -/
structure WriterV2 where
  disk : Disk
  session : LiveSessionV2

abbrev WriterProgV2 (α : Type) := Prog FileSite WriterV2 LivePersistenceError α

namespace WriterV2

def setDisk (disk : Disk) (writer : WriterV2) : WriterV2 :=
  { writer with disk }

def setSession (session : LiveSessionV2) (writer : WriterV2) : WriterV2 :=
  { writer with session }

/-- A file program as a part of an operation on the handle. -/
def onDisk {α : Type} (program : FileProg α) : WriterProgV2 α :=
  program.zoom WriterV2.disk setDisk

def modifySession (f : LiveSessionV2 → LiveSessionV2) : WriterProgV2 Unit :=
  Prog.modify fun writer => writer.setSession (f writer.session)

end WriterV2

namespace BundleV2Contents

/-- The streams of `checkpoint_from_paths`, with the counts and the last identities
of their records. -/
def streamEnds (bundle : BundleV2Contents) : List (LiveStreamV2 × ℕ × Option String) :=
  [(.adapterRecords, bundle.adapterRecords.length,
      bundle.adapterRecords.getLast?.map (·.recordId)),
    (.events, bundle.events.length, bundle.events.getLast?.map (·.eventId)),
    (.observations, bundle.observations.length,
      bundle.observations.getLast?.map (·.observationId)),
    (.propagation, bundle.propagation.length, bundle.propagation.getLast?.map (·.recordId)),
    (.rig, bundle.rig.length, bundle.rig.getLast?.map (·.recordId))]

end BundleV2Contents

section

variable (E : Env) (profile : BundleResourceProfile)

/-- The modeled files of `load_v2_bundle`, in its order. -/
def readV2Files (manifest : BundleManifestV2) (sessionState : SessionStateV2)
    (paths : ResolvedBundlePathsV2) (budget : ModeledBudget) (disk : Disk) :
    Except BundleStoreError BundleV2Contents := do
  let (station, budget) ← readJsonBounded E profile E.station paths.station budget disk
  let (antennas, budget) ← readJsonBounded E profile E.antennas paths.antennas budget disk
  let (schedule, budget) ← readJsonBounded E profile E.scheduleV2 paths.schedule budget disk
  let (events, budget) ← readJsonlBounded E profile E.eventV2 paths.events budget disk
  let (observations, budget) ←
    readJsonlBounded E profile E.observation paths.observations budget disk
  let (adapterRecords, budget) ←
    readJsonlBounded E profile E.adapterRecord paths.adapterRecords budget disk
  let (rig, budget) ← readJsonlBounded E profile E.rigV2 paths.rig budget disk
  let (propagation, budget) ←
    readJsonlBounded E profile E.propagation paths.propagation budget disk
  let (analysis, _) ← readJsonBounded E profile E.analysis paths.analysis budget disk
  return { manifest, sessionState, station, antennas, schedule, events, observations,
           adapterRecords, rig, propagation, analysis }

def loadV2Bundle (disk : Disk) :
    Except BundleStoreError (BundleV2Contents × ResolvedBundlePathsV2) := do
  let (manifest, budget) ←
    readJsonBounded E profile E.manifest (.root "manifest.json") .empty disk
  failIf (manifest.schemaVersion != schemaVersionV2)
    (.unsupportedSchemaVersion manifest.schemaVersion)
  let bootstrap ← v2Paths manifest.files
  let (sessionState, budget) ←
    readJsonBounded E profile E.sessionState bootstrap.sessionState budget disk
  let paths ← v2PathsForState manifest.files sessionState disk
  inventoryRoot profile .read disk
  let _ ← inventoryAttachmentTree profile .read disk
  let bundle ← readV2Files E profile manifest sessionState paths budget disk
  return (bundle, paths)

/-- `checkpoint_from_paths`: the heads are those of the files. -/
def checkpointFromPaths (bundle : BundleV2Contents) (paths : ResolvedBundlePathsV2)
    (disk : Disk) : Except LivePersistenceError (List (String × StreamCheckpointV2)) :=
  bundle.streamEnds.mapM fun (stream, count, lastId) => do
    let bytes ← liftStore (readStreamBounded profile (paths.stream stream) .write disk)
    return (stream.checkpointName, checkpointForBytes E bytes count lastId)

end

section

variable (E : Env) (F : TextFormat) (profile : BundleResourceProfile)
  (storeFindings : BundleV2Contents → ResolvedBundlePathsV2 → Disk → List BundleDiagnostic)

def readV2 (disk : Disk) : Except BundleStoreError BundleV2Contents := do
  let (bundle, paths) ← loadV2Bundle E profile disk
  failIf (!(readReportV2 F bundle (storeFindings bundle paths disk)).allows .compatibilityRead)
    .validation
  return bundle

namespace WriterV2

def freeze : WriterProgV2 Unit :=
  modifySession fun session => { session with frozen := true }

def ensureMutable : WriterProgV2 Unit := do
  let session := (← Prog.get).session
  if session.frozen then Prog.throw frozenError else pure ()

/-- The bundle on disk and the paths its checkpoint selects. -/
def readCurrent (disk : Disk) :
    Except LivePersistenceError (BundleV2Contents × ResolvedBundlePathsV2) := do
  let bundle ← liftStore (readV2 E F profile storeFindings disk)
  let paths ← liftStore (v2PathsForState bundle.manifest.files bundle.sessionState disk)
  return (bundle, paths)

def reloadBundle (site : FileSite) : WriterProgV2 Unit := do
  let (bundle, paths) ← onDisk (Prog.readWith site (.store (.read (.root "manifest.json")))
    (readCurrent E F profile storeFindings))
  modifySession fun session => { session with bundle, paths }

/-- `refresh_if_advanced`: another handle may have committed since. -/
def refreshIfAdvanced : WriterProgV2 Unit := do
  let session := (← Prog.get).session
  let current := session.paths.sessionState
  let state ← onDisk (Prog.readWith .read (.io "read checkpoint" current) (readState E current))
  if state.revision = session.bundle.sessionState.revision then pure ()
  else if state.revision < session.bundle.sessionState.revision then do
    freeze
    Prog.throw (.externalModification "checkpoint revision moved backwards")
  else reloadBundle E F profile storeFindings .read

/-- `verify_unchanged`: the directory still is the one the handle remembers. -/
def verifyUnchanged : WriterProgV2 Unit := do
  let session := (← Prog.get).session
  let current := session.paths.sessionState
  let actual ← onDisk (Prog.readWith .read (.io "read checkpoint" current) (readState E current))
  if actual = session.bundle.sessionState then
    match ← (onDisk (Prog.readWith .read (.store (.read current))
        (verifyExactCheckpoint E profile actual session.paths))).attempt with
    | .ok () => pure ()
    | .error error =>
      freeze
      Prog.throw error
  else
    freeze
    Prog.throw (.externalModification "session-state.json changed since the writer snapshot")

/-- One stream of `rollback_streams`. -/
def rollbackStream (baseline : SessionStateV2) (stream : LiveStreamV2) : WriterProgV2 Unit := do
  let session := (← Prog.get).session
  match baseline.streams.lookup stream.checkpointName with
  | none =>
    freeze
    Prog.throw (.checkpointVerification
      ("baseline checkpoint is missing " ++ stream.checkpointName))
  | some checkpoint =>
    onDisk (truncateStream ("open stream rollback", "truncate uncommitted stream tail",
      "synchronize stream rollback") (session.paths.stream stream) checkpoint.committedBytes)

def rollbackStreams (baseline : SessionStateV2) : WriterProgV2 Unit :=
  allStreams.forM (rollbackStream baseline)

/-- `reload_committed_revision`: whether the checkpoint advanced behind the failure. -/
def reloadCommittedRevision (baseline : ℕ) : WriterProgV2 Bool := do
  let current := (← Prog.get).session.paths.sessionState
  let state ← onDisk (Prog.readWith .reread (.io "read checkpoint" current)
    (readState E current))
  if state.revision ≤ baseline then pure false
  else
    reloadBundle E F profile storeFindings .reload
    pure true

/-- What `append` decides before it verifies the directory: `none` for a mutation that
was committed before, and otherwise the prepared mutation and the next lifecycle. -/
def admitMutation (bundle : BundleV2Contents) (mutation : LiveMutationV2) (now : DateTime) :
    Except LivePersistenceError (Option (LiveMutationV2 × SessionLifecycleV2)) := do
  match committedMutation? bundle mutation.mutationId with
  | some existing =>
    if sameBusinessMembers existing mutation.members then return none
    else .error (conflict mutation.mutationId)
  | none =>
    failIf (mutation.expectedRevision != bundle.sessionState.revision)
      (.staleRevision mutation.expectedRevision bundle.sessionState.revision)
    let mutation ← prepareMutation mutation bundle.manifest.sessionId now
    let lifecycle ← validateMutation (strictMessages F) bundle mutation
    return some (mutation, lifecycle)

/-- The file effects of an append: the lines, the heads of the files, the checkpoint. -/
def commitFilesV2 (session : LiveSessionV2) (mutation : LiveMutationV2)
    (lifecycle : SessionLifecycleV2) : FileProg BundleV2Contents := do
  appendLines session.paths (mutation.serialized E)
  let next := appendMembers session.bundle mutation.members
  let streams ← Prog.readWith .read (.store (.read session.paths.adapterRecords))
    (checkpointFromPaths E profile next session.paths)
  let revision ← Prog.ofExcept (orError (checkedAdd64 session.bundle.sessionState.revision 1)
    (.invalidMutation "checkpoint revision overflowed"))
  let state := { next.sessionState with
    streams, revision, lifecycle
    lastCommittedMutationId := some mutation.mutationId }
  commitCheckpoint E session.paths.sessionState state
  return { next with sessionState := state }

/-- The error branch of an append. -/
def failAppend (baseline : SessionStateV2) (error : LivePersistenceError) :
    WriterProgV2 Unit := do
  if ← reloadCommittedRevision E F profile storeFindings baseline.revision then pure ()
  else rollbackStreams baseline
  Prog.throw error

def commitAppend (mutation : LiveMutationV2) (lifecycle : SessionLifecycleV2) :
    WriterProgV2 Unit := do
  let session := (← Prog.get).session
  Prog.ofExcept (preflightLiveBudget profile session.bundle.sessionState
    (mutation.serialized E))
  match ← (onDisk (commitFilesV2 E profile session mutation lifecycle)).attempt with
  | .error error => failAppend E F profile storeFindings session.bundle.sessionState error
  | .ok next =>
    modifySession fun session => { session with bundle := next }
    onDisk (checkPoint "acknowledge checkpoint" none)

/-- The receipt for the revision the handle stands at. -/
def receipt (mutationId : String) (idempotent : Bool) : WriterProgV2 CommitReceiptV2 := do
  let session := (← Prog.get).session
  return ⟨session.bundle.sessionState.revision, mutationId, idempotent⟩

def append (mutation : LiveMutationV2) (now : DateTime) : WriterProgV2 CommitReceiptV2 := do
  ensureMutable
  refreshIfAdvanced E F profile storeFindings
  let session := (← Prog.get).session
  match ← Prog.ofExcept (admitMutation F session.bundle mutation now) with
  | none => receipt mutation.mutationId true
  | some (mutation, lifecycle) =>
    verifyUnchanged E profile
    commitAppend E F profile storeFindings mutation lifecycle
    receipt mutation.mutationId false

/-- `append_with_attachment`; `buildMutation` is the caller's function. -/
def appendWithAttachment (bytes : Bytes) (mediaType : String)
    (encoding container sourceLocator : Option String)
    (buildMutation : AttachmentReference → LiveMutationV2) (now : DateTime) :
    WriterProgV2 (AttachmentReference × CommitReceiptV2) := do
  ensureMutable
  let writer ← Prog.get
  let path := Path.attachment (E.sha256Hex bytes)
  let existed := writer.disk.exists? path
  let reference ← onDisk (durableAttachment E profile bytes mediaType sourceLocator)
  let attachment := { reference with encoding, container }
  let mutation := buildMutation attachment
  match ← (append E F profile storeFindings mutation now).attempt with
  | .ok receipt => pure (attachment, receipt)
  | .error error =>
    let session := (← Prog.get).session
    let committed := session.bundle.sessionState.lastCommittedMutationId == some mutation.mutationId
    if !existed && !committed then onDisk (discardAttachment path)
    Prog.throw error

end WriterV2

namespace PlanCommitV2

def mutationId (plan : PlanCommitV2) : String := "plan:" ++ plan.generationId

/-- A file of the generation. -/
def path (plan : PlanCommitV2) (name : String) : Path :=
  .generation plan.generationId name

/-- The bundle with the plan in place of its own. -/
def candidate (plan : PlanCommitV2) (bundle : BundleV2Contents) : BundleV2Contents :=
  { bundle with
    station := plan.station
    antennas := plan.antennas
    schedule := plan.schedule
    sessionState := { bundle.sessionState with
      activePlan := plan.generation E
      lifecycle := .ready } }

/-- The bundle a committed plan leaves. -/
def next (plan : PlanCommitV2) (bundle : BundleV2Contents) (revision : ℕ) : BundleV2Contents :=
  let candidate := plan.candidate E bundle
  { candidate with sessionState := { candidate.sessionState with
      revision
      lastCommittedMutationId := some plan.mutationId } }

def metadata (plan : PlanCommitV2) (bundle : BundleV2Contents) : PlanGenerationMetadataV2 where
  schemaVersion := schemaVersionV2
  sessionId := bundle.manifest.sessionId
  baseRevision := bundle.sessionState.revision
  generation := plan.generation E

/-- The four files of the generation, in the order they are written. -/
def texts (plan : PlanCommitV2) (bundle : BundleV2Contents) : List (Path × Bytes) :=
  [(plan.path "station.json", serializeJson E.station plan.station),
    (plan.path "antennas.json", serializeJson E.antennas plan.antennas),
    (plan.path "schedule.json", serializeJson E.scheduleV2 plan.schedule),
    (plan.path "generation.json", serializeJson E.planGeneration (plan.metadata E bundle))]

/-- What `commit_plan` decides before it verifies the directory: whether the plan is
the active one already. -/
def admitPlan (plan : PlanCommitV2) (bundle : BundleV2Contents) :
    Except LivePersistenceError Bool := do
  let lifecycle := bundle.sessionState.lifecycle
  if bundle.sessionState.activePlan.generationId == plan.generationId then
    if bundle.station == plan.station && bundle.antennas == plan.antennas &&
        bundle.schedule == plan.schedule then return true
    else .error (conflict plan.mutationId)
  else
    failIf (plan.expectedRevision != bundle.sessionState.revision)
      (.staleRevision plan.expectedRevision bundle.sessionState.revision)
    failIf (lifecycle != .draft && lifecycle != .ready) (.planFrozen lifecycle)
    failIf (plan.generationId.isEmpty || !plan.generationId.toList.all isSafeComponent)
      (.invalidMutation "plan generation ID must be a nonempty ASCII path component")
    return false

/-- The strict creation report of the candidate blocks nothing. -/
def validate (plan : PlanCommitV2) (bundle : BundleV2Contents) :
    Except LivePersistenceError Unit :=
  let blocking := strictMessages F (plan.candidate E bundle).intoCurrent.bundle
  failIf (!blocking.isEmpty) (.invalidMutation ("; ".intercalate blocking))

end PlanCommitV2

namespace Disk

/-- `fs::create_dir_all` on the directory of a generation. -/
def makeGeneration (id : String) (disk : Disk) : Disk :=
  { disk with
    generationsDir := true
    generationDirs :=
      if id ∈ disk.generationDirs then disk.generationDirs else disk.generationDirs ++ [id] }

end Disk

/-- The two directories appear one after the other. -/
def FileEffect.makeGeneration (id : String) : FileEffect where
  site := .create
  full := Disk.makeGeneration id
  torn n disk :=
    match n with
    | 0 => disk
    | _ + 1 => { disk with generationsDir := true }

/-- `write_plan_file` after the creation of the file. -/
def fillPlanFile (path : Path) (bytes : Bytes) : FileProg Unit := do
  writeAll "write plan file" path bytes
  checkPoint "plan post-write failpoint" path
  checkPoint "plan pre-sync failpoint" path
  syncAll "synchronize plan file" path
  checkPoint "plan post-sync failpoint" path

def writePlanFile (entry : Path × Bytes) : FileProg Unit := do
  checkPoint "plan pre-write failpoint" entry.1
  createNew "create plan file" entry.1
  fillPlanFile entry.1 entry.2

namespace WriterV2

/-- `commit_plan` up to the directory of the generation; whether the plan is the active
one already. -/
def openGeneration (plan : PlanCommitV2) : WriterProgV2 Bool := do
  ensureMutable
  refreshIfAdvanced E F profile storeFindings
  let session := (← Prog.get).session
  if ← Prog.ofExcept (plan.admitPlan session.bundle) then pure true
  else
    verifyUnchanged E profile
    Prog.ofExcept (plan.validate E F session.bundle)
    onDisk (Prog.perform (FileEffect.makeGeneration plan.generationId)
      (.io "create plan generation" none))
    pure false

/-- The error branch of a plan commit. -/
def failPlan (baseline : SessionStateV2) (error : LivePersistenceError) : WriterProgV2 Unit := do
  let current := (← Prog.get).session.paths.sessionState
  if ← onDisk (checkpointAdvanced E current baseline) then
    reloadBundle E F profile storeFindings .reload
  Prog.throw error

/-- The handle moves on to the plan it committed. -/
def adoptPlan (next : BundleV2Contents) : WriterProgV2 Unit := do
  modifySession fun session => { session with bundle := next }
  let disk := (← Prog.get).disk
  let paths ← Prog.ofExcept
    (liftStore (v2PathsForState next.manifest.files next.sessionState disk))
  modifySession fun session => { session with paths }
  onDisk (checkPoint "acknowledge checkpoint" none)

/-- The files of the generation and the checkpoint that selects it. -/
def storePlan (plan : PlanCommitV2) : WriterProgV2 Unit := do
  let session := (← Prog.get).session
  onDisk ((plan.texts E session.bundle).forM writePlanFile)
  onDisk (syncAll "synchronize plan generation" none)
  let revision ← Prog.ofExcept (orError (checkedAdd64 session.bundle.sessionState.revision 1)
    (.invalidMutation "checkpoint revision overflowed"))
  let next := plan.next E session.bundle revision
  match ← (onDisk (commitCheckpoint E session.paths.sessionState next.sessionState)).attempt with
  | .error error => failPlan E F profile storeFindings session.bundle.sessionState error
  | .ok () => adoptPlan next

def commitPlan (plan : PlanCommitV2) : WriterProgV2 CommitReceiptV2 := do
  if ← openGeneration E F profile storeFindings plan then receipt plan.mutationId true
  else
    storePlan E F profile storeFindings plan
    receipt plan.mutationId false

end WriterV2

end

end AntennaBench
