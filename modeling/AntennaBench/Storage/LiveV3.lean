import AntennaBench.Storage.Attachments
import AntennaBench.Storage.MutationV3

/-!
# The live writer of schema-v3 to schema-v6 sessions

A `LiveSessionV3` handle together with the directory it writes. Three of its
operations accept a mutation only while the handle is not frozen and the
directory still is what the handle remembers; `append_diagnostic` starts from
the handle alone.
-/

namespace AntennaBench

open FaultIO

/-- A handle and the bundle directory. -/
structure Writer where
  disk : Disk
  session : LiveSessionV3

abbrev WriterProg (α : Type) := Prog FileSite Writer LivePersistenceError α

def Writer.setDisk (disk : Disk) (writer : Writer) : Writer :=
  { writer with disk }

def Writer.setSession (session : LiveSessionV3) (writer : Writer) : Writer :=
  { writer with session }

/-- A file program as a part of an operation on the handle. -/
def onDisk {α : Type} (program : FileProg α) : WriterProg α :=
  program.zoom Writer.disk Writer.setDisk

theorem onDisk_readWith {α : Type} (site : FileSite) (e : LivePersistenceError)
    (f : Disk → Except LivePersistenceError α) :
    onDisk (Prog.readWith site e f) = Prog.readWith site e fun w => f w.disk := by
  have hpassive : (Prog.passive site : Effect FileSite Writer) =
      ⟨site, fun t => Writer.setDisk (id t.disk) t, fun n t => Writer.setDisk (id t.disk) t⟩ := rfl
  unfold onDisk Prog.readWith Prog.perform
  rw [hpassive]
  simp only [Bind.bind, Prog.bind, Prog.zoom, Prog.get]
  congr 1
  funext ok
  cases ok
  · rfl
  · simp only [if_true, Prog.bind, Prog.zoom]
    congr 1
    funext w
    cases f w.disk <;> rfl

def modifySession (f : LiveSessionV3 → LiveSessionV3) : WriterProg Unit :=
  Prog.modify fun writer => writer.setSession (f writer.session)

def frozenError : LivePersistenceError :=
  .externalModification "this handle is read-only after a persistence failure"

section

variable (E : Env) (profile : BundleResourceProfile)

def openLock (operation : String) : FileProg Unit := do
  let disk ← Prog.get
  if disk.exists? lockFile then Prog.perform FileEffect.read (.io operation lockFile)
  else Prog.perform (FileEffect.create lockFile) (.io operation lockFile)

/-- `probe_live_persistence`: a barrier on the root directory. -/
def probeLivePersistence : FileProg Unit :=
  Prog.perform FileEffect.sync (.capability "live persistence durability probe failed")

/-- What `open_v3_writer` reads and verifies before it hands out a session. -/
def openSession (requested : Option RuntimeContextV6) (disk : Disk) :
    Except LivePersistenceError LiveSessionV3 := do
  let bundle ← liftStore (readV3 E profile disk)
  let paths ← liftStore (v2PathsForState bundle.manifest.files bundle.sessionState disk)
  verifyExactCheckpoint E profile bundle.sessionState paths disk
  failIf (requested.any fun context =>
      bundle.manifest.schemaVersion != schemaVersionV6 || !context.hasValidIdentity E)
    (.capability "runtime-context writers require a valid schema-v6 bundle")
  return {
    bundle, paths
    frozen := false
    pendingRuntimeContext := requested.filter fun context =>
      bundle.sessionState.activeRuntimeContextId != some context.contextId }

def openV3Writer (requested : Option RuntimeContextV6) : FileProg LiveSessionV3 := do
  openLock "open writer lock"
  probeLivePersistence
  Prog.readWith .read (.store (.read (.root "manifest.json"))) (openSession E profile requested)

def freeze : WriterProg Unit :=
  modifySession fun session => { session with frozen := true }

/-- The directory still is the one the handle remembers; otherwise the handle freezes. -/
def verifySnapshot (session : LiveSessionV3) : WriterProg Unit := do
  let current := session.paths.sessionState
  let actual ← onDisk (Prog.readWith .read (.io "read checkpoint" current) (readState E current))
  if actual = session.bundle.sessionState then
    match ← (onDisk (Prog.readWith .read (.store (.read current))
        (verifyExactCheckpoint E profile actual session.paths))).attempt with
    | .ok () => pure ()
    | .error error =>
      freeze
      Prog.throw error
  else
    freeze
    Prog.throw (.externalModification "session-state.json changed since the writer snapshot")

/-- The checks `append_event`, `append_evidence` and `append_antenna_control` share. -/
def checkHandle : WriterProg Unit := do
  let session := (← Prog.get).session
  if session.frozen then Prog.throw frozenError else verifySnapshot E profile session

def appendLines (paths : ResolvedBundlePathsV2) (lines : List (LiveStreamV2 × Bytes)) :
    FileProg Unit :=
  lines.forM fun entry => appendLine (paths.stream entry.1) entry.2

/-- The file effects of a commit: the lines of each stream, then the checkpoint. -/
def commitFiles (paths : ResolvedBundlePathsV2) (plan : CommitPlan) : FileProg Unit := do
  appendLines paths plan.lines
  commitCheckpoint E paths.sessionState plan.candidate.sessionState

/-- `read_state(..).is_ok_and(|state| state.revision > baseline.revision)`. -/
def checkpointAdvanced (current : Path) (baseline : SessionStateV2) : FileProg Bool := do
  match ← (Prog.readWith .reread (.io "read checkpoint" current) (readState E current) :
      FileProg SessionStateV2).attempt with
  | .ok state => pure (decide (baseline.revision < state.revision))
  | .error _ => pure false

def reloadBundle : WriterProg Unit := do
  let bundle ← onDisk (Prog.readWith .reload (.store (.read (.root "manifest.json")))
    fun disk => liftStore (readV3 E profile disk))
  modifySession fun session => { session with bundle }

/-- The error branch of a commit. -/
def failCommit (plan : CommitPlan) (error : LivePersistenceError) : WriterProg Unit := do
  let session := (← Prog.get).session
  let baseline := session.bundle.sessionState
  if ← onDisk (checkpointAdvanced E session.paths.sessionState baseline) then
    reloadBundle E profile
  else
    onDisk (rollbackV3Streams session.paths baseline plan.rollback)
  Prog.throw error

def commitMutation (plan : CommitPlan) : WriterProg Unit := do
  let session := (← Prog.get).session
  match ← (onDisk (commitFiles E session.paths plan)).attempt with
  | .error error => failCommit E profile plan error
  | .ok () =>
    modifySession fun session =>
      { session with bundle := plan.candidate, pendingRuntimeContext := plan.pending }
    onDisk (checkPoint "acknowledge checkpoint" none)

def execute {ρ : Type} : Decision ρ → WriterProg ρ
  | .settled receipt => pure receipt
  | .commit plan receipt => do
    commitMutation E profile plan
    pure receipt

/-- An operation after its admission: the decision and its execution. -/
def decideAndExecute {ρ : Type} (decision : LiveSessionV3 → FileProg (Decision ρ)) :
    WriterProg ρ := do
  let session := (← Prog.get).session
  let decided ← onDisk (decision session)
  execute E profile decided

def appendEvent (mutation : LiveEventMutationV3) (now : DateTime) :
    WriterProg CommitReceiptV2 := do
  checkHandle E profile
  decideAndExecute E profile fun session =>
    Prog.ofExcept (planEvent E profile session mutation now)

/-- The decision on evidence reads the attachments the batch refers to. -/
def decideEvidence (mutation : LiveEvidenceMutationV3) (now : DateTime)
    (session : LiveSessionV3) : FileProg (Decision CommitReceiptV2) :=
  Prog.readWith .read (.store (.read session.paths.attachmentsDir))
    (planEvidence E profile session mutation now)

def appendEvidence (mutation : LiveEvidenceMutationV3) (now : DateTime) :
    WriterProg CommitReceiptV2 := do
  checkHandle E profile
  decideAndExecute E profile (decideEvidence E profile mutation now)

def appendAntennaControl (mutation : LiveAntennaControlMutationV5) (now : DateTime) :
    WriterProg CommitReceiptV2 := do
  checkHandle E profile
  decideAndExecute E profile fun session =>
    Prog.ofExcept (planAntennaControl E profile session mutation now)

def appendDiagnostic (mutation : LiveDiagnosticMutationV6) (now : DateTime) :
    WriterProg DiagnosticCommitReceiptV6 :=
  decideAndExecute E profile fun session =>
    Prog.ofExcept (planDiagnostic E profile session mutation now)

/-- What is left of a new attachment after its mutation was refused. -/
def discardAttachment (path : Path) : FileProg Unit := do
  removeIfExists "remove uncommitted attachment" path path
  syncAll "synchronize attachment rollback" none
  syncAll "synchronize attachments rollback" none

/-- `append_evidence_with_attachment`; `buildMutation` is the caller's function. -/
def appendEvidenceWithAttachment (bytes : Bytes) (mediaType : String)
    (encoding container sourceLocator : Option String)
    (buildMutation : AttachmentReference → LiveEvidenceMutationV3) (now : DateTime) :
    WriterProg (AttachmentReference × CommitReceiptV2) := do
  let writer ← Prog.get
  if writer.session.frozen then Prog.throw frozenError
  else
    let path := Path.attachment (E.sha256Hex bytes)
    let existed := writer.disk.exists? path
    let reference ← onDisk (durableAttachment E profile bytes mediaType sourceLocator)
    let attachment := { reference with encoding, container }
    let mutation := buildMutation attachment
    match ← (appendEvidence E profile mutation now).attempt with
    | .ok receipt => pure (attachment, receipt)
    | .error error =>
      let session := (← Prog.get).session
      let committed := session.bundle.sessionState.lastCommittedMutationId ==
        some mutation.mutationId
      if !existed && !committed then onDisk (discardAttachment path)
      Prog.throw error

end

end AntennaBench
