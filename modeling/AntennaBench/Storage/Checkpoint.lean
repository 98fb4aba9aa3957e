import AntennaBench.FaultIO.Guarantee
import AntennaBench.Storage.Paths

/-!
# Checkpoints

Stream heads, their verification against the files of the directory, and the
replacement of the checkpoint document: the bytes are written to a temporary
file, the current checkpoint is copied to the previous one, and one rename
promotes the new value.
-/

namespace AntennaBench

open FaultIO

abbrev FileProg (α : Type) := Prog FileSite Disk LivePersistenceError α

def checkpointTemp : Path := .root ".session-state.next.json"
def checkpointPrevious : Path := .root "session-state.previous.json"
def checkpointPreviousTemp : Path := .root "session-state.previous.json.next"
def lockFile : Path := .root ".antennabench.lock"
def checkpointMaxBytes : ℕ := 4 * 1024 * 1024

/-- A store error inside a live operation. -/
def liftStore {α : Type} (result : Except BundleStoreError α) : Except LivePersistenceError α :=
  result.mapError .store

section

variable (E : Env) (profile : BundleResourceProfile)

def checkpointForBytes (bytes : Bytes) (recordCount : ℕ) (lastRecordId : Option String) :
    StreamCheckpointV2 :=
  ⟨bytes.length, recordCount, lastRecordId, E.sha256Hex bytes⟩

def streamCheckpoint (state : SessionStateV2) (stream : LiveStreamV2) :
    Except LivePersistenceError StreamCheckpointV2 :=
  orError (state.streams.lookup stream.checkpointName)
    (.checkpointVerification ("checkpoint is missing " ++ stream.checkpointName))

/-- One stream of `verify_exact_checkpoint`. -/
def verifyExactStream (checkpoint : SessionStateV2) (paths : ResolvedBundlePathsV2)
    (disk : Disk) (stream : LiveStreamV2) : Except LivePersistenceError Unit := do
  let expected ← streamCheckpoint checkpoint stream
  let bytes ← liftStore (readStreamBounded profile (paths.stream stream) .write disk)
  failIf (bytes.length != expected.committedBytes)
    (.recoveryRequired (stream.checkpointName ++ " has bytes outside its committed head"))
  failIf (E.sha256Hex bytes != expected.committedSha256)
    (.externalModification (stream.checkpointName ++ " committed prefix digest changed"))

/-- One stream of `verify_committed_prefixes`. -/
def verifyPrefixStream (checkpoint : SessionStateV2) (paths : ResolvedBundlePathsV2)
    (disk : Disk) (stream : LiveStreamV2) : Except LivePersistenceError Unit := do
  let expected ← streamCheckpoint checkpoint stream
  let bytes ← liftStore (readStreamBounded profile (paths.stream stream) .write disk)
  failIf (bytes.length < expected.committedBytes)
    (.checkpointVerification (stream.checkpointName ++ " is shorter than its committed prefix"))
  failIf (E.sha256Hex (bytes.take expected.committedBytes) != expected.committedSha256)
    (.externalModification
      (stream.checkpointName ++ " has corruption inside its committed prefix"))

/-- One stream of `verify_v6_operational_streams`. -/
def verifyOperationalStream (checkpoint : SessionStateV2) (paths : ResolvedBundlePathsV2)
    (exactly : Bool) (disk : Disk) (stream : LiveStreamV2) :
    Except LivePersistenceError Unit := do
  let name := stream.checkpointName
  match paths.operational? stream with
  | none =>
    failIf (checkpoint.streams.lookup name).isSome
      (.checkpointVerification ("checkpoint declares " ++ name ++ " without a manifest path"))
  | some path =>
    let expected ← streamCheckpoint checkpoint stream
    let bytes ← liftStore (readStreamBounded profile path .write disk)
    failIf (bytes.length < expected.committedBytes ||
        (exactly && bytes.length != expected.committedBytes))
      (if exactly then .recoveryRequired (name ++ " has bytes outside its committed head")
        else .checkpointVerification (name ++ " is shorter than its committed prefix"))
    failIf (E.sha256Hex (bytes.take expected.committedBytes) != expected.committedSha256)
      (.externalModification (name ++ " has corruption inside its committed prefix"))

/-- The digests of the active plan, beside the files they describe. -/
def planDigests (checkpoint : SessionStateV2) (paths : ResolvedBundlePathsV2) :
    List (String × Path × String) :=
  [("station", paths.station, checkpoint.activePlan.stationSha256),
    ("antennas", paths.antennas, checkpoint.activePlan.antennasSha256),
    ("schedule", paths.schedule, checkpoint.activePlan.scheduleSha256)]

def verifyPlanFile (complaint : String) (disk : Disk) (entry : String × Path × String) :
    Except LivePersistenceError Unit := do
  let bytes ← liftStore (readRootBounded profile entry.2.1 .write disk)
  failIf (E.sha256Hex bytes != entry.2.2)
    (.externalModification ("active plan " ++ entry.1 ++ complaint))

def verifyExactCheckpoint (checkpoint : SessionStateV2) (paths : ResolvedBundlePathsV2)
    (disk : Disk) : Except LivePersistenceError Unit := do
  allStreams.forM (verifyExactStream E profile checkpoint paths disk)
  operationalStreams.forM (verifyOperationalStream E profile checkpoint paths true disk)
  (planDigests checkpoint paths).forM (verifyPlanFile E profile " digest changed" disk)

def verifyCommittedPrefixes (checkpoint : SessionStateV2) (paths : ResolvedBundlePathsV2)
    (disk : Disk) : Except LivePersistenceError Unit := do
  allStreams.forM (verifyPrefixStream E profile checkpoint paths disk)
  operationalStreams.forM (verifyOperationalStream E profile checkpoint paths false disk)
  (planDigests checkpoint paths).forM
    (verifyPlanFile E profile " has committed corruption" disk)

def readJsonFile {α : Type} (codec : Codec α) (path : Path) (description : String)
    (disk : Disk) : Except LivePersistenceError α := do
  let bytes ← liftStore (readRootBounded profile path .read disk)
  orError (codec.fromSlice bytes) (.checkpointVerification (description ++ " is invalid"))

def readState (path : Path) (disk : Disk) : Except LivePersistenceError SessionStateV2 := do
  let bytes ← orError (disk.get path) (.io "inspect checkpoint" path)
  failIf (checkpointMaxBytes < bytes.length)
    (.checkpointVerification "checkpoint exceeds the 4194304 byte limit")
  orError (E.sessionState.fromSlice bytes)
    (.checkpointVerification "session state is not a valid checkpoint")

end

section

variable {E : Env} {profile : BundleResourceProfile}

theorem readState_eq_ok {path : Path} {disk : Disk} {state : SessionStateV2} :
    readState E path disk = .ok state ↔
      ∃ bytes, disk.get path = some bytes ∧ bytes.length ≤ checkpointMaxBytes ∧
        E.sessionState.fromSlice bytes = some state := by
  simp only [readState, bind_eq_ok, orError_eq_ok, failIf_eq_ok, decide_eq_false_iff_not, not_lt]
  constructor
  · rintro ⟨bytes, hget, _, hsize, hparse⟩
    exact ⟨bytes, hget, hsize, hparse⟩
  · rintro ⟨bytes, hget, hsize, hparse⟩
    exact ⟨bytes, hget, (), hsize, hparse⟩

theorem verifyExactStream_matches {checkpoint : SessionStateV2} {paths : ResolvedBundlePathsV2}
    {disk : Disk} {stream : LiveStreamV2}
    (h : verifyExactStream E profile checkpoint paths disk stream = .ok ()) :
    ∃ head bytes, checkpoint.streams.lookup stream.checkpointName = some head ∧
      disk.get (paths.stream stream) = some bytes ∧ bytes.length = head.committedBytes ∧
      E.sha256Hex bytes = head.committedSha256 := by
  simp only [verifyExactStream, streamCheckpoint, liftStore, readStreamBounded, bind_eq_ok,
    orError_eq_ok, mapError_eq_ok, readBounded_eq_ok, failIf_eq_ok] at h
  obtain ⟨head, hhead, bytes, ⟨hget, -⟩, _, hlength, hsha⟩ := h
  exact ⟨head, bytes, hhead, hget, by simpa using hlength, by simpa using hsha⟩

theorem verifyOperationalStream_matches {checkpoint : SessionStateV2}
    {paths : ResolvedBundlePathsV2} {disk : Disk} {stream : LiveStreamV2}
    (hstream : (paths.operational? stream).isSome)
    (h : verifyOperationalStream E profile checkpoint paths true disk stream = .ok ()) :
    ∃ head bytes, checkpoint.streams.lookup stream.checkpointName = some head ∧
      disk.get (paths.stream stream) = some bytes ∧ bytes.length = head.committedBytes ∧
      E.sha256Hex bytes = head.committedSha256 := by
  obtain ⟨path, hpath⟩ := Option.isSome_iff_exists.1 hstream
  simp only [verifyOperationalStream, hpath, streamCheckpoint, liftStore, readStreamBounded,
    bind_eq_ok, orError_eq_ok, mapError_eq_ok, readBounded_eq_ok, failIf_eq_ok] at h
  obtain ⟨head, hhead, bytes, ⟨hget, -⟩, _, hlength, hsha⟩ := h
  have hlen : bytes.length = head.committedBytes := by
    simp at hlength
    exact hlength.2
  refine ⟨head, bytes, hhead, by rwa [ResolvedBundlePathsV2.stream_of_operational? hpath], hlen, ?_⟩
  simpa [← hlen] using hsha

theorem verifyPlanFile_matches {complaint : String} {disk : Disk}
    {entry : String × Path × String}
    (h : verifyPlanFile E profile complaint disk entry = .ok ()) :
    ∃ bytes, disk.get entry.2.1 = some bytes ∧ E.sha256Hex bytes = entry.2.2 := by
  simp only [verifyPlanFile, liftStore, readRootBounded, bind_eq_ok, mapError_eq_ok,
    readBounded_eq_ok, failIf_eq_ok] at h
  obtain ⟨bytes, ⟨hget, -⟩, hsha⟩ := h
  exact ⟨bytes, hget, by simpa using hsha⟩

theorem verifyExactCheckpoint_eq_ok {checkpoint : SessionStateV2} {paths : ResolvedBundlePathsV2}
    {disk : Disk} :
    verifyExactCheckpoint E profile checkpoint paths disk = .ok () ↔
      (∀ stream ∈ allStreams, verifyExactStream E profile checkpoint paths disk stream = .ok ()) ∧
      (∀ stream ∈ operationalStreams,
        verifyOperationalStream E profile checkpoint paths true disk stream = .ok ()) ∧
      ∀ entry ∈ planDigests checkpoint paths,
        verifyPlanFile E profile " digest changed" disk entry = .ok () := by
  rw [verifyExactCheckpoint]
  simp only [bind_eq_ok, forM_eq_ok]
  exact ⟨fun ⟨_, h1, _, h2, h3⟩ => ⟨h1, h2, h3⟩, fun ⟨h1, h2, h3⟩ => ⟨(), h1, (), h2, h3⟩⟩

end

def checkPoint (operation : String) (path : Option Path) : FileProg Unit :=
  Prog.perform FileEffect.check (.io operation path)

def syncAll (operation : String) (path : Option Path) : FileProg Unit :=
  Prog.perform FileEffect.sync (.io operation path)

/-- Opens an existing file. -/
def openExisting (operation : String) (path : Path) : FileProg Unit := do
  Prog.perform FileEffect.read (.io operation path)
  let disk ← Prog.get
  if disk.exists? path then pure () else Prog.throw (.io operation path)

/-- Opens a file with `create_new`. -/
def createNew (operation : String) (path : Path) : FileProg Unit := do
  let disk ← Prog.get
  if disk.exists? path then Prog.throw (.io operation path)
  else Prog.perform (FileEffect.create path) (.io operation path)

def writeAll (operation : String) (path : Path) (bytes : Bytes) : FileProg Unit :=
  Prog.perform (FileEffect.appendBytes path bytes) (.io operation path)

def removeIfExists (operation : String) (path reported : Path) : FileProg Unit := do
  let disk ← Prog.get
  if disk.exists? path then
    Prog.perform (FileEffect.remove path) (.io operation reported)
  else pure ()

/-- `replace_checkpoint`; its caller reports every failure as one operation. -/
def replaceCheckpoint (current : Path) : FileProg Unit := do
  let operation := "atomically replace checkpoint"
  removeIfExists operation checkpointPreviousTemp current
  openExisting operation current
  Prog.perform (FileEffect.copy current checkpointPreviousTemp) (.io operation current)
  syncAll operation current
  Prog.perform (FileEffect.rename checkpointPreviousTemp checkpointPrevious)
    (.io operation current)
  Prog.perform (FileEffect.rename checkpointTemp current) (.io operation current)

/-- `commit_checkpoint` up to the promotion of the new value. -/
def writeCheckpointTemp (E : Env) (checkpoint : SessionStateV2) : FileProg Unit := do
  removeIfExists "remove stale checkpoint temp" checkpointTemp checkpointTemp
  checkPoint "checkpoint pre-write failpoint" checkpointTemp
  createNew "create checkpoint temp" checkpointTemp
  writeAll "write checkpoint temp" checkpointTemp (serializeJson E.sessionState checkpoint)
  checkPoint "checkpoint post-write failpoint" checkpointTemp
  checkPoint "checkpoint pre-sync failpoint" checkpointTemp
  syncAll "synchronize checkpoint temp" checkpointTemp
  checkPoint "checkpoint post-sync failpoint" checkpointTemp
  checkPoint "checkpoint pre-replace failpoint" checkpointTemp

/-- `commit_checkpoint` after the promotion: barriers and the reopened value. -/
def acknowledgeCheckpoint (E : Env) (current : Path) (checkpoint : SessionStateV2) :
    FileProg Unit := do
  checkPoint "checkpoint post-replace failpoint" current
  checkPoint "directory pre-sync failpoint" none
  syncAll "synchronize bundle directory" none
  checkPoint "directory post-sync failpoint" none
  checkPoint "checkpoint pre-verify failpoint" current
  let reopened ← Prog.readWith .read (.io "read checkpoint" current) (readState E current)
  if reopened = checkpoint then
    checkPoint "checkpoint post-verify failpoint" current
  else
    Prog.throw (.checkpointVerification "reopened checkpoint differs from the promoted value")

def commitCheckpoint (E : Env) (current : Path) (checkpoint : SessionStateV2) :
    FileProg Unit := do
  writeCheckpointTemp E checkpoint
  replaceCheckpoint current
  acknowledgeCheckpoint E current checkpoint

/-- `append_line`: the bytes reach the stream in two halves. -/
def appendLine (path : Path) (bytes : Bytes) : FileProg Unit := do
  let split := bytes.length / 2
  checkPoint "stream write failpoint" path
  openExisting "open stream append" path
  writeAll "append stream prefix" path (bytes.take split)
  checkPoint "stream mid-write failpoint" path
  writeAll "append stream suffix" path (bytes.drop split)
  checkPoint "stream post-write failpoint" path
  checkPoint "stream pre-sync failpoint" path
  syncAll "synchronize stream" path
  checkPoint "stream post-sync failpoint" path

/-- One stream of a rollback or of a truncation of tails. -/
def truncateStream (operations : String × String × String) (path : Path) (length : ℕ) :
    FileProg Unit := do
  openExisting operations.1 path
  Prog.perform (FileEffect.setLen path length) (.io operations.2.1 path)
  syncAll operations.2.2 path

/-- `rollback_v3_streams`. -/
def rollbackV3Streams (paths : ResolvedBundlePathsV2) (baseline : SessionStateV2)
    (streams : List LiveStreamV2) : FileProg Unit :=
  streams.forM fun stream => do
    let checkpoint ← Prog.ofExcept
      (orError (baseline.streams.lookup stream.checkpointName)
        (.checkpointVerification ("baseline checkpoint is missing " ++ stream.checkpointName)))
    truncateStream ("open schema-v3 evidence rollback", "truncate schema-v3 evidence rollback",
      "synchronize schema-v3 evidence rollback") (paths.stream stream) checkpoint.committedBytes

section

variable {R : Disk → Disk → Prop} (refl : ∀ disk, R disk disk)

include refl

theorem checkPoint_within {operation : String} {path : Option Path} :
    (checkPoint operation path).Within R :=
  .passive refl

theorem syncAll_within {operation : String} {path : Option Path} :
    (syncAll operation path).Within R :=
  .passive refl

theorem openExisting_within {operation : String} {path : Path} :
    (openExisting operation path).Within R :=
  .bind (.passive refl) fun _ => .bind Prog.within_get fun _ =>
    .ite (Prog.within_pure _) (Prog.within_throw _)

end

end AntennaBench
