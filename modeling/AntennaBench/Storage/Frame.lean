import AntennaBench.FaultIO.Invariant
import AntennaBench.Storage.RecoveryV3

/-!
# Frame conditions

Which files the programs of the live writer and of recovery may touch. Every
bound is one on the program text, so it holds of complete, failed and torn
effects alike. Attachments are the exception: an existing one is never written,
because its name is looked up first.
-/

namespace AntennaBench

open FaultIO

namespace Disk

/-- Only the touched files differ, and no directory appears or disappears. -/
structure Touches (touched : Set Path) (before after : Disk) : Prop where
  get : ∀ path ∉ touched, after.get path = before.get path
  digestDir : after.digestDir = before.digestDir
  generationsDir : after.generationsDir = before.generationsDir
  generationDirs : after.generationDirs = before.generationDirs

namespace Touches

variable {touched : Set Path} {path : Path}

theorem refl (disk : Disk) : Touches touched disk disk := ⟨fun _ _ => rfl, rfl, rfl, rfl⟩

theorem trans {a b c : Disk} (hab : Touches touched a b) (hbc : Touches touched b c) :
    Touches touched a c :=
  ⟨fun p hp => (hbc.get p hp).trans (hab.get p hp), hbc.digestDir.trans hab.digestDir,
    hbc.generationsDir.trans hab.generationsDir, hbc.generationDirs.trans hab.generationDirs⟩

theorem symm {before after : Disk} (h : Touches touched before after) :
    Touches touched after before :=
  ⟨fun p hp => (h.get p hp).symm, h.digestDir.symm, h.generationsDir.symm, h.generationDirs.symm⟩

theorem put (hpath : path ∈ touched) (bytes : Bytes) (disk : Disk) :
    Touches touched disk (disk.put path bytes) :=
  ⟨fun _ hp => get_put_ne (ne_of_mem_of_not_mem hpath hp).symm bytes disk, rfl, rfl, rfl⟩

theorem remove (hpath : path ∈ touched) (disk : Disk) :
    Touches touched disk (disk.remove path) :=
  ⟨fun _ hp => get_remove_ne (ne_of_mem_of_not_mem hpath hp).symm disk, rfl, rfl, rfl⟩

end Touches

end Disk

section

variable {touched : Set Path} {path : Path} {operation : String}

theorem createNew_touches (hpath : path ∈ touched) :
    (createNew operation path).Within (Disk.Touches touched) :=
  .bind Prog.within_get fun _ => .ite (Prog.within_throw _)
    (.perform (fun disk => .put hpath [] disk) fun _ => .refl)

theorem writeAll_touches (hpath : path ∈ touched) (bytes : Bytes) :
    (writeAll operation path bytes).Within (Disk.Touches touched) :=
  .perform (fun disk => .put hpath _ disk) fun _ disk => .put hpath _ disk

theorem removeIfExists_touches (hpath : path ∈ touched) (reported : Path) :
    (removeIfExists operation path reported).Within (Disk.Touches touched) :=
  .bind Prog.within_get fun _ => .ite
    (.perform (fun disk => .remove hpath disk) fun _ => .refl) (Prog.within_pure _)

theorem rename_touches {source destination : Path} (hsource : source ∈ touched)
    (hdestination : destination ∈ touched) (e : LivePersistenceError) :
    (Prog.perform (FileEffect.rename source destination) e).Within (Disk.Touches touched) :=
  .perform (fun disk => (Disk.Touches.put hdestination _ disk).trans (.remove hsource _))
    fun _ => .refl

theorem copy_touches {source destination : Path} (hdestination : destination ∈ touched)
    (e : LivePersistenceError) :
    (Prog.perform (FileEffect.copy source destination) e).Within (Disk.Touches touched) := by
  refine .perform (fun disk => .put hdestination _ disk) fun n disk => ?_
  cases n with
  | zero => exact .refl disk
  | succ n => exact .put hdestination _ disk

theorem truncateStream_touches {operations : String × String × String} (hpath : path ∈ touched)
    (length : ℕ) : (truncateStream operations path length).Within (Disk.Touches touched) :=
  .bind (openExisting_within .refl) fun _ =>
    .bind (.perform (fun disk => .put hpath _ disk) fun _ => .refl) fun _ => syncAll_within .refl

theorem appendLine_touches (hpath : path ∈ touched) (bytes : Bytes) :
    (appendLine path bytes).Within (Disk.Touches touched) :=
  .bind (checkPoint_within .refl) fun _ => .bind (openExisting_within .refl) fun _ =>
    .bind (writeAll_touches hpath _) fun _ => .bind (checkPoint_within .refl) fun _ =>
    .bind (writeAll_touches hpath _) fun _ => .bind (checkPoint_within .refl) fun _ =>
    .bind (checkPoint_within .refl) fun _ => .bind (syncAll_within .refl) fun _ =>
    checkPoint_within .refl

/-- The files a checkpoint replacement works on. -/
def checkpointFiles (current : Path) : Set Path :=
  {current, checkpointTemp, checkpointPrevious, checkpointPreviousTemp}

theorem writeCheckpointTemp_touches (htemp : checkpointTemp ∈ touched) (E : Env)
    (checkpoint : SessionStateV2) :
    (writeCheckpointTemp E checkpoint).Within (Disk.Touches touched) :=
  .bind (removeIfExists_touches htemp _) fun _ => .bind (checkPoint_within .refl) fun _ =>
    .bind (createNew_touches htemp) fun _ => .bind (writeAll_touches htemp _) fun _ =>
    .bind (checkPoint_within .refl) fun _ => .bind (checkPoint_within .refl) fun _ =>
    .bind (syncAll_within .refl) fun _ => .bind (checkPoint_within .refl) fun _ =>
    checkPoint_within .refl

theorem acknowledgeCheckpoint_touches (E : Env) (current : Path) (checkpoint : SessionStateV2) :
    (acknowledgeCheckpoint E current checkpoint).Within (Disk.Touches touched) :=
  .bind (checkPoint_within .refl) fun _ => .bind (checkPoint_within .refl) fun _ =>
    .bind (syncAll_within .refl) fun _ => .bind (checkPoint_within .refl) fun _ =>
    .bind (checkPoint_within .refl) fun _ => .bind (.readWith .refl) fun _ =>
    .ite (checkPoint_within .refl) (Prog.within_throw _)

theorem replaceCheckpoint_touches {current : Path} (h : checkpointFiles current ⊆ touched) :
    (replaceCheckpoint current).Within (Disk.Touches touched) := by
  have hcurrent : current ∈ touched := h (by simp [checkpointFiles])
  have htemp : checkpointTemp ∈ touched := h (by simp [checkpointFiles])
  have hprevious : checkpointPrevious ∈ touched := h (by simp [checkpointFiles])
  have hnext : checkpointPreviousTemp ∈ touched := h (by simp [checkpointFiles])
  exact .bind (removeIfExists_touches hnext _) fun _ => .bind (openExisting_within .refl) fun _ =>
    .bind (copy_touches hnext _) fun _ => .bind (syncAll_within .refl) fun _ =>
    .bind (rename_touches hnext hprevious _) fun _ => rename_touches htemp hcurrent _

theorem commitCheckpoint_touches {current : Path} (h : checkpointFiles current ⊆ touched)
    (E : Env) (checkpoint : SessionStateV2) :
    (commitCheckpoint E current checkpoint).Within (Disk.Touches touched) :=
  .bind (writeCheckpointTemp_touches (h (by simp [checkpointFiles])) E checkpoint) fun _ =>
    .bind (replaceCheckpoint_touches h) fun _ => acknowledgeCheckpoint_touches E current checkpoint

theorem appendLines_touches {paths : ResolvedBundlePathsV2}
    (h : ∀ stream, paths.stream stream ∈ touched) (lines : List (LiveStreamV2 × Bytes)) :
    (appendLines paths lines).Within (Disk.Touches touched) := by
  unfold appendLines
  exact .forM (fun entry => appendLine_touches (h entry.1) entry.2) lines

theorem commitFiles_touches {paths : ResolvedBundlePathsV2}
    (hstreams : ∀ stream, paths.stream stream ∈ touched)
    (hcheckpoint : checkpointFiles paths.sessionState ⊆ touched) (E : Env) (plan : CommitPlan) :
    (commitFiles E paths plan).Within (Disk.Touches touched) :=
  .bind (appendLines_touches hstreams plan.lines) fun _ =>
    commitCheckpoint_touches hcheckpoint E plan.candidate.sessionState

theorem rollbackV3Streams_touches {paths : ResolvedBundlePathsV2}
    (h : ∀ stream, paths.stream stream ∈ touched) (baseline : SessionStateV2)
    (streams : List LiveStreamV2) :
    (rollbackV3Streams paths baseline streams).Within (Disk.Touches touched) :=
  .forM (fun stream => .bind (Prog.within_ofExcept _) fun _ =>
    truncateStream_touches (h stream) _) streams

theorem checkpointAdvanced_touches (E : Env) (current : Path) (baseline : SessionStateV2) :
    (checkpointAdvanced E current baseline).Within (Disk.Touches touched) := by
  refine .bind (.attempt (.readWith .refl)) fun result => ?_
  cases result <;> exact Prog.within_pure _

theorem openLock_touches (h : lockFile ∈ touched) (operation : String) :
    (openLock operation).Within (Disk.Touches touched) :=
  .bind Prog.within_get fun _ => .ite (.passive .refl)
    (.perform (fun disk => .put h [] disk) fun _ => .refl)

theorem truncateTail_touches {paths : ResolvedBundlePathsV2}
    (h : ∀ stream, paths.stream stream ∈ touched) (checkpoint : SessionStateV2)
    (stream : LiveStreamV2) :
    (truncateTail checkpoint paths stream).Within (Disk.Touches touched) :=
  .bind (Prog.within_ofExcept _) fun _ => truncateStream_touches (h stream) _

theorem truncateTails_touches {paths : ResolvedBundlePathsV2}
    (h : ∀ stream, paths.stream stream ∈ touched) (checkpoint : SessionStateV2) :
    (truncateTails checkpoint paths).Within (Disk.Touches touched) :=
  .bind (.forM (truncateTail_touches h checkpoint) _) fun _ => syncAll_within .refl

end

section

variable {E : Env} {profile : BundleResourceProfile} {error crash : FileSite → Bool}

/-- The attachment with this digest holds these bytes. -/
def Disk.HoldsAttachment (digest : String) (bytes : Bytes) (disk : Disk) : Prop :=
  disk.get (.attachment digest) = some bytes

/-- The files that are not attachments. -/
def plainFiles : Set Path := {path | path.isAttachment = false}

theorem root_mem_plainFiles (name : String) : Path.root name ∈ plainFiles := rfl

variable {digest : String} {bytes : Bytes}

theorem Disk.Touches.holdsAttachment {before after : Disk} (h : Touches plainFiles before after)
    (hbefore : before.HoldsAttachment digest bytes) : after.HoldsAttachment digest bytes :=
  (h.get (.attachment digest) (by simp [plainFiles, Path.isAttachment])).trans hbefore

/-- Files that are not attachments can change without disturbing one. -/
theorem keepsAttachment_of_touches {α : Type} {m : FileProg α}
    (h : m.Within (Disk.Touches plainFiles)) :
    Prog.Keeps (.masks error crash) (Disk.HoldsAttachment digest bytes) m :=
  h.keeps (fun _ _ ht hs => ht.holdsAttachment hs) fun _ _ _ ht hs => ht ▸ hs

theorem holdsAttachment_put {path : Path} (hpath : path ≠ .attachment digest) (content : Bytes)
    {disk : Disk} (h : disk.HoldsAttachment digest bytes) :
    (disk.put path content).HoldsAttachment digest bytes :=
  (Disk.get_put_ne (Ne.symm hpath) content disk).trans h

/-- A new attachment is written under a name that no attachment has. -/
theorem createAttachment_keeps {path : Path} (hpath : path ≠ .attachment digest)
    (content : Bytes) :
    Prog.Keeps (.masks error crash) (Disk.HoldsAttachment digest bytes)
      (createAttachment path content) := by
  have hremove : ∀ disk : Disk, disk.HoldsAttachment digest bytes →
      (disk.remove path).HoldsAttachment digest bytes := fun disk h =>
    (Disk.get_remove_ne (Ne.symm hpath) disk).trans h
  refine .bind (.perform ?_ fun _ _ h => h) fun _ => .bind (.attempt (.perform ?_ ?_))
    fun result => ?_
  · rintro disk _ h rfl
    exact holdsAttachment_put hpath [] h
  · rintro disk _ h rfl
    exact holdsAttachment_put hpath _ h
  · exact fun n disk h => holdsAttachment_put hpath _ h
  · cases result with
    | ok => exact Prog.keeps_pure _
    | error =>
      refine .bind (.attempt (.perform ?_ fun _ _ h => h)) fun _ => Prog.keeps_throw _
      rintro disk _ h rfl
      exact hremove disk h

theorem writeAttachment_keeps (content : Bytes) (mediaType : String)
    (sourceLocator : Option String) :
    Prog.Keeps (.masks error crash) (Disk.HoldsAttachment digest bytes)
      (writeAttachment E profile content mediaType sourceLocator) := by
  refine .bind (.readWith fun _ _ ht h => ht ▸ h) fun _ => .bind (.perform ?_ fun _ _ h => h)
    fun _ => ?_
  · rintro disk _ h rfl
    exact h
  intro disk h
  change Prog.wp _ _ (if disk.exists? (.attachment (E.sha256Hex content)) = true then _ else _) disk
  split_ifs with hexists
  · refine Prog.wp_bind_always (Prog.Keeps.bind (.readWith fun _ _ ht h => ht ▸ h) ?_ disk h)
      fun _ => Prog.keeps_pure _
    exact fun _ => .ite (Prog.keeps_pure _) (Prog.keeps_throw _)
  · have hpath : Path.attachment (E.sha256Hex content) ≠ .attachment digest := by
      intro heq
      rw [heq, Disk.exists?, h] at hexists
      exact hexists rfl
    exact Prog.wp_bind_always (createAttachment_keeps hpath content disk h)
      fun _ => Prog.keeps_pure _

/-- Storing an attachment disturbs no other. -/
theorem durableAttachment_keeps (content : Bytes) (mediaType : String)
    (sourceLocator : Option String) :
    Prog.Keeps (.masks error crash) (Disk.HoldsAttachment digest bytes)
      (durableAttachment E profile content mediaType sourceLocator) := by
  refine .bind (writeAttachment_keeps content mediaType sourceLocator) fun reference => ?_
  refine .ite (keepsAttachment_of_touches ?_) (Prog.keeps_throw _)
  exact .bind (openExisting_within .refl) fun _ => .bind (syncAll_within .refl) fun _ =>
    .bind (syncAll_within .refl) fun _ => .bind (syncAll_within .refl) fun _ => Prog.within_pure _

end

end AntennaBench
