import Mathlib.Data.List.TakeDrop
import AntennaBench.Scenario.Session
import AntennaBench.Storage.Frame

/-!
# Tails in recovery

Recovery cuts an uncommitted tail off its stream before it copies the tail to an
attachment. Interrupted in between, it loses the tail; so a tail survives every
sequence of interrupted recoveries exactly when its bytes were stored before the
first one.
-/

namespace AntennaBench

open FaultIO

namespace StreamTail

/-- The tail still follows the committed prefix of its stream. -/
def InStream (tail : StreamTail) (paths : ResolvedBundlePathsV2) (disk : Disk) : Prop :=
  tail.bytes <+: (disk.content (paths.stream tail.stream)).drop tail.committedOffset

/-- An attachment named by their digest holds the bytes of the tail. -/
def Stored (E : Env) (tail : StreamTail) (disk : Disk) : Prop :=
  disk.HoldsAttachment (E.sha256Hex tail.bytes) tail.bytes

end StreamTail

/-- The states a directory goes through when recovery is run on it again and again,
each run ending, failing or crashing anywhere. -/
inductive Recoveries (E : Env) (profile : BundleResourceProfile) (first : Writer) : Writer → Prop
  | start : Recoveries E profile first first
  | recover {w : Writer} (requested : Option RuntimeContextV6) (hooks : RecoveryHooks)
      {o : Outcome Writer LivePersistenceError RecoveryReportV2} :
      Recoveries E profile first w → Prog.Runs .all (recoverV3 E profile requested hooks) w o →
        Recoveries E profile first o.state

/-- The directory with the lock file recovery opens. -/
def Disk.locked (disk : Disk) : Disk :=
  if disk.exists? lockFile then disk else disk.put lockFile []

theorem Disk.touches_locked (disk : Disk) : Touches plainFiles disk disk.locked := by
  unfold locked
  split_ifs
  · exact .refl disk
  · exact .put (root_mem_plainFiles _) [] disk

theorem writerLens : Prog.Lens Writer.disk Writer.setDisk := ⟨fun _ _ => rfl, fun _ _ _ => rfl,
  fun _ => rfl⟩

section

variable {E : Env} {profile : BundleResourceProfile} {error crash : FileSite → Bool}

theorem onDisk_keeps {α : Type} {P : Disk → Prop} {Q : LiveSessionV3 → Prop} {m : FileProg α}
    (h : Prog.Keeps (.masks error crash) P m) :
    Prog.Keeps (.masks error crash) (fun w => P w.disk ∧ Q w.session) (onDisk m) := by
  intro w hw
  unfold onDisk
  rw [Prog.wp_zoom writerLens (Prog.zooms_masks error crash)]
  refine Prog.wp_mono ?_ ?_ ?_ (h w.disk hw.1)
  · exact fun _ disk hdisk => ⟨hdisk, hw.2⟩
  · exact fun _ disk hdisk => ⟨hdisk, hw.2⟩
  · exact fun disk hdisk => ⟨hdisk, hw.2⟩

variable {digest : String} {bytes : Bytes}

/-- The attachment is there, and the handle writes to plain files. -/
def Writer.Intact (digest : String) (bytes : Bytes) (w : Writer) : Prop :=
  w.disk.HoldsAttachment digest bytes ∧ w.session.paths.WellFormed

theorem ResolvedBundlePathsV2.WellFormed.stream_mem_plainFiles {paths : ResolvedBundlePathsV2}
    (h : paths.WellFormed) (stream : LiveStreamV2) : paths.stream stream ∈ plainFiles :=
  Path.isAttachment_of_isRoot (h.stream stream)

theorem ResolvedBundlePathsV2.WellFormed.checkpointFiles_subset {paths : ResolvedBundlePathsV2}
    (h : paths.WellFormed) : checkpointFiles paths.sessionState ⊆ plainFiles := by
  have hstate := Path.isAttachment_of_isRoot h.sessionState
  intro path hpath
  simp only [checkpointFiles, Set.mem_insert_iff, Set.mem_singleton_iff] at hpath
  rcases hpath with rfl | rfl | rfl | rfl
  · exact hstate
  all_goals rfl

theorem onDisk_keepsIntact {α : Type} {m : FileProg α}
    (h : m.Within (Disk.Touches plainFiles)) :
    Prog.Keeps (.masks error crash) (Writer.Intact digest bytes) (onDisk m) :=
  onDisk_keeps (Q := fun session => session.paths.WellFormed) (keepsAttachment_of_touches h)

theorem modifySession_keepsIntact {f : LiveSessionV3 → LiveSessionV3}
    (h : ∀ session, (f session).paths = session.paths) :
    Prog.Keeps (.masks error crash) (Writer.Intact digest bytes) (modifySession f) :=
  Prog.keeps_modify fun w hw => ⟨hw.1, (h w.session).symm ▸ hw.2⟩

theorem checkHandle_keepsIntact :
    Prog.Keeps (.masks error crash) (Writer.Intact digest bytes) (checkHandle E profile) := by
  have hread : ∀ {α : Type} (e : LivePersistenceError) (f : Disk → Except LivePersistenceError α),
      (Prog.readWith .read e f : FileProg α).Within (Disk.Touches plainFiles) :=
    fun _ _ => .readWith .refl
  have hfreeze : Prog.Keeps (.masks error crash) (Writer.Intact digest bytes) freeze :=
    modifySession_keepsIntact fun _ => rfl
  refine .bind Prog.keeps_get fun w => .ite (Prog.keeps_throw _) ?_
  refine .bind (onDisk_keepsIntact (hread _ _)) fun actual => .ite ?_ ?_
  · refine .bind (.attempt (onDisk_keepsIntact (hread _ _))) fun result => ?_
    cases result with
    | ok => exact Prog.keeps_pure _
    | error => exact .bind hfreeze fun _ => Prog.keeps_throw _
  · exact .bind hfreeze fun _ => Prog.keeps_throw _

theorem failCommit_keepsIntact (plan : CommitPlan) (e : LivePersistenceError) :
    Prog.Keeps (.masks error crash) (Writer.Intact digest bytes) (failCommit E profile plan e) := by
  intro w hw
  refine Prog.Keeps.bind (onDisk_keepsIntact (checkpointAdvanced_touches _ _ _))
    (fun advanced => ?_) w hw
  cases advanced with
  | true =>
    refine .bind (.bind (onDisk_keepsIntact (.readWith .refl)) fun _ => ?_) fun _ =>
      Prog.keeps_throw _
    exact modifySession_keepsIntact fun _ => rfl
  | false =>
    exact .bind (onDisk_keepsIntact (rollbackV3Streams_touches hw.2.stream_mem_plainFiles _ _))
      fun _ => Prog.keeps_throw _

theorem commitMutation_keepsIntact (plan : CommitPlan) :
    Prog.Keeps (.masks error crash) (Writer.Intact digest bytes)
      (commitMutation E profile plan) := by
  intro w hw
  have hfiles := commitFiles_touches hw.2.stream_mem_plainFiles hw.2.checkpointFiles_subset E plan
  refine Prog.Keeps.bind (.attempt (onDisk_keepsIntact hfiles)) (fun result => ?_) w hw
  cases result with
  | error e => exact failCommit_keepsIntact plan e
  | ok =>
    exact .bind (modifySession_keepsIntact fun _ => rfl) fun _ =>
      onDisk_keepsIntact (checkPoint_within .refl)

theorem decideAndExecute_keepsIntact {ρ : Type}
    {decision : LiveSessionV3 → FileProg (Decision ρ)}
    (h : ∀ session, (decision session).Within (Disk.Touches plainFiles)) :
    Prog.Keeps (.masks error crash) (Writer.Intact digest bytes)
      (decideAndExecute E profile decision) := by
  refine .bind Prog.keeps_get fun w => .bind (onDisk_keepsIntact (h _)) fun decided => ?_
  cases decided with
  | settled => exact Prog.keeps_pure _
  | commit plan => exact .bind (commitMutation_keepsIntact plan) fun _ => Prog.keeps_pure _

theorem appendEvent_keepsIntact (mutation : LiveEventMutationV3) (now : DateTime) :
    Prog.Keeps (.masks error crash) (Writer.Intact digest bytes)
      (appendEvent E profile mutation now) :=
  checkHandle_keepsIntact.bind fun _ => decideAndExecute_keepsIntact fun _ =>
    Prog.within_ofExcept _

theorem appendDiagnostic_keepsIntact (mutation : LiveDiagnosticMutationV6) (now : DateTime) :
    Prog.Keeps (.masks error crash) (Writer.Intact digest bytes)
      (appendDiagnostic E profile mutation now) :=
  decideAndExecute_keepsIntact fun _ => Prog.within_ofExcept _

theorem recordInterruption_keepsIntact (manifest : BundleManifestV2) (hooks : RecoveryHooks) :
    Prog.Keeps (.masks error crash) (Writer.Intact digest bytes)
      (recordInterruption E profile manifest hooks) :=
  .bind Prog.keeps_get fun _ => .ite
    (.bind (appendEvent_keepsIntact _ _) fun _ => Prog.keeps_pure _) (Prog.keeps_pure _)

theorem recordRecovery_keepsIntact (input : RecoveryInput) (hooks : RecoveryHooks)
    (artifactCount : ℕ) (disposition : RecoveryDispositionV2)
    (interruption : Option CommitReceiptV2) :
    Prog.Keeps (.masks error crash) (Writer.Intact digest bytes)
      (recordRecovery E profile input hooks artifactCount disposition interruption) := by
  refine .ite (.bind Prog.keeps_get fun _ => ?_) (Prog.keeps_pure _)
  refine .bind (.attempt (appendDiagnostic_keepsIntact _ _)) fun result => ?_
  cases result <;> exact Prog.keeps_pure _

theorem preserveBytes_keeps (metadata : AttachmentReference → RecoveryArtifactMetadataV2)
    (content : Bytes) (mediaType rawLocator metadataLocator : String) :
    Prog.Keeps (.masks error crash) (Disk.HoldsAttachment digest bytes)
      (preserveBytes E profile metadata content mediaType rawLocator metadataLocator) :=
  .bind (durableAttachment_keeps _ _ _) fun _ => .bind (durableAttachment_keeps _ _ _) fun _ =>
    Prog.keeps_pure _

theorem preserveTails_keeps (input : RecoveryInput) (sessionId : String) (at_ : DateTime) :
    Prog.Keeps (.masks error crash) (Disk.HoldsAttachment digest bytes)
      (preserveTails E profile input sessionId at_) :=
  .ite (.mapM (fun _ => preserveBytes_keeps _ _ _ _ _) _) (Prog.keeps_pure _)

theorem recoverCheckpointTemp_keeps (manifest : BundleManifestV2) (sessionId : String)
    (at_ : DateTime) :
    Prog.Keeps (.masks error crash) (Disk.HoldsAttachment digest bytes)
      (recoverCheckpointTemp E profile manifest sessionId at_) := by
  refine .bind Prog.keeps_get fun _ => .ite ?_ (Prog.keeps_pure _)
  refine .bind (.readWith fun _ _ ht h => ht ▸ h) fun content => .bind ?_ fun _ =>
    .bind (keepsAttachment_of_touches ?_) fun _ =>
    .bind (keepsAttachment_of_touches (syncAll_within .refl)) fun _ => Prog.keeps_pure _
  · exact .ite (.bind (preserveBytes_keeps _ _ _ _ _) fun _ => Prog.keeps_pure _)
      (Prog.keeps_pure _)
  · exact .perform (fun disk => .remove (root_mem_plainFiles _) disk) fun _ => .refl

theorem cutTails_touches {touched : Set Path} {input : RecoveryInput}
    (h : ∀ stream, input.paths.stream stream ∈ touched) :
    (cutTails input).Within (Disk.Touches touched) :=
  .ite (truncateTails_touches h _) (Prog.within_pure _)

/-- Restoring a session keeps an attachment, and the session has the resolved paths. -/
theorem wp_restoreSession {input : RecoveryInput} (hpaths : input.paths.WellFormed)
    (requested : Option RuntimeContextV6) (hooks : RecoveryHooks) {disk : Disk}
    (hdisk : disk.HoldsAttachment digest bytes) :
    Prog.wp (.masks error crash)
      ⟨fun recovered disk => disk.HoldsAttachment digest bytes ∧
          recovered.session.paths = input.paths,
        fun _ => Disk.HoldsAttachment digest bytes, Disk.HoldsAttachment digest bytes⟩
      (restoreSession E profile input requested hooks) disk := by
  have hread : ∀ {α : Type} (e : LivePersistenceError) (f : Disk → Except LivePersistenceError α),
      Prog.Keeps (.masks error crash) (Disk.HoldsAttachment digest bytes)
        (Prog.readWith .read e f : FileProg α) := fun _ _ => .readWith fun _ _ ht h => ht ▸ h
  have hcut : Prog.Keeps (.masks error crash) (Disk.HoldsAttachment digest bytes)
      (cutTails input) :=
    keepsAttachment_of_touches (cutTails_touches hpaths.stream_mem_plainFiles)
  unfold restoreSession
  refine hcut.wp_bind hdisk (fun _ disk hdisk => ?_) (fun _ _ h => h) fun _ h => h
  refine (hread _ _).wp_bind hdisk (fun bundle disk hdisk => ?_) (fun _ _ h => h) fun _ h => h
  refine (preserveTails_keeps input _ _).wp_bind hdisk (fun tails disk hdisk => ?_)
    (fun _ _ h => h) fun _ h => h
  refine (recoverCheckpointTemp_keeps input.manifest _ _).wp_bind hdisk
    (fun temporary disk hdisk => ?_) (fun _ _ h => h) fun _ h => h
  exact (hread _ _).wp_bind hdisk (fun _ disk hdisk => ⟨hdisk, rfl⟩) (fun _ _ h => h)
    fun _ h => h

theorem readRecoveryInput_eq_ok {requested : Option RuntimeContextV6} {disk : Disk}
    {input : RecoveryInput} (h : readRecoveryInput E profile requested disk = .ok input) :
    v2PathsForState input.manifest.files input.checkpoint disk = .ok input.paths ∧
      verifyCommittedPrefixes E profile input.checkpoint input.paths disk = .ok () ∧
      readStreamTails profile input.checkpoint input.paths disk = .ok input.tails := by
  simp only [readRecoveryInput, liftStore, bind_eq_ok, mapError_eq_ok, pure_eq_ok] at h
  obtain ⟨manifest, -, _, -, _, -, _, -, checkpoint, -, paths, hpaths, _, hverify, tails, htails,
    rfl⟩ := h
  exact ⟨hpaths, hverify, htails⟩

/-- A recovery, however it ends, leaves an attachment as it is. -/
theorem recoverV3_keeps (requested : Option RuntimeContextV6) (hooks : RecoveryHooks) :
    Prog.Keeps (.masks error crash) (fun w => w.disk.HoldsAttachment digest bytes)
      (recoverV3 E profile requested hooks) := by
  have hplain : ∀ {α : Type} {m : FileProg α}, m.Within (Disk.Touches plainFiles) →
      Prog.Keeps (.masks error crash) (fun w => w.disk.HoldsAttachment digest bytes)
        (onDisk m) := fun h =>
    (keepsAttachment_of_touches h).zoom writerLens (Prog.zooms_masks error crash)
  refine .bind (hplain (openLock_touches (root_mem_plainFiles _) _)) fun _ =>
    .bind (hplain (.passive Disk.Touches.refl)) fun _ => ?_
  rw [onDisk_readWith]
  refine Prog.keeps_readWith_bind (fun _ _ ht h => ht ▸ h) fun w input hw hinput => ?_
  have hpaths := v2PathsForState_wellFormed (readRecoveryInput_eq_ok hinput).1
  rw [Prog.wp_bind]
  unfold onDisk
  rw [Prog.wp_zoom writerLens (Prog.zooms_masks error crash)]
  refine Prog.wp_mono ?_ ?_ ?_ (wp_restoreSession hpaths requested hooks hw)
  rotate_left
  · exact fun _ _ h => h
  · exact fun _ h => h
  rintro recovered disk ⟨hdisk, hsession⟩
  have hintact : Writer.Intact digest bytes ⟨disk, recovered.session⟩ :=
    ⟨hdisk, hsession ▸ hpaths⟩
  refine Prog.wp_mono ?_ ?_ ?_
    (Prog.Keeps.bind (recordInterruption_keepsIntact _ _) (fun interruption => ?_) _ hintact)
  · exact fun _ _ h => h.1
  · exact fun _ _ h => h.1
  · exact fun _ h => h.1
  exact .bind (recordRecovery_keepsIntact _ _ _ _ _) fun _ => .bind Prog.keeps_get fun _ =>
    Prog.keeps_pure _

theorem Recoveries.holdsAttachment {first w : Writer} (h : Recoveries E profile first w)
    (hfirst : first.disk.HoldsAttachment digest bytes) : w.disk.HoldsAttachment digest bytes := by
  induction h with
  | start => exact hfirst
  | recover requested hooks _ hrun ih =>
    exact (recoverV3_keeps requested hooks).runs
      (P := fun w => w.disk.HoldsAttachment digest bytes) ih hrun

/-- The stream has a head in the checkpoint and a file on disk. -/
def HasTail (checkpoint : SessionStateV2) (paths : ResolvedBundlePathsV2) (disk : Disk)
    (stream : LiveStreamV2) : Prop :=
  (∃ head, streamCheckpoint checkpoint stream = .ok head) ∧
    disk.exists? (paths.stream stream) = true

theorem run_truncateTail {checkpoint : SessionStateV2} {paths : ResolvedBundlePathsV2}
    {disk : Disk} {stream : LiveStreamV2} {head : StreamCheckpointV2}
    (hhead : streamCheckpoint checkpoint stream = .ok head)
    (hfile : disk.exists? (paths.stream stream) = true) :
    Prog.run (truncateTail checkpoint paths stream) disk =
      .returned () (disk.put (paths.stream stream)
        ((disk.content (paths.stream stream)).takeD head.committedBytes 0)) := by
  change Prog.run (Prog.ofExcept (streamCheckpoint checkpoint stream) >>= fun head =>
    truncateStream _ (paths.stream stream) head.committedBytes) disk = _
  rw [hhead]
  change Prog.run ((if disk.exists? (paths.stream stream) = true then pure () else
    Prog.throw _) >>= fun _ => _) disk = _
  rw [if_pos hfile]
  rfl

theorem content_put (path other : Path) (bytes : Bytes) (disk : Disk) :
    (disk.put path bytes).content other = if other = path then bytes else disk.content other := by
  unfold Disk.content
  rw [Disk.get_put]
  split_ifs <;> rfl

theorem exists_put (path other : Path) (bytes : Bytes) (disk : Disk)
    (h : disk.exists? other = true) : (disk.put path bytes).exists? other = true := by
  unfold Disk.exists? at *
  rw [Disk.get_put]
  split_ifs
  · rfl
  · exact h

/-- Cutting the tails of streams with distinct files leaves each at its head. -/
theorem run_truncateTails {checkpoint : SessionStateV2} {paths : ResolvedBundlePathsV2}
    (streams : List LiveStreamV2) {disk : Disk} (hnodup : (streams.map paths.stream).Nodup)
    (hstreams : ∀ stream ∈ streams, HasTail checkpoint paths disk stream) :
    ∃ cut, Prog.run (streams.forM (truncateTail checkpoint paths)) disk = .returned () cut ∧
      (∀ path ∉ streams.map paths.stream, cut.content path = disk.content path) ∧
      ∀ stream ∈ streams, ∀ head, streamCheckpoint checkpoint stream = .ok head →
        (cut.content (paths.stream stream)).length = head.committedBytes := by
  induction streams generalizing disk with
  | nil => exact ⟨disk, rfl, fun _ _ => rfl, by simp⟩
  | cons first rest ih =>
    obtain ⟨⟨head, hhead⟩, hfile⟩ := hstreams first List.mem_cons_self
    obtain ⟨hfresh, hrest⟩ := List.nodup_cons.1 hnodup
    have hput : ∀ stream ∈ rest, HasTail checkpoint paths (disk.put (paths.stream first)
        ((disk.content (paths.stream first)).takeD head.committedBytes 0)) stream :=
      fun stream hstream => ⟨(hstreams stream (List.mem_cons_of_mem _ hstream)).1,
        exists_put _ _ _ _ (hstreams stream (List.mem_cons_of_mem _ hstream)).2⟩
    obtain ⟨cut, hrun, hother, hcut⟩ := ih hrest hput
    refine ⟨cut, ?_, fun path hpath => ?_, fun stream hstream h hh => ?_⟩
    · change Prog.run (truncateTail checkpoint paths first >>= fun _ => _) disk = _
      rw [Prog.run_bind_of (run_truncateTail hhead hfile)]
      exact hrun
    · rw [List.map_cons, List.mem_cons, not_or] at hpath
      rw [hother path hpath.2, content_put, if_neg hpath.1]
    · rcases List.mem_cons.1 hstream with rfl | hmem
      · cases hhead.symm.trans hh
        rw [hother _ hfresh, content_put, if_pos rfl, List.takeD_length]
      · exact hcut stream hmem h hh

theorem mem_ownStreams {checkpoint : SessionStateV2} {paths : ResolvedBundlePathsV2}
    {stream : LiveStreamV2} (h : stream ∈ recoveryStreams checkpoint paths) :
    stream ∈ paths.ownStreams := by
  rw [recoveryStreams, List.mem_append] at h
  rw [ResolvedBundlePathsV2.ownStreams, List.mem_append]
  rcases h with h | h
  · left
    revert h
    cases stream <;> decide
  · right
    simp only [List.mem_filter, Bool.and_eq_true] at h ⊢
    exact ⟨h.1, h.2.2⟩

theorem recoveryStreams_nodup {checkpoint : SessionStateV2} {paths : ResolvedBundlePathsV2}
    (h : paths.Unique) : ((recoveryStreams checkpoint paths).map paths.stream).Nodup := by
  refine List.Nodup.map_on (fun a ha b hb heq => h.stream_injective ?_ ?_ heq) ?_
  · exact mem_ownStreams ha
  · exact mem_ownStreams hb
  · apply List.Nodup.sublist (List.Sublist.append_left List.filter_sublist allStreams)
    decide

theorem run_openLock (operation : String) (disk : Disk) :
    Prog.run (openLock operation) disk = .returned () disk.locked := by
  change Prog.run (if disk.exists? lockFile = true then _ else _) disk = _
  unfold Disk.locked
  split_ifs <;> rfl

theorem run_onDisk {α : Type} {m : FileProg α} {w : Writer} {disk : Disk} {a : α}
    (h : Prog.run m w.disk = .returned a disk) :
    Prog.run (onDisk m) w = .returned a (w.setDisk disk) := by
  unfold onDisk
  rw [Prog.run_zoom writerLens, h]

/-- A part that leaves the directory as it is. -/
theorem run_onDisk_same {α : Type} {m : FileProg α} {w : Writer} {a : α}
    (h : Prog.run m w.disk = .returned a w.disk) : Prog.run (onDisk m) w = .returned a w :=
  run_onDisk h

/-- Every tail was read behind a head of the checkpoint. -/
theorem readStreamTails_eq_ok {checkpoint : SessionStateV2} {paths : ResolvedBundlePathsV2}
    {disk : Disk} {tails : List StreamTail}
    (h : readStreamTails profile checkpoint paths disk = .ok tails) :
    (∀ stream ∈ recoveryStreams checkpoint paths, HasTail checkpoint paths disk stream) ∧
      ∀ tail ∈ tails, tail.stream ∈ recoveryStreams checkpoint paths ∧
        ∃ head, streamCheckpoint checkpoint tail.stream = .ok head ∧
          tail.committedOffset = head.committedBytes := by
  have hread : ∀ {stream tail}, readStreamTail profile checkpoint paths disk stream = .ok tail →
      tail.stream = stream ∧ disk.exists? (paths.stream stream) = true ∧
        ∃ head, streamCheckpoint checkpoint stream = .ok head ∧
          tail.committedOffset = head.committedBytes := by
    intro stream tail htail
    simp only [readStreamTail, liftStore, readStreamBounded, bind_eq_ok, mapError_eq_ok,
      readBounded_eq_ok, pure_eq_ok] at htail
    obtain ⟨head, hhead, bytes, ⟨hget, -⟩, rfl⟩ := htail
    exact ⟨rfl, by simp [Disk.exists?, hget], head, hhead, rfl⟩
  refine ⟨fun stream hstream => ?_, fun tail htail => ?_⟩
  · obtain ⟨tail, -, htail⟩ := mapM_result h stream hstream
    obtain ⟨-, hfile, head, hhead, -⟩ := hread htail
    exact ⟨⟨head, hhead⟩, hfile⟩
  · obtain ⟨stream, hstream, htail⟩ := mapM_item h tail htail
    obtain ⟨rfl, -, hhead⟩ := hread htail
    exact ⟨hstream, hhead⟩

/-- What holds of every run of a recovery holds right after it cut the tails. -/
theorem wp_recoverV3_cut {requested : Option RuntimeContextV6} {hooks : RecoveryHooks}
    {P : Writer → Prop} {w : Writer} {input : RecoveryInput} {cut : Disk}
    (hinput : readRecoveryInput E profile requested w.disk.locked = .ok input)
    (hrun : Prog.run ((recoveryStreams input.checkpoint input.paths).forM
      (truncateTail input.checkpoint input.paths)) w.disk.locked = .returned () cut)
    (hcut : input.hasTails = true)
    (h : Prog.wp .all (.always P) (recoverV3 E profile requested hooks) w) : P (w.setDisk cut) := by
  have hafter : ∀ (site : FileSite) (w : Writer), FaultModel.all.after site w w := fun _ _ => rfl
  have hcutTails : cutTails input = truncateTails input.checkpoint input.paths := if_pos hcut
  have hlocked := Prog.wp_bind_returned hafter h (run_onDisk (run_openLock _ _))
  have hprobed := Prog.wp_bind_returned hafter hlocked (run_onDisk_same (Prog.run_perform _ _ _))
  have hread := Prog.wp_bind_returned hafter hprobed (run_onDisk_same (Prog.run_readWith hinput))
  rw [Prog.wp_bind] at hread
  have hzoom := (Prog.wp_zoom writerLens (Prog.zooms_masks _ _) _ _ _).1 hread
  unfold restoreSession at hzoom
  rw [Prog.wp_bind, hcutTails] at hzoom
  have hsync := Prog.wp_bind_returned (fun _ _ => rfl) hzoom hrun
  exact ((Prog.wp_perform _ _ _ _).1 hsync).2.2 rfl 0

/-- A tail that is not stored is lost to a crash right after the cut. -/
theorem exists_recovery_losing_tail {w : Writer} {requested : Option RuntimeContextV6}
    {input : RecoveryInput}
    (hinput : readRecoveryInput E profile requested w.disk.locked = .ok input) {tail : StreamTail}
    (htail : tail ∈ input.torn) (hstored : ¬tail.Stored E w.disk) :
    ∃ w', Recoveries E profile w w' ∧
      ¬(tail.InStream input.paths w'.disk ∨ tail.Stored E w'.disk) := by
  obtain ⟨hmem, hbytes⟩ := List.mem_filter.1 htail
  obtain ⟨hpaths, -, htails⟩ := readRecoveryInput_eq_ok hinput
  have hwell := v2PathsForState_wellFormed hpaths
  obtain ⟨hfiles, hheads⟩ := readStreamTails_eq_ok htails
  obtain ⟨hstream, head, hhead, hoffset⟩ := hheads tail hmem
  obtain ⟨cut, hrun, -, hcut⟩ := run_truncateTails _ (recoveryStreams_nodup hwell.unique) hfiles
  have hnotIn : ¬tail.InStream input.paths cut := by
    intro hin
    have hdrop : (cut.content (input.paths.stream tail.stream)).drop tail.committedOffset = [] :=
      List.drop_eq_nil_of_le (by rw [hcut _ hstream _ hhead, hoffset])
    rw [StreamTail.InStream, hdrop, List.prefix_nil] at hin
    simp [hin] at hbytes
  have hcutTouches := (Prog.Within.forM (truncateTail_touches hwell.stream_mem_plainFiles
    input.checkpoint) (recoveryStreams input.checkpoint input.paths)).run Disk.Touches.refl
    Disk.Touches.trans w.disk.locked
  rw [hrun] at hcutTouches
  have htouches := w.disk.touches_locked.trans hcutTouches
  by_contra hnone
  let hooks : RecoveryHooks := ⟨id, 0, 0, 0, 0, 0, 0⟩
  have hwp : Prog.wp .all (.always fun w' => tail.InStream input.paths w'.disk ∨
      tail.Stored E w'.disk) (recoverV3 E profile requested hooks) w := by
    refine Prog.wp_complete fun o ho => Post.holds_always.2 ?_
    by_contra hlost
    exact hnone ⟨_, .recover requested hooks .start ho, hlost⟩
  rcases wp_recoverV3_cut hinput hrun (List.any_eq_true.2 ⟨tail, hmem, hbytes⟩) hwp with h | h
  · exact hnotIn h
  · exact hstored (htouches.symm.holdsAttachment h)

/-- Over all sequences of interrupted recoveries every tail stays in its stream or
stored, exactly when every tail was stored before the first. -/
theorem recoveries_keepTails_iff {w : Writer} {requested : Option RuntimeContextV6}
    {input : RecoveryInput}
    (hinput : readRecoveryInput E profile requested w.disk.locked = .ok input) :
    (∀ w', Recoveries E profile w w' → ∀ tail ∈ input.torn,
        tail.InStream input.paths w'.disk ∨ tail.Stored E w'.disk) ↔
      ∀ tail ∈ input.torn, tail.Stored E w.disk := by
  constructor
  · intro hkept tail htail
    by_contra hstored
    obtain ⟨w', hw', hlost⟩ := exists_recovery_losing_tail hinput htail hstored
    exact hlost (hkept w' hw' tail htail)
  · intro hstored w' hw' tail htail
    exact .inr (hw'.holdsAttachment (hstored tail htail))

end

namespace Scenario

/-- The first bytes of an event line the writer did not finish. -/
def tornTail : StreamTail := ⟨.events, 0, stringBytes "\x7b\"meta\":"⟩

def tornDisk : Disk := disk.put (.root "events.jsonl") tornTail.bytes

def tornSha256 : String :=
  "37a481d848748ddf" ++ "8da0fa1771e197ca" ++ "a8ac332222df7ccc" ++ "0317842dbb1d187f"

def tornEnv : Env := env {
  sessionStates := []
  events := []
  diagnostics := []
  digests := [(tornTail.bytes, tornSha256)] }

def tornHooks : RecoveryHooks := ⟨id, noon 90, noon 90, noon 90, noon 90, noon 90, noon 90⟩

/-- Recovery up to the barrier that follows its last truncation. -/
def crashAfterCut : Outcome Writer LivePersistenceError RecoveryReportV2 :=
  Prog.exec (fun _ => true) (fun _ => true) (List.replicate 24 .none ++ [.crash 0])
    (recoverV3 tornEnv localStandardV1 none tornHooks) ⟨tornDisk, session⟩

def losesTornTail (input : RecoveryInput) : Bool :=
  input.torn == [tornTail] && input.paths == session.paths &&
    crashAfterCut.state.disk.content (.root "events.jsonl") == [] &&
    crashAfterCut.state.disk.attachments == []

theorem read_losesTornTail :
    ((readRecoveryInput tornEnv localStandardV1 none tornDisk.locked).toOption.any
      losesTornTail) = true := by
  decide +kernel

/-- The recovery of a verified directory with a torn event loses the bytes of the event. -/
theorem recovery_loses_torn_event :
    ∃ input, readRecoveryInput tornEnv localStandardV1 none tornDisk.locked = .ok input ∧
      tornTail ∈ input.torn ∧
      ¬∀ w', Recoveries tornEnv localStandardV1 ⟨tornDisk, session⟩ w' →
        tornTail.InStream input.paths w'.disk ∨ tornTail.Stored tornEnv w'.disk := by
  obtain ⟨input, hinput, hloses⟩ := exists_ok_of_any read_losesTornTail
  simp only [losesTornTail, Bool.and_eq_true, beq_iff_eq] at hloses
  obtain ⟨⟨⟨htorn, hpaths⟩, hcontent⟩, hattachments⟩ := hloses
  refine ⟨input, hinput, by simp [htorn], fun hkept => ?_⟩
  have hreach : Recoveries tornEnv localStandardV1 ⟨tornDisk, session⟩ crashAfterCut.state :=
    .recover none tornHooks .start (Prog.exec_runs .all (fun _ _ => rfl) _ _ _)
  rcases hkept _ hreach with hin | hstored
  · rw [StreamTail.InStream, hpaths] at hin
    change tornTail.bytes <+: (crashAfterCut.state.disk.content
      (.root "events.jsonl")).drop 0 at hin
    rw [hcontent] at hin
    exact absurd (List.prefix_nil.1 hin) (by decide)
  · have hmem := Disk.mem_attachments hstored
    rw [hattachments] at hmem
    exact List.not_mem_nil hmem

/-- On the torn directory the tail survives exactly when it was stored before. -/
theorem recoveries_keep_torn_event_iff :
    ∃ input, readRecoveryInput tornEnv localStandardV1 none tornDisk.locked = .ok input ∧
      ((∀ w', Recoveries tornEnv localStandardV1 ⟨tornDisk, session⟩ w' → ∀ tail ∈ input.torn,
          tail.InStream input.paths w'.disk ∨ tail.Stored tornEnv w'.disk) ↔
        ∀ tail ∈ input.torn, tail.Stored tornEnv tornDisk) := by
  obtain ⟨input, hinput, -⟩ := exists_ok_of_any read_losesTornTail
  exact ⟨input, hinput, recoveries_keepTails_iff (w := ⟨tornDisk, session⟩) hinput⟩

end Scenario

end AntennaBench
