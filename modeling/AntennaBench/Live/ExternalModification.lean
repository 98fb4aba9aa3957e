import AntennaBench.FaultIO.Returns
import AntennaBench.Scenario.Session

/-!
# External modification

Histories of a writer: its operations, with any faults, interleaved with edits
another process makes between them and during them. Three operations notice
that the directory is no longer the one the handle remembers before they touch
a file. `append_diagnostic` does not look, so a history respects foreign edits
exactly as far as its diagnostics do.
-/

namespace AntennaBench

open FaultIO

namespace Writer

/-- The checkpoint file is missing or does not hold the checkpoint of the handle. -/
def CheckpointDiffers (E : Env) (writer : Writer) : Prop :=
  ∀ bytes, writer.disk.get writer.session.paths.sessionState = some bytes →
    E.sessionState.fromSlice bytes ≠ some writer.session.bundle.sessionState

/-- The streams a handle has files for. -/
def liveStreams (writer : Writer) : List LiveStreamV2 :=
  allStreams ++ operationalStreams.filter fun stream =>
    (writer.session.paths.operational? stream).isSome

def StreamDiffers (E : Env) (writer : Writer) (stream : LiveStreamV2) : Prop :=
  ∃ head, writer.session.bundle.sessionState.streams.lookup stream.checkpointName = some head ∧
    ∀ bytes, writer.disk.get (writer.session.paths.stream stream) = some bytes →
      bytes.length ≠ head.committedBytes ∨ E.sha256Hex bytes ≠ head.committedSha256

def PlanFileDiffers (E : Env) (writer : Writer) (entry : String × Path × String) : Prop :=
  ∀ bytes, writer.disk.get entry.2.1 = some bytes → E.sha256Hex bytes ≠ entry.2.2

/-- The length or the digest of a stream, or the digest of a plan file, is not
the one the handle remembers. -/
def FilesDiffer (E : Env) (writer : Writer) : Prop :=
  (∃ stream ∈ writer.liveStreams, writer.StreamDiffers E stream) ∨
    ∃ entry ∈ planDigests writer.session.bundle.sessionState writer.session.paths,
      writer.PlanFileDiffers E entry

def Differs (E : Env) (writer : Writer) : Prop :=
  writer.CheckpointDiffers E ∨ writer.FilesDiffer E

end Writer

section

variable {E : Env} {profile : BundleResourceProfile} {writer : Writer}

theorem Writer.CheckpointDiffers.readState_ne (h : writer.CheckpointDiffers E) :
    readState E writer.session.paths.sessionState writer.disk ≠
      .ok writer.session.bundle.sessionState := by
  intro hread
  obtain ⟨bytes, hget, -, hparse⟩ := readState_eq_ok.1 hread
  exact h bytes hget hparse

theorem Writer.FilesDiffer.verify_ne (h : writer.FilesDiffer E) :
    verifyExactCheckpoint E profile writer.session.bundle.sessionState writer.session.paths
      writer.disk ≠ .ok () := by
  intro hverify
  obtain ⟨hevidence, hoperational, hplan⟩ := verifyExactCheckpoint_eq_ok.1 hverify
  rcases h with ⟨stream, hstream, head, hhead, hdiffers⟩ | ⟨entry, hentry, hdiffers⟩
  · have hmatches : ∃ head bytes,
        writer.session.bundle.sessionState.streams.lookup stream.checkpointName = some head ∧
          writer.disk.get (writer.session.paths.stream stream) = some bytes ∧
          bytes.length = head.committedBytes ∧ E.sha256Hex bytes = head.committedSha256 := by
      rcases List.mem_append.1 hstream with hstream | hstream
      · exact verifyExactStream_matches (hevidence stream hstream)
      · obtain ⟨hmem, hsome⟩ := List.mem_filter.1 hstream
        exact verifyOperationalStream_matches hsome (hoperational stream hmem)
    obtain ⟨head', bytes, hhead', hget, hlength, hsha⟩ := hmatches
    cases hhead.symm.trans hhead'
    rcases hdiffers bytes hget with h | h
    · exact h hlength
    · exact h hsha
  · obtain ⟨bytes, hget, hsha⟩ := verifyPlanFile_matches (hplan entry hentry)
    exact hdiffers bytes hget hsha

end

/-- The file keeps its content when the effect completes and when it is torn. -/
def SparesFile (path : Path) (effect : Effect FileSite Writer) (writer : Writer) : Prop :=
  (effect.full writer).disk.get path = writer.disk.get path ∧
    ∀ n, (effect.torn n writer).disk.get path = writer.disk.get path

/-- The effect neither replaces the checkpoint nor changes a stream. -/
def SparesSession (paths : ResolvedBundlePathsV2) (effect : Effect FileSite Writer)
    (writer : Writer) : Prop :=
  SparesFile paths.sessionState effect writer ∧
    ∀ stream, SparesFile (paths.stream stream) effect writer

/-- The effect changes no file. -/
def SparesDisk (effect : Effect FileSite Writer) (writer : Writer) : Prop :=
  (effect.full writer).disk = writer.disk ∧ ∀ n, (effect.torn n writer).disk = writer.disk

theorem SparesDisk.session {paths : ResolvedBundlePathsV2} {effect : Effect FileSite Writer}
    {writer : Writer} (h : SparesDisk effect writer) : SparesSession paths effect writer := by
  have hspares : ∀ path, SparesFile path effect writer := fun path =>
    ⟨by rw [h.1], fun n => by rw [h.2 n]⟩
  exact ⟨hspares _, fun stream => hspares _⟩

/-- Interference that leaves the handle alone and does not bring back what it
remembers while an operation runs. -/
structure ForeignEdits (E : Env) (M : FaultModel FileSite Writer) : Prop where
  session : ∀ site w w', M.after site w w' → w'.session = w.session
  checkpoint : ∀ site w w', M.after site w w' → w.CheckpointDiffers E → w'.CheckpointDiffers E
  files : ∀ site w w', M.after site w w' → w.FilesDiffer E → w'.FilesDiffer E

/-- The operations of a handle, with the time each of them reads. -/
inductive Operation where
  | event (mutation : LiveEventMutationV3) (now : DateTime)
  | evidence (mutation : LiveEvidenceMutationV3) (now : DateTime)
  | evidenceWithAttachment (bytes : Bytes) (mediaType : String)
      (encoding container sourceLocator : Option String)
      (buildMutation : AttachmentReference → LiveEvidenceMutationV3) (now : DateTime)
  | antennaControl (mutation : LiveAntennaControlMutationV5) (now : DateTime)
  | diagnostic (mutation : LiveDiagnosticMutationV6) (now : DateTime)

section

variable (E : Env) (profile : BundleResourceProfile)

def Operation.program : Operation → WriterProg Unit
  | event mutation now => do let _ ← appendEvent E profile mutation now
  | evidence mutation now => do let _ ← appendEvidence E profile mutation now
  | evidenceWithAttachment bytes mediaType encoding container sourceLocator buildMutation now => do
    let _ ← appendEvidenceWithAttachment E profile bytes mediaType encoding container
      sourceLocator buildMutation now
  | antennaControl mutation now => do let _ ← appendAntennaControl E profile mutation now
  | diagnostic mutation now => do let _ ← appendDiagnostic E profile mutation now

/-- What the operation may do to a directory that differs, and under a frozen
handle. -/
def RespectsModification (M : FaultModel FileSite Writer) (start : Writer)
    (operation : Operation) : Prop :=
  (start.Differs E → ∀ effect t, Prog.Performs M (operation.program E profile) start effect t →
      SparesSession start.session.paths effect t) ∧
    (start.session.frozen = true → ∀ effect t,
      Prog.Performs M (operation.program E profile) start effect t → SparesDisk effect t)

/-- A run of one handle from a state: the operations it started so far, each with
the state it started in. Between two operations the directory may become any other. -/
inductive History (M : FaultModel FileSite Writer) (first : Writer) :
    List (Writer × Operation) → Writer → Prop
  | start : History M first [] first
  | edit {operations : List (Writer × Operation)} {w : Writer} (disk : Disk) :
      History M first operations w → History M first operations (w.setDisk disk)
  | operation {operations : List (Writer × Operation)} {w : Writer} (op : Operation)
      {o : Outcome Writer LivePersistenceError Unit} :
      History M first operations w → Prog.Runs M (op.program E profile) w o →
        History M first (operations ++ [(w, op)]) o.state

/-- A diagnostic that is committed starts under a live handle, on the directory
the handle remembers. -/
def DiagnosticUnmodified (start : Writer) : Operation → Prop
  | .diagnostic mutation now =>
    DiagnosticCommits E profile start.session mutation now →
      start.session.frozen = false ∧ ¬start.Differs E
  | _ => True

end

section

variable {E : Env} {profile : BundleResourceProfile} {M : FaultModel FileSite Writer}
  {G : Effect FileSite Writer → Writer → Prop}

theorem sparesDisk_passive (site : FileSite) (w : Writer) : SparesDisk (Prog.passive site) w :=
  ⟨rfl, fun _ => rfl⟩

theorem checkHandle_eq : checkHandle E profile = Prog.look fun w =>
    if w.session.frozen then Prog.throw frozenError else verifySnapshot E profile w.session := rfl

theorem guar_verifySnapshot (hpassive : ∀ w, G (Prog.passive .read) w) (session : LiveSessionV3)
    (w : Writer) : Prog.guar M G (verifySnapshot E profile session) w := by
  unfold verifySnapshot
  dsimp only
  rw [onDisk_readWith]
  apply Prog.guar_bind_of (Prog.guar_readWith (hpassive _))
  intro actual w₁
  split_ifs with hactual
  · rw [onDisk_readWith]
    refine Prog.guar_bind_of ?_ fun result w₂ => ?_
    · rw [Prog.guar_attempt]
      exact Prog.guar_readWith (hpassive _)
    · cases result
      · exact Prog.guar_bind_of trivial fun _ _ => trivial
      · trivial
  · exact Prog.guar_bind_of trivial fun _ _ => trivial

theorem guar_checkHandle (hpassive : ∀ w, G (Prog.passive .read) w) (w : Writer) :
    Prog.guar M G (checkHandle E profile) w := by
  rw [checkHandle_eq]
  change Prog.guar M G (if w.session.frozen = true then _ else _) w
  split_ifs
  · trivial
  · exact guar_verifySnapshot hpassive w.session w

theorem wp_verifySnapshot_of_differs (hM : ForeignEdits E M) {w : Writer} (hw : w.Differs E) :
    Prog.wp M ⟨fun _ _ => False, fun _ _ => True, fun _ => True⟩
      (verifySnapshot E profile w.session) w := by
  unfold verifySnapshot
  dsimp only
  rw [onDisk_readWith, Prog.wp_bind, Prog.wp_readWith]
  refine ⟨fun w₁ h₁ => ⟨fun actual hactual => ?_, fun _ _ => trivial⟩, fun _ => trivial,
    fun _ => trivial⟩
  dsimp only
  split_ifs with hsame
  · have hfiles : w.FilesDiffer E := by
      apply hw.resolve_left
      intro hcheckpoint
      refine (hM.checkpoint _ _ _ h₁ hcheckpoint).readState_ne ?_
      rw [hM.session _ _ _ h₁, hactual, hsame]
    rw [onDisk_readWith, Prog.wp_bind, Prog.wp_attempt, Prog.wp_readWith]
    refine ⟨fun w₂ h₂ => ⟨fun _ hverify => ?_, fun _ _ => trivial⟩, fun _ => trivial,
      fun _ => trivial⟩
    have hdiffer := hM.files _ _ _ h₂ (hM.files _ _ _ h₁ hfiles)
    have hsession := (hM.session _ _ _ h₂).trans (hM.session _ _ _ h₁)
    rw [hsame, ← hsession] at hverify
    exact hdiffer.verify_ne hverify
  · trivial

/-- No operation gets past the check of its handle on a directory that differs. -/
theorem wp_checkHandle_of_differs (hM : ForeignEdits E M) {w : Writer} (hw : w.Differs E) :
    Prog.wp M ⟨fun _ _ => False, fun _ _ => True, fun _ => True⟩ (checkHandle E profile) w := by
  rw [checkHandle_eq]
  change Prog.wp M _ (if w.session.frozen = true then _ else _) w
  split_ifs
  · trivial
  · exact wp_verifySnapshot_of_differs hM hw

theorem guar_admitted {α : Type} {rest : Unit → WriterProg α}
    (hpassive : ∀ w, G (Prog.passive .read) w) (hM : ForeignEdits E M) {w : Writer}
    (hw : w.Differs E) : Prog.guar M G (checkHandle E profile >>= rest) w :=
  Prog.guar_bind_of_stops (guar_checkHandle hpassive w) (wp_checkHandle_of_differs hM hw)

theorem guar_admitted_of_frozen {α : Type} {rest : Unit → WriterProg α} {w : Writer}
    (hw : w.session.frozen = true) : Prog.guar M G (checkHandle E profile >>= rest) w := by
  rw [checkHandle_eq]
  change Prog.guar M G ((if w.session.frozen = true then _ else _) >>= rest) w
  rw [if_pos hw]
  trivial

/-- The handle and every file but the attachments stay. -/
structure Writer.OnlyAttachments (w w' : Writer) : Prop where
  session : w'.session = w.session
  disk : w.disk.OnlyAttachments w'.disk

theorem onDisk_onlyAttachments {α : Type} {m : FileProg α}
    (h : m.Within Disk.OnlyAttachments) : (onDisk m).Within Writer.OnlyAttachments :=
  h.zoom fun _ _ hdisk => ⟨rfl, hdisk⟩

theorem Writer.OnlyAttachments.sparesSession {w w' : Writer} (h : w.OnlyAttachments w')
    {paths : ResolvedBundlePathsV2} (hpaths : paths.WellFormed) :
    w'.disk.get paths.sessionState = w.disk.get paths.sessionState ∧
      ∀ stream, w'.disk.get (paths.stream stream) = w.disk.get (paths.stream stream) :=
  ⟨h.disk.get (Path.isAttachment_of_isRoot hpaths.sessionState),
    fun stream => h.disk.get (Path.isAttachment_of_isRoot (hpaths.stream stream))⟩

theorem Writer.OnlyAttachments.differs {w w' : Writer} (h : w.OnlyAttachments w')
    (hpaths : w.session.paths.WellFormed) (hw : w.Differs E) : w'.Differs E := by
  have hsession := h.session
  rcases hw with hcheckpoint | ⟨stream, hstream, head, hhead, hdiffers⟩ | ⟨entry, hentry, hdiffers⟩
  · refine .inl fun bytes hget => ?_
    rw [hsession] at hget ⊢
    rw [(h.sparesSession hpaths).1] at hget
    exact hcheckpoint bytes hget
  · refine .inr (.inl ⟨stream, ?_, head, ?_, fun bytes hget => ?_⟩)
    · rwa [Writer.liveStreams, hsession]
    · rwa [hsession]
    · rw [hsession, (h.sparesSession hpaths).2 stream] at hget
      exact hdiffers bytes hget
  · refine .inr (.inr ⟨entry, ?_, fun bytes hget => ?_⟩)
    · rwa [hsession]
    · have hplan : entry.2.1.isAttachment = false := by
        apply hpaths.plan (entry.1, entry.2.1)
        simp only [planDigests, List.mem_cons, List.not_mem_nil, or_false] at hentry
        rcases hentry with rfl | rfl | rfl <;> simp [ResolvedBundlePathsV2.planFiles]
      rw [h.disk.get hplan] at hget
      exact hdiffers bytes hget

theorem discardAttachment_within (digest : String) :
    (discardAttachment (.attachment digest)).Within Disk.OnlyAttachments := by
  refine .bind (.bind Prog.within_get fun _ => .ite ?_ (Prog.within_pure _)) fun _ => ?_
  · exact .perform (fun disk => .remove rfl disk) fun _ => .refl
  · exact .bind (syncAll_within .refl) fun _ => syncAll_within .refl

/-- An effect that changes attachments only spares the session. -/
theorem guar_sparesSession {α : Type} {m : FileProg α} {paths : ResolvedBundlePathsV2}
    (hpaths : paths.WellFormed) (h : m.Within Disk.OnlyAttachments) (w : Writer) :
    Prog.guar M (SparesSession paths) (onDisk m) w := by
  refine Prog.guar_mono (fun effect t ht => ?_) ((onDisk_onlyAttachments h).guar w)
  have hfull := ht.1.sparesSession hpaths
  have htorn := fun n => (ht.2 n).sparesSession hpaths
  exact ⟨⟨hfull.1, fun n => (htorn n).1⟩, fun stream =>
    ⟨hfull.2 stream, fun n => (htorn n).2 stream⟩⟩

/-- The handle stays, and so does a difference from it. -/
def StillDiffers (E : Env) (w w' : Writer) : Prop :=
  w'.session = w.session ∧ (w.session.paths.WellFormed → w.Differs E → w'.Differs E)

theorem StillDiffers.trans {a b c : Writer} (hab : StillDiffers E a b) (hbc : StillDiffers E b c) :
    StillDiffers E a c :=
  ⟨hbc.1.trans hab.1, fun hpaths ha => hbc.2 (hab.1 ▸ hpaths) (hab.2 hpaths ha)⟩

theorem ForeignEdits.stillDiffers (hM : ForeignEdits E M) {site : FileSite} {w w' : Writer}
    (h : M.after site w w') : StillDiffers E w w' :=
  ⟨hM.session _ _ _ h, fun _ hw => hw.imp (hM.checkpoint _ _ _ h) (hM.files _ _ _ h)⟩

theorem guar_evidenceWithAttachment (hM : ForeignEdits E M) {bytes : Bytes} {mediaType : String}
    {encoding container sourceLocator : Option String}
    {buildMutation : AttachmentReference → LiveEvidenceMutationV3} {now : DateTime} {w : Writer}
    (hpaths : w.session.paths.WellFormed) (hw : w.Differs E) :
    Prog.guar M (SparesSession w.session.paths)
      (appendEvidenceWithAttachment E profile bytes mediaType encoding container sourceLocator
        buildMutation now) w := by
  have hdurable := @durableAttachment_within E profile bytes mediaType sourceLocator
  unfold appendEvidenceWithAttachment
  refine (Prog.guar_bind _ _ _).2 ⟨trivial, ?_⟩
  simp only [Prog.wp_get]
  split_ifs
  · trivial
  refine (Prog.guar_bind _ _ _).2 ⟨guar_sparesSession hpaths hdurable w, ?_⟩
  apply Prog.wp_complete
  intro o ho
  have hstill : StillDiffers E w o.state :=
    ((onDisk_onlyAttachments hdurable).mono fun _ _ h => ⟨h.session, h.differs⟩).runs
      (fun _ => ⟨rfl, fun _ h => h⟩) (fun hab hbc => hab.trans hbc)
      (fun _ _ _ h => hM.stillDiffers h) ho
  cases o with
  | failed | crashed => trivial
  | returned reference w₁ =>
    refine Prog.guar_bind_of ?_ fun result w₂ => ?_
    · rw [Prog.guar_attempt]
      exact guar_admitted (fun w => (sparesDisk_passive .read w).session) hM
        (hstill.2 hpaths hw)
    · cases result with
      | ok => trivial
      | error =>
        refine Prog.guar_bind_of trivial fun w₃ w₄ => ?_
        split_ifs
        · refine Prog.guar_bind_of ?_ fun _ _ => trivial
          exact guar_sparesSession hpaths (discardAttachment_within _) w₄
        · trivial

theorem guar_discard {α : Type} {m : WriterProg α} {w : Writer} (h : Prog.guar M G m w) :
    Prog.guar M G (do let _ ← m) w :=
  Prog.guar_bind_of h fun _ _ => trivial

/-- A diagnostic that is not committed performs nothing. -/
theorem guar_diagnostic {mutation : LiveDiagnosticMutationV6} {now : DateTime} {w : Writer}
    (h : ¬DiagnosticCommits E profile w.session mutation now) :
    Prog.guar M G (appendDiagnostic E profile mutation now) w := by
  change Prog.guar M G (onDisk (Prog.ofExcept (planDiagnostic E profile w.session mutation now))
    >>= fun decided => execute E profile decided) w
  cases hplan : planDiagnostic E profile w.session mutation now with
  | error => trivial
  | ok decision =>
    cases decision with
    | settled receipt => trivial
    | commit plan receipt => exact (h ⟨plan, receipt, hplan⟩).elim

/-- On a directory that differs an operation spares the checkpoint and the
streams, unless it is a diagnostic that is committed. -/
theorem Operation.guar_of_differs (hM : ForeignEdits E M) {w : Writer}
    (hpaths : w.session.paths.WellFormed) (hw : w.Differs E) (op : Operation)
    (hop : DiagnosticUnmodified E profile w op) :
    Prog.guar M (SparesSession w.session.paths) (op.program E profile) w := by
  have hpassive : ∀ w', SparesSession w.session.paths (Prog.passive .read) w' := fun w' =>
    (sparesDisk_passive .read w').session
  cases op with
  | event | evidence | antennaControl => exact guar_discard (guar_admitted hpassive hM hw)
  | evidenceWithAttachment => exact guar_discard (guar_evidenceWithAttachment hM hpaths hw)
  | diagnostic mutation now =>
    exact guar_discard (guar_diagnostic fun hcommits => (hop hcommits).2 hw)

/-- Under a frozen handle an operation performs nothing, unless it is a diagnostic
that is committed. -/
theorem Operation.guar_of_frozen {w : Writer} (hw : w.session.frozen = true) (op : Operation)
    (hop : DiagnosticUnmodified E profile w op) : Prog.guar M G (op.program E profile) w := by
  cases op with
  | event | evidence | antennaControl => exact guar_discard (guar_admitted_of_frozen hw)
  | evidenceWithAttachment bytes mediaType encoding container sourceLocator buildMutation now =>
    apply guar_discard
    unfold appendEvidenceWithAttachment
    refine (Prog.guar_bind _ _ _).2 ⟨trivial, ?_⟩
    simp only [Prog.wp_get, hw, if_true]
    trivial
  | diagnostic mutation now =>
    refine guar_discard (guar_diagnostic fun hcommits => ?_)
    rw [(hop hcommits).1] at hw
    cases hw

def SamePaths (w w' : Writer) : Prop := w'.session.paths = w.session.paths

theorem SamePaths.refl (w : Writer) : SamePaths w w := rfl

theorem SamePaths.trans {a b c : Writer} (hab : SamePaths a b) (hbc : SamePaths b c) :
    SamePaths a c :=
  Eq.trans hbc hab

theorem onDisk_samePaths {α : Type} (m : FileProg α) : (onDisk m).Within SamePaths := by
  refine Prog.Within.zoom (fun w disk _ => ?_) (Prog.within_true m)
  rfl

theorem modifySession_samePaths {f : LiveSessionV3 → LiveSessionV3}
    (h : ∀ session, (f session).paths = session.paths) : (modifySession f).Within SamePaths :=
  Prog.within_modify fun w => h w.session

theorem checkHandle_samePaths : (checkHandle E profile).Within SamePaths := by
  have hfreeze : freeze.Within SamePaths := modifySession_samePaths fun _ => rfl
  refine .bind Prog.within_get fun w => .ite (Prog.within_throw _) ?_
  refine .bind (onDisk_samePaths _) fun actual => .ite ?_ ?_
  · refine .bind (.attempt (onDisk_samePaths _)) fun result => ?_
    cases result with
    | ok => exact Prog.within_pure _
    | error => exact .bind hfreeze fun _ => Prog.within_throw _
  · exact .bind hfreeze fun _ => Prog.within_throw _

theorem commitMutation_samePaths (plan : CommitPlan) :
    (commitMutation E profile plan).Within SamePaths := by
  refine .bind Prog.within_get fun w => .bind (.attempt (onDisk_samePaths _)) fun result => ?_
  cases result with
  | ok => exact .bind (modifySession_samePaths fun _ => rfl) fun _ => onDisk_samePaths _
  | error error =>
    refine .bind Prog.within_get fun w => .bind (onDisk_samePaths _) fun advanced => ?_
    cases advanced with
    | false => exact .bind (onDisk_samePaths _) fun _ => Prog.within_throw _
    | true =>
      refine .bind (.bind (onDisk_samePaths _) fun _ => ?_) fun _ => Prog.within_throw _
      exact modifySession_samePaths fun _ => rfl

theorem decideAndExecute_samePaths {ρ : Type} (decision : LiveSessionV3 → FileProg (Decision ρ)) :
    (decideAndExecute E profile decision).Within SamePaths := by
  refine .bind Prog.within_get fun w => .bind (onDisk_samePaths _) fun decided => ?_
  cases decided with
  | settled => exact Prog.within_pure _
  | commit plan => exact .bind (commitMutation_samePaths plan) fun _ => Prog.within_pure _

theorem Operation.samePaths (op : Operation) : (op.program E profile).Within SamePaths := by
  cases op with
  | event | evidence | antennaControl =>
    exact .bind (.bind checkHandle_samePaths fun _ => decideAndExecute_samePaths _) fun _ =>
      Prog.within_pure _
  | diagnostic => exact .bind (decideAndExecute_samePaths _) fun _ => Prog.within_pure _
  | evidenceWithAttachment =>
    refine .bind (.bind Prog.within_get fun w => .ite (Prog.within_throw _) ?_) fun _ =>
      Prog.within_pure _
    refine .bind (onDisk_samePaths _) fun reference => .bind (.attempt ?_) fun result => ?_
    · exact .bind checkHandle_samePaths fun _ => decideAndExecute_samePaths _
    · cases result with
      | ok => exact Prog.within_pure _
      | error =>
        exact .bind Prog.within_get fun _ =>
          .ite (.bind (onDisk_samePaths _) fun _ => Prog.within_throw _) (Prog.within_throw _)

/-- A history leaves its handle on the paths it was opened with. -/
theorem History.samePaths (hM : ForeignEdits E M) {first : Writer}
    {operations : List (Writer × Operation)} {w : Writer}
    (h : History E profile M first operations w) :
    w.session.paths = first.session.paths ∧
      ∀ entry ∈ operations, entry.1.session.paths = first.session.paths := by
  induction h with
  | start => simp
  | edit disk _ ih => exact ih
  | @operation operations w op o _ hrun ih =>
    have hpaths : SamePaths w o.state :=
      op.samePaths.runs SamePaths.refl SamePaths.trans
        (fun site w w' h => congrArg LiveSessionV3.paths (hM.session site w w' h)) hrun
    refine ⟨Eq.trans hpaths ih.1, fun entry hentry => ?_⟩
    rcases List.mem_append.1 hentry with hentry | hentry
    · exact ih.2 entry hentry
    · rw [List.mem_singleton.1 hentry]
      exact ih.1

theorem openSession_eq_ok {requested : Option RuntimeContextV6} {disk : Disk}
    {session : LiveSessionV3} (h : openSession E profile requested disk = .ok session) :
    readV3 E profile disk = .ok session.bundle ∧
      v2PathsForState session.bundle.manifest.files session.bundle.sessionState disk =
        .ok session.paths ∧
      verifyExactCheckpoint E profile session.bundle.sessionState session.paths disk = .ok () ∧
      session.frozen = false := by
  simp only [openSession, liftStore, bind_eq_ok, mapError_eq_ok, failIf_eq_ok, pure_eq_ok] at h
  obtain ⟨bundle, hread, paths, hpaths, _, hverify, _, -, rfl⟩ := h
  exact ⟨hread, hpaths, hverify, rfl⟩

/-- A handle the writer hands out was opened on the directory it then found. -/
theorem returns_openV3Writer {error crash : FileSite → Bool}
    {requested : Option RuntimeContextV6} {disk : Disk} :
    Prog.Returns (.masks error crash)
      (fun session found => openSession E profile requested found = .ok session)
      (openV3Writer E profile requested) disk := by
  refine (Prog.returns_any _ _).bind fun _ locked _ => ?_
  refine (Prog.returns_any _ _).bind fun _ probed _ => ?_
  apply Prog.returns_readWith.mono
  rintro session _ ⟨hopen, rfl⟩
  exact hopen

/-- In a history whose committed diagnostics start unfrozen on an unmodified
directory, every operation respects foreign edits and a frozen handle. -/
theorem history_respectsModification (hM : ForeignEdits E M)
    {requested : Option RuntimeContextV6} {opened disk : Disk} {session : LiveSessionV3}
    (hopen : openSession E profile requested opened = .ok session)
    {operations : List (Writer × Operation)} {w : Writer}
    (h : History E profile M ⟨disk, session⟩ operations w)
    (hdiagnostics : ∀ entry ∈ operations, DiagnosticUnmodified E profile entry.1 entry.2) :
    ∀ entry ∈ operations, RespectsModification E profile M entry.1 entry.2 := by
  intro entry hentry
  have hpaths : entry.1.session.paths.WellFormed := by
    rw [(h.samePaths hM).2 entry hentry]
    exact v2PathsForState_wellFormed (openSession_eq_ok hopen).2.1
  refine ⟨fun hdiffers effect t hperforms => ?_, fun hfrozen effect t hperforms => ?_⟩
  · exact Prog.guar_sound
      (entry.2.guar_of_differs hM hpaths hdiffers (hdiagnostics entry hentry)) hperforms
  · exact Prog.guar_sound (entry.2.guar_of_frozen hfrozen (hdiagnostics entry hentry)) hperforms

end

namespace Scenario

/-- What another process wrote over the checkpoint. -/
def foreignDisk : Disk :=
  disk.put (.root "session-state.json") (document { sessionState with revision := 7 }.json)

def failedAttempt : OperationalDiagnosticV6 where
  schema := "operational_diagnostic.v1"
  diagnosticId := "diagnostic-1"
  correlationId := "correlation-1"
  attemptId := "attempt-1"
  mutation := ⟨"pending-diagnostic", 0, 1⟩
  runtimeContextId := ""
  occurredAt := noon 60
  operation := .sessionMutation
  phase := .checkpoint
  code := "session.mutation_failed"
  summary := "The mutation was not committed."
  outcome := .failed
  severity := .error
  revisionBefore := none
  revisionAfter := none
  diagnosticRevision := 0
  evidenceEffect := .noneCommitted
  retry := ⟨.retryable, "retry"⟩
  targets := []
  causes := []
  detailStatus := ⟨.complete, 0⟩

def diagnosticMutation : LiveDiagnosticMutationV6 := ⟨0, "mutation-1", failedAttempt⟩

def diagnosticSha256 : String :=
  "61be0e7291cdaa73" ++ "d59bd5ba41d35d75" ++ "49c8fd055586493f" ++ "2cf70ba1decc6998"

def diagnosticEnv : Env := env {
  sessionStates := []
  events := []
  diagnostics := []
  digests := [({ failedAttempt with
    occurredAt := noon 61
    runtimeContextId := contextId
    mutation := ⟨"mutation-1", 0, 1⟩
    diagnosticRevision := 1 }.json.compact ++ [newline], diagnosticSha256)] }

def diagnosticOperation : Operation := .diagnostic diagnosticMutation (noon 61)

/-- The checkpoint on disk is not the one of the handle, and an effect of the
diagnostic replaces it. -/
def replacesForeignCheckpoint (session : LiveSessionV3) : Bool :=
  let current := Path.root "session-state.json"
  let start : Writer := ⟨foreignDisk, session⟩
  session.paths.sessionState == current &&
    ((foreignDisk.get current).bind diagnosticEnv.sessionState.fromSlice !=
      some session.bundle.sessionState) &&
    ((diagnosticOperation.program diagnosticEnv localStandardV1).steps start).any fun entry =>
      (entry.1.full entry.2).disk.get current != entry.2.disk.get current

theorem opened_replacesForeignCheckpoint :
    ((openSession diagnosticEnv localStandardV1 none disk).toOption.any
      replacesForeignCheckpoint) = true := by
  decide +kernel

/-- After a foreign edit of the checkpoint a diagnostic overwrites it. -/
theorem diagnostic_overwrites_foreign_checkpoint :
    ¬∀ (session : LiveSessionV3) (operations : List (Writer × Operation)) (w : Writer),
      openSession diagnosticEnv localStandardV1 none disk = .ok session →
      History diagnosticEnv localStandardV1 .none ⟨disk, session⟩ operations w →
      ∀ entry ∈ operations,
        RespectsModification diagnosticEnv localStandardV1 .none entry.1 entry.2 := by
  intro hclaim
  obtain ⟨session, hopen, hreplaces⟩ := exists_ok_of_any opened_replacesForeignCheckpoint
  simp only [replacesForeignCheckpoint, Bool.and_eq_true, beq_iff_eq, bne_iff_ne,
    List.any_eq_true] at hreplaces
  obtain ⟨⟨hcurrent, hdiffers⟩, ⟨effect, t⟩, hstep, hchanges⟩ := hreplaces
  have hhistory : History diagnosticEnv localStandardV1 .none ⟨disk, session⟩
      [(⟨foreignDisk, session⟩, diagnosticOperation)] _ :=
    .operation diagnosticOperation (.edit foreignDisk .start)
      (Prog.exec_runs .none (fun _ _ => rfl) [] _ _)
  have hrespects := hclaim session _ _ hopen hhistory _ (List.mem_singleton_self _)
  have hcheckpoint : Writer.CheckpointDiffers diagnosticEnv ⟨foreignDisk, session⟩ := by
    intro bytes hget hparse
    rw [hcurrent] at hget
    exact hdiffers (by simpa [hget] using hparse)
  have hperforms := Prog.performs_of_mem_steps (M := .none) (fun _ _ => rfl) hstep
  have hspares := (hrespects.1 (.inl hcheckpoint) effect t hperforms).1.1
  rw [hcurrent] at hspares
  exact hchanges hspares

theorem foreignEdits_none (E : Env) : ForeignEdits E .none where
  session := by rintro _ w _ rfl; rfl
  checkpoint := by rintro _ w _ rfl h; exact h
  files := by rintro _ w _ rfl h; exact h

/-- On the same edited directory an event respects the foreign checkpoint. -/
theorem event_respects_foreign_checkpoint :
    ∃ session, openSession diagnosticEnv localStandardV1 none disk = .ok session ∧
      RespectsModification diagnosticEnv localStandardV1 .none ⟨foreignDisk, session⟩
        (.event startMutation (noon 61)) := by
  obtain ⟨session, hopen, -⟩ := exists_ok_of_any opened_replacesForeignCheckpoint
  have hhistory : History diagnosticEnv localStandardV1 .none ⟨disk, session⟩
      [(⟨foreignDisk, session⟩, .event startMutation (noon 61))] _ :=
    .operation _ (.edit foreignDisk .start) (Prog.exec_runs .none (fun _ _ => rfl) [] _ _)
  refine ⟨session, hopen, ?_⟩
  refine history_respectsModification (foreignEdits_none _) hopen hhistory ?_ _
    (List.mem_singleton_self _)
  intro entry hentry
  rw [List.mem_singleton.1 hentry]
  trivial

end Scenario

end AntennaBench
