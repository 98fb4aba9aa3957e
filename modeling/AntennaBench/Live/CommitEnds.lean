import AntennaBench.Live.DiagnosticHistory
import AntennaBench.Live.ExternalModification
import AntennaBench.Live.RecoveryTails

/-!
# How a call of the writer ends

The calls of a run are decided on the committed bundle and commit under a fault before or after
the checkpoint is replaced. A program of the writer, whatever fails in it, ends like such a call
on a handle that holds the committed bundle, or after a failure it reads the directory again, or
that reading fails too and the handle keeps a bundle the directory has left behind.
-/

namespace AntennaBench

open FaultIO

section

variable (E : Env) (profile : BundleResourceProfile)

/-- The checkpoint on disk reads as a later one than the checkpoint of the handle. -/
def Writer.Advanced (w : Writer) : Prop :=
  ∃ state, readState E w.session.paths.sessionState w.disk = .ok state ∧
    w.session.bundle.sessionState.revision < state.revision

/-- The end of a call that failed: nothing was written, the commit ends as under a fault, or the
handle does not know what it committed. -/
inductive FailedEnd (error : FileSite → Bool) (start : Writer)
    (commits : CommitFault → Except LivePersistenceError Unit × BundleV3Contents)
    (e : LivePersistenceError) (finish : Writer) : Prop
  | refused (hdisk : finish.disk = start.disk)
      (hbundle : finish.session.bundle = start.session.bundle)
  | landed (hend : commits (.afterReplace e) = (.error e, finish.session.bundle))
  | withdrawn (hend : commits (.beforeReplace e) = (.error e, finish.session.bundle))
      (hkept : error .reread = true ∨
        ∃ written : Writer, written.session = finish.session ∧ ¬written.Advanced E)
  | reloaded (hread : readV3 E profile finish.disk = .ok finish.session.bundle)
  | stale (hkept : finish.session.bundle = start.session.bundle) (hlater : finish.Advanced E)
      (hread : error .reload = true ∨ ∀ bundle, readV3 E profile finish.disk ≠ .ok bundle)

/-- How a program ends that commits so under the faults of a call. -/
def callEnds {α : Type} (error : FileSite → Bool) (start : Writer)
    (commits : CommitFault → Except LivePersistenceError Unit × BundleV3Contents) :
    Post Writer LivePersistenceError α where
  ret _ finish := commits .none = (.ok (), finish.session.bundle)
  err e finish := FailedEnd E profile error start commits e finish
  crash _ := True

end

section

variable {E : Env} {profile : BundleResourceProfile} {error crash : FileSite → Bool}
  {start w : Writer}

/-- A file program leaves the handle as it is. -/
theorem wp_onDisk_session {α : Type} (m : FileProg α) (w : Writer) :
    Prog.wp (.masks error crash) (.always fun t => t.session = w.session) (onDisk m) w := by
  have hwithin : (onDisk m).Within fun s t : Writer => t.session = s.session := by
    refine Prog.Within.zoom (fun _ _ _ => ?_) (Prog.within_true m)
    rfl
  refine hwithin.keeps (P := fun t => t.session = w.session) ?_ ?_ w rfl
  · exact fun s t hst hs => hst.trans hs
  · rintro site s t rfl hs
    exact hs

theorem wp_checkpointAdvanced_session (w : Writer) :
    Prog.wp (.masks error crash) ⟨fun advanced t => t = w ∧ (advanced = true → w.Advanced E) ∧
        (advanced = false → error .reread = true ∨ ¬w.Advanced E), fun _ _ => False, fun _ => True⟩
      (onDisk (checkpointAdvanced E w.session.paths.sessionState w.session.bundle.sessionState))
      w := by
  unfold onDisk checkpointAdvanced
  rw [Prog.wp_zoom writerLens (Prog.zooms_masks error crash), Prog.wp_bind, Prog.wp_attempt,
    Prog.wp_readWith]
  refine ⟨?_, ?_, fun _ => trivial⟩
  · rintro disk rfl
    refine ⟨fun state hread => ⟨rfl, ?_, ?_⟩, fun e hread => ⟨rfl, nofun, fun _ => .inr ?_⟩⟩
    · intro hlater
      exact ⟨state, hread, of_decide_eq_true hlater⟩
    · rintro hlater
      refine .inr fun ⟨other, hother, hadvanced⟩ => ?_
      cases hread.symm.trans hother
      exact of_decide_eq_false hlater hadvanced
    · rintro ⟨other, hother, -⟩
      cases hread.symm.trans hother
  · exact fun hreread => ⟨rfl, nofun, fun _ => .inl hreread⟩

theorem wp_reloadBundle_ends (w : Writer) :
    Prog.wp (.masks error crash)
      ⟨fun _ t => readV3 E profile t.disk = .ok t.session.bundle,
        fun _ t => t = w ∧ (error .reload = true ∨ ∀ bundle, readV3 E profile w.disk ≠ .ok bundle),
        fun _ => True⟩ (reloadBundle E profile) w := by
  unfold reloadBundle
  rw [onDisk_readWith, Prog.wp_bind, Prog.wp_readWith]
  refine ⟨?_, fun hreload => ⟨rfl, .inl hreload⟩, fun _ => trivial⟩
  rintro t rfl
  refine ⟨fun bundle hread => ?_, fun e hread => ⟨rfl, .inr fun bundle hbundle => ?_⟩⟩
  · exact mapError_eq_ok.1 hread
  · rw [hbundle] at hread
    cases hread

variable {ρ : Type} {plan : CommitPlan} {receipt : ρ}

/-- A commit that failed before the handle took the candidate. -/
theorem wp_failCommit_ends (hw : w.session = start.session) (e : LivePersistenceError) :
    Prog.wp (.masks error crash)
      (callEnds E profile error start fun fault =>
        committedUnder fault start.session.bundle (.ok (.commit plan receipt)))
      (failCommit E profile plan e) w := by
  have hwithdrawn (t : Writer) (e : LivePersistenceError) (ht : t.session = w.session)
      (hkept : error .reread = true ∨ ¬w.Advanced E) :
      FailedEnd E profile error start
        (fun fault => committedUnder fault start.session.bundle (.ok (.commit plan receipt)))
        e t := by
    apply FailedEnd.withdrawn
    · rw [ht, hw]
      rfl
    · exact hkept.imp_right fun hold => ⟨w, ht.symm, hold⟩
  unfold failCommit
  rw [Prog.wp_bind, Prog.wp_get]
  dsimp only
  rw [Prog.wp_bind]
  refine Prog.wp_mono ?_ (fun _ _ h => False.elim h) (fun _ _ => trivial)
    (wp_checkpointAdvanced_session w)
  rintro advanced t ⟨rfl, hlater, hold⟩
  dsimp only
  cases advanced with
  | false =>
    rw [if_neg Bool.false_ne_true, Prog.wp_bind]
    refine Prog.wp_mono ?_ ?_ (fun _ _ => trivial) (wp_onDisk_session _ t)
    · exact fun _ t' ht' => hwithdrawn t' e ht' (hold rfl)
    · exact fun e' t' ht' => hwithdrawn t' e' ht' (hold rfl)
  | true =>
    rw [if_pos rfl, Prog.wp_bind]
    refine Prog.wp_mono ?_ ?_ (fun _ _ => trivial) (wp_reloadBundle_ends t)
    · exact fun _ t' hread => .reloaded hread
    · rintro e' t' ⟨rfl, hread⟩
      exact .stale (by rw [hw]) (hlater rfl) hread

theorem wp_commitMutation_ends :
    Prog.wp (.masks error crash)
      (callEnds E profile error start fun fault =>
        committedUnder fault start.session.bundle (.ok (.commit plan receipt)))
      (commitMutation E profile plan) start := by
  unfold commitMutation
  rw [Prog.wp_bind, Prog.wp_get]
  dsimp only
  rw [Prog.wp_bind, Prog.wp_attempt]
  refine Prog.wp_mono ?_ ?_ (fun _ _ => trivial) (wp_onDisk_session _ start)
  · intro _ t _
    dsimp only
    rw [modifySession, Prog.wp_bind, Prog.wp_modify]
    refine Prog.wp_mono ?_ ?_ (fun _ _ => trivial) (wp_onDisk_session _ _)
    · intro _ t' ht'
      change _ = (_, t'.session.bundle)
      rw [ht']
      rfl
    · intro e t' ht'
      apply FailedEnd.landed
      rw [ht']
      rfl
  · exact fun e t ht => wp_failCommit_ends ht e

/-- The decision reads files only, and is the one planned on the directory it starts from. -/
def Decides (error crash : FileSite → Bool) (decision : FileProg (Decision ρ)) (disk : Disk)
    (planned : Except LivePersistenceError (Decision ρ)) : Prop :=
  Prog.wp (.masks error crash) ⟨fun decided t => t = disk ∧ planned = .ok decided,
    fun _ t => t = disk, fun _ => True⟩ decision disk

theorem wp_decideAndExecute_ends {decision : LiveSessionV3 → FileProg (Decision ρ)}
    {planned : Except LivePersistenceError (Decision ρ)}
    (h : Decides error crash (decision start.session) start.disk planned) :
    Prog.wp (.masks error crash) (callEnds E profile error start fun fault =>
        committedUnder fault start.session.bundle planned)
      (decideAndExecute E profile decision) start := by
  unfold decideAndExecute onDisk
  rw [Prog.wp_bind, Prog.wp_get]
  dsimp only
  rw [Prog.wp_bind, Prog.wp_zoom writerLens (Prog.zooms_masks error crash)]
  refine Prog.wp_mono ?_ ?_ (fun _ _ => trivial) h
  · rintro decided _ ⟨rfl, rfl⟩
    dsimp only
    rw [writerLens.set_get]
    cases decided with
    | settled receipt => exact (Prog.wp_pure _ _ _).2 rfl
    | commit plan receipt =>
      rw [execute, Prog.wp_bind]
      exact Prog.wp_mono (fun _ _ hend => hend) (fun _ _ hend => hend) (fun _ _ => trivial)
        wp_commitMutation_ends
  · rintro e _ rfl
    exact .refused rfl rfl

/-- The check of the handle reads the directory and at most freezes the handle. -/
theorem wp_checkHandle_ends (w : Writer) :
    Prog.wp (.masks error crash) ⟨fun _ t => t = w,
      fun _ t => t.disk = w.disk ∧ t.session.bundle = w.session.bundle, fun _ => True⟩
      (checkHandle E profile) w := by
  unfold checkHandle
  rw [Prog.wp_bind, Prog.wp_get]
  dsimp only
  split_ifs with hfrozen
  · exact ⟨rfl, rfl⟩
  unfold verifySnapshot
  dsimp only
  rw [onDisk_readWith, Prog.wp_bind, Prog.wp_readWith]
  refine ⟨?_, fun _ => ⟨rfl, rfl⟩, fun _ => trivial⟩
  rintro t rfl
  refine ⟨fun actual _ => ?_, fun _ _ => ⟨rfl, rfl⟩⟩
  dsimp only
  split_ifs with hsame
  · rw [onDisk_readWith, Prog.wp_bind, Prog.wp_attempt, Prog.wp_readWith]
    refine ⟨?_, fun _ => ⟨rfl, rfl⟩, fun _ => trivial⟩
    rintro t' rfl
    exact ⟨fun _ _ => rfl, fun _ _ => ⟨rfl, rfl⟩⟩
  · exact ⟨rfl, rfl⟩

theorem wp_checked_ends {decision : LiveSessionV3 → FileProg (Decision ρ)}
    {planned : Except LivePersistenceError (Decision ρ)}
    (h : Decides error crash (decision start.session) start.disk planned) :
    Prog.wp (.masks error crash) (callEnds E profile error start fun fault =>
        committedUnder fault start.session.bundle planned)
      (do checkHandle E profile; decideAndExecute E profile decision) start := by
  rw [Prog.wp_bind]
  refine Prog.wp_mono ?_ ?_ (fun _ _ => trivial) (wp_checkHandle_ends start)
  · rintro _ _ rfl
    exact wp_decideAndExecute_ends h
  · exact fun _ t ⟨hdisk, hbundle⟩ => .refused hdisk hbundle

theorem decides_ofExcept (planned : Except LivePersistenceError (Decision ρ)) (disk : Disk) :
    Decides error crash (Prog.ofExcept planned) disk planned := by
  unfold Decides
  rw [Prog.wp_ofExcept]
  exact ⟨fun _ h => ⟨rfl, h⟩, fun _ _ => rfl⟩

theorem decides_evidence (mutation : LiveEvidenceMutationV3) (now : DateTime)
    (session : LiveSessionV3) (disk : Disk) :
    Decides error crash (decideEvidence E profile mutation now session) disk
      (planEvidence E profile session mutation now disk) := by
  unfold Decides decideEvidence
  rw [Prog.wp_readWith]
  refine ⟨?_, fun _ => rfl, fun _ => trivial⟩
  rintro t rfl
  exact ⟨fun _ h => ⟨rfl, h⟩, fun _ _ => rfl⟩

end

/-- The operation of the writer a call stands for. -/
def SessionCall.operation (call : SessionCall) : Operation :=
  match call.call with
  | .appendDiagnostic mutation => .diagnostic mutation call.now
  | .appendEvent mutation => .event mutation call.now
  | .appendEvidence mutation _ => .evidence mutation call.now
  | .appendAntennaControl mutation => .antennaControl mutation call.now

/-- The call is made on the handle and the directory. -/
structure SessionCall.MadeOn (call : SessionCall) (start : Writer) : Prop where
  handle : call.handle = start.session
  disk : ∀ mutation disk, call.call = .appendEvidence mutation disk → disk = start.disk

theorem wp_discard_ends {E : Env} {profile : BundleResourceProfile} {error crash : FileSite → Bool}
    {start : Writer} {commits : CommitFault → Except LivePersistenceError Unit × BundleV3Contents}
    {α : Type} {m : WriterProg α}
    (h : Prog.wp (.masks error crash) (callEnds E profile error start commits) m start) :
    Prog.wp (.masks error crash) (callEnds E profile error start commits)
      (do let _ ← m) start := by
  rw [Prog.wp_bind]
  exact Prog.wp_mono (fun _ _ hend => hend) (fun _ _ hend => hend) (fun _ _ => trivial) h

/-- Every run of the operation ends as the call does under some fault, or without a bundle the
directory vouches for. -/
theorem operation_ends (E : Env) (profile : BundleResourceProfile) {error crash : FileSite → Bool}
    {start : Writer} {call : SessionCall} (h : call.MadeOn start) :
    Prog.wp (.masks error crash) (callEnds E profile error start fun fault =>
        { call with fault }.perform E profile start.session.bundle)
      (call.operation.program E profile) start := by
  obtain ⟨handle, call, fault, now⟩ := call
  obtain ⟨rfl, hdisk⟩ := h
  cases call with
  | appendDiagnostic mutation =>
    apply wp_discard_ends
    apply wp_decideAndExecute_ends
    exact decides_ofExcept _ _
  | appendEvent mutation =>
    apply wp_discard_ends
    apply wp_checked_ends
    exact decides_ofExcept _ _
  | appendEvidence mutation disk =>
    obtain rfl := hdisk mutation disk rfl
    apply wp_discard_ends
    apply wp_checked_ends
    exact decides_evidence mutation now _ _
  | appendAntennaControl mutation =>
    apply wp_discard_ends
    apply wp_checked_ends
    exact decides_ofExcept _ _

end AntennaBench
