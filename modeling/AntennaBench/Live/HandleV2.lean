import AntennaBench.FaultIO.Returns
import AntennaBench.Storage.LiveV2

/-!
# The handle of a schema-v2 session

What the operations of a handle do before they write: the handle may be frozen, it takes over a
later checkpoint it finds, and it verifies that the directory still is the one it remembers.
-/

namespace AntennaBench

open FaultIO

namespace WriterV2

theorem lens : Prog.Lens WriterV2.disk setDisk where
  get_set _ _ := rfl
  set_set _ _ _ := rfl
  set_get _ := rfl

theorem onDisk_readWith {α : Type} (site : FileSite) (e : LivePersistenceError)
    (f : Disk → Except LivePersistenceError α) :
    onDisk (Prog.readWith site e f) = Prog.readWith site e fun w : WriterV2 => f w.disk :=
  Prog.zoom_readWith lens site e f

variable {error crash : FileSite → Bool}

theorem wp_onDisk {α : Type} (Q : Post WriterV2 LivePersistenceError α) (m : FileProg α)
    (w : WriterV2) :
    Prog.wp (.masks error crash) Q (onDisk m) w ↔
      Prog.wp (.masks error crash) ⟨fun a disk => Q.ret a (w.setDisk disk),
        fun e disk => Q.err e (w.setDisk disk), fun disk => Q.crash (w.setDisk disk)⟩ m w.disk :=
  Prog.wp_zoom lens (Prog.zooms_masks error crash) Q m w

section

variable (E : Env) (F : TextFormat) (profile : BundleResourceProfile)
  (storeFindings : BundleV2Contents → ResolvedBundlePathsV2 → Disk → List BundleDiagnostic)

/-- The handle after it looked at the checkpoint: as before, or with the bundle of a
later revision. -/
inductive Refreshes (w : WriterV2) : LiveSessionV2 → Prop
  | current {state : SessionStateV2} :
      readState E w.session.paths.sessionState w.disk = .ok state →
      state.revision = w.session.bundle.sessionState.revision → Refreshes w w.session
  | advanced {state : SessionStateV2} {bundle : BundleV2Contents}
      {paths : ResolvedBundlePathsV2} :
      readState E w.session.paths.sessionState w.disk = .ok state →
      w.session.bundle.sessionState.revision < state.revision →
      readCurrent E F profile storeFindings w.disk = .ok (bundle, paths) →
      Refreshes w { w.session with bundle, paths }

/-- The directory is the one the handle remembers. -/
structure Unchanged (session : LiveSessionV2) (disk : Disk) : Prop where
  checkpoint :
    readState E session.paths.sessionState disk = .ok session.bundle.sessionState
  files :
    verifyExactCheckpoint E profile session.bundle.sessionState session.paths disk = .ok ()

end

section

variable {E : Env} {F : TextFormat} {profile : BundleResourceProfile}
  {storeFindings : BundleV2Contents → ResolvedBundlePathsV2 → Disk → List BundleDiagnostic}
  {w t : WriterV2}

theorem run_ensureMutable_eq_returned {u : Unit} :
    Prog.run ensureMutable w = .returned u t ↔ w.session.frozen = false ∧ t = w := by
  unfold ensureMutable
  rw [Prog.run_get_bind]
  dsimp only
  split_ifs with hfrozen
  · simp [hfrozen]
  · rw [Prog.run_pure, Outcome.returned.injEq]
    simp [hfrozen, eq_comm]

theorem run_refreshIfAdvanced_eq_returned {u : Unit} :
    Prog.run (refreshIfAdvanced E F profile storeFindings) w = .returned u t ↔
      ∃ session, Refreshes E F profile storeFindings w session ∧ t = w.setSession session := by
  unfold refreshIfAdvanced reloadBundle
  rw [Prog.run_get_bind]
  simp only [onDisk_readWith, Prog.run_bind_eq_returned, Prog.run_readWith_eq_returned]
  constructor
  · rintro ⟨state, _, ⟨hstate, rfl⟩, h⟩
    split_ifs at h with hsame hlower
    · cases h
      exact ⟨_, .current hstate hsame, rfl⟩
    · obtain ⟨_, _, -, h⟩ := Prog.run_bind_eq_returned.1 h
      exact absurd h (Prog.run_throw_ne _)
    · obtain ⟨⟨bundle, paths⟩, _, hread, hset⟩ := Prog.run_bind_eq_returned.1 h
      obtain ⟨hread, rfl⟩ := Prog.run_readWith_eq_returned.1 hread
      cases hset
      exact ⟨_, .advanced hstate (by omega) hread, rfl⟩
  · rintro ⟨session, hrefreshes, rfl⟩
    cases hrefreshes with
    | current hstate hsame =>
      refine ⟨_, _, ⟨hstate, rfl⟩, ?_⟩
      rw [if_pos hsame]
      rfl
    | advanced hstate hlater hread =>
      refine ⟨_, _, ⟨hstate, rfl⟩, ?_⟩
      rw [if_neg (by omega), if_neg (by omega)]
      exact Prog.run_bind_eq_returned.2
        ⟨_, _, Prog.run_readWith_eq_returned.2 ⟨hread, rfl⟩, rfl⟩

theorem run_verifyUnchanged_eq_returned {u : Unit} :
    Prog.run (verifyUnchanged E profile) w = .returned u t ↔
      Unchanged E profile w.session w.disk ∧ t = w := by
  unfold verifyUnchanged
  rw [Prog.run_get_bind]
  simp only [onDisk_readWith, Prog.run_bind_eq_returned, Prog.run_readWith_eq_returned]
  constructor
  · rintro ⟨actual, _, ⟨hactual, rfl⟩, h⟩
    split_ifs at h with hsame
    · obtain ⟨result, _, hverify, hrest⟩ := Prog.run_bind_eq_returned.1 h
      cases result with
      | error e =>
        obtain ⟨_, _, -, hthrow⟩ := Prog.run_bind_eq_returned.1 hrest
        exact absurd hthrow (Prog.run_throw_ne _)
      | ok value =>
        obtain ⟨hfiles, rfl⟩ := Prog.run_readWith_eq_returned.1
          (Prog.run_attempt_eq_ok.1 hverify)
        cases hrest
        rw [hsame] at hactual hfiles
        exact ⟨⟨hactual, hfiles⟩, rfl⟩
    · obtain ⟨_, _, -, h⟩ := Prog.run_bind_eq_returned.1 h
      exact absurd h (Prog.run_throw_ne _)
  · rintro ⟨hunchanged, rfl⟩
    refine ⟨_, _, ⟨hunchanged.checkpoint, rfl⟩, ?_⟩
    rw [if_pos rfl]
    exact Prog.run_bind_eq_returned.2 ⟨.ok (), _, Prog.run_attempt_eq_ok.2
      (Prog.run_readWith_eq_returned.2 ⟨hunchanged.files, rfl⟩), rfl⟩
section

variable {error crash : FileSite → Bool} {Q : Post WriterV2 LivePersistenceError Unit}

theorem wp_ensureMutable (hfrozen : w.session.frozen = false) (hret : Q.ret () w) :
    Prog.wp (.masks error crash) Q ensureMutable w := by
  change Prog.wp _ Q (if w.session.frozen = true then _ else _) w
  rw [if_neg (by simp [hfrozen])]
  exact hret

theorem wp_refreshIfAdvanced {session : LiveSessionV2}
    (h : Refreshes E F profile storeFindings w session) (hret : Q.ret () (w.setSession session))
    (herr : ∀ e, Q.err e w) (hcrash : Q.crash w) :
    Prog.wp (.masks error crash) Q (refreshIfAdvanced E F profile storeFindings) w := by
  unfold refreshIfAdvanced reloadBundle
  simp only [onDisk_readWith, Prog.wp_bind, Prog.wp_get, Prog.wp_readWith]
  refine ⟨?_, fun _ => herr _, fun _ => hcrash⟩
  rintro _ rfl
  refine ⟨fun state hstate => ?_, fun _ _ => herr _⟩
  cases h with
  | current hread hsame =>
    obtain rfl := Except.ok.inj (hread.symm.trans hstate)
    rw [if_pos hsame]
    exact hret
  | advanced hread hlater hcurrent =>
    obtain rfl := Except.ok.inj (hread.symm.trans hstate)
    rw [if_neg (by omega), if_neg (by omega)]
    simp only [Prog.wp_bind, Prog.wp_readWith]
    refine ⟨?_, fun _ => herr _, fun _ => hcrash⟩
    rintro _ rfl
    refine ⟨fun found hfound => ?_, fun _ _ => herr _⟩
    obtain rfl := Except.ok.inj (hcurrent.symm.trans hfound)
    exact hret

theorem wp_verifyUnchanged (h : Unchanged E profile w.session w.disk) (hret : Q.ret () w)
    (herr : ∀ e, Q.err e w)
    (hfreeze : ∀ e, Q.err e (w.setSession { w.session with frozen := true }))
    (hcrash : Q.crash w) : Prog.wp (.masks error crash) Q (verifyUnchanged E profile) w := by
  unfold verifyUnchanged
  simp only [onDisk_readWith, Prog.wp_bind, Prog.wp_get, Prog.wp_readWith]
  refine ⟨?_, fun _ => herr _, fun _ => hcrash⟩
  rintro _ rfl
  refine ⟨fun actual hactual => ?_, fun _ _ => herr _⟩
  obtain rfl := Except.ok.inj (h.checkpoint.symm.trans hactual)
  rw [if_pos rfl]
  simp only [Prog.wp_bind, Prog.wp_attempt, Prog.wp_readWith]
  refine ⟨?_, fun _ => hfreeze _, fun _ => hcrash⟩
  rintro _ rfl
  refine ⟨fun _ _ => hret, fun e he => ?_⟩
  exact absurd (h.files.symm.trans he) (by simp)

end
theorem get_of_files {a b : Disk} (h : a.files = b.files) : a.get = b.get := by
  funext path
  rw [Disk.get, Disk.get, h]

theorem readState_of_files {a b : Disk} (h : a.files = b.files) (path : Path) :
    readState E path a = readState E path b := by
  rw [readState, readState, get_of_files h]

theorem verifyExactCheckpoint_of_files {a b : Disk} (h : a.files = b.files)
    (checkpoint : SessionStateV2) (paths : ResolvedBundlePathsV2) :
    verifyExactCheckpoint E profile checkpoint paths a =
      verifyExactCheckpoint E profile checkpoint paths b := by
  have hread : ∀ path limit code operation,
      readBounded path limit code operation a = readBounded path limit code operation b := by
    intro path limit code operation
    rw [readBounded, readBounded, get_of_files h]
  have hstream : verifyExactStream E profile checkpoint paths a =
      verifyExactStream E profile checkpoint paths b := by
    funext stream
    simp only [verifyExactStream, readStreamBounded, hread]
  have hoperational : verifyOperationalStream E profile checkpoint paths true a =
      verifyOperationalStream E profile checkpoint paths true b := by
    funext stream
    simp only [verifyOperationalStream, readStreamBounded, hread]
  have hplan : verifyPlanFile E profile " digest changed" a =
      verifyPlanFile E profile " digest changed" b := by
    funext entry
    simp only [verifyPlanFile, readRootBounded, hread]
  rw [verifyExactCheckpoint, verifyExactCheckpoint, hstream, hoperational, hplan]

theorem Unchanged.of_files {session : LiveSessionV2} {a b : Disk} (h : b.files = a.files)
    (hunchanged : Unchanged E profile session a) : Unchanged E profile session b where
  checkpoint := (readState_of_files h _).trans hunchanged.checkpoint
  files := (verifyExactCheckpoint_of_files h _ _).trans hunchanged.files

theorem Refreshes.unique {a b : LiveSessionV2} (ha : Refreshes E F profile storeFindings w a)
    (hb : Refreshes E F profile storeFindings w b) : a = b := by
  cases ha with
  | current hstate hsame =>
    cases hb with
    | current => rfl
    | advanced hstate' hlater =>
      obtain rfl := Except.ok.inj (hstate.symm.trans hstate')
      omega
  | advanced hstate hlater hread =>
    cases hb with
    | current hstate' hsame =>
      obtain rfl := Except.ok.inj (hstate.symm.trans hstate')
      omega
    | advanced _ _ hread' =>
      obtain ⟨rfl, rfl⟩ := Prod.mk.inj (Except.ok.inj (hread.symm.trans hread'))
      rfl

theorem Refreshes.frozen {session : LiveSessionV2}
    (h : Refreshes E F profile storeFindings w session) : session.frozen = w.session.frozen := by
  cases h <;> rfl

end

end WriterV2

end AntennaBench
