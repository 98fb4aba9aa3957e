import AntennaBench.Live.HandleV2
import AntennaBench.Storage.Frame

/-!
# The files of a plan generation

The files of a generation are created one by one and never replaced. After the first of them a
failed commit leaves it behind; a commit that returns leaves all of them, under the digests the
checkpoint names.
-/

namespace AntennaBench

open FaultIO

namespace WriterV2

section

variable {E : Env} {F : TextFormat} {profile : BundleResourceProfile}
  {storeFindings : BundleV2Contents → ResolvedBundlePathsV2 → Disk → List BundleDiagnostic}
  {w t : WriterV2} {plan : PlanCommitV2}

/-- The file is not lost. -/
def KeepsFile (path : Path) (before after : Disk) : Prop :=
  before.exists? path = true → after.exists? path = true

theorem KeepsFile.refl {path : Path} (disk : Disk) : KeepsFile path disk disk := id

theorem KeepsFile.put (path other : Path) (bytes : Bytes) (disk : Disk) :
    KeepsFile path disk (disk.put other bytes) := by
  intro h
  rw [Disk.exists?, Disk.get_put]
  split_ifs
  · rfl
  · exact h

theorem KeepsFile.of_touches {path : Path} {touched : Set Path} (hpath : path ∉ touched)
    {before after : Disk} (h : Disk.Touches touched before after) :
    KeepsFile path before after := by
  intro hbefore
  rw [Disk.exists?, h.get path hpath]
  exact hbefore

theorem fillPlanFile_keeps (path other : Path) (bytes : Bytes) :
    (fillPlanFile other bytes).Within (KeepsFile path) := by
  refine .bind ?_ fun _ => .bind (checkPoint_within .refl) fun _ =>
    .bind (checkPoint_within .refl) fun _ => .bind (syncAll_within .refl) fun _ =>
    checkPoint_within .refl
  exact .perform (fun disk => .put path _ _ disk) fun _ disk => .put path _ _ disk

theorem writePlanFile_keeps (path : Path) (entry : Path × Bytes) :
    (writePlanFile entry).Within (KeepsFile path) := by
  refine .bind (checkPoint_within .refl) fun _ => .bind ?_ fun _ =>
    fillPlanFile_keeps path entry.1 entry.2
  exact .bind Prog.within_get fun _ => .ite (Prog.within_throw _)
    (.perform (fun disk => .put path _ [] disk) fun _ => .refl)

theorem commitCheckpoint_keeps {path current : Path} (hpath : path ∉ checkpointFiles current)
    (checkpoint : SessionStateV2) :
    (commitCheckpoint E current checkpoint).Within (KeepsFile path) :=
  (commitCheckpoint_touches (le_refl _) E checkpoint).mono fun _ _ => .of_touches hpath

/-- The commit of a checkpoint touches no file of a generation. -/
theorem path_notMem (plan : PlanCommitV2) (name : String) {current : Path}
    (hroot : current.isRoot = true) : plan.path name ∉ checkpointFiles current := by
  rintro (hmem | hmem | hmem | hmem)
  · rw [← hmem] at hroot
    cases hroot
  all_goals cases hmem

variable {error crash : FileSite → Bool}

theorem wp_of_keepsFile {α : Type} {path : Path} {m : FileProg α} {disk : Disk}
    (h : m.Within (KeepsFile path)) (hdisk : disk.exists? path = true) :
    Prog.wp (.masks error crash) (.always fun disk => disk.exists? path = true) m disk := by
  refine h.keeps (fun _ _ hst hs => hst hs) ?_ disk hdisk
  rintro _ before after rfl hbefore
  exact hbefore

/-- The failure comes before the file is there, or the file is there. -/
theorem wp_writePlanFile (entry : Path × Bytes) (disk : Disk) :
    Prog.wp (.masks error crash)
      ⟨fun _ after => after.exists? entry.1 = true,
        fun _ after => after = disk ∨ after.exists? entry.1 = true, fun _ => True⟩
      (writePlanFile entry) disk := by
  unfold writePlanFile createNew
  refine (Prog.wp_bind _ _ _ _).2 ((Prog.wp_perform _ _ _ _).2 ⟨?_, fun _ _ => .inl rfl,
    fun _ _ => trivial⟩)
  rintro start rfl
  simp only [Prog.wp_bind, Prog.wp_get]
  change Prog.wp _ _ (if start.exists? entry.1 = true then _ else _) start
  split_ifs with hexists
  · exact .inl rfl
  refine (Prog.wp_perform _ _ _ _).2 ⟨?_, fun _ _ => .inl rfl, fun _ _ => trivial⟩
  rintro _ rfl
  have hcreated : (start.put entry.1 []).exists? entry.1 = true := by
    rw [Disk.exists?, Disk.get_put_self]
    rfl
  refine Prog.wp_mono ?_ ?_ ?_ (wp_of_keepsFile (fillPlanFile_keeps _ _ _) hcreated)
  · exact fun _ _ h => h
  · exact fun _ _ h => .inr h
  · exact fun _ _ => trivial

/-- A checkpoint that was committed is the one a reader finds. -/
theorem wp_commitCheckpoint (current : Path) (checkpoint : SessionStateV2) (disk : Disk) :
    Prog.wp (.masks error crash)
      ⟨fun _ after => readState E current after = .ok checkpoint, fun _ _ => True, fun _ => True⟩
      (commitCheckpoint E current checkpoint) disk := by
  unfold commitCheckpoint acknowledgeCheckpoint
  refine Prog.wp_bind_any _ (fun _ _ => ?_) (fun _ _ => trivial) (fun _ => trivial) _
  refine Prog.wp_bind_any _ (fun _ _ => ?_) (fun _ _ => trivial) (fun _ => trivial) _
  refine Prog.wp_bind_any _ (fun _ _ => ?_) (fun _ _ => trivial) (fun _ => trivial) _
  refine Prog.wp_bind_any _ (fun _ _ => ?_) (fun _ _ => trivial) (fun _ => trivial) _
  refine Prog.wp_bind_any _ (fun _ _ => ?_) (fun _ _ => trivial) (fun _ => trivial) _
  refine Prog.wp_bind_any _ (fun _ _ => ?_) (fun _ _ => trivial) (fun _ => trivial) _
  refine Prog.wp_bind_any _ (fun _ found => ?_) (fun _ _ => trivial) (fun _ => trivial) _
  rw [Prog.wp_bind, Prog.wp_readWith]
  refine ⟨?_, fun _ => trivial, fun _ => trivial⟩
  rintro _ rfl
  refine ⟨fun reopened hreopened => ?_, fun _ _ => trivial⟩
  dsimp only
  split_ifs with hsame
  · refine (Prog.wp_perform _ _ _ _).2 ⟨?_, fun _ _ => trivial, fun _ _ => trivial⟩
    rintro _ rfl
    rw [← hsame]
    exact hreopened
  · trivial

theorem wp_checkpointAdvanced (current : Path) (baseline : SessionStateV2) (disk : Disk) :
    Prog.wp (.masks error crash)
      ⟨fun advanced after => after = disk ∧ (advanced = true →
          ∃ state, readState E current disk = .ok state ∧ baseline.revision < state.revision),
        fun _ _ => False, fun _ => True⟩ (checkpointAdvanced E current baseline) disk := by
  unfold checkpointAdvanced
  rw [Prog.wp_bind, Prog.wp_attempt, Prog.wp_readWith]
  refine ⟨?_, fun _ => ⟨rfl, by simp⟩, fun _ => trivial⟩
  rintro _ rfl
  refine ⟨fun state hstate => ⟨rfl, fun hadvanced => ⟨state, hstate, ?_⟩⟩, fun _ _ =>
    ⟨rfl, by simp⟩⟩
  simpa using hadvanced

/-- The checkpoint on disk is ahead of the handle. -/
def Advanced (E : Env) (session : LiveSessionV2) (disk : Disk) : Prop :=
  ∃ state, readState E session.paths.sessionState disk = .ok state ∧
    session.bundle.sessionState.revision < state.revision

theorem keeps_onDisk {α : Type} {path : Path} (session : LiveSessionV2) {m : FileProg α}
    (h : m.Within (KeepsFile path)) :
    Prog.Keeps (.masks error crash)
      (fun u : WriterV2 => u.disk.exists? path = true ∧ u.session = session) (onDisk m) := by
  intro u hu
  rw [wp_onDisk]
  refine Prog.wp_mono ?_ ?_ ?_ (wp_of_keepsFile h hu.1)
  · exact fun _ _ hdisk => ⟨hdisk, hu.2⟩
  · exact fun _ _ hdisk => ⟨hdisk, hu.2⟩
  · exact fun _ hdisk => ⟨hdisk, hu.2⟩

theorem keeps_reloadBundle {P : Disk → Prop} (site : FileSite) :
    Prog.Keeps (.masks error crash) (fun u : WriterV2 => P u.disk)
      (reloadBundle E F profile storeFindings site) := by
  unfold reloadBundle
  rw [onDisk_readWith]
  refine .bind (.readWith ?_) fun _ => Prog.keeps_modify fun _ h => h
  rintro _ _ rfl h
  exact h

theorem keeps_adoptPlan {P : Disk → Prop} (next : BundleV2Contents) :
    Prog.Keeps (.masks error crash) (fun u : WriterV2 => P u.disk) (adoptPlan next) := by
  refine .bind (Prog.keeps_modify fun _ h => h) fun _ => .bind Prog.keeps_get fun _ =>
    .bind (Prog.keeps_ofExcept _) fun _ => .bind (Prog.keeps_modify fun _ h => h) fun _ =>
    .zoom lens (Prog.zooms_masks error crash) (.perform ?_ fun _ _ h => h)
  rintro _ _ h rfl
  exact h

/-- A failed promotion leaves the directory, and the handle too unless the checkpoint is
ahead of it. -/
theorem wp_failPlan (u : WriterV2) (e : LivePersistenceError) :
    Prog.wp (.masks error crash)
      ⟨fun _ _ => True,
        fun _ v => v.disk = u.disk ∧ (v.session = u.session ∨ Advanced E u.session u.disk),
        fun _ => True⟩
      (failPlan E F profile storeFindings u.session.bundle.sessionState e) u := by
  unfold failPlan
  simp only [Prog.wp_bind, Prog.wp_get, wp_onDisk]
  refine Prog.wp_mono ?_ ?_ ?_ (wp_checkpointAdvanced _ _ _)
  · rintro advanced disk ⟨rfl, hadvanced⟩
    cases advanced with
    | false => exact ⟨rfl, .inl rfl⟩
    | true =>
      refine Prog.wp_mono ?_ ?_ ?_ (Prog.Keeps.bind
        (keeps_reloadBundle (P := fun disk => disk = u.disk) .reload)
        (fun _ => Prog.keeps_throw e) u rfl)
      · exact fun _ _ _ => trivial
      · exact fun _ _ hv => ⟨hv, .inr (hadvanced rfl)⟩
      · exact fun _ _ => trivial
  · exact fun _ _ h => h.elim
  · exact fun _ _ => trivial

theorem wp_texts (bundle : BundleV2Contents) (disk : Disk) :
    Prog.wp (.masks error crash)
      ⟨fun _ after => after.exists? (plan.path "station.json") = true,
        fun _ after => after = disk ∨ after.exists? (plan.path "station.json") = true,
        fun _ => True⟩ ((plan.texts E bundle).forM writePlanFile) disk := by
  refine (Prog.wp_forM _ _ _ _ _).2 (Prog.wp_mono ?_ ?_ ?_ (wp_writePlanFile _ _))
  · intro _ after hafter
    refine Prog.wp_mono ?_ ?_ ?_
      (wp_of_keepsFile (.forM (fun entry => writePlanFile_keeps _ entry) _) hafter)
    · exact fun _ _ h => h
    · exact fun _ _ h => .inr h
    · exact fun _ _ => trivial
  · exact fun _ _ h => h
  · exact fun _ _ => trivial

/-- A failure in the second half of a commit: nothing happened, or the first file of the
generation is there. -/
theorem wp_storePlan (hroot : t.session.paths.sessionState.isRoot = true) :
    Prog.wp (.masks error crash)
      ⟨fun _ _ => True,
        fun _ u => u = t ∨ u.disk.exists? (plan.path "station.json") = true ∧
          (u.session = t.session ∨ Advanced E t.session u.disk),
        fun _ => True⟩ (storePlan E F profile storeFindings plan) t := by
  have hstation := path_notMem plan "station.json" hroot
  unfold storePlan
  rw [Prog.wp_bind, Prog.wp_get]
  dsimp only
  rw [Prog.wp_bind, wp_onDisk]
  refine Prog.wp_mono ?_ ?_ (fun _ _ => trivial) (wp_texts _ _)
  swap
  · rintro _ disk (rfl | hdisk)
    · exact .inl rfl
    · exact .inr ⟨hdisk, .inl rfl⟩
  intro _ disk hdisk
  refine Prog.Keeps.wp_bind (keeps_onDisk t.session (syncAll_within .refl))
    ⟨hdisk, rfl⟩ ?_ (fun _ _ hu => .inr ⟨hu.1, .inl hu.2⟩) (fun _ _ => trivial)
  rintro _ u ⟨hu, husession⟩
  rw [Prog.wp_bind, Prog.wp_ofExcept]
  refine ⟨fun revision hrevision => ?_, fun _ _ => .inr ⟨hu, .inl husession⟩⟩
  have hnext := checkedAdd64_eq_some (orError_eq_ok.1 hrevision)
  dsimp only
  rw [Prog.wp_bind, Prog.wp_attempt, wp_onDisk]
  refine Prog.wp_mono ?_ ?_ ?_ (Prog.wp_and (wp_of_keepsFile (commitCheckpoint_keeps hstation _) hu)
    (wp_commitCheckpoint _ _ _))
  · rintro _ after ⟨hkept, hreads⟩
    have hadvanced : Advanced E t.session after :=
      ⟨_, hreads, show t.session.bundle.sessionState.revision < revision by omega⟩
    refine Prog.wp_mono ?_ ?_ ?_
      (keeps_adoptPlan (P := fun disk => disk = after) _ (setDisk after u) rfl)
    · exact fun _ _ _ => trivial
    · rintro _ v rfl
      exact .inr ⟨hkept, .inr hadvanced⟩
    · exact fun _ _ => trivial
  · rintro e after ⟨hkept, -⟩
    have hfail : Prog.wp (.masks error crash)
        ⟨fun _ _ => True, fun _ v => v.disk = (setDisk after u).disk ∧
          (v.session = (setDisk after u).session ∨
            Advanced E (setDisk after u).session (setDisk after u).disk), fun _ => True⟩
        (failPlan E F profile storeFindings (setDisk after u).session.bundle.sessionState e)
        (setDisk after u) := wp_failPlan (setDisk after u) e
    rw [show (setDisk after u).session = t.session from husession] at hfail
    refine Prog.wp_mono ?_ ?_ ?_ hfail
    · exact fun _ _ _ => trivial
    · rintro _ v ⟨hdisk, hsession⟩
      dsimp only
      rw [hdisk]
      exact .inr ⟨hkept, hsession⟩
    · exact fun _ _ => trivial
  · exact fun _ _ => trivial

/-- A handle takes its paths from the manifest it holds. -/
def Resolved (session : LiveSessionV2) : Prop :=
  ∃ state disk, v2PathsForState session.bundle.manifest.files state disk = .ok session.paths

theorem Resolved.isRoot {session : LiveSessionV2} (h : Resolved session) :
    session.paths.sessionState.isRoot = true := by
  obtain ⟨_, _, hpaths⟩ := h
  exact (v2PathsForState_wellFormed hpaths).sessionState

theorem Resolved.sessionState {session : LiveSessionV2} (h : Resolved session)
    {bootstrap : ResolvedBundlePathsV2}
    (hbootstrap : v2Paths session.bundle.manifest.files = .ok bootstrap) :
    session.paths.sessionState = bootstrap.sessionState := by
  obtain ⟨_, _, hpaths⟩ := h
  obtain ⟨other, hother, -, hcases⟩ := v2PathsForState_cases hpaths
  obtain rfl := Except.ok.inj (hother.symm.trans hbootstrap)
  rcases hcases with ⟨-, heq⟩ | ⟨-, heq⟩
  · rw [heq]
    rfl
  · rw [heq]

theorem Resolved.refreshes {session : LiveSessionV2} (h : Resolved w.session)
    (hrefreshes : Refreshes E F profile storeFindings w session) : Resolved session := by
  cases hrefreshes with
  | current => exact h
  | advanced _ _ hread =>
    simp only [readCurrent, liftStore, bind_eq_ok, mapError_eq_ok, pure_eq_ok] at hread
    obtain ⟨_, -, _, hpaths, heq⟩ := hread
    cases heq
    exact ⟨_, _, hpaths⟩

/-- The checkpoint selects the plan, and the files of its generation have the digests the
checkpoint names. -/
structure Selected (E : Env) (plan : PlanCommitV2) (w : WriterV2) : Prop where
  bundle : w.session.bundle.station = plan.station ∧ w.session.bundle.antennas = plan.antennas ∧
    w.session.bundle.schedule = plan.schedule
  checkpoint : readState E w.session.paths.sessionState w.disk =
    .ok w.session.bundle.sessionState
  active : w.session.bundle.sessionState.activePlan = plan.generation E
  files : ∀ entry ∈ planDigests w.session.bundle.sessionState w.session.paths,
    ∃ bytes, w.disk.get entry.2.1 = some bytes ∧ E.sha256Hex bytes = entry.2.2

/-- A file of a generation is created, or the commit ends at the one that exists. -/
theorem run_writePlanFile (entry : Path × Bytes) (disk : Disk) :
    Prog.run (writePlanFile entry) disk =
      if disk.exists? entry.1 = true then .failed (.io "create plan file" entry.1) disk
      else .returned () ((disk.put entry.1 []).put entry.1 entry.2) := by
  have hcontent : (disk.put entry.1 []).content entry.1 ++ entry.2 = entry.2 := by
    rw [Disk.content, Disk.get_put_self]
    rfl
  change Prog.run (createNew "create plan file" entry.1 >>= fun _ =>
    fillPlanFile entry.1 entry.2) disk = _
  unfold createNew
  rw [Prog.run_bind, Prog.run_get_bind]
  split_ifs
  · rfl
  · change Outcome.returned () ((disk.put entry.1 []).put entry.1
      ((disk.put entry.1 []).content entry.1 ++ entry.2)) = _
    rw [hcontent]

/-- The files of a generation end up with their texts, and no other file is replaced. -/
theorem run_writePlanFiles {entries : List (Path × Bytes)} {disk after : Disk} {u : PUnit}
    (h : Prog.run (entries.forM writePlanFile) disk = .returned u after) :
    (∀ entry ∈ entries, disk.exists? entry.1 = false ∧ after.get entry.1 = some entry.2) ∧
      ∀ path bytes, disk.get path = some bytes → after.get path = some bytes := by
  induction entries generalizing disk with
  | nil =>
    cases h
    exact ⟨by simp, fun _ _ => id⟩
  | cons entry rest ih =>
    change Prog.run (writePlanFile entry >>= fun _ => rest.forM writePlanFile) disk = _ at h
    obtain ⟨_, middle, hentry, hrest⟩ := Prog.run_bind_eq_returned.1 h
    rw [run_writePlanFile] at hentry
    split_ifs at hentry with hexists
    cases hentry
    obtain ⟨hfiles, hkept⟩ := ih hrest
    have hold : ∀ path bytes, disk.get path = some bytes →
        ((disk.put entry.1 []).put entry.1 entry.2).get path = some bytes := by
      intro path bytes hget
      have hne : path ≠ entry.1 := by
        rintro rfl
        rw [Disk.exists?, hget] at hexists
        exact hexists rfl
      rw [Disk.get_put_ne hne, Disk.get_put_ne hne]
      exact hget
    refine ⟨?_, fun path bytes hget => hkept path bytes (hold path bytes hget)⟩
    intro other hother
    rcases List.mem_cons.1 hother with rfl | hother
    · exact ⟨by simpa using hexists, hkept _ _ (Disk.get_put_self _ _ _)⟩
    · obtain ⟨hnew, hget⟩ := hfiles other hother
      refine ⟨?_, hget⟩
      by_contra hold'
      obtain ⟨bytes, hbytes⟩ := Option.isSome_iff_exists.1 (Bool.of_not_eq_false hold')
      rw [Disk.exists?, hold _ _ hbytes] at hnew
      cases hnew

theorem writePlanFile_touches (entry : Path × Bytes) :
    (writePlanFile entry).Within (Disk.Touches Set.univ) :=
  .bind (checkPoint_within .refl) fun _ => .bind (createNew_touches (Set.mem_univ _)) fun _ =>
    .bind (writeAll_touches (Set.mem_univ _) _) fun _ => .bind (checkPoint_within .refl) fun _ =>
    .bind (checkPoint_within .refl) fun _ => .bind (syncAll_within .refl) fun _ =>
    checkPoint_within .refl

theorem run_writePlanFiles_touches {entries : List (Path × Bytes)} {disk after : Disk} {u : PUnit}
    (h : Prog.run (entries.forM writePlanFile) disk = .returned u after) :
    Disk.Touches Set.univ disk after := by
  have hwithin := (Prog.Within.forM writePlanFile_touches entries).run .refl .trans disk
  rwa [h] at hwithin

theorem run_commitCheckpoint_touches {current : Path} {checkpoint : SessionStateV2}
    {disk after : Disk} {u : Unit}
    (h : Prog.run (commitCheckpoint E current checkpoint) disk = .returned u after) :
    Disk.Touches (checkpointFiles current) disk after := by
  have hwithin := (commitCheckpoint_touches (le_refl (checkpointFiles current)) E checkpoint).run
    .refl .trans disk
  rwa [h] at hwithin

theorem run_failPlan_ne {v : WriterV2} {u : Unit} (baseline : SessionStateV2)
    (e : LivePersistenceError) :
    Prog.run (failPlan E F profile storeFindings baseline e) t ≠ .returned u v := by
  intro h
  unfold failPlan at h
  rw [Prog.run_get_bind] at h
  obtain ⟨advanced, _, -, hrest⟩ := Prog.run_bind_eq_returned.1 h
  cases advanced with
  | false => exact Prog.run_throw_ne _ hrest
  | true =>
    obtain ⟨_, _, -, hthrow⟩ := Prog.run_bind_eq_returned.1 hrest
    exact Prog.run_throw_ne _ hthrow

theorem run_adoptPlan {next : BundleV2Contents} {v : WriterV2} {u : Unit}
    (h : Prog.run (adoptPlan next) t = .returned u v) :
    v.disk = t.disk ∧ v.session.bundle = next ∧
      v2PathsForState next.manifest.files next.sessionState t.disk = .ok v.session.paths := by
  unfold adoptPlan at h
  obtain ⟨_, _, hbundle, hrest⟩ := Prog.run_bind_eq_returned.1 h
  cases hbundle
  rw [Prog.run_get_bind] at hrest
  obtain ⟨paths, _, hresolve, hset⟩ := Prog.run_bind_eq_returned.1 hrest
  obtain ⟨hpaths, rfl⟩ := Prog.run_ofExcept_eq_returned.1 hresolve
  obtain ⟨_, _, hsession, hcheck⟩ := Prog.run_bind_eq_returned.1 hset
  cases hsession
  cases hcheck
  exact ⟨rfl, rfl, mapError_eq_ok.1 hpaths⟩

/-- What the second half of a commit that returns leaves behind. -/
theorem run_storePlan {v : WriterV2} {u : Unit} (hresolved : Resolved t.session)
    (hmade : plan.generationId ∈ t.disk.generationDirs)
    (h : Prog.run (storePlan E F profile storeFindings plan) t = .returned u v) :
    t.disk.exists? (plan.path "station.json") = false ∧ Selected E plan v := by
  unfold storePlan at h
  simp only [Prog.run_get_bind] at h
  obtain ⟨_, _, hwrite, h₁⟩ := Prog.run_bind_eq_returned.1 h
  obtain ⟨written, htexts, rfl⟩ := (Prog.run_zoom_eq_returned lens).1 hwrite
  obtain ⟨_, _, hsync, h₂⟩ := Prog.run_bind_eq_returned.1 h₁
  cases hsync
  obtain ⟨revision, _, hnext, h₃⟩ := Prog.run_bind_eq_returned.1 h₂
  obtain ⟨-, rfl⟩ := Prog.run_ofExcept_eq_returned.1 hnext
  obtain ⟨result, _, hattempt, h₄⟩ := Prog.run_bind_eq_returned.1 h₃
  cases result with
  | error e => exact absurd h₄ (run_failPlan_ne _ _)
  | ok _ =>
    obtain ⟨promoted, hcommit, rfl⟩ := (Prog.run_zoom_eq_returned lens).1
      (Prog.run_attempt_eq_ok.1 hattempt)
    obtain ⟨hdisk, hbundle, hpaths⟩ := run_adoptPlan h₄
    obtain ⟨hfiles, -⟩ := run_writePlanFiles htexts
    have hstored : ∀ name bytes, (plan.path name, bytes) ∈ plan.texts E t.session.bundle →
        v.disk.get (plan.path name) = some bytes := by
      intro name bytes hmem
      rw [hdisk]
      refine Eq.trans ?_ (hfiles _ hmem).2
      exact (run_commitCheckpoint_touches hcommit).get _ (path_notMem plan _ hresolved.isRoot)
    have hdirs : plan.generationId ∈ promoted.generationDirs := by
      have hcheckpoint := (run_commitCheckpoint_touches hcommit).generationDirs
      rw [hcheckpoint]
      exact (run_writePlanFiles_touches htexts).generationDirs ▸ hmade
    obtain ⟨bootstrap, hbootstrap, -, hcases⟩ := v2PathsForState_cases hpaths
    have hpaths : v.session.paths = bootstrap.inGeneration plan.generationId := by
      rcases hcases with ⟨-, heq⟩ | ⟨hmissing, -⟩
      · exact heq
      · exact absurd hdirs hmissing
    refine ⟨(hfiles _ (List.mem_cons_self)).1, ?_, ?_, ?_, ?_⟩
    · rw [hbundle]
      exact ⟨rfl, rfl, rfl⟩
    · rw [hbundle, hpaths, hdisk]
      have hread := Prog.wp_run_returned (M := .none) (fun _ _ => rfl)
        (wp_commitCheckpoint (E := E) _ _ _) hcommit
      rw [hresolved.sessionState hbootstrap] at hread
      exact hread
    · rw [hbundle]
      rfl
    · rw [hbundle, hpaths]
      simp only [planDigests, List.mem_cons, List.not_mem_nil, or_false,
        forall_eq_or_imp, forall_eq]
      exact ⟨⟨_, hstored "station.json" _ (by simp [PlanCommitV2.texts]), rfl⟩,
        ⟨_, hstored "antennas.json" _ (by simp [PlanCommitV2.texts]), rfl⟩,
        ⟨_, hstored "schedule.json" _ (by simp [PlanCommitV2.texts]), rfl⟩⟩

end

end WriterV2

end AntennaBench
