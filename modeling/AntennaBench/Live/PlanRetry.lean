import AntennaBench.Live.LifecycleV2
import AntennaBench.Live.PlanFiles

/-!
# A failed plan commit, tried again

Up to the first file of its generation a commit only looks at the directory, so a failure leaves
nothing behind that a second try would meet; after it, every try ends at the file that exists.
-/

namespace AntennaBench

open FaultIO

namespace WriterV2

section

variable {E : Env} {F : TextFormat} {profile : BundleResourceProfile}
  {storeFindings : BundleV2Contents → ResolvedBundlePathsV2 → Disk → List BundleDiagnostic}
  {w t : WriterV2} {plan : PlanCommitV2}

/-- What has to hold for the directory of the generation to be made. -/
structure Opens (E : Env) (F : TextFormat) (profile : BundleResourceProfile) (plan : PlanCommitV2)
    (session : LiveSessionV2) (disk : Disk) : Prop where
  admitted : plan.admitPlan session.bundle = .ok false
  unchanged : Unchanged E profile session disk
  valid : plan.validate E F session.bundle = .ok ()

theorem run_openGeneration_eq_returned {active : Bool} :
    Prog.run (openGeneration E F profile storeFindings plan) w = .returned active t ↔
      w.session.frozen = false ∧
      ∃ session, Refreshes E F profile storeFindings w session ∧
        (active = true ∧ plan.admitPlan session.bundle = .ok true ∧ t = w.setSession session ∨
          active = false ∧ Opens E F profile plan session w.disk ∧
            t = ⟨w.disk.makeGeneration plan.generationId, session⟩) := by
  unfold openGeneration
  simp only [Prog.run_get_bind, Prog.run_bind_eq_returned, run_ensureMutable_eq_returned,
    run_refreshIfAdvanced_eq_returned, Prog.run_ofExcept_eq_returned]
  constructor
  · rintro ⟨_, _, ⟨hfrozen, rfl⟩, _, _, ⟨session, hsession, rfl⟩, admitted, _, ⟨hadmits, rfl⟩, h⟩
    refine ⟨hfrozen, session, hsession, ?_⟩
    cases admitted with
    | true =>
      cases h
      exact .inl ⟨rfl, hadmits, rfl⟩
    | false =>
      simp only [Bool.false_eq_true, if_false, Prog.run_bind_eq_returned,
        run_verifyUnchanged_eq_returned, Prog.run_ofExcept_eq_returned] at h
      obtain ⟨_, _, ⟨hunchanged, rfl⟩, _, _, ⟨hvalid, rfl⟩, _, _, hmake, h⟩ := h
      cases h
      obtain ⟨_, hmake, rfl⟩ := (Prog.run_zoom_eq_returned lens).1 hmake
      cases hmake
      exact .inr ⟨rfl, ⟨hadmits, hunchanged, hvalid⟩, rfl⟩
  · rintro ⟨hfrozen, session, hsession, ⟨rfl, hadmits, rfl⟩ | ⟨rfl, hopens, rfl⟩⟩
    · exact ⟨(), _, ⟨hfrozen, rfl⟩, (), _, ⟨_, hsession, rfl⟩, _, _, ⟨hadmits, rfl⟩, rfl⟩
    · refine ⟨(), _, ⟨hfrozen, rfl⟩, (), _, ⟨_, hsession, rfl⟩, _, _, ⟨hopens.admitted, rfl⟩, ?_⟩
      simp only [Bool.false_eq_true, if_false, Prog.run_bind_eq_returned,
        run_verifyUnchanged_eq_returned, Prog.run_ofExcept_eq_returned]
      exact ⟨(), _, ⟨hopens.unchanged, rfl⟩, (), _, ⟨hopens.valid, rfl⟩, (), _,
        (Prog.run_zoom_eq_returned lens).2 ⟨_, rfl, rfl⟩, rfl⟩

/-- The state a failure before the first file of the generation leaves behind, which a
second try cannot tell from the first state. -/
inductive Untouched (E : Env) (F : TextFormat) (profile : BundleResourceProfile)
    (storeFindings : BundleV2Contents → ResolvedBundlePathsV2 → Disk → List BundleDiagnostic)
    (plan : PlanCommitV2) (w : WriterV2) : WriterV2 → Prop
  | same : Untouched E F profile storeFindings plan w w
  | opened {session : LiveSessionV2} {disk : Disk} :
      Refreshes E F profile storeFindings w session → Opens E F profile plan session w.disk →
      disk.files = w.disk.files →
      disk.makeGeneration plan.generationId = w.disk.makeGeneration plan.generationId →
      Untouched E F profile storeFindings plan w ⟨disk, session⟩

theorem Untouched.reopens {done : WriterV2} {active : Bool}
    (h : Untouched E F profile storeFindings plan w t)
    (hrun : Prog.run (openGeneration E F profile storeFindings plan) w = .returned active done) :
    Prog.run (openGeneration E F profile storeFindings plan) t = .returned active done := by
  cases h with
  | same => exact hrun
  | @opened session disk hrefreshes hopens hfiles hmake =>
    obtain ⟨hfrozen, other, hother, hcase⟩ := run_openGeneration_eq_returned.1 hrun
    obtain rfl := hother.unique hrefreshes
    have hunchanged := hopens.unchanged.of_files hfiles
    refine run_openGeneration_eq_returned.2 ⟨hrefreshes.frozen.trans hfrozen, other,
      .current hunchanged.checkpoint rfl, ?_⟩
    rcases hcase with ⟨-, hadmits, -⟩ | ⟨rfl, -, rfl⟩
    · exact absurd (hadmits.symm.trans hopens.admitted) (by simp)
    · rw [← hmake]
      exact .inr ⟨rfl, ⟨hopens.admitted, hunchanged, hopens.valid⟩, rfl⟩

/-- Whatever fails before the first file of the generation, the handle is frozen or
nothing happened that matters. -/
theorem wp_openGeneration {error crash : FileSite → Bool} {done : WriterV2} {active : Bool}
    (hrun : Prog.run (openGeneration E F profile storeFindings plan) w = .returned active done) :
    Prog.wp (.masks error crash)
      ⟨fun opened t => opened = active ∧ t = done,
        fun _ t => t.session.frozen = true ∨ Untouched E F profile storeFindings plan w t,
        fun _ => True⟩ (openGeneration E F profile storeFindings plan) w := by
  obtain ⟨hfrozen, session, hrefreshes, hcase⟩ := run_openGeneration_eq_returned.1 hrun
  unfold openGeneration
  rw [Prog.wp_bind]
  apply wp_ensureMutable hfrozen
  simp only [Prog.wp_bind, Prog.wp_get]
  refine wp_refreshIfAdvanced hrefreshes ?_ (fun _ => .inr .same) trivial
  dsimp only [setSession]
  rw [Prog.wp_ofExcept]
  rcases hcase with ⟨rfl, hadmits, rfl⟩ | ⟨rfl, hopens, rfl⟩
  · refine ⟨fun admitted hadmitted => ?_, fun e he => ?_⟩
    · obtain rfl := Except.ok.inj (hadmits.symm.trans hadmitted)
      exact ⟨rfl, rfl⟩
    · exact absurd (hadmits.symm.trans he) (by simp)
  refine ⟨fun admitted hadmitted => ?_, fun e he => ?_⟩
  · obtain rfl := Except.ok.inj (hopens.admitted.symm.trans hadmitted)
    have hopened : ∀ disk, disk.files = w.disk.files →
        disk.makeGeneration plan.generationId = w.disk.makeGeneration plan.generationId →
        Untouched E F profile storeFindings plan w ⟨disk, session⟩ := fun disk =>
      .opened hrefreshes hopens
    simp only [Bool.false_eq_true, if_false, Prog.wp_bind]
    refine wp_verifyUnchanged hopens.unchanged ?_ (fun _ => .inr (hopened _ rfl rfl))
      (fun _ => .inl rfl) trivial
    dsimp only
    rw [Prog.wp_ofExcept]
    refine ⟨fun _ _ => ?_, fun e he => absurd (hopens.valid.symm.trans he) (by simp)⟩
    dsimp only
    rw [wp_onDisk, Prog.wp_perform]
    refine ⟨?_, fun _ n => ?_, fun _ _ => trivial⟩
    · rintro _ rfl
      exact ⟨rfl, rfl⟩
    · cases n with
      | zero => exact .inr (hopened _ rfl rfl)
      | succ n => exact .inr (hopened _ rfl rfl)
  · exact absurd (hopens.admitted.symm.trans he) (by simp)

theorem run_commitPlan_eq_returned {receipt' : CommitReceiptV2} {v : WriterV2} :
    Prog.run (commitPlan E F profile storeFindings plan) w = .returned receipt' v ↔
      ∃ active t, Prog.run (openGeneration E F profile storeFindings plan) w = .returned active t ∧
        (active = true ∧ v = t ∧
            receipt' = ⟨t.session.bundle.sessionState.revision, plan.mutationId, true⟩ ∨
          active = false ∧ ∃ u, Prog.run (storePlan E F profile storeFindings plan) t =
            .returned u v ∧
            receipt' = ⟨v.session.bundle.sessionState.revision, plan.mutationId, false⟩) := by
  unfold commitPlan
  rw [Prog.run_bind_eq_returned]
  refine exists_congr fun active => exists_congr fun t => and_congr_right fun _ => ?_
  cases active with
  | true =>
    simp only [if_true, true_and, reduceCtorEq, false_and, or_false]
    constructor
    · intro h
      cases h
      exact ⟨rfl, rfl⟩
    · rintro ⟨rfl, rfl⟩
      rfl
  | false =>
    simp only [Bool.false_eq_true, if_false, false_and, true_and, false_or,
      Prog.run_bind_eq_returned]
    constructor
    · rintro ⟨u, _, hstore, h⟩
      cases h
      exact ⟨u, hstore, rfl⟩
    · rintro ⟨u, hstore, rfl⟩
      exact ⟨u, _, hstore, rfl⟩

theorem makeGeneration_idem (id : String) (disk : Disk) :
    (disk.makeGeneration id).makeGeneration id = disk.makeGeneration id := by
  by_cases h : id ∈ disk.generationDirs
  · simp [Disk.makeGeneration, h]
  · simp [Disk.makeGeneration, h]

/-- The states a failed commit ends in. -/
def LeftBy (E : Env) (F : TextFormat) (profile : BundleResourceProfile)
    (storeFindings : BundleV2Contents → ResolvedBundlePathsV2 → Disk → List BundleDiagnostic)
    (plan : PlanCommitV2) (w after : WriterV2) : Prop :=
  after.session.frozen = true ∨ Untouched E F profile storeFindings plan w after ∨
    ∃ session, Refreshes E F profile storeFindings w session ∧
      Opens E F profile plan session w.disk ∧
      after.disk.exists? (plan.path "station.json") = true ∧
      (after.session = session ∨ Advanced E session after.disk)

theorem wp_commitPlan {error crash : FileSite → Bool} {receipt' : CommitReceiptV2}
    {done : WriterV2} (hresolved : Resolved w.session)
    (hvalid : Prog.run (commitPlan E F profile storeFindings plan) w = .returned receipt' done) :
    Prog.wp (.masks error crash)
      ⟨fun _ _ => True, fun _ after => LeftBy E F profile storeFindings plan w after,
        fun _ => True⟩ (commitPlan E F profile storeFindings plan) w := by
  obtain ⟨active, t, hopen, -⟩ := run_commitPlan_eq_returned.1 hvalid
  unfold commitPlan
  rw [Prog.wp_bind]
  refine Prog.wp_mono ?_ ?_ ?_ (wp_openGeneration hopen)
  · rintro opened _ ⟨rfl, rfl⟩
    cases opened with
    | true => trivial
    | false =>
      obtain ⟨-, session, hrefreshes, ⟨hfalse, -, -⟩ | ⟨-, hopens, rfl⟩⟩ :=
        run_openGeneration_eq_returned.1 hopen
      · cases hfalse
      simp only [Bool.false_eq_true, if_false, Prog.wp_bind]
      refine Prog.wp_mono ?_ ?_ ?_ (wp_storePlan (hresolved.refreshes hrefreshes).isRoot)
      · exact fun _ _ _ => trivial
      · rintro _ u (rfl | ⟨hstation, hsession⟩)
        · exact .inr (.inl (.opened hrefreshes hopens rfl (makeGeneration_idem _ _)))
        · exact .inr (.inr ⟨session, hrefreshes, hopens, hstation, hsession⟩)
      · exact fun _ _ => trivial
  · rintro _ u (hfrozen | huntouched)
    · exact .inl hfrozen
    · exact .inr (.inl huntouched)
  · exact fun _ _ => trivial

/-- A commit that returned idempotently left the directory alone, and any other one selected
the plan in a directory that had no generation of its name. -/
theorem run_commitPlan_cases {receipt' : CommitReceiptV2} {done : WriterV2}
    (hresolved : Resolved w.session)
    (hrun : Prog.run (commitPlan E F profile storeFindings plan) w = .returned receipt' done) :
    receipt'.idempotent = true ∧ done.disk = w.disk ∨
      w.disk.exists? (plan.path "station.json") = false ∧ Selected E plan done := by
  obtain ⟨active, t, hopen, hcase⟩ := run_commitPlan_eq_returned.1 hrun
  obtain ⟨-, session, hrefreshes, hopened⟩ := run_openGeneration_eq_returned.1 hopen
  rcases hcase with ⟨rfl, rfl, rfl⟩ | ⟨rfl, u, hstore, -⟩
  · rcases hopened with ⟨-, -, rfl⟩ | ⟨hfalse, -, -⟩
    · exact .inl ⟨rfl, rfl⟩
    · cases hfalse
  · rcases hopened with ⟨hfalse, -, -⟩ | ⟨-, -, rfl⟩
    · cases hfalse
    have hmade : plan.generationId ∈ (w.disk.makeGeneration plan.generationId).generationDirs := by
      by_cases h : plan.generationId ∈ w.disk.generationDirs <;> simp [Disk.makeGeneration, h]
    exact .inr (run_storePlan (t := ⟨w.disk.makeGeneration plan.generationId, session⟩)
      (hresolved.refreshes hrefreshes) hmade hstore)

/-- Where the first file of the generation exists, no try gets past it. -/
theorem run_commitPlan_ne_of_station (hresolved : Resolved w.session)
    (hadmits : plan.admitPlan w.session.bundle = .ok false)
    (hstation : w.disk.exists? (plan.path "station.json") = true)
    (hbehind : ¬Advanced E w.session w.disk) (receipt' : CommitReceiptV2) (done : WriterV2) :
    Prog.run (commitPlan E F profile storeFindings plan) w ≠ .returned receipt' done := by
  intro hrun
  obtain ⟨active, t, hopen, hcase⟩ := run_commitPlan_eq_returned.1 hrun
  obtain ⟨-, session, hrefreshes, hopened⟩ := run_openGeneration_eq_returned.1 hopen
  cases hrefreshes with
  | advanced hstate hlater => exact hbehind ⟨_, hstate, hlater⟩
  | current hstate hsame =>
    rcases hopened with ⟨-, hactive, -⟩ | ⟨rfl, -, -⟩
    · exact absurd (hadmits.symm.trans hactive) (by simp)
    · rcases run_commitPlan_cases hresolved hrun with ⟨hidempotent, -⟩ | ⟨hnew, -⟩
      · rcases hcase with ⟨hfalse, -, -⟩ | ⟨-, _, -, rfl⟩
        · cases hfalse
        · cases hidempotent
      · rw [hnew] at hstation
        cases hstation

/-- A failed commit that did not move the checkpoint can be repeated exactly when it left
the handle writable and created no file of the generation. -/
theorem commitPlan_retries_iff {error crash : FileSite → Bool} {receipt' : CommitReceiptV2}
    {done after : WriterV2} {e : LivePersistenceError} (hresolved : Resolved w.session)
    (hvalid : Prog.run (commitPlan E F profile storeFindings plan) w = .returned receipt' done)
    (hfailed : Prog.Runs (.masks error crash) (commitPlan E F profile storeFindings plan) w
      (.failed e after))
    (hbehind : ∀ session, Refreshes E F profile storeFindings w session →
      ¬Advanced E session after.disk) :
    (∃ again settled,
        Prog.run (commitPlan E F profile storeFindings plan) after = .returned again settled ∧
        (again.idempotent = true ∧ settled.disk = w.disk ∨ Selected E plan settled)) ↔
      after.session.frozen = false ∧
        (after.disk.exists? (plan.path "station.json") = true →
          w.disk.exists? (plan.path "station.json") = true) := by
  have hleft : LeftBy E F profile storeFindings plan w after :=
    Prog.wp_sound (wp_commitPlan hresolved hvalid) hfailed
  constructor
  · rintro ⟨again, settled, hrun, -⟩
    obtain ⟨active, t, hopen, -⟩ := run_commitPlan_eq_returned.1 hrun
    obtain ⟨hfrozen, -⟩ := run_openGeneration_eq_returned.1 hopen
    refine ⟨hfrozen, fun hstation => ?_⟩
    rcases hleft with htrue | huntouched | ⟨session, hrefreshes, hopens, -, hsession⟩
    · rw [hfrozen] at htrue
      cases htrue
    · cases huntouched with
      | same => exact hstation
      | opened _ _ hfiles =>
        rwa [Disk.exists?, get_of_files hfiles] at hstation
    · rcases hsession with rfl | hadvanced
      · exact absurd hrun (run_commitPlan_ne_of_station (hresolved.refreshes hrefreshes)
          hopens.admitted hstation (hbehind _ hrefreshes) again settled)
      · exact absurd hadvanced (hbehind session hrefreshes)
  · rintro ⟨hfrozen, hstation⟩
    have hcases := run_commitPlan_cases hresolved hvalid
    obtain ⟨active, t, hopen, hcase⟩ := run_commitPlan_eq_returned.1 hvalid
    rcases hleft with htrue | huntouched | ⟨session, hrefreshes, hopens, hexists, -⟩
    · rw [hfrozen] at htrue
      cases htrue
    · refine ⟨receipt', done, run_commitPlan_eq_returned.2
        ⟨active, t, huntouched.reopens hopen, hcase⟩, ?_⟩
      exact hcases.imp id And.right
    · obtain ⟨-, other, hother, hopened⟩ := run_openGeneration_eq_returned.1 hopen
      obtain rfl := hother.unique hrefreshes
      rcases hopened with ⟨-, hadmits, -⟩ | ⟨rfl, -, -⟩
      · exact absurd (hadmits.symm.trans hopens.admitted) (by simp)
      · rcases hcases with ⟨hidempotent, -⟩ | ⟨hnew, -⟩
        · rcases hcase with ⟨hfalse, -, -⟩ | ⟨-, _, -, rfl⟩
          · cases hfalse
          · cases hidempotent
        · rw [hstation hexists] at hnew
          cases hnew

end

end WriterV2

def PlannedSlot.json (slot : PlannedSlot) : JsonText :=
  .object [("slot_id", .string slot.slotId), ("sequence_number", .nat slot.sequenceNumber),
    ("starts_at", JsonText.instant slot.startsAt), ("duration_seconds", .nat slot.durationSeconds),
    ("guard_seconds", .nat slot.guardSeconds), ("band", .string slot.band.text),
    ("antenna_label", .string slot.antennaLabel)]

def Schedule.json (schedule : Schedule) : JsonText :=
  .object [("schema_version", .nat schedule.schemaVersion),
    ("session_id", .string schedule.sessionId), ("mode", .string schedule.mode.text),
    ("goal", .string schedule.goal.text), ("slots", .array (schedule.slots.map PlannedSlot.json))]

def PlanGenerationMetadataV2.json (metadata : PlanGenerationMetadataV2) : JsonText :=
  .object [("schema_version", .nat metadata.schemaVersion),
    ("session_id", .string metadata.sessionId), ("base_revision", .nat metadata.baseRevision),
    ("generation", metadata.generation.json)]

namespace Scenario

def movedStation : Station := { readyV2.station with operatorNotes := some "moved" }

def planDigestsV2 : List (Bytes × String) :=
  [([], emptySha256),
    (document readyV2.station.json,
      "ee7f39497f9c8704f1ce34c83f4e96c2552c6e094860e43245e1c05af0a49efa"),
    (document movedStation.json,
      "c716b705b5d60254968e9a0e8cd88ff6add7d33804ae8e6fc60b1c6119d41833"),
    (document readyV2.antennas.json,
      "736073cd3dd1ea7da536ce730c5e555c5fc5229307919d7e414c288b8258c1b7"),
    (document readyV2.schedule.json,
      "6f93150d9cef631dca585017f8640497ae50ca266ceaac923d9ce5169d1667aa"),
    (stringBytes ("c716b705b5d60254968e9a0e8cd88ff6add7d33804ae8e6fc60b1c6119d41833" ++ "\n" ++
        "736073cd3dd1ea7da536ce730c5e555c5fc5229307919d7e414c288b8258c1b7" ++ "\n" ++
        "6f93150d9cef631dca585017f8640497ae50ca266ceaac923d9ce5169d1667aa"),
      "eaebc55f330256b9b9fe2d5bde87910c44899f1ce376178bab2d57a6b6c8fb2f")]

def rootPlanV2 : PlanGenerationV2 where
  generationId := "root"
  stationSha256 := "ee7f39497f9c8704f1ce34c83f4e96c2552c6e094860e43245e1c05af0a49efa"
  antennasSha256 := "736073cd3dd1ea7da536ce730c5e555c5fc5229307919d7e414c288b8258c1b7"
  scheduleSha256 := "6f93150d9cef631dca585017f8640497ae50ca266ceaac923d9ce5169d1667aa"
  rootSha256 := "3814ae748f9732e2f2c9924988302d7a24479a4e8b8f6d2ed8f334bd086a5769"

/-- The ready session before its first live plan commit. -/
def plannedV2 : BundleV2Contents :=
  { readyV2 with
    manifest := { readyV2.manifest with
      files := { files with runtimeContexts := none, diagnostics := none }
      creatorRuntimeContextId := none }
    sessionState := { readyV2.sessionState with
      activePlan := rootPlanV2
      streams := [("adapter_records", emptyHead), ("events", emptyHead),
        ("observations", emptyHead), ("propagation", emptyHead), ("rig", emptyHead)]
      activeRuntimeContextId := none
      diagnosticsStatus := none } }

def diskV2 : Disk where
  files := [(.root "session-state.json", document plannedV2.sessionState.json),
    (.root "station.json", document readyV2.station.json),
    (.root "antennas.json", document readyV2.antennas.json),
    (.root "schedule.json", document readyV2.schedule.json),
    (.root "events.jsonl", []), (.root "observations.jsonl", []),
    (.root "adapter-records.jsonl", []), (.root "rig.jsonl", []),
    (.root "propagation.jsonl", [])]
  digestDir := false
  generationsDir := false
  generationDirs := []

def writerV2 : WriterV2 where
  disk := diskV2
  session := {
    bundle := plannedV2
    paths := { session.paths with runtimeContexts := none, diagnostics := none }
    frozen := false }

def movedPlan : PlanCommitV2 where
  expectedRevision := 0
  generationId := "moved"
  station := movedStation
  antennas := readyV2.antennas
  schedule := readyV2.schedule

/-- The codecs of the plan documents. -/
def planCodecs : Env :=
  { env unknown with
    sha256Hex := digestOf planDigestsV2
    scheduleV2 := .ofValues Schedule.json [readyV2.schedule]
    planGeneration := .ofValues PlanGenerationMetadataV2.json [] }

/-- The texts of the session, before and after the commit. -/
def planEnv : Env :=
  let states := [plannedV2.sessionState, (movedPlan.next planCodecs plannedV2 1).sessionState]
  { planCodecs with sessionState := .ofValues SessionStateV2.json states }

def commitMoved : WriterProgV2 CommitReceiptV2 :=
  WriterV2.commitPlan planEnv textFormat localStandardV1 (fun _ _ _ => []) movedPlan

/-- The commit of which one effect fails. -/
def commitFailingAt (step : ℕ) : Outcome WriterV2 LivePersistenceError CommitReceiptV2 :=
  Prog.exec (fun _ => true) (fun _ => false) (List.replicate step .none ++ [.error 0])
    commitMoved writerV2

theorem commitFailingAt_runs {step : ℕ} {e : LivePersistenceError} {after : WriterV2}
    (h : commitFailingAt step = .failed e after) :
    Prog.Runs (.masks (fun _ => true) fun _ => false) commitMoved writerV2 (.failed e after) := by
  rw [← h]
  exact Prog.exec_runs (.masks _ _) (fun _ _ => rfl) _ _ _

/-- The checkpoint a state of the run has on disk. -/
def checkpointOf (w : WriterV2) : Option SessionStateV2 :=
  (readState planEnv writerV2.session.paths.sessionState w.disk).toOption

theorem not_advanced {after : WriterV2} (hafter : checkpointOf after = plannedV2.sessionState)
    (session : LiveSessionV2)
    (h : WriterV2.Refreshes planEnv textFormat localStandardV1 (fun _ _ _ => []) writerV2
      session) : ¬WriterV2.Advanced planEnv session after.disk := by
  have hfirst : checkpointOf writerV2 = plannedV2.sessionState := by decide +kernel
  cases h with
  | advanced hstate hlater =>
    unfold checkpointOf at hfirst
    rw [hstate] at hfirst
    cases hfirst
    exact absurd hlater (lt_irrefl _)
  | current =>
    rintro ⟨state, hstate, hlater⟩
    unfold checkpointOf at hafter
    rw [hstate] at hafter
    cases hafter
    exact absurd hlater (lt_irrefl _)

def Outcome.returns {σ ε α : Type} : Outcome σ ε α → Bool
  | .returned _ _ => true
  | _ => false

/-- The failure of this effect leaves the checkpoint, and the second try fails, too. -/
def refusedAfter (step : ℕ) : Bool :=
  match commitFailingAt step with
  | .failed _ after => checkpointOf after == some plannedV2.sessionState &&
      !Outcome.returns (Prog.run commitMoved after)
  | _ => false

theorem commitMoved_returns : Outcome.returns (Prog.run commitMoved writerV2) = true := by
  decide +kernel

/-- A write that fails after `station.json` was created makes the plan uncommittable. -/
theorem failedWrite_not_retryable :
    ¬∀ (step : ℕ) (receipt : CommitReceiptV2) (done after : WriterV2) (e : LivePersistenceError),
      Prog.run commitMoved writerV2 = .returned receipt done →
      commitFailingAt step = .failed e after →
      (∀ session, WriterV2.Refreshes planEnv textFormat localStandardV1 (fun _ _ _ => []) writerV2
        session → ¬WriterV2.Advanced planEnv session after.disk) →
      ∃ again settled, Prog.run commitMoved after = .returned again settled ∧
        (again.idempotent = true ∧ settled.disk = writerV2.disk ∨
          WriterV2.Selected planEnv movedPlan settled) := by
  intro hclaim
  have hrefused : refusedAfter 6 = true := by decide +kernel
  have hreturns := commitMoved_returns
  cases hrun : Prog.run commitMoved writerV2 with
  | failed | crashed =>
    rw [hrun] at hreturns
    cases hreturns
  | returned receipt done =>
    unfold refusedAfter at hrefused
    split at hrefused
    · rename_i e after hfailed
      simp only [Bool.and_eq_true, beq_iff_eq, Bool.not_eq_true'] at hrefused
      obtain ⟨again, settled, hagain, -⟩ :=
        hclaim 6 receipt done after e hrun hfailed (not_advanced hrefused.1)
      rw [hagain] at hrefused
      cases hrefused.2
    · cases hrefused

/-- The directory of the generation cannot be made at first; the second try commits. -/
theorem failedDirectory_retryable : ∃ e after again settled,
    commitFailingAt 3 = .failed e after ∧ Prog.run commitMoved after = .returned again settled ∧
      (again.idempotent = true ∧ settled.disk = writerV2.disk ∨
        WriterV2.Selected planEnv movedPlan settled) := by
  have hreturns := commitMoved_returns
  have hleft : (match commitFailingAt 3 with
      | .failed _ after => checkpointOf after == some plannedV2.sessionState &&
          !after.session.frozen && !after.disk.exists? (movedPlan.path "station.json")
      | _ => false) = true := by decide +kernel
  cases hrun : Prog.run commitMoved writerV2 with
  | failed | crashed =>
    rw [hrun] at hreturns
    cases hreturns
  | returned receipt done =>
    split at hleft
    · rename_i e after hfailed
      simp only [Bool.and_eq_true, beq_iff_eq, Bool.not_eq_true'] at hleft
      obtain ⟨⟨hcheckpoint, hfrozen⟩, hstation⟩ := hleft
      have hresolved : WriterV2.Resolved writerV2.session :=
        ⟨plannedV2.sessionState, diskV2, by decide⟩
      obtain ⟨again, settled, hagain⟩ := (WriterV2.commitPlan_retries_iff hresolved hrun
        (commitFailingAt_runs hfailed) (not_advanced hcheckpoint)).2
          ⟨hfrozen, fun hexists => absurd hexists (by simp [hstation])⟩
      exact ⟨e, after, again, settled, hfailed, hagain⟩
    · cases hleft

end Scenario

end AntennaBench
