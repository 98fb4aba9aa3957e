import AntennaBench.Live.HandleV2

/-!
# The requests a handle answers

The answer to a request of a schema-v2 writer is decided on the committed bundle alone. An
operation of the handle that returns, whatever failed in it, has given that answer on the bundle
it found, with the heads read from the files it appended to.
-/

namespace AntennaBench

open FaultIO

namespace WriterV2

section

variable (E : Env) (F : TextFormat) (profile : BundleResourceProfile)
  (storeFindings : BundleV2Contents → ResolvedBundlePathsV2 → Disk → List BundleDiagnostic)

/-- The operation of a request. -/
def program : WriterRequestV2 → WriterProgV2 CommitReceiptV2
  | .append mutation now => append E F profile storeFindings mutation now
  | .commitPlan plan => commitPlan E F profile storeFindings plan

/-- The receipt and the handle are the answer to the request on the bundle the handle found. -/
def Answers (request : WriterRequestV2) (w : WriterV2) (receipt : CommitReceiptV2)
    (t : WriterV2) : Prop :=
  ∃ session disk, Refreshes E F profile storeFindings w session ∧
    answerV2 E profile (strictMessages F)
        (fun next => checkpointFromPaths E profile next session.paths disk) session.bundle request =
      .ok (if receipt.idempotent then none else some t.session.bundle) ∧
    (receipt.idempotent = true → t = w.setSession session) ∧
    receipt.revision = t.session.bundle.sessionState.revision

end

section

variable {E : Env} {F : TextFormat} {profile : BundleResourceProfile}
  {storeFindings : BundleV2Contents → ResolvedBundlePathsV2 → Disk → List BundleDiagnostic}
  {error crash : FileSite → Bool} {w : WriterV2}

theorem returns_onDisk {α : Type} {R : α → Disk → Prop} {m : FileProg α}
    (h : Prog.Returns (.masks error crash) R m w.disk) :
    Prog.Returns (.masks error crash) (fun a t => R a t.disk ∧ t.session = w.session)
      (onDisk m) w := by
  refine ⟨(wp_onDisk _ m w).2 ?_⟩
  exact (h.mono fun a disk hR => ⟨hR, rfl⟩).ends

theorem returns_ensureMutable :
    Prog.Returns (.masks error crash) (fun _ t => t = w) ensureMutable w := by
  apply Prog.Returns.get_bind
  dsimp only
  split_ifs
  · exact Prog.returns_throw _
  · exact Prog.returns_pure rfl

theorem returns_reloadBundle (site : FileSite) :
    Prog.Returns (.masks error crash)
      (fun _ t => ∃ bundle paths, readCurrent E F profile storeFindings w.disk =
        .ok (bundle, paths) ∧ t = w.setSession { w.session with bundle, paths })
      (reloadBundle E F profile storeFindings site) w := by
  unfold reloadBundle
  rw [onDisk_readWith]
  apply Prog.returns_readWith.bind
  rintro ⟨bundle, paths⟩ t ⟨hread, rfl⟩
  exact ⟨bundle, paths, hread, rfl⟩

theorem returns_refreshIfAdvanced :
    Prog.Returns (.masks error crash)
      (fun _ t => ∃ session, Refreshes E F profile storeFindings w session ∧
        t = w.setSession session) (refreshIfAdvanced E F profile storeFindings) w := by
  apply Prog.Returns.get_bind
  dsimp only
  rw [onDisk_readWith]
  apply Prog.returns_readWith.bind
  rintro state t ⟨hstate, rfl⟩
  split_ifs with hsame hlower
  · exact Prog.returns_pure ⟨_, .current hstate hsame, rfl⟩
  · exact (Prog.returns_any freeze t).bind fun _ _ _ => Prog.returns_throw _
  · refine (returns_reloadBundle .read).mono ?_
    rintro _ _ ⟨bundle, paths, hread, rfl⟩
    exact ⟨_, .advanced hstate (by omega) hread, rfl⟩

theorem returns_verifyUnchanged :
    Prog.Returns (.masks error crash) (fun _ t => t = w) (verifyUnchanged E profile) w := by
  apply Prog.Returns.get_bind
  dsimp only
  rw [onDisk_readWith]
  apply Prog.returns_readWith.bind
  rintro actual t ⟨-, rfl⟩
  split_ifs
  · rw [onDisk_readWith]
    apply Prog.returns_readWith.attempt.bind
    rintro (e | u) t' ht
    · exact (Prog.returns_any freeze t').bind fun _ _ _ => Prog.returns_throw _
    · exact Prog.returns_pure (ht u rfl).2
  · exact (Prog.returns_any freeze t).bind fun _ _ _ => Prog.returns_throw _

theorem returns_receipt (mutationId : String) (idempotent : Bool) :
    Prog.Returns (.masks error crash)
      (fun answer t => t = w ∧
        answer = ⟨w.session.bundle.sessionState.revision, mutationId, idempotent⟩)
      (receipt mutationId idempotent) w :=
  .get_bind (Prog.returns_pure ⟨rfl, rfl⟩)

theorem planAppendV2_eq (checkpointHeads : BundleV2Contents →
      Except LivePersistenceError (List (String × StreamCheckpointV2)))
    (bundle : BundleV2Contents) (mutation : LiveMutationV2) (now : DateTime) :
    planAppendV2 E profile (strictMessages F) checkpointHeads bundle mutation now =
      (do
        match ← admitMutation F bundle mutation now with
        | none => return none
        | some (mutation, lifecycle) =>
          preflightLiveBudget profile bundle.sessionState (mutation.serialized E)
          let next := appendMembers bundle mutation.members
          let streams ← checkpointHeads next
          let revision ← orError (checkedAdd64 bundle.sessionState.revision 1)
            (.invalidMutation "checkpoint revision overflowed")
          return some { next with sessionState := { next.sessionState with
            streams, revision, lifecycle
            lastCommittedMutationId := some mutation.mutationId } }) := by
  unfold planAppendV2 admitMutation
  cases committedMutation? bundle mutation.mutationId with
  | some existing =>
    dsimp only
    split_ifs <;> rfl
  | none => simp only [bind_assoc, pure_bind]

/-- What a commit of the files returns is the next bundle, with the heads of some directory. -/
theorem returns_commitFilesV2 (session : LiveSessionV2) (mutation : LiveMutationV2)
    (lifecycle : SessionLifecycleV2) (disk : Disk) :
    Prog.Returns (.masks error crash)
      (fun next _ => ∃ after streams revision,
        checkpointFromPaths E profile (appendMembers session.bundle mutation.members)
            session.paths after = .ok streams ∧
          checkedAdd64 session.bundle.sessionState.revision 1 = some revision ∧
          next = { appendMembers session.bundle mutation.members with
            sessionState := { (appendMembers session.bundle mutation.members).sessionState with
              streams, revision, lifecycle
              lastCommittedMutationId := some mutation.mutationId } })
      (commitFilesV2 E profile session mutation lifecycle) disk := by
  refine (Prog.returns_any _ _).bind fun _ written _ => ?_
  apply Prog.returns_readWith.bind
  rintro streams after ⟨hstreams, rfl⟩
  apply Prog.returns_ofExcept.bind
  rintro revision _ ⟨hrevision, rfl⟩
  refine (Prog.returns_any _ _).bind fun _ committed _ => Prog.returns_pure ?_
  exact ⟨_, streams, revision, hstreams, orError_eq_ok.1 hrevision, rfl⟩

theorem returns_failAppend (baseline : SessionStateV2) (e : LivePersistenceError) (t : WriterV2) :
    Prog.Returns (.masks error crash) (fun _ _ => False)
      (failAppend E F profile storeFindings baseline e) t := by
  refine (Prog.returns_any _ _).bind ?_
  rintro (_ | _) t' -
  · exact (Prog.returns_any _ _).bind fun _ _ _ => Prog.returns_throw e
  · exact Prog.returns_throw e

theorem returns_commitAppend (mutation : LiveMutationV2) (lifecycle : SessionLifecycleV2) :
    Prog.Returns (.masks error crash)
      (fun _ t => preflightLiveBudget profile w.session.bundle.sessionState
          (mutation.serialized E) = .ok () ∧
        ∃ after streams revision,
          checkpointFromPaths E profile (appendMembers w.session.bundle mutation.members)
              w.session.paths after = .ok streams ∧
            checkedAdd64 w.session.bundle.sessionState.revision 1 = some revision ∧
            t.session.bundle = { appendMembers w.session.bundle mutation.members with
              sessionState := { (appendMembers w.session.bundle mutation.members).sessionState with
                streams, revision, lifecycle
                lastCommittedMutationId := some mutation.mutationId } })
      (commitAppend E F profile storeFindings mutation lifecycle) w := by
  apply Prog.Returns.get_bind
  apply Prog.returns_ofExcept.bind
  rintro ⟨⟩ t ⟨hbudget, rfl⟩
  refine (returns_onDisk (returns_commitFilesV2 _ _ _ _)).attempt.bind ?_
  rintro (e | next) t' ht
  · exact (returns_failAppend _ e t').mono fun _ _ h => h.elim
  · obtain ⟨⟨after, streams, revision, hstreams, hrevision, rfl⟩, hsession⟩ := ht next rfl
    apply Prog.Returns.modify_bind
    refine (returns_onDisk (Prog.returns_any _ _)).mono ?_
    rintro _ t'' ⟨-, ht''⟩
    refine ⟨hbudget, after, streams, revision, hstreams, hrevision, ?_⟩
    rw [ht'']
    rfl

theorem returns_append (mutation : LiveMutationV2) (now : DateTime) :
    Prog.Returns (.masks error crash)
      (Answers E F profile storeFindings (.append mutation now) w)
      (append E F profile storeFindings mutation now) w := by
  apply returns_ensureMutable.bind
  rintro _ w rfl
  apply returns_refreshIfAdvanced.bind
  rintro _ _ ⟨session, hrefreshes, rfl⟩
  apply Prog.Returns.get_bind
  apply Prog.returns_ofExcept.bind
  rintro admitted _ ⟨hadmitted, rfl⟩
  cases admitted with
  | none =>
    refine (returns_receipt mutation.mutationId true).mono ?_
    rintro _ _ ⟨rfl, rfl⟩
    refine ⟨session, w.disk, hrefreshes, ?_, fun _ => rfl, rfl⟩
    rw [answerV2, planAppendV2_eq]
    exact bind_eq_ok.2 ⟨_, hadmitted, rfl⟩
  | some admitted =>
    obtain ⟨prepared, lifecycle⟩ := admitted
    apply returns_verifyUnchanged.bind
    rintro _ _ rfl
    refine (returns_commitAppend prepared lifecycle).bind ?_
    rintro _ t ⟨hbudget, after, streams, revision, hstreams, hrevision, hnext⟩
    refine (returns_receipt prepared.mutationId false).mono ?_
    rintro _ t ⟨rfl, rfl⟩
    refine ⟨session, after, hrefreshes, ?_, nofun, rfl⟩
    rw [answerV2, planAppendV2_eq, hnext]
    exact bind_eq_ok.2 ⟨_, hadmitted, bind_eq_ok.2 ⟨_, hbudget, bind_eq_ok.2 ⟨_, hstreams,
      bind_eq_ok.2 ⟨_, orError_eq_ok.2 hrevision, rfl⟩⟩⟩⟩

/-- The mutation that refers to the stored attachment is answered on the same handle, over a
directory that may hold the attachment. -/
theorem returns_appendWithAttachment (bytes : Bytes) (mediaType : String)
    (encoding container sourceLocator : Option String)
    (buildMutation : AttachmentReference → LiveMutationV2) (now : DateTime) :
    Prog.Returns (.masks error crash)
      (fun answer t => ∃ disk, Answers E F profile storeFindings
        (.append (buildMutation answer.1) now) (w.setDisk disk) answer.2 t)
      (appendWithAttachment E F profile storeFindings bytes mediaType encoding container
        sourceLocator buildMutation now) w := by
  apply returns_ensureMutable.bind
  rintro _ w rfl
  apply Prog.Returns.get_bind
  refine (returns_onDisk (Prog.returns_any _ _)).bind ?_
  rintro reference stored ⟨-, hsession⟩
  refine (returns_append _ now).attempt.bind ?_
  rintro (e | receipt) t ht
  · apply Prog.Returns.get_bind
    dsimp only
    split_ifs
    · exact (Prog.returns_any _ _).bind fun _ _ _ => Prog.returns_throw e
    · exact Prog.returns_throw e
  · refine Prog.returns_pure ⟨stored.disk, ?_⟩
    have hstored : w.setDisk stored.disk = stored := by
      rw [← lens.set_get stored]
      unfold setDisk
      rw [hsession]
    rw [hstored]
    exact ht receipt rfl

theorem commitPlanV2_eq (bundle : BundleV2Contents) (plan : PlanCommitV2) :
    commitPlanV2 E (strictMessages F) bundle plan =
      (do
        if ← plan.admitPlan bundle then return none
        else
          plan.validate E F bundle
          let revision ← orError (checkedAdd64 bundle.sessionState.revision 1)
            (.invalidMutation "checkpoint revision overflowed")
          return some (plan.next E bundle revision)) := by
  unfold commitPlanV2 PlanCommitV2.admitPlan
  dsimp only
  split_ifs
  · rfl
  · rfl
  · simp only [bind_assoc, pure_bind]
    rfl

theorem returns_openGeneration (plan : PlanCommitV2) :
    Prog.Returns (.masks error crash)
      (fun active t => ∃ session, Refreshes E F profile storeFindings w session ∧
        plan.admitPlan session.bundle = .ok active ∧ t.session = session ∧
        (active = true → t = w.setSession session) ∧
        (active = false → plan.validate E F session.bundle = .ok ()))
      (openGeneration E F profile storeFindings plan) w := by
  apply returns_ensureMutable.bind
  rintro _ w rfl
  apply returns_refreshIfAdvanced.bind
  rintro _ _ ⟨session, hrefreshes, rfl⟩
  apply Prog.Returns.get_bind
  apply Prog.returns_ofExcept.bind
  rintro active _ ⟨hadmits, rfl⟩
  cases active with
  | true =>
    rw [if_pos rfl]
    exact Prog.returns_pure ⟨session, hrefreshes, hadmits, rfl, fun _ => rfl, nofun⟩
  | false =>
    rw [if_neg Bool.false_ne_true]
    apply returns_verifyUnchanged.bind
    rintro _ _ rfl
    apply Prog.returns_ofExcept.bind
    rintro u _ ⟨hvalid, rfl⟩
    refine (returns_onDisk (Prog.returns_any _ _)).bind ?_
    rintro _ t ⟨-, hsession⟩
    exact Prog.returns_pure ⟨session, hrefreshes, hadmits, hsession, nofun, fun _ => hvalid⟩

theorem returns_failPlan (baseline : SessionStateV2) (e : LivePersistenceError) (t : WriterV2) :
    Prog.Returns (.masks error crash) (fun _ _ => False)
      (failPlan E F profile storeFindings baseline e) t := by
  apply Prog.Returns.get_bind
  refine (Prog.returns_any _ _).bind ?_
  rintro (_ | _) t' -
  · exact Prog.returns_throw e
  · exact (Prog.returns_any _ _).bind fun _ _ _ => Prog.returns_throw e

theorem returns_adoptPlan (next : BundleV2Contents) (t : WriterV2) :
    Prog.Returns (.masks error crash) (fun _ u => u.session.bundle = next) (adoptPlan next) t := by
  apply Prog.Returns.modify_bind
  apply Prog.Returns.get_bind
  apply Prog.returns_ofExcept.bind
  rintro paths _ ⟨-, rfl⟩
  apply Prog.Returns.modify_bind
  refine (returns_onDisk (Prog.returns_any _ _)).mono ?_
  rintro _ u ⟨-, hsession⟩
  rw [hsession]
  rfl

theorem returns_storePlan (plan : PlanCommitV2) :
    Prog.Returns (.masks error crash)
      (fun _ t => ∃ revision, checkedAdd64 w.session.bundle.sessionState.revision 1 =
        some revision ∧ t.session.bundle = plan.next E w.session.bundle revision)
      (storePlan E F profile storeFindings plan) w := by
  apply Prog.Returns.get_bind
  refine (Prog.returns_any _ _).bind fun _ _ _ => ?_
  refine (Prog.returns_any _ _).bind fun _ _ _ => ?_
  apply Prog.returns_ofExcept.bind
  rintro revision _ ⟨hrevision, rfl⟩
  refine (Prog.returns_any _ _).bind ?_
  rintro (e | _) t -
  · exact (returns_failPlan _ e t).mono fun _ _ h => h.elim
  · refine (returns_adoptPlan _ t).mono ?_
    rintro _ u hu
    exact ⟨revision, orError_eq_ok.1 hrevision, hu⟩

theorem returns_commitPlan (plan : PlanCommitV2) :
    Prog.Returns (.masks error crash) (Answers E F profile storeFindings (.commitPlan plan) w)
      (commitPlan E F profile storeFindings plan) w := by
  refine (returns_openGeneration plan).bind ?_
  rintro active t ⟨session, hrefreshes, hadmits, rfl, hactive, hvalid⟩
  cases active with
  | true =>
    refine (returns_receipt plan.mutationId true).mono ?_
    rintro _ t ⟨rfl, rfl⟩
    refine ⟨t.session, t.disk, hrefreshes, ?_, fun _ => hactive rfl, rfl⟩
    rw [answerV2, commitPlanV2_eq]
    exact bind_eq_ok.2 ⟨_, hadmits, rfl⟩
  | false =>
    refine (returns_storePlan plan).bind ?_
    rintro _ u ⟨revision, hrevision, hnext⟩
    refine (returns_receipt plan.mutationId false).mono ?_
    rintro _ u ⟨rfl, rfl⟩
    refine ⟨t.session, t.disk, hrefreshes, ?_, nofun, rfl⟩
    rw [answerV2, commitPlanV2_eq, hnext]
    exact bind_eq_ok.2 ⟨_, hadmits, bind_eq_ok.2 ⟨_, hvalid rfl,
      bind_eq_ok.2 ⟨_, orError_eq_ok.2 hrevision, rfl⟩⟩⟩

/-- What an operation that returns has done is the answer to its request. -/
theorem program_answers (request : WriterRequestV2) :
    Prog.Returns (.masks error crash) (Answers E F profile storeFindings request w)
      (program E F profile storeFindings request) w := by
  cases request with
  | append mutation now => exact returns_append mutation now
  | commitPlan plan => exact returns_commitPlan plan

end

end WriterV2

end AntennaBench
