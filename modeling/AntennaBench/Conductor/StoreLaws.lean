import AntennaBench.Analysis.OperatorFacts
import AntennaBench.Conductor.LiveSession
import AntennaBench.Storage.PlanV3

/-!
# The stores of the conductor

What a conductor call relies on. A mutation that was committed before is recognised by its
event; a new one is taken at the revision of the checkpoint, adds its event and names itself.
The event of an action depends on the session, on its token and on the time of the token.
-/

namespace AntennaBench

/-- What a new mutation does to the committed bundle. -/
structure CheckpointedStore.Commits {Bundle Event : Type} (S : CheckpointedStore Bundle Event)
    (same : Event → Event → Prop) (committed : Bundle) (expectedRevision : ℕ)
    (mutationId : String) (event : Event) (next : Bundle) : Prop where
  fresh : ∀ record ∈ S.events committed, S.mutationId record ≠ mutationId
  expected : expectedRevision = S.revision committed
  session : S.sessionId next = S.sessionId committed
  later : S.revision committed < S.revision next
  named : S.lastCommittedMutationId next = some mutationId
  added : ∃ record, S.events next = S.events committed ++ [record] ∧
    S.mutationId record = mutationId ∧ same record event
  derives : S.eventForAction next = S.eventForAction committed

/-- What the conductor relies on. -/
structure CheckpointedStore.Lawful {Bundle Event : Type} (S : CheckpointedStore Bundle Event)
    (same : Event → Event → Prop) : Prop where
  settled : ∀ {committed expectedRevision mutationId event now},
    S.append committed expectedRevision mutationId event now = .ok none →
      ∃ record ∈ S.events committed, S.mutationId record = mutationId ∧ same record event
  appended : ∀ {committed expectedRevision mutationId event now next},
    S.append committed expectedRevision mutationId event now = .ok (some next) →
      S.Commits same committed expectedRevision mutationId event next
  timed : ∀ {committed pending renewed action}, renewed.token = pending.token →
    renewed.occurredAt = pending.occurredAt →
      S.eventForAction committed renewed action = S.eventForAction committed pending action

/-- The committed event is the proposed one under the envelope of the writer. -/
def SameActionV2 (committed proposed : OperatorEventV2) : Prop :=
  committed = { proposed with recordMeta := { proposed.recordMeta with
    schemaVersion := committed.recordMeta.schemaVersion
    sessionId := committed.recordMeta.sessionId
    recordedAt := committed.recordMeta.recordedAt
    mutation := committed.recordMeta.mutation } }

/-- The committed event is the proposed one under the envelope of the writer, or equal to
it as the writer compares them. -/
def SameActionV3 (committed proposed : OperatorEventV3) : Prop :=
  committed = { proposed with recordMeta := committed.recordMeta } ∨
    sameV3EventBusinessValue committed proposed = true

section

variable (packageVersion : String) (profile : BundleResourceProfile) (E : Env)
  (strictReport : BundleContents → List String)
  (checkpointHeads : BundleV2Contents →
    Except LivePersistenceError (List (String × StreamCheckpointV2)))
  (context : Option RuntimeContextV6) (paths : ResolvedBundlePathsV2)

theorem checkedAdd64_lt {n m : ℕ} (h : checkedAdd64 n 1 = some m) : n < m := by
  unfold checkedAdd64 at h
  split_ifs at h
  obtain rfl := Option.some.inj h
  omega

theorem planEvent_settled {session : LiveSessionV3} {mutation : LiveEventMutationV3}
    {now : DateTime} {receipt : CommitReceiptV2}
    (h : planEvent E profile session mutation now = .ok (.settled receipt)) :
    ∃ record ∈ session.bundle.events, record.recordMeta.mutation.mutationId = mutation.mutationId ∧
      SameActionV3 record mutation.event := by
  unfold planEvent at h
  dsimp only at h
  split at h
  · rename_i record hrecord
    unfold settle at h
    split_ifs at h with hsame
    have hid := List.find?_some hrecord
    exact ⟨record, List.mem_of_find?_eq_some hrecord, by simpa using hid, .inr hsame⟩
  · simp only [bind_eq_ok, pure_eq_ok, reduceCtorEq, and_false, exists_false] at h

theorem storeV3_lawful :
    (storeV3 packageVersion profile E context paths).Lawful SameActionV3 where
  settled := by
    intro committed expectedRevision mutationId event now h
    obtain ⟨decision, hdecision, hnone⟩ := bind_eq_ok.1 h
    cases decision with
    | settled receipt => exact planEvent_settled profile E hdecision
    | commit plan receipt => cases hnone
  appended := by
    intro committed expectedRevision mutationId event now next h
    obtain ⟨decision, hdecision, hnext⟩ := bind_eq_ok.1 h
    cases decision with
    | settled receipt => cases hnext
    | commit plan receipt =>
      cases hnext
      obtain ⟨actor, candidate, hcommitted⟩ := planEvent_eq_commit hdecision
      have hextends := hcommitted.extends
      have hmanifest : plan.candidate.manifest = committed.manifest := by
        rw [hextends.records]
        rfl
      refine {
        fresh := fun record hrecord hid => ?_
        expected := hcommitted.expected
        session := congrArg (·.sessionId) hmanifest
        later := ?_
        named := hcommitted.named
        added := ⟨storedEvent (writerOn context committed paths)
          ⟨expectedRevision, mutationId, event⟩ now actor, ?_, rfl, .inl rfl⟩
        derives := ?_ }
      · have hne := List.find?_eq_none.1 hcommitted.fresh record hrecord
        change record.recordMeta.mutation.mutationId = mutationId at hid
        exact hne (by simpa using hid)
      · change committed.sessionState.revision < plan.candidate.sessionState.revision
        rw [hextends.revision]
        exact Nat.lt_succ_self _
      · change plan.candidate.events = _
        rw [hextends.records]
        rfl
      · change eventForActionV3 packageVersion plan.candidate.manifest.sessionId
          plan.candidate.manifest.schemaVersion = _
        rw [hmanifest]
        rfl
  timed := by
    intro committed pending renewed action htoken htime
    change eventForActionV3 _ _ _ renewed action = eventForActionV3 _ _ _ pending action
    simp only [eventForActionV3, actionTime, actionMeta, htoken, htime]

theorem mem_members_event {bundle : BundleV2Contents} {event : OperatorEventV2}
    (h : LiveMutationMemberV2.event event ∈ bundle.members) : event ∈ bundle.events := by
  simpa [BundleV2Contents.members] using h

theorem sameBusinessMembers_event {existing : List LiveMutationMemberV2} {event : OperatorEventV2}
    (h : sameBusinessMembers existing [.event event] = true) :
    ∃ record, existing = [.event record] ∧ SameActionV2 record event := by
  unfold sameBusinessMembers allSame at h
  simp only [List.insertionSort_cons, List.insertionSort_nil, List.orderedInsert_nil,
    List.length_singleton, Bool.and_eq_true, beq_iff_eq] at h
  obtain ⟨hlength, hall⟩ := h
  obtain ⟨member, rfl⟩ := List.length_eq_one_iff.1 hlength
  have hsame : sameBusinessMember member (.event event) = true := by simpa using hall
  cases member with
  | event record =>
    refine ⟨record, rfl, ?_⟩
    change (record == _) = true at hsame
    exact beq_iff_eq.1 hsame
  | adapterRecord record => cases hsame
  | observation record => cases hsame
  | rig record => cases hsame
  | propagation record => cases hsame

theorem planAppendV2_settled {committed : BundleV2Contents} {expectedRevision : ℕ}
    {mutationId : String} {event : OperatorEventV2} {now : DateTime}
    (h : planAppendV2 E profile strictReport checkpointHeads committed
      ⟨expectedRevision, mutationId, [.event event]⟩ now = .ok none) :
    ∃ record ∈ committed.events, record.recordMeta.mutation.mutationId = mutationId ∧
      SameActionV2 record event := by
  unfold planAppendV2 at h
  cases hcommitted : committedMutation? committed mutationId with
  | none =>
    simp only [hcommitted, bind_eq_ok, pure_eq_ok, reduceCtorEq, and_false, exists_false] at h
  | some existing =>
    simp only [hcommitted] at h
    split_ifs at h with hsame
    obtain ⟨record, rfl, hrecord⟩ := sameBusinessMembers_event hsame
    unfold committedMutation? at hcommitted
    dsimp only at hcommitted
    split_ifs at hcommitted
    have hmem : LiveMutationMemberV2.event record ∈ committed.members.filter
        (·.recordMeta.mutation.mutationId == mutationId) := by
      rw [← List.mem_insertionSort LiveMutationMemberV2.Before, Option.some.inj hcommitted]
      exact List.mem_singleton_self _
    obtain ⟨hmembers, hid⟩ := List.mem_filter.1 hmem
    exact ⟨record, mem_members_event hmembers, beq_iff_eq.1 hid, hrecord⟩

theorem prepareMutation_event {expectedRevision : ℕ} {mutationId sessionId : String}
    {event : OperatorEventV2} {recordedAt : DateTime} {prepared : LiveMutationV2}
    (h : prepareMutation ⟨expectedRevision, mutationId, [.event event]⟩ sessionId recordedAt =
      .ok prepared) :
    prepared.mutationId = mutationId ∧ ∃ record, prepared.members = [.event record] ∧
      record.recordMeta.mutation.mutationId = mutationId ∧ SameActionV2 record event := by
  simp only [prepareMutation, bind_eq_ok, failIf_eq_ok, pure_eq_ok, List.insertionSort_cons,
    List.insertionSort_nil, List.orderedInsert_nil, List.zipIdx_cons, List.zipIdx_nil,
    mapM_eq_ok, prepareMember] at h
  obtain ⟨_, -, _, -, members, hmembers, rfl⟩ := h
  obtain ⟨record, rest, ⟨_, -, _, -, rfl⟩, hrest, rfl⟩ := List.forall₂_cons_left_iff.1 hmembers
  obtain rfl := List.forall₂_nil_left_iff.1 hrest
  exact ⟨rfl, _, rfl, rfl, rfl⟩

/-- What an accepted event makes of a v2 bundle. -/
theorem planAppendV2_eq_some {committed next : BundleV2Contents} {expectedRevision : ℕ}
    {mutationId : String} {event : OperatorEventV2} {now : DateTime}
    (h : planAppendV2 E profile strictReport checkpointHeads committed
      ⟨expectedRevision, mutationId, [.event event]⟩ now = .ok (some next)) :
    committedMutation? committed mutationId = none ∧
      expectedRevision = committed.sessionState.revision ∧
      committed.sessionState.revision < next.sessionState.revision ∧
      next.sessionState.lastCommittedMutationId = some mutationId ∧
      next.manifest = committed.manifest ∧
      ∃ record, next.events = committed.events ++ [record] ∧
        record.recordMeta.mutation.mutationId = mutationId ∧ SameActionV2 record event := by
  unfold planAppendV2 at h
  cases hcommitted : committedMutation? committed mutationId with
  | some existing =>
    simp only [hcommitted] at h
    split_ifs at h
    cases h
  | none =>
    simp only [hcommitted, bind_eq_ok, pure_eq_ok, failIf_eq_ok, orError_eq_ok] at h
    obtain ⟨_, hrevision, prepared, hprepared, lifecycle, -, _, -, streams, -, revision, hlater,
      heq⟩ := h
    obtain ⟨hid, record, hmembers, hrecordId, hrecord⟩ := prepareMutation_event hprepared
    cases heq
    have hexpected : expectedRevision = committed.sessionState.revision := by simpa using hrevision
    refine ⟨rfl, hexpected, checkedAdd64_lt hlater, congrArg some hid, ?_, record, ?_, hrecordId,
      hrecord⟩
    · change (appendMembers committed prepared.members).manifest = _
      rw [hmembers]
      rfl
    · change (appendMembers committed prepared.members).events = _
      rw [hmembers]
      rfl

theorem committedMutation?_eq_none {bundle : BundleV2Contents} {mutationId : String}
    (h : committedMutation? bundle mutationId = none) :
    ∀ record ∈ bundle.events, record.recordMeta.mutation.mutationId ≠ mutationId := by
  intro record hrecord hid
  unfold committedMutation? at h
  dsimp only at h
  split_ifs at h with hempty
  have hmem : LiveMutationMemberV2.event record ∈ bundle.members.filter
      (·.recordMeta.mutation.mutationId == mutationId) :=
    List.mem_filter.2 ⟨by simpa [BundleV2Contents.members] using hrecord, beq_iff_eq.2 hid⟩
  rw [List.isEmpty_iff.1 hempty] at hmem
  cases hmem

theorem storeV2_lawful :
    (storeV2 packageVersion profile E strictReport checkpointHeads).Lawful SameActionV2 where
  settled := fun h => planAppendV2_settled profile E strictReport checkpointHeads h
  appended := by
    intro committed expectedRevision mutationId event now next h
    obtain ⟨hfresh, hexpected, hlater, hnamed, hmanifest, hadded⟩ :=
      planAppendV2_eq_some profile E strictReport checkpointHeads h
    refine {
      fresh := committedMutation?_eq_none hfresh
      expected := hexpected
      session := congrArg (·.sessionId) hmanifest
      later := hlater
      named := hnamed
      added := hadded
      derives := ?_ }
    change eventForAction packageVersion next.manifest.sessionId = _
    rw [hmanifest]
    rfl
  timed := by
    intro committed pending renewed action htoken htime
    change eventForAction _ _ renewed action = eventForAction _ _ pending action
    simp only [eventForAction, actionTime, actionMeta, htoken, htime]

end

end AntennaBench
