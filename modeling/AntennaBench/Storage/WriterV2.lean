import AntennaBench.Core.Replay
import AntennaBench.Storage.MutationV2

/-!
# The schema-v2 writer

The requests a writer answers in memory: appends and plan commits. A plan commit
replaces the plan of a session that has not started and makes it ready. An accepted
append admits at most one event, and that event without a report in the replay.
-/

namespace AntennaBench

structure PlanCommitV2 where
  expectedRevision : ℕ
  generationId : String
  station : Station
  antennas : AntennasFile
  schedule : Schedule

inductive WriterRequestV2 where
  | append (mutation : LiveMutationV2) (now : DateTime)
  | commitPlan (plan : PlanCommitV2)

section

variable (E : Env) (profile : BundleResourceProfile)
  (strictReport : BundleContents → List String)
  (checkpointHeads : BundleV2Contents →
    Except LivePersistenceError (List (String × StreamCheckpointV2)))

def PlanCommitV2.generation (plan : PlanCommitV2) : PlanGenerationV2 :=
  let stationDigest := E.sha256Hex (serializeJson E.station plan.station)
  let antennasDigest := E.sha256Hex (serializeJson E.antennas plan.antennas)
  let scheduleDigest := E.sha256Hex (serializeJson E.scheduleV2 plan.schedule)
  ⟨plan.generationId, stationDigest, antennasDigest, scheduleDigest,
    planRootSha256 E [stationDigest, antennasDigest, scheduleDigest]⟩

/-- `LiveSessionV2::commit_plan` up to its file effects: `none` when the plan is the
active one already, and otherwise the next bundle. -/
def commitPlanV2 (bundle : BundleV2Contents) (plan : PlanCommitV2) :
    Except LivePersistenceError (Option BundleV2Contents) := do
  let mutationId := "plan:" ++ plan.generationId
  let lifecycle := bundle.sessionState.lifecycle
  if bundle.sessionState.activePlan.generationId == plan.generationId then
    if bundle.station == plan.station && bundle.antennas == plan.antennas &&
        bundle.schedule == plan.schedule then return none
    else .error (conflict mutationId)
  else
    failIf (plan.expectedRevision != bundle.sessionState.revision)
      (.staleRevision plan.expectedRevision bundle.sessionState.revision)
    failIf (lifecycle != .draft && lifecycle != .ready) (.planFrozen lifecycle)
    failIf (plan.generationId.isEmpty || !plan.generationId.toList.all isSafeComponent)
      (.invalidMutation "plan generation ID must be a nonempty ASCII path component")
    let generation := plan.generation E
    let candidate := { bundle with
      station := plan.station
      antennas := plan.antennas
      schedule := plan.schedule
      sessionState := { bundle.sessionState with
        activePlan := generation
        lifecycle := .ready } }
    let blocking := strictReport candidate.intoCurrent.bundle
    failIf (!blocking.isEmpty) (.invalidMutation ("; ".intercalate blocking))
    let revision ← orError (checkedAdd64 bundle.sessionState.revision 1)
      (.invalidMutation "checkpoint revision overflowed")
    return some { candidate with sessionState := { candidate.sessionState with
      revision
      lastCommittedMutationId := some mutationId } }

/-- The answer to a request: `none` when nothing is to be done for it. -/
def answerV2 (bundle : BundleV2Contents) :
    WriterRequestV2 → Except LivePersistenceError (Option BundleV2Contents)
  | .append mutation now => planAppendV2 E profile strictReport checkpointHeads bundle mutation now
  | .commitPlan plan => commitPlanV2 E strictReport bundle plan

end

def LiveMutationMemberV2.event? : LiveMutationMemberV2 → Option OperatorEventV2
  | event record => some record
  | _ => none

def eventsOf (members : List LiveMutationMemberV2) : List OperatorEventV2 :=
  members.filterMap (·.event?)

theorem appendMembers_spec (bundle : BundleV2Contents) (members : List LiveMutationMemberV2) :
    (appendMembers bundle members).events = bundle.events ++ eventsOf members ∧
      (appendMembers bundle members).manifest = bundle.manifest ∧
      (appendMembers bundle members).sessionState = bundle.sessionState := by
  unfold appendMembers
  induction members generalizing bundle with
  | nil => simp [eventsOf]
  | cons member members ih =>
    rw [List.foldl_cons]
    obtain ⟨hevents, hmanifest, hstate⟩ := ih (member.appendTo bundle)
    rw [hevents, hmanifest, hstate]
    cases member <;> simp [LiveMutationMemberV2.appendTo, eventsOf, LiveMutationMemberV2.event?]

/-- The event is admitted after the committed ones and takes the lifecycle on. -/
structure AdmittedV2 (bundle : BundleV2Contents) (expectedRevision : ℕ)
    (lifecycle : SessionLifecycleV2) (event : OperatorEventV2) (next : SessionLifecycleV2) :
    Prop where
  append : ∃ reduction, validateOperatorEventAppendV2 (initialLifecycle bundle)
    bundle.sessionState.revision expectedRevision bundle.events event = .ok reduction
  transition : event.payload.isLifecycle = true →
    validateLifecycleTransitionV2 lifecycle bundle.sessionState.revision expectedRevision
      event.payload = .ok next
  evidence : event.payload.isLifecycle = false → next = lifecycle

section

variable {bundle : BundleV2Contents} {expectedRevision : ℕ} {scan next : AdmissionScan}

theorem admitMember_other {member : LiveMutationMemberV2} (hother : member.event? = none)
    (h : admitMember bundle expectedRevision scan member = .ok next) :
    next.eventCount = scan.eventCount ∧ next.lifecycle = scan.lifecycle := by
  cases member with
  | event event => simp [LiveMutationMemberV2.event?] at hother
  | _ =>
    simp only [admitMember, bind_eq_ok, failIf_eq_ok, pure_eq_ok] at h
    obtain ⟨-, -, rfl⟩ := h
    exact ⟨rfl, rfl⟩

theorem admitMember_event {event : OperatorEventV2}
    (h : admitMember bundle expectedRevision scan (.event event) = .ok next) :
    next.eventCount = scan.eventCount + 1 ∧
      AdmittedV2 bundle expectedRevision scan.lifecycle event next.lifecycle := by
  simp only [admitMember, bind_eq_ok, failIf_eq_ok, mapError_eq_ok] at h
  obtain ⟨-, -, reduction, hreduction, h⟩ := h
  by_cases hlifecycle : event.payload.isLifecycle
  · rw [if_pos hlifecycle] at h
    simp only [bind_eq_ok, mapError_eq_ok, pure_eq_ok] at h
    obtain ⟨lifecycle, htransition, rfl⟩ := h
    exact ⟨rfl, ⟨reduction, hreduction⟩, fun _ => htransition, by simp [hlifecycle]⟩
  · rw [if_neg hlifecycle, pure_eq_ok] at h
    subst h
    exact ⟨rfl, ⟨reduction, hreduction⟩, fun hevent => absurd hevent hlifecycle, fun _ => rfl⟩

/-- A batch that admits at most one event keeps the lifecycle or takes it on by that event. -/
theorem admitMembers_cases {members : List LiveMutationMemberV2}
    (h : members.foldlM (admitMember bundle expectedRevision) scan = .ok next) :
    next.eventCount = scan.eventCount + (eventsOf members).length ∧
      (eventsOf members = [] → next.lifecycle = scan.lifecycle) ∧
      ∀ event, eventsOf members = [event] →
        AdmittedV2 bundle expectedRevision scan.lifecycle event next.lifecycle := by
  induction members generalizing scan with
  | nil =>
    obtain rfl : scan = next := by simpa using h
    simp [eventsOf]
  | cons member members ih =>
    rw [List.foldlM_cons, bind_eq_ok] at h
    obtain ⟨middle, hmember, hmembers⟩ := h
    obtain ⟨hcount, hnone, hone⟩ := ih hmembers
    cases hevent : member.event? with
    | none =>
      obtain ⟨hscanCount, hscanLifecycle⟩ := admitMember_other hevent hmember
      have hevents : eventsOf (member :: members) = eventsOf members := by
        simp [eventsOf, hevent]
      rw [hevents, ← hscanLifecycle]
      exact ⟨by omega, hnone, hone⟩
    | some record =>
      obtain rfl : member = .event record := by
        cases member <;> simp_all [LiveMutationMemberV2.event?]
      obtain ⟨hscanCount, hadmitted⟩ := admitMember_event hmember
      have hevents : eventsOf (.event record :: members) = record :: eventsOf members := rfl
      rw [hevents]
      refine ⟨by simp only [List.length_cons]; omega, by simp, fun event hone => ?_⟩
      obtain ⟨rfl, hrest⟩ := List.cons.inj hone
      rw [hnone hrest]
      exact hadmitted

end

section

variable {E : Env} {profile : BundleResourceProfile} {strictReport : BundleContents → List String}
  {checkpointHeads : BundleV2Contents →
    Except LivePersistenceError (List (String × StreamCheckpointV2))}
  {bundle next : BundleV2Contents}

theorem validateMutation_cases {mutation : LiveMutationV2} {lifecycle : SessionLifecycleV2}
    (h : validateMutation strictReport bundle mutation = .ok lifecycle) :
    (∀ event ∈ eventsOf mutation.members,
        event.recordMeta.sessionId = bundle.manifest.sessionId) ∧
      (eventsOf mutation.members = [] ∧ lifecycle = bundle.sessionState.lifecycle ∨
        ∃ event, eventsOf mutation.members = [event] ∧
          AdmittedV2 bundle mutation.expectedRevision bundle.sessionState.lifecycle event
            lifecycle) := by
  simp only [validateMutation, bind_eq_ok, failIf_eq_ok, pure_eq_ok] at h
  obtain ⟨-, -, -, henvelope, scan, hscan, -, hcount, -, -, -, -, -, -, -, -, rfl⟩ := h
  obtain ⟨hlength, hnone, hone⟩ := admitMembers_cases hscan
  constructor
  · intro event hevent
    obtain ⟨member, hmember, hrecord⟩ := List.mem_filterMap.1 hevent
    obtain rfl : member = .event event := by
      cases member <;> simp_all [LiveMutationMemberV2.event?]
    obtain ⟨index, hindex⟩ := List.mem_iff_getElem?.1 hmember
    have hzip := List.mk_mem_zipIdx_iff_getElem?.2 hindex
    have hmatches := List.all_eq_true.1 (by simpa using henvelope) _ hzip
    simp only [envelopeMatches, Bool.and_eq_true, beq_iff_eq] at hmatches
    exact hmatches.1.2
  · have hlength : (eventsOf mutation.members).length ≤ 1 := by
      have hcount : ¬ 1 < scan.eventCount := by simpa using hcount
      dsimp only at hlength
      omega
    cases hevents : eventsOf mutation.members with
    | nil => exact .inl ⟨rfl, hnone hevents⟩
    | cons event rest =>
      obtain rfl : rest = [] := by
        rw [hevents] at hlength
        exact List.eq_nil_of_length_eq_zero (by simpa using hlength)
      exact .inr ⟨event, rfl, hone event hevents⟩

@[simp] theorem event?_setMeta (member : LiveMutationMemberV2) (recordMeta : RecordMetaV2) :
    (member.setMeta recordMeta).event?.map (·.payload) = member.event?.map (·.payload) := by
  cases member <;> rfl

theorem payloads_eq (members : List LiveMutationMemberV2) :
    (eventsOf members).map (·.payload) =
      members.filterMap fun member => member.event?.map (·.payload) := by
  rw [eventsOf, List.map_filterMap]

theorem filterMap_forall₂ {α β γ : Type} {f : α → Option γ} {g : β → Option γ} {as : List α}
    {bs : List β} (h : List.Forall₂ (fun a b => g b = f a) as bs) :
    bs.filterMap g = as.filterMap f := by
  induction h with
  | nil => rfl
  | cons hab _ ih => simp [List.filterMap_cons, hab, ih]

/-- Preparing a mutation orders its members and stamps them. -/
theorem prepareMutation_payloads {mutation prepared : LiveMutationV2} {sessionId : String}
    {recordedAt : DateTime} (h : prepareMutation mutation sessionId recordedAt = .ok prepared) :
    ((eventsOf prepared.members).map (·.payload)).Perm
      ((eventsOf mutation.members).map (·.payload)) := by
  simp only [prepareMutation, bind_eq_ok, failIf_eq_ok, pure_eq_ok] at h
  obtain ⟨-, -, -, -, members, hmembers, rfl⟩ := h
  have hpayloads : ∀ entry member,
      prepareMember sessionId mutation.mutationId recordedAt mutation.members.length entry =
        .ok member → member.event?.map (·.payload) = entry.1.event?.map (·.payload) := by
    intro entry member hmember
    simp only [prepareMember, bind_eq_ok, failIf_eq_ok, pure_eq_ok] at hmember
    obtain ⟨-, -, -, -, rfl⟩ := hmember
    simp
  rw [payloads_eq, payloads_eq]
  have hsorted : (members.filterMap fun member => member.event?.map (·.payload)) =
      (mutation.members.insertionSort LiveMutationMemberV2.Before).filterMap
        fun member => member.event?.map (·.payload) := by
    have hsame := filterMap_forall₂ ((mapM_eq_ok.1 hmembers).imp hpayloads)
    rw [hsame]
    conv_rhs => rw [← List.zipIdx_map_fst 0 (mutation.members.insertionSort _)]
    rw [List.filterMap_map]
    rfl
  rw [hsorted]
  exact (List.perm_insertionSort _ _).filterMap _

theorem prepareMutation_revision {mutation prepared : LiveMutationV2} {sessionId : String}
    {recordedAt : DateTime} (h : prepareMutation mutation sessionId recordedAt = .ok prepared) :
    prepared.expectedRevision = mutation.expectedRevision := by
  simp only [prepareMutation, bind_eq_ok, failIf_eq_ok, pure_eq_ok] at h
  obtain ⟨-, -, -, -, members, -, rfl⟩ := h
  rfl

/-- An accepted append adds no event, or one that was admitted and took the lifecycle on. -/
theorem planAppendV2_cases {mutation : LiveMutationV2} {now : DateTime}
    (h : planAppendV2 E profile strictReport checkpointHeads bundle mutation now =
      .ok (some next)) :
    next.manifest = bundle.manifest ∧
      (eventsOf mutation.members = [] ∧ next.events = bundle.events ∧
          next.sessionState.lifecycle = bundle.sessionState.lifecycle ∨
        ∃ event, (eventsOf mutation.members).map (·.payload) = [event.payload] ∧
          next.events = bundle.events ++ [event] ∧
          event.recordMeta.sessionId = bundle.manifest.sessionId ∧
          AdmittedV2 bundle bundle.sessionState.revision bundle.sessionState.lifecycle event
            next.sessionState.lifecycle) := by
  unfold planAppendV2 at h
  cases hcommitted : committedMutation? bundle mutation.mutationId with
  | some existing =>
    rw [hcommitted] at h
    dsimp only at h
    split_ifs at h
    cases h
  | none =>
    rw [hcommitted] at h
    simp only [bind_eq_ok, failIf_eq_ok, orError_eq_ok, pure_eq_ok, Option.some.injEq] at h
    obtain ⟨-, hrevision, prepared, hprepared, lifecycle, hlifecycle, -, -, streams, -, revision,
      -, rfl⟩ := h
    have hrevision : mutation.expectedRevision = bundle.sessionState.revision := by
      simpa using hrevision
    obtain ⟨hevents, hmanifest, -⟩ := appendMembers_spec bundle prepared.members
    have hpayloads := prepareMutation_payloads hprepared
    obtain ⟨hsession, hcases⟩ := validateMutation_cases hlifecycle
    refine ⟨hmanifest, ?_⟩
    rcases hcases with ⟨hnone, rfl⟩ | ⟨event, hone, hadmitted⟩
    · rw [hnone] at hpayloads hevents
      have hmutation : (eventsOf mutation.members).map (·.payload) = [] :=
        List.nil_perm.1 hpayloads
      exact .inl ⟨List.map_eq_nil_iff.1 hmutation, by simpa using hevents, rfl⟩
    · rw [hone] at hpayloads hevents
      have hmutation : (eventsOf mutation.members).map (·.payload) = [event.payload] :=
        List.singleton_perm.1 hpayloads |>.symm
      rw [prepareMutation_revision hprepared, hrevision] at hadmitted
      exact .inr ⟨event, hmutation, hevents, hsession event (by simp [hone]), hadmitted⟩

theorem commitPlanV2_cases {plan : PlanCommitV2}
    (h : commitPlanV2 E strictReport bundle plan = .ok (some next)) :
    (bundle.sessionState.lifecycle = .draft ∨ bundle.sessionState.lifecycle = .ready) ∧
      next.events = bundle.events ∧ next.manifest = bundle.manifest ∧
      next.sessionState.lifecycle = .ready := by
  unfold commitPlanV2 at h
  dsimp only at h
  split_ifs at h with hactive hsame
  · cases h
  · simp only [bind_eq_ok, failIf_eq_ok, orError_eq_ok, pure_eq_ok, Option.some.injEq] at h
    obtain ⟨-, -, -, hlifecycle, -, -, -, -, revision, -, rfl⟩ := h
    refine ⟨?_, rfl, rfl, rfl⟩
    cases hstate : bundle.sessionState.lifecycle <;> simp_all

end

end AntennaBench
