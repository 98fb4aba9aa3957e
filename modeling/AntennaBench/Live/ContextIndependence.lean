import AntennaBench.Core.Membership
import AntennaBench.Scenario.Session
import AntennaBench.Storage.PlanV3

/-!
# Antenna control and new runtime contexts

A writer whose runtime context is not committed yet commits it with its first
mutation, as the first member of it. Whether an antenna-control mutation is
admitted then depends on the membership its records are given.
-/

namespace AntennaBench

variable {E : Env} {profile : BundleResourceProfile} {bundle : BundleV3Contents}
  {mutation : LiveAntennaControlMutationV5} {now : DateTime}

namespace LiveAntennaControlMutationV5

/-- The records the writer stores for a mutation under an actor. -/
def records (mutation : LiveAntennaControlMutationV5) (bundle : BundleV3Contents)
    (actor : PreparedRuntimeActor) (now : DateTime) : RecordBatch where
  runtimeContexts := actor.newContext.toList
  rig := mutation.rigRecords.zipIdx.map fun (record, index) => { record with
    recordMeta := actor.envelope bundle mutation.mutationId now index record.recordMeta }
  events := mutation.armedEvent.toList.map fun event => { event with
    recordMeta := actor.envelope bundle mutation.mutationId now mutation.rigRecords.length
      event.recordMeta }

section

variable (mutation : LiveAntennaControlMutationV5) (bundle : BundleV3Contents)
  (actor : PreparedRuntimeActor) (now : DateTime)

@[simp] theorem records_runtimeContexts :
    (mutation.records bundle actor now).runtimeContexts = actor.newContext.toList := rfl

@[simp] theorem records_diagnostics : (mutation.records bundle actor now).diagnostics = [] := rfl

@[simp] theorem records_observations : (mutation.records bundle actor now).observations = [] := rfl

@[simp] theorem records_adapterRecords :
    (mutation.records bundle actor now).adapterRecords = [] := rfl

end

/-- The lines of a mutation, in the order they are appended. -/
def lines (E : Env) (batch : RecordBatch) : List (LiveStreamV2 × Bytes) :=
  [(.runtimeContexts, serializeJsonl E.runtimeContext batch.runtimeContexts),
    (.rig, serializeJsonl E.rigV3 batch.rig), (.events, serializeJsonl E.eventV3 batch.events)]

def memberCount (mutation : LiveAntennaControlMutationV5) : ℕ :=
  mutation.rigRecords.length + mutation.armedEvent.toList.length

/-- The armed event claims that the commands verified the antenna. -/
def isCommandVerified (mutation : LiveAntennaControlMutationV5) : Bool :=
  mutation.armedEvent.any (·.isCommandVerified)

/-- What a new mutation is checked for before its actor is prepared. -/
structure Admissible (mutation : LiveAntennaControlMutationV5) (bundle : BundleV3Contents) :
    Prop where
  running : bundle.sessionState.lifecycle = .running
  nonempty : mutation.rigRecords ≠ []
  atMostTwo : mutation.rigRecords.length ≤ 2
  identity : isMachineIdentity mutation.mutationId = true
  revision : mutation.expectedRevision = bundle.sessionState.revision
  fresh : bundle.otherStreamHasMutation mutation.mutationId = false
  rig : ∀ record ∈ mutation.rigRecords,
    isMachineIdentity record.recordId = true ∧ record.antennaControl.isSome
  event : ∀ event ∈ mutation.armedEvent, isMachineIdentity event.eventId = true

end LiveAntennaControlMutationV5

open LiveAntennaControlMutationV5

/-- The mutation is admitted: `append_antenna_control` reaches its file effects, or
acknowledges that it was committed before. -/
def AdmitsAntennaControl (E : Env) (profile : BundleResourceProfile) (session : LiveSessionV3)
    (mutation : LiveAntennaControlMutationV5) (now : DateTime) : Prop :=
  ∃ decision, planAntennaControl E profile session mutation now = .ok decision

theorem prepareRigRecord_eq_ok {actor : PreparedRuntimeActor} {mutationId : String}
    {entry : RigRecordV3 × ℕ} {record : RigRecordV3} :
    prepareRigRecord bundle actor mutationId now entry = .ok record ↔
      (isMachineIdentity entry.1.recordId = true ∧ entry.1.antennaControl.isSome) ∧
        record = { entry.1 with
          recordMeta := actor.envelope bundle mutationId now entry.2 entry.1.recordMeta } := by
  obtain ⟨source, index⟩ := entry
  simp only [prepareRigRecord, bind_eq_ok, failIf_eq_ok, pure_eq_ok, Bool.or_eq_false_iff,
    Bool.not_eq_false', Option.isNone_eq_false_iff, eq_comm (a := record)]
  constructor
  · rintro ⟨_, hchecks, heq⟩
    exact ⟨hchecks, heq⟩
  · rintro ⟨hchecks, heq⟩
    exact ⟨(), hchecks, heq⟩

theorem prepareArmedEvent_eq_ok {actor : PreparedRuntimeActor} {mutationId : String} {index : ℕ}
    {event stored : OperatorEventV3} :
    prepareArmedEvent bundle actor mutationId now index event = .ok stored ↔
      isMachineIdentity event.eventId = true ∧ stored = { event with
        recordMeta := actor.envelope bundle mutationId now index event.recordMeta } := by
  simp only [prepareArmedEvent, bind_eq_ok, failIf_eq_ok, pure_eq_ok, Bool.not_eq_false',
    eq_comm (a := stored)]
  constructor
  · rintro ⟨_, hcheck, heq⟩
    exact ⟨hcheck, heq⟩
  · rintro ⟨hcheck, heq⟩
    exact ⟨(), hcheck, heq⟩

theorem prepareRecords_eq_ok {actor : PreparedRuntimeActor} {rig : List RigRecordV3} :
    mutation.rigRecords.zipIdx.mapM (prepareRigRecord bundle actor mutation.mutationId now) =
        .ok rig ↔
      (∀ record ∈ mutation.rigRecords,
        isMachineIdentity record.recordId = true ∧ record.antennaControl.isSome) ∧
      rig = (mutation.records bundle actor now).rig := by
  rw [mapM_eq_ok_map fun _ _ => prepareRigRecord_eq_ok]
  apply and_congr_left
  intro _
  constructor
  · intro h record hrecord
    obtain ⟨index, hindex, rfl⟩ := List.getElem_of_mem hrecord
    exact h (_, index) (List.mk_mem_zipIdx_iff_getElem?.2 (by simp [hindex]))
  · rintro h ⟨record, index⟩ hentry
    exact h record (List.fst_mem_of_mem_zipIdx hentry)

theorem prepareArmed_eq_ok {actor : PreparedRuntimeActor} {event : Option OperatorEventV3} :
    mutation.armedEvent.mapM (prepareArmedEvent bundle actor mutation.mutationId now
        mutation.rigRecords.length) = .ok event ↔
      (∀ armed ∈ mutation.armedEvent, isMachineIdentity armed.eventId = true) ∧
        event = (mutation.records bundle actor now).events.head? := by
  cases harmed : mutation.armedEvent with
  | none =>
    change (pure none : Except LivePersistenceError _) = .ok event ↔ _
    simp [records, harmed, eq_comm (a := event)]
  | some armed =>
    change (some <$> prepareArmedEvent bundle actor mutation.mutationId now
      mutation.rigRecords.length armed) = .ok event ↔ _
    rw [map_eq_pure_bind, bind_eq_ok]
    simp only [prepareArmedEvent_eq_ok, pure_eq_ok, Option.mem_def, Option.some.injEq,
      forall_eq', records, harmed]
    constructor
    · rintro ⟨stored, ⟨hidentity, rfl⟩, rfl⟩
      exact ⟨hidentity, rfl⟩
    · rintro ⟨hidentity, rfl⟩
      exact ⟨_, ⟨hidentity, rfl⟩, rfl⟩

theorem records_events_toList (actor : PreparedRuntimeActor) :
    (mutation.records bundle actor now).events.head?.toList =
      (mutation.records bundle actor now).events := by
  unfold records
  cases mutation.armedEvent <;> rfl

/-- What a mutation that is in no stream yet needs to be admitted. -/
theorem admitsAntennaControl_iff {session : LiveSessionV3}
    (hnone : committedAntennaControl? session.bundle mutation = none) :
    AdmitsAntennaControl E profile session mutation now ↔
      mutation.Admissible session.bundle ∧ ∃ actor,
        session.prepareRuntimeActor mutation.mutationId mutation.memberCount now = .ok actor ∧
        (∃ candidate sealed,
          appendArmedEvent { actor.apply session.bundle with
            rig := session.bundle.rig ++ (mutation.records session.bundle actor now).rig }
            (mutation.records session.bundle actor now).events.head? = .ok candidate ∧
          sealCandidate E session.bundle candidate mutation.mutationId = .ok sealed) ∧
        ∃ kept, preflightBatch profile session.bundle
          (lines E (mutation.records session.bundle actor now)) = .ok kept := by
  unfold AdmitsAntennaControl planAntennaControl
  simp only [hnone, bind_eq_ok, failIf_eq_ok, pure_eq_ok, prepareRecords_eq_ok,
    prepareArmed_eq_ok, checkRevision]
  constructor
  · rintro ⟨_, _, hrunning, _, hcount, _, hidentity, _, hrevision, _, hfresh, actor, hactor, _,
      ⟨hrig, rfl⟩, _, ⟨hevent, rfl⟩, candidate, happend, sealed, hsealed, kept, hkept, -⟩
    simp only [Bool.or_eq_false_iff, List.isEmpty_eq_false_iff, decide_eq_false_iff_not,
      not_lt] at hcount
    rw [records_events_toList] at hkept
    exact ⟨⟨by simpa using hrunning, hcount.1, hcount.2, by simpa using hidentity,
      by simpa using hrevision, hfresh, hrig, hevent⟩, actor, hactor,
      ⟨candidate, sealed, happend, hsealed⟩, kept, hkept⟩
  · rintro ⟨⟨hrunning, hne, hcount, hidentity, hrevision, hfresh, hrig, hevent⟩, actor, hactor,
      ⟨candidate, sealed, happend, hsealed⟩, kept, hkept⟩
    refine ⟨_, (), by simp [hrunning], (), ?_, (), by simp [hidentity], (), by simp [hrevision], (),
      hfresh, actor, hactor, _, ⟨hrig, rfl⟩, _, ⟨hevent, rfl⟩, candidate, happend, sealed, hsealed,
      kept, ?_, rfl⟩
    · simp only [Bool.or_eq_false_iff, List.isEmpty_eq_false_iff, decide_eq_false_iff_not, not_lt]
      exact ⟨hne, hcount⟩
    · rw [records_events_toList]
      exact hkept

/-- The records of a mutation under two actors are the same but for their membership. -/
theorem records_detached (actor actor' : PreparedRuntimeActor) :
    (mutation.records bundle actor' now).rig.map RigRecordV3.detached =
        (mutation.records bundle actor now).rig.map RigRecordV3.detached ∧
      (mutation.records bundle actor' now).events.map (·.detached) =
        (mutation.records bundle actor now).events.map (·.detached) := by
  simp only [records, List.map_map]
  exact ⟨rfl, rfl⟩

theorem validateEventStream_detached {bundle bundle' : BundleV3Contents}
    (hmanifest : bundle'.manifest = bundle.manifest)
    (hschedule : bundle'.schedule = bundle.schedule)
    (hantennas : bundle'.antennas = bundle.antennas)
    (hlifecycle : bundle'.sessionState.lifecycle = bundle.sessionState.lifecycle)
    (hevents : bundle'.events.map (·.detached) = bundle.events.map (·.detached)) :
    validateEventStream bundle' = validateEventStream bundle := by
  have hreduce := detached_congr (reduceOperatorEventsV3_detached .ready) hevents
  have hproject := detached_congr (projectWsprRunV3_detached bundle.schedule) hevents
  have hforM {f : OperatorEventV3 → Except BundleStoreError PUnit}
      (hf : ∀ event, f event.detached = f event) :
        bundle'.events.forM f = bundle.events.forM f := by
    refine detached_congr (f := fun events => events.forM f) (fun events => ?_) hevents
    change forM (events.map (·.detached)) f = forM events f
    rw [List.forM_map]
    exact congrArg _ (funext hf)
  have hidentity : validateRecordIdentity bundle' = validateRecordIdentity bundle := by
    funext name recordMeta
    simp only [validateRecordIdentity, RecordMetaV2.foreign, hmanifest]
  unfold validateEventStream
  simp only [hschedule, hantennas, hlifecycle, hreduce, hproject, hidentity]
  rw [hforM fun _ => rfl, hforM fun _ => rfl]

theorem validateV3Model_records {actor actor' : PreparedRuntimeActor}
    {state state' : SessionStateV2}
    (hstate : state'.schemaVersion = state.schemaVersion ∧ state'.sessionId = state.sessionId ∧
      state'.lifecycle = state.lifecycle)
    (hnone : bundle.committedEvent? mutation.mutationId = none)
    (hverified : mutation.isCommandVerified = false)
    (hcontexts : validateRuntimeContextsV6 E
      ((bundle.append (mutation.records bundle actor' now)).withState state') = .ok ())
    (h : validateV3Model E
      ((bundle.append (mutation.records bundle actor now)).withState state) = .ok ()) :
    validateV3Model E
      ((bundle.append (mutation.records bundle actor' now)).withState state') = .ok () := by
  have hrig : (mutation.records bundle actor' now).rig.map RigRecordV3.detached =
      (mutation.records bundle actor now).rig.map RigRecordV3.detached := (records_detached _ _).1
  have hevents : (mutation.records bundle actor' now).events.map (·.detached) =
      (mutation.records bundle actor now).events.map (·.detached) := (records_detached _ _).2
  obtain ⟨hschema, hsession, hlifecycle⟩ := hstate
  have hforeign : ∀ event ∈ bundle.events, ∀ record ∈ (mutation.records bundle actor now).rig,
      record.recordMeta.mutation.mutationId ≠ event.recordMeta.mutation.mutationId := by
    intro event hevent record hrecord
    obtain ⟨entry, -, rfl⟩ := List.mem_map.1 hrecord
    have hother := List.find?_eq_none.1 hnone event hevent
    exact fun heq => hother (beq_iff_eq.2 heq.symm)
  have hplain : ∀ event ∈ (mutation.records bundle actor now).events,
      event.isCommandVerified = false := by
    intro event hevent
    obtain ⟨armed, harmed, rfl⟩ := List.mem_map.1 hevent
    unfold isCommandVerified at hverified
    rw [Option.mem_toList.1 harmed] at hverified
    exact hverified
  simp only [validateV3Model, bind_eq_ok, failIf_eq_ok, forM_eq_ok, mapError_eq_ok] at h ⊢
  obtain ⟨_, hversion, _, -, _, hdocuments, _, hschedule, _, hstream, _, hobservations, _,
    hadapters, _, hrigs, _, hpropagation, hcontrol⟩ := h
  refine ⟨(), hversion, (), hcontexts, (), ?_, (), hschedule, (), ?_, (), hobservations, (),
    hadapters, (), ?_, (), hpropagation, ?_⟩
  · intro document hdocument
    apply hdocuments document
    simp only [documentIdentities, BundleV3Contents.withState, hschema, hsession] at hdocument ⊢
    exact hdocument
  · rw [← hstream]
    refine validateEventStream_detached rfl rfl rfl hlifecycle ?_
    simp only [BundleV3Contents.append, BundleV3Contents.withState, List.map_append, hevents]
  · intro recordMeta hmeta
    simp only [BundleV3Contents.append, BundleV3Contents.withState, List.map_append,
      List.mem_append] at hmeta
    rcases hmeta with hold | hnew
    · apply hrigs recordMeta
      simp only [BundleV3Contents.append, BundleV3Contents.withState, List.map_append]
      exact List.mem_append_left _ hold
    · simp only [records, List.map_map, List.mem_map] at hnew
      obtain ⟨entry, -, rfl⟩ := hnew
      simp [validateRecordIdentity, RecordMetaV2.foreign, PreparedRuntimeActor.envelope,
        BundleV3Contents.append, BundleV3Contents.withState]
  · exact validateAntennaControlV5_recording hrig hevents hforeign hplain hcontrol

def contextLineBytes (E : Env) (context : RuntimeContextV6) : ℕ :=
  (E.runtimeContext.toVec context).length + 1

/-- The stream has room for one more context. -/
structure RoomForContext (E : Env) (contexts : List RuntimeContextV6)
    (context : RuntimeContextV6) : Prop where
  count : contexts.length < runtimeContextMaxRecords
  line : contextLineBytes E context ≤ runtimeContextRecordMaxBytes
  stream : (contexts.map (contextLineBytes E)).sum + contextLineBytes E context ≤
    runtimeContextStreamMaxBytes

theorem validateRuntimeContextV6_eq_ok {scan next : StreamScan} {context : RuntimeContextV6} :
    validateRuntimeContextV6 E scan context = .ok next ↔
      (context.hasValidIdentity E = true ∧ context.contextId ∉ scan.ids) ∧
      validateBuildIdentityV6 context = .ok () ∧
      contextLineBytes E context ≤ runtimeContextRecordMaxBytes ∧
      next = { scan with
        ids := context.contextId :: scan.ids
        streamBytes := scan.streamBytes + contextLineBytes E context } := by
  simp only [validateRuntimeContextV6, bind_eq_ok, failIf_eq_ok, pure_eq_ok,
    decide_eq_false_iff_not, not_lt, Bool.or_eq_false_iff, Bool.not_eq_false',
    List.contains_eq_mem, contextLineBytes, eq_comm (a := next)]
  constructor
  · rintro ⟨_, hidentity, _, hbuild, _, hline, heq⟩
    exact ⟨hidentity, hbuild, hline, heq⟩
  · rintro ⟨hidentity, hbuild, hline, heq⟩
    exact ⟨(), hidentity, (), hbuild, (), hline, heq⟩

/-- The scan knows the contexts met and the bytes of their lines. -/
theorem validateRuntimeContexts_scan {contexts : List RuntimeContextV6} {scan final : StreamScan}
    (h : contexts.foldlM (validateRuntimeContextV6 E) scan = .ok final) :
    (∀ id, id ∈ final.ids ↔ id ∈ scan.ids ∨ ∃ context ∈ contexts, context.contextId = id) ∧
      final.streamBytes = scan.streamBytes + (contexts.map (contextLineBytes E)).sum := by
  induction contexts generalizing scan with
  | nil =>
    cases pure_eq_ok.1 h
    simp
  | cons context contexts ih =>
    rw [List.foldlM_cons, bind_eq_ok] at h
    obtain ⟨next, hnext, h⟩ := h
    obtain ⟨-, -, -, rfl⟩ := validateRuntimeContextV6_eq_ok.1 hnext
    obtain ⟨hids, hbytes⟩ := ih h
    refine ⟨fun id => ?_, ?_⟩
    · rw [hids]
      simp only [List.mem_cons, exists_eq_or_imp, eq_comm (a := id)]
      tauto
    · rw [hbytes]
      simp only [List.map_cons, List.sum_cons]
      omega

/-- The envelopes of a bundle that records a mutation: those it had, and those of the actor. -/
theorem metas_append {actor : PreparedRuntimeActor} {state : SessionStateV2}
    {recordMeta : RecordMetaV2}
    (h : recordMeta ∈
      ((bundle.append (mutation.records bundle actor now)).withState state).metas) :
    recordMeta ∈ bundle.metas ∨ recordMeta.runtimeContextId = actor.contextId := by
  simp only [BundleV3Contents.metas, BundleV3Contents.withState, BundleV3Contents.append, records,
    List.map_append, List.map_map, List.mem_append, List.append_nil] at h ⊢
  rcases h with ((((hold | hnew) | hmem) | hmem) | (hold | hnew)) | hmem
  · exact .inl (.inl (.inl (.inl (.inl hold))))
  · obtain ⟨entry, -, rfl⟩ := List.mem_map.1 hnew
    exact .inr rfl
  · exact .inl (.inl (.inl (.inl (.inr hmem))))
  · exact .inl (.inl (.inl (.inr hmem)))
  · exact .inl (.inl (.inr hold))
  · obtain ⟨entry, -, rfl⟩ := List.mem_map.1 hnew
    exact .inr rfl
  · exact .inl (.inr hmem)

theorem mem_metas_append {actor : PreparedRuntimeActor} {state : SessionStateV2}
    {recordMeta : RecordMetaV2} (h : recordMeta ∈ bundle.metas) :
    recordMeta ∈ ((bundle.append (mutation.records bundle actor now)).withState state).metas := by
  simp only [BundleV3Contents.metas, BundleV3Contents.withState, BundleV3Contents.append,
    List.map_append, List.mem_append] at h ⊢
  tauto

theorem validateRuntimeContextsV6_committing {actor actor' : PreparedRuntimeActor}
    {state state' : SessionStateV2} {context : RuntimeContextV6}
    (hschema : bundle.manifest.schemaVersion = schemaVersionV6)
    (hold : actor.newContext = none) (hnew : actor'.newContext = some context)
    (hid : actor'.contextId = some context.contextId)
    (hactive : state'.activeRuntimeContextId = some context.contextId)
    (hstatus : state'.diagnosticsStatus = state.diagnosticsStatus)
    (hrevision : state'.revision = state.revision)
    (hvalid : context.hasValidIdentity E = true)
    (hbuild : validateBuildIdentityV6 context = .ok ())
    (hfresh : ∀ other ∈ bundle.runtimeContexts, other.contextId ≠ context.contextId)
    (hroom : RoomForContext E bundle.runtimeContexts context)
    (h : validateRuntimeContextsV6 E
      ((bundle.append (mutation.records bundle actor now)).withState state) = .ok ()) :
    validateRuntimeContextsV6 E
      ((bundle.append (mutation.records bundle actor' now)).withState state') = .ok () := by
  have hcontexts : (bundle.append (mutation.records bundle actor now)).runtimeContexts =
      bundle.runtimeContexts := by
    simp [BundleV3Contents.append, hold]
  have hcontexts' : (bundle.append (mutation.records bundle actor' now)).runtimeContexts =
      bundle.runtimeContexts ++ [context] := by
    simp [BundleV3Contents.append, hnew]
  unfold validateRuntimeContextsV6 at h ⊢
  rw [if_neg (by simpa [BundleV3Contents.withState, BundleV3Contents.append] using hschema)] at h ⊢
  simp only [bind_eq_ok, failIf_eq_ok, orError_eq_ok] at h ⊢
  obtain ⟨_, hpaths, _, hcount, creator, hcreator, _, -, _, hhead, scan, hscan, _, hstream, _, -,
    _, hmetas, hdiagnostics⟩ := h
  rw [show ((bundle.append _).withState state).runtimeContexts = _ from hcontexts]
    at hcount hhead hscan
  rw [show ((bundle.append _).withState state').runtimeContexts = _ from hcontexts']
  obtain ⟨hids, hbytes⟩ := validateRuntimeContexts_scan hscan
  obtain ⟨first, rest, hfirst⟩ := List.exists_cons_of_ne_nil
    (fun hnil : bundle.runtimeContexts = [] => by simp [hnil] at hcount)
  have hunmet : context.contextId ∉ scan.ids := by
    rw [hids]
    rintro (hmem | ⟨other, hother, heq⟩)
    · cases hmem
    · exact hfresh other hother heq
  have hstep := validateRuntimeContextV6_eq_ok.2
    ⟨⟨hvalid, hunmet⟩, hbuild, hroom.line, rfl⟩
  have hfold : (bundle.runtimeContexts ++ [context]).foldlM (validateRuntimeContextV6 E)
      ⟨[], [], 0⟩ = .ok ⟨context.contextId :: scan.ids, scan.attempts,
        scan.streamBytes + contextLineBytes E context⟩ := by
    rw [List.foldlM_append, hscan, ok_bind, List.foldlM_cons, hstep]
    rfl
  refine ⟨(), hpaths, (), ?_, creator, hcreator, _, hactive, (), ?_, _, hfold, (), ?_, (), ?_, (),
    ?_, ?_⟩
  · have hlength := hroom.count
    simp only [hfirst, List.cons_append, List.isEmpty_cons, Bool.false_or, List.length_cons,
      List.length_append, List.length_nil, decide_eq_false_iff_not, not_lt] at hlength ⊢
    omega
  · rw [hfirst] at hhead ⊢
    exact hhead
  · have hfits := hroom.stream
    simpa only [hbytes, Nat.zero_add, decide_eq_false_iff_not, not_lt] using hfits
  · simp
  · simp only [Bool.or_eq_false_iff, List.any_eq_false, Bool.not_eq_true, Bool.not_eq_false',
      List.contains_eq_mem, Option.any_eq_true, decide_eq_true_eq] at hmetas ⊢
    refine ⟨fun recordMeta hmeta => ?_, fun diagnostic hmem => ?_⟩
    · rcases metas_append hmeta with hmem | hactor
      · obtain ⟨id, hsome, hknown⟩ := hmetas.1 recordMeta (mem_metas_append hmem)
        exact ⟨id, hsome, List.mem_cons_of_mem _ hknown⟩
      · exact ⟨context.contextId, hactor.trans hid, List.mem_cons_self⟩
    · exact List.mem_cons_of_mem _ (hmetas.2 diagnostic hmem)
  · unfold validateDiagnosticsV6 at hdiagnostics ⊢
    simp only [BundleV3Contents.withState, hstatus, hrevision] at hdiagnostics ⊢
    exact hdiagnostics

theorem refreshV3Checkpoint_withState {state : SessionStateV2}
    (h : ∃ sealed, refreshV3Checkpoint E bundle = .ok sealed) :
    ∃ sealed, refreshV3Checkpoint E (bundle.withState state) = .ok sealed := by
  obtain ⟨sealed, h⟩ := h
  simp only [refreshV3Checkpoint, bind_eq_ok, Prod.exists] at h ⊢
  obtain ⟨station, b₁, hstation, antennas, b₂, hantennas, schedule, b₃, hschedule, events, b₄,
    hevents, observations, b₅, hobservations, adapters, b₆, hadapters, rig, b₇, hrig, propagation,
    b₈, hpropagation, contexts, b₉, hcontexts, diagnostics, b₁₀, hdiagnostics, -⟩ := h
  exact ⟨_, station, b₁, hstation, antennas, b₂, hantennas, schedule, b₃, hschedule, events, b₄,
    hevents, observations, b₅, hobservations, adapters, b₆, hadapters, rig, b₇, hrig, propagation,
    b₈, hpropagation, contexts, b₉, hcontexts, diagnostics, b₁₀, hdiagnostics, rfl⟩

theorem refreshV3Checkpoint_of_sealCandidate {candidate sealed : BundleV3Contents}
    {mutationId : String} (h : sealCandidate E bundle candidate mutationId = .ok sealed) :
    ∃ refreshed, refreshV3Checkpoint E candidate = .ok refreshed := by
  simp only [sealCandidate, liftStore, bind_eq_ok, mapError_eq_ok] at h
  obtain ⟨refreshed, hrefresh, -⟩ := h
  exact ⟨refreshed, hrefresh⟩

theorem sealCandidate_of_valid {candidate : BundleV3Contents} {mutationId : String}
    (hrefresh : ∃ refreshed, refreshV3Checkpoint E candidate = .ok refreshed)
    (hbound : bundle.sessionState.revision + 1 < 2 ^ 64)
    (hmodel : validateV3Model E (candidate.withState
      (candidate.sealedState E (bundle.sessionState.revision + 1) mutationId)) = .ok ()) :
    ∃ sealed, sealCandidate E bundle candidate mutationId = .ok sealed := by
  obtain ⟨refreshed, hrefresh⟩ := hrefresh
  obtain ⟨-, rfl⟩ := refreshV3Checkpoint_eq_ok hrefresh
  have hrevision : nextRevision bundle = .ok (bundle.sessionState.revision + 1) := by
    rw [nextRevision, orError_eq_ok, checkedAdd64, if_pos hbound]
  simp only [sealCandidate, liftStore, bind_eq_ok, mapError_eq_ok, pure_eq_ok]
  exact ⟨_, _, hrefresh, _, hrevision, (), hmodel, rfl⟩

/-- The lifecycle of a bundle that records more events. -/
def LifecycleAfter (bundle : BundleV3Contents) (events : List OperatorEventV3)
    (lifecycle : SessionLifecycleV2) : Prop :=
  if events = [] then lifecycle = bundle.sessionState.lifecycle
  else (reduceOperatorEventsV3 .ready (bundle.events ++ events)).diagnostics = [] ∧
    lifecycle = (reduceOperatorEventsV3 .ready (bundle.events ++ events)).lifecycle

theorem LifecycleAfter.detached {events events' : List OperatorEventV3}
    {lifecycle : SessionLifecycleV2} (h : LifecycleAfter bundle events lifecycle)
    (hevents : events'.map (·.detached) = events.map (·.detached)) :
    LifecycleAfter bundle events' lifecycle := by
  have hnil : events' = [] ↔ events = [] := by
    rw [← List.map_eq_nil_iff (f := (·.detached)), hevents, List.map_eq_nil_iff]
  have hall : (bundle.events ++ events').map (·.detached) =
      (bundle.events ++ events).map (·.detached) := by
    rw [List.map_append, List.map_append, hevents]
  unfold LifecycleAfter at h ⊢
  simpa only [hnil, detached_congr (reduceOperatorEventsV3_detached .ready) hall] using h

/-- The bundle with the records of the mutation, before it is sealed. -/
def LiveAntennaControlMutationV5.candidate (mutation : LiveAntennaControlMutationV5)
    (bundle : BundleV3Contents) (actor : PreparedRuntimeActor) (now : DateTime)
    (lifecycle : SessionLifecycleV2) : BundleV3Contents :=
  (bundle.append (mutation.records bundle actor now)).withState
    { (actor.apply bundle).sessionState with lifecycle }

/-- The checkpoint the mutation leaves. -/
def LiveAntennaControlMutationV5.nextState (E : Env) (mutation : LiveAntennaControlMutationV5)
    (bundle : BundleV3Contents) (actor : PreparedRuntimeActor) (now : DateTime)
    (lifecycle : SessionLifecycleV2) : SessionStateV2 :=
  (mutation.candidate bundle actor now lifecycle).sealedState E (bundle.sessionState.revision + 1)
    mutation.mutationId

theorem appendArmedEvent_eq_ok {actor : PreparedRuntimeActor} {candidate : BundleV3Contents} :
    appendArmedEvent { actor.apply bundle with
        rig := bundle.rig ++ (mutation.records bundle actor now).rig }
        (mutation.records bundle actor now).events.head? = .ok candidate ↔
      ∃ lifecycle, LifecycleAfter bundle (mutation.records bundle actor now).events lifecycle ∧
        candidate = mutation.candidate bundle actor now lifecycle := by
  have hshape : (mutation.records bundle actor now).events = [] ∨
      ∃ event, (mutation.records bundle actor now).events = [event] := by
    unfold records
    cases mutation.armedEvent with
    | none => exact .inl rfl
    | some event => exact .inr ⟨_, rfl⟩
  unfold LifecycleAfter LiveAntennaControlMutationV5.candidate
  rcases hshape with hnone | ⟨event, hsome⟩
  · simp only [hnone, if_true, exists_eq_left, List.head?_nil, appendArmedEvent,
      Except.ok.injEq, eq_comm (b := candidate)]
    simp [BundleV3Contents.append, BundleV3Contents.withState, PreparedRuntimeActor.apply, hnone]
  · simp only [hsome, List.cons_ne_nil, if_false, List.head?_cons, appendArmedEvent,
      reduceCandidate, PreparedRuntimeActor.apply]
    cases hdiagnostics :
        (reduceOperatorEventsV3 .ready (bundle.events ++ [event])).diagnostics with
    | cons diagnostic rest => simp
    | nil =>
      simp only [true_and, exists_eq_left, Except.ok.injEq, eq_comm (b := candidate)]
      simp [BundleV3Contents.append, BundleV3Contents.withState, hsome]

theorem commandVerified_memberCount {actor : PreparedRuntimeActor} {state : SessionStateV2}
    (hschema : bundle.manifest.schemaVersion = schemaVersionV6)
    (hverified : mutation.isCommandVerified = true)
    (h : validateV3Model E
      ((bundle.append (mutation.records bundle actor now)).withState state) = .ok ()) :
    actor.memberCount = 3 := by
  obtain ⟨event, hevent, hclaim⟩ := (Option.any_eq_true _ _).1 hverified
  simp only [validateV3Model, bind_eq_ok, mapError_eq_ok] at h
  obtain ⟨_, -, _, -, _, -, _, -, _, -, _, -, _, -, _, -, _, -, hcontrol⟩ := h
  unfold AntennaControl.validateAntennaControlV5 at hcontrol
  have hnew : ¬ ((bundle.append (mutation.records bundle actor now)).withState
      state).manifest.schemaVersion < schemaVersionV5 := by
    change ¬ bundle.manifest.schemaVersion < schemaVersionV5
    rw [hschema]
    decide
  rw [if_neg hnew] at hcontrol
  simp only [bind_eq_ok] at hcontrol
  obtain ⟨_, -, _, -, _, -, _, hreadiness, -⟩ := hcontrol
  simp only [BundleV3Contents.append, BundleV3Contents.withState, records, hevent,
    Option.toList_some, List.map_cons, List.map_nil, List.foldlM_append, bind_eq_ok] at hreadiness
  obtain ⟨referenced, -, hreadiness⟩ := hreadiness
  rw [List.foldlM_cons, bind_eq_ok] at hreadiness
  obtain ⟨next, hlast, -⟩ := hreadiness
  unfold OperatorEventV3.isCommandVerified at hclaim
  unfold AntennaControl.validateReadiness at hlast
  split at hclaim
  · rename_i antennaLabel cycleStartsAt switchRecordId verificationRecordId hpayload
    simp only [hpayload, bind_eq_ok] at hlast
    obtain ⟨_, -, _, hcommand, -⟩ := hlast
    simp only [AntennaControl.validateCommandVerified, AntennaControl.validateVerifiedRecord,
      bind_eq_ok, failIf_eq_ok] at hcommand
    obtain ⟨_, -, _, -, _, -, _, -, _, -, _, ⟨_, -, _, -, _, -, hmember⟩, -⟩ := hcommand
    simp only [Bool.or_eq_false_iff, bne_eq_false_iff_eq] at hmember
    exact hmember.2
  · cases hclaim

theorem roomForContext_of_valid {actor : PreparedRuntimeActor} {state : SessionStateV2}
    {context : RuntimeContextV6} (hschema : bundle.manifest.schemaVersion = schemaVersionV6)
    (hnew : actor.newContext = some context)
    (h : validateV3Model E
      ((bundle.append (mutation.records bundle actor now)).withState state) = .ok ()) :
    RoomForContext E bundle.runtimeContexts context := by
  have hcontexts : (bundle.append (mutation.records bundle actor now)).runtimeContexts =
      bundle.runtimeContexts ++ [context] := by
    simp [BundleV3Contents.append, hnew]
  simp only [validateV3Model, bind_eq_ok] at h
  obtain ⟨_, -, _, hruntime, -⟩ := h
  unfold validateRuntimeContextsV6 at hruntime
  rw [if_neg (by simpa [BundleV3Contents.withState, BundleV3Contents.append] using hschema)]
    at hruntime
  simp only [bind_eq_ok, failIf_eq_ok] at hruntime
  obtain ⟨_, -, _, hcount, _, -, _, -, _, -, scan, hscan, _, hstream, -⟩ := hruntime
  rw [show ((bundle.append _).withState state).runtimeContexts = _ from hcontexts] at hcount hscan
  have hbytes := (validateRuntimeContexts_scan hscan).2
  rw [List.foldlM_append, bind_eq_ok] at hscan
  obtain ⟨before, -, hlast⟩ := hscan
  rw [List.foldlM_cons, bind_eq_ok] at hlast
  obtain ⟨_, hstep, -⟩ := hlast
  simp only [List.length_append, List.length_singleton, Bool.or_eq_false_iff,
    decide_eq_false_iff_not, not_lt] at hcount hstream
  simp only [hbytes, List.map_append, List.sum_append, List.map_cons, List.map_nil, List.sum_cons,
    List.sum_nil, Nat.zero_add, Nat.add_zero] at hstream
  exact ⟨hcount.2, (validateRuntimeContextV6_eq_ok.1 hstep).2.2.1, hstream⟩

namespace LiveSessionV3

/-- The writer that differs only in the runtime context it carries. -/
def carrying (session : LiveSessionV3) (context : RuntimeContextV6) : LiveSessionV3 :=
  { session with pendingRuntimeContext := some context }

/-- The runtime context of the writer is in the committed stream. -/
def ContextCommitted (session : LiveSessionV3) : Prop :=
  ∃ context ∈ session.bundle.runtimeContexts,
    (session.pendingRuntimeContext.map (·.contextId) <|>
      session.bundle.sessionState.activeRuntimeContextId) = some context.contextId

end LiveSessionV3

/-- A valid context that the stream does not have. -/
structure NewContext (E : Env) (bundle : BundleV3Contents) (context : RuntimeContextV6) :
    Prop where
  identity : context.hasValidIdentity E = true
  build : validateBuildIdentityV6 context = .ok ()
  fresh : ∀ other ∈ bundle.runtimeContexts, other.contextId ≠ context.contextId

/-- The actor of a writer that commits its context with the mutation. -/
def committingActor (mutation : LiveAntennaControlMutationV5) (context : RuntimeContextV6)
    (now : DateTime) : PreparedRuntimeActor where
  contextId := some context.contextId
  newContext := some { context with
    firstRecordedAt := now
    mutation := ⟨mutation.mutationId, 0, mutation.memberCount + 1⟩ }
  memberOffset := 1
  memberCount := mutation.memberCount + 1

/-- The mutation stays within every bound with the context committed beside it: the stream
of contexts has room, the bundle can be serialized and the lines are within the budget. -/
structure FitsWithContext (E : Env) (profile : BundleResourceProfile) (bundle : BundleV3Contents)
    (mutation : LiveAntennaControlMutationV5) (context : RuntimeContextV6) (now : DateTime) :
    Prop where
  room : RoomForContext E bundle.runtimeContexts { context with
    firstRecordedAt := now
    mutation := ⟨mutation.mutationId, 0, mutation.memberCount + 1⟩ }
  serializes : ∃ refreshed, refreshV3Checkpoint E
    (bundle.append (mutation.records bundle (committingActor mutation context now) now)) =
      .ok refreshed
  budget : ∃ kept, preflightBatch profile bundle
    (lines E (mutation.records bundle (committingActor mutation context now) now)) = .ok kept

theorem prepareRuntimeActor_committed {session : LiveSessionV3}
    (hschema : session.bundle.manifest.schemaVersion = schemaVersionV6)
    (hcommitted : session.ContextCommitted) {mutationId : String} {count : ℕ} :
    ∃ id, session.prepareRuntimeActor mutationId count now = .ok ⟨some id, none, 0, count⟩ := by
  obtain ⟨context, hmem, hid⟩ := hcommitted
  have hany : session.bundle.runtimeContexts.any (·.contextId == context.contextId) = true :=
    List.any_eq_true.2 ⟨context, hmem, beq_self_eq_true _⟩
  refine ⟨context.contextId, ?_⟩
  unfold LiveSessionV3.prepareRuntimeActor
  rw [if_neg (by simp [hschema])]
  simp only [hid, orError_some, ok_bind, hany, if_true]
  rfl

theorem prepareRuntimeActor_committing {session : LiveSessionV3} {context : RuntimeContextV6}
    (hschema : session.bundle.manifest.schemaVersion = schemaVersionV6)
    (hnew : NewContext E session.bundle context) (hcount : mutation.memberCount + 1 < 2 ^ 32) :
    (session.carrying context).prepareRuntimeActor mutation.mutationId mutation.memberCount now =
      .ok (committingActor mutation context now) := by
  have hany : session.bundle.runtimeContexts.any (·.contextId == context.contextId) = false := by
    simpa using hnew.fresh
  unfold LiveSessionV3.prepareRuntimeActor
  rw [if_neg (by simp [LiveSessionV3.carrying, hschema])]
  have hfits : ¬ 2 ^ 32 ≤ mutation.memberCount + 1 := not_le.2 hcount
  have hid : ((session.carrying context).pendingRuntimeContext.map (·.contextId) <|>
      session.bundle.sessionState.activeRuntimeContextId) = some context.contextId := rfl
  simp only [LiveSessionV3.carrying] at hid ⊢
  simp only [hid, orError_some, ok_bind, hany, Bool.false_eq_true, if_false, hfits, decide_false,
    failIf_false]
  rfl

/-- The bundle that records a mutation is valid with the context committed beside it. -/
theorem validateV3Model_committing {actor actor' : PreparedRuntimeActor}
    {state state' : SessionStateV2} {context : RuntimeContextV6}
    (hschema : bundle.manifest.schemaVersion = schemaVersionV6)
    (hnone : bundle.committedEvent? mutation.mutationId = none)
    (hverified : mutation.isCommandVerified = false)
    (hold : actor.newContext = none) (hnew : actor'.newContext = some context)
    (hid : actor'.contextId = some context.contextId) (hcontext : NewContext E bundle context)
    (hroom : RoomForContext E bundle.runtimeContexts context)
    (hstate : state' = { state with
      activeRuntimeContextId := some context.contextId
      activePlan := state'.activePlan
      streams := state'.streams })
    (h : validateV3Model E
      ((bundle.append (mutation.records bundle actor now)).withState state) = .ok ()) :
    validateV3Model E
      ((bundle.append (mutation.records bundle actor' now)).withState state') = .ok () := by
  have hruntime := h
  simp only [validateV3Model, bind_eq_ok] at hruntime
  obtain ⟨_, -, _, hruntime, -⟩ := hruntime
  have hsame : state'.schemaVersion = state.schemaVersion ∧ state'.sessionId = state.sessionId ∧
      state'.lifecycle = state.lifecycle := by
    rw [hstate]
    exact ⟨rfl, rfl, rfl⟩
  refine validateV3Model_records hsame hnone hverified ?_ h
  refine validateRuntimeContextsV6_committing hschema hold hnew hid ?_ ?_ ?_ hcontext.identity
    hcontext.build hcontext.fresh hroom hruntime
  all_goals rw [hstate]

/-- What the sealed bundle of an admitted new mutation is. -/
theorem sealed_of_admits {session : LiveSessionV3} {actor : PreparedRuntimeActor}
    {candidate sealed : BundleV3Contents}
    (happend : appendArmedEvent { actor.apply session.bundle with
        rig := session.bundle.rig ++ (mutation.records session.bundle actor now).rig }
        (mutation.records session.bundle actor now).events.head? = .ok candidate)
    (hsealed : sealCandidate E session.bundle candidate mutation.mutationId = .ok sealed) :
    ∃ lifecycle,
      LifecycleAfter session.bundle (mutation.records session.bundle actor now).events lifecycle ∧
      session.bundle.sessionState.revision + 1 < 2 ^ 64 ∧
      validateV3Model E
        ((session.bundle.append (mutation.records session.bundle actor now)).withState
          (mutation.nextState E session.bundle actor now lifecycle)) = .ok () ∧
      ∃ refreshed, refreshV3Checkpoint E
        (session.bundle.append (mutation.records session.bundle actor now)) = .ok refreshed := by
  obtain ⟨lifecycle, hlifecycle, rfl⟩ := appendArmedEvent_eq_ok.1 happend
  obtain ⟨-, hmodel, hbound, rfl⟩ := sealCandidate_eq_ok hsealed
  have hrefresh := refreshV3Checkpoint_of_sealCandidate hsealed
  have hrestored : ∃ refreshed, refreshV3Checkpoint E
      ((mutation.candidate session.bundle actor now lifecycle).withState
        session.bundle.sessionState) = .ok refreshed := refreshV3Checkpoint_withState hrefresh
  exact ⟨lifecycle, hlifecycle, hbound, hmodel, hrestored⟩

/-- A mutation that a writer with a committed context gets admitted is admitted from a
writer that has to commit its context with it exactly when it is a retry, or when it
stays within the bounds and does not claim that its commands verified the antenna. -/
theorem contextIndependence_iff {session : LiveSessionV3} {context : RuntimeContextV6}
    (hschema : session.bundle.manifest.schemaVersion = schemaVersionV6)
    (hcommitted : session.ContextCommitted) (hnew : NewContext E session.bundle context)
    (hadmits : AdmitsAntennaControl E profile session mutation now) :
    AdmitsAntennaControl E profile (session.carrying context) mutation now ↔
      (committedAntennaControl? session.bundle mutation).isSome ∨
        (mutation.isCommandVerified = false ∧
          FitsWithContext E profile session.bundle mutation context now) := by
  cases hfound : committedAntennaControl? session.bundle mutation with
  | some same =>
    refine iff_of_true ?_ (.inl rfl)
    obtain ⟨decision, hdecision⟩ := hadmits
    unfold planAntennaControl at hdecision
    refine ⟨decision, ?_⟩
    unfold planAntennaControl
    simp only [LiveSessionV3.carrying, hfound, bind_eq_ok] at hdecision ⊢
    exact hdecision
  | none =>
    simp only [Option.isSome_none, Bool.false_eq_true, false_or]
    obtain ⟨hadmissible, actor, hactor, ⟨candidate, sealed, happend, hsealed⟩, -⟩ :=
      (admitsAntennaControl_iff hfound).1 hadmits
    obtain ⟨id, hprepared⟩ : ∃ id, session.prepareRuntimeActor mutation.mutationId
        mutation.memberCount now = .ok ⟨some id, none, 0, mutation.memberCount⟩ :=
      prepareRuntimeActor_committed hschema hcommitted
    obtain rfl := Except.ok.inj (hactor.symm.trans hprepared)
    obtain ⟨lifecycle, hlifecycle, hbound, hmodel, -⟩ := sealed_of_admits happend hsealed
    have hcount : mutation.memberCount + 1 < 2 ^ 32 := by
      have htwo := hadmissible.atMostTwo
      have hone : mutation.armedEvent.toList.length ≤ 1 := Option.length_toList_le
      unfold LiveAntennaControlMutationV5.memberCount
      omega
    have hcommitting : (session.carrying context).prepareRuntimeActor mutation.mutationId
        mutation.memberCount now = .ok (committingActor mutation context now) :=
      prepareRuntimeActor_committing hschema hnew hcount
    have hunmet : committedAntennaControl? (session.carrying context).bundle mutation = none :=
      hfound
    have hnone : session.bundle.committedEvent? mutation.mutationId = none := by
      unfold committedAntennaControl? at hfound
      dsimp only at hfound
      split_ifs at hfound with hempty
      exact Option.isNone_iff_eq_none.1 (Bool.and_eq_true_iff.1 hempty).2
    rw [admitsAntennaControl_iff hunmet]
    constructor
    · rintro ⟨-, actor, hactor', ⟨candidate', sealed', happend', hsealed'⟩, hkept⟩
      obtain rfl := Except.ok.inj (hactor'.symm.trans hcommitting)
      obtain ⟨lifecycle', -, -, hmodel', hrefresh⟩ := sealed_of_admits happend' hsealed'
      refine ⟨?_, roomForContext_of_valid hschema rfl hmodel', hrefresh, hkept⟩
      by_contra hclaim
      have hverified : mutation.isCommandVerified = true := by simpa using hclaim
      have hthree := commandVerified_memberCount hschema hverified hmodel
      have hfour := commandVerified_memberCount hschema hverified hmodel'
      simp only [committingActor] at hthree hfour
      omega
    · rintro ⟨hverified, hroom, hrefresh, hkept⟩
      refine ⟨hadmissible, _, hcommitting, ?_, hkept⟩
      have hevents : (mutation.records session.bundle (committingActor mutation context now)
          now).events.map (·.detached) = (mutation.records session.bundle
            ⟨some id, none, 0, mutation.memberCount⟩ now).events.map (·.detached) :=
        (records_detached _ _).2
      have happend' := appendArmedEvent_eq_ok.2 ⟨lifecycle, hlifecycle.detached hevents, rfl⟩
      have hstored : NewContext E session.bundle { context with
          firstRecordedAt := now
          mutation := ⟨mutation.mutationId, 0, mutation.memberCount + 1⟩ } :=
        ⟨hnew.identity, hnew.build, hnew.fresh⟩
      have hmodel' : validateV3Model E
          ((session.bundle.append (mutation.records session.bundle
            (committingActor mutation context now) now)).withState (mutation.nextState E
              session.bundle (committingActor mutation context now) now lifecycle)) = .ok () :=
        validateV3Model_committing hschema hnone hverified rfl rfl rfl hstored hroom rfl hmodel
      obtain ⟨sealed', hsealed'⟩ : ∃ sealed, sealCandidate E session.bundle
          (mutation.candidate session.bundle (committingActor mutation context now) now lifecycle)
          mutation.mutationId = .ok sealed :=
        sealCandidate_of_valid (refreshV3Checkpoint_withState hrefresh) hbound hmodel'
      exact ⟨_, sealed', happend', hsealed'⟩

namespace Scenario

def nextBuild : BuildIdentityV6 := { build with appVersion := some "0.2.0" }

def nextContextBytes : Bytes :=
  let fields := [nextBuild.appVersion, nextBuild.sourceCommit, some nextBuild.sourceState.text,
    some nextBuild.buildChannel.text, nextBuild.releaseTag, nextBuild.targetTriple,
    nextBuild.buildArchitecture, none, none, platform.osFamily, platform.osVersion,
    platform.runtimeArchitecture, platform.applicationId]
  stringBytes "antennabench.runtime-context.v1" ++ [0] ++ fields.flatMap contextFieldBytes

def nextContextDigest : String :=
  "128ce904583e2bfe" ++ "3f216fd22edf3dfc" ++ "12ed2f717df478e7" ++ "5111dccd8227c454"

def nextContext : RuntimeContextV6 where
  schema := "runtime_context.v1"
  contextId := "ctx_" ++ nextContextDigest
  firstRecordedAt := noon 60
  mutation := ⟨"", 0, 0⟩
  build := nextBuild
  platform := platform

def armedEnv : Env :=
  { env ⟨[], [], [], [(nextContextBytes, nextContextDigest)]⟩ with
    rigV3 := .ofValues RigRecordV3.json []
    eventV3 := .ofValues OperatorEventV3.armedJson [] }

/-- A running session that controls its antennas by command. -/
def controlledBundle : BundleV3Contents :=
  { Scenario.bundle with
    sessionState := { sessionState with lifecycle := .running, revision := 1 }
    schedule := ⟨6, "s1", .txFocused, .dx, some (.commandControlled .operatorTriggered false), [],
      [⟨"c1", 1, .m40, "A", some .transmit, none⟩], []⟩
    events := [{ startEvent with
      recordMeta := { startEvent.recordMeta with runtimeContextId := some contextId } }] }

def controlledSession : LiveSessionV3 := { session with bundle := controlledBundle }

def invocation (role : AntennaControlRoleV5) (startsAt : ℕ) : AntennaControlInvocationV5 where
  role := role
  controllerProfileName := "switch"
  controllerProfileRevision := "1"
  command := ⟨"/bin/relay", ["\x7bantenna\x7d"], "/bin/relay", ["A"]⟩
  context := ⟨"A", "1", .txFocused, .transmit, .m40, none, 1, "c1", "s1", "K1ABC"⟩
  startedAt := noon startsAt
  completedAt := noon (startsAt + 1)
  elapsedMilliseconds := 1000
  disposition := .exit 0
  stdout := ⟨.utf8, "", false⟩
  stderr := ⟨.utf8, "", false⟩

def rigRecord (recordId : String) (role : AntennaControlRoleV5) (startsAt : ℕ) : RigRecordV3 where
  recordMeta := startEvent.recordMeta
  recordId := recordId
  adapterRecordIds := []
  status := "antenna_control_attempt"
  frequencyHz := none
  mode := none
  powerWatts := none
  antennaControl := some (invocation role startsAt)
  raw := .null

def armedMutation (readiness : WsprReadinessBasisV5) : LiveAntennaControlMutationV5 where
  expectedRevision := 1
  mutationId := "mutation-2"
  rigRecords := [rigRecord "rig-1" .switch 70, rigRecord "rig-2" .verification 72]
  armedEvent := some { startEvent with
    eventId := "event-2"
    occurredAt := noon 80
    slotId := some "c1"
    payload := .wsprCycleArmed "A" (noon 121) (some readiness) }

def admits (session : LiveSessionV3) (mutation : LiveAntennaControlMutationV5) : Bool :=
  (planAntennaControl armedEnv localStandardV1 session mutation (noon 80)).toOption.isSome

theorem admits_iff {session : LiveSessionV3} {mutation : LiveAntennaControlMutationV5} :
    admits session mutation = true ↔
      AdmitsAntennaControl armedEnv localStandardV1 session mutation (noon 80) := by
  unfold admits AdmitsAntennaControl
  cases planAntennaControl armedEnv localStandardV1 session mutation (noon 80) with
  | error e => simp [Except.toOption]
  | ok decision => simp [Except.toOption]

theorem controlledSession_committed : controlledSession.ContextCommitted :=
  ⟨context, List.mem_singleton.2 rfl, rfl⟩

theorem nextContext_new : NewContext armedEnv controlledSession.bundle nextContext where
  identity := by decide
  build := by
    have hany : (validateBuildIdentityV6 nextContext).toOption.any (fun _ => true) = true := by
      decide
    obtain ⟨_, hok, -⟩ := exists_ok_of_any hany
    exact hok
  fresh := by decide

/-- The commands verified the antenna, and the cycle is armed only without the new context. -/
theorem controlledSession_depends :
    (controlledSession.ContextCommitted ∧
      NewContext armedEnv controlledSession.bundle nextContext) ∧
    AdmitsAntennaControl armedEnv localStandardV1 controlledSession
      (armedMutation (.commandVerified "rig-1" "rig-2")) (noon 80) ∧
    ¬AdmitsAntennaControl armedEnv localStandardV1 (controlledSession.carrying nextContext)
      (armedMutation (.commandVerified "rig-1" "rig-2")) (noon 80) := by
  refine ⟨⟨controlledSession_committed, nextContext_new⟩, ?_, ?_⟩
  · rw [← admits_iff]
    decide +kernel
  · rw [← admits_iff]
    decide +kernel

/-- A cycle the operator confirmed is armed with the new context. -/
theorem controlledSession_independent :
    AdmitsAntennaControl armedEnv localStandardV1 (controlledSession.carrying nextContext)
        (armedMutation .operatorConfirmed) (noon 80) ↔
      (committedAntennaControl? controlledSession.bundle
        (armedMutation .operatorConfirmed)).isSome ∨
      ((armedMutation .operatorConfirmed).isCommandVerified = false ∧
        FitsWithContext armedEnv localStandardV1 controlledSession.bundle
          (armedMutation .operatorConfirmed) nextContext (noon 80)) :=
  contextIndependence_iff rfl controlledSession_committed nextContext_new
    (admits_iff.1 (by decide +kernel))

end Scenario

end AntennaBench
