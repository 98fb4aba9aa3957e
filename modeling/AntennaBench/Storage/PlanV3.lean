import AntennaBench.Storage.MutationV3
import AntennaBench.Storage.Limits

/-!
# What an admitted mutation does

Every commit of the four operations extends the bundle in the same way: a batch
of records joins the streams, the lines to append are the batch serialized, and
the next checkpoint has the heads of the whole streams serialized again.
-/

namespace AntennaBench

section

variable {E : Env} {profile : BundleResourceProfile} {α : Type} {codec : Codec α}

theorem serializeLineBounded_eq_ok {path : Path} {value : α} {line : Bytes} :
    serializeLineBounded E profile codec path value = .ok line ↔
      LineWrites E profile codec value ∧ line = codec.toVec value ++ [newline] := by
  simp only [serializeLineBounded, bind_eq_ok, checkLimit_eq_ok, scanJsonLimits_eq_ok,
    pure_eq_ok]
  constructor
  · rintro ⟨_, hsize, _, hjson, rfl⟩
    exact ⟨⟨hsize, hjson⟩, rfl⟩
  · rintro ⟨⟨hsize, hjson⟩, rfl⟩
    exact ⟨(), hsize, (), hjson, rfl⟩

theorem serializeRootBounded_eq_ok {path : Path} {value : α} {budget : ModeledBudget}
    {result : Bytes × ModeledBudget}
    (h : serializeRootBounded E profile codec path value budget = .ok result) :
    result.1 = serializeJson codec value := by
  simp only [serializeRootBounded, bind_eq_ok, pure_eq_ok] at h
  obtain ⟨_, _, _, _, _, _, rfl⟩ := h
  rfl

theorem serializeJsonl_cons (record : α) (records : List α) :
    serializeJsonl codec (record :: records) =
      codec.toVec record ++ [newline] ++ serializeJsonl codec records :=
  List.flatMap_cons ..

theorem serializeJsonl_append (records added : List α) :
    serializeJsonl codec (records ++ added) =
      serializeJsonl codec records ++ serializeJsonl codec added :=
  List.flatMap_append

theorem serializeJsonlBounded_eq_ok {path : Path} {records : List α} {budget : ModeledBudget}
    {result : Bytes × ModeledBudget}
    (h : serializeJsonlBounded E profile codec path records budget = .ok result) :
    result.1 = serializeJsonl codec records ∧ ∀ r ∈ records, LineWrites E profile codec r := by
  have hloop : ∀ (records : List α) (state result : Bytes × ModeledBudget),
      records.foldlM (serializeJsonlRecord E profile codec path) state = .ok result →
        result.1 = state.1 ++ serializeJsonl codec records ∧
          ∀ r ∈ records, LineWrites E profile codec r := by
    intro records
    induction records with
    | nil =>
      intro state result h
      cases pure_eq_ok.1 h
      simp [serializeJsonl]
    | cons record rest ih =>
      intro state result h
      rw [List.foldlM_cons, bind_eq_ok] at h
      obtain ⟨next, hnext, h⟩ := h
      simp only [serializeJsonlRecord, bind_eq_ok, serializeLineBounded_eq_ok, pure_eq_ok] at hnext
      obtain ⟨_, ⟨hwrites, rfl⟩, _, -, _, -, _, -, rfl⟩ := hnext
      obtain ⟨hbytes, hrest⟩ := ih _ _ h
      refine ⟨?_, List.forall_mem_cons.2 ⟨hwrites, hrest⟩⟩
      rw [hbytes, serializeJsonl_cons]
      simp
  simp only [serializeJsonlBounded, bind_eq_ok] at h
  obtain ⟨_, -, h⟩ := h
  simpa using hloop records _ _ h

end

/-- The records a mutation adds to each stream it may write. -/
structure RecordBatch where
  runtimeContexts : List RuntimeContextV6 := []
  diagnostics : List OperationalDiagnosticV6 := []
  events : List OperatorEventV3 := []
  observations : List ObservationRecordV2 := []
  adapterRecords : List AdapterRecordV2 := []
  rig : List RigRecordV3 := []

namespace RecordBatch

/-- The lines of a batch in a stream. -/
def bytes (E : Env) (batch : RecordBatch) : LiveStreamV2 → Bytes
  | .adapterRecords => serializeJsonl E.adapterRecord batch.adapterRecords
  | .observations => serializeJsonl E.observation batch.observations
  | .events => serializeJsonl E.eventV3 batch.events
  | .rig => serializeJsonl E.rigV3 batch.rig
  | .propagation => []
  | .runtimeContexts => serializeJsonl E.runtimeContext batch.runtimeContexts
  | .diagnostics => serializeJsonl E.diagnostic batch.diagnostics

end RecordBatch

namespace BundleV3Contents

/-- The bundle with a batch at the ends of its streams. -/
def append (bundle : BundleV3Contents) (batch : RecordBatch) : BundleV3Contents :=
  { bundle with
    runtimeContexts := bundle.runtimeContexts ++ batch.runtimeContexts
    diagnostics := bundle.diagnostics ++ batch.diagnostics
    events := bundle.events ++ batch.events
    observations := bundle.observations ++ batch.observations
    adapterRecords := bundle.adapterRecords ++ batch.adapterRecords
    rig := bundle.rig ++ batch.rig }

/-- The bundle at another checkpoint. -/
def withState (bundle : BundleV3Contents) (sessionState : SessionStateV2) : BundleV3Contents :=
  { bundle with sessionState }

variable (E : Env) (bundle : BundleV3Contents)

/-- The active plan with the digests of its documents as they are serialized. -/
def sealedPlan : PlanGenerationV2 :=
  let stationSha256 := E.sha256Hex (serializeJson E.station bundle.station)
  let antennasSha256 := E.sha256Hex (serializeJson E.antennas bundle.antennas)
  let scheduleSha256 := E.sha256Hex (serializeJson E.scheduleV3 bundle.schedule)
  { bundle.sessionState.activePlan with
    stationSha256, antennasSha256, scheduleSha256
    rootSha256 := planRootSha256 E [stationSha256, antennasSha256, scheduleSha256] }

/-- The head of a stream as it is serialized. -/
def sealedHead (stream : LiveStreamV2) : StreamCheckpointV2 :=
  bundle.headFor E stream (bundle.streamBytes E stream)

def sealedStreams : List (String × StreamCheckpointV2) :=
  (orderedStreams (bundle.manifest.schemaVersion == schemaVersionV6)).map
    fun stream => (stream.checkpointName, bundle.sealedHead E stream)

/-- The checkpoint of the bundle after a mutation. -/
def sealedState (revision : ℕ) (mutationId : String) : SessionStateV2 :=
  { bundle.sessionState with
    activePlan := bundle.sealedPlan E
    streams := bundle.sealedStreams E
    revision
    lastCommittedMutationId := some mutationId }

/-- Every record of the bundle can be written as one line. -/
structure Writable : Prop where
  events : ∀ r ∈ bundle.events, LineWrites E localStandardV1 E.eventV3 r
  observations : ∀ r ∈ bundle.observations, LineWrites E localStandardV1 E.observation r
  adapterRecords : ∀ r ∈ bundle.adapterRecords, LineWrites E localStandardV1 E.adapterRecord r
  rig : ∀ r ∈ bundle.rig, LineWrites E localStandardV1 E.rigV3 r
  runtimeContexts : ∀ r ∈ bundle.runtimeContexts, LineWrites E localStandardV1 E.runtimeContext r
  diagnostics : ∀ r ∈ bundle.diagnostics, LineWrites E localStandardV1 E.diagnostic r

end BundleV3Contents

section

variable {E : Env} {profile : BundleResourceProfile}

theorem refreshV3Checkpoint_eq_ok {bundle sealed : BundleV3Contents}
    (h : refreshV3Checkpoint E bundle = .ok sealed) :
    bundle.Writable E ∧ sealed = bundle.withState { bundle.sessionState with
      activePlan := bundle.sealedPlan E
      streams := bundle.sealedStreams E } := by
  simp only [refreshV3Checkpoint, bind_eq_ok, pure_eq_ok, Prod.exists, serializeDocument,
    serializeStream] at h
  obtain ⟨station, _, hstation, antennas, _, hantennas, schedule, _, hschedule, events, _, hevents,
    observations, _, hobservations, adapters, _, hadapters, rig, _, hrig, propagation, _,
    hpropagation, contexts, _, hcontexts, diagnostics, _, hdiagnostics, rfl⟩ := h
  obtain ⟨rfl : events = _, writesEvents⟩ := serializeJsonlBounded_eq_ok hevents
  obtain ⟨rfl : observations = _, writesObservations⟩ := serializeJsonlBounded_eq_ok hobservations
  obtain ⟨rfl : adapters = _, writesAdapters⟩ := serializeJsonlBounded_eq_ok hadapters
  obtain ⟨rfl : rig = _, writesRig⟩ := serializeJsonlBounded_eq_ok hrig
  obtain ⟨rfl : propagation = _, -⟩ := serializeJsonlBounded_eq_ok hpropagation
  obtain ⟨rfl : contexts = _, writesContexts⟩ := serializeJsonlBounded_eq_ok hcontexts
  obtain ⟨rfl : diagnostics = _, writesDiagnostics⟩ := serializeJsonlBounded_eq_ok hdiagnostics
  obtain rfl : station = _ := serializeRootBounded_eq_ok hstation
  obtain rfl : antennas = _ := serializeRootBounded_eq_ok hantennas
  obtain rfl : schedule = _ := serializeRootBounded_eq_ok hschedule
  exact ⟨⟨writesEvents, writesObservations, writesAdapters, writesRig, writesContexts,
    writesDiagnostics⟩, rfl⟩

theorem sealCandidate_eq_ok {bundle candidate sealed : BundleV3Contents} {mutationId : String}
    (h : sealCandidate E bundle candidate mutationId = .ok sealed) :
    candidate.Writable E ∧ validateV3Model E sealed = .ok () ∧
      bundle.sessionState.revision + 1 < 2 ^ 64 ∧
      sealed = candidate.withState
        (candidate.sealedState E (bundle.sessionState.revision + 1) mutationId) := by
  simp only [sealCandidate, liftStore, bind_eq_ok, mapError_eq_ok, nextRevision, orError_eq_ok,
    pure_eq_ok] at h
  obtain ⟨refreshed, hrefresh, revision, hrevision, _, hmodel, rfl⟩ := h
  obtain ⟨hwritable, rfl⟩ := refreshV3Checkpoint_eq_ok hrefresh
  have hbound : bundle.sessionState.revision + 1 < 2 ^ 64 := by
    unfold checkedAdd64 at hrevision
    split_ifs at hrevision with hlt
    exact hlt
  cases checkedAdd64_eq_some hrevision
  exact ⟨hwritable, hmodel, hbound, rfl⟩

/-- The bytes a plan appends to a stream. -/
def CommitPlan.appended (plan : CommitPlan) (stream : LiveStreamV2) : Bytes :=
  (plan.lines.lookup stream).getD []

/-- The plan extends the bundle by a batch of records. -/
structure CommitPlan.Extends (E : Env) (profile : BundleResourceProfile)
    (bundle : BundleV3Contents) (batch : RecordBatch) (plan : CommitPlan) : Prop where
  records : plan.candidate = (bundle.append batch).withState plan.candidate.sessionState
  revision : plan.candidate.sessionState.revision = bundle.sessionState.revision + 1
  bound : bundle.sessionState.revision + 1 < 2 ^ 64
  activePlan : plan.candidate.sessionState.activePlan = bundle.sealedPlan E
  streams : plan.candidate.sessionState.streams = (bundle.append batch).sealedStreams E
  model : validateV3Model E plan.candidate = .ok ()
  writable : (bundle.append batch).Writable E
  appended : ∀ stream, plan.appended stream = batch.bytes E stream
  nodup : (plan.lines.map (·.1)).Nodup
  nonempty : ∀ entry ∈ plan.lines, entry.2 ≠ []
  rollback : ∀ entry ∈ plan.lines, entry.1 ∈ plan.rollback
  preflight : plan.lines = [] ∨
    preflightLiveBudget profile bundle.sessionState plan.lines = .ok ()

theorem lookup_stream (stream name : LiveStreamV2) (bytes : Bytes)
    (rest : List (LiveStreamV2 × Bytes)) :
    ((name, bytes) :: rest).lookup stream =
      if stream = name then some bytes else rest.lookup stream := by
  by_cases h : stream = name
  · simp [h]
  · have hbeq : (stream == name) = false := by simpa using h
    simp [List.lookup_cons, hbeq, h]

theorem lookup_filter_nonempty (serialized : List (LiveStreamV2 × Bytes))
    (hnodup : (serialized.map (·.1)).Nodup) (stream : LiveStreamV2) :
    ((serialized.filter (!·.2.isEmpty)).lookup stream).getD [] =
      (serialized.lookup stream).getD [] := by
  induction serialized with
  | nil => rfl
  | cons entry rest ih =>
    obtain ⟨name, bytes⟩ := entry
    obtain ⟨hfresh, hrest⟩ := List.nodup_cons.1 hnodup
    have hnone : ∀ items : List (LiveStreamV2 × Bytes), items ⊆ rest →
        items.lookup name = none := by
      intro items hsub
      refine List.lookup_eq_none_iff.2 fun other hother => ?_
      have hmem : other.1 ∈ rest.map (·.1) := List.mem_map_of_mem (hsub hother)
      simpa using (ne_of_mem_of_not_mem hmem hfresh).symm
    by_cases hname : stream = name
    · subst hname
      cases bytes with
      | nil => simp [hnone _ (List.filter_subset_self _)]
      | cons => simp
    · have hbeq : (stream == name) = false := by simpa using hname
      cases bytes with
      | nil => simpa [List.lookup_cons, hbeq] using ih hrest
      | cons => simpa [List.lookup_cons, hbeq] using ih hrest

/-- A candidate that was sealed and passed the preflight makes a plan that extends
the bundle. -/
theorem CommitPlan.extends_of_sealed {bundle raw candidate : BundleV3Contents}
    {batch : RecordBatch} {mutationId : String} {lines serialized : List (LiveStreamV2 × Bytes)}
    {rollback : List LiveStreamV2} {pending : Option RuntimeContextV6}
    (hsealed : sealCandidate E bundle raw mutationId = .ok candidate)
    (hraw : raw = (bundle.append batch).withState raw.sessionState)
    (hstate : raw.sessionState.activePlan = bundle.sessionState.activePlan)
    (hlines : preflightBatch profile bundle serialized = .ok lines)
    (hnodup : (serialized.map (·.1)).Nodup)
    (hbytes : ∀ stream, (serialized.lookup stream).getD [] = batch.bytes E stream)
    (hrollback : ∀ entry ∈ serialized, entry.2 ≠ [] → entry.1 ∈ rollback) :
    CommitPlan.Extends E profile bundle batch ⟨candidate, lines, rollback, pending⟩ := by
  rw [hraw] at hsealed
  obtain ⟨hwritable, hmodel, hbound, rfl⟩ := sealCandidate_eq_ok hsealed
  simp only [preflightBatch, bind_eq_ok, pure_eq_ok] at hlines
  obtain ⟨_, hpreflight, rfl⟩ := hlines
  refine {
    records := rfl
    revision := rfl
    bound := hbound
    activePlan := ?_
    streams := rfl
    model := hmodel
    writable := ⟨hwritable.1, hwritable.2, hwritable.3, hwritable.4, hwritable.5, hwritable.6⟩
    appended := fun stream => (lookup_filter_nonempty serialized hnodup stream).trans
      (hbytes stream)
    nodup := hnodup.sublist (List.filter_sublist.map _)
    nonempty := fun entry hentry => ?_
    rollback := fun entry hentry => ?_
    preflight := .inr hpreflight }
  · simp only [BundleV3Contents.withState, BundleV3Contents.sealedState,
      BundleV3Contents.sealedPlan, hstate]
    rfl
  · simpa using (List.mem_filter.1 hentry).2
  · obtain ⟨hmem, hne⟩ := List.mem_filter.1 hentry
    exact hrollback entry hmem (by simpa using hne)

theorem reduceCandidate_eq_ok {candidate reduced : BundleV3Contents}
    (h : reduceCandidate candidate = .ok reduced) :
    ∃ lifecycle, reduced = candidate.withState { candidate.sessionState with lifecycle } := by
  unfold reduceCandidate at h
  dsimp only at h
  split at h
  · cases h
  · cases h
    exact ⟨_, rfl⟩

/-- The contexts a mutation adds are rolled back with it. -/
theorem contexts_mem_rollbackStreams {actor : PreparedRuntimeActor} {streams : List LiveStreamV2}
    (h : (actor.contextLines E).2 ≠ []) : .runtimeContexts ∈ rollbackStreams actor streams := by
  unfold rollbackStreams
  cases hcontext : actor.newContext with
  | none => simp [PreparedRuntimeActor.contextLines, hcontext, serializeJsonl] at h
  | some context => simp

theorem mem_rollbackStreams {actor : PreparedRuntimeActor} {streams : List LiveStreamV2}
    {stream : LiveStreamV2} (h : stream ∈ streams) : stream ∈ rollbackStreams actor streams :=
  List.mem_append_right _ h

/-- The event as the writer stores it. -/
def storedEvent (session : LiveSessionV3) (mutation : LiveEventMutationV3) (now : DateTime)
    (actor : PreparedRuntimeActor) : OperatorEventV3 :=
  { mutation.event with
    recordMeta :=
      actor.envelope session.bundle mutation.mutationId now 0 mutation.event.recordMeta }

/-- What the writer goes through to commit an event: its identity is in no stream, the run with
the stored event reduces, and the sealed candidate passes. -/
structure EventCommitted (E : Env) (profile : BundleResourceProfile) (session : LiveSessionV3)
    (mutation : LiveEventMutationV3) (now : DateTime) (plan : CommitPlan)
    (actor : PreparedRuntimeActor) (candidate : BundleV3Contents) : Prop where
  fresh : session.bundle.committedEvent? mutation.mutationId = none
  alone : session.bundle.otherStreamHasMutation mutation.mutationId = false
  expected : mutation.expectedRevision = session.bundle.sessionState.revision
  prepared : session.prepareRuntimeActor mutation.mutationId 1 now = .ok actor
  reduced : reduceCandidate { actor.apply session.bundle with
      events := (actor.apply session.bundle).events ++ [storedEvent session mutation now actor] } =
    .ok candidate
  sealed : sealCandidate E session.bundle candidate mutation.mutationId = .ok plan.candidate
  lines : preflightBatch profile session.bundle [actor.contextLines E,
      (.events, serializeJsonl E.eventV3 [storedEvent session mutation now actor])] = .ok plan.lines
  rollback : plan.rollback = rollbackStreams actor [.events]
  pending : plan.pending = none

theorem planEvent_eq_commit {session : LiveSessionV3} {mutation : LiveEventMutationV3}
    {now : DateTime} {plan : CommitPlan} {receipt : CommitReceiptV2}
    (h : planEvent E profile session mutation now = .ok (.commit plan receipt)) :
    ∃ actor candidate, EventCommitted E profile session mutation now plan actor candidate := by
  unfold planEvent at h
  dsimp only at h
  split at h
  · unfold settle at h
    split_ifs at h
    all_goals cases h
  · rename_i hnone
    simp only [bind_eq_ok, checkRevision, failIf_eq_ok, pure_eq_ok] at h
    obtain ⟨_, hother, _, hrevision, _, -, _, -, actor, hactor, candidate, hreduce, sealed, hsealed,
      lines, hlines, hcommit⟩ := h
    cases hcommit
    exact ⟨actor, candidate, hnone, hother, by simpa using hrevision, hactor, hreduce, hsealed,
      hlines, rfl, rfl⟩

theorem EventCommitted.named {session : LiveSessionV3} {mutation : LiveEventMutationV3}
    {now : DateTime} {plan : CommitPlan} {actor : PreparedRuntimeActor}
    {candidate : BundleV3Contents}
    (h : EventCommitted E profile session mutation now plan actor candidate) :
    plan.candidate.sessionState.lastCommittedMutationId = some mutation.mutationId := by
  obtain ⟨-, -, -, hcandidate⟩ := sealCandidate_eq_ok h.sealed
  rw [hcandidate]
  rfl

theorem EventCommitted.extends {session : LiveSessionV3} {mutation : LiveEventMutationV3}
    {now : DateTime} {plan : CommitPlan} {actor : PreparedRuntimeActor}
    {candidate : BundleV3Contents}
    (h : EventCommitted E profile session mutation now plan actor candidate) :
    plan.Extends E profile session.bundle {
      runtimeContexts := actor.newContext.toList
      events := [storedEvent session mutation now actor] } := by
  obtain ⟨lifecycle, hcandidate⟩ := reduceCandidate_eq_ok h.reduced
  have hsealed := h.sealed
  rw [hcandidate] at hsealed
  refine CommitPlan.extends_of_sealed hsealed ?_ rfl h.lines ?_ ?_ ?_
  · simp [BundleV3Contents.append, BundleV3Contents.withState, PreparedRuntimeActor.apply,
      storedEvent]
  · simp [PreparedRuntimeActor.contextLines]
  · intro stream
    cases stream <;> simp [lookup_stream, PreparedRuntimeActor.contextLines,
      RecordBatch.bytes, storedEvent, serializeJsonl]
  · rintro entry hentry hne
    rw [h.rollback]
    simp only [List.mem_cons, List.not_mem_nil, or_false] at hentry
    rcases hentry with rfl | rfl
    · exact contexts_mem_rollbackStreams hne
    · exact mem_rollbackStreams (by simp)

end

end AntennaBench
