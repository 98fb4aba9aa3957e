import AntennaBench.Analysis.Summary
import AntennaBench.Scenario.Session
import AntennaBench.Storage.ValidateV2
import AntennaBench.Storage.WriterV2

/-!
# The lifecycle of a schema-v2 writer

The writer replays the committed events from a lifecycle it guesses from them, while the
checkpoint follows the replay from a ready session. The two agree exactly as long as no
evidence is recorded before the session is started.
-/

namespace AntennaBench

open SessionLifecycleV2

/-- The replay that admits events ends in the lifecycle of the checkpoint, without a
report. -/
def ReplayAgrees (bundle : BundleV2Contents) : Prop :=
  (reduceOperatorEventsV2 (initialLifecycle bundle) bundle.events).lifecycle =
      bundle.sessionState.lifecycle ∧
    (reduceOperatorEventsV2 (initialLifecycle bundle) bundle.events).diagnostics = []

/-- The events are replayed without a report and have moved the session on, if there are
any. -/
def StartedFirst (bundle : BundleV2Contents) : Prop :=
  bundle.events = [] ∨
    (reduceOperatorEventsV2 ready bundle.events).diagnostics = [] ∧
      bundle.sessionState.lifecycle ≠ ready

/-- What the writer keeps of a readable bundle: the checkpoint has the lifecycle the events
end in, and the events are of the session. -/
structure KeptV2 (bundle : BundleV2Contents) : Prop where
  lifecycle : (reduceOperatorEventsV2 ready bundle.events).lifecycle =
    bundle.sessionState.lifecycle
  sessionId : ∀ event ∈ bundle.events, event.recordMeta.sessionId = bundle.manifest.sessionId

theorem ReadableV2.kept {F : TextFormat} {bundle : BundleV2Contents} (h : ReadableV2 F bundle) :
    KeptV2 bundle :=
  ⟨h.lifecycle, h.sessionId⟩

theorem initialLifecycle_eq (bundle : BundleV2Contents) :
    initialLifecycle bundle =
      if bundle.events.isEmpty then bundle.sessionState.lifecycle
      else if bundle.events.any (·.payload.isStart) then ready
      else draft := by
  unfold initialLifecycle
  congr 3

variable {bundle next : BundleV2Contents}

theorem initialLifecycle_cases (h : KeptV2 bundle) :
    bundle.events = [] ∧ initialLifecycle bundle = ready ∨
      bundle.events.any (·.payload.isStart) = true ∧ initialLifecycle bundle = ready ∨
      bundle.events ≠ [] ∧ bundle.events.any (·.payload.isStart) = false ∧
        initialLifecycle bundle = draft := by
  rw [initialLifecycle_eq]
  split_ifs with hempty hstart
  · have hempty : bundle.events = [] := by simpa using hempty
    have hlifecycle := h.lifecycle
    rw [hempty] at hlifecycle
    exact .inl ⟨hempty, hlifecycle.symm⟩
  · exact .inr (.inl ⟨hstart, rfl⟩)
  · exact .inr (.inr ⟨by simpa using hempty, by simpa using hstart, rfl⟩)

theorem replayAgrees_iff (h : KeptV2 bundle) : ReplayAgrees bundle ↔ StartedFirst bundle := by
  have hkept := h.lifecycle
  unfold ReplayAgrees StartedFirst
  rcases initialLifecycle_cases h with ⟨hempty, hinitial⟩ | ⟨hstart, hinitial⟩ |
    ⟨hempty, hstart, hinitial⟩
  · rw [hinitial, hkept, hempty]
    simp [ReductionStateV2.init]
  · rw [hinitial, hkept]
    have hne : bundle.events ≠ [] := by
      rintro hempty
      simp [hempty] at hstart
    simp only [hne, false_or, true_and]
    refine ⟨fun hdiagnostics => ⟨hdiagnostics, ?_⟩, And.left⟩
    rw [← hkept]
    exact replayV2_started hdiagnostics hstart
  · have hshadows := replayV2_fromDraft hstart
    rw [hinitial, ← hkept]
    simp only [hempty, false_or, reduce_lifecycle, reduce_diagnostics]
    rw [hshadows.lifecycle, SessionLifecycleV2.fromDraft_eq_self, ← List.length_eq_zero_iff,
      hshadows.diagnostics, List.length_eq_zero_iff]
    exact and_comm

/-- A replay from a draft session reports the start of the session. -/
theorem start_reported {state shadow : ReductionStateV2} (h : state.Shadows shadow)
    {event : OperatorEventV2}
    (hlength : (shadow.step event).diagnostics.length = shadow.diagnostics.length) :
    event.payload.isStart = false := by
  cases ReductionStateV2.step_outcome shadow event with
  | reported lifecycle diagnostics =>
    obtain ⟨diagnostic, hdiagnostic⟩ := diagnostics
    simp [hdiagnostic] at hlength
  | moved isLifecycle transition diagnostics =>
    rw [h.lifecycle] at transition
    cases hstate : state.lifecycle <;> cases hpayload : event.payload <;>
      simp_all [applyLifecycleTransition, SessionLifecycleV2.fromDraft,
        OperatorEventPayloadV2.isStart, OperatorEventPayloadV2.isLifecycle]
  | taken isLifecycle lifecycle diagnostics =>
    cases hpayload : event.payload <;>
      simp_all [OperatorEventPayloadV2.isStart, OperatorEventPayloadV2.isLifecycle]

/-- What the writer admits after the committed events, the replay from a ready session
takes without a report. -/
theorem append_length (h : KeptV2 bundle) {event : OperatorEventV2}
    (happend : (reduceOperatorEventsV2 (initialLifecycle bundle)
        (bundle.events ++ [event])).diagnostics.length =
      (reduceOperatorEventsV2 (initialLifecycle bundle) bundle.events).diagnostics.length) :
    ((replayV2 ready bundle.events).step event).diagnostics.length =
      (replayV2 ready bundle.events).diagnostics.length := by
  simp only [reduce_diagnostics, replayV2_concat] at happend
  rcases initialLifecycle_cases h with ⟨-, hinitial⟩ | ⟨-, hinitial⟩ | ⟨-, hnone, hinitial⟩
  · rwa [hinitial] at happend
  · rwa [hinitial] at happend
  · have hshadows := replayV2_fromDraft hnone
    rw [hinitial] at happend
    have hevent := start_reported hshadows happend
    rw [← hshadows.diagnostics, ← (hshadows.step hevent).diagnostics, happend]

theorem validateOperatorEventAppendV2_eq_ok {initial : SessionLifecycleV2} {current expected : ℕ}
    {existing : List OperatorEventV2} {proposed : OperatorEventV2} :
    (∃ reduction, validateOperatorEventAppendV2 initial current expected existing proposed =
        .ok reduction) ↔
      current = expected ∧
      (∀ event ∈ existing.head?, event.recordMeta.sessionId = proposed.recordMeta.sessionId) ∧
      (reduceOperatorEventsV2 initial (existing ++ [proposed])).diagnostics.length =
        (reduceOperatorEventsV2 initial existing).diagnostics.length := by
  have hhead : (∀ event ∈ existing.head?,
      event.recordMeta.sessionId = proposed.recordMeta.sessionId) ↔
        ¬existing.head?.any (·.recordMeta.sessionId ≠ proposed.recordMeta.sessionId) = true := by
    cases existing <;> simp
  rw [hhead]
  unfold validateOperatorEventAppendV2
  dsimp only
  split_ifs with hrevision hsession hlength
  · exact iff_of_false (by rintro ⟨_, h⟩; cases h) fun h => hrevision h.1
  · exact iff_of_false (by rintro ⟨_, h⟩; cases h) fun h => h.2.1 hsession
  · exact iff_of_false (by rintro ⟨_, h⟩; cases h) fun h => hlength h.2.2
  · exact ⟨fun _ => ⟨by simpa using hrevision, hsession, by simpa using hlength⟩,
      fun _ => ⟨_, rfl⟩⟩

theorem validateLifecycleTransitionV2_eq_ok {lifecycle next : SessionLifecycleV2}
    {current expected : ℕ} {payload : OperatorEventPayloadV2} :
    validateLifecycleTransitionV2 lifecycle current expected payload = .ok next ↔
      current = expected ∧ applyLifecycleTransition lifecycle payload = .ok next := by
  unfold validateLifecycleTransitionV2
  split_ifs with hrevision <;> simp_all

/-- The replay from a ready session follows the writer. -/
theorem AdmittedV2.replayed {expectedRevision : ℕ} {event : OperatorEventV2}
    {lifecycle : SessionLifecycleV2} (hkept : KeptV2 bundle)
    (h : AdmittedV2 bundle expectedRevision bundle.sessionState.lifecycle event lifecycle) :
    ((replayV2 ready bundle.events).step event).lifecycle = lifecycle ∧
      ((replayV2 ready bundle.events).step event).diagnostics =
        (replayV2 ready bundle.events).diagnostics := by
  have hlength := append_length hkept (validateOperatorEventAppendV2_eq_ok.1 h.append).2.2
  have hlifecycle := hkept.lifecycle
  rw [reduce_lifecycle] at hlifecycle
  cases ReductionStateV2.step_outcome (replayV2 ready bundle.events) event with
  | reported lifecycle diagnostics =>
    obtain ⟨diagnostic, hdiagnostic⟩ := diagnostics
    simp [hdiagnostic] at hlength
  | moved isLifecycle transition diagnostics =>
    have happly := (validateLifecycleTransitionV2_eq_ok.1 (h.transition isLifecycle)).2
    rw [hlifecycle, happly] at transition
    exact ⟨(Except.ok.inj transition).symm, diagnostics⟩
  | taken isLifecycle same diagnostics =>
    rw [same, hlifecycle, h.evidence isLifecycle]
    exact ⟨rfl, diagnostics⟩

/-- A mutation of one new lifecycle event of a sound shape. -/
structure FreshTransition (bundle : BundleV2Contents) (mutationId : String)
    (event : OperatorEventV2) : Prop where
  isLifecycle : event.payload.isLifecycle = true
  shape : eventShapeError event = none
  mutationId_ne : mutationId ≠ ""
  mutationId_new : committedMutation? bundle mutationId = none
  eventId_ne : event.eventId ≠ ""
  eventId_new : event.eventId ∉ bundle.members.map (·.recordId)
  memberIndex : event.recordMeta.mutation.memberIndex = 0

/-- Where the replays agree, a new lifecycle event is admitted exactly when the lifecycle of
the checkpoint allows it. -/
theorem admittedV2_iff (hkept : KeptV2 bundle) (hagrees : ReplayAgrees bundle)
    {event : OperatorEventV2} (hshape : eventShapeError event = none)
    (hlifecycle : event.payload.isLifecycle = true)
    (hnew : event.eventId ∉ bundle.events.map (·.eventId))
    (hsession : event.recordMeta.sessionId = bundle.manifest.sessionId)
    {lifecycle : SessionLifecycleV2} :
    AdmittedV2 bundle bundle.sessionState.revision bundle.sessionState.lifecycle event lifecycle ↔
      applyLifecycleTransition bundle.sessionState.lifecycle event.payload = .ok lifecycle := by
  constructor
  · intro h
    exact (validateLifecycleTransitionV2_eq_ok.1 (h.transition hlifecycle)).2
  · intro h
    refine ⟨validateOperatorEventAppendV2_eq_ok.2 ⟨rfl, ?_, ?_⟩,
      fun _ => validateLifecycleTransitionV2_eq_ok.2 ⟨rfl, h⟩, by simp [hlifecycle]⟩
    · intro first hfirst
      rw [hsession]
      exact hkept.sessionId first (List.mem_of_mem_head? hfirst)
    · simp only [reduce_diagnostics, replayV2_concat]
      apply (ReductionStateV2.step_transition _ hshape hlifecycle).2
      · have hlast := hagrees.1
        rw [reduce_lifecycle] at hlast
        rw [hlast]
        exact ⟨lifecycle, h⟩
      · exact fun hmem => hnew (replayV2_seenIds _ _ hmem)

section

variable (E : Env) (profile : BundleResourceProfile)
  (strictReport : BundleContents → List String)
  (checkpointHeads : BundleV2Contents →
    Except LivePersistenceError (List (String × StreamCheckpointV2)))

/-- The event as the writer stores it when it is the only member of its mutation. -/
def stampedEvent (bundle : BundleV2Contents) (mutationId : String) (now : DateTime)
    (event : OperatorEventV2) : OperatorEventV2 :=
  { event with recordMeta := { event.recordMeta with
    schemaVersion := schemaVersionV2
    sessionId := bundle.manifest.sessionId
    recordedAt := now
    mutation := ⟨mutationId, event.recordMeta.mutation.memberIndex, 1⟩ } }

/-- The checks of an append that do not ask whether the lifecycle event is allowed. -/
structure Committable (bundle : BundleV2Contents) (event : OperatorEventV2)
    (lifecycle : SessionLifecycleV2) : Prop where
  links : validateAdapterLinks bundle = .ok ()
  report : strictReport ({ bundle with
    events := bundle.events ++ [event]
    sessionState := { bundle.sessionState with lifecycle } } : BundleV2Contents).intoCurrent.bundle
      = []
  budget : preflightLiveBudget profile bundle.sessionState
    [(.events, E.eventV2.toVec event ++ [newline])] = .ok ()
  heads : ∃ streams, checkpointHeads { bundle with events := bundle.events ++ [event] } =
    .ok streams
  revision : ∃ revision, checkedAdd64 bundle.sessionState.revision 1 = some revision

theorem prepareMutation_single {mutationId : String} {event : OperatorEventV2} {now : DateTime}
    (h : FreshTransition bundle mutationId event) :
    prepareMutation ⟨bundle.sessionState.revision, mutationId, [.event event]⟩
        bundle.manifest.sessionId now =
      .ok ⟨bundle.sessionState.revision, mutationId,
        [.event (stampedEvent bundle mutationId now event)]⟩ := by
  have hid : event.eventId.isEmpty = false := by simpa using h.eventId_ne
  have hmutation : mutationId.isEmpty = false := by simpa using h.mutationId_ne
  simp [prepareMutation, prepareMember, hmutation, LiveMutationMemberV2.recordId, hid,
    LiveMutationMemberV2.recordMeta, h.memberIndex, stampedEvent, LiveMutationMemberV2.setMeta]

theorem admitMember_transition {event : OperatorEventV2} {ids : List String}
    {lifecycle : SessionLifecycleV2} {expectedRevision : ℕ} {scan : AdmissionScan}
    (hnew : event.eventId ∉ ids) (hlifecycle : event.payload.isLifecycle = true) :
    admitMember bundle expectedRevision ⟨ids, lifecycle, 0⟩ (.event event) = .ok scan ↔
      AdmittedV2 bundle expectedRevision lifecycle event scan.lifecycle ∧
        scan = ⟨event.eventId :: ids, scan.lifecycle, 1⟩ := by
  constructor
  · intro h
    obtain ⟨-, hadmitted⟩ := admitMember_event h
    refine ⟨hadmitted, ?_⟩
    simp only [admitMember, bind_eq_ok, failIf_eq_ok, mapError_eq_ok, hlifecycle, if_true,
      pure_eq_ok] at h
    obtain ⟨-, -, -, -, moved, -, rfl⟩ := h
    rfl
  · rintro ⟨hadmitted, hscan⟩
    obtain ⟨reduction, hreduction⟩ := hadmitted.append
    simp only [admitMember, bind_eq_ok, failIf_eq_ok, mapError_eq_ok, hlifecycle, if_true,
      pure_eq_ok]
    exact ⟨(), by simpa [LiveMutationMemberV2.recordId] using hnew, reduction, hreduction,
      scan.lifecycle, hadmitted.transition hlifecycle, hscan.symm⟩

theorem validateMutation_event (hkept : KeptV2 bundle) (hagrees : ReplayAgrees bundle)
    {mutationId : String} {event : OperatorEventV2} {now : DateTime}
    (h : FreshTransition bundle mutationId event) {lifecycle : SessionLifecycleV2} :
    validateMutation strictReport bundle ⟨bundle.sessionState.revision, mutationId,
        [.event (stampedEvent bundle mutationId now event)]⟩ = .ok lifecycle ↔
      applyLifecycleTransition bundle.sessionState.lifecycle event.payload = .ok lifecycle ∧
      validateAdapterLinks bundle = .ok () ∧
      strictReport ({ bundle with
        events := bundle.events ++ [stampedEvent bundle mutationId now event]
        sessionState := { bundle.sessionState with lifecycle } } :
          BundleV2Contents).intoCurrent.bundle = [] := by
  have hnew : (stampedEvent bundle mutationId now event).eventId ∉
      bundle.members.map (·.recordId) := h.eventId_new
  have hshape : eventShapeError (stampedEvent bundle mutationId now event) = none := h.shape
  have hlifecycle : (stampedEvent bundle mutationId now event).payload.isLifecycle = true :=
    h.isLifecycle
  have hevents : (stampedEvent bundle mutationId now event).eventId ∉
      bundle.events.map (·.eventId) := by
    intro hmem
    apply h.eventId_new
    obtain ⟨other, hother, hid⟩ := List.mem_map.1 hmem
    exact List.mem_map.2 ⟨.event other, by simp [BundleV2Contents.members, hother], hid⟩
  have hadmitted : ∀ lifecycle, AdmittedV2 bundle bundle.sessionState.revision
      bundle.sessionState.lifecycle (stampedEvent bundle mutationId now event) lifecycle ↔
        applyLifecycleTransition bundle.sessionState.lifecycle event.payload = .ok lifecycle :=
    fun lifecycle => admittedV2_iff hkept hagrees hshape hlifecycle hevents rfl
  have hinPlan : antennaInPlan (bundle.antennas.antennas.map (·.label))
      (.event (stampedEvent bundle mutationId now event)) = .ok () := by
    have hlifecycle := h.isLifecycle
    unfold antennaInPlan stampedEvent
    cases hpayload : event.payload <;> simp_all [OperatorEventPayloadV2.isLifecycle]
  have henvelope : envelopeMatches bundle ⟨bundle.sessionState.revision, mutationId,
      [.event (stampedEvent bundle mutationId now event)]⟩
        (.event (stampedEvent bundle mutationId now event), 0) = true := by
    simp [envelopeMatches, stampedEvent, LiveMutationMemberV2.recordMeta, h.memberIndex]
  unfold validateMutation
  simp only [bind_eq_ok, failIf_eq_ok, pure_eq_ok, List.foldlM_cons, List.foldlM_nil, forM_eq_ok,
    Bool.not_eq_eq_eq_not, Bool.not_false, List.isEmpty_iff]
  constructor
  · rintro ⟨-, -, -, -, scan, ⟨_, hscan, rfl⟩, -, -, -, -, -, -, _, hlinks, -, hreport, rfl⟩
    obtain ⟨hscan, -⟩ := (admitMember_transition hnew h.isLifecycle).1 hscan
    exact ⟨(hadmitted _).1 hscan, hlinks, hreport⟩
  · rintro ⟨happly, hlinks, hreport⟩
    have hscan : admitMember bundle bundle.sessionState.revision
        ⟨bundle.members.map (·.recordId), bundle.sessionState.lifecycle, 0⟩
        (.event (stampedEvent bundle mutationId now event)) =
          .ok ⟨event.eventId :: bundle.members.map (·.recordId), lifecycle, 1⟩ :=
      (admitMember_transition hnew h.isLifecycle).2 ⟨(hadmitted lifecycle).2 happly, rfl⟩
    exact ⟨(), by simp, (), by simpa using henvelope, _, ⟨_, hscan, rfl⟩, (), by simp, (),
      by simp [LiveMutationMemberV2.isEvent], (), by simpa using hinPlan, (), hlinks, (), hreport,
      rfl⟩

/-- A new lifecycle event is accepted exactly when the lifecycle of the checkpoint allows it
and the checks that do not ask for the lifecycle pass. -/
def DecidesByLifecycle (bundle : BundleV2Contents) : Prop :=
  ∀ mutationId event now, FreshTransition bundle mutationId event →
    ((∃ next, planAppendV2 E profile strictReport checkpointHeads bundle
        ⟨bundle.sessionState.revision, mutationId, [.event event]⟩ now = .ok (some next)) ↔
      ∃ lifecycle,
        applyLifecycleTransition bundle.sessionState.lifecycle event.payload = .ok lifecycle ∧
        Committable E profile strictReport checkpointHeads bundle
          (stampedEvent bundle mutationId now event) lifecycle)

theorem ReplayAgrees.decides (hkept : KeptV2 bundle) (hagrees : ReplayAgrees bundle) :
    DecidesByLifecycle E profile strictReport checkpointHeads bundle := by
  intro mutationId event now hfresh
  unfold planAppendV2
  rw [hfresh.mutationId_new]
  simp only [bind_eq_ok, failIf_eq_ok, orError_eq_ok, pure_eq_ok, Option.some.injEq,
    prepareMutation_single hfresh]
  constructor
  · rintro ⟨next, -, -, mutation, hmutation, lifecycle, hlifecycle, _, hbudget, streams, hstreams,
      revision, hrevision, -⟩
    obtain rfl := Except.ok.inj hmutation
    obtain ⟨happly, hlinks, hreport⟩ :=
      (validateMutation_event strictReport hkept hagrees hfresh).1 hlifecycle
    exact ⟨lifecycle, happly, hlinks, hreport, hbudget, ⟨streams, hstreams⟩, revision, hrevision⟩
  · rintro ⟨lifecycle, happly, hcommit⟩
    obtain ⟨streams, hstreams⟩ := hcommit.heads
    obtain ⟨revision, hrevision⟩ := hcommit.revision
    exact ⟨_, (), by simp, _, rfl, lifecycle,
      (validateMutation_event strictReport hkept hagrees hfresh).2
        ⟨happly, hcommit.links, hcommit.report⟩,
      (), hcommit.budget, streams, hstreams, revision, hrevision, rfl⟩

/-- The replay that admits events agrees with the checkpoint, and a lifecycle event is decided
by the lifecycle of the checkpoint. -/
def LifecycleAgrees (bundle : BundleV2Contents) : Prop :=
  ReplayAgrees bundle ∧ DecidesByLifecycle E profile strictReport checkpointHeads bundle

theorem lifecycleAgrees_iff (h : KeptV2 bundle) :
    LifecycleAgrees E profile strictReport checkpointHeads bundle ↔ StartedFirst bundle := by
  rw [← replayAgrees_iff h]
  exact ⟨And.left, fun hagrees =>
    ⟨hagrees, hagrees.decides E profile strictReport checkpointHeads h⟩⟩

end

section

variable (E : Env) (profile : BundleResourceProfile)
  (strictReport : BundleContents → List String)
  (checkpointHeads : BundleV2Contents →
    Except LivePersistenceError (List (String × StreamCheckpointV2)))

/-- The requests a writer accepted, each with the bundle it was accepted in. A request that
was settled before changes nothing. -/
inductive RunV2 (opened : BundleV2Contents) :
    List (BundleV2Contents × WriterRequestV2) → BundleV2Contents → Prop
  | opened : RunV2 opened [] opened
  | settled {steps : List (BundleV2Contents × WriterRequestV2)} {bundle : BundleV2Contents}
      {request : WriterRequestV2} :
      RunV2 opened steps bundle →
      answerV2 E profile strictReport checkpointHeads bundle request = .ok none →
      RunV2 opened steps bundle
  | committed {steps : List (BundleV2Contents × WriterRequestV2)}
      {bundle next : BundleV2Contents} {request : WriterRequestV2} :
      RunV2 opened steps bundle →
      answerV2 E profile strictReport checkpointHeads bundle request = .ok (some next) →
      RunV2 opened (steps ++ [(bundle, request)]) next

end

/-- The request brings operator evidence to a session that waits for its start. -/
def EvidenceBeforeStart (bundle : BundleV2Contents) : WriterRequestV2 → Prop
  | .append mutation _ => bundle.sessionState.lifecycle = ready ∧
      ∃ event, .event event ∈ mutation.members ∧ event.payload.isLifecycle = false
  | .commitPlan _ => False

section

variable {E : Env} {profile : BundleResourceProfile}
  {strictReport : BundleContents → List String}
  {checkpointHeads : BundleV2Contents →
    Except LivePersistenceError (List (String × StreamCheckpointV2))}
  {opened : BundleV2Contents} {steps : List (BundleV2Contents × WriterRequestV2)}

theorem KeptV2.ne_draft (h : KeptV2 bundle) : bundle.sessionState.lifecycle ≠ draft := by
  rw [← h.lifecycle]
  exact replayV2_ne_draft bundle.events

theorem KeptV2.concat (h : KeptV2 bundle) {expectedRevision : ℕ} {event : OperatorEventV2}
    (hmanifest : next.manifest = bundle.manifest) (hevents : next.events = bundle.events ++ [event])
    (hsession : event.recordMeta.sessionId = bundle.manifest.sessionId)
    (hadmitted : AdmittedV2 bundle expectedRevision bundle.sessionState.lifecycle event
      next.sessionState.lifecycle) : KeptV2 next := by
  constructor
  · rw [hevents, reduce_lifecycle, replayV2_concat]
    exact (hadmitted.replayed h).1
  · intro record hrecord
    rw [hmanifest]
    rcases List.mem_append.1 (hevents ▸ hrecord) with hrecord | hrecord
    · exact h.sessionId record hrecord
    · rw [List.mem_singleton.1 hrecord, hsession]

theorem KeptV2.answer (h : KeptV2 bundle) {request : WriterRequestV2}
    (hanswer : answerV2 E profile strictReport checkpointHeads bundle request =
      .ok (some next)) : KeptV2 next := by
  cases request with
  | append mutation now =>
    obtain ⟨hmanifest, ⟨-, hevents, hlifecycle⟩ | ⟨event, -, hevents, hsession, hadmitted⟩⟩ :=
      planAppendV2_cases hanswer
    · refine ⟨?_, ?_⟩
      · rw [hevents, hlifecycle]
        exact h.lifecycle
      · rw [hevents, hmanifest]
        exact h.sessionId
    · exact h.concat hmanifest hevents hsession hadmitted
  | commitPlan plan =>
    obtain ⟨hstate, hevents, hmanifest, hlifecycle⟩ := commitPlanV2_cases hanswer
    have hready := hstate.resolve_left h.ne_draft
    refine ⟨?_, ?_⟩
    · rw [hevents, hlifecycle]
      exact h.lifecycle.trans hready
    · rw [hevents, hmanifest]
      exact h.sessionId

theorem evidence_payload {mutation : LiveMutationV2} {event : OperatorEventV2}
    (hevents : (eventsOf mutation.members).map (·.payload) = [event.payload]) :
    (∃ proposed, .event proposed ∈ mutation.members ∧ proposed.payload.isLifecycle = false) ↔
      event.payload.isLifecycle = false := by
  have hmem : ∀ proposed, .event proposed ∈ mutation.members ↔
      proposed ∈ eventsOf mutation.members := by
    intro proposed
    rw [eventsOf, List.mem_filterMap]
    constructor
    · exact fun hmem => ⟨_, hmem, rfl⟩
    · rintro ⟨member, hmember, hevent⟩
      cases member <;> simp_all [LiveMutationMemberV2.event?]
  simp only [hmem]
  constructor
  · rintro ⟨proposed, hproposed, hlifecycle⟩
    have hpayload := List.mem_map_of_mem (f := fun e : OperatorEventV2 => e.payload) hproposed
    rw [hevents, List.mem_singleton] at hpayload
    rw [← hpayload, hlifecycle]
  · intro hlifecycle
    have hpayload : event.payload ∈ (eventsOf mutation.members).map (·.payload) := by
      rw [hevents]
      exact List.mem_singleton_self _
    obtain ⟨proposed, hproposed, heq⟩ := List.mem_map.1 hpayload
    exact ⟨proposed, hproposed, heq ▸ hlifecycle⟩

/-- A session whose replays agree stays so unless evidence comes before its start. -/
theorem StartedFirst.answer_iff (h : KeptV2 bundle) (hstarted : StartedFirst bundle)
    {request : WriterRequestV2}
    (hanswer : answerV2 E profile strictReport checkpointHeads bundle request =
      .ok (some next)) : StartedFirst next ↔ ¬EvidenceBeforeStart bundle request := by
  cases request with
  | append mutation now =>
    obtain ⟨-, ⟨hnone, hevents, hlifecycle⟩ | ⟨event, hpayload, hevents, -, hadmitted⟩⟩ :=
      planAppendV2_cases hanswer
    · refine iff_of_true ?_ ?_
      · unfold StartedFirst at hstarted ⊢
        rwa [hevents, hlifecycle]
      · rintro ⟨-, event, hevent, -⟩
        have hmem : event ∈ eventsOf mutation.members :=
          List.mem_filterMap.2 ⟨_, hevent, rfl⟩
        simp [hnone] at hmem
    · have hdiagnostics : (reduceOperatorEventsV2 ready next.events).diagnostics = [] := by
        rw [hevents, reduce_diagnostics, replayV2_concat, (hadmitted.replayed h).2]
        rcases hstarted with hempty | ⟨hdiagnostics, -⟩
        · rw [hempty]
          rfl
        · exact hdiagnostics
      have hnext : StartedFirst next ↔ next.sessionState.lifecycle ≠ ready := by
        unfold StartedFirst
        have hne : next.events ≠ [] := by simp [hevents]
        simp only [hne, hdiagnostics, false_or, true_and]
      rw [hnext, EvidenceBeforeStart, evidence_payload hpayload]
      cases hevent : event.payload.isLifecycle with
      | true =>
        have happly := (validateLifecycleTransitionV2_eq_ok.1 (hadmitted.transition hevent)).2
        simp [applyLifecycleTransition_ne_ready happly]
      | false =>
        rw [hadmitted.evidence hevent]
        simp
  | commitPlan plan =>
    obtain ⟨hstate, hevents, -, hlifecycle⟩ := commitPlanV2_cases hanswer
    refine iff_of_true ?_ id
    unfold StartedFirst at hstarted ⊢
    rw [hstate.resolve_left h.ne_draft] at hstarted
    rw [hevents, hlifecycle]
    exact hstarted

theorem RunV2.kept (hopened : KeptV2 opened)
    (h : RunV2 E profile strictReport checkpointHeads opened steps bundle) :
    ∀ state ∈ steps.map (·.1) ++ [bundle], KeptV2 state := by
  induction h with
  | opened => simpa using hopened
  | settled _ _ ih => exact ih
  | committed _ hanswer ih =>
    have hbundle := ih _ (List.mem_append_right _ (List.mem_singleton_self _))
    rw [List.map_append, List.map_singleton, List.forall_mem_append]
    refine ⟨ih, ?_⟩
    rw [List.forall_mem_singleton]
    exact hbundle.answer hanswer

theorem RunV2.startedFirst_iff (hopened : KeptV2 opened)
    (h : RunV2 E profile strictReport checkpointHeads opened steps bundle) :
    (∀ state ∈ steps.map (·.1) ++ [bundle], StartedFirst state) ↔
      StartedFirst opened ∧ ∀ step ∈ steps, ¬EvidenceBeforeStart step.1 step.2 := by
  induction h with
  | opened => simp
  | settled _ _ ih => exact ih
  | @committed steps bundle next request hrun hanswer ih =>
    have hlast : bundle ∈ steps.map (·.1) ++ [bundle] :=
      List.mem_append_right _ (List.mem_singleton_self _)
    have hkept := RunV2.kept hopened hrun bundle hlast
    rw [List.map_append, List.map_singleton, List.forall_mem_append, ih, List.forall_mem_append,
      List.forall_mem_singleton, List.forall_mem_singleton]
    constructor
    · rintro ⟨hbefore, hnext⟩
      exact ⟨hbefore.1, hbefore.2,
        (StartedFirst.answer_iff hkept (ih.2 hbefore bundle hlast) hanswer).1 hnext⟩
    · rintro ⟨hstarted, hsteps, hrequest⟩
      exact ⟨⟨hstarted, hsteps⟩,
        (StartedFirst.answer_iff hkept (ih.2 ⟨hstarted, hsteps⟩ bundle hlast) hanswer).2 hrequest⟩

/-- In every run of the writer from a readable bundle, the lifecycle machines agree in every
state exactly when the bundle was started before any evidence and no accepted mutation brings
evidence to a session that is ready. -/
theorem lifecycleAgreement_iff {F : TextFormat} (hreadable : ReadableV2 F opened)
    (hrun : RunV2 E profile strictReport checkpointHeads opened steps bundle) :
    (∀ state ∈ steps.map (·.1) ++ [bundle],
        LifecycleAgrees E profile strictReport checkpointHeads state) ↔
      StartedFirst opened ∧ ∀ step ∈ steps, ¬EvidenceBeforeStart step.1 step.2 := by
  have hkept := RunV2.kept hreadable.kept hrun
  rw [← RunV2.startedFirst_iff hreadable.kept hrun]
  exact forall₂_congr fun state hstate =>
    lifecycleAgrees_iff E profile strictReport checkpointHeads (hkept state hstate)

end

namespace Scenario

/-- The session of the scenario under schema 2, with two planned slots. -/
def readyV2 : BundleV2Contents where
  manifest := { manifest with schemaVersion := 2 }
  sessionState := { sessionState with schemaVersion := 2 }
  station := { station with schemaVersion := 2 }
  antennas := { antennas with schemaVersion := 2 }
  schedule := ⟨2, "s1", .wholeStationAb, .dx, [abSlot "a" 1 0 "A", abSlot "b" 2 120 "B"]⟩
  events := []
  observations := []
  adapterRecords := []
  rig := []
  propagation := []
  analysis := { analysis with schemaVersion := 2 }

def eventV2 (eventId : String) (payload : OperatorEventPayloadV2) : OperatorEventV2 where
  recordMeta := ⟨2, "s1", noon 10, .fromLegacy .derived "0.1.0", ⟨eventId, 0, 1⟩, none⟩
  eventId := eventId
  occurredAt := noon 10
  timeBasis := .operatorReported
  uncertaintySeconds := none
  slotId := none
  payload := payload

def noHeads (_ : BundleV2Contents) :
    Except LivePersistenceError (List (String × StreamCheckpointV2)) := .ok []

def noteMutation : LiveMutationV2 := ⟨0, "m1", [.event (eventV2 "m1" (.noteAdded "wind"))]⟩

def start : OperatorEventV2 := eventV2 "m2" (.sessionStarted none)

/-- The writer's answer to the start of the session. -/
def startAnswer (bundle : BundleV2Contents) :
    Except LivePersistenceError (Option BundleV2Contents) :=
  planAppendV2 (env unknown) localStandardV1 (strictMessages textFormat) noHeads bundle
    ⟨bundle.sessionState.revision, "m2", [.event start]⟩ (noon 20)

theorem readyV2_readable : ReadableV2 textFormat readyV2 := ⟨[], by decide⟩

theorem exists_next_of_any {answer : Except LivePersistenceError (Option BundleV2Contents)}
    {p : BundleV2Contents → Bool} (h : (answer.toOption.bind id).any p = true) :
    ∃ next, answer = .ok (some next) ∧ p next = true := by
  obtain ⟨next, hnext, hp⟩ := (Option.any_eq_true _ _).1 h
  rcases answer with error | _ | answer
  · cases hnext
  · cases hnext
  · obtain rfl := Option.some.inj hnext
    exact ⟨answer, rfl, hp⟩

/-- After a note a ready session cannot be started, although its lifecycle allows it. -/
theorem noteBeforeStart :
    ReadableV2 textFormat readyV2 ∧ ∃ noted,
      RunV2 (env unknown) localStandardV1 (strictMessages textFormat) noHeads readyV2
        [(readyV2, .append noteMutation (noon 20))] noted ∧
      ¬ReplayAgrees noted ∧ FreshTransition noted "m2" start ∧
      applyLifecycleTransition noted.sessionState.lifecycle start.payload = .ok .running ∧
      ∀ answer, startAnswer noted ≠ .ok answer := by
  have hany : ((answerV2 (env unknown) localStandardV1 (strictMessages textFormat) noHeads readyV2
      (.append noteMutation (noon 20))).toOption.bind id).any (fun noted =>
        (reduceOperatorEventsV2 (initialLifecycle noted) noted.events).lifecycle = .draft ∧
        noted.sessionState.lifecycle = .ready ∧
        (committedMutation? noted "m2").isNone ∧ "m2" ∉ noted.members.map (·.recordId) ∧
        (startAnswer noted).toOption.isNone) = true := by
    decide
  obtain ⟨noted, hanswer, hnoted⟩ := exists_next_of_any hany
  obtain ⟨hreplay, hready, hmutation, hevent, hstart⟩ := of_decide_eq_true hnoted
  refine ⟨readyV2_readable, noted, .committed .opened hanswer, ?_, ?_, ?_, ?_⟩
  · intro hagrees
    have hlifecycle := hagrees.1
    rw [hreplay, hready] at hlifecycle
    cases hlifecycle
  · exact ⟨rfl, by decide, by decide, Option.isNone_iff_eq_none.1 hmutation, by decide,
      hevent, rfl⟩
  · rw [hready]
    rfl
  · intro answer hanswer
    rw [hanswer] at hstart
    cases hstart

/-- The session that is started without a note keeps its lifecycles together. -/
theorem started_agrees : ∃ running,
    RunV2 (env unknown) localStandardV1 (strictMessages textFormat) noHeads readyV2
      [(readyV2, .append ⟨0, "m2", [.event start]⟩ (noon 20))] running ∧
    ∀ state ∈ [readyV2, running],
      LifecycleAgrees (env unknown) localStandardV1 (strictMessages textFormat) noHeads state := by
  have hany : ((answerV2 (env unknown) localStandardV1 (strictMessages textFormat) noHeads readyV2
      (.append ⟨0, "m2", [.event start]⟩ (noon 20))).toOption.bind id).any
        (fun _ => true) = true := by
    decide
  obtain ⟨running, hanswer, -⟩ := exists_next_of_any hany
  have hrun : RunV2 (env unknown) localStandardV1 (strictMessages textFormat) noHeads readyV2
      [(readyV2, .append ⟨0, "m2", [.event start]⟩ (noon 20))] running :=
    .committed .opened hanswer
  refine ⟨running, hrun, (lifecycleAgreement_iff readyV2_readable hrun).2 ⟨.inl rfl, ?_⟩⟩
  intro step hstep
  obtain rfl := List.mem_singleton.1 hstep
  rintro ⟨-, event, hevent, hlifecycle⟩
  obtain rfl : event = start := by simpa using hevent
  cases hlifecycle

end Scenario

end AntennaBench
