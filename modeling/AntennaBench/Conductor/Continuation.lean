import AntennaBench.Conductor.ContinuedRun
import AntennaBench.Conductor.SlotEvidence

/-!
# Continued readiness

The conductor continues a readiness by its own plan, and the core checks the event by the
projection of the run and by the antenna control. The two agree, unless the operator confirmed
another antenna than the one that was intended.
-/

namespace AntennaBench

open AntennaControl

variable {E : Env} {bundle : BundleV3Contents} {now : DateTime} {mutation : LiveEventMutationV3}

theorem shape_of_reduce {events : List OperatorEventV3} {event : OperatorEventV3}
    (h : (reduceOperatorEventsV3 .ready events).diagnostics = []) (hevent : event ∈ events) :
    eventShapeErrorV3 event = none := by
  obtain ⟨before, after, rfl⟩ := List.append_of_mem hevent
  unfold reduceOperatorEventsV3 at h
  rw [reduceStateV3_append] at h
  exact (ReductionStateV3.accepted_of_foldl h).shape

theorem shape_armed {event : OperatorEventV3} {antennaLabel : String} {startsAt : DateTime}
    {readiness : Option WsprReadinessBasisV5}
    (hpayload : event.payload = .wsprCycleArmed antennaLabel startsAt readiness) :
    eventShapeErrorV3 event = none ↔ event.slotId.isSome = true ∧
      (isBlank antennaLabel || !isTrimmed antennaLabel) = false ∧
      isWsprCycleStart startsAt = true ∧ event.occurredAt ≤ startsAt := by
  unfold eventShapeErrorV3
  simp only [hpayload, OperatorEventPayloadV3.isLifecycle, Bool.false_and, Bool.false_eq_true,
    if_false, slotRequired, thenText]
  cases hslot : event.slotId with
  | none => simp
  | some slotId =>
    by_cases hlabel : (isBlank antennaLabel || !isTrimmed antennaLabel) = true
    · simp [hlabel]
    · by_cases hstart : isWsprCycleStart startsAt = true
      · by_cases hready : startsAt < event.occurredAt
        · simp [hlabel, hstart, hready]
        · simpa [hlabel, hstart, hready] using not_lt.1 hready
      · simp [hlabel, hstart]

theorem validateArmedLabel_next {E : Env} (h : validateV3Model E bundle = .ok ())
    {next : WsprCycleIntentV3} (hnext : next ∈ bundle.schedule.wsprCycleIntents)
    {event : OperatorEventV3} {startsAt : DateTime} {readiness : Option WsprReadinessBasisV5}
    (hpayload : event.payload = .wsprCycleArmed next.antennaLabel startsAt readiness) :
    validateArmedLabel (bundle.antennas.antennas.map (·.label)) event = .ok () := by
  unfold validateV3Model at h
  simp only [bind_eq_ok] at h
  obtain ⟨_, _, _, _, _, _, _, hschedule, -⟩ := h
  unfold validateSchedule at hschedule
  simp only [bind_eq_ok] at hschedule
  obtain ⟨_, -, scan, hfold, -⟩ := hschedule
  obtain ⟨before, after, hintent⟩ := foldlM_mem hfold hnext
  simp only [validateIntent, bind_eq_ok, failIf_eq_ok] at hintent
  obtain ⟨_, -, _, -, _, -, _, hlabel, -⟩ := hintent
  unfold validateArmedLabel
  rw [hpayload]
  exact failIf_eq_ok.2 hlabel

theorem eventStream_of_valid {E : Env} (h : validateV3Model E bundle = .ok ()) :
    validateEventStream bundle = .ok () := by
  unfold validateV3Model at h
  simp only [bind_eq_ok] at h
  obtain ⟨_, _, _, _, _, _, _, _, _, hstream, -⟩ := h
  exact hstream

/-- One more armed event passes if the run with it projects and reduces. -/
theorem AppendsEvent.eventStream {candidate : BundleV3Contents} {added : OperatorEventV3}
    (h : AppendsEvent bundle candidate added) (hbundle : validateEventStream bundle = .ok ())
    (harmed : added.isArmed = true)
    (hprojects : (projectWsprRunV3 bundle.schedule (bundle.events ++ [added])).diagnostics = [])
    (hreduces : (reduceOperatorEventsV3 .ready (bundle.events ++ [added])).diagnostics = [])
    (hlifecycle : candidate.sessionState.lifecycle =
      (reduceOperatorEventsV3 .ready (bundle.events ++ [added])).lifecycle)
    (hlabel : validateArmedLabel (bundle.antennas.antennas.map (·.label)) added = .ok ())
    (hidentity : added.recordMeta.foreign bundle = false) :
    validateEventStream candidate = .ok () := by
  have hrecord : validateRecordIdentity candidate = validateRecordIdentity bundle := by
    funext name recordMeta
    simp only [validateRecordIdentity, RecordMetaV2.foreign, h.manifest]
  have hsignal : validateSignalStateEventV3 bundle.schedule added = [] := by
    unfold OperatorEventV3.isArmed at harmed
    unfold validateSignalStateEventV3
    cases hpayload : added.payload with
    | signalStateConfirmed confirmation =>
      rw [hpayload] at harmed
      cases harmed
    | _ => rfl
  unfold validateEventStream at hbundle ⊢
  simp only [h.schedule, h.antennas, h.events, hprojects, hreduces, hlifecycle, hrecord,
    effectiveEvents_armed .ready harmed]
  cases hrun : (projectWsprRunV3 bundle.schedule bundle.events).diagnostics with
  | cons diagnostic rest => simp [hrun] at hbundle
  | nil =>
    cases hreduction : (reduceOperatorEventsV3 .ready bundle.events).diagnostics with
    | cons diagnostic rest =>
      simp only [hrun, hreduction, ok_bind, error_bind, bind_eq_ok, reduceCtorEq, and_false,
        exists_false] at hbundle
    | nil =>
      simp only [hrun, hreduction, ok_bind, bind_eq_ok, forM_eq_ok] at hbundle ⊢
      obtain ⟨_, hlabels, _, -, _, hsignals, hidentities⟩ := hbundle
      refine ⟨(), ?_, (), ?_, (), hsignals, ?_⟩
      · intro event hevent
        rcases List.mem_append.1 hevent with hold | hnew
        · exact hlabels event hold
        · rw [List.mem_singleton.1 hnew]
          exact hlabel
      · simp
      · intro event hevent
        rcases List.mem_append.1 hevent with hold | hnew
        · exact hidentities event hold
        · rw [List.mem_singleton.1 hnew, hsignal]
          refine ⟨(), ?_, rfl⟩
          rw [validateRecordIdentity, hidentity]
          rfl

/-- The candidate `append_event` validates: the event joins with its envelope. -/
def LiveEventMutationV3.candidate (mutation : LiveEventMutationV3) (bundle : BundleV3Contents)
    (actor : PreparedRuntimeActor) (recordedAt : DateTime) : BundleV3Contents :=
  { actor.apply bundle with events := (actor.apply bundle).events ++ [{ mutation.event with
      recordMeta := actor.envelope bundle mutation.mutationId recordedAt 0
        mutation.event.recordMeta }] }

/-- The candidate passes what `validate_v3_model` asks of the events. -/
def LiveEventMutationV3.AcceptedAs (mutation : LiveEventMutationV3) (E : Env)
    (bundle : BundleV3Contents) (actor : PreparedRuntimeActor) (recordedAt : DateTime)
    (candidate : BundleV3Contents) : Prop :=
  reduceCandidate (mutation.candidate bundle actor recordedAt) = .ok candidate ∧
    validateEventStream candidate = .ok () ∧
    validateAntennaControlV5 E.base64Length candidate = .ok ()

/-- An event the writer commits was accepted, as the candidate it sealed. -/
theorem acceptedAs_of_planEvent {E : Env} {profile : BundleResourceProfile}
    {session : LiveSessionV3} {now : DateTime} {plan : CommitPlan} {receipt : CommitReceiptV2}
    (h : planEvent E profile session mutation now = .ok (.commit plan receipt)) :
    ∃ actor candidate, session.prepareRuntimeActor mutation.mutationId 1 now = .ok actor ∧
      mutation.AcceptedAs E session.bundle actor now candidate ∧
      sealCandidate E session.bundle candidate mutation.mutationId = .ok plan.candidate := by
  obtain ⟨actor, candidate, hcommitted⟩ := planEvent_eq_commit h
  obtain ⟨-, hmodel, -, hstate⟩ := sealCandidate_eq_ok hcommitted.sealed
  rw [hstate] at hmodel
  have hstream := eventStream_of_valid hmodel
  have hcontrol := (runAccepted_of_valid hmodel).control
  exact ⟨actor, candidate, hcommitted.prepared, ⟨hcommitted.reduced, hstream, hcontrol⟩,
    hcommitted.sealed⟩

/-- The antenna that is occupied is the one the next intention asks for. -/
def OccupiesIntended (bundle : BundleV3Contents) : Prop :=
  (projectWsprRunV3 bundle.schedule bundle.events).occupancies.getLast?.map (·.antennaLabel) =
    (nextIntent bundle).map (·.antennaLabel)

theorem reduceCandidate_appends {actor : PreparedRuntimeActor} {recordedAt : DateTime}
    {candidate : BundleV3Contents}
    (h : reduceCandidate (mutation.candidate bundle actor recordedAt) = .ok candidate) :
    AppendsEvent bundle candidate { mutation.event with
      recordMeta := actor.envelope bundle mutation.mutationId recordedAt 0
        mutation.event.recordMeta } ∧
    (reduceOperatorEventsV3 .ready candidate.events).diagnostics = [] ∧
    candidate.sessionState.lifecycle =
      (reduceOperatorEventsV3 .ready candidate.events).lifecycle := by
  unfold reduceCandidate at h
  dsimp only at h
  cases hdiagnostics : (reduceOperatorEventsV3 .ready
      (mutation.candidate bundle actor recordedAt).events).diagnostics with
  | cons diagnostic rest =>
    rw [hdiagnostics] at h
    cases h
  | nil =>
    rw [hdiagnostics] at h
    obtain rfl := Except.ok.inj h
    exact ⟨⟨rfl, rfl, rfl, rfl, rfl, rfl⟩, hdiagnostics, rfl⟩

theorem projects_of_stream (h : validateEventStream bundle = .ok ()) :
    (projectWsprRunV3 bundle.schedule bundle.events).diagnostics = [] := by
  unfold validateEventStream at h
  cases hrun : (projectWsprRunV3 bundle.schedule bundle.events).diagnostics with
  | nil => rfl
  | cons diagnostic rest => simp [hrun] at h

theorem lifecycle_of_stream (h : validateEventStream bundle = .ok ()) :
    (reduceOperatorEventsV3 .ready bundle.events).lifecycle = bundle.sessionState.lifecycle := by
  unfold validateEventStream at h
  cases hrun : (projectWsprRunV3 bundle.schedule bundle.events).diagnostics with
  | cons diagnostic rest => simp [hrun] at h
  | nil =>
    cases hreduction : (reduceOperatorEventsV3 .ready bundle.events).diagnostics with
    | cons diagnostic rest =>
      simp only [hrun, hreduction, ok_bind, error_bind, bind_eq_ok, reduceCtorEq, and_false,
        exists_false] at h
    | nil =>
      simp only [hrun, hreduction, ok_bind, bind_eq_ok, failIf_eq_ok, bne_eq_false_iff_eq] at h
      obtain ⟨_, -, _, hlifecycle, -⟩ := h
      exact hlifecycle

/-- The cycle that a continued readiness adds to the run. -/
structure ContinuesCycle (bundle candidate : BundleV3Contents) (now : DateTime)
    (previous cycle : ArmedWsprCycleV3) : Prop where
  last : (projectWsprRunV3 bundle.schedule bundle.events).cycles.getLast? = some previous
  cycles : (projectWsprRunV3 candidate.schedule candidate.events).cycles =
    (projectWsprRunV3 bundle.schedule bundle.events).cycles ++ [cycle]
  occupancies : (projectWsprRunV3 candidate.schedule candidate.events).occupancies =
    (projectWsprRunV3 bundle.schedule bundle.events).occupancies
  skipped : (projectWsprRunV3 candidate.schedule candidate.events).skippedIntentIds =
    (projectWsprRunV3 bundle.schedule bundle.events).skippedIntentIds
  pending : (nextIntent bundle).map (·.intentId) = some cycle.intentId
  once : cycle.intentId ∉
    (projectWsprRunV3 bundle.schedule bundle.events).cycles.map (·.intentId)
  readyEventId : cycle.readyEventId = previous.readyEventId
  antennaLabel : cycle.antennaLabel = previous.antennaLabel
  setup : ∃ before after, bundle.schedule.findIntent? previous.intentId = some before ∧
    bundle.schedule.findIntent? cycle.intentId = some after ∧ before.SameSetup after
  ended : previous.window.transmissionEndsAt ≤ now
  later : now < cycle.window.startsAt
  covered : cycle.occupancyFullyCoversTransmission = true

namespace ContinuesAt

variable {occupancy : AntennaOccupancyIntervalV3} {previousCycle : ArmedWsprCycleV3}
  {previous next : WsprCycleIntentV3} {window : WsprCycleWindow}

theorem occupiesIntended_iff
    (hat : ContinuesAt bundle now mutation occupancy previousCycle previous next window) :
    OccupiesIntended bundle ↔ occupancy.antennaLabel = next.antennaLabel := by
  unfold OccupiesIntended
  rw [hat.lastOccupancy, hat.pending]
  simp

/-- What the stored event says. -/
theorem stored (hat : ContinuesAt bundle now mutation occupancy previousCycle previous next window)
    (recordMeta : RecordMetaV2) :
    ({ mutation.event with recordMeta } : OperatorEventV3).payload =
        .wsprCycleArmed next.antennaLabel window.startsAt
          (some (.continued occupancy.readyEventId)) ∧
      ({ mutation.event with recordMeta } : OperatorEventV3).slotId = some next.intentId ∧
      ({ mutation.event with recordMeta } : OperatorEventV3).occurredAt = now := by
  obtain ⟨identity, hevent⟩ := hat.event
  rw [hevent]
  exact ⟨rfl, rfl, rfl⟩

theorem shape_stored (h : RunAccepted E bundle)
    (hat : ContinuesAt bundle now mutation occupancy previousCycle previous next window)
    (hlabel : occupancy.antennaLabel = next.antennaLabel) (recordMeta : RecordMetaV2) :
    eventShapeErrorV3 { mutation.event with recordMeta } = none := by
  obtain ⟨hpayload, hslot, hoccurred⟩ := hat.stored recordMeta
  obtain ⟨source, armed, hbehind⟩ := hat.behind h
  obtain ⟨startsAt, readiness, hsource⟩ := hbehind.opens.payload
  obtain ⟨-, htext, -⟩ := (shape_armed hsource).1 (shape_of_reduce h.reduces hbehind.mem_source)
  obtain ⟨haligned, hafter⟩ := nextWsprCycleAfterReady?_window hat.chosen
  rw [shape_armed hpayload]
  refine ⟨?_, hlabel ▸ htext, (WsprCycleWindow.fromStart?_eq_some haligned).1, ?_⟩
  · rw [hslot]
    rfl
  · rw [hoccurred]
    exact le_of_lt hafter

theorem accepted_of_fresh (hvalid : validateV3Model E bundle = .ok ())
    (hat : ContinuesAt bundle now mutation occupancy previousCycle previous next window)
    (hfresh : mutation.event.eventId ∉ bundle.events.map (·.eventId))
    (hlabel : occupancy.antennaLabel = next.antennaLabel) (actor : PreparedRuntimeActor)
    (recordedAt : DateTime) :
    ∃ candidate, mutation.AcceptedAs E bundle actor recordedAt candidate := by
  have h := runAccepted_of_valid hvalid
  have hstream := eventStream_of_valid hvalid
  have hshape := hat.shape_stored h hlabel (actor.envelope bundle mutation.mutationId recordedAt 0
    mutation.event.recordMeta)
  obtain ⟨hpayload, hslot, hoccurred⟩ := hat.stored (actor.envelope bundle mutation.mutationId
    recordedAt 0 mutation.event.recordMeta)
  generalize hadded : ({ mutation.event with
    recordMeta := actor.envelope bundle mutation.mutationId recordedAt 0
      mutation.event.recordMeta } : OperatorEventV3) = added at hshape hpayload hslot hoccurred
  have harmed : added.isArmed = true := ProjectionState.isArmed_of_payload hpayload
  have hidentity : added.recordMeta.foreign bundle = false := by
    rw [← hadded]
    simp [RecordMetaV2.foreign, PreparedRuntimeActor.envelope]
  have hid : added.eventId = mutation.event.eventId := by rw [← hadded]
  have hprojects := (projects_iff hpayload h hat hslot hoccurred).2 hlabel
  obtain ⟨hreduces, hrunning⟩ := reduce_armed h.reduces harmed (hid ▸ hfresh) hshape
    ((lifecycle_of_stream hstream).trans hat.running)
  obtain ⟨candidate, hcandidate⟩ : ∃ candidate,
      reduceCandidate (mutation.candidate bundle actor recordedAt) = .ok candidate := by
    have hevents : (mutation.candidate bundle actor recordedAt).events =
        bundle.events ++ [added] := by
      rw [← hadded]
      rfl
    unfold reduceCandidate
    dsimp only
    rw [hevents, hreduces]
    exact ⟨_, rfl⟩
  obtain ⟨happends, hclean, hlifecycle⟩ := reduceCandidate_appends hcandidate
  rw [hadded] at happends
  have hnodup := (committed_of_reduce hclean).nodup
  rw [happends.events] at hlifecycle
  refine ⟨candidate, hcandidate, ?_, ?_⟩
  · apply happends.eventStream hstream harmed hprojects hreduces hlifecycle _ hidentity
    apply validateArmedLabel_next hvalid _ hpayload
    exact List.mem_of_find?_eq_some hat.pending
  · rw [happends.antennaControl_iff hnodup hat.schema h.control hpayload]
    obtain ⟨source, armed, hbehind⟩ := hat.behind h
    have hholds := hat.holdsReadiness h hbehind hslot hoccurred (hat.known_next h)
    rw [hlabel, ← happends.schedule] at hholds
    rw [← hbehind.opens.eventId]
    exact ok_of_holdsReadiness happends.events hnodup (happends.manifest ▸ hat.schema) hholds

/-- An accepted candidate has one cycle more, under the readiness that is open. -/
theorem continuesCycle (hvalid : validateV3Model E bundle = .ok ())
    (hat : ContinuesAt bundle now mutation occupancy previousCycle previous next window)
    {actor : PreparedRuntimeActor} {recordedAt : DateTime} {candidate : BundleV3Contents}
    (haccepted : mutation.AcceptedAs E bundle actor recordedAt candidate) :
    mutation.event.eventId ∉ bundle.events.map (·.eventId) ∧
      occupancy.antennaLabel = next.antennaLabel ∧
      ∃ cycle, ContinuesCycle bundle candidate now previousCycle cycle := by
  have h := runAccepted_of_valid hvalid
  obtain ⟨hreduced, hstream, -⟩ := haccepted
  obtain ⟨happends, hclean, -⟩ := reduceCandidate_appends hreduced
  obtain ⟨hpayload, hslot, hoccurred⟩ := hat.stored (actor.envelope bundle mutation.mutationId
    recordedAt 0 mutation.event.recordMeta)
  have hid : ({ mutation.event with
      recordMeta := actor.envelope bundle mutation.mutationId recordedAt 0
        mutation.event.recordMeta } : OperatorEventV3).eventId = mutation.event.eventId := rfl
  generalize ({ mutation.event with
    recordMeta := actor.envelope bundle mutation.mutationId recordedAt 0
      mutation.event.recordMeta } : OperatorEventV3) = added
    at happends hpayload hslot hoccurred hid
  have hprojects := projects_of_stream hstream
  rw [happends.schedule, happends.events] at hprojects
  have hlabel := (projects_iff hpayload h hat hslot hoccurred).1 hprojects
  have hnodup := (committed_of_reduce hclean).nodup
  rw [happends.events, List.map_append, List.map_singleton, hid, List.nodup_append] at hnodup
  refine ⟨?_, hlabel, ?_⟩
  · intro hmem
    exact hnodup.2.2 _ hmem _ List.mem_cons_self rfl
  obtain ⟨source, armed, hbehind⟩ := hat.behind h
  obtain ⟨sourceStart, basis, sourceWindow, -, hsourceWindow, hopened, hends⟩ :=
    hbehind.source_window h
  have harms := hat.armsCleanly h hslot hoccurred
  have hnext := projectedState_continues hpayload h hat hslot hoccurred hlabel
  have harmed : added.isArmed = true := ProjectionState.isArmed_of_payload hpayload
  have hlater := (nextWsprCycleAfterReady?_window hat.chosen).2
  have hintervals : (projectWsprRunV3 bundle.schedule (bundle.events ++ [added])).occupancies =
      (projectWsprRunV3 bundle.schedule bundle.events).occupancies := by
    rw [projectWsprRunV3_intervals, projectWsprRunV3_intervals, hnext]
  refine ⟨(ProjectionState.armedCycle (projectedState bundle.schedule bundle.events) added
    next.antennaLabel occupancy.readyEventId next window).covered
      (projectWsprRunV3 bundle.schedule bundle.events).occupancies, ?_⟩
  constructor
  · exact hat.lastCycle
  · rw [happends.schedule, happends.events, projectWsprRunV3_cycles, projectWsprRunV3_cycles,
      hintervals, hnext, List.map_append]
    rfl
  · rw [happends.schedule, happends.events]
    exact hintervals
  · rw [happends.schedule, happends.events]
    unfold projectWsprRunV3
    simp only [skippedIntents_armed harmed]
  · rw [hat.pending]
    rfl
  · have hunseen := harms.unseen
    rw [h.tracks.seen, List.mem_reverse] at hunseen
    rw [projectWsprRunV3_cycles, List.map_map]
    exact hunseen
  · exact (hbehind.armedAs.ready.trans hbehind.readyId).symm
  · exact (hbehind.antennaLabel.trans hlabel).symm
  · exact ⟨previous, next, hat.known, hat.known_next h, hat.setup⟩
  · exact hat.due
  · exact hlater
  · have hstarts : occupancy.startsAt ≤ window.startsAt := by
      rw [← hbehind.opens.occurredAt]
      exact hopened.trans ((endsAt_of_window hsourceWindow).trans
        (hends.trans (hat.due.trans (le_of_lt hlater))))
    change occupancyCovers _ _ = true
    unfold occupancyCovers
    rw [List.any_eq_true]
    refine ⟨occupancy, List.mem_of_getLast? hat.lastOccupancy, ?_⟩
    simp [ProjectionState.armedCycle, hlabel, hstarts, hat.stillOpen]

end ContinuesAt

/-- A readiness that the conductor continues is accepted exactly if its event is new and the
occupied antenna is the intended one, and it adds one cycle to the run: the next intention, of
the setup of the last cycle and under its readiness, after its transmission. -/
theorem continuation_accepted (hvalid : validateV3Model E bundle = .ok ())
    (hdecision : continuationDecision E.sha256Hex bundle now = .ok (.append mutation))
    (actor : PreparedRuntimeActor) (recordedAt : DateTime) :
    ((∃ candidate, mutation.AcceptedAs E bundle actor recordedAt candidate) ↔
      mutation.event.eventId ∉ bundle.events.map (·.eventId) ∧ OccupiesIntended bundle) ∧
    ∀ candidate, mutation.AcceptedAs E bundle actor recordedAt candidate →
      ∃ previous cycle, ContinuesCycle bundle candidate now previous cycle := by
  obtain ⟨occupancy, previousCycle, previous, next, window, hat⟩ :=
    continuesAt_of_decision hdecision
  rw [hat.occupiesIntended_iff]
  constructor
  · constructor
    · rintro ⟨candidate, haccepted⟩
      obtain ⟨hfresh, hlabel, -⟩ := hat.continuesCycle hvalid haccepted
      exact ⟨hfresh, hlabel⟩
    · rintro ⟨hfresh, hlabel⟩
      exact hat.accepted_of_fresh hvalid hfresh hlabel actor recordedAt
  · intro candidate haccepted
    obtain ⟨-, -, cycle, hcycle⟩ := hat.continuesCycle hvalid haccepted
    exact ⟨previousCycle, cycle, hcycle⟩

/-- The mutation a decision appends, if it does. -/
def ContinuationDecision.mutation? : ContinuationDecision → Option LiveEventMutationV3
  | .append mutation => some mutation
  | _ => none

theorem ContinuationDecision.eq_append {decision : ContinuationDecision}
    {mutation : LiveEventMutationV3} (h : decision.mutation? = some mutation) :
    decision = .append mutation := by
  cases decision with
  | append other =>
    cases h
    rfl
  | _ => cases h

namespace Scenario

/-- Two cycles of one setup, the first of them armed. -/
def continuedBundle : BundleV3Contents :=
  running [cycleIntent "c1" 1 "A", cycleIntent "c2" 2 "A"]
    [startedEvent, armedEvent "e1" "c1" "A" 121]

set_option maxRecDepth 20000 in
theorem continuedBundle_valid : validateV3Model (env unknown) continuedBundle = .ok () := by
  have hany : (validateV3Model (env unknown) continuedBundle).toOption.any
      (fun _ => true) = true := by
    decide
  obtain ⟨_, hok, -⟩ := exists_ok_of_any hany
  exact hok

set_option maxRecDepth 20000 in
theorem continuedBundle_continues :
    ∃ mutation candidate previous cycle,
      continuationDecision (env unknown).sha256Hex continuedBundle (noon 240) =
        .ok (.append mutation) ∧
      mutation.AcceptedAs (env unknown) continuedBundle ⟨none, none, 0, 1⟩ (noon 240) candidate ∧
      ContinuesCycle continuedBundle candidate (noon 240) previous cycle := by
  have hany : (continuationDecision (env unknown).sha256Hex continuedBundle
      (noon 240)).toOption.any (fun decision => decision.mutation?.any fun mutation =>
        decide (mutation.event.eventId ∉ continuedBundle.events.map (·.eventId))) = true := by
    decide
  obtain ⟨decision, hdecision, hmutation⟩ := exists_ok_of_any hany
  obtain ⟨mutation, happends, hfresh⟩ := (Option.any_eq_true _ _).1 hmutation
  rw [ContinuationDecision.eq_append happends] at hdecision
  have hoccupies : OccupiesIntended continuedBundle := by
    unfold OccupiesIntended
    decide
  obtain ⟨haccepts, hcycle⟩ := continuation_accepted continuedBundle_valid hdecision
    ⟨none, none, 0, 1⟩ (noon 240)
  obtain ⟨candidate, hcandidate⟩ := haccepts.2 ⟨of_decide_eq_true hfresh, hoccupies⟩
  obtain ⟨previous, cycle, hcontinues⟩ := hcycle candidate hcandidate
  exact ⟨mutation, candidate, previous, cycle, hdecision, hcandidate, hcontinues⟩
end Scenario

end AntennaBench
