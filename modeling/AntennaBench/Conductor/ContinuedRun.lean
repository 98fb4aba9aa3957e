import AntennaBench.Analysis.OperatorFacts
import AntennaBench.Conductor.NextCycle
import AntennaBench.Conductor.Transition
import AntennaBench.Core.ContinuedReadiness
import AntennaBench.Storage.PlanV3

/-!
# The run of a continued readiness

What the projection of the run makes of an event that continues a readiness: it is armed
without a diagnostic, and its occupancy is the one the conductor found.
-/

namespace AntennaBench

open AntennaControl

variable {E : Env} {bundle : BundleV3Contents} {now : DateTime} {mutation : LiveEventMutationV3}

/-- What the conductor has found when it continues a readiness. -/
structure ContinuesAt (bundle : BundleV3Contents) (now : DateTime) (mutation : LiveEventMutationV3)
    (occupancy : AntennaOccupancyIntervalV3) (previousCycle : ArmedWsprCycleV3)
    (previous next : WsprCycleIntentV3) (window : WsprCycleWindow) : Prop where
  schema : schemaVersionV6 ≤ bundle.manifest.schemaVersion
  running : bundle.sessionState.lifecycle = .running
  pending : nextIntent bundle = some next
  lastOccupancy : (projectWsprRunV3 bundle.schedule bundle.events).occupancies.getLast? =
    some occupancy
  stillOpen : occupancy.endsAt = none
  lastCycle : (projectWsprRunV3 bundle.schedule bundle.events).cycles.getLast? =
    some previousCycle
  known : bundle.schedule.findIntent? previousCycle.intentId = some previous
  setup : previous.SameSetup next
  due : previousCycle.window.transmissionEndsAt ≤ now
  chosen : nextWsprCycleAfterReady? now DateTime.nanosPerSecond = some window
  event : ∃ identity, mutation.event =
    continuationEvent bundle identity occupancy.readyEventId next window now

theorem unchanged_eq {α : Type} [DecidableEq α] {previous next : α} :
    unchanged previous next = .noChangeNeeded ↔ previous = next := by
  unfold unchanged
  split_ifs with h
  · simp [h]
  · simp [h]

theorem antennaDisposition_eq {previous next : WsprCycleIntentV3} :
    antennaDisposition bundle previous next = .noChangeNeeded ↔
      previous.antennaLabel = next.antennaLabel := by
  unfold antennaDisposition
  split_ifs with h
  · simp [h]
  · simp [h]
  · simp [h]
  · simp [h]
  · simp [h]

/-- A plan that continues was made under an open occupancy for an unchanged setup. -/
theorem transitionPlan_continues {next : Option WsprCycleIntentV3}
    (h : (transitionPlan bundle next).canContinue = true) :
    ∃ intent occupancy previousCycle previous, next = some intent ∧
      (projectWsprRunV3 bundle.schedule bundle.events).occupancies.getLast? = some occupancy ∧
      occupancy.endsAt = none ∧
      (projectWsprRunV3 bundle.schedule bundle.events).cycles.getLast? = some previousCycle ∧
      bundle.schedule.findIntent? previousCycle.intentId = some previous ∧
      previous.SameSetup intent ∧
      (transitionPlan bundle next).sourceReadyEventId = some occupancy.readyEventId ∧
      (transitionPlan bundle next).priorTransmissionEndsAt =
        some previousCycle.window.transmissionEndsAt := by
  cases next with
  | none => cases h
  | some intent =>
    unfold transitionPlan at h ⊢
    dsimp only at h ⊢
    cases hoccupancy : (projectWsprRunV3 bundle.schedule
        bundle.events).occupancies.getLast?.filter (·.endsAt.isNone) with
    | none =>
      rw [hoccupancy] at h
      cases h
    | some occupancy =>
      rw [hoccupancy] at h
      dsimp only at h ⊢
      obtain ⟨hlast, hopen⟩ := Option.filter_eq_some_iff.1 hoccupancy
      cases hcycle : (projectWsprRunV3 bundle.schedule bundle.events).cycles.getLast?.filter
          fun cycle => cycle.readyEventId == occupancy.readyEventId &&
            cycle.antennaLabel == occupancy.antennaLabel with
      | none =>
        rw [hcycle] at h
        cases h
      | some previousCycle =>
        rw [hcycle] at h
        dsimp only at h ⊢
        have hcycleLast := (Option.filter_eq_some_iff.1 hcycle).1
        cases hprevious : bundle.schedule.findIntent? previousCycle.intentId with
        | none =>
          rw [hprevious] at h
          cases h
        | some previous =>
          rw [hprevious] at h
          dsimp only at h ⊢
          refine ⟨intent, occupancy, previousCycle, previous, rfl, hlast, by simpa using hopen,
            hcycleLast, hprevious, ?_, rfl, rfl⟩
          unfold TransitionPlan.canContinue transitionBetween at h
          simp only [List.all_cons, List.all_nil, Bool.and_eq_true, decide_eq_true_eq,
            antennaDisposition_eq, unchanged_eq] at h
          obtain ⟨⟨⟨⟨hantenna, hdirection, hband, hsignal, -⟩, -⟩, -⟩, -⟩ := h
          exact ⟨hantenna, hdirection, hband, hsignal⟩

theorem continuesAt_of_decision
    (h : continuationDecision E.sha256Hex bundle now = .ok (.append mutation)) :
    ∃ occupancy previousCycle previous next window,
      ContinuesAt bundle now mutation occupancy previousCycle previous next window := by
  unfold continuationDecision at h
  split at h
  · cases h
  rename_i hrunning
  obtain ⟨hschema, hlifecycle⟩ := not_or.1 hrunning
  dsimp only at h
  split at h
  · rename_i deadline next source hcontinue hdeadline hnext hsource
    obtain ⟨intent, occupancy, previousCycle, previous, hintent, hoccupancy, hopen, hcycle,
      hprevious, hsetup, hready, hends⟩ := transitionPlan_continues hcontinue
    obtain rfl : next = intent := Option.some.inj (hnext.symm.trans hintent)
    obtain rfl : source = occupancy.readyEventId := Option.some.inj (hsource.symm.trans hready)
    obtain rfl : deadline = previousCycle.window.transmissionEndsAt :=
      Option.some.inj (hdeadline.symm.trans hends)
    split at h
    · cases h
    rename_i hdue
    simp only [bind_eq_ok, orError_eq_ok] at h
    obtain ⟨window, hwindow, h⟩ := h
    cases h
    refine ⟨occupancy, previousCycle, previous, next, window, ?_⟩
    constructor
    · exact not_lt.1 hschema
    · simpa using hlifecycle
    · exact hnext
    · exact hoccupancy
    · exact hopen
    · exact hcycle
    · exact hprevious
    · exact hsetup
    · exact not_lt.1 hdue
    · exact hwindow
    · exact ⟨_, rfl⟩
  · cases h

section

variable {schedule : ScheduleV3} {events : List OperatorEventV3}

/-- The last occupancy is the open one if nothing has ended it. -/
theorem openOccupancy_of_last (h : (projectWsprRunV3 schedule events).diagnostics = [])
    {occupancy : AntennaOccupancyIntervalV3}
    (hlast : (projectWsprRunV3 schedule events).occupancies.getLast? = some occupancy)
    (hopen : occupancy.endsAt = none) :
    (projectedState schedule events).openOccupancy = some occupancy := by
  rw [projectWsprRunV3_intervals] at hlast
  cases hstate : (projectedState schedule events).openOccupancy with
  | some other =>
    rw [hstate, Option.toList_some, List.getLast?_concat] at hlast
    exact hlast
  | none =>
    rw [hstate, Option.toList_none, List.append_nil] at hlast
    have hclosed := (projectedState_tracks h).closed occupancy (List.mem_of_getLast? hlast)
    rw [hopen] at hclosed
    cases hclosed

theorem find?_agree {α : Type} {p q : α → Bool} {items : List α} (h : ∀ a ∈ items, p a = q a) :
    items.find? p = items.find? q := by
  induction items with
  | nil => rfl
  | cons a items ih =>
    rw [List.forall_mem_cons] at h
    rw [List.find?_cons, List.find?_cons, h.1, ih h.2]

end

/-- The intention the conductor takes is the one whose turn it is. -/
theorem nextIntent_eq (h : (projectWsprRunV3 bundle.schedule bundle.events).diagnostics = []) :
    nextIntent bundle = ProjectionState.expected? bundle.schedule
      (skippedIntents bundle.schedule bundle.events)
      (projectedState bundle.schedule bundle.events) := by
  unfold nextIntent ProjectionState.expected?
  apply find?_agree
  intro intent hintent
  have hseen : (projectWsprRunV3 bundle.schedule bundle.events).cycles.any
        (·.intentId == intent.intentId) =
      (projectedState bundle.schedule bundle.events).seenIntents.contains intent.intentId := by
    rw [(projectedState_tracks h).seen, projectWsprRunV3_cycles, List.any_map,
      Bool.eq_iff_iff, List.any_eq_true, List.contains_iff_mem, List.mem_reverse, List.mem_map]
    simp [ArmedWsprCycleV3.covered]
  rw [hseen, skippedIntentIds_contains hintent]

/-- The first intention that passes a test of its identity is the one found by its identity. -/
theorem findIntent?_of_find? {schedule : ScheduleV3} {p : String → Bool}
    {intent : WsprCycleIntentV3}
    (h : schedule.wsprCycleIntents.find? (fun intent => p intent.intentId) = some intent) :
    schedule.findIntent? intent.intentId = some intent := by
  obtain ⟨hp, before, after, hintents, hbefore⟩ := List.find?_eq_some_iff_append.1 h
  apply List.find?_eq_some_iff_append.2
  refine ⟨beq_self_eq_true _, before, after, hintents, ?_⟩
  intro other hother
  have hnot := hbefore other hother
  rw [Bool.not_eq_true', beq_eq_false_iff_ne]
  intro heq
  rw [heq, hp] at hnot
  cases hnot

/-- A second of lead makes up for the part below a millisecond. -/
theorem lt_chosenStart (n : ℤ) : n < chosenStart (n + 1000000000) := by
  have hbounds := sinceCycleStart_bounds (n + 1000000000)
  have hcases := chosenStart_cases (n + 1000000000)
  omega

theorem nextWsprCycleAfterReady?_window {window : WsprCycleWindow}
    (h : nextWsprCycleAfterReady? now DateTime.nanosPerSecond = some window) :
    WsprCycleWindow.fromStart? window.startsAt = some window ∧ now < window.startsAt := by
  unfold nextWsprCycleAfterReady? at h
  simp only [Option.bind_eq_bind, Option.bind_eq_some_iff] at h
  obtain ⟨-, -, readyAt, hready, hnext⟩ := h
  obtain ⟨-, -, rfl⟩ := DateTime.checkedAdd_eq_some.1 hready
  have hstart := nextWsprCycleAtOrAfter?_startsAt hnext
  rw [nextWsprCycleAtOrAfter?_eq] at hnext
  split_ifs at hnext
  rw [← hstart] at hnext
  refine ⟨hnext, ?_⟩
  rw [hstart]
  exact lt_chosenStart now

/-- What a bundle has passed that the reader or the writer has accepted. -/
structure RunAccepted (E : Env) (bundle : BundleV3Contents) : Prop where
  projects : (projectWsprRunV3 bundle.schedule bundle.events).diagnostics = []
  reduces : (reduceOperatorEventsV3 .ready bundle.events).diagnostics = []
  control : validateAntennaControlV5 E.base64Length bundle = .ok ()

theorem runAccepted_of_valid (h : validateV3Model E bundle = .ok ()) : RunAccepted E bundle := by
  refine ⟨validateV3Model_runs h, validateV3Model_reduces h, ?_⟩
  unfold validateV3Model at h
  simp only [bind_eq_ok, mapError_eq_ok] at h
  obtain ⟨_, _, _, _, _, _, _, _, _, _, _, _, _, _, _, _, _, _, hcontrol⟩ := h
  exact hcontrol

namespace RunAccepted

variable {event other : OperatorEventV3}

theorem nodup (h : RunAccepted E bundle) : (bundle.events.map (·.eventId)).Nodup :=
  (committed_of_reduce h.reduces).nodup

theorem tracks (h : RunAccepted E bundle) : ProjectionState.Tracks bundle.schedule bundle.events
    (projectedState bundle.schedule bundle.events) :=
  projectedState_tracks h.projects

theorem eq_of_eventId (h : RunAccepted E bundle) (hevent : event ∈ bundle.events)
    (hother : other ∈ bundle.events) (hid : event.eventId = other.eventId) : event = other :=
  List.inj_on_of_nodup_map h.nodup hevent hother hid

/-- The readiness that a continued event refers to. -/
theorem source_of_continued (h : RunAccepted E bundle) {prior later : List OperatorEventV3}
    (hevents : bundle.events = prior ++ event :: later) {sourceId : String}
    (hcontinued : event.continuedSource? = some sourceId) :
    ∃ source antennaLabel, source.eventId = sourceId ∧ source ∈ prior ∧
      HoldsReadiness bundle.schedule prior source event antennaLabel := by
  unfold OperatorEventV3.continuedSource? at hcontinued
  split at hcontinued
  · rename_i antennaLabel startsAt source hpayload
    obtain rfl : source = sourceId := Option.some.inj hcontinued
    have hevent : event ∈ bundle.events := by
      rw [hevents]
      exact List.mem_append_right _ List.mem_cons_self
    have hok := validateContinuedReadiness_of_valid h.control hevent hpayload
    obtain ⟨-, source, hid, hholds⟩ := holdsReadiness_of_ok hevents h.nodup hok
    refine ⟨source, antennaLabel, hid, ?_, hholds⟩
    obtain ⟨before, between, rfl, -⟩ := hholds.held
    exact List.mem_append_right _ List.mem_cons_self
  · cases hcontinued

theorem intentOf_armed (h : RunAccepted E bundle) (hevent : event ∈ bundle.events)
    (harmed : event.isArmed = true) : ∃ intent, bundle.schedule.intentOf? event = some intent := by
  have hmem : event ∈ bundle.events.filter (·.isArmed) := List.mem_filter.2 ⟨hevent, harmed⟩
  obtain ⟨cycle, -, harms⟩ := Timeline.forall₂_exists_right h.tracks.cycles event hmem
  obtain ⟨intent, hintent, -⟩ := harms.intent
  refine ⟨intent, ?_⟩
  rw [ScheduleV3.intentOf?, harms.slot]
  exact hintent

/-- An armed event needs the setup of the readiness it stands on. -/
theorem setup_of_readiness (h : RunAccepted E bundle) (hevent : event ∈ bundle.events)
    (harmed : event.isArmed = true) :
    ∃ source ∈ bundle.events, source.eventId = event.readyId ∧ ∃ sourceIntent intent,
      bundle.schedule.intentOf? source = some sourceIntent ∧
      bundle.schedule.intentOf? event = some intent ∧ sourceIntent.SameSetup intent := by
  cases hcontinued : event.continuedSource? with
  | none =>
    obtain ⟨intent, hintent⟩ := h.intentOf_armed hevent harmed
    refine ⟨event, hevent, ?_, intent, intent, hintent, hintent, rfl, rfl, rfl, rfl⟩
    rw [OperatorEventV3.readyId, hcontinued]
    rfl
  | some sourceId =>
    obtain ⟨prior, later, hsplit⟩ := List.append_of_mem hevent
    obtain ⟨source, antennaLabel, hid, hmem, hholds⟩ := h.source_of_continued hsplit hcontinued
    refine ⟨source, ?_, ?_, hholds.setup⟩
    · rw [hsplit]
      exact List.mem_append_left _ hmem
    · rw [OperatorEventV3.readyId, hcontinued, hid]
      rfl

theorem sameSetup (h : RunAccepted E bundle) (hevent : event ∈ bundle.events)
    (hother : other ∈ bundle.events) (harmed : event.isArmed = true)
    (harmedOther : other.isArmed = true) (hready : event.readyId = other.readyId)
    {intent intent' : WsprCycleIntentV3} (hintent : bundle.schedule.intentOf? event = some intent)
    (hintent' : bundle.schedule.intentOf? other = some intent') : intent.SameSetup intent' := by
  obtain ⟨source, hsource, hid, sourceIntent, first, hsourceIntent, hfirst, hsetup⟩ :=
    h.setup_of_readiness hevent harmed
  obtain ⟨source', hsource', hid', sourceIntent', second, hsourceIntent', hsecond, hsetup'⟩ :=
    h.setup_of_readiness hother harmedOther
  obtain rfl : source = source' :=
    h.eq_of_eventId hsource hsource' (hid.trans (hready.trans hid'.symm))
  obtain rfl : first = intent := Option.some.inj (hfirst.symm.trans hintent)
  obtain rfl : second = intent' := Option.some.inj (hsecond.symm.trans hintent')
  obtain rfl : sourceIntent = sourceIntent' :=
    Option.some.inj (hsourceIntent.symm.trans hsourceIntent')
  exact hsetup.symm.trans hsetup'

end RunAccepted

/-- The window of the last armed event is the last one of the events. -/
theorem latestWindow_eq {schedule : ScheduleV3} {prior before after : List OperatorEventV3}
    {armed : OperatorEventV3} {cycle : ArmedWsprCycleV3}
    (hprior : prior = before ++ armed :: after) (hafter : ∀ event ∈ after, event.isArmed = false)
    (harms : ArmedAs schedule armed cycle) :
    prior.reverse.findSome? armedWindow? = some cycle.window := by
  obtain ⟨readiness, hpayload⟩ := harms.payload
  have hwindow : armedWindow? armed = some cycle.window := by
    unfold armedWindow?
    rw [hpayload]
    exact harms.window
  have hnone : after.reverse.findSome? armedWindow? = none := by
    rw [List.findSome?_eq_none_iff]
    intro event hevent
    have hunarmed := hafter event (List.mem_reverse.1 hevent)
    unfold OperatorEventV3.isArmed at hunarmed
    unfold armedWindow?
    cases hother : event.payload with
    | wsprCycleArmed antennaLabel startsAt readiness =>
      rw [hother] at hunarmed
      cases hunarmed
    | _ => rfl
  rw [hprior, List.reverse_append, List.reverse_cons, List.append_assoc, List.findSome?_append,
    hnone, Option.none_or, List.singleton_append, List.findSome?_cons, hwindow]

namespace ContinuesAt

variable {occupancy : AntennaOccupancyIntervalV3} {previousCycle : ArmedWsprCycleV3}
  {previous next : WsprCycleIntentV3} {window : WsprCycleWindow} {event : OperatorEventV3}

/-- The events behind an open occupancy: the one that opened it, and the last one that armed a
cycle under it. -/
structure Behind (bundle : BundleV3Contents) (occupancy : AntennaOccupancyIntervalV3)
    (previousCycle : ArmedWsprCycleV3) (source armed : OperatorEventV3) : Prop where
  opens : source.Opens occupancy
  held : ∃ before between, bundle.events = before ++ source :: between ∧
    ∀ candidate ∈ between, endsReadiness candidate.payload = false
  last : ∃ before after, bundle.events = before ++ armed :: after ∧
    ∀ candidate ∈ after, candidate.isArmed = false
  isArmed : armed.isArmed = true
  readyId : armed.readyId = occupancy.readyEventId
  armedAs : ArmedAs bundle.schedule armed previousCycle
  antennaLabel : previousCycle.antennaLabel = occupancy.antennaLabel

theorem behind (h : RunAccepted E bundle)
    (hat : ContinuesAt bundle now mutation occupancy previousCycle previous next window) :
    ∃ source armed, Behind bundle occupancy previousCycle source armed := by
  have hopen := openOccupancy_of_last h.projects hat.lastOccupancy hat.stillOpen
  have hopened := h.tracks.opened occupancy hopen
  obtain ⟨before, armed, after, hlast, harmed, hunarmed, hready, startsAt, readiness, hpayload⟩ :=
    hopened.lastArmed
  obtain ⟨-, early, source, late, hevents, hopens, hkeeps⟩ := hopened
  obtain ⟨earlier, cycle, hcycles, harms⟩ := h.tracks.lastCycle hlast harmed hunarmed
  have hcovered := hat.lastCycle
  rw [projectWsprRunV3_cycles, hcycles, List.map_append, List.map_singleton,
    List.getLast?_concat] at hcovered
  obtain rfl := Option.some.inj hcovered
  refine ⟨source, armed, hopens, ?_, ⟨before, after, hlast, hunarmed⟩, harmed, hready, ?_, ?_⟩
  · refine ⟨early, late, hevents, ?_⟩
    intro candidate hcandidate
    exact (hkeeps candidate hcandidate).stays
  · exact ⟨harms.payload, harms.slot, harms.intent, harms.ready, harms.window, harms.notBefore⟩
  · obtain ⟨basis, hcycle⟩ := harms.payload
    exact (OperatorEventPayloadV3.wsprCycleArmed.inj (hcycle.symm.trans hpayload)).1

theorem Behind.mem_source {source armed : OperatorEventV3}
    (hbehind : Behind bundle occupancy previousCycle source armed) : source ∈ bundle.events := by
  obtain ⟨before, between, hevents, -⟩ := hbehind.held
  rw [hevents]
  exact List.mem_append_right _ List.mem_cons_self

theorem Behind.mem_armed {source armed : OperatorEventV3}
    (hbehind : Behind bundle occupancy previousCycle source armed) : armed ∈ bundle.events := by
  obtain ⟨before, after, hevents, -⟩ := hbehind.last
  rw [hevents]
  exact List.mem_append_right _ List.mem_cons_self

theorem endsAt_of_window {startsAt : DateTime} {window : WsprCycleWindow}
    (h : WsprCycleWindow.fromStart? startsAt = some window) :
    window.startsAt ≤ window.transmissionEndsAt := by
  obtain ⟨-, hstart, hend⟩ := WsprCycleWindow.fromStart?_eq_some h
  rw [hend, hstart]
  exact Int.le_add_of_nonneg_right (le_of_lt wsprTransmission_pos)

/-- The event that opened the occupancy transmitted before the last cycle ended. -/
theorem Behind.source_window (h : RunAccepted E bundle) {source armed : OperatorEventV3}
    (hbehind : Behind bundle occupancy previousCycle source armed) :
    ∃ startsAt readiness window,
      source.payload = .wsprCycleArmed occupancy.antennaLabel startsAt readiness ∧
      WsprCycleWindow.fromStart? startsAt = some window ∧
      source.occurredAt ≤ window.startsAt ∧
      window.transmissionEndsAt ≤ previousCycle.window.transmissionEndsAt := by
  obtain ⟨startsAt, readiness, hpayload⟩ := hbehind.opens.payload
  have harmedSource : source.isArmed = true := ProjectionState.isArmed_of_payload hpayload
  have hmem : source ∈ bundle.events.filter (·.isArmed) :=
    List.mem_filter.2 ⟨hbehind.mem_source, harmedSource⟩
  obtain ⟨cycle, -, harms⟩ := Timeline.forall₂_exists_right h.tracks.cycles source hmem
  obtain ⟨basis, hcycle⟩ := harms.payload
  have hstart : cycle.window.startsAt = startsAt :=
    (OperatorEventPayloadV3.wsprCycleArmed.inj (hcycle.symm.trans hpayload)).2.1
  have hwindow := harms.window
  rw [hstart] at hwindow
  refine ⟨startsAt, readiness, cycle.window, hpayload, hwindow, harms.notBefore, ?_⟩
  cases hcontinued : armed.continuedSource? with
  | none =>
    have hid : armed.eventId = source.eventId := by
      rw [hbehind.opens.eventId, ← hbehind.readyId, OperatorEventV3.readyId, hcontinued]
      rfl
    obtain rfl := h.eq_of_eventId hbehind.mem_armed hbehind.mem_source hid
    obtain ⟨basis', hprevious⟩ := hbehind.armedAs.payload
    have hsame := hbehind.armedAs.window
    rw [(OperatorEventPayloadV3.wsprCycleArmed.inj (hprevious.symm.trans hpayload)).2.1,
      hwindow] at hsame
    rw [Option.some.inj hsame]
  | some sourceId =>
    obtain ⟨prior, later, hsplit⟩ := List.append_of_mem hbehind.mem_armed
    obtain ⟨other, antennaLabel, hid, hprior, hholds⟩ := h.source_of_continued hsplit hcontinued
    have hready : sourceId = occupancy.readyEventId := by
      rw [← hbehind.readyId, OperatorEventV3.readyId, hcontinued]
      rfl
    have hother : other ∈ bundle.events := by
      rw [hsplit]
      exact List.mem_append_left _ hprior
    obtain rfl : other = source := h.eq_of_eventId hother hbehind.mem_source
      (hid.trans (hready.trans hbehind.opens.eventId.symm))
    obtain ⟨startsAt', readiness', window', hpayload', hwindow', hends⟩ := hholds.armed
    obtain rfl : startsAt' = startsAt :=
      (OperatorEventPayloadV3.wsprCycleArmed.inj (hpayload'.symm.trans hpayload)).2.1
    obtain rfl : window' = cycle.window := Option.some.inj (hwindow'.symm.trans hwindow)
    exact hends.trans (hbehind.armedAs.notBefore.trans (endsAt_of_window hbehind.armedAs.window))

/-- The readiness still holds for the event that continues it. -/
theorem holdsReadiness (h : RunAccepted E bundle)
    (hat : ContinuesAt bundle now mutation occupancy previousCycle previous next window)
    {source armed : OperatorEventV3}
    (hbehind : Behind bundle occupancy previousCycle source armed)
    (hslot : event.slotId = some next.intentId) (hoccurred : event.occurredAt = now)
    (hknown : bundle.schedule.findIntent? next.intentId = some next) :
    HoldsReadiness bundle.schedule bundle.events source event occupancy.antennaLabel := by
  obtain ⟨startsAt, readiness, sourceWindow, hpayload, hwindow, -, hends⟩ :=
    hbehind.source_window h
  have harmedSource : source.isArmed = true := ProjectionState.isArmed_of_payload hpayload
  obtain ⟨sourceIntent, hsourceIntent⟩ := h.intentOf_armed hbehind.mem_source harmedSource
  have hprevious : bundle.schedule.intentOf? armed = some previous := by
    rw [ScheduleV3.intentOf?, hbehind.armedAs.slot]
    exact hat.known
  have hready : source.readyId = armed.readyId := by
    rw [hbehind.readyId, OperatorEventV3.readyId, hbehind.opens.original]
    exact hbehind.opens.eventId
  have hsetup := h.sameSetup hbehind.mem_source hbehind.mem_armed harmedSource hbehind.isArmed
    hready hsourceIntent hprevious
  obtain ⟨before, after, hlast, hunarmed⟩ := hbehind.last
  constructor
  · exact hbehind.held
  · exact hbehind.opens.original
  · refine ⟨sourceIntent, next, hsourceIntent, ?_, hsetup.trans hat.setup⟩
    rw [ScheduleV3.intentOf?, hslot]
    exact hknown
  · refine ⟨startsAt, readiness, sourceWindow, hpayload, hwindow, ?_⟩
    rw [hoccurred]
    exact hends.trans hat.due
  · refine ⟨previousCycle.window, latestWindow_eq hlast hunarmed hbehind.armedAs, ?_⟩
    rw [hoccurred]
    exact hat.due

theorem known_next (h : RunAccepted E bundle)
    (hat : ContinuesAt bundle now mutation occupancy previousCycle previous next window) :
    bundle.schedule.findIntent? next.intentId = some next := by
  have hexpected := hat.pending
  rw [nextIntent_eq h.projects] at hexpected
  exact findIntent?_of_find? (p := fun id =>
    !(projectedState bundle.schedule bundle.events).seenIntents.contains id &&
      !(skippedIntents bundle.schedule bundle.events).contains id) hexpected

/-- The event arms the next intention without a diagnostic. -/
theorem armsCleanly (h : RunAccepted E bundle)
    (hat : ContinuesAt bundle now mutation occupancy previousCycle previous next window)
    (hslot : event.slotId = some next.intentId) (hoccurred : event.occurredAt = now) :
    ProjectionState.ArmsCleanly bundle.schedule (skippedIntents bundle.schedule bundle.events)
      (projectedState bundle.schedule bundle.events) event window.startsAt next window := by
  have hexpected := hat.pending
  rw [nextIntent_eq h.projects] at hexpected
  obtain ⟨haligned, hafter⟩ := nextWsprCycleAfterReady?_window hat.chosen
  constructor
  · exact h.projects
  · exact hslot
  · exact hat.known_next h
  · have hturn := List.find?_some hexpected
    rw [Bool.and_eq_true, Bool.not_eq_true', List.contains_eq_mem] at hturn
    exact of_decide_eq_false hturn.1
  · intro expected hmem
    rw [hexpected] at hmem
    rw [Option.some.inj hmem]
  · exact haligned
  · rw [hoccurred]
    exact le_of_lt hafter

variable (hpayload : event.payload = .wsprCycleArmed next.antennaLabel window.startsAt
  (some (.continued occupancy.readyEventId)))

include hpayload

theorem projectedState_continues (h : RunAccepted E bundle)
    (hat : ContinuesAt bundle now mutation occupancy previousCycle previous next window)
    (hslot : event.slotId = some next.intentId) (hoccurred : event.occurredAt = now)
    (hlabel : occupancy.antennaLabel = next.antennaLabel) :
    projectedState bundle.schedule (bundle.events ++ [event]) =
      { projectedState bundle.schedule bundle.events with
        cycles := (projectedState bundle.schedule bundle.events).cycles ++
          [(projectedState bundle.schedule bundle.events).armedCycle event next.antennaLabel
            occupancy.readyEventId next window]
        seenIntents := next.intentId ::
          (projectedState bundle.schedule bundle.events).seenIntents } := by
  have hopen := openOccupancy_of_last h.projects hat.lastOccupancy hat.stillOpen
  rw [projectedState_armed (ProjectionState.isArmed_of_payload hpayload)]
  exact ProjectionState.step_continues hpayload hopen hlabel rfl
    (hat.armsCleanly h hslot hoccurred)

/-- The run projects without a diagnostic exactly if the antenna that is occupied is the one
that was intended. -/
theorem projects_iff (h : RunAccepted E bundle)
    (hat : ContinuesAt bundle now mutation occupancy previousCycle previous next window)
    (hslot : event.slotId = some next.intentId) (hoccurred : event.occurredAt = now) :
    (projectWsprRunV3 bundle.schedule (bundle.events ++ [event])).diagnostics = [] ↔
      occupancy.antennaLabel = next.antennaLabel := by
  change (projectedState bundle.schedule (bundle.events ++ [event])).diagnostics = [] ↔ _
  constructor
  · intro hclean
    rw [projectedState_armed (ProjectionState.isArmed_of_payload hpayload)] at hclean
    obtain ⟨other, hopen, hlabel, -⟩ := ProjectionState.open_of_continues hpayload hclean
    have hsame := openOccupancy_of_last h.projects hat.lastOccupancy hat.stillOpen
    obtain rfl : other = occupancy := Option.some.inj (hopen.symm.trans hsame)
    exact hlabel
  · intro hlabel
    rw [projectedState_continues hpayload h hat hslot hoccurred hlabel]
    exact h.projects

end ContinuesAt

end AntennaBench
