import AntennaBench.Conductor.Continuation
import AntennaBench.Core.KeptRuns
import AntennaBench.Live.DiagnosticHistory

/-!
# The history of a run

What the writer commits never rewrites the projected run: the cycles that were armed stay as they
are, each intention is armed once and in its turn, and a continued cycle keeps the setup of the
one before.
-/

namespace AntennaBench

open AntennaControl

section

variable {E : Env} {profile : BundleResourceProfile} {initial : BundleV3Contents}

/-- A call leaves the bundle as it is, or a verified one with the events of before. -/
theorem perform_sealed (call : SessionCall) (bundle : BundleV3Contents) :
    (call.perform E profile bundle).2 = bundle ∨
      Sealed E bundle (call.perform E profile bundle).2 := by
  cases hattempt : call.attemptId? with
  | none => exact (perform_keepsDiagnostics call hattempt).imp_right (·.toSealed)
  | some attemptId =>
    unfold SessionCall.attemptId? at hattempt
    unfold SessionCall.perform
    cases hcall : call.call with
    | appendDiagnostic mutation =>
      apply (committedUnder_cases call.fault bundle _).imp_right
      rintro ⟨plan, receipt, hplan, hnext⟩
      rw [hnext]
      cases planDiagnostic_cases hplan with
      | recorded _ _ _ hretains => exact hretains.toSealed
      | omitted _ _ _ homits => exact homits.toSealed
    | appendEvent | appendEvidence | appendAntennaControl =>
      rw [hcall] at hattempt
      cases hattempt

/-- The committed bundle after a run of calls. -/
def sessionRun (E : Env) (profile : BundleResourceProfile) (initial : BundleV3Contents)
    (calls : List SessionCall) : BundleV3Contents :=
  calls.foldl (fun bundle call => (call.perform E profile bundle).2) initial

theorem sessionRun_append (initial : BundleV3Contents) (calls more : List SessionCall) :
    sessionRun E profile initial (calls ++ more) =
      sessionRun E profile (sessionRun E profile initial calls) more :=
  List.foldl_append

theorem sessionRun_sealed (h : validateV3Model E initial = .ok ()) (calls : List SessionCall) :
    Sealed E initial (sessionRun E profile initial calls) := by
  induction calls using List.reverseRecOn with
  | nil => exact ⟨h, rfl, rfl, List.prefix_rfl⟩
  | append_singleton calls call ih =>
    rw [sessionRun_append]
    change Sealed E initial (call.perform E profile (sessionRun E profile initial calls)).2
    rcases perform_sealed call (sessionRun E profile initial calls) with hsame | hsealed
    · rw [hsame]
      exact ih
    · exact ⟨hsealed.model, hsealed.manifest.trans ih.manifest,
        hsealed.schedule.trans ih.schedule, ih.events.trans hsealed.events⟩

end

/-- The second cycle continues the readiness of the first. -/
structure ContinuedFrom (schedule : ScheduleV3) (first second : ArmedWsprCycleV3) : Prop where
  antennaLabel : second.antennaLabel = first.antennaLabel
  setup : ∃ before after, schedule.findIntent? first.intentId = some before ∧
    schedule.findIntent? second.intentId = some after ∧ before.SameSetup after
  ended : first.window.transmissionEndsAt ≤ second.window.startsAt

/-- Cycles of one readiness follow each other with one setup. -/
def ContinuesInOrder (schedule : ScheduleV3) (cycles : List ArmedWsprCycleV3) : Prop :=
  cycles.Pairwise fun first second =>
    first.readyEventId = second.readyEventId → ContinuedFrom schedule first second

theorem ArmedAs.isArmed {schedule : ScheduleV3} {event : OperatorEventV3}
    {cycle : ArmedWsprCycleV3} (h : ArmedAs schedule event cycle) : event.isArmed = true := by
  obtain ⟨readiness, hpayload⟩ := h.payload
  exact ProjectionState.isArmed_of_payload hpayload

theorem ArmedAs.intentOf {schedule : ScheduleV3} {event : OperatorEventV3}
    {cycle : ArmedWsprCycleV3} (h : ArmedAs schedule event cycle) :
    ∃ intent, schedule.intentOf? event = some intent ∧
      schedule.findIntent? cycle.intentId = some intent := by
  obtain ⟨intent, hintent, -⟩ := h.intent
  refine ⟨intent, ?_, hintent⟩
  rw [ScheduleV3.intentOf?, h.slot]
  exact hintent

namespace RunAccepted

variable {E : Env} {bundle : BundleV3Contents} {prior later : List OperatorEventV3}
  {event : OperatorEventV3} {skipped : List String} {state next : ProjectionState}

theorem setup_of_cycles (h : RunAccepted E bundle) {first second : OperatorEventV3}
    {cycle cycle' : ArmedWsprCycleV3} (hfirst : first ∈ bundle.events)
    (hsecond : second ∈ bundle.events) (harms : ArmedAs bundle.schedule first cycle)
    (harms' : ArmedAs bundle.schedule second cycle')
    (hready : cycle.readyEventId = cycle'.readyEventId) :
    ∃ before after, bundle.schedule.findIntent? cycle.intentId = some before ∧
      bundle.schedule.findIntent? cycle'.intentId = some after ∧ before.SameSetup after := by
  obtain ⟨before, hbefore, hknown⟩ := harms.intentOf
  obtain ⟨after, hafter, hknown'⟩ := harms'.intentOf
  rw [harms.ready, harms'.ready] at hready
  exact ⟨before, after, hknown, hknown',
    h.sameSetup hfirst hsecond harms.isArmed harms'.isArmed hready hbefore hafter⟩

/-- A readiness is continued after the last transmission under it. -/
theorem last_ended (h : RunAccepted E bundle) (hevents : bundle.events = prior ++ event :: later)
    (htracks : ProjectionState.Tracks bundle.schedule prior state)
    {occupancy : AntennaOccupancyIntervalV3} (hopen : state.openOccupancy = some occupancy)
    {source : String} (hcontinued : event.continuedSource? = some source) :
    ∃ earlier last, state.cycles = earlier ++ [last] ∧
      last.readyEventId = occupancy.readyEventId ∧
      last.antennaLabel = occupancy.antennaLabel ∧
      last.window.transmissionEndsAt ≤ event.occurredAt ∧
      last.window.startsAt ≤ last.window.transmissionEndsAt := by
  obtain ⟨before, armed, after, hprior, harmed, hafter, hready, startsAt, readiness, hpayload⟩ :=
    (htracks.opened occupancy hopen).lastArmed
  obtain ⟨earlier, last, hcycles, harms⟩ := htracks.lastCycle hprior harmed hafter
  obtain ⟨_, _, _, _, hholds⟩ := h.source_of_continued hevents hcontinued
  obtain ⟨window, hlatest, hends⟩ := hholds.latest
  rw [latestWindow_eq hprior hafter harms] at hlatest
  obtain rfl := Option.some.inj hlatest
  obtain ⟨basis, hcycle⟩ := harms.payload
  refine ⟨earlier, last, hcycles, harms.ready.trans hready, ?_, hends,
    ContinuesAt.endsAt_of_window harms.window⟩
  exact (OperatorEventPayloadV3.wsprCycleArmed.inj (hcycle.symm.trans hpayload)).1

theorem continuesInOrder_step (h : RunAccepted E bundle)
    (hevents : bundle.events = prior ++ event :: later)
    (htracks : ProjectionState.Tracks bundle.schedule prior state)
    (hsound : ProjectionState.Sound bundle.schedule skipped prior state)
    (hstep : ProjectionState.CleanStep bundle.schedule skipped state event next)
    (horder : ContinuesInOrder bundle.schedule state.cycles) :
    ContinuesInOrder bundle.schedule next.cycles := by
  have hevent : event ∈ bundle.events := by
    rw [hevents]
    exact List.mem_append_right _ List.mem_cons_self
  have hmem (other : OperatorEventV3) (hother : other ∈ prior) : other ∈ bundle.events := by
    rw [hevents]
    exact List.mem_append_left _ hother
  cases hstep with
  | closes hcloses =>
    rw [(ProjectionState.closeOccupancy_kept state event).1]
    exact horder
  | @continues antennaLabel source startsAt occupancy intent window hpayload hopen hlabel hsource
      harms =>
    have hcontinued : event.continuedSource? = some source := by
      simp [OperatorEventV3.continuedSource?, hpayload]
    obtain ⟨earlier, last, hcycles, hready, hlast, hends, hwindow⟩ :=
      h.last_ended hevents htracks hopen hcontinued
    have hends' := hends.trans harms.notBefore
    apply List.pairwise_append.2
    refine ⟨horder, List.pairwise_singleton _ _, ?_⟩
    intro cycle hcycle added hadded hsame
    obtain rfl := List.mem_singleton.1 hadded
    obtain ⟨first, hfirst, hfirstArms⟩ :=
      Timeline.forall₂_exists_right htracks.cycles.flip cycle hcycle
    have harmsAs := ProjectionState.armedAs_armedCycle hpayload harms
    rw [hcontinued] at harmsAs
    have hsetup := h.setup_of_cycles (hmem first (List.mem_of_mem_filter hfirst)) hevent
      hfirstArms harmsAs hsame
    unfold ContinuesInOrder at horder
    rw [hcycles, List.pairwise_append] at horder
    rw [hcycles] at hcycle
    rcases List.mem_append.1 hcycle with hold | hnew
    · have hbetween := horder.2.2 cycle hold last List.mem_cons_self
        (hsame.trans (hsource.symm.trans hready.symm))
      constructor
      · exact hlabel.symm.trans (hlast.symm.trans hbetween.antennaLabel)
      · exact hsetup
      · exact hbetween.ended.trans (hwindow.trans hends')
    · obtain rfl := List.mem_singleton.1 hnew
      exact ⟨hlabel.symm.trans hlast.symm, hsetup, hends'⟩
  | @readies antennaLabel startsAt readiness intent window closed hpayload hsource hcycles hseen
      hoccupancies hopen harms =>
    unfold ContinuesInOrder
    rw [hcycles]
    apply List.pairwise_append.2
    refine ⟨horder, List.pairwise_singleton _ _, ?_⟩
    intro cycle hcycle added hadded hsame
    obtain rfl := List.mem_singleton.1 hadded
    exfalso
    obtain ⟨interval, hinterval, hready⟩ := hsound.occupied cycle hcycle
    have hold : cycle.readyEventId ∈ state.intervals.map (·.readyEventId) :=
      List.mem_map.2 ⟨interval, hinterval, hready.readyEventId⟩
    rw [hsound.readied] at hold
    obtain ⟨other, hother, hid⟩ := List.mem_map.1 hold
    have hnodup := h.nodup
    rw [hevents, List.map_append, List.nodup_append] at hnodup
    apply hnodup.2.2 other.eventId (List.mem_map_of_mem (List.mem_of_mem_filter hother))
      event.eventId List.mem_cons_self
    exact hid.trans hsame
  | passes hcloses harmed => exact horder

theorem continuesInOrder_run (h : RunAccepted E bundle) (hevents : bundle.events = prior ++ later) :
    ContinuesInOrder bundle.schedule (prior.foldl (ProjectionState.step bundle.schedule
      (skippedIntents bundle.schedule bundle.events)) ⟨[], [], [], none, []⟩).cycles := by
  induction prior using List.reverseRecOn generalizing later with
  | nil => exact .nil
  | append_singleton prior event ih =>
    rw [List.append_assoc, List.singleton_append] at hevents
    have hclean := h.projects
    change (projectedState bundle.schedule bundle.events).diagnostics = [] at hclean
    unfold projectedState at hclean
    nth_rewrite 2 [hevents] at hclean
    rw [List.foldl_append, List.foldl_cons] at hclean
    have hnext := ProjectionState.diagnostics_of_foldl hclean
    have hstate := ProjectionState.diagnostics_of_step hnext
    have htracks := ProjectionState.tracks_run ProjectionState.tracks_nil hstate
    have hsound := ProjectionState.sound_run ProjectionState.tracks_nil
      ProjectionState.sound_nil hstate
    rw [List.nil_append] at htracks hsound
    rw [List.foldl_append, List.foldl_cons, List.foldl_nil]
    exact h.continuesInOrder_step hevents htracks hsound (ProjectionState.step_clean hnext)
      (ih hevents)

end RunAccepted

/-- What holds of the projected run of a bundle. -/
structure SoundRun (schedule : ScheduleV3) (run : WsprRunProjectionV3) : Prop where
  once : (run.cycles.map (·.intentId)).Nodup
  turns : InTurn schedule run.skippedIntentIds run.cycles
  readied : (run.occupancies.map (·.readyEventId)).Nodup
  occupied : ∀ cycle ∈ run.cycles, ∃ interval ∈ run.occupancies, interval.Readies cycle
  continued : ContinuesInOrder schedule run.cycles

/-- The projected run of a bundle. -/
def BundleV3Contents.run (bundle : BundleV3Contents) : WsprRunProjectionV3 :=
  projectWsprRunV3 bundle.schedule bundle.events

theorem InTurn.projected {schedule : ScheduleV3} {events : List OperatorEventV3}
    {cycles : List ArmedWsprCycleV3} {occupancies : List AntennaOccupancyIntervalV3}
    (h : InTurn schedule (skippedIntents schedule events) cycles) :
    InTurn schedule (projectWsprRunV3 schedule events).skippedIntentIds
      (cycles.map (·.covered occupancies)) := by
  intro before cycle hprefix intent hintent
  obtain ⟨armed, harmed, hmap⟩ := List.prefix_map_iff.1 hprefix
  obtain ⟨early, late, rfl, rfl, hlast⟩ := List.append_eq_map_iff.1 hmap
  obtain ⟨last, rfl, rfl⟩ := List.map_eq_singleton_iff.1 hlast
  rw [List.map_map]
  apply (h early last harmed intent hintent).imp_left
  intro hskipped
  have hcontains := @skippedIntentIds_contains schedule events intent
    (List.takeWhile_subset _ hintent)
  rw [← List.contains_iff_mem, hcontains, List.contains_iff_mem]
  exact hskipped

theorem RunAccepted.soundRun {E : Env} {bundle : BundleV3Contents} (h : RunAccepted E bundle) :
    SoundRun bundle.schedule bundle.run := by
  have hsound := projectedState_sound h.projects
  unfold BundleV3Contents.run
  constructor
  · rw [projectWsprRunV3_cycles, List.map_map]
    exact hsound.once
  · rw [projectWsprRunV3_cycles]
    exact hsound.turns.projected
  · exact readyIds_nodup h.projects h.nodup
  · rw [projectWsprRunV3_cycles]
    intro cycle hcycle
    obtain ⟨armed, harmed, rfl⟩ := List.mem_map.1 hcycle
    obtain ⟨interval, hinterval, hready⟩ := hsound.occupied armed harmed
    exact ⟨interval, hinterval, hready.readyEventId, hready.antennaLabel, hready.startsAt⟩
  · have horder := h.continuesInOrder_run (List.append_nil _).symm
    unfold ContinuesInOrder at horder ⊢
    rw [projectWsprRunV3_cycles, List.pairwise_map]
    apply horder.imp
    intro first second hcontinued hready
    obtain ⟨hlabel, hsetup, hended⟩ := hcontinued hready
    exact ⟨hlabel, hsetup, hended⟩

/-- Whatever is called on handles that hold the committed bundle, with faults before or after the
checkpoint is replaced, the projected run is sound, and it goes on from what it was after any
part of the calls. -/
theorem sessionRun_history {E : Env} {profile : BundleResourceProfile}
    {initial : BundleV3Contents} (h : validateV3Model E initial = .ok ())
    (calls : List SessionCall) :
    (sessionRun E profile initial calls).schedule = initial.schedule ∧
    SoundRun initial.schedule (sessionRun E profile initial calls).run ∧
    ∀ earlier, earlier <+: calls → (sessionRun E profile initial earlier).run.GoesOn
      (sessionRun E profile initial calls).run := by
  have hsealed : Sealed E initial (sessionRun E profile initial calls) := sessionRun_sealed h calls
  have haccepted := runAccepted_of_valid hsealed.model
  refine ⟨hsealed.schedule, ?_, ?_⟩
  · rw [← hsealed.schedule]
    exact haccepted.soundRun
  · intro earlier hearlier
    obtain ⟨later, rfl⟩ := hearlier
    have hbefore : Sealed E initial (sessionRun E profile initial earlier) :=
      sessionRun_sealed h earlier
    have hafter : Sealed E (sessionRun E profile initial earlier)
        (sessionRun E profile initial (earlier ++ later)) := by
      rw [sessionRun_append]
      exact sessionRun_sealed hbefore.model later
    obtain ⟨more, hmore⟩ := hafter.events
    have hclean := haccepted.projects
    have hnodup := haccepted.nodup
    unfold BundleV3Contents.run
    rw [hafter.schedule, ← hmore] at hclean
    rw [← hmore] at hnodup
    rw [hafter.schedule, ← hmore]
    exact projectWsprRunV3_goesOn (runAccepted_of_valid hbefore.model).projects hclean hnodup

namespace Scenario

/-- The second cycle is armed under the readiness of the first. -/
def continueCall : SessionCall where
  handle := session
  call := .appendEvent ⟨2, "m3", { armedEvent "e2" "c2" "A" 361 with
    occurredAt := noon 240
    payload := .wsprCycleArmed "A" (noon 361) (some (.continued "e1")) }⟩
  fault := .none
  now := noon 240

set_option maxRecDepth 20000 in
theorem continueCall_history :
    (sessionRun (env unknown) localStandardV1 continuedBundle
      [continueCall]).run.cycles.map (·.readyEventId) = ["e1", "e1"] ∧
    continuedBundle.run.GoesOn
      (sessionRun (env unknown) localStandardV1 continuedBundle [continueCall]).run := by
  constructor
  · decide +kernel
  · obtain ⟨-, -, hhistory⟩ := @sessionRun_history (env unknown) localStandardV1 continuedBundle
      continuedBundle_valid [continueCall]
    exact hhistory [] List.nil_prefix

end Scenario

end AntennaBench
