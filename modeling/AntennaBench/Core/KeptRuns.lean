import AntennaBench.Core.ArmedCycles
import AntennaBench.Timeline.Grown

/-!
# Runs that go on

What the loop of the projection keeps when more events follow: the cycles, the intervals that
have ended, and the turn in which the intentions were armed. What was skipped may differ between
the two readings, as long as neither gives a diagnostic.
-/

namespace AntennaBench

open AntennaControl Timeline

/-- The same occupancy, and the same end if it has one. -/
structure AntennaOccupancyIntervalV3.Lasts (interval later : AntennaOccupancyIntervalV3) :
    Prop where
  antennaLabel : later.antennaLabel = interval.antennaLabel
  startsAt : later.startsAt = interval.startsAt
  readyEventId : later.readyEventId = interval.readyEventId
  ended : interval.endsAt.isSome = true → later.endsAt = interval.endsAt

theorem AntennaOccupancyIntervalV3.Lasts.refl (interval : AntennaOccupancyIntervalV3) :
    interval.Lasts interval :=
  ⟨rfl, rfl, rfl, fun _ => rfl⟩

theorem AntennaOccupancyIntervalV3.Lasts.trans (first second third : AntennaOccupancyIntervalV3)
    (h : first.Lasts second) (h' : second.Lasts third) : first.Lasts third := by
  constructor
  · exact h'.antennaLabel.trans h.antennaLabel
  · exact h'.startsAt.trans h.startsAt
  · exact h'.readyEventId.trans h.readyEventId
  · intro hended
    have hsame := h.ended hended
    rw [← hsame] at hended
    exact (h'.ended hended).trans hsame

/-- The cycle was armed under the occupancy. -/
structure AntennaOccupancyIntervalV3.Readies (interval : AntennaOccupancyIntervalV3)
    (cycle : ArmedWsprCycleV3) : Prop where
  readyEventId : interval.readyEventId = cycle.readyEventId
  antennaLabel : interval.antennaLabel = cycle.antennaLabel
  startsAt : interval.startsAt = cycle.readyAt

/-- Each cycle was armed when every intention before its own was skipped or armed. -/
def InTurn (schedule : ScheduleV3) (skipped : List String) (cycles : List ArmedWsprCycleV3) :
    Prop :=
  ∀ before cycle, before ++ [cycle] <+: cycles →
    ∀ intent ∈ schedule.wsprCycleIntents.takeWhile (·.intentId != cycle.intentId),
      intent.intentId ∈ skipped ∨ intent.intentId ∈ before.map (·.intentId)

theorem InTurn.concat {schedule : ScheduleV3} {skipped : List String}
    {cycles : List ArmedWsprCycleV3} {cycle : ArmedWsprCycleV3}
    (h : InTurn schedule skipped cycles)
    (hcycle : ∀ intent ∈ schedule.wsprCycleIntents.takeWhile (·.intentId != cycle.intentId),
      intent.intentId ∈ skipped ∨ intent.intentId ∈ cycles.map (·.intentId)) :
    InTurn schedule skipped (cycles ++ [cycle]) := by
  intro before other hprefix
  rcases List.prefix_concat_iff.1 hprefix with heq | hshorter
  · obtain ⟨rfl, hother⟩ := List.append_inj' heq rfl
    obtain rfl : other = cycle := by simpa using hother
    exact hcycle
  · exact h before other hshorter

/-- The event opens an occupancy of its own. -/
def OperatorEventV3.readies (event : OperatorEventV3) : Bool :=
  event.isArmed && event.continuedSource?.isNone

theorem mem_of_mem_takeWhile {α : Type} {p : α → Bool} {before after : List α} {a b : α}
    (ha : p a = false) (h : b ∈ (before ++ a :: after).takeWhile p) : b ∈ before := by
  induction before with
  | nil =>
    rw [List.nil_append, List.takeWhile_cons_of_neg (by simpa using ha)] at h
    cases h
  | cons first rest ih =>
    rw [List.cons_append, List.takeWhile_cons] at h
    split_ifs at h
    · rcases List.mem_cons.1 h with rfl | hrest
      · exact List.mem_cons_self
      · exact List.mem_cons_of_mem _ (ih hrest)
    · cases h

namespace ProjectionState

variable {schedule : ScheduleV3} {skipped other : List String} {state next : ProjectionState}
  {event : OperatorEventV3} {events more : List OperatorEventV3}

theorem armCycle_agree {antennaLabel : String} {startsAt : DateTime} {source : Option String}
    (h : (armCycle schedule skipped state event antennaLabel startsAt source).diagnostics = [])
    (h' : (armCycle schedule other state event antennaLabel startsAt source).diagnostics = []) :
    armCycle schedule skipped state event antennaLabel startsAt source =
      armCycle schedule other state event antennaLabel startsAt source := by
  obtain ⟨intent, window, harms⟩ := cleanly_of_armCycle h
  obtain ⟨intent', window', harms'⟩ := cleanly_of_armCycle h'
  have hid := Option.some.inj (harms.slot.symm.trans harms'.slot)
  have hknown := harms.known
  rw [hid, harms'.known] at hknown
  obtain rfl : intent' = intent := Option.some.inj hknown
  obtain rfl : window = window' := Option.some.inj (harms.aligned.symm.trans harms'.aligned)
  rw [armCycle_of_cleanly harms, armCycle_of_cleanly harms']

/-- What was skipped decides only whether there is a diagnostic. -/
theorem step_agree (h : (step schedule skipped state event).diagnostics = [])
    (h' : (step schedule other state event).diagnostics = []) :
    step schedule skipped state event = step schedule other state event := by
  unfold step at h h' ⊢
  split_ifs at h h' ⊢ with hcloses
  · rfl
  · cases hpayload : event.payload with
    | wsprCycleArmed antennaLabel startsAt readiness =>
      cases readiness with
      | none =>
        simp only [hpayload] at h h' ⊢
        exact armCycle_agree h h'
      | some basis =>
        cases basis with
        | continued source =>
          simp only [hpayload] at h h' ⊢
          split_ifs at h h' ⊢
          · exact armCycle_agree h h'
          · rfl
        | _ =>
          simp only [hpayload] at h h' ⊢
          exact armCycle_agree h h'
    | _ => rfl

theorem foldl_agree (h : (events.foldl (step schedule skipped) state).diagnostics = [])
    (h' : (events.foldl (step schedule other) state).diagnostics = []) :
    events.foldl (step schedule skipped) state = events.foldl (step schedule other) state := by
  induction events generalizing state with
  | nil => rfl
  | cons event rest ih =>
    rw [List.foldl_cons] at h h' ⊢
    rw [List.foldl_cons]
    have hstep := step_agree (diagnostics_of_foldl h) (diagnostics_of_foldl h')
    rw [hstep] at h ⊢
    exact ih h h'

/-- The occupancies as the projection gives them. -/
def intervals (state : ProjectionState) : List AntennaOccupancyIntervalV3 :=
  state.occupancies ++ state.openOccupancy.toList

theorem intervals_grow_closed
    (hopen : ∀ occupancy ∈ state.openOccupancy, occupancy.endsAt = none) :
    Grown AntennaOccupancyIntervalV3.Lasts state.intervals
      (state.closeOccupancy event).occupancies := by
  unfold intervals closeOccupancy
  cases hstate : state.openOccupancy with
  | none =>
    rw [Option.toList_none, List.append_nil]
    exact Grown.refl .refl _
  | some interval =>
    have hends := hopen interval hstate
    have hlasts (endsAt : Option DateTime) : interval.Lasts { interval with endsAt } := by
      refine ⟨rfl, rfl, rfl, ?_⟩
      intro hended
      rw [hends] at hended
      cases hended
    dsimp only
    split_ifs
    · exact Grown.concat .refl _ (hlasts _)
    · exact Grown.concat .refl _ (hlasts _)

theorem intervals_closed : (state.closeOccupancy event).intervals =
    (state.closeOccupancy event).occupancies := by
  unfold intervals
  rw [(closeOccupancy_kept state event).2.2, Option.toList_none, List.append_nil]

theorem CleanStep.intervals_grow (h : CleanStep schedule skipped state event next)
    (hopen : ∀ occupancy ∈ state.openOccupancy, occupancy.endsAt = none) :
    Grown AntennaOccupancyIntervalV3.Lasts state.intervals next.intervals := by
  cases h with
  | closes hcloses =>
    rw [intervals_closed]
    exact intervals_grow_closed hopen
  | continues hpayload hstate hlabel hsource harms => exact Grown.refl .refl _
  | readies hpayload hsource hcycles hseen hoccupancies hnew harms =>
    unfold intervals
    dsimp only
    rw [hoccupancies, hnew]
    exact (intervals_grow_closed hopen).append _
  | passes hcloses harmed => exact Grown.refl .refl _

theorem CleanStep.cycles_grow (h : CleanStep schedule skipped state event next) :
    state.cycles <+: next.cycles := by
  cases h with
  | closes hcloses =>
    obtain ⟨hcycles, -, -⟩ := closeOccupancy_kept state event
    exact ⟨[], by rw [hcycles, List.append_nil]⟩
  | continues hpayload hstate hlabel hsource harms => exact List.prefix_append _ _
  | readies hpayload hsource hcycles hseen hoccupancies hnew harms =>
    rw [hcycles]
    exact List.prefix_append _ _
  | passes hcloses harmed => exact List.prefix_rfl

theorem Tracks.notEnded (h : Tracks schedule events state) :
    ∀ occupancy ∈ state.openOccupancy, occupancy.endsAt = none := by
  intro occupancy hopen
  exact (h.opened occupancy hopen).1

theorem kept_run (h : Tracks schedule events state)
    (hclean : (more.foldl (step schedule skipped) state).diagnostics = []) :
    state.cycles <+: (more.foldl (step schedule skipped) state).cycles ∧
      Grown AntennaOccupancyIntervalV3.Lasts state.intervals
        (more.foldl (step schedule skipped) state).intervals := by
  induction more generalizing events state with
  | nil => exact ⟨List.prefix_rfl, Grown.refl .refl _⟩
  | cons event rest ih =>
    rw [List.foldl_cons] at hclean ⊢
    have hstep := step_clean (diagnostics_of_foldl hclean)
    obtain ⟨hcycles, hintervals⟩ := ih (h.step hstep) hclean
    constructor
    · exact hstep.cycles_grow.trans hcycles
    · exact (hstep.intervals_grow h.notEnded).trans .trans hintervals

theorem ArmsCleanly.before {startsAt : DateTime} {intent : WsprCycleIntentV3}
    {window : WsprCycleWindow}
    (h : ArmsCleanly schedule skipped state event startsAt intent window) :
    ∀ earlier ∈ schedule.wsprCycleIntents.takeWhile (·.intentId != intent.intentId),
      earlier.intentId ∈ skipped ∨ earlier.intentId ∈ state.seenIntents := by
  intro earlier hearlier
  have hpassed (hnot : (!state.seenIntents.contains earlier.intentId &&
      !skipped.contains earlier.intentId) = false) :
      earlier.intentId ∈ skipped ∨ earlier.intentId ∈ state.seenIntents := by
    simp only [Bool.and_eq_false_iff, Bool.not_eq_false', List.contains_iff_mem] at hnot
    exact hnot.symm
  cases hexpected : expected? schedule skipped state with
  | none =>
    have hnone := List.find?_eq_none.1 hexpected earlier (List.takeWhile_subset _ hearlier)
    exact hpassed (Bool.eq_false_of_not_eq_true hnone)
  | some expected =>
    have hid := h.turn expected hexpected
    obtain ⟨-, before, after, hintents, hbefore⟩ := List.find?_eq_some_iff_append.1 hexpected
    rw [hintents] at hearlier
    have hmem := mem_of_mem_takeWhile (by simp [hid]) hearlier
    exact hpassed (Bool.not_eq_true' _ ▸ hbefore earlier hmem)

/-- What the cycles say about the intervals and the turns, besides `Tracks`. -/
structure Sound (schedule : ScheduleV3) (skipped : List String) (events : List OperatorEventV3)
    (state : ProjectionState) : Prop where
  once : (state.cycles.map (·.intentId)).Nodup
  turns : InTurn schedule skipped state.cycles
  readied : state.intervals.map (·.readyEventId) =
    (events.filter (·.readies)).map (·.eventId)
  occupied : ∀ cycle ∈ state.cycles, ∃ interval ∈ state.intervals, interval.Readies cycle

theorem sound_nil : Sound schedule skipped [] ⟨[], [], [], none, []⟩ := by
  constructor
  · exact .nil
  · intro before cycle hprefix
    have hnil := List.prefix_nil.1 hprefix
    simp at hnil
  · rfl
  · intro cycle hcycle
    cases hcycle

theorem closed_readyIds : (state.closeOccupancy event).occupancies.map (·.readyEventId) =
    state.intervals.map (·.readyEventId) := by
  unfold intervals closeOccupancy
  cases state.openOccupancy with
  | none => simp
  | some interval =>
    dsimp only
    split_ifs
    · simp [report]
    · simp

theorem filter_readies_concat (events : List OperatorEventV3) (event : OperatorEventV3) :
    ((events ++ [event]).filter (·.readies)).map (·.eventId) =
      (events.filter (·.readies)).map (·.eventId) ++
        if event.readies = true then [event.eventId] else [] := by
  rw [List.filter_append, List.map_append, List.filter_singleton, Bool.cond_eq_ite]
  split_ifs
  · rfl
  · rfl

theorem readies_of_unarmed (harmed : event.isArmed = false) : event.readies = false := by
  rw [OperatorEventV3.readies, harmed, Bool.false_and]

theorem Sound.occupied_of_grown (h : Sound schedule skipped events state)
    {later : List AntennaOccupancyIntervalV3}
    (hgrown : Grown AntennaOccupancyIntervalV3.Lasts state.intervals later) :
    ∀ cycle ∈ state.cycles, ∃ interval ∈ later, interval.Readies cycle := by
  intro cycle hcycle
  obtain ⟨interval, hinterval, hready⟩ := h.occupied cycle hcycle
  obtain ⟨kept, hkept, hlasts⟩ := hgrown.exists_kept hinterval
  refine ⟨kept, hkept, ?_⟩
  constructor
  · exact hlasts.readyEventId.trans hready.readyEventId
  · exact hlasts.antennaLabel.trans hready.antennaLabel
  · exact hlasts.startsAt.trans hready.startsAt

theorem Sound.once_armed {startsAt : DateTime} {intent : WsprCycleIntentV3}
    {window : WsprCycleWindow} (h : Sound schedule skipped events state)
    (htracks : Tracks schedule events state) (hseen : next.seenIntents = state.seenIntents)
    (harms : ArmsCleanly schedule skipped next event startsAt intent window)
    (cycle : ArmedWsprCycleV3) (hcycle : cycle.intentId = intent.intentId) :
    ((state.cycles ++ [cycle]).map (·.intentId)).Nodup ∧
      InTurn schedule skipped (state.cycles ++ [cycle]) := by
  have hmem : ∀ intentId, intentId ∈ next.seenIntents ↔
      intentId ∈ state.cycles.map (·.intentId) := by
    intro intentId
    rw [hseen, htracks.seen, List.mem_reverse]
  constructor
  · rw [List.map_append, List.map_singleton, ← List.concat_eq_append, List.nodup_concat, hcycle]
    exact ⟨fun hold => harms.unseen ((hmem _).2 hold), h.once⟩
  · apply h.turns.concat
    intro earlier hearlier
    rw [hcycle] at hearlier
    exact (harms.before earlier hearlier).imp_right (hmem _).1

theorem Sound.step (h : Sound schedule skipped events state)
    (htracks : Tracks schedule events state)
    (hstep : CleanStep schedule skipped state event next) :
    Sound schedule skipped (events ++ [event]) next := by
  cases hstep with
  | closes hcloses =>
    obtain ⟨hcycles, -, -⟩ := closeOccupancy_kept state event
    constructor
    · rw [hcycles]
      exact h.once
    · rw [hcycles]
      exact h.turns
    · rw [intervals_closed, closed_readyIds, h.readied, filter_readies_concat,
        readies_of_unarmed (isArmed_of_closes hcloses)]
      simp
    · rw [hcycles, intervals_closed]
      exact h.occupied_of_grown (intervals_grow_closed htracks.notEnded)
  | @continues antennaLabel source startsAt occupancy intent window hpayload hopen hlabel hsource
      harms =>
    obtain ⟨honce, hturns⟩ := h.once_armed htracks rfl harms
      (armedCycle state event antennaLabel source intent window) rfl
    have hreadies : event.readies = false := by
      simp [OperatorEventV3.readies, OperatorEventV3.continuedSource?, hpayload]
    constructor
    · exact honce
    · exact hturns
    · rw [filter_readies_concat, hreadies, if_neg Bool.false_ne_true, List.append_nil]
      exact h.readied
    · intro cycle hcycle
      rcases List.mem_append.1 hcycle with hold | hnew
      · exact h.occupied cycle hold
      · rw [List.mem_singleton.1 hnew]
        refine ⟨occupancy, List.mem_append_right _ (by simp [hopen]), hsource, hlabel, ?_⟩
        simp [armedCycle, hopen, Option.filter, hsource]
  | @readies antennaLabel startsAt readiness intent window closed hpayload hsource hcycles hseen
      hoccupancies hopen harms =>
    obtain ⟨honce, hturns⟩ := h.once_armed htracks hseen harms
      (armedCycle closed event antennaLabel none intent window) rfl
    have hreadies : event.readies = true := by
      simp [OperatorEventV3.readies, isArmed_of_payload hpayload, hsource]
    constructor
    · rw [hcycles]
      exact honce
    · rw [hcycles]
      exact hturns
    · have hids := @closed_readyIds state event
      rw [h.readied] at hids
      rw [filter_readies_concat, if_pos hreadies, ← hids]
      unfold intervals
      rw [hoccupancies, hopen, List.map_append]
      rfl
    · have hgrown := @intervals_grow_closed state event htracks.notEnded
      unfold intervals
      rw [hoccupancies, hopen, hcycles]
      intro cycle hcycle
      rcases List.mem_append.1 hcycle with hold | hnew
      · exact h.occupied_of_grown (hgrown.append _) cycle hold
      · rw [List.mem_singleton.1 hnew]
        exact ⟨_, List.mem_append_right _ List.mem_cons_self, rfl, rfl, rfl⟩
  | passes hcloses harmed =>
    constructor
    · exact h.once
    · exact h.turns
    · rw [filter_readies_concat, readies_of_unarmed harmed, h.readied]
      simp
    · exact h.occupied

theorem sound_run (htracks : Tracks schedule events state)
    (h : Sound schedule skipped events state)
    (hclean : (more.foldl (ProjectionState.step schedule skipped) state).diagnostics = []) :
    Sound schedule skipped (events ++ more)
      (more.foldl (ProjectionState.step schedule skipped) state) := by
  induction more generalizing events state with
  | nil => simpa using h
  | cons event rest ih =>
    rw [List.foldl_cons] at hclean ⊢
    have hstep := step_clean (diagnostics_of_foldl hclean)
    rw [← List.singleton_append, ← List.append_assoc]
    exact ih (htracks.step hstep) (h.step htracks hstep) hclean

end ProjectionState

section

variable {schedule : ScheduleV3} {events more : List OperatorEventV3}

theorem projectedState_sound (h : (projectWsprRunV3 schedule events).diagnostics = []) :
    ProjectionState.Sound schedule (skippedIntents schedule events) events
      (projectedState schedule events) := by
  have hrun := ProjectionState.sound_run ProjectionState.tracks_nil
    (@ProjectionState.sound_nil schedule (skippedIntents schedule events)) h
  rwa [List.nil_append] at hrun

/-- A run without a diagnostic goes on from where it was. -/
theorem projectedState_append (h : (projectWsprRunV3 schedule events).diagnostics = [])
    (hlater : (projectWsprRunV3 schedule (events ++ more)).diagnostics = []) :
    projectedState schedule (events ++ more) = more.foldl
      (ProjectionState.step schedule (skippedIntents schedule (events ++ more)))
      (projectedState schedule events) := by
  change (projectedState schedule (events ++ more)).diagnostics = [] at hlater
  unfold projectedState at hlater ⊢
  rw [List.foldl_append] at hlater ⊢
  rw [ProjectionState.foldl_agree (ProjectionState.diagnostics_of_foldl hlater) h]

end

/-- A projected cycle under a longer run: coverage can only be lost, and only while the
occupancy has not ended. -/
structure ArmedWsprCycleV3.KeptAs (occupancies : List AntennaOccupancyIntervalV3)
    (cycle later : ArmedWsprCycleV3) : Prop where
  same : later = { cycle with
    occupancyFullyCoversTransmission := later.occupancyFullyCoversTransmission }
  covered : later.occupancyFullyCoversTransmission = true →
    cycle.occupancyFullyCoversTransmission = true
  decided : (∀ interval ∈ occupancies, interval.readyEventId = cycle.readyEventId →
    interval.endsAt.isSome = true) →
      later.occupancyFullyCoversTransmission = cycle.occupancyFullyCoversTransmission

/-- The later run has the cycles and the occupancies of the earlier one, and maybe more. -/
structure WsprRunProjectionV3.GoesOn (run later : WsprRunProjectionV3) : Prop where
  cycles : Grown (ArmedWsprCycleV3.KeptAs run.occupancies) run.cycles later.cycles
  occupancies : Grown AntennaOccupancyIntervalV3.Lasts run.occupancies later.occupancies

section

variable {occupancies later : List AntennaOccupancyIntervalV3} {cycle : ArmedWsprCycleV3}

theorem occupancyCovers_iff : occupancyCovers occupancies cycle = true ↔
    ∃ interval ∈ occupancies, interval.readyEventId = cycle.readyEventId ∧
      interval.antennaLabel = cycle.antennaLabel ∧
      interval.startsAt ≤ cycle.window.startsAt ∧
      ∀ endsAt ∈ interval.endsAt, cycle.window.transmissionEndsAt ≤ endsAt := by
  simp [occupancyCovers, List.any_eq_true, Option.all_eq_true, and_assoc]

theorem covers_of_later (hgrown : Grown AntennaOccupancyIntervalV3.Lasts occupancies later)
    (hnodup : (later.map (·.readyEventId)).Nodup)
    (hoccupied : ∃ interval ∈ occupancies, interval.readyEventId = cycle.readyEventId)
    (h : occupancyCovers later cycle = true) : occupancyCovers occupancies cycle = true := by
  rw [occupancyCovers_iff] at h ⊢
  obtain ⟨found, hfound, hready, hlabel, hstarts, hends⟩ := h
  obtain ⟨interval, hinterval, hsame⟩ := hoccupied
  obtain ⟨kept, hkept, hlasts⟩ := hgrown.exists_kept hinterval
  obtain rfl : kept = found := List.inj_on_of_nodup_map hnodup hkept hfound
    (hlasts.readyEventId.trans (hsame.trans hready.symm))
  refine ⟨interval, hinterval, hsame, hlasts.antennaLabel ▸ hlabel, hlasts.startsAt ▸ hstarts, ?_⟩
  intro endsAt hmem
  apply hends
  rw [hlasts.ended (Option.isSome_of_mem hmem)]
  exact hmem

theorem covers_later (hgrown : Grown AntennaOccupancyIntervalV3.Lasts occupancies later)
    (hended : ∀ interval ∈ occupancies, interval.readyEventId = cycle.readyEventId →
      interval.endsAt.isSome = true)
    (h : occupancyCovers occupancies cycle = true) : occupancyCovers later cycle = true := by
  rw [occupancyCovers_iff] at h ⊢
  obtain ⟨interval, hinterval, hready, hlabel, hstarts, hends⟩ := h
  obtain ⟨kept, hkept, hlasts⟩ := hgrown.exists_kept hinterval
  refine ⟨kept, hkept, hlasts.readyEventId.trans hready, hlasts.antennaLabel.trans hlabel,
    hlasts.startsAt.le.trans hstarts, ?_⟩
  rw [hlasts.ended (hended interval hinterval hready)]
  exact hends

end

section

variable {schedule : ScheduleV3} {events more : List OperatorEventV3}

theorem readyIds_nodup (h : (projectWsprRunV3 schedule events).diagnostics = [])
    (hnodup : (events.map (·.eventId)).Nodup) :
    ((projectWsprRunV3 schedule events).occupancies.map (·.readyEventId)).Nodup := by
  change ((projectedState schedule events).intervals.map (·.readyEventId)).Nodup
  rw [(projectedState_sound h).readied]
  exact hnodup.sublist (List.filter_sublist.map _)

/-- A run goes on when more events follow and it stays without a diagnostic. -/
theorem projectWsprRunV3_goesOn (h : (projectWsprRunV3 schedule events).diagnostics = [])
    (hlater : (projectWsprRunV3 schedule (events ++ more)).diagnostics = [])
    (hnodup : ((events ++ more).map (·.eventId)).Nodup) :
    (projectWsprRunV3 schedule events).GoesOn (projectWsprRunV3 schedule (events ++ more)) := by
  have hsame := projectedState_append h hlater
  have hclean : (projectedState schedule (events ++ more)).diagnostics = [] := hlater
  rw [hsame] at hclean
  obtain ⟨hcycles, hintervals⟩ :=
    ProjectionState.kept_run (projectedState_tracks h) hclean
  rw [← hsame] at hcycles hintervals
  constructor
  · rw [projectWsprRunV3_cycles, projectWsprRunV3_cycles]
    apply Grown.map hcycles
    intro cycle hcycle
    obtain ⟨interval, hinterval, hready⟩ := (projectedState_sound h).occupied cycle hcycle
    have hlost := covers_of_later hintervals (readyIds_nodup hlater hnodup)
      ⟨interval, hinterval, hready.readyEventId⟩
    constructor
    · rfl
    · exact hlost
    · intro hended
      rw [Bool.eq_iff_iff]
      exact ⟨hlost, covers_later hintervals hended⟩
  · exact hintervals

end

end AntennaBench
