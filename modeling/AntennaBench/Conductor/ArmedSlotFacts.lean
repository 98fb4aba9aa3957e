import AntennaBench.Analysis.OperatorFacts
import AntennaBench.Conductor.SlotFacts
import AntennaBench.Core.Occupancy
import AntennaBench.Core.SignalPlan

/-!
# Slot facts of schema v3

The projection keeps the armed cycles of a slot beside its facts, and a clean run arms an
intent at most once.
-/

namespace AntennaBench

theorem slotFact?_isFact {slotId : String} {event : OperatorEvent} {fact : SlotFact}
    (h : event.slotFact? slotId = some fact) : event.isFact = true := by
  unfold OperatorEvent.slotFact? at h
  unfold OperatorEvent.isFact
  cases htype : event.eventType <;> simp_all

/-- The facts of a slot that the projection of the events keeps: its armed antennas and what
each fact is after its last correction to something other than a signal-state confirmation. -/
def projectedSlotFacts (events : List OperatorEventV3) (slotId : String) : List SlotFact :=
  (events.filterMap (projectedFact? events)).filterMap (·.slotFact? slotId)

theorem intoCurrent_slotFacts (bundle : BundleV3Contents)
    (h : (reduceOperatorEventsV3 .ready bundle.events).diagnostics = []) (slotId : String) :
    bundle.intoCurrent.bundle.events.filterMap (·.slotFact? slotId) =
      projectedSlotFacts bundle.events slotId := by
  rw [projectedSlotFacts, ← intoCurrent_operatorFacts bundle h, BundleContents.operatorFacts,
    List.filterMap_filter]
  apply List.filterMap_congr
  intro event _
  cases hfact : event.slotFact? slotId with
  | none => simp
  | some fact => rw [if_pos (slotFact?_isFact hfact)]

/-- The intent an event arms, with its antenna. -/
def OperatorEventV3.armedAntenna? (event : OperatorEventV3) : Option (String × String) :=
  match event.payload with
  | .wsprCycleArmed antennaLabel _ _ => event.slotId.map (·, antennaLabel)
  | _ => none

def ArmedWsprCycleV3.antenna (cycle : ArmedWsprCycleV3) : String × String :=
  (cycle.intentId, cycle.antennaLabel)

namespace ProjectionState

variable {schedule : ScheduleV3} {skipped : List String} {state : ProjectionState}
  {event : OperatorEventV3}

theorem armCycle_antennas {antennaLabel : String} {cycleStartsAt : DateTime}
    {source : Option String} (h : (armCycle schedule skipped state event antennaLabel cycleStartsAt
      source).diagnostics = []) :
    (armCycle schedule skipped state event antennaLabel cycleStartsAt source).cycles.map
        ArmedWsprCycleV3.antenna =
      state.cycles.map ArmedWsprCycleV3.antenna ++
        (event.slotId.map (·, antennaLabel)).toList := by
  unfold armCycle at h ⊢
  cases hslot : event.slotId with
  | none =>
    simp only [hslot] at h
    exact absurd h (report_diagnostics_ne _ _)
  | some intentId =>
    simp only [hslot] at h ⊢
    cases hintent : schedule.findIntent? intentId with
    | none =>
      simp only [hintent] at h
      exact absurd h (report_diagnostics_ne _ _)
    | some intent =>
      have hid : intent.intentId = intentId := by simpa using List.find?_some hintent
      simp only [hintent] at h ⊢
      split_ifs at h ⊢ with hseen horder
      · exact absurd h (report_diagnostics_ne _ _)
      · exact absurd h (report_diagnostics_ne _ _)
      cases hwindow : WsprCycleWindow.fromStart? cycleStartsAt with
      | none =>
        simp only [hwindow] at h
        exact absurd h (report_diagnostics_ne _ _)
      | some window =>
        simp only [hwindow] at h ⊢
        split_ifs at h ⊢ with hready
        · exact absurd h (report_diagnostics_ne _ _)
        · simp [ArmedWsprCycleV3.antenna, hid]

theorem closeOccupancy_cycles (state : ProjectionState) (event : OperatorEventV3) :
    (state.closeOccupancy event).cycles = state.cycles := by
  unfold closeOccupancy
  cases state.openOccupancy with
  | none => rfl
  | some interval =>
    dsimp only
    split_ifs <;> rfl

/-- A clean step arms the antenna its event names. -/
theorem step_antennas (h : (step schedule skipped state event).diagnostics = []) :
    (step schedule skipped state event).cycles.map ArmedWsprCycleV3.antenna =
      state.cycles.map ArmedWsprCycleV3.antenna ++ event.armedAntenna?.toList := by
  unfold step at h ⊢
  unfold OperatorEventV3.armedAntenna?
  split_ifs at h ⊢ with hcloses
  · rw [closeOccupancy_cycles]
    cases hpayload : event.payload <;> rw [hpayload] at hcloses <;>
      simp_all [OperatorEventPayloadV3.closesOccupancy]
  · cases hpayload : event.payload with
    | wsprCycleArmed antennaLabel cycleStartsAt readiness =>
      cases readiness with
      | none =>
        simp only [hpayload] at h ⊢
        rw [armCycle_antennas h, closeOccupancy_cycles]
      | some basis =>
        cases basis with
        | continued source =>
          simp only [hpayload] at h ⊢
          split_ifs at h ⊢ with hvalid
          · rw [armCycle_antennas h]
          · exact absurd h (report_diagnostics_ne _ _)
        | _ =>
          simp only [hpayload] at h ⊢
          rw [armCycle_antennas h, closeOccupancy_cycles]
    | _ => simp

theorem run_antennas {events : List OperatorEventV3}
    (h : (events.foldl (step schedule skipped) state).diagnostics = []) :
    (events.foldl (step schedule skipped) state).cycles.map ArmedWsprCycleV3.antenna =
      state.cycles.map ArmedWsprCycleV3.antenna ++
        events.filterMap OperatorEventV3.armedAntenna? := by
  induction events generalizing state with
  | nil => simp
  | cons event rest ih =>
    rw [List.foldl_cons] at h ⊢
    rw [ih h, step_antennas (diagnostics_of_foldl h), List.append_assoc, List.filterMap_cons]
    cases event.armedAntenna? <;> rfl

end ProjectionState

/-- The antennas that events arm for a slot. -/
def armedAntennas (events : List OperatorEventV3) (slotId : String) : List String :=
  ((events.filterMap OperatorEventV3.armedAntenna?).filter (·.1 == slotId)).map (·.2)

theorem runAntennas {schedule : ScheduleV3} {events : List OperatorEventV3}
    (h : (projectWsprRunV3 schedule events).diagnostics = []) :
    (events.foldl (ProjectionState.step schedule (skippedIntents schedule events))
      ⟨[], [], [], none, []⟩).cycles.map ArmedWsprCycleV3.antenna =
        events.filterMap OperatorEventV3.armedAntenna? := by
  have hrun := @ProjectionState.run_antennas schedule (skippedIntents schedule events)
    ⟨[], [], [], none, []⟩ events h
  rwa [List.map_nil, List.nil_append] at hrun

theorem projectWsprRunV3_antenna {schedule : ScheduleV3} {events : List OperatorEventV3}
    (h : (projectWsprRunV3 schedule events).diagnostics = []) (slotId : String) :
    ((projectWsprRunV3 schedule events).cycles.find? (·.intentId == slotId)).map
      (·.antennaLabel) = (armedAntennas events slotId).head? := by
  rw [armedAntennas, ← runAntennas h, projectWsprRunV3, List.find?_map, List.filter_map,
    List.map_map,
    List.head?_map, List.head?_filter, Option.map_map]
  rfl

namespace ProjectionState

variable {schedule : ScheduleV3} {skipped : List String}

/-- No two cycles are of one intent. -/
structure ArmsOnce (state : ProjectionState) : Prop where
  nodup : (state.cycles.map (·.intentId)).Nodup
  seen : ∀ cycle ∈ state.cycles, cycle.intentId ∈ state.seenIntents

theorem closeOccupancy_seen (state : ProjectionState) (event : OperatorEventV3) :
    (state.closeOccupancy event).seenIntents = state.seenIntents := by
  unfold closeOccupancy
  cases state.openOccupancy with
  | none => rfl
  | some interval =>
    dsimp only
    split_ifs <;> rfl

theorem ArmsOnce.closeOccupancy {state : ProjectionState} (h : state.ArmsOnce)
    (event : OperatorEventV3) : (state.closeOccupancy event).ArmsOnce := by
  constructor
  · rw [closeOccupancy_cycles]
    exact h.nodup
  · rw [closeOccupancy_cycles, closeOccupancy_seen]
    exact h.seen

theorem ArmsOnce.armCycle {state : ProjectionState} (h : state.ArmsOnce) (event : OperatorEventV3)
    (antennaLabel : String) (cycleStartsAt : DateTime) (source : Option String) :
    (armCycle schedule skipped state event antennaLabel cycleStartsAt source).ArmsOnce := by
  unfold ProjectionState.armCycle
  cases hslot : event.slotId with
  | none => exact ⟨h.nodup, h.seen⟩
  | some intentId =>
    dsimp only
    cases hintent : schedule.findIntent? intentId with
    | none => exact ⟨h.nodup, h.seen⟩
    | some intent =>
      have hid : intent.intentId = intentId := by simpa using List.find?_some hintent
      dsimp only
      by_cases hseen : state.seenIntents.contains intentId = true
      · rw [if_pos hseen]
        exact ⟨h.nodup, h.seen⟩
      rw [if_neg hseen]
      have hfresh : intentId ∉ state.seenIntents := by simpa using hseen
      have hmore : ∀ cycle ∈ state.cycles, cycle.intentId ∈ intentId :: state.seenIntents :=
        fun cycle hcycle => List.mem_cons_of_mem _ (h.seen cycle hcycle)
      split_ifs with horder
      · exact ⟨h.nodup, h.seen⟩
      cases hwindow : WsprCycleWindow.fromStart? cycleStartsAt with
      | none => exact ⟨h.nodup, hmore⟩
      | some window =>
        dsimp only
        split_ifs with hready
        · exact ⟨h.nodup, hmore⟩
        · constructor
          · dsimp only
            rw [List.map_append, List.map_singleton, List.nodup_append, hid]
            refine ⟨h.nodup, List.nodup_singleton _, ?_⟩
            intro other hother same hsame heq
            obtain ⟨cycle, hcycle, rfl⟩ := List.mem_map.1 hother
            have hid' : cycle.intentId = intentId := heq.trans (List.mem_singleton.1 hsame)
            exact hfresh (hid' ▸ h.seen cycle hcycle)
          · intro cycle hcycle
            rcases List.mem_append.1 hcycle with hold | hnew
            · exact hmore cycle hold
            · rw [List.mem_singleton.1 hnew]
              exact List.mem_cons.2 (Or.inl hid)

theorem ArmsOnce.step {state : ProjectionState} (h : state.ArmsOnce) (event : OperatorEventV3) :
    (step schedule skipped state event).ArmsOnce := by
  unfold ProjectionState.step
  split_ifs with hcloses
  · exact h.closeOccupancy event
  · have hclosed := h.closeOccupancy event
    cases hpayload : event.payload with
    | wsprCycleArmed antennaLabel cycleStartsAt readiness =>
      have hoccupied : ArmsOnce { state.closeOccupancy event with
          openOccupancy := some ⟨antennaLabel, event.occurredAt, none, event.eventId⟩ } :=
        ⟨hclosed.nodup, hclosed.seen⟩
      cases readiness with
      | none => exact hoccupied.armCycle event antennaLabel cycleStartsAt none
      | some basis =>
        cases basis with
        | continued source =>
          dsimp only
          split_ifs
          · exact h.armCycle event antennaLabel cycleStartsAt source
          · exact ⟨h.nodup, h.seen⟩
        | _ => exact hoccupied.armCycle event antennaLabel cycleStartsAt none
    | _ => exact h

theorem ArmsOnce.run {events : List OperatorEventV3} {state : ProjectionState}
    (h : state.ArmsOnce) :
    (events.foldl (ProjectionState.step schedule skipped) state).ArmsOnce := by
  induction events generalizing state with
  | nil => exact h
  | cons event rest ih => exact ih (h.step event)

end ProjectionState

theorem length_filter_of_nodup {α κ : Type} [BEq κ] [LawfulBEq κ] {key : α → κ} {items : List α}
    (h : (items.map key).Nodup) (k : κ) : (items.filter (key · == k)).length ≤ 1 := by
  have hcount := List.nodup_iff_count_le_one.1 h k
  rwa [List.count_eq_countP, List.countP_map, List.countP_eq_length_filter] at hcount

/-- A clean run arms an intent at most once. -/
theorem armedAntennas_length {schedule : ScheduleV3} {events : List OperatorEventV3}
    (h : (projectWsprRunV3 schedule events).diagnostics = []) (slotId : String) :
    (armedAntennas events slotId).length ≤ 1 := by
  have hinit : ProjectionState.ArmsOnce ⟨[], [], [], none, []⟩ := ⟨List.nodup_nil, by simp⟩
  have honce : ProjectionState.ArmsOnce (events.foldl
      (ProjectionState.step schedule (skippedIntents schedule events)) ⟨[], [], [], none, []⟩) :=
    hinit.run
  rw [armedAntennas, List.length_map]
  apply length_filter_of_nodup
  rw [← runAntennas h, List.map_map]
  exact honce.nodup

/-- What an event states after its last correction to something other than a signal-state
confirmation. -/
def keptFact? (events : List OperatorEventV3) (event : OperatorEventV3) : Option OperatorEvent :=
  match event.payload.correctable? with
  | none | some (.signalStateConfirmed _) => none
  | some payload =>
    ((projectedCorrections events event.eventId).map (correctedFact event.eventId)).getLast?.getD
      (originalFact event payload)

theorem armedFact?_correctable {event : OperatorEventV3}
    {payload : CorrectableOperatorEventPayloadV3} (h : event.payload.correctable? = some payload) :
    event.armedFact? = none := by
  unfold OperatorEventV3.armedFact?
  cases hpayload : event.payload with
  | wsprCycleArmed antennaLabel cycleStartsAt readiness =>
    rw [hpayload] at h
    cases h
  | _ => rfl

/-- The projection keeps the armed cycles, and of the facts what it sees of their corrections. -/
theorem projectedFact?_eq {events : List OperatorEventV3}
    (h : (reduceOperatorEventsV3 .ready events).diagnostics = []) {event : OperatorEventV3}
    (hevent : event ∈ events) :
    projectedFact? events event = (event.armedFact? <|> keptFact? events event) := by
  unfold keptFact?
  cases hcorrectable : event.payload.correctable? with
  | none =>
    rw [projectedFact?_uncorrectable h hevent hcorrectable, statedFact?,
      standingOf_uncorrectable hcorrectable]
    cases event.armedFact? <;> rfl
  | some payload =>
    rw [armedFact?_correctable hcorrectable, Option.orElse_eq_orElse, Option.orElse_none]
    cases payload with
    | signalStateConfirmed confirmation =>
      have hsignal : event.payload = .signalStateConfirmed confirmation := by
        cases hpayload : event.payload <;> rw [hpayload] at hcorrectable <;> cases hcorrectable
        rfl
      exact projectedFact?_signal hsignal
    | _ => exact projectedFact?_original hcorrectable rfl

theorem armedFact?_keptFact? (events : List OperatorEventV3) (event : OperatorEventV3) :
    event.armedFact? = none ∨ keptFact? events event = none := by
  cases hcorrectable : event.payload.correctable? with
  | none =>
    right
    rw [keptFact?, hcorrectable]
  | some payload => exact Or.inl (armedFact?_correctable hcorrectable)

theorem armedFacts_eq (events : List OperatorEventV3) (slotId : String) :
    (events.filterMap OperatorEventV3.armedFact?).filterMap (·.slotFact? slotId) =
      (armedAntennas events slotId).map .antenna := by
  unfold armedAntennas
  rw [List.filterMap_filterMap, List.map_map, ← List.filterMap_eq_map, List.filterMap_filter,
    List.filterMap_filterMap]
  apply List.filterMap_congr
  intro event _
  unfold OperatorEventV3.armedFact? OperatorEventV3.armedAntenna?
  cases hpayload : event.payload with
  | wsprCycleArmed antennaLabel cycleStartsAt readiness =>
    cases hslot : event.slotId with
    | none => simp [OperatorEvent.slotFact?, operatorFact]
    | some other =>
      by_cases hother : other = slotId <;> simp [OperatorEvent.slotFact?, operatorFact, hother]
  | _ => rfl

/-- What a correctable event states of a slot, as far as the projection sees its corrections. -/
def keptSlotFacts (events : List OperatorEventV3) (slotId : String) : List SlotFact :=
  (events.filterMap (keptFact? events)).filterMap (·.slotFact? slotId)

theorem projectedSlotFacts_perm {events : List OperatorEventV3}
    (h : (reduceOperatorEventsV3 .ready events).diagnostics = []) (slotId : String) :
    (projectedSlotFacts events slotId).Perm
      ((armedAntennas events slotId).map .antenna ++ keptSlotFacts events slotId) := by
  have hsplit : events.filterMap (projectedFact? events) =
      events.filterMap fun event => event.armedFact? <|> keptFact? events event :=
    List.filterMap_congr fun event hevent => projectedFact?_eq h hevent
  have hperm := filterMap_orElse_perm (f := OperatorEventV3.armedFact?) (g := keptFact? events)
    (l := events) fun event _ => armedFact?_keptFact? events event
  rw [projectedSlotFacts, hsplit, ← armedFacts_eq, keptSlotFacts, ← List.filterMap_append]
  exact (hperm.filterMap _)

/-- What an effective event states of a slot. -/
def EffectiveOperatorEventV3.factOf? (slotId : String) (event : EffectiveOperatorEventV3) :
    Option SlotFact :=
  if event.slotId = some slotId then event.payload.slotFact? else none

end AntennaBench
