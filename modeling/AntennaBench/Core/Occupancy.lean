import AntennaBench.Core.WsprRun
import AntennaBench.Timeline.Reigns

/-!
# Antenna occupancy

What the run projection returns, read off the events: the occupancies are the
reigns between antenna marks, and every armed event is one cycle. The clock is
compared only inside an occupancy, so the occupancies are exclusive exactly when
no readiness action goes back behind an earlier one.
-/

namespace AntennaBench

open Timeline

/-- An occupancy ends, or one begins for an antenna and its readiness event. -/
def OperatorEventV3.antennaMark? (event : OperatorEventV3) :
    Option (Mark DateTime (String × String)) :=
  if event.payload.closesOccupancy then some ⟨event.occurredAt, none⟩
  else match event.payload with
  | .wsprCycleArmed _ _ (some (.continued _)) => none
  | .wsprCycleArmed antennaLabel _ _ => some ⟨event.occurredAt, some (antennaLabel, event.eventId)⟩
  | _ => none

/-- The occupancies the events describe. -/
def occupancyReigns (events : List OperatorEventV3) : List (Reign DateTime (String × String)) :=
  reigns (events.filterMap OperatorEventV3.antennaMark?)

/-- A cycle an event arms: on an antenna, under a readiness event, at a start. -/
structure Arming where
  antennaLabel : String
  readyEventId : String
  cycleStartsAt : DateTime
  deriving DecidableEq

def OperatorEventV3.arming? (event : OperatorEventV3) : Option Arming :=
  match event.payload with
  | .wsprCycleArmed antennaLabel cycleStartsAt (some (.continued sourceReadyEventId)) =>
    some ⟨antennaLabel, sourceReadyEventId, cycleStartsAt⟩
  | .wsprCycleArmed antennaLabel cycleStartsAt _ =>
    some ⟨antennaLabel, event.eventId, cycleStartsAt⟩
  | _ => none

/-- The length of a transmission. -/
def wsprTransmission : ℤ := wsprTransmissionMilliseconds * DateTime.nanosPerMilli

/-- One of the occupancies belongs to the arming and lasts for its transmission. -/
def Arming.CoveredBy (arming : Arming) (rs : List (Reign DateTime (String × String))) : Prop :=
  ∃ r ∈ rs, r.holder = (arming.antennaLabel, arming.readyEventId) ∧
    r.start ≤ arming.cycleStartsAt ∧ ∀ s ∈ r.stop, arming.cycleStartsAt + wsprTransmission ≤ s

/-- No readiness action goes back behind an earlier occupancy, and no cycle its
occupancy covers is armed twice. -/
structure OrderlyReadiness (events : List OperatorEventV3) : Prop where
  forwards : (occupancyReigns events).Pairwise Reign.Precedes
  once : (events.filterMap OperatorEventV3.arming?).Pairwise fun a b =>
    a = b → ¬a.CoveredBy (occupancyReigns events)

/-- The instant lies in the half-open interval. -/
def AntennaOccupancyIntervalV3.Covers (interval : AntennaOccupancyIntervalV3) (t : DateTime) :
    Prop :=
  interval.startsAt ≤ t ∧ ∀ s ∈ interval.endsAt, t < s

/-- The instant lies in the transmission window. -/
def WsprCycleWindow.Transmits (window : WsprCycleWindow) (t : DateTime) : Prop :=
  window.startsAt ≤ t ∧ t < window.transmissionEndsAt

/-- The time test of `repair_confirmed_wspr_live_observations`: the nominal start
offset is subtracted from the start of the window. -/
def ArmedWsprCycleV3.matchesSourceTime (cycle : ArmedWsprCycleV3) (sourceTime : DateTime) : Bool :=
  (DateTime.checkedAdd cycle.window.startsAt
      (-(wsprNominalStartOffsetSeconds * DateTime.nanosPerSecond))).any (· ≤ sourceTime) &&
    sourceTime < cycle.window.transmissionEndsAt

/-- At every instant at most one antenna and at most one covered cycle is credited. -/
structure WsprRunProjectionV3.Exclusive (projection : WsprRunProjectionV3) : Prop where
  occupancies : projection.occupancies.Pairwise fun a b =>
    a.startsAt ≤ b.startsAt ∧ ∀ t, ¬(a.Covers t ∧ b.Covers t)
  covered : ∀ cycle ∈ projection.cycles, cycle.occupancyFullyCoversTransmission = true →
    ∃ interval ∈ projection.occupancies, interval.antennaLabel = cycle.antennaLabel ∧
      ∀ t, cycle.window.Transmits t → interval.Covers t
  windows : (projection.cycles.filter (·.occupancyFullyCoversTransmission)).Pairwise fun a b =>
    ∀ t, ¬(a.window.Transmits t ∧ b.window.Transmits t)
  antenna : ∀ t, ∀ a ∈ projection.occupancies, ∀ b ∈ projection.occupancies,
    a.Covers t → b.Covers t → a.antennaLabel = b.antennaLabel
  rows : (projection.cycles.filter (·.occupancyFullyCoversTransmission)).Pairwise fun a b =>
    ∀ t, ¬(a.matchesSourceTime t = true ∧ b.matchesSourceTime t = true)

theorem WsprCycleWindow.fromStart?_eq_some {startsAt : DateTime} {window : WsprCycleWindow}
    (h : WsprCycleWindow.fromStart? startsAt = some window) :
    isWsprCycleStart startsAt = true ∧ window.startsAt = startsAt ∧
      window.transmissionEndsAt = startsAt + wsprTransmission := by
  simp only [fromStart?, Option.bind_eq_bind, Option.bind_eq_some_iff, guard, DateTime.checkedAdd,
    Option.pure_def, Option.failure_eq_none, Option.some.injEq, Option.ite_none_right_eq_some] at h
  obtain ⟨_, ⟨hstart, -⟩, _, ⟨-, rfl⟩, _, -, rfl⟩ := h
  exact ⟨hstart, rfl, rfl⟩

/-- The interval of a reign. -/
def intervalOf (reign : Reign DateTime (String × String)) : AntennaOccupancyIntervalV3 where
  antennaLabel := reign.holder.1
  startsAt := reign.start
  endsAt := reign.stop
  readyEventId := reign.holder.2

def AntennaOccupancyIntervalV3.endingAt (interval : AntennaOccupancyIntervalV3)
    (endsAt : Option DateTime) : AntennaOccupancyIntervalV3 :=
  { interval with endsAt }

/-- What a cycle says about its arming. -/
def ArmedWsprCycleV3.arming (cycle : ArmedWsprCycleV3) : Arming :=
  ⟨cycle.antennaLabel, cycle.readyEventId, cycle.window.startsAt⟩

namespace ProjectionState

variable {schedule : ScheduleV3} {skipped : List String} {state : ProjectionState}
  {event : OperatorEventV3}

theorem report_diagnostics_ne (code : String) (message : String) :
    (state.report code event message).diagnostics ≠ [] := by
  simp [report]

/-- An occupancy closed without a diagnostic ends where the event happened. -/
theorem closeOccupancy_clean (h : (state.closeOccupancy event).diagnostics = []) :
    state.diagnostics = [] ∧ (∀ interval ∈ state.openOccupancy,
        interval.startsAt ≤ event.occurredAt) ∧
      state.closeOccupancy event = { state with
        openOccupancy := none
        occupancies := state.occupancies ++
          (state.openOccupancy.map (·.endingAt event.occurredAt)).toList } := by
  unfold closeOccupancy at h ⊢
  cases hopen : state.openOccupancy with
  | none =>
    rw [hopen] at h
    refine ⟨h, by simp, ?_⟩
    cases state
    simp_all
  | some interval =>
    simp only [hopen] at h ⊢
    split_ifs at h ⊢ with hback
    · exact absurd h (by simp [report])
    · exact ⟨h, by simpa using hback, by simp [AntennaOccupancyIntervalV3.endingAt]⟩

/-- A cycle armed without a diagnostic joins the cycles with its arming. -/
theorem armCycle_clean {antennaLabel : String} {cycleStartsAt : DateTime}
    {source : Option String}
    (h : (armCycle schedule skipped state event antennaLabel cycleStartsAt source).diagnostics =
      []) :
    state.diagnostics = [] ∧ ∃ cycle seenIntents,
      WsprCycleWindow.fromStart? cycleStartsAt = some cycle.window ∧
      cycle.arming = ⟨antennaLabel, source.getD event.eventId, cycleStartsAt⟩ ∧
      armCycle schedule skipped state event antennaLabel cycleStartsAt source = { state with
        cycles := state.cycles ++ [cycle], seenIntents } := by
  unfold armCycle at h ⊢
  cases hslot : event.slotId with
  | none =>
    simp only [hslot] at h
    exact absurd h (report_diagnostics_ne _ _)
  | some intentId =>
    simp only [hslot] at h ⊢
    cases hintent : schedule.findIntent? intentId with
    | none =>
      simp only [hintent] at h
      exact absurd h (report_diagnostics_ne _ _)
    | some intent =>
      simp only [hintent] at h ⊢
      split_ifs at h ⊢ with hseen horder
      · exact absurd h (report_diagnostics_ne _ _)
      · exact absurd h (report_diagnostics_ne _ _)
      cases hwindow : WsprCycleWindow.fromStart? cycleStartsAt with
      | none =>
        simp only [hwindow] at h
        exact absurd h (report_diagnostics_ne _ _)
      | some window =>
        simp only [hwindow] at h ⊢
        split_ifs at h ⊢ with hready
        · exact absurd h (report_diagnostics_ne _ _)
        · have hstart := (WsprCycleWindow.fromStart?_eq_some hwindow).2.1
          exact ⟨h, _, _, rfl, by simp [ArmedWsprCycleV3.arming, hstart], rfl⟩

/-- The loop state after an event without a diagnostic: a mark ends the open
occupancy and may begin one, and an arming adds its cycle. -/
structure Advances (event : OperatorEventV3) (state next : ProjectionState) : Prop where
  diagnostics : state.diagnostics = []
  occupancies : next.occupancies = state.occupancies ++ if event.antennaMark?.isSome then
    (state.openOccupancy.map (·.endingAt event.occurredAt)).toList else []
  openOccupancy : next.openOccupancy = match event.antennaMark? with
    | none => state.openOccupancy
    | some mark => (mark.reign? []).map intervalOf
  forward : event.antennaMark?.isSome →
    ∀ interval ∈ state.openOccupancy, interval.startsAt ≤ event.occurredAt
  cycles : next.cycles.map ArmedWsprCycleV3.arming =
    state.cycles.map ArmedWsprCycleV3.arming ++ event.arming?.toList
  windows : (∀ cycle ∈ state.cycles,
      WsprCycleWindow.fromStart? cycle.window.startsAt = some cycle.window) →
    ∀ cycle ∈ next.cycles, WsprCycleWindow.fromStart? cycle.window.startsAt = some cycle.window

theorem advances_self (hmark : event.antennaMark? = none) (harming : event.arming? = none)
    (h : state.diagnostics = []) : Advances event state state where
  diagnostics := h
  occupancies := by simp [hmark]
  openOccupancy := by simp [hmark]
  forward := by simp [hmark]
  cycles := by simp [harming]
  windows := id

theorem closeOccupancy_advances
    (hmark : event.antennaMark? = some ⟨event.occurredAt, none⟩) (harming : event.arming? = none)
    (h : (state.closeOccupancy event).diagnostics = []) :
    Advances event state (state.closeOccupancy event) := by
  obtain ⟨hstate, hforward, hclose⟩ := closeOccupancy_clean h
  rw [hclose]
  exact {
    diagnostics := hstate
    occupancies := by simp [hmark]
    openOccupancy := by simp [hmark, Mark.reign?]
    forward := fun _ => hforward
    cycles := by simp [harming]
    windows := id }

/-- A cycle joins under the readiness that is open already. -/
theorem armContinued_advances {antennaLabel source : String} {cycleStartsAt : DateTime}
    (hmark : event.antennaMark? = none)
    (harming : event.arming? = some ⟨antennaLabel, source, cycleStartsAt⟩)
    (h : (armCycle schedule skipped state event antennaLabel cycleStartsAt
      (some source)).diagnostics = []) :
    Advances event state
      (armCycle schedule skipped state event antennaLabel cycleStartsAt (some source)) := by
  obtain ⟨hstate, cycle, seenIntents, hwindow, hcycle, harm⟩ := armCycle_clean h
  have hstart : cycle.window.startsAt = cycleStartsAt := congrArg Arming.cycleStartsAt hcycle
  rw [harm]
  refine {
    diagnostics := hstate
    occupancies := by simp [hmark]
    openOccupancy := by simp [hmark]
    forward := by simp [hmark]
    cycles := by simp [harming, hcycle]
    windows := fun hall other hother => ?_ }
  rcases List.mem_append.1 hother with hold | hnew
  · exact hall other hold
  · obtain rfl := List.mem_singleton.1 hnew
    rwa [hstart]

/-- A cycle joins under the readiness of its own event. -/
theorem armReady_advances {antennaLabel : String} {cycleStartsAt : DateTime}
    (hmark : event.antennaMark? = some ⟨event.occurredAt, some (antennaLabel, event.eventId)⟩)
    (harming : event.arming? = some ⟨antennaLabel, event.eventId, cycleStartsAt⟩)
    {opened : ProjectionState}
    (hopened : opened = { state.closeOccupancy event with
      openOccupancy := some ⟨antennaLabel, event.occurredAt, none, event.eventId⟩ })
    (h : (armCycle schedule skipped opened event antennaLabel cycleStartsAt none).diagnostics =
      []) :
    Advances event state
      (armCycle schedule skipped opened event antennaLabel cycleStartsAt none) := by
  obtain ⟨hdiagnostics, cycle, seenIntents, hwindow, hcycle, harm⟩ := armCycle_clean h
  have hclean : (state.closeOccupancy event).diagnostics = [] := by rwa [hopened] at hdiagnostics
  obtain ⟨hstate, hforward, hclose⟩ := closeOccupancy_clean hclean
  have hstart : cycle.window.startsAt = cycleStartsAt := congrArg Arming.cycleStartsAt hcycle
  rw [harm, hopened, hclose]
  refine {
    diagnostics := hstate
    occupancies := by simp [hmark]
    openOccupancy := by simp [hmark, Mark.reign?, intervalOf]
    forward := fun _ => hforward
    cycles := by simp [harming, hcycle]
    windows := fun hall other hother => ?_ }
  rcases List.mem_append.1 hother with hold | hnew
  · exact hall other hold
  · obtain rfl := List.mem_singleton.1 hnew
    rwa [hstart]

theorem step_advances (h : (step schedule skipped state event).diagnostics = []) :
    Advances event state (step schedule skipped state event) := by
  unfold step at h ⊢
  split_ifs at h ⊢ with hcloses
  · refine closeOccupancy_advances (by simp [OperatorEventV3.antennaMark?, hcloses]) ?_ h
    cases hpayload : event.payload <;>
      simp_all [OperatorEventV3.arming?, OperatorEventPayloadV3.closesOccupancy]
  · cases hpayload : event.payload with
    | wsprCycleArmed antennaLabel cycleStartsAt readiness =>
      cases readiness with
      | none =>
        simp only [hpayload] at h ⊢
        refine armReady_advances ?_ ?_ rfl h <;>
          simp [OperatorEventV3.antennaMark?, OperatorEventV3.arming?, hpayload,
            OperatorEventPayloadV3.closesOccupancy]
      | some basis =>
        cases basis with
        | continued source =>
          simp only [hpayload] at h ⊢
          split_ifs at h ⊢ with hvalid
          · refine armContinued_advances ?_ ?_ h <;>
              simp [OperatorEventV3.antennaMark?, OperatorEventV3.arming?, hpayload,
                OperatorEventPayloadV3.closesOccupancy]
          · exact absurd h (report_diagnostics_ne _ _)
        | _ =>
          simp only [hpayload] at h ⊢
          refine armReady_advances ?_ ?_ rfl h <;>
            simp [OperatorEventV3.antennaMark?, OperatorEventV3.arming?, hpayload,
              OperatorEventPayloadV3.closesOccupancy]
    | _ =>
      simp only [hpayload] at h ⊢
      refine advances_self ?_ ?_ h <;>
        simp_all [OperatorEventV3.antennaMark?, OperatorEventV3.arming?,
          OperatorEventPayloadV3.closesOccupancy]

/-- What the open occupancy becomes when these marks follow. -/
def openInterval (state : ProjectionState) (marks : List (Mark DateTime (String × String))) :
    Option AntennaOccupancyIntervalV3 :=
  state.openOccupancy.map (·.endingAt (marks.head?.map Mark.time))

theorem mark_time {mark : Mark DateTime (String × String)} (h : event.antennaMark? = some mark) :
    mark.time = event.occurredAt := by
  unfold OperatorEventV3.antennaMark? at h
  split_ifs at h
  · cases h
    rfl
  · split at h <;> cases h
    rfl

/-- The loop without diagnostics: the occupancies are the reigns of the marks, and
the cycles are the armings. -/
structure Completes (events : List OperatorEventV3) (state final : ProjectionState) : Prop where
  diagnostics : state.diagnostics = []
  occupancies : final.occupancies ++ final.openOccupancy.toList = state.occupancies ++
    ((state.openInterval (events.filterMap OperatorEventV3.antennaMark?)).toList ++
      (occupancyReigns events).map intervalOf)
  cycles : final.cycles.map ArmedWsprCycleV3.arming =
    state.cycles.map ArmedWsprCycleV3.arming ++ events.filterMap OperatorEventV3.arming?
  head : ∀ mark ∈ (events.filterMap OperatorEventV3.antennaMark?).head?,
    ∀ interval ∈ state.openOccupancy, interval.startsAt ≤ mark.time
  forward : ∀ r ∈ occupancyReigns events, r.Forward
  windows : (∀ cycle ∈ state.cycles,
      WsprCycleWindow.fromStart? cycle.window.startsAt = some cycle.window) →
    ∀ cycle ∈ final.cycles, WsprCycleWindow.fromStart? cycle.window.startsAt = some cycle.window

theorem completes_nil (h : state.diagnostics = [])
    (hopen : ∀ interval ∈ state.openOccupancy, interval.endsAt = none) :
    Completes [] state state where
  diagnostics := h
  occupancies := by
    cases hoccupancy : state.openOccupancy with
    | none => simp [openInterval, hoccupancy, occupancyReigns, reigns]
    | some interval =>
      have hends := hopen interval hoccupancy
      simp [openInterval, hoccupancy, occupancyReigns, reigns,
        AntennaOccupancyIntervalV3.endingAt, ← hends]
  cycles := by simp
  head := by simp
  forward := by simp [occupancyReigns, reigns]
  windows := id

theorem completes_cons {rest : List OperatorEventV3} {next final : ProjectionState}
    (hstep : Advances event state next) (hrest : Completes rest next final) :
    Completes (event :: rest) state final := by
  have hcycles : final.cycles.map ArmedWsprCycleV3.arming =
      state.cycles.map ArmedWsprCycleV3.arming ++
        (event :: rest).filterMap OperatorEventV3.arming? := by
    rw [hrest.cycles, hstep.cycles, List.filterMap_cons, List.append_assoc]
    cases event.arming? <;> rfl
  have hwindows := fun h => hrest.windows (hstep.windows h)
  cases hmark : event.antennaMark? with
  | none =>
    have hmarks : (event :: rest).filterMap OperatorEventV3.antennaMark? =
        rest.filterMap OperatorEventV3.antennaMark? := List.filterMap_cons_none hmark
    have hreigns : occupancyReigns (event :: rest) = occupancyReigns rest := by
      rw [occupancyReigns, hmarks, occupancyReigns]
    have hopen : next.openOccupancy = state.openOccupancy := by
      simpa [hmark] using hstep.openOccupancy
    have hoccupancies : next.occupancies = state.occupancies := by
      simpa [hmark] using hstep.occupancies
    refine ⟨hstep.diagnostics, ?_, hcycles, ?_, hreigns ▸ hrest.forward, hwindows⟩
    · rw [hrest.occupancies, hoccupancies, hmarks, hreigns, openInterval, hopen, openInterval]
    · rw [hmarks, ← hopen]
      exact hrest.head
  | some mark =>
    have htime := mark_time hmark
    have hmarks : (event :: rest).filterMap OperatorEventV3.antennaMark? =
        mark :: rest.filterMap OperatorEventV3.antennaMark? := List.filterMap_cons_some hmark
    have hreigns : occupancyReigns (event :: rest) =
        (mark.reign? (rest.filterMap OperatorEventV3.antennaMark?)).toList ++
          occupancyReigns rest := by
      rw [occupancyReigns, hmarks]
      rfl
    have hopen : next.openOccupancy = (mark.reign? []).map intervalOf := by
      simpa [hmark] using hstep.openOccupancy
    have hoccupancies : next.occupancies = state.occupancies ++
        (state.openOccupancy.map (·.endingAt event.occurredAt)).toList := by
      simpa [hmark] using hstep.occupancies
    refine ⟨hstep.diagnostics, ?_, hcycles, ?_, ?_, hwindows⟩
    · rw [hrest.occupancies, hoccupancies, hmarks, hreigns, openInterval, hopen, openInterval]
      obtain ⟨time, holder⟩ := mark
      cases holder <;> cases state.openOccupancy <;>
        simp_all [Mark.reign?, intervalOf, AntennaOccupancyIntervalV3.endingAt]
    · rw [hmarks]
      rintro m hm interval hinterval
      obtain rfl := Option.some.inj hm
      rw [htime]
      exact hstep.forward (by simp [hmark]) interval hinterval
    · rw [hreigns]
      intro r hr
      rcases List.mem_append.1 hr with hnew | hold
      · obtain ⟨holder, hholder, rfl⟩ := Option.map_eq_some_iff.1 (Option.mem_toList.1 hnew)
        intro t ht
        obtain ⟨m, hm, rfl⟩ := Option.map_eq_some_iff.1 ht
        refine hrest.head m hm (intervalOf ⟨holder, mark.time, none⟩) ?_
        rw [hopen]
        simp [Mark.reign?, hholder]
      · exact hrest.forward r hold

/-- Diagnostics stay once they are reported. -/
theorem diagnostics_of_step (h : (step schedule skipped state event).diagnostics = []) :
    state.diagnostics = [] :=
  (step_advances h).diagnostics

theorem diagnostics_of_foldl {events : List OperatorEventV3}
    (h : (events.foldl (step schedule skipped) state).diagnostics = []) :
    state.diagnostics = [] := by
  induction events generalizing state with
  | nil => exact h
  | cons event rest ih => exact diagnostics_of_step (ih h)

/-- The loop without diagnostics, by induction on the events. -/
theorem run_completes {events : List OperatorEventV3}
    (h : (events.foldl (step schedule skipped) state).diagnostics = [])
    (hopen : ∀ interval ∈ state.openOccupancy, interval.endsAt = none) :
    Completes events state (events.foldl (step schedule skipped) state) := by
  induction events generalizing state with
  | nil => exact completes_nil h hopen
  | cons event rest ih =>
    rw [List.foldl_cons] at h ⊢
    have hstep := step_advances (diagnostics_of_foldl h)
    refine completes_cons hstep (ih h ?_)
    rw [hstep.openOccupancy]
    cases event.antennaMark? with
    | none => exact hopen
    | some mark =>
      intro interval hinterval
      obtain ⟨reign, hreign, rfl⟩ := Option.map_eq_some_iff.1 hinterval
      obtain ⟨holder, -, rfl⟩ := Option.map_eq_some_iff.1 hreign
      rfl

end ProjectionState

section

variable {schedule : ScheduleV3} {events : List OperatorEventV3}

theorem projectWsprRunV3_completes (h : (projectWsprRunV3 schedule events).diagnostics = []) :
    ProjectionState.Completes events ⟨[], [], [], none, []⟩ (events.foldl
      (ProjectionState.step schedule (skippedIntents schedule events)) ⟨[], [], [], none, []⟩) :=
  ProjectionState.run_completes h (by simp)

theorem projectWsprRunV3_occupancies (h : (projectWsprRunV3 schedule events).diagnostics = []) :
    (projectWsprRunV3 schedule events).occupancies = (occupancyReigns events).map intervalOf := by
  have hall := (projectWsprRunV3_completes h).occupancies
  simp only [ProjectionState.openInterval, Option.map_none, Option.toList_none,
    List.nil_append] at hall
  exact hall

theorem projectWsprRunV3_armings (h : (projectWsprRunV3 schedule events).diagnostics = []) :
    (projectWsprRunV3 schedule events).cycles.map ArmedWsprCycleV3.arming =
      events.filterMap OperatorEventV3.arming? := by
  have hcycles := (projectWsprRunV3_completes h).cycles
  simp only [List.map_nil, List.nil_append] at hcycles
  rw [← hcycles, projectWsprRunV3, List.map_map]
  rfl

/-- A cycle of the projection has the window of its start. -/
theorem projectWsprRunV3_window (h : (projectWsprRunV3 schedule events).diagnostics = [])
    {cycle : ArmedWsprCycleV3} (hcycle : cycle ∈ (projectWsprRunV3 schedule events).cycles) :
    isWsprCycleStart cycle.window.startsAt = true ∧
      cycle.window.transmissionEndsAt = cycle.window.startsAt + wsprTransmission := by
  obtain ⟨armed, harmed, rfl⟩ := List.mem_map.1 hcycle
  have hwindow := (projectWsprRunV3_completes h).windows (by simp) armed harmed
  obtain ⟨hstart, -, hend⟩ := WsprCycleWindow.fromStart?_eq_some hwindow
  exact ⟨hstart, hend⟩

theorem occupancyCovers_eq_true {rs : List (Reign DateTime (String × String))}
    {cycle : ArmedWsprCycleV3}
    (hend : cycle.window.transmissionEndsAt = cycle.window.startsAt + wsprTransmission) :
    occupancyCovers (rs.map intervalOf) cycle = true ↔ cycle.arming.CoveredBy rs := by
  simp only [occupancyCovers, List.any_map, List.any_eq_true, Function.comp_apply,
    Bool.and_eq_true, beq_iff_eq, Arming.CoveredBy, intervalOf, ArmedWsprCycleV3.arming,
    Prod.ext_iff, ← hend]
  refine exists_congr fun r => and_congr_right fun _ => ?_
  rw [and_assoc, @and_comm (r.holder.1 = _)]
  refine and_congr_right fun _ => and_congr decide_eq_true_iff ?_
  cases r.stop <;> simp

/-- A cycle is marked as fully covered exactly when an occupancy covers its arming. -/
theorem projectWsprRunV3_covered_iff (h : (projectWsprRunV3 schedule events).diagnostics = [])
    {cycle : ArmedWsprCycleV3} (hcycle : cycle ∈ (projectWsprRunV3 schedule events).cycles) :
    cycle.occupancyFullyCoversTransmission = true ↔
      cycle.arming.CoveredBy (occupancyReigns events) := by
  have hend := (projectWsprRunV3_window h hcycle).2
  rw [← occupancyCovers_eq_true hend, ← projectWsprRunV3_occupancies h]
  obtain ⟨armed, -, rfl⟩ := List.mem_map.1 hcycle
  rfl

/-- Cycle starts less than a cycle apart are one. -/
theorem isWsprCycleStart_eq {a b : DateTime} (ha : isWsprCycleStart a = true)
    (hb : isWsprCycleStart b = true) (hab : a < b + wsprCycleSeconds * DateTime.nanosPerSecond)
    (hba : b < a + wsprCycleSeconds * DateTime.nanosPerSecond) : a = b := by
  have hint : ∀ x y : ℤ, x % 1000000000 = 0 → x / 1000000000 % 120 = 1 → y % 1000000000 = 0 →
      y / 1000000000 % 120 = 1 → x < y + 120 * 1000000000 → y < x + 120 * 1000000000 → x = y := by
    intro x y
    omega
  simp only [isWsprCycleStart, Bool.and_eq_true, beq_iff_eq] at ha hb
  exact hint a b ha.1 ha.2 hb.1 hb.2 hab hba

theorem occupancies_pairwise_iff (h : (projectWsprRunV3 schedule events).diagnostics = []) :
    ((projectWsprRunV3 schedule events).occupancies.Pairwise fun a b =>
        a.startsAt ≤ b.startsAt ∧ ∀ t, ¬(a.Covers t ∧ b.Covers t)) ↔
      (occupancyReigns events).Pairwise Reign.Precedes := by
  rw [projectWsprRunV3_occupancies h, List.pairwise_map]
  refine List.Pairwise.iff_of_mem fun {a b} _ hb => ?_
  exact (Reign.precedes_iff ((projectWsprRunV3_completes h).forward b hb)).symm

theorem wsprTransmission_pos : 0 < wsprTransmission := by decide

/-- Two covered cycles that start less than a cycle apart are one arming. -/
theorem arming_eq_of_covered (h : (projectWsprRunV3 schedule events).diagnostics = [])
    (hforwards : (occupancyReigns events).Pairwise Reign.Precedes) {c d : ArmedWsprCycleV3}
    (hc : c ∈ (projectWsprRunV3 schedule events).cycles)
    (hd : d ∈ (projectWsprRunV3 schedule events).cycles)
    (hcovered : c.occupancyFullyCoversTransmission = true)
    (hdcovered : d.occupancyFullyCoversTransmission = true)
    (hcd : c.window.startsAt < d.window.startsAt + wsprCycleSeconds * DateTime.nanosPerSecond)
    (hdc : d.window.startsAt < c.window.startsAt + wsprCycleSeconds * DateTime.nanosPerSecond) :
    c.arming = d.arming := by
  have hstart : c.window.startsAt = d.window.startsAt :=
    isWsprCycleStart_eq (projectWsprRunV3_window h hc).1 (projectWsprRunV3_window h hd).1 hcd hdc
  have hcovers : ∀ {r : Reign DateTime (String × String)} {start : DateTime}, r.start ≤ start →
      (∀ s ∈ r.stop, start + wsprTransmission ≤ s) → r.Covers start := fun hle hend =>
    ⟨hle, fun s hs => lt_of_lt_of_le (lt_add_of_pos_right _ wsprTransmission_pos) (hend s hs)⟩
  obtain ⟨r, hr, hrholder, hrstart, hrend⟩ := (projectWsprRunV3_covered_iff h hc).1 hcovered
  obtain ⟨q, hq, hqholder, hqstart, hqend⟩ := (projectWsprRunV3_covered_iff h hd).1 hdcovered
  have hrc : r.Covers d.window.startsAt := hstart ▸ hcovers hrstart hrend
  have heq : r = q := eq_of_covers (projectWsprRunV3_completes h).forward hforwards hr hq hrc
    (hcovers hqstart hqend)
  have hholder := hrholder.symm.trans (heq ▸ hqholder)
  obtain ⟨hlabel, hready⟩ := Prod.ext_iff.1 hholder
  exact (Arming.mk.injEq ..).mpr ⟨hlabel, hready, hstart⟩

/-- A source time a cycle matches lies less than a cycle after its nominal start. -/
theorem matchesSourceTime_bounds {cycle : ArmedWsprCycleV3} {t : DateTime}
    (hend : cycle.window.transmissionEndsAt = cycle.window.startsAt + wsprTransmission)
    (h : cycle.matchesSourceTime t = true) :
    cycle.window.startsAt - 1000000000 ≤ t ∧ t < cycle.window.startsAt + 110592000000 := by
  simp only [ArmedWsprCycleV3.matchesSourceTime, Bool.and_eq_true, decide_eq_true_eq,
    DateTime.checkedAdd, hend] at h
  obtain ⟨hstart, hlast⟩ := h
  split_ifs at hstart with hrange
  · refine ⟨?_, hlast⟩
    simpa [wsprNominalStartOffsetSeconds, DateTime.nanosPerSecond, sub_eq_add_neg] using hstart
  · simp at hstart

theorem transmits_bounds {cycle : ArmedWsprCycleV3} {t : DateTime}
    (hend : cycle.window.transmissionEndsAt = cycle.window.startsAt + wsprTransmission)
    (h : cycle.window.Transmits t) :
    cycle.window.startsAt - 1000000000 ≤ t ∧ t < cycle.window.startsAt + 110592000000 := by
  obtain ⟨hstart, hlast⟩ := h
  rw [hend] at hlast
  exact ⟨(sub_le_self _ (by decide)).trans hstart, hlast⟩

/-- Cycles whose windows, the nominal offset included, share an instant start less
than a cycle apart. -/
theorem starts_near {a b t : ℤ} (ha : a - 1000000000 ≤ t ∧ t < a + 110592000000)
    (hb : b - 1000000000 ≤ t ∧ t < b + 110592000000) :
    a < b + wsprCycleSeconds * DateTime.nanosPerSecond := by
  have hcycle : wsprCycleSeconds * DateTime.nanosPerSecond = 120000000000 := rfl
  rw [hcycle]
  omega

/-- Covered cycles that are armed once each are apart in every relation that makes
them start less than a cycle apart. -/
theorem covered_pairwise (h : (projectWsprRunV3 schedule events).diagnostics = [])
    (horderly : OrderlyReadiness events) (R : ArmedWsprCycleV3 → DateTime → Prop)
    (hR : ∀ cycle ∈ (projectWsprRunV3 schedule events).cycles, ∀ t, R cycle t →
      cycle.window.startsAt - 1000000000 ≤ t ∧ t < cycle.window.startsAt + 110592000000) :
    ((projectWsprRunV3 schedule events).cycles.filter
      (·.occupancyFullyCoversTransmission)).Pairwise fun a b => ∀ t, ¬(R a t ∧ R b t) := by
  have honce := horderly.once
  rw [← projectWsprRunV3_armings h, List.pairwise_map] at honce
  rw [List.pairwise_filter]
  refine honce.imp_of_mem fun {c d} hc hd hdistinct hccovered hdcovered t hboth => ?_
  have hcbounds := hR c hc t hboth.1
  have hdbounds := hR d hd t hboth.2
  have harming := arming_eq_of_covered h horderly.forwards hc hd hccovered hdcovered
    (starts_near hcbounds hdbounds) (starts_near hdbounds hcbounds)
  exact hdistinct harming ((projectWsprRunV3_covered_iff h hc).1 hccovered)

/-- The occupancies, the covered cycles and the rows they can match are exclusive
exactly when readiness was recorded in order. -/
theorem projectWsprRunV3_exclusive_iff
    (h : (projectWsprRunV3 schedule events).diagnostics = []) :
    (projectWsprRunV3 schedule events).Exclusive ↔ OrderlyReadiness events := by
  have hend : ∀ cycle ∈ (projectWsprRunV3 schedule events).cycles,
      cycle.window.transmissionEndsAt = cycle.window.startsAt + wsprTransmission :=
    fun cycle hcycle => (projectWsprRunV3_window h hcycle).2
  constructor
  · intro hexclusive
    refine ⟨(occupancies_pairwise_iff h).1 hexclusive.occupancies, ?_⟩
    have hwindows := hexclusive.windows
    rw [List.pairwise_filter] at hwindows
    rw [← projectWsprRunV3_armings h, List.pairwise_map]
    refine hwindows.imp_of_mem fun {c d} hc hd hapart hsame hcovered => ?_
    have hccovered := (projectWsprRunV3_covered_iff h hc).2 hcovered
    have hdcovered := (projectWsprRunV3_covered_iff h hd).2 (hsame ▸ hcovered)
    have hstart : c.window.startsAt = d.window.startsAt := congrArg Arming.cycleStartsAt hsame
    have hlt : c.window.startsAt < c.window.startsAt + wsprTransmission :=
      lt_add_of_pos_right _ wsprTransmission_pos
    refine hapart hccovered hdcovered c.window.startsAt ⟨⟨le_rfl, ?_⟩, hstart.ge, ?_⟩
    · rwa [hend c hc]
    · rwa [hend d hd, ← hstart]
  · intro horderly
    have hpairs := (occupancies_pairwise_iff h).2 horderly.forwards
    refine ⟨hpairs, fun cycle hcycle hcovered => ?_, ?_, fun t a ha b hb hat hbt => ?_, ?_⟩
    · obtain ⟨r, hr, hholder, hstart, hlast⟩ := (projectWsprRunV3_covered_iff h hcycle).1 hcovered
      refine ⟨intervalOf r, ?_, congrArg Prod.fst hholder, fun t ht => ⟨?_, fun s hs => ?_⟩⟩
      · rw [projectWsprRunV3_occupancies h]
        exact List.mem_map_of_mem hr
      · exact le_trans hstart ht.1
      · apply lt_of_lt_of_le ht.2
        rw [hend cycle hcycle]
        exact hlast s hs
    · exact covered_pairwise h horderly (fun cycle t => cycle.window.Transmits t)
        fun cycle hcycle t ht => transmits_bounds (hend cycle hcycle) ht
    · rw [projectWsprRunV3_occupancies h] at ha hb
      obtain ⟨r, hr, rfl⟩ := List.mem_map.1 ha
      obtain ⟨q, hq, rfl⟩ := List.mem_map.1 hb
      have heq := eq_of_covers (projectWsprRunV3_completes h).forward horderly.forwards
        hr hq hat hbt
      rw [heq]
    · exact covered_pairwise h horderly (fun cycle t => cycle.matchesSourceTime t = true)
        fun cycle hcycle t ht => matchesSourceTime_bounds (hend cycle hcycle) ht

end

namespace Scenario

def second (n : ℤ) : DateTime := n * DateTime.nanosPerSecond

def eventMeta : RecordMetaV3 where
  schemaVersion := 6
  sessionId := "s1"
  recordedAt := second 0
  provenance := Provenance.fromLegacy .derived "0.1.0"
  mutation := ⟨"m", 0, 1⟩
  runtimeContextId := none

def eventAt (eventId : String) (occurredAt : DateTime) (slotId : Option String)
    (payload : OperatorEventPayloadV3) : OperatorEventV3 :=
  ⟨eventMeta, eventId, occurredAt, .observedNow, none, slotId, payload⟩

def cycleIntent (intentId : String) (sequenceNumber : ℕ) (antennaLabel : String) :
    WsprCycleIntentV3 :=
  ⟨intentId, sequenceNumber, .m20, antennaLabel, some .transmit, none⟩

def twoCycles : ScheduleV3 :=
  ⟨6, "s1", .txFocused, .dx, some .manual, [], [cycleIntent "c1" 1 "A", cycleIntent "c2" 2 "B"], []⟩

/-- While the session was interrupted the clock was set back by five minutes. -/
def rewoundEvents : List OperatorEventV3 :=
  [eventAt "e1" (second 0) none (.sessionStarted none),
    eventAt "e2" (second 0) (some "c1") (.wsprCycleArmed "A" (second 1) (some .operatorConfirmed)),
    eventAt "e3" (second 600) none (.sessionInterrupted none),
    eventAt "e4" (second 299) none (.sessionResumed none),
    eventAt "e5" (second 300) (some "c2")
      (.wsprCycleArmed "B" (second 361) (some .operatorConfirmed))]

def rewound : WsprRunProjectionV3 := projectWsprRunV3 twoCycles rewoundEvents

theorem rewound_diagnostics : rewound.diagnostics = [] := by
  decide

theorem rewound_occupancies : rewound.occupancies =
    [⟨"A", second 0, some (second 600), "e2"⟩, ⟨"B", second 300, none, "e5"⟩] := by
  decide

/-- Two antennas are credited with the same instants, and no diagnostic says so. -/
theorem rewound_not_exclusive : rewound.diagnostics = [] ∧ ¬rewound.Exclusive := by
  refine ⟨rewound_diagnostics, fun hexclusive => ?_⟩
  have hpairs := hexclusive.occupancies
  rw [rewound_occupancies, List.pairwise_pair] at hpairs
  exact hpairs.2 (second 400) ⟨⟨by decide, by decide⟩, by decide, by simp⟩

/-- The run over the rewound events is exclusive exactly when they are orderly. -/
theorem rewound_exclusive_iff :
    (projectWsprRunV3 twoCycles rewoundEvents).Exclusive ↔ OrderlyReadiness rewoundEvents :=
  projectWsprRunV3_exclusive_iff rewound_diagnostics

end Scenario

end AntennaBench
