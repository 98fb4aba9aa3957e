import AntennaBench.Core.AntennaControl
import AntennaBench.Core.Occupancy
import AntennaBench.Core.ReductionLaws
import AntennaBench.Timeline.Related

/-!
# Armed cycles of a clean run

When an event arms a cycle without a diagnostic, and what the loop of the projection keeps: each
armed event has its cycle, and an open occupancy goes back to an event whose readiness nothing
has ended.
-/

namespace AntennaBench

open AntennaControl Timeline

namespace OperatorEventV3

variable (event : OperatorEventV3)

def isArmed : Bool :=
  match event.payload with
  | .wsprCycleArmed .. => true
  | _ => false

/-- The readiness that a continued cycle refers to. -/
def continuedSource? : Option String :=
  match event.payload with
  | .wsprCycleArmed _ _ (some (.continued source)) => some source
  | _ => none

/-- The readiness an armed cycle stands on. -/
def readyId : String := event.continuedSource?.getD event.eventId

end OperatorEventV3

/-- The cycle is the one the event arms. -/
structure ArmedAs (schedule : ScheduleV3) (event : OperatorEventV3) (cycle : ArmedWsprCycleV3) :
    Prop where
  payload : ∃ readiness,
    event.payload = .wsprCycleArmed cycle.antennaLabel cycle.window.startsAt readiness
  slot : event.slotId = some cycle.intentId
  intent : ∃ intent, schedule.findIntent? cycle.intentId = some intent ∧
    intent.intentId = cycle.intentId ∧ intent.band = cycle.band
  ready : cycle.readyEventId = event.readyId
  window : WsprCycleWindow.fromStart? cycle.window.startsAt = some cycle.window
  notBefore : event.occurredAt ≤ cycle.window.startsAt

/-- The event opens the occupancy by a readiness of its own. -/
structure OperatorEventV3.Opens (source : OperatorEventV3)
    (occupancy : AntennaOccupancyIntervalV3) : Prop where
  eventId : source.eventId = occupancy.readyEventId
  occurredAt : source.occurredAt = occupancy.startsAt
  payload : ∃ startsAt readiness,
    source.payload = .wsprCycleArmed occupancy.antennaLabel startsAt readiness
  original : source.continuedSource? = none

/-- The event leaves the occupancy open, and arms cycles only under its readiness. -/
structure OperatorEventV3.Keeps (event : OperatorEventV3)
    (occupancy : AntennaOccupancyIntervalV3) : Prop where
  stays : endsReadiness event.payload = false
  armed : event.isArmed = true → event.continuedSource? = some occupancy.readyEventId ∧
    ∃ startsAt readiness, event.payload =
      .wsprCycleArmed occupancy.antennaLabel startsAt readiness

/-- The occupancy goes back to an event that opened it, and nothing has ended it since. -/
def AntennaOccupancyIntervalV3.OpenedBy (occupancy : AntennaOccupancyIntervalV3)
    (events : List OperatorEventV3) : Prop :=
  occupancy.endsAt = none ∧ ∃ before source after, events = before ++ source :: after ∧
    source.Opens occupancy ∧ ∀ event ∈ after, event.Keeps occupancy

namespace ProjectionState

variable {schedule : ScheduleV3} {skipped : List String} {state : ProjectionState}
  {event : OperatorEventV3}

/-- The intent whose turn it is. -/
def expected? (schedule : ScheduleV3) (skipped : List String) (state : ProjectionState) :
    Option WsprCycleIntentV3 :=
  schedule.wsprCycleIntents.find? fun expected =>
    !state.seenIntents.contains expected.intentId && !skipped.contains expected.intentId

/-- The event arms the intent for the window without a diagnostic. -/
structure ArmsCleanly (schedule : ScheduleV3) (skipped : List String) (state : ProjectionState)
    (event : OperatorEventV3) (cycleStartsAt : DateTime) (intent : WsprCycleIntentV3)
    (window : WsprCycleWindow) : Prop where
  clean : state.diagnostics = []
  slot : event.slotId = some intent.intentId
  known : schedule.findIntent? intent.intentId = some intent
  unseen : intent.intentId ∉ state.seenIntents
  turn : ∀ expected ∈ expected? schedule skipped state, expected.intentId = intent.intentId
  aligned : WsprCycleWindow.fromStart? cycleStartsAt = some window
  notBefore : event.occurredAt ≤ window.startsAt

/-- The cycle such an event arms. -/
def armedCycle (state : ProjectionState) (event : OperatorEventV3) (antennaLabel : String)
    (source : Option String) (intent : WsprCycleIntentV3) (window : WsprCycleWindow) :
    ArmedWsprCycleV3 where
  intentId := intent.intentId
  sequenceNumber := intent.sequenceNumber
  band := intent.band
  antennaLabel := antennaLabel
  readyAt := (source.bind fun source =>
    (state.openOccupancy.filter (·.readyEventId == source)).map (·.startsAt)).getD
      event.occurredAt
  readyEventId := source.getD event.eventId
  window := window
  occupancyFullyCoversTransmission := false

theorem armCycle_of_cleanly {cycleStartsAt : DateTime} {intent : WsprCycleIntentV3}
    {window : WsprCycleWindow}
    (h : ArmsCleanly schedule skipped state event cycleStartsAt intent window)
    (antennaLabel : String) (source : Option String) :
    armCycle schedule skipped state event antennaLabel cycleStartsAt source = { state with
      cycles := state.cycles ++ [armedCycle state event antennaLabel source intent window]
      seenIntents := intent.intentId :: state.seenIntents } := by
  have hunseen : state.seenIntents.contains intent.intentId = false := by
    simpa using h.unseen
  have hturn : ¬(expected? schedule skipped state).any (·.intentId ≠ intent.intentId) = true := by
    intro hany
    obtain ⟨expected, hexpected, hne⟩ := (Option.any_eq_true _ _).1 hany
    exact absurd (h.turn expected hexpected) (by simpa using hne)
  unfold expected? at hturn
  unfold armCycle
  simp only [h.slot, h.known, hunseen, Bool.false_eq_true, if_false]
  rw [if_neg hturn]
  simp only [h.aligned]
  rw [if_neg (not_lt.2 h.notBefore), armedCycle]

theorem cleanly_of_armCycle {antennaLabel : String} {cycleStartsAt : DateTime}
    {source : Option String}
    (h : (armCycle schedule skipped state event antennaLabel cycleStartsAt source).diagnostics =
      []) :
    ∃ intent window, ArmsCleanly schedule skipped state event cycleStartsAt intent window := by
  have hclean := (armCycle_clean h).1
  unfold armCycle at h
  cases hslot : event.slotId with
  | none =>
    simp only [hslot] at h
    exact absurd h (report_diagnostics_ne _ _)
  | some intentId =>
    simp only [hslot] at h
    cases hintent : schedule.findIntent? intentId with
    | none =>
      simp only [hintent] at h
      exact absurd h (report_diagnostics_ne _ _)
    | some intent =>
      have hid : intent.intentId = intentId := by simpa using List.find?_some hintent
      subst hid
      simp only [hintent] at h
      split_ifs at h with hseen hturn
      · exact absurd h (report_diagnostics_ne _ _)
      · exact absurd h (report_diagnostics_ne _ _)
      cases hwindow : WsprCycleWindow.fromStart? cycleStartsAt with
      | none =>
        simp only [hwindow] at h
        exact absurd h (report_diagnostics_ne _ _)
      | some window =>
        simp only [hwindow] at h
        split_ifs at h with hready
        · exact absurd h (report_diagnostics_ne _ _)
        · refine ⟨intent, window, hclean, hslot, hintent, by simpa using hseen, ?_, hwindow,
            not_lt.1 hready⟩
          intro expected hexpected
          by_contra hne
          apply hturn
          unfold expected? at hexpected
          rw [Option.mem_def.1 hexpected]
          simpa using hne

/-- What a step without a diagnostic does. -/
inductive CleanStep (schedule : ScheduleV3) (skipped : List String) (state : ProjectionState)
    (event : OperatorEventV3) : ProjectionState → Prop
  | closes (hcloses : event.payload.closesOccupancy = true) :
    CleanStep schedule skipped state event (state.closeOccupancy event)
  | continues {antennaLabel source : String} {startsAt : DateTime}
    {occupancy : AntennaOccupancyIntervalV3} {intent : WsprCycleIntentV3}
    {window : WsprCycleWindow}
    (hpayload : event.payload = .wsprCycleArmed antennaLabel startsAt (some (.continued source)))
    (hopen : state.openOccupancy = some occupancy)
    (hlabel : occupancy.antennaLabel = antennaLabel) (hsource : occupancy.readyEventId = source)
    (harms : ArmsCleanly schedule skipped state event startsAt intent window) :
    CleanStep schedule skipped state event { state with
      cycles := state.cycles ++ [armedCycle state event antennaLabel source intent window]
      seenIntents := intent.intentId :: state.seenIntents }
  | readies {antennaLabel : String} {startsAt : DateTime} {readiness : Option WsprReadinessBasisV5}
    {intent : WsprCycleIntentV3} {window : WsprCycleWindow} {closed : ProjectionState}
    (hpayload : event.payload = .wsprCycleArmed antennaLabel startsAt readiness)
    (hsource : event.continuedSource? = none)
    (hcycles : closed.cycles = state.cycles) (hseen : closed.seenIntents = state.seenIntents)
    (hoccupancies : closed.occupancies = (state.closeOccupancy event).occupancies)
    (hopen : closed.openOccupancy = some ⟨antennaLabel, event.occurredAt, none, event.eventId⟩)
    (harms : ArmsCleanly schedule skipped closed event startsAt intent window) :
    CleanStep schedule skipped state event { closed with
      cycles := closed.cycles ++ [armedCycle closed event antennaLabel none intent window]
      seenIntents := intent.intentId :: closed.seenIntents }
  | passes (hcloses : event.payload.closesOccupancy = false) (harmed : event.isArmed = false) :
    CleanStep schedule skipped state event state

theorem closeOccupancy_kept (state : ProjectionState) (event : OperatorEventV3) :
    (state.closeOccupancy event).cycles = state.cycles ∧
      (state.closeOccupancy event).seenIntents = state.seenIntents ∧
        (state.closeOccupancy event).openOccupancy = none := by
  unfold closeOccupancy
  cases hopen : state.openOccupancy with
  | none => exact ⟨rfl, rfl, hopen⟩
  | some interval =>
    dsimp only
    split_ifs
    · exact ⟨rfl, rfl, rfl⟩
    · exact ⟨rfl, rfl, rfl⟩

theorem readies_of_clean {antennaLabel : String} {startsAt : DateTime}
    {readiness : Option WsprReadinessBasisV5}
    (hpayload : event.payload = .wsprCycleArmed antennaLabel startsAt readiness)
    (hsource : event.continuedSource? = none)
    (h : (armCycle schedule skipped { state.closeOccupancy event with
      openOccupancy := some ⟨antennaLabel, event.occurredAt, none, event.eventId⟩ } event
        antennaLabel startsAt none).diagnostics = []) :
    CleanStep schedule skipped state event (armCycle schedule skipped
      { state.closeOccupancy event with
        openOccupancy := some ⟨antennaLabel, event.occurredAt, none, event.eventId⟩ } event
          antennaLabel startsAt none) := by
  obtain ⟨hcycles, hseen, -⟩ := closeOccupancy_kept state event
  obtain ⟨intent, window, harms⟩ := cleanly_of_armCycle h
  rw [armCycle_of_cleanly harms]
  exact .readies hpayload hsource hcycles hseen rfl rfl harms

theorem step_clean (h : (step schedule skipped state event).diagnostics = []) :
    CleanStep schedule skipped state event (step schedule skipped state event) := by
  unfold step at h ⊢
  split_ifs at h ⊢ with hcloses
  · exact .closes hcloses
  · cases hpayload : event.payload with
    | wsprCycleArmed antennaLabel startsAt readiness =>
      cases readiness with
      | none =>
        simp only [hpayload] at h ⊢
        exact readies_of_clean hpayload (by simp [OperatorEventV3.continuedSource?, hpayload]) h
      | some basis =>
        cases basis with
        | continued source =>
          simp only [hpayload] at h ⊢
          split_ifs at h ⊢ with hvalid
          · obtain ⟨occupancy, hopen, hsame⟩ := (Option.any_eq_true _ _).1 hvalid
            rw [Bool.and_eq_true, beq_iff_eq, beq_iff_eq] at hsame
            obtain ⟨intent, window, harms⟩ := cleanly_of_armCycle h
            rw [armCycle_of_cleanly harms]
            exact .continues hpayload hopen hsame.1 hsame.2 harms
          · exact absurd h (report_diagnostics_ne _ _)
        | _ =>
          simp only [hpayload] at h ⊢
          exact readies_of_clean hpayload
            (by simp [OperatorEventV3.continuedSource?, hpayload]) h
    | _ =>
      simp only [hpayload] at h ⊢
      apply CleanStep.passes
      · simpa using hcloses
      · simp [OperatorEventV3.isArmed, hpayload]

theorem step_continues {antennaLabel source : String} {startsAt : DateTime}
    {occupancy : AntennaOccupancyIntervalV3} {intent : WsprCycleIntentV3}
    {window : WsprCycleWindow}
    (hpayload : event.payload = .wsprCycleArmed antennaLabel startsAt (some (.continued source)))
    (hopen : state.openOccupancy = some occupancy)
    (hlabel : occupancy.antennaLabel = antennaLabel) (hsource : occupancy.readyEventId = source)
    (harms : ArmsCleanly schedule skipped state event startsAt intent window) :
    step schedule skipped state event = { state with
      cycles := state.cycles ++ [armedCycle state event antennaLabel source intent window]
      seenIntents := intent.intentId :: state.seenIntents } := by
  have hguard : state.openOccupancy.any (fun occupancy =>
      occupancy.antennaLabel == antennaLabel && occupancy.readyEventId == source) = true := by
    simp [hopen, hlabel, hsource]
  unfold step
  simp only [hpayload, OperatorEventPayloadV3.closesOccupancy, Bool.false_eq_true, if_false]
  rw [if_pos hguard]
  exact armCycle_of_cleanly harms antennaLabel (some source)

/-- A continued cycle stands on the open occupancy. -/
theorem open_of_continues {antennaLabel source : String} {startsAt : DateTime}
    (hpayload : event.payload = .wsprCycleArmed antennaLabel startsAt (some (.continued source)))
    (h : (step schedule skipped state event).diagnostics = []) :
    ∃ occupancy, state.openOccupancy = some occupancy ∧
      occupancy.antennaLabel = antennaLabel ∧ occupancy.readyEventId = source := by
  cases hguard : state.openOccupancy.any fun occupancy =>
      occupancy.antennaLabel == antennaLabel && occupancy.readyEventId == source with
  | true =>
    obtain ⟨occupancy, hopen, hsame⟩ := (Option.any_eq_true _ _).1 hguard
    rw [Bool.and_eq_true, beq_iff_eq, beq_iff_eq] at hsame
    exact ⟨occupancy, hopen, hsame.1, hsame.2⟩
  | false =>
    unfold step at h
    simp only [hpayload, OperatorEventPayloadV3.closesOccupancy, Bool.false_eq_true, if_false,
      hguard] at h
    exact absurd h (report_diagnostics_ne _ _)

/-- What the loop knows after these events. -/
structure Tracks (schedule : ScheduleV3) (events : List OperatorEventV3)
    (state : ProjectionState) : Prop where
  cycles : List.Forall₂ (ArmedAs schedule) (events.filter (·.isArmed)) state.cycles
  seen : state.seenIntents = (state.cycles.map (·.intentId)).reverse
  opened : ∀ occupancy ∈ state.openOccupancy, occupancy.OpenedBy events
  closed : ∀ occupancy ∈ state.occupancies, occupancy.endsAt.isSome = true

theorem closeOccupancy_closed
    (h : ∀ occupancy ∈ state.occupancies, occupancy.endsAt.isSome = true) :
    ∀ occupancy ∈ (state.closeOccupancy event).occupancies, occupancy.endsAt.isSome = true := by
  unfold closeOccupancy
  cases hopen : state.openOccupancy with
  | none => exact h
  | some interval =>
    dsimp only
    split_ifs
    · intro occupancy hoccupancy
      rcases List.mem_append.1 hoccupancy with hold | hnew
      · exact h occupancy hold
      · rw [List.mem_singleton.1 hnew]
        rfl
    · intro occupancy hoccupancy
      rcases List.mem_append.1 hoccupancy with hold | hnew
      · exact h occupancy hold
      · rw [List.mem_singleton.1 hnew]
        rfl

theorem armedAs_armedCycle {antennaLabel : String} {startsAt : DateTime}
    {readiness : Option WsprReadinessBasisV5} {intent : WsprCycleIntentV3}
    {window : WsprCycleWindow}
    (hpayload : event.payload = .wsprCycleArmed antennaLabel startsAt readiness)
    (harms : ArmsCleanly schedule skipped state event startsAt intent window) :
    ArmedAs schedule event
      (armedCycle state event antennaLabel event.continuedSource? intent window) := by
  have hstart : window.startsAt = startsAt := (WsprCycleWindow.fromStart?_eq_some harms.aligned).2.1
  constructor
  · exact ⟨readiness, by rw [hpayload, ← hstart]; rfl⟩
  · exact harms.slot
  · exact ⟨intent, harms.known, rfl, rfl⟩
  · rfl
  · change WsprCycleWindow.fromStart? window.startsAt = some window
    rw [hstart]
    exact harms.aligned
  · exact harms.notBefore

theorem isArmed_of_payload {antennaLabel : String} {startsAt : DateTime}
    {readiness : Option WsprReadinessBasisV5}
    (hpayload : event.payload = .wsprCycleArmed antennaLabel startsAt readiness) :
    event.isArmed = true := by
  simp [OperatorEventV3.isArmed, hpayload]

theorem isArmed_of_closes (h : event.payload.closesOccupancy = true) : event.isArmed = false := by
  unfold OperatorEventV3.isArmed
  cases hpayload : event.payload with
  | wsprCycleArmed antennaLabel startsAt readiness =>
    rw [hpayload] at h
    cases h
  | _ => rfl

theorem endsReadiness_of_passes (hcloses : event.payload.closesOccupancy = false)
    (harmed : event.isArmed = false) : endsReadiness event.payload = false := by
  unfold OperatorEventV3.isArmed at harmed
  cases hpayload : event.payload <;> rw [hpayload] at hcloses harmed <;>
    simp_all [OperatorEventPayloadV3.closesOccupancy, endsReadiness]

theorem filter_armed_concat (events : List OperatorEventV3) (event : OperatorEventV3) :
    (events ++ [event]).filter (·.isArmed) =
      events.filter (·.isArmed) ++ if event.isArmed = true then [event] else [] := by
  rw [List.filter_append, List.filter_singleton, Bool.cond_eq_ite]

/-- An open occupancy stays open over an event that ends no readiness. -/
theorem openedBy_concat {occupancy : AntennaOccupancyIntervalV3} {events : List OperatorEventV3}
    (h : occupancy.OpenedBy events) (hkeeps : event.Keeps occupancy) :
    occupancy.OpenedBy (events ++ [event]) := by
  obtain ⟨hends, before, source, after, hevents, hopens, hafter⟩ := h
  refine ⟨hends, before, source, after ++ [event], ?_, hopens, ?_⟩
  · rw [hevents, List.append_assoc, List.cons_append]
  · intro other hother
    rcases List.mem_append.1 hother with hold | hnew
    · exact hafter other hold
    · rw [List.mem_singleton.1 hnew]
      exact hkeeps

theorem Tracks.arm {events : List OperatorEventV3} (h : Tracks schedule events state)
    {next : ProjectionState} {cycle : ArmedWsprCycleV3} (harmed : event.isArmed = true)
    (hcycle : ArmedAs schedule event cycle) (hcycles : next.cycles = state.cycles ++ [cycle])
    (hseen : next.seenIntents = cycle.intentId :: state.seenIntents)
    (hopened : ∀ occupancy ∈ next.openOccupancy, occupancy.OpenedBy (events ++ [event]))
    (hclosed : ∀ occupancy ∈ next.occupancies, occupancy.endsAt.isSome = true) :
    Tracks schedule (events ++ [event]) next := by
  constructor
  · rw [filter_armed_concat, if_pos harmed, hcycles]
    exact List.rel_append h.cycles (List.Forall₂.cons hcycle .nil)
  · rw [hseen, hcycles, h.seen, List.map_append, List.reverse_append]
    rfl
  · exact hopened
  · exact hclosed

theorem Tracks.step {events : List OperatorEventV3} {next : ProjectionState}
    (h : Tracks schedule events state) (hstep : CleanStep schedule skipped state event next) :
    Tracks schedule (events ++ [event]) next := by
  cases hstep with
  | closes hcloses =>
    obtain ⟨hcycles, hseen, hopen⟩ := closeOccupancy_kept state event
    constructor
    · rw [filter_armed_concat, isArmed_of_closes hcloses, hcycles]
      simpa using h.cycles
    · rw [hseen, hcycles, h.seen]
    · rw [hopen]
      simp
    · exact closeOccupancy_closed h.closed
  | @continues antennaLabel source startsAt occupancy intent window hpayload hopen hlabel hsource
      harms =>
    have hcontinued : event.continuedSource? = some source := by
      simp [OperatorEventV3.continuedSource?, hpayload]
    refine h.arm (isArmed_of_payload hpayload)
      (hcontinued ▸ armedAs_armedCycle hpayload harms) rfl rfl ?_ h.closed
    intro other hother
    obtain rfl : occupancy = other := Option.some.inj (hopen.symm.trans hother)
    apply openedBy_concat (h.opened occupancy hopen)
    constructor
    · simp [endsReadiness, hpayload]
    · intro _
      refine ⟨hsource ▸ hcontinued, startsAt, some (.continued source), ?_⟩
      rw [hpayload, hlabel]
  | @readies antennaLabel startsAt readiness intent window closed hpayload hsource hcycles hseen
      hoccupancies hopen harms =>
    apply h.arm (isArmed_of_payload hpayload) (hsource ▸ armedAs_armedCycle hpayload harms)
    · rw [hcycles]
    · rw [hseen]
      rfl
    · intro other hother
      obtain rfl := Option.some.inj (hopen.symm.trans hother)
      exact ⟨rfl, events, event, [], rfl, ⟨rfl, rfl, ⟨startsAt, readiness, hpayload⟩, hsource⟩,
        by simp⟩
    · rw [hoccupancies]
      exact closeOccupancy_closed h.closed
  | passes hcloses harmed =>
    constructor
    · rw [filter_armed_concat, harmed]
      simpa using h.cycles
    · exact h.seen
    · intro occupancy hopen
      apply openedBy_concat (h.opened occupancy hopen)
      constructor
      · exact endsReadiness_of_passes hcloses harmed
      · intro htrue
        rw [harmed] at htrue
        cases htrue
    · exact h.closed

theorem tracks_run {events more : List OperatorEventV3} (h : Tracks schedule events state)
    (hclean : (more.foldl (step schedule skipped) state).diagnostics = []) :
    Tracks schedule (events ++ more) (more.foldl (step schedule skipped) state) := by
  induction more generalizing events state with
  | nil => simpa using h
  | cons event rest ih =>
    rw [List.foldl_cons] at hclean ⊢
    have hnext := h.step (step_clean (diagnostics_of_foldl hclean))
    rw [← List.singleton_append, ← List.append_assoc]
    exact ih hnext hclean

theorem tracks_nil : Tracks schedule [] ⟨[], [], [], none, []⟩ := by
  constructor
  · exact .nil
  · rfl
  · simp
  · simp

end ProjectionState

/-- The event that armed the last cycle of an open occupancy stands on its readiness. -/
theorem AntennaOccupancyIntervalV3.OpenedBy.lastArmed {occupancy : AntennaOccupancyIntervalV3}
    {events : List OperatorEventV3} (h : occupancy.OpenedBy events) :
    ∃ before armed after, events = before ++ armed :: after ∧ armed.isArmed = true ∧
      (∀ event ∈ after, event.isArmed = false) ∧ armed.readyId = occupancy.readyEventId ∧
      ∃ startsAt readiness,
        armed.payload = .wsprCycleArmed occupancy.antennaLabel startsAt readiness := by
  obtain ⟨-, before, source, after, hevents, hopens, hafter⟩ := h
  obtain ⟨startsAt, readiness, hpayload⟩ := hopens.payload
  have harmedSource : source.isArmed = true := ProjectionState.isArmed_of_payload hpayload
  obtain ⟨early, armed, late, hsplit, harmed, hlate⟩ :=
    exists_last (p := fun event : OperatorEventV3 => event.isArmed)
      ⟨source, List.mem_cons_self (l := after), harmedSource⟩
  refine ⟨before ++ early, armed, late, ?_, harmed, hlate, ?_⟩
  · rw [hevents, hsplit, List.append_assoc]
  rcases early with _ | ⟨first, early⟩
  · obtain ⟨rfl, rfl⟩ : source = armed ∧ after = late := by simpa using hsplit
    refine ⟨?_, startsAt, readiness, hpayload⟩
    rw [OperatorEventV3.readyId, hopens.original]
    exact hopens.eventId
  · obtain ⟨-, rfl⟩ : source = first ∧ after = early ++ armed :: late := by simpa using hsplit
    have hkeeps := hafter armed (List.mem_append_right _ List.mem_cons_self)
    obtain ⟨hsource, hlabel⟩ := hkeeps.armed harmed
    refine ⟨?_, hlabel⟩
    rw [OperatorEventV3.readyId, hsource]
    rfl

namespace ProjectionState

variable {schedule : ScheduleV3} {skipped : List String} {state : ProjectionState}
  {events : List OperatorEventV3}

theorem Tracks.lastCycle (h : Tracks schedule events state)
    {before after : List OperatorEventV3} {armed : OperatorEventV3}
    (hevents : events = before ++ armed :: after) (harmed : armed.isArmed = true)
    (hafter : ∀ event ∈ after, event.isArmed = false) :
    ∃ earlier cycle, state.cycles = earlier ++ [cycle] ∧ ArmedAs schedule armed cycle := by
  have hnone : after.filter (·.isArmed) = [] := by
    rw [List.filter_eq_nil_iff]
    intro event hevent
    simp [hafter event hevent]
  have hcycles := h.cycles
  rw [hevents, List.filter_append, List.filter_cons_of_pos harmed, hnone] at hcycles
  obtain ⟨earlier, rest, hsplit, -, hrest⟩ := forall₂_append_left hcycles
  cases hrest with
  | cons harms hnil =>
    cases hnil
    exact ⟨earlier, _, hsplit, harms⟩

end ProjectionState

namespace ReductionStateV3

variable {event : OperatorEventV3}

theorem payload_of_isArmed (harmed : event.isArmed = true) :
    event.payload.isLifecycle = false ∧ event.payload.isOperational = true := by
  unfold OperatorEventV3.isArmed at harmed
  cases hpayload : event.payload with
  | wsprCycleArmed antennaLabel startsAt readiness => exact ⟨rfl, rfl⟩
  | _ => simp [hpayload] at harmed

theorem step_armed_effective (state : ReductionStateV3) (harmed : event.isArmed = true) :
    (state.step event).effective = state.effective := by
  obtain ⟨hlifecycle, hoperational⟩ := payload_of_isArmed harmed
  unfold step
  by_cases hseen : state.seenIds.contains event.eventId = true
  · rw [if_pos hseen]
    rfl
  rw [if_neg hseen]
  cases hshape : eventShapeErrorV3 event with
  | some message => rfl
  | none =>
    simp only [hlifecycle, hoperational, Bool.false_eq_true, if_false, if_true]
    split_ifs
    · rfl
    · rfl
    · rfl

/-- A well-shaped armed event of its own identity is accepted while the session runs. -/
theorem step_armed (state : ReductionStateV3) (harmed : event.isArmed = true)
    (hfresh : event.eventId ∉ state.seenIds) (hshape : eventShapeErrorV3 event = none)
    (hrunning : state.lifecycle = .running) :
    state.step event = { state with seenIds := event.eventId :: state.seenIds } := by
  obtain ⟨hlifecycle, hoperational⟩ := payload_of_isArmed harmed
  unfold step
  rw [if_neg (by simpa using hfresh), hshape]
  simp [hlifecycle, hoperational, hrunning, SessionLifecycleV2.isTerminal]

end ReductionStateV3

section

variable {schedule : ScheduleV3} {events : List OperatorEventV3} {event : OperatorEventV3}

theorem effectiveEvents_armed (initial : SessionLifecycleV2) (harmed : event.isArmed = true) :
    (reduceOperatorEventsV3 initial (events ++ [event])).effectiveEvents =
      (reduceOperatorEventsV3 initial events).effectiveEvents := by
  unfold reduceOperatorEventsV3
  rw [reduceStateV3_append, List.foldl_cons, List.foldl_nil]
  unfold ReductionStateV3.finish
  rw [ReductionStateV3.step_armed_effective _ harmed]

theorem reduce_armed (hclean : (reduceOperatorEventsV3 .ready events).diagnostics = [])
    (harmed : event.isArmed = true) (hfresh : event.eventId ∉ events.map (·.eventId))
    (hshape : eventShapeErrorV3 event = none)
    (hrunning : (reduceOperatorEventsV3 .ready events).lifecycle = .running) :
    (reduceOperatorEventsV3 .ready (events ++ [event])).diagnostics = [] ∧
      (reduceOperatorEventsV3 .ready (events ++ [event])).lifecycle = .running := by
  have hunseen : event.eventId ∉ (reduceStateV3 .ready events).seenIds := by
    intro hseen
    rcases (ReductionStateV3.mem_seenIds_foldl _ events _).1 hseen with hmem | hinit
    · exact hfresh hmem
    · cases hinit
  unfold reduceOperatorEventsV3 at hclean hrunning ⊢
  rw [reduceStateV3_append, List.foldl_cons, List.foldl_nil,
    ReductionStateV3.step_armed _ harmed hunseen hshape hrunning]
  exact ⟨hclean, hrunning⟩

theorem skippedIntents_armed (harmed : event.isArmed = true) :
    skippedIntents schedule (events ++ [event]) = skippedIntents schedule events := by
  unfold skippedIntents
  rw [effectiveEvents_armed .ready harmed]

/-- The loop state of the projection after all events. -/
def projectedState (schedule : ScheduleV3) (events : List OperatorEventV3) : ProjectionState :=
  events.foldl (ProjectionState.step schedule (skippedIntents schedule events))
    ⟨[], [], [], none, []⟩

theorem projectedState_armed (harmed : event.isArmed = true) :
    projectedState schedule (events ++ [event]) =
      (projectedState schedule events).step schedule (skippedIntents schedule events) event := by
  unfold projectedState
  rw [skippedIntents_armed harmed, List.foldl_append, List.foldl_cons, List.foldl_nil]

theorem projectedState_tracks (h : (projectWsprRunV3 schedule events).diagnostics = []) :
    ProjectionState.Tracks schedule events (projectedState schedule events) := by
  have hrun := @ProjectionState.tracks_run schedule (skippedIntents schedule events)
    ⟨[], [], [], none, []⟩ [] events ProjectionState.tracks_nil h
  rwa [List.nil_append] at hrun

/-- The cycle with its coverage. -/
def ArmedWsprCycleV3.covered (occupancies : List AntennaOccupancyIntervalV3)
    (cycle : ArmedWsprCycleV3) : ArmedWsprCycleV3 :=
  { cycle with occupancyFullyCoversTransmission := occupancyCovers occupancies cycle }

theorem projectWsprRunV3_cycles (schedule : ScheduleV3) (events : List OperatorEventV3) :
    (projectWsprRunV3 schedule events).cycles = (projectedState schedule events).cycles.map
      (·.covered (projectWsprRunV3 schedule events).occupancies) := rfl

theorem projectWsprRunV3_intervals (schedule : ScheduleV3) (events : List OperatorEventV3) :
    (projectWsprRunV3 schedule events).occupancies = (projectedState schedule events).occupancies ++
      (projectedState schedule events).openOccupancy.toList := rfl

theorem skippedIntentIds_contains {intent : WsprCycleIntentV3}
    (hintent : intent ∈ schedule.wsprCycleIntents) :
    (projectWsprRunV3 schedule events).skippedIntentIds.contains intent.intentId =
      (skippedIntents schedule events).contains intent.intentId := by
  rw [Bool.eq_iff_iff, List.contains_iff_mem, List.contains_iff_mem]
  constructor
  · intro hmem
    obtain ⟨other, hother, heq⟩ := List.mem_map.1 hmem
    rw [← heq]
    simpa using (List.mem_filter.1 hother).2
  · intro hmem
    exact List.mem_map.2 ⟨intent, List.mem_filter.2 ⟨hintent, by simpa using hmem⟩, rfl⟩

end

end AntennaBench
