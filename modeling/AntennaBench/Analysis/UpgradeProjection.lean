import AntennaBench.Storage.Upgrade
import AntennaBench.Analysis.Blocks

/-!
# Upgrades and the analysed session

The projection into the analysis model reads a record up to its schema version,
its runtime context and an implicit readiness. Upgrades change nothing else, so
they keep the analysed session except where the projection asks for the schema.
-/

namespace AntennaBench

/-- An envelope without the fields an upgrade restamps. -/
def RecordMetaV2.bare (recordMeta : RecordMetaV2) : RecordMetaV2 :=
  { recordMeta with schemaVersion := schemaVersionV2, runtimeContextId := none }

def OperatorEventV2.bare (event : OperatorEventV2) : OperatorEventV2 :=
  { event with recordMeta := event.recordMeta.bare }

def ObservationRecordV2.bare (record : ObservationRecordV2) : ObservationRecordV2 :=
  { record with recordMeta := record.recordMeta.bare }

def AdapterRecordV2.bare (record : AdapterRecordV2) : AdapterRecordV2 :=
  { record with recordMeta := record.recordMeta.bare }

/-- A readiness that is not recorded is the operator's. -/
def OperatorEventPayloadV3.bare : OperatorEventPayloadV3 → OperatorEventPayloadV3
  | wsprCycleArmed antennaLabel cycleStartsAt none =>
    wsprCycleArmed antennaLabel cycleStartsAt (some .operatorConfirmed)
  | payload => payload

def OperatorEventV3.bare (event : OperatorEventV3) : OperatorEventV3 :=
  { event with recordMeta := event.recordMeta.bare, payload := event.payload.bare }

theorem reduceOperatorEventsV2_bare (lifecycle : SessionLifecycleV2)
    (events : List OperatorEventV2) :
    reduceOperatorEventsV2 lifecycle (events.map (·.bare)) =
      reduceOperatorEventsV2 lifecycle events := by
  unfold reduceOperatorEventsV2
  rw [List.foldl_map]
  rfl

theorem legacyEvents_bare (effective : List (String × OperatorEvent))
    (events : List OperatorEventV2) :
    legacyEvents effective (events.map (·.bare)) = legacyEvents effective events := by
  induction events generalizing effective with
  | nil => rfl
  | cons event rest ih =>
    have hlifecycle : event.bare.projectLegacyLifecycle = event.projectLegacyLifecycle := rfl
    have hid : event.bare.eventId = event.eventId := rfl
    rw [List.map_cons, legacyEvents, legacyEvents, hlifecycle, hid]
    simp only [ih]

theorem BundleV2Contents.legacyEvents_congr {bundle other : BundleV2Contents}
    (h : bundle.events.map (·.bare) = other.events.map (·.bare)) :
    bundle.legacyEvents = other.legacyEvents := by
  unfold BundleV2Contents.legacyEvents
  rw [← reduceOperatorEventsV2_bare, ← legacyEvents_bare, h, legacyEvents_bare,
    reduceOperatorEventsV2_bare]

theorem ReductionStateV3.step_bare (state : ReductionStateV3) (event : OperatorEventV3) :
    state.step event.bare = state.step event := by
  cases event with
  | mk recordMeta eventId occurredAt timeBasis uncertaintySeconds slotId payload =>
    cases payload with
    | wsprCycleArmed antennaLabel cycleStartsAt readiness => cases readiness <;> rfl
    | _ => rfl

theorem reduceOperatorEventsV3_bare (lifecycle : SessionLifecycleV2)
    (events : List OperatorEventV3) :
    reduceOperatorEventsV3 lifecycle (events.map (·.bare)) =
      reduceOperatorEventsV3 lifecycle events := by
  unfold reduceOperatorEventsV3 reduceStateV3
  rw [List.foldl_map]
  simp only [ReductionStateV3.step_bare]

theorem ProjectionState.step_bare (schedule : ScheduleV3) (skipped : List String)
    (state : ProjectionState) (event : OperatorEventV3) :
    state.step schedule skipped event.bare = state.step schedule skipped event := by
  cases event with
  | mk recordMeta eventId occurredAt timeBasis uncertaintySeconds slotId payload =>
    cases payload with
    | wsprCycleArmed antennaLabel cycleStartsAt readiness => cases readiness <;> rfl
    | _ => rfl

theorem projectWsprRunV3_bare (schedule : ScheduleV3) (events : List OperatorEventV3) :
    projectWsprRunV3 schedule (events.map (·.bare)) = projectWsprRunV3 schedule events := by
  have hskipped : skippedIntents schedule (events.map (·.bare)) =
    skippedIntents schedule events := by
    unfold skippedIntents
    rw [reduceOperatorEventsV3_bare]
  unfold projectWsprRunV3
  dsimp only
  rw [hskipped, List.foldl_map]
  simp only [ProjectionState.step_bare]

theorem OperatorEventV3.armedSlot?_bare (schedule : ScheduleV3) (event : OperatorEventV3) :
    event.bare.armedSlot? schedule = event.armedSlot? schedule := by
  cases event with
  | mk recordMeta eventId occurredAt timeBasis uncertaintySeconds slotId payload =>
    cases payload with
    | wsprCycleArmed antennaLabel cycleStartsAt readiness => cases readiness <;> rfl
    | _ => rfl

theorem projectedSlots_bare (schedule : ScheduleV3) (events : List OperatorEventV3) :
    projectedSlots schedule (events.map (·.bare)) = projectedSlots schedule events := by
  unfold projectedSlots projectArmedSlot
  rw [List.foldl_map]
  simp only [OperatorEventV3.armedSlot?_bare]

theorem projectV3PayloadToV2_bare (payload : OperatorEventPayloadV3) :
    projectV3PayloadToV2 payload.bare = projectV3PayloadToV2 payload := by
  cases payload with
  | wsprCycleArmed antennaLabel cycleStartsAt readiness => cases readiness <;> rfl
  | _ => rfl

theorem projectV3EventToV2_bare (event : OperatorEventV3) :
    projectV3EventToV2 event.bare = (projectV3EventToV2 event).map (·.bare) := by
  unfold projectV3EventToV2
  have hpayload : event.bare.payload = event.payload.bare := rfl
  rw [hpayload, projectV3PayloadToV2_bare]
  cases projectV3PayloadToV2 event.payload <;> rfl

theorem filterMap_projectV3EventToV2_bare (events : List OperatorEventV3) :
    (events.filterMap projectV3EventToV2).map (·.bare) =
      (events.map (·.bare)).filterMap projectV3EventToV2 := by
  rw [List.map_filterMap, List.filterMap_map]
  exact List.filterMap_congr fun event _ => (projectV3EventToV2_bare event).symm

def ScheduleV3.bare (schedule : ScheduleV3) : ScheduleV3 :=
  { schedule with schemaVersion := schemaVersionV2, antennaControl := none }

/-- `other` holds the records of `bundle` under other envelopes. -/
structure Restamped (bundle other : BundleV3Contents) : Prop where
  sessionId : other.manifest.sessionId = bundle.manifest.sessionId
  createdAt : other.manifest.createdAt = bundle.manifest.createdAt
  appVersion : other.manifest.appVersion = bundle.manifest.appVersion
  station : { other.station with schemaVersion := schemaVersionV2 } =
    { bundle.station with schemaVersion := schemaVersionV2 }
  antennas : { other.antennas with schemaVersion := schemaVersionV2 } =
    { bundle.antennas with schemaVersion := schemaVersionV2 }
  schedule : other.schedule.bare = bundle.schedule.bare
  analysis : { other.analysis with schemaVersion := schemaVersionV2 } =
    { bundle.analysis with schemaVersion := schemaVersionV2 }
  events : other.events.map (·.bare) = bundle.events.map (·.bare)
  observations : other.observations.map (·.bare) = bundle.observations.map (·.bare)
  adapterRecords : other.adapterRecords.map (·.bare) = bundle.adapterRecords.map (·.bare)
  rig : other.rig.map (·.projectToV2.project) = bundle.rig.map (·.projectToV2.project)
  propagation : other.propagation.map (·.project) = bundle.propagation.map (·.project)

namespace Restamped

variable {bundle other third : BundleV3Contents}

theorem refl (bundle : BundleV3Contents) : Restamped bundle bundle := by
  constructor <;> rfl

theorem trans (h : Restamped bundle other) (h' : Restamped other third) :
    Restamped bundle third where
  sessionId := h'.sessionId.trans h.sessionId
  createdAt := h'.createdAt.trans h.createdAt
  appVersion := h'.appVersion.trans h.appVersion
  station := h'.station.trans h.station
  antennas := h'.antennas.trans h.antennas
  schedule := h'.schedule.trans h.schedule
  analysis := h'.analysis.trans h.analysis
  events := h'.events.trans h.events
  observations := h'.observations.trans h.observations
  adapterRecords := h'.adapterRecords.trans h.adapterRecords
  rig := h'.rig.trans h.rig
  propagation := h'.propagation.trans h.propagation

end Restamped

/-- The confirmed cycle that schema v4 and later give an observation. -/
def BundleV3Contents.repair? (bundle : BundleV3Contents) (observation : ObservationRecordV2) :
    Option ArmedWsprCycleV3 :=
  repairCycle? bundle.schedule (projectWsprRunV3 bundle.schedule bundle.events).cycles
    bundle.adapterRecords observation

/-- The observation as it enters the analysis model from schema v4 on. -/
def BundleV3Contents.repaired (bundle : BundleV3Contents) (observation : ObservationRecordV2) :
    ObservationRecord :=
  match bundle.repair? observation with
  | some cycle => (observation.alignTo cycle).project
  | none => observation.project

/-- The observation already carries the time and the slot of the cycle. -/
def ObservationRecordV2.Carries (observation : ObservationRecordV2) (cycle : ArmedWsprCycleV3) :
    Prop :=
  observation.recordMeta.recordedAt = cycle.window.startsAt ∧
    observation.slotId = some cycle.intentId ∧
    observation.slotLabel = some cycle.antennaLabel ∧
    observation.slotConfidence = some repairedSlotConfidence

/-- No WSPR.live observation would move to its confirmed cycle. -/
def BundleV3Contents.RepairIdle (bundle : BundleV3Contents) : Prop :=
  ∀ observation ∈ bundle.observations, ∀ cycle,
    bundle.repair? observation = some cycle → observation.Carries cycle

theorem spotSourceTime?_bare (adapterRecords : List AdapterRecordV2) (observationId : String) :
    spotSourceTime? (adapterRecords.map (·.bare)) observationId =
      spotSourceTime? adapterRecords observationId := by
  unfold spotSourceTime?
  rw [List.filterMap_map]
  rfl

theorem repairCycle?_bare (schedule : ScheduleV3) (cycles : List ArmedWsprCycleV3)
    (adapterRecords : List AdapterRecordV2) (observation : ObservationRecordV2) :
    repairCycle? schedule.bare cycles (adapterRecords.map (·.bare)) observation.bare =
      repairCycle? schedule cycles adapterRecords observation := by
  unfold repairCycle?
  rw [spotSourceTime?_bare]
  rfl

theorem alignTo_project_iff (observation : ObservationRecordV2) (cycle : ArmedWsprCycleV3) :
    (observation.alignTo cycle).project = observation.project ↔ observation.Carries cycle := by
  unfold ObservationRecordV2.alignTo ObservationRecordV2.project RecordMetaV2.project
  unfold ObservationRecordV2.Carries
  simp only [ObservationRecord.mk.injEq, RecordMeta.mk.injEq, true_and, and_true, eq_comm]

theorem repaired_eq_project_iff (bundle : BundleV3Contents) (observation : ObservationRecordV2) :
    bundle.repaired observation = observation.project ↔
      ∀ cycle, bundle.repair? observation = some cycle → observation.Carries cycle := by
  unfold BundleV3Contents.repaired
  cases hrepair : bundle.repair? observation with
  | none => simp
  | some cycle => simp [alignTo_project_iff]

namespace Restamped

variable {bundle other : BundleV3Contents}

theorem projectWsprRunV3_eq (h : Restamped bundle other) :
    projectWsprRunV3 other.schedule other.events =
      projectWsprRunV3 bundle.schedule bundle.events := by
  have hbare : ∀ b : BundleV3Contents, projectWsprRunV3 b.schedule b.events =
      projectWsprRunV3 b.schedule.bare (b.events.map (·.bare)) := by
    intro b
    rw [projectWsprRunV3_bare]
    rfl
  rw [hbare other, hbare bundle, h.schedule, h.events]

theorem projectedSlots_eq (h : Restamped bundle other) :
    projectedSlots other.schedule other.events = projectedSlots bundle.schedule bundle.events := by
  have hbare : ∀ b : BundleV3Contents, projectedSlots b.schedule b.events =
      projectedSlots b.schedule.bare (b.events.map (·.bare)) := by
    intro b
    rw [projectedSlots_bare]
    rfl
  rw [hbare other, hbare bundle, h.schedule, h.events]

theorem repair?_eq (h : Restamped bundle other) {record observation : ObservationRecordV2}
    (hbare : record.bare = observation.bare) :
    other.repair? record = bundle.repair? observation := by
  unfold BundleV3Contents.repair?
  rw [← repairCycle?_bare other.schedule, ← repairCycle?_bare bundle.schedule, h.schedule,
    h.adapterRecords, hbare, h.projectWsprRunV3_eq]

theorem repaired_eq (h : Restamped bundle other) {record observation : ObservationRecordV2}
    (hbare : record.bare = observation.bare) :
    other.repaired record = bundle.repaired observation := by
  have hproject : record.project = observation.project := by
    change record.bare.project = observation.bare.project
    rw [hbare]
  have halign : ∀ cycle, (record.alignTo cycle).project = (observation.alignTo cycle).project := by
    intro cycle
    change (record.bare.alignTo cycle).project = (observation.bare.alignTo cycle).project
    rw [hbare]
  unfold BundleV3Contents.repaired
  rw [h.repair?_eq hbare]
  cases bundle.repair? observation with
  | none => exact hproject
  | some cycle => exact halign cycle

theorem map_repaired (h : Restamped bundle other) :
    other.observations.map other.repaired = bundle.observations.map bundle.repaired := by
  have hbare : ∀ {b : BundleV3Contents}, Restamped bundle b →
      b.observations.map b.repaired = (b.observations.map (·.bare)).map bundle.repaired := by
    intro b hb
    rw [List.map_map]
    exact List.map_congr_left fun observation _ => hb.repaired_eq rfl
  rw [hbare h, hbare (refl bundle), h.observations]

theorem legacyEvents_eq (h : Restamped bundle other) :
    other.projectToV2.legacyEvents = bundle.projectToV2.legacyEvents := by
  apply BundleV2Contents.legacyEvents_congr
  change (other.events.filterMap projectV3EventToV2).map (·.bare) =
    (bundle.events.filterMap projectV3EventToV2).map (·.bare)
  rw [filterMap_projectV3EventToV2_bare, filterMap_projectV3EventToV2_bare, h.events]

end Restamped

theorem intoCurrent_observations_of_lt {bundle : BundleV3Contents}
    (h : bundle.manifest.schemaVersion < 4) :
    bundle.intoCurrent.bundle.observations = bundle.observations.map (·.project) := by
  change ((repairConfirmedWsprLiveObservations _ _ _ _ _).map _).map _ = _
  rw [repairConfirmedWsprLiveObservations, if_pos h, List.map_map]
  rfl

theorem intoCurrent_observations_of_le {bundle : BundleV3Contents}
    (h : 4 ≤ bundle.manifest.schemaVersion) :
    bundle.intoCurrent.bundle.observations = bundle.observations.map bundle.repaired := by
  change ((repairConfirmedWsprLiveObservations _ _ _ _ _).map _).map _ = _
  rw [repairConfirmedWsprLiveObservations, if_neg (Nat.not_lt.2 h), List.map_map, List.map_map]
  apply List.map_congr_left
  intro observation _
  rw [BundleV3Contents.repaired, BundleV3Contents.repair?]
  dsimp only [Function.comp]
  cases repairCycle? bundle.schedule (projectWsprRunV3 bundle.schedule bundle.events).cycles
    bundle.adapterRecords observation <;> rfl

/-- Only the observations of a restamped bundle can differ in the analysis model. -/
theorem Restamped.current_eq_iff {bundle other : BundleV3Contents} (h : Restamped bundle other) :
    other.intoCurrent.bundle = bundle.intoCurrent.bundle ↔
      other.intoCurrent.bundle.observations = bundle.intoCurrent.bundle.observations := by
  refine ⟨fun heq => by rw [heq], fun hobservations => ?_⟩
  have hmanifest : other.intoCurrent.bundle.manifest = bundle.intoCurrent.bundle.manifest := by
    change BundleManifest.mk _ _ _ _ _ = BundleManifest.mk _ _ _ _ _
    rw [BundleManifest.mk.injEq]
    exact ⟨rfl, h.sessionId, h.createdAt, h.appVersion, rfl⟩
  have hschedule : other.intoCurrent.bundle.schedule = bundle.intoCurrent.bundle.schedule := by
    change Schedule.mk _ _ _ _ _ = Schedule.mk _ _ _ _ _
    rw [Schedule.mk.injEq]
    exact ⟨rfl, congrArg (·.sessionId) h.schedule, congrArg (·.mode) h.schedule,
      congrArg (·.goal) h.schedule, h.projectedSlots_eq⟩
  have hrig : other.intoCurrent.bundle.rig = bundle.intoCurrent.bundle.rig := by
    have hmap := h.rig
    change (other.rig.map _).map _ = (bundle.rig.map _).map _
    rwa [List.map_map, List.map_map]
  have hpropagation :
      other.intoCurrent.bundle.propagation = bundle.intoCurrent.bundle.propagation := by
    have hmap := h.propagation
    change (other.propagation.map _).map _ = (bundle.propagation.map _).map _
    rwa [List.map_map, List.map_map]
  exact (BundleContents.mk.injEq ..).mpr ⟨hmanifest, h.station, h.antennas, hschedule,
    h.legacyEvents_eq, hobservations, rfl, hrig, hpropagation, h.analysis⟩

/-- No armed event records a readiness, as below schema v5. -/
def BundleV3Contents.Unverified (bundle : BundleV3Contents) : Prop :=
  ∀ event ∈ bundle.events, ∀ antennaLabel cycleStartsAt basis,
    event.payload ≠ .wsprCycleArmed antennaLabel cycleStartsAt (some basis)

theorem upgradeV3Payload_bare {payload : OperatorEventPayloadV3}
    (h : ∀ antennaLabel cycleStartsAt basis,
      payload ≠ .wsprCycleArmed antennaLabel cycleStartsAt (some basis)) :
    (upgradeV3Payload payload).bare = payload.bare := by
  cases payload with
  | wsprCycleArmed antennaLabel cycleStartsAt readiness =>
    cases readiness with
    | none => rfl
    | some basis => exact absurd rfl (h antennaLabel cycleStartsAt basis)
  | _ => rfl

theorem upgradeV3_restamped {bundle : BundleV3Contents} (h : bundle.Unverified) :
    Restamped bundle (upgradeV3BundleModelToV5 bundle) where
  sessionId := rfl
  createdAt := rfl
  appVersion := rfl
  station := rfl
  antennas := rfl
  schedule := rfl
  analysis := rfl
  events := by
    change (bundle.events.map _).map _ = _
    rw [List.map_map]
    apply List.map_congr_left
    intro event hevent
    have hpayload := upgradeV3Payload_bare (h event hevent)
    change OperatorEventV3.mk _ _ _ _ _ _ _ = OperatorEventV3.mk _ _ _ _ _ _ _
    rw [OperatorEventV3.mk.injEq]
    exact ⟨rfl, rfl, rfl, rfl, rfl, rfl, hpayload⟩
  observations := List.map_map
  adapterRecords := List.map_map
  rig := List.map_map
  propagation := List.map_map

theorem upgradeV5_restamped (E : Env) (bundle : BundleV3Contents) (upgrader : RuntimeContextV6) :
    Restamped bundle (upgradeV5BundleModelToV6 E bundle upgrader) where
  sessionId := rfl
  createdAt := rfl
  appVersion := rfl
  station := rfl
  antennas := rfl
  schedule := rfl
  analysis := rfl
  events := List.map_map
  observations := List.map_map
  adapterRecords := List.map_map
  rig := List.map_map
  propagation := List.map_map

theorem validateV3Model_unverified {E : Env} {bundle : BundleV3Contents}
    (hschema : bundle.manifest.schemaVersion < schemaVersionV5)
    (h : validateV3Model E bundle = .ok ()) : bundle.Unverified := by
  unfold validateV3Model at h
  simp only [bind_eq_ok, mapError_eq_ok] at h
  obtain ⟨_, _, _, _, _, _, _, _, _, _, _, _, _, _, _, _, _, _, hcontrol⟩ := h
  unfold AntennaControl.validateAntennaControlV5 AntennaControl.hasAntennaControlFields at hcontrol
  rw [if_pos hschema, failIf_eq_ok, Bool.or_eq_false_iff] at hcontrol
  intro event hevent antennaLabel cycleStartsAt basis hpayload
  have hnone := List.any_eq_false.1 hcontrol.2 event hevent
  simp [hpayload] at hnone

theorem repair?_of_no_intents {bundle : BundleV3Contents}
    (h : bundle.schedule.wsprCycleIntents = []) (observation : ObservationRecordV2) :
    bundle.repair? observation = none := by
  have hdirection : ∀ intentId, bundle.schedule.intentDirection? intentId = none := by
    intro intentId
    unfold ScheduleV3.intentDirection?
    rw [h]
    rfl
  have hconfirms : ∀ direction sourceTime (cycle : ArmedWsprCycleV3),
      cycle.confirms bundle.schedule observation.band direction sourceTime = false := by
    intro direction sourceTime cycle
    simp [ArmedWsprCycleV3.confirms, hdirection]
  unfold BundleV3Contents.repair? repairCycle?
  simp [hconfirms]

theorem upgradeV2_unverified (bundle : BundleV2Contents) :
    (upgradeV2BundleModel bundle).Unverified := by
  intro event hevent antennaLabel cycleStartsAt basis hpayload
  obtain ⟨source, -, rfl⟩ := List.mem_map.1 hevent
  change upgradeV2Payload source.payload = _ at hpayload
  cases hsource : source.payload <;> simp [hsource, upgradeV2Payload] at hpayload

theorem projectV3CorrectionToV2_upgrade (correction : EventCorrectionActionV2) :
    projectV3CorrectionToV2 (upgradeV2Correction correction) = some correction := by
  cases correction with
  | retract => rfl
  | replace replacement =>
    cases replacement with
    | mk occurredAt timeBasis uncertaintySeconds slotId payload => cases payload <;> rfl

theorem projectV3EventToV2_upgrade (event : OperatorEventV2) :
    (projectV3EventToV2 (upgradeV2Event event)).map (·.bare) = some event.bare := by
  cases event with
  | mk recordMeta eventId occurredAt timeBasis uncertaintySeconds slotId payload =>
    cases payload with
    | eventCorrected targetEventId correction reason =>
      simp [projectV3EventToV2, upgradeV2Event, upgradeV2Payload, projectV3PayloadToV2,
        projectV3CorrectionToV2_upgrade]
      rfl
    | _ => rfl

theorem upgradeV2_legacyEvents (bundle : BundleV2Contents) :
    (upgradeV2BundleModel bundle).projectToV2.legacyEvents = bundle.legacyEvents := by
  apply BundleV2Contents.legacyEvents_congr
  change ((bundle.events.map upgradeV2Event).filterMap projectV3EventToV2).map (·.bare) = _
  rw [List.map_filterMap, List.filterMap_map]
  calc
    _ = bundle.events.filterMap fun event => some event.bare :=
      List.filterMap_congr fun event _ => projectV3EventToV2_upgrade event
    _ = _ := congrFun List.filterMap_eq_map bundle.events

theorem upgradeV2_projectedSlots (bundle : BundleV2Contents) :
    projectedSlots (upgradeV2BundleModel bundle).schedule (upgradeV2BundleModel bundle).events =
      bundle.schedule.slots.insertionSort PlannedSlot.Before := by
  have harmed : ∀ slots event,
      projectArmedSlot (upgradeV2BundleModel bundle).schedule slots (upgradeV2Event event) =
        slots := by
    intro slots event
    have hnone : (upgradeV2Event event).armedSlot? (upgradeV2BundleModel bundle).schedule =
        none := by
      cases event with
      | mk recordMeta eventId occurredAt timeBasis uncertaintySeconds slotId payload =>
        cases payload <;> rfl
    rw [projectArmedSlot, hnone]
  have hfold : ∀ (events : List OperatorEventV2) slots,
      (events.map upgradeV2Event).foldl
        (projectArmedSlot (upgradeV2BundleModel bundle).schedule) slots = slots := by
    intro events
    induction events with
    | nil => exact fun _ => rfl
    | cons event rest ih =>
      intro slots
      rw [List.map_cons, List.foldl_cons, harmed, ih]
  have hslots : ((upgradeV2BundleModel bundle).schedule.slots.map (·.project)) =
      bundle.schedule.slots := by
    change (bundle.schedule.slots.map upgradeV2Slot).map PlannedSlotV3.project = _
    rw [List.map_map]
    exact List.map_id _
  unfold projectedSlots
  rw [hslots]
  exact congrArg _ (hfold bundle.events bundle.schedule.slots)

instance : Std.Total PlannedSlot.Before where
  total a b := by
    rcases lt_trichotomy a.sequenceNumber b.sequenceNumber with h | h | h
    · exact .inl (.inl h)
    · exact (le_total a.startsAt b.startsAt).imp (fun hle => .inr ⟨h, hle⟩)
        (fun hle => .inr ⟨h.symm, hle⟩)
    · exact .inr (.inl h)

instance : IsTrans PlannedSlot PlannedSlot.Before where
  trans a b c hab hbc := by
    rcases hab with hab | ⟨hab, hle⟩ <;> rcases hbc with hbc | ⟨hbc, hle'⟩
    · exact .inl (hab.trans hbc)
    · exact .inl (hab.trans_eq hbc)
    · exact .inl (hab.trans_lt hbc)
    · exact .inr ⟨hab.trans hbc, hle.trans hle'⟩

/-- The slots of the plan are stored in the order the projection sorts them into. -/
def Schedule.Ordered (schedule : Schedule) : Prop :=
  schedule.slots.Pairwise PlannedSlot.Before

theorem insertionSort_before_iff (slots : List PlannedSlot) :
    slots.insertionSort PlannedSlot.Before = slots ↔ slots.Pairwise PlannedSlot.Before := by
  refine ⟨fun h => ?_, fun h => h.insertionSort_eq⟩
  rw [← h]
  exact List.pairwise_insertionSort PlannedSlot.Before slots

/-- The documents a schema-v2 bundle names its schema and session in. -/
def BundleV2Contents.documentIdentities (bundle : BundleV2Contents) : List (ℕ × String) :=
  [(bundle.manifest.schemaVersion, bundle.manifest.sessionId),
    (bundle.sessionState.schemaVersion, bundle.sessionState.sessionId),
    (bundle.station.schemaVersion, bundle.station.sessionId),
    (bundle.antennas.schemaVersion, bundle.antennas.sessionId),
    (bundle.schedule.schemaVersion, bundle.schedule.sessionId),
    (bundle.analysis.schemaVersion, bundle.analysis.sessionId)]

/-- The loop of `validate_v2_bundle` over the documents reports nothing. -/
def BundleV2Contents.documentsMatch (bundle : BundleV2Contents) : Bool :=
  bundle.documentIdentities.all fun document =>
    document.1 == schemaVersionV2 && document.2 == bundle.manifest.sessionId

theorem upgradeV2_current_iff {bundle : BundleV2Contents} (h : bundle.documentsMatch = true) :
    (upgradeV2BundleModel bundle).intoCurrent.bundle = bundle.intoCurrent.bundle ↔
      bundle.schedule.Ordered := by
  have hdocuments := h
  unfold BundleV2Contents.documentsMatch BundleV2Contents.documentIdentities at hdocuments
  simp only [List.all_cons, List.all_nil, Bool.and_eq_true, beq_iff_eq, Bool.and_true]
    at hdocuments
  obtain ⟨-, -, ⟨hstation, -⟩, ⟨hantennas, -⟩, ⟨hschedule, -⟩, ⟨hanalysis, -⟩⟩ := hdocuments
  rw [Schedule.Ordered, ← insertionSort_before_iff, ← upgradeV2_projectedSlots]
  refine ⟨fun heq => congrArg (·.schedule.slots) heq, fun hslots => ?_⟩
  have hstation' : { bundle.station with schemaVersion := 2 } = bundle.station := by
    rw [← show bundle.station.schemaVersion = 2 from hstation]
  have hantennas' : { bundle.antennas with schemaVersion := 2 } = bundle.antennas := by
    rw [← show bundle.antennas.schemaVersion = 2 from hantennas]
  have hanalysis' : { bundle.analysis with schemaVersion := 2 } = bundle.analysis := by
    rw [← show bundle.analysis.schemaVersion = 2 from hanalysis]
  have hschedule' : (upgradeV2BundleModel bundle).intoCurrent.bundle.schedule =
    bundle.schedule := by
    change Schedule.mk 2 bundle.schedule.sessionId bundle.schedule.mode bundle.schedule.goal _ = _
    rw [hslots, ← show bundle.schedule.schemaVersion = 2 from hschedule]
  have hobservations : (upgradeV2BundleModel bundle).intoCurrent.bundle.observations =
      bundle.observations.map (·.project) := by
    rw [intoCurrent_observations_of_lt (by decide : 3 < 4)]
    exact List.map_map
  have hrig : (upgradeV2BundleModel bundle).intoCurrent.bundle.rig =
    bundle.rig.map (·.project) := by
    change ((bundle.rig.map upgradeV2Rig).map _).map _ = _
    rw [List.map_map, List.map_map]
    rfl
  have hpropagation : (upgradeV2BundleModel bundle).intoCurrent.bundle.propagation =
      bundle.propagation.map (·.project) := by
    change ((bundle.propagation.map _).map _).map _ = _
    rw [List.map_map, List.map_map]
    rfl
  exact (BundleContents.mk.injEq ..).mpr ⟨rfl, hstation', hantennas', hschedule',
    upgradeV2_legacyEvents bundle, hobservations, rfl, hrig, hpropagation, hanalysis'⟩

/-- One upgrade of the bundle contents; the upgrader of schema v6 is the machine's own. -/
inductive Upgrade (E : Env) : StoredBundle → StoredBundle → Prop
  | v2ToV3 (bundle : BundleV2Contents) (h : bundle.manifest.schemaVersion = schemaVersionV2) :
    Upgrade E (.v2 bundle) (.v3 (upgradeV2BundleModel bundle))
  | v3ToV5 (bundle : BundleV3Contents) (h : bundle.manifest.schemaVersion = schemaVersionV3 ∨
      bundle.manifest.schemaVersion = schemaVersionV4) :
    Upgrade E (.v3 bundle) (.v3 (upgradeV3BundleModelToV5 bundle))
  | v5ToV6 (bundle : BundleV3Contents) (upgrader : RuntimeContextV6)
      (h : bundle.manifest.schemaVersion = schemaVersionV5) :
    Upgrade E (.v3 bundle) (.v3 (upgradeV5BundleModelToV6 E bundle upgrader))

/-- The upgrade of the source's schema accepts it; schema v1 has an upgrade of its own. -/
def StoredBundle.Accepted (E : Env) : StoredBundle → Prop
  | .v1 _ => False
  | .v2 bundle => bundle.documentsMatch = true
  | .v3 bundle => validateV3Model E bundle = .ok ()

/-- Upgrading the source keeps the analysed session: a v2 plan is stored in order, and
a schema-v3 bundle has no observation that schema v4 would align. -/
def StoredBundle.UpgradeKeeps : StoredBundle → Prop
  | .v1 _ => True
  | .v2 bundle => bundle.schedule.Ordered
  | .v3 bundle => bundle.manifest.schemaVersion = schemaVersionV3 → bundle.RepairIdle

/-- Every upgrade from `bundle` on restamps it, and none stays below schema v5. -/
theorem upgrades_restamp {E : Env} {bundle : BundleV3Contents} {target : StoredBundle}
    (hsource : bundle.manifest.schemaVersion < schemaVersionV5 → bundle.Unverified)
    (h : Relation.ReflTransGen (Upgrade E) (.v3 bundle) target) :
    ∃ upgraded, target = .v3 upgraded ∧ Restamped bundle upgraded ∧
      (upgraded = bundle ∨ schemaVersionV5 ≤ upgraded.manifest.schemaVersion) := by
  induction h with
  | refl => exact ⟨bundle, rfl, .refl bundle, .inl rfl⟩
  | tail _ hstep ih =>
    obtain ⟨current, rfl, hrestamped, hschema⟩ := ih
    cases hstep with
    | v3ToV5 _ hversion =>
      have hbelow : current.manifest.schemaVersion < schemaVersionV5 := by
        rcases hversion with hversion | hversion <;> rw [hversion] <;> decide
      rcases hschema with rfl | hschema
      · exact ⟨_, rfl, upgradeV3_restamped (hsource hbelow), .inr (le_refl _)⟩
      · omega
    | v5ToV6 _ upgrader hversion =>
      exact ⟨_, rfl, hrestamped.trans (upgradeV5_restamped E current upgrader),
        .inr (by decide : 5 ≤ 6)⟩

theorem repaired_map_eq_iff (bundle : BundleV3Contents) :
    bundle.observations.map bundle.repaired = bundle.observations.map (·.project) ↔
      bundle.RepairIdle := by
  rw [List.map_inj_left]
  exact forall₂_congr fun observation _ => repaired_eq_project_iff bundle observation

theorem Restamped.current_eq_of_le {bundle other : BundleV3Contents} (h : Restamped bundle other)
    (hbundle : 4 ≤ bundle.manifest.schemaVersion) (hother : 4 ≤ other.manifest.schemaVersion) :
    other.intoCurrent.bundle = bundle.intoCurrent.bundle := by
  rw [h.current_eq_iff, intoCurrent_observations_of_le hbundle,
    intoCurrent_observations_of_le hother]
  exact h.map_repaired

theorem Restamped.current_iff_of_lt {bundle other : BundleV3Contents} (h : Restamped bundle other)
    (hbundle : bundle.manifest.schemaVersion < 4) (hother : 4 ≤ other.manifest.schemaVersion) :
    other.intoCurrent.bundle = bundle.intoCurrent.bundle ↔ bundle.RepairIdle := by
  rw [h.current_eq_iff, intoCurrent_observations_of_lt hbundle,
    intoCurrent_observations_of_le hother, h.map_repaired, repaired_map_eq_iff]

/-- A composition of upgrades keeps the analysed session exactly under `UpgradeKeeps`. -/
theorem upgrades_current_iff {E : Env} {source target : StoredBundle} (hsource : source.Accepted E)
    (h : Relation.TransGen (Upgrade E) source target) :
    target.current = source.current ↔ source.UpgradeKeeps := by
  obtain ⟨next, hstep, hrest⟩ := Relation.TransGen.head'_iff.1 h
  cases hstep with
  | v2ToV3 bundle hversion =>
    obtain ⟨upgraded, rfl, hrestamped, hschema⟩ :=
      upgrades_restamp (fun _ => upgradeV2_unverified bundle) hrest
    have hidle : (upgradeV2BundleModel bundle).RepairIdle := by
      intro observation _ cycle hcycle
      rw [repair?_of_no_intents rfl] at hcycle
      cases hcycle
    have hkeeps : upgraded.intoCurrent.bundle =
        (upgradeV2BundleModel bundle).intoCurrent.bundle := by
      rcases hschema with rfl | hschema
      · rfl
      · exact (hrestamped.current_iff_of_lt (by decide : 3 < 4)
          (le_trans (by decide) hschema)).2 hidle
    change upgraded.intoCurrent.bundle = bundle.intoCurrent.bundle ↔ bundle.schedule.Ordered
    rw [hkeeps]
    exact upgradeV2_current_iff hsource
  | v3ToV5 bundle hversion =>
    have hbelow : bundle.manifest.schemaVersion < schemaVersionV5 := by
      rcases hversion with hversion | hversion <;> rw [hversion] <;> decide
    have hfirst := upgradeV3_restamped (validateV3Model_unverified hbelow hsource)
    obtain ⟨upgraded, rfl, hrestamped, hschema⟩ :=
      upgrades_restamp (fun hlt => absurd hlt (by decide : ¬5 < 5)) hrest
    have hfive : 4 ≤ upgraded.manifest.schemaVersion := by
      rcases hschema with rfl | hschema
      · exact (by decide : 4 ≤ 5)
      · exact le_trans (by decide) hschema
    change upgraded.intoCurrent.bundle = bundle.intoCurrent.bundle ↔
      (bundle.manifest.schemaVersion = schemaVersionV3 → bundle.RepairIdle)
    rcases hversion with hversion | hversion
    · rw [(hfirst.trans hrestamped).current_iff_of_lt (by rw [hversion]; decide) hfive]
      simp [hversion]
    · have heq := (hfirst.trans hrestamped).current_eq_of_le (by rw [hversion]; decide) hfive
      simp [heq, hversion, schemaVersionV3, schemaVersionV4]
  | v5ToV6 bundle upgrader hversion =>
    have hfirst := upgradeV5_restamped E bundle upgrader
    obtain ⟨upgraded, rfl, hrestamped, hschema⟩ :=
      upgrades_restamp (fun hlt => absurd hlt (by decide : ¬6 < 5)) hrest
    have hfive : 4 ≤ upgraded.manifest.schemaVersion := by
      rcases hschema with rfl | hschema
      · exact (by decide : 4 ≤ 6)
      · exact le_trans (by decide) hschema
    change upgraded.intoCurrent.bundle = bundle.intoCurrent.bundle ↔
      (bundle.manifest.schemaVersion = schemaVersionV3 → bundle.RepairIdle)
    have heq := (hfirst.trans hrestamped).current_eq_of_le (by rw [hversion]; decide) hfive
    simp [heq, hversion, schemaVersionV3, schemaVersionV5]

namespace Scenario

def spotMeta : RecordMetaV2 where
  schemaVersion := 3
  sessionId := "s1"
  recordedAt := noon 120
  provenance := {
    providerId := (Provenance.fromLegacy .wsprLive "0.1.0").providerId
    sourceId := ⟨"wspr-spots", by decide⟩
    acquisitionChannel := ⟨"http", by decide⟩
    adapterId := ⟨"antennabench.wspr", by decide⟩
    adapterVersion := "0.1.0" }
  mutation := ⟨"spot", 0, 2⟩
  runtimeContextId := none

def spotRecord : AdapterRecordV2 where
  recordMeta := spotMeta
  recordId := "a1"
  sourceTime := some (noon 120)
  recordType := "wspr_live_spot"
  disposition := .accepted
  reason := ⟨"accepted", by decide⟩
  normalizedRecords := [⟨.observation, "o1"⟩]
  input := .inline "spot" "text/plain" none none

/-- A spot of the cycle that starts a second later, recorded at its own time. -/
def spotObservation : ObservationRecordV2 where
  recordMeta := { spotMeta with mutation := ⟨"spot", 1, 2⟩ }
  observationId := "o1"
  adapterRecordIds := ["a1"]
  observationKind := .publicReport
  band := .m40
  frequencyHz := none
  mode := none
  reporterCall := some "K1ABC"
  heardCall := some "W1AW"
  reporterGrid := none
  heardGrid := none
  distanceKm := none
  azimuthDegrees := none
  snrDb := none
  driftHzPerMinute := none
  powerWatts := none
  slotId := none
  slotLabel := none
  slotConfidence := none
  raw := .object [("direction", .string "receive")]

/-- A schema-v3 session with one armed cycle and a spot in it. -/
def spotBundle : BundleV3Contents :=
  { correctedBundle with
    schedule := ⟨3, "s1", .rxFocused, .dx, none, [],
      [⟨"c1", 1, .m40, "A", some .receive, none⟩], []⟩
    events := [signalEvent "e1" none (.sessionStarted none),
      signalEvent "e2" (some "c1") (.wsprCycleArmed "A" (noon 121) none)]
    observations := [spotObservation]
    adapterRecords := [spotRecord] }

theorem spotBundle_valid : validateV3Model (env unknown) spotBundle = .ok () := by
  have hany : (validateV3Model (env unknown) spotBundle).toOption.any (fun _ => true) = true := by
    decide
  obtain ⟨_, hok, -⟩ := exists_ok_of_any hany
  exact hok

theorem spotBundle_upgraded_valid :
    validateV3Model (env unknown) (upgradeV3BundleModelToV5 spotBundle) = .ok () := by
  have hany : (validateV3Model (env unknown) (upgradeV3BundleModelToV5 spotBundle)).toOption.any
      (fun _ => true) = true := by decide
  obtain ⟨_, hok, -⟩ := exists_ok_of_any hany
  exact hok

/-- The upgrade moves the observation into the slot of the armed cycle. -/
theorem spotBundle_times :
    spotBundle.intoCurrent.bundle.observations.map (fun o => (o.recordMeta.timestamp, o.slotId)) =
        [(noon 120, none)] ∧
      (upgradeV3BundleModelToV5 spotBundle).intoCurrent.bundle.observations.map
        (fun o => (o.recordMeta.timestamp, o.slotId)) = [(noon 121, some "c1")] := by
  constructor <;> decide

theorem spotBundle_moves : (StoredBundle.v3 spotBundle).Accepted (env unknown) ∧
    Relation.TransGen (Upgrade (env unknown)) (.v3 spotBundle)
      (.v3 (upgradeV3BundleModelToV5 spotBundle)) ∧
    validateV3Model (env unknown) (upgradeV3BundleModelToV5 spotBundle) = .ok () ∧
    (StoredBundle.v3 (upgradeV3BundleModelToV5 spotBundle)).current ≠
      (StoredBundle.v3 spotBundle).current := by
  refine ⟨spotBundle_valid, .single (.v3ToV5 spotBundle (.inl rfl)), spotBundle_upgraded_valid,
    fun heq => ?_⟩
  have htimes := congrArg
    (fun b : BundleContents => b.observations.map fun o => (o.recordMeta.timestamp, o.slotId)) heq
  change (upgradeV3BundleModelToV5 spotBundle).intoCurrent.bundle.observations.map _ =
    spotBundle.intoCurrent.bundle.observations.map _ at htimes
  rw [spotBundle_times.1, spotBundle_times.2] at htimes
  exact absurd htimes (by decide)

theorem spotBundle_current_iff :
    (StoredBundle.v3 (upgradeV3BundleModelToV5 spotBundle)).current =
        (StoredBundle.v3 spotBundle).current ↔ (StoredBundle.v3 spotBundle).UpgradeKeeps :=
  upgrades_current_iff spotBundle_valid (.single (.v3ToV5 spotBundle (.inl rfl)))

end Scenario

end AntennaBench
