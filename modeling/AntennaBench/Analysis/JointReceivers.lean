import AntennaBench.Analysis.PairSlots
import AntennaBench.Analysis.ReporterActivity
import AntennaBench.Timeline.Related

/-!
# The receivers of a block

The two cycles of an eligible block: which receivers `analyze_reporter_activity` counts,
and that their four outcomes agree with the usable observations.
-/

namespace AntennaBench

open Timeline

namespace CensusEnv

variable (env : CensusEnv) (records : List AdapterRecordV2)

/-- A census row reports the reporter active in a cycle. -/
def Reported (key : CensusKey) (name : String) : Prop :=
  ∃ record ∈ records, ∃ reporter, env.parseCensusRow record = some (key, reporter) ∧
    reporter.reporter = name

/-- A census summary covers the cycle. -/
def Covered (key : CensusKey) : Prop :=
  ∃ record ∈ records, ∃ summary, env.parseSummary record = some summary ∧
    summary.covers key.1 key.2 = true

/-- The census coverage of a slot in a stratum is known. -/
def Known (stratum : ComparisonStratum) (slot : AlignedSlot) : Prop :=
  stratum.direction = .transmit ∧ eqIgnoreAsciiCase stratum.mode.text "WSPR" = true ∧
    env.Covered records slot.censusKey

variable {env records}

theorem census_isKnown : ∀ summary ∈ (env.census records).summaries,
    summary.coverage.isKnown = true := by
  intro summary hmem
  obtain ⟨record, -, hparse⟩ := List.mem_filterMap.1 hmem
  exact parseSummary_isKnown hparse

theorem mem_census_rows {key : CensusKey} {reporter : ReporterActivityReporter} :
    (key, reporter) ∈ (env.census records).rows ↔
      ∃ record ∈ records, env.parseCensusRow record = some (key, reporter) :=
  List.mem_filterMap

/-- The reporters of a cycle are those the rows report. -/
theorem mem_reporters {key : CensusKey} {name : String} :
    name ∈ (reportersAt key (env.census records).rows).map (·.reporter) ↔
      env.Reported records key name := by
  rw [mem_reportersAt_names]
  constructor
  · rintro ⟨reporter, hrow, hname⟩
    obtain ⟨record, hmem, hparse⟩ := mem_census_rows.1 hrow
    exact ⟨record, hmem, reporter, hparse, hname⟩
  · rintro ⟨record, hmem, reporter, hparse, hname⟩
    exact ⟨reporter, mem_census_rows.2 ⟨record, hmem, hparse⟩, hname⟩

theorem coverage_isKnown {stratum : ComparisonStratum} {slot : AlignedSlot} :
    ((env.census records).coverage stratum slot).isKnown = true ↔
      env.Known records stratum slot := by
  have hcovered : (coverageFor slot.censusKey.1 slot.censusKey.2
      (env.census records).summaries).1.isKnown = true ↔ env.Covered records slot.censusKey := by
    rw [coverageFor_isKnown census_isKnown]
    constructor
    · rintro ⟨summary, hmem, hcovers⟩
      obtain ⟨record, hrecord, hparse⟩ := List.mem_filterMap.1 hmem
      exact ⟨record, hrecord, summary, hparse, hcovers⟩
    · rintro ⟨record, hrecord, summary, hparse, hcovers⟩
      exact ⟨summary, List.mem_filterMap.2 ⟨record, hrecord, hparse⟩, hcovers⟩
  unfold Census.coverage Known
  by_cases hreceive : stratum.direction = .receive
  · rw [if_pos hreceive, hreceive]
    simp [ReporterActivityCoverage.isKnown]
  have htransmit : stratum.direction = .transmit := by
    cases hdirection : stratum.direction with
    | transmit => rfl
    | receive => exact absurd hdirection hreceive
  rw [if_neg hreceive]
  by_cases hmode : eqIgnoreAsciiCase stratum.mode.text "WSPR" = true
  · rw [if_neg (by simp [hmode]), hcovered]
    simp [htransmit, hmode]
  · rw [if_pos (by simp [hmode])]
    simp [ReporterActivityCoverage.isKnown, hmode]

end CensusEnv

theorem RecordSource.key_injective : Function.Injective RecordSource.key := by
  have hfind : ∀ source : RecordSource,
      recordSources.find? (·.key = source.key) = some source := by
    intro source
    cases source <;> decide
  intro a b h
  have ha := hfind a
  rw [h, hfind b] at ha
  exact (Option.some.inj ha).symm

theorem activityStratumKey_injective : Function.Injective activityStratumKey := by
  rintro ⟨direction, band, ⟨mode⟩, kind, source⟩ ⟨direction', band', ⟨mode'⟩, kind', source'⟩ h
  simp only [activityStratumKey, toLex_inj, Prod.mk.injEq] at h
  obtain ⟨hdirection, hband, rfl, hkind, hsource⟩ := h
  have hd : direction = direction' := by
    revert hdirection
    cases direction <;> cases direction' <;> simp [PathDirection.ctorIdx]
  have hb : bands[band.ctorIdx]?.getD .m2 = band := by cases band <;> rfl
  have hb' : bands[band'.ctorIdx]?.getD .m2 = band' := by cases band' <;> rfl
  have hk : kind = kind' := by
    revert hkind
    cases kind <;> cases kind' <;> simp [ObservationKind.ctorIdx]
  rw [hd, ← hb, hband, hb', hk, RecordSource.key_injective hsource]

namespace ActivityInputs

variable {inputs : ActivityInputs}

/-- A usable observation of the slot and the stratum has the remote call. -/
def HeardIn (inputs : ActivityInputs) (stratum : ComparisonStratum) (slotId remote : String) :
    Prop :=
  ∃ classified ∈ inputs.observations, classified.isUsable = true ∧
    classified.assignment.slotId = some slotId ∧
    observationStratum inputs.callsign classified.observation = some (stratum, remote)

theorem heardEntry_eq_some {classified : ClassifiedObservation} {entry : HeardEntry} :
    inputs.heardEntry classified = some entry ↔ classified.isUsable = true ∧
      classified.assignment.slotId = some entry.slotId ∧
      observationStratum inputs.callsign classified.observation =
        some (entry.stratum, entry.remote) := by
  unfold heardEntry
  by_cases husable : classified.isUsable = true
  · rw [if_neg (by simp [husable])]
    simp only [Option.bind_eq_bind, Option.bind_eq_some_iff, husable, true_and]
    constructor
    · rintro ⟨slotId, hslot, ⟨stratum, remote⟩, hstratum, heq⟩
      obtain rfl := Option.some.inj heq
      exact ⟨hslot, hstratum⟩
    · rintro ⟨hslot, hstratum⟩
      exact ⟨_, hslot, _, hstratum, rfl⟩
  · rw [if_pos (by simp [husable])]
    simp [husable]

theorem mem_heardIn {stratum : ComparisonStratum} {slotId remote : String} :
    remote ∈ inputs.heardIn stratum slotId ↔ inputs.HeardIn stratum slotId remote := by
  rw [heardIn, mem_sortedKeys, List.mem_map]
  constructor
  · rintro ⟨entry, hmem, rfl⟩
    obtain ⟨hentry, hkey⟩ := List.mem_filter.1 hmem
    simp only [Bool.and_eq_true, decide_eq_true_eq] at hkey
    obtain ⟨hstratum, rfl⟩ := hkey
    obtain ⟨classified, hobserved, hheard⟩ := List.mem_filterMap.1 hentry
    rw [← activityStratumKey_injective hstratum]
    exact ⟨classified, hobserved, heardEntry_eq_some.1 hheard⟩
  · rintro ⟨classified, hobserved, hheard⟩
    refine ⟨⟨stratum, slotId, remote⟩, List.mem_filter.2 ⟨?_, by simp⟩, rfl⟩
    exact List.mem_filterMap.2 ⟨classified, hobserved, heardEntry_eq_some.2 hheard⟩

end ActivityInputs

/-- What the loop has made of one cycle. -/
inductive RateOf (inputs : ActivityInputs) (census : Census)
    (cycles : List ReporterActivityCensusCycle) (cycle : ComparisonStratum × AlignedSlot) :
    ReporterActivityCycleRate → Prop where
  | known (index : ℕ) (hknown : (census.coverage cycle.1 cycle.2).isKnown = true)
      (hcycle : cycles[index]? = some (census.cycleAt cycle.2.censusKey)) :
      RateOf inputs census cycles cycle (inputs.cycleRate census cycle.1 cycle.2 (some index)
        (reportersAt cycle.2.censusKey census.rows))
  | unknown (hunknown : (census.coverage cycle.1 cycle.2).isKnown = false) :
      RateOf inputs census cycles cycle (inputs.cycleRate census cycle.1 cycle.2 none [])

/-- Each counted cycle has its rate, and each census cycle is the one of its key. -/
structure Counts (inputs : ActivityInputs) (census : Census)
    (done : List (ComparisonStratum × AlignedSlot)) (loop : ActivityLoop) : Prop where
  rates : List.Forall₂ (RateOf inputs census loop.censusCycles) done loop.cycleRates
  cycles : ∀ cycle ∈ loop.censusCycles, cycle = census.cycleAt (cycle.cycleTime, cycle.band)

section

variable {inputs : ActivityInputs} {census : Census}

theorem RateOf.append {cycles : List ReporterActivityCensusCycle}
    {cycle : ComparisonStratum × AlignedSlot} {rate : ReporterActivityCycleRate}
    (h : RateOf inputs census cycles cycle rate) (more : List ReporterActivityCensusCycle) :
    RateOf inputs census (cycles ++ more) cycle rate := by
  cases h with
  | known index hknown hcycle =>
    have hlt : index < cycles.length := (List.getElem?_eq_some_iff.1 hcycle).1
    exact .known index hknown ((List.getElem?_append_left hlt).trans hcycle)
  | unknown hunknown => exact .unknown hunknown

/-- The census cycle at the index is the one of the key, and the older ones stay in place. -/
theorem censusIndex_spec {loop : ActivityLoop} {key : CensusKey}
    (h : ∀ cycle ∈ loop.censusCycles, cycle = census.cycleAt (cycle.cycleTime, cycle.band)) :
    (∃ more, (loop.censusIndex census key).1 = loop.censusCycles ++ more ∧
      ∀ cycle ∈ more, cycle = census.cycleAt key) ∧
    (loop.censusIndex census key).1[(loop.censusIndex census key).2]? =
      some (census.cycleAt key) := by
  unfold ActivityLoop.censusIndex
  cases hfind : loop.censusCycles.findIdx? fun cycle =>
      cycle.cycleTime = key.1 ∧ cycle.band = key.2 with
  | none => exact ⟨⟨_, rfl, by simp⟩, by simp⟩
  | some index =>
    obtain ⟨hlt, hkey, -⟩ := List.findIdx?_eq_some_iff_getElem.1 hfind
    simp only [decide_eq_true_eq] at hkey
    have hcycle := h _ (List.getElem_mem hlt)
    rw [hkey.1, hkey.2] at hcycle
    exact ⟨⟨[], by simp, by simp⟩, by rw [List.getElem?_eq_getElem hlt, hcycle]⟩

theorem countCycle_counts {done : List (ComparisonStratum × AlignedSlot)} {loop : ActivityLoop}
    (h : Counts inputs census done loop) (cycle : ComparisonStratum × AlignedSlot) :
    Counts inputs census (done ++ [cycle]) (inputs.countCycle census loop cycle) := by
  unfold ActivityInputs.countCycle
  by_cases hknown : (census.coverage cycle.1 cycle.2).isKnown = true
  · rw [if_pos hknown]
    obtain ⟨⟨more, hmore, hnew⟩, hindex⟩ :=
      censusIndex_spec h.cycles
    refine ⟨List.rel_append ?_ (.cons (.known _ hknown hindex) .nil), ?_⟩
    · dsimp only
      rw [hmore]
      exact h.rates.imp fun _ _ hrate => hrate.append more
    · dsimp only
      rw [hmore]
      intro other hmem
      rcases List.mem_append.1 hmem with hold | hadded
      · exact h.cycles other hold
      · rw [hnew other hadded]
        rfl
  · rw [if_neg hknown]
    exact ⟨List.rel_append h.rates (.cons (.unknown (by simpa using hknown)) .nil), h.cycles⟩

theorem foldl_counts (cycles done : List (ComparisonStratum × AlignedSlot)) (loop : ActivityLoop)
    (h : Counts inputs census done loop) :
    Counts inputs census (done ++ cycles) (cycles.foldl (inputs.countCycle census) loop) := by
  induction cycles generalizing done loop with
  | nil =>
    rw [List.append_nil]
    exact h
  | cons cycle cycles ih =>
    have hstep := ih (done ++ [cycle]) _ (countCycle_counts h cycle)
    rw [List.append_assoc] at hstep
    exact hstep

theorem countCycles_counts (inputs : ActivityInputs) (census : Census) :
    Counts inputs census inputs.counted (inputs.countCycles census) :=
  foldl_counts inputs.counted [] {} ⟨.nil, by simp⟩

end

/-- An eligible block, a stratum of its band and the slots of its two sides. -/
structure JointCycle where
  block : ComparisonBlock
  stratum : ComparisonStratum
  left : AlignedSlot
  right : AlignedSlot

/-- The census coverage of both cycles is known. -/
def JointCycle.Known (env : CensusEnv) (records : List AdapterRecordV2) (cycle : JointCycle) :
    Prop :=
  env.Known records cycle.stratum cycle.left ∧ env.Known records cycle.stratum cycle.right

/-- The census reports the reporter active in both cycles. -/
def JointCycle.Active (env : CensusEnv) (records : List AdapterRecordV2) (cycle : JointCycle)
    (name : String) : Prop :=
  env.Reported records cycle.left.censusKey name ∧ env.Reported records cycle.right.censusKey name

namespace ActivityInputs

/-- The first counted slot of a stratum on one side of a block. -/
def slotOn (inputs : ActivityInputs) (stratum : ComparisonStratum) (blockIndex : ℕ)
    (side : ComparisonSide) : Option AlignedSlot :=
  (inputs.counted.find? fun cycle => cycle.1 = stratum &&
    (inputs.timelineRow cycle.2).map (·.blockIndex) = some blockIndex &&
    (inputs.timelineRow cycle.2).bind (·.side) = some side).map (·.2)

def jointCycle (inputs : ActivityInputs) (pair : ComparisonBlock × ComparisonStratum) :
    Option JointCycle := do
  let left ← inputs.slotOn pair.2 pair.1.blockIndex .left
  let right ← inputs.slotOn pair.2 pair.1.blockIndex .right
  return ⟨pair.1, pair.2, left, right⟩

/-- The eligible blocks and strata with a counted slot on either side. -/
def jointCycles (inputs : ActivityInputs) : List JointCycle :=
  inputs.blockStrata.filterMap inputs.jointCycle

end ActivityInputs

namespace ReporterActivityJointOutcome

def heardLeft : ReporterActivityJointOutcome → Bool
  | heardBoth | leftOnly => true
  | rightOnly | heardNeither => false

def heardRight : ReporterActivityJointOutcome → Bool
  | heardBoth | rightOnly => true
  | leftOnly | heardNeither => false

end ReporterActivityJointOutcome

@[simp] theorem heardLeft_jointOutcome (left right : Bool) :
    (jointOutcome left right).heardLeft = left := by
  cases left <;> cases right <;> rfl

@[simp] theorem heardRight_jointOutcome (left right : Bool) :
    (jointOutcome left right).heardRight = right := by
  cases left <;> cases right <;> rfl

def ReporterActivityPairedRate.outcomeCount (rate : ReporterActivityPairedRate) :
    ReporterActivityJointOutcome → ℕ
  | .heardBoth => rate.heardBothCount
  | .leftOnly => rate.leftOnlyCount
  | .rightOnly => rate.rightOnlyCount
  | .heardNeither => rate.heardNeitherCount

/-- The four outcomes are a partition. -/
theorem outcomeCount_sum (receivers : List ReporterActivityJointReceiver) :
    outcomeCount receivers .heardBoth + outcomeCount receivers .leftOnly +
      outcomeCount receivers .rightOnly + outcomeCount receivers .heardNeither =
        receivers.length := by
  induction receivers with
  | nil => rfl
  | cons receiver receivers ih =>
    unfold outcomeCount at *
    simp only [List.countP_cons, List.length_cons]
    cases receiver.outcome <;> simp <;> omega

/-- What a row says of its block: the receivers are the reporters active in both cycles, each
with the outcome the observations give it, and there are none where a coverage is unknown. -/
structure JointCycle.Counted (env : CensusEnv) (inputs : ActivityInputs)
    (records : List AdapterRecordV2) (cycle : JointCycle) (rate : ReporterActivityPairedRate) :
    Prop where
  stratum : rate.stratum = cycle.stratum
  block : rate.blockIndex = cycle.block.blockIndex
  order : cycle.block.order = some rate.order
  slots : rate.leftSlotId = cycle.left.slotId ∧ rate.rightSlotId = cycle.right.slotId
  ascending : (rate.receivers.map (·.receiver)).Pairwise (· < ·)
  active : ∀ name, name ∈ rate.receivers.map (·.receiver) ↔
    cycle.Known env records ∧ cycle.Active env records name
  heard : ∀ receiver ∈ rate.receivers,
    (receiver.outcome.heardLeft = true ↔
      inputs.HeardIn cycle.stratum cycle.left.slotId receiver.receiver) ∧
    (receiver.outcome.heardRight = true ↔
      inputs.HeardIn cycle.stratum cycle.right.slotId receiver.receiver)
  counts : ∀ outcome, rate.outcomeCount outcome = outcomeCount rate.receivers outcome
  partition : rate.heardBothCount + rate.leftOnlyCount + rate.rightOnlyCount +
    rate.heardNeitherCount = rate.activeInBothCount ∧
      rate.activeInBothCount = rate.receivers.length
  unknown : ¬ cycle.Known env records →
    rate.receivers = [] ∧ rate.leftHearingRate = none ∧ rate.rightHearingRate = none

section

variable {env : CensusEnv} {inputs : ActivityInputs} {records : List AdapterRecordV2}

/-- A stratum has a rate on a side where it has a slot there. -/
theorem rateOn_spec (inputs : ActivityInputs) (census : Census) (stratum : ComparisonStratum)
    (blockIndex : ℕ)
    (side : ComparisonSide) :
    (inputs.slotOn stratum blockIndex side = none ∧
      rateOn (inputs.countCycles census).cycleRates stratum blockIndex side = none) ∨
    ∃ slot rate, inputs.slotOn stratum blockIndex side = some slot ∧
      rateOn (inputs.countCycles census).cycleRates stratum blockIndex side = some rate ∧
      RateOf inputs census (inputs.countCycles census).censusCycles (stratum, slot) rate := by
  have hfind := forall₂_find? (countCycles_counts inputs census).rates
    (p := fun cycle => cycle.1 = stratum &&
      (inputs.timelineRow cycle.2).map (·.blockIndex) = some blockIndex &&
      (inputs.timelineRow cycle.2).bind (·.side) = some side)
    (q := fun row => row.stratum = stratum && row.blockIndex = some blockIndex &&
      row.side = some side)
    (fun cycle rate hrate => by cases hrate <;> rfl)
  rcases hfind with ⟨hslot, hrate⟩ | ⟨⟨stratum', slot⟩, rate, hslot, hrate, hof⟩
  · exact .inl ⟨by rw [ActivityInputs.slotOn, hslot]; rfl, hrate⟩
  · have hstratum := List.find?_some hslot
    simp only [Bool.and_eq_true, decide_eq_true_eq] at hstratum
    obtain ⟨⟨rfl, -⟩, -⟩ := hstratum
    exact .inr ⟨slot, rate, by rw [ActivityInputs.slotOn, hslot]; rfl, hrate, hof⟩

theorem jointReceivers_names (left right : ReporterActivityCensusCycle)
    (leftHeard rightHeard : List String) :
    (jointReceivers left right leftHeard rightHeard).map (·.receiver) =
      left.reporterIds.filter right.reporterIds.contains := by
  rw [jointReceivers, List.map_map]
  exact List.map_id _

theorem mem_reporterIds {key : CensusKey} {name : String} :
    name ∈ ((env.census records).cycleAt key).reporterIds ↔ env.Reported records key name := by
  rw [ReporterActivityCensusCycle.reporterIds, mem_sortedKeys]
  exact CensusEnv.mem_reporters

/-- A receiver of the census is heard in a rate where the observations say so. -/
theorem contains_heardReporters {census : Census} {stratum : ComparisonStratum}
    {slot : AlignedSlot} {index : Option ℕ} {reporters : List ReporterActivityReporter}
    {name : String} (hname : name ∈ reporters.map (·.reporter)) :
    (inputs.cycleRate census stratum slot index reporters).heardReporters.contains name = true ↔
      inputs.HeardIn stratum slot.slotId name := by
  rw [List.contains_iff_mem, ← ActivityInputs.mem_heardIn]
  simp only [ActivityInputs.cycleRate, List.mem_filter, List.contains_iff_mem, hname, and_true]

/-- A rate has a census cycle where its coverage is known. -/
theorem RateOf.cycle_eq {cycles : List ReporterActivityCensusCycle}
    {stratum : ComparisonStratum} {slot : AlignedSlot} {rate : ReporterActivityCycleRate}
    (h : RateOf inputs (env.census records) cycles (stratum, slot) rate) :
    (env.Known records stratum slot ∧ rate.censusCycleIndex.bind (cycles[·]?) =
        some ((env.census records).cycleAt slot.censusKey) ∧
      ∀ name, env.Reported records slot.censusKey name →
        (rate.heardReporters.contains name = true ↔ inputs.HeardIn stratum slot.slotId name)) ∨
    (¬ env.Known records stratum slot ∧ rate.censusCycleIndex.bind (cycles[·]?) = none) := by
  cases h with
  | known index hknown hcycle =>
    refine .inl ⟨CensusEnv.coverage_isKnown.1 hknown, hcycle, fun name hname => ?_⟩
    exact contains_heardReporters (CensusEnv.mem_reporters.2 hname)
  | unknown hunknown =>
    refine .inr ⟨fun hknown => ?_, rfl⟩
    rw [CensusEnv.coverage_isKnown.2 hknown] at hunknown
    cases hunknown

section

variable {cycles : List ReporterActivityCensusCycle} {cycle : JointCycle}
  {left right : ReporterActivityCycleRate}
  (hleft : RateOf inputs (env.census records) cycles (cycle.stratum, cycle.left) left)
  (hright : RateOf inputs (env.census records) cycles (cycle.stratum, cycle.right) right)
include hleft hright

theorem rateReceivers_unknown (h : ¬ cycle.Known env records) :
    rateReceivers cycles left right = [] := by
  unfold rateReceivers
  rcases hleft.cycle_eq with ⟨hknownLeft, -, -⟩ | ⟨-, hnone⟩
  · rcases hright.cycle_eq with ⟨hknownRight, -, -⟩ | ⟨-, hnone⟩
    · exact absurd ⟨hknownLeft, hknownRight⟩ h
    · rw [hnone]
      split
      next heq => cases heq
      next => rfl
  · rw [hnone]

theorem rateReceivers_known (h : cycle.Known env records) :
    rateReceivers cycles left right =
      jointReceivers ((env.census records).cycleAt cycle.left.censusKey)
        ((env.census records).cycleAt cycle.right.censusKey)
        left.heardReporters right.heardReporters := by
  unfold rateReceivers
  rcases hleft.cycle_eq with ⟨-, hsome, -⟩ | ⟨hunknown, -⟩
  · rcases hright.cycle_eq with ⟨-, hsome', -⟩ | ⟨hunknown, -⟩
    · rw [hsome, hsome']
    · exact absurd h.2 hunknown
  · exact absurd h.1 hunknown

theorem mem_rateReceivers (name : String) :
    name ∈ (rateReceivers cycles left right).map (·.receiver) ↔
      cycle.Known env records ∧ cycle.Active env records name := by
  by_cases h : cycle.Known env records
  · rw [rateReceivers_known hleft hright h, jointReceivers_names, List.mem_filter,
      List.contains_iff_mem, mem_reporterIds, mem_reporterIds]
    exact (and_iff_right h).symm
  · rw [rateReceivers_unknown hleft hright h]
    simp [h]

theorem rateReceivers_ascending :
    ((rateReceivers cycles left right).map (·.receiver)).Pairwise (· < ·) := by
  by_cases h : cycle.Known env records
  · rw [rateReceivers_known hleft hright h, jointReceivers_names]
    exact (sortedKeys_ascending _).filter _
  · rw [rateReceivers_unknown hleft hright h]
    exact .nil

theorem rateReceivers_heard :
    ∀ receiver ∈ rateReceivers cycles left right,
      (receiver.outcome.heardLeft = true ↔
        inputs.HeardIn cycle.stratum cycle.left.slotId receiver.receiver) ∧
      (receiver.outcome.heardRight = true ↔
        inputs.HeardIn cycle.stratum cycle.right.slotId receiver.receiver) := by
  intro receiver hmem
  obtain ⟨h, hactive⟩ := (mem_rateReceivers hleft hright receiver.receiver).1
    (List.mem_map_of_mem hmem)
  rw [rateReceivers_known hleft hright h] at hmem
  obtain ⟨name, -, rfl⟩ := List.mem_map.1 hmem
  rw [heardLeft_jointOutcome, heardRight_jointOutcome]
  constructor
  · rcases hleft.cycle_eq with ⟨-, -, hheard⟩ | ⟨hunknown, -⟩
    · exact hheard name hactive.1
    · exact absurd h.1 hunknown
  · rcases hright.cycle_eq with ⟨-, -, hheard⟩ | ⟨hunknown, -⟩
    · exact hheard name hactive.2
    · exact absurd h.2 hunknown

end

theorem JointCycle.pairedRateOf_counted (cycle : JointCycle)
    {cycles : List ReporterActivityCensusCycle}
    {left right : ReporterActivityCycleRate}
    (hleft : RateOf inputs (env.census records) cycles (cycle.stratum, cycle.left) left)
    (hright : RateOf inputs (env.census records) cycles (cycle.stratum, cycle.right) right)
    {order : ComparisonOrder} (horder : cycle.block.order = some order) :
    cycle.Counted env inputs records (pairedRateOf (cycle.block, cycle.stratum) order left right
      (rateReceivers cycles left right)) where
  stratum := rfl
  block := rfl
  order := horder
  slots := by
    constructor
    · cases hleft <;> rfl
    · cases hright <;> rfl
  ascending := rateReceivers_ascending hleft hright
  active := mem_rateReceivers hleft hright
  heard := rateReceivers_heard hleft hright
  counts outcome := by cases outcome <;> rfl
  partition := ⟨outcomeCount_sum _, rfl⟩
  unknown h := by
    have hnone := rateReceivers_unknown hleft hright h
    simp [pairedRateOf, hnone, hearingRate]

/-- The iteration for a block and a stratum: a row where both sides have a slot. -/
theorem pairedRate_spec {pair : ComparisonBlock × ComparisonStratum}
    {result : Option ReporterActivityPairedRate}
    (h : pairedRate (inputs.countCycles (env.census records)) pair = some result) :
    (inputs.jointCycle pair = none ∧ result = none) ∨
      ∃ cycle rate, inputs.jointCycle pair = some cycle ∧ result = some rate ∧
        cycle.Counted env inputs records rate := by
  unfold pairedRate at h
  unfold ActivityInputs.jointCycle
  rcases rateOn_spec inputs (env.census records) pair.2 pair.1.blockIndex .left with
    ⟨hslot, hrate⟩ | ⟨left, leftRate, hslot, hrate, hleft⟩
  · rw [hrate] at h
    exact .inl ⟨by rw [hslot]; rfl, (Option.some.inj h).symm⟩
  rcases rateOn_spec inputs (env.census records) pair.2 pair.1.blockIndex .right with
    ⟨hslot', hrate'⟩ | ⟨right, rightRate, hslot', hrate', hright⟩
  · rw [hrate, hrate'] at h
    exact .inl ⟨by rw [hslot, hslot']; rfl, (Option.some.inj h).symm⟩
  rw [hrate, hrate'] at h
  obtain ⟨order, horder, rfl⟩ := Option.map_eq_some_iff.1 h
  refine .inr ⟨⟨pair.1, pair.2, left, right⟩, _, by rw [hslot, hslot']; rfl, rfl, ?_⟩
  exact JointCycle.pairedRateOf_counted ⟨pair.1, pair.2, left, right⟩ hleft hright horder

/-- The rows of the analysis are those of its blocks. -/
theorem activity_counted {analysis : ReporterActivityAnalysis}
    (h : inputs.activity (env.census records) = .ok analysis) :
    List.Forall₂ (JointCycle.Counted env inputs records) inputs.jointCycles
      analysis.pairedRates := by
  simp only [ActivityInputs.activity, bind_eq_ok, orPanic_eq_ok] at h
  obtain ⟨results, hresults, h⟩ := h
  obtain rfl := Except.ok.inj h
  exact forall₂_reduceOption hresults fun pair result => pairedRate_spec

end

end AntennaBench
