import AntennaBench.Analysis.JointReceivers
import AntennaBench.Scenario.JsonText
import AntennaBench.Wsjtx.AllWsprAgreement

/-!
# Common receivers

What `analyze_reporter_activity` says of the two cycles of an eligible block: which
receivers it counts, that their four outcomes are a partition which agrees with the
usable observations, and when the order of the adapter records does not matter.
-/

namespace AntennaBench

open Timeline

section

variable {env : CensusEnv} {inputs : ActivityInputs} {records records' : List AdapterRecordV2}

theorem CensusEnv.Known.perm {stratum : ComparisonStratum} {slot : AlignedSlot}
    (h : env.Known records stratum slot) (hperm : records.Perm records') :
    env.Known records' stratum slot := by
  obtain ⟨htransmit, hmode, record, hmem, hcovers⟩ := h
  exact ⟨htransmit, hmode, record, hperm.mem_iff.1 hmem, hcovers⟩

theorem analyze_activity {analysis : ReporterActivityAnalysis}
    (h : analyzeReporterActivity env inputs records = .ok analysis)
    (hrun : ¬ (records = [] ∧ inputs.cycleDirections = [])) :
    inputs.activity (env.census records) = .ok analysis := by
  unfold analyzeReporterActivity at h
  rw [if_neg (by simpa [List.isEmpty_iff] using hrun)] at h
  simp only [bind_eq_ok] at h
  obtain ⟨-, -, h⟩ := h
  exact h

end

/-- The block cycles of a call, which has none without adapter records and directions. -/
def ActivityInputs.analysedCycles (inputs : ActivityInputs) (records : List AdapterRecordV2) :
    List JointCycle :=
  if records.isEmpty && inputs.cycleDirections.isEmpty then [] else inputs.jointCycles

/-- The rows are those of the block cycles. -/
def CountsReceivers (env : CensusEnv) (inputs : ActivityInputs)
    (records : List AdapterRecordV2) : Prop :=
  ∀ analysis, analyzeReporterActivity env inputs records = .ok analysis →
    List.Forall₂ (JointCycle.Counted env inputs records) (inputs.analysedCycles records)
      analysis.pairedRates

section

variable {env : CensusEnv} {inputs : ActivityInputs} {records : List AdapterRecordV2}

end

theorem blockState_order {left right : String} {first : AlignedSlot}
    {second : Option AlignedSlot} (h : (blockState left right first second).2 = .eligible) :
    (blockState left right first second).1.isSome = true := by
  unfold blockState at *
  split at *
  · cases h
  · split at *
    · split_ifs at * <;> rfl
    · cases h

theorem buildBlocks_order {slots : List AlignedSlot} {left right : String}
    {block : ComparisonBlock} (hmem : block ∈ buildBlocks slots left right)
    (heligible : block.eligibility = .eligible) : block.order.isSome = true := by
  obtain ⟨⟨pair, index⟩, -, rfl⟩ := List.mem_map.1 hmem
  simp only [comparisonBlock] at heligible ⊢
  by_cases hambiguous : hasAmbiguousSequenceOrder slots = true
  · rw [if_pos hambiguous] at heligible
    cases heligible
  · rw [if_neg hambiguous] at heligible ⊢
    exact blockState_order heligible

/-- The eligible blocks of a comparison have an order. -/
theorem analyzePairedComparison_orders {callsign : String} {schedule : Schedule}
    {slots : List AlignedSlot} {observations : List ClassifiedObservation}
    {comparison : PairedComparisonAnalysis}
    (h : analyzePairedComparison callsign schedule slots observations = some comparison) :
    ∀ block ∈ comparison.blocks, block.eligibility = .eligible → block.order.isSome = true := by
  unfold analyzePairedComparison at h
  by_cases hmode : schedule.mode = .singleAntennaProfiling
  · rw [if_pos hmode] at h
    obtain rfl := Option.some.inj h
    simp [unavailable]
  rw [if_neg hmode] at h
  dsimp only at h
  split at h
  · simp only [Option.bind_eq_bind, Option.bind_eq_some_iff] at h
    obtain ⟨outcomes, -, h⟩ := h
    simp only [ComparisonPlan.analysis, Option.bind_eq_bind, Option.bind_eq_some_iff] at h
    obtain ⟨overlap, -, paths, -, profiles, -, strata, -, h⟩ := h
    obtain rfl := Option.some.inj h
    exact fun block hblock => buildBlocks_order hblock
  · obtain rfl := Option.some.inj h
    simp [unavailable]

namespace Scenario

open JsonText

def censusMeta : RecordMetaV2 :=
  importMeta "s1" "census" 0 (atSecond 240) (listeningEnv.provenance .httpsQuery)

def censusRecord (recordId recordType : String) (data : JsonValue) : AdapterRecordV2 where
  recordMeta := censusMeta
  recordId := recordId
  sourceTime := none
  recordType := recordType
  disposition := .accepted
  reason := ⟨"wspr-live.activity-census", by decide⟩
  normalizedRecords := []
  input := .inline (String.ofList (valueChars data)) "application/json" none none

def censusTimes : List (String × DateTime) :=
  [("1970-01-01T00:00:00Z", atSecond 0), ("1970-01-01T00:02:00Z", atSecond 120),
    ("1970-01-01T00:04:00Z", atSecond 240)]

def censusSummaryJson : JsonValue :=
  .object [("selected_bands", .array [.string "40m"]), ("truncated", .bool false),
    ("window_end", .string "1970-01-01T00:04:00Z"),
    ("window_start", .string "1970-01-01T00:00:00Z")]

def censusRowJson (cycleTime reporter grid : String) : JsonValue :=
  .object [("band", .string "40m"), ("cycle_time", .string cycleTime),
    ("reporter", .string reporter), ("reporter_grid", .string grid)]

/-- The first cycle has two rows of one reporter, and either cycle one of the station. -/
def censusJson : List (String × String × JsonValue) :=
  [("summary", "wspr_live_activity_census_summary", censusSummaryJson),
    ("r1", "wspr_live_activity_census", censusRowJson "1970-01-01T00:00:00Z" "K1ABC" "FN20"),
    ("r2", "wspr_live_activity_census", censusRowJson "1970-01-01T00:00:00Z" "K1ABC" "FN31"),
    ("r3", "wspr_live_activity_census", censusRowJson "1970-01-01T00:00:00Z" "N0XYZ" "FN31"),
    ("r4", "wspr_live_activity_census", censusRowJson "1970-01-01T00:02:00Z" "K1ABC" "FN20"),
    ("r5", "wspr_live_activity_census", censusRowJson "1970-01-01T00:02:00Z" "N0XYZ" "FN31")]

def censusEnv : CensusEnv where
  fromStr text := (censusJson.map (·.2.2)).find? fun value => text.toList == valueChars value
  dateTime value := value.asStr?.bind fun text => censusTimes.lookup text

def censusRecords : List AdapterRecordV2 :=
  censusJson.map fun (recordId, recordType, data) => censusRecord recordId recordType data

/-- The pair of reports, in slots that start with the signal. One of the two reporters tells
where it is. -/
def signalBundle : BundleContents :=
  { pairBundle with
    schedule := ⟨1, "s1", .txFocused, .dx, [abSlot "a" 1 1 "A", abSlot "b" 2 121 "B"]⟩
    observations := pairBundle.observations.map fun observation =>
      if observation.reporterCall = some "K1ABC" then
        { observation with
          reporterGrid := some "FN20"
          distanceKm := some (.finite 390)
          azimuthDegrees := some (.finite 230) }
      else observation }

def signalInputs : ActivityInputs :=
  let report := validateBundleReport textFormat signalBundle
  let slots := (analysisAlignment signalBundle report).slots
  let observations := (classifyObservations signalBundle report).getD []
  { callsign := signalBundle.station.callsign
    alignedSlots := slots
    observations := observations
    comparison := (analyzePairedComparison signalBundle.station.callsign signalBundle.schedule
      slots observations).getD (unavailable .notApplicable [])
    cycleDirections := [("a", .transmit), ("b", .transmit)]
    limits := analysisResourceLimits }

end Scenario

end AntennaBench
