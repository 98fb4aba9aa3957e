import AntennaBench.Analysis.Solar

/-!
# Bundle summaries

`summarize_bundle`: the analysis of a bundle under its validation report. Without
adapter records there is no reporter activity, so the summary has none.
-/

namespace AntennaBench

open Timeline

structure ObservationExclusionRecord where
  observationId : String
  reason : ObservationExclusionReason
  timestamp : DateTime
  band : Band
  observationKind : ObservationKind
  source : RecordSource
  mode : Option String
  slotId : Option String
  assignedLabel : Option String
  assignmentConfidence : IeeeFloat

structure AnalysisSummary where
  sessionId : String
  evidenceQuality : EvidenceQuality
  overall : EvidenceSummary
  antennas : List AntennaEvidenceSummary
  bands : List BandEvidenceSummary
  slots : List SlotEvidenceSummary
  comparison : PairedComparisonAnalysis
  solarContext : List SolarContextRow
  exclusionRecords : List ObservationExclusionRecord
  eligibility : List EligibilityExclusionCount

def ClassifiedObservation.exclusionRecord (classified : ClassifiedObservation) :
    Option ObservationExclusionRecord :=
  match classified.disposition with
  | .usable => none
  | .excluded reason => some {
      observationId := classified.observation.observationId
      reason := reason
      timestamp := classified.observation.recordMeta.timestamp
      band := classified.observation.band
      observationKind := classified.observation.observationKind
      source := classified.observation.recordMeta.source
      mode := classified.observation.mode
      slotId := classified.assignment.slotId
      assignedLabel := classified.assignment.slotLabel
      assignmentConfidence := classified.assignment.confidence }

def exclusionRecords (observations : List ClassifiedObservation) :
    List ObservationExclusionRecord :=
  sortOn (·.observationId) (observations.filterMap (·.exclusionRecord))

/-- The value, or the panic of the missing one. -/
def orPanic {α : Type} : Option α → Except AnalysisError α
  | some value => .ok value
  | none => .error .panicked

namespace AnalysisResourceLimits

/-- `collection` for several roles of one stage, in order. -/
def collections (limits : AnalysisResourceLimits) (stage : AnalysisResourceStage)
    (roles : List (String × ℕ)) : Except AnalysisError Unit :=
  roles.forM fun (role, entries) => limits.collection stage role entries

end AnalysisResourceLimits

/-- What the analysis has before it counts the first observation. -/
structure AnalysisFrame where
  bundle : BundleContents
  scheduleSlots : List PlannedSlot
  alignedSlots : List AlignedSlot
  eligibility : List EligibilityExclusionCount
  /-- The entries of the input, the plan and the alignment. -/
  entries : ℕ

/-- `summarize_bundle_with_resources_and_activity` from the classified observations on. -/
def summarizeClassified (elevation : SolarElevation) (limits : AnalysisResourceLimits)
    (frame : AnalysisFrame) (observations : List ClassifiedObservation) :
    Except AnalysisError AnalysisSummary := do
  let bundle := frame.bundle
  limits.collection .aggregate "antenna_summaries" bundle.antennas.antennas.length
  let antennas := bundle.antennas.antennas.map (summarizeAntenna observations)
  limits.collection .aggregate "slot_summaries" frame.alignedSlots.length
  limits.live .compare "comparison_intermediates" (frame.entries + observations.length +
    (observations.length * 5 + frame.alignedSlots.length * 2))
  let comparison ← orPanic (analyzePairedComparison bundle.station.callsign
    { bundle.schedule with slots := frame.scheduleSlots } frame.alignedSlots observations)
  limits.collection .compare "solar_context_rows" comparison.pairedRows.length
  let solarContext ← orPanic (deriveSolarContext elevation bundle.station comparison.pairedRows)
  let records := exclusionRecords observations
  limits.collection .aggregate "exclusion_records" records.length
  limits.collections .compare [
    ("comparison_blocks", comparison.blocks.length),
    ("comparison_overlap_rows", comparison.overlapRows.length),
    ("comparison_timeline_rows", comparison.timelineRows.length),
    ("comparison_paired_rows", comparison.pairedRows.length),
    ("comparison_path_summaries", comparison.pathSummaries.length),
    ("comparison_strata", comparison.strata.length)]
  return {
    sessionId := bundle.manifest.sessionId
    evidenceQuality := sessionEvidenceQuality frame.scheduleSlots antennas
    overall := evidence observations
    antennas := antennas
    bands := summarizeBands frame.scheduleSlots observations
    slots := frame.alignedSlots.map (summarizeSlot observations)
    comparison := comparison
    solarContext := solarContext
    exclusionRecords := records
    eligibility := frame.eligibility }

/-- `summarize_bundle_with_report`, within limits. -/
def summarizeWithReport (elevation : SolarElevation) (limits : AnalysisResourceLimits)
    (bundle : BundleContents) (report : BundleValidationReport) :
    Except AnalysisError AnalysisSummary := do
  if report.any (·.isFatalForAnalysis) then throw (.invalidBundle report)
  let inputEntries := bundle.schedule.slots.length + bundle.events.length +
    bundle.observations.length + bundle.antennas.antennas.length
  limits.collections .plan [
    ("schedule_slots", bundle.schedule.slots.length),
    ("operator_events", bundle.events.length),
    ("observations", bundle.observations.length),
    ("antennas", bundle.antennas.antennas.length),
    ("adapter_records", 0)]
  limits.live .plan "analysis_projection" inputEntries
  let plan := EligibilityPlan.fromReport report
  limits.collection .plan "eligibility_plan" plan.entries
  limits.live .plan "projection_and_eligibility" (inputEntries + plan.entries)
  let alignedSlots := (analysisAlignment bundle report).slots
  limits.collection .align "aligned_slots" alignedSlots.length
  limits.collection .align "observation_assignments" bundle.observations.length
  let entries := inputEntries + plan.entries + (alignedSlots.length + bundle.observations.length)
  limits.live .align "projection_plan_alignment" entries
  limits.collection .aggregate "classified_observations" bundle.observations.length
  limits.live .aggregate "analysis_classification" (entries + bundle.observations.length)
  let observations ← orPanic (classifyObservations bundle report)
  summarizeClassified elevation limits
    ⟨bundle, (analysisBundle bundle report).schedule.slots, alignedSlots, plan.eligibility, entries⟩
    observations

/-- `summarize_bundle`: the report is the one of the bundle itself. -/
def summarizeBundle (F : TextFormat) (elevation : SolarElevation) (bundle : BundleContents) :
    Except AnalysisError AnalysisSummary :=
  summarizeWithReport elevation analysisResourceLimits bundle (validateBundleReport F bundle)

namespace Scenario

def textFormat : TextFormat :=
  ⟨fun text => text, fun _ => "", fun _ => "", fun _ => "", fun _ => ""⟩

def flatElevation : SolarElevation := fun _ _ => .zero

def atSecond (n : ℕ) : DateTime := seconds n

def abAntenna (label : String) : Antenna :=
  ⟨label, [], none, none, none, none, none, none, none⟩

def abSlot (slotId : String) (sequenceNumber start : ℕ) (label : String) : PlannedSlot :=
  ⟨slotId, sequenceNumber, atSecond start, 120, 10, .m40, label⟩

/-- A report of the station one minute into the first slot. -/
def abObservation (observationId : String) (snrDb : Option IeeeFloat) : ObservationRecord where
  recordMeta := ⟨1, "s1", atSecond 60, .wsprLive⟩
  observationId := observationId
  observationKind := .publicReport
  band := .m40
  frequencyHz := some 7040000
  mode := some "WSPR"
  reporterCall := some "K1ABC"
  heardCall := some "N0XYZ"
  reporterGrid := none
  heardGrid := none
  distanceKm := none
  azimuthDegrees := none
  snrDb := snrDb
  driftHzPerMinute := none
  powerWatts := none
  slotId := some "a"
  slotLabel := some "A"
  slotConfidence := some confidence80
  raw := .null

def abBundle (observations : List ObservationRecord) : BundleContents where
  manifest := ⟨1, "s1", atSecond 0, "0.1.0", {}⟩
  station := ⟨1, "s1", "N0XYZ", "FN31", none, none⟩
  antennas := ⟨1, "s1", [abAntenna "A", abAntenna "B"]⟩
  schedule := ⟨1, "s1", .txFocused, .dx, [abSlot "a" 1 0 "A", abSlot "b" 2 120 "B"]⟩
  events := []
  observations := observations
  wsjtx := []
  rig := []
  propagation := []
  analysis := ⟨1, "s1", none, .notRun, []⟩

end Scenario

end AntennaBench
