import AntennaBench.Analysis.Summary
import AntennaBench.Analysis.ReporterCensus

/-!
# Reporter activity

`analyze_reporter_activity`: the usable observations of a cycle are set against the
reporters a census found active in it, and the two cycles of an eligible block against
the reporters active in both.
-/

namespace AntennaBench

open Timeline

structure ReporterActivityCensusCycle where
  cycleTime : DateTime
  band : Band
  coverage : ReporterActivityCoverage
  activeReporters : List ReporterActivityReporter
  summaryRecordIds : List String

structure ReporterActivityCycleRate where
  stratum : ComparisonStratum
  blockIndex : Option ℕ
  side : Option ComparisonSide
  slotId : String
  antennaLabel : String
  cycleStartsAt : DateTime
  censusCycleIndex : Option ℕ
  coverage : ReporterActivityCoverage
  activeReporterCount : ℕ
  heardReporterCount : ℕ
  hearingRate : Option IeeeFloat
  heardReporters : List String

inductive ReporterActivityJointOutcome where
  | heardBoth
  | leftOnly
  | rightOnly
  | heardNeither
  deriving DecidableEq

structure ReporterActivityJointReceiver where
  receiver : String
  receiverGrid : Option String
  outcome : ReporterActivityJointOutcome

structure ReporterActivityPairedRate where
  stratum : ComparisonStratum
  blockIndex : ℕ
  order : ComparisonOrder
  coverage : ReporterActivityCoverage
  leftSlotId : String
  rightSlotId : String
  activeInBothCount : ℕ
  leftHeardCount : ℕ
  rightHeardCount : ℕ
  leftHearingRate : Option IeeeFloat
  rightHearingRate : Option IeeeFloat
  heardBothCount : ℕ
  leftOnlyCount : ℕ
  rightOnlyCount : ℕ
  heardNeitherCount : ℕ
  receivers : List ReporterActivityJointReceiver

structure ReporterActivityJointSummary where
  stratum : ComparisonStratum
  coverage : ReporterActivityCoverage
  eligibleBlockCount : ℕ
  knownCoverageBlockCount : ℕ
  leftThenRightBlockCount : ℕ
  rightThenLeftBlockCount : ℕ
  uniqueActiveReceiverCount : ℕ
  receiverBlockOpportunityCount : ℕ
  heardBothCount : ℕ
  leftOnlyCount : ℕ
  rightOnlyCount : ℕ
  heardNeitherCount : ℕ
  leftDetectionRate : Option IeeeFloat
  rightDetectionRate : Option IeeeFloat

structure ReporterActivityAnalysis where
  censusCycles : List ReporterActivityCensusCycle := []
  cycleRates : List ReporterActivityCycleRate := []
  pairedRates : List ReporterActivityPairedRate := []
  jointSummaries : List ReporterActivityJointSummary := []

/-- `rate`. -/
def hearingRate (heard active : ℕ) : Option IeeeFloat :=
  if 0 < active then some (IeeeFloat.div .f64 (.finite heard) (.finite active)) else none

/-- What is read out of the adapter records. -/
structure Census where
  summaries : List CensusSummary
  rows : List (CensusKey × ReporterActivityReporter)

def CensusEnv.census (env : CensusEnv) (adapterRecords : List AdapterRecordV2) : Census :=
  ⟨adapterRecords.filterMap env.parseSummary, adapterRecords.filterMap env.parseCensusRow⟩

namespace Census

/-- The census cycle of a time and a band. -/
def cycleAt (census : Census) (key : CensusKey) : ReporterActivityCensusCycle :=
  let coverage := coverageFor key.1 key.2 census.summaries
  { cycleTime := key.1
    band := key.2
    coverage := coverage.1
    activeReporters := reportersAt key census.rows
    summaryRecordIds := coverage.2 }

end Census

/-- A usable observation of a slot that belongs to a stratum. -/
structure HeardEntry where
  stratum : ComparisonStratum
  slotId : String
  remote : String

/-- `(u8, u8, String, u8, String)`. -/
abbrev ActivityStratumKey := ℕ ×ₗ ℕ ×ₗ String ×ₗ ℕ ×ₗ String

/-- `record_source_key`. -/
def RecordSource.key : RecordSource → String
  | .operator => "operator"
  | .wsjtxUdp => "wsjtx_udp"
  | .wsjtxLog => "wsjtx_log"
  | .wsprnet => "wsprnet"
  | .wsprLive => "wspr_live"
  | .importedFile => "imported_file"
  | .rigAdapter => "rig_adapter"
  | .noaaSwpc => "noaa_swpc"
  | .derived => "derived"

/-- `stratum_key`. -/
def activityStratumKey (stratum : ComparisonStratum) : ActivityStratumKey :=
  toLex (stratum.direction.ctorIdx, toLex (stratum.band.ctorIdx, toLex (stratum.mode.text,
    toLex (stratum.observationKind.ctorIdx, stratum.source.key))))

/-- What `analyze_reporter_activity` is given beside the adapter records. -/
structure ActivityInputs where
  callsign : String
  alignedSlots : List AlignedSlot
  observations : List ClassifiedObservation
  comparison : PairedComparisonAnalysis
  cycleDirections : List (String × PathDirection)
  limits : AnalysisResourceLimits

namespace ActivityInputs

/-- The slot and the direction of a usable observation. -/
def observedDirection (inputs : ActivityInputs) (classified : ClassifiedObservation) :
    Option (String × PathDirection) :=
  if !classified.isUsable then none
  else do
    let slotId ← classified.assignment.slotId
    let (direction, _) ← pathIdentity inputs.callsign classified.observation
    return (slotId, direction)

def heardEntry (inputs : ActivityInputs) (classified : ClassifiedObservation) :
    Option HeardEntry :=
  if !classified.isUsable then none
  else do
    let slotId ← classified.assignment.slotId
    let (stratum, remote) ← observationStratum inputs.callsign classified.observation
    return ⟨stratum, slotId, remote⟩

def heardEntries (inputs : ActivityInputs) : List HeardEntry :=
  inputs.observations.filterMap inputs.heardEntry

/-- The strata of the usable observations, in the order of their keys. -/
def strata (inputs : ActivityInputs) : List ComparisonStratum :=
  (firstValues (inputs.heardEntries.map fun entry =>
    (activityStratumKey entry.stratum, entry.stratum))).map (·.2)

/-- `heard`: the remote calls of a stratum and a slot. -/
def heardIn (inputs : ActivityInputs) (stratum : ComparisonStratum) (slotId : String) :
    List String :=
  Timeline.sortedKeys ((inputs.heardEntries.filter fun entry =>
    activityStratumKey entry.stratum = activityStratumKey stratum && entry.slotId = slotId).map
      (·.remote))

/-- The direction given for a slot, or else the only one observed in it. -/
def directionOf (inputs : ActivityInputs) (slotId : String) : Option PathDirection :=
  (inputs.cycleDirections.lookup slotId).or
    (match (((inputs.observations.filterMap inputs.observedDirection).filter
        (·.1 = slotId)).map (·.2)).dedup with
      | [direction] => some direction
      | _ => none)

def sortedSlots (inputs : ActivityInputs) : List AlignedSlot :=
  inputs.alignedSlots.insertionSort AlignedSlot.Before

/-- The strata and the slots that get a rate, in the order of the loop. -/
def counted (inputs : ActivityInputs) : List (ComparisonStratum × AlignedSlot) :=
  inputs.strata.flatMap fun stratum =>
    (inputs.sortedSlots.filter fun slot => slot.band = stratum.band &&
      inputs.directionOf slot.slotId = some stratum.direction).map (stratum, ·)

def timelineRow (inputs : ActivityInputs) (slot : AlignedSlot) : Option ComparisonTimelineRow :=
  inputs.comparison.timelineRows.find? (·.slotId = slot.slotId)

end ActivityInputs

/-- The census key of a slot, whose signal starts one second after the cycle. -/
def AlignedSlot.censusKey (slot : AlignedSlot) : CensusKey :=
  (slot.startsAt - DateTime.seconds wsprNominalStartOffsetSeconds, slot.band)

/-- The coverage of a slot in a stratum. -/
def Census.coverage (census : Census) (stratum : ComparisonStratum) (slot : AlignedSlot) :
    ReporterActivityCoverage :=
  if stratum.direction = .receive then .unknown .unsupportedReceiveDirection
  else if !eqIgnoreAsciiCase stratum.mode.text "WSPR" then .unknown .unsupportedSignalMode
  else (coverageFor slot.censusKey.1 slot.censusKey.2 census.summaries).1

/-- `census_cycles` and `cycle_rates`. -/
structure ActivityLoop where
  censusCycles : List ReporterActivityCensusCycle := []
  cycleRates : List ReporterActivityCycleRate := []

namespace ActivityLoop

/-- The index of a census cycle, which is pushed if it is new. -/
def censusIndex (loop : ActivityLoop) (census : Census) (key : CensusKey) :
    List ReporterActivityCensusCycle × ℕ :=
  match loop.censusCycles.findIdx? fun cycle => cycle.cycleTime = key.1 ∧ cycle.band = key.2 with
  | some index => (loop.censusCycles, index)
  | none => (loop.censusCycles ++ [census.cycleAt key], loop.censusCycles.length)

end ActivityLoop

namespace ActivityInputs

def cycleRate (inputs : ActivityInputs) (census : Census) (stratum : ComparisonStratum)
    (slot : AlignedSlot) (index : Option ℕ) (reporters : List ReporterActivityReporter) :
    ReporterActivityCycleRate :=
  let timeline := inputs.timelineRow slot
  let heard := (inputs.heardIn stratum slot.slotId).filter
    (reporters.map (·.reporter)).contains
  { stratum := stratum
    blockIndex := timeline.map (·.blockIndex)
    side := timeline.bind (·.side)
    slotId := slot.slotId
    antennaLabel := slot.actualLabel.getD slot.plannedLabel
    cycleStartsAt := slot.startsAt
    censusCycleIndex := index
    coverage := census.coverage stratum slot
    activeReporterCount := reporters.length
    heardReporterCount := heard.length
    hearingRate := AntennaBench.hearingRate heard.length reporters.length
    heardReporters := heard }

/-- One iteration of the loop over the strata and the slots. -/
def countCycle (inputs : ActivityInputs) (census : Census) (loop : ActivityLoop)
    (cycle : ComparisonStratum × AlignedSlot) : ActivityLoop :=
  if (census.coverage cycle.1 cycle.2).isKnown then
    let (cycles, index) := loop.censusIndex census cycle.2.censusKey
    ⟨cycles, loop.cycleRates ++ [inputs.cycleRate census cycle.1 cycle.2 (some index)
      (reportersAt cycle.2.censusKey census.rows)]⟩
  else
    ⟨loop.censusCycles, loop.cycleRates ++ [inputs.cycleRate census cycle.1 cycle.2 none []]⟩

def countCycles (inputs : ActivityInputs) (census : Census) : ActivityLoop :=
  inputs.counted.foldl (inputs.countCycle census) {}

end ActivityInputs

def jointOutcome (leftHeard rightHeard : Bool) : ReporterActivityJointOutcome :=
  match leftHeard, rightHeard with
  | true, true => .heardBoth
  | true, false => .leftOnly
  | false, true => .rightOnly
  | false, false => .heardNeither

def outcomeCount (receivers : List ReporterActivityJointReceiver)
    (outcome : ReporterActivityJointOutcome) : ℕ :=
  receivers.countP (·.outcome = outcome)

namespace ReporterActivityCensusCycle

/-- `reporter_ids`. -/
def reporterIds (cycle : ReporterActivityCensusCycle) : List String :=
  Timeline.sortedKeys (cycle.activeReporters.map (·.reporter))

def gridOf (cycle : ReporterActivityCensusCycle) (receiver : String) : Option String :=
  (cycle.activeReporters.find? (·.reporter = receiver)).bind (·.reporterGrid)

end ReporterActivityCensusCycle

def commonReceiverGrid (left right : ReporterActivityCensusCycle) (receiver : String) :
    Option String :=
  match left.gridOf receiver, right.gridOf receiver with
  | some left, some right => if left = right then some left else none
  | some grid, none => some grid
  | none, some grid => some grid
  | none, none => none

/-- The receivers active in both cycles, with their outcome. -/
def jointReceivers (left right : ReporterActivityCensusCycle)
    (leftHeard rightHeard : List String) : List ReporterActivityJointReceiver :=
  (left.reporterIds.filter right.reporterIds.contains).map fun receiver => {
    receiver := receiver
    receiverGrid := commonReceiverGrid left right receiver
    outcome := jointOutcome (leftHeard.contains receiver) (rightHeard.contains receiver) }

/-- The receivers of two rates; a rate without census has none. -/
def rateReceivers (cycles : List ReporterActivityCensusCycle)
    (left right : ReporterActivityCycleRate) : List ReporterActivityJointReceiver :=
  match left.censusCycleIndex.bind (cycles[·]?), right.censusCycleIndex.bind (cycles[·]?) with
  | some leftCycle, some rightCycle =>
    jointReceivers leftCycle rightCycle left.heardReporters right.heardReporters
  | _, _ => []

/-- The row of a block and a stratum from its two rates. -/
def pairedRateOf (pair : ComparisonBlock × ComparisonStratum) (order : ComparisonOrder)
    (left right : ReporterActivityCycleRate) (receivers : List ReporterActivityJointReceiver) :
    ReporterActivityPairedRate :=
  let heardBoth := outcomeCount receivers .heardBoth
  let leftOnly := outcomeCount receivers .leftOnly
  let rightOnly := outcomeCount receivers .rightOnly
  { stratum := pair.2
    blockIndex := pair.1.blockIndex
    order := order
    coverage := left.coverage.combined right.coverage
    leftSlotId := left.slotId
    rightSlotId := right.slotId
    activeInBothCount := receivers.length
    leftHeardCount := heardBoth + leftOnly
    rightHeardCount := heardBoth + rightOnly
    leftHearingRate := hearingRate (heardBoth + leftOnly) receivers.length
    rightHearingRate := hearingRate (heardBoth + rightOnly) receivers.length
    heardBothCount := heardBoth
    leftOnlyCount := leftOnly
    rightOnlyCount := rightOnly
    heardNeitherCount := outcomeCount receivers .heardNeither
    receivers := receivers }

def rateOn (rates : List ReporterActivityCycleRate) (stratum : ComparisonStratum)
    (blockIndex : ℕ) (side : ComparisonSide) : Option ReporterActivityCycleRate :=
  rates.find? fun row => row.stratum = stratum && row.blockIndex = some blockIndex &&
    row.side = some side

/-- The row of a block and a stratum, if both sides have a rate. The outer nothing stands for
the panic on an eligible block without an order. -/
def pairedRate (loop : ActivityLoop) (pair : ComparisonBlock × ComparisonStratum) :
    Option (Option ReporterActivityPairedRate) :=
  match rateOn loop.cycleRates pair.2 pair.1.blockIndex .left,
    rateOn loop.cycleRates pair.2 pair.1.blockIndex .right with
  | some left, some right => pair.1.order.map fun order =>
    some (pairedRateOf pair order left right (rateReceivers loop.censusCycles left right))
  | _, _ => some none

/-- The eligible blocks, each with the strata of its band. -/
def ActivityInputs.blockStrata (inputs : ActivityInputs) :
    List (ComparisonBlock × ComparisonStratum) :=
  (inputs.comparison.blocks.filter (·.eligibility = .eligible)).flatMap fun block =>
    (inputs.strata.filter (·.band = block.band)).map (block, ·)

/-- The summary of the rows of one stratum. -/
def jointSummary (rows : List ReporterActivityPairedRate) :
    Option ReporterActivityJointSummary :=
  rows.head?.map fun first =>
    let opportunities := (rows.map (·.activeInBothCount)).sum
    let heardBoth := (rows.map (·.heardBothCount)).sum
    let leftOnly := (rows.map (·.leftOnlyCount)).sum
    let rightOnly := (rows.map (·.rightOnlyCount)).sum
    { stratum := first.stratum
      coverage := rows.foldl (fun coverage row => coverage.combined row.coverage) first.coverage
      eligibleBlockCount := rows.length
      knownCoverageBlockCount := rows.countP (·.coverage.isKnown)
      leftThenRightBlockCount := rows.countP (·.order = .leftThenRight)
      rightThenLeftBlockCount := rows.countP (·.order = .rightThenLeft)
      uniqueActiveReceiverCount := (rows.flatMap fun row =>
        row.receivers.map (·.receiver)).dedup.length
      receiverBlockOpportunityCount := opportunities
      heardBothCount := heardBoth
      leftOnlyCount := leftOnly
      rightOnlyCount := rightOnly
      heardNeitherCount := (rows.map (·.heardNeitherCount)).sum
      leftDetectionRate := hearingRate (heardBoth + leftOnly) opportunities
      rightDetectionRate := hearingRate (heardBoth + rightOnly) opportunities }

/-- `summarize_joint_outcomes`. -/
def summarizeJointOutcomes (rows : List ReporterActivityPairedRate) :
    List ReporterActivityJointSummary :=
  (groups (rows.map fun row => (activityStratumKey row.stratum, row))).filterMap fun group =>
    jointSummary group.2

/-- What follows the check of the limit. -/
def ActivityInputs.activity (inputs : ActivityInputs) (census : Census) :
    Except AnalysisError ReporterActivityAnalysis := do
  let loop := inputs.countCycles census
  let pairedRates ← orPanic (inputs.blockStrata.mapM (pairedRate loop))
  let pairedRates := pairedRates.reduceOption
  return {
    censusCycles := loop.censusCycles
    cycleRates := loop.cycleRates
    pairedRates := pairedRates
    jointSummaries := summarizeJointOutcomes pairedRates }

def analyzeReporterActivity (env : CensusEnv) (inputs : ActivityInputs)
    (adapterRecords : List AdapterRecordV2) : Except AnalysisError ReporterActivityAnalysis :=
  if adapterRecords.isEmpty && inputs.cycleDirections.isEmpty then .ok {}
  else do
    inputs.limits.collection .compare "reporter_activity_adapter_records" adapterRecords.length
    inputs.activity (env.census adapterRecords)

end AntennaBench
