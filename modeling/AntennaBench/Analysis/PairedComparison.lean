import AntennaBench.Analysis.Comparison

/-!
# The rows of the paired comparison

What `analyze_paired_comparison` makes of the resolved groups: diagnostics, timeline
rows, overlap rows, paired rows, path summaries, strata and the observed path profiles.
-/

namespace AntennaBench

open Timeline

inductive ComparisonAvailability where
  | notApplicable
  | unsupportedComparisonShape
  | noEligibleBlocks
  | noMatchedPaths
  | descriptivePairsAvailable
  deriving DecidableEq

structure DeltaOrientation where
  minuendLabel : String
  subtrahendLabel : String
  deriving DecidableEq

structure ComparisonDiagnostics where
  blockCount : ℕ := 0
  eligibleBlockCount : ℕ := 0
  invalidBlockCount : ℕ := 0
  leftThenRightBlockCount : ℕ := 0
  rightThenLeftBlockCount : ℕ := 0
  pairedRowCount : ℕ := 0
  uniquePathCount : ℕ := 0
  unmatchedLeftCount : ℕ := 0
  unmatchedRightCount : ℕ := 0
  missingSnrLeftCount : ℕ := 0
  missingSnrRightCount : ℕ := 0
  missingOrInvalidModeCount : ℕ := 0
  missingModeCount : ℕ := 0
  malformedModeCount : ℕ := 0
  ambiguousPathCount : ℕ := 0
  exactDuplicateCount : ℕ := 0
  conflictingDuplicateGroupCount : ℕ := 0
  excludedObservationCount : ℕ := 0

structure ComparisonTimelineRow where
  blockIndex : ℕ
  blockEligible : Bool
  sequenceNumber : ℕ
  slotId : String
  startsAt : DateTime
  band : Band
  actualLabel : Option String
  side : Option ComparisonSide
  status : AlignedSlotStatus
  totalObservationCount : ℕ := 0
  usableObservationCount : ℕ := 0
  excludedObservationCount : ℕ := 0
  missingSnrCount : ℕ := 0
  missingOrInvalidModeCount : ℕ := 0
  ambiguousPathCount : ℕ := 0
  exactDuplicateCount : ℕ := 0
  conflictingDuplicateGroupCount : ℕ := 0

structure PathOverlapRow where
  stratum : ComparisonStratum
  remotePath : String
  leftFiniteCount : ℕ
  rightFiniteCount : ℕ
  pairedCount : ℕ
  unmatchedLeftCount : ℕ
  unmatchedRightCount : ℕ
  missingSnrLeftCount : ℕ
  missingSnrRightCount : ℕ
  exactDuplicateCount : ℕ
  conflictingDuplicateGroupCount : ℕ

structure PairedPathSummary where
  stratum : ComparisonStratum
  remotePath : String
  pairedRowCount : ℕ
  medianDeltaRightMinusLeftDb : IeeeFloat

structure PairedStratumSummary where
  stratum : ComparisonStratum
  pairedRowCount : ℕ
  uniquePathCount : ℕ
  contributingBlockCount : ℕ
  leftThenRightBlockCount : ℕ
  rightThenLeftBlockCount : ℕ
  unmatchedLeftCount : ℕ
  unmatchedRightCount : ℕ
  missingSnrLeftCount : ℕ
  missingSnrRightCount : ℕ
  excludedObservationCount : ℕ
  exactDuplicateCount : ℕ
  conflictingDuplicateGroupCount : ℕ
  minimumDeltaRightMinusLeftDb : Option IeeeFloat
  medianPathDeltaRightMinusLeftDb : Option IeeeFloat
  maximumDeltaRightMinusLeftDb : Option IeeeFloat

inductive ObservedPathLocation where
  | available (remoteGrid : String) (distanceKm initialBearingDegrees : IeeeFloat)
  | missing
  | inconsistent

structure ObservedAntennaPath where
  remotePath : String
  location : ObservedPathLocation
  blockSupportCount : ℕ
  slotSupportCount : ℕ
  observationCount : ℕ
  blockIndices : List ℕ
  slotIds : List String
  observationIds : List String
  snr : Option SnrStatistics

structure ObservedAntennaPathProfile where
  stratum : ComparisonStratum
  side : ComparisonSide
  antennaLabel : String
  uniquePathCount : ℕ
  locatedPathCount : ℕ
  missingLocationPathCount : ℕ
  inconsistentLocationPathCount : ℕ
  paths : List ObservedAntennaPath

structure PairedComparisonAnalysis where
  availability : ComparisonAvailability
  leftLabel : Option String
  rightLabel : Option String
  deltaOrientation : Option DeltaOrientation
  diagnostics : ComparisonDiagnostics
  blocks : List ComparisonBlock
  overlapRows : List PathOverlapRow
  timelineRows : List ComparisonTimelineRow
  pairedRows : List PairedObservationRow
  pathSummaries : List PairedPathSummary
  strata : List PairedStratumSummary
  observedPathProfiles : List ObservedAntennaPathProfile

namespace PairOutcome

def duplicateCount (outcome : PairOutcome) : ℕ :=
  outcome.left.resolved.duplicateCount + outcome.right.resolved.duplicateCount

def conflictCount (outcome : PairOutcome) : ℕ :=
  outcome.left.resolved.conflict.toNat + outcome.right.resolved.conflict.toNat

def unmatchedLeft (outcome : PairOutcome) : Bool :=
  outcome.left.resolved.finite.isSome && outcome.right.resolved.finite.isNone &&
    !outcome.right.resolved.conflict

def unmatchedRight (outcome : PairOutcome) : Bool :=
  outcome.right.resolved.finite.isSome && outcome.left.resolved.finite.isNone &&
    !outcome.left.resolved.conflict

end PairOutcome

/-- The sum of a counter over the outcomes. -/
def totalOf (count : PairOutcome → ℕ) (outcomes : List PairOutcome) : ℕ :=
  (outcomes.map count).sum

/-- The side a label stands for. -/
def ComparisonPlan.labelSide (plan : ComparisonPlan) (label : Option String) :
    Option ComparisonSide :=
  if label = some plan.leftLabel then some .left
  else if label = some plan.rightLabel then some .right
  else none

/-- `build_timeline_rows`, before anything is counted. -/
def ComparisonPlan.timelineRows (plan : ComparisonPlan) : List ComparisonTimelineRow :=
  let row (block : ComparisonBlock) (sequenceNumber : ℕ) (slotId : String) (startsAt : DateTime)
      (actualLabel : Option String) (status : AlignedSlotStatus) : ComparisonTimelineRow := {
    blockIndex := block.blockIndex
    blockEligible := block.eligibility = .eligible
    sequenceNumber := sequenceNumber
    slotId := slotId
    startsAt := startsAt
    band := block.band
    actualLabel := actualLabel
    side := plan.labelSide actualLabel
    status := status }
  let rows := plan.blocks.flatMap fun block =>
    row block block.firstSequenceNumber block.firstSlotId block.firstStartsAt block.firstLabel
      block.firstStatus ::
    match block.secondSequenceNumber, block.secondSlotId, block.secondStartsAt,
      block.secondStatus with
    | some sequenceNumber, some slotId, some startsAt, some status =>
      [row block sequenceNumber slotId startsAt block.secondLabel status]
    | _, _, _, _ => []
  sortOn (fun row => (toLex (row.sequenceNumber, row.slotId) : ℕ ×ₗ String)) rows

/-- `slot_locations`: the last row of the slot. -/
def slotLocation? (rows : List ComparisonTimelineRow) (slotId : String) : Option ℕ :=
  (places (·.slotId) slotId rows).getLast?

namespace ComparisonPlan

variable (plan : ComparisonPlan)

def isAmbiguousPath (classified : ClassifiedObservation) : Bool :=
  (plan.side? classified).isSome && (pathIdentity plan.callsign classified.observation).isNone

def modeOf (classified : ClassifiedObservation) : Option SignalMode :=
  classified.observation.mode.bind SignalMode.normalize

def isMissingOrInvalidMode (classified : ClassifiedObservation) : Bool :=
  (plan.side? classified).isSome && (modeOf classified).isNone

def isMissingMode (classified : ClassifiedObservation) : Bool :=
  plan.isMissingOrInvalidMode classified && classified.observation.mode.all isBlank

/-- The counts of the row at `index`. -/
def countRow (rows : List ComparisonTimelineRow) (observations : List ClassifiedObservation)
    (outcomes : List PairOutcome) (index : ℕ) (row : ComparisonTimelineRow) :
    ComparisonTimelineRow :=
  let here (classified : ClassifiedObservation) : Bool :=
    classified.assignment.slotId.bind (slotLocation? rows) = some index
  let marked (side : SideOutcome) : Bool := side.markSlot.bind (slotLocation? rows) = some index
  let count (f : SideOutcome → ℕ) : ℕ := totalOf (fun outcome =>
    (if marked outcome.left then f outcome.left else 0) +
      if marked outcome.right then f outcome.right else 0) outcomes
  { row with
    totalObservationCount := observations.countP here
    usableObservationCount := observations.countP fun c => here c && c.isUsable
    excludedObservationCount := observations.countP fun c => here c && !c.isUsable
    missingSnrCount := count (·.resolved.missingSnr.toNat)
    missingOrInvalidModeCount :=
      observations.countP fun c => here c && plan.isMissingOrInvalidMode c
    ambiguousPathCount := observations.countP fun c => here c && plan.isAmbiguousPath c
    exactDuplicateCount := count (·.resolved.duplicateCount)
    conflictingDuplicateGroupCount := count (·.resolved.conflict.toNat) }

def countedRows (observations : List ClassifiedObservation) (outcomes : List PairOutcome) :
    List ComparisonTimelineRow :=
  plan.timelineRows.zipIdx.map fun (row, index) =>
    plan.countRow plan.timelineRows observations outcomes index row

def diagnostics (observations : List ClassifiedObservation) (outcomes : List PairOutcome)
    (pairedRows : List PairedObservationRow) : ComparisonDiagnostics :=
  let eligible := plan.blocks.countP (·.eligibility = .eligible)
  { blockCount := plan.blocks.length
    eligibleBlockCount := eligible
    invalidBlockCount := plan.blocks.length - eligible
    leftThenRightBlockCount := plan.blocks.countP (·.order = some .leftThenRight)
    rightThenLeftBlockCount := plan.blocks.countP (·.order = some .rightThenLeft)
    pairedRowCount := pairedRows.length
    uniquePathCount := (pairedRows.map (·.remotePath)).dedup.length
    unmatchedLeftCount := outcomes.countP (·.unmatchedLeft)
    unmatchedRightCount := outcomes.countP (·.unmatchedRight)
    missingSnrLeftCount := outcomes.countP (·.left.resolved.missingSnr)
    missingSnrRightCount := outcomes.countP (·.right.resolved.missingSnr)
    missingOrInvalidModeCount := observations.countP plan.isMissingOrInvalidMode
    missingModeCount := observations.countP plan.isMissingMode
    malformedModeCount :=
      observations.countP fun c => plan.isMissingOrInvalidMode c && !plan.isMissingMode c
    ambiguousPathCount := observations.countP plan.isAmbiguousPath
    exactDuplicateCount := totalOf (·.duplicateCount) outcomes
    conflictingDuplicateGroupCount := totalOf (·.conflictCount) outcomes
    excludedObservationCount := observations.countP (!·.isUsable) }

end ComparisonPlan

/-- The order of `paired_row_cmp`. -/
def pairedRowKey (row : PairedObservationRow) : StratumKey ×ₗ String ×ₗ ℕ ×ₗ String ×ₗ String :=
  toLex (stratumKey row.stratum, toLex (row.remotePath, toLex (row.blockIndex,
    toLex (row.leftObservationId, row.rightObservationId))))

def pairedRows (outcomes : List PairOutcome) : List PairedObservationRow :=
  sortOn pairedRowKey (outcomes.filterMap (·.row))

/-- A stratum and a remote path. -/
abbrev PathKey := StratumKey ×ₗ String

/-- Nothing stands for a panic of `stratum_from_key`, here and below. -/
def overlapRows (outcomes : List PairOutcome) : Option (List PathOverlapRow) :=
  let keyed := outcomes.map fun outcome =>
    ((toLex (outcome.key, outcome.remotePath) : PathKey), outcome)
  (groups keyed).mapM fun (pathKey, outcomes) =>
    let (key, remotePath) := ofLex pathKey
    (stratumFromKey key).map fun stratum => {
      stratum := stratum
      remotePath := remotePath
      leftFiniteCount := outcomes.countP (·.left.resolved.finite.isSome)
      rightFiniteCount := outcomes.countP (·.right.resolved.finite.isSome)
      pairedCount := outcomes.countP (·.row.isSome)
      unmatchedLeftCount := outcomes.countP (·.unmatchedLeft)
      unmatchedRightCount := outcomes.countP (·.unmatchedRight)
      missingSnrLeftCount := outcomes.countP (·.left.resolved.missingSnr)
      missingSnrRightCount := outcomes.countP (·.right.resolved.missingSnr)
      exactDuplicateCount := totalOf (·.duplicateCount) outcomes
      conflictingDuplicateGroupCount := totalOf (·.conflictCount) outcomes }

def buildPathSummaries (rows : List PairedObservationRow) : Option (List PairedPathSummary) :=
  let keyed := rows.map fun row =>
    ((toLex (stratumKey row.stratum, row.remotePath) : PathKey), row.deltaRightMinusLeftDb)
  (groups keyed).mapM fun (pathKey, deltas) =>
    let (key, remotePath) := ofLex pathKey
    (stratumFromKey key).map fun stratum => {
      stratum := stratum
      remotePath := remotePath
      pairedRowCount := deltas.length
      medianDeltaRightMinusLeftDb := median (sortTotal deltas) }

/-- The summary of one stratum, of its groups, its paths and its excluded observations. -/
def stratumSummary (outcomes : List PairOutcome) (paths : List PairedPathSummary)
    (excludedStrata : List StratumKey) (key : StratumKey) : Option PairedStratumSummary :=
  let outcomes := outcomes.filter (·.key = key)
  let rows := outcomes.filterMap (·.row)
  let deltas := sortTotal (rows.map (·.deltaRightMinusLeftDb))
  let orders := (rows.map fun row => (row.blockIndex, row.order)).dedup
  let pathMedians := sortTotal ((paths.filter (stratumKey ·.stratum = key)).map
    (·.medianDeltaRightMinusLeftDb))
  (stratumFromKey key).map fun stratum => {
    stratum := stratum
    pairedRowCount := deltas.length
    uniquePathCount := pathMedians.length
    contributingBlockCount := (rows.map (·.blockIndex)).dedup.length
    leftThenRightBlockCount := orders.countP (·.2 = .leftThenRight)
    rightThenLeftBlockCount := orders.countP (·.2 = .rightThenLeft)
    unmatchedLeftCount := outcomes.countP (·.unmatchedLeft)
    unmatchedRightCount := outcomes.countP (·.unmatchedRight)
    missingSnrLeftCount := outcomes.countP (·.left.resolved.missingSnr)
    missingSnrRightCount := outcomes.countP (·.right.resolved.missingSnr)
    excludedObservationCount := excludedStrata.count key
    exactDuplicateCount := totalOf (·.duplicateCount) outcomes
    conflictingDuplicateGroupCount := totalOf (·.conflictCount) outcomes
    minimumDeltaRightMinusLeftDb := deltas.head?
    medianPathDeltaRightMinusLeftDb := if pathMedians.isEmpty then none else median pathMedians
    maximumDeltaRightMinusLeftDb := deltas.getLast? }

/-- `build_strata`: a stratum of a group or of an excluded observation. -/
def buildStrata (outcomes : List PairOutcome) (paths : List PairedPathSummary)
    (excludedStrata : List StratumKey) : Option (List PairedStratumSummary) :=
  (Timeline.sortedKeys (outcomes.map (·.key) ++ excludedStrata)).mapM
    (stratumSummary outcomes paths excludedStrata)

/-- The facts of one observation that tell where the path ends. -/
def locationFact (callsign : String) (observation : ObservationRecord) :
    Option (String × IeeeFloat × IeeeFloat) := do
  let grid ← remoteGrid callsign observation
  let grid := trim grid
  let distance ← observation.distanceKm
  let bearing ← observation.azimuthDegrees
  if !grid.isEmpty && distance.isFinite && IeeeFloat.zero.le distance && bearing.isFinite &&
      IeeeFloat.zero.le bearing && bearing.lt (.finite 360) then
    some (toAsciiUppercase grid, distance, bearing)
  else none

def observedPathLocation (callsign : String) (observations : List ObservationRecord) :
    ObservedPathLocation :=
  let facts := observations.filterMap (locationFact callsign)
  let unique := Timeline.sortedKeys (facts.map fun (grid, distance, bearing) =>
    (toLex (grid, toLex (distance.totalKey, bearing.totalKey)) :
      String ×ₗ (ℕ ×ₗ ℚ ×ₗ ℕ) ×ₗ ℕ ×ₗ ℚ ×ₗ ℕ))
  match facts with
  | [] => .missing
  | (grid, distance, bearing) :: _ =>
    if facts.length ≠ observations.length ∨ unique.length ≠ 1 then .inconsistent
    else .available grid distance bearing

/-- `ObservedPathAccumulator::finish`. -/
def finishPath (callsign remotePath : String) (observations : List (ℕ × ObservationRecord)) :
    ObservedAntennaPath :=
  let observations := sortOn (·.2.observationId) observations
  let records := observations.map (·.2)
  let blockIndices := Timeline.sortedKeys (observations.map (·.1))
  let slotIds := Timeline.sortedKeys (records.filterMap (·.slotId))
  { remotePath := remotePath
    location := observedPathLocation callsign records
    blockSupportCount := blockIndices.length
    slotSupportCount := slotIds.length
    observationCount := observations.length
    blockIndices := blockIndices
    slotIds := slotIds
    observationIds := records.map (·.observationId)
    snr := snrStatistics (sortTotal ((records.filterMap (·.snrDb)).filter (·.isFinite))) }

/-- A stratum, a side and, for the paths, a remote call. -/
abbrev ProfileKey := StratumKey ×ₗ ℕ

abbrev ProfilePathKey := StratumKey ×ₗ ℕ ×ₗ String

/-- What one outcome adds to the path profiles. -/
def PairOutcome.profileEntries (outcome : PairOutcome) :
    List (ProfilePathKey × ℕ × ObservationRecord) :=
  let entries (side : ℕ) (observation : Option ObservationRecord) :=
    observation.toList.map fun observation =>
      ((toLex (outcome.key, toLex (side, outcome.remotePath)) : ProfilePathKey),
        outcome.blockIndex, observation)
  entries 0 outcome.left.profile ++ entries 1 outcome.right.profile

def ObservedPathLocation.isAvailable : ObservedPathLocation → Bool
  | available _ _ _ => true
  | _ => false

def ObservedPathLocation.isMissing : ObservedPathLocation → Bool
  | missing => true
  | _ => false

def ObservedPathLocation.isInconsistent : ObservedPathLocation → Bool
  | inconsistent => true
  | _ => false

/-- The paths of the profiles, by stratum and side. -/
def profilePaths (callsign : String) (outcomes : List PairOutcome) :
    List (ProfileKey × ObservedAntennaPath) :=
  (groups (outcomes.flatMap (·.profileEntries))).map fun (pathKey, observations) =>
    let (key, rest) := ofLex pathKey
    let (side, remotePath) := ofLex rest
    ((toLex (key, side) : ProfileKey), finishPath callsign remotePath observations)

def buildObservedPathProfiles (plan : ComparisonPlan) (outcomes : List PairOutcome) :
    Option (List ObservedAntennaPathProfile) :=
  (groups (profilePaths plan.callsign outcomes)).mapM fun (profileKey, paths) =>
    let (key, side) := ofLex profileKey
    (stratumFromKey key).map fun stratum => {
      stratum := stratum
      side := if side = 0 then .left else .right
      antennaLabel := if side = 0 then plan.leftLabel else plan.rightLabel
      uniquePathCount := paths.length
      locatedPathCount := paths.countP (·.location.isAvailable)
      missingLocationPathCount := paths.countP (·.location.isMissing)
      inconsistentLocationPathCount := paths.countP (·.location.isInconsistent)
      paths := paths }

def unavailable (availability : ComparisonAvailability) (labels : List String) :
    PairedComparisonAnalysis where
  availability := availability
  leftLabel := labels[0]?
  rightLabel := labels[1]?
  deltaOrientation := labels[1]?.bind fun right => labels[0]?.map fun left => ⟨right, left⟩
  diagnostics := {}
  blocks := []
  overlapRows := []
  timelineRows := []
  pairedRows := []
  pathSummaries := []
  strata := []
  observedPathProfiles := []

/-- What follows the grouping. -/
def ComparisonPlan.analysis (plan : ComparisonPlan) (observations : List ClassifiedObservation)
    (outcomes : List PairOutcome) : Option PairedComparisonAnalysis := do
  let rows := AntennaBench.pairedRows outcomes
  let diagnostics := plan.diagnostics observations outcomes rows
  let overlap ← AntennaBench.overlapRows outcomes
  let paths ← buildPathSummaries rows
  let profiles ← buildObservedPathProfiles plan outcomes
  let strata ← buildStrata outcomes paths (plan.excludedStrata observations)
  return {
    availability :=
      if diagnostics.eligibleBlockCount = 0 then .noEligibleBlocks
      else if rows.isEmpty then .noMatchedPaths
      else .descriptivePairsAvailable
    leftLabel := some plan.leftLabel
    rightLabel := some plan.rightLabel
    deltaOrientation := some ⟨plan.rightLabel, plan.leftLabel⟩
    diagnostics := diagnostics
    blocks := plan.blocks
    overlapRows := overlap
    timelineRows := plan.countedRows observations outcomes
    pairedRows := rows
    pathSummaries := paths
    strata := strata
    observedPathProfiles := profiles }

/-- `analyze_paired_comparison`; nothing stands for a panic. -/
def analyzePairedComparison (callsign : String) (schedule : Schedule)
    (alignedSlots : List AlignedSlot) (observations : List ClassifiedObservation) :
    Option PairedComparisonAnalysis :=
  let labels := scheduledLabels schedule
  if schedule.mode = .singleAntennaProfiling then some (unavailable .notApplicable labels)
  else match labels with
  | [left, right] => do
    let plan : ComparisonPlan := ⟨callsign, left, right,
      buildBlocks (alignedSlots.insertionSort AlignedSlot.Before) left right⟩
    let outcomes ← plan.outcomes observations
    plan.analysis observations outcomes
  | _ => some (unavailable .unsupportedComparisonShape labels)

end AntennaBench
