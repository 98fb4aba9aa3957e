import AntennaBench.Analysis.PairedComparison
import AntennaBench.Report.JointRows
import AntennaBench.Timeline.Cells

/-!
# Coverage overlap

`project_coverage_overlap`: for every stratum, the paths that one antenna reached and the
other did not, and the joint outcomes of the common receivers by block order and by receiver.
-/

namespace AntennaBench

open Timeline

structure ReportBlockCountFrequency where
  observedBlockCount : ℕ
  uniquePathCount : ℕ

structure ReportPathRepeatability where
  remotePath : String
  observedBlockCount : ℕ
  observationCount : ℕ
  leftThenRightBlockCount : ℕ
  rightThenLeftBlockCount : ℕ
  blockIndices : List ℕ

structure ReportAntennaRepeatability where
  side : ComparisonSide
  antennaLabel : String
  uniqueEndpointCount : ℕ
  pathBlockObservationCount : ℕ
  observedOncePathCount : ℕ
  repeatedPathCount : ℕ
  blockCountDistribution : List ReportBlockCountFrequency
  paths : List ReportPathRepeatability

structure ReportObservedComplementarity where
  eligibleBlockCount : ℕ
  leftOnlyUniquePathCount : ℕ
  sharedUniquePathCount : ℕ
  rightOnlyUniquePathCount : ℕ
  totalSystemUniquePathCount : ℕ
  incrementalLeftPathCount : ℕ
  incrementalRightPathCount : ℕ
  left : Option ReportAntennaRepeatability
  right : Option ReportAntennaRepeatability

structure ReportOpportunityOrderSummary where
  order : ComparisonOrder
  blockCount : ℕ := 0
  receiverBlockOpportunityCount : ℕ := 0
  heardBothCount : ℕ := 0
  leftOnlyCount : ℕ := 0
  rightOnlyCount : ℕ := 0
  heardNeitherCount : ℕ := 0

structure ReportReceiverDetectionFrequency where
  receiver : String
  opportunityCount : ℕ
  leftDetectionCount : ℕ
  rightDetectionCount : ℕ
  heardBothCount : ℕ
  leftOnlyCount : ℕ
  rightOnlyCount : ℕ
  heardNeitherCount : ℕ
  leftThenRightOpportunityCount : ℕ
  rightThenLeftOpportunityCount : ℕ

structure ReportOpportunityComplementarity where
  coverage : ReporterActivityCoverage
  eligibleBlockCount : ℕ
  knownCoverageBlockCount : ℕ
  uniqueCommonActiveReceiverCount : ℕ
  receiverBlockOpportunityCount : ℕ
  heardBothCount : ℕ
  leftOnlyCount : ℕ
  rightOnlyCount : ℕ
  heardNeitherCount : ℕ
  orderSummaries : List ReportOpportunityOrderSummary
  receiverFrequencies : List ReportReceiverDetectionFrequency

structure ReportCoverageOverlapGroup where
  stratum : ComparisonStratum
  observed : Option ReportObservedComplementarity
  commonOpportunity : Option ReportOpportunityComplementarity

def ComparisonBlock.orderAt (blocks : List ComparisonBlock) (index : ℕ) :
    Option ComparisonOrder :=
  (blocks.find? (·.blockIndex = index)).bind (·.order)

/-- `order_counts`. -/
def orderCounts (blockIndices : List ℕ) (blocks : List ComparisonBlock) : ℕ × ℕ :=
  blockIndices.foldl (fun counts index =>
    match ComparisonBlock.orderAt blocks index with
    | some .leftThenRight => (counts.1 + 1, counts.2)
    | some .rightThenLeft => (counts.1, counts.2 + 1)
    | none => counts) (0, 0)

def projectPath (blocks : List ComparisonBlock) (path : ObservedAntennaPath) :
    ReportPathRepeatability :=
  let counts := orderCounts path.blockIndices blocks
  { remotePath := path.remotePath
    observedBlockCount := path.blockSupportCount
    observationCount := path.observationCount
    leftThenRightBlockCount := counts.1
    rightThenLeftBlockCount := counts.2
    blockIndices := path.blockIndices }

def projectRepeatability (profile : ObservedAntennaPathProfile) (blocks : List ComparisonBlock) :
    ReportAntennaRepeatability :=
  let distribution := profile.paths.foldl (fun distribution path =>
    modifyEntry 0 path.blockSupportCount (· + 1) distribution) []
  let paths := profile.paths.map (projectPath blocks)
  { side := profile.side
    antennaLabel := profile.antennaLabel
    uniqueEndpointCount := paths.length
    pathBlockObservationCount := (paths.map (·.observedBlockCount)).sum
    observedOncePathCount := paths.countP (·.observedBlockCount = 1)
    repeatedPathCount := paths.countP (1 < ·.observedBlockCount)
    blockCountDistribution := distribution.map fun entry => ⟨entry.1, entry.2⟩
    paths := paths }

def profileOn (comparison : PairedComparisonAnalysis) (stratum : ComparisonStratum)
    (side : ComparisonSide) : Option ObservedAntennaPathProfile :=
  comparison.observedPathProfiles.find? fun profile =>
    profile.stratum = stratum && profile.side = side

def pathIdentities (profile : Option ObservedAntennaPathProfile) : Finset String :=
  ((profile.elim [] (·.paths)).map (·.remotePath)).toFinset

def projectObserved (stratum : ComparisonStratum) (comparison : PairedComparisonAnalysis) :
    Option ReportObservedComplementarity :=
  let left := profileOn comparison stratum .left
  let right := profileOn comparison stratum .right
  if left.isNone && right.isNone then none
  else
    let leftPaths := pathIdentities left
    let rightPaths := pathIdentities right
    let leftOnly := (leftPaths \ rightPaths).card
    let shared := (leftPaths ∩ rightPaths).card
    let rightOnly := (rightPaths \ leftPaths).card
    some {
      eligibleBlockCount := comparison.blocks.countP fun block =>
        block.band = stratum.band && block.eligibility = .eligible
      leftOnlyUniquePathCount := leftOnly
      sharedUniquePathCount := shared
      rightOnlyUniquePathCount := rightOnly
      totalSystemUniquePathCount := leftOnly + shared + rightOnly
      incrementalLeftPathCount := leftOnly
      incrementalRightPathCount := rightOnly
      left := left.map (projectRepeatability · comparison.blocks)
      right := right.map (projectRepeatability · comparison.blocks) }

structure ReceiverFrequency where
  opportunities : ℕ := 0
  left : ℕ := 0
  right : ℕ := 0
  both : ℕ := 0
  leftOnly : ℕ := 0
  rightOnly : ℕ := 0
  neither : ℕ := 0
  leftThenRight : ℕ := 0
  rightThenLeft : ℕ := 0

namespace ReceiverFrequency

def addOrder (frequency : ReceiverFrequency) : ComparisonOrder → ReceiverFrequency
  | .leftThenRight => { frequency with leftThenRight := frequency.leftThenRight + 1 }
  | .rightThenLeft => { frequency with rightThenLeft := frequency.rightThenLeft + 1 }

def addOutcome (frequency : ReceiverFrequency) : ReporterActivityJointOutcome → ReceiverFrequency
  | .heardBoth => { frequency with
      both := frequency.both + 1
      left := frequency.left + 1
      right := frequency.right + 1 }
  | .leftOnly => { frequency with
      leftOnly := frequency.leftOnly + 1
      left := frequency.left + 1 }
  | .rightOnly => { frequency with
      rightOnly := frequency.rightOnly + 1
      right := frequency.right + 1 }
  | .heardNeither => { frequency with neither := frequency.neither + 1 }

def add (frequency : ReceiverFrequency) (order : ComparisonOrder)
    (outcome : ReporterActivityJointOutcome) : ReceiverFrequency :=
  ({ frequency with opportunities := frequency.opportunities + 1 }.addOrder order).addOutcome
    outcome

def finish (frequency : ReceiverFrequency) (receiver : String) :
    ReportReceiverDetectionFrequency where
  receiver := receiver
  opportunityCount := frequency.opportunities
  leftDetectionCount := frequency.left
  rightDetectionCount := frequency.right
  heardBothCount := frequency.both
  leftOnlyCount := frequency.leftOnly
  rightOnlyCount := frequency.rightOnly
  heardNeitherCount := frequency.neither
  leftThenRightOpportunityCount := frequency.leftThenRight
  rightThenLeftOpportunityCount := frequency.rightThenLeft

end ReceiverFrequency

def ReportOpportunityOrderSummary.add (summary : ReportOpportunityOrderSummary)
    (row : ReporterActivityPairedRate) : ReportOpportunityOrderSummary where
  order := summary.order
  blockCount := summary.blockCount + 1
  receiverBlockOpportunityCount := summary.receiverBlockOpportunityCount + row.activeInBothCount
  heardBothCount := summary.heardBothCount + row.heardBothCount
  leftOnlyCount := summary.leftOnlyCount + row.leftOnlyCount
  rightOnlyCount := summary.rightOnlyCount + row.rightOnlyCount
  heardNeitherCount := summary.heardNeitherCount + row.heardNeitherCount

/-- `orders` and `receivers`. -/
structure OpportunityTally where
  orders : ComparisonOrder → Option ReportOpportunityOrderSummary := fun _ => none
  receivers : List (String × ReceiverFrequency) := []

/-- `orders.entry(row.order).or_insert(..)`, and what the row adds to it. -/
def countOrder (row : ReporterActivityPairedRate)
    (summary : Option ReportOpportunityOrderSummary) : Option ReportOpportunityOrderSummary :=
  some ((summary.getD { order := row.order }).add row)

def countReceiver (order : ComparisonOrder) (receivers : List (String × ReceiverFrequency))
    (receiver : ReporterActivityJointReceiver) : List (String × ReceiverFrequency) :=
  modifyEntry {} receiver.receiver (·.add order receiver.outcome) receivers

/-- One iteration of the loop over the rows. -/
def OpportunityTally.add (tally : OpportunityTally) (row : ReporterActivityPairedRate) :
    OpportunityTally where
  orders := updateCell row.order (countOrder row) tally.orders
  receivers := row.receivers.foldl (countReceiver row.order) tally.receivers

def projectOpportunities (stratum : ComparisonStratum) (activity : ReporterActivityAnalysis) :
    Option ReportOpportunityComplementarity :=
  (activity.jointSummaries.find? (·.stratum = stratum)).map fun summary =>
    let tally : OpportunityTally :=
      (activity.pairedRates.filter (·.stratum = stratum)).foldl .add {}
    { coverage := summary.coverage
      eligibleBlockCount := summary.eligibleBlockCount
      knownCoverageBlockCount := summary.knownCoverageBlockCount
      uniqueCommonActiveReceiverCount := summary.uniqueActiveReceiverCount
      receiverBlockOpportunityCount := summary.receiverBlockOpportunityCount
      heardBothCount := summary.heardBothCount
      leftOnlyCount := summary.leftOnlyCount
      rightOnlyCount := summary.rightOnlyCount
      heardNeitherCount := summary.heardNeitherCount
      orderSummaries := [ComparisonOrder.leftThenRight, .rightThenLeft].filterMap tally.orders
      receiverFrequencies := tally.receivers.map fun entry => entry.2.finish entry.1 }

/-- The items without repetitions, in the order of their first occurrence. -/
def firstOccurrences {α : Type} [DecidableEq α] (items : List α) : List α :=
  items.foldl (fun seen item => if item ∈ seen then seen else seen ++ [item]) []

def projectCoverageOverlap (comparison : PairedComparisonAnalysis)
    (activity : ReporterActivityAnalysis) : List ReportCoverageOverlapGroup :=
  (firstOccurrences (comparison.observedPathProfiles.map (·.stratum) ++
      activity.jointSummaries.map (·.stratum))).map fun stratum =>
    { stratum := stratum
      observed := projectObserved stratum comparison
      commonOpportunity := projectOpportunities stratum activity }

end AntennaBench
