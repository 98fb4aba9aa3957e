import AntennaBench.Analysis.ReporterActivity
import AntennaBench.Report.Geography
import AntennaBench.Timeline.Cells

/-!
# Common-opportunity maps

`build_common_opportunity_maps`: the receivers active in both cycles of a block, counted by
distance, by compass sector and by both, over a stratum and for each block. A receiver is on
the map where every row of the stratum gives it the same valid locator.
-/

namespace AntennaBench

open Timeline

structure ReportCommonOpportunityCell (T : Type) where
  category : T
  coverage : ReporterActivityCoverage
  uniqueCommonActiveReceiverCount : ℕ
  receiverBlockOpportunityCount : ℕ
  heardBothCount : ℕ
  leftOnlyCount : ℕ
  rightOnlyCount : ℕ
  heardNeitherCount : ℕ
  leftHeardCount : ℕ
  rightHeardCount : ℕ
  leftDetectionRate : Option IeeeFloat
  rightDetectionRate : Option IeeeFloat

structure ReportCommonOpportunityPolarCell where
  bearingSector : ReportAzimuthSector
  distanceBin : ReportDistanceBin
  facts : ReportCommonOpportunityCell ReportDistanceBin

structure ReportCommonOpportunityBlock where
  blockIndex : ℕ
  order : ComparisonOrder
  leftSlotId : String
  rightSlotId : String
  coverage : ReporterActivityCoverage
  commonActiveReceiverCount : ℕ
  locatedReceiverCount : ℕ
  locationUnavailableReceiverCount : ℕ
  polarCells : List ReportCommonOpportunityPolarCell

structure ReportCommonOpportunityMapGroup where
  stratum : ComparisonStratum
  coverage : ReporterActivityCoverage
  eligibleBlockCount : ℕ
  knownCoverageBlockCount : ℕ
  uniqueCommonActiveReceiverCount : ℕ
  receiverBlockOpportunityCount : ℕ
  locatedUniqueReceiverCount : ℕ
  locatedReceiverBlockOpportunityCount : ℕ
  locationUnavailableUniqueReceiverCount : ℕ
  locationUnavailableReceiverBlockOpportunityCount : ℕ
  distanceCells : List (ReportCommonOpportunityCell ReportDistanceBin)
  azimuthCells : List (ReportCommonOpportunityCell ReportAzimuthSector)
  polarCells : List ReportCommonOpportunityPolarCell
  blocks : List ReportCommonOpportunityBlock

structure ResolvedLocation where
  distance : ReportDistanceBin
  azimuthIndex : Fin 8

/-- The locator of a row as the map compares it. -/
def normalizedLocator (grid : Option String) : Option String := do
  let grid := toAsciiUppercase (trim (← grid))
  let _ ← stationCoordinatesFromGrid grid
  return grid

/-- `resolve_location`. -/
def resolveLocation (greatCircle : GreatCircle) (station : Option GeographicCoordinates)
    (grids : List (Option String)) : Option ResolvedLocation := do
  let station ← station
  let normalized ← grids.mapM normalizedLocator
  match Timeline.sortedKeys normalized with
  | [locator] => do
    let destination ← stationCoordinatesFromGrid locator
    let position ← greatCircle station destination
    return {
      distance := ← ReportDistanceBin.classify position.distanceKm
      azimuthIndex := azimuthSectorIndex 64 position.initialBearingDegrees }
  | _ => none

/-- `receiver_grids`, resolved: the receivers of the rows with their locations. -/
def resolvedLocations (greatCircle : GreatCircle) (station : Option GeographicCoordinates)
    (rows : List ReporterActivityPairedRate) : List (String × Option ResolvedLocation) :=
  (groups (rows.flatMap fun row => row.receivers.map fun receiver =>
    (receiver.receiver, receiver.receiverGrid))).map fun (receiver, grids) =>
      (receiver, resolveLocation greatCircle station grids)

/-- `combine_coverage` of the report. -/
def ReporterActivityCoverage.weakest :
    ReporterActivityCoverage → ReporterActivityCoverage → ReporterActivityCoverage
  | truncated, _ => truncated
  | _, truncated => truncated
  | partialCensus, _ => partialCensus
  | _, partialCensus => partialCensus
  | unknown reason, _ => unknown reason
  | _, unknown reason => unknown reason
  | complete, complete => complete

structure CellAccumulator where
  receivers : Finset String := ∅
  coverage : Option ReporterActivityCoverage := none
  opportunities : ℕ := 0
  both : ℕ := 0
  leftOnly : ℕ := 0
  rightOnly : ℕ := 0
  neither : ℕ := 0

namespace CellAccumulator

def add (cell : CellAccumulator) (receiver : ReporterActivityJointReceiver)
    (coverage : ReporterActivityCoverage) : CellAccumulator :=
  let cell := { cell with
    receivers := insert receiver.receiver cell.receivers
    coverage := some (cell.coverage.elim coverage (·.weakest coverage))
    opportunities := cell.opportunities + 1 }
  match receiver.outcome with
  | .heardBoth => { cell with both := cell.both + 1 }
  | .leftOnly => { cell with leftOnly := cell.leftOnly + 1 }
  | .rightOnly => { cell with rightOnly := cell.rightOnly + 1 }
  | .heardNeither => { cell with neither := cell.neither + 1 }

def finish {T : Type} (cell : CellAccumulator) (category : T)
    (fallbackCoverage : ReporterActivityCoverage) : ReportCommonOpportunityCell T :=
  let leftHeard := cell.both + cell.leftOnly
  let rightHeard := cell.both + cell.rightOnly
  { category := category
    coverage := cell.coverage.getD fallbackCoverage
    uniqueCommonActiveReceiverCount := cell.receivers.card
    receiverBlockOpportunityCount := cell.opportunities
    heardBothCount := cell.both
    leftOnlyCount := cell.leftOnly
    rightOnlyCount := cell.rightOnly
    heardNeitherCount := cell.neither
    leftHeardCount := leftHeard
    rightHeardCount := rightHeard
    leftDetectionRate := hearingRate leftHeard cell.opportunities
    rightDetectionRate := hearingRate rightHeard cell.opportunities }

end CellAccumulator

/-- `(azimuth_index, distance.index())`. -/
abbrev PolarKey := Fin 8 ×ₗ Fin 4

def ResolvedLocation.polarKey (location : ResolvedLocation) : PolarKey :=
  toLex (location.azimuthIndex, location.distance.index)

def finishPolarCells (cells : List (PolarKey × CellAccumulator))
    (fallbackCoverage : ReporterActivityCoverage) : List ReportCommonOpportunityPolarCell :=
  cells.map fun (key, cell) =>
    let (azimuth, distance) := ofLex key
    let distanceBin := ReportDistanceBin.ofIndex distance
    { bearingSector := ReportAzimuthSector.ofIndex azimuth
      distanceBin := distanceBin
      facts := cell.finish distanceBin fallbackCoverage }

/-- A receiver of a row that is on the map. -/
structure LocatedReceiver where
  location : ResolvedLocation
  receiver : ReporterActivityJointReceiver
  coverage : ReporterActivityCoverage

/-- The receivers of a row, less those the loop passes by. -/
def locatedReceivers (locations : List (String × Option ResolvedLocation))
    (row : ReporterActivityPairedRate) : List LocatedReceiver :=
  row.receivers.filterMap fun receiver =>
    ((locations.lookup receiver.receiver).join).map fun location =>
      ⟨location, receiver, row.coverage⟩

/-- What the loop over the rows fills. -/
structure OpportunityCells where
  distance : ReportDistanceBin → CellAccumulator := fun _ => {}
  azimuth : Fin 8 → CellAccumulator := fun _ => {}
  polar : List (PolarKey × CellAccumulator) := []
  locatedOpportunities : ℕ := 0

def addPolar (polar : List (PolarKey × CellAccumulator)) (located : LocatedReceiver) :
    List (PolarKey × CellAccumulator) :=
  modifyEntry {} located.location.polarKey (·.add located.receiver located.coverage) polar

namespace OpportunityCells

def add (cells : OpportunityCells) (located : LocatedReceiver) : OpportunityCells where
  distance := updateCell located.location.distance
    (·.add located.receiver located.coverage) cells.distance
  azimuth := updateCell located.location.azimuthIndex
    (·.add located.receiver located.coverage) cells.azimuth
  polar := addPolar cells.polar located
  locatedOpportunities := cells.locatedOpportunities + 1

end OpportunityCells

def opportunityBlock (locations : List (String × Option ResolvedLocation))
    (row : ReporterActivityPairedRate) : ReportCommonOpportunityBlock :=
  let located := locatedReceivers locations row
  { blockIndex := row.blockIndex
    order := row.order
    leftSlotId := row.leftSlotId
    rightSlotId := row.rightSlotId
    coverage := row.coverage
    commonActiveReceiverCount := row.activeInBothCount
    locatedReceiverCount := located.length
    locationUnavailableReceiverCount := row.activeInBothCount - located.length
    polarCells := finishPolarCells (located.foldl addPolar []) row.coverage }

/-- The rows of a stratum in the order of their blocks. -/
def ReporterActivityAnalysis.stratumRows (activity : ReporterActivityAnalysis)
    (stratum : ComparisonStratum) : List ReporterActivityPairedRate :=
  sortOn (·.blockIndex) (activity.pairedRates.filter (·.stratum = stratum))

def opportunityMapGroup (greatCircle : GreatCircle) (station : Option GeographicCoordinates)
    (activity : ReporterActivityAnalysis) (summary : ReporterActivityJointSummary) :
    ReportCommonOpportunityMapGroup :=
  let rows := activity.stratumRows summary.stratum
  let locations := resolvedLocations greatCircle station rows
  let cells := rows.foldl (fun cells row =>
    (locatedReceivers locations row).foldl OpportunityCells.add cells) {}
  let locatedUnique := locations.countP (·.2.isSome)
  { stratum := summary.stratum
    coverage := summary.coverage
    eligibleBlockCount := summary.eligibleBlockCount
    knownCoverageBlockCount := summary.knownCoverageBlockCount
    uniqueCommonActiveReceiverCount := summary.uniqueActiveReceiverCount
    receiverBlockOpportunityCount := summary.receiverBlockOpportunityCount
    locatedUniqueReceiverCount := locatedUnique
    locatedReceiverBlockOpportunityCount := cells.locatedOpportunities
    locationUnavailableUniqueReceiverCount := summary.uniqueActiveReceiverCount - locatedUnique
    locationUnavailableReceiverBlockOpportunityCount :=
      summary.receiverBlockOpportunityCount - cells.locatedOpportunities
    distanceCells := ReportDistanceBin.all.map fun category =>
      (cells.distance category).finish category summary.coverage
    azimuthCells := ReportAzimuthSector.all.map fun category =>
      (cells.azimuth category.index).finish category summary.coverage
    polarCells := finishPolarCells cells.polar summary.coverage
    blocks := rows.map (opportunityBlock locations) }

def buildCommonOpportunityMaps (greatCircle : GreatCircle) (stationGrid : String)
    (activity : ReporterActivityAnalysis) : List ReportCommonOpportunityMapGroup :=
  activity.jointSummaries.map
    (opportunityMapGroup greatCircle (stationCoordinatesFromGrid stationGrid) activity)

end AntennaBench
