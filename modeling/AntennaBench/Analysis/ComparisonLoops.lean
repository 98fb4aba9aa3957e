import AntennaBench.Analysis.PairedComparison
import AntennaBench.Timeline.OrderedMap
import Mathlib.Data.Finset.Card

/-!
# The counting loops of the paired comparison

The grouping loop and the pairing loop with the counters they keep: diagnostics,
exclusions by stratum, groups, overlap rows and strata, each updated where the source
updates it. What they leave is what `ComparisonPlan.analysis` counts over the outcomes.
-/

namespace AntennaBench

open Timeline

structure PairGroup where
  left : List ObservationRecord := []
  right : List ObservationRecord := []

def PairGroup.add (group : PairGroup) : ComparisonSide → ObservationRecord → PairGroup
  | .left, observation => { group with left := group.left ++ [observation] }
  | .right, observation => { group with right := group.right ++ [observation] }

structure GroupingState where
  diagnostics : ComparisonDiagnostics
  exclusionsByStratum : List (StratumKey × ℕ)
  groups : List (ComparisonPlan.GroupKey × PairGroup)

namespace GroupingState

/-- The counters of an excluded observation. -/
def countExclusion (callsign : String) (state : GroupingState)
    (classified : ClassifiedObservation) : GroupingState :=
  if classified.isUsable then state
  else {
    state with
    diagnostics := { state.diagnostics with
      excludedObservationCount := state.diagnostics.excludedObservationCount + 1 }
    exclusionsByStratum :=
      match observationStratum callsign classified.observation with
      | some (stratum, _) => modifyEntry 0 (stratumKey stratum) (· + 1) state.exclusionsByStratum
      | none => state.exclusionsByStratum }

def countPath (state : GroupingState) (path : Option (PathDirection × String)) : GroupingState :=
  if path.isSome then state
  else { state with diagnostics := { state.diagnostics with
    ambiguousPathCount := state.diagnostics.ambiguousPathCount + 1 } }

def countMode (state : GroupingState) (value : Option String) (mode : Option SignalMode) :
    GroupingState :=
  if mode.isSome then state
  else
    let diagnostics := { state.diagnostics with
      missingOrInvalidModeCount := state.diagnostics.missingOrInvalidModeCount + 1 }
    { state with
      diagnostics :=
        if value.all isBlank then
          { diagnostics with missingModeCount := diagnostics.missingModeCount + 1 }
        else { diagnostics with malformedModeCount := diagnostics.malformedModeCount + 1 } }

def push (state : GroupingState) (key : ComparisonPlan.GroupKey) (side : ComparisonSide)
    (observation : ObservationRecord) : GroupingState :=
  { state with groups := modifyEntry {} key (·.add side observation) state.groups }

end GroupingState

namespace ComparisonPlan

variable (plan : ComparisonPlan)

/-- The part of the grouping loop behind its `continue`s. -/
def groupParticipant (state : GroupingState) (side : ComparisonSide) (index : ℕ)
    (classified : ClassifiedObservation) : GroupingState :=
  let observation := classified.observation
  let path := pathIdentity plan.callsign observation
  let mode := modeOf classified
  let state := (state.countPath path).countMode observation.mode mode
  match path, mode with
  | some (direction, remotePath), some mode =>
    let stratum : ComparisonStratum := ⟨direction, observation.band, mode,
      observation.observationKind, observation.recordMeta.source⟩
    state.push (toLex (stratumKey stratum, toLex (index, remotePath))) side observation
  | _, _ => state

/-- One iteration of the grouping loop; nothing stands for the panic of an index. -/
def groupingStep (state : GroupingState) (classified : ClassifiedObservation) :
    Option GroupingState :=
  let state := state.countExclusion plan.callsign classified
  match classified.assignment.slotId with
  | none => some state
  | some slotId =>
    if !classified.isUsable then some state
    else match plan.blockOfSlot slotId with
    | none => some state
    | some index =>
      match plan.blocks[index]? with
      | none => none
      | some block =>
        if block.eligibility ≠ .eligible then some state
        else match plan.labelSide classified.assignment.slotLabel with
        | none => some state
        | some side => some (plan.groupParticipant state side index classified)

/-- The diagnostics the loops start with. -/
def blockDiagnostics : ComparisonDiagnostics :=
  let eligible := plan.blocks.countP (·.eligibility = .eligible)
  { blockCount := plan.blocks.length
    eligibleBlockCount := eligible
    invalidBlockCount := plan.blocks.length - eligible
    leftThenRightBlockCount := plan.blocks.countP (·.order = some .leftThenRight)
    rightThenLeftBlockCount := plan.blocks.countP (·.order = some .rightThenLeft) }

def grouped (observations : List ClassifiedObservation) : Option GroupingState :=
  observations.foldlM plan.groupingStep ⟨plan.blockDiagnostics, [], []⟩

end ComparisonPlan

structure OverlapAccumulator where
  leftFiniteCount : ℕ := 0
  rightFiniteCount : ℕ := 0
  pairedCount : ℕ := 0
  unmatchedLeftCount : ℕ := 0
  unmatchedRightCount : ℕ := 0
  missingSnrLeftCount : ℕ := 0
  missingSnrRightCount : ℕ := 0
  exactDuplicateCount : ℕ := 0
  conflictingDuplicateGroupCount : ℕ := 0
  deriving DecidableEq

structure StratumAccumulator where
  pairedBlocks : Finset ℕ := ∅
  orders : Finset (ℕ × ComparisonOrder) := ∅
  deltas : List IeeeFloat := []
  unmatchedLeftCount : ℕ := 0
  unmatchedRightCount : ℕ := 0
  missingSnrLeftCount : ℕ := 0
  missingSnrRightCount : ℕ := 0
  exactDuplicateCount : ℕ := 0
  conflictingDuplicateGroupCount : ℕ := 0

/-- One where the condition holds: what a guarded `+= 1` adds. -/
def oneIf (condition : Bool) : ℕ := if condition then 1 else 0

/-- The first side is measured, and the other neither measured nor in conflict. -/
def isUnmatched (side other : ResolvedObservation) : Bool :=
  side.finite.isSome && (other.finite.isNone && !other.conflict)

/-- The updates of the diagnostics by one group. -/
def ComparisonDiagnostics.addGroup (diagnostics : ComparisonDiagnostics)
    (left right : ResolvedObservation) : ComparisonDiagnostics :=
  { diagnostics with
    exactDuplicateCount :=
      diagnostics.exactDuplicateCount + (left.duplicateCount + right.duplicateCount)
    conflictingDuplicateGroupCount := diagnostics.conflictingDuplicateGroupCount +
      (oneIf left.conflict + oneIf right.conflict)
    missingSnrLeftCount := diagnostics.missingSnrLeftCount + oneIf left.missingSnr
    missingSnrRightCount := diagnostics.missingSnrRightCount + oneIf right.missingSnr
    unmatchedLeftCount := diagnostics.unmatchedLeftCount + oneIf (isUnmatched left right)
    unmatchedRightCount := diagnostics.unmatchedRightCount + oneIf (isUnmatched right left) }

def OverlapAccumulator.addGroup (overlap : OverlapAccumulator) (left right : ResolvedObservation) :
    OverlapAccumulator :=
  { overlap with
    exactDuplicateCount :=
      overlap.exactDuplicateCount + (left.duplicateCount + right.duplicateCount)
    conflictingDuplicateGroupCount := overlap.conflictingDuplicateGroupCount +
      (oneIf left.conflict + oneIf right.conflict)
    missingSnrLeftCount := overlap.missingSnrLeftCount + oneIf left.missingSnr
    missingSnrRightCount := overlap.missingSnrRightCount + oneIf right.missingSnr
    leftFiniteCount := overlap.leftFiniteCount + oneIf left.finite.isSome
    unmatchedLeftCount := overlap.unmatchedLeftCount + oneIf (isUnmatched left right)
    rightFiniteCount := overlap.rightFiniteCount + oneIf right.finite.isSome
    unmatchedRightCount := overlap.unmatchedRightCount + oneIf (isUnmatched right left) }

def StratumAccumulator.addGroup (accumulator : StratumAccumulator)
    (left right : ResolvedObservation) : StratumAccumulator :=
  { accumulator with
    exactDuplicateCount :=
      accumulator.exactDuplicateCount + (left.duplicateCount + right.duplicateCount)
    conflictingDuplicateGroupCount := accumulator.conflictingDuplicateGroupCount +
      (oneIf left.conflict + oneIf right.conflict)
    missingSnrLeftCount := accumulator.missingSnrLeftCount + oneIf left.missingSnr
    missingSnrRightCount := accumulator.missingSnrRightCount + oneIf right.missingSnr
    unmatchedLeftCount := accumulator.unmatchedLeftCount + oneIf (isUnmatched left right)
    unmatchedRightCount := accumulator.unmatchedRightCount + oneIf (isUnmatched right left) }

def OverlapAccumulator.addRow (overlap : OverlapAccumulator) : OverlapAccumulator :=
  { overlap with pairedCount := overlap.pairedCount + 1 }

def StratumAccumulator.addRow (accumulator : StratumAccumulator) (row : PairedObservationRow) :
    StratumAccumulator :=
  { accumulator with
    pairedBlocks := insert row.blockIndex accumulator.pairedBlocks
    orders := insert (row.blockIndex, row.order) accumulator.orders
    deltas := accumulator.deltas ++ [row.deltaRightMinusLeftDb] }

structure PairingState where
  diagnostics : ComparisonDiagnostics
  overlap : List (PathKey × OverlapAccumulator)
  strata : List (StratumKey × StratumAccumulator)
  pairedRows : List PairedObservationRow

namespace PairingState

def addGroup (state : PairingState) (key : StratumKey) (remotePath : String)
    (left right : ResolvedObservation) : PairingState :=
  { state with
    diagnostics := state.diagnostics.addGroup left right
    strata := modifyEntry {} key (·.addGroup left right) state.strata
    overlap := modifyEntry {} (toLex (key, remotePath)) (·.addGroup left right) state.overlap }

def addRow (state : PairingState) (key : StratumKey) (remotePath : String)
    (row : PairedObservationRow) : PairingState :=
  { state with
    strata := modifyEntry {} key (·.addRow row) state.strata
    overlap := modifyEntry {} (toLex (key, remotePath)) (·.addRow) state.overlap
    pairedRows := state.pairedRows ++ [row] }

end PairingState

namespace ComparisonPlan

variable (plan : ComparisonPlan)

/-- One iteration of the pairing loop; nothing stands for a panic. -/
def pairingStep (state : PairingState) (group : GroupKey × PairGroup) : Option PairingState := do
  let (key, rest) := ofLex group.1
  let (blockIndex, remotePath) := ofLex rest
  let stratum ← stratumFromKey key
  let block ← plan.blocks[blockIndex]?
  let left := resolve group.2.left
  let right := resolve group.2.right
  let state := state.addGroup key remotePath left right
  match left.finite, right.finite with
  | some leftObservation, some rightObservation => do
    let row ← pairedRow plan.callsign stratum block blockIndex remotePath leftObservation
      rightObservation
    return state.addRow key remotePath row
  | _, _ => return state

def paired (state : GroupingState) : Option PairingState :=
  state.groups.foldlM plan.pairingStep ⟨state.diagnostics, [], [], []⟩

end ComparisonPlan

def OverlapAccumulator.finish (overlap : OverlapAccumulator) (stratum : ComparisonStratum)
    (remotePath : String) : PathOverlapRow where
  stratum := stratum
  remotePath := remotePath
  leftFiniteCount := overlap.leftFiniteCount
  rightFiniteCount := overlap.rightFiniteCount
  pairedCount := overlap.pairedCount
  unmatchedLeftCount := overlap.unmatchedLeftCount
  unmatchedRightCount := overlap.unmatchedRightCount
  missingSnrLeftCount := overlap.missingSnrLeftCount
  missingSnrRightCount := overlap.missingSnrRightCount
  exactDuplicateCount := overlap.exactDuplicateCount
  conflictingDuplicateGroupCount := overlap.conflictingDuplicateGroupCount

/-- One stratum of `build_strata`. -/
def StratumAccumulator.finish (accumulator : StratumAccumulator) (paths : List PairedPathSummary)
    (exclusionsByStratum : List (StratumKey × ℕ)) (key : StratumKey) :
    Option PairedStratumSummary :=
  let deltas := sortTotal accumulator.deltas
  let pathMedians := sortTotal ((paths.filter (stratumKey ·.stratum = key)).map
    (·.medianDeltaRightMinusLeftDb))
  (stratumFromKey key).map fun stratum => {
    stratum := stratum
    pairedRowCount := deltas.length
    uniquePathCount := pathMedians.length
    contributingBlockCount := accumulator.pairedBlocks.card
    leftThenRightBlockCount :=
      (accumulator.orders.filter fun entry => entry.2 = .leftThenRight).card
    rightThenLeftBlockCount :=
      (accumulator.orders.filter fun entry => entry.2 = .rightThenLeft).card
    unmatchedLeftCount := accumulator.unmatchedLeftCount
    unmatchedRightCount := accumulator.unmatchedRightCount
    missingSnrLeftCount := accumulator.missingSnrLeftCount
    missingSnrRightCount := accumulator.missingSnrRightCount
    excludedObservationCount := (entryOf key exclusionsByStratum).getD 0
    exactDuplicateCount := accumulator.exactDuplicateCount
    conflictingDuplicateGroupCount := accumulator.conflictingDuplicateGroupCount
    minimumDeltaRightMinusLeftDb := deltas.head?
    medianPathDeltaRightMinusLeftDb := if pathMedians.isEmpty then none else median pathMedians
    maximumDeltaRightMinusLeftDb := deltas.getLast? }

/-- What the loops leave of the comparison. -/
structure ComparisonTallies where
  diagnostics : ComparisonDiagnostics
  overlapRows : List PathOverlapRow
  pairedRows : List PairedObservationRow
  pathSummaries : List PairedPathSummary
  strata : List PairedStratumSummary

/-- The loops of `analyze_paired_comparison` and what follows them. -/
def ComparisonPlan.tallies (plan : ComparisonPlan) (observations : List ClassifiedObservation) :
    Option ComparisonTallies := do
  let grouped ← plan.grouped observations
  let paired ← plan.paired grouped
  let rows := sortOn pairedRowKey paired.pairedRows
  let overlap ← paired.overlap.mapM fun (pathKey, overlap) =>
    let (key, remotePath) := ofLex pathKey
    (stratumFromKey key).map fun stratum => overlap.finish stratum remotePath
  let paths ← buildPathSummaries rows
  let accumulators := (grouped.exclusionsByStratum.map (·.1)).foldl
    (fun strata key => modifyEntry {} key id strata) paired.strata
  let strata ← accumulators.mapM fun (key, accumulator) =>
    accumulator.finish paths grouped.exclusionsByStratum key
  return {
    diagnostics := { paired.diagnostics with
      pairedRowCount := rows.length
      uniquePathCount := (rows.map (·.remotePath)).dedup.length }
    overlapRows := overlap
    pairedRows := rows
    pathSummaries := paths
    strata := strata }

end AntennaBench
