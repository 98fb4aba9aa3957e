import AntennaBench.Analysis.Evidence
import AntennaBench.Core.SignalPlan

/-!
# Paired comparison

`analyze_paired_comparison`: the usable observations of the eligible blocks are grouped
by stratum, block and remote path, each side of a group is resolved to one measurement,
and the resolved groups are counted, paired and profiled.
-/

namespace AntennaBench

open Timeline

inductive PathDirection where
  | transmit
  | receive
  deriving DecidableEq

inductive ComparisonSide where
  | left
  | right
  deriving DecidableEq

structure SignalMode where
  text : String
  deriving DecidableEq

def SignalMode.normalize (value : String) : Option SignalMode :=
  let value := trim value
  if value.isEmpty || value.toList.any isControl then none else some ⟨toAsciiUppercase value⟩

structure ComparisonStratum where
  direction : PathDirection
  band : Band
  mode : SignalMode
  observationKind : ObservationKind
  source : RecordSource
  deriving DecidableEq

/-- `(u8, u8, String, u8, u8)`. -/
abbrev StratumKey := ℕ ×ₗ ℕ ×ₗ String ×ₗ ℕ ×ₗ ℕ

def stratumKey (stratum : ComparisonStratum) : StratumKey :=
  toLex (stratum.direction.ctorIdx, toLex (stratum.band.ctorIdx, toLex (stratum.mode.text,
    toLex (stratum.observationKind.ctorIdx, stratum.source.ctorIdx))))

def recordSources : List RecordSource :=
  [.operator, .wsjtxUdp, .wsjtxLog, .wsprnet, .wsprLive, .importedFile, .rigAdapter, .noaaSwpc,
    .derived]

/-- Nothing stands for the panic on a mode that is not normalized. -/
def stratumFromKey (key : StratumKey) : Option ComparisonStratum :=
  let (direction, rest) := ofLex key
  let (band, rest) := ofLex rest
  let (mode, rest) := ofLex rest
  let (kind, source) := ofLex rest
  (SignalMode.normalize mode).map fun mode => {
    direction := if direction = 0 then .transmit else .receive
    band := bands[band]?.getD .m2
    mode := mode
    observationKind := if kind = 0 then .localDecode else if kind = 1 then .publicReport
      else .importedSpot
    source := recordSources[source]?.getD .derived }

def callMatches (call : Option String) (local_ : String) : Bool :=
  call.any fun call => eqIgnoreAsciiCase (trim call) local_

def remoteCall (call : Option String) : Option String :=
  (call.map trim).filter (!·.isEmpty)

/-- The direction of the path and the remote call. -/
def pathIdentity (callsign : String) (observation : ObservationRecord) :
    Option (PathDirection × String) :=
  let local_ := trim callsign
  match callMatches observation.reporterCall local_, callMatches observation.heardCall local_ with
  | false, true =>
    (remoteCall observation.reporterCall).map fun call => (.transmit, toAsciiUppercase call)
  | true, false =>
    (remoteCall observation.heardCall).map fun call => (.receive, toAsciiUppercase call)
  | _, _ => none

def remoteGrid (callsign : String) (observation : ObservationRecord) : Option String :=
  let local_ := trim callsign
  if callMatches observation.heardCall local_ then observation.reporterGrid
  else if callMatches observation.reporterCall local_ then observation.heardGrid
  else none

/-- The stratum of an observation and its remote path. -/
def observationStratum (callsign : String) (observation : ObservationRecord) :
    Option (ComparisonStratum × String) := do
  let (direction, remotePath) ← pathIdentity callsign observation
  let mode ← observation.mode.bind SignalMode.normalize
  return (⟨direction, observation.band, mode, observation.observationKind,
    observation.recordMeta.source⟩, remotePath)

/-- The station, the two labels and the blocks the comparison works with. -/
structure ComparisonPlan where
  callsign : String
  leftLabel : String
  rightLabel : String
  blocks : List ComparisonBlock

namespace ComparisonPlan

/-- `block_by_slot`: the last block of the slot. -/
def blockOfSlot (plan : ComparisonPlan) (slotId : String) : Option ℕ :=
  ((plan.blocks.flatMap fun block =>
    block.slotIds.map (·, block.blockIndex)).reverse).lookup slotId

/-- The side and the eligible block of a usable observation. -/
def side? (plan : ComparisonPlan) (classified : ClassifiedObservation) :
    Option (ComparisonSide × ℕ) :=
  if !classified.isUsable then none
  else do
    let index ← classified.assignment.slotId.bind plan.blockOfSlot
    let block ← plan.blocks[index]?
    if block.eligibility ≠ .eligible then none
    else if classified.assignment.slotLabel = some plan.leftLabel then some (.left, index)
    else if classified.assignment.slotLabel = some plan.rightLabel then some (.right, index)
    else none

/-- `GroupKey`: the stratum, the block and the remote path. -/
abbrev GroupKey := StratumKey ×ₗ ℕ ×ₗ String

/-- The group an observation is pushed to, and the side. -/
def groupEntry (plan : ComparisonPlan) (classified : ClassifiedObservation) :
    Option (GroupKey × ComparisonSide × ObservationRecord) := do
  let (side, index) ← plan.side? classified
  let (stratum, remotePath) ← observationStratum plan.callsign classified.observation
  return (toLex (stratumKey stratum, toLex (index, remotePath)), side, classified.observation)

def groupEntries (plan : ComparisonPlan) (observations : List ClassifiedObservation) :
    List (GroupKey × ComparisonSide × ObservationRecord) :=
  observations.filterMap plan.groupEntry

/-- `exclusions_by_stratum`, one key for every excluded observation. -/
def excludedStrata (plan : ComparisonPlan) (observations : List ClassifiedObservation) :
    List StratumKey :=
  (observations.filter (!·.isUsable)).filterMap fun classified =>
    (observationStratum plan.callsign classified.observation).map (stratumKey ·.1)

end ComparisonPlan

structure ResolvedObservation where
  finite : Option ObservationRecord := none
  missingSnr : Bool := false
  duplicateCount : ℕ := 0
  conflict : Bool := false

def sameOptionBits : Option IeeeFloat → Option IeeeFloat → Bool
  | none, none => true
  | some left, some right => left.sameBits right
  | _, _ => false

def observationsAreExactDuplicates (left right : ObservationRecord) : Bool :=
  left.recordMeta.timestamp = right.recordMeta.timestamp &&
    sameOptionBits left.snrDb right.snrDb &&
    left.reporterGrid = right.reporterGrid && left.heardGrid = right.heardGrid &&
    sameOptionBits left.distanceKm right.distanceKm &&
    sameOptionBits left.azimuthDegrees right.azimuthDegrees

/-- The sort of a group by observation identity. -/
def sortById (observations : List ObservationRecord) : List ObservationRecord :=
  sortOn (·.observationId) observations

/-- `ObservationGroup::resolve`. -/
def resolve (observations : List ObservationRecord) : ResolvedObservation :=
  match sortById observations with
  | [] => {}
  | first :: rest =>
    if !rest.all (observationsAreExactDuplicates first) then { conflict := true }
    else if first.snrDb.any (·.isFinite) then
      { finite := some first, duplicateCount := rest.length }
    else { missingSnr := true, duplicateCount := rest.length }

/-- One side of a group: what it resolves to, the slot its marks go to and the observation
its path profile takes. The latter is the first one pushed where no SNR is measured. -/
structure SideOutcome where
  resolved : ResolvedObservation
  markSlot : Option String
  profile : Option ObservationRecord

def sideOutcome (observations : List ObservationRecord) : SideOutcome :=
  let leadingFirst := observations.head?
  let resolved := resolve observations
  { resolved := resolved
    markSlot := (sortById observations).head?.bind (·.slotId)
    profile :=
      if resolved.conflict then none
      else resolved.finite <|> if resolved.missingSnr then leadingFirst else none }

structure PairedObservationRow where
  stratum : ComparisonStratum
  blockIndex : ℕ
  order : ComparisonOrder
  remotePath : String
  leftObservationId : String
  rightObservationId : String
  leftSlotId : String
  rightSlotId : String
  leftTimestamp : DateTime
  rightTimestamp : DateTime
  elapsedSeconds : ℕ
  leftSnrDb : IeeeFloat
  rightSnrDb : IeeeFloat
  deltaRightMinusLeftDb : IeeeFloat
  leftRemoteGrid : Option String
  rightRemoteGrid : Option String
  leftDistanceKm : Option IeeeFloat
  rightDistanceKm : Option IeeeFloat
  leftAzimuthDegrees : Option IeeeFloat
  rightAzimuthDegrees : Option IeeeFloat

/-- Nothing stands for a failed `expect`: on the SNR, the order or a slot. -/
def pairedRow (callsign : String) (stratum : ComparisonStratum) (block : ComparisonBlock)
    (blockIndex : ℕ) (remotePath : String) (left right : ObservationRecord) :
    Option PairedObservationRow := do
  let leftSnr ← left.snrDb
  let rightSnr ← right.snrDb
  let order ← block.order
  let leftSlotId ← left.slotId
  let rightSlotId ← right.slotId
  return {
    stratum := stratum
    blockIndex := blockIndex
    order := order
    remotePath := remotePath
    leftObservationId := left.observationId
    rightObservationId := right.observationId
    leftSlotId := leftSlotId
    rightSlotId := rightSlotId
    leftTimestamp := left.recordMeta.timestamp
    rightTimestamp := right.recordMeta.timestamp
    elapsedSeconds := (numSeconds (right.recordMeta.timestamp - left.recordMeta.timestamp)).natAbs
    leftSnrDb := leftSnr
    rightSnrDb := rightSnr
    deltaRightMinusLeftDb := rightSnr.sub .f64 leftSnr
    leftRemoteGrid := remoteGrid callsign left
    rightRemoteGrid := remoteGrid callsign right
    leftDistanceKm := left.distanceKm
    rightDistanceKm := right.distanceKm
    leftAzimuthDegrees := left.azimuthDegrees
    rightAzimuthDegrees := right.azimuthDegrees }

/-- What one group comes to. -/
structure PairOutcome where
  key : StratumKey
  blockIndex : ℕ
  remotePath : String
  left : SideOutcome
  right : SideOutcome
  row : Option PairedObservationRow

def sideObservations (side : ComparisonSide)
    (members : List (ComparisonSide × ObservationRecord)) : List ObservationRecord :=
  (members.filter (·.1 = side)).map (·.2)

namespace ComparisonPlan

/-- One iteration of the pairing loop, unless it panics. -/
def pairOutcome (plan : ComparisonPlan)
    (group : GroupKey × List (ComparisonSide × ObservationRecord)) : Option PairOutcome := do
  let (key, rest) := ofLex group.1
  let (blockIndex, remotePath) := ofLex rest
  let stratum ← stratumFromKey key
  let block ← plan.blocks[blockIndex]?
  let left := sideOutcome (sideObservations .left group.2)
  let right := sideOutcome (sideObservations .right group.2)
  let row ← match left.resolved.finite, right.resolved.finite with
    | some leftObservation, some rightObservation =>
      (pairedRow plan.callsign stratum block blockIndex remotePath leftObservation
        rightObservation).map some
    | _, _ => some none
  return ⟨key, blockIndex, remotePath, left, right, row⟩

def outcomes (plan : ComparisonPlan) (observations : List ClassifiedObservation) :
    Option (List PairOutcome) :=
  (groups (plan.groupEntries observations)).mapM plan.pairOutcome

end ComparisonPlan

end AntennaBench
