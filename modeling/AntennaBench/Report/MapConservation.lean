import AntennaBench.Report.CommonOpportunity
import AntennaBench.Report.JointRows

/-!
# Conservation of the common-opportunity maps

The distance cells, the sector cells, the polar cells and the blocks count the same located
receivers, with the same outcomes; each distinct receiver is in one cell. What is not on the
map is the rest of the stratum's total.
-/

namespace AntennaBench

open Timeline

def CellAccumulator.countOf (outcome : Option ReporterActivityJointOutcome)
    (cell : CellAccumulator) : ℕ :=
  match outcome with
  | none => cell.opportunities
  | some .heardBoth => cell.both
  | some .leftOnly => cell.leftOnly
  | some .rightOnly => cell.rightOnly
  | some .heardNeither => cell.neither

def ReportCommonOpportunityCell.countOf {T : Type} (outcome : Option ReporterActivityJointOutcome)
    (cell : ReportCommonOpportunityCell T) : ℕ :=
  match outcome with
  | none => cell.receiverBlockOpportunityCount
  | some .heardBoth => cell.heardBothCount
  | some .leftOnly => cell.leftOnlyCount
  | some .rightOnly => cell.rightOnlyCount
  | some .heardNeither => cell.heardNeitherCount

def LocatedReceiver.name (located : LocatedReceiver) : String :=
  located.receiver.receiver

/-- How many of the located receivers have the outcome. -/
def countLocated (outcome : Option ReporterActivityJointOutcome)
    (located : List LocatedReceiver) : ℕ :=
  (located.map (·.receiver.counts outcome)).sum

@[simp] theorem countOf_finish {T : Type} (cell : CellAccumulator) (category : T)
    (fallback : ReporterActivityCoverage) (outcome : Option ReporterActivityJointOutcome) :
    (cell.finish category fallback).countOf outcome = cell.countOf outcome := by
  rcases outcome with _ | outcome
  · rfl
  · cases outcome <;> rfl

namespace CellAccumulator

/-- The accumulator of the items of a cell. -/
def collect (located : List LocatedReceiver) : CellAccumulator :=
  located.foldl (fun cell item => cell.add item.receiver item.coverage) {}

theorem countOf_add (cell : CellAccumulator) (receiver : ReporterActivityJointReceiver)
    (coverage : ReporterActivityCoverage) (outcome : Option ReporterActivityJointOutcome) :
    (cell.add receiver coverage).countOf outcome =
      cell.countOf outcome + receiver.counts outcome := by
  unfold add ReporterActivityJointReceiver.counts
  rcases outcome with _ | outcome
  · cases receiver.outcome <;> rfl
  · cases outcome <;> cases receiver.outcome <;> rfl

theorem receivers_add (cell : CellAccumulator) (receiver : ReporterActivityJointReceiver)
    (coverage : ReporterActivityCoverage) :
    (cell.add receiver coverage).receivers = insert receiver.receiver cell.receivers := by
  unfold add
  cases receiver.outcome <;> rfl

theorem countOf_foldl (located : List LocatedReceiver) (cell : CellAccumulator)
    (outcome : Option ReporterActivityJointOutcome) :
    (located.foldl (fun cell item => cell.add item.receiver item.coverage) cell).countOf outcome =
      cell.countOf outcome + countLocated outcome located := by
  induction located generalizing cell with
  | nil => rfl
  | cons item located ih =>
    rw [List.foldl_cons, ih, countOf_add, countLocated, countLocated, List.map_cons, List.sum_cons]
    omega

theorem receivers_foldl (located : List LocatedReceiver) (cell : CellAccumulator) :
    (located.foldl (fun cell item => cell.add item.receiver item.coverage) cell).receivers =
      cell.receivers ∪ (located.map (·.name)).toFinset := by
  induction located generalizing cell with
  | nil => simp
  | cons item located ih =>
    rw [List.foldl_cons, ih, receivers_add, List.map_cons, List.toFinset_cons]
    ext name
    simp only [Finset.mem_union, Finset.mem_insert, LocatedReceiver.name]
    tauto

@[simp] theorem countOf_collect (outcome : Option ReporterActivityJointOutcome)
    (located : List LocatedReceiver) :
    (collect located).countOf outcome = countLocated outcome located := by
  rw [collect, countOf_foldl]
  have hempty : ({} : CellAccumulator).countOf outcome = 0 := by
    rcases outcome with _ | outcome
    · rfl
    · cases outcome <;> rfl
  omega

@[simp] theorem receivers_collect (located : List LocatedReceiver) :
    (collect located).receivers = (located.map (·.name)).toFinset := by
  rw [collect, receivers_foldl]
  simp

end CellAccumulator

namespace OpportunityCells

theorem foldl_distance (located : List LocatedReceiver) (cells : OpportunityCells) :
    (located.foldl add cells).distance = located.foldl (fun distance item =>
      updateCell item.location.distance (·.add item.receiver item.coverage) distance)
        cells.distance := by
  induction located generalizing cells with
  | nil => rfl
  | cons item located ih => exact ih _

theorem foldl_azimuth (located : List LocatedReceiver) (cells : OpportunityCells) :
    (located.foldl add cells).azimuth = located.foldl (fun azimuth item =>
      updateCell item.location.azimuthIndex (·.add item.receiver item.coverage) azimuth)
        cells.azimuth := by
  induction located generalizing cells with
  | nil => rfl
  | cons item located ih => exact ih _

theorem foldl_polar (located : List LocatedReceiver) (cells : OpportunityCells) :
    (located.foldl add cells).polar = located.foldl addPolar cells.polar := by
  induction located generalizing cells with
  | nil => rfl
  | cons item located ih => exact ih _

theorem foldl_located (located : List LocatedReceiver) (cells : OpportunityCells) :
    (located.foldl add cells).locatedOpportunities =
      cells.locatedOpportunities + located.length := by
  induction located generalizing cells with
  | nil => rfl
  | cons item located ih =>
    rw [List.foldl_cons, ih, List.length_cons]
    have hadd : (cells.add item).locatedOpportunities = cells.locatedOpportunities + 1 := rfl
    omega

end OpportunityCells

theorem addPolar_collect (located : List LocatedReceiver) :
    located.foldl addPolar [] =
      (Timeline.sortedKeys (located.map (·.location.polarKey))).map fun key =>
        (key, CellAccumulator.collect (located.filter (·.location.polarKey = key))) :=
  foldl_modifyEntry_keyed ({} : CellAccumulator) (·.location.polarKey)
    (fun cell (item : LocatedReceiver) => cell.add item.receiver item.coverage) located

/-- The polar cells of the located receivers. -/
def polarCellsOf (located : List LocatedReceiver) (fallback : ReporterActivityCoverage) :
    List ReportCommonOpportunityPolarCell :=
  finishPolarCells (located.foldl addPolar []) fallback

theorem polarCellsOf_eq (located : List LocatedReceiver) (fallback : ReporterActivityCoverage) :
    polarCellsOf located fallback =
      (Timeline.sortedKeys (located.map (·.location.polarKey))).map fun key =>
        { bearingSector := ReportAzimuthSector.ofIndex (ofLex key).1
          distanceBin := ReportDistanceBin.ofIndex (ofLex key).2
          facts := (CellAccumulator.collect (located.filter (·.location.polarKey = key))).finish
            (ReportDistanceBin.ofIndex (ofLex key).2) fallback } := by
  rw [polarCellsOf, addPolar_collect, finishPolarCells, List.map_map]
  rfl

theorem mem_polarKeys {located : List LocatedReceiver} :
    ∀ item ∈ located,
      item.location.polarKey ∈ Timeline.sortedKeys (located.map (·.location.polarKey)) :=
  fun _ hitem => mem_sortedKeys.2 (List.mem_map_of_mem hitem)

theorem polarCells_count (located : List LocatedReceiver) (fallback : ReporterActivityCoverage)
    (outcome : Option ReporterActivityJointOutcome) :
    ((polarCellsOf located fallback).map (·.facts.countOf outcome)).sum =
      countLocated outcome located := by
  rw [polarCellsOf_eq, List.map_map]
  simp only [Function.comp_def, countOf_finish, CellAccumulator.countOf_collect, countLocated]
  exact sum_classes (sortedKeys_nodup _) mem_polarKeys _

/-- The polar cells of a category add up to the cell of the category. -/
theorem polarCells_marginal {ι : Type} [DecidableEq ι] (located : List LocatedReceiver)
    (fallback : ReporterActivityCoverage) (outcome : Option ReporterActivityJointOutcome)
    (coarse : PolarKey → ι) (c : ι) (p : ReportCommonOpportunityPolarCell → Bool)
    (hp : ∀ key facts, p ⟨ReportAzimuthSector.ofIndex (ofLex key).1,
      ReportDistanceBin.ofIndex (ofLex key).2, facts⟩ = decide (coarse key = c)) :
    (((polarCellsOf located fallback).filter p).map (·.facts.countOf outcome)).sum =
      countLocated outcome (located.filter fun item => coarse item.location.polarKey = c) := by
  rw [polarCellsOf_eq, List.filter_map, List.map_map]
  simp only [Function.comp_def, hp, countOf_finish, CellAccumulator.countOf_collect, countLocated]
  exact sum_subclasses (sortedKeys_nodup _) mem_polarKeys coarse c _

theorem polarCells_receivers {located : List LocatedReceiver}
    (hsame : ∀ a ∈ located, ∀ b ∈ located, a.name = b.name → a.location = b.location)
    (fallback : ReporterActivityCoverage) :
    ((polarCellsOf located fallback).map (·.facts.uniqueCommonActiveReceiverCount)).sum =
      (located.map (·.name)).toFinset.card := by
  have hcell : ∀ key, ((CellAccumulator.collect (located.filter
      (·.location.polarKey = key))).finish (ReportDistanceBin.ofIndex (ofLex key).2)
        fallback).uniqueCommonActiveReceiverCount =
      ((located.filter (·.location.polarKey = key)).map (·.name)).toFinset.card := by
    intro key
    rw [← CellAccumulator.receivers_collect]
    rfl
  rw [polarCellsOf_eq, List.map_map]
  simp only [Function.comp_def, hcell]
  apply sum_card_classes (sortedKeys_nodup _) mem_polarKeys
  intro a ha b hb hname
  rw [hsame a ha b hb hname]

/-- The cell of a category, from the located receivers in it. -/
def categoryCell {T κ : Type} [DecidableEq κ] (located : List LocatedReceiver)
    (key : LocatedReceiver → κ) (keyOf : T → κ) (fallback : ReporterActivityCoverage)
    (category : T) : ReportCommonOpportunityCell T :=
  (CellAccumulator.collect (located.filter (key · = keyOf category))).finish category fallback

section

variable {T κ : Type} [DecidableEq κ] {located : List LocatedReceiver} {key : LocatedReceiver → κ}
  {keyOf : T → κ} {fallback : ReporterActivityCoverage} {categories : List T}

theorem categoryCells_count (hnodup : (categories.map keyOf).Nodup)
    (hmem : ∀ item ∈ located, key item ∈ categories.map keyOf)
    (outcome : Option ReporterActivityJointOutcome) :
    ((categories.map (categoryCell located key keyOf fallback)).map (·.countOf outcome)).sum =
      countLocated outcome located := by
  have hsum := sum_classes hnodup hmem fun item => item.receiver.counts outcome
  rw [List.map_map] at hsum
  rw [countLocated, ← hsum, List.map_map]
  simp only [Function.comp_def, categoryCell, countOf_finish, CellAccumulator.countOf_collect,
    countLocated]

theorem categoryCells_receivers (hnodup : (categories.map keyOf).Nodup)
    (hmem : ∀ item ∈ located, key item ∈ categories.map keyOf)
    (hsame : ∀ a ∈ located, ∀ b ∈ located, a.name = b.name → key a = key b) :
    ((categories.map (categoryCell located key keyOf fallback)).map
      (·.uniqueCommonActiveReceiverCount)).sum = (located.map (·.name)).toFinset.card := by
  have hcell : ∀ category, (categoryCell located key keyOf fallback
      category).uniqueCommonActiveReceiverCount =
        ((located.filter (key · = keyOf category)).map (·.name)).toFinset.card := by
    intro category
    rw [← CellAccumulator.receivers_collect]
    rfl
  have hsum := sum_card_classes hnodup hmem hsame
  rw [List.map_map] at hsum
  rw [← hsum, List.map_map]
  simp only [Function.comp_def, hcell]

end

theorem distance_all_nodup : (ReportDistanceBin.all.map id).Nodup := by
  decide

theorem azimuth_all_nodup : (ReportAzimuthSector.all.map ReportAzimuthSector.index).Nodup := by
  decide

theorem mem_azimuth_all (i : Fin 8) : i ∈ ReportAzimuthSector.all.map ReportAzimuthSector.index :=
  List.mem_map.2 ⟨ReportAzimuthSector.ofIndex i, ReportAzimuthSector.mem_all _,
    ReportAzimuthSector.index_ofIndex i⟩

section

variable {greatCircle : GreatCircle} {station : Option GeographicCoordinates}
  {rows : List ReporterActivityPairedRate}

/-- The locators the rows give, by receiver. -/
def receiverGridEntries (rows : List ReporterActivityPairedRate) :
    List (String × Option String) :=
  rows.flatMap fun row => row.receivers.map fun receiver =>
    (receiver.receiver, receiver.receiverGrid)

theorem lookup_resolvedLocations (name : String) :
    (resolvedLocations greatCircle station rows).lookup name =
      if name ∈ (receiverGridEntries rows).map (·.1) then
        some (resolveLocation greatCircle station (pushed name (receiverGridEntries rows)))
      else none :=
  lookup_groups_map (receiverGridEntries rows) (resolveLocation greatCircle station) name

theorem mem_resolvedLocations {name : String} {location : Option ResolvedLocation} :
    (name, location) ∈ resolvedLocations greatCircle station rows ↔
      (resolvedLocations greatCircle station rows).lookup name = some location := by
  rw [lookup_resolvedLocations]
  constructor
  · intro hmem
    obtain ⟨⟨key, grids⟩, hgroup, heq⟩ := List.mem_map.1 hmem
    obtain ⟨hkey, rfl⟩ := mem_groups.1 hgroup
    obtain ⟨rfl, rfl⟩ := Prod.mk.inj heq
    exact if_pos hkey
  · intro hlookup
    split_ifs at hlookup with hkey
    obtain rfl := Option.some.inj hlookup
    exact List.mem_map.2 ⟨_, mem_groups.2 ⟨hkey, rfl⟩, rfl⟩

theorem resolvedLocations_nodup :
    ((resolvedLocations greatCircle station rows).map (·.1)).Nodup := by
  have hkeys : (resolvedLocations greatCircle station rows).map (·.1) =
      Timeline.sortedKeys ((receiverGridEntries rows).map (·.1)) :=
    groups_map_keys (receiverGridEntries rows) (resolveLocation greatCircle station)
  rw [hkeys]
  exact sortedKeys_nodup _

theorem mem_locatedReceivers {locations : List (String × Option ResolvedLocation)}
    {row : ReporterActivityPairedRate} {item : LocatedReceiver} :
    item ∈ locatedReceivers locations row ↔ item.receiver ∈ row.receivers ∧
      locations.lookup item.name = some (some item.location) ∧ item.coverage = row.coverage := by
  obtain ⟨location, receiver, coverage⟩ := item
  rw [locatedReceivers, List.mem_filterMap]
  constructor
  · rintro ⟨receiver, hreceiver, hitem⟩
    obtain ⟨location, hlocation, heq⟩ := Option.map_eq_some_iff.1 hitem
    obtain ⟨rfl, rfl, rfl⟩ := LocatedReceiver.mk.inj heq
    exact ⟨hreceiver, Option.join_eq_some_iff.1 hlocation, rfl⟩
  · rintro ⟨hreceiver, hlookup, rfl⟩
    exact ⟨receiver, hreceiver, Option.map_eq_some_iff.2
      ⟨location, Option.join_eq_some_iff.2 hlookup, rfl⟩⟩

/-- The receivers of the rows that are on the map. -/
def locatedRows (greatCircle : GreatCircle) (station : Option GeographicCoordinates)
    (rows : List ReporterActivityPairedRate) : List LocatedReceiver :=
  rows.flatMap (locatedReceivers (resolvedLocations greatCircle station rows))

/-- A receiver has one location in all rows. -/
theorem locatedRows_same : ∀ a ∈ locatedRows greatCircle station rows,
    ∀ b ∈ locatedRows greatCircle station rows, a.name = b.name → a.location = b.location := by
  intro a ha b hb hname
  obtain ⟨_, -, hrow⟩ := List.mem_flatMap.1 ha
  obtain ⟨_, -, hrow'⟩ := List.mem_flatMap.1 hb
  obtain ⟨-, hlookup, -⟩ := mem_locatedReceivers.1 hrow
  obtain ⟨-, hlookup', -⟩ := mem_locatedReceivers.1 hrow'
  rw [hname, hlookup'] at hlookup
  exact (Option.some.inj (Option.some.inj hlookup)).symm

/-- The locations that are there are those of the located receivers. -/
theorem countP_resolvedLocations :
    (resolvedLocations greatCircle station rows).countP (·.2.isSome) =
      ((locatedRows greatCircle station rows).map (·.name)).toFinset.card := by
  have hnodup : (((resolvedLocations greatCircle station rows).filter (·.2.isSome)).map
      (·.1)).Nodup :=
    resolvedLocations_nodup.sublist (List.filter_sublist.map _)
  rw [List.countP_eq_length_filter, ← List.length_map (·.1),
    ← List.toFinset_card_of_nodup hnodup]
  congr 1
  ext name
  simp only [List.mem_toFinset, List.mem_map, List.mem_filter]
  constructor
  · rintro ⟨⟨key, location⟩, ⟨hmem, hsome⟩, rfl⟩
    obtain ⟨place, rfl⟩ := Option.isSome_iff_exists.1 hsome
    have hlookup := mem_resolvedLocations.1 hmem
    have hkey : key ∈ (receiverGridEntries rows).map (·.1) := by
      rw [lookup_resolvedLocations] at hlookup
      by_contra hnot
      rw [if_neg hnot] at hlookup
      cases hlookup
    obtain ⟨entry, hentry, rfl⟩ := List.mem_map.1 hkey
    obtain ⟨row, hrow, hreceivers⟩ := List.mem_flatMap.1 hentry
    obtain ⟨receiver, hreceiver, rfl⟩ := List.mem_map.1 hreceivers
    refine ⟨⟨place, receiver, row.coverage⟩, List.mem_flatMap.2 ⟨row, hrow, ?_⟩, rfl⟩
    exact mem_locatedReceivers.2 ⟨hreceiver, hlookup, rfl⟩
  · rintro ⟨item, hitem, rfl⟩
    obtain ⟨row, -, hrow⟩ := List.mem_flatMap.1 hitem
    obtain ⟨-, hlookup, -⟩ := mem_locatedReceivers.1 hrow
    exact ⟨(item.name, some item.location), ⟨mem_resolvedLocations.2 hlookup, rfl⟩, rfl⟩

end

/-- The receivers of a stratum that are on the map. -/
def ReporterActivityAnalysis.located (activity : ReporterActivityAnalysis)
    (greatCircle : GreatCircle) (stationGrid : String) (stratum : ComparisonStratum) :
    List LocatedReceiver :=
  locatedRows greatCircle (stationCoordinatesFromGrid stationGrid) (activity.stratumRows stratum)

/-- How many of the located receivers heard the antenna of a side. -/
def heardLocated (side : ComparisonSide) (located : List LocatedReceiver) : ℕ :=
  countLocated (some .heardBoth) located +
    countLocated (some (match side with | .left => .leftOnly | .right => .rightOnly)) located

def ReportCommonOpportunityCell.heardOf {T : Type} (side : ComparisonSide)
    (cell : ReportCommonOpportunityCell T) : ℕ :=
  match side with
  | .left => cell.leftHeardCount
  | .right => cell.rightHeardCount

/-- The opportunities of a cell are told apart by outcome, and those an antenna was heard in
are those of both and of its side alone. -/
structure ReportCommonOpportunityCell.Balanced {T : Type} (cell : ReportCommonOpportunityCell T) :
    Prop where
  outcomes : cell.heardBothCount + cell.leftOnlyCount + cell.rightOnlyCount +
    cell.heardNeitherCount = cell.receiverBlockOpportunityCount
  left : cell.leftHeardCount = cell.heardBothCount + cell.leftOnlyCount
  right : cell.rightHeardCount = cell.heardBothCount + cell.rightOnlyCount
  heard : ∀ side, cell.heardOf side ≤ cell.receiverBlockOpportunityCount

/-- The cells count the located receivers, by outcome and by antenna, each cell balanced. -/
structure CellsConserve {κ T : Type} (cells : List κ) (facts : κ → ReportCommonOpportunityCell T)
    (located : List LocatedReceiver) : Prop where
  counts : ∀ outcome,
    (cells.map fun cell => (facts cell).countOf outcome).sum = countLocated outcome located
  balanced : ∀ cell ∈ cells, (facts cell).Balanced
  heard : ∀ side, (cells.map fun cell => (facts cell).heardOf side).sum = heardLocated side located

/-- The totals of the group are those of the rows of its stratum, the cells of every axis and of
the blocks count what is located of them, and the rest is said to be unavailable. -/
structure ReportCommonOpportunityMapGroup.Conserves (group : ReportCommonOpportunityMapGroup)
    (rows : List ReporterActivityPairedRate) (located : List LocatedReceiver) : Prop where
  total : group.receiverBlockOpportunityCount = (rows.flatMap (·.receivers)).length
  totalReceivers : group.uniqueCommonActiveReceiverCount =
    (rows.flatMap fun row => row.receivers.map (·.receiver)).toFinset.card
  opportunities : group.locatedReceiverBlockOpportunityCount = located.length
  outcomes : countLocated (some .heardBoth) located + countLocated (some .leftOnly) located +
    countLocated (some .rightOnly) located + countLocated (some .heardNeither) located =
      located.length
  distance : CellsConserve group.distanceCells id located
  azimuth : CellsConserve group.azimuthCells id located
  polar : CellsConserve group.polarCells (·.facts) located
  blocks : CellsConserve (group.blocks.flatMap (·.polarCells)) (·.facts) located
  distanceMarginal : ∀ cell ∈ group.distanceCells, ∀ outcome,
    ((group.polarCells.filter (·.distanceBin = cell.category)).map
      (·.facts.countOf outcome)).sum = cell.countOf outcome
  azimuthMarginal : ∀ cell ∈ group.azimuthCells, ∀ outcome,
    ((group.polarCells.filter (·.bearingSector = cell.category)).map
      (·.facts.countOf outcome)).sum = cell.countOf outcome
  receivers : group.locatedUniqueReceiverCount = (located.map (·.name)).toFinset.card
  distanceReceivers : (group.distanceCells.map (·.uniqueCommonActiveReceiverCount)).sum =
    group.locatedUniqueReceiverCount
  azimuthReceivers : (group.azimuthCells.map (·.uniqueCommonActiveReceiverCount)).sum =
    group.locatedUniqueReceiverCount
  polarReceivers : (group.polarCells.map (·.facts.uniqueCommonActiveReceiverCount)).sum =
    group.locatedUniqueReceiverCount
  rest : group.locatedReceiverBlockOpportunityCount +
    group.locationUnavailableReceiverBlockOpportunityCount = group.receiverBlockOpportunityCount
  receiversRest : group.locatedUniqueReceiverCount +
    group.locationUnavailableUniqueReceiverCount = group.uniqueCommonActiveReceiverCount
  blocksRest : ∀ block ∈ group.blocks, block.locatedReceiverCount +
    block.locationUnavailableReceiverCount = block.commonActiveReceiverCount

theorem countLocated_cons (outcome : Option ReporterActivityJointOutcome) (item : LocatedReceiver)
    (located : List LocatedReceiver) : countLocated outcome (item :: located) =
      item.receiver.counts outcome + countLocated outcome located := by
  rw [countLocated, List.map_cons, List.sum_cons]
  rfl

/-- The four outcomes are a partition of the located receivers. -/
theorem countLocated_outcomes (located : List LocatedReceiver) :
    countLocated (some .heardBoth) located + countLocated (some .leftOnly) located +
      countLocated (some .rightOnly) located + countLocated (some .heardNeither) located =
        located.length := by
  induction located with
  | nil => rfl
  | cons item located ih =>
    have hone := counts_outcomes item.receiver
    simp only [countLocated_cons, List.length_cons]
    omega

theorem countLocated_none (located : List LocatedReceiver) :
    countLocated none located = located.length := by
  simp [countLocated, ReporterActivityJointReceiver.counts]

/-- A finished cell is balanced, whatever located receivers it collects. -/
theorem collect_balanced {T : Type} (located : List LocatedReceiver) (category : T)
    (fallback : ReporterActivityCoverage) :
    ((CellAccumulator.collect located).finish category fallback).Balanced := by
  have hcount (outcome : Option ReporterActivityJointOutcome) :
      ((CellAccumulator.collect located).finish category fallback).countOf outcome =
        countLocated outcome located := by
    rw [countOf_finish, CellAccumulator.countOf_collect]
  have houtcomes := countLocated_outcomes located
  rw [← countLocated_none] at houtcomes
  simp only [← hcount] at houtcomes
  generalize hcell : (CellAccumulator.collect located).finish category fallback = cell
    at houtcomes ⊢
  have hleft : cell.leftHeardCount = cell.heardBothCount + cell.leftOnlyCount := by
    rw [← hcell]
    rfl
  have hright : cell.rightHeardCount = cell.heardBothCount + cell.rightOnlyCount := by
    rw [← hcell]
    rfl
  simp only [ReportCommonOpportunityCell.countOf] at houtcomes
  refine ⟨houtcomes, hleft, hright, fun side => ?_⟩
  cases side <;> simp only [ReportCommonOpportunityCell.heardOf] <;> omega

theorem polarCellsOf_balanced {located : List LocatedReceiver}
    {fallback : ReporterActivityCoverage} {cell : ReportCommonOpportunityPolarCell}
    (h : cell ∈ polarCellsOf located fallback) : cell.facts.Balanced := by
  rw [polarCellsOf_eq] at h
  obtain ⟨key, -, rfl⟩ := List.mem_map.1 h
  exact collect_balanced _ _ _

/-- Balanced cells that count the located receivers count those each antenna was heard by. -/
theorem cellsConserve_of_counts {κ T : Type} {cells : List κ}
    {facts : κ → ReportCommonOpportunityCell T} {located : List LocatedReceiver}
    (hcount : ∀ outcome, (cells.map fun cell => (facts cell).countOf outcome).sum =
      countLocated outcome located)
    (hbalanced : ∀ cell ∈ cells, (facts cell).Balanced) : CellsConserve cells facts located := by
  refine ⟨hcount, hbalanced, fun side => ?_⟩
  have hsum (f g : κ → ℕ) :
      (cells.map fun cell => f cell + g cell).sum = (cells.map f).sum + (cells.map g).sum :=
    List.sum_map_add
  cases side with
  | left =>
    simp only [heardLocated, ← hcount, ← hsum]
    exact congrArg List.sum (List.map_congr_left fun cell hcell => (hbalanced cell hcell).left)
  | right =>
    simp only [heardLocated, ← hcount, ← hsum]
    exact congrArg List.sum (List.map_congr_left fun cell hcell => (hbalanced cell hcell).right)

theorem polarCells_conserve (located : List LocatedReceiver) (fallback : ReporterActivityCoverage) :
    CellsConserve (polarCellsOf located fallback) (·.facts) located :=
  cellsConserve_of_counts (polarCells_count located fallback) fun _ => polarCellsOf_balanced

theorem categoryCells_conserve {T κ : Type} [DecidableEq κ] {located : List LocatedReceiver}
    {key : LocatedReceiver → κ} {keyOf : T → κ} {fallback : ReporterActivityCoverage}
    {categories : List T} (hnodup : (categories.map keyOf).Nodup)
    (hmem : ∀ item ∈ located, key item ∈ categories.map keyOf) :
    CellsConserve (categories.map (categoryCell located key keyOf fallback)) id located := by
  apply cellsConserve_of_counts
  · exact categoryCells_count hnodup hmem
  · intro cell hcell
    obtain ⟨category, -, rfl⟩ := List.mem_map.1 hcell
    exact collect_balanced _ _ _

theorem locatedReceivers_length (locations : List (String × Option ResolvedLocation))
    (row : ReporterActivityPairedRate) :
    (locatedReceivers locations row).length ≤ row.receivers.length :=
  List.length_filterMap_le _ _

theorem locatedRows_length (greatCircle : GreatCircle) (station : Option GeographicCoordinates)
    (rows : List ReporterActivityPairedRate) :
    (locatedRows greatCircle station rows).length ≤ (rows.flatMap (·.receivers)).length := by
  rw [locatedRows, List.length_flatMap, List.length_flatMap]
  apply List.sum_le_sum
  intro row _
  exact locatedReceivers_length _ row

theorem locatedRows_names (greatCircle : GreatCircle) (station : Option GeographicCoordinates)
    (rows : List ReporterActivityPairedRate) :
    ((locatedRows greatCircle station rows).map (·.name)).toFinset ⊆
      (rows.flatMap fun row => row.receivers.map (·.receiver)).toFinset := by
  intro name hname
  rw [List.mem_toFinset] at hname ⊢
  obtain ⟨item, hitem, rfl⟩ := List.mem_map.1 hname
  obtain ⟨row, hrow, hmem⟩ := List.mem_flatMap.1 hitem
  obtain ⟨hreceiver, -, -⟩ := mem_locatedReceivers.1 hmem
  exact List.mem_flatMap.2 ⟨row, hrow, List.mem_map_of_mem hreceiver⟩

/-- The polar cells of the blocks count the located receivers, each in its own block. -/
theorem blocks_conserve (locations : List (String × Option ResolvedLocation))
    (rows : List ReporterActivityPairedRate) :
    CellsConserve ((rows.map (opportunityBlock locations)).flatMap (·.polarCells)) (·.facts)
      (rows.flatMap (locatedReceivers locations)) := by
  apply cellsConserve_of_counts
  · intro outcome
    rw [List.flatMap_map, sum_flatMap, countLocated, sum_flatMap]
    apply congrArg
    apply List.map_congr_left
    intro row _
    exact polarCells_count _ row.coverage outcome
  · intro cell hcell
    obtain ⟨block, hblock, hcell⟩ := List.mem_flatMap.1 hcell
    obtain ⟨row, -, rfl⟩ := List.mem_map.1 hblock
    exact polarCellsOf_balanced hcell

section

variable {greatCircle : GreatCircle} {station : Option GeographicCoordinates}
  {activity : ReporterActivityAnalysis} {summary : ReporterActivityJointSummary}

/-- The cells of the group are those of the located receivers. -/
theorem opportunityMapGroup_cells (rows : List ReporterActivityPairedRate)
    (hrows : rows = activity.stratumRows summary.stratum) :
    let group := opportunityMapGroup greatCircle station activity summary
    let located := locatedRows greatCircle station rows
    group.locatedReceiverBlockOpportunityCount = located.length ∧
      group.distanceCells = ReportDistanceBin.all.map
        (categoryCell located (·.location.distance) id summary.coverage) ∧
      group.azimuthCells = ReportAzimuthSector.all.map
        (categoryCell located (·.location.azimuthIndex) ReportAzimuthSector.index
          summary.coverage) ∧
      group.polarCells = polarCellsOf located summary.coverage := by
  subst hrows
  have hloop : (activity.stratumRows summary.stratum).foldl (fun cells row =>
      (locatedReceivers (resolvedLocations greatCircle station
        (activity.stratumRows summary.stratum)) row).foldl OpportunityCells.add cells) {} =
      (locatedRows greatCircle station (activity.stratumRows summary.stratum)).foldl
        OpportunityCells.add {} := by
    rw [locatedRows, List.foldl_flatMap]
  dsimp only [opportunityMapGroup]
  rw [hloop]
  generalize locatedRows greatCircle station (activity.stratumRows summary.stratum) = located
  refine ⟨?_, ?_, ?_, ?_⟩
  · rw [OpportunityCells.foldl_located, Nat.zero_add]
  · apply List.map_congr_left
    intro category _
    rw [OpportunityCells.foldl_distance, foldl_updateCell]
    rfl
  · apply List.map_congr_left
    intro category _
    rw [OpportunityCells.foldl_azimuth, foldl_updateCell]
    rfl
  · rw [OpportunityCells.foldl_polar]
    rfl

/-- A distance cell is the sum of the polar cells of its distance. -/
theorem distance_marginal {located : List LocatedReceiver} {fallback : ReporterActivityCoverage}
    (category : ReportDistanceBin) (outcome : Option ReporterActivityJointOutcome) :
    (((polarCellsOf located fallback).filter (·.distanceBin = category)).map
        (·.facts.countOf outcome)).sum =
      (categoryCell located (·.location.distance) id fallback category).countOf outcome := by
  rw [polarCells_marginal located fallback outcome
    (fun key => ReportDistanceBin.ofIndex (ofLex key).2) category _ fun key facts => rfl]
  simp [categoryCell, ResolvedLocation.polarKey]

/-- A sector cell is the sum of the polar cells of its sector. -/
theorem azimuth_marginal {located : List LocatedReceiver} {fallback : ReporterActivityCoverage}
    (category : ReportAzimuthSector) (outcome : Option ReporterActivityJointOutcome) :
    (((polarCellsOf located fallback).filter (·.bearingSector = category)).map
        (·.facts.countOf outcome)).sum =
      (categoryCell located (·.location.azimuthIndex) ReportAzimuthSector.index fallback
        category).countOf outcome := by
  have hindex : ∀ i, decide (ReportAzimuthSector.ofIndex i = category) =
      decide (i = category.index) := by
    intro i
    rw [decide_eq_decide]
    constructor
    · intro h
      rw [← h, ReportAzimuthSector.index_ofIndex]
    · intro h
      rw [h, ReportAzimuthSector.ofIndex_index]
  rw [polarCells_marginal located fallback outcome (fun key => (ofLex key).1) category.index _
    fun key facts => hindex (ofLex key).1, categoryCell, countOf_finish,
    CellAccumulator.countOf_collect]
  rfl

theorem mem_distances {located : List LocatedReceiver} : ∀ item ∈ located,
    item.location.distance ∈ ReportDistanceBin.all.map id :=
  fun _ _ => List.mem_map.2 ⟨_, ReportDistanceBin.mem_all _, rfl⟩

theorem mem_azimuths {located : List LocatedReceiver} : ∀ item ∈ located,
    item.location.azimuthIndex ∈ ReportAzimuthSector.all.map ReportAzimuthSector.index :=
  fun _ _ => mem_azimuth_all _

/-- The totals of the group, from the rows of the stratum. -/
theorem opportunityMapGroup_totals (hactivity : activity.Summarized)
    (hsummary : summary ∈ activity.jointSummaries) :
    let group := opportunityMapGroup greatCircle station activity summary
    let rows := activity.stratumRows summary.stratum
    group.receiverBlockOpportunityCount = (rows.flatMap (·.receivers)).length ∧
      group.uniqueCommonActiveReceiverCount =
        (rows.flatMap fun row => row.receivers.map (·.receiver)).toFinset.card := by
  have htotals := hactivity.totals hsummary
  have hperm : (activity.stratumRows summary.stratum).Perm
      (activity.pairedRates.filter (·.stratum = summary.stratum)) := sortOn_perm _ _
  constructor
  · rw [(hperm.flatMap_right _).length_eq, ← htotals.opportunities]
    rfl
  · rw [List.toFinset_eq_of_perm _ _ (hperm.flatMap_right _), ← htotals.unique]
    rfl

/-- What is located never exceeds the totals, so the rest is what is left of them. -/
theorem opportunityMapGroup_rest (hactivity : activity.Summarized)
    (hsummary : summary ∈ activity.jointSummaries) :
    let group := opportunityMapGroup greatCircle station activity summary
    group.locatedReceiverBlockOpportunityCount +
        group.locationUnavailableReceiverBlockOpportunityCount =
          group.receiverBlockOpportunityCount ∧
      group.locatedUniqueReceiverCount + group.locationUnavailableUniqueReceiverCount =
        group.uniqueCommonActiveReceiverCount ∧
      ∀ block ∈ group.blocks, block.locatedReceiverCount +
        block.locationUnavailableReceiverCount = block.commonActiveReceiverCount := by
  obtain ⟨hopportunities, -⟩ :=
    @opportunityMapGroup_cells greatCircle station activity summary _ rfl
  obtain ⟨htotal, hreceivers⟩ :=
    @opportunityMapGroup_totals greatCircle station activity summary hactivity hsummary
  have hunique : (opportunityMapGroup greatCircle station activity
      summary).locatedUniqueReceiverCount = _ := countP_resolvedLocations
  refine ⟨Nat.add_sub_cancel' ?_, Nat.add_sub_cancel' ?_, fun block hblock => ?_⟩
  · have hlength := locatedRows_length greatCircle station (activity.stratumRows summary.stratum)
    rwa [← htotal, ← hopportunities] at hlength
  · have hnames := Finset.card_le_card
      (locatedRows_names greatCircle station (activity.stratumRows summary.stratum))
    rwa [← hreceivers, ← hunique] at hnames
  · obtain ⟨row, hrow, rfl⟩ := List.mem_map.1 hblock
    have hle := locatedReceivers_length (resolvedLocations greatCircle station
      (activity.stratumRows summary.stratum)) row
    have hmem := List.mem_of_mem_filter ((sortOn_perm _ _).mem_iff.1 hrow)
    rw [← (hactivity.rows row hmem).active] at hle
    exact Nat.add_sub_cancel' hle

theorem opportunityMapGroup_conserves (hactivity : activity.Summarized)
    (hsummary : summary ∈ activity.jointSummaries) :
    (opportunityMapGroup greatCircle station activity summary).Conserves
      (activity.stratumRows summary.stratum)
      (locatedRows greatCircle station (activity.stratumRows summary.stratum)) := by
  obtain ⟨hopportunities, hdistance, hazimuth, hpolar⟩ :=
    @opportunityMapGroup_cells greatCircle station activity summary _ rfl
  obtain ⟨htotal, htotalReceivers⟩ :=
    @opportunityMapGroup_totals greatCircle station activity summary hactivity hsummary
  obtain ⟨hrest, hreceiversRest, hblocksRest⟩ :=
    @opportunityMapGroup_rest greatCircle station activity summary hactivity hsummary
  have hblocks := blocks_conserve (resolvedLocations greatCircle station
    (activity.stratumRows summary.stratum)) (activity.stratumRows summary.stratum)
  have hsame := @locatedRows_same greatCircle station (activity.stratumRows summary.stratum)
  have hreceivers : (opportunityMapGroup greatCircle station activity
      summary).locatedUniqueReceiverCount = _ := countP_resolvedLocations
  constructor
  · exact htotal
  · exact htotalReceivers
  · exact hopportunities
  · exact countLocated_outcomes _
  · rw [hdistance]
    exact categoryCells_conserve distance_all_nodup mem_distances
  · rw [hazimuth]
    exact categoryCells_conserve azimuth_all_nodup mem_azimuths
  · rw [hpolar]
    exact polarCells_conserve _ _
  · exact hblocks
  · intro cell hcell outcome
    rw [hdistance] at hcell
    obtain ⟨category, -, rfl⟩ := List.mem_map.1 hcell
    rw [hpolar]
    exact distance_marginal category outcome
  · intro cell hcell outcome
    rw [hazimuth] at hcell
    obtain ⟨category, -, rfl⟩ := List.mem_map.1 hcell
    rw [hpolar]
    exact azimuth_marginal category outcome
  · exact hreceivers
  · rw [hreceivers, hdistance]
    exact categoryCells_receivers distance_all_nodup mem_distances
      fun a ha b hb hname => congrArg ResolvedLocation.distance (hsame a ha b hb hname)
  · rw [hreceivers, hazimuth]
    exact categoryCells_receivers azimuth_all_nodup mem_azimuths
      fun a ha b hb hname => congrArg ResolvedLocation.azimuthIndex (hsame a ha b hb hname)
  · rw [hreceivers, hpolar]
    exact polarCells_receivers hsame _
  · exact hrest
  · exact hreceiversRest
  · exact hblocksRest

end

/-- Every map group of an analysis conserves the receivers of its stratum. -/
theorem commonOpportunityMaps_conserve {env : CensusEnv} {inputs : ActivityInputs}
    {records : List AdapterRecordV2} {activity : ReporterActivityAnalysis}
    (h : analyzeReporterActivity env inputs records = .ok activity) (greatCircle : GreatCircle)
    (stationGrid : String) :
    ∀ group ∈ buildCommonOpportunityMaps greatCircle stationGrid activity,
      group.Conserves (activity.stratumRows group.stratum)
        (activity.located greatCircle stationGrid group.stratum) := by
  intro group hgroup
  obtain ⟨summary, hsummary, rfl⟩ := List.mem_map.1 hgroup
  exact opportunityMapGroup_conserves (analyze_summarized h) hsummary

namespace Scenario

/-- Every place is 800 km to the east. -/
def eastward : GreatCircle :=
  fun _ _ => some ⟨.finite 800, .finite 90⟩

theorem censusRecords_onMap :
    ((analyzeReporterActivity censusEnv signalInputs censusRecords).toOption.any fun activity =>
      (buildCommonOpportunityMaps eastward "FN42" activity).map
        (·.locatedReceiverBlockOpportunityCount) == [2]) = true := by
  decide +kernel

/-- Both receivers of the census are on the one map. -/
theorem censusRecords_conserve :
    ∃ activity, analyzeReporterActivity censusEnv signalInputs censusRecords = .ok activity ∧
      (buildCommonOpportunityMaps eastward "FN42" activity).map
          (·.locatedReceiverBlockOpportunityCount) = [2] ∧
        ∀ group ∈ buildCommonOpportunityMaps eastward "FN42" activity,
          group.Conserves (activity.stratumRows group.stratum)
            (activity.located eastward "FN42" group.stratum) := by
  obtain ⟨activity, hok, hcounts⟩ := exists_ok_of_any censusRecords_onMap
  exact ⟨activity, hok, beq_iff_eq.1 hcounts, commonOpportunityMaps_conserve hok eastward "FN42"⟩

end Scenario

end AntennaBench
