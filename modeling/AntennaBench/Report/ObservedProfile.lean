import AntennaBench.Report.Geography
import AntennaBench.Report.PathPartition

/-!
# Observed profiles

`project_observed_profile`: where the observed paths of a stratum end, by distance and by
compass sector for each antenna, and by distance for both. The projection does not panic on
the profiles of a comparison, and counts each path once.
-/

namespace AntennaBench

open Timeline

structure ReportObservedProfileCell (T : Type) where
  category : T
  uniquePathCount : ℕ
  observationCount : ℕ

structure ReportObservedAntennaProfile where
  side : ComparisonSide
  antennaLabel : String
  uniquePathCount : ℕ
  locatedPathCount : ℕ
  missingLocationPathCount : ℕ
  inconsistentLocationPathCount : ℕ
  distanceBins : List (ReportObservedProfileCell ReportDistanceBin)
  azimuthSectors : List (ReportObservedProfileCell ReportAzimuthSector)

structure ReportObservedDistanceComposition where
  category : ReportDistanceBin
  leftOnlyUniquePathCount : ℕ := 0
  sharedUniquePathCount : ℕ := 0
  rightOnlyUniquePathCount : ℕ := 0

structure ReportOverviewObservedProfile where
  left : Option ReportObservedAntennaProfile
  right : Option ReportObservedAntennaProfile
  distanceComposition : List ReportObservedDistanceComposition
  compositionLocationUnavailableCount : ℕ

/-- The counts of a cell. -/
structure ProfileCount where
  uniquePaths : ℕ := 0
  observations : ℕ := 0

def ProfileCount.add (count : ProfileCount) (path : ObservedAntennaPath) : ProfileCount :=
  ⟨count.uniquePaths + 1, count.observations + path.observationCount⟩

structure ProfileCells where
  distance : ReportDistanceBin → ProfileCount := fun _ => {}
  azimuth : Fin 8 → ProfileCount := fun _ => {}

/-- One iteration of the loop over the paths; nothing stands for a failed `expect`. -/
def ProfileCells.addPath (cells : ProfileCells) (path : ObservedAntennaPath) :
    Option ProfileCells :=
  match path.location with
  | .available _ distanceKm initialBearingDegrees =>
    (ReportDistanceBin.classify distanceKm).map fun distance => {
      distance := updateCell distance (·.add path) cells.distance
      azimuth := updateCell (azimuthSectorIndex 64 initialBearingDegrees) (·.add path)
        cells.azimuth }
  | _ => some cells

def ProfileCount.cell {T : Type} (count : ProfileCount) (category : T) :
    ReportObservedProfileCell T :=
  ⟨category, count.uniquePaths, count.observations⟩

def projectObservedAntennaProfile (profile : ObservedAntennaPathProfile) :
    Option ReportObservedAntennaProfile :=
  (profile.paths.foldlM ProfileCells.addPath {}).map fun cells => {
    side := profile.side
    antennaLabel := profile.antennaLabel
    uniquePathCount := profile.uniquePathCount
    locatedPathCount := profile.locatedPathCount
    missingLocationPathCount := profile.missingLocationPathCount
    inconsistentLocationPathCount := profile.inconsistentLocationPathCount
    distanceBins := ReportDistanceBin.all.map fun category =>
      (cells.distance category).cell category
    azimuthSectors := ReportAzimuthSector.all.map fun category =>
      (cells.azimuth category.index).cell category }

def observedPathDistanceBin (path : ObservedAntennaPath) : Option ReportDistanceBin :=
  match path.location with
  | .available _ distanceKm _ => ReportDistanceBin.classify distanceKm
  | _ => none

/-- `left_paths` and `right_paths`: a later path of the same call replaces an earlier one. -/
def pathBins (profile : Option ObservedAntennaPathProfile) :
    List (String × Option ReportDistanceBin) :=
  ((profile.elim [] (·.paths)).map fun path =>
    (path.remotePath, observedPathDistanceBin path)).reverse

structure CompositionCount where
  leftOnly : ℕ := 0
  shared : ℕ := 0
  rightOnly : ℕ := 0

namespace CompositionCount

def addLeftOnly (count : CompositionCount) : CompositionCount :=
  { count with leftOnly := count.leftOnly + 1 }

def addShared (count : CompositionCount) : CompositionCount :=
  { count with shared := count.shared + 1 }

def addRightOnly (count : CompositionCount) : CompositionCount :=
  { count with rightOnly := count.rightOnly + 1 }

end CompositionCount

structure Composition where
  cells : ReportDistanceBin → CompositionCount := fun _ => {}
  unavailable : ℕ := 0

/-- One iteration of the loop over the identities. -/
def Composition.add (composition : Composition) :
    Option (Option ReportDistanceBin) → Option (Option ReportDistanceBin) → Composition
  | some (some left), none =>
    { composition with cells := updateCell left .addLeftOnly composition.cells }
  | none, some (some right) =>
    { composition with cells := updateCell right .addRightOnly composition.cells }
  | some (some left), some (some right) =>
    if left = right then
      { composition with cells := updateCell left .addShared composition.cells }
    else { composition with unavailable := composition.unavailable + 1 }
  | _, _ => { composition with unavailable := composition.unavailable + 1 }

def composePaths (left right : List (String × Option ReportDistanceBin)) : Composition :=
  (Timeline.sortedKeys (left.map (·.1) ++ right.map (·.1))).foldl (fun composition identity =>
    composition.add (left.lookup identity) (right.lookup identity)) {}

/-- `project_observed_profile`; nothing stands for a panic. -/
def projectObservedProfile (stratum : ComparisonStratum) (comparison : PairedComparisonAnalysis) :
    Option ReportOverviewObservedProfile := do
  let left := profileOn comparison stratum .left
  let right := profileOn comparison stratum .right
  let composition := composePaths (pathBins left) (pathBins right)
  let leftProfile ← left.mapM projectObservedAntennaProfile
  let rightProfile ← right.mapM projectObservedAntennaProfile
  return {
    left := leftProfile
    right := rightProfile
    distanceComposition := ReportDistanceBin.all.map fun category =>
      let count := composition.cells category
      ⟨category, count.leftOnly, count.shared, count.rightOnly⟩
    compositionLocationUnavailableCount := composition.unavailable }

/-- Where a path ends on the map, with the path. -/
def locatedPath (path : ObservedAntennaPath) :
    Option ((ReportDistanceBin × Fin 8) × ObservedAntennaPath) :=
  match path.location with
  | .available _ distanceKm initialBearingDegrees =>
    (ReportDistanceBin.classify distanceKm).map fun distance =>
      ((distance, azimuthSectorIndex 64 initialBearingDegrees), path)
  | _ => none

def ProfileCells.add (cells : ProfileCells)
    (item : (ReportDistanceBin × Fin 8) × ObservedAntennaPath) : ProfileCells where
  distance := updateCell item.1.1 (·.add item.2) cells.distance
  azimuth := updateCell item.1.2 (·.add item.2) cells.azimuth

theorem lt_zero_of_le {value : IeeeFloat} (hfinite : value.isFinite = true)
    (h : IeeeFloat.zero.le value = true) : value.lt .zero = false := by
  cases value with
  | nan => cases hfinite
  | infinite negative => cases hfinite
  | negativeZero => rfl
  | finite x =>
    have hx : 0 ≤ x := of_decide_eq_true h
    by_cases hzero : x = 0
    · subst hzero
      rfl
    · have hle : (IeeeFloat.finite x).le .zero = false :=
        decide_eq_false fun hle : x ≤ 0 => hzero (le_antisymm hle hx)
      rw [IeeeFloat.lt, hle, Bool.false_and]

theorem classify_of_valid {grid : String} {distance bearing : IeeeFloat}
    (h : (ObservedPathLocation.available grid distance bearing).Valid) :
    (ReportDistanceBin.classify distance).isSome = true := by
  apply ReportDistanceBin.classify_isSome h.1.1
  exact lt_zero_of_le h.1.1 h.1.2

theorem locatedPath_isSome {path : ObservedAntennaPath} (h : path.location.Valid) :
    (locatedPath path).isSome = path.location.isAvailable := by
  unfold locatedPath
  cases hlocation : path.location with
  | missing => rfl
  | inconsistent => rfl
  | available grid distance bearing =>
    rw [hlocation] at h
    simp [ObservedPathLocation.isAvailable, classify_of_valid h]

theorem addPath_eq {path : ObservedAntennaPath} (h : path.location.Valid) (cells : ProfileCells) :
    cells.addPath path = some ((locatedPath path).toList.foldl ProfileCells.add cells) := by
  unfold ProfileCells.addPath locatedPath
  cases hlocation : path.location with
  | missing => rfl
  | inconsistent => rfl
  | available grid distance bearing =>
    rw [hlocation] at h
    obtain ⟨bin, hbin⟩ := Option.isSome_iff_exists.1 (classify_of_valid h)
    dsimp only
    rw [hbin]
    rfl

theorem foldlM_addPath {paths : List ObservedAntennaPath}
    (h : ∀ path ∈ paths, path.location.Valid) (cells : ProfileCells) :
    paths.foldlM ProfileCells.addPath cells =
      some ((paths.filterMap locatedPath).foldl .add cells) := by
  induction paths generalizing cells with
  | nil => rfl
  | cons path paths ih =>
    rw [List.foldlM_cons, addPath_eq (h path List.mem_cons_self), Option.bind_eq_bind,
      Option.bind_some, ih fun other hother => h other (List.mem_cons_of_mem path hother)]
    cases hpath : locatedPath path with
    | none => rw [List.filterMap_cons_none hpath, Option.toList_none, List.foldl_nil]
    | some item =>
      rw [List.filterMap_cons_some hpath, Option.toList_some, List.foldl_cons, List.foldl_nil,
        List.foldl_cons]

namespace ProfileCells

theorem foldl_distance (items : List ((ReportDistanceBin × Fin 8) × ObservedAntennaPath))
    (cells : ProfileCells) : (items.foldl add cells).distance =
      items.foldl (fun distance item => updateCell item.1.1 (·.add item.2) distance)
        cells.distance := by
  induction items generalizing cells with
  | nil => rfl
  | cons item items ih => exact ih _

theorem foldl_azimuth (items : List ((ReportDistanceBin × Fin 8) × ObservedAntennaPath))
    (cells : ProfileCells) : (items.foldl add cells).azimuth =
      items.foldl (fun azimuth item => updateCell item.1.2 (·.add item.2) azimuth)
        cells.azimuth := by
  induction items generalizing cells with
  | nil => rfl
  | cons item items ih => exact ih _

end ProfileCells

/-- The cells of a loop add up to what its items weigh. -/
theorem sum_profileCells {ι : Type} [DecidableEq ι] {keys : List ι} (hkeys : keys.Nodup)
    (key : (ReportDistanceBin × Fin 8) × ObservedAntennaPath → ι) (hmem : ∀ item, key item ∈ keys)
    {count : ProfileCount → ℕ} {weight : ObservedAntennaPath → ℕ}
    (hzero : count {} = 0) (hadd : ∀ cell path, count (cell.add path) = count cell + weight path)
    (items : List ((ReportDistanceBin × Fin 8) × ObservedAntennaPath)) :
    (keys.map fun k => count (items.foldl (fun cells item =>
      updateCell (key item) (·.add item.2) cells) (fun _ => {}) k)).sum =
        (items.map fun item => weight item.2).sum := by
  have hcell : ∀ k, count (items.foldl (fun cells item =>
      updateCell (key item) (·.add item.2) cells) (fun _ => {}) k) =
        ((items.filter (key · = k)).map fun item => weight item.2).sum := by
    intro k
    have hcount := foldl_count (fun cell (item : (ReportDistanceBin × Fin 8) ×
      ObservedAntennaPath) => hadd cell item.2) (items.filter (key · = k)) {}
    rw [foldl_updateCell key fun (cell : ProfileCount) (item : (ReportDistanceBin × Fin 8) ×
      ObservedAntennaPath) => cell.add item.2, hcount, hzero, Nat.zero_add]
  simp only [hcell]
  exact sum_classes hkeys (fun item _ => hmem item) _

section

variable {count : ProfileCount → ℕ} {weight : ObservedAntennaPath → ℕ}

theorem sum_distanceCells (hzero : count {} = 0)
    (hadd : ∀ cell path, count (cell.add path) = count cell + weight path)
    (items : List ((ReportDistanceBin × Fin 8) × ObservedAntennaPath)) :
    (ReportDistanceBin.all.map fun category =>
      count ((items.foldl ProfileCells.add {}).distance category)).sum =
        (items.map fun item => weight item.2).sum := by
  rw [ProfileCells.foldl_distance]
  exact sum_profileCells ReportDistanceBin.all_nodup _ (fun item => ReportDistanceBin.mem_all _)
    hzero hadd items

theorem sum_azimuthCells (hzero : count {} = 0)
    (hadd : ∀ cell path, count (cell.add path) = count cell + weight path)
    (items : List ((ReportDistanceBin × Fin 8) × ObservedAntennaPath)) :
    (ReportAzimuthSector.all.map fun category =>
      count ((items.foldl ProfileCells.add {}).azimuth category.index)).sum =
        (items.map fun item => weight item.2).sum := by
  have hkeys := sum_profileCells azimuth_all_nodup (·.1.2) (fun item => mem_azimuth_all _)
    hzero hadd items
  rw [List.map_map] at hkeys
  rw [ProfileCells.foldl_azimuth]
  exact hkeys

end

/-- The cells of an antenna count its located paths, by distance and by sector. -/
structure ReportObservedAntennaProfile.AddsUp (projected : ReportObservedAntennaProfile)
    (profile : ObservedAntennaPathProfile) : Prop where
  unique : projected.uniquePathCount = profile.paths.length
  locations : projected.locatedPathCount + projected.missingLocationPathCount +
    projected.inconsistentLocationPathCount = projected.uniquePathCount
  distance : (projected.distanceBins.map (·.uniquePathCount)).sum = projected.locatedPathCount
  azimuth : (projected.azimuthSectors.map (·.uniquePathCount)).sum = projected.locatedPathCount
  observations : (projected.distanceBins.map (·.observationCount)).sum =
    (projected.azimuthSectors.map (·.observationCount)).sum
  located : (projected.distanceBins.map (·.observationCount)).sum =
    ((profile.paths.filter (·.location.isAvailable)).map (·.observationCount)).sum

theorem locations_partition (paths : List ObservedAntennaPath) :
    paths.countP (·.location.isAvailable) + paths.countP (·.location.isMissing) +
      paths.countP (·.location.isInconsistent) = paths.length := by
  induction paths with
  | nil => rfl
  | cons path paths ih =>
    have hone : (if path.location.isAvailable then 1 else 0) +
        (if path.location.isMissing then 1 else 0) +
          (if path.location.isInconsistent then 1 else 0) = 1 := by
      cases path.location <;> rfl
    simp only [List.countP_cons, List.length_cons]
    omega

theorem sum_locatedPaths {paths : List ObservedAntennaPath}
    (h : ∀ path ∈ paths, path.location.Valid) (weight : ObservedAntennaPath → ℕ) :
    ((paths.filterMap locatedPath).map fun item => weight item.2).sum =
      ((paths.filter (·.location.isAvailable)).map weight).sum := by
  induction paths with
  | nil => rfl
  | cons path paths ih =>
    have hrest := ih fun other hother => h other (List.mem_cons_of_mem path hother)
    have hsome := locatedPath_isSome (h path List.mem_cons_self)
    cases hpath : locatedPath path with
    | none =>
      rw [hpath] at hsome
      rw [List.filterMap_cons_none hpath, List.filter_cons_of_neg (by simp [← hsome]), hrest]
    | some item =>
      have hitem : item.2 = path := by
        unfold locatedPath at hpath
        cases hlocation : path.location with
        | missing => simp [hlocation] at hpath
        | inconsistent => simp [hlocation] at hpath
        | available grid distance bearing =>
          rw [hlocation] at hpath
          obtain ⟨bin, -, rfl⟩ := Option.map_eq_some_iff.1 hpath
          rfl
      rw [hpath] at hsome
      rw [List.filterMap_cons_some hpath, List.filter_cons_of_pos (by simp [← hsome]),
        List.map_cons, List.map_cons, List.sum_cons, List.sum_cons, hrest, hitem]

theorem projectObservedAntennaProfile_addsUp {profile : ObservedAntennaPathProfile}
    {blocks : List ComparisonBlock} (h : profile.Sound blocks) :
    ∃ projected, projectObservedAntennaProfile profile = some projected ∧
      projected.AddsUp profile := by
  have hvalid : ∀ path ∈ profile.paths, path.location.Valid := fun path hpath =>
    (h.paths path hpath).location
  have hlocated : (profile.paths.countP (·.location.isAvailable)) =
      ((profile.paths.filter (·.location.isAvailable)).map fun _ => 1).sum := by
    rw [List.countP_eq_length_filter]
    simp
  have hpartition := locations_partition profile.paths
  have hunique : ∀ (cell : ProfileCount) (path : ObservedAntennaPath),
      (cell.add path).uniquePaths = cell.uniquePaths + 1 := fun _ _ => rfl
  have hobservations : ∀ (cell : ProfileCount) (path : ObservedAntennaPath),
      (cell.add path).observations = cell.observations + path.observationCount :=
    fun _ _ => rfl
  unfold projectObservedAntennaProfile
  rw [foldlM_addPath hvalid, Option.map_some]
  refine ⟨_, rfl, ?_⟩
  constructor
  · exact h.unique
  · dsimp only
    rw [h.located, h.missing, h.inconsistent, h.unique]
    exact hpartition
  · dsimp only
    rw [List.map_map, h.located, hlocated, ← sum_locatedPaths hvalid]
    exact sum_distanceCells rfl hunique _
  · dsimp only
    rw [List.map_map, h.located, hlocated, ← sum_locatedPaths hvalid]
    exact sum_azimuthCells rfl hunique _
  · dsimp only
    rw [List.map_map, List.map_map]
    exact (sum_distanceCells rfl hobservations _).trans (sum_azimuthCells rfl hobservations _).symm
  · dsimp only
    rw [List.map_map, ← sum_locatedPaths hvalid]
    exact sum_distanceCells rfl hobservations _

/-- The paths of a cell, on one side or on both. -/
def CompositionCount.total (count : CompositionCount) : ℕ :=
  count.leftOnly + count.shared + count.rightOnly

/-- The paths counted so far. -/
def Composition.counted (composition : Composition) : ℕ :=
  (ReportDistanceBin.all.map fun category => (composition.cells category).total).sum +
    composition.unavailable

/-- The paths of one side in a cell. -/
def CompositionCount.onSide (count : CompositionCount) : ComparisonSide → ℕ
  | .left => count.leftOnly + count.shared
  | .right => count.rightOnly + count.shared

/-- Every identity is counted once. -/
theorem Composition.counted_add (composition : Composition)
    (left right : Option (Option ReportDistanceBin)) :
    (composition.add left right).counted = composition.counted + 1 := by
  have hcell : ∀ (bin : ReportDistanceBin) (f : CompositionCount → CompositionCount),
      (∀ count : CompositionCount, (f count).total = count.total + 1) →
        (ReportDistanceBin.all.map fun category =>
          (updateCell bin f composition.cells category).total).sum =
            (ReportDistanceBin.all.map fun category => (composition.cells category).total).sum +
              1 := fun bin f hf =>
    sum_updateCell ReportDistanceBin.all_nodup (ReportDistanceBin.mem_all bin) (hf _)
  have hleft : ∀ count : CompositionCount, count.addLeftOnly.total = count.total + 1 := by
    intro count
    simp only [CompositionCount.total, CompositionCount.addLeftOnly]
    omega
  have hshared : ∀ count : CompositionCount, count.addShared.total = count.total + 1 := by
    intro count
    simp only [CompositionCount.total, CompositionCount.addShared]
    omega
  have hright : ∀ count : CompositionCount, count.addRightOnly.total = count.total + 1 :=
    fun _ => rfl
  rcases left with _ | _ | left <;> rcases right with _ | _ | right
  case none.some.some =>
    simp only [counted, add, hcell right _ hright]
    omega
  case some.some.none =>
    simp only [counted, add, hcell left _ hleft]
    omega
  case some.some.some.some =>
    by_cases hsame : left = right
    · simp only [counted, add, if_pos hsame, hcell left _ hshared]
      omega
    · simp only [counted, add, if_neg hsame]
      omega
  all_goals
    simp only [counted, add]
    omega

theorem counted_foldl {ι : Type} (identities : List ι)
    (left right : ι → Option (Option ReportDistanceBin)) (composition : Composition) :
    (identities.foldl (fun composition identity =>
      composition.add (left identity) (right identity)) composition).counted =
        composition.counted + identities.length := by
  induction identities generalizing composition with
  | nil => rfl
  | cons identity identities ih =>
    rw [List.foldl_cons, ih, Composition.counted_add, List.length_cons]
    omega

def ComparisonSide.select {α : Type} (left right : α) : ComparisonSide → α
  | .left => left
  | .right => right

theorem onSide_updateCell {f : CompositionCount → CompositionCount} {side : ComparisonSide}
    {gain : ℕ} (hf : ∀ count, (f count).onSide side = count.onSide side + gain)
    (cells : ReportDistanceBin → CompositionCount) {key bin : ReportDistanceBin} {n : ℕ}
    (hn : key = bin → gain ≤ n) :
    (updateCell key f cells bin).onSide side ≤ (cells bin).onSide side + n := by
  by_cases hkey : bin = key
  · subst hkey
    have hone := hf (cells bin)
    have hle := hn rfl
    rw [updateCell_self]
    omega
  · rw [updateCell_of_ne hkey]
    omega

/-- A cell gains a path of an antenna only where the path ends in the cell. -/
theorem Composition.onSide_add (composition : Composition)
    (left right : Option (Option ReportDistanceBin)) (bin : ReportDistanceBin)
    (side : ComparisonSide) :
    ((composition.add left right).cells bin).onSide side ≤
      (composition.cells bin).onSide side +
        if side.select left right = some (some bin) then 1 else 0 := by
  have hshared : ∀ count : CompositionCount,
      count.addShared.onSide side = count.onSide side + 1 := by
    intro count
    cases side <;> rfl
  rcases left with _ | _ | left <;> rcases right with _ | _ | right
  case none.some.some =>
    cases side with
    | left => exact onSide_updateCell (fun _ => rfl) _ fun _ => Nat.zero_le _
    | right =>
      have hright : ∀ count : CompositionCount,
          count.addRightOnly.onSide .right = count.onSide .right + 1 := by
        intro count
        simp only [CompositionCount.onSide, CompositionCount.addRightOnly]
        omega
      apply onSide_updateCell hright
      intro hkey
      simp [ComparisonSide.select, hkey]
  case some.some.none =>
    cases side with
    | left =>
      have hleft : ∀ count : CompositionCount,
          count.addLeftOnly.onSide .left = count.onSide .left + 1 := by
        intro count
        simp only [CompositionCount.onSide, CompositionCount.addLeftOnly]
        omega
      apply onSide_updateCell hleft
      intro hkey
      simp [ComparisonSide.select, hkey]
    | right => exact onSide_updateCell (fun _ => rfl) _ fun _ => Nat.zero_le _
  case some.some.some.some =>
    by_cases hsame : left = right
    · subst hsame
      rw [add, if_pos rfl]
      apply onSide_updateCell hshared
      intro hkey
      cases side <;> simp [ComparisonSide.select, hkey]
    · rw [add, if_neg hsame]
      exact Nat.le_add_right _ _
  all_goals exact Nat.le_add_right _ _

theorem onSide_foldl {ι : Type} (identities : List ι)
    (left right : ι → Option (Option ReportDistanceBin)) (composition : Composition)
    (bin : ReportDistanceBin) (side : ComparisonSide) :
    ((identities.foldl (fun composition identity =>
      composition.add (left identity) (right identity)) composition).cells bin).onSide side ≤
        (composition.cells bin).onSide side + identities.countP fun identity =>
          side.select (left identity) (right identity) = some (some bin) := by
  induction identities generalizing composition with
  | nil => exact Nat.le_refl _
  | cons identity identities ih =>
    have hstep := composition.onSide_add (left identity) (right identity) bin side
    have hrest := ih (composition.add (left identity) (right identity))
    rw [List.foldl_cons, List.countP_cons]
    simp only [decide_eq_true_eq]
    omega

theorem mem_of_pathBins {profile : Option ObservedAntennaPathProfile} {identity : String}
    {bin : Option ReportDistanceBin} (h : (pathBins profile).lookup identity = some bin) :
    ∃ path ∈ profile.elim [] (·.paths),
      path.remotePath = identity ∧ observedPathDistanceBin path = bin := by
  obtain ⟨before, after, hsplit, -⟩ := List.lookup_eq_some_iff.1 h
  have hmem : (identity, bin) ∈ pathBins profile := by
    rw [hsplit]
    exact List.mem_append_right _ List.mem_cons_self
  obtain ⟨path, hpath, heq⟩ := List.mem_map.1 (List.mem_reverse.1 hmem)
  obtain ⟨rfl, rfl⟩ := Prod.mk.inj heq
  exact ⟨path, hpath, rfl, rfl⟩

theorem pathBins_names (profile : Option ObservedAntennaPathProfile) :
    ((pathBins profile).map (·.1)).toFinset = pathIdentities profile := by
  rw [pathBins, List.map_reverse, List.toFinset_reverse, List.map_map]
  rfl

/-- The identities that end in a bin are paths of the antenna that end there. -/
theorem countP_pathBins {identities : List String} (hnodup : identities.Nodup)
    (profile : Option ObservedAntennaPathProfile) (bin : ReportDistanceBin) :
    (identities.countP fun identity =>
      (pathBins profile).lookup identity = some (some bin)) ≤
        (profile.elim [] (·.paths)).countP (observedPathDistanceBin · = some bin) := by
  have hnames : (((profile.elim [] (·.paths)).filter
      (observedPathDistanceBin · = some bin)).map (·.remotePath)).length = _ := List.length_map _
  rw [List.countP_eq_length_filter, List.countP_eq_length_filter, ← hnames]
  apply List.Subperm.length_le
  apply List.Nodup.subperm (hnodup.filter _)
  intro identity hidentity
  obtain ⟨-, hlookup⟩ := List.mem_filter.1 hidentity
  obtain ⟨path, hpath, rfl, hbin⟩ := mem_of_pathBins (of_decide_eq_true hlookup)
  exact List.mem_map.2 ⟨path, List.mem_filter.2 ⟨hpath, decide_eq_true hbin⟩, rfl⟩

theorem locatedPath_bin (path : ObservedAntennaPath) :
    (locatedPath path).map (·.1.1) = observedPathDistanceBin path := by
  unfold locatedPath observedPathDistanceBin
  cases path.location with
  | missing => rfl
  | inconsistent => rfl
  | available grid distance bearing =>
    dsimp only
    cases ReportDistanceBin.classify distance <;> rfl

theorem countP_locatedPath (paths : List ObservedAntennaPath) (bin : ReportDistanceBin) :
    ((paths.filterMap locatedPath).filter (·.1.1 = bin)).length =
      paths.countP (observedPathDistanceBin · = some bin) := by
  induction paths with
  | nil => rfl
  | cons path paths ih =>
    rw [List.countP_cons, ← ih, ← locatedPath_bin]
    cases hpath : locatedPath path with
    | none => simp [hpath]
    | some item => by_cases hbin : item.1.1 = bin <;> simp [hpath, hbin]

/-- The cell of an antenna at a bin counts the paths that end in the bin. -/
theorem distanceCell_eq (items : List ((ReportDistanceBin × Fin 8) × ObservedAntennaPath))
    (bin : ReportDistanceBin) :
    ((items.foldl ProfileCells.add {}).distance bin).uniquePaths =
      (items.filter (·.1.1 = bin)).length := by
  have hcount := foldl_count (fun (cell : ProfileCount) (item : (ReportDistanceBin × Fin 8) ×
    ObservedAntennaPath) => (rfl : (cell.add item.2).uniquePaths = cell.uniquePaths + 1))
    (items.filter (·.1.1 = bin)) {}
  rw [ProfileCells.foldl_distance, foldl_updateCell (·.1.1) fun (cell : ProfileCount)
    (item : (ReportDistanceBin × Fin 8) × ObservedAntennaPath) => cell.add item.2, hcount]
  simp

/-- The paths of one side in a cell of the composition. -/
def ReportObservedDistanceComposition.onSide (cell : ReportObservedDistanceComposition) :
    ComparisonSide → ℕ
  | .left => cell.leftOnlyUniquePathCount + cell.sharedUniquePathCount
  | .right => cell.rightOnlyUniquePathCount + cell.sharedUniquePathCount

/-- The profile of a side is that of its source, and the composition counts every path of
either side once, in no cell more than the side has there. -/
structure ReportOverviewObservedProfile.AddsUp (overview : ReportOverviewObservedProfile)
    (left right : Option ObservedAntennaPathProfile) : Prop where
  profiles : Option.Rel ReportObservedAntennaProfile.AddsUp overview.left left ∧
    Option.Rel ReportObservedAntennaProfile.AddsUp overview.right right
  composition : (overview.distanceComposition.map fun cell =>
    cell.leftOnlyUniquePathCount + cell.sharedUniquePathCount +
      cell.rightOnlyUniquePathCount).sum + overview.compositionLocationUnavailableCount =
        (pathIdentities left ∪ pathIdentities right).card
  within : ∀ cell ∈ overview.distanceComposition, ∀ side : ComparisonSide, ∀ profile,
    side.select overview.left overview.right = some profile →
      ∃ own ∈ profile.distanceBins, own.category = cell.category ∧
        cell.onSide side ≤ own.uniquePathCount

theorem mapM_projected {blocks : List ComparisonBlock}
    {profile : Option ObservedAntennaPathProfile}
    (h : ∀ found, profile = some found → found.Sound blocks) :
    ∃ projected, profile.mapM projectObservedAntennaProfile = some projected ∧
      Option.Rel ReportObservedAntennaProfile.AddsUp projected profile := by
  cases profile with
  | none => exact ⟨none, rfl, .none⟩
  | some profile =>
    obtain ⟨projected, hprojected, hadds⟩ := projectObservedAntennaProfile_addsUp (h profile rfl)
    exact ⟨some projected, by simp [hprojected], .some hadds⟩

/-- A cell of the composition is within the cells of the antennas. -/
theorem composition_within {blocks : List ComparisonBlock}
    {left right : Option ObservedAntennaPathProfile} {side : ComparisonSide}
    {profile : ObservedAntennaPathProfile} (hside : side.select left right = some profile)
    (h : profile.Sound blocks) {projected : ReportObservedAntennaProfile}
    (hprojected : projectObservedAntennaProfile profile = some projected)
    (bin : ReportDistanceBin) :
    ∃ own ∈ projected.distanceBins, own.category = bin ∧
      ((composePaths (pathBins left) (pathBins right)).cells bin).onSide side ≤
        own.uniquePathCount := by
  have hvalid : ∀ path ∈ profile.paths, path.location.Valid := fun path hpath =>
    (h.paths path hpath).location
  unfold projectObservedAntennaProfile at hprojected
  rw [foldlM_addPath hvalid, Option.map_some] at hprojected
  obtain rfl := Option.some.inj hprojected
  refine ⟨_, List.mem_map.2 ⟨bin, ReportDistanceBin.mem_all bin, rfl⟩, rfl, ?_⟩
  have hle := onSide_foldl (Timeline.sortedKeys ((pathBins left).map (·.1) ++
    (pathBins right).map (·.1))) (fun identity => (pathBins left).lookup identity)
    (fun identity => (pathBins right).lookup identity) {} bin side
  have hcount := countP_pathBins (sortedKeys_nodup ((pathBins left).map (·.1) ++
    (pathBins right).map (·.1))) (some profile) bin
  have hcell := (distanceCell_eq (profile.paths.filterMap locatedPath) bin).trans
    (countP_locatedPath profile.paths bin)
  have hselect : ∀ identity, side.select ((pathBins left).lookup identity)
      ((pathBins right).lookup identity) = (pathBins (some profile)).lookup identity := by
    intro identity
    cases side
    · rw [← hside]
      rfl
    · rw [← hside]
      rfl
  simp only [hselect] at hle
  have hzero : (({} : Composition).cells bin).onSide side = 0 := by cases side <;> rfl
  rw [hzero, Nat.zero_add] at hle
  exact (hle.trans hcount).trans_eq hcell.symm

/-- The projection of a stratum does not panic, and its sections agree. -/
theorem projectObservedProfile_addsUp {comparison : PairedComparisonAnalysis}
    (h : comparison.ProfilesSound) (stratum : ComparisonStratum) :
    ∃ overview, projectObservedProfile stratum comparison = some overview ∧
      overview.AddsUp (profileOn comparison stratum .left)
        (profileOn comparison stratum .right) := by
  have hleft : ∀ found, profileOn comparison stratum .left = some found →
      found.Sound comparison.blocks := fun found hfound => (profileOn_sound h hfound).1
  have hright : ∀ found, profileOn comparison stratum .right = some found →
      found.Sound comparison.blocks := fun found hfound => (profileOn_sound h hfound).1
  unfold projectObservedProfile
  generalize profileOn comparison stratum .left = left at *
  generalize profileOn comparison stratum .right = right at *
  obtain ⟨leftProfile, hleftOk, hleftAdds⟩ := mapM_projected hleft
  obtain ⟨rightProfile, hrightOk, hrightAdds⟩ := mapM_projected hright
  dsimp only
  rw [hleftOk, hrightOk]
  refine ⟨_, rfl, ?_⟩
  constructor
  · exact ⟨hleftAdds, hrightAdds⟩
  · have hcounted := counted_foldl (Timeline.sortedKeys ((pathBins left).map (·.1) ++
      (pathBins right).map (·.1))) (fun identity => (pathBins left).lookup identity)
      (fun identity => (pathBins right).lookup identity) {}
    rw [sortedKeys_length, List.toFinset_append, pathBins_names, pathBins_names] at hcounted
    rw [List.map_map]
    exact hcounted.trans (Nat.zero_add _)
  · intro cell hcell side profile hprofile
    obtain ⟨bin, -, rfl⟩ := List.mem_map.1 hcell
    have hsource : ∃ source, side.select left right = some source ∧
        source.Sound comparison.blocks ∧
          projectObservedAntennaProfile source = some profile := by
      cases side with
      | left =>
        cases left with
        | none =>
          obtain rfl : leftProfile = none := by simpa using hleftOk.symm
          cases hprofile
        | some source =>
          refine ⟨source, rfl, hleft source rfl, ?_⟩
          obtain rfl : leftProfile = some profile := hprofile
          simpa using hleftOk
      | right =>
        cases right with
        | none =>
          obtain rfl : rightProfile = none := by simpa using hrightOk.symm
          cases hprofile
        | some source =>
          refine ⟨source, rfl, hright source rfl, ?_⟩
          obtain rfl : rightProfile = some profile := hprofile
          simpa using hrightOk
    obtain ⟨source, hselect, hsound, hprojected⟩ := hsource
    have hwithin := composition_within hselect hsound hprojected bin
    cases side <;> exact hwithin

/-- For every stratum of a comparison the observed profile is projected without a panic, and
counts as many paths as the coverage overlap does. -/
theorem observedProfiles_addUp {callsign : String} {schedule : Schedule}
    {slots : List AlignedSlot} {observations : List ClassifiedObservation}
    {comparison : PairedComparisonAnalysis}
    (h : analyzePairedComparison callsign schedule slots observations = some comparison)
    (stratum : ComparisonStratum) :
    ∃ overview, projectObservedProfile stratum comparison = some overview ∧
      overview.AddsUp (profileOn comparison stratum .left)
        (profileOn comparison stratum .right) ∧
      ∀ observed, projectObserved stratum comparison = some observed →
        (overview.distanceComposition.map fun cell =>
          cell.leftOnlyUniquePathCount + cell.sharedUniquePathCount +
            cell.rightOnlyUniquePathCount).sum + overview.compositionLocationUnavailableCount =
              observed.totalSystemUniquePathCount := by
  obtain ⟨overview, hoverview, hadds⟩ :=
    projectObservedProfile_addsUp (analyzePairedComparison_profiles h) stratum
  refine ⟨overview, hoverview, hadds, ?_⟩
  intro observed hobserved
  rw [hadds.composition, projectObserved_total hobserved]

namespace Scenario

/-- The located reporter was heard over both antennas, the other one over antenna B. -/
theorem signalBundle_profiles :
    ∃ comparison, analyzePairedComparison signalBundle.station.callsign signalBundle.schedule
        signalInputs.alignedSlots signalInputs.observations = some comparison ∧
      (∀ stratum, ∃ overview, projectObservedProfile stratum comparison = some overview ∧
        overview.AddsUp (profileOn comparison stratum .left)
          (profileOn comparison stratum .right)) ∧
      ∃ summary ∈ comparison.strata, ∃ overview,
        projectObservedProfile summary.stratum comparison = some overview ∧
          (overview.distanceComposition.map (·.sharedUniquePathCount)).sum = 1 ∧
          overview.compositionLocationUnavailableCount = 1 := by
  have hany : (analyzePairedComparison signalBundle.station.callsign signalBundle.schedule
      signalInputs.alignedSlots signalInputs.observations).any (fun comparison =>
        comparison.strata.any fun summary =>
          (projectObservedProfile summary.stratum comparison).any fun overview =>
            decide ((overview.distanceComposition.map (·.sharedUniquePathCount)).sum = 1 ∧
              overview.compositionLocationUnavailableCount = 1)) = true := by
    decide +kernel
  obtain ⟨comparison, h, hstrata⟩ := (Option.any_eq_true _ _).1 hany
  obtain ⟨summary, hsummary, hfound⟩ := List.any_eq_true.1 hstrata
  obtain ⟨overview, hoverview, hcounts⟩ := (Option.any_eq_true _ _).1 hfound
  refine ⟨comparison, h, ?_, summary, hsummary, overview, hoverview, of_decide_eq_true hcounts⟩
  intro stratum
  obtain ⟨overview, hoverview, hadds, -⟩ := observedProfiles_addUp h stratum
  exact ⟨overview, hoverview, hadds⟩

end Scenario

end AntennaBench
