import AntennaBench.Analysis.PathSummaries
import AntennaBench.Report.ObservedProfile

/-!
# Location context

`project_location_context`: where the paired paths of a stratum end. A path is located where
all its rows agree on a grid, a distance and a bearing. The projection does not panic on a
comparison, and every path is counted once.
-/

namespace AntennaBench

open Timeline

inductive ReportPathLocationAvailability where
  | available
  | missing
  | inconsistent
  deriving DecidableEq

structure ReportOverviewLocationPath where
  remotePath : String
  pairedRowCount : ℕ
  medianDeltaRightMinusLeftDb : IeeeFloat
  availability : ReportPathLocationAvailability
  distanceKm : Option IeeeFloat
  azimuthDegrees : Option IeeeFloat

structure ReportOverviewLocationCell (T : Type) where
  category : T
  uniqueLocatedPathCount : ℕ
  pairedRowCount : ℕ
  medianPathDeltaRightMinusLeftDb : Option IeeeFloat

structure ReportOverviewLocationContext where
  paths : List ReportOverviewLocationPath
  missingLocationPathCount : ℕ
  inconsistentLocationPathCount : ℕ
  distanceBins : List (ReportOverviewLocationCell ReportDistanceBin)
  azimuthSectors : List (ReportOverviewLocationCell ReportAzimuthSector)

inductive PathLocation where
  | available (distanceKm azimuthDegrees : IeeeFloat)
  | missing
  | inconsistent

def normalizedGrid (grid : Option String) : Option String :=
  ((grid.map trim).filter (!·.isEmpty)).map toAsciiUppercase

def validDistance (value : Option IeeeFloat) : Option IeeeFloat :=
  value.filter fun value => value.isFinite && IeeeFloat.zero.le value

def validAzimuth (value : Option IeeeFloat) : Option IeeeFloat :=
  value.filter fun value =>
    value.isFinite && IeeeFloat.zero.le value && value.lt (.finite 360)

/-- `ok_or(ReportPathLocationAvailability::Missing)`. -/
def orMissing {α : Type} (value : Option α) : Except ReportPathLocationAvailability α :=
  value.elim (.error .missing) .ok

def pairedRowLocation (row : PairedObservationRow) :
    Except ReportPathLocationAvailability (String × IeeeFloat × IeeeFloat) := do
  let leftGrid ← orMissing (normalizedGrid row.leftRemoteGrid)
  let rightGrid ← orMissing (normalizedGrid row.rightRemoteGrid)
  let leftDistance ← orMissing (validDistance row.leftDistanceKm)
  let rightDistance ← orMissing (validDistance row.rightDistanceKm)
  let leftAzimuth ← orMissing (validAzimuth row.leftAzimuthDegrees)
  let rightAzimuth ← orMissing (validAzimuth row.rightAzimuthDegrees)
  if leftGrid = rightGrid && leftDistance.sameBits rightDistance &&
      leftAzimuth.sameBits rightAzimuth then
    return (leftGrid, leftDistance, leftAzimuth)
  else throw .inconsistent

/-- Nothing stands for the `unreachable!`, here and below. -/
def unavailablePathLocation : ReportPathLocationAvailability → Option PathLocation
  | .available => none
  | .missing => some .missing
  | .inconsistent => some .inconsistent

/-- The rows after the first one, which is at `first`. -/
def agreeingLocation (first : String × IeeeFloat × IeeeFloat) :
    List PairedObservationRow → Option PathLocation
  | [] => some (.available first.2.1 first.2.2)
  | row :: rows =>
    match pairedRowLocation row with
    | .ok location => if location == first then agreeingLocation first rows else some .inconsistent
    | .error availability => unavailablePathLocation availability

def consistentPathLocation : List PairedObservationRow → Option PathLocation
  | [] => some .missing
  | row :: rows =>
    match pairedRowLocation row with
    | .ok first => agreeingLocation first rows
    | .error availability => unavailablePathLocation availability

/-- A cell and the deltas pushed for it. -/
structure LocationCell where
  uniqueLocatedPaths : ℕ := 0
  pairedRows : ℕ := 0
  deltas : List IeeeFloat := []

def LocationCell.add (cell : LocationCell) (path : PairedPathSummary) : LocationCell where
  uniqueLocatedPaths := cell.uniqueLocatedPaths + 1
  pairedRows := cell.pairedRows + path.pairedRowCount
  deltas := cell.deltas ++ [path.medianDeltaRightMinusLeftDb]

/-- `median` of the report: nothing for no values. -/
def medianOf (values : List IeeeFloat) : Option IeeeFloat :=
  if values.isEmpty then none else some (median values)

def LocationCell.finish {T : Type} (cell : LocationCell) (category : T) :
    ReportOverviewLocationCell T where
  category := category
  uniqueLocatedPathCount := cell.uniqueLocatedPaths
  pairedRowCount := cell.pairedRows
  medianPathDeltaRightMinusLeftDb := medianOf (sortTotal cell.deltas)

structure LocationState where
  distance : ReportDistanceBin → LocationCell := fun _ => {}
  azimuth : Fin 8 → LocationCell := fun _ => {}
  missing : ℕ := 0
  inconsistent : ℕ := 0
  paths : List ReportOverviewLocationPath := []

def PairedPathSummary.locationPath (path : PairedPathSummary)
    (availability : ReportPathLocationAvailability) (distanceKm azimuthDegrees : Option IeeeFloat) :
    ReportOverviewLocationPath :=
  ⟨path.remotePath, path.pairedRowCount, path.medianDeltaRightMinusLeftDb, availability,
    distanceKm, azimuthDegrees⟩

/-- One iteration of the loop over the path summaries. -/
def LocationState.addPath (state : LocationState) (path : PairedPathSummary) :
    PathLocation → Option LocationState
  | .available distanceKm azimuthDegrees =>
    (ReportDistanceBin.classify distanceKm).map fun bin => { state with
      distance := updateCell bin (·.add path) state.distance
      azimuth := updateCell (azimuthSectorIndex 64 azimuthDegrees) (·.add path) state.azimuth
      paths := state.paths ++
        [path.locationPath .available (some distanceKm) (some azimuthDegrees)] }
  | .missing => some { state with
      missing := state.missing + 1
      paths := state.paths ++ [path.locationPath .missing none none] }
  | .inconsistent => some { state with
      inconsistent := state.inconsistent + 1
      paths := state.paths ++ [path.locationPath .inconsistent none none] }

/-- `rows_by_path`: the rows of a stratum by remote path. -/
def rowsByPath (stratum : ComparisonStratum) (comparison : PairedComparisonAnalysis) :
    List (String × List PairedObservationRow) :=
  groups ((comparison.pairedRows.filter (·.stratum = stratum)).map fun row =>
    (row.remotePath, row))

def addLocatedPath (rows : List (String × List PairedObservationRow)) (state : LocationState)
    (path : PairedPathSummary) : Option LocationState := do
  let members ← rows.lookup path.remotePath
  let location ← consistentPathLocation members
  state.addPath path location

/-- `project_location_context`; nothing stands for a panic. -/
def projectLocationContext (stratum : ComparisonStratum)
    (comparison : PairedComparisonAnalysis) : Option ReportOverviewLocationContext :=
  ((comparison.pathSummaries.filter (·.stratum = stratum)).foldlM
    (addLocatedPath (rowsByPath stratum comparison)) {}).map fun state => {
      paths := state.paths
      missingLocationPathCount := state.missing
      inconsistentLocationPathCount := state.inconsistent
      distanceBins := ReportDistanceBin.all.map fun category =>
        (state.distance category).finish category
      azimuthSectors := ReportAzimuthSector.all.map fun category =>
        (state.azimuth category.index).finish category }

theorem validDistance_spec {value : Option IeeeFloat} {distance : IeeeFloat}
    (h : validDistance value = some distance) :
    distance.isFinite = true ∧ IeeeFloat.zero.le distance = true := by
  obtain ⟨-, hvalid⟩ := Option.filter_eq_some_iff.1 h
  simpa using hvalid

theorem orMissing_eq_ok {α : Type} {value : Option α} {a : α} :
    orMissing value = .ok a ↔ value = some a := by
  cases value <;> simp [orMissing]

theorem orMissing_eq_error {α : Type} {value : Option α}
    {e : ReportPathLocationAvailability} (h : orMissing value = .error e) : e = .missing := by
  cases value with
  | none => exact (Except.error.inj h).symm
  | some a => cases h

/-- A row that is located has a distance with a bin. -/
theorem pairedRowLocation_ok {row : PairedObservationRow}
    {location : String × IeeeFloat × IeeeFloat} (h : pairedRowLocation row = .ok location) :
    location.2.1.isFinite = true ∧ IeeeFloat.zero.le location.2.1 = true := by
  simp only [pairedRowLocation, bind_eq_ok, orMissing_eq_ok] at h
  obtain ⟨leftGrid, -, rightGrid, -, leftDistance, hdistance, rightDistance, -, leftAzimuth, -,
    rightAzimuth, -, h⟩ := h
  split_ifs at h
  obtain rfl := Except.ok.inj h
  exact validDistance_spec hdistance

theorem pairedRowLocation_error {row : PairedObservationRow}
    {availability : ReportPathLocationAvailability}
    (h : pairedRowLocation row = .error availability) :
    (unavailablePathLocation availability).isSome = true := by
  have hne : availability = .missing ∨ availability = .inconsistent := by
    simp only [pairedRowLocation, bind_eq_error, orMissing_eq_ok] at h
    rcases h with h | ⟨_, -, h | ⟨_, -, h | ⟨_, -, h | ⟨_, -, h | ⟨_, -, h | ⟨_, -, h⟩⟩⟩⟩⟩⟩
    iterate 6 exact .inl (orMissing_eq_error h)
    split_ifs at h
    · cases h
    · exact .inr (Except.error.inj h).symm
  rcases hne with rfl | rfl <;> rfl

/-- An available location has a distance with a bin. -/
def PathLocation.Placed : PathLocation → Prop
  | available distanceKm _ => (ReportDistanceBin.classify distanceKm).isSome = true
  | _ => True

theorem unavailablePathLocation_placed {availability : ReportPathLocationAvailability}
    {location : PathLocation} (h : unavailablePathLocation availability = some location) :
    location.Placed := by
  cases availability with
  | available => cases h
  | missing =>
    obtain rfl := Option.some.inj h
    trivial
  | inconsistent =>
    obtain rfl := Option.some.inj h
    trivial

theorem agreeingLocation_placed {first : String × IeeeFloat × IeeeFloat}
    (hfirst : (ReportDistanceBin.classify first.2.1).isSome = true)
    (rows : List PairedObservationRow) :
    ∃ location, agreeingLocation first rows = some location ∧ location.Placed := by
  induction rows with
  | nil => exact ⟨_, rfl, hfirst⟩
  | cons row rows ih =>
    rw [agreeingLocation]
    cases hrow : pairedRowLocation row with
    | error availability =>
      obtain ⟨location, hlocation⟩ := Option.isSome_iff_exists.1 (pairedRowLocation_error hrow)
      exact ⟨location, hlocation, unavailablePathLocation_placed hlocation⟩
    | ok location =>
      dsimp only
      split_ifs
      · exact ih
      · exact ⟨.inconsistent, rfl, trivial⟩

/-- The rows of a path come to a location, whatever they are. -/
theorem consistentPathLocation_placed (rows : List PairedObservationRow) :
    ∃ location, consistentPathLocation rows = some location ∧ location.Placed := by
  cases rows with
  | nil => exact ⟨.missing, rfl, trivial⟩
  | cons row rows =>
    rw [consistentPathLocation]
    cases hrow : pairedRowLocation row with
    | error availability =>
      obtain ⟨location, hlocation⟩ := Option.isSome_iff_exists.1 (pairedRowLocation_error hrow)
      exact ⟨location, hlocation, unavailablePathLocation_placed hlocation⟩
    | ok first =>
      obtain ⟨hfinite, hzero⟩ := pairedRowLocation_ok hrow
      exact agreeingLocation_placed
        (ReportDistanceBin.classify_isSome hfinite (lt_zero_of_le hfinite hzero)) rows

/-- The cells of an axis count the located paths. -/
structure CellsCount {κ : Type} (keys : List κ) (cells : κ → LocationCell)
    (paths : List ReportOverviewLocationPath) : Prop where
  unique : (keys.map fun k => (cells k).uniqueLocatedPaths).sum =
    paths.countP (·.availability = .available)
  rows : (keys.map fun k => (cells k).pairedRows).sum =
    ((paths.filter (·.availability = .available)).map (·.pairedRowCount)).sum
  deltas : ∀ k, (cells k).deltas.length = (cells k).uniqueLocatedPaths

namespace CellsCount

variable {κ : Type} {keys : List κ} {cells : κ → LocationCell}
  {paths : List ReportOverviewLocationPath}

theorem available [DecidableEq κ] (h : CellsCount keys cells paths) (hkeys : keys.Nodup)
    {k : κ} (hk : k ∈ keys) (path : PairedPathSummary)
    (distanceKm azimuthDegrees : Option IeeeFloat) :
    CellsCount keys (updateCell k (·.add path) cells)
      (paths ++ [path.locationPath .available distanceKm azimuthDegrees]) := by
  have hunique : (keys.map fun key =>
      (updateCell k (·.add path) cells key).uniqueLocatedPaths).sum =
        (keys.map fun key => (cells key).uniqueLocatedPaths).sum + 1 :=
    @sum_updateCell LocationCell κ _ keys hkeys k hk (·.uniqueLocatedPaths) (·.add path) cells 1 rfl
  have hrows : (keys.map fun key => (updateCell k (·.add path) cells key).pairedRows).sum =
      (keys.map fun key => (cells key).pairedRows).sum + path.pairedRowCount :=
    @sum_updateCell LocationCell κ _ keys hkeys k hk (·.pairedRows) (·.add path) cells _ rfl
  constructor
  · rw [hunique, h.unique, List.countP_append]
    simp [PairedPathSummary.locationPath]
  · rw [hrows, h.rows, List.filter_append]
    simp [PairedPathSummary.locationPath]
  · intro other
    by_cases hother : other = k
    · subst hother
      rw [updateCell_self]
      simp [LocationCell.add, h.deltas]
    · rw [updateCell_of_ne hother]
      exact h.deltas other

theorem unavailable (h : CellsCount keys cells paths) {row : ReportOverviewLocationPath}
    (hrow : row.availability ≠ .available) : CellsCount keys cells (paths ++ [row]) := by
  constructor
  · rw [h.unique, List.countP_append]
    simp [hrow]
  · rw [h.rows, List.filter_append]
    simp [hrow]
  · exact h.deltas

end CellsCount

/-- The state after some paths. -/
structure LocationState.Counts (state : LocationState) (done : List PairedPathSummary) : Prop where
  paths : state.paths.map (fun row =>
      (row.remotePath, row.pairedRowCount, row.medianDeltaRightMinusLeftDb)) =
    done.map fun path =>
      (path.remotePath, path.pairedRowCount, path.medianDeltaRightMinusLeftDb)
  missing : state.missing = state.paths.countP (·.availability = .missing)
  inconsistent : state.inconsistent = state.paths.countP (·.availability = .inconsistent)
  distance : CellsCount ReportDistanceBin.all state.distance state.paths
  azimuth : CellsCount (ReportAzimuthSector.all.map ReportAzimuthSector.index) state.azimuth
    state.paths

theorem LocationState.Counts.addPath {state : LocationState} {done : List PairedPathSummary}
    (h : state.Counts done) (path : PairedPathSummary) {location : PathLocation}
    (hlocation : location.Placed) :
    ∃ state', state.addPath path location = some state' ∧ state'.Counts (done ++ [path]) := by
  cases location with
  | available distanceKm azimuthDegrees =>
    obtain ⟨bin, hbin⟩ := Option.isSome_iff_exists.1 hlocation
    refine ⟨_, by rw [LocationState.addPath, hbin, Option.map_some], ?_⟩
    constructor
    · simp [h.paths, PairedPathSummary.locationPath]
    · simp [h.missing, PairedPathSummary.locationPath]
    · simp [h.inconsistent, PairedPathSummary.locationPath]
    · exact h.distance.available ReportDistanceBin.all_nodup (ReportDistanceBin.mem_all bin) path
        _ _
    · exact h.azimuth.available azimuth_all_nodup (mem_azimuth_all _) path _ _
  | missing =>
    refine ⟨_, rfl, ?_⟩
    constructor
    · simp [h.paths, PairedPathSummary.locationPath]
    · simp [h.missing, PairedPathSummary.locationPath]
    · simp [h.inconsistent, PairedPathSummary.locationPath]
    · exact h.distance.unavailable nofun
    · exact h.azimuth.unavailable nofun
  | inconsistent =>
    refine ⟨_, rfl, ?_⟩
    constructor
    · simp [h.paths, PairedPathSummary.locationPath]
    · simp [h.missing, PairedPathSummary.locationPath]
    · simp [h.inconsistent, PairedPathSummary.locationPath]
    · exact h.distance.unavailable nofun
    · exact h.azimuth.unavailable nofun

theorem foldlM_addLocatedPath {rows : List (String × List PairedObservationRow)}
    {paths done : List PairedPathSummary} {state : LocationState} (h : state.Counts done)
    (hrows : ∀ path ∈ paths, (rows.lookup path.remotePath).isSome = true) :
    ∃ state', paths.foldlM (addLocatedPath rows) state = some state' ∧
      state'.Counts (done ++ paths) := by
  induction paths generalizing done state with
  | nil => exact ⟨state, rfl, by rwa [List.append_nil]⟩
  | cons path paths ih =>
    obtain ⟨members, hmembers⟩ := Option.isSome_iff_exists.1 (hrows path List.mem_cons_self)
    obtain ⟨location, hlocation, hplaced⟩ := consistentPathLocation_placed members
    obtain ⟨next, hnext, hcounts⟩ := h.addPath path hplaced
    obtain ⟨final, hfinal, hall⟩ := ih hcounts fun other hother =>
      hrows other (List.mem_cons_of_mem path hother)
    have hstep : addLocatedPath rows state path = some next := by
      simp [addLocatedPath, hmembers, hlocation, hnext]
    refine ⟨final, ?_, ?_⟩
    · rw [List.foldlM_cons, hstep]
      exact hfinal
    · rw [List.append_assoc] at hall
      exact hall

theorem locationState_counts : ({} : LocationState).Counts [] := by
  have hempty : ∀ {κ : Type} (keys : List κ), CellsCount keys (fun _ => {}) [] := by
    intro κ keys
    constructor
    · simp
    · simp
    · intro k
      rfl
  exact ⟨rfl, rfl, rfl, hempty _, hempty _⟩

def ReportOverviewLocationContext.countOf (context : ReportOverviewLocationContext)
    (availability : ReportPathLocationAvailability) : ℕ :=
  context.paths.countP (·.availability = availability)

/-- The context counts every path of the stratum once, and the located ones along each axis. -/
structure ReportOverviewLocationContext.AddsUp (context : ReportOverviewLocationContext)
    (summaries : List PairedPathSummary) : Prop where
  paths : context.paths.map (fun row =>
      (row.remotePath, row.pairedRowCount, row.medianDeltaRightMinusLeftDb)) =
    summaries.map fun path =>
      (path.remotePath, path.pairedRowCount, path.medianDeltaRightMinusLeftDb)
  missing : context.missingLocationPathCount = context.countOf .missing
  inconsistent : context.inconsistentLocationPathCount = context.countOf .inconsistent
  partition : context.countOf .available + context.missingLocationPathCount +
    context.inconsistentLocationPathCount = summaries.length
  distance : (context.distanceBins.map (·.uniqueLocatedPathCount)).sum =
    context.countOf .available
  azimuth : (context.azimuthSectors.map (·.uniqueLocatedPathCount)).sum =
    context.countOf .available
  distanceRows : (context.distanceBins.map (·.pairedRowCount)).sum =
    ((context.paths.filter (·.availability = .available)).map (·.pairedRowCount)).sum
  azimuthRows : (context.azimuthSectors.map (·.pairedRowCount)).sum =
    ((context.paths.filter (·.availability = .available)).map (·.pairedRowCount)).sum
  distanceMedians : ∀ cell ∈ context.distanceBins,
    cell.medianPathDeltaRightMinusLeftDb = none ↔ cell.uniqueLocatedPathCount = 0
  azimuthMedians : ∀ cell ∈ context.azimuthSectors,
    cell.medianPathDeltaRightMinusLeftDb = none ↔ cell.uniqueLocatedPathCount = 0

theorem medianOf_eq_none {cell : LocationCell}
    (h : cell.deltas.length = cell.uniqueLocatedPaths) :
    medianOf (sortTotal cell.deltas) = none ↔ cell.uniqueLocatedPaths = 0 := by
  have hlength : (sortTotal cell.deltas).length = cell.deltas.length :=
    (sortOn_perm _ _).length_eq
  rw [h] at hlength
  rw [← hlength, medianOf]
  cases sortTotal cell.deltas <;> simp

theorem availability_partition (paths : List ReportOverviewLocationPath) :
    paths.countP (·.availability = .available) + paths.countP (·.availability = .missing) +
      paths.countP (·.availability = .inconsistent) = paths.length := by
  induction paths with
  | nil => rfl
  | cons path paths ih =>
    have hone : (if path.availability = .available then 1 else 0) +
        (if path.availability = .missing then 1 else 0) +
          (if path.availability = .inconsistent then 1 else 0) = 1 := by
      cases path.availability <;> rfl
    simp only [List.countP_cons, List.length_cons, decide_eq_true_eq]
    omega

theorem lookup_rowsByPath {comparison : PairedComparisonAnalysis}
    (h : comparison.PathsSummarized) {path : PairedPathSummary}
    (hpath : path ∈ comparison.pathSummaries) :
    ((rowsByPath path.stratum comparison).lookup path.remotePath).isSome = true := by
  obtain ⟨hpositive, hcount⟩ := h.paths path hpath
  rw [hcount] at hpositive
  obtain ⟨row, hrow⟩ := List.exists_mem_of_length_pos hpositive
  obtain ⟨hmem, hsame⟩ := List.mem_filter.1 hrow
  obtain ⟨hstratum, hremote⟩ := of_decide_eq_true hsame
  have hlookup := lookup_groups_map ((comparison.pairedRows.filter
    (·.stratum = path.stratum)).map fun row => (row.remotePath, row)) id path.remotePath
  have hkey : path.remotePath ∈ ((comparison.pairedRows.filter
      (·.stratum = path.stratum)).map fun row => (row.remotePath, row)).map (·.1) := by
    rw [List.map_map, List.mem_map]
    exact ⟨row, List.mem_filter.2 ⟨hmem, decide_eq_true hstratum⟩, hremote⟩
  rw [if_pos hkey] at hlookup
  have hgroups : rowsByPath path.stratum comparison = (rowsByPath path.stratum comparison).map
      fun group => (group.1, id group.2) := (List.map_id _).symm
  rw [hgroups, rowsByPath, hlookup]
  rfl

theorem projectLocationContext_addsUp {comparison : PairedComparisonAnalysis}
    (h : comparison.PathsSummarized) (stratum : ComparisonStratum) :
    ∃ context, projectLocationContext stratum comparison = some context ∧
      context.AddsUp (comparison.pathSummaries.filter (·.stratum = stratum)) := by
  have hrows : ∀ path ∈ comparison.pathSummaries.filter (·.stratum = stratum),
      ((rowsByPath stratum comparison).lookup path.remotePath).isSome = true := by
    intro path hpath
    obtain ⟨hmem, hsame⟩ := List.mem_filter.1 hpath
    obtain rfl := of_decide_eq_true hsame
    exact lookup_rowsByPath h hmem
  obtain ⟨state, hstate, hcounts⟩ := foldlM_addLocatedPath locationState_counts hrows
  rw [List.nil_append] at hcounts
  have hpartition := availability_partition state.paths
  have hlength := congrArg List.length hcounts.paths
  rw [List.length_map, List.length_map] at hlength
  have hsector : ∀ f : LocationCell → ℕ, (ReportAzimuthSector.all.map fun category =>
      f (state.azimuth category.index)).sum =
        ((ReportAzimuthSector.all.map ReportAzimuthSector.index).map fun k =>
          f (state.azimuth k)).sum := by
    intro f
    rw [List.map_map]
    rfl
  unfold projectLocationContext
  rw [hstate, Option.map_some]
  refine ⟨_, rfl, ?_⟩
  constructor
  · exact hcounts.paths
  · exact hcounts.missing
  · exact hcounts.inconsistent
  · dsimp only [ReportOverviewLocationContext.countOf]
    rw [hcounts.missing, hcounts.inconsistent]
    omega
  · rw [List.map_map]
    exact hcounts.distance.unique
  · rw [List.map_map]
    exact (hsector (·.uniqueLocatedPaths)).trans hcounts.azimuth.unique
  · rw [List.map_map]
    exact hcounts.distance.rows
  · rw [List.map_map]
    exact (hsector (·.pairedRows)).trans hcounts.azimuth.rows
  · intro cell hcell
    obtain ⟨category, -, rfl⟩ := List.mem_map.1 hcell
    exact medianOf_eq_none (hcounts.distance.deltas category)
  · intro cell hcell
    obtain ⟨category, -, rfl⟩ := List.mem_map.1 hcell
    exact medianOf_eq_none (hcounts.azimuth.deltas category.index)

/-- For every stratum of a comparison the location context is projected without a panic, and
counts the paths and the rows that the summary of the stratum counts. -/
theorem locationContexts_addUp {callsign : String} {schedule : Schedule}
    {slots : List AlignedSlot} {observations : List ClassifiedObservation}
    {comparison : PairedComparisonAnalysis}
    (h : analyzePairedComparison callsign schedule slots observations = some comparison)
    (stratum : ComparisonStratum) :
    ∃ context, projectLocationContext stratum comparison = some context ∧
      context.AddsUp (comparison.pathSummaries.filter (·.stratum = stratum)) ∧
      ∀ summary ∈ comparison.strata, summary.stratum = stratum →
        summary.uniquePathCount = context.paths.length ∧
          summary.pairedRowCount = (context.paths.map (·.pairedRowCount)).sum := by
  have hsummarized := analyzePairedComparison_paths h
  obtain ⟨context, hcontext, hadds⟩ := projectLocationContext_addsUp hsummarized stratum
  refine ⟨context, hcontext, hadds, ?_⟩
  rintro summary hsummary rfl
  obtain ⟨hrows, hpaths⟩ := hsummarized.strata summary hsummary
  have hlength := congrArg List.length hadds.paths
  have hcounts := congrArg (List.map fun row : String × ℕ × IeeeFloat => row.2.1) hadds.paths
  rw [List.length_map, List.length_map] at hlength
  rw [List.map_map, List.map_map] at hcounts
  constructor
  · rw [hpaths, hlength]
  · rw [hrows, ← hsummarized.rows]
    exact congrArg List.sum hcounts.symm

namespace Scenario

/-- The one path with a row is located. -/
theorem signalBundle_locations :
    ∃ comparison, analyzePairedComparison signalBundle.station.callsign signalBundle.schedule
        signalInputs.alignedSlots signalInputs.observations = some comparison ∧
      (∀ stratum, ∃ context, projectLocationContext stratum comparison = some context ∧
        context.AddsUp (comparison.pathSummaries.filter (·.stratum = stratum))) ∧
      ∃ summary ∈ comparison.strata, ∃ context,
        projectLocationContext summary.stratum comparison = some context ∧
          (context.distanceBins.map (·.uniqueLocatedPathCount)).sum = 1 ∧
          (context.azimuthSectors.map (·.pairedRowCount)).sum = 1 := by
  have hany : (analyzePairedComparison signalBundle.station.callsign signalBundle.schedule
      signalInputs.alignedSlots signalInputs.observations).any (fun comparison =>
        comparison.strata.any fun summary =>
          (projectLocationContext summary.stratum comparison).any fun context =>
            decide ((context.distanceBins.map (·.uniqueLocatedPathCount)).sum = 1 ∧
              (context.azimuthSectors.map (·.pairedRowCount)).sum = 1)) = true := by
    decide +kernel
  obtain ⟨comparison, h, hstrata⟩ := (Option.any_eq_true _ _).1 hany
  obtain ⟨summary, hsummary, hfound⟩ := List.any_eq_true.1 hstrata
  obtain ⟨context, hcontext, hcounts⟩ := (Option.any_eq_true _ _).1 hfound
  refine ⟨comparison, h, ?_, summary, hsummary, context, hcontext, of_decide_eq_true hcounts⟩
  intro stratum
  obtain ⟨context, hcontext, hadds, -⟩ := locationContexts_addUp h stratum
  exact ⟨context, hcontext, hadds⟩

end Scenario

end AntennaBench
