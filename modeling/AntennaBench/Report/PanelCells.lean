import AntennaBench.Report.CommonOpportunity
import AntennaBench.Report.OverlapTotals

/-!
# The cells of a panel

`build_coverage_maps`: the reporters a census found active in the cycles of one antenna, and
which of them heard the station, by locator and by sector and distance. The loop keeps its
counts in step, so it does not panic.
-/

namespace AntennaBench

open Timeline

inductive ReportCoverageState where
  | heard
  | activeNotHeard
  deriving DecidableEq

structure ReportCoverageCell where
  maidenhead4 : String
  state : ReportCoverageState
  activeReporterCount : ℕ
  heardReporterCount : ℕ

structure ReportCoveragePolarCell where
  bearingSector : Fin 8
  distanceRing : Fin 4
  state : ReportCoverageState
  activeReporterCount : ℕ
  heardReporterCount : ℕ

structure ReportCoverageReporter where
  reporter : String
  reporterGrid : String
  state : ReportCoverageState

structure ReportCoveragePanel where
  side : ComparisonSide
  antennaLabel : String
  coverage : ReporterActivityCoverage
  activeReporterCount : ℕ
  heardReporterCount : ℕ
  mappedReporterCount : ℕ
  unmappedReporterCount : ℕ
  cells : List ReportCoverageCell
  polarCells : List ReportCoveragePolarCell
  reporters : List ReportCoverageReporter

structure ReportCoverageMapGroup where
  stratum : ComparisonStratum
  panels : List ReportCoveragePanel

/-- `state`. -/
def coverageState (heard : Bool) : ReportCoverageState :=
  if heard then .heard else .activeNotHeard

/-- Why there is no panel: a panic, or a `None`. -/
inductive NoPanel where
  | panicked
  | absent
  deriving DecidableEq

/-- A reporter as one cycle has it. -/
structure SeenReporter where
  name : String
  grid : Option String
  heard : Bool

/-- What is known of a reporter after some cycles. -/
structure ReporterEntry where
  grid : Option String := none
  heard : Bool := false

def ReporterEntry.see (entry : ReporterEntry) (seen : SeenReporter) : ReporterEntry where
  grid := entry.grid <|> seen.grid
  heard := entry.heard || seen.heard

/-- The reporters of the census of a rate. A rate has an index here; it panics where the
index is out of range. -/
def seenReporters (cycles : List ReporterActivityCensusCycle) (rate : ReporterActivityCycleRate) :
    Except NoPanel (List SeenReporter) :=
  match rate.censusCycleIndex with
  | none => .error .absent
  | some index =>
    match cycles[index]? with
    | none => .error .panicked
    | some census => .ok (census.activeReporters.map fun reporter =>
      ⟨reporter.reporter, reporter.reporterGrid, rate.heardReporters.contains reporter.reporter⟩)

def reporterEntries (seen : List SeenReporter) : List (String × ReporterEntry) :=
  seen.foldl (fun entries reporter =>
    modifyEntry {} reporter.name (·.see reporter) entries) []

/-- `text[..count]`, which panics past the end and inside a character. -/
def slicePrefix : ℕ → List Char → Option (List Char)
  | 0, _ => some []
  | _ + 1, [] => none
  | count + 1, c :: cs =>
    if c.utf8Size ≤ count + 1 then (slicePrefix (count + 1 - c.utf8Size) cs).map (c :: ·) else none

structure CoverageCount where
  active : ℕ := 0
  heard : ℕ := 0

def CoverageCount.add (count : CoverageCount) (heard : Bool) : CoverageCount :=
  ⟨count.active + 1, count.heard + heard.toNat⟩

def CoverageCount.state (count : CoverageCount) : ReportCoverageState :=
  coverageState (decide (0 < count.heard))

structure PanelState where
  cells : List (String × CoverageCount) := []
  polar : List (PolarKey × CoverageCount) := []
  mapped : List ReportCoverageReporter := []

/-- The polar cells after a reporter; a distance without a bin ends the panel. -/
def addPolarReporter (greatCircle : GreatCircle) (station : Option GeographicCoordinates)
    (grid : String) (heard : Bool) (polar : List (PolarKey × CoverageCount)) :
    Except NoPanel (List (PolarKey × CoverageCount)) :=
  match station, stationCoordinatesFromGrid grid with
  | some station, some destination =>
    match greatCircle station destination with
    | some position =>
      match ReportDistanceBin.classify position.distanceKm with
      | some ring => .ok (modifyEntry {}
        (toLex (azimuthSectorIndex 8 position.initialBearingDegrees, ring.index)) (·.add heard)
        polar)
      | none => .error .absent
    | none => .ok polar
  | _, _ => .ok polar

/-- One iteration of the loop over the reporters. -/
def PanelState.addReporter (greatCircle : GreatCircle) (station : Option GeographicCoordinates)
    (state : PanelState) (reporter : String × ReporterEntry) : Except NoPanel PanelState :=
  match reporter.2.grid.filter fun grid => (stationCoordinatesFromGrid grid).isSome with
  | none => .ok state
  | some grid =>
    match slicePrefix 4 (toAsciiUppercase (trim grid)).toList with
    | none => .error .panicked
    | some locator => do
      let polar ← addPolarReporter greatCircle station grid reporter.2.heard state.polar
      return {
        cells := modifyEntry {} (String.ofList locator) (·.add reporter.2.heard) state.cells
        polar := polar
        mapped := state.mapped ++ [⟨reporter.1, grid, coverageState reporter.2.heard⟩] }

def ReporterActivityAnalysis.ratesOn (activity : ReporterActivityAnalysis)
    (stratum : ComparisonStratum) (side : ComparisonSide) : List ReporterActivityCycleRate :=
  activity.cycleRates.filter fun rate => rate.stratum = stratum && rate.side = some side

def finishPanel (side : ComparisonSide) (first : ReporterActivityCycleRate)
    (rates : List ReporterActivityCycleRate) (entries : List (String × ReporterEntry))
    (state : PanelState) : ReportCoveragePanel where
  side := side
  antennaLabel := first.antennaLabel
  coverage := rates.foldl (fun coverage rate => coverage.weakest rate.coverage) .complete
  activeReporterCount := entries.length
  heardReporterCount := entries.countP (·.2.heard)
  mappedReporterCount := state.mapped.length
  unmappedReporterCount := entries.length - state.mapped.length
  cells := state.cells.map fun (maidenhead4, count) =>
    ⟨maidenhead4, count.state, count.active, count.heard⟩
  polarCells := state.polar.map fun (key, count) =>
    ⟨(ofLex key).1, (ofLex key).2, count.state, count.active, count.heard⟩
  reporters := state.mapped

def buildPanel (greatCircle : GreatCircle) (station : Option GeographicCoordinates)
    (activity : ReporterActivityAnalysis) (stratum : ComparisonStratum) (side : ComparisonSide) :
    Except NoPanel ReportCoveragePanel :=
  let rates := activity.ratesOn stratum side
  match rates.head? with
  | none => .error .absent
  | some first =>
    if rates.any fun rate => !rate.coverage.isKnown || rate.censusCycleIndex.isNone then
      .error .absent
    else do
      let seen ← rates.mapM (seenReporters activity.censusCycles)
      let entries := reporterEntries seen.flatten
      let state ← entries.foldlM (PanelState.addReporter greatCircle station) {}
      return finishPanel side first rates entries state

/-- `build_panel` as the caller has it; nothing stands for a panic. -/
def panel? (greatCircle : GreatCircle) (station : Option GeographicCoordinates)
    (activity : ReporterActivityAnalysis) (stratum : ComparisonStratum) (side : ComparisonSide) :
    Option (Option ReportCoveragePanel) :=
  match buildPanel greatCircle station activity stratum side with
  | .ok panel => some (some panel)
  | .error .absent => some none
  | .error .panicked => none

def coverageStrata (activity : ReporterActivityAnalysis) : List ComparisonStratum :=
  firstOccurrences
    ((activity.cycleRates.filter (·.stratum.direction = .transmit)).map (·.stratum))

/-- The group of a stratum, where both antennas have a panel. -/
def coverageMapGroup (greatCircle : GreatCircle) (station : Option GeographicCoordinates)
    (activity : ReporterActivityAnalysis) (stratum : ComparisonStratum) :
    Option (Option ReportCoverageMapGroup) := do
  let panels ← [ComparisonSide.left, .right].mapM (panel? greatCircle station activity stratum)
  let panels := panels.reduceOption
  return if panels.length = 2 then some ⟨stratum, panels⟩ else none

def buildCoverageMaps (greatCircle : GreatCircle) (stationGrid : String)
    (activity : ReporterActivityAnalysis) : Option (List ReportCoverageMapGroup) :=
  ((coverageStrata activity).mapM (coverageMapGroup greatCircle
    (stationCoordinatesFromGrid stationGrid) activity)).map (·.reduceOption)

theorem asciiIndex_size {minimum maximum c : Char} {index : IeeeFloat}
    (hmaximum : maximum.toNat < 128) (h : asciiIndex minimum maximum c = some index) :
    (asciiUpperChar c).utf8Size = 1 := by
  unfold asciiIndex at h
  dsimp only at h
  split_ifs at h with hrange
  have hlt : (asciiUpperChar c).toNat < 128 := lt_of_le_of_lt hrange.2 hmaximum
  apply Char.utf8Size_eq_one_iff.2
  rw [UInt32.le_iff_toNat_le]
  exact Nat.le_of_lt_succ hlt

/-- The first four characters of a valid locator are ASCII. -/
theorem squareCorner_sizes {a b c d : Char} (h : (squareCorner a b c d).isSome = true) :
    ∀ x ∈ [a, b, c, d], (asciiUpperChar x).utf8Size = 1 := by
  obtain ⟨corner, hcorner⟩ := Option.isSome_iff_exists.1 h
  simp only [squareCorner, Option.bind_eq_bind, Option.bind_eq_some_iff] at hcorner
  obtain ⟨_, ha, _, hb, _, hc, _, hd, -⟩ := hcorner
  intro x hx
  simp only [List.mem_cons, List.not_mem_nil, or_false] at hx
  rcases hx with rfl | rfl | rfl | rfl
  · exact asciiIndex_size (by decide) ha
  · exact asciiIndex_size (by decide) hb
  · exact asciiIndex_size (by decide) hc
  · exact asciiIndex_size (by decide) hd

theorem slicePrefix_take {count : ℕ} {cs : List Char} (hlength : count ≤ cs.length)
    (h : ∀ c ∈ cs.take count, c.utf8Size = 1) : slicePrefix count cs = some (cs.take count) := by
  induction cs generalizing count with
  | nil =>
    obtain rfl := Nat.le_zero.1 hlength
    rfl
  | cons c cs ih =>
    cases count with
    | zero => rfl
    | succ count =>
      have hsize : c.utf8Size = 1 := h c List.mem_cons_self
      have hrest := ih (Nat.le_of_succ_le_succ hlength) fun other hother =>
        h other (List.mem_cons_of_mem c hother)
      rw [slicePrefix, hsize, if_pos (by omega), Nat.add_sub_cancel, hrest]
      rfl

theorem maidenheadCellCenter_square {grid : String}
    (h : (maidenheadCellCenter grid).isSome = true) : ∃ a b c d rest,
      (trim grid).toList = a :: b :: c :: d :: rest ∧ (squareCorner a b c d).isSome = true := by
  obtain ⟨center, hcenter⟩ := Option.isSome_iff_exists.1 h
  unfold maidenheadCellCenter at hcenter
  split at hcenter
  case h_1 a b c d heq =>
    obtain ⟨corner, hcorner, -⟩ := Option.bind_eq_some_iff.1 hcenter
    exact ⟨a, b, c, d, [], heq, Option.isSome_iff_exists.2 ⟨corner, hcorner⟩⟩
  case h_2 a b c d e f heq =>
    obtain ⟨corner, hcorner, -⟩ := Option.bind_eq_some_iff.1 hcenter
    exact ⟨a, b, c, d, [e, f], heq, Option.isSome_iff_exists.2 ⟨corner, hcorner⟩⟩
  case h_3 a b c d e f g i heq =>
    obtain ⟨corner, hcorner, -⟩ := Option.bind_eq_some_iff.1 hcenter
    exact ⟨a, b, c, d, [e, f, g, i], heq, Option.isSome_iff_exists.2 ⟨corner, hcorner⟩⟩
  case h_4 => cases hcenter

/-- A valid locator has four characters to show. -/
theorem slicePrefix_locator {grid : String} (h : (stationCoordinatesFromGrid grid).isSome = true) :
    slicePrefix 4 (toAsciiUppercase (trim grid)).toList =
      some ((toAsciiUppercase (trim grid)).toList.take 4) := by
  have hcenter : (maidenheadCellCenter grid).isSome = true := by
    rw [stationCoordinatesFromGrid, Option.isSome_bind, Option.any_eq_true] at h
    obtain ⟨center, hcenter, -⟩ := h
    exact Option.isSome_iff_exists.2 ⟨center, hcenter⟩
  obtain ⟨a, b, c, d, rest, hlist, hcorner⟩ := maidenheadCellCenter_square hcenter
  have hsizes := squareCorner_sizes hcorner
  rw [toAsciiUppercase, String.toList_ofList, hlist]
  apply slicePrefix_take
  · simp
  · intro x hx
    rw [← List.map_take] at hx
    obtain ⟨y, hy, rfl⟩ := List.mem_map.1 hx
    exact hsizes y hy

theorem addPolarReporter_not_panicked {greatCircle : GreatCircle}
    {station : Option GeographicCoordinates} {grid : String} {heard : Bool}
    {polar : List (PolarKey × CoverageCount)} {e : NoPanel}
    (h : addPolarReporter greatCircle station grid heard polar = .error e) : e = .absent := by
  unfold addPolarReporter at h
  split at h
  · split at h
    · split at h
      · cases h
      · exact (Except.error.inj h).symm
    · cases h
  · cases h

/-- The loop over the reporters ends the panel at the most. -/
theorem addReporter_not_panicked {greatCircle : GreatCircle}
    {station : Option GeographicCoordinates} {state : PanelState}
    {reporter : String × ReporterEntry} {e : NoPanel}
    (h : state.addReporter greatCircle station reporter = .error e) : e = .absent := by
  unfold PanelState.addReporter at h
  cases hgrid : reporter.2.grid.filter fun grid => (stationCoordinatesFromGrid grid).isSome with
  | none =>
    rw [hgrid] at h
    cases h
  | some grid =>
    obtain ⟨-, hvalid⟩ := Option.filter_eq_some_iff.1 hgrid
    rw [hgrid] at h
    dsimp only at h
    rw [slicePrefix_locator hvalid] at h
    dsimp only at h
    rw [bind_eq_error] at h
    rcases h with h | ⟨polar, -, h⟩
    · exact addPolarReporter_not_panicked h
    · cases h

/-- The rates lead to census cycles. -/
def ReporterActivityAnalysis.IndexesCensus (activity : ReporterActivityAnalysis) : Prop :=
  ∀ rate ∈ activity.cycleRates, ∀ index, rate.censusCycleIndex = some index →
    (activity.censusCycles[index]?).isSome = true

theorem analyze_indexesCensus {env : CensusEnv} {inputs : ActivityInputs}
    {records : List AdapterRecordV2} {activity : ReporterActivityAnalysis}
    (h : analyzeReporterActivity env inputs records = .ok activity) : activity.IndexesCensus := by
  by_cases hidle : records = [] ∧ inputs.cycleDirections = []
  · unfold analyzeReporterActivity at h
    rw [if_pos (by simpa [List.isEmpty_iff] using hidle)] at h
    obtain rfl := Except.ok.inj h
    intro rate hrate
    cases hrate
  have hactivity := analyze_activity h hidle
  simp only [ActivityInputs.activity, bind_eq_ok] at hactivity
  obtain ⟨results, -, hresult⟩ := hactivity
  obtain rfl := Except.ok.inj hresult
  intro rate hrate index hindex
  obtain ⟨cycle, -, hrateOf⟩ :=
    forall₂_exists_left (countCycles_counts inputs (env.census records)).rates rate hrate
  cases hrateOf with
  | known found hknown hcycle =>
    obtain rfl : found = index := Option.some.inj hindex
    exact Option.isSome_iff_exists.2 ⟨_, hcycle⟩
  | unknown hunknown => cases hindex

/-- The reporters of the census of a rate, none where there is no census. -/
def seenIn (cycles : List ReporterActivityCensusCycle) (rate : ReporterActivityCycleRate) :
    List SeenReporter :=
  (seenReporters cycles rate).toOption.getD []

/-- The reporters of the cycles of one antenna. -/
def ReporterActivityAnalysis.seenOn (activity : ReporterActivityAnalysis)
    (stratum : ComparisonStratum) (side : ComparisonSide) : List SeenReporter :=
  (activity.ratesOn stratum side).flatMap (seenIn activity.censusCycles)

theorem mapM_seenReporters {activity : ReporterActivityAnalysis} (h : activity.IndexesCensus)
    {rates : List ReporterActivityCycleRate} (hmem : ∀ rate ∈ rates, rate ∈ activity.cycleRates)
    (hindexed : ∀ rate ∈ rates, rate.censusCycleIndex.isSome = true) :
    ∃ seen, rates.mapM (seenReporters activity.censusCycles) = .ok seen ∧
      seen.flatten = rates.flatMap (seenIn activity.censusCycles) := by
  induction rates with
  | nil => exact ⟨[], rfl, rfl⟩
  | cons rate rates ih =>
    obtain ⟨index, hindex⟩ := Option.isSome_iff_exists.1 (hindexed rate List.mem_cons_self)
    obtain ⟨census, hcensus⟩ :=
      Option.isSome_iff_exists.1 (h rate (hmem rate List.mem_cons_self) index hindex)
    obtain ⟨rest, hrest, hflat⟩ :=
      ih (fun other hother => hmem other (List.mem_cons_of_mem _ hother))
      fun other hother => hindexed other (List.mem_cons_of_mem _ hother)
    have hseen : ∃ seen, seenReporters activity.censusCycles rate = .ok seen := by
      unfold seenReporters
      rw [hindex]
      dsimp only
      rw [hcensus]
      exact ⟨_, rfl⟩
    obtain ⟨seen, hseen⟩ := hseen
    refine ⟨seen :: rest, ?_, ?_⟩
    · rw [List.mapM_cons, hseen, hrest]
      rfl
    · rw [List.flatten_cons, List.flatMap_cons, hflat, seenIn, hseen]
      rfl

def ReportCoverageReporter.isHeard (reporter : ReportCoverageReporter) : Bool :=
  reporter.state = .heard

/-- The four characters a reporter is shown under. -/
def ReportCoverageReporter.locator (reporter : ReportCoverageReporter) : String :=
  String.ofList ((toAsciiUppercase (trim reporter.reporterGrid)).toList.take 4)

/-- A reporter as the map has it. -/
def mappedReporter (reporter : String × ReporterEntry) : Option ReportCoverageReporter :=
  (reporter.2.grid.filter fun grid => (stationCoordinatesFromGrid grid).isSome).map fun grid =>
    ⟨reporter.1, grid, coverageState reporter.2.heard⟩

/-- The polar cell of a reporter, where its distance has a bin. -/
def polarKeyOf (greatCircle : GreatCircle) (station : Option GeographicCoordinates)
    (reporter : ReportCoverageReporter) : Option PolarKey := do
  let position ← greatCircle (← station) (← stationCoordinatesFromGrid reporter.reporterGrid)
  let ring ← ReportDistanceBin.classify position.distanceKm
  return toLex (azimuthSectorIndex 8 position.initialBearingDegrees, ring.index)

def collectCoverage (reporters : List ReportCoverageReporter) : CoverageCount :=
  reporters.foldl (fun count reporter => count.add reporter.isHeard) {}

@[simp] theorem isHeard_coverageState (name grid : String) (heard : Bool) :
    (ReportCoverageReporter.mk name grid (coverageState heard)).isHeard = heard := by
  cases heard <;> rfl

theorem collectCoverage_active (reporters : List ReportCoverageReporter) :
    (collectCoverage reporters).active = reporters.length := by
  have hcount := foldl_count (fun (count : CoverageCount) (reporter : ReportCoverageReporter) =>
    (rfl : (count.add reporter.isHeard).active = count.active + 1)) reporters {}
  rw [collectCoverage, hcount]
  simp

theorem collectCoverage_heard (reporters : List ReportCoverageReporter) :
    (collectCoverage reporters).heard = reporters.countP (·.isHeard) := by
  induction reporters using List.reverseRecOn with
  | nil => rfl
  | append_singleton reporters reporter ih =>
    rw [collectCoverage, List.foldl_append, List.countP_append, ← ih]
    cases hheard : reporter.isHeard <;> simp [collectCoverage, CoverageCount.add, hheard]

/-- The cells of reporters under keys. -/
def cellsUnder {κ : Type} [LinearOrder κ] (entries : List (κ × ReportCoverageReporter)) :
    List (κ × CoverageCount) :=
  entries.foldl (fun cells entry => modifyEntry {} entry.1 (·.add entry.2.isHeard) cells) []

theorem cellsUnder_eq {κ : Type} [LinearOrder κ] (entries : List (κ × ReportCoverageReporter)) :
    cellsUnder entries = (groups entries).map fun group => (group.1, collectCoverage group.2) :=
  foldl_modifyEntry ({} : CoverageCount)
    (fun count (reporter : ReportCoverageReporter) => count.add reporter.isHeard) entries

def underLocator (reporters : List ReportCoverageReporter) :
    List (String × ReportCoverageReporter) :=
  reporters.map fun reporter => (reporter.locator, reporter)

def underPolarKey (greatCircle : GreatCircle) (station : Option GeographicCoordinates)
    (reporters : List ReportCoverageReporter) : List (PolarKey × ReportCoverageReporter) :=
  reporters.filterMap fun reporter =>
    (polarKeyOf greatCircle station reporter).map (·, reporter)

/-- The state after some reporters. -/
structure PanelState.Maps (state : PanelState) (greatCircle : GreatCircle)
    (station : Option GeographicCoordinates) (done : List (String × ReporterEntry)) : Prop where
  mapped : state.mapped = done.filterMap mappedReporter
  cells : state.cells = cellsUnder (underLocator state.mapped)
  polar : state.polar = cellsUnder (underPolarKey greatCircle station state.mapped)

theorem cellsUnder_snoc {κ : Type} [LinearOrder κ] (entries : List (κ × ReportCoverageReporter))
    (entry : κ × ReportCoverageReporter) : cellsUnder (entries ++ [entry]) =
      modifyEntry {} entry.1 (·.add entry.2.isHeard) (cellsUnder entries) := by
  rw [cellsUnder, List.foldl_append]
  rfl

theorem addPolarReporter_ok {greatCircle : GreatCircle} {station : Option GeographicCoordinates}
    {reporters : List ReportCoverageReporter} {reporter : ReportCoverageReporter}
    {polar : List (PolarKey × CoverageCount)}
    (h : addPolarReporter greatCircle station reporter.reporterGrid reporter.isHeard
      (cellsUnder (underPolarKey greatCircle station reporters)) = .ok polar) :
    polar = cellsUnder (underPolarKey greatCircle station (reporters ++ [reporter])) := by
  have hkey : (∃ key, polarKeyOf greatCircle station reporter = some key ∧
      polar = modifyEntry {} key (·.add reporter.isHeard)
        (cellsUnder (underPolarKey greatCircle station reporters))) ∨
      polarKeyOf greatCircle station reporter = none ∧
        polar = cellsUnder (underPolarKey greatCircle station reporters) := by
    unfold addPolarReporter at h
    unfold polarKeyOf
    cases station with
    | none => exact .inr ⟨rfl, (Except.ok.inj h).symm⟩
    | some station =>
      cases hgrid : stationCoordinatesFromGrid reporter.reporterGrid with
      | none =>
        rw [hgrid] at h
        exact .inr ⟨rfl, (Except.ok.inj h).symm⟩
      | some destination =>
        rw [hgrid] at h
        dsimp only at h
        cases hposition : greatCircle station destination with
        | none =>
          rw [hposition] at h
          exact .inr ⟨by simp [hposition], (Except.ok.inj h).symm⟩
        | some position =>
          rw [hposition] at h
          dsimp only at h
          cases hring : ReportDistanceBin.classify position.distanceKm with
          | none =>
            rw [hring] at h
            cases h
          | some ring =>
            rw [hring] at h
            exact .inl ⟨_, by simp [hposition, hring], (Except.ok.inj h).symm⟩
  rw [underPolarKey, List.filterMap_append, ← underPolarKey]
  rcases hkey with ⟨key, hkey, rfl⟩ | ⟨hkey, rfl⟩
  · simp [hkey, cellsUnder_snoc]
  · simp [hkey]

/-- The distance of the reporter, where it has one, has a bin. -/
def ReportCoverageReporter.HasBin (greatCircle : GreatCircle)
    (station : Option GeographicCoordinates) (reporter : ReportCoverageReporter) : Prop :=
  ∀ origin destination position, station = some origin →
    stationCoordinatesFromGrid reporter.reporterGrid = some destination →
    greatCircle origin destination = some position →
      (ReportDistanceBin.classify position.distanceKm).isSome = true

theorem addPolarReporter_isOk {greatCircle : GreatCircle}
    {station : Option GeographicCoordinates} (reporter : ReportCoverageReporter) (heard : Bool)
    (polar : List (PolarKey × CoverageCount)) :
    (∃ polar', addPolarReporter greatCircle station reporter.reporterGrid heard polar =
      .ok polar') ↔ reporter.HasBin greatCircle station := by
  unfold addPolarReporter ReportCoverageReporter.HasBin
  cases station with
  | none => exact ⟨fun _ _ _ _ h => (nomatch h), fun _ => ⟨polar, rfl⟩⟩
  | some origin =>
    cases hgrid : stationCoordinatesFromGrid reporter.reporterGrid with
    | none => exact ⟨fun _ _ _ _ _ h => (nomatch h), fun _ => ⟨polar, rfl⟩⟩
    | some destination =>
      have hall : (∀ o d position, some origin = some o → some destination = some d →
          greatCircle o d = some position →
            (ReportDistanceBin.classify position.distanceKm).isSome = true) ↔
          ∀ position, greatCircle origin destination = some position →
            (ReportDistanceBin.classify position.distanceKm).isSome = true :=
        ⟨fun h position => h origin destination position rfl rfl,
          fun h o d position ho hd => Option.some.inj ho ▸ Option.some.inj hd ▸ h position⟩
      rw [hall]
      cases hposition : greatCircle origin destination with
      | none => simp [hposition]
      | some position =>
        cases hring : ReportDistanceBin.classify position.distanceKm <;>
          simp [hposition, hring]

/-- The step of a reporter fails only where it is on the map and its distance has no bin. -/
theorem addReporter_isOk {greatCircle : GreatCircle} {station : Option GeographicCoordinates}
    (state : PanelState) (reporter : String × ReporterEntry) :
    (∃ state', state.addReporter greatCircle station reporter = .ok state') ↔
      ∀ mapped, mappedReporter reporter = some mapped → mapped.HasBin greatCircle station := by
  unfold PanelState.addReporter mappedReporter
  cases hgrid : reporter.2.grid.filter fun grid => (stationCoordinatesFromGrid grid).isSome with
  | none => exact ⟨fun _ _ h => (nomatch h), fun _ => ⟨state, rfl⟩⟩
  | some grid =>
    obtain ⟨-, hvalid⟩ := Option.filter_eq_some_iff.1 hgrid
    dsimp only
    rw [slicePrefix_locator hvalid, Option.map_some]
    simp only [Option.some.injEq, forall_eq']
    rw [← addPolarReporter_isOk _ reporter.2.heard state.polar]
    cases addPolarReporter greatCircle station grid reporter.2.heard state.polar with
    | error e => exact ⟨nofun, nofun⟩
    | ok polar => exact ⟨fun _ => ⟨polar, rfl⟩, fun _ => ⟨_, rfl⟩⟩

theorem addReporter_maps {greatCircle : GreatCircle} {station : Option GeographicCoordinates}
    {state state' : PanelState} {done : List (String × ReporterEntry)}
    {reporter : String × ReporterEntry} (h : state.Maps greatCircle station done)
    (hok : state.addReporter greatCircle station reporter = .ok state') :
    state'.Maps greatCircle station (done ++ [reporter]) := by
  unfold PanelState.addReporter at hok
  cases hgrid : reporter.2.grid.filter fun grid => (stationCoordinatesFromGrid grid).isSome with
  | none =>
    rw [hgrid] at hok
    obtain rfl := Except.ok.inj hok
    constructor
    · simp [h.mapped, mappedReporter, hgrid]
    · exact h.cells
    · exact h.polar
  | some grid =>
    obtain ⟨-, hvalid⟩ := Option.filter_eq_some_iff.1 hgrid
    rw [hgrid] at hok
    dsimp only at hok
    rw [slicePrefix_locator hvalid] at hok
    dsimp only at hok
    rw [bind_eq_ok] at hok
    obtain ⟨polar, hpolar, hok⟩ := hok
    obtain rfl := Except.ok.inj hok
    constructor
    · simp [h.mapped, mappedReporter, hgrid]
    · dsimp only
      rw [underLocator, List.map_append, ← underLocator, List.map_singleton, cellsUnder_snoc,
        ← h.cells]
      simp [ReportCoverageReporter.locator]
    · dsimp only
      apply addPolarReporter_ok
      rw [← h.polar]
      simpa using hpolar

end AntennaBench
