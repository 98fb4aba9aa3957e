import AntennaBench.Report.PanelCells

/-!
# Coverage panels

A panel counts each located reporter of its cycles once, by locator and by sector and
distance. A stratum is on the map where both antennas have a panel.
-/

namespace AntennaBench

open Timeline

def collectEntry (seen : List SeenReporter) : ReporterEntry :=
  seen.foldl .see {}

theorem reporterEntries_eq (seen : List SeenReporter) : reporterEntries seen =
    (Timeline.sortedKeys (seen.map (·.name))).map fun name =>
      (name, collectEntry (seen.filter (·.name = name))) :=
  foldl_modifyEntry_keyed ({} : ReporterEntry) SeenReporter.name ReporterEntry.see seen

theorem collectEntry_heard (seen : List SeenReporter) :
    (collectEntry seen).heard = seen.any (·.heard) := by
  induction seen using List.reverseRecOn with
  | nil => rfl
  | append_singleton seen reporter ih =>
    rw [List.any_append, ← ih, collectEntry, List.foldl_append]
    simp [collectEntry, ReporterEntry.see]

theorem collectEntry_grid {seen : List SeenReporter} {grid : String}
    (h : (collectEntry seen).grid = some grid) : ∃ reporter ∈ seen, reporter.grid = some grid := by
  induction seen using List.reverseRecOn with
  | nil => cases h
  | append_singleton seen reporter ih =>
    rw [collectEntry, List.foldl_append] at h
    have hsee : ((collectEntry seen).grid <|> reporter.grid) = some grid := h
    cases hgrid : (collectEntry seen).grid with
    | none =>
      rw [hgrid] at hsee
      exact ⟨reporter, List.mem_append_right _ List.mem_cons_self, hsee⟩
    | some found =>
      rw [hgrid] at hsee
      obtain ⟨other, hother, hfound⟩ := ih (hgrid.trans hsee)
      exact ⟨other, List.mem_append_left _ hother, hfound⟩

/-- The panel counts the reporters seen, on the map and not. -/
structure ReportCoveragePanel.AddsUp (panel : ReportCoveragePanel) (seen : List SeenReporter) :
    Prop where
  active : panel.activeReporterCount = (seen.map (·.name)).toFinset.card
  heard : panel.heardReporterCount = ((seen.filter (·.heard)).map (·.name)).toFinset.card
  mapped : panel.mappedReporterCount = panel.reporters.length
  rest : panel.mappedReporterCount + panel.unmappedReporterCount = panel.activeReporterCount
  ascending : (panel.reporters.map (·.reporter)).Pairwise (· < ·)
  reporters : ∀ reporter ∈ panel.reporters,
    (∃ entry ∈ seen, entry.name = reporter.reporter ∧
      entry.grid = some reporter.reporterGrid) ∧
    (reporter.isHeard = true ↔ ∃ entry ∈ seen,
      entry.name = reporter.reporter ∧ entry.heard = true)
  cells : (panel.cells.map (·.activeReporterCount)).sum = panel.mappedReporterCount
  cellsHeard : (panel.cells.map (·.heardReporterCount)).sum =
    panel.reporters.countP (·.isHeard)
  cell : ∀ cell ∈ panel.cells, 0 < cell.activeReporterCount ∧
    cell.activeReporterCount = panel.reporters.countP (·.locator = cell.maidenhead4) ∧
    cell.heardReporterCount =
      (panel.reporters.filter (·.locator = cell.maidenhead4)).countP (·.isHeard) ∧
    (cell.state = .heard ↔ 0 < cell.heardReporterCount)
  polar : (panel.polarCells.map (·.activeReporterCount)).sum ≤ panel.mappedReporterCount
  polarCell : ∀ cell ∈ panel.polarCells, 0 < cell.activeReporterCount ∧
    cell.heardReporterCount ≤ cell.activeReporterCount ∧
    (cell.state = .heard ↔ 0 < cell.heardReporterCount)

theorem state_eq_heard (count : CoverageCount) : count.state = .heard ↔ 0 < count.heard := by
  rw [CoverageCount.state, coverageState]
  split_ifs with h
  · simpa using h
  · simpa using h

theorem sum_cellsUnder {κ : Type} [LinearOrder κ] (entries : List (κ × ReportCoverageReporter)) :
    ((cellsUnder entries).map (·.2.active)).sum = entries.length ∧
      ((cellsUnder entries).map (·.2.heard)).sum = entries.countP (·.2.isHeard) := by
  have hactive := sum_groups entries fun _ => 1
  have hheard := sum_groups entries fun reporter => reporter.isHeard.toNat
  have hcount : ∀ reporters : List ReportCoverageReporter,
      (reporters.map fun reporter => reporter.isHeard.toNat).sum =
        reporters.countP (·.isHeard) := by
    intro reporters
    induction reporters with
    | nil => rfl
    | cons reporter reporters ih =>
      cases hheard : reporter.isHeard <;> simp [hheard, ih, Nat.add_comm]
  have hentries : (entries.map fun entry => entry.2.isHeard.toNat).sum =
      entries.countP (·.2.isHeard) := by
    have hmapped := hcount (entries.map (·.2))
    rw [List.map_map, List.countP_map] at hmapped
    exact hmapped
  rw [cellsUnder_eq, List.map_map, List.map_map]
  simp only [Function.comp_def, collectCoverage_active, collectCoverage_heard]
  constructor
  · simpa using hactive
  · rw [← hentries, ← hheard]
    simp only [hcount]

theorem mem_cellsUnder {κ : Type} [LinearOrder κ] {entries : List (κ × ReportCoverageReporter)}
    {cell : κ × CoverageCount} (h : cell ∈ cellsUnder entries) : 0 < cell.2.active ∧
      cell.2.active = (pushed cell.1 entries).length ∧
      cell.2.heard = (pushed cell.1 entries).countP (·.isHeard) := by
  rw [cellsUnder_eq] at h
  obtain ⟨⟨key, members⟩, hgroup, rfl⟩ := List.mem_map.1 h
  obtain ⟨hkey, rfl⟩ := mem_groups.1 hgroup
  obtain ⟨entry, hentry, rfl⟩ := List.mem_map.1 hkey
  dsimp only
  rw [collectCoverage_active, collectCoverage_heard]
  refine ⟨?_, rfl, rfl⟩
  exact List.length_pos_of_mem (mem_pushed.2 hentry)

/-- As many reporters heard the station as there are names among those that did. -/
theorem reporterEntries_heard (seen : List SeenReporter) :
    (reporterEntries seen).countP (·.2.heard) =
      ((seen.filter (·.heard)).map (·.name)).toFinset.card := by
  have hnodup := (sortedKeys_nodup (seen.map (·.name))).filter fun name =>
    (collectEntry (seen.filter fun reporter => decide (reporter.name = name))).heard
  rw [reporterEntries_eq, List.countP_map, List.countP_eq_length_filter]
  refine (List.toFinset_card_of_nodup hnodup).symm.trans ?_
  congr 1
  ext name
  simp only [List.mem_toFinset, List.mem_filter, List.mem_map, mem_sortedKeys, collectEntry_heard,
    List.any_eq_true, decide_eq_true_eq]
  constructor
  · rintro ⟨-, reporter, ⟨hmem, hname⟩, hheard⟩
    exact ⟨reporter, ⟨hmem, hheard⟩, hname⟩
  · rintro ⟨reporter, ⟨hmem, hheard⟩, hname⟩
    exact ⟨⟨reporter, hmem, hname⟩, reporter, ⟨hmem, hname⟩, hheard⟩

/-- The entries a map takes its reporters from, in the order of their names. -/
theorem mappedReporter_name {entry : String × ReporterEntry} {reporter : ReportCoverageReporter}
    (h : mappedReporter entry = some reporter) : reporter.reporter = entry.1 ∧
      entry.2.grid = some reporter.reporterGrid ∧ reporter.isHeard = entry.2.heard := by
  obtain ⟨grid, hgrid, rfl⟩ := Option.map_eq_some_iff.1 h
  obtain ⟨hsome, -⟩ := Option.filter_eq_some_iff.1 hgrid
  exact ⟨rfl, hsome, isHeard_coverageState _ _ _⟩

theorem mapped_ascending (seen : List SeenReporter) :
    (((reporterEntries seen).filterMap mappedReporter).map (·.reporter)).Pairwise (· < ·) := by
  rw [List.pairwise_map, List.pairwise_filterMap, reporterEntries_eq, List.pairwise_map]
  apply (sortedKeys_ascending _).imp
  intro name other hlt reporter hreporter twin htwin
  rw [(mappedReporter_name hreporter).1, (mappedReporter_name htwin).1]
  exact hlt

theorem mem_mapped {seen : List SeenReporter} {reporter : ReportCoverageReporter}
    (h : reporter ∈ (reporterEntries seen).filterMap mappedReporter) :
    (∃ entry ∈ seen, entry.name = reporter.reporter ∧
      entry.grid = some reporter.reporterGrid) ∧
    (reporter.isHeard = true ↔ ∃ entry ∈ seen,
      entry.name = reporter.reporter ∧ entry.heard = true) := by
  obtain ⟨entry, hentry, hmapped⟩ := List.mem_filterMap.1 h
  rw [reporterEntries_eq] at hentry
  obtain ⟨name, -, rfl⟩ := List.mem_map.1 hentry
  obtain ⟨hname, hgrid, hheard⟩ := mappedReporter_name hmapped
  constructor
  · obtain ⟨found, hfound, hfoundGrid⟩ := collectEntry_grid hgrid
    obtain ⟨hmem, hsame⟩ := List.mem_filter.1 hfound
    exact ⟨found, hmem, (of_decide_eq_true hsame).trans hname.symm, hfoundGrid⟩
  · rw [hheard, collectEntry_heard, List.any_eq_true, hname]
    constructor
    · rintro ⟨found, hfound, hfoundHeard⟩
      obtain ⟨hmem, hsame⟩ := List.mem_filter.1 hfound
      exact ⟨found, hmem, of_decide_eq_true hsame, hfoundHeard⟩
    · rintro ⟨found, hmem, hsame, hfoundHeard⟩
      exact ⟨found, List.mem_filter.2 ⟨hmem, decide_eq_true hsame⟩, hfoundHeard⟩

theorem pushed_underLocator (locator : String) (reporters : List ReportCoverageReporter) :
    pushed locator (underLocator reporters) = reporters.filter (·.locator = locator) := by
  simp [pushed, underLocator, List.filter_map, Function.comp_def]

/-- A panel that was built adds up. -/
theorem finishPanel_addsUp {greatCircle : GreatCircle} {station : Option GeographicCoordinates}
    {seen : List SeenReporter} {state : PanelState}
    (h : state.Maps greatCircle station (reporterEntries seen)) (side : ComparisonSide)
    (first : ReporterActivityCycleRate) (rates : List ReporterActivityCycleRate) :
    (finishPanel side first rates (reporterEntries seen) state).AddsUp seen := by
  have hle : state.mapped.length ≤ (reporterEntries seen).length := by
    rw [h.mapped]
    exact List.length_filterMap_le _ _
  have hlength : (reporterEntries seen).length = (seen.map (·.name)).toFinset.card := by
    rw [reporterEntries_eq, List.length_map, sortedKeys_length]
  obtain ⟨hcells, hcellsHeard⟩ := sum_cellsUnder (underLocator state.mapped)
  obtain ⟨hpolar, -⟩ := sum_cellsUnder (underPolarKey greatCircle station state.mapped)
  have hpushed := fun k => pushed_underLocator k state.mapped
  have hheardTotal := reporterEntries_heard seen
  have hmapped := h.mapped
  have hcellsEq := h.cells
  have hpolarEq := h.polar
  have hreporters := fun reporter => @mem_mapped seen reporter
  rw [← hmapped] at hreporters
  have hascending := mapped_ascending seen
  rw [← hmapped] at hascending
  generalize reporterEntries seen = entries at *
  constructor
  · exact hlength
  · exact hheardTotal
  · rfl
  · dsimp only [finishPanel]
    omega
  · exact hascending
  · exact hreporters
  · dsimp only [finishPanel]
    rw [List.map_map, hcellsEq]
    exact hcells.trans (List.length_map _)
  · dsimp only [finishPanel]
    rw [List.map_map, hcellsEq]
    apply hcellsHeard.trans
    rw [underLocator, List.countP_map]
    rfl
  · intro cell hcell
    obtain ⟨entry, hentry, rfl⟩ := List.mem_map.1 hcell
    rw [hcellsEq] at hentry
    obtain ⟨hpositive, hactive, hheard⟩ := mem_cellsUnder hentry
    rw [hpushed] at hactive hheard
    refine ⟨hpositive, ?_, hheard, state_eq_heard _⟩
    rw [List.countP_eq_length_filter]
    exact hactive
  · dsimp only [finishPanel]
    rw [List.map_map, hpolarEq]
    exact hpolar.trans_le (List.length_filterMap_le _ _)
  · intro cell hcell
    obtain ⟨entry, hentry, rfl⟩ := List.mem_map.1 hcell
    rw [hpolarEq] at hentry
    obtain ⟨hpositive, hactive, hheard⟩ := mem_cellsUnder hentry
    refine ⟨hpositive, ?_, state_eq_heard _⟩
    dsimp only
    rw [hactive, hheard]
    exact List.countP_le_length

/-- The antenna was on in cycles of the stratum, and the census of every such cycle is known. -/
structure ReporterActivityAnalysis.CensusKnown (activity : ReporterActivityAnalysis)
    (stratum : ComparisonStratum) (side : ComparisonSide) : Prop where
  used : activity.ratesOn stratum side ≠ []
  known : ∀ rate ∈ activity.ratesOn stratum side, rate.coverage.isKnown = true ∧
    rate.censusCycleIndex.isSome = true

/-- A panel is the loop over the reporters seen, where the census is known. -/
theorem buildPanel_cases {greatCircle : GreatCircle} {station : Option GeographicCoordinates}
    {activity : ReporterActivityAnalysis} (h : activity.IndexesCensus)
    (stratum : ComparisonStratum) (side : ComparisonSide) :
    (activity.CensusKnown stratum side ∧ ∃ first,
      buildPanel greatCircle station activity stratum side =
        ((reporterEntries (activity.seenOn stratum side)).foldlM
          (PanelState.addReporter greatCircle station) {}).map
            (finishPanel side first (activity.ratesOn stratum side)
              (reporterEntries (activity.seenOn stratum side)))) ∨
    (¬activity.CensusKnown stratum side ∧
      buildPanel greatCircle station activity stratum side = .error .absent) := by
  unfold buildPanel
  dsimp only
  cases hfirst : (activity.ratesOn stratum side).head? with
  | none => exact .inr ⟨fun hknown => hknown.used (List.head?_eq_none_iff.1 hfirst), rfl⟩
  | some first =>
    dsimp only
    by_cases hskip : ((activity.ratesOn stratum side).any fun rate =>
        !rate.coverage.isKnown || rate.censusCycleIndex.isNone) = true
    · rw [if_pos hskip]
      refine .inr ⟨fun hknown => ?_, rfl⟩
      obtain ⟨rate, hrate, hunknown⟩ := List.any_eq_true.1 hskip
      obtain ⟨hcoverage, hindex⟩ := hknown.known rate hrate
      simp [hcoverage, Option.isNone_iff_eq_none, Option.ne_none_iff_isSome.2 hindex] at hunknown
    · rw [if_neg hskip]
      have hknown : ∀ rate ∈ activity.ratesOn stratum side, rate.coverage.isKnown = true ∧
          rate.censusCycleIndex.isSome = true := by
        simpa [List.any_eq_true, Option.isSome_iff_ne_none] using hskip
      have hrates : ∀ rate ∈ activity.ratesOn stratum side, rate ∈ activity.cycleRates :=
        fun rate hrate => List.mem_of_mem_filter hrate
      obtain ⟨seen, hseen, hflat⟩ :=
        mapM_seenReporters h hrates fun rate hrate => (hknown rate hrate).2
      have hseenOn : seen.flatten = activity.seenOn stratum side := hflat
      refine .inl ⟨⟨fun hnil => ?_, hknown⟩, first, ?_⟩
      · rw [hnil] at hfirst
        cases hfirst
      · rw [hseen, ok_bind, hseenOn]
        rfl

/-- The panel of an antenna adds up. -/
theorem buildPanel_addsUp {greatCircle : GreatCircle} {station : Option GeographicCoordinates}
    {activity : ReporterActivityAnalysis} (h : activity.IndexesCensus)
    {stratum : ComparisonStratum} {side : ComparisonSide} {panel : ReportCoveragePanel}
    (hpanel : buildPanel greatCircle station activity stratum side = .ok panel) :
    panel.side = side ∧ panel.AddsUp (activity.seenOn stratum side) := by
  rcases @buildPanel_cases greatCircle station activity h stratum side with
    ⟨-, first, hbuilt⟩ | ⟨-, hbuilt⟩
  · rw [hbuilt] at hpanel
    cases hloop : (reporterEntries (activity.seenOn stratum side)).foldlM
      (PanelState.addReporter greatCircle station) {} with
    | error e =>
      rw [hloop] at hpanel
      cases hpanel
    | ok state =>
      rw [hloop] at hpanel
      obtain rfl := Except.ok.inj hpanel
      have hempty : ({} : PanelState).Maps greatCircle station [] := ⟨rfl, rfl, rfl⟩
      have hmaps := foldlM_ok
        (fun _ _ _ _ hstate hstep => addReporter_maps hstate hstep) hempty hloop
      exact ⟨rfl, finishPanel_addsUp hmaps side first _⟩
  · rw [hbuilt] at hpanel
    cases hpanel

theorem buildPanel_not_panicked {greatCircle : GreatCircle}
    {station : Option GeographicCoordinates} {activity : ReporterActivityAnalysis}
    (h : activity.IndexesCensus) (stratum : ComparisonStratum) (side : ComparisonSide) :
    buildPanel greatCircle station activity stratum side ≠ .error .panicked := by
  intro hpanicked
  rcases @buildPanel_cases greatCircle station activity h stratum side with
    ⟨-, first, hbuilt⟩ | ⟨-, hbuilt⟩
  · rw [hbuilt] at hpanicked
    cases hloop : (reporterEntries (activity.seenOn stratum side)).foldlM
      (PanelState.addReporter greatCircle station) {} with
    | error e =>
      rw [hloop] at hpanicked
      obtain rfl := Except.error.inj hpanicked
      obtain ⟨state, reporter, -, hstep⟩ := foldlM_error hloop
      cases addReporter_not_panicked hstep
    | ok state =>
      rw [hloop] at hpanicked
      cases hpanicked
  · rw [hbuilt] at hpanicked
    cases hpanicked

/-- The antenna has a panel: its census is known, and the distances on the map have bins. -/
structure ReporterActivityAnalysis.HasPanel (activity : ReporterActivityAnalysis)
    (greatCircle : GreatCircle) (station : Option GeographicCoordinates)
    (stratum : ComparisonStratum) (side : ComparisonSide) : Prop where
  census : activity.CensusKnown stratum side
  bins : ∀ entry ∈ reporterEntries (activity.seenOn stratum side), ∀ reporter,
    mappedReporter entry = some reporter → reporter.HasBin greatCircle station

theorem buildPanel_isOk {greatCircle : GreatCircle} {station : Option GeographicCoordinates}
    {activity : ReporterActivityAnalysis} (h : activity.IndexesCensus)
    (stratum : ComparisonStratum) (side : ComparisonSide) :
    (∃ panel, buildPanel greatCircle station activity stratum side = .ok panel) ↔
      activity.HasPanel greatCircle station stratum side := by
  rcases @buildPanel_cases greatCircle station activity h stratum side with
    ⟨hknown, first, hbuilt⟩ | ⟨hunknown, hbuilt⟩
  · have hloop := @foldlM_isOk_iff _ _ _ (PanelState.addReporter greatCircle station) _
      addReporter_isOk (reporterEntries (activity.seenOn stratum side)) {}
    rw [hbuilt]
    constructor
    · rintro ⟨panel, hpanel⟩
      refine ⟨hknown, hloop.1 ?_⟩
      cases hstate : (reporterEntries (activity.seenOn stratum side)).foldlM
        (PanelState.addReporter greatCircle station) {} with
      | error e =>
        rw [hstate] at hpanel
        cases hpanel
      | ok state => exact ⟨state, rfl⟩
    · rintro ⟨-, hbins⟩
      obtain ⟨state, hstate⟩ := hloop.2 hbins
      rw [hstate]
      exact ⟨_, rfl⟩
  · rw [hbuilt]
    exact ⟨nofun, fun hpanel => absurd hpanel.census hunknown⟩

/-- A stratum is on the map exactly when it is one of transmissions and both antennas have a
panel; every group shows both antennas, and its panels add up. -/
structure CoverageMapsCount (greatCircle : GreatCircle) (station : Option GeographicCoordinates)
    (maps : List ReportCoverageMapGroup) (activity : ReporterActivityAnalysis) : Prop where
  strata : (maps.map (·.stratum)).Nodup
  shown : ∀ stratum, (∃ group ∈ maps, group.stratum = stratum) ↔
    stratum.direction = .transmit ∧
      ∀ side, activity.HasPanel greatCircle station stratum side
  panels : ∀ group ∈ maps, ∃ left right, group.panels = [left, right] ∧
    left.side = .left ∧ left.AddsUp (activity.seenOn group.stratum .left) ∧
    right.side = .right ∧ right.AddsUp (activity.seenOn group.stratum .right)

section

variable {greatCircle : GreatCircle} {station : Option GeographicCoordinates}
  {activity : ReporterActivityAnalysis}

theorem panel?_spec (h : activity.IndexesCensus) (stratum : ComparisonStratum)
    (side : ComparisonSide) :
    ∃ result, panel? greatCircle station activity stratum side = some result ∧
      (result.isSome = true ↔ activity.HasPanel greatCircle station stratum side) ∧
      ∀ panel, result = some panel →
        panel.side = side ∧ panel.AddsUp (activity.seenOn stratum side) := by
  have hok := @buildPanel_isOk greatCircle station activity h stratum side
  unfold panel?
  cases hbuilt : buildPanel greatCircle station activity stratum side with
  | ok panel =>
    refine ⟨some panel, rfl, ⟨fun _ => hok.1 ⟨panel, hbuilt⟩, fun _ => rfl⟩, ?_⟩
    intro found hfound
    obtain rfl := Option.some.inj hfound
    exact buildPanel_addsUp h hbuilt
  | error e =>
    cases e with
    | panicked => exact absurd hbuilt (buildPanel_not_panicked h stratum side)
    | absent =>
      refine ⟨none, rfl, ⟨nofun, fun hpanel => ?_⟩, nofun⟩
      obtain ⟨panel, hpanel⟩ := hok.2 hpanel
      rw [hbuilt] at hpanel
      cases hpanel

theorem coverageMapGroup_spec (h : activity.IndexesCensus) (stratum : ComparisonStratum) :
    ∃ result, coverageMapGroup greatCircle station activity stratum = some result ∧
      (result.isSome = true ↔ ∀ side, activity.HasPanel greatCircle station stratum side) ∧
      ∀ group, result = some group → group.stratum = stratum ∧
        ∃ left right, group.panels = [left, right] ∧
          left.side = .left ∧ left.AddsUp (activity.seenOn stratum .left) ∧
          right.side = .right ∧ right.AddsUp (activity.seenOn stratum .right) := by
  obtain ⟨left, hleft, hleftIff, hleftPanel⟩ :=
    @panel?_spec greatCircle station activity h stratum .left
  obtain ⟨right, hright, hrightIff, hrightPanel⟩ :=
    @panel?_spec greatCircle station activity h stratum .right
  unfold coverageMapGroup
  simp only [List.mapM_cons, List.mapM_nil, hleft, hright, Option.bind_eq_bind, Option.bind_some,
    Option.pure_def]
  have hboth : (∀ side, activity.HasPanel greatCircle station stratum side) ↔
      left.isSome = true ∧ right.isSome = true := by
    rw [hleftIff, hrightIff]
    exact ⟨fun hall => ⟨hall .left, hall .right⟩, fun hall side => by
      cases side
      · exact hall.1
      · exact hall.2⟩
  refine ⟨_, rfl, ?_, ?_⟩
  · rw [hboth]
    cases left <;> cases right <;> simp [List.reduceOption]
  · intro group hgroup
    cases left with
    | none =>
      cases right <;> cases hgroup
    | some leftPanel =>
      cases right with
      | none => cases hgroup
      | some rightPanel =>
        obtain rfl := Option.some.inj hgroup
        exact ⟨rfl, leftPanel, rightPanel, rfl, (hleftPanel leftPanel rfl).1,
          (hleftPanel leftPanel rfl).2, hrightPanel rightPanel rfl⟩

/-- The groups of some strata: those of the strata whose antennas have their panels. -/
theorem mapM_groups (h : activity.IndexesCensus) (strata : List ComparisonStratum) :
    ∃ groups, strata.mapM (coverageMapGroup greatCircle station activity) = some groups ∧
      (groups.reduceOption.map (·.stratum)).Sublist strata ∧
      (∀ stratum ∈ strata, (∀ side, activity.HasPanel greatCircle station stratum side) →
        ∃ group ∈ groups.reduceOption, group.stratum = stratum) ∧
      ∀ group ∈ groups.reduceOption,
        (∀ side, activity.HasPanel greatCircle station group.stratum side) ∧
        ∃ left right, group.panels = [left, right] ∧
          left.side = .left ∧ left.AddsUp (activity.seenOn group.stratum .left) ∧
          right.side = .right ∧ right.AddsUp (activity.seenOn group.stratum .right) := by
  induction strata with
  | nil => exact ⟨[], rfl, List.Sublist.refl [], nofun, nofun⟩
  | cons stratum strata ih =>
    obtain ⟨groups, hgroups, hsublist, hshown, hpanels⟩ := ih
    obtain ⟨result, hresult, hiff, hgroup⟩ :=
      @coverageMapGroup_spec greatCircle station activity h stratum
    refine ⟨result :: groups, by simp [List.mapM_cons, hresult, hgroups], ?_⟩
    cases result with
    | none =>
      refine ⟨hsublist.cons stratum, ?_, hpanels⟩
      intro other hother hall
      rcases List.mem_cons.1 hother with rfl | hrest
      · cases hiff.2 hall
      · exact hshown other hrest hall
    | some group =>
      obtain ⟨rfl, hboth⟩ := hgroup group rfl
      rw [List.reduceOption_cons_of_some]
      refine ⟨hsublist.cons_cons group.stratum, ?_, ?_⟩
      · intro other hother hall
        rcases List.mem_cons.1 hother with rfl | hrest
        · exact ⟨group, List.mem_cons_self, rfl⟩
        · obtain ⟨found, hfound, heq⟩ := hshown other hrest hall
          exact ⟨found, List.mem_cons_of_mem _ hfound, heq⟩
      · intro other hother
        rcases List.mem_cons.1 hother with rfl | hrest
        · exact ⟨hiff.1 rfl, hboth⟩
        · exact hpanels other hrest

/-- The strata of the maps are those of transmissions that some rate is of. -/
theorem mem_coverageStrata {stratum : ComparisonStratum} :
    stratum ∈ coverageStrata activity ↔
      stratum.direction = .transmit ∧ ∃ rate ∈ activity.cycleRates, rate.stratum = stratum := by
  rw [coverageStrata, mem_firstOccurrences, List.mem_map]
  constructor
  · rintro ⟨rate, hrate, rfl⟩
    obtain ⟨hmem, hdirection⟩ := List.mem_filter.1 hrate
    exact ⟨by simpa using hdirection, rate, hmem, rfl⟩
  · rintro ⟨hdirection, rate, hmem, rfl⟩
    exact ⟨rate, List.mem_filter.2 ⟨hmem, by simpa using hdirection⟩, rfl⟩

theorem ReporterActivityAnalysis.CensusKnown.rate {stratum : ComparisonStratum}
    {side : ComparisonSide} (h : activity.CensusKnown stratum side) :
    ∃ rate ∈ activity.cycleRates, rate.stratum = stratum := by
  obtain ⟨rate, hrate⟩ := List.exists_mem_of_ne_nil _ h.used
  obtain ⟨hmem, hstratum⟩ := List.mem_filter.1 hrate
  simp only [Bool.and_eq_true, decide_eq_true_eq] at hstratum
  exact ⟨rate, hmem, hstratum.1⟩

end

/-- The coverage maps of an analysis are built without a panic, one for every stratum whose
antennas have their panels, and their panels count the reporters of the census. -/
theorem buildCoverageMaps_count {env : CensusEnv} {inputs : ActivityInputs}
    {records : List AdapterRecordV2} {activity : ReporterActivityAnalysis}
    (h : analyzeReporterActivity env inputs records = .ok activity) (greatCircle : GreatCircle)
    (stationGrid : String) :
    ∃ maps, buildCoverageMaps greatCircle stationGrid activity = some maps ∧
      CoverageMapsCount greatCircle (stationCoordinatesFromGrid stationGrid) maps activity := by
  obtain ⟨groups, hgroups, hsublist, hshown, hpanels⟩ :=
    @mapM_groups greatCircle (stationCoordinatesFromGrid stationGrid) activity
      (analyze_indexesCensus h) (coverageStrata activity)
  refine ⟨groups.reduceOption, ?_, ?_, ?_, ?_⟩
  · rw [buildCoverageMaps, hgroups]
    rfl
  · exact hsublist.nodup (firstOccurrences_nodup _)
  · intro stratum
    constructor
    · rintro ⟨group, hgroup, rfl⟩
      have hmem := hsublist.mem (List.mem_map.2 ⟨group, hgroup, rfl⟩)
      exact ⟨(mem_coverageStrata.1 hmem).1, (hpanels group hgroup).1⟩
    · rintro ⟨hdirection, hall⟩
      exact hshown stratum (mem_coverageStrata.2 ⟨hdirection, (hall .left).census.rate⟩) hall
  · exact fun group hgroup => (hpanels group hgroup).2

namespace Scenario

/-- How many reporters the panels count as active, as heard and on the map. -/
def panelCounts (maps : List ReportCoverageMapGroup) : List (List (ℕ × ℕ × ℕ)) :=
  maps.map fun group => group.panels.map fun panel =>
    (panel.activeReporterCount, panel.heardReporterCount, panel.mappedReporterCount)

theorem censusRecords_panels :
    ((analyzeReporterActivity censusEnv signalInputs censusRecords).toOption.bind
      (buildCoverageMaps eastward "FN42")).map panelCounts = some [[(2, 1, 2), (2, 1, 2)]] := by
  decide +kernel

theorem censusRecords_coverage :
    ∃ activity, analyzeReporterActivity censusEnv signalInputs censusRecords = .ok activity ∧
      ∃ maps, buildCoverageMaps eastward "FN42" activity = some maps ∧ maps.length = 1 ∧
        CoverageMapsCount eastward (stationCoordinatesFromGrid "FN42") maps activity := by
  obtain ⟨built, hbuilt, hcounts⟩ := Option.map_eq_some_iff.1 censusRecords_panels
  obtain ⟨activity, hactivity, hmaps⟩ := Option.bind_eq_some_iff.1 hbuilt
  have hok : analyzeReporterActivity censusEnv signalInputs censusRecords = .ok activity := by
    cases hrun : analyzeReporterActivity censusEnv signalInputs censusRecords with
    | error e =>
      rw [hrun] at hactivity
      cases hactivity
    | ok found =>
      rw [hrun] at hactivity
      rw [Option.some.inj hactivity]
  obtain ⟨maps, hsome, hcount⟩ := buildCoverageMaps_count hok eastward "FN42"
  obtain rfl := Option.some.inj (hmaps.symm.trans hsome)
  have hlength := congrArg List.length hcounts
  rw [panelCounts, List.length_map] at hlength
  exact ⟨activity, hok, _, hmaps, hlength, hcount⟩

end Scenario

end AntennaBench
