import AntennaBench.Analysis.PathProfiles

/-!
# Path summaries

What a report may rely on in the paired rows of a comparison: every path summary counts the
rows of its path, of which there is one at least, and every stratum counts the rows and the
paths that belong to it.
-/

namespace AntennaBench

open Timeline

structure PairedComparisonAnalysis.PathsSummarized (comparison : PairedComparisonAnalysis) :
    Prop where
  paths : ∀ path ∈ comparison.pathSummaries, 0 < path.pairedRowCount ∧
    path.pairedRowCount = (comparison.pairedRows.filter fun row =>
      row.stratum = path.stratum ∧ row.remotePath = path.remotePath).length
  rows : ∀ stratum, ((comparison.pathSummaries.filter (·.stratum = stratum)).map
    (·.pairedRowCount)).sum = (comparison.pairedRows.filter (·.stratum = stratum)).length
  strata : ∀ summary ∈ comparison.strata,
    summary.pairedRowCount =
        (comparison.pairedRows.filter (·.stratum = summary.stratum)).length ∧
      summary.uniquePathCount =
        (comparison.pathSummaries.filter (·.stratum = summary.stratum)).length

theorem stratumKey_injective : Function.Injective stratumKey := by
  rintro ⟨direction, band, ⟨mode⟩, kind, source⟩ ⟨direction', band', ⟨mode'⟩, kind', source'⟩ h
  simp only [stratumKey, toLex_inj, Prod.mk.injEq] at h
  obtain ⟨hdirection, hband, rfl, hkind, hsource⟩ := h
  have hd : direction = direction' := by
    revert hdirection
    cases direction <;> cases direction' <;> simp [PathDirection.ctorIdx]
  have hb : bands[band.ctorIdx]?.getD .m2 = band := by cases band <;> rfl
  have hb' : bands[band'.ctorIdx]?.getD .m2 = band' := by cases band' <;> rfl
  have hk : kind = kind' := by
    revert hkind
    cases kind <;> cases kind' <;> simp [ObservationKind.ctorIdx]
  have hs : recordSources[source.ctorIdx]?.getD .derived = source := by cases source <;> rfl
  have hs' : recordSources[source'.ctorIdx]?.getD .derived = source' := by cases source' <;> rfl
  rw [hd, ← hb, hband, hb', hk, ← hs, hsource, hs']

theorem mapM_filter_map {α β γ : Type} {f : α → Option β} {items : List α} {results : List β}
    (h : items.mapM f = some results) {p : β → Bool} {q : α → Bool} {value : β → γ}
    {value' : α → γ}
    (hpq : ∀ a ∈ items, ∀ b, f a = some b → p b = q a ∧ value b = value' a) :
    (results.filter p).map value = (items.filter q).map value' := by
  induction items generalizing results with
  | nil =>
    obtain rfl : results = [] := by simpa using h.symm
    rfl
  | cons a items ih =>
    simp only [List.mapM_cons, Option.bind_eq_bind, Option.bind_eq_some_iff] at h
    obtain ⟨head, hhead, rest, hrest, h⟩ := h
    obtain rfl := Option.some.inj h
    obtain ⟨hp, hvalue⟩ := hpq a List.mem_cons_self head hhead
    have htail := ih hrest fun b hb => hpq b (List.mem_cons_of_mem a hb)
    rw [List.filter_cons, List.filter_cons, hp]
    split_ifs
    · rw [List.map_cons, List.map_cons, htail, hvalue]
    · exact htail

/-- The key of the path of a row. -/
def PairedObservationRow.pathKey (row : PairedObservationRow) : PathKey :=
  toLex (stratumKey row.stratum, row.remotePath)

/-- The strata of the rows are read back from their keys. -/
def StrataRead (rows : List PairedObservationRow) : Prop :=
  ∀ row ∈ rows, stratumFromKey (stratumKey row.stratum) = some row.stratum

section

variable {rows : List PairedObservationRow} {paths : List PairedPathSummary}

theorem groups_pathKey (rows : List PairedObservationRow) :
    groups (rows.map fun row => (row.pathKey, row.deltaRightMinusLeftDb)) =
      (Timeline.sortedKeys (rows.map (·.pathKey))).map fun key =>
        (key, (rows.filter (·.pathKey = key)).map (·.deltaRightMinusLeftDb)) := by
  rw [groups, List.map_map]
  apply List.map_congr_left
  intro key _
  rw [pushed, List.filter_map, List.map_map]
  rfl

theorem pathKey_eq_iff {row other : PairedObservationRow} :
    row.pathKey = other.pathKey ↔
      row.stratum = other.stratum ∧ row.remotePath = other.remotePath := by
  rw [PairedObservationRow.pathKey, PairedObservationRow.pathKey, toLex_inj, Prod.mk.injEq,
    stratumKey_injective.eq_iff]

/-- The summary of a group of rows; nothing stands for a panic. -/
def groupSummary (group : PathKey × List IeeeFloat) : Option PairedPathSummary :=
  (stratumFromKey (ofLex group.1).1).map fun stratum =>
    ⟨stratum, (ofLex group.1).2, group.2.length, median (sortTotal group.2)⟩

theorem buildPathSummaries_eq (rows : List PairedObservationRow) :
    buildPathSummaries rows = ((Timeline.sortedKeys (rows.map (·.pathKey))).map fun key =>
      (key, (rows.filter (·.pathKey = key)).map (·.deltaRightMinusLeftDb))).mapM groupSummary := by
  rw [← groups_pathKey]
  rfl

theorem groupSummary_spec {row : PairedObservationRow}
    (hread : stratumFromKey (stratumKey row.stratum) = some row.stratum) {deltas : List IeeeFloat}
    {path : PairedPathSummary} (h : groupSummary (row.pathKey, deltas) = some path) :
    path.stratum = row.stratum ∧ path.remotePath = row.remotePath ∧
      path.pairedRowCount = deltas.length := by
  obtain ⟨stratum, hstratum, rfl⟩ := Option.map_eq_some_iff.1 h
  have hfound : stratumFromKey (stratumKey row.stratum) = some stratum := hstratum
  rw [hread] at hfound
  exact ⟨(Option.some.inj hfound).symm, rfl, rfl⟩

/-- What a path summary is made of. -/
theorem mem_pathSummaries (hrows : StrataRead rows) (h : buildPathSummaries rows = some paths)
    {path : PairedPathSummary} (hpath : path ∈ paths) :
    0 < path.pairedRowCount ∧ path.pairedRowCount = (rows.filter fun row =>
      row.stratum = path.stratum ∧ row.remotePath = path.remotePath).length := by
  rw [buildPathSummaries_eq] at h
  obtain ⟨group, hgroup, hbuilt⟩ := forall₂_exists_left (mapM_eq_some.1 h) _ hpath
  obtain ⟨key, hkey, rfl⟩ := List.mem_map.1 hgroup
  obtain ⟨row, hrow, rfl⟩ := List.mem_map.1 (mem_sortedKeys.1 hkey)
  obtain ⟨hstratum, hremote, hcount⟩ := groupSummary_spec (hrows row hrow) hbuilt
  have hsame : rows.filter (fun other => decide (other.pathKey = row.pathKey)) =
      rows.filter fun other =>
        decide (other.stratum = path.stratum ∧ other.remotePath = path.remotePath) := by
    apply List.filter_congr
    intro other _
    rw [decide_eq_decide, hstratum, hremote]
    exact pathKey_eq_iff
  rw [List.length_map, hsame] at hcount
  rw [hcount]
  constructor
  · exact List.length_pos_of_mem (List.mem_filter.2 ⟨hrow, by simp [hstratum, hremote]⟩)
  · rfl

/-- The paths of a stratum have all of its rows. -/
theorem pathSummaries_rows (hrows : StrataRead rows) (h : buildPathSummaries rows = some paths)
    (stratum : ComparisonStratum) :
    ((paths.filter (·.stratum = stratum)).map (·.pairedRowCount)).sum =
      (rows.filter (·.stratum = stratum)).length := by
  rw [buildPathSummaries_eq] at h
  have hgroups : ∀ group ∈ (Timeline.sortedKeys (rows.map (·.pathKey))).map (fun key =>
      (key, (rows.filter (·.pathKey = key)).map (·.deltaRightMinusLeftDb))),
        ∀ path : PairedPathSummary, groupSummary group = some path →
          decide (path.stratum = stratum) = decide ((ofLex group.1).1 = stratumKey stratum) ∧
            path.pairedRowCount = group.2.length := by
    intro group hgroup path hbuilt
    obtain ⟨key, hkey, rfl⟩ := List.mem_map.1 hgroup
    obtain ⟨row, hrow, rfl⟩ := List.mem_map.1 (mem_sortedKeys.1 hkey)
    obtain ⟨hstratum, -, hcount⟩ := groupSummary_spec (hrows row hrow) hbuilt
    constructor
    · rw [hstratum, decide_eq_decide]
      exact stratumKey_injective.eq_iff.symm
    · exact hcount
  have hsums := @sum_subclasses PairedObservationRow PathKey StratumKey _ _
    (Timeline.sortedKeys (rows.map (·.pathKey))) (sortedKeys_nodup _) (·.pathKey) rows
    (fun row hrow => mem_sortedKeys.2 (List.mem_map_of_mem hrow)) (fun key => (ofLex key).1)
    (stratumKey stratum) fun _ => 1
  simp only [List.map_const', List.sum_replicate_nat, Nat.mul_one] at hsums
  rw [mapM_filter_map h hgroups, List.filter_map, List.map_map]
  simp only [Function.comp_def, List.length_map]
  rw [hsums]
  congr 1
  apply List.filter_congr
  intro row _
  rw [decide_eq_decide]
  exact stratumKey_injective.eq_iff

end

section

variable {plan : ComparisonPlan} {observations : List ClassifiedObservation}
  {outcomes : List PairOutcome}

theorem pairedRows_read (h : plan.outcomes observations = some outcomes) :
    StrataRead (pairedRows outcomes) := by
  intro row hrow
  obtain ⟨outcome, houtcome, hfound⟩ := List.mem_filterMap.1 (mem_sortOn.1 hrow)
  obtain ⟨stratum, -, hstratum, hrows⟩ := outcome_stratum h houtcome
  rw [hrows row hfound]
  exact hstratum

/-- The rows of a stratum are those of its outcomes. -/
theorem stratum_rows (h : plan.outcomes observations = some outcomes)
    (stratum : ComparisonStratum) :
    ((pairedRows outcomes).filter (·.stratum = stratum)).length =
      ((outcomes.filter (·.key = stratumKey stratum)).filterMap (·.row)).length := by
  have hperm : (pairedRows outcomes).Perm (outcomes.filterMap (·.row)) := sortOn_perm _ _
  rw [(hperm.filter _).length_eq, List.filter_filterMap, List.filterMap_filter]
  congr 1
  apply List.filterMap_congr
  intro outcome houtcome
  obtain ⟨found, hkey, -, hrows⟩ := outcome_stratum h houtcome
  cases hrow : outcome.row with
  | none => simp
  | some row =>
    have hiff : row.stratum = stratum ↔ outcome.key = stratumKey stratum := by
      rw [hrows row hrow, hkey, stratumKey_injective.eq_iff]
    by_cases hsame : row.stratum = stratum
    · simp [hsame, hiff.1 hsame]
    · simp [hsame, mt hiff.2 hsame]

theorem stratumSummary_counts (h : plan.outcomes observations = some outcomes)
    {paths : List PairedPathSummary} {excluded : List StratumKey} {stratum : ComparisonStratum}
    (hread : stratumFromKey (stratumKey stratum) = some stratum) {summary : PairedStratumSummary}
    (hsummary : stratumSummary outcomes paths excluded (stratumKey stratum) = some summary) :
    summary.stratum = stratum ∧
      summary.pairedRowCount =
        ((pairedRows outcomes).filter (·.stratum = stratum)).length ∧
      summary.uniquePathCount = (paths.filter (·.stratum = stratum)).length := by
  obtain ⟨found, hfound, rfl⟩ := Option.map_eq_some_iff.1 hsummary
  rw [hread] at hfound
  obtain rfl := Option.some.inj hfound
  refine ⟨rfl, ?_, ?_⟩
  · rw [stratum_rows h]
    exact (sortOn_perm _ _).length_eq.trans (List.length_map _)
  · dsimp only
    rw [sortTotal, (sortOn_perm _ _).length_eq, List.length_map]
    congr 1
    apply List.filter_congr
    intro path _
    rw [decide_eq_decide]
    exact stratumKey_injective.eq_iff

theorem excludedStrata_read {key : StratumKey} (h : key ∈ plan.excludedStrata observations) :
    ∃ stratum, stratumKey stratum = key ∧
      stratumFromKey (stratumKey stratum) = some stratum := by
  obtain ⟨classified, -, hkey⟩ := List.mem_filterMap.1 h
  obtain ⟨⟨stratum, remotePath⟩, hstratum, rfl⟩ := Option.map_eq_some_iff.1 hkey
  simp only [observationStratum, Option.bind_eq_bind, Option.bind_eq_some_iff] at hstratum
  obtain ⟨⟨direction, path⟩, -, mode, ⟨value, -, hvalue⟩, heq⟩ := hstratum
  obtain ⟨rfl, rfl⟩ := Prod.mk.inj (Option.some.inj heq)
  exact ⟨_, rfl, stratumFromKey_stratumKey hvalue⟩

theorem analysis_pathsSummarized (h : plan.outcomes observations = some outcomes)
    {comparison : PairedComparisonAnalysis}
    (hanalysis : plan.analysis observations outcomes = some comparison) :
    comparison.PathsSummarized := by
  simp only [ComparisonPlan.analysis, Option.bind_eq_bind, Option.bind_eq_some_iff] at hanalysis
  obtain ⟨overlap, -, paths, hpaths, profiles, -, strata, hstrata, hanalysis⟩ := hanalysis
  obtain rfl := Option.some.inj hanalysis
  have hread := pairedRows_read h
  constructor
  · intro path hpath
    exact mem_pathSummaries hread hpaths hpath
  · exact pathSummaries_rows hread hpaths
  · intro summary hsummary
    obtain ⟨key, hkey, hfound⟩ := forall₂_exists_left (mapM_eq_some.1 hstrata) _ hsummary
    have hstratum : ∃ stratum, stratumKey stratum = key ∧
        stratumFromKey (stratumKey stratum) = some stratum := by
      rcases List.mem_append.1 (mem_sortedKeys.1 hkey) with hmem | hmem
      · obtain ⟨outcome, houtcome, rfl⟩ := List.mem_map.1 hmem
        obtain ⟨stratum, houtcomeKey, hread, -⟩ := outcome_stratum h houtcome
        exact ⟨stratum, houtcomeKey.symm, hread⟩
      · exact excludedStrata_read hmem
    obtain ⟨stratum, rfl, hreads⟩ := hstratum
    obtain ⟨rfl, hcounts⟩ := stratumSummary_counts h hreads hfound
    exact hcounts

end

/-- The paths and strata of a comparison summarize its rows. -/
theorem analyzePairedComparison_paths {callsign : String} {schedule : Schedule}
    {slots : List AlignedSlot} {observations : List ClassifiedObservation}
    {comparison : PairedComparisonAnalysis}
    (h : analyzePairedComparison callsign schedule slots observations = some comparison) :
    comparison.PathsSummarized := by
  cases hplan : comparisonPlan? callsign schedule slots with
  | none =>
    obtain ⟨availability, hnone⟩ := analyzePairedComparison_unplanned hplan observations
    rw [hnone] at h
    obtain rfl := Option.some.inj h
    constructor
    · intro path hpath
      cases hpath
    · intro stratum
      rfl
    · intro summary hsummary
      cases hsummary
  | some plan =>
    rw [analyzePairedComparison_planned hplan] at h
    obtain ⟨outcomes, houtcomes, h⟩ := Option.bind_eq_some_iff.1 h
    exact analysis_pathsSummarized houtcomes h

end AntennaBench
