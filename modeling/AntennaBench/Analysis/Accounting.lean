import AntennaBench.Analysis.LoopsAgree
import AntennaBench.Analysis.StratumKeys
import AntennaBench.Analysis.Summary

/-!
# Evidence accounting

No observation is lost between the bundle and its summary, and none is counted twice:
the evidence counts of every level add up, and so do the groups, the overlap rows, the
paths, the strata and the diagnostics of the comparison.
-/

namespace AntennaBench

open Timeline

/-- Every observation is usable or excluded, and every excluded one counts for one reason. -/
structure EvidenceSummary.Balanced (evidence : EvidenceSummary) : Prop where
  total : evidence.observationCounts.total =
    evidence.observationCounts.usable + evidence.observationCounts.excluded
  excluded : evidence.observationCounts.excluded = (evidence.exclusions.map (·.count)).sum

/-- What counts for nothing may be left out of a sum. -/
theorem sum_filter {α : Type} {p : α → Bool} {count : α → ℕ} {items : List α}
    (h : ∀ a, p a = false → count a = 0) :
    ((items.filter p).map count).sum = (items.map count).sum := by
  induction items with
  | nil => rfl
  | cons a items ih =>
    cases hp : p a with
    | true => simp [hp, ih]
    | false => simp [hp, ih, h a hp]

/-- The reason an observation is excluded for. -/
def ObservationDisposition.reason? : ObservationDisposition → Option ObservationExclusionReason
  | usable => none
  | excluded reason => some reason

theorem isUsable_eq (classified : ClassifiedObservation) :
    classified.isUsable = classified.disposition.reason?.isNone := by
  unfold ClassifiedObservation.isUsable ObservationDisposition.reason?
  cases classified.disposition <;> simp

/-- The reasons partition the excluded observations. -/
theorem sum_exclusions (observations : List ClassifiedObservation) :
    (exclusionReasons.map fun reason =>
        observations.countP (·.disposition = .excluded reason)).sum =
      observations.countP (!·.isUsable) := by
  have hmem : ∀ reason ∈ observations.filterMap (·.disposition.reason?),
      id reason ∈ exclusionReasons := by
    intro reason _
    cases reason <;> decide
  have hnodup : exclusionReasons.Nodup := by decide
  have hsum := sum_class_lengths hnodup hmem
  have hcount : ∀ reason, ((observations.filterMap (·.disposition.reason?)).filter
      (id · = reason)).length = observations.countP (·.disposition = .excluded reason) := by
    intro reason
    rw [List.filter_filterMap, List.length_filterMap_eq_countP]
    apply List.countP_congr
    intro classified _
    cases hdisposition : classified.disposition <;>
      simp [ObservationDisposition.reason?, Option.filter]
  simp only [hcount] at hsum
  rw [hsum, List.length_filterMap_eq_countP]
  apply List.countP_congr
  intro classified _
  rw [isUsable_eq]
  cases classified.disposition.reason? <;> simp

theorem evidence_balanced (observations : List ClassifiedObservation) :
    (evidence observations).Balanced where
  total := by
    have hle : observations.countP (·.isUsable) ≤ observations.length := List.countP_le_length
    simp only [evidence, EvidenceAggregate.finish, aggregate]
    omega
  excluded := by
    have hsplit := List.length_eq_countP_add_countP (·.isUsable) (l := observations)
    have hreasons : ((evidence observations).exclusions.map (·.count)).sum =
        observations.countP (!·.isUsable) := by
      simp only [evidence, EvidenceAggregate.finish, aggregate]
      rw [sum_filter fun entry hzero => by simpa using hzero, List.map_map]
      exact sum_exclusions observations
    rw [hreasons]
    simp only [evidence, EvidenceAggregate.finish, aggregate]
    simp only [Bool.not_eq_true, Bool.decide_eq_false] at hsplit
    omega

/-- The bands partition the observations. -/
theorem sum_summarizeBands (slots : List PlannedSlot) (observations : List ClassifiedObservation) :
    ((summarizeBands slots observations).map (·.evidence.observationCounts.total)).sum =
      observations.length := by
  have hnodup : bands.Nodup := by decide
  have hmem : ∀ classified ∈ observations, classified.observation.band ∈ bands := by
    intro classified _
    cases classified.observation.band <;> decide
  rw [summarizeBands, List.map_map, ← sum_class_lengths hnodup hmem]
  apply sum_filter
  intro band habsent
  rw [Bool.or_eq_false_iff] at habsent
  refine List.length_eq_zero_iff.2 (List.filter_eq_nil_iff.2 fun classified hclassified => ?_)
  simpa using List.any_eq_false.1 habsent.2 classified hclassified

/-- The strata and the overlap rows each add up to this total. -/
def ComparisonTallies.AddUpTo (tallies : ComparisonTallies) (total : ℕ)
    (ofStratum : PairedStratumSummary → ℕ) (ofRow : PathOverlapRow → ℕ) : Prop :=
  (tallies.strata.map ofStratum).sum = total ∧ (tallies.overlapRows.map ofRow).sum = total

/-- The counters of strata, overlap rows, paths and diagnostics agree. -/
structure ComparisonTallies.CountersAgree (tallies : ComparisonTallies) : Prop where
  duplicates : tallies.AddUpTo tallies.diagnostics.exactDuplicateCount (·.exactDuplicateCount)
    (·.exactDuplicateCount)
  conflicts : tallies.AddUpTo tallies.diagnostics.conflictingDuplicateGroupCount
    (·.conflictingDuplicateGroupCount) (·.conflictingDuplicateGroupCount)
  unmatchedLeft : tallies.AddUpTo tallies.diagnostics.unmatchedLeftCount (·.unmatchedLeftCount)
    (·.unmatchedLeftCount)
  unmatchedRight : tallies.AddUpTo tallies.diagnostics.unmatchedRightCount (·.unmatchedRightCount)
    (·.unmatchedRightCount)
  missingSnrLeft : tallies.AddUpTo tallies.diagnostics.missingSnrLeftCount (·.missingSnrLeftCount)
    (·.missingSnrLeftCount)
  missingSnrRight : tallies.AddUpTo tallies.diagnostics.missingSnrRightCount
    (·.missingSnrRightCount) (·.missingSnrRightCount)
  pairedRows : tallies.AddUpTo tallies.pairedRows.length (·.pairedRowCount) (·.pairedCount)
  paths : (tallies.pathSummaries.map (·.pairedRowCount)).sum = tallies.pairedRows.length
  diagnostics : tallies.diagnostics.pairedRowCount = tallies.pairedRows.length

theorem sum_mapM {α β : Type} {f : α → Option β} {items : List α} {results : List β}
    (h : items.mapM f = some results) {count : α → ℕ} {field : β → ℕ}
    (hfield : ∀ a b, f a = some b → field b = count a) :
    (results.map field).sum = (items.map count).sum := by
  induction items generalizing results with
  | nil =>
    obtain rfl : results = [] := by simpa using h.symm
    rfl
  | cons a items ih =>
    simp only [List.mapM_cons, Option.bind_eq_bind, Option.bind_eq_some_iff] at h
    obtain ⟨b, hb, rest, hrest, h⟩ := h
    obtain rfl := Option.some.inj h
    rw [List.map_cons, List.sum_cons, List.map_cons, List.sum_cons, ih hrest, hfield a b hb]

theorem countP_eq_totalOf (p : PairOutcome → Bool) (outcomes : List PairOutcome) :
    outcomes.countP p = totalOf (fun outcome => (p outcome).toNat) outcomes := by
  induction outcomes with
  | nil => rfl
  | cons outcome outcomes ih =>
    rw [List.countP_cons, ih, totalOf, totalOf, List.map_cons, List.sum_cons, Nat.add_comm]
    cases p outcome <;> rfl

section

variable {outcomes : List PairOutcome}

/-- A counter of the overlap rows adds up to the one of all outcomes. -/
theorem sum_overlapRows {rows : List PathOverlapRow} (h : overlapRows outcomes = some rows)
    {count : PairOutcome → ℕ} {field : PathOverlapRow → ℕ}
    (hfield : ∀ members stratum remotePath,
      field ((members.foldl OverlapAccumulator.addOutcome {}).finish stratum remotePath) =
        totalOf count members) :
    (rows.map field).sum = totalOf count outcomes := by
  have hsum : (rows.map field).sum = ((groups (outcomes.map fun outcome =>
      ((toLex (outcome.key, outcome.remotePath) : PathKey), outcome))).map fun group =>
        (group.2.map count).sum).sum := by
    rw [← ComparisonPlan.overlapRows_eq, List.mapM_map] at h
    apply sum_mapM h
    rintro ⟨pathKey, members⟩ row hrow
    obtain ⟨stratum, -, rfl⟩ := Option.map_eq_some_iff.1 hrow
    exact hfield members stratum _
  rw [hsum, sum_groups, List.map_map]
  rfl

/-- A counter of the strata adds up to the one of all outcomes. -/
theorem sum_strata {paths : List PairedPathSummary} {excludedStrata : List StratumKey}
    {strata : List PairedStratumSummary}
    (h : buildStrata outcomes paths excludedStrata = some strata)
    {count : PairOutcome → ℕ} {field : PairedStratumSummary → ℕ}
    (hfield : ∀ key summary, stratumSummary outcomes paths excludedStrata key = some summary →
      field summary = totalOf count (outcomes.filter (·.key = key))) :
    (strata.map field).sum = totalOf count outcomes := by
  rw [sum_mapM h hfield]
  refine sum_classes (sortedKeys_nodup _) (fun outcome houtcome => ?_) count
  exact mem_sortedKeys.2 (List.mem_append_left _ (List.mem_map_of_mem houtcome))

theorem sum_pathSummaries {rows : List PairedObservationRow} {paths : List PairedPathSummary}
    (h : buildPathSummaries rows = some paths) :
    (paths.map (·.pairedRowCount)).sum = rows.length := by
  have hpaths : ∀ (group : PathKey × List IeeeFloat) path,
      ((stratumFromKey (ofLex group.1).1).map fun stratum =>
        (⟨stratum, (ofLex group.1).2, group.2.length, median (sortTotal group.2)⟩ :
          PairedPathSummary)) = some path →
      path.pairedRowCount = (group.2.map fun _ => 1).sum := by
    rintro ⟨pathKey, deltas⟩ path hpath
    obtain ⟨stratum, -, rfl⟩ := Option.map_eq_some_iff.1 hpath
    simp
  rw [sum_mapM h hpaths, sum_groups]
  simp [Function.comp_def]

theorem stratumSummary_fields {paths : List PairedPathSummary} {excludedStrata : List StratumKey}
    {key : StratumKey} {summary : PairedStratumSummary}
    (h : stratumSummary outcomes paths excludedStrata key = some summary) :
    let members := outcomes.filter (·.key = key)
    summary.exactDuplicateCount = totalOf (·.duplicateCount) members ∧
      summary.conflictingDuplicateGroupCount = totalOf (·.conflictCount) members ∧
      summary.unmatchedLeftCount = totalOf (·.unmatchedLeft.toNat) members ∧
      summary.unmatchedRightCount = totalOf (·.unmatchedRight.toNat) members ∧
      summary.missingSnrLeftCount = totalOf (·.left.resolved.missingSnr.toNat) members ∧
      summary.missingSnrRightCount = totalOf (·.right.resolved.missingSnr.toNat) members ∧
      summary.pairedRowCount = totalOf (·.row.isSome.toNat) members := by
  obtain ⟨stratum, -, rfl⟩ := Option.map_eq_some_iff.1 h
  refine ⟨rfl, rfl, countP_eq_totalOf _ _, countP_eq_totalOf _ _, countP_eq_totalOf _ _,
    countP_eq_totalOf _ _, ?_⟩
  rw [← countP_eq_totalOf, sortTotal, (sortOn_perm _ _).length_eq, List.length_map,
    List.length_filterMap_eq_countP]

variable {plan : ComparisonPlan} {observations : List ClassifiedObservation}

/-- The tallies are those the plan has of these outcomes. -/
structure ComparisonTallies.Of (tallies : ComparisonTallies) (plan : ComparisonPlan)
    (observations : List ClassifiedObservation) (outcomes : List PairOutcome) : Prop where
  diagnostics : tallies.diagnostics = plan.diagnostics observations outcomes tallies.pairedRows
  overlapRows : AntennaBench.overlapRows outcomes = some tallies.overlapRows
  pairedRows : tallies.pairedRows = AntennaBench.pairedRows outcomes
  pathSummaries : buildPathSummaries tallies.pairedRows = some tallies.pathSummaries
  strata : buildStrata outcomes tallies.pathSummaries (plan.excludedStrata observations) =
    some tallies.strata

theorem ComparisonPlan.analysis_tallies {analysis : PairedComparisonAnalysis}
    (h : plan.analysis observations outcomes = some analysis) :
    analysis.tallies.Of plan observations outcomes := by
  simp only [ComparisonPlan.analysis, Option.bind_eq_bind, Option.bind_eq_some_iff] at h
  obtain ⟨overlap, hoverlap, paths, hpaths, profiles, -, strata, hstrata, h⟩ := h
  obtain rfl := Option.some.inj h
  exact ⟨rfl, hoverlap, rfl, hpaths, hstrata⟩

namespace ComparisonTallies.Of

variable {tallies : ComparisonTallies} (h : tallies.Of plan observations outcomes)
include h

/-- What one counter of the strata and of the overlap rows comes to. -/
theorem addUpTo {count : PairOutcome → ℕ} {ofStratum : PairedStratumSummary → ℕ}
    {ofRow : PathOverlapRow → ℕ}
    (hofStratum : ∀ key summary,
      stratumSummary outcomes tallies.pathSummaries (plan.excludedStrata observations) key =
          some summary →
        ofStratum summary = totalOf count (outcomes.filter (·.key = key)))
    (hofRow : ∀ members stratum remotePath,
      ofRow ((members.foldl OverlapAccumulator.addOutcome {}).finish stratum remotePath) =
        totalOf count members) :
    tallies.AddUpTo (totalOf count outcomes) ofStratum ofRow :=
  ⟨sum_strata h.strata hofStratum, sum_overlapRows h.overlapRows hofRow⟩

theorem pairedRows_length : tallies.pairedRows.length = totalOf (·.row.isSome.toNat) outcomes := by
  rw [h.pairedRows, AntennaBench.pairedRows, (sortOn_perm _ _).length_eq,
    List.length_filterMap_eq_countP, countP_eq_totalOf]

/-- The counters agree. -/
theorem countersAgree : tallies.CountersAgree where
  duplicates := by
    rw [h.diagnostics]
    apply h.addUpTo (fun _ _ hsummary => (stratumSummary_fields hsummary).1)
    intro members stratum remotePath
    rw [OverlapAccumulator.finish_eq]
  conflicts := by
    rw [h.diagnostics]
    apply h.addUpTo (fun _ _ hsummary => (stratumSummary_fields hsummary).2.1)
    intro members stratum remotePath
    rw [OverlapAccumulator.finish_eq]
  unmatchedLeft := by
    have htotal : (plan.diagnostics observations outcomes tallies.pairedRows).unmatchedLeftCount =
        totalOf (·.unmatchedLeft.toNat) outcomes := countP_eq_totalOf _ _
    rw [h.diagnostics, htotal]
    apply h.addUpTo (fun _ _ hsummary => (stratumSummary_fields hsummary).2.2.1)
    intro members stratum remotePath
    rw [OverlapAccumulator.finish_eq]
    exact countP_eq_totalOf _ _
  unmatchedRight := by
    have htotal : (plan.diagnostics observations outcomes tallies.pairedRows).unmatchedRightCount =
        totalOf (·.unmatchedRight.toNat) outcomes := countP_eq_totalOf _ _
    rw [h.diagnostics, htotal]
    apply h.addUpTo (fun _ _ hsummary => (stratumSummary_fields hsummary).2.2.2.1)
    intro members stratum remotePath
    rw [OverlapAccumulator.finish_eq]
    exact countP_eq_totalOf _ _
  missingSnrLeft := by
    have htotal : (plan.diagnostics observations outcomes tallies.pairedRows).missingSnrLeftCount =
        totalOf (·.left.resolved.missingSnr.toNat) outcomes := countP_eq_totalOf _ _
    rw [h.diagnostics, htotal]
    apply h.addUpTo (fun _ _ hsummary => (stratumSummary_fields hsummary).2.2.2.2.1)
    intro members stratum remotePath
    rw [OverlapAccumulator.finish_eq]
    exact countP_eq_totalOf _ _
  missingSnrRight := by
    have htotal : (plan.diagnostics observations outcomes tallies.pairedRows).missingSnrRightCount =
        totalOf (·.right.resolved.missingSnr.toNat) outcomes := countP_eq_totalOf _ _
    rw [h.diagnostics, htotal]
    apply h.addUpTo (fun _ _ hsummary => (stratumSummary_fields hsummary).2.2.2.2.2.1)
    intro members stratum remotePath
    rw [OverlapAccumulator.finish_eq]
    exact countP_eq_totalOf _ _
  pairedRows := by
    rw [h.pairedRows_length]
    apply h.addUpTo (fun _ _ hsummary => (stratumSummary_fields hsummary).2.2.2.2.2.2)
    intro members stratum remotePath
    rw [OverlapAccumulator.finish_eq]
    exact countP_eq_totalOf _ _
  paths := sum_pathSummaries h.pathSummaries
  diagnostics := by rw [h.diagnostics]; rfl

end ComparisonTallies.Of

end

end AntennaBench
