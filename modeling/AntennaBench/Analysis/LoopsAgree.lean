import AntennaBench.Analysis.ComparisonLoops

/-!
# What the counting loops leave

The grouping loop leaves the groups of its entries, the pairing loop the counts over the
outcomes, and both together the rows and counters of the analysis.
-/

namespace AntennaBench

open Timeline

namespace ComparisonPlan

/-- Every slot of a block leads back to a block. -/
def IndexesBlocks (plan : ComparisonPlan) : Prop :=
  ∀ slotId index, plan.blockOfSlot slotId = some index → (plan.blocks[index]?).isSome = true

variable (plan : ComparisonPlan)

/-- The stratum an excluded observation is counted in. -/
def excludedStratum? (classified : ClassifiedObservation) : Option StratumKey :=
  if classified.isUsable then none
  else (observationStratum plan.callsign classified.observation).map (stratumKey ·.1)

/-- The diagnostics after one more observation. -/
def countObservation (diagnostics : ComparisonDiagnostics) (classified : ClassifiedObservation) :
    ComparisonDiagnostics :=
  { diagnostics with
    excludedObservationCount :=
      diagnostics.excludedObservationCount + oneIf (!classified.isUsable)
    ambiguousPathCount := diagnostics.ambiguousPathCount + oneIf (plan.isAmbiguousPath classified)
    missingOrInvalidModeCount :=
      diagnostics.missingOrInvalidModeCount + oneIf (plan.isMissingOrInvalidMode classified)
    missingModeCount := diagnostics.missingModeCount + oneIf (plan.isMissingMode classified)
    malformedModeCount := diagnostics.malformedModeCount +
      oneIf (plan.isMissingOrInvalidMode classified && !plan.isMissingMode classified) }

def countStratum (exclusions : List (StratumKey × ℕ)) (key : StratumKey) :
    List (StratumKey × ℕ) :=
  modifyEntry 0 key (· + 1) exclusions

def pushEntry (groups : List (GroupKey × PairGroup))
    (entry : GroupKey × ComparisonSide × ObservationRecord) : List (GroupKey × PairGroup) :=
  modifyEntry {} entry.1 (·.add entry.2.1 entry.2.2) groups

/-- What one iteration of the grouping loop comes to. -/
def groupedWith (state : GroupingState) (classified : ClassifiedObservation) : GroupingState where
  diagnostics := plan.countObservation state.diagnostics classified
  exclusionsByStratum :=
    (plan.excludedStratum? classified).toList.foldl countStratum state.exclusionsByStratum
  groups := (plan.groupEntry classified).toList.foldl pushEntry state.groups

variable {plan}

theorem side?_of_excluded {classified : ClassifiedObservation} (h : classified.isUsable = false) :
    plan.side? classified = none := by
  simp [side?, h]

theorem groupEntry_of_no_side {classified : ClassifiedObservation}
    (h : plan.side? classified = none) : plan.groupEntry classified = none := by
  simp [groupEntry, h]

/-- Without a side only the exclusion is counted. -/
theorem groupedWith_of_no_side {state : GroupingState} {classified : ClassifiedObservation}
    (h : plan.side? classified = none) :
    plan.groupedWith state classified = state.countExclusion plan.callsign classified := by
  have hpath : plan.isAmbiguousPath classified = false := by simp [isAmbiguousPath, h]
  have hmode : plan.isMissingOrInvalidMode classified = false := by
    simp [isMissingOrInvalidMode, h]
  have hmissing : plan.isMissingMode classified = false := by simp [isMissingMode, hmode]
  unfold groupedWith GroupingState.countExclusion countObservation excludedStratum?
  rw [groupEntry_of_no_side h, hpath, hmode, hmissing]
  by_cases husable : classified.isUsable = true
  · simp [husable, oneIf]
  · rw [Bool.not_eq_true] at husable
    cases hstratum : observationStratum plan.callsign classified.observation <;>
      simp [husable, oneIf, countStratum]

theorem groupedWith_of_side {state : GroupingState} {classified : ClassifiedObservation}
    {side : ComparisonSide} {index : ℕ} (h : plan.side? classified = some (side, index)) :
    plan.groupedWith state classified = plan.groupParticipant state side index classified := by
  have husable : classified.isUsable = true := by
    by_contra hexcluded
    rw [side?_of_excluded (by simpa using hexcluded)] at h
    cases h
  unfold groupedWith groupParticipant countObservation excludedStratum? groupEntry
    observationStratum
  simp only [isAmbiguousPath, isMissingMode, isMissingOrInvalidMode, h, husable, modeOf]
  cases hpath : pathIdentity plan.callsign classified.observation with
  | none =>
    cases hmode : classified.observation.mode.bind SignalMode.normalize with
    | none =>
      by_cases hblank : classified.observation.mode.all isBlank = true <;>
        simp [oneIf, GroupingState.countPath, GroupingState.countMode, hblank]
    | some mode => simp [oneIf, GroupingState.countPath, GroupingState.countMode]
  | some path =>
    obtain ⟨direction, remotePath⟩ := path
    cases hmode : classified.observation.mode.bind SignalMode.normalize with
    | none =>
      by_cases hblank : classified.observation.mode.all isBlank = true <;>
        simp [oneIf, GroupingState.countPath, GroupingState.countMode, hblank]
    | some mode =>
      simp [oneIf, GroupingState.countPath, GroupingState.countMode, GroupingState.push,
        pushEntry]

theorem side?_eq (plan : ComparisonPlan) (classified : ClassifiedObservation)
    (husable : classified.isUsable = true) :
    plan.side? classified = (classified.assignment.slotId.bind plan.blockOfSlot).bind fun index =>
      (plan.blocks[index]?).bind fun block =>
        if block.eligibility ≠ .eligible then none
        else (plan.labelSide classified.assignment.slotLabel).map (·, index) := by
  unfold side? labelSide
  rw [husable]
  simp only [Bool.not_true, Bool.false_eq_true, if_false]
  refine Option.bind_congr fun index _ => Option.bind_congr fun block _ => ?_
  split_ifs <;> rfl

theorem groupingStep_eq (h : plan.IndexesBlocks) (state : GroupingState)
    (classified : ClassifiedObservation) :
    plan.groupingStep state classified = some (plan.groupedWith state classified) := by
  unfold groupingStep
  by_cases husable : classified.isUsable = true
  · have hkeep : state.countExclusion plan.callsign classified = state := by
      simp [GroupingState.countExclusion, husable]
    have hside := plan.side?_eq classified husable
    rw [hkeep]
    cases hslot : classified.assignment.slotId with
    | none =>
      rw [hslot] at hside
      rw [groupedWith_of_no_side hside, hkeep]
    | some slotId =>
      simp only [husable, Bool.not_true, Bool.false_eq_true, if_false]
      simp only [hslot, Option.bind_some] at hside
      cases hblock : plan.blockOfSlot slotId with
      | none =>
        rw [hblock] at hside
        rw [groupedWith_of_no_side hside, hkeep]
      | some index =>
        rw [hblock] at hside
        obtain ⟨block, hindex⟩ := Option.isSome_iff_exists.1 (h slotId index hblock)
        simp only [hindex, Option.bind_some] at hside ⊢
        by_cases heligible : block.eligibility ≠ .eligible
        · rw [if_pos heligible] at hside ⊢
          rw [groupedWith_of_no_side hside, hkeep]
        · rw [if_neg heligible] at hside ⊢
          cases hlabel : plan.labelSide classified.assignment.slotLabel with
          | none =>
            rw [hlabel] at hside
            rw [groupedWith_of_no_side hside, hkeep]
          | some side =>
            rw [hlabel] at hside
            rw [groupedWith_of_side hside]
  · have hnone : plan.side? classified = none := side?_of_excluded (by simpa using husable)
    rw [groupedWith_of_no_side hnone]
    cases hslot : classified.assignment.slotId with
    | none => rfl
    | some slotId => simp [husable]

theorem countP_concat {α : Type} (p : α → Bool) (items : List α) (a : α) :
    (items ++ [a]).countP p = items.countP p + oneIf (p a) := by
  rw [List.countP_append, List.countP_singleton, oneIf]

/-- The diagnostics after the grouping loop. -/
def groupingDiagnostics (plan : ComparisonPlan) (observations : List ClassifiedObservation) :
    ComparisonDiagnostics :=
  { plan.blockDiagnostics with
    excludedObservationCount := observations.countP (!·.isUsable)
    ambiguousPathCount := observations.countP plan.isAmbiguousPath
    missingOrInvalidModeCount := observations.countP plan.isMissingOrInvalidMode
    missingModeCount := observations.countP plan.isMissingMode
    malformedModeCount :=
      observations.countP fun c => plan.isMissingOrInvalidMode c && !plan.isMissingMode c }

theorem groupingDiagnostics_concat (observations : List ClassifiedObservation)
    (classified : ClassifiedObservation) :
    plan.groupingDiagnostics (observations ++ [classified]) =
      plan.countObservation (plan.groupingDiagnostics observations) classified := by
  simp only [groupingDiagnostics, countP_concat, countObservation]

theorem excludedStrata_concat (observations : List ClassifiedObservation)
    (classified : ClassifiedObservation) :
    plan.excludedStrata (observations ++ [classified]) =
      plan.excludedStrata observations ++ (plan.excludedStratum? classified).toList := by
  simp only [excludedStrata, excludedStratum?, List.filter_append, List.filterMap_append]
  congr 1
  by_cases husable : classified.isUsable = true
  · simp [husable]
  · cases hstratum : observationStratum plan.callsign classified.observation <;>
      simp [husable, hstratum]

theorem groupEntries_concat (observations : List ClassifiedObservation)
    (classified : ClassifiedObservation) :
    plan.groupEntries (observations ++ [classified]) =
      plan.groupEntries observations ++ (plan.groupEntry classified).toList := by
  rw [groupEntries, groupEntries, List.filterMap_append]
  cases hentry : plan.groupEntry classified <;> simp [hentry]

/-- The grouping loop leaves its counters and the entries it pushed. -/
theorem grouped_eq (h : plan.IndexesBlocks) (observations : List ClassifiedObservation) :
    plan.grouped observations = some {
      diagnostics := plan.groupingDiagnostics observations
      exclusionsByStratum := (plan.excludedStrata observations).foldl countStratum []
      groups := (plan.groupEntries observations).foldl pushEntry [] } := by
  induction observations using List.reverseRecOn with
  | nil => rfl
  | append_singleton observations classified ih =>
    have hrun : plan.grouped (observations ++ [classified]) =
        (plan.grouped observations).bind fun state => plan.groupingStep state classified := by
      simp [grouped, List.foldlM_append]
    rw [hrun, ih, Option.bind_some, groupingStep_eq h, groupedWith, groupingDiagnostics_concat,
      excludedStrata_concat, groupEntries_concat, List.foldl_append, List.foldl_append]

theorem foldl_add (members : List (ComparisonSide × ObservationRecord)) :
    members.foldl (fun group entry => group.add entry.1 entry.2) ({} : PairGroup) =
      ⟨sideObservations .left members, sideObservations .right members⟩ := by
  induction members using List.reverseRecOn with
  | nil => rfl
  | append_singleton members member ih =>
    obtain ⟨side, observation⟩ := member
    rw [List.foldl_append, ih]
    cases side <;> simp [PairGroup.add, sideObservations]

theorem pushed_groups (observations : List ClassifiedObservation) :
    (plan.groupEntries observations).foldl pushEntry [] =
      (groups (plan.groupEntries observations)).map fun group =>
        (group.1, ⟨sideObservations .left group.2, sideObservations .right group.2⟩) := by
  have hfold := foldl_modifyEntry ({} : PairGroup)
    (fun group (entry : ComparisonSide × ObservationRecord) => group.add entry.1 entry.2)
    (plan.groupEntries observations)
  simp only [foldl_add] at hfold
  exact hfold

/-- The counters of the exclusions are the numbers of their keys. -/
theorem counted_strata (keys : List StratumKey) :
    keys.foldl countStratum [] =
      (groups (keys.map fun key => (key, ()))).map fun group => (group.1, group.2.length) := by
  have hfold := foldl_modifyEntry 0 (fun count (_ : Unit) => count + 1)
    (keys.map fun key => (key, ()))
  rw [List.foldl_map] at hfold
  have hcount : ∀ members : List Unit,
      members.foldl (fun count (_ : Unit) => count + 1) 0 = members.length := by
    intro members
    induction members using List.reverseRecOn with
    | nil => rfl
    | append_singleton members member ih => rw [List.foldl_append, ih, List.length_append]; rfl
  simp only [hcount] at hfold
  exact hfold

theorem entryOf_counted_strata (keys : List StratumKey) (key : StratumKey) :
    (entryOf key (keys.foldl countStratum [])).getD 0 = keys.count key := by
  have hpushed : (pushed key (keys.map fun key => (key, ()))).length = keys.count key := by
    rw [pushed, List.length_map, List.count_eq_countP, ← List.countP_eq_length_filter,
      List.countP_map]
    exact List.countP_congr fun other _ => by simp
  rw [counted_strata, entryOf, lookup_groups_map _ List.length, hpushed]
  split_ifs with hmem
  · rfl
  · refine (List.count_eq_zero.2 fun hkey => hmem ?_).symm
    exact List.mem_map.2 ⟨(key, ()), List.mem_map.2 ⟨key, hkey, rfl⟩, rfl⟩

theorem mem_counted_strata (keys : List StratumKey) (key : StratumKey) :
    key ∈ (keys.foldl countStratum []).map (·.1) ↔ key ∈ keys := by
  rw [counted_strata, groups_map_keys _ List.length, mem_sortedKeys, List.map_map]
  simp

end ComparisonPlan

def OverlapAccumulator.addOutcome (overlap : OverlapAccumulator) (outcome : PairOutcome) :
    OverlapAccumulator :=
  let overlap := overlap.addGroup outcome.left.resolved outcome.right.resolved
  if outcome.row.isSome then overlap.addRow else overlap

def StratumAccumulator.addOutcome (accumulator : StratumAccumulator) (outcome : PairOutcome) :
    StratumAccumulator :=
  let accumulator := accumulator.addGroup outcome.left.resolved outcome.right.resolved
  match outcome.row with
  | some row => accumulator.addRow row
  | none => accumulator

/-- What one iteration of the pairing loop comes to. -/
def PairingState.addOutcome (state : PairingState) (outcome : PairOutcome) : PairingState where
  diagnostics := state.diagnostics.addGroup outcome.left.resolved outcome.right.resolved
  overlap := modifyEntry {} (toLex (outcome.key, outcome.remotePath)) (·.addOutcome outcome)
    state.overlap
  strata := modifyEntry {} outcome.key (·.addOutcome outcome) state.strata
  pairedRows := state.pairedRows ++ outcome.row.toList

namespace ComparisonPlan

variable {plan : ComparisonPlan}

theorem pairingStep_eq {state : PairingState} {key : GroupKey}
    {members : List (ComparisonSide × ObservationRecord)} {outcome : PairOutcome}
    (h : plan.pairOutcome (key, members) = some outcome) :
    plan.pairingStep state
        (key, ⟨sideObservations .left members, sideObservations .right members⟩) =
      some (state.addOutcome outcome) := by
  simp only [pairOutcome, Option.bind_eq_bind, Option.bind_eq_some_iff] at h
  obtain ⟨stratum, hstratum, block, hblock, h⟩ := h
  simp only [pairingStep, hstratum, hblock, Option.bind_eq_bind, Option.bind_some]
  simp only [sideOutcome] at h
  cases hleft : (resolve (sideObservations .left members)).finite with
  | none =>
    rw [hleft] at h
    obtain rfl := Option.some.inj h
    simp [PairingState.addOutcome, PairingState.addGroup, OverlapAccumulator.addOutcome,
      StratumAccumulator.addOutcome]
  | some leftObservation =>
    cases hright : (resolve (sideObservations .right members)).finite with
    | none =>
      rw [hleft, hright] at h
      obtain rfl := Option.some.inj h
      simp [PairingState.addOutcome, PairingState.addGroup, OverlapAccumulator.addOutcome,
        StratumAccumulator.addOutcome]
    | some rightObservation =>
      rw [hleft, hright] at h
      obtain ⟨row, hrow, h⟩ := Option.bind_eq_some_iff.1 h
      obtain ⟨found, hfound, rfl⟩ := Option.map_eq_some_iff.1 hrow
      obtain rfl := Option.some.inj h
      simp only [hfound, Option.bind_some]
      simp [PairingState.addOutcome, PairingState.addGroup, PairingState.addRow,
        OverlapAccumulator.addOutcome, StratumAccumulator.addOutcome, modifyEntry_modifyEntry]

theorem paired_groups {state : PairingState}
    {items : List (GroupKey × List (ComparisonSide × ObservationRecord))}
    {outcomes : List PairOutcome} (h : items.mapM plan.pairOutcome = some outcomes) :
    (items.map fun group =>
        (group.1, (⟨sideObservations .left group.2, sideObservations .right group.2⟩ :
          PairGroup))).foldlM plan.pairingStep state =
      some (outcomes.foldl PairingState.addOutcome state) := by
  induction items generalizing state outcomes with
  | nil =>
    obtain rfl : outcomes = [] := by simpa using h.symm
    rfl
  | cons item items ih =>
    simp only [List.mapM_cons, Option.bind_eq_bind, Option.bind_eq_some_iff] at h
    obtain ⟨outcome, houtcome, rest, hrest, h⟩ := h
    obtain rfl := Option.some.inj h
    rw [List.map_cons, List.foldlM_cons, pairingStep_eq houtcome]
    exact ih hrest

end ComparisonPlan

/-- The pairing loop leaves its rows and the folds of its counters. -/
theorem foldl_addOutcome (outcomes : List PairOutcome) (diagnostics : ComparisonDiagnostics) :
    outcomes.foldl PairingState.addOutcome ⟨diagnostics, [], [], []⟩ = {
      diagnostics := outcomes.foldl (fun diagnostics outcome =>
        diagnostics.addGroup outcome.left.resolved outcome.right.resolved) diagnostics
      overlap := (groups (outcomes.map fun outcome =>
          ((toLex (outcome.key, outcome.remotePath) : PathKey), outcome))).map fun group =>
        (group.1, group.2.foldl OverlapAccumulator.addOutcome {})
      strata := outcomes.foldl (fun strata outcome =>
        modifyEntry {} outcome.key (·.addOutcome outcome) strata) []
      pairedRows := outcomes.filterMap (·.row) } := by
  have hoverlap := foldl_modifyEntry ({} : OverlapAccumulator) OverlapAccumulator.addOutcome
    (outcomes.map fun outcome => ((toLex (outcome.key, outcome.remotePath) : PathKey), outcome))
  rw [List.foldl_map] at hoverlap
  rw [← hoverlap]
  clear hoverlap
  induction outcomes using List.reverseRecOn with
  | nil => rfl
  | append_singleton outcomes outcome ih =>
    rw [List.foldl_append, ih]
    cases hrow : outcome.row <;>
      simp [List.filterMap_append, PairingState.addOutcome, hrow]

theorem isUnmatched_left (outcome : PairOutcome) :
    isUnmatched outcome.left.resolved outcome.right.resolved = outcome.unmatchedLeft := by
  rw [isUnmatched, PairOutcome.unmatchedLeft, Bool.and_assoc]

theorem isUnmatched_right (outcome : PairOutcome) :
    isUnmatched outcome.right.resolved outcome.left.resolved = outcome.unmatchedRight := by
  rw [isUnmatched, PairOutcome.unmatchedRight, Bool.and_assoc]

theorem totalOf_concat (count : PairOutcome → ℕ) (outcomes : List PairOutcome)
    (outcome : PairOutcome) :
    totalOf count (outcomes ++ [outcome]) = totalOf count outcomes + count outcome := by
  simp [totalOf]

/-- The diagnostics the pairing loop adds. -/
theorem foldl_addGroup (outcomes : List PairOutcome) (diagnostics : ComparisonDiagnostics) :
    outcomes.foldl (fun diagnostics outcome =>
        diagnostics.addGroup outcome.left.resolved outcome.right.resolved) diagnostics =
      { diagnostics with
        exactDuplicateCount :=
          diagnostics.exactDuplicateCount + totalOf (·.duplicateCount) outcomes
        conflictingDuplicateGroupCount :=
          diagnostics.conflictingDuplicateGroupCount + totalOf (·.conflictCount) outcomes
        missingSnrLeftCount :=
          diagnostics.missingSnrLeftCount + outcomes.countP (·.left.resolved.missingSnr)
        missingSnrRightCount :=
          diagnostics.missingSnrRightCount + outcomes.countP (·.right.resolved.missingSnr)
        unmatchedLeftCount :=
          diagnostics.unmatchedLeftCount + outcomes.countP (·.unmatchedLeft)
        unmatchedRightCount :=
          diagnostics.unmatchedRightCount + outcomes.countP (·.unmatchedRight) } := by
  induction outcomes using List.reverseRecOn with
  | nil => rfl
  | append_singleton outcomes outcome ih =>
    rw [List.foldl_append, ih]
    simp [ComparisonDiagnostics.addGroup, totalOf_concat, isUnmatched_left,
      isUnmatched_right, oneIf, Bool.toNat, Bool.cond_eq_ite, PairOutcome.duplicateCount,
      PairOutcome.conflictCount, Nat.add_assoc]

/-- The accumulator of an overlap row holds the counts of its outcomes. -/
theorem OverlapAccumulator.foldl_addOutcome (outcomes : List PairOutcome) :
    outcomes.foldl OverlapAccumulator.addOutcome {} = {
      leftFiniteCount := outcomes.countP (·.left.resolved.finite.isSome)
      rightFiniteCount := outcomes.countP (·.right.resolved.finite.isSome)
      pairedCount := outcomes.countP (·.row.isSome)
      unmatchedLeftCount := outcomes.countP (·.unmatchedLeft)
      unmatchedRightCount := outcomes.countP (·.unmatchedRight)
      missingSnrLeftCount := outcomes.countP (·.left.resolved.missingSnr)
      missingSnrRightCount := outcomes.countP (·.right.resolved.missingSnr)
      exactDuplicateCount := totalOf (·.duplicateCount) outcomes
      conflictingDuplicateGroupCount := totalOf (·.conflictCount) outcomes } := by
  induction outcomes using List.reverseRecOn with
  | nil => rfl
  | append_singleton outcomes outcome ih =>
    rw [List.foldl_append, ih, List.foldl_cons, List.foldl_nil, addOutcome]
    cases hrow : outcome.row <;>
      simp [addGroup, addRow, hrow, totalOf_concat, isUnmatched_left,
        isUnmatched_right, oneIf, Bool.toNat, Bool.cond_eq_ite, PairOutcome.duplicateCount,
        PairOutcome.conflictCount]

/-- The accumulator of a stratum holds the counts and the rows of its outcomes. -/
theorem StratumAccumulator.foldl_addOutcome (outcomes : List PairOutcome) :
    outcomes.foldl StratumAccumulator.addOutcome {} = {
      pairedBlocks := ((outcomes.filterMap (·.row)).map (·.blockIndex)).toFinset
      orders := ((outcomes.filterMap (·.row)).map fun row => (row.blockIndex, row.order)).toFinset
      deltas := (outcomes.filterMap (·.row)).map (·.deltaRightMinusLeftDb)
      unmatchedLeftCount := outcomes.countP (·.unmatchedLeft)
      unmatchedRightCount := outcomes.countP (·.unmatchedRight)
      missingSnrLeftCount := outcomes.countP (·.left.resolved.missingSnr)
      missingSnrRightCount := outcomes.countP (·.right.resolved.missingSnr)
      exactDuplicateCount := totalOf (·.duplicateCount) outcomes
      conflictingDuplicateGroupCount := totalOf (·.conflictCount) outcomes } := by
  induction outcomes using List.reverseRecOn with
  | nil => rfl
  | append_singleton outcomes outcome ih =>
    rw [List.foldl_append, ih, List.foldl_cons, List.foldl_nil, addOutcome]
    cases hrow : outcome.row <;>
      simp [addGroup, addRow, hrow, totalOf_concat, isUnmatched_left,
        isUnmatched_right, oneIf, Bool.toNat, Bool.cond_eq_ite, PairOutcome.duplicateCount,
        PairOutcome.conflictCount, List.filterMap_append, List.toFinset_append]

theorem OverlapAccumulator.finish_eq (outcomes : List PairOutcome) (stratum : ComparisonStratum)
    (remotePath : String) :
    (outcomes.foldl OverlapAccumulator.addOutcome {}).finish stratum remotePath = {
      stratum := stratum
      remotePath := remotePath
      leftFiniteCount := outcomes.countP (·.left.resolved.finite.isSome)
      rightFiniteCount := outcomes.countP (·.right.resolved.finite.isSome)
      pairedCount := outcomes.countP (·.row.isSome)
      unmatchedLeftCount := outcomes.countP (·.unmatchedLeft)
      unmatchedRightCount := outcomes.countP (·.unmatchedRight)
      missingSnrLeftCount := outcomes.countP (·.left.resolved.missingSnr)
      missingSnrRightCount := outcomes.countP (·.right.resolved.missingSnr)
      exactDuplicateCount := totalOf (·.duplicateCount) outcomes
      conflictingDuplicateGroupCount := totalOf (·.conflictCount) outcomes } := by
  rw [foldl_addOutcome]
  rfl

theorem card_toFinset_filter {α : Type} [DecidableEq α] (items : List α) (p : α → Prop)
    [DecidablePred p] : (items.toFinset.filter p).card = items.dedup.countP p := by
  rw [List.countP_eq_length_filter]
  rfl

theorem StratumAccumulator.finish_eq (outcomes : List PairOutcome)
    (paths : List PairedPathSummary) (excludedStrata : List StratumKey) (key : StratumKey) :
    ((outcomes.filter (·.key = key)).foldl StratumAccumulator.addOutcome {}).finish paths
        (excludedStrata.foldl ComparisonPlan.countStratum []) key =
      stratumSummary outcomes paths excludedStrata key := by
  rw [foldl_addOutcome, finish, stratumSummary]
  simp only [ComparisonPlan.entryOf_counted_strata, card_toFinset_filter, List.card_toFinset]

/-- The strata the excluded observations add start from nothing. -/
theorem strata_with_exclusions (outcomes : List PairOutcome) (keys : List StratumKey) :
    keys.foldl (fun strata key => modifyEntry {} key id strata)
        (outcomes.foldl (fun strata outcome =>
          modifyEntry {} outcome.key (·.addOutcome outcome) strata) []) =
      (Timeline.sortedKeys (outcomes.map (·.key) ++ keys)).map fun key =>
        (key, (outcomes.filter (·.key = key)).foldl StratumAccumulator.addOutcome {}) := by
  let step (accumulator : StratumAccumulator) (outcome : Option PairOutcome) :=
    outcome.elim accumulator accumulator.addOutcome
  let entries := outcomes.map (fun outcome => (outcome.key, some outcome)) ++
    keys.map fun key => (key, none)
  have hfold := foldl_modifyEntry ({} : StratumAccumulator) step entries
  have hstep : ∀ key, (pushed key entries).foldl step {} =
      (outcomes.filter (·.key = key)).foldl StratumAccumulator.addOutcome {} := by
    intro key
    have hnone : ∀ (others : List StratumKey) accumulator,
        (pushed key (others.map fun key => (key, none))).foldl step accumulator = accumulator := by
      intro others accumulator
      induction others with
      | nil => rfl
      | cons other others ih =>
        by_cases hother : other = key
        · subst hother
          simpa [pushed, step] using ih
        · simpa [pushed, hother] using ih
    have hsome : pushed key (outcomes.map fun outcome => (outcome.key, some outcome)) =
        (outcomes.filter (·.key = key)).map some := by
      simp [pushed, List.filter_map, Function.comp_def]
    rw [pushed_append, List.foldl_append, hnone, hsome, List.foldl_map]
    rfl
  have hkeys : entries.map (·.1) = outcomes.map (·.key) ++ keys := by
    simp [entries, Function.comp_def]
  rw [List.foldl_append, List.foldl_map, List.foldl_map, groups, List.map_map, hkeys] at hfold
  refine hfold.trans (List.map_congr_left fun key _ => ?_)
  simp only [Function.comp_apply, hstep]

def PairedComparisonAnalysis.tallies (analysis : PairedComparisonAnalysis) :
    ComparisonTallies where
  diagnostics := analysis.diagnostics
  overlapRows := analysis.overlapRows
  pairedRows := analysis.pairedRows
  pathSummaries := analysis.pathSummaries
  strata := analysis.strata

namespace ComparisonPlan

variable {plan : ComparisonPlan} {observations : List ClassifiedObservation}
  {outcomes : List PairOutcome}

/-- The pairing loop after the grouping loop. -/
theorem paired_eq (h : plan.outcomes observations = some outcomes) :
    plan.paired {
        diagnostics := plan.groupingDiagnostics observations
        exclusionsByStratum := (plan.excludedStrata observations).foldl countStratum []
        groups := (plan.groupEntries observations).foldl pushEntry [] } =
      some (outcomes.foldl PairingState.addOutcome
        ⟨plan.groupingDiagnostics observations, [], [], []⟩) := by
  rw [paired, pushed_groups]
  exact paired_groups h

theorem overlapRows_eq (outcomes : List PairOutcome) :
    ((groups (outcomes.map fun outcome =>
        ((toLex (outcome.key, outcome.remotePath) : PathKey), outcome))).map fun group =>
      (group.1, group.2.foldl OverlapAccumulator.addOutcome {})).mapM
        (fun ((pathKey, overlap) : PathKey × OverlapAccumulator) =>
          let (key, remotePath) := ofLex pathKey
          (stratumFromKey key).map fun stratum => overlap.finish stratum remotePath) =
      AntennaBench.overlapRows outcomes := by
  rw [List.mapM_map]
  simp only [Function.comp_def, OverlapAccumulator.finish_eq]
  rfl

theorem strata_eq (outcomes : List PairOutcome) (paths : List PairedPathSummary)
    (excludedStrata : List StratumKey) :
    ((Timeline.sortedKeys (outcomes.map (·.key) ++ excludedStrata)).map fun key =>
        (key, (outcomes.filter (·.key = key)).foldl StratumAccumulator.addOutcome {})).mapM
        (fun ((key, accumulator) : StratumKey × StratumAccumulator) =>
          accumulator.finish paths (excludedStrata.foldl countStratum []) key) =
      buildStrata outcomes paths excludedStrata := by
  rw [List.mapM_map]
  simp only [Function.comp_def, StratumAccumulator.finish_eq]
  rfl

/-- The loops and what follows them leave the counters and rows of the analysis. -/
theorem tallies_eq (h : plan.IndexesBlocks) (houtcomes : plan.outcomes observations = some outcomes)
    {analysis : PairedComparisonAnalysis}
    (hanalysis : plan.analysis observations outcomes = some analysis) :
    plan.tallies observations = some analysis.tallies := by
  simp only [ComparisonPlan.analysis, Option.bind_eq_bind, Option.bind_eq_some_iff] at hanalysis
  obtain ⟨overlap, hoverlap, paths, hpaths, profiles, hprofiles, strata, hstrata, hanalysis⟩ :=
    hanalysis
  obtain rfl := Option.some.inj hanalysis
  have hkeys : Timeline.sortedKeys (outcomes.map (·.key) ++
        ((plan.excludedStrata observations).foldl countStratum []).map (·.1)) =
      Timeline.sortedKeys (outcomes.map (·.key) ++ plan.excludedStrata observations) := by
    apply sortedKeys_congr
    intro key
    rw [List.mem_append, List.mem_append, mem_counted_strata]
  have hpaths' : buildPathSummaries (sortOn pairedRowKey (outcomes.filterMap (·.row))) =
      some paths := hpaths
  simp only [tallies, grouped_eq h, paired_eq houtcomes, foldl_addOutcome, foldl_addGroup,
    strata_with_exclusions, hkeys, Option.bind_eq_bind, Option.bind_some]
  rw [overlapRows_eq, hoverlap, Option.bind_some, hpaths', Option.bind_some, strata_eq, hstrata]
  simp [PairedComparisonAnalysis.tallies, groupingDiagnostics, blockDiagnostics,
    ComparisonPlan.diagnostics, AntennaBench.pairedRows]

end ComparisonPlan

end AntennaBench
