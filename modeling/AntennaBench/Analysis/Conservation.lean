import AntennaBench.Analysis.Accounting

/-!
# Conservation of observations

Every compared observation is counted for want of a path or of a mode, or is in one
group on one side; what the sides of the groups come to is what the overlap rows count.
-/

namespace AntennaBench

open Timeline

namespace ComparisonPlan

/-- A usable observation of an eligible block, under one of the two labels. -/
def Compares (plan : ComparisonPlan) (classified : ClassifiedObservation) : Prop :=
  classified.isUsable = true ∧ ∃ slotId index block,
    classified.assignment.slotId = some slotId ∧ plan.blockOfSlot slotId = some index ∧
      plan.blocks[index]? = some block ∧ block.eligibility = .eligible ∧
      (classified.assignment.slotLabel = some plan.leftLabel ∨
        classified.assignment.slotLabel = some plan.rightLabel)

variable {plan : ComparisonPlan} {classified : ClassifiedObservation}

theorem compares_iff : plan.Compares classified ↔ (plan.side? classified).isSome = true := by
  unfold Compares
  by_cases husable : classified.isUsable = true
  · rw [plan.side?_eq classified husable, Option.isSome_iff_exists]
    simp only [Option.bind_eq_some_iff, husable, true_and]
    constructor
    · rintro ⟨slotId, index, block, hslot, hindex, hblock, heligible, hlabel⟩
      have hside : (plan.labelSide classified.assignment.slotLabel).isSome = true := by
        unfold labelSide
        rcases hlabel with hlabel | hlabel <;> rw [hlabel] <;> split_ifs <;> simp_all
      obtain ⟨side, hside⟩ := Option.isSome_iff_exists.1 hside
      refine ⟨(side, index), index, ⟨slotId, hslot, hindex⟩, block, hblock, ?_⟩
      simp [heligible, hside]
    · rintro ⟨⟨side, index'⟩, index, ⟨slotId, hslot, hindex⟩, block, hblock, h⟩
      by_cases heligible : block.eligibility = .eligible
      · rw [if_neg (not_not.2 heligible)] at h
        obtain ⟨side', hside, -⟩ := Option.map_eq_some_iff.1 h
        refine ⟨slotId, index, block, hslot, hindex, hblock, heligible, ?_⟩
        unfold labelSide at hside
        split_ifs at hside with hleft hright
        · exact .inl hleft
        · exact .inr hright
      · rw [if_pos heligible] at h
        cases h
  · simp [side?, husable]

instance : DecidablePred plan.Compares := fun _ => decidable_of_iff _ compares_iff.symm

/-- A compared observation is grouped exactly if it has a path and a mode. -/
theorem groupEntry_isSome :
    (plan.groupEntry classified).isSome = true ↔ plan.Compares classified ∧
      pathIdentity plan.callsign classified.observation ≠ none ∧ modeOf classified ≠ none := by
  rw [compares_iff]
  unfold groupEntry observationStratum modeOf
  cases plan.side? classified <;> cases pathIdentity plan.callsign classified.observation <;>
    cases classified.observation.mode.bind SignalMode.normalize <;> simp

end ComparisonPlan

theorem resolve_length {observations : List ObservationRecord} (hne : observations ≠ [])
    (hconflict : (resolve observations).conflict = false) :
    observations.length = (resolve observations).duplicateCount + 1 := by
  have hlength : (sortById observations).length = observations.length :=
    (sortOn_perm _ _).length_eq
  unfold resolve at hconflict ⊢
  cases hsorted : sortById observations with
  | nil =>
    rw [hsorted] at hlength
    exact absurd (List.length_eq_zero_iff.1 hlength.symm) hne
  | cons first rest =>
    rw [hsorted] at hlength hconflict
    dsimp only at hconflict ⊢
    split_ifs at hconflict ⊢ with hdiffer hfinite
    · rw [← hlength, List.length_cons]
    · rw [← hlength, List.length_cons]

theorem resolve_conflict_finite {observations : List ObservationRecord}
    (hconflict : (resolve observations).conflict = true) :
    (resolve observations).finite = none := by
  unfold resolve at hconflict ⊢
  cases hsorted : sortById observations with
  | nil => rfl
  | cons first rest =>
    rw [hsorted] at hconflict
    dsimp only at hconflict ⊢
    split_ifs at hconflict ⊢ with hdiffer hfinite
    rfl

/-- A measured side is paired, unmatched or opposite a conflict. -/
theorem resolve_split (condition : Bool) (side : ResolvedObservation)
    (others : List ObservationRecord) :
    (condition && side.finite.isSome).toNat =
      (condition && (side.finite.isSome && (resolve others).finite.isSome)).toNat +
        (condition && isUnmatched side (resolve others)).toNat +
        (condition && (side.finite.isSome && (resolve others).conflict)).toNat := by
  have hconflict : (resolve others).conflict = true → (resolve others).finite = none :=
    resolve_conflict_finite
  unfold isUnmatched
  cases hother : (resolve others).conflict with
  | true =>
    rw [hconflict hother]
    cases condition <;> cases side.finite <;> rfl
  | false => cases condition <;> cases side.finite <;> cases (resolve others).finite <;> rfl

def PairGroup.on (group : PairGroup) : ComparisonSide → List ObservationRecord
  | .left => group.left
  | .right => group.right

/-- The observations of a group, with the group and their side. -/
def groupMembers (group : ComparisonPlan.GroupKey × PairGroup) :
    List (ComparisonPlan.GroupKey × ComparisonSide × ObservationRecord) :=
  group.2.left.map (fun observation => (group.1, .left, observation)) ++
    group.2.right.map fun observation => (group.1, .right, observation)

/-- The group is one of this stratum and remote path. -/
def PathOverlapRow.Holds (row : PathOverlapRow) (group : ComparisonPlan.GroupKey × PairGroup) :
    Prop :=
  (ofLex group.1).1 = stratumKey row.stratum ∧ (ofLex (ofLex group.1).2).2 = row.remotePath

instance (row : PathOverlapRow) : DecidablePred row.Holds := fun _ =>
  inferInstanceAs (Decidable (_ ∧ _))

/-- The groups of a row whose sides come to this. -/
def PathOverlapRow.blocksWhere (row : PathOverlapRow)
    (groups : List (ComparisonPlan.GroupKey × PairGroup))
    (p : ResolvedObservation → ResolvedObservation → Bool) : ℕ :=
  groups.countP fun group => row.Holds group && p (resolve group.2.left) (resolve group.2.right)

/-- What is measured on one side is paired, unmatched or opposite a conflict. Opposite an
observation without a measurement it is unmatched. -/
structure PathOverlapRow.Conserves (row : PathOverlapRow)
    (groups : List (ComparisonPlan.GroupKey × PairGroup)) : Prop where
  left : row.leftFiniteCount = row.pairedCount + row.unmatchedLeftCount +
    row.blocksWhere groups fun left right => left.finite.isSome && right.conflict
  right : row.rightFiniteCount = row.pairedCount + row.unmatchedRightCount +
    row.blocksWhere groups fun left right => right.finite.isSome && left.conflict
  unmatchedLeft : row.unmatchedLeftCount = row.blocksWhere groups isUnmatched
  unmatchedRight :
    row.unmatchedRightCount = row.blocksWhere groups fun left right => isUnmatched right left

/-- Where every compared observation went. -/
structure GroupsConserve (plan : ComparisonPlan) (observations : List ClassifiedObservation)
    (groups : List (ComparisonPlan.GroupKey × PairGroup)) (tallies : ComparisonTallies) : Prop where
  ambiguous : tallies.diagnostics.ambiguousPathCount = observations.countP fun classified =>
    plan.Compares classified ∧ pathIdentity plan.callsign classified.observation = none
  modes : tallies.diagnostics.missingOrInvalidModeCount = observations.countP fun classified =>
    plan.Compares classified ∧ ComparisonPlan.modeOf classified = none
  grouped : ∀ classified, (plan.groupEntry classified).isSome = true ↔
    plan.Compares classified ∧
      pathIdentity plan.callsign classified.observation ≠ none ∧
        ComparisonPlan.modeOf classified ≠ none
  keys : (groups.map (·.1)).Nodup
  members : (groups.flatMap groupMembers).Perm (observations.filterMap plan.groupEntry)
  sizes : ∀ group ∈ groups, ∀ side, group.2.on side ≠ [] →
    (resolve (group.2.on side)).conflict = false →
      (group.2.on side).length = (resolve (group.2.on side)).duplicateCount + 1
  rows : ∀ row ∈ tallies.overlapRows, row.Conserves groups

/-- The groups the loop leaves. -/
def pairGroups (entries : List (ComparisonPlan.GroupKey × ComparisonSide × ObservationRecord)) :
    List (ComparisonPlan.GroupKey × PairGroup) :=
  (groups entries).map fun group =>
    (group.1, ⟨sideObservations .left group.2, sideObservations .right group.2⟩)

theorem pairGroups_keys_nodup
    (entries : List (ComparisonPlan.GroupKey × ComparisonSide × ObservationRecord)) :
    ((pairGroups entries).map (·.1)).Nodup := by
  rw [pairGroups, List.map_map]
  exact groups_nodup entries

theorem sideMembers_perm (key : ComparisonPlan.GroupKey)
    (members : List (ComparisonSide × ObservationRecord)) :
    (groupMembers (key, ⟨sideObservations .left members, sideObservations .right members⟩)).Perm
      (members.map fun member => (key, member)) := by
  have hside : ∀ side, (sideObservations side members).map (fun observation =>
      (key, side, observation)) = (members.filter (·.1 = side)).map fun member =>
        (key, member) := by
    intro side
    rw [sideObservations, List.map_map]
    apply List.map_congr_left
    intro member hmember
    have hkey : member.1 = side := by simpa using (List.mem_filter.1 hmember).2
    simp [← hkey]
  have hright : members.filter (·.1 = .right) = members.filter fun member => !(member.1 = .left) :=
    List.filter_congr fun member _ => by cases member.1 <;> simp
  rw [groupMembers, hside, hside, ← List.map_append, hright]
  exact (List.filter_append_perm _ members).map _

/-- The groups hold every entry once. -/
theorem pairGroups_members
    (entries : List (ComparisonPlan.GroupKey × ComparisonSide × ObservationRecord)) :
    ((pairGroups entries).flatMap groupMembers).Perm entries := by
  rw [pairGroups, List.flatMap_map]
  refine (List.Perm.flatMap_left _ fun group _ => ?_).trans (groups_perm entries)
  exact sideMembers_perm group.1 group.2

theorem countP_mapM {α β : Type} {f : α → Option β} {items : List α} {results : List β}
    (h : items.mapM f = some results) {p : β → Bool} {q : α → Bool}
    (hpq : ∀ a ∈ items, ∀ b, f a = some b → p b = q a) : results.countP p = items.countP q := by
  induction items generalizing results with
  | nil =>
    obtain rfl : results = [] := by simpa using h.symm
    rfl
  | cons a items ih =>
    simp only [List.mapM_cons, Option.bind_eq_bind, Option.bind_eq_some_iff] at h
    obtain ⟨head, hhead, rest, hrest, h⟩ := h
    obtain rfl := Option.some.inj h
    rw [List.countP_cons, List.countP_cons, hpq a List.mem_cons_self head hhead,
      ih hrest fun b hb => hpq b (List.mem_cons_of_mem _ hb)]

namespace ComparisonPlan

variable {plan : ComparisonPlan}

/-- What an outcome has of its group. -/
theorem pairOutcome_spec {group : GroupKey × List (ComparisonSide × ObservationRecord)}
    {outcome : PairOutcome} (h : plan.pairOutcome group = some outcome) :
    outcome.key = (ofLex group.1).1 ∧ outcome.remotePath = (ofLex (ofLex group.1).2).2 ∧
      outcome.left.resolved = resolve (sideObservations .left group.2) ∧
      outcome.right.resolved = resolve (sideObservations .right group.2) ∧
      outcome.row.isSome =
        (outcome.left.resolved.finite.isSome && outcome.right.resolved.finite.isSome) := by
  obtain ⟨key, members⟩ := group
  simp only [pairOutcome, Option.bind_eq_bind, Option.bind_eq_some_iff] at h
  obtain ⟨stratum, -, block, -, h⟩ := h
  simp only [sideOutcome] at h
  cases hleft : (resolve (sideObservations .left members)).finite with
  | none =>
    rw [hleft] at h
    obtain rfl := Option.some.inj h
    simp [hleft]
  | some leftObservation =>
    cases hright : (resolve (sideObservations .right members)).finite with
    | none =>
      rw [hleft, hright] at h
      obtain rfl := Option.some.inj h
      simp [hright]
    | some rightObservation =>
      rw [hleft, hright] at h
      obtain ⟨row, hrow, h⟩ := Option.bind_eq_some_iff.1 h
      obtain ⟨found, -, rfl⟩ := Option.map_eq_some_iff.1 hrow
      obtain rfl := Option.some.inj h
      simp [hleft, hright]

/-- The key of a group is the key of a stratum. -/
theorem groupEntry_stratum {classified : ClassifiedObservation}
    {entry : GroupKey × ComparisonSide × ObservationRecord}
    (h : plan.groupEntry classified = some entry) :
    ∃ stratum, (ofLex entry.1).1 = stratumKey stratum ∧
      stratumFromKey (stratumKey stratum) = some stratum := by
  simp only [groupEntry, observationStratum, Option.bind_eq_bind, Option.bind_eq_some_iff] at h
  obtain ⟨⟨side, index⟩, -, ⟨stratum, remotePath⟩, ⟨⟨direction, path⟩, -, mode, hmode, hstratum⟩,
    hentry⟩ := h
  obtain ⟨rfl, rfl⟩ := Prod.mk.inj (Option.some.inj hstratum)
  obtain rfl := Option.some.inj hentry
  obtain ⟨value, -, hvalue⟩ := hmode
  exact ⟨_, rfl, stratumFromKey_stratumKey hvalue⟩

theorem countP_split {α : Type} {p q r t : α → Bool} {items : List α}
    (h : ∀ a ∈ items, (p a).toNat = (q a).toNat + (r a).toNat + (t a).toNat) :
    items.countP p = items.countP q + items.countP r + items.countP t := by
  induction items with
  | nil => rfl
  | cons a items ih =>
    have hhead := h a List.mem_cons_self
    have htail := ih fun b hb => h b (List.mem_cons_of_mem _ hb)
    have hone : ∀ b : Bool, (if b = true then 1 else 0) = b.toNat := by
      intro b
      cases b <;> rfl
    simp only [List.countP_cons, hone]
    omega

/-- The groups and the outcomes of one overlap row. -/
theorem overlapRow_spec {observations : List ClassifiedObservation} {outcomes : List PairOutcome}
    {rows : List PathOverlapRow} (houtcomes : plan.outcomes observations = some outcomes)
    (hrows : AntennaBench.overlapRows outcomes = some rows) {row : PathOverlapRow}
    (hrow : row ∈ rows) :
    row = ((outcomes.filter fun outcome =>
        outcome.key = stratumKey row.stratum ∧ outcome.remotePath = row.remotePath).foldl
      OverlapAccumulator.addOutcome {}).finish row.stratum row.remotePath := by
  obtain ⟨⟨pathKey, members⟩, hmem, hfinish⟩ := forall₂_exists_left (mapM_eq_some.1 hrows) _ hrow
  obtain ⟨hkey, rfl⟩ := mem_groups.1 hmem
  obtain ⟨stratum, hstratum, hfields⟩ := Option.map_eq_some_iff.1 hfinish
  rw [List.map_map, List.mem_map] at hkey
  obtain ⟨outcome, houtcome, rfl⟩ := hkey
  obtain ⟨group, hgroup, hpair⟩ := forall₂_exists_left (mapM_eq_some.1 houtcomes) _ houtcome
  have hmember : (group.1, group.2) ∈ groups (plan.groupEntries observations) := hgroup
  obtain ⟨entry, hentry, hentryKey⟩ := List.mem_map.1 (mem_groups.1 hmember).1
  obtain ⟨classified, -, hclassified⟩ := List.mem_filterMap.1 hentry
  obtain ⟨origin, horigin, hback⟩ := groupEntry_stratum hclassified
  have hsame : outcome.key = stratumKey origin := by
    rw [(pairOutcome_spec hpair).1, ← hentryKey, horigin]
  have hkey : stratumKey stratum = outcome.key := by
    have hfound : stratumFromKey outcome.key = some stratum := hstratum
    rw [hsame, hback] at hfound
    rw [hsame, Option.some.inj hfound]
  have hpushed : pushed (toLex (outcome.key, outcome.remotePath))
      (outcomes.map fun outcome =>
        ((toLex (outcome.key, outcome.remotePath) : PathKey), outcome)) =
      outcomes.filter fun other =>
        other.key = stratumKey stratum ∧ other.remotePath = outcome.remotePath := by
    rw [pushed, List.filter_map, List.map_map, hkey]
    refine (List.map_id _).trans (List.filter_congr fun other _ => ?_)
    simp
  have hrowStratum : row.stratum = stratum := by rw [← hfields]
  have hrowPath : row.remotePath = outcome.remotePath := by
    rw [← hfields]
    rfl
  rw [OverlapAccumulator.finish_eq, hrowStratum, hrowPath, ← hpushed]
  exact hfields.symm

/-- A count over the outcomes of a row is a count over its groups. -/
theorem blocksWhere_eq {observations : List ClassifiedObservation} {outcomes : List PairOutcome}
    (houtcomes : plan.outcomes observations = some outcomes) (row : PathOverlapRow)
    {p : PairOutcome → Bool} {q : ResolvedObservation → ResolvedObservation → Bool}
    (hpq : ∀ group outcome, plan.pairOutcome group = some outcome →
      p outcome = q outcome.left.resolved outcome.right.resolved) :
    (outcomes.filter fun outcome =>
        outcome.key = stratumKey row.stratum ∧ outcome.remotePath = row.remotePath).countP p =
      row.blocksWhere (pairGroups (plan.groupEntries observations)) q := by
  rw [List.countP_filter, PathOverlapRow.blocksWhere, pairGroups, List.countP_map]
  apply countP_mapM houtcomes
  intro group _ outcome hpair
  obtain ⟨hkey, hpath, hleft, hright, -⟩ := pairOutcome_spec hpair
  rw [hpq group outcome hpair, hkey, hpath, hleft, hright, Bool.and_comm]
  rfl

theorem rows_conserve {observations : List ClassifiedObservation} {outcomes : List PairOutcome}
    {rows : List PathOverlapRow} (houtcomes : plan.outcomes observations = some outcomes)
    (hrows : AntennaBench.overlapRows outcomes = some rows) {row : PathOverlapRow}
    (hrow : row ∈ rows) : row.Conserves (pairGroups (plan.groupEntries observations)) := by
  have hspec := overlapRow_spec houtcomes hrows hrow
  rw [OverlapAccumulator.finish_eq] at hspec
  let here := row.blocksWhere (pairGroups (plan.groupEntries observations))
  have hpaired : row.pairedCount = here fun left right =>
    left.finite.isSome && right.finite.isSome :=
    (congrArg PathOverlapRow.pairedCount hspec).trans (blocksWhere_eq houtcomes row
      fun _ _ hpair => (pairOutcome_spec hpair).2.2.2.2)
  have hleft : row.leftFiniteCount = here fun left _ => left.finite.isSome :=
    (congrArg PathOverlapRow.leftFiniteCount hspec).trans (blocksWhere_eq houtcomes row
      (q := fun left _ => left.finite.isSome) fun _ _ _ => rfl)
  have hright : row.rightFiniteCount = here fun _ right => right.finite.isSome :=
    (congrArg PathOverlapRow.rightFiniteCount hspec).trans (blocksWhere_eq houtcomes row
      (q := fun _ right => right.finite.isSome) fun _ _ _ => rfl)
  have hunmatchedLeft : row.unmatchedLeftCount = here isUnmatched :=
    (congrArg PathOverlapRow.unmatchedLeftCount hspec).trans (blocksWhere_eq houtcomes row
      fun _ outcome _ => (isUnmatched_left outcome).symm)
  have hunmatchedRight : row.unmatchedRightCount = here fun left right => isUnmatched right left :=
    (congrArg PathOverlapRow.unmatchedRightCount hspec).trans (blocksWhere_eq houtcomes row
      (q := fun left right => isUnmatched right left)
      fun _ outcome _ => (isUnmatched_right outcome).symm)
  refine ⟨?_, ?_, hunmatchedLeft, hunmatchedRight⟩
  · rw [hleft, hpaired, hunmatchedLeft]
    exact countP_split fun group _ => resolve_split _ _ _
  · have hswap : here (fun left right => left.finite.isSome && right.finite.isSome) =
        here fun left right => right.finite.isSome && left.finite.isSome :=
      congrArg here (funext fun _ => funext fun _ => Bool.and_comm _ _)
    rw [hright, hpaired, hunmatchedRight, hswap]
    exact countP_split fun group _ => resolve_split _ _ _

theorem countP_decide {p : ClassifiedObservation → Prop} [DecidablePred p]
    {q : ClassifiedObservation → Bool} {observations : List ClassifiedObservation}
    (h : ∀ classified, q classified = true ↔ p classified) :
    observations.countP q = observations.countP fun classified => p classified :=
  List.countP_congr fun classified _ => by rw [h, decide_eq_true_iff]

theorem groupsConserve {observations : List ClassifiedObservation} {outcomes : List PairOutcome}
    {tallies : ComparisonTallies} (houtcomes : plan.outcomes observations = some outcomes)
    (h : tallies.Of plan observations outcomes) :
    GroupsConserve plan observations (pairGroups (plan.groupEntries observations)) tallies where
  ambiguous := by
    rw [h.diagnostics]
    apply countP_decide
    intro classified
    rw [isAmbiguousPath, Bool.and_eq_true, compares_iff, Option.isNone_iff_eq_none]
  modes := by
    rw [h.diagnostics]
    apply countP_decide
    intro classified
    rw [isMissingOrInvalidMode, Bool.and_eq_true, compares_iff, Option.isNone_iff_eq_none]
  grouped _ := groupEntry_isSome
  keys := pairGroups_keys_nodup _
  members := pairGroups_members _
  sizes _ _ _ hne hconflict := resolve_length hne hconflict
  rows _ hrow := rows_conserve houtcomes h.overlapRows hrow

end ComparisonPlan

/-- The plan of a session that is compared. -/
def comparisonPlan? (callsign : String) (schedule : Schedule) (alignedSlots : List AlignedSlot) :
    Option ComparisonPlan :=
  if schedule.mode = .singleAntennaProfiling then none
  else match scheduledLabels schedule with
  | [left, right] => some ⟨callsign, left, right,
      buildBlocks (alignedSlots.insertionSort AlignedSlot.Before) left right⟩
  | _ => none

/-- A session that is not compared has no blocks, rows or strata. -/
theorem analyzePairedComparison_unplanned {callsign : String} {schedule : Schedule}
    {alignedSlots : List AlignedSlot} (h : comparisonPlan? callsign schedule alignedSlots = none)
    (observations : List ClassifiedObservation) :
    ∃ availability, analyzePairedComparison callsign schedule alignedSlots observations =
      some (unavailable availability (scheduledLabels schedule)) := by
  unfold comparisonPlan? at h
  unfold analyzePairedComparison
  by_cases hmode : schedule.mode = .singleAntennaProfiling
  · exact ⟨_, if_pos hmode⟩
  · rw [if_neg hmode] at h
    simp only [if_neg hmode]
    generalize scheduledLabels schedule = labels at h ⊢
    rcases labels with _ | ⟨left, _ | ⟨right, _ | ⟨third, rest⟩⟩⟩
    · exact ⟨.unsupportedComparisonShape, rfl⟩
    · exact ⟨.unsupportedComparisonShape, rfl⟩
    · cases h
    · exact ⟨.unsupportedComparisonShape, rfl⟩

theorem analyzePairedComparison_planned {callsign : String} {schedule : Schedule}
    {alignedSlots : List AlignedSlot} {plan : ComparisonPlan}
    (h : comparisonPlan? callsign schedule alignedSlots = some plan)
    (observations : List ClassifiedObservation) :
    analyzePairedComparison callsign schedule alignedSlots observations =
      (plan.outcomes observations).bind (plan.analysis observations) := by
  unfold comparisonPlan? at h
  unfold analyzePairedComparison
  by_cases hmode : schedule.mode = .singleAntennaProfiling
  · rw [if_pos hmode] at h
    cases h
  · rw [if_neg hmode] at h
    simp only [if_neg hmode]
    generalize scheduledLabels schedule = labels at h ⊢
    rcases labels with _ | ⟨left, _ | ⟨right, _ | ⟨third, rest⟩⟩⟩
    · cases h
    · cases h
    · obtain rfl := Option.some.inj h
      rfl
    · cases h

theorem comparisonPlan?_built {callsign : String} {schedule : Schedule}
    {alignedSlots : List AlignedSlot} {plan : ComparisonPlan}
    (h : comparisonPlan? callsign schedule alignedSlots = some plan) :
    plan.blocks = buildBlocks (alignedSlots.insertionSort AlignedSlot.Before)
      plan.leftLabel plan.rightLabel := by
  unfold comparisonPlan? at h
  split_ifs at h
  split at h
  · rw [← Option.some.inj h]
  · cases h

/-- The block a slot identity is found in is made of a slot of that identity. -/
theorem blockOfSlot_spec {callsign : String} {schedule : Schedule}
    {alignedSlots : List AlignedSlot} {plan : ComparisonPlan}
    (h : comparisonPlan? callsign schedule alignedSlots = some plan) {slotId : String} {index : ℕ}
    (hindex : plan.blockOfSlot slotId = some index) :
    ∃ first second,
      (runPairs AlignedSlot.band (alignedSlots.insertionSort AlignedSlot.Before))[index]? =
        some (first, second) ∧
      ∃ slot, (first = slot ∨ second = some slot) ∧ slot.slotId = slotId := by
  obtain ⟨before, after, hsplit, -⟩ := List.lookup_eq_some_iff.1 hindex
  have hmem : (slotId, index) ∈ plan.blocks.flatMap fun block =>
      block.slotIds.map (·, block.blockIndex) := by
    rw [← List.mem_reverse, hsplit]
    exact List.mem_append_right _ List.mem_cons_self
  obtain ⟨block, hblock, hslot⟩ := List.mem_flatMap.1 hmem
  obtain ⟨found, hfound, heq⟩ := List.mem_map.1 hslot
  rw [comparisonPlan?_built h] at hblock
  obtain ⟨place, first, second, hplace, rfl⟩ := mem_buildBlocks.1 hblock
  obtain ⟨rfl, rfl⟩ := Prod.mk.inj heq
  refine ⟨first, second, List.mk_mem_zipIdx_iff_getElem?.1 hplace, ?_⟩
  rcases List.mem_cons.1 hfound with rfl | hsecond
  · exact ⟨first, .inl rfl, rfl⟩
  · obtain ⟨other, hother, rfl⟩ := Option.map_eq_some_iff.1 (Option.mem_toList.1 hsecond)
    exact ⟨other, .inr hother, rfl⟩

theorem comparisonPlan?_indexesBlocks {callsign : String} {schedule : Schedule}
    {alignedSlots : List AlignedSlot} {plan : ComparisonPlan}
    (h : comparisonPlan? callsign schedule alignedSlots = some plan) : plan.IndexesBlocks := by
  intro slotId index hindex
  obtain ⟨first, second, hplace, -⟩ := blockOfSlot_spec h hindex
  have hlt := (List.getElem?_eq_some_iff.1 hplace).1
  have hlength : index < (buildBlocks (alignedSlots.insertionSort AlignedSlot.Before)
      plan.leftLabel plan.rightLabel).length := by
    rw [buildBlocks, List.length_map, List.length_zipIdx]
    exact hlt
  rw [comparisonPlan?_built h]
  exact Option.isSome_iff_exists.2 ⟨_, List.getElem?_eq_getElem hlength⟩

theorem unavailable_countersAgree (availability : ComparisonAvailability) (labels : List String) :
    (unavailable availability labels).tallies.CountersAgree := by
  constructor <;> first | exact ⟨rfl, rfl⟩ | rfl

/-- The plan the analysis of a bundle compares with. -/
def BundleContents.comparisonPlan? (bundle : BundleContents) (report : BundleValidationReport) :
    Option ComparisonPlan :=
  AntennaBench.comparisonPlan? bundle.station.callsign (analysisBundle bundle report).schedule
    (analysisAlignment bundle report).slots

/-- The counts of a summary conserve the observations of the bundle: the evidence of
every level, the counters of the comparison, and the groups its loops leave. -/
structure ConservesObservations (bundle : BundleContents) (report : BundleValidationReport)
    (summary : AnalysisSummary) : Prop where
  overall : summary.overall.Balanced
  antennas : ∀ antenna ∈ summary.antennas, antenna.evidence.Balanced
  bands : ∀ band ∈ summary.bands, band.evidence.Balanced
  slots : ∀ slot ∈ summary.slots, slot.evidence.Balanced
  total : summary.overall.observationCounts.total = bundle.observations.length
  bandTotals : (summary.bands.map (·.evidence.observationCounts.total)).sum =
    summary.overall.observationCounts.total
  counters : summary.comparison.tallies.CountersAgree
  groups : ∀ plan, bundle.comparisonPlan? report = some plan → ∃ observations grouped,
    classifyObservations bundle report = some observations ∧
      plan.grouped observations = some grouped ∧
      plan.tallies observations = some summary.comparison.tallies ∧
      GroupsConserve plan observations grouped.groups summary.comparison.tallies

theorem classifyObservations_length {bundle : BundleContents} {report : BundleValidationReport}
    {observations : List ClassifiedObservation}
    (h : classifyObservations bundle report = some observations) :
    observations.length = bundle.observations.length := by
  have hlength : ∀ {α β : Type} {f : α → Option β} {items : List α} {results : List β},
      items.mapM f = some results → results.length = items.length := by
    intro α β f items results hresults
    have hcount := countP_mapM hresults (p := fun _ => true) (q := fun _ => true)
      fun _ _ _ _ => rfl
    simpa using hcount
  rw [hlength h, List.length_zipIdx, List.length_zip]
  simp [analysisBundle, analysisAlignment, alignScheduleSlots]

theorem orPanic_eq_ok {α : Type} {value : Option α} {a : α} :
    orPanic value = .ok a ↔ value = some a := by
  cases value <;> simp [orPanic]

/-- What a summary is made of. -/
theorem summarizeWithReport_spec {elevation : SolarElevation} {limits : AnalysisResourceLimits}
    {bundle : BundleContents} {report : BundleValidationReport} {summary : AnalysisSummary}
    (h : summarizeWithReport elevation limits bundle report = .ok summary) :
    ∃ observations, classifyObservations bundle report = some observations ∧
      analyzePairedComparison bundle.station.callsign (analysisBundle bundle report).schedule
        (analysisAlignment bundle report).slots observations = some summary.comparison ∧
      summary.overall = evidence observations ∧
      summary.antennas = bundle.antennas.antennas.map (summarizeAntenna observations) ∧
      summary.bands =
        summarizeBands (analysisBundle bundle report).schedule.slots observations ∧
      summary.slots = (analysisAlignment bundle report).slots.map (summarizeSlot observations) := by
  unfold summarizeWithReport at h
  split_ifs at h with hfatal
  · cases h
  · simp only [bind_eq_ok, summarizeClassified] at h
    obtain ⟨_, -, _, -, _, -, _, -, _, -, _, -, _, -, _, -, _, -, observations, hobservations, _, -,
      _, -, _, -, comparison, hcomparison, _, -, solarContext, -, _, -, _, -, h⟩ := h
    obtain rfl := Except.ok.inj h
    exact ⟨observations, orPanic_eq_ok.1 hobservations, orPanic_eq_ok.1 hcomparison, rfl, rfl, rfl,
      rfl⟩

/-- A summary conserves the observations of its bundle, whatever report it goes by. -/
theorem summarizeWithReport_conserves {elevation : SolarElevation}
    {limits : AnalysisResourceLimits} {bundle : BundleContents} {report : BundleValidationReport}
    {summary : AnalysisSummary}
    (h : summarizeWithReport elevation limits bundle report = .ok summary) :
    ConservesObservations bundle report summary := by
  obtain ⟨observations, hobservations, hcomparison, hoverall, hantennas, hbands, hslots⟩ :=
    summarizeWithReport_spec h
  have htotal : summary.overall.observationCounts.total = observations.length := by
    rw [hoverall]
    rfl
  have hcompared : summary.comparison.tallies.CountersAgree ∧
      ∀ plan, bundle.comparisonPlan? report = some plan → ∃ grouped,
        plan.grouped observations = some grouped ∧
          plan.tallies observations = some summary.comparison.tallies ∧
          GroupsConserve plan observations grouped.groups summary.comparison.tallies := by
    cases hplan : bundle.comparisonPlan? report with
    | none =>
      obtain ⟨availability, hunavailable⟩ := analyzePairedComparison_unplanned hplan observations
      rw [hcomparison] at hunavailable
      rw [Option.some.inj hunavailable]
      exact ⟨unavailable_countersAgree _ _, nofun⟩
    | some plan =>
      rw [analyzePairedComparison_planned hplan observations] at hcomparison
      obtain ⟨outcomes, houtcomes, hanalysis⟩ := Option.bind_eq_some_iff.1 hcomparison
      have hindexes := comparisonPlan?_indexesBlocks hplan
      have hof := ComparisonPlan.analysis_tallies hanalysis
      refine ⟨hof.countersAgree, ?_⟩
      rintro _ ⟨⟩
      refine ⟨_, ComparisonPlan.grouped_eq hindexes observations,
        ComparisonPlan.tallies_eq hindexes houtcomes hanalysis, ?_⟩
      rw [ComparisonPlan.pushed_groups]
      exact ComparisonPlan.groupsConserve houtcomes hof
  exact {
    overall := hoverall ▸ evidence_balanced observations
    antennas := by
      rw [hantennas]
      intro antenna hantenna
      obtain ⟨record, -, rfl⟩ := List.mem_map.1 hantenna
      exact evidence_balanced _
    bands := by
      rw [hbands]
      intro band hband
      obtain ⟨name, -, rfl⟩ := List.mem_map.1 hband
      exact evidence_balanced _
    slots := by
      rw [hslots]
      intro slot hslot
      obtain ⟨aligned, -, rfl⟩ := List.mem_map.1 hslot
      exact evidence_balanced _
    total := by rw [htotal, classifyObservations_length hobservations]
    bandTotals := by rw [htotal, hbands, sum_summarizeBands]
    counters := hcompared.1
    groups := fun plan hplan => by
      obtain ⟨grouped, hgrouped, htallies, hconserve⟩ := hcompared.2 plan hplan
      exact ⟨observations, grouped, hobservations, hgrouped, htallies, hconserve⟩ }

/-- The summary of a bundle under its own report conserves the observations. -/
theorem summarizeBundle_conserves (F : TextFormat) (elevation : SolarElevation)
    (bundle : BundleContents) (summary : AnalysisSummary)
    (h : summarizeBundle F elevation bundle = .ok summary) :
    ConservesObservations bundle (validateBundleReport F bundle) summary :=
  summarizeWithReport_conserves h

namespace Scenario

/-- A report one minute into the second slot. -/
def abSecond (observationId : String) (snrDb : Option IeeeFloat) : ObservationRecord :=
  { abObservation observationId snrDb with
    recordMeta := ⟨1, "s1", atSecond 180, .wsprLive⟩
    slotId := some "b"
    slotLabel := some "B" }

def pairBundle : BundleContents :=
  abBundle [abObservation "o1" (some (.finite 5)), abObservation "o2" (some (.finite 5)),
    abSecond "o3" (some (.finite 7)),
    { abSecond "o4" (some (.finite 3)) with reporterCall := some "K2ABC" }]

theorem pairBundle_conserves :
    ∃ summary, summarizeBundle textFormat flatElevation pairBundle = .ok summary ∧
      (summary.comparison.pairedRows.length = 1 ∧
        summary.comparison.diagnostics.exactDuplicateCount = 1 ∧
        summary.comparison.diagnostics.unmatchedRightCount = 1) ∧
      ConservesObservations pairBundle (validateBundleReport textFormat pairBundle) summary := by
  have hany : (summarizeBundle textFormat flatElevation pairBundle).toOption.any (fun summary =>
      summary.comparison.pairedRows.length = 1 ∧
        summary.comparison.diagnostics.exactDuplicateCount = 1 ∧
        summary.comparison.diagnostics.unmatchedRightCount = 1) = true := by
    decide +kernel
  obtain ⟨summary, hok, hcounts⟩ := exists_ok_of_any hany
  exact ⟨summary, hok, of_decide_eq_true hcounts, summarizeBundle_conserves _ _ _ _ hok⟩

end Scenario

end AntennaBench
