import AntennaBench.Analysis.PairSlots
import AntennaBench.Timeline.Cells

/-!
# Observed path profiles

What a report may rely on in the profiles of a comparison. A stratum and a side have one
profile, a profile has one row for each remote path, and a path is counted once in each of
the eligible blocks it was observed in.
-/

namespace AntennaBench

open Timeline

/-- An available location has a distance and a bearing within their ranges. -/
def ObservedPathLocation.Valid : ObservedPathLocation → Prop
  | available _ distance bearing =>
    (distance.isFinite = true ∧ IeeeFloat.zero.le distance = true) ∧
      bearing.isFinite = true ∧ IeeeFloat.zero.le bearing = true ∧
        bearing.lt (.finite 360) = true
  | _ => True

structure ObservedAntennaPath.Sound (path : ObservedAntennaPath) (blocks : List ComparisonBlock) :
    Prop where
  support : path.blockSupportCount = path.blockIndices.length
  once : path.observationCount = path.blockSupportCount
  supported : 0 < path.blockSupportCount
  ascending : path.blockIndices.Pairwise (· < ·)
  eligible : ∀ index ∈ path.blockIndices, ∃ block,
    blocks[index]? = some block ∧ block.eligibility = .eligible
  location : path.location.Valid

structure ObservedAntennaPathProfile.Sound (profile : ObservedAntennaPathProfile)
    (blocks : List ComparisonBlock) : Prop where
  unique : profile.uniquePathCount = profile.paths.length
  located : profile.locatedPathCount = profile.paths.countP (·.location.isAvailable)
  missing : profile.missingLocationPathCount = profile.paths.countP (·.location.isMissing)
  inconsistent : profile.inconsistentLocationPathCount =
    profile.paths.countP (·.location.isInconsistent)
  ascending : (profile.paths.map (·.remotePath)).Pairwise (· < ·)
  paths : ∀ path ∈ profile.paths, path.Sound blocks

structure PairedComparisonAnalysis.ProfilesSound (comparison : PairedComparisonAnalysis) :
    Prop where
  profiles : ∀ profile ∈ comparison.observedPathProfiles, profile.Sound comparison.blocks
  distinct : comparison.observedPathProfiles.Pairwise fun profile other =>
    (profile.stratum, profile.side) ≠ (other.stratum, other.side)

theorem locationFact_valid {callsign : String} {observation : ObservationRecord}
    {grid : String} {distance bearing : IeeeFloat}
    (h : locationFact callsign observation = some (grid, distance, bearing)) :
    (ObservedPathLocation.available grid distance bearing).Valid := by
  simp only [locationFact, Option.bind_eq_bind, Option.bind_eq_some_iff] at h
  obtain ⟨found, -, foundDistance, -, foundBearing, -, h⟩ := h
  split_ifs at h with hvalid
  obtain ⟨-, hrest⟩ := Prod.mk.inj (Option.some.inj h)
  obtain ⟨rfl, rfl⟩ := Prod.mk.inj hrest
  simp only [Bool.and_eq_true] at hvalid
  obtain ⟨⟨⟨⟨⟨-, hfinite⟩, hzero⟩, hbearing⟩, hbearingZero⟩, hlt⟩ := hvalid
  exact ⟨⟨hfinite, hzero⟩, hbearing, hbearingZero, hlt⟩

theorem observedPathLocation_valid (callsign : String) (observations : List ObservationRecord) :
    (observedPathLocation callsign observations).Valid := by
  unfold observedPathLocation
  dsimp only
  cases hfacts : observations.filterMap (locationFact callsign) with
  | nil => trivial
  | cons fact facts =>
    have hfact : fact ∈ observations.filterMap (locationFact callsign) := by
      rw [hfacts]
      exact List.mem_cons_self
    obtain ⟨observation, -, hvalid⟩ := List.mem_filterMap.1 hfact
    dsimp only
    split_ifs
    · trivial
    · exact locationFact_valid hvalid

/-- The key of the group an outcome is made of. -/
def PairOutcome.groupKey (outcome : PairOutcome) : ComparisonPlan.GroupKey :=
  toLex (outcome.key, toLex (outcome.blockIndex, outcome.remotePath))

theorem pairOutcome_groupKey {plan : ComparisonPlan}
    {group : ComparisonPlan.GroupKey × List (ComparisonSide × ObservationRecord)}
    {outcome : PairOutcome} (h : plan.pairOutcome group = some outcome) :
    outcome.groupKey = group.1 := by
  simp only [ComparisonPlan.pairOutcome, Option.bind_eq_bind, Option.bind_eq_some_iff] at h
  obtain ⟨stratum, -, block, -, h⟩ := h
  split at h
  · obtain ⟨row, -, h⟩ := Option.bind_eq_some_iff.1 h
    obtain rfl := Option.some.inj h
    rfl
  · obtain rfl := Option.some.inj h
    rfl

theorem outcomes_groupKeys {plan : ComparisonPlan} {observations : List ClassifiedObservation}
    {outcomes : List PairOutcome} (h : plan.outcomes observations = some outcomes) :
    outcomes.map (·.groupKey) = (groups (plan.groupEntries observations)).map (·.1) := by
  unfold ComparisonPlan.outcomes at h
  generalize groups (plan.groupEntries observations) = items at h ⊢
  induction items generalizing outcomes with
  | nil =>
    obtain rfl : outcomes = [] := by simpa using h.symm
    rfl
  | cons group items ih =>
    simp only [List.mapM_cons, Option.bind_eq_bind, Option.bind_eq_some_iff] at h
    obtain ⟨outcome, houtcome, rest, hrest, h⟩ := h
    obtain rfl := Option.some.inj h
    rw [List.map_cons, List.map_cons, ih hrest, pairOutcome_groupKey houtcome]

theorem mem_profileEntries {outcome : PairOutcome} {entry : ProfilePathKey × ℕ × ObservationRecord}
    (h : entry ∈ outcome.profileEntries) : ∃ side observation,
      entry = (toLex (outcome.key, toLex (side, outcome.remotePath)), outcome.blockIndex,
        observation) ∧ side < 2 := by
  rcases List.mem_append.1 h with hside | hside
  · obtain ⟨observation, -, rfl⟩ := List.mem_map.1 hside
    exact ⟨0, observation, rfl, by omega⟩
  · obtain ⟨observation, -, rfl⟩ := List.mem_map.1 hside
    exact ⟨1, observation, rfl, by omega⟩

/-- A path is observed once in a block. -/
theorem profileEntries_once {outcomes : List PairOutcome}
    (h : (outcomes.map (·.groupKey)).Nodup) :
    ((outcomes.flatMap (·.profileEntries)).map fun entry => (entry.1, entry.2.1)).Nodup := by
  rw [List.map_flatMap, List.nodup_flatMap]
  constructor
  · intro outcome _
    unfold PairOutcome.profileEntries
    cases outcome.left.profile <;> cases outcome.right.profile <;> simp
  · apply (List.pairwise_map.1 h).imp
    intro outcome other hne entry hentry hother
    obtain ⟨found, hfound, rfl⟩ := List.mem_map.1 hentry
    obtain ⟨twin, htwin, heq⟩ := List.mem_map.1 hother
    obtain ⟨side, observation, rfl, -⟩ := mem_profileEntries hfound
    obtain ⟨side', observation', rfl, -⟩ := mem_profileEntries htwin
    simp only [Prod.mk.injEq, EmbeddingLike.apply_eq_iff_eq] at heq
    apply hne
    rw [PairOutcome.groupKey, PairOutcome.groupKey, heq.1.1, heq.1.2.2, heq.2]

theorem pushed_nodup {κ α ι : Type} [LinearOrder κ] {entries : List (κ × α)} {index : α → ι}
    (h : (entries.map fun entry => (entry.1, index entry.2)).Nodup) (k : κ) :
    ((pushed k entries).map index).Nodup := by
  have hclass : ((entries.filter (·.1 = k)).map fun entry => (entry.1, index entry.2)).Nodup :=
    h.sublist (List.filter_sublist.map _)
  rw [pushed, List.map_map]
  apply List.Nodup.of_map (Prod.mk k)
  rw [List.map_map]
  convert hclass using 1
  apply List.map_congr_left
  intro entry hentry
  have hkey : entry.1 = k := by simpa using (List.mem_filter.1 hentry).2
  rw [← hkey]
  rfl

theorem finishPath_sound {callsign remotePath : String}
    {observations : List (ℕ × ObservationRecord)} {blocks : List ComparisonBlock}
    (hne : observations ≠ []) (honce : (observations.map (·.1)).Nodup)
    (heligible : ∀ item ∈ observations, ∃ block,
      blocks[item.1]? = some block ∧ block.eligibility = .eligible) :
    (finishPath callsign remotePath observations).Sound blocks := by
  have hperm := sortOn_perm (·.2.observationId) observations
  have hnodup := (hperm.map (·.1)).nodup_iff.2 honce
  have hlength : (finishPath callsign remotePath observations).blockSupportCount =
      observations.length := by
    have hcard := sortedKeys_length ((sortOn (·.2.observationId) observations).map (·.1))
    rw [List.toFinset_card_of_nodup hnodup, List.length_map, hperm.length_eq] at hcard
    exact hcard
  constructor
  · rfl
  · rw [hlength]
    exact hperm.length_eq
  · rw [hlength]
    exact List.length_pos_iff.2 hne
  · exact sortedKeys_ascending _
  · intro index hindex
    obtain ⟨item, hitem, rfl⟩ := List.mem_map.1 (mem_sortedKeys.1 hindex)
    exact heligible item (mem_sortOn.1 hitem)
  · exact observedPathLocation_valid callsign _

section

variable {plan : ComparisonPlan} {observations : List ClassifiedObservation}
  {outcomes : List PairOutcome}

theorem outcome_eligible (h : plan.outcomes observations = some outcomes) {outcome : PairOutcome}
    (hmem : outcome ∈ outcomes) : ∃ block,
      plan.blocks[outcome.blockIndex]? = some block ∧ block.eligibility = .eligible := by
  have hkey : outcome.groupKey ∈ (groups (plan.groupEntries observations)).map (·.1) := by
    rw [← outcomes_groupKeys h]
    exact List.mem_map_of_mem hmem
  obtain ⟨group, hgroup, hgroupKey⟩ := List.mem_map.1 hkey
  obtain ⟨entry, hentry, hentryKey⟩ := List.mem_map.1 (mem_groups.1 hgroup).1
  obtain ⟨classified, -, hclassified⟩ := List.mem_filterMap.1 hentry
  obtain ⟨hside, -⟩ := ComparisonPlan.groupEntry_spec hclassified
  obtain ⟨-, -, -, block, hblock, heligible⟩ := ComparisonPlan.side?_spec hside
  rw [hentryKey, hgroupKey] at hblock
  exact ⟨block, hblock, heligible⟩

theorem outcomes_groupKeys_nodup (h : plan.outcomes observations = some outcomes) :
    (outcomes.map (·.groupKey)).Nodup := by
  rw [outcomes_groupKeys h, groups, List.map_map]
  exact (List.map_id _).symm ▸ sortedKeys_nodup _

/-- The paths of the profiles are sound, and told apart by stratum, side and remote call. -/
theorem profilePaths_sound (h : plan.outcomes observations = some outcomes) (callsign : String) :
    (∀ entry ∈ profilePaths callsign outcomes, entry.2.Sound plan.blocks) ∧
      (profilePaths callsign outcomes).Pairwise fun entry other =>
        entry.1 = other.1 → entry.2.remotePath < other.2.remotePath := by
  have honce := profileEntries_once (outcomes_groupKeys_nodup h)
  constructor
  · intro entry hentry
    obtain ⟨⟨key, members⟩, hgroup, rfl⟩ := List.mem_map.1 hentry
    obtain ⟨hkey, rfl⟩ := mem_groups.1 hgroup
    apply finishPath_sound
    · obtain ⟨found, hfound, rfl⟩ := List.mem_map.1 hkey
      exact List.ne_nil_of_mem (mem_pushed.2 hfound)
    · exact pushed_nodup honce key
    · intro item hitem
      obtain ⟨outcome, houtcome, hprofile⟩ := List.mem_flatMap.1 (mem_pushed.1 hitem)
      obtain ⟨side, observation, heq, -⟩ := mem_profileEntries hprofile
      obtain ⟨-, rfl⟩ := Prod.mk.inj heq
      exact outcome_eligible h houtcome
  · have hsorted := sortedKeys_ascending ((outcomes.flatMap (·.profileEntries)).map (·.1))
    rw [profilePaths, groups, List.map_map, List.pairwise_map]
    apply hsorted.imp
    intro key other hlt hsame
    have hkeys : (ofLex key).1 = (ofLex other).1 ∧
        (ofLex (ofLex key).2).1 = (ofLex (ofLex other).2).1 :=
      Prod.mk.inj (toLex.injective hsame)
    rcases Prod.Lex.lt_iff.1 hlt with hstratum | ⟨-, hrest⟩
    · exact absurd hkeys.1 hstratum.ne
    · rcases Prod.Lex.lt_iff.1 hrest with hside | ⟨-, hpath⟩
      · exact absurd hkeys.2 hside.ne
      · exact hpath

/-- The side of a path key is one of the two. -/
theorem profilePaths_key (h : plan.outcomes observations = some outcomes) {callsign : String} :
    ∀ entry ∈ profilePaths callsign outcomes, (ofLex entry.1).2 < 2 ∧ ∃ stratum,
      (ofLex entry.1).1 = stratumKey stratum ∧
        stratumFromKey (stratumKey stratum) = some stratum := by
  intro entry hentry
  obtain ⟨⟨key, members⟩, hgroup, rfl⟩ := List.mem_map.1 hentry
  obtain ⟨found, hfound, hkey⟩ := List.mem_map.1 (mem_groups.1 hgroup).1
  obtain ⟨outcome, houtcome, hprofile⟩ := List.mem_flatMap.1 hfound
  obtain ⟨side, observation, rfl, hside⟩ := mem_profileEntries hprofile
  obtain rfl : toLex (outcome.key, toLex (side, outcome.remotePath)) = key := hkey
  obtain ⟨stratum, hstratum, hfrom, -⟩ := outcome_stratum h houtcome
  exact ⟨hside, stratum, hstratum, hfrom⟩

end

theorem mapM_pairwise {α β : Type} {f : α → Option β} {R : α → α → Prop} {S : β → β → Prop}
    {items : List α} {results : List β} (h : items.mapM f = some results)
    (hitems : items.Pairwise R)
    (hRS : ∀ a ∈ items, ∀ b ∈ items, R a b → ∀ x, f a = some x → ∀ y, f b = some y → S x y) :
    results.Pairwise S := by
  induction items generalizing results with
  | nil =>
    obtain rfl : results = [] := by simpa using h.symm
    exact List.Pairwise.nil
  | cons a items ih =>
    simp only [List.mapM_cons, Option.bind_eq_bind, Option.bind_eq_some_iff] at h
    obtain ⟨head, hhead, rest, hrest, h⟩ := h
    obtain rfl := Option.some.inj h
    obtain ⟨hfirst, hothers⟩ := List.pairwise_cons.1 hitems
    apply List.Pairwise.cons
    · intro y hy
      obtain ⟨b, hb, hfound⟩ := forall₂_exists_left (mapM_eq_some.1 hrest) _ hy
      exact hRS a List.mem_cons_self b (List.mem_cons_of_mem a hb) (hfirst b hb) head hhead y hfound
    · exact ih hrest hothers fun b hb c hc =>
        hRS b (List.mem_cons_of_mem a hb) c (List.mem_cons_of_mem a hc)

theorem buildObservedPathProfiles_sound {plan : ComparisonPlan}
    {observations : List ClassifiedObservation} {outcomes : List PairOutcome}
    (h : plan.outcomes observations = some outcomes) {profiles : List ObservedAntennaPathProfile}
    (hprofiles : buildObservedPathProfiles plan outcomes = some profiles) :
    (∀ profile ∈ profiles, profile.Sound plan.blocks) ∧
      profiles.Pairwise fun profile other =>
        (profile.stratum, profile.side) ≠ (other.stratum, other.side) := by
  obtain ⟨hsound, hpaths⟩ := profilePaths_sound h plan.callsign
  constructor
  · intro profile hprofile
    obtain ⟨⟨key, paths⟩, hgroup, hbuilt⟩ :=
      forall₂_exists_left (mapM_eq_some.1 hprofiles) _ hprofile
    obtain ⟨-, rfl⟩ := mem_groups.1 hgroup
    obtain ⟨stratum, -, rfl⟩ := Option.map_eq_some_iff.1 hbuilt
    constructor
    · rfl
    · rfl
    · rfl
    · rfl
    · rw [pushed, List.map_map, List.pairwise_map]
      apply (hpaths.filter _).imp_of_mem
      intro entry other hentry hother hlt
      have hkey : entry.1 = key := by simpa using (List.mem_filter.1 hentry).2
      have hkey' : other.1 = key := by simpa using (List.mem_filter.1 hother).2
      exact hlt (hkey.trans hkey'.symm)
    · intro path hpath
      exact hsound _ (mem_pushed.1 hpath)
  · have hsorted := groups_ascending (profilePaths plan.callsign outcomes) id
    rw [Ascending, List.pairwise_map] at hsorted
    apply mapM_pairwise hprofiles hsorted
    rintro ⟨key, paths⟩ hgroup ⟨other, others⟩ hother hlt profile hbuilt twin hbuilt'
    obtain ⟨entry, hentry, rfl⟩ := List.mem_map.1 (mem_groups.1 hgroup).1
    obtain ⟨entry', hentry', rfl⟩ := List.mem_map.1 (mem_groups.1 hother).1
    obtain ⟨hside, stratum, hkey, hfrom⟩ := profilePaths_key h entry hentry
    obtain ⟨hside', stratum', hkey', hfrom'⟩ := profilePaths_key h entry' hentry'
    dsimp only at hbuilt hbuilt'
    rw [hkey, hfrom] at hbuilt
    rw [hkey', hfrom'] at hbuilt'
    obtain rfl := Option.some.inj hbuilt
    obtain rfl := Option.some.inj hbuilt'
    intro hsame
    obtain ⟨hstratum, hsides⟩ := Prod.mk.inj hsame
    apply hlt.ne
    have hplace : (ofLex entry.1).2 = (ofLex entry'.1).2 := by
      dsimp only at hsides
      split_ifs at hsides <;> omega
    have hlex : ofLex entry.1 = ofLex entry'.1 := by
      apply Prod.ext
      · rw [hkey, hkey']
        exact congrArg stratumKey hstratum
      · exact hplace
    exact ofLex.injective hlex

/-- The profiles of a comparison are sound. -/
theorem analyzePairedComparison_profiles {callsign : String} {schedule : Schedule}
    {slots : List AlignedSlot} {observations : List ClassifiedObservation}
    {comparison : PairedComparisonAnalysis}
    (h : analyzePairedComparison callsign schedule slots observations = some comparison) :
    comparison.ProfilesSound := by
  cases hplan : comparisonPlan? callsign schedule slots with
  | none =>
    obtain ⟨availability, hnone⟩ := analyzePairedComparison_unplanned hplan observations
    rw [hnone] at h
    obtain rfl := Option.some.inj h
    constructor
    · intro profile hprofile
      cases hprofile
    · exact List.Pairwise.nil
  | some plan =>
    rw [analyzePairedComparison_planned hplan] at h
    obtain ⟨outcomes, houtcomes, h⟩ := Option.bind_eq_some_iff.1 h
    simp only [ComparisonPlan.analysis, Option.bind_eq_bind, Option.bind_eq_some_iff] at h
    obtain ⟨overlap, -, paths, -, profiles, hprofiles, strata, -, h⟩ := h
    obtain rfl := Option.some.inj h
    obtain ⟨hsound, hdistinct⟩ := buildObservedPathProfiles_sound houtcomes hprofiles
    exact ⟨hsound, hdistinct⟩

end AntennaBench
