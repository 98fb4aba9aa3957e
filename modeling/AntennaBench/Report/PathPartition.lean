import AntennaBench.Analysis.PathProfiles
import AntennaBench.Report.OverlapTotals

/-!
# Partitions of the observed paths

The paths of a stratum are those only one antenna reached and those both did. The paths of an
antenna are told apart by how many blocks they were observed in, and the blocks of a path by
their order.
-/

namespace AntennaBench

open Timeline

structure ReportAntennaRepeatability.AddsUp (row : ReportAntennaRepeatability) : Prop where
  endpoints : row.uniqueEndpointCount = row.paths.length
  support : (row.paths.map (·.observedBlockCount)).sum = row.pathBlockObservationCount
  observations : (row.paths.map (·.observationCount)).sum = row.pathBlockObservationCount
  onceOrAgain : row.observedOncePathCount + row.repeatedPathCount = row.uniqueEndpointCount
  distribution :
    (row.blockCountDistribution.map (·.uniquePathCount)).sum = row.uniqueEndpointCount
  weighted : (row.blockCountDistribution.map fun frequency =>
    frequency.observedBlockCount * frequency.uniquePathCount).sum = row.pathBlockObservationCount
  orders : ∀ path ∈ row.paths,
    path.leftThenRightBlockCount + path.rightThenLeftBlockCount = path.observedBlockCount

/-- The blocks are numbered by their places, and the eligible ones have an order. -/
structure BlocksOrdered (blocks : List ComparisonBlock) : Prop where
  indexed : blocks.map (·.blockIndex) = List.range blocks.length
  ordered : ∀ block ∈ blocks, block.eligibility = .eligible → block.order.isSome = true

theorem BlocksOrdered.orderAt {blocks : List ComparisonBlock} (h : BlocksOrdered blocks)
    {index : ℕ} {block : ComparisonBlock} (hblock : blocks[index]? = some block)
    (heligible : block.eligibility = .eligible) :
    (ComparisonBlock.orderAt blocks index).isSome = true := by
  have hplaces : ∀ (i : ℕ) (found : ComparisonBlock), blocks[i]? = some found →
      found.blockIndex = i := by
    intro i found hfound
    have hmap : (blocks.map (·.blockIndex))[i]? = some found.blockIndex := by
      rw [List.getElem?_map, hfound]
      rfl
    rw [h.indexed] at hmap
    obtain ⟨_, hrange⟩ := List.getElem?_eq_some_iff.1 hmap
    rw [List.getElem_range] at hrange
    exact hrange.symm
  have hsome : (blocks.find? (·.blockIndex = index)).isSome = true := by
    rw [List.find?_isSome]
    exact ⟨block, List.mem_of_getElem? hblock, decide_eq_true (hplaces index block hblock)⟩
  obtain ⟨found, hfind⟩ := Option.isSome_iff_exists.1 hsome
  have hindex : found.blockIndex = index := by simpa using List.find?_some hfind
  obtain ⟨i, hi⟩ := List.mem_iff_getElem?.1 (List.mem_of_find?_eq_some hfind)
  obtain rfl : i = index := (hplaces i found hi).symm.trans hindex
  rw [hblock] at hi
  obtain rfl := Option.some.inj hi
  rw [ComparisonBlock.orderAt, hfind]
  exact h.ordered block (List.mem_of_getElem? hblock) heligible

theorem orderCounts_sum {blocks : List ComparisonBlock} {indices : List ℕ}
    (h : ∀ index ∈ indices, (ComparisonBlock.orderAt blocks index).isSome = true) :
    (orderCounts indices blocks).1 + (orderCounts indices blocks).2 = indices.length := by
  induction indices using List.reverseRecOn with
  | nil => rfl
  | append_singleton indices index ih =>
    have hprefix := ih fun i hi => h i (List.mem_append_left _ hi)
    obtain ⟨order, horder⟩ := Option.isSome_iff_exists.1
      (h index (List.mem_append_right _ List.mem_cons_self))
    rw [orderCounts, List.foldl_append, List.foldl_cons, List.foldl_nil, horder,
      List.length_append, List.length_singleton]
    unfold orderCounts at hprefix
    cases order
    · dsimp only
      omega
    · dsimp only
      omega

theorem projectPath_orders {blocks : List ComparisonBlock} (hblocks : BlocksOrdered blocks)
    {path : ObservedAntennaPath} (h : path.Sound blocks) :
    (projectPath blocks path).leftThenRightBlockCount +
      (projectPath blocks path).rightThenLeftBlockCount = path.blockSupportCount := by
  rw [h.support]
  apply orderCounts_sum
  intro index hindex
  obtain ⟨block, hblock, heligible⟩ := h.eligible index hindex
  exact hblocks.orderAt hblock heligible

/-- How many paths were observed in how many blocks. -/
theorem distribution_eq (paths : List ObservedAntennaPath) :
    paths.foldl (fun distribution path =>
      modifyEntry 0 path.blockSupportCount (· + 1) distribution) [] =
        (Timeline.sortedKeys (paths.map (·.blockSupportCount))).map fun k =>
          (k, (paths.filter (·.blockSupportCount = k)).length) := by
  have hcount : ∀ items : List ObservedAntennaPath,
      items.foldl (fun n _ => n + 1) 0 = items.length := by
    intro items
    simp
  rw [foldl_modifyEntry_keyed 0 (·.blockSupportCount) (fun n _ => n + 1) paths]
  simp only [hcount]

theorem projectRepeatability_addsUp {blocks : List ComparisonBlock}
    (hblocks : BlocksOrdered blocks) {profile : ObservedAntennaPathProfile}
    (h : profile.Sound blocks) : (projectRepeatability profile blocks).AddsUp := by
  have hkeys : ∀ path ∈ profile.paths, path.blockSupportCount ∈
      Timeline.sortedKeys (profile.paths.map (·.blockSupportCount)) := fun path hpath =>
    mem_sortedKeys.2 (List.mem_map_of_mem hpath)
  have hsupport : (projectRepeatability profile blocks).pathBlockObservationCount =
      (profile.paths.map (·.blockSupportCount)).sum := by
    rw [projectRepeatability, List.map_map]
    rfl
  have hendpoints : (projectRepeatability profile blocks).uniqueEndpointCount =
      profile.paths.length := List.length_map _
  constructor
  · rfl
  · rfl
  · rw [hsupport, projectRepeatability, List.map_map]
    congr 1
    apply List.map_congr_left
    intro path hpath
    exact (h.paths path hpath).once
  · have hsplit : (projectRepeatability profile blocks).paths.length = _ :=
      List.length_eq_countP_add_countP fun row : ReportPathRepeatability =>
        decide (row.observedBlockCount = 1)
    have hmore : (projectRepeatability profile blocks).repeatedPathCount =
        (projectRepeatability profile blocks).paths.countP fun row =>
          ¬decide (row.observedBlockCount = 1) := by
      apply List.countP_congr
      intro row hrow
      obtain ⟨path, hpath, rfl⟩ := List.mem_map.1 hrow
      have hpositive := (h.paths path hpath).supported
      have hiff : 1 < path.blockSupportCount ↔ ¬path.blockSupportCount = 1 := by omega
      rw [decide_eq_true_eq, decide_eq_true_eq, decide_eq_true_eq]
      exact hiff
    rw [hmore]
    exact hsplit.symm
  · rw [hendpoints, projectRepeatability, distribution_eq, List.map_map, List.map_map]
    exact sum_class_lengths (sortedKeys_nodup _) hkeys
  · rw [hsupport, projectRepeatability, distribution_eq, List.map_map, List.map_map,
      ← sum_classes (sortedKeys_nodup _) hkeys]
    congr 1
    apply List.map_congr_left
    intro k _
    have hsame : (profile.paths.filter (·.blockSupportCount = k)).map (·.blockSupportCount) =
        (profile.paths.filter (·.blockSupportCount = k)).map fun _ => k := by
      apply List.map_congr_left
      intro path hpath
      simpa using (List.mem_filter.1 hpath).2
    rw [hsame, List.map_const', List.sum_replicate_nat, Nat.mul_comm]
    rfl
  · intro row hrow
    obtain ⟨path, hpath, rfl⟩ := List.mem_map.1 hrow
    exact projectPath_orders hblocks (h.paths path hpath)

/-- The remote calls of an antenna's rows. -/
def ReportAntennaRepeatability.identities (row : Option ReportAntennaRepeatability) :
    List String :=
  (row.elim [] (·.paths)).map (·.remotePath)

def ReportObservedComplementarity.onSide (observed : ReportObservedComplementarity) :
    ComparisonSide → Option ReportAntennaRepeatability
  | .left => observed.left
  | .right => observed.right

structure ReportObservedComplementarity.AddsUp (observed : ReportObservedComplementarity) :
    Prop where
  left : observed.leftOnlyUniquePathCount + observed.sharedUniquePathCount =
    observed.left.elim 0 (·.uniqueEndpointCount)
  right : observed.rightOnlyUniquePathCount + observed.sharedUniquePathCount =
    observed.right.elim 0 (·.uniqueEndpointCount)
  total : observed.totalSystemUniquePathCount =
    (ReportAntennaRepeatability.identities observed.left ++
      ReportAntennaRepeatability.identities observed.right).toFinset.card
  incremental : observed.totalSystemUniquePathCount =
    observed.incrementalLeftPathCount + observed.right.elim 0 (·.uniqueEndpointCount) ∧
      observed.totalSystemUniquePathCount =
        observed.incrementalRightPathCount + observed.left.elim 0 (·.uniqueEndpointCount)
  antennas : ∀ row, observed.left = some row ∨ observed.right = some row → row.AddsUp

theorem profileOn_sound {comparison : PairedComparisonAnalysis} (h : comparison.ProfilesSound)
    {stratum : ComparisonStratum} {side : ComparisonSide}
    {profile : ObservedAntennaPathProfile}
    (hprofile : profileOn comparison stratum side = some profile) :
    profile.Sound comparison.blocks ∧ profile.stratum = stratum ∧ profile.side = side := by
  have hfound := List.find?_some hprofile
  simp only [Bool.and_eq_true, decide_eq_true_eq] at hfound
  exact ⟨h.profiles profile (List.mem_of_find?_eq_some hprofile), hfound⟩

/-- A profile of the comparison is the one found for its stratum and side. -/
theorem profileOn_of_mem {comparison : PairedComparisonAnalysis} (h : comparison.ProfilesSound)
    {profile : ObservedAntennaPathProfile} (hmem : profile ∈ comparison.observedPathProfiles) :
    profileOn comparison profile.stratum profile.side = some profile := by
  have hsome : (profileOn comparison profile.stratum profile.side).isSome = true := by
    rw [profileOn, List.find?_isSome]
    exact ⟨profile, hmem, by simp⟩
  obtain ⟨found, hfind⟩ := Option.isSome_iff_exists.1 hsome
  obtain ⟨-, hstratum, hside⟩ := profileOn_sound h hfind
  have hfound := List.mem_of_find?_eq_some hfind
  have hdistinct : (comparison.observedPathProfiles.map fun profile =>
      (profile.stratum, profile.side)).Nodup := List.pairwise_map.2 h.distinct
  obtain rfl := List.inj_on_of_nodup_map hdistinct hfound hmem (Prod.ext hstratum hside)
  exact hfind

theorem pathIdentities_card {comparison : PairedComparisonAnalysis}
    (h : comparison.ProfilesSound) (stratum : ComparisonStratum) (side : ComparisonSide) :
    (pathIdentities (profileOn comparison stratum side)).card =
      (profileOn comparison stratum side).elim 0 (·.paths.length) := by
  cases hprofile : profileOn comparison stratum side with
  | none => rfl
  | some profile =>
    have hascending := (profileOn_sound h hprofile).1.ascending
    have hnodup : (profile.paths.map (·.remotePath)).Nodup :=
      hascending.imp fun hlt => hlt.ne
    rw [pathIdentities, Option.elim_some, List.toFinset_card_of_nodup hnodup, List.length_map]
    rfl

theorem identities_projected (profile : Option ObservedAntennaPathProfile)
    (blocks : List ComparisonBlock) :
    (ReportAntennaRepeatability.identities
      (profile.map (projectRepeatability · blocks))).toFinset = pathIdentities profile := by
  cases profile with
  | none => rfl
  | some profile =>
    rw [pathIdentities, ReportAntennaRepeatability.identities, Option.map_some, Option.elim_some,
      Option.elim_some, projectRepeatability, List.map_map]
    rfl

theorem uniqueEndpointCount_projected (profile : Option ObservedAntennaPathProfile)
    (blocks : List ComparisonBlock) :
    (profile.map (projectRepeatability · blocks)).elim 0 (·.uniqueEndpointCount) =
      profile.elim 0 (·.paths.length) := by
  cases profile with
  | none => rfl
  | some profile => exact List.length_map _

theorem projectObserved_total {comparison : PairedComparisonAnalysis}
    {stratum : ComparisonStratum} {observed : ReportObservedComplementarity}
    (h : projectObserved stratum comparison = some observed) :
    observed.totalSystemUniquePathCount =
      (pathIdentities (profileOn comparison stratum .left) ∪
        pathIdentities (profileOn comparison stratum .right)).card := by
  unfold projectObserved at h
  dsimp only at h
  split_ifs at h
  obtain rfl := Option.some.inj h
  generalize pathIdentities (profileOn comparison stratum .left) = left
  generalize pathIdentities (profileOn comparison stratum .right) = right
  have hleftSplit := Finset.card_sdiff_add_card_inter left right
  have hrightSplit := Finset.card_sdiff_add_card_inter right left
  have hunion := Finset.card_union_add_card_inter left right
  rw [Finset.inter_comm] at hrightSplit
  dsimp only
  omega

theorem projectObserved_addsUp {comparison : PairedComparisonAnalysis}
    (h : comparison.ProfilesSound) (hblocks : BlocksOrdered comparison.blocks)
    {stratum : ComparisonStratum} {observed : ReportObservedComplementarity}
    (hobserved : projectObserved stratum comparison = some observed) : observed.AddsUp := by
  have htotal := projectObserved_total hobserved
  unfold projectObserved at hobserved
  dsimp only at hobserved
  split_ifs at hobserved
  have hleft := pathIdentities_card h stratum .left
  have hright := pathIdentities_card h stratum .right
  have hsoundLeft : ∀ profile, profileOn comparison stratum .left = some profile →
      profile.Sound comparison.blocks := fun profile hprofile => (profileOn_sound h hprofile).1
  have hsoundRight : ∀ profile, profileOn comparison stratum .right = some profile →
      profile.Sound comparison.blocks := fun profile hprofile => (profileOn_sound h hprofile).1
  generalize profileOn comparison stratum .left = left at *
  generalize profileOn comparison stratum .right = right at *
  obtain rfl := Option.some.inj hobserved
  have hleftSplit := Finset.card_sdiff_add_card_inter (pathIdentities left) (pathIdentities right)
  have hrightSplit := Finset.card_sdiff_add_card_inter (pathIdentities right) (pathIdentities left)
  rw [Finset.inter_comm] at hrightSplit
  constructor
  · dsimp only
    rw [uniqueEndpointCount_projected]
    omega
  · dsimp only
    rw [uniqueEndpointCount_projected]
    omega
  · dsimp only
    rw [List.toFinset_append, identities_projected, identities_projected]
    exact htotal
  · dsimp only
    rw [uniqueEndpointCount_projected, uniqueEndpointCount_projected]
    omega
  · intro row hrow
    rcases hrow with hrow | hrow
    · obtain ⟨profile, rfl, rfl⟩ := Option.map_eq_some_iff.1 hrow
      exact projectRepeatability_addsUp hblocks (hsoundLeft profile rfl)
    · obtain ⟨profile, rfl, rfl⟩ := Option.map_eq_some_iff.1 hrow
      exact projectRepeatability_addsUp hblocks (hsoundRight profile rfl)

/-- The overlap groups lose no profile of a comparison, and their rows add up. -/
structure CoverageOverlapPaths (groups : List ReportCoverageOverlapGroup)
    (comparison : PairedComparisonAnalysis) : Prop where
  profiles : ∀ profile ∈ comparison.observedPathProfiles, ∃ group ∈ groups,
    group.stratum = profile.stratum ∧ ∃ observed, group.observed = some observed ∧
      observed.onSide profile.side = some (projectRepeatability profile comparison.blocks)
  addUp : ∀ group ∈ groups, ∀ observed, group.observed = some observed → observed.AddsUp

theorem buildBlocks_indexed (slots : List AlignedSlot) (left right : String) :
    (buildBlocks slots left right).map (·.blockIndex) =
      List.range (buildBlocks slots left right).length := by
  rw [buildBlocks, List.map_map, List.length_map, List.length_zipIdx]
  have hindex : (ComparisonBlock.blockIndex ∘ fun item : (AlignedSlot × Option AlignedSlot) × ℕ =>
      comparisonBlock (if hasAmbiguousSequenceOrder slots then (none, .ambiguousSequenceOrder)
        else blockState left right item.1.1 item.1.2) item.2 item.1.1 item.1.2) = Prod.snd := rfl
  rw [hindex, List.zipIdx_map_snd]
  exact List.range_eq_range'.symm

theorem analyzePairedComparison_blocks {callsign : String} {schedule : Schedule}
    {slots : List AlignedSlot} {observations : List ClassifiedObservation}
    {comparison : PairedComparisonAnalysis}
    (h : analyzePairedComparison callsign schedule slots observations = some comparison) :
    BlocksOrdered comparison.blocks := by
  constructor
  · unfold analyzePairedComparison at h
    by_cases hmode : schedule.mode = .singleAntennaProfiling
    · rw [if_pos hmode] at h
      obtain rfl := Option.some.inj h
      rfl
    rw [if_neg hmode] at h
    dsimp only at h
    split at h
    · simp only [Option.bind_eq_bind, Option.bind_eq_some_iff, ComparisonPlan.analysis] at h
      obtain ⟨outcomes, -, overlap, -, paths, -, profiles, -, strata, -, h⟩ := h
      obtain rfl := Option.some.inj h
      exact buildBlocks_indexed _ _ _
    · obtain rfl := Option.some.inj h
      rfl
  · exact analyzePairedComparison_orders h

theorem projectCoverageOverlap_paths {comparison : PairedComparisonAnalysis}
    (h : comparison.ProfilesSound) (hblocks : BlocksOrdered comparison.blocks)
    (activity : ReporterActivityAnalysis) :
    CoverageOverlapPaths (projectCoverageOverlap comparison activity) comparison := by
  constructor
  · intro profile hprofile
    have hfound := profileOn_of_mem h hprofile
    have hstratum : profile.stratum ∈ firstOccurrences
        (comparison.observedPathProfiles.map (·.stratum) ++
          activity.jointSummaries.map (·.stratum)) := by
      rw [mem_firstOccurrences]
      exact List.mem_append_left _ (List.mem_map_of_mem hprofile)
    refine ⟨_, List.mem_map.2 ⟨profile.stratum, hstratum, rfl⟩, rfl, ?_⟩
    dsimp only
    unfold projectObserved
    cases hside : profile.side with
    | left =>
      rw [hside] at hfound
      simp [hfound, ReportObservedComplementarity.onSide]
    | right =>
      rw [hside] at hfound
      simp [hfound, ReportObservedComplementarity.onSide]
  · intro group hgroup observed hobserved
    obtain ⟨stratum, -, rfl⟩ := List.mem_map.1 hgroup
    exact projectObserved_addsUp h hblocks hobserved

/-- Every overlap group partitions the observed paths of a comparison. -/
theorem coverageOverlap_paths_addUp {callsign : String} {schedule : Schedule}
    {slots : List AlignedSlot} {observations : List ClassifiedObservation}
    {comparison : PairedComparisonAnalysis}
    (h : analyzePairedComparison callsign schedule slots observations = some comparison)
    (activity : ReporterActivityAnalysis) :
    CoverageOverlapPaths (projectCoverageOverlap comparison activity) comparison :=
  projectCoverageOverlap_paths (analyzePairedComparison_profiles h)
    (analyzePairedComparison_blocks h) activity

namespace Scenario

theorem signalBundle_compared : (analyzePairedComparison signalBundle.station.callsign
    signalBundle.schedule signalInputs.alignedSlots signalInputs.observations).isSome = true := by
  decide +kernel

theorem signalBundle_paths :
    ∃ comparison, analyzePairedComparison signalBundle.station.callsign signalBundle.schedule
        signalInputs.alignedSlots signalInputs.observations = some comparison ∧
      ∀ activity, CoverageOverlapPaths (projectCoverageOverlap comparison activity) comparison := by
  obtain ⟨comparison, h⟩ := Option.isSome_iff_exists.1 signalBundle_compared
  exact ⟨comparison, h, coverageOverlap_paths_addUp h⟩

end Scenario

end AntennaBench
