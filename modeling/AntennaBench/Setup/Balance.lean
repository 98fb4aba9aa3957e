import AntennaBench.Core.SignalSpacing
import AntennaBench.Setup.Plans
import AntennaBench.Timeline.Alternation

/-!
# Balance of planned cycles

The cycles of a direction go through the antennas in alternate order, and so do the blocks
of a controlled-signal plan through the antennas by variants.
-/

namespace AntennaBench

open Timeline

def directedAntennas (cycles : List (String × WsprCycleDirection))
    (direction : WsprCycleDirection) : List String :=
  (cycles.filter (·.2 = direction)).map (·.1)

/-- The order in which the first repetition goes through the antennas in a direction. -/
def directionOrder (labels : List String) (mode : ExperimentMode)
    (direction : WsprCycleDirection) : List String :=
  match mode, direction with
  | .txFocused, .receive => []
  | .rxFocused, .transmit => []
  | .txFocused, .transmit => labels
  | _, .receive => labels
  | _, .transmit => labels.reverse

theorem directedAntennas_append (cycles cycles' : List (String × WsprCycleDirection))
    (direction : WsprCycleDirection) : directedAntennas (cycles ++ cycles') direction =
      directedAntennas cycles direction ++ directedAntennas cycles' direction := by
  rw [directedAntennas, List.filter_append, List.map_append]
  rfl

theorem directedAntennas_map (labels : List String) (planned direction : WsprCycleDirection) :
    directedAntennas (labels.map (·, planned)) direction =
      if planned = direction then labels else [] := by
  by_cases h : planned = direction
  · simp [directedAntennas, List.filter_map, Function.comp_def, h]
  · simp [directedAntennas, List.filter_map, Function.comp_def, h]

/-- The antennas of a direction, in the order the repetitions go through them. -/
theorem directedAntennas_planned (labels : List String) (mode : ExperimentMode)
    (repetitions : ℕ) (direction : WsprCycleDirection) :
    directedAntennas (plannedWsprCycles labels mode repetitions) direction =
      alternation (directionOrder labels mode direction) repetitions := by
  rw [alternation_eq_flatMap, directedAntennas, plannedWsprCycles, List.filter_flatMap,
    List.map_flatMap]
  apply List.flatMap_congr
  intro repetition _
  rw [← directedAntennas]
  unfold turnOrder
  by_cases h : repetition % 2 = 0
  · cases mode <;> cases direction <;>
      simp [h, -List.map_reverse, directedAntennas_append, directedAntennas_map, directionOrder]
  · cases mode <;> cases direction <;>
      simp [h, -List.map_reverse, directedAntennas_append, directedAntennas_map, directionOrder]

theorem mem_directionOrder {labels : List String} {mode : ExperimentMode}
    {direction : WsprCycleDirection} (h : directionOrder labels mode direction ≠ [])
    {label : String} : label ∈ directionOrder labels mode direction ↔ label ∈ labels := by
  cases mode <;> cases direction <;> simp_all [directionOrder]

theorem directionOrder_nodup {labels : List String} (h : labels.Nodup) (mode : ExperimentMode)
    (direction : WsprCycleDirection) : (directionOrder labels mode direction).Nodup := by
  cases mode <;> cases direction <;> simp_all [directionOrder]

/-- The antennas by variants, in the order of a block that runs forward. -/
def blockDesign (labels : List String) (variants : List (String × ℕ)) :
    List (String × String × ℕ) :=
  labels ×ˢ variants

def blockCycle (entry : (String × String × ℕ) × ℕ) : BlockCycle :=
  ⟨entry.2, entry.1.1, entry.1.2.1, entry.1.2.2⟩

theorem blockDesign_length (labels : List String) (variants : List (String × ℕ)) :
    (blockDesign labels variants).length = labels.length * variants.length :=
  List.length_product labels variants

/-- Numbering a list from its end is numbering its reverse. -/
theorem zipIdx_fromEnd {α : Type} (items : List α) :
    (items.zipIdx.map fun (item, index) => (item, items.length - 1 - index)) =
      items.reverse.zipIdx.reverse := by
  apply List.ext_getElem
  · simp
  · intro i hi _
    have hlt : i < items.length := by simpa using hi
    have hback : items.length - 1 - (items.length - 1 - i) = i := by omega
    simp [hback]

theorem blockCycles_pairs (labels : List String) (variants : List (String × ℕ)) (blockIndex : ℕ) :
    (labels.zipIdx.flatMap fun (antennaLabel, antennaIndex) =>
      variants.zipIdx.map fun ((variantId, frequencyHz), variantIndex) =>
        let forward := antennaIndex * variants.length + variantIndex
        let position := if blockIndex % 2 = 0 then forward
          else labels.length * variants.length - 1 - forward
        BlockCycle.mk position antennaLabel variantId frequencyHz).Perm
      ((turnOrder (blockDesign labels variants) blockIndex).zipIdx.map blockCycle) := by
  have hpairs : (labels.zipIdx.flatMap fun (antennaLabel, antennaIndex) =>
      variants.zipIdx.map fun ((variantId, frequencyHz), variantIndex) =>
        let forward := antennaIndex * variants.length + variantIndex
        let position := if blockIndex % 2 = 0 then forward
          else labels.length * variants.length - 1 - forward
        BlockCycle.mk position antennaLabel variantId frequencyHz) =
      ((blockDesign labels variants).zipIdx.map fun (entry, index) =>
        (entry, if blockIndex % 2 = 0 then index
          else (blockDesign labels variants).length - 1 - index)).map blockCycle := by
    rw [blockDesign_length, blockDesign, zipIdx_product, List.map_flatMap, List.map_flatMap]
    apply List.flatMap_congr
    rintro ⟨label, antennaIndex⟩ _
    rw [List.map_map, List.map_map]
    apply List.map_congr_left
    rintro ⟨⟨variantId, frequencyHz⟩, variantIndex⟩ _
    simp [blockCycle]
  rw [hpairs, turnOrder]
  by_cases h : blockIndex % 2 = 0
  · simp [h]
  · simp only [h, if_false, zipIdx_fromEnd]
    exact (List.reverse_perm _).map blockCycle

/-- A block goes through the design forward or backward, and its positions count the cycles. -/
theorem blockCycles_eq (labels : List String) (variants : List (String × ℕ)) (blockIndex : ℕ) :
    blockCycles labels variants blockIndex =
      (turnOrder (blockDesign labels variants) blockIndex).zipIdx.map blockCycle := by
  set cycles := (turnOrder (blockDesign labels variants) blockIndex).zipIdx.map blockCycle
    with hcycles
  have hpositions : cycles.map (·.position) =
      List.range' 0 (turnOrder (blockDesign labels variants) blockIndex).length := by
    rw [hcycles, List.map_map, ← List.zipIdx_map_snd]
    rfl
  have hincreasing : cycles.Pairwise fun a b => a.position < b.position := by
    rw [← List.pairwise_map, hpositions]
    exact List.pairwise_lt_range'
  have hperm := (sortOn_perm (·.position) _).trans (blockCycles_pairs labels variants blockIndex)
  have hnodup : (cycles.map (·.position)).Nodup := hpositions ▸ List.nodup_range'
  apply hperm.eq_of_pairwise
  · intro a b ha hb hab hba
    exact List.inj_on_of_nodup_map hnodup (hperm.mem_iff.1 ha) hb (le_antisymm hab hba)
  · exact sortOn_pairwise _ _
  · exact hincreasing.imp le_of_lt

theorem blockCycles_positions (labels : List String) (variants : List (String × ℕ))
    (blockIndex : ℕ) : ((blockCycles labels variants blockIndex).map (·.position)).Nodup := by
  have hpositions : (blockCycles labels variants blockIndex).map (·.position) =
      List.range' 0 (turnOrder (blockDesign labels variants) blockIndex).length := by
    rw [blockCycles_eq, List.map_map, ← List.zipIdx_map_snd]
    rfl
  rw [hpositions]
  exact List.nodup_range'

/-- The place of a cycle in the design of its block. -/
def BlockCycle.entry (cycle : BlockCycle) : String × String × ℕ :=
  (cycle.antennaLabel, cycle.frequencyVariantId, cycle.frequencyHz)

theorem blockCycles_entries (labels : List String) (variants : List (String × ℕ))
    (blockIndex : ℕ) : (blockCycles labels variants blockIndex).map (·.entry) =
      turnOrder (blockDesign labels variants) blockIndex := by
  rw [blockCycles_eq, List.map_map]
  exact List.zipIdx_map_fst _ _

/-- The positions of the cycles that `p` picks out are their places in the design. -/
theorem blockCycles_positionSum (p : String × String × ℕ → Bool) (labels : List String)
    (variants : List (String × ℕ)) (blockIndex : ℕ) :
    (((blockCycles labels variants blockIndex).filter (p ·.entry)).map (·.position)).sum =
      placeSum p (turnOrder (blockDesign labels variants) blockIndex) := by
  rw [blockCycles_eq, List.filter_map, List.map_map, placeSum]
  rfl

/-- All blocks together alternate between the two directions of the design. -/
theorem plannedSignalCycles_entries (labels : List String) (variants : List (String × ℕ))
    (blocks : ℕ) : (plannedSignalCycles labels variants blocks).map (·.2.entry) =
      alternation (blockDesign labels variants) blocks := by
  rw [alternation_eq_flatMap, plannedSignalCycles, List.map_flatMap]
  apply List.flatMap_congr
  intro blockIndex _
  rw [List.map_map, ← blockCycles_entries]
  rfl

theorem plannedSignalCycles_positionSum (p : String × String × ℕ → Bool) (labels : List String)
    (variants : List (String × ℕ)) (blocks : ℕ) :
    (((plannedSignalCycles labels variants blocks).filter (p ·.2.entry)).map
      (·.2.position)).sum = ((List.range blocks).map fun blockIndex =>
        placeSum p (turnOrder (blockDesign labels variants) blockIndex)).sum := by
  induction blocks with
  | zero => rfl
  | succ blocks ih =>
    have hlast : (plannedSignalCycles labels variants (blocks + 1)) =
        plannedSignalCycles labels variants blocks ++
          (blockCycles labels variants blocks).map (blockId blocks, ·) := by
      rw [plannedSignalCycles, List.range_succ, List.flatMap_append, List.flatMap_singleton]
      rfl
    rw [hlast, List.filter_append, List.map_append, List.sum_append, ih, List.range_succ,
      List.map_append, List.sum_append, List.map_singleton, List.sum_singleton,
      ← blockCycles_positionSum, List.filter_map, List.map_map]
    rfl

theorem plannedSignalCycles_count (p : String × String × ℕ → Bool) (labels : List String)
    (variants : List (String × ℕ)) (blocks : ℕ) :
    (plannedSignalCycles labels variants blocks).countP (p ·.2.entry) =
      blocks * (blockDesign labels variants).countP p := by
  rw [← countP_alternation, ← plannedSignalCycles_entries, List.countP_map]
  rfl

/-- After an even number of blocks, the positions of any choice of cycles average to the
middle. -/
theorem plannedSignalCycles_middle (p : String × String × ℕ → Bool) (labels : List String)
    (variants : List (String × ℕ)) {blocks : ℕ} (h : blocks % 2 = 0) :
    let chosen := (plannedSignalCycles labels variants blocks).filter (p ·.2.entry)
    2 * (chosen.map (·.2.position)).sum + chosen.length =
      chosen.length * (blockDesign labels variants).length := by
  have hplaces := turn_places_sum p (blockDesign labels variants) h
  intro chosen
  rw [plannedSignalCycles_positionSum, ← List.countP_eq_length_filter,
    plannedSignalCycles_count]
  linarith

end AntennaBench
