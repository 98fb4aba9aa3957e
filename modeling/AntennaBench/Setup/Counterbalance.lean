import AntennaBench.Core.Text
import AntennaBench.Setup.Balance

/-!
# The counterbalance check on planned cycles

Slots that are laid out as setup plans the cycles of its blocks pass the check that the core
makes of the slots of a plan, for any antennas and variants and any even number of blocks.
-/

namespace AntennaBench

open Timeline

/-- What the counterbalance of a slot is about: its block and its cycle there. -/
def AllocatedSlot.cycle (entry : AllocatedSlot) : String × BlockCycle :=
  (entry.allocation.counterbalanceBlockId,
    ⟨entry.allocation.counterbalancePosition, entry.slot.antennaLabel,
      entry.allocation.frequencyVariantId, entry.allocation.frequencyHz⟩)

theorem variantFrequencyDiagnostics_of_frequency {slots earlier : List AllocatedSlot}
    (h : ∀ a ∈ earlier ++ slots, ∀ b ∈ earlier ++ slots,
      a.allocation.frequencyVariantId = b.allocation.frequencyVariantId →
        a.allocation.frequencyHz = b.allocation.frequencyHz) :
    variantFrequencyDiagnostics earlier slots = [] := by
  induction slots generalizing earlier with
  | nil => rfl
  | cons slot rest ih =>
    rw [variantFrequencyDiagnostics, List.append_eq_nil_iff, diagnosticIf_eq_nil]
    constructor
    · rw [Option.any_eq_false]
      intro known hknown
      have hmem := List.mem_filter.1 (List.mem_of_head? hknown)
      have hsame := h known (by simp [hmem.1]) slot (by simp) (beq_iff_eq.1 hmem.2)
      simpa using hsame
    · apply ih
      intro a ha b hb
      exact h a (by simp at ha ⊢; tauto) b (by simp at hb ⊢; tauto)

/-- Groups whose positions average to the same middle pass the comparison of the averages. -/
theorem balancedAveragePosition_of_middle {slots : List AllocatedSlot}
    {key : AllocatedSlot → String} {size : ℕ}
    (h : ∀ a ∈ slots, let group := slots.filter (key · == key a)
      2 * (group.map (·.allocation.counterbalancePosition)).sum + group.length =
        group.length * size) :
    balancedAveragePosition slots key = true := by
  have hgroup : ∀ position ∈ (AntennaBench.sortedKeys (slots.map key)).map fun name =>
      let group := slots.filter fun slot => key slot == name
      ((group.map (·.allocation.counterbalancePosition)).sum, group.length),
      position.2 ≠ 0 ∧ 2 * position.1 + position.2 = position.2 * size := by
    intro position hposition
    obtain ⟨name, hname, rfl⟩ := List.mem_map.1 hposition
    obtain ⟨a, ha, rfl⟩ : ∃ a ∈ slots, key a = name := by
      simpa [AntennaBench.sortedKeys] using hname
    refine ⟨?_, h a ha⟩
    apply mt List.length_eq_zero_iff.1
    exact List.ne_nil_of_mem (List.mem_filter.2 ⟨ha, beq_self_eq_true _⟩)
  unfold balancedAveragePosition
  dsimp only at hgroup ⊢
  generalize (AntennaBench.sortedKeys (slots.map key)).map _ = positions at hgroup ⊢
  cases positions with
  | nil => rfl
  | cons first rest =>
    obtain ⟨hfirst, hfirstSum⟩ := hgroup first List.mem_cons_self
    dsimp only
    rw [List.all_eq_true]
    intro position hposition
    obtain ⟨hcount, hsum⟩ := hgroup position hposition
    simp only [Bool.and_eq_true, bne_iff_ne, beq_iff_eq]
    refine ⟨⟨hfirst, hcount⟩, ?_⟩
    nlinarith [congrArg (· * first.2) hsum, congrArg (· * position.2) hfirstSum]

theorem validateCounterbalance_of_blocks {slots : List AllocatedSlot}
    (hfrequency : ∀ a ∈ slots, ∀ b ∈ slots,
      a.allocation.frequencyVariantId = b.allocation.frequencyVariantId →
        a.allocation.frequencyHz = b.allocation.frequencyHz)
    (hblocks : ∀ entry ∈ slots,
      let block := slots.filter (·.allocation.counterbalanceBlockId ==
        entry.allocation.counterbalanceBlockId)
      (block.map (·.levels)).Nodup ∧ (block.map (·.allocation.counterbalancePosition)).Nodup ∧
        block.length = (designLevels slots).length)
    (hantennas : balancedAveragePosition slots (·.slot.antennaLabel) = true)
    (hvariants : balancedAveragePosition slots (·.allocation.frequencyVariantId) = true) :
    validateCounterbalance slots = [] := by
  have hsize : (designLevels slots).length = (slots.map (·.slot.antennaLabel)).dedup.length *
      (slots.map (·.allocation.frequencyVariantId)).dedup.length := List.length_product _ _
  unfold validateCounterbalance
  dsimp only
  rw [variantFrequencyDiagnostics_of_frequency (by simpa using hfrequency), hantennas, hvariants,
    ← hsize, List.nil_append, List.append_eq_nil_iff]
  constructor
  · rw [List.flatMap_eq_nil_iff]
    intro blockId hblock
    obtain ⟨entry, hentry, rfl⟩ : ∃ entry ∈ slots,
        entry.allocation.counterbalanceBlockId = blockId := by
      simpa [AntennaBench.sortedKeys] using hblock
    obtain ⟨hlevels, hpositions, hlength⟩ := hblocks entry hentry
    have hpairs := hlevels.dedup
    unfold AllocatedSlot.levels at hpairs
    rw [diagnosticIf_eq_nil, hpairs, hpositions.dedup, List.length_map, List.length_map, hlength]
    simp
  · rfl

theorem blockId_injective : Function.Injective blockId := by
  intro a b h
  have hnumber : a + 1 = b + 1 := toString_inj ((String.append_right_inj _).1 h)
  omega

variable {labels : List String} {variants : List (String × ℕ)} {blocks : ℕ}
  {slots : List AllocatedSlot}

theorem plannedSlots_block
    (hslots : slots.map (·.cycle) = plannedSignalCycles labels variants blocks)
    {blockIndex : ℕ} (h : blockIndex < blocks) :
    (slots.filter (·.allocation.counterbalanceBlockId == blockId blockIndex)).map (·.cycle.2) =
      blockCycles labels variants blockIndex := by
  have hpushed : pushed (blockId blockIndex) (plannedSignalCycles labels variants blocks) =
      blockCycles labels variants blockIndex :=
    pushed_flatMap blockId_injective _ List.nodup_range (List.mem_range.2 h)
  rw [← hpushed, pushed, ← hslots, List.filter_map, List.map_map]
  simp only [Bool.beq_eq_decide_eq]
  rfl

theorem plannedSlots_blockIndex
    (hslots : slots.map (·.cycle) = plannedSignalCycles labels variants blocks)
    {entry : AllocatedSlot} (hentry : entry ∈ slots) :
    ∃ blockIndex < blocks, entry.allocation.counterbalanceBlockId = blockId blockIndex := by
  have hcycle : entry.cycle ∈ plannedSignalCycles labels variants blocks :=
    hslots ▸ List.mem_map_of_mem hentry
  obtain ⟨blockIndex, hindex, hmem⟩ := List.mem_flatMap.1 hcycle
  obtain ⟨cycle, -, heq⟩ := List.mem_map.1 hmem
  exact ⟨blockIndex, List.mem_range.1 hindex, congrArg Prod.fst heq.symm⟩

theorem plannedSlots_entries
    (hslots : slots.map (·.cycle) = plannedSignalCycles labels variants blocks) :
    slots.map (·.cycle.2.entry) = alternation (blockDesign labels variants) blocks := by
  rw [← plannedSignalCycles_entries, ← hslots, List.map_map]
  rfl

theorem plannedSlots_entry
    (hslots : slots.map (·.cycle) = plannedSignalCycles labels variants blocks)
    {entry : AllocatedSlot} (hentry : entry ∈ slots) :
    entry.slot.antennaLabel ∈ labels ∧
      (entry.allocation.frequencyVariantId, entry.allocation.frequencyHz) ∈ variants := by
  have hmem : entry.cycle.2.entry ∈ alternation (blockDesign labels variants) blocks :=
    plannedSlots_entries hslots ▸ List.mem_map_of_mem (f := (·.cycle.2.entry)) hentry
  exact List.mem_product.1 (mem_alternation.1 hmem).2

theorem mem_plannedSlots
    (hslots : slots.map (·.cycle) = plannedSignalCycles labels variants blocks)
    (hnonempty : slots ≠ []) {place : String × String × ℕ} :
    place ∈ slots.map (·.cycle.2.entry) ↔ place ∈ blockDesign labels variants := by
  obtain ⟨entry, hentry⟩ := List.exists_mem_of_ne_nil slots hnonempty
  obtain ⟨blockIndex, hindex, -⟩ := plannedSlots_blockIndex hslots hentry
  have hblocks : blocks ≠ 0 := by omega
  rw [plannedSlots_entries hslots, mem_alternation]
  exact and_iff_right hblocks

theorem mem_plannedSlots_antennas
    (hslots : slots.map (·.cycle) = plannedSignalCycles labels variants blocks)
    (hnonempty : slots ≠ []) {label : String} :
    label ∈ slots.map (·.slot.antennaLabel) ↔ label ∈ labels := by
  obtain ⟨entry, hentry⟩ := List.exists_mem_of_ne_nil slots hnonempty
  constructor
  · intro h
    obtain ⟨other, hother, rfl⟩ := List.mem_map.1 h
    exact (plannedSlots_entry hslots hother).1
  · intro h
    have hplace := List.mem_product.2 ⟨h, (plannedSlots_entry hslots hentry).2⟩
    obtain ⟨other, hother, heq⟩ := List.mem_map.1 ((mem_plannedSlots hslots hnonempty).2 hplace)
    exact List.mem_map.2 ⟨other, hother, congrArg Prod.fst heq⟩

theorem mem_plannedSlots_variants
    (hslots : slots.map (·.cycle) = plannedSignalCycles labels variants blocks)
    (hnonempty : slots ≠ []) {variantId : String} :
    variantId ∈ slots.map (·.allocation.frequencyVariantId) ↔
      variantId ∈ variants.map (·.1) := by
  obtain ⟨entry, hentry⟩ := List.exists_mem_of_ne_nil slots hnonempty
  constructor
  · intro h
    obtain ⟨other, hother, rfl⟩ := List.mem_map.1 h
    exact List.mem_map_of_mem (f := Prod.fst) (plannedSlots_entry hslots hother).2
  · intro h
    obtain ⟨variant, hin, rfl⟩ := List.mem_map.1 h
    have hplace := List.mem_product.2 ⟨(plannedSlots_entry hslots hentry).1, hin⟩
    obtain ⟨other, hother, heq⟩ := List.mem_map.1 ((mem_plannedSlots hslots hnonempty).2 hplace)
    exact List.mem_map.2 ⟨other, hother, congrArg (·.2.1) heq⟩

/-- The levels of the slots are the antennas and the variants the design was made of. -/
theorem plannedSlots_design
    (hslots : slots.map (·.cycle) = plannedSignalCycles labels variants blocks)
    (hlabels : labels.Nodup) (hvariants : (variants.map (·.1)).Nodup) (hnonempty : slots ≠ []) :
    (designLevels slots).length = (blockDesign labels variants).length := by
  have hantennas : (slots.map (·.slot.antennaLabel)).dedup.Perm labels := by
    rw [List.perm_ext_iff_of_nodup (List.nodup_dedup _) hlabels]
    intro label
    rw [List.mem_dedup]
    exact mem_plannedSlots_antennas hslots hnonempty
  have hids : (slots.map (·.allocation.frequencyVariantId)).dedup.Perm (variants.map (·.1)) := by
    rw [List.perm_ext_iff_of_nodup (List.nodup_dedup _) hvariants]
    intro variantId
    rw [List.mem_dedup]
    exact mem_plannedSlots_variants hslots hnonempty
  have hlength := List.length_product (slots.map (·.slot.antennaLabel)).dedup
    (slots.map (·.allocation.frequencyVariantId)).dedup
  rw [designLevels, hlength, hantennas.length_eq, hids.length_eq, List.length_map,
    blockDesign_length]

theorem plannedSlots_middle
    (hslots : slots.map (·.cycle) = plannedSignalCycles labels variants blocks)
    (heven : blocks % 2 = 0) (p : String × String × ℕ → Bool) :
    let group := slots.filter (p ·.cycle.2.entry)
    2 * (group.map (·.allocation.counterbalancePosition)).sum + group.length =
      group.length * (blockDesign labels variants).length := by
  have hmiddle := plannedSignalCycles_middle p labels variants heven
  dsimp only at hmiddle ⊢
  rw [← hslots, List.filter_map, List.map_map, List.length_map] at hmiddle
  exact hmiddle

/-- The levels of a block are those of the design, in one of its directions. -/
theorem plannedSlots_levels
    (hslots : slots.map (·.cycle) = plannedSignalCycles labels variants blocks)
    (hlabels : labels.Nodup) (hvariants : (variants.map (·.1)).Nodup) {blockIndex : ℕ}
    (h : blockIndex < blocks) :
    ((slots.filter (·.allocation.counterbalanceBlockId == blockId blockIndex)).map
      (·.levels)).Nodup := by
  have hblock := plannedSlots_block hslots h
  have hlevels : (slots.filter (·.allocation.counterbalanceBlockId == blockId blockIndex)).map
      (·.levels) = (turnOrder (blockDesign labels variants) blockIndex).map
        fun place => (place.1, place.2.1) := by
    rw [← blockCycles_entries, ← hblock, List.map_map, List.map_map]
    rfl
  have hdesign : ((blockDesign labels variants).map fun place => (place.1, place.2.1)).Nodup := by
    have hproduct : ((blockDesign labels variants).map fun place => (place.1, place.2.1)) =
        labels ×ˢ variants.map (·.1) := by
      simp [blockDesign, SProd.sprod, List.product, List.map_flatMap, List.map_map,
        Function.comp_def]
    rw [hproduct]
    exact hlabels.product hvariants
  rw [hlevels, turnOrder]
  split_ifs
  · exact hdesign
  · rw [List.map_reverse]
    exact List.nodup_reverse.2 hdesign

/-- Cycles planned in an even number of blocks pass the check that the core makes of slots. -/
theorem validateCounterbalance_planned
    (hslots : slots.map (·.cycle) = plannedSignalCycles labels variants blocks)
    (hlabels : labels.Nodup) (hvariants : (variants.map (·.1)).Nodup) (heven : blocks % 2 = 0) :
    validateCounterbalance slots = [] := by
  by_cases hnonempty : slots = []
  · rw [hnonempty]
    rfl
  apply validateCounterbalance_of_blocks
  · intro a ha b hb hid
    have hinj := List.inj_on_of_nodup_map hvariants (plannedSlots_entry hslots ha).2
      (plannedSlots_entry hslots hb).2 hid
    exact congrArg Prod.snd hinj
  · intro entry hentry
    obtain ⟨blockIndex, hindex, hid⟩ := plannedSlots_blockIndex hslots hentry
    have hblock := plannedSlots_block hslots hindex
    rw [hid]
    refine ⟨plannedSlots_levels hslots hlabels hvariants hindex, ?_, ?_⟩
    · have hpositions := blockCycles_positions labels variants blockIndex
      rw [← hblock, List.map_map] at hpositions
      exact hpositions
    · rw [plannedSlots_design hslots hlabels hvariants hnonempty, ← List.length_map (·.cycle.2),
        hblock, ← List.length_map (·.entry), blockCycles_entries, turnOrder]
      split_ifs
      · rfl
      · exact List.length_reverse
  · apply balancedAveragePosition_of_middle
    intro a _
    have hmiddle := plannedSlots_middle hslots heven (·.1 == a.slot.antennaLabel)
    exact hmiddle
  · apply balancedAveragePosition_of_middle
    intro a _
    have hmiddle := plannedSlots_middle hslots heven (·.2.1 == a.allocation.frequencyVariantId)
    exact hmiddle

end AntennaBench
