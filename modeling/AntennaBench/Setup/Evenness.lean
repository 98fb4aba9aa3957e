import AntennaBench.Setup.Counterbalance

/-!
# Evenness of an intent schedule

What the review promises of the cycles it lists: the antennas of each direction, and those
of each frequency variant, come equally often and at the same mean place, and so do the
variants. The cycles of a mode keep the promise after an even number of repetitions only.
-/

namespace AntennaBench

open Timeline

namespace ScheduleV3

/-- The intents of a direction, in the order of the schedule. -/
def directed (schedule : ScheduleV3) (direction : WsprCycleDirection) : List WsprCycleIntentV3 :=
  schedule.wsprCycleIntents.filter (·.direction = some direction)

/-- The frequency variants the intents name. -/
def variantIds (schedule : ScheduleV3) : List String :=
  schedule.wsprCycleIntents.filterMap fun intent => intent.signal.map (·.frequencyVariantId)

/-- The intents as slots of their plans, with the times that only the clock will give. -/
def intentSlots (schedule : ScheduleV3) : List AllocatedSlot :=
  schedule.wsprCycleIntents.zipIdx.filterMap fun (intent, index) =>
    intent.signal.map fun allocation =>
      ⟨index, ⟨intent.intentId, intent.sequenceNumber, 0, 0, 0, intent.band, intent.antennaLabel,
        some allocation⟩, allocation⟩

end ScheduleV3

/-- The intents go evenly through the antennas and the variants. -/
structure PlannedEvenly (labels : List String) (schedule : ScheduleV3) : Prop where
  antennas : ∀ direction, ∀ a ∈ labels, ∀ b ∈ labels,
    Timeline.Balanced ((schedule.directed direction).map (·.antennaLabel)) a b
  antennasOfVariant : ∀ direction variantId, ∀ a ∈ labels, ∀ b ∈ labels,
    Timeline.Balanced (((schedule.directed direction).filter fun intent =>
      intent.signal.any (·.frequencyVariantId = variantId)).map (·.antennaLabel)) a b
  variants : ∀ v ∈ schedule.variantIds, ∀ w ∈ schedule.variantIds,
    Timeline.Balanced schedule.variantIds v w
  once : ∀ block ∈ schedule.intentSlots.map (·.allocation.counterbalanceBlockId),
    ∀ antenna ∈ labels, ∀ variantId ∈ schedule.variantIds,
    schedule.intentSlots.countP (fun entry => entry.allocation.counterbalanceBlockId = block ∧
      entry.slot.antennaLabel = antenna ∧ entry.allocation.frequencyVariantId = variantId) = 1
  counterbalance : validateCounterbalance schedule.intentSlots = []

section

variable {labels : List String} {mode : ExperimentMode} {repetitions : ℕ} {schedule : ScheduleV3}

/-- The antenna, direction and allocation of an intent. -/
def WsprCycleIntentV3.plan (intent : WsprCycleIntentV3) :
    String × Option WsprCycleDirection × Option SignalAllocationV3 :=
  (intent.antennaLabel, intent.direction, intent.signal)

theorem directed_mode (hplan : schedule.wsprCycleIntents.map (·.plan) =
      (plannedWsprCycles labels mode repetitions).map fun cycle => (cycle.1, some cycle.2, none))
    (direction : WsprCycleDirection) :
    (schedule.directed direction).map (·.antennaLabel) =
      alternation (directionOrder labels mode direction) repetitions := by
  have hintents : ((schedule.wsprCycleIntents.map (·.plan)).filter
      (·.2.1 = some direction)).map (·.1) = (schedule.directed direction).map (·.antennaLabel) := by
    rw [List.filter_map, List.map_map]
    rfl
  rw [← hintents, hplan, ← directedAntennas_planned, List.filter_map, List.map_map,
    directedAntennas]
  simp [Function.comp_def]

theorem signal_mode (hplan : schedule.wsprCycleIntents.map (·.plan) =
      (plannedWsprCycles labels mode repetitions).map fun cycle => (cycle.1, some cycle.2, none))
    {intent : WsprCycleIntentV3} (hintent : intent ∈ schedule.wsprCycleIntents) :
    intent.signal = none := by
  have hmem := List.mem_map_of_mem (f := (·.plan)) hintent
  rw [hplan] at hmem
  obtain ⟨cycle, -, heq⟩ := List.mem_map.1 hmem
  exact (congrArg (·.2.2) heq).symm

theorem directionOrder_count (hlabels : labels.Nodup) (direction : WsprCycleDirection)
    {a b : String} (ha : a ∈ labels) (hb : b ∈ labels) :
    (directionOrder labels mode direction).count a =
      (directionOrder labels mode direction).count b := by
  by_cases hnone : directionOrder labels mode direction = []
  · rw [hnone]
    rfl
  · have hnodup := directionOrder_nodup hlabels mode direction
    rw [List.count_eq_one_of_mem hnodup ((mem_directionOrder hnone).2 ha),
      List.count_eq_one_of_mem hnodup ((mem_directionOrder hnone).2 hb)]

theorem alternation_even_balanced {α : Type} [DecidableEq α] {order : List α} {turns : ℕ}
    (h : turns % 2 = 0) {a b : α} (hcount : order.count a = order.count b) :
    Timeline.Balanced (alternation order turns) a b := by
  apply balanced_of_palindrome (alternation_palindrome order h)
  rw [List.count, List.count, countP_alternation, countP_alternation]
  exact congrArg _ hcount

/-- Every mode has a direction that goes through all antennas. -/
theorem exists_directionOrder (labels : List String) (mode : ExperimentMode) :
    ∃ direction, (directionOrder labels mode direction).Perm labels := by
  cases mode with
  | txFocused => exact ⟨.transmit, List.Perm.refl _⟩
  | rxFocused => exact ⟨.receive, List.Perm.refl _⟩
  | wholeStationAb => exact ⟨.receive, List.Perm.refl _⟩
  | singleAntennaProfiling => exact ⟨.receive, List.Perm.refl _⟩

theorem length_le_one_of_eq {α : Type} {items : List α} (hnodup : items.Nodup)
    (h : ∀ a ∈ items, ∀ b ∈ items, a = b) : items.length ≤ 1 := by
  cases items with
  | nil => exact Nat.zero_le 1
  | cons a rest =>
    cases rest with
    | nil => exact le_rfl
    | cons b rest =>
      have heq := h a (by simp) b (by simp)
      simp [heq] at hnodup

theorem eq_of_length_le_one {α : Type} {items : List α} (h : items.length ≤ 1) {a b : α}
    (ha : a ∈ items) (hb : b ∈ items) : a = b := by
  cases items with
  | nil => cases ha
  | cons c rest =>
    have hrest : rest = [] := List.length_eq_zero_iff.1 (by simpa using h)
    subst hrest
    rw [List.mem_singleton.1 ha, List.mem_singleton.1 hb]

/-- The cycles of a mode are even after an even number of repetitions, and where there is
nothing to compare. -/
theorem plannedEvenly_mode (hplan : schedule.wsprCycleIntents.map (·.plan) =
      (plannedWsprCycles labels mode repetitions).map fun cycle => (cycle.1, some cycle.2, none))
    (hlabels : labels.Nodup) :
    PlannedEvenly labels schedule ↔ repetitions % 2 = 0 ∨ labels.length ≤ 1 := by
  constructor
  · intro h
    by_cases heven : repetitions % 2 = 0
    · exact Or.inl heven
    obtain ⟨direction, hperm⟩ := exists_directionOrder labels mode
    have hsame : ∀ a ∈ labels, ∀ b ∈ labels, a = b := by
      intro a ha b hb
      have hbalanced := h.antennas direction a ha b hb
      rw [directed_mode hplan] at hbalanced
      exact alternation_odd (hperm.nodup_iff.2 hlabels) (by omega) (hperm.mem_iff.2 ha)
        (hperm.mem_iff.2 hb) hbalanced
    exact Or.inr (length_le_one_of_eq hlabels hsame)
  · intro h
    have hsignal : ∀ intent ∈ schedule.wsprCycleIntents, intent.signal = none :=
      fun intent hintent => signal_mode hplan hintent
    have hvariants : schedule.variantIds = [] := by
      rw [ScheduleV3.variantIds, List.filterMap_eq_nil_iff]
      intro intent hintent
      rw [hsignal intent hintent, Option.map_none]
    have hslots : schedule.intentSlots = [] := by
      rw [ScheduleV3.intentSlots, List.filterMap_eq_nil_iff]
      rintro ⟨intent, index⟩ hintent
      simp only [hsignal intent (List.fst_mem_of_mem_zipIdx hintent), Option.map_none]
    refine ⟨?_, ?_, ?_, ?_, ?_⟩
    · intro direction a ha b hb
      rw [directed_mode hplan]
      rcases h with heven | hone
      · exact alternation_even_balanced heven (directionOrder_count hlabels direction ha hb)
      · rw [eq_of_length_le_one hone ha hb]
        exact ⟨rfl, rfl⟩
    · intro direction variantId a _ b _
      have hnone : (schedule.directed direction).filter (fun intent =>
          intent.signal.any (·.frequencyVariantId = variantId)) = [] := by
        rw [List.filter_eq_nil_iff]
        intro intent hintent
        rw [hsignal intent (List.mem_of_mem_filter hintent)]
        simp
      rw [hnone]
      exact ⟨rfl, rfl⟩
    · rw [hvariants]
      intro v hv
      cases hv
    · rw [hslots]
      intro block hblock
      cases hblock
    · rw [hslots]
      rfl

end

section

variable {labels : List String} {variants : List (String × ℕ)} {blocks : ℕ}
  {schedule : ScheduleV3}

theorem blockDesign_filter (p : String × ℕ → Bool) (labels : List String)
    (variants : List (String × ℕ)) :
    (blockDesign labels variants).filter (p ·.2) = blockDesign labels (variants.filter p) := by
  induction labels with
  | nil => rfl
  | cons label rest ih =>
    rw [blockDesign, List.product_cons, List.filter_append, List.filter_map]
    exact congrArg _ ih

/-- The sequence of one factor of the chosen cycles reads the same from both ends. -/
theorem alternation_choice_balanced {α : Type} [DecidableEq α] {order : List (String × String × ℕ)}
    {turns : ℕ} (h : turns % 2 = 0) (choice : String × String × ℕ → Bool)
    (factor : String × String × ℕ → α) {a b : α}
    (hcount : ((order.filter choice).map factor).count a =
      ((order.filter choice).map factor).count b) :
    Timeline.Balanced (((alternation order turns).filter choice).map factor) a b := by
  rw [filter_alternation, map_alternation]
  exact alternation_even_balanced h hcount

theorem blockDesign_antennas_count (hlabels : labels.Nodup) (variants : List (String × ℕ))
    {label : String} (hlabel : label ∈ labels) :
    ((blockDesign labels variants).map (·.1)).count label = variants.length := by
  rw [← countP_fst_product hlabels variants hlabel, List.count, List.countP_map]
  simp only [Function.comp_def, Bool.beq_eq_decide_eq]
  rfl

theorem blockDesign_variants_count (labels : List String) (hvariants : (variants.map (·.1)).Nodup)
    {variantId : String} (hvariant : variantId ∈ variants.map (·.1)) :
    ((blockDesign labels variants).map (·.2.1)).count variantId = labels.length := by
  have hproduct : (blockDesign labels variants).map (·.2.1) =
      (labels ×ˢ variants.map (·.1)).map (·.2) := by
    simp [blockDesign, SProd.sprod, List.product, List.map_flatMap, List.map_map,
      Function.comp_def]
  rw [hproduct, ← countP_snd_product labels hvariants hvariant, List.count, List.countP_map]
  simp only [Function.comp_def, Bool.beq_eq_decide_eq]

theorem directed_signal (hplan : schedule.wsprCycleIntents.map (·.plan) =
      (plannedSignalCycles labels variants blocks).map fun cycle =>
        (cycle.2.antennaLabel, some .transmit, some (signalAllocation cycle)))
    (choice : String → Bool) :
    ((schedule.directed .transmit).filter fun intent =>
        intent.signal.any (choice ·.frequencyVariantId)).map (·.antennaLabel) =
      ((alternation (blockDesign labels variants) blocks).filter (choice ·.2.1)).map (·.1) := by
  have hintents : ((schedule.wsprCycleIntents.map (·.plan)).filter fun plan =>
        plan.2.2.any (choice ·.frequencyVariantId) && plan.2.1 = some .transmit).map (·.1) =
      ((schedule.directed .transmit).filter fun intent =>
        intent.signal.any (choice ·.frequencyVariantId)).map (·.antennaLabel) := by
    rw [List.filter_map, List.map_map, ScheduleV3.directed, List.filter_filter]
    rfl
  rw [← hintents, hplan, ← plannedSignalCycles_entries, List.filter_map, List.map_map,
    List.filter_map, List.map_map]
  simp [Function.comp_def, signalAllocation, BlockCycle.entry]

theorem directed_signal_receive (hplan : schedule.wsprCycleIntents.map (·.plan) =
      (plannedSignalCycles labels variants blocks).map fun cycle =>
        (cycle.2.antennaLabel, some .transmit, some (signalAllocation cycle))) :
    schedule.directed .receive = [] := by
  rw [ScheduleV3.directed, List.filter_eq_nil_iff]
  intro intent hintent
  have hmem := List.mem_map_of_mem (f := (·.plan)) hintent
  rw [hplan] at hmem
  obtain ⟨cycle, -, heq⟩ := List.mem_map.1 hmem
  have hdirection : some .transmit = intent.direction := congrArg (·.2.1) heq
  rw [← hdirection]
  decide

theorem directed_signal_all (hplan : schedule.wsprCycleIntents.map (·.plan) =
      (plannedSignalCycles labels variants blocks).map fun cycle =>
        (cycle.2.antennaLabel, some .transmit, some (signalAllocation cycle))) :
    (schedule.directed .transmit).map (·.antennaLabel) =
      (alternation (blockDesign labels variants) blocks).map (·.1) := by
  have hall := directed_signal hplan fun _ => true
  have hsignal : (schedule.directed .transmit).filter (fun intent =>
      intent.signal.any fun _ => true) = schedule.directed .transmit := by
    rw [List.filter_eq_self]
    intro intent hintent
    have hmem := List.mem_map_of_mem (f := (·.plan)) (List.mem_of_mem_filter hintent)
    rw [hplan] at hmem
    obtain ⟨cycle, -, heq⟩ := List.mem_map.1 hmem
    have hallocation : some (signalAllocation cycle) = intent.signal := congrArg (·.2.2) heq
    rw [← hallocation]
    rfl
  rw [hsignal] at hall
  simpa using hall

theorem variantIds_signal (hplan : schedule.wsprCycleIntents.map (·.plan) =
      (plannedSignalCycles labels variants blocks).map fun cycle =>
        (cycle.2.antennaLabel, some .transmit, some (signalAllocation cycle))) :
    schedule.variantIds = (alternation (blockDesign labels variants) blocks).map (·.2.1) := by
  have hintents : (schedule.wsprCycleIntents.map (·.plan)).filterMap
      (·.2.2.map (·.frequencyVariantId)) = schedule.variantIds := by
    rw [List.filterMap_map]
    rfl
  rw [← hintents, hplan, List.filterMap_map, ← plannedSignalCycles_entries, List.map_map]
  exact congrFun List.filterMap_eq_map _

theorem variantIds_planned (hplan : schedule.wsprCycleIntents.map (·.plan) =
      (plannedSignalCycles labels variants blocks).map fun cycle =>
        (cycle.2.antennaLabel, some .transmit, some (signalAllocation cycle)))
    {variantId : String} (h : variantId ∈ schedule.variantIds) :
    variantId ∈ variants.map (·.1) := by
  rw [variantIds_signal hplan] at h
  obtain ⟨place, hplace, rfl⟩ := List.mem_map.1 h
  exact List.mem_map_of_mem (List.mem_product.1 (mem_alternation.1 hplace).2).2

theorem intentSlots_signal (hplan : schedule.wsprCycleIntents.map (·.plan) =
      (plannedSignalCycles labels variants blocks).map fun cycle =>
        (cycle.2.antennaLabel, some .transmit, some (signalAllocation cycle))) :
    schedule.intentSlots.map (·.cycle) = plannedSignalCycles labels variants blocks := by
  have hintents : (schedule.wsprCycleIntents.map (·.plan)).filterMap (fun plan =>
      plan.2.2.map fun allocation => (allocation.counterbalanceBlockId,
        BlockCycle.mk allocation.counterbalancePosition plan.1 allocation.frequencyVariantId
          allocation.frequencyHz)) = schedule.intentSlots.map (·.cycle) := by
    rw [ScheduleV3.intentSlots, List.map_filterMap, List.filterMap_map,
      ← List.zipIdx_map_fst 0 schedule.wsprCycleIntents, List.filterMap_map,
      List.zipIdx_map_fst]
    apply List.filterMap_congr
    rintro ⟨intent, index⟩ _
    simp only [Function.comp_apply, WsprCycleIntentV3.plan, Option.map_map]
    rfl
  rw [← hintents, hplan, List.filterMap_map]
  exact List.filterMap_some

/-- The cycles of an even number of blocks are even in antennas and variants. -/
theorem plannedEvenly_signal (hplan : schedule.wsprCycleIntents.map (·.plan) =
      (plannedSignalCycles labels variants blocks).map fun cycle =>
        (cycle.2.antennaLabel, some .transmit, some (signalAllocation cycle)))
    (hlabels : labels.Nodup) (hvariants : (variants.map (·.1)).Nodup) (heven : blocks % 2 = 0) :
    PlannedEvenly labels schedule := by
  have hslots := intentSlots_signal hplan
  have hcheck := validateCounterbalance_planned hslots hlabels hvariants heven
  refine ⟨?_, ?_, ?_, ?_, hcheck⟩
  · intro direction a ha b hb
    cases direction with
    | receive =>
      rw [directed_signal_receive hplan]
      exact ⟨rfl, rfl⟩
    | transmit =>
      rw [directed_signal_all hplan, map_alternation]
      apply alternation_even_balanced heven
      rw [blockDesign_antennas_count hlabels variants ha,
        blockDesign_antennas_count hlabels variants hb]
  · intro direction variantId a ha b hb
    cases direction with
    | receive =>
      rw [directed_signal_receive hplan]
      exact ⟨rfl, rfl⟩
    | transmit =>
      rw [directed_signal hplan fun id => decide (id = variantId)]
      apply alternation_choice_balanced heven
      rw [blockDesign_filter fun variant => decide (variant.1 = variantId),
        blockDesign_antennas_count hlabels _ ha, blockDesign_antennas_count hlabels _ hb]
  · intro v hv w hw
    rw [variantIds_signal hplan, map_alternation]
    apply alternation_even_balanced heven
    rw [blockDesign_variants_count labels hvariants (variantIds_planned hplan hv),
      blockDesign_variants_count labels hvariants (variantIds_planned hplan hw)]
  · intro block hblock antenna hantenna variantId hvariant
    have hnonempty : schedule.intentSlots ≠ [] := by
      rintro hnone
      rw [hnone] at hblock
      cases hblock
    exact (validateCounterbalance_sound hcheck).once block hblock antenna
      ((mem_plannedSlots_antennas hslots hnonempty).2 hantenna) variantId
      ((mem_plannedSlots_variants hslots hnonempty).2 (variantIds_planned hplan hvariant))

end

end AntennaBench
