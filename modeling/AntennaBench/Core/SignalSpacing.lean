import Mathlib.Algebra.Order.Field.Rat
import Mathlib.Tactic.FieldSimp
import AntennaBench.Core.SignalPlan
import AntennaBench.Timeline.Crossed
import AntennaBench.Timeline.OrderedMap
import AntennaBench.Timeline.Windows

/-!
# What an accepted signal plan schedule satisfies

The slots of one plan are crossed over antennas and frequency variants in every block, and
the slots of one RBN CW plan keep out of each other's suppression window. The scan for that
window runs plan by plan, so two plans that transmit the same callsign are not held apart.
-/

namespace AntennaBench

open Timeline

/-- The slots that carry an allocation, numbered as the schedule stores them. -/
def ScheduleV3.allocated (schedule : ScheduleV3) : List AllocatedSlot :=
  schedule.slots.zipIdx.filterMap fun (slot, index) =>
    slot.signal.map fun allocation => AllocatedSlot.mk index slot allocation

/-- The slots allocated to a plan. -/
def ScheduleV3.slotsOf (schedule : ScheduleV3) (planId : SignalPlanIdV3) : List AllocatedSlot :=
  schedule.allocated.filter (·.allocation.signalPlanId == planId)

/-- The place of a slot in the design: the levels of its two factors. -/
def AllocatedSlot.levels (entry : AllocatedSlot) : String × String :=
  (entry.slot.antennaLabel, entry.allocation.frequencyVariantId)

def meanPosition (slots : List AllocatedSlot) : ℚ :=
  ((slots.map (·.allocation.counterbalancePosition)).sum : ℕ) / (slots.length : ℕ)

/-- Every level that `key` tells apart occurs equally often and at the same mean position. -/
structure EvenlyPlaced (slots : List AllocatedSlot) (key : AllocatedSlot → String) : Prop where
  counts : ∀ a ∈ slots, ∀ b ∈ slots,
    (slots.filter (key · = key a)).length = (slots.filter (key · = key b)).length
  means : ∀ a ∈ slots, ∀ b ∈ slots,
    meanPosition (slots.filter (key · = key a)) = meanPosition (slots.filter (key · = key b))

/-- The slots of a plan as its counterbalance promises them. -/
structure Counterbalanced (slots : List AllocatedSlot) : Prop where
  once : ∀ block ∈ slots.map (·.allocation.counterbalanceBlockId),
    ∀ antenna ∈ slots.map (·.slot.antennaLabel),
    ∀ variant ∈ slots.map (·.allocation.frequencyVariantId),
    slots.countP (fun entry => entry.allocation.counterbalanceBlockId = block ∧
      entry.slot.antennaLabel = antenna ∧ entry.allocation.frequencyVariantId = variant) = 1
  antennas : EvenlyPlaced slots (·.slot.antennaLabel)
  variants : EvenlyPlaced slots (·.allocation.frequencyVariantId)
  frequency : ∀ a ∈ slots, ∀ b ∈ slots,
    a.allocation.frequencyVariantId = b.allocation.frequencyVariantId →
      a.allocation.frequencyHz = b.allocation.frequencyHz

theorem EvenlyPlaced.of_perm {slots slots' : List AllocatedSlot} {key : AllocatedSlot → String}
    (hperm : slots.Perm slots') (h : EvenlyPlaced slots key) : EvenlyPlaced slots' key where
  counts := by
    intro a ha b hb
    have hcounts := h.counts a (hperm.mem_iff.2 ha) b (hperm.mem_iff.2 hb)
    rwa [(hperm.filter _).length_eq, (hperm.filter _).length_eq] at hcounts
  means := by
    have hmean : ∀ p : AllocatedSlot → Bool,
        meanPosition (slots.filter p) = meanPosition (slots'.filter p) := by
      intro p
      have hfilter := hperm.filter p
      rw [meanPosition, meanPosition, (hfilter.map _).sum_eq, hfilter.length_eq]
    intro a ha b hb
    have hmeans := h.means a (hperm.mem_iff.2 ha) b (hperm.mem_iff.2 hb)
    rwa [hmean, hmean] at hmeans

/-- The order of the slots plays no part in their counterbalance. -/
theorem Counterbalanced.of_perm {slots slots' : List AllocatedSlot} (hperm : slots.Perm slots')
    (h : Counterbalanced slots) : Counterbalanced slots' where
  once := by
    intro block hblock antenna hantenna variant hvariant
    rw [← hperm.countP_eq]
    exact h.once block ((hperm.map _).mem_iff.2 hblock) antenna ((hperm.map _).mem_iff.2 hantenna)
      variant ((hperm.map _).mem_iff.2 hvariant)
  antennas := h.antennas.of_perm hperm
  variants := h.variants.of_perm hperm
  frequency := by
    intro a ha b hb
    exact h.frequency a (hperm.mem_iff.2 ha) b (hperm.mem_iff.2 hb)

theorem diagnosticIf_eq_nil {condition : Bool} {code path message : String} :
    diagnosticIf condition code path message = [] ↔ condition = false := by
  cases condition <;> simp [diagnosticIf]

/-- The slot before that names the variant has the frequency every earlier one has. -/
theorem variantFrequencyDiagnostics_eq_nil {slots earlier : List AllocatedSlot}
    (hearlier : ∀ a ∈ earlier, ∀ b ∈ earlier,
      a.allocation.frequencyVariantId = b.allocation.frequencyVariantId →
        a.allocation.frequencyHz = b.allocation.frequencyHz)
    (h : variantFrequencyDiagnostics earlier slots = []) :
    ∀ a ∈ earlier ++ slots, ∀ b ∈ earlier ++ slots,
      a.allocation.frequencyVariantId = b.allocation.frequencyVariantId →
        a.allocation.frequencyHz = b.allocation.frequencyHz := by
  induction slots generalizing earlier with
  | nil => simpa using hearlier
  | cons slot rest ih =>
    obtain ⟨hslot, hrest⟩ := List.append_eq_nil_iff.1 h
    have hsame : ∀ a ∈ earlier,
        a.allocation.frequencyVariantId = slot.allocation.frequencyVariantId →
          a.allocation.frequencyHz = slot.allocation.frequencyHz := by
      intro a ha hvariant
      have hmem : a ∈ earlier.filter fun other =>
          other.allocation.frequencyVariantId == slot.allocation.frequencyVariantId :=
        List.mem_filter.2 ⟨ha, by simpa using hvariant⟩
      obtain ⟨known, others, hknown⟩ := List.exists_cons_of_ne_nil (List.ne_nil_of_mem hmem)
      rw [hknown, diagnosticIf_eq_nil] at hslot
      have hfrequency : known.allocation.frequencyHz = slot.allocation.frequencyHz := by
        simpa using hslot
      have hfirst : known ∈ earlier.filter fun other =>
          other.allocation.frequencyVariantId == slot.allocation.frequencyVariantId := by
        rw [hknown]
        exact List.mem_cons_self
      obtain ⟨hmember, hnames⟩ := List.mem_filter.1 hfirst
      rw [← hfrequency]
      exact hearlier a ha known hmember (hvariant.trans (beq_iff_eq.1 hnames).symm)
    have hnext : ∀ a ∈ slot :: earlier, ∀ b ∈ slot :: earlier,
        a.allocation.frequencyVariantId = b.allocation.frequencyVariantId →
          a.allocation.frequencyHz = b.allocation.frequencyHz := by
      intro a ha b hb hvariant
      rcases List.mem_cons.1 ha with ha | ha <;> rcases List.mem_cons.1 hb with hb | hb
      · rw [ha, hb]
      · rw [ha] at hvariant ⊢
        exact (hsame b hb hvariant.symm).symm
      · rw [hb] at hvariant ⊢
        exact hsame a ha hvariant
      · exact hearlier a ha b hb hvariant
    intro a ha b hb
    exact ih hnext hrest a (by simp at ha ⊢; tauto) b (by simp at hb ⊢; tauto)

/-- The check compares cross-multiplied sums, so it compares the means. -/
theorem balancedAveragePosition_means {slots : List AllocatedSlot} {key : AllocatedSlot → String}
    (h : balancedAveragePosition slots key = true) :
    ∀ a ∈ slots, ∀ b ∈ slots,
      meanPosition (slots.filter (key · = key a)) =
        meanPosition (slots.filter (key · = key b)) := by
  unfold balancedAveragePosition at h
  dsimp only at h
  split at h
  · rename_i hnone
    intro a ha
    have hkey : key a ∈ AntennaBench.sortedKeys (slots.map key) := by
      simpa [AntennaBench.sortedKeys] using ⟨a, ha, rfl⟩
    simp [List.map_eq_nil_iff.1 hnone] at hkey
  · rename_i firstSum firstCount _ hpositions
    have hfirst : ∀ a ∈ slots, meanPosition (slots.filter (key · = key a)) =
        (firstSum : ℚ) / firstCount := by
      intro a ha
      have hkey : key a ∈ AntennaBench.sortedKeys (slots.map key) := by
        simpa [AntennaBench.sortedKeys] using ⟨a, ha, rfl⟩
      have hcross := List.all_eq_true.1 h _ (List.mem_map_of_mem hkey)
      simp only [Bool.and_eq_true, bne_iff_ne, beq_iff_eq] at hcross
      obtain ⟨⟨hfirst, hcount⟩, hsums⟩ := hcross
      have hfilter : (slots.filter fun slot => key slot == key a) =
          slots.filter (key · = key a) := by
        simp only [Bool.beq_eq_decide_eq]
      rw [hfilter] at hcount hsums
      rw [meanPosition, div_eq_div_iff (by exact_mod_cast hcount) (by exact_mod_cast hfirst)]
      exact_mod_cast hsums
    intro a ha b hb
    rw [hfirst a ha, hfirst b hb]

/-- The factors of a plan: the antennas and the variants its slots name. -/
def designLevels (slots : List AllocatedSlot) : List (String × String) :=
  (slots.map (·.slot.antennaLabel)).dedup ×ˢ
    (slots.map (·.allocation.frequencyVariantId)).dedup

/-- A block that the check passes is crossed over the factors of the plan. -/
theorem validateCounterbalance_block {slots : List AllocatedSlot}
    (h : validateCounterbalance slots = []) {entry : AllocatedSlot} (hentry : entry ∈ slots) :
    ((slots.filter (·.allocation.counterbalanceBlockId =
        entry.allocation.counterbalanceBlockId)).map (·.levels)).Perm (designLevels slots) := by
  have hblocks := (List.append_eq_nil_iff.1 (List.append_eq_nil_iff.1 h).1).2
  have hkey : entry.allocation.counterbalanceBlockId ∈
      AntennaBench.sortedKeys (slots.map (·.allocation.counterbalanceBlockId)) := by
    simpa [AntennaBench.sortedKeys] using ⟨entry, hentry, rfl⟩
  have hblock := List.flatMap_eq_nil_iff.1 hblocks _ hkey
  rw [diagnosticIf_eq_nil] at hblock
  simp only [Bool.or_eq_false_iff, bne_eq_false_iff_eq, beq_eq_decide] at hblock
  obtain ⟨⟨hlength, hpairs⟩, -⟩ := hblock
  apply perm_product_of_length
  · intro pair hpair
    obtain ⟨other, hother, rfl⟩ := List.mem_map.1 hpair
    have hmem : other ∈ slots := (List.mem_filter.1 hother).1
    exact List.mem_product.2 ⟨List.mem_dedup.2 (List.mem_map_of_mem hmem),
      List.mem_dedup.2 (List.mem_map_of_mem hmem)⟩
  · rw [List.length_map]
    exact hlength
  · exact hpairs

/-- A level occurs as often in every block as it does in the design. -/
theorem validateCounterbalance_level {slots : List AllocatedSlot}
    (h : validateCounterbalance slots = []) (factor : String × String → String)
    (level : String) :
    (slots.filter (factor ·.levels = level)).length =
      (slots.map (·.allocation.counterbalanceBlockId)).dedup.length *
        (designLevels slots).countP (factor · = level) := by
  have hmem : ∀ entry ∈ slots.filter (factor ·.levels = level),
      entry.allocation.counterbalanceBlockId ∈
        (slots.map (·.allocation.counterbalanceBlockId)).dedup := by
    intro entry hentry
    exact List.mem_dedup.2 (List.mem_map_of_mem (List.mem_filter.1 hentry).1)
  have hclass : ∀ block ∈ (slots.map (·.allocation.counterbalanceBlockId)).dedup,
      ((slots.filter (factor ·.levels = level)).filter
          (·.allocation.counterbalanceBlockId = block)).length =
        (designLevels slots).countP (factor · = level) := by
    intro block hblock
    obtain ⟨entry, hentry, rfl⟩ := List.mem_map.1 (List.mem_dedup.1 hblock)
    rw [← (validateCounterbalance_block h hentry).countP_eq, List.countP_map,
      List.filter_comm, ← List.countP_eq_length_filter]
    rfl
  rw [← sum_class_lengths (List.nodup_dedup _) hmem, List.map_congr_left hclass,
    List.map_const', List.sum_replicate_nat]

theorem validateCounterbalance_evenlyPlaced {slots : List AllocatedSlot}
    (h : validateCounterbalance slots = []) (factor : String × String → String) {size : ℕ}
    (hsize : ∀ entry ∈ slots,
      (designLevels slots).countP (factor · = factor entry.levels) = size)
    (hmeans : balancedAveragePosition slots (factor ·.levels) = true) :
    EvenlyPlaced slots (factor ·.levels) where
  counts := by
    intro a ha b hb
    rw [validateCounterbalance_level h factor, validateCounterbalance_level h factor, hsize a ha,
      hsize b hb]
  means := balancedAveragePosition_means hmeans

theorem validateCounterbalance_sound {slots : List AllocatedSlot}
    (h : validateCounterbalance slots = []) : Counterbalanced slots := by
  have horder := (List.append_eq_nil_iff.1 h).2
  rw [diagnosticIf_eq_nil, Bool.or_eq_false_iff, Bool.not_eq_false', Bool.not_eq_false'] at horder
  have hfrequency := (List.append_eq_nil_iff.1 (List.append_eq_nil_iff.1 h).1).1
  have hantenna : ∀ entry ∈ slots, entry.slot.antennaLabel ∈
      (slots.map (·.slot.antennaLabel)).dedup := fun entry hentry =>
    List.mem_dedup.2 (List.mem_map_of_mem hentry)
  have hvariant : ∀ entry ∈ slots, entry.allocation.frequencyVariantId ∈
      (slots.map (·.allocation.frequencyVariantId)).dedup := fun entry hentry =>
    List.mem_dedup.2 (List.mem_map_of_mem hentry)
  refine ⟨?_, ?_, ?_, ?_⟩
  · intro block hblock antenna hantenna variant hvariant
    obtain ⟨entry, hentry, rfl⟩ := List.mem_map.1 hblock
    have hcount := (validateCounterbalance_block h hentry).count_eq (antenna, variant)
    have honce : (designLevels slots).count (antenna, variant) = 1 :=
      List.count_eq_one_of_mem ((List.nodup_dedup _).product (List.nodup_dedup _))
        (List.mem_product.2 ⟨List.mem_dedup.2 hantenna, List.mem_dedup.2 hvariant⟩)
    rw [← honce, ← hcount, List.count, List.countP_map, List.countP_filter]
    apply List.countP_congr
    intro other _
    simp [AllocatedSlot.levels, and_comm]
  · exact validateCounterbalance_evenlyPlaced h Prod.fst (fun entry hentry =>
      countP_fst_product (List.nodup_dedup _) _ (hantenna entry hentry)) horder.1
  · exact validateCounterbalance_evenlyPlaced h Prod.snd (fun entry hentry =>
      countP_snd_product _ (List.nodup_dedup _) (hvariant entry hentry)) horder.2
  · exact variantFrequencyDiagnostics_eq_nil (by simp) hfrequency

/-- The ten minutes in which a receiver may ignore a station it has spotted. -/
def rbnSuppressionWindow : ℤ := 600 * DateTime.nanosPerSecond

/-- The slots start ten minutes apart or their frequencies are 300 Hz apart. -/
def SpacedApart (left right : AllocatedSlot) : Prop :=
  left.slot.startsAt + rbnSuppressionWindow ≤ right.slot.startsAt ∨
    right.slot.startsAt + rbnSuppressionWindow ≤ left.slot.startsAt ∨
      300 ≤ ((left.allocation.frequencyHz : ℤ) - right.allocation.frequencyHz).natAbs

instance (left right : AllocatedSlot) : Decidable (SpacedApart left right) :=
  inferInstanceAs (Decidable (_ ∨ _ ∨ _))

theorem SpacedApart.symm {left right : AllocatedSlot} (h : SpacedApart left right) :
    SpacedApart right left := by
  rcases h with h | h | h
  · exact Or.inr (Or.inl h)
  · exact Or.inl h
  · refine Or.inr (Or.inr ?_)
    omega

/-- `num_seconds` of the gap is below the limit of the scan. -/
def withinRbnScan (left right : AllocatedSlot) : Bool :=
  (right.slot.startsAt - left.slot.startsAt).tdiv DateTime.nanosPerSecond < 600

theorem withinRbnScan_iff {left right : AllocatedSlot}
    (h : left.slot.startsAt ≤ right.slot.startsAt) : withinRbnScan left right = true ↔
      right.slot.startsAt < left.slot.startsAt + rbnSuppressionWindow := by
  have hgap : 0 ≤ right.slot.startsAt - left.slot.startsAt := Int.sub_nonneg.2 h
  rw [withinRbnScan, decide_eq_true_eq, Int.tdiv_eq_ediv_of_nonneg hgap,
    Int.ediv_lt_iff_lt_mul (by decide), rbnSuppressionWindow]
  exact sub_lt_iff_lt_add'

theorem validateRbnSuppression_eq (slots : List AllocatedSlot) :
    validateRbnSuppression slots = windowPairs withinRbnScan rbnSuppressionPair slots := by
  induction slots with
  | nil => rfl
  | cons left rest ih => rw [validateRbnSuppression, windowPairs, ih]; rfl

theorem rbnSuppressionPair_eq_nil {left right : AllocatedSlot}
    (h : left.slot.startsAt ≤ right.slot.startsAt) : rbnSuppressionPair left right = [] ↔
      300 ≤ ((left.allocation.frequencyHz : ℤ) - right.allocation.frequencyHz).natAbs := by
  have hgap : 0 ≤ (right.slot.startsAt - left.slot.startsAt).tdiv DateTime.nanosPerSecond :=
    Int.tdiv_nonneg (Int.sub_nonneg.2 h) (by decide)
  rw [rbnSuppressionPair, diagnosticIf_eq_nil]
  simp [hgap]

/-- In slots sorted by their start, a silent scan has held every pair apart. -/
theorem validateRbnSuppression_spaced {slots : List AllocatedSlot}
    (hsorted : slots.Pairwise fun a b => a.slot.startsAt ≤ b.slot.startsAt)
    (h : validateRbnSuppression slots = []) : slots.Pairwise SpacedApart := by
  have hnear : slots.Pairwise fun b c =>
      ∀ a, withinRbnScan a c = true → withinRbnScan a b = true := by
    apply hsorted.imp
    intro b c hbc a hac
    rw [withinRbnScan, decide_eq_true_eq] at hac ⊢
    have hmono := Int.tdiv_le_tdiv (c := DateTime.nanosPerSecond) (by decide)
      (Int.sub_le_sub_right hbc a.slot.startsAt)
    omega
  rw [validateRbnSuppression_eq] at h
  have hpairs := pairwise_of_windowPairs_eq_nil hnear h
  apply hsorted.imp₂ _ hpairs
  intro left right hle hsilent
  by_cases hwithin : withinRbnScan left right = true
  · exact Or.inr (Or.inr ((rbnSuppressionPair_eq_nil hle).1 (hsilent hwithin)))
  · rw [withinRbnScan_iff hle] at hwithin
    exact Or.inl (not_lt.1 hwithin)

/-- What the scan reports is about two slots that are not spaced apart. -/
theorem exists_of_mem_validateRbnSuppression {slots : List AllocatedSlot}
    {diagnostic : SignalPlanDiagnosticV3}
    (hsorted : slots.Pairwise fun a b => a.slot.startsAt ≤ b.slot.startsAt)
    (h : diagnostic ∈ validateRbnSuppression slots) :
    ∃ left right, [left, right].Sublist slots ∧ ¬ SpacedApart left right := by
  rw [validateRbnSuppression_eq] at h
  obtain ⟨left, right, hsub, hwithin, hreport⟩ := exists_of_mem_windowPairs h
  have hle : left.slot.startsAt ≤ right.slot.startsAt := by
    have hpair := hsorted.sublist hsub
    simpa using hpair
  refine ⟨left, right, hsub, ?_⟩
  rw [withinRbnScan_iff hle] at hwithin
  have hclose : ¬ 300 ≤
      ((left.allocation.frequencyHz : ℤ) - right.allocation.frequencyHz).natAbs := by
    rw [← rbnSuppressionPair_eq_nil hle]
    exact List.ne_nil_of_mem hreport
  rintro (hspaced | hspaced | hspaced)
  · exact absurd hspaced (not_le.2 hwithin)
  · have hpast := hspaced.trans hle
    exact absurd hpast (not_le.2 (lt_add_of_pos_right _ (by decide)))
  · exact hclose hspaced

/-- Two slots of RBN CW plans that transmit one callsign in one mode. -/
def ScheduleV3.MayBeSuppressed (schedule : ScheduleV3) (left right : AllocatedSlot) : Prop :=
  ∃ p ∈ schedule.signalPlans, ∃ q ∈ schedule.signalPlans,
    p.signalPlanId = left.allocation.signalPlanId ∧
      q.signalPlanId = right.allocation.signalPlanId ∧
      p.collectionProfile = .rbnCwV1 ∧ q.collectionProfile = .rbnCwV1 ∧
      p.transmittedCallsign = q.transmittedCallsign ∧ p.mode = q.mode

/-- No two slots that a receiver may take for repetitions are close in time and frequency. -/
def ScheduleV3.RbnSpaced (schedule : ScheduleV3) : Prop :=
  ∀ left ∈ schedule.allocated, ∀ right ∈ schedule.allocated, left ≠ right →
    schedule.MayBeSuppressed left right → SpacedApart left right

/-- The spacing where the two slots belong to different plans. -/
def ScheduleV3.SpacedAcrossPlans (schedule : ScheduleV3) : Prop :=
  ∀ left ∈ schedule.allocated, ∀ right ∈ schedule.allocated,
    left.allocation.signalPlanId ≠ right.allocation.signalPlanId →
      schedule.MayBeSuppressed left right → SpacedApart left right

theorem ScheduleV3.allocated_nodup (schedule : ScheduleV3) : schedule.allocated.Nodup := by
  have hzip : schedule.slots.zipIdx.Nodup := by
    apply List.Nodup.of_map Prod.snd
    rw [List.zipIdx_map_snd]
    exact List.nodup_range'
  apply hzip.filterMap
  rintro ⟨slot, index⟩ ⟨slot', index'⟩ entry hentry hentry'
  simp only [Option.mem_def, Option.map_eq_some_iff] at hentry hentry'
  obtain ⟨allocation, -, rfl⟩ := hentry
  obtain ⟨allocation', -, heq⟩ := hentry'
  injection heq with hindex hslot
  rw [hindex, hslot]

theorem findSignalPlan?_eq_some {plans : List SignalPlanV3} {planId : SignalPlanIdV3}
    {plan : SignalPlanV3} (h : findSignalPlan? plans planId = some plan) :
    plan ∈ plans ∧ plan.signalPlanId = planId := by
  refine ⟨List.mem_reverse.1 (List.mem_of_find?_eq_some h), ?_⟩
  simpa using List.find?_some h

/-- The slots of a known plan in the order the validation walks them. -/
def ScheduleV3.walkedSlots (schedule : ScheduleV3) (planId : SignalPlanIdV3) :
    List AllocatedSlot :=
  sortOn (·.slot.startsAt) (schedule.slotsOf planId)

theorem ScheduleV3.walkedSlots_perm (schedule : ScheduleV3) (planId : SignalPlanIdV3) :
    (schedule.walkedSlots planId).Perm (schedule.slotsOf planId) :=
  sortOn_perm _ _

def ScheduleV3.planDiagnostics (schedule : ScheduleV3) (planId : SignalPlanIdV3) :
    List SignalPlanDiagnosticV3 :=
  (if (findSignalPlan? schedule.signalPlans planId).any (·.collectionProfile == .rbnCwV1) then
    validateRbnSuppression (schedule.walkedSlots planId)
  else []) ++ validateCounterbalance (schedule.walkedSlots planId)

theorem ScheduleV3.mem_slotsOf {schedule : ScheduleV3} {planId : SignalPlanIdV3}
    {entry : AllocatedSlot} : entry ∈ schedule.slotsOf planId ↔
      entry ∈ schedule.allocated ∧ entry.allocation.signalPlanId = planId := by
  rw [slotsOf, List.mem_filter, beq_iff_eq]

/-- The slots whose plan the schedule defines. -/
def ScheduleV3.knownSlots (schedule : ScheduleV3) : List AllocatedSlot :=
  schedule.allocated.filter fun entry =>
    schedule.signalPlans.any (·.signalPlanId == entry.allocation.signalPlanId)

def ScheduleV3.definitionDiagnostics (schedule : ScheduleV3) (stationCallsign : String) :
    List SignalPlanDiagnosticV3 :=
  schedule.signalPlans.zipIdx.flatMap fun (plan, index) =>
    signalPlanDiagnostics stationCallsign (schedule.signalPlans.take index) index plan

def ScheduleV3.slotDiagnostics (schedule : ScheduleV3) : List SignalPlanDiagnosticV3 :=
  schedule.allocated.flatMap fun entry =>
    allocationDiagnostics schedule.signalPlans ("/slots/" ++ toString entry.index)
      "slot references an unknown signal plan" entry.allocation

def ScheduleV3.intentDiagnostics (schedule : ScheduleV3) : List SignalPlanDiagnosticV3 :=
  schedule.wsprCycleIntents.zipIdx.flatMap fun (intent, index) =>
    (intent.signal.map fun allocation =>
      allocationDiagnostics schedule.signalPlans ("/wspr_cycle_intents/" ++ toString index)
        "cycle intent references an unknown signal plan" allocation).getD []

/-- Every slot of a known plan is walked with its plan. -/
theorem ScheduleV3.knownSlots_filter {schedule : ScheduleV3} {planId : SignalPlanIdV3}
    (h : planId ∈ schedule.knownSlots.map (·.allocation.signalPlanId)) :
    schedule.knownSlots.filter (·.allocation.signalPlanId == planId) = schedule.slotsOf planId := by
  obtain ⟨known, hknown, rfl⟩ := List.mem_map.1 h
  have hplan := (List.mem_filter.1 hknown).2
  rw [knownSlots, List.filter_filter, slotsOf]
  apply List.filter_congr
  intro entry _
  by_cases hid : entry.allocation.signalPlanId = known.allocation.signalPlanId
  · rw [hid, hplan, Bool.and_true]
  · rw [beq_false_of_ne hid, Bool.false_and]

theorem validateSignalPlanScheduleV3_eq (stationCallsign : String) (schedule : ScheduleV3) :
    validateSignalPlanScheduleV3 stationCallsign schedule =
      schedule.definitionDiagnostics stationCallsign ++ schedule.slotDiagnostics ++
        schedule.intentDiagnostics ++
        (AntennaBench.sortedKeys (schedule.knownSlots.map (·.allocation.signalPlanId))).flatMap
          schedule.planDiagnostics := by
  have hplans : (AntennaBench.sortedKeys
      (schedule.knownSlots.map (·.allocation.signalPlanId))).flatMap schedule.planDiagnostics =
      (AntennaBench.sortedKeys (schedule.knownSlots.map (·.allocation.signalPlanId))).flatMap
        fun planId =>
          let slots := (schedule.knownSlots.filter
            (·.allocation.signalPlanId == planId)).insertionSort
              fun a b => a.slot.startsAt ≤ b.slot.startsAt
          (if (findSignalPlan? schedule.signalPlans planId).any
              (·.collectionProfile == .rbnCwV1) then validateRbnSuppression slots
          else []) ++ validateCounterbalance slots := by
    apply List.flatMap_congr
    intro planId hplanId
    have hmem : planId ∈ schedule.knownSlots.map (·.allocation.signalPlanId) := by
      simpa [AntennaBench.sortedKeys] using hplanId
    rw [ScheduleV3.knownSlots_filter hmem]
    rfl
  rw [hplans]
  rfl

section Accepted

variable {stationCallsign : String} {schedule : ScheduleV3}
  (h : validateSignalPlanScheduleV3 stationCallsign schedule = [])

include h

theorem accepted_parts : schedule.definitionDiagnostics stationCallsign = [] ∧
    schedule.slotDiagnostics = [] ∧
    ∀ planId ∈ schedule.knownSlots.map (·.allocation.signalPlanId),
      schedule.planDiagnostics planId = [] := by
  rw [validateSignalPlanScheduleV3_eq, List.append_eq_nil_iff, List.append_eq_nil_iff,
    List.append_eq_nil_iff] at h
  obtain ⟨⟨⟨hdefinitions, hslots⟩, -⟩, hplans⟩ := h
  refine ⟨hdefinitions, hslots, ?_⟩
  intro planId hplanId
  apply List.flatMap_eq_nil_iff.1 hplans
  simpa [AntennaBench.sortedKeys] using hplanId

/-- The plans of an accepted schedule have different identities. -/
theorem accepted_planIds_nodup : (schedule.signalPlans.map (·.signalPlanId)).Nodup := by
  have hfresh : ∀ index (hindex : index < schedule.signalPlans.length),
      ∀ earlier ∈ schedule.signalPlans.take index,
        earlier.signalPlanId ≠ schedule.signalPlans[index].signalPlanId := by
    intro index hindex earlier hearlier
    have hmem : (schedule.signalPlans[index], index) ∈ schedule.signalPlans.zipIdx :=
      List.mk_mem_zipIdx_iff_getElem?.2 (List.getElem?_eq_getElem hindex)
    have hplan := List.flatMap_eq_nil_iff.1 (accepted_parts h).1 _ hmem
    simp only [signalPlanDiagnostics, List.append_eq_nil_iff, diagnosticIf_eq_nil] at hplan
    simpa using List.any_eq_false.1 hplan.1.1.1.1 earlier hearlier
  rw [List.Nodup, List.pairwise_map, List.pairwise_iff_getElem]
  intro i j hi hj hij
  apply hfresh j hj
  exact List.mem_take_iff_getElem.2 ⟨i, lt_min hij hi, rfl⟩

/-- Every slot of an accepted schedule is of a known plan. -/
theorem accepted_known {entry : AllocatedSlot} (hentry : entry ∈ schedule.allocated) :
    entry ∈ schedule.knownSlots := by
  have hslot := List.flatMap_eq_nil_iff.1 (accepted_parts h).2.1 entry hentry
  rw [allocationDiagnostics, List.append_eq_nil_iff, diagnosticIf_eq_nil,
    diagnosticIf_eq_nil] at hslot
  exact List.mem_filter.2 ⟨hentry, by simpa using hslot.2⟩

theorem accepted_counterbalanced (planId : SignalPlanIdV3) :
    Counterbalanced (schedule.slotsOf planId) := by
  apply Counterbalanced.of_perm (schedule.walkedSlots_perm planId)
  apply validateCounterbalance_sound
  by_cases hslots : schedule.slotsOf planId = []
  · rw [ScheduleV3.walkedSlots, hslots]
    rfl
  · obtain ⟨entry, hentry⟩ := List.exists_mem_of_ne_nil _ hslots
    obtain ⟨hmem, rfl⟩ := ScheduleV3.mem_slotsOf.1 hentry
    have hdiagnostics := (accepted_parts h).2.2 _ (List.mem_map_of_mem (accepted_known h hmem))
    exact (List.append_eq_nil_iff.1 hdiagnostics).2

/-- Two slots of one RBN CW plan are spaced apart. -/
theorem accepted_spacedWithin {left right : AllocatedSlot} (hleft : left ∈ schedule.allocated)
    (hright : right ∈ schedule.allocated) (hne : left ≠ right)
    (hplan : left.allocation.signalPlanId = right.allocation.signalPlanId)
    (hrbn : schedule.MayBeSuppressed left right) : SpacedApart left right := by
  obtain ⟨plan, hmem, -, -, hid, -, hprofile, -⟩ := hrbn
  have hfound : findSignalPlan? schedule.signalPlans left.allocation.signalPlanId = some plan := by
    cases hfound : findSignalPlan? schedule.signalPlans left.allocation.signalPlanId with
    | none =>
      have hnone := List.find?_eq_none.1 hfound plan (List.mem_reverse.2 hmem)
      simp [hid] at hnone
    | some found =>
      obtain ⟨hfoundMem, hfoundId⟩ := findSignalPlan?_eq_some hfound
      rw [List.inj_on_of_nodup_map (accepted_planIds_nodup h) hfoundMem hmem
        (hfoundId.trans hid.symm)]
  have hdiagnostics := (accepted_parts h).2.2 _ (List.mem_map_of_mem (accepted_known h hleft))
  rw [ScheduleV3.planDiagnostics, hfound, Option.any_some, hprofile, if_pos (by decide),
    List.append_eq_nil_iff] at hdiagnostics
  have hpairs := validateRbnSuppression_spaced (sortOn_pairwise _ _) hdiagnostics.1
  have hwalked : ∀ {entry : AllocatedSlot}, entry ∈ schedule.allocated →
      entry.allocation.signalPlanId = left.allocation.signalPlanId →
      entry ∈ schedule.walkedSlots left.allocation.signalPlanId := by
    intro entry hentry hid
    exact (schedule.walkedSlots_perm _).mem_iff.2 (ScheduleV3.mem_slotsOf.2 ⟨hentry, hid⟩)
  have : Std.Symm SpacedApart := ⟨fun _ _ => SpacedApart.symm⟩
  exact hpairs.forall (hwalked hleft rfl) (hwalked hright hplan.symm) hne

end Accepted

theorem code_of_mem_diagnosticIf {condition : Bool} {code path message : String}
    {diagnostic : SignalPlanDiagnosticV3}
    (h : diagnostic ∈ diagnosticIf condition code path message) : diagnostic.code = code := by
  cases condition with
  | false => cases h
  | true => rw [List.mem_singleton.1 h]

theorem code_of_mem_variantFrequencyDiagnostics {slots earlier : List AllocatedSlot}
    {diagnostic : SignalPlanDiagnosticV3}
    (h : diagnostic ∈ variantFrequencyDiagnostics earlier slots) :
    diagnostic.code = "signal_plan.variant_frequency_mismatch" := by
  induction slots generalizing earlier with
  | nil => cases h
  | cons slot rest ih =>
    rcases List.mem_append.1 h with hslot | hrest
    · exact code_of_mem_diagnosticIf hslot
    · exact ih hrest

def suppressionRisk : String := "signal_plan.rbn_suppression_risk"

theorem not_mem_signalPlanDiagnostics {stationCallsign : String} {earlier : List SignalPlanV3}
    {index : ℕ} {plan : SignalPlanV3} {diagnostic : SignalPlanDiagnosticV3}
    (hcode : diagnostic.code = suppressionRisk) :
    diagnostic ∉ signalPlanDiagnostics stationCallsign earlier index plan := by
  intro h
  simp only [signalPlanDiagnostics, List.mem_append] at h
  rcases h with (((h | h) | h) | h) | h <;>
    exact absurd (hcode.symm.trans (code_of_mem_diagnosticIf h)) (by decide)

theorem not_mem_allocationDiagnostics {plans : List SignalPlanV3} {path unknown : String}
    {allocation : SignalAllocationV3} {diagnostic : SignalPlanDiagnosticV3}
    (hcode : diagnostic.code = suppressionRisk) :
    diagnostic ∉ allocationDiagnostics plans path unknown allocation := by
  intro h
  rcases List.mem_append.1 h with h | h <;>
    exact absurd (hcode.symm.trans (code_of_mem_diagnosticIf h)) (by decide)

theorem not_mem_validateCounterbalance {slots : List AllocatedSlot}
    {diagnostic : SignalPlanDiagnosticV3} (hcode : diagnostic.code = suppressionRisk) :
    diagnostic ∉ validateCounterbalance slots := by
  intro h
  rcases List.mem_append.1 h with h | h
  · rcases List.mem_append.1 h with h | h
    · exact absurd (hcode.symm.trans (code_of_mem_variantFrequencyDiagnostics h)) (by decide)
    · obtain ⟨block, -, hblock⟩ := List.mem_flatMap.1 h
      exact absurd (hcode.symm.trans (code_of_mem_diagnosticIf hblock)) (by decide)
  · exact absurd (hcode.symm.trans (code_of_mem_diagnosticIf h)) (by decide)

/-- A suppression risk is only reported of two slots that are close in time and frequency. -/
theorem suppressionRisk_pair {stationCallsign : String} {schedule : ScheduleV3}
    {diagnostic : SignalPlanDiagnosticV3}
    (h : diagnostic ∈ validateSignalPlanScheduleV3 stationCallsign schedule)
    (hcode : diagnostic.code = suppressionRisk) :
    ∃ left ∈ schedule.allocated, ∃ right ∈ schedule.allocated, left ≠ right ∧
      schedule.MayBeSuppressed left right ∧ ¬ SpacedApart left right := by
  rw [validateSignalPlanScheduleV3_eq] at h
  rcases List.mem_append.1 h with h | h
  · exfalso
    rcases List.mem_append.1 h with h | h
    · rcases List.mem_append.1 h with h | h
      · obtain ⟨entry, -, hentry⟩ := List.mem_flatMap.1 h
        exact not_mem_signalPlanDiagnostics hcode hentry
      · obtain ⟨entry, -, hentry⟩ := List.mem_flatMap.1 h
        exact not_mem_allocationDiagnostics hcode hentry
    · obtain ⟨⟨intent, index⟩, -, hintent⟩ := List.mem_flatMap.1 h
      cases hsignal : intent.signal with
      | none => simp [hsignal] at hintent
      | some allocation =>
        simp only [hsignal, Option.map_some, Option.getD_some] at hintent
        exact not_mem_allocationDiagnostics hcode hintent
  · obtain ⟨planId, -, hplan⟩ := List.mem_flatMap.1 h
    rcases List.mem_append.1 hplan with hscan | hbalance
    · split_ifs at hscan with hprofile
      · obtain ⟨plan, hfound, hrbn⟩ := (Option.any_eq_true _ _).1 hprofile
        obtain ⟨hmem, hid⟩ := findSignalPlan?_eq_some hfound
        obtain ⟨left, right, hsub, hclose⟩ :=
          exists_of_mem_validateRbnSuppression (sortOn_pairwise _ _) hscan
        have hslot : ∀ entry ∈ [left, right],
            entry ∈ schedule.allocated ∧ entry.allocation.signalPlanId = planId := by
          intro entry hentry
          exact ScheduleV3.mem_slotsOf.1
            ((schedule.walkedSlots_perm planId).mem_iff.1 (hsub.subset hentry))
        obtain ⟨hleft, hleftId⟩ := hslot left (by simp)
        obtain ⟨hright, hrightId⟩ := hslot right (by simp)
        have hnodup : (schedule.walkedSlots planId).Nodup :=
          (schedule.walkedSlots_perm planId).nodup_iff.2 (schedule.allocated_nodup.filter _)
        have hne : left ≠ right := by
          have hpair := hnodup.sublist hsub
          simpa using hpair
        have hcw : plan.collectionProfile = .rbnCwV1 := by simpa using hrbn
        exact ⟨left, hleft, right, hright, hne, ⟨plan, hmem, plan, hmem, hid.trans hleftId.symm,
          hid.trans hrightId.symm, hcw, hcw, rfl, rfl⟩, hclose⟩
      · cases hscan
    · exact absurd hbalance (not_mem_validateCounterbalance hcode)

/-- An accepted schedule keeps the slots of each plan apart and in balance. The slots of
different plans are apart exactly if the schedule keeps them apart itself, and what is
rejected for a suppression risk has one. -/
theorem validateSignalPlanScheduleV3_spaced (stationCallsign : String) (schedule : ScheduleV3) :
    (validateSignalPlanScheduleV3 stationCallsign schedule = [] →
      ((schedule.RbnSpaced ∧ ∀ planId, Counterbalanced (schedule.slotsOf planId)) ↔
        schedule.SpacedAcrossPlans)) ∧
    ∀ diagnostic ∈ validateSignalPlanScheduleV3 stationCallsign schedule,
      diagnostic.code = suppressionRisk →
        ∃ left ∈ schedule.allocated, ∃ right ∈ schedule.allocated, left ≠ right ∧
          schedule.MayBeSuppressed left right ∧ ¬ SpacedApart left right := by
  constructor
  · intro haccepted
    constructor
    · rintro ⟨hspaced, -⟩ left hleft right hright hplans hrbn
      apply hspaced left hleft right hright _ hrbn
      rintro rfl
      exact hplans rfl
    · intro hacross
      refine ⟨?_, accepted_counterbalanced haccepted⟩
      intro left hleft right hright hne hrbn
      by_cases hplan : left.allocation.signalPlanId = right.allocation.signalPlanId
      · exact accepted_spacedWithin haccepted hleft hright hne hplan hrbn
      · exact hacross left hleft right hright hplan hrbn
  · intro diagnostic hdiagnostic hcode
    exact suppressionRisk_pair hdiagnostic hcode

namespace Scenario

/-- A CW call that RBN receivers may spot. -/
def cwPlan (planId : String) : SignalPlanV3 where
  signalPlanId := planId
  mode := .cw
  plannedPowerWatts := none
  transmittedCallsign := "K1ABC"
  differingIdentityValidated := false
  cadence := ⟨"TEST K1ABC", 3, some 22, 20, 30⟩
  collectionProfile := .rbnCwV1

def cwSlot (slotId : String) (sequenceNumber : ℕ) (startSeconds : ℤ) (label planId : String)
    (frequencyHz : ℕ) (block : String) (position : ℕ) : PlannedSlotV3 :=
  ⟨slotId, sequenceNumber, startSeconds * DateTime.nanosPerSecond, 60, 5, .m20, label,
    some ⟨planId, frequencyHz, "f1", block, position⟩⟩

def cwSchedule (plans : List String) (slots : List PlannedSlotV3) : ScheduleV3 :=
  ⟨3, "s1", .txFocused, .dx, none, plans.map cwPlan, [], slots⟩

/-- Two antennas in both orders, ten minutes apart, on two frequencies in turn. -/
def counterbalancedSchedule : ScheduleV3 :=
  cwSchedule ["p", "q"] [cwSlot "a1" 1 0 "A" "p" 14020000 "b1" 0,
    cwSlot "c1" 2 60 "A" "q" 14020300 "b1" 0, cwSlot "b1" 3 600 "B" "p" 14020000 "b1" 1,
    cwSlot "d1" 4 660 "B" "q" 14020300 "b1" 1, cwSlot "b2" 5 1200 "B" "p" 14020000 "b2" 0,
    cwSlot "d2" 6 1260 "B" "q" 14020300 "b2" 0, cwSlot "a2" 7 1800 "A" "p" 14020000 "b2" 1,
    cwSlot "c2" 8 1860 "A" "q" 14020300 "b2" 1]

/-- One minute after the first plan, the second calls on the same frequency. -/
def twoPlanSchedule : ScheduleV3 :=
  cwSchedule ["p", "q"] [cwSlot "a1" 1 0 "A" "p" 14020000 "b1" 0,
    cwSlot "b1" 2 60 "B" "q" 14020000 "b1" 0]

theorem counterbalancedSchedule_spaced : counterbalancedSchedule.RbnSpaced ∧
    ∀ planId, Counterbalanced (counterbalancedSchedule.slotsOf planId) := by
  have hfrequency : ∀ left ∈ counterbalancedSchedule.allocated,
      ∀ right ∈ counterbalancedSchedule.allocated,
        left.allocation.signalPlanId ≠ right.allocation.signalPlanId → SpacedApart left right := by
    decide
  apply ((validateSignalPlanScheduleV3_spaced "K1ABC" counterbalancedSchedule).1 (by decide)).2
  intro left hleft right hright hne _
  exact hfrequency left hleft right hright hne

theorem twoPlanSchedule_accepted : validateSignalPlanScheduleV3 "K1ABC" twoPlanSchedule = [] ∧
    ¬ twoPlanSchedule.RbnSpaced := by
  refine ⟨by decide, ?_⟩
  intro h
  have hspaced := h ⟨0, cwSlot "a1" 1 0 "A" "p" 14020000 "b1" 0, ⟨"p", 14020000, "f1", "b1", 0⟩⟩
    (by decide) ⟨1, cwSlot "b1" 2 60 "B" "q" 14020000 "b1" 0, ⟨"q", 14020000, "f1", "b1", 0⟩⟩
    (by decide) (by decide)
    ⟨cwPlan "p", List.mem_cons_self, cwPlan "q", List.mem_cons_of_mem _ List.mem_cons_self, rfl,
      rfl, rfl, rfl, rfl, rfl⟩
  rcases hspaced with hspaced | hspaced | hspaced <;> revert hspaced <;> decide

end Scenario

end AntennaBench
