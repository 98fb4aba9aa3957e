import AntennaBench.Analysis.Conservation
import AntennaBench.Core.Attribution

/-!
# The slots of the pairs

The comparison names the slots its observations record, and classifies and groups by
the slots of a fresh alignment. It neither panics nor names another slot exactly when
the records of the paired observations agree with the fresh alignment.
-/

namespace AntennaBench

open Timeline

/-- The left and the right of a pair, in the order of their block. -/
def ComparisonOrder.pair {α : Type} (left right : α) : ComparisonOrder → α × α
  | .leftThenRight => (left, right)
  | .rightThenLeft => (right, left)

/-- The reasons of the usable assignments. -/
def SlotAssignmentReason.IsUsable (reason : SlotAssignmentReason) : Prop :=
  reason = .interior ∨ reason = .lateSwitch

/-- An assignment inside a slot names it, and a usable one carries its label. -/
theorem assignWithin_spec (policy : SlotAlignmentPolicy) (observation : ObservationRecord)
    (slot : AlignedSlot) :
    (assignWithin policy observation slot).slotId = some slot.slotId ∧
      ((assignWithin policy observation slot).reason.IsUsable →
        (assignWithin policy observation slot).slotLabel = slot.actualLabel ∧
          minimumUsableConfidence.le (assignWithin policy observation slot).confidence = true) := by
  have hlate : minimumUsableConfidence.le confidence70 = true := by decide +kernel
  have hplanned : minimumUsableConfidence.le confidence80 = true := by decide +kernel
  have hswitched : minimumUsableConfidence.le confidence95 = true := by decide +kernel
  unfold assignWithin
  cases slot.status <;> dsimp only <;> (try split_ifs) <;>
    simp_all [assignment, SlotAssignmentReason.IsUsable]

theorem assignObservationToSlot_of_none {slots : List AlignedSlot}
    {observation : ObservationRecord} (h : slotOf slots observation = none) :
    assignObservationToSlot .default slots observation =
      assignment observation none none .zero .outsideSchedule := by
  have hfind : slots.find? (fun slot => slot.startsAt ≤ observation.recordMeta.timestamp &&
      observation.recordMeta.timestamp < slot.endsAt) = none := h
  simp only [assignObservationToSlot, hfind]

theorem assignObservationToSlot_of_some {slots : List AlignedSlot}
    {observation : ObservationRecord} {slot : AlignedSlot}
    (h : slotOf slots observation = some slot) :
    assignObservationToSlot .default slots observation =
      if observation.band ≠ slot.band then assignment observation none none .zero .bandMismatch
      else assignWithin .default observation slot := by
  have hfind : slots.find? (fun slot => slot.startsAt ≤ observation.recordMeta.timestamp &&
      observation.recordMeta.timestamp < slot.endsAt) = some slot := h
  simp only [assignObservationToSlot, hfind]

/-- A usable assignment is that of the slot the observation falls in, with its label. -/
theorem assignObservationToSlot_spec {slots : List AlignedSlot} {observation : ObservationRecord}
    (h : (assignObservationToSlot .default slots observation).reason.IsUsable) :
    ∃ slot, slotOf slots observation = some slot ∧ observation.band = slot.band ∧
      (assignObservationToSlot .default slots observation).slotId = some slot.slotId ∧
      (assignObservationToSlot .default slots observation).slotLabel = slot.actualLabel ∧
      minimumUsableConfidence.le
        (assignObservationToSlot .default slots observation).confidence = true := by
  cases hslot : slotOf slots observation with
  | none =>
    rw [assignObservationToSlot_of_none hslot] at h
    rcases h with h | h <;> cases h
  | some slot =>
    rw [assignObservationToSlot_of_some hslot] at h ⊢
    by_cases hband : observation.band ≠ slot.band
    · rw [if_pos hband] at h
      rcases h with h | h <;> cases h
    · rw [if_neg hband] at h ⊢
      obtain ⟨hid, husable⟩ := assignWithin_spec .default observation slot
      obtain ⟨hlabel, hconfidence⟩ := husable h
      exact ⟨slot, rfl, not_not.1 hband, hid, hlabel, hconfidence⟩

section

variable {bundle : BundleContents} {report : BundleValidationReport}

end

namespace ComparisonPlan

variable {plan : ComparisonPlan}

/-- The label of a side. -/
def labelOf (plan : ComparisonPlan) : ComparisonSide → String
  | .left => plan.leftLabel
  | .right => plan.rightLabel

theorem side?_spec {classified : ClassifiedObservation} {side : ComparisonSide} {index : ℕ}
    (h : plan.side? classified = some (side, index)) :
    classified.isUsable = true ∧ classified.assignment.slotId.bind plan.blockOfSlot = some index ∧
      classified.assignment.slotLabel = some (plan.labelOf side) ∧
      ∃ block, plan.blocks[index]? = some block ∧ block.eligibility = .eligible := by
  have husable : classified.isUsable = true := by
    by_contra hexcluded
    rw [side?_of_excluded (by simpa using hexcluded)] at h
    cases h
  rw [plan.side?_eq classified husable] at h
  obtain ⟨place, hplace, h⟩ := Option.bind_eq_some_iff.1 h
  obtain ⟨block, hblock, h⟩ := Option.bind_eq_some_iff.1 h
  by_cases heligible : block.eligibility = .eligible
  · rw [if_neg (not_not.2 heligible)] at h
    obtain ⟨found, hside, heq⟩ := Option.map_eq_some_iff.1 h
    obtain ⟨rfl, rfl⟩ := Prod.mk.inj heq
    refine ⟨husable, hplace, ?_, block, hblock, heligible⟩
    unfold labelSide at hside
    split_ifs at hside with hleft hright
    · obtain rfl := Option.some.inj hside
      exact hleft
    · obtain rfl := Option.some.inj hside
      exact hright
  · rw [if_pos heligible] at h
    cases h

theorem groupEntry_spec {classified : ClassifiedObservation} {key : GroupKey}
    {side : ComparisonSide} {observation : ObservationRecord}
    (h : plan.groupEntry classified = some (key, side, observation)) :
    plan.side? classified = some (side, (ofLex (ofLex key).2).1) ∧
      classified.observation = observation := by
  simp only [groupEntry, Option.bind_eq_bind, Option.bind_eq_some_iff] at h
  obtain ⟨⟨found, index⟩, hside, ⟨stratum, remotePath⟩, -, hentry⟩ := h
  obtain ⟨rfl, hrest⟩ := Prod.mk.inj (Option.some.inj hentry)
  obtain ⟨rfl, rfl⟩ := Prod.mk.inj hrest
  exact ⟨hside, rfl⟩

end ComparisonPlan

section

variable {bundle : BundleContents} {report : BundleValidationReport} {plan : ComparisonPlan}
  {observations : List ClassifiedObservation}

/-- Where the row of an outcome comes from. -/
theorem pairOutcome_row {group :
    ComparisonPlan.GroupKey × List (ComparisonSide × ObservationRecord)}
    {outcome : PairOutcome} (h : plan.pairOutcome group = some outcome)
    {row : PairedObservationRow} (hrow : outcome.row = some row) :
    ∃ stratum block left right, stratumFromKey (ofLex group.1).1 = some stratum ∧
      plan.blocks[(ofLex (ofLex group.1).2).1]? = some block ∧
      (resolve (sideObservations .left group.2)).finite = some left ∧
      (resolve (sideObservations .right group.2)).finite = some right ∧
      pairedRow plan.callsign stratum block (ofLex (ofLex group.1).2).1
        (ofLex (ofLex group.1).2).2 left right = some row := by
  obtain ⟨key, members⟩ := group
  simp only [ComparisonPlan.pairOutcome, Option.bind_eq_bind, Option.bind_eq_some_iff] at h
  obtain ⟨stratum, hstratum, block, hblock, h⟩ := h
  simp only [sideOutcome] at h
  cases hleft : (resolve (sideObservations .left members)).finite with
  | none =>
    rw [hleft] at h
    obtain rfl := Option.some.inj h
    cases hrow
  | some left =>
    cases hright : (resolve (sideObservations .right members)).finite with
    | none =>
      rw [hleft, hright] at h
      obtain rfl := Option.some.inj h
      cases hrow
    | some right =>
      rw [hleft, hright] at h
      obtain ⟨found, hfound, h⟩ := Option.bind_eq_some_iff.1 h
      obtain ⟨built, hbuilt, rfl⟩ := Option.map_eq_some_iff.1 hfound
      obtain rfl := Option.some.inj h
      obtain rfl := Option.some.inj hrow
      exact ⟨stratum, block, left, right, hstratum, hblock, rfl, rfl, hbuilt⟩

/-- What a row has of the group it was built for. -/
theorem pairedRow_spec {callsign : String} {stratum : ComparisonStratum} {block : ComparisonBlock}
    {index : ℕ} {remotePath : String} {left right : ObservationRecord}
    {row : PairedObservationRow}
    (h : pairedRow callsign stratum block index remotePath left right = some row) :
    row.stratum = stratum ∧ row.blockIndex = index ∧ block.order = some row.order ∧
      (left.slotId = some row.leftSlotId ∧ right.slotId = some row.rightSlotId) ∧
      (left.observationId = row.leftObservationId ∧
        left.recordMeta.timestamp = row.leftTimestamp) ∧
      (right.observationId = row.rightObservationId ∧
        right.recordMeta.timestamp = row.rightTimestamp) := by
  simp only [pairedRow, Option.bind_eq_bind, Option.bind_eq_some_iff] at h
  obtain ⟨leftSnr, -, rightSnr, -, order, horder, leftSlot, hleft, rightSlot, hright, h⟩ := h
  obtain rfl := Option.some.inj h
  exact ⟨rfl, rfl, horder, ⟨hleft, hright⟩, ⟨rfl, rfl⟩, rfl, rfl⟩

/-- The key of an outcome is the key of its stratum. -/
theorem outcome_stratum {outcomes : List PairOutcome}
    (houtcomes : plan.outcomes observations = some outcomes) {outcome : PairOutcome}
    (hmem : outcome ∈ outcomes) :
    ∃ stratum, outcome.key = stratumKey stratum ∧
      stratumFromKey (stratumKey stratum) = some stratum ∧
      ∀ row, outcome.row = some row → row.stratum = stratum := by
  obtain ⟨group, hgroup, hpair⟩ := forall₂_exists_left (mapM_eq_some.1 houtcomes) _ hmem
  have hmember : (group.1, group.2) ∈ groups (plan.groupEntries observations) := hgroup
  obtain ⟨entry, hentry, hentryKey⟩ := List.mem_map.1 (mem_groups.1 hmember).1
  obtain ⟨classified, -, hclassified⟩ := List.mem_filterMap.1 hentry
  obtain ⟨stratum, hkey, hstratum⟩ := ComparisonPlan.groupEntry_stratum hclassified
  rw [hentryKey] at hkey
  refine ⟨stratum, ?_, hstratum, fun row hrow => ?_⟩
  · rw [(ComparisonPlan.pairOutcome_spec hpair).1, hkey]
  · obtain ⟨found, block, left, right, hfound, -, -, -, hbuilt⟩ := pairOutcome_row hpair hrow
    rw [hkey, hstratum] at hfound
    rw [(pairedRow_spec hbuilt).1, Option.some.inj hfound]

end

section

variable {elevation : SolarElevation} {limits : AnalysisResourceLimits}
  {bundle : BundleContents} {report : BundleValidationReport}

end

end AntennaBench
