import AntennaBench.Analysis.Exclusion
import AntennaBench.Analysis.PairSlots

/-!
# The slots that are kept

Validation places an observation in the slots of the whole schedule, the analysis in
those the report keeps. Where the first slot around a measured observation is kept,
both name the same slot, and the analysis pairs what it aligned.
-/

namespace AntennaBench

open Timeline

def PlannedSlot.covers (slot : PlannedSlot) (timestamp : DateTime) : Bool :=
  slot.startsAt ≤ timestamp && timestamp < slotEndsAt slot

/-- A measured observation that is kept, and whose first kept slot is of its band. -/
structure FallsInKept (bundle : BundleContents) (report : BundleValidationReport) (index : ℕ)
    (observation : ObservationRecord) : Prop where
  record : bundle.observations[index]? = some observation
  kept : (EligibilityPlan.fromReport report).reason? index = none
  measured : observation.snrDb.isSome = true
  falls : ∃ slot, (analysisBundle bundle report).schedule.slots.find?
    (·.covers observation.recordMeta.timestamp) = some slot ∧ slot.band = observation.band

/-- Kept switches name their antenna, kept slots are told apart by their identities, and
for every observation that falls in a kept slot, which is no third copy, the first slot of
the whole schedule around it is kept. -/
structure RetainsSlots (bundle : BundleContents) (report : BundleValidationReport) : Prop where
  named : 2 ≤ bundle.schedule.schemaVersion →
    ∀ event ∈ (analysisBundle bundle report).events, event.slotId.isSome = true →
      event.eventType = .switched → event.actualAntennaLabel ≠ none
  distinct : ((analysisBundle bundle report).schedule.slots.map (·.slotId)).Nodup
  copies : ∀ index observation, FallsInKept bundle report index observation →
    ¬LateCopy bundle .observation index observation.observationId
  covered : ∀ index observation, FallsInKept bundle report index observation → ∀ first,
    bundle.schedule.slots.findIdx? (·.covers observation.recordMeta.timestamp) = some first →
      first ∉ (EligibilityPlan.fromReport report).excludedSlots

theorem find?_retain {α : Type} {excluded : List ℕ} {items : List α} {p : α → Bool} {first : ℕ}
    (hfirst : items.findIdx? p = some first) (hkept : first ∉ excluded) :
    (retain excluded items).find? p = items.find? p := by
  obtain ⟨hlt, hp, hbefore⟩ := List.findIdx?_eq_some_iff_getElem.1 hfirst
  have hitems : items.find? p = some items[first] :=
    List.find?_eq_some_iff_getElem.2 ⟨hp, first, hlt, rfl, fun j hj => by simpa using hbefore j hj⟩
  rw [hitems, retain, List.find?_map, List.find?_filter, Option.map_eq_some_iff]
  refine ⟨(items[first], first), List.find?_eq_some_iff_getElem.2 ⟨?_, first, ?_, ?_, ?_⟩, rfl⟩
  · simp [hkept, hp]
  · simpa using hlt
  · simp
  · intro j hj
    have hpj := hbefore j hj
    simp only [List.getElem_zipIdx, Function.comp_apply]
    simp [hpj]

theorem assignWithin_unusable {observation : ObservationRecord} {slot : AlignedSlot}
    (h : slot.status.isUncredited = true) :
    ¬(assignWithin .default observation slot).reason.IsUsable := by
  unfold assignWithin SlotAssignmentReason.IsUsable
  cases hstatus : slot.status <;> simp_all [AlignedSlotStatus.isUncredited, assignment]

/-- A slot without a label is in a state that credits nothing, or was switched to nothing. -/
theorem alignSlot_unlabelled {slot : PlannedSlot} {events : List OperatorEvent} {schemaV2 : Bool}
    (h : (alignSlot slot events schemaV2).actualLabel = none) :
    (alignSlot slot events schemaV2).status.isUncredited = true ∨
      schemaV2 = true ∧ ∃ event ∈ events, event.slotId.isSome = true ∧
        event.eventType = .switched ∧ event.actualAntennaLabel = none := by
  unfold alignSlot at h ⊢
  dsimp only at h ⊢
  split_ifs at h ⊢ with hconflict hbad hmissed hschema
  · exact .inl rfl
  · exact .inl rfl
  · exact .inl rfl
  · split at h
    · next event hevent =>
      obtain ⟨hslot, hswitch⟩ := List.mem_filter.1 (List.argmin_mem hevent)
      obtain ⟨hmem, hid⟩ := List.mem_filter.1 hslot
      refine .inr ⟨hschema, event, hmem, ?_, by simpa using hswitch, ?_⟩
      · rw [beq_iff_eq.1 hid]
        rfl
      · simpa [PlannedSlot.unswitched] using h
    · exact .inl rfl
  · split at h
    · simp [PlannedSlot.unswitched] at h
    · simp [PlannedSlot.unswitched] at h

section

variable {F : TextFormat} {bundle : BundleContents} {report : BundleValidationReport}
  {plan : ComparisonPlan} {observations : List ClassifiedObservation}

/-- Kept switches that name their antenna leave no usable slot without a label. -/
theorem RetainsSlots.labelled (h : RetainsSlots bundle report) {observation : ObservationRecord}
    (husable : (assignObservationToSlot .default (analysisAlignment bundle report).slots
      observation).reason.IsUsable) :
    (assignObservationToSlot .default (analysisAlignment bundle report).slots
      observation).slotLabel ≠ none := by
  obtain ⟨slot, hslot, hband, -, hlabel, -⟩ := assignObservationToSlot_spec husable
  rw [hlabel]
  intro hnone
  obtain ⟨planned, -, rfl⟩ := List.mem_map.1 (List.mem_of_find?_eq_some hslot)
  rcases alignSlot_unlabelled hnone with huncredited | 
      ⟨hschema, event, hevent, hslotId, hswitch, hunnamed⟩
  · rw [assignObservationToSlot_of_some hslot, if_neg (not_not.2 hband)] at husable
    exact assignWithin_unusable huncredited husable
  · exact h.named (of_decide_eq_true hschema) event hevent hslotId hswitch hunnamed

theorem mem_keptSlots {slot : PlannedSlot}
    (h : slot ∈ (analysisBundle bundle report).schedule.slots) : slot ∈ bundle.schedule.slots := by
  obtain ⟨index, hplace, -⟩ := mem_retain.1 h
  exact List.mem_of_getElem? hplace

/-- Around a covered observation, the first slot of the whole schedule is the first kept one. -/
theorem RetainsSlots.find? (h : RetainsSlots bundle report) {index : ℕ}
    {record : ObservationRecord} (hfalls : FallsInKept bundle report index record) :
    (analysisBundle bundle report).schedule.slots.find?
        (·.covers record.recordMeta.timestamp) =
      bundle.schedule.slots.find? (·.covers record.recordMeta.timestamp) := by
  obtain ⟨slot, hslot, -⟩ := hfalls.falls
  have hcovered : (bundle.schedule.slots.findIdx?
      (·.covers record.recordMeta.timestamp)).isSome = true := by
    have hcovers := List.find?_some hslot
    rw [List.findIdx?_isSome, List.any_eq_true]
    exact ⟨slot, mem_keptSlots (List.mem_of_find?_eq_some hslot), hcovers⟩
  obtain ⟨first, hfirst⟩ := Option.isSome_iff_exists.1 hcovered
  exact find?_retain hfirst (h.covered index record hfalls first hfirst)

end

namespace Scenario

end Scenario

end AntennaBench
