import AntennaBench.Core.Alignment

/-!
# Annotated observations

Each observation of a bundle is given the slot that the alignment of the schedule assigns
to its identity, whichever slot it had before.
-/

namespace AntennaBench

def ObservationRecord.annotate (observation : ObservationRecord)
    (assignment : ObservationSlotAssignment) : ObservationRecord :=
  { observation with
    slotId := assignment.slotId
    slotLabel := assignment.slotLabel
    slotConfidence := some assignment.confidence }

def applySlotAssignments (observations : List ObservationRecord)
    (assignments : List ObservationSlotAssignment) : List ObservationRecord :=
  observations.map fun observation =>
    match assignments.find? (·.observationId == observation.observationId) with
    | some assignment => observation.annotate assignment
    | none => observation

/-- `annotate_bundle_observations`, by the observations it leaves. -/
def annotateBundleObservations (bundle : BundleContents) : BundleContents :=
  let alignment := alignScheduleSlots bundle.schedule bundle.events bundle.observations .default
  { bundle with
    observations := applySlotAssignments bundle.observations alignment.observationAssignments }

theorem zip_map_flatMap {α β γ : Type} (f : α → β) (g : α × β → List γ) (items : List α) :
    (items.zip (items.map f)).flatMap g = items.flatMap fun a => g (a, f a) := by
  induction items with
  | nil => rfl
  | cons a items ih => simp [ih]

@[simp] theorem ObservationRecord.annotate_observationId (observation : ObservationRecord)
    (assignment : ObservationSlotAssignment) :
    (observation.annotate assignment).observationId = observation.observationId := rfl

theorem assignment_observationId (observation : ObservationRecord) (slot : Option AlignedSlot)
    (slotLabel : Option String) (confidence : IeeeFloat) (reason : SlotAssignmentReason) :
    (assignment observation slot slotLabel confidence reason).observationId =
      observation.observationId := rfl

theorem assignWithin_observationId (policy : SlotAlignmentPolicy)
    (observation : ObservationRecord) (slot : AlignedSlot) :
    (assignWithin policy observation slot).observationId = observation.observationId := by
  unfold assignWithin
  dsimp only
  split
  any_goals exact assignment_observationId ..
  split_ifs
  any_goals exact assignment_observationId ..
  split <;> exact assignment_observationId ..

theorem assignObservationToSlot_observationId (policy : SlotAlignmentPolicy)
    (slots : List AlignedSlot) (observation : ObservationRecord) :
    (assignObservationToSlot policy slots observation).observationId =
      observation.observationId := by
  unfold assignObservationToSlot
  dsimp only
  split
  · exact assignment_observationId ..
  · split_ifs
    · exact assignment_observationId ..
    · exact assignWithin_observationId ..

end AntennaBench
