import AntennaBench.Core.Attribution
import AntennaBench.Core.Normalization
import AntennaBench.Core.Validation

/-!
# Normal form

A normalized bundle carries the assignments of its own alignment, which depend on no
annotation. Normalizing it again changes nothing, and its validation finds what validation
found before but for the issues about annotations.
-/

namespace AntennaBench

def normalizeBundle (bundle : BundleContents) : BundleContents :=
  annotateBundleObservations bundle

/-- `BundleValidationError`. -/
structure BundleValidationError where
  issues : List BundleValidationIssue
  report : BundleValidationReport

def validateBundle (F : TextFormat) (bundle : BundleContents) :
    Except BundleValidationError Unit :=
  let report := validateBundleReport F bundle
  if report.isEmpty then .ok () else .error ⟨validateBundleIssues F bundle, report⟩

/-- The issues about the annotations that normalization rewrites. -/
def BundleValidationIssue.annotates : BundleValidationIssue → Bool
  | unknownObservationSlot .. | invalidSlotConfidence .. | alignmentAnnotationMismatch .. => true
  | _ => false

section

variable (policy : SlotAlignmentPolicy) (slots : List AlignedSlot)

/-- The assignment of an observation, put on it. -/
def normalized (observation : ObservationRecord) : ObservationRecord :=
  observation.annotate (assignObservationToSlot policy slots observation)

theorem find?_of_nodup {observations : List ObservationRecord} {observation : ObservationRecord}
    (hnodup : (observations.map (·.observationId)).Nodup) (hmem : observation ∈ observations) :
    observations.find? (·.observationId == observation.observationId) = some observation := by
  induction observations with
  | nil => simp at hmem
  | cons first rest ih =>
    rw [List.map_cons, List.nodup_cons] at hnodup
    rcases List.mem_cons.1 hmem with rfl | hrest
    · simp
    · have hne : first.observationId ≠ observation.observationId := fun heq =>
        hnodup.1 (heq ▸ List.mem_map_of_mem hrest)
      rw [List.find?_cons_of_neg (by simpa using hne)]
      exact ih hnodup.2 hrest

/-- With identities of their own, the observations are annotated one by one. -/
theorem applySlotAssignments_eq {observations : List ObservationRecord}
    (hnodup : (observations.map (·.observationId)).Nodup) :
    applySlotAssignments observations
      (observations.map (assignObservationToSlot policy slots)) =
        observations.map (normalized policy slots) := by
  unfold applySlotAssignments
  apply List.map_congr_left
  intro observation hmem
  have hfind : (observations.map (assignObservationToSlot policy slots)).find?
      (·.observationId == observation.observationId) =
        some (assignObservationToSlot policy slots observation) := by
    rw [List.find?_map, Option.map_eq_some_iff]
    refine ⟨observation, ?_, rfl⟩
    simp only [Function.comp_def, assignObservationToSlot_observationId]
    exact find?_of_nodup hnodup hmem
  simp only [hfind]
  rfl

/-- The confidences an assignment can have. -/
def assignedConfidences : List IeeeFloat :=
  [.zero, confidence10, .finite (1 / 4), confidence60, confidence70, confidence80, confidence95]

theorem assignObservationToSlot_confidence (observation : ObservationRecord) :
    (assignObservationToSlot policy slots observation).confidence ∈ assignedConfidences := by
  unfold assignObservationToSlot
  dsimp only
  split
  · exact List.mem_cons_self
  · split_ifs
    · exact List.mem_cons_self
    · unfold assignWithin
      dsimp only
      split
      any_goals exact List.mem_cons_self
      split_ifs
      any_goals simp [assignedConfidences, assignment]
      split <;> simp

theorem slotConfidenceMatches_assigned : ∀ confidence ∈ assignedConfidences,
    slotConfidenceMatches (some confidence) (some confidence) = true := by
  decide +kernel

theorem assignedConfidence_range : ∀ confidence ∈ assignedConfidences,
    confidence.isFinite = true ∧ IeeeFloat.zero.le confidence = true ∧
      confidence.le (.finite 1) = true := by
  decide +kernel

theorem assignObservationToSlot_slotId {schedule : Schedule} {events : List OperatorEvent}
    {schemaV2 : Bool} {observation : ObservationRecord} {slotId : String}
    (h : (assignObservationToSlot policy (schedule.slots.map (alignSlot · events schemaV2))
      observation).slotId = some slotId) : slotId ∈ schedule.slots.map (·.slotId) := by
  unfold assignObservationToSlot at h
  dsimp only at h
  split at h
  · cases h
  · next aligned haligned =>
    obtain ⟨slot, hslot, rfl⟩ := List.mem_map.1 (List.mem_of_find?_eq_some haligned)
    split_ifs at h
    · cases h
    · rw [assignWithin_slotId, (alignSlot_frame slot events schemaV2).1] at h
      rw [← Option.some.inj h]
      exact List.mem_map_of_mem hslot

end

section

variable {F : TextFormat} {bundle : BundleContents}

/-- The slots of a bundle as its validation aligns them. -/
def BundleContents.alignedSlots (bundle : BundleContents) : List AlignedSlot :=
  bundle.schedule.slots.map (alignSlot · bundle.events (2 ≤ bundle.schedule.schemaVersion))

theorem normalizeBundle_eq (hnodup : (bundle.ids .observation).Nodup) :
    normalizeBundle bundle = { bundle with
      observations := bundle.observations.map (normalized .default bundle.alignedSlots) } := by
  unfold normalizeBundle annotateBundleObservations
  dsimp only
  rw [show (alignScheduleSlots bundle.schedule bundle.events bundle.observations
    .default).observationAssignments =
      bundle.observations.map (assignObservationToSlot .default bundle.alignedSlots) from rfl,
    applySlotAssignments_eq .default bundle.alignedSlots hnodup]

theorem normalizeBundle_ids (hnodup : (bundle.ids .observation).Nodup) :
    (normalizeBundle bundle).ids = bundle.ids := by
  rw [normalizeBundle_eq hnodup]
  funext kind
  cases kind with
  | observation => simp [BundleContents.ids, normalized]
  | _ => rfl

theorem normalizeBundle_idempotent (hnodup : (bundle.ids .observation).Nodup) :
    normalizeBundle (normalizeBundle bundle) = normalizeBundle bundle := by
  have hagain : ((normalizeBundle bundle).ids .observation).Nodup := by
    rwa [normalizeBundle_ids hnodup]
  rw [normalizeBundle_eq hagain, normalizeBundle_eq hnodup]
  simp only [List.map_map]
  congr 1

/-- The issues that no annotation has a part in. -/
def plainIssues (bundle : BundleContents) : List BundleValidationIssue :=
  let schemaVersion := bundle.manifest.schemaVersion
  (if schemaVersion = 1 ∨ schemaVersion = 2 then []
    else [.unexpectedSchemaVersion .manifest none latestSchemaVersion schemaVersion]) ++
  validateRoots bundle ++
  bundle.recordStreams.flatMap (validateRecordMeta bundle) ++
  [BundleIdKind.slot, .operatorEvent, .observation, .wsjtXRecord, .rigRecord,
    .propagationRecord].flatMap (validateDuplicates bundle) ++
  validateScheduleReferencesAndWindows bundle ++
  bundle.events.flatMap fun event => event.slotId.toList.flatMap fun slotId =>
    if (bundle.ids .slot).contains slotId then [] else [.unknownEventSlot event.eventId slotId]

/-- The references of the observations to slots that are not scheduled. -/
def unknownSlotIssues (bundle : BundleContents) : List BundleValidationIssue :=
  bundle.observations.flatMap fun observation => observation.slotId.toList.flatMap fun slotId =>
    if (bundle.ids .slot).contains slotId then []
    else [.unknownObservationSlot observation.observationId slotId]

theorem validateBundleIssues_eq (bundle : BundleContents) : validateBundleIssues F bundle =
    plainIssues bundle ++ (unknownSlotIssues bundle ++ validateSlotConfidenceRanges bundle ++
      validateAlignmentAnnotations F bundle) := by
  simp only [validateBundleIssues, plainIssues, unknownSlotIssues,
    validateEventAndObservationReferences, BundleContents.ids, List.append_assoc]
  rfl

theorem validateSchemaAndSession_plain {file : BundleFileRole} {recordId : Option String}
    {actualVersion expectedVersion : ℕ} {actualId expectedId : String}
    {issue : BundleValidationIssue}
    (h : issue ∈ validateSchemaAndSession file recordId actualVersion expectedVersion actualId
      expectedId) : issue.annotates = false := by
  unfold validateSchemaAndSession at h
  rcases List.mem_append.1 h with h | h <;> split_ifs at h <;>
    simp only [List.mem_singleton, List.not_mem_nil] at h <;> rw [h] <;> rfl

theorem plainIssues_plain {issue : BundleValidationIssue} (h : issue ∈ plainIssues bundle) :
    issue.annotates = false := by
  simp only [plainIssues, List.mem_append] at h
  rcases h with ((((h | h) | h) | h) | h) | h
  · split_ifs at h
    · simp at h
    · rw [List.mem_singleton.1 h]
      rfl
  · obtain ⟨root, -, h⟩ := List.mem_flatMap.1 h
    exact validateSchemaAndSession_plain h
  · obtain ⟨stream, -, h⟩ := List.mem_flatMap.1 h
    obtain ⟨record, -, h⟩ := List.mem_flatMap.1 h
    exact validateSchemaAndSession_plain h
  · obtain ⟨kind, -, h⟩ := List.mem_flatMap.1 h
    obtain ⟨id, -, rfl⟩ := List.mem_map.1 h
    rfl
  · obtain ⟨⟨slot, index⟩, -, h⟩ := List.mem_flatMap.1 h
    rcases List.mem_append.1 h with h | h
    · split_ifs at h
      · simp at h
      · rw [List.mem_singleton.1 h]
        rfl
    · obtain ⟨previous, -, h⟩ := List.mem_flatMap.1 h
      unfold slotWindowIssues at h
      rcases List.mem_append.1 h with h | h <;> split_ifs at h <;>
        simp only [List.mem_singleton, List.not_mem_nil] at h <;> rw [h] <;> rfl
  · obtain ⟨event, -, h⟩ := List.mem_flatMap.1 h
    obtain ⟨slotId, -, h⟩ := List.mem_flatMap.1 h
    split_ifs at h
    · simp at h
    · rw [List.mem_singleton.1 h]
      rfl

theorem unknownSlotIssues_annotation {issue : BundleValidationIssue}
    (h : issue ∈ unknownSlotIssues bundle) : issue.annotates = true := by
  obtain ⟨observation, -, h⟩ := List.mem_flatMap.1 h
  obtain ⟨slotId, -, h⟩ := List.mem_flatMap.1 h
  split_ifs at h
  · simp at h
  · rw [List.mem_singleton.1 h]
    rfl

theorem validateSlotConfidenceRanges_annotation {issue : BundleValidationIssue}
    (h : issue ∈ validateSlotConfidenceRanges bundle) : issue.annotates = true := by
  obtain ⟨observation, -, h⟩ := List.mem_flatMap.1 h
  obtain ⟨confidence, -, h⟩ := List.mem_flatMap.1 h
  split_ifs at h
  · simp at h
  · rw [List.mem_singleton.1 h]
    rfl

theorem validateAlignmentAnnotations_annotation {issue : BundleValidationIssue}
    (h : issue ∈ validateAlignmentAnnotations F bundle) : issue.annotates = true := by
  obtain ⟨⟨observation, given⟩, -, h⟩ := List.mem_flatMap.1 h
  simp only [annotationIssues, List.mem_append] at h
  rcases h with (h | h) | h <;> split_ifs at h <;>
    simp only [List.mem_singleton, List.not_mem_nil] at h <;> rw [h] <;> rfl

theorem normalizeBundle_recordStreams (hnodup : (bundle.ids .observation).Nodup) :
    (normalizeBundle bundle).recordStreams = bundle.recordStreams := by
  rw [normalizeBundle_eq hnodup]
  simp [BundleContents.recordStreams, BundleContents.observationStream,
    BundleContents.eventStream, BundleContents.wsjtxStream, BundleContents.rigStream,
    BundleContents.propagationStream, normalized, ObservationRecord.annotate]

theorem plainIssues_normalizeBundle (hnodup : (bundle.ids .observation).Nodup) :
    plainIssues (normalizeBundle bundle) = plainIssues bundle := by
  have hids := normalizeBundle_ids hnodup
  have hstreams := normalizeBundle_recordStreams hnodup
  unfold plainIssues validateDuplicates validateScheduleReferencesAndWindows validateRoots
    validateRecordMeta
  rw [hids, hstreams]
  rfl

theorem unknownSlotIssues_normalizeBundle (hnodup : (bundle.ids .observation).Nodup) :
    unknownSlotIssues (normalizeBundle bundle) = [] := by
  unfold unknownSlotIssues
  rw [normalizeBundle_ids hnodup, normalizeBundle_eq hnodup]
  simp only [List.flatMap_eq_nil_iff, List.mem_map, forall_exists_index, and_imp,
    forall_apply_eq_imp_iff₂]
  intro observation _ slotId hslotId
  have hmem := assignObservationToSlot_slotId .default (Option.mem_toList.1 hslotId)
  simp [BundleContents.ids, hmem]

theorem validateSlotConfidenceRanges_normalizeBundle
    (hnodup : (bundle.ids .observation).Nodup) :
    validateSlotConfidenceRanges (normalizeBundle bundle) = [] := by
  rw [normalizeBundle_eq hnodup, validateSlotConfidenceRanges, List.flatMap_eq_nil_iff]
  intro annotated hannotated
  obtain ⟨observation, -, rfl⟩ := List.mem_map.1 hannotated
  have hrange := assignedConfidence_range _
    (assignObservationToSlot_confidence .default bundle.alignedSlots observation)
  simp [normalized, ObservationRecord.annotate, hrange]

theorem validateAlignmentAnnotations_normalizeBundle
    (hnodup : (bundle.ids .observation).Nodup) :
    validateAlignmentAnnotations F (normalizeBundle bundle) = [] := by
  rw [normalizeBundle_eq hnodup]
  unfold validateAlignmentAnnotations alignScheduleSlots
  dsimp only
  rw [zip_map_flatMap, List.flatMap_eq_nil_iff]
  intro annotated hannotated
  obtain ⟨observation, -, rfl⟩ := List.mem_map.1 hannotated
  have hmatches := slotConfidenceMatches_assigned _
    (assignObservationToSlot_confidence .default bundle.alignedSlots observation)
  have hassigned : assignObservationToSlot .default
      (bundle.schedule.slots.map (alignSlot · bundle.events (2 ≤ bundle.schedule.schemaVersion)))
      (normalized .default bundle.alignedSlots observation) =
        assignObservationToSlot .default bundle.alignedSlots observation := rfl
  rw [hassigned]
  simp [annotationIssues, normalized, ObservationRecord.annotate, hmatches]

/-- The issues of the result are those of the bundle that are not about annotations. -/
theorem validateBundleIssues_normalizeBundle (hnodup : (bundle.ids .observation).Nodup) :
    validateBundleIssues F (normalizeBundle bundle) =
      (validateBundleIssues F bundle).filter (!·.annotates) := by
  have hplain : (plainIssues bundle).filter (!·.annotates) = plainIssues bundle :=
    List.filter_eq_self.2 fun issue h => by rw [plainIssues_plain h]; rfl
  have hannotations : (unknownSlotIssues bundle ++ validateSlotConfidenceRanges bundle ++
      validateAlignmentAnnotations F bundle).filter (!·.annotates) = [] := by
    rw [List.filter_eq_nil_iff]
    intro issue h
    simp only [List.mem_append] at h
    have hannotates : issue.annotates = true := by
      rcases h with (h | h) | h
      · exact unknownSlotIssues_annotation h
      · exact validateSlotConfidenceRanges_annotation h
      · exact validateAlignmentAnnotations_annotation h
    simp [hannotates]
  rw [validateBundleIssues_eq, validateBundleIssues_eq, List.filter_append, hplain, hannotations,
    plainIssues_normalizeBundle hnodup, unknownSlotIssues_normalizeBundle hnodup,
    validateSlotConfidenceRanges_normalizeBundle hnodup,
    validateAlignmentAnnotations_normalizeBundle hnodup]
  rfl

theorem diagnosticFromIssue_normalizeBundle (hnodup : (bundle.ids .observation).Nodup)
    (issue : BundleValidationIssue) :
    diagnosticFromIssue F (normalizeBundle bundle) issue = diagnosticFromIssue F bundle issue := by
  have hids := normalizeBundle_ids hnodup
  cases issue <;>
    simp only [diagnosticFromIssue, firstRecordLocation, slotLocation, duplicateIdLocations, hids]

theorem observationDiagnostics_normalized (observation : ObservationRecord) (index : ℕ)
    {diagnostic : BundleDiagnostic}
    (h : diagnostic ∈ Semantics.observationDiagnostics F
      (normalized .default bundle.alignedSlots observation) index) :
    diagnostic ∈ Semantics.observationDiagnostics F observation index := by
  have hrange := assignedConfidence_range _
    (assignObservationToSlot_confidence .default bundle.alignedSlots observation)
  have hfinite : (normalized .default bundle.alignedSlots observation).slotConfidence.any
      (!·.isFinite) = false := by
    simp [normalized, ObservationRecord.annotate, hrange.1]
  simp only [Semantics.observationDiagnostics, hfinite, Bool.false_eq_true, if_false,
    List.append_nil] at h
  exact List.mem_append_left _ h

theorem semanticDiagnostics_normalizeBundle (hnodup : (bundle.ids .observation).Nodup)
    {diagnostic : BundleDiagnostic}
    (h : diagnostic ∈ semanticDiagnostics F (normalizeBundle bundle)) :
    diagnostic ∈ semanticDiagnostics F bundle := by
  have hstreams := normalizeBundle_recordStreams hnodup
  simp only [semanticDiagnostics, List.mem_append] at h ⊢
  have hobservations : diagnostic ∈ Semantics.validateObservations F (normalizeBundle bundle) →
      diagnostic ∈ Semantics.validateObservations F bundle := by
    intro h
    rw [normalizeBundle_eq hnodup] at h
    obtain ⟨⟨annotated, index⟩, hmem, h⟩ := List.mem_flatMap.1 h
    rw [List.zipIdx_map, List.mem_map] at hmem
    obtain ⟨⟨observation, place⟩, hplace, heq⟩ := hmem
    cases heq
    exact List.mem_flatMap.2 ⟨_, hplace, observationDiagnostics_normalized observation place h⟩
  have hidentities : Semantics.validateIdentities F (normalizeBundle bundle) =
      Semantics.validateIdentities F bundle := by
    unfold Semantics.validateIdentities
    rw [hstreams]
    rfl
  rw [hidentities] at h
  rcases h with ((((((h | h) | h) | h) | h) | h) | h) | h
  · simp [h]
  · exact .inl (.inl (.inl (.inl (.inl (.inl (.inr h))))))
  · exact .inl (.inl (.inl (.inl (.inl (.inr h)))))
  · exact .inl (.inl (.inl (.inl (.inr h))))
  · exact .inl (.inl (.inl (.inr (hobservations h))))
  · exact .inl (.inl (.inr h))
  · exact .inl (.inr h)
  · exact .inr h

theorem validateBundleReport_normalizeBundle (hnodup : (bundle.ids .observation).Nodup)
    {diagnostic : BundleDiagnostic}
    (h : diagnostic ∈ validateBundleReport F (normalizeBundle bundle)) :
    diagnostic ∈ validateBundleReport F bundle := by
  simp only [validateBundleReport, BundleValidationReport.extend,
    BundleValidationReport.mem_sorted, List.mem_append] at h ⊢
  obtain ⟨raw, ⟨issue, hissue, rfl⟩ | hsemantic, rfl⟩ := h
  · obtain ⟨raised, hraised, rfl⟩ := List.mem_map.1 hissue
    rw [validateBundleIssues_normalizeBundle hnodup] at hraised
    refine ⟨_, .inl ⟨_, ?_, rfl⟩, rfl⟩
    rw [diagnosticFromIssue_normalizeBundle hnodup]
    exact List.mem_map_of_mem (List.mem_filter.1 hraised).1
  · exact ⟨raw, .inr (semanticDiagnostics_normalizeBundle hnodup hsemantic), rfl⟩

theorem validateBundle_eq_error {error : BundleValidationError} :
    validateBundle F bundle = .error error ↔ validateBundleReport F bundle ≠ [] ∧
      error = ⟨validateBundleIssues F bundle, validateBundleReport F bundle⟩ := by
  unfold validateBundle
  dsimp only
  split_ifs with h
  · simp [List.isEmpty_iff.1 h]
  · simp [List.isEmpty_iff] at h
    simp [h, eq_comm]

/-- What normalization keeps and what validation says of its result. -/
structure NormalForm (F : TextFormat) (bundle : BundleContents) : Prop where
  idempotent : normalizeBundle (normalizeBundle bundle) = normalizeBundle bundle
  rest : normalizeBundle bundle =
    { bundle with observations := (normalizeBundle bundle).observations }
  annotations : List.Forall₂ (fun before after => after = { before with
      slotId := after.slotId
      slotLabel := after.slotLabel
      slotConfidence := after.slotConfidence })
    bundle.observations (normalizeBundle bundle).observations
  recognised : ∀ error, validateBundle F (normalizeBundle bundle) = .error error →
    ∃ earlier, validateBundle F bundle = .error earlier ∧
      (∀ issue ∈ error.issues, issue.annotates = false ∧ issue ∈ earlier.issues) ∧
      ∀ diagnostic ∈ error.report, diagnostic ∈ earlier.report

/-- A bundle whose observations have identities of their own is in normal form after one
normalization. -/
theorem normalizeBundle_normalForm (F : TextFormat) (bundle : BundleContents)
    (hnodup : (bundle.ids .observation).Nodup) : NormalForm F bundle where
  idempotent := normalizeBundle_idempotent hnodup
  rest := by rw [normalizeBundle_eq hnodup]
  annotations := by
    rw [normalizeBundle_eq hnodup, List.forall₂_map_right_iff, List.forall₂_same]
    exact fun observation _ => rfl
  recognised := by
    intro error herror
    obtain ⟨hreport, rfl⟩ := validateBundle_eq_error.1 herror
    obtain ⟨first, hfirst⟩ := List.exists_mem_of_ne_nil _ hreport
    have hearlier : validateBundleReport F bundle ≠ [] :=
      List.ne_nil_of_mem (validateBundleReport_normalizeBundle hnodup hfirst)
    refine ⟨_, validateBundle_eq_error.2 ⟨hearlier, rfl⟩, ?_, ?_⟩
    · intro issue hissue
      rw [validateBundleIssues_normalizeBundle hnodup, List.mem_filter] at hissue
      exact ⟨by simpa using hissue.2, hissue.1⟩
    · exact fun diagnostic => validateBundleReport_normalizeBundle hnodup

end

namespace Scenario

/-- A session with one slot whose reports carry no annotation yet. -/
def switchedBundle : BundleContents where
  manifest := ⟨2, "s1", seconds 0, "0.1.0", {}⟩
  station := ⟨2, "s1", "N0XYZ", "FN31", none, none⟩
  antennas := ⟨2, "s1", []⟩
  schedule := switchedSchedule
  events := [switchedToB]
  observations := [heardIn 60]
  wsjtx := []
  rig := []
  propagation := []
  analysis := ⟨2, "s1", none, .notRun, []⟩

/-- The report is given the antenna that was switched to. -/
theorem switchedBundle_normalForm :
    (normalizeBundle switchedBundle).observations.map (·.slotLabel) = [some "B"] ∧
      NormalForm ⟨id, fun _ => "", fun _ => "", fun _ => "", fun _ => ""⟩ switchedBundle :=
  ⟨by decide, normalizeBundle_normalForm _ switchedBundle (by decide)⟩

end Scenario

end AntennaBench
