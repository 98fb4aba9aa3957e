import AntennaBench.Analysis.Eligibility
import AntennaBench.Storage.Inspection

/-!
# Where diagnostics are placed

An issue knows its record by identity, so its diagnostic stands at one of the first
two copies of that identity. A semantic diagnostic stands at the record it was raised
on. A late copy is reached by the semantic diagnostics only.
-/

namespace AntennaBench

open Timeline

variable {F : TextFormat} {bundle : BundleContents}

/-- The location tells the place and the identity of a record of this kind. -/
structure Places (bundle : BundleContents) (kind : BundleIdKind)
    (location : BundleDiagnosticLocation) (index : ℕ) (value : String) : Prop where
  recordIndex : location.recordIndex = some index
  record : (bundle.ids kind)[index]? = some value
  recordId : location.recordId = some value

/-- The place has two earlier copies of its identity. -/
def LateCopy (bundle : BundleContents) (kind : BundleIdKind) (index : ℕ) (value : String) :
    Prop :=
  Late (fun other => other) (bundle.ids kind) index value

theorem BundleIdKind.recordKind_injective : Function.Injective BundleIdKind.recordKind := by
  intro a b h
  cases a <;> cases b <;> first | rfl | cases h

/-- The records an issue knows by identity. -/
def BundleValidationIssue.records : BundleValidationIssue → List (BundleIdKind × String)
  | .unexpectedSchemaVersion file recordId _ _ | .sessionIdMismatch file recordId _ _ =>
    recordId.toList.flatMap fun value => (BundleIdKind.ofFile file).toList.map (·, value)
  | .duplicateId kind value => [(kind, value)]
  | .unknownAntennaLabel slotId _ => [(.slot, slotId)]
  | .slotWindowOutOfOrder previousSlotId slotId => [(.slot, slotId), (.slot, previousSlotId)]
  | .slotWindowOverlap previousSlotId _ slotId _ => [(.slot, slotId), (.slot, previousSlotId)]
  | .unknownEventSlot eventId _ => [(.operatorEvent, eventId)]
  | .unknownObservationSlot observationId _ | .invalidSlotConfidence observationId _
  | .alignmentAnnotationMismatch observationId _ _ _ => [(.observation, observationId)]

/-- Every record an issue knows is in the bundle. -/
def KnowsRecords (bundle : BundleContents) (issue : BundleValidationIssue) : Prop :=
  ∀ kind value, (kind, value) ∈ issue.records → value ∈ bundle.ids kind

theorem validateSchemaAndSession_knows {file : BundleFileRole} {recordId : Option String}
    {version expectedVersion : ℕ} {session expectedSession : String}
    {issue : BundleValidationIssue}
    (h : issue ∈ validateSchemaAndSession file recordId version expectedVersion session
      expectedSession)
    (hknown : ∀ value kind, recordId = some value → BundleIdKind.ofFile file = some kind →
      value ∈ bundle.ids kind) : KnowsRecords bundle issue := by
  have hrecords : issue.records =
      recordId.toList.flatMap fun value => (BundleIdKind.ofFile file).toList.map (·, value) := by
    unfold validateSchemaAndSession at h
    rcases List.mem_append.1 h with h | h <;> split_ifs at h <;>
      simp only [List.mem_singleton, List.not_mem_nil] at h <;> subst h <;> rfl
  intro kind value hmem
  rw [hrecords] at hmem
  simp only [List.mem_flatMap, Option.mem_toList, List.mem_map, Prod.mk.injEq] at hmem
  obtain ⟨value', hvalue, kind', hkind, rfl, rfl⟩ := hmem
  exact hknown _ _ hvalue hkind

theorem recordStreams_ids {stream : RecordStream} (h : stream ∈ bundle.recordStreams) :
    ∃ kind, BundleIdKind.ofFile stream.file = some kind ∧ stream.kind = kind.recordKind ∧
      stream.records.map (·.1) = bundle.ids kind := by
  have hmap {α : Type} (f : α → String) (g : α → RecordMeta) (l : List α) :
      (l.map fun a => (f a, g a)).map (·.1) = l.map f := by
    rw [List.map_map]
    rfl
  simp only [BundleContents.recordStreams, List.mem_cons, List.not_mem_nil, or_false] at h
  rcases h with rfl | rfl | rfl | rfl | rfl
  · exact ⟨.operatorEvent, rfl, rfl, hmap _ _ _⟩
  · exact ⟨.observation, rfl, rfl, hmap _ _ _⟩
  · exact ⟨.wsjtXRecord, rfl, rfl, hmap _ _ _⟩
  · exact ⟨.rigRecord, rfl, rfl, hmap _ _ _⟩
  · exact ⟨.propagationRecord, rfl, rfl, hmap _ _ _⟩

theorem validateRecordMeta_knows {stream : RecordStream} {issue : BundleValidationIssue}
    (hstream : stream ∈ bundle.recordStreams) (h : issue ∈ validateRecordMeta bundle stream) :
    KnowsRecords bundle issue := by
  obtain ⟨kind, hfile, -, hids⟩ := recordStreams_ids hstream
  obtain ⟨⟨value, recordMeta⟩, hrecord, hissue⟩ := List.mem_flatMap.1 h
  apply validateSchemaAndSession_knows hissue
  intro value' kind' hvalue hkind
  obtain rfl := Option.some.inj hvalue
  obtain rfl := Option.some.inj (hfile.symm.trans hkind)
  rw [← hids]
  exact List.mem_map_of_mem (f := (·.1)) hrecord

theorem previousSlot_mem {slots : List PlannedSlot} {index : ℕ} {slot : PlannedSlot}
    (h : previousSlot slots index = some slot) : slot ∈ slots := by
  unfold previousSlot at h
  split_ifs at h
  exact List.mem_of_getElem? h

theorem slotWindowIssues_records {previous slot : PlannedSlot} {issue : BundleValidationIssue}
    (h : issue ∈ slotWindowIssues previous slot) :
    issue.records = [(.slot, slot.slotId), (.slot, previous.slotId)] := by
  unfold slotWindowIssues at h
  rcases List.mem_append.1 h with h | h <;> split_ifs at h <;>
    simp only [List.mem_singleton, List.not_mem_nil] at h <;> subst h <;> rfl

theorem mem_ids_slot {slot : PlannedSlot} (h : slot ∈ bundle.schedule.slots) :
    slot.slotId ∈ bundle.ids .slot :=
  List.mem_map_of_mem h

theorem validateScheduleReferencesAndWindows_knows {issue : BundleValidationIssue}
    (h : issue ∈ validateScheduleReferencesAndWindows bundle) : KnowsRecords bundle issue := by
  obtain ⟨⟨slot, index⟩, hslot, hissue⟩ := List.mem_flatMap.1 h
  have hslot : slot ∈ bundle.schedule.slots := List.fst_mem_of_mem_zipIdx hslot
  intro kind value hmem
  rcases List.mem_append.1 hissue with hissue | hissue
  · split_ifs at hissue
    · cases hissue
    · obtain rfl := List.mem_singleton.1 hissue
      obtain ⟨rfl, rfl⟩ := Prod.mk.inj (List.mem_singleton.1 hmem)
      exact mem_ids_slot hslot
  · obtain ⟨previous, hprevious, hissue⟩ := List.mem_flatMap.1 hissue
    rw [slotWindowIssues_records hissue] at hmem
    simp only [List.mem_cons, Prod.mk.injEq, List.not_mem_nil, or_false] at hmem
    rcases hmem with ⟨rfl, rfl⟩ | ⟨rfl, rfl⟩
    · exact mem_ids_slot hslot
    · exact mem_ids_slot (previousSlot_mem (Option.mem_toList.1 hprevious))

theorem observationIssue_knows {observation : ObservationRecord} {issue : BundleValidationIssue}
    (h : observation ∈ bundle.observations)
    (hrecords : issue.records = [(.observation, observation.observationId)]) :
    KnowsRecords bundle issue := by
  intro kind value hmem
  rw [hrecords, List.mem_singleton] at hmem
  obtain ⟨rfl, rfl⟩ := Prod.mk.inj hmem
  exact List.mem_map_of_mem h

theorem validateEventAndObservationReferences_knows {issue : BundleValidationIssue}
    (h : issue ∈ validateEventAndObservationReferences bundle) : KnowsRecords bundle issue := by
  rcases List.mem_append.1 h with h | h
  · obtain ⟨event, hevent, hissue⟩ := List.mem_flatMap.1 h
    obtain ⟨slotId, -, hissue⟩ := List.mem_flatMap.1 hissue
    split_ifs at hissue
    · cases hissue
    · obtain rfl := List.mem_singleton.1 hissue
      intro kind value hmem
      obtain ⟨rfl, rfl⟩ := Prod.mk.inj (List.mem_singleton.1 hmem)
      exact List.mem_map_of_mem hevent
  · obtain ⟨observation, hobservation, hissue⟩ := List.mem_flatMap.1 h
    obtain ⟨slotId, -, hissue⟩ := List.mem_flatMap.1 hissue
    split_ifs at hissue
    · cases hissue
    · obtain rfl := List.mem_singleton.1 hissue
      exact observationIssue_knows hobservation rfl

theorem annotationIssues_records {observation : ObservationRecord}
    {assignment : ObservationSlotAssignment} {issue : BundleValidationIssue}
    (h : issue ∈ annotationIssues F observation assignment) :
    issue.records = [(.observation, observation.observationId)] := by
  unfold annotationIssues at h
  simp only [List.mem_append] at h
  rcases h with (h | h) | h <;> split_ifs at h <;>
    simp only [List.mem_singleton, List.not_mem_nil] at h <;> subst h <;> rfl

theorem validateBundleIssues_knows {issue : BundleValidationIssue}
    (h : issue ∈ validateBundleIssues F bundle) : KnowsRecords bundle issue := by
  simp only [validateBundleIssues, List.mem_append] at h
  rcases h with ((((((h | h) | h) | h) | h) | h) | h) | h
  · split_ifs at h
    · cases h
    · obtain rfl := List.mem_singleton.1 h
      intro kind value hmem
      cases hmem
  · obtain ⟨root, -, hissue⟩ := List.mem_flatMap.1 h
    exact validateSchemaAndSession_knows hissue fun _ _ hnone => by cases hnone
  · obtain ⟨stream, hstream, hissue⟩ := List.mem_flatMap.1 h
    exact validateRecordMeta_knows hstream hissue
  · obtain ⟨kind, -, hissue⟩ := List.mem_flatMap.1 h
    obtain ⟨value, hvalue, rfl⟩ := List.mem_map.1 hissue
    intro kind' value' hmem
    obtain ⟨rfl, rfl⟩ := Prod.mk.inj (List.mem_singleton.1 hmem)
    have hcount := (mem_repeats [] _).1 hvalue
    simp only [List.not_mem_nil, false_and, false_or] at hcount
    exact List.count_pos_iff.1 (by omega)
  · exact validateScheduleReferencesAndWindows_knows h
  · exact validateEventAndObservationReferences_knows h
  · obtain ⟨observation, hobservation, hissue⟩ := List.mem_flatMap.1 h
    obtain ⟨slotConfidence, -, hissue⟩ := List.mem_flatMap.1 hissue
    split_ifs at hissue
    · cases hissue
    · obtain rfl := List.mem_singleton.1 hissue
      exact observationIssue_knows hobservation rfl
  · obtain ⟨⟨observation, assignment⟩, hpair, hissue⟩ := List.mem_flatMap.1 h
    exact observationIssue_knows (List.of_mem_zip hpair).1 (annotationIssues_records hissue)

/-- A location of a known record stands at its first or its second copy. -/
def PlacesEarly (bundle : BundleContents) (location : BundleDiagnosticLocation) : Prop :=
  ∀ kind : BundleIdKind, location.recordKind = some kind.recordKind →
    ∃ index value, Places bundle kind location index value ∧ ¬LateCopy bundle kind index value

theorem placesEarly_of_rank {location : BundleDiagnosticLocation} {kind : BundleIdKind}
    {value : String} {n index : ℕ} (hkind : location.recordKind = some kind.recordKind)
    (hvalue : location.recordId = some value) (hindex : location.recordIndex = some index)
    (hplace : (places (fun other => other) value (bundle.ids kind))[n]? = some index)
    (hn : n < 2) : PlacesEarly bundle location := by
  intro kind' hkind'
  obtain rfl : kind = kind' :=
    BundleIdKind.recordKind_injective (Option.some.inj (hkind.symm.trans hkind'))
  obtain ⟨other, hrecord, rfl, hrank⟩ := places_getElem?.1 hplace
  refine ⟨index, other, ⟨hindex, hrecord, hvalue⟩, fun hlate => ?_⟩
  have := hlate.2
  omega

theorem placesEarly_of_first {location : BundleDiagnosticLocation} {kind : BundleIdKind}
    {value : String} {index : ℕ} (hkind : location.recordKind = some kind.recordKind)
    (hvalue : location.recordId = some value) (hindex : location.recordIndex = some index)
    (hfirst : firstPlace (fun other => other) value (bundle.ids kind) = some index) :
    PlacesEarly bundle location := by
  rw [firstPlace_eq] at hfirst
  exact placesEarly_of_rank hkind hvalue hindex hfirst Nat.zero_lt_two

theorem firstRecordLocation_early {file : BundleFileRole} {recordId : Option String}
    {path : String}
    (h : ∀ value kind, recordId = some value → BundleIdKind.ofFile file = some kind →
      value ∈ bundle.ids kind) :
    PlacesEarly bundle (firstRecordLocation bundle file recordId path) := by
  intro kind hkind
  cases hid : recordId with
  | none =>
    rw [hid] at hkind
    cases hkind
  | some value =>
    cases hfile : BundleIdKind.ofFile file with
    | none =>
      simp [firstRecordLocation, hid, hfile] at hkind
    | some kind' =>
      obtain ⟨index, hindex⟩ := firstPlace_of_mem (fun other => other) (h value kind' hid hfile)
      rw [← hid]
      refine placesEarly_of_first ?_ hid ?_ hindex kind hkind
      · simp [firstRecordLocation, hid, hfile]
      · simp [firstRecordLocation, hid, hfile, hindex]

theorem slotLocation_early {slotId path : String} (h : slotId ∈ bundle.ids .slot) :
    PlacesEarly bundle (slotLocation bundle slotId path) := by
  obtain ⟨index, hindex⟩ := firstPlace_of_mem (fun other => other) h
  exact placesEarly_of_first rfl rfl hindex hindex

theorem copyLocation_early {kind : BundleIdKind} {value : String} {n index : ℕ} (hn : n < 2)
    (hplace : (places (fun other => other) value (bundle.ids kind))[n]? = some index) :
    PlacesEarly bundle (copyLocation kind value (some index)) :=
  placesEarly_of_rank rfl rfl rfl hplace hn

theorem placesEarly_of_root {location : BundleDiagnosticLocation}
    (h : location.recordKind = none) : PlacesEarly bundle location := by
  intro kind hkind
  rw [h] at hkind
  cases hkind

/-- Only `validate_duplicates` raises a duplicate. -/
theorem duplicateId_mem {kind : BundleIdKind} {value : String}
    (h : .duplicateId kind value ∈ validateBundleIssues F bundle) :
    2 ≤ (bundle.ids kind).count value := by
  have hschema {file recordId version expectedVersion session expectedSession} :
      .duplicateId kind value ∉ validateSchemaAndSession file recordId version expectedVersion
        session expectedSession := by
    unfold validateSchemaAndSession
    split_ifs <;> simp
  have hwindow {previous slot} : .duplicateId kind value ∉ slotWindowIssues previous slot := by
    unfold slotWindowIssues
    split_ifs <;> simp
  have hannotates {observation assignment} :
      .duplicateId kind value ∉ annotationIssues F observation assignment := by
    unfold annotationIssues
    split_ifs <;> simp
  simp only [validateBundleIssues, List.mem_append] at h
  rcases h with ((((((h | h) | h) | h) | h) | h) | h) | h
  · split_ifs at h <;> simp at h
  · obtain ⟨root, -, hissue⟩ := List.mem_flatMap.1 h
    exact absurd hissue hschema
  · obtain ⟨stream, -, hissue⟩ := List.mem_flatMap.1 h
    obtain ⟨record, -, hissue⟩ := List.mem_flatMap.1 hissue
    exact absurd hissue hschema
  · obtain ⟨kind', -, hissue⟩ := List.mem_flatMap.1 h
    obtain ⟨value', hvalue, heq⟩ := List.mem_map.1 hissue
    obtain ⟨rfl, rfl⟩ := BundleValidationIssue.duplicateId.inj heq
    simpa using (mem_repeats [] _).1 hvalue
  · obtain ⟨⟨slot, index⟩, -, hissue⟩ := List.mem_flatMap.1 h
    rcases List.mem_append.1 hissue with hissue | hissue
    · split_ifs at hissue <;> simp at hissue
    · obtain ⟨previous, -, hissue⟩ := List.mem_flatMap.1 hissue
      exact absurd hissue hwindow
  · rcases List.mem_append.1 h with h | h <;> obtain ⟨record, -, hissue⟩ := List.mem_flatMap.1 h <;>
      obtain ⟨slotId, -, hissue⟩ := List.mem_flatMap.1 hissue <;>
      split_ifs at hissue <;> simp at hissue
  · obtain ⟨observation, -, hissue⟩ := List.mem_flatMap.1 h
    obtain ⟨slotConfidence, -, hissue⟩ := List.mem_flatMap.1 hissue
    split_ifs at hissue <;> simp at hissue
  · obtain ⟨pair, -, hissue⟩ := List.mem_flatMap.1 h
    exact absurd hissue hannotates

theorem mem_duplicateId {kind : BundleIdKind} {value : String}
    (h : 2 ≤ (bundle.ids kind).count value) :
    .duplicateId kind value ∈ validateBundleIssues F bundle := by
  have hrepeat : value ∈ repeats [] (bundle.ids kind) := (mem_repeats [] _).2 (.inr h)
  have hkind : kind ∈ [BundleIdKind.slot, .operatorEvent, .observation, .wsjtXRecord, .rigRecord,
      .propagationRecord] := by
    cases kind <;> simp
  have hmem : .duplicateId kind value ∈ [BundleIdKind.slot, .operatorEvent, .observation,
      .wsjtXRecord, .rigRecord, .propagationRecord].flatMap (validateDuplicates bundle) :=
    List.mem_flatMap.2 ⟨kind, hkind, List.mem_map_of_mem hrepeat⟩
  simp only [validateBundleIssues, List.mem_append]
  exact .inl (.inl (.inl (.inl (.inr hmem))))

/-- A repeated identity has a first and a second place. -/
theorem duplicateIdLocations_eq {kind : BundleIdKind} {value : String}
    (h : 2 ≤ (bundle.ids kind).count value) :
    ∃ first second, (places (fun other => other) value (bundle.ids kind))[0]? = some first ∧
      (places (fun other => other) value (bundle.ids kind))[1]? = some second ∧
      duplicateIdLocations bundle kind value =
        (copyLocation kind value (some second), [copyLocation kind value (some first)]) := by
  have hcount : 2 ≤ (bundle.ids kind).countP (· = value) := by
    rw [List.count] at h
    simpa [beq_eq_decide] using h
  obtain ⟨second, hsecond⟩ := exists_second_place (fun other => other) hcount
  obtain ⟨hlt, -⟩ := List.getElem?_eq_some_iff.1 hsecond
  have hfirst := List.getElem?_eq_getElem (Nat.lt_trans Nat.zero_lt_one hlt)
  refine ⟨_, second, hfirst, hsecond, ?_⟩
  simp only [duplicateIdLocations, hsecond, hfirst]
  rfl

theorem issueDiagnostics_early {diagnostic : BundleDiagnostic}
    (h : diagnostic ∈ issueDiagnostics F bundle) :
    ∀ location ∈ diagnostic.locations, PlacesEarly bundle location := by
  obtain ⟨issue, hissue, rfl⟩ := List.mem_map.1 h
  have hknows := validateBundleIssues_knows hissue
  intro location hlocation
  cases issue with
  | unexpectedSchemaVersion file recordId expected actual =>
    obtain rfl := List.mem_singleton.1 hlocation
    refine firstRecordLocation_early fun value kind hvalue hkind => hknows kind value ?_
    simp [BundleValidationIssue.records, hvalue, hkind]
  | sessionIdMismatch file recordId expected actual =>
    rcases List.mem_cons.1 hlocation with rfl | hlocation
    · refine firstRecordLocation_early fun value kind hvalue hkind => hknows kind value ?_
      simp [BundleValidationIssue.records, hvalue, hkind]
    · obtain rfl := List.mem_singleton.1 hlocation
      exact placesEarly_of_root rfl
  | duplicateId kind value =>
    obtain ⟨first, second, hfirst, hsecond, heq⟩ :=
      duplicateIdLocations_eq (duplicateId_mem hissue)
    simp only [BundleDiagnostic.locations, diagnosticFromIssue, heq, blockingDiagnostic,
      List.mem_cons, List.not_mem_nil, or_false] at hlocation
    rcases hlocation with rfl | rfl
    · exact copyLocation_early (by omega) hsecond
    · exact copyLocation_early (by omega) hfirst
  | unknownAntennaLabel slotId antennaLabel =>
    obtain rfl := List.mem_singleton.1 hlocation
    exact slotLocation_early (hknows _ _ (List.mem_singleton.2 rfl))
  | slotWindowOutOfOrder previousSlotId slotId =>
    rcases List.mem_cons.1 hlocation with rfl | hlocation
    · exact slotLocation_early (hknows _ _ (List.mem_cons.2 (.inl rfl)))
    · obtain rfl := List.mem_singleton.1 hlocation
      exact slotLocation_early (hknows _ _ (by simp [BundleValidationIssue.records]))
  | slotWindowOverlap previousSlotId previousEndsAt slotId startsAt =>
    rcases List.mem_cons.1 hlocation with rfl | hlocation
    · exact slotLocation_early (hknows _ _ (List.mem_cons.2 (.inl rfl)))
    · obtain rfl := List.mem_singleton.1 hlocation
      exact slotLocation_early (hknows _ _ (by simp [BundleValidationIssue.records]))
  | unknownEventSlot eventId slotId =>
    obtain rfl := List.mem_singleton.1 hlocation
    refine firstRecordLocation_early fun value kind hvalue hkind => hknows kind value ?_
    obtain rfl := Option.some.inj hvalue
    obtain rfl := Option.some.inj hkind
    exact List.mem_singleton.2 rfl
  | unknownObservationSlot observationId slotId =>
    obtain rfl := List.mem_singleton.1 hlocation
    refine firstRecordLocation_early fun value kind hvalue hkind => hknows kind value ?_
    obtain rfl := Option.some.inj hvalue
    obtain rfl := Option.some.inj hkind
    exact List.mem_singleton.2 rfl
  | invalidSlotConfidence observationId slotConfidence =>
    obtain rfl := List.mem_singleton.1 hlocation
    refine firstRecordLocation_early fun value kind hvalue hkind => hknows kind value ?_
    obtain rfl := Option.some.inj hvalue
    obtain rfl := Option.some.inj hkind
    exact List.mem_singleton.2 rfl
  | alignmentAnnotationMismatch observationId field expected actual =>
    obtain rfl := List.mem_singleton.1 hlocation
    refine firstRecordLocation_early fun value kind hvalue hkind => hknows kind value ?_
    obtain rfl := Option.some.inj hvalue
    obtain rfl := Option.some.inj hkind
    exact List.mem_singleton.2 rfl

/-- The plan keeps the records of this kind out that the diagnostic is placed at. -/
def BundleDiagnostic.reaches (diagnostic : BundleDiagnostic) : BundleIdKind → Bool
  | .observation => diagnostic.excludes && diagnostic.excludesObservation
  | .slot => diagnostic.excludes
  | .operatorEvent => diagnostic.excludes && diagnostic.code ≠ .v2EventConflict
  | _ => false

/-- The diagnostic is read as one about records of this kind. -/
def BundleDiagnostic.concerns (diagnostic : BundleDiagnostic) : BundleIdKind → Bool
  | .observation => diagnostic.excludes && diagnostic.excludesObservation
  | .slot | .operatorEvent => diagnostic.excludes
  | _ => false

theorem BundleDiagnostic.reaches_iff {diagnostic : BundleDiagnostic} {kind : BundleIdKind} :
    diagnostic.reaches kind = true ↔ diagnostic.concerns kind = true ∧
      ¬(kind = .operatorEvent ∧ diagnostic.code = .v2EventConflict) := by
  cases kind <;> simp [BundleDiagnostic.reaches, BundleDiagnostic.concerns]

/-- The diagnostic keeps out the record of this kind at this place. -/
def BundleDiagnostic.ReachesAt (diagnostic : BundleDiagnostic) (kind : BundleIdKind)
    (index : ℕ) : Prop :=
  diagnostic.reaches kind = true ∧ ∃ location ∈ diagnostic.locations,
    location.recordKind = some kind.recordKind ∧ location.recordIndex = some index

/-- The plan keeps out the record of this kind at this place. -/
def EligibilityPlan.Excludes (plan : EligibilityPlan) : BundleIdKind → ℕ → Prop
  | .observation, index => ∃ reason, plan.reason? index = some reason
  | .slot, index => index ∈ plan.excludedSlots
  | .operatorEvent, index => index ∈ plan.excludedEvents
  | _, _ => False

theorem index?_eq_some {kind : BundleRecordKind} {location : BundleDiagnosticLocation}
    {index : ℕ} : location.index? kind = some index ↔
      location.recordKind = some kind ∧ location.recordIndex = some index := by
  unfold BundleDiagnosticLocation.index?
  split_ifs with h <;> simp [h]

theorem foldl_strongerReason {reasons : List ObservationExclusionReason}
    (start : Option ObservationExclusionReason) (h : start.isSome ∨ reasons ≠ []) :
    ∃ reason, reasons.foldl strongerReason start = some reason := by
  induction reasons generalizing start with
  | nil => exact Option.isSome_iff_exists.1 (h.resolve_right (by simp))
  | cons reason reasons ih =>
    refine ih _ (.inl ?_)
    cases start <;> rfl

theorem mem_observationExclusions {diagnostic : BundleDiagnostic} {index : ℕ} :
    (∃ reason, (index, reason) ∈ diagnostic.observationExclusions) ↔
      diagnostic.excludesObservation = true ∧ ∃ location ∈ diagnostic.locations,
        location.recordKind = some .observation ∧ location.recordIndex = some index := by
  unfold BundleDiagnostic.observationExclusions
  split_ifs with h
  · simp [h, index?_eq_some]
  · simp [h]

theorem fromReport_reason?_isSome {report : BundleValidationReport} {index : ℕ} :
    (∃ reason, (EligibilityPlan.fromReport report).reason? index = some reason) ↔
      ∃ diagnostic ∈ report, diagnostic.excludes = true ∧
        ∃ reason, (index, reason) ∈ diagnostic.observationExclusions := by
  have hlookup : (EligibilityPlan.fromReport report).reason? index =
      (((groups ((report.filter (·.excludes)).flatMap (·.observationExclusions))).lookup
        index).bind fun reasons => reasons.foldl strongerReason none) :=
    lookup_filterMap (fun reasons : List ObservationExclusionReason =>
      reasons.foldl strongerReason none) _ (groups_nodup _) index
  have hmem : index ∈ ((report.filter (·.excludes)).flatMap (·.observationExclusions)).map (·.1) ↔
      ∃ diagnostic ∈ report, diagnostic.excludes = true ∧
        ∃ reason, (index, reason) ∈ diagnostic.observationExclusions := by
    simp only [List.mem_map, List.mem_flatMap, List.mem_filter, Prod.exists, exists_and_right,
      exists_eq_right]
    constructor
    · rintro ⟨reason, diagnostic, ⟨hreport, hread⟩, hreason⟩
      exact ⟨diagnostic, hreport, hread, reason, hreason⟩
    · rintro ⟨diagnostic, hreport, hread, reason, hreason⟩
      exact ⟨reason, diagnostic, ⟨hreport, hread⟩, hreason⟩
  rw [hlookup, ← hmem, lookup_groups]
  split_ifs with h
  · obtain ⟨⟨k, reason⟩, hentry, rfl⟩ := List.mem_map.1 h
    have hne := List.ne_nil_of_mem (mem_pushed.2 hentry)
    obtain ⟨strongest, hstrongest⟩ := foldl_strongerReason none (.inr hne)
    exact ⟨fun _ => h, fun _ => ⟨strongest, hstrongest⟩⟩
  · simp [h]

/-- A record is kept out exactly when a diagnostic that reaches its kind is placed at it. -/
theorem fromReport_excludes {report : BundleValidationReport} {kind : BundleIdKind} {index : ℕ} :
    (EligibilityPlan.fromReport report).Excludes kind index ↔
      ∃ diagnostic ∈ report, diagnostic.ReachesAt kind index := by
  unfold BundleDiagnostic.ReachesAt
  cases kind with
  | observation =>
    rw [EligibilityPlan.Excludes, fromReport_reason?_isSome]
    simp only [mem_observationExclusions, BundleDiagnostic.reaches, Bool.and_eq_true, and_assoc,
      BundleIdKind.recordKind]
  | slot =>
    simp only [EligibilityPlan.Excludes, EligibilityPlan.fromReport, List.mem_dedup,
      List.mem_flatMap, List.mem_filter, BundleDiagnostic.slotExclusions, List.mem_filterMap,
      index?_eq_some, BundleDiagnostic.reaches, and_assoc, BundleIdKind.recordKind]
  | operatorEvent =>
    simp only [EligibilityPlan.Excludes, EligibilityPlan.fromReport, List.mem_dedup,
      List.mem_flatMap, List.mem_filter, BundleDiagnostic.eventExclusions,
      BundleDiagnostic.reaches, Bool.and_eq_true, and_assoc, BundleIdKind.recordKind,
      decide_eq_true_eq]
    refine exists_congr fun diagnostic => and_congr_right fun _ => and_congr_right fun _ => ?_
    split_ifs with h
    · simp [h]
    · simp [h, index?_eq_some]
  | _ => simp [EligibilityPlan.Excludes, BundleDiagnostic.reaches]

open Semantics

/-- A record of this kind breaks a rule the plan reads a diagnostic of: the SNR of an
observation is not finite, or the sequence number or the guard time of a slot is bad. -/
def BreaksRule (bundle : BundleContents) : BundleIdKind → ℕ → Prop
  | .observation, index => ∃ observation, bundle.observations[index]? = some observation ∧
      ∃ snr, observation.snrDb = some snr ∧ snr.isFinite = false
  | .slot, index => ∃ slot, bundle.schedule.slots[index]? = some slot ∧
      (sequenceOutOfOrder (previousSlot bundle.schedule.slots index) slot = true ∨
        slot.durationSeconds ≤ slot.guardSeconds)
  | _, _ => False

/-- The diagnostic concerns records that break a rule only. -/
def ReachesBreakers (bundle : BundleContents) (diagnostic : BundleDiagnostic) : Prop :=
  ∀ kind, diagnostic.concerns kind = true → ∀ location ∈ diagnostic.locations,
    location.recordKind = some kind.recordKind →
      ∃ index value, Places bundle kind location index value ∧ BreaksRule bundle kind index

theorem reachesBreakers_of_writeOnly {diagnostic : BundleDiagnostic}
    (hblocks : diagnostic.blocks .analysis = false)
    (hcode : diagnostic.code ≠ .alignmentAnnotationMismatch)
    (hsnr : diagnostic.isNonFiniteSnr = false) : ReachesBreakers bundle diagnostic := by
  intro kind hconcerns
  have hread : diagnostic.excludes = false := by
    simp [BundleDiagnostic.excludes, hblocks, hcode, hsnr]
  cases kind <;> simp [BundleDiagnostic.concerns, hread] at hconcerns

theorem reachesBreakers_of_root {diagnostic : BundleDiagnostic}
    (h : ∀ location ∈ diagnostic.locations, location.recordKind = none ∨
      location.recordKind = some .antenna) : ReachesBreakers bundle diagnostic := by
  intro kind _ location hlocation hkind
  rcases h location hlocation with hnone | hantenna
  · rw [hnone] at hkind
    cases hkind
  · rw [hantenna] at hkind
    cases kind <;> cases hkind

theorem reachesBreakers_of_kind {diagnostic : BundleDiagnostic} (kind : BundleIdKind)
    (h : ∀ location ∈ diagnostic.locations, location.recordKind = some kind.recordKind)
    (hconcerns : diagnostic.concerns kind = false) : ReachesBreakers bundle diagnostic := by
  intro kind' hconcerns' location hlocation hkind
  obtain rfl : kind = kind' :=
    BundleIdKind.recordKind_injective (Option.some.inj ((h location hlocation).symm.trans hkind))
  rw [hconcerns] at hconcerns'
  cases hconcerns'

theorem mem_validateNumber {value : IeeeFloat} {range : IeeeFloat → Bool}
    {location : BundleDiagnosticLocation} {rule : String} {diagnostic : BundleDiagnostic}
    (h : diagnostic ∈ validateNumber F value range location rule) :
    ∃ code message, (code = .nonFiniteNumber ∨ code = .invalidRange) ∧
      diagnostic = numberDiagnostic code location message := by
  unfold validateNumber at h
  split_ifs at h
  · exact ⟨_, _, .inl rfl, List.mem_singleton.1 h⟩
  · exact ⟨_, _, .inr rfl, List.mem_singleton.1 h⟩
  · cases h

theorem machineIdentity_reaches {value identityKind : String}
    {location : BundleDiagnosticLocation} {diagnostic : BundleDiagnostic}
    (h : diagnostic ∈ validateMachineIdentityAt F value identityKind location) :
    ReachesBreakers bundle diagnostic := by
  obtain ⟨error, -, rfl⟩ := List.mem_map.1 h
  refine reachesBreakers_of_writeOnly rfl ?_ ?_ <;>
    cases error <;> simp [identityDiagnostic, BundleDiagnostic.isNonFiniteSnr]

theorem slotPlaces {slot : PlannedSlot} {index : ℕ} {field : String}
    (h : bundle.schedule.slots[index]? = some slot) :
    Places bundle .slot (slotFieldLocation slot index field) index slot.slotId :=
  ⟨rfl, by simp [BundleContents.ids, h], rfl⟩

theorem slotRule_reaches {code : DiagnosticCode} {slot : PlannedSlot} {index : ℕ}
    {field message : String} (hslot : bundle.schedule.slots[index]? = some slot)
    (hbreaks : BreaksRule bundle .slot index) :
    ReachesBreakers bundle (slotRuleDiagnostic code slot index field message) := by
  intro kind _ location hlocation hkind
  obtain rfl := List.mem_singleton.1 hlocation
  obtain rfl : kind = .slot :=
    BundleIdKind.recordKind_injective (Option.some.inj hkind.symm)
  exact ⟨index, slot.slotId, slotPlaces hslot, hbreaks⟩

theorem slotRuleDiagnostics_reaches {slot : PlannedSlot} {index : ℕ}
    {diagnostic : BundleDiagnostic} (hslot : bundle.schedule.slots[index]? = some slot)
    (h : diagnostic ∈ slotRuleDiagnostics (previousSlot bundle.schedule.slots index) slot index) :
    ReachesBreakers bundle diagnostic := by
  simp only [slotRuleDiagnostics, List.mem_append] at h
  rcases h with (h | h) | h <;> split_ifs at h with hrule <;>
    simp only [List.mem_singleton, List.not_mem_nil] at h <;> subst h
  · exact slotRule_reaches hslot ⟨slot, hslot, .inl hrule⟩
  · exact slotRule_reaches hslot ⟨slot, hslot, .inr (by omega)⟩
  · exact slotRule_reaches hslot ⟨slot, hslot, .inr hrule⟩

theorem duplicateSequence_reaches {slots : List PlannedSlot} {slot : PlannedSlot} {index : ℕ}
    {diagnostic : BundleDiagnostic}
    (h : diagnostic ∈ duplicateSequenceDiagnostics slots slot index) :
    ReachesBreakers bundle diagnostic := by
  unfold duplicateSequenceDiagnostics at h
  split at h
  · cases h
  · obtain rfl := List.mem_singleton.1 h
    exact reachesBreakers_of_writeOnly rfl (by simp) rfl

theorem validateSchedule_reaches {diagnostic : BundleDiagnostic}
    (h : diagnostic ∈ Semantics.validateSchedule bundle) : ReachesBreakers bundle diagnostic := by
  simp only [Semantics.validateSchedule, List.mem_append] at h
  rcases h with (h | h) | h
  · split_ifs at h
    · obtain rfl := List.mem_singleton.1 h
      exact reachesBreakers_of_root (by simp [BundleDiagnostic.locations, semanticWarning,
        recordLocation])
    · cases h
  · obtain ⟨⟨slot, index⟩, hslot, h⟩ := List.mem_flatMap.1 h
    rcases List.mem_append.1 h with h | h
    · exact duplicateSequence_reaches h
    · exact slotRuleDiagnostics_reaches (List.mk_mem_zipIdx_iff_getElem?.1 hslot) h
  · split_ifs at h
    · cases h
    · obtain rfl := List.mem_singleton.1 h
      exact reachesBreakers_of_root (by simp [BundleDiagnostic.locations, semanticWarning,
        recordLocation])

theorem observationField_reaches {observation : ObservationRecord} {index : ℕ}
    {field message : String} {code : DiagnosticCode} (hfield : field ≠ "/snr_db")
    (hcode : code = .nonFiniteNumber ∨ code = .invalidRange) :
    ReachesBreakers bundle (numberDiagnostic code (numberLocation .observations (some .observation)
      (some (observation.observationId, index)) field) message) := by
  refine reachesBreakers_of_kind .observation ?_ ?_
  · intro location hlocation
    obtain rfl := List.mem_singleton.1 hlocation
    rfl
  · rcases hcode with rfl | rfl <;>
      simp [BundleDiagnostic.concerns, BundleDiagnostic.excludesObservation,
        BundleDiagnostic.isNonFiniteSnr, numberDiagnostic, numberLocation, recordLocation, hfield]

theorem observationNumber_reaches {observation : ObservationRecord} {index : ℕ} {field : String}
    {value : Option IeeeFloat} {range : IeeeFloat → Bool} {rule : String}
    {diagnostic : BundleDiagnostic} (hfield : field ≠ "/snr_db")
    (h : diagnostic ∈ observationNumber F observation index field value range rule) :
    ReachesBreakers bundle diagnostic := by
  obtain ⟨number, -, h⟩ := List.mem_flatMap.1 h
  obtain ⟨code, message, hcode, rfl⟩ := mem_validateNumber h
  exact observationField_reaches hfield hcode

theorem mem_validateWriteOnlyFinite {value : IeeeFloat} {location : BundleDiagnosticLocation}
    {rule : String} {diagnostic : BundleDiagnostic}
    (h : diagnostic ∈ validateWriteOnlyFinite F value location rule) :
    value.isFinite = false ∧ diagnostic.locations = [location] := by
  unfold validateWriteOnlyFinite at h
  split_ifs at h with hfinite
  · cases h
  · obtain rfl := List.mem_singleton.1 h
    exact ⟨by simpa using hfinite, rfl⟩

theorem observationPlaces {observation : ObservationRecord} {index : ℕ} {field : String}
    (h : bundle.observations[index]? = some observation) :
    Places bundle .observation (numberLocation .observations (some .observation)
      (some (observation.observationId, index)) field) index observation.observationId :=
  ⟨rfl, by simp [BundleContents.ids, h], rfl⟩

theorem validateObservations_reaches {diagnostic : BundleDiagnostic}
    (h : diagnostic ∈ validateObservations F bundle) : ReachesBreakers bundle diagnostic := by
  obtain ⟨⟨observation, index⟩, hmem, h⟩ := List.mem_flatMap.1 h
  have hobservation := List.mk_mem_zipIdx_iff_getElem?.1 hmem
  simp only [observationDiagnostics, List.mem_append] at h
  rcases h with (((((h | h) | h) | h) | h) | h) | h
  · split_ifs at h
    · obtain rfl := List.mem_singleton.1 h
      exact observationField_reaches (by decide) (.inr rfl)
    · cases h
  · exact observationNumber_reaches (by decide) h
  · exact observationNumber_reaches (by decide) h
  · obtain ⟨snr, hsnr, h⟩ := List.mem_flatMap.1 h
    obtain ⟨hfinite, hlocations⟩ := mem_validateWriteOnlyFinite h
    intro kind _ location hlocation hkind
    obtain rfl := List.mem_singleton.1 (hlocations ▸ hlocation)
    obtain rfl : kind = .observation :=
      BundleIdKind.recordKind_injective (Option.some.inj hkind.symm)
    exact ⟨index, observation.observationId, observationPlaces hobservation,
      observation, hobservation, snr, Option.mem_toList.1 hsnr, hfinite⟩
  · exact observationNumber_reaches (by decide) h
  · exact observationNumber_reaches (by decide) h
  · split_ifs at h
    · obtain rfl := List.mem_singleton.1 h
      exact observationField_reaches (by decide) (.inl rfl)
    · cases h

theorem validateIdentities_reaches {diagnostic : BundleDiagnostic}
    (h : diagnostic ∈ validateIdentities F bundle) : ReachesBreakers bundle diagnostic := by
  simp only [validateIdentities, List.mem_append] at h
  rcases h with (h | h) | h
  · exact machineIdentity_reaches h
  · obtain ⟨⟨slot, index⟩, -, h⟩ := List.mem_flatMap.1 h
    exact machineIdentity_reaches h
  · obtain ⟨stream, -, h⟩ := List.mem_flatMap.1 h
    obtain ⟨⟨⟨id, recordMeta⟩, index⟩, -, h⟩ := List.mem_flatMap.1 h
    exact machineIdentity_reaches h

theorem number_reaches_of_root {code : DiagnosticCode} {location : BundleDiagnosticLocation}
    {message : String}
    (h : location.recordKind = none ∨ location.recordKind = some .antenna) :
    ReachesBreakers bundle (numberDiagnostic code location message) :=
  reachesBreakers_of_root fun other hother => by
    obtain rfl := List.mem_singleton.1 hother
    exact h

theorem validateStation_reaches {diagnostic : BundleDiagnostic}
    (h : diagnostic ∈ validateStation F bundle) : ReachesBreakers bundle diagnostic := by
  rcases List.mem_append.1 h with h | h
  · obtain ⟨⟨field, value⟩, -, h⟩ := List.mem_flatMap.1 h
    dsimp only at h
    split_ifs at h
    · obtain rfl := List.mem_singleton.1 h
      exact reachesBreakers_of_writeOnly rfl (by simp [semanticWarning]) rfl
    · cases h
  · obtain ⟨watts, -, h⟩ := List.mem_flatMap.1 h
    obtain ⟨code, message, -, rfl⟩ := mem_validateNumber h
    exact number_reaches_of_root (.inl rfl)

theorem validateAntennas_reaches {diagnostic : BundleDiagnostic}
    (h : diagnostic ∈ validateAntennas F bundle) : ReachesBreakers bundle diagnostic := by
  obtain ⟨⟨antenna, index⟩, -, h⟩ := List.mem_flatMap.1 h
  simp only [List.mem_append] at h
  rcases h with ((h | h) | h) | h
  · split_ifs at h
    · cases h
    · obtain rfl := List.mem_singleton.1 h
      exact reachesBreakers_of_writeOnly rfl (by simp) rfl
  · split at h
    · cases h
    · obtain rfl := List.mem_singleton.1 h
      refine reachesBreakers_of_root fun location hlocation => .inr ?_
      rcases List.mem_cons.1 hlocation with rfl | hlocation
      · rfl
      · obtain ⟨other, -, rfl⟩ := List.mem_map.1 hlocation
        rfl
  · obtain ⟨⟨field, value⟩, -, h⟩ := List.mem_flatMap.1 h
    obtain ⟨number, -, h⟩ := List.mem_flatMap.1 h
    obtain ⟨code, message, -, rfl⟩ := mem_validateNumber h
    exact number_reaches_of_root (.inr rfl)
  · obtain ⟨number, -, h⟩ := List.mem_flatMap.1 h
    obtain ⟨code, message, -, rfl⟩ := mem_validateNumber h
    exact number_reaches_of_root (.inr rfl)

theorem validateRig_reaches {diagnostic : BundleDiagnostic}
    (h : diagnostic ∈ validateRig bundle) : ReachesBreakers bundle diagnostic := by
  obtain ⟨⟨record, index⟩, -, h⟩ := List.mem_flatMap.1 h
  dsimp only at h
  split_ifs at h
  · obtain rfl := List.mem_singleton.1 h
    refine reachesBreakers_of_kind .rigRecord ?_ rfl
    intro location hlocation
    obtain rfl := List.mem_singleton.1 hlocation
    rfl
  · cases h

theorem validatePropagation_reaches {diagnostic : BundleDiagnostic}
    (h : diagnostic ∈ validatePropagation F bundle) : ReachesBreakers bundle diagnostic := by
  obtain ⟨⟨record, index⟩, -, h⟩ := List.mem_flatMap.1 h
  obtain ⟨⟨field, value, range, rule⟩, -, h⟩ := List.mem_flatMap.1 h
  obtain ⟨number, -, h⟩ := List.mem_flatMap.1 h
  obtain ⟨code, message, -, rfl⟩ := mem_validateNumber h
  refine reachesBreakers_of_kind .propagationRecord ?_ rfl
  intro location hlocation
  obtain rfl := List.mem_singleton.1 hlocation
  rfl

theorem validateAnalysis_reaches {diagnostic : BundleDiagnostic}
    (h : diagnostic ∈ validateAnalysis bundle) : ReachesBreakers bundle diagnostic := by
  unfold validateAnalysis at h
  split_ifs at h
  · obtain rfl := List.mem_singleton.1 h
    exact reachesBreakers_of_writeOnly rfl (by simp [semanticWarning]) rfl
  · cases h

/-- A semantic diagnostic keeps out the records that break its rule, and no others. -/
theorem semanticDiagnostics_reaches {diagnostic : BundleDiagnostic}
    (h : diagnostic ∈ semanticDiagnostics F bundle) : ReachesBreakers bundle diagnostic := by
  simp only [semanticDiagnostics, List.mem_append] at h
  rcases h with ((((((h | h) | h) | h) | h) | h) | h) | h
  · exact validateIdentities_reaches h
  · exact validateStation_reaches h
  · exact validateAntennas_reaches h
  · exact validateSchedule_reaches h
  · exact validateObservations_reaches h
  · exact validateRig_reaches h
  · exact validatePropagation_reaches h
  · exact validateAnalysis_reaches h

theorem slotRule_raised (code : DiagnosticCode) {slot : PlannedSlot} {index : ℕ}
    (field message : String) (hslot : bundle.schedule.slots[index]? = some slot)
    (h : slotRuleDiagnostic code slot index field message ∈
      slotRuleDiagnostics (previousSlot bundle.schedule.slots index) slot index) :
    ∃ diagnostic ∈ semanticDiagnostics F bundle,
      diagnostic.code = code ∧ diagnostic.ReachesAt .slot index := by
  have hschedule : slotRuleDiagnostic code slot index field message ∈
      Semantics.validateSchedule bundle := by
    simp only [Semantics.validateSchedule, List.mem_append]
    exact .inl (.inr (List.mem_flatMap.2 ⟨(slot, index), List.mk_mem_zipIdx_iff_getElem?.2 hslot,
      List.mem_append.2 (.inr h)⟩))
  refine ⟨slotRuleDiagnostic code slot index field message, ?_, rfl, rfl,
    slotFieldLocation slot index field, List.mem_cons_self, rfl, rfl⟩
  simp only [semanticDiagnostics, List.mem_append]
  exact .inl (.inl (.inl (.inl (.inr hschedule))))

/-- Every record that breaks a rule is kept out where it stands. -/
theorem breaksRule_raised {kind : BundleIdKind} {index : ℕ} (h : BreaksRule bundle kind index) :
    ∃ diagnostic ∈ semanticDiagnostics F bundle,
      intentNativeException diagnostic.code = false ∧ diagnostic.ReachesAt kind index := by
  cases kind with
  | observation =>
    obtain ⟨observation, hobservation, snr, hsnr, hfinite⟩ := h
    let location := numberLocation .observations (some .observation)
      (some (observation.observationId, index)) "/snr_db"
    have hmem : ∀ diagnostic ∈ validateWriteOnlyFinite F snr location
        "observation SNR must be finite", diagnostic ∈ semanticDiagnostics F bundle := by
      intro diagnostic hdiagnostic
      have hobs : diagnostic ∈ validateObservations F bundle := by
        refine List.mem_flatMap.2 ⟨(observation, index),
          List.mk_mem_zipIdx_iff_getElem?.2 hobservation, ?_⟩
        simp only [observationDiagnostics, List.mem_append]
        exact .inl (.inl (.inl (.inr (List.mem_flatMap.2
          ⟨snr, Option.mem_toList.2 hsnr, hdiagnostic⟩))))
      simp only [semanticDiagnostics, List.mem_append]
      exact .inl (.inl (.inl (.inr hobs)))
    unfold validateWriteOnlyFinite at hmem
    rw [hfinite] at hmem
    exact ⟨_, hmem _ (List.mem_singleton.2 rfl), rfl, by
      simp [BundleDiagnostic.reaches, BundleDiagnostic.excludes,
        BundleDiagnostic.excludesObservation, BundleDiagnostic.isNonFiniteSnr, location,
        numberLocation, recordLocation], location, List.mem_cons_self, rfl, rfl⟩
  | slot =>
    obtain ⟨slot, hslot, hrule | hguard⟩ := h
    · have hraised := slotRule_raised (F := F) .slotSequenceOutOfOrder "sequence_number"
        "slot sequence numbers must be strictly increasing in persisted order" hslot
        (List.mem_append.2 (.inl (List.mem_append.2 (.inl (by
          rw [if_pos hrule]
          exact List.mem_singleton.2 rfl)))))
      obtain ⟨diagnostic, hmem, hcode, hreaches⟩ := hraised
      exact ⟨diagnostic, hmem, by rw [hcode]; rfl, hreaches⟩
    · have hraised := slotRule_raised (F := F) .invalidSlotGuard "guard_seconds"
        "slot guard time must be less than slot duration" hslot (List.mem_append.2 (.inr (by
          rw [if_pos hguard]
          exact List.mem_singleton.2 rfl)))
      obtain ⟨diagnostic, hmem, hcode, hreaches⟩ := hraised
      exact ⟨diagnostic, hmem, by rw [hcode]; rfl, hreaches⟩
  | _ => exact h.elim

end AntennaBench
