import Mathlib.Data.String.Basic
import Mathlib.Order.WithBot
import AntennaBench.Core.Ieee
import AntennaBench.Timeline.Groups

/-!
# Bundle diagnostics

What a validator reports: a code, the operations it blocks and the records it is
about. A report sorts its diagnostics by file, record and field.
-/

namespace AntennaBench

open Timeline

/-- The formatting of the Rust standard library and of `chrono` in messages: `{:?}` of
a string, `{}` and `{:?}` of floats and `{}` of an instant. -/
structure TextFormat where
  debugText : String → String
  displayF32 : IeeeFloat → String
  debugF32 : IeeeFloat → String
  displayF64 : IeeeFloat → String
  displayDateTime : DateTime → String

/-- `{:?}` of an `Option`. -/
def debugOption {α : Type} (debug : α → String) : Option α → String
  | none => "None"
  | some value => "Some(" ++ debug value ++ ")"

/-- The constants of `codes`. -/
inductive DiagnosticCode where
  | invalidJson
  | duplicateMember
  | duplicateRawMember
  | unknownField
  | unsupportedSchemaVersion
  | sessionIdMismatch
  | duplicateId
  | unknownAntennaLabel
  | slotWindowOutOfOrder
  | slotWindowOverlap
  | unknownEventSlot
  | unknownObservationSlot
  | invalidSlotConfidence
  | alignmentAnnotationMismatch
  | emptyIdentity
  | invalidIdentity
  | invalidRequiredText
  | invalidAntennaLabel
  | duplicateAntennaLabel
  | emptySchedule
  | duplicateSequenceNumber
  | slotSequenceOutOfOrder
  | invalidSlotDuration
  | invalidSlotGuard
  | experimentShapeMismatch
  | nonFiniteNumber
  | invalidRange
  | analysisMetadataMismatch
  | v2CheckpointMismatch
  | v2AdapterLink
  | v2Attachment
  | v2Mutation
  | v2EventSemantics
  | v2EventConflict
  | v2LifecycleMismatch
  deriving DecidableEq

def DiagnosticCode.text : DiagnosticCode → String
  | invalidJson => "bundle.wire.invalid_json"
  | duplicateMember => "bundle.wire.duplicate_member"
  | duplicateRawMember => "bundle.wire.duplicate_raw_member"
  | unknownField => "bundle.wire.unknown_field"
  | unsupportedSchemaVersion => "bundle.wire.unsupported_schema_version"
  | sessionIdMismatch => "bundle.structure.session_id_mismatch"
  | duplicateId => "bundle.structure.duplicate_id"
  | unknownAntennaLabel => "bundle.structure.unknown_antenna_label"
  | slotWindowOutOfOrder => "bundle.structure.slot_window_out_of_order"
  | slotWindowOverlap => "bundle.structure.slot_window_overlap"
  | unknownEventSlot => "bundle.structure.unknown_event_slot"
  | unknownObservationSlot => "bundle.structure.unknown_observation_slot"
  | invalidSlotConfidence => "bundle.semantic.invalid_slot_confidence"
  | alignmentAnnotationMismatch => "bundle.semantic.alignment_annotation_mismatch"
  | emptyIdentity => "bundle.semantic.empty_identity"
  | invalidIdentity => "bundle.semantic.invalid_identity"
  | invalidRequiredText => "bundle.semantic.invalid_required_text"
  | invalidAntennaLabel => "bundle.semantic.invalid_antenna_label"
  | duplicateAntennaLabel => "bundle.semantic.duplicate_antenna_label"
  | emptySchedule => "bundle.semantic.empty_schedule"
  | duplicateSequenceNumber => "bundle.semantic.duplicate_sequence_number"
  | slotSequenceOutOfOrder => "bundle.semantic.slot_sequence_out_of_order"
  | invalidSlotDuration => "bundle.semantic.invalid_slot_duration"
  | invalidSlotGuard => "bundle.semantic.invalid_slot_guard"
  | experimentShapeMismatch => "bundle.semantic.experiment_shape_mismatch"
  | nonFiniteNumber => "bundle.semantic.non_finite_number"
  | invalidRange => "bundle.semantic.invalid_range"
  | analysisMetadataMismatch => "bundle.semantic.analysis_metadata_mismatch"
  | v2CheckpointMismatch => "bundle.structure.v2_checkpoint_mismatch"
  | v2AdapterLink => "bundle.structure.v2_adapter_link"
  | v2Attachment => "bundle.structure.v2_attachment"
  | v2Mutation => "bundle.structure.v2_mutation"
  | v2EventSemantics => "bundle.semantic.v2_operator_event"
  | v2EventConflict => "bundle.eligibility.v2_operator_event_conflict"
  | v2LifecycleMismatch => "bundle.structure.v2_lifecycle_mismatch"

inductive BundleFileRole where
  | manifest
  | sessionState
  | station
  | antennas
  | schedule
  | events
  | observations
  | adapterRecords
  | wsjtX
  | rig
  | propagation
  | analysis
  deriving DecidableEq

inductive BundleValidationProfile where
  | compatibilityRead
  | analysis
  | strictCreation
  | upgrade
  deriving DecidableEq

inductive BundleDiagnosticCategory where
  | wire
  | structural
  | semantic
  | eligibility
  deriving DecidableEq

inductive BundleDiagnosticSeverity where
  | warning
  | error
  deriving DecidableEq

inductive BundleRecordKind where
  | antenna
  | slot
  | operatorEvent
  | observation
  | adapterRecord
  | wsjtXRecord
  | rigRecord
  | propagationRecord
  deriving DecidableEq

structure BundleDiagnosticLocation where
  file : BundleFileRole
  recordKind : Option BundleRecordKind := none
  recordId : Option String := none
  recordIndex : Option ℕ := none
  physicalLine : Option ℕ := none
  fieldPath : Option String := none
  deriving DecidableEq

/-- The derived order of locations. -/
def BundleDiagnosticLocation.key (location : BundleDiagnosticLocation) :
    ℕ ×ₗ WithBot ℕ ×ₗ WithBot String ×ₗ WithBot ℕ ×ₗ WithBot ℕ ×ₗ WithBot String :=
  toLex (location.file.ctorIdx, toLex (location.recordKind.map (·.ctorIdx),
    toLex (location.recordId, toLex (location.recordIndex,
      toLex (location.physicalLine, location.fieldPath)))))

structure BundleDiagnostic where
  code : DiagnosticCode
  category : BundleDiagnosticCategory
  severity : BundleDiagnosticSeverity
  blockedOperations : List BundleValidationProfile
  location : BundleDiagnosticLocation
  message : String
  relatedLocations : List BundleDiagnosticLocation := []
  deriving DecidableEq

namespace BundleDiagnostic

def blocks (diagnostic : BundleDiagnostic) (profile : BundleValidationProfile) : Bool :=
  diagnostic.blockedOperations.contains profile

/-- The location and the related ones. -/
def locations (diagnostic : BundleDiagnostic) : List BundleDiagnosticLocation :=
  diagnostic.location :: diagnostic.relatedLocations

/-- What the report sorts diagnostics by. -/
def key (diagnostic : BundleDiagnostic) :
    ℕ ×ₗ WithBot ℕ ×ₗ WithBot String ×ₗ String ×ₗ WithBot String :=
  toLex (diagnostic.location.file.ctorIdx, toLex (diagnostic.location.recordIndex,
    toLex (diagnostic.location.fieldPath,
      toLex (diagnostic.code.text, diagnostic.location.recordId))))

/-- `sort_unstable` and `dedup` of the blocked operations, `sort` and `dedup` of the
related locations. -/
def tidy (diagnostic : BundleDiagnostic) : BundleDiagnostic :=
  { diagnostic with
    blockedOperations := sortOn (·.ctorIdx) diagnostic.blockedOperations.dedup
    relatedLocations := sortOn (·.key) diagnostic.relatedLocations.dedup }

@[simp] theorem tidy_code (diagnostic : BundleDiagnostic) :
    diagnostic.tidy.code = diagnostic.code := rfl

@[simp] theorem tidy_location (diagnostic : BundleDiagnostic) :
    diagnostic.tidy.location = diagnostic.location := rfl

@[simp] theorem tidy_blocks (diagnostic : BundleDiagnostic) (profile : BundleValidationProfile) :
    diagnostic.tidy.blocks profile = diagnostic.blocks profile := by
  rw [Bool.eq_iff_iff]
  simp only [blocks, tidy, List.contains_iff_mem, mem_sortOn, List.mem_dedup]

theorem mem_tidy_related {diagnostic : BundleDiagnostic} {location : BundleDiagnosticLocation} :
    location ∈ diagnostic.tidy.relatedLocations ↔ location ∈ diagnostic.relatedLocations := by
  simp only [tidy, mem_sortOn, List.mem_dedup]

theorem mem_tidy_locations {diagnostic : BundleDiagnostic} {location : BundleDiagnosticLocation} :
    location ∈ diagnostic.tidy.locations ↔ location ∈ diagnostic.locations := by
  rw [locations, locations, List.mem_cons, List.mem_cons, mem_tidy_related, tidy_location]

end BundleDiagnostic

/-- `BundleValidationReport`, as the list of its diagnostics. -/
abbrev BundleValidationReport := List BundleDiagnostic

namespace BundleValidationReport

/-- `sort_deterministically`. -/
def sorted (diagnostics : List BundleDiagnostic) : BundleValidationReport :=
  (sortOn (·.key) diagnostics).map (·.tidy)

def extend (report : BundleValidationReport) (diagnostics : List BundleDiagnostic) :
    BundleValidationReport :=
  sorted (report ++ diagnostics)

def allows (report : BundleValidationReport) (profile : BundleValidationProfile) : Bool :=
  !report.any (·.blocks profile)

theorem mem_sorted {diagnostics : List BundleDiagnostic} {diagnostic : BundleDiagnostic} :
    diagnostic ∈ sorted diagnostics ↔ ∃ raw ∈ diagnostics, raw.tidy = diagnostic := by
  rw [sorted, List.mem_map]
  exact exists_congr fun raw => and_congr_left fun _ => mem_sortOn

end BundleValidationReport

def allTypedOperations : List BundleValidationProfile :=
  [.compatibilityRead, .analysis, .strictCreation, .upgrade]

def analysisAndWriteOperations : List BundleValidationProfile :=
  [.analysis, .strictCreation, .upgrade]

def writeOperations : List BundleValidationProfile := [.strictCreation, .upgrade]

end AntennaBench
