import AntennaBench.Analysis.Blocks
import AntennaBench.Core.Validation

/-!
# Eligibility of the evidence

`EligibilityPlan::from_report` and the front of `summarize_bundle`: which slots,
events and observations a validation report keeps out of the analysis, and how the
observations that stay are classified by their slot assignment.
-/

namespace AntennaBench

open Timeline

inductive AnalysisResourceStage where
  | plan
  | align
  | aggregate
  | compare
  deriving DecidableEq

structure AnalysisResourceDiagnostic where
  code : String
  stage : AnalysisResourceStage
  role : String
  limit : ℕ
  observed : ℕ
  deriving DecidableEq

/-- `AnalysisError`, and the panics of the analysis. -/
inductive AnalysisError where
  | invalidBundle (report : BundleValidationReport)
  | resource (diagnostic : AnalysisResourceDiagnostic)
  | panicked
  deriving DecidableEq

structure AnalysisResourceLimits where
  collectionEntries : ℕ
  liveEntries : ℕ

def analysisResourceLimits : AnalysisResourceLimits := ⟨500000, 1000000⟩

namespace AnalysisResourceLimits

def check (code : String) (stage : AnalysisResourceStage) (role : String) (limit observed : ℕ) :
    Except AnalysisError Unit :=
  if limit < observed then .error (.resource ⟨code, stage, role, limit, observed⟩) else .ok ()

def collection (limits : AnalysisResourceLimits) (stage : AnalysisResourceStage) (role : String)
    (entries : ℕ) : Except AnalysisError Unit :=
  check "resource.analysis.collection_entries" stage role limits.collectionEntries entries

def live (limits : AnalysisResourceLimits) (stage : AnalysisResourceStage) (role : String)
    (entries : ℕ) : Except AnalysisError Unit :=
  check "resource.analysis.live_entries" stage role limits.liveEntries entries

end AnalysisResourceLimits

inductive EligibilityExclusionCategory where
  | missing
  | malformed
  | contradictory
  | unsupported
  | duplicate
  | deliberatelyExcluded
  deriving DecidableEq

inductive EligibilityScope where
  | field
  | observation
  | slot
  | comparisonStratum
  | comparisonBlock
  deriving DecidableEq

structure EligibilityExclusionCount where
  code : DiagnosticCode
  category : EligibilityExclusionCategory
  scope : EligibilityScope
  count : ℕ
  deriving DecidableEq

inductive ObservationExclusionReason where
  | guardTime
  | nearBoundary
  | beforeObservedSwitch
  | missedSlot
  | badSlot
  | bandMismatch
  | outsideSchedule
  | missingEvidence
  | malformedEvidence
  | contradictoryEvidence
  | unsupportedEvidence
  | duplicateEvidence
  deriving DecidableEq

namespace BundleDiagnostic

def isNonFiniteSnr (diagnostic : BundleDiagnostic) : Bool :=
  diagnostic.code = .nonFiniteNumber && diagnostic.location.recordKind = some .observation &&
    diagnostic.location.fieldPath = some "/snr_db"

/-- The diagnostics the plan reads. -/
def excludes (diagnostic : BundleDiagnostic) : Bool :=
  diagnostic.blocks .analysis || diagnostic.code = .alignmentAnnotationMismatch ||
    diagnostic.isNonFiniteSnr

/-- `observation_diagnostic_excludes`. -/
def excludesObservation (diagnostic : BundleDiagnostic) : Bool :=
  (match diagnostic.code with
    | .duplicateId | .unknownObservationSlot | .invalidSlotConfidence
    | .alignmentAnnotationMismatch | .sessionIdMismatch | .unsupportedSchemaVersion => true
    | _ => false) || diagnostic.isNonFiniteSnr

def isFatalForAnalysis (diagnostic : BundleDiagnostic) : Bool :=
  if !diagnostic.blocks .analysis then false
  else match diagnostic.code with
  | .duplicateAntennaLabel | .v2CheckpointMismatch | .v2AdapterLink | .v2Attachment
  | .v2Mutation | .v2LifecycleMismatch => true
  | _ =>
    match diagnostic.category with
    | .wire => diagnostic.location.recordKind.isNone
    | .structural =>
      match diagnostic.location.recordKind with
      | some .observation | some .slot | some .operatorEvent | some .wsjtXRecord
      | some .rigRecord | some .propagationRecord => false
      | _ => true
    | _ => false

end BundleDiagnostic

def eligibilityScope (location : BundleDiagnosticLocation) : EligibilityScope :=
  match location.recordKind with
  | some .observation => .observation
  | some .slot => .slot
  | _ => .field

def eligibilityCategory : DiagnosticCode → EligibilityExclusionCategory
  | .duplicateMember | .duplicateRawMember | .duplicateId | .duplicateAntennaLabel
  | .duplicateSequenceNumber => .duplicate
  | .unknownAntennaLabel | .unknownEventSlot | .unknownObservationSlot | .emptyIdentity
  | .emptySchedule => .missing
  | .unsupportedSchemaVersion | .experimentShapeMismatch => .unsupported
  | .sessionIdMismatch | .slotWindowOutOfOrder | .slotWindowOverlap | .slotSequenceOutOfOrder
  | .alignmentAnnotationMismatch | .v2CheckpointMismatch | .v2AdapterLink | .v2Attachment
  | .v2Mutation | .v2EventConflict | .v2LifecycleMismatch => .contradictory
  | .invalidJson | .invalidSlotConfidence | .invalidIdentity | .invalidRequiredText
  | .invalidAntennaLabel | .invalidSlotDuration | .invalidSlotGuard | .nonFiniteNumber
  | .invalidRange | .v2EventSemantics => .malformed
  | _ => .unsupported

def observationReason : EligibilityExclusionCategory → ObservationExclusionReason
  | .missing => .missingEvidence
  | .malformed => .malformedEvidence
  | .contradictory => .contradictoryEvidence
  | .unsupported => .unsupportedEvidence
  | .duplicate => .duplicateEvidence
  | .deliberatelyExcluded => .contradictoryEvidence

def observationReasonRank : ObservationExclusionReason → ℕ
  | .duplicateEvidence => 5
  | .unsupportedEvidence => 4
  | .contradictoryEvidence => 3
  | .malformedEvidence => 2
  | .missingEvidence => 1
  | _ => 0

/-- The entry of an observation after one more reason. -/
def strongerReason (existing : Option ObservationExclusionReason)
    (reason : ObservationExclusionReason) : Option ObservationExclusionReason :=
  match existing with
  | none => some reason
  | some existing =>
    some (if observationReasonRank existing < observationReasonRank reason then reason
      else existing)

/-- The index of a location of one kind of record. -/
def BundleDiagnosticLocation.index? (kind : BundleRecordKind)
    (location : BundleDiagnosticLocation) : Option ℕ :=
  if location.recordKind = some kind then location.recordIndex else none

namespace BundleDiagnostic

/-- The observations the diagnostic keeps out, with the reason. -/
def observationExclusions (diagnostic : BundleDiagnostic) :
    List (ℕ × ObservationExclusionReason) :=
  if diagnostic.excludesObservation then
    (diagnostic.locations.filterMap (·.index? .observation)).map fun index =>
      (index, observationReason (eligibilityCategory diagnostic.code))
  else []

def slotExclusions (diagnostic : BundleDiagnostic) : List ℕ :=
  diagnostic.locations.filterMap (·.index? .slot)

def eventExclusions (diagnostic : BundleDiagnostic) : List ℕ :=
  if diagnostic.code = .v2EventConflict then []
  else diagnostic.locations.filterMap (·.index? .operatorEvent)

/-- What the eligibility counts of a diagnostic. -/
def exclusion (diagnostic : BundleDiagnostic) :
    DiagnosticCode × EligibilityExclusionCategory × EligibilityScope :=
  (diagnostic.code, eligibilityCategory diagnostic.code, eligibilityScope diagnostic.location)

end BundleDiagnostic

/-- The order of `(code, category, scope)`. -/
def exclusionKey (entry : DiagnosticCode × EligibilityExclusionCategory × EligibilityScope) :
    String ×ₗ ℕ ×ₗ ℕ :=
  toLex (entry.1.text, toLex (entry.2.1.ctorIdx, entry.2.2.ctorIdx))

structure EligibilityPlan where
  excludedObservations : List (ℕ × ObservationExclusionReason)
  excludedSlots : List ℕ
  excludedEvents : List ℕ
  eligibility : List EligibilityExclusionCount
  deriving DecidableEq

namespace EligibilityPlan

def fromReport (report : BundleValidationReport) : EligibilityPlan :=
  let read := report.filter (·.excludes)
  { excludedObservations :=
      (groups (read.flatMap (·.observationExclusions))).filterMap fun (index, reasons) =>
        (reasons.foldl strongerReason none).map (index, ·)
    excludedSlots := (read.flatMap (·.slotExclusions)).dedup
    excludedEvents := (read.flatMap (·.eventExclusions)).dedup
    eligibility := (tally exclusionKey (read.map (·.exclusion))).map
      fun ((code, category, scope), count) => ⟨code, category, scope, count⟩ }

def reason? (plan : EligibilityPlan) (index : ℕ) : Option ObservationExclusionReason :=
  plan.excludedObservations.lookup index

def entries (plan : EligibilityPlan) : ℕ :=
  plan.excludedObservations.length + plan.excludedSlots.length + plan.excludedEvents.length +
    plan.eligibility.length

end EligibilityPlan

inductive ObservationDisposition where
  | usable
  | excluded (reason : ObservationExclusionReason)
  deriving DecidableEq

structure ClassifiedObservation where
  observation : ObservationRecord
  assignment : ObservationSlotAssignment
  disposition : ObservationDisposition

/-- `MINIMUM_USABLE_CONFIDENCE`. -/
def minimumUsableConfidence : IeeeFloat := confidence70

/-- `classify_assignment`; nothing stands for its `unreachable!`. -/
def classifyAssignment (assignment : ObservationSlotAssignment) : Option ObservationDisposition :=
  match assignment.reason with
  | .interior | .lateSwitch =>
    if assignment.slotId.isSome && assignment.slotLabel.isSome &&
        minimumUsableConfidence.le assignment.confidence then some .usable
    else none
  | .guardTime => some (.excluded .guardTime)
  | .nearBoundary => some (.excluded .nearBoundary)
  | .beforeObservedSwitch => some (.excluded .beforeObservedSwitch)
  | .missedSlot => some (.excluded .missedSlot)
  | .badSlot => some (.excluded .badSlot)
  | .unknownActualState => some (.excluded .missingEvidence)
  | .conflictingEvidence => some (.excluded .contradictoryEvidence)
  | .bandMismatch => some (.excluded .bandMismatch)
  | .outsideSchedule => some (.excluded .outsideSchedule)

/-- The disposition of the observation at `index`. -/
def EligibilityPlan.disposition (plan : EligibilityPlan) (index : ℕ)
    (assignment : ObservationSlotAssignment) : Option ObservationDisposition :=
  match plan.reason? index with
  | some reason => some (.excluded reason)
  | none => classifyAssignment assignment

/-- A diagnostic of `sanitize_analysis_fields` about this field of the observation. -/
def clearsField (report : BundleValidationReport) (index : ℕ) (field : String) : Bool :=
  report.any fun diagnostic =>
    diagnostic.location.index? .observation = some index &&
      diagnostic.location.fieldPath = some field

def sanitizeObservation (report : BundleValidationReport) (index : ℕ)
    (observation : ObservationRecord) : ObservationRecord :=
  let keep {α : Type} (field : String) (value : Option α) : Option α :=
    if clearsField report index field then none else value
  { observation with
    distanceKm := keep "/distance_km" observation.distanceKm
    azimuthDegrees := keep "/azimuth_degrees" observation.azimuthDegrees
    powerWatts := keep "/power_watts" observation.powerWatts
    frequencyHz := keep "/frequency_hz" observation.frequencyHz
    driftHzPerMinute := keep "/drift_hz_per_minute" observation.driftHzPerMinute }

/-- The bundle the analysis works on. -/
def analysisBundle (bundle : BundleContents) (report : BundleValidationReport) : BundleContents :=
  let plan := EligibilityPlan.fromReport report
  { bundle with
    schedule := analysisSchedule bundle plan.excludedSlots
    events := analysisEvents bundle plan.excludedSlots plan.excludedEvents
    observations := bundle.observations.zipIdx.map fun (observation, index) =>
      sanitizeObservation report index observation }

def analysisAlignment (bundle : BundleContents) (report : BundleValidationReport) :
    ScheduleSlotAlignment :=
  let analysed := analysisBundle bundle report
  alignScheduleSlots analysed.schedule analysed.events analysed.observations .default

/-- The observations with their dispositions, unless a panic ends the analysis. -/
def classifyObservations (bundle : BundleContents) (report : BundleValidationReport) :
    Option (List ClassifiedObservation) :=
  let plan := EligibilityPlan.fromReport report
  let alignment := analysisAlignment bundle report
  (((analysisBundle bundle report).observations.zip alignment.observationAssignments).zipIdx).mapM
    fun ((observation, assignment), index) =>
      (plan.disposition index assignment).map (⟨observation, assignment, ·⟩)

end AntennaBench
