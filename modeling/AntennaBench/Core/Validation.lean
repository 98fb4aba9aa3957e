import AntennaBench.Core.Alignment
import AntennaBench.Core.Semantics

/-!
# Bundle validation

`validate_bundle_report`: the issues of a schema-v1 or schema-v2 bundle and the
diagnostics made of them. An issue carries the identity of its record; its diagnostic
is placed at the first record of that identity.
-/

namespace AntennaBench

open Timeline

variable (F : TextFormat)

inductive BundleIdKind where
  | slot
  | operatorEvent
  | observation
  | wsjtXRecord
  | rigRecord
  | propagationRecord
  deriving DecidableEq

inductive AlignmentAnnotationField where
  | slotId
  | slotLabel
  | slotConfidence
  deriving DecidableEq

inductive BundleValidationIssue where
  | unexpectedSchemaVersion (file : BundleFileRole) (recordId : Option String)
      (expected actual : ℕ)
  | sessionIdMismatch (file : BundleFileRole) (recordId : Option String)
      (expected actual : String)
  | duplicateId (kind : BundleIdKind) (id : String)
  | unknownAntennaLabel (slotId antennaLabel : String)
  | slotWindowOutOfOrder (previousSlotId slotId : String)
  | slotWindowOverlap (previousSlotId : String) (previousEndsAt : DateTime) (slotId : String)
      (startsAt : DateTime)
  | unknownEventSlot (eventId slotId : String)
  | unknownObservationSlot (observationId slotId : String)
  | invalidSlotConfidence (observationId : String) (slotConfidence : IeeeFloat)
  | alignmentAnnotationMismatch (observationId : String) (field : AlignmentAnnotationField)
      (expected actual : String)

def latestSchemaVersion : ℕ := 6

def validateSchemaAndSession (file : BundleFileRole) (recordId : Option String)
    (actualSchemaVersion expectedSchemaVersion : ℕ) (actualSessionId expectedSessionId : String) :
    List BundleValidationIssue :=
  (if actualSchemaVersion ≠ expectedSchemaVersion then
      [.unexpectedSchemaVersion file recordId expectedSchemaVersion actualSchemaVersion]
    else []) ++
  if actualSessionId ≠ expectedSessionId then
    [.sessionIdMismatch file recordId expectedSessionId actualSessionId]
  else []

/-- `validate_root_schema_and_session` on the five root documents. -/
def validateRoots (bundle : BundleContents) : List BundleValidationIssue :=
  [(BundleFileRole.manifest, bundle.manifest.schemaVersion, bundle.manifest.sessionId),
    (.station, bundle.station.schemaVersion, bundle.station.sessionId),
    (.antennas, bundle.antennas.schemaVersion, bundle.antennas.sessionId),
    (.schedule, bundle.schedule.schemaVersion, bundle.schedule.sessionId),
    (.analysis, bundle.analysis.schemaVersion, bundle.analysis.sessionId)].flatMap
    fun (file, schemaVersion, sessionId) =>
      validateSchemaAndSession file none schemaVersion bundle.manifest.schemaVersion sessionId
        bundle.manifest.sessionId

def validateRecordMeta (bundle : BundleContents) (stream : RecordStream) :
    List BundleValidationIssue :=
  stream.records.flatMap fun (id, recordMeta) =>
    validateSchemaAndSession stream.file (some id) recordMeta.schemaVersion
      bundle.manifest.schemaVersion recordMeta.sessionId bundle.manifest.sessionId

namespace BundleContents

/-- The identities of one kind, in file order. -/
def ids (bundle : BundleContents) : BundleIdKind → List String
  | .slot => bundle.schedule.slots.map (·.slotId)
  | .operatorEvent => bundle.events.map (·.eventId)
  | .observation => bundle.observations.map (·.observationId)
  | .wsjtXRecord => bundle.wsjtx.map (·.recordId)
  | .rigRecord => bundle.rig.map (·.recordId)
  | .propagationRecord => bundle.propagation.map (·.recordId)

end BundleContents

def validateDuplicates (bundle : BundleContents) (kind : BundleIdKind) :
    List BundleValidationIssue :=
  (repeats [] (bundle.ids kind)).map (.duplicateId kind)

def slotEndsAt (slot : PlannedSlot) : DateTime := slot.startsAt + seconds slot.durationSeconds

/-- What one slot violates against the slot before it. -/
def slotWindowIssues (previous slot : PlannedSlot) : List BundleValidationIssue :=
  (if slot.startsAt ≤ previous.startsAt then
      [.slotWindowOutOfOrder previous.slotId slot.slotId]
    else []) ++
  if slot.startsAt < slotEndsAt previous ∧ previous.startsAt < slotEndsAt slot then
    [.slotWindowOverlap previous.slotId (slotEndsAt previous) slot.slotId slot.startsAt]
  else []

def validateScheduleReferencesAndWindows (bundle : BundleContents) :
    List BundleValidationIssue :=
  let slots := bundle.schedule.slots
  let antennaLabels := bundle.antennas.antennas.map (·.label)
  slots.zipIdx.flatMap fun (slot, index) =>
    (if antennaLabels.contains slot.antennaLabel then []
      else [.unknownAntennaLabel slot.slotId slot.antennaLabel]) ++
    (previousSlot slots index).toList.flatMap fun previous => slotWindowIssues previous slot

def validateEventAndObservationReferences (bundle : BundleContents) :
    List BundleValidationIssue :=
  let slotIds := bundle.schedule.slots.map (·.slotId)
  (bundle.events.flatMap fun event => event.slotId.toList.flatMap fun slotId =>
    if slotIds.contains slotId then [] else [.unknownEventSlot event.eventId slotId]) ++
  bundle.observations.flatMap fun observation => observation.slotId.toList.flatMap fun slotId =>
    if slotIds.contains slotId then []
    else [.unknownObservationSlot observation.observationId slotId]

def validateSlotConfidenceRanges (bundle : BundleContents) : List BundleValidationIssue :=
  bundle.observations.flatMap fun observation =>
    observation.slotConfidence.toList.flatMap fun slotConfidence =>
      if IeeeFloat.zero.le slotConfidence && slotConfidence.le (.finite 1) then []
      else [.invalidSlotConfidence observation.observationId slotConfidence]

/-- The nearest `f32` to 0.000001. -/
def slotConfidenceTolerance : IeeeFloat := .finite (8796093 / 2 ^ 43)

def slotConfidenceMatches : Option IeeeFloat → Option IeeeFloat → Bool
  | some actual, some expected => (actual.sub .f32 expected).abs.le slotConfidenceTolerance
  | none, none => true
  | _, _ => false

/-- The annotations of one observation that differ from its assignment. -/
def annotationIssues (observation : ObservationRecord) (assignment : ObservationSlotAssignment) :
    List BundleValidationIssue :=
  let mismatch := BundleValidationIssue.alignmentAnnotationMismatch observation.observationId
  (if observation.slotId ≠ assignment.slotId then
      [mismatch .slotId (debugOption F.debugText assignment.slotId)
        (debugOption F.debugText observation.slotId)]
    else []) ++
  (if observation.slotLabel ≠ assignment.slotLabel then
      [mismatch .slotLabel (debugOption F.debugText assignment.slotLabel)
        (debugOption F.debugText observation.slotLabel)]
    else []) ++
  if slotConfidenceMatches observation.slotConfidence (some assignment.confidence) then []
  else
    [mismatch .slotConfidence (debugOption F.debugF32 (some assignment.confidence))
      (debugOption F.debugF32 observation.slotConfidence)]

def validateAlignmentAnnotations (bundle : BundleContents) : List BundleValidationIssue :=
  let alignment := alignScheduleSlots bundle.schedule bundle.events bundle.observations .default
  (bundle.observations.zip alignment.observationAssignments).flatMap
    fun (observation, assignment) => annotationIssues F observation assignment

def validateBundleIssues (bundle : BundleContents) : List BundleValidationIssue :=
  let schemaVersion := bundle.manifest.schemaVersion
  (if schemaVersion = 1 ∨ schemaVersion = 2 then []
    else [.unexpectedSchemaVersion .manifest none latestSchemaVersion schemaVersion]) ++
  validateRoots bundle ++
  bundle.recordStreams.flatMap (validateRecordMeta bundle) ++
  [BundleIdKind.slot, .operatorEvent, .observation, .wsjtXRecord, .rigRecord,
    .propagationRecord].flatMap (validateDuplicates bundle) ++
  validateScheduleReferencesAndWindows bundle ++
  validateEventAndObservationReferences bundle ++
  validateSlotConfidenceRanges bundle ++
  validateAlignmentAnnotations F bundle

namespace BundleIdKind

def file : BundleIdKind → BundleFileRole
  | slot => .schedule
  | operatorEvent => .events
  | observation => .observations
  | wsjtXRecord => .wsjtX
  | rigRecord => .rig
  | propagationRecord => .propagation

def recordKind : BundleIdKind → BundleRecordKind
  | slot => .slot
  | operatorEvent => .operatorEvent
  | observation => .observation
  | wsjtXRecord => .wsjtXRecord
  | rigRecord => .rigRecord
  | propagationRecord => .propagationRecord

def fieldName : BundleIdKind → String
  | slot => "slot_id"
  | operatorEvent => "event_id"
  | observation => "observation_id"
  | _ => "record_id"

/-- The name `{:?}` prints. -/
def debugName : BundleIdKind → String
  | slot => "Slot"
  | operatorEvent => "OperatorEvent"
  | observation => "Observation"
  | wsjtXRecord => "WsjtXRecord"
  | rigRecord => "RigRecord"
  | propagationRecord => "PropagationRecord"

/-- The kind of the records of a streamed file. -/
def ofFile : BundleFileRole → Option BundleIdKind
  | .events => some operatorEvent
  | .observations => some observation
  | .wsjtX => some wsjtXRecord
  | .rig => some rigRecord
  | .propagation => some propagationRecord
  | _ => none

end BundleIdKind

/-- `record_location`: the first record of the file with that identity. -/
def firstRecordLocation (bundle : BundleContents) (file : BundleFileRole)
    (recordId : Option String) (fieldPath : String) : BundleDiagnosticLocation where
  file := file
  recordKind := recordId.bind fun _ => (BundleIdKind.ofFile file).map (·.recordKind)
  recordId := recordId
  recordIndex := recordId.bind fun value => (BundleIdKind.ofFile file).bind fun kind =>
    firstPlace (fun other => other) value (bundle.ids kind)
  fieldPath := some fieldPath

def slotLocation (bundle : BundleContents) (slotId fieldPath : String) :
    BundleDiagnosticLocation :=
  let recordIndex := firstPlace (fun other => other) slotId (bundle.ids .slot)
  recordLocation .schedule (some .slot) (some slotId) recordIndex
    (some (match recordIndex with
      | none => "/" ++ fieldPath
      | some index => itemPath "slots" index fieldPath))

/-- The copy of a repeated identity at a place, as `duplicate_id_locations` names it. -/
def copyLocation (kind : BundleIdKind) (value : String) (index : Option ℕ) :
    BundleDiagnosticLocation :=
  recordLocation kind.file (some kind.recordKind) (some value) index
    (some (match kind, index with
      | .slot, some index => itemPath "slots" index kind.fieldName
      | _, _ => "/" ++ kind.fieldName))

/-- The second place of the identity, and the first as the related one. -/
def duplicateIdLocations (bundle : BundleContents) (kind : BundleIdKind) (value : String) :
    BundleDiagnosticLocation × List BundleDiagnosticLocation :=
  let indices := places (fun other => other) value (bundle.ids kind)
  (copyLocation kind value indices[1]?,
    indices[0]?.toList.map fun index => copyLocation kind value (some index))

def AlignmentAnnotationField.path : AlignmentAnnotationField → String
  | slotId => "/slot_id"
  | slotLabel => "/slot_label"
  | slotConfidence => "/slot_confidence"

/-- The path of a field of a root document, or of the metadata of a record. -/
def metaFieldPath (recordId : Option String) (field : String) : String :=
  if recordId.isSome then "/meta/" ++ field else "/" ++ field

/-- An error that blocks every typed operation. -/
def blockingDiagnostic (code : DiagnosticCode) (category : BundleDiagnosticCategory)
    (location : BundleDiagnosticLocation) (message : String)
    (relatedLocations : List BundleDiagnosticLocation) : BundleDiagnostic where
  code := code
  category := category
  severity := .error
  blockedOperations := allTypedOperations
  location := location
  message := message
  relatedLocations := relatedLocations

def diagnosticFromIssue (bundle : BundleContents) : BundleValidationIssue → BundleDiagnostic
  | .unexpectedSchemaVersion file recordId expected actual =>
    blockingDiagnostic .unsupportedSchemaVersion .wire
      (firstRecordLocation bundle file recordId (metaFieldPath recordId "schema_version"))
      ("schema version " ++ toString actual ++ " is not supported; expected " ++
        toString expected) []
  | .sessionIdMismatch file recordId expected actual =>
    blockingDiagnostic .sessionIdMismatch .structural
      (firstRecordLocation bundle file recordId (metaFieldPath recordId "session_id"))
      ("session ID " ++ F.debugText actual ++ " does not match manifest ID " ++
        F.debugText expected)
      [{ file := .manifest, fieldPath := some "/session_id" }]
  | .duplicateId kind value =>
    let (location, relatedLocations) := duplicateIdLocations bundle kind value
    blockingDiagnostic .duplicateId .structural location
      ("durable " ++ kind.debugName ++ " ID " ++ F.debugText value ++ " is duplicated")
      relatedLocations
  | .unknownAntennaLabel slotId antennaLabel =>
    blockingDiagnostic .unknownAntennaLabel .structural
      (slotLocation bundle slotId "antenna_label")
      ("slot " ++ F.debugText slotId ++ " references unknown antenna label " ++
        F.debugText antennaLabel) []
  | .slotWindowOutOfOrder previousSlotId slotId =>
    blockingDiagnostic .slotWindowOutOfOrder .structural (slotLocation bundle slotId "starts_at")
      ("slot " ++ F.debugText slotId ++ " does not start strictly after preceding slot " ++
        F.debugText previousSlotId)
      [slotLocation bundle previousSlotId "starts_at"]
  | .slotWindowOverlap previousSlotId previousEndsAt slotId startsAt =>
    blockingDiagnostic .slotWindowOverlap .structural (slotLocation bundle slotId "starts_at")
      ("slot " ++ F.debugText slotId ++ " starts at " ++ F.displayDateTime startsAt ++
        " before slot " ++ F.debugText previousSlotId ++ " ends at " ++
        F.displayDateTime previousEndsAt)
      [slotLocation bundle previousSlotId "duration_seconds"]
  | .unknownEventSlot eventId slotId =>
    blockingDiagnostic .unknownEventSlot .structural
      (firstRecordLocation bundle .events (some eventId) "/slot_id")
      ("event " ++ F.debugText eventId ++ " references unknown slot " ++ F.debugText slotId) []
  | .unknownObservationSlot observationId slotId =>
    blockingDiagnostic .unknownObservationSlot .structural
      (firstRecordLocation bundle .observations (some observationId) "/slot_id")
      ("observation " ++ F.debugText observationId ++ " references unknown slot " ++
        F.debugText slotId) []
  | .invalidSlotConfidence observationId slotConfidence =>
    { code := .invalidSlotConfidence
      category := .semantic
      severity := .error
      blockedOperations := analysisAndWriteOperations
      location := firstRecordLocation bundle .observations (some observationId) "/slot_confidence"
      message := "observation " ++ F.debugText observationId ++ " has slot confidence " ++
        F.displayF32 slotConfidence ++ ", outside [0, 1]" }
  | .alignmentAnnotationMismatch observationId field expected actual =>
    { code := .alignmentAnnotationMismatch
      category := .semantic
      severity := .warning
      blockedOperations := [.strictCreation]
      location := firstRecordLocation bundle .observations (some observationId) field.path
      message := "persisted alignment annotation for observation " ++ F.debugText observationId ++
        " is " ++ actual ++ "; regenerated value is " ++ expected }

def issueDiagnostics (bundle : BundleContents) : List BundleDiagnostic :=
  (validateBundleIssues F bundle).map (diagnosticFromIssue F bundle)

/-- `validate_bundle_report`. -/
def validateBundleReport (bundle : BundleContents) : BundleValidationReport :=
  BundleValidationReport.extend (BundleValidationReport.sorted (issueDiagnostics F bundle))
    (semanticDiagnostics F bundle)

end AntennaBench
