import AntennaBench.Analysis.Blocks
import AntennaBench.Core.Validation

/-!
# Inspection reports

The report that goes with a stored bundle: what the validators say of its projection
and, for a v2 bundle, what `validate_v2_event_model` says of the events as they are
stored. The latter places its diagnostics in the stored events.
-/

namespace AntennaBench

open Timeline

variable (F : TextFormat)

/-- What an inspection reports of a document or of a record without telling the index of
a slot, an event or an observation: the warnings of `inspect_document`, `v2_diagnostic`,
and the identity warning on an adapter record. -/
inductive StoreFinding where
  | duplicateRawMember (location : BundleDiagnosticLocation)
  | unknownField (location : BundleDiagnosticLocation)
  | v2 (code : DiagnosticCode) (file : BundleFileRole) (recordId : Option String)
      (physicalLine : Option ℕ) (fieldPath : Option String) (message : String)
  | adapterIdentity (recordId : String) (error : MachineIdentityError)

def StoreFinding.diagnostic : StoreFinding → BundleDiagnostic
  | duplicateRawMember location =>
    { code := .duplicateRawMember
      category := .wire
      severity := .warning
      blockedOperations := writeOperations
      location := location
      message := "duplicate member in legacy raw source evidence is preserved but not interpreted" }
  | unknownField location =>
    { code := .unknownField
      category := .wire
      severity := .warning
      blockedOperations := writeOperations
      location := location
      message := "unknown field is excluded from normalized meaning and retained only in " ++
        "original bytes" }
  | v2 code file recordId physicalLine fieldPath message =>
    { code := code
      category := .structural
      severity := .error
      blockedOperations := allTypedOperations
      location := {
        file := file
        recordKind := if file = .adapterRecords then some .adapterRecord else none
        recordId := recordId
        physicalLine := physicalLine
        fieldPath := fieldPath }
      message := message }
  | adapterIdentity recordId error =>
    { code := if recordId.isEmpty then .emptyIdentity else .invalidIdentity
      category := .semantic
      severity := .warning
      blockedOperations := writeOperations
      location := {
        file := .adapterRecords
        recordKind := some .adapterRecord
        recordId := some recordId
        fieldPath := some "/record_id" }
      message := "adapter record identity is invalid: " ++ error.text }

/-- The stored event of an identity, as the event model places it. -/
def storedEventLocation (events : List OperatorEventV2) (eventId : String)
    (fieldPath : Option String) : BundleDiagnosticLocation where
  file := .events
  recordKind := some .operatorEvent
  recordId := some eventId
  recordIndex := firstPlace (·.eventId) eventId events
  fieldPath := fieldPath

def eventSemanticsDiagnostic (events : List OperatorEventV2)
    (diagnostic : OperatorEventDiagnosticV2) : BundleDiagnostic where
  code := .v2EventSemantics
  category := .semantic
  severity := .error
  blockedOperations := writeOperations
  location := storedEventLocation events diagnostic.eventId none
  message := diagnostic.message
  relatedLocations := diagnostic.relatedEventId.toList.map fun eventId =>
    storedEventLocation events eventId none

def lifecycleMismatchDiagnostic (stored reduced : SessionLifecycleV2) : BundleDiagnostic where
  code := .v2LifecycleMismatch
  category := .structural
  severity := .error
  blockedOperations := allTypedOperations
  location := { file := .sessionState }
  message := "checkpoint lifecycle " ++ stored.debugName ++
    " does not match append-ordered event lifecycle " ++ reduced.debugName

def undefinedLabelDiagnostic (events : List OperatorEventV2) (sourceEventId antennaLabel : String) :
    BundleDiagnostic where
  code := .unknownAntennaLabel
  category := .structural
  severity := .error
  blockedOperations := analysisAndWriteOperations
  location := storedEventLocation events sourceEventId (some "/payload/antenna_label")
  message := "actual antenna label " ++ F.debugText antennaLabel ++
    " is not defined by antennas.json"

def eventConflictDiagnostic (events : List OperatorEventV2) (slotId : String)
    (eventIds : List String) : BundleDiagnostic where
  code := .v2EventConflict
  category := .eligibility
  severity := .warning
  blockedOperations := [.analysis]
  location := { file := .events, fieldPath := some ("/slot/" ++ slotId) }
  message := "slot " ++ F.debugText slotId ++
    " has competing active operator facts and is conservatively excluded"
  relatedLocations := eventIds.map fun eventId => storedEventLocation events eventId none

namespace EffectiveOperatorEventV2

/-- The label an effective fact confirms although the antennas do not define it. -/
def undefinedLabel? (antennas : AntennasFile) (event : EffectiveOperatorEventV2) :
    Option String :=
  match event.payload with
  | .antennaStateConfirmed antennaLabel _ =>
    if (antennas.antennas.map (·.label)).contains antennaLabel then none else some antennaLabel
  | _ => none

/-- The slot an effective fact is about. -/
def slotFact? (event : EffectiveOperatorEventV2) : Option (String × String) :=
  match event.payload with
  | .noteAdded _ => none
  | _ => event.slotId.map fun slotId => (slotId, event.sourceEventId)

end EffectiveOperatorEventV2

def BundleV2Contents.effectiveEvents (bundle : BundleV2Contents) :
    List EffectiveOperatorEventV2 :=
  (reduceOperatorEventsV2 .ready bundle.events).effectiveEvents

/-- `validate_v2_event_model`. -/
def validateV2EventModel (bundle : BundleV2Contents) : List BundleDiagnostic :=
  let reduction := reduceOperatorEventsV2 .ready bundle.events
  reduction.diagnostics.map (eventSemanticsDiagnostic bundle.events) ++
  (if reduction.lifecycle ≠ bundle.sessionState.lifecycle then
      [lifecycleMismatchDiagnostic bundle.sessionState.lifecycle reduction.lifecycle]
    else []) ++
  (bundle.effectiveEvents.filterMap fun event =>
    (event.undefinedLabel? bundle.antennas).map
      (undefinedLabelDiagnostic F bundle.events event.sourceEventId)) ++
  ((groups (bundle.effectiveEvents.filterMap (·.slotFact?))).filter fun (_, eventIds) =>
      2 ≤ eventIds.length).map fun (slotId, eventIds) =>
    eventConflictDiagnostic F bundle.events slotId eventIds

/-- The codes an intent schedule cannot be held to in its projection. -/
def intentNativeException (code : DiagnosticCode) : Bool :=
  code = .emptySchedule || code = .experimentShapeMismatch || code = .unknownEventSlot

namespace StoredBundle

/-- The diagnostics placed in the stored events. -/
def storedEventDiagnostics : StoredBundle → List BundleDiagnostic
  | v2 bundle => validateV2EventModel F bundle
  | _ => []

/-- The diagnostics placed in the projection. -/
def projectionDiagnostics (bundle : StoredBundle) : List BundleDiagnostic :=
  match bundle with
  | v3 stored =>
    (validateBundleReport F bundle.current).filter fun diagnostic =>
      stored.schedule.wsprCycleIntents.isEmpty || !intentNativeException diagnostic.code
  | _ => validateBundleReport F bundle.current

/-- The report of `inspect`. -/
def report (bundle : StoredBundle) (found : List StoreFinding) : BundleValidationReport :=
  ((BundleValidationReport.sorted (found.map (·.diagnostic))).extend
    (bundle.storedEventDiagnostics F)).extend (bundle.projectionDiagnostics F)

end StoredBundle

end AntennaBench
