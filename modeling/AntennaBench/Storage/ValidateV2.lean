import AntennaBench.Storage.Inspection

/-!
# Reading a schema-v2 bundle

What `validate_v2_bundle` says of a loaded bundle and whether `read_v2` hands it out.
The members that are duplicated in the text, the attachments that cannot be verified and
the heads and digests that do not match the files are what the store finds on disk; they
are given to the validation as a list.
-/

namespace AntennaBench

def BundleFileRole.debugName : BundleFileRole → String
  | manifest => "Manifest"
  | sessionState => "SessionState"
  | station => "Station"
  | antennas => "Antennas"
  | schedule => "Schedule"
  | events => "Events"
  | observations => "Observations"
  | adapterRecords => "AdapterRecords"
  | wsjtX => "WsjtX"
  | rig => "Rig"
  | propagation => "Propagation"
  | analysis => "Analysis"

/-- `v2_diagnostic`, which names no line and no field. -/
def v2Diagnostic (code : DiagnosticCode) (file : BundleFileRole) (recordId : Option String)
    (message : String) : BundleDiagnostic :=
  (StoreFinding.v2 code file recordId none none message).diagnostic

namespace BundleV2Contents

def documents (bundle : BundleV2Contents) : List (BundleFileRole × ℕ × String) :=
  [(.manifest, bundle.manifest.schemaVersion, bundle.manifest.sessionId),
    (.sessionState, bundle.sessionState.schemaVersion, bundle.sessionState.sessionId),
    (.station, bundle.station.schemaVersion, bundle.station.sessionId),
    (.antennas, bundle.antennas.schemaVersion, bundle.antennas.sessionId),
    (.schedule, bundle.schedule.schemaVersion, bundle.schedule.sessionId),
    (.analysis, bundle.analysis.schemaVersion, bundle.analysis.sessionId)]

def normalizedIds (bundle : BundleV2Contents) : NormalizedRecordKind → List String
  | .observation => bundle.observations.map (·.observationId)
  | .rig => bundle.rig.map (·.recordId)
  | .propagation => bundle.propagation.map (·.recordId)

end BundleV2Contents

def validateDocument (sessionId : String) (document : BundleFileRole × ℕ × String) :
    List BundleDiagnostic :=
  if document.2.1 ≠ schemaVersionV2 ∨ document.2.2 ≠ sessionId then
    [v2Diagnostic .v2CheckpointMismatch document.1 none
      ("schema/session identity does not match v2 manifest for " ++ document.1.debugName)]
  else []

def validateMeta (sessionId : String) (file : BundleFileRole) (recordId : String)
    (recordMeta : RecordMetaV2) : List BundleDiagnostic :=
  (if recordMeta.schemaVersion ≠ schemaVersionV2 ∨ recordMeta.sessionId ≠ sessionId then
      [v2Diagnostic .v2Mutation file recordId
        "record schema/session identity does not match v2 manifest"]
    else []) ++
  (if recordMeta.mutation.mutationId = "" ∨ recordMeta.mutation.memberCount = 0 ∨
      recordMeta.mutation.memberCount ≤ recordMeta.mutation.memberIndex then
      [v2Diagnostic .v2Mutation file recordId
        "mutation member requires a nonempty ID and index less than member count"]
    else [])

def validateBacklinks (adapterIds : List String) (file : BundleFileRole) (recordId : String)
    (links : List String) : List BundleDiagnostic :=
  if links.isEmpty || links.any (!adapterIds.contains ·) then
    [v2Diagnostic .v2AdapterLink file recordId
      "adapter-produced normalized record must link to existing adapter evidence"]
  else []

def validateReciprocalLink (adapters : List AdapterRecordV2) (kind : NormalizedRecordKind)
    (file : BundleFileRole) (recordId : String) (links : List String) : List BundleDiagnostic :=
  if adapters.any fun adapter => links.contains adapter.recordId &&
      adapter.normalizedRecords.any fun link =>
        link.recordKind == kind && link.recordId == recordId then []
  else [v2Diagnostic .v2AdapterLink file recordId
    "normalized record and adapter evidence must link to each other"]

/-- An adapter record after the ones before it. -/
def validateAdapterRecord (sessionId : String) (earlier : List String) (record : AdapterRecordV2) :
    List BundleDiagnostic :=
  ((machineIdentityError? record.recordId).toList.map fun error =>
    (StoreFinding.adapterIdentity record.recordId error).diagnostic) ++
  (if earlier.contains record.recordId then
      [v2Diagnostic .v2AdapterLink .adapterRecords record.recordId
        "adapter record ID is duplicated"]
    else []) ++
  validateMeta sessionId .adapterRecords record.recordId record.recordMeta ++
  match record.input with
  | .inline .. => []
  | .attachment attachment =>
    if hasValidDigest attachment.sha256 then []
    else [v2Diagnostic .v2Attachment .adapterRecords record.recordId
      "attachment reference has an invalid SHA-256 digest"]

def validateAdapterRecords (sessionId : String) :
    List String → List AdapterRecordV2 → List BundleDiagnostic
  | _, [] => []
  | earlier, record :: records =>
    validateAdapterRecord sessionId earlier record ++
      validateAdapterRecords sessionId (record.recordId :: earlier) records

variable (F : TextFormat)

def validateForwardLinks (bundle : BundleV2Contents) (adapter : AdapterRecordV2) :
    List BundleDiagnostic :=
  (adapter.normalizedRecords.filter fun link =>
    !(bundle.normalizedIds link.recordKind).contains link.recordId).map fun link =>
      v2Diagnostic .v2AdapterLink .adapterRecords adapter.recordId
        ("normalized record link " ++ F.debugText link.recordId ++ " does not resolve")

/-- The checks on one normalized record. -/
def validateNormalized (bundle : BundleV2Contents) (kind : NormalizedRecordKind)
    (file : BundleFileRole) (recordId : String) (recordMeta : RecordMetaV2)
    (links : List String) : List BundleDiagnostic :=
  validateMeta bundle.manifest.sessionId file recordId recordMeta ++
  validateBacklinks (bundle.adapterRecords.map (·.recordId)) file recordId links ++
  validateReciprocalLink bundle.adapterRecords kind file recordId links

def validateStoredEvents (bundle : BundleV2Contents) : List BundleDiagnostic :=
  bundle.events.flatMap fun event =>
    validateMeta bundle.manifest.sessionId .events event.eventId event.recordMeta

/-- `validate_v2_bundle`, with what the store finds in the files. -/
def validateV2Bundle (bundle : BundleV2Contents) (onDisk : List BundleDiagnostic) :
    List BundleDiagnostic :=
  validateV2EventModel F bundle ++
  bundle.documents.flatMap (validateDocument bundle.manifest.sessionId) ++
  validateAdapterRecords bundle.manifest.sessionId [] bundle.adapterRecords ++
  bundle.adapterRecords.flatMap (validateForwardLinks F bundle) ++
  (bundle.observations.flatMap fun record =>
    validateNormalized bundle .observation .observations record.observationId record.recordMeta
      record.adapterRecordIds) ++
  validateStoredEvents bundle ++
  (bundle.rig.flatMap fun record =>
    validateNormalized bundle .rig .rig record.recordId record.recordMeta
      record.adapterRecordIds) ++
  (bundle.propagation.flatMap fun record =>
    validateNormalized bundle .propagation .propagation record.recordId record.recordMeta
      record.adapterRecordIds) ++
  onDisk

/-- The report `read_v2` decides on. -/
def readReportV2 (bundle : BundleV2Contents) (onDisk : List BundleDiagnostic) :
    BundleValidationReport :=
  (BundleValidationReport.sorted (validateV2Bundle F bundle onDisk)).extend
    (validateBundleReport F bundle.intoCurrent.bundle)

/-- What a writer refuses a candidate with. -/
def strictMessages (contents : BundleContents) : List String :=
  ((validateBundleReport F contents).filter (·.blocks .strictCreation)).map (·.message)

/-- `read_v2` hands the bundle out. -/
def ReadableV2 (bundle : BundleV2Contents) : Prop :=
  ∃ onDisk, (readReportV2 F bundle onDisk).allows .compatibilityRead

variable {F} {bundle : BundleV2Contents}

theorem BundleValidationReport.allows_sorted {diagnostics : List BundleDiagnostic}
    {profile : BundleValidationProfile} :
    (BundleValidationReport.sorted diagnostics).allows profile ↔
      ∀ diagnostic ∈ diagnostics, diagnostic.blocks profile = false := by
  unfold BundleValidationReport.allows
  rw [Bool.not_eq_true', List.any_eq_false]
  simp only [BundleValidationReport.mem_sorted, Bool.not_eq_true]
  constructor
  · intro h diagnostic hmem
    simpa using h diagnostic.tidy ⟨diagnostic, hmem, rfl⟩
  · rintro h _ ⟨diagnostic, hmem, rfl⟩
    simpa using h diagnostic hmem

theorem BundleValidationReport.allows_extend {report : BundleValidationReport}
    {diagnostics : List BundleDiagnostic} {profile : BundleValidationProfile} :
    (report.extend diagnostics).allows profile ↔
      report.allows profile ∧ ∀ diagnostic ∈ diagnostics, diagnostic.blocks profile = false := by
  unfold BundleValidationReport.extend
  rw [allows_sorted]
  simp only [List.mem_append, or_imp, forall_and]
  unfold BundleValidationReport.allows
  rw [Bool.not_eq_true', List.any_eq_false]
  simp only [Bool.not_eq_true]

theorem ReadableV2.validates (h : ReadableV2 F bundle) :
    ∀ diagnostic ∈ validateV2Bundle F bundle [], diagnostic.blocks .compatibilityRead = false := by
  obtain ⟨onDisk, honDisk⟩ := h
  have hstored := BundleValidationReport.allows_sorted.1
    (BundleValidationReport.allows_extend.1 honDisk).1
  intro diagnostic hmem
  apply hstored
  rw [validateV2Bundle, List.append_nil] at hmem
  exact List.mem_append_left _ hmem

/-- The lifecycle in the checkpoint of a readable bundle is the one its events end in. -/
theorem ReadableV2.lifecycle (h : ReadableV2 F bundle) :
    (reduceOperatorEventsV2 .ready bundle.events).lifecycle = bundle.sessionState.lifecycle := by
  by_contra hne
  have hmem : lifecycleMismatchDiagnostic bundle.sessionState.lifecycle
      (reduceOperatorEventsV2 .ready bundle.events).lifecycle ∈ validateV2Bundle F bundle [] := by
    simp only [validateV2Bundle, validateV2EventModel, List.mem_append, if_pos hne,
      List.mem_singleton, or_true, true_or]
  have hblocks := h.validates _ hmem
  simp [lifecycleMismatchDiagnostic, BundleDiagnostic.blocks, allTypedOperations] at hblocks

theorem ReadableV2.sessionId (h : ReadableV2 F bundle) :
    ∀ event ∈ bundle.events, event.recordMeta.sessionId = bundle.manifest.sessionId := by
  intro event hevent
  by_contra hne
  have hmem : v2Diagnostic .v2Mutation .events event.eventId
      "record schema/session identity does not match v2 manifest" ∈
        validateV2Bundle F bundle [] := by
    have hmeta : v2Diagnostic .v2Mutation .events event.eventId
        "record schema/session identity does not match v2 manifest" ∈
          validateStoredEvents bundle :=
      List.mem_flatMap.2 ⟨event, hevent, by simp [validateMeta, hne]⟩
    simp only [validateV2Bundle, List.mem_append]
    tauto
  have hblocks := h.validates _ hmem
  simp [v2Diagnostic, StoreFinding.diagnostic, BundleDiagnostic.blocks, allTypedOperations]
    at hblocks

end AntennaBench
