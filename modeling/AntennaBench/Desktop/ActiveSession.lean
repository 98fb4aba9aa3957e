import AntennaBench.Conductor.Actions
import AntennaBench.Core.Current

/-!
# The active session of the desktop

The one session the desktop shows: its compact projection, its summary and the report
presentations that were made of it. A presentation is known to the frontend by its number.
What is read from disk, rendered, chosen in a dialog or written to a destination enters as
an answer.
-/

namespace AntennaBench

/-- The components of a path, from the root to the file name. -/
abbrev BundlePath := List String

def fileName (path : BundlePath) : Option String := path.getLast?

def v1BundleSuffix : String := ".session.wsprabundle"
def v2BundleSuffix : String := ".session.antennabundle"

def bundleSuffix (name : String) : Option String :=
  [v2BundleSuffix, v1BundleSuffix].find? fun suffix => name.endsWith suffix

inductive ReportExportFormat where
  | summaryHtml
  | fullEvidenceHtml
  deriving DecidableEq

inductive ControllerEvidenceHandling where
  | complete
  | omittedAtExport
  deriving DecidableEq

inductive OperationalHistoryHandling where
  | omitted
  | includedRedacted
  deriving DecidableEq

inductive ReportDocumentKind where
  | summary
  | fullEvidence
  deriving DecidableEq

/-- The documents rendered of one snapshot. -/
structure ReportDocuments where
  hasControllerEvidence : Bool
  reportHtml : String
  summaryHtml : String
  controllerOmittedReportHtml : Option String
  operationalHistoryReportHtml : String
  operationalHistoryControllerOmittedReportHtml : Option String
  deriving DecidableEq

structure ReportPresentation extends ReportDocuments where
  presentationId : ℕ
  sessionId : String
  revision : Option ℕ
  lifecycle : Option SessionLifecycleV2
  deriving DecidableEq

structure OpenedSession where
  bundleName : String
  sessionId : String
  callsign : String
  grid : String
  antennaCount : ℕ
  slotCount : ℕ
  observationCount : ℕ
  schemaVersion : ℕ
  revision : Option ℕ
  lifecycle : Option SessionLifecycleV2
  reportAvailable : Bool
  deriving DecidableEq

/-- What was read of a bundle, as far as the desktop keeps it. -/
structure LoadedSnapshot where
  bundle : BundleContents
  liveProjection : Option BundleV3Contents
  intendedCycleCount : ℕ
  schemaVersion : ℕ
  revision : Option ℕ
  lifecycle : Option SessionLifecycleV2

structure ActiveSession where
  source : BundlePath
  liveProjection : Option BundleV3Contents
  summary : OpenedSession
  presentation : Option ReportPresentation
  retainedPresentation : Option ReportPresentation

/-- What identifies the content of an existing destination. -/
structure ReportDestinationIdentity where
  length : ℕ
  modifiedNanos : Option ℕ
  device : ℕ
  inode : ℕ
  changedSeconds : ℤ
  changedNanos : ℤ
  contentDigest : List UInt8
  deriving DecidableEq

structure PendingReportExport where
  pendingExportId : String
  destination : BundlePath
  destinationIdentity : ReportDestinationIdentity
  fileName : String
  presentationId : ℕ
  sessionId : String
  revision : Option ℕ
  format : ReportExportFormat
  html : String
  deriving DecidableEq

structure DesktopState where
  active : Option ActiveSession := none
  exportSource : Option BundlePath := none
  pendingReportExport : Option PendingReportExport := none
  foregroundBusy : Bool := false
  nextPresentationId : ℕ := 0

structure ReportWindowDocument where
  windowLabel : String
  presentationId : ℕ
  sessionId : String
  bundleName : String
  revision : Option ℕ
  lifecycle : Option SessionLifecycleV2
  documentKind : ReportDocumentKind
  html : String
  deriving DecidableEq

/-- The code under the desktop state: the report of a snapshot, the sizes of serialized
payloads, and the digests of window labels. -/
structure DesktopEnv where
  prepareReport : LoadedSnapshot → Except SessionErrorPayload ReportDocuments
  presentationBytes : ReportPresentation → ℕ
  summaryBytes : OpenedSession → ℕ
  windowBytes : ReportWindowDocument → ℕ
  sha256Hex : String → String

def sessionSummaryIpcBytes : ℕ := 64 * 1024
def reportDocumentIpcBytes : ℕ := 16 * 1024 * 1024

def u64Max : ℕ := 2 ^ 64 - 1

/-- `saturating_add(1)`. -/
def nextId (id : ℕ) : ℕ := min (id + 1) u64Max

namespace SessionErrorPayload

def resource (kind : SessionErrorKind) (code stage : String) (limit observed : ℕ)
    (unit : String) : SessionErrorPayload where
  kind
  message := "The local operation was stopped by its resource policy."
  detail := "code=" ++ code ++ " stage=" ++ stage ++ " limit=" ++ toString limit ++
    " observed=" ++ toString observed ++ " unit=" ++ unit ++ " complete=false"
  operation := some ⟨code, stage⟩

def stalePendingReport (detail : String) : SessionErrorPayload where
  kind := .conflict
  message := "The pending report replacement is no longer current."
  detail

def foregroundBusy : SessionErrorPayload :=
  .resource .busy "resource.operation.busy" "foreground" 1 2 "operations"

def noActiveReport : SessionErrorPayload :=
  .reportPipeline "no active session report is available"

def notDisplayed : SessionErrorPayload :=
  .stalePendingReport "the displayed report presentation does not belong to the active session"

end SessionErrorPayload

/-- `check_ipc_payload`, of a payload of so many bytes. -/
def checkIpcPayload (bytes limit : ℕ) (role : String) : Except SessionErrorPayload Unit :=
  failIf (limit < bytes) (.resource .resource "resource.desktop.ipc_bytes" role limit bytes "bytes")

section

variable (env : DesktopEnv)

/-- `prepare_presentation`: a presentation has no number of its own yet. -/
def preparePresentation (snapshot : LoadedSnapshot) :
    Except SessionErrorPayload ReportPresentation := do
  let documents ← env.prepareReport snapshot
  return {
    toReportDocuments := documents
    presentationId := 0
    sessionId := snapshot.bundle.manifest.sessionId
    revision := snapshot.revision
    lifecycle := snapshot.lifecycle }

def snapshotSummary (bundleName : String) (snapshot : LoadedSnapshot) (reportAvailable : Bool) :
    OpenedSession where
  bundleName
  sessionId := snapshot.bundle.manifest.sessionId
  callsign := snapshot.bundle.station.callsign
  grid := snapshot.bundle.station.grid
  antennaCount := snapshot.bundle.antennas.antennas.length
  slotCount := snapshot.intendedCycleCount
  observationCount := snapshot.bundle.observations.length
  schemaVersion := snapshot.schemaVersion
  revision := snapshot.revision
  lifecycle := snapshot.lifecycle
  reportAvailable

def buildActiveSession (source : BundlePath) (bundleName : String) (snapshot : LoadedSnapshot) :
    ActiveSession :=
  let presentation := (preparePresentation env snapshot).toOption
  { source
    liveProjection := snapshot.liveProjection
    summary := snapshotSummary bundleName snapshot presentation.isSome
    presentation
    retainedPresentation := none }

/-- `open_bundle`, with the answer of `load_snapshot`. -/
def openBundle (path : BundlePath) (loaded : Except SessionErrorPayload LoadedSnapshot) :
    Except SessionErrorPayload ActiveSession := do
  let bundleName ← orError ((fileName path).filter fun name => (bundleSuffix name).isSome)
    { kind := .selection
      message := "Choose a .session.antennabundle or .session.wsprabundle directory."
      detail := "Selected directory: " ++ (fileName path).getD "" }
  let snapshot ← loaded
  return buildActiveSession env path bundleName snapshot

/-- `assign_presentation_id`. -/
def assignPresentationId (state : DesktopState) (session : ActiveSession) :
    DesktopState × ActiveSession :=
  let state := { state with pendingReportExport := none }
  match session.presentation with
  | none => (state, session)
  | some presentation =>
    let id := nextId state.nextPresentationId
    ({ state with nextPresentationId := id },
      { session with presentation := some { presentation with presentationId := id } })

/-- The opened session becomes the active one under a number of its own. -/
def DesktopState.activate (state : DesktopState) (session : ActiveSession) (path : BundlePath) :
    DesktopState :=
  let (state, session) := assignPresentationId state session
  { state with active := some session, exportSource := some path }

/-- `open_session_with_selection_and_verification`, inside the foreground. -/
def openSessionWithSelection (state : DesktopState)
    (selected : Except SessionErrorPayload (Option BundlePath))
    (loaded : Except SessionErrorPayload LoadedSnapshot)
    (verified : Except SessionErrorPayload Unit) :
    Except SessionErrorPayload (Option OpenedSession × DesktopState) := do
  match ← selected with
  | none => return (none, state)
  | some path =>
    let session ← openBundle env path loaded
    verified
    checkIpcPayload (env.summaryBytes session.summary) sessionSummaryIpcBytes "session_summary"
    return (some session.summary, state.activate session path)

def activateCreatedBundle (state : DesktopState) (path : BundlePath)
    (loaded : Except SessionErrorPayload LoadedSnapshot) :
    Except SessionErrorPayload (OpenedSession × DesktopState) := do
  let session ← openBundle env path loaded
  checkIpcPayload (env.summaryBytes session.summary) sessionSummaryIpcBytes "session_summary"
  return (session.summary, state.activate session path)

/-- `reload_active_session`: the reloaded presentation keeps the number it was prepared
with. -/
def reloadActiveSession (state : DesktopState) (source : BundlePath)
    (loaded : Except SessionErrorPayload LoadedSnapshot) :
    Except SessionErrorPayload (OpenedSession × DesktopState) := do
  let refreshed ← openBundle env source loaded
  failIf (state.active.any fun session => session.source ≠ source) {
    kind := .conflict
    message := "The active session changed while WSPR.live evidence was importing."
    detail := "the import remains committed to the originally selected session" }
  return (refreshed.summary,
    { state with active := some refreshed, pendingReportExport := none })

end

deriving instance BEq for BundleV3Contents

def compactLiveProjection (bundle : BundleV3Contents) : BundleV3Contents :=
  { bundle with
    observations := []
    adapterRecords := []
    propagation := []
    runtimeContexts := []
    diagnostics := [] }

def updateActiveSessionLiveProjection (state : DesktopState) (source : BundlePath)
    (bundle : BundleV3Contents) : Except SessionErrorPayload (OpenedSession × DesktopState) := do
  let session ← orError state.active {
    kind := .unsupported
    message := "Create or open a session before using this Active Run control."
    detail := "no active session is available" }
  failIf (session.source ≠ source || session.summary.sessionId ≠ bundle.manifest.sessionId) {
    kind := .conflict
    message := "The active session changed while live evidence was being processed."
    detail := "the projection update belongs to a different active session" }
  let summary := { session.summary with
    revision := some bundle.sessionState.revision
    lifecycle := some bundle.sessionState.lifecycle
    observationCount :=
      if session.liveProjection == some bundle then session.summary.observationCount
      else bundle.observations.length }
  let session := { session with
    summary, liveProjection := some (compactLiveProjection bundle) }
  return (summary, { state with active := some session })

/-- `presentation_for_id`: the current presentation or the one that was kept. -/
def presentationForId (session : ActiveSession) (presentationId : ℕ) : Option ReportPresentation :=
  (session.presentation.filter (·.presentationId = presentationId)).or
    (session.retainedPresentation.filter (·.presentationId = presentationId))

section

variable (env : DesktopEnv)

/-- `active_session_report_for`, inside the foreground. -/
def activeSessionReport (state : DesktopState) : Except SessionErrorPayload ReportPresentation := do
  let session ← orError state.active .noActiveReport
  let sourceName ← orError (fileName session.source)
    (.reportPipeline "the active session source name is unavailable")
  failIf (sourceName ≠ session.summary.bundleName)
    (.reportPipeline "the active session source does not match its derived report")
  let presentation ← orError session.presentation
    (.reportPipeline ("the active snapshot is available for lossless export, but report " ++
      "rendering is unavailable"))
  checkIpcPayload (env.presentationBytes presentation) reportDocumentIpcBytes
    "report_presentation"
  return presentation

/-- Whether a displayed number is the one of the current presentation; an error when it is
not the one of the kept presentation either. -/
def displayedIsCurrent (session : ActiveSession) (displayed : ℕ) :
    Except SessionErrorPayload Bool := do
  let current := session.presentation.any (·.presentationId = displayed)
  let retained := session.retainedPresentation.any (·.presentationId = displayed)
  failIf (!current && !retained) .notDisplayed
  return current

/-- The lock section of a refresh after a snapshot was loaded: what is displayed may be kept
no longer, and a presentation of the same revision is answered again. -/
def refreshExisting (state : DesktopState) (source : BundlePath) (displayed : Option ℕ)
    (snapshot : LoadedSnapshot) :
    Except SessionErrorPayload (Option ReportPresentation × DesktopState) := do
  let session ← orError (state.active.filter (·.source = source)) {
    kind := .conflict
    message := "The active session changed while its report was refreshing."
    detail := "the prior coherent presentation remains visible" }
  let existing := session.presentation.filter fun presentation =>
    presentation.revision = snapshot.revision &&
      presentation.sessionId = snapshot.bundle.manifest.sessionId
  match displayed with
  | none => return (existing, state)
  | some displayed =>
    let isCurrent ← displayedIsCurrent session displayed
    let session :=
      if isCurrent then { session with retainedPresentation := none } else session
    return (existing, { state with active := some session })

/-- The presentation that stays beside a new one: the one that is displayed. -/
def presentationToRetain (session : ActiveSession) :
    Option ℕ → Except SessionErrorPayload (Option ReportPresentation)
  | none => .ok none
  | some displayed => do
    let isCurrent ← displayedIsCurrent session displayed
    return if isCurrent then session.presentation else session.retainedPresentation

/-- The last lock section of a refresh: the new presentation gets a number, and the one that
is displayed is kept beside it. -/
def refreshPublish (state : DesktopState) (source : BundlePath) (displayed : Option ℕ)
    (summary : OpenedSession) (presentation : ReportPresentation) :
    Except SessionErrorPayload (ReportPresentation × DesktopState) := do
  let id := nextId state.nextPresentationId
  let session ← orError state.active .noActiveReport
  failIf (session.source ≠ source) {
    kind := .conflict
    message := "The active session changed while its report was refreshing."
    detail := "the prior coherent presentation remains visible" }
  let retainedPresentation ← presentationToRetain session displayed
  let presentation := { presentation with presentationId := id }
  let session := { session with
    summary, retainedPresentation, presentation := some presentation }
  return (presentation, { state with
    active := some session, nextPresentationId := id, pendingReportExport := none })

end

/-- What an export asks for. -/
structure ReportSelection where
  format : ReportExportFormat
  controllerEvidence : ControllerEvidenceHandling
  operationalHistory : OperationalHistoryHandling
  deriving DecidableEq

/-- The variant of the documents that is exported. -/
def ReportDocuments.exportHtml (documents : ReportDocuments) (selection : ReportSelection) :
    Except SessionErrorPayload String :=
  match selection.format with
  | .summaryHtml => .ok documents.summaryHtml
  | .fullEvidenceHtml =>
    let controllerEvidence :=
      if documents.hasControllerEvidence then selection.controllerEvidence else .complete
    match controllerEvidence, selection.operationalHistory with
    | .complete, .omitted => .ok documents.reportHtml
    | .omittedAtExport, .omitted => orError documents.controllerOmittedReportHtml
        (.reportPipeline "controller omission export is unavailable for this report snapshot")
    | .complete, .includedRedacted => .ok documents.operationalHistoryReportHtml
    | .omittedAtExport, .includedRedacted =>
      orError documents.operationalHistoryControllerOmittedReportHtml
        (.reportPipeline ("combined controller omission and operational-history export is " ++
          "unavailable"))

def ReportDocuments.windowHtml (documents : ReportDocuments) : ReportDocumentKind → String
  | .summary => documents.summaryHtml
  | .fullEvidence => documents.reportHtml

def reportDisplayFileNameChars : ℕ := 160

def reportDisplayFileName (destination : BundlePath) : Except SessionErrorPayload String := do
  let name ← orError ((fileName destination).filter (·.endsWith ".html")) {
    kind := .destination
    message := "Choose an .html destination for the standalone report."
    detail := "the selected destination does not have a usable .html file name" }
  let bounded := String.ofList (name.toList.take reportDisplayFileNameChars)
  return if reportDisplayFileNameChars < name.length then bounded ++ "…" else bounded

/-- The first lock section of an export: the presentation that is asked for. -/
def chooseExport (state : DesktopState) (displayed : Option ℕ) :
    Except SessionErrorPayload (BundlePath × ReportPresentation) × DesktopState :=
  let chosen : Except SessionErrorPayload (BundlePath × ReportPresentation) := do
    let session ← orError state.active .noActiveReport
    let presentation ← match displayed with
      | some presentationId => orError (presentationForId session presentationId) .notDisplayed
      | none =>
        orError session.presentation (.reportPipeline "no coherent report snapshot is available")
    return (session.source, presentation)
  (chosen, { state with pendingReportExport := none })

inductive ExportReportOutcome where
  | cancelled
  | confirmationRequired (pendingExportId fileName : String) (revision : Option ℕ)
      (format : ReportExportFormat)
  | exported (fileName : String) (revision : Option ℕ) (format : ReportExportFormat)
  deriving DecidableEq

/-- What an export is answered outside the desktop: the destination, what is there, whether
a new file could be written, and a fresh identity. -/
structure ExportAnswers where
  destination : Except SessionErrorPayload (Option BundlePath)
  existing : Except SessionErrorPayload (Option ReportDestinationIdentity)
  written : Except SessionErrorPayload Unit
  uuid : String

/-- The rest of an export. The second result is the document that was written. -/
def finishExport (state : DesktopState) (presentation : ReportPresentation)
    (selection : ReportSelection) (answers : ExportAnswers) :
    Except SessionErrorPayload (ExportReportOutcome × Option String × DesktopState) := do
  match ← answers.destination with
  | none => return (.cancelled, none, state)
  | some destination =>
    let fileName ← reportDisplayFileName destination
    let html ← presentation.exportHtml selection
    match ← answers.existing with
    | none =>
      answers.written
      return (.exported fileName presentation.revision selection.format, some html, state)
    | some destinationIdentity =>
      let current := state.active.bind fun session =>
        presentationForId session presentation.presentationId
      failIf (!current.any fun current =>
          current.sessionId = presentation.sessionId && current.revision = presentation.revision)
        (.stalePendingReport "the active report presentation changed during destination selection")
      let pending : PendingReportExport := {
        destination, destinationIdentity, fileName, html
        pendingExportId := answers.uuid
        presentationId := presentation.presentationId
        sessionId := presentation.sessionId
        revision := presentation.revision
        format := selection.format }
      return (.confirmationRequired answers.uuid fileName presentation.revision selection.format,
        none, { state with pendingReportExport := some pending })

/-- The first lock section of a confirmation takes the pending export. -/
def takePendingExport (state : DesktopState) (pendingExportId : String) :
    Except SessionErrorPayload (PendingReportExport × DesktopState) := do
  let pending ← orError
    (state.pendingReportExport.filter (·.pendingExportId = pendingExportId))
    (.stalePendingReport "the pending report replacement identity is unknown or already consumed")
  return (pending, { state with pendingReportExport := none })

/-- The rest of a confirmation, with the identities of the destination before and after the
temporary file was written, and the answer of the replacement. -/
def confirmPendingExport (state : DesktopState) (pending : PendingReportExport)
    (before after : Except SessionErrorPayload ReportDestinationIdentity)
    (replaced : Except SessionErrorPayload Unit) :
    Except SessionErrorPayload (ExportReportOutcome × String) := do
  let presentation := state.active.bind fun session =>
    presentationForId session pending.presentationId
  failIf (!presentation.any fun presentation =>
      presentation.sessionId = pending.sessionId && presentation.revision = pending.revision)
    (.stalePendingReport "the active report presentation changed before replacement was confirmed")
  failIf ((← before) ≠ pending.destinationIdentity)
    (.stalePendingReport "the existing report changed after replacement was requested")
  failIf ((← after) ≠ pending.destinationIdentity)
    (.stalePendingReport "the existing report changed before atomic replacement")
  replaced
  return (.exported pending.fileName pending.revision pending.format, pending.html)

/-- `cancel_pending_report_export_for`. -/
def cancelPendingExport (state : DesktopState) (pendingExportId : String) : DesktopState :=
  if state.pendingReportExport.any (·.pendingExportId = pendingExportId) then
    { state with pendingReportExport := none }
  else state

end AntennaBench
