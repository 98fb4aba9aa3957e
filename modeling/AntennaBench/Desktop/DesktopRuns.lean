import Mathlib.Data.List.AList
import AntennaBench.Desktop.ActiveSession

/-!
# The desktop at work

Every way the active session changes, one lock section at a time, and the report windows
beside it. One foreground operation runs at a time; what does not need the foreground may
come between its sections.
-/

namespace AntennaBench

abbrev ReportWindows := AList fun _ : String => ReportWindowDocument

inductive OpenReportWindowOutcome where
  | created (windowLabel : String) (revision : Option ℕ) (documentKind : ReportDocumentKind)
  | focused (windowLabel : String) (revision : Option ℕ) (documentKind : ReportDocumentKind)
  deriving DecidableEq

def OpenReportWindowOutcome.windowLabel : OpenReportWindowOutcome → String
  | created label _ _ => label
  | focused label _ _ => label

inductive ReportWindowPortError where
  | focus
  | create
  deriving DecidableEq

def reportWindowPrefix : String := "report-"
def maxReportWindows : ℕ := 12

def ReportDocumentKind.title : ReportDocumentKind → String
  | summary => "Summary"
  | fullEvidence => "Full evidence"

def ReportWindowPortError.payload (error : ReportWindowPortError) : SessionErrorPayload where
  kind := .reportPipeline
  message := "The separate report window could not be opened."
  detail :=
    match error with
    | focus => "the matching immutable report window could not be focused"
    | create => "the restricted native report window could not be created"

section

variable (env : DesktopEnv)

/-- A window is named after the session, the revision and the kind of its document. -/
def reportWindowLabel (sessionId : String) (revision : Option ℕ) (kind : ReportDocumentKind) :
    String :=
  let revision := (revision.map toString).getD "legacy"
  reportWindowPrefix ++ env.sha256Hex (sessionId ++ "\n" ++ revision ++ "\n" ++ kind.title)

def selectedDocument (state : DesktopState) (displayed : ℕ) (kind : ReportDocumentKind) :
    Except SessionErrorPayload ReportWindowDocument := do
  let session ← orError state.active .noActiveReport
  let presentation ← orError (presentationForId session displayed) {
    kind := .conflict
    message := "The displayed report is no longer available."
    detail := "the requested presentation does not belong to the active session" }
  let document : ReportWindowDocument := {
    windowLabel := reportWindowLabel env presentation.sessionId presentation.revision kind
    presentationId := presentation.presentationId
    sessionId := presentation.sessionId
    bundleName := session.summary.bundleName
    revision := presentation.revision
    lifecycle := presentation.lifecycle
    documentKind := kind
    html := presentation.windowHtml kind }
  checkIpcPayload (env.windowBytes document) reportDocumentIpcBytes "report_window_document"
  return document

/-- The end of `open_report_window_with`: the document is registered, and a window is made. -/
def createReportWindow (windows : ReportWindows) (document : ReportWindowDocument)
    (created : Except ReportWindowPortError Unit) :
    Except SessionErrorPayload OpenReportWindowOutcome × ReportWindows :=
  let label := document.windowLabel
  if maxReportWindows ≤ windows.entries.length then
    (.error {
      kind := .resource
      message := "No more separate report windows can be opened."
      detail := "close an existing report window before opening another; limit=" ++
        toString maxReportWindows }, windows)
  else
    match created with
    | .error error => (.error error.payload, (windows.insert label document).erase label)
    | .ok () =>
      (.ok (.created label document.revision document.documentKind),
        windows.insert label document)

/-- `open_report_window_with`, with the answers of the window system. -/
def openReportWindow (state : DesktopState) (windows : ReportWindows) (callerLabel : String)
    (displayed : ℕ) (kind : ReportDocumentKind) (focused : Except ReportWindowPortError Bool)
    (created : Except ReportWindowPortError Unit) :
    Except SessionErrorPayload OpenReportWindowOutcome × ReportWindows :=
  if callerLabel ≠ "main" then
    (.error {
      kind := .unsupported
      message := "This window cannot open another report window."
      detail := "only the main AntennaBench shell owns report-window creation" }, windows)
  else
    match selectedDocument env state displayed kind with
    | .error error => (.error error, windows)
    | .ok document =>
      match windows.lookup document.windowLabel with
      | none => createReportWindow windows document created
      | some _ =>
        match focused with
        | .error error => (.error error.payload, windows)
        | .ok true =>
          (.ok (.focused document.windowLabel document.revision document.documentKind), windows)
        | .ok false =>
          createReportWindow (windows.erase document.windowLabel) document created

end

def reportWindowDocument (windows : ReportWindows) (callerLabel : String) :
    Except SessionErrorPayload ReportWindowDocument := do
  failIf (!callerLabel.startsWith reportWindowPrefix) {
    kind := .unsupported
    message := "This window cannot read a report-window presentation."
    detail := "the caller is outside the restricted report-window label boundary" }
  orError (windows.lookup callerLabel) {
    kind := .conflict
    message := "This report window no longer has an immutable presentation."
    detail := "close the stale window and reopen the displayed report from the main shell" }

/-- The foreground operation that is under way, with what it holds between its sections. -/
inductive ForegroundOperation where
  | exporting (displayed : Option ℕ) (presentation : ReportPresentation)
      (selection : ReportSelection)
  | confirming (pending : PendingReportExport)
  | refreshing (source : BundlePath) (bundleName : String) (displayed : Option ℕ) (attempts : ℕ)
  | prepared (source : BundlePath) (bundleName : String) (displayed : Option ℕ) (attempts : ℕ)
      (snapshot : LoadedSnapshot) (presentation : ReportPresentation)

structure Desktop where
  state : DesktopState := {}
  windows : ReportWindows := ∅
  operation : Option ForegroundOperation := none

/-- What happens next, with everything the desktop is answered from outside. -/
inductive DesktopAction where
  | openSession (selected : Except SessionErrorPayload (Option BundlePath))
      (loaded : Except SessionErrorPayload LoadedSnapshot)
      (verified : Except SessionErrorPayload Unit)
  | activateCreatedBundle (path : BundlePath) (loaded : Except SessionErrorPayload LoadedSnapshot)
  | reloadActiveSession (source : BundlePath) (loaded : Except SessionErrorPayload LoadedSnapshot)
  | updateLiveProjection (source : BundlePath) (bundle : BundleV3Contents)
  | holdForeground
  | releaseForeground
  | activeSessionReport
  | beginExport (displayed : Option ℕ) (selection : ReportSelection)
  | finishExport (answers : ExportAnswers)
  | beginConfirm (pendingExportId : String)
  | finishConfirm (before after : Except SessionErrorPayload ReportDestinationIdentity)
      (replaced : Except SessionErrorPayload Unit)
  | cancelExport (pendingExportId : String)
  | beginRefresh (displayed : Option ℕ)
  | checkRefresh (loaded : Except SessionErrorPayload LoadedSnapshot)
  | publishRefresh (verified : Except SessionErrorPayload LoadedSnapshot)
  | openReportWindow (callerLabel : String) (displayed : ℕ) (kind : ReportDocumentKind)
      (focused : Except ReportWindowPortError Bool) (created : Except ReportWindowPortError Unit)
  | reportWindowDocument (callerLabel : String)
  | windowDestroyed (label : String)
  | closeReportWindows

/-- What a section answers. An export that was written carries the displayed number it was
asked for, and one that waits for its confirmation does too. -/
inductive DesktopAnswer where
  | nothing
  | failed (error : SessionErrorPayload)
  | session (summary : OpenedSession)
  | presentation (presentation : ReportPresentation)
  | exported (displayed : Option ℕ) (selection : ReportSelection) (html : String)
      (outcome : ExportReportOutcome)
  | waiting (displayed : Option ℕ) (selection : ReportSelection) (outcome : ExportReportOutcome)
  | replaced (pendingExportId html : String) (outcome : ExportReportOutcome)
  | cancelled
  | window (outcome : OpenReportWindowOutcome)
  | windowDocument (document : ReportWindowDocument)

def maxRefreshAttempts : ℕ := 3

namespace Desktop

/-- The operation is over: the guard of the foreground is dropped. -/
def released (desktop : Desktop) : Desktop :=
  { desktop with
    state := { desktop.state with foregroundBusy := false }
    operation := none }

def started (desktop : Desktop) (operation : ForegroundOperation) : Desktop :=
  { desktop with
    state := { desktop.state with foregroundBusy := true }
    operation := some operation }

/-- An operation of one section, in the foreground or beside it. -/
def answering (desktop : Desktop)
    (result : Except SessionErrorPayload (DesktopAnswer × DesktopState)) :
    DesktopAnswer × Desktop :=
  match result with
  | .error error => (.failed error, desktop)
  | .ok (answer, state) => (answer, { desktop with state })

/-- `begin_foreground`. -/
def inForeground (desktop : Desktop) (operation : DesktopAnswer × Desktop) :
    DesktopAnswer × Desktop :=
  if desktop.state.foregroundBusy then (.failed .foregroundBusy, desktop) else operation

def startConfirm (desktop : Desktop) (pendingExportId : String) : DesktopAnswer × Desktop :=
  match takePendingExport desktop.state pendingExportId with
  | .error error => (.failed error, desktop)
  | .ok (pending, state) => (.nothing, { desktop with state }.started (.confirming pending))

def startExport (desktop : Desktop) (displayed : Option ℕ) (selection : ReportSelection) :
    DesktopAnswer × Desktop :=
  match chooseExport desktop.state displayed with
  | (.error error, state) => (.failed error, { desktop with state })
  | (.ok (_, presentation), state) =>
    (.nothing, { desktop with state }.started (.exporting displayed presentation selection))

def endExport (desktop : Desktop) (displayed : Option ℕ) (presentation : ReportPresentation)
    (selection : ReportSelection) (answers : ExportAnswers) : DesktopAnswer × Desktop :=
  match AntennaBench.finishExport desktop.state presentation selection answers with
  | .error error => (.failed error, desktop.released)
  | .ok (outcome, some html, state) =>
    (.exported displayed selection html outcome, { desktop with state }.released)
  | .ok (.cancelled, none, state) => (.cancelled, { desktop with state }.released)
  | .ok (outcome, none, state) =>
    (.waiting displayed selection outcome, { desktop with state }.released)

def endConfirm (desktop : Desktop) (pending : PendingReportExport)
    (before after : Except SessionErrorPayload ReportDestinationIdentity)
    (replaced : Except SessionErrorPayload Unit) : DesktopAnswer × Desktop :=
  match confirmPendingExport desktop.state pending before after replaced with
  | .error error => (.failed error, desktop.released)
  | .ok (outcome, html) => (.replaced pending.pendingExportId html outcome, desktop.released)

def startRefresh (desktop : Desktop) (displayed : Option ℕ) : DesktopAnswer × Desktop :=
  match desktop.state.active with
  | none => (.failed .noActiveReport, desktop)
  | some session =>
    (.nothing, desktop.started
      (.refreshing session.source session.summary.bundleName displayed maxRefreshAttempts))

section

variable (env : DesktopEnv)

/-- One attempt of a refresh, up to the prepared presentation. -/
def attemptRefresh (desktop : Desktop) (source : BundlePath) (bundleName : String)
    (displayed : Option ℕ) (attempts : ℕ) (loaded : Except SessionErrorPayload LoadedSnapshot) :
    DesktopAnswer × Desktop :=
  match loaded with
  | .error error => (.failed error, desktop.released)
  | .ok snapshot =>
    match refreshExisting desktop.state source displayed snapshot with
    | .error error => (.failed error, desktop.released)
    | .ok (some existing, state) =>
      match checkIpcPayload (env.presentationBytes existing) reportDocumentIpcBytes
          "report_presentation" with
      | .error error => (.failed error, { desktop with state }.released)
      | .ok () => (.presentation existing, { desktop with state }.released)
    | .ok (none, state) =>
      let prepared := do
        let presentation ← preparePresentation env snapshot
        checkIpcPayload (env.presentationBytes presentation) reportDocumentIpcBytes
          "report_presentation"
        return presentation
      match prepared with
      | .error error => (.failed error, { desktop with state }.released)
      | .ok presentation =>
        (.nothing, { desktop with state }.started
          (.prepared source bundleName displayed attempts snapshot presentation))

/-- The prepared presentation is published unless the session went on meanwhile. -/
def endRefresh (desktop : Desktop) (source : BundlePath) (bundleName : String)
    (displayed : Option ℕ) (attempts : ℕ) (snapshot : LoadedSnapshot)
    (presentation : ReportPresentation) (verified : Except SessionErrorPayload LoadedSnapshot) :
    DesktopAnswer × Desktop :=
  match verified with
  | .error error => (.failed error, desktop.released)
  | .ok verified =>
    if snapshot.revision ≠ verified.revision then
      if attempts ≤ 1 then
        (.failed {
          kind := .staleRevision
          message := "The session kept changing while its report was refreshing."
          detail := "no stale presentation was published; retry after the current intake burst" },
          desktop.released)
      else
        (.nothing, desktop.started (.refreshing source bundleName displayed (attempts - 1)))
    else
      match refreshPublish desktop.state source displayed
          (snapshotSummary bundleName snapshot true) presentation with
      | .error error => (.failed error, desktop.released)
      | .ok (presentation, state) => (.presentation presentation, { desktop with state }.released)

def showWindow (desktop : Desktop) (callerLabel : String) (displayed : ℕ)
    (kind : ReportDocumentKind) (focused : Except ReportWindowPortError Bool)
    (created : Except ReportWindowPortError Unit) : DesktopAnswer × Desktop :=
  match AntennaBench.openReportWindow env desktop.state desktop.windows callerLabel displayed
      kind focused created with
  | (.error error, windows) => (.failed error, { desktop with windows })
  | (.ok outcome, windows) => (.window outcome, { desktop with windows })

/-- What the desktop does next. A section of an operation that is not under way does
nothing. -/
def step (desktop : Desktop) : DesktopAction → DesktopAnswer × Desktop
  | .openSession selected loaded verified => desktop.inForeground <| desktop.answering do
    match ← openSessionWithSelection env desktop.state selected loaded verified with
    | (none, state) => return (.cancelled, state)
    | (some summary, state) => return (.session summary, state)
  | .activateCreatedBundle path loaded => desktop.answering do
    let (summary, state) ← AntennaBench.activateCreatedBundle env desktop.state path loaded
    return (.session summary, state)
  | .reloadActiveSession source loaded => desktop.answering do
    let (summary, state) ← AntennaBench.reloadActiveSession env desktop.state source loaded
    return (.session summary, state)
  | .updateLiveProjection source bundle => desktop.answering do
    let (summary, state) ← updateActiveSessionLiveProjection desktop.state source bundle
    return (.session summary, state)
  | .holdForeground => desktop.inForeground
    (.nothing, { desktop with state := { desktop.state with foregroundBusy := true } })
  | .releaseForeground =>
    if desktop.operation.isSome then (.nothing, desktop) else (.nothing, desktop.released)
  | .activeSessionReport => desktop.inForeground <| desktop.answering do
    return (.presentation (← AntennaBench.activeSessionReport env desktop.state), desktop.state)
  | .beginExport displayed selection =>
    desktop.inForeground (desktop.startExport displayed selection)
  | .finishExport answers =>
    match desktop.operation with
    | some (.exporting displayed presentation selection) =>
      desktop.endExport displayed presentation selection answers
    | _ => (.nothing, desktop)
  | .beginConfirm pendingExportId => desktop.inForeground (desktop.startConfirm pendingExportId)
  | .finishConfirm before after replaced =>
    match desktop.operation with
    | some (.confirming pending) => desktop.endConfirm pending before after replaced
    | _ => (.nothing, desktop)
  | .cancelExport pendingExportId => desktop.inForeground
    (.cancelled, { desktop with state := cancelPendingExport desktop.state pendingExportId })
  | .beginRefresh displayed => desktop.inForeground (desktop.startRefresh displayed)
  | .checkRefresh loaded =>
    match desktop.operation with
    | some (.refreshing source bundleName displayed attempts) =>
      desktop.attemptRefresh env source bundleName displayed attempts loaded
    | _ => (.nothing, desktop)
  | .publishRefresh verified =>
    match desktop.operation with
    | some (.prepared source bundleName displayed attempts snapshot presentation) =>
      desktop.endRefresh source bundleName displayed attempts snapshot presentation verified
    | _ => (.nothing, desktop)
  | .openReportWindow callerLabel displayed kind focused created =>
    desktop.showWindow env callerLabel displayed kind focused created
  | .reportWindowDocument callerLabel => desktop.answering do
    return (.windowDocument (← AntennaBench.reportWindowDocument desktop.windows callerLabel),
      desktop.state)
  | .windowDestroyed label => (.nothing, { desktop with windows := desktop.windows.erase label })
  | .closeReportWindows => (.nothing, { desktop with windows := ∅ })

end

end Desktop

structure DesktopStep where
  action : DesktopAction
  before : Desktop
  answer : DesktopAnswer
  after : Desktop

section

variable (env : DesktopEnv)

def desktopStep (desktop : Desktop) (action : DesktopAction) : DesktopStep :=
  let result := desktop.step env action
  ⟨action, desktop, result.1, result.2⟩

/-- The runs of a desktop that was just started: anything may happen next. -/
inductive DesktopRun : List DesktopStep → Desktop → Prop
  | started : DesktopRun [] {}
  | step {steps : List DesktopStep} {desktop : Desktop} (action : DesktopAction) :
      DesktopRun steps desktop →
      DesktopRun (steps ++ [desktopStep env desktop action]) (desktopStep env desktop action).after

end

end AntennaBench
