import AntennaBench.Desktop.DesktopEffects

/-!
# What a section changes

Which presentations the state has after a section, and where the pending export, the
operation under way, the windows and the answer come from.
-/

namespace AntennaBench

/-- What an operation that was just started holds of the state. -/
inductive OperationFrom (env : DesktopEnv) (state : DesktopState) (action : DesktopAction) :
    ForegroundOperation → Prop
  | exporting (displayed : Option ℕ) (presentation : ReportPresentation)
      (selection : ReportSelection) (mem : presentation ∈ state.presentations)
      (id : ∀ id, displayed = some id → presentation.presentationId = id) :
      OperationFrom env state action (.exporting displayed presentation selection)
  | confirming (pending : PendingReportExport)
      (isPending : state.pendingReportExport = some pending) :
      OperationFrom env state action (.confirming pending)
  | refreshing (source : BundlePath) (bundleName : String) (displayed : Option ℕ)
      (attempts : ℕ) : OperationFrom env state action
        (.refreshing source bundleName displayed attempts)
  | prepared (source : BundlePath) (bundleName : String) (displayed : Option ℕ) (attempts : ℕ)
      (snapshot : LoadedSnapshot) (presentation : ReportPresentation)
      (isLoaded : loadedPresentation env action = some presentation) :
      OperationFrom env state action
        (.prepared source bundleName displayed attempts snapshot presentation)

/-- What a step does, as far as the reports are concerned. -/
structure StepSpec (env : DesktopEnv) (step : DesktopStep) : Prop where
  effect : PresentationEffect env step.before.operation step.before.state step.after.state
    step.action
  operation : ∀ operation, step.after.operation = some operation →
    step.before.operation = some operation ∨
      OperationFrom env step.before.state step.action operation
  pending : ∀ pending, step.after.state.pendingReportExport = some pending →
    step.before.state.pendingReportExport = some pending ∨
      ∃ displayed presentation selection fileName revision format,
        step.before.operation = some (.exporting displayed presentation selection) ∧
        presentation.exportHtml selection = .ok pending.html ∧
        step.answer = .waiting displayed selection
          (.confirmationRequired pending.pendingExportId fileName revision format)
  windows : ∀ label document, step.after.windows.lookup label = some document →
    step.before.windows.lookup label = some document ∨
      DocumentOf env step.before.state label document
  presentation : ∀ presentation, step.answer = .presentation presentation →
    presentation ∈ step.after.state.presentations
  exported : ∀ displayed selection html outcome,
    step.answer = .exported displayed selection html outcome → ∃ presentation,
      step.before.operation = some (.exporting displayed presentation selection) ∧
        presentation.exportHtml selection = .ok html
  replaced : ∀ id html outcome, step.answer = .replaced id html outcome → ∃ pending,
    step.before.operation = some (.confirming pending) ∧ pending.pendingExportId = id ∧
      pending.html = html
  window : ∀ callerLabel displayed kind focused created outcome,
    step.action = .openReportWindow callerLabel displayed kind focused created →
    step.answer = .window outcome → ∃ session presentation,
      step.before.state.active = some session ∧
      presentationForId session displayed = some presentation ∧
      outcome.windowLabel =
        reportWindowLabel env presentation.sessionId presentation.revision kind ∧
      ((∃ document, step.after.windows.lookup outcome.windowLabel = some document ∧
          document.html = presentation.windowHtml kind) ∨
        (callerLabel = "main" ∧ focused = .ok true ∧ step.after.windows = step.before.windows ∧
          (step.before.windows.lookup outcome.windowLabel).isSome))
  windowDocument : ∀ document, step.answer = .windowDocument document →
    ∃ label, step.before.windows.lookup label = some document

/-- The answers that hand no report to anyone. -/
def DesktopAnswer.Silent : DesktopAnswer → Prop
  | .nothing | .failed _ | .session _ | .cancelled => True
  | _ => False

/-- A step from the section's answer and the desktop after it. -/
abbrev Desktop.Spec (env : DesktopEnv) (desktop : Desktop) (action : DesktopAction)
    (result : DesktopAnswer × Desktop) : Prop :=
  StepSpec env ⟨action, desktop, result.1, result.2⟩

namespace Desktop

variable {env : DesktopEnv} {state next : DesktopState} {action : DesktopAction}
  {session : ActiveSession} {path source : BundlePath} {summary : OpenedSession}
  {loaded : Except SessionErrorPayload LoadedSnapshot} {displayed : Option ℕ}
  {presentation : ReportPresentation} {operation : Option ForegroundOperation}

variable {desktop after : Desktop} {answer : DesktopAnswer}
  {result : DesktopAnswer × Desktop}

theorem PresentationEffect.same (hpresentations : next.presentations = state.presentations)
    (hnext : next.nextPresentationId = state.nextPresentationId) :
    PresentationEffect env operation state next action :=
  .kept (fun p hp => by rwa [hpresentations] at hp) hnext

theorem spec_of_silent (hsilent : answer.Silent)
    (effect : PresentationEffect env desktop.operation desktop.state after.state action)
    (operation : ∀ operation, after.operation = some operation →
      desktop.operation = some operation ∨ OperationFrom env desktop.state action operation)
    (pending : ∀ pending, after.state.pendingReportExport = some pending →
      desktop.state.pendingReportExport = some pending)
    (windows : after.windows = desktop.windows) : desktop.Spec env action (answer, after) where
  effect := effect
  operation := operation
  pending := fun p hp => .inl (pending p hp)
  windows := fun label document h => .inl (by simpa [windows] using h)
  presentation := by
    rintro p rfl
    cases hsilent
  exported := by
    rintro displayed selection html outcome rfl
    cases hsilent
  replaced := by
    rintro id html outcome rfl
    cases hsilent
  window := by
    rintro callerLabel displayed kind focused created outcome - rfl
    cases hsilent
  windowDocument := by
    rintro document rfl
    cases hsilent

/-- Nothing but the foreground changes. -/
theorem spec_unchanged (hsilent : answer.Silent)
    (hstate : ∃ foregroundBusy, after.state = { desktop.state with foregroundBusy })
    (operation : ∀ operation, after.operation = some operation →
      desktop.operation = some operation ∨ OperationFrom env desktop.state action operation)
    (windows : after.windows = desktop.windows) : desktop.Spec env action (answer, after) := by
  obtain ⟨foregroundBusy, hstate⟩ := hstate
  refine spec_of_silent hsilent (PresentationEffect.same ?_ ?_) operation ?_ windows
  · rw [hstate]
    rfl
  · rw [hstate]
  · rw [hstate]
    exact fun _ h => h

theorem inForeground_spec (h : desktop.Spec env action result) :
    desktop.Spec env action (desktop.inForeground result) := by
  unfold inForeground
  split_ifs with hbusy
  · exact spec_unchanged trivial ⟨_, rfl⟩ (fun _ h => .inl h) rfl
  · exact h

theorem startConfirm_spec (id : String) :
    desktop.Spec env action (desktop.startConfirm id) := by
  unfold startConfirm
  cases htake : takePendingExport desktop.state id with
  | error error => exact spec_unchanged trivial ⟨_, rfl⟩ (fun _ h => .inl h) rfl
  | ok taken =>
    obtain ⟨pending, state⟩ := taken
    obtain ⟨hpending, rfl⟩ := takePendingExport_ok htake
    refine spec_of_silent trivial (PresentationEffect.same rfl rfl) ?_ ?_ rfl
    · rintro _ ⟨⟩
      exact .inr (.confirming pending hpending)
    · intro _ h
      cases h

theorem startExport_spec (displayed : Option ℕ) (selection : ReportSelection) :
    desktop.Spec env action (desktop.startExport displayed selection) := by
  unfold startExport
  cases hchoose : chooseExport desktop.state displayed with
  | mk result state =>
    obtain ⟨hpresentations, hnext, hpending, hchosen⟩ := chooseExport_ok hchoose
    have hnone : ∀ pending, state.pendingReportExport = some pending →
        desktop.state.pendingReportExport = some pending := by
      simp [hpending]
    cases result with
    | error error =>
      exact spec_of_silent trivial (PresentationEffect.same hpresentations hnext)
        (fun _ h => .inl h) hnone rfl
    | ok chosen =>
      obtain ⟨source, presentation⟩ := chosen
      obtain ⟨hmem, hid⟩ := hchosen source presentation rfl
      refine spec_of_silent trivial (PresentationEffect.same hpresentations hnext) ?_ hnone rfl
      rintro _ ⟨⟩
      exact .inr (.exporting displayed presentation selection hmem hid)

/-- A step that answers one of the reports and leaves the presentations as they are. -/
theorem spec_of_same (hstate : after.state.presentations = desktop.state.presentations)
    (hnext : after.state.nextPresentationId = desktop.state.nextPresentationId)
    (hoperation : after.operation = none) (hwindows : after.windows = desktop.windows)
    (pending : ∀ pending, after.state.pendingReportExport = some pending →
      desktop.state.pendingReportExport = some pending ∨
        ∃ displayed presentation selection fileName revision format,
          desktop.operation = some (.exporting displayed presentation selection) ∧
          presentation.exportHtml selection = .ok pending.html ∧
          answer = .waiting displayed selection
            (.confirmationRequired pending.pendingExportId fileName revision format))
    (presentation : ∀ presentation, answer ≠ .presentation presentation)
    (exported : ∀ displayed selection html outcome,
      answer = .exported displayed selection html outcome → ∃ presentation,
        desktop.operation = some (.exporting displayed presentation selection) ∧
          presentation.exportHtml selection = .ok html)
    (replaced : ∀ id html outcome, answer = .replaced id html outcome → ∃ pending,
      desktop.operation = some (.confirming pending) ∧ pending.pendingExportId = id ∧
        pending.html = html)
    (window : ∀ outcome, answer ≠ .window outcome)
    (windowDocument : ∀ document, answer ≠ .windowDocument document) :
    desktop.Spec env action (answer, after) where
  effect := PresentationEffect.same hstate hnext
  operation := by
    intro operation h
    cases hoperation.symm.trans h
  pending := pending
  windows := fun label document h => .inl (by simpa [hwindows] using h)
  presentation := fun p h => absurd h (presentation p)
  exported := exported
  replaced := replaced
  window := fun _ _ _ _ _ outcome _ h => absurd h (window outcome)
  windowDocument := fun document h => absurd h (windowDocument document)

theorem endExport_spec (displayed : Option ℕ) (presentation : ReportPresentation)
    (selection : ReportSelection) (answers : ExportAnswers)
    (hoperation : desktop.operation = some (.exporting displayed presentation selection)) :
    desktop.Spec env action (desktop.endExport displayed presentation selection answers) := by
  unfold endExport
  cases hfinish : AntennaBench.finishExport desktop.state presentation selection answers with
  | error error => exact spec_unchanged trivial ⟨_, rfl⟩ (fun _ h => by cases h) rfl
  | ok result =>
    cases finishExport_ok hfinish with
    | cancelled => exact spec_unchanged trivial ⟨_, rfl⟩ (fun _ h => by cases h) rfl
    | exported fileName html hhtml =>
      refine spec_of_same rfl rfl rfl rfl (fun _ h => .inl h) (by simp) ?_ (by simp) (by simp)
        (by simp)
      rintro _ _ _ _ ⟨⟩
      exact ⟨presentation, hoperation, hhtml⟩
    | waiting pending isPending =>
      refine spec_of_same rfl rfl rfl rfl ?_ (by simp) (by simp) (by simp) (by simp) (by simp)
      rintro _ ⟨⟩
      exact .inr ⟨displayed, presentation, selection, pending.fileName, presentation.revision,
        selection.format, hoperation, isPending.html, rfl⟩

theorem endConfirm_spec (pending : PendingReportExport)
    (before after : Except SessionErrorPayload ReportDestinationIdentity)
    (replaced : Except SessionErrorPayload Unit)
    (hoperation : desktop.operation = some (.confirming pending)) :
    desktop.Spec env action (desktop.endConfirm pending before after replaced) := by
  unfold endConfirm
  cases hconfirm : confirmPendingExport desktop.state pending before after replaced with
  | error error => exact spec_unchanged trivial ⟨_, rfl⟩ (fun _ h => by cases h) rfl
  | ok result =>
    obtain ⟨outcome, html⟩ := result
    refine spec_of_same rfl rfl rfl rfl (fun _ h => .inl h) (by simp) (by simp) ?_ (by simp)
      (by simp)
    rintro _ _ _ ⟨⟩
    exact ⟨pending, hoperation, rfl, (confirmPendingExport_ok hconfirm).symm⟩

theorem startRefresh_spec (displayed : Option ℕ) :
    desktop.Spec env action (desktop.startRefresh displayed) := by
  unfold startRefresh
  cases desktop.state.active with
  | none => exact spec_unchanged trivial ⟨_, rfl⟩ (fun _ h => .inl h) rfl
  | some session =>
    refine spec_unchanged trivial ⟨_, rfl⟩ ?_ rfl
    rintro _ ⟨⟩
    exact .inr (.refreshing ..)

/-- A step that answers a presentation of the state. -/
theorem spec_of_presentation (effect :
    PresentationEffect env desktop.operation desktop.state after.state action)
    (hmem : presentation ∈ after.state.presentations)
    (hoperation : ∀ operation, after.operation = some operation →
      desktop.operation = some operation)
    (hpending : ∀ pending, after.state.pendingReportExport = some pending →
      desktop.state.pendingReportExport = some pending)
    (hwindows : after.windows = desktop.windows) :
    desktop.Spec env action (.presentation presentation, after) where
  effect := effect
  operation := fun operation h => .inl (hoperation operation h)
  pending := fun pending h => .inl (hpending pending h)
  windows := fun label document h => .inl (by simpa [hwindows] using h)
  presentation := by
    rintro _ ⟨⟩
    exact hmem
  exported := by simp
  replaced := by simp
  window := by simp
  windowDocument := by simp

theorem attemptRefresh_spec (source : BundlePath) (bundleName : String) (displayed : Option ℕ)
    (attempts : ℕ) (loaded : Except SessionErrorPayload LoadedSnapshot) :
    desktop.Spec env (.checkRefresh loaded)
      (desktop.attemptRefresh env source bundleName displayed attempts loaded) := by
  unfold attemptRefresh
  cases loaded with
  | error error => exact spec_unchanged trivial ⟨_, rfl⟩ (fun _ h => by cases h) rfl
  | ok snapshot =>
    cases hexisting : refreshExisting desktop.state source displayed snapshot with
    | error error =>
      simp only [hexisting]
      exact spec_unchanged trivial ⟨_, rfl⟩ (fun _ h => by cases h) rfl
    | ok result =>
      obtain ⟨existing, state⟩ := result
      obtain ⟨hmem, hkept, hnext, hpending⟩ := refreshExisting_ok hexisting
      have heffect : ∀ foregroundBusy,
          PresentationEffect env desktop.operation desktop.state { state with foregroundBusy }
            (.checkRefresh (.ok snapshot)) :=
        fun _ => .kept hmem hnext
      have hsame : ∀ pending, state.pendingReportExport = some pending →
          desktop.state.pendingReportExport = some pending := by
        simp [hpending]
      simp only [hexisting]
      cases existing with
      | some existing =>
        dsimp only
        split
        · exact spec_of_silent trivial (heffect _) (fun _ h => by cases h) hsame rfl
        · exact spec_of_presentation (heffect _) (hkept existing rfl) (fun _ h => by cases h) hsame
            rfl
      | none =>
        dsimp only
        split
        · exact spec_of_silent trivial (heffect _) (fun _ h => by cases h) hsame rfl
        · rename_i prepared hprepared
          refine spec_of_silent trivial (heffect _) ?_ hsame rfl
          rintro _ ⟨⟩
          simp only [bind_eq_ok, pure_eq_ok] at hprepared
          obtain ⟨presentation, hprepare, -, -, rfl⟩ := hprepared
          exact .inr (.prepared _ _ _ _ _ _
            (by simp [loadedPresentation, hprepare, Except.toOption]))

theorem endRefresh_spec (source : BundlePath) (bundleName : String) (displayed : Option ℕ)
    (attempts : ℕ) (snapshot : LoadedSnapshot) (presentation : ReportPresentation)
    (verified : Except SessionErrorPayload LoadedSnapshot)
    (hoperation : desktop.operation =
      some (.prepared source bundleName displayed attempts snapshot presentation)) :
    desktop.Spec env (.publishRefresh verified)
      (desktop.endRefresh source bundleName displayed attempts snapshot presentation verified) := by
  unfold endRefresh
  cases verified with
  | error error => exact spec_unchanged trivial ⟨_, rfl⟩ (fun _ h => by cases h) rfl
  | ok verified =>
    dsimp only
    split_ifs with hrevision hattempts
    · exact spec_unchanged trivial ⟨_, rfl⟩ (fun _ h => by cases h) rfl
    · refine spec_unchanged trivial ⟨_, rfl⟩ ?_ rfl
      rintro _ ⟨⟩
      exact .inr (.refreshing ..)
    · cases hpublish : refreshPublish desktop.state source displayed
          (snapshotSummary bundleName snapshot true) presentation with
      | error error => exact spec_unchanged trivial ⟨_, rfl⟩ (fun _ h => by cases h) rfl
      | ok result =>
        obtain ⟨published, state⟩ := result
        obtain ⟨hsame, hid, hnext, hmem, hold, hpending⟩ := refreshPublish_ok hpublish
        have heffect : PresentationEffect env desktop.operation desktop.state
            { state with foregroundBusy := false } (.publishRefresh (.ok verified)) :=
          .numbered trivial published (.prepared _ _ _ _ _ _ hoperation hsame) hid hnext hold
        refine spec_of_presentation heffect hmem (fun _ h => by cases h) ?_ rfl
        intro pending h
        cases hpending.symm.trans h

theorem showWindow_spec (callerLabel : String) (displayed : ℕ) (kind : ReportDocumentKind)
    (focused : Except ReportWindowPortError Bool) (created : Except ReportWindowPortError Unit) :
    desktop.Spec env (.openReportWindow callerLabel displayed kind focused created)
      (desktop.showWindow env callerLabel displayed kind focused created) := by
  unfold showWindow
  cases hopen : AntennaBench.openReportWindow env desktop.state desktop.windows callerLabel
      displayed kind focused created with
  | mk result windows =>
    have hwindows (label : String) (document : ReportWindowDocument)
        (hlookup : windows.lookup label = some document) :
        desktop.windows.lookup label = some document ∨
          DocumentOf env desktop.state label document :=
      openReportWindow_windows hopen hlookup
    have heffect : PresentationEffect env desktop.operation desktop.state desktop.state
        (.openReportWindow callerLabel displayed kind focused created) :=
      PresentationEffect.same rfl rfl
    cases result with
    | error error =>
      exact {
        effect := heffect
        operation := fun _ h => .inl h
        pending := fun _ h => .inl h
        windows := hwindows
        presentation := by simp
        exported := by simp
        replaced := by simp
        window := by simp
        windowDocument := by simp }
    | ok outcome =>
      refine {
        effect := heffect
        operation := fun _ h => .inl h
        pending := fun _ h => .inl h
        windows := hwindows
        presentation := by simp
        exported := by simp
        replaced := by simp
        window := ?_
        windowDocument := by simp }
      rintro _ _ _ _ _ _ ⟨⟩ ⟨⟩
      exact openReportWindow_ok hopen

theorem answering_spec {operation : Except SessionErrorPayload (DesktopAnswer × DesktopState)}
    (h : ∀ answer state, operation = .ok (answer, state) → answer.Silent ∧
      PresentationEffect env desktop.operation desktop.state state action ∧
      ∀ pending, state.pendingReportExport = some pending →
        desktop.state.pendingReportExport = some pending) :
    desktop.Spec env action (desktop.answering operation) := by
  unfold answering
  cases operation with
  | error error => exact spec_unchanged trivial ⟨_, rfl⟩ (fun _ h => .inl h) rfl
  | ok result =>
    obtain ⟨answer, state⟩ := result
    obtain ⟨hsilent, heffect, hpending⟩ := h answer state rfl
    exact spec_of_silent hsilent heffect (fun _ h => .inl h) hpending rfl

theorem activate_pending :
    (state.activate session path).pendingReportExport = none := by
  unfold DesktopState.activate assignPresentationId
  cases session.presentation <;> rfl

theorem openSession_spec (selected : Except SessionErrorPayload (Option BundlePath))
    (loaded : Except SessionErrorPayload LoadedSnapshot)
    (verified : Except SessionErrorPayload Unit) :
    desktop.Spec env (.openSession selected loaded verified)
      (desktop.step env (.openSession selected loaded verified)) := by
  apply inForeground_spec
  apply answering_spec
  intro answer state h
  simp only [openSessionWithSelection, bind_eq_ok] at h
  obtain ⟨⟨summary, next⟩, ⟨selection, -, hopened⟩, h⟩ := h
  cases selection with
  | none =>
    simp only [pure_eq_ok, Prod.mk.injEq] at hopened
    obtain ⟨rfl, rfl⟩ := hopened
    simp only [pure_eq_ok, Prod.mk.injEq] at h
    obtain ⟨rfl, rfl⟩ := h
    exact ⟨trivial, PresentationEffect.same rfl rfl, fun _ h => h⟩
  | some path =>
    simp only [bind_eq_ok, pure_eq_ok, Prod.mk.injEq] at hopened
    obtain ⟨session, hsession, -, -, -, -, rfl, rfl⟩ := hopened
    simp only [pure_eq_ok, Prod.mk.injEq] at h
    obtain ⟨rfl, rfl⟩ := h
    obtain ⟨hretained, hprepared⟩ := openBundle_ok hsession
    refine ⟨trivial, activate_effect trivial hretained ?_, by simp [activate_pending]⟩
    intro p hp
    obtain ⟨snapshot, rfl, hprepare⟩ := hprepared p hp
    simp [loadedPresentation, hprepare, Except.toOption]

theorem activateCreatedBundle_spec (path : BundlePath)
    (loaded : Except SessionErrorPayload LoadedSnapshot) :
    desktop.Spec env (.activateCreatedBundle path loaded)
      (desktop.step env (.activateCreatedBundle path loaded)) := by
  apply answering_spec
  intro answer state h
  simp only [AntennaBench.activateCreatedBundle, bind_eq_ok, pure_eq_ok] at h
  obtain ⟨result, ⟨session, hsession, -, -, rfl⟩, h⟩ := h
  simp only [Prod.mk.injEq] at h
  obtain ⟨rfl, rfl⟩ := h
  obtain ⟨hretained, hprepared⟩ := openBundle_ok hsession
  refine ⟨trivial, activate_effect trivial hretained ?_, by simp [activate_pending]⟩
  intro p hp
  obtain ⟨snapshot, rfl, hprepare⟩ := hprepared p hp
  simp [loadedPresentation, hprepare, Except.toOption]

theorem reloadActiveSession_spec (source : BundlePath)
    (loaded : Except SessionErrorPayload LoadedSnapshot) :
    desktop.Spec env (.reloadActiveSession source loaded)
      (desktop.step env (.reloadActiveSession source loaded)) := by
  apply answering_spec
  intro answer state h
  rw [bind_eq_ok] at h
  obtain ⟨⟨summary, next⟩, hreload, h⟩ := h
  obtain ⟨rfl, rfl⟩ := Prod.mk.inj (pure_eq_ok.1 h)
  refine ⟨trivial, reload_effect hreload, ?_⟩
  simp only [AntennaBench.reloadActiveSession, bind_eq_ok, pure_eq_ok, Prod.mk.injEq] at hreload
  obtain ⟨refreshed, -, -, -, -, rfl⟩ := hreload
  simp

theorem updateLiveProjection_spec (source : BundlePath) (bundle : BundleV3Contents) :
    desktop.Spec env (.updateLiveProjection source bundle)
      (desktop.step env (.updateLiveProjection source bundle)) := by
  apply answering_spec
  intro answer state h
  rw [bind_eq_ok] at h
  obtain ⟨⟨summary, next⟩, hupdate, h⟩ := h
  obtain ⟨rfl, rfl⟩ := Prod.mk.inj (pure_eq_ok.1 h)
  obtain ⟨hpresentations, hnext, hpending⟩ := update_presentations hupdate
  refine ⟨trivial, PresentationEffect.same hpresentations hnext, ?_⟩
  simp [hpending]

theorem activeSessionReport_spec :
    desktop.Spec env .activeSessionReport (desktop.step env .activeSessionReport) := by
  apply inForeground_spec
  unfold answering
  cases hreport : AntennaBench.activeSessionReport env desktop.state with
  | error error => exact spec_unchanged trivial ⟨_, rfl⟩ (fun _ h => .inl h) rfl
  | ok presentation =>
    exact spec_of_presentation (PresentationEffect.same rfl rfl) (activeSessionReport_ok hreport)
      (fun _ h => h) (fun _ h => h) rfl

theorem reportWindowDocument_spec (callerLabel : String) :
    desktop.Spec env (.reportWindowDocument callerLabel)
      (desktop.step env (.reportWindowDocument callerLabel)) := by
  change desktop.Spec env _ (desktop.answering _)
  unfold answering
  cases hdocument : AntennaBench.reportWindowDocument desktop.windows callerLabel with
  | error error => exact spec_unchanged trivial ⟨_, rfl⟩ (fun _ h => .inl h) rfl
  | ok document =>
    simp only [AntennaBench.reportWindowDocument, bind_eq_ok, orError_eq_ok] at hdocument
    obtain ⟨-, -, hlookup⟩ := hdocument
    exact {
      effect := PresentationEffect.same rfl rfl
      operation := fun _ h => .inl h
      pending := fun _ h => .inl h
      windows := fun _ _ h => .inl h
      presentation := by simp
      exported := by simp
      replaced := by simp
      window := by simp
      windowDocument := by
        rintro _ ⟨⟩
        exact ⟨callerLabel, hlookup⟩ }

/-- Windows that are closed show nothing any more. -/
theorem spec_of_closed {windows : ReportWindows}
    (h : ∀ label document, windows.lookup label = some document →
      desktop.windows.lookup label = some document) :
    desktop.Spec env action (.nothing, { desktop with windows }) where
  effect := PresentationEffect.same rfl rfl
  operation := fun _ h => .inl h
  pending := fun _ h => .inl h
  windows := fun label document hlookup => .inl (h label document hlookup)
  presentation := by simp
  exported := by simp
  replaced := by simp
  window := by simp
  windowDocument := by simp

theorem step_spec (env : DesktopEnv) (desktop : Desktop) (action : DesktopAction) :
    desktop.Spec env action (desktop.step env action) := by
  have hnothing : ∀ action, desktop.Spec env action (.nothing, desktop) :=
    fun action => spec_unchanged trivial ⟨_, rfl⟩ (fun _ h => .inl h) rfl
  cases action with
  | openSession selected loaded verified => exact openSession_spec selected loaded verified
  | activateCreatedBundle path loaded => exact activateCreatedBundle_spec path loaded
  | reloadActiveSession source loaded => exact reloadActiveSession_spec source loaded
  | updateLiveProjection source bundle => exact updateLiveProjection_spec source bundle
  | holdForeground =>
    apply inForeground_spec
    exact spec_unchanged trivial ⟨_, rfl⟩ (fun _ h => .inl h) rfl
  | releaseForeground =>
    unfold step
    dsimp only
    split_ifs with hoperation
    · exact hnothing _
    · exact spec_unchanged trivial ⟨_, rfl⟩ (fun _ h => by cases h) rfl
  | activeSessionReport => exact activeSessionReport_spec
  | beginExport displayed selection => exact inForeground_spec (startExport_spec _ _)
  | finishExport answers =>
    unfold step
    dsimp only
    split
    · rename_i hoperation
      exact endExport_spec _ _ _ answers hoperation
    · exact hnothing _
  | beginConfirm id => exact inForeground_spec (startConfirm_spec id)
  | finishConfirm before after replaced =>
    unfold step
    dsimp only
    split
    · rename_i hoperation
      exact endConfirm_spec _ before after replaced hoperation
    · exact hnothing _
  | cancelExport id =>
    apply inForeground_spec
    refine spec_of_silent trivial (PresentationEffect.same ?_ ?_) (fun _ h => .inl h)
      (fun _ h => cancelPendingExport_pending h) rfl
    · unfold cancelPendingExport
      split_ifs <;> rfl
    · unfold cancelPendingExport
      split_ifs <;> rfl
  | beginRefresh displayed => exact inForeground_spec (startRefresh_spec displayed)
  | checkRefresh loaded =>
    unfold step
    dsimp only
    split
    · exact attemptRefresh_spec _ _ _ _ loaded
    · exact hnothing _
  | publishRefresh verified =>
    unfold step
    dsimp only
    split
    · rename_i hoperation
      exact endRefresh_spec _ _ _ _ _ _ verified hoperation
    · exact hnothing _
  | openReportWindow callerLabel displayed kind focused created =>
    exact showWindow_spec callerLabel displayed kind focused created
  | reportWindowDocument callerLabel => exact reportWindowDocument_spec callerLabel
  | windowDestroyed label =>
    apply spec_of_closed
    intro other document h
    by_cases heq : other = label
    · rw [heq, AList.lookup_erase] at h
      cases h
    · rwa [AList.lookup_erase_ne heq] at h
  | closeReportWindows =>
    apply spec_of_closed
    intro label document h
    simp at h

end Desktop

end AntennaBench
