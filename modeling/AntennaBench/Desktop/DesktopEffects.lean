import AntennaBench.Desktop.DesktopRuns

/-!
# What the functions of the desktop change

Which presentations the state has after a function, and where the pending export, the
windows and the displayed session come from.
-/

namespace AntennaBench

/-- The presentations the state knows by a number. -/
def DesktopState.presentations (state : DesktopState) : List ReportPresentation :=
  match state.active with
  | none => []
  | some session => session.presentation.toList ++ session.retainedPresentation.toList

/-- The sections that give a presentation the next number. -/
def TakesNumber : DesktopAction → Prop
  | .openSession .. => True
  | .activateCreatedBundle .. => True
  | .publishRefresh .. => True
  | _ => False

section

variable (env : DesktopEnv)

/-- The documents a reload puts in place of the active session's. -/
def reloadedDocuments (state : DesktopState) : DesktopAction → Option ReportDocuments
  | .reloadActiveSession source loaded => do
    let refreshed ← (openBundle env source loaded).toOption
    if state.active.any fun session => session.source ≠ source then none
    else refreshed.presentation.map (·.toReportDocuments)
  | _ => none

/-- The presentation of the snapshot that a section loads. -/
def loadedPresentation : DesktopAction → Option ReportPresentation
  | .openSession _ (.ok snapshot) _ | .activateCreatedBundle _ (.ok snapshot)
  | .reloadActiveSession _ (.ok snapshot) | .checkRefresh (.ok snapshot) =>
    (preparePresentation env snapshot).toOption
  | _ => none

/-- Two presentations of one report, whatever their numbers. -/
structure SameReport (p q : ReportPresentation) : Prop where
  documents : p.toReportDocuments = q.toReportDocuments
  sessionId : p.sessionId = q.sessionId
  revision : p.revision = q.revision

/-- Where a new presentation comes from: the snapshot that was just loaded, or the refresh
that has prepared it. -/
inductive PresentedFrom (operation : Option ForegroundOperation) (action : DesktopAction)
    (presentation : ReportPresentation) : Prop
  | loaded (loaded : ReportPresentation) (isLoaded : loadedPresentation env action = some loaded)
      (same : SameReport loaded presentation)
  | prepared (source : BundlePath) (bundleName : String) (displayed : Option ℕ) (attempts : ℕ)
      (snapshot : LoadedSnapshot) (prepared : ReportPresentation)
      (isPrepared : operation =
        some (.prepared source bundleName displayed attempts snapshot prepared))
      (same : SameReport prepared presentation)

/-- What a section does to the presentations and to the counter of their numbers. -/
inductive PresentationEffect (operation : Option ForegroundOperation) (before after : DesktopState)
    (action : DesktopAction) : Prop
  | kept (mem : ∀ p ∈ after.presentations, p ∈ before.presentations)
      (next : after.nextPresentationId = before.nextPresentationId)
  | numbered (takes : TakesNumber action) (presentation : ReportPresentation)
      (origin : PresentedFrom env operation action presentation)
      (id : presentation.presentationId = nextId before.nextPresentationId)
      (next : after.nextPresentationId = nextId before.nextPresentationId)
      (mem : ∀ p ∈ after.presentations, p = presentation ∨ p ∈ before.presentations)
  | reloaded (documents : ReportDocuments)
      (put : reloadedDocuments env before action = some documents)
      (mem : ∀ p ∈ after.presentations, p.presentationId = 0 ∧ p.toReportDocuments = documents)
      (origin : ∀ p ∈ after.presentations, PresentedFrom env operation action p)
      (next : after.nextPresentationId = before.nextPresentationId)

end

variable {env : DesktopEnv} {state next : DesktopState} {action : DesktopAction}
  {session : ActiveSession} {path source : BundlePath} {summary : OpenedSession}
  {loaded : Except SessionErrorPayload LoadedSnapshot} {displayed : Option ℕ}
  {presentation : ReportPresentation} {operation : Option ForegroundOperation}

/-- A presentation that was not there before is a new one. -/
theorem PresentationEffect.presented (h : PresentationEffect env operation state next action) :
    ∀ p ∈ next.presentations, p ∈ state.presentations ∨ PresentedFrom env operation action p := by
  intro p hp
  cases h with
  | kept mem _ => exact .inl (mem p hp)
  | numbered _ presentation origin _ _ mem =>
    rcases mem p hp with rfl | hold
    · exact .inr origin
    · exact .inl hold
  | reloaded _ _ _ origin _ => exact .inr (origin p hp)

theorem mem_presentations : presentation ∈ state.presentations ↔
    ∃ session, state.active = some session ∧
      (session.presentation = some presentation ∨
        session.retainedPresentation = some presentation) := by
  unfold DesktopState.presentations
  cases state.active with
  | none => simp
  | some session => simp

theorem presentationForId_some {id : ℕ} (h : presentationForId session id = some presentation) :
    presentation.presentationId = id ∧ (session.presentation = some presentation ∨
      session.retainedPresentation = some presentation) := by
  unfold presentationForId at h
  rw [Option.or_eq_some_iff] at h
  rcases h with h | ⟨-, h⟩
  · rw [Option.filter_eq_some_iff] at h
    exact ⟨by simpa using h.2, .inl h.1⟩
  · rw [Option.filter_eq_some_iff] at h
    exact ⟨by simpa using h.2, .inr h.1⟩

theorem preparePresentation_id {snapshot : LoadedSnapshot}
    (h : preparePresentation env snapshot = .ok presentation) :
    presentation.presentationId = 0 := by
  simp only [preparePresentation, bind_eq_ok, pure_eq_ok] at h
  obtain ⟨documents, -, rfl⟩ := h
  rfl

/-- A session as it was opened: its presentation is the one of the snapshot, and none is kept
beside it. -/
theorem openBundle_ok (h : openBundle env path loaded = .ok session) :
    session.retainedPresentation = none ∧ ∀ p ∈ session.presentation,
      ∃ snapshot, loaded = .ok snapshot ∧ preparePresentation env snapshot = .ok p := by
  simp only [openBundle, bind_eq_ok, orError_eq_ok, pure_eq_ok] at h
  obtain ⟨name, -, snapshot, hloaded, rfl⟩ := h
  refine ⟨rfl, fun p hp => ?_⟩
  have hprepared : (preparePresentation env snapshot).toOption = some p := hp
  cases hprepare : preparePresentation env snapshot with
  | error error => simp [hprepare, Except.toOption] at hprepared
  | ok prepared =>
    obtain rfl : prepared = p := by simpa [hprepare, Except.toOption] using hprepared
    exact ⟨snapshot, hloaded, hprepare⟩

theorem activate_effect (htakes : TakesNumber action)
    (hretained : session.retainedPresentation = none)
    (hloaded : ∀ p ∈ session.presentation, loadedPresentation env action = some p) :
    PresentationEffect env operation state (state.activate session path) action := by
  unfold DesktopState.activate assignPresentationId
  cases hpresentation : session.presentation with
  | none =>
    refine .kept ?_ rfl
    intro p hp
    simp [mem_presentations, hpresentation, hretained] at hp
  | some presentation =>
    refine .numbered htakes { presentation with
      presentationId := nextId state.nextPresentationId }
      (.loaded presentation (hloaded presentation hpresentation) ⟨rfl, rfl, rfl⟩) rfl rfl ?_
    intro p hp
    simp only [mem_presentations] at hp
    obtain ⟨s, hs, hp⟩ := hp
    obtain rfl := Option.some.inj hs
    simp only [hretained, reduceCtorEq, or_false, Option.some.injEq] at hp
    exact .inl hp.symm

theorem reload_effect {selected : BundlePath}
    (h : reloadActiveSession env state selected loaded = .ok (summary, next)) :
    PresentationEffect env operation state next (.reloadActiveSession selected loaded) := by
  simp only [reloadActiveSession, bind_eq_ok, failIf_eq_ok, pure_eq_ok, Prod.mk.injEq] at h
  obtain ⟨refreshed, hrefreshed, -, hsame, -, rfl⟩ := h
  obtain ⟨hretained, hprepared⟩ := openBundle_ok hrefreshed
  cases hpresentation : refreshed.presentation with
  | none =>
    refine .kept ?_ rfl
    intro p hp
    simp [mem_presentations, hpresentation, hretained] at hp
  | some presentation =>
    obtain ⟨snapshot, rfl, hprepare⟩ := hprepared presentation hpresentation
    have hall : ∀ p ∈ ({ state with
        active := some refreshed, pendingReportExport := none } : DesktopState).presentations,
        p = presentation := by
      intro p hp
      simp only [mem_presentations, Option.some.injEq, exists_eq_left', hpresentation, hretained,
        reduceCtorEq, or_false] at hp
      exact hp.symm
    refine .reloaded presentation.toReportDocuments ?_ ?_ ?_ rfl
    · simp only [reloadedDocuments, hrefreshed, Except.toOption, hsame]
      simp [hpresentation]
    · intro p hp
      rw [hall p hp]
      exact ⟨preparePresentation_id hprepare, rfl⟩
    · intro p hp
      rw [hall p hp]
      exact .loaded presentation (by simp [loadedPresentation, hprepare, Except.toOption])
        ⟨rfl, rfl, rfl⟩

theorem update_presentations {bundle : BundleV3Contents}
    (h : updateActiveSessionLiveProjection state source bundle = .ok (summary, next)) :
    next.presentations = state.presentations ∧
      next.nextPresentationId = state.nextPresentationId ∧
      next.pendingReportExport = state.pendingReportExport := by
  simp only [updateActiveSessionLiveProjection, bind_eq_ok, orError_eq_ok, pure_eq_ok,
    Prod.mk.injEq] at h
  obtain ⟨session, hsession, -, -, -, rfl⟩ := h
  simp [DesktopState.presentations, hsession]

theorem activeSessionReport_ok (h : activeSessionReport env state = .ok presentation) :
    presentation ∈ state.presentations := by
  simp only [activeSessionReport, bind_eq_ok, orError_eq_ok, pure_eq_ok] at h
  obtain ⟨session, hsession, -, -, -, -, p, hp, -, -, rfl⟩ := h
  exact mem_presentations.2 ⟨session, hsession, .inl hp⟩

theorem refreshExisting_ok {snapshot : LoadedSnapshot} {existing : Option ReportPresentation}
    (h : refreshExisting state source displayed snapshot = .ok (existing, next)) :
    (∀ p ∈ next.presentations, p ∈ state.presentations) ∧
      (∀ p ∈ existing, p ∈ next.presentations) ∧
      next.nextPresentationId = state.nextPresentationId ∧
      next.pendingReportExport = state.pendingReportExport := by
  simp only [refreshExisting, bind_eq_ok, orError_eq_ok, Option.filter_eq_some_iff] at h
  obtain ⟨session, ⟨hsession, -⟩, h⟩ := h
  cases displayed with
  | none =>
    simp only [pure_eq_ok, Prod.mk.injEq] at h
    obtain ⟨rfl, rfl⟩ := h
    refine ⟨fun _ hp => hp, fun p hp => ?_, rfl, rfl⟩
    exact mem_presentations.2 ⟨session, hsession, .inl (Option.filter_eq_some_iff.1 hp).1⟩
  | some id =>
    simp only [bind_eq_ok, pure_eq_ok, Prod.mk.injEq] at h
    obtain ⟨isCurrent, -, rfl, rfl⟩ := h
    refine ⟨?_, ?_, rfl, rfl⟩
    · intro p hp
      simp only [mem_presentations, Option.some.injEq, exists_eq_left'] at hp
      apply mem_presentations.2
      refine ⟨session, hsession, ?_⟩
      split_ifs at hp
      · exact .inl (by simpa using hp)
      · exact hp
    · intro p hp
      have hcurrent := (Option.filter_eq_some_iff.1 hp).1
      simp only [mem_presentations, Option.some.injEq, exists_eq_left']
      left
      split_ifs <;> exact hcurrent

theorem refreshPublish_ok {published : ReportPresentation}
    (h : refreshPublish state source displayed summary presentation = .ok (published, next)) :
    SameReport presentation published ∧
      published.presentationId = nextId state.nextPresentationId ∧
      next.nextPresentationId = nextId state.nextPresentationId ∧
      published ∈ next.presentations ∧
      (∀ p ∈ next.presentations, p = published ∨ p ∈ state.presentations) ∧
      next.pendingReportExport = none := by
  simp only [refreshPublish, bind_eq_ok, orError_eq_ok, failIf_eq_ok, pure_eq_ok,
    Prod.mk.injEq] at h
  obtain ⟨session, hsession, -, -, retained, hretained, rfl, rfl⟩ := h
  refine ⟨⟨rfl, rfl, rfl⟩, rfl, rfl, ?_, ?_, rfl⟩
  · simp [mem_presentations]
  · intro p hp
    simp only [mem_presentations, Option.some.injEq, exists_eq_left'] at hp
    rcases hp with hp | hp
    · exact .inl hp.symm
    · right
      apply mem_presentations.2
      refine ⟨session, hsession, ?_⟩
      rw [hp] at hretained
      cases displayed with
      | none => simp [presentationToRetain] at hretained
      | some id =>
        simp only [presentationToRetain, bind_eq_ok, pure_eq_ok] at hretained
        obtain ⟨isCurrent, -, hretained⟩ := hretained
        split_ifs at hretained
        · exact .inl hretained
        · exact .inr hretained

theorem chooseExport_ok {result : Except SessionErrorPayload (BundlePath × ReportPresentation)}
    (h : chooseExport state displayed = (result, next)) :
    next.presentations = state.presentations ∧
      next.nextPresentationId = state.nextPresentationId ∧ next.pendingReportExport = none ∧
      ∀ source p, result = .ok (source, p) → p ∈ state.presentations ∧
        ∀ id, displayed = some id → p.presentationId = id := by
  unfold chooseExport at h
  obtain ⟨hresult, rfl⟩ := Prod.mk.inj h
  refine ⟨rfl, rfl, rfl, ?_⟩
  rintro source p rfl
  simp only [bind_eq_ok, orError_eq_ok] at hresult
  obtain ⟨session, hsession, hchosen⟩ := hresult
  cases displayed with
  | none =>
    simp only [bind_eq_ok, orError_eq_ok, pure_eq_ok, Prod.mk.injEq] at hchosen
    obtain ⟨presentation, hpresentation, -, rfl⟩ := hchosen
    exact ⟨mem_presentations.2 ⟨session, hsession, .inl hpresentation⟩, by simp⟩
  | some id =>
    simp only [bind_eq_ok, orError_eq_ok, pure_eq_ok, Prod.mk.injEq] at hchosen
    obtain ⟨presentation, hpresentation, -, rfl⟩ := hchosen
    obtain ⟨hid, hkept⟩ := presentationForId_some hpresentation
    exact ⟨mem_presentations.2 ⟨session, hsession, hkept⟩, by simp [hid]⟩

/-- Where a pending export comes from: the presentation that was chosen, in the variant that
was asked for. -/
structure PendingOf (presentation : ReportPresentation) (selection : ReportSelection)
    (pending : PendingReportExport) : Prop where
  html : presentation.exportHtml selection = .ok pending.html
  presentationId : pending.presentationId = presentation.presentationId

/-- What is known of an export that came to its end. -/
inductive ExportEnd (state : DesktopState) (presentation : ReportPresentation)
    (selection : ReportSelection) : ExportReportOutcome × Option String × DesktopState → Prop
  | cancelled : ExportEnd state presentation selection (.cancelled, none, state)
  | exported (fileName html : String) (isHtml : presentation.exportHtml selection = .ok html) :
      ExportEnd state presentation selection
        (.exported fileName presentation.revision selection.format, some html, state)
  | waiting (pending : PendingReportExport) (isPending : PendingOf presentation selection pending) :
      ExportEnd state presentation selection
        (.confirmationRequired pending.pendingExportId pending.fileName presentation.revision
          selection.format, none, { state with pendingReportExport := some pending })

theorem finishExport_ok {selection : ReportSelection} {answers : ExportAnswers}
    {result : ExportReportOutcome × Option String × DesktopState}
    (h : finishExport state presentation selection answers = .ok result) :
    ExportEnd state presentation selection result := by
  simp only [finishExport, bind_eq_ok] at h
  obtain ⟨destination, -, h⟩ := h
  cases destination with
  | none =>
    obtain rfl := pure_eq_ok.1 h
    exact .cancelled
  | some destination =>
    simp only [bind_eq_ok] at h
    obtain ⟨fileName, -, html, hhtml, existing, -, h⟩ := h
    cases existing with
    | none =>
      simp only [bind_eq_ok, pure_eq_ok] at h
      obtain ⟨-, -, rfl⟩ := h
      exact .exported fileName html hhtml
    | some identity =>
      simp only [bind_eq_ok, pure_eq_ok] at h
      obtain ⟨-, -, rfl⟩ := h
      refine .waiting (PendingReportExport.mk _ _ _ _ _ _ _ _ _) ?_
      exact ⟨hhtml, rfl⟩

theorem takePendingExport_ok {id : String} {pending : PendingReportExport}
    (h : takePendingExport state id = .ok (pending, next)) :
    state.pendingReportExport = some pending ∧
      next = { state with pendingReportExport := none } := by
  simp only [takePendingExport, bind_eq_ok, orError_eq_ok, Option.filter_eq_some_iff, pure_eq_ok,
    Prod.mk.injEq] at h
  obtain ⟨taken, ⟨htaken, -⟩, rfl, rfl⟩ := h
  exact ⟨htaken, rfl⟩

theorem confirmPendingExport_ok {pending : PendingReportExport}
    {before after : Except SessionErrorPayload ReportDestinationIdentity}
    {replaced : Except SessionErrorPayload Unit} {outcome : ExportReportOutcome} {html : String}
    (h : confirmPendingExport state pending before after replaced = .ok (outcome, html)) :
    html = pending.html := by
  simp only [confirmPendingExport, bind_eq_ok, pure_eq_ok, Prod.mk.injEq] at h
  obtain ⟨-, -, -, -, -, -, -, -, -, -, -, -, -, rfl⟩ := h
  rfl

theorem cancelPendingExport_pending {id : String} {pending : PendingReportExport}
    (h : (cancelPendingExport state id).pendingReportExport = some pending) :
    state.pendingReportExport = some pending := by
  unfold cancelPendingExport at h
  split_ifs at h
  exact h

theorem selectedDocument_ok {id : ℕ} {kind : ReportDocumentKind} {document : ReportWindowDocument}
    (h : selectedDocument env state id kind = .ok document) :
    ∃ session presentation, state.active = some session ∧
      presentationForId session id = some presentation ∧
      document.windowLabel = reportWindowLabel env presentation.sessionId
        presentation.revision kind ∧
      document.presentationId = id ∧ document.documentKind = kind ∧
      document.html = presentation.windowHtml kind := by
  simp only [selectedDocument, bind_eq_ok, orError_eq_ok, pure_eq_ok] at h
  obtain ⟨session, hsession, presentation, hpresentation, -, -, rfl⟩ := h
  exact ⟨session, presentation, hsession, hpresentation, rfl,
    (presentationForId_some hpresentation).1, rfl, rfl⟩

/-- The document under a label is of one of the presentations the state knows, which has that
label. -/
def DocumentOf (env : DesktopEnv) (state : DesktopState) (label : String)
    (document : ReportWindowDocument) : Prop :=
  ∃ presentation ∈ state.presentations, presentation.presentationId = document.presentationId ∧
    document.html = presentation.windowHtml document.documentKind ∧
    label = reportWindowLabel env presentation.sessionId presentation.revision document.documentKind

section

variable {windows opened : ReportWindows} {callerLabel : String} {id : ℕ}
  {kind : ReportDocumentKind} {focused : Except ReportWindowPortError Bool}
  {created : Except ReportWindowPortError Unit}

theorem createReportWindow_ok {document : ReportWindowDocument}
    {outcome : OpenReportWindowOutcome}
    (h : createReportWindow windows document created = (.ok outcome, opened)) :
    outcome.windowLabel = document.windowLabel ∧
      opened.lookup document.windowLabel = some document := by
  unfold createReportWindow at h
  dsimp only at h
  split_ifs at h with hroom
  · simp at h
  · cases created with
    | error error => simp at h
    | ok _ =>
      simp only [Prod.mk.injEq, Except.ok.injEq] at h
      obtain ⟨rfl, rfl⟩ := h
      exact ⟨rfl, AList.lookup_insert _⟩

theorem createReportWindow_windows {document other : ReportWindowDocument} {label : String}
    {result : Except SessionErrorPayload OpenReportWindowOutcome}
    (h : createReportWindow windows document created = (result, opened))
    (hlookup : opened.lookup label = some other) :
    windows.lookup label = some other ∨ (label = document.windowLabel ∧ other = document) := by
  have hinsert : (windows.insert document.windowLabel document).lookup label = some other →
      windows.lookup label = some other ∨ (label = document.windowLabel ∧ other = document) := by
    intro hinserted
    by_cases heq : label = document.windowLabel
    · rw [heq, AList.lookup_insert] at hinserted
      exact .inr ⟨heq, (Option.some.inj hinserted).symm⟩
    · rw [AList.lookup_insert_ne heq] at hinserted
      exact .inl hinserted
  unfold createReportWindow at h
  dsimp only at h
  split_ifs at h with hroom
  · obtain ⟨-, rfl⟩ := Prod.mk.inj h
    exact .inl hlookup
  · cases created with
    | error error =>
      obtain ⟨-, rfl⟩ := Prod.mk.inj h
      by_cases heq : label = document.windowLabel
      · rw [heq, AList.lookup_erase] at hlookup
        cases hlookup
      · rw [AList.lookup_erase_ne heq] at hlookup
        exact hinsert hlookup
    | ok _ =>
      obtain ⟨-, rfl⟩ := Prod.mk.inj h
      exact hinsert hlookup

/-- A request that shows a window shows the document of the presentation that is asked for,
or the one an open window of the same label has. -/
theorem openReportWindow_ok {outcome : OpenReportWindowOutcome}
    (h : openReportWindow env state windows callerLabel id kind focused created =
      (.ok outcome, opened)) :
    ∃ session presentation, state.active = some session ∧
      presentationForId session id = some presentation ∧
      outcome.windowLabel =
        reportWindowLabel env presentation.sessionId presentation.revision kind ∧
      ((∃ document, opened.lookup outcome.windowLabel = some document ∧
          document.html = presentation.windowHtml kind) ∨
        (callerLabel = "main" ∧ focused = .ok true ∧ opened = windows ∧
          (windows.lookup outcome.windowLabel).isSome)) := by
  unfold openReportWindow at h
  split_ifs at h with hcaller
  · simp at h
  · simp only [ne_eq, Decidable.not_not] at hcaller
    cases hselected : selectedDocument env state id kind with
    | error error => simp [hselected] at h
    | ok document =>
      obtain ⟨session, presentation, hsession, hpresentation, hlabel, -, hkind, hhtml⟩ :=
        selectedDocument_ok hselected
      refine ⟨session, presentation, hsession, hpresentation, ?_⟩
      simp only [hselected] at h
      rw [← hlabel]
      cases hopen : windows.lookup document.windowLabel with
      | none =>
        simp only [hopen] at h
        obtain ⟨hlabel', hlookup⟩ := createReportWindow_ok h
        exact ⟨hlabel', .inl ⟨document, by rw [hlabel', hlookup], hhtml⟩⟩
      | some other =>
        simp only [hopen] at h
        match focused, h with
        | .ok true, h =>
          simp only [Prod.mk.injEq, Except.ok.injEq] at h
          obtain ⟨rfl, rfl⟩ := h
          exact ⟨rfl, .inr ⟨hcaller, rfl, rfl, by
            simp [OpenReportWindowOutcome.windowLabel, hopen]⟩⟩
        | .ok false, h =>
          obtain ⟨hlabel', hlookup⟩ := createReportWindow_ok h
          exact ⟨hlabel', .inl ⟨document, by rw [hlabel', hlookup], hhtml⟩⟩

theorem openReportWindow_windows
    {result : Except SessionErrorPayload OpenReportWindowOutcome}
    (h : openReportWindow env state windows callerLabel id kind focused created = (result, opened))
    {label : String} {document : ReportWindowDocument}
    (hlookup : opened.lookup label = some document) :
    windows.lookup label = some document ∨ DocumentOf env state label document := by
  unfold openReportWindow at h
  split_ifs at h with hcaller
  · obtain ⟨-, rfl⟩ := Prod.mk.inj h
    exact .inl hlookup
  · cases hselected : selectedDocument env state id kind with
    | error error =>
      simp only [hselected] at h
      obtain ⟨-, rfl⟩ := Prod.mk.inj h
      exact .inl hlookup
    | ok selected =>
      have hselectedOf : DocumentOf env state selected.windowLabel selected := by
        obtain ⟨session, presentation, hsession, hpresentation, hlabel, hid, hkind, hhtml⟩ :=
          selectedDocument_ok hselected
        obtain ⟨hpid, hkept⟩ := presentationForId_some hpresentation
        exact ⟨presentation, mem_presentations.2 ⟨session, hsession, hkept⟩, by rw [hpid, hid],
          by rw [hhtml, hkind], by rw [hlabel, hkind]⟩
      simp only [hselected] at h
      cases hopen : windows.lookup selected.windowLabel with
      | none =>
        simp only [hopen] at h
        rcases createReportWindow_windows h hlookup with hlookup | ⟨rfl, rfl⟩
        · exact .inl hlookup
        · exact .inr hselectedOf
      | some other =>
        simp only [hopen] at h
        match focused, h with
        | .error error, h =>
          obtain ⟨-, rfl⟩ := Prod.mk.inj h
          exact .inl hlookup
        | .ok true, h =>
          obtain ⟨-, rfl⟩ := Prod.mk.inj h
          exact .inl hlookup
        | .ok false, h =>
          rcases createReportWindow_windows h hlookup with hlookup | ⟨rfl, rfl⟩
          · by_cases heq : label = selected.windowLabel
            · rw [heq, AList.lookup_erase] at hlookup
              cases hlookup
            · rw [AList.lookup_erase_ne heq] at hlookup
              exact .inl hlookup
          · exact .inr hselectedOf

end

end AntennaBench
