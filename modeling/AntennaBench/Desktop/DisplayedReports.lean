import AntennaBench.Desktop.DesktopSteps
import AntennaBench.Timeline.Throughout

/-!
# What is exported is what was displayed

The frontend knows a presentation by its number. Over every run in which the reloads put one
report in place, the numbers do not run out and a window label stands for one document, a
number stands for one set of documents, and what is exported, replaced or shown under a number
are the documents that were returned under it.
-/

namespace AntennaBench

open Timeline

/-- The presentation a step handed to the frontend. -/
def DesktopStep.returned? (step : DesktopStep) : Option ReportPresentation :=
  match step.answer with
  | .presentation presentation => some presentation
  | _ => none

/-- The presentation was known to the state or to the frontend after one of the steps. -/
def Seen (steps : List DesktopStep) (presentation : ReportPresentation) : Prop :=
  ∃ step ∈ steps, presentation ∈ step.after.state.presentations ∨
    step.returned? = some presentation

/-- The documents that were returned under the number so far have the property. -/
def AsReturned (earlier : List DesktopStep) (id : ℕ) (P : ReportDocuments → Prop) : Prop :=
  ∀ e ∈ earlier, ∀ presentation, e.returned? = some presentation →
    presentation.presentationId = id → P presentation.toReportDocuments

/-- A number stands for one set of documents, and what leaves the desktop under it is what
was returned under it. -/
structure Faithful (earlier : List DesktopStep) (step : DesktopStep) : Prop where
  oneReport : ∀ p q, Seen (earlier ++ [step]) p → Seen (earlier ++ [step]) q →
    p.presentationId = q.presentationId → p.toReportDocuments = q.toReportDocuments
  exported : ∀ id selection html outcome,
    step.answer = .exported (some id) selection html outcome →
      AsReturned earlier id fun documents => documents.exportHtml selection = .ok html
  replaced : ∀ pendingExportId html outcome,
    step.answer = .replaced pendingExportId html outcome →
      ∃ e ∈ earlier, ∃ displayed selection fileName revision format,
        e.answer = .waiting displayed selection
          (.confirmationRequired pendingExportId fileName revision format) ∧
        ∀ id, displayed = some id →
          AsReturned earlier id fun documents => documents.exportHtml selection = .ok html
  window : ∀ callerLabel displayed kind focused created outcome,
    step.action = .openReportWindow callerLabel displayed kind focused created →
    step.answer = .window outcome →
      ∃ document, step.after.windows.lookup outcome.windowLabel = some document ∧
        AsReturned earlier displayed fun documents => document.html = documents.windowHtml kind
  windowDocument : ∀ document, step.answer = .windowDocument document →
    AsReturned earlier document.presentationId fun documents =>
      document.html = documents.windowHtml document.documentKind

/-- A snapshot with this presentation was loaded in one of the steps. -/
def Loaded (env : DesktopEnv) (steps : List DesktopStep) (presentation : ReportPresentation) :
    Prop :=
  ∃ step ∈ steps, loadedPresentation env step.action = some presentation

/-- What a step must not do: let the numbers run out, put a second report in place under the
number of the reloads, or ask for a window when snapshots were loaded that share its label,
which is the session, the revision and the kind, but not the document. -/
structure Careful (env : DesktopEnv) (earlier : List DesktopStep) (step : DesktopStep) :
    Prop where
  counter : TakesNumber step.action → step.before.state.nextPresentationId < u64Max
  reload : ∀ documents, reloadedDocuments env step.before.state step.action = some documents →
    ∀ e ∈ earlier, ∀ others, reloadedDocuments env e.before.state e.action = some others →
      others = documents
  window : ∀ displayed kind created,
    step.action = .openReportWindow "main" displayed kind (.ok true) created →
    ∀ p q otherKind, Loaded env earlier p → Loaded env earlier q →
      reportWindowLabel env p.sessionId p.revision kind =
        reportWindowLabel env q.sessionId q.revision otherKind →
      p.windowHtml kind = q.windowHtml otherKind

/-- A step that gives no number, reloads nothing and asks for no window is careful. -/
theorem Careful.of_quiet {env : DesktopEnv} {earlier : List DesktopStep} {step : DesktopStep}
    (hnumber : ¬TakesNumber step.action)
    (hreload : ∀ state, reloadedDocuments env state step.action = none)
    (hwindow : ∀ callerLabel displayed kind focused created,
      step.action ≠ .openReportWindow callerLabel displayed kind focused created) :
    Careful env earlier step where
  counter := fun h => absurd h hnumber
  reload := by simp [hreload]
  window := fun _ _ _ haction => absurd haction (hwindow _ _ _ _ _)

/-- The presentation was known to the state after one of the steps. -/
def Carried (steps : List DesktopStep) (presentation : ReportPresentation) : Prop :=
  ∃ step ∈ steps, presentation ∈ step.after.state.presentations

/-- What a pending export holds comes from an export that waits for its confirmation. -/
def PendingKept (steps : List DesktopStep) (pending : PendingReportExport) : Prop :=
  ∃ step ∈ steps, ∃ displayed selection fileName revision format presentation,
    step.answer = .waiting displayed selection
      (.confirmationRequired pending.pendingExportId fileName revision format) ∧
    Carried steps presentation ∧
    (∀ id, displayed = some id → presentation.presentationId = id) ∧
    presentation.exportHtml selection = .ok pending.html

/-- What the operation under way holds was known before. -/
def OperationKept (env : DesktopEnv) (steps : List DesktopStep) : ForegroundOperation → Prop
  | .exporting displayed presentation _ => Carried steps presentation ∧
      ∀ id, displayed = some id → presentation.presentationId = id
  | .confirming pending => PendingKept steps pending
  | .prepared _ _ _ _ _ presentation => Loaded env steps presentation
  | .refreshing .. => True

/-- Each number so far stands for one report, the number of the reloads too. -/
structure NumbersKept (env : DesktopEnv) (steps : List DesktopStep) (next : ℕ) : Prop where
  bound : ∀ p, Carried steps p → p.presentationId ≤ next
  reloaded : ∀ p, Carried steps p → p.presentationId = 0 → ∃ step ∈ steps,
    reloadedDocuments env step.before.state step.action = some p.toReportDocuments
  agree : ∀ p q, Carried steps p → Carried steps q → p.presentationId = q.presentationId →
    p.toReportDocuments = q.toReportDocuments

/-- What a window shows was carried under its number, and its label is the one of that
report. -/
def WindowKept (env : DesktopEnv) (steps : List DesktopStep) (label : String)
    (document : ReportWindowDocument) : Prop :=
  ∃ presentation, Carried steps presentation ∧
    presentation.presentationId = document.presentationId ∧
    document.html = presentation.windowHtml document.documentKind ∧
    label = reportWindowLabel env presentation.sessionId presentation.revision document.documentKind

structure DesktopKept (env : DesktopEnv) (steps : List DesktopStep) (desktop : Desktop) :
    Prop extends NumbersKept env steps desktop.state.nextPresentationId where
  carried : ∀ p ∈ desktop.state.presentations, Carried steps p
  loaded : ∀ p, Carried steps p → ∃ q, Loaded env steps q ∧ SameReport q p
  operation : ∀ operation, desktop.operation = some operation → OperationKept env steps operation
  pending : ∀ pending, desktop.state.pendingReportExport = some pending →
    PendingKept steps pending
  windows : ∀ label document, desktop.windows.lookup label = some document →
    WindowKept env steps label document
  returned : ∀ step ∈ steps, ∀ p, step.returned? = some p → Carried steps p

variable {env : DesktopEnv} {steps : List DesktopStep} {desktop : Desktop} {step : DesktopStep}
  {presentation : ReportPresentation} {next : ℕ}

theorem Carried.concat (h : Carried steps presentation) (step : DesktopStep) :
    Carried (steps ++ [step]) presentation := by
  obtain ⟨e, he, hmem⟩ := h
  exact ⟨e, List.mem_append_left _ he, hmem⟩

theorem carried_concat : Carried (steps ++ [step]) presentation ↔
    Carried steps presentation ∨ presentation ∈ step.after.state.presentations := by
  simp [Carried, or_and_right, exists_or]

theorem PendingKept.concat {pending : PendingReportExport} (h : PendingKept steps pending)
    (step : DesktopStep) : PendingKept (steps ++ [step]) pending := by
  obtain ⟨e, he, displayed, selection, fileName, revision, format, p, hanswer, hp, hid, hhtml⟩ := h
  exact ⟨e, List.mem_append_left _ he, displayed, selection, fileName, revision, format, p, hanswer,
    hp.concat step, hid, hhtml⟩

theorem Loaded.concat (h : Loaded env steps presentation) (step : DesktopStep) :
    Loaded env (steps ++ [step]) presentation := by
  obtain ⟨e, he, hloaded⟩ := h
  exact ⟨e, List.mem_append_left _ he, hloaded⟩

theorem WindowKept.concat {label : String} {document : ReportWindowDocument}
    (h : WindowKept env steps label document) (step : DesktopStep) :
    WindowKept env (steps ++ [step]) label document := by
  obtain ⟨presentation, hcarried, hdocument⟩ := h
  exact ⟨presentation, hcarried.concat step, hdocument⟩

theorem OperationKept.concat {operation : ForegroundOperation}
    (h : OperationKept env steps operation) (step : DesktopStep) :
    OperationKept env (steps ++ [step]) operation := by
  cases operation with
  | exporting displayed presentation selection => exact ⟨h.1.concat step, h.2⟩
  | confirming pending => exact PendingKept.concat h step
  | refreshing source bundleName displayed attempts => trivial
  | prepared source bundleName displayed attempts snapshot presentation =>
    exact Loaded.concat h step

theorem nextId_eq {id : ℕ} (h : id < u64Max) : nextId id = id + 1 := by
  unfold nextId
  omega

theorem NumbersKept.reloaded_concat (h : NumbersKept env steps next)
    (hcarried : Carried steps presentation) (hzero : presentation.presentationId = 0) :
    ∃ e ∈ steps ++ [step],
      reloadedDocuments env e.before.state e.action = some presentation.toReportDocuments := by
  obtain ⟨e, he, hput⟩ := h.reloaded presentation hcarried hzero
  exact ⟨e, List.mem_append_left _ he, hput⟩

theorem NumbersKept.kept (h : NumbersKept env steps next)
    (hold : ∀ p, Carried (steps ++ [step]) p → Carried steps p) :
    NumbersKept env (steps ++ [step]) next where
  bound := fun p hp => h.bound p (hold p hp)
  reloaded := fun p hp => h.reloaded_concat (hold p hp)
  agree := fun p q hp hq => h.agree p q (hold p hp) (hold q hq)

/-- A new number is larger than all before it. -/
theorem NumbersKept.numbered (h : NumbersKept env steps next) {new : ReportPresentation}
    (hid : new.presentationId = next + 1)
    (hold : ∀ p, Carried (steps ++ [step]) p → p = new ∨ Carried steps p) :
    NumbersKept env (steps ++ [step]) (next + 1) := by
  have hfresh : ∀ p, Carried steps p → p.presentationId ≠ new.presentationId := by
    intro p hp heq
    have hle := h.bound p hp
    omega
  constructor
  · intro p hp
    rcases hold p hp with rfl | hp
    · omega
    · have hle := h.bound p hp
      omega
  · intro p hp hzero
    rcases hold p hp with rfl | hp
    · omega
    · exact h.reloaded_concat hp hzero
  · intro p q hp hq heq
    rcases hold p hp with rfl | hp <;> rcases hold q hq with rfl | hq
    · rfl
    · exact absurd heq.symm (hfresh q hq)
    · exact absurd heq (hfresh p hp)
    · exact h.agree p q hp hq heq

/-- A reload puts the documents of the earlier reloads in place. -/
theorem NumbersKept.reload (h : NumbersKept env steps next) {documents : ReportDocuments}
    (hput : reloadedDocuments env step.before.state step.action = some documents)
    (hsame : ∀ e ∈ steps, ∀ others,
      reloadedDocuments env e.before.state e.action = some others → others = documents)
    (hold : ∀ p, Carried (steps ++ [step]) p →
      (p.presentationId = 0 ∧ p.toReportDocuments = documents) ∨ Carried steps p) :
    NumbersKept env (steps ++ [step]) next := by
  have hzero : ∀ p, Carried (steps ++ [step]) p → p.presentationId = 0 →
      p.toReportDocuments = documents := by
    intro p hp hid
    rcases hold p hp with ⟨-, hdocuments⟩ | hp
    · exact hdocuments
    · obtain ⟨e, he, hreloaded⟩ := h.reloaded p hp hid
      exact hsame e he _ hreloaded
  constructor
  · intro p hp
    rcases hold p hp with ⟨hid, -⟩ | hp
    · omega
    · exact h.bound p hp
  · intro p hp hid
    exact ⟨step, by simp, by rw [hzero p hp hid, hput]⟩
  · intro p q hp hq heq
    by_cases hid : p.presentationId = 0
    · rw [hzero p hp hid, hzero q hq (heq.symm.trans hid)]
    · have hpold := (hold p hp).resolve_left fun hnew => hid hnew.1
      have hqold := (hold q hq).resolve_left fun hnew => hid (heq.trans hnew.1)
      exact h.agree p q hpold hqold heq

theorem DesktopKept.numbers (h : DesktopKept env steps step.before)
    (heffect : PresentationEffect env step.before.operation step.before.state step.after.state
      step.action) (hcareful : Careful env steps step) :
    NumbersKept env (steps ++ [step]) step.after.state.nextPresentationId := by
  cases heffect with
  | kept mem next =>
    rw [next]
    apply h.toNumbersKept.kept
    intro p hp
    exact (carried_concat.1 hp).elim id fun hp => h.carried p (mem p hp)
  | numbered takes new origin id next mem =>
    rw [next, nextId_eq (hcareful.counter takes)]
    apply h.toNumbersKept.numbered (id.trans (nextId_eq (hcareful.counter takes)))
    intro p hp
    exact (carried_concat.1 hp).elim .inr fun hp => (mem p hp).imp_right (h.carried p)
  | reloaded documents put mem origin next =>
    rw [next]
    apply h.toNumbersKept.reload put (hcareful.reload documents put)
    intro p hp
    exact (carried_concat.1 hp).elim .inr fun hp => .inl (mem p hp)

/-- Every presentation is of a snapshot that was loaded. -/
theorem DesktopKept.loaded_concat (h : DesktopKept env steps step.before)
    (heffect : PresentationEffect env step.before.operation step.before.state step.after.state
      step.action) {p : ReportPresentation} (hp : Carried (steps ++ [step]) p) :
    ∃ q, Loaded env (steps ++ [step]) q ∧ SameReport q p := by
  have hearlier : Carried steps p → ∃ q, Loaded env (steps ++ [step]) q ∧ SameReport q p := by
    intro hcarried
    obtain ⟨q, hq, hsame⟩ := h.loaded p hcarried
    exact ⟨q, hq.concat step, hsame⟩
  rcases carried_concat.1 hp with hold | hnew
  · exact hearlier hold
  · rcases heffect.presented p hnew with hold | hfrom
    · exact hearlier (h.carried p hold)
    · cases hfrom with
      | loaded q isLoaded same => exact ⟨q, ⟨step, by simp, isLoaded⟩, same⟩
      | prepared source bundleName displayed attempts snapshot q isPrepared same =>
        have hq : Loaded env steps q := h.operation _ isPrepared
        exact ⟨q, hq.concat step, same⟩

theorem DesktopKept.operation_concat (h : DesktopKept env steps step.before)
    {operation : ForegroundOperation}
    (hfrom : step.before.operation = some operation ∨
      OperationFrom env step.before.state step.action operation) :
    OperationKept env (steps ++ [step]) operation := by
  rcases hfrom with hbefore | hfrom
  · exact (h.operation operation hbefore).concat step
  · cases hfrom with
    | exporting displayed presentation selection mem id =>
      exact ⟨(h.carried presentation mem).concat step, id⟩
    | confirming pending isPending => exact (h.pending pending isPending).concat step
    | refreshing source bundleName displayed attempts => trivial
    | prepared source bundleName displayed attempts snapshot presentation isLoaded =>
      exact ⟨step, by simp, isLoaded⟩

theorem DesktopKept.concat (h : DesktopKept env steps step.before) (hspec : StepSpec env step)
    (hcareful : Careful env steps step) : DesktopKept env (steps ++ [step]) step.after where
  toNumbersKept := h.numbers hspec.effect hcareful
  carried := fun p hp => carried_concat.2 (.inr hp)
  loaded := fun p hp => h.loaded_concat hspec.effect hp
  operation := fun operation hoperation =>
    h.operation_concat (hspec.operation operation hoperation)
  pending := by
    intro pending hpending
    rcases hspec.pending pending hpending with hbefore | ⟨displayed, presentation, selection,
      fileName, revision, format, hoperation, hhtml, hanswer⟩
    · exact (h.pending pending hbefore).concat step
    · obtain ⟨hcarried, hid⟩ := h.operation _ hoperation
      exact ⟨step, by simp, displayed, selection, fileName, revision, format, presentation, hanswer,
        hcarried.concat step, hid, hhtml⟩
  windows := by
    intro label document hdocument
    rcases hspec.windows label document hdocument with hbefore | ⟨presentation, hmem, hshown⟩
    · exact (h.windows label document hbefore).concat step
    · exact ⟨presentation, (h.carried presentation hmem).concat step, hshown⟩
  returned := by
    intro e he p hreturned
    rcases List.mem_append.1 he with he | he
    · exact (h.returned e he p hreturned).concat step
    · obtain rfl := List.mem_singleton.1 he
      unfold DesktopStep.returned? at hreturned
      split at hreturned
      · rename_i returned hanswer
        obtain rfl := Option.some.inj hreturned
        exact carried_concat.2 (.inr (hspec.presentation _ hanswer))
      · cases hreturned

theorem DesktopRun.kept (h : DesktopRun env steps desktop)
    (hcareful : Throughout (Careful env) steps) : DesktopKept env steps desktop := by
  induction h with
  | started =>
    constructor
    · constructor <;> simp [Carried]
    all_goals simp [Carried, DesktopState.presentations]
  | step action _ ih =>
    obtain ⟨hearlier, hstep⟩ := throughout_concat.1 hcareful
    exact (ih hearlier).concat (Desktop.step_spec env _ action) hstep

theorem DesktopKept.asReturned (h : DesktopKept env steps desktop) {P : ReportDocuments → Prop}
    (hcarried : Carried steps presentation) (hP : P presentation.toReportDocuments) :
    AsReturned steps presentation.presentationId P := by
  intro e he returned hreturned hid
  rw [h.agree returned presentation (h.returned e he returned hreturned) hcarried hid]
  exact hP

theorem DesktopKept.seen (h : DesktopKept env steps desktop) (hseen : Seen steps presentation) :
    Carried steps presentation := by
  obtain ⟨e, he, hmem | hreturned⟩ := hseen
  · exact ⟨e, he, hmem⟩
  · exact h.returned e he presentation hreturned

/-- A window that is open under the label of a presentation shows that presentation, in the
kind that is asked for. -/
theorem DesktopKept.window_html (h : DesktopKept env steps step.before)
    (hcareful : Careful env steps step) {displayed : ℕ} {kind : ReportDocumentKind}
    {created : Except ReportWindowPortError Unit}
    (haction : step.action = .openReportWindow "main" displayed kind (.ok true) created)
    (hcarried : Carried steps presentation) {document : ReportWindowDocument}
    (hopen : step.before.windows.lookup
      (reportWindowLabel env presentation.sessionId presentation.revision kind) = some document) :
    document.html = presentation.windowHtml kind := by
  obtain ⟨shown, hshown, -, hhtml, hlabel⟩ := h.windows _ document hopen
  obtain ⟨p, hp, hpdocuments, hpsession, hprevision⟩ := h.loaded presentation hcarried
  obtain ⟨q, hq, hqdocuments, hqsession, hqrevision⟩ := h.loaded shown hshown
  rw [← hpsession, ← hprevision, ← hqsession, ← hqrevision] at hlabel
  have hsame := hcareful.window displayed kind created haction p q _ hp hq hlabel
  rw [hpdocuments, hqdocuments] at hsame
  rw [hhtml, hsame]

theorem DesktopKept.faithful (h : DesktopKept env steps step.before) (hspec : StepSpec env step)
    (hcareful : Careful env steps step) : Faithful steps step where
  oneReport := by
    intro p q hp hq
    have hafter := h.concat hspec hcareful
    exact hafter.agree p q (hafter.seen hp) (hafter.seen hq)
  exported := by
    intro id selection html outcome hanswer
    obtain ⟨presentation, hoperation, hhtml⟩ := hspec.exported _ _ _ _ hanswer
    obtain ⟨hcarried, hid⟩ := h.operation _ hoperation
    rw [← hid id rfl]
    exact h.asReturned hcarried hhtml
  replaced := by
    intro pendingExportId html outcome hanswer
    obtain ⟨pending, hoperation, rfl, rfl⟩ := hspec.replaced _ _ _ hanswer
    obtain ⟨e, he, displayed, selection, fileName, revision, format, presentation, hwaiting,
      hcarried, hid, hhtml⟩ := h.operation _ hoperation
    refine ⟨e, he, displayed, selection, fileName, revision, format, hwaiting, ?_⟩
    intro id hdisplayed
    rw [← hid id hdisplayed]
    exact h.asReturned hcarried hhtml
  window := by
    intro callerLabel displayed kind focused created outcome haction hanswer
    obtain ⟨session, presentation, hsession, hpresentation, hlabel, hshown⟩ :=
      hspec.window _ _ _ _ _ _ haction hanswer
    obtain ⟨hid, hkept⟩ := presentationForId_some hpresentation
    have hcarried := h.carried presentation (mem_presentations.2 ⟨session, hsession, hkept⟩)
    rcases hshown with ⟨document, hdocument, hhtml⟩ | ⟨rfl, rfl, hsame, hopen⟩
    · refine ⟨document, hdocument, ?_⟩
      rw [← hid]
      exact h.asReturned hcarried hhtml
    · obtain ⟨document, hdocument⟩ := Option.isSome_iff_exists.1 hopen
      refine ⟨document, by rw [hsame, hdocument], ?_⟩
      rw [hlabel] at hdocument
      rw [← hid]
      exact h.asReturned hcarried (h.window_html hcareful haction hcarried hdocument)
  windowDocument := by
    intro document hanswer
    obtain ⟨label, hdocument⟩ := hspec.windowDocument document hanswer
    obtain ⟨presentation, hcarried, hid, hhtml, -⟩ := h.windows label document hdocument
    rw [← hid]
    exact h.asReturned hcarried hhtml

theorem DesktopRun.spec (h : DesktopRun env steps desktop) :
    Throughout (fun earlier step => StepSpec env step ∧ DesktopRun env earlier step.before)
      steps := by
  induction h with
  | started => exact throughout_nil
  | step action hrun ih =>
    exact throughout_concat.2 ⟨ih, Desktop.step_spec env _ action, hrun⟩

/-- In every run whose steps are careful, what is exported, replaced or shown under a number
is what was returned under it. -/
theorem desktopRun_faithful (env : DesktopEnv) (steps : List DesktopStep) (desktop : Desktop)
    (hrun : DesktopRun env steps desktop) (hcareful : Throughout (Careful env) steps) :
    Throughout Faithful steps := by
  intro earlier step later heq
  obtain ⟨hspec, hbefore⟩ := hrun.spec earlier step later heq
  have hearlier : Throughout (Careful env) earlier := by
    rintro before entry after rfl
    exact hcareful before entry (after ++ step :: later) (by simp [heq])
  exact (hbefore.kept hearlier).faithful hspec (hcareful earlier step later heq)

namespace Scenario

def desktopPath : BundlePath := ["home", "field-day.session.antennabundle"]

/-- The bundle of the session as it is read at a revision. -/
def snapshotAt (revision : ℕ) : LoadedSnapshot where
  bundle := {
    manifest := ⟨1, "s1", 0, "0.1.0", {}⟩
    station := ⟨1, "s1", "N0XYZ", "FN31", none, none⟩
    antennas := ⟨1, "s1", []⟩
    schedule := ⟨1, "s1", .txFocused, .dx, []⟩
    events := []
    observations := []
    wsjtx := []
    rig := []
    propagation := []
    analysis := ⟨1, "s1", none, .notRun, []⟩ }
  liveProjection := none
  intendedCycleCount := 0
  schemaVersion := 3
  revision := some revision
  lifecycle := some .running

/-- A report that names the revision it was made of. -/
def desktopEnv : DesktopEnv where
  prepareReport snapshot :=
    let html := "revision " ++ ((snapshot.revision.map toString).getD "legacy")
    .ok ⟨false, html, html, none, html, none⟩
  presentationBytes _ := 1
  summaryBytes _ := 1
  windowBytes _ := 1
  sha256Hex text := text

def fullEvidence : ReportSelection := ⟨.fullEvidenceHtml, .complete, .omitted⟩

def openedStep : DesktopStep :=
  desktopStep desktopEnv {} (.openSession (.ok (some desktopPath)) (.ok (snapshotAt 1)) (.ok ()))

def reloadedStep : DesktopStep :=
  desktopStep desktopEnv openedStep.after (.reloadActiveSession desktopPath (.ok (snapshotAt 2)))

def displayedStep : DesktopStep :=
  desktopStep desktopEnv reloadedStep.after .activeSessionReport

def reloadedAgainStep : DesktopStep :=
  desktopStep desktopEnv displayedStep.after (.reloadActiveSession desktopPath (.ok (snapshotAt 3)))

def chosenStep : DesktopStep :=
  desktopStep desktopEnv reloadedAgainStep.after (.beginExport (some 0) fullEvidence)

/-- The destination is a new file. -/
def newFile : ExportAnswers where
  destination := .ok (some ["home", "report.html"])
  existing := .ok none
  written := .ok ()
  uuid := ""

def exportedStep : DesktopStep :=
  desktopStep desktopEnv chosenStep.after (.finishExport newFile)

def reloadSteps : List DesktopStep :=
  [openedStep, reloadedStep, displayedStep, reloadedAgainStep, chosenStep, exportedStep]

theorem reloadSteps_run : DesktopRun desktopEnv reloadSteps exportedStep.after :=
  (((((DesktopRun.started.step _).step _).step _).step _).step _).step _

def exportedHtml (step : DesktopStep) : Option (Option ℕ × ReportSelection × String) :=
  match step.answer with
  | .exported displayed selection html _ => some (displayed, selection, html)
  | _ => none

/-- After a second reload the number that is displayed stands for another revision, and the
export of the displayed report writes that one. -/
theorem reloads_exportAnother : DesktopRun desktopEnv reloadSteps exportedStep.after ∧
    ¬Throughout Faithful reloadSteps := by
  refine ⟨reloadSteps_run, fun hfaithful => ?_⟩
  have hexported : exportedHtml exportedStep = some (some 0, fullEvidence, "revision 3") := by
    decide +kernel
  have hreturned : displayedStep.returned?.map (fun p =>
      (p.presentationId, (p.exportHtml fullEvidence).toOption)) = some (0, some "revision 2") := by
    decide +kernel
  have hstep := hfaithful [openedStep, reloadedStep, displayedStep, reloadedAgainStep, chosenStep]
    exportedStep [] rfl
  unfold exportedHtml at hexported
  split at hexported
  · rename_i displayed selection html outcome hanswer
    simp only [Option.some.injEq, Prod.mk.injEq] at hexported
    obtain ⟨rfl, rfl, rfl⟩ := hexported
    obtain ⟨p, hp, hid⟩ := Option.map_eq_some_iff.1 hreturned
    simp only [Prod.mk.injEq] at hid
    have hhtml := hstep.exported 0 fullEvidence _ outcome hanswer displayedStep (by simp) p hp hid.1
    simp [hhtml, Except.toOption] at hid
  · cases hexported

def windowStep : DesktopStep :=
  desktopStep desktopEnv openedStep.after
    (.openReportWindow "main" 1 .fullEvidence (.ok false) (.ok ()))

def reloadedSameStep : DesktopStep :=
  desktopStep desktopEnv windowStep.after (.reloadActiveSession desktopPath (.ok (snapshotAt 1)))

def displayedSameStep : DesktopStep :=
  desktopStep desktopEnv reloadedSameStep.after .activeSessionReport

def focusedStep : DesktopStep :=
  desktopStep desktopEnv displayedSameStep.after
    (.openReportWindow "main" 0 .fullEvidence (.ok true) (.ok ()))

def chosenSameStep : DesktopStep :=
  desktopStep desktopEnv focusedStep.after (.beginExport (some 0) fullEvidence)

def exportedSameStep : DesktopStep :=
  desktopStep desktopEnv chosenSameStep.after (.finishExport newFile)

/-- A report is shown in a window; after a reload of the same revision the window is found
again, and the report that is displayed is exported. -/
def openedSteps : List DesktopStep :=
  [openedStep, windowStep, reloadedSameStep, displayedSameStep, focusedStep, chosenSameStep,
    exportedSameStep]

/-- Every snapshot of these steps is the one of revision 1. -/
theorem loaded_openedSteps {steps : List DesktopStep} {p : ReportPresentation}
    (hsteps : steps ⊆ [openedStep, windowStep, reloadedSameStep, displayedSameStep])
    (h : Loaded desktopEnv steps p) :
    loadedPresentation desktopEnv openedStep.action = some p := by
  obtain ⟨step, hstep, hp⟩ := h
  have hmem := hsteps hstep
  simp only [List.mem_cons, List.not_mem_nil, or_false] at hmem
  rcases hmem with rfl | rfl | rfl | rfl
  · exact hp
  · cases hp
  · exact hp
  · cases hp

/-- A window request where all snapshots are of revision 1. -/
theorem careful_window {steps : List DesktopStep} {step : DesktopStep} {displayed : ℕ}
    {focused : Except ReportWindowPortError Bool}
    (haction : step.action = .openReportWindow "main" displayed .fullEvidence focused (.ok ()))
    (hsteps : steps ⊆ [openedStep, windowStep, reloadedSameStep, displayedSameStep]) :
    Careful desktopEnv steps step where
  counter := by
    rw [haction]
    exact fun h => h.elim
  reload := by simp [haction, reloadedDocuments]
  window := by
    intro displayed kind created _ p q otherKind hp hq _
    have hsame := (loaded_openedSteps hsteps hp).symm.trans (loaded_openedSteps hsteps hq)
    obtain rfl := Option.some.inj hsame
    have hopened : (loadedPresentation desktopEnv openedStep.action).all
        (fun p => p.summaryHtml = p.reportHtml) = true := by decide +kernel
    rw [loaded_openedSteps hsteps hp] at hopened
    cases kind <;> cases otherKind <;> simp_all [ReportDocuments.windowHtml]

theorem openedSteps_faithful :
    DesktopRun desktopEnv openedSteps exportedSameStep.after ∧ Throughout Faithful openedSteps := by
  have hrun : DesktopRun desktopEnv openedSteps exportedSameStep.after :=
    ((((((DesktopRun.started.step _).step _).step _).step _).step _).step _).step _
  refine ⟨hrun, desktopRun_faithful desktopEnv openedSteps exportedSameStep.after hrun ?_⟩
  have hopened : Careful desktopEnv [] openedStep := ⟨fun _ => by decide, by simp, nofun⟩
  have hreloaded : Careful desktopEnv [openedStep, windowStep] reloadedSameStep := by
    refine ⟨fun h => h.elim, ?_, nofun⟩
    intro documents _ e he others hothers
    simp only [List.mem_cons, List.not_mem_nil, or_false] at he
    rcases he with rfl | rfl <;> cases hothers
  have hquiet : ∀ earlier, ∀ step ∈ [displayedSameStep, chosenSameStep, exportedSameStep],
      Careful desktopEnv earlier step := by
    intro earlier step hstep
    simp only [List.mem_cons, List.not_mem_nil, or_false] at hstep
    rcases hstep with rfl | rfl | rfl <;>
      exact .of_quiet (fun h => h) (fun _ => rfl) (fun _ _ _ _ _ h => by cases h)
  unfold openedSteps
  simp only [throughout_cons]
  exact ⟨hopened, careful_window rfl (by simp), hreloaded, hquiet _ _ (by simp),
    careful_window rfl (by simp), hquiet _ _ (by simp), hquiet _ _ (by simp), throughout_nil⟩

end Scenario

end AntennaBench
