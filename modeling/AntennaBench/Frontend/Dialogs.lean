import AntennaBench.Frontend.Controller

/-!
# What a dialog confirms

A dialog of the front end that can still be confirmed was opened on what the displayed view
shows, whatever the commands answer and in whatever order, also where an answer puts back the
state it was sent from. A mutation carries the token and the revision of the displayed view.
-/

namespace AntennaBench

namespace Confirmation

variable {α : Type} {confirmation : Confirmation α} {conductor : Option ConductorResponse}
  {unchanged : ConductorResponse → α → Bool}

/-- A dialog is being submitted, or it is open over a view that it confirms. -/
def Current (confirmation : Confirmation α) (conductor : Option ConductorResponse)
    (unchanged : ConductorResponse → α → Bool) : Prop :=
  ∀ dialog, confirmation.dialog = some dialog → confirmation.status = .submitting ∨
    confirmation.status = .confirming ∧
      ∃ view, conductor = some view ∧ unchanged view dialog = true

theorem current_closed (h : confirmation.dialog = none) :
    confirmation.Current conductor unchanged := by
  intro dialog hdialog
  rw [h] at hdialog
  cases hdialog

theorem current_present {view : ConductorResponse} {dialog : α}
    (h : unchanged view dialog = true) :
    (Confirmation.present dialog).Current (some view) unchanged := by
  intro other hother
  obtain rfl := Option.some.inj hother
  exact .inr ⟨rfl, view, rfl, h⟩

theorem Current.cancel (h : confirmation.Current conductor unchanged) :
    confirmation.cancel.Current conductor unchanged := by
  unfold Confirmation.cancel
  split_ifs
  · exact h
  · exact current_closed rfl

theorem current_submit : confirmation.submit.Current conductor unchanged :=
  fun _ _ => .inl rfl

theorem Current.withoutOutcome (h : confirmation.Current conductor unchanged) :
    confirmation.withoutOutcome.Current conductor unchanged :=
  h

/-- After a view has arrived, a dialog over it is one it does not change. -/
theorem Current.reconcile {view : ConductorResponse} {stale : UiError}
    (h : confirmation.Current conductor unchanged) :
    (confirmation.reconcile (unchanged view) stale).Current (some view) unchanged := by
  unfold Confirmation.reconcile
  cases hdialog : confirmation.dialog with
  | none => exact current_closed hdialog
  | some presented =>
    dsimp only
    split_ifs with hkept
    · intro dialog hsame
      obtain rfl := Option.some.inj (hdialog.symm.trans hsame)
      rw [Bool.or_eq_true, decide_eq_true_eq] at hkept
      by_cases hsubmitting : confirmation.status = .submitting
      · exact .inl hsubmitting
      · rcases h presented hdialog with hstatus | ⟨hstatus, -⟩
        · exact .inl hstatus
        · exact .inr ⟨hstatus, view, rfl, hkept.resolve_left hsubmitting⟩
    · exact current_closed rfl

end Confirmation

/-- The dialogs of a state confirm what it displays. -/
structure FrontendState.DialogsCurrent (state : FrontendState) : Prop where
  skipCycle : state.skipCycle.Current state.conductor SkipCycleDialog.unchanged
  abortRun : state.abortRun.Current state.conductor AbortRunDialog.unchanged

namespace FrontendState

variable {state : FrontendState}

theorem DialogsCurrent.selectWorkflow (h : state.DialogsCurrent) (workflow : Workflow) :
    (state.selectWorkflow workflow).DialogsCurrent := by
  unfold FrontendState.selectWorkflow
  split_ifs
  · exact h
  · exact ⟨h.skipCycle, h.abortRun⟩
  · exact ⟨Confirmation.current_closed rfl, Confirmation.current_closed rfl⟩

/-- A state without dialogs. -/
theorem dialogsCurrent_of_closed (hskip : state.skipCycle.dialog = none)
    (habort : state.abortRun.dialog = none) : state.DialogsCurrent :=
  ⟨Confirmation.current_closed hskip, Confirmation.current_closed habort⟩

theorem DialogsCurrent.load (h : state.DialogsCurrent) (view : ConductorResponse) :
    (state.conductorLoadSucceeded view).DialogsCurrent :=
  ⟨h.skipCycle.reconcile, h.abortRun.reconcile⟩

theorem DialogsCurrent.poll (h : state.DialogsCurrent) (view : ConductorResponse) :
    (state.conductorPollSucceeded view).DialogsCurrent :=
  ⟨h.skipCycle.reconcile, h.abortRun.reconcile⟩

theorem DialogsCurrent.beginMutation (h : state.DialogsCurrent) (action : String) :
    (state.beginConductorMutation action).DialogsCurrent := by
  constructor
  · dsimp only [beginConductorMutation]
    split_ifs
    · exact h.skipCycle
    · exact h.skipCycle.withoutOutcome
  · dsimp only [beginConductorMutation]
    split_ifs
    · exact h.abortRun
    · exact h.abortRun.withoutOutcome

theorem DialogsCurrent.requestSkipCycle (h : state.DialogsCurrent) :
    state.requestSkipCycle.DialogsCurrent := by
  unfold FrontendState.requestSkipCycle
  cases hconductor : state.conductor with
  | none => exact h
  | some view =>
    dsimp only
    cases hintent : view.nextIntent with
    | none => exact h
    | some intent =>
      dsimp only
      split_ifs with hblocked
      · exact h
      · constructor
        · apply Confirmation.current_present
          have havailable : skipCycleAvailable view = true := by
            simp only [Bool.or_eq_true, Bool.not_eq_true', not_or] at hblocked
            simpa using hblocked.2
          have hrunning : view.lifecycle = .running := by
            simp only [skipCycleAvailable, Bool.and_eq_true, decide_eq_true_eq] at havailable
            exact havailable.1.1
          simp [SkipCycleDialog.unchanged, hrunning, hintent]
        · exact hconductor ▸ h.abortRun

theorem DialogsCurrent.requestAbortRun (h : state.DialogsCurrent) :
    state.requestAbortRun.DialogsCurrent := by
  unfold FrontendState.requestAbortRun
  cases hconductor : state.conductor with
  | none => exact h
  | some view =>
    dsimp only
    split_ifs with hblocked
    · exact h
    · constructor
      · exact hconductor ▸ h.skipCycle
      · apply Confirmation.current_present
        have havailable : abortAvailable view.lifecycle = true := by
          simp only [Bool.or_eq_true, Bool.not_eq_true', not_or] at hblocked
          simpa using hblocked.1
        simp [AbortRunDialog.unchanged, havailable]

theorem DialogsCurrent.beginSkipCycle (h : state.DialogsCurrent) :
    state.beginSkipCycleMutation.DialogsCurrent := by
  unfold beginSkipCycleMutation
  split_ifs
  · exact h
  · exact ⟨Confirmation.current_submit, (h.beginMutation "skip_wspr_cycle").abortRun⟩

theorem DialogsCurrent.beginAbortRun (h : state.DialogsCurrent) :
    state.beginAbortRunMutation.DialogsCurrent := by
  unfold beginAbortRunMutation
  split_ifs
  · exact h
  · exact ⟨(h.beginMutation "abandon").skipCycle, Confirmation.current_submit⟩

theorem DialogsCurrent.skipSucceeded (h : state.DialogsCurrent) (view : ConductorResponse) :
    (state.skipCycleMutationSucceeded view).DialogsCurrent :=
  ⟨Confirmation.current_closed rfl, h.abortRun.reconcile⟩

theorem DialogsCurrent.abortSucceeded (h : state.DialogsCurrent) (view : ConductorResponse) :
    (state.abortRunMutationSucceeded view).DialogsCurrent :=
  ⟨h.skipCycle.reconcile, Confirmation.current_closed rfl⟩

theorem DialogsCurrent.failed (h : state.DialogsCurrent) (origin : MutationOrigin)
    (error : UiError) : (origin.failed state error).DialogsCurrent := by
  cases origin with
  | operatorAction => exact ⟨h.skipCycle, h.abortRun⟩
  | skipCycle => exact ⟨Confirmation.current_closed rfl, h.abortRun⟩
  | abortRun => exact ⟨h.skipCycle, Confirmation.current_closed rfl⟩

end FrontendState

/-- What a request asks for is what was displayed when it was sent. -/
structure SentMutation.Confirms (mutation : SentMutation) (view : ConductorResponse) : Prop where
  token : mutation.request.actionToken = view.actionToken
  revision : mutation.request.expectedRevision = view.revision
  skipCycle : mutation.origin = .skipCycle → ∃ intent reason, view.nextIntent = some intent ∧
    mutation.request.action = .skipWsprCycle intent.intentId reason ∧ view.lifecycle = .running
  abortRun : mutation.origin = .abortRun → ∃ reason, mutation.request.action = .abandon reason ∧
    abortAvailable view.lifecycle = true

/-- A mutation in flight asks for what was displayed, and the state it is spread over has
dialogs that confirm what it displays. -/
def FrontendCall.Sound : FrontendCall → Prop
  | .mutateConductor mutation => mutation.captured.DialogsCurrent ∧
      ∃ view, mutation.shown = some view ∧ mutation.Confirms view
  | .queryStatus captured => captured.DialogsCurrent
  | _ => True

namespace DesktopController

variable {controller : DesktopController}

/-- The state and every call in flight confirm what was displayed. -/
structure Sound (controller : DesktopController) : Prop where
  dialogs : controller.state.DialogsCurrent
  calls : ∀ inFlight ∈ controller.calls, inFlight.call.Sound

theorem Sound.commit (h : controller.Sound) {state : FrontendState}
    (hstate : state.DialogsCurrent) :
    (controller.commit state).Sound :=
  ⟨hstate, h.calls⟩

theorem Sound.invoke (h : controller.Sound) {call : FrontendCall} (hcall : call.Sound) :
    (controller.invoke call).Sound := by
  refine ⟨h.dialogs, ?_⟩
  intro inFlight hmem
  rcases List.mem_append.1 hmem with hold | hnew
  · exact h.calls inFlight hold
  · obtain rfl := List.mem_singleton.1 hnew
    exact hcall

theorem Sound.refreshConductor (h : controller.Sound) (silent : Bool) :
    (controller.refreshConductor silent).Sound := by
  unfold DesktopController.refreshConductor
  split_ifs
  · exact h
  · apply Sound.invoke
    · exact ⟨h.dialogs, h.calls⟩
    · trivial
  · apply Sound.invoke
    · exact h.commit ⟨h.dialogs.skipCycle, h.dialogs.abortRun⟩
    · trivial

theorem Sound.sendMutation (h : controller.Sound) {origin : MutationOrigin}
    {request : ConductorMutationRequest} {state : FrontendState} (hstate : state.DialogsCurrent)
    {view : ConductorResponse} (hview : controller.state.conductor = some view)
    (hconfirms : SentMutation.Confirms ⟨origin, request, state, some view⟩ view) :
    (controller.sendMutation origin request state).Sound := by
  apply (h.commit hstate).invoke
  rw [hview]
  exact ⟨hstate, view, rfl, hconfirms⟩

theorem Sound.submitConductorAction (h : controller.Sound) (action : ConductorAction) :
    (controller.submitConductorAction action).Sound := by
  unfold DesktopController.submitConductorAction
  cases hview : controller.state.conductor with
  | none => exact h
  | some view =>
    dsimp only
    split_ifs
    · exact h
    · exact h.sendMutation (h.dialogs.beginMutation _) hview ⟨rfl, rfl, nofun, nofun⟩

theorem Sound.submitSkipCycle (h : controller.Sound) (reason : String) :
    (controller.submitSkipCycle reason).Sound := by
  unfold DesktopController.submitSkipCycle
  cases hdialog : controller.state.skipCycle.dialog with
  | none => exact h
  | some presented =>
    dsimp only
    split_ifs with hsubmitting
    · exact h
    · obtain ⟨-, view, hview, hunchanged⟩ :=
        (h.dialogs.skipCycle presented hdialog).resolve_left hsubmitting
      simp only [SkipCycleDialog.unchanged, Bool.and_eq_true, decide_eq_true_eq, Option.any_eq_true]
        at hunchanged
      obtain ⟨⟨⟨hrunning, hrevision⟩, htoken⟩, intent, hintent, hid⟩ := hunchanged
      apply h.sendMutation h.dialogs.beginSkipCycle hview
      exact ⟨htoken.symm, hrevision.symm, fun _ => ⟨intent, some reason, hintent, by rw [hid],
        hrunning⟩, nofun⟩

theorem Sound.submitAbortRun (h : controller.Sound) (reason : String) :
    (controller.submitAbortRun reason).Sound := by
  unfold DesktopController.submitAbortRun
  cases hdialog : controller.state.abortRun.dialog with
  | none => exact h
  | some presented =>
    dsimp only
    split_ifs with hsubmitting
    · exact h
    · obtain ⟨-, view, hview, hunchanged⟩ :=
        (h.dialogs.abortRun presented hdialog).resolve_left hsubmitting
      simp only [AbortRunDialog.unchanged, Bool.and_eq_true, decide_eq_true_eq] at hunchanged
      obtain ⟨⟨⟨⟨havailable, -⟩, -⟩, hrevision⟩, htoken⟩ := hunchanged
      apply h.sendMutation h.dialogs.beginAbortRun hview
      exact ⟨htoken.symm, hrevision.symm, nofun, fun _ => ⟨some reason, rfl, havailable⟩⟩

theorem Sound.act (h : controller.Sound) (action : UserAction) : (controller.act action).Sound := by
  cases action with
  | selectWorkflow workflow => exact h.commit (h.dialogs.selectWorkflow workflow)
  | refreshConductor silent => exact h.refreshConductor silent
  | submitConductorAction action => exact h.submitConductorAction action
  | requestSkipCycle => exact h.commit h.dialogs.requestSkipCycle
  | cancelSkipCycle => exact h.commit ⟨h.dialogs.skipCycle.cancel, h.dialogs.abortRun⟩
  | submitSkipCycle reason => exact h.submitSkipCycle reason
  | requestAbortRun => exact h.commit h.dialogs.requestAbortRun
  | cancelAbortRun => exact h.commit ⟨h.dialogs.skipCycle, h.dialogs.abortRun.cancel⟩
  | submitAbortRun reason => exact h.submitAbortRun reason
  | openSession =>
    change (DesktopController.openSession controller).Sound
    unfold DesktopController.openSession
    split_ifs
    · exact h
    · apply Sound.invoke
      · exact h.commit ⟨h.dialogs.skipCycle, h.dialogs.abortRun⟩
      · trivial
  | createSession =>
    apply h.invoke
    trivial
  | queryStatus => exact h.invoke h.dialogs
  | showSession session openStatus => exact h.commit ⟨h.dialogs.skipCycle, h.dialogs.abortRun⟩

theorem Sound.complete (h : controller.Sound) {call : FrontendCall} (hcall : call.Sound)
    (answer : FrontendAnswer) : (controller.complete call answer).Sound := by
  have hread : ∀ {state : FrontendState} {poll : Bool}, state.DialogsCurrent →
      ({ controller with state, conductorPollInFlight := poll } : DesktopController).Sound :=
    fun hstate => ⟨hstate, h.calls⟩
  cases call with
  | readConductor silent =>
    cases answer with
    | conductor view =>
      apply hread
      split_ifs
      · exact h.dialogs.poll view
      · exact h.dialogs.load view
    | failed error =>
      apply hread
      split_ifs
      · exact h.dialogs
      · exact h.dialogs.failed .operatorAction error
    | _ => exact h
  | mutateConductor mutation =>
    cases answer with
    | conductor view =>
      apply h.commit
      unfold SentMutation.succeeded
      cases mutation.origin with
      | operatorAction => exact hcall.1.load view
      | skipCycle => exact hcall.1.skipSucceeded view
      | abortRun => exact hcall.1.abortSucceeded view
    | failed error => exact h.commit (h.dialogs.failed mutation.origin error)
    | _ => exact h
  | openSession =>
    have hkept : ∀ openStatus, (controller.commit { controller.state with openStatus }).Sound :=
      fun openStatus => h.commit ⟨h.dialogs.skipCycle, h.dialogs.abortRun⟩
    cases answer with
    | opened session workflow => exact h.commit (FrontendState.dialogsCurrent_of_closed rfl rfl)
    | _ => exact hkept _
  | createSession =>
    cases answer with
    | created session => exact h.commit (FrontendState.dialogsCurrent_of_closed rfl rfl)
    | _ => exact h
  | queryStatus captured =>
    cases answer with
    | status => exact h.commit hcall
    | _ => exact h

theorem Sound.deliver (h : controller.Sound) (index : ℕ) (answer : FrontendAnswer) :
    (controller.deliver index answer).Sound := by
  unfold DesktopController.deliver
  cases hinFlight : controller.calls[index]? with
  | none => exact h
  | some inFlight =>
    apply Sound.complete
    · exact ⟨h.dialogs, fun other hother => h.calls other (List.mem_of_mem_eraseIdx hother)⟩
    · exact h.calls inFlight (List.mem_of_getElem? hinFlight)

end DesktopController

/-- The states of a controller under any actions and any answers in any order. -/
inductive FrontendRun : DesktopController → Prop
  | start : FrontendRun {}
  | act {controller : DesktopController} (action : UserAction) :
      FrontendRun controller → FrontendRun (controller.act action)
  | deliver {controller : DesktopController} (index : ℕ) (answer : FrontendAnswer) :
      FrontendRun controller → FrontendRun (controller.deliver index answer)

/-- A dialog that can be confirmed is about the displayed view, and every mutation in flight
carries the token and the revision of the view it was sent from. -/
theorem frontendRun_sound {controller : DesktopController} (h : FrontendRun controller) :
    controller.Sound := by
  induction h with
  | start =>
    constructor
    · exact FrontendState.dialogsCurrent_of_closed rfl rfl
    · intro inFlight hmem
      cases hmem
  | act action _ ih => exact ih.act action
  | deliver index answer _ ih => exact ih.deliver index answer

namespace Scenario

def runningView : ConductorResponse where
  bundleName := "field day"
  sessionId := "s1"
  revision := 4
  lifecycle := .running
  actionToken := "t1"
  phase := .betweenSlots
  currentSlot := none
  nextIntent := some ⟨"cycle-2", 2, "20m", "A", none, true⟩

/-- A cycle is skipped from the view that was read first. -/
def skippingController : DesktopController :=
  (((({} : DesktopController).act (.refreshConductor false)).deliver 0
    (.conductor runningView)).act .requestSkipCycle).act (.submitSkipCycle "rain")

theorem skippingController_sound :
    skippingController.calls.length = 1 ∧ skippingController.Sound :=
  ⟨by decide, frontendRun_sound (.act _ (.act _ (.deliver _ _ (.act _ .start))))⟩

end Scenario

end AntennaBench
