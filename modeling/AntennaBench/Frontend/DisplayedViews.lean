import AntennaBench.Frontend.Controller

/-!
# The views of the front end

A property of every view the backend sends is one of every view the front end displays, has
sent a mutation from, or is about to receive.
-/

namespace AntennaBench

/-- The displayed view has the property. -/
def FrontendState.ShowsOnly (P : ConductorResponse → Prop) (state : FrontendState) : Prop :=
  ∀ view, state.conductor = some view → P view

def FrontendCall.ShowsOnly (P : ConductorResponse → Prop) : FrontendCall → Prop
  | .mutateConductor mutation => mutation.captured.ShowsOnly P ∧
      ∀ view, mutation.shown = some view → P view
  | .queryStatus captured => captured.ShowsOnly P
  | _ => True

def FrontendAnswer.ShowsOnly (P : ConductorResponse → Prop) : FrontendAnswer → Prop
  | .conductor view => P view
  | _ => True

def CallStage.ShowsOnly (P : ConductorResponse → Prop) : CallStage → Prop
  | .answered answer => answer.ShowsOnly P
  | _ => True

/-- Every view the front end displays, has sent from or is about to receive has the
property. -/
structure DesktopController.ShowsOnly (P : ConductorResponse → Prop)
    (controller : DesktopController) : Prop where
  state : controller.state.ShowsOnly P
  calls : ∀ inFlight ∈ controller.calls, inFlight.call.ShowsOnly P
  stages : ∀ inFlight ∈ controller.calls, inFlight.stage.ShowsOnly P

section

variable {P Q : ConductorResponse → Prop}

theorem FrontendState.ShowsOnly.mono {state : FrontendState} (h : state.ShowsOnly P)
    (hPQ : ∀ view, P view → Q view) : state.ShowsOnly Q :=
  fun view hview => hPQ view (h view hview)

theorem DesktopController.ShowsOnly.mono {controller : DesktopController}
    (h : controller.ShowsOnly P) (hPQ : ∀ view, P view → Q view) : controller.ShowsOnly Q where
  state := h.state.mono hPQ
  calls := by
    intro inFlight hmem
    have hcall := h.calls inFlight hmem
    cases hkind : inFlight.call with
    | mutateConductor mutation =>
      rw [hkind] at hcall
      exact ⟨hcall.1.mono hPQ, fun view hview => hPQ view (hcall.2 view hview)⟩
    | queryStatus captured =>
      rw [hkind] at hcall
      exact hcall.mono hPQ
    | _ => trivial
  stages := by
    intro inFlight hmem
    have hstage := h.stages inFlight hmem
    cases hkind : inFlight.stage with
    | answered answer =>
      rw [hkind] at hstage
      cases answer with
      | conductor view => exact hPQ view hstage
      | _ => trivial
    | _ => trivial

variable {state : FrontendState}

/-- A state that displays the same view, or none. -/
theorem FrontendState.ShowsOnly.of_conductor (h : state.ShowsOnly P) {next : FrontendState}
    (hnext : next.conductor = state.conductor ∨ next.conductor = none) : next.ShowsOnly P := by
  intro view hview
  rcases hnext with hsame | hnone
  · exact h view (hsame.symm.trans hview)
  · rw [hnone] at hview
    cases hview

theorem showsOnly_of_view {next : FrontendState} {view : ConductorResponse}
    (hnext : next.conductor = some view) (hview : P view) : next.ShowsOnly P := by
  intro other hother
  obtain rfl := Option.some.inj (hnext.symm.trans hother)
  exact hview

namespace FrontendState

theorem selectWorkflow_conductor (state : FrontendState) (workflow : Workflow) :
    (state.selectWorkflow workflow).conductor = state.conductor := by
  unfold selectWorkflow
  split_ifs <;> rfl

theorem requestSkipCycle_conductor (state : FrontendState) :
    state.requestSkipCycle.conductor = state.conductor := by
  unfold requestSkipCycle
  cases hview : state.conductor with
  | none => exact hview
  | some view =>
    dsimp only
    cases view.nextIntent with
    | none => exact hview
    | some intent =>
      dsimp only
      split_ifs
      · exact hview
      · rfl

theorem requestAbortRun_conductor (state : FrontendState) :
    state.requestAbortRun.conductor = state.conductor := by
  unfold requestAbortRun
  cases hview : state.conductor with
  | none => exact hview
  | some view =>
    dsimp only
    split_ifs
    · exact hview
    · rfl

theorem beginSkipCycleMutation_conductor (state : FrontendState) :
    state.beginSkipCycleMutation.conductor = state.conductor := by
  unfold beginSkipCycleMutation
  split_ifs <;> rfl

theorem beginAbortRunMutation_conductor (state : FrontendState) :
    state.beginAbortRunMutation.conductor = state.conductor := by
  unfold beginAbortRunMutation
  split_ifs <;> rfl

theorem failed_conductor (state : FrontendState) (origin : MutationOrigin) (error : UiError) :
    (origin.failed state error).conductor = state.conductor := by
  cases origin <;> rfl

end FrontendState

theorem SentMutation.succeeded_conductor (mutation : SentMutation) (view : ConductorResponse) :
    (mutation.succeeded view).conductor = some view := by
  unfold SentMutation.succeeded
  cases mutation.origin <;> rfl

namespace DesktopController

variable {controller : DesktopController}

theorem ShowsOnly.commit (h : controller.ShowsOnly P) {next : FrontendState}
    (hnext : next.ShowsOnly P) : (controller.commit next).ShowsOnly P :=
  ⟨hnext, h.calls, h.stages⟩

theorem ShowsOnly.invoke (h : controller.ShowsOnly P) {call : FrontendCall}
    (hcall : call.ShowsOnly P) : (controller.invoke call).ShowsOnly P := by
  refine ⟨h.state, ?_, ?_⟩
  · intro inFlight hmem
    rcases List.mem_append.1 hmem with hold | hnew
    · exact h.calls inFlight hold
    · obtain rfl := List.mem_singleton.1 hnew
      exact hcall
  · intro inFlight hmem
    rcases List.mem_append.1 hmem with hold | hnew
    · exact h.stages inFlight hold
    · obtain rfl := List.mem_singleton.1 hnew
      trivial

theorem ShowsOnly.sendMutation (h : controller.ShowsOnly P) (origin : MutationOrigin)
    (request : ConductorMutationRequest) {next : FrontendState}
    (hnext : next.conductor = controller.state.conductor) :
    (controller.sendMutation origin request next).ShowsOnly P := by
  have hstate := h.state.of_conductor (.inl hnext)
  apply ShowsOnly.invoke
  · exact h.commit hstate
  · exact ⟨hstate, h.state⟩

theorem ShowsOnly.act (h : controller.ShowsOnly P) (action : UserAction) :
    (controller.act action).ShowsOnly P := by
  have hsame : ∀ {next : FrontendState}, next.conductor = controller.state.conductor →
      (controller.commit next).ShowsOnly P :=
    fun hnext => h.commit (h.state.of_conductor (.inl hnext))
  cases action with
  | selectWorkflow workflow =>
    exact hsame (FrontendState.selectWorkflow_conductor controller.state workflow)
  | refreshConductor silent =>
    change (DesktopController.refreshConductor controller silent).ShowsOnly P
    unfold DesktopController.refreshConductor
    split_ifs
    · exact h
    · apply ShowsOnly.invoke
      · exact ⟨h.state, h.calls, h.stages⟩
      · trivial
    · apply ShowsOnly.invoke
      · exact hsame rfl
      · trivial
  | submitConductorAction action =>
    change (DesktopController.submitConductorAction controller action).ShowsOnly P
    unfold DesktopController.submitConductorAction
    cases controller.state.conductor with
    | none => exact h
    | some view =>
      dsimp only
      split_ifs
      · exact h
      · exact h.sendMutation _ _ rfl
  | requestSkipCycle => exact hsame (FrontendState.requestSkipCycle_conductor controller.state)
  | cancelSkipCycle => exact hsame rfl
  | submitSkipCycle reason =>
    change (DesktopController.submitSkipCycle controller reason).ShowsOnly P
    unfold DesktopController.submitSkipCycle
    cases controller.state.skipCycle.dialog with
    | none => exact h
    | some presented =>
      dsimp only
      split_ifs
      · exact h
      · exact h.sendMutation _ _
          (FrontendState.beginSkipCycleMutation_conductor controller.state)
  | requestAbortRun => exact hsame (FrontendState.requestAbortRun_conductor controller.state)
  | cancelAbortRun => exact hsame rfl
  | submitAbortRun reason =>
    change (DesktopController.submitAbortRun controller reason).ShowsOnly P
    unfold DesktopController.submitAbortRun
    cases controller.state.abortRun.dialog with
    | none => exact h
    | some presented =>
      dsimp only
      split_ifs
      · exact h
      · exact h.sendMutation _ _
          (FrontendState.beginAbortRunMutation_conductor controller.state)
  | openSession =>
    change (DesktopController.openSession controller).ShowsOnly P
    unfold DesktopController.openSession
    split_ifs
    · exact h
    · apply ShowsOnly.invoke
      · exact hsame rfl
      · trivial
  | createSession =>
    apply h.invoke
    trivial
  | queryStatus => exact h.invoke h.state
  | showSession session openStatus => exact hsame rfl

theorem ShowsOnly.complete (h : controller.ShowsOnly P) {call : FrontendCall}
    (hcall : call.ShowsOnly P) {answer : FrontendAnswer} (hanswer : answer.ShowsOnly P) :
    (controller.complete call answer).ShowsOnly P := by
  have hsame : ∀ {next : FrontendState}, next.conductor = controller.state.conductor →
      (controller.commit next).ShowsOnly P :=
    fun hnext => h.commit (h.state.of_conductor (.inl hnext))
  cases call with
  | readConductor silent =>
    cases answer with
    | conductor view =>
      refine ⟨showsOnly_of_view ?_ hanswer, h.calls, h.stages⟩
      cases silent <;> rfl
    | failed error =>
      refine ⟨h.state.of_conductor (.inl ?_), h.calls, h.stages⟩
      cases silent <;> rfl
    | _ => exact h
  | mutateConductor mutation =>
    cases answer with
    | conductor view =>
      exact h.commit (showsOnly_of_view (mutation.succeeded_conductor view) hanswer)
    | failed error =>
      exact hsame (FrontendState.failed_conductor controller.state mutation.origin error)
    | _ => exact h
  | openSession =>
    cases answer with
    | opened session workflow => exact h.commit (h.state.of_conductor (.inr rfl))
    | _ => exact hsame rfl
  | createSession =>
    cases answer with
    | created session => exact h.commit (h.state.of_conductor (.inr rfl))
    | _ => exact h
  | queryStatus captured =>
    cases answer with
    | status => exact h.commit hcall
    | _ => exact h

theorem ShowsOnly.deliver (h : controller.ShowsOnly P) (index : ℕ) {answer : FrontendAnswer}
    (hanswer : answer.ShowsOnly P) : (controller.deliver index answer).ShowsOnly P := by
  unfold DesktopController.deliver
  cases hinFlight : controller.calls[index]? with
  | none => exact h
  | some inFlight =>
    apply ShowsOnly.complete
    · exact ⟨h.state, fun other hother => h.calls other (List.mem_of_mem_eraseIdx hother),
        fun other hother => h.stages other (List.mem_of_mem_eraseIdx hother)⟩
    · exact h.calls inFlight (List.mem_of_getElem? hinFlight)
    · exact hanswer

end DesktopController

end

end AntennaBench
