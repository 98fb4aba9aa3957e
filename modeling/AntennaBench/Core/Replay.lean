import Mathlib.Data.List.Induction
import AntennaBench.Core.OperatorEvents

/-!
# Replays of an event history

A replay is the state of the reduction after a history. A step of it reports the event,
moves the lifecycle, or takes the event as evidence. A history that starts no session is
replayed from a draft session as it is from a ready one, only that the session stays a
draft where the other stays ready.
-/

namespace AntennaBench

open SessionLifecycleV2

def OperatorEventPayloadV2.isStart : OperatorEventPayloadV2 → Bool
  | sessionStarted _ => true
  | _ => false

/-- The loop state of `reduce_operator_events_v2` after the events. -/
def replayV2 (initialLifecycle : SessionLifecycleV2) (events : List OperatorEventV2) :
    ReductionStateV2 :=
  events.foldl ReductionStateV2.step (.init initialLifecycle)

section

variable (initialLifecycle : SessionLifecycleV2) (events : List OperatorEventV2)
  (event : OperatorEventV2)

@[simp] theorem replayV2_nil : replayV2 initialLifecycle [] = .init initialLifecycle := rfl

@[simp] theorem replayV2_concat :
    replayV2 initialLifecycle (events ++ [event]) =
      (replayV2 initialLifecycle events).step event := by
  simp [replayV2]

@[simp] theorem reduce_lifecycle :
    (reduceOperatorEventsV2 initialLifecycle events).lifecycle =
      (replayV2 initialLifecycle events).lifecycle := rfl

@[simp] theorem reduce_diagnostics :
    (reduceOperatorEventsV2 initialLifecycle events).diagnostics =
      (replayV2 initialLifecycle events).diagnostics := rfl

end

namespace ReductionStateV2

variable {state : ReductionStateV2} {event : OperatorEventV2}

@[simp] theorem report_lifecycle (related : Option String) (code : OperatorEventDiagnosticCodeV2)
    (message : String) : (state.report event related code message).lifecycle = state.lifecycle :=
  rfl

@[simp] theorem report_seenIds (related : Option String) (code : OperatorEventDiagnosticCodeV2)
    (message : String) : (state.report event related code message).seenIds = state.seenIds :=
  rfl

@[simp] theorem report_originals (related : Option String) (code : OperatorEventDiagnosticCodeV2)
    (message : String) : (state.report event related code message).originals = state.originals :=
  rfl

@[simp] theorem report_effective (related : Option String) (code : OperatorEventDiagnosticCodeV2)
    (message : String) : (state.report event related code message).effective = state.effective :=
  rfl

@[simp] theorem length_report (related : Option String) (code : OperatorEventDiagnosticCodeV2)
    (message : String) :
    (state.report event related code message).diagnostics.length =
      state.diagnostics.length + 1 := by
  simp [report]

theorem report_diagnostics (related : Option String) (code : OperatorEventDiagnosticCodeV2)
    (message : String) :
    ∃ diagnostic, (state.report event related code message).diagnostics =
      state.diagnostics ++ [diagnostic] :=
  ⟨_, rfl⟩

def see (state : ReductionStateV2) (event : OperatorEventV2) : ReductionStateV2 :=
  { state with seenIds := event.eventId :: state.seenIds }

def keep (state : ReductionStateV2) (event : OperatorEventV2)
    (payload : CorrectableOperatorEventPayloadV2) : ReductionStateV2 :=
  { state with
    originals := (event.eventId, state.effective.length) :: state.originals
    effective := state.effective ++ [some (effectiveOriginal event payload)] }

/-- What the step does with an event of operator evidence. -/
def take (state : ReductionStateV2) (event : OperatorEventV2) : ReductionStateV2 :=
  match event.payload with
  | .eventCorrected targetEventId correction reason =>
    state.correct event targetEventId correction reason
  | payload =>
    match payload.correctable? with
    | none =>
      state.report event none .invalidEventShape
        "event payload is neither lifecycle evidence nor correctable operator evidence"
    | some payload => state.keep event payload

/-- What the step does with an event whose identity it has not seen. -/
def judge (state : ReductionStateV2) (event : OperatorEventV2) : ReductionStateV2 :=
  match eventShapeError event with
  | some message => state.report event none .invalidEventShape message
  | none =>
    if event.payload.isLifecycle then
      match applyLifecycleTransition state.lifecycle event.payload with
      | .ok next => { state with lifecycle := next }
      | .error error => state.report event none .invalidLifecycleTransition error.text
    else if state.lifecycle.isTerminal then
      state.report event none .invalidLifecycleTransition terminalEvidenceText
    else state.take event

theorem step_eq (state : ReductionStateV2) (event : OperatorEventV2) :
    state.step event =
      if state.seenIds.contains event.eventId then
        state.report event none .duplicateEventId "event ID is duplicated"
      else (state.see event).judge event := rfl

/-- What one event does to the lifecycle and to the diagnostics. -/
inductive Outcome (state : ReductionStateV2) (event : OperatorEventV2)
    (next : ReductionStateV2) : Prop where
  | reported (lifecycle : next.lifecycle = state.lifecycle)
      (diagnostics : ∃ diagnostic, next.diagnostics = state.diagnostics ++ [diagnostic])
  | moved (isLifecycle : event.payload.isLifecycle = true)
      (transition : applyLifecycleTransition state.lifecycle event.payload = .ok next.lifecycle)
      (diagnostics : next.diagnostics = state.diagnostics)
  | taken (isLifecycle : event.payload.isLifecycle = false)
      (lifecycle : next.lifecycle = state.lifecycle)
      (diagnostics : next.diagnostics = state.diagnostics)

theorem take_outcome (hlifecycle : event.payload.isLifecycle = false) :
    Outcome state event (state.take event) := by
  unfold take
  cases hpayload : event.payload with
  | eventCorrected targetEventId correction reason =>
    dsimp only [correct]
    by_cases hblank : isBlank reason
    · rw [if_pos hblank]
      exact .reported rfl (report_diagnostics _ _ _)
    · rw [if_neg hblank]
      cases state.originals.lookup targetEventId with
      | none => exact .reported rfl (report_diagnostics _ _ _)
      | some index => exact .taken hlifecycle rfl rfl
  | antennaStateConfirmed antennaLabel note => exact .taken hlifecycle rfl rfl
  | slotMissed reason => exact .taken hlifecycle rfl rfl
  | slotBad reason => exact .taken hlifecycle rfl rfl
  | noteAdded note => exact .taken hlifecycle rfl rfl
  | _ => simp [hpayload, OperatorEventPayloadV2.isLifecycle] at hlifecycle

theorem judge_outcome (state : ReductionStateV2) (event : OperatorEventV2) :
    Outcome state event (state.judge event) := by
  unfold judge
  cases eventShapeError event with
  | some message => exact .reported rfl (report_diagnostics _ _ _)
  | none =>
    dsimp only
    by_cases hlifecycle : event.payload.isLifecycle
    · rw [if_pos hlifecycle]
      cases htransition : applyLifecycleTransition state.lifecycle event.payload with
      | ok next => exact .moved hlifecycle htransition rfl
      | error error => exact .reported rfl (report_diagnostics _ _ _)
    · rw [if_neg hlifecycle]
      by_cases hterminal : state.lifecycle.isTerminal
      · rw [if_pos hterminal]
        exact .reported rfl (report_diagnostics _ _ _)
      · rw [if_neg hterminal]
        exact take_outcome (by simpa using hlifecycle)

theorem step_outcome (state : ReductionStateV2) (event : OperatorEventV2) :
    Outcome state event (state.step event) := by
  rw [step_eq]
  by_cases hseen : state.seenIds.contains event.eventId
  · rw [if_pos hseen]
    exact .reported rfl (report_diagnostics _ _ _)
  · rw [if_neg hseen]
    cases judge_outcome (state.see event) event with
    | reported lifecycle diagnostics => exact .reported lifecycle diagnostics
    | moved isLifecycle transition diagnostics => exact .moved isLifecycle transition diagnostics
    | taken isLifecycle lifecycle diagnostics => exact .taken isLifecycle lifecycle diagnostics

/-- A lifecycle event of a new identity and a sound shape is judged by the transitions
alone. -/
theorem step_transition (hseen : event.eventId ∉ state.seenIds)
    (hshape : eventShapeError event = none) (hlifecycle : event.payload.isLifecycle = true) :
    (state.step event).diagnostics.length = state.diagnostics.length ↔
      ∃ next, applyLifecycleTransition state.lifecycle event.payload = .ok next := by
  have hseen : state.seenIds.contains event.eventId = false := by simpa using hseen
  rw [step_eq, hseen]
  simp only [Bool.false_eq_true, if_false, judge, hshape, hlifecycle, if_true]
  change _ ↔ ∃ next, applyLifecycleTransition (state.see event).lifecycle event.payload = .ok next
  cases applyLifecycleTransition (state.see event).lifecycle event.payload with
  | ok next => simp [see]
  | error error => simp [see]

theorem take_seenIds (state : ReductionStateV2) (event : OperatorEventV2) :
    (state.take event).seenIds = state.seenIds := by
  unfold take
  cases event.payload with
  | eventCorrected targetEventId correction reason =>
    dsimp only [correct]
    split_ifs
    · rfl
    · cases state.originals.lookup targetEventId <;> rfl
  | _ => rfl

theorem judge_seenIds (state : ReductionStateV2) (event : OperatorEventV2) :
    (state.judge event).seenIds = state.seenIds := by
  unfold judge
  cases eventShapeError event with
  | some message => rfl
  | none =>
    dsimp only
    split_ifs
    · cases applyLifecycleTransition state.lifecycle event.payload <;> rfl
    · rfl
    · exact take_seenIds state event

theorem step_seenIds (state : ReductionStateV2) (event : OperatorEventV2) :
    (state.step event).seenIds ⊆ event.eventId :: state.seenIds := by
  rw [step_eq]
  split_ifs
  · exact List.subset_cons_self _ _
  · rw [judge_seenIds]
    exact List.Subset.refl _

end ReductionStateV2

theorem replayV2_seenIds (initialLifecycle : SessionLifecycleV2) (events : List OperatorEventV2) :
    (replayV2 initialLifecycle events).seenIds ⊆ events.map (·.eventId) := by
  induction events using List.reverseRecOn with
  | nil => simp [ReductionStateV2.init]
  | append_singleton events event ih =>
    rw [replayV2_concat]
    intro id hid
    rcases List.mem_cons.mp (ReductionStateV2.step_seenIds _ _ hid) with hid | hid
    · simp [hid]
    · have hid := ih hid
      rw [List.map_append]
      exact List.mem_append_left _ hid

/-- Where the replay from a draft session is when the one from a ready session is here. -/
def SessionLifecycleV2.fromDraft : SessionLifecycleV2 → SessionLifecycleV2
  | ready => draft
  | lifecycle => lifecycle

@[simp] theorem SessionLifecycleV2.isTerminal_fromDraft (lifecycle : SessionLifecycleV2) :
    lifecycle.fromDraft.isTerminal = lifecycle.isTerminal := by
  cases lifecycle <;> rfl

theorem SessionLifecycleV2.fromDraft_eq_self {lifecycle : SessionLifecycleV2} :
    lifecycle.fromDraft = lifecycle ↔ lifecycle ≠ ready := by
  cases lifecycle <;> simp [fromDraft]

/-- Only the start of a session tells a draft from a ready session. -/
theorem applyLifecycleTransition_fromDraft (lifecycle : SessionLifecycleV2)
    {payload : OperatorEventPayloadV2} (hstart : payload.isStart = false) :
    (∀ next, applyLifecycleTransition lifecycle payload = .ok next →
        applyLifecycleTransition lifecycle.fromDraft payload = .ok next.fromDraft) ∧
      ∀ error, applyLifecycleTransition lifecycle payload = .error error →
        ∃ other, applyLifecycleTransition lifecycle.fromDraft payload = .error other := by
  cases lifecycle <;> cases payload <;>
    simp_all [applyLifecycleTransition, fromDraft, OperatorEventPayloadV2.isStart,
      OperatorEventPayloadV2.isLifecycle]

namespace ReductionStateV2

/-- The replay from a draft that goes with the one from a ready session: the texts of the
reports may differ, their number does not. -/
structure Shadows (state shadow : ReductionStateV2) : Prop where
  lifecycle : shadow.lifecycle = state.lifecycle.fromDraft
  diagnostics : shadow.diagnostics.length = state.diagnostics.length
  seenIds : shadow.seenIds = state.seenIds
  originals : shadow.originals = state.originals
  effective : shadow.effective = state.effective

variable {state shadow : ReductionStateV2} {event : OperatorEventV2}

theorem Shadows.report (h : state.Shadows shadow) {related : Option String}
    {code : OperatorEventDiagnosticCodeV2} {message other : String} :
    (state.report event related code message).Shadows
      (shadow.report event related code other) where
  lifecycle := h.lifecycle
  diagnostics := by simp [h.diagnostics]
  seenIds := h.seenIds
  originals := h.originals
  effective := h.effective

theorem Shadows.keep (h : state.Shadows shadow) {payload : CorrectableOperatorEventPayloadV2} :
    (state.keep event payload).Shadows (shadow.keep event payload) where
  lifecycle := h.lifecycle
  diagnostics := h.diagnostics
  seenIds := h.seenIds
  originals := by simp [ReductionStateV2.keep, h.originals, h.effective]
  effective := by simp [ReductionStateV2.keep, h.effective]

theorem Shadows.correct (h : state.Shadows shadow) {targetEventId reason : String}
    {correction : EventCorrectionActionV2} :
    (state.correct event targetEventId correction reason).Shadows
      (shadow.correct event targetEventId correction reason) := by
  unfold ReductionStateV2.correct
  by_cases hblank : isBlank reason
  · rw [if_pos hblank, if_pos hblank]
    exact h.report
  · rw [if_neg hblank, if_neg hblank, h.originals]
    cases state.originals.lookup targetEventId with
    | none => exact h.report
    | some index =>
      dsimp only
      rw [h.effective]
      exact ⟨h.lifecycle, h.diagnostics, h.seenIds, rfl, rfl⟩

theorem Shadows.take (h : state.Shadows shadow) :
    (state.take event).Shadows (shadow.take event) := by
  unfold ReductionStateV2.take
  cases event.payload with
  | eventCorrected targetEventId correction reason => exact h.correct
  | antennaStateConfirmed antennaLabel note => exact h.keep
  | slotMissed reason => exact h.keep
  | slotBad reason => exact h.keep
  | noteAdded note => exact h.keep
  | _ => exact h.report

theorem Shadows.judge (h : state.Shadows shadow) (hstart : event.payload.isStart = false) :
    (state.judge event).Shadows (shadow.judge event) := by
  unfold ReductionStateV2.judge
  cases eventShapeError event with
  | some message => exact h.report
  | none =>
    dsimp only
    rw [h.lifecycle, SessionLifecycleV2.isTerminal_fromDraft]
    split_ifs
    · obtain ⟨hok, herror⟩ := applyLifecycleTransition_fromDraft state.lifecycle hstart
      cases htransition : applyLifecycleTransition state.lifecycle event.payload with
      | ok next =>
        rw [hok next htransition]
        exact ⟨rfl, h.diagnostics, h.seenIds, h.originals, h.effective⟩
      | error error =>
        obtain ⟨other, hother⟩ := herror error htransition
        rw [hother]
        exact h.report
    · exact h.report
    · exact h.take

theorem Shadows.step (h : state.Shadows shadow) (hstart : event.payload.isStart = false) :
    (state.step event).Shadows (shadow.step event) := by
  have hsee : (state.see event).Shadows (shadow.see event) :=
    ⟨h.lifecycle, h.diagnostics, by simp [see, h.seenIds], h.originals, h.effective⟩
  rw [step_eq, step_eq, h.seenIds]
  split_ifs
  · exact h.report
  · exact hsee.judge hstart

end ReductionStateV2

theorem replayV2_fromDraft {events : List OperatorEventV2}
    (hstart : events.any (·.payload.isStart) = false) :
    (replayV2 ready events).Shadows (replayV2 draft events) := by
  induction events using List.reverseRecOn with
  | nil => exact ⟨rfl, rfl, rfl, rfl, rfl⟩
  | append_singleton events event ih =>
    simp only [List.any_append, List.any_cons, List.any_nil, Bool.or_false,
      Bool.or_eq_false_iff] at hstart
    rw [replayV2_concat, replayV2_concat]
    exact (ih hstart.1).step hstart.2

/-- A session leaves the ready state for good. -/
theorem applyLifecycleTransition_ne_ready {lifecycle next : SessionLifecycleV2}
    {payload : OperatorEventPayloadV2}
    (h : applyLifecycleTransition lifecycle payload = .ok next) : next ≠ ready := by
  cases lifecycle <;> cases payload <;>
    simp_all [applyLifecycleTransition, OperatorEventPayloadV2.isLifecycle] <;> simp [← h]

theorem applyLifecycleTransition_ne_draft {lifecycle next : SessionLifecycleV2}
    {payload : OperatorEventPayloadV2}
    (h : applyLifecycleTransition lifecycle payload = .ok next) : next ≠ draft := by
  cases lifecycle <;> cases payload <;>
    simp_all [applyLifecycleTransition, OperatorEventPayloadV2.isLifecycle] <;> simp [← h]

theorem replayV2_ne_draft (events : List OperatorEventV2) :
    (replayV2 ready events).lifecycle ≠ draft := by
  induction events using List.reverseRecOn with
  | nil => simp [ReductionStateV2.init]
  | append_singleton events event ih =>
    rw [replayV2_concat]
    cases ReductionStateV2.step_outcome (replayV2 ready events) event with
    | reported lifecycle diagnostics => rwa [lifecycle]
    | moved isLifecycle transition diagnostics =>
      exact applyLifecycleTransition_ne_draft transition
    | taken isLifecycle lifecycle diagnostics => rwa [lifecycle]

/-- A history that is replayed without a report and starts a session leaves it started. -/
theorem replayV2_started {events : List OperatorEventV2}
    (hdiagnostics : (replayV2 ready events).diagnostics = [])
    (hstart : events.any (·.payload.isStart)) : (replayV2 ready events).lifecycle ≠ ready := by
  induction events using List.reverseRecOn with
  | nil => simp at hstart
  | append_singleton events event ih =>
    rw [replayV2_concat] at hdiagnostics ⊢
    cases ReductionStateV2.step_outcome (replayV2 ready events) event with
    | reported lifecycle diagnostics =>
      obtain ⟨diagnostic, hdiagnostic⟩ := diagnostics
      simp [hdiagnostic] at hdiagnostics
    | moved isLifecycle transition diagnostics =>
      exact applyLifecycleTransition_ne_ready transition
    | taken isLifecycle lifecycle diagnostics =>
      have hevent : event.payload.isStart = false := by
        cases hpayload : event.payload <;>
          simp_all [OperatorEventPayloadV2.isStart, OperatorEventPayloadV2.isLifecycle]
      rw [lifecycle]
      exact ih (by rw [← diagnostics, hdiagnostics]) (by simpa [hevent] using hstart)

end AntennaBench
