import AntennaBench.Core.Current
import AntennaBench.Timeline.Ledger

/-!
# The ledgers of the reductions

Both reductions keep a ledger of operator facts and corrections. A clean run of the v3
reduction takes the reduction of the projected events with it, one ledger entry at a time.
-/

namespace AntennaBench

open Timeline

namespace OperatorEventV3

/-- What a correction leaves of its target. -/
def settle (event : OperatorEventV3) (targetEventId : String) :
    EventCorrectionActionV3 → Option EffectiveOperatorEventV3
  | .retract => none
  | .replace replacement =>
    some (ReductionStateV3.effectiveFromReplacement targetEventId event replacement)

/-- What the event enters in the ledger of the v3 reduction. -/
def ledgerEntry (event : OperatorEventV3) : Option (LedgerEntry String EffectiveOperatorEventV3) :=
  match event.payload with
  | .eventCorrected targetEventId correction _ =>
    some (.amendment targetEventId (event.settle targetEventId correction))
  | payload => payload.correctable?.map fun payload =>
    .original event.eventId (ReductionStateV3.effectiveOriginal event payload)

def target? (event : OperatorEventV3) : Option String :=
  match event.payload with
  | .eventCorrected targetEventId _ _ => some targetEventId
  | _ => none

end OperatorEventV3

/-- What a correction leaves of its target. -/
def OperatorEventV2.settle (event : OperatorEventV2) (targetEventId : String) :
    EventCorrectionActionV2 → Option EffectiveOperatorEventV2
  | .retract => none
  | .replace replacement =>
    some (ReductionStateV2.effectiveFromReplacement targetEventId event replacement)

/-- What the event enters in the ledger of the v2 reduction. -/
def OperatorEventV2.ledgerEntry (event : OperatorEventV2) :
    Option (LedgerEntry String EffectiveOperatorEventV2) :=
  match event.payload with
  | .eventCorrected targetEventId correction _ =>
    some (.amendment targetEventId (event.settle targetEventId correction))
  | payload => payload.correctable?.map fun payload =>
    .original event.eventId (ReductionStateV2.effectiveOriginal event payload)

def ReductionStateV3.book (state : ReductionStateV3) : Book String EffectiveOperatorEventV3 :=
  ⟨state.originals, state.effective⟩

def ReductionStateV2.book (state : ReductionStateV2) : Book String EffectiveOperatorEventV2 :=
  ⟨state.originals, state.effective⟩

/-- What an accepted event does to the state of the v3 reduction. -/
structure AcceptedV3 (state : ReductionStateV3) (event : OperatorEventV3)
    (next : ReductionStateV3) : Prop where
  fresh : event.eventId ∉ state.seenIds
  shape : eventShapeErrorV3 event = none
  seen : next.seenIds = event.eventId :: state.seenIds
  lifecycle : (event.payload.isLifecycle = true ∧
      applyLifecycleTransitionV3 state.lifecycle event.payload = .ok next.lifecycle) ∨
    (event.payload.isLifecycle = false ∧ state.lifecycle.isTerminal = false ∧
      next.lifecycle = state.lifecycle)
  book : next.book = event.ledgerEntry.toList.foldl Book.enter state.book
  target : ∀ target ∈ event.target?, (state.originals.lookup target).isSome = true

namespace OperatorEventV3

theorem ledgerEntry_eq_none {event : OperatorEventV3}
    (h : event.payload.isLifecycle = true ∨ event.payload.isOperational = true) :
    event.ledgerEntry = none ∧ event.target? = none := by
  unfold ledgerEntry target?
  cases hpayload : event.payload <;> rw [hpayload] at h <;>
    simp_all [OperatorEventPayloadV3.isLifecycle, OperatorEventPayloadV3.isOperational,
      OperatorEventPayloadV3.correctable?]

theorem ledgerEntry_eq_original {event : OperatorEventV3}
    {payload : CorrectableOperatorEventPayloadV3}
    (h : event.payload.correctable? = some payload) :
    event.ledgerEntry = some (.original event.eventId
      (ReductionStateV3.effectiveOriginal event payload)) ∧ event.target? = none := by
  unfold ledgerEntry target?
  cases hpayload : event.payload <;> rw [hpayload] at h <;>
    simp_all [OperatorEventPayloadV3.correctable?]

end OperatorEventV3

namespace ReductionStateV3

theorem report_diagnostics (state : ReductionStateV3) (event : OperatorEventV3)
    (related : Option String) (code : OperatorEventDiagnosticCodeV2) (message : String) :
    (state.report event related code message).diagnostics ≠ state.diagnostics := by
  simp [report]

theorem correct_accepted {state : ReductionStateV3} {event : OperatorEventV3}
    {targetEventId reason : String} {correction : EventCorrectionActionV3}
    (h : (state.correct event targetEventId correction reason).diagnostics = state.diagnostics) :
    (state.originals.lookup targetEventId).isSome = true ∧
      (state.correct event targetEventId correction reason).book =
        state.book.enter (.amendment targetEventId (event.settle targetEventId correction)) ∧
      (state.correct event targetEventId correction reason).seenIds = state.seenIds ∧
      (state.correct event targetEventId correction reason).lifecycle = state.lifecycle := by
  unfold correct at h ⊢
  by_cases hreason : isBlank reason = true
  · rw [if_pos hreason] at h
    exact absurd h (report_diagnostics _ _ _ _ _)
  · cases hlookup : state.originals.lookup targetEventId with
    | none =>
      rw [if_neg hreason, hlookup] at h
      exact absurd h (report_diagnostics _ _ _ _ _)
    | some index =>
      rw [if_neg hreason]
      cases correction <;>
        exact ⟨rfl, by simp only [book, Book.enter, hlookup, OperatorEventV3.settle], rfl, rfl⟩

theorem step_accepted {state : ReductionStateV3} {event : OperatorEventV3}
    (h : (state.step event).diagnostics = state.diagnostics) :
    AcceptedV3 state event (state.step event) := by
  by_cases hseen : state.seenIds.contains event.eventId = true
  · rw [step, if_pos hseen] at h
    exact absurd h (report_diagnostics _ _ _ _ _)
  rw [step, if_neg hseen] at h ⊢
  dsimp only at h ⊢
  cases hshape : eventShapeErrorV3 event with
  | some message =>
    rw [hshape] at h
    exact absurd h (report_diagnostics _ _ _ _ _)
  | none =>
    rw [hshape] at h
    dsimp only at h ⊢
    have hfresh : event.eventId ∉ state.seenIds := by simpa using hseen
    by_cases hlifecycle : event.payload.isLifecycle = true
    · have hentry := OperatorEventV3.ledgerEntry_eq_none (.inl hlifecycle)
      rw [if_pos hlifecycle] at h ⊢
      cases hnext : applyLifecycleTransitionV3 state.lifecycle event.payload with
      | error error =>
        rw [hnext] at h
        exact absurd h (report_diagnostics _ _ _ _ _)
      | ok next =>
        exact ⟨hfresh, hshape, rfl, .inl ⟨hlifecycle, hnext⟩, by rw [hentry.1]; rfl,
          by simp [hentry.2]⟩
    rw [if_neg hlifecycle] at h ⊢
    by_cases hterminal : state.lifecycle.isTerminal = true
    · rw [if_pos hterminal] at h
      exact absurd h (report_diagnostics _ _ _ _ _)
    rw [if_neg hterminal] at h ⊢
    have hkeeps : event.payload.isLifecycle = false ∧ state.lifecycle.isTerminal = false := by
      simp only [Bool.not_eq_true] at hlifecycle hterminal
      exact ⟨hlifecycle, hterminal⟩
    by_cases hoperational : event.payload.isOperational = true
    · have hentry := OperatorEventV3.ledgerEntry_eq_none (.inr hoperational)
      rw [if_pos hoperational] at h ⊢
      by_cases hrunning : state.lifecycle = .running
      · rw [if_pos hrunning]
        exact ⟨hfresh, hshape, rfl, .inr ⟨hkeeps.1, hkeeps.2, rfl⟩, by rw [hentry.1]; rfl,
          by simp [hentry.2]⟩
      · rw [if_neg hrunning] at h
        exact absurd h (report_diagnostics _ _ _ _ _)
    rw [if_neg hoperational] at h ⊢
    by_cases htarget : ∃ targetEventId correction reason,
        event.payload = .eventCorrected targetEventId correction reason
    · obtain ⟨targetEventId, correction, reason, hpayload⟩ := htarget
      rw [hpayload] at h ⊢
      obtain ⟨hlookup, hbook, hseenIds, hsame⟩ := correct_accepted h
      refine ⟨hfresh, hshape, hseenIds, .inr ⟨hkeeps.1, hkeeps.2, hsame⟩, ?_, ?_⟩
      · rw [OperatorEventV3.ledgerEntry, hpayload]
        exact hbook
      · simpa [OperatorEventV3.target?, hpayload] using hlookup
    · cases hcorrectable : event.payload.correctable? with
      | none =>
        cases hpayload : event.payload <;>
          simp_all [OperatorEventPayloadV3.isLifecycle, OperatorEventPayloadV3.isOperational,
            OperatorEventPayloadV3.correctable?]
      | some payload =>
        have hentry := OperatorEventV3.ledgerEntry_eq_original hcorrectable
        refine ⟨hfresh, hshape, ?_, .inr ⟨hkeeps.1, hkeeps.2, ?_⟩, ?_, by simp [hentry.2]⟩
        all_goals
          cases hpayload : event.payload <;> rw [hpayload] at hcorrectable htarget <;>
            simp_all [OperatorEventPayloadV3.correctable?, book, Book.enter]

end ReductionStateV3

/-- The event takes the lifecycle to `next`, or leaves it and is not too late. -/
def OperatorEventV2.Carries (event : OperatorEventV2) (current next : SessionLifecycleV2) :
    Prop :=
  (event.payload.isLifecycle = true ∧ applyLifecycleTransition current event.payload = .ok next) ∨
    (event.payload.isLifecycle = false ∧ current.isTerminal = false ∧ next = current)

theorem correctionShapeError_reason {slotId error : Option String} {targetEventId reason : String}
    (h : correctionShapeError slotId targetEventId reason error = none) :
    isBlank reason = false := by
  unfold correctionShapeError at h
  split_ifs at h with hslot htarget hreason
  simpa using hreason

namespace ReductionStateV2

theorem correct_enters (state : ReductionStateV2) {event : OperatorEventV2}
    {targetEventId reason : String} {correction : EventCorrectionActionV2}
    (hreason : isBlank reason = false) :
    (state.correct event targetEventId correction reason).lifecycle = state.lifecycle ∧
      (state.correct event targetEventId correction reason).seenIds = state.seenIds ∧
      (state.correct event targetEventId correction reason).book =
        state.book.enter (.amendment targetEventId (event.settle targetEventId correction)) := by
  unfold correct
  rw [if_neg (by simp [hreason])]
  cases hlookup : state.originals.lookup targetEventId with
  | none => exact ⟨rfl, rfl, by simp only [book, Book.enter, hlookup, report]⟩
  | some index =>
    cases correction <;>
      exact ⟨rfl, rfl, by simp only [book, Book.enter, hlookup, OperatorEventV2.settle]⟩

theorem step_enters {state : ReductionStateV2} {event : OperatorEventV2}
    {next : SessionLifecycleV2} (hfresh : event.eventId ∉ state.seenIds)
    (hshape : eventShapeError event = none) (hnext : event.Carries state.lifecycle next) :
    (state.step event).lifecycle = next ∧
      (state.step event).seenIds = event.eventId :: state.seenIds ∧
      (state.step event).book = event.ledgerEntry.toList.foldl Book.enter state.book := by
  have hseen : ¬state.seenIds.contains event.eventId = true := by simpa using hfresh
  unfold step
  rw [if_neg hseen, hshape]
  dsimp only
  rcases hnext with ⟨hlifecycle, hnext⟩ | ⟨hlifecycle, hterminal, rfl⟩
  · rw [if_pos hlifecycle, hnext]
    unfold OperatorEventV2.ledgerEntry
    cases hpayload : event.payload <;> rw [hpayload] at hlifecycle <;>
      simp_all [OperatorEventPayloadV2.isLifecycle, OperatorEventPayloadV2.correctable?, book]
  rw [if_neg (by simp [hlifecycle]), if_neg (by simp [hterminal])]
  unfold OperatorEventV2.ledgerEntry
  cases hpayload : event.payload with
  | eventCorrected targetEventId correction reason =>
    have hreason : isBlank reason = false := by
      rw [eventShapeError, hpayload] at hshape
      rw [if_neg (by simp [OperatorEventPayloadV2.isLifecycle])] at hshape
      exact correctionShapeError_reason hshape
    exact correct_enters _ hreason
  | _ =>
    simp_all [OperatorEventPayloadV2.isLifecycle, OperatorEventPayloadV2.correctable?, book,
      Book.enter]

end ReductionStateV2

theorem replacementShapeError_project {replacement : ReplacementOperatorEventV3}
    {payload : CorrectableOperatorEventPayloadV2}
    (hpayload : projectV3CorrectableToV2 replacement.payload = some payload)
    (h : replacementShapeErrorV3 replacement = none) :
    replacementShapeError ⟨replacement.occurredAt, replacement.timeBasis,
      replacement.uncertaintySeconds, replacement.slotId, payload⟩ = none := by
  unfold replacementShapeErrorV3 at h
  unfold replacementShapeError
  cases hold : replacement.payload <;> rw [hold] at h hpayload <;>
    simp_all [projectV3CorrectableToV2] <;> simp [← hpayload, h]

theorem projectV3PayloadToV2_isLifecycle {payload : OperatorEventPayloadV3}
    {projected : OperatorEventPayloadV2} (h : projectV3PayloadToV2 payload = some projected) :
    projected.isLifecycle = payload.isLifecycle := by
  cases payload <;> simp [projectV3PayloadToV2, Option.bind_eq_some_iff] at h <;>
    first
    | subst h; rfl
    | obtain ⟨correction, -, rfl⟩ := h; rfl

theorem applyLifecycleTransition_project {payload : OperatorEventPayloadV3}
    {projected : OperatorEventPayloadV2} (current : SessionLifecycleV2)
    (hlifecycle : payload.isLifecycle = true)
    (h : projectV3PayloadToV2 payload = some projected) :
    applyLifecycleTransition current projected = applyLifecycleTransitionV3 current payload := by
  cases payload <;> simp [OperatorEventPayloadV3.isLifecycle] at hlifecycle <;>
    simp only [projectV3PayloadToV2, Option.some.injEq] at h <;> subst h <;> cases current <;> rfl

theorem slotRequired_eq_none {slotId : Option String} {kind : String} :
    slotRequired slotId kind = none ↔ slotId.isNone = false := by
  cases slotId <;> simp [slotRequired]

theorem thenText_eq_none {condition : Bool} {text : String} :
    thenText condition text = none ↔ condition = false := by
  cases condition <;> simp [thenText]

theorem eventShapeError_project {event : OperatorEventV3} {projected : OperatorEventV2}
    (hprojected : projectV3EventToV2 event = some projected)
    (h : eventShapeErrorV3 event = none) : eventShapeError projected = none := by
  simp only [projectV3EventToV2, Option.bind_eq_bind, Option.bind_eq_some_iff, Option.pure_def,
    Option.some.injEq] at hprojected
  obtain ⟨payload, hpayload, rfl⟩ := hprojected
  unfold eventShapeErrorV3 at h
  unfold eventShapeError
  rw [projectV3PayloadToV2_isLifecycle hpayload]
  split_ifs at h ⊢ with hslot
  cases hold : event.payload with
  | eventCorrected targetEventId correction reason =>
    rw [hold] at h hpayload
    cases correction with
    | retract =>
      simp only [projectV3PayloadToV2, projectV3CorrectionToV2, Option.bind_eq_bind,
        Option.bind_some, Option.pure_def, Option.some.injEq] at hpayload
      subst hpayload
      exact h
    | replace replacement =>
      simp only [projectV3PayloadToV2, projectV3CorrectionToV2, Option.bind_eq_bind,
        Option.pure_def, Option.bind_eq_some_iff, Option.some.injEq] at hpayload
      obtain ⟨_, ⟨payload, hreplacement, rfl⟩, rfl⟩ := hpayload
      dsimp only at h ⊢
      unfold correctionShapeError at h ⊢
      split_ifs at h ⊢
      exact replacementShapeError_project hreplacement h
  | wsprCycleArmed antennaLabel cycleStartsAt readiness =>
    rw [hold] at h hpayload
    simp only [projectV3PayloadToV2, Option.some.injEq] at hpayload
    subst hpayload
    simp only [Option.orElse_eq_orElse, Option.orElse_eq_or, Option.or_eq_none_iff,
      slotRequired_eq_none, thenText_eq_none] at h ⊢
    exact ⟨h.1, h.2.1⟩
  | _ =>
    rw [hold] at h hpayload
    simp only [projectV3PayloadToV2, Option.some.injEq, reduceCtorEq] at hpayload
    try subst hpayload
    try exact h

/-- A projected event keeps its identity, its shape and its effect on the lifecycle. -/
theorem projectV3EventToV2_carries {event : OperatorEventV3} {projected : OperatorEventV2}
    {current next : SessionLifecycleV2} (hprojected : projectV3EventToV2 event = some projected)
    (hlifecycle : (event.payload.isLifecycle = true ∧
        applyLifecycleTransitionV3 current event.payload = .ok next) ∨
      (event.payload.isLifecycle = false ∧ current.isTerminal = false ∧ next = current)) :
    projected.eventId = event.eventId ∧ projected.Carries current next := by
  simp only [projectV3EventToV2, Option.bind_eq_bind, Option.bind_eq_some_iff, Option.pure_def,
    Option.some.injEq] at hprojected
  obtain ⟨payload, hpayload, rfl⟩ := hprojected
  refine ⟨rfl, ?_⟩
  unfold OperatorEventV2.Carries
  rw [projectV3PayloadToV2_isLifecycle hpayload]
  refine hlifecycle.imp ?_ id
  rintro ⟨hlifecycle, hnext⟩
  exact ⟨hlifecycle, (applyLifecycleTransition_project _ hlifecycle hpayload).trans hnext⟩

theorem projectV3PayloadToV2_isSome {payload : OperatorEventPayloadV3}
    (h : payload.isLifecycle = true) : (projectV3PayloadToV2 payload).isSome = true := by
  cases payload <;> first | rfl | cases h

/-- What the event enters in the v2 ledger once it is projected. -/
def OperatorEventV3.projectedLedgerEntry (event : OperatorEventV3) :
    Option (LedgerEntry String EffectiveOperatorEventV2) :=
  (projectV3EventToV2 event).bind OperatorEventV2.ledgerEntry

/-- The two reductions agree on the lifecycle, and v2 has seen no other events. -/
structure Follows (state : ReductionStateV3) (projected : ReductionStateV2) : Prop where
  lifecycle : projected.lifecycle = state.lifecycle
  seen : ∀ eventId ∈ projected.seenIds, eventId ∈ state.seenIds

theorem Follows.step {state : ReductionStateV3} {projected : ReductionStateV2}
    {event : OperatorEventV3} {next : ReductionStateV3} (h : Follows state projected)
    (haccepted : AcceptedV3 state event next) :
    Follows next ((projectV3EventToV2 event).toList.foldl ReductionStateV2.step projected) ∧
      ((projectV3EventToV2 event).toList.foldl ReductionStateV2.step projected).book =
        event.projectedLedgerEntry.toList.foldl Book.enter projected.book := by
  unfold OperatorEventV3.projectedLedgerEntry
  cases hevent : projectV3EventToV2 event with
  | none =>
    refine ⟨⟨?_, fun eventId hmem => ?_⟩, rfl⟩
    · rcases haccepted.lifecycle with ⟨hlifecycle, -⟩ | ⟨-, -, hsame⟩
      · have hsome := projectV3PayloadToV2_isSome hlifecycle
        obtain ⟨payload, hpayload⟩ := Option.isSome_iff_exists.1 hsome
        simp [projectV3EventToV2, hpayload] at hevent
      · exact h.lifecycle.trans hsame.symm
    · rw [haccepted.seen]
      exact List.mem_cons_of_mem _ (h.seen eventId hmem)
  | some target =>
    obtain ⟨hid, hcarries⟩ := projectV3EventToV2_carries hevent haccepted.lifecycle
    have hfresh : target.eventId ∉ projected.seenIds := by
      rw [hid]
      exact fun hmem => haccepted.fresh (h.seen _ hmem)
    rw [← h.lifecycle] at hcarries
    obtain ⟨hnext, hseen, hbook⟩ := ReductionStateV2.step_enters hfresh
      (eventShapeError_project hevent haccepted.shape) hcarries
    refine ⟨⟨hnext, fun eventId hmem => ?_⟩, hbook⟩
    simp only [Option.toList_some, List.foldl_cons, List.foldl_nil, hseen, hid] at hmem
    rw [haccepted.seen]
    rcases List.mem_cons.1 hmem with rfl | hmem
    · exact List.mem_cons_self
    · exact List.mem_cons_of_mem _ (h.seen eventId hmem)

namespace ReductionStateV3

theorem report_prefix (state : ReductionStateV3) (event : OperatorEventV3)
    (related : Option String) (code : OperatorEventDiagnosticCodeV2) (message : String) :
    state.diagnostics <+: (state.report event related code message).diagnostics :=
  List.prefix_append _ _

theorem correct_diagnostics (state : ReductionStateV3) (event : OperatorEventV3)
    (targetEventId : String) (correction : EventCorrectionActionV3) (reason : String) :
    state.diagnostics <+: (state.correct event targetEventId correction reason).diagnostics := by
  unfold correct
  split_ifs
  · exact report_prefix _ _ _ _ _
  · cases state.originals.lookup targetEventId with
    | none => exact report_prefix _ _ _ _ _
    | some index => exact List.prefix_rfl

theorem step_diagnostics (state : ReductionStateV3) (event : OperatorEventV3) :
    state.diagnostics <+: (state.step event).diagnostics := by
  unfold step
  by_cases hseen : state.seenIds.contains event.eventId = true
  · rw [if_pos hseen]
    exact report_prefix _ _ _ _ _
  rw [if_neg hseen]
  dsimp only
  cases eventShapeErrorV3 event with
  | some message =>
    dsimp only
    exact report_prefix _ _ _ _ _
  | none =>
    by_cases hlifecycle : event.payload.isLifecycle = true
    · simp only [if_pos hlifecycle]
      cases applyLifecycleTransitionV3 state.lifecycle event.payload with
      | ok next => exact List.prefix_rfl
      | error error => exact report_prefix _ _ _ _ _
    simp only [if_neg hlifecycle]
    split_ifs with hterminal hoperational hrunning
    · exact report_prefix _ _ _ _ _
    · exact List.prefix_rfl
    · exact report_prefix _ _ _ _ _
    · cases event.payload with
      | eventCorrected targetEventId correction reason =>
        exact correct_diagnostics { state with seenIds := event.eventId :: state.seenIds } _ _ _ _
      | _ => simp [OperatorEventPayloadV3.correctable?, report]

theorem diagnostics_of_foldl {events : List OperatorEventV3} {state : ReductionStateV3}
    (h : (events.foldl step state).diagnostics = []) : state.diagnostics = [] := by
  induction events generalizing state with
  | nil => exact h
  | cons event rest ih =>
    have hstep := ih h
    have hprefixed := step_diagnostics state event
    rw [hstep] at hprefixed
    exact List.prefix_nil.1 hprefixed

/-- A clean run accepts its first event. -/
theorem accepted_of_foldl {event : OperatorEventV3} {rest : List OperatorEventV3}
    {state : ReductionStateV3} (h : ((event :: rest).foldl step state).diagnostics = []) :
    AcceptedV3 state event (state.step event) := by
  have hstate := diagnostics_of_foldl h
  have hrest : (rest.foldl step (state.step event)).diagnostics = [] := h
  have hstep := diagnostics_of_foldl hrest
  exact step_accepted (hstep.trans hstate.symm)

theorem foldl_filterMap_cons {α β γ : Type} (f : α → Option β) (g : γ → β → γ) (c : γ) (a : α)
    (l : List α) :
    ((a :: l).filterMap f).foldl g c = (l.filterMap f).foldl g ((f a).toList.foldl g c) := by
  cases h : f a <;> simp [h]

/-- A clean run of the v3 reduction and its shadow on the projected events. -/
theorem run_follows {events : List OperatorEventV3} {state : ReductionStateV3}
    {projected : ReductionStateV2} (hfollows : Follows state projected)
    (h : (events.foldl step state).diagnostics = []) :
    (events.foldl step state).book =
        (events.filterMap OperatorEventV3.ledgerEntry).foldl Book.enter state.book ∧
      ((events.filterMap projectV3EventToV2).foldl ReductionStateV2.step projected).book =
        (events.filterMap OperatorEventV3.projectedLedgerEntry).foldl Book.enter
          projected.book := by
  induction events generalizing state projected with
  | nil => exact ⟨rfl, rfl⟩
  | cons event rest ih =>
    have haccepted := accepted_of_foldl h
    obtain ⟨hnext, hbook⟩ := hfollows.step haccepted
    obtain ⟨hrest, hprojected⟩ := ih hnext h
    rw [haccepted.book] at hrest
    rw [hbook] at hprojected
    rw [foldl_filterMap_cons, foldl_filterMap_cons, foldl_filterMap_cons]
    exact ⟨hrest, hprojected⟩

end ReductionStateV3

end AntennaBench
