import AntennaBench.Core.Occupancy
import AntennaBench.Core.Projection

/-!
# The meaning of the schema-v3 reduction

An event is accepted when its turn reports nothing. The effective events are what
stands in the ledger of the accepted events, whatever else the list holds. A
rejected event is inert except that it still claims its identity.
-/

namespace AntennaBench

open Timeline

namespace ReductionStateV3

/-- The turn of the event adds no diagnostic. -/
def accepts (state : ReductionStateV3) (event : OperatorEventV3) : Bool :=
  (state.step event).diagnostics == state.diagnostics

/-- The events of a list that are accepted in their turn. -/
def acceptedFrom (state : ReductionStateV3) : List OperatorEventV3 → List OperatorEventV3
  | [] => []
  | event :: rest =>
    if state.accepts event then event :: acceptedFrom (state.step event) rest
    else acceptedFrom (state.step event) rest

/-- Two states with the same lifecycle and the same originals and their values. -/
structure SameEvidence (state other : ReductionStateV3) : Prop where
  lifecycle : state.lifecycle = other.lifecycle
  book : state.book = other.book

theorem SameEvidence.effectiveEvents {state other : ReductionStateV3}
    (h : state.SameEvidence other) :
    state.finish.effectiveEvents = other.finish.effectiveEvents :=
  congrArg (fun book => book.values.filterMap id) h.book

theorem report_same (state : ReductionStateV3) (event : OperatorEventV3) (related : Option String)
    (code : OperatorEventDiagnosticCodeV2) (message : String) :
    (state.report event related code message).SameEvidence state :=
  ⟨rfl, rfl⟩

/-- What one turn can do: the event is accepted, or nothing but the identity is kept. -/
inductive Turn (state : ReductionStateV3) (event : OperatorEventV3) (next : ReductionStateV3) :
    Prop
  | accepted (quiet : next.diagnostics = state.diagnostics) (does : AcceptedV3 state event next)
  | rejected (loud : next.diagnostics ≠ state.diagnostics) (same : next.SameEvidence state)

theorem correct_rejected {state : ReductionStateV3} {event : OperatorEventV3}
    {targetEventId reason : String} {correction : EventCorrectionActionV3}
    (h : (state.correct event targetEventId correction reason).diagnostics ≠ state.diagnostics) :
    (state.correct event targetEventId correction reason).SameEvidence state := by
  unfold correct at h ⊢
  by_cases hreason : isBlank reason = true
  · rw [if_pos hreason]
    exact report_same _ _ _ _ _
  · rw [if_neg hreason] at h ⊢
    cases hlookup : state.originals.lookup targetEventId with
    | none => exact report_same _ _ _ _ _
    | some index =>
      rw [hlookup] at h
      exact absurd rfl h

theorem step_rejected {state : ReductionStateV3} {event : OperatorEventV3}
    (h : (state.step event).diagnostics ≠ state.diagnostics) :
    (state.step event).SameEvidence state := by
  unfold step at h ⊢
  by_cases hseen : state.seenIds.contains event.eventId = true
  · rw [if_pos hseen]
    exact report_same _ _ _ _ _
  rw [if_neg hseen] at h ⊢
  cases hshape : eventShapeErrorV3 event with
  | some message => exact ⟨rfl, rfl⟩
  | none =>
    rw [hshape] at h
    dsimp only at h ⊢
    by_cases hlifecycle : event.payload.isLifecycle = true
    · rw [if_pos hlifecycle] at h ⊢
      cases hnext : applyLifecycleTransitionV3 state.lifecycle event.payload with
      | error error => exact ⟨rfl, rfl⟩
      | ok next =>
        rw [hnext] at h
        exact absurd rfl h
    rw [if_neg hlifecycle] at h ⊢
    by_cases hterminal : state.lifecycle.isTerminal = true
    · rw [if_pos hterminal]
      exact ⟨rfl, rfl⟩
    rw [if_neg hterminal] at h ⊢
    by_cases hoperational : event.payload.isOperational = true
    · rw [if_pos hoperational] at h ⊢
      by_cases hrunning : state.lifecycle = .running
      · rw [if_pos hrunning] at h
        exact absurd rfl h
      · rw [if_neg hrunning]
        exact ⟨rfl, rfl⟩
    rw [if_neg hoperational] at h ⊢
    cases hpayload : event.payload with
    | eventCorrected targetEventId correction reason =>
      rw [hpayload] at h
      have hsame := correct_rejected h
      exact ⟨hsame.lifecycle, hsame.book⟩
    | _ => simp_all [OperatorEventPayloadV3.isLifecycle, OperatorEventPayloadV3.isOperational,
        OperatorEventPayloadV3.correctable?]

theorem step_turn (state : ReductionStateV3) (event : OperatorEventV3) :
    Turn state event (state.step event) := by
  by_cases h : (state.step event).diagnostics = state.diagnostics
  · exact .accepted h (step_accepted h)
  · exact .rejected h (step_rejected h)

theorem accepts_iff (state : ReductionStateV3) (event : OperatorEventV3) :
    state.accepts event = true ↔ (state.step event).diagnostics = state.diagnostics := by
  simp [accepts]

theorem correct_seenIds (state : ReductionStateV3) (event : OperatorEventV3)
    (targetEventId reason : String) (correction : EventCorrectionActionV3) :
    (state.correct event targetEventId correction reason).seenIds = state.seenIds := by
  unfold correct
  split_ifs
  · rfl
  · cases state.originals.lookup targetEventId <;> rfl

theorem step_seenIds (state : ReductionStateV3) (event : OperatorEventV3) (id : String) :
    id ∈ (state.step event).seenIds ↔ id = event.eventId ∨ id ∈ state.seenIds := by
  unfold step
  by_cases hseen : state.seenIds.contains event.eventId = true
  · rw [if_pos hseen]
    have hmem : event.eventId ∈ state.seenIds := by simpa using hseen
    refine ⟨.inr, fun h => ?_⟩
    rcases h with rfl | h
    · exact hmem
    · exact h
  rw [if_neg hseen]
  cases hshape : eventShapeErrorV3 event with
  | some message => simp [report]
  | none =>
    dsimp only
    by_cases hlifecycle : event.payload.isLifecycle = true
    · rw [if_pos hlifecycle]
      cases applyLifecycleTransitionV3 state.lifecycle event.payload <;> simp [report]
    rw [if_neg hlifecycle]
    split_ifs
    · simp [report]
    · simp
    · simp [report]
    · cases event.payload with
      | eventCorrected targetEventId correction reason =>
        dsimp only
        rw [correct_seenIds, List.mem_cons]
      | _ => simp [OperatorEventPayloadV3.correctable?, report]

theorem mem_seenIds_foldl (state : ReductionStateV3) (events : List OperatorEventV3) (id : String) :
    id ∈ (events.foldl step state).seenIds ↔
      id ∈ events.map (·.eventId) ∨ id ∈ state.seenIds := by
  induction events generalizing state with
  | nil => simp
  | cons event rest ih =>
    rw [List.foldl_cons, ih, step_seenIds, List.map_cons, List.mem_cons]
    tauto

theorem correct_congr {state other : ReductionStateV3} {event : OperatorEventV3}
    {targetEventId reason : String} {correction : EventCorrectionActionV3}
    (h : state.SameEvidence other) :
    (state.correct event targetEventId correction reason).SameEvidence
      (other.correct event targetEventId correction reason) := by
  have horiginals : state.originals = other.originals := congrArg (·.index) h.book
  have heffective : state.effective = other.effective := congrArg (·.values) h.book
  unfold correct
  split_ifs
  · exact ⟨h.lifecycle, h.book⟩
  · rw [horiginals, heffective]
    cases other.originals.lookup targetEventId with
    | none => exact ⟨h.lifecycle, h.book⟩
    | some index => exact ⟨h.lifecycle, by simp [book]⟩

/-- A turn reads nothing of the past but the evidence and whether the identity is taken. -/
theorem step_congr {state other : ReductionStateV3} {event : OperatorEventV3}
    (h : state.SameEvidence other)
    (hseen : event.eventId ∈ state.seenIds ↔ event.eventId ∈ other.seenIds) :
    (state.step event).SameEvidence (other.step event) := by
  have horiginals : state.originals = other.originals := congrArg (·.index) h.book
  have heffective : state.effective = other.effective := congrArg (·.values) h.book
  have hcontains : state.seenIds.contains event.eventId =
      other.seenIds.contains event.eventId := by
    rw [Bool.eq_iff_iff]
    simpa using hseen
  unfold step
  rw [hcontains]
  by_cases htaken : other.seenIds.contains event.eventId = true
  · rw [if_pos htaken, if_pos htaken]
    exact ⟨h.lifecycle, h.book⟩
  rw [if_neg htaken, if_neg htaken]
  cases eventShapeErrorV3 event with
  | some message => exact ⟨h.lifecycle, h.book⟩
  | none =>
    dsimp only
    rw [h.lifecycle]
    split_ifs
    · cases applyLifecycleTransitionV3 other.lifecycle event.payload with
      | ok next => exact ⟨rfl, h.book⟩
      | error error => exact ⟨rfl, h.book⟩
    · exact ⟨rfl, h.book⟩
    · exact ⟨rfl, h.book⟩
    · exact ⟨rfl, h.book⟩
    · cases event.payload with
      | eventCorrected targetEventId correction reason => exact correct_congr ⟨rfl, h.book⟩
      | _ =>
        simp only [OperatorEventPayloadV3.correctable?]
        exact ⟨rfl, by simp [book, report, horiginals, heffective]⟩

theorem foldl_congr {state other : ReductionStateV3} {events : List OperatorEventV3}
    (h : state.SameEvidence other)
    (hseen : ∀ event ∈ events,
      (event.eventId ∈ state.seenIds ↔ event.eventId ∈ other.seenIds)) :
    (events.foldl step state).SameEvidence (events.foldl step other) := by
  induction events generalizing state other with
  | nil => exact h
  | cons event rest ih =>
    apply ih (step_congr h (hseen event List.mem_cons_self))
    intro later hlater
    rw [step_seenIds, step_seenIds, hseen later (List.mem_cons_of_mem _ hlater)]

theorem acceptedFrom_append (state : ReductionStateV3) (events more : List OperatorEventV3) :
    acceptedFrom state (events ++ more) =
      acceptedFrom state events ++ acceptedFrom (events.foldl step state) more := by
  induction events generalizing state with
  | nil => rfl
  | cons event rest ih =>
    rw [List.cons_append, acceptedFrom, acceptedFrom, ih, List.foldl_cons]
    split_ifs <;> rfl

end ReductionStateV3

/-- The events of a list that the reduction accepts. -/
def acceptedEventsV3 (initialLifecycle : SessionLifecycleV2) (events : List OperatorEventV3) :
    List OperatorEventV3 :=
  ReductionStateV3.acceptedFrom (.init initialLifecycle) events

/-- The loop state is the book of the accepted events, which are unique and in order. -/
structure KeepsLedger (state : ReductionStateV3) (accepted : List OperatorEventV3) : Prop where
  book : state.book = keep (ledgerV3 accepted)
  committed : Committed accepted
  seen : ∀ event ∈ accepted, event.eventId ∈ state.seenIds
  targets : ∀ event ∈ accepted, ∀ target ∈ event.target?, target ∈ state.seenIds

namespace KeepsLedger

variable {state : ReductionStateV3} {accepted : List OperatorEventV3} {event : OperatorEventV3}

theorem orderly (h : KeepsLedger state accepted) : Orderly (ledgerV3 accepted) :=
  h.committed.orderly fun _ _ => OperatorEventV3.ledgerEntry_entryOf

/-- A place in the book belongs to an accepted correctable event. -/
theorem original_of_lookup (h : KeepsLedger state accepted) {target : String}
    (hlookup : (state.originals.lookup target).isSome = true) :
    ∃ original ∈ accepted, original.eventId = target ∧
      original.payload.correctable?.isSome = true := by
  obtain ⟨place, hplace⟩ := Option.isSome_iff_exists.1 hlookup
  have hindex : (keep (ledgerV3 accepted)).index.lookup target = some place := by
    rw [← h.book]
    exact hplace
  have hget := ((keep_records h.orderly).index target place).1 hindex
  obtain ⟨⟨key, value⟩, horiginal, rfl⟩ := List.mem_map.1 (List.mem_of_getElem? hget)
  obtain ⟨original, hmem, hentry⟩ := List.mem_filterMap.1 (mem_originals.1 horiginal)
  refine ⟨original, hmem, ((OperatorEventV3.ledgerEntry_entryOf hentry).original rfl).symm, ?_⟩
  unfold OperatorEventV3.ledgerEntry at hentry
  cases hpayload : original.payload <;> rw [hpayload] at hentry <;>
    simp_all [OperatorEventPayloadV3.correctable?]

theorem accepts (h : KeepsLedger state accepted) {next : ReductionStateV3}
    (hnext : AcceptedV3 state event next) : KeepsLedger next (accepted ++ [event]) := by
  have htarget : ∀ target ∈ event.target?, target ∈ state.seenIds := by
    intro target hmem
    obtain ⟨original, horiginal, rfl, -⟩ := h.original_of_lookup (hnext.target target hmem)
    exact h.seen original horiginal
  constructor
  · rw [hnext.book, h.book, ledgerV3, ledgerV3, List.filterMap_append]
    unfold keep
    rw [List.foldl_append]
    cases hentry : event.ledgerEntry <;> simp [hentry]
  · refine List.pairwise_append.2 ⟨h.committed, List.pairwise_singleton _ _, ?_⟩
    intro earlier hearlier later hlater
    rw [List.mem_singleton] at hlater
    subst hlater
    constructor
    · intro heq
      exact hnext.fresh (heq ▸ h.seen earlier hearlier)
    · intro heq
      exact hnext.fresh (h.targets earlier hearlier _ heq)
  · intro other hother
    rw [hnext.seen]
    rcases List.mem_append.1 hother with hold | hnew
    · exact List.mem_cons_of_mem _ (h.seen other hold)
    · rw [List.mem_singleton.1 hnew]
      exact List.mem_cons_self
  · intro other hother target hmem
    rw [hnext.seen]
    rcases List.mem_append.1 hother with hold | hnew
    · exact List.mem_cons_of_mem _ (h.targets other hold target hmem)
    · rw [List.mem_singleton.1 hnew] at hmem
      exact List.mem_cons_of_mem _ (htarget target hmem)

theorem rejects (h : KeepsLedger state accepted) (hsame : (state.step event).SameEvidence state) :
    KeepsLedger (state.step event) accepted := by
  refine ⟨hsame.book.trans h.book, h.committed, fun other hother => ?_,
    fun other hother target hmem => ?_⟩
  · exact (state.step_seenIds event _).2 (.inr (h.seen other hother))
  · exact (state.step_seenIds event _).2 (.inr (h.targets other hother target hmem))

end KeepsLedger

theorem acceptedEventsV3_concat (initialLifecycle : SessionLifecycleV2)
    (events : List OperatorEventV3) (event : OperatorEventV3) :
    acceptedEventsV3 initialLifecycle (events ++ [event]) =
      if (reduceStateV3 initialLifecycle events).accepts event then
        acceptedEventsV3 initialLifecycle events ++ [event]
      else acceptedEventsV3 initialLifecycle events := by
  rw [acceptedEventsV3, ReductionStateV3.acceptedFrom_append]
  simp only [ReductionStateV3.acceptedFrom]
  split_ifs with h h' h'
  · rfl
  · exact absurd h h'
  · exact absurd h' h
  · exact List.append_nil _

theorem reduceStateV3_keepsLedger (initialLifecycle : SessionLifecycleV2)
    (events : List OperatorEventV3) :
    KeepsLedger (reduceStateV3 initialLifecycle events)
      (acceptedEventsV3 initialLifecycle events) := by
  induction events using List.reverseRecOn with
  | nil =>
    have hnone : acceptedEventsV3 initialLifecycle [] = [] := rfl
    rw [hnone]
    exact ⟨rfl, List.Pairwise.nil, by simp, by simp⟩
  | append_singleton events event ih =>
    rw [acceptedEventsV3_concat, reduceStateV3_append]
    cases (reduceStateV3 initialLifecycle events).step_turn event with
    | accepted quiet does =>
      rw [if_pos ((ReductionStateV3.accepts_iff _ _).2 quiet)]
      exact ih.accepts does
    | rejected loud same =>
      rw [if_neg (mt (ReductionStateV3.accepts_iff _ _).1 loud)]
      exact ih.rejects same

/-- Dropping a rejected event changes the evidence after no later prefix. -/
def RejectedInert (initialLifecycle : SessionLifecycleV2) (events : List OperatorEventV3) : Prop :=
  ∀ past event later, events = past ++ event :: later →
    (reduceStateV3 initialLifecycle past).accepts event = false →
    ∀ more, more <+: later →
      (reduceOperatorEventsV3 initialLifecycle (past ++ event :: more)).lifecycle =
          (reduceOperatorEventsV3 initialLifecycle (past ++ more)).lifecycle ∧
        (reduceOperatorEventsV3 initialLifecycle (past ++ event :: more)).effectiveEvents =
          (reduceOperatorEventsV3 initialLifecycle (past ++ more)).effectiveEvents

/-- The last of the corrections of an event. -/
def latestCorrection (events : List OperatorEventV3) (eventId : String) :
    Option (OperatorEventV3 × EventCorrectionActionV3) :=
  (corrections events eventId).getLast?

/-- A correctable event that is not retracted last. -/
def OperatorEventV3.isEffective (events : List OperatorEventV3) (event : OperatorEventV3) : Bool :=
  event.payload.correctable?.isSome &&
    (latestCorrection events event.eventId).all fun correction => correction.2 != .retract

/-- What an original is in effect: itself while nothing corrects it, and what its latest
correction replaces it with. -/
inductive InEffect (events : List OperatorEventV3) (original : OperatorEventV3)
    (effective : EffectiveOperatorEventV3) : Prop
  | uncorrected (latest : latestCorrection events original.eventId = none)
      (sourceEventId : effective.sourceEventId = original.eventId)
      (effectiveThroughEventId : effective.effectiveThroughEventId = original.eventId)
      (sessionId : effective.sessionId = original.recordMeta.sessionId)
      (recordedAt : effective.recordedAt = original.recordMeta.recordedAt)
      (occurredAt : effective.occurredAt = original.occurredAt)
      (timeBasis : effective.timeBasis = original.timeBasis)
      (uncertaintySeconds : effective.uncertaintySeconds = original.uncertaintySeconds)
      (slotId : effective.slotId = original.slotId)
      (payload : original.payload.correctable? = some effective.payload)
  | replaced (correction : OperatorEventV3) (replacement : ReplacementOperatorEventV3)
      (latest : latestCorrection events original.eventId = some (correction, .replace replacement))
      (sourceEventId : effective.sourceEventId = original.eventId)
      (effectiveThroughEventId : effective.effectiveThroughEventId = correction.eventId)
      (sessionId : effective.sessionId = correction.recordMeta.sessionId)
      (recordedAt : effective.recordedAt = correction.recordMeta.recordedAt)
      (occurredAt : effective.occurredAt = replacement.occurredAt)
      (timeBasis : effective.timeBasis = replacement.timeBasis)
      (uncertaintySeconds : effective.uncertaintySeconds = replacement.uncertaintySeconds)
      (slotId : effective.slotId = replacement.slotId)
      (payload : effective.payload = replacement.payload)

/-- The reduction as its result reads. A rejected event changes nothing in its turn, and
later it only costs the events that carry its identity their turn: these are rejected as
duplicates, as every event is whose identity has come before. -/
structure ReductionReads (initialLifecycle : SessionLifecycleV2) (events : List OperatorEventV3) :
    Prop where
  rejected : ∀ past event later, events = past ++ event :: later →
    (reduceStateV3 initialLifecycle past).accepts event = false →
    ∀ more, more <+: later →
      event.eventId ∈ past.map (·.eventId) ∨ event.eventId ∉ more.map (·.eventId) →
      (reduceOperatorEventsV3 initialLifecycle (past ++ event :: more)).lifecycle =
          (reduceOperatorEventsV3 initialLifecycle (past ++ more)).lifecycle ∧
        (reduceOperatorEventsV3 initialLifecycle (past ++ event :: more)).effectiveEvents =
          (reduceOperatorEventsV3 initialLifecycle (past ++ more)).effectiveEvents
  claimed : ∀ past event later, events = past ++ event :: later →
    (reduceStateV3 initialLifecycle past).accepts event = false → ∀ more, more <+: later →
      let others := more.filter (·.eventId ≠ event.eventId)
      (reduceOperatorEventsV3 initialLifecycle (past ++ event :: more)).lifecycle =
          (reduceOperatorEventsV3 initialLifecycle (past ++ others)).lifecycle ∧
        (reduceOperatorEventsV3 initialLifecycle (past ++ event :: more)).effectiveEvents =
          (reduceOperatorEventsV3 initialLifecycle (past ++ others)).effectiveEvents
  duplicates : ∀ past event later, events = past ++ event :: later →
    event.eventId ∈ past.map (·.eventId) →
      (reduceOperatorEventsV3 initialLifecycle (past ++ [event])).diagnostics =
        (reduceOperatorEventsV3 initialLifecycle past).diagnostics ++
          [⟨event.eventId, none, .duplicateEventId, "event ID is duplicated"⟩]
  effective :
    let accepted := acceptedEventsV3 initialLifecycle events
    List.Forall₂ (InEffect accepted) (accepted.filter (·.isEffective accepted))
      (reduceOperatorEventsV3 initialLifecycle events).effectiveEvents
  corrections : ∀ past event later, events = past ++ event :: later →
    (reduceStateV3 initialLifecycle past).accepts event = true → ∀ target ∈ event.target?,
      ∃ original ∈ acceptedEventsV3 initialLifecycle past, original.eventId = target ∧
        original.payload.correctable?.isSome = true
  terminal : ∀ past later, events = past ++ later →
    (reduceOperatorEventsV3 initialLifecycle past).lifecycle.isTerminal = true →
      (reduceOperatorEventsV3 initialLifecycle events).lifecycle =
          (reduceOperatorEventsV3 initialLifecycle past).lifecycle ∧
        (reduceOperatorEventsV3 initialLifecycle events).effectiveEvents =
          (reduceOperatorEventsV3 initialLifecycle past).effectiveEvents

namespace ReductionStateV3

theorem SameEvidence.trans {state other third : ReductionStateV3} (h : state.SameEvidence other)
    (h' : other.SameEvidence third) : state.SameEvidence third :=
  ⟨h.lifecycle.trans h'.lifecycle, h.book.trans h'.book⟩

theorem rejected_same {state : ReductionStateV3} {event : OperatorEventV3}
    (h : state.accepts event = false) : (state.step event).SameEvidence state := by
  apply step_rejected
  intro hquiet
  rw [(accepts_iff state event).2 hquiet] at h
  cases h

/-- No lifecycle payload leads out of a terminal lifecycle. -/
theorem terminal_transition {current next : SessionLifecycleV2} {payload : OperatorEventPayloadV3}
    (hterminal : current.isTerminal = true)
    (h : applyLifecycleTransitionV3 current payload = .ok next) : False := by
  cases current <;> cases payload <;>
    simp_all [applyLifecycleTransitionV3, SessionLifecycleV2.isTerminal,
      OperatorEventPayloadV3.isLifecycle]

theorem terminal_rejects {state : ReductionStateV3} (hterminal : state.lifecycle.isTerminal = true)
    (event : OperatorEventV3) : (state.step event).SameEvidence state := by
  cases state.step_turn event with
  | rejected loud same => exact same
  | accepted quiet does =>
    rcases does.lifecycle with ⟨-, hnext⟩ | ⟨-, hopen, -⟩
    · exact (terminal_transition hterminal hnext).elim
    · rw [hterminal] at hopen
      cases hopen

theorem terminal_foldl {state : ReductionStateV3} (hterminal : state.lifecycle.isTerminal = true)
    (events : List OperatorEventV3) : (events.foldl step state).SameEvidence state := by
  induction events generalizing state with
  | nil => exact ⟨rfl, rfl⟩
  | cons event rest ih =>
    have hsame := terminal_rejects hterminal event
    rw [← hsame.lifecycle] at hterminal
    exact (ih hterminal).trans hsame

theorem rejected_foldl {state : ReductionStateV3} {event : OperatorEventV3}
    {more : List OperatorEventV3} (h : state.accepts event = false)
    (hid : event.eventId ∈ state.seenIds ∨ event.eventId ∉ more.map (·.eventId)) :
    ((event :: more).foldl step state).SameEvidence (more.foldl step state) := by
  apply foldl_congr (rejected_same h)
  intro later hlater
  rw [step_seenIds, or_iff_right_iff_imp]
  intro heq
  rcases hid with hseen | hother
  · rwa [heq]
  · exact absurd (List.mem_map.2 ⟨later, hlater, heq⟩) hother

theorem step_duplicate {state : ReductionStateV3} {event : OperatorEventV3}
    (h : event.eventId ∈ state.seenIds) :
    state.step event = state.report event none .duplicateEventId "event ID is duplicated" := by
  unfold step
  rw [if_pos (by simpa using h)]

/-- The events of an identity that is taken change nothing. -/
theorem foldl_others {state : ReductionStateV3} {id : String} (hid : id ∈ state.seenIds)
    (more : List OperatorEventV3) :
    (more.foldl step state).SameEvidence
      ((more.filter (·.eventId ≠ id)).foldl step state) := by
  induction more generalizing state with
  | nil => exact ⟨rfl, rfl⟩
  | cons event rest ih =>
    by_cases hevent : event.eventId = id
    · subst hevent
      have hstep : (state.step event).SameEvidence state := by
        rw [step_duplicate hid]
        exact report_same _ _ _ _ _
      have hrest : (rest.foldl step (state.step event)).SameEvidence (rest.foldl step state) :=
        foldl_congr hstep fun later _ => by rw [step_duplicate hid, report]
      rw [List.foldl_cons, List.filter_cons_of_neg (by simp)]
      exact hrest.trans (ih hid)
    · rw [List.foldl_cons, List.filter_cons_of_pos (by simpa using hevent), List.foldl_cons]
      exact ih ((step_seenIds state event id).2 (.inr hid))

/-- A rejected event leaves the evidence of the others as it is without it. -/
theorem rejected_foldl_others {state : ReductionStateV3} {event : OperatorEventV3}
    (more : List OperatorEventV3) (h : state.accepts event = false) :
    ((event :: more).foldl step state).SameEvidence
      ((more.filter (·.eventId ≠ event.eventId)).foldl step state) := by
  have hclaims : event.eventId ∈ (state.step event).seenIds :=
    (step_seenIds state event event.eventId).2 (.inl rfl)
  refine (foldl_others hclaims more).trans ?_
  apply foldl_congr (rejected_same h)
  intro later hlater
  rw [step_seenIds, or_iff_right_iff_imp]
  intro heq
  exact absurd heq (by simpa using (List.mem_filter.1 hlater).2)

end ReductionStateV3

theorem standingOf_original {events : List OperatorEventV3} {event : OperatorEventV3}
    {payload : CorrectableOperatorEventPayloadV3}
    (hpayload : event.payload.correctable? = some payload) :
    standingOf (ledgerV3 events) event.ledgerEntry =
      match latestCorrection events event.eventId with
      | none => some (ReductionStateV3.effectiveOriginal event payload)
      | some (correction, action) => correction.settle event.eventId action := by
  rw [(OperatorEventV3.ledgerEntry_eq_original hpayload).1, latestCorrection]
  simp only [standingOf, LedgerEntry.original?, Option.bind_some, standing, amendments_ledgerV3,
    List.getLast?_map]
  cases (corrections events event.eventId).getLast? <;> rfl

/-- What stands of an event in the ledger is what it is in effect. -/
theorem standingOf_inEffect {events : List OperatorEventV3} {event : OperatorEventV3}
    {effective : EffectiveOperatorEventV3}
    (h : standingOf (ledgerV3 events) event.ledgerEntry = some effective) :
    InEffect events event effective := by
  cases hpayload : event.payload.correctable? with
  | none =>
    rw [standingOf_uncorrectable hpayload] at h
    cases h
  | some payload =>
    rw [standingOf_original hpayload] at h
    cases hlatest : latestCorrection events event.eventId with
    | none =>
      rw [hlatest] at h
      obtain rfl := Option.some.inj h
      exact .uncorrected hlatest rfl rfl rfl rfl rfl rfl rfl rfl hpayload
    | some latest =>
      obtain ⟨correction, action⟩ := latest
      rw [hlatest] at h
      cases action with
      | retract => cases h
      | replace replacement =>
        obtain rfl := Option.some.inj h
        exact .replaced correction replacement hlatest rfl rfl rfl rfl rfl rfl rfl rfl rfl

theorem standingOf_isSome (events : List OperatorEventV3) (event : OperatorEventV3) :
    (standingOf (ledgerV3 events) event.ledgerEntry).isSome = event.isEffective events := by
  unfold OperatorEventV3.isEffective
  cases hpayload : event.payload.correctable? with
  | none =>
    rw [standingOf_uncorrectable hpayload]
    rfl
  | some payload =>
    rw [standingOf_original hpayload]
    cases latestCorrection events event.eventId with
    | none => rfl
    | some latest =>
      obtain ⟨correction, action⟩ := latest
      cases action <;> rfl

theorem forall₂_filter_filterMap {α β : Type} {R : α → β → Prop} {p : α → Bool}
    {f : α → Option β} (hp : ∀ a, (f a).isSome = p a) (hR : ∀ a b, f a = some b → R a b)
    (items : List α) : List.Forall₂ R (items.filter p) (items.filterMap f) := by
  induction items with
  | nil => exact .nil
  | cons item items ih =>
    cases hitem : f item with
    | none =>
      rw [List.filterMap_cons_none hitem, List.filter_cons_of_neg (by simp [← hp, hitem])]
      exact ih
    | some value =>
      rw [List.filterMap_cons_some hitem, List.filter_cons_of_pos (by simp [← hp, hitem])]
      exact .cons (hR item value hitem) ih

/-- The reduction reads as its ledger does, from every lifecycle and for every event list. -/
theorem reduceOperatorEventsV3_reads (initialLifecycle : SessionLifecycleV2)
    (events : List OperatorEventV3) : ReductionReads initialLifecycle events := by
  constructor
  · intro past event later _ hrejected more _ hid
    have hseen := ReductionStateV3.mem_seenIds_foldl (.init initialLifecycle) past event.eventId
    have hsame : (reduceStateV3 initialLifecycle (past ++ event :: more)).SameEvidence
        (reduceStateV3 initialLifecycle (past ++ more)) := by
      rw [reduceStateV3_append, reduceStateV3_append]
      exact ReductionStateV3.rejected_foldl hrejected (hid.imp_left fun hmem => hseen.2 (.inl hmem))
    exact ⟨hsame.lifecycle, hsame.effectiveEvents⟩
  · intro past event later _ hrejected more _ others
    have hsame : (reduceStateV3 initialLifecycle (past ++ event :: more)).SameEvidence
        (reduceStateV3 initialLifecycle (past ++ others)) := by
      rw [reduceStateV3_append, reduceStateV3_append]
      exact ReductionStateV3.rejected_foldl_others more hrejected
    exact ⟨hsame.lifecycle, hsame.effectiveEvents⟩
  · intro past event later _ hid
    have hseen := (ReductionStateV3.mem_seenIds_foldl (.init initialLifecycle) past
      event.eventId).2 (.inl hid)
    have hstep : (reduceStateV3 initialLifecycle (past ++ [event])).diagnostics =
        ((reduceStateV3 initialLifecycle past).report event none .duplicateEventId
          "event ID is duplicated").diagnostics := by
      rw [reduceStateV3_append, List.foldl_cons, List.foldl_nil]
      exact congrArg (·.diagnostics) (ReductionStateV3.step_duplicate hseen)
    exact hstep
  · have hkeeps := reduceStateV3_keepsLedger initialLifecycle events
    have hvalues := congrArg (fun book => book.values.filterMap id) hkeeps.book
    have heffective : (reduceOperatorEventsV3 initialLifecycle events).effectiveEvents =
        (acceptedEventsV3 initialLifecycle events).filterMap fun event =>
          standingOf (ledgerV3 (acceptedEventsV3 initialLifecycle events)) event.ledgerEntry :=
      hvalues.trans (keep_filterMap hkeeps.orderly)
    rw [heffective]
    exact forall₂_filter_filterMap (standingOf_isSome _) (fun _ _ => standingOf_inEffect) _
  · intro past event later _ haccepts target htarget
    have haccepted := ReductionStateV3.step_accepted
      ((ReductionStateV3.accepts_iff _ _).1 haccepts)
    exact (reduceStateV3_keepsLedger initialLifecycle past).original_of_lookup
      (haccepted.target target htarget)
  · rintro past later rfl hterminal
    have hended : (reduceStateV3 initialLifecycle past).lifecycle.isTerminal = true := hterminal
    have hsame := ReductionStateV3.terminal_foldl hended later
    rw [← reduceStateV3_append] at hsame
    exact ⟨hsame.lifecycle, hsame.effectiveEvents⟩

namespace Scenario

/-- A note without text, and a note that reuses its identity. -/
def reusedIdentity : List OperatorEventV3 :=
  [eventAt "note" (second 5) none (.noteAdded ""),
    eventAt "note" (second 6) none (.noteAdded "rain")]

/-- The empty note is rejected, and the second note is lost to it. -/
theorem reusedIdentity_not_rejectedInert :
    ¬∀ events, RejectedInert .ready events := by
  intro h
  have hinert := h reusedIdentity [] _ _ rfl (by decide) _ (List.prefix_rfl)
  have hlengths := congrArg List.length hinert.2
  exact absurd hlengths (by decide)

end Scenario

end AntennaBench
