import AntennaBench.Core.EffectiveFacts

/-!
# The operator facts of a projected bundle

A v3 bundle is projected event by event and the result reduced again by the rules of v2,
so its facts are those of the v3 reduction exactly when no signal-state confirmation
stands where the projection lost a correction.
-/

namespace AntennaBench

open Timeline

variable {events : List OperatorEventV3}

def OperatorEvent.isFact (event : OperatorEvent) : Bool :=
  match event.eventType with
  | .switched | .missedSlot | .badSlot | .noteAdded => true
  | .sessionStarted | .sessionEnded => false

/-- The Switched, MissedSlot, BadSlot and NoteAdded facts of a bundle. -/
def BundleContents.operatorFacts (bundle : BundleContents) : List OperatorEvent :=
  bundle.events.filter (·.isFact)

/-- An armed cycle is the fact that its antenna was in use from the action on. -/
def OperatorEventV3.armedFact? (event : OperatorEventV3) : Option OperatorEvent :=
  match event.payload with
  | .wsprCycleArmed antennaLabel _ _ =>
    some (operatorFact event.recordMeta.sessionId event.eventId event.occurredAt event.slotId
      .switched (some armedCycleNote) (some antennaLabel))
  | _ => none

/-- The fact an effective event states, with its own slot, time and label. -/
def EffectiveOperatorEventV3.fact? (event : EffectiveOperatorEventV3) : Option OperatorEvent :=
  let fact := operatorFact event.sessionId event.sourceEventId event.occurredAt event.slotId
  match event.payload with
  | .antennaStateConfirmed antennaLabel note => some (fact .switched note (some antennaLabel))
  | .signalStateConfirmed _ => none
  | .slotMissed reason => some (fact .missedSlot reason none)
  | .slotBad reason => some (fact .badSlot (nonemptyText reason) none)
  | .noteAdded note => some (fact .noteAdded (nonemptyText note) none)

/-- The facts the v3 events state: the armed cycles and the effective events. -/
def operatorFactsV3 (events : List OperatorEventV3) : List OperatorEvent :=
  events.filterMap OperatorEventV3.armedFact? ++
    (reduceOperatorEventsV3 .ready events).effectiveEvents.filterMap
      EffectiveOperatorEventV3.fact?

/-- The fact an event states in the v3 view. -/
def statedFact? (events : List OperatorEventV3) (event : OperatorEventV3) :
    Option OperatorEvent :=
  event.armedFact? <|>
    (standingOf (ledgerV3 events) event.ledgerEntry).bind EffectiveOperatorEventV3.fact?

/-- The fact an event states in the projection. -/
def projectedFact? (events : List OperatorEventV3) (event : OperatorEventV3) :
    Option OperatorEvent :=
  (standingOf (projectedLedger events) event.projectedLedgerEntry).map
    EffectiveOperatorEventV2.projectLegacy

theorem filterMap_orElse_perm {α β : Type} {f g : α → Option β} {l : List α}
    (h : ∀ a ∈ l, f a = none ∨ g a = none) :
    (l.filterMap fun a => f a <|> g a).Perm (l.filterMap f ++ l.filterMap g) := by
  induction l with
  | nil => exact List.Perm.nil
  | cons a l ih =>
    have hrest := ih fun b hb => h b (List.mem_cons_of_mem _ hb)
    rcases h a List.mem_cons_self with hf | hg
    · cases hg : g a with
      | none => simpa [List.filterMap_cons, hf, hg] using hrest
      | some b =>
        have hhead : (f a <|> g a) = some b := by simp [hf, hg]
        rw [List.filterMap_cons_some (f := fun a => f a <|> g a) hhead,
          List.filterMap_cons_none hf,
          List.filterMap_cons_some hg]
        exact (hrest.cons b).trans List.perm_middle.symm
    · cases hf : f a <;> simpa [List.filterMap_cons, hf, hg] using hrest

theorem operatorFactsV3_perm (h : (reduceOperatorEventsV3 .ready events).diagnostics = []) :
    (events.filterMap (statedFact? events)).Perm (operatorFactsV3 events) := by
  unfold operatorFactsV3
  rw [reduceOperatorEventsV3_effective h, List.filterMap_filterMap]
  apply filterMap_orElse_perm
  intro event _
  cases hpayload : event.payload with
  | wsprCycleArmed antennaLabel cycleStartsAt readiness =>
    right
    rw [(OperatorEventV3.ledgerEntry_eq_none (.inr (by rw [hpayload]; rfl))).1]
    rfl
  | _ =>
    left
    simp [OperatorEventV3.armedFact?, hpayload]

theorem projectLegacy_isFact (effective : EffectiveOperatorEventV2) :
    effective.projectLegacy.isFact = true := by
  unfold EffectiveOperatorEventV2.projectLegacy
  cases effective.payload <;> rfl

theorem projectLegacyLifecycle_isFact {event : OperatorEventV2} {legacy : OperatorEvent}
    (h : event.projectLegacyLifecycle = some legacy) : legacy.isFact = false := by
  unfold OperatorEventV2.projectLegacyLifecycle at h
  cases hpayload : event.payload <;> rw [hpayload] at h <;>
    simp only [Option.some.injEq, reduceCtorEq] at h <;> subst h <;> rfl

theorem ledgerEntry_of_projectLegacyLifecycle {event : OperatorEventV2} {legacy : OperatorEvent}
    (h : event.projectLegacyLifecycle = some legacy) : event.ledgerEntry = none := by
  unfold OperatorEventV2.projectLegacyLifecycle at h
  unfold OperatorEventV2.ledgerEntry
  cases hpayload : event.payload <;> rw [hpayload] at h <;>
    simp [OperatorEventPayloadV2.correctable?] at h ⊢

theorem intoCurrent_operatorFacts (bundle : BundleV3Contents)
    (h : (reduceOperatorEventsV3 .ready bundle.events).diagnostics = []) :
    bundle.intoCurrent.bundle.operatorFacts =
      bundle.events.filterMap (projectedFact? bundle.events) := by
  have hlegacy := projected_legacyEvents h bundle.projectToV2 rfl
  change (bundle.projectToV2.legacyEvents).filter _ = _
  rw [hlegacy, List.filter_filterMap]
  apply List.filterMap_congr
  intro event _
  unfold projectedFact?
  cases hprojected : projectV3EventToV2 event with
  | none =>
    have hentry : event.projectedLedgerEntry = none := by
      rw [OperatorEventV3.projectedLedgerEntry, hprojected]
      rfl
    rw [hentry]
    rfl
  | some projected =>
    rw [Option.bind_some]
    cases hlifecycle : projected.projectLegacyLifecycle with
    | some legacy =>
      have hentry : event.projectedLedgerEntry = none := by
        rw [OperatorEventV3.projectedLedgerEntry, hprojected]
        exact ledgerEntry_of_projectLegacyLifecycle hlifecycle
      rw [hentry]
      simp [standingOf, Option.filter, projectLegacyLifecycle_isFact hlifecycle]
    | none =>
      cases standingOf (projectedLedger bundle.events) event.projectedLedgerEntry with
      | none => rfl
      | some x => simp [Option.filter, projectLegacy_isFact]

def EventCorrectionActionV3.confirmsSignal : EventCorrectionActionV3 → Bool
  | .replace ⟨_, _, _, _, .signalStateConfirmed _⟩ => true
  | _ => false

/-- The corrections of an event, each with the event that made it. -/
def corrections (events : List OperatorEventV3) (eventId : String) :
    List (OperatorEventV3 × EventCorrectionActionV3) :=
  events.filterMap fun event =>
    match event.payload with
    | .eventCorrected targetEventId correction _ =>
      if targetEventId = eventId then some (event, correction) else none
    | _ => none

/-- The corrections of an event that survive the projection. -/
def projectedCorrections (events : List OperatorEventV3) (eventId : String) :
    List (OperatorEventV3 × EventCorrectionActionV3) :=
  (corrections events eventId).filter fun entry => !entry.2.confirmsSignal

/-- A signal-state confirmation is last replaced, if at all, by another one. -/
def SignalStays (events : List OperatorEventV3) (eventId : String) : Prop :=
  ∀ last ∈ (corrections events eventId).getLast?,
    last.2 = .retract ∨ last.2.confirmsSignal = true

/-- A fact that ends as a signal-state confirmation was last retracted before. -/
def RetractedFirst (events : List OperatorEventV3) (eventId : String) : Prop :=
  (∃ last ∈ (corrections events eventId).getLast?, last.2.confirmsSignal = true) →
    ∃ last ∈ (projectedCorrections events eventId).getLast?, last.2 = .retract

/-- No correction that turns a fact into a signal-state confirmation, or a
confirmation into a fact, is lost with its effect. -/
def SignalCorrectionsProject (events : List OperatorEventV3) : Prop :=
  ∀ event ∈ events, ∀ payload ∈ event.payload.correctable?,
    match payload with
    | .signalStateConfirmed _ => SignalStays events event.eventId
    | _ => RetractedFirst events event.eventId

/-- The fact a correction leaves. -/
def correctedFact (eventId : String) (entry : OperatorEventV3 × EventCorrectionActionV3) :
    Option OperatorEvent :=
  (entry.1.settle eventId entry.2).bind EffectiveOperatorEventV3.fact?

theorem correctedFact_eq_none {eventId : String}
    {entry : OperatorEventV3 × EventCorrectionActionV3} :
    correctedFact eventId entry = none ↔ entry.2 = .retract ∨ entry.2.confirmsSignal = true := by
  obtain ⟨event, correction⟩ := entry
  cases correction with
  | retract => simp [correctedFact, OperatorEventV3.settle]
  | replace replacement =>
    obtain ⟨occurredAt, timeBasis, uncertaintySeconds, slotId, payload⟩ := replacement
    cases payload <;>
      simp [correctedFact, OperatorEventV3.settle, EventCorrectionActionV3.confirmsSignal,
        EffectiveOperatorEventV3.fact?, ReductionStateV3.effectiveFromReplacement]

/-- The amendments of an original are what its corrections leave. -/
theorem amendments_ledgerV3 (events : List OperatorEventV3) (eventId : String) :
    amendments (ledgerV3 events) eventId =
      (corrections events eventId).map fun entry => entry.1.settle eventId entry.2 := by
  unfold amendments ledgerV3 corrections
  rw [List.filterMap_filterMap, List.map_filterMap]
  apply List.filterMap_congr
  intro event _
  unfold OperatorEventV3.ledgerEntry
  cases hpayload : event.payload with
  | eventCorrected targetEventId correction reason =>
    by_cases htarget : targetEventId = eventId
    · simp [LedgerEntry.amendmentOf?, htarget]
    · simp [LedgerEntry.amendmentOf?, htarget]
  | _ => simp [OperatorEventPayloadV3.correctable?, LedgerEntry.amendmentOf?]

theorem amendments_ledgerV3_fact? (events : List OperatorEventV3) (eventId : String) :
    (amendments (ledgerV3 events) eventId).map (·.bind EffectiveOperatorEventV3.fact?) =
      (corrections events eventId).map (correctedFact eventId) := by
  rw [amendments_ledgerV3, List.map_map]
  rfl

theorem amendments_projectedLedger (events : List OperatorEventV3) (eventId : String) :
    (amendments (projectedLedger events) eventId).map
        (·.map EffectiveOperatorEventV2.projectLegacy) =
      (projectedCorrections events eventId).map (correctedFact eventId) := by
  unfold amendments projectedLedger projectedCorrections corrections
  rw [List.filter_filterMap, List.filterMap_filterMap, List.map_filterMap, List.map_filterMap]
  apply List.filterMap_congr
  intro event _
  unfold OperatorEventV3.projectedLedgerEntry projectV3EventToV2 OperatorEventV2.ledgerEntry
  cases hpayload : event.payload with
  | eventCorrected targetEventId correction reason =>
    cases correction with
    | retract =>
      by_cases htarget : targetEventId = eventId <;>
        simp [projectV3PayloadToV2, projectV3CorrectionToV2, LedgerEntry.amendmentOf?, htarget,
          OperatorEventV2.settle, OperatorEventV3.settle, correctedFact, Option.filter,
          EventCorrectionActionV3.confirmsSignal]
    | replace replacement =>
      obtain ⟨occurredAt, timeBasis, uncertaintySeconds, slotId, payload⟩ := replacement
      by_cases htarget : targetEventId = eventId <;> cases payload <;>
        simp [projectV3PayloadToV2, projectV3CorrectionToV2, projectV3CorrectableToV2,
          LedgerEntry.amendmentOf?, htarget, OperatorEventV2.settle, OperatorEventV3.settle,
          correctedFact, Option.filter, EventCorrectionActionV3.confirmsSignal,
          EffectiveOperatorEventV3.fact?, EffectiveOperatorEventV2.projectLegacy,
          ReductionStateV3.effectiveFromReplacement, ReductionStateV2.effectiveFromReplacement,
          projectV3MetaToV2]
  | _ =>
    simp [projectV3PayloadToV2, OperatorEventPayloadV2.correctable?, LedgerEntry.amendmentOf?]

/-- A view of what stands is the view of the last amendment, else of the value. -/
theorem map_standing {α β : Type} (g : Option α → β) (ledger : List (LedgerEntry String α))
    (k : String) (value : α) :
    g (standing ledger k value) =
      ((amendments ledger k).map g).getLast?.getD (g (some value)) := by
  rw [standing, List.getLast?_map]
  cases (amendments ledger k).getLast? <;> rfl

/-- The fact an original states itself. -/
def originalFact (event : OperatorEventV3) (payload : CorrectableOperatorEventPayloadV3) :
    Option OperatorEvent :=
  (ReductionStateV3.effectiveOriginal event payload).fact?

theorem statedFact?_original {event : OperatorEventV3} {payload : CorrectableOperatorEventPayloadV3}
    (h : event.payload.correctable? = some payload) :
    statedFact? events event =
      ((corrections events event.eventId).map (correctedFact event.eventId)).getLast?.getD
        (originalFact event payload) := by
  have harmed : event.armedFact? = none := by
    unfold OperatorEventV3.armedFact?
    cases hpayload : event.payload with
    | wsprCycleArmed antennaLabel cycleStartsAt readiness =>
      rw [hpayload] at h
      cases h
    | _ => rfl
  unfold statedFact?
  rw [harmed, (OperatorEventV3.ledgerEntry_eq_original h).1, ← amendments_ledgerV3_fact?]
  exact map_standing (·.bind EffectiveOperatorEventV3.fact?) _ _ _

/-- What a projected original enters in the v2 ledger. -/
def projectedOriginal (event : OperatorEventV3) (payload : CorrectableOperatorEventPayloadV2) :
    EffectiveOperatorEventV2 where
  sessionId := event.recordMeta.sessionId
  sourceEventId := event.eventId
  effectiveThroughEventId := event.eventId
  recordedAt := event.recordMeta.recordedAt
  occurredAt := event.occurredAt
  timeBasis := event.timeBasis
  uncertaintySeconds := event.uncertaintySeconds
  slotId := event.slotId
  payload := payload

theorem projectedLedgerEntry_original {event : OperatorEventV3}
    {payload : CorrectableOperatorEventPayloadV3} {projected : CorrectableOperatorEventPayloadV2}
    (h : event.payload.correctable? = some payload)
    (hprojected : projectV3CorrectableToV2 payload = some projected) :
    event.projectedLedgerEntry =
      some (.original event.eventId (projectedOriginal event projected)) := by
  unfold OperatorEventV3.projectedLedgerEntry projectV3EventToV2
  cases hpayload : event.payload <;> rw [hpayload] at h <;>
    simp only [OperatorEventPayloadV3.correctable?, Option.some.injEq, reduceCtorEq] at h <;>
    subst h <;> simp only [projectV3CorrectableToV2, Option.some.injEq, reduceCtorEq]
      at hprojected <;>
    subst hprojected <;> rfl

theorem projectLegacy_projectedOriginal {event : OperatorEventV3}
    {payload : CorrectableOperatorEventPayloadV3} {fact : OperatorEvent}
    (h : originalFact event payload = some fact) :
    ∃ projected, projectV3CorrectableToV2 payload = some projected ∧
      (projectedOriginal event projected).projectLegacy = fact := by
  cases payload with
  | signalStateConfirmed confirmation => cases h
  | _ => exact ⟨_, rfl, Option.some.inj h⟩

theorem projectedFact?_original {event : OperatorEventV3}
    {payload : CorrectableOperatorEventPayloadV3} {fact : OperatorEvent}
    (h : event.payload.correctable? = some payload)
    (hfact : originalFact event payload = some fact) :
    projectedFact? events event =
      ((projectedCorrections events event.eventId).map
        (correctedFact event.eventId)).getLast?.getD (some fact) := by
  unfold projectedFact?
  rw [← amendments_projectedLedger]
  obtain ⟨projected, hprojected, hlegacy⟩ := projectLegacy_projectedOriginal hfact
  rw [projectedLedgerEntry_original h hprojected, ← hlegacy]
  exact map_standing (·.map EffectiveOperatorEventV2.projectLegacy) _ _ _

theorem projectedFact?_signal {event : OperatorEventV3} {confirmation : SignalStateConfirmationV3}
    (h : event.payload = .signalStateConfirmed confirmation) :
      projectedFact? events event = none := by
  have hentry : event.projectedLedgerEntry = none := by
    simp [OperatorEventV3.projectedLedgerEntry, projectV3EventToV2, h, projectV3PayloadToV2]
  rw [projectedFact?, hentry]
  rfl

theorem retractedFirst_iff {eventId : String} {fact : OperatorEvent} :
    ((corrections events eventId).map (correctedFact eventId)).getLast?.getD (some fact) =
        ((projectedCorrections events eventId).map (correctedFact eventId)).getLast?.getD
          (some fact) ↔
      RetractedFirst events eventId := by
  unfold RetractedFirst projectedCorrections
  rcases List.eq_nil_or_concat (corrections events eventId) with hnil | ⟨init, last, hconcat⟩
  · simp [hnil]
  · rw [hconcat, List.concat_eq_append, List.map_append, List.map_singleton, List.getLast?_concat,
      List.getLast?_concat, List.getLast?_map]
    have hnone : correctedFact eventId last = none ↔ _ := correctedFact_eq_none
    by_cases hsignal : last.2.confirmsSignal = true
    · rw [List.filter_append, List.filter_cons_of_neg (by simpa using hsignal), List.filter_nil,
        List.append_nil, hnone.2 (.inr hsignal), Option.getD_some]
      cases hlast : (init.filter fun entry => !entry.2.confirmsSignal).getLast? with
      | none => simp [hsignal]
      | some before =>
        have hbefore := List.mem_filter.1 (List.mem_of_getLast? hlast)
        have hsurvives : before.2.confirmsSignal = false := by simpa using hbefore.2
        have hnone' : correctedFact eventId before = none ↔ _ := correctedFact_eq_none
        simp only [Option.map_some, Option.getD_some, Option.mem_def, Option.some.injEq,
          exists_eq_left', hsignal, true_implies, eq_comm (a := (none : Option OperatorEvent)),
          hnone', hsurvives, Bool.false_eq_true, or_false]
    · rw [List.filter_append, List.filter_cons_of_pos (by simpa using hsignal), List.filter_nil,
        List.getLast?_concat]
      simp [hsignal]

theorem projectedFact?_eventId {event : OperatorEventV3} {fact : OperatorEvent}
    (h : projectedFact? events event = some fact) : fact.eventId = event.eventId := by
  obtain ⟨x, hx, rfl⟩ := Option.map_eq_some_iff.1 h
  exact (projectLegacy_eventId x).trans (projectedLedger_source hx)

theorem fact?_eventId {effective : EffectiveOperatorEventV3} {fact : OperatorEvent}
    (h : effective.fact? = some fact) : fact.eventId = effective.sourceEventId := by
  unfold EffectiveOperatorEventV3.fact? at h
  cases hpayload : effective.payload <;> rw [hpayload] at h <;> cases h <;> rfl

theorem statedFact?_eventId {event : OperatorEventV3} {fact : OperatorEvent}
    (h : statedFact? events event = some fact) : fact.eventId = event.eventId := by
  unfold statedFact? at h
  cases harmed : event.armedFact? with
  | some armed =>
    rw [harmed] at h
    obtain rfl := Option.some.inj h
    unfold OperatorEventV3.armedFact? at harmed
    cases hpayload : event.payload <;> rw [hpayload] at harmed <;> cases harmed
    rfl
  | none =>
    rw [harmed] at h
    obtain ⟨x, hx, hfact⟩ := Option.bind_eq_some_iff.1 h
    exact (fact?_eventId hfact).trans (ledgerV3_source hx)

theorem filterMap_perm_iff {α β κ : Type} {f g : α → Option β} {key : α → κ} {keyOf : β → κ}
    {l : List α} (hf : ∀ a b, f a = some b → keyOf b = key a)
    (hg : ∀ a b, g a = some b → keyOf b = key a) (hnodup : (l.map key).Nodup) :
    (l.filterMap f).Perm (l.filterMap g) ↔ ∀ a ∈ l, f a = g a := by
  constructor
  · intro h a ha
    refine Option.ext fun b => ⟨fun hb => ?_, fun hb => ?_⟩
    · obtain ⟨c, hc, hcb⟩ := List.mem_filterMap.1 (h.subset (List.mem_filterMap.2 ⟨a, ha, hb⟩))
      have heq : c = a :=
        List.inj_on_of_nodup_map hnodup hc ha ((hg c b hcb).symm.trans (hf a b hb))
      exact heq ▸ hcb
    · obtain ⟨c, hc, hcb⟩ :=
        List.mem_filterMap.1 (h.symm.subset (List.mem_filterMap.2 ⟨a, ha, hb⟩))
      have heq : c = a :=
        List.inj_on_of_nodup_map hnodup hc ha ((hf c b hcb).symm.trans (hg a b hb))
      exact heq ▸ hcb
  · intro h
    rw [List.filterMap_congr h]

/-- An armed event is never corrected, and states its fact in both views. -/
theorem projectedFact?_uncorrectable
    (h : (reduceOperatorEventsV3 .ready events).diagnostics = []) {event : OperatorEventV3}
    (hevent : event ∈ events) (hcorrectable : event.payload.correctable? = none) :
    projectedFact? events event = statedFact? events event := by
  have htargets : ∀ later ∈ events, ∀ target ∈ later.target?, ∃ original ∈ events,
      original.payload.correctable?.isSome = true ∧ target = original.eventId :=
    ReductionStateV3.run_targets (by simp [ReductionStateV3.init])
      (fun original hmem hsome => ⟨original, hmem, hsome, rfl⟩) h
  have hnone : corrections events event.eventId = [] := by
    refine List.filterMap_eq_nil_iff.2 fun later hlater => ?_
    cases hpayload : later.payload with
    | eventCorrected targetEventId correction reason =>
      have htarget := htargets later hlater targetEventId
        (by simp [OperatorEventV3.target?, hpayload])
      obtain ⟨original, hmem, hsome, rfl⟩ := htarget
      dsimp only
      rw [if_neg]
      intro heq
      have hsame : original = event :=
        List.inj_on_of_nodup_map (committed_of_reduce h).nodup hmem hevent heq
      rw [hsame, hcorrectable] at hsome
      cases hsome
    | _ => rfl
  cases hpayload : event.payload with
  | wsprCycleArmed antennaLabel cycleStartsAt readiness =>
    have hentry : event.projectedLedgerEntry = some (.original event.eventId
        (projectedOriginal event (.antennaStateConfirmed antennaLabel armedCycleNote))) := by
      simp only [OperatorEventV3.projectedLedgerEntry, projectV3EventToV2, hpayload,
        projectV3PayloadToV2]
      rfl
    have hstanding := map_standing (·.map EffectiveOperatorEventV2.projectLegacy)
      (projectedLedger events) event.eventId
      (projectedOriginal event (.antennaStateConfirmed antennaLabel armedCycleNote))
    rw [amendments_projectedLedger, projectedCorrections, hnone] at hstanding
    rw [projectedFact?, statedFact?, OperatorEventV3.armedFact?, hpayload, hentry]
    exact hstanding
  | eventCorrected targetEventId correction reason =>
    have hprojected : standingOf (projectedLedger events) event.projectedLedgerEntry = none := by
      unfold OperatorEventV3.projectedLedgerEntry projectV3EventToV2
      cases hcorrection : projectV3CorrectionToV2 correction <;>
        simp [hpayload, projectV3PayloadToV2, hcorrection, OperatorEventV2.ledgerEntry, standingOf,
          LedgerEntry.original?]
    rw [projectedFact?, statedFact?, OperatorEventV3.armedFact?, hpayload, hprojected,
      OperatorEventV3.ledgerEntry, hpayload]
    rfl
  | _ =>
    simp [hpayload, OperatorEventPayloadV3.correctable?] at hcorrectable <;>
    simp [projectedFact?, statedFact?, OperatorEventV3.armedFact?, OperatorEventV3.ledgerEntry,
      OperatorEventV3.projectedLedgerEntry, projectV3EventToV2, projectV3PayloadToV2,
      OperatorEventV2.ledgerEntry, hpayload, standingOf, OperatorEventPayloadV3.correctable?,
      OperatorEventPayloadV2.correctable?]

/-- An event states the same fact in the projection exactly when its corrections do. -/
theorem projectedFact?_eq_iff (h : (reduceOperatorEventsV3 .ready events).diagnostics = [])
    {event : OperatorEventV3} (hevent : event ∈ events) :
    projectedFact? events event = statedFact? events event ↔
      ∀ payload ∈ event.payload.correctable?,
        match payload with
        | .signalStateConfirmed _ => SignalStays events event.eventId
        | _ => RetractedFirst events event.eventId := by
  cases hcorrectable : event.payload.correctable? with
  | none => simpa using projectedFact?_uncorrectable h hevent hcorrectable
  | some payload =>
    rw [statedFact?_original hcorrectable]
    simp only [Option.mem_def, Option.some.injEq, forall_eq']
    cases payload with
    | signalStateConfirmed confirmation =>
      have hpayload : event.payload = .signalStateConfirmed confirmation := by
        cases hpayload : event.payload <;> rw [hpayload] at hcorrectable <;> cases hcorrectable
        rfl
      rw [projectedFact?_signal hpayload, List.getLast?_map]
      unfold SignalStays
      cases (corrections events event.eventId).getLast? with
      | none => simp [originalFact, EffectiveOperatorEventV3.fact?,
          ReductionStateV3.effectiveOriginal]
      | some last =>
        simpa [eq_comm (a := (none : Option OperatorEvent))] using correctedFact_eq_none
    | _ =>
      rw [projectedFact?_original hcorrectable rfl]
      exact eq_comm.trans retractedFirst_iff

theorem operatorFacts_perm_iff (bundle : BundleV3Contents)
    (h : (reduceOperatorEventsV3 .ready bundle.events).diagnostics = []) :
    bundle.intoCurrent.bundle.operatorFacts.Perm (operatorFactsV3 bundle.events) ↔
      SignalCorrectionsProject bundle.events := by
  rw [intoCurrent_operatorFacts bundle h, ← (operatorFactsV3_perm h).congr_right,
    filterMap_perm_iff (fun _ _ => projectedFact?_eventId) (fun _ _ => statedFact?_eventId)
      (committed_of_reduce h).nodup]
  exact forall₂_congr fun event hevent => projectedFact?_eq_iff h hevent

end AntennaBench
