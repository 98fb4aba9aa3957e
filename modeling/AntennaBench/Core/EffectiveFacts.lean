import AntennaBench.Core.EventLedgers

/-!
# What stands in the ledgers

A clean run enters orderly ledgers, so the effective events of both reductions are what
stands of each original, in committed order.
-/

namespace AntennaBench

open Timeline

/-- The entry is an original of the event, or an amendment of its correction target. -/
structure EntryOf {α : Type} (event : OperatorEventV3) (entry : LedgerEntry String α) : Prop where
  original : entry.original?.isSome = true → entry.key = event.eventId
  key : entry.key = event.eventId ∨ event.target? = some entry.key

theorem EntryOf.of_original {α : Type} {event : OperatorEventV3} {value : α} :
    EntryOf event (.original event.eventId value) :=
  ⟨fun _ => rfl, .inl rfl⟩

theorem EntryOf.of_amendment {α : Type} {event : OperatorEventV3} {target : String}
    {settled : Option α} (h : event.target? = some target) :
    EntryOf event (.amendment target settled) where
  original := by simp [LedgerEntry.original?]
  key := .inr h

theorem OperatorEventV3.ledgerEntry_entryOf {event : OperatorEventV3}
    {entry : LedgerEntry String EffectiveOperatorEventV3} (h : event.ledgerEntry = some entry) :
    EntryOf event entry := by
  unfold ledgerEntry at h
  cases hpayload : event.payload <;> rw [hpayload] at h <;>
    simp only [OperatorEventPayloadV3.correctable?, Option.map_none, Option.map_some,
      Option.some.injEq, reduceCtorEq] at h <;> subst h <;>
    first
    | exact .of_original
    | exact .of_amendment (by simp [OperatorEventV3.target?, hpayload])

theorem OperatorEventV3.projectedLedgerEntry_entryOf {event : OperatorEventV3}
    {entry : LedgerEntry String EffectiveOperatorEventV2}
    (h : event.projectedLedgerEntry = some entry) :
    EntryOf event entry := by
  simp only [projectedLedgerEntry, projectV3EventToV2, Option.bind_eq_bind, Option.pure_def,
    Option.bind_eq_some_iff, Option.some.injEq] at h
  obtain ⟨_, ⟨payload, hprojected, rfl⟩, h⟩ := h
  unfold OperatorEventV2.ledgerEntry at h
  cases hpayload : event.payload <;> rw [hpayload] at hprojected <;>
    simp only [projectV3PayloadToV2, Option.bind_eq_bind, Option.pure_def, Option.bind_eq_some_iff,
      Option.some.injEq, reduceCtorEq] at hprojected <;>
    first
    | subst hprojected
      simp [OperatorEventPayloadV2.correctable?] at h
      subst h
      exact .of_original
    | subst hprojected
      simp [OperatorEventPayloadV2.correctable?] at h
    | obtain ⟨correction, -, rfl⟩ := hprojected
      simp only [Option.some.injEq] at h
      subst h
      exact .of_amendment (by simp [OperatorEventV3.target?, hpayload])

/-- Identities are unique, and a correction comes after the event it corrects. -/
def Committed (events : List OperatorEventV3) : Prop :=
  events.Pairwise fun a b => a.eventId ≠ b.eventId ∧ a.target? ≠ some b.eventId

theorem Committed.orderly {α : Type} {f : OperatorEventV3 → Option (LedgerEntry String α)}
    {events : List OperatorEventV3} (h : Committed events)
    (hf : ∀ event entry, f event = some entry → EntryOf event entry) :
    Orderly (events.filterMap f) := by
  refine List.Pairwise.filterMap f ?_ h
  intro a b hab entry hentry later hlater horiginal
  rw [(hf b later hlater).original horiginal]
  rcases (hf a entry hentry).key with hkey | htarget
  · exact hkey ▸ hab.1
  · intro heq
    exact hab.2 (heq ▸ htarget)

theorem Book.lookup_enter {α : Type} {book : Book String α} {entry : LedgerEntry String α}
    {k : String} (h : ((book.enter entry).index.lookup k).isSome = true) :
    (book.index.lookup k).isSome = true ∨ (entry.original?.isSome = true ∧ entry.key = k) := by
  cases entry with
  | original key value =>
    by_cases hk : k = key
    · exact .inr ⟨rfl, hk.symm⟩
    · rw [Book.enter, List.lookup_cons, show (k == key) = false by simpa using hk] at h
      exact .inl h
  | amendment key value =>
    refine .inl ?_
    unfold Book.enter at h
    cases hlookup : book.index.lookup key <;> simpa [hlookup] using h

theorem AcceptedV3.originals {state next : ReductionStateV3} {event : OperatorEventV3} {k : String}
    (haccepted : AcceptedV3 state event next) (h : (next.originals.lookup k).isSome = true) :
    (state.originals.lookup k).isSome = true ∨
      (event.payload.correctable?.isSome = true ∧ k = event.eventId) := by
  change (next.book.index.lookup k).isSome = true at h
  rw [haccepted.book] at h
  cases hentry : event.ledgerEntry with
  | none =>
    rw [hentry] at h
    exact .inl h
  | some entry =>
    rw [hentry] at h
    refine (Book.lookup_enter h).imp id fun ⟨horiginal, hkey⟩ => ⟨?_, ?_⟩
    · unfold OperatorEventV3.ledgerEntry at hentry
      cases hpayload : event.payload with
      | eventCorrected targetEventId correction reason =>
        rw [hpayload] at hentry
        obtain rfl := Option.some.inj hentry
        cases horiginal
      | _ =>
        rw [hpayload] at hentry
        obtain ⟨payload, hsome, -⟩ := Option.map_eq_some_iff.1 hentry
        exact Option.isSome_of_eq_some hsome
    · exact hkey.symm.trans ((OperatorEventV3.ledgerEntry_entryOf hentry).original horiginal)

namespace ReductionStateV3

/-- Every correction of a clean run corrects a correctable event of the run. -/
theorem run_targets {events : List OperatorEventV3} {state : ReductionStateV3}
    {P : String → Prop} (hstate : ∀ k, (state.originals.lookup k).isSome = true → P k)
    (hevents : ∀ event ∈ events, event.payload.correctable?.isSome = true → P event.eventId)
    (h : (events.foldl step state).diagnostics = []) :
    ∀ event ∈ events, ∀ target ∈ event.target?, P target := by
  induction events generalizing state with
  | nil => simp
  | cons event rest ih =>
    have haccepted := accepted_of_foldl h
    have hnext : ∀ k, ((state.step event).originals.lookup k).isSome = true → P k := by
      intro k hk
      rcases haccepted.originals hk with hold | ⟨hcorrectable, rfl⟩
      · exact hstate k hold
      · exact hevents event List.mem_cons_self hcorrectable
    have hrest := ih hnext (fun later hmem => hevents later (List.mem_cons_of_mem _ hmem)) h
    intro later hmem target htarget
    rcases List.mem_cons.1 hmem with rfl | hmem
    · exact hstate target (haccepted.target target htarget)
    · exact hrest later hmem target htarget

theorem run_committed {events : List OperatorEventV3} {state : ReductionStateV3}
    (hseen : ∀ k, (state.originals.lookup k).isSome = true → k ∈ state.seenIds)
    (h : (events.foldl step state).diagnostics = []) :
    (∀ event ∈ events, event.eventId ∉ state.seenIds) ∧ Committed events := by
  induction events generalizing state with
  | nil => exact ⟨by simp, List.Pairwise.nil⟩
  | cons event rest ih =>
    have haccepted := accepted_of_foldl h
    have hnext : ∀ k, ((state.step event).originals.lookup k).isSome = true →
        k ∈ (state.step event).seenIds := by
      intro k hk
      rw [haccepted.seen]
      rcases haccepted.originals hk with hold | ⟨-, rfl⟩
      · exact List.mem_cons_of_mem _ (hseen k hold)
      · exact List.mem_cons_self
    obtain ⟨hfresh, hcommitted⟩ := ih hnext h
    rw [haccepted.seen] at hfresh
    have hlater : ∀ later ∈ rest, later.eventId ≠ event.eventId ∧
        later.eventId ∉ state.seenIds := by
      intro later hmem
      simpa [not_or] using hfresh later hmem
    refine ⟨fun later hmem => ?_, List.pairwise_cons.2 ⟨fun later hmem => ⟨?_, ?_⟩, hcommitted⟩⟩
    · rcases List.mem_cons.1 hmem with rfl | hmem
      · exact haccepted.fresh
      · exact (hlater later hmem).2
    · exact (hlater later hmem).1.symm
    · intro htarget
      exact (hlater later hmem).2 (hseen _ (haccepted.target _ htarget))

end ReductionStateV3

/-- What stands of the event in a ledger, when it is an original of it. -/
def standingOf {α : Type} (ledger : List (LedgerEntry String α))
    (found : Option (LedgerEntry String α)) : Option α :=
  found.bind fun entry => entry.original?.bind fun o => standing ledger o.1 o.2

theorem keep_filterMap {α β : Type} {f : β → Option (LedgerEntry String α)} {events : List β}
    (h : Orderly (events.filterMap f)) :
    (keep (events.filterMap f)).values.filterMap id =
      events.filterMap fun event => standingOf (events.filterMap f) (f event) := by
  rw [keep_values h, originals, List.filterMap_filterMap, List.filterMap_filterMap]
  rfl

theorem standingOf_uncorrectable {ledger : List (LedgerEntry String EffectiveOperatorEventV3)}
    {event : OperatorEventV3} (h : event.payload.correctable? = none) :
    standingOf ledger event.ledgerEntry = none := by
  unfold OperatorEventV3.ledgerEntry
  cases hpayload : event.payload <;> rw [hpayload] at h <;>
    simp_all [OperatorEventPayloadV3.correctable?, standingOf, LedgerEntry.original?]

/-- The ledger of the v3 reduction. -/
def ledgerV3 (events : List OperatorEventV3) : List (LedgerEntry String EffectiveOperatorEventV3) :=
  events.filterMap OperatorEventV3.ledgerEntry

/-- The ledger of the v2 reduction of the projected events. -/
def projectedLedger (events : List OperatorEventV3) :
    List (LedgerEntry String EffectiveOperatorEventV2) :=
  events.filterMap OperatorEventV3.projectedLedgerEntry

theorem follows_init (lifecycle : SessionLifecycleV2) :
    Follows (.init lifecycle) (.init lifecycle) :=
  ⟨rfl, fun _ h => h⟩

variable {events : List OperatorEventV3}

theorem committed_of_reduce (h : (reduceOperatorEventsV3 .ready events).diagnostics = []) :
    Committed events :=
  (ReductionStateV3.run_committed (by simp [ReductionStateV3.init]) h).2

theorem reduceOperatorEventsV3_effective
    (h : (reduceOperatorEventsV3 .ready events).diagnostics = []) :
    (reduceOperatorEventsV3 .ready events).effectiveEvents =
      events.filterMap fun event => standingOf (ledgerV3 events) event.ledgerEntry := by
  have hbook := (ReductionStateV3.run_follows (follows_init .ready) h).1
  have horderly := (committed_of_reduce h).orderly fun _ _ => OperatorEventV3.ledgerEntry_entryOf
  have hvalues := congrArg (fun book => book.values.filterMap id) hbook
  exact hvalues.trans (keep_filterMap horderly)

theorem reduceOperatorEventsV2_effective
    (h : (reduceOperatorEventsV3 .ready events).diagnostics = []) :
    (reduceOperatorEventsV2 .ready (events.filterMap projectV3EventToV2)).effectiveEvents =
      events.filterMap fun event =>
        standingOf (projectedLedger events) event.projectedLedgerEntry := by
  have hbook := (ReductionStateV3.run_follows (follows_init .ready) h).2
  have horderly :=
    (committed_of_reduce h).orderly fun _ _ => OperatorEventV3.projectedLedgerEntry_entryOf
  have hvalues := congrArg (fun book => book.values.filterMap id) hbook
  exact hvalues.trans (keep_filterMap horderly)

theorem lookup_filter_ne {α : Type} (l : List (String × α)) {k other : String} (h : k ≠ other) :
    (l.filter (·.1 != other)).lookup k = l.lookup k := by
  induction l with
  | nil => rfl
  | cons entry l ih =>
    obtain ⟨key, a⟩ := entry
    by_cases hkey : key = other
    · subst hkey
      simp [List.lookup_cons, show (k == key) = false by simpa using h, ih]
    · rw [List.filter_cons_of_pos (by simpa using hkey), List.lookup_cons, List.lookup_cons, ih]

theorem legacyEvents_eq_filterMap {effective : List (String × OperatorEvent)}
    {events : List OperatorEventV2} (h : (events.map (·.eventId)).Nodup) :
    legacyEvents effective events = events.filterMap fun event =>
      event.projectLegacyLifecycle <|> effective.lookup event.eventId := by
  induction events generalizing effective with
  | nil => rfl
  | cons event rest ih =>
    rw [List.map_cons, List.nodup_cons] at h
    rw [legacyEvents, List.filterMap_cons]
    cases event.projectLegacyLifecycle with
    | some legacy => simp [ih h.2]
    | none =>
      cases effective.lookup event.eventId with
      | none => simp [ih h.2]
      | some legacy =>
        simp only [ih h.2, Option.orElse_eq_orElse, Option.orElse_eq_or, Option.none_or]
        refine congrArg _ (List.filterMap_congr fun later hlater => ?_)
        rw [lookup_filter_ne]
        exact fun heq => h.1 (heq ▸ List.mem_map_of_mem hlater)

/-- A list of keyed values is looked up by key, when the keys are unique. -/
theorem lookup_reverse_filterMap {α β : Type} {key : α → String} {g : α → Option β} {l : List α}
    (h : (l.map key).Nodup) {a : α} (ha : a ∈ l) :
    ((l.filterMap fun a => (g a).map (key a, ·)).reverse).lookup (key a) = g a := by
  rw [← List.filterMap_reverse]
  have hmem : a ∈ l.reverse := List.mem_reverse.2 ha
  have hnodup : (l.reverse.map key).Nodup := by
    rw [List.map_reverse]
    exact List.nodup_reverse.2 h
  generalize l.reverse = l at hmem hnodup
  induction l with
  | nil => cases hmem
  | cons b l ih =>
    rw [List.map_cons, List.nodup_cons] at hnodup
    rw [List.filterMap_cons]
    rcases List.mem_cons.1 hmem with rfl | hmem
    · cases hg : g a with
      | some x => simp
      | none =>
        simp only [Option.map_none, List.lookup_eq_none_iff]
        intro entry hentry
        obtain ⟨c, hc, heq⟩ := List.mem_filterMap.1 hentry
        obtain ⟨x, -, rfl⟩ := Option.map_eq_some_iff.1 heq
        have hne : key a ≠ key c := fun heq => hnodup.1 (heq ▸ List.mem_map_of_mem hc)
        simpa using hne
    · have hne : key a ≠ key b := fun heq => hnodup.1 (heq ▸ List.mem_map_of_mem hmem)
      have hbeq : (key a == key b) = false := by simpa using hne
      cases hg : g b with
      | some x =>
        rw [Option.map_some]
        dsimp only
        rw [List.lookup_cons, hbeq]
        exact ih hmem hnodup.2
      | none =>
        rw [Option.map_none]
        exact ih hmem hnodup.2

section

variable {α : Type} {source : α → String}

/-- The facts the entry carries come from the event of its key. -/
def Sourced (source : α → String) (entry : LedgerEntry String α) : Prop :=
  match entry with
  | .original key value => source value = key
  | .amendment key value => ∀ effective ∈ value, source effective = key

theorem standing_source {ledger : List (LedgerEntry String α)}
    (h : ∀ entry ∈ ledger, Sourced source entry) {k : String} {value x : α}
    (hvalue : source value = k) (hx : standing ledger k value = some x) : source x = k := by
  unfold standing at hx
  cases hlast : (amendments ledger k).getLast? with
  | none =>
    rw [hlast] at hx
    obtain rfl := Option.some.inj hx
    exact hvalue
  | some last =>
    rw [hlast, Option.getD_some] at hx
    subst hx
    obtain ⟨entry, hentry, hof⟩ := List.mem_filterMap.1 (List.mem_of_getLast? hlast)
    have hsourced := h entry hentry
    cases entry with
    | original key v => cases hof
    | amendment key v =>
      unfold LedgerEntry.amendmentOf? at hof
      dsimp only at hof
      split_ifs at hof with hkey
      obtain rfl := Option.some.inj hof
      exact (hsourced x rfl).trans hkey

theorem standingOf_source (source : α → String)
    {f : OperatorEventV3 → Option (LedgerEntry String α)}
    (hf : ∀ event entry, f event = some entry → EntryOf event entry ∧ Sourced source entry)
    {event : OperatorEventV3} {x : α} (h : standingOf (events.filterMap f) (f event) = some x) :
    source x = event.eventId := by
  obtain ⟨entry, hentry, h⟩ := Option.bind_eq_some_iff.1 h
  obtain ⟨o, ho, h⟩ := Option.bind_eq_some_iff.1 h
  obtain ⟨hof, hsourced⟩ := hf event entry hentry
  have hledger : ∀ entry ∈ events.filterMap f, Sourced source entry := by
    intro entry hmem
    obtain ⟨event, -, hentry⟩ := List.mem_filterMap.1 hmem
    exact (hf event entry hentry).2
  cases entry with
  | amendment key value => cases ho
  | original key value =>
    obtain rfl := Option.some.inj ho
    exact (standing_source hledger hsourced h).trans (hof.original rfl)

end

theorem OperatorEventV2.settle_source {event : OperatorEventV2} {targetEventId : String}
    {correction : EventCorrectionActionV2} {x : EffectiveOperatorEventV2}
    (h : event.settle targetEventId correction = some x) : x.sourceEventId = targetEventId := by
  cases correction <;> cases h
  rfl

theorem OperatorEventV3.settle_source {event : OperatorEventV3} {targetEventId : String}
    {correction : EventCorrectionActionV3} {x : EffectiveOperatorEventV3}
    (h : event.settle targetEventId correction = some x) : x.sourceEventId = targetEventId := by
  cases correction <;> cases h
  rfl

theorem OperatorEventV2.ledgerEntry_sourced {event : OperatorEventV2}
    {entry : LedgerEntry String EffectiveOperatorEventV2} (h : event.ledgerEntry = some entry) :
    Sourced EffectiveOperatorEventV2.sourceEventId entry := by
  unfold ledgerEntry at h
  cases hpayload : event.payload <;> rw [hpayload] at h <;>
    simp [OperatorEventPayloadV2.correctable?] at h <;> subst h <;>
    first
    | rfl
    | exact fun _ hx => settle_source hx

theorem OperatorEventV3.ledgerEntry_sourced {event : OperatorEventV3}
    {entry : LedgerEntry String EffectiveOperatorEventV3} (h : event.ledgerEntry = some entry) :
    Sourced EffectiveOperatorEventV3.sourceEventId entry := by
  unfold ledgerEntry at h
  cases hpayload : event.payload <;> rw [hpayload] at h <;>
    simp [OperatorEventPayloadV3.correctable?] at h <;> subst h <;>
    first
    | rfl
    | exact fun _ hx => settle_source hx

theorem projectedLedger_source {event : OperatorEventV3} {x : EffectiveOperatorEventV2}
    (h : standingOf (projectedLedger events) event.projectedLedgerEntry = some x) :
    x.sourceEventId = event.eventId := by
  refine standingOf_source EffectiveOperatorEventV2.sourceEventId
    (fun event entry hentry => ⟨OperatorEventV3.projectedLedgerEntry_entryOf hentry, ?_⟩) h
  obtain ⟨projected, -, hprojected⟩ := Option.bind_eq_some_iff.1 hentry
  exact OperatorEventV2.ledgerEntry_sourced hprojected

theorem ledgerV3_source {event : OperatorEventV3} {x : EffectiveOperatorEventV3}
    (h : standingOf (ledgerV3 events) event.ledgerEntry = some x) :
      x.sourceEventId = event.eventId :=
  standingOf_source EffectiveOperatorEventV3.sourceEventId
    (fun _ _ hentry => ⟨OperatorEventV3.ledgerEntry_entryOf hentry,
      OperatorEventV3.ledgerEntry_sourced hentry⟩) h

theorem projectV3EventToV2_eventId {event : OperatorEventV3} {projected : OperatorEventV2}
    (h : projectV3EventToV2 event = some projected) : projected.eventId = event.eventId := by
  simp only [projectV3EventToV2, Option.bind_eq_bind, Option.bind_eq_some_iff, Option.pure_def,
    Option.some.injEq] at h
  obtain ⟨payload, -, rfl⟩ := h
  rfl

theorem Committed.nodup (h : Committed events) : (events.map (·.eventId)).Nodup :=
  List.pairwise_map.2 (h.imp fun hab => hab.1)

theorem Committed.projected_nodup (h : Committed events) :
    ((events.filterMap projectV3EventToV2).map (·.eventId)).Nodup := by
  refine List.pairwise_map.2 (List.Pairwise.filterMap _ ?_ h)
  intro a b hab projected hprojected later hlater
  rw [projectV3EventToV2_eventId hprojected, projectV3EventToV2_eventId hlater]
  exact hab.1

theorem projectLegacy_eventId (effective : EffectiveOperatorEventV2) :
    effective.projectLegacy.eventId = effective.sourceEventId := by
  unfold EffectiveOperatorEventV2.projectLegacy
  cases effective.payload <;> rfl

/-- The facts of the projection, in committed order. -/
theorem projected_legacyEvents (h : (reduceOperatorEventsV3 .ready events).diagnostics = [])
    (bundle : BundleV2Contents) (hevents : bundle.events = events.filterMap projectV3EventToV2) :
    bundle.legacyEvents = events.filterMap fun event =>
      (projectV3EventToV2 event).bind fun projected => projected.projectLegacyLifecycle <|>
        (standingOf (projectedLedger events) event.projectedLedgerEntry).map
          EffectiveOperatorEventV2.projectLegacy := by
  have hcommitted := committed_of_reduce h
  have hkeyed : (events.filterMap fun event =>
        standingOf (projectedLedger events) event.projectedLedgerEntry).map
          (fun effective => (effective.projectLegacy.eventId, effective.projectLegacy)) =
      events.filterMap fun event => ((standingOf (projectedLedger events)
        event.projectedLedgerEntry).map EffectiveOperatorEventV2.projectLegacy).map
          (event.eventId, ·) := by
    rw [List.map_filterMap]
    apply List.filterMap_congr
    intro event _
    cases hx : standingOf (projectedLedger events) event.projectedLedgerEntry with
    | none => rfl
    | some x => simp [projectLegacy_eventId, projectedLedger_source hx]
  unfold BundleV2Contents.legacyEvents
  dsimp only
  rw [hevents, reduceOperatorEventsV2_effective h, hkeyed,
    legacyEvents_eq_filterMap hcommitted.projected_nodup, List.filterMap_filterMap]
  apply List.filterMap_congr
  intro event hevent
  cases hprojected : projectV3EventToV2 event with
  | none => rfl
  | some projected =>
    rw [Option.bind_some, Option.bind_some, projectV3EventToV2_eventId hprojected,
      lookup_reverse_filterMap hcommitted.nodup hevent]

end AntennaBench
