import AntennaBench.Analysis.Summary
import AntennaBench.Conductor.SlotFacts

/-!
# Slot facts of schema v2

The projection to the analysis model keeps each effective fact of a slot once, whatever
the order the events were committed in.
-/

namespace AntennaBench

/-- The facts an effective event states of a slot. -/
def EffectiveOperatorEventV2.factOf? (slotId : String) (event : EffectiveOperatorEventV2) :
    Option SlotFact :=
  if event.slotId = some slotId then event.payload.slotFact? else none

theorem projectLegacy_slotFact? (slotId : String) (event : EffectiveOperatorEventV2) :
    event.projectLegacy.slotFact? slotId = event.factOf? slotId := by
  unfold EffectiveOperatorEventV2.projectLegacy EffectiveOperatorEventV2.factOf?
    OperatorEvent.slotFact?
  cases event.payload <;> rfl

theorem projectLegacyLifecycle_slotFact? {event : OperatorEventV2} {legacy : OperatorEvent}
    (h : event.projectLegacyLifecycle = some legacy) (slotId : String) :
    legacy.slotFact? slotId = none ∧ legacy.eventType ≠ .switched := by
  unfold OperatorEventV2.projectLegacyLifecycle at h
  cases hpayload : event.payload <;> rw [hpayload] at h <;>
    simp only [Option.some.injEq, reduceCtorEq] at h <;> subst h <;>
    simp [OperatorEvent.slotFact?]

/-- A value that is looked up stands alone under its key. -/
theorem lookup_alone {α : Type} {entries : List (String × α)} {key : String} {a : α}
    (hkeys : (entries.map (·.1)).Nodup) (h : entries.lookup key = some a) :
    ∃ before after, entries = before ++ (key, a) :: after ∧
      entries.filter (·.1 != key) = before ++ after ∧
      key ∉ (before ++ after).map (·.1) ∧ ((before ++ after).map (·.1)).Nodup := by
  obtain ⟨before, after, rfl, -⟩ := List.lookup_eq_some_iff.1 h
  rw [List.map_append, List.map_cons, List.nodup_middle, List.nodup_cons, ← List.map_append]
    at hkeys
  obtain ⟨hfresh, hothers⟩ := hkeys
  have hkept : ∀ entry ∈ before ++ after, (entry.1 != key) = true := by
    intro entry hentry
    have hne : entry.1 ≠ key := fun heq =>
      hfresh (List.mem_map.2 ⟨entry, hentry, heq⟩)
    simpa using hne
  refine ⟨before, after, rfl, ?_, hfresh, hothers⟩
  rw [List.filter_append, List.filter_cons_of_neg (by simp), ← List.filter_append,
    List.filter_eq_self.2 hkept]

/-- The committed order of the facts is no matter: each effective fact is there once. -/
theorem legacyEvents_facts {effective : List (String × OperatorEvent)}
    {events : List OperatorEventV2} (hkeys : (effective.map (·.1)).Nodup)
    (hsources : ∀ key ∈ effective.map (·.1), ∃ event ∈ events, event.eventId = key ∧
      event.projectLegacyLifecycle = none) (slotId : String) :
    ((legacyEvents effective events).filterMap (·.slotFact? slotId)).Perm
      (effective.filterMap fun entry => entry.2.slotFact? slotId) := by
  induction events generalizing effective with
  | nil =>
    have hnone : effective = [] := by
      rw [List.eq_nil_iff_forall_not_mem]
      intro entry hentry
      obtain ⟨event, hevent, -⟩ := hsources _ (List.mem_map_of_mem hentry)
      cases hevent
    rw [hnone]
    rfl
  | cons event rest ih =>
    rw [legacyEvents]
    cases hlifecycle : event.projectLegacyLifecycle with
    | some legacy =>
      dsimp only
      rw [List.filterMap_cons_none (projectLegacyLifecycle_slotFact? hlifecycle slotId).1]
      apply ih hkeys
      intro key hkey
      obtain ⟨source, hsource, hid, hnone⟩ := hsources key hkey
      rcases List.mem_cons.1 hsource with rfl | hrest
      · rw [hlifecycle] at hnone
        cases hnone
      · exact ⟨source, hrest, hid, hnone⟩
    | none =>
      -- a key other than the event's has its source among the rest
      have hlater : ∀ key ∈ effective.map (·.1), key ≠ event.eventId → ∃ source ∈ rest,
          source.eventId = key ∧ source.projectLegacyLifecycle = none := by
        intro key hkey hne
        obtain ⟨source, hsource, hid, hnone⟩ := hsources key hkey
        rcases List.mem_cons.1 hsource with rfl | hrest
        · exact absurd hid.symm hne
        · exact ⟨source, hrest, hid, hnone⟩
      dsimp only
      cases hlookup : effective.lookup event.eventId with
      | none =>
        apply ih hkeys
        intro key hkey
        apply hlater key hkey
        obtain ⟨entry, hentry, rfl⟩ := List.mem_map.1 hkey
        have hdiffers := List.lookup_eq_none_iff.1 hlookup entry hentry
        exact fun heq => by simp [heq] at hdiffers
      | some legacy =>
        obtain ⟨before, after, rfl, hfilter, hfresh, hothers⟩ := lookup_alone hkeys hlookup
        have hrest := @ih (before ++ after) hothers (by
          intro key hkey
          apply hlater key
          · simp only [List.map_append, List.mem_append, List.map_cons, List.mem_cons] at hkey ⊢
            tauto
          · rintro rfl
            exact hfresh hkey)
        rw [hfilter, List.filterMap_append, List.filterMap_cons, List.filterMap_cons]
        rw [List.filterMap_append] at hrest
        cases legacy.slotFact? slotId with
        | none => exact hrest
        | some fact => exact (hrest.cons fact).trans List.perm_middle.symm

/-- The reduction has one place for each correctable event it took in. -/
structure ReductionStateV2.Placed (events : List OperatorEventV2) (state : ReductionStateV2)
    (keys : List String) : Prop where
  nodup : keys.Nodup
  originals : state.originals = keys.zipIdx.reverse
  length : state.effective.length = keys.length
  sources : ∀ (index : ℕ) (effective : EffectiveOperatorEventV2),
    state.effective[index]? = some (some effective) →
    keys[index]? = some effective.sourceEventId
  seen : ∀ key ∈ keys, key ∈ state.seenIds
  events : ∀ key ∈ keys, ∃ event ∈ events, event.eventId = key ∧
    event.projectLegacyLifecycle = none

namespace ReductionStateV2

variable {events : List OperatorEventV2} {state : ReductionStateV2} {keys : List String}

theorem Placed.see (h : Placed events state keys) (eventId : String) :
    Placed events { state with seenIds := eventId :: state.seenIds } keys :=
  { h with seen := fun key hkey => List.mem_cons_of_mem _ (h.seen key hkey) }

theorem Placed.report (h : Placed events state keys) (event : OperatorEventV2)
    (related : Option String) (code : OperatorEventDiagnosticCodeV2) (message : String) :
    Placed events (state.report event related code message) keys :=
  ⟨h.nodup, h.originals, h.length, h.sources, h.seen, h.events⟩

theorem Placed.correct (h : Placed events state keys) (event : OperatorEventV2)
    (targetEventId : String) (correction : EventCorrectionActionV2) (reason : String) :
    Placed events (state.correct event targetEventId correction reason) keys := by
  unfold ReductionStateV2.correct
  split_ifs
  · exact h.report _ _ _ _
  cases hlookup : state.originals.lookup targetEventId with
  | none => exact h.report _ _ _ _
  | some index =>
    have htarget : keys[index]? = some targetEventId := by
      obtain ⟨before, after, heq, -⟩ := List.lookup_eq_some_iff.1 hlookup
      have hmem : (targetEventId, index) ∈ keys.zipIdx := by
        rw [← List.mem_reverse, ← h.originals, heq]
        simp
      exact List.mem_zipIdx_iff_getElem?.1 hmem
    refine ⟨h.nodup, h.originals, by simpa using h.length, ?_, h.seen, h.events⟩
    intro place effective hplace
    dsimp only at hplace
    rw [List.getElem?_set] at hplace
    split_ifs at hplace with hsame hbound
    · subst hsame
      cases correction with
      | retract => simp at hplace
      | replace replacement =>
        simp only [Option.some.injEq] at hplace
        rw [← hplace]
        exact htarget
    · exact h.sources place effective hplace

theorem Placed.enter (h : Placed events state keys) {event : OperatorEventV2}
    (hevent : event ∈ events) (hfresh : event.eventId ∉ keys)
    (hlifecycle : event.projectLegacyLifecycle = none) (hseen : event.eventId ∈ state.seenIds)
    (payload : CorrectableOperatorEventPayloadV2) :
    Placed events { state with
      originals := (event.eventId, state.effective.length) :: state.originals
      effective := state.effective ++ [some (effectiveOriginal event payload)] }
      (keys ++ [event.eventId]) := by
  constructor
  · rw [List.nodup_append]
    refine ⟨h.nodup, List.nodup_singleton _, ?_⟩
    intro key hkey other hother
    rw [List.mem_singleton.1 hother]
    exact fun heq => hfresh (heq ▸ hkey)
  · simp [List.zipIdx_append, h.originals, h.length]
  · simp [h.length]
  · intro index effective hplace
    rcases lt_trichotomy index state.effective.length with hlt | rfl | hgt
    · rw [List.getElem?_append_left hlt] at hplace
      rw [List.getElem?_append_left (h.length ▸ hlt)]
      exact h.sources index effective hplace
    · rw [List.getElem?_append_right le_rfl, Nat.sub_self] at hplace
      rw [h.length, List.getElem?_append_right le_rfl, Nat.sub_self]
      simp only [List.getElem?_cons_zero, Option.some.injEq] at hplace ⊢
      rw [← hplace]
      rfl
    · rw [List.getElem?_eq_none (by simp; omega)] at hplace
      cases hplace
  · intro key hkey
    rcases List.mem_append.1 hkey with hold | hnew
    · exact h.seen key hold
    · rw [List.mem_singleton.1 hnew]
      exact hseen
  · intro key hkey
    rcases List.mem_append.1 hkey with hold | hnew
    · exact h.events key hold
    · exact ⟨event, hevent, (List.mem_singleton.1 hnew).symm, hlifecycle⟩

theorem Placed.step (h : Placed events state keys) {event : OperatorEventV2}
    (hevent : event ∈ events) : ∃ keys', Placed events (state.step event) keys' := by
  unfold ReductionStateV2.step
  by_cases hseen : state.seenIds.contains event.eventId = true
  · rw [if_pos hseen]
    exact ⟨keys, h.report _ _ _ _⟩
  have hfresh : event.eventId ∉ keys := fun hkey => hseen (by simpa using h.seen _ hkey)
  have hseen' := h.see event.eventId
  rw [if_neg hseen]
  dsimp only
  cases hshape : eventShapeError event with
  | some message => exact ⟨keys, hseen'.report _ _ _ _⟩
  | none =>
    dsimp only
    by_cases hlifecycle : event.payload.isLifecycle = true
    · rw [if_pos hlifecycle]
      cases applyLifecycleTransition state.lifecycle event.payload with
      | ok next => exact ⟨keys, hseen'.nodup, hseen'.originals, hseen'.length, hseen'.sources,
          hseen'.seen, hseen'.events⟩
      | error error => exact ⟨keys, hseen'.report _ _ _ _⟩
    rw [if_neg hlifecycle]
    by_cases hterminal : state.lifecycle.isTerminal = true
    · rw [if_pos hterminal]
      exact ⟨keys, hseen'.report _ _ _ _⟩
    rw [if_neg hterminal]
    have hnone : event.projectLegacyLifecycle = none := by
      unfold OperatorEventV2.projectLegacyLifecycle
      cases hpayload : event.payload <;> rw [hpayload] at hlifecycle <;>
        simp_all [OperatorEventPayloadV2.isLifecycle]
    have henter := hseen'.enter hevent hfresh hnone List.mem_cons_self
    cases hpayload : event.payload with
    | eventCorrected targetEventId correction reason => exact ⟨keys, hseen'.correct _ _ _ _⟩
    | antennaStateConfirmed antennaLabel note => exact ⟨_, henter _⟩
    | slotMissed reason => exact ⟨_, henter _⟩
    | slotBad reason => exact ⟨_, henter _⟩
    | noteAdded note => exact ⟨_, henter _⟩
    | _ => exact ⟨keys, hseen'.report _ _ _ _⟩

theorem placed_run (events : List OperatorEventV2) {rest : List OperatorEventV2}
    (hrest : rest ⊆ events) (h : Placed events state keys) :
    ∃ keys', Placed events (rest.foldl ReductionStateV2.step state) keys' := by
  induction rest generalizing state keys with
  | nil => exact ⟨keys, h⟩
  | cons event rest ih =>
    obtain ⟨keys', hstep⟩ := h.step (hrest List.mem_cons_self)
    exact ih (fun other hother => hrest (List.mem_cons_of_mem _ hother)) hstep

theorem filterMap_sublist {α κ : Type} {source : α → κ} {items : List (Option α)} {keys : List κ}
    (hlength : items.length = keys.length)
    (h : ∀ (index : ℕ) (a : α), items[index]? = some (some a) → keys[index]? = some (source a)) :
    ((items.filterMap id).map source).Sublist keys := by
  induction items generalizing keys with
  | nil => exact List.nil_sublist _
  | cons item rest ih =>
    cases keys with
    | nil => simp at hlength
    | cons key keys =>
      have hrest := @ih keys (by simpa using hlength) fun index a hplace =>
        h (index + 1) a (by simpa using hplace)
      cases item with
      | none => exact hrest.cons key
      | some a =>
        have hkey : key = source a := by simpa using h 0 a rfl
        rw [hkey]
        exact hrest.cons_cons _

end ReductionStateV2

/-- The facts of the analysis are those of the reduction, for any events. -/
theorem legacyEvents_slotFacts (bundle : BundleV2Contents) (slotId : String) :
    (bundle.legacyEvents.filterMap (·.slotFact? slotId)).Perm
      ((reduceOperatorEventsV2 .ready bundle.events).effectiveEvents.filterMap
        (·.factOf? slotId)) := by
  have hinit : ReductionStateV2.Placed bundle.events (.init .ready) [] := by
    constructor <;> simp [ReductionStateV2.init]
  obtain ⟨keys, hplaced⟩ :=
    ReductionStateV2.placed_run bundle.events (List.Subset.refl _) hinit
  have hsublist := ReductionStateV2.filterMap_sublist hplaced.length hplaced.sources
  have hsources : ((reduceOperatorEventsV2 .ready bundle.events).effectiveEvents.map fun event =>
      (event.projectLegacy.eventId, event.projectLegacy)).reverse.map (·.1) =
      ((reduceOperatorEventsV2 .ready bundle.events).effectiveEvents.map
        (·.sourceEventId)).reverse := by
    rw [List.map_reverse, List.map_map]
    simp only [Function.comp_def, projectLegacy_eventId]
  have hfacts := @legacyEvents_facts
    ((reduceOperatorEventsV2 .ready bundle.events).effectiveEvents.map fun event =>
      (event.projectLegacy.eventId, event.projectLegacy)).reverse bundle.events
    (by
      rw [hsources, List.nodup_reverse]
      exact hplaced.nodup.sublist hsublist)
    (by
      intro key hkey
      rw [hsources, List.mem_reverse] at hkey
      exact hplaced.events key (hsublist.subset hkey)) slotId
  have hreduced : (((reduceOperatorEventsV2 .ready bundle.events).effectiveEvents.map fun event =>
      (event.projectLegacy.eventId, event.projectLegacy)).reverse).filterMap
        (fun entry => entry.2.slotFact? slotId) =
      ((reduceOperatorEventsV2 .ready bundle.events).effectiveEvents.filterMap
        (·.factOf? slotId)).reverse := by
    rw [List.filterMap_reverse, List.filterMap_map]
    simp only [Function.comp_def, projectLegacy_slotFact?]
  rw [hreduced] at hfacts
  exact hfacts.trans (List.reverse_perm _)

theorem legacyEvents_labelled {effective : List (String × OperatorEvent)}
    {events : List OperatorEventV2} (h : SwitchesLabelled (effective.map (·.2))) :
    SwitchesLabelled (legacyEvents effective events) := by
  induction events generalizing effective with
  | nil =>
    intro event hevent
    cases hevent
  | cons event rest ih =>
    rw [legacyEvents]
    cases hlifecycle : event.projectLegacyLifecycle with
    | some legacy =>
      intro other hother htype
      rcases List.mem_cons.1 hother with rfl | hrest
      · exact absurd htype (projectLegacyLifecycle_slotFact? hlifecycle "").2
      · exact ih h other hrest htype
    | none =>
      dsimp only
      cases hlookup : effective.lookup event.eventId with
      | none => exact ih h
      | some legacy =>
        intro other hother
        rcases List.mem_cons.1 hother with rfl | hrest
        · obtain ⟨before, after, rfl, -⟩ := List.lookup_eq_some_iff.1 hlookup
          exact h other (by simp)
        · apply ih _ other hrest
          intro kept hkept
          obtain ⟨entry, hentry, rfl⟩ := List.mem_map.1 hkept
          exact h entry.2 (List.mem_map_of_mem (List.mem_of_mem_filter hentry))

theorem bundle_labelled (bundle : BundleV2Contents) : SwitchesLabelled bundle.legacyEvents := by
  apply legacyEvents_labelled
  intro event hevent htype
  simp only [List.map_reverse, List.map_map, List.mem_reverse, List.mem_map,
    Function.comp_apply] at hevent
  obtain ⟨effective, -, rfl⟩ := hevent
  unfold EffectiveOperatorEventV2.projectLegacy at htype ⊢
  cases hpayload : effective.payload <;> rw [hpayload] at htype <;>
    simp_all [operatorFact]

end AntennaBench
