import AntennaBench.Core.Alignment
import AntennaBench.Core.Alignment
import AntennaBench.Core.Projection
import AntennaBench.Core.SignalPlan

/-!
# Slot facts

What the facts of a slot amount to. The conductor asks whether they differ; alignment
counts them. Both come to the evidence of a list of facts, without its repetitions for
the conductor.
-/

namespace AntennaBench

inductive SlotEvidenceStatus where
  | unknown
  | confirmed
  | missed
  | bad
  | conflicting
  deriving DecidableEq

/-- The part of `slot_evidence` and `slot_evidence_v3` after their loop. -/
def evidenceOf (confirmed : List String) (missed bad : Bool) :
    SlotEvidenceStatus × Option String :=
  let confirmed := AntennaBench.sortedKeys confirmed
  let factKinds := (!confirmed.isEmpty).toNat + missed.toNat + bad.toNat
  if 1 < confirmed.length ∨ 1 < factKinds then (.conflicting, none)
  else match confirmed.head? with
  | some label => (.confirmed, some label)
  | none => if missed then (.missed, none) else if bad then (.bad, none) else (.unknown, none)

def slotEvidence (facts : List CorrectableOperatorEventPayloadV2) :
    SlotEvidenceStatus × Option String :=
  evidenceOf
    (facts.filterMap fun
      | .antennaStateConfirmed antennaLabel _ => some antennaLabel
      | _ => none)
    (facts.any fun
      | .slotMissed _ => true
      | _ => false)
    (facts.any fun
      | .slotBad _ => true
      | _ => false)

def slotEvidenceV3 (facts : List CorrectableOperatorEventPayloadV3) :
    SlotEvidenceStatus × Option String :=
  evidenceOf
    (facts.filterMap fun
      | .antennaStateConfirmed antennaLabel _ => some antennaLabel
      | _ => none)
    (facts.any fun
      | .slotMissed _ => true
      | _ => false)
    (facts.any fun
      | .slotBad _ => true
      | _ => false)

/-- The conductor shows what alignment makes of the slot. -/
structure EvidenceAgrees (evidence : SlotEvidenceStatus × Option String) (aligned : AlignedSlot) :
    Prop where
  confirmed : ∀ label, evidence = (.confirmed, some label) ↔
    (aligned.status = .switched ∨ aligned.status = .lateSwitch) ∧ aligned.actualLabel = some label
  missed : evidence.1 = .missed ↔ aligned.status = .missed
  bad : evidence.1 = .bad ↔ aligned.status = .bad
  conflicting : evidence.1 = .conflicting ↔ aligned.status = .conflictingEvidence
  unknown : evidence.1 = .unknown ↔ aligned.status = .unknownActualState

/-- What an active fact says of its slot. -/
inductive SlotFact where
  | antenna (label : String)
  | missed
  | bad
  deriving DecidableEq

def SlotFact.evidence : SlotFact → SlotEvidenceStatus × Option String
  | antenna label => (.confirmed, some label)
  | missed => (.missed, none)
  | bad => (.bad, none)

/-- The evidence of facts that have to be at most one. -/
def soleEvidence : List SlotFact → SlotEvidenceStatus × Option String
  | [] => (.unknown, none)
  | [fact] => fact.evidence
  | _ => (.conflicting, none)

theorem soleEvidence_many {facts : List SlotFact} (h : 2 ≤ facts.length) :
    soleEvidence facts = (.conflicting, none) := by
  rcases facts with _ | ⟨first, _ | ⟨second, rest⟩⟩
  · simp at h
  · simp at h
  · rfl

theorem soleEvidence_perm {facts facts' : List SlotFact} (h : facts.Perm facts') :
    soleEvidence facts = soleEvidence facts' := by
  rcases facts with _ | ⟨first, _ | ⟨second, rest⟩⟩
  · rw [List.nil_perm.1 h]
  · rw [List.singleton_perm.1 h]
  · have hlength := h.length_eq
    simp only [List.length_cons] at hlength
    have hmany : 2 ≤ facts'.length := by omega
    rw [soleEvidence_many hmany]
    rfl

theorem SlotFact.evidence_injective : Function.Injective SlotFact.evidence := by
  intro a b h
  cases a <;> cases b <;> simp_all [evidence]

theorem SlotFact.evidence_ne (fact : SlotFact) :
    fact.evidence ≠ (.unknown, none) ∧ fact.evidence ≠ (.conflicting, none) := by
  cases fact <;> simp [evidence]

/-- Two lists say the same of a slot if they are the same fact, or both are at odds. -/
theorem soleEvidence_eq_iff {facts facts' : List SlotFact} :
    soleEvidence facts = soleEvidence facts' ↔
      facts = facts' ∨ (2 ≤ facts.length ∧ 2 ≤ facts'.length) := by
  constructor
  · intro h
    rcases facts with _ | ⟨a, _ | ⟨a', rest⟩⟩ <;> rcases facts' with _ | ⟨b, _ | ⟨b', rest'⟩⟩
    · exact Or.inl rfl
    · exact absurd h.symm b.evidence_ne.1
    · cases h
    · exact absurd h a.evidence_ne.1
    · exact Or.inl (congrArg (fun fact => [fact]) (SlotFact.evidence_injective h))
    · exact absurd h a.evidence_ne.2
    · cases h
    · exact absurd h.symm b.evidence_ne.2
    · exact Or.inr (by simp)
  · rintro (rfl | ⟨hmany, hmany'⟩)
    · rfl
    · rw [soleEvidence_many hmany, soleEvidence_many hmany']

def confirmedLabel? : SlotFact → Option String
  | .antenna label => some label
  | .missed => none
  | .bad => none

/-- Facts without repetitions: the antennas in order, then what else was reported. -/
def distinctFacts (labels : List String) (missed bad : Bool) : List SlotFact :=
  labels.map .antenna ++ (if missed then [.missed] else []) ++ (if bad then [.bad] else [])

theorem dedup_perm_distinctFacts (facts : List SlotFact) :
    facts.dedup.Perm (distinctFacts (AntennaBench.sortedKeys (facts.filterMap confirmedLabel?))
      (facts.any (· == .missed)) (facts.any (· == .bad))) := by
  have hlabels : (AntennaBench.sortedKeys (facts.filterMap confirmedLabel?)).Nodup :=
    (List.perm_insertionSort _ _).nodup_iff.2 (List.nodup_dedup _)
  have hantennas : ((AntennaBench.sortedKeys (facts.filterMap confirmedLabel?)).map
      SlotFact.antenna).Nodup := hlabels.map fun a b h => SlotFact.antenna.inj h
  rw [List.perm_ext_iff_of_nodup (List.nodup_dedup _)]
  · intro fact
    rw [List.mem_dedup]
    unfold distinctFacts AntennaBench.sortedKeys
    cases fact with
    | antenna label =>
      simp only [List.mem_append, List.mem_map, List.mem_insertionSort, List.mem_dedup,
        List.mem_filterMap, SlotFact.antenna.injEq, exists_eq_right]
      constructor
      · intro h
        exact Or.inl (Or.inl ⟨_, h, rfl⟩)
      · rintro ((⟨other, hother, hlabel⟩ | h) | h)
        · cases other <;> simp_all [confirmedLabel?]
        · split_ifs at h <;> simp at h
        · split_ifs at h <;> simp at h
    | missed => by_cases h : SlotFact.missed ∈ facts <;> by_cases h' : SlotFact.bad ∈ facts <;>
        simp [h, h']
    | bad => by_cases h : SlotFact.missed ∈ facts <;> by_cases h' : SlotFact.bad ∈ facts <;>
        simp [h, h']
  · unfold distinctFacts
    by_cases hmissed : (facts.any (· == .missed)) = true <;>
      by_cases hbad : (facts.any (· == .bad)) = true <;>
      simp [hmissed, hbad, List.nodup_append, hantennas]

/-- The rule of the conductor: facts that repeat each other are one. -/
theorem evidenceOf_facts (facts : List SlotFact) :
    evidenceOf (facts.filterMap confirmedLabel?) (facts.any (· == .missed))
      (facts.any (· == .bad)) = soleEvidence facts.dedup := by
  rw [soleEvidence_perm (dedup_perm_distinctFacts facts), evidenceOf]
  generalize AntennaBench.sortedKeys (facts.filterMap confirmedLabel?) = labels
  generalize facts.any (· == .missed) = missed
  generalize facts.any (· == .bad) = bad
  rcases labels with _ | ⟨first, _ | ⟨second, rest⟩⟩
  · cases missed <;> cases bad <;> rfl
  · cases missed <;> cases bad <;> rfl
  · rw [if_pos (Or.inl (by simp))]
    rfl

/-- What a payload of the stored events says of its slot. -/
def CorrectableOperatorEventPayloadV2.slotFact? : CorrectableOperatorEventPayloadV2 →
    Option SlotFact
  | .antennaStateConfirmed antennaLabel _ => some (.antenna antennaLabel)
  | .slotMissed _ => some .missed
  | .slotBad _ => some .bad
  | .noteAdded _ => none

def CorrectableOperatorEventPayloadV3.slotFact? : CorrectableOperatorEventPayloadV3 →
    Option SlotFact
  | .antennaStateConfirmed antennaLabel _ => some (.antenna antennaLabel)
  | .signalStateConfirmed _ => none
  | .slotMissed _ => some .missed
  | .slotBad _ => some .bad
  | .noteAdded _ => none

/-- Facts of any kind, by what each says of its slot. -/
theorem evidenceOf_slotFacts {α : Type} {fact? : α → Option SlotFact}
    {label? : α → Option String} {missed bad : α → Bool}
    (hlabel : ∀ a, (fact? a).bind confirmedLabel? = label? a)
    (hmissed : ∀ a, (fact? a).any (· == .missed) = missed a)
    (hbad : ∀ a, (fact? a).any (· == .bad) = bad a) (facts : List α) :
    evidenceOf (facts.filterMap label?) (facts.any missed) (facts.any bad) =
      soleEvidence (facts.filterMap fact?).dedup := by
  have hmisses : (facts.filterMap fact?).any (· == .missed) = facts.any missed := by
    rw [List.any_filterMap, ← funext hmissed]
    rfl
  have hbads : (facts.filterMap fact?).any (· == .bad) = facts.any bad := by
    rw [List.any_filterMap, ← funext hbad]
    rfl
  rw [← evidenceOf_facts, hmisses, hbads, List.filterMap_filterMap,
    List.filterMap_congr fun a _ => hlabel a]

theorem slotEvidence_facts (facts : List CorrectableOperatorEventPayloadV2) :
    slotEvidence facts = soleEvidence (facts.filterMap (·.slotFact?)).dedup := by
  apply evidenceOf_slotFacts <;>
  · intro fact
    cases fact <;> rfl

theorem slotEvidenceV3_facts (facts : List CorrectableOperatorEventPayloadV3) :
    slotEvidenceV3 facts = soleEvidence (facts.filterMap (·.slotFact?)).dedup := by
  apply evidenceOf_slotFacts <;>
  · intro fact
    cases fact <;> rfl

/-- What an event of the analysis model says of a slot. -/
def OperatorEvent.slotFact? (slotId : String) (event : OperatorEvent) : Option SlotFact :=
  if event.slotId = some slotId then
    match event.eventType with
    | .switched => event.actualAntennaLabel.map .antenna
    | .missedSlot => some .missed
    | .badSlot => some .bad
    | _ => none
  else none

/-- Every switch names its antenna. -/
def SwitchesLabelled (events : List OperatorEvent) : Prop :=
  ∀ event ∈ events, event.eventType = .switched → event.actualAntennaLabel.isSome = true

/-- The evidence that corresponds to the status of an aligned slot. -/
def AlignedSlot.evidence (slot : AlignedSlot) : SlotEvidenceStatus × Option String :=
  match slot.status with
  | .switched | .lateSwitch => (.confirmed, slot.actualLabel)
  | .missed => (.missed, none)
  | .bad => (.bad, none)
  | .conflictingEvidence => (.conflicting, none)
  | .unknownActualState | .plannedNoSwitchEvent => (.unknown, none)

/-- What the events of one slot count is what they say. -/
structure SlotCounts (slotEvents : List OperatorEvent) (facts : List SlotFact) : Prop where
  switches : (slotEvents.filter (·.eventType == .switched)).map (·.actualAntennaLabel) =
    (facts.filterMap confirmedLabel?).map some
  bad : slotEvents.countP (·.eventType == .badSlot) = facts.count .bad
  missed : slotEvents.countP (·.eventType == .missedSlot) = facts.count .missed

theorem slotCounts {slotId : String} {events : List OperatorEvent} (h : SwitchesLabelled events) :
    SlotCounts (events.filter (·.slotId == some slotId))
      (events.filterMap (·.slotFact? slotId)) := by
  induction events with
  | nil => exact ⟨rfl, rfl, rfl⟩
  | cons event rest ih =>
    have hrest : SwitchesLabelled rest :=
      fun other hother => h other (List.mem_cons_of_mem _ hother)
    obtain ⟨hswitches, hbad, hmissed⟩ := ih hrest
    have hlabel := h event List.mem_cons_self
    generalize hevents : rest.filter (·.slotId == some slotId) = slotEvents
      at hswitches hbad hmissed
    generalize hfacts : rest.filterMap (·.slotFact? slotId) = facts at hswitches hbad hmissed
    by_cases hslot : event.slotId = some slotId
    · rw [List.filter_cons_of_pos (by simpa using hslot), List.filterMap_cons, hevents, hfacts,
        OperatorEvent.slotFact?, if_pos hslot]
      cases htype : event.eventType with
      | switched =>
        obtain ⟨label, hsome⟩ := Option.isSome_iff_exists.1 (hlabel htype)
        constructor <;> simp [htype, hsome, confirmedLabel?, hswitches, hbad, hmissed]
      | _ =>
        constructor <;>
          simp [htype, List.filterMap_cons, confirmedLabel?, hswitches, hbad, hmissed]
    · have hfact : event.slotFact? slotId = none := if_neg hslot
      rw [List.filter_cons_of_neg (by simpa using hslot), List.filterMap_cons_none hfact, hevents,
        hfacts]
      exact ⟨hswitches, hbad, hmissed⟩

theorem length_eq_counts (facts : List SlotFact) : facts.length =
    (facts.filterMap confirmedLabel?).length + facts.count .bad + facts.count .missed := by
  induction facts with
  | nil => rfl
  | cons fact rest ih =>
    cases fact <;> simp [List.filterMap_cons, confirmedLabel?, ih] <;> omega

theorem SlotCounts.length {slotEvents : List OperatorEvent} {facts : List SlotFact}
    (h : SlotCounts slotEvents facts) :
    (slotEvents.filter (·.eventType == .switched)).length +
        slotEvents.countP (·.eventType == .badSlot) +
        slotEvents.countP (·.eventType == .missedSlot) = facts.length := by
  have hswitches := congrArg List.length h.switches
  rw [List.length_map, List.length_map] at hswitches
  rw [h.bad, h.missed, hswitches, length_eq_counts]

/-- The rule of alignment: every fact of a slot counts. -/
theorem alignSlot_evidence (slot : PlannedSlot) {events : List OperatorEvent}
    (h : SwitchesLabelled events) : (alignSlot slot events true).evidence =
      soleEvidence (events.filterMap (·.slotFact? slot.slotId)) := by
  have hcounts : SlotCounts (events.filter (·.slotId == some slot.slotId))
      (events.filterMap (·.slotFact? slot.slotId)) := slotCounts h
  unfold alignSlot
  dsimp only
  generalize events.filter (·.slotId == some slot.slotId) = slotEvents at hcounts ⊢
  generalize events.filterMap (·.slotFact? slot.slotId) = facts at hcounts ⊢
  rw [hcounts.length, hcounts.bad, hcounts.missed]
  rcases facts with _ | ⟨fact, _ | ⟨second, rest⟩⟩
  · have hnone : slotEvents.filter (·.eventType == .switched) = [] := by
      simpa using hcounts.switches
    rw [hnone]
    rfl
  · cases fact with
    | antenna label =>
      obtain ⟨event, hevent, hlabel⟩ := List.map_eq_singleton_iff.1 hcounts.switches
      have hactual : event.actualAntennaLabel = some label := hlabel
      rw [hevent, if_neg (by simp), if_neg (by simp), if_neg (by simp), List.argmin_singleton]
      dsimp only
      rw [hactual, AlignedSlot.evidence]
      split_ifs <;> rfl
    | missed => rfl
    | bad => rfl
  · rw [if_pos (by simp)]
    rfl

theorem alignSlot_status (slot : PlannedSlot) (events : List OperatorEvent) :
    (alignSlot slot events true).status ≠ .plannedNoSwitchEvent := by
  unfold alignSlot
  simp only [if_true]
  split_ifs
  · exact AlignedSlotStatus.noConfusion
  · exact AlignedSlotStatus.noConfusion
  · exact AlignedSlotStatus.noConfusion
  · split
    · dsimp only [PlannedSlot.unswitched]
      split_ifs <;> exact AlignedSlotStatus.noConfusion
    · exact AlignedSlotStatus.noConfusion

theorem soleEvidence_cases (facts : List SlotFact) :
    soleEvidence facts = (.unknown, none) ∨ soleEvidence facts = (.missed, none) ∨
      soleEvidence facts = (.bad, none) ∨ soleEvidence facts = (.conflicting, none) ∨
      ∃ label, soleEvidence facts = (.confirmed, some label) := by
  rcases facts with _ | ⟨fact, _ | ⟨second, rest⟩⟩
  · exact Or.inl rfl
  · cases fact with
    | antenna label => exact Or.inr (Or.inr (Or.inr (Or.inr ⟨label, rfl⟩)))
    | missed => exact Or.inr (Or.inl rfl)
    | bad => exact Or.inr (Or.inr (Or.inl rfl))
  · exact Or.inr (Or.inr (Or.inr (Or.inl rfl)))

/-- The correspondence of the statuses is equality of the evidence. -/
theorem evidenceAgrees_iff {aligned : AlignedSlot} {stated counted : List SlotFact}
    (hstatus : aligned.status ≠ .plannedNoSwitchEvent)
    (hcounted : aligned.evidence = soleEvidence counted) :
    EvidenceAgrees (soleEvidence stated) aligned ↔
      soleEvidence stated = soleEvidence counted := by
  rw [← hcounted]
  constructor
  · intro h
    have hconfirmed := h.confirmed
    have hmissed := h.missed
    have hbad := h.bad
    have hconflicting := h.conflicting
    have hunknown := h.unknown
    rcases soleEvidence_cases stated with hs | hs | hs | hs | ⟨label, hs⟩ <;>
      rw [hs] at hconfirmed hmissed hbad hconflicting hunknown ⊢
    · rw [AlignedSlot.evidence, hunknown.1 rfl]
    · rw [AlignedSlot.evidence, hmissed.1 rfl]
    · rw [AlignedSlot.evidence, hbad.1 rfl]
    · rw [AlignedSlot.evidence, hconflicting.1 rfl]
    · obtain ⟨hswitched | hlate, hlabel⟩ := (hconfirmed label).1 rfl
      · rw [AlignedSlot.evidence, hswitched, hlabel]
      · rw [AlignedSlot.evidence, hlate, hlabel]
  · intro h
    rw [h]
    unfold AlignedSlot.evidence
    cases hcase : aligned.status <;> constructor <;> simp_all

end AntennaBench
