import AntennaBench.Core.Alignment

/-!
# What the alignment attributes

A label is given to an observation only inside a slot of its band that exactly one fact is
about: a switch that names that label and was not later than the observation. A slot that any
other fact is about, several facts or none, credits nothing.
-/

namespace AntennaBench

/-- The events that say something about the antenna of a slot. -/
def OperatorEventType.isFact : OperatorEventType → Bool
  | switched | missedSlot | badSlot => true
  | _ => false

theorem OperatorEventType.isFact_eq (eventType : OperatorEventType) :
    eventType.isFact = (eventType == .switched || eventType == .badSlot ||
      eventType == .missedSlot) := by
  cases eventType <;> rfl

def activeFacts (slotId : String) (events : List OperatorEvent) : List OperatorEvent :=
  (events.filter (·.slotId == some slotId)).filter (·.eventType.isFact)

/-- The states that credit nothing. -/
def AlignedSlotStatus.isUncredited : AlignedSlotStatus → Bool
  | missed | bad | conflictingEvidence | unknownActualState => true
  | _ => false

def AlignedSlot.contains (slot : AlignedSlot) (timestamp : DateTime) : Bool :=
  slot.startsAt ≤ timestamp && timestamp < slot.endsAt

/-- The slot an observation is in: the first one whose window contains its time. -/
def slotOf (slots : List AlignedSlot) (observation : ObservationRecord) : Option AlignedSlot :=
  slots.find? (·.contains observation.recordMeta.timestamp)

/-- The only fact about the slot is that switch. -/
structure SoleSwitch (slotId : String) (events : List OperatorEvent) (fact : OperatorEvent) :
    Prop where
  facts : activeFacts slotId events = [fact]
  switch : fact.eventType = .switched

theorem facts_length (events : List OperatorEvent) :
    (events.filter (·.eventType.isFact)).length =
      (events.filter (·.eventType == .switched)).length +
        events.countP (·.eventType == .badSlot) + events.countP (·.eventType == .missedSlot) := by
  induction events with
  | nil => rfl
  | cons event events ih =>
    have hfact := event.eventType.isFact_eq
    rw [List.filter_cons, List.filter_cons, List.countP_cons, List.countP_cons]
    cases htype : event.eventType <;> rw [htype] at hfact <;> simp [hfact, ih] <;> omega

/-- What the alignment makes of a slot of a schema-v2 schedule. -/
inductive AlignedCase (slot : PlannedSlot) (events : List OperatorEvent) (aligned : AlignedSlot) :
    Prop where
  | credited (fact : OperatorEvent) (sole : SoleSwitch slot.slotId events fact)
      (label : aligned.actualLabel = fact.actualAntennaLabel)
      (switchTimestamp : aligned.switchTimestamp = some fact.recordMeta.timestamp)
      (usable : fact.recordMeta.timestamp ≤ aligned.usableStart)
      (status : aligned.status.isUncredited = false)
  | uncredited (none : ∀ fact, ¬SoleSwitch slot.slotId events fact)
      (status : aligned.status.isUncredited = true)

section

variable {slot : PlannedSlot} {events : List OperatorEvent}

theorem alignSlot_frame (slot : PlannedSlot) (events : List OperatorEvent) (schemaV2 : Bool) :
    let aligned := alignSlot slot events schemaV2
    aligned.slotId = slot.slotId ∧ aligned.band = slot.band ∧ aligned.startsAt = slot.startsAt ∧
      aligned.endsAt = slot.startsAt + seconds slot.durationSeconds := by
  unfold alignSlot
  dsimp only
  split_ifs
  any_goals exact ⟨rfl, rfl, rfl, rfl⟩
  all_goals split
  all_goals exact ⟨rfl, rfl, rfl, rfl⟩

theorem SoleSwitch.counts {fact : OperatorEvent} (h : SoleSwitch slot.slotId events fact) :
    let slotEvents := events.filter (·.slotId == some slot.slotId)
    slotEvents.filter (·.eventType == .switched) = [fact] ∧
      slotEvents.countP (·.eventType == .badSlot) = 0 ∧
      slotEvents.countP (·.eventType == .missedSlot) = 0 := by
  intro slotEvents
  have hlength := facts_length slotEvents
  have hfacts : slotEvents.filter (·.eventType.isFact) = [fact] := h.facts
  have hmem : fact ∈ slotEvents.filter (·.eventType.isFact) := by simp [hfacts]
  have hswitch : fact ∈ slotEvents.filter (·.eventType == .switched) :=
    List.mem_filter.2 ⟨(List.mem_filter.1 hmem).1, by simp [h.switch]⟩
  have hpos := List.length_pos_of_mem hswitch
  rw [hfacts, List.length_singleton] at hlength
  obtain ⟨only, honly⟩ := List.length_eq_one_iff.1 (show
    (slotEvents.filter (·.eventType == .switched)).length = 1 by omega)
  rw [honly, List.mem_singleton] at hswitch
  exact ⟨by rw [honly, hswitch], by omega, by omega⟩

theorem alignSlot_case (slot : PlannedSlot) (events : List OperatorEvent) :
    AlignedCase slot events (alignSlot slot events true) := by
  have hlength := facts_length (events.filter (·.slotId == some slot.slotId))
  unfold alignSlot
  simp only [Bool.true_and, decide_eq_true_eq]
  split_ifs with hconflict hbad hmissed
  · refine .uncredited (fun fact h => ?_) rfl
    obtain ⟨hswitch, hbad, hmissed⟩ := h.counts
    simp only [hswitch, hbad, hmissed, List.length_singleton] at hconflict
    omega
  · refine .uncredited (fun fact h => ?_) rfl
    have hnone := h.counts.2.1
    omega
  · refine .uncredited (fun fact h => ?_) rfl
    have hnone := h.counts.2.2
    omega
  · split
    · next event hevent =>
      have hmem := List.argmin_mem hevent
      have hpos := List.length_pos_of_mem hmem
      obtain ⟨only, honly⟩ := List.length_eq_one_iff.1 (show
        ((events.filter (·.slotId == some slot.slotId)).filter
          (·.eventType == .switched)).length = 1 by omega)
      obtain rfl : event = only := by simpa [honly] using hmem
      have hswitch : event.eventType = .switched := by simpa using (List.mem_filter.1 hmem).2
      have hfact : event ∈ activeFacts slot.slotId events :=
        List.mem_filter.2 ⟨(List.mem_filter.1 hmem).1, by rw [hswitch]; rfl⟩
      obtain ⟨fact, hfacts⟩ := List.length_eq_one_iff.1 (show
        (activeFacts slot.slotId events).length = 1 by unfold activeFacts; omega)
      obtain rfl : event = fact := by simpa [hfacts] using hfact
      refine .credited event ⟨hfacts, hswitch⟩ ?_ rfl (le_max_right _ _) ?_
      · cases event.actualAntennaLabel <;> rfl
      · dsimp only
        split_ifs <;> rfl
    · next hnone =>
      rw [List.argmin_eq_none] at hnone
      refine .uncredited (fun fact h => ?_) rfl
      have hswitch := h.counts.1
      simp [hnone] at hswitch

end

section

variable {policy : SlotAlignmentPolicy} {observation : ObservationRecord} {slot : AlignedSlot}

theorem assignWithin_uncredited (h : slot.status.isUncredited = true) :
    (assignWithin policy observation slot).slotLabel = none ∧
      (assignWithin policy observation slot).confidence = .zero := by
  unfold assignWithin
  cases hstatus : slot.status <;> simp_all [AlignedSlotStatus.isUncredited, assignment]

theorem assignWithin_slotId (policy : SlotAlignmentPolicy) (observation : ObservationRecord)
    (slot : AlignedSlot) : (assignWithin policy observation slot).slotId = some slot.slotId := by
  unfold assignWithin
  dsimp only
  split
  any_goals rfl
  split_ifs
  any_goals rfl
  split <;> rfl

/-- A label is the one of the slot, and only after its usable start or its switch. -/
theorem assignWithin_label {label : String}
    (h : (assignWithin policy observation slot).slotLabel = some label) :
    slot.status.isUncredited = false ∧ slot.actualLabel = some label ∧
      (slot.usableStart ≤ observation.recordMeta.timestamp ∨
        slot.switchTimestamp.any (· ≤ observation.recordMeta.timestamp) = true) := by
  cases hstatus : slot.status.isUncredited with
  | true => simp [(assignWithin_uncredited hstatus).1] at h
  | false =>
    refine ⟨rfl, ?_⟩
    unfold assignWithin at h
    dsimp only at h
    split at h
    any_goals cases h
    split_ifs at h with hlate hearly hswitch hboundary
    any_goals cases h
    · exact ⟨h, .inr hswitch⟩
    · exact ⟨h, .inl (not_lt.1 hearly)⟩
    · refine ⟨?_, .inl (not_lt.1 hearly)⟩
      split at h <;> exact h

end

/-- A labelled observation is in a slot of its band whose only fact is a switch that names the
label and is not later; a slot in a state that credits nothing gives neither label nor
confidence. -/
structure FollowsEvidence (schedule : Schedule) (events : List OperatorEvent)
    (slots : List AlignedSlot) (observation : ObservationRecord)
    (given : ObservationSlotAssignment) : Prop where
  labelled : ∀ label, given.slotLabel = some label → ∃ slot ∈ schedule.slots, ∃ fact,
    given.slotId = some slot.slotId ∧ slot.startsAt ≤ observation.recordMeta.timestamp ∧
      observation.recordMeta.timestamp < slot.startsAt + seconds slot.durationSeconds ∧
      observation.band = slot.band ∧ SoleSwitch slot.slotId events fact ∧
      fact.actualAntennaLabel = some label ∧
      fact.recordMeta.timestamp ≤ observation.recordMeta.timestamp
  unlabelled : ∀ slot ∈ slots, slot.status.isUncredited = true →
    given.slotId = some slot.slotId ∨ slotOf slots observation = some slot →
    given.slotLabel = none ∧ given.confidence = .zero

/-- The state of a slot that credits nothing is a matter of the facts about its identity. -/
theorem isUncredited_iff {slot : PlannedSlot} {events : List OperatorEvent} :
    (alignSlot slot events true).status.isUncredited = true ↔
      ∀ fact, ¬SoleSwitch slot.slotId events fact := by
  cases alignSlot_case slot events with
  | credited fact sole _ _ _ status =>
    rw [status]
    exact ⟨fun h => by simp at h, fun h => absurd sole (h fact)⟩
  | uncredited none status => exact ⟨fun _ => none, fun _ => status⟩

theorem assignObservationToSlot_follows (schedule : Schedule) (events : List OperatorEvent)
    (policy : SlotAlignmentPolicy) (observation : ObservationRecord) :
    let slots := schedule.slots.map (alignSlot · events true)
    FollowsEvidence schedule events slots observation
      (assignObservationToSlot policy slots observation) := by
  intro slots
  unfold assignObservationToSlot
  cases hslot : slotOf slots observation with
  | none =>
    have hfind : slots.find? (fun slot => slot.startsAt ≤ observation.recordMeta.timestamp &&
      observation.recordMeta.timestamp < slot.endsAt) = none := hslot
    simp only [hfind]
    exact ⟨fun label h => by simp [assignment] at h, fun slot _ _ _ => ⟨rfl, rfl⟩⟩
  | some aligned =>
    have hfind : slots.find? (fun slot => slot.startsAt ≤ observation.recordMeta.timestamp &&
      observation.recordMeta.timestamp < slot.endsAt) = some aligned := hslot
    obtain ⟨slot, hmem, rfl⟩ := List.mem_map.1 (List.mem_of_find?_eq_some hfind)
    obtain ⟨hid, hband, hstart, hend⟩ := alignSlot_frame slot events true
    have hcontains := List.find?_some hfind
    simp only [Bool.and_eq_true, decide_eq_true_eq] at hcontains
    rw [hstart, hend] at hcontains
    simp only [hfind]
    split_ifs with hmismatch
    · exact ⟨fun label h => by simp [assignment] at h, fun slot _ _ _ => ⟨rfl, rfl⟩⟩
    · constructor
      · intro label hlabel
        obtain ⟨hcredited, hactual, htime⟩ := assignWithin_label hlabel
        cases alignSlot_case slot events with
        | uncredited none status => simp [status] at hcredited
        | credited fact sole label switchTimestamp usable status =>
          refine ⟨slot, hmem, fact, by rw [assignWithin_slotId, hid], hcontains.1, hcontains.2,
            (not_ne_iff.1 hmismatch).trans hband, sole, label.symm.trans hactual, ?_⟩
          rcases htime with husable | hswitch
          · exact usable.trans husable
          · simpa [switchTimestamp] using hswitch
      · intro other hother hstatus hplaced
        apply assignWithin_uncredited
        rcases hplaced with hsame | hfound
        · obtain ⟨otherSlot, -, rfl⟩ := List.mem_map.1 hother
          rw [assignWithin_slotId, hid, (alignSlot_frame otherSlot events true).1,
            Option.some.injEq] at hsame
          rw [isUncredited_iff] at hstatus ⊢
          rwa [hsame]
        · rw [hslot] at hfound
          rwa [Option.some.inj hfound]

/-- Over a schema-v2 schedule, every assignment of the alignment follows the evidence. -/
theorem alignScheduleSlots_followsEvidence (schedule : Schedule) (events : List OperatorEvent)
    (observations : List ObservationRecord) (policy : SlotAlignmentPolicy)
    (hschema : 2 ≤ schedule.schemaVersion) :
    let alignment := alignScheduleSlots schedule events observations policy
    List.Forall₂ (FollowsEvidence schedule events alignment.slots) observations
      alignment.observationAssignments := by
  intro alignment
  have hslots : alignment.slots = schedule.slots.map (alignSlot · events true) := by
    simp [alignment, alignScheduleSlots, hschema]
  have hassignments : alignment.observationAssignments =
      observations.map (assignObservationToSlot policy alignment.slots) := rfl
  rw [hassignments, List.forall₂_map_right_iff, List.forall₂_same, hslots]
  intro observation _
  exact assignObservationToSlot_follows schedule events policy observation

namespace Scenario

/-- Ten minutes on antenna A. -/
def switchedSchedule : Schedule :=
  ⟨2, "s1", .txFocused, .dx, [⟨"a", 1, seconds 0, 600, 10, .m40, "A"⟩]⟩

/-- Antenna B was switched to five seconds into the slot. -/
def switchedToB : OperatorEvent :=
  ⟨⟨2, "s1", seconds 5, .operator⟩, "e1", some "a", .switched, none, some "B"⟩

def heardIn (timestamp : ℤ) : ObservationRecord where
  recordMeta := ⟨2, "s1", seconds timestamp, .wsjtxUdp⟩
  observationId := "o1"
  observationKind := .localDecode
  band := .m40
  frequencyHz := none
  mode := some "WSPR"
  reporterCall := none
  heardCall := none
  reporterGrid := none
  heardGrid := none
  distanceKm := none
  azimuthDegrees := none
  snrDb := none
  driftHzPerMinute := none
  powerWatts := none
  slotId := none
  slotLabel := none
  slotConfidence := none
  raw := .null

/-- The report is attributed to the antenna that was switched to, not to the planned one. -/
theorem heardIn_followsEvidence :
    let alignment := alignScheduleSlots switchedSchedule [switchedToB] [heardIn 60] .default
    2 ≤ switchedSchedule.schemaVersion ∧
      alignment.observationAssignments.map (·.slotLabel) = [some "B"] ∧
      List.Forall₂ (FollowsEvidence switchedSchedule [switchedToB] alignment.slots) [heardIn 60]
        alignment.observationAssignments :=
  ⟨by decide, by decide, alignScheduleSlots_followsEvidence _ _ _ _ (by decide)⟩

end Scenario

end AntennaBench
