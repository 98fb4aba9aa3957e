import AntennaBench.Conductor.ArmedSlotFacts
import AntennaBench.Conductor.LegacySlotFacts
import AntennaBench.Storage.ValidateV2

/-!
# Slot evidence

What the conductor shows of a slot, against what alignment makes of the same slot. The
conductor asks whether the facts of a slot differ, and falls back on an armed cycle where
there is none. Alignment counts them, armed cycles included.
-/

namespace AntennaBench

/-- A bundle the conductor shows. -/
inductive ConductedBundle where
  | v2 (bundle : BundleV2Contents)
  | v3 (bundle : BundleV3Contents)

namespace ConductedBundle

def intoCurrent : ConductedBundle → CurrentBundleContents
  | v2 bundle => bundle.intoCurrent
  | v3 bundle => bundle.intoCurrent

/-- The slot evidence of `build_view` and `build_view_v3`. -/
def evidence (conducted : ConductedBundle) (slotId : String) :
    SlotEvidenceStatus × Option String :=
  match conducted with
  | v2 bundle =>
    slotEvidence (((reduceOperatorEventsV2 .ready bundle.events).effectiveEvents.filter
      (·.slotId == some slotId)).map (·.payload))
  | v3 bundle =>
    let facts := ((reduceOperatorEventsV3 .ready bundle.events).effectiveEvents.filter
      (·.slotId == some slotId)).map (·.payload)
    let armedCycle := (projectWsprRunV3 bundle.schedule bundle.events).cycles.find?
      (·.intentId == slotId)
    let evidence := slotEvidenceV3 facts
    if evidence.1 = .unknown then
      match armedCycle with
      | some cycle => (.confirmed, some cycle.antennaLabel)
      | none => evidence
    else evidence

/-- What alignment makes of a slot. -/
def aligned (conducted : ConductedBundle) (slot : PlannedSlot) : AlignedSlot :=
  let current := conducted.intoCurrent.bundle
  alignSlot slot current.events (2 ≤ current.schedule.schemaVersion)

end ConductedBundle

/-- When the conductor and alignment read the same of a slot: from its armed antennas, from its
active facts, and from the facts that the projection keeps. -/
def FactsAgree (armed active kept : List SlotFact) : Prop :=
  match active.dedup with
  | [] => kept = []
  | [fact] => armed ++ kept = [fact]
  | _ => 2 ≤ (armed ++ kept).length

/-- What the conductor takes for the facts of a slot. -/
def shownFacts (armed active : List SlotFact) : List SlotFact :=
  if active = [] then armed else active.dedup

theorem factsAgree_iff {armed active kept : List SlotFact} (harmed : armed.length ≤ 1) :
    soleEvidence (shownFacts armed active) = soleEvidence (armed ++ kept) ↔
      FactsAgree armed active kept := by
  rw [soleEvidence_eq_iff]
  unfold shownFacts FactsAgree
  by_cases hactive : active = []
  · rw [if_pos hactive, hactive, List.dedup_nil]
    constructor
    · rintro (hsame | ⟨hmany, -⟩)
      · exact List.self_eq_append_right.1 hsame
      · omega
    · intro hkept
      exact Or.inl (by rw [hkept, List.append_nil])
  · rw [if_neg hactive]
    have hne : active.dedup ≠ [] := fun h => hactive ((List.dedup_eq_nil active).1 h)
    rcases hfacts : active.dedup with _ | ⟨first, _ | ⟨second, rest⟩⟩
    · exact absurd hfacts hne
    · simp only [List.length_singleton, Nat.not_succ_le_self, false_and, or_false]
      exact eq_comm
    · constructor
      · rintro (hsame | ⟨-, hmany⟩)
        · rw [← hsame]
          simp
        · exact hmany
      · intro hmany
        exact Or.inr ⟨by simp, hmany⟩

namespace ConductedBundle

/-- The antennas of the cycles armed for a slot. -/
def armedFacts (conducted : ConductedBundle) (slotId : String) : List SlotFact :=
  match conducted with
  | v2 _ => []
  | v3 bundle => (armedAntennas bundle.events slotId).map .antenna

/-- The facts of the slot that are neither retracted nor replaced. -/
def activeFacts (conducted : ConductedBundle) (slotId : String) : List SlotFact :=
  match conducted with
  | v2 bundle =>
    (reduceOperatorEventsV2 .ready bundle.events).effectiveEvents.filterMap (·.factOf? slotId)
  | v3 bundle =>
    (reduceOperatorEventsV3 .ready bundle.events).effectiveEvents.filterMap (·.factOf? slotId)

/-- The facts of the slot as far as the projection sees their corrections. -/
def keptFacts (conducted : ConductedBundle) (slotId : String) : List SlotFact :=
  match conducted with
  | v2 bundle => activeFacts (v2 bundle) slotId
  | v3 bundle => keptSlotFacts bundle.events slotId

/-- The reader hands the bundle out. -/
def Accepted (F : TextFormat) (E : Env) : ConductedBundle → Prop
  | v2 bundle => ReadableV2 F bundle
  | v3 bundle => validateV3Model E bundle = .ok ()

end ConductedBundle

theorem soleEvidence_unknown {facts : List SlotFact} :
    (soleEvidence facts).1 = .unknown ↔ facts = [] := by
  rcases facts with _ | ⟨fact, _ | ⟨second, rest⟩⟩
  · simp [soleEvidence]
  · cases fact <;> simp [soleEvidence, SlotFact.evidence]
  · simp [soleEvidence]

theorem ReadableV2.scheduleSchema {F : TextFormat} {bundle : BundleV2Contents}
    (h : ReadableV2 F bundle) : bundle.schedule.schemaVersion = schemaVersionV2 := by
  by_contra hne
  have hmem : v2Diagnostic .v2CheckpointMismatch .schedule none
      ("schema/session identity does not match v2 manifest for " ++
        BundleFileRole.schedule.debugName) ∈ validateV2Bundle F bundle [] := by
    have hdocument : v2Diagnostic .v2CheckpointMismatch .schedule none
        ("schema/session identity does not match v2 manifest for " ++
          BundleFileRole.schedule.debugName) ∈
            bundle.documents.flatMap (validateDocument bundle.manifest.sessionId) :=
      List.mem_flatMap.2 ⟨(.schedule, bundle.schedule.schemaVersion, bundle.schedule.sessionId),
        by simp [BundleV2Contents.documents], by simp [validateDocument, hne]⟩
    simp only [validateV2Bundle, List.mem_append]
    tauto
  have hblocks := h.validates _ hmem
  simp [v2Diagnostic, StoreFinding.diagnostic, BundleDiagnostic.blocks, allTypedOperations]
    at hblocks

namespace ConductedBundle

variable {F : TextFormat} {E : Env} {conducted : ConductedBundle}

theorem evidence_eq (h : conducted.Accepted F E) (slotId : String) :
    conducted.evidence slotId =
      soleEvidence (shownFacts (conducted.armedFacts slotId) (conducted.activeFacts slotId)) := by
  unfold shownFacts
  cases conducted with
  | v2 bundle =>
    have hfacts : (((reduceOperatorEventsV2 .ready bundle.events).effectiveEvents.filter
        (·.slotId == some slotId)).map (·.payload)).filterMap (·.slotFact?) =
        activeFacts (v2 bundle) slotId := by
      rw [List.filterMap_map, List.filterMap_filter]
      simp [activeFacts, EffectiveOperatorEventV2.factOf?]
    rw [evidence, slotEvidence_facts, hfacts]
    split_ifs with hactive
    · rw [hactive]
      rfl
    · rfl
  | v3 bundle =>
    have hfacts : (((reduceOperatorEventsV3 .ready bundle.events).effectiveEvents.filter
        (·.slotId == some slotId)).map (·.payload)).filterMap (·.slotFact?) =
        activeFacts (v3 bundle) slotId := by
      rw [List.filterMap_map, List.filterMap_filter]
      simp [activeFacts, EffectiveOperatorEventV3.factOf?]
    have hcycle := projectWsprRunV3_antenna (validateV3Model_runs h) slotId
    have hlength := armedAntennas_length (validateV3Model_runs h) slotId
    rw [evidence, slotEvidenceV3_facts, hfacts]
    by_cases hactive : activeFacts (v3 bundle) slotId = []
    · rw [if_pos hactive, hactive, armedFacts, if_pos (soleEvidence_unknown.2 List.dedup_nil)]
      cases hfind : (projectWsprRunV3 bundle.schedule bundle.events).cycles.find?
          (·.intentId == slotId) with
      | none =>
        rw [hfind, Option.map_none] at hcycle
        rw [List.head?_eq_none_iff.1 hcycle.symm]
        rfl
      | some cycle =>
        rw [hfind, Option.map_some] at hcycle
        rcases harmed : armedAntennas bundle.events slotId with _ | ⟨label, _ | ⟨other, rest⟩⟩
        · rw [harmed] at hcycle
          cases hcycle
        · rw [harmed, List.head?_cons, Option.some.injEq] at hcycle
          rw [← hcycle]
          rfl
        · rw [harmed] at hlength
          simp at hlength
    · have hne : (activeFacts (v3 bundle) slotId).dedup ≠ [] :=
        fun hnil => hactive ((List.dedup_eq_nil _).1 hnil)
      rw [if_neg (mt soleEvidence_unknown.1 hne), if_neg hactive]

theorem armedFacts_length (h : conducted.Accepted F E) (slotId : String) :
    (conducted.armedFacts slotId).length ≤ 1 := by
  cases conducted with
  | v2 bundle => exact Nat.zero_le 1
  | v3 bundle =>
    rw [armedFacts, List.length_map]
    exact armedAntennas_length (validateV3Model_runs h) slotId

theorem aligned_evidence (h : conducted.Accepted F E) (slot : PlannedSlot) :
    (conducted.aligned slot).status ≠ .plannedNoSwitchEvent ∧
      (conducted.aligned slot).evidence =
        soleEvidence (conducted.armedFacts slot.slotId ++ conducted.keptFacts slot.slotId) := by
  cases conducted with
  | v2 bundle =>
    have hschema : decide (2 ≤ (v2 bundle).intoCurrent.bundle.schedule.schemaVersion) = true :=
      decide_eq_true (ReadableV2.scheduleSchema h).ge
    unfold aligned
    dsimp only
    rw [hschema]
    refine ⟨alignSlot_status _ _, (alignSlot_evidence slot (bundle_labelled bundle)).trans ?_⟩
    exact soleEvidence_perm (legacyEvents_slotFacts bundle slot.slotId)
  | v3 bundle =>
    have hschema : decide (2 ≤ (v3 bundle).intoCurrent.bundle.schedule.schemaVersion) = true := rfl
    have hreduces := validateV3Model_reduces h
    unfold aligned
    dsimp only
    rw [hschema]
    refine ⟨alignSlot_status _ _,
      (alignSlot_evidence slot (bundle_labelled bundle.projectToV2)).trans ?_⟩
    apply soleEvidence_perm
    have hkept := intoCurrent_slotFacts bundle hreduces slot.slotId
    exact (List.Perm.of_eq hkept).trans (projectedSlotFacts_perm hreduces slot.slotId)

end ConductedBundle

/-- The conductor and alignment agree on a slot exactly when they read the same of its facts. -/
theorem slotEvidence_agrees_iff {F : TextFormat} {E : Env} {conducted : ConductedBundle}
    (h : conducted.Accepted F E) (slot : PlannedSlot) :
    EvidenceAgrees (conducted.evidence slot.slotId) (conducted.aligned slot) ↔
      FactsAgree (conducted.armedFacts slot.slotId) (conducted.activeFacts slot.slotId)
        (conducted.keptFacts slot.slotId) := by
  obtain ⟨hstatus, haligned⟩ := conducted.aligned_evidence h slot
  rw [conducted.evidence_eq h, evidenceAgrees_iff hstatus haligned]
  exact factsAgree_iff (conducted.armedFacts_length h slot.slotId)

namespace Scenario

def runEvent (eventId : String) (occurredAt : ℕ) (slotId : Option String)
    (payload : OperatorEventPayloadV3) : OperatorEventV3 where
  recordMeta :=
    ⟨6, "s1", noon occurredAt, .fromLegacy .derived "0.1.0", ⟨eventId, 0, 1⟩, some contextId⟩
  eventId := eventId
  occurredAt := noon occurredAt
  timeBasis := .observedNow
  uncertaintySeconds := none
  slotId := slotId
  payload := payload

def startedEvent : OperatorEventV3 :=
  runEvent "start" 5 none (.sessionStarted none)

/-- The operator has the antenna ready eleven seconds before the cycle. -/
def armedEvent (eventId intentId antennaLabel : String) (startsAt : ℕ) : OperatorEventV3 :=
  runEvent eventId (startsAt - 11) (some intentId)
    (.wsprCycleArmed antennaLabel (noon startsAt) (some .operatorConfirmed))

/-- The session with planned cycles, running. -/
def running (intents : List WsprCycleIntentV3) (events : List OperatorEventV3) :
    BundleV3Contents :=
  { bundle with
    sessionState := { sessionState with
      revision := events.length
      lifecycle := .running
      wsprLiveAcquisitionEnabled := true }
    schedule := { schedule with mode := .txFocused, wsprCycleIntents := intents }
    events := events }

/-- One cycle on antenna A, armed, and its antenna confirmed once more. -/
def confirmedAgain : ConductedBundle :=
  .v3 (running [cycleIntent "c1" 1 "A"] [startedEvent, armedEvent "e1" "c1" "A" 121,
    runEvent "e2" 130 (some "c1") (.antennaStateConfirmed "A" none)])

def confirmedSlot : PlannedSlot where
  slotId := "c1"
  sequenceNumber := 1
  startsAt := noon 121
  durationSeconds := 120
  guardSeconds := 0
  band := .m20
  antennaLabel := "A"

set_option maxRecDepth 20000 in
theorem confirmedAgain_accepted : confirmedAgain.Accepted textFormat (env unknown) := by
  have hany : (validateV3Model (env unknown) (running [cycleIntent "c1" 1 "A"]
      [startedEvent, armedEvent "e1" "c1" "A" 121,
        runEvent "e2" 130 (some "c1") (.antennaStateConfirmed "A" none)])).toOption.any
          (fun _ => true) = true := by
    decide
  obtain ⟨_, hok, -⟩ := exists_ok_of_any hany
  exact hok

/-- The conductor shows the cycle as confirmed, and the analysis refuses its observations. -/
theorem confirmedAgain_conflicts : confirmedAgain.Accepted textFormat (env unknown) ∧
    confirmedAgain.intoCurrent.bundle.schedule.slots = [confirmedSlot] ∧
    confirmedAgain.evidence "c1" = (.confirmed, some "A") ∧
    (confirmedAgain.aligned confirmedSlot).status = .conflictingEvidence ∧
    ¬EvidenceAgrees (confirmedAgain.evidence "c1") (confirmedAgain.aligned confirmedSlot) := by
  have hstatus : (confirmedAgain.aligned confirmedSlot).status = .conflictingEvidence := by
    decide
  have hevidence : confirmedAgain.evidence "c1" = (.confirmed, some "A") := by
    decide
  refine ⟨confirmedAgain_accepted, by rfl, hevidence, hstatus, ?_⟩
  intro h
  have hconflicting := h.conflicting.2 hstatus
  rw [hevidence] at hconflicting
  cases hconflicting

/-- The confirmation is retracted. A second cycle is reported bad by a correction, after its
antenna was confirmed as another. -/
def correctedRun : BundleV3Contents :=
  running [cycleIntent "c1" 1 "A", cycleIntent "c2" 2 "B"]
    [startedEvent, armedEvent "e1" "c1" "A" 121,
      runEvent "e2" 130 (some "c1") (.antennaStateConfirmed "A" none),
      runEvent "e3" 140 none (.eventCorrected "e2" .retract "said twice"),
      armedEvent "e4" "c2" "B" 241,
      runEvent "e5" 250 (some "c2") (.antennaStateConfirmed "A" none),
      runEvent "e6" 260 (some "c2") (.slotMissed none),
      runEvent "e7" 270 none (.eventCorrected "e6" (.replace ⟨noon 260, .operatorReported, none,
        some "c2", .slotBad "interference"⟩) "not missed")]

set_option maxRecDepth 20000 in
theorem correctedRun_accepted :
    (ConductedBundle.v3 correctedRun).Accepted textFormat (env unknown) := by
  have hany : (validateV3Model (env unknown) correctedRun).toOption.any (fun _ => true) = true := by
    decide
  obtain ⟨_, hok, -⟩ := exists_ok_of_any hany
  exact hok

/-- The first cycle is confirmed, and both find the facts of the second at odds. -/
theorem correctedRun_agrees :
    (ConductedBundle.v3 correctedRun).intoCurrent.bundle.schedule.slots.map (·.slotId) =
        ["c1", "c2"] ∧
      (∀ slot ∈ (ConductedBundle.v3 correctedRun).intoCurrent.bundle.schedule.slots,
        EvidenceAgrees ((ConductedBundle.v3 correctedRun).evidence slot.slotId)
          ((ConductedBundle.v3 correctedRun).aligned slot)) ∧
      (ConductedBundle.v3 correctedRun).evidence "c1" = (.confirmed, some "A") ∧
      (ConductedBundle.v3 correctedRun).evidence "c2" = (.conflicting, none) := by
  have hslots : (ConductedBundle.v3 correctedRun).intoCurrent.bundle.schedule.slots.map
      (·.slotId) = ["c1", "c2"] := by
    decide
  refine ⟨hslots, ?_, by decide +kernel, by decide +kernel⟩
  intro slot hslot
  apply (slotEvidence_agrees_iff correctedRun_accepted slot).2
  have hid : slot.slotId ∈ ["c1", "c2"] := hslots ▸ List.mem_map_of_mem hslot
  rcases List.mem_pair.1 hid with hid | hid
  · have hactive : ((ConductedBundle.v3 correctedRun).activeFacts "c1").dedup = [] := by
      decide +kernel
    rw [hid, FactsAgree, hactive]
    change (ConductedBundle.v3 correctedRun).keptFacts "c1" = []
    decide +kernel
  · have hactive : ((ConductedBundle.v3 correctedRun).activeFacts "c2").dedup =
        [.antenna "A", .bad] := by
      decide +kernel
    rw [hid, FactsAgree, hactive]
    change 2 ≤ ((ConductedBundle.v3 correctedRun).armedFacts "c2" ++
      (ConductedBundle.v3 correctedRun).keptFacts "c2").length
    decide +kernel

end Scenario

end AntennaBench
