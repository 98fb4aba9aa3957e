import AntennaBench.Core.Alignment
import AntennaBench.Timeline.RunPairs
import AntennaBench.Analysis.OperatorFacts

/-!
# Comparison blocks

The slots of a session are filtered, aligned and cut into same-band runs of
two-slot blocks. A slot that is left out shifts the cut behind it, so the blocks
are those of the plan exactly when no pair that carries both labels was shifted.
-/

namespace AntennaBench

open Timeline

/-- A bundle as it is stored. -/
inductive StoredBundle where
  | v1 (bundle : BundleContents)
  | v2 (bundle : BundleV2Contents)
  | v3 (bundle : BundleV3Contents)

def StoredBundle.current : StoredBundle → BundleContents
  | v1 bundle => bundle
  | v2 bundle => bundle.intoCurrent.bundle
  | v3 bundle => bundle.intoCurrent.bundle

/-- The items whose position is not excluded. -/
def retain {α : Type} (excluded : List ℕ) (items : List α) : List α :=
  (items.zipIdx.filter fun item => !excluded.contains item.2).map (·.1)

/-- The schedule the analysis sees: the plan drops the excluded slots. -/
def analysisSchedule (bundle : BundleContents) (excludedSlots : List ℕ) : Schedule :=
  { bundle.schedule with slots := retain excludedSlots bundle.schedule.slots }

/-- The events the analysis sees: those of a dropped slot go with it. -/
def analysisEvents (bundle : BundleContents) (excludedSlots excludedEvents : List ℕ) :
    List OperatorEvent :=
  let retainedSlotIds := (analysisSchedule bundle excludedSlots).slots.map (·.slotId)
  (retain excludedEvents bundle.events).filter fun event =>
    event.slotId.all retainedSlotIds.contains

/-- The order of `(sequence_number, slot_id)`. -/
def AlignedSlot.Before (a b : AlignedSlot) : Prop :=
  a.sequenceNumber < b.sequenceNumber ∨
    (a.sequenceNumber = b.sequenceNumber ∧ a.slotId ≤ b.slotId)

instance : DecidableRel AlignedSlot.Before := fun _ _ =>
  inferInstanceAs (Decidable (_ ∨ (_ ∧ _)))

/-- The aligned slots of the analysis, in the order the blocks are built in. -/
def analysedSlots (bundle : BundleContents) (excludedSlots excludedEvents : List ℕ) :
    List AlignedSlot :=
  (alignScheduleSlots (analysisSchedule bundle excludedSlots)
    (analysisEvents bundle excludedSlots excludedEvents)
    bundle.observations .default).slots.insertionSort AlignedSlot.Before

inductive ComparisonOrder where
  | leftThenRight
  | rightThenLeft
  deriving DecidableEq

inductive ComparisonBlockEligibility where
  | eligible
  | ambiguousSequenceOrder
  | incompleteSameBandRun
  | missingActualLabel
  | repeatedLabel
  | unsupportedLabel
  deriving DecidableEq

structure ComparisonBlock where
  blockIndex : ℕ
  band : Band
  firstSlotId : String
  firstSequenceNumber : ℕ
  firstStartsAt : DateTime
  firstLabel : Option String
  firstStatus : AlignedSlotStatus
  secondSlotId : Option String
  secondSequenceNumber : Option ℕ
  secondStartsAt : Option DateTime
  secondLabel : Option String
  secondStatus : Option AlignedSlotStatus
  order : Option ComparisonOrder
  eligibility : ComparisonBlockEligibility
  deriving DecidableEq

/-- The antenna labels in schedule order, each once. -/
def scheduledLabels (schedule : Schedule) : List String :=
  schedule.slots.foldl (fun labels slot =>
    if labels.contains slot.antennaLabel then labels else labels ++ [slot.antennaLabel]) []

def blockState (left right : String) (first : AlignedSlot) (second : Option AlignedSlot) :
    Option ComparisonOrder × ComparisonBlockEligibility :=
  match second with
  | none => (none, .incompleteSameBandRun)
  | some second =>
    match first.actualLabel, second.actualLabel with
    | some firstLabel, some secondLabel =>
      if firstLabel = secondLabel then (none, .repeatedLabel)
      else if firstLabel = left ∧ secondLabel = right then (some .leftThenRight, .eligible)
      else if firstLabel = right ∧ secondLabel = left then (some .rightThenLeft, .eligible)
      else (none, .unsupportedLabel)
    | _, _ => (none, .missingActualLabel)

/-- Two neighbours share their sequence number. -/
def hasAmbiguousSequenceOrder : List AlignedSlot → Bool
  | a :: b :: rest => a.sequenceNumber == b.sequenceNumber || hasAmbiguousSequenceOrder (b :: rest)
  | _ => false

def comparisonBlock (state : Option ComparisonOrder × ComparisonBlockEligibility)
    (index : ℕ) (first : AlignedSlot) (second : Option AlignedSlot) : ComparisonBlock where
  blockIndex := index
  band := first.band
  firstSlotId := first.slotId
  firstSequenceNumber := first.sequenceNumber
  firstStartsAt := first.startsAt
  firstLabel := first.actualLabel
  firstStatus := first.status
  secondSlotId := second.map (·.slotId)
  secondSequenceNumber := second.map (·.sequenceNumber)
  secondStartsAt := second.map (·.startsAt)
  secondLabel := second.bind (·.actualLabel)
  secondStatus := second.map (·.status)
  order := state.1
  eligibility := state.2

def buildBlocks (slots : List AlignedSlot) (left right : String) : List ComparisonBlock :=
  (runPairs AlignedSlot.band slots).zipIdx.map fun (pair, index) =>
    comparisonBlock
      (if hasAmbiguousSequenceOrder slots then (none, .ambiguousSequenceOrder)
        else blockState left right pair.1 pair.2)
      index pair.1 pair.2

/-- The blocks of `analyze_paired_comparison`: none for a session that is no comparison. -/
def comparisonBlocks (bundle : BundleContents) (excludedSlots excludedEvents : List ℕ) :
    List ComparisonBlock :=
  if bundle.schedule.mode = .singleAntennaProfiling then []
  else match scheduledLabels (analysisSchedule bundle excludedSlots) with
  | [left, right] => buildBlocks (analysedSlots bundle excludedSlots excludedEvents) left right
  | _ => []

structure PlannedCycle where
  slotId : String
  sequenceNumber : ℕ
  band : Band
  deriving DecidableEq

def PlannedCycle.Before (a b : PlannedCycle) : Prop :=
  a.sequenceNumber < b.sequenceNumber ∨
    (a.sequenceNumber = b.sequenceNumber ∧ a.slotId ≤ b.slotId)

instance : DecidableRel PlannedCycle.Before := fun _ _ =>
  inferInstanceAs (Decidable (_ ∨ (_ ∧ _)))

def PlannedSlot.cycle (slot : PlannedSlot) : PlannedCycle :=
  ⟨slot.slotId, slot.sequenceNumber, slot.band⟩

def WsprCycleIntentV3.cycle (intent : WsprCycleIntentV3) : PlannedCycle :=
  ⟨intent.intentId, intent.sequenceNumber, intent.band⟩

/-- The slots and cycles a bundle plans, armed or not. -/
def StoredBundle.cycles : StoredBundle → List PlannedCycle
  | v1 bundle => bundle.schedule.slots.map (·.cycle)
  | v2 bundle => bundle.schedule.slots.map (·.cycle)
  | v3 bundle =>
    bundle.schedule.slots.map (·.project.cycle) ++ bundle.schedule.wsprCycleIntents.map (·.cycle)

/-- The complete plan, in planned order. -/
def StoredBundle.planned (bundle : StoredBundle) : List PlannedCycle :=
  bundle.cycles.insertionSort PlannedCycle.Before

def ComparisonBlock.slotIds (block : ComparisonBlock) : List String :=
  block.firstSlotId :: block.secondSlotId.toList

/-- The block is made of these two cycles of one band. -/
def ComparisonBlock.Joins (block : ComparisonBlock) (first second : PlannedCycle) : Prop :=
  block.firstSlotId = first.slotId ∧ block.secondSlotId = some second.slotId ∧
    block.band = first.band ∧ first.band = second.band

/-- Every analysed slot is in one block, and an eligible block is a block of two
neighbours of the complete plan. -/
structure NoManufacturedPair (planned : List PlannedCycle) (slots : List AlignedSlot)
    (blocks : List ComparisonBlock) : Prop where
  partition : blocks.flatMap ComparisonBlock.slotIds = slots.map (·.slotId)
  planned : ∀ block ∈ blocks, block.eligibility = .eligible → ∃ first second,
    block.Joins first second ∧ (∃ before after, planned = before ++ first :: second :: after) ∧
      (first, some second) ∈ runPairs PlannedCycle.band planned

/-- The two slots were used with the two labels, one each. -/
def CarryLabels (left right : String) (first second : AlignedSlot) : Prop :=
  first.actualLabel ≠ second.actualLabel ∧
    ((first.actualLabel = some left ∧ second.actualLabel = some right) ∨
      (first.actualLabel = some right ∧ second.actualLabel = some left))

/-- Two cycles stand next to each other in a run of their band, after an even
number of cycles of the run. -/
def EvenPlace (planned : List PlannedCycle) (first second : AlignedSlot) : Prop :=
  ∃ before p q after, planned = before ++ p :: q :: after ∧
    (p.slotId = first.slotId ∧ p.band = first.band) ∧
    (q.slotId = second.slotId ∧ q.band = second.band) ∧
    Even (trailing PlannedCycle.band p.band before)

/-- Neighbours that were used with both labels and stand at an even place of their
run of analysed slots stand at an even place of their planned run too: nothing
between them was left out, and an odd number before them neither left out nor joined. -/
def KeepsPlaces (planned : List PlannedCycle) (slots : List AlignedSlot) (left right : String) :
    Prop :=
  hasAmbiguousSequenceOrder slots = true ∨
    ∀ before first second after, slots = before ++ first :: second :: after →
      first.band = second.band → CarryLabels left right first second →
      Even (trailing AlignedSlot.band first.band before) → EvenPlace planned first second

theorem blockState_eligible {left right : String} {first : AlignedSlot}
    {second : Option AlignedSlot} :
    (blockState left right first second).2 = .eligible ↔
      ∃ other, second = some other ∧ CarryLabels left right first other := by
  unfold blockState CarryLabels
  cases second with
  | none => simp
  | some other =>
    simp only [Option.some.injEq, exists_eq_left']
    generalize first.actualLabel = firstLabel
    generalize other.actualLabel = otherLabel
    rcases firstLabel with - | firstLabel
    · simp
    rcases otherLabel with - | otherLabel
    · simp
    dsimp only
    split_ifs with hsame hleft hright <;> simp_all

theorem buildBlocks_partition (slots : List AlignedSlot) (left right : String) :
    (buildBlocks slots left right).flatMap ComparisonBlock.slotIds = slots.map (·.slotId) := by
  have hids : ∀ entry : (AlignedSlot × Option AlignedSlot) × ℕ, ∀ state,
      (comparisonBlock state entry.2 entry.1.1 entry.1.2).slotIds =
        (entry.1.1 :: entry.1.2.toList).map (·.slotId) := by
    rintro ⟨⟨first, second⟩, index⟩ state
    cases second <;> rfl
  calc (buildBlocks slots left right).flatMap ComparisonBlock.slotIds
      = ((runPairs AlignedSlot.band slots).zipIdx.map (·.1)).flatMap
          fun pair => (pair.1 :: pair.2.toList).map (·.slotId) := by
        rw [buildBlocks, List.flatMap_map, List.flatMap_map]
        exact List.flatMap_congr fun entry _ => hids entry _
    _ = ((runPairs AlignedSlot.band slots).flatMap fun pair => pair.1 :: pair.2.toList).map
          (·.slotId) := by
        rw [List.zipIdx_map_fst, List.map_flatMap]
    _ = slots.map (·.slotId) := by rw [flatMap_runPairs]

theorem mem_buildBlocks {slots : List AlignedSlot} {left right : String}
    {block : ComparisonBlock} :
    block ∈ buildBlocks slots left right ↔ ∃ index first second,
      ((first, second), index) ∈ (runPairs AlignedSlot.band slots).zipIdx ∧
        block = comparisonBlock
          (if hasAmbiguousSequenceOrder slots then (none, .ambiguousSequenceOrder)
            else blockState left right first second) index first second := by
  unfold buildBlocks
  rw [List.mem_map]
  constructor
  · rintro ⟨⟨⟨first, second⟩, index⟩, hmem, rfl⟩
    exact ⟨index, first, second, hmem, rfl⟩
  · rintro ⟨index, first, second, hmem, rfl⟩
    exact ⟨⟨⟨first, second⟩, index⟩, hmem, rfl⟩

theorem EvenPlace.of_joins {planned : List PlannedCycle} {first second : AlignedSlot}
    {state : Option ComparisonOrder × ComparisonBlockEligibility} {index : ℕ} {p q : PlannedCycle}
    (hjoins : (comparisonBlock state index first (some second)).Joins p q)
    (hband : first.band = second.band)
    (hmem : (p, some q) ∈ runPairs PlannedCycle.band planned) : EvenPlace planned first second := by
  obtain ⟨hfirst, hsecond, hp, hq⟩ := hjoins
  obtain ⟨before, after, heq, -, heven⟩ := (mem_runPairs planned).1 hmem
  have hpband : p.band = first.band := hp.symm
  exact ⟨before, p, q, after, heq, ⟨hfirst.symm, hpband⟩,
    ⟨(Option.some.inj hsecond).symm, hq.symm.trans (hpband.trans hband)⟩, heven⟩

theorem noManufacturedPair_iff (planned : List PlannedCycle) (slots : List AlignedSlot)
    (left right : String) :
    NoManufacturedPair planned slots (buildBlocks slots left right) ↔
      KeepsPlaces planned slots left right := by
  constructor
  · intro h
    refine or_iff_not_imp_left.2 fun hambiguous => ?_
    intro before first second after heq hband hcarry heven
    have hmem := (mem_runPairs slots).2 ⟨before, after, heq, hband, heven⟩
    obtain ⟨index, hindex⟩ := List.getElem?_of_mem hmem
    have hblock : comparisonBlock (blockState left right first (some second)) index first
        (some second) ∈ buildBlocks slots left right :=
      mem_buildBlocks.2 ⟨index, first, some second,
        List.mk_mem_zipIdx_iff_getElem?.2 hindex, by rw [if_neg hambiguous]⟩
    obtain ⟨p, q, hjoins, -, hpair⟩ :=
      h.planned _ hblock (blockState_eligible.2 ⟨second, rfl, hcarry⟩)
    exact EvenPlace.of_joins hjoins hband hpair
  · intro h
    refine ⟨buildBlocks_partition slots left right, fun block hblock heligible => ?_⟩
    obtain ⟨index, first, second, hmem, rfl⟩ := mem_buildBlocks.1 hblock
    by_cases hambiguous : hasAmbiguousSequenceOrder slots = true
    · rw [if_pos hambiguous] at heligible
      cases heligible
    · rw [if_neg hambiguous] at heligible ⊢
      obtain ⟨other, rfl, hcarry⟩ := blockState_eligible.1 heligible
      obtain ⟨before, after, heq, hband, heven⟩ :=
        (mem_runPairs slots).1 (List.fst_mem_of_mem_zipIdx hmem)
      obtain ⟨planBefore, p, q, planAfter, hplan, ⟨hp, hpband⟩, ⟨hq, hqband⟩, hplace⟩ :=
        h.resolve_left hambiguous before first other after heq hband hcarry heven
      have hsame : p.band = q.band := hpband.trans (hband.trans hqband.symm)
      exact ⟨p, q, ⟨hp.symm, congrArg some hq.symm, hpband.symm, hsame⟩,
        ⟨planBefore, planAfter, hplan⟩,
        (mem_runPairs planned).2 ⟨planBefore, planAfter, hplan, hsame, hplace⟩⟩

/-- The two labels of a session that is compared. -/
def ComparesLabels (bundle : BundleContents) (excludedSlots : List ℕ)
    (left right : String) : Prop :=
  bundle.schedule.mode ≠ .singleAntennaProfiling ∧
    scheduledLabels (analysisSchedule bundle excludedSlots) = [left, right]

/-- No pair is manufactured exactly when the session is compared, or has nothing to
compare, and the cycles left out keep the places of the pairs that carry both labels. -/
theorem comparisonBlocks_noManufacturedPair_iff (bundle : StoredBundle)
    (excludedSlots excludedEvents : List ℕ) :
    NoManufacturedPair bundle.planned
        (analysedSlots bundle.current excludedSlots excludedEvents)
        (comparisonBlocks bundle.current excludedSlots excludedEvents) ↔
      analysedSlots bundle.current excludedSlots excludedEvents = [] ∨
        ∃ left right, ComparesLabels bundle.current excludedSlots left right ∧
          KeepsPlaces bundle.planned
            (analysedSlots bundle.current excludedSlots excludedEvents) left right := by
  by_cases hcompares : ∃ left right, ComparesLabels bundle.current excludedSlots left right
  · obtain ⟨left, right, hmode, hlabels⟩ := hcompares
    have hblocks : comparisonBlocks bundle.current excludedSlots excludedEvents =
        buildBlocks (analysedSlots bundle.current excludedSlots excludedEvents) left right := by
      rw [comparisonBlocks, if_neg hmode, hlabels]
    rw [hblocks, noManufacturedPair_iff]
    constructor
    · intro h
      exact .inr ⟨left, right, ⟨hmode, hlabels⟩, h⟩
    · rintro (hnil | ⟨left', right', ⟨-, hlabels'⟩, h⟩)
      · exact hnil ▸ .inr (by simp)
      · obtain ⟨rfl, rfl⟩ : left = left' ∧ right = right' := by
          simpa using hlabels.symm.trans hlabels'
        exact h
  · have hblocks : comparisonBlocks bundle.current excludedSlots excludedEvents = [] := by
      unfold comparisonBlocks
      split_ifs with hmode
      · rfl
      · split
        · rename_i left right hlabels
          exact absurd ⟨left, right, hmode, hlabels⟩ hcompares
        · rfl
    rw [hblocks]
    constructor
    · intro h
      exact .inl (List.map_eq_nil_iff.1 h.partition.symm)
    · rintro (hnil | ⟨left, right, hlabels, -⟩)
      · exact ⟨by simp [hnil], by simp⟩
      · exact absurd ⟨left, right, hlabels⟩ hcompares

namespace Scenario

def plannedIntent (intentId : String) (sequenceNumber : ℕ) (antennaLabel : String) :
    WsprCycleIntentV3 :=
  ⟨intentId, sequenceNumber, .m40, antennaLabel, some .transmit, none⟩

def alternatingSchedule : ScheduleV3 where
  schemaVersion := 3
  sessionId := "s1"
  mode := .txFocused
  goal := .dx
  antennaControl := none
  signalPlans := []
  wsprCycleIntents := [plannedIntent "c1" 1 "A", plannedIntent "c2" 2 "B",
    plannedIntent "c3" 3 "A", plannedIntent "c4" 4 "B"]
  slots := []

def armedAt (eventId intentId antennaLabel : String) (startsAt : ℕ) : OperatorEventV3 :=
  ⟨signalMeta, eventId, noon (startsAt - 11), .observedNow, none, some intentId,
    .wsprCycleArmed antennaLabel (noon startsAt) none⟩

/-- Of four cycles on antennas A, B, A, B the operator skips the first. -/
def skippedBundle : BundleV3Contents :=
  { correctedBundle with
    schedule := alternatingSchedule
    events := [signalEvent "e1" none (.sessionStarted none),
      signalEvent "e2" (some "c1") (.slotMissed none), armedAt "e3" "c2" "B" 121,
      armedAt "e4" "c3" "A" 241, armedAt "e5" "c4" "B" 361] }

theorem skippedBundle_blocks :
    (comparisonBlocks skippedBundle.intoCurrent.bundle [] []).map (fun block =>
        (block.firstSlotId, block.secondSlotId, block.eligibility)) =
      [("c2", some "c3", .eligible), ("c4", none, .incompleteSameBandRun)] := by
  decide

theorem skippedBundle_planned :
    (runPairs PlannedCycle.band (StoredBundle.v3 skippedBundle).planned).map (·.1.slotId) =
      ["c1", "c3"] := by
  decide

theorem skippedBundle_manufactured :
    validateV3Model (env unknown) skippedBundle = .ok () ∧
      ¬NoManufacturedPair (StoredBundle.v3 skippedBundle).planned
        (analysedSlots skippedBundle.intoCurrent.bundle [] [])
        (comparisonBlocks skippedBundle.intoCurrent.bundle [] []) := by
  constructor
  · have hany : (validateV3Model (env unknown) skippedBundle).toOption.any
        (fun _ => true) = true := by decide
    obtain ⟨_, hok, -⟩ := exists_ok_of_any hany
    exact hok
  · intro h
    have hmem : ("c2", some "c3", ComparisonBlockEligibility.eligible) ∈
        (comparisonBlocks skippedBundle.intoCurrent.bundle [] []).map fun block =>
          (block.firstSlotId, block.secondSlotId, block.eligibility) := by
      rw [skippedBundle_blocks]
      exact List.mem_cons_self
    obtain ⟨block, hblock, heq⟩ := List.mem_map.1 hmem
    simp only [Prod.mk.injEq] at heq
    obtain ⟨p, q, hjoins, -, hpair⟩ := h.planned block hblock heq.2.2
    have hplanned := List.mem_map_of_mem (f := (·.1.slotId)) hpair
    rw [skippedBundle_planned, ← hjoins.1, heq.1] at hplanned
    exact absurd hplanned (by decide)

end Scenario

end AntennaBench
