import AntennaBench.Scenario.Session
import AntennaBench.Setup.Evenness
import AntennaBench.Setup.Validity
import AntennaBench.Storage.ValidateV2
import AntennaBench.Timeline.Copies

/-!
# Reviewed plans

What a review that keeps a bundle has checked, and what follows for the cycles of the
bundle: they are a valid schedule, and they are even unless a mode with several antennas is
repeated an odd number of times.
-/

namespace AntennaBench

open Timeline

/-- The parts of an accepted review. -/
structure SetupDraft.Accepted (env : SetupEnv) (draft : SetupDraft) (bundle : BundleV3Contents) :
    Prop where
  silent : draft.diagnostics = []
  pending : draft.pendingBundle env = .ok bundle
  creatable : (draft.report env).allows .strictCreation = true
  planned : validateSignalPlanScheduleV3 bundle.station.callsign bundle.schedule = []

theorem SetupDraft.review_accepted {env : SetupEnv} {draft : SetupDraft}
    {bundle : BundleV3Contents} (h : draft.review env = .ok bundle) :
    draft.Accepted env bundle := by
  unfold review at h
  simp only [bind_eq_ok, failIf_eq_ok, pure_eq_ok] at h
  obtain ⟨-, hsilent, kept, hpending, -, hchecks, rfl⟩ := h
  obtain ⟨hallows, herrors⟩ := Bool.or_eq_false_iff.1 hchecks
  refine ⟨by simpa using hsilent, hpending, by simpa using hallows, ?_⟩
  rw [List.any_append, Bool.or_eq_false_iff] at herrors
  rw [List.eq_nil_iff_forall_not_mem]
  intro diagnostic hdiagnostic
  have herror := List.any_eq_false.1 herrors.2 _ (List.mem_map_of_mem hdiagnostic)
  exact herror rfl

/-- Labels that are the same after trimming keep a bundle from being created. -/
theorem validateAntennas_nodup {F : TextFormat} {bundle : BundleContents}
    (h : ∀ diagnostic ∈ Semantics.validateAntennas F bundle,
      diagnostic.blocks .strictCreation = false) :
    (bundle.antennas.antennas.map (·.label)).Nodup := by
  have hdisplaced : ∀ index antenna, bundle.antennas.antennas[index]? = some antenna →
      Semantics.displacedPlace (trim ·.label) bundle.antennas.antennas index (trim antenna.label) =
        none := by
    intro index antenna hantenna
    rw [Option.eq_none_iff_forall_ne_some]
    intro first hfirst
    have hmem : (antenna, index) ∈ bundle.antennas.antennas.zipIdx :=
      List.mem_zipIdx_iff_getElem?.2 hantenna
    have hblocks := h _ (List.mem_flatMap.2 ⟨_, hmem, by
      simp only [hfirst]
      exact List.mem_append_left _ (List.mem_append_left _
        (List.mem_append_right _ List.mem_cons_self))⟩)
    cases hblocks
  rw [List.nodup_iff_getElem?_ne_getElem?]
  intro i j hij hj heq
  have hlength : j < bundle.antennas.antennas.length := by simpa using hj
  have hsecond := List.getElem?_eq_getElem hlength
  have hfirst := List.getElem?_eq_getElem (hij.trans hlength)
  rw [List.getElem?_map, List.getElem?_map, hfirst, hsecond, Option.map_some, Option.map_some,
    Option.some_inj] at heq
  have hnone := hdisplaced j _ hsecond
  have hplace : i ∈ places (trim ·.label) (trim bundle.antennas.antennas[j].label)
      (bundle.antennas.antennas.take j) := by
    rw [mem_places]
    refine ⟨bundle.antennas.antennas[i], ?_, by rw [heq]⟩
    rw [List.getElem?_take_of_lt hij, hfirst]
  rw [Semantics.displacedPlace, List.getLast?_eq_none_iff] at hnone
  rw [hnone] at hplace
  cases hplace

theorem SetupDraft.Accepted.labels_nodup {env : SetupEnv} {draft : SetupDraft}
    {bundle : BundleV3Contents} (h : draft.Accepted env bundle) :
    draft.scheduledLabels.Nodup := by
  have hdiagnostics := (BundleValidationReport.allows_extend.1 h.creatable).2
  have hantennas : (draft.setupAntennas.map (·.label)).Nodup := by
    apply @validateAntennas_nodup env.format (draft.bundleV2 env).intoCurrent.bundle
    intro diagnostic hdiagnostic
    apply hdiagnostics
    unfold semanticDiagnostics
    simp only [List.mem_append]
    tauto
  unfold scheduledLabels
  split_ifs
  · exact hantennas.sublist ((List.take_sublist _ _).map _)
  · exact hantennas

variable {env : SetupEnv} {draft : SetupDraft} {bundle : BundleV3Contents}

theorem mem_numbered {α β : Type} {f : α × ℕ → β} {items : List α} {entry : β × ℕ}
    (h : entry ∈ (items.zipIdx.map f).zipIdx) : ∃ item ∈ items, entry.1 = f (item, entry.2) := by
  rw [List.mem_zipIdx_iff_getElem?, List.getElem?_map, List.getElem?_zipIdx,
    Option.map_map, Option.map_eq_some_iff] at h
  obtain ⟨item, hitem, heq⟩ := h
  refine ⟨item, List.mem_of_getElem? hitem, ?_⟩
  rw [← heq, Function.comp_apply, Nat.zero_add]

theorem zipWith_numbered {α β γ δ : Type} (f : γ → β → δ) (g : α × ℕ → γ) (items : List (α × β))
    (start : ℕ) : List.zipWith f (((items.map (·.1)).zipIdx start).map g) (items.map (·.2)) =
      (items.zipIdx start).map fun entry => f (g (entry.1.1, entry.2)) entry.1.2 := by
  induction items generalizing start with
  | nil => rfl
  | cons item rest ih =>
    rw [List.map_cons, List.map_cons, List.zipIdx_cons, List.zipIdx_cons, List.map_cons,
      List.map_cons, List.zipWith_cons_cons, ih]

def SetupDraft.modeIntent (env : SetupEnv) (draft : SetupDraft)
    (entry : (String × WsprCycleDirection) × ℕ) : WsprCycleIntentV3 :=
  ⟨env.newId "slot" entry.2, entry.2 + 1, draft.band, entry.1.1, some entry.1.2, none⟩

theorem wsprIntents_eq (h : draft.signalPlan = none) :
    draft.wsprIntents env = draft.wsprCycles.zipIdx.map (draft.modeIntent env) := by
  rw [SetupDraft.wsprIntents, SetupDraft.slots, h]
  exact zipWith_numbered _ _ draft.wsprCycles 0

def SetupDraft.signalIntent (env : SetupEnv) (draft : SetupDraft)
    (entry : (String × BlockCycle) × ℕ) : WsprCycleIntentV3 :=
  ⟨env.newId "intent" entry.2, entry.2 + 1, draft.band, entry.1.2.antennaLabel, some .transmit,
    some (signalAllocation entry.1)⟩

/-- The cycles of the plan of a draft, over all its blocks. -/
def SetupDraft.signalCycles (draft : SetupDraft) (plan : SetupSignalPlanDraft) :
    List (String × BlockCycle) :=
  plannedSignalCycles draft.scheduledLabels (signalVariants plan.frequenciesHz) draft.rounds

theorem scheduledLabels_subset (draft : SetupDraft) :
    draft.scheduledLabels ⊆ draft.setupAntennas.map (·.label) := by
  unfold SetupDraft.scheduledLabels
  split_ifs
  · exact List.map_subset _ (List.take_subset _ _)
  · exact List.Subset.refl _

theorem wsprCycles_label {cycle : String × WsprCycleDirection}
    (h : cycle ∈ draft.wsprCycles) : cycle.1 ∈ draft.scheduledLabels := by
  have hmem : cycle.1 ∈ directedAntennas draft.wsprCycles cycle.2 :=
    List.mem_map.2 ⟨cycle, List.mem_filter.2 ⟨h, by simp⟩, rfl⟩
  rw [SetupDraft.wsprCycles, directedAntennas_planned, mem_alternation] at hmem
  exact (mem_directionOrder (List.ne_nil_of_mem hmem.2)).1 hmem.2

theorem signalCycles_label {plan : SetupSignalPlanDraft} {cycle : String × BlockCycle}
    (h : cycle ∈ draft.signalCycles plan) : cycle.2.antennaLabel ∈ draft.scheduledLabels := by
  have hmem := List.mem_map_of_mem (f := (·.2.entry)) h
  rw [SetupDraft.signalCycles, plannedSignalCycles_entries, mem_alternation] at hmem
  exact (List.mem_product.1 hmem.2).1

theorem modeIntent_placed {entry : WsprCycleIntentV3 × ℕ}
    (h : entry ∈ (draft.wsprCycles.zipIdx.map (draft.modeIntent env)).zipIdx) :
    PlacedIntent env "slot" (draft.setupAntennas.map (·.label)) entry.2 entry.1 := by
  obtain ⟨cycle, hcycle, heq⟩ := mem_numbered h
  rw [heq]
  refine ⟨rfl, rfl, scheduledLabels_subset draft (wsprCycles_label hcycle), ?_⟩
  intro hsignal
  cases hsignal

theorem signalIntent_placed {plan : SetupSignalPlanDraft} {entry : WsprCycleIntentV3 × ℕ}
    (h : entry ∈ ((draft.signalCycles plan).zipIdx.map (draft.signalIntent env)).zipIdx) :
    PlacedIntent env "intent" (draft.setupAntennas.map (·.label)) entry.2 entry.1 := by
  obtain ⟨cycle, hcycle, heq⟩ := mem_numbered h
  rw [heq]
  exact ⟨rfl, rfl, scheduledLabels_subset draft (signalCycles_label hcycle), fun _ => rfl⟩

theorem signalVariants_nodup (frequenciesHz : List ℕ) :
    ((signalVariants frequenciesHz).map (·.1)).Nodup := by
  have hids : (signalVariants frequenciesHz).map (·.1) =
      (List.range' 0 frequenciesHz.length).map fun index => "f-" ++ toString (index + 1) := by
    rw [← List.zipIdx_map_snd, signalVariants, List.map_map, List.map_map]
    rfl
  rw [hids]
  apply List.Nodup.map _ List.nodup_range'
  intro a b heq
  have hnumber : a + 1 = b + 1 := toString_inj ((String.append_right_inj _).1 heq)
  omega

/-- What a draft is built into: its intents, placed by one kind of identity. -/
structure SetupDraft.Built (env : SetupEnv) (draft : SetupDraft) (kind : String)
    (intents : List WsprCycleIntentV3) : Prop where
  built : draft.buildBundle env = .ok (draft.planned env intents)
  kept : kind ∈ ["slot", "intent"]
  placed : ∀ entry ∈ intents.zipIdx,
    PlacedIntent env kind (draft.setupAntennas.map (·.label)) entry.2 entry.1
  bound : intents.length < 2 ^ 32

theorem slotCount_le (h : draft.diagnostics = []) : draft.slotCount ≤ maxSetupSlots := by
  have hslots := (List.append_eq_nil_iff.1 h).2
  unfold fieldDiagnosticIf at hslots
  split_ifs at hslots with hmany
  exact not_lt.1 (by simpa using hmany)

theorem built_mode (hsilent : draft.diagnostics = []) (hplan : draft.signalPlan = none) :
    draft.Built env "slot" (draft.wsprCycles.zipIdx.map (draft.modeIntent env)) := by
  refine ⟨?_, by decide, fun _ => modeIntent_placed, ?_⟩
  · rw [SetupDraft.buildBundle, SetupDraft.planned, hplan]
    simp only [wsprIntents_eq hplan]
    rfl
  · have hcount := slotCount_le hsilent
    rw [SetupDraft.slotCount, hplan] at hcount
    rw [List.length_map, List.length_zipIdx]
    exact lt_of_le_of_lt hcount (by decide)

theorem built_signal {plan : SetupSignalPlanDraft} (hplan : draft.signalPlan = some plan)
    {built : BundleV3Contents} (h : draft.buildBundle env = .ok built) :
    draft.Built env "intent" ((draft.signalCycles plan).zipIdx.map (draft.signalIntent env)) := by
  have hbuilt := h
  rw [SetupDraft.buildBundle, hplan] at hbuilt
  simp only [buildV3SetupBundle, bind_eq_ok, failIf_eq_ok, pure_eq_ok] at hbuilt
  obtain ⟨-, hlength, -, -, hbundle⟩ := hbuilt
  refine ⟨?_, by decide, fun _ => signalIntent_placed, ?_⟩
  · rw [h, ← hbundle, SetupDraft.planned, hplan]
    rfl
  · rw [List.length_map, List.length_zipIdx]
    exact not_le.1 (of_decide_eq_false hlength)

/-- The kept bundle is the built one in its final form. -/
theorem SetupDraft.Accepted.built (h : draft.Accepted env bundle) :
    ∃ built, draft.buildBundle env = .ok built ∧
      bundle.station.callsign = built.station.callsign ∧
      bundle.schedule.signalPlans = built.schedule.signalPlans ∧
      bundle.schedule.wsprCycleIntents = built.schedule.wsprCycleIntents ∧
      bundle.schedule.slots = built.schedule.slots := by
  have hpending := h.pending
  simp only [pendingBundle, bind_eq_ok, mapError_eq_ok] at hpending
  obtain ⟨built, hbuilt, hrefresh⟩ := hpending
  obtain ⟨-, hsealed⟩ := refreshV3Checkpoint_eq_ok hrefresh
  refine ⟨built, hbuilt, ?_⟩
  rw [hsealed]
  exact ⟨rfl, rfl, rfl, rfl⟩

theorem validateSignalPlanScheduleV3_congr {callsign : String} {schedule schedule' : ScheduleV3}
    (hplans : schedule.signalPlans = schedule'.signalPlans)
    (hintents : schedule.wsprCycleIntents = schedule'.wsprCycleIntents)
    (hslots : schedule.slots = schedule'.slots) :
    validateSignalPlanScheduleV3 callsign schedule =
      validateSignalPlanScheduleV3 callsign schedule' := by
  unfold validateSignalPlanScheduleV3
  rw [hplans, hintents, hslots]

theorem SetupDraft.Accepted.intents {kind : String} {intents : List WsprCycleIntentV3}
    (h : draft.Accepted env bundle) (hbuilt : draft.Built env kind intents) :
    bundle.schedule.wsprCycleIntents = intents := by
  obtain ⟨built, hbundle, -, -, hintents, -⟩ := h.built
  rw [hbuilt.built] at hbundle
  rw [hintents, ← Except.ok.inj hbundle]
  rfl

theorem SetupDraft.Accepted.valid {kind : String} {intents : List WsprCycleIntentV3}
    (h : draft.Accepted env bundle) (hids : env.FreshIds) (hbuilt : draft.Built env kind intents) :
    validateV3Model env.storage (draft.planned env intents) = .ok () := by
  obtain ⟨built, hbundle, hcallsign, hplans, hintents, hslots⟩ := h.built
  rw [hbuilt.built] at hbundle
  obtain rfl : draft.planned env intents = built := Except.ok.inj hbundle
  apply validateV3Model_planned hids hbuilt.kept hbuilt.placed hbuilt.bound
  have hsilent := h.planned
  rw [hcallsign, validateSignalPlanScheduleV3_congr hplans hintents hslots] at hsilent
  exact hsilent

/-- The number of blocks of an accepted signal plan is even. -/
theorem SetupDraft.Accepted.even_rounds (h : draft.Accepted env bundle)
    (hplan : draft.signalPlan.isSome = true) : draft.rounds % 2 = 0 := by
  have hsilent := (List.append_eq_nil_iff.1 (List.append_eq_nil_iff.1 h.silent).1).2
  unfold fieldDiagnosticIf at hsilent
  rw [hplan, Bool.true_and] at hsilent
  split_ifs at hsilent with hodd
  simpa using hodd

/-- A mode with fewer than two antennas to compare is single-antenna profiling. -/
theorem SetupDraft.Accepted.labels_length (h : draft.Accepted env bundle) :
    draft.scheduledLabels.length ≤ 1 ↔ draft.mode = .singleAntennaProfiling := by
  have hsilent := h.silent
  simp only [diagnostics, List.append_eq_nil_iff] at hsilent
  have hminimum := hsilent.1.1.1.1.1.2
  unfold fieldDiagnosticIf at hminimum
  split_ifs at hminimum with hfew
  have hantennas : draft.minimumAntennas ≤ draft.antennas.length := by simpa using hfew
  unfold minimumAntennas at hantennas
  unfold scheduledLabels setupAntennas
  by_cases hmode : draft.mode = .singleAntennaProfiling
  · rw [if_pos hmode, List.length_map, List.length_take]
    exact ⟨fun _ => hmode, fun _ => min_le_left _ _⟩
  · rw [if_neg hmode] at hantennas ⊢
    rw [List.length_map, List.length_take]
    constructor
    · intro hone
      have hfew : min maxSetupAntennas draft.antennas.length ≤ 1 := hone
      unfold maxSetupAntennas at hfew
      omega
    · intro hsingle
      exact absurd hsingle hmode

theorem SetupDraft.Accepted.plannedEvenly_signal {plan : SetupSignalPlanDraft}
    (h : draft.Accepted env bundle) (hplan : draft.signalPlan = some plan)
    (hbuilt : draft.Built env "intent"
      ((draft.signalCycles plan).zipIdx.map (draft.signalIntent env))) :
    PlannedEvenly draft.scheduledLabels bundle.schedule := by
  have hcycles : bundle.schedule.wsprCycleIntents.map (·.plan) =
      (draft.signalCycles plan).map fun cycle =>
        (cycle.2.antennaLabel, some .transmit, some (signalAllocation cycle)) := by
    rw [h.intents hbuilt, List.map_map, ← List.zipIdx_map_fst 0 (draft.signalCycles plan),
      List.map_map, List.zipIdx_map_fst]
    rfl
  have heven := h.even_rounds (by rw [hplan]; rfl)
  exact AntennaBench.plannedEvenly_signal hcycles h.labels_nodup
    (signalVariants_nodup plan.frequenciesHz) heven

theorem SetupDraft.Accepted.plannedEvenly_mode (h : draft.Accepted env bundle)
    (hbuilt : draft.Built env "slot" (draft.wsprCycles.zipIdx.map (draft.modeIntent env))) :
    PlannedEvenly draft.scheduledLabels bundle.schedule ↔
      draft.rounds % 2 = 0 ∨ draft.mode = .singleAntennaProfiling := by
  have hcycles : bundle.schedule.wsprCycleIntents.map (·.plan) =
      draft.wsprCycles.map fun cycle => (cycle.1, some cycle.2, none) := by
    rw [h.intents hbuilt, List.map_map, ← List.zipIdx_map_fst 0 draft.wsprCycles, List.map_map,
      List.zipIdx_map_fst]
    rfl
  rw [← h.labels_length]
  exact AntennaBench.plannedEvenly_mode hcycles h.labels_nodup

/-- An accepted plan is valid, and its cycles are even exactly if they belong to a signal plan,
to an even number of rounds or to one antenna. -/
theorem review_plannedEvenly_iff (hids : env.FreshIds) (h : draft.review env = .ok bundle) :
    (PlannedEvenly draft.scheduledLabels bundle.schedule ∧
      ∃ built, draft.buildBundle env = .ok built ∧
        built.schedule.wsprCycleIntents = bundle.schedule.wsprCycleIntents ∧
        validateV3Model env.storage built = .ok ()) ↔
      draft.signalPlan.isSome = true ∨ draft.rounds % 2 = 0 ∨
        draft.mode = .singleAntennaProfiling := by
  have haccepted := SetupDraft.review_accepted h
  cases hplan : draft.signalPlan with
  | some plan =>
    obtain ⟨built, hbundle, -⟩ := haccepted.built
    have hbuilt := built_signal hplan hbundle
    exact ⟨fun _ => Or.inl rfl, fun _ => ⟨haccepted.plannedEvenly_signal hplan hbuilt, _,
      hbuilt.built, (haccepted.intents hbuilt).symm, haccepted.valid hids hbuilt⟩⟩
  | none =>
    have hbuilt : draft.Built env "slot" (draft.wsprCycles.zipIdx.map (draft.modeIntent env)) :=
      built_mode haccepted.silent hplan
    have hevenly := haccepted.plannedEvenly_mode hbuilt
    constructor
    · rintro ⟨heven, -⟩
      exact Or.inr (hevenly.1 heven)
    · rintro (hsome | hcondition)
      · cases hsome
      · exact ⟨hevenly.2 hcondition, _, hbuilt.built, (haccepted.intents hbuilt).symm,
          haccepted.valid hids hbuilt⟩

namespace Scenario

def intentJson (intent : WsprCycleIntentV3) : JsonText :=
  .object [("intent_id", .string intent.intentId), ("sequence_number", .nat intent.sequenceNumber),
    ("band", .string intent.band.text), ("antenna_label", .string intent.antennaLabel),
    ("direction", .string (if intent.direction = some .receive then "receive" else "transmit"))]

/-- A manual schedule whose intents carry a direction and no allocation. -/
def plannedScheduleJson (schedule : ScheduleV3) : JsonText :=
  .object [("schema_version", .nat schedule.schemaVersion),
    ("session_id", .string schedule.sessionId), ("mode", .string schedule.mode.text),
    ("goal", .string schedule.goal.text), ("antenna_control", AntennaControlPolicyV5.manual.json),
    ("wspr_cycle_intents", .array (schedule.wsprCycleIntents.map intentJson))]

/-- Antennas A and B, transmitting on 20 m for a number of rounds. -/
def transmitDraft (rounds : ℕ) : SetupDraft where
  callsign := "K1ABC"
  grid := "FN42"
  powerWatts := none
  operatorNotes := none
  antennas := [antenna "A", antenna "B"]
  mode := .txFocused
  goal := .dx
  band := .m20
  rounds := rounds
  wsprLiveAcquisitionEnabled := false
  signalPlan := none
  controllerPolicy := none

def setupId (kind : String) (index : ℕ) : String := kind ++ "-" ++ toString index

def setupStation : Station := ⟨6, "session-0", "K1ABC", "FN42", none, none⟩

def setupAntennas : AntennasFile := ⟨6, "session-0", [antenna "A", antenna "B"]⟩

def setupSchedule (labels : List String) : ScheduleV3 where
  schemaVersion := 6
  sessionId := "session-0"
  mode := .txFocused
  goal := .dx
  antennaControl := some .manual
  signalPlans := []
  wsprCycleIntents := labels.zipIdx.map fun (label, index) =>
    ⟨setupId "slot" index, index + 1, .m20, label, some .transmit, none⟩
  slots := []

def setupContext : RuntimeContextV6 := { context with mutation := ⟨"mutation-0", 0, 1⟩ }

def setupStationSha256 : String :=
  "8db4741cb8679133" ++ "8971667e3613cf05" ++ "2451f3689bbd04b7" ++ "ddb858cf74fa9dfa"
def setupAntennasSha256 : String :=
  "de7fd74d8e6814e9" ++ "4f39210b25e828b1" ++ "6efbec1e09f7eaa9" ++ "e017124ec0c68449"
def oneRoundSha256 : String :=
  "1923213d82bc1c70" ++ "954163213062621f" ++ "43f8422567e75a91" ++ "cc6b23451fa1691c"
def twoRoundsSha256 : String :=
  "df3e85bcf4cb43b9" ++ "53c75d1b35c18d3e" ++ "28f6ede6ac37ed0b" ++ "366c292799dcc3d7"

def setupDigests : List (Bytes × String) :=
  [(document setupStation.json, setupStationSha256),
    (document setupAntennas.json, setupAntennasSha256),
    (document (plannedScheduleJson (setupSchedule ["A", "B"])), oneRoundSha256),
    (document (plannedScheduleJson (setupSchedule ["A", "B", "B", "A"])), twoRoundsSha256),
    (stringBytes (setupStationSha256 ++ "\n" ++ setupAntennasSha256 ++ "\n" ++ oneRoundSha256),
      "3864d84db766c001" ++ "a7f9491379da828a" ++ "8aa4870d3eec8822" ++ "2e53ee08225a83c0"),
    (stringBytes (setupStationSha256 ++ "\n" ++ setupAntennasSha256 ++ "\n" ++ twoRoundsSha256),
      "e6fc8ac61dbe621a" ++ "13c88b8cda220c13" ++ "657369b5c2acf939" ++ "acc6fb9aad5f6504"),
    (setupContext.json.compact ++ [newline],
      "04131e48994405af" ++ "d7d5f0e27a4ee72a" ++ "736bf4cd0732cdda" ++ "5b58da75f36b7a9d")]

def setupEnv : SetupEnv where
  storage := { Scenario.env ⟨[], [], [], setupDigests⟩ with
    scheduleV3 := .ofValues plannedScheduleJson [] }
  format := ⟨fun text => text, fun _ => "", fun _ => "", fun _ => "", fun _ => ""⟩
  newId := setupId
  now := noon 0
  appVersion := "0.1.0"
  build := build
  platform := platform

theorem setupEnv_freshIds : setupEnv.FreshIds where
  distinct := by
    intro kind a b h
    have hids : kind ++ "-" ++ toString a = kind ++ "-" ++ toString b := h
    exact toString_inj ((String.append_right_inj _).1 hids)
  written := by
    intro kind hkind index
    have hprefix : kind.toList ≠ [] ∧
        (kind.toList.all fun c => !isWhitespace c && c.toNat < 128) = true := by
      simp only [List.mem_cons, List.not_mem_nil, or_false] at hkind
      rcases hkind with rfl | rfl <;> decide
    have hplain : ∀ c ∈ (setupId kind index).toList, isWhitespace c = false ∧ c.toNat < 128 := by
      intro c hc
      simp only [setupId, String.toList_append, List.mem_append] at hc
      rcases hc with (hc | hc) | hc
      · simpa using List.all_eq_true.1 hprefix.2 c hc
      · obtain rfl : c = '-' := by simpa using hc
        decide
      · have hdigit := toString_isDigit hc
        refine ⟨isWhitespace_of_isDigit hdigit, ?_⟩
        rw [Char.isDigit, Bool.and_eq_true, decide_eq_true_eq, decide_eq_true_eq] at hdigit
        have hhigh : c.toNat ≤ 57 := UInt32.le_iff_toNat_le.1 hdigit.2
        omega
    have htrim : trim (setupId kind index) = setupId kind index :=
      trim_eq_self fun c hc => (hplain c hc).1
    have hid : setupEnv.newId kind index = setupId kind index := rfl
    rw [hid, isBlank, isTrimmed, isAscii, htrim]
    refine ⟨?_, beq_self_eq_true _, ?_⟩
    · rw [setupId, String.isEmpty_eq_false_iff]
      simp
    · rw [List.all_eq_true]
      intro c hc
      exact decide_eq_true (hplain c hc).2

set_option maxRecDepth 20000 in
theorem transmitDraft_accepted : ∀ rounds ∈ [1, 2],
    ((transmitDraft rounds).review setupEnv).toOption.any (fun _ => true) = true := by
  decide

/-- One round of two antennas transmits from A early and from B late. -/
theorem oneRound_uneven : ∃ bundle, (transmitDraft 1).review setupEnv = .ok bundle ∧
    ¬PlannedEvenly (transmitDraft 1).scheduledLabels bundle.schedule := by
  obtain ⟨bundle, hbundle, -⟩ := exists_ok_of_any (transmitDraft_accepted 1 (by decide))
  have haccepted := SetupDraft.review_accepted hbundle
  have hbuilt : (transmitDraft 1).Built setupEnv "slot"
      ((transmitDraft 1).wsprCycles.zipIdx.map ((transmitDraft 1).modeIntent setupEnv)) :=
    built_mode haccepted.silent rfl
  refine ⟨bundle, hbundle, ?_⟩
  rw [haccepted.plannedEvenly_mode hbuilt]
  decide

theorem twoRounds_plannedEvenly : ∃ bundle, (transmitDraft 2).review setupEnv = .ok bundle ∧
    PlannedEvenly (transmitDraft 2).scheduledLabels bundle.schedule ∧
    ∃ built, (transmitDraft 2).buildBundle setupEnv = .ok built ∧
      built.schedule.wsprCycleIntents = bundle.schedule.wsprCycleIntents ∧
      validateV3Model setupEnv.storage built = .ok () := by
  obtain ⟨bundle, hbundle, -⟩ := exists_ok_of_any (transmitDraft_accepted 2 (by decide))
  exact ⟨bundle, hbundle, (review_plannedEvenly_iff setupEnv_freshIds hbundle).2 (by decide)⟩

end Scenario

end AntennaBench
