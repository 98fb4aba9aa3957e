import AntennaBench.Setup.Plans
import AntennaBench.Storage.PlanV3

/-!
# Validity of planned schedules

Intents that are numbered one after the other, with fresh identities and known antennas,
pass the checks of the model, in a bundle that holds no record yet.
-/

namespace AntennaBench

/-- The identities of intents are new, and text that the checks allow. -/
structure SetupEnv.FreshIds (env : SetupEnv) : Prop where
  distinct : ∀ kind, Function.Injective (env.newId kind)
  written : ∀ kind ∈ ["slot", "intent"], ∀ index, isBlank (env.newId kind index) = false ∧
    isTrimmed (env.newId kind index) = true ∧ isAscii (env.newId kind index) = true

/-- The intent that setup places at an index. -/
structure PlacedIntent (env : SetupEnv) (kind : String) (labels : List String) (index : ℕ)
    (intent : WsprCycleIntentV3) : Prop where
  id : intent.intentId = env.newId kind index
  number : intent.sequenceNumber = index + 1
  antenna : intent.antennaLabel ∈ labels
  transmits : intent.signal.isSome = true → intent.direction = some .transmit

/-- The scan has met the intents before an index. -/
structure IntentScan.Met (env : SetupEnv) (kind : String) (scan : IntentScan) (index : ℕ) :
    Prop where
  place : scan.index = index
  ids : ∀ id ∈ scan.ids, ∃ earlier < index, id = env.newId kind earlier
  sequences : ∀ number ∈ scan.sequences, number ≤ index

variable {env : SetupEnv} {kind : String} {labels : List String} {bundle : BundleV3Contents}

theorem validateIntent_placed (hids : env.FreshIds) (hkind : kind ∈ ["slot", "intent"])
    (hschema : bundle.manifest.schemaVersion = schemaVersionV3) {scan : IntentScan} {index : ℕ}
    (hscan : scan.Met env kind index) {intent : WsprCycleIntentV3}
    (h : PlacedIntent env kind labels index intent) (hbound : index + 1 < 2 ^ 32) :
    ∃ next, validateIntent bundle labels scan intent = .ok next ∧
      next.Met env kind (index + 1) := by
  obtain ⟨hblank, htrimmed, hascii⟩ := hids.written kind hkind index
  have hnew : scan.ids.contains intent.intentId = false := by
    rw [List.contains_eq_mem, decide_eq_false_iff_not, h.id]
    intro hmem
    obtain ⟨earlier, hearlier, heq⟩ := hscan.ids _ hmem
    have hsame := hids.distinct kind heq
    omega
  have hnumber : scan.sequences.contains intent.sequenceNumber = false := by
    rw [List.contains_eq_mem, decide_eq_false_iff_not, h.number]
    intro hmem
    have hle := hscan.sequences _ hmem
    omega
  have hknown : labels.contains intent.antennaLabel = true := by
    simpa using h.antenna
  have hdirection : (intent.signal.isSome && intent.direction == some .receive) = false := by
    cases hsignal : intent.signal.isSome with
    | false => rfl
    | true =>
      rw [h.transmits hsignal]
      rfl
  refine ⟨⟨index + 1, intent.intentId :: scan.ids, intent.sequenceNumber :: scan.sequences⟩,
    ?_, rfl, ?_, ?_⟩
  · unfold validateIntent
    rw [hschema, hnew, hnumber, hknown, hdirection, hscan.place, h.id, hblank, htrimmed, hascii,
      h.number]
    have hmin : min (index + 1) (2 ^ 32 - 1) = index + 1 := by omega
    simp only [hmin, bind_eq_ok, failIf_eq_ok]
    simp [schemaVersionV3, schemaVersionV4, schemaVersionV5]
  · intro id hid
    rcases List.mem_cons.1 hid with rfl | hid
    · exact ⟨index, by omega, h.id⟩
    · obtain ⟨earlier, hearlier, heq⟩ := hscan.ids id hid
      exact ⟨earlier, by omega, heq⟩
  · intro number hnumber
    rcases List.mem_cons.1 hnumber with rfl | hnumber
    · exact h.number.le
    · have hle := hscan.sequences number hnumber
      omega

theorem validateIntents_placed (hids : env.FreshIds) (hkind : kind ∈ ["slot", "intent"])
    (hschema : bundle.manifest.schemaVersion = schemaVersionV3)
    {intents : List WsprCycleIntentV3} {start : ℕ}
    (h : ∀ entry ∈ intents.zipIdx start, PlacedIntent env kind labels entry.2 entry.1)
    (hbound : start + intents.length < 2 ^ 32) {scan : IntentScan}
    (hscan : scan.Met env kind start) :
    ∃ final, intents.foldlM (validateIntent bundle labels) scan = .ok final := by
  induction intents generalizing start scan with
  | nil => exact ⟨scan, rfl⟩
  | cons intent rest ih =>
    rw [List.length_cons] at hbound
    rw [List.zipIdx_cons, List.forall_mem_cons] at h
    obtain ⟨next, hnext, hmet⟩ := validateIntent_placed hids hkind hschema hscan h.1 (by omega)
    obtain ⟨final, hfinal⟩ := ih h.2 (by omega) hmet
    refine ⟨final, ?_⟩
    rw [List.foldlM_cons, hnext, ok_bind]
    exact hfinal

/-- The upgraded bundle of a draft with these intents in place of its slots. -/
def SetupDraft.planned (env : SetupEnv) (draft : SetupDraft) (intents : List WsprCycleIntentV3) :
    BundleV3Contents :=
  let upgraded := upgradeV2BundleModel (draft.bundleV2 env)
  { upgraded with schedule := { upgraded.schedule with
    signalPlans := draft.signalPlan.toList.map (·.signalPlan)
    slots := []
    wsprCycleIntents := intents } }

theorem validateSchedule_planned {draft : SetupDraft} {intents : List WsprCycleIntentV3}
    (hids : env.FreshIds) (hkind : kind ∈ ["slot", "intent"])
    (hplaced : ∀ entry ∈ intents.zipIdx,
      PlacedIntent env kind (draft.setupAntennas.map (·.label)) entry.2 entry.1)
    (hbound : intents.length < 2 ^ 32)
    (hsilent : validateSignalPlanScheduleV3 draft.callsign (draft.planned env intents).schedule =
      []) :
    validateSchedule (draft.planned env intents) = .ok () := by
  have hscan : IntentScan.Met env kind ⟨0, [], []⟩ 0 := by
    refine ⟨rfl, ?_, ?_⟩ <;> simp
  have hschema : (draft.planned env intents).manifest.schemaVersion = schemaVersionV3 := rfl
  obtain ⟨final, hfinal⟩ := validateIntents_placed hids hkind hschema hplaced (by omega) hscan
  unfold validateSchedule
  simp only [bind_eq_ok]
  refine ⟨(), ?_, final, hfinal, ?_⟩
  · have hcallsign : (draft.planned env intents).station.callsign = draft.callsign := rfl
    rw [hcallsign, hsilent]
    rfl
  · rfl

/-- The planned bundle of a draft has a valid model once its intents are placed. -/
theorem validateV3Model_planned {draft : SetupDraft} {intents : List WsprCycleIntentV3}
    (hids : env.FreshIds) (hkind : kind ∈ ["slot", "intent"])
    (hplaced : ∀ entry ∈ intents.zipIdx,
      PlacedIntent env kind (draft.setupAntennas.map (·.label)) entry.2 entry.1)
    (hbound : intents.length < 2 ^ 32)
    (hsilent : validateSignalPlanScheduleV3 draft.callsign (draft.planned env intents).schedule =
      []) :
    validateV3Model env.storage (draft.planned env intents) = .ok () := by
  have hschedule := validateSchedule_planned hids hkind hplaced hbound hsilent
  have hcontexts : validateRuntimeContextsV6 env.storage (draft.planned env intents) = .ok () :=
    rfl
  have hidentities : (documentIdentities (draft.planned env intents)).forM
      (validateDocumentIdentity (draft.planned env intents)) = .ok () := by
    rw [forM_eq_ok]
    intro document hdocument
    rw [validateDocumentIdentity, failIf_eq_ok]
    simp only [documentIdentities, List.mem_cons, List.not_mem_nil, or_false] at hdocument
    rcases hdocument with rfl | rfl | rfl | rfl | rfl | rfl <;>
      simp [SetupDraft.planned, upgradeV2BundleModel, SetupDraft.bundleV2]
  unfold validateV3Model
  rw [hcontexts, hidentities, hschedule]
  rfl

end AntennaBench
