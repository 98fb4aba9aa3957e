import AntennaBench.Core.Validation
import AntennaBench.Storage.LegacyUpgrade
import AntennaBench.Storage.Upgrade
import AntennaBench.Timeline.Groups

/-!
# Setup plans

`build_review` from the parsed draft on: the checks of the draft, the cycles of the
experiment mode, the blocks of a controlled-signal plan, and the bundle that setup keeps for
creation. The text fields of a draft are trimmed and its numbers read before.
-/

namespace AntennaBench

def maxSetupAntennas : ℕ := 16
def maxSetupSlots : ℕ := 256
def maxSetupRounds : ℕ := 128

structure SetupDiagnostic where
  code : String
  field : String
  message : String
  severity : BundleDiagnosticSeverity
  deriving DecidableEq

/-- A controlled-signal plan as the draft has it: each entry of the frequency list is read,
or is no number. -/
structure SetupSignalPlanDraft where
  mode : SignalModeV3
  collectionProfile : SignalCollectionProfileV3
  plannedPowerWatts : Option IeeeFloat
  transmittedCallsign : String
  differingIdentityValidated : Bool
  message : String
  repetitionCount : ℕ
  keySpeedWpm : Option ℕ
  transmitSeconds : ℕ
  intervalSeconds : ℕ
  frequencies : List (Option ℕ)

structure SetupDraft where
  callsign : String
  grid : String
  powerWatts : Option IeeeFloat
  operatorNotes : Option String
  antennas : List Antenna
  mode : ExperimentMode
  goal : SessionGoal
  band : Band
  rounds : ℕ
  wsprLiveAcquisitionEnabled : Bool
  signalPlan : Option SetupSignalPlanDraft
  /-- The policy a prepared antenna controller sets. -/
  controllerPolicy : Option AntennaControlPolicyV5

def fieldDiagnosticIf (condition : Bool) (code field message : String) : List SetupDiagnostic :=
  if condition then [⟨code, field, message, .error⟩] else []

/-- The frequencies of the plan, sorted and without repetitions. -/
def SetupSignalPlanDraft.frequenciesHz (plan : SetupSignalPlanDraft) : List ℕ :=
  Timeline.sortedKeys (plan.frequencies.filterMap fun frequency => frequency.filter (0 < ·))

/-- The diagnostics of `parse_signal_plan` about values that were read. -/
def SetupSignalPlanDraft.diagnostics (plan : SetupSignalPlanDraft) : List SetupDiagnostic :=
  fieldDiagnosticIf plan.transmittedCallsign.isEmpty "setup.wire.required"
      "signalPlan.transmittedCallsign" "Exact transmitted callsign is required" ++
    fieldDiagnosticIf plan.message.isEmpty "setup.wire.required" "signalPlan.message"
      "The transmitted message is required" ++
    plan.frequencies.zipIdx.flatMap (fun (frequency, index) =>
      fieldDiagnosticIf (!frequency.any (0 < ·)) "setup.wire.invalid_frequency"
        "signalPlan.frequenciesHz"
        ("Frequency " ++ toString (index + 1) ++ " must be a positive integer in hertz")) ++
    fieldDiagnosticIf plan.frequenciesHz.isEmpty "setup.wire.required"
      "signalPlan.frequenciesHz" "At least one exact frequency is required" ++
    fieldDiagnosticIf (32 < plan.frequenciesHz.length) "setup.resource.too_many_frequencies"
      "signalPlan.frequenciesHz" "At most 32 exact frequency variants are supported" ++
    fieldDiagnosticIf (plan.mode == .cw && plan.keySpeedWpm.isNone) "setup.wire.required"
      "signalPlan.keySpeedWpm" "CW plans require a key speed"

/-- `planned_wspr_cycles`. -/
def plannedWsprCycles (antennaLabels : List String) (mode : ExperimentMode) (repetitions : ℕ) :
    List (String × WsprCycleDirection) :=
  (List.range repetitions).flatMap fun repetition =>
    let (first, second) := if repetition % 2 = 0 then (antennaLabels, antennaLabels.reverse)
      else (antennaLabels.reverse, antennaLabels)
    match mode with
    | .wholeStationAb | .singleAntennaProfiling =>
      first.map (·, .receive) ++ second.map (·, .transmit)
    | .txFocused => first.map (·, .transmit)
    | .rxFocused => first.map (·, .receive)

namespace SetupDraft

def minimumAntennas (draft : SetupDraft) : ℕ :=
  if draft.mode = .singleAntennaProfiling then 1 else 2

/-- The antennas of the bundle. -/
def setupAntennas (draft : SetupDraft) : List Antenna :=
  draft.antennas.take maxSetupAntennas

/-- The antennas the schedule goes through. -/
def scheduledLabels (draft : SetupDraft) : List String :=
  (if draft.mode = .singleAntennaProfiling then draft.setupAntennas.take 1
    else draft.setupAntennas).map (·.label)

def wsprCycles (draft : SetupDraft) : List (String × WsprCycleDirection) :=
  plannedWsprCycles draft.scheduledLabels draft.mode draft.rounds

def slotCount (draft : SetupDraft) : ℕ :=
  match draft.signalPlan with
  | some plan => draft.rounds * draft.scheduledLabels.length * plan.frequenciesHz.length
  | none => draft.wsprCycles.length

def diagnostics (draft : SetupDraft) : List SetupDiagnostic :=
  fieldDiagnosticIf (maxSetupAntennas < draft.antennas.length)
      "setup.resource.too_many_antennas" "antennas"
      ("Setup supports at most " ++ toString maxSetupAntennas ++ " antennas") ++
    fieldDiagnosticIf (draft.antennas.length < draft.minimumAntennas)
      "setup.structure.minimum_antennas" "antennas"
      ("This experiment mode requires at least " ++ toString draft.minimumAntennas ++
        " antenna entries") ++
    fieldDiagnosticIf (draft.rounds == 0 || maxSetupRounds < draft.rounds)
      "setup.resource.invalid_round_count" "schedule.rounds"
      ("Schedule rounds must be between 1 and " ++ toString maxSetupRounds) ++
    draft.signalPlan.toList.flatMap (·.diagnostics) ++
    fieldDiagnosticIf (draft.signalPlan.isSome && draft.wsprLiveAcquisitionEnabled)
      "setup.signal_plan.wspr_live_conflict" "wsprLiveAcquisitionEnabled"
      ("WSPR.live acquisition applies only to WSPR sessions, not controlled CW/RTTY " ++
        "plans") ++
    fieldDiagnosticIf (draft.signalPlan.isSome && draft.rounds % 2 != 0)
      "setup.signal_plan.unbalanced_rounds" "schedule.rounds"
      "Controlled signal plans require an even number of counterbalance blocks" ++
    fieldDiagnosticIf (maxSetupSlots < draft.slotCount) "setup.resource.too_many_slots"
      "schedule.rounds"
      ("The normalized schedule may contain at most " ++ toString maxSetupSlots ++ " slots")

end SetupDraft

/-- One cycle of a block: its position, antenna, variant and frequency. -/
structure BlockCycle where
  position : ℕ
  antennaLabel : String
  frequencyVariantId : String
  frequencyHz : ℕ
  deriving DecidableEq

/-- The variants `f-1`, `f-2`, … of the frequencies. -/
def signalVariants (frequenciesHz : List ℕ) : List (String × ℕ) :=
  frequenciesHz.zipIdx.map fun (frequencyHz, index) => ("f-" ++ toString (index + 1), frequencyHz)

/-- The cycles of a block: antennas by variants, backwards in every second block. -/
def blockCycles (antennaLabels : List String) (variants : List (String × ℕ)) (blockIndex : ℕ) :
    List BlockCycle :=
  let blockSize := antennaLabels.length * variants.length
  let pairs := antennaLabels.zipIdx.flatMap fun (antennaLabel, antennaIndex) =>
    variants.zipIdx.map fun ((variantId, frequencyHz), variantIndex) =>
      let forward := antennaIndex * variants.length + variantIndex
      let position := if blockIndex % 2 = 0 then forward else blockSize - 1 - forward
      BlockCycle.mk position antennaLabel variantId frequencyHz
  Timeline.sortOn (·.position) pairs

def blockId (blockIndex : ℕ) : String := "block-" ++ toString (blockIndex + 1)

/-- The cycles of all blocks, each with the identity of its block. -/
def plannedSignalCycles (antennaLabels : List String) (variants : List (String × ℕ))
    (blocks : ℕ) : List (String × BlockCycle) :=
  (List.range blocks).flatMap fun blockIndex =>
    (blockCycles antennaLabels variants blockIndex).map (blockId blockIndex, ·)

def signalPlanId : SignalPlanIdV3 := "primary"

def signalAllocation (cycle : String × BlockCycle) : SignalAllocationV3 where
  signalPlanId := signalPlanId
  frequencyHz := cycle.2.frequencyHz
  frequencyVariantId := cycle.2.frequencyVariantId
  counterbalanceBlockId := cycle.1
  counterbalancePosition := cycle.2.position

def SetupSignalPlanDraft.signalPlan (plan : SetupSignalPlanDraft) : SignalPlanV3 where
  signalPlanId := AntennaBench.signalPlanId
  mode := plan.mode
  plannedPowerWatts := plan.plannedPowerWatts
  transmittedCallsign := plan.transmittedCallsign
  differingIdentityValidated := plan.differingIdentityValidated
  cadence := ⟨plan.message, plan.repetitionCount, plan.keySpeedWpm, plan.transmitSeconds,
    plan.intervalSeconds⟩
  collectionProfile := plan.collectionProfile

/-- What setup takes from the process: fresh identities by kind, the clock and the build. -/
structure SetupEnv where
  storage : Env
  format : TextFormat
  newId : String → ℕ → String
  now : DateTime
  appVersion : String
  build : BuildIdentityV6
  platform : RuntimePlatformV6

inductive SetupError where
  | rejected (diagnostics : List SetupDiagnostic)
  | reportPipeline (message : String)
  | store (error : BundleStoreError)

section

variable (env : SetupEnv)

/-- `build_v3_setup_bundle`. -/
def buildV3SetupBundle (bundle : BundleV2Contents) (plan : SetupSignalPlanDraft)
    (antennaLabels : List String) (blocks : ℕ) (band : Band) :
    Except SetupError BundleV3Contents := do
  let cycles := plannedSignalCycles antennaLabels (signalVariants plan.frequenciesHz) blocks
  failIf (decide (2 ^ 32 ≤ cycles.length)) (.reportPipeline "signal slot count overflowed")
  failIf (cycles.any fun cycle => 2 ^ 16 ≤ cycle.2.position)
    (.reportPipeline "counterbalance position exceeds the supported range")
  let upgraded := upgradeV2BundleModel bundle
  return { upgraded with schedule := { upgraded.schedule with
    signalPlans := [plan.signalPlan]
    slots := []
    wsprCycleIntents := cycles.zipIdx.map fun (cycle, index) =>
      ⟨env.newId "intent" index, index + 1, band, cycle.2.antennaLabel, some .transmit,
        some (signalAllocation cycle)⟩ } }

def useLatestSchema (bundle : BundleV3Contents) : BundleV3Contents :=
  { bundle with
    manifest := { bundle.manifest with schemaVersion := schemaVersionV6 }
    sessionState := { bundle.sessionState with schemaVersion := schemaVersionV6 }
    station := { bundle.station with schemaVersion := schemaVersionV6 }
    antennas := { bundle.antennas with schemaVersion := schemaVersionV6 }
    schedule := { bundle.schedule with
      schemaVersion := schemaVersionV6
      antennaControl := some .manual }
    analysis := { bundle.analysis with schemaVersion := schemaVersionV6 } }

/-- `current_runtime_context` at the creation of the session. -/
def SetupEnv.creatorContext : RuntimeContextV6 :=
  .new env.storage env.now ⟨env.newId "mutation" 0, 0, 1⟩ env.build env.platform

def withCreatorContext (bundle : BundleV3Contents) : BundleV3Contents :=
  let context := env.creatorContext
  { bundle with
    manifest := { bundle.manifest with
      files := { bundle.manifest.files with
        runtimeContexts := some "runtime-contexts.jsonl"
        diagnostics := some "diagnostics.jsonl" }
      creatorRuntimeContextId := some context.contextId }
    sessionState := { bundle.sessionState with
      activeRuntimeContextId := some context.contextId
      diagnosticsStatus := some ⟨.complete, 0, none, none⟩ }
    runtimeContexts := [context] }

namespace SetupDraft

/-- Slots of two minutes, one after the other. -/
def slots (draft : SetupDraft) : List PlannedSlot :=
  let labels : List String := match draft.signalPlan with
    | some _ => (List.range draft.rounds).flatMap fun _ => draft.scheduledLabels
    | none => draft.wsprCycles.map (·.1)
  labels.zipIdx.map fun (label, index) =>
    ⟨env.newId "slot" index, index + 1, env.now + index * (120 * DateTime.nanosPerSecond), 120, 0,
      draft.band, label⟩

/-- The schema-v2 bundle that is validated for strict creation. -/
def bundleV2 (draft : SetupDraft) : BundleV2Contents :=
  let sessionId := env.newId "session" 0
  { manifest :=
      ⟨schemaVersionV2, sessionId, env.now, env.appVersion, BundleFilesV2.standard, none⟩
    sessionState := {
      schemaVersion := schemaVersionV2
      sessionId := sessionId
      revision := 0
      lifecycle := .ready
      wsprLiveAcquisitionEnabled := draft.wsprLiveAcquisitionEnabled
      activePlan := ⟨env.newId "plan" 0, "", "", "", ""⟩
      streams := []
      lastCommittedMutationId := none
      activeRuntimeContextId := none
      diagnosticsStatus := none }
    station := ⟨schemaVersionV2, sessionId, draft.callsign, draft.grid, draft.powerWatts,
      draft.operatorNotes⟩
    antennas := ⟨schemaVersionV2, sessionId, draft.setupAntennas⟩
    schedule := ⟨schemaVersionV2, sessionId, draft.mode, draft.goal, draft.slots env⟩
    events := []
    observations := []
    adapterRecords := []
    rig := []
    propagation := []
    analysis := ⟨schemaVersionV2, sessionId, none, .notRun, []⟩ }

def report (draft : SetupDraft) : BundleValidationReport :=
  validateBundleReport env.format (draft.bundleV2 env).intoCurrent.bundle

/-- The intents of the cycles of the experiment mode take over the slots. -/
def wsprIntents (draft : SetupDraft) : List WsprCycleIntentV3 :=
  List.zipWith (fun slot direction =>
      ⟨slot.slotId, slot.sequenceNumber, slot.band, slot.antennaLabel, some direction, none⟩)
    (draft.slots env) (draft.wsprCycles.map (·.2))

def buildBundle (draft : SetupDraft) : Except SetupError BundleV3Contents :=
  match draft.signalPlan with
  | some plan => buildV3SetupBundle env (draft.bundleV2 env) plan draft.scheduledLabels
      draft.rounds draft.band
  | none =>
    let upgraded := upgradeV2BundleModel (draft.bundleV2 env)
    .ok { upgraded with schedule := { upgraded.schedule with
      slots := []
      wsprCycleIntents := draft.wsprIntents env } }

/-- The bundle in its final form, with its digests. -/
def pendingBundle (draft : SetupDraft) : Except SetupError BundleV3Contents := do
  let built ← draft.buildBundle env
  let bundle := withCreatorContext env (useLatestSchema built)
  let bundle := { bundle with schedule := { bundle.schedule with
    antennaControl := some (draft.controllerPolicy.getD .manual) } }
  (refreshV3Checkpoint env.storage bundle).mapError .store

end SetupDraft

def setupAntennaField : String → String
  | "height_m" => "heightM"
  | "radial_count" => "radialCount"
  | "radial_length_m" => "radialLengthM"
  | "orientation_degrees" => "orientationDegrees"
  | field => field

def setupDiagnosticField (location : BundleDiagnosticLocation) : String :=
  match location.file with
  | .station =>
    if location.fieldPath = some "/callsign" then "station.callsign"
    else if location.fieldPath = some "/grid" then "station.grid"
    else if location.fieldPath = some "/power_watts" then "station.powerWatts"
    else "station"
  | .antennas =>
    location.recordIndex.elim "antennas" fun index =>
      "antennas." ++ toString index ++ location.fieldPath.elim "" fun path =>
        "." ++ setupAntennaField
          (String.ofList (path.toList.reverse.takeWhile (· != '/')).reverse)
  | .schedule =>
    if location.fieldPath = some "/mode" then "schedule.mode"
    else if location.fieldPath = some "/slots" then "schedule.rounds"
    else "schedule"
  | _ => "setup"

def setupDiagnosticFromCore (diagnostic : BundleDiagnostic) : SetupDiagnostic :=
  ⟨diagnostic.code.text, setupDiagnosticField diagnostic.location, diagnostic.message,
    diagnostic.severity⟩

def setupDiagnosticFromPlan (diagnostic : SignalPlanDiagnosticV3) : SetupDiagnostic :=
  ⟨diagnostic.code,
    if "/signal_plans".toList <+: diagnostic.path.toList then "signalPlan" else "schedule",
    diagnostic.message, .error⟩

/-- `build_review`: the bundle that is kept when the review is valid. -/
def SetupDraft.review (draft : SetupDraft) : Except SetupError BundleV3Contents := do
  failIf (!draft.diagnostics.isEmpty) (.rejected draft.diagnostics)
  let bundle ← draft.pendingBundle env
  let report := draft.report env
  let coreDiagnostics := report.map setupDiagnosticFromCore ++
    (validateSignalPlanScheduleV3 bundle.station.callsign bundle.schedule).map
      setupDiagnosticFromPlan
  failIf (!report.allows .strictCreation || coreDiagnostics.any (·.severity == .error))
    (.rejected coreDiagnostics)
  return bundle

end

end AntennaBench
