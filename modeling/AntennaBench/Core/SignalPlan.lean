import AntennaBench.Core.WsprRun
import Mathlib.Data.List.Sort
import Mathlib.Data.List.Dedup

/-!
# Signal plan validation

The diagnostics of a schedule's signal plans and of a signal-state confirmation.
Maps of the source are walked in key order, so the order of the diagnostics is
the source's.
-/

namespace AntennaBench

structure SignalPlanDiagnosticV3 where
  code : String
  path : String
  message : String
  deriving DecidableEq

/-- The keys of a `BTreeMap` or `BTreeSet` filled with `keys`. -/
def sortedKeys (keys : List String) : List String :=
  keys.dedup.insertionSort (· ≤ ·)

def asciiLower (value : String) : List Char :=
  value.toList.map fun c => if 'A' ≤ c ∧ c ≤ 'Z' then Char.ofNat (c.toNat + 32) else c

def eqIgnoreAsciiCase (a b : String) : Bool :=
  asciiLower a == asciiLower b

def invalidPower (power : Option IeeeFloat) : Bool :=
  power.any fun value => !value.isFinite || value.le .zero

/-- `[diagnostic]` when the condition holds. -/
def diagnosticIf (condition : Bool) (code path message : String) :
    List SignalPlanDiagnosticV3 :=
  if condition then [⟨code, path, message⟩] else []

structure AllocatedSlot where
  index : ℕ
  slot : PlannedSlotV3
  allocation : SignalAllocationV3
  deriving DecidableEq

def signalPlanDiagnostics (stationCallsign : String) (earlier : List SignalPlanV3) (index : ℕ)
    (plan : SignalPlanV3) : List SignalPlanDiagnosticV3 :=
  let path := "/signal_plans/" ++ toString index
  diagnosticIf (earlier.any (·.signalPlanId == plan.signalPlanId)) "signal_plan.duplicate_id"
      (path ++ "/signal_plan_id") "signal plan identity must be unique" ++
    diagnosticIf (invalidPower plan.plannedPowerWatts) "signal_plan.invalid_power"
      (path ++ "/planned_power_watts") "planned power must be finite and greater than zero" ++
    diagnosticIf
      (isBlank plan.cadence.message || plan.cadence.repetitionCount == 0 ||
        plan.cadence.transmitSeconds == 0 ||
        plan.cadence.intervalSeconds < plan.cadence.transmitSeconds ||
        (plan.mode == .cw && plan.cadence.keySpeedWpm.isNone))
      "signal_plan.invalid_cadence" (path ++ "/cadence")
      "cadence must contain a message, repetitions, coherent timing, and CW key speed" ++
    diagnosticIf
      (!eqIgnoreAsciiCase plan.transmittedCallsign stationCallsign &&
        !plan.differingIdentityValidated)
      "signal_plan.unvalidated_identity" (path ++ "/transmitted_callsign")
      ("a transmitted identity differing from the station callsign requires explicit " ++
        "validation") ++
    diagnosticIf (plan.mode == .rtty && plan.collectionProfile == .rbnCwV1)
      "signal_plan.profile_mode_mismatch" (path ++ "/collection_profile")
      "the RBN CW collection profile cannot be applied to RTTY"

/-- The diagnostics of one planned allocation, at `path`. -/
def allocationDiagnostics (plans : List SignalPlanV3) (path unknown : String)
    (allocation : SignalAllocationV3) : List SignalPlanDiagnosticV3 :=
  diagnosticIf (allocation.frequencyHz == 0) "signal_plan.invalid_frequency"
      (path ++ "/signal/frequency_hz") "planned frequency must be greater than zero" ++
    diagnosticIf (!plans.any (·.signalPlanId == allocation.signalPlanId))
      "signal_plan.unknown_reference" (path ++ "/signal/signal_plan_id") unknown

def rbnSuppressionPair (left right : AllocatedSlot) : List SignalPlanDiagnosticV3 :=
  let separation := (right.slot.startsAt - left.slot.startsAt).tdiv DateTime.nanosPerSecond
  let delta := ((left.allocation.frequencyHz : ℤ) - right.allocation.frequencyHz).natAbs
  diagnosticIf (0 ≤ separation && delta < 300) "signal_plan.rbn_suppression_risk"
    ("/slots/" ++ toString right.index ++ "/signal/frequency_hz")
    ("RBN CW slots " ++ toString left.index ++ " and " ++ toString right.index ++ " are " ++
      toString separation ++ "s and " ++ toString delta ++
      "Hz apart; require at least 600s or 300Hz")

def validateRbnSuppression : List AllocatedSlot → List SignalPlanDiagnosticV3
  | [] => []
  | left :: rest =>
    (rest.takeWhile fun right =>
      (right.slot.startsAt - left.slot.startsAt).tdiv DateTime.nanosPerSecond < 600).flatMap
        (rbnSuppressionPair left) ++ validateRbnSuppression rest

/-- The slots before the current one that share its frequency variant name the
frequency the map holds for that variant. -/
def variantFrequencyDiagnostics : List AllocatedSlot → List AllocatedSlot →
    List SignalPlanDiagnosticV3
  | _, [] => []
  | earlier, slot :: rest =>
    let known := (earlier.filter fun other =>
      other.allocation.frequencyVariantId == slot.allocation.frequencyVariantId).head?
    diagnosticIf (known.any (·.allocation.frequencyHz ≠ slot.allocation.frequencyHz))
        "signal_plan.variant_frequency_mismatch"
        ("/slots/" ++ toString slot.index ++ "/signal/frequency_hz")
        "one frequency variant must map to one exact frequency" ++
      variantFrequencyDiagnostics (slot :: earlier) rest

/-- Equal average positions over the groups that `key` makes of the slots. -/
def balancedAveragePosition (slots : List AllocatedSlot) (key : AllocatedSlot → String) : Bool :=
  let positions := (sortedKeys (slots.map key)).map fun name =>
    let group := slots.filter fun slot => key slot == name
    ((group.map (·.allocation.counterbalancePosition)).sum, group.length)
  match positions with
  | [] => true
  | (firstSum, firstCount) :: _ =>
    positions.all fun (sum, count) =>
      firstCount != 0 && count != 0 && sum * firstCount == firstSum * count

def validateCounterbalance (slots : List AllocatedSlot) : List SignalPlanDiagnosticV3 :=
  let antennas := (slots.map (·.slot.antennaLabel)).dedup
  let variants := (slots.map (·.allocation.frequencyVariantId)).dedup
  let expectedPairs := antennas.length * variants.length
  let blocks := sortedKeys (slots.map (·.allocation.counterbalanceBlockId))
  variantFrequencyDiagnostics [] slots ++
    blocks.flatMap (fun blockId =>
      let block := slots.filter (·.allocation.counterbalanceBlockId == blockId)
      let pairs := (block.map fun entry =>
        (entry.slot.antennaLabel, entry.allocation.frequencyVariantId)).dedup
      let positions := (block.map (·.allocation.counterbalancePosition)).dedup
      diagnosticIf
        (block.length != expectedPairs || pairs.length != expectedPairs ||
          positions.length != block.length)
        "signal_plan.unbalanced_block" "/slots"
        ("counterbalance block " ++ blockId ++
          " must contain each antenna/frequency pair once with unique positions")) ++
    diagnosticIf
      (!balancedAveragePosition slots (·.slot.antennaLabel) ||
        !balancedAveragePosition slots (·.allocation.frequencyVariantId))
      "signal_plan.unbalanced_order" "/slots"
      ("antenna and frequency variants must have equal average positions across complete " ++
        "blocks")

/-- The plan a `BTreeMap` filled in order holds for an identity: the last one. -/
def findSignalPlan? (plans : List SignalPlanV3) (planId : SignalPlanIdV3) :
    Option SignalPlanV3 :=
  plans.reverse.find? (·.signalPlanId == planId)

def validateSignalPlanScheduleV3 (stationCallsign : String) (schedule : ScheduleV3) :
    List SignalPlanDiagnosticV3 :=
  let plans := schedule.signalPlans
  let allocated := schedule.slots.zipIdx.filterMap fun (slot, index) =>
    slot.signal.map fun allocation => AllocatedSlot.mk index slot allocation
  let known := allocated.filter fun entry =>
    plans.any (·.signalPlanId == entry.allocation.signalPlanId)
  plans.zipIdx.flatMap (fun (plan, index) =>
      signalPlanDiagnostics stationCallsign (plans.take index) index plan) ++
    allocated.flatMap (fun entry =>
      allocationDiagnostics plans ("/slots/" ++ toString entry.index)
        "slot references an unknown signal plan" entry.allocation) ++
    schedule.wsprCycleIntents.zipIdx.flatMap (fun (intent, index) =>
      (intent.signal.map fun allocation =>
        allocationDiagnostics plans ("/wspr_cycle_intents/" ++ toString index)
          "cycle intent references an unknown signal plan" allocation).getD []) ++
    (sortedKeys (known.map (·.allocation.signalPlanId))).flatMap (fun planId =>
      let slots := (known.filter (·.allocation.signalPlanId == planId)).insertionSort
        fun a b => a.slot.startsAt ≤ b.slot.startsAt
      (if (findSignalPlan? plans planId).any (·.collectionProfile == .rbnCwV1) then
        validateRbnSuppression slots
      else []) ++ validateCounterbalance slots)

def validateSignalStateConfirmationV3 (schedule : ScheduleV3) (slotId : Option String)
    (confirmation : SignalStateConfirmationV3) : List SignalPlanDiagnosticV3 :=
  match slotId with
  | none => [⟨"signal_state.missing_slot", "/slot_id",
      "signal-state confirmation must identify one planned slot"⟩]
  | some slotId =>
    let slot? := schedule.slots.find? (·.slotId == slotId)
    let intent? := schedule.findIntent? slotId
    if slot?.isNone && intent?.isNone then
      [⟨"signal_state.unknown_slot", "/slot_id",
        "signal-state confirmation references an unknown cycle intent"⟩]
    else match (slot?.bind (·.signal)) <|> (intent?.bind (·.signal)) with
    | none => [⟨"signal_state.slot_without_plan", "/slot_id",
        "signal-state confirmation references a cycle intent without a signal allocation"⟩]
    | some allocation =>
      match schedule.signalPlans.find? (·.signalPlanId == allocation.signalPlanId) with
      | none => [⟨"signal_state.unknown_plan", "/slot_id",
          "signal-state confirmation cannot resolve the slot's signal plan"⟩]
      | some plan =>
        let path := "/payload/confirmation/"
        let missing (present : Bool) (field : String) :=
          diagnosticIf (!present) "signal_state.missing_actual_fact" (path ++ field)
            ("actual " ++ field ++ " was not confirmed")
        missing confirmation.frequencyHz.isSome "frequency_hz" ++
          missing confirmation.mode.isSome "mode" ++
          missing confirmation.transmittedCallsign.isSome "transmitted_callsign" ++
          missing confirmation.cadenceFollowed.isSome "cadence_followed" ++
          (if confirmation.frequencyHz == some 0 then
            diagnosticIf true "signal_state.invalid_frequency" (path ++ "frequency_hz")
              "confirmed frequency must be greater than zero"
          else
            diagnosticIf (confirmation.frequencyHz.any (· ≠ allocation.frequencyHz))
              "signal_state.frequency_mismatch" (path ++ "frequency_hz")
              "confirmed frequency differs from the planned slot frequency") ++
          diagnosticIf (confirmation.mode.any (· ≠ plan.mode)) "signal_state.mode_mismatch"
            (path ++ "mode") "confirmed mode differs from the signal plan" ++
          (if invalidPower confirmation.powerWatts then
            diagnosticIf true "signal_state.invalid_power" (path ++ "power_watts")
              "confirmed power must be finite and greater than zero"
          else
            diagnosticIf (confirmation.powerWatts.any fun actual =>
                plan.plannedPowerWatts.any fun planned => !(actual == planned))
              "signal_state.power_mismatch" (path ++ "power_watts")
              "confirmed power differs from the signal plan") ++
          diagnosticIf
            (confirmation.transmittedCallsign.any
              (!eqIgnoreAsciiCase · plan.transmittedCallsign))
            "signal_state.identity_mismatch" (path ++ "transmitted_callsign")
            "confirmed transmitted identity differs from the signal plan" ++
          diagnosticIf (confirmation.cadenceFollowed == some false)
            "signal_state.cadence_mismatch" (path ++ "cadence_followed")
            "operator reported that the planned cadence was not followed"

def validateSignalStateEventV3 (schedule : ScheduleV3) (event : OperatorEventV3) :
    List SignalPlanDiagnosticV3 :=
  match event.payload with
  | .signalStateConfirmed confirmation =>
    validateSignalStateConfirmationV3 schedule event.slotId confirmation
  | _ => []

end AntennaBench
