import Mathlib.Data.List.MinMax
import AntennaBench.Core.Current

/-!
# Slot alignment

`align_schedule_slots`: what the operator events say of every slot, and the slot
every observation falls in.
-/

namespace AntennaBench

inductive AlignedSlotStatus where
  | plannedNoSwitchEvent
  | unknownActualState
  | switched
  | lateSwitch
  | missed
  | bad
  | conflictingEvidence
  deriving DecidableEq

structure AlignedSlot where
  slotId : String
  sequenceNumber : ℕ
  band : Band
  plannedLabel : String
  actualLabel : Option String
  status : AlignedSlotStatus
  startsAt : DateTime
  endsAt : DateTime
  usableStart : DateTime
  switchEventId : Option String
  switchTimestamp : Option DateTime
  switchDelaySeconds : Option ℤ
  deriving DecidableEq

inductive SlotAssignmentReason where
  | interior
  | guardTime
  | nearBoundary
  | lateSwitch
  | beforeObservedSwitch
  | missedSlot
  | badSlot
  | unknownActualState
  | conflictingEvidence
  | bandMismatch
  | outsideSchedule
  deriving DecidableEq

structure ObservationSlotAssignment where
  observationId : String
  slotId : Option String
  slotLabel : Option String
  confidence : IeeeFloat
  reason : SlotAssignmentReason

structure ScheduleSlotAlignment where
  slots : List AlignedSlot
  observationAssignments : List ObservationSlotAssignment

/-- `Duration::seconds(n)`. -/
def seconds (n : ℤ) : ℤ := n * DateTime.nanosPerSecond

/-- `Duration::num_seconds`, which drops the fraction. -/
def numSeconds (duration : ℤ) : ℤ := duration.tdiv DateTime.nanosPerSecond

def PlannedSlot.guardEnd (slot : PlannedSlot) : DateTime :=
    slot.startsAt + seconds slot.guardSeconds

/-- A slot without a switch: only its status and label differ. -/
def PlannedSlot.unswitched (slot : PlannedSlot) (actualLabel : Option String)
    (status : AlignedSlotStatus) : AlignedSlot where
  slotId := slot.slotId
  sequenceNumber := slot.sequenceNumber
  band := slot.band
  plannedLabel := slot.antennaLabel
  actualLabel := actualLabel
  status := status
  startsAt := slot.startsAt
  endsAt := slot.startsAt + seconds slot.durationSeconds
  usableStart := slot.guardEnd
  switchEventId := none
  switchTimestamp := none
  switchDelaySeconds := none

def switchDelaySeconds (slot : PlannedSlot) (event : OperatorEvent) : ℤ :=
  numSeconds (event.recordMeta.timestamp - slot.startsAt)

/-- Instants compare as integers. -/
local instance : Preorder DateTime := Int.instLinearOrder.toPreorder

def alignSlot (slot : PlannedSlot) (events : List OperatorEvent) (schemaV2 : Bool) :
    AlignedSlot :=
  let slotEvents := events.filter (·.slotId == some slot.slotId)
  let switchEvents := slotEvents.filter (·.eventType == .switched)
  let badEvents := slotEvents.countP (·.eventType == .badSlot)
  let missedEvents := slotEvents.countP (·.eventType == .missedSlot)
  if schemaV2 && 1 < switchEvents.length + badEvents + missedEvents then
    slot.unswitched none .conflictingEvidence
  else if 0 < badEvents then slot.unswitched none .bad
  else if 0 < missedEvents then slot.unswitched none .missed
  else match switchEvents.argmin (·.recordMeta.timestamp) with
  | some event =>
    let at_ := event.recordMeta.timestamp
    { slot.unswitched
        (event.actualAntennaLabel <|> if schemaV2 then none else some slot.antennaLabel)
        (if at_ ≤ slot.guardEnd then .switched else .lateSwitch) with
      usableStart := max slot.guardEnd at_
      switchEventId := some event.eventId
      switchTimestamp := some at_
      switchDelaySeconds := some (switchDelaySeconds slot event) }
  | none =>
    if schemaV2 then slot.unswitched none .unknownActualState
    else slot.unswitched (some slot.antennaLabel) .plannedNoSwitchEvent

/-- The nearest `f32` to 0.10, 0.60, 0.70, 0.80 and 0.95. -/
def confidence10 : IeeeFloat := .finite (13421773 / 2 ^ 27)
def confidence60 : IeeeFloat := .finite (10066330 / 2 ^ 24)
def confidence70 : IeeeFloat := .finite (11744051 / 2 ^ 24)
def confidence80 : IeeeFloat := .finite (13421773 / 2 ^ 24)
def confidence95 : IeeeFloat := .finite (15938355 / 2 ^ 24)

def assignment (observation : ObservationRecord) (slot : Option AlignedSlot)
    (slotLabel : Option String) (confidence : IeeeFloat) (reason : SlotAssignmentReason) :
    ObservationSlotAssignment :=
  ⟨observation.observationId, slot.map (·.slotId), slotLabel, confidence, reason⟩

structure SlotAlignmentPolicy where
  boundarySeconds : ℤ
  deriving DecidableEq

def SlotAlignmentPolicy.default : SlotAlignmentPolicy := ⟨5⟩

/-- The assignment of an observation inside the slot, on its band. -/
def assignWithin (policy : SlotAlignmentPolicy) (observation : ObservationRecord)
    (slot : AlignedSlot) : ObservationSlotAssignment :=
  let timestamp := observation.recordMeta.timestamp
  let inside := assignment observation (some slot)
  match slot.status with
  | .conflictingEvidence => inside none .zero .conflictingEvidence
  | .unknownActualState => inside none .zero .unknownActualState
  | .bad => inside none .zero .badSlot
  | .missed => inside none .zero .missedSlot
  | status =>
    if status = .lateSwitch ∧ timestamp < slot.usableStart then
      inside none confidence10 .beforeObservedSwitch
    else if timestamp < slot.usableStart then
      inside (if slot.switchTimestamp.any (· ≤ timestamp) then slot.actualLabel else none)
        (.finite (1 / 4)) .guardTime
    else if numSeconds (slot.endsAt - timestamp) ≤ policy.boundarySeconds then
      inside slot.actualLabel confidence60 .nearBoundary
    else match status with
    | .lateSwitch => inside slot.actualLabel confidence70 .lateSwitch
    | .plannedNoSwitchEvent => inside slot.actualLabel confidence80 .interior
    | _ => inside slot.actualLabel confidence95 .interior

def assignObservationToSlot (policy : SlotAlignmentPolicy) (slots : List AlignedSlot)
    (observation : ObservationRecord) : ObservationSlotAssignment :=
  let timestamp := observation.recordMeta.timestamp
  match slots.find? fun slot => slot.startsAt ≤ timestamp && timestamp < slot.endsAt with
  | none => assignment observation none none .zero .outsideSchedule
  | some slot =>
    if observation.band ≠ slot.band then assignment observation none none .zero .bandMismatch
    else assignWithin policy observation slot

def alignScheduleSlots (schedule : Schedule) (events : List OperatorEvent)
    (observations : List ObservationRecord) (policy : SlotAlignmentPolicy) :
    ScheduleSlotAlignment :=
  let slots := schedule.slots.map (alignSlot · events (2 ≤ schedule.schemaVersion))
  ⟨slots, observations.map (assignObservationToSlot policy slots)⟩

end AntennaBench
