import Mathlib.Data.Prod.Lex
import Mathlib.Data.String.Basic
import AntennaBench.Core.Current
import AntennaBench.Wsjtx.WsprLiveImport

/-!
# Acquisition plans

The queries that the confirmed slots of a schedule authorize. Each covers the schedule from
its start through a completed slot and is due once the ingestion grace is over.
-/

namespace AntennaBench

structure WsprLiveQueryPlan where
  sessionCallsign : String
  windowStart : DateTime
  windowEnd : DateTime
  providerBands : List ℤ
  deriving DecidableEq

structure WsprLiveAcquisitionPlan where
  completedSlotId : String
  segmentEndedAt : DateTime
  notBefore : DateTime
  query : WsprLiveQueryPlan
  deriving DecidableEq

/-- `max_by_key`: the last one with the largest key. -/
def maxByKey {α κ : Type} [LinearOrder κ] (key : α → κ) (items : List α) : Option α :=
  items.foldl (fun best item =>
    match best with
    | some b => if key b ≤ key item then some item else some b
    | none => some item) none

/-- `min_by_key`: the first one with the smallest key. -/
def minByKey {α κ : Type} [LinearOrder κ] (key : α → κ) (items : List α) : Option α :=
  items.foldl (fun best item =>
    match best with
    | some b => if key b ≤ key item then some b else some item
    | none => some item) none

/-- The bands of some slots, each at its first place. -/
def slotBands (slots : List PlannedSlot) : List Band :=
  slots.foldl (fun bands slot =>
    if slot.band ∈ bands then bands else bands ++ [slot.band]) []

def slotEnd? (slot : PlannedSlot) : Option DateTime :=
  DateTime.checkedAdd slot.startsAt (DateTime.seconds slot.durationSeconds)

def slotEnd (slot : PlannedSlot) : Except WsprLiveImportError DateTime :=
  orError (slotEnd? slot) (.config "scheduled slot end exceeds UTC range")

/-- `plan_wspr_live_query`. -/
def planWsprLiveQuery (scope : WsprLiveQueryScope) :
    Except WsprLiveImportError WsprLiveQueryPlan := do
  validateQueryScope scope
  return {
    sessionCallsign := (normalizeWsprCallsign (trim scope.sessionCallsign)).getD ""
    windowStart := scope.windowStart
    windowEnd := scope.windowEnd
    providerBands := ((scope.selectedBands.map bandToWsprLive).insertionSort (· ≤ ·)).dedup }

/-- The slots that are over when a segment is. -/
def completedSlots (slots : List PlannedSlot) (segmentEndedAt : DateTime) :
    Except WsprLiveImportError (List PlannedSlot) := do
  let ends ← slots.mapM fun slot => return (slot, ← slotEnd slot)
  return (ends.filter (·.2 ≤ segmentEndedAt)).map (·.1)

def planForCompletedSlot (sessionCallsign : String) (slots : List PlannedSlot)
    (completedSlotId : String) : Except WsprLiveImportError WsprLiveAcquisitionPlan := do
  let completedSlot ← orError (slots.find? (·.slotId = completedSlotId))
    (.config ("completed slot " ++ completedSlotId ++ " is not in the schedule"))
  let segmentEndedAt ← slotEnd completedSlot
  let notBefore ← orError
    (DateTime.checkedAdd segmentEndedAt (DateTime.seconds wsprLiveIngestionGraceSeconds))
    (.config "WSPR.live grace deadline exceeds UTC range")
  let completed ← completedSlots slots segmentEndedAt
  let windowStart := (completed.map fun slot => wsprLiveQueryWindowStart slot.startsAt).foldl min
    (wsprLiveQueryWindowStart completedSlot.startsAt)
  let query ← planWsprLiveQuery
    ⟨sessionCallsign, windowStart, segmentEndedAt, slotBands completed⟩
  return { completedSlotId, segmentEndedAt, notBefore, query }

/-- A slot is completed for good once the slot after it is confirmed; the last one counts
itself. -/
def authorizedCompletedSlots (slots : List PlannedSlot) (confirmedSlotIds : List String) :
    List PlannedSlot :=
  (slots.zipIdx.filter fun (slot, index) =>
    (slots[index + 1]?).any (fun next => decide (next.slotId ∈ confirmedSlotIds)) ||
      index + 1 = slots.length && decide (slot.slotId ∈ confirmedSlotIds)).map (·.1)

def plansForConfirmedSlots (sessionCallsign : String) (slots : List PlannedSlot)
    (confirmedSlotIds : List String) :
    Except WsprLiveImportError (List WsprLiveAcquisitionPlan) := do
  failIf slots.isEmpty (.config "schedule must contain at least one slot")
  (authorizedCompletedSlots slots confirmedSlotIds).mapM fun slot =>
    planForCompletedSlot sessionCallsign slots slot.slotId

/-- Whether ten seconds have passed since the last request. -/
def intervalAllowsRequest (now : DateTime) (lastRequestStartedAt : Option DateTime) : Bool :=
  lastRequestStartedAt.all fun started =>
    (DateTime.checkedAdd started (DateTime.seconds wsprLiveMinRequestIntervalSeconds)).any (· ≤ now)

def latestDueWsprLiveAcquisition (plans : List WsprLiveAcquisitionPlan) (now : DateTime)
    (lastRequestStartedAt : Option DateTime) : Option WsprLiveAcquisitionPlan :=
  if intervalAllowsRequest now lastRequestStartedAt then
    maxByKey (fun plan => (toLex (plan.segmentEndedAt, plan.completedSlotId) : DateTime ×ₗ String))
      (plans.filter (·.notBefore ≤ now))
  else none

end AntennaBench
