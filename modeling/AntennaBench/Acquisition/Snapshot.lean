import AntennaBench.Acquisition.Plans
import AntennaBench.Core.WsprRun

/-!
# What an acquisition reads

The committed session an acquisition plans from, of schema v2 or of schema v3 to v6, the
queries it authorizes and what the summaries of earlier imports say was captured.
-/

namespace AntennaBench

inductive AcquisitionSnapshot where
  | v2 (bundle : BundleV2Contents)
  | v3 (bundle : BundleV3Contents)

structure AutomaticCaptureCounts where
  total : ℕ
  accepted : ℕ
  filtered : ℕ
  duplicate : ℕ
  conflict : ℕ
  observationsCreated : ℕ

structure AutomaticCaptureSummary where
  acquisitionChannel : String
  windowEnd : DateTime
  counts : AutomaticCaptureCounts

structure AutomaticCaptureTotals where
  successfulWindows : ℕ := 0
  returned : ℕ := 0
  accepted : ℕ := 0
  filtered : ℕ := 0
  conflicted : ℕ := 0
  duplicated : ℕ := 0
  created : ℕ := 0
  deriving DecidableEq

def AutomaticCaptureTotals.add (totals : AutomaticCaptureTotals)
    (summary : AutomaticCaptureSummary) : AutomaticCaptureTotals where
  successfulWindows := totals.successfulWindows + 1
  returned := totals.returned + summary.counts.total
  accepted := totals.accepted + summary.counts.accepted
  filtered := totals.filtered + summary.counts.filtered
  conflicted := totals.conflicted + summary.counts.conflict
  duplicated := totals.duplicated + summary.counts.duplicate
  created := totals.created + summary.counts.observationsCreated

/-- A record of a bundle as a JSON document, when it is a summary kept in the line itself. -/
def AdapterRecordV2.importSummary? (record : AdapterRecordV2) : Option String :=
  match record.input with
  | .inline data _ _ _ => if record.recordType = "wspr_live_import_summary" then some data else none
  | .attachment _ => none

/-- The numbers `serde` reads into an `AutomaticCaptureCounts`. -/
def parseCaptureCounts (counts : JsonValue) : Option AutomaticCaptureCounts := do
  let count key := (counts.get? key).bind (·.asU64?)
  return ⟨← count "total", ← count "accepted", ← count "filtered", ← count "duplicate",
    ← count "conflict", ← count "observations_created"⟩

namespace AcquisitionSnapshot

def revision : AcquisitionSnapshot → ℕ
  | v2 bundle => bundle.sessionState.revision
  | v3 bundle => bundle.sessionState.revision

def lifecycle : AcquisitionSnapshot → SessionLifecycleV2
  | v2 bundle => bundle.sessionState.lifecycle
  | v3 bundle => bundle.sessionState.lifecycle

def wsprLiveAcquisitionEnabled : AcquisitionSnapshot → Bool
  | v2 bundle => bundle.sessionState.wsprLiveAcquisitionEnabled
  | v3 bundle => bundle.sessionState.wsprLiveAcquisitionEnabled

def adapterRecords : AcquisitionSnapshot → List AdapterRecordV2
  | v2 bundle => bundle.adapterRecords
  | v3 bundle => bundle.adapterRecords

/-- The intents whose cycle was armed under one occupancy from start to end. -/
def coveredIntents (bundle : BundleV3Contents) : List String :=
  ((projectWsprRunV3 bundle.schedule bundle.events).cycles.filter
    (·.occupancyFullyCoversTransmission)).map (·.intentId)

/-- The slots a query may cover; from schema v3 on those of covered cycles. -/
def projectedSlots : AcquisitionSnapshot → List PlannedSlot
  | v2 bundle => bundle.schedule.slots
  | v3 bundle =>
    let known := bundle.schedule.wsprCycleIntents.map (·.intentId)
    let attributable := (coveredIntents bundle).filter fun intentId => decide (intentId ∈ known)
    bundle.intoCurrent.bundle.schedule.slots.filter fun slot => decide (slot.slotId ∈ attributable)

/-- The slot whose completion completes the run; from schema v3 on only once every intent
is armed or skipped. -/
def finalCompletedSlotId : AcquisitionSnapshot → Option String
  | v2 bundle => bundle.schedule.slots.getLast?.map (·.slotId)
  | v3 bundle =>
    let projection := projectWsprRunV3 bundle.schedule bundle.events
    if projection.cycles.length + projection.skippedIntentIds.length =
        bundle.schedule.wsprCycleIntents.length then
      (coveredIntents bundle).getLast?
    else none

def callsign : AcquisitionSnapshot → String
  | v2 bundle => bundle.station.callsign
  | v3 bundle => bundle.station.callsign

/-- The slot an effective confirmation of the antenna is about. -/
def confirmedSlot? (event : EffectiveOperatorEventV2) : Option String :=
  match event.payload with
  | .antennaStateConfirmed .. => event.slotId
  | _ => none

def confirmedSlotIds : AcquisitionSnapshot → List String
  | v2 bundle =>
    (reduceOperatorEventsV2 .ready bundle.events).effectiveEvents.filterMap confirmedSlot?
  | v3 bundle => coveredIntents bundle

def authorizedPlans (snapshot : AcquisitionSnapshot) :
    Except WsprLiveImportError (List WsprLiveAcquisitionPlan) :=
  if snapshot.projectedSlots.isEmpty then .ok []
  else plansForConfirmedSlots snapshot.callsign snapshot.projectedSlots snapshot.confirmedSlotIds

section

variable (env : WsprLiveEnv) (snapshot : AcquisitionSnapshot)

/-- The end of the window an import captured, if it was automatic or was made five minutes
after that end. -/
def capturedWindowEnd? (record : AdapterRecordV2) : Option DateTime := do
  let summary ← record.importSummary?.bind env.fromStr
  let windowEnd ← ((summary.get? "window_end").bind (·.asStr?)).bind env.parseDateTime
  let isAutomatic := (summary.get? "acquisition_channel").bind (·.asStr?) == some "https-query"
  let capturedAt := ((summary.get? "captured_at").bind (·.asStr?)).bind env.parseDateTime
  let isMature := capturedAt.any fun captured =>
    (DateTime.checkedAdd windowEnd (DateTime.seconds 300)).any (· ≤ captured)
  if isAutomatic || isMature then some windowEnd else none

def capturedThrough : Option DateTime :=
  (snapshot.adapterRecords.filterMap (capturedWindowEnd? env)).max?

def automaticCaptureSummary? (record : AdapterRecordV2) : Option AutomaticCaptureSummary := do
  let summary ← record.importSummary?.bind env.fromStr
  let channel ← (summary.get? "acquisition_channel").bind (·.asStr?)
  let windowEnd ← ((summary.get? "window_end").bind (·.asStr?)).bind env.parseDateTime
  let counts ← (summary.get? "counts").bind parseCaptureCounts
  if channel = "https-query" then some ⟨channel, windowEnd, counts⟩ else none

def automaticCaptureSummaries : List AutomaticCaptureSummary :=
  snapshot.adapterRecords.filterMap (automaticCaptureSummary? env)

def automaticCaptureCounts : AutomaticCaptureTotals :=
  (snapshot.automaticCaptureSummaries env).foldl AutomaticCaptureTotals.add {}

def automaticCaptureAttempts (windowEnd : DateTime) : ℕ :=
  ((snapshot.automaticCaptureSummaries env).filter (·.windowEnd = windowEnd)).length

end

/-- Whether everything through the final slot is captured. -/
def finalCaptureIsComplete (snapshot : AcquisitionSnapshot)
    (authorized : List WsprLiveAcquisitionPlan) (capturedThrough : DateTime) : Bool :=
  snapshot.projectedSlots.getLast?.any fun finalSlot =>
    snapshot.finalCompletedSlotId == some finalSlot.slotId &&
      authorized.any (·.completedSlotId == finalSlot.slotId) &&
        (slotEnd? finalSlot).any (· ≤ capturedThrough)

end AcquisitionSnapshot

end AntennaBench
