import AntennaBench.Core.OperatorEventsV3

/-!
# WSPR run projection

`project_wspr_run_v3` walks the events once, opening and closing antenna
occupancies and collecting the armed cycles; `ProjectionState.step` is the body
of that loop.
-/

namespace AntennaBench

structure AntennaOccupancyIntervalV3 where
  antennaLabel : String
  startsAt : DateTime
  endsAt : Option DateTime
  readyEventId : String
  deriving DecidableEq

structure ArmedWsprCycleV3 where
  intentId : String
  sequenceNumber : ℕ
  band : Band
  antennaLabel : String
  readyAt : DateTime
  readyEventId : String
  window : WsprCycleWindow
  occupancyFullyCoversTransmission : Bool
  deriving DecidableEq

structure WsprRunDiagnosticV3 where
  code : String
  eventId : String
  message : String
  deriving DecidableEq

structure WsprRunProjectionV3 where
  occupancies : List AntennaOccupancyIntervalV3
  cycles : List ArmedWsprCycleV3
  skippedIntentIds : List String
  diagnostics : List WsprRunDiagnosticV3
  deriving DecidableEq

/-- `char::escape_debug`. A character beyond U+009F stands for itself. -/
def escapeDebug (c : Char) : List Char :=
  if c == '"' || c == '\\' then ['\\', c]
  else if c == '\x00' then ['\\', '0']
  else if c == '\t' then ['\\', 't']
  else if c == '\r' then ['\\', 'r']
  else if c == '\n' then ['\\', 'n']
  else if c.toNat < 32 ∨ (127 ≤ c.toNat ∧ c.toNat < 160) then
    "\\u\x7b".toList ++ Nat.toDigits 16 c.toNat ++ "\x7d".toList
  else [c]

/-- `{value:?}` of a string. -/
def debugString (value : String) : String :=
  "\"" ++ String.ofList (value.toList.flatMap escapeDebug) ++ "\""

def OperatorEventPayloadV3.closesOccupancy : OperatorEventPayloadV3 → Bool
  | antennaSwitchStarted _ | sessionInterrupted _ | interruptionDetected _ | sessionEnded _
  | sessionAbandoned _ => true
  | _ => false

def ScheduleV3.findIntent? (schedule : ScheduleV3) (intentId : String) :
    Option WsprCycleIntentV3 :=
  schedule.wsprCycleIntents.find? (·.intentId == intentId)

/-- The intent identities of the effective missed-slot events. -/
def skippedIntents (schedule : ScheduleV3) (events : List OperatorEventV3) : List String :=
  ((reduceOperatorEventsV3 .ready events).effectiveEvents.filterMap fun event =>
    match event.payload with
    | .slotMissed _ => event.slotId
    | _ => none).filter fun intentId => (schedule.findIntent? intentId).isSome

structure ProjectionState where
  occupancies : List AntennaOccupancyIntervalV3
  cycles : List ArmedWsprCycleV3
  diagnostics : List WsprRunDiagnosticV3
  openOccupancy : Option AntennaOccupancyIntervalV3
  seenIntents : List String

namespace ProjectionState

def report (state : ProjectionState) (code : String) (event : OperatorEventV3)
    (message : String) : ProjectionState :=
  { state with diagnostics := state.diagnostics ++ [⟨code, event.eventId, message⟩] }

def closeOccupancy (state : ProjectionState) (event : OperatorEventV3) : ProjectionState :=
  match state.openOccupancy with
  | none => state
  | some interval =>
    let state := { state with openOccupancy := none }
    if event.occurredAt < interval.startsAt then
      let state := state.report "wspr_run.non_monotonic_action" event
        "operator action time moved backwards across an antenna interval"
      { state with
        occupancies := state.occupancies ++ [{ interval with endsAt := interval.startsAt }] }
    else
      { state with
        occupancies := state.occupancies ++ [{ interval with endsAt := event.occurredAt }] }

/-- The part of an armed event after its readiness: the intent and the window. -/
def armCycle (schedule : ScheduleV3) (skipped : List String) (state : ProjectionState)
    (event : OperatorEventV3) (antennaLabel : String) (cycleStartsAt : DateTime)
    (continuedSource : Option String) : ProjectionState :=
  match event.slotId with
  | none =>
    state.report "wspr_run.missing_intent" event
      "armed WSPR cycle does not identify a cycle intent"
  | some intentId =>
    match schedule.findIntent? intentId with
    | none =>
      state.report "wspr_run.unknown_intent" event
        ("armed WSPR cycle references unknown intent " ++ debugString intentId)
    | some intent =>
      if state.seenIntents.contains intentId then
        state.report "wspr_run.intent_reused" event
          ("cycle intent " ++ debugString intentId ++ " was armed more than once")
      else
        let expected? := schedule.wsprCycleIntents.find? fun expected =>
          !state.seenIntents.contains expected.intentId && !skipped.contains expected.intentId
        if expected?.any (·.intentId ≠ intentId) then
          state.report "wspr_run.intent_out_of_order" event
            ("cycle intent " ++ debugString intentId ++
              " was armed before the preceding intended cycles")
        else
          let state := { state with seenIntents := intentId :: state.seenIntents }
          match WsprCycleWindow.fromStart? cycleStartsAt with
          | none =>
            state.report "wspr_run.invalid_cycle_start" event
              "armed cycle is not aligned to the WSPR protocol"
          | some window =>
            if window.startsAt < event.occurredAt then
              state.report "wspr_run.cycle_before_ready" event
                "armed cycle starts before the antenna readiness action"
            else
              let readyAt? := continuedSource.bind fun source =>
                (state.openOccupancy.filter (·.readyEventId == source)).map (·.startsAt)
              { state with
                cycles := state.cycles ++ [{
                  intentId := intent.intentId
                  sequenceNumber := intent.sequenceNumber
                  band := intent.band
                  antennaLabel := antennaLabel
                  readyAt := readyAt?.getD event.occurredAt
                  readyEventId := continuedSource.getD event.eventId
                  window := window
                  occupancyFullyCoversTransmission := false }] }

/-- One iteration of the loop of `project_wspr_run_v3`. -/
def step (schedule : ScheduleV3) (skipped : List String) (state : ProjectionState)
    (event : OperatorEventV3) : ProjectionState :=
  if event.payload.closesOccupancy then state.closeOccupancy event
  else match event.payload with
  | .wsprCycleArmed antennaLabel cycleStartsAt readiness =>
    match readiness with
    | some (.continued sourceReadyEventId) =>
      if state.openOccupancy.any fun occupancy =>
          occupancy.antennaLabel == antennaLabel &&
            occupancy.readyEventId == sourceReadyEventId then
        armCycle schedule skipped state event antennaLabel cycleStartsAt sourceReadyEventId
      else
        state.report "wspr_run.invalid_continued_readiness" event
          "continued readiness does not reference the still-open antenna occupancy"
    | _ =>
      let state := state.closeOccupancy event
      let state := { state with
        openOccupancy := some ⟨antennaLabel, event.occurredAt, none, event.eventId⟩ }
      armCycle schedule skipped state event antennaLabel cycleStartsAt none
  | _ => state

end ProjectionState

def occupancyCovers (occupancies : List AntennaOccupancyIntervalV3)
    (cycle : ArmedWsprCycleV3) : Bool :=
  occupancies.any fun interval =>
    interval.readyEventId == cycle.readyEventId &&
      interval.antennaLabel == cycle.antennaLabel &&
      interval.startsAt ≤ cycle.window.startsAt &&
      interval.endsAt.all (cycle.window.transmissionEndsAt ≤ ·)

def projectWsprRunV3 (schedule : ScheduleV3) (events : List OperatorEventV3) :
    WsprRunProjectionV3 :=
  let skipped := skippedIntents schedule events
  let state := events.foldl (ProjectionState.step schedule skipped) ⟨[], [], [], none, []⟩
  let occupancies := state.occupancies ++ state.openOccupancy.toList
  { occupancies
    cycles := state.cycles.map fun cycle =>
      { cycle with occupancyFullyCoversTransmission := occupancyCovers occupancies cycle }
    skippedIntentIds := (schedule.wsprCycleIntents.filter
      fun intent => skipped.contains intent.intentId).map (·.intentId)
    diagnostics := state.diagnostics }

end AntennaBench
