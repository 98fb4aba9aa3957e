import AntennaBench.Conductor.Transition

/-!
# Antenna controller policy

The state the controller keeps beside one open session: the attached association, the worker
flag and the generation that revokes authority, and the one attempt that may run at a time
with the abort that may ask it to stop.
-/

namespace AntennaBench

inductive AutomationStatus where
  | idle
  | waiting
  | running
  | awaitingReview
  | blocked
  deriving DecidableEq

structure AttemptCommit where
  expectedRevision : ℕ
  committedRevision : ℕ
  mutationId : String
  deriving DecidableEq

structure InFlightAttempt where
  id : ℕ
  mutationId : String
  abortRequested : Bool
  deriving DecidableEq

structure RuntimeAssociation where
  profileId : String
  profileRevision : String
  /-- The target of each antenna label. -/
  targets : List (String × String)
  armed : Bool
  generation : ℕ
  deriving DecidableEq

structure ControllerAttemptSummary where
  intentId : String
  successfulSwitch : Bool
  successfulVerification : Option Bool
  detail : String
  deriving DecidableEq

structure AntennaControllerState where
  generation : ℕ := 0
  attached : Option RuntimeAssociation := none
  lastAttempt : Option ControllerAttemptSummary := none
  workerRunning : Bool := false
  automationStatus : AutomationStatus := .idle
  nextAttemptId : ℕ := 0
  active : Option InFlightAttempt := none
  settlement : Option (Except SessionErrorPayload AttemptCommit) := none

def attemptBusy : SessionErrorPayload where
  kind := .busy
  message := "Another antenna-controller attempt is already running."
  detail := "only one Rust-owned controller process may be active"

namespace AntennaControllerState

variable (state : AntennaControllerState)

/-- `begin_attempt`; attempts are numbered with `wrapping_add`. -/
def beginAttempt (mutationId : String) :
    Except SessionErrorPayload (ℕ × AntennaControllerState) :=
  match state.active with
  | some _ => .error attemptBusy
  | none =>
    let id := (state.nextAttemptId + 1) % 2 ^ 64
    .ok (id, { state with
      nextAttemptId := id
      settlement := none
      active := some ⟨id, mutationId, false⟩ })

def abortRequested (attemptId : ℕ) : Bool :=
  state.active.any fun active => active.id = attemptId && active.abortRequested

def settleAttempt (attemptId : ℕ) (result : Except SessionErrorPayload AttemptCommit) :
    AntennaControllerState :=
  match state.active with
  | none => state
  | some active =>
    if active.id ≠ attemptId then state
    else
      let settlement :=
        match result with
        | .ok commit =>
          if commit.mutationId = active.mutationId then .ok commit
          else .error (.reportPipeline
            "antenna-controller persistence settlement did not match the active attempt")
        | .error error => .error error
      { state with active := none, settlement := some settlement }

/-- The part of `cancel_and_wait_for_abort` before it waits. -/
def requestAbort : AntennaControllerState :=
  match state.active with
  | none => state
  | some active =>
    { state with
      active := some { active with abortRequested := true }
      generation := state.generation + 1 }

def revoke : AntennaControllerState :=
  { state with
    generation := state.generation + 1
    attached := none
    lastAttempt := none
    workerRunning := false
    automationStatus := .idle }

def attach (profileId profileRevision : String) (targets : List (String × String))
    (armed : Bool) : AntennaControllerState :=
  let generation := state.generation + 1
  let same := state.attached.any fun attached => attached.profileId = profileId &&
    attached.profileRevision = profileRevision && attached.targets = targets
  { state with
    generation
    attached := some ⟨profileId, profileRevision, targets, armed, generation⟩
    lastAttempt := if same then state.lastAttempt else none
    workerRunning := false
    automationStatus := .idle }

/-- Whether the worker of a generation still has authority. -/
def cancelled (generation : ℕ) : Bool :=
  state.generation ≠ generation

def isCurrent (generation : ℕ) : Bool :=
  state.attached.any (·.generation = generation)

def setStatus (generation : ℕ) (status : AutomationStatus) : AntennaControllerState :=
  if state.isCurrent generation then { state with automationStatus := status } else state

def updateAttempt (generation : ℕ) (summary : ControllerAttemptSummary) : AntennaControllerState :=
  if state.isCurrent generation then
    { state with lastAttempt := some summary, automationStatus := .waiting }
  else state

/-- The end of a worker; `disarm` also revokes the authority of its generation. -/
def finish (generation : ℕ) (status : AutomationStatus)
    (summary : Option ControllerAttemptSummary) (disarm : Bool) : AntennaControllerState :=
  if state.isCurrent generation then
    { state with
      lastAttempt := summary <|> state.lastAttempt
      attached := if disarm then state.attached.map ({ · with armed := false }) else state.attached
      generation := if disarm then state.generation + 1 else state.generation
      workerRunning := false
      automationStatus := status }
  else state

def block (generation : ℕ) (intentId message : String) : AntennaControllerState :=
  state.finish generation .blocked (some ⟨intentId, false, none, message⟩) true

end AntennaControllerState

def transmissionInProgress : SessionErrorPayload where
  kind := .conflict
  message := "Wait for the current WSPR transmission interval to finish before switching."
  detail := "the antenna controller cannot run during the committed transmission interval"

/-- The end of the transmission of the last armed cycle. -/
def priorEnd (bundle : BundleV3Contents) : Option DateTime :=
  (projectWsprRunV3 bundle.schedule bundle.events).cycles.getLast?.map
    (·.window.transmissionEndsAt)

def ensurePriorTransmissionComplete (bundle : BundleV3Contents) (now : DateTime) :
    Except SessionErrorPayload Unit :=
  failIf ((priorEnd bundle).any (now < ·)) transmissionInProgress

def attemptDetail (switchSuccess : Bool) (verificationSuccess : Option Bool)
    (manualReviewRequired : Bool) : String :=
  if !switchSuccess then
    "Switch did not exit successfully. No verification ran; automation is blocked without retry."
  else
    match verificationSuccess, manualReviewRequired with
    | some false, _ =>
      "Switch exited successfully, but verification did not. Automation is blocked without retry."
    | some true, false => "Switch and verification exited successfully. " ++
      "Command verification armed the next eligible WSPR cycle."
    | some true, true => "Switch and verification exited successfully. " ++
      "Awaiting the named operator ready action."
    | none, _ => "Switch exited successfully. " ++
      "No verification command is configured; awaiting operator review."

/-- The record is a switch of the controller for the intention. -/
def RigRecordV3.switchesFor (record : RigRecordV3) (intentId : String) : Bool :=
  record.antennaControl.any fun invocation =>
    invocation.role = .switch && invocation.context.intentId == intentId

/-- The last attempt for the intention the session has evidence of. -/
def committedAttempt (bundle : BundleV3Contents) (intentId : String) :
    Option ControllerAttemptSummary := do
  let switchRecord ← bundle.rig.reverse.find? (·.switchesFor intentId)
  let switch ← switchRecord.antennaControl
  let verification := bundle.rig.findSome? fun record =>
    if record.recordMeta.mutation.mutationId = switchRecord.recordMeta.mutation.mutationId then
      record.antennaControl.filter (·.role = .verification)
    else none
  let switchSuccess := switch.disposition.isExitZero
  let verificationSuccess := verification.map (·.disposition.isExitZero)
  return ⟨intentId, switchSuccess, verificationSuccess,
    attemptDetail switchSuccess verificationSuccess true⟩

def pendingMeta (bundle : BundleV3Contents) (recordedAt : DateTime) : RecordMetaV3 where
  schemaVersion := schemaVersionV5
  sessionId := bundle.manifest.sessionId
  recordedAt := recordedAt
  provenance := .fromLegacy .rigAdapter "local-direct-process-v1"
  mutation := ⟨"pending", 0, 1⟩
  runtimeContextId := none

def commandVerifiedEvent (bundle : BundleV3Contents) (intent : WsprCycleIntentV3)
    (switchRecordId verificationRecordId : String) (readyAt : DateTime) (eventId : String) :
    Except SessionErrorPayload OperatorEventV3 := do
  let cycle ← orError (nextWsprCycleAfterReady? readyAt DateTime.nanosPerSecond)
    { cycleUnavailable with
      message := "The next WSPR cycle could not be calculated after verification." }
  return {
    recordMeta := pendingMeta bundle readyAt
    eventId
    occurredAt := readyAt
    timeBasis := .observedNow
    uncertaintySeconds := none
    slotId := some intent.intentId
    payload := .wsprCycleArmed intent.antennaLabel cycle.startsAt
      (some (.commandVerified switchRecordId verificationRecordId)) }

def rigRecord (bundle : BundleV3Contents) (recordId : String)
    (invocation : AntennaControlInvocationV5) : RigRecordV3 where
  recordMeta := pendingMeta bundle invocation.completedAt
  recordId := recordId
  adapterRecordIds := []
  status := "antenna_control_attempt"
  frequencyHz := none
  mode := none
  powerWatts := none
  antennaControl := some invocation
  raw := .null

/-- `invocation_context`. -/
def invocationContext (bundle : BundleV3Contents) (intent : WsprCycleIntentV3) (target : String) :
    Except String AntennaControlContextV5 := do
  let direction ← orError intent.direction "antenna control requires an intention direction"
  return {
    antenna := intent.antennaLabel
    target
    mode := bundle.schedule.mode
    direction
    band := intent.band
    frequencyHz := intent.signal.map (·.frequencyHz)
    sequence := intent.sequenceNumber
    intentId := intent.intentId
    sessionId := bundle.manifest.sessionId
    callsign := bundle.station.callsign }

end AntennaBench
