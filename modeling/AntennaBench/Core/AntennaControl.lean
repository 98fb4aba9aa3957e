import AntennaBench.Core.Result
import AntennaBench.Core.SignalPlan

/-!
# Schema-v5 antenna control

`validate_antenna_control_v5` and its helpers. Decoding base64 belongs to a
third-party crate; the model takes the decoded length as a parameter.
-/

namespace AntennaBench

def schemaVersionV2 : ℕ := 2
def schemaVersionV3 : ℕ := 3
def schemaVersionV4 : ℕ := 4
def schemaVersionV5 : ℕ := 5
def schemaVersionV6 : ℕ := 6

def commandOutputMaxBytes : ℕ := 64 * 1024
def commandTemplateMaxBytes : ℕ := 16 * 1024
def commandProgramMaxBytes : ℕ := 4 * 1024
def commandArgumentMaxBytes : ℕ := 16 * 1024
def commandArgumentCountMax : ℕ := 128
def commandInvocationMaxBytes : ℕ := 32 * 1024

namespace AntennaControl

variable (base64Length : String → Option ℕ)

def validateOutputV5 (output : AntennaControlOutputV5) : Except String Unit := do
  let byteLen ← match output.encoding with
    | .utf8 => .ok output.data.utf8ByteSize
    | .base64 =>
      orError (base64Length output.data) "antenna-control output contains invalid base64"
  failIf (commandOutputMaxBytes < byteLen)
    "antenna-control output exceeds the 64 KiB capture limit"

def invocationBytes (command : AntennaControlCommandV5) : ℕ :=
  command.programTemplate.utf8ByteSize + (command.argumentTemplates.map (·.utf8ByteSize)).sum +
    command.resolvedProgram.utf8ByteSize + (command.resolvedArguments.map (·.utf8ByteSize)).sum

/-- The bounded shape of a command record, before its intention is looked up. -/
def invalidBoundedInvocation (record : RigRecordV3) (invocation : AntennaControlInvocationV5)
    (bundle : BundleV3Contents) : Bool :=
  let command := invocation.command
  !record.adapterRecordIds.isEmpty || record.status != "antenna_control_attempt" ||
    record.frequencyHz.isSome || record.mode.isSome || record.powerWatts.isSome ||
    !record.raw.isNull || invocation.context.sessionId != bundle.manifest.sessionId ||
    invocation.completedAt < invocation.startedAt ||
    record.recordMeta.recordedAt < invocation.completedAt ||
    invocation.controllerProfileName.isEmpty ||
    256 < invocation.controllerProfileName.utf8ByteSize ||
    invocation.controllerProfileRevision.isEmpty ||
    256 < invocation.controllerProfileRevision.utf8ByteSize ||
    command.programTemplate.isEmpty ||
    commandTemplateMaxBytes < command.programTemplate.utf8ByteSize ||
    command.resolvedProgram.isEmpty ||
    commandProgramMaxBytes < command.resolvedProgram.utf8ByteSize ||
    commandArgumentCountMax < command.argumentTemplates.length ||
    command.resolvedArguments.length != command.argumentTemplates.length ||
    command.argumentTemplates.any (commandArgumentMaxBytes < ·.utf8ByteSize) ||
    command.resolvedArguments.any (commandArgumentMaxBytes < ·.utf8ByteSize) ||
    invocation.context.target.isEmpty ||
    commandArgumentMaxBytes < invocation.context.target.utf8ByteSize ||
    (match invocation.disposition with
      | .spawnError message => decide (commandArgumentMaxBytes < message.utf8ByteSize)
      | _ => false)

/-- The command context does not restate its intention and its session. -/
def contextMismatch (invocation : AntennaControlInvocationV5) (intent : WsprCycleIntentV3)
    (bundle : BundleV3Contents) : Bool :=
  let context := invocation.context
  context.antenna != intent.antennaLabel || context.mode != bundle.schedule.mode ||
    some context.direction != intent.direction || context.band != intent.band ||
    context.frequencyHz != intent.signal.map (·.frequencyHz) ||
    context.sequence != intent.sequenceNumber || context.callsign != bundle.station.callsign

def validateInvocationV5 (record : RigRecordV3) (invocation : AntennaControlInvocationV5)
    (bundle : BundleV3Contents) : Except String Unit := do
  let name := "rig record " ++ debugString record.recordId
  failIf (invalidBoundedInvocation record invocation bundle)
    (name ++ " has an invalid bounded command invocation")
  let intent ← orError (bundle.schedule.findIntent? invocation.context.intentId)
    (name ++ " references an unknown command intention")
  failIf (contextMismatch invocation intent bundle)
    (name ++ " has command context that does not match its intention")
  failIf (commandInvocationMaxBytes < invocationBytes invocation.command)
    (name ++ " exceeds the expanded invocation limit")
  let elapsed := (invocation.completedAt - invocation.startedAt).tdiv DateTime.nanosPerMilli
  failIf (elapsed < 0 || elapsed != invocation.elapsedMilliseconds)
    (name ++ " has inconsistent command timing")
  validateOutputV5 base64Length invocation.stdout
  validateOutputV5 base64Length invocation.stderr

def referencedInvocation (bundle : BundleV3Contents) (recordId : String)
    (role : AntennaControlRoleV5) :
    Except String (RigRecordV3 × AntennaControlInvocationV5) := do
  let record ← orError (bundle.rig.find? (·.recordId == recordId))
    ("command-verified readiness references missing rig record " ++ debugString recordId)
  let invocation ← orError record.antennaControl
    ("referenced rig record " ++ debugString recordId ++
      " is not an antenna-control invocation")
  failIf (invocation.role != role)
    ("referenced rig record " ++ debugString recordId ++ " has the wrong role")
  return (record, invocation)

/-- The events that end the occupancy a continued readiness relies on. -/
def endsReadiness : OperatorEventPayloadV3 → Bool
  | .antennaSwitchStarted _ | .sessionInterrupted _ | .interruptionDetected _ | .sessionEnded _
  | .sessionAbandoned _ => true
  | .wsprCycleArmed _ _ (some (.continued _)) => false
  | .wsprCycleArmed .. => true
  | _ => false

def armedWindow? (event : OperatorEventV3) : Option WsprCycleWindow :=
  match event.payload with
  | .wsprCycleArmed _ cycleStartsAt _ => WsprCycleWindow.fromStart? cycleStartsAt
  | _ => none

def activeTransmissionText : String :=
  "continued readiness cannot be recorded during an active transmission"

def validateContinuedReadiness (bundle : BundleV3Contents) (event : OperatorEventV3)
    (antennaLabel sourceReadyEventId : String) : Except String Unit := do
  failIf (bundle.manifest.schemaVersion < schemaVersionV6)
    "continued readiness requires schema v6"
  let eventIndex ← orError (bundle.events.findIdx? (·.eventId == event.eventId))
    "continued readiness event is missing from its bundle"
  let sourceIndex ← orError (bundle.events.findIdx? (·.eventId == sourceReadyEventId))
    "continued readiness references an unknown source event"
  failIf (eventIndex ≤ sourceIndex) "continued readiness must reference earlier readiness"
  let source ← orError bundle.events[sourceIndex]?
    "continued readiness references an unknown source event"
  match source.payload with
  | .wsprCycleArmed sourceAntenna sourceStartsAt sourceReadiness =>
    failIf (match sourceReadiness with | some (.continued _) => true | _ => false)
      "continued readiness must reference original readiness evidence"
    failIf (sourceAntenna != antennaLabel) "continued readiness cannot change the antenna"
    let sourceIntentId ← orError source.slotId "continued readiness source has no intention"
    let intentId ← orError event.slotId "continued readiness has no intention"
    let sourceIntent ← orError (bundle.schedule.findIntent? sourceIntentId)
      "continued readiness source intention is unknown"
    let intent ← orError (bundle.schedule.findIntent? intentId)
      "continued readiness intention is unknown"
    failIf (sourceIntent.antennaLabel != intent.antennaLabel ||
        sourceIntent.direction != intent.direction || sourceIntent.band != intent.band ||
        sourceIntent.signal != intent.signal)
      "continued readiness cannot change antenna, direction, band, or signal context"
    let sourceWindow ← orError (WsprCycleWindow.fromStart? sourceStartsAt)
      "continued readiness source has invalid WSPR timing"
    failIf (event.occurredAt < sourceWindow.transmissionEndsAt) activeTransmissionText
    let latestPriorWindow ← orError ((bundle.events.take eventIndex).reverse.findSome? armedWindow?)
      "continued readiness has no prior armed cycle"
    failIf (event.occurredAt < latestPriorWindow.transmissionEndsAt) activeTransmissionText
    failIf (((bundle.events.take eventIndex).drop (sourceIndex + 1)).any
        fun candidate => endsReadiness candidate.payload)
      "continued readiness source no longer owns an open antenna occupancy"
  | _ => .error "continued readiness source is not an armed WSPR cycle"

/-- The per-record checks of a command-verified readiness, for one of its two
rig records. -/
def validateVerifiedRecord (bundle : BundleV3Contents) (event : OperatorEventV3)
    (antennaLabel : String) (intent : WsprCycleIntentV3)
    (entry : RigRecordV3 × AntennaControlInvocationV5) : Except String Unit := do
  let (record, invocation) := entry
  let context := invocation.context
  let failedText := "command-verified readiness has a failed, future, or mismatched " ++
    "invocation reference"
  failIf (invocation.disposition != .exit 0 ||
      context.sessionId != bundle.manifest.sessionId || context.intentId != intent.intentId ||
      context.antenna != antennaLabel || context.antenna != intent.antennaLabel ||
      context.mode != bundle.schedule.mode) failedText
  let direction ← orError intent.direction "command-verified intention requires a direction"
  failIf (context.direction != direction || context.band != intent.band ||
      context.frequencyHz != intent.signal.map (·.frequencyHz) ||
      context.sequence != intent.sequenceNumber ||
      context.callsign != bundle.station.callsign ||
      event.recordMeta.recordedAt < record.recordMeta.recordedAt ||
      event.recordMeta.recordedAt < invocation.completedAt) failedText
  failIf (record.recordMeta.mutation.mutationId != event.recordMeta.mutation.mutationId ||
      record.recordMeta.mutation.memberCount != 3 || event.recordMeta.mutation.memberCount != 3)
    "command-verified rig records and armed event must share one three-member mutation"

def validateCommandVerified (bundle : BundleV3Contents) (event : OperatorEventV3)
    (antennaLabel switchRecordId verificationRecordId : String) : Except String Unit := do
  failIf (match bundle.schedule.antennaControl with
      | some (.commandControlled _ false) => false
      | _ => true)
    "command-verified readiness is incompatible with the session antenna-control policy"
  let intentId ← orError event.slotId
    "command-verified readiness requires an intention reference"
  let intent ← orError (bundle.schedule.findIntent? intentId)
    "command-verified readiness references an unknown intention"
  let switch ← referencedInvocation bundle switchRecordId .switch
  let verification ← referencedInvocation bundle verificationRecordId .verification
  validateVerifiedRecord bundle event antennaLabel intent switch
  validateVerifiedRecord bundle event antennaLabel intent verification
  failIf (switch.2.context.target != verification.2.context.target ||
      switch.2.controllerProfileName != verification.2.controllerProfileName ||
      switch.2.controllerProfileRevision != verification.2.controllerProfileRevision ||
      switch.1.recordMeta.mutation.memberIndex != 0 ||
      verification.1.recordMeta.mutation.memberIndex != 1 ||
      event.recordMeta.mutation.memberIndex != 2 ||
      verification.2.startedAt < switch.2.completedAt)
    "command-verified mutation order or target context is invalid"

/-- One event of the readiness loop; the state is the rig records referenced so far. -/
def validateReadiness (bundle : BundleV3Contents) (referenced : List String)
    (event : OperatorEventV3) : Except String (List String) :=
  match event.payload with
  | .wsprCycleArmed _ _ none =>
    .error "schema-v5 armed WSPR cycles require an explicit readiness basis"
  | .wsprCycleArmed antennaLabel _ (some (.continued sourceReadyEventId)) => do
    validateContinuedReadiness bundle event antennaLabel sourceReadyEventId
    return referenced
  | .wsprCycleArmed antennaLabel _
      (some (.commandVerified switchRecordId verificationRecordId)) => do
    failIf (switchRecordId == verificationRecordId || referenced.contains switchRecordId ||
        referenced.contains verificationRecordId)
      "command-verified readiness references must be distinct and used once"
    validateCommandVerified bundle event antennaLabel switchRecordId verificationRecordId
    return verificationRecordId :: switchRecordId :: referenced
  | _ => .ok referenced

def hasAntennaControlFields (bundle : BundleV3Contents) : Bool :=
  bundle.schedule.antennaControl.isSome || bundle.rig.any (·.antennaControl.isSome) ||
    bundle.events.any fun event =>
      match event.payload with
      | .wsprCycleArmed _ _ (some _) => true
      | _ => false

def validateAntennaControlV5 (bundle : BundleV3Contents) : Except String Unit :=
  if bundle.manifest.schemaVersion < schemaVersionV5 then
    failIf (hasAntennaControlFields bundle)
      "schema-v3/v4 bundles cannot contain schema-v5 antenna-control fields"
  else do
    failIf bundle.schedule.antennaControl.isNone
      "schema-v5 schedules require an explicit antenna-control policy"
    failIf (bundle.rig.any (·.antennaControl.isSome) &&
        (match bundle.schedule.antennaControl with
          | some (.commandControlled ..) => false
          | _ => true))
      "antenna-control invocation evidence requires a command-controlled session policy"
    bundle.rig.forM fun record =>
      match record.antennaControl with
      | some invocation => validateInvocationV5 base64Length record invocation bundle
      | none => .ok ()
    let _ ← bundle.events.foldlM (validateReadiness bundle) []

end AntennaControl

end AntennaBench
