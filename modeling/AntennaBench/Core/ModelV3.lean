import AntennaBench.Core.Model

/-!
# Schema-v3 to schema-v6 records

Signal plans and WSPR intentions (v3), antenna control (v5), runtime contexts
and operational diagnostics (v6), and the bundle contents that hold them.
-/

namespace AntennaBench

inductive SignalModeV3 where
  | cw
  | rtty
  deriving DecidableEq

inductive SignalCollectionProfileV3 where
  | manualObservation
  | rbnCwV1
  deriving DecidableEq

structure SignalCadenceV3 where
  message : String
  repetitionCount : ℕ
  keySpeedWpm : Option ℕ
  transmitSeconds : ℕ
  intervalSeconds : ℕ
  deriving DecidableEq

/-- Signal identities are transparent strings on the wire: reading one does not
validate it. -/
abbrev SignalPlanIdV3 := String

structure SignalPlanV3 where
  signalPlanId : SignalPlanIdV3
  mode : SignalModeV3
  plannedPowerWatts : Option IeeeFloat
  transmittedCallsign : String
  differingIdentityValidated : Bool
  cadence : SignalCadenceV3
  collectionProfile : SignalCollectionProfileV3
  deriving BEq

structure SignalAllocationV3 where
  signalPlanId : SignalPlanIdV3
  frequencyHz : ℕ
  frequencyVariantId : String
  counterbalanceBlockId : String
  counterbalancePosition : ℕ
  deriving DecidableEq

structure PlannedSlotV3 where
  slotId : String
  sequenceNumber : ℕ
  startsAt : DateTime
  durationSeconds : ℕ
  guardSeconds : ℕ
  band : Band
  antennaLabel : String
  signal : Option SignalAllocationV3
  deriving DecidableEq

inductive WsprCycleDirection where
  | receive
  | transmit
  deriving DecidableEq

structure WsprCycleIntentV3 where
  intentId : String
  sequenceNumber : ℕ
  band : Band
  antennaLabel : String
  direction : Option WsprCycleDirection
  signal : Option SignalAllocationV3
  deriving DecidableEq

inductive AntennaControlInvocationPolicyV5 where
  | operatorTriggered
  | automatic
  deriving DecidableEq

inductive AntennaControlPolicyV5 where
  | manual
  | commandControlled (invocation : AntennaControlInvocationPolicyV5)
      (manualReviewRequired : Bool)
  deriving DecidableEq

inductive WsprReadinessBasisV5 where
  | operatorConfirmed
  | commandVerified (switchRecordId verificationRecordId : String)
  | continued (sourceReadyEventId : String)
  deriving DecidableEq

structure ScheduleV3 where
  schemaVersion : ℕ
  sessionId : String
  mode : ExperimentMode
  goal : SessionGoal
  antennaControl : Option AntennaControlPolicyV5
  signalPlans : List SignalPlanV3
  wsprCycleIntents : List WsprCycleIntentV3
  slots : List PlannedSlotV3
  deriving BEq

structure SignalStateConfirmationV3 where
  frequencyHz : Option ℕ
  mode : Option SignalModeV3
  powerWatts : Option IeeeFloat
  transmittedCallsign : Option String
  cadenceFollowed : Option Bool
  note : Option String
  deriving BEq

inductive CorrectableOperatorEventPayloadV3 where
  | antennaStateConfirmed (antennaLabel : String) (note : Option String)
  | signalStateConfirmed (confirmation : SignalStateConfirmationV3)
  | slotMissed (reason : Option String)
  | slotBad (reason : String)
  | noteAdded (note : String)
  deriving BEq

structure ReplacementOperatorEventV3 where
  occurredAt : DateTime
  timeBasis : EventTimeBasisV2
  uncertaintySeconds : Option ℕ
  slotId : Option String
  payload : CorrectableOperatorEventPayloadV3
  deriving BEq

inductive EventCorrectionActionV3 where
  | retract
  | replace (replacement : ReplacementOperatorEventV3)
  deriving BEq

inductive OperatorEventPayloadV3 where
  | sessionStarted (note : Option String)
  | sessionInterrupted (reason : Option String)
  | interruptionDetected (reason : Option String)
  | sessionResumed (note : Option String)
  | sessionEnded (reason : Option String)
  | sessionAbandoned (reason : Option String)
  | antennaSwitchStarted (note : Option String)
  | wsprCycleArmed (antennaLabel : String) (cycleStartsAt : DateTime)
      (readiness : Option WsprReadinessBasisV5)
  | antennaStateConfirmed (antennaLabel : String) (note : Option String)
  | signalStateConfirmed (confirmation : SignalStateConfirmationV3)
  | slotMissed (reason : Option String)
  | slotBad (reason : String)
  | noteAdded (note : String)
  | eventCorrected (targetEventId : String) (correction : EventCorrectionActionV3)
      (reason : String)
  deriving BEq

structure OperatorEventV3 where
  recordMeta : RecordMetaV3
  eventId : String
  occurredAt : DateTime
  timeBasis : EventTimeBasisV2
  uncertaintySeconds : Option ℕ
  slotId : Option String
  payload : OperatorEventPayloadV3
  deriving BEq

inductive AntennaControlRoleV5 where
  | switch
  | verification
  deriving DecidableEq

structure AntennaControlCommandV5 where
  programTemplate : String
  argumentTemplates : List String
  resolvedProgram : String
  resolvedArguments : List String
  deriving DecidableEq

structure AntennaControlContextV5 where
  antenna : String
  target : String
  mode : ExperimentMode
  direction : WsprCycleDirection
  band : Band
  frequencyHz : Option ℕ
  sequence : ℕ
  intentId : String
  sessionId : String
  callsign : String
  deriving DecidableEq

inductive AntennaControlDispositionV5 where
  | exit (code : ℤ)
  | spawnError (message : String)
  | signaled (signal : Option ℤ)
  | timeout
  deriving DecidableEq

inductive AntennaControlOutputEncodingV5 where
  | utf8
  | base64
  deriving DecidableEq

structure AntennaControlOutputV5 where
  encoding : AntennaControlOutputEncodingV5
  data : String
  truncated : Bool
  deriving DecidableEq

structure AntennaControlInvocationV5 where
  role : AntennaControlRoleV5
  controllerProfileName : String
  controllerProfileRevision : String
  command : AntennaControlCommandV5
  context : AntennaControlContextV5
  startedAt : DateTime
  completedAt : DateTime
  elapsedMilliseconds : ℕ
  disposition : AntennaControlDispositionV5
  stdout : AntennaControlOutputV5
  stderr : AntennaControlOutputV5
  deriving DecidableEq

structure RigRecordV3 where
  recordMeta : RecordMetaV3
  recordId : String
  adapterRecordIds : List String
  status : String
  frequencyHz : Option ℕ
  mode : Option String
  powerWatts : Option IeeeFloat
  antennaControl : Option AntennaControlInvocationV5
  raw : JsonValue
  deriving BEq

inductive SourceStateV6 where
  | clean
  | dirty
  | unknown
  deriving DecidableEq

inductive BuildChannelV6 where
  | officialRelease
  | development
  | local
  | unknown
  deriving DecidableEq

/-- The only timestamp source is `SourceDateEpoch`. -/
structure BuildTimestampV6 where
  value : DateTime
  deriving DecidableEq

structure BuildIdentityV6 where
  appVersion : Option String
  sourceCommit : Option String
  sourceState : SourceStateV6
  buildChannel : BuildChannelV6
  releaseTag : Option String
  targetTriple : Option String
  buildArchitecture : Option String
  buildTimestamp : Option BuildTimestampV6
  deriving DecidableEq

structure RuntimePlatformV6 where
  osFamily : Option String
  osVersion : Option String
  runtimeArchitecture : Option String
  applicationId : Option String
  deriving DecidableEq

structure RuntimeContextV6 where
  schema : String
  contextId : String
  firstRecordedAt : DateTime
  mutation : MutationMember
  build : BuildIdentityV6
  platform : RuntimePlatformV6
  deriving DecidableEq

inductive DiagnosticOperationV6 where
  | sessionMutation
  | checkpointRecovery
  | wsprLiveAcquisition
  | adapterFileImport
  | wsjtxIntake
  | antennaControllerAttach
  | antennaControllerSwitch
  | antennaControllerVerify
  | reportRender
  | reportExport
  | bundleExport
  deriving DecidableEq

inductive DiagnosticPhaseV6 where
  | admission
  | preflight
  | acquire
  | parse
  | normalize
  | serialize
  | checkpoint
  | finalize
  | recover
  | render
  | writeDestination
  deriving DecidableEq

inductive DiagnosticOutcomeV6 where
  | failed
  | partially
  | recovered
  | cancelled
  | completedIdempotently
  | unknown
  deriving DecidableEq

inductive DiagnosticSeverityV6 where
  | info
  | warning
  | error
  deriving DecidableEq

inductive EvidenceEffectV6 where
  | noneCommitted
  | earlierEvidenceRetained
  | primaryEvidenceCommitted
  | priorCommitReused
  | cancelledBeforeEffect
  | unknown
  deriving DecidableEq

inductive RetryDispositionV6 where
  | retryable
  | requiresStateChange
  | requiresInputChange
  | notRetryable
  | unknown
  deriving DecidableEq

structure DiagnosticRetryV6 where
  disposition : RetryDispositionV6
  guidanceCode : String
  deriving DecidableEq

inductive DiagnosticTargetV6 where
  | adapter (id : String)
  | source (id : String)
  | mutation (id : String)
  | record (id : String)
  | slot (id : String)
  | intent (id : String)
  | acquisitionWindow (start finish : DateTime)
  deriving DecidableEq

inductive DiagnosticFactValueV6 where
  | bool (value : Bool)
  | i64 (value : ℤ)
  | u64 (value : ℕ)
  | timestamp (value : DateTime)
  | enum (value : String)
  | identifier (value : String)
  deriving DecidableEq

structure DiagnosticFactV6 where
  name : String
  value : DiagnosticFactValueV6
  deriving DecidableEq

structure DiagnosticCauseV6 where
  code : String
  phase : DiagnosticPhaseV6
  facts : List DiagnosticFactV6
  deriving DecidableEq

inductive DiagnosticDetailStateV6 where
  | complete
  | truncated
  deriving DecidableEq

structure DiagnosticDetailStatusV6 where
  state : DiagnosticDetailStateV6
  omittedFactCount : ℕ
  deriving DecidableEq

structure OperationalDiagnosticV6 where
  schema : String
  diagnosticId : String
  correlationId : String
  attemptId : String
  mutation : MutationMember
  runtimeContextId : String
  occurredAt : DateTime
  operation : DiagnosticOperationV6
  phase : DiagnosticPhaseV6
  code : String
  summary : String
  outcome : DiagnosticOutcomeV6
  severity : DiagnosticSeverityV6
  revisionBefore : Option ℕ
  revisionAfter : Option ℕ
  diagnosticRevision : ℕ
  evidenceEffect : EvidenceEffectV6
  retry : DiagnosticRetryV6
  targets : List DiagnosticTargetV6
  causes : List DiagnosticCauseV6
  detailStatus : DiagnosticDetailStatusV6
  deriving DecidableEq

structure BundleV3Contents where
  manifest : BundleManifestV2
  sessionState : SessionStateV2
  station : Station
  antennas : AntennasFile
  schedule : ScheduleV3
  events : List OperatorEventV3
  observations : List ObservationRecordV2
  adapterRecords : List AdapterRecordV2
  rig : List RigRecordV3
  propagation : List PropagationRecordV2
  analysis : AnalysisFile
  runtimeContexts : List RuntimeContextV6
  diagnostics : List OperationalDiagnosticV6

end AntennaBench
