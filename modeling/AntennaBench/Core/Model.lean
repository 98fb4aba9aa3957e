import AntennaBench.Core.Value

/-!
# Schema-v1 and schema-v2 records

The modeled contents of a bundle. Structures follow the source field by field;
`deriving BEq` stands for `derive(PartialEq)` where a record carries a float.
-/

namespace AntennaBench

inductive ExperimentMode where
  | wholeStationAb
  | txFocused
  | rxFocused
  | singleAntennaProfiling
  deriving DecidableEq

inductive SessionGoal where
  | dx
  | regional
  | nvisLocal
  | generalCoverage
  | weakSignalReliability
  | singleAntennaProfiling
  deriving DecidableEq

inductive Band where
  | m160 | m80 | m60 | m40 | m30 | m20 | m17 | m15 | m12 | m10 | m6 | m2
  deriving DecidableEq

inductive RecordSource where
  | operator
  | wsjtxUdp
  | wsjtxLog
  | wsprnet
  | wsprLive
  | importedFile
  | rigAdapter
  | noaaSwpc
  | derived
  deriving DecidableEq

structure Station where
  schemaVersion : ℕ
  sessionId : String
  callsign : String
  grid : String
  powerWatts : Option IeeeFloat
  operatorNotes : Option String
  deriving BEq

structure Antenna where
  label : String
  facets : List String
  heightM : Option IeeeFloat
  radialCount : Option ℕ
  radialLengthM : Option IeeeFloat
  orientationDegrees : Option IeeeFloat
  tuner : Option String
  feedline : Option String
  notes : Option String
  deriving BEq

structure AntennasFile where
  schemaVersion : ℕ
  sessionId : String
  antennas : List Antenna
  deriving BEq

structure PlannedSlot where
  slotId : String
  sequenceNumber : ℕ
  startsAt : DateTime
  durationSeconds : ℕ
  guardSeconds : ℕ
  band : Band
  antennaLabel : String
  deriving DecidableEq

structure Schedule where
  schemaVersion : ℕ
  sessionId : String
  mode : ExperimentMode
  goal : SessionGoal
  slots : List PlannedSlot
  deriving DecidableEq

inductive AnalysisStatus where
  | notRun
  | generated
  deriving DecidableEq

structure AnalysisFile where
  schemaVersion : ℕ
  sessionId : String
  generatedAt : Option DateTime
  status : AnalysisStatus
  notes : List String
  deriving DecidableEq

inductive ObservationKind where
  | localDecode
  | publicReport
  | importedSpot
  deriving DecidableEq

/-- The longest identity, in ASCII bytes. -/
def identityMaxBytes : ℕ := 128

inductive IdentityError where
  | empty
  | tooLong
  | invalidSyntax
  deriving DecidableEq

def isIdentitySeparator (c : Char) : Bool :=
  c == '.' || c == '_' || c == '-'

def isIdentityAlphanumeric (c : Char) : Bool :=
  ('a' ≤ c && c ≤ 'z') || ('0' ≤ c && c ≤ '9')

/-- The scan of `validate_identity`, with `previous_was_separator` as its state. -/
def identitySyntax : Bool → List Char → Bool
  | previousWasSeparator, [] => !previousWasSeparator
  | previousWasSeparator, c :: rest =>
    if isIdentitySeparator c then
      !previousWasSeparator && identitySyntax true rest
    else
      isIdentityAlphanumeric c && identitySyntax false rest

def validateIdentity (value : String) : Except IdentityError Unit :=
  if value.isEmpty then .error .empty
  else if identityMaxBytes < value.utf8ByteSize then .error .tooLong
  else if identitySyntax true value.toList then .ok ()
  else .error .invalidSyntax

/-- The newtypes `identity_type!` declares: only a valid identity can be built. -/
structure Identity where
  value : String
  valid : validateIdentity value = .ok ()
  deriving DecidableEq

def machineIdMaxBytes : ℕ := 128

/-- `validate_machine_identity(value).is_ok()`. -/
def isMachineIdentity (value : String) : Bool :=
  !value.isEmpty && value.utf8ByteSize ≤ machineIdMaxBytes && value.toList.all (·.toNat < 128)

abbrev ProviderId := Identity
abbrev SourceId := Identity
abbrev AcquisitionChannelId := Identity
abbrev AdapterId := Identity
abbrev AdapterReasonId := Identity

structure Provenance where
  providerId : ProviderId
  sourceId : SourceId
  acquisitionChannel : AcquisitionChannelId
  adapterId : AdapterId
  adapterVersion : String
  deriving DecidableEq

/-- The texts of `Provenance::from_legacy`: provider, source, channel and adapter. -/
def legacyProvenance (source : RecordSource) :
    ProviderId × SourceId × AcquisitionChannelId × AdapterId :=
  match source with
  | .operator => (⟨"antennabench", by decide⟩, ⟨"operator-evidence", by decide⟩,
      ⟨"operator-entry", by decide⟩, ⟨"antennabench.operator", by decide⟩)
  | .wsjtxUdp => (⟨"wsjt-x", by decide⟩, ⟨"wspr", by decide⟩,
      ⟨"udp", by decide⟩, ⟨"antennabench.wsjt-x-udp", by decide⟩)
  | .wsjtxLog => (⟨"wsjt-x", by decide⟩, ⟨"all-wspr", by decide⟩,
      ⟨"log-import", by decide⟩, ⟨"antennabench.wsjt-x-log", by decide⟩)
  | .wsprnet => (⟨"wsprnet", by decide⟩, ⟨"spots", by decide⟩,
      ⟨"legacy-unspecified", by decide⟩, ⟨"antennabench.legacy", by decide⟩)
  | .wsprLive => (⟨"wspr-live", by decide⟩, ⟨"spots", by decide⟩,
      ⟨"legacy-unspecified", by decide⟩, ⟨"antennabench.legacy", by decide⟩)
  | .importedFile => (⟨"legacy", by decide⟩, ⟨"imported-file", by decide⟩,
      ⟨"file-import", by decide⟩, ⟨"antennabench.legacy", by decide⟩)
  | .rigAdapter => (⟨"local-rig", by decide⟩, ⟨"rig-state", by decide⟩,
      ⟨"local-adapter", by decide⟩, ⟨"antennabench.rig", by decide⟩)
  | .noaaSwpc => (⟨"noaa-swpc", by decide⟩, ⟨"space-weather", by decide⟩,
      ⟨"https", by decide⟩, ⟨"antennabench.noaa-swpc", by decide⟩)
  | .derived => (⟨"antennabench", by decide⟩, ⟨"derived", by decide⟩,
      ⟨"internal", by decide⟩, ⟨"antennabench.core", by decide⟩)

def Provenance.fromLegacy (source : RecordSource) (adapterVersion : String) : Provenance :=
  let (providerId, sourceId, acquisitionChannel, adapterId) := legacyProvenance source
  { providerId, sourceId, acquisitionChannel, adapterId, adapterVersion }

def Provenance.legacySource (p : Provenance) : RecordSource :=
  let provider := p.providerId.value
  let source := p.sourceId.value
  let channel := p.acquisitionChannel.value
  if provider == "antennabench" && source == "operator-evidence" then .operator
  else if provider == "wsjt-x" && channel == "udp" then .wsjtxUdp
  else if provider == "wsjt-x" && channel == "log-import" then .wsjtxLog
  else if provider == "wsprnet" then .wsprnet
  else if provider == "wspr-live" then .wsprLive
  else if provider == "local-rig" then .rigAdapter
  else if provider == "noaa-swpc" then .noaaSwpc
  else if provider == "antennabench" && source == "derived" then .derived
  else .importedFile

structure MutationMember where
  mutationId : String
  memberIndex : ℕ
  memberCount : ℕ
  deriving DecidableEq

structure RecordMetaV2 where
  schemaVersion : ℕ
  sessionId : String
  recordedAt : DateTime
  provenance : Provenance
  mutation : MutationMember
  runtimeContextId : Option String
  deriving DecidableEq

abbrev RecordMetaV3 := RecordMetaV2

inductive AdapterDisposition where
  | accepted
  | malformed
  | filtered
  | duplicate
  | conflict
  | unsupported
  | partiallyNormalized
  deriving DecidableEq

inductive NormalizedRecordKind where
  | observation
  | rig
  | propagation
  deriving DecidableEq

structure NormalizedRecordLink where
  recordKind : NormalizedRecordKind
  recordId : String
  deriving DecidableEq

structure AttachmentReference where
  sha256 : String
  byteSize : ℕ
  mediaType : String
  encoding : Option String
  container : Option String
  sourceLocator : Option String
  deriving DecidableEq

def isLowerHex (c : Char) : Bool :=
  ('0' ≤ c && c ≤ '9') || ('a' ≤ c && c ≤ 'f')

def hasValidDigest (sha256 : String) : Bool :=
  sha256.utf8ByteSize == 64 && sha256.toList.all isLowerHex

inductive AdapterInput where
  | inline (data mediaType : String) (encoding sourceLocator : Option String)
  | attachment (attachment : AttachmentReference)
  deriving DecidableEq

structure AdapterRecordV2 where
  recordMeta : RecordMetaV2
  recordId : String
  sourceTime : Option DateTime
  recordType : String
  disposition : AdapterDisposition
  reason : AdapterReasonId
  normalizedRecords : List NormalizedRecordLink
  input : AdapterInput
  deriving DecidableEq

inductive EventTimeBasisV2 where
  | observedNow
  | operatorReported
  | recoverySystem
  deriving DecidableEq

inductive CorrectableOperatorEventPayloadV2 where
  | antennaStateConfirmed (antennaLabel : String) (note : Option String)
  | slotMissed (reason : Option String)
  | slotBad (reason : String)
  | noteAdded (note : String)
  deriving DecidableEq

structure ReplacementOperatorEventV2 where
  occurredAt : DateTime
  timeBasis : EventTimeBasisV2
  uncertaintySeconds : Option ℕ
  slotId : Option String
  payload : CorrectableOperatorEventPayloadV2
  deriving DecidableEq

inductive EventCorrectionActionV2 where
  | retract
  | replace (replacement : ReplacementOperatorEventV2)
  deriving DecidableEq

inductive OperatorEventPayloadV2 where
  | sessionStarted (note : Option String)
  | sessionInterrupted (reason : Option String)
  | interruptionDetected (reason : Option String)
  | sessionResumed (note : Option String)
  | sessionEnded (reason : Option String)
  | sessionAbandoned (reason : Option String)
  | antennaStateConfirmed (antennaLabel : String) (note : Option String)
  | slotMissed (reason : Option String)
  | slotBad (reason : String)
  | noteAdded (note : String)
  | eventCorrected (targetEventId : String) (correction : EventCorrectionActionV2)
      (reason : String)
  deriving DecidableEq

structure OperatorEventV2 where
  recordMeta : RecordMetaV2
  eventId : String
  occurredAt : DateTime
  timeBasis : EventTimeBasisV2
  uncertaintySeconds : Option ℕ
  slotId : Option String
  payload : OperatorEventPayloadV2
  deriving DecidableEq

structure ObservationRecordV2 where
  recordMeta : RecordMetaV2
  observationId : String
  adapterRecordIds : List String
  observationKind : ObservationKind
  band : Band
  frequencyHz : Option ℕ
  mode : Option String
  reporterCall : Option String
  heardCall : Option String
  reporterGrid : Option String
  heardGrid : Option String
  distanceKm : Option IeeeFloat
  azimuthDegrees : Option IeeeFloat
  snrDb : Option IeeeFloat
  driftHzPerMinute : Option IeeeFloat
  powerWatts : Option IeeeFloat
  slotId : Option String
  slotLabel : Option String
  slotConfidence : Option IeeeFloat
  raw : JsonValue
  deriving BEq

structure RigRecordV2 where
  recordMeta : RecordMetaV2
  recordId : String
  adapterRecordIds : List String
  status : String
  frequencyHz : Option ℕ
  mode : Option String
  raw : JsonValue
  deriving BEq

structure PropagationRecordV2 where
  recordMeta : RecordMetaV2
  recordId : String
  adapterRecordIds : List String
  observedAt : DateTime
  solarFluxF107 : Option IeeeFloat
  sunspotNumber : Option ℕ
  kpIndex : Option IeeeFloat
  aIndex : Option ℕ
  solarWindSpeedKms : Option IeeeFloat
  bzNt : Option IeeeFloat
  alerts : List String
  daylightState : Option String
  raw : JsonValue
  deriving BEq

structure BundleFilesV2 where
  manifest : String
  sessionState : String
  station : String
  antennas : String
  schedule : String
  events : String
  observations : String
  adapterRecords : String
  rig : String
  propagation : String
  analysis : String
  attachmentsDir : String
  runtimeContexts : Option String
  diagnostics : Option String
  deriving DecidableEq

structure BundleManifestV2 where
  schemaVersion : ℕ
  sessionId : String
  createdAt : DateTime
  appVersion : String
  files : BundleFilesV2
  creatorRuntimeContextId : Option String
  deriving DecidableEq

inductive SessionLifecycleV2 where
  | draft
  | ready
  | running
  | interrupted
  | ended
  | abandoned
  deriving DecidableEq

structure PlanGenerationV2 where
  generationId : String
  stationSha256 : String
  antennasSha256 : String
  scheduleSha256 : String
  rootSha256 : String
  deriving DecidableEq

structure StreamCheckpointV2 where
  committedBytes : ℕ
  recordCount : ℕ
  lastRecordId : Option String
  committedSha256 : String
  deriving DecidableEq

inductive DiagnosticsStateV6 where
  | complete
  | saturated
  | gap
  deriving DecidableEq

structure DiagnosticsStatusV6 where
  state : DiagnosticsStateV6
  omittedCount : ℕ
  firstOmittedAt : Option DateTime
  reasonCode : Option String
  deriving DecidableEq

/-- The checkpoint document. `streams` is the `BTreeMap`, its entries in key order. -/
structure SessionStateV2 where
  schemaVersion : ℕ
  sessionId : String
  revision : ℕ
  lifecycle : SessionLifecycleV2
  wsprLiveAcquisitionEnabled : Bool
  activePlan : PlanGenerationV2
  streams : List (String × StreamCheckpointV2)
  lastCommittedMutationId : Option String
  activeRuntimeContextId : Option String
  diagnosticsStatus : Option DiagnosticsStatusV6
  deriving DecidableEq

structure BundleV2Contents where
  manifest : BundleManifestV2
  sessionState : SessionStateV2
  station : Station
  antennas : AntennasFile
  schedule : Schedule
  events : List OperatorEventV2
  observations : List ObservationRecordV2
  adapterRecords : List AdapterRecordV2
  rig : List RigRecordV2
  propagation : List PropagationRecordV2
  analysis : AnalysisFile

end AntennaBench
