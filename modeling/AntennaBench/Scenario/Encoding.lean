import AntennaBench.Scenario.JsonText
import AntennaBench.Storage.RecoveryV3

/-!
# How the records are written

The JSON texts of the documents and records a session without plans, floats and
antenna control is made of, member by member in the order of the source.
-/

namespace AntennaBench

open JsonText

def strings (values : List String) : JsonText :=
  .array (values.map .string)

def SessionLifecycleV2.text : SessionLifecycleV2 → String
  | draft => "draft"
  | ready => "ready"
  | running => "running"
  | interrupted => "interrupted"
  | ended => "ended"
  | abandoned => "abandoned"

def DiagnosticsStateV6.text : DiagnosticsStateV6 → String
  | complete => "complete"
  | saturated => "saturated"
  | gap => "gap"

def ExperimentMode.text : ExperimentMode → String
  | wholeStationAb => "whole_station_ab"
  | txFocused => "tx_focused"
  | rxFocused => "rx_focused"
  | singleAntennaProfiling => "single_antenna_profiling"

def SessionGoal.text : SessionGoal → String
  | dx => "dx"
  | regional => "regional"
  | nvisLocal => "nvis_local"
  | generalCoverage => "general_coverage"
  | weakSignalReliability => "weak_signal_reliability"
  | singleAntennaProfiling => "single_antenna_profiling"

def EventTimeBasisV2.text : EventTimeBasisV2 → String
  | observedNow => "observed_now"
  | operatorReported => "operator_reported"
  | recoverySystem => "recovery_system"

def DiagnosticOperationV6.text : DiagnosticOperationV6 → String
  | sessionMutation => "session_mutation"
  | checkpointRecovery => "checkpoint_recovery"
  | wsprLiveAcquisition => "wspr_live_acquisition"
  | adapterFileImport => "adapter_file_import"
  | wsjtxIntake => "wsjtx_intake"
  | antennaControllerAttach => "antenna_controller_attach"
  | antennaControllerSwitch => "antenna_controller_switch"
  | antennaControllerVerify => "antenna_controller_verify"
  | reportRender => "report_render"
  | reportExport => "report_export"
  | bundleExport => "bundle_export"

def DiagnosticPhaseV6.text : DiagnosticPhaseV6 → String
  | admission => "admission"
  | preflight => "preflight"
  | acquire => "acquire"
  | parse => "parse"
  | normalize => "normalize"
  | serialize => "serialize"
  | checkpoint => "checkpoint"
  | finalize => "finalize"
  | recover => "recover"
  | render => "render"
  | writeDestination => "write_destination"

def DiagnosticOutcomeV6.text : DiagnosticOutcomeV6 → String
  | failed => "failed"
  | partially => "partial"
  | recovered => "recovered"
  | cancelled => "cancelled"
  | completedIdempotently => "completed_idempotently"
  | unknown => "unknown"

def DiagnosticSeverityV6.text : DiagnosticSeverityV6 → String
  | info => "info"
  | warning => "warning"
  | error => "error"

def EvidenceEffectV6.text : EvidenceEffectV6 → String
  | noneCommitted => "none_committed"
  | earlierEvidenceRetained => "earlier_evidence_retained"
  | primaryEvidenceCommitted => "primary_evidence_committed"
  | priorCommitReused => "prior_commit_reused"
  | cancelledBeforeEffect => "cancelled_before_effect"
  | unknown => "unknown"

def RetryDispositionV6.text : RetryDispositionV6 → String
  | retryable => "retryable"
  | requiresStateChange => "requires_state_change"
  | requiresInputChange => "requires_input_change"
  | notRetryable => "not_retryable"
  | unknown => "unknown"

def DiagnosticDetailStateV6.text : DiagnosticDetailStateV6 → String
  | complete => "complete"
  | truncated => "truncated"

def BundleFilesV2.json (files : BundleFilesV2) : JsonText :=
  .object ([("manifest", .string files.manifest), ("session_state", .string files.sessionState),
    ("station", .string files.station), ("antennas", .string files.antennas),
    ("schedule", .string files.schedule), ("events", .string files.events),
    ("observations", .string files.observations),
    ("adapter_records", .string files.adapterRecords), ("rig", .string files.rig),
    ("propagation", .string files.propagation), ("analysis", .string files.analysis),
    ("attachments_dir", .string files.attachmentsDir)] ++
    member? "runtimeContexts" .string files.runtimeContexts ++
    member? "diagnostics" .string files.diagnostics)

def BundleManifestV2.json (manifest : BundleManifestV2) : JsonText :=
  .object ([("schema_version", .nat manifest.schemaVersion),
    ("session_id", .string manifest.sessionId), ("created_at", instant manifest.createdAt),
    ("app_version", .string manifest.appVersion), ("files", manifest.files.json)] ++
    member? "creatorRuntimeContextId" .string manifest.creatorRuntimeContextId)

def PlanGenerationV2.json (plan : PlanGenerationV2) : JsonText :=
  .object [("generation_id", .string plan.generationId),
    ("station_sha256", .string plan.stationSha256),
    ("antennas_sha256", .string plan.antennasSha256),
    ("schedule_sha256", .string plan.scheduleSha256), ("root_sha256", .string plan.rootSha256)]

def StreamCheckpointV2.json (head : StreamCheckpointV2) : JsonText :=
  .object [("committed_bytes", .nat head.committedBytes), ("record_count", .nat head.recordCount),
    ("last_record_id", optional .string head.lastRecordId),
    ("committed_sha256", .string head.committedSha256)]

def DiagnosticsStatusV6.json (status : DiagnosticsStatusV6) : JsonText :=
  .object ([("state", .string status.state.text), ("omittedCount", .nat status.omittedCount)] ++
    member? "firstOmittedAt" instant status.firstOmittedAt ++
    member? "reasonCode" .string status.reasonCode)

def SessionStateV2.json (state : SessionStateV2) : JsonText :=
  .object ([("schema_version", .nat state.schemaVersion), ("session_id", .string state.sessionId),
    ("revision", .nat state.revision), ("lifecycle", .string state.lifecycle.text)] ++
    (if state.wsprLiveAcquisitionEnabled then [("wspr_live_acquisition_enabled", .bool true)]
      else []) ++
    [("active_plan", state.activePlan.json),
      ("streams", .object (state.streams.map fun entry => (entry.1, entry.2.json))),
      ("last_committed_mutation_id", optional .string state.lastCommittedMutationId)] ++
    member? "activeRuntimeContextId" .string state.activeRuntimeContextId ++
    member? "diagnosticsStatus" DiagnosticsStatusV6.json state.diagnosticsStatus)

/-- A station that reports no power. -/
def Station.json (station : Station) : JsonText :=
  .object [("schema_version", .nat station.schemaVersion),
    ("session_id", .string station.sessionId), ("callsign", .string station.callsign),
    ("grid", .string station.grid), ("power_watts", .null),
    ("operator_notes", optional .string station.operatorNotes)]

/-- An antenna without measures. -/
def Antenna.json (antenna : Antenna) : JsonText :=
  .object [("label", .string antenna.label), ("facets", strings antenna.facets),
    ("height_m", .null), ("radial_count", optional .nat antenna.radialCount),
    ("radial_length_m", .null), ("orientation_degrees", .null),
    ("tuner", optional .string antenna.tuner), ("feedline", optional .string antenna.feedline),
    ("notes", optional .string antenna.notes)]

def AntennasFile.json (file : AntennasFile) : JsonText :=
  .object [("schema_version", .nat file.schemaVersion), ("session_id", .string file.sessionId),
    ("antennas", .array (file.antennas.map Antenna.json))]

def AntennaControlInvocationPolicyV5.text : AntennaControlInvocationPolicyV5 → String
  | operatorTriggered => "operator_triggered"
  | automatic => "automatic"

def AntennaControlPolicyV5.json : AntennaControlPolicyV5 → JsonText
  | manual => .object [("mode", .string "manual")]
  | commandControlled invocation manualReviewRequired =>
    .object [("mode", .string "command_controlled"), ("invocation", .string invocation.text),
      ("manual_review_required", .bool manualReviewRequired)]

/-- A schedule without slots, intents and plans. -/
def ScheduleV3.json (schedule : ScheduleV3) : JsonText :=
  .object ([("schema_version", .nat schedule.schemaVersion),
    ("session_id", .string schedule.sessionId), ("mode", .string schedule.mode.text),
    ("goal", .string schedule.goal.text)] ++
    member? "antenna_control" AntennaControlPolicyV5.json schedule.antennaControl)

def AnalysisStatus.text : AnalysisStatus → String
  | notRun => "not_run"
  | generated => "generated"

def AnalysisFile.json (analysis : AnalysisFile) : JsonText :=
  .object [("schema_version", .nat analysis.schemaVersion),
    ("session_id", .string analysis.sessionId),
    ("generated_at", optional instant analysis.generatedAt),
    ("status", .string analysis.status.text), ("notes", strings analysis.notes)]

def MutationMember.json (member : MutationMember) : JsonText :=
  .object [("mutation_id", .string member.mutationId), ("member_index", .nat member.memberIndex),
    ("member_count", .nat member.memberCount)]

def BuildIdentityV6.json (build : BuildIdentityV6) : JsonText :=
  .object [("appVersion", optional .string build.appVersion),
    ("sourceCommit", optional .string build.sourceCommit),
    ("sourceState", .string build.sourceState.text),
    ("buildChannel", .string build.buildChannel.text),
    ("releaseTag", optional .string build.releaseTag),
    ("targetTriple", optional .string build.targetTriple),
    ("buildArchitecture", optional .string build.buildArchitecture),
    ("buildTimestamp", optional (fun timestamp => .object [("value", instant timestamp.value),
      ("source", .string "source_date_epoch")]) build.buildTimestamp)]

def RuntimePlatformV6.json (platform : RuntimePlatformV6) : JsonText :=
  .object [("osFamily", optional .string platform.osFamily),
    ("osVersion", optional .string platform.osVersion),
    ("runtimeArchitecture", optional .string platform.runtimeArchitecture),
    ("applicationId", optional .string platform.applicationId)]

def RuntimeContextV6.json (context : RuntimeContextV6) : JsonText :=
  .object [("schema", .string context.schema), ("contextId", .string context.contextId),
    ("firstRecordedAt", instant context.firstRecordedAt), ("mutation", context.mutation.json),
    ("build", context.build.json), ("platform", context.platform.json)]

def Provenance.json (provenance : Provenance) : JsonText :=
  .object [("provider_id", .string provenance.providerId.value),
    ("source_id", .string provenance.sourceId.value),
    ("acquisition_channel", .string provenance.acquisitionChannel.value),
    ("adapter_id", .string provenance.adapterId.value),
    ("adapter_version", .string provenance.adapterVersion)]

def RecordMetaV2.json (recordMeta : RecordMetaV2) : JsonText :=
  .object ([("schema_version", .nat recordMeta.schemaVersion),
    ("session_id", .string recordMeta.sessionId), ("recorded_at", instant recordMeta.recordedAt),
    ("provenance", recordMeta.provenance.json), ("mutation", recordMeta.mutation.json)] ++
    member? "runtimeContextId" .string recordMeta.runtimeContextId)

/-- The payloads of a session without cycles, slots and corrections. -/
def OperatorEventPayloadV3.json : OperatorEventPayloadV3 → JsonText
  | sessionStarted note => kind "session_started" "note" note
  | sessionInterrupted reason => kind "session_interrupted" "reason" reason
  | interruptionDetected reason => kind "interruption_detected" "reason" reason
  | sessionResumed note => kind "session_resumed" "note" note
  | sessionEnded reason => kind "session_ended" "reason" reason
  | sessionAbandoned reason => kind "session_abandoned" "reason" reason
  | noteAdded note => kind "note_added" "note" (some note)
  | _ => .null
where
  kind (name key : String) (value : Option String) : JsonText :=
    .object [("kind", .string name), (key, optional .string value)]

def OperatorEventV3.json (event : OperatorEventV3) : JsonText :=
  .object ([("meta", event.recordMeta.json), ("event_id", .string event.eventId),
    ("occurred_at", instant event.occurredAt), ("time_basis", .string event.timeBasis.text)] ++
    member? "uncertainty_seconds" .nat event.uncertaintySeconds ++
    [("slot_id", optional .string event.slotId), ("payload", event.payload.json)])

/-- A diagnostic without targets and causes. -/
def OperationalDiagnosticV6.json (diagnostic : OperationalDiagnosticV6) : JsonText :=
  .object [("schema", .string diagnostic.schema),
    ("diagnosticId", .string diagnostic.diagnosticId),
    ("correlationId", .string diagnostic.correlationId),
    ("attemptId", .string diagnostic.attemptId), ("mutation", diagnostic.mutation.json),
    ("runtimeContextId", .string diagnostic.runtimeContextId),
    ("occurredAt", instant diagnostic.occurredAt),
    ("operation", .string diagnostic.operation.text), ("phase", .string diagnostic.phase.text),
    ("code", .string diagnostic.code), ("summary", .string diagnostic.summary),
    ("outcome", .string diagnostic.outcome.text), ("severity", .string diagnostic.severity.text),
    ("revisionBefore", optional .nat diagnostic.revisionBefore),
    ("revisionAfter", optional .nat diagnostic.revisionAfter),
    ("diagnosticRevision", .nat diagnostic.diagnosticRevision),
    ("evidenceEffect", .string diagnostic.evidenceEffect.text),
    ("retry", .object [("disposition", .string diagnostic.retry.disposition.text),
      ("guidanceCode", .string diagnostic.retry.guidanceCode)]),
    ("targets", .array []), ("causes", .array []),
    ("detailStatus", .object [("state", .string diagnostic.detailStatus.state.text),
      ("omittedFactCount", .nat diagnostic.detailStatus.omittedFactCount)])]

def Band.text : Band → String
  | m160 => "160m"
  | m80 => "80m"
  | m60 => "60m"
  | m40 => "40m"
  | m30 => "30m"
  | m20 => "20m"
  | m17 => "17m"
  | m15 => "15m"
  | m12 => "12m"
  | m10 => "10m"
  | m6 => "6m"
  | m2 => "2m"

def WsprCycleDirection.text : WsprCycleDirection → String
  | receive => "receive"
  | transmit => "transmit"

def AntennaControlRoleV5.text : AntennaControlRoleV5 → String
  | switch => "switch"
  | verification => "verification"

/-- The exit of a program; no run meets another disposition. -/
def AntennaControlDispositionV5.json : AntennaControlDispositionV5 → JsonText
  | exit code => .object [("kind", .string "exit"), ("code", .nat code.toNat)]
  | _ => .null

def AntennaControlOutputV5.json (output : AntennaControlOutputV5) : JsonText :=
  .object [("encoding", .string (match output.encoding with
      | .utf8 => "utf8"
      | .base64 => "base64")),
    ("data", .string output.data), ("truncated", .bool output.truncated)]

def AntennaControlCommandV5.json (command : AntennaControlCommandV5) : JsonText :=
  .object [("program_template", .string command.programTemplate),
    ("argument_templates", strings command.argumentTemplates),
    ("resolved_program", .string command.resolvedProgram),
    ("resolved_arguments", strings command.resolvedArguments)]

def AntennaControlContextV5.json (context : AntennaControlContextV5) : JsonText :=
  .object ([("antenna", .string context.antenna), ("target", .string context.target),
    ("mode", .string context.mode.text), ("direction", .string context.direction.text),
    ("band", .string context.band.text)] ++
    member? "frequency_hz" .nat context.frequencyHz ++
    [("sequence", .nat context.sequence), ("intent_id", .string context.intentId),
      ("session_id", .string context.sessionId), ("callsign", .string context.callsign)])

def AntennaControlInvocationV5.json (invocation : AntennaControlInvocationV5) : JsonText :=
  .object [("role", .string invocation.role.text),
    ("controller_profile_name", .string invocation.controllerProfileName),
    ("controller_profile_revision", .string invocation.controllerProfileRevision),
    ("command", invocation.command.json), ("context", invocation.context.json),
    ("started_at", instant invocation.startedAt), ("completed_at", instant invocation.completedAt),
    ("elapsed_milliseconds", .nat invocation.elapsedMilliseconds),
    ("disposition", invocation.disposition.json), ("stdout", invocation.stdout.json),
    ("stderr", invocation.stderr.json)]

/-- An invocation record; it has no frequency, power and raw value. -/
def RigRecordV3.json (record : RigRecordV3) : JsonText :=
  .object ([("meta", record.recordMeta.json), ("record_id", .string record.recordId),
    ("adapter_record_ids", strings record.adapterRecordIds), ("status", .string record.status),
    ("frequency_hz", optional .nat record.frequencyHz), ("mode", optional .string record.mode),
    ("power_watts", .null)] ++
    member? "antenna_control" AntennaControlInvocationV5.json record.antennaControl ++
    [("raw", .null)])

def WsprReadinessBasisV5.json : WsprReadinessBasisV5 → JsonText
  | operatorConfirmed => .object [("kind", .string "operator_confirmed")]
  | commandVerified switchRecordId verificationRecordId =>
    .object [("kind", .string "command_verified"), ("switch_record_id", .string switchRecordId),
      ("verification_record_id", .string verificationRecordId)]
  | continued sourceReadyEventId =>
    .object [("kind", .string "continued"), ("source_ready_event_id", .string sourceReadyEventId)]

/-- The payloads of a session that arms cycles. -/
def OperatorEventPayloadV3.armedJson : OperatorEventPayloadV3 → JsonText
  | wsprCycleArmed antennaLabel cycleStartsAt readiness =>
    .object ([("kind", .string "wspr_cycle_armed"), ("antenna_label", .string antennaLabel),
      ("cycle_starts_at", instant cycleStartsAt)] ++
      member? "readiness" WsprReadinessBasisV5.json readiness)
  | payload => payload.json

def OperatorEventV3.armedJson (event : OperatorEventV3) : JsonText :=
  .object ([("meta", event.recordMeta.json), ("event_id", .string event.eventId),
    ("occurred_at", instant event.occurredAt), ("time_basis", .string event.timeBasis.text)] ++
    member? "uncertainty_seconds" .nat event.uncertaintySeconds ++
    [("slot_id", optional .string event.slotId), ("payload", event.payload.armedJson)])

def AttachmentReference.json (reference : AttachmentReference) : JsonText :=
  .object [("sha256", .string reference.sha256), ("byte_size", .nat reference.byteSize),
    ("media_type", .string reference.mediaType), ("encoding", optional .string reference.encoding),
    ("container", optional .string reference.container),
    ("source_locator", optional .string reference.sourceLocator)]

def RecoveryArtifactMetadataV2.json (metadata : RecoveryArtifactMetadataV2) : JsonText :=
  .object [("schema_version", .nat metadata.schemaVersion),
    ("session_id", .string metadata.sessionId), ("source", .string metadata.source),
    ("committed_offset", .nat metadata.committedOffset),
    ("detected_at", instant metadata.detectedAt), ("diagnosis", .string metadata.diagnosis),
    ("raw_attachment", metadata.rawAttachment.json)]

end AntennaBench
