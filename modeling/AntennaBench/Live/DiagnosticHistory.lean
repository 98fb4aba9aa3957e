import AntennaBench.Analysis.OperatorFacts
import AntennaBench.Conductor.SlotEvidence
import AntennaBench.Controller.Attempts
import AntennaBench.Storage.PlanV3
import AntennaBench.Timeline.Throughout
import Mathlib.Data.Finset.Card

/-!
# The diagnostic history of a session

A run of diagnostic calls on a schema-v6 session, with other mutations between
them. A retained attempt is recognised by its identity, an omitted one only by
the mutation identity the checkpoint names. The history is honest where that is
enough.
-/

namespace AntennaBench

open Timeline

namespace BundleV3Contents

def attemptIds (bundle : BundleV3Contents) : List String :=
  bundle.diagnostics.map (·.attemptId)

/-- The diagnostics the checkpoint says are missing. -/
def omittedCount (bundle : BundleV3Contents) : ℕ :=
  (bundle.sessionState.diagnosticsStatus.map (·.omittedCount)).getD 0

/-- The stream takes another diagnostic of any size. -/
def hasDiagnosticRoom (bundle : BundleV3Contents) : Bool :=
  (bundle.sessionState.streams.lookup LiveStreamV2.diagnostics.checkpointName).all fun head =>
    !diagnosticRetentionExhausted head.recordCount head.committedBytes diagnosticRecordMaxBytes

end BundleV3Contents

section

variable {E : Env} {profile : BundleResourceProfile}

/-- A bundle a mutation leaves: verified, of the same manifest and schedule, and with the events
of before. -/
structure Sealed (E : Env) (bundle next : BundleV3Contents) : Prop where
  model : validateV3Model E next = .ok ()
  manifest : next.manifest = bundle.manifest
  schedule : next.schedule = bundle.schedule
  events : bundle.events <+: next.events

/-- The mutation is not about the diagnostics. -/
structure KeepsDiagnostics (E : Env) (bundle next : BundleV3Contents) : Prop
    extends Sealed E bundle next where
  diagnostics : next.diagnostics = bundle.diagnostics
  status : next.sessionState.diagnosticsStatus = bundle.sessionState.diagnosticsStatus

theorem sealCandidate_sealed {bundle candidate next : BundleV3Contents} {mutationId : String}
    (h : sealCandidate E bundle candidate mutationId = .ok next)
    (hmanifest : candidate.manifest = bundle.manifest)
    (hschedule : candidate.schedule = bundle.schedule)
    (hevents : bundle.events <+: candidate.events) : Sealed E bundle next := by
  obtain ⟨-, hmodel, -, rfl⟩ := sealCandidate_eq_ok h
  exact ⟨hmodel, hmanifest, hschedule, hevents⟩

theorem sealCandidate_diagnostics {bundle candidate next : BundleV3Contents} {mutationId : String}
    (h : sealCandidate E bundle candidate mutationId = .ok next) :
    next.diagnostics = candidate.diagnostics ∧
      next.sessionState.diagnosticsStatus = candidate.sessionState.diagnosticsStatus := by
  obtain ⟨-, -, -, rfl⟩ := sealCandidate_eq_ok h
  exact ⟨rfl, rfl⟩

theorem sealCandidate_keeps {bundle candidate next : BundleV3Contents} {mutationId : String}
    (h : sealCandidate E bundle candidate mutationId = .ok next)
    (hmanifest : candidate.manifest = bundle.manifest)
    (hschedule : candidate.schedule = bundle.schedule)
    (hevents : bundle.events <+: candidate.events)
    (hdiagnostics : candidate.diagnostics = bundle.diagnostics)
    (hstatus : candidate.sessionState.diagnosticsStatus = bundle.sessionState.diagnosticsStatus) :
    KeepsDiagnostics E bundle next := by
  have hnext := sealCandidate_diagnostics h
  exact ⟨sealCandidate_sealed h hmanifest hschedule hevents, hnext.1.trans hdiagnostics,
    hnext.2.trans hstatus⟩

variable {session : LiveSessionV3} {now : DateTime} {plan : CommitPlan}

theorem planEvent_keepsDiagnostics {mutation : LiveEventMutationV3} {receipt : CommitReceiptV2}
    (h : planEvent E profile session mutation now = .ok (.commit plan receipt)) :
    KeepsDiagnostics E session.bundle plan.candidate := by
  obtain ⟨actor, candidate, hcommitted⟩ := planEvent_eq_commit h
  obtain ⟨lifecycle, hcandidate⟩ := reduceCandidate_eq_ok hcommitted.reduced
  subst hcandidate
  exact sealCandidate_keeps hcommitted.sealed rfl rfl (List.prefix_append _ _) rfl rfl

theorem planEvidence_keepsDiagnostics {mutation : LiveEvidenceMutationV3} {disk : Disk}
    {receipt : CommitReceiptV2}
    (h : planEvidence E profile session mutation now disk = .ok (.commit plan receipt)) :
    KeepsDiagnostics E session.bundle plan.candidate := by
  unfold planEvidence at h
  dsimp only at h
  split at h
  · unfold settle at h
    split_ifs at h
    all_goals cases h
  · simp only [bind_eq_ok, failIf_eq_ok, pure_eq_ok] at h
    obtain ⟨_, -, _, -, _, -, actor, -, prepared, -, _, -, _, -, sealed, hsealed, lines, -,
      hcommit⟩ := h
    cases hcommit
    exact sealCandidate_keeps hsealed rfl rfl List.prefix_rfl rfl rfl

theorem planAntennaControl_keepsDiagnostics {mutation : LiveAntennaControlMutationV5}
    {receipt : CommitReceiptV2}
    (h : planAntennaControl E profile session mutation now = .ok (.commit plan receipt)) :
    KeepsDiagnostics E session.bundle plan.candidate := by
  unfold planAntennaControl at h
  simp only [bind_eq_ok, failIf_eq_ok] at h
  obtain ⟨_, -, _, -, _, -, h⟩ := h
  split at h
  · unfold settle at h
    split_ifs at h
    all_goals cases h
  · simp only [bind_eq_ok, failIf_eq_ok, pure_eq_ok] at h
    obtain ⟨_, -, _, -, actor, -, rigRecords, -, armedEvent, -, candidate, happend, sealed, hsealed,
      lines, -, hcommit⟩ := h
    cases hcommit
    cases armedEvent with
    | none =>
      cases happend
      exact sealCandidate_keeps hsealed rfl rfl List.prefix_rfl rfl rfl
    | some event =>
      obtain ⟨lifecycle, rfl⟩ := reduceCandidate_eq_ok happend
      exact sealCandidate_keeps hsealed rfl rfl (List.prefix_append _ _) rfl rfl

/-- The next bundle holds one more diagnostic, of the attempt. -/
structure Retains (E : Env) (bundle : BundleV3Contents) (attemptId : String)
    (next : BundleV3Contents) : Prop extends Sealed E bundle next where
  diagnostics : ∃ diagnostic : OperationalDiagnosticV6, diagnostic.attemptId = attemptId ∧
    next.diagnostics = bundle.diagnostics ++ [diagnostic]
  status : next.sessionState.diagnosticsStatus = bundle.sessionState.diagnosticsStatus

/-- The next bundle counts one more omission, up to the bound of the counter. -/
structure Omits (E : Env) (bundle next : BundleV3Contents) : Prop
    extends Sealed E bundle next where
  diagnostics : next.diagnostics = bundle.diagnostics
  noRoom : bundle.hasDiagnosticRoom = false
  count : next.omittedCount = min (bundle.omittedCount + 1) (2 ^ 64 - 1)

/-- The four decisions on a diagnostic call. -/
inductive DiagnosticDecision (E : Env) (bundle : BundleV3Contents)
    (mutation : LiveDiagnosticMutationV6) : Decision DiagnosticCommitReceiptV6 → Prop
  | retained {receipt} (known : mutation.diagnostic.attemptId ∈ bundle.attemptIds) :
    DiagnosticDecision E bundle mutation (.settled receipt)
  | recognised {receipt} (unknown : mutation.diagnostic.attemptId ∉ bundle.attemptIds)
    (retry : isSaturatedRetry bundle mutation.mutationId = true) :
    DiagnosticDecision E bundle mutation (.settled receipt)
  | recorded {plan receipt} (unknown : mutation.diagnostic.attemptId ∉ bundle.attemptIds)
    (retry : isSaturatedRetry bundle mutation.mutationId = false)
    (current : mutation.expectedRevision = bundle.sessionState.revision)
    (retains : Retains E bundle mutation.diagnostic.attemptId plan.candidate) :
    DiagnosticDecision E bundle mutation (.commit plan receipt)
  | omitted {plan receipt} (unknown : mutation.diagnostic.attemptId ∉ bundle.attemptIds)
    (retry : isSaturatedRetry bundle mutation.mutationId = false)
    (current : mutation.expectedRevision = bundle.sessionState.revision)
    (omits : Omits E bundle plan.candidate) :
    DiagnosticDecision E bundle mutation (.commit plan receipt)

theorem diagnosticRetentionExhausted_mono {recordCount committedBytes nextBytes more : ℕ}
    (hle : nextBytes ≤ more)
    (h : diagnosticRetentionExhausted recordCount committedBytes nextBytes = true) :
    diagnosticRetentionExhausted recordCount committedBytes more = true := by
  simp only [diagnosticRetentionExhausted, Bool.or_eq_true, decide_eq_true_eq] at h ⊢
  omega

theorem planSaturation_omits {mutationId : String} {occurredAt : DateTime}
    {decision : Decision DiagnosticCommitReceiptV6}
    (h : planSaturation E session mutationId occurredAt = .ok decision)
    (hroom : session.bundle.hasDiagnosticRoom = false) :
    ∃ plan receipt, decision = .commit plan receipt ∧ Omits E session.bundle plan.candidate := by
  simp only [planSaturation, bind_eq_ok, orError_eq_ok, pure_eq_ok] at h
  obtain ⟨status, hstatus, sealed, hsealed, rfl⟩ := h
  have hnext := sealCandidate_diagnostics hsealed
  refine ⟨_, _, rfl, sealCandidate_sealed hsealed rfl rfl List.prefix_rfl, hnext.1, hroom, ?_⟩
  simp only [BundleV3Contents.omittedCount, hnext.2, hstatus]
  rfl

theorem planNewDiagnostic_cases {mutation : LiveDiagnosticMutationV6}
    {decision : Decision DiagnosticCommitReceiptV6}
    (h : planNewDiagnostic E profile session mutation now = .ok decision) :
    mutation.expectedRevision = session.bundle.sessionState.revision ∧
      ∃ plan receipt, decision = .commit plan receipt ∧
        (Retains E session.bundle mutation.diagnostic.attemptId plan.candidate ∨
          Omits E session.bundle plan.candidate) := by
  simp only [planNewDiagnostic, checkRevision, bind_eq_ok, failIf_eq_ok, orError_eq_ok] at h
  obtain ⟨_, hrevision, revision, -, actor, -, contextId, -, head, hhead, _, hbytes, h⟩ := h
  refine ⟨by simpa using hrevision, ?_⟩
  split_ifs at h with hexhausted
  · have hroom : session.bundle.hasDiagnosticRoom = false := by
      have hle := of_decide_eq_false hbytes
      have hfull := diagnosticRetentionExhausted_mono (Nat.le_of_not_lt hle) hexhausted
      simp [BundleV3Contents.hasDiagnosticRoom, hhead, hfull]
    obtain ⟨plan, receipt, rfl, homits⟩ := planSaturation_omits h hroom
    exact ⟨plan, receipt, rfl, .inr homits⟩
  · simp only [bind_eq_ok, pure_eq_ok] at h
    obtain ⟨sealed, hsealed, lines, -, rfl⟩ := h
    have hnext := sealCandidate_diagnostics hsealed
    refine ⟨_, _, rfl, .inl ⟨sealCandidate_sealed hsealed rfl rfl List.prefix_rfl,
      ⟨_, ?_, hnext.1⟩, hnext.2⟩⟩
    rfl

theorem planDiagnostic_cases {mutation : LiveDiagnosticMutationV6}
    {decision : Decision DiagnosticCommitReceiptV6}
    (h : planDiagnostic E profile session mutation now = .ok decision) :
    DiagnosticDecision E session.bundle mutation decision := by
  simp only [planDiagnostic, bind_eq_ok, failIf_eq_ok] at h
  obtain ⟨_, -, h⟩ := h
  cases hfind : session.bundle.diagnostics.find?
      (·.attemptId == mutation.diagnostic.attemptId) with
  | some existing =>
    rw [hfind] at h
    dsimp only at h
    split_ifs at h
    cases h
    have hmem := List.mem_of_find?_eq_some hfind
    have hsame := List.find?_some hfind
    exact .retained (List.mem_map.2 ⟨existing, hmem, by simpa using hsame⟩)
  | none =>
    rw [hfind] at h
    dsimp only at h
    have hunknown : mutation.diagnostic.attemptId ∉ session.bundle.attemptIds := by
      intro hmem
      obtain ⟨existing, hexisting, heq⟩ := List.mem_map.1 hmem
      exact List.find?_eq_none.1 hfind existing hexisting (by simpa using heq)
    split_ifs at h with hretry
    · cases h
      exact .recognised hunknown hretry
    · obtain ⟨hcurrent, plan, receipt, rfl, hretains | homits⟩ := planNewDiagnostic_cases h
      · exact .recorded hunknown (by simpa using hretry) hcurrent hretains
      · exact .omitted hunknown (by simpa using hretry) hcurrent homits

end

inductive LiveCall where
  | appendDiagnostic (mutation : LiveDiagnosticMutationV6)
  | appendEvent (mutation : LiveEventMutationV3)
  | appendEvidence (mutation : LiveEvidenceMutationV3) (disk : Disk)
  | appendAntennaControl (mutation : LiveAntennaControlMutationV5)

/-- A call on a handle; the bundle the handle remembers is the committed one, and a failed
commit leaves it so. -/
structure SessionCall where
  handle : LiveSessionV3
  call : LiveCall
  fault : CommitFault
  now : DateTime

/-- The attempt a call reports. -/
def SessionCall.attemptId? (call : SessionCall) : Option String :=
  match call.call with
  | .appendDiagnostic mutation => some mutation.diagnostic.attemptId
  | _ => none

/-- The committed bundle, and the attempts that were acknowledged in the order of their
answers. -/
structure DiagnosticRun where
  bundle : BundleV3Contents
  acknowledged : List String

section

variable (E : Env) (profile : BundleResourceProfile)

/-- The answer to a call and the bundle it leaves. -/
def SessionCall.perform (call : SessionCall) (bundle : BundleV3Contents) :
    Except LivePersistenceError Unit × BundleV3Contents :=
  let session := { call.handle with bundle }
  match call.call with
  | .appendDiagnostic mutation =>
    committedUnder call.fault bundle (planDiagnostic E profile session mutation call.now)
  | .appendEvent mutation =>
    committedUnder call.fault bundle (planEvent E profile session mutation call.now)
  | .appendEvidence mutation disk =>
    committedUnder call.fault bundle (planEvidence E profile session mutation call.now disk)
  | .appendAntennaControl mutation =>
    committedUnder call.fault bundle (planAntennaControl E profile session mutation call.now)

def DiagnosticRun.step (run : DiagnosticRun) (call : SessionCall) : DiagnosticRun :=
  let performed := call.perform E profile run.bundle
  ⟨performed.2, run.acknowledged ++
    match performed.1 with
    | .ok () => call.attemptId?.toList
    | .error _ => []⟩

def diagnosticRun (initial : BundleV3Contents) (calls : List SessionCall) : DiagnosticRun :=
  calls.foldl (DiagnosticRun.step E profile) ⟨initial, []⟩

/-- The attempts a run has acknowledged that were neither retained nor omitted before it. -/
def newlyAcknowledged (initial : BundleV3Contents) (omittedBefore acknowledged : List String) :
    Finset String :=
  acknowledged.toFinset \ (initial.attemptIds ++ omittedBefore).toFinset

/-- The stream only grows at its end and stays within its bounds, the status is complete
exactly without omissions, and every acknowledged attempt counts once. -/
structure HonestHistory (initial : BundleV3Contents) (omittedBefore : List String)
    (calls : List SessionCall) : Prop where
  order : ∀ earlier, earlier <+: calls →
    (diagnosticRun E profile initial earlier).bundle.diagnostics <+:
      (diagnosticRun E profile initial calls).bundle.diagnostics
  records : (diagnosticRun E profile initial calls).bundle.diagnostics.length ≤
    diagnosticMaxRecords
  recordBytes : ∀ diagnostic ∈ (diagnosticRun E profile initial calls).bundle.diagnostics,
    (serializeJsonl E.diagnostic [diagnostic]).length ≤ diagnosticRecordMaxBytes
  streamBytes : (serializeJsonl E.diagnostic
      (diagnosticRun E profile initial calls).bundle.diagnostics).length ≤
    diagnosticStreamMaxBytes
  status : ∃ status,
    (diagnosticRun E profile initial calls).bundle.sessionState.diagnosticsStatus = some status ∧
      (status.state = .complete ↔ status.omittedCount = 0)
  count : (diagnosticRun E profile initial calls).bundle.diagnostics.length +
      (diagnosticRun E profile initial calls).bundle.omittedCount =
    initial.diagnostics.length + initial.omittedCount +
      (newlyAcknowledged initial omittedBefore
        (diagnosticRun E profile initial calls).acknowledged).card

end

/-- The writer takes no new attempt for a retry, and what it commits is no retry of an omitted
attempt, has room on the omission counter, and does not land without its acknowledgment. -/
structure TellsRetries (omitted : List String) (bundle : BundleV3Contents)
    (mutation : LiveDiagnosticMutationV6) (fault : CommitFault) (commits : Prop) : Prop where
  unused : isSaturatedRetry bundle mutation.mutationId = true →
    mutation.diagnostic.attemptId ∈ omitted
  again : commits → mutation.diagnostic.attemptId ∉ omitted
  counter : commits → bundle.omittedCount + 1 < 2 ^ 64 ∨ bundle.hasDiagnosticRoom = true
  landed : commits → ∀ error, fault ≠ .afterReplace error

/-- Every diagnostic call of an attempt that is not retained is one the writer can tell. -/
def ToldRetries (E : Env) (profile : BundleResourceProfile) (initial : BundleV3Contents)
    (omittedBefore : List String) (calls : List SessionCall) : Prop :=
  Throughout (fun earlier call => ∀ mutation, call.call = .appendDiagnostic mutation →
    let run := diagnosticRun E profile initial earlier
    mutation.diagnostic.attemptId ∉ run.bundle.attemptIds →
      TellsRetries (omittedBefore ++ run.acknowledged) run.bundle mutation call.fault
        (DiagnosticCommits E profile { call.handle with bundle := run.bundle } mutation call.now))
    calls

section

variable {E : Env} {profile : BundleResourceProfile} {bundle : BundleV3Contents}

theorem validateV3Model_diagnostics (h : validateV3Model E bundle = .ok ())
    (hv6 : bundle.manifest.schemaVersion = schemaVersionV6) :
    validateDiagnosticsV6 E bundle = .ok () := by
  simp only [validateV3Model, validateRuntimeContextsV6, hv6, bind_eq_ok] at h
  obtain ⟨_, -, _, hcontexts, -⟩ := h
  simp only [bne_self_eq_false, Bool.false_eq_true, if_false, bind_eq_ok] at hcontexts
  obtain ⟨_, -, _, -, _, -, _, -, _, -, _, -, _, -, _, -, _, -, hdiagnostics⟩ := hcontexts
  exact hdiagnostics

theorem validateDiagnosticV6_scan {revision : ℕ} {scan next : StreamScan}
    {diagnostic : OperationalDiagnosticV6}
    (h : validateDiagnosticV6 E revision scan diagnostic = .ok next) :
    (serializeJsonl E.diagnostic [diagnostic]).length ≤ diagnosticRecordMaxBytes ∧
      next.streamBytes = scan.streamBytes + (serializeJsonl E.diagnostic [diagnostic]).length := by
  have hline : (serializeJsonl E.diagnostic [diagnostic]).length =
      (E.diagnostic.toVec diagnostic).length + 1 := by
    simp [serializeJsonl]
  simp only [validateDiagnosticV6, bind_eq_ok, failIf_eq_ok, pure_eq_ok] at h
  obtain ⟨_, -, _, -, _, -, _, -, _, -, _, -, _, -, _, -, _, hbytes, rfl⟩ := h
  rw [hline]
  exact ⟨Nat.le_of_not_lt (of_decide_eq_false hbytes), rfl⟩

theorem validateDiagnostics_bytes {revision : ℕ} {diagnostics : List OperationalDiagnosticV6}
    {scan next : StreamScan}
    (h : diagnostics.foldlM (validateDiagnosticV6 E revision) scan = .ok next) :
    (∀ diagnostic ∈ diagnostics,
      (serializeJsonl E.diagnostic [diagnostic]).length ≤ diagnosticRecordMaxBytes) ∧
      next.streamBytes = scan.streamBytes + (serializeJsonl E.diagnostic diagnostics).length := by
  induction diagnostics generalizing scan with
  | nil =>
    cases pure_eq_ok.1 h
    simp [serializeJsonl]
  | cons diagnostic rest ih =>
    rw [List.foldlM_cons, bind_eq_ok] at h
    obtain ⟨middle, hmiddle, hrest⟩ := h
    obtain ⟨hrecord, hscan⟩ := validateDiagnosticV6_scan hmiddle
    obtain ⟨hrecords, hnext⟩ := ih hrest
    refine ⟨List.forall_mem_cons.2 ⟨hrecord, hrecords⟩, ?_⟩
    have hsplit : serializeJsonl E.diagnostic ([diagnostic] ++ rest) =
        serializeJsonl E.diagnostic [diagnostic] ++ serializeJsonl E.diagnostic rest :=
      serializeJsonl_append [diagnostic] rest
    rw [List.singleton_append] at hsplit
    rw [hnext, hscan, hsplit, List.length_append]
    omega

/-- The bounds of the diagnostic stream and the honesty of its status. -/
structure DiagnosticsBounded (E : Env) (bundle : BundleV3Contents) : Prop where
  records : bundle.diagnostics.length ≤ diagnosticMaxRecords
  recordBytes : ∀ diagnostic ∈ bundle.diagnostics,
    (serializeJsonl E.diagnostic [diagnostic]).length ≤ diagnosticRecordMaxBytes
  streamBytes : (serializeJsonl E.diagnostic bundle.diagnostics).length ≤ diagnosticStreamMaxBytes
  status : ∃ status, bundle.sessionState.diagnosticsStatus = some status ∧
    (status.state = .complete ↔ status.omittedCount = 0)

theorem validateDiagnosticsStatus_complete {status : DiagnosticsStatusV6}
    (h : validateDiagnosticsStatus status = .ok ()) :
    status.state = .complete ↔ status.omittedCount = 0 := by
  unfold validateDiagnosticsStatus at h
  cases hstate : status.state <;> rw [hstate] at h <;>
    simp only [failIf_eq_ok, Bool.or_eq_false_iff] at h
  · simpa using h.1.1
  · simpa using h.1.1
  · simpa using h.1.1

theorem diagnosticsBounded_of_valid (h : validateV3Model E bundle = .ok ())
    (hv6 : bundle.manifest.schemaVersion = schemaVersionV6) : DiagnosticsBounded E bundle := by
  have hvalid := validateV3Model_diagnostics h hv6
  simp only [validateDiagnosticsV6, bind_eq_ok, failIf_eq_ok, orError_eq_ok] at hvalid
  obtain ⟨status, hstatus, _, hcomplete, _, hrecords, scan, hscan, hstream⟩ := hvalid
  obtain ⟨hrecordBytes, hbytes⟩ := validateDiagnostics_bytes hscan
  rw [hbytes, Nat.zero_add] at hstream
  exact ⟨Nat.le_of_not_lt (of_decide_eq_false hrecords), hrecordBytes,
    Nat.le_of_not_lt (of_decide_eq_false hstream), status, hstatus,
    validateDiagnosticsStatus_complete hcomplete⟩

variable {initial : BundleV3Contents} {omittedBefore acknowledged : List String}
    {attemptId : String}

theorem newlyAcknowledged_append (h : attemptId ∈ initial.attemptIds ∨
    attemptId ∈ omittedBefore ++ acknowledged) :
    newlyAcknowledged initial omittedBefore (acknowledged ++ [attemptId]) =
      newlyAcknowledged initial omittedBefore acknowledged := by
  ext other
  simp only [newlyAcknowledged, Finset.mem_sdiff, List.mem_toFinset, List.mem_append,
    List.mem_singleton] at h ⊢
  constructor
  · rintro ⟨hold | rfl, hnew⟩
    · exact ⟨hold, hnew⟩
    · tauto
  · rintro ⟨hold, hnew⟩
    exact ⟨.inl hold, hnew⟩

theorem newlyAcknowledged_card (hinitial : attemptId ∉ initial.attemptIds)
    (hfresh : attemptId ∉ omittedBefore ++ acknowledged) :
    (newlyAcknowledged initial omittedBefore (acknowledged ++ [attemptId])).card =
      (newlyAcknowledged initial omittedBefore acknowledged).card + 1 := by
  rw [List.mem_append, not_or] at hfresh
  have hinsert : newlyAcknowledged initial omittedBefore (acknowledged ++ [attemptId]) =
      insert attemptId (newlyAcknowledged initial omittedBefore acknowledged) := by
    ext other
    simp only [newlyAcknowledged, Finset.mem_sdiff, Finset.mem_insert, List.mem_toFinset,
      List.mem_append, List.mem_singleton]
    constructor
    · rintro ⟨hold | rfl, hnew⟩
      · exact .inr ⟨hold, hnew⟩
      · exact .inl rfl
    · rintro (rfl | ⟨hold, hnew⟩)
      · exact ⟨.inr rfl, by tauto⟩
      · exact ⟨.inl hold, hnew⟩
  rw [hinsert, Finset.card_insert_of_notMem]
  simp [newlyAcknowledged, hfresh.2]

/-- What a run keeps: a verified bundle that has grown, and the balance of the attempts. -/
structure HistoryKept (E : Env) (initial : BundleV3Contents) (omittedBefore : List String)
    (run : DiagnosticRun) : Prop where
  model : validateV3Model E run.bundle = .ok ()
  version : run.bundle.manifest.schemaVersion = schemaVersionV6
  grown : initial.diagnostics <+: run.bundle.diagnostics
  known : ∀ id ∈ run.bundle.attemptIds,
    id ∈ initial.attemptIds ∨ id ∈ omittedBefore ++ run.acknowledged
  count : run.bundle.diagnostics.length + run.bundle.omittedCount =
    initial.diagnostics.length + initial.omittedCount +
      (newlyAcknowledged initial omittedBefore run.acknowledged).card

namespace HistoryKept

variable {run : DiagnosticRun} {next : BundleV3Contents}
    (h : HistoryKept E initial omittedBefore run)

include h

theorem keeps (hnext : KeepsDiagnostics E run.bundle next) :
    HistoryKept E initial omittedBefore ⟨next, run.acknowledged⟩ := by
  have hids : next.attemptIds = run.bundle.attemptIds :=
    congrArg (List.map _) hnext.diagnostics
  refine ⟨hnext.model, hnext.manifest ▸ h.version, hnext.diagnostics ▸ h.grown, ?_, ?_⟩
  · intro id hid
    exact h.known id (hids ▸ hid)
  · change next.diagnostics.length + _ = _
    rw [BundleV3Contents.omittedCount, hnext.status, hnext.diagnostics]
    exact h.count

/-- An acknowledged attempt the run knows changes no count. -/
theorem acknowledges (hknown : attemptId ∈ initial.attemptIds ∨
    attemptId ∈ omittedBefore ++ run.acknowledged) :
    HistoryKept E initial omittedBefore ⟨run.bundle, run.acknowledged ++ [attemptId]⟩ := by
  refine ⟨h.model, h.version, h.grown, fun id hid => ?_, ?_⟩
  · refine (h.known id hid).imp_right fun hmem => ?_
    rw [← List.append_assoc]
    exact List.mem_append_left _ hmem
  · rw [newlyAcknowledged_append hknown]
    exact h.count

theorem retains (hfresh : attemptId ∉ omittedBefore ++ run.acknowledged)
    (hunknown : attemptId ∉ run.bundle.attemptIds)
    (hnext : Retains E run.bundle attemptId next) :
    HistoryKept E initial omittedBefore ⟨next, run.acknowledged ++ [attemptId]⟩ := by
  obtain ⟨diagnostic, rfl, hdiagnostics⟩ := hnext.diagnostics
  have hinitial : diagnostic.attemptId ∉ initial.attemptIds :=
    fun hmem => hunknown ((h.grown.map _).subset hmem)
  refine ⟨hnext.model, hnext.manifest ▸ h.version, ?_, fun id hid => ?_, ?_⟩
  · rw [hdiagnostics]
    exact h.grown.trans (List.prefix_append _ _)
  · rw [BundleV3Contents.attemptIds, hdiagnostics, List.map_append, List.mem_append] at hid
    rw [← List.append_assoc]
    rcases hid with hold | hnew
    · exact (h.known id hold).imp_right (List.mem_append_left _)
    · exact .inr (List.mem_append_right _ hnew)
  · have hcount := h.count
    rw [newlyAcknowledged_card hinitial hfresh]
    change next.diagnostics.length + _ = _
    rw [BundleV3Contents.omittedCount, hnext.status, hdiagnostics, List.length_append,
      List.length_singleton]
    change run.bundle.diagnostics.length + 1 + run.bundle.omittedCount = _
    omega

theorem omits (hfresh : attemptId ∉ omittedBefore ++ run.acknowledged)
    (hunknown : attemptId ∉ run.bundle.attemptIds)
    (hcounter : run.bundle.omittedCount + 1 < 2 ^ 64) (hnext : Omits E run.bundle next) :
    HistoryKept E initial omittedBefore ⟨next, run.acknowledged ++ [attemptId]⟩ := by
  have hids : next.attemptIds = run.bundle.attemptIds :=
    congrArg (List.map _) hnext.diagnostics
  have hinitial : attemptId ∉ initial.attemptIds :=
    fun hmem => hunknown ((h.grown.map _).subset hmem)
  refine ⟨hnext.model, hnext.manifest ▸ h.version, hnext.diagnostics ▸ h.grown,
    fun id hid => ?_, ?_⟩
  · rw [← List.append_assoc]
    exact (h.known id (hids ▸ hid)).imp_right (List.mem_append_left _)
  · have hcount := h.count
    have hmin : next.omittedCount = run.bundle.omittedCount + 1 := by
      rw [hnext.count]
      omega
    rw [newlyAcknowledged_card hinitial hfresh, hmin, hnext.diagnostics]
    omega

end HistoryKept

/-- A commit leaves the bundle or the candidate of its plan. -/
theorem committedUnder_cases {ρ : Type} (fault : CommitFault) (bundle : BundleV3Contents)
    (planned : Except LivePersistenceError (Decision ρ)) :
    (committedUnder fault bundle planned).2 = bundle ∨
      ∃ plan receipt, planned = .ok (.commit plan receipt) ∧
        (committedUnder fault bundle planned).2 = plan.candidate := by
  rcases planned with error | receipt | ⟨plan, receipt⟩
  · exact .inl rfl
  · exact .inl rfl
  · cases fault
    · exact .inr ⟨plan, receipt, rfl, rfl⟩
    · exact .inl rfl
    · exact .inr ⟨plan, receipt, rfl, rfl⟩

/-- A call that reports no attempt keeps the diagnostics. -/
theorem perform_keepsDiagnostics (call : SessionCall) (h : call.attemptId? = none) :
    (call.perform E profile bundle).2 = bundle ∨
      KeepsDiagnostics E bundle (call.perform E profile bundle).2 := by
  unfold SessionCall.attemptId? at h
  unfold SessionCall.perform
  cases hcall : call.call with
  | appendDiagnostic mutation =>
    rw [hcall] at h
    cases h
  | appendEvent mutation =>
    dsimp only
    refine (committedUnder_cases call.fault bundle _).imp_right ?_
    rintro ⟨plan, receipt, hplan, hnext⟩
    rw [hnext]
    exact planEvent_keepsDiagnostics hplan
  | appendEvidence mutation disk =>
    dsimp only
    refine (committedUnder_cases call.fault bundle _).imp_right ?_
    rintro ⟨plan, receipt, hplan, hnext⟩
    rw [hnext]
    exact planEvidence_keepsDiagnostics hplan
  | appendAntennaControl mutation =>
    dsimp only
    refine (committedUnder_cases call.fault bundle _).imp_right ?_
    rintro ⟨plan, receipt, hplan, hnext⟩
    rw [hnext]
    exact planAntennaControl_keepsDiagnostics hplan

namespace HistoryKept

variable {run : DiagnosticRun} {call : SessionCall} {mutation : LiveDiagnosticMutationV6}

theorem otherCall (h : HistoryKept E initial omittedBefore run) (hcall : call.attemptId? = none) :
    HistoryKept E initial omittedBefore (run.step E profile call) ∧
      run.bundle.diagnostics <+: (run.step E profile call).bundle.diagnostics := by
  have hacknowledged : (run.step E profile call).acknowledged = run.acknowledged := by
    unfold DiagnosticRun.step
    dsimp only
    cases (call.perform E profile run.bundle).1 <;> simp [hcall]
  have hstep : run.step E profile call =
      ⟨(call.perform E profile run.bundle).2, run.acknowledged⟩ := by
    rw [← hacknowledged]
    rfl
  rw [hstep]
  have hkept : (call.perform E profile run.bundle).2 = run.bundle ∨
      KeepsDiagnostics E run.bundle (call.perform E profile run.bundle).2 :=
    perform_keepsDiagnostics call hcall
  rcases hkept with hsame | hkeeps
  · rw [hsame]
    exact ⟨h, List.prefix_rfl⟩
  · exact ⟨h.keeps hkeeps, hkeeps.diagnostics ▸ List.prefix_rfl⟩

/-- What a diagnostic call makes of a run under a decision of the writer. -/
theorem decided {decision : Decision DiagnosticCommitReceiptV6} {fault : CommitFault}
    (h : HistoryKept E initial omittedBefore run)
    (hdecision : DiagnosticDecision E run.bundle mutation decision)
    (htells : mutation.diagnostic.attemptId ∉ run.bundle.attemptIds →
      TellsRetries (omittedBefore ++ run.acknowledged) run.bundle mutation fault
        (∃ plan receipt, decision = .commit plan receipt)) :
    HistoryKept E initial omittedBefore
      ⟨(committedUnder fault run.bundle (.ok decision)).2, run.acknowledged ++
        match (committedUnder fault run.bundle (.ok decision)).1 with
        | .ok () => [mutation.diagnostic.attemptId]
        | .error _ => []⟩ ∧
      run.bundle.diagnostics <+:
        (committedUnder fault run.bundle (.ok decision)).2.diagnostics := by
  cases hdecision with
  | retained known => exact ⟨h.acknowledges (h.known _ known), List.prefix_rfl⟩
  | recognised unknown retry =>
    exact ⟨h.acknowledges (.inr ((htells unknown).unused retry)), List.prefix_rfl⟩
  | @recorded plan receipt unknown retry current retains =>
    have hcommits : ∃ plan' receipt', Decision.commit plan receipt = .commit plan' receipt' :=
      ⟨plan, receipt, rfl⟩
    have hfresh := (htells unknown).again hcommits
    cases fault with
    | none =>
      obtain ⟨diagnostic, -, hdiagnostics⟩ := retains.diagnostics
      refine ⟨h.retains hfresh unknown retains, ?_⟩
      exact ⟨[diagnostic], hdiagnostics.symm⟩
    | beforeReplace error =>
      refine ⟨?_, List.prefix_rfl⟩
      simpa [committedUnder, Decision.next?] using h
    | afterReplace error => exact absurd rfl ((htells unknown).landed hcommits error)
  | @omitted plan receipt unknown retry current omits =>
    have hcommits : ∃ plan' receipt', Decision.commit plan receipt = .commit plan' receipt' :=
      ⟨plan, receipt, rfl⟩
    have hfresh := (htells unknown).again hcommits
    cases fault with
    | none =>
      refine ⟨h.omits hfresh unknown ?_ omits, ?_⟩
      · rcases (htells unknown).counter hcommits with hcounter | hroom
        · exact hcounter
        · rw [omits.noRoom] at hroom
          cases hroom
      · exact ⟨[], (List.append_nil _).trans omits.diagnostics.symm⟩
    | beforeReplace error =>
      refine ⟨?_, List.prefix_rfl⟩
      simpa [committedUnder, Decision.next?] using h
    | afterReplace error => exact absurd rfl ((htells unknown).landed hcommits error)

theorem step (h : HistoryKept E initial omittedBefore run)
    (htells : ∀ mutation, call.call = .appendDiagnostic mutation →
      mutation.diagnostic.attemptId ∉ run.bundle.attemptIds →
        TellsRetries (omittedBefore ++ run.acknowledged) run.bundle mutation call.fault
          (DiagnosticCommits E profile { call.handle with bundle := run.bundle } mutation
            call.now)) :
    HistoryKept E initial omittedBefore (run.step E profile call) ∧
      run.bundle.diagnostics <+: (run.step E profile call).bundle.diagnostics := by
  cases hcall : call.call with
  | appendDiagnostic mutation =>
    have hattempt : call.attemptId? = some mutation.diagnostic.attemptId := by
      rw [SessionCall.attemptId?, hcall]
    unfold DiagnosticRun.step
    rw [SessionCall.perform, hcall, hattempt]
    dsimp only
    cases hplan : planDiagnostic E profile { call.handle with bundle := run.bundle } mutation
        call.now with
    | error error =>
      refine ⟨?_, List.prefix_rfl⟩
      simpa [committedUnder] using h
    | ok decision =>
      have htells := htells mutation hcall
      unfold DiagnosticCommits at htells
      simp only [hplan, Except.ok.injEq] at htells
      exact h.decided (planDiagnostic_cases hplan) htells
  | appendEvent mutation => exact h.otherCall (by rw [SessionCall.attemptId?, hcall])
  | appendEvidence mutation disk => exact h.otherCall (by rw [SessionCall.attemptId?, hcall])
  | appendAntennaControl mutation => exact h.otherCall (by rw [SessionCall.attemptId?, hcall])

end HistoryKept

theorem diagnosticRun_kept {calls : List SessionCall}
    (hmodel : validateV3Model E initial = .ok ())
    (hv6 : initial.manifest.schemaVersion = schemaVersionV6)
    (h : ToldRetries E profile initial omittedBefore calls) :
    HistoryKept E initial omittedBefore (diagnosticRun E profile initial calls) ∧
      ∀ earlier, earlier <+: calls →
        (diagnosticRun E profile initial earlier).bundle.diagnostics <+:
          (diagnosticRun E profile initial calls).bundle.diagnostics := by
  induction calls using List.reverseRecOn with
  | nil =>
    refine ⟨⟨hmodel, hv6, List.prefix_rfl, fun id hid => .inl hid, ?_⟩, ?_⟩
    · simp [newlyAcknowledged, diagnosticRun]
    · intro earlier hearlier
      rw [List.prefix_nil.1 hearlier]
  | append_singleton calls call ih =>
    obtain ⟨hcalls, hcall⟩ := throughout_concat.1 h
    obtain ⟨hkept, horder⟩ := ih hcalls
    have hstep : diagnosticRun E profile initial (calls ++ [call]) =
        (diagnosticRun E profile initial calls).step E profile call := by
      rw [diagnosticRun, List.foldl_append]
      rfl
    obtain ⟨hnext, hgrows⟩ := hkept.step hcall
    rw [hstep]
    refine ⟨hnext, fun earlier hearlier => ?_⟩
    rcases List.prefix_concat_iff.1 hearlier with rfl | hearlier
    · rw [hstep]
    · exact (horder earlier hearlier).trans hgrows

/-- A run in which the writer can tell the retries keeps an honest history. -/
theorem diagnosticRun_honest {calls : List SessionCall}
    (hmodel : validateV3Model E initial = .ok ())
    (hv6 : initial.manifest.schemaVersion = schemaVersionV6)
    (h : ToldRetries E profile initial omittedBefore calls) :
    HonestHistory E profile initial omittedBefore calls := by
  obtain ⟨hkept, horder⟩ := diagnosticRun_kept hmodel hv6 h
  have hbounded := diagnosticsBounded_of_valid hkept.model hkept.version
  exact ⟨horder, hbounded.records, hbounded.recordBytes, hbounded.streamBytes, hbounded.status,
    hkept.count⟩

end

namespace Scenario

/-- A running session whose history already misses one outcome; its last mutation is the
event that started it. -/
def saturatedSession : BundleV3Contents :=
  { running [] [startedEvent] with
    sessionState := { (running [] [startedEvent]).sessionState with
      lastCommittedMutationId := some "start"
      diagnosticsStatus := some ⟨.saturated, 1, some (noon 6), some diagnosticRetentionReason⟩ } }

def failedImport : OperationalDiagnosticV6 where
  schema := operationalDiagnosticSchemaV1
  diagnosticId := "d2"
  correlationId := "import"
  attemptId := "a2"
  mutation := ⟨"pending", 0, 1⟩
  runtimeContextId := contextId
  occurredAt := noon 9
  operation := .wsprLiveAcquisition
  phase := .acquire
  code := "wspr_live.request_failed"
  summary := "The report request failed."
  outcome := .failed
  severity := .warning
  revisionBefore := none
  revisionAfter := none
  diagnosticRevision := 0
  evidenceEffect := .noneCommitted
  retry := ⟨.retryable, "retry_import"⟩
  targets := []
  causes := []
  detailStatus := ⟨.complete, 0⟩

/-- The diagnostic is appended under a mutation identity. -/
def reportCall (mutationId : String) : SessionCall where
  handle := session
  call := .appendDiagnostic ⟨1, mutationId, failedImport⟩
  fault := .none
  now := noon 9

theorem saturatedSession_valid : validateV3Model (env unknown) saturatedSession = .ok () := by
  decide +kernel

/-- The new attempt is acknowledged under the identity of the last event, and not counted. -/
theorem reportCall_reused_not_honest :
    ¬HonestHistory (env unknown) localStandardV1 saturatedSession [] [reportCall "start"] := by
  intro h
  have hcount := h.count
  exact absurd hcount (by decide)

theorem reportCall_honest :
    HonestHistory (env unknown) localStandardV1 saturatedSession [] [reportCall "d2"] := by
  apply diagnosticRun_honest saturatedSession_valid rfl
  refine throughout_singleton.2 fun mutation hmutation hunknown => ?_
  obtain rfl := LiveCall.appendDiagnostic.inj hmutation
  refine ⟨?_, fun _ => nofun, fun _ => .inl (by decide), fun _ => nofun⟩
  exact fun hretry => absurd hretry (by decide)

end Scenario

end AntennaBench
