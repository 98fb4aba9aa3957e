import Mathlib.Data.List.Chain
import AntennaBench.Acquisition.Advance
import AntennaBench.Conductor.SlotEvidence
import AntennaBench.Timeline.Throughout
import AntennaBench.Wsjtx.AllWsprAgreement

/-!
# The pace of the provider requests

Any number of workers advance the acquisition of one open session. A request holds neither
the foreground nor the remembered state while it runs, so the other workers, the operator and
the clock go on. Only the interval between two clock readings keeps a second request back, so
at most one is in flight and the starts are ten seconds apart in the runs in which the calls
during a request come within these ten seconds, no final retry comes early, and no call is
held up for less time than the one before it.
-/

namespace AntennaBench

open Timeline

/-- A request for spots: the number it was started under, the clock its call read on entry,
and the clock when it was sent. -/
structure SpotRequest where
  number : ℕ
  plan : WsprLiveAcquisitionPlan
  requestedRevision : ℕ
  now : DateTime
  startedAt : DateTime
  deriving DecidableEq

/-- How long a call was held up between reading the clock and sending its request. -/
def SpotRequest.delay (request : SpotRequest) : ℤ :=
  request.startedAt - request.now

/-- The acquisition of one session: what is remembered, every request so far in the order
they were sent, those that run, and the censuses that run. -/
structure AcquisitionRun where
  runtime : WsprLiveAcquisitionRuntime
  requests : List SpotRequest := []
  inFlight : List SpotRequest := []
  censuses : List SpotRequest := []

/-- Each part of a call that runs alone on the open session. -/
inductive AcquisitionStep where
  /-- A call enters; the clock is `startedAt` when it can send a request. -/
  | advance (call : AdvanceCall) (startedAt : DateTime)
  | spots (number : ℕ) (arrival : SpotArrival)
  | census (number : ℕ) (arrival : CensusArrival)

namespace AcquisitionRun

variable (env : WsprLiveEnv) (source : String) (run : AcquisitionRun)

/-- A request leaves the foreground. -/
def send (plan : WsprLiveAcquisitionPlan) (call : AdvanceCall) (startedAt : DateTime) :
    AcquisitionRun :=
  let request : SpotRequest := {
    number := run.requests.length
    plan
    requestedRevision := (call.snapshot.toOption.map (·.revision)).getD 0
    now := call.now
    startedAt }
  { run with
    requests := run.requests ++ [request]
    inFlight := run.inFlight ++ [request] }

def advance (call : AdvanceCall) (startedAt : DateTime) : AcquisitionRun :=
  let (decision, runtime) := enterAcquisition env source run.runtime call
  match decision with
  | .ok (.request plan) => { run with runtime }.send plan call startedAt
  | _ => { run with runtime }

/-- The spots of a request arrive. -/
def spots (number : ℕ) (arrival : SpotArrival) : AcquisitionRun :=
  match run.inFlight.find? (·.number = number) with
  | none => run
  | some request =>
    let (runtime, census) :=
      afterSpots run.runtime request.plan request.requestedRevision arrival
    { run with
      runtime
      inFlight := run.inFlight.filter (·.number ≠ number)
      censuses := run.censuses ++
        (census.map fun revision => { request with requestedRevision := revision }).toList }

def census (number : ℕ) (arrival : CensusArrival) : AcquisitionRun :=
  match run.censuses.find? (·.number = number) with
  | none => run
  | some request =>
    { run with
      runtime := afterCensus env run.runtime request.plan request.requestedRevision arrival
      censuses := run.censuses.filter (·.number ≠ number) }

def step : AcquisitionStep → AcquisitionRun
  | .advance call startedAt => run.advance env source call startedAt
  | .spots number arrival => run.spots number arrival
  | .census number arrival => run.census env number arrival

def steps : List AcquisitionStep → AcquisitionRun :=
  List.foldl (step env source) run

end AcquisitionRun

/-- At most one request is in flight and the starts are ten seconds apart. -/
structure Paced (run : AcquisitionRun) : Prop where
  single : run.inFlight.length ≤ 1
  apart : run.requests.IsChain fun earlier later =>
    earlier.startedAt + DateTime.seconds wsprLiveMinRequestIntervalSeconds ≤ later.startedAt

/-- The plan an explicit retry of the final capture asks again, past the interval. -/
def AdvanceCall.finalRetry? (env : WsprLiveEnv) (call : AdvanceCall) :
    Option WsprLiveAcquisitionPlan := do
  let snapshot ← call.snapshot.toOption
  guard (snapshot.lifecycle = .running ∧ snapshot.wsprLiveAcquisitionEnabled = true)
  let plans ← snapshot.authorizedPlans.toOption
  finalRetryPlan? env snapshot plans call.retry

/-- A clock reading at least ten seconds after the one a request was sent under. -/
def SpotRequest.LongBefore (request : SpotRequest) (now : DateTime) : Prop :=
  request.now + DateTime.seconds wsprLiveMinRequestIntervalSeconds ≤ now

instance (request : SpotRequest) (now : DateTime) : Decidable (request.LongBefore now) :=
  inferInstanceAs (Decidable (_ ≤ _))

/-- What the clocks of a call must meet. A call that enters while a request runs reads its
clock within ten seconds of the reading of that request and is no final retry. A final retry
reads its clock ten seconds after the last request, and a call that does so is held up no less
than the last request was. -/
@[mk_iff]
structure Patient (env : WsprLiveEnv) (run : AcquisitionRun) (call : AdvanceCall)
    (startedAt : DateTime) : Prop where
  during : ∀ request ∈ run.inFlight,
    ¬ request.LongBefore call.now ∧ call.finalRetry? env = none
  retried : (call.finalRetry? env).isSome → ∀ last ∈ run.requests.getLast?,
    last.LongBefore call.now
  delay : ∀ last ∈ run.requests.getLast?, last.LongBefore call.now →
    last.delay ≤ startedAt - call.now

instance (env : WsprLiveEnv) (run : AcquisitionRun) (call : AdvanceCall) (startedAt : DateTime) :
    Decidable (Patient env run call startedAt) :=
  decidable_of_iff _ (patient_iff env run call startedAt).symm

/-- Only the calls that enter are asked to be patient. -/
def PatientStep (env : WsprLiveEnv) (run : AcquisitionRun) : AcquisitionStep → Prop
  | .advance call startedAt => Patient env run call startedAt
  | .spots .. | .census .. => True

instance (env : WsprLiveEnv) (run : AcquisitionRun) :
    (step : AcquisitionStep) → Decidable (PatientStep env run step)
  | .advance call startedAt => inferInstanceAs (Decidable (Patient env run call startedAt))
  | .spots .. | .census .. => inferInstanceAs (Decidable True)

/-- Every call of the run is patient. -/
def PatientSteps (env : WsprLiveEnv) (source : String) (opened : AcquisitionRun) :
    List AcquisitionStep → Prop :=
  Throughout fun earlier step => PatientStep env (opened.steps env source earlier) step

section

variable {env : WsprLiveEnv} {source : String} {runtime : WsprLiveAcquisitionRuntime}
  {plan : WsprLiveAcquisitionPlan} {plans : List WsprLiveAcquisitionPlan}
  {snapshot : AcquisitionSnapshot} {call : AdvanceCall} {now : DateTime} {retry : Bool}

/-- A runtime that knows the last request of the session at `source`. -/
structure Remembers (source : String) (runtime : WsprLiveAcquisitionRuntime)
    (last : SpotRequest) : Prop where
  source : runtime.source = some source
  startedAt : runtime.lastRequestStartedAt = some last.now

theorem Remembers.reset {last : SpotRequest} (h : Remembers source runtime last) :
    runtime.resetForSource source = runtime := by
  simp [WsprLiveAcquisitionRuntime.resetForSource, h.source]

@[simp] theorem finished_source {ended : Except SessionErrorPayload Unit} :
    (runtime.finished plan ended).source = runtime.source := by
  cases ended <;> rfl

@[simp] theorem finished_lastRequestStartedAt {ended : Except SessionErrorPayload Unit} :
    (runtime.finished plan ended).lastRequestStartedAt = runtime.lastRequestStartedAt := by
  cases ended <;> rfl

/-- What arrives leaves the source and the last start as they are. -/
theorem afterSpots_remembers {last : SpotRequest} {revision : ℕ} {arrival : SpotArrival}
    (h : Remembers source runtime last) :
    Remembers source (afterSpots runtime plan revision arrival).1 last := by
  unfold afterSpots
  split
  · exact ⟨h.source, h.startedAt⟩
  · split
    · exact h
    · exact h
    · split
      · exact ⟨h.source, h.startedAt⟩
      · exact h

theorem afterCensus_remembers {last : SpotRequest} {revision : ℕ} {arrival : CensusArrival}
    (h : Remembers source runtime last) :
    Remembers source (afterCensus env runtime plan revision arrival) last := by
  have hforget : Remembers source runtime.forgetFailure last := ⟨h.source, h.startedAt⟩
  unfold afterCensus
  split
  · exact h
  · exact h
  · dsimp only
    split
    · split
      · exact hforget
      · split
        · exact hforget
        · exact ⟨by simpa using hforget.source, by simpa using hforget.startedAt⟩
    · exact hforget

/-- A call that sends a request found its plan due or was asked for a final retry. -/
theorem decidePlans_request (h : decidePlans env snapshot plans runtime retry now =
    .request plan) :
    (finalRetryPlan? env snapshot plans retry).isSome ∨
      latestDueWsprLiveAcquisition (pendingPlans env snapshot plans) now
        runtime.lastRequestStartedAt = some plan := by
  unfold decidePlans at h
  cases hretry : finalRetryPlan? env snapshot plans retry with
  | some retried => exact .inl rfl
  | none =>
    right
    simp only [hretry, Option.toList_none, List.append_nil, Option.none_or] at h
    split at h
    · unfold decideCaptured at h
      split at h
      · cases h
      · split at h
        · split at h
          · cases h
          · split at h
            · cases h
            · dsimp only at h
              split at h <;> cases h
        · cases h
    · split at h
      · unfold waitingFor at h
        split at h <;> cases h
      · rename_i hdue
        split at h
        · cases h
        · cases h
          exact hdue

/-- What entering did, for a call that sent a request. -/
theorem enterAcquisition_request {after : WsprLiveAcquisitionRuntime}
    (h : enterAcquisition env source runtime call = (.ok (.request plan), after)) :
    ∃ snapshot plans, call.Authorizes snapshot plans ∧
      after = (runtime.resetForSource source).started call.now ∧
        ((finalRetryPlan? env snapshot plans call.retry).isSome ∨
          latestDueWsprLiveAcquisition (pendingPlans env snapshot plans) call.now
            (runtime.resetForSource source).lastRequestStartedAt = some plan) := by
  unfold enterAcquisition at h
  split at h
  · cases h
  · rename_i snapshot hsnapshot
    split_ifs at h with hrunning henabled
    · cases h
    · cases h
    · split at h
      · cases h
      · rename_i plans hplans
        dsimp only at h
        have hauthorizes : call.Authorizes snapshot plans :=
          ⟨hsnapshot, not_not.1 hrunning, by simpa using henabled, hplans⟩
        split at h
        · rename_i hdecision
          cases h
          exact ⟨snapshot, plans, hauthorizes, rfl, decidePlans_request hdecision⟩
        · cases h
        · rename_i hnot _
          exact absurd (Except.ok.inj (Prod.mk.inj h).1) (hnot _)

/-- Any other call leaves the last start of the session remembered. -/
theorem enterAcquisition_remembers {last : SpotRequest}
    {decision : Except SessionErrorPayload AcquisitionDecision}
    {after : WsprLiveAcquisitionRuntime} (h : Remembers source runtime last)
    (henter : enterAcquisition env source runtime call = (decision, after))
    (hother : ∀ plan, decision ≠ .ok (.request plan)) : Remembers source after last := by
  unfold enterAcquisition at henter
  split at henter
  · cases henter
    exact h
  · split_ifs at henter with hrunning henabled
    · cases henter
      exact h
    · cases henter
      exact h
    · split at henter
      · cases henter
        exact h
      · dsimp only at henter
        rw [h.reset] at henter
        split at henter
        · cases henter
          exact absurd rfl (hother _)
        · cases henter
          exact ⟨by simpa using h.source, by simpa using h.startedAt⟩
        · cases henter
          exact h

theorem AdvanceCall.Authorizes.finalRetry? (h : call.Authorizes snapshot plans) :
    call.finalRetry? env = finalRetryPlan? env snapshot plans call.retry := by
  obtain ⟨hsnapshot, hrunning, henabled, hplans⟩ := h
  simp [AdvanceCall.finalRetry?, hsnapshot, hrunning, henabled, hplans, Except.toOption]

theorem SpotRequest.longBefore_of_intervalAllows {request : SpotRequest}
    (h : intervalAllowsRequest now (some request.now) = true) : request.LongBefore now := by
  simp only [intervalAllowsRequest, Option.all_some, Option.any_eq_true] at h
  obtain ⟨next, hnext, hle⟩ := h
  rw [SpotRequest.LongBefore, ← (DateTime.checkedAdd_eq_some.1 hnext).2.2]
  simpa using hle

theorem intervalAllowsRequest_of_latestDue {pending : List WsprLiveAcquisitionPlan}
    {last : Option DateTime}
    (h : latestDueWsprLiveAcquisition pending now last = some plan) :
    intervalAllowsRequest now last = true := by
  unfold latestDueWsprLiveAcquisition at h
  split_ifs at h with hallows
  exact hallows

end

/-- What holds of every run of patient calls: the requests are paced, the one in flight is the
last one, and that is remembered. -/
structure PacedRun (source : String) (run : AcquisitionRun) : Prop extends Paced run where
  sent : ∀ request ∈ run.inFlight, request ∈ run.requests.getLast?
  remembered : ∀ last ∈ run.requests.getLast?, Remembers source run.runtime last

section

variable {env : WsprLiveEnv} {source : String} {run : AcquisitionRun} {call : AdvanceCall}
  {startedAt : DateTime} {plan : WsprLiveAcquisitionPlan}
  {snapshot : AcquisitionSnapshot} {plans : List WsprLiveAcquisitionPlan}

/-- A run that has sent nothing yet, whatever the process remembers. -/
theorem pacedRun_opened (runtime : WsprLiveAcquisitionRuntime) :
    PacedRun source { runtime } where
  single := by simp
  apart := by simp
  sent := by simp
  remembered := by simp

/-- A call that sends a request past the last one is a final retry or comes long after it. -/
theorem PacedRun.longBefore_of_request (h : PacedRun source run)
    (hauthorizes : call.Authorizes snapshot plans)
    (hwhy : (finalRetryPlan? env snapshot plans call.retry).isSome ∨
      latestDueWsprLiveAcquisition (pendingPlans env snapshot plans) call.now
        (run.runtime.resetForSource source).lastRequestStartedAt = some plan)
    {last : SpotRequest} (hlast : last ∈ run.requests.getLast?) :
    (call.finalRetry? env).isSome ∨ last.LongBefore call.now := by
  rcases hwhy with hretry | hdue
  · left
    rwa [hauthorizes.finalRetry?]
  · right
    have hremembers := h.remembered last hlast
    rw [hremembers.reset, hremembers.startedAt] at hdue
    exact SpotRequest.longBefore_of_intervalAllows (intervalAllowsRequest_of_latestDue hdue)

/-- A patient call that sends a request sends the only one. -/
theorem PacedRun.inFlight_of_request (h : PacedRun source run)
    (hpatient : Patient env run call startedAt) (hauthorizes : call.Authorizes snapshot plans)
    (hwhy : (finalRetryPlan? env snapshot plans call.retry).isSome ∨
      latestDueWsprLiveAcquisition (pendingPlans env snapshot plans) call.now
        (run.runtime.resetForSource source).lastRequestStartedAt = some plan) :
    run.inFlight = [] := by
  by_contra hbusy
  obtain ⟨request, hrequest⟩ := List.exists_mem_of_ne_nil _ hbusy
  obtain ⟨hearly, hfinal⟩ := hpatient.during request hrequest
  rcases h.longBefore_of_request hauthorizes hwhy (h.sent request hrequest) with hretry | hlong
  · rw [hfinal] at hretry
    cases hretry
  · exact hearly hlong

/-- A patient call that sends a request sends it ten seconds after the last one. -/
theorem PacedRun.apart_of_request (h : PacedRun source run)
    (hpatient : Patient env run call startedAt) (hauthorizes : call.Authorizes snapshot plans)
    (hwhy : (finalRetryPlan? env snapshot plans call.retry).isSome ∨
      latestDueWsprLiveAcquisition (pendingPlans env snapshot plans) call.now
        (run.runtime.resetForSource source).lastRequestStartedAt = some plan)
    {last : SpotRequest} (hlast : last ∈ run.requests.getLast?) :
    last.startedAt + DateTime.seconds wsprLiveMinRequestIntervalSeconds ≤ startedAt := by
  have hlong : last.LongBefore call.now := by
    rcases h.longBefore_of_request hauthorizes hwhy hlast with hretry | hlong
    · exact hpatient.retried hretry last hlast
    · exact hlong
  have hdelay := hpatient.delay last hlast hlong
  unfold SpotRequest.LongBefore at hlong
  unfold SpotRequest.delay at hdelay
  linarith

theorem PacedRun.advance (h : PacedRun source run) (hpatient : Patient env run call startedAt) :
    PacedRun source (run.advance env source call startedAt) := by
  unfold AcquisitionRun.advance
  cases henter : enterAcquisition env source run.runtime call with
  | mk decision runtime =>
    dsimp only
    split
    · rename_i plan
      obtain ⟨snapshot, plans, hauthorizes, rfl, hwhy⟩ := enterAcquisition_request henter
      have hidle := h.inFlight_of_request hpatient hauthorizes hwhy
      refine ⟨⟨?_, ?_⟩, ?_, ?_⟩
      · simp [AcquisitionRun.send, hidle]
      · refine List.isChain_append.2 ⟨h.apart, by simp, ?_⟩
        intro last hlast next hnext
        simp only [List.head?_cons, Option.mem_def, Option.some.injEq] at hnext
        subst hnext
        exact h.apart_of_request hpatient hauthorizes hwhy hlast
      · intro request hrequest
        simp only [AcquisitionRun.send, hidle, List.nil_append, List.mem_singleton] at hrequest
        subst hrequest
        exact List.getLast?_concat
      · intro last hlast
        simp only [AcquisitionRun.send, List.getLast?_concat, Option.mem_def,
          Option.some.injEq] at hlast
        subst hlast
        refine ⟨?_, rfl⟩
        simp only [AcquisitionRun.send, WsprLiveAcquisitionRuntime.started,
          WsprLiveAcquisitionRuntime.resetForSource]
        split_ifs with hsource
        · exact hsource
        · rfl
    · rename_i hother
      exact ⟨⟨h.single, h.apart⟩, h.sent, fun last hlast =>
        enterAcquisition_remembers (h.remembered last hlast) henter hother⟩

theorem PacedRun.spots (h : PacedRun source run) (number : ℕ) (arrival : SpotArrival) :
    PacedRun source (run.spots number arrival) := by
  unfold AcquisitionRun.spots
  split
  · exact h
  · rename_i request _
    dsimp only
    refine ⟨⟨(List.length_filter_le _ _).trans h.single, h.apart⟩, ?_, ?_⟩
    · intro request hrequest
      exact h.sent request (List.mem_of_mem_filter hrequest)
    · intro last hlast
      exact afterSpots_remembers (h.remembered last hlast)

theorem PacedRun.census (h : PacedRun source run) (number : ℕ) (arrival : CensusArrival) :
    PacedRun source (run.census env number arrival) := by
  unfold AcquisitionRun.census
  split
  · exact h
  · exact ⟨⟨h.single, h.apart⟩, h.sent, fun last hlast =>
      afterCensus_remembers (h.remembered last hlast)⟩

theorem PacedRun.step (h : PacedRun source run) {step : AcquisitionStep}
    (hpatient : PatientStep env run step) : PacedRun source (run.step env source step) := by
  cases step with
  | advance call startedAt => exact h.advance hpatient
  | spots number arrival => exact h.spots number arrival
  | census number arrival => exact h.census number arrival

theorem pacedRun_steps {opened : AcquisitionRun} (h : PacedRun source opened)
    {steps : List AcquisitionStep} (hpatient : PatientSteps env source opened steps) :
    PacedRun source (opened.steps env source steps) := by
  induction steps using List.reverseRecOn with
  | nil => exact h
  | append_singleton steps step ih =>
    obtain ⟨hearlier, hstep⟩ := throughout_concat.1 hpatient
    rw [AcquisitionRun.steps, List.foldl_append]
    exact (ih hearlier).step hstep

end

/-- However the calls, the responses and the operator interleave, patient calls send one
request at a time and ten seconds apart. -/
theorem acquisitionRun_paced (env : WsprLiveEnv) (source : String)
    (runtime : WsprLiveAcquisitionRuntime) (steps : List AcquisitionStep)
    (hpatient : PatientSteps env source { runtime } steps) :
    Paced (AcquisitionRun.steps env source { runtime } steps) :=
  (pacedRun_steps (pacedRun_opened runtime) hpatient).toPaced

namespace Scenario

/-- One cycle on antenna A, armed and transmitted. -/
def oneCycle : BundleV3Contents :=
  running [cycleIntent "c1" 1 "A"] [startedEvent, armedEvent "e1" "c1" "A" 121]

def pollAt (bundle : BundleV3Contents) (seconds : ℕ) (retry : Bool) : AcquisitionStep :=
  .advance ⟨noon seconds, retry, .ok (.v3 bundle), .ok ()⟩ (noon seconds)

def spotsSaved (bundle : BundleV3Contents) : AcquisitionStep :=
  .spots 0 ⟨.ok (), .ok (.v3 bundle), .ok ()⟩

/-- The summary of a capture through the cycle that created nothing. -/
def emptySummary : AdapterRecordV2 where
  recordMeta := ⟨6, "s1", noon 601, .fromLegacy .derived "0.1.0", ⟨"m2", 0, 1⟩, some contextId⟩
  recordId := "summary"
  sourceTime := none
  recordType := "wspr_live_import_summary"
  disposition := .accepted
  reason := WsprLiveEnv.importSummaryReason
  normalizedRecords := []
  input := .inline "summary" "application/json" none none

def captureEnv : WsprLiveEnv :=
  { listeningEnv with
    fromStr := fun _ => some (.object [("acquisition_channel", .string "https-query"),
      ("window_end", .string ""), ("counts", .object (["total", "accepted", "filtered",
        "duplicate", "conflict", "observations_created"].map (·, .number (.posInt 0))))])
    parseDateTime := fun _ => some (noon 241) }

/-- The session whose public spots were captured without a new observation. -/
def emptyCapture : BundleV3Contents := { oneCycle with adapterRecords := [emptySummary] }

/-- A poll during the request and one after it; the final capture is asked for again once the
interval is over. -/
def pacedSteps : List AcquisitionStep :=
  [pollAt oneCycle 600 false, pollAt oneCycle 605 false, spotsSaved oneCycle,
    pollAt emptyCapture 608 false, pollAt emptyCapture 612 true]

theorem pacedSteps_paced :
    (AcquisitionRun.steps captureEnv "s1" { runtime := {} } pacedSteps).requests.map
        (·.startedAt) = [noon 600, noon 612] ∧
      Paced (AcquisitionRun.steps captureEnv "s1" { runtime := {} } pacedSteps) := by
  constructor
  · decide
  · apply acquisitionRun_paced
    unfold PatientSteps
    decide

/-- A second worker polls while the first one still waits for its response. -/
theorem slowResponse_overlapped :
    ¬ Paced (AcquisitionRun.steps listeningEnv "s1" { runtime := {} }
      [pollAt oneCycle 600 false, pollAt oneCycle 612 false]) := by
  intro h
  exact absurd h.single (by decide)

/-- A final retry does not wait for the interval. -/
example : (AcquisitionRun.steps captureEnv "s1" { runtime := {} } [pollAt oneCycle 600 false,
    spotsSaved oneCycle, pollAt emptyCapture 602 true]
      ).requests.map (·.startedAt) = [noon 600, noon 602] := by
  decide

end Scenario

end AntennaBench
