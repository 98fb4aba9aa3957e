import AntennaBench.Core.Projection
import AntennaBench.Storage.ValidateV3
import AntennaBench.Scenario.Session

/-!
# Operator facts of accepted bundles

The facts that alignment and reports read of a bundle, against the facts its
operator events state.
-/

namespace AntennaBench

/-- Neither the run nor the reduction of an accepted bundle reports anything. -/
theorem validateV3Model_stream {E : Env} {bundle : BundleV3Contents}
    (h : validateV3Model E bundle = .ok ()) :
    (projectWsprRunV3 bundle.schedule bundle.events).diagnostics = [] ∧
      (reduceOperatorEventsV3 .ready bundle.events).diagnostics = [] := by
  unfold validateV3Model at h
  simp only [bind_eq_ok] at h
  obtain ⟨_, _, _, _, _, _, _, _, _, hstream, -⟩ := h
  unfold validateEventStream at hstream
  cases hrun : (projectWsprRunV3 bundle.schedule bundle.events).diagnostics with
  | cons diagnostic rest => simp [hrun] at hstream
  | nil =>
    refine ⟨rfl, ?_⟩
    cases hdiagnostics : (reduceOperatorEventsV3 .ready bundle.events).diagnostics with
    | nil => rfl
    | cons diagnostic rest =>
      simp only [hrun, hdiagnostics, ok_bind, error_bind, bind_eq_ok, reduceCtorEq, and_false,
        exists_false] at hstream

theorem validateV3Model_runs {E : Env} {bundle : BundleV3Contents}
    (h : validateV3Model E bundle = .ok ()) :
    (projectWsprRunV3 bundle.schedule bundle.events).diagnostics = [] :=
  (validateV3Model_stream h).1

theorem validateV3Model_reduces {E : Env} {bundle : BundleV3Contents}
    (h : validateV3Model E bundle = .ok ()) :
    (reduceOperatorEventsV3 .ready bundle.events).diagnostics = [] :=
  (validateV3Model_stream h).2

/-- The facts of the projection are those of the v3 reduction exactly when no
signal-state confirmation comes in through a correction the projection loses. -/
theorem intoCurrent_operatorFacts_perm_iff {E : Env} {bundle : BundleV3Contents}
    (h : validateV3Model E bundle = .ok ()) :
    bundle.intoCurrent.bundle.operatorFacts.Perm (operatorFactsV3 bundle.events) ↔
      SignalCorrectionsProject bundle.events :=
  operatorFacts_perm_iff bundle (validateV3Model_reduces h)

namespace Scenario

def signalMeta : RecordMetaV3 where
  schemaVersion := 3
  sessionId := "s1"
  recordedAt := noon 0
  provenance := Provenance.fromLegacy .derived "0.1.0"
  mutation := ⟨"m", 0, 1⟩
  runtimeContextId := none

def signalEvent (eventId : String) (slotId : Option String) (payload : OperatorEventPayloadV3) :
    OperatorEventV3 :=
  ⟨signalMeta, eventId, noon 0, .operatorReported, none, slotId, payload⟩

def signalPlan : SignalPlanV3 :=
  ⟨"p1", .cw, none, "K1ABC", false, ⟨"TEST", 1, some 20, 60, 120⟩, .manualObservation⟩

def signalSchedule : ScheduleV3 where
  schemaVersion := 3
  sessionId := "s1"
  mode := .txFocused
  goal := .dx
  antennaControl := none
  signalPlans := [signalPlan]
  wsprCycleIntents := [⟨"c1", 1, .m40, "A", some .transmit, some ⟨"p1", 7040000, "v1", "b1", 1⟩⟩]
  slots := []

/-- The operator reports a missed slot and corrects the report: it was transmitted. -/
def correctedEvents : List OperatorEventV3 :=
  [signalEvent "e1" none (.sessionStarted none),
    signalEvent "e2" (some "c1") (.slotMissed none),
    signalEvent "e3" none (.eventCorrected "e2" (.replace ⟨noon 0, .operatorReported, none,
      some "c1", .signalStateConfirmed ⟨some 7040000, some .cw, none, none, none, none⟩⟩)
      "sent late")]

def correctedBundle : BundleV3Contents where
  manifest := { manifest with
    schemaVersion := 3
    files := { files with runtimeContexts := none, diagnostics := none }
    creatorRuntimeContextId := none }
  sessionState := { sessionState with
    schemaVersion := 3
    lifecycle := .running
    activeRuntimeContextId := none
    diagnosticsStatus := none }
  station := { station with schemaVersion := 3 }
  antennas := { antennas with schemaVersion := 3 }
  schedule := signalSchedule
  events := correctedEvents
  observations := []
  adapterRecords := []
  rig := []
  propagation := []
  analysis := { analysis with schemaVersion := 3 }
  runtimeContexts := []
  diagnostics := []

def unknown : Known := ⟨[], [], [], []⟩

theorem correctedBundle_valid : validateV3Model (env unknown) correctedBundle = .ok () := by
  have hany : (validateV3Model (env unknown) correctedBundle).toOption.any (fun _ => true) = true :=
    by decide
  obtain ⟨_, hok, -⟩ := exists_ok_of_any hany
  exact hok

/-- The missed slot is still a fact of the projection, and of it alone. -/
theorem correctedBundle_facts :
    correctedBundle.intoCurrent.bundle.operatorFacts.map (·.eventId) = ["e2"] ∧
      operatorFactsV3 correctedBundle.events = [] := by
  constructor <;> decide

theorem correctedBundle_stale : validateV3Model (env unknown) correctedBundle = .ok () ∧
    ¬correctedBundle.intoCurrent.bundle.operatorFacts.Perm
      (operatorFactsV3 correctedBundle.events) := by
  refine ⟨correctedBundle_valid, fun hperm => ?_⟩
  have hfacts := hperm.map (·.eventId)
  rw [correctedBundle_facts.1, correctedBundle_facts.2] at hfacts
  exact absurd hfacts.length_eq (by decide)

theorem correctedBundle_perm_iff :
    correctedBundle.intoCurrent.bundle.operatorFacts.Perm
        (operatorFactsV3 correctedBundle.events) ↔
      SignalCorrectionsProject correctedBundle.events :=
  intoCurrent_operatorFacts_perm_iff correctedBundle_valid

end Scenario

end AntennaBench
