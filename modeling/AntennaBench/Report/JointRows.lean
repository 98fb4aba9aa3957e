import AntennaBench.Analysis.ReceiverOutcomes

/-!
# The rows behind a report

What the report's projections may rely on in an analysis: every row counts its receivers,
and every summary is that of the rows of its stratum.
-/

namespace AntennaBench

open Timeline

/-- The receivers of a row are counted, all of them and by outcome. -/
structure ReporterActivityPairedRate.CountsReceivers (row : ReporterActivityPairedRate) :
    Prop where
  active : row.activeInBothCount = row.receivers.length
  outcomes : ∀ outcome,
    row.outcomeCount outcome = AntennaBench.outcomeCount row.receivers outcome

/-- The opportunities of one outcome, or all of them. -/
def ReporterActivityJointReceiver.counts (outcome : Option ReporterActivityJointOutcome)
    (receiver : ReporterActivityJointReceiver) : ℕ :=
  match outcome with
  | none => 1
  | some outcome => if receiver.outcome = outcome then 1 else 0

theorem counts_outcomes (receiver : ReporterActivityJointReceiver) :
    receiver.counts (some .heardBoth) + receiver.counts (some .leftOnly) +
      receiver.counts (some .rightOnly) + receiver.counts (some .heardNeither) = 1 := by
  unfold ReporterActivityJointReceiver.counts
  cases receiver.outcome <;> rfl

/-- The counts of a row, by outcome and in all. -/
def ReporterActivityPairedRate.countOf (outcome : Option ReporterActivityJointOutcome)
    (row : ReporterActivityPairedRate) : ℕ :=
  match outcome with
  | none => row.activeInBothCount
  | some outcome => row.outcomeCount outcome

theorem sum_counts (outcome : Option ReporterActivityJointOutcome)
    (receivers : List ReporterActivityJointReceiver) :
    (receivers.map (·.counts outcome)).sum =
      outcome.elim receivers.length (outcomeCount receivers) := by
  rcases outcome with _ | outcome
  · simp [ReporterActivityJointReceiver.counts]
  · induction receivers with
    | nil => rfl
    | cons receiver receivers ih =>
      by_cases h : receiver.outcome = outcome <;>
        simp_all [ReporterActivityJointReceiver.counts, outcomeCount, Nat.add_comm]

theorem ReporterActivityPairedRate.CountsReceivers.countOf {row : ReporterActivityPairedRate}
    (h : row.CountsReceivers) (outcome : Option ReporterActivityJointOutcome) :
    row.countOf outcome = (row.receivers.map (·.counts outcome)).sum := by
  rw [sum_counts]
  rcases outcome with _ | outcome
  · exact h.active
  · exact h.outcomes outcome

/-- The summaries are those of the rows, which count their receivers. -/
structure ReporterActivityAnalysis.Summarized (activity : ReporterActivityAnalysis) : Prop where
  rows : ∀ row ∈ activity.pairedRates, row.CountsReceivers
  summaries : activity.jointSummaries = summarizeJointOutcomes activity.pairedRates

theorem analyze_summarized {env : CensusEnv} {inputs : ActivityInputs}
    {records : List AdapterRecordV2} {activity : ReporterActivityAnalysis}
    (h : analyzeReporterActivity env inputs records = .ok activity) : activity.Summarized := by
  by_cases hidle : records = [] ∧ inputs.cycleDirections = []
  · unfold analyzeReporterActivity at h
    rw [if_pos (by simpa [List.isEmpty_iff] using hidle)] at h
    obtain rfl := Except.ok.inj h
    constructor
    · intro row hrow
      cases hrow
    · rfl
  have hactivity := analyze_activity h hidle
  have hcounted := activity_counted hactivity
  constructor
  · intro row hrow
    obtain ⟨cycle, -, hrate⟩ := forall₂_exists_left hcounted row hrow
    exact ⟨hrate.partition.2, hrate.counts⟩
  · simp only [ActivityInputs.activity, bind_eq_ok] at hactivity
    obtain ⟨results, -, hresult⟩ := hactivity
    obtain rfl := Except.ok.inj hresult
    rfl

/-- A summary is that of the rows of its stratum, of which there is one at least. -/
theorem mem_summarizeJointOutcomes {rows : List ReporterActivityPairedRate}
    {summary : ReporterActivityJointSummary} (h : summary ∈ summarizeJointOutcomes rows) :
    jointSummary (rows.filter (·.stratum = summary.stratum)) = some summary := by
  obtain ⟨⟨key, members⟩, hgroup, hsummary⟩ := List.mem_filterMap.1 h
  obtain ⟨-, rfl⟩ := mem_groups.1 hgroup
  have hmembers : pushed key (rows.map fun row => (activityStratumKey row.stratum, row)) =
      rows.filter fun row => activityStratumKey row.stratum = key := by
    rw [pushed, List.filter_map, List.map_map]
    exact List.map_id _
  dsimp only at hsummary
  rw [hmembers] at hsummary
  obtain ⟨first, hfirst, hvalue⟩ := Option.map_eq_some_iff.1 hsummary
  have hstratum : summary.stratum = first.stratum := by rw [← hvalue]
  have hkey : activityStratumKey first.stratum = key := by
    simpa using (List.mem_filter.1 (List.mem_of_head? hfirst)).2
  have hsame : rows.filter (·.stratum = summary.stratum) =
      rows.filter fun row => activityStratumKey row.stratum = key := by
    apply List.filter_congr
    intro row _
    rw [hstratum, ← hkey, decide_eq_decide]
    exact (activityStratumKey_injective.eq_iff).symm
  rw [hsame]
  exact hsummary

/-- The counts of a summary, by outcome. -/
def ReporterActivityJointSummary.outcomeCount (summary : ReporterActivityJointSummary) :
    ReporterActivityJointOutcome → ℕ
  | .heardBoth => summary.heardBothCount
  | .leftOnly => summary.leftOnlyCount
  | .rightOnly => summary.rightOnlyCount
  | .heardNeither => summary.heardNeitherCount

/-- The fields of a summary, from its rows. -/
structure ReporterActivityJointSummary.Totals (summary : ReporterActivityJointSummary)
    (rows : List ReporterActivityPairedRate) : Prop where
  blocks : summary.eligibleBlockCount = rows.length
  unique : summary.uniqueActiveReceiverCount =
    (rows.flatMap fun row => row.receivers.map (·.receiver)).toFinset.card
  opportunities : summary.receiverBlockOpportunityCount =
    (rows.flatMap (·.receivers)).length
  outcomes : ∀ outcome, summary.outcomeCount outcome =
    AntennaBench.outcomeCount (rows.flatMap (·.receivers)) outcome

theorem sum_activeInBothCount {rows : List ReporterActivityPairedRate}
    (h : ∀ row ∈ rows, row.CountsReceivers) :
    (rows.map (·.activeInBothCount)).sum = (rows.flatMap (·.receivers)).length := by
  rw [List.length_flatMap, List.map_congr_left fun row hrow => (h row hrow).active]

theorem sum_outcomeCount {rows : List ReporterActivityPairedRate}
    (h : ∀ row ∈ rows, row.CountsReceivers) (outcome : ReporterActivityJointOutcome) :
    (rows.map (·.outcomeCount outcome)).sum =
      outcomeCount (rows.flatMap (·.receivers)) outcome := by
  rw [outcomeCount, List.countP_flatMap,
    List.map_congr_left fun row hrow => (h row hrow).outcomes outcome]
  rfl

theorem ReporterActivityAnalysis.Summarized.totals {activity : ReporterActivityAnalysis}
    (h : activity.Summarized) {summary : ReporterActivityJointSummary}
    (hsummary : summary ∈ activity.jointSummaries) :
    summary.Totals (activity.pairedRates.filter (·.stratum = summary.stratum)) := by
  rw [h.summaries] at hsummary
  have hjoint := mem_summarizeJointOutcomes hsummary
  generalize hrows : activity.pairedRates.filter (·.stratum = summary.stratum) = rows at hjoint ⊢
  have hcounts : ∀ row ∈ rows, row.CountsReceivers := by
    intro row hrow
    rw [← hrows] at hrow
    exact h.rows row (List.mem_of_mem_filter hrow)
  obtain ⟨first, -, hvalue⟩ := Option.map_eq_some_iff.1 hjoint
  have hopportunities := sum_activeInBothCount hcounts
  have houtcomes := sum_outcomeCount hcounts
  constructor
  · rw [← hvalue]
  · rw [← hvalue, List.card_toFinset]
  · rw [← hvalue]
    exact hopportunities
  · intro outcome
    rw [← houtcomes, ← hvalue]
    cases outcome <;> rfl

/-- A stratum has one summary. -/
theorem ReporterActivityAnalysis.Summarized.unique {activity : ReporterActivityAnalysis}
    (h : activity.Summarized) {summary other : ReporterActivityJointSummary}
    (hsummary : summary ∈ activity.jointSummaries) (hother : other ∈ activity.jointSummaries)
    (hstratum : summary.stratum = other.stratum) : summary = other := by
  rw [h.summaries] at hsummary hother
  have hfirst := mem_summarizeJointOutcomes hsummary
  have hsecond := mem_summarizeJointOutcomes hother
  rw [hstratum, hsecond] at hfirst
  exact (Option.some.inj hfirst).symm

end AntennaBench
