import AntennaBench.Core.OperatorEventsV3
import AntennaBench.Wsjtx.Scalars
import AntennaBench.Analysis.Evidence
import AntennaBench.Timeline.OrderedMap

/-!
# The reporter census

What `activity.rs` reads out of the adapter records: the summaries that say which cycles
a census covers, and the rows that say which reporters it found active in a cycle. A
reporter with several rows in one cycle keeps the first of them.
-/

namespace AntennaBench

open Timeline

inductive ReporterActivityUnknownReason where
  | noCensusCoverage
  | unsupportedReceiveDirection
  | unsupportedSignalMode
  deriving DecidableEq

/-- `ReporterActivityCoverage`; `partialCensus` is its `Partial`. -/
inductive ReporterActivityCoverage where
  | unknown (reason : ReporterActivityUnknownReason)
  | complete
  | partialCensus
  | truncated
  deriving DecidableEq

namespace ReporterActivityCoverage

def isKnown : ReporterActivityCoverage → Bool
  | unknown _ => false
  | _ => true

/-- `coverage_rank`. -/
def rank : ReporterActivityCoverage → ℕ
  | unknown _ => 0
  | truncated => 1
  | partialCensus => 2
  | complete => 3

/-- `combined_coverage`. -/
def combined : ReporterActivityCoverage → ReporterActivityCoverage → ReporterActivityCoverage
  | unknown reason, _ => unknown reason
  | _, unknown reason => unknown reason
  | truncated, _ => truncated
  | _, truncated => truncated
  | partialCensus, _ => partialCensus
  | _, partialCensus => partialCensus
  | complete, complete => complete

end ReporterActivityCoverage

/-- `serde_json::from_str` and the reading of a `DateTime<Utc>`. -/
structure CensusEnv where
  fromStr : String → Option JsonValue
  dateTime : JsonValue → Option DateTime

/-- The name of a unit variant: a string, or the only key of an object that holds null. -/
def JsonValue.variantName? : JsonValue → Option String
  | string name => some name
  | object [(name, null)] => some name
  | _ => none

def JsonValue.asBool? : JsonValue → Option Bool
  | bool value => some value
  | _ => none

def Band.fromJson? (value : JsonValue) : Option Band :=
  value.variantName?.bind fun name => bands.find? (·.jsonName = name)

/-- `AdapterInput::Inline`. -/
def AdapterInput.inlineData? : AdapterInput → Option String
  | inline data _ _ _ => some data
  | attachment _ => none

/-- `WSPR_LIVE_PROVIDER_ID`. -/
def AdapterRecordV2.fromWsprLive (record : AdapterRecordV2) : Bool :=
  record.recordMeta.provenance.providerId.value = "wspr-live"

structure CensusSummary where
  recordId : String
  windowStart : DateTime
  windowEnd : DateTime
  bands : List Band
  coverage : ReporterActivityCoverage

namespace CensusSummary

/-- The coverage of a summary that says whether its rows were cut off or malformed. -/
def coverageOf (truncated : Bool) (malformed : ℕ) (disposition : AdapterDisposition) :
    ReporterActivityCoverage :=
  if truncated then .truncated
  else if 0 < malformed ∨ disposition = .partiallyNormalized then .partialCensus
  else .complete

theorem isKnown_coverageOf (truncated : Bool) (malformed : ℕ) (disposition : AdapterDisposition) :
    (coverageOf truncated malformed disposition).isKnown = true := by
  unfold coverageOf
  split_ifs <;> rfl

def covers (summary : CensusSummary) (cycleTime : DateTime) (band : Band) : Bool :=
  summary.windowStart ≤ cycleTime && cycleTime < summary.windowEnd && summary.bands.contains band

end CensusSummary

/-- `parse_summary`. -/
def CensusEnv.parseSummary (env : CensusEnv) (record : AdapterRecordV2) : Option CensusSummary :=
  if record.recordType ≠ "wspr_live_activity_census_summary" ∨
      ¬ (record.disposition = .accepted ∨ record.disposition = .partiallyNormalized) ∨
      ¬ record.fromWsprLive then none
  else do
    let data ← record.input.inlineData?
    let value ← env.fromStr data
    if (value.get? "status").bind (·.asStr?) = some "failed" then none
    else
      let windowStart ← (value.get? "window_start").bind env.dateTime
      let windowEnd ← (value.get? "window_end").bind env.dateTime
      if windowEnd ≤ windowStart then none
      else
        let bands ← (value.get? "selected_bands").bind fun bands =>
          bands.asArray?.bind (·.mapM Band.fromJson?)
        let truncated ← (value.get? "truncated").bind (·.asBool?)
        let malformed :=
          (((value.get? "counts").bind (·.get? "malformed")).bind (·.asU64?)).getD 0
        return {
          recordId := record.recordId
          windowStart := windowStart
          windowEnd := windowEnd
          bands := bands
          coverage := CensusSummary.coverageOf truncated malformed record.disposition }

theorem CensusEnv.parseSummary_isKnown {env : CensusEnv} {record : AdapterRecordV2}
    {summary : CensusSummary} (h : env.parseSummary record = some summary) :
    summary.coverage.isKnown = true := by
  unfold parseSummary at h
  split at h
  · cases h
  simp only [Option.bind_eq_bind, Option.bind_eq_some_iff] at h
  obtain ⟨data, -, value, -, h⟩ := h
  split at h
  · cases h
  simp only [Option.bind_eq_some_iff] at h
  obtain ⟨windowStart, -, windowEnd, -, h⟩ := h
  split at h
  · cases h
  simp only [Option.bind_eq_some_iff] at h
  obtain ⟨bands, -, truncated, -, h⟩ := h
  obtain rfl := Option.some.inj h
  exact CensusSummary.isKnown_coverageOf _ _ _

/-- The highest rank of the summaries. -/
def bestRank (summaries : List CensusSummary) : ℕ :=
  (summaries.map (·.coverage.rank)).foldr max 0

/-- The summaries that cover a cycle best, by record identity. -/
def bestCovering (cycleTime : DateTime) (band : Band) (summaries : List CensusSummary) :
    List CensusSummary :=
  let covering := summaries.filter (·.covers cycleTime band)
  sortOn (·.recordId) (covering.filter (·.coverage.rank = bestRank covering))

/-- `coverage_for`: the best coverage of a cycle, and the summaries that give it. -/
def coverageFor (cycleTime : DateTime) (band : Band) (summaries : List CensusSummary) :
    ReporterActivityCoverage × List String :=
  match bestCovering cycleTime band summaries with
  | [] => (.unknown .noCensusCoverage, [])
  | first :: rest => (first.coverage, (first :: rest).map (·.recordId))

theorem exists_bestRank {summaries : List CensusSummary} (h : summaries ≠ []) :
    ∃ summary ∈ summaries, summary.coverage.rank = bestRank summaries := by
  induction summaries with
  | nil => exact absurd rfl h
  | cons first rest ih =>
    have hcons : bestRank (first :: rest) = max first.coverage.rank (bestRank rest) := rfl
    by_cases hle : bestRank rest ≤ first.coverage.rank
    · exact ⟨first, List.mem_cons_self, by rw [hcons, max_eq_left hle]⟩
    · have hrest : rest ≠ [] := by
        rintro rfl
        exact hle (Nat.zero_le _)
      obtain ⟨summary, hmem, hrank⟩ := ih hrest
      exact ⟨summary, List.mem_cons_of_mem _ hmem, by rw [hcons, hrank, max_eq_right (by omega)]⟩

section

variable {cycleTime : DateTime} {band : Band} {summaries summaries' : List CensusSummary}

theorem mem_bestCovering {summary : CensusSummary} :
    summary ∈ bestCovering cycleTime band summaries ↔
      summary ∈ summaries ∧ summary.covers cycleTime band = true ∧
        summary.coverage.rank = bestRank (summaries.filter (·.covers cycleTime band)) := by
  simp only [bestCovering, mem_sortOn, List.mem_filter, decide_eq_true_eq, and_assoc]

theorem bestCovering_eq_nil : bestCovering cycleTime band summaries = [] ↔
    ∀ summary ∈ summaries, ¬ summary.covers cycleTime band = true := by
  constructor
  · intro hnil summary hmem hcovers
    have hcovering : summaries.filter (·.covers cycleTime band) ≠ [] :=
      List.ne_nil_of_mem (List.mem_filter.2 ⟨hmem, hcovers⟩)
    obtain ⟨best, hbest, hrank⟩ := exists_bestRank hcovering
    obtain ⟨hsummary, hcov⟩ := List.mem_filter.1 hbest
    exact List.eq_nil_iff_forall_not_mem.1 hnil best (mem_bestCovering.2 ⟨hsummary, hcov, hrank⟩)
  · intro hnone
    refine List.eq_nil_iff_forall_not_mem.2 fun summary hmem => ?_
    obtain ⟨hsummary, hcovers, -⟩ := mem_bestCovering.1 hmem
    exact hnone summary hsummary hcovers

/-- A cycle has known coverage where some summary covers it. -/
theorem coverageFor_isKnown (hknown : ∀ summary ∈ summaries, summary.coverage.isKnown = true) :
    (coverageFor cycleTime band summaries).1.isKnown = true ↔
      ∃ summary ∈ summaries, summary.covers cycleTime band = true := by
  unfold coverageFor
  cases hbest : bestCovering cycleTime band summaries with
  | nil =>
    have hnone := bestCovering_eq_nil.1 hbest
    constructor
    · intro h
      cases h
    · rintro ⟨summary, hmem, hcovers⟩
      exact absurd hcovers (hnone summary hmem)
  | cons first rest =>
    have hfirst : first ∈ bestCovering cycleTime band summaries := by
      rw [hbest]
      exact List.mem_cons_self
    obtain ⟨hmem, hcovers, -⟩ := mem_bestCovering.1 hfirst
    exact iff_of_true (hknown first hmem) ⟨first, hmem, hcovers⟩

end

structure ReporterActivityReporter where
  reporter : String
  reporterGrid : Option String
  censusRecordId : String
  deriving DecidableEq

/-- The time of a cycle and its band. -/
abbrev CensusKey := DateTime × Band

/-- `parse_census_row`. -/
def CensusEnv.parseCensusRow (env : CensusEnv) (record : AdapterRecordV2) :
    Option (CensusKey × ReporterActivityReporter) :=
  if record.recordType ≠ "wspr_live_activity_census" ∨ record.disposition ≠ .accepted ∨
      ¬ record.fromWsprLive then none
  else do
    let data ← record.input.inlineData?
    let value ← env.fromStr data
    let cycleTime ← (value.get? "cycle_time").bind env.dateTime
    let band ← (value.get? "band").bind Band.fromJson?
    let reporter ← (value.get? "reporter").bind (·.asStr?)
    return ((cycleTime, band), {
      reporter := reporter
      reporterGrid := (value.get? "reporter_grid").bind (·.asStr?)
      censusRecordId := record.recordId })

/-- The rows of one cycle, under the names of their reporters. -/
def rowsAt (key : CensusKey) (rows : List (CensusKey × ReporterActivityReporter)) :
    List (String × ReporterActivityReporter) :=
  (rows.filter (·.1 = key)).map fun row => (row.2.reporter, row.2)

/-- What `census_rows` holds for one cycle: the first row of each reporter, by name. -/
def reportersAt (key : CensusKey) (rows : List (CensusKey × ReporterActivityReporter)) :
    List ReporterActivityReporter :=
  (firstValues (rowsAt key rows)).map (·.2)

section

variable {key : CensusKey} {rows rows' : List (CensusKey × ReporterActivityReporter)}

theorem mem_rowsAt {name : String} {reporter : ReporterActivityReporter} :
    (name, reporter) ∈ rowsAt key rows ↔ (key, reporter) ∈ rows ∧ reporter.reporter = name := by
  rw [rowsAt, List.mem_map]
  constructor
  · rintro ⟨⟨key', reporter'⟩, hmem, heq⟩
    obtain ⟨hrow, hkey⟩ := List.mem_filter.1 hmem
    obtain ⟨rfl, rfl⟩ := Prod.mk.inj heq
    obtain rfl : key' = key := by simpa using hkey
    exact ⟨hrow, rfl⟩
  · rintro ⟨hrow, rfl⟩
    exact ⟨(key, reporter), List.mem_filter.2 ⟨hrow, by simp⟩, rfl⟩

theorem reportersAt_names (key : CensusKey) (rows : List (CensusKey × ReporterActivityReporter)) :
    (reportersAt key rows).map (·.reporter) =
      Timeline.sortedKeys ((rowsAt key rows).map (·.1)) := by
  rw [← firstValues_keys, reportersAt, List.map_map]
  apply List.map_congr_left
  intro entry hentry
  obtain ⟨name, reporter⟩ := entry
  exact (mem_rowsAt.1 (mem_of_mem_firstValues hentry)).2

/-- The names of the cycle are those of its rows. -/
theorem mem_reportersAt_names {name : String} :
    name ∈ (reportersAt key rows).map (·.reporter) ↔
      ∃ reporter, (key, reporter) ∈ rows ∧ reporter.reporter = name := by
  rw [reportersAt_names, mem_sortedKeys, List.mem_map]
  constructor
  · rintro ⟨⟨name', reporter⟩, hmem, rfl⟩
    exact ⟨reporter, mem_rowsAt.1 hmem⟩
  · rintro ⟨reporter, hmem⟩
    exact ⟨(name, reporter), mem_rowsAt.2 hmem, rfl⟩

end

end AntennaBench
