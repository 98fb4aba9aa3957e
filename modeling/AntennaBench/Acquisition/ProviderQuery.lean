import AntennaBench.Acquisition.Coalescing
import AntennaBench.Analysis.StratumKeys
import AntennaBench.Core.Calendar
import AntennaBench.Wsjtx.AllWsprAgreement

/-!
# The query and the rows it asks for

The SQL text of a query plan, the meaning of its conditions on the columns of a provider
row, and what of the rows that the importer would accept the query leaves out.
-/

namespace AntennaBench

/-- A row of `wspr.rx`, with the columns that the conditions name. -/
structure ProviderRow where
  txSign : String
  rxSign : String
  time : DateTime
  band : ℤ
  code : ℤ

inductive SqlCondition where
  | signIs (column : String) (sign : ProviderRow → String) (callsign : String)
  | timeFrom (start : CivilTime)
  | timeBefore (ended : CivilTime)
  | bandIn (bands : List ℤ)
  | codeIs (code : ℤ)
  | either (left right : SqlCondition)
  | both (left right : SqlCondition)

namespace SqlCondition

/-- The condition as SQL. -/
def text : SqlCondition → String
  | signIs column _ callsign => column ++ " = '" ++ callsign ++ "'"
  | timeFrom start => "time >= toDateTime('" ++ start.text ++ "', 'UTC')"
  | timeBefore ended => "time < toDateTime('" ++ ended.text ++ "', 'UTC')"
  | bandIn bands => "band IN (" ++ ", ".intercalate (bands.map toString) ++ ")"
  | codeIs code => "code = " ++ toString code
  | either left right => "(" ++ left.text ++ " OR " ++ right.text ++ ")"
  | both left right => left.text ++ " AND " ++ right.text

/-- Whether a row meets the condition. -/
def holds (row : ProviderRow) : SqlCondition → Bool
  | signIs _ sign callsign => sign row == callsign
  | timeFrom start => start.instant ≤ row.time
  | timeBefore ended => row.time < ended.instant
  | bandIn bands => bands.contains row.band
  | codeIs code => row.code == code
  | either left right => holds row left || holds row right
  | both left right => holds row left && holds row right

end SqlCondition

namespace WsprLiveQueryPlan

def whereClause (plan : WsprLiveQueryPlan) : SqlCondition :=
  .both
    (.either (.signIs "tx_sign" (·.txSign) plan.sessionCallsign)
      (.signIs "rx_sign" (·.rxSign) plan.sessionCallsign))
    (.both (.timeFrom (.ofInstant plan.windowStart))
      (.both (.timeBefore (.ofInstant plan.windowEnd))
        (.both (.bandIn plan.providerBands) (.codeIs wsprLiveWspr2Code))))

def sql (plan : WsprLiveQueryPlan) : String :=
  "SELECT " ++ ", ".intercalate wsprLiveColumns ++ " FROM wspr.rx WHERE " ++
    plan.whereClause.text ++ " ORDER BY time, id FORMAT JSON"

end WsprLiveQueryPlan

/-- The JSON row has what the row of the database has; the time of a row is whole seconds. -/
structure Provides (env : WsprLiveEnv) (row : ProviderRow) (raw : JsonValue) : Prop where
  txSign : raw.get? "tx_sign" = some (.string row.txSign)
  rxSign : raw.get? "rx_sign" = some (.string row.rxSign)
  time : (raw.get? "time").bind env.timestamp = some row.time
  wholeSecond : row.time % DateTime.nanosPerSecond = 0
  band : (raw.get? "band").bind jsonInteger = some row.band
  code : (raw.get? "code").bind jsonInteger = some row.code

/-- The sign of the station is written in capitals. -/
def ProviderRow.InCapitals (row : ProviderRow) (callsign : String) : Prop :=
  (toAsciiUppercase row.txSign = callsign → row.txSign = toAsciiUppercase row.txSign) ∧
    (toAsciiUppercase row.rxSign = callsign → row.rxSign = toAsciiUppercase row.rxSign)

/-- The row is in the second that the end of the window cuts. -/
def ProviderRow.InCutSecond (row : ProviderRow) (windowEnd : DateTime) : Prop :=
  windowEnd % DateTime.nanosPerSecond ≠ 0 ∧
    row.time = windowEnd / DateTime.nanosPerSecond * DateTime.nanosPerSecond

theorem normalizeWsprCallsign_eq {value callsign : String}
    (h : normalizeWsprCallsign value = some callsign) : callsign = toAsciiUppercase value := by
  unfold normalizeWsprCallsign at h
  dsimp only at h
  split_ifs at h
  exact (Option.some.inj h).symm

theorem normalizeWsprReporterId_eq {value reporterId : String}
    (h : normalizeWsprReporterId value = some reporterId) :
    reporterId = toAsciiUppercase value := by
  unfold normalizeWsprReporterId at h
  dsimp only at h
  split_ifs at h
  exact (Option.some.inj h).symm

variable {env : WsprLiveEnv}

theorem rowValues_columns {raw : JsonValue} {values : WsprLiveEnv.RowValues}
    (h : env.rowValues raw = some values) :
    (raw.get? "time").bind env.timestamp = some values.observedAt ∧
      (raw.get? "band").bind jsonInteger = some values.bandNumber ∧
      ((raw.get? "rx_sign").bind (·.asStr?)).bind normalizeWsprReporterId =
        some values.reporterCall ∧
      ((raw.get? "tx_sign").bind (·.asStr?)).bind normalizeWsprCallsign =
        some values.transmitterCall ∧
      ((raw.get? "code").bind jsonInteger).bind toI16? = some values.modeCode := by
  obtain ⟨_, _, h⟩ := Option.bind_eq_some_iff.1 h
  obtain ⟨_, htime, h⟩ := Option.bind_eq_some_iff.1 h
  obtain ⟨_, hband, h⟩ := Option.bind_eq_some_iff.1 h
  obtain ⟨_, hreporter, h⟩ := Option.bind_eq_some_iff.1 h
  obtain ⟨_, htransmitter, h⟩ := Option.bind_eq_some_iff.1 h
  iterate 13 obtain ⟨_, -, h⟩ := Option.bind_eq_some_iff.1 h
  obtain ⟨_, hcode, h⟩ := Option.bind_eq_some_iff.1 h
  cases h
  exact ⟨htime, hband, hreporter, htransmitter, hcode⟩

/-- A row that was accepted is a row of the scope, with one sign the station's. -/
theorem accepted_row {config : WsprLiveImportConfig} {row : ProviderRow} {raw : JsonValue}
    {rowNumber : ℕ} (hrow : Provides env row raw)
    (haccepted : (env.classifyRow rowNumber raw config.callsign config.windowStart
      config.windowEnd config.selectedBands config.confirmedCycles).disposition = .accepted) :
    (config.windowStart ≤ row.time ∧ row.time < config.windowEnd) ∧
      (∃ band ∈ config.selectedBands, bandToWsprLive band = row.band) ∧
      row.code = wsprLiveWspr2Code ∧
      ((toAsciiUppercase row.txSign = config.callsign ∧
          toAsciiUppercase row.rxSign ≠ config.callsign) ∨
        (toAsciiUppercase row.rxSign = config.callsign ∧
          toAsciiUppercase row.txSign ≠ config.callsign)) := by
  obtain ⟨spot, hspot⟩ := WsprLiveEnv.rowVerdict_accepted_spot haccepted
  obtain ⟨⟨values, hvalues, hdirection, hband, hsame⟩, hmode, hwindow, hselected, -⟩ :=
    WsprLiveEnv.rowVerdict_spot.mp hspot
  obtain ⟨htime, hbandNumber, hreporter, htransmitter, hcode⟩ := rowValues_columns hvalues
  rw [hrow.time, Option.some_inj] at htime
  rw [hrow.band, Option.some_inj] at hbandNumber
  rw [hrow.rxSign] at hreporter
  rw [hrow.txSign] at htransmitter
  have hreporterCall := normalizeWsprReporterId_eq hreporter
  have htransmitterCall := normalizeWsprCallsign_eq htransmitter
  have hmodeCode : row.code = values.modeCode := by
    rw [hrow.code] at hcode
    change toI16? row.code = _ at hcode
    unfold toI16? at hcode
    split_ifs at hcode
    exact Option.some.inj hcode
  rw [hsame] at hmode hwindow
  refine ⟨?_, ⟨spot.band, hselected, ?_⟩, hmodeCode.trans hmode, ?_⟩
  · rw [htime]
    exact hwindow
  · rw [hbandNumber]
    exact bandToWsprLive_fromWsprLive hband
  · rw [← hreporterCall, ← htransmitterCall]
    unfold WsprLiveEnv.RowValues.direction at hdirection
    split at hdirection
    · rename_i htx hrx
      exact Or.inl ⟨by simpa using htx, by simpa using hrx⟩
    · rename_i htx hrx
      exact Or.inr ⟨by simpa using hrx, by simpa using htx⟩
    · cases hdirection
    · cases hdirection

theorem planWsprLiveQuery_callsign {scope : WsprLiveQueryScope} {plan : WsprLiveQueryPlan}
    (h : planWsprLiveQuery scope = .ok plan) :
    plan.sessionCallsign = (normalizeWsprCallsign (trim scope.sessionCallsign)).getD "" := by
  obtain ⟨_, -, hplan⟩ := bind_eq_ok.mp h
  rw [← pure_eq_ok.mp hplan]

theorem lt_floor_iff {time ended : ℤ} (hwhole : time % 1000000000 = 0) (hbefore : time < ended) :
    time < ended / 1000000000 * 1000000000 ↔
      ¬(ended % 1000000000 ≠ 0 ∧ time = ended / 1000000000 * 1000000000) := by
  omega

/-- The query asks for the whole seconds before the end, so it asks for all but the second
that the end cuts. -/
theorem timeBefore_iff {row : ProviderRow} {windowEnd : DateTime}
    (hwhole : row.time % DateTime.nanosPerSecond = 0) (hbefore : row.time < windowEnd) :
    row.time < (CivilTime.ofInstant windowEnd).instant ↔ ¬row.InCutSecond windowEnd := by
  rw [CivilTime.instant_ofInstant]
  exact lt_floor_iff hwhole hbefore

theorem timeFrom_of_le {time windowStart : DateTime} (h : windowStart ≤ time) :
    (CivilTime.ofInstant windowStart).instant ≤ time := by
  rw [CivilTime.instant_ofInstant]
  unfold DateTime.nanosPerSecond
  have hfloor := Int.ediv_mul_le windowStart (show (1000000000 : ℤ) ≠ 0 by decide)
  exact hfloor.trans h

/-- The sign that is the station's in either spelling is the text of the query just where it
is in capitals. -/
theorem signs_iff {row : ProviderRow} {callsign : String}
    (h : (toAsciiUppercase row.txSign = callsign ∧ toAsciiUppercase row.rxSign ≠ callsign) ∨
      (toAsciiUppercase row.rxSign = callsign ∧ toAsciiUppercase row.txSign ≠ callsign)) :
    row.txSign = callsign ∨ row.rxSign = callsign ↔ row.InCapitals callsign := by
  unfold ProviderRow.InCapitals
  rcases h with ⟨htx, hrx⟩ | ⟨hrx, htx⟩
  · have hother : row.rxSign ≠ callsign := by
      rintro hsame
      apply hrx
      rw [hsame, ← htx, toAsciiUppercase_idem]
    rw [or_iff_left hother, htx]
    exact ⟨fun hsame => ⟨fun _ => hsame, fun h => absurd h hrx⟩, fun h => h.1 rfl⟩
  · have hother : row.txSign ≠ callsign := by
      rintro hsame
      apply htx
      rw [hsame, ← hrx, toAsciiUppercase_idem]
    rw [or_iff_right hother, hrx]
    exact ⟨fun hsame => ⟨fun h => absurd h htx, fun _ => hsame⟩, fun h => h.2 rfl⟩

/-- Of the rows that the importer accepts, the query asks for those with the station's sign
in capitals that are not in the second the end of the window cuts. -/
theorem accepted_queried_iff {config : WsprLiveImportConfig} {plan : WsprLiveQueryPlan}
    {row : ProviderRow} {raw : JsonValue} {rowNumber : ℕ}
    (hplan : planWsprLiveQuery config.scope = .ok plan) (hrow : Provides env row raw)
    (haccepted : (env.classifyRow rowNumber raw config.callsign config.windowStart
      config.windowEnd config.selectedBands config.confirmedCycles).disposition = .accepted) :
    plan.whereClause.holds row = true ↔
      row.InCapitals config.callsign ∧ ¬row.InCutSecond config.windowEnd := by
  obtain ⟨⟨hfrom, hbefore⟩, ⟨band, hselected, hband⟩, hcode, hsign⟩ :=
    accepted_row hrow haccepted
  obtain ⟨hstart, hend, hbands⟩ := planWsprLiveQuery_ok hplan
  have hprovider : row.band ∈ plan.providerBands := (hbands row.band).mpr ⟨band, hselected, hband⟩
  have hfromSecond : (CivilTime.ofInstant plan.windowStart).instant ≤ row.time := by
    rw [hstart, WsprLiveImportConfig.scope]
    exact timeFrom_of_le hfrom
  have hcallsign : plan.sessionCallsign = config.callsign := by
    rw [planWsprLiveQuery_callsign hplan, WsprLiveImportConfig.callsign,
      WsprLiveImportConfig.scope]
  have hwindowEnd : plan.windowEnd = config.windowEnd := by
    rw [hend, WsprLiveImportConfig.scope]
  rw [← signs_iff hsign, ← timeBefore_iff hrow.wholeSecond hbefore, ← hcallsign, ← hwindowEnd]
  simp only [WsprLiveQueryPlan.whereClause, SqlCondition.holds, Bool.and_eq_true, Bool.or_eq_true,
    beq_iff_eq, decide_eq_true_eq, List.contains_iff_mem, hprovider, hfromSecond, hcode,
    true_and, and_true]

namespace Scenario

/-- A library that reads the time of the row. -/
def rowEnv : WsprLiveEnv :=
  { listeningEnv with
    parseNaive := fun text => if text = "2026-05-01 12:01:00" then some (noon 60) else none }

/-- A minute after noon, heard on 40 m. -/
def heardRow (txSign : String) : ProviderRow := ⟨txSign, "N0XYZ", noon 60, 7, 1⟩

def heardJson (txSign : String) : JsonValue :=
  .object [
    ("id", .number (.posInt 1)), ("time", .string "2026-05-01 12:01:00"),
    ("band", .number (.posInt 7)), ("rx_sign", .string "N0XYZ"), ("rx_loc", .string "FN42"),
    ("tx_sign", .string txSign), ("tx_loc", .null), ("distance", .number (.posInt 100)),
    ("azimuth", .number (.posInt 90)), ("rx_azimuth", .number (.posInt 270)),
    ("frequency", .number (.posInt 7040100)), ("power", .number (.posInt 23)),
    ("snr", .number (.negInt (-5))), ("drift", .number (.posInt 0)),
    ("version", .string "2.6.1"), ("code", .number (.posInt 1))]

theorem heardJson_provides (txSign : String) :
    Provides rowEnv (heardRow txSign) (heardJson txSign) :=
  ⟨rfl, rfl, rfl, rfl, rfl, rfl⟩

/-- The minutes from noon, up to some nanoseconds after the row. -/
def minuteConfig (nanos : ℤ) : WsprLiveImportConfig where
  sessionCallsign := "K1ABC"
  windowStart := noon 0
  windowEnd := noon 60 + nanos
  selectedBands := [.m40]
  capturedAt := noon 600
  sourceLocator := none
  confirmedCycles := none

def minuteAccepts (nanos : ℤ) (txSign : String) : Bool :=
  (rowEnv.classifyRow 1 (heardJson txSign) (minuteConfig nanos).callsign
    (minuteConfig nanos).windowStart (minuteConfig nanos).windowEnd
    (minuteConfig nanos).selectedBands (minuteConfig nanos).confirmedCycles).disposition ==
      .accepted

/-- A window that ends half a second after the row leaves it out of the query, as does a
sign in small letters; the importer accepts both rows. -/
theorem cutSecond_leftOut : ∃ cut whole,
    planWsprLiveQuery (minuteConfig 500000000).scope = .ok cut ∧
      Provides rowEnv (heardRow "K1ABC") (heardJson "K1ABC") ∧
      minuteAccepts 500000000 "K1ABC" = true ∧
      cut.whereClause.holds (heardRow "K1ABC") = false ∧
    planWsprLiveQuery (minuteConfig 1000000000).scope = .ok whole ∧
      Provides rowEnv (heardRow "k1abc") (heardJson "k1abc") ∧
      minuteAccepts 1000000000 "k1abc" = true ∧
      whole.whereClause.holds (heardRow "k1abc") = false := by
  obtain ⟨cut, hcut, hleftOut⟩ := exists_ok_of_any (show
    (planWsprLiveQuery (minuteConfig 500000000).scope).toOption.any
      (fun plan => !plan.whereClause.holds (heardRow "K1ABC")) = true by decide)
  obtain ⟨whole, hwhole, hsmall⟩ := exists_ok_of_any (show
    (planWsprLiveQuery (minuteConfig 1000000000).scope).toOption.any
      (fun plan => !plan.whereClause.holds (heardRow "k1abc")) = true by decide)
  rw [Bool.not_eq_true'] at hleftOut hsmall
  exact ⟨cut, whole, hcut, heardJson_provides _, by decide +kernel, hleftOut, hwhole,
    heardJson_provides _, by decide +kernel, hsmall⟩

theorem wholeSecond_asked : ∃ plan,
    planWsprLiveQuery (minuteConfig 1000000000).scope = .ok plan ∧
      plan.whereClause.holds (heardRow "K1ABC") = true := by
  obtain ⟨plan, hplan, -⟩ := exists_ok_of_any (show
    (planWsprLiveQuery (minuteConfig 1000000000).scope).toOption.any (fun _ => true) = true by
      decide)
  have haccepted : minuteAccepts 1000000000 "K1ABC" = true := by decide +kernel
  refine ⟨plan, hplan, ?_⟩
  refine (accepted_queried_iff hplan (heardJson_provides "K1ABC")
    (eq_of_beq haccepted)).mpr ⟨⟨?_, ?_⟩, ?_⟩
  · exact fun _ => by decide
  · exact fun _ => by decide
  · exact fun h => h.1 (by decide)

end Scenario

end AntennaBench
