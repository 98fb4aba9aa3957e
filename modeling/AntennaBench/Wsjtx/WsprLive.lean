import AntennaBench.Wsjtx.Scalars
import AntennaBench.Core.Result
import AntennaBench.Core.OperatorEventsV3

/-!
# WSPR.live rows

The response of WSPR.live is a JSON document of spots. A row is classified
against the query it answers: the call sign of the session, the half-open window,
the selected bands and the confirmed cycles. The fingerprint of a spot is what a
later acquisition compares.
-/

namespace AntennaBench

/-- The code the adapter calls outside the repository: `serde_json`, `sha2`, and
the texts of `chrono`. -/
structure WsprLiveEnv where
  fromSlice : List UInt8 → Except String JsonValue
  fromStr : String → Option JsonValue
  jsonText : JsonValue → String
  /-- SHA-256 of the UTF-8 bytes, in lowercase hex. -/
  sha256Hex : String → String
  parseRfc3339 : String → Option DateTime
  /-- `NaiveDateTime::parse_from_str` with `%Y-%m-%d %H:%M:%S`. -/
  parseNaive : String → Option DateTime
  /-- `str::parse::<DateTime<Utc>>`. -/
  parseDateTime : String → Option DateTime
  /-- `DateTime<Utc>` as `serde` writes it. -/
  rfc3339 : DateTime → String
  /-- `f32::powf`. -/
  powf : IeeeFloat → IeeeFloat → IeeeFloat
  packageVersion : String

def wsprLiveAdapterId : String := "antennabench.wspr-live-json"
def wsprLiveProviderId : String := "wspr-live"
def wsprLiveSourceId : String := "wsprnet-spots-mirror"
def wsprLiveAcquisitionChannel : String := "file-import"
def wsprLiveHttpsAcquisitionChannel : String := "https-query"
def wsprLiveWspr2Code : ℤ := 1
def wsprLiveIngestionGraceSeconds : ℤ := 5 * 60
def wsprLiveMinRequestIntervalSeconds : ℤ := 10

def wsprLiveColumns : List String :=
  ["id", "time", "band", "rx_sign", "rx_loc", "tx_sign", "tx_loc", "distance", "azimuth",
    "rx_azimuth", "frequency", "power", "snr", "drift", "version", "code"]

structure WsprLiveImportLimits where
  sourceBytes : ℕ
  rows : ℕ
  rowBytes : ℕ

def wsprLiveImportLimits : WsprLiveImportLimits where
  sourceBytes := 32 * 1024 * 1024
  rows := 100000
  rowBytes := 64 * 1024

structure WsprLiveConfirmedCycle where
  slotId : String
  antennaLabel : String
  startsAt : DateTime
  transmissionEndsAt : DateTime
  band : Band
  direction : Option WsprCycleDirection
  deriving DecidableEq

structure WsprLiveImportConfig where
  sessionCallsign : String
  windowStart : DateTime
  windowEnd : DateTime
  selectedBands : List Band
  capturedAt : DateTime
  sourceLocator : Option String
  /-- `none` for historical schedules whose cycle direction was not durably known. -/
  confirmedCycles : Option (List WsprLiveConfirmedCycle)
  deriving DecidableEq

inductive WsprLiveRowDisposition where
  | accepted
  | malformed
  | filtered
  | unsupported
  deriving DecidableEq

inductive WsprLiveRowReason where
  | accepted
  | invalidValue
  | callsignFiltered
  | ambiguousCallsign
  | directionFiltered
  | timeFiltered
  | bandFiltered
  | unsupportedBand
  | unsupportedMode
  deriving DecidableEq

inductive WsprLiveSpotDirection where
  | receive
  | transmit
  deriving DecidableEq

def WsprLiveSpotDirection.cycleDirection : WsprLiveSpotDirection → WsprCycleDirection
  | .receive => .receive
  | .transmit => .transmit

def WsprLiveSpotDirection.text : WsprLiveSpotDirection → String
  | .receive => "receive"
  | .transmit => "transmit"

structure WsprLiveSpot where
  providerSpotId : ℕ
  observedAt : DateTime
  band : Band
  reporterCall : String
  reporterGrid : Option String
  transmitterCall : String
  transmitterGrid : Option String
  distanceKm : Option IeeeFloat
  azimuthDegrees : Option IeeeFloat
  receiverAzimuthDegrees : Option IeeeFloat
  frequencyHz : ℕ
  powerDbm : ℤ
  snrDb : IeeeFloat
  driftHzPerMinute : IeeeFloat
  receiverVersion : Option String
  modeCode : ℤ
  direction : WsprLiveSpotDirection

structure WsprLiveRowResult where
  rowNumber : ℕ
  providerSpotId : Option ℕ
  raw : JsonValue
  disposition : WsprLiveRowDisposition
  reason : WsprLiveRowReason
  spot : Option WsprLiveSpot

def bandFromWsprLive : ℤ → Option Band
  | 1 => some .m160
  | 3 => some .m80
  | 5 => some .m60
  | 7 => some .m40
  | 10 => some .m30
  | 14 => some .m20
  | 18 => some .m17
  | 21 => some .m15
  | 24 => some .m12
  | 28 => some .m10
  | 50 => some .m6
  | 144 => some .m2
  | _ => none

def bandToWsprLive : Band → ℤ
  | .m160 => 1
  | .m80 => 3
  | .m60 => 5
  | .m40 => 7
  | .m30 => 10
  | .m20 => 14
  | .m17 => 18
  | .m15 => 21
  | .m12 => 24
  | .m10 => 28
  | .m6 => 50
  | .m2 => 144

theorem bandToWsprLive_fromWsprLive {value : ℤ} {band : Band}
    (h : bandFromWsprLive value = some band) : bandToWsprLive band = value := by
  unfold bandFromWsprLive at h
  split at h <;> cases h <;> rfl

/-- WSPR.live names a slot by its even minute, one second before the transmission. -/
def wsprLiveQueryWindowStart (startsAt : DateTime) : DateTime :=
  if !isWsprCycleStart startsAt then startsAt
  else (DateTime.checkedAdd startsAt
    (-(wsprNominalStartOffsetSeconds * DateTime.nanosPerSecond))).getD startsAt

def matchingConfirmedCycle (cycles : List WsprLiveConfirmedCycle) (observedAt : DateTime)
    (band : Band) (expected : WsprCycleDirection) : Option WsprLiveConfirmedCycle :=
  cycles.find? fun cycle =>
    cycle.band == band && wsprLiveQueryWindowStart cycle.startsAt ≤ observedAt &&
      observedAt < cycle.transmissionEndsAt && cycle.direction == some expected

def matchingCycle (confirmedCycles : Option (List WsprLiveConfirmedCycle)) (spot : WsprLiveSpot) :
    Option WsprLiveConfirmedCycle :=
  confirmedCycles.bind fun cycles =>
    matchingConfirmedCycle cycles spot.observedAt spot.band spot.direction.cycleDirection

def optionalGrid : Option JsonValue → Option (Option String)
  | some .null => some none
  | some (.string value) =>
    if isBlank value then some none else (normalizeMaidenheadGrid (trim value)).map some
  | _ => none

def optionalNumber (value : Option JsonValue) (minimum maximum : ℚ) :
    Option (Option IeeeFloat) :=
  match value with
  | some .null => some none
  | some value =>
    ((jsonNumber value).filter fun value =>
      value.isFinite && (IeeeFloat.finite minimum).le value &&
        value.le (IeeeFloat.finite maximum)).map some
  | none => none

def optionalString : Option JsonValue → Option (Option String)
  | some .null => some none
  | some (.string value) =>
    if value.utf8ByteSize ≤ 256 then some (if value.isEmpty then none else some value) else none
  | _ => none

def inRange (minimum maximum : ℚ) (value : IeeeFloat) : Bool :=
  value.isFinite && (IeeeFloat.finite minimum).le value && value.le (IeeeFloat.finite maximum)

namespace WsprLiveEnv

variable (env : WsprLiveEnv)

def timestamp (value : JsonValue) : Option DateTime := do
  let text ← value.asStr?
  env.parseRfc3339 text <|> env.parseNaive text

/-- `provider_spot_id`, which a row keeps whatever becomes of it. -/
def rowSpotId (row : JsonValue) : Option ℕ :=
  (row.get? "id").bind jsonUnsigned

/-- The columns of a row that passes `required_valid`, unwrapped. -/
structure RowValues where
  providerSpotId : ℕ
  observedAt : DateTime
  bandNumber : ℤ
  reporterCall : String
  transmitterCall : String
  reporterGrid : Option String
  transmitterGrid : Option String
  distanceKm : Option IeeeFloat
  azimuthDegrees : Option IeeeFloat
  receiverAzimuthDegrees : Option IeeeFloat
  frequencyHz : ℕ
  powerDbm : ℤ
  snrDb : IeeeFloat
  drift : IeeeFloat
  receiverVersion : Option String
  modeCode : ℤ

/-- A row that is not an object has no columns, so it has no values either. -/
def rowValues (row : JsonValue) : Option RowValues := do
  let providerSpotId ← rowSpotId row
  let observedAt ← (row.get? "time").bind env.timestamp
  let bandNumber ← (row.get? "band").bind jsonInteger
  let reporterCall ← ((row.get? "rx_sign").bind (·.asStr?)).bind normalizeWsprReporterId
  let transmitterCall ← ((row.get? "tx_sign").bind (·.asStr?)).bind normalizeWsprCallsign
  let reporterGrid ← optionalGrid (row.get? "rx_loc")
  let transmitterGrid ← optionalGrid (row.get? "tx_loc")
  let distanceKm ← optionalNumber (row.get? "distance") 0 40100
  let azimuthDegrees ← optionalNumber (row.get? "azimuth") 0 360
  let receiverAzimuthDegrees ← optionalNumber (row.get? "rx_azimuth") 0 360
  let frequencyHz ← (row.get? "frequency").bind jsonUnsigned
  let powerDbm ← ((row.get? "power").bind jsonInteger).bind toI16?
  guard (-100 ≤ powerDbm ∧ powerDbm ≤ 100)
  let snrDb ← ((row.get? "snr").bind jsonNumber).map (·.toF32)
  guard (inRange (-100) 100 snrDb)
  let drift ← ((row.get? "drift").bind jsonNumber).map (·.toF32)
  guard (inRange (-1000) 1000 drift)
  let receiverVersion ← optionalString (row.get? "version")
  let modeCode ← ((row.get? "code").bind jsonInteger).bind toI16?
  return ⟨providerSpotId, observedAt, bandNumber, reporterCall, transmitterCall, reporterGrid,
    transmitterGrid, distanceKm, azimuthDegrees, receiverAzimuthDegrees, frequencyHz, powerDbm,
    snrDb, drift, receiverVersion, modeCode⟩

namespace RowValues

def direction (values : RowValues) (sessionCallsign : String) :
    Except WsprLiveRowReason WsprLiveSpotDirection :=
  match values.transmitterCall == sessionCallsign, values.reporterCall == sessionCallsign with
  | true, false => .ok .transmit
  | false, true => .ok .receive
  | true, true => .error .ambiguousCallsign
  | false, false => .error .callsignFiltered

def spot (values : RowValues) (band : Band) (direction : WsprLiveSpotDirection) :
    WsprLiveSpot where
  providerSpotId := values.providerSpotId
  observedAt := values.observedAt
  band := band
  reporterCall := values.reporterCall
  reporterGrid := values.reporterGrid
  transmitterCall := values.transmitterCall
  transmitterGrid := values.transmitterGrid
  distanceKm := values.distanceKm
  azimuthDegrees := values.azimuthDegrees
  receiverAzimuthDegrees := values.receiverAzimuthDegrees
  frequencyHz := values.frequencyHz
  powerDbm := values.powerDbm
  snrDb := values.snrDb
  driftHzPerMinute := values.drift
  receiverVersion := values.receiverVersion
  modeCode := values.modeCode
  direction := direction

/-- The columns a spot was read from. -/
def ofSpot (spot : WsprLiveSpot) : RowValues where
  providerSpotId := spot.providerSpotId
  observedAt := spot.observedAt
  bandNumber := bandToWsprLive spot.band
  reporterCall := spot.reporterCall
  transmitterCall := spot.transmitterCall
  reporterGrid := spot.reporterGrid
  transmitterGrid := spot.transmitterGrid
  distanceKm := spot.distanceKm
  azimuthDegrees := spot.azimuthDegrees
  receiverAzimuthDegrees := spot.receiverAzimuthDegrees
  frequencyHz := spot.frequencyHz
  powerDbm := spot.powerDbm
  snrDb := spot.snrDb
  drift := spot.driftHzPerMinute
  receiverVersion := spot.receiverVersion
  modeCode := spot.modeCode

theorem ofSpot_spot {values : RowValues} {band : Band} {direction : WsprLiveSpotDirection}
    (h : bandFromWsprLive values.bandNumber = some band) :
    ofSpot (values.spot band direction) = values := by
  simp only [ofSpot, spot, bandToWsprLive_fromWsprLive h]

end RowValues

/-- What `classify_row` decides about a row: the disposition, its reason, and the
spot of a row that only the direction of its cycle can still reject. -/
structure RowVerdict where
  disposition : WsprLiveRowDisposition
  reason : WsprLiveRowReason
  spot : Option WsprLiveSpot

def rowVerdict (row : JsonValue) (sessionCallsign : String) (windowStart windowEnd : DateTime)
    (selectedBands : List Band) (confirmedCycles : Option (List WsprLiveConfirmedCycle)) :
    RowVerdict :=
  match env.rowValues row with
  | none => ⟨.malformed, .invalidValue, none⟩
  | some values =>
    match bandFromWsprLive values.bandNumber with
    | none => ⟨.unsupported, .unsupportedBand, none⟩
    | some band =>
      if values.modeCode ≠ wsprLiveWspr2Code then ⟨.unsupported, .unsupportedMode, none⟩
      else
        match values.direction sessionCallsign with
        | .error reason => ⟨.filtered, reason, none⟩
        | .ok direction =>
          if values.observedAt < windowStart ∨ windowEnd ≤ values.observedAt then
            ⟨.filtered, .timeFiltered, none⟩
          else if !selectedBands.contains band then ⟨.filtered, .bandFiltered, none⟩
          else if bandFromFrequencyHz values.frequencyHz ≠ some band then
            ⟨.malformed, .invalidValue, none⟩
          else
            let spot := values.spot band direction
            if confirmedCycles.any fun cycles =>
                (matchingConfirmedCycle cycles values.observedAt band
                  direction.cycleDirection).isNone then
              ⟨.filtered, .directionFiltered, some spot⟩
            else ⟨.accepted, .accepted, some spot⟩

def classifyRow (rowNumber : ℕ) (raw : JsonValue) (sessionCallsign : String)
    (windowStart windowEnd : DateTime) (selectedBands : List Band)
    (confirmedCycles : Option (List WsprLiveConfirmedCycle)) : WsprLiveRowResult :=
  let verdict :=
    env.rowVerdict raw sessionCallsign windowStart windowEnd selectedBands confirmedCycles
  ⟨rowNumber, rowSpotId raw, raw, verdict.disposition, verdict.reason, verdict.spot⟩

/-- The members of a spot a fingerprint covers, with the instants as text. -/
def spotJson (rfc3339 : DateTime → String) (spot : WsprLiveSpot) : JsonValue :=
  let text (value : Option String) : JsonValue := value.elim .null .string
  let float (value : IeeeFloat) : JsonValue := .number (.float value)
  let integer (value : ℤ) : JsonValue :=
    .number (if 0 ≤ value then .posInt value.toNat else .negInt value)
  .object [
    ("azimuth_degrees", spot.azimuthDegrees.elim .null float),
    ("band", .string spot.band.jsonName),
    ("direction", .string spot.direction.text),
    ("distance_km", spot.distanceKm.elim .null float),
    ("drift_hz_per_minute", float spot.driftHzPerMinute),
    ("frequency_hz", .number (.posInt spot.frequencyHz)),
    ("mode_code", integer spot.modeCode),
    ("observed_at", .string (rfc3339 spot.observedAt)),
    ("power_dbm", integer spot.powerDbm),
    ("provider_spot_id", .number (.posInt spot.providerSpotId)),
    ("receiver_azimuth_degrees", spot.receiverAzimuthDegrees.elim .null float),
    ("receiver_version", text spot.receiverVersion),
    ("reporter_call", .string spot.reporterCall),
    ("reporter_grid", text spot.reporterGrid),
    ("snr_db", float spot.snrDb),
    ("transmitter_call", .string spot.transmitterCall),
    ("transmitter_grid", text spot.transmitterGrid)]

def spotFingerprint (spot : WsprLiveSpot) : String :=
  env.sha256Hex (env.jsonText (spotJson env.rfc3339 spot))

/-- `row_fingerprint` of a row without a spot. -/
def rowFingerprint (raw : JsonValue) : String :=
  env.sha256Hex (env.jsonText raw)

variable {env}

theorem rowValues_providerSpotId {row : JsonValue} {values : RowValues}
    (h : env.rowValues row = some values) : rowSpotId row = some values.providerSpotId := by
  obtain ⟨providerSpotId, hid, h⟩ := Option.bind_eq_some_iff.1 h
  rw [hid]
  iterate 18 obtain ⟨_, -, h⟩ := Option.bind_eq_some_iff.1 h
  cases h
  rfl

/-- A row in the scope of a query: every filter but the direction of its cycle passes. -/
structure Spotted (env : WsprLiveEnv) (row : JsonValue) (sessionCallsign : String)
    (windowStart windowEnd : DateTime) (selectedBands : List Band) (spot : WsprLiveSpot) :
    Prop where
  values : ∃ values, env.rowValues row = some values ∧
    values.direction sessionCallsign = .ok spot.direction ∧
    bandFromWsprLive values.bandNumber = some spot.band ∧
    spot = values.spot spot.band spot.direction
  mode : spot.modeCode = wsprLiveWspr2Code
  inWindow : windowStart ≤ spot.observedAt ∧ spot.observedAt < windowEnd
  selected : spot.band ∈ selectedBands
  frequency : bandFromFrequencyHz spot.frequencyHz = some spot.band

variable {row : JsonValue} {sessionCallsign : String} {windowStart windowEnd : DateTime}
  {selectedBands : List Band} {confirmedCycles : Option (List WsprLiveConfirmedCycle)}

theorem rowVerdict_spot {spot : WsprLiveSpot} :
    (env.rowVerdict row sessionCallsign windowStart windowEnd selectedBands
        confirmedCycles).spot = some spot ↔
      Spotted env row sessionCallsign windowStart windowEnd selectedBands spot := by
  constructor
  · intro h
    unfold rowVerdict at h
    cases hvalues : env.rowValues row with
    | none => simp [hvalues] at h
    | some values =>
      cases hband : bandFromWsprLive values.bandNumber with
      | none => simp [hvalues, hband] at h
      | some band =>
        by_cases hmode : values.modeCode = wsprLiveWspr2Code
        · cases hdirection : values.direction sessionCallsign with
          | error reason => simp [hvalues, hband, hmode, hdirection] at h
          | ok direction =>
            simp only [hvalues, hband, hmode, ne_eq, not_true_eq_false, if_false, hdirection] at h
            split_ifs at h with htime hselected hfrequency hcycle
            all_goals
              cases h
              have hmem : band ∈ selectedBands := by simpa using hselected
              have hnamed : bandFromFrequencyHz values.frequencyHz = some band := by
                simpa using hfrequency
              exact ⟨⟨values, hvalues, hdirection, hband, rfl⟩, hmode,
                (not_or.1 htime).imp not_lt.1 not_le.1, hmem, hnamed⟩
        · simp [hvalues, hband, hmode] at h
  · rintro ⟨⟨values, hvalues, hdirection, hband, hspot⟩, hmode, ⟨hstart, hend⟩, hselected,
      hfrequency⟩
    have hmode' : values.modeCode = wsprLiveWspr2Code := by
      rw [hspot] at hmode
      exact hmode
    have htime : ¬(values.observedAt < windowStart ∨ windowEnd ≤ values.observedAt) := by
      rw [hspot] at hstart hend
      exact not_or.2 ⟨not_lt.2 hstart, not_le.2 hend⟩
    have hfrequency' : bandFromFrequencyHz values.frequencyHz = some spot.band := by
      rw [hspot] at hfrequency
      exact hfrequency
    unfold rowVerdict
    simp only [hvalues, hband, hmode', ne_eq, not_true_eq_false, if_false, hdirection, htime,
      List.contains_iff_mem.2 hselected, Bool.not_true, Bool.false_eq_true, hfrequency']
    split_ifs <;> exact congrArg some hspot.symm

theorem rowVerdict_accepted_spot
    (h : (env.rowVerdict row sessionCallsign windowStart windowEnd selectedBands
      confirmedCycles).disposition = .accepted) :
    ∃ spot, (env.rowVerdict row sessionCallsign windowStart windowEnd selectedBands
      confirmedCycles).spot = some spot := by
  unfold rowVerdict at h ⊢
  cases hvalues : env.rowValues row with
  | none => simp [hvalues] at h
  | some values =>
    cases hband : bandFromWsprLive values.bandNumber with
    | none => simp [hvalues, hband] at h
    | some band =>
      cases hdirection : values.direction sessionCallsign with
      | error reason =>
        simp only [hvalues, hband, hdirection] at h
        split_ifs at h
      | ok direction =>
        simp only [hvalues, hband, hdirection] at h ⊢
        split_ifs at h ⊢
        exact ⟨_, rfl⟩

theorem Spotted.providerSpotId {spot : WsprLiveSpot}
    (h : Spotted env row sessionCallsign windowStart windowEnd selectedBands spot) :
    rowSpotId row = some spot.providerSpotId := by
  obtain ⟨⟨values, hvalues, -, -, hspot⟩, -⟩ := h
  rw [rowValues_providerSpotId hvalues, hspot]
  rfl

/-- In the scope of one query two rows give one spot exactly if their columns agree. -/
theorem Spotted.spot_eq_iff {other : JsonValue} {spot otherSpot : WsprLiveSpot}
    (h : Spotted env row sessionCallsign windowStart windowEnd selectedBands spot)
    (hother : Spotted env other sessionCallsign windowStart windowEnd selectedBands otherSpot) :
    spot = otherSpot ↔ env.rowValues row = env.rowValues other := by
  obtain ⟨⟨values, hvalues, hdirection, hband, hspot⟩, -⟩ := h
  obtain ⟨⟨values', hvalues', hdirection', hband', hspot'⟩, -⟩ := hother
  rw [hvalues, hvalues', Option.some_inj]
  constructor
  · intro heq
    calc values = .ofSpot spot := by rw [hspot, RowValues.ofSpot_spot hband]
      _ = .ofSpot otherSpot := by rw [heq]
      _ = values' := by rw [hspot', RowValues.ofSpot_spot hband']
  · intro heq
    subst heq
    rw [hdirection, Except.ok.injEq] at hdirection'
    rw [hband, Option.some_inj] at hband'
    rw [hspot, hspot', hdirection', hband']

end WsprLiveEnv

end AntennaBench
