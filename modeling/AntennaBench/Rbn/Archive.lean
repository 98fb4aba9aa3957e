import AntennaBench.Wsjtx.AllWspr
import AntennaBench.Core.ModelV3

/-!
# RBN archives

The CSV of a daily archive of the Reverse Beacon Network. A row is classified against the
call sign, the window and the bands of the session; exact duplicates of a row are marked, and
the first rows of the file are retained.
-/

namespace AntennaBench

/-- What the `csv` crate reads: the header and the records, each a list of fields. -/
structure CsvDocument where
  headers : Except String (List String)
  records : List (Except String (List String))

/-- The code the adapter calls outside the repository: the `csv`, `chrono`, `serde_json` and
`sha2` crates. -/
structure RbnEnv where
  readCsv : List UInt8 → CsvDocument
  /-- `NaiveDateTime::parse_from_str` with `%Y-%m-%d %H:%M:%S`. -/
  parseNaive : String → Option DateTime
  /-- `DateTime<Utc>` as `Display` writes it. -/
  displayTime : DateTime → String
  /-- `DateTime<Utc>` as `serde` writes it. -/
  rfc3339 : DateTime → String
  jsonText : JsonValue → String
  fromStr : String → Option JsonValue
  /-- SHA-256 of the UTF-8 bytes, in lowercase hex. -/
  sha256Hex : String → String
  packageVersion : String

def rbnArchiveColumns : List String :=
  ["callsign", "de_pfx", "de_cont", "freq", "band", "dx", "dx_pfx", "dx_cont", "mode", "db",
    "date", "speed", "tx_mode"]

structure RbnArchiveLimits where
  compressedBytes : ℕ
  uncompressedBytes : ℕ
  rows : ℕ
  rowBytes : ℕ
  retainedRows : ℕ

def rbnArchiveLimits : RbnArchiveLimits where
  compressedBytes := 128 * 1024 * 1024
  uncompressedBytes := 2 * 1024 * 1024 * 1024
  rows := 10000000
  rowBytes := 64 * 1024
  retainedRows := 100000

structure RbnImportConfig where
  heardCallsign : String
  windowStart : DateTime
  windowEnd : DateTime
  selectedBands : List Band
  deriving DecidableEq

inductive RbnRowDisposition where
  | accepted
  | malformed
  | filtered
  | unsupported
  | duplicate
  deriving DecidableEq

inductive RbnRowReason where
  | accepted
  | invalidValue
  | callsignFiltered
  | timeFiltered
  | bandFiltered
  | unsupportedBand
  | unsupportedMode
  | exactDuplicate
  deriving DecidableEq

/-- A finite `f32`: its value and whether it is the negative zero. -/
structure FiniteF32 where
  value : ℚ
  negativeZero : Bool
  deriving DecidableEq

def FiniteF32.toFloat (x : FiniteF32) : IeeeFloat :=
  if x.negativeZero then .negativeZero else .finite x.value

/-- `str::parse::<f32>` with the check `is_finite`. -/
def parseSnr (text : String) : Option FiniteF32 :=
  match parseFiniteF32 text with
  | some (.finite value) => some ⟨value, false⟩
  | some .negativeZero => some ⟨0, true⟩
  | _ => none

structure RbnSpot where
  reporterCall : String
  heardCall : String
  observedAt : DateTime
  frequencyHz : ℕ
  band : Band
  mode : SignalModeV3
  snrDb : FiniteF32
  keySpeedWpm : Option ℕ
  deriving DecidableEq

structure RbnRowResult where
  rowNumber : ℕ
  disposition : RbnRowDisposition
  reason : RbnRowReason
  rawFields : List String
  spot : Option RbnSpot
  deriving DecidableEq

structure RbnDispositionSummary where
  total : ℕ := 0
  accepted : ℕ := 0
  malformed : ℕ := 0
  filtered : ℕ := 0
  unsupported : ℕ := 0
  duplicate : ℕ := 0
  retained : ℕ := 0
  omitted : ℕ := 0
  deriving DecidableEq

structure ParsedRbnArchive where
  archiveMember : String
  rows : List RbnRowResult
  summary : RbnDispositionSummary

inductive RbnImportError where
  | config (message : String)
  | archive (message : String)
  | schema (message : String)
  | resource (message : String)
  | csv (message : String)
  deriving DecidableEq

def isCallByte (c : Char) : Bool :=
  isAsciiDigit c || ('a' ≤ c && c ≤ 'z') || ('A' ≤ c && c ≤ 'Z') || c == '/'

def RbnImportConfig.validate (config : RbnImportConfig) : Except RbnImportError Unit := do
  let callsign := trim config.heardCallsign
  failIf (callsign.isEmpty || 32 < callsign.utf8ByteSize || !callsign.toList.all isCallByte)
    (.config "heard_callsign must be a bounded ASCII callsign")
  failIf (decide (config.windowEnd ≤ config.windowStart))
    (.config "window_start must precede window_end")
  failIf config.selectedBands.isEmpty (.config "selected_bands must not be empty")

def normalizeCall (text : String) : String :=
  toAsciiUppercase (trim text)

def validCall (value : String) : Bool :=
  !value.isEmpty && value.utf8ByteSize ≤ 32 && value.toList.all fun c => isCallByte c || c == '-'

/-- `parse_khz`. -/
def parseKhz (value : String) : Option ℕ := do
  let whole := value.toList.takeWhile (· != '.')
  let fraction := (value.toList.dropWhile (· != '.')).drop 1
  guard (fraction.length ≤ 3 && fraction.all isAsciiDigit)
  let whole ← parseU64 (String.ofList whole)
  let fraction := digitsValue fraction * 10 ^ (3 - fraction.length)
  let thousand ← some (whole * 1000) |>.filter (· < 2 ^ 64)
  some (thousand + fraction) |>.filter fun value => value < 2 ^ 64 && 0 < value

def parseBand : String → Option Band
  | "160m" => some .m160
  | "80m" => some .m80
  | "60m" => some .m60
  | "40m" => some .m40
  | "30m" => some .m30
  | "20m" => some .m20
  | "17m" => some .m17
  | "15m" => some .m15
  | "12m" => some .m12
  | "10m" => some .m10
  | "6m" => some .m6
  | "2m" => some .m2
  | _ => none

def parseMode (text : String) : Option SignalModeV3 :=
  if toAsciiUppercase text = "CW" then some .cw
  else if toAsciiUppercase text = "RTTY" then some .rtty
  else none

/-- The key speed column: empty, or a positive `u16`. -/
def parseSpeed (text : String) : Option (Option ℕ) :=
  if text.isEmpty then some none
  else ((parseU64 text).filter fun speed => speed < 2 ^ 16 && 0 < speed).map some

section Classification

variable (env : RbnEnv)

abbrev RbnRowRefusal := RbnRowDisposition × RbnRowReason

def malformedRow : RbnRowRefusal := (.malformed, .invalidValue)

/-- The checks of `classify_row`, in order. -/
def rbnRowVerdict (heardCallsign : String) (windowStart windowEnd : DateTime)
    (selectedBands : List Band) (rawFields : List String) : Except RbnRowRefusal RbnSpot := do
  failIf (rawFields.length != rbnArchiveColumns.length) malformedRow
  let field := fun index => rawFields.getD index ""
  let reporterCall := normalizeCall (field 0)
  let heardCall := normalizeCall (field 5)
  failIf (!validCall reporterCall || !validCall heardCall) malformedRow
  failIf (heardCall != heardCallsign) (.filtered, .callsignFiltered)
  let observedAt ← orError (env.parseNaive (trim (field 10))) malformedRow
  failIf (decide (observedAt < windowStart ∨ windowEnd ≤ observedAt)) (.filtered, .timeFiltered)
  let band ← orError (parseBand (trim (field 4))) (.unsupported, .unsupportedBand)
  failIf (!selectedBands.contains band) (.filtered, .bandFiltered)
  let mode ← orError (parseMode (trim (field 12))) (.unsupported, .unsupportedMode)
  let frequencyHz ← orError (parseKhz (trim (field 3))) malformedRow
  let snrDb ← orError (parseSnr (trim (field 9))) malformedRow
  let keySpeedWpm ← orError (parseSpeed (trim (field 11))) malformedRow
  return { reporterCall, heardCall, observedAt, frequencyHz, band, mode, snrDb, keySpeedWpm }

def classifyRbnRow (heardCallsign : String) (windowStart windowEnd : DateTime)
    (selectedBands : List Band) (rowNumber : ℕ) (rawFields : List String) : RbnRowResult :=
  match rbnRowVerdict env heardCallsign windowStart windowEnd selectedBands rawFields with
  | .ok spot => ⟨rowNumber, .accepted, .accepted, rawFields, some spot⟩
  | .error (disposition, reason) => ⟨rowNumber, disposition, reason, rawFields, none⟩

end Classification

/-- What the text of the fingerprint of a row spells; it leaves the band out. -/
structure RbnRowFingerprint where
  reporterCall : String
  heardCall : String
  observedAt : DateTime
  frequencyHz : ℕ
  mode : SignalModeV3
  snrDb : FiniteF32
  keySpeedWpm : Option ℕ
  deriving DecidableEq

def RbnSpot.rowFingerprint (spot : RbnSpot) : RbnRowFingerprint :=
  ⟨spot.reporterCall, spot.heardCall, spot.observedAt, spot.frequencyHz, spot.mode, spot.snrDb,
    spot.keySpeedWpm⟩

def RbnDispositionSummary.count (summary : RbnDispositionSummary) :
    RbnRowDisposition → RbnDispositionSummary
  | .accepted => { summary with accepted := summary.accepted + 1 }
  | .malformed => { summary with malformed := summary.malformed + 1 }
  | .filtered => { summary with filtered := summary.filtered + 1 }
  | .unsupported => { summary with unsupported := summary.unsupported + 1 }
  | .duplicate => { summary with duplicate := summary.duplicate + 1 }

structure RbnParseState where
  fingerprints : List RbnRowFingerprint := []
  summary : RbnDispositionSummary := {}
  rows : List RbnRowResult := []

namespace RbnEnv

variable (env : RbnEnv)

def rowBytes (record : List String) : ℕ :=
  (record.map (·.utf8ByteSize)).sum + record.length

/-- A row after the set of fingerprints has seen it. -/
def markDuplicate (fingerprints : List RbnRowFingerprint) (result : RbnRowResult) :
    RbnRowResult :=
  if result.spot.any fun spot => fingerprints.contains spot.rowFingerprint then
    { result with disposition := .duplicate, reason := .exactDuplicate, spot := none }
  else result

/-- One turn of the row loop of `parse_rbn_csv_with_limits`. -/
def parseRecord (config : RbnImportConfig) (limits : RbnArchiveLimits) (state : RbnParseState)
    (record : Except String (List String)) : Except RbnImportError RbnParseState := do
  let total := state.summary.total + 1
  failIf (limits.rows < total) (.resource ("rows exceed " ++ toString limits.rows))
  let rawFields ← record.mapError .csv
  failIf (limits.rowBytes < rowBytes rawFields)
    (.resource ("row " ++ toString total ++ " bytes exceed " ++ toString limits.rowBytes))
  let result := classifyRbnRow env (normalizeCall config.heardCallsign) config.windowStart
    config.windowEnd config.selectedBands total rawFields
  let marked := markDuplicate state.fingerprints result
  let summary := { state.summary with total := total }.count marked.disposition
  let retained := decide (state.rows.length < limits.retainedRows)
  return {
    fingerprints := (result.spot.map (·.rowFingerprint)).toList ++ state.fingerprints
    summary := if retained then { summary with retained := summary.retained + 1 }
      else { summary with omitted := summary.omitted + 1 }
    rows := if retained then state.rows ++ [marked] else state.rows }

def parseRbnCsvWithLimits (input : List UInt8) (config : RbnImportConfig)
    (limits : RbnArchiveLimits) : Except RbnImportError ParsedRbnArchive := do
  config.validate
  let document := env.readCsv input
  let headers ← document.headers.mapError .csv
  failIf (headers != rbnArchiveColumns) (.schema ("expected " ++
    ",".intercalate rbnArchiveColumns ++ ", received " ++ ",".intercalate headers))
  let state ← document.records.foldlM (env.parseRecord config limits) {}
  return ⟨"", state.rows, state.summary⟩

end RbnEnv

end AntennaBench
