import Mathlib.Data.List.DropRight
import AntennaBench.Core.Calendar
import AntennaBench.Wire.Lines
import AntennaBench.Wsjtx.WireFields
import AntennaBench.Wsjtx.WsprLiveImport

/-!
# The `ALL_WSPR.TXT` log

One line of the log as a decode or an issue, and the two ways to read a log: from a text
in memory, and from a reader that gives the bytes in pieces, under the limits of the
offline adapter.
-/

namespace AntennaBench

open Wire

structure AllWsprDecode where
  lineNumber : ℕ
  rawLine : String
  timestamp : DateTime
  snrDb : IeeeFloat
  dtSeconds : IeeeFloat
  frequencyHz : ℕ
  frequencyMhzText : String
  band : Band
  txCall : String
  txGrid : String
  txPowerDbm : ℤ
  txPowerWatts : IeeeFloat
  driftHzPerMinute : IeeeFloat
  extraFields : List String

inductive AllWsprLineIssueKind where
  | tooFewFields (actual : ℕ)
  | invalidDate (value : String)
  | invalidTime (value : String)
  | invalidSnr (value : String)
  | invalidDt (value : String)
  | invalidFrequency (value : String)
  | invalidCallsign (value : String)
  | invalidGrid (value : String)
  | unsupportedBand (frequencyHz : ℕ)
  | invalidPower (value : String)
  | invalidDrift (value : String)
  deriving DecidableEq

structure AllWsprLineIssue where
  lineNumber : ℕ
  rawLine : String
  kind : AllWsprLineIssueKind
  deriving DecidableEq

structure ParsedAllWsprText where
  decodes : List AllWsprDecode
  issues : List AllWsprLineIssue

/-- `str::split_whitespace`. -/
def splitWhitespace (line : String) : List String :=
  ((line.toList.splitOnP isWhitespace).filter (!·.isEmpty)).map String.ofList

def daysInMonth (year month : ℕ) : ℕ :=
  if month = 2 then
    if year % 4 = 0 ∧ (year % 100 ≠ 0 ∨ year % 400 = 0) then 29 else 28
  else if month = 4 ∨ month = 6 ∨ month = 9 ∨ month = 11 then 30
  else 31

/-- `NaiveDate::from_ymd_opt`, in days from 1970-01-01. -/
def fromYmdOpt (year month day : ℕ) : Option ℤ :=
  if 1 ≤ month ∧ month ≤ 12 ∧ 1 ≤ day ∧ day ≤ daysInMonth year month then
    some (daysFromCivil year month day)
  else none

def parseTimestamp (date time : String) : Except AllWsprLineIssueKind DateTime := do
  failIf (date.utf8ByteSize != 6 || !date.toList.all isAsciiDigit) (.invalidDate date)
  failIf (time.utf8ByteSize != 4 || !time.toList.all isAsciiDigit) (.invalidTime time)
  let pair := fun (text : String) (start : ℕ) => digitsValue ((text.toList.drop start).take 2)
  let days ← orError (fromYmdOpt (2000 + pair date 0) (pair date 2) (pair date 4))
    (.invalidDate date)
  let hour := pair time 0
  let minute := pair time 2
  failIf (24 ≤ hour || 60 ≤ minute) (.invalidTime time)
  return DateTime.seconds (days * 86400 + hour * 3600 + minute * 60)

def parseUnsignedF32 (negative : Bool) (text : List Char) : Option IeeeFloat :=
  let lower := text.map asciiLowerChar
  if lower == ['i', 'n', 'f'] || lower == ['i', 'n', 'f', 'i', 'n', 'i', 't', 'y'] then
    some (.infinite negative)
  else if lower == ['n', 'a', 'n'] then some .nan
  else (parseDecimal text).map fun value =>
    IeeeFormat.f32.round negative (if negative then -value else value)

/-- `parse_f32`: `str::parse::<f32>` of a finite number. -/
def parseFiniteF32 (text : String) : Option IeeeFloat :=
  let value := match text.toList with
    | '-' :: rest => parseUnsignedF32 true rest
    | '+' :: rest => parseUnsignedF32 false rest
    | rest => parseUnsignedF32 false rest
  value.filter (·.isFinite)

/-- `parse_f64`. -/
def parseFiniteF64 (text : String) : Option IeeeFloat :=
  (parseF64 text).filter (·.isFinite)

/-- `f64::round`, ties away from zero, and `as u64`. -/
def roundToU64 : IeeeFloat → ℕ
  | .finite value =>
    if value < 0 then 0 else min (⌊value + 1 / 2⌋).toNat (2 ^ 64 - 1)
  | .infinite negative => if negative then 0 else 2 ^ 64 - 1
  | .negativeZero | .nan => 0

section

variable (env : WsprLiveEnv)

/-- The fields of a line with enough of them. -/
def parseAllWsprFields (lineNumber : ℕ) (rawLine : String) (fields : List String) :
    Except AllWsprLineIssueKind AllWsprDecode := do
  let field := fun index => fields.getD index ""
  let timestamp ← parseTimestamp (field 0) (field 1)
  let snrDb ← orError (parseFiniteF32 (field 2)) (.invalidSnr (field 2))
  let dtSeconds ← orError (parseFiniteF32 (field 3)) (.invalidDt (field 3))
  let frequencyMhz ← orError (parseFiniteF64 (field 4)) (.invalidFrequency (field 4))
  let frequencyHz := roundToU64 (frequencyMhz.mul .f64 (.finite 1000000))
  let band ← orError (bandFromFrequencyHz frequencyHz) (.unsupportedBand frequencyHz)
  let txPowerDbm ← orError ((parseI64 (field 7)).bind toI16?) (.invalidPower (field 7))
  let driftHzPerMinute ← orError (parseFiniteF32 (field 8)) (.invalidDrift (field 8))
  let txCall ← orError (normalizeWsprCallsign (field 5)) (.invalidCallsign (field 5))
  let txGrid ← orError (normalizeMaidenheadGrid (field 6)) (.invalidGrid (field 6))
  return {
    lineNumber, rawLine, timestamp, snrDb, dtSeconds, frequencyHz, band, txCall, txGrid,
    txPowerDbm, driftHzPerMinute
    frequencyMhzText := field 4
    txPowerWatts := env.dbmToWatts txPowerDbm
    extraFields := fields.drop 9 }

def parseAllWsprLine (lineNumber : ℕ) (line : String) : Except AllWsprLineIssue AllWsprDecode :=
  let fields := splitWhitespace line
  let parsed :=
    if fields.length < 9 then .error (.tooFewFields fields.length)
    else parseAllWsprFields env lineNumber line fields
  parsed.mapError fun kind => ⟨lineNumber, line, kind⟩

end

namespace ParsedAllWsprText

def push (parsed : ParsedAllWsprText) :
    Except AllWsprLineIssue AllWsprDecode → ParsedAllWsprText
  | .ok decode => { parsed with decodes := parsed.decodes ++ [decode] }
  | .error issue => { parsed with issues := parsed.issues ++ [issue] }

end ParsedAllWsprText

/-- What `str::lines` takes off a line: the line feed, and a carriage return before it. -/
def stripTerminator (line : List Char) : List Char :=
  if line.getLast? = some '\n' then
    if line.dropLast.getLast? = some '\r' then line.dropLast.dropLast else line.dropLast
  else line

/-- `str::lines`. -/
def lines (input : String) : List String :=
  (splitInclusive '\n' input.toList).map fun line => String.ofList (stripTerminator line)

/-- The loop of `parse_all_wspr_text` over the lines that are left. -/
def parseAllWsprLines (env : WsprLiveEnv) :
    List String → ℕ → ParsedAllWsprText → ParsedAllWsprText
  | [], _, parsed => parsed
  | line :: rest, index, parsed =>
    if isBlank line then parseAllWsprLines env rest (index + 1) parsed
    else parseAllWsprLines env rest (index + 1)
      (parsed.push (parseAllWsprLine env (index + 1) line))

def parseAllWsprText (env : WsprLiveEnv) (input : String) : ParsedAllWsprText :=
  parseAllWsprLines env (lines input) 0 ⟨[], []⟩

/-- The limits of `WsjtxAdapterLimits` on offline logs. -/
structure OfflineLimits where
  offlineSourceBytes : ℕ
  offlineNonblankLines : ℕ
  offlineLineBytes : ℕ

def offlineLimits : OfflineLimits where
  offlineSourceBytes := 128 * 1024 * 1024
  offlineNonblankLines := 250000
  offlineLineBytes := 64 * 1024

structure IncompleteAllWsprText where
  retainedPrefix : List UInt8
  retainedBytes : ℕ
  failure : AdapterResourceDiagnostic

/-- The error of the reader. -/
structure AllWsprStreamError where
  io : String

inductive AllWsprStreamOutcome where
  | complete (parsed : ParsedAllWsprText)
  | quarantined (incomplete : IncompleteAllWsprText)

/-- A buffered reader: what it has read and not given yet, and what its next reads are.
An empty read is the end of the source. -/
structure BufReader where
  buffer : List UInt8
  reads : List (Except String (List UInt8))

namespace BufReader

/-- `fill_buf`: the reader with its buffer filled. -/
def fillBuf (reader : BufReader) : Except String BufReader :=
  if reader.buffer.isEmpty then
    match reader.reads with
    | [] => .ok reader
    | .error error :: _ => .error error
    | .ok chunk :: reads => .ok ⟨chunk, reads⟩
  else .ok reader

def consume (reader : BufReader) (amount : ℕ) : BufReader :=
  { reader with buffer := reader.buffer.drop amount }

/-- What the reader may still give, and its reads. -/
def pending (reader : BufReader) : ℕ :=
  reader.buffer.length +
    (reader.reads.map fun read => (read.toOption.getD []).length + 1).sum

theorem pending_fillBuf {reader filled : BufReader} (h : reader.fillBuf = .ok filled) :
    filled.pending ≤ reader.pending := by
  unfold fillBuf at h
  split_ifs at h with hempty
  · split at h
    · injection h with h
      exact h ▸ le_rfl
    · cases h
    · rename_i chunk reads hreads
      injection h with h
      subst h
      simp only [pending, hreads, List.map_cons, List.sum_cons, Except.toOption, Option.getD_some]
      omega
  · injection h with h
    exact h ▸ le_rfl

theorem pending_consume {reader : BufReader} {amount : ℕ} (hamount : 0 < amount)
    (hle : amount ≤ reader.buffer.length) : (reader.consume amount).pending < reader.pending := by
  simp only [consume, pending, List.length_drop]
  omega

end BufReader

/-- The maximal ill-formed part at the front, which `from_utf8_lossy` replaces at once. -/
def invalidUtf8Length : List UInt8 → ℕ
  | first :: second :: rest =>
    let continues := fun (byte : UInt8) => 0x80 ≤ byte && byte ≤ 0xBF
    let low : UInt8 := if first = 0xE0 then 0xA0 else if first = 0xF0 then 0x90 else 0x80
    let high : UInt8 := if first = 0xED then 0x9F else if first = 0xF4 then 0x8F else 0xBF
    if first < 0xE0 || 0xF4 < first || second < low || high < second then 1
    else if 0xF0 ≤ first && (rest.head?.any continues) then 3
    else 2
  | _ => 1

def lossyChars : ℕ → List UInt8 → List Char
  | 0, _ => []
  | _, [] => []
  | fuel + 1, bytes =>
    match ByteArray.utf8DecodeChar? ⟨bytes.toArray⟩ 0 with
    | some c => c :: lossyChars fuel (bytes.drop c.utf8Size)
    | none => '\uFFFD' :: lossyChars fuel (bytes.drop (invalidUtf8Length bytes))

/-- `String::from_utf8_lossy`. -/
def fromUtf8Lossy (bytes : List UInt8) : String :=
  (String.fromUTF8? ⟨bytes.toArray⟩).getD (String.ofList (lossyChars bytes.length bytes))

/-- `trim_end_matches(['\r', '\n'])`. -/
def trimLineEnds (line : List Char) : List Char :=
  line.rdropWhile fun c => c == '\r' || c == '\n'

/-- The text of a line as the reader has it. -/
def streamedText (line : List UInt8) : String :=
  String.ofList (trimLineEnds (fromUtf8Lossy line).toList)

/-- The variables of the loop of `parse_all_wspr_reader_with_limits`. -/
structure LogStream where
  retainedPrefix : List UInt8
  currentLine : List UInt8
  totalBytes : ℕ
  physicalLines : ℕ
  nonblankLines : ℕ
  parsed : ParsedAllWsprText

namespace LogStream

def start : LogStream := ⟨[], [], 0, 0, 0, ⟨[], []⟩⟩

def quarantined (stream : LogStream) (failure : AdapterResourceDiagnostic) :
    AllWsprStreamOutcome :=
  .quarantined ⟨stream.retainedPrefix, stream.retainedPrefix.length, failure⟩

/-- `diagnostic` with the arguments that the offline adapter always gives. -/
def diagnostic (code source : String) (limit observed : ℕ) (unit : AdapterResourceUnit) :
    AdapterResourceDiagnostic :=
  { code, source, limit, unit
    adapter := "wsjtx.offline"
    stage := .stream
    observed := some observed
    acquisitionGap := false }

variable (env : WsprLiveEnv) (source : String) (limits : OfflineLimits)

/-- The line that ended: its number is counted, and `process_streamed_line` parses it. -/
def processStreamedLine (stream : LogStream) : Except AdapterResourceDiagnostic LogStream :=
  let lineNumber := stream.physicalLines + 1
  let line := streamedText stream.currentLine
  if isBlank line then .ok { stream with physicalLines := lineNumber }
  else
    let nonblankLines := stream.nonblankLines + 1
    if limits.offlineNonblankLines < nonblankLines then
      .error (diagnostic "resource.adapter.offline_source_lines" source limits.offlineNonblankLines
        nonblankLines .lines)
    else .ok { stream with
      physicalLines := lineNumber
      nonblankLines
      parsed := stream.parsed.push (parseAllWsprLine env lineNumber line) }

/-- The checks on a piece of a line, and the piece kept. -/
def accept (stream : LogStream) (chunk : List UInt8) :
    Except AdapterResourceDiagnostic LogStream :=
  let observedTotal := min (stream.totalBytes + chunk.length) (2 ^ 64 - 1)
  let observedLine := stream.currentLine.length + chunk.length
  if limits.offlineSourceBytes < observedTotal then
    .error (diagnostic "resource.adapter.offline_source_bytes" source limits.offlineSourceBytes
      observedTotal .bytes)
  else if limits.offlineLineBytes < observedLine then
    .error (diagnostic "resource.adapter.offline_line_bytes" source limits.offlineLineBytes
      observedLine .bytes)
  else .ok { stream with
    retainedPrefix := stream.retainedPrefix ++ chunk
    currentLine := stream.currentLine ++ chunk
    totalBytes := observedTotal }

/-- The end of the source, which ends a line that has begun. -/
def finish (stream : LogStream) : AllWsprStreamOutcome :=
  if stream.currentLine.isEmpty then .complete stream.parsed
  else match stream.processStreamedLine env source limits with
    | .error failure => stream.quarantined failure
    | .ok ended => .complete ended.parsed

/-- The line feed that ends a piece ends the line. -/
def endLine (stream : LogStream) : Except AdapterResourceDiagnostic LogStream :=
  (stream.processStreamedLine env source limits).map fun ended => { ended with currentLine := [] }

end LogStream

/-- What the buffer has up to its first line feed, or all of it. -/
def lineChunk (available : List UInt8) : List UInt8 :=
  available.take (((available.findIdx? (· == 10)).map (· + 1)).getD available.length)

theorem lineChunk_length {available : List UInt8} (h : available ≠ []) :
    0 < (lineChunk available).length ∧ (lineChunk available).length ≤ available.length := by
  have hlength := List.length_pos_of_ne_nil h
  unfold lineChunk
  rw [List.length_take]
  cases available.findIdx? (· == 10) with
  | none =>
    simp only [Option.map_none, Option.getD_none]
    omega
  | some index =>
    simp only [Option.map_some, Option.getD_some]
    omega

theorem pending_lineChunk {reader filled : BufReader} (hfill : reader.fillBuf = .ok filled)
    (hend : filled.buffer ≠ []) :
    (filled.consume (lineChunk filled.buffer).length).pending < reader.pending := by
  obtain ⟨hpos, hle⟩ := lineChunk_length hend
  exact (BufReader.pending_consume hpos hle).trans_le (BufReader.pending_fillBuf hfill)

inductive LogStep where
  | returned (result : Except AllWsprStreamError AllWsprStreamOutcome)
  | more (reader : BufReader) (stream : LogStream)

/-- One turn of the loop of `parse_all_wspr_reader_with_limits`. -/
def LogStream.step (env : WsprLiveEnv) (source : String) (limits : OfflineLimits)
    (cancelled : Bool) (reader : BufReader) (stream : LogStream) : LogStep :=
  if cancelled then
    .returned (.ok (stream.quarantined (LogStream.diagnostic "resource.operation.cancelled" source
      0 stream.totalBytes .checkpoints)))
  else match reader.fillBuf with
    | .error error => .returned (.error ⟨error⟩)
    | .ok filled =>
      if filled.buffer = [] then .returned (.ok (stream.finish env source limits))
      else
        let chunk := lineChunk filled.buffer
        match stream.accept source limits chunk with
        | .error failure => .returned (.ok (stream.quarantined failure))
        | .ok accepted =>
          let rest := filled.consume chunk.length
          if chunk.getLast? = some 10 then
            match accepted.endLine env source limits with
            | .error failure => .returned (.ok (accepted.quarantined failure))
            | .ok ended => .more rest ended
          else .more rest accepted

theorem LogStream.step_pending {env : WsprLiveEnv} {source : String} {limits : OfflineLimits}
    {cancelled : Bool} {reader rest : BufReader} {stream next : LogStream}
    (h : stream.step env source limits cancelled reader = .more rest next) :
    rest.pending < reader.pending := by
  unfold LogStream.step at h
  split_ifs at h with hcancelled
  split at h
  · cases h
  · rename_i filled hfill
    split_ifs at h with hend
    have hless := pending_lineChunk hfill hend
    dsimp only at h
    split at h
    · cases h
    · split_ifs at h with hline
      · split at h
        · cases h
        · cases h
          exact hless
      · cases h
        exact hless

/-- The loop; `cancelled n` is what the `n`-th look at the token sees. -/
def readAllWspr (env : WsprLiveEnv) (source : String) (limits : OfflineLimits)
    (cancelled : ℕ → Bool) (look : ℕ) (reader : BufReader) (stream : LogStream) :
    Except AllWsprStreamError AllWsprStreamOutcome :=
  match hstep : stream.step env source limits (cancelled look) reader with
  | .returned result => result
  | .more rest next => readAllWspr env source limits cancelled (look + 1) rest next
termination_by reader.pending
decreasing_by exact LogStream.step_pending hstep

def parseAllWsprReader (env : WsprLiveEnv) (source : String) (limits : OfflineLimits)
    (cancelled : ℕ → Bool) (reads : List (Except String (List UInt8))) :
    Except AllWsprStreamError AllWsprStreamOutcome :=
  readAllWspr env source limits cancelled 0 ⟨[], reads⟩ .start

end AntennaBench
