import Mathlib.Data.List.AList
import Mathlib.Data.Prod.Lex
import Mathlib.Data.String.Basic
import AntennaBench.Core.Current
import AntennaBench.Core.SignalPlan
import AntennaBench.Wsjtx.Protocol
import AntennaBench.Wsjtx.WsprLiveImport

/-!
# Live WSJT-X ingestion

The state a receiver keeps while datagrams arrive: a token bucket, the clients that were
heard and, for each of them, the last status and the digests of the decodes inside the
duplicate window. The first resource limit that is met stops the receiver for good.
-/

namespace AntennaBench

def schemaVersionV1 : ℕ := 1

def clientRestartTimeoutSeconds : ℤ := 45

structure LiveIngestConfig where
  sessionId : String
  receiverId : String
  stationCallsign : String
  stationGrid : String
  sessionStartedAt : DateTime

/-- The limits of `WsjtxAdapterLimits` on live UDP. -/
structure WsjtxAdapterLimits where
  udpDatagramBytes : ℕ
  udpRatePerSecond : ℕ
  udpRateBurst : ℕ
  udpClients : ℕ
  udpClientIdBytes : ℕ
  udpDedupEntriesPerClient : ℕ
  udpDedupWindowSeconds : ℤ
  udpIdleEvictionSeconds : ℤ

def wsjtxAdapterLimits : WsjtxAdapterLimits where
  udpDatagramBytes := 65535
  udpRatePerSecond := 64
  udpRateBurst := 512
  udpClients := 32
  udpClientIdBytes := 128
  udpDedupEntriesPerClient := 4096
  udpDedupWindowSeconds := 10 * 60
  udpIdleEvictionSeconds := 5 * 60

structure LiveAcquisitionGap where
  stoppedAt : DateTime
  diagnostic : AdapterResourceDiagnostic
  deriving DecidableEq

inductive LiveIngestError where
  | parse (error : DatagramParseError)
  | resource (diagnostic : AdapterResourceDiagnostic)
  deriving DecidableEq

structure LiveClientState where
  clientId : String
  generation : ℕ
  schema : ℕ
  maximumSchema : Option ℕ
  negotiatedSchema : Option ℕ
  version : Option String
  revision : Option String
  status : Option StatusMessage
  lastSeenAt : DateTime
  deriving DecidableEq

/-- What is kept of a client. A digest is kept with the time it was first seen at. -/
structure ClientRuntime where
  state : LiveClientState
  seenWsprDatagrams : List (List UInt8 × DateTime)
  deriving DecidableEq

structure TokenBucket where
  tokens : IeeeFloat
  lastRefill : DateTime

inductive WsprDecodeDisposition where
  | observationProduced
  | replay
  | offAir
  | duplicate
  | missingStatus
  | nonWsprMode
  | stationIdentityMismatch
  | unsupportedBand
  | invalidCallsign
  | invalidGrid
  | invalidPower
  deriving DecidableEq

def WsprDecodeDisposition.text : WsprDecodeDisposition → String
  | observationProduced => "observation_produced"
  | replay => "replay"
  | offAir => "off_air"
  | duplicate => "duplicate"
  | missingStatus => "missing_status"
  | nonWsprMode => "non_wspr_mode"
  | stationIdentityMismatch => "station_identity_mismatch"
  | unsupportedBand => "unsupported_band"
  | invalidCallsign => "invalid_callsign"
  | invalidGrid => "invalid_grid"
  | invalidPower => "invalid_power"

inductive LiveMessageDisposition where
  | heartbeat
  | status
  | close
  | wsprDecode (disposition : WsprDecodeDisposition)
  deriving DecidableEq

structure LiveRecordedMessage where
  wsjtxRecord : WsjtXRecord
  observation : Option ObservationRecord
  disposition : LiveMessageDisposition

inductive LiveIngestOutcome where
  | ignoredUnsupported (schema : ℕ) (message : UnsupportedMessage)
  | recorded (message : LiveRecordedMessage)

abbrev LiveClients := AList fun _ : String => ClientRuntime

structure LiveWsjtxIngest where
  config : LiveIngestConfig
  stationCallsign : String
  stationGrid : String
  nextSequence : ℕ
  clients : LiveClients
  limits : WsjtxAdapterLimits
  admission : TokenBucket
  gap : Option LiveAcquisitionGap

inductive LiveIngestConfigError where
  | emptySessionId
  | emptyReceiverId
  | invalidStationCallsign (value : String)
  | invalidStationGrid (value : String)
  deriving DecidableEq

def hexDigits : List Char :=
  ['0', '1', '2', '3', '4', '5', '6', '7', '8', '9', 'a', 'b', 'c', 'd', 'e', 'f']

def encodeHex (bytes : List UInt8) : String :=
  String.ofList (bytes.flatMap fun byte =>
    [hexDigits.getD (byte.toNat / 16) '0', hexDigits.getD (byte.toNat % 16) '0'])

/-- `{sequence:06}`. -/
def sixDigits (sequence : ℕ) : String :=
  let digits := (toString sequence).toList
  String.ofList (List.replicate (6 - digits.length) '0' ++ digits)

def liveRecordId (receiverId : String) (sequence : ℕ) : String :=
  receiverId ++ "-wsjtx-" ++ sixDigits sequence

def liveObservationId (receiverId : String) (sequence : ℕ) : String :=
  receiverId ++ "-obs-" ++ sixDigits sequence

namespace JsonValue

def ofNat (value : ℕ) : JsonValue := .number (.posInt value)

def ofInt (value : ℤ) : JsonValue :=
  .number (if 0 ≤ value then .posInt value.toNat else .negInt value)

end JsonValue

def heartbeatRaw (message : HeartbeatMessage) : JsonValue :=
  .object [
    ("maximum_schema", .ofNat message.maximumSchema),
    ("revision", .string message.revision),
    ("version", .string message.version)]

def statusRaw (message : StatusMessage) : JsonValue :=
  .object [
    ("de_call", .string message.deCall),
    ("de_grid", .string message.deGrid),
    ("decoding", .bool message.decoding),
    ("dial_frequency_hz", .ofNat message.dialFrequencyHz),
    ("dx_call", .string message.dxCall),
    ("mode", .string message.mode),
    ("report", .string message.report),
    ("rx_df_hz", .ofNat message.rxDfHz),
    ("transmitting", .bool message.transmitting),
    ("tx_df_hz", .ofNat message.txDfHz),
    ("tx_enabled", .bool message.txEnabled),
    ("tx_mode", .string message.txMode)]

def nanosPerDay : ℤ := 86400 * DateTime.nanosPerSecond

/-- The instants of a time of day on the day of the receipt and on the two next to it. -/
def candidateTimes (timeMillis : ℕ) (receivedAt : DateTime) : List DateTime :=
  let day := receivedAt / nanosPerDay
  (([day - 1, day, day + 1].map (· * nanosPerDay)).filter fun midnight =>
    DateTime.minUtc ≤ midnight && midnight ≤ DateTime.maxUtc).map
      (· + (timeMillis : ℤ) * DateTime.nanosPerMilli)

/-- The candidate nearest to the receipt, in whole milliseconds; ties go to one inside the
session and then to the earlier one. -/
def reconstructTimestamp (timeMillis : ℕ) (receivedAt sessionStartedAt : DateTime) : DateTime :=
  let keys : List (ℕ ×ₗ Bool ×ₗ DateTime) :=
    (candidateTimes timeMillis receivedAt).map fun candidate =>
      toLex (((candidate - receivedAt).tdiv DateTime.nanosPerMilli).natAbs,
        toLex (decide (candidate < sessionStartedAt), candidate))
  (keys.min?.map fun key => (ofLex (ofLex key).2).2).getD receivedAt

def ClientRuntime.new (clientId : String) (schema : ℕ) (receivedAt : DateTime) : ClientRuntime :=
  ⟨⟨clientId, 1, schema, none, none, none, none, none, receivedAt⟩, []⟩

/-- The client is heard again; after the timeout it counts as restarted. -/
def ClientRuntime.touch (client : ClientRuntime) (schema : ℕ) (receivedAt : DateTime) :
    ClientRuntime :=
  let client :=
    if .seconds clientRestartTimeoutSeconds < receivedAt - client.state.lastSeenAt then
      { state := { client.state with
          generation := client.state.generation + 1
          maximumSchema := none
          negotiatedSchema := none
          version := none
          revision := none
          status := none }
        seenWsprDatagrams := [] }
    else client
  { client with state := { client.state with schema, lastSeenAt := receivedAt } }

def ClientRuntime.heartbeat (client : ClientRuntime) (message : HeartbeatMessage) (schema : ℕ)
    (receivedAt : DateTime) : ClientRuntime :=
  { client with state := { client.state with
    schema
    maximumSchema := some message.maximumSchema
    negotiatedSchema := some (min message.maximumSchema maxSupportedSchema)
    version := some message.version
    revision := some message.revision
    lastSeenAt := receivedAt } }

def ClientRuntime.status (client : ClientRuntime) (message : StatusMessage) (schema : ℕ)
    (receivedAt : DateTime) : ClientRuntime :=
  { client with state := { client.state with
    schema
    status := some message
    lastSeenAt := receivedAt } }

/-- The client that was idle the longest among those idle long enough. -/
def evictionCandidate (clients : LiveClients) (cutoff : DateTime) : Option String :=
  let idle := (clients.entries.filter (·.2.state.lastSeenAt ≤ cutoff)).map fun entry =>
    (toLex (entry.2.state.lastSeenAt, entry.1) : DateTime ×ₗ String)
  idle.min?.map fun key => (ofLex key).2

/-- The client as a datagram finds it. -/
def touched (clients : LiveClients) (clientId : String) (schema : ℕ) (receivedAt : DateTime) :
    ClientRuntime :=
  match clients.lookup clientId with
  | some client => client.touch schema receivedAt
  | none => .new clientId schema receivedAt

/-- `touch_client`: `none` when there is no room for a new client. -/
def touchClient (limits : WsjtxAdapterLimits) (clients : LiveClients) (clientId : String)
    (schema : ℕ) (receivedAt : DateTime) : Option LiveClients :=
  let room :=
    if clientId ∉ clients ∧ limits.udpClients ≤ clients.entries.length then
      (evictionCandidate clients (receivedAt - .seconds limits.udpIdleEvictionSeconds)).map
        clients.erase
    else some clients
  room.map fun clients =>
    clients.insert clientId (touched clients clientId schema receivedAt)

/-- The digests of the decodes still inside the duplicate window. -/
def ClientRuntime.window (client : ClientRuntime) (limits : WsjtxAdapterLimits)
    (receivedAt : DateTime) : List (List UInt8 × DateTime) :=
  client.seenWsprDatagrams.dropWhile fun entry =>
    entry.2 < receivedAt - .seconds limits.udpDedupWindowSeconds

/-- The digests a client keeps after a decode was looked up among them. -/
def ClientRuntime.remember (client : ClientRuntime) (limits : WsjtxAdapterLimits)
    (fingerprint : List UInt8) (receivedAt : DateTime) : ClientRuntime :=
  let window := client.window limits receivedAt
  { client with seenWsprDatagrams :=
      if window.any (·.1 == fingerprint) then window
      else window ++ [(fingerprint, receivedAt)] }

namespace TokenBucket

def f64OfNat (value : ℕ) : IeeeFloat := IeeeFormat.f64.round false value

/-- `num_microseconds().unwrap_or_default().max(0)`. -/
def elapsedMicros (since receivedAt : DateTime) : ℕ :=
  let micros := (receivedAt - since).tdiv 1000
  if -2 ^ 63 ≤ micros ∧ micros < 2 ^ 63 then micros.toNat else 0

def refill (bucket : TokenBucket) (limits : WsjtxAdapterLimits) (receivedAt : DateTime) :
    TokenBucket :=
  let elapsed := (f64OfNat (elapsedMicros bucket.lastRefill receivedAt)).div .f64
    (.finite 1000000)
  let tokens := bucket.tokens.add .f64 (elapsed.mul .f64 (f64OfNat limits.udpRatePerSecond))
  let burst := f64OfNat limits.udpRateBurst
  { tokens := if burst.totalKey < tokens.totalKey then burst else tokens
    lastRefill := max bucket.lastRefill receivedAt }

end TokenBucket

namespace LiveWsjtxIngest

def newWithLimits (config : LiveIngestConfig) (limits : WsjtxAdapterLimits) :
    Except LiveIngestConfigError LiveWsjtxIngest := do
  failIf (trim config.sessionId).isEmpty .emptySessionId
  failIf (trim config.receiverId).isEmpty .emptyReceiverId
  let stationCallsign ← orError (normalizeWsprCallsign config.stationCallsign)
    (.invalidStationCallsign config.stationCallsign)
  let stationGrid ← orError (normalizeMaidenheadGrid config.stationGrid)
    (.invalidStationGrid config.stationGrid)
  return {
    config, stationCallsign, stationGrid, limits
    nextSequence := 1
    clients := ∅
    admission := ⟨TokenBucket.f64OfNat limits.udpRateBurst, config.sessionStartedAt⟩
    gap := none }

/-- `stop`: the error of a limit, with the receiver stopped by it. -/
def stop (ingest : LiveWsjtxIngest) (code : String) (limit observed : ℕ)
    (unit : AdapterResourceUnit) (stoppedAt : DateTime) : LiveIngestError × LiveWsjtxIngest :=
  let diagnostic : AdapterResourceDiagnostic := {
    code, limit, unit
    adapter := "wsjtx.live_udp"
    source := ingest.config.receiverId
    stage := .admission
    observed := some observed
    acquisitionGap := true }
  (.resource diagnostic,
    { ingest with gap := some (ingest.gap.getD ⟨stoppedAt, diagnostic⟩) })

/-- The checks on a datagram before a client is touched. -/
def admitDatagram (ingest : LiveWsjtxIngest) (datagram : List UInt8) (receivedAt : DateTime) :
    Except (LiveIngestError × LiveWsjtxIngest) (ParsedDatagram × LiveWsjtxIngest) :=
  match ingest.gap with
  | some gap => .error (.resource gap.diagnostic, ingest)
  | none =>
    let limits := ingest.limits
    if limits.udpDatagramBytes < datagram.length then
      .error (ingest.stop "resource.adapter.udp.datagram_bytes" limits.udpDatagramBytes
        datagram.length .bytes receivedAt)
    else
      let bucket := ingest.admission.refill limits receivedAt
      let ingest := { ingest with admission := bucket }
      if bucket.tokens.totalKey < (IeeeFloat.finite 1).totalKey then
        .error (ingest.stop "resource.adapter.udp.rate" limits.udpRateBurst
          (limits.udpRateBurst + 1) .datagrams receivedAt)
      else
        let ingest := { ingest with
          admission := { bucket with tokens := bucket.tokens.sub .f64 (.finite 1) } }
        match parseWsjtxDatagram datagram with
        | .error error => .error (.parse error, ingest)
        | .ok parsed =>
          let idBytes := parsed.message.clientId.utf8ByteSize
          if limits.udpClientIdBytes < idBytes then
            .error (ingest.stop "resource.adapter.udp.client_id_bytes" limits.udpClientIdBytes
              idBytes .bytes receivedAt)
          else .ok (parsed, ingest)

section

variable (env : WsprLiveEnv)

def wsprDecodeRaw (message : WsprDecodeMessage) (receivedAt : DateTime)
    (disposition : WsprDecodeDisposition) : JsonValue :=
  .object [
    ("callsign", .string message.callsign),
    ("delta_time_seconds", .number (.float message.deltaTimeSeconds)),
    ("drift_hz_per_minute", .ofInt message.driftHzPerMinute),
    ("frequency_hz", .ofNat message.frequencyHz),
    ("grid", .string message.grid),
    ("new", .bool message.isNew),
    ("observation_disposition", .string disposition.text),
    ("off_air", .bool message.offAir),
    ("power_dbm", .ofInt message.powerDbm),
    ("received_at", .string (env.rfc3339 receivedAt)),
    ("snr_db", .ofInt message.snrDb),
    ("time_millis", .ofNat message.timeMillis)]

/-- The fields of a decode that an observation needs, once they are known to be good. -/
structure CreditedFields where
  band : Band
  callsign : String
  grid : String
  powerDbm : ℤ

/-- The checks on the status of the client and on the fields of the decode. -/
def credit (ingest : LiveWsjtxIngest) (status : Option StatusMessage)
    (message : WsprDecodeMessage) : Except WsprDecodeDisposition CreditedFields := do
  let status ← orError status .missingStatus
  failIf (!eqIgnoreAsciiCase status.mode "WSPR") .nonWsprMode
  failIf (!eqIgnoreAsciiCase status.deCall ingest.stationCallsign ||
    !eqIgnoreAsciiCase status.deGrid ingest.stationGrid) .stationIdentityMismatch
  let band ← orError (bandFromFrequencyHz message.frequencyHz) .unsupportedBand
  let callsign ← orError (normalizeWsprCallsign message.callsign) .invalidCallsign
  let grid ← orError (normalizeMaidenheadGrid message.grid) .invalidGrid
  let powerDbm ← orError (toI16? message.powerDbm) .invalidPower
  return { band, callsign, grid, powerDbm }

def decodeObservation (ingest : LiveWsjtxIngest) (message : WsprDecodeMessage)
    (fields : CreditedFields) (datagram : List UInt8) (sourceTimestamp receivedAt : DateTime)
    (sequence : ℕ) : ObservationRecord where
  recordMeta := ⟨schemaVersionV1, ingest.config.sessionId, sourceTimestamp, .wsjtxUdp⟩
  observationId := liveObservationId ingest.config.receiverId sequence
  observationKind := .localDecode
  band := fields.band
  frequencyHz := some message.frequencyHz
  mode := some "WSPR"
  reporterCall := some ingest.stationCallsign
  heardCall := some fields.callsign
  reporterGrid := some ingest.stationGrid
  heardGrid := some fields.grid
  distanceKm := none
  azimuthDegrees := none
  snrDb := some (IeeeFormat.f32.round (decide (message.snrDb < 0)) message.snrDb)
  driftHzPerMinute :=
    some (IeeeFormat.f32.round (decide (message.driftHzPerMinute < 0)) message.driftHzPerMinute)
  powerWatts := some (env.dbmToWatts fields.powerDbm)
  slotId := none
  slotLabel := none
  slotConfidence := none
  raw := .object [
    ("client_id", .string message.clientId),
    ("datagram_hex", .string (encodeHex datagram)),
    ("delta_time_seconds", .number (.float message.deltaTimeSeconds)),
    ("new", .bool message.isNew),
    ("off_air", .bool message.offAir),
    ("power_dbm", .ofInt message.powerDbm),
    ("received_at", .string (env.rfc3339 receivedAt)),
    ("source_time_millis", .ofNat message.timeMillis)]

def recordedMessage (ingest : LiveWsjtxIngest) (sequence : ℕ) (timestamp : DateTime)
    (datagram : List UInt8) (parsed : ParsedDatagram) (fields : JsonValue) (messageType : String)
    (disposition : LiveMessageDisposition) (observation : Option ObservationRecord) :
    LiveRecordedMessage where
  wsjtxRecord := {
    recordMeta := ⟨schemaVersionV1, ingest.config.sessionId, timestamp, .wsjtxUdp⟩
    recordId := liveRecordId ingest.config.receiverId sequence
    messageType
    raw := .object [
      ("client_id", .string parsed.message.clientId),
      ("datagram_hex", .string (encodeHex datagram)),
      ("fields", fields),
      ("message_type_id", .ofNat parsed.message.messageType),
      ("schema", .ofNat parsed.schema),
      ("trailing_bytes", .ofNat parsed.trailingBytes)] }
  observation
  disposition

def withClient (ingest : LiveWsjtxIngest) (clientId : String) (client : ClientRuntime) :
    LiveWsjtxIngest :=
  { ingest with clients := ingest.clients.insert clientId client }

/-- The receiver after it gave a sequence number away. -/
def numbered (ingest : LiveWsjtxIngest) : LiveWsjtxIngest :=
  { ingest with nextSequence := ingest.nextSequence + 1 }

/-- What becomes of a decode that is or is not a duplicate. -/
def judgeDecode (ingest : LiveWsjtxIngest) (duplicate : Bool) (status : Option StatusMessage)
    (message : WsprDecodeMessage) : Except WsprDecodeDisposition CreditedFields := do
  failIf (!message.isNew) .replay
  failIf message.offAir .offAir
  failIf duplicate .duplicate
  ingest.credit status message

variable (sha256 : List UInt8 → List UInt8)

/-- `process_wspr_decode`. The digest is remembered before the decode is judged. -/
def processWsprDecode (ingest : LiveWsjtxIngest) (client : ClientRuntime)
    (message : WsprDecodeMessage) (datagram : List UInt8)
    (sourceTimestamp receivedAt : DateTime) (sequence : ℕ) :
    Except (LiveIngestError × LiveWsjtxIngest)
      ((Option ObservationRecord × WsprDecodeDisposition) × LiveWsjtxIngest) :=
  let fingerprint := sha256 datagram
  let window := client.window ingest.limits receivedAt
  let duplicate := window.any (·.1 == fingerprint)
  if !duplicate && ingest.limits.udpDedupEntriesPerClient ≤ window.length then
    let pruned := { client with seenWsprDatagrams := window }
    .error ((ingest.withClient message.clientId pruned).stop
      "resource.adapter.udp.dedup_entries" ingest.limits.udpDedupEntriesPerClient
      (window.length + 1) .entries receivedAt)
  else
    let next := ingest.withClient message.clientId
      (client.remember ingest.limits fingerprint receivedAt)
    match ingest.judgeDecode duplicate client.state.status message with
    | .error disposition => .ok ((none, disposition), next)
    | .ok fields =>
      let observation := ingest.decodeObservation env message fields datagram sourceTimestamp
        receivedAt sequence
      .ok ((some observation, .observationProduced), next)

/-- The message of a client that was touched, under the next sequence number. -/
def record (ingest : LiveWsjtxIngest) (client : ClientRuntime) (parsed : ParsedDatagram)
    (datagram : List UInt8) (receivedAt : DateTime) :
    Except LiveIngestError LiveIngestOutcome × LiveWsjtxIngest :=
  let sequence := ingest.nextSequence
  let ingest := ingest.numbered
  match parsed.message with
  | .heartbeat message =>
    let next := ingest.withClient message.clientId
      (client.heartbeat message parsed.schema receivedAt)
    (.ok (.recorded (next.recordedMessage sequence receivedAt datagram parsed
      (heartbeatRaw message) "udp_heartbeat" .heartbeat none)), next)
  | .status message =>
    let next := ingest.withClient message.clientId
      (client.status message parsed.schema receivedAt)
    (.ok (.recorded (next.recordedMessage sequence receivedAt datagram parsed
      (statusRaw message) "udp_status" .status none)), next)
  | .wsprDecode message =>
    let sourceTimestamp := reconstructTimestamp message.timeMillis receivedAt
      ingest.config.sessionStartedAt
    match ingest.processWsprDecode env sha256 client message datagram sourceTimestamp receivedAt
        sequence with
    | .error (error, next) => (.error error, next)
    | .ok ((observation, disposition), next) =>
      (.ok (.recorded (next.recordedMessage sequence sourceTimestamp datagram parsed
        (wsprDecodeRaw env message receivedAt disposition) "udp_wspr_decode"
        (.wsprDecode disposition) observation)), next)
  | .close message =>
    (.ok (.recorded (ingest.recordedMessage sequence receivedAt datagram parsed
      (.object []) "udp_close" .close none)),
      { ingest with clients := ingest.clients.erase message.clientId })
  | .unsupported message => (.ok (.ignoredUnsupported parsed.schema message), ingest)

def ingestDatagram (ingest : LiveWsjtxIngest) (datagram : List UInt8) (receivedAt : DateTime) :
    Except LiveIngestError LiveIngestOutcome × LiveWsjtxIngest :=
  match ingest.admitDatagram datagram receivedAt with
  | .error (error, next) => (.error error, next)
  | .ok (parsed, ingest) =>
    match parsed.message.unsupported? with
    | some message => (.ok (.ignoredUnsupported parsed.schema message), ingest)
    | none =>
      let clientId := parsed.message.clientId
      match touchClient ingest.limits ingest.clients clientId parsed.schema receivedAt with
      | none =>
        let (error, next) := ingest.stop "resource.adapter.udp.clients" ingest.limits.udpClients
          (ingest.clients.entries.length + 1) .clients receivedAt
        (.error error, next)
      | some clients =>
        let client := touched ingest.clients clientId parsed.schema receivedAt
        { ingest with clients }.record env sha256 client parsed datagram receivedAt

end

end LiveWsjtxIngest

end AntennaBench
