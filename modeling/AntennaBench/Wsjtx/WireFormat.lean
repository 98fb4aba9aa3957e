import AntennaBench.Wsjtx.WireFields

/-!
# The wire format of the network messages

The fields of each message in the order of the wire, and that the parser is exactly this
format: it takes every message back from its fields, whatever follows them, refuses what
is cut short as truncated, and takes nothing but fields of a message.
-/

namespace AntennaBench

open Wire Cursor

def WireField.text (value : String) : WireField := .utf8 (some value)

def HeartbeatMessage.fields (schema : ℕ) (message : HeartbeatMessage) : List WireField :=
  (if 3 ≤ schema then [.u32 message.maximumSchema] else []) ++
    [.text message.version, .text message.revision]

def StatusMessage.fields (message : StatusMessage) : List WireField :=
  [.u64 message.dialFrequencyHz, .text message.mode, .text message.dxCall, .text message.report,
    .text message.txMode, .bool message.txEnabled, .bool message.transmitting,
    .bool message.decoding, .u32 message.rxDfHz, .u32 message.txDfHz, .text message.deCall,
    .text message.deGrid]

def WsprDecodeMessage.fields (message : WsprDecodeMessage) : List WireField :=
  [.bool message.isNew, .u32 message.timeMillis, .i32 message.snrDb,
    .f64 message.deltaTimeSeconds, .u64 message.frequencyHz, .i32 message.driftHzPerMinute,
    .text message.callsign, .text message.grid, .i32 message.powerDbm, .bool message.offAir]

namespace WsjtxMessage

def fields (schema : ℕ) : WsjtxMessage → List WireField
  | heartbeat message => message.fields schema
  | status message => message.fields
  | wsprDecode message => message.fields
  | close _ => []
  | unsupported _ => []

/-- The time of a decode is a time of day and its delta is finite; a heartbeat without a
field for the maximum schema has the least one; what is unsupported is not supported. -/
def Fits (schema : ℕ) : WsjtxMessage → Prop
  | heartbeat message => 3 ≤ schema ∨ message.maximumSchema = 2
  | status _ => True
  | wsprDecode message =>
    message.timeMillis < millisPerDay ∧ message.deltaTimeSeconds.isFinite = true
  | close _ => True
  | unsupported message =>
    message.messageType ∉ [heartbeatMessageType, statusMessageType, closeMessageType,
      wsprDecodeMessageType]

end WsjtxMessage

/-- A message on the wire, from the magic number on. -/
def datagramFields (schema : ℕ) (message : WsjtxMessage) : List WireField :=
  .u32 wsjtxMagic :: .u32 schema :: .u32 message.messageType :: .text message.clientId ::
    message.fields schema

def encodeFields (fields : List WireField) : List UInt8 := fields.flatMap WireField.bytes

def Supported (schema : ℕ) : Prop :=
  minSupportedSchema ≤ schema ∧ schema ≤ maxSupportedSchema

/-- A message of the schema that the format has a place for. -/
structure WellFormed (schema : ℕ) (message : WsjtxMessage) : Prop where
  supported : Supported schema
  inRange : ∀ field ∈ datagramFields schema message, field.InRange
  fits : message.Fits schema

/-- The wire has the fields one after the other. -/
def Writes (fields : List WireField) (w : List UInt8) : Prop :=
  ∃ written : List WireField, written.map WireField.nullAsEmpty = fields ∧
    (∀ field ∈ written, field.InRange) ∧ w = encodeFields written

theorem writes_nil {w : List UInt8} : Writes [] w ↔ w = [] := by
  constructor
  · rintro ⟨written, hwritten, -, rfl⟩
    rw [List.map_eq_nil_iff.mp hwritten]
    rfl
  · rintro rfl
    exact ⟨[], rfl, nofun, rfl⟩

theorem writes_cons {field : WireField} {fields : List WireField} {w : List UInt8} :
    Writes (field :: fields) w ↔
      ∃ w₁ w₂, Spells field w₁ ∧ Writes fields w₂ ∧ w = w₁ ++ w₂ := by
  constructor
  · rintro ⟨written, hwritten, hrange, rfl⟩
    obtain ⟨first, rest, rfl, hfirst, hrest⟩ := List.map_eq_cons_iff.mp hwritten
    rw [List.forall_mem_cons] at hrange
    exact ⟨first.bytes, encodeFields rest, ⟨first, hfirst, hrange.1, rfl⟩,
      ⟨rest, hrest, hrange.2, rfl⟩, List.flatMap_cons⟩
  · rintro ⟨_, _, ⟨first, rfl, hfirst, rfl⟩, ⟨rest, rfl, hrest, rfl⟩, rfl⟩
    exact ⟨first :: rest, rfl, List.forall_mem_cons.mpr ⟨hfirst, hrest⟩, List.flatMap_cons.symm⟩

variable {α β μ : Type} {wrap : μ → β} {agrees fits : μ → Prop} {fields : μ → List WireField}

/-- What a part of a reader reads: the record agrees with what was read before, and the
wire goes on with its other fields. -/
def Record (wrap : μ → β) (agrees fits : μ → Prop) (fields : μ → List WireField) (b : β)
    (w : List UInt8) : Prop :=
  ∃ m, b = wrap m ∧ agrees m ∧ fits m ∧ Writes (fields m) w

theorem record_checkedField {reader : Cursor α} {next : α → Cursor β}
    {spells : α → List UInt8 → Prop} {field : μ → WireField} (part : μ → α)
    (h : Reads DatagramParseError.IsTruncated reader spells)
    (hsame : ∀ m, fits m → ∀ w, spells (part m) w ↔ Spells (field m) w)
    (hnext : ∀ a, Reads DatagramParseError.IsTruncated (next a)
      (Record wrap (fun m => agrees m ∧ part m = a) fits fields)) :
    Reads DatagramParseError.IsTruncated (reader >>= next)
      (Record wrap agrees fits fun m => field m :: fields m) := by
  refine (h.bind hnext).congr fun b w => ?_
  constructor
  · rintro ⟨_, w₁, w₂, hread, ⟨m, rfl, ⟨hagrees, rfl⟩, hfits, hwrites⟩, rfl⟩
    have hspells := (hsame m hfits w₁).mp hread
    exact ⟨m, rfl, hagrees, hfits, writes_cons.mpr ⟨w₁, w₂, hspells, hwrites, rfl⟩⟩
  · rintro ⟨m, rfl, hagrees, hfits, hwrites⟩
    obtain ⟨w₁, w₂, hspells, hrest, rfl⟩ := writes_cons.mp hwrites
    exact ⟨part m, w₁, w₂, (hsame m hfits w₁).mpr hspells,
      ⟨m, rfl, ⟨hagrees, rfl⟩, hfits, hrest⟩, rfl⟩

theorem record_field {reader : Cursor α} {next : α → Cursor β} {field : α → WireField}
    (part : μ → α) (h : Reads DatagramParseError.IsTruncated reader fun a => Spells (field a))
    (hnext : ∀ a, Reads DatagramParseError.IsTruncated (next a)
      (Record wrap (fun m => agrees m ∧ part m = a) fits fields)) :
    Reads DatagramParseError.IsTruncated (reader >>= next)
      (Record wrap agrees fits fun m => field (part m) :: fields m) :=
  record_checkedField part h (fun _ _ _ => Iff.rfl) hnext

theorem record_guard {refused : Prop} [Decidable refused] {error : DatagramParseError}
    {next : Unit → Cursor β} {accepted : μ → Prop}
    (haccepted : ∀ m, agrees m → (accepted m ↔ ¬refused))
    (hnext : ¬refused →
      Reads DatagramParseError.IsTruncated (next ()) (Record wrap agrees fits fields)) :
    Reads DatagramParseError.IsTruncated (if refused then fail error >>= next else next ())
      (Record wrap agrees (fun m => accepted m ∧ fits m) fields) := by
  refine (Reads.guarded (fun _ => ⟨error, rfl⟩) hnext).congr fun b w => ?_
  constructor
  · rintro ⟨hrefused, m, rfl, hagrees, hfits, hwrites⟩
    exact ⟨m, rfl, hagrees, ⟨(haccepted m hagrees).mpr hrefused, hfits⟩, hwrites⟩
  · rintro ⟨m, rfl, hagrees, ⟨haccept, hfits⟩, hwrites⟩
    exact ⟨(haccepted m hagrees).mp haccept, m, rfl, hagrees, hfits, hwrites⟩

theorem record_pure {m : μ} (hagrees : ∀ other, agrees other ↔ other = m) :
    Reads DatagramParseError.IsTruncated (pure (wrap m) : Cursor β)
      (Record wrap agrees (fun _ => True) fun _ => []) := by
  refine (Reads.pure (wrap m)).congr fun b w => ?_
  constructor
  · rintro ⟨rfl, rfl⟩
    exact ⟨m, rfl, (hagrees m).mpr rfl, trivial, writes_nil.mpr rfl⟩
  · rintro ⟨other, rfl, hother, -, hwrites⟩
    rw [(hagrees other).mp hother]
    exact ⟨rfl, writes_nil.mp hwrites⟩

theorem readStatus_reads (clientId : String) :
    Reads DatagramParseError.IsTruncated (readStatus clientId)
      (Record WsjtxMessage.status (fun m => m.clientId = clientId) (fun _ => True)
        StatusMessage.fields) := by
  unfold readStatus
  apply record_field StatusMessage.dialFrequencyHz (readU64_reads _)
  intro dialFrequencyHz
  apply record_field StatusMessage.mode (readUtf8_reads _)
  intro mode
  apply record_field StatusMessage.dxCall (readUtf8_reads _)
  intro dxCall
  apply record_field StatusMessage.report (readUtf8_reads _)
  intro report
  apply record_field StatusMessage.txMode (readUtf8_reads _)
  intro txMode
  apply record_field StatusMessage.txEnabled (readBool_reads _)
  intro txEnabled
  apply record_field StatusMessage.transmitting (readBool_reads _)
  intro transmitting
  apply record_field StatusMessage.decoding (readBool_reads _)
  intro decoding
  apply record_field StatusMessage.rxDfHz (readU32_reads _)
  intro rxDfHz
  apply record_field StatusMessage.txDfHz (readU32_reads _)
  intro txDfHz
  apply record_field StatusMessage.deCall (readUtf8_reads _)
  intro deCall
  apply record_field StatusMessage.deGrid (readUtf8_reads _)
  intro deGrid
  apply record_pure
  intro other
  cases other
  simp only [StatusMessage.mk.injEq, and_assoc]

theorem readWsprDecode_reads (clientId : String) :
    Reads DatagramParseError.IsTruncated (readWsprDecode clientId)
      (Record WsjtxMessage.wsprDecode (fun m => m.clientId = clientId)
        (fun m => m.timeMillis < millisPerDay ∧ m.deltaTimeSeconds.isFinite = true ∧ True)
        WsprDecodeMessage.fields) := by
  unfold readWsprDecode
  apply record_field WsprDecodeMessage.isNew (readBool_reads _)
  intro isNew
  apply record_field WsprDecodeMessage.timeMillis (readU32_reads _)
  intro timeMillis
  refine record_guard (fun m hm => ?_) fun _ => ?_
  · rw [hm.2, not_le]
  apply record_field WsprDecodeMessage.snrDb (readI32_reads _)
  intro snrDb
  refine record_checkedField WsprDecodeMessage.deltaTimeSeconds (readF64_reads _)
    (fun m hm w => ?_) fun deltaTimeSeconds => ?_
  · exact f64_spells hm.1
  refine record_guard (fun m hm => ?_) fun _ => ?_
  · rw [hm.2]
    simp
  apply record_field WsprDecodeMessage.frequencyHz (readU64_reads _)
  intro frequencyHz
  apply record_field WsprDecodeMessage.driftHzPerMinute (readI32_reads _)
  intro drift
  apply record_field WsprDecodeMessage.callsign (readUtf8_reads _)
  intro callsign
  apply record_field WsprDecodeMessage.grid (readUtf8_reads _)
  intro grid
  apply record_field WsprDecodeMessage.powerDbm (readI32_reads _)
  intro powerDbm
  apply record_field WsprDecodeMessage.offAir (readBool_reads _)
  intro offAir
  apply record_pure
  intro other
  cases other
  simp only [WsprDecodeMessage.mk.injEq, and_assoc]

theorem readHeartbeat_reads (schema : ℕ) (clientId : String) :
    Reads DatagramParseError.IsTruncated (readHeartbeat schema clientId)
      (Record WsjtxMessage.heartbeat
        (fun m => m.clientId = clientId ∧ (3 ≤ schema ∨ m.maximumSchema = 2)) (fun _ => True)
        (HeartbeatMessage.fields schema)) := by
  have hrest : ∀ maximumSchema, Reads DatagramParseError.IsTruncated
      (do
        let version ← readUtf8 "heartbeat version"
        let revision ← readUtf8 "heartbeat revision"
        return WsjtxMessage.heartbeat { clientId, maximumSchema, version, revision })
      (Record WsjtxMessage.heartbeat
        (fun m => m.clientId = clientId ∧ m.maximumSchema = maximumSchema) (fun _ => True)
        fun m => [.text m.version, .text m.revision]) := by
    intro maximumSchema
    apply record_field HeartbeatMessage.version (readUtf8_reads _)
    intro version
    apply record_field HeartbeatMessage.revision (readUtf8_reads _)
    intro revision
    apply record_pure
    intro other
    cases other
    simp only [HeartbeatMessage.mk.injEq, and_assoc]
  unfold readHeartbeat HeartbeatMessage.fields
  by_cases hschema : 3 ≤ schema
  · simp only [hschema, true_or, and_true]
    exact record_field HeartbeatMessage.maximumSchema (readU32_reads _) hrest
  · simp only [hschema, false_or]
    exact hrest 2

/-- The messages that fit a schema are told apart by their types. -/
theorem fits_cases {schema messageType : ℕ} {message : WsjtxMessage}
    (h : message.Fits schema) (htype : message.messageType = messageType) :
    (messageType = heartbeatMessageType ∧ ∃ m, message = .heartbeat m) ∨
      (messageType = statusMessageType ∧ ∃ m, message = .status m) ∨
      (messageType = closeMessageType ∧ ∃ m, message = .close m) ∨
      (messageType = wsprDecodeMessageType ∧ ∃ m, message = .wsprDecode m) ∨
      (messageType ∉ [heartbeatMessageType, statusMessageType, closeMessageType,
        wsprDecodeMessageType] ∧ ∃ m, message = .unsupported m) := by
  subst htype
  cases message with
  | heartbeat m => exact Or.inl ⟨rfl, m, rfl⟩
  | status m => exact Or.inr (Or.inl ⟨rfl, m, rfl⟩)
  | close m => exact Or.inr (Or.inr (Or.inl ⟨rfl, m, rfl⟩))
  | wsprDecode m => exact Or.inr (Or.inr (Or.inr (Or.inl ⟨rfl, m, rfl⟩)))
  | unsupported m => exact Or.inr (Or.inr (Or.inr (Or.inr ⟨h, m, rfl⟩)))

theorem readMessage_reads (schema messageType : ℕ) (clientId : String) :
    Reads DatagramParseError.IsTruncated (readMessage schema messageType clientId)
      fun message w => (message.messageType = messageType ∧ message.clientId = clientId) ∧
        message.Fits schema ∧ Writes (message.fields schema) w := by
  have hkinds : [heartbeatMessageType, statusMessageType, closeMessageType,
      wsprDecodeMessageType].Nodup := by decide
  unfold readMessage
  split_ifs with hheartbeat hstatus hclose hdecode
  · refine (readHeartbeat_reads schema clientId).congr fun message w => ?_
    constructor
    · rintro ⟨m, rfl, ⟨rfl, hfits⟩, -, hwrites⟩
      exact ⟨⟨hheartbeat.symm, rfl⟩, hfits, hwrites⟩
    · rintro ⟨⟨htype, rfl⟩, hfits, hwrites⟩
      rcases fits_cases hfits htype with
        ⟨-, m, rfl⟩ | ⟨h, -⟩ | ⟨h, -⟩ | ⟨h, -⟩ | ⟨h, -⟩
      · exact ⟨m, rfl, ⟨rfl, hfits⟩, trivial, hwrites⟩
      all_goals simp_all
  · refine (readStatus_reads clientId).congr fun message w => ?_
    constructor
    · rintro ⟨m, rfl, rfl, -, hwrites⟩
      exact ⟨⟨hstatus.symm, rfl⟩, trivial, hwrites⟩
    · rintro ⟨⟨htype, rfl⟩, hfits, hwrites⟩
      rcases fits_cases hfits htype with
        ⟨h, -⟩ | ⟨-, m, rfl⟩ | ⟨h, -⟩ | ⟨h, -⟩ | ⟨h, -⟩
      rotate_left
      · exact ⟨m, rfl, rfl, trivial, hwrites⟩
      all_goals simp_all
  · refine (Reads.pure _).congr fun message w => ?_
    constructor
    · rintro ⟨rfl, rfl⟩
      exact ⟨⟨hclose.symm, rfl⟩, trivial, writes_nil.mpr rfl⟩
    · rintro ⟨⟨htype, rfl⟩, hfits, hwrites⟩
      rcases fits_cases hfits htype with
        ⟨h, -⟩ | ⟨h, -⟩ | ⟨-, m, rfl⟩ | ⟨h, -⟩ | ⟨h, -⟩
      rotate_left 2
      · exact ⟨rfl, writes_nil.mp hwrites⟩
      all_goals simp_all
  · refine (readWsprDecode_reads clientId).congr fun message w => ?_
    constructor
    · rintro ⟨m, rfl, rfl, ⟨htime, hfinite, -⟩, hwrites⟩
      exact ⟨⟨hdecode.symm, rfl⟩, ⟨htime, hfinite⟩, hwrites⟩
    · rintro ⟨⟨htype, rfl⟩, hfits, hwrites⟩
      rcases fits_cases hfits htype with
        ⟨h, -⟩ | ⟨h, -⟩ | ⟨h, -⟩ | ⟨-, m, rfl⟩ | ⟨h, -⟩
      rotate_left 3
      · exact ⟨m, rfl, rfl, ⟨hfits.1, hfits.2, trivial⟩, hwrites⟩
      all_goals simp_all
  · refine (Reads.pure _).congr fun message w => ?_
    constructor
    · rintro ⟨rfl, rfl⟩
      refine ⟨⟨rfl, rfl⟩, ?_, writes_nil.mpr rfl⟩
      simp [WsjtxMessage.Fits, hheartbeat, hstatus, hclose, hdecode]
    · rintro ⟨⟨htype, rfl⟩, hfits, hwrites⟩
      rcases fits_cases hfits htype with
        ⟨h, -⟩ | ⟨h, -⟩ | ⟨h, -⟩ | ⟨h, -⟩ | ⟨-, m, rfl⟩
      rotate_left 4
      · subst htype
        exact ⟨rfl, writes_nil.mp hwrites⟩
      all_goals contradiction

/-- What `readDatagram` reads before it counts what is left. -/
def readFramed : Cursor (ℕ × WsjtxMessage) := do
  let magic ← readU32 "magic"
  if magic ≠ wsjtxMagic then fail (.invalidMagic magic)
  let schema ← readU32 "schema"
  if schema < minSupportedSchema ∨ maxSupportedSchema < schema then
    fail (.unsupportedSchema schema)
  let messageType ← readU32 "message type"
  let clientId ← readUtf8 "client id"
  let message ← readMessage schema messageType clientId
  return (schema, message)

theorem readDatagram_eq :
    readDatagram = (do
      let framed ← readFramed
      let rest ← get
      return { schema := framed.1, message := framed.2, trailingBytes := rest.length }) := by
  unfold readDatagram readFramed
  simp only [bind_assoc]
  congr 1
  funext magic
  split_ifs with hmagic
  · rfl
  · simp only [bind_assoc]
    congr 1
    funext schema
    split_ifs with hschema
    · rfl
    · simp only [bind_assoc, pure_bind]

theorem readFramed_reads :
    Reads DatagramParseError.IsTruncated readFramed
      (Record id (fun _ => True) (fun framed => True ∧ Supported framed.1 ∧ framed.2.Fits framed.1)
        fun framed => datagramFields framed.1 framed.2) := by
  unfold readFramed
  refine record_field (fun _ => wsjtxMagic) (readU32_reads _) fun magic => ?_
  refine record_guard (fun framed h => ?_) fun hmagic => ?_
  · rw [h.2, not_not]
    simp
  apply record_field Prod.fst (readU32_reads _)
  intro schema
  refine record_guard (fun framed h => ?_) fun _ => ?_
  · rw [← h.2, Supported, not_or, not_lt, not_lt]
  refine record_field (fun framed : ℕ × WsjtxMessage => framed.2.messageType) (readU32_reads _)
    fun messageType => ?_
  refine record_field (fun framed : ℕ × WsjtxMessage => framed.2.clientId) (readUtf8_reads _)
    fun clientId => ?_
  refine ((readMessage_reads schema messageType clientId).map (Prod.mk schema)).congr
    fun framed w => ?_
  constructor
  · rintro ⟨message, ⟨⟨htype, hclient⟩, hfits, hwrites⟩, rfl⟩
    have hagrees := (not_not.mp hmagic).symm
    exact ⟨(schema, message), rfl, ⟨⟨⟨⟨trivial, hagrees⟩, rfl⟩, htype⟩, hclient⟩, hfits, hwrites⟩
  · rintro ⟨framed, rfl, ⟨⟨⟨-, rfl⟩, rfl⟩, rfl⟩, hfits, hwrites⟩
    exact ⟨framed.2, ⟨⟨rfl, rfl⟩, hfits, hwrites⟩, rfl⟩

/-- The fields of a message, each text the null text or itself. -/
def Writing (schema : ℕ) (message : WsjtxMessage) (written : List WireField) : Prop :=
  written.map WireField.nullAsEmpty = datagramFields schema message

theorem inRange_of_nullAsEmpty {field : WireField} (h : field.nullAsEmpty.InRange) :
    field.InRange := by
  rcases field with _ | _ | _ | _ | _ | ⟨_ | _⟩
  any_goals exact h
  nofun

/-- The datagrams that are read are the fields of the messages that are well formed. -/
theorem framed_spelling {schema : ℕ} {message : WsjtxMessage} {w : List UInt8} :
    Record id (fun _ => True) (fun framed => True ∧ Supported framed.1 ∧ framed.2.Fits framed.1)
        (fun framed => datagramFields framed.1 framed.2) (schema, message) w ↔
      WellFormed schema message ∧ ∃ written, Writing schema message written ∧
        w = encodeFields written := by
  constructor
  · rintro ⟨_, rfl, -, ⟨-, hsupported, hfits⟩, written, hwritten, hrange, rfl⟩
    refine ⟨⟨hsupported, ?_, hfits⟩, written, hwritten, rfl⟩
    intro field hfield
    have hfield : field ∈ written.map WireField.nullAsEmpty := hwritten ▸ hfield
    obtain ⟨original, horiginal, rfl⟩ := List.mem_map.mp hfield
    have hin := hrange original horiginal
    rcases original with _ | _ | _ | _ | _ | ⟨_ | _⟩
    any_goals exact hin
    rintro s ⟨⟩
    decide
  · rintro ⟨⟨hsupported, hrange, hfits⟩, written, hwritten, rfl⟩
    refine ⟨_, rfl, trivial, ⟨trivial, hsupported, hfits⟩, written, hwritten, ?_, rfl⟩
    intro field hfield
    apply inRange_of_nullAsEmpty
    apply hrange
    rw [← hwritten]
    exact List.mem_map_of_mem hfield

theorem parseWsjtxDatagram_eq (datagram : List UInt8) :
    parseWsjtxDatagram datagram = (readFramed datagram).map fun framed =>
      { schema := framed.1.1, message := framed.1.2, trailingBytes := framed.2.length } := by
  rw [parseWsjtxDatagram, readDatagram_eq, bind_apply]
  cases readFramed datagram <;> rfl

theorem parseWsjtxDatagram_complete {schema : ℕ} {message : WsjtxMessage}
    (hformed : WellFormed schema message) {written : List WireField}
    (hwritten : Writing schema message written) (trailing : List UInt8) :
    parseWsjtxDatagram (encodeFields written ++ trailing) =
      .ok { schema, message, trailingBytes := trailing.length } := by
  have hspelled := framed_spelling.mpr ⟨hformed, written, hwritten, rfl⟩
  rw [parseWsjtxDatagram_eq, readFramed_reads.complete hspelled]
  rfl

theorem parseWsjtxDatagram_truncated {schema : ℕ} {message : WsjtxMessage}
    (hformed : WellFormed schema message) {written : List WireField}
    (hwritten : Writing schema message written) {p q : List UInt8}
    (hcut : encodeFields written = p ++ q) (hq : q ≠ []) :
    ∃ field needed remaining,
      parseWsjtxDatagram p = .error (.truncated field needed remaining) := by
  have hspelled := framed_spelling.mpr ⟨hformed, written, hwritten, hcut.symm⟩
  obtain ⟨_, ⟨field, needed, remaining, rfl⟩, hread⟩ := readFramed_reads.truncated hspelled hq
  exact ⟨field, needed, remaining, by rw [parseWsjtxDatagram_eq, hread]; rfl⟩

theorem parseWsjtxDatagram_sound {datagram : List UInt8} {parsed : ParsedDatagram}
    (hparse : parseWsjtxDatagram datagram = .ok parsed) :
    WellFormed parsed.schema parsed.message ∧ ∃ written trailing,
      Writing parsed.schema parsed.message written ∧
        datagram = encodeFields written ++ trailing ∧ trailing.length = parsed.trailingBytes := by
  rw [parseWsjtxDatagram_eq] at hparse
  cases hread : readFramed datagram with
  | error e => rw [hread] at hparse; cases hparse
  | ok framed =>
    obtain ⟨⟨schema, message⟩, trailing⟩ := framed
    rw [hread] at hparse
    injection hparse with hparse
    subst hparse
    obtain ⟨_, hspelled, rfl⟩ := readFramed_reads.sound hread
    obtain ⟨hformed, written, hwritten, rfl⟩ := framed_spelling.mp hspelled
    exact ⟨hformed, written, trailing, hwritten, rfl, rfl⟩

/-- `Cursor::read_exact` as it moves through the datagram; `none` where the addition to the
position overflows or the range of the slice is not in the datagram. -/
def readExactAt (bytes : List UInt8) (position length : ℕ) (field : String) :
    Option (Except DatagramParseError (List UInt8 × ℕ)) :=
  let remaining := bytes.length - position
  if remaining < length then some (.error (.truncated field length remaining))
  else if 2 ^ 64 ≤ position + length ∨ bytes.length < position + length then none
  else some (.ok ((bytes.drop position).take length, position + length))

/-- A slice has at most `isize::MAX` bytes; a cursor that is in it reads in it and stays. -/
theorem readExactAt_eq (bytes : List UInt8) (position length : ℕ) (field : String)
    (haddressable : bytes.length < 2 ^ 63) (hposition : position ≤ bytes.length) :
    readExactAt bytes position length field =
      some ((readExact length field (bytes.drop position)).map fun result =>
        (result.1, bytes.length - result.2.length)) := by
  simp only [readExactAt, readExact, List.length_drop]
  by_cases hshort : bytes.length - position < length
  · rw [if_pos hshort, if_pos hshort]
    rfl
  · have hrange : ¬(2 ^ 64 ≤ position + length ∨ bytes.length < position + length) := by
      omega
    have hmoved : bytes.length - (bytes.length - position - length) = position + length := by
      omega
    rw [if_neg hshort, if_neg hshort, if_neg hrange]
    simp only [Except.map, List.length_drop, hmoved]

/-- The parser is the wire format of the messages that are well formed. -/
theorem parseWsjtxDatagram_wireFormat :
    (∀ schema message, WellFormed schema message → ∀ written, Writing schema message written →
      (∀ trailing, parseWsjtxDatagram (encodeFields written ++ trailing) =
        .ok { schema, message, trailingBytes := trailing.length }) ∧
      ∀ p q, encodeFields written = p ++ q → q ≠ [] → ∃ field needed remaining,
        parseWsjtxDatagram p = .error (.truncated field needed remaining)) ∧
    (∀ datagram parsed, parseWsjtxDatagram datagram = .ok parsed →
      WellFormed parsed.schema parsed.message ∧ parsed.trailingBytes ≤ datagram.length ∧
        ∃ written, Writing parsed.schema parsed.message written ∧
          encodeFields written = datagram.take (datagram.length - parsed.trailingBytes)) ∧
    ∀ datagram position length field, datagram.length < 2 ^ 63 → position ≤ datagram.length →
      readExactAt datagram position length field =
        some ((readExact length field (datagram.drop position)).map fun result =>
          (result.1, datagram.length - result.2.length)) := by
  refine ⟨fun schema message hformed written hwritten => ⟨?_, ?_⟩, ?_, readExactAt_eq⟩
  · exact parseWsjtxDatagram_complete hformed hwritten
  · exact fun p q => parseWsjtxDatagram_truncated hformed hwritten
  · intro datagram parsed hparse
    obtain ⟨hformed, written, trailing, hwritten, rfl, hlength⟩ := parseWsjtxDatagram_sound hparse
    refine ⟨hformed, ?_, written, hwritten, ?_⟩
    · rw [List.length_append]
      omega
    · rw [List.length_append, ← hlength, Nat.add_sub_cancel, List.take_left]

namespace Scenario

/-- A decode of a station of the grid at the time. -/
def decodeAtMillis (timeMillis : ℕ) : WsjtxMessage :=
  .wsprDecode {
    clientId := "WSJT-X", isNew := true, timeMillis, snrDb := -18,
    deltaTimeSeconds := .finite (1 / 2), frequencyHz := 14095600, driftHzPerMinute := 0,
    callsign := "K1ABC", grid := "EM12", powerDbm := 37, offAir := false }

theorem decodeAtMillis_inRange {timeMillis : ℕ} (h : timeMillis < 2 ^ 32) :
    ∀ field ∈ datagramFields 3 (decodeAtMillis timeMillis), field.InRange := by
  have hdelta : ∃ bits < 2 ^ 64, f64FromBits bits = .finite (1 / 2) := by
    refine ⟨1022 * 2 ^ 52, by norm_num, ?_⟩
    simp [f64FromBits]
    norm_num
  have hclient : (WireField.text "WSJT-X").InRange := by rintro s ⟨⟩; decide
  have hcallsign : (WireField.text "K1ABC").InRange := by rintro s ⟨⟩; decide
  have hgrid : (WireField.text "EM12").InRange := by rintro s ⟨⟩; decide
  simp only [datagramFields, decodeAtMillis, WsjtxMessage.fields, WsprDecodeMessage.fields,
    WsjtxMessage.messageType, WsjtxMessage.clientId, List.forall_mem_cons]
  have hmagic : wsjtxMagic < 2 ^ 32 := by decide
  have hschema : 3 < 2 ^ 32 := by decide
  have htype : wsprDecodeMessageType < 2 ^ 32 := by decide
  have hfrequency : 14095600 < 2 ^ 64 := by decide
  exact ⟨hmagic, hschema, htype, hclient, trivial, h, ⟨by decide, by decide⟩, hdelta, hfrequency,
    ⟨by decide, by decide⟩, hcallsign, hgrid, ⟨by decide, by decide⟩, trivial, nofun⟩

theorem noonDecode_read :
    parseWsjtxDatagram (encodeFields (datagramFields 3 (decodeAtMillis 43200000)) ++ [222]) =
      .ok { schema := 3, message := decodeAtMillis 43200000, trailingBytes := 1 } := by
  have hformed : WellFormed 3 (decodeAtMillis 43200000) :=
    ⟨⟨by decide, by decide⟩, decodeAtMillis_inRange (by norm_num), by decide, rfl⟩
  have hwritten : Writing 3 (decodeAtMillis 43200000)
      (datagramFields 3 (decodeAtMillis 43200000)) := rfl
  exact (parseWsjtxDatagram_wireFormat.1 3 _ hformed _ hwritten).1 [222]

/-- The day has no such time, and the parser refuses the message of a time that the field
holds. -/
theorem dayLongDecode_refused :
    (∀ field ∈ datagramFields 3 (decodeAtMillis 86400000), field.InRange) ∧
      parseWsjtxDatagram (encodeFields (datagramFields 3 (decodeAtMillis 86400000))) =
        .error (.invalidTime 86400000) := by
  refine ⟨decodeAtMillis_inRange (by norm_num), ?_⟩
  have hrefused :
      (parseWsjtxDatagram (encodeFields (datagramFields 3 (decodeAtMillis 86400000)))).map
        (fun _ => ()) = .error (.invalidTime 86400000) := by decide
  cases hparse :
      parseWsjtxDatagram (encodeFields (datagramFields 3 (decodeAtMillis 86400000))) with
  | ok parsed => rw [hparse] at hrefused; cases hrefused
  | error e => rw [hparse] at hrefused; cases hrefused; rfl

end Scenario

end AntennaBench
