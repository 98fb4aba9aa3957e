import Mathlib.Data.List.DropRight
import AntennaBench.Wsjtx.LiveUdp

/-!
# What a datagram changes

A datagram is heard when it passes the checks of the receiver, is of a supported type and
finds room for its client. What is not heard changes no client; what is heard changes the
client it comes from, and evicts at most one other.
-/

namespace AntennaBench

namespace LiveWsjtxIngest

variable {env : WsprLiveEnv} {sha256 : List UInt8 → List UInt8}
  {ingest next : LiveWsjtxIngest} {datagram : List UInt8} {receivedAt : DateTime}
  {parsed : ParsedDatagram}

/-- What stays as the receiver was opened with it. -/
structure SameReceiver (a b : LiveWsjtxIngest) : Prop where
  config : b.config = a.config
  stationCallsign : b.stationCallsign = a.stationCallsign
  stationGrid : b.stationGrid = a.stationGrid
  limits : b.limits = a.limits

/-- The state differs from the one before in the bucket and the gap at most. -/
structure Untouched (a b : LiveWsjtxIngest) : Prop extends SameReceiver a b where
  clients : b.clients = a.clients
  nextSequence : b.nextSequence = a.nextSequence

theorem SameReceiver.refl (a : LiveWsjtxIngest) : SameReceiver a a := ⟨rfl, rfl, rfl, rfl⟩

theorem Untouched.refl (a : LiveWsjtxIngest) : Untouched a a := ⟨.refl a, rfl, rfl⟩

theorem stop_untouched (ingest : LiveWsjtxIngest) (code : String) (limit observed : ℕ)
    (unit : AdapterResourceUnit) (stoppedAt : DateTime) :
    Untouched ingest (ingest.stop code limit observed unit stoppedAt).2 :=
  ⟨⟨rfl, rfl, rfl, rfl⟩, rfl, rfl⟩

theorem admitDatagram_ok (h : ingest.admitDatagram datagram receivedAt = .ok (parsed, next)) :
    Untouched ingest next ∧ next.gap = none ∧ ingest.gap = none ∧
      datagram.length ≤ ingest.limits.udpDatagramBytes ∧
      parseWsjtxDatagram datagram = .ok parsed := by
  unfold admitDatagram at h
  cases hgap : ingest.gap with
  | some gap => simp [hgap] at h
  | none =>
    rw [hgap] at h
    dsimp only at h
    split_ifs at h with hsize hrate
    cases hparse : parseWsjtxDatagram datagram with
    | error error => simp [hparse] at h
    | ok parsed' =>
      rw [hparse] at h
      dsimp only at h
      split_ifs at h
      cases h
      exact ⟨⟨⟨rfl, rfl, rfl, rfl⟩, rfl, rfl⟩, rfl, rfl, by omega, rfl⟩

theorem admitDatagram_error {error : LiveIngestError}
    (h : ingest.admitDatagram datagram receivedAt = .error (error, next)) :
    Untouched ingest next ∧ (ingest.gap.isSome → next = ingest) ∧
      (∀ diagnostic, error = .resource diagnostic → next.gap.isSome) := by
  unfold admitDatagram at h
  cases hgap : ingest.gap with
  | some gap =>
    rw [hgap] at h
    cases h
    exact ⟨.refl ingest, fun _ => rfl, fun _ _ => by simp [hgap]⟩
  | none =>
    rw [hgap] at h
    dsimp only at h
    split_ifs at h with hsize hrate
    · cases h
      exact ⟨stop_untouched .., by simp, fun _ _ => rfl⟩
    · cases h
      exact ⟨⟨⟨rfl, rfl, rfl, rfl⟩, rfl, rfl⟩, by simp, fun _ _ => rfl⟩
    · cases hparse : parseWsjtxDatagram datagram with
      | error parseError =>
        rw [hparse] at h
        cases h
        exact ⟨⟨⟨rfl, rfl, rfl, rfl⟩, rfl, rfl⟩, by simp, fun _ h => by cases h⟩
      | ok parsed =>
        rw [hparse] at h
        dsimp only at h
        split_ifs at h
        cases h
        exact ⟨⟨⟨rfl, rfl, rfl, rfl⟩, rfl, rfl⟩, by simp, fun _ _ => rfl⟩

theorem lookup_erase_of_evicted {clients : LiveClients} {clientId evicted : String}
    (hmissing : clientId ∉ clients) : (clients.erase evicted).lookup clientId =
      clients.lookup clientId := by
  by_cases h : clientId = evicted
  · subst h
    rw [AList.lookup_erase, AList.lookup_eq_none.2 hmissing]
  · exact AList.lookup_erase_ne h

theorem touchClient_spec {limits : WsjtxAdapterLimits} {clients touchedClients : LiveClients}
    {clientId : String} {schema : ℕ}
    (h : touchClient limits clients clientId schema receivedAt = some touchedClients) :
    touchedClients.lookup clientId = some (touched clients clientId schema receivedAt) ∧
      ∀ other, other ≠ clientId → touchedClients.lookup other = clients.lookup other ∨
        touchedClients.lookup other = none := by
  unfold touchClient at h
  dsimp only at h
  split_ifs at h with hfull
  · simp only [Option.map_map, Option.map_eq_some_iff, Function.comp_apply] at h
    obtain ⟨evicted, -, rfl⟩ := h
    have hlookup : (clients.erase evicted).lookup clientId = clients.lookup clientId :=
      lookup_erase_of_evicted hfull.1
    refine ⟨by simp [touched, hlookup], fun other hother => ?_⟩
    rw [AList.lookup_insert_ne hother]
    by_cases hevicted : other = evicted
    · exact .inr (by rw [hevicted, AList.lookup_erase])
    · exact .inl (AList.lookup_erase_ne hevicted)
  · simp only [Option.map_some, Option.some.injEq] at h
    subst h
    exact ⟨AList.lookup_insert _, fun other hother => .inl (AList.lookup_insert_ne hother)⟩

/-- The parsed datagram with the clients as it finds them, when it is heard. -/
def hears (ingest : LiveWsjtxIngest) (datagram : List UInt8) (receivedAt : DateTime) :
    Option (ParsedDatagram × LiveWsjtxIngest) :=
  match ingest.admitDatagram datagram receivedAt with
  | .error _ => none
  | .ok (parsed, admitted) =>
    match parsed.message.unsupported? with
    | some _ => none
    | none =>
      (touchClient admitted.limits admitted.clients parsed.message.clientId parsed.schema
        receivedAt).map fun clients => (parsed, { admitted with clients })

/-- What is known of a datagram that is heard. -/
structure Heard (ingest : LiveWsjtxIngest) (datagram : List UInt8) (receivedAt : DateTime)
    (parsed : ParsedDatagram) (found : LiveWsjtxIngest) : Prop where
  same : SameReceiver ingest found
  nextSequence : found.nextSequence = ingest.nextSequence
  gap : ingest.gap = none
  foundGap : found.gap = none
  size : datagram.length ≤ ingest.limits.udpDatagramBytes
  parses : parseWsjtxDatagram datagram = .ok parsed
  supported : parsed.message.unsupported? = none
  client : found.clients.lookup parsed.message.clientId =
    some (touched ingest.clients parsed.message.clientId parsed.schema receivedAt)
  others : ∀ other, other ≠ parsed.message.clientId →
    found.clients.lookup other = ingest.clients.lookup other ∨ found.clients.lookup other = none

theorem hears_eq_some {found : LiveWsjtxIngest}
    (h : ingest.hears datagram receivedAt = some (parsed, found)) :
    Heard ingest datagram receivedAt parsed found ∧
      ∀ env sha256, ingest.ingestDatagram env sha256 datagram receivedAt =
        found.record env sha256
          (touched ingest.clients parsed.message.clientId parsed.schema receivedAt) parsed datagram
          receivedAt := by
  unfold hears at h
  cases hadmits : ingest.admitDatagram datagram receivedAt with
  | error error => simp [hadmits] at h
  | ok admitted =>
    obtain ⟨parsed', admitted⟩ := admitted
    obtain ⟨⟨hsame, hclients, hsequence⟩, hadmittedGap, hgap, hsize, hparse⟩ :=
      admitDatagram_ok hadmits
    rw [hadmits] at h
    dsimp only at h
    cases hsupported : parsed'.message.unsupported? with
    | some unsupported => simp [hsupported] at h
    | none =>
      rw [hsupported] at h
      obtain ⟨clients, htouch, heq⟩ := Option.map_eq_some_iff.1 h
      obtain ⟨rfl, rfl⟩ := Prod.mk.inj heq
      obtain ⟨hclient, hothers⟩ := touchClient_spec htouch
      constructor
      · rw [hclients] at hclient hothers
        exact ⟨⟨hsame.1, hsame.2, hsame.3, hsame.4⟩, hsequence, hgap, hadmittedGap, hsize, hparse,
          hsupported, hclient, hothers⟩
      · intro env sha256
        unfold ingestDatagram
        simp only [hadmits, hsupported, htouch]
        rw [hclients]

/-- A datagram that is not heard leaves no record and changes no client. -/
structure Unheard (ingest : LiveWsjtxIngest)
    (result : Except LiveIngestError LiveIngestOutcome × LiveWsjtxIngest) : Prop where
  untouched : Untouched ingest result.2
  unrecorded : ∀ message, result.1 ≠ .ok (.recorded message)
  stopped : ingest.gap.isSome → result.2 = ingest
  gap : ∀ diagnostic, result.1 = .error (.resource diagnostic) → result.2.gap.isSome

theorem Unheard.of_refused {error : LiveIngestError} (huntouched : Untouched ingest next)
    (hstopped : ingest.gap.isSome → next = ingest)
    (hgap : ∀ diagnostic, error = .resource diagnostic → next.gap.isSome) :
    Unheard ingest (.error error, next) :=
  { untouched := huntouched
    unrecorded := fun _ h => by cases h
    stopped := hstopped
    gap := fun diagnostic h => hgap diagnostic (Except.error.inj h) }

theorem Unheard.of_ignored {schema : ℕ} {message : UnsupportedMessage}
    (huntouched : Untouched ingest next) (hgap : ingest.gap = none) :
    Unheard ingest (.ok (.ignoredUnsupported schema message), next) :=
  { untouched := huntouched
    unrecorded := fun _ h => by cases h
    stopped := by simp [hgap]
    gap := fun _ h => by cases h }

theorem hears_eq_none (h : ingest.hears datagram receivedAt = none) :
    Unheard ingest (ingest.ingestDatagram env sha256 datagram receivedAt) := by
  unfold hears at h
  unfold ingestDatagram
  cases hadmits : ingest.admitDatagram datagram receivedAt with
  | error error =>
    obtain ⟨error, refused⟩ := error
    obtain ⟨huntouched, hstopped, hgap⟩ := admitDatagram_error hadmits
    exact .of_refused huntouched hstopped hgap
  | ok admitted =>
    obtain ⟨parsed, admitted⟩ := admitted
    obtain ⟨huntouched, -, hgap, -⟩ := admitDatagram_ok hadmits
    simp only [hadmits] at h
    cases hsupported : parsed.message.unsupported? with
    | some unsupported =>
      simp only [hsupported]
      exact .of_ignored huntouched hgap
    | none =>
      simp only [hsupported, Option.map_eq_none_iff] at h
      simp only [hsupported, h]
      obtain ⟨⟨hconfig, hcallsign, hgrid, hlimits⟩, hclients, hsequence⟩ := huntouched
      exact .of_refused ⟨⟨hconfig, hcallsign, hgrid, hlimits⟩, hclients, hsequence⟩
        (by simp [hgap]) (fun _ _ => rfl)

section

variable {found : LiveWsjtxIngest} {client : ClientRuntime}

/-- The decode is credited when its client has a status of the station and its fields are
good. -/
def Creditable (found : LiveWsjtxIngest) (client : ClientRuntime) (message : WsprDecodeMessage) :
    Prop :=
  ∃ fields, found.credit client.state.status message = .ok fields

/-- What a decode does: its digest overflows the window and stops the receiver, or the
decode is recorded with what was decided about it. -/
inductive DecodeAnswer (sha256 : List UInt8 → List UInt8) (found : LiveWsjtxIngest)
    (client : ClientRuntime) (message : WsprDecodeMessage) (datagram : List UInt8)
    (receivedAt : DateTime) (sequence : ℕ) :
    Except (LiveIngestError × LiveWsjtxIngest)
      ((Option ObservationRecord × WsprDecodeDisposition) × LiveWsjtxIngest) → Prop
  | stopped (diagnostic : AdapterResourceDiagnostic) (next : LiveWsjtxIngest)
      (same : Untouched (found.withClient message.clientId
        { client with seenWsprDatagrams := client.window found.limits receivedAt }) next)
      (gap : next.gap.isSome)
      (fresh : (client.window found.limits receivedAt).any (·.1 == sha256 datagram) = false) :
      DecodeAnswer sha256 found client message datagram receivedAt sequence
        (.error (.resource diagnostic, next))
  | refused (disposition : WsprDecodeDisposition)
      (judged : found.judgeDecode
        ((client.window found.limits receivedAt).any (·.1 == sha256 datagram))
        client.state.status message = .error disposition) :
      DecodeAnswer sha256 found client message datagram receivedAt sequence
        (.ok ((none, disposition), found.withClient message.clientId
          (client.remember found.limits (sha256 datagram) receivedAt)))
  | produced (fields : CreditedFields) (observation : ObservationRecord)
      (judged : found.judgeDecode
        ((client.window found.limits receivedAt).any (·.1 == sha256 datagram))
        client.state.status message = .ok fields)
      (observationId : observation.observationId =
        liveObservationId found.config.receiverId sequence) :
      DecodeAnswer sha256 found client message datagram receivedAt sequence
        (.ok ((some observation, .observationProduced), found.withClient message.clientId
          (client.remember found.limits (sha256 datagram) receivedAt)))

theorem processWsprDecode_answer (message : WsprDecodeMessage) (sourceTimestamp : DateTime)
    (sequence : ℕ) :
    DecodeAnswer sha256 found client message datagram receivedAt sequence
      (found.processWsprDecode env sha256 client message datagram sourceTimestamp receivedAt
        sequence) := by
  unfold processWsprDecode
  dsimp only
  split_ifs with hoverflow
  · simp only [Bool.and_eq_true, Bool.not_eq_true'] at hoverflow
    exact .stopped _ _ (stop_untouched ..) rfl hoverflow.1
  · cases hjudged : found.judgeDecode
        ((client.window found.limits receivedAt).any (·.1 == sha256 datagram))
        client.state.status message with
    | error disposition => exact .refused disposition hjudged
    | ok fields => exact .produced fields _ hjudged rfl

/-- The digests of the window have the one of the datagram. -/
def Repeats (sha256 : List UInt8 → List UInt8) (found : LiveWsjtxIngest) (client : ClientRuntime)
    (datagram : List UInt8) (receivedAt : DateTime) : Bool :=
  (client.window found.limits receivedAt).any (·.1 == sha256 datagram)

/-- What a message that is heard leads to. -/
inductive Answer (sha256 : List UInt8 → List UInt8) (found : LiveWsjtxIngest)
    (client : ClientRuntime) (parsed : ParsedDatagram) (datagram : List UInt8)
    (receivedAt : DateTime) : Except LiveIngestError LiveIngestOutcome × LiveWsjtxIngest → Prop
  | heartbeat (message : HeartbeatMessage) (record : LiveRecordedMessage)
      (isMessage : parsed.message = .heartbeat message)
      (recordId : record.wsjtxRecord.recordId =
        liveRecordId found.config.receiverId found.nextSequence)
      (observation : record.observation = none) (disposition : record.disposition = .heartbeat) :
      Answer sha256 found client parsed datagram receivedAt (.ok (.recorded record),
        found.numbered.withClient message.clientId
          (client.heartbeat message parsed.schema receivedAt))
  | status (message : StatusMessage) (record : LiveRecordedMessage)
      (isMessage : parsed.message = .status message)
      (recordId : record.wsjtxRecord.recordId =
        liveRecordId found.config.receiverId found.nextSequence)
      (observation : record.observation = none) (disposition : record.disposition = .status) :
      Answer sha256 found client parsed datagram receivedAt (.ok (.recorded record),
        found.numbered.withClient message.clientId
          (client.status message parsed.schema receivedAt))
  | close (message : CloseMessage) (record : LiveRecordedMessage)
      (isMessage : parsed.message = .close message)
      (recordId : record.wsjtxRecord.recordId =
        liveRecordId found.config.receiverId found.nextSequence)
      (observation : record.observation = none) (disposition : record.disposition = .close) :
      Answer sha256 found client parsed datagram receivedAt (.ok (.recorded record),
        { found.numbered with clients := found.clients.erase message.clientId })
  | stopped (message : WsprDecodeMessage) (diagnostic : AdapterResourceDiagnostic)
      (next : LiveWsjtxIngest)
      (isMessage : parsed.message = .wsprDecode message)
      (same : Untouched (found.numbered.withClient message.clientId
        { client with seenWsprDatagrams := client.window found.limits receivedAt }) next)
      (gap : next.gap.isSome)
      (fresh : Repeats sha256 found client datagram receivedAt = false) :
      Answer sha256 found client parsed datagram receivedAt (.error (.resource diagnostic), next)
  | refused (message : WsprDecodeMessage) (disposition : WsprDecodeDisposition)
      (record : LiveRecordedMessage) (isMessage : parsed.message = .wsprDecode message)
      (judged : found.judgeDecode (Repeats sha256 found client datagram receivedAt)
        client.state.status message = .error disposition)
      (recordId : record.wsjtxRecord.recordId =
        liveRecordId found.config.receiverId found.nextSequence)
      (observation : record.observation = none)
      (isDisposition : record.disposition = .wsprDecode disposition) :
      Answer sha256 found client parsed datagram receivedAt (.ok (.recorded record),
        found.numbered.withClient message.clientId
          (client.remember found.limits (sha256 datagram) receivedAt))
  | produced (message : WsprDecodeMessage) (fields : CreditedFields)
      (record : LiveRecordedMessage) (observation : ObservationRecord)
      (isMessage : parsed.message = .wsprDecode message)
      (judged : found.judgeDecode (Repeats sha256 found client datagram receivedAt)
        client.state.status message = .ok fields)
      (recordId : record.wsjtxRecord.recordId =
        liveRecordId found.config.receiverId found.nextSequence)
      (isObservation : record.observation = some observation)
      (observationId : observation.observationId =
        liveObservationId found.config.receiverId found.nextSequence)
      (disposition : record.disposition = .wsprDecode .observationProduced) :
      Answer sha256 found client parsed datagram receivedAt (.ok (.recorded record),
        found.numbered.withClient message.clientId
          (client.remember found.limits (sha256 datagram) receivedAt))

theorem record_answer (hsupported : parsed.message.unsupported? = none) :
    Answer sha256 found client parsed datagram receivedAt
      (found.record env sha256 client parsed datagram receivedAt) := by
  unfold record
  cases hmessage : parsed.message with
  | heartbeat message => exact .heartbeat message _ hmessage rfl rfl rfl
  | status message => exact .status message _ hmessage rfl rfl rfl
  | close message => exact .close message _ hmessage rfl rfl rfl
  | unsupported message => simp [hmessage, WsjtxMessage.unsupported?] at hsupported
  | wsprDecode message =>
    dsimp only
    generalize hanswer : found.numbered.processWsprDecode env sha256 client message datagram
      (reconstructTimestamp message.timeMillis receivedAt found.numbered.config.sessionStartedAt)
      receivedAt found.nextSequence = answer
    have hdecode : DecodeAnswer sha256 found.numbered client message datagram receivedAt
        found.nextSequence answer := by
      rw [← hanswer]
      exact processWsprDecode_answer message _ _
    cases hdecode with
    | stopped diagnostic next same gap fresh =>
      exact .stopped message diagnostic next hmessage same gap fresh
    | refused disposition judged =>
      exact .refused message disposition _ hmessage judged rfl rfl rfl
    | produced fields observation judged observationId =>
      exact .produced message fields _ observation hmessage judged rfl rfl observationId rfl

end

end LiveWsjtxIngest

end AntennaBench
