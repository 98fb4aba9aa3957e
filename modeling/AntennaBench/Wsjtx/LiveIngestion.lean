import AntennaBench.Wsjtx.AllWsprAgreement
import AntennaBench.Wsjtx.LiveLifetimes

/-!
# What live ingestion promises

Over any run of a receiver: its identities grow, every observation has a status of the
station behind it and no twin inside the duplicate window, what is not heard changes no
client, and a gap ends everything. That a duplicate repeats an observation holds of the runs
in which every decode that is met again had been creditable, and of no other run.
-/

namespace AntennaBench

open Timeline

theorem sixDigits_inj {a b : ℕ} (h : sixDigits a = sixDigits b) : a = b := by
  have hvalue : ∀ n, Nat.ofDigitChars 10 (sixDigits n).toList 0 = n := by
    intro n
    unfold sixDigits
    dsimp only
    rw [String.toList_ofList, Nat.ofDigitChars_append, Nat.ofDigitChars_replicate_zero]
    simp [Nat.toList_repr]
  rw [← hvalue a, h, hvalue b]

theorem liveRecordId_inj {receiverId : String} {a b : ℕ}
    (h : liveRecordId receiverId a = liveRecordId receiverId b) : a = b :=
  sixDigits_inj (String.append_right_inj _ |>.1 h)

theorem liveObservationId_inj {receiverId : String} {a b : ℕ}
    (h : liveObservationId receiverId a = liveObservationId receiverId b) : a = b :=
  sixDigits_inj (String.append_right_inj _ |>.1 h)

/-- The present lifetime of the client a step comes from, as far as the steps before it. -/
def LiveStep.lifetimeBefore (step : LiveStep) (clientId : String) (earlier : List LiveStep) :
    List LiveStep :=
  ((step.after.generation? clientId).map fun generation =>
    lifetime clientId generation earlier).getD []

/-- A record and its observation carry the sequence number of their step, which is larger
than every one before it; no identity is used twice. -/
structure NumberedOnce (receiverId : String) (earlier : List LiveStep) (step : LiveStep) :
    Prop where
  recordId : ∀ record ∈ step.recorded?,
    record.wsjtxRecord.recordId = liveRecordId receiverId step.before.nextSequence
  observationId : ∀ record ∈ step.recorded?, ∀ observation ∈ record.observation,
    observation.observationId = liveObservationId receiverId step.before.nextSequence
  increasing : step.recorded?.isSome → ∀ e ∈ earlier, e.recorded?.isSome →
    e.before.nextSequence < step.before.nextSequence
  fresh : ∀ record ∈ step.recorded?, ∀ e ∈ earlier, ∀ other ∈ e.recorded?,
    other.wsjtxRecord.recordId ≠ record.wsjtxRecord.recordId ∧
      ∀ a ∈ other.observation, ∀ b ∈ record.observation, a.observationId ≠ b.observationId

/-- The last status of the client in its lifetime is of mode WSPR and of the station the
receiver is configured for. -/
def StatusBacked (config : LiveIngestConfig) (earlier : List LiveStep) (step : LiveStep) : Prop :=
  ∀ clientId, step.Produces clientId → ∃ status callsign grid,
    lastStatus clientId (step.lifetimeBefore clientId earlier) = some status ∧
      eqIgnoreAsciiCase status.mode "WSPR" = true ∧
      normalizeWsprCallsign config.stationCallsign = some callsign ∧
      eqIgnoreAsciiCase status.deCall callsign = true ∧
      normalizeMaidenheadGrid config.stationGrid = some grid ∧
      eqIgnoreAsciiCase status.deGrid grid = true

/-- No identical datagram of the lifetime produced an observation inside the window. -/
def ProducedOnce (limits : WsjtxAdapterLimits) (earlier : List LiveStep) (step : LiveStep) : Prop :=
  ∀ clientId, step.Produces clientId → ∀ e ∈ step.lifetimeBefore clientId earlier,
    e.Produces clientId → e.datagram = step.datagram →
      e.receivedAt + .seconds limits.udpDedupWindowSeconds < step.receivedAt

/-- A duplicate has an identical decode of the lifetime before it that produced an
observation. -/
def DuplicateBacked (earlier : List LiveStep) (step : LiveStep) : Prop :=
  ∀ clientId, step.IsDuplicate clientId → ∃ e ∈ step.lifetimeBefore clientId earlier,
    e.datagram = step.datagram ∧ e.Produces clientId

/-- What is malformed, unsupported or too long changes no client. -/
def Harmless (limits : WsjtxAdapterLimits) (step : LiveStep) : Prop :=
  ((∃ error, parseWsjtxDatagram step.datagram = .error error) ∨
      (∃ parsed, parseWsjtxDatagram step.datagram = .ok parsed ∧
        parsed.message.unsupported?.isSome) ∨
      limits.udpDatagramBytes < step.datagram.length) →
    step.after.clients = step.before.clients

/-- Nothing happens any more once a gap was reported. -/
def StoppedForGood (earlier : List LiveStep) (step : LiveStep) : Prop :=
  (∃ e ∈ earlier, e.ReportsGap) → step.after = step.before ∧ step.recorded? = none

structure LiveIngestionKept (config : LiveIngestConfig) (limits : WsjtxAdapterLimits)
    (earlier : List LiveStep) (step : LiveStep) : Prop where
  numbered : NumberedOnce config.receiverId earlier step
  status : StatusBacked config earlier step
  once : ProducedOnce limits earlier step
  duplicate : DuplicateBacked earlier step
  harmless : Harmless limits step
  stopped : StoppedForGood earlier step

/-- The decode of the client is heard while its status and its fields are good. -/
def LiveStep.Creditable (step : LiveStep) (clientId : String) : Prop :=
  ∃ parsed found message, step.before.hears step.datagram step.receivedAt = some (parsed, found) ∧
    parsed.message = .wsprDecode message ∧ message.clientId = clientId ∧
    found.Creditable (touched step.before.clients clientId parsed.schema step.receivedAt) message

/-- A new decode from the air whose digest is still in the window of its client repeats a
datagram of the lifetime that was creditable when it came. -/
def RepeatsCreditable (sha256 : List UInt8 → List UInt8) (earlier : List LiveStep)
    (step : LiveStep) : Prop :=
  ∀ parsed found message, step.before.hears step.datagram step.receivedAt = some (parsed, found) →
    parsed.message = .wsprDecode message → message.isNew = true → message.offAir = false →
    let client := touched step.before.clients message.clientId parsed.schema step.receivedAt
    found.Repeats sha256 client step.datagram step.receivedAt = true →
    ∃ e ∈ lifetime message.clientId client.state.generation earlier,
      e.datagram = step.datagram ∧ e.Creditable message.clientId

section

variable {env : WsprLiveEnv} {sha256 : List UInt8 → List UInt8} {config : LiveIngestConfig}
  {limits : WsjtxAdapterLimits} {opened ingest found : LiveWsjtxIngest}
  {steps earlier : List LiveStep} {step : LiveStep} {clientId : String}
  {parsed : ParsedDatagram} {message : WsprDecodeMessage} {record : LiveRecordedMessage}

open LiveWsjtxIngest in
/-- Only a digest in the window makes a decode a duplicate. -/
theorem LiveWsjtxIngest.judgeDecode_duplicate {duplicate : Bool} {status : Option StatusMessage}
    (h : found.judgeDecode duplicate status message = .error .duplicate) :
    message.isNew = true ∧ message.offAir = false ∧ duplicate = true := by
  have hcredit : found.credit status message ≠ .error .duplicate := by
    intro hcredit
    unfold credit at hcredit
    simp only [bind_eq_error, failIf_eq_error, orError_eq_error] at hcredit
    simp [pure, Except.pure] at hcredit
  unfold judgeDecode at h
  cases hnew : message.isNew <;> cases hair : message.offAir <;> cases duplicate <;>
    simp_all [failIf, bind, Except.bind]

/-- What a decode that is heard did. -/
inductive DecodeCase (sha256 : List UInt8 → List UInt8) (step : LiveStep)
    (found : LiveWsjtxIngest) (client : ClientRuntime) (message : WsprDecodeMessage) : Prop where
  | stopped (reports : step.ReportsGap)
      (fresh : found.Repeats sha256 client step.datagram step.receivedAt = false)
  | refused (disposition : WsprDecodeDisposition) (record : LiveRecordedMessage)
      (recorded : step.recorded? = some record)
      (judged : found.judgeDecode
        (found.Repeats sha256 client step.datagram step.receivedAt) client.state.status message =
          .error disposition)
      (observation : record.observation = none)
      (isDisposition : record.disposition = .wsprDecode disposition)
      (generation : step.after.generation? message.clientId = some client.state.generation)
  | produced (fields : LiveWsjtxIngest.CreditedFields) (record : LiveRecordedMessage)
      (recorded : step.recorded? = some record)
      (judged : found.judgeDecode
        (found.Repeats sha256 client step.datagram step.receivedAt) client.state.status message =
          .ok fields)
      (observation : record.observation.isSome)
      (disposition : record.disposition = .wsprDecode .observationProduced)
      (generation : step.after.generation? message.clientId = some client.state.generation)

open LiveWsjtxIngest in
theorem StepCase.decode (h : StepCase sha256 step)
    (hhears : step.before.hears step.datagram step.receivedAt = some (parsed, found))
    (hmessage : parsed.message = .wsprDecode message) :
    DecodeCase sha256 step found
      (touched step.before.clients message.clientId parsed.schema step.receivedAt) message := by
  cases h with
  | unheard heard => simp [heard] at hhears
  | heard parsed' found' hears heard answer =>
    obtain ⟨rfl, rfl⟩ := Prod.mk.inj (Option.some.inj (hears.symm.trans hhears))
    have hclient : parsed'.message.clientId = message.clientId := by rw [hmessage]; rfl
    rw [hclient] at answer
    generalize hresult : (step.outcome, step.after) = result at answer
    have hafter : step.after = result.2 := by rw [← hresult]
    have houtcome : step.outcome = result.1 := by rw [← hresult]
    cases answer with
    | stopped other diagnostic next isMessage same gap fresh =>
      exact .stopped ⟨diagnostic, houtcome⟩ fresh
    | refused other disposition record isMessage judged recordId observation isDisposition =>
      obtain rfl := WsjtxMessage.wsprDecode.inj (hmessage.symm.trans isMessage)
      refine .refused disposition record ?_ judged observation isDisposition ?_
      · simp [LiveStep.recorded?, houtcome]
      · rw [hafter]
        simp [LiveWsjtxIngest.generation?, ClientRuntime.remember]
    | produced other fields record observation isMessage judged recordId isObservation _
      disposition =>
      obtain rfl := WsjtxMessage.wsprDecode.inj (hmessage.symm.trans isMessage)
      refine .produced fields record ?_ judged ?_ disposition ?_
      · simp [LiveStep.recorded?, houtcome]
      · simp [isObservation]
      · rw [hafter]
        simp [LiveWsjtxIngest.generation?, ClientRuntime.remember]
    | _ => simp_all

/-- A step that recorded a decode heard it. -/
theorem StepCase.heard_of_decode (h : StepCase sha256 step) (hdecode : step.IsDecodeOf clientId)
    (hrecorded : step.recorded? = some record) : ∃ parsed found message,
      step.before.hears step.datagram step.receivedAt = some (parsed, found) ∧
        parsed.message = .wsprDecode message ∧ message.clientId = clientId := by
  cases h with
  | unheard _ unheard => simp [LiveStep.recorded?_of_unheard unheard] at hrecorded
  | heard parsed found hears heard answer =>
    obtain ⟨message, hmessage, hclient⟩ := hdecode
    rw [LiveStep.message?_of_heard heard] at hmessage
    exact ⟨parsed, found, message, hears, Option.some.inj hmessage, hclient⟩

theorem LiveStep.isDecodeOf_of_hears
    (hhears : step.before.hears step.datagram step.receivedAt = some (parsed, found))
    (hmessage : parsed.message = .wsprDecode message) : step.IsDecodeOf message.clientId := by
  refine ⟨message, ?_, rfl⟩
  rw [LiveStep.message?_of_heard (LiveWsjtxIngest.hears_eq_some hhears).1, hmessage]

theorem LiveStep.lifetimeBefore_eq {generation : ℕ}
    (h : step.after.generation? clientId = some generation) :
    step.lifetimeBefore clientId earlier = lifetime clientId generation earlier := by
  simp [LiveStep.lifetimeBefore, h]

/-- What is known of a step that produced an observation. -/
theorem StepCase.of_produces (h : StepCase sha256 step) (hproduces : step.Produces clientId) :
    ∃ parsed found message fields,
      step.before.hears step.datagram step.receivedAt = some (parsed, found) ∧
        parsed.message = .wsprDecode message ∧ message.clientId = clientId ∧
        let client := touched step.before.clients clientId parsed.schema step.receivedAt
        step.lifetimeBefore clientId = lifetime clientId client.state.generation ∧
          found.judgeDecode (found.Repeats sha256 client step.datagram step.receivedAt)
            client.state.status message = .ok fields := by
  obtain ⟨hdecode, record, hrecorded, hobservation⟩ := hproduces
  obtain ⟨parsed, found, message, hhears, hmessage, rfl⟩ := h.heard_of_decode hdecode hrecorded
  cases h.decode hhears hmessage with
  | stopped reports =>
    obtain ⟨diagnostic, hdiagnostic⟩ := reports
    simp [LiveStep.recorded?, hdiagnostic] at hrecorded
  | refused disposition other recorded judged observation =>
    obtain rfl := Option.some.inj (recorded.symm.trans hrecorded)
    simp [observation] at hobservation
  | produced fields other recorded judged observation disposition generation =>
    refine ⟨parsed, found, message, fields, hhears, hmessage, rfl, ?_, judged⟩
    funext earlier
    exact LiveStep.lifetimeBefore_eq generation

/-- A decode is a duplicate when its digest is still in the window and nothing else speaks
against it. -/
theorem StepCase.of_duplicate (h : StepCase sha256 step) (hduplicate : step.IsDuplicate clientId) :
    ∃ parsed found message,
      step.before.hears step.datagram step.receivedAt = some (parsed, found) ∧
        parsed.message = .wsprDecode message ∧ message.clientId = clientId ∧
        message.isNew = true ∧ message.offAir = false ∧
        let client := touched step.before.clients clientId parsed.schema step.receivedAt
        step.lifetimeBefore clientId = lifetime clientId client.state.generation ∧
          found.Repeats sha256 client step.datagram step.receivedAt = true := by
  obtain ⟨hdecode, record, hrecorded, hdisposition⟩ := hduplicate
  obtain ⟨parsed, found, message, hhears, hmessage, rfl⟩ := h.heard_of_decode hdecode hrecorded
  cases h.decode hhears hmessage with
  | stopped reports =>
    obtain ⟨diagnostic, hdiagnostic⟩ := reports
    simp [LiveStep.recorded?, hdiagnostic] at hrecorded
  | refused disposition other recorded judged observation isDisposition generation =>
    obtain rfl := Option.some.inj (recorded.symm.trans hrecorded)
    obtain rfl := LiveMessageDisposition.wsprDecode.inj (isDisposition.symm.trans hdisposition)
    obtain ⟨hnew, hair, hrepeats⟩ := LiveWsjtxIngest.judgeDecode_duplicate judged
    refine ⟨parsed, found, message, hhears, hmessage, rfl, hnew, hair, ?_, hrepeats⟩
    funext earlier
    exact LiveStep.lifetimeBefore_eq generation
  | produced fields other recorded judged observation disposition =>
    obtain rfl := Option.some.inj (recorded.symm.trans hrecorded)
    simp [disposition] at hdisposition

/-- The status the receiver sees of a client is the last one of its lifetime. -/
theorem StepKept.status (h : StepKept sha256 opened earlier step) (clientId : String)
    (schema : ℕ) :
    (touched step.before.clients clientId schema step.receivedAt).state.status =
      lastStatus clientId (lifetime clientId
        (touched step.before.clients clientId schema step.receivedAt).state.generation earlier) :=
  (h.run.touched clientId schema step.receivedAt).status

open LiveWsjtxIngest in
theorem StepCase.identities (h : StepCase sha256 step) (hrecorded : step.recorded? = some record) :
    record.wsjtxRecord.recordId =
        liveRecordId step.before.config.receiverId step.before.nextSequence ∧
      ∀ observation ∈ record.observation, observation.observationId =
        liveObservationId step.before.config.receiverId step.before.nextSequence := by
  cases h with
  | unheard _ unheard => simp [LiveStep.recorded?_of_unheard unheard] at hrecorded
  | heard parsed found hears heard answer =>
    rw [← heard.same.config, ← heard.nextSequence]
    generalize hresult : (step.outcome, step.after) = result at answer
    have houtcome : step.outcome = result.1 := by rw [← hresult]
    unfold LiveStep.recorded? at hrecorded
    rw [houtcome] at hrecorded
    cases answer with
    | stopped => cases hrecorded
    | produced message fields record observation isMessage judged recordId isObservation
        observationId =>
      cases hrecorded
      refine ⟨recordId, ?_⟩
      rw [isObservation]
      rintro _ ⟨⟩
      exact observationId
    | _ =>
      cases hrecorded
      simp_all

theorem StepKept.numbered (h : StepKept sha256 opened earlier step)
    (hearlier : Throughout (StepKept sha256 opened) earlier) :
    NumberedOnce opened.config.receiverId earlier step := by
  have hidentities : ∀ s record, StepCase sha256 s → opened.SameReceiver s.before →
      s.recorded? = some record →
      record.wsjtxRecord.recordId = liveRecordId opened.config.receiverId s.before.nextSequence ∧
        ∀ observation ∈ record.observation, observation.observationId =
          liveObservationId opened.config.receiverId s.before.nextSequence := by
    intro s record hcase hsame hrecorded
    rw [← hsame.config]
    exact hcase.identities hrecorded
  have hincreasing : ∀ e ∈ earlier, e.recorded?.isSome →
      e.before.nextSequence < step.before.nextSequence := h.run.sequence
  refine ⟨fun record hrecord => (hidentities _ _ h.case h.run.same hrecord).1,
    fun record hrecord => (hidentities _ _ h.case h.run.same hrecord).2,
    fun _ => hincreasing, ?_⟩
  intro record hrecord e he other hother
  have hlt := hincreasing e he (by rw [hother]; rfl)
  obtain ⟨before, after, hsplit⟩ := List.append_of_mem he
  have hkept := hearlier before e after hsplit
  obtain ⟨hid, hobservation⟩ := hidentities _ _ h.case h.run.same hrecord
  obtain ⟨hid', hobservation'⟩ := hidentities _ _ hkept.case hkept.run.same hother
  constructor
  · rw [hid, hid']
    intro heq
    have := liveRecordId_inj heq
    omega
  · intro a ha b hb
    rw [hobservation b hb, hobservation' a ha]
    intro heq
    have := liveObservationId_inj heq
    omega

open LiveWsjtxIngest in
theorem LiveWsjtxIngest.credit_ok {status : Option StatusMessage} {fields : CreditedFields}
    (h : found.credit status message = .ok fields) : ∃ s, status = some s ∧
      eqIgnoreAsciiCase s.mode "WSPR" = true ∧
      eqIgnoreAsciiCase s.deCall found.stationCallsign = true ∧
      eqIgnoreAsciiCase s.deGrid found.stationGrid = true := by
  simp only [credit, bind_eq_ok, failIf_eq_ok, orError_eq_ok] at h
  obtain ⟨s, hs, -, hmode, -, hidentity, -⟩ := h
  simp only [Bool.or_eq_false_iff, Bool.not_eq_false'] at hmode hidentity
  exact ⟨s, hs, hmode, hidentity⟩

theorem StepKept.statusBacked (h : StepKept sha256 opened earlier step)
    (hcallsign : normalizeWsprCallsign config.stationCallsign = some opened.stationCallsign)
    (hgrid : normalizeMaidenheadGrid config.stationGrid = some opened.stationGrid) :
    StatusBacked config earlier step := by
  intro clientId hproduces
  obtain ⟨parsed, found, message, fields, hhears, -, -, hlifetime, hjudged⟩ :=
    h.case.of_produces hproduces
  obtain ⟨-, -, -, hcredit⟩ := LiveWsjtxIngest.judgeDecode_ok hjudged
  obtain ⟨status, hstatus, hmode, hdeCall, hdeGrid⟩ := LiveWsjtxIngest.credit_ok hcredit
  have hsame := h.run.same.trans (LiveWsjtxIngest.hears_eq_some hhears).1.same
  rw [hsame.stationCallsign] at hdeCall
  rw [hsame.stationGrid] at hdeGrid
  refine ⟨status, _, _, ?_, hmode, hcallsign, hdeCall, hgrid, hdeGrid⟩
  rw [hlifetime, ← h.status, hstatus]

theorem StepKept.producedOnce (h : StepKept sha256 opened earlier step) :
    ProducedOnce opened.limits earlier step := by
  intro clientId hproduces e he heproduces hdatagram
  obtain ⟨parsed, found, message, fields, hhears, -, -, hlifetime, hjudged⟩ :=
    h.case.of_produces hproduces
  obtain ⟨-, -, hfresh, -⟩ := LiveWsjtxIngest.judgeDecode_ok hjudged
  have hsame := h.run.same.trans (LiveWsjtxIngest.hears_eq_some hhears).1.same
  have hkept := h.run.touched clientId parsed.schema step.receivedAt
  rw [hlifetime] at he
  rcases hkept.seen e he heproduces with hseen | ⟨later, hlater, hlt⟩
  · rcases mem_window _ opened.limits step.receivedAt hseen with hwindow | hlt
    · unfold LiveWsjtxIngest.Repeats at hfresh
      rw [hsame.limits, List.any_eq_false] at hfresh
      exact absurd (hfresh _ hwindow) (by simp [hdatagram])
    · exact hlt
  · exact lt_of_lt_of_le hlt (h.time later hlater)

theorem StepKept.harmless (h : StepKept sha256 opened earlier step) :
    Harmless opened.limits step := by
  intro hbad
  cases h.case with
  | unheard _ unheard => exact unheard.untouched.clients
  | heard parsed found hears heard answer =>
    rcases hbad with ⟨error, herror⟩ | ⟨other, hother, hunsupported⟩ | hsize
    · simp [heard.parses] at herror
    · obtain rfl := Except.ok.inj (heard.parses.symm.trans hother)
      simp [heard.supported] at hunsupported
    · have hle := heard.size
      rw [h.run.same.limits] at hle
      omega

theorem StepKept.stopped (h : StepKept sha256 opened earlier step) :
    StoppedForGood earlier step := by
  rintro ⟨e, he, hreports⟩
  have hgap := h.run.gap e he hreports
  cases h.case with
  | unheard _ unheard =>
    exact ⟨unheard.stopped hgap, LiveStep.recorded?_of_unheard unheard⟩
  | heard parsed found hears heard => simp [heard.gap] at hgap

theorem StepKept.creditable_of_produces (h : StepKept sha256 opened earlier step)
    (hproduces : step.Produces clientId) : step.Creditable clientId := by
  obtain ⟨parsed, found, message, fields, hhears, hmessage, hclient, -, hjudged⟩ :=
    h.case.of_produces hproduces
  exact ⟨parsed, found, message, hhears, hmessage, hclient, fields,
    (LiveWsjtxIngest.judgeDecode_ok hjudged).2.2.2⟩

theorem LiveWsjtxIngest.judgeDecode_of_repeats {status : Option StatusMessage}
    (hnew : message.isNew = true) (hair : message.offAir = false) :
    found.judgeDecode true status message = .error .duplicate := by
  simp [judgeDecode, hnew, hair]

theorem LiveWsjtxIngest.judgeDecode_of_credit {duplicate : Bool} {status : Option StatusMessage}
    {fields : LiveWsjtxIngest.CreditedFields} {disposition : WsprDecodeDisposition}
    (hnew : message.isNew = true) (hair : message.offAir = false)
    (hcredit : found.credit status message = .ok fields)
    (h : found.judgeDecode duplicate status message = .error disposition) :
    disposition = .duplicate := by
  cases duplicate with
  | false => simp [judgeDecode, hnew, hair, hcredit] at h
  | true =>
    rw [judgeDecode_of_repeats hnew hair] at h
    exact (Except.error.inj h).symm

theorem StepKept.repeatsCreditable (h : StepKept sha256 opened earlier step)
    (hearlier : Throughout (StepKept sha256 opened) earlier)
    (hbacked : DuplicateBacked earlier step) : RepeatsCreditable sha256 earlier step := by
  intro parsed found message hhears hmessage hnew hair client hrepeats
  have hdecode := LiveStep.isDecodeOf_of_hears hhears hmessage
  cases h.case.decode hhears hmessage with
  | stopped _ fresh => exact absurd (hrepeats.symm.trans fresh) (by simp)
  | produced fields record recorded judged =>
    have hfresh := (LiveWsjtxIngest.judgeDecode_ok judged).2.2.1
    exact absurd (hrepeats.symm.trans hfresh) (by simp)
  | refused disposition record recorded judged observation isDisposition generation =>
    change found.judgeDecode (found.Repeats sha256 client step.datagram step.receivedAt) _ _ = _
      at judged
    rw [hrepeats, LiveWsjtxIngest.judgeDecode_of_repeats hnew hair] at judged
    obtain rfl := Except.error.inj judged
    obtain ⟨e, he, hdatagram, hproduces⟩ :=
      hbacked message.clientId ⟨hdecode, record, recorded, isDisposition⟩
    rw [LiveStep.lifetimeBefore_eq generation] at he
    obtain ⟨before, after, hsplit⟩ := List.append_of_mem ((List.rtakeWhile_suffix _ _).subset he)
    exact ⟨e, he, hdatagram, (hearlier before e after hsplit).creditable_of_produces hproduces⟩

theorem StepKept.duplicateBacked (h : StepKept sha256 opened earlier step)
    (hearlier : Throughout (StepKept sha256 opened) earlier)
    (hbacked : Throughout DuplicateBacked earlier)
    (hcreditable : RepeatsCreditable sha256 earlier step) : DuplicateBacked earlier step := by
  intro clientId hduplicate
  obtain ⟨parsed, found, message, hhears, hmessage, rfl, hnew, hair, hlifetime, hrepeats⟩ :=
    h.case.of_duplicate hduplicate
  obtain ⟨e, he, hdatagram, parsed', found', message', hhears', hmessage', hclient, fields,
    hfields⟩ := hcreditable parsed found message hhears hmessage hnew hair hrepeats
  have hheard := (LiveWsjtxIngest.hears_eq_some hhears).1
  have hheard' := (LiveWsjtxIngest.hears_eq_some hhears').1
  obtain rfl : parsed' = parsed := by
    have hparses := hheard'.parses
    rw [hdatagram] at hparses
    exact Except.ok.inj (hparses.symm.trans hheard.parses)
  obtain rfl := WsjtxMessage.wsprDecode.inj (hmessage'.symm.trans hmessage)
  obtain ⟨before, after, hsplit, hsubset⟩ := exists_split_of_mem_rtakeWhile he
  have hkept := hearlier before e after hsplit
  have hgeneration := List.mem_rtakeWhile_imp he
  simp only [decide_eq_true_eq] at hgeneration
  rw [hlifetime]
  cases hkept.case.decode hhears' hmessage' with
  | stopped reports =>
    have hgap := h.run.gap e ((List.rtakeWhile_suffix _ _).subset he) reports
    simp [hheard.gap] at hgap
  | produced other record recorded judged observation =>
    exact ⟨e, he, hdatagram, LiveStep.isDecodeOf_of_hears hhears' hmessage', record, recorded,
      observation⟩
  | refused disposition record recorded judged observation isDisposition =>
    obtain rfl := LiveWsjtxIngest.judgeDecode_of_credit hnew hair hfields judged
    obtain ⟨first, hfirst, hsame, hproduces⟩ := hbacked before e after hsplit message'.clientId
      ⟨LiveStep.isDecodeOf_of_hears hhears' hmessage', record, recorded, isDisposition⟩
    rw [LiveStep.lifetimeBefore_eq hgeneration] at hfirst
    exact ⟨first, hsubset hfirst, hsame.trans hdatagram, hproduces⟩

end

theorem newWithLimits_ok {config : LiveIngestConfig} {limits : WsjtxAdapterLimits}
    {opened : LiveWsjtxIngest} (h : LiveWsjtxIngest.newWithLimits config limits = .ok opened) :
    opened.clients = ∅ ∧ opened.config = config ∧ opened.limits = limits ∧
      normalizeWsprCallsign config.stationCallsign = some opened.stationCallsign ∧
      normalizeMaidenheadGrid config.stationGrid = some opened.stationGrid := by
  simp only [LiveWsjtxIngest.newWithLimits, bind_eq_ok, orError_eq_ok, pure_eq_ok] at h
  obtain ⟨-, -, -, -, callsign, hcallsign, grid, hgrid, rfl⟩ := h
  exact ⟨rfl, rfl, rfl, hcallsign, hgrid⟩

/-- A run keeps all that live ingestion promises if and only if each decode that is met
again inside the window had been creditable. -/
theorem liveIngestion_iff (env : WsprLiveEnv) (sha256 : List UInt8 → List UInt8)
    (config : LiveIngestConfig) (limits : WsjtxAdapterLimits) (opened ingest : LiveWsjtxIngest)
    (steps : List LiveStep) (hopened : LiveWsjtxIngest.newWithLimits config limits = .ok opened)
    (hrun : LiveRun env sha256 opened steps ingest) :
    Throughout (LiveIngestionKept config limits) steps ↔
      Throughout (RepeatsCreditable sha256) steps := by
  obtain ⟨hclients, rfl, rfl, hcallsign, hgrid⟩ := newWithLimits_ok hopened
  have hkept := hrun.throughout hclients
  have hbefore : ∀ earlier entry later, steps = earlier ++ entry :: later →
      Throughout (StepKept sha256 opened) earlier := by
    rintro earlier entry later rfl first e rest rfl
    exact hkept first e (rest ++ entry :: later) (by simp)
  constructor
  · intro h earlier step later heq
    exact (hkept earlier step later heq).repeatsCreditable (hbefore earlier step later heq)
      (h earlier step later heq).duplicate
  · intro h
    have hbacked : Throughout DuplicateBacked steps := by
      apply throughout_of_earlier
      intro earlier step later heq hearlier
      exact (hkept earlier step later heq).duplicateBacked (hbefore earlier step later heq)
        hearlier (h earlier step later heq)
    intro earlier step later heq
    have hstep := hkept earlier step later heq
    exact {
      numbered := hstep.numbered (hbefore earlier step later heq)
      status := hstep.statusBacked hcallsign hgrid
      once := hstep.producedOnce
      duplicate := hbacked earlier step later heq
      harmless := hstep.harmless
      stopped := hstep.stopped }

namespace Scenario

def bigEndianBytes (width value : ℕ) : List UInt8 :=
  (List.range width).reverse.map fun place => UInt8.ofNat (value / 256 ^ place)

def utf8Field (text : String) : List UInt8 :=
  let bytes := text.toUTF8.toList
  bigEndianBytes 4 bytes.length ++ bytes

def datagramHeader (messageType : ℕ) : List UInt8 :=
  bigEndianBytes 4 wsjtxMagic ++ bigEndianBytes 4 maxSupportedSchema ++
    bigEndianBytes 4 messageType ++ utf8Field "WSJT-X"

def statusDatagram (mode deCall deGrid : String) : List UInt8 :=
  datagramHeader statusMessageType ++ bigEndianBytes 8 14095600 ++ utf8Field mode ++
    utf8Field "" ++ utf8Field "" ++ utf8Field mode ++ [0, 0, 0] ++ bigEndianBytes 4 1500 ++
    bigEndianBytes 4 1500 ++ utf8Field deCall ++ utf8Field deGrid

/-- A decode of the two minutes from noon. -/
def decodeDatagram (callsign : String) : List UInt8 :=
  datagramHeader wsprDecodeMessageType ++ [1] ++ bigEndianBytes 4 (12 * 60 * 60 * 1000) ++
    bigEndianBytes 4 5 ++ bigEndianBytes 8 0 ++ bigEndianBytes 8 14097100 ++
    bigEndianBytes 4 0 ++ utf8Field callsign ++ utf8Field "JO22" ++ bigEndianBytes 4 23 ++ [0]

def liveConfig : LiveIngestConfig where
  sessionId := "session"
  receiverId := "receiver"
  stationCallsign := "K1ABC"
  stationGrid := "FN42"
  sessionStartedAt := noon 0

variable (opened : LiveWsjtxIngest)

/-- The decode that comes before the client told its mode. -/
def earlyDecode : LiveStep :=
  liveStep listeningEnv id opened (decodeDatagram "G4XYZ") (noon 121)

def lateStatus : LiveStep :=
  liveStep listeningEnv id (earlyDecode opened).after (statusDatagram "WSPR" "K1ABC" "FN42")
    (noon 122)

/-- The same decode again, now that the status is known. -/
def repeatedDecode : LiveStep :=
  liveStep listeningEnv id (lateStatus opened).after (decodeDatagram "G4XYZ") (noon 123)

def lateSteps : List LiveStep :=
  [earlyDecode opened, lateStatus opened, repeatedDecode opened]

theorem lateSteps_run :
    LiveRun listeningEnv id opened (lateSteps opened) (repeatedDecode opened).after := by
  have hopened : LiveRun listeningEnv id opened [] opened := .opened
  have hearly := hopened.ingest (decodeDatagram "G4XYZ") (noon 121) (by simp)
  have hstatus := hearly.ingest (statusDatagram "WSPR" "K1ABC" "FN42") (noon 122) (by
    simp only [List.nil_append, List.mem_singleton, forall_eq]
    change noon 121 ≤ noon 122
    decide)
  apply hstatus.ingest (decodeDatagram "G4XYZ") (noon 123)
  simp only [List.nil_append, List.cons_append, List.mem_cons, List.not_mem_nil, or_false,
    forall_eq_or_imp, forall_eq]
  change noon 121 ≤ noon 123 ∧ noon 122 ≤ noon 123
  decide

def isDecodeOf (clientId : String) : WsjtxMessage → Bool
  | .wsprDecode message => message.clientId = clientId
  | _ => false

theorem isDecodeOf_of_any {step : LiveStep} {clientId : String}
    (h : step.message?.any (isDecodeOf clientId) = true) : step.IsDecodeOf clientId := by
  obtain ⟨message, hmessage, hdecode⟩ := (Option.any_eq_true _ _).1 h
  cases message with
  | wsprDecode decode => exact ⟨decode, hmessage, by simpa [isDecodeOf] using hdecode⟩
  | _ => simp [isDecodeOf] at hdecode

/-- The repetition is called a duplicate although nothing was produced before it. -/
def lostDecode (opened : LiveWsjtxIngest) : Bool :=
  (repeatedDecode opened).message?.any (isDecodeOf "WSJT-X") &&
    (repeatedDecode opened).recorded?.any (·.disposition = .wsprDecode .duplicate) &&
    ([earlyDecode opened, lateStatus opened].all fun step =>
      step.recorded?.all (·.observation.isNone))

theorem not_duplicateBacked (h : lostDecode opened = true) :
    ¬Throughout (LiveIngestionKept liveConfig wsjtxAdapterLimits) (lateSteps opened) := by
  unfold lostDecode at h
  simp only [Bool.and_eq_true, List.all_eq_true, Option.all_eq_true] at h
  obtain ⟨⟨hdecode, hduplicate⟩, hnothing⟩ := h
  obtain ⟨record, hrecord, hdisposition⟩ := (Option.any_eq_true _ _).1 hduplicate
  intro hkept
  have hbacked := (hkept [earlyDecode opened, lateStatus opened] (repeatedDecode opened) []
    rfl).duplicate
  obtain ⟨e, he, -, -, other, hother, hsome⟩ := hbacked "WSJT-X"
    ⟨isDecodeOf_of_any hdecode, record, hrecord, by simpa using hdisposition⟩
  have hmem : e ∈ [earlyDecode opened, lateStatus opened] := by
    unfold LiveStep.lifetimeBefore at he
    cases hgeneration : (repeatedDecode opened).after.generation? "WSJT-X" with
    | none => simp [hgeneration] at he
    | some generation =>
      simp only [hgeneration, Option.map_some, Option.getD_some] at he
      exact (List.rtakeWhile_suffix _ _).subset he
  have hnone := hnothing e hmem other hother
  simp [Option.isNone_iff_eq_none.1 hnone] at hsome

/-- A decode that comes before the first status is lost for good: when it is sent again it
is a duplicate of nothing. -/
theorem lateStatus_losesDecode : ∃ opened steps ingest,
    LiveWsjtxIngest.newWithLimits liveConfig wsjtxAdapterLimits = .ok opened ∧
      LiveRun listeningEnv id opened steps ingest ∧
      ¬Throughout (LiveIngestionKept liveConfig wsjtxAdapterLimits) steps := by
  obtain ⟨opened, hopened, hlost⟩ := exists_ok_of_any (show
    (LiveWsjtxIngest.newWithLimits liveConfig wsjtxAdapterLimits).toOption.any lostDecode = true by
      decide +kernel)
  exact ⟨opened, lateSteps opened, _, hopened, lateSteps_run opened,
    not_duplicateBacked opened hlost⟩

theorem lateSteps_iff : ∃ opened,
    LiveWsjtxIngest.newWithLimits liveConfig wsjtxAdapterLimits = .ok opened ∧
      (Throughout (LiveIngestionKept liveConfig wsjtxAdapterLimits) (lateSteps opened) ↔
        Throughout (RepeatsCreditable id) (lateSteps opened)) := by
  obtain ⟨opened, hopened, -⟩ := exists_ok_of_any (show
    (LiveWsjtxIngest.newWithLimits liveConfig wsjtxAdapterLimits).toOption.any (fun _ => true) =
      true by decide)
  exact ⟨opened, hopened, liveIngestion_iff listeningEnv id liveConfig wsjtxAdapterLimits opened _
    _ hopened (lateSteps_run opened)⟩

end Scenario

end AntennaBench
