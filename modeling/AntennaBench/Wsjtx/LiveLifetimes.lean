import AntennaBench.Timeline.Throughout
import AntennaBench.Wsjtx.LiveSteps

/-!
# Lifetimes of live clients

A run is every datagram a receiver took, in the order of receipt. The lifetime of a client
is the stretch of the run since its last close, timeout or eviction; the status and the
digests that are kept of a client are those of its lifetime.
-/

namespace AntennaBench

open Timeline

/-- A datagram with the receiver before and after it. -/
structure LiveStep where
  datagram : List UInt8
  receivedAt : DateTime
  before : LiveWsjtxIngest
  outcome : Except LiveIngestError LiveIngestOutcome
  after : LiveWsjtxIngest

def LiveWsjtxIngest.generation? (ingest : LiveWsjtxIngest) (clientId : String) : Option ℕ :=
  (ingest.clients.lookup clientId).map (·.state.generation)

namespace LiveStep

def recorded? (step : LiveStep) : Option LiveRecordedMessage :=
  match step.outcome with
  | .ok (.recorded record) => some record
  | _ => none

def message? (step : LiveStep) : Option WsjtxMessage :=
  (parseWsjtxDatagram step.datagram).toOption.map (·.message)

/-- The status the client reported with this step. -/
def status? (step : LiveStep) (clientId : String) : Option StatusMessage :=
  match step.recorded?, step.message? with
  | some _, some (.status message) => if message.clientId = clientId then some message else none
  | _, _ => none

def IsDecodeOf (step : LiveStep) (clientId : String) : Prop :=
  ∃ message, step.message? = some (.wsprDecode message) ∧ message.clientId = clientId

/-- The step turned a decode of the client into an observation. -/
def Produces (step : LiveStep) (clientId : String) : Prop :=
  step.IsDecodeOf clientId ∧ ∃ record, step.recorded? = some record ∧ record.observation.isSome

/-- The step rejected a decode of the client as a duplicate. -/
def IsDuplicate (step : LiveStep) (clientId : String) : Prop :=
  step.IsDecodeOf clientId ∧
    ∃ record, step.recorded? = some record ∧ record.disposition = .wsprDecode .duplicate

/-- The receiver answered with the gap that stopped it. -/
def ReportsGap (step : LiveStep) : Prop :=
  ∃ diagnostic, step.outcome = .error (.resource diagnostic)

end LiveStep

/-- The steps since the client entered its present generation. -/
def lifetime (clientId : String) (generation : ℕ) (steps : List LiveStep) : List LiveStep :=
  steps.rtakeWhile fun step => step.after.generation? clientId = some generation

def lastStatus (clientId : String) (steps : List LiveStep) : Option StatusMessage :=
  (steps.filterMap (·.status? clientId)).getLast?

section

variable (env : WsprLiveEnv) (sha256 : List UInt8 → List UInt8)

/-- The step from a datagram. -/
def liveStep (ingest : LiveWsjtxIngest) (datagram : List UInt8) (receivedAt : DateTime) :
    LiveStep :=
  let answer := ingest.ingestDatagram env sha256 datagram receivedAt
  ⟨datagram, receivedAt, ingest, answer.1, answer.2⟩

/-- The runs of a receiver: any datagrams, at nondecreasing times. -/
inductive LiveRun (opened : LiveWsjtxIngest) : List LiveStep → LiveWsjtxIngest → Prop
  | opened : LiveRun opened [] opened
  | ingest {steps : List LiveStep} {ingest : LiveWsjtxIngest} (datagram : List UInt8)
      (receivedAt : DateTime) :
      LiveRun opened steps ingest → (∀ step ∈ steps, step.receivedAt ≤ receivedAt) →
      LiveRun opened (steps ++ [liveStep env sha256 ingest datagram receivedAt])
        (liveStep env sha256 ingest datagram receivedAt).after

end

/-- What is kept of a client is what its lifetime left. -/
structure ClientKept (sha256 : List UInt8 → List UInt8) (limits : WsjtxAdapterLimits)
    (steps : List LiveStep) (clientId : String) (client : ClientRuntime) : Prop where
  status : client.state.status =
    lastStatus clientId (lifetime clientId client.state.generation steps)
  seen : ∀ step ∈ lifetime clientId client.state.generation steps, step.Produces clientId →
    (sha256 step.datagram, step.receivedAt) ∈ client.seenWsprDatagrams ∨
      ∃ later ∈ steps, step.receivedAt + .seconds limits.udpDedupWindowSeconds < later.receivedAt

variable {env : WsprLiveEnv} {sha256 : List UInt8 → List UInt8} {limits : WsjtxAdapterLimits}
  {steps : List LiveStep} {step : LiveStep} {clientId : String} {client next : ClientRuntime}

theorem lastStatus_concat (clientId : String) (steps : List LiveStep) (step : LiveStep) :
    lastStatus clientId (steps ++ [step]) =
      (step.status? clientId).or (lastStatus clientId steps) := by
  unfold lastStatus
  rw [List.filterMap_append, List.getLast?_append]
  cases h : step.status? clientId <;> simp [h]

theorem lifetime_concat {generation : ℕ}
    (h : step.after.generation? clientId = some generation) :
    lifetime clientId generation (steps ++ [step]) = lifetime clientId generation steps ++ [step] :=
  List.rtakeWhile_concat_pos _ _ _ (by simpa using h)

/-- A client that is new in the present state has no lifetime behind it. -/
theorem lifetime_eq_nil {generation : ℕ}
    (h : ∀ step ∈ steps.getLast?, step.after.generation? clientId ≠ some generation) :
    lifetime clientId generation steps = [] := by
  unfold lifetime
  rw [List.rtakeWhile_eq_nil_iff]
  intro hne
  simpa using h _ (List.getLast?_eq_some_getLast hne)

theorem ClientKept.of_new (h : lifetime clientId client.state.generation steps = [])
    (hstatus : client.state.status = none) : ClientKept sha256 limits steps clientId client := by
  constructor
  · rw [h, hstatus]
    rfl
  · rw [h]
    simp

/-- The client goes on through a step with what the step says of it. -/
structure GoesOn (sha256 : List UInt8 → List UInt8) (limits : WsjtxAdapterLimits)
    (step : LiveStep) (clientId : String) (client next : ClientRuntime) : Prop where
  generation : next.state.generation = client.state.generation
  status : next.state.status = (step.status? clientId).or client.state.status
  seen : ∀ entry ∈ client.seenWsprDatagrams, entry ∈ next.seenWsprDatagrams ∨
    entry.2 + .seconds limits.udpDedupWindowSeconds < step.receivedAt
  produced : step.Produces clientId →
    (sha256 step.datagram, step.receivedAt) ∈ next.seenWsprDatagrams

theorem ClientKept.goOn (h : ClientKept sha256 limits steps clientId client)
    (hlookup : step.after.clients.lookup clientId = some next)
    (hnext : GoesOn sha256 limits step clientId client next) :
    ClientKept sha256 limits (steps ++ [step]) clientId next := by
  have hlifetime : lifetime clientId next.state.generation (steps ++ [step]) =
      lifetime clientId client.state.generation steps ++ [step] := by
    rw [lifetime_concat, hnext.generation]
    simp [LiveWsjtxIngest.generation?, hlookup]
  constructor
  · rw [hlifetime, lastStatus_concat, hnext.status, h.status]
  · rw [hlifetime]
    intro earlier hearlier hproduces
    rcases List.mem_append.1 hearlier with hearlier | hearlier
    · rcases h.seen earlier hearlier hproduces with hmem | ⟨later, hlater, hlt⟩
      · rcases hnext.seen _ hmem with hmem | hlt
        · exact .inl hmem
        · exact .inr ⟨step, by simp, hlt⟩
      · exact .inr ⟨later, by simp [hlater], hlt⟩
    · obtain rfl := List.mem_singleton.1 hearlier
      exact .inl (hnext.produced hproduces)

/-- A client a step does not speak of goes on unchanged. -/
theorem GoesOn.of_silent (hstatus : step.status? clientId = none)
    (hproduces : ¬step.Produces clientId) : GoesOn sha256 limits step clientId client client where
  generation := rfl
  status := by simp [hstatus]
  seen := fun _ h => .inl h
  produced := fun h => absurd h hproduces

/-- What a run keeps: the receiver as it was opened, each client with its lifetime, and the
sequence numbers that were given away. -/
structure RunKept (sha256 : List UInt8 → List UInt8) (opened : LiveWsjtxIngest)
    (steps : List LiveStep) (ingest : LiveWsjtxIngest) : Prop where
  same : opened.SameReceiver ingest
  last : ∀ step ∈ steps.getLast?, step.after = ingest
  clients : ∀ clientId client, ingest.clients.lookup clientId = some client →
    ClientKept sha256 opened.limits steps clientId client
  sequence : ∀ step ∈ steps, step.recorded?.isSome →
    step.before.nextSequence < ingest.nextSequence
  gap : ∀ step ∈ steps, step.ReportsGap → ingest.gap.isSome

variable {opened ingest found : LiveWsjtxIngest} {datagram : List UInt8}
  {receivedAt : DateTime} {parsed : ParsedDatagram}

theorem RunKept.lifetime_eq_nil (h : RunKept sha256 opened steps ingest) {generation : ℕ}
    (hnew : ingest.generation? clientId ≠ some generation) :
    lifetime clientId generation steps = [] := by
  apply AntennaBench.lifetime_eq_nil
  intro step hstep
  rw [h.last step hstep]
  exact hnew

theorem touch_timeout (schema : ℕ)
    (h : .seconds clientRestartTimeoutSeconds < receivedAt - client.state.lastSeenAt) :
    (client.touch schema receivedAt).state.generation = client.state.generation + 1 ∧
      (client.touch schema receivedAt).state.status = none := by
  simp [ClientRuntime.touch, h]

theorem touch_goesOn (schema : ℕ)
    (h : ¬.seconds clientRestartTimeoutSeconds < receivedAt - client.state.lastSeenAt) :
    (client.touch schema receivedAt).state.generation = client.state.generation ∧
      (client.touch schema receivedAt).state.status = client.state.status ∧
      (client.touch schema receivedAt).seenWsprDatagrams = client.seenWsprDatagrams := by
  simp [ClientRuntime.touch, h]

/-- The client as a datagram finds it is kept with its lifetime so far, which is empty after
a timeout. -/
theorem RunKept.touched (h : RunKept sha256 opened steps ingest) (clientId : String)
    (schema : ℕ) (receivedAt : DateTime) :
    ClientKept sha256 opened.limits steps clientId
      (touched ingest.clients clientId schema receivedAt) := by
  unfold AntennaBench.touched
  cases hlookup : ingest.clients.lookup clientId with
  | none =>
    apply ClientKept.of_new
    · apply h.lifetime_eq_nil
      simp [LiveWsjtxIngest.generation?, hlookup]
    · rfl
  | some client =>
    dsimp only
    by_cases htimeout : .seconds clientRestartTimeoutSeconds <
        receivedAt - client.state.lastSeenAt
    · obtain ⟨hgeneration, hstatus⟩ := touch_timeout schema htimeout
      apply ClientKept.of_new
      · rw [hgeneration]
        apply h.lifetime_eq_nil
        simp [LiveWsjtxIngest.generation?, hlookup]
      · exact hstatus
    · obtain ⟨hgeneration, hstatus, hseen⟩ := touch_goesOn schema htimeout
      have hkept := h.clients clientId client hlookup
      constructor
      · rw [hgeneration, hstatus, hkept.status]
      · rw [hgeneration, hseen]
        exact hkept.seen

theorem mem_window (client : ClientRuntime) (limits : WsjtxAdapterLimits) (receivedAt : DateTime)
    {entry : List UInt8 × DateTime} (h : entry ∈ client.seenWsprDatagrams) :
    entry ∈ client.window limits receivedAt ∨
      entry.2 + .seconds limits.udpDedupWindowSeconds < receivedAt := by
  unfold ClientRuntime.window
  rw [← List.takeWhile_append_dropWhile (p := fun entry : List UInt8 × DateTime =>
    decide (entry.2 < receivedAt - .seconds limits.udpDedupWindowSeconds))
    (l := client.seenWsprDatagrams)] at h
  rcases List.mem_append.1 h with h | h
  · have hold := List.mem_takeWhile_imp h
    simp only [decide_eq_true_eq] at hold
    exact .inr (lt_sub_iff_add_lt.1 hold)
  · exact .inl h

theorem mem_remember_of_mem_window {limits : WsjtxAdapterLimits} {fingerprint : List UInt8}
    {entry : List UInt8 × DateTime} (h : entry ∈ client.window limits receivedAt) :
    entry ∈ (client.remember limits fingerprint receivedAt).seenWsprDatagrams := by
  unfold ClientRuntime.remember
  dsimp only
  split_ifs
  · exact h
  · exact List.mem_append_left _ h

theorem mem_remember_self {limits : WsjtxAdapterLimits} {fingerprint : List UInt8}
    (h : (client.window limits receivedAt).any (·.1 == fingerprint) = false) :
    (fingerprint, receivedAt) ∈
      (client.remember limits fingerprint receivedAt).seenWsprDatagrams := by
  unfold ClientRuntime.remember
  simp [h]

namespace LiveWsjtxIngest

@[simp] theorem withClient_lookup_self (ingest : LiveWsjtxIngest) (clientId : String)
    (client : ClientRuntime) :
    (ingest.withClient clientId client).clients.lookup clientId = some client :=
  AList.lookup_insert _

theorem withClient_lookup_ne (ingest : LiveWsjtxIngest) {clientId other : String}
    (client : ClientRuntime) (h : other ≠ clientId) :
    (ingest.withClient clientId client).clients.lookup other = ingest.clients.lookup other :=
  AList.lookup_insert_ne h

/-- A decode that is credited was not in the window. -/
theorem judgeDecode_ok {duplicate : Bool} {status : Option StatusMessage}
    {message : WsprDecodeMessage} {fields : CreditedFields}
    (h : ingest.judgeDecode duplicate status message = .ok fields) :
    message.isNew = true ∧ message.offAir = false ∧ duplicate = false ∧
      ingest.credit status message = .ok fields := by
  simp only [judgeDecode, bind_eq_ok, failIf_eq_ok] at h
  obtain ⟨-, hnew, -, hair, -, hduplicate, h⟩ := h
  exact ⟨by simpa using hnew, hair, hduplicate, h⟩

theorem Answer.others (h : Answer sha256 found client parsed datagram receivedAt
      (step.outcome, step.after)) {other : String} (hother : other ≠ parsed.message.clientId) :
    step.after.clients.lookup other = found.clients.lookup other := by
  generalize hresult : (step.outcome, step.after) = result at h
  have hafter : step.after = result.2 := by rw [← hresult]
  rw [hafter]
  cases h with
  | heartbeat message record isMessage =>
    rw [isMessage] at hother
    exact withClient_lookup_ne _ _ hother
  | status message record isMessage =>
    rw [isMessage] at hother
    exact withClient_lookup_ne _ _ hother
  | close message record isMessage =>
    rw [isMessage] at hother
    exact AList.lookup_erase_ne hother
  | stopped message diagnostic next isMessage same =>
    rw [isMessage] at hother
    rw [same.clients]
    exact withClient_lookup_ne _ _ hother
  | refused message disposition record isMessage =>
    rw [isMessage] at hother
    exact withClient_lookup_ne _ _ hother
  | produced message fields record observation isMessage =>
    rw [isMessage] at hother
    exact withClient_lookup_ne _ _ hother

end LiveWsjtxIngest

theorem LiveStep.status?_of_message {message : WsjtxMessage}
    (hmessage : step.message? = some message)
    (hother : ∀ status, message = .status status → status.clientId ≠ clientId) :
    step.status? clientId = none := by
  unfold LiveStep.status?
  rw [hmessage]
  cases message with
  | status status =>
    cases step.recorded? with
    | none => rfl
    | some record => simp [hother status rfl]
  | _ => cases step.recorded? <;> rfl

theorem LiveStep.not_produces_of_observation {record : LiveRecordedMessage}
    (hrecorded : step.recorded? = some record) (hobservation : record.observation = none) :
    ¬step.Produces clientId := by
  rintro ⟨-, other, hother, hsome⟩
  rw [hrecorded] at hother
  obtain rfl := Option.some.inj hother
  simp [hobservation] at hsome

open LiveWsjtxIngest in
/-- The client a message is heard from is gone after a close, and else goes on. -/
theorem LiveWsjtxIngest.Answer.goesOn
    (h : Answer sha256 found client parsed step.datagram step.receivedAt (step.outcome, step.after))
    (hmessage : step.message? = some parsed.message)
    (hnext : step.after.clients.lookup parsed.message.clientId = some next) :
    GoesOn sha256 found.limits step parsed.message.clientId client next := by
  generalize hresult : (step.outcome, step.after) = result at h
  have hafter : step.after = result.2 := by rw [← hresult]
  have houtcome : step.outcome = result.1 := by rw [← hresult]
  rw [hafter] at hnext
  cases h with
  | heartbeat message record isMessage recordId observation =>
    have hrecorded : step.recorded? = some record := by simp [LiveStep.recorded?, houtcome]
    rw [isMessage] at hnext hmessage ⊢
    obtain rfl := Option.some.inj ((withClient_lookup_self _ _ _).symm.trans hnext)
    exact {
      generation := rfl
      status := by
        rw [LiveStep.status?_of_message hmessage (fun _ h => by cases h)]
        rfl
      seen := fun _ h => .inl h
      produced := fun h => absurd h (LiveStep.not_produces_of_observation hrecorded observation) }
  | status message record isMessage recordId observation =>
    have hrecorded : step.recorded? = some record := by simp [LiveStep.recorded?, houtcome]
    rw [isMessage] at hnext hmessage ⊢
    obtain rfl := Option.some.inj ((withClient_lookup_self _ _ _).symm.trans hnext)
    exact {
      generation := rfl
      status := by simp [LiveStep.status?, hrecorded, hmessage, ClientRuntime.status,
        WsjtxMessage.clientId]
      seen := fun _ h => .inl h
      produced := fun h => absurd h (LiveStep.not_produces_of_observation hrecorded observation) }
  | close message record isMessage =>
    rw [isMessage] at hnext
    have hgone := AList.lookup_erase message.clientId found.clients
    exact absurd (hgone.symm.trans hnext) (by simp)
  | stopped message diagnostic stopped isMessage same =>
    have hrecorded : step.recorded? = none := by simp [LiveStep.recorded?, houtcome]
    rw [isMessage] at hnext hmessage ⊢
    rw [same.clients] at hnext
    obtain rfl := Option.some.inj ((withClient_lookup_self _ _ _).symm.trans hnext)
    exact {
      generation := rfl
      status := by
        rw [LiveStep.status?_of_message hmessage (fun _ h => by cases h)]
        rfl
      seen := fun _ h => mem_window client found.limits step.receivedAt h
      produced := by
        rintro ⟨-, record, hrecord, -⟩
        simp [hrecorded] at hrecord }
  | refused message disposition record isMessage judged recordId observation =>
    have hrecorded : step.recorded? = some record := by simp [LiveStep.recorded?, houtcome]
    rw [isMessage] at hnext hmessage ⊢
    obtain rfl := Option.some.inj ((withClient_lookup_self _ _ _).symm.trans hnext)
    exact {
      generation := rfl
      status := by
        rw [LiveStep.status?_of_message hmessage (fun _ h => by cases h)]
        rfl
      seen := fun _ h =>
        (mem_window client found.limits step.receivedAt h).imp_left mem_remember_of_mem_window
      produced := fun h => absurd h (LiveStep.not_produces_of_observation hrecorded observation) }
  | produced message fields record observation isMessage judged =>
    rw [isMessage] at hnext hmessage ⊢
    obtain rfl := Option.some.inj ((withClient_lookup_self _ _ _).symm.trans hnext)
    exact {
      generation := rfl
      status := by
        rw [LiveStep.status?_of_message hmessage (fun _ h => by cases h)]
        rfl
      seen := fun _ h =>
        (mem_window client found.limits step.receivedAt h).imp_left mem_remember_of_mem_window
      produced := fun _ => mem_remember_self (judgeDecode_ok judged).2.2.1 }

namespace LiveWsjtxIngest

theorem SameReceiver.trans {a b c : LiveWsjtxIngest} (h : SameReceiver a b)
    (h' : SameReceiver b c) : SameReceiver a c :=
  ⟨h'.1.trans h.1, h'.2.trans h.2, h'.3.trans h.3, h'.4.trans h.4⟩

theorem Answer.same
    (h : Answer sha256 found client parsed datagram receivedAt (step.outcome, step.after)) :
    SameReceiver found step.after ∧ step.after.nextSequence = found.nextSequence + 1 := by
  generalize hresult : (step.outcome, step.after) = result at h
  have hafter : step.after = result.2 := by rw [← hresult]
  rw [hafter]
  cases h with
  | stopped message diagnostic next isMessage same =>
    have hfound : SameReceiver found (found.numbered.withClient message.clientId
        { client with seenWsprDatagrams := client.window found.limits receivedAt }) :=
      ⟨rfl, rfl, rfl, rfl⟩
    change SameReceiver found next ∧ next.nextSequence = _
    exact ⟨hfound.trans same.toSameReceiver, same.nextSequence⟩
  | _ => exact ⟨⟨rfl, rfl, rfl, rfl⟩, rfl⟩

theorem Answer.gap_of_error {error : LiveIngestError}
    (h : Answer sha256 found client parsed datagram receivedAt (step.outcome, step.after))
    (herror : step.outcome = .error error) : step.after.gap.isSome := by
  generalize hresult : (step.outcome, step.after) = result at h
  have hafter : step.after = result.2 := by rw [← hresult]
  have houtcome : result.1 = .error error := by rw [← hresult, herror]
  rw [hafter]
  cases h with
  | stopped message diagnostic next isMessage same gap => exact gap
  | _ => cases houtcome

end LiveWsjtxIngest

/-- Whether the datagram of a step was heard, and what then is known of the step. -/
inductive StepCase (sha256 : List UInt8 → List UInt8) (step : LiveStep) : Prop where
  | unheard (heard : step.before.hears step.datagram step.receivedAt = none)
      (unheard : step.before.Unheard (step.outcome, step.after))
  | heard (parsed : ParsedDatagram) (found : LiveWsjtxIngest)
      (hears : step.before.hears step.datagram step.receivedAt = some (parsed, found))
      (heard : step.before.Heard step.datagram step.receivedAt parsed found)
      (answer : found.Answer sha256
        (touched step.before.clients parsed.message.clientId parsed.schema step.receivedAt)
        parsed step.datagram step.receivedAt (step.outcome, step.after))

theorem liveStep_case (env : WsprLiveEnv) (sha256 : List UInt8 → List UInt8)
    (ingest : LiveWsjtxIngest) (datagram : List UInt8) (receivedAt : DateTime) :
    StepCase sha256 (liveStep env sha256 ingest datagram receivedAt) := by
  cases hhears : ingest.hears datagram receivedAt with
  | none => exact .unheard hhears (LiveWsjtxIngest.hears_eq_none hhears)
  | some answer =>
    obtain ⟨parsed, found⟩ := answer
    obtain ⟨hheard, heq⟩ := LiveWsjtxIngest.hears_eq_some hhears
    refine .heard parsed found hhears hheard ?_
    change found.Answer sha256 _ parsed datagram receivedAt
      (ingest.ingestDatagram env sha256 datagram receivedAt)
    rw [heq env sha256]
    exact LiveWsjtxIngest.record_answer hheard.supported

theorem LiveStep.message?_of_heard
    (h : step.before.Heard step.datagram step.receivedAt parsed found) :
    step.message? = some parsed.message := by
  simp [LiveStep.message?, h.parses, Except.toOption]

theorem LiveStep.recorded?_of_unheard (h : step.before.Unheard (step.outcome, step.after)) :
    step.recorded? = none := by
  unfold LiveStep.recorded?
  split
  · rename_i record hrecord
    exact absurd hrecord (h.unrecorded record)
  · rfl

theorem RunKept.concat (h : RunKept sha256 opened steps step.before)
    (hcase : StepCase sha256 step) : RunKept sha256 opened (steps ++ [step]) step.after := by
  have hlast : ∀ last ∈ (steps ++ [step]).getLast?, last.after = step.after := by
    simp
  cases hcase with
  | unheard hears unheard =>
    have hrecorded := LiveStep.recorded?_of_unheard unheard
    have hsame := unheard.untouched
    refine ⟨h.same.trans hsame.toSameReceiver, hlast, ?_, ?_, ?_⟩
    · intro clientId client hclient
      have hbefore : step.before.clients.lookup clientId = some client := by
        rw [← hclient]
        exact congrArg _ hsame.clients.symm
      refine (h.clients clientId client hbefore).goOn hclient (.of_silent ?_ ?_)
      · simp [LiveStep.status?, hrecorded]
      · rintro ⟨-, record, hrecord, -⟩
        simp [hrecorded] at hrecord
    · have hsequence : step.after.nextSequence = step.before.nextSequence := hsame.nextSequence
      intro earlier hearlier hsome
      rw [hsequence]
      rcases List.mem_append.1 hearlier with hearlier | hearlier
      · exact h.sequence earlier hearlier hsome
      · obtain rfl := List.mem_singleton.1 hearlier
        simp [hrecorded] at hsome
    · rintro earlier hearlier ⟨diagnostic, hreports⟩
      rcases List.mem_append.1 hearlier with hearlier | hearlier
      · have hgap := h.gap earlier hearlier ⟨diagnostic, hreports⟩
        have hstopped : step.after = step.before := unheard.stopped hgap
        rw [hstopped]
        exact hgap
      · obtain rfl := List.mem_singleton.1 hearlier
        exact unheard.gap diagnostic hreports
  | heard parsed found hears heard answer =>
    have hmessage := LiveStep.message?_of_heard heard
    obtain ⟨hsame, hsequence⟩ := answer.same
    have hlimits : found.limits = opened.limits := heard.same.limits.trans h.same.limits
    refine ⟨(h.same.trans heard.same).trans hsame, hlast, ?_, ?_, ?_⟩
    · intro clientId client hclient
      by_cases hid : clientId = parsed.message.clientId
      · subst hid
        rw [← hlimits]
        have htouched := h.touched parsed.message.clientId parsed.schema step.receivedAt
        rw [← hlimits] at htouched
        exact htouched.goOn hclient (answer.goesOn hmessage hclient)
      · have hfound := (answer.others hid).symm.trans hclient
        have hbefore : step.before.clients.lookup clientId = some client := by
          rcases heard.others clientId hid with hother | hother
          · exact hother.symm.trans hfound
          · simp [hother] at hfound
        refine (h.clients clientId client hbefore).goOn hclient (.of_silent ?_ ?_)
        · apply LiveStep.status?_of_message hmessage
          rintro status hstatus rfl
          rw [hstatus] at hid
          exact hid rfl
        · rintro ⟨⟨message, hdecode, rfl⟩, -⟩
          rw [hmessage] at hdecode
          rw [Option.some.inj hdecode] at hid
          exact hid rfl
    · intro earlier hearlier hsome
      rw [hsequence, heard.nextSequence]
      rcases List.mem_append.1 hearlier with hearlier | hearlier
      · have hlt := h.sequence earlier hearlier hsome
        omega
      · obtain rfl := List.mem_singleton.1 hearlier
        omega
    · rintro earlier hearlier ⟨diagnostic, hreports⟩
      rcases List.mem_append.1 hearlier with hearlier | hearlier
      · have hgap := h.gap earlier hearlier ⟨diagnostic, hreports⟩
        simp [heard.gap] at hgap
      · obtain rfl := List.mem_singleton.1 hearlier
        exact answer.gap_of_error hreports

theorem LiveRun.kept (h : LiveRun env sha256 opened steps ingest)
    (hopened : opened.clients = ∅) : RunKept sha256 opened steps ingest := by
  induction h with
  | opened =>
    refine ⟨.refl opened, by simp, ?_, by simp, by simp⟩
    rw [hopened]
    intro clientId client hclient
    simp at hclient
  | ingest datagram receivedAt _ _ ih => exact ih.concat (liveStep_case _ _ _ _ _)

/-- What a run says of each of its steps: the run before it is kept, the step is one of the
receiver, and it is not earlier than the steps before it. -/
structure StepKept (sha256 : List UInt8 → List UInt8) (opened : LiveWsjtxIngest)
    (earlier : List LiveStep) (step : LiveStep) : Prop where
  run : RunKept sha256 opened earlier step.before
  case : StepCase sha256 step
  time : ∀ e ∈ earlier, e.receivedAt ≤ step.receivedAt

theorem LiveRun.throughout (h : LiveRun env sha256 opened steps ingest)
    (hopened : opened.clients = ∅) : Throughout (StepKept sha256 opened) steps := by
  induction h with
  | opened => exact throughout_nil
  | ingest datagram receivedAt hrun htime ih =>
    exact throughout_concat.2 ⟨ih, hrun.kept hopened, liveStep_case _ _ _ _ _, htime⟩

end AntennaBench
