import AntennaBench.Core.ArmedCycles

/-!
# Continued readiness in a bundle

What `validate_continued_readiness` asks of an event in terms of the events before it, and that
an event at the end changes nothing for the ones before.
-/

namespace AntennaBench

open AntennaControl

/-- Two intentions need the same antenna, direction, band and signal. -/
structure WsprCycleIntentV3.SameSetup (a b : WsprCycleIntentV3) : Prop where
  antennaLabel : a.antennaLabel = b.antennaLabel
  direction : a.direction = b.direction
  band : a.band = b.band
  signal : a.signal = b.signal

theorem WsprCycleIntentV3.SameSetup.symm {a b : WsprCycleIntentV3} (h : a.SameSetup b) :
    b.SameSetup a :=
  ⟨h.antennaLabel.symm, h.direction.symm, h.band.symm, h.signal.symm⟩

theorem WsprCycleIntentV3.SameSetup.trans {a b c : WsprCycleIntentV3} (h : a.SameSetup b)
    (h' : b.SameSetup c) : a.SameSetup c :=
  ⟨h.antennaLabel.trans h'.antennaLabel, h.direction.trans h'.direction, h.band.trans h'.band,
    h.signal.trans h'.signal⟩

/-- The intention an event is about. -/
def ScheduleV3.intentOf? (schedule : ScheduleV3) (event : OperatorEventV3) :
    Option WsprCycleIntentV3 :=
  event.slotId.bind schedule.findIntent?

/-- The readiness of an earlier event still holds for this one. -/
structure HoldsReadiness (schedule : ScheduleV3) (prior : List OperatorEventV3)
    (source event : OperatorEventV3) (antennaLabel : String) : Prop where
  held : ∃ before between, prior = before ++ source :: between ∧
    ∀ candidate ∈ between, endsReadiness candidate.payload = false
  original : source.continuedSource? = none
  setup : ∃ sourceIntent intent, schedule.intentOf? source = some sourceIntent ∧
    schedule.intentOf? event = some intent ∧ sourceIntent.SameSetup intent
  armed : ∃ startsAt readiness window,
    source.payload = .wsprCycleArmed antennaLabel startsAt readiness ∧
      WsprCycleWindow.fromStart? startsAt = some window ∧
      window.transmissionEndsAt ≤ event.occurredAt
  latest : ∃ window, prior.reverse.findSome? armedWindow? = some window ∧
    window.transmissionEndsAt ≤ event.occurredAt

theorem findIdx?_of_nodup {α κ : Type} [BEq κ] [LawfulBEq κ] {key : α → κ}
    {before after : List α} {a : α} (h : ((before ++ a :: after).map key).Nodup) :
    (before ++ a :: after).findIdx? (key · == key a) = some before.length := by
  have hnone : before.findIdx? (key · == key a) = none := by
    rw [List.findIdx?_eq_none_iff]
    intro b hb
    rw [List.map_append, List.map_cons, List.nodup_append] at h
    rw [beq_eq_false_iff_ne]
    exact h.2.2 _ (List.mem_map_of_mem hb) _ List.mem_cons_self
  rw [List.findIdx?_append, hnone, List.findIdx?_cons]
  simp

variable {bundle : BundleV3Contents} {prior later : List OperatorEventV3}
  {event : OperatorEventV3} {antennaLabel sourceId : String}

theorem findIdx?_event (hevents : bundle.events = prior ++ event :: later)
    (hnodup : (bundle.events.map (·.eventId)).Nodup) :
    bundle.events.findIdx? (·.eventId == event.eventId) = some prior.length := by
  rw [hevents] at hnodup ⊢
  exact findIdx?_of_nodup hnodup

theorem getElem?_prior (hevents : bundle.events = prior ++ event :: later) {index : ℕ}
    (hlt : index < prior.length) : bundle.events[index]? = prior[index]? := by
  rw [hevents, List.getElem?_append_left hlt]

theorem holdsReadiness_of_ok (hevents : bundle.events = prior ++ event :: later)
    (hnodup : (bundle.events.map (·.eventId)).Nodup)
    (h : validateContinuedReadiness bundle event antennaLabel sourceId = .ok ()) :
    schemaVersionV6 ≤ bundle.manifest.schemaVersion ∧ ∃ source, source.eventId = sourceId ∧
      HoldsReadiness bundle.schedule prior source event antennaLabel := by
  have hprior : bundle.events.take prior.length = prior := by
    rw [hevents, List.take_left]
  unfold validateContinuedReadiness at h
  simp only [findIdx?_event hevents hnodup, hprior, orError_some, ok_bind, bind_eq_ok,
    failIf_eq_ok, orError_eq_ok, decide_eq_false_iff_not, not_lt, not_le] at h
  obtain ⟨_, hschema, sourceIndex, hindex, _, hlt, source, hsource, hmatch⟩ := h
  rw [getElem?_prior hevents hlt] at hsource
  obtain ⟨hbound, hid, -⟩ := List.findIdx?_eq_some_iff_getElem.1 hindex
  obtain ⟨_, hat⟩ := List.getElem?_eq_some_iff.1 hsource
  have hsame := getElem?_prior hevents hlt
  rw [hsource, List.getElem?_eq_getElem hbound] at hsame
  obtain rfl : bundle.events[sourceIndex] = source := Option.some.inj hsame
  refine ⟨hschema, _, by simpa using hid, ?_⟩
  have hsplit : prior = prior.take sourceIndex ++
      bundle.events[sourceIndex] :: prior.drop (sourceIndex + 1) := by
    rw [← hat, ← List.drop_eq_getElem_cons hlt, List.take_append_drop]
  generalize bundle.events[sourceIndex] = source at hmatch hsplit
  cases hpayload : source.payload with
  | wsprCycleArmed sourceAntenna startsAt readiness =>
    rw [hpayload] at hmatch
    simp only [bind_eq_ok, failIf_eq_ok, orError_eq_ok] at hmatch
    obtain ⟨_, horiginal, _, hantenna, sourceIntentId, hsourceSlot, intentId, hslot,
      sourceIntent, hsourceIntent, intent, hintent, _, hsetup, sourceWindow, hwindow, _, hends,
      latest, hlatest, _, hlatestEnds, hheld⟩ := hmatch
    obtain rfl : sourceAntenna = antennaLabel := by simpa using hantenna
    simp only [Bool.or_eq_false_iff, bne_eq_false_iff_eq] at hsetup
    obtain ⟨⟨⟨hlabel, hdirection⟩, hband⟩, hsignal⟩ := hsetup
    constructor
    · refine ⟨_, _, hsplit, ?_⟩
      intro candidate hcandidate
      simpa using List.any_eq_false.1 hheld candidate hcandidate
    · unfold OperatorEventV3.continuedSource?
      rw [hpayload]
      revert horiginal
      cases readiness with
      | none => simp
      | some basis => cases basis <;> simp
    · refine ⟨sourceIntent, intent, ?_, ?_, hlabel, hdirection, hband, hsignal⟩
      · rw [ScheduleV3.intentOf?, hsourceSlot]
        exact hsourceIntent
      · rw [ScheduleV3.intentOf?, hslot]
        exact hintent
    · exact ⟨startsAt, readiness, sourceWindow, hpayload, hwindow, by simpa using hends⟩
    · exact ⟨latest, hlatest, by simpa using hlatestEnds⟩
  | _ =>
    rw [hpayload] at hmatch
    cases hmatch

theorem ok_of_holdsReadiness (hevents : bundle.events = prior ++ event :: later)
    (hnodup : (bundle.events.map (·.eventId)).Nodup)
    (hschema : schemaVersionV6 ≤ bundle.manifest.schemaVersion) {source : OperatorEventV3}
    (h : HoldsReadiness bundle.schedule prior source event antennaLabel) :
    validateContinuedReadiness bundle event antennaLabel source.eventId = .ok () := by
  obtain ⟨before, between, rfl, hheld⟩ := h.held
  have hprior : bundle.events.take (before ++ source :: between).length =
      before ++ source :: between := by
    rw [hevents, List.take_left]
  have hsplit : bundle.events = before ++ source :: (between ++ event :: later) := by
    rw [hevents, List.append_assoc, List.cons_append]
  have hindex := findIdx?_event hsplit hnodup
  have hlt : before.length < (before ++ source :: between).length := by
    rw [List.length_append, List.length_cons]
    omega
  have hsource : bundle.events[before.length]? = some source := by
    rw [getElem?_prior hevents hlt, List.getElem?_append_right le_rfl, Nat.sub_self]
    rfl
  have hdrop : (before ++ source :: between).drop (before.length + 1) = between := by
    rw [← List.drop_drop, List.drop_left]
    rfl
  obtain ⟨startsAt, readiness, sourceWindow, hpayload, hwindow, hends⟩ := h.armed
  obtain ⟨sourceIntent, intent, hsourceIntent, hintent, hsetup⟩ := h.setup
  obtain ⟨sourceIntentId, hsourceSlot, hsourceKnown⟩ := Option.bind_eq_some_iff.1 hsourceIntent
  obtain ⟨intentId, hslot, hknown⟩ := Option.bind_eq_some_iff.1 hintent
  obtain ⟨latest, hlatest, hlatestEnds⟩ := h.latest
  have horiginal := h.original
  unfold OperatorEventV3.continuedSource? at horiginal
  unfold validateContinuedReadiness
  simp only [findIdx?_event hevents hnodup, hprior, orError_some, ok_bind, bind_eq_ok,
    failIf_eq_ok, orError_eq_ok, decide_eq_false_iff_not, not_lt, not_le]
  refine ⟨(), hschema, before.length, hindex, (), hlt, source, hsource, ?_⟩
  rw [hpayload] at horiginal ⊢
  simp only [bind_eq_ok, failIf_eq_ok, orError_eq_ok, hdrop]
  refine ⟨(), ?_, (), by simp, sourceIntentId, hsourceSlot, intentId, hslot, sourceIntent,
    hsourceKnown, intent, hknown, (), ?_, sourceWindow, hwindow, (), by simpa using hends, latest,
    hlatest, (), by simpa using hlatestEnds, ?_⟩
  · revert horiginal
    cases readiness with
    | none => simp
    | some basis => cases basis <;> simp
  · simp [hsetup.antennaLabel, hsetup.direction, hsetup.band, hsetup.signal]
  · rw [List.any_eq_false]
    intro candidate hcandidate
    simp [hheld candidate hcandidate]

theorem foldlM_mem {ε α β : Type} {f : β → α → Except ε β} {items : List α} {s t : β}
    (h : items.foldlM f s = .ok t) {a : α} (ha : a ∈ items) : ∃ u v, f u a = .ok v := by
  induction items generalizing s with
  | nil => cases ha
  | cons first rest ih =>
    rw [List.foldlM_cons, bind_eq_ok] at h
    obtain ⟨u, hu, hrest⟩ := h
    rcases List.mem_cons.1 ha with rfl | hmem
    · exact ⟨s, u, hu⟩
    · exact ih hrest hmem

theorem validateContinuedReadiness_of_valid {base64Length : String → Option ℕ}
    (h : validateAntennaControlV5 base64Length bundle = .ok ()) (hevent : event ∈ bundle.events)
    {startsAt : DateTime}
    (hpayload : event.payload =
      .wsprCycleArmed antennaLabel startsAt (some (.continued sourceId))) :
    validateContinuedReadiness bundle event antennaLabel sourceId = .ok () := by
  unfold validateAntennaControlV5 at h
  split_ifs at h with hold
  · rw [failIf_eq_ok] at h
    simp only [hasAntennaControlFields, Bool.or_eq_false_iff, List.any_eq_false] at h
    have hnone := h.2 event hevent
    simp [hpayload] at hnone
  · simp only [bind_eq_ok, pure_eq_ok] at h
    obtain ⟨_, -, _, -, _, -, referenced, hfold, -⟩ := h
    obtain ⟨before, after, hstep⟩ := foldlM_mem hfold hevent
    simp only [validateReadiness, hpayload, bind_eq_ok] at hstep
    obtain ⟨_, hcontinued, -⟩ := hstep
    exact hcontinued

/-- The candidate has one more event than the bundle, and the same plan and rig records. -/
structure AppendsEvent (bundle candidate : BundleV3Contents) (event : OperatorEventV3) : Prop where
  manifest : candidate.manifest = bundle.manifest
  station : candidate.station = bundle.station
  antennas : candidate.antennas = bundle.antennas
  schedule : candidate.schedule = bundle.schedule
  rig : candidate.rig = bundle.rig
  events : candidate.events = bundle.events ++ [event]

namespace AppendsEvent

variable {candidate : BundleV3Contents} {added : OperatorEventV3}

theorem commandVerified (h : AppendsEvent bundle candidate added) (event : OperatorEventV3)
    (antennaLabel switchRecordId verificationRecordId : String) :
    validateCommandVerified candidate event antennaLabel switchRecordId verificationRecordId =
      validateCommandVerified bundle event antennaLabel switchRecordId verificationRecordId := by
  simp only [validateCommandVerified, referencedInvocation, validateVerifiedRecord, h.manifest,
    h.station, h.schedule, h.rig]

theorem invocation (h : AppendsEvent bundle candidate added) (base64Length : String → Option ℕ)
    (record : RigRecordV3) (invocation : AntennaControlInvocationV5) :
    validateInvocationV5 base64Length record invocation candidate =
      validateInvocationV5 base64Length record invocation bundle := by
  simp only [validateInvocationV5, invalidBoundedInvocation, contextMismatch, h.manifest,
    h.station, h.schedule]

/-- The events before the added one pass as before. -/
theorem readiness (h : AppendsEvent bundle candidate added)
    (hnodup : (candidate.events.map (·.eventId)).Nodup) (hevent : event ∈ bundle.events)
    {referenced next : List String}
    (hstep : validateReadiness bundle referenced event = .ok next) :
    validateReadiness candidate referenced event = .ok next := by
  obtain ⟨prior, later, hsplit⟩ := List.append_of_mem hevent
  have hsplit' : candidate.events = prior ++ event :: (later ++ [added]) := by
    rw [h.events, hsplit, List.append_assoc, List.cons_append]
  have hnodup' : (bundle.events.map (·.eventId)).Nodup := by
    rw [h.events, List.map_append] at hnodup
    exact (List.nodup_append.1 hnodup).1
  unfold validateReadiness at hstep ⊢
  split at hstep
  · cases hstep
  · rw [bind_eq_ok] at hstep
    obtain ⟨_, hcontinued, hnext⟩ := hstep
    obtain ⟨hschema, source, rfl, hholds⟩ := holdsReadiness_of_ok hsplit hnodup' hcontinued
    rw [← h.schedule] at hholds
    rw [← h.manifest] at hschema
    rw [ok_of_holdsReadiness hsplit' hnodup hschema hholds]
    exact hnext
  · simp only [h.commandVerified]
    exact hstep
  · exact hstep

/-- A valid bundle stays valid under a continued readiness exactly when that one is valid. -/
theorem antennaControl_iff (h : AppendsEvent bundle candidate added)
    (hnodup : (candidate.events.map (·.eventId)).Nodup)
    (hschema : schemaVersionV6 ≤ bundle.manifest.schemaVersion)
    {base64Length : String → Option ℕ}
    (hvalid : validateAntennaControlV5 base64Length bundle = .ok ()) {startsAt : DateTime}
    (hpayload : added.payload =
      .wsprCycleArmed antennaLabel startsAt (some (.continued sourceId))) :
    validateAntennaControlV5 base64Length candidate = .ok () ↔
      validateContinuedReadiness candidate added antennaLabel sourceId = .ok () := by
  constructor
  · intro hcandidate
    apply validateContinuedReadiness_of_valid hcandidate _ hpayload
    rw [h.events]
    exact List.mem_append_right _ List.mem_cons_self
  · intro hcontinued
    have hcurrent : ¬bundle.manifest.schemaVersion < schemaVersionV5 :=
      not_lt.2 (le_trans (by decide) hschema)
    unfold validateAntennaControlV5 at hvalid ⊢
    rw [h.manifest, if_neg hcurrent]
    rw [if_neg hcurrent] at hvalid
    simp only [h.schedule, h.rig, h.invocation, bind_eq_ok, pure_eq_ok] at hvalid ⊢
    obtain ⟨_, hpolicy, _, hcontrolled, _, hrig, referenced, hfold, -⟩ := hvalid
    refine ⟨(), hpolicy, (), hcontrolled, (), hrig, referenced, ?_, trivial⟩
    rw [h.events, List.foldlM_append, bind_eq_ok]
    refine ⟨referenced, ?_, ?_⟩
    · apply foldlM_transfer _ hfold
      rw [List.forall₂_same]
      intro event hevent s t hstep
      exact h.readiness hnodup hevent hstep
    · rw [List.foldlM_cons, bind_eq_ok]
      refine ⟨referenced, ?_, rfl⟩
      simp only [validateReadiness, hpayload, hcontinued, ok_bind]
      rfl

end AppendsEvent

end AntennaBench
