import AntennaBench.Core.AntennaControl

/-!
# Records under another membership

The mutation a record belongs to and its runtime context are no part of what the
reduction, the run projection and the readiness checks read.
-/

namespace AntennaBench

def RecordMetaV2.withMembership (recordMeta : RecordMetaV2) (mutation : MutationMember)
    (runtimeContextId : Option String) : RecordMetaV2 :=
  { recordMeta with mutation, runtimeContextId }

/-- The record outside of any mutation. -/
def RecordMetaV2.detached (recordMeta : RecordMetaV2) : RecordMetaV2 :=
  recordMeta.withMembership ⟨"", 0, 0⟩ none

def OperatorEventV3.detached (event : OperatorEventV3) : OperatorEventV3 :=
  { event with recordMeta := event.recordMeta.detached }

variable {events events' : List OperatorEventV3}

theorem reduceOperatorEventsV3_detached (lifecycle : SessionLifecycleV2)
    (events : List OperatorEventV3) :
    reduceOperatorEventsV3 lifecycle (events.map (·.detached)) =
      reduceOperatorEventsV3 lifecycle events := by
  unfold reduceOperatorEventsV3 reduceStateV3
  rw [List.foldl_map]
  rfl

theorem projectWsprRunV3_detached (schedule : ScheduleV3) (events : List OperatorEventV3) :
    projectWsprRunV3 schedule (events.map (·.detached)) = projectWsprRunV3 schedule events := by
  simp only [projectWsprRunV3, skippedIntents, reduceOperatorEventsV3_detached, List.foldl_map]
  rfl

/-- A function of the events that does not look at memberships. -/
theorem detached_congr {α : Type} {f : List OperatorEventV3 → α}
    (hf : ∀ events, f (events.map (·.detached)) = f events)
    (h : events'.map (·.detached) = events.map (·.detached)) : f events' = f events := by
  rw [← hf events', h, hf]

open AntennaControl

theorem orError_map_bind {ε α β γ : Type} (value : Option α) (f : α → β) (error : ε)
    (k : β → Except ε γ) :
    (orError (value.map f) error >>= k) = orError value error >>= fun a => k (f a) := by
  cases value <;> rfl

namespace BundleV3Contents

def withEvents (bundle : BundleV3Contents) (events : List OperatorEventV3) : BundleV3Contents :=
  { bundle with events }

/-- The bundle with more rig records and events. -/
def recording (bundle : BundleV3Contents) (rig : List RigRecordV3)
    (events : List OperatorEventV3) : BundleV3Contents :=
  { bundle with rig := bundle.rig ++ rig, events := bundle.events ++ events }

end BundleV3Contents

def RigRecordV3.detached (record : RigRecordV3) : RigRecordV3 :=
  { record with recordMeta := record.recordMeta.detached }

/-- The event claims that its commands verified the antenna. -/
def OperatorEventV3.isCommandVerified (event : OperatorEventV3) : Bool :=
  match event.payload with
  | .wsprCycleArmed _ _ (some (.commandVerified ..)) => true
  | _ => false

theorem validateContinuedReadiness_detached (bundle : BundleV3Contents) (event : OperatorEventV3)
    (antennaLabel sourceReadyEventId : String) :
    validateContinuedReadiness (bundle.withEvents (bundle.events.map (·.detached))) event.detached
        antennaLabel sourceReadyEventId =
      validateContinuedReadiness bundle event antennaLabel sourceReadyEventId := by
  unfold validateContinuedReadiness BundleV3Contents.withEvents
  dsimp only
  simp only [List.findIdx?_map, List.getElem?_map, orError_map_bind, ← List.map_take,
    ← List.map_reverse, ← List.map_drop, List.findSome?_map, List.any_map]
  rfl

theorem continuedReadiness_recording {bundle : BundleV3Contents} {rig rig' : List RigRecordV3}
    (hevents : events'.map (·.detached) = events.map (·.detached)) {event event' : OperatorEventV3}
    (hevent : event'.detached = event.detached) (antennaLabel sourceReadyEventId : String) :
    validateContinuedReadiness (bundle.recording rig' events') event' antennaLabel
        sourceReadyEventId =
      validateContinuedReadiness (bundle.recording rig events) event antennaLabel
        sourceReadyEventId := by
  rw [← validateContinuedReadiness_detached, hevent,
    ← validateContinuedReadiness_detached (bundle.recording rig events)]
  have hall : (bundle.recording rig' events').events.map (·.detached) =
      (bundle.recording rig events).events.map (·.detached) := by
    simp only [BundleV3Contents.recording, List.map_append, hevents]
  rw [hall]
  rfl

/-- Whose commands verified an antenna is looked up among the records of its mutation. -/
theorem validateCommandVerified_recording {bundle : BundleV3Contents}
    {rig rig' : List RigRecordV3} {event : OperatorEventV3}
    (hforeign : ∀ record ∈ rig,
      record.recordMeta.mutation.mutationId ≠ event.recordMeta.mutation.mutationId)
    {antennaLabel switchRecordId verificationRecordId : String}
    (h : validateCommandVerified (bundle.recording rig events) event antennaLabel switchRecordId
      verificationRecordId = .ok ()) :
    validateCommandVerified (bundle.recording rig' events') event antennaLabel switchRecordId
      verificationRecordId = .ok () := by
  have hreferenced {recordId : String} {role : AntennaControlRoleV5} {intent : WsprCycleIntentV3}
      {entry : RigRecordV3 × AntennaControlInvocationV5}
      (hfound : referencedInvocation (bundle.recording rig events) recordId role = .ok entry)
      (hverified : validateVerifiedRecord (bundle.recording rig events) event antennaLabel intent
        entry = .ok ()) :
      referencedInvocation (bundle.recording rig' events') recordId role = .ok entry := by
    simp only [referencedInvocation, bind_eq_ok, orError_eq_ok, failIf_eq_ok, pure_eq_ok] at hfound
    obtain ⟨record, hrecord, invocation, hinvocation, _, hrole, rfl⟩ := hfound
    have hmutation : record.recordMeta.mutation.mutationId =
        event.recordMeta.mutation.mutationId := by
      simp only [validateVerifiedRecord, bind_eq_ok, orError_eq_ok, failIf_eq_ok] at hverified
      obtain ⟨_, -, _, -, _, -, hmember⟩ := hverified
      simp only [Bool.or_eq_false_iff, bne_eq_false_iff_eq] at hmember
      exact hmember.1.1
    have hold : bundle.rig.find? (·.recordId == recordId) = some record := by
      simp only [BundleV3Contents.recording, List.find?_append] at hrecord
      cases hcase : bundle.rig.find? (·.recordId == recordId) with
      | some other => simpa [hcase] using hrecord
      | none =>
        rw [hcase, Option.none_or] at hrecord
        exact absurd hmutation (hforeign record (List.mem_of_find?_eq_some hrecord))
    simp only [referencedInvocation, bind_eq_ok, orError_eq_ok, failIf_eq_ok, pure_eq_ok]
    refine ⟨record, ?_, invocation, hinvocation, (), hrole, rfl⟩
    simp only [BundleV3Contents.recording, List.find?_append, hold, Option.some_or]
  simp only [validateCommandVerified, bind_eq_ok, orError_eq_ok, failIf_eq_ok] at h ⊢
  obtain ⟨_, hpolicy, intentId, hslot, intent, hintent, switch, hswitch, verification,
    hverification, _, hfirst, _, hsecond, hlast⟩ := h
  exact ⟨(), hpolicy, intentId, hslot, intent, hintent, switch, hreferenced hswitch hfirst,
    verification, hreferenced hverification hsecond, (), hfirst, (), hsecond, hlast⟩

/-- One event of the readiness loop under other memberships. -/
theorem validateReadiness_recording {bundle : BundleV3Contents} {rig rig' : List RigRecordV3}
    (hevents : events'.map (·.detached) = events.map (·.detached)) {event event' : OperatorEventV3}
    (hevent : event'.detached = event.detached)
    (hverified : event.isCommandVerified = true → event' = event ∧ ∀ record ∈ rig,
      record.recordMeta.mutation.mutationId ≠ event.recordMeta.mutation.mutationId)
    {referenced next : List String}
    (h : validateReadiness (bundle.recording rig events) referenced event = .ok next) :
    validateReadiness (bundle.recording rig' events') referenced event' = .ok next := by
  have hpayload : event'.payload = event.payload := congrArg (·.payload) hevent
  unfold validateReadiness at h ⊢
  rw [hpayload]
  split at h
  · cases h
  · rename_i antennaLabel _ sourceReadyEventId heq
    rw [continuedReadiness_recording hevents hevent]
    exact h
  · rename_i antennaLabel _ switchRecordId verificationRecordId heq
    obtain ⟨rfl, hforeign⟩ := hverified (by simp only [OperatorEventV3.isCommandVerified, heq])
    simp only [bind_eq_ok, failIf_eq_ok, pure_eq_ok] at h ⊢
    obtain ⟨_, hdistinct, _, hcommand, rfl⟩ := h
    exact ⟨(), hdistinct, (), validateCommandVerified_recording hforeign hcommand, rfl⟩
  · exact h

theorem validateInvocationV5_detached (base64Length : String → Option ℕ) (record : RigRecordV3)
    (invocation : AntennaControlInvocationV5) (bundle : BundleV3Contents) :
    validateInvocationV5 base64Length record.detached invocation bundle =
      validateInvocationV5 base64Length record invocation bundle := rfl

/-- What the records of a mutation are validated for does not depend on the membership
they are given, unless one of its events claims that its commands verified the antenna. -/
theorem validateAntennaControlV5_recording {base64Length : String → Option ℕ}
    {bundle : BundleV3Contents} {rig rig' : List RigRecordV3}
    (hrig : rig'.map (·.detached) = rig.map (·.detached))
    (hevents : events'.map (·.detached) = events.map (·.detached))
    (hforeign : ∀ event ∈ bundle.events, ∀ record ∈ rig,
      record.recordMeta.mutation.mutationId ≠ event.recordMeta.mutation.mutationId)
    (hverified : ∀ event ∈ events, event.isCommandVerified = false)
    (h : validateAntennaControlV5 base64Length (bundle.recording rig events) = .ok ()) :
    validateAntennaControlV5 base64Length (bundle.recording rig' events') = .ok () := by
  have hcontrol {f : RigRecordV3 → Bool} (hf : ∀ record, f record.detached = f record) :
      rig'.any f = rig.any f := by
    have hany := congrArg (·.any f) hrig
    simpa only [List.any_map, Function.comp_def, hf] using hany
  have hfields {f : OperatorEventV3 → Bool} (hf : ∀ event, f event.detached = f event) :
      events'.any f = events.any f := by
    have hany := congrArg (·.any f) hevents
    simpa only [List.any_map, Function.comp_def, hf] using hany
  unfold validateAntennaControlV5 at h ⊢
  by_cases hschema : bundle.manifest.schemaVersion < schemaVersionV5
  · rw [if_pos (show (bundle.recording _ _).manifest.schemaVersion < _ from hschema)] at h ⊢
    simp only [failIf_eq_ok, hasAntennaControlFields, BundleV3Contents.recording, List.any_append]
      at h ⊢
    rw [hcontrol fun _ => rfl, hfields fun _ => rfl]
    exact h
  · rw [if_neg (show ¬ (bundle.recording _ _).manifest.schemaVersion < _ from hschema)] at h ⊢
    simp only [bind_eq_ok, failIf_eq_ok, forM_eq_ok, pure_eq_ok] at h ⊢
    obtain ⟨_, hpolicy, _, hcommands, _, hinvocations, referenced, hreadiness, -⟩ := h
    refine ⟨(), hpolicy, (), ?_, (), ?_, referenced, ?_, trivial⟩
    · simp only [BundleV3Contents.recording, List.any_append] at hcommands ⊢
      rw [hcontrol fun _ => rfl]
      exact hcommands
    · intro record hrecord
      rcases List.mem_append.1 hrecord with hold | hnew
      · exact hinvocations record (List.mem_append_left _ hold)
      · have hmem : record.detached ∈ rig.map RigRecordV3.detached :=
          hrig ▸ List.mem_map_of_mem hnew
        obtain ⟨other, hother, heq⟩ := List.mem_map.1 hmem
        have hvalid := hinvocations other (List.mem_append_right _ hother)
        have hsame := congrArg RigRecordV3.antennaControl heq.symm
        rw [show record.antennaControl = other.antennaControl from hsame]
        cases hcase : other.antennaControl with
        | none => rfl
        | some invocation =>
          rw [hcase] at hvalid
          have hdetached := validateInvocationV5_detached base64Length record invocation
            (bundle.recording rig' events')
          rw [← heq] at hdetached
          exact hdetached.symm.trans hvalid
    · have hpairs : List.Forall₂ (fun event event' : OperatorEventV3 =>
          event'.detached = event.detached) events events' := by
        rw [← List.forall₂_eq_eq_eq, List.forall₂_map_left_iff, List.forall₂_map_right_iff]
          at hevents
        exact hevents.flip
      refine foldlM_transfer (List.rel_append ?_ ?_) hreadiness
      · refine List.forall₂_same.2 fun event hevent s t hstep => ?_
        exact validateReadiness_recording hevents rfl
          (fun _ => ⟨rfl, hforeign event hevent⟩) hstep
      · refine ((List.forall₂_and_left events events').2 ⟨hverified, hpairs⟩).imp ?_
        rintro event event' ⟨hplain, hevent⟩ s t hstep
        refine validateReadiness_recording hevents hevent (fun hcommand => ?_) hstep
        rw [hplain] at hcommand
        cases hcommand

end AntennaBench
