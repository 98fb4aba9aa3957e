import Mathlib.Data.List.NodupEquivFin
import AntennaBench.Analysis.Placement
import AntennaBench.Analysis.Summary
import AntennaBench.Core.Projection

/-!
# The places that are left out

The event model counts stored events where the plan counts projected ones. What a finding
at a place of either keeps out of the alignment.
-/

namespace AntennaBench

open Timeline

variable {F : TextFormat}

/-- The places of the stored events that `legacyEvents` projects, from a first place on. -/
def projectedPlaces (effective : List (String × OperatorEvent)) :
    ℕ → List OperatorEventV2 → List ℕ
  | _, [] => []
  | place, event :: rest =>
    match event.projectLegacyLifecycle with
    | some _ => place :: projectedPlaces effective (place + 1) rest
    | none =>
      match effective.lookup event.eventId with
      | some _ =>
        place :: projectedPlaces (effective.filter (·.1 != event.eventId)) (place + 1) rest
      | none => projectedPlaces effective (place + 1) rest

/-- The facts the projection takes the events from, by identity. -/
def BundleV2Contents.legacyFacts (bundle : BundleV2Contents) : List (String × OperatorEvent) :=
  (bundle.effectiveEvents.map fun event =>
    (event.projectLegacy.eventId, event.projectLegacy)).reverse

/-- Which stored event every projected event is the form of. -/
def BundleV2Contents.eventSources (bundle : BundleV2Contents) : List ℕ :=
  projectedPlaces bundle.legacyFacts 0 bundle.events

theorem legacyFacts_eventId {bundle : BundleV2Contents} :
    ∀ entry ∈ bundle.legacyFacts, entry.2.eventId = entry.1 := by
  intro entry hentry
  obtain ⟨event, -, rfl⟩ := List.mem_map.1 (List.mem_reverse.1 hentry)
  rfl

theorem lookup_mem {α : Type} {entries : List (String × α)} {k : String} {a : α}
    (h : entries.lookup k = some a) : (k, a) ∈ entries := by
  induction entries with
  | nil => cases h
  | cons entry entries ih =>
    obtain ⟨key, b⟩ := entry
    rw [List.lookup_cons] at h
    by_cases hk : k = key
    · subst hk
      obtain rfl := Option.some.inj (by simpa using h)
      exact List.mem_cons_self
    · rw [beq_false_of_ne hk] at h
      exact List.mem_cons_of_mem _ (ih h)

theorem projectLegacyLifecycle_eventId {event : OperatorEventV2} {legacy : OperatorEvent}
    (h : event.projectLegacyLifecycle = some legacy) : legacy.eventId = event.eventId := by
  unfold OperatorEventV2.projectLegacyLifecycle at h
  cases hpayload : event.payload <;> rw [hpayload] at h <;>
    simp only [Option.some.injEq, reduceCtorEq] at h <;> subst h <;> rfl

/-- A projected event keeps the identity of the stored event it stands for. -/
theorem projectedPlaces_eventId {effective : List (String × OperatorEvent)}
    (heffective : ∀ entry ∈ effective, entry.2.eventId = entry.1) (place : ℕ)
    (events : List OperatorEventV2) :
    List.Forall₂ (fun source legacy => place ≤ source ∧
        ∃ event, events[source - place]? = some event ∧ event.eventId = legacy.eventId)
      (projectedPlaces effective place events) (legacyEvents effective events) := by
  induction events generalizing effective place with
  | nil => exact .nil
  | cons event rest ih =>
    have hlater {effective' : List (String × OperatorEvent)}
        (h : ∀ entry ∈ effective', entry.2.eventId = entry.1) :
        List.Forall₂ (fun source legacy => place ≤ source ∧
            ∃ other, (event :: rest)[source - place]? = some other ∧
              other.eventId = legacy.eventId)
          (projectedPlaces effective' (place + 1) rest) (legacyEvents effective' rest) := by
      refine (ih h (place + 1)).imp fun source legacy ⟨hle, other, hother, hid⟩ => ?_
      refine ⟨by omega, other, ?_, hid⟩
      rw [show source - place = (source - (place + 1)) + 1 by omega, List.getElem?_cons_succ]
      exact hother
    rw [projectedPlaces, legacyEvents]
    cases hlifecycle : event.projectLegacyLifecycle with
    | some legacy =>
      refine .cons ⟨le_rfl, event, by simp, ?_⟩ (hlater heffective)
      exact (projectLegacyLifecycle_eventId hlifecycle).symm
    | none =>
      cases hlookup : effective.lookup event.eventId with
      | some legacy =>
        refine .cons ⟨le_rfl, event, by simp, ?_⟩
          (hlater fun entry hentry => heffective entry (List.mem_filter.1 hentry).1)
        exact (heffective _ (lookup_mem hlookup)).symm
      | none => exact hlater heffective

theorem projectedPlaces_increasing {effective : List (String × OperatorEvent)} {place : ℕ}
    {events : List OperatorEventV2} :
    (projectedPlaces effective place events).Pairwise (· < ·) ∧
      ∀ source ∈ projectedPlaces effective place events, place ≤ source := by
  induction events generalizing effective place with
  | nil => exact ⟨.nil, by simp [projectedPlaces]⟩
  | cons event rest ih =>
    have hcons {effective' : List (String × OperatorEvent)} :
        (place :: projectedPlaces effective' (place + 1) rest).Pairwise (· < ·) ∧
          ∀ source ∈ place :: projectedPlaces effective' (place + 1) rest, place ≤ source := by
      obtain ⟨hpairwise, hle⟩ := @ih effective' (place + 1)
      refine ⟨List.pairwise_cons.2 ⟨fun source hsource => ?_, hpairwise⟩, fun source hsource => ?_⟩
      · have := hle source hsource
        omega
      · rcases List.mem_cons.1 hsource with rfl | hsource
        · exact le_rfl
        · have := hle source hsource
          omega
    rw [projectedPlaces]
    split
    · exact hcons
    · split
      · exact hcons
      · obtain ⟨hpairwise, hle⟩ := @ih effective (place + 1)
        refine ⟨hpairwise, fun source hsource => ?_⟩
        have := hle source hsource
        omega

@[simp] theorem BundleDiagnostic.tidy_concerns (diagnostic : BundleDiagnostic)
    (kind : BundleIdKind) : diagnostic.tidy.concerns kind = diagnostic.concerns kind := by
  have hsnr : diagnostic.tidy.isNonFiniteSnr = diagnostic.isNonFiniteSnr := rfl
  have hread : diagnostic.tidy.excludes = diagnostic.excludes := by
    rw [BundleDiagnostic.excludes, BundleDiagnostic.excludes, BundleDiagnostic.tidy_blocks, hsnr,
      BundleDiagnostic.tidy_code]
  have hobservation : diagnostic.tidy.excludesObservation = diagnostic.excludesObservation := by
    rw [BundleDiagnostic.excludesObservation, BundleDiagnostic.excludesObservation, hsnr,
      BundleDiagnostic.tidy_code]
  cases kind <;> simp only [BundleDiagnostic.concerns, hread, hobservation]

@[simp] theorem BundleDiagnostic.tidy_reaches (diagnostic : BundleDiagnostic)
    (kind : BundleIdKind) : diagnostic.tidy.reaches kind = diagnostic.reaches kind := by
  rw [Bool.eq_iff_iff, BundleDiagnostic.reaches_iff, BundleDiagnostic.reaches_iff,
    BundleDiagnostic.tidy_concerns, BundleDiagnostic.tidy_code]

theorem BundleDiagnostic.tidy_reachesAt {diagnostic : BundleDiagnostic} {kind : BundleIdKind}
    {index : ℕ} : diagnostic.tidy.ReachesAt kind index ↔ diagnostic.ReachesAt kind index := by
  simp only [BundleDiagnostic.ReachesAt, tidy_reaches, BundleDiagnostic.mem_tidy_locations]

/-- What holds of every raised diagnostic, and is kept by tidying, holds in the report. -/
theorem forall_mem_report {P : BundleDiagnostic → Prop} {stored : StoredBundle}
    {found : List StoreFinding} (htidy : ∀ diagnostic, P diagnostic → P diagnostic.tidy)
    (hfound : ∀ finding ∈ found, P finding.diagnostic)
    (hstored : ∀ diagnostic ∈ stored.storedEventDiagnostics F, P diagnostic)
    (hissue : ∀ diagnostic ∈ issueDiagnostics F stored.current, P diagnostic)
    (hsemantic : ∀ diagnostic ∈ semanticDiagnostics F stored.current, P diagnostic) :
    ∀ diagnostic ∈ stored.report F found, P diagnostic := by
  have hsorted {diagnostics : List BundleDiagnostic} (h : ∀ d ∈ diagnostics, P d) :
      ∀ d ∈ BundleValidationReport.sorted diagnostics, P d := by
    intro d hd
    obtain ⟨raw, hraw, rfl⟩ := BundleValidationReport.mem_sorted.1 hd
    exact htidy raw (h raw hraw)
  have hextend {report diagnostics : List BundleDiagnostic} (h : ∀ d ∈ report, P d)
      (h' : ∀ d ∈ diagnostics, P d) : ∀ d ∈ BundleValidationReport.extend report diagnostics, P d :=
    hsorted fun d hd => (List.mem_append.1 hd).elim (h d) (h' d)
  have hvalidated : ∀ d ∈ validateBundleReport F stored.current, P d :=
    hextend (hsorted hissue) hsemantic
  refine hextend (hextend (hsorted ?_) hstored) ?_
  · intro d hd
    obtain ⟨finding, hfinding, rfl⟩ := List.mem_map.1 hd
    exact hfound finding hfinding
  · cases stored with
    | v3 bundle => exact fun d hd => hvalidated d (List.mem_filter.1 hd).1
    | v1 _ => exact hvalidated
    | v2 _ => exact hvalidated

theorem exists_mem_sorted {P : BundleDiagnostic → Prop}
    (htidy : ∀ diagnostic, P diagnostic → P diagnostic.tidy) {diagnostics : List BundleDiagnostic}
    (h : ∃ diagnostic ∈ diagnostics, P diagnostic) :
    ∃ diagnostic ∈ BundleValidationReport.sorted diagnostics, P diagnostic := by
  obtain ⟨raw, hraw, hP⟩ := h
  exact ⟨raw.tidy, BundleValidationReport.mem_sorted.2 ⟨raw, hraw, rfl⟩, htidy raw hP⟩

theorem exists_mem_extend {P : BundleDiagnostic → Prop}
    (htidy : ∀ diagnostic, P diagnostic → P diagnostic.tidy)
    {report diagnostics : List BundleDiagnostic}
    (h : (∃ diagnostic ∈ report, P diagnostic) ∨ ∃ diagnostic ∈ diagnostics, P diagnostic) :
    ∃ diagnostic ∈ BundleValidationReport.extend report diagnostics, P diagnostic := by
  apply exists_mem_sorted htidy
  rcases h with ⟨d, hd, hP⟩ | ⟨d, hd, hP⟩
  · exact ⟨d, List.mem_append.2 (.inl hd), hP⟩
  · exact ⟨d, List.mem_append.2 (.inr hd), hP⟩

/-- A diagnostic of the event model is in the report. -/
theorem exists_mem_report_of_stored {P : BundleDiagnostic → Prop} {stored : StoredBundle}
    {found : List StoreFinding} (htidy : ∀ diagnostic, P diagnostic → P diagnostic.tidy)
    (h : ∃ diagnostic ∈ stored.storedEventDiagnostics F, P diagnostic) :
    ∃ diagnostic ∈ stored.report F found, P diagnostic :=
  exists_mem_extend htidy (.inl (exists_mem_extend htidy (.inr h)))

/-- A diagnostic of the projection is in the report, unless an intent schedule excuses it. -/
theorem exists_mem_report_of_current {P : BundleDiagnostic → Prop} {stored : StoredBundle}
    {found : List StoreFinding} (htidy : ∀ diagnostic, P diagnostic → P diagnostic.tidy)
    (hnative : ∀ diagnostic, P diagnostic → intentNativeException diagnostic.code = false)
    (h : (∃ diagnostic ∈ issueDiagnostics F stored.current, P diagnostic) ∨
      ∃ diagnostic ∈ semanticDiagnostics F stored.current, P diagnostic) :
    ∃ diagnostic ∈ stored.report F found, P diagnostic := by
  have hvalidated : ∃ diagnostic ∈ validateBundleReport F stored.current, P diagnostic :=
    exists_mem_extend htidy (h.imp (exists_mem_sorted htidy) id)
  refine exists_mem_extend htidy (.inr ?_)
  cases stored with
  | v3 bundle =>
    obtain ⟨d, hd, hP⟩ := hvalidated
    exact ⟨d, List.mem_filter.2 ⟨hd, by simp [hnative d hP]⟩, hP⟩
  | v1 _ => exact hvalidated
  | v2 _ => exact hvalidated

/-- The facts that confirm an antenna the session does not define. -/
def BundleV2Contents.undefinedFacts (bundle : BundleV2Contents) :
    List EffectiveOperatorEventV2 :=
  bundle.effectiveEvents.filter fun event => (event.undefinedLabel? bundle.antennas).isSome

/-- The first stored event of the identity of a fact. -/
def BundleV2Contents.factPlace (bundle : BundleV2Contents) (event : EffectiveOperatorEventV2) :
    Option ℕ :=
  firstPlace (·.eventId) event.sourceEventId bundle.events

/-- The location tells a record of the projection: one that is not a late copy, or one
that breaks a rule itself. -/
def PlacesProjected (bundle : BundleContents) (kind : BundleIdKind)
    (location : BundleDiagnosticLocation) : Prop :=
  ∃ index value, Places bundle kind location index value ∧
    (LateCopy bundle kind index value → BreaksRule bundle kind index)

/-- The location tells the stored event of a fact with an undefined antenna. -/
def PlacesStored (stored : StoredBundle) (kind : BundleIdKind)
    (location : BundleDiagnosticLocation) : Prop :=
  kind = .operatorEvent ∧ ∃ bundle, stored = .v2 bundle ∧ ∃ event ∈ bundle.undefinedFacts,
    location.recordId = some event.sourceEventId ∧ location.recordIndex = bundle.factPlace event

/-- Every location of a record the diagnostic concerns tells the record, and keeps it
out, unless the diagnostic is a conflict of facts, whose own location is no record. -/
def PlacesSoundly (stored : StoredBundle) (diagnostic : BundleDiagnostic) : Prop :=
  ∀ kind, diagnostic.concerns kind = true → ∀ location ∈ diagnostic.locations,
    location.recordKind = some kind.recordKind →
      (diagnostic.reaches kind = true ∧
        (PlacesProjected stored.current kind location ∨ PlacesStored stored kind location)) ∨
      ((kind = .operatorEvent ∧ diagnostic.code = .v2EventConflict) ∧
        diagnostic.location.recordKind = none)

theorem issueDiagnostic_placesSoundly {stored : StoredBundle} {diagnostic : BundleDiagnostic}
    (h : diagnostic ∈ issueDiagnostics F stored.current) : PlacesSoundly stored diagnostic := by
  intro kind hconcerns location hlocation hkind
  obtain ⟨index, value, hplaces, hlate⟩ := issueDiagnostics_early h location hlocation kind hkind
  have hcode : diagnostic.code ≠ .v2EventConflict := by
    obtain ⟨issue, -, rfl⟩ := List.mem_map.1 h
    cases issue <;> simp [diagnosticFromIssue, blockingDiagnostic]
  exact .inl ⟨BundleDiagnostic.reaches_iff.2 ⟨hconcerns, fun hconflict => hcode hconflict.2⟩,
    .inl ⟨index, value, hplaces, fun hlate' => absurd hlate' hlate⟩⟩

theorem ReachesBreakers.placesSoundly {stored : StoredBundle} {diagnostic : BundleDiagnostic}
    (h : ReachesBreakers stored.current diagnostic) : PlacesSoundly stored diagnostic := by
  intro kind hconcerns location hlocation hkind
  obtain ⟨index, value, hplaces, hbreaks⟩ := h kind hconcerns location hlocation hkind
  have hevent : kind ≠ .operatorEvent := by
    rintro rfl
    exact hbreaks
  exact .inl ⟨BundleDiagnostic.reaches_iff.2 ⟨hconcerns, fun hconflict => hevent hconflict.1⟩,
    .inl ⟨index, value, hplaces, fun _ => hbreaks⟩⟩

theorem StoreFinding.placesSoundly (stored : StoredBundle) (finding : StoreFinding) :
    PlacesSoundly stored finding.diagnostic := by
  cases finding with
  | duplicateRawMember location =>
    have h : ReachesBreakers stored.current (duplicateRawMember location).diagnostic :=
      reachesBreakers_of_writeOnly rfl (by simp [StoreFinding.diagnostic]) rfl
    exact h.placesSoundly
  | unknownField location =>
    have h : ReachesBreakers stored.current (unknownField location).diagnostic :=
      reachesBreakers_of_writeOnly rfl (by simp [StoreFinding.diagnostic]) rfl
    exact h.placesSoundly
  | v2 code file recordId physicalLine fieldPath message =>
    intro kind _ location hlocation hkind
    obtain rfl := List.mem_singleton.1 hlocation
    by_cases hfile : file = .adapterRecords <;>
      cases kind <;> simp [StoreFinding.diagnostic, hfile, BundleIdKind.recordKind] at hkind
  | adapterIdentity recordId error =>
    intro kind _ location hlocation hkind
    obtain rfl := List.mem_singleton.1 hlocation
    cases kind <;> simp [StoreFinding.diagnostic, BundleIdKind.recordKind] at hkind

theorem validateV2EventModel_concerns {bundle : BundleV2Contents} {diagnostic : BundleDiagnostic}
    {kind : BundleIdKind} {location : BundleDiagnosticLocation}
    (h : diagnostic ∈ validateV2EventModel F bundle) (hconcerns : diagnostic.concerns kind = true)
    (hlocation : location ∈ diagnostic.locations)
    (hkind : location.recordKind = some kind.recordKind) :
    kind = .operatorEvent ∧
      ((diagnostic.code = .unknownAntennaLabel ∧ ∃ event ∈ bundle.undefinedFacts,
        location.recordId = some event.sourceEventId ∧
          location.recordIndex = bundle.factPlace event) ∨
      (diagnostic.code = .v2EventConflict ∧ diagnostic.location.recordKind = none)) := by
  simp only [validateV2EventModel, List.mem_append] at h
  rcases h with ((h | h) | h) | h
  · obtain ⟨raised, -, rfl⟩ := List.mem_map.1 h
    cases kind <;>
      simp [BundleDiagnostic.concerns, BundleDiagnostic.excludes, BundleDiagnostic.isNonFiniteSnr,
        BundleDiagnostic.blocks, eventSemanticsDiagnostic, writeOperations] at hconcerns
  · split_ifs at h
    · obtain rfl := List.mem_singleton.1 h
      obtain rfl := List.mem_singleton.1 hlocation
      cases hkind
    · cases h
  · obtain ⟨event, hevent, hraised⟩ := List.mem_filterMap.1 h
    obtain ⟨label, hlabel, rfl⟩ := Option.map_eq_some_iff.1 hraised
    obtain rfl := List.mem_singleton.1 hlocation
    obtain rfl : kind = .operatorEvent :=
      BundleIdKind.recordKind_injective (Option.some.inj hkind.symm)
    exact ⟨rfl, .inl ⟨rfl, event, List.mem_filter.2 ⟨hevent, by simp [hlabel]⟩, rfl, rfl⟩⟩
  · obtain ⟨⟨slotId, eventIds⟩, -, rfl⟩ := List.mem_map.1 h
    rcases List.mem_cons.1 hlocation with rfl | hlocation
    · cases hkind
    · obtain ⟨eventId, -, rfl⟩ := List.mem_map.1 hlocation
      obtain rfl : kind = .operatorEvent :=
        BundleIdKind.recordKind_injective (Option.some.inj hkind.symm)
      exact ⟨rfl, .inr ⟨rfl, rfl⟩⟩

theorem storedEventDiagnostic_placesSoundly {stored : StoredBundle}
    {diagnostic : BundleDiagnostic} (h : diagnostic ∈ stored.storedEventDiagnostics F) :
    PlacesSoundly stored diagnostic := by
  intro kind hconcerns location hlocation hkind
  cases stored with
  | v1 _ => cases h
  | v2 bundle =>
    obtain ⟨hevent, ⟨hcode, hfact⟩ | ⟨hcode, hnone⟩⟩ :=
      validateV2EventModel_concerns h hconcerns hlocation hkind
    · refine .inl ⟨BundleDiagnostic.reaches_iff.2 ⟨hconcerns, ?_⟩,
        .inr ⟨hevent, bundle, rfl, hfact⟩⟩
      simp [hcode]
    · exact .inr ⟨⟨hevent, hcode⟩, hnone⟩
  | v3 _ => cases h

theorem report_placesSoundly {stored : StoredBundle} {found : List StoreFinding} :
    ∀ diagnostic ∈ stored.report F found, PlacesSoundly stored diagnostic := by
  refine forall_mem_report (fun diagnostic h => ?_)
    (fun finding _ => finding.placesSoundly stored)
    (fun _ h => storedEventDiagnostic_placesSoundly h)
    (fun _ h => issueDiagnostic_placesSoundly h)
    (fun _ h => (semanticDiagnostics_reaches h).placesSoundly)
  intro kind hconcerns location hlocation hkind
  rw [BundleDiagnostic.tidy_concerns] at hconcerns
  rw [BundleDiagnostic.tidy_reaches, BundleDiagnostic.tidy_code, BundleDiagnostic.tidy_location]
  exact h kind hconcerns location (BundleDiagnostic.mem_tidy_locations.1 hlocation) hkind

/-- What keeps a record out tells it. -/
theorem report_places {stored : StoredBundle} {found : List StoreFinding}
    {diagnostic : BundleDiagnostic} {kind : BundleIdKind} {location : BundleDiagnosticLocation}
    (h : diagnostic ∈ stored.report F found) (hreaches : diagnostic.reaches kind = true)
    (hlocation : location ∈ diagnostic.locations)
    (hkind : location.recordKind = some kind.recordKind) :
    PlacesProjected stored.current kind location ∨ PlacesStored stored kind location := by
  obtain ⟨hconcerns, hconflict⟩ := BundleDiagnostic.reaches_iff.1 hreaches
  rcases report_placesSoundly diagnostic h kind hconcerns location hlocation hkind with
    ⟨-, hplaces⟩ | ⟨hconflict', -⟩
  · exact hplaces
  · exact absurd hconflict' hconflict

/-- An early copy of a repeated identity is named by its duplicate diagnostic. -/
theorem repeated_raised {bundle : BundleContents} {kind : BundleIdKind} {value : String}
    {index : ℕ}
    (hkind : kind = .observation ∨ kind = .slot ∨ kind = .operatorEvent)
    (hcount : 2 ≤ (bundle.ids kind).count value)
    (hplace : (bundle.ids kind)[index]? = some value) (hlate : ¬LateCopy bundle kind index value) :
    ∃ diagnostic ∈ issueDiagnostics F bundle, diagnostic.code = .duplicateId ∧
      diagnostic.ReachesAt kind index := by
  obtain ⟨first, second, hfirst, hsecond, heq⟩ := duplicateIdLocations_eq hcount
  refine ⟨_, List.mem_map_of_mem (mem_duplicateId hcount), rfl, ?_, ?_⟩
  · rcases hkind with rfl | rfl | rfl <;> rfl
  · simp only [BundleDiagnostic.locations, diagnosticFromIssue, heq, blockingDiagnostic]
    rcases copy_cases (fun other => other) hplace with hcopy | hcopy | hcopy
    · obtain rfl := Option.some.inj (hfirst.symm.trans hcopy)
      exact ⟨_, List.mem_cons_of_mem _ List.mem_cons_self, rfl, rfl⟩
    · obtain rfl := Option.some.inj (hsecond.symm.trans hcopy)
      exact ⟨_, List.mem_cons_self, rfl, rfl⟩
    · exact absurd hcopy hlate

theorem repeated_reached {stored : StoredBundle} {found : List StoreFinding} {kind : BundleIdKind}
    {value : String} {index : ℕ}
    (hkind : kind = .observation ∨ kind = .slot ∨ kind = .operatorEvent)
    (hcount : 2 ≤ (stored.current.ids kind).count value)
    (hplace : (stored.current.ids kind)[index]? = some value)
    (hlate : ¬LateCopy stored.current kind index value) :
    ∃ diagnostic ∈ stored.report F found, diagnostic.code = .duplicateId ∧
      diagnostic.ReachesAt kind index :=
  exists_mem_report_of_current
    (fun diagnostic h => ⟨h.1, BundleDiagnostic.tidy_reachesAt.2 h.2⟩)
    (fun diagnostic h => by rw [h.1]; rfl) (.inl (repeated_raised hkind hcount hplace hlate))

theorem breaker_reached {stored : StoredBundle} {found : List StoreFinding} {kind : BundleIdKind}
    {index : ℕ} (h : BreaksRule stored.current kind index) :
    ∃ diagnostic ∈ stored.report F found, diagnostic.ReachesAt kind index := by
  have hraised : ∃ diagnostic ∈ stored.report F found,
      intentNativeException diagnostic.code = false ∧ diagnostic.ReachesAt kind index :=
    exists_mem_report_of_current
      (fun diagnostic h => ⟨h.1, BundleDiagnostic.tidy_reachesAt.2 h.2⟩)
      (fun diagnostic h => h.1) (.inr (breaksRule_raised h))
  obtain ⟨diagnostic, hmem, -, hreaches⟩ := hraised
  exact ⟨diagnostic, hmem, hreaches⟩

end AntennaBench
