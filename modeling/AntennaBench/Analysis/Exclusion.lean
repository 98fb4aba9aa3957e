import AntennaBench.Analysis.ExcludedPlaces

/-!
# Soundness of the exclusions

What the analysis leaves out is carried from the validators as positions. A repeated
identity is reported at its first two copies only, and the event model counts stored
events where the plan counts projected ones, so the exclusions are sound exactly when
no late copy and no shifted event is left to be used.
-/

namespace AntennaBench

open Timeline

variable {F : TextFormat}

/-- The alignment alone would use the observation at `index`. -/
def AlignsUsable (bundle : BundleContents) (report : BundleValidationReport) (index : ℕ) : Prop :=
  ∃ assignment, (analysisAlignment bundle report).observationAssignments[index]? = some assignment ∧
    classifyAssignment assignment = some .usable

/-- The observation at `index` is classified usable. -/
def Usable (bundle : BundleContents) (report : BundleValidationReport) (index : ℕ) : Prop :=
  ∃ assignment, (analysisAlignment bundle report).observationAssignments[index]? = some assignment ∧
    (EligibilityPlan.fromReport report).disposition index assignment = some .usable

/-- The records a diagnostic names: those of its locations, when its own is one of a record. -/
def BundleDiagnostic.named (diagnostic : BundleDiagnostic) : List BundleDiagnosticLocation :=
  if diagnostic.location.recordKind.isSome then diagnostic.locations else []

/-- The exclusions a report asks for are made, on the records it names. -/
structure ExclusionSound (F : TextFormat) (stored : StoredBundle) (found : List StoreFinding) :
    Prop where
  repeated : ∀ index value, (stored.current.ids .observation)[index]? = some value →
    2 ≤ (stored.current.ids .observation).count value →
      ¬Usable stored.current (stored.report F found) index
  slots : ∀ diagnostic ∈ stored.report F found, diagnostic.blocks .analysis = true →
    ∀ location ∈ diagnostic.named, location.recordKind = some .slot →
      ∀ slot ∈ (analysisBundle stored.current (stored.report F found)).schedule.slots,
        location.recordId ≠ some slot.slotId
  events : ∀ diagnostic ∈ stored.report F found, diagnostic.blocks .analysis = true →
    ∀ location ∈ diagnostic.named, location.recordKind = some .operatorEvent →
      ∀ event ∈ (analysisBundle stored.current (stored.report F found)).events,
        location.recordId ≠ some event.eventId
  attributed : ∀ diagnostic ∈ stored.report F found, diagnostic.excludes = true →
    diagnostic.excludesObservation = true → ∀ location ∈ diagnostic.locations,
      location.recordKind = some .observation → ∀ index value,
        (stored.current.ids .observation)[index]? = some value → location.recordId = some value →
          ¬Usable stored.current (stored.report F found) index
  dropped : ∀ diagnostic ∈ stored.report F found, diagnostic.reaches .operatorEvent = true →
    ∀ location ∈ diagnostic.locations, location.recordKind = some .operatorEvent →
      ∀ index event, location.recordIndex = some index →
        stored.current.events[index]? = some event → location.recordId = some event.eventId
  droppedForm : ∀ bundle, stored = .v2 bundle → ∀ diagnostic ∈ validateV2EventModel F bundle,
    diagnostic.reaches .operatorEvent = true → ∀ location ∈ diagnostic.locations,
      location.recordKind = some .operatorEvent → ∀ place source,
        location.recordIndex = some place → bundle.eventSources[place]? = some source →
          source = place

/-- A slot of this identity is at a place no diagnostic of the report keeps out. -/
def SlotKept (bundle : BundleContents) (report : BundleValidationReport) (slotId : String) : Prop :=
  ∃ index slot, bundle.schedule.slots[index]? = some slot ∧ slot.slotId = slotId ∧
    ¬∃ diagnostic ∈ report, diagnostic.ReachesAt .slot index

/-- The event is of a slot that is not kept. -/
def LeavesWithSlot (bundle : BundleContents) (report : BundleValidationReport)
    (event : OperatorEvent) : Prop :=
  ∃ slotId, event.slotId = some slotId ∧ ¬SlotKept bundle report slotId

/-- The label diagnostic of the fact stands at the projected form of the fact, or past the
projected events, which then leave the fact out anyway. -/
def FactInPlace (bundle : BundleV2Contents) (current : BundleContents)
    (report : BundleValidationReport) (fact : EffectiveOperatorEventV2) (place : ℕ) : Prop :=
  (∀ earlier ≤ place, earlier ∈ bundle.eventSources) ∨
    (bundle.eventSources.length ≤ place ∧
      ∀ index event, current.events[index]? = some event → event.eventId = fact.sourceEventId →
        (∃ diagnostic ∈ report, diagnostic.ReachesAt .operatorEvent index) ∨
          LeavesWithSlot current report event)

/-- Every late copy is left out for another reason, and every fact with an undefined
antenna keeps its place in the projection. -/
structure CopiesLeftOut (F : TextFormat) (stored : StoredBundle) (found : List StoreFinding) :
    Prop where
  observations : ∀ index value, LateCopy stored.current .observation index value →
    BreaksRule stored.current .observation index ∨
      ¬AlignsUsable stored.current (stored.report F found) index
  slots : ∀ index value, LateCopy stored.current .slot index value →
    BreaksRule stored.current .slot index
  events : ∀ index event, stored.current.events[index]? = some event →
    LateCopy stored.current .operatorEvent index event.eventId →
      LeavesWithSlot stored.current (stored.report F found) event
  facts : ∀ bundle, stored = .v2 bundle → ∀ fact ∈ bundle.undefinedFacts, ∀ place,
    bundle.factPlace fact = some place →
      FactInPlace bundle stored.current (stored.report F found) fact place

section

variable {stored : StoredBundle} {found : List StoreFinding}

theorem usable_iff {bundle : BundleContents} {report : BundleValidationReport} {index : ℕ} :
    Usable bundle report index ↔
      (¬∃ diagnostic ∈ report, diagnostic.ReachesAt .observation index) ∧
        AlignsUsable bundle report index := by
  have hexcludes : (∃ reason, (EligibilityPlan.fromReport report).reason? index = some reason) ↔
      ∃ diagnostic ∈ report, diagnostic.ReachesAt .observation index :=
    @fromReport_excludes report .observation index
  rw [← hexcludes, Usable, AlignsUsable]
  unfold EligibilityPlan.disposition
  cases (EligibilityPlan.fromReport report).reason? index with
  | none => simp
  | some reason => simp

theorem mem_retain {α : Type} {excluded : List ℕ} {items : List α} {a : α} :
    a ∈ retain excluded items ↔ ∃ index, items[index]? = some a ∧ index ∉ excluded := by
  rw [retain, List.mem_map]
  constructor
  · rintro ⟨⟨b, index⟩, hmem, rfl⟩
    obtain ⟨hplace, hkept⟩ := List.mem_filter.1 hmem
    exact ⟨index, List.mk_mem_zipIdx_iff_getElem?.1 hplace, by simpa using hkept⟩
  · rintro ⟨index, hplace, hkept⟩
    exact ⟨(a, index), List.mem_filter.2 ⟨List.mk_mem_zipIdx_iff_getElem?.2 hplace,
      by simpa using hkept⟩, rfl⟩

theorem mem_analysisBundle_slots {bundle : BundleContents} {report : BundleValidationReport}
    {slot : PlannedSlot} : slot ∈ (analysisBundle bundle report).schedule.slots ↔
      ∃ index, bundle.schedule.slots[index]? = some slot ∧
        ¬∃ diagnostic ∈ report, diagnostic.ReachesAt .slot index := by
  refine mem_retain.trans (exists_congr fun index => and_congr_right fun _ => not_congr ?_)
  exact @fromReport_excludes report .slot index

theorem mem_analysisBundle_events {bundle : BundleContents} {report : BundleValidationReport}
    {event : OperatorEvent} : event ∈ (analysisBundle bundle report).events ↔
      (∃ index, bundle.events[index]? = some event ∧
        ¬∃ diagnostic ∈ report, diagnostic.ReachesAt .operatorEvent index) ∧
      ¬LeavesWithSlot bundle report event := by
  have hslot (slotId : String) : slotId ∈ (analysisBundle bundle report).schedule.slots.map
      (·.slotId) ↔ SlotKept bundle report slotId := by
    rw [List.mem_map]
    constructor
    · rintro ⟨slot, hslot, rfl⟩
      obtain ⟨index, hindex, hkept⟩ := mem_analysisBundle_slots.1 hslot
      exact ⟨index, slot, hindex, rfl, hkept⟩
    · rintro ⟨index, slot, hindex, rfl, hkept⟩
      exact ⟨slot, mem_analysisBundle_slots.2 ⟨index, hindex, hkept⟩, rfl⟩
  refine List.mem_filter.trans (and_congr ?_ ?_)
  · refine mem_retain.trans (exists_congr fun index => and_congr_right fun _ => not_congr ?_)
    exact @fromReport_excludes report .operatorEvent index
  · cases hevent : event.slotId with
    | none => simp [LeavesWithSlot, hevent]
    | some slotId =>
      simp only [Option.all_some, List.contains_iff_mem, LeavesWithSlot, hevent, Option.some.injEq,
        exists_eq_left', not_not]
      exact hslot slotId

theorem two_le_count {α : Type} [DecidableEq α] {items : List α} {i j : ℕ} {a : α}
    (hi : items[i]? = some a) (hj : items[j]? = some a) (hne : i ≠ j) : 2 ≤ items.count a := by
  obtain ⟨hilt, hi⟩ := List.getElem?_eq_some_iff.1 hi
  obtain ⟨hjlt, hj⟩ := List.getElem?_eq_some_iff.1 hj
  rw [← List.duplicate_iff_two_le_count, List.duplicate_iff_exists_distinct_get]
  rcases Nat.lt_or_gt_of_ne hne with hlt | hgt
  · exact ⟨⟨i, hilt⟩, ⟨j, hjlt⟩, hlt, hi.symm, hj.symm⟩
  · exact ⟨⟨j, hjlt⟩, ⟨i, hilt⟩, hgt, hj.symm, hi.symm⟩

/-- Every copy of a record that is kept out is kept out itself, unless it is late. -/
theorem copies_reached {kind : BundleIdKind} {value : String} {index other : ℕ}
    (hkind : kind = .observation ∨ kind = .slot ∨ kind = .operatorEvent)
    (hreached : ∃ diagnostic ∈ stored.report F found, diagnostic.ReachesAt kind index)
    (hindex : (stored.current.ids kind)[index]? = some value)
    (hother : (stored.current.ids kind)[other]? = some value) :
    (∃ diagnostic ∈ stored.report F found, diagnostic.ReachesAt kind other) ∨
      LateCopy stored.current kind other value := by
  by_cases heq : index = other
  · exact .inl (heq ▸ hreached)
  · refine or_iff_not_imp_right.2 fun hlate => ?_
    obtain ⟨diagnostic, hmem, -, hreaches⟩ :=
      repeated_reached hkind (two_le_count hindex hother heq) hother hlate
    exact ⟨diagnostic, hmem, hreaches⟩

theorem eventSources_forall (bundle : BundleV2Contents) :
    List.Forall₂ (fun source legacy => ∃ event, bundle.events[source]? = some event ∧
      event.eventId = legacy.eventId) bundle.eventSources bundle.legacyEvents :=
  (projectedPlaces_eventId legacyFacts_eventId 0 bundle.events).imp
    fun _ _ ⟨_, event, hevent, hid⟩ => ⟨event, hevent, hid⟩

/-- The stored event of a projected event. -/
theorem eventSources_getElem? {bundle : BundleV2Contents} {index : ℕ} {legacy : OperatorEvent}
    (h : bundle.legacyEvents[index]? = some legacy) :
    ∃ source event, bundle.eventSources[index]? = some source ∧
      bundle.events[source]? = some event ∧ event.eventId = legacy.eventId := by
  obtain ⟨hlength, hforall⟩ := List.forall₂_iff_get.1 (eventSources_forall bundle)
  obtain ⟨hlt, rfl⟩ := List.getElem?_eq_some_iff.1 h
  obtain ⟨event, hevent, hid⟩ := hforall index (hlength ▸ hlt) hlt
  exact ⟨_, event, List.getElem?_eq_getElem (hlength ▸ hlt), hevent, hid⟩

theorem eventSources_length (bundle : BundleV2Contents) :
    bundle.eventSources.length = bundle.legacyEvents.length :=
  (eventSources_forall bundle).length_eq

theorem reachesAt_of_location {diagnostic : BundleDiagnostic} {kind : BundleIdKind}
    {location : BundleDiagnosticLocation} {index : ℕ} (hreaches : diagnostic.reaches kind = true)
    (hlocation : location ∈ diagnostic.locations)
    (hkind : location.recordKind = some kind.recordKind)
    (hindex : location.recordIndex = some index) : diagnostic.ReachesAt kind index :=
  ⟨hreaches, location, hlocation, hkind, hindex⟩

theorem named_locations {diagnostic : BundleDiagnostic} {location : BundleDiagnosticLocation}
    (h : location ∈ diagnostic.named) :
    location ∈ diagnostic.locations ∧ diagnostic.location.recordKind ≠ none := by
  unfold BundleDiagnostic.named at h
  split_ifs at h with hkind
  · exact ⟨h, Option.isSome_iff_ne_none.1 hkind⟩
  · cases h

/-- A blocking diagnostic keeps out the records it names. -/
theorem named_reaches {diagnostic : BundleDiagnostic} {kind : BundleIdKind}
    {location : BundleDiagnosticLocation} (hkind' : kind = .slot ∨ kind = .operatorEvent)
    (h : diagnostic ∈ stored.report F found) (hblocks : diagnostic.blocks .analysis = true)
    (hlocation : location ∈ diagnostic.named)
    (hkind : location.recordKind = some kind.recordKind) : diagnostic.reaches kind = true := by
  have hconcerns : diagnostic.concerns kind = true := by
    rcases hkind' with rfl | rfl <;>
      simp [BundleDiagnostic.concerns, BundleDiagnostic.excludes, hblocks]
  obtain ⟨hlocation, hsome⟩ := named_locations hlocation
  rcases report_placesSoundly diagnostic h kind hconcerns location hlocation hkind with
    ⟨hreaches, -⟩ | ⟨-, hnone⟩
  · exact hreaches
  · exact absurd hnone hsome

/-- A projected event of the identity of a fact has its stored event. -/
theorem factPlace_of_event {bundle : BundleV2Contents} {fact : EffectiveOperatorEventV2}
    {index : ℕ} {event : OperatorEvent} (h : bundle.legacyEvents[index]? = some event)
    (hid : event.eventId = fact.sourceEventId) : ∃ place, bundle.factPlace fact = some place := by
  obtain ⟨source, wire, -, hwire, heq⟩ := eventSources_getElem? h
  have hfirst := firstPlace_of_mem (·.eventId) (List.mem_of_getElem? hwire)
  rw [heq, hid] at hfirst
  exact hfirst

/-- A fact in place is the projected event at its own place. -/
theorem factInPlace_event {bundle : BundleV2Contents} {fact : EffectiveOperatorEventV2} {place : ℕ}
    (hplace : bundle.factPlace fact = some place)
    (h : ∀ earlier ≤ place, earlier ∈ bundle.eventSources) :
    bundle.eventSources[place]? = some place ∧
      ∃ event, bundle.legacyEvents[place]? = some event ∧ event.eventId = fact.sourceEventId := by
  have hsource : bundle.eventSources[place]? = some place :=
    (increasing_position_iff projectedPlaces_increasing.1).2 h
  obtain ⟨hlt, -⟩ := List.getElem?_eq_some_iff.1 hsource
  rw [eventSources_length] at hlt
  have hevent := List.getElem?_eq_getElem hlt
  refine ⟨hsource, _, hevent, ?_⟩
  obtain ⟨source, wire, hsource', hwire, hid⟩ := eventSources_getElem? hevent
  obtain rfl := Option.some.inj (hsource.symm.trans hsource')
  obtain ⟨other, hother, hfact, -⟩ := firstPlace_eq_some.1 hplace
  obtain rfl := Option.some.inj (hwire.symm.trans hother)
  rw [← hid, hfact]

theorem ids_event {bundle : BundleContents} {index : ℕ} {event : OperatorEvent}
    (h : bundle.events[index]? = some event) :
    (bundle.ids .operatorEvent)[index]? = some event.eventId := by
  simp [BundleContents.ids, h]

theorem ids_slot {bundle : BundleContents} {index : ℕ} {slot : PlannedSlot}
    (h : bundle.schedule.slots[index]? = some slot) :
    (bundle.ids .slot)[index]? = some slot.slotId := by
  simp [BundleContents.ids, h]

theorem unusable_of_reached {index : ℕ}
    (h : ∃ diagnostic ∈ stored.report F found, diagnostic.ReachesAt .observation index) :
    ¬Usable stored.current (stored.report F found) index :=
  fun husable => (usable_iff.1 husable).1 h

namespace CopiesLeftOut

variable (hout : CopiesLeftOut F stored found)
include hout

theorem unusable_of_late {index : ℕ} {value : String}
    (h : LateCopy stored.current .observation index value) :
    ¬Usable stored.current (stored.report F found) index := by
  rcases hout.observations index value h with hbreaks | haligns
  · exact unusable_of_reached (breaker_reached hbreaks)
  · exact fun husable => haligns (usable_iff.1 husable).2

theorem repeated {index : ℕ} {value : String}
    (hplace : (stored.current.ids .observation)[index]? = some value)
    (hcount : 2 ≤ (stored.current.ids .observation).count value) :
    ¬Usable stored.current (stored.report F found) index := by
  by_cases hlate : LateCopy stored.current .observation index value
  · exact hout.unusable_of_late hlate
  · obtain ⟨diagnostic, hmem, -, hreaches⟩ := repeated_reached (.inl rfl) hcount hplace hlate
    exact unusable_of_reached ⟨diagnostic, hmem, hreaches⟩

theorem attributed {diagnostic : BundleDiagnostic} {location : BundleDiagnosticLocation}
    {index : ℕ} {value : String} (hmem : diagnostic ∈ stored.report F found)
    (hreaches : diagnostic.reaches .observation = true)
    (hlocation : location ∈ diagnostic.locations)
    (hkind : location.recordKind = some .observation)
    (hplace : (stored.current.ids .observation)[index]? = some value)
    (hvalue : location.recordId = some value) :
    ¬Usable stored.current (stored.report F found) index := by
  rcases report_places hmem hreaches hlocation hkind with ⟨at_, other, hplaces, -⟩ | ⟨hevent, -⟩
  · obtain rfl := Option.some.inj (hplaces.recordId.symm.trans hvalue)
    have hreached := reachesAt_of_location hreaches hlocation hkind hplaces.recordIndex
    rcases copies_reached (.inl rfl) ⟨diagnostic, hmem, hreached⟩ hplaces.record hplace with
      hreached' | hlate
    · exact unusable_of_reached hreached'
    · exact hout.unusable_of_late hlate
  · cases hevent

theorem slotLeft {diagnostic : BundleDiagnostic} {location : BundleDiagnosticLocation}
    {slot : PlannedSlot} (hmem : diagnostic ∈ stored.report F found)
    (hreaches : diagnostic.reaches .slot = true) (hlocation : location ∈ diagnostic.locations)
    (hkind : location.recordKind = some .slot)
    (hslot : slot ∈ (analysisBundle stored.current (stored.report F found)).schedule.slots) :
    location.recordId ≠ some slot.slotId := by
  intro hvalue
  obtain ⟨index, hindex, hkept⟩ := mem_analysisBundle_slots.1 hslot
  rcases report_places hmem hreaches hlocation hkind with ⟨at_, value, hplaces, -⟩ | ⟨hevent, -⟩
  · obtain rfl := Option.some.inj (hplaces.recordId.symm.trans hvalue)
    have hreached := reachesAt_of_location hreaches hlocation hkind hplaces.recordIndex
    rcases copies_reached (.inr (.inl rfl)) ⟨diagnostic, hmem, hreached⟩ hplaces.record
      (ids_slot hindex) with hreached' | hlate
    · exact hkept hreached'
    · exact hkept (breaker_reached (hout.slots index _ hlate))
  · cases hevent

/-- A diagnostic that keeps events out keeps out every event of the identity it tells. -/
theorem eventLeft {diagnostic : BundleDiagnostic} {location : BundleDiagnosticLocation}
    {event : OperatorEvent} (hmem : diagnostic ∈ stored.report F found)
    (hreaches : diagnostic.reaches .operatorEvent = true)
    (hlocation : location ∈ diagnostic.locations)
    (hkind : location.recordKind = some .operatorEvent)
    (hevent : event ∈ (analysisBundle stored.current (stored.report F found)).events) :
    location.recordId ≠ some event.eventId := by
  intro hvalue
  obtain ⟨⟨index, hindex, hkept⟩, hstays⟩ := mem_analysisBundle_events.1 hevent
  have hcopy {other : ℕ} (hother : location.recordIndex = some other)
      (hid : (stored.current.ids .operatorEvent)[other]? = some event.eventId) : False := by
    have hreached := reachesAt_of_location hreaches hlocation hkind hother
    rcases copies_reached (.inr (.inr rfl)) ⟨diagnostic, hmem, hreached⟩ hid (ids_event hindex) with
      hreached' | hlate
    · exact hkept hreached'
    · exact hstays (hout.events index event hindex hlate)
  rcases report_places hmem hreaches hlocation hkind with
    ⟨at_, value, hplaces, -⟩ | ⟨-, bundle, rfl, fact, hfact, hid, hplace⟩
  · obtain rfl := Option.some.inj (hplaces.recordId.symm.trans hvalue)
    exact hcopy hplaces.recordIndex hplaces.record
  · have hsame : event.eventId = fact.sourceEventId := Option.some.inj (hvalue.symm.trans hid)
    obtain ⟨place, hfirst⟩ := factPlace_of_event hindex hsame
    rcases hout.facts bundle rfl fact hfact place hfirst with hall | ⟨-, hleft⟩
    · obtain ⟨-, legacy, hlegacy, hlegacyId⟩ := factInPlace_event hfirst hall
      apply hcopy (hplace.trans hfirst)
      rw [hsame, ← hlegacyId]
      exact ids_event hlegacy
    · rcases hleft index event hindex hsame with hreached | hleaves
      · exact hkept hreached
      · exact hstays hleaves

theorem dropped {diagnostic : BundleDiagnostic} {location : BundleDiagnosticLocation}
    {index : ℕ} {event : OperatorEvent} (hmem : diagnostic ∈ stored.report F found)
    (hreaches : diagnostic.reaches .operatorEvent = true)
    (hlocation : location ∈ diagnostic.locations)
    (hkind : location.recordKind = some .operatorEvent)
    (hindex : location.recordIndex = some index)
    (hevent : stored.current.events[index]? = some event) :
    location.recordId = some event.eventId := by
  rcases report_places hmem hreaches hlocation hkind with
    ⟨at_, value, hplaces, -⟩ | ⟨-, bundle, rfl, fact, hfact, hid, hplace⟩
  · obtain rfl := Option.some.inj (hplaces.recordIndex.symm.trans hindex)
    rw [hplaces.recordId, ← hplaces.record, ids_event hevent]
  · have hfirst := hplace.symm.trans hindex
    rcases hout.facts bundle rfl fact hfact index hfirst with hall | ⟨hlength, -⟩
    · obtain ⟨-, legacy, hlegacy, hlegacyId⟩ := factInPlace_event hfirst hall
      obtain rfl := Option.some.inj (hlegacy.symm.trans hevent)
      rw [hid, hlegacyId]
    · obtain ⟨hlt, -⟩ := List.getElem?_eq_some_iff.1 hevent
      rw [eventSources_length] at hlength
      exact absurd hlt (by simpa [StoredBundle.current, BundleV2Contents.intoCurrent] using hlength)

theorem droppedForm {bundle : BundleV2Contents} (hstored : stored = .v2 bundle)
    {diagnostic : BundleDiagnostic} {location : BundleDiagnosticLocation} {place source : ℕ}
    (hmem : diagnostic ∈ validateV2EventModel F bundle)
    (hreaches : diagnostic.reaches .operatorEvent = true)
    (hlocation : location ∈ diagnostic.locations)
    (hkind : location.recordKind = some .operatorEvent)
    (hplace : location.recordIndex = some place)
    (hsource : bundle.eventSources[place]? = some source) : source = place := by
  obtain ⟨hconcerns, hconflict⟩ := BundleDiagnostic.reaches_iff.1 hreaches
  obtain ⟨-, ⟨-, fact, hfact, -, hfactPlace⟩ | ⟨hcode, -⟩⟩ :=
    validateV2EventModel_concerns hmem hconcerns hlocation hkind
  · have hfirst := hfactPlace.symm.trans hplace
    rcases hout.facts bundle hstored fact hfact place hfirst with hall | ⟨hlength, -⟩
    · obtain ⟨hsource', -⟩ := factInPlace_event hfirst hall
      exact Option.some.inj (hsource.symm.trans hsource')
    · obtain ⟨hlt, -⟩ := List.getElem?_eq_some_iff.1 hsource
      omega
  · exact absurd ⟨rfl, hcode⟩ hconflict

theorem exclusionSound : ExclusionSound F stored found where
  repeated _ _ hplace hcount := hout.repeated hplace hcount
  slots _ hmem hblocks _ hnamed hkind _ hslot :=
    hout.slotLeft hmem (named_reaches (.inl rfl) hmem hblocks hnamed hkind)
      (named_locations hnamed).1 hkind hslot
  events _ hmem hblocks _ hnamed hkind _ hevent :=
    hout.eventLeft hmem (named_reaches (.inr rfl) hmem hblocks hnamed hkind)
      (named_locations hnamed).1 hkind hevent
  attributed _ hmem hread hexcludes _ hlocation hkind _ _ hplace hvalue :=
    hout.attributed hmem (Bool.and_eq_true_iff.2 ⟨hread, hexcludes⟩) hlocation hkind hplace hvalue
  dropped _ hmem hreaches _ hlocation hkind _ _ hindex hevent :=
    hout.dropped hmem hreaches hlocation hkind hindex hevent
  droppedForm _ hstored _ hmem hreaches _ hlocation hkind _ _ hplace hsource :=
    hout.droppedForm hstored hmem hreaches hlocation hkind hplace hsource

end CopiesLeftOut

theorem BundleDiagnostic.mem_tidy_named {diagnostic : BundleDiagnostic}
    {location : BundleDiagnosticLocation} :
    location ∈ diagnostic.tidy.named ↔ location ∈ diagnostic.named := by
  rw [BundleDiagnostic.named, BundleDiagnostic.named, BundleDiagnostic.tidy_location]
  split_ifs
  · exact BundleDiagnostic.mem_tidy_locations
  · exact Iff.rfl

/-- The diagnostic blocks the analysis and names a record of this kind and identity. -/
def BundleDiagnostic.Names (diagnostic : BundleDiagnostic) (kind : BundleIdKind)
    (value : String) : Prop :=
  diagnostic.blocks .analysis = true ∧ ∃ location ∈ diagnostic.named,
    location.recordKind = some kind.recordKind ∧ location.recordId = some value

theorem BundleDiagnostic.tidy_names {diagnostic : BundleDiagnostic} {kind : BundleIdKind}
    {value : String} (h : diagnostic.Names kind value) : diagnostic.tidy.Names kind value := by
  obtain ⟨hblocks, location, hlocation, hkind⟩ := h
  exact ⟨(BundleDiagnostic.tidy_blocks _ _).trans hblocks, location,
    BundleDiagnostic.mem_tidy_named.2 hlocation, hkind⟩

theorem repeated_named {kind : BundleIdKind} {value : String}
    (hcount : 2 ≤ (stored.current.ids kind).count value) :
    ∃ diagnostic ∈ stored.report F found, diagnostic.Names kind value := by
  have hraised : ∃ diagnostic ∈ stored.report F found,
      diagnostic.code = .duplicateId ∧ diagnostic.Names kind value := by
    refine exists_mem_report_of_current (fun diagnostic h => ⟨h.1, BundleDiagnostic.tidy_names h.2⟩)
      (fun diagnostic h => by rw [h.1]; rfl) (.inl ?_)
    obtain ⟨first, second, -, -, heq⟩ := duplicateIdLocations_eq hcount
    refine ⟨_, List.mem_map_of_mem (mem_duplicateId hcount), rfl, rfl,
      copyLocation kind value (some second), ?_, rfl, rfl⟩
    simp only [BundleDiagnostic.named, BundleDiagnostic.locations, diagnosticFromIssue, heq,
      blockingDiagnostic]
    exact List.mem_cons_self
  obtain ⟨diagnostic, hmem, -, hnames⟩ := hraised
  exact ⟨diagnostic, hmem, hnames⟩

theorem undefinedFact_raised {bundle : BundleV2Contents} {fact : EffectiveOperatorEventV2}
    (h : fact ∈ bundle.undefinedFacts) : ∃ label,
      undefinedLabelDiagnostic F bundle.events fact.sourceEventId label ∈
        validateV2EventModel F bundle := by
  obtain ⟨hfact, hlabel⟩ := List.mem_filter.1 h
  obtain ⟨label, hlabel⟩ := Option.isSome_iff_exists.1 hlabel
  refine ⟨label, ?_⟩
  simp only [validateV2EventModel, List.mem_append]
  exact .inl (.inr (List.mem_filterMap.2 ⟨fact, hfact, by rw [hlabel]; rfl⟩))

theorem two_le_count_of_late {kind : BundleIdKind} {index : ℕ} {value : String}
    (h : LateCopy stored.current kind index value) :
    2 ≤ (stored.current.ids kind).count value := by
  have hrank : 2 ≤ ((stored.current.ids kind).take index).count value := by
    simpa [rank, List.count, beq_eq_decide] using h.2
  exact hrank.trans ((List.take_sublist _ _).count_le _)

theorem exists_earlier_of_late {kind : BundleIdKind} {index : ℕ} {value : String}
    (h : LateCopy stored.current kind index value) :
    ∃ earlier, (stored.current.ids kind)[earlier]? = some value ∧ earlier < index := by
  have hpos : 0 < ((stored.current.ids kind).take index).count value := by
    have hrank : 2 ≤ ((stored.current.ids kind).take index).count value := by
      simpa [rank, List.count, beq_eq_decide] using h.2
    omega
  obtain ⟨earlier, hearlier⟩ := List.mem_iff_getElem?.1 (List.count_pos_iff.1 hpos)
  have hlt : earlier < index := by
    obtain ⟨hlt, -⟩ := List.getElem?_eq_some_iff.1 hearlier
    rw [List.length_take] at hlt
    omega
  rw [List.getElem?_take_of_lt hlt] at hearlier
  exact ⟨earlier, hearlier, hlt⟩

namespace ExclusionSound

variable (hsound : ExclusionSound F stored found)
include hsound

theorem lateObservation {index : ℕ} {value : String}
    (hlate : LateCopy stored.current .observation index value) :
    BreaksRule stored.current .observation index ∨
      ¬AlignsUsable stored.current (stored.report F found) index := by
  have hunusable := hsound.repeated index value hlate.1 (two_le_count_of_late hlate)
  refine or_iff_not_imp_right.2 fun haligns => ?_
  have hreached : ∃ diagnostic ∈ stored.report F found, diagnostic.ReachesAt .observation index :=
    not_not.1 fun hkept => hunusable (usable_iff.2 ⟨hkept, not_not.1 haligns⟩)
  obtain ⟨diagnostic, hmem, hreaches, location, hlocation, hkind, hindex⟩ := hreached
  rcases report_places hmem hreaches hlocation hkind with
    ⟨at_, other, hplaces, hbreaks⟩ | ⟨hevent, -⟩
  · obtain rfl := Option.some.inj (hplaces.recordIndex.symm.trans hindex)
    obtain rfl := Option.some.inj (hplaces.record.symm.trans hlate.1)
    exact hbreaks hlate
  · cases hevent

theorem slotLeft {value : String} (hcount : 2 ≤ (stored.current.ids .slot).count value)
    {slot : PlannedSlot}
    (hslot : slot ∈ (analysisBundle stored.current (stored.report F found)).schedule.slots) :
    slot.slotId ≠ value := by
  rintro rfl
  obtain ⟨diagnostic, hmem, hblocks, location, hlocation, hkind, hvalue⟩ := repeated_named hcount
  exact hsound.slots diagnostic hmem hblocks location hlocation hkind slot hslot hvalue

theorem eventLeft {value : String}
    (hnames : ∃ diagnostic ∈ stored.report F found, diagnostic.Names .operatorEvent value)
    {event : OperatorEvent}
    (hevent : event ∈ (analysisBundle stored.current (stored.report F found)).events) :
    event.eventId ≠ value := by
  rintro rfl
  obtain ⟨diagnostic, hmem, hblocks, location, hlocation, hkind, hvalue⟩ := hnames
  exact hsound.events diagnostic hmem hblocks location hlocation hkind event hevent hvalue

theorem lateSlot {index : ℕ} {value : String}
    (hlate : LateCopy stored.current .slot index value) :
    BreaksRule stored.current .slot index := by
  obtain ⟨slot, hslot, rfl⟩ : ∃ slot, stored.current.schedule.slots[index]? = some slot ∧
      slot.slotId = value := by
    simpa [BundleContents.ids] using hlate.1
  have hcount := two_le_count_of_late hlate
  have hreached : ∃ diagnostic ∈ stored.report F found, diagnostic.ReachesAt .slot index := by
    by_contra hkept
    exact hsound.slotLeft hcount (mem_analysisBundle_slots.2 ⟨index, hslot, hkept⟩) rfl
  obtain ⟨diagnostic, hmem, hreaches, location, hlocation, hkind, hindex⟩ := hreached
  rcases report_places hmem hreaches hlocation hkind with
    ⟨at_, other, hplaces, hbreaks⟩ | ⟨hevent, -⟩
  · obtain rfl := Option.some.inj (hplaces.recordIndex.symm.trans hindex)
    obtain rfl := Option.some.inj (hplaces.record.symm.trans hlate.1)
    exact hbreaks hlate
  · cases hevent

/-- The label diagnostic of a fact keeps out the projected form of the fact. -/
theorem factForm {bundle : BundleV2Contents} (hstored : stored = .v2 bundle)
    {fact : EffectiveOperatorEventV2} (hfact : fact ∈ bundle.undefinedFacts) {place source : ℕ}
    (hplace : bundle.factPlace fact = some place)
    (hsource : bundle.eventSources[place]? = some source) : source = place := by
  obtain ⟨label, hraised⟩ := undefinedFact_raised (F := F) hfact
  exact hsound.droppedForm bundle hstored _ hraised rfl _ List.mem_cons_self rfl place source
    hplace hsource

theorem lateEvent {index : ℕ} {event : OperatorEvent}
    (hevent : stored.current.events[index]? = some event)
    (hlate : LateCopy stored.current .operatorEvent index event.eventId) :
    LeavesWithSlot stored.current (stored.report F found) event := by
  by_contra hstays
  have hreached : ∃ diagnostic ∈ stored.report F found,
      diagnostic.ReachesAt .operatorEvent index := by
    by_contra hkept
    exact hsound.eventLeft (repeated_named (two_le_count_of_late hlate))
      (mem_analysisBundle_events.2 ⟨⟨index, hevent, hkept⟩, hstays⟩) rfl
  obtain ⟨diagnostic, hmem, hreaches, location, hlocation, hkind, hindex⟩ := hreached
  rcases report_places hmem hreaches hlocation hkind with
    ⟨at_, other, hplaces, hbreaks⟩ | ⟨-, bundle, rfl, fact, hfact, hid, hplace⟩
  · obtain rfl := Option.some.inj (hplaces.recordIndex.symm.trans hindex)
    obtain rfl := Option.some.inj (hplaces.record.symm.trans hlate.1)
    exact hbreaks hlate
  · -- the fact stands at its first stored event, so no earlier event projects to its identity
    have hfirst := hplace.symm.trans hindex
    have hsame : fact.sourceEventId = event.eventId := by
      have hvalue := hsound.dropped diagnostic hmem hreaches location hlocation hkind index event
        hindex hevent
      exact Option.some.inj (hid.symm.trans hvalue)
    obtain ⟨source, -, hsource, -, -⟩ := eventSources_getElem? hevent
    obtain rfl := hsound.factForm rfl hfact hfirst hsource
    obtain ⟨earlier, hearlier, hlt⟩ := exists_earlier_of_late hlate
    obtain ⟨legacy, hlegacy, hlegacyId⟩ : ∃ legacy,
        bundle.legacyEvents[earlier]? = some legacy ∧ legacy.eventId = event.eventId := by
      simpa [BundleContents.ids, StoredBundle.current, BundleV2Contents.intoCurrent] using hearlier
    obtain ⟨before, wire, hbefore, hwire, hwireId⟩ := eventSources_getElem? hlegacy
    have hbeforeLt := increasing_lt projectedPlaces_increasing.1 hlt hbefore hsource
    obtain ⟨first, hfirst, hfirstId, hrank⟩ := firstPlace_eq_some.1 hfirst
    have hmem : wire ∈ bundle.events.take source :=
      List.mem_of_getElem? (by rw [List.getElem?_take_of_lt hbeforeLt]; exact hwire)
    have hnone := List.countP_eq_zero.1 hrank wire hmem
    exact hnone (by simp [hfirstId, hsame, hwireId, hlegacyId])

theorem fact {bundle : BundleV2Contents} (hstored : stored = .v2 bundle)
    {fact : EffectiveOperatorEventV2} (hfact : fact ∈ bundle.undefinedFacts) {place : ℕ}
    (hplace : bundle.factPlace fact = some place) :
    FactInPlace bundle stored.current (stored.report F found) fact place := by
  cases hsource : bundle.eventSources[place]? with
  | some source =>
    obtain rfl := hsound.factForm hstored hfact hplace hsource
    exact .inl ((increasing_position_iff projectedPlaces_increasing.1).1 hsource)
  | none =>
    refine .inr ⟨List.getElem?_eq_none_iff.1 hsource, fun index event hevent hid => ?_⟩
    by_contra hleft
    rw [not_or] at hleft
    obtain ⟨label, hraised⟩ := undefinedFact_raised (F := F) hfact
    have hnames : ∃ diagnostic ∈ stored.report F found,
        diagnostic.Names .operatorEvent fact.sourceEventId := by
      refine exists_mem_report_of_stored (fun _ h => BundleDiagnostic.tidy_names h) ?_
      rw [hstored]
      exact ⟨_, hraised, rfl, _, List.mem_cons_self, rfl, rfl⟩
    exact hsound.eventLeft hnames
      (mem_analysisBundle_events.2 ⟨⟨index, hevent, hleft.1⟩, hleft.2⟩) hid

end ExclusionSound

/-- The exclusions are sound exactly when every late copy is left out for another reason
and no fact with an undefined antenna is moved by the projection. -/
theorem exclusionSound_iff (F : TextFormat) (stored : StoredBundle) (found : List StoreFinding) :
    ExclusionSound F stored found ↔ CopiesLeftOut F stored found := by
  constructor
  · intro hsound
    exact ⟨fun _ _ => hsound.lateObservation, fun _ _ => hsound.lateSlot,
      fun _ _ => hsound.lateEvent, fun _ hstored _ hfact _ => hsound.fact hstored hfact⟩
  · exact CopiesLeftOut.exclusionSound

end

namespace Scenario

/-- One report, stored three times. -/
def tripledBundle : BundleContents :=
  abBundle [abObservation "o" none, abObservation "o" none, abObservation "o" none]

theorem tripledBundle_usable :
    Usable tripledBundle ((StoredBundle.v1 tripledBundle).report textFormat []) 2 := by
  have hany : (((analysisAlignment tripledBundle
      ((StoredBundle.v1 tripledBundle).report textFormat [])).observationAssignments)[2]?.any
        fun assignment => (EligibilityPlan.fromReport
          ((StoredBundle.v1 tripledBundle).report textFormat [])).disposition 2 assignment =
            some .usable) = true := by
    decide +kernel
  obtain ⟨assignment, hassignment, hdisposition⟩ := (Option.any_eq_true _ _).1 hany
  exact ⟨assignment, hassignment, by simpa using hdisposition⟩

theorem tripledBundle_unsound :
    (∃ summary, summarizeWithReport flatElevation analysisResourceLimits tripledBundle
      ((StoredBundle.v1 tripledBundle).report textFormat []) = .ok summary) ∧
      ¬ExclusionSound textFormat (.v1 tripledBundle) [] := by
  constructor
  · have hany : (summarizeWithReport flatElevation analysisResourceLimits tripledBundle
        ((StoredBundle.v1 tripledBundle).report textFormat [])).toOption.any
          (fun _ => true) = true := by
      decide +kernel
    obtain ⟨summary, hok, -⟩ := exists_ok_of_any hany
    exact ⟨summary, hok⟩
  · intro hsound
    exact hsound.repeated 2 "o" rfl (by decide) tripledBundle_usable

end Scenario

end AntennaBench
