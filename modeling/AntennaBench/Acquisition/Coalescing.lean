import Mathlib.Data.List.Induction
import AntennaBench.Acquisition.Advance
import AntennaBench.Scenario.Session

/-!
# Coalesced acquisitions

The plan that ends last stands for every plan that is due: each plan covers all the slots
that are over when it ends, so a later end covers what an earlier one does. A plan that
is dropped since something that ends no earlier was captured is covered by that.
-/

namespace AntennaBench

/-- The query asks for at least what the other asks for. -/
structure WsprLiveQueryPlan.Covers (query other : WsprLiveQueryPlan) : Prop where
  windowStart : query.windowStart ≤ other.windowStart
  windowEnd : other.windowEnd ≤ query.windowEnd
  providerBands : other.providerBands ⊆ query.providerBands

section

variable {α κ : Type} [LinearOrder κ] (key : α → κ)

/-- The larger one by key, the second where they are equal. -/
theorem maxByKey_concat (items : List α) (item : α) :
    maxByKey key (items ++ [item]) = match maxByKey key items with
      | some best => if key best ≤ key item then some item else some best
      | none => some item := by
  rw [maxByKey, List.foldl_append]
  rfl

theorem exists_maxByKey {items : List α} (h : items ≠ []) :
    ∃ best, maxByKey key items = some best := by
  induction items using List.reverseRecOn with
  | nil => exact absurd rfl h
  | append_singleton items item =>
    rw [maxByKey_concat]
    split
    · split_ifs
      · exact ⟨_, rfl⟩
      · exact ⟨_, rfl⟩
    · exact ⟨_, rfl⟩

/-- `maxByKey` gives an item that no other one is above. -/
theorem maxByKey_spec {items : List α} {a : α} (h : maxByKey key items = some a) :
    a ∈ items ∧ ∀ b ∈ items, key b ≤ key a := by
  induction items using List.reverseRecOn generalizing a with
  | nil => cases h
  | append_singleton items item ih =>
    rw [maxByKey_concat] at h
    cases hbest : maxByKey key items with
    | none =>
      have hempty : items = [] := by
        by_contra hne
        obtain ⟨best, hsome⟩ := exists_maxByKey key hne
        rw [hbest] at hsome
        cases hsome
      rw [hbest] at h
      cases h
      simp [hempty]
    | some best =>
      obtain ⟨hmem, hle⟩ := ih hbest
      rw [hbest] at h
      dsimp only at h
      simp only [List.mem_append, List.mem_singleton]
      split_ifs at h with hkey
      · cases h
        refine ⟨Or.inr rfl, ?_⟩
        rintro b (hb | rfl)
        · exact (hle b hb).trans hkey
        · exact le_rfl
      · cases h
        refine ⟨Or.inl hmem, ?_⟩
        rintro b (hb | rfl)
        · exact hle b hb
        · exact (not_le.mp hkey).le

end

theorem slotBands_concat (slots : List PlannedSlot) (slot : PlannedSlot) :
    slotBands (slots ++ [slot]) =
      if slot.band ∈ slotBands slots then slotBands slots else slotBands slots ++ [slot.band] := by
  rw [slotBands, List.foldl_append]
  rfl

theorem mem_slotBands {slots : List PlannedSlot} {band : Band} :
    band ∈ slotBands slots ↔ ∃ slot ∈ slots, slot.band = band := by
  induction slots using List.reverseRecOn with
  | nil => simp [slotBands]
  | append_singleton slots slot ih =>
    simp only [List.mem_append, List.mem_singleton, or_and_right, exists_or, exists_eq_left]
    rw [slotBands_concat, ← ih]
    split_ifs with hmem
    · refine ⟨Or.inl, ?_⟩
      rintro (hband | rfl)
      · exact hband
      · exact hmem
    · rw [List.mem_append, List.mem_singleton, eq_comm (a := band)]

theorem mem_completedSlots {slots completed : List PlannedSlot} {segmentEndedAt : DateTime}
    (h : completedSlots slots segmentEndedAt = .ok completed) {slot : PlannedSlot} :
    slot ∈ completed ↔
      slot ∈ slots ∧ ∃ ended, slotEnd slot = .ok ended ∧ ended ≤ segmentEndedAt := by
  obtain ⟨ends, hends, hcompleted⟩ := bind_eq_ok.mp h
  rw [← pure_eq_ok.mp hcompleted]
  have hpair : ∀ slot (pair : PlannedSlot × DateTime),
      (slotEnd slot >>= fun ended => (pure (slot, ended) : Except WsprLiveImportError _)) =
        .ok pair → pair.1 = slot ∧ slotEnd slot = .ok pair.2 := by
    intro slot pair hpair
    obtain ⟨ended, hended, hpure⟩ := bind_eq_ok.mp hpair
    rw [← pure_eq_ok.mp hpure]
    exact ⟨rfl, hended⟩
  constructor
  · intro hslot
    obtain ⟨pair, hmem, rfl⟩ := List.mem_map.mp hslot
    obtain ⟨hin, hle⟩ := List.mem_filter.mp hmem
    obtain ⟨other, hother, hread⟩ := mapM_item hends pair hin
    obtain ⟨hsame, hended⟩ := hpair other pair hread
    subst hsame
    exact ⟨hother, pair.2, hended, of_decide_eq_true hle⟩
  · rintro ⟨hin, ended, hended, hle⟩
    obtain ⟨pair, hmem, hread⟩ := mapM_result hends slot hin
    obtain ⟨hsame, hended'⟩ := hpair slot pair hread
    rw [hended] at hended'
    injection hended' with hsameEnd
    refine List.mem_map.mpr ⟨pair, List.mem_filter.mpr ⟨hmem, ?_⟩, hsame⟩
    exact decide_eq_true (hsameEnd ▸ hle)

theorem foldl_min_le_first (values : List ℤ) (first : ℤ) : values.foldl min first ≤ first := by
  induction values generalizing first with
  | nil => exact le_rfl
  | cons head rest ih =>
    rw [List.foldl_cons]
    exact (ih _).trans (min_le_left _ _)

theorem foldl_min_le {values : List ℤ} {value : ℤ} (first : ℤ) (h : value ∈ values) :
    values.foldl min first ≤ value := by
  induction values generalizing first with
  | nil => cases h
  | cons head rest ih =>
    rw [List.foldl_cons]
    rcases List.mem_cons.mp h with rfl | h
    · exact (foldl_min_le_first _ _).trans (min_le_right _ _)
    · exact ih _ h

theorem foldl_min_mem (values : List ℤ) (first : ℤ) :
    values.foldl min first = first ∨ values.foldl min first ∈ values := by
  induction values generalizing first with
  | nil => exact Or.inl rfl
  | cons head rest ih =>
    rw [List.foldl_cons]
    rcases ih (min first head) with h | h
    · rw [h]
      rcases min_choice first head with hmin | hmin
      · exact Or.inl hmin
      · exact Or.inr (by rw [hmin]; exact List.mem_cons_self)
    · exact Or.inr (List.mem_cons_of_mem _ h)

/-- What the plan of a completed slot is: its window begins with the first of the slots that
are over at its end, and its bands are theirs. -/
structure PlanOf (slots : List PlannedSlot) (plan : WsprLiveAcquisitionPlan) : Prop where
  windowEnd : plan.query.windowEnd = plan.segmentEndedAt
  notBefore : plan.notBefore =
    plan.segmentEndedAt + DateTime.seconds wsprLiveIngestionGraceSeconds
  startsWith : ∃ slot ∈ slots, (∃ ended, slotEnd slot = .ok ended ∧
    ended ≤ plan.segmentEndedAt) ∧ plan.query.windowStart = wsprLiveQueryWindowStart slot.startsAt
  starts : ∀ slot ∈ slots, ∀ ended, slotEnd slot = .ok ended → ended ≤ plan.segmentEndedAt →
    plan.query.windowStart ≤ wsprLiveQueryWindowStart slot.startsAt
  bands : ∀ band, band ∈ plan.query.providerBands ↔ ∃ slot ∈ slots,
    (∃ ended, slotEnd slot = .ok ended ∧ ended ≤ plan.segmentEndedAt) ∧
      bandToWsprLive slot.band = band

theorem planWsprLiveQuery_ok {scope : WsprLiveQueryScope} {query : WsprLiveQueryPlan}
    (h : planWsprLiveQuery scope = .ok query) :
    query.windowStart = scope.windowStart ∧ query.windowEnd = scope.windowEnd ∧
      ∀ band, band ∈ query.providerBands ↔ ∃ selected ∈ scope.selectedBands,
        bandToWsprLive selected = band := by
  obtain ⟨_, -, hquery⟩ := bind_eq_ok.mp h
  rw [← pure_eq_ok.mp hquery]
  refine ⟨rfl, rfl, fun band => ?_⟩
  rw [List.mem_dedup, (List.perm_insertionSort _ _).mem_iff, List.mem_map]

theorem planForCompletedSlot_ok {sessionCallsign completedSlotId : String}
    {slots : List PlannedSlot} {plan : WsprLiveAcquisitionPlan}
    (h : planForCompletedSlot sessionCallsign slots completedSlotId = .ok plan) :
    PlanOf slots plan := by
  obtain ⟨completedSlot, hfound, h⟩ := bind_eq_ok.mp h
  obtain ⟨segmentEndedAt, hended, h⟩ := bind_eq_ok.mp h
  obtain ⟨notBefore, hgrace, h⟩ := bind_eq_ok.mp h
  obtain ⟨completed, hcompleted, h⟩ := bind_eq_ok.mp h
  obtain ⟨query, hquery, h⟩ := bind_eq_ok.mp h
  rw [← pure_eq_ok.mp h]
  obtain ⟨hstart, hend, hbands⟩ := planWsprLiveQuery_ok hquery
  have hslot : completedSlot ∈ slots := List.mem_of_find?_eq_some (orError_eq_ok.mp hfound)
  have hgrace := (DateTime.checkedAdd_eq_some.mp (orError_eq_ok.mp hgrace)).2.2
  refine ⟨hend, hgrace, ?_, ?_, ?_⟩
  · dsimp only
    rw [hstart]
    rcases foldl_min_mem (completed.map fun slot => wsprLiveQueryWindowStart slot.startsAt)
      (wsprLiveQueryWindowStart completedSlot.startsAt) with hmin | hmin
    · exact ⟨completedSlot, hslot, ⟨_, hended, le_rfl⟩, hmin⟩
    · obtain ⟨slot, hin, hvalue⟩ := List.mem_map.mp hmin
      obtain ⟨hin, hover⟩ := (mem_completedSlots hcompleted).mp hin
      exact ⟨slot, hin, hover, hvalue.symm⟩
  · intro slot hin ended hslotEnd hle
    dsimp only
    rw [hstart]
    refine foldl_min_le _ (List.mem_map.mpr ⟨slot, ?_, rfl⟩)
    exact (mem_completedSlots hcompleted).mpr ⟨hin, ended, hslotEnd, hle⟩
  · intro band
    dsimp only
    rw [hbands]
    constructor
    · rintro ⟨selected, hselected, rfl⟩
      obtain ⟨slot, hin, rfl⟩ := mem_slotBands.mp hselected
      obtain ⟨hin, hover⟩ := (mem_completedSlots hcompleted).mp hin
      exact ⟨slot, hin, hover, rfl⟩
    · rintro ⟨slot, hin, hover, rfl⟩
      have hmem := (mem_completedSlots hcompleted).mpr ⟨hin, hover⟩
      exact ⟨slot.band, mem_slotBands.mpr ⟨slot, hmem, rfl⟩, rfl⟩

/-- Of two plans of a schedule, the one that ends last covers the other. -/
theorem PlanOf.covers {slots : List PlannedSlot} {plan other : WsprLiveAcquisitionPlan}
    (h : PlanOf slots plan) (hother : PlanOf slots other)
    (hend : other.segmentEndedAt ≤ plan.segmentEndedAt) : plan.query.Covers other.query := by
  refine ⟨?_, ?_, ?_⟩
  · obtain ⟨slot, hslot, ⟨ended, hended, hle⟩, hstart⟩ := hother.startsWith
    rw [hstart]
    exact h.starts slot hslot ended hended (hle.trans hend)
  · rw [h.windowEnd, hother.windowEnd]
    exact hend
  · intro band hband
    obtain ⟨slot, hslot, ⟨ended, hended, hle⟩, rfl⟩ := (hother.bands band).mp hband
    exact (h.bands _).mpr ⟨slot, hslot, ⟨ended, hended, hle.trans hend⟩, rfl⟩

theorem plansForConfirmedSlots_planOf {sessionCallsign : String} {slots : List PlannedSlot}
    {confirmedSlotIds : List String} {plans : List WsprLiveAcquisitionPlan}
    (h : plansForConfirmedSlots sessionCallsign slots confirmedSlotIds = .ok plans) :
    ∀ plan ∈ plans, PlanOf slots plan := by
  obtain ⟨_, -, h⟩ := bind_eq_ok.mp h
  intro plan hplan
  obtain ⟨slot, -, hslot⟩ := mapM_item h plan hplan
  exact planForCompletedSlot_ok hslot

/-- More confirmed slots authorize the plans of fewer. -/
theorem plansForConfirmedSlots_mono {sessionCallsign : String} {slots : List PlannedSlot}
    {confirmedSlotIds more : List String} {plans morePlans : List WsprLiveAcquisitionPlan}
    (h : plansForConfirmedSlots sessionCallsign slots confirmedSlotIds = .ok plans)
    (hmore : plansForConfirmedSlots sessionCallsign slots more = .ok morePlans)
    (hsubset : confirmedSlotIds ⊆ more) : plans ⊆ morePlans := by
  obtain ⟨_, -, h⟩ := bind_eq_ok.mp h
  obtain ⟨_, -, hmore⟩ := bind_eq_ok.mp hmore
  intro plan hplan
  obtain ⟨slot, hslot, hread⟩ := mapM_item h plan hplan
  have hauthorized : slot ∈ authorizedCompletedSlots slots more := by
    obtain ⟨pair, hpair, rfl⟩ := List.mem_map.mp hslot
    obtain ⟨hin, hconfirmed⟩ := List.mem_filter.mp hpair
    refine List.mem_map.mpr ⟨pair, List.mem_filter.mpr ⟨hin, ?_⟩, rfl⟩
    rw [Bool.or_eq_true, Bool.and_eq_true, Option.any_eq_true] at hconfirmed ⊢
    rcases hconfirmed with ⟨next, hnext, hid⟩ | ⟨hlast, hid⟩
    · exact Or.inl ⟨next, hnext, decide_eq_true (hsubset (of_decide_eq_true hid))⟩
    · exact Or.inr ⟨hlast, decide_eq_true (hsubset (of_decide_eq_true hid))⟩
  obtain ⟨other, hother, hsame⟩ := mapM_result hmore slot hauthorized
  rw [hread] at hsame
  injection hsame with hsame
  exact hsame ▸ hother

theorem latestDue_covers {slots : List PlannedSlot} {plans : List WsprLiveAcquisitionPlan}
    (hplans : ∀ plan ∈ plans, PlanOf slots plan) {now : DateTime}
    {lastRequestStartedAt : Option DateTime}
    (hinterval : intervalAllowsRequest now lastRequestStartedAt = true)
    (hdue : ∃ plan ∈ plans, plan.notBefore ≤ now) :
    ∃ taken, latestDueWsprLiveAcquisition plans now lastRequestStartedAt = some taken ∧
      taken ∈ plans ∧ taken.notBefore ≤ now ∧
      ∀ plan ∈ plans, plan.notBefore ≤ now → taken.query.Covers plan.query := by
  obtain ⟨due, hmem, hbefore⟩ := hdue
  have hnonempty : plans.filter (·.notBefore ≤ now) ≠ [] :=
    List.ne_nil_of_mem (List.mem_filter.mpr ⟨hmem, decide_eq_true hbefore⟩)
  rw [latestDueWsprLiveAcquisition, if_pos hinterval]
  obtain ⟨taken, htaken⟩ := exists_maxByKey (fun plan : WsprLiveAcquisitionPlan =>
    (toLex (plan.segmentEndedAt, plan.completedSlotId) : DateTime ×ₗ String)) hnonempty
  obtain ⟨hin, hmax⟩ := maxByKey_spec _ htaken
  obtain ⟨htakenMem, htakenDue⟩ := List.mem_filter.mp hin
  refine ⟨taken, htaken, htakenMem, of_decide_eq_true htakenDue, ?_⟩
  intro plan hplan hplanDue
  have hle := hmax plan (List.mem_filter.mpr ⟨hplan, decide_eq_true hplanDue⟩)
  have hends : plan.segmentEndedAt ≤ taken.segmentEndedAt := by
    rcases Prod.Lex.toLex_le_toLex.mp hle with hlt | ⟨heq, -⟩
    · exact hlt.le
    · exact heq.le
  exact (hplans taken htakenMem).covers (hplans plan hplan) hends

/-- One look at a schedule: what is confirmed, the time, and the last request. -/
structure AcquisitionLook where
  confirmedSlotIds : List String
  now : DateTime
  lastRequestStartedAt : Option DateTime

/-- The plans that end after what is captured. -/
def uncapturedPlans (captured plans : List WsprLiveAcquisitionPlan) :
    List WsprLiveAcquisitionPlan :=
  plans.filter fun plan =>
    (captured.map (·.query.windowEnd)).max?.all (· < plan.query.windowEnd)

/-- A look, with the plan it takes captured. -/
def captureDue (sessionCallsign : String) (slots : List PlannedSlot)
    (captured : List WsprLiveAcquisitionPlan) (look : AcquisitionLook) :
    List WsprLiveAcquisitionPlan :=
  match plansForConfirmedSlots sessionCallsign slots look.confirmedSlotIds with
  | .error _ => captured
  | .ok plans => captured ++ (latestDueWsprLiveAcquisition (uncapturedPlans captured plans)
      look.now look.lastRequestStartedAt).toList

/-- What a run of looks captures. -/
def capturedByLooks (sessionCallsign : String) (slots : List PlannedSlot)
    (looks : List AcquisitionLook) : List WsprLiveAcquisitionPlan :=
  looks.foldl (captureDue sessionCallsign slots) []

section

variable {sessionCallsign : String} {slots : List PlannedSlot}

theorem captureDue_planOf {captured : List WsprLiveAcquisitionPlan}
    (h : ∀ plan ∈ captured, PlanOf slots plan) (look : AcquisitionLook) :
    ∀ plan ∈ captureDue sessionCallsign slots captured look, PlanOf slots plan := by
  unfold captureDue
  split
  · exact h
  · rename_i plans hplans
    intro plan hplan
    rcases List.mem_append.mp hplan with hplan | hplan
    · exact h plan hplan
    · have htaken := Option.mem_toList.mp hplan
      unfold latestDueWsprLiveAcquisition at htaken
      split_ifs at htaken
      have hmem := List.mem_of_mem_filter (maxByKey_spec _ htaken).1
      exact plansForConfirmedSlots_planOf hplans plan (List.mem_of_mem_filter hmem)

theorem capturedByLooks_planOf (looks : List AcquisitionLook) :
    ∀ plan ∈ capturedByLooks sessionCallsign slots looks, PlanOf slots plan := by
  unfold capturedByLooks
  induction looks using List.reverseRecOn with
  | nil => nofun
  | append_singleton looks look ih =>
    rw [List.foldl_append]
    exact captureDue_planOf ih look

/-- After a look at which the interval is over, whatever is due is covered. -/
theorem captureDue_covers {captured : List WsprLiveAcquisitionPlan}
    (h : ∀ plan ∈ captured, PlanOf slots plan) {look : AcquisitionLook}
    {plans : List WsprLiveAcquisitionPlan}
    (hplans : plansForConfirmedSlots sessionCallsign slots look.confirmedSlotIds = .ok plans)
    (hinterval : intervalAllowsRequest look.now look.lastRequestStartedAt = true)
    {plan : WsprLiveAcquisitionPlan} (hplan : plan ∈ plans) (hdue : plan.notBefore ≤ look.now) :
    ∃ capture ∈ captureDue sessionCallsign slots captured look,
      capture.query.Covers plan.query := by
  have hplansOf := plansForConfirmedSlots_planOf hplans
  unfold captureDue
  rw [hplans]
  by_cases hpending : plan ∈ uncapturedPlans captured plans
  · have hpendingOf : ∀ plan ∈ uncapturedPlans captured plans, PlanOf slots plan :=
      fun plan hplan => hplansOf plan (List.mem_of_mem_filter hplan)
    obtain ⟨taken, htaken, -, -, hcovers⟩ :=
      latestDue_covers hpendingOf hinterval ⟨plan, hpending, hdue⟩
    refine ⟨taken, ?_, hcovers plan hpending hdue⟩
    dsimp only
    rw [htaken]
    simp
  · -- the plan was dropped, since a capture ends no earlier
    have hdropped : ∃ ended, (captured.map (·.query.windowEnd)).max? = some ended ∧
        plan.query.windowEnd ≤ ended := by
      cases hmax : (captured.map (·.query.windowEnd)).max? with
      | none =>
        exact absurd (List.mem_filter.mpr ⟨hplan, by rw [hmax]; rfl⟩) hpending
      | some ended =>
        refine ⟨ended, rfl, ?_⟩
        by_contra hlater
        refine hpending (List.mem_filter.mpr ⟨hplan, ?_⟩)
        rw [hmax]
        exact decide_eq_true (not_le.mp hlater)
    obtain ⟨ended, hmax, hle⟩ := hdropped
    obtain ⟨capture, hcapture, rfl⟩ := List.mem_map.mp (List.max?_mem hmax)
    refine ⟨capture, List.mem_append_left _ hcapture, ?_⟩
    refine (h capture hcapture).covers (hplansOf plan hplan) ?_
    rw [← (h capture hcapture).windowEnd, ← (hplansOf plan hplan).windowEnd]
    exact hle

end

/-- Coalescing drops no acquisition: the plan that is taken covers every plan that is due,
and in a run of captures every plan that was ever due is covered by the next look at which
the interval is over and that still confirms what was confirmed then. -/
theorem latestDue_coalesces :
    (∀ sessionCallsign slots confirmedSlotIds plans now lastRequestStartedAt,
      plansForConfirmedSlots sessionCallsign slots confirmedSlotIds = .ok plans →
      intervalAllowsRequest now lastRequestStartedAt = true →
      (∃ plan ∈ plans, plan.notBefore ≤ now) →
        ∃ taken, latestDueWsprLiveAcquisition plans now lastRequestStartedAt = some taken ∧
          taken ∈ plans ∧ taken.notBefore ≤ now ∧
          ∀ plan ∈ plans, plan.notBefore ≤ now → taken.query.Covers plan.query) ∧
    ∀ sessionCallsign slots looks look confirmedThen nowThen plansThen plans plan,
      plansForConfirmedSlots sessionCallsign slots confirmedThen = .ok plansThen →
      plan ∈ plansThen → plan.notBefore ≤ nowThen →
      plansForConfirmedSlots sessionCallsign slots look.confirmedSlotIds = .ok plans →
      confirmedThen ⊆ look.confirmedSlotIds → nowThen ≤ look.now →
      intervalAllowsRequest look.now look.lastRequestStartedAt = true →
        ∃ capture ∈ capturedByLooks sessionCallsign slots (looks ++ [look]),
          capture.query.Covers plan.query := by
  refine ⟨?_, ?_⟩
  · intro sessionCallsign slots confirmedSlotIds plans now last hplans
    exact latestDue_covers (plansForConfirmedSlots_planOf hplans)
  · intro sessionCallsign slots looks look confirmedThen nowThen plansThen plans plan hthen hplan
      hdue hplans hconfirmed htime hinterval
    have hstill := plansForConfirmedSlots_mono hthen hplans hconfirmed hplan
    rw [capturedByLooks, List.foldl_append]
    exact captureDue_covers (capturedByLooks_planOf looks) hplans hinterval hstill
      (hdue.trans htime)

namespace Scenario

/-- Slots out of order, the last of them over the end of the one before. -/
def overlappingSlots : List PlannedSlot :=
  [⟨"later", 2, noon 600, 120, 10, .m20, "A"⟩, ⟨"first", 0, noon 0, 120, 10, .m40, "B"⟩,
    ⟨"over", 1, noon 60, 240, 10, .m30, "A"⟩]

theorem overlappingSlots_coalesced : ∃ plans taken,
    plansForConfirmedSlots "K1ABC" overlappingSlots ["first", "over"] = .ok plans ∧
      plans.length = 3 ∧ latestDueWsprLiveAcquisition plans (noon 2000) none = some taken ∧
      ∀ plan ∈ plans, plan.notBefore ≤ noon 2000 → taken.query.Covers plan.query := by
  obtain ⟨plans, hplans, hdue⟩ := exists_ok_of_any (show
    (plansForConfirmedSlots "K1ABC" overlappingSlots ["first", "over"]).toOption.any
      (fun plans => plans.length = 3 && plans.any (·.notBefore ≤ noon 2000)) = true by
        decide)
  rw [Bool.and_eq_true, List.any_eq_true, decide_eq_true_eq] at hdue
  obtain ⟨hlength, plan, hplan, hbefore⟩ := hdue
  obtain ⟨taken, htaken, -, -, hcovers⟩ := latestDue_coalesces.1 _ _ _ _ (noon 2000) none hplans
    rfl ⟨plan, hplan, of_decide_eq_true hbefore⟩
  exact ⟨plans, taken, hplans, hlength, htaken, hcovers⟩

end Scenario

end AntennaBench
