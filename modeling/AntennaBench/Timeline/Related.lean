import Mathlib.Data.List.Forall2
import Mathlib.Data.List.ReduceOption

/-!
# Lists related item by item

What two lists of related items have in common: a partner for each item, the first item
that passes a test, the number that do, and the rows a partial function selects.
-/

namespace Timeline

theorem exists_forall₂ {α β : Type} {R : α → β → Prop} {items : List α}
    (h : ∀ a ∈ items, ∃ b, R a b) : ∃ results, List.Forall₂ R items results := by
  induction items with
  | nil => exact ⟨[], .nil⟩
  | cons a items ih =>
    obtain ⟨b, hb⟩ := h a List.mem_cons_self
    obtain ⟨results, hresults⟩ := ih fun a hmem => h a (List.mem_cons_of_mem _ hmem)
    exact ⟨b :: results, .cons hb hresults⟩

theorem forall₂_exists_right {α β : Type} {R : α → β → Prop} {items : List α} {results : List β}
    (h : List.Forall₂ R items results) : ∀ a ∈ items, ∃ b ∈ results, R a b := by
  induction h with
  | nil => simp
  | @cons a b items results hab _ ih =>
    refine List.forall_mem_cons.mpr ⟨⟨b, List.mem_cons_self, hab⟩, fun a hmem => ?_⟩
    obtain ⟨b, hb, hab⟩ := ih a hmem
    exact ⟨b, List.mem_cons_of_mem _ hb, hab⟩

theorem forall₂_exists_left {α β : Type} {R : α → β → Prop} {items : List α} {results : List β}
    (h : List.Forall₂ R items results) : ∀ b ∈ results, ∃ a ∈ items, R a b :=
  forall₂_exists_right h.flip

/-- A partial map that is defined everywhere relates the items to its values. -/
theorem mapM_eq_some {α β : Type} {f : α → Option β} {items : List α} {results : List β} :
    items.mapM f = some results ↔ List.Forall₂ (fun a b => f a = some b) items results := by
  induction items generalizing results with
  | nil => simp [eq_comm]
  | cons a items ih =>
    simp only [List.mapM_cons, Option.bind_eq_bind, Option.pure_def, Option.bind_eq_some_iff, ih]
    constructor
    · rintro ⟨b, hb, rest, hrest, h⟩
      obtain rfl := Option.some.inj h
      exact .cons hb hrest
    · rintro (_ | ⟨hb, hrest⟩)
      exact ⟨_, hb, _, hrest, rfl⟩

theorem forall₂_filter_length {α β : Type} {R : α → β → Prop} {items : List α} {images : List β}
    {p : α → Bool} {q : β → Bool} (h : List.Forall₂ R items images)
    (hpq : ∀ a ∈ items, ∀ b, R a b → q b = p a) :
    (images.filter q).length = (items.filter p).length := by
  induction h with
  | nil => rfl
  | cons hab _ ih =>
    rw [List.forall_mem_cons] at hpq
    rw [List.filter_cons, List.filter_cons, hpq.1 _ hab]
    split_ifs
    · rw [List.length_cons, List.length_cons, ih hpq.2]
    · exact ih hpq.2

theorem forall₂_append_left {α β : Type} {R : α → β → Prop} {items more : List α}
    {results : List β} (h : List.Forall₂ R (items ++ more) results) :
    ∃ firsts rest, results = firsts ++ rest ∧ List.Forall₂ R items firsts ∧
      List.Forall₂ R more rest := by
  induction items generalizing results with
  | nil => exact ⟨[], results, rfl, .nil, h⟩
  | cons a items ih =>
    rw [List.cons_append] at h
    cases h with
    | @cons _ b _ results hab htail =>
      obtain ⟨firsts, rest, rfl, hitems, hmore⟩ := ih htail
      exact ⟨b :: firsts, rest, rfl, .cons hab hitems, hmore⟩

/-- A list with an item that passes a test splits at the last one. -/
theorem exists_last {α : Type} {p : α → Bool} {items : List α} (h : ∃ a ∈ items, p a = true) :
    ∃ before a after, items = before ++ a :: after ∧ p a = true ∧
      ∀ b ∈ after, p b = false := by
  induction items with
  | nil =>
    obtain ⟨a, hmem, -⟩ := h
    cases hmem
  | cons a items ih =>
    by_cases hlater : ∃ b ∈ items, p b = true
    · obtain ⟨before, b, after, rfl, hb, hafter⟩ := ih hlater
      exact ⟨a :: before, b, after, rfl, hb, hafter⟩
    · obtain ⟨b, hmem, hb⟩ := h
      have hfirst : b = a := by
        rcases List.mem_cons.1 hmem with heq | hrest
        · exact heq
        · exact absurd ⟨b, hrest, hb⟩ hlater
      refine ⟨[], a, items, rfl, hfirst ▸ hb, ?_⟩
      intro c hc
      by_contra hpass
      exact hlater ⟨c, hc, by simpa using hpass⟩

/-- Related lists have related first items. -/
theorem forall₂_find? {α β : Type} {R : α → β → Prop} {p : α → Bool} {q : β → Bool}
    {items : List α} {results : List β} (h : List.Forall₂ R items results)
    (hpq : ∀ a b, R a b → p a = q b) :
    (items.find? p = none ∧ results.find? q = none) ∨
      ∃ a b, items.find? p = some a ∧ results.find? q = some b ∧ R a b := by
  induction h with
  | nil => exact .inl ⟨rfl, rfl⟩
  | @cons a b items results hab _ ih =>
    rw [List.find?_cons, List.find?_cons, hpq a b hab]
    cases q b with
    | true => exact .inr ⟨a, b, rfl, rfl, hab⟩
    | false => exact ih

/-- Two selections of related items are related where each item agrees with its image. -/
theorem forall₂_reduceOption {α β γ : Type} {R : β → γ → Prop} {f : α → Option β}
    {g : α → Option (Option γ)} {items : List α} {results : List (Option γ)}
    (h : items.mapM g = some results)
    (hspec : ∀ a result, g a = some result → (f a = none ∧ result = none) ∨
      ∃ b c, f a = some b ∧ result = some c ∧ R b c) :
    List.Forall₂ R (items.filterMap f) results.reduceOption := by
  induction items generalizing results with
  | nil =>
    obtain rfl : [] = results := by simpa using h
    exact .nil
  | cons a items ih =>
    simp only [List.mapM_cons, Option.pure_def, Option.bind_eq_bind,
      Option.bind_eq_some_iff] at h
    obtain ⟨result, hresult, rest, hrest, heq⟩ := h
    obtain rfl := Option.some.inj heq
    rcases hspec a result hresult with ⟨hnone, rfl⟩ | ⟨b, c, hsome, rfl, hbc⟩
    · rw [List.filterMap_cons_none hnone, List.reduceOption, List.filterMap_cons_none rfl]
      exact ih hrest
    · rw [List.filterMap_cons_some hsome, List.reduceOption,
        List.filterMap_cons_some (f := id) (b := c) rfl]
      exact .cons hbc (ih hrest)

end Timeline
