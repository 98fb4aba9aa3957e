import Mathlib.Data.List.Pairwise
import Mathlib.Data.List.Sublists
import Mathlib.Data.List.TakeWhile

/-!
# Sliding windows

A scan that compares every item with those after it and stops at the first one out of
reach. Where the items between two near ones are near as well, as in a sorted list, the scan
leaves no near pair out.
-/

namespace Timeline

variable {α β : Type}

/-- The reports about each item and those after it, up to the first that is not near. -/
def windowPairs (near : α → α → Bool) (report : α → α → List β) : List α → List β
  | [] => []
  | a :: rest => (rest.takeWhile (near a)).flatMap (report a) ++ windowPairs near report rest

theorem mem_takeWhile {p : α → Bool} {items : List α}
    (h : items.Pairwise fun a b => p b = true → p a = true) {a : α} :
    a ∈ items.takeWhile p ↔ a ∈ items ∧ p a = true := by
  constructor
  · intro ha
    exact ⟨(List.takeWhile_prefix p).subset ha, List.mem_takeWhile_imp ha⟩
  · rintro ⟨ha, hp⟩
    induction items with
    | nil => cases ha
    | cons first rest ih =>
      obtain ⟨hfirst, hrest⟩ := List.pairwise_cons.1 h
      have hnear : p first = true := by
        rcases List.mem_cons.1 ha with rfl | hmem
        · exact hp
        · exact hfirst a hmem hp
      rw [List.takeWhile_cons_of_pos hnear]
      rcases List.mem_cons.1 ha with rfl | hmem
      · exact List.mem_cons_self
      · exact List.mem_cons_of_mem _ (ih hrest hmem)

/-- What the scan reports comes of a near pair. -/
theorem exists_of_mem_windowPairs {near : α → α → Bool} {report : α → α → List β}
    {items : List α} {r : β} (h : r ∈ windowPairs near report items) :
    ∃ a b, [a, b].Sublist items ∧ near a b = true ∧ r ∈ report a b := by
  induction items with
  | nil => cases h
  | cons a rest ih =>
    rcases List.mem_append.1 h with hhere | hlater
    · obtain ⟨b, hb, hr⟩ := List.mem_flatMap.1 hhere
      have hmem : b ∈ rest := (List.takeWhile_prefix _).subset hb
      exact ⟨a, b, (List.singleton_sublist.2 hmem).cons_cons a, List.mem_takeWhile_imp hb, hr⟩
    · obtain ⟨a, b, hsub, hnear, hr⟩ := ih hlater
      exact ⟨a, b, hsub.cons _, hnear, hr⟩

/-- In a list where nearness does not skip items, a silent scan has seen every near pair. -/
theorem pairwise_of_windowPairs_eq_nil {near : α → α → Bool} {report : α → α → List β}
    {items : List α}
    (hnear : items.Pairwise fun b c => ∀ a, near a c = true → near a b = true)
    (h : windowPairs near report items = []) :
    items.Pairwise fun a b => near a b = true → report a b = [] := by
  induction items with
  | nil => exact List.Pairwise.nil
  | cons a rest ih =>
    obtain ⟨hhere, hlater⟩ := List.append_eq_nil_iff.1 h
    have hrest := (List.pairwise_cons.1 hnear).2
    refine List.pairwise_cons.2 ⟨?_, ih hrest hlater⟩
    intro b hb hab
    have hsees : rest.Pairwise fun b c => near a c = true → near a b = true :=
      hrest.imp fun h => h a
    exact List.flatMap_eq_nil_iff.1 hhere b ((mem_takeWhile hsees).2 ⟨hb, hab⟩)

end Timeline
