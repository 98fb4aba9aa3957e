import AntennaBench.Timeline.Related

/-!
# Lists that grow

A list keeps its items in order, each related to what it was, and more may follow.
-/

namespace Timeline

variable {α : Type} {R : α → α → Prop} {items later : List α}

/-- The later list starts with one related item for each of the earlier ones. -/
def Grown (R : α → α → Prop) (items later : List α) : Prop :=
  ∃ kept more, later = kept ++ more ∧ List.Forall₂ R items kept

theorem Grown.refl (hR : ∀ a, R a a) (items : List α) : Grown R items items :=
  ⟨items, [], (List.append_nil items).symm, List.forall₂_same.2 fun a _ => hR a⟩

theorem Grown.append (h : Grown R items later) (rest : List α) :
    Grown R items (later ++ rest) := by
  obtain ⟨kept, more, rfl, hkept⟩ := h
  exact ⟨kept, more ++ rest, List.append_assoc kept more rest, hkept⟩

/-- The last item may change on its own. -/
theorem Grown.concat (hR : ∀ a, R a a) (items : List α) {a b : α} (hab : R a b) :
    Grown R (items ++ [a]) (items ++ [b]) := by
  refine ⟨items ++ [b], [], (List.append_nil _).symm, ?_⟩
  apply List.rel_append
  · exact List.forall₂_same.2 fun a _ => hR a
  · exact .cons hab .nil

theorem forall₂_trans (hR : ∀ a b c, R a b → R b c → R a c) {first second third : List α}
    (h : List.Forall₂ R first second) (h' : List.Forall₂ R second third) :
    List.Forall₂ R first third := by
  induction h generalizing third with
  | nil => exact h'
  | cons hab htail ih =>
    cases h' with
    | cons hbc htail' => exact .cons (hR _ _ _ hab hbc) (ih htail')

theorem Grown.trans (hR : ∀ a b c, R a b → R b c → R a c) {last : List α}
    (h : Grown R items later) (h' : Grown R later last) : Grown R items last := by
  obtain ⟨kept, more, rfl, hkept⟩ := h
  obtain ⟨results, rest, rfl, hresults⟩ := h'
  obtain ⟨firsts, seconds, rfl, hfirsts, -⟩ := forall₂_append_left hresults
  exact ⟨firsts, seconds ++ rest, List.append_assoc firsts seconds rest,
    forall₂_trans hR hkept hfirsts⟩

theorem Grown.exists_kept (h : Grown R items later) {a : α} (ha : a ∈ items) :
    ∃ b ∈ later, R a b := by
  obtain ⟨kept, more, rfl, hkept⟩ := h
  obtain ⟨b, hb, hab⟩ := forall₂_exists_right hkept a ha
  exact ⟨b, List.mem_append_left more hb, hab⟩

/-- Two readings of a list and of a longer one, if they are related on the shorter one. -/
theorem Grown.map {β : Type} {f g : β → α} {shorter longer : List β} (h : shorter <+: longer)
    (hfg : ∀ b ∈ shorter, R (f b) (g b)) : Grown R (shorter.map f) (longer.map g) := by
  obtain ⟨more, rfl⟩ := h
  refine ⟨shorter.map g, more.map g, List.map_append, ?_⟩
  rw [List.forall₂_map_left_iff, List.forall₂_map_right_iff, List.forall₂_same]
  exact hfg

end Timeline
