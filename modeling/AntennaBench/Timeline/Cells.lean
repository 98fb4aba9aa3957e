import Mathlib.Data.Finset.Card
import Mathlib.Algebra.BigOperators.Group.Finset.Basic
import AntennaBench.Timeline.OrderedMap

/-!
# Cells of a map

A family of accumulators, one for each category, of which a loop updates one at a time.
The loop leaves in a cell the fold of the items of its category. The cells count every item
once, and every name once where the items of one name share a category.
-/

namespace Timeline

variable {α β κ ν : Type}

/-- The cell of `k` is replaced by its update. -/
def updateCell [DecidableEq κ] (k : κ) (f : α → α) (cells : κ → α) : κ → α :=
  Function.update cells k (f (cells k))

section

variable [DecidableEq κ]

theorem updateCell_self (k : κ) (f : α → α) (cells : κ → α) :
    updateCell k f cells k = f (cells k) :=
  Function.update_self k _ cells

theorem updateCell_of_ne {k other : κ} (h : other ≠ k) (f : α → α) (cells : κ → α) :
    updateCell k f cells other = cells other :=
  Function.update_of_ne h _ cells

/-- An update that adds to the count of a cell adds as much to the sum. -/
theorem sum_updateCell {keys : List κ} (hkeys : keys.Nodup) {k : κ} (hk : k ∈ keys)
    {count : α → ℕ} {f : α → α} {cells : κ → α} {n : ℕ}
    (hf : count (f (cells k)) = count (cells k) + n) :
    (keys.map fun key => count (updateCell k f cells key)).sum =
      (keys.map fun key => count (cells key)).sum + n := by
  induction keys with
  | nil => cases hk
  | cons key keys ih =>
    obtain ⟨hnot, hrest⟩ := List.nodup_cons.1 hkeys
    rw [List.map_cons, List.sum_cons, List.map_cons, List.sum_cons]
    by_cases hkey : key = k
    · subst hkey
      have hsame : keys.map (fun other => count (updateCell key f cells other)) =
          keys.map fun other => count (cells other) := by
        apply List.map_congr_left
        intro other hother
        rw [updateCell_of_ne (ne_of_mem_of_not_mem hother hnot)]
      rw [hsame, updateCell_self, hf]
      omega
    · rw [updateCell_of_ne hkey, ih hrest ((List.mem_cons.1 hk).resolve_left (Ne.symm hkey))]
      omega

theorem foldl_updateCell (key : β → κ) (step : α → β → α) (items : List β) (cells : κ → α)
    (k : κ) :
    items.foldl (fun cells b => updateCell (key b) (step · b) cells) cells k =
      (items.filter (key · = k)).foldl step (cells k) := by
  induction items generalizing cells with
  | nil => rfl
  | cons b items ih =>
    rw [List.foldl_cons, ih]
    by_cases hkey : key b = k
    · subst hkey
      rw [List.filter_cons_of_pos (by simp), updateCell_self, List.foldl_cons]
    · rw [List.filter_cons_of_neg (by simpa using hkey), updateCell_of_ne (Ne.symm hkey)]

/-- The distinct names of the classes are those of the items, each in one class. -/
theorem sum_card_classes [DecidableEq ν] {keys : List κ} (hkeys : keys.Nodup) {key : β → κ}
    {name : β → ν} {items : List β} (hmem : ∀ b ∈ items, key b ∈ keys)
    (hsame : ∀ a ∈ items, ∀ b ∈ items, name a = name b → key a = key b) :
    (keys.map fun k => ((items.filter (key · = k)).map name).toFinset.card).sum =
      (items.map name).toFinset.card := by
  have hdisjoint : ∀ k ∈ keys.toFinset, ∀ k' ∈ keys.toFinset, k ≠ k' →
      Disjoint ((items.filter (key · = k)).map name).toFinset
        ((items.filter (key · = k')).map name).toFinset := by
    intro k _ k' _ hne
    rw [Finset.disjoint_left]
    intro n hn hn'
    simp only [List.mem_toFinset, List.mem_map, List.mem_filter, decide_eq_true_eq] at hn hn'
    obtain ⟨a, ⟨ha, rfl⟩, rfl⟩ := hn
    obtain ⟨b, ⟨hb, rfl⟩, hname⟩ := hn'
    exact hne (hsame a ha b hb hname.symm)
  have hunion : (items.map name).toFinset =
      keys.toFinset.biUnion fun k => ((items.filter (key · = k)).map name).toFinset := by
    ext n
    simp only [List.mem_toFinset, List.mem_map, Finset.mem_biUnion, List.mem_filter,
      decide_eq_true_eq]
    constructor
    · rintro ⟨b, hb, rfl⟩
      exact ⟨key b, hmem b hb, b, ⟨hb, rfl⟩, rfl⟩
    · rintro ⟨k, -, b, ⟨hb, -⟩, rfl⟩
      exact ⟨b, hb, rfl⟩
  rw [hunion, Finset.card_biUnion hdisjoint, List.sum_toFinset _ hkeys]

end

section

variable [LinearOrder κ]

/-- The groups of items pushed under their own keys are the classes of the keys. -/
theorem groups_keyed (key : β → κ) (items : List β) :
    groups (items.map fun b => (key b, b)) =
      (sortedKeys (items.map key)).map fun k => (k, items.filter (key · = k)) := by
  have hpushed : ∀ k, pushed k (items.map fun b => (key b, b)) = items.filter (key · = k) := by
    intro k
    rw [pushed, List.filter_map, List.map_map]
    exact List.map_id _
  have hkeys : (items.map fun b => (key b, b)).map (·.1) = items.map key := by
    rw [List.map_map]
    rfl
  rw [groups, hkeys]
  simp only [hpushed]

/-- A loop of updates under the keys of the items leaves the folds of the classes. -/
theorem foldl_modifyEntry_keyed (default : α) (key : β → κ) (step : α → β → α)
    (items : List β) :
    items.foldl (fun map b => modifyEntry default (key b) (step · b) map) [] =
      (sortedKeys (items.map key)).map fun k =>
        (k, (items.filter (key · = k)).foldl step default) := by
  have hloop := foldl_modifyEntry default step (items.map fun b => (key b, b))
  rw [List.foldl_map, groups_keyed, List.map_map] at hloop
  exact hloop

end

theorem sortedKeys_length [LinearOrder κ] [DecidableEq κ] (keys : List κ) :
    (sortedKeys keys).length = keys.toFinset.card := by
  rw [← List.toFinset_card_of_nodup (sortedKeys_nodup keys)]
  congr 1
  ext k
  rw [List.mem_toFinset, List.mem_toFinset, mem_sortedKeys]

/-- A loop adds to a count what its items weigh. -/
theorem foldl_count {count : α → ℕ} {step : α → β → α} {weight : β → ℕ}
    (h : ∀ a b, count (step a b) = count a + weight b) (items : List β) (a : α) :
    count (items.foldl step a) = count a + (items.map weight).sum := by
  induction items generalizing a with
  | nil => rfl
  | cons b items ih =>
    rw [List.foldl_cons, ih, h, List.map_cons, List.sum_cons]
    omega

theorem sum_filterMap (items : List α) (f : α → Option β) (count : β → ℕ) :
    ((items.filterMap f).map count).sum = (items.map fun a => (f a).elim 0 count).sum := by
  induction items with
  | nil => rfl
  | cons a items ih =>
    cases h : f a with
    | none => simp [h, ih]
    | some b => simp [h, ih]

theorem sum_flatMap (items : List α) (f : α → List β) (count : β → ℕ) :
    ((items.flatMap f).map count).sum = (items.map fun a => ((f a).map count).sum).sum := by
  induction items with
  | nil => rfl
  | cons a items ih =>
    rw [List.flatMap_cons, List.map_append, List.sum_append, ih, List.map_cons, List.sum_cons]

/-- Counts of classes that a coarser category holds add up to the count of the category. -/
theorem sum_subclasses {ι : Type} [DecidableEq κ] [DecidableEq ι] {keys : List κ}
    (hkeys : keys.Nodup) {key : β → κ} {items : List β} (hmem : ∀ b ∈ items, key b ∈ keys)
    (coarse : κ → ι) (c : ι) (count : β → ℕ) :
    ((keys.filter (coarse · = c)).map fun k => ((items.filter (key · = k)).map count).sum).sum =
      ((items.filter fun b => coarse (key b) = c).map count).sum := by
  have hclass : ∀ k ∈ keys.filter (coarse · = c), items.filter (key · = k) =
      (items.filter fun b => coarse (key b) = c).filter (key · = k) := by
    intro k hk
    have hcoarse : coarse k = c := by simpa using (List.mem_filter.1 hk).2
    rw [List.filter_filter]
    apply List.filter_congr
    intro b _
    by_cases hkey : key b = k <;> simp [hkey, hcoarse]
  have hsums : ((keys.filter (coarse · = c)).map fun k =>
      ((items.filter (key · = k)).map count).sum) = (keys.filter (coarse · = c)).map fun k =>
        (((items.filter fun b => coarse (key b) = c).filter (key · = k)).map count).sum :=
    List.map_congr_left fun k hk => by rw [hclass k hk]
  rw [hsums]
  apply sum_classes (hkeys.filter _)
  intro b hb
  obtain ⟨hitem, hcoarse⟩ := List.mem_filter.1 hb
  exact List.mem_filter.2 ⟨hmem b hitem, hcoarse⟩

section

variable {σ ε : Type} {f : σ → α → Except ε σ}

/-- What one step of a loop preserves holds where the loop ends. -/
theorem foldlM_ok {I : σ → List α → Prop}
    (hstep : ∀ s done a s', I s done → f s a = .ok s' → I s' (done ++ [a]))
    {items done : List α} {s s' : σ} (h : I s done) (hok : items.foldlM f s = .ok s') :
    I s' (done ++ items) := by
  induction items generalizing s done with
  | nil =>
    obtain rfl := Except.ok.inj hok
    rw [List.append_nil]
    exact h
  | cons a items ih =>
    rw [List.foldlM_cons] at hok
    cases hnext : f s a with
    | error e =>
      rw [hnext] at hok
      cases hok
    | ok next =>
      rw [hnext] at hok
      have hall := ih (hstep s done a next h hnext) hok
      rw [List.append_assoc] at hall
      exact hall

/-- A loop fails where one of its steps does. -/
theorem foldlM_error {items : List α} {s : σ} {e : ε} (h : items.foldlM f s = .error e) :
    ∃ s', ∃ a ∈ items, f s' a = .error e := by
  induction items generalizing s with
  | nil => cases h
  | cons a items ih =>
    rw [List.foldlM_cons] at h
    cases hnext : f s a with
    | error failure =>
      rw [hnext] at h
      obtain rfl := Except.error.inj h
      exact ⟨s, a, List.mem_cons_self, hnext⟩
    | ok next =>
      rw [hnext] at h
      obtain ⟨s', b, hb, hfailed⟩ := ih h
      exact ⟨s', b, List.mem_cons_of_mem a hb, hfailed⟩

/-- A loop whose steps succeed for some items, whatever the state, ends well for these. -/
theorem foldlM_isOk_iff {P : α → Prop} (hstep : ∀ s a, (∃ s', f s a = .ok s') ↔ P a)
    {items : List α} {s : σ} : (∃ s', items.foldlM f s = .ok s') ↔ ∀ a ∈ items, P a := by
  induction items generalizing s with
  | nil => exact ⟨nofun, fun _ => ⟨s, rfl⟩⟩
  | cons a items ih =>
    rw [List.forall_mem_cons, ← hstep s a, List.foldlM_cons]
    cases hnext : f s a with
    | error e => exact ⟨nofun, nofun⟩
    | ok next =>
      rw [← ih (s := next)]
      exact ⟨fun h => ⟨⟨next, rfl⟩, h⟩, And.right⟩

end

end Timeline
