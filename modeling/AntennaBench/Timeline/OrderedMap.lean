import Mathlib.Algebra.BigOperators.Group.List.Basic
import Mathlib.Algebra.GroupWithZero.Nat
import Mathlib.Data.List.Induction
import AntennaBench.Timeline.Groups

/-!
# Ordered maps with entries updated in place

A map as the list of its entries in the order of their keys, and the update of one
entry, which starts from a default. A loop of such updates leaves what the groups of
its updates fold to.
-/

namespace Timeline

variable {α β κ : Type} [LinearOrder κ]

/-- The keys ascend. -/
def Ascending (map : List (κ × α)) : Prop :=
  map.Pairwise fun a b => a.1 < b.1

/-- The entry of `k` is replaced by its update; the map had the default there if nothing. -/
def modifyEntry (default : α) (k : κ) (f : α → α) : List (κ × α) → List (κ × α)
  | [] => [(k, f default)]
  | (key, a) :: rest =>
    if k < key then (k, f default) :: (key, a) :: rest
    else if k = key then (key, f a) :: rest
    else (key, a) :: modifyEntry default k f rest

theorem lookup_head (k : κ) (a : α) (rest : List (κ × α)) :
    ((k, a) :: rest).lookup k = some a := by
  rw [List.lookup_cons, beq_self_eq_true]

theorem lookup_tail {k key : κ} (h : k ≠ key) (a : α) (rest : List (κ × α)) :
    ((key, a) :: rest).lookup k = rest.lookup k := by
  rw [List.lookup_cons, beq_false_of_ne h]

theorem modifyEntry_modifyEntry (default : α) (k : κ) (f g : α → α) (map : List (κ × α)) :
    modifyEntry default k g (modifyEntry default k f map) =
      modifyEntry default k (fun a => g (f a)) map := by
  induction map with
  | nil => simp [modifyEntry]
  | cons head rest ih =>
    obtain ⟨key, a⟩ := head
    by_cases hlt : k < key
    · simp [modifyEntry, hlt]
    by_cases heq : k = key
    · subst heq
      simp [modifyEntry]
    · simp [modifyEntry, hlt, heq, ih]

theorem Ascending.lookup_eq_none {map : List (κ × α)} {k : κ} (h : ∀ entry ∈ map, k < entry.1) :
    map.lookup k = none :=
  List.lookup_eq_none_iff.2 fun entry hentry => by
    have hne := (h entry hentry).ne
    simpa using hne

theorem mem_modifyEntry_key {default : α} {k : κ} {f : α → α} {map : List (κ × α)}
    {entry : κ × α} (h : entry ∈ modifyEntry default k f map) :
    entry.1 = k ∨ ∃ old ∈ map, old.1 = entry.1 := by
  induction map with
  | nil =>
    obtain rfl := List.mem_singleton.1 h
    exact .inl rfl
  | cons head rest ih =>
    obtain ⟨key, a⟩ := head
    unfold modifyEntry at h
    split_ifs at h with hlt heq
    · rcases List.mem_cons.1 h with rfl | hold
      · exact .inl rfl
      · exact .inr ⟨entry, hold, rfl⟩
    · rcases List.mem_cons.1 h with rfl | hold
      · exact .inl heq.symm
      · exact .inr ⟨entry, List.mem_cons_of_mem _ hold, rfl⟩
    · rcases List.mem_cons.1 h with rfl | hold
      · exact .inr ⟨_, List.mem_cons_self, rfl⟩
      · refine (ih hold).imp_right ?_
        rintro ⟨old, hmem, hkey⟩
        exact ⟨old, List.mem_cons_of_mem _ hmem, hkey⟩

theorem Ascending.modifyEntry {default : α} {k : κ} {f : α → α} {map : List (κ × α)}
    (h : Ascending map) : Ascending (modifyEntry default k f map) := by
  induction map with
  | nil => exact List.pairwise_singleton _ _
  | cons head rest ih =>
    obtain ⟨key, a⟩ := head
    obtain ⟨hhead, hrest⟩ := List.pairwise_cons.1 h
    unfold Timeline.modifyEntry
    split_ifs with hlt heq
    · refine List.pairwise_cons.2 ⟨fun entry hentry => ?_, h⟩
      rcases List.mem_cons.1 hentry with rfl | hentry
      · exact hlt
      · exact hlt.trans (hhead entry hentry)
    · exact List.pairwise_cons.2 ⟨hhead, hrest⟩
    · refine List.pairwise_cons.2 ⟨fun entry hentry => ?_, ih hrest⟩
      rcases mem_modifyEntry_key hentry with hkey | ⟨old, hold, hkey⟩
      · rw [hkey]
        exact lt_of_le_of_ne (not_lt.1 hlt) (Ne.symm heq)
      · rw [← hkey]
        exact hhead old hold

theorem Ascending.lookup_below {key k : κ} {a : α} {rest : List (κ × α)}
    (h : Ascending ((key, a) :: rest)) (hlt : k < key) : ((key, a) :: rest).lookup k = none := by
  apply Ascending.lookup_eq_none
  intro entry hentry
  rcases List.mem_cons.1 hentry with rfl | hentry
  · exact hlt
  · exact hlt.trans ((List.pairwise_cons.1 h).1 entry hentry)

theorem Ascending.lookup_modifyEntry {default : α} {k : κ} {f : α → α} {map : List (κ × α)}
    (h : Ascending map) (k' : κ) :
    (Timeline.modifyEntry default k f map).lookup k' =
      if k' = k then some (f ((map.lookup k).getD default)) else map.lookup k' := by
  induction map with
  | nil =>
    rw [Timeline.modifyEntry]
    by_cases hk : k' = k
    · subst hk
      rw [if_pos rfl, lookup_head]
      rfl
    · rw [if_neg hk, lookup_tail hk]
  | cons head rest ih =>
    obtain ⟨key, a⟩ := head
    rw [Timeline.modifyEntry]
    by_cases hlt : k < key
    · rw [if_pos hlt, h.lookup_below hlt]
      by_cases hk : k' = k
      · subst hk
        rw [if_pos rfl, lookup_head]
        rfl
      · rw [if_neg hk, lookup_tail hk]
    rw [if_neg hlt]
    by_cases heq : k = key
    · subst heq
      rw [if_pos rfl, lookup_head]
      by_cases hk : k' = k
      · subst hk
        rw [if_pos rfl, lookup_head]
        rfl
      · rw [if_neg hk, lookup_tail hk, lookup_tail hk]
    · rw [if_neg heq, lookup_tail heq]
      by_cases hother : k' = key
      · subst hother
        rw [lookup_head, lookup_head, if_neg (Ne.symm heq)]
      · rw [lookup_tail hother, lookup_tail hother, ih (List.pairwise_cons.1 h).2]

/-- Ascending maps with the same lookups are the same. -/
theorem Ascending.ext {map other : List (κ × α)} (h : Ascending map) (h' : Ascending other)
    (hlookup : ∀ k, map.lookup k = other.lookup k) : map = other := by
  induction map generalizing other with
  | nil =>
    cases other with
    | nil => rfl
    | cons head rest =>
      have hhead := hlookup head.1
      rw [lookup_head] at hhead
      cases hhead
  | cons head rest ih =>
    obtain ⟨key, a⟩ := head
    have hkey := hlookup key
    rw [lookup_head] at hkey
    cases other with
    | nil => cases hkey
    | cons head' rest' =>
      obtain ⟨key', a'⟩ := head'
      have hkey' := hlookup key'
      rw [lookup_head] at hkey'
      rcases lt_trichotomy key key' with hlt | rfl | hlt
      · rw [h'.lookup_below hlt] at hkey
        cases hkey
      · rw [lookup_head] at hkey
        obtain rfl := Option.some.inj hkey
        obtain ⟨hhead, hrest⟩ := List.pairwise_cons.1 h
        obtain ⟨hhead', hrest'⟩ := List.pairwise_cons.1 h'
        refine congrArg _ (ih hrest hrest' fun k => ?_)
        by_cases hk : k = key
        · subst hk
          rw [Ascending.lookup_eq_none hhead, Ascending.lookup_eq_none hhead']
        · have hsame := hlookup k
          rwa [lookup_tail hk, lookup_tail hk] at hsame
      · rw [h.lookup_below hlt] at hkey'
        cases hkey'

theorem sortedKeys_ascending (keys : List κ) : (sortedKeys keys).Pairwise (· < ·) := by
  have hsorted := sortOn_pairwise id keys.dedup
  have hnodup := sortedKeys_nodup keys
  exact hsorted.imp₂ (fun _ _ hle hne => lt_of_le_of_ne hle hne) hnodup

theorem groups_ascending (entries : List (κ × α)) (f : List α → β) :
    Ascending ((groups entries).map fun group => (group.1, f group.2)) := by
  rw [groups, List.map_map, Ascending, List.pairwise_map]
  exact sortedKeys_ascending _

theorem lookup_groups_map (entries : List (κ × α)) (f : List α → β) (k : κ) :
    ((groups entries).map fun group => (group.1, f group.2)).lookup k =
      if k ∈ entries.map (·.1) then some (f (pushed k entries)) else none := by
  have hmap : ∀ map : List (κ × List α),
      (map.map fun group => (group.1, f group.2)).lookup k = (map.lookup k).map f := by
    intro map
    induction map with
    | nil => rfl
    | cons head rest ih =>
      obtain ⟨key, a⟩ := head
      rw [List.map_cons, List.lookup_cons, List.lookup_cons, ih]
      cases k == key <;> rfl
  rw [hmap, lookup_groups]
  split_ifs <;> rfl

theorem pushed_append (k : κ) (entries more : List (κ × α)) :
    pushed k (entries ++ more) = pushed k entries ++ pushed k more := by
  simp [pushed]

theorem pushed_eq_nil {k : κ} {entries : List (κ × α)} (h : k ∉ entries.map (·.1)) :
    pushed k entries = [] := by
  rw [pushed, List.map_eq_nil_iff, List.filter_eq_nil_iff]
  intro entry hentry
  have hne : entry.1 ≠ k := fun heq => h (List.mem_map.2 ⟨entry, hentry, heq⟩)
  simpa using hne

/-- What each key pushes under its own name is what is found under it. -/
theorem pushed_flatMap {name : β → κ} (hname : Function.Injective name) (f : β → List α)
    {keys : List β} (hkeys : keys.Nodup) {b : β} (hb : b ∈ keys) :
    pushed (name b) (keys.flatMap fun c => (f c).map (name c, ·)) = f b := by
  have hown : ∀ c, pushed (name c) ((f c).map (name c, ·)) = f c := by
    intro c
    simp [pushed, List.filter_map, Function.comp_def]
  have hother : ∀ c, c ≠ b → pushed (name b) ((f c).map (name c, ·)) = [] := by
    intro c hne
    apply pushed_eq_nil
    intro hmem
    obtain ⟨entry, hentry, hkey⟩ := List.mem_map.1 hmem
    obtain ⟨a, -, rfl⟩ := List.mem_map.1 hentry
    exact hne (hname hkey)
  induction keys with
  | nil => cases hb
  | cons first rest ih =>
    obtain ⟨hfirst, hrest⟩ := List.nodup_cons.1 hkeys
    rw [List.flatMap_cons, pushed_append]
    by_cases heq : first = b
    · subst heq
      have hnone : pushed (name first) (rest.flatMap fun c => (f c).map (name c, ·)) = [] := by
        apply pushed_eq_nil
        intro hmem
        obtain ⟨entry, hentry, hkey⟩ := List.mem_map.1 hmem
        obtain ⟨c, hc, hin⟩ := List.mem_flatMap.1 hentry
        obtain ⟨a, -, rfl⟩ := List.mem_map.1 hin
        exact hfirst (hname hkey ▸ hc)
      rw [hown, hnone, List.append_nil]
    · rw [hother first heq, List.nil_append]
      exact ih hrest ((List.mem_cons.1 hb).resolve_left (Ne.symm heq))

/-- The value of an entry. -/
def entryOf (k : κ) (map : List (κ × α)) : Option α :=
  map.lookup k

theorem groups_map_keys (entries : List (κ × α)) (f : List α → β) :
    ((groups entries).map fun group => (group.1, f group.2)).map (·.1) =
      sortedKeys (entries.map (·.1)) := by
  rw [groups, List.map_map, List.map_map]
  exact List.map_id _

/-- A loop of updates of entries leaves the folds of the groups of the updates. -/
theorem foldl_modifyEntry (default : α) (step : α → β → α) (entries : List (κ × β)) :
    entries.foldl (fun map entry => modifyEntry default entry.1 (step · entry.2) map) [] =
      (groups entries).map fun group => (group.1, group.2.foldl step default) := by
  induction entries using List.reverseRecOn with
  | nil => rfl
  | append_singleton entries entry ih =>
    rw [List.foldl_append, ih, List.foldl_cons, List.foldl_nil]
    have hold := groups_ascending entries (·.foldl step default)
    apply Ascending.ext hold.modifyEntry (groups_ascending _ (·.foldl step default))
    intro k
    rw [hold.lookup_modifyEntry, lookup_groups_map, lookup_groups_map, lookup_groups_map,
      pushed_append]
    by_cases hk : k = entry.1
    · subst hk
      have hself : pushed entry.1 [entry] = [entry.2] := by simp [pushed]
      have hlast : entry.1 ∈ (entries ++ [entry]).map (·.1) :=
        List.mem_map_of_mem (List.mem_append_right _ (List.mem_singleton_self _))
      rw [if_pos rfl, if_pos hlast, hself, List.foldl_append]
      split_ifs with hmem
      · rfl
      · rw [pushed_eq_nil hmem]
        rfl
    · have hother : pushed k [entry] = [] := by simp [pushed, Ne.symm hk]
      have hkeys : k ∈ (entries ++ [entry]).map (·.1) ↔ k ∈ entries.map (·.1) := by
        simp [hk]
      rw [if_neg hk, hother, List.append_nil]
      simp only [hkeys]

theorem flatMap_filter_perm {ι : Type} [DecidableEq ι] (keys : List ι) (hkeys : keys.Nodup)
    (key : α → ι) (items : List α) :
    (keys.flatMap fun k => items.filter (key · = k)).Perm
      (items.filter fun a => keys.contains (key a)) := by
  induction keys with
  | nil => simp
  | cons k keys ih =>
    obtain ⟨hk, hkeys⟩ := List.nodup_cons.1 hkeys
    rw [List.flatMap_cons]
    refine ((ih hkeys).append_left _).trans ?_
    have hsplit := List.filter_append_perm (fun a => decide (key a = k))
      (items.filter fun a => (k :: keys).contains (key a))
    rw [List.filter_filter, List.filter_filter] at hsplit
    refine List.Perm.trans (List.Perm.of_eq ?_) hsplit
    congr 1
    · apply List.filter_congr
      intro a _
      by_cases heq : key a = k <;> simp [heq]
    · apply List.filter_congr
      intro a _
      by_cases heq : key a = k
      · subst heq
        simp [hk]
      · simp [heq]

/-- A sum over the classes of the sums over their members. -/
theorem sum_classes {ι : Type} [DecidableEq ι] {keys : List ι} (hkeys : keys.Nodup) {key : α → ι}
    {items : List α} (hmem : ∀ a ∈ items, key a ∈ keys) (count : α → ℕ) :
    (keys.map fun k => ((items.filter (key · = k)).map count).sum).sum =
      (items.map count).sum := by
  have hperm := (flatMap_filter_perm keys hkeys key items).map count
  have hall : items.filter (fun a => keys.contains (key a)) = items :=
    List.filter_eq_self.2 fun a ha => List.contains_iff_mem.2 (hmem a ha)
  rw [hall] at hperm
  rw [← hperm.sum_eq, List.map_flatMap, List.flatMap_def, List.sum_flatten]
  simp [List.map_map, Function.comp_def]

/-- The classes of the items have as many members as there are items. -/
theorem sum_class_lengths {ι : Type} [DecidableEq ι] {keys : List ι} (hkeys : keys.Nodup)
    {key : α → ι} {items : List α} (hmem : ∀ a ∈ items, key a ∈ keys) :
    (keys.map fun k => (items.filter (key · = k)).length).sum = items.length := by
  simpa using sum_classes hkeys hmem fun _ => 1

/-- The groups hold every entry, each once. -/
theorem groups_perm (entries : List (κ × α)) :
    ((groups entries).flatMap fun group => group.2.map (group.1, ·)).Perm entries := by
  have hgroup : ∀ k, (pushed k entries).map (k, ·) = entries.filter (·.1 = k) := by
    intro k
    rw [pushed, List.map_map]
    refine (List.map_congr_left fun entry hentry => ?_).trans (List.map_id _)
    have hkey : entry.1 = k := by simpa using (List.mem_filter.1 hentry).2
    simp [← hkey]
  rw [groups, List.flatMap_map]
  simp only [hgroup]
  refine (flatMap_filter_perm _ (sortedKeys_nodup _) _ entries).trans (List.Perm.of_eq ?_)
  refine List.filter_eq_self.2 fun entry hentry => ?_
  have hkey := mem_sortedKeys.2 (List.mem_map_of_mem (f := (·.1)) hentry)
  simpa using hkey

/-- A sum over the groups of the sums over their members. -/
theorem sum_groups (entries : List (κ × α)) (count : α → ℕ) :
    ((groups entries).map fun group => (group.2.map count).sum).sum =
      (entries.map fun entry => count entry.2).sum := by
  have hperm := (groups_perm entries).map fun entry => count entry.2
  rw [← hperm.sum_eq, List.map_flatMap, List.flatMap_def, List.sum_flatten]
  simp [List.map_map, Function.comp_def]

/-- An ordered map filled with the first value pushed under each key. -/
def firstValues (entries : List (κ × α)) : List (κ × α) :=
  (groups entries).filterMap fun group => group.2.head?.map (group.1, ·)

theorem mem_firstValues {entries : List (κ × α)} {k : κ} {a : α} :
    (k, a) ∈ firstValues entries ↔ (pushed k entries).head? = some a := by
  rw [firstValues, List.mem_filterMap]
  constructor
  · rintro ⟨⟨k', items⟩, hmem, hhead⟩
    obtain ⟨-, rfl⟩ := mem_groups.1 hmem
    obtain ⟨first, hfirst, heq⟩ := Option.map_eq_some_iff.1 hhead
    obtain ⟨rfl, rfl⟩ := Prod.mk.inj heq
    exact hfirst
  · intro hhead
    have hmem : a ∈ pushed k entries := List.mem_of_head? hhead
    have hkey : k ∈ entries.map (·.1) := List.mem_map_of_mem (f := (·.1)) (mem_pushed.1 hmem)
    exact ⟨(k, pushed k entries), mem_groups.2 ⟨hkey, rfl⟩, by simp [hhead]⟩

theorem mem_of_mem_firstValues {entries : List (κ × α)} {entry : κ × α}
    (h : entry ∈ firstValues entries) : entry ∈ entries :=
  mem_pushed.1 (List.mem_of_head? (mem_firstValues.1 h))

theorem exists_firstValues {entries : List (κ × α)} {entry : κ × α} (h : entry ∈ entries) :
    ∃ a, (entry.1, a) ∈ firstValues entries := by
  have hmem : entry.2 ∈ pushed entry.1 entries := mem_pushed.2 h
  cases hpushed : pushed entry.1 entries with
  | nil =>
    rw [hpushed] at hmem
    cases hmem
  | cons a rest => exact ⟨a, mem_firstValues.2 (by rw [hpushed]; rfl)⟩

theorem firstValues_keys (entries : List (κ × α)) :
    (firstValues entries).map (·.1) = sortedKeys (entries.map (·.1)) := by
  have hkeys : ∀ keys : List κ, (∀ k ∈ keys, k ∈ entries.map (·.1)) →
      ((keys.map fun k => (k, pushed k entries)).filterMap
        fun group => group.2.head?.map (group.1, ·)).map (·.1) = keys := by
    intro keys
    induction keys with
    | nil => intro _; rfl
    | cons k keys ih =>
      intro hmem
      obtain ⟨entry, hentry, rfl⟩ := List.mem_map.1 (hmem k List.mem_cons_self)
      obtain ⟨a, ha⟩ := exists_firstValues hentry
      have hhead := mem_firstValues.1 ha
      rw [List.map_cons, List.filterMap_cons_some (b := (entry.1, a)) (by simp [hhead]),
        List.map_cons, ih fun k hk => hmem k (List.mem_cons_of_mem _ hk)]
  exact hkeys _ fun k hk => mem_sortedKeys.1 hk

end Timeline
