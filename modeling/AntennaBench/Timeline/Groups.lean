import Mathlib.Data.List.Dedup
import Mathlib.Data.List.Sort

/-!
# Sorting and grouping by a key

A stable sort by a key, the ordered keys of a list, and the groups an ordered map
collects when entries are pushed one after the other. A permutation of the entries
changes neither the keys nor the members of a group, only the order inside it.
-/

namespace Timeline

variable {α β κ : Type} [LinearOrder κ]

/-- The stable sort by a key. -/
def sortOn (key : α → κ) (items : List α) : List α :=
  items.insertionSort fun a b => key a ≤ key b

theorem sortOn_perm (key : α → κ) (items : List α) : (sortOn key items).Perm items :=
  List.perm_insertionSort _ items

theorem mem_sortOn {key : α → κ} {items : List α} {a : α} :
    a ∈ sortOn key items ↔ a ∈ items :=
  (sortOn_perm key items).mem_iff

theorem sortOn_pairwise (key : α → κ) (items : List α) :
    (sortOn key items).Pairwise fun a b => key a ≤ key b := by
  have : Std.Total fun a b : α => key a ≤ key b := ⟨fun a b => le_total (key a) (key b)⟩
  have : IsTrans α fun a b => key a ≤ key b := ⟨fun _ _ _ => le_trans⟩
  exact List.pairwise_insertionSort _ items

/-- Where the key tells the items apart, the sort forgets their order. -/
theorem sortOn_congr {key : α → κ} {items items' : List α} (h : items.Perm items')
    (hkey : ∀ a ∈ items, ∀ b ∈ items, key a = key b → a = b) :
    sortOn key items = sortOn key items' := by
  have hperm : (sortOn key items).Perm (sortOn key items') :=
    (sortOn_perm key items).trans (h.trans (sortOn_perm key items').symm)
  refine hperm.eq_of_pairwise ?_ (sortOn_pairwise key items) (sortOn_pairwise key items')
  intro a b ha hb hab hba
  exact hkey a (mem_sortOn.1 ha) b (h.mem_iff.2 (mem_sortOn.1 hb)) (le_antisymm hab hba)

/-- The keys of an ordered map. -/
def sortedKeys (keys : List κ) : List κ :=
  sortOn id keys.dedup

theorem mem_sortedKeys {keys : List κ} {k : κ} : k ∈ sortedKeys keys ↔ k ∈ keys := by
  rw [sortedKeys, mem_sortOn, List.mem_dedup]

theorem sortedKeys_nodup (keys : List κ) : (sortedKeys keys).Nodup :=
  (sortOn_perm id keys.dedup).nodup_iff.2 keys.nodup_dedup

theorem sortedKeys_congr {keys keys' : List κ} (h : ∀ k, k ∈ keys ↔ k ∈ keys') :
    sortedKeys keys = sortedKeys keys' := by
  have hperm : keys.dedup.Perm keys'.dedup := by
    rw [List.perm_ext_iff_of_nodup keys.nodup_dedup keys'.nodup_dedup]
    intro k
    rw [List.mem_dedup, List.mem_dedup, h]
  exact sortOn_congr hperm fun _ _ _ _ hab => hab

/-- How often each item was counted, in the order of a key. -/
def tally [DecidableEq α] (key : α → κ) (items : List α) : List (α × ℕ) :=
  (sortOn key items.dedup).map fun a => (a, items.count a)

/-- What was pushed under one key, in order. -/
def pushed (k : κ) (entries : List (κ × α)) : List α :=
  (entries.filter (·.1 = k)).map (·.2)

theorem mem_pushed {k : κ} {entries : List (κ × α)} {a : α} :
    a ∈ pushed k entries ↔ (k, a) ∈ entries := by
  rw [pushed, List.mem_map]
  constructor
  · rintro ⟨⟨k', a'⟩, hmem, rfl⟩
    obtain ⟨hentry, hk⟩ := List.mem_filter.1 hmem
    obtain rfl : k' = k := by simpa using hk
    exact hentry
  · intro hmem
    exact ⟨(k, a), List.mem_filter.2 ⟨hmem, by simp⟩, rfl⟩

/-- An ordered map of vectors, filled by pushing the entries in order. -/
def groups (entries : List (κ × α)) : List (κ × List α) :=
  (sortedKeys (entries.map (·.1))).map fun k => (k, pushed k entries)

theorem mem_groups {entries : List (κ × α)} {k : κ} {items : List α} :
    (k, items) ∈ groups entries ↔ k ∈ entries.map (·.1) ∧ items = pushed k entries := by
  rw [groups, List.mem_map]
  constructor
  · rintro ⟨k', hk, heq⟩
    obtain ⟨rfl, rfl⟩ := Prod.mk.inj heq
    exact ⟨mem_sortedKeys.1 hk, rfl⟩
  · rintro ⟨hk, rfl⟩
    exact ⟨k, mem_sortedKeys.2 hk, rfl⟩

theorem lookup_groups {entries : List (κ × α)} {k : κ} :
    (groups entries).lookup k =
      if k ∈ entries.map (·.1) then some (pushed k entries) else none := by
  have hlookup : ∀ keys : List κ, (keys.map fun k => (k, pushed k entries)).lookup k =
      if k ∈ keys then some (pushed k entries) else none := by
    intro keys
    induction keys with
    | nil => rfl
    | cons k' keys ih =>
      rw [List.map_cons, List.lookup_cons, ih]
      by_cases hk : k = k'
      · subst hk
        simp
      · rw [beq_false_of_ne hk]
        simp [hk]
  rw [groups, hlookup]
  simp only [mem_sortedKeys]

theorem groups_nodup (entries : List (κ × α)) : ((groups entries).map (·.1)).Nodup := by
  have hkeys : (groups entries).map (·.1) = sortedKeys (entries.map (·.1)) := by
    rw [groups, List.map_map]
    exact List.map_id _
  rw [hkeys]
  exact sortedKeys_nodup _

/-- Looking up in an ordered map whose values were mapped and filtered. -/
theorem lookup_filterMap (f : α → Option β) (entries : List (κ × α))
    (h : (entries.map (·.1)).Nodup) (k : κ) :
    (entries.filterMap fun (key, a) => (f a).map (key, ·)).lookup k =
      (entries.lookup k).bind f := by
  induction entries with
  | nil => rfl
  | cons entry entries ih =>
    obtain ⟨key, a⟩ := entry
    rw [List.map_cons, List.nodup_cons] at h
    rw [List.filterMap_cons, List.lookup_cons]
    by_cases hk : k = key
    · subst hk
      cases hf : f a with
      | some b => simp [hf]
      | none =>
        have hnone : entries.lookup k = none := List.lookup_eq_none_iff.2 fun entry hentry => by
          have hne : k ≠ entry.1 := fun heq =>
            h.1 (heq ▸ List.mem_map_of_mem (f := (·.1)) hentry)
          simpa using hne
        simp [hf, ih h.2, hnone]
    · rw [beq_false_of_ne hk]
      cases hf : f a with
      | some b => simp [hf, List.lookup_cons, beq_false_of_ne hk, ih h.2]
      | none => simp [hf, ih h.2]

end Timeline
