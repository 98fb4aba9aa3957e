import Mathlib.Data.List.Nodup
import Mathlib.Data.List.Perm.Basic
import Mathlib.Data.List.Range
import Mathlib.Tactic

/-!
# Complete groups and last-writer-wins links

The members of a keyed group carry their place and the size of the group; a list of
members is complete when every group has each place once. Records claim items and a
table keeps, for an item, the last record that claimed it: the groups of the records and
the items linked to them are complete when no item is claimed twice, and only then.
-/

namespace Timeline

universe u

/-- A member of a group: the group's key, its place, and the size the group announces. -/
structure Share (κ : Type u) where
  key : κ
  index : ℕ
  count : ℕ

/-- The members of groups of size `size`, one place of all the groups after the other. -/
def rounds {κ : Type u} (size : ℕ) (keys : List κ) : List (Share κ) :=
  (List.range size).flatMap fun index => keys.map fun key => ⟨key, index, size⟩

theorem mem_rounds {κ : Type u} {size : ℕ} {keys : List κ} {share : Share κ} :
    share ∈ rounds size keys ↔
      share.index < size ∧ share.key ∈ keys ∧ share.count = size := by
  obtain ⟨key, index, count⟩ := share
  simp only [rounds, List.mem_flatMap, List.mem_range, List.mem_map, Share.mk.injEq]
  constructor
  · rintro ⟨i, hi, k, hk, rfl, rfl, rfl⟩
    exact ⟨hi, hk, rfl⟩
  · rintro ⟨hi, hk, rfl⟩
    exact ⟨index, hi, key, hk, rfl, rfl, rfl⟩

theorem rounds_one {κ : Type u} (keys : List κ) :
    rounds 1 keys = keys.map fun key => ⟨key, 0, 1⟩ := by
  simp [rounds]

theorem rounds_two {κ : Type u} (keys : List κ) :
    rounds 2 keys = keys.map (fun key => ⟨key, 0, 2⟩) ++ keys.map fun key => ⟨key, 1, 2⟩ := by
  simp [rounds, List.range_succ]

section

variable {κ : Type u} [DecidableEq κ]

def indexesOf (key : κ) (shares : List (Share κ)) : List ℕ :=
  (shares.filter (·.key = key)).map (·.index)

/-- The members of every group announce one size, and their places are those below it,
each once. -/
def Complete (shares : List (Share κ)) : Prop :=
  ∀ share ∈ shares, (indexesOf share.key shares).Perm (List.range share.count)

instance (shares : List (Share κ)) : Decidable (Complete shares) :=
  inferInstanceAs (Decidable (∀ share ∈ shares, (indexesOf share.key shares).Perm _))

@[simp] theorem indexesOf_append (key : κ) (xs ys : List (Share κ)) :
    indexesOf key (xs ++ ys) = indexesOf key xs ++ indexesOf key ys := by
  simp [indexesOf]

theorem indexesOf_eq_nil {key : κ} {shares : List (Share κ)}
    (h : ∀ share ∈ shares, share.key ≠ key) : indexesOf key shares = [] := by
  rw [indexesOf, List.map_eq_nil_iff, List.filter_eq_nil_iff]
  intro share hshare
  simpa using h share hshare

theorem Complete.perm_iff {xs ys : List (Share κ)} (h : xs.Perm ys) :
    Complete xs ↔ Complete ys := by
  have hindexes : ∀ key, (indexesOf key xs).Perm (indexesOf key ys) := fun key =>
    (h.filter _).map _
  constructor
  · intro hxs share hshare
    exact (hindexes _).symm.trans (hxs share (h.mem_iff.2 hshare))
  · intro hys share hshare
    exact (hindexes _).trans (hys share (h.mem_iff.1 hshare))

/-- Lists without a common group are complete together when each of them is. -/
theorem complete_append_iff {xs ys : List (Share κ)}
    (hapart : ∀ x ∈ xs, ∀ y ∈ ys, x.key ≠ y.key) :
    Complete (xs ++ ys) ↔ Complete xs ∧ Complete ys := by
  have hleft : ∀ x ∈ xs, indexesOf x.key (xs ++ ys) = indexesOf x.key xs := by
    intro x hx
    rw [indexesOf_append, indexesOf_eq_nil fun y hy => (hapart x hx y hy).symm, List.append_nil]
  have hright : ∀ y ∈ ys, indexesOf y.key (xs ++ ys) = indexesOf y.key ys := by
    intro y hy
    rw [indexesOf_append, indexesOf_eq_nil fun x hx => hapart x hx y hy, List.nil_append]
  constructor
  · intro h
    refine ⟨fun x hx => ?_, fun y hy => ?_⟩
    · rw [← hleft x hx]
      exact h x (by simp [hx])
    · rw [← hright y hy]
      exact h y (by simp [hy])
  · rintro ⟨hxs, hys⟩ share hshare
    rcases List.mem_append.1 hshare with hx | hy
    · rw [hleft share hx]
      exact hxs share hx
    · rw [hright share hy]
      exact hys share hy

def Share.rename {κ' : Type u} (f : κ → κ') (share : Share κ) : Share κ' :=
  ⟨f share.key, share.index, share.count⟩

/-- Completeness does not depend on the names of the groups. -/
theorem complete_rename_iff {κ' : Type u} [DecidableEq κ'] {f : κ → κ'}
    {shares : List (Share κ)}
    (hf : ∀ a ∈ shares, ∀ b ∈ shares, f a.key = f b.key → a.key = b.key) :
    Complete (shares.map (Share.rename f)) ↔ Complete shares := by
  have hindexes : ∀ share ∈ shares,
      indexesOf (f share.key) (shares.map (Share.rename f)) = indexesOf share.key shares := by
    intro share hshare
    rw [indexesOf, indexesOf, List.filter_map, List.map_map]
    have hfilter : shares.filter ((fun other : Share κ' => decide (other.key = f share.key)) ∘
        Share.rename f) = shares.filter (·.key = share.key) := by
      apply List.filter_congr
      intro other hother
      rw [Function.comp_apply, decide_eq_decide]
      exact ⟨hf other hother share hshare, congrArg f⟩
    rw [hfilter]
    rfl
  constructor
  · intro h share hshare
    rw [← hindexes share hshare]
    exact h _ (List.mem_map_of_mem hshare)
  · intro h renamed hrenamed
    obtain ⟨share, hshare, rfl⟩ := List.mem_map.1 hrenamed
    have hcomplete := h share hshare
    rw [← hindexes share hshare] at hcomplete
    exact hcomplete

theorem indexesOf_rounds (key : κ) (size : ℕ) (keys : List κ) :
    indexesOf key (rounds size keys) =
      (List.range size).flatMap fun index => List.replicate (keys.count key) index := by
  have hround : ∀ index, ((keys.map fun k => (⟨k, index, size⟩ : Share κ)).filter
      (·.key = key)).map (·.index) = List.replicate (keys.count key) index := by
    intro index
    rw [List.filter_map, List.map_map, List.eq_replicate_iff]
    refine ⟨?_, by simp⟩
    rw [List.length_map, ← List.countP_eq_length_filter, List.count]
    exact List.countP_congr fun k _ => by simp
  simp only [indexesOf, rounds, List.filter_flatMap, List.map_flatMap, hround]

theorem complete_rounds_iff {size : ℕ} {keys : List κ} (hsize : 0 < size) :
    Complete (rounds size keys) ↔ keys.Nodup := by
  constructor
  · intro h
    rw [List.nodup_iff_count_le_one]
    intro key
    by_cases hkey : key ∈ keys
    · have hperm := h ⟨key, 0, size⟩ (mem_rounds.2 ⟨hsize, hkey, rfl⟩)
      have hlength := hperm.length_eq
      rw [indexesOf_rounds] at hlength
      simp only [List.length_flatMap, List.length_replicate, List.map_const', List.sum_replicate,
        List.length_range, smul_eq_mul] at hlength
      exact le_of_eq (Nat.eq_of_mul_eq_mul_left hsize (by omega))
    · rw [List.count_eq_zero_of_not_mem hkey]
      exact Nat.zero_le 1
  · intro h share hshare
    obtain ⟨-, hkey, hcount⟩ := mem_rounds.1 hshare
    rw [indexesOf_rounds, List.count_eq_one_of_mem h hkey, hcount]
    simp

end

section

variable {ρ ο ι κ : Type u} (items : List ο) (claims : ρ → ο → Bool) (idOf : ο → ι)

def claimed (record : ρ) : List ο := items.filter (claims record)

/-- The entries a record puts into the table, in order. -/
def claimEntries (record : ρ) : List (ι × ρ × ℕ) :=
  (claimed items claims record).zipIdx.map fun (item, index) => (idOf item, record, index)

/-- The entry the table holds for an identity: the last one put. -/
def claim? [BEq ι] (records : List ρ) (id : ι) : Option (ρ × ℕ) :=
  (records.flatMap (claimEntries items claims idOf)).reverse.lookup id

/-- The group of a record: the record itself and the items it claims. -/
def claimSize (record : ρ) : ℕ := (claimed items claims record).length + 1

def headShare (keyOf : ρ → κ) (record : ρ) : Share κ :=
  ⟨keyOf record, 0, claimSize items claims record⟩

def claimShare (keyOf : ρ → κ) (entry : ρ × ℕ) : Share κ :=
  ⟨keyOf entry.1, entry.2 + 1, claimSize items claims entry.1⟩

/-- No item is claimed by two records. -/
def ClaimedOnce (records : List ρ) : Prop :=
  ∀ item ∈ items, ∀ a ∈ records, ∀ b ∈ records, claims a item → claims b item → a = b

end

section

variable {ρ ο ι κ : Type u} {records : List ρ} {items : List ο} {claims : ρ → ο → Bool}
  {idOf : ο → ι}

theorem mem_claimEntries {record : ρ} {id : ι} {entry : ρ × ℕ} :
    (id, entry) ∈ claimEntries items claims idOf record ↔
      entry.1 = record ∧ ∃ item, (claimed items claims record)[entry.2]? = some item ∧
        idOf item = id := by
  obtain ⟨holder, index⟩ := entry
  simp only [claimEntries, List.mem_map, Prod.exists, Prod.mk.injEq,
    List.mk_mem_zipIdx_iff_getElem?]
  constructor
  · rintro ⟨item, i, hitem, hid, rfl, rfl⟩
    exact ⟨rfl, item, hitem, hid⟩
  · rintro ⟨rfl, item, hitem, hid⟩
    exact ⟨item, index, hitem, hid, rfl, rfl⟩

theorem claims_of_getElem? {record : ρ} {index : ℕ} {item : ο}
    (h : (claimed items claims record)[index]? = some item) :
    item ∈ items ∧ claims record item := by
  have hmem := List.mem_of_getElem? h
  rw [claimed, List.mem_filter] at hmem
  exact hmem

variable [BEq ι] [LawfulBEq ι]

theorem claim?_isSome {record : ρ} {item : ο} (hrecord : record ∈ records) (hitem : item ∈ items)
    (hclaims : claims record item) :
    (claim? items claims idOf records (idOf item)).isSome := by
  have hmem : item ∈ claimed items claims record := List.mem_filter.2 ⟨hitem, hclaims⟩
  obtain ⟨index, hindex⟩ := List.mem_iff_getElem?.1 hmem
  rw [claim?, List.lookup_isSome_iff]
  refine ⟨(idOf item, record, index), ?_, by simp⟩
  rw [List.mem_reverse, List.mem_flatMap]
  exact ⟨record, hrecord, mem_claimEntries.2 ⟨rfl, item, hindex, rfl⟩⟩

/-- Where identities tell the items apart, the table holds a claim on the item asked for. -/
theorem claim?_spec (hids : (items.map idOf).Nodup) {item : ο} (hitem : item ∈ items)
    {entry : ρ × ℕ} (h : claim? items claims idOf records (idOf item) = some entry) :
    entry.1 ∈ records ∧ (claimed items claims entry.1)[entry.2]? = some item := by
  obtain ⟨before, after, hsplit, -⟩ := List.lookup_eq_some_iff.1 h
  have hmem : (idOf item, entry) ∈ records.flatMap (claimEntries items claims idOf) := by
    rw [← List.mem_reverse, hsplit]
    simp
  obtain ⟨record, hrecord, hentry⟩ := List.mem_flatMap.1 hmem
  obtain ⟨rfl, other, hother, hid⟩ := mem_claimEntries.1 hentry
  have hsame := List.inj_on_of_nodup_map hids (claims_of_getElem? hother).1 hitem hid
  exact ⟨hrecord, hsame ▸ hother⟩

theorem claim?_isSome_iff (hids : (items.map idOf).Nodup) {item : ο} (hitem : item ∈ items) :
    (claim? items claims idOf records (idOf item)).isSome ↔
      ∃ record ∈ records, claims record item := by
  constructor
  · intro h
    obtain ⟨entry, hentry⟩ := Option.isSome_iff_exists.1 h
    obtain ⟨hrecord, hindex⟩ := claim?_spec hids hitem hentry
    exact ⟨entry.1, hrecord, (claims_of_getElem? hindex).2⟩
  · rintro ⟨record, hrecord, hclaims⟩
    exact claim?_isSome hrecord hitem hclaims

theorem filterMap_getElem? {α : Type u} {place : α → Option ℕ} {list : List α}
    (h : ∀ index item, list[index]? = some item → place item = some (index + 1)) :
    list.filterMap place = (List.range list.length).map (· + 1) := by
  have hmap : list.map place = ((List.range list.length).map (· + 1)).map some := by
    apply List.ext_getElem (by simp)
    intro index hleft hright
    rw [List.length_map] at hleft
    simpa using h index list[index] (List.getElem?_eq_getElem hleft)
  have hid : list.filterMap place = (list.map place).filterMap id := by
    rw [List.filterMap_map]
    rfl
  rw [hid, hmap, List.filterMap_map]
  exact List.filterMap_some

variable [DecidableEq κ] {keyOf : ρ → κ}

/-- The place of an item in the group of a key, when the table puts it there. -/
def placeIn (items : List ο) (claims : ρ → ο → Bool) (idOf : ο → ι) (keyOf : ρ → κ)
    (records : List ρ) (key : κ) (item : ο) : Option ℕ :=
  (((claim? items claims idOf records (idOf item)).map (claimShare items claims keyOf)).filter
    (·.key = key)).map (·.index)

omit [LawfulBEq ι] in
theorem indexesOf_linked (key : κ) :
    indexesOf key (items.filterMap fun item =>
      (claim? items claims idOf records (idOf item)).map (claimShare items claims keyOf)) =
    items.filterMap (placeIn items claims idOf keyOf records key) := by
  rw [indexesOf, List.filter_filterMap, List.map_filterMap]
  rfl

theorem indexesOf_heads (hkeys : (records.map keyOf).Nodup) {record : ρ}
    (hrecord : record ∈ records) :
    indexesOf (keyOf record) (records.map (headShare items claims keyOf)) = [0] := by
  rw [indexesOf, List.filter_map, List.map_map]
  have hconst : (fun share : Share κ => share.index) ∘ headShare items claims keyOf =
      fun _ => 0 := rfl
  have hcount := List.count_eq_one_of_mem hkeys (List.mem_map_of_mem hrecord)
  rw [List.count, List.countP_map, List.countP_eq_length_filter] at hcount
  have hfilter : records.filter ((fun share => decide (share.key = keyOf record)) ∘
      headShare items claims keyOf) = records.filter ((· == keyOf record) ∘ keyOf) :=
    List.filter_congr fun _ _ => rfl
  rw [hconst, List.map_const', hfilter, hcount]
  rfl

/-- A place in the group of a record is the item's place among those the record claims. -/
theorem placeIn_eq_some (hkeys : (records.map keyOf).Nodup) (hids : (items.map idOf).Nodup)
    {record : ρ} (hrecord : record ∈ records) {item : ο} (hitem : item ∈ items) {place : ℕ}
    (h : placeIn items claims idOf keyOf records (keyOf record) item = some place) :
    ∃ index, place = index + 1 ∧
      claim? items claims idOf records (idOf item) = some (record, index) ∧
      (claimed items claims record)[index]? = some item := by
  simp only [placeIn, Option.map_eq_some_iff, Option.filter_eq_some_iff,
    decide_eq_true_eq] at h
  obtain ⟨share, ⟨⟨⟨holder, index⟩, hentry, rfl⟩, hkey⟩, rfl⟩ := h
  obtain ⟨hholder, hindex⟩ := claim?_spec hids hitem hentry
  have hsame : holder = record := List.inj_on_of_nodup_map hkeys hholder hrecord hkey
  subst hsame
  exact ⟨index, rfl, hentry, hindex⟩

theorem filterMap_placeIn (hkeys : (records.map keyOf).Nodup) (hids : (items.map idOf).Nodup)
    {record : ρ} (hrecord : record ∈ records) :
    items.filterMap (placeIn items claims idOf keyOf records (keyOf record)) =
      (claimed items claims record).filterMap
        (placeIn items claims idOf keyOf records (keyOf record)) := by
  rw [claimed, List.filterMap_filter]
  apply List.filterMap_congr
  intro item hitem
  by_cases hclaims : claims record item
  · rw [if_pos hclaims]
  · rw [if_neg hclaims, Option.eq_none_iff_forall_ne_some]
    intro place hplace
    obtain ⟨index, -, -, hindex⟩ := placeIn_eq_some hkeys hids hrecord hitem hplace
    exact hclaims (claims_of_getElem? hindex).2

/-- Where no item is claimed twice, the items of a record fill the places after its own. -/
theorem ClaimedOnce.places (hone : ClaimedOnce items claims records)
    (hkeys : (records.map keyOf).Nodup) (hids : (items.map idOf).Nodup) {record : ρ}
    (hrecord : record ∈ records) :
    items.filterMap (placeIn items claims idOf keyOf records (keyOf record)) =
      (List.range (claimed items claims record).length).map (· + 1) := by
  rw [filterMap_placeIn hkeys hids hrecord]
  apply filterMap_getElem?
  intro index item hindex
  obtain ⟨hitem, hclaims⟩ := claims_of_getElem? hindex
  have hclaimed : (claim? items claims idOf records (idOf item)).isSome :=
    claim?_isSome hrecord hitem hclaims
  obtain ⟨⟨holder, other⟩, hentry⟩ := Option.isSome_iff_exists.1 hclaimed
  obtain ⟨hholder, hother⟩ := claim?_spec hids hitem hentry
  have hsame : holder = record :=
    hone item hitem holder hholder record hrecord (claims_of_getElem? hother).2 hclaims
  subst hsame
  have hnodup : (claimed items claims holder).Nodup := hids.of_map.filter _
  have hindexes : other = index := (List.getElem?_inj
    (List.getElem?_eq_some_iff.1 hother).1 hnodup).1 (hother.trans hindex.symm)
  subst hindexes
  simp [placeIn, hentry, claimShare]

/-- In complete groups every claim is the one the table holds. -/
theorem Complete.claim?_eq (hkeys : (records.map keyOf).Nodup) (hids : (items.map idOf).Nodup)
    (h : Complete (records.map (headShare items claims keyOf) ++ items.filterMap fun item =>
      (claim? items claims idOf records (idOf item)).map (claimShare items claims keyOf)))
    {record : ρ} (hrecord : record ∈ records) {item : ο} (hitem : item ∈ items)
    (hclaims : claims record item) :
    ∃ index, claim? items claims idOf records (idOf item) = some (record, index) := by
  have hperm := h (headShare items claims keyOf record)
    (List.mem_append_left _ (List.mem_map_of_mem hrecord))
  have hlength := hperm.length_eq
  have hkey : (headShare items claims keyOf record).key = keyOf record := rfl
  have hsize : (headShare items claims keyOf record).count =
    (claimed items claims record).length + 1 := rfl
  rw [indexesOf_append, hkey, indexesOf_heads hkeys hrecord, indexesOf_linked,
    filterMap_placeIn hkeys hids hrecord, List.length_append, List.length_range, hsize,
    List.length_singleton] at hlength
  have hmem : item ∈ claimed items claims record := List.mem_filter.2 ⟨hitem, hclaims⟩
  cases hplace : placeIn items claims idOf keyOf records (keyOf record) item with
  | none =>
    have hlt := List.length_filterMap_lt_length_iff_exists.2 ⟨item, hmem, hplace⟩
    omega
  | some place =>
    obtain ⟨index, -, hentry, -⟩ := placeIn_eq_some hkeys hids hrecord hitem hplace
    exact ⟨index, hentry⟩

/-- The groups of the records and of the items linked to them are complete exactly when no
item is claimed twice. -/
theorem complete_claims_iff (hkeys : (records.map keyOf).Nodup)
    (hids : (items.map idOf).Nodup) :
    Complete (records.map (headShare items claims keyOf) ++ items.filterMap fun item =>
      (claim? items claims idOf records (idOf item)).map (claimShare items claims keyOf)) ↔
    ClaimedOnce items claims records := by
  constructor
  · intro h item hitem a ha b hb hclaimsa hclaimsb
    obtain ⟨i, hi⟩ := Complete.claim?_eq hkeys hids h ha hitem hclaimsa
    obtain ⟨j, hj⟩ := Complete.claim?_eq hkeys hids h hb hitem hclaimsb
    exact congrArg Prod.fst (Option.some.inj (hi.symm.trans hj))
  · intro hone share hshare
    have hgroup : ∃ record ∈ records, share.key = keyOf record ∧
        share.count = claimSize items claims record := by
      rcases List.mem_append.1 hshare with hhead | hlinked
      · obtain ⟨record, hrecord, rfl⟩ := List.mem_map.1 hhead
        exact ⟨record, hrecord, rfl, rfl⟩
      · obtain ⟨item, hitem, hentry⟩ := List.mem_filterMap.1 hlinked
        obtain ⟨entry, hfound, rfl⟩ := Option.map_eq_some_iff.1 hentry
        exact ⟨entry.1, (claim?_spec hids hitem hfound).1, rfl, rfl⟩
    obtain ⟨record, hrecord, hkey, hcount⟩ := hgroup
    rw [hkey, hcount, indexesOf_append, indexesOf_heads hkeys hrecord, indexesOf_linked,
      hone.places hkeys hids hrecord, claimSize, List.range_succ_eq_map]
    exact List.Perm.refl _

end

end Timeline
