import Mathlib.Data.List.Induction
import Mathlib.Data.List.Nodup

/-!
# Ledgers

An append-only record of originals and amendments. An amendment names an original
by its key and replaces or withdraws it; what stands of an original is the last
amendment of its key. A book keeps the standing values in place while the ledger
grows.
-/

namespace Timeline

variable {κ α : Type}

inductive LedgerEntry (κ α : Type) where
  | original (key : κ) (value : α)
  | amendment (key : κ) (value : Option α)

namespace LedgerEntry

def key : LedgerEntry κ α → κ
  | original key _ | amendment key _ => key

def original? : LedgerEntry κ α → Option (κ × α)
  | original key value => some (key, value)
  | amendment _ _ => none

def amendmentOf? [DecidableEq κ] (k : κ) : LedgerEntry κ α → Option (Option α)
  | original _ _ => none
  | amendment key value => if key = k then some value else none

end LedgerEntry

def originals (ledger : List (LedgerEntry κ α)) : List (κ × α) :=
  ledger.filterMap LedgerEntry.original?

/-- No original carries the key of an earlier entry. -/
def Orderly (ledger : List (LedgerEntry κ α)) : Prop :=
  ledger.Pairwise fun a b => b.original?.isSome → a.key ≠ b.key

theorem Orderly.of_append {ledger more : List (LedgerEntry κ α)} (h : Orderly (ledger ++ more)) :
    Orderly ledger :=
  (List.pairwise_append.1 h).1

theorem Orderly.fresh {ledger : List (LedgerEntry κ α)} {key : κ} {value : α}
    (h : Orderly (ledger ++ [.original key value])) : ∀ entry ∈ ledger, entry.key ≠ key := by
  intro entry hentry
  exact (List.pairwise_append.1 h).2.2 entry hentry _ (List.mem_singleton_self _) rfl

theorem mem_originals {ledger : List (LedgerEntry κ α)} {k : κ} {value : α} :
    (k, value) ∈ originals ledger ↔ .original k value ∈ ledger := by
  constructor
  · intro h
    obtain ⟨entry, hentry, heq⟩ := List.mem_filterMap.1 h
    cases entry with
    | original key v =>
      simp only [LedgerEntry.original?, Option.some.injEq, Prod.mk.injEq] at heq
      rwa [heq.1, heq.2] at hentry
    | amendment key v => simp [LedgerEntry.original?] at heq
  · intro h
    exact List.mem_filterMap.2 ⟨_, h, rfl⟩

variable [DecidableEq κ]

def amendments (ledger : List (LedgerEntry κ α)) (k : κ) : List (Option α) :=
  ledger.filterMap (LedgerEntry.amendmentOf? k)

/-- What stands of an original: its last amendment, else its own value. -/
def standing (ledger : List (LedgerEntry κ α)) (k : κ) (value : α) : Option α :=
  (amendments ledger k).getLast?.getD (some value)

/-- The place of every original and the value that stands there. -/
structure Book (κ α : Type) where
  index : List (κ × ℕ)
  values : List (Option α)

def Book.enter (book : Book κ α) : LedgerEntry κ α → Book κ α
  | .original key value =>
    ⟨(key, book.values.length) :: book.index, book.values ++ [some value]⟩
  | .amendment key value =>
    match book.index.lookup key with
    | some i => { book with values := book.values.set i value }
    | none => book

def keep (ledger : List (LedgerEntry κ α)) : Book κ α :=
  ledger.foldl Book.enter ⟨[], []⟩

theorem keep_append (ledger : List (LedgerEntry κ α)) (entry : LedgerEntry κ α) :
    keep (ledger ++ [entry]) = (keep ledger).enter entry := by
  simp [keep]

theorem standing_append_original (ledger : List (LedgerEntry κ α)) (key k : κ) (value a : α) :
    standing (ledger ++ [.original key a]) k value = standing ledger k value := by
  simp [standing, amendments, LedgerEntry.amendmentOf?]

theorem standing_append_amendment (ledger : List (LedgerEntry κ α)) (key k : κ) (value : α)
    (a : Option α) :
    standing (ledger ++ [.amendment key a]) k value =
      if key = k then a else standing ledger k value := by
  by_cases h : key = k <;> simp [standing, amendments, LedgerEntry.amendmentOf?, h]

/-- In an orderly ledger no amendment stands before its original. -/
theorem Orderly.standing_fresh {ledger : List (LedgerEntry κ α)} {key : κ} {value : α}
    (h : Orderly (ledger ++ [.original key value])) : standing ledger key value = some value := by
  have hnone : amendments ledger key = [] := by
    refine List.filterMap_eq_nil_iff.2 fun entry hentry => ?_
    have hne := h.fresh entry hentry
    cases entry with
    | original k v => rfl
    | amendment k v => simpa [LedgerEntry.amendmentOf?, LedgerEntry.key] using hne
  simp [standing, hnone]

/-- The book of a ledger has every original in its place. -/
structure Book.Records (book : Book κ α) (ledger : List (LedgerEntry κ α)) : Prop where
  index : ∀ k i, book.index.lookup k = some i ↔ ((originals ledger).map Prod.fst)[i]? = some k
  values : book.values = (originals ledger).map fun o => standing ledger o.1 o.2

theorem Book.Records.enter_original {book : Book κ α} {ledger : List (LedgerEntry κ α)} {key : κ}
    {value : α} (h : book.Records ledger) (horderly : Orderly (ledger ++ [.original key value])) :
    (book.enter (.original key value)).Records (ledger ++ [.original key value]) := by
  have hlength : book.values.length = ((originals ledger).map Prod.fst).length := by
    simp [h.values]
  have horiginals : originals (ledger ++ [.original key value]) =
      originals ledger ++ [(key, value)] := by
    simp [originals, LedgerEntry.original?]
  have hfresh : key ∉ (originals ledger).map Prod.fst := by
    intro hmem
    obtain ⟨⟨k, v⟩, hkv, rfl⟩ := List.mem_map.1 hmem
    exact horderly.fresh _ (mem_originals.1 hkv) rfl
  constructor
  · intro k i
    rw [horiginals, List.map_append, Book.enter, List.lookup_cons, List.map_singleton]
    by_cases hk : k = key
    · subst hk
      rw [beq_self_eq_true, Option.some.injEq, hlength, List.getElem?_append]
      split_ifs with hi
      · constructor
        · intro heq
          omega
        · intro hget
          exact absurd (List.mem_of_getElem? hget) hfresh
      · rw [List.getElem?_singleton]
        split_ifs with hzero
        · have hplace : ((originals ledger).map Prod.fst).length = i := by omega
          simpa using hplace
        · have hplace : ((originals ledger).map Prod.fst).length ≠ i := by omega
          simpa using hplace
    · have hbeq : (k == key) = false := by simpa using hk
      rw [hbeq, List.getElem?_append]
      split_ifs with hi
      · exact h.index k i
      · have hnone : ((originals ledger).map Prod.fst)[i]? = none :=
          List.getElem?_eq_none (Nat.le_of_not_lt hi)
        rw [h.index k i, hnone, List.getElem?_singleton]
        split_ifs with hzero <;> simp [Ne.symm hk]
  · rw [horiginals, List.map_append, Book.enter]
    simp only [standing_append_original, List.map_cons, List.map_nil,
      horderly.standing_fresh, h.values]

theorem Book.Records.enter_amendment {book : Book κ α} {ledger : List (LedgerEntry κ α)} {key : κ}
    {value : Option α} (h : book.Records ledger) :
    (book.enter (.amendment key value)).Records (ledger ++ [.amendment key value]) := by
  have horiginals : originals (ledger ++ [.amendment key value]) = originals ledger := by
    simp [originals, LedgerEntry.original?]
  unfold Book.enter
  dsimp only
  cases hlookup : book.index.lookup key with
  | none =>
    constructor
    · rw [horiginals]
      exact h.index
    · rw [horiginals, h.values]
      apply List.map_congr_left
      intro o ho
      rw [standing_append_amendment, if_neg]
      rintro rfl
      obtain ⟨i, hi⟩ := List.getElem?_of_mem (List.mem_map_of_mem (f := Prod.fst) ho)
      rw [(h.index _ i).2 hi] at hlookup
      cases hlookup
  | some i =>
    have hkey := (h.index key i).1 hlookup
    constructor
    · rw [horiginals]
      exact h.index
    · rw [horiginals]
      apply List.ext_getElem?
      intro j
      rw [List.getElem?_set, h.values, List.getElem?_map, List.getElem?_map, List.length_map]
      rw [List.getElem?_map] at hkey
      cases hj : (originals ledger)[j]? with
      | none =>
        have hlength := List.getElem?_eq_none_iff.1 hj
        split_ifs with hij <;> first | rfl | omega
      | some o =>
        have hlength := (List.getElem?_eq_some_iff.1 hj).1
        simp only [Option.map_some, standing_append_amendment]
        by_cases hij : i = j
        · subst hij
          rw [hj, Option.map_some, Option.some.injEq] at hkey
          rw [if_pos rfl, if_pos hlength, if_pos hkey.symm]
        · rw [if_neg hij, if_neg]
          rintro rfl
          have hother : book.index.lookup o.1 = some j := (h.index _ j).2 (by simp [hj])
          rw [hlookup, Option.some.injEq] at hother
          exact hij hother

theorem keep_records {ledger : List (LedgerEntry κ α)} (h : Orderly ledger) :
    (keep ledger).Records ledger := by
  induction ledger using List.reverseRecOn with
  | nil =>
    refine ⟨fun k i => ?_, rfl⟩
    simp [keep, originals]
  | append_singleton ledger entry ih =>
    rw [keep_append]
    have hrecords := ih h.of_append
    cases entry with
    | original key value => exact hrecords.enter_original h
    | amendment key value => exact hrecords.enter_amendment

/-- What a book holds at the end is what stands of every original. -/
theorem keep_values {ledger : List (LedgerEntry κ α)} (h : Orderly ledger) :
    (keep ledger).values.filterMap id =
      (originals ledger).filterMap fun o => standing ledger o.1 o.2 := by
  rw [(keep_records h).values, List.filterMap_map]
  rfl

end Timeline
