import Mathlib.Data.List.Dedup
import Mathlib.Data.List.ProdSigma
import Mathlib.Data.List.Perm.Subperm
import Mathlib.Tactic.Ring

/-!
# Crossed designs

A list of pairs is crossed over two factors when it has every pair of their levels exactly
once. Counting the pairs and the levels is enough to see that, and then every level of a
factor comes as often as the other factor has levels.
-/

namespace Timeline

variable {α β : Type}

/-- As many different pairs as there are pairs of levels: each occurs once. -/
theorem perm_product_of_length [DecidableEq α] [DecidableEq β] {pairs : List (α × β)}
    {as : List α} {bs : List β} (hsub : pairs ⊆ as ×ˢ bs)
    (hlength : pairs.length = as.length * bs.length)
    (hdistinct : pairs.dedup.length = as.length * bs.length) : pairs.Perm (as ×ˢ bs) := by
  have hnodup : pairs.Nodup := by
    have heq : pairs.dedup = pairs :=
      (List.dedup_sublist pairs).eq_of_length (hdistinct.trans hlength.symm)
    exact List.dedup_eq_self.1 heq
  have hsubperm : pairs.Subperm (as ×ˢ bs) := List.subperm_of_subset hnodup hsub
  apply hsubperm.perm_of_length_le
  have hproduct := List.length_product as bs
  omega

/-- A level of the first factor comes with every level of the second. -/
theorem countP_fst_product [DecidableEq α] {as : List α} (has : as.Nodup) (bs : List β) {a : α}
    (ha : a ∈ as) : (as ×ˢ bs).countP (·.1 = a) = bs.length := by
  induction as with
  | nil => cases ha
  | cons first rest ih =>
    obtain ⟨hfirst, hrest⟩ := List.nodup_cons.1 has
    rw [List.product_cons, List.countP_append, List.countP_map]
    by_cases h : first = a
    · subst h
      have hnone : (rest ×ˢ bs).countP (·.1 = first) = 0 := by
        rw [List.countP_eq_zero]
        intro pair hpair
        have hmem := (List.mem_product.1 hpair).1
        simpa using ne_of_mem_of_not_mem hmem hfirst
      rw [hnone]
      simp [Function.comp_def]
    · have hmem : a ∈ rest := (List.mem_cons.1 ha).resolve_left (Ne.symm h)
      rw [ih hrest hmem]
      simp [Function.comp_def, h]

/-- A level of the second factor comes with every level of the first. -/
theorem countP_snd_product [DecidableEq β] (as : List α) {bs : List β} (hbs : bs.Nodup) {b : β}
    (hb : b ∈ bs) : (as ×ˢ bs).countP (·.2 = b) = as.length := by
  induction as with
  | nil => rfl
  | cons first rest ih =>
    rw [List.product_cons, List.countP_append, List.countP_map, ih]
    have hone : bs.countP ((fun pair : α × β => decide (pair.2 = b)) ∘ (first, ·)) = 1 := by
      have hcount := List.count_eq_one_of_mem hbs hb
      rw [List.count_eq_countP] at hcount
      simpa [Function.comp_def, beq_iff_eq, Bool.beq_eq_decide_eq] using hcount
    rw [hone, List.length_cons, Nat.add_comm]

/-- The places of the pairs, row by row. -/
theorem zipIdx_product (as : List α) (bs : List β) (start : ℕ) :
    (as ×ˢ bs).zipIdx start = as.zipIdx.flatMap fun (a, i) =>
      bs.zipIdx.map fun (b, j) => ((a, b), start + (i * bs.length + j)) := by
  have hrow : ∀ (a : α) (first : ℕ), (bs.map (a, ·)).zipIdx first =
      bs.zipIdx.map fun (b, j) => ((a, b), first + j) := by
    intro a first
    rw [List.zipIdx_map, List.zipIdx_eq_map_add, List.map_map]
    apply List.map_congr_left
    rintro ⟨b, j⟩ _
    simp
  induction as generalizing start with
  | nil => rfl
  | cons a rest ih =>
    rw [List.product_cons, List.zipIdx_append, hrow, ih, List.zipIdx_cons, List.flatMap_cons]
    congr 1
    · simp
    · rw [Nat.zero_add, List.zipIdx_eq_map_add (l := rest) (i := 1), List.flatMap_map]
      apply List.flatMap_congr
      rintro ⟨b, i⟩ _
      apply List.map_congr_left
      rintro ⟨c, j⟩ _
      simp only [List.length_map, Prod.mk.injEq, true_and]
      ring

end Timeline
