import Mathlib.Data.Finset.Card
import Mathlib.Data.Finset.Filter
import Mathlib.Data.Set.Function

/-!
# The first free name

A search through numbered names for one that is not taken. It ends because finitely many
names are taken and no name has two numbers.
-/

namespace Timeline

variable {α : Type} [DecidableEq α]

structure Numbering (α : Type) where
  name : ℕ → α
  injective : Function.Injective name

namespace Numbering

variable (numbering : Numbering α) (taken : List α)

/-- The taken names that the search may still meet. -/
noncomputable def ahead (ordinal : ℕ) : Finset α :=
  open Classical in taken.toFinset.filter fun name => ∃ k, ordinal ≤ k ∧ numbering.name k = name

theorem ahead_card_lt {ordinal : ℕ} (h : numbering.name ordinal ∈ taken) :
    (numbering.ahead taken (ordinal + 1)).card < (numbering.ahead taken ordinal).card := by
  classical
  apply Finset.card_lt_card
  rw [Finset.ssubset_iff_of_subset]
  · refine ⟨numbering.name ordinal, ?_, ?_⟩
    · simp only [ahead, Finset.mem_filter, List.mem_toFinset]
      exact ⟨h, ordinal, le_rfl, rfl⟩
    · simp only [ahead, Finset.mem_filter, not_and]
      rintro - ⟨k, hk, hname⟩
      have := numbering.injective hname
      omega
  · intro name hname
    simp only [ahead, Finset.mem_filter] at hname ⊢
    obtain ⟨hmem, k, hk, rfl⟩ := hname
    exact ⟨hmem, k, by omega, rfl⟩

def firstFree (ordinal : ℕ) : ℕ :=
  if numbering.name ordinal ∈ taken then firstFree (ordinal + 1) else ordinal
termination_by (numbering.ahead taken ordinal).card
decreasing_by exact numbering.ahead_card_lt taken ‹_›

theorem firstFree_not_mem (ordinal : ℕ) :
    numbering.name (numbering.firstFree taken ordinal) ∉ taken := by
  fun_induction firstFree numbering taken ordinal with
  | case1 ordinal htaken ih => exact ih
  | case2 ordinal hfree => exact hfree

theorem firstFree_le (ordinal : ℕ) :
    numbering.firstFree taken ordinal ≤ ordinal + (numbering.ahead taken ordinal).card := by
  fun_induction firstFree numbering taken ordinal with
  | case1 ordinal htaken ih =>
    have hlt := numbering.ahead_card_lt taken htaken
    omega
  | case2 ordinal hfree => omega

theorem ahead_card_le (ordinal : ℕ) : (numbering.ahead taken ordinal).card ≤ taken.length := by
  classical
  exact (Finset.card_filter_le _ _).trans taken.toFinset_card_le

end Numbering

end Timeline
