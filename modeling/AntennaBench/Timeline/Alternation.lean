import Mathlib.Algebra.Order.Field.Rat
import Mathlib.Data.List.Nodup
import Mathlib.Tactic.FieldSimp
import Mathlib.Tactic.Linarith
import Mathlib.Tactic.Ring

/-!
# Alternating orders

A list repeated in alternate directions, and the mean place of the items a predicate picks
out. After an even number of turns the whole is its own reverse, so every choice of items has
the mean place of the middle. After an odd number the last turn tells the items apart again.
-/

namespace Timeline

variable {α β : Type}

/-- The sum of the places, counted from zero, of the items that `p` picks out. -/
def placeSum (p : α → Bool) (items : List α) : ℕ :=
  ((items.zipIdx.filter (p ·.1)).map (·.2)).sum

/-- The mean place of the items that `p` picks out. -/
def meanPlace (p : α → Bool) (items : List α) : ℚ :=
  placeSum p items / items.countP p

theorem placeSum_shift (p : α → Bool) (items : List α) (start : ℕ) :
    (((items.zipIdx start).filter (p ·.1)).map (·.2)).sum =
      start * items.countP p + placeSum p items := by
  induction items generalizing start with
  | nil => rfl
  | cons a rest ih =>
    unfold placeSum
    by_cases ha : p a = true
    · simp only [List.zipIdx_cons, List.filter_cons, ha, if_true, List.map_cons, List.sum_cons,
        List.countP_cons, ih, Nat.zero_add]
      ring
    · simp only [List.zipIdx_cons, List.filter_cons, ha, if_false, List.countP_cons, ih,
        Bool.false_eq_true]
      ring

theorem placeSum_append (p : α → Bool) (xs ys : List α) :
    placeSum p (xs ++ ys) = placeSum p xs + (xs.length * ys.countP p + placeSum p ys) := by
  have hshift := placeSum_shift p ys xs.length
  rw [placeSum, List.zipIdx_append, List.filter_append, List.map_append, List.sum_append,
    Nat.zero_add, hshift]
  rfl

theorem placeSum_cons (p : α → Bool) (a : α) (rest : List α) :
    placeSum p (a :: rest) = rest.countP p + placeSum p rest := by
  have hone : placeSum p [a] = 0 := by
    by_cases ha : p a = true <;> simp [placeSum, ha]
  have happend := placeSum_append p [a] rest
  rw [hone, List.length_singleton] at happend
  simpa using happend

/-- A place and its mirror image add up to the last place. -/
theorem placeSum_reverse (p : α → Bool) (items : List α) :
    placeSum p items + placeSum p items.reverse + items.countP p =
      items.countP p * items.length := by
  induction items with
  | nil => rfl
  | cons a rest ih =>
    have hlast : placeSum p [a] = 0 := by
      rw [placeSum_cons]
      rfl
    rw [List.reverse_cons, placeSum_append, hlast, placeSum_cons, List.length_reverse,
      List.countP_cons, List.countP_cons, List.countP_nil, List.length_cons]
    by_cases ha : p a = true
    · simp only [ha, if_true]
      linarith
    · simp only [ha, if_false, Bool.false_eq_true]
      linarith

/-- In a list that is its own reverse, every choice of items lies in the middle. -/
theorem placeSum_of_palindrome (p : α → Bool) {items : List α} (h : items.reverse = items) :
    2 * placeSum p items + items.countP p = items.countP p * items.length := by
  have hmirror := placeSum_reverse p items
  rw [h] at hmirror
  omega

theorem meanPlace_of_palindrome {p : α → Bool} {items : List α} (h : items.reverse = items)
    (hp : items.countP p ≠ 0) : meanPlace p items = ((items.length : ℚ) - 1) / 2 := by
  have hsum := placeSum_of_palindrome p h
  have hcount : (items.countP p : ℚ) ≠ 0 := by exact_mod_cast hp
  have hrat : 2 * (placeSum p items : ℚ) + items.countP p = items.countP p * items.length := by
    exact_mod_cast hsum
  rw [meanPlace, div_eq_div_iff hcount two_ne_zero]
  linarith

/-- The place of an item that occurs once. -/
theorem placeSum_of_nodup [DecidableEq α] {items : List α} (h : items.Nodup) {a : α}
    (ha : a ∈ items) : placeSum (· = a) items = items.idxOf a := by
  induction items with
  | nil => cases ha
  | cons first rest ih =>
    obtain ⟨hfirst, hrest⟩ := List.nodup_cons.1 h
    rw [placeSum_cons]
    by_cases heq : first = a
    · subst heq
      have hcount : rest.countP (fun b => decide (b = first)) = 0 := by
        rw [List.countP_eq_zero]
        intro b hb
        simpa using ne_of_mem_of_not_mem hb hfirst
      have hsum : placeSum (fun b => decide (b = first)) rest = 0 := by
        have hnone : rest.zipIdx.filter (fun entry => decide (entry.1 = first)) = [] := by
          rw [List.filter_eq_nil_iff]
          intro entry hentry
          simpa using ne_of_mem_of_not_mem (List.fst_mem_of_mem_zipIdx hentry) hfirst
        rw [placeSum, hnone]
        rfl
      rw [hcount, hsum, List.idxOf_cons_self]
    · have hmem : a ∈ rest := (List.mem_cons.1 ha).resolve_left (Ne.symm heq)
      have hcount : rest.countP (fun b => decide (b = a)) = 1 := by
        have hone := List.count_eq_one_of_mem hrest hmem
        simpa [List.count, Bool.beq_eq_decide_eq] using hone
      rw [hcount, ih hrest hmem, List.idxOf_cons_ne _ heq]
      omega

/-- The list taken in turns, each in the direction opposite to the one before. -/
def alternation (order : List α) : ℕ → List α
  | 0 => []
  | turns + 1 => order ++ alternation order.reverse turns

/-- The direction a turn takes. -/
def turnOrder (order : List α) (turn : ℕ) : List α :=
  if turn % 2 = 0 then order else order.reverse

theorem turnOrder_succ (order : List α) (turn : ℕ) :
    turnOrder order (turn + 1) = turnOrder order.reverse turn := by
  unfold turnOrder
  by_cases h : turn % 2 = 0
  · rw [if_pos h, if_neg (by omega)]
  · rw [if_neg h, if_pos (by omega), List.reverse_reverse]

theorem alternation_eq_flatMap (order : List α) (turns : ℕ) :
    alternation order turns = (List.range turns).flatMap (turnOrder order) := by
  induction turns generalizing order with
  | zero => rfl
  | succ turns ih =>
    rw [alternation, ih, List.range_succ_eq_map, List.flatMap_cons, List.flatMap_map]
    have hfirst : turnOrder order 0 = order := rfl
    rw [hfirst]
    congr 1
    apply List.flatMap_congr
    intro turn _
    exact (turnOrder_succ order turn).symm

theorem alternation_succ (order : List α) (turns : ℕ) :
    alternation order (turns + 1) = alternation order turns ++ turnOrder order turns := by
  rw [alternation_eq_flatMap, alternation_eq_flatMap, List.range_succ, List.flatMap_append,
    List.flatMap_singleton]

/-- Read backwards, an alternation starts with its last turn. -/
theorem reverse_alternation (order : List α) (turns : ℕ) :
    (alternation order turns).reverse = alternation (turnOrder order turns) turns := by
  induction turns generalizing order with
  | zero => rfl
  | succ turns ih =>
    rw [alternation, List.reverse_append, ih, ← turnOrder_succ, alternation_succ]
    congr 1
    unfold turnOrder
    by_cases h : turns % 2 = 0
    · rw [if_pos h, if_neg (by omega)]
    · rw [if_neg h, if_pos (by omega)]

theorem alternation_palindrome (order : List α) {turns : ℕ} (h : turns % 2 = 0) :
    (alternation order turns).reverse = alternation order turns := by
  rw [reverse_alternation, turnOrder, if_pos h]

theorem countP_alternation (p : α → Bool) (order : List α) (turns : ℕ) :
    (alternation order turns).countP p = turns * order.countP p := by
  induction turns generalizing order with
  | zero => simp [alternation]
  | succ turns ih =>
    rw [alternation, List.countP_append, ih, (List.reverse_perm order).countP_eq]
    ring

theorem length_alternation (order : List α) (turns : ℕ) :
    (alternation order turns).length = turns * order.length := by
  have hcount := countP_alternation (fun _ => true) order turns
  simpa using hcount

theorem mem_alternation {order : List α} {turns : ℕ} {a : α} :
    a ∈ alternation order turns ↔ turns ≠ 0 ∧ a ∈ order := by
  induction turns generalizing order with
  | zero => simp [alternation]
  | succ turns ih =>
    rw [alternation, List.mem_append, ih, List.mem_reverse]
    simp only [ne_eq, Nat.add_eq_zero_iff, one_ne_zero, and_false, not_false_eq_true, true_and]
    tauto

theorem map_alternation (f : α → β) (order : List α) (turns : ℕ) :
    (alternation order turns).map f = alternation (order.map f) turns := by
  induction turns generalizing order with
  | zero => rfl
  | succ turns ih => rw [alternation, List.map_append, ih, alternation, List.map_reverse]

theorem filter_alternation (p : α → Bool) (order : List α) (turns : ℕ) :
    (alternation order turns).filter p = alternation (order.filter p) turns := by
  induction turns generalizing order with
  | zero => rfl
  | succ turns ih => rw [alternation, List.filter_append, ih, alternation, List.filter_reverse]

/-- Over an even number of turns, the places an item takes in each turn add up to the middle. -/
theorem turn_places_sum (p : α → Bool) (order : List α) {turns : ℕ} (h : turns % 2 = 0) :
    2 * ((List.range turns).map fun turn => placeSum p (turnOrder order turn)).sum +
      turns * order.countP p = turns * (order.countP p * order.length) := by
  obtain ⟨pairs, rfl⟩ : ∃ pairs, turns = 2 * pairs := ⟨turns / 2, by omega⟩
  clear h
  induction pairs with
  | zero => simp
  | succ pairs ih =>
    have hmirror := placeSum_reverse p order
    have hfirst : turnOrder order (2 * pairs) = order := by
      rw [turnOrder, if_pos (by omega)]
    have hsecond : turnOrder order (2 * pairs + 1) = order.reverse := by
      rw [turnOrder, if_neg (by omega)]
    have hturns : 2 * (pairs + 1) = 2 * pairs + 1 + 1 := by ring
    rw [hturns, List.range_succ, List.range_succ, List.map_append, List.map_append,
      List.sum_append, List.sum_append, List.map_singleton, List.map_singleton, hfirst, hsecond,
      List.sum_singleton, List.sum_singleton]
    nlinarith [ih, hmirror]

/-- Two items occur equally often, and their places have the same mean. -/
structure Balanced [DecidableEq α] (items : List α) (a b : α) : Prop where
  counts : items.count a = items.count b
  means : meanPlace (· = a) items = meanPlace (· = b) items

theorem count_eq_countP_decide [DecidableEq α] (items : List α) (a : α) :
    items.count a = items.countP (· = a) := by
  simp only [List.count, Bool.beq_eq_decide_eq]

theorem balanced_of_palindrome [DecidableEq α] {items : List α} (h : items.reverse = items)
    {a b : α} (hcount : items.count a = items.count b) : Balanced items a b := by
  refine ⟨hcount, ?_⟩
  rw [count_eq_countP_decide, count_eq_countP_decide] at hcount
  by_cases hzero : items.countP (· = b) = 0
  · rw [meanPlace, meanPlace, hcount, hzero]
    simp
  · rw [meanPlace_of_palindrome h hzero, meanPlace_of_palindrome h (hcount ▸ hzero)]

theorem count_alternation [DecidableEq α] {order : List α} (h : order.Nodup) {a : α}
    (ha : a ∈ order) (turns : ℕ) : (alternation order turns).count a = turns := by
  rw [List.count, countP_alternation, ← List.count, List.count_eq_one_of_mem h ha, Nat.mul_one]

/-- Taken an odd number of times, different items have different mean places. -/
theorem alternation_odd [DecidableEq α] {order : List α} (h : order.Nodup) {turns : ℕ}
    (hturns : turns % 2 = 1) {a b : α} (ha : a ∈ order) (hb : b ∈ order)
    (hbalanced : Balanced (alternation order turns) a b) : a = b := by
  obtain ⟨earlier, rfl⟩ : ∃ earlier, turns = earlier + 1 := ⟨turns - 1, by omega⟩
  have hearlier : earlier % 2 = 0 := by omega
  have hcount : ∀ c ∈ order, (alternation order (earlier + 1)).countP (· = c) = earlier + 1 := by
    intro c hc
    rw [← count_eq_countP_decide, count_alternation h hc]
  have hplace : ∀ c ∈ order, 2 * placeSum (· = c) (alternation order (earlier + 1)) + earlier =
      earlier * (earlier * order.length) + 2 * (earlier * order.length + order.idxOf c) := by
    intro c hc
    have hmiddle := placeSum_of_palindrome (· = c) (alternation_palindrome order hearlier)
    have hone : order.countP (fun x => decide (x = c)) = 1 := by
      rw [← count_eq_countP_decide, List.count_eq_one_of_mem h hc]
    rw [← count_eq_countP_decide, count_alternation h hc, length_alternation] at hmiddle
    rw [alternation_succ, turnOrder, if_pos hearlier, placeSum_append, length_alternation, hone,
      placeSum_of_nodup h hc]
    omega
  have hmeans := hbalanced.means
  rw [meanPlace, meanPlace, hcount a ha, hcount b hb,
    div_left_inj' (by exact_mod_cast Nat.succ_ne_zero earlier)] at hmeans
  have hsums : placeSum (· = a) (alternation order (earlier + 1)) =
      placeSum (· = b) (alternation order (earlier + 1)) := by
    exact_mod_cast hmeans
  have hindex : order.idxOf a = order.idxOf b := by
    have hplaceA := hplace a ha
    have hplaceB := hplace b hb
    omega
  exact (List.idxOf_inj ha).1 hindex

end Timeline
