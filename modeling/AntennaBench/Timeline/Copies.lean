import Mathlib.Data.List.Basic
import Mathlib.Order.Basic

/-!
# Copies of a key

The places at which a key stands in a list, the repeated keys, and the copies that
have two others before them. Whoever is told only the first two places of every
repeated key knows all its copies exactly when no copy is late. Of an increasing list
of places, a place is its own position exactly when no place before it is left out.
-/

namespace Timeline

variable {α κ : Type} [DecidableEq κ] (key : α → κ)

/-- Every place at which the key stands, in order. -/
def places (k : κ) (items : List α) : List ℕ :=
  (items.zipIdx.filter (key ·.1 = k)).map (·.2)

/-- `position`: where the key stands first. -/
def firstPlace (k : κ) (items : List α) : Option ℕ :=
  items.findIdx? (key · = k)

/-- How many copies of its key stand before a place. -/
def rank (items : List α) (i : ℕ) (a : α) : ℕ :=
  (items.take i).countP (key · = key a)

/-- The item at this place has at least two copies before it. -/
def Late (items : List α) (i : ℕ) (a : α) : Prop :=
  items[i]? = some a ∧ 2 ≤ rank key items i a

variable {key}

theorem places_cons (k : κ) (a : α) (items : List α) :
    places key k (a :: items) =
      (if key a = k then [0] else []) ++ (places key k items).map (· + 1) := by
  have hshift : (items.zipIdx 1).filter (key ·.1 = k) =
      (items.zipIdx.filter (key ·.1 = k)).map (Prod.map id (· + 1)) := by
    rw [List.zipIdx_succ, List.filter_map]
    rfl
  rw [places, places, List.zipIdx_cons, List.filter_cons, hshift]
  by_cases h : key a = k <;> simp [h]

theorem rank_cons (a b : α) (items : List α) (i : ℕ) :
    rank key (a :: items) (i + 1) b =
      rank key items i b + if key a = key b then 1 else 0 := by
  simp [rank, List.countP_cons]

/-- The n-th place of a key holds a copy with n others before it. -/
theorem places_getElem? {k : κ} {items : List α} {n i : ℕ} :
    (places key k items)[n]? = some i ↔
      ∃ a, items[i]? = some a ∧ key a = k ∧ rank key items i a = n := by
  induction items generalizing n i with
  | nil => simp [places]
  | cons a items ih =>
    have hshift (m : ℕ) : ((places key k items).map (· + 1))[m]? = some i ↔
        ∃ j, i = j + 1 ∧ (places key k items)[m]? = some j := by
      rw [List.getElem?_map, Option.map_eq_some_iff]
      constructor
      · rintro ⟨j, hj, rfl⟩
        exact ⟨j, rfl, hj⟩
      · rintro ⟨j, rfl, hj⟩
        exact ⟨j, hj, rfl⟩
    rw [places_cons]
    rcases i with - | i
    · by_cases h : key a = k
      · rcases n with - | n
        · simp [h, rank]
        · simp [h, rank]
      · simp [h, rank]
    · by_cases h : key a = k
      · rcases n with - | n
        · simp only [h, if_true, List.singleton_append, List.getElem?_cons_zero,
            List.getElem?_cons_succ, rank_cons]
          constructor
          · simp
          · rintro ⟨b, -, rfl, hrank⟩
            simp at hrank
        · simp only [h, if_true, List.singleton_append, List.getElem?_cons_succ, rank_cons,
            hshift, Nat.add_right_cancel_iff, exists_eq_left', ih]
          refine exists_congr fun b => and_congr_right fun _ => and_congr_right fun hb => ?_
          simp [hb]
      · simp only [h, if_false, List.nil_append, List.getElem?_cons_succ, rank_cons, hshift,
          Nat.add_right_cancel_iff, exists_eq_left', ih]
        refine exists_congr fun b => and_congr_right fun _ => and_congr_right fun hb => ?_
        rw [hb, if_neg h, Nat.add_zero]

theorem mem_places {k : κ} {items : List α} {i : ℕ} :
    i ∈ places key k items ↔ ∃ a, items[i]? = some a ∧ key a = k := by
  rw [List.mem_iff_getElem?]
  simp only [places_getElem?]
  constructor
  · rintro ⟨n, a, ha, hk, -⟩
    exact ⟨a, ha, hk⟩
  · rintro ⟨a, ha, hk⟩
    exact ⟨_, a, ha, hk, rfl⟩

theorem length_places (k : κ) (items : List α) :
    (places key k items).length = items.countP (key · = k) := by
  induction items with
  | nil => rfl
  | cons a items ih =>
    rw [places_cons, List.length_append, List.length_map, ih, List.countP_cons]
    by_cases h : key a = k <;> simp [h, Nat.add_comm]

theorem firstPlace_eq (k : κ) (items : List α) :
    firstPlace key k items = (places key k items)[0]? := by
  induction items with
  | nil => rfl
  | cons a items ih =>
    rw [firstPlace] at ih ⊢
    rw [places_cons, List.findIdx?_cons, ih]
    by_cases h : key a = k <;> simp [h]

theorem firstPlace_eq_some {k : κ} {items : List α} {i : ℕ} :
    firstPlace key k items = some i ↔
      ∃ a, items[i]? = some a ∧ key a = k ∧ rank key items i a = 0 := by
  rw [firstPlace_eq, places_getElem?]

theorem firstPlace_of_mem (key : α → κ) {items : List α} {a : α} (h : a ∈ items) :
    ∃ i, firstPlace key (key a) items = some i := by
  cases hplace : firstPlace key (key a) items with
  | some i => exact ⟨i, rfl⟩
  | none =>
    have := List.findIdx?_eq_none_iff.1 hplace a h
    simp at this

theorem exists_second_place (key : α → κ) {k : κ} {items : List α}
    (h : 2 ≤ items.countP (key · = k)) : ∃ i, (places key k items)[1]? = some i := by
  have hlt : 1 < (places key k items).length := by
    rw [length_places]
    exact h
  exact ⟨_, List.getElem?_eq_getElem hlt⟩

/-- The keys met again, one entry for every copy after the first. -/
def repeats (seen : List κ) : List κ → List κ
  | [] => []
  | k :: rest => if k ∈ seen then k :: repeats seen rest else repeats (k :: seen) rest

theorem mem_repeats {k : κ} (seen keys : List κ) :
    k ∈ repeats seen keys ↔ (k ∈ seen ∧ k ∈ keys) ∨ 2 ≤ keys.count k := by
  induction keys generalizing seen with
  | nil => simp [repeats]
  | cons a rest ih =>
    rw [repeats]
    by_cases ha : a ∈ seen
    · rw [if_pos ha, List.mem_cons, ih, List.count_cons, List.mem_cons]
      by_cases hk : k = a
      · subst hk
        simp [ha]
      · simp [hk, Ne.symm hk]
    · rw [if_neg ha, ih, List.count_cons, List.mem_cons, List.mem_cons]
      by_cases hk : k = a
      · subst hk
        have hpos : k ∈ rest ↔ 0 < rest.count k := List.count_pos_iff.symm
        simp only [true_or, true_and, ha, false_and, false_or, beq_self_eq_true, if_true, hpos]
        omega
      · simp [hk, Ne.symm hk]

theorem copy_cases (key : α → κ) {items : List α} {i : ℕ} {a : α} (h : items[i]? = some a) :
    (places key (key a) items)[0]? = some i ∨ (places key (key a) items)[1]? = some i ∨
      Late key items i a := by
  have hrank {n : ℕ} (hn : rank key items i a = n) : (places key (key a) items)[n]? = some i :=
    places_getElem?.2 ⟨a, h, rfl, hn⟩
  rcases hn : rank key items i a with - | - | n
  · exact .inl (hrank hn)
  · exact .inr (.inl (hrank hn))
  · exact .inr (.inr ⟨h, by omega⟩)

theorem increasing_lt {items : List ℕ} (h : items.Pairwise (· < ·)) {i j a b : ℕ} (hij : i < j)
    (hi : items[i]? = some a) (hj : items[j]? = some b) : a < b := by
  obtain ⟨hilt, rfl⟩ := List.getElem?_eq_some_iff.1 hi
  obtain ⟨hjlt, rfl⟩ := List.getElem?_eq_some_iff.1 hj
  exact List.pairwise_iff_getElem.1 h i j hilt hjlt hij

theorem increasing_le {items : List ℕ} (h : items.Pairwise (· < ·)) {i a : ℕ}
    (hi : items[i]? = some a) : i ≤ a := by
  induction i generalizing a with
  | zero => exact Nat.zero_le a
  | succ i ih =>
    obtain ⟨hlt, -⟩ := List.getElem?_eq_some_iff.1 hi
    have hprevious : items[i]? = some (items.get ⟨i, by omega⟩) :=
      List.getElem?_eq_getElem (by omega)
    have := ih hprevious
    have := increasing_lt h (Nat.lt_succ_self i) hprevious hi
    omega

theorem increasing_position_iff {items : List ℕ} (h : items.Pairwise (· < ·)) {place : ℕ} :
    items[place]? = some place ↔ ∀ earlier ≤ place, earlier ∈ items := by
  constructor
  · intro hplace
    induction place with
    | zero =>
      intro earlier hearlier
      obtain rfl : earlier = 0 := by omega
      exact List.mem_of_getElem? hplace
    | succ place ih =>
      obtain ⟨hlt, -⟩ := List.getElem?_eq_some_iff.1 hplace
      have hprevious : items[place]? = some (items.get ⟨place, by omega⟩) :=
        List.getElem?_eq_getElem (by omega)
      have hle := increasing_le h hprevious
      have hless := increasing_lt h (Nat.lt_succ_self place) hprevious hplace
      have heq : items.get ⟨place, by omega⟩ = place := by omega
      rw [heq] at hprevious
      intro earlier hearlier
      by_cases hlast : earlier = place + 1
      · rw [hlast]
        exact List.mem_of_getElem? hplace
      · exact ih hprevious earlier (by omega)
  · intro hall
    induction place with
    | zero =>
      obtain ⟨i, hi⟩ := List.mem_iff_getElem?.1 (hall 0 (Nat.le_refl _))
      obtain rfl : i = 0 := by
        have := increasing_le h hi
        omega
      exact hi
    | succ place ih =>
      have hprevious := ih fun earlier hearlier => hall earlier (by omega)
      obtain ⟨i, hi⟩ := List.mem_iff_getElem?.1 (hall (place + 1) (Nat.le_refl _))
      have hle := increasing_le h hi
      rcases Nat.lt_trichotomy i place with hlt | rfl | hgt
      · have := increasing_lt h hlt hi hprevious
        omega
      · rw [hprevious] at hi
        simp at hi
      · obtain rfl : i = place + 1 := by omega
        exact hi

end Timeline
