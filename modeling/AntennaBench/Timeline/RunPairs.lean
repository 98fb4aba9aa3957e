import Mathlib.Algebra.Group.Nat.Even
import Mathlib.Data.List.TakeWhile

/-!
# Pairs of a run

A list is cut into runs of one key and each run into consecutive pairs, the last
element of an odd run standing alone. Two neighbours make a pair exactly when
they share their key and an even number of elements of the run precedes them.
-/

namespace Timeline

variable {α β : Type} [DecidableEq β] (key : α → β)

/-- The maximal stretches of one key, in order. -/
def runs : List α → List (List α)
  | [] => []
  | a :: rest =>
    match runs rest with
    | (b :: run) :: more =>
      if key a = key b then (a :: b :: run) :: more else [a] :: (b :: run) :: more
    | more => [a] :: more

def pairUp : List α → List (α × Option α)
  | [] => []
  | [a] => [(a, none)]
  | a :: b :: rest => (a, some b) :: pairUp rest

def runPairs (items : List α) : List (α × Option α) :=
  (runs key items).flatMap pairUp

/-- How many elements of one key stand at the end of the list. -/
def trailing (k : β) (items : List α) : ℕ :=
  (items.reverse.takeWhile fun a => key a = k).length

variable {key}

theorem runs_cons (key : α → β) (a : α) (rest : List α) :
    ∃ run more, runs key (a :: rest) = (a :: run) :: more := by
  rw [runs]
  split
  · split_ifs
    · exact ⟨_, _, rfl⟩
    · exact ⟨_, _, rfl⟩
  · exact ⟨_, _, rfl⟩

theorem runPairs_singleton (a : α) : runPairs key [a] = [(a, none)] := rfl

theorem runPairs_same {a b : α} (h : key a = key b) (rest : List α) :
    runPairs key (a :: b :: rest) = (a, some b) :: runPairs key rest := by
  cases rest with
  | nil => simp [runPairs, runs, h, pairUp]
  | cons c rest =>
    obtain ⟨run, more, hruns⟩ := runs_cons key c rest
    rw [runPairs, runPairs, runs, runs, hruns]
    by_cases hb : key b = key c <;> simp [h, hb, pairUp]

theorem runPairs_other {a b : α} (h : key a ≠ key b) (rest : List α) :
    runPairs key (a :: b :: rest) = (a, none) :: runPairs key (b :: rest) := by
  obtain ⟨run, more, hruns⟩ := runs_cons key b rest
  rw [runPairs, runPairs, runs, hruns]
  simp [h, pairUp]

theorem trailing_cons_of_all {k : β} {a : α} {items : List α} (h : ∀ b ∈ items, key b = k) :
    trailing key k (a :: items) = if key a = k then items.length + 1 else items.length := by
  have hitems : items.reverse.takeWhile (fun b => decide (key b = k)) = items.reverse :=
    List.takeWhile_eq_self_iff.2 fun b hb => by simpa using h b (List.mem_reverse.1 hb)
  unfold trailing
  rw [List.reverse_cons, List.takeWhile_append, hitems, if_pos rfl]
  by_cases ha : key a = k <;> simp [ha]

theorem trailing_of_all {k : β} {items : List α} (h : ∀ b ∈ items, key b = k) :
    trailing key k items = items.length := by
  have hitems : items.reverse.takeWhile (fun b => decide (key b = k)) = items.reverse :=
    List.takeWhile_eq_self_iff.2 fun b hb => by simpa using h b (List.mem_reverse.1 hb)
  rw [trailing, hitems, List.length_reverse]

theorem trailing_cons_of_not_all {k : β} {a : α} {items : List α} (h : ¬∀ b ∈ items, key b = k) :
    trailing key k (a :: items) = trailing key k items := by
  have hitems : ¬(items.reverse.takeWhile fun b => decide (key b = k)).length =
      items.reverse.length := by
    intro heq
    apply h
    intro b hb
    have hself := (List.takeWhile_prefix (l := items.reverse)
      (fun b => decide (key b = k))).eq_of_length heq
    simpa using List.takeWhile_eq_self_iff.1 hself b (List.mem_reverse.2 hb)
  unfold trailing
  rw [List.reverse_cons, List.takeWhile_append, if_neg hitems]

/-- Two elements of one key in front leave the parity as it is. -/
theorem even_trailing_same {k : β} {a b : α} (h : key a = key b) (items : List α) :
    Even (trailing key k (a :: b :: items)) ↔ Even (trailing key k items) := by
  by_cases hall : ∀ c ∈ items, key c = k
  · by_cases hb : key b = k
    · have hmore : ∀ c ∈ b :: items, key c = k := by
        simpa [hb] using hall
      rw [trailing_cons_of_all hmore, if_pos (h.trans hb), trailing_of_all hall]
      simp [Nat.even_add_one]
    · have hmore : ¬∀ c ∈ b :: items, key c = k := by
        simp [hb]
      rw [trailing_cons_of_not_all hmore, trailing_cons_of_all hall, if_neg hb,
        trailing_of_all hall]
  · have hmore : ¬∀ c ∈ b :: items, key c = k := by
      simpa using fun _ => by simpa using hall
    rw [trailing_cons_of_not_all hmore, trailing_cons_of_not_all hall]

/-- An element of another key in front does not count. -/
theorem trailing_other {k : β} {a b : α} (h : key a ≠ key b) (items : List α) :
    trailing key k (a :: b :: items) = trailing key k (b :: items) := by
  by_cases hall : ∀ c ∈ b :: items, key c = k
  · have hb : key b = k := hall b List.mem_cons_self
    rw [trailing_cons_of_all hall, if_neg (hb ▸ h), trailing_of_all hall]
  · rw [trailing_cons_of_not_all hall]

/-- The neighbours `x` and `y` share their key and stand at an even place of their run. -/
def PairedIn (key : α → β) (items : List α) (x y : α) : Prop :=
  ∃ before after, items = before ++ x :: y :: after ∧ key x = key y ∧
    Even (trailing key (key x) before)

theorem pairedIn_same {a b x y : α} (h : key a = key b) (rest : List α) :
    PairedIn key (a :: b :: rest) x y ↔ (x = a ∧ y = b) ∨ PairedIn key rest x y := by
  constructor
  · rintro ⟨before, after, heq, hkey, heven⟩
    match before, heq with
    | [], heq =>
      obtain ⟨rfl, rfl, -⟩ : a = x ∧ b = y ∧ rest = after := by simpa using heq
      exact .inl ⟨rfl, rfl⟩
    | [c], heq =>
      obtain ⟨rfl, rfl, -⟩ : a = c ∧ b = x ∧ rest = y :: after := by simpa using heq
      rw [trailing_cons_of_all (by simp), if_pos h] at heven
      exact absurd heven (by simp)
    | c :: d :: before, heq =>
      obtain ⟨rfl, rfl, rfl⟩ : a = c ∧ b = d ∧ rest = before ++ x :: y :: after := by
        simpa using heq
      exact .inr ⟨before, after, rfl, hkey, (even_trailing_same h before).1 heven⟩
  · rintro (⟨rfl, rfl⟩ | ⟨before, after, rfl, hkey, heven⟩)
    · exact ⟨[], rest, rfl, h, by simp [trailing]⟩
    · exact ⟨a :: b :: before, after, rfl, hkey, (even_trailing_same h before).2 heven⟩

theorem pairedIn_other {a b x y : α} (h : key a ≠ key b) (rest : List α) :
    PairedIn key (a :: b :: rest) x y ↔ PairedIn key (b :: rest) x y := by
  constructor
  · rintro ⟨before, after, heq, hkey, heven⟩
    match before, heq with
    | [], heq =>
      obtain ⟨rfl, rfl, -⟩ : a = x ∧ b = y ∧ rest = after := by simpa using heq
      exact absurd hkey h
    | [c], heq =>
      obtain ⟨rfl, rfl, rfl⟩ : a = c ∧ b = x ∧ rest = y :: after := by simpa using heq
      exact ⟨[], after, rfl, hkey, by simp [trailing]⟩
    | c :: d :: before, heq =>
      obtain ⟨rfl, rfl, rfl⟩ : a = c ∧ b = d ∧ rest = before ++ x :: y :: after := by
        simpa using heq
      rw [trailing_other h] at heven
      exact ⟨b :: before, after, rfl, hkey, heven⟩
  · rintro ⟨before, after, heq, hkey, heven⟩
    refine ⟨a :: before, after, congrArg (a :: ·) heq, hkey, ?_⟩
    cases before with
    | nil =>
      obtain ⟨rfl, -⟩ : b = x ∧ rest = y :: after := by simpa using heq
      rw [trailing_cons_of_all (by simp), if_neg h]
      exact Even.zero
    | cons c before =>
      obtain ⟨rfl, -⟩ : b = c ∧ rest = before ++ x :: y :: after := by simpa using heq
      rw [trailing_other h]
      exact heven

theorem mem_runPairs (items : List α) {x y : α} :
    (x, some y) ∈ runPairs key items ↔ PairedIn key items x y := by
  match items with
  | [] => simp [runPairs, runs, PairedIn]
  | [a] =>
    rw [runPairs_singleton]
    constructor
    · intro hmem
      simp at hmem
    · rintro ⟨before, after, heq, -⟩
      have hlength := congrArg List.length heq
      simp at hlength
      omega
  | a :: b :: rest =>
    by_cases h : key a = key b
    · rw [runPairs_same h, pairedIn_same h, List.mem_cons, mem_runPairs rest]
      simp
    · rw [runPairs_other h, pairedIn_other h, List.mem_cons, mem_runPairs (b :: rest)]
      simp
termination_by items.length

/-- Every element stands in exactly one pair, in order. -/
theorem flatMap_runPairs (items : List α) :
    (runPairs key items).flatMap (fun pair => pair.1 :: pair.2.toList) = items := by
  match items with
  | [] => rfl
  | [a] => rfl
  | a :: b :: rest =>
    by_cases h : key a = key b
    · rw [runPairs_same h, List.flatMap_cons, flatMap_runPairs rest]
      rfl
    · rw [runPairs_other h, List.flatMap_cons, flatMap_runPairs (b :: rest)]
      rfl
termination_by items.length

end Timeline
