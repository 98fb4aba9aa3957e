import Mathlib.Data.List.Basic

/-!
# Lines of a list

A list cut after each separator, and how the cuts of a list that is written in another
alphabet lie where those of the list do.
-/

namespace Wire

variable {α β : Type} [DecidableEq α] [DecidableEq β]

/-- The lines, each with the separator that ends it; the last one may have none. -/
def splitInclusive (separator : α) : List α → List (List α)
  | [] => []
  | a :: rest =>
    if a = separator then [a] :: splitInclusive separator rest
    else match splitInclusive separator rest with
      | [] => [[a]]
      | line :: lines => (a :: line) :: lines

variable {separator : α}

theorem splitInclusive_open {line : List α} (h : separator ∉ line) (hline : line ≠ []) :
    splitInclusive separator line = [line] := by
  induction line with
  | nil => exact absurd rfl hline
  | cons a rest ih =>
    have ha : a ≠ separator := fun ha => h (by simp [ha])
    have hrest : separator ∉ rest := fun hrest => h (by simp [hrest])
    unfold splitInclusive
    rw [if_neg ha]
    by_cases hempty : rest = []
    · subst hempty
      rfl
    · rw [ih hrest hempty]

theorem splitInclusive_line {line : List α} (h : separator ∉ line) (rest : List α) :
    splitInclusive separator (line ++ separator :: rest) =
      (line ++ [separator]) :: splitInclusive separator rest := by
  induction line with
  | nil => simp [splitInclusive]
  | cons a line ih =>
    have ha : a ≠ separator := fun ha => h (by simp [ha])
    have hline : separator ∉ line := fun hline => h (by simp [hline])
    rw [List.cons_append, splitInclusive, if_neg ha, ih hline]
    rfl

/-- A list is a line and what follows it, or a line without an end, or empty. -/
theorem exists_line (separator : α) (list : List α) :
    separator ∉ list ∨ ∃ line rest, separator ∉ line ∧ list = line ++ separator :: rest := by
  by_cases h : separator ∈ list
  · obtain ⟨line, rest, rfl, hline⟩ := List.eq_append_cons_of_mem h
    exact Or.inr ⟨line, rest, hline, rfl⟩
  · exact Or.inl h

/-- What begins a list without a separator is in its first line. -/
theorem exists_first_line {start : List α} (h : separator ∉ start) (hstart : start ≠ [])
    (rest : List α) :
    ∃ line ∈ splitInclusive separator (start ++ rest), start.length ≤ line.length := by
  rcases exists_line separator rest with hrest | ⟨line, later, hline, rfl⟩
  · have hall : separator ∉ start ++ rest := by simp [h, hrest]
    refine ⟨start ++ rest, ?_, by simp⟩
    rw [splitInclusive_open hall (by simp [hstart])]
    exact List.mem_singleton_self _
  · have hall : separator ∉ start ++ line := by simp [h, hline]
    refine ⟨start ++ line ++ [separator], ?_, by simp⟩
    rw [← List.append_assoc, splitInclusive_line hall]
    exact List.mem_cons_self

/-- Induction over the lines of a list. -/
theorem lines_induction {motive : List α → Prop} (separator : α) (nil : motive [])
    (last : ∀ line, separator ∉ line → line ≠ [] → motive line)
    (line : ∀ line rest, separator ∉ line → motive rest → motive (line ++ separator :: rest))
    (list : List α) : motive list := by
  induction hlength : list.length using Nat.strongRecOn generalizing list with
  | ind length ih =>
    rcases exists_line separator list with h | ⟨first, rest, hfirst, rfl⟩
    · by_cases hempty : list = []
      · subst hempty
        exact nil
      · exact last list h hempty
    · refine line first rest hfirst (ih rest.length ?_ rest rfl)
      rw [← hlength, List.length_append, List.length_cons]
      omega

/-- The lines in another alphabet, where nothing but the separator is written with the
other separator. -/
theorem splitInclusive_flatMap {encode : α → List β} {mark : β}
    (hmark : encode separator = [mark]) (hother : ∀ a, a ≠ separator → mark ∉ encode a)
    (hne : ∀ a, encode a ≠ []) (list : List α) :
    splitInclusive mark (list.flatMap encode) =
      (splitInclusive separator list).map fun line => line.flatMap encode := by
  have hclean : ∀ line : List α, separator ∉ line → mark ∉ line.flatMap encode := by
    intro line hline hmem
    obtain ⟨a, ha, hin⟩ := List.mem_flatMap.mp hmem
    exact hother a (fun h => hline (h ▸ ha)) hin
  induction list using lines_induction separator with
  | nil => rfl
  | last line hline hempty =>
    have hencoded : line.flatMap encode ≠ [] := by
      intro h
      obtain ⟨a, rest, rfl⟩ := List.exists_cons_of_ne_nil hempty
      exact hne a (List.append_eq_nil_iff.mp h).1
    rw [splitInclusive_open hline hempty, splitInclusive_open (hclean line hline) hencoded]
    rfl
  | line line rest hline ih =>
    rw [splitInclusive_line hline, List.flatMap_append, List.flatMap_cons, hmark,
      List.singleton_append, splitInclusive_line (hclean line hline), ih, List.map_cons,
      List.flatMap_append, List.flatMap_cons, hmark, List.flatMap_nil]
    rfl

end Wire
