import Mathlib.Data.List.DropRight
import Mathlib.Data.List.Induction

/-!
# Histories

A property of an entry that looks at the entries before it, required of every entry of a
history. The current stretch of a history are its last entries that have some mark in
common.
-/

namespace Timeline

variable {α : Type}

/-- Every entry has the property, given the entries before it. -/
def Throughout (P : List α → α → Prop) (history : List α) : Prop :=
  ∀ earlier entry later, history = earlier ++ entry :: later → P earlier entry

variable {P Q : List α → α → Prop} {history : List α} {entry : α}

theorem throughout_nil : Throughout P ([] : List α) := by
  intro earlier entry later h
  simp at h

theorem throughout_cons : Throughout P (entry :: history) ↔
    P [] entry ∧ Throughout (fun earlier => P (entry :: earlier)) history := by
  constructor
  · intro h
    refine ⟨h [] entry history rfl, ?_⟩
    intro earlier e later heq
    exact h (entry :: earlier) e later (by rw [heq, List.cons_append])
  · rintro ⟨hentry, hhistory⟩ earlier e later heq
    cases earlier with
    | nil =>
      obtain ⟨rfl, -⟩ := List.cons.inj heq
      exact hentry
    | cons first rest =>
      obtain ⟨rfl, hrest⟩ := List.cons.inj heq
      exact hhistory rest e later hrest

theorem throughout_singleton : Throughout P [entry] ↔ P [] entry := by
  rw [throughout_cons, and_iff_left throughout_nil]

instance decidableThroughout : (P : List α → α → Prop) →
    [∀ earlier entry, Decidable (P earlier entry)] → (history : List α) →
    Decidable (Throughout P history)
  | _, _, [] => isTrue throughout_nil
  | P, _, entry :: history =>
    have := decidableThroughout (fun earlier => P (entry :: earlier)) history
    decidable_of_iff _ throughout_cons.symm

theorem throughout_concat :
    Throughout P (history ++ [entry]) ↔ Throughout P history ∧ P history entry := by
  constructor
  · intro h
    refine ⟨fun earlier e later heq => h earlier e (later ++ [entry]) (by simp [heq]),
      h history entry [] rfl⟩
  · rintro ⟨hhistory, hentry⟩ earlier e later heq
    rcases List.eq_nil_or_concat later with rfl | ⟨later, last, rfl⟩
    · obtain ⟨rfl, hlast⟩ := List.append_inj' heq rfl
      obtain rfl := List.singleton_inj.1 hlast
      exact hentry
    · have heq' : history ++ [entry] = (earlier ++ e :: later) ++ [last] := by simp [heq]
      exact hhistory earlier e later (List.append_inj' heq' rfl).1

/-- A property may be assumed of the entries before the one it is shown of. -/
theorem throughout_of_earlier
    (h : ∀ earlier entry later, history = earlier ++ entry :: later →
      Throughout P earlier → P earlier entry) : Throughout P history := by
  induction history using List.reverseRecOn with
  | nil => exact throughout_nil
  | append_singleton history last ih =>
    have hhistory := ih fun earlier entry later heq =>
      h earlier entry (later ++ [last]) (by simp [heq])
    exact throughout_concat.2 ⟨hhistory, h history last [] rfl hhistory⟩

/-- An entry of the current stretch has its own stretch inside the current one. -/
theorem exists_split_of_mem_rtakeWhile {p : α → Bool} (h : entry ∈ history.rtakeWhile p) :
    ∃ earlier later, history = earlier ++ entry :: later ∧
      earlier.rtakeWhile p ⊆ history.rtakeWhile p := by
  obtain ⟨before, after, hsplit⟩ := List.append_of_mem h
  have hall : ∀ e ∈ before, p e = true := by
    intro e he
    apply List.mem_rtakeWhile_imp (l := history)
    rw [hsplit]
    exact List.mem_append_left _ he
  refine ⟨history.rdropWhile p ++ before, after, ?_, ?_⟩
  · conv_lhs => rw [← List.rdropWhile_append_rtakeWhile (p := p) (l := history), hsplit]
    simp
  · have hdrop : (history.rdropWhile p).rtakeWhile p = [] := by
      rw [List.rtakeWhile_eq_nil_iff]
      exact fun hne => List.rdropWhile_last_not p history hne
    have hbefore : (history.rdropWhile p ++ before).rtakeWhile p = before := by
      clear hsplit
      induction before using List.reverseRecOn with
      | nil => simpa using hdrop
      | append_singleton before e ih =>
        rw [← List.append_assoc, List.rtakeWhile_concat_pos _ _ _ (hall e (by simp)),
          ih fun e he => hall e (by simp [he])]
    rw [hbefore, hsplit]
    exact fun e he => List.mem_append_left _ he

end Timeline
