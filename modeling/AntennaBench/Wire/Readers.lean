import Mathlib.Data.List.Basic
import Mathlib.Data.List.Infix

/-!
# Readers and the formats they read

A reader takes a value off the front of a list of symbols. A format says how each value
is spelled. A reader reads exactly a format if it takes every spelling back to its value
whatever comes after it, refuses what is left of a spelling that was cut short as cut,
and takes nothing but spellings. The rules build the format of a reader from those of
its parts.
-/

namespace Wire

variable {σ ε α β : Type}

abbrev Reader (σ ε : Type) := StateT (List σ) (Except ε)

/-- The reader is the format `spells`, where `cut` are the errors of an input cut short. -/
structure Reads (cut : ε → Prop) (reader : Reader σ ε α) (spells : α → List σ → Prop) :
    Prop where
  complete : ∀ {a w}, spells a w → ∀ rest, reader (w ++ rest) = .ok (a, rest)
  truncated : ∀ {a p q}, spells a (p ++ q) → q ≠ [] → ∃ e, cut e ∧ reader p = .error e
  sound : ∀ {input a rest}, reader input = .ok (a, rest) → ∃ w, spells a w ∧ input = w ++ rest

theorem bind_apply (reader : Reader σ ε α) (next : α → Reader σ ε β) (input : List σ) :
    (reader >>= next) input = reader input >>= fun result => next result.1 result.2 :=
  rfl

/-- What precedes the end of two words is cut in the first, or goes on into the second. -/
theorem append_eq_append_cases {p q w₁ w₂ : List σ} (h : p ++ q = w₁ ++ w₂) :
    (∃ r, r ≠ [] ∧ w₁ = p ++ r) ∨ ∃ r, p = w₁ ++ r ∧ w₂ = r ++ q := by
  rcases List.append_eq_append_iff.mp h with ⟨r, hr, hq⟩ | ⟨r, hr, hq⟩
  · by_cases hempty : r = []
    · subst hempty
      exact Or.inr ⟨[], by simpa using hr.symm, by simpa using hq.symm⟩
    · exact Or.inl ⟨r, hempty, hr⟩
  · exact Or.inr ⟨r, hr, hq⟩

namespace Reads

variable {cut : ε → Prop} {reader : Reader σ ε α} {spells : α → List σ → Prop}

theorem congr {other : α → List σ → Prop} (h : Reads cut reader spells)
    (hsame : ∀ a w, spells a w ↔ other a w) : Reads cut reader other where
  complete ha rest := h.complete ((hsame _ _).mpr ha) rest
  truncated ha hq := h.truncated ((hsame _ _).mpr ha) hq
  sound hread := by
    obtain ⟨w, ha, hw⟩ := h.sound hread
    exact ⟨w, (hsame _ _).mp ha, hw⟩

theorem pure (a : α) : Reads cut (Pure.pure a : Reader σ ε α) fun b w => b = a ∧ w = [] where
  complete := by
    rintro _ _ ⟨rfl, rfl⟩ rest
    rfl
  truncated := by
    rintro _ p q ⟨-, hw⟩ hq
    exact absurd (List.append_eq_nil_iff.mp hw).2 hq
  sound := by
    intro input b rest hread
    injection hread with hread
    injection hread with hb hrest
    exact ⟨[], ⟨hb.symm, rfl⟩, hrest⟩

theorem bind {next : α → Reader σ ε β} {followed : α → β → List σ → Prop}
    (h : Reads cut reader spells) (hnext : ∀ a, Reads cut (next a) (followed a)) :
    Reads cut (reader >>= next) fun b w =>
      ∃ a w₁ w₂, spells a w₁ ∧ followed a b w₂ ∧ w = w₁ ++ w₂ where
  complete := by
    rintro b _ ⟨a, w₁, w₂, ha, hb, rfl⟩ rest
    rw [bind_apply, List.append_assoc, h.complete ha]
    exact (hnext a).complete hb rest
  truncated := by
    rintro b p q ⟨a, w₁, w₂, ha, hb, hw⟩ hq
    rcases append_eq_append_cases hw with ⟨r, hr, rfl⟩ | ⟨r, rfl, rfl⟩
    · obtain ⟨e, he, hread⟩ := h.truncated ha hr
      exact ⟨e, he, by rw [bind_apply, hread]; rfl⟩
    · obtain ⟨e, he, hread⟩ := (hnext a).truncated hb hq
      exact ⟨e, he, by rw [bind_apply, h.complete ha]; exact hread⟩
  sound := by
    intro input b rest hread
    rw [bind_apply] at hread
    cases hfirst : reader input with
    | error e => rw [hfirst] at hread; cases hread
    | ok result =>
      obtain ⟨a, left⟩ := result
      rw [hfirst] at hread
      obtain ⟨w₁, ha, rfl⟩ := h.sound hfirst
      obtain ⟨w₂, hb, rfl⟩ := (hnext a).sound hread
      exact ⟨w₁ ++ w₂, ⟨a, w₁, w₂, ha, hb, rfl⟩, (List.append_assoc _ _ _).symm⟩

theorem map (f : α → β) (h : Reads cut reader spells) :
    Reads cut (reader >>= fun a => Pure.pure (f a)) fun b w => ∃ a, spells a w ∧ f a = b := by
  refine (h.bind fun a => Reads.pure (f a)).congr fun b w => ?_
  constructor
  · rintro ⟨a, w₁, w₂, ha, ⟨rfl, rfl⟩, rfl⟩
    exact ⟨a, by simpa using ha, rfl⟩
  · rintro ⟨a, ha, rfl⟩
    exact ⟨a, w, [], ha, ⟨rfl, rfl⟩, (List.append_nil w).symm⟩

theorem refused (hfail : ∀ input, ∃ e, reader input = .error e) :
    Reads cut reader fun _ _ => False where
  complete h := h.elim
  truncated h := h.elim
  sound := by
    intro input a rest hread
    obtain ⟨e, he⟩ := hfail input
    rw [he] at hread
    cases hread

/-- A refusal that looks at what was read already. -/
theorem guarded {refused : Prop} [Decidable refused] {fail : Reader σ ε PUnit}
    {next : PUnit → Reader σ ε β} {followed : β → List σ → Prop}
    (hfail : ∀ input, ∃ e, fail input = .error e)
    (h : ¬refused → Reads cut (next ⟨⟩) followed) :
    Reads cut (if refused then fail >>= next else next ⟨⟩) fun b w => ¬refused ∧ followed b w := by
  by_cases hrefused : refused
  · rw [if_pos hrefused]
    refine (Reads.refused fun input => ?_).congr fun b w => ⟨False.elim, fun hb => hb.1 hrefused⟩
    obtain ⟨e, he⟩ := hfail input
    exact ⟨e, by rw [bind_apply, he]; rfl⟩
  · rw [if_neg hrefused]
    exact (h hrefused).congr fun b w => ⟨fun hb => ⟨hrefused, hb⟩, And.right⟩

end Reads

end Wire
