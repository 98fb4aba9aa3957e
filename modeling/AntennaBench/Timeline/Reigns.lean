import Mathlib.Order.Lattice
import Mathlib.Data.List.Pairwise

/-!
# Reigns

Marks on a clock, in the order they were made, each of which may name a holder.
A mark that does starts a reign, and the next mark ends it. The clock may run
backwards between marks, so reigns need not follow each other in time.
-/

namespace Timeline

variable {τ β : Type}

structure Mark (τ β : Type) where
  time : τ
  holder : Option β

structure Reign (τ β : Type) where
  holder : β
  start : τ
  stop : Option τ

/-- The reign a mark starts when these marks follow it. -/
def Mark.reign? (mark : Mark τ β) (rest : List (Mark τ β)) : Option (Reign τ β) :=
  mark.holder.map fun holder => ⟨holder, mark.time, rest.head?.map Mark.time⟩

def reigns : List (Mark τ β) → List (Reign τ β)
  | [] => []
  | mark :: rest => (mark.reign? rest).toList ++ reigns rest

variable [LinearOrder τ]

namespace Reign

/-- The instant lies in the half-open reign. -/
def Covers (reign : Reign τ β) (t : τ) : Prop :=
  reign.start ≤ t ∧ ∀ s ∈ reign.stop, t < s

/-- The reign does not end before it starts. -/
def Forward (reign : Reign τ β) : Prop :=
  ∀ s ∈ reign.stop, reign.start ≤ s

/-- The reign ends at the instant it starts. -/
def Momentary (reign : Reign τ β) : Prop :=
  reign.stop = some reign.start

/-- The second reign starts after the first one started and, unless it is
momentary, after the first one ended. -/
def Precedes (a b : Reign τ β) : Prop :=
  a.start ≤ b.start ∧ ((∃ s ∈ a.stop, s ≤ b.start) ∨ b.Momentary)

theorem not_covers_of_momentary {reign : Reign τ β} (h : reign.Momentary) (t : τ) :
    ¬reign.Covers t := by
  intro hcovers
  exact absurd hcovers.1 (not_le.2 (hcovers.2 _ h))

/-- Reigns in the order of their starts share no instant exactly when the first
precedes the second. -/
theorem precedes_iff {a b : Reign τ β} (hb : b.Forward) :
    a.Precedes b ↔ a.start ≤ b.start ∧ ∀ t, ¬(a.Covers t ∧ b.Covers t) := by
  refine and_congr_right fun hstart => ⟨?_, fun hdisjoint => ?_⟩
  · rintro (⟨s, hs, hle⟩ | hmomentary) t ⟨hat, hbt⟩
    · exact absurd (hat.2 s hs) (not_lt.2 (le_trans hle hbt.1))
    · exact not_covers_of_momentary hmomentary t hbt
  · by_contra hnot
    simp only [not_or, not_exists, not_and, not_le] at hnot
    obtain ⟨hopen, hnot⟩ := hnot
    refine hdisjoint b.start ⟨⟨hstart, hopen⟩, le_rfl, fun s hs => ?_⟩
    refine lt_of_le_of_ne (hb s hs) fun heq => hnot ?_
    rw [Momentary, heq]
    exact hs

end Reign

/-- Of reigns that precede each other in the order of the list, two that share an
instant are one. -/
theorem eq_of_covers {rs : List (Reign τ β)} (hforward : ∀ r ∈ rs, r.Forward)
    (h : rs.Pairwise Reign.Precedes) {a b : Reign τ β} (ha : a ∈ rs) (hb : b ∈ rs) {t : τ}
    (hat : a.Covers t) (hbt : b.Covers t) : a = b := by
  induction rs with
  | nil => simp at ha
  | cons r rest ih =>
    obtain ⟨hfirst, hrest⟩ := List.pairwise_cons.1 h
    have hapart : ∀ b ∈ rest, ¬(r.Covers t ∧ b.Covers t) := fun b hb =>
      ((Reign.precedes_iff (hforward b (List.mem_cons_of_mem _ hb))).1 (hfirst b hb)).2 t
    rcases List.mem_cons.1 ha with hfa | hra
    · rcases List.mem_cons.1 hb with hfb | hrb
      · rw [hfa, hfb]
      · exact absurd ⟨hfa ▸ hat, hbt⟩ (hapart b hrb)
    · rcases List.mem_cons.1 hb with hfb | hrb
      · exact absurd ⟨hfb ▸ hbt, hat⟩ (hapart a hra)
      · exact ih (fun r hr => hforward r (List.mem_cons_of_mem _ hr)) hrest hra hrb

end Timeline
