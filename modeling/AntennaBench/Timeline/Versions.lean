import Mathlib.Data.List.Basic

/-!
# Versions

The values that several writers commit one after another, each with a key and a version. A
value is committed when it is later than the values of its key before it, so a key and a
version name one value, and a request that names the version of the current one was made on it.
-/

namespace Timeline

section

variable {α κ : Type} (key : α → κ) (version : α → ℕ)

/-- The value is the last of its key, or a later one. -/
def Continues (history : List α) (next : α) : Prop :=
  ∀ value ∈ history, key value = key next → value = next ∨ version value < version next

/-- A history and the value that is committed now. -/
structure Versioned (history : List α) (current : α) : Prop where
  mem : current ∈ history
  latest : Continues key version history current
  unique : ∀ value ∈ history, ∀ other ∈ history, key value = key other →
    version value = version other → value = other

variable {key version} {history : List α} {current next : α}

theorem versioned_singleton (value : α) : Versioned key version [value] value where
  mem := List.mem_singleton_self value
  latest := fun _ hother _ => .inl (List.mem_singleton.1 hother)
  unique := fun _ hfirst _ hsecond _ _ =>
    (List.mem_singleton.1 hfirst).trans (List.mem_singleton.1 hsecond).symm

theorem Continues.eq_of_version (h : Continues key version history next) {value : α}
    (hvalue : value ∈ history) (hkey : key value = key next)
    (hversion : version value = version next) : value = next := by
  rcases h value hvalue hkey with heq | hlt
  · exact heq
  · omega

theorem Versioned.push (h : Versioned key version history current)
    (hnext : Continues key version history next) :
    Versioned key version (history ++ [next]) next where
  mem := List.mem_append_right _ (List.mem_singleton_self next)
  latest := by
    intro value hvalue hkey
    rcases List.mem_append.1 hvalue with hold | hnew
    · exact hnext value hold hkey
    · exact .inl (List.mem_singleton.1 hnew)
  unique := by
    intro value hvalue other hother hkey hversion
    rcases List.mem_append.1 hvalue with hold | hnew <;>
      rcases List.mem_append.1 hother with hold' | hnew'
    · exact h.unique value hold other hold' hkey hversion
    · obtain rfl := List.mem_singleton.1 hnew'
      exact hnext.eq_of_version hold hkey hversion
    · obtain rfl := List.mem_singleton.1 hnew
      exact (hnext.eq_of_version hold' hkey.symm hversion.symm).symm
    · exact (List.mem_singleton.1 hnew).trans (List.mem_singleton.1 hnew').symm

/-- A later version of the current value continues the history. -/
theorem Versioned.continues_of_later (h : Versioned key version history current)
    (hkey : key next = key current) (hversion : version current < version next) :
    Continues key version history next := by
  intro value hvalue hsame
  right
  rcases h.latest value hvalue (hsame.trans hkey) with rfl | hlt
  · exact hversion
  · omega

end

end Timeline
