import Mathlib.Algebra.GroupWithZero.Nat
import Mathlib.Data.List.Basic
import Mathlib.Data.List.Forall2
import AntennaBench.Timeline.Related

/-!
# Results

The idioms of the source on `Result`, as `Except` values, and the lemmas that
take a computation that returned apart into its steps.
-/

namespace AntennaBench

variable {ε δ α β : Type}

/-- `ok_or_else`. -/
def orError (value : Option α) (error : ε) : Except ε α :=
  match value with
  | some a => .ok a
  | none => .error error

/-- `if condition { return Err(error) }`. -/
def failIf (condition : Bool) (error : ε) : Except ε Unit :=
  if condition then .error error else .ok ()

@[simp] theorem failIf_eq_ok {condition : Bool} {error : ε} {u : Unit} :
    failIf condition error = .ok u ↔ condition = false := by
  cases condition <;> simp [failIf]

@[simp] theorem failIf_false (error : ε) : failIf false error = .ok () := rfl

@[simp] theorem failIf_true (error : ε) : failIf true error = .error error := rfl

@[simp] theorem orError_eq_ok {value : Option α} {error : ε} {a : α} :
    orError value error = .ok a ↔ value = some a := by
  cases value <;> simp [orError]

@[simp] theorem orError_some (a : α) (error : ε) : orError (some a) error = .ok a := rfl

theorem bind_eq_ok {x : Except ε α} {f : α → Except ε β} {b : β} :
    (x >>= f) = .ok b ↔ ∃ a, x = .ok a ∧ f a = .ok b := by
  cases x <;> simp [bind, Except.bind]

theorem failIf_eq_error {condition : Bool} {error e : ε} :
    failIf condition error = .error e ↔ condition = true ∧ error = e := by
  cases condition <;> simp [failIf]

theorem orError_eq_error {value : Option α} {error e : ε} :
    orError value error = .error e ↔ value = none ∧ error = e := by
  cases value <;> simp [orError]

theorem bind_eq_error {x : Except ε α} {f : α → Except ε β} {e : ε} :
    (x >>= f) = .error e ↔ x = .error e ∨ ∃ a, x = .ok a ∧ f a = .error e := by
  cases x <;> simp [bind, Except.bind]

@[simp] theorem ok_bind (a : α) (f : α → Except ε β) : ((.ok a : Except ε α) >>= f) = f a := rfl

@[simp] theorem error_bind (e : ε) (f : α → Except ε β) :
    ((.error e : Except ε α) >>= f) = .error e := rfl

@[simp] theorem pure_eq_ok {a b : α} : (pure a : Except ε α) = .ok b ↔ a = b := by
  simp [pure, Except.pure]

@[simp] theorem mapError_eq_ok {x : Except ε α} {f : ε → δ} {a : α} :
    x.mapError f = .ok a ↔ x = .ok a := by
  cases x <;> simp [Except.mapError]

theorem forM_eq_ok {items : List α} {f : α → Except ε PUnit} {u : PUnit} :
    items.forM f = .ok u ↔ ∀ a ∈ items, f a = .ok () := by
  induction items with
  | nil => simp [List.forM, pure, Except.pure]
  | cons a rest ih =>
    change (f a >>= fun _ => rest.forM f) = .ok u ↔ _
    simp only [bind_eq_ok, ih, List.forall_mem_cons]
    exact ⟨fun ⟨_, h, hrest⟩ => ⟨h, hrest⟩, fun ⟨h, hrest⟩ => ⟨_, h, hrest⟩⟩

theorem mapM_eq_ok {items : List α} {f : α → Except ε β} {results : List β} :
    items.mapM f = .ok results ↔ List.Forall₂ (fun a b => f a = .ok b) items results := by
  induction items generalizing results with
  | nil => simp [pure, Except.pure, eq_comm]
  | cons a rest ih =>
    rw [List.mapM_cons, bind_eq_ok]
    simp only [bind_eq_ok, ih, pure_eq_ok]
    constructor
    · rintro ⟨b, hb, bs, hbs, rfl⟩
      exact .cons hb hbs
    · rintro (_ | ⟨hb, hbs⟩)
      exact ⟨_, hb, _, hbs, rfl⟩

/-- A checked map whose results are known once its checks passed. -/
theorem mapM_eq_ok_map {f : α → Except ε β} {P : α → Prop} {g : α → β}
    (h : ∀ a b, f a = .ok b ↔ P a ∧ b = g a) {items : List α} {results : List β} :
    items.mapM f = .ok results ↔ (∀ a ∈ items, P a) ∧ results = items.map g := by
  rw [mapM_eq_ok]
  simp only [h]
  constructor
  · intro hall
    induction hall with
    | nil => simp
    | cons hab _ ih =>
      obtain ⟨ha, rfl⟩ := hab
      simp only [List.forall_mem_cons, List.map_cons, ← ih.2]
      exact ⟨⟨ha, ih.1⟩, trivial⟩
  · rintro ⟨hall, rfl⟩
    rw [List.forall₂_map_right_iff, List.forall₂_same]
    exact fun a ha => ⟨hall a ha, rfl⟩

/-- Every item of a checked map has its result among the results. -/
theorem mapM_result {f : α → Except ε β} {items : List α} {results : List β}
    (h : items.mapM f = .ok results) : ∀ a ∈ items, ∃ b ∈ results, f a = .ok b :=
  Timeline.forall₂_exists_right (mapM_eq_ok.1 h)

/-- Every result of a checked map has its item among the items. -/
theorem mapM_item {f : α → Except ε β} {items : List α} {results : List β}
    (h : items.mapM f = .ok results) : ∀ b ∈ results, ∃ a ∈ items, f a = .ok b :=
  Timeline.forall₂_exists_left (mapM_eq_ok.1 h)

/-- A checked loop over other items whose steps pass whenever the given ones do. -/
theorem foldlM_transfer {f g : β → α → Except ε β} {items items' : List α}
    (h : List.Forall₂ (fun a a' => ∀ s t, f s a = .ok t → g s a' = .ok t) items items') {s t : β}
    (hfold : items.foldlM f s = .ok t) : items'.foldlM g s = .ok t := by
  induction h generalizing s with
  | nil => exact hfold
  | cons hstep _ ih =>
    rw [List.foldlM_cons, bind_eq_ok] at hfold ⊢
    obtain ⟨u, hu, hrest⟩ := hfold
    exact ⟨u, hstep s u hu, ih hrest⟩

theorem exists_ok_of_any {ε α : Type} {r : Except ε α} {p : α → Bool}
    (h : r.toOption.any p = true) : ∃ a, r = .ok a ∧ p a = true := by
  cases r with
  | error e => cases h
  | ok a => exact ⟨a, rfl, h⟩

end AntennaBench
