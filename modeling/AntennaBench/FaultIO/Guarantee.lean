import AntennaBench.FaultIO.Basic

/-!
# What a program does to its store

`Performs` says which effects a program performs and in which states, whatever
faults and interference it meets; a guarantee bounds them. `Within` bounds every
effect of a program text at once, and then every run of it.
-/

namespace FaultIO.Prog

variable {κ σ τ ε δ α β : Type}

/-- The program, started in `s`, performs `effect` in the state `t`. -/
inductive Performs (M : FaultModel κ σ) :
    Prog κ σ ε α → σ → Effect κ σ → σ → Prop
  | here {effect : Effect κ σ} {next : Bool → Prog κ σ ε α} {s : σ} :
      Performs M (act effect next) s effect s
  | look {next : σ → Prog κ σ ε α} {s t : σ} {effect : Effect κ σ} :
      Performs M (next s) s effect t → Performs M (look next) s effect t
  | update {f : σ → σ} {next : Prog κ σ ε α} {s t : σ} {effect : Effect κ σ} :
      Performs M next (f s) effect t → Performs M (update f next) s effect t
  | afterFull {first effect : Effect κ σ} {next : Bool → Prog κ σ ε α} {s t u : σ} :
      M.after first.site (first.full s) u → Performs M (next true) u effect t →
        Performs M (act first next) s effect t
  | afterError {first effect : Effect κ σ} {next : Bool → Prog κ σ ε α} {s t : σ} (n : ℕ) :
      M.error first.site = true → Performs M (next false) (first.torn n s) effect t →
        Performs M (act first next) s effect t

section

variable (M : FaultModel κ σ) (G : Effect κ σ → σ → Prop)

/-- Every effect the program performs from `s` is allowed by `G`. -/
def guar : Prog κ σ ε α → σ → Prop
  | done _, _ => True
  | fail _, _ => True
  | look next, s => guar (next s) s
  | update f next, s => guar next (f s)
  | act effect next, s =>
    G effect s ∧ (∀ t, M.after effect.site (effect.full s) t → guar (next true) t) ∧
      (M.error effect.site = true → ∀ n, guar (next false) (effect.torn n s))

end

variable {M : FaultModel κ σ} {G : Effect κ σ → σ → Prop}

theorem guar_sound {m : Prog κ σ ε α} {s t : σ} {effect : Effect κ σ} (h : guar M G m s)
    (hp : Performs M m s effect t) : G effect t := by
  induction hp with
  | here => exact h.1
  | look _ ih => exact ih h
  | update _ ih => exact ih h
  | afterFull hafter _ ih => exact ih (h.2.1 _ hafter)
  | afterError n he _ ih => exact ih (h.2.2 he n)

theorem guar_mono {G' : Effect κ σ → σ → Prop} (hG : ∀ effect t, G effect t → G' effect t)
    {m : Prog κ σ ε α} {s : σ} (h : guar M G m s) : guar M G' m s := by
  induction m generalizing s with
  | done | fail => trivial
  | look next ih => exact ih s h
  | update f next ih => exact ih h
  | act effect next ih =>
    exact ⟨hG _ _ h.1, fun t ht => ih true (h.2.1 t ht), fun he n => ih false (h.2.2 he n)⟩

/-- The effects of the run without faults, each with the state it starts in. -/
def steps : Prog κ σ ε α → σ → List (Effect κ σ × σ)
  | done _, _ => []
  | fail _, _ => []
  | look next, s => (next s).steps s
  | update f next, s => next.steps (f s)
  | act effect next, s => (effect, s) :: (next true).steps (effect.full s)

theorem performs_of_mem_steps (hafter : ∀ site s, M.after site s s) {m : Prog κ σ ε α} {s t : σ}
    {effect : Effect κ σ} (h : (effect, t) ∈ m.steps s) : Performs M m s effect t := by
  induction m generalizing s with
  | done | fail => simp [steps] at h
  | look next ih => exact .look (ih s h)
  | update f next ih => exact .update (ih h)
  | act first next ih =>
    rcases List.mem_cons.1 h with h | h
    · cases h
      exact .here
    · exact .afterFull (hafter _ _) (ih true h)

theorem guar_bind (m : Prog κ σ ε α) (f : α → Prog κ σ ε β) (s : σ) :
    guar M G (m >>= f) s ↔
      guar M G m s ∧ wp M ⟨fun a t => guar M G (f a) t, fun _ _ => True, fun _ => True⟩ m s := by
  change guar M G (m.bind f) s ↔ _
  induction m generalizing s with
  | done a => simp [bind, guar]
  | fail e => simp [bind, guar]
  | look next ih => exact ih s s
  | update g next ih => exact ih (g s)
  | act effect next ih =>
    simp only [bind, guar, wp, ih]
    constructor
    · rintro ⟨hG, hfull, herr⟩
      exact ⟨⟨hG, fun t ht => (hfull t ht).1, fun he n => (herr he n).1⟩,
        fun t ht => (hfull t ht).2, fun he n => (herr he n).2, fun _ _ => trivial⟩
    · rintro ⟨⟨hG, hfull, herr⟩, hfull', herr', -⟩
      exact ⟨hG, fun t ht => ⟨hfull t ht, hfull' t ht⟩, fun he n => ⟨herr he n, herr' he n⟩⟩

/-- A guarantee of the first part that says nothing about where it ends. -/
theorem guar_bind_of {m : Prog κ σ ε α} {f : α → Prog κ σ ε β} {s : σ} (h : guar M G m s)
    (hf : ∀ a t, guar M G (f a) t) : guar M G (m >>= f) s := by
  refine (guar_bind m f s).2 ⟨h, wp_complete fun o _ => ?_⟩
  cases o with
  | returned a t => exact hf a t
  | failed | crashed => trivial

/-- The first part does not return. -/
theorem guar_bind_of_stops {m : Prog κ σ ε α} {f : α → Prog κ σ ε β} {s : σ}
    (h : guar M G m s)
    (hstops : wp M ⟨fun _ _ => False, fun _ _ => True, fun _ => True⟩ m s) :
    guar M G (m >>= f) s := by
  refine (guar_bind m f s).2 ⟨h, wp_mono ?_ ?_ ?_ hstops⟩
  · exact fun _ _ hfalse => hfalse.elim
  · exact fun _ _ _ => trivial
  · exact fun _ _ => trivial

theorem guar_attempt (m : Prog κ σ ε α) (s : σ) :
    guar M G (m.attempt : Prog κ σ δ (Except ε α)) s ↔ guar M G m s := by
  induction m generalizing s with
  | done | fail => rfl
  | look next ih => exact ih s s
  | update g next ih => exact ih (g s)
  | act effect next ih => simp only [attempt, guar, ih]

@[simp] theorem guar_get (s : σ) : guar M G (get : Prog κ σ ε σ) s ↔ True := Iff.rfl

@[simp] theorem guar_pure (a : α) (s : σ) : guar M G (pure a : Prog κ σ ε α) s ↔ True := Iff.rfl

@[simp] theorem guar_throw (e : ε) (s : σ) : guar M G (throw e : Prog κ σ ε α) s ↔ True := Iff.rfl

@[simp] theorem guar_modify (f : σ → σ) (s : σ) :
    guar M G (modify f : Prog κ σ ε Unit) s ↔ True := Iff.rfl

@[simp] theorem guar_ofExcept (r : Except ε α) (s : σ) :
    guar M G (ofExcept r : Prog κ σ ε α) s ↔ True := by
  cases r <;> rfl

theorem guar_readWith {site : κ} {e : ε} {f : σ → Except ε α} {s : σ}
    (h : G (passive site) s) : guar M G (readWith site e f) s := by
  refine ⟨h, fun t _ => ?_, fun _ _ => trivial⟩
  change guar M G (ofExcept (f t)) t
  simp

/-- Every effect and every update of the program moves along `R`. -/
def Within (R : σ → σ → Prop) : Prog κ σ ε α → Prop
  | done _ | fail _ => True
  | look next => ∀ s, (next s).Within R
  | update f next => (∀ s, R s (f s)) ∧ next.Within R
  | act effect next =>
    (∀ s, R s (effect.full s)) ∧ (∀ n s, R s (effect.torn n s)) ∧ ∀ ok, (next ok).Within R

theorem Within.runs {R : σ → σ → Prop} (refl : ∀ s, R s s)
    (trans : ∀ {s t u}, R s t → R t u → R s u)
    (after : ∀ site s t, M.after site s t → R s t) {m : Prog κ σ ε α} {s : σ}
    {o : Outcome σ ε α} (h : m.Within R) (hr : Runs M m s o) : R s o.state := by
  induction hr with
  | done a s | fail e s => exact refl s
  | look _ ih => exact ih (h _)
  | update _ ih => exact trans (h.1 _) (ih h.2)
  | actFull ht _ ih => exact trans (h.1 _) (trans (after _ _ _ ht) (ih (h.2.2 true)))
  | actError n _ _ ih => exact trans (h.2.1 n _) (ih (h.2.2 false))
  | actCrash n _ => exact h.2.1 n _

theorem Within.guar {R : σ → σ → Prop} {m : Prog κ σ ε α} (h : m.Within R) (s : σ) :
    Prog.guar M (fun effect t => R t (effect.full t) ∧ ∀ n, R t (effect.torn n t)) m s := by
  induction m generalizing s with
  | done | fail => trivial
  | look next ih => exact ih s (h s) s
  | update f next ih => exact ih h.2 (f s)
  | act effect next ih =>
    exact ⟨⟨h.1 s, fun n => h.2.1 n s⟩, fun t _ => ih true (h.2.2 true) t,
      fun _ n => ih false (h.2.2 false) _⟩

theorem Within.mono {R R' : σ → σ → Prop} (hR : ∀ s t, R s t → R' s t) {m : Prog κ σ ε α}
    (h : m.Within R) : m.Within R' := by
  induction m with
  | done | fail => trivial
  | look next ih => exact fun s => ih s (h s)
  | update f next ih => exact ⟨fun s => hR _ _ (h.1 s), ih h.2⟩
  | act effect next ih =>
    exact ⟨fun s => hR _ _ (h.1 s), fun n s => hR _ _ (h.2.1 n s), fun ok => ih ok (h.2.2 ok)⟩

theorem within_true (m : Prog κ σ ε α) : m.Within fun _ _ => True := by
  induction m with
  | done | fail => trivial
  | look next ih => exact ih
  | update f next ih => exact ⟨fun _ => trivial, ih⟩
  | act effect next ih => exact ⟨fun _ => trivial, fun _ _ => trivial, ih⟩

variable {R : σ → σ → Prop}

@[simp] theorem within_pure (a : α) : (pure a : Prog κ σ ε α).Within R := trivial

@[simp] theorem within_throw (e : ε) : (throw e : Prog κ σ ε α).Within R := trivial

@[simp] theorem within_get : (get : Prog κ σ ε σ).Within R := fun _ => trivial

@[simp] theorem within_ofExcept (r : Except ε α) : (ofExcept r : Prog κ σ ε α).Within R := by
  cases r <;> trivial

theorem within_modify {f : σ → σ} (h : ∀ s, R s (f s)) :
    (modify f : Prog κ σ ε Unit).Within R := ⟨h, trivial⟩

theorem Within.bind {m : Prog κ σ ε α} {f : α → Prog κ σ ε β} (h : m.Within R)
    (hf : ∀ a, (f a).Within R) : (m >>= f).Within R := by
  change (m.bind f).Within R
  induction m with
  | done a => exact hf a
  | fail e => trivial
  | look next ih => exact fun s => ih s (h s)
  | update g next ih => exact ⟨h.1, ih h.2⟩
  | act effect next ih => exact ⟨h.1, h.2.1, fun ok => ih ok (h.2.2 ok)⟩

theorem Within.attempt {m : Prog κ σ ε α} (h : m.Within R) :
    (m.attempt : Prog κ σ δ (Except ε α)).Within R := by
  induction m with
  | done | fail => trivial
  | look next ih => exact fun s => ih s (h s)
  | update g next ih => exact ⟨h.1, ih h.2⟩
  | act effect next ih => exact ⟨h.1, h.2.1, fun ok => ih ok (h.2.2 ok)⟩

theorem Within.zoom {get : τ → σ} {set : σ → τ → τ} {S : τ → τ → Prop}
    (hset : ∀ t s, R (get t) s → S t (set s t)) {m : Prog κ σ ε α} (h : m.Within R) :
    (m.zoom get set).Within S := by
  induction m with
  | done | fail => trivial
  | look next ih => exact fun t => ih (get t) (h (get t))
  | update g next ih => exact ⟨fun t => hset t _ (h.1 _), ih h.2⟩
  | act effect next ih =>
    exact ⟨fun t => hset t _ (h.1 _), fun n t => hset t _ (h.2.1 n _),
      fun ok => ih ok (h.2.2 ok)⟩

theorem Within.perform {effect : Effect κ σ} {e : ε} (hfull : ∀ s, R s (effect.full s))
    (htorn : ∀ n s, R s (effect.torn n s)) : (Prog.perform effect e).Within R := by
  refine ⟨hfull, htorn, fun ok => ?_⟩
  cases ok <;> trivial

theorem Within.passive (refl : ∀ s, R s s) {site : κ} {e : ε} :
    (Prog.perform (Prog.passive site) e : Prog κ σ ε Unit).Within R :=
  .perform refl fun _ => refl

theorem Within.readWith (refl : ∀ s, R s s) {site : κ} {e : ε} {f : σ → Except ε α} :
    (Prog.readWith site e f).Within R :=
  (Within.passive refl).bind fun _ => within_get.bind fun _ => within_ofExcept _

theorem Within.ite {p : Prop} [Decidable p] {m m' : Prog κ σ ε α} (h : m.Within R)
    (h' : m'.Within R) : (if p then m else m').Within R := by
  split_ifs <;> assumption

theorem Within.forM {ι : Type} {f : ι → Prog κ σ ε PUnit} (h : ∀ i, (f i).Within R)
    (items : List ι) : (items.forM f).Within R := by
  induction items with
  | nil => trivial
  | cons i rest ih => exact (h i).bind fun _ => ih

end FaultIO.Prog
