import AntennaBench.FaultIO.Guarantee

/-!
# Invariants and fault-free runs

A program keeps a condition on the state when every run from a state that
satisfies it, whatever its faults, ends in one that does. The run without
faults is computed part by part, and is a run of every fault model that lets
effects complete undisturbed.
-/

namespace FaultIO.Prog

variable {κ σ τ ε δ α β : Type}

/-- From every state that satisfies `P`, every run ends in one that does. -/
def Keeps (M : FaultModel κ σ) (P : σ → Prop) (m : Prog κ σ ε α) : Prop :=
  ∀ s, P s → wp M (.always P) m s

variable {M : FaultModel κ σ} {P : σ → Prop}

theorem Keeps.runs {m : Prog κ σ ε α} (h : Keeps M P m) {s : σ} {o : Outcome σ ε α} (hs : P s)
    (hr : Runs M m s o) : P o.state :=
  Post.holds_always.1 (wp_sound (h s hs) hr)

theorem keeps_done (a : α) : Keeps M P (done a : Prog κ σ ε α) := fun _ hs => hs

theorem keeps_fail (e : ε) : Keeps M P (fail e : Prog κ σ ε α) := fun _ hs => hs

theorem keeps_pure (a : α) : Keeps M P (pure a : Prog κ σ ε α) := fun _ hs => hs

theorem keeps_throw (e : ε) : Keeps M P (throw e : Prog κ σ ε α) := fun _ hs => hs

theorem keeps_get : Keeps M P (get : Prog κ σ ε σ) := fun _ hs => hs

theorem keeps_ofExcept (r : Except ε α) : Keeps M P (ofExcept r : Prog κ σ ε α) := by
  cases r with
  | ok a => exact keeps_done a
  | error e => exact keeps_fail e

theorem keeps_modify {f : σ → σ} (h : ∀ s, P s → P (f s)) :
    Keeps M P (modify f : Prog κ σ ε Unit) := h

/-- A part that keeps `P`, followed by one that ends in `Q` from wherever `P` holds. -/
theorem Keeps.wp_bind {Q : Post σ ε β} {m : Prog κ σ ε α} {f : α → Prog κ σ ε β} {s : σ}
    (h : Keeps M P m) (hs : P s) (hf : ∀ a t, P t → wp M Q (f a) t)
    (herr : ∀ e t, P t → Q.err e t) (hcrash : ∀ t, P t → Q.crash t) : wp M Q (m >>= f) s := by
  rw [Prog.wp_bind]
  refine wp_mono ?_ ?_ ?_ (h s hs)
  · exact fun a t ht => hf a t ht
  · exact fun e t ht => herr e t ht
  · exact fun t ht => hcrash t ht

theorem wp_bind_always {m : Prog κ σ ε α} {f : α → Prog κ σ ε β} {s : σ}
    (h : wp M (.always P) m s) (hf : ∀ a, Keeps M P (f a)) :
    wp M (.always P) (m >>= f) s := by
  rw [wp_bind]
  refine wp_mono ?_ ?_ ?_ h
  · exact fun a t ht => hf a t ht
  · exact fun _ _ ht => ht
  · exact fun _ ht => ht

theorem Keeps.bind {m : Prog κ σ ε α} {f : α → Prog κ σ ε β} (h : Keeps M P m)
    (hf : ∀ a, Keeps M P (f a)) : Keeps M P (m >>= f) :=
  fun s hs => wp_bind_always (h s hs) hf

theorem Keeps.attempt {m : Prog κ σ ε α} (h : Keeps M P m) :
    Keeps M P (m.attempt : Prog κ σ δ (Except ε α)) := by
  intro s hs
  rw [wp_attempt]
  exact h s hs

theorem Keeps.perform {effect : Effect κ σ} {e : ε}
    (hfull : ∀ s t, P s → M.after effect.site (effect.full s) t → P t)
    (htorn : ∀ n s, P s → P (effect.torn n s)) : Keeps M P (Prog.perform effect e) := by
  intro s hs
  rw [wp_perform]
  exact ⟨fun t ht => hfull s t hs ht, fun _ n => htorn n s hs, fun _ n => htorn n s hs⟩

/-- A read hands on what it found in a state that satisfies `P`. -/
theorem keeps_readWith_bind {site : κ} {e : ε} {f : σ → Except ε α} {k : α → Prog κ σ ε β}
    (hafter : ∀ s t, M.after site s t → P s → P t)
    (hk : ∀ s a, P s → f s = .ok a → wp M (.always P) (k a) s) :
    Keeps M P (readWith site e f >>= k) := by
  intro s hs
  rw [Prog.wp_bind, wp_readWith]
  refine ⟨fun t ht => ?_, fun _ => hs, fun _ => hs⟩
  have hP := hafter s t ht hs
  exact ⟨fun a ha => hk t a hP ha, fun _ _ => hP⟩

theorem Keeps.readWith {site : κ} {e : ε} {f : σ → Except ε α}
    (hafter : ∀ s t, M.after site s t → P s → P t) : Keeps M P (Prog.readWith site e f) := by
  intro s hs
  rw [wp_readWith]
  exact ⟨fun t ht => ⟨fun _ _ => hafter s t ht hs, fun _ _ => hafter s t ht hs⟩, fun _ => hs,
    fun _ => hs⟩

theorem Keeps.ite {p : Prop} [Decidable p] {m m' : Prog κ σ ε α} (h : Keeps M P m)
    (h' : Keeps M P m') : Keeps M P (if p then m else m') := by
  split_ifs <;> assumption

theorem Keeps.mapM {ι : Type} {f : ι → Prog κ σ ε α} (h : ∀ i, Keeps M P (f i))
    (items : List ι) : Keeps M P (items.mapM f) := by
  induction items with
  | nil => exact keeps_pure _
  | cons i rest ih =>
    rw [List.mapM_cons]
    exact (h i).bind fun _ => ih.bind fun _ => keeps_pure _

theorem Keeps.zoom {get : τ → σ} {set : σ → τ → τ} (lens : Lens get set) {N : FaultModel κ τ}
    (hz : FaultModel.Zooms get set M N) {m : Prog κ σ ε α} (h : Keeps M P m) :
    Keeps N (fun t => P (get t)) (m.zoom get set) := by
  intro t ht
  rw [wp_zoom lens hz]
  simpa only [Post.always, lens.get_set] using h (get t) ht

/-- A program that moves along a relation keeps what the relation carries over. -/
theorem Within.keeps {R : σ → σ → Prop} (hR : ∀ s t, R s t → P s → P t)
    (hafter : ∀ site s t, M.after site s t → P s → P t) {m : Prog κ σ ε α} (h : m.Within R) :
    Keeps M P m := by
  induction m with
  | done a => exact keeps_done a
  | fail e => exact keeps_fail e
  | look next ih => exact fun s hs => ih s (h s) s hs
  | update f next ih => exact fun s hs => ih h.2 (f s) (hR _ _ (h.1 s) hs)
  | act effect next ih =>
    intro s hs
    exact ⟨fun t ht => ih true (h.2.2 true) t (hafter _ _ _ ht (hR _ _ (h.1 s) hs)),
      fun _ n => ih false (h.2.2 false) _ (hR _ _ (h.2.1 n s) hs),
      fun _ n => hR _ _ (h.2.1 n s) hs⟩

theorem exec_nil (error crash : κ → Bool) (m : Prog κ σ ε α) (s : σ) :
    exec error crash [] m s = run m s := by
  induction m generalizing s with
  | done | fail => rfl
  | look next ih => exact ih s s
  | update f next ih => exact ih (f s)
  | act effect next ih => exact ih true (effect.full s)

/-- The run without faults is a run of every model that lets effects complete. -/
theorem runs_run (hafter : ∀ site s, M.after site s s) (m : Prog κ σ ε α) (s : σ) :
    Runs M m s (run m s) := by
  rw [← exec_nil M.error M.crash]
  exact exec_runs M hafter [] m s

/-- A bound on the program text bounds the run without faults. -/
theorem Within.run {R : σ → σ → Prop} (refl : ∀ s, R s s)
    (trans : ∀ {s t u}, R s t → R t u → R s u) {m : Prog κ σ ε α} (h : m.Within R) (s : σ) :
    R s (m.run s).state :=
  h.runs (M := .none) refl trans (fun _ s _ ht => ht ▸ refl s) (runs_none_iff.2 rfl)

@[simp] theorem run_done (a : α) (s : σ) :
    run (done a : Prog κ σ ε α) s = .returned a s := rfl

@[simp] theorem run_pure (a : α) (s : σ) :
    run (pure a : Prog κ σ ε α) s = .returned a s := rfl

@[simp] theorem run_throw (e : ε) (s : σ) :
    run (throw e : Prog κ σ ε α) s = .failed e s := rfl

@[simp] theorem run_get (s : σ) : run (get : Prog κ σ ε σ) s = .returned s s := rfl

@[simp] theorem run_modify (f : σ → σ) (s : σ) :
    run (modify f : Prog κ σ ε Unit) s = .returned () (f s) := rfl

@[simp] theorem run_perform (effect : Effect κ σ) (e : ε) (s : σ) :
    run (perform effect e) s = .returned () (effect.full s) := rfl

theorem run_bind (m : Prog κ σ ε α) (f : α → Prog κ σ ε β) (s : σ) :
    run (m >>= f) s = match run m s with
      | .returned a t => run (f a) t
      | .failed e t => .failed e t
      | .crashed t => .crashed t := by
  change run (m.bind f) s = _
  induction m generalizing s with
  | done | fail => rfl
  | look next ih => exact ih s s
  | update g next ih => exact ih (g s)
  | act effect next ih => exact ih true (effect.full s)

theorem run_bind_of {m : Prog κ σ ε α} {s t : σ} {a : α} (h : run m s = .returned a t)
    (f : α → Prog κ σ ε β) : run (m >>= f) s = run (f a) t := by
  rw [run_bind, h]

theorem run_ofExcept (r : Except ε α) (s : σ) :
    run (ofExcept r : Prog κ σ ε α) s = match r with
      | .ok a => .returned a s
      | .error e => .failed e s := by
  cases r <;> rfl

theorem run_readWith {site : κ} {e : ε} {f : σ → Except ε α} {s : σ} {a : α} (h : f s = .ok a) :
    run (readWith site e f) s = .returned a s := by
  change run (ofExcept (f s)) s = _
  rw [h]
  rfl

/-- The outcome of a part is the outcome of the whole with the part put back. -/
theorem run_zoom {get : τ → σ} {set : σ → τ → τ} (lens : Lens get set) (m : Prog κ σ ε α) (t : τ) :
    run (m.zoom get set) t = match run m (get t) with
      | .returned a s => .returned a (set s t)
      | .failed e s => .failed e (set s t)
      | .crashed s => .crashed (set s t) := by
  induction m generalizing t with
  | done a => simp [zoom, lens.set_get]
  | fail e =>
    change Outcome.failed e t = .failed e (set (get t) t)
    rw [lens.set_get]
  | look next ih => exact ih (get t) t
  | update f next ih =>
    change run (next.zoom get set) (set (f (get t)) t) = _
    rw [ih, lens.get_set]
    change _ = match run next (f (get t)) with
      | .returned a s => Outcome.returned a (set s t)
      | .failed e s => .failed e (set s t)
      | .crashed s => .crashed (set s t)
    cases run next (f (get t)) <;> simp [lens.set_set]
  | act effect next ih =>
    change run ((next true).zoom get set) (set (effect.full (get t)) t) = _
    rw [ih, lens.get_set]
    change _ = match run (next true) (effect.full (get t)) with
      | .returned a s => Outcome.returned a (set s t)
      | .failed e s => .failed e (set s t)
      | .crashed s => .crashed (set s t)
    cases run (next true) (effect.full (get t)) <;> simp [lens.set_set]

/-- What holds of every run holds where the run without faults returns. -/
theorem wp_run_returned (hafter : ∀ site s, M.after site s s) {Q : Post σ ε α}
    {m : Prog κ σ ε α} {s t : σ} {a : α} (h : wp M Q m s) (hrun : run m s = .returned a t) :
    Q.ret a t := by
  have hholds := wp_sound h (runs_run hafter m s)
  rwa [hrun] at hholds

theorem wp_bind_returned (hafter : ∀ site s, M.after site s s) {Q : Post σ ε β}
    {m : Prog κ σ ε α} {f : α → Prog κ σ ε β} {s t : σ} {a : α} (h : wp M Q (m >>= f) s)
    (hrun : run m s = .returned a t) : wp M Q (f a) t :=
  wp_run_returned hafter ((wp_bind _ _ _ _).1 h) hrun

end FaultIO.Prog
