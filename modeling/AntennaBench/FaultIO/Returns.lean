import AntennaBench.FaultIO.Invariant

/-!
# What a returned run went through

A run without faults that returns is taken apart at the binds of its program. A
read of a part of the state is a read of the whole. Of a run with faults that
returns, each part says what held when it returned.
-/

namespace FaultIO.Prog

variable {κ σ τ ε δ α β : Type} {s t u : σ} {a : α} {b : β}

theorem run_bind_eq_returned {m : Prog κ σ ε α} {f : α → Prog κ σ ε β} :
    run (m >>= f) s = .returned b u ↔
      ∃ a t, run m s = .returned a t ∧ run (f a) t = .returned b u := by
  rw [run_bind]
  cases hm : run m s with
  | returned a t =>
    constructor
    · exact fun h => ⟨a, t, rfl, h⟩
    · rintro ⟨_, _, hat, h⟩
      cases hat
      exact h
  | failed | crashed => simp

theorem run_get_bind {f : σ → Prog κ σ ε β} : run (get >>= f) s = run (f s) s := rfl

theorem run_ofExcept_eq_returned {r : Except ε α} :
    run (ofExcept r : Prog κ σ ε α) s = .returned a t ↔ r = .ok a ∧ t = s := by
  rw [run_ofExcept]
  cases r with
  | ok value => simp [eq_comm]
  | error e => simp

theorem run_readWith_eq_returned {site : κ} {e : ε} {f : σ → Except ε α} :
    run (readWith site e f) s = .returned a t ↔ f s = .ok a ∧ t = s :=
  run_ofExcept_eq_returned (r := f s)

theorem run_throw_ne (e : ε) : run (throw e : Prog κ σ ε α) s ≠ .returned a t := by
  simp

theorem run_attempt (m : Prog κ σ ε α) (s : σ) :
    run (m.attempt : Prog κ σ δ (Except ε α)) s = match run m s with
      | .returned a t => .returned (.ok a) t
      | .failed e t => .returned (.error e) t
      | .crashed t => .crashed t := by
  induction m generalizing s with
  | done | fail => rfl
  | look next ih => exact ih s s
  | update g next ih => exact ih (g s)
  | act effect next ih => exact ih true (effect.full s)

theorem run_attempt_eq_ok {m : Prog κ σ ε α} :
    run (m.attempt : Prog κ σ δ (Except ε α)) s = .returned (.ok a) t ↔
      run m s = .returned a t := by
  rw [run_attempt]
  cases run m s <;> simp

/-- Two postconditions are met by the same runs. -/
theorem wp_and {M : FaultModel κ σ} {P Q : Post σ ε α} {m : Prog κ σ ε α} (hP : wp M P m s)
    (hQ : wp M Q m s) :
    wp M ⟨fun a t => P.ret a t ∧ Q.ret a t, fun e t => P.err e t ∧ Q.err e t,
      fun t => P.crash t ∧ Q.crash t⟩ m s := by
  apply wp_complete
  intro o ho
  have hPo := wp_sound hP ho
  have hQo := wp_sound hQ ho
  cases o <;> exact ⟨hPo, hQo⟩

/-- Wherever the first part ends, the second one ends well. -/
theorem wp_bind_any {M : FaultModel κ σ} {Q : Post σ ε β} (m : Prog κ σ ε α)
    {f : α → Prog κ σ ε β} (hf : ∀ a t, wp M Q (f a) t) (herr : ∀ e t, Q.err e t)
    (hcrash : ∀ t, Q.crash t) (s : σ) : wp M Q (m >>= f) s := by
  rw [wp_bind]
  apply wp_complete
  intro o _
  cases o with
  | returned a t => exact hf a t
  | failed e t => exact herr e t
  | crashed t => exact hcrash t

/-- Every run that returns, whatever failed in it, ends in `R`. -/
structure Returns (M : FaultModel κ σ) (R : α → σ → Prop) (m : Prog κ σ ε α) (s : σ) : Prop where
  ends : wp M ⟨R, fun _ _ => True, fun _ => True⟩ m s

section

variable {M : FaultModel κ σ} {R R' : α → σ → Prop} {Q : β → σ → Prop} {m : Prog κ σ ε α}

theorem Returns.mono (h : Returns M R m s) (hR : ∀ a t, R a t → R' a t) : Returns M R' m s :=
  ⟨wp_mono hR (fun _ _ _ => trivial) (fun _ _ => trivial) h.ends⟩

theorem Returns.bind {f : α → Prog κ σ ε β} (h : Returns M R m s)
    (hf : ∀ a t, R a t → Returns M Q (f a) t) : Returns M Q (m >>= f) s := by
  constructor
  rw [wp_bind]
  exact wp_mono (fun a t ht => (hf a t ht).ends) (fun _ _ _ => trivial) (fun _ _ => trivial) h.ends

theorem Returns.get_bind {f : σ → Prog κ σ ε β} (h : Returns M Q (f s) s) :
    Returns M Q (get >>= f) s :=
  ⟨h.ends⟩

theorem Returns.modify_bind {g : σ → σ} {f : Unit → Prog κ σ ε β}
    (h : Returns M Q (f ()) (g s)) : Returns M Q (modify g >>= f) s :=
  ⟨h.ends⟩

theorem returns_any (m : Prog κ σ ε α) (s : σ) : Returns M (fun _ _ => True) m s := by
  refine ⟨wp_complete fun o _ => ?_⟩
  cases o <;> trivial

theorem returns_pure {a : α} (h : R a s) : Returns M R (pure a : Prog κ σ ε α) s :=
  ⟨h⟩

theorem returns_throw (e : ε) : Returns M R (throw e : Prog κ σ ε α) s :=
  ⟨trivial⟩

theorem returns_ofExcept {r : Except ε α} :
    Returns M (fun a t => r = .ok a ∧ t = s) (ofExcept r) s := by
  constructor
  rw [wp_ofExcept]
  exact ⟨fun a ha => ⟨ha, rfl⟩, fun _ _ => trivial⟩

theorem Returns.attempt (h : Returns M R m s) :
    Returns M (fun result t => ∀ a, result = .ok a → R a t)
      (m.attempt : Prog κ σ δ (Except ε α)) s := by
  constructor
  rw [wp_attempt]
  refine wp_mono ?_ ?_ (fun _ _ => trivial) h.ends
  · rintro a t ht _ ⟨⟩
    exact ht
  · rintro e t - _ ⟨⟩

theorem returns_readWith {error crash : κ → Bool} {site : κ} {e : ε} {f : σ → Except ε α} :
    Returns (.masks error crash) (fun a t => f s = .ok a ∧ t = s) (readWith site e f) s := by
  constructor
  rw [wp_readWith]
  refine ⟨?_, fun _ => trivial, fun _ => trivial⟩
  rintro t rfl
  exact ⟨fun a ha => ⟨ha, rfl⟩, fun _ _ => trivial⟩

end

theorem zoom_readWith {get' : τ → σ} {set : σ → τ → τ} (lens : Lens get' set) (site : κ) (e : ε)
    (f : σ → Except ε α) :
    (readWith site e f).zoom get' set = readWith site e fun t => f (get' t) := by
  have hpassive : (⟨site, fun t => set (id (get' t)) t, fun _ t => set (id (get' t)) t⟩ :
      Effect κ τ) = passive site := by
    simp [passive, lens.set_get, Function.id_def]
  unfold readWith perform
  change act ⟨site, fun t => set (id (get' t)) t, fun _ t => set (id (get' t)) t⟩ _ = _
  rw [hpassive]
  change act (passive site) _ = act (passive site) _
  congr 1
  funext ok
  cases ok
  · rfl
  · change look _ = look _
    congr 1
    funext t
    change (ofExcept (f (get' t))).zoom get' set = ofExcept (f (get' t))
    cases f (get' t) <;> rfl

theorem run_zoom_eq_returned {get' : τ → σ} {set : σ → τ → τ} (lens : Lens get' set)
    {m : Prog κ σ ε α} {x y : τ} :
    run (m.zoom get' set) x = .returned a y ↔
      ∃ s, run m (get' x) = .returned a s ∧ y = set s x := by
  rw [run_zoom lens]
  cases run m (get' x) with
  | returned b s => simp [eq_comm]
  | failed | crashed => simp

end FaultIO.Prog
