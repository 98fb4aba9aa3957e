import Mathlib.Logic.Basic
import Mathlib.Data.List.Basic

/-!
# Programs over a faulty store

A program is a tree of reads, memory updates and store effects over a state `σ`.
A store effect can complete, fail after some of its progress, or be cut by a
crash; a fault model says which of these may happen at which site, and what
else may change the state once an effect is complete. `Runs` is the resulting
nondeterministic semantics, `exec` a scripted run of it, and `wp` the condition
under which every run ends in a given postcondition.
-/

namespace FaultIO

/-- A store effect: `torn n` is the state after `n` units of its progress. -/
structure Effect (κ σ : Type) where
  site : κ
  full : σ → σ
  torn : ℕ → σ → σ

inductive Prog (κ σ ε α : Type) : Type where
  | done (a : α)
  | fail (e : ε)
  | look (next : σ → Prog κ σ ε α)
  | update (f : σ → σ) (next : Prog κ σ ε α)
  | act (effect : Effect κ σ) (next : Bool → Prog κ σ ε α)

inductive Outcome (σ ε α : Type) where
  | returned (a : α) (s : σ)
  | failed (e : ε) (s : σ)
  | crashed (s : σ)
  deriving DecidableEq

namespace Outcome

variable {σ ε α : Type}

/-- The state an outcome leaves behind. -/
def state : Outcome σ ε α → σ
  | returned _ s | failed _ s | crashed s => s

@[simp] theorem state_returned (a : α) (s : σ) :
    (returned a s : Outcome σ ε α).state = s := rfl

@[simp] theorem state_failed (e : ε) (s : σ) : (failed e s : Outcome σ ε α).state = s := rfl

@[simp] theorem state_crashed (s : σ) : (crashed s : Outcome σ ε α).state = s := rfl

end Outcome

/-- Which effects may fail or crash, and what may follow a completed one. -/
structure FaultModel (κ σ : Type) where
  error : κ → Bool
  crash : κ → Bool
  after : κ → σ → σ → Prop

namespace FaultModel

variable {κ σ : Type}

/-- Faults at the sites of two masks, and no interference. -/
def masks (error crash : κ → Bool) : FaultModel κ σ := ⟨error, crash, fun _ s t => t = s⟩

/-- No fault and no interference. -/
def none : FaultModel κ σ := masks (fun _ => false) fun _ => false

def all : FaultModel κ σ := masks (fun _ => true) fun _ => true

end FaultModel

namespace Prog

variable {κ σ τ ε δ α β γ : Type}

def bind : Prog κ σ ε α → (α → Prog κ σ ε β) → Prog κ σ ε β
  | done a, f => f a
  | fail e, _ => fail e
  | look next, f => look fun s => (next s).bind f
  | update g next, f => update g (next.bind f)
  | act effect next, f => act effect fun ok => (next ok).bind f

instance : Monad (Prog κ σ ε) where
  pure := done
  bind := bind

theorem bind_done (m : Prog κ σ ε α) : m.bind done = m := by
  induction m with
  | done | fail => rfl
  | look next ih => exact congrArg look (funext ih)
  | update f next ih => exact congrArg (update f) ih
  | act effect next ih => exact congrArg (act effect) (funext ih)

theorem bind_assoc (m : Prog κ σ ε α) (f : α → Prog κ σ ε β) (g : β → Prog κ σ ε γ) :
    (m.bind f).bind g = m.bind fun a => (f a).bind g := by
  induction m with
  | done | fail => rfl
  | look next ih => exact congrArg look (funext ih)
  | update f next ih => exact congrArg (update f) ih
  | act effect next ih => exact congrArg (act effect) (funext ih)

instance : LawfulMonad (Prog κ σ ε) :=
  LawfulMonad.mk' _ bind_done (fun _ _ => rfl) bind_assoc

/-- Catches a failure; a crash is not caught. -/
def attempt : Prog κ σ ε α → Prog κ σ δ (Except ε α)
  | done a => done (.ok a)
  | fail e => done (.error e)
  | look next => look fun s => (next s).attempt
  | update f next => update f next.attempt
  | act effect next => act effect fun ok => (next ok).attempt

/-- Runs a program on a part of a larger state. -/
def zoom (get : τ → σ) (set : σ → τ → τ) : Prog κ σ ε α → Prog κ τ ε α
  | done a => done a
  | fail e => fail e
  | look next => look fun t => (next (get t)).zoom get set
  | update f next => update (fun t => set (f (get t)) t) (next.zoom get set)
  | act effect next =>
    act ⟨effect.site, fun t => set (effect.full (get t)) t,
        fun n t => set (effect.torn n (get t)) t⟩
      fun ok => (next ok).zoom get set

def get : Prog κ σ ε σ := look done

def modify (f : σ → σ) : Prog κ σ ε Unit := update f (done ())

def throw (e : ε) : Prog κ σ ε α := fail e

def ofExcept : Except ε α → Prog κ σ ε α
  | .ok a => done a
  | .error e => fail e

/-- Performs an effect; `e` reports that it failed. -/
def perform (effect : Effect κ σ) (e : ε) : Prog κ σ ε Unit :=
  act effect fun ok => if ok then done () else fail e

/-- An effect that leaves the store as it is: a read, a barrier, a check. -/
def passive (site : κ) : Effect κ σ := ⟨site, id, fun _ => id⟩

/-- A read of the state through `f`; `e` reports that the store could not be read. -/
def readWith (site : κ) (e : ε) (f : σ → Except ε α) : Prog κ σ ε α := do
  perform (passive site) e
  let s ← get
  ofExcept (f s)

/-- Every way a program can end under a fault model. -/
inductive Runs (M : FaultModel κ σ) : Prog κ σ ε α → σ → Outcome σ ε α → Prop
  | done (a : α) (s : σ) : Runs M (done a) s (.returned a s)
  | fail (e : ε) (s : σ) : Runs M (fail e) s (.failed e s)
  | look {next : σ → Prog κ σ ε α} {s : σ} {o : Outcome σ ε α} :
      Runs M (next s) s o → Runs M (look next) s o
  | update {f : σ → σ} {next : Prog κ σ ε α} {s : σ} {o : Outcome σ ε α} :
      Runs M next (f s) o → Runs M (update f next) s o
  | actFull {effect : Effect κ σ} {next : Bool → Prog κ σ ε α} {s t : σ}
      {o : Outcome σ ε α} :
      M.after effect.site (effect.full s) t → Runs M (next true) t o →
        Runs M (act effect next) s o
  | actError {effect : Effect κ σ} {next : Bool → Prog κ σ ε α} {s : σ}
      {o : Outcome σ ε α} (n : ℕ) :
      M.error effect.site = true → Runs M (next false) (effect.torn n s) o →
        Runs M (act effect next) s o
  | actCrash {effect : Effect κ σ} {next : Bool → Prog κ σ ε α} {s : σ} (n : ℕ) :
      M.crash effect.site = true →
        Runs M (act effect next) s (.crashed (effect.torn n s))

/-- What a script does at one effect. -/
inductive Fault where
  | none
  | error (progress : ℕ)
  | crash (progress : ℕ)
  deriving DecidableEq

/-- The run a script of faults selects; a fault the masks forbid is ignored, and
past the end of the script every effect completes. -/
def exec (error crash : κ → Bool) : List Fault → Prog κ σ ε α → σ → Outcome σ ε α
  | _, done a, s => .returned a s
  | _, fail e, s => .failed e s
  | faults, look next, s => exec error crash faults (next s) s
  | faults, update f next, s => exec error crash faults next (f s)
  | faults, act effect next, s =>
    match faults.head?.getD .none with
    | .none => exec error crash faults.tail (next true) (effect.full s)
    | .error n =>
      if error effect.site then exec error crash faults.tail (next false) (effect.torn n s)
      else exec error crash faults.tail (next true) (effect.full s)
    | .crash n =>
      if crash effect.site then .crashed (effect.torn n s)
      else exec error crash faults.tail (next true) (effect.full s)

/-- The run without faults. -/
def run (m : Prog κ σ ε α) (s : σ) : Outcome σ ε α :=
  exec (fun _ => false) (fun _ => false) [] m s

theorem exec_runs (M : FaultModel κ σ) (hafter : ∀ site s, M.after site s s)
    (faults : List Fault) (m : Prog κ σ ε α) (s : σ) :
    Runs M m s (exec M.error M.crash faults m s) := by
  induction m generalizing faults s with
  | done a => exact .done a s
  | fail e => exact .fail e s
  | look next ih => exact .look (ih s faults s)
  | update f next ih => exact .update (ih faults (f s))
  | act effect next ih =>
    unfold exec
    rcases faults.head?.getD .none with _ | n | n
    · exact .actFull (hafter _ _) (ih true _ _)
    · by_cases he : M.error effect.site = true
      · simpa [he] using Runs.actError n he (ih false faults.tail (effect.torn n s))
      · simpa [he] using Runs.actFull (hafter _ _) (ih true faults.tail (effect.full s))
    · by_cases hc : M.crash effect.site = true
      · simpa [hc] using @Runs.actCrash _ _ _ _ M effect next s n hc
      · simpa [hc] using Runs.actFull (hafter _ _) (ih true faults.tail (effect.full s))

/-- Without faults there is exactly one run. -/
theorem runs_none_iff {m : Prog κ σ ε α} {s : σ} {o : Outcome σ ε α} :
    Runs .none m s o ↔ o = run m s := by
  constructor
  · intro h
    induction h with
    | done | fail => rfl
    | look _ ih => exact ih
    | update _ ih => exact ih
    | actFull ht _ ih => simpa [run, exec, show _ = _ from ht] using ih
    | actError _ he => cases he
    | actCrash _ hc => cases hc
  · rintro rfl
    exact exec_runs .none (fun _ _ => rfl) [] m s

end Prog

/-- A postcondition for each way a program can end. -/
structure Post (σ ε α : Type) where
  ret : α → σ → Prop
  err : ε → σ → Prop
  crash : σ → Prop

namespace Post

variable {σ ε α : Type}

def Holds (Q : Post σ ε α) : Outcome σ ε α → Prop
  | .returned a s => Q.ret a s
  | .failed e s => Q.err e s
  | .crashed s => Q.crash s

@[simp] theorem holds_returned (Q : Post σ ε α) (a : α) (s : σ) :
    Q.Holds (.returned a s) ↔ Q.ret a s := Iff.rfl

@[simp] theorem holds_failed (Q : Post σ ε α) (e : ε) (s : σ) :
    Q.Holds (.failed e s) ↔ Q.err e s := Iff.rfl

@[simp] theorem holds_crashed (Q : Post σ ε α) (s : σ) :
    Q.Holds (.crashed s) ↔ Q.crash s := Iff.rfl

/-- The same condition on the state however the program ends. -/
def always (P : σ → Prop) : Post σ ε α := ⟨fun _ => P, fun _ => P, P⟩

theorem holds_always {P : σ → Prop} {o : Outcome σ ε α} :
    (always P).Holds o ↔ P o.state := by
  cases o <;> rfl

end Post

namespace Prog

variable {κ σ τ ε δ α β : Type} (M : FaultModel κ σ)

/-- Every run of the program from `s` ends in `Q`. -/
def wp (Q : Post σ ε α) : Prog κ σ ε α → σ → Prop
  | done a, s => Q.ret a s
  | fail e, s => Q.err e s
  | look next, s => wp Q (next s) s
  | update f next, s => wp Q next (f s)
  | act effect next, s =>
    (∀ t, M.after effect.site (effect.full s) t → wp Q (next true) t) ∧
      (M.error effect.site = true → ∀ n, wp Q (next false) (effect.torn n s)) ∧
      (M.crash effect.site = true → ∀ n, Q.crash (effect.torn n s))

variable {M}

theorem wp_sound {Q : Post σ ε α} {m : Prog κ σ ε α} {s : σ} {o : Outcome σ ε α}
    (h : wp M Q m s) (hr : Runs M m s o) : Q.Holds o := by
  induction hr with
  | done | fail => exact h
  | look _ ih => exact ih h
  | update _ ih => exact ih h
  | actFull ht _ ih => exact ih (h.1 _ ht)
  | actError n he _ ih => exact ih (h.2.1 he n)
  | actCrash n hc => exact h.2.2 hc n

theorem wp_complete {Q : Post σ ε α} {m : Prog κ σ ε α} {s : σ}
    (h : ∀ o, Runs M m s o → Q.Holds o) : wp M Q m s := by
  induction m generalizing s with
  | done a => exact h _ (.done a s)
  | fail e => exact h _ (.fail e s)
  | look next ih => exact ih s fun o ho => h o (.look ho)
  | update f next ih => exact ih fun o ho => h o (.update ho)
  | act effect next ih =>
    exact ⟨fun t ht => ih true fun o ho => h o (.actFull ht ho),
      fun he n => ih false fun o ho => h o (.actError n he ho),
      fun hc n => h _ (.actCrash n hc)⟩

theorem wp_mono {Q Q' : Post σ ε α} {m : Prog κ σ ε α} {s : σ}
    (hret : ∀ a s, Q.ret a s → Q'.ret a s) (herr : ∀ e s, Q.err e s → Q'.err e s)
    (hcrash : ∀ s, Q.crash s → Q'.crash s) (h : wp M Q m s) : wp M Q' m s := by
  apply wp_complete
  intro o ho
  have hQ := wp_sound h ho
  cases o with
  | returned a s => exact hret a s hQ
  | failed e s => exact herr e s hQ
  | crashed s => exact hcrash s hQ

@[simp] theorem wp_done (Q : Post σ ε α) (a : α) (s : σ) :
    wp M Q (done a) s ↔ Q.ret a s := Iff.rfl

@[simp] theorem wp_pure (Q : Post σ ε α) (a : α) (s : σ) :
    wp M Q (pure a) s ↔ Q.ret a s := Iff.rfl

@[simp] theorem wp_fail (Q : Post σ ε α) (e : ε) (s : σ) :
    wp M Q (fail e) s ↔ Q.err e s := Iff.rfl

@[simp] theorem wp_throw (Q : Post σ ε α) (e : ε) (s : σ) :
    wp M Q (throw e) s ↔ Q.err e s := Iff.rfl

@[simp] theorem wp_get (Q : Post σ ε σ) (s : σ) : wp M Q get s ↔ Q.ret s s := Iff.rfl

@[simp] theorem wp_modify (Q : Post σ ε Unit) (f : σ → σ) (s : σ) :
    wp M Q (modify f) s ↔ Q.ret () (f s) := Iff.rfl

theorem wp_ofExcept (Q : Post σ ε α) (r : Except ε α) (s : σ) :
    wp M Q (ofExcept r) s ↔ (∀ a, r = .ok a → Q.ret a s) ∧ ∀ e, r = .error e → Q.err e s := by
  cases r <;> simp [ofExcept]

theorem wp_bind (Q : Post σ ε β) (m : Prog κ σ ε α) (f : α → Prog κ σ ε β) (s : σ) :
    wp M Q (m >>= f) s ↔ wp M ⟨fun a t => wp M Q (f a) t, Q.err, Q.crash⟩ m s := by
  change wp M Q (m.bind f) s ↔ _
  induction m generalizing s with
  | done | fail => rfl
  | look next ih => exact ih s s
  | update g next ih => exact ih (g s)
  | act effect next ih => simp only [bind, wp, ih]

theorem wp_attempt (Q : Post σ δ (Except ε α)) (m : Prog κ σ ε α) (s : σ) :
    wp M Q m.attempt s ↔
      wp M ⟨fun a t => Q.ret (.ok a) t, fun e t => Q.ret (.error e) t, Q.crash⟩ m s := by
  induction m generalizing s with
  | done | fail => rfl
  | look next ih => exact ih s s
  | update g next ih => exact ih (g s)
  | act effect next ih => simp only [attempt, wp, ih]

theorem wp_perform (Q : Post σ ε Unit) (effect : Effect κ σ) (e : ε) (s : σ) :
    wp M Q (perform effect e) s ↔
      (∀ t, M.after effect.site (effect.full s) t → Q.ret () t) ∧
        (M.error effect.site = true → ∀ n, Q.err e (effect.torn n s)) ∧
        (M.crash effect.site = true → ∀ n, Q.crash (effect.torn n s)) := by
  simp [perform, wp]

theorem wp_readWith (Q : Post σ ε α) (site : κ) (e : ε) (f : σ → Except ε α) (s : σ) :
    wp M Q (readWith site e f) s ↔
      (∀ t, M.after site s t →
        (∀ a, f t = .ok a → Q.ret a t) ∧ ∀ e', f t = .error e' → Q.err e' t) ∧
      (M.error site = true → Q.err e s) ∧ (M.crash site = true → Q.crash s) := by
  unfold readWith
  simp only [wp_bind, wp_perform, wp_get, wp_ofExcept]
  simp [passive]

theorem wp_forM {ι : Type} (Q : Post σ ε Unit) (f : ι → Prog κ σ ε Unit) (i : ι)
    (rest : List ι) (s : σ) :
    wp M Q ((i :: rest).forM f) s ↔
      wp M ⟨fun _ t => wp M Q (rest.forM f) t, Q.err, Q.crash⟩ (f i) s :=
  wp_bind Q (f i) (fun _ => rest.forM f) s

/-- The models of a state and of a part of it agree. -/
structure FaultModel.Zooms (get : τ → σ) (set : σ → τ → τ) (M : FaultModel κ σ)
    (N : FaultModel κ τ) : Prop where
  error : N.error = M.error
  crash : N.crash = M.crash
  after : ∀ site s t u, N.after site (set s t) u ↔ ∃ s', M.after site s s' ∧ u = set s' t

/-- The laws that make `get` and `set` a lens. -/
structure Lens (get : τ → σ) (set : σ → τ → τ) : Prop where
  get_set : ∀ s t, get (set s t) = s
  set_set : ∀ s s' t, set s (set s' t) = set s t
  set_get : ∀ t, set (get t) t = t

theorem zooms_masks {get : τ → σ} {set : σ → τ → τ} (error crash : κ → Bool) :
    FaultModel.Zooms get set (.masks error crash) (.masks error crash) where
  error := rfl
  crash := rfl
  after _ _ _ _ := ⟨fun h => ⟨_, rfl, h⟩, fun ⟨_, hs, h⟩ => hs ▸ h⟩

theorem wp_zoom {get : τ → σ} {set : σ → τ → τ} (lens : Lens get set) {N : FaultModel κ τ}
    (hz : FaultModel.Zooms get set M N) (Q : Post τ ε α) (m : Prog κ σ ε α) (t : τ) :
    wp N Q (m.zoom get set) t ↔
      wp M ⟨fun a s => Q.ret a (set s t), fun e s => Q.err e (set s t),
        fun s => Q.crash (set s t)⟩ m (get t) := by
  induction m generalizing t with
  | done | fail => simp [zoom, lens.set_get]
  | look next ih => exact ih (get t) t
  | update f next ih =>
    simp only [zoom, wp, ih, lens.get_set, lens.set_set]
  | act effect next ih =>
    have hfull : (∀ u, N.after effect.site (set (effect.full (get t)) t) u →
          wp N Q ((next true).zoom get set) u) ↔
        ∀ s', M.after effect.site (effect.full (get t)) s' →
          wp M ⟨fun a s => Q.ret a (set s t), fun e s => Q.err e (set s t),
            fun s => Q.crash (set s t)⟩ (next true) s' := by
      constructor
      · intro h s' hs'
        have := h (set s' t) ((hz.after _ _ _ _).2 ⟨s', hs', rfl⟩)
        simpa only [ih, lens.get_set, lens.set_set] using this
      · intro h u hu
        obtain ⟨s', hs', rfl⟩ := (hz.after _ _ _ _).1 hu
        simpa only [ih, lens.get_set, lens.set_set] using h s' hs'
    simp only [zoom, wp, hz.error, hz.crash, hfull]
    simp only [ih, lens.get_set, lens.set_set]

end Prog

end FaultIO
