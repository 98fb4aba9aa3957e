import Mathlib.Data.List.Induction
import Mathlib.Data.List.Pairwise
import Mathlib.Data.Set.Basic

/-!
# The first of a key wins

Items with keys are offered in batches, each under a context of its own. The first
admitted item of a key is fresh; a later one is a duplicate or a conflict. What was
fresh in earlier batches is recalled by viewing it under the context of the current
one, so an item the context cannot see is forgotten. The law of first wins holds
over a whole run exactly if no batch offers a key again whose fresh item, or whose
new item, is out of sight. Under one context that never changes, the verdict on an
item is a function of the first admitted item of its key.
-/

namespace Timeline

variable {C α K V : Type}

/-- What a context sees of an item, and which items it admits. -/
structure Admission (C α K V : Type) where
  key : α → Option K
  view : C → α → Option (K × V)
  admits : C → α → Bool
  key_of_view : ∀ c a k v, view c a = some (k, v) → key a = some k
  view_of_admits : ∀ c a, admits c a = true → ∃ k v, view c a = some (k, v)

inductive Verdict where
  | fresh
  | duplicate
  | conflict
  | refused
  deriving DecidableEq

namespace Admission

variable [DecidableEq K] [DecidableEq V] (A : Admission C α K V) (c : C)

def judge (known : List (K × V)) (a : α) : Verdict :=
  if A.admits c a then
    match A.view c a with
    | none => .refused
    | some (k, v) =>
      match known.lookup k with
      | none => .fresh
      | some prior => if prior = v then .duplicate else .conflict
  else .refused

def learn (known : List (K × V)) (a : α) : List (K × V) :=
  if A.judge c known a = .fresh then (A.view c a).toList ++ known else known

def learnAll (known : List (K × V)) (items : List α) : List (K × V) :=
  items.foldl (A.learn c) known

/-- The value the first admitted item of a key has. -/
def firstOf (k : K) (items : List α) : Option V :=
  items.findSome? fun a =>
    if A.admits c a then (A.view c a).bind fun seen => if seen.1 = k then some seen.2 else none
    else none

def judgeAll (known : List (K × V)) : List α → List (α × Verdict)
  | [] => []
  | a :: rest => (a, A.judge c known a) :: judgeAll (A.learn c known a) rest

/-- The fresh items of the history as the context sees them, the last first. -/
def recollect (history : List (α × Verdict)) : List (K × V) :=
  (history.filterMap fun entry => if entry.2 = .fresh then A.view c entry.1 else none).reverse

def offer (history : List (α × Verdict)) (batch : C × List α) : List (α × Verdict) :=
  history ++ A.judgeAll batch.1 (A.recollect batch.1 history) batch.2

def offers (batches : List (C × List α)) : List (α × Verdict) :=
  batches.foldl A.offer []

variable (same : α → α → Prop)

/-- A key that was fresh makes every later item of it a duplicate or a conflict. -/
def Follows (earlier later : α × Verdict) : Prop :=
  earlier.2 = .fresh → A.key earlier.1 = A.key later.1 →
    (same earlier.1 later.1 → later.2 = .duplicate) ∧
      (¬same earlier.1 later.1 → later.2 = .conflict)

def FirstWins (history : List (α × Verdict)) : Prop :=
  history.Pairwise (A.Follows same)

/-- The fresh item of a key that is offered again is in sight, and so is the new item. -/
def Recalled (history : List (α × Verdict)) (a : α) : Prop :=
  ∀ entry ∈ history, entry.2 = .fresh → A.key entry.1 = A.key a →
    A.admits c a = true ∧ (A.view c entry.1).isSome = true

/-- Nothing the batch offers meets a forgotten item, in the history or in the batch. -/
def Recognises (history : List (α × Verdict)) (items : List α) : Prop :=
  (∀ a ∈ items, A.Recalled c history a) ∧
    items.Pairwise fun a b => A.admits c a = true → A.key a = A.key b → A.admits c b = true

/-- Under the context, items of one key look alike exactly if they are the same. -/
def Tells (c : C) (items : Set α) : Prop :=
  ∀ a ∈ items, ∀ b ∈ items, ∀ k v w, A.view c a = some (k, v) → A.view c b = some (k, w) →
    (v = w ↔ same a b)

/-- The known keys are those of the fresh items in sight. -/
def Knows (history : List (α × Verdict)) (known : List (K × V)) : Prop :=
  ∀ k v, known.lookup k = some v ↔
    ∃ entry ∈ history, entry.2 = .fresh ∧ A.view c entry.1 = some (k, v)

variable {A c same} {history : List (α × Verdict)} {known : List (K × V)} {a : α}

theorem judge_eq_fresh (h : A.judge c known a = .fresh) :
    ∃ k v, A.view c a = some (k, v) ∧ known.lookup k = none ∧ A.admits c a = true := by
  unfold judge at h
  split_ifs at h with hadmits
  obtain ⟨k, v, hview⟩ := A.view_of_admits c a hadmits
  simp only [hview] at h
  cases hknown : known.lookup k with
  | none => exact ⟨k, v, hview, hknown, hadmits⟩
  | some prior =>
    simp only [hknown] at h
    split_ifs at h

theorem judge_of_lookup {k : K} {v prior : V} (hadmits : A.admits c a = true)
    (hview : A.view c a = some (k, v)) (hknown : known.lookup k = some prior) :
    A.judge c known a = if prior = v then .duplicate else .conflict := by
  simp [judge, hadmits, hview, hknown]

theorem exists_lookup_of_judge
    (h : A.judge c known a = .duplicate ∨ A.judge c known a = .conflict) :
    A.admits c a = true ∧ ∃ k v prior, A.view c a = some (k, v) ∧ known.lookup k = some prior := by
  unfold judge at h
  split_ifs at h with hadmits
  · obtain ⟨k, v, hview⟩ := A.view_of_admits c a hadmits
    simp only [hview] at h
    cases hknown : known.lookup k with
    | none => simp [hknown] at h
    | some prior => exact ⟨hadmits, k, v, prior, hview, hknown⟩
  · simp at h

/-- Judging one more item keeps the known keys those of the fresh items in sight. -/
theorem Knows.step (h : A.Knows c history known) (a : α) :
    A.Knows c (history ++ [(a, A.judge c known a)]) (A.learn c known a) := by
  intro k v
  by_cases hfresh : A.judge c known a = .fresh
  · obtain ⟨k', v', hview, hnone, -⟩ := judge_eq_fresh hfresh
    have hlearn : A.learn c known a = (k', v') :: known := by simp [learn, hfresh, hview]
    rw [hlearn, List.lookup_cons]
    by_cases hk : k = k'
    · subst hk
      simp only [beq_self_eq_true, Option.some.injEq]
      constructor
      · rintro rfl
        exact ⟨(a, A.judge c known a), by simp, hfresh, hview⟩
      · rintro ⟨entry, hentry, hf, hv⟩
        rcases List.mem_append.1 hentry with hmem | hmem
        · rw [(h k v).2 ⟨entry, hmem, hf, hv⟩] at hnone
          cases hnone
        · cases List.mem_singleton.1 hmem
          rw [hview] at hv
          cases hv
          rfl
    · simp only [beq_false_of_ne hk, h k v]
      constructor
      · rintro ⟨entry, hentry, hf, hv⟩
        exact ⟨entry, List.mem_append_left _ hentry, hf, hv⟩
      · rintro ⟨entry, hentry, hf, hv⟩
        rcases List.mem_append.1 hentry with hmem | hmem
        · exact ⟨entry, hmem, hf, hv⟩
        · cases List.mem_singleton.1 hmem
          rw [hview] at hv
          cases hv
          exact absurd rfl hk
  · have hlearn : A.learn c known a = known := by simp [learn, hfresh]
    rw [hlearn, h k v]
    constructor
    · rintro ⟨entry, hentry, hf, hv⟩
      exact ⟨entry, List.mem_append_left _ hentry, hf, hv⟩
    · rintro ⟨entry, hentry, hf, hv⟩
      rcases List.mem_append.1 hentry with hmem | hmem
      · exact ⟨entry, hmem, hf, hv⟩
      · cases List.mem_singleton.1 hmem
        exact absurd hf hfresh

omit [DecidableEq K] [DecidableEq V] in
/-- Two fresh items of a history in which the first wins have different keys. -/
theorem FirstWins.eq_of_key (h : A.FirstWins same history) {e e' : α × Verdict}
    (he : e ∈ history) (he' : e' ∈ history) (hf : e.2 = .fresh) (hf' : e'.2 = .fresh)
    (hkey : A.key e.1 = A.key e'.1) : e = e' := by
  have hapart : history.Pairwise fun e l =>
      e.2 = .fresh → l.2 = .fresh → A.key e.1 ≠ A.key l.1 := by
    refine List.Pairwise.imp ?_ h
    intro e l hfollows he hl hkey
    obtain ⟨hsame, hother⟩ := hfollows he hkey
    by_cases heq : same e.1 l.1
    · exact absurd (hl.symm.trans (hsame heq)) (by simp)
    · exact absurd (hl.symm.trans (hother heq)) (by simp)
  have : Std.Symm fun e l : α × Verdict =>
      e.2 = .fresh → l.2 = .fresh → A.key e.1 ≠ A.key l.1 :=
    ⟨fun _ _ hR hl he hkey => hR he hl hkey.symm⟩
  by_contra hne
  exact hapart.forall he he' hne hf hf' hkey

omit [DecidableEq V] in
theorem mem_of_lookup {k : K} {v : V} (h : known.lookup k = some v) : (k, v) ∈ known := by
  obtain ⟨before, after, rfl, -⟩ := List.lookup_eq_some_iff.1 h
  simp

omit [DecidableEq V] in
theorem lookup_of_unique {k : K} {v : V} (hunique : ∀ w, (k, w) ∈ known → w = v)
    (hmem : (k, v) ∈ known) : known.lookup k = some v := by
  cases hlookup : known.lookup k with
  | none =>
    rw [List.lookup_eq_none_iff] at hlookup
    exact absurd (hlookup _ hmem) (by simp)
  | some w => rw [hunique w (mem_of_lookup hlookup)]

omit [DecidableEq V] in
/-- What a context recalls of a history in which the first wins. -/
theorem FirstWins.knows_recollect (h : A.FirstWins same history) :
    A.Knows c history (A.recollect c history) := by
  have hmem : ∀ k v, (k, v) ∈ A.recollect c history ↔
      ∃ entry ∈ history, entry.2 = .fresh ∧ A.view c entry.1 = some (k, v) := by
    intro k v
    simp only [recollect, List.mem_reverse, List.mem_filterMap]
    refine exists_congr fun entry => and_congr_right fun _ => ?_
    by_cases hf : entry.2 = .fresh <;> simp [hf]
  intro k v
  rw [← hmem]
  refine ⟨mem_of_lookup, fun hkv => lookup_of_unique (fun w hw => ?_) hkv⟩
  obtain ⟨e, he, hf, hv⟩ := (hmem k v).1 hkv
  obtain ⟨e', he', hf', hv'⟩ := (hmem k w).1 hw
  have hkey : A.key e.1 = A.key e'.1 :=
    (A.key_of_view _ _ _ _ hv).trans (A.key_of_view _ _ _ _ hv').symm
  rw [h.eq_of_key he he' hf hf' hkey, hv'] at hv
  cases hv
  rfl

/-- One item follows all fresh items before it exactly if none of them is forgotten. -/
theorem follows_iff_recalled {items : Set α} (hwins : A.FirstWins same history)
    (hknows : A.Knows c history known) (htells : A.Tells same c items)
    (hitems : ∀ entry ∈ history, entry.1 ∈ items) (ha : a ∈ items) :
    (∀ entry ∈ history, A.Follows same entry (a, A.judge c known a)) ↔
      A.Recalled c history a := by
  constructor
  · intro hfollows entry hentry hfresh hkey
    obtain ⟨hsame, hother⟩ := hfollows entry hentry hfresh hkey
    have hjudge : A.judge c known a = .duplicate ∨ A.judge c known a = .conflict :=
      (em (same entry.1 a)).imp hsame hother
    obtain ⟨hadmits, k, v, prior, hview, hlookup⟩ := exists_lookup_of_judge hjudge
    obtain ⟨entry', hentry', hfresh', hview'⟩ := (hknows k prior).1 hlookup
    have hkey' : A.key entry'.1 = A.key entry.1 :=
      (A.key_of_view _ _ _ _ hview').trans ((A.key_of_view _ _ _ _ hview).symm.trans hkey.symm)
    rw [hwins.eq_of_key hentry' hentry hfresh' hfresh hkey'] at hview'
    exact ⟨hadmits, by rw [hview']; rfl⟩
  · intro hrecalled entry hentry hfresh hkey
    obtain ⟨hadmits, hsight⟩ := hrecalled entry hentry hfresh hkey
    obtain ⟨k, v, hview⟩ := A.view_of_admits c a hadmits
    obtain ⟨⟨k', prior⟩, hview'⟩ := Option.isSome_iff_exists.1 hsight
    have hk : k' = k := by
      have hkeys := (A.key_of_view _ _ _ _ hview').symm.trans
        (hkey.trans (A.key_of_view _ _ _ _ hview))
      exact Option.some.inj hkeys
    subst hk
    have hlookup := (hknows k' prior).2 ⟨entry, hentry, hfresh, hview'⟩
    have hjudge := judge_of_lookup hadmits hview hlookup
    have htell := htells entry.1 (hitems entry hentry) a ha k' prior v hview' hview
    refine ⟨fun hsame => ?_, fun hother => ?_⟩
    · rw [hjudge, if_pos (htell.2 hsame)]
    · rw [hjudge, if_neg fun heq => hother (htell.1 heq)]

omit [DecidableEq K] [DecidableEq V] in
theorem Recalled.of_append {entry : α × Verdict}
    (h : A.Recalled c (history ++ [entry]) a) : A.Recalled c history a :=
  fun e he => h e (List.mem_append_left _ he)

/-- Once an item is admitted its key has a fresh item, the item itself or an earlier one. -/
theorem exists_fresh_of_admits (hknows : A.Knows c history known) (h : A.admits c a = true) :
    ∃ entry ∈ history ++ [(a, A.judge c known a)], entry.2 = .fresh ∧
      A.key entry.1 = A.key a ∧ (A.view c entry.1).isSome = true := by
  obtain ⟨k, v, hview⟩ := A.view_of_admits c a h
  cases hlookup : known.lookup k with
  | none =>
    refine ⟨(a, A.judge c known a), by simp, ?_, rfl, by rw [hview]; rfl⟩
    simp [judge, h, hview, hlookup]
  | some prior =>
    obtain ⟨entry, hentry, hfresh, hseen⟩ := (hknows k prior).1 hlookup
    refine ⟨entry, List.mem_append_left _ hentry, hfresh, ?_, by rw [hseen]; rfl⟩
    rw [A.key_of_view _ _ _ _ hseen, A.key_of_view _ _ _ _ hview]

theorem recognises_cons (hknows : A.Knows c history known) {rest : List α} :
    A.Recognises c history (a :: rest) ↔ A.Recalled c history a ∧
      A.Recognises c (history ++ [(a, A.judge c known a)]) rest := by
  unfold Recognises
  rw [List.forall_mem_cons, List.pairwise_cons]
  constructor
  · rintro ⟨⟨ha, hrest⟩, hfirst, hpairs⟩
    refine ⟨ha, fun b hb entry hentry hfresh hkey => ?_, hpairs⟩
    rcases List.mem_append.1 hentry with hmem | hmem
    · exact hrest b hb entry hmem hfresh hkey
    · cases List.mem_singleton.1 hmem
      obtain ⟨k, v, hview, -, hadmits⟩ := judge_eq_fresh hfresh
      exact ⟨hfirst b hb hadmits hkey, by rw [hview]; rfl⟩
  · rintro ⟨ha, hrest, hpairs⟩
    refine ⟨⟨ha, fun b hb => (hrest b hb).of_append⟩, fun b hb hadmits hkey => ?_, hpairs⟩
    obtain ⟨entry, hentry, hfresh, hkey', -⟩ := exists_fresh_of_admits hknows hadmits
    exact (hrest b hb entry hentry hfresh (hkey'.trans hkey)).1

theorem firstWins_judgeAll_iff {items : Set α} {batch : List α} (hwins : A.FirstWins same history)
    (hknows : A.Knows c history known) (htells : A.Tells same c items)
    (hitems : ∀ entry ∈ history, entry.1 ∈ items) (hbatch : ∀ a ∈ batch, a ∈ items) :
    A.FirstWins same (history ++ A.judgeAll c known batch) ↔ A.Recognises c history batch := by
  induction batch generalizing history known with
  | nil => simpa [judgeAll, Recognises] using hwins
  | cons a rest ih =>
    have ha := hbatch a List.mem_cons_self
    have hone := follows_iff_recalled hwins hknows htells hitems ha
    have hstep : A.FirstWins same (history ++ [(a, A.judge c known a)]) ↔
        A.Recalled c history a := by
      rw [← hone, FirstWins, List.pairwise_append]
      simpa using fun _ => (show history.Pairwise (A.Follows same) from hwins)
    rw [recognises_cons hknows, judgeAll, ← List.singleton_append, ← List.append_assoc]
    constructor
    · intro h
      have hfirst : A.FirstWins same (history ++ [(a, A.judge c known a)]) :=
        List.Pairwise.sublist (List.sublist_append_left _ _) h
      refine ⟨hstep.1 hfirst, (ih hfirst (hknows.step a) ?_ ?_).1 h⟩
      · simpa [or_imp, forall_and, ha] using hitems
      · exact fun b hb => hbatch b (List.mem_cons_of_mem _ hb)
    · rintro ⟨hrecalled, hrest⟩
      refine (ih (hstep.2 hrecalled) (hknows.step a) ?_ ?_).2 hrest
      · simpa [or_imp, forall_and, ha] using hitems
      · exact fun b hb => hbatch b (List.mem_cons_of_mem _ hb)

theorem judgeAll_items (known : List (K × V)) (batch : List α) :
    (A.judgeAll c known batch).map Prod.fst = batch := by
  induction batch generalizing known with
  | nil => rfl
  | cons a rest ih => rw [judgeAll, List.map_cons, ih]

theorem offers_append (batches : List (C × List α)) (batch : C × List α) :
    A.offers (batches ++ [batch]) = A.offer (A.offers batches) batch := by
  simp [offers]

theorem mem_offers {batches : List (C × List α)} {entry : α × Verdict}
    (h : entry ∈ A.offers batches) : ∃ batch ∈ batches, entry.1 ∈ batch.2 := by
  induction batches using List.reverseRecOn with
  | nil => cases h
  | append_singleton batches batch ih =>
    rw [offers_append, offer] at h
    rcases List.mem_append.1 h with hmem | hmem
    · obtain ⟨b, hb, hentry⟩ := ih hmem
      exact ⟨b, List.mem_append_left _ hb, hentry⟩
    · refine ⟨batch, by simp, ?_⟩
      rw [← judgeAll_items (A := A) (c := batch.1) (A.recollect batch.1 _) batch.2]
      exact List.mem_map_of_mem hmem

/-- The first of each key wins over a whole run exactly if every batch recognises
what it offers again. -/
theorem firstWins_offers_iff {batches : List (C × List α)}
    (htells : ∀ batch ∈ batches, A.Tells same batch.1 {a | ∃ b ∈ batches, a ∈ b.2}) :
    A.FirstWins same (A.offers batches) ↔
      ∀ before batch after, batches = before ++ batch :: after →
        A.Recognises batch.1 (A.offers before) batch.2 := by
  induction batches using List.reverseRecOn with
  | nil =>
    apply iff_of_true List.Pairwise.nil
    intro before batch after h
    simp at h
  | append_singleton batches batch ih =>
    have hsub : ∀ {a : α}, (∃ b ∈ batches, a ∈ b.2) →
        ∃ b ∈ batches ++ [batch], a ∈ b.2 := by
      rintro a ⟨b, hb, hab⟩
      exact ⟨b, List.mem_append_left _ hb, hab⟩
    have ih' := ih fun b hb a ha a' ha' =>
      htells b (List.mem_append_left _ hb) a (hsub ha) a' (hsub ha')
    have hlast : A.FirstWins same (A.offers batches) →
        (A.FirstWins same (A.offers (batches ++ [batch])) ↔
          A.Recognises batch.1 (A.offers batches) batch.2) := by
      intro hwins
      rw [offers_append]
      refine firstWins_judgeAll_iff hwins hwins.knows_recollect (htells batch (by simp)) ?_ ?_
      · exact fun entry hentry => hsub (mem_offers hentry)
      · exact fun a ha => ⟨batch, by simp, ha⟩
    constructor
    · intro h before b after heq
      have hprefixed : A.FirstWins same (A.offers batches) := by
        rw [offers_append] at h
        exact List.Pairwise.sublist (List.sublist_append_left _ _) h
      rcases List.eq_nil_or_concat after with rfl | ⟨after', last, rfl⟩
      · obtain ⟨rfl, hb⟩ := List.append_inj' heq rfl
        cases hb
        exact (hlast hprefixed).1 h
      · refine ih'.1 hprefixed before b after' ?_
        rw [List.concat_eq_append, ← List.cons_append, ← List.append_assoc] at heq
        exact (List.append_inj' heq rfl).1
    · intro h
      have hprefixed := ih'.2 fun before b after heq =>
        h before b (after ++ [batch]) (by rw [heq]; simp)
      exact (hlast hprefixed).2 (h batches batch [] rfl)

theorem judgeAll_append (known : List (K × V)) (items rest : List α) :
    A.judgeAll c known (items ++ rest) =
      A.judgeAll c known items ++ A.judgeAll c (A.learnAll c known items) rest := by
  induction items generalizing known with
  | nil => rfl
  | cons a items ih =>
    rw [List.cons_append, judgeAll, ih, judgeAll, List.cons_append]
    rfl

/-- What was learned is what the history recalls. -/
theorem learnAll_eq_recollect (known : List (K × V)) (items : List α) :
    A.learnAll c known items = A.recollect c (A.judgeAll c known items) ++ known := by
  induction items generalizing known with
  | nil => rfl
  | cons a items ih =>
    have hstep : A.learnAll c known (a :: items) = A.learnAll c (A.learn c known a) items := rfl
    rw [hstep, ih, judgeAll, recollect, recollect, List.filterMap_cons, learn]
    by_cases hfresh : A.judge c known a = .fresh
    · obtain ⟨k, v, hview, -⟩ := judge_eq_fresh hfresh
      simp [hfresh, hview]
    · simp [hfresh]

omit [DecidableEq V] in
theorem firstOf_cons (k : K) (a : α) (items : List α) :
    A.firstOf c k (a :: items) = (if A.admits c a then
      (A.view c a).bind fun seen => if seen.1 = k then some seen.2 else none
    else none).or (A.firstOf c k items) := by
  rw [firstOf, List.findSome?_cons, ← firstOf]
  split
  · rename_i v hv
    rw [hv, Option.some_or]
  · rename_i hnone
    rw [hnone, Option.none_or]

/-- A key that is known stays known; otherwise its first item is learned. -/
theorem lookup_learnAll (known : List (K × V)) (items : List α) (k : K) :
    (A.learnAll c known items).lookup k = (known.lookup k).or (A.firstOf c k items) := by
  induction items generalizing known with
  | nil => simp [learnAll, firstOf]
  | cons a items ih =>
    have hstep : A.learnAll c known (a :: items) = A.learnAll c (A.learn c known a) items := rfl
    rw [hstep, ih, firstOf_cons]
    by_cases hadmits : A.admits c a = true
    · obtain ⟨k', v, hview⟩ := A.view_of_admits c a hadmits
      by_cases hk : k' = k
      · subst hk
        cases hknown : known.lookup k' with
        | none => simp [learn, judge, hadmits, hview, hknown]
        | some prior =>
          have hlearn : A.learn c known a = known := by
            unfold learn
            rw [judge_of_lookup hadmits hview hknown]
            split_ifs <;> first | rfl | contradiction
          simp [hlearn, hknown]
      · have hskip : (A.learn c known a).lookup k = known.lookup k := by
          unfold learn
          split_ifs
          · simp [hview, List.lookup_cons, beq_false_of_ne (Ne.symm hk)]
          · rfl
        simp [hskip, hadmits, hview, hk]
    · have hlearn : A.learn c known a = known := by simp [learn, judge, hadmits]
      simp [hlearn, hadmits]

omit [DecidableEq V] in
theorem lookup_recollect {history : List (α × Verdict)} {entry : α × Verdict} {k : K} {v : V}
    (hentry : entry ∈ history) (hfresh : entry.2 = .fresh)
    (hview : A.view c entry.1 = some (k, v)) :
    (A.recollect c history).lookup k ≠ none := by
  intro hnone
  have hmem : (k, v) ∈ A.recollect c history := by
    rw [recollect, List.mem_reverse, List.mem_filterMap]
    exact ⟨entry, hentry, by rw [if_pos hfresh, hview]⟩
  have hkey := List.lookup_eq_none_iff.1 hnone _ hmem
  simp at hkey

theorem view_of_fresh {items : List α} {entry : α × Verdict}
    (hentry : entry ∈ A.judgeAll c known items) (hfresh : entry.2 = .fresh) :
    ∃ k v, A.view c entry.1 = some (k, v) := by
  induction items generalizing known with
  | nil => cases hentry
  | cons a rest ih =>
    rcases List.mem_cons.1 hentry with rfl | hrest
    · obtain ⟨k, v, hview, -⟩ := judge_eq_fresh hfresh
      exact ⟨k, v, hview⟩
    · exact ih hrest

/-- Of the items of a key at most one is fresh. -/
theorem fresh_apart (items : List α) :
    (A.judgeAll c [] items).Pairwise fun earlier later =>
      earlier.2 = .fresh → later.2 = .fresh → A.key earlier.1 ≠ A.key later.1 := by
  induction items using List.reverseRecOn with
  | nil => exact List.Pairwise.nil
  | append_singleton items a ih =>
    rw [judgeAll_append, List.pairwise_append]
    refine ⟨ih, List.pairwise_singleton _ _,
      fun earlier hearlier later hlater hfresh hnew hkey => ?_⟩
    rw [judgeAll, judgeAll, List.mem_singleton] at hlater
    subst hlater
    obtain ⟨k, v, hview, hunknown, -⟩ := judge_eq_fresh hnew
    rw [learnAll_eq_recollect, List.append_nil] at hunknown
    have hkeyed : A.key earlier.1 = some k := hkey.trans (A.key_of_view _ _ _ _ hview)
    obtain ⟨k', v', hview'⟩ := view_of_fresh hearlier hfresh
    rw [A.key_of_view _ _ _ _ hview'] at hkeyed
    cases hkeyed
    exact lookup_recollect hearlier hfresh hview' hunknown

end Admission

end Timeline
