import AntennaBench.Conductor.StoreLaws

/-!
# Operator actions are applied once

A store that recognises a committed mutation gives every token at most one event.
An acknowledged call has its event in the committed bundle, as long as no request
puts another action behind the token of the last commit.
-/

namespace AntennaBench

/-- One call of `mutate_conductor` and where it fails. -/
structure ConductorCall where
  faults : CallFaults
  request : ConductorMutationRequest
  now : DateTime
  newToken : String

/-- What happens on a managed session: mutation requests, the views that issue further
tokens, and the two ways a controller uses a token. -/
inductive ConductorOp where
  | mutate (call : ConductorCall)
  | read (faults : CallFaults) (newToken : String)
  | authorize (token : String) (now : DateTime)
  | rebase (token sessionId : String) (expectedRevision committedRevision : ℕ)

/-- `rebase_action_after_controller_attempt`. -/
def rebaseAction (pendingActions : List PendingAction) (token sessionId : String)
    (expectedRevision committedRevision : ℕ) : List PendingAction :=
  match pendingActions.find? (·.token == token) with
  | none => pendingActions
  | some pending =>
    if pending.sessionId ≠ sessionId ∨ pending.expectedRevision ≠ expectedRevision then
      pendingActions
    else pendingActions.set (pendingActions.findIdx (·.token == token))
      { pending with expectedRevision := committedRevision }

/-- The token of the last commit of a run, and the action its request asked for. -/
abbrev LastAsked := Option (String × ConductorAction)

section

variable (errorText : LivePersistenceError → String)
  (storageErrorPayload : BundleStoreError → SessionErrorPayload)
  {Bundle Event : Type} (S : CheckpointedStore Bundle Event) (same : Event → Event → Prop)

def ConductorCall.run (call : ConductorCall) (state : Conducted Bundle) :
    Except SessionErrorPayload (ConductorView Bundle) × Conducted Bundle :=
  mutateConductor errorText storageErrorPayload S call.faults state call.request call.now
    call.newToken

def conduct (state : Conducted Bundle) : ConductorOp → Conducted Bundle
  | .mutate call => (call.run errorText storageErrorPayload S state).2
  | .read faults newToken => (deliverView errorText storageErrorPayload S faults state newToken).2
  | .authorize token now =>
    { state with pendingActions :=
        ((resolveAction state.pendingActions token now).map (·.2)).getD state.pendingActions }
  | .rebase token sessionId expectedRevision committedRevision =>
    { state with pendingActions :=
        rebaseAction state.pendingActions token sessionId expectedRevision committedRevision }

/-- The request that made the checkpoint name its token. -/
def lastAsked (asked : LastAsked) (state : Conducted Bundle) : ConductorOp → LastAsked
  | .mutate call =>
    let token := call.request.actionToken
    if S.lastCommittedMutationId state.committed ≠ some token ∧
        S.lastCommittedMutationId (call.run errorText storageErrorPayload S state).2.committed =
          some token then
      some (token, call.request.action)
    else asked
  | _ => asked

/-- A property of every step of a run, which may refer to what was asked for last. -/
def EveryStep (P : LastAsked → Conducted Bundle → ConductorOp → Prop) :
    LastAsked → Conducted Bundle → List ConductorOp → Prop
  | _, _, [] => True
  | asked, state, op :: rest =>
    P asked state op ∧ EveryStep P (lastAsked errorText storageErrorPayload S asked state op)
      (conduct errorText storageErrorPayload S state op) rest

/-- The event a request derives: that of its action and of the time of its token. -/
def ConductorCall.event? (call : ConductorCall) (state : Conducted Bundle) : Option Event := do
  let (pending, _) ← resolveAction state.pendingActions call.request.actionToken call.now
  (S.eventForAction state.committed pending call.request.action).toOption

/-- The bundle holds the event of the token, and it is `event`. -/
def Holds (bundle : Bundle) (token : String) (event : Event) : Prop :=
  ∃ record ∈ S.events bundle, S.mutationId record = token ∧ same record event

/-- An acknowledged call shows, and leaves committed, a bundle with the event its own
action derived. -/
def Honoured (state : Conducted Bundle) : ConductorOp → Prop
  | .mutate call => ∀ view, (call.run errorText storageErrorPayload S state).1 = .ok view →
      view.bundle = (call.run errorText storageErrorPayload S state).2.committed ∧
        ∃ event, call.event? S state = some event ∧
          Holds S same view.bundle call.request.actionToken event
  | _ => True

/-- The identity a view issues is not in use. -/
def Unused (state : Conducted Bundle) (token : String) : Prop :=
  token ∉ state.pendingActions.map (·.token) ∧
    S.lastCommittedMutationId state.committed ≠ some token

/-- A request under the token of the last commit asks for what was asked for then: its
action derives the same event. Issued tokens are new. -/
def AsksAgain (asked : LastAsked) (state : Conducted Bundle) : ConductorOp → Prop
  | .mutate call => Unused S state call.newToken ∧
      ∀ pending renewed action,
        resolveAction state.pendingActions call.request.actionToken call.now =
            some (pending, renewed) →
          asked = some (call.request.actionToken, action) →
            S.eventForAction state.committed pending call.request.action =
              S.eventForAction state.committed pending action
  | .read _ newToken => Unused S state newToken
  | _ => True

/-- A session as it is opened: its tokens differ and none of them has been committed. -/
structure Conducted.Opened (state : Conducted Bundle) : Prop where
  distinct : (state.pendingActions.map (·.token)).Nodup
  unused : ∀ pending ∈ state.pendingActions,
    S.lastCommittedMutationId state.committed ≠ some pending.token

/-- The number of committed events of a token. -/
def tokenCount (token : String) (state : Conducted Bundle) : ℕ :=
  ((S.events state.committed).map S.mutationId).count token

end

/-- An entry after a step keeps its token, its session and the time once it has one. -/
structure PendingAction.Renews (pending renewed : PendingAction) : Prop where
  token : renewed.token = pending.token
  sessionId : renewed.sessionId = pending.sessionId
  occurredAt : pending.occurredAt.isSome → renewed.occurredAt = pending.occurredAt

theorem PendingAction.Renews.refl (pending : PendingAction) : pending.Renews pending :=
  ⟨rfl, rfl, fun _ => rfl⟩

def RenewsAll : List PendingAction → List PendingAction → Prop :=
  List.Forall₂ PendingAction.Renews

theorem RenewsAll.refl (pendingActions : List PendingAction) :
    RenewsAll pendingActions pendingActions :=
  List.forall₂_same.2 fun pending _ => .refl pending

theorem RenewsAll.tokens {pendingActions renewed : List PendingAction}
    (h : RenewsAll pendingActions renewed) :
    renewed.map (·.token) = pendingActions.map (·.token) := by
  induction h with
  | nil => rfl
  | cons hfirst _ ih => rw [List.map_cons, List.map_cons, hfirst.token, ih]

theorem RenewsAll.exists_earlier {pendingActions renewed : List PendingAction}
    (h : RenewsAll pendingActions renewed) {action : PendingAction} (haction : action ∈ renewed) :
    ∃ earlier ∈ pendingActions, earlier.Renews action := by
  induction h with
  | nil => cases haction
  | cons hfirst _ ih =>
    rcases List.mem_cons.1 haction with rfl | hrest
    · exact ⟨_, List.mem_cons_self, hfirst⟩
    · obtain ⟨earlier, hearlier, hrenews⟩ := ih hrest
      exact ⟨earlier, List.mem_cons_of_mem _ hearlier, hrenews⟩

/-- The entry a token resolves to, at the time of its first use. -/
theorem resolveAction_renews {pendingActions renewed : List PendingAction} {token : String}
    {now : DateTime} {pending : PendingAction}
    (h : resolveAction pendingActions token now = some (pending, renewed)) :
    RenewsAll pendingActions renewed ∧ pending ∈ renewed ∧ pending.token = token ∧
      pending.occurredAt.isSome := by
  induction pendingActions generalizing renewed with
  | nil => cases h
  | cons first rest ih =>
    unfold resolveAction at h
    split_ifs at h with htoken
    · cases h
      refine ⟨.cons ⟨rfl, rfl, fun htime => ?_⟩ (RenewsAll.refl rest), List.mem_cons_self,
        htoken, rfl⟩
      obtain ⟨time, htime⟩ := Option.isSome_iff_exists.1 htime
      simp [htime]
    · obtain ⟨⟨found, left⟩, hfound, heq⟩ := Option.map_eq_some_iff.1 h
      cases heq
      obtain ⟨hrenews, hmem, htoken, htime⟩ := ih hfound
      exact ⟨.cons (.refl first) hrenews, List.mem_cons_of_mem _ hmem, htoken, htime⟩

theorem renewsAll_set (pendingActions : List PendingAction) (token : String)
    {pending renewed : PendingAction}
    (hfound : pendingActions.find? (·.token == token) = some pending)
    (h : pending.Renews renewed) :
    RenewsAll pendingActions
      (pendingActions.set (pendingActions.findIdx (·.token == token)) renewed) := by
  induction pendingActions with
  | nil => cases hfound
  | cons first rest ih =>
    rw [List.find?_cons] at hfound
    rw [List.findIdx_cons]
    cases hfirst : first.token == token with
    | true =>
      rw [hfirst] at hfound
      cases hfound
      exact .cons h (RenewsAll.refl rest)
    | false =>
      rw [hfirst] at hfound
      exact .cons (.refl first) (ih hfound)

theorem rebaseAction_renews (pendingActions : List PendingAction) (token sessionId : String)
    (expectedRevision committedRevision : ℕ) :
    RenewsAll pendingActions
      (rebaseAction pendingActions token sessionId expectedRevision committedRevision) := by
  unfold rebaseAction
  cases hfound : pendingActions.find? (·.token == token) with
  | none => exact .refl pendingActions
  | some pending =>
    dsimp only
    split_ifs
    · exact .refl pendingActions
    · exact renewsAll_set pendingActions token hfound ⟨rfl, rfl, fun _ => rfl⟩

/-- The end of a call leaves the tokens, or adds the new one to them. -/
def Issues (newToken sessionId : String) (pendingActions issued : List PendingAction) : Prop :=
  issued = pendingActions ∨ ∃ action : PendingAction, action.token = newToken ∧
    action.sessionId = sessionId ∧ issued = registerAction pendingActions action

theorem mem_registerAction {pendingActions : List PendingAction} {action pending : PendingAction}
    (h : pending ∈ registerAction pendingActions action) :
    pending ∈ pendingActions ∨ pending = action := by
  simpa [registerAction] using List.mem_of_mem_drop h

theorem registerAction_nodup {pendingActions : List PendingAction} {action : PendingAction}
    (h : (pendingActions.map (·.token)).Nodup)
    (hnew : action.token ∉ pendingActions.map (·.token)) :
    ((registerAction pendingActions action).map (·.token)).Nodup := by
  apply List.Nodup.sublist ((List.drop_sublist _ _).map _)
  rw [List.map_append, List.nodup_append]
  refine ⟨h, by simp, ?_⟩
  intro token htoken other hother heq
  rw [List.map_singleton, List.mem_singleton] at hother
  exact hnew (hother ▸ heq ▸ htoken)

section

variable {Bundle Event : Type} {S : CheckpointedStore Bundle Event} {same : Event → Event → Prop}

/-- What one append can do: nothing is committed, the event is there, or it is new. -/
theorem appendUnder_cases (hS : S.Lawful same) (fault : CommitFault) (committed : Bundle)
    (expectedRevision : ℕ) (mutationId : String) (event : Event) (now : DateTime) :
    (∃ error, appendUnder S fault committed expectedRevision mutationId event now =
        (.error error, committed)) ∨
      (appendUnder S fault committed expectedRevision mutationId event now =
        (.ok (), committed) ∧ Holds S same committed mutationId event) ∨
      ∃ result next,
        appendUnder S fault committed expectedRevision mutationId event now = (result, next) ∧
          S.Commits same committed expectedRevision mutationId event next := by
  unfold appendUnder
  cases hdecision : S.append committed expectedRevision mutationId event now with
  | error error => exact .inl ⟨error, rfl⟩
  | ok decision =>
    cases decision with
    | none => exact .inr (.inl ⟨rfl, hS.settled hdecision⟩)
    | some next =>
      have hcommits := hS.appended hdecision
      cases fault with
      | none => exact .inr (.inr ⟨_, next, rfl, hcommits⟩)
      | beforeReplace error => exact .inl ⟨error, rfl⟩
      | afterReplace error => exact .inr (.inr ⟨_, next, rfl, hcommits⟩)

/-- The end of a call on a committed bundle. -/
structure Delivers (S : CheckpointedStore Bundle Event) (committed : Bundle)
    (pendingActions : List PendingAction) (newToken : String)
    (result : Except SessionErrorPayload (ConductorView Bundle) × Conducted Bundle) : Prop where
  kept : result.2.committed = committed
  issues : Issues newToken (S.sessionId committed) pendingActions result.2.pendingActions
  view : ∀ view, result.1 = .ok view → view.bundle = committed ∧ view.actionToken = newToken

theorem delivers_error (S : CheckpointedStore Bundle Event) (state : Conducted Bundle)
    (newToken : String) (error : SessionErrorPayload) :
    Delivers S state.committed state.pendingActions newToken (.error error, state) where
  kept := rfl
  issues := .inl rfl
  view := nofun

variable (errorText : LivePersistenceError → String)
  (storageErrorPayload : BundleStoreError → SessionErrorPayload)

theorem deliverView_delivers (S : CheckpointedStore Bundle Event) (faults : CallFaults)
    (state : Conducted Bundle) (newToken : String) :
    Delivers S state.committed state.pendingActions newToken
      (deliverView errorText storageErrorPayload S faults state newToken) := by
  unfold deliverView
  cases faults.reread with
  | some error => exact delivers_error S state newToken _
  | none =>
    cases faults.project with
    | some error => exact delivers_error S state newToken _
    | none =>
      cases faults.deliver with
      | some error => exact ⟨rfl, .inr ⟨_, rfl, rfl, rfl⟩, nofun⟩
      | none =>
        refine ⟨rfl, .inr ⟨_, rfl, rfl, rfl⟩, fun view hview => ?_⟩
        obtain rfl := Except.ok.inj hview
        exact ⟨rfl, rfl⟩

/-- A failed append is acknowledged only where the checkpoint names the token. -/
theorem answerAppend_delivers (S : CheckpointedStore Bundle Event) (faults : CallFaults)
    (state : Conducted Bundle) (token newToken : String)
    (result : Except LivePersistenceError Unit) :
    Delivers S state.committed state.pendingActions newToken
        (answerAppend errorText storageErrorPayload S faults state token newToken result) ∧
      ∀ error view, result = .error error →
        (answerAppend errorText storageErrorPayload S faults state token newToken result).1 =
            .ok view →
          S.lastCommittedMutationId state.committed = some token := by
  cases result with
  | ok _ => exact ⟨deliverView_delivers errorText storageErrorPayload S faults state
    newToken, nofun⟩
  | error error =>
    unfold answerAppend
    dsimp only
    split_ifs with hcommitted
    · rw [Bool.and_eq_true] at hcommitted
      exact ⟨deliverView_delivers errorText storageErrorPayload S faults state newToken,
        fun _ _ _ _ => beq_iff_eq.1 hcommitted.2⟩
    · exact ⟨delivers_error S state newToken _, fun _ _ _ hview => by cases hview⟩

/-- What is behind an accepted token: the event, and what is committed of it. -/
inductive Performs (S : CheckpointedStore Bundle Event) (same : Event → Event → Prop)
    (state : Conducted Bundle) (request : ConductorMutationRequest) (pending : PendingAction)
    (newToken : String)
    (result : Except SessionErrorPayload (ConductorView Bundle) × Conducted Bundle) : Prop
  | refused : (∀ view, result.1 ≠ .ok view) →
      Delivers S state.committed state.pendingActions newToken result →
        Performs S same state request pending newToken result
  | kept (event : Event) : S.eventForAction state.committed pending request.action = .ok event →
      Holds S same state.committed pending.token event ∨
          S.lastCommittedMutationId state.committed = some pending.token →
      Delivers S state.committed state.pendingActions newToken result →
        Performs S same state request pending newToken result
  | commits (event : Event) (next : Bundle) :
      S.eventForAction state.committed pending request.action = .ok event →
      S.Commits same state.committed request.expectedRevision pending.token event next →
      Delivers S next state.pendingActions newToken result →
        Performs S same state request pending newToken result

theorem performAction_performs (hS : S.Lawful same) (faults : CallFaults) (state : Conducted Bundle)
    (request : ConductorMutationRequest) (pending : PendingAction) (now : DateTime)
    (newToken : String) :
    Performs S same state request pending newToken
      (performAction errorText storageErrorPayload S faults state request pending now
        newToken) := by
  unfold performAction
  cases hevent : S.eventForAction state.committed pending request.action with
  | error error => exact .refused nofun (delivers_error S state newToken error)
  | ok event =>
    dsimp only
    cases faults.openWriter with
    | some error => exact .refused nofun (delivers_error S state newToken _)
    | none =>
      dsimp only
      rcases appendUnder_cases hS faults.commit state.committed request.expectedRevision
        pending.token event now with ⟨error, happend⟩ | ⟨happend, hholds⟩ |
        ⟨result, next, happend, hcommits⟩
      · rw [happend]
        obtain ⟨hdelivers, hlast⟩ := answerAppend_delivers errorText storageErrorPayload S faults
          state pending.token newToken (.error error)
        by_cases hview : ∃ view, (answerAppend errorText storageErrorPayload S faults state
            pending.token newToken (.error error)).1 = .ok view
        · obtain ⟨view, hview⟩ := hview
          exact .kept event hevent (.inr (hlast error view rfl hview)) hdelivers
        · exact .refused (not_exists.1 hview) hdelivers
      · rw [happend]
        exact .kept event hevent (.inl hholds)
          (answerAppend_delivers errorText storageErrorPayload S faults state _ newToken _).1
      · rw [happend]
        exact .commits event next hevent hcommits
          (answerAppend_delivers errorText storageErrorPayload S faults
            { state with committed := next } _ newToken _).1

/-- A call is refused, or its token is one of the session and its action is performed. -/
theorem mutateConductor_performs (hS : S.Lawful same) (faults : CallFaults)
    (state : Conducted Bundle) (request : ConductorMutationRequest) (now : DateTime)
    (newToken : String) :
    (∃ error pendingActions, RenewsAll state.pendingActions pendingActions ∧
      mutateConductor errorText storageErrorPayload S faults state request now newToken =
        (.error error, { state with pendingActions })) ∨
      ∃ pending pendingActions,
        resolveAction state.pendingActions request.actionToken now =
          some (pending, pendingActions) ∧
        pending.sessionId = S.sessionId state.committed ∧
        Performs S same { state with pendingActions } request pending newToken
          (mutateConductor errorText storageErrorPayload S faults state request now newToken) := by
  unfold mutateConductor
  cases faults.admission with
  | some error => exact .inl ⟨error, _, .refl _, rfl⟩
  | none =>
    cases faults.snapshot with
    | some error => exact .inl ⟨_, _, .refl _, rfl⟩
    | none =>
      cases hresolve : resolveAction state.pendingActions request.actionToken now with
      | none => exact .inl ⟨_, _, .refl _, rfl⟩
      | some found =>
        obtain ⟨pending, pendingActions⟩ := found
        dsimp only
        split_ifs with hforeign
        · exact .inl ⟨_, pendingActions, (resolveAction_renews hresolve).1, rfl⟩
        · exact .inr ⟨pending, pendingActions, rfl, not_not.1 (not_or.1 hforeign).1,
            performAction_performs errorText storageErrorPayload hS faults
              { state with pendingActions } request pending now newToken⟩

/-- The tokens of a run differ, and the one the checkpoint names has its event there: the
event of the action that was asked for last. -/
structure Conducted.Tracks (S : CheckpointedStore Bundle Event) (same : Event → Event → Prop)
    (asked : LastAsked) (state : Conducted Bundle) : Prop where
  distinct : (state.pendingActions.map (·.token)).Nodup
  last : ∀ pending ∈ state.pendingActions,
    S.lastCommittedMutationId state.committed = some pending.token →
      pending.occurredAt.isSome ∧ ∃ action event, asked = some (pending.token, action) ∧
        S.eventForAction state.committed pending action = .ok event ∧
        Holds S same state.committed pending.token event

theorem Conducted.Opened.tracks {state : Conducted Bundle} (h : state.Opened S) :
    state.Tracks S same none where
  distinct := h.distinct
  last := fun pending hpending hlast => absurd hlast (h.unused pending hpending)

theorem Conducted.Tracks.renew (hS : S.Lawful same) {asked : LastAsked} {state : Conducted Bundle}
    (h : state.Tracks S same asked) {pendingActions : List PendingAction}
    (hrenews : RenewsAll state.pendingActions pendingActions) :
    Conducted.Tracks S same asked { state with pendingActions } where
  distinct := by
    rw [hrenews.tokens]
    exact h.distinct
  last := by
    intro pending hpending hlast
    obtain ⟨earlier, hearlier, hkept⟩ := hrenews.exists_earlier hpending
    rw [hkept.token] at hlast ⊢
    obtain ⟨htime, action, event, hasked, hevent, hholds⟩ := h.last earlier hearlier hlast
    rw [hkept.occurredAt htime]
    refine ⟨htime, action, event, hasked, ?_, hholds⟩
    rw [← hevent]
    exact hS.timed hkept.token (hkept.occurredAt htime)

theorem Conducted.Tracks.issue {asked : LastAsked} {state : Conducted Bundle}
    (h : state.Tracks S same asked) {newToken sessionId : String} {issued : List PendingAction}
    (hissues : Issues newToken sessionId state.pendingActions issued)
    (hunused : Unused S state newToken) :
    Conducted.Tracks S same asked { state with pendingActions := issued } := by
  rcases hissues with rfl | ⟨action, rfl, -, rfl⟩
  · exact h
  · refine ⟨registerAction_nodup h.distinct hunused.1, ?_⟩
    intro pending hpending hlast
    rcases mem_registerAction hpending with hold | rfl
    · exact h.last pending hold hlast
    · exact absurd hlast hunused.2

theorem Conducted.Tracks.deliver {asked : LastAsked} {state : Conducted Bundle}
    (h : state.Tracks S same asked) {newToken : String}
    {result : Except SessionErrorPayload (ConductorView Bundle) × Conducted Bundle}
    (hdelivers : Delivers S state.committed state.pendingActions newToken result)
    (hunused : Unused S state newToken) : result.2.Tracks S same asked := by
  have hissued := h.issue hdelivers.issues hunused
  rwa [← hdelivers.kept] at hissued

theorem Unused.renew {state : Conducted Bundle} {token : String} (h : Unused S state token)
    {pendingActions : List PendingAction}
    (hrenews : RenewsAll state.pendingActions pendingActions) :
    Unused S { state with pendingActions } token := by
  refine ⟨?_, h.2⟩
  rw [hrenews.tokens]
  exact h.1

theorem eq_of_token_eq {pendingActions : List PendingAction}
    (h : (pendingActions.map (·.token)).Nodup) {a b : PendingAction} (ha : a ∈ pendingActions)
    (hb : b ∈ pendingActions) (htoken : a.token = b.token) : a = b :=
  List.inj_on_of_nodup_map h ha hb htoken

/-- The event of a commit is the one of the request that is now the last. -/
theorem Conducted.Tracks.commit {asked : LastAsked} {state : Conducted Bundle}
    (h : state.Tracks S same asked) {request : ConductorMutationRequest} {pending : PendingAction}
    (hmem : pending ∈ state.pendingActions) (htime : pending.occurredAt.isSome) {event : Event}
    {next : Bundle} (hevent : S.eventForAction state.committed pending request.action = .ok event)
    (hcommits : S.Commits same state.committed request.expectedRevision pending.token event next) :
    Conducted.Tracks S same (some (pending.token, request.action))
      { state with committed := next } where
  distinct := h.distinct
  last := by
    intro other hother hlast
    obtain rfl : other = pending :=
      eq_of_token_eq h.distinct hother hmem (Option.some.inj (hlast.symm.trans hcommits.named))
    obtain ⟨record, hevents, hid, hsame⟩ := hcommits.added
    refine ⟨htime, request.action, event, rfl, ?_, record, ?_, hid, hsame⟩
    · change S.eventForAction next other request.action = _
      rw [hcommits.derives]
      exact hevent
    · rw [hevents]
      exact List.mem_append_right _ (List.mem_singleton_self record)

/-- A committed token is not the last one before its commit. -/
theorem Conducted.Tracks.last_ne {asked : LastAsked} {state : Conducted Bundle}
    (h : state.Tracks S same asked) {pending : PendingAction}
    (hmem : pending ∈ state.pendingActions) {expectedRevision : ℕ} {event : Event} {next : Bundle}
    (hcommits : S.Commits same state.committed expectedRevision pending.token event next) :
    S.lastCommittedMutationId state.committed ≠ some pending.token := by
  intro hlast
  obtain ⟨-, -, -, -, -, record, hrecord, hid, -⟩ := h.last pending hmem hlast
  exact hcommits.fresh record hrecord hid

theorem lastAsked_mutate (asked : LastAsked) (state : Conducted Bundle) (call : ConductorCall) :
    lastAsked errorText storageErrorPayload S asked state (.mutate call) =
        some (call.request.actionToken, call.request.action) ∨
      lastAsked errorText storageErrorPayload S asked state (.mutate call) = asked :=
  ite_eq_or_eq _ _ _

theorem lastAsked_of_kept {asked : LastAsked} {state : Conducted Bundle} {call : ConductorCall}
    (h : (call.run errorText storageErrorPayload S state).2.committed = state.committed) :
    lastAsked errorText storageErrorPayload S asked state (.mutate call) = asked := by
  refine if_neg fun hchange => hchange.1 ?_
  rw [← h]
  exact hchange.2

/-- A step keeps what is known of the last commit. -/
theorem conduct_tracks (hS : S.Lawful same) {asked : LastAsked} {state : Conducted Bundle}
    (h : state.Tracks S same asked) {op : ConductorOp} (hasks : AsksAgain S asked state op) :
    (conduct errorText storageErrorPayload S state op).Tracks S same
      (lastAsked errorText storageErrorPayload S asked state op) := by
  cases op with
  | read faults newToken =>
    exact h.deliver (deliverView_delivers errorText storageErrorPayload S faults state
      newToken) hasks
  | authorize token now =>
    apply h.renew hS
    cases hresolve : resolveAction state.pendingActions token now with
    | none => exact RenewsAll.refl _
    | some found => exact (resolveAction_renews hresolve).1
  | rebase token sessionId expectedRevision committedRevision =>
    exact h.renew hS (rebaseAction_renews state.pendingActions token sessionId expectedRevision
      committedRevision)
  | mutate call =>
    have hcall := mutateConductor_performs errorText storageErrorPayload hS call.faults state
      call.request call.now call.newToken
    change Conducted.Tracks S same _ (call.run errorText storageErrorPayload S state).2
    rcases hcall with ⟨error, pendingActions, hrenews, hrun⟩ |
      ⟨pending, pendingActions, hresolve, -, hperforms⟩
    · have hkept := h.renew hS hrenews
      rw [lastAsked_of_kept errorText storageErrorPayload (congrArg (·.2.committed) hrun)]
      change Conducted.Tracks S same asked (mutateConductor errorText storageErrorPayload S
        call.faults state call.request call.now call.newToken).2
      rw [hrun]
      exact hkept
    · obtain ⟨hrenews, hmem, htoken, htime⟩ := resolveAction_renews hresolve
      have hkept := h.renew hS hrenews
      have hunused := hasks.1.renew hrenews
      have hnothing : Delivers S state.committed pendingActions call.newToken
            (call.run errorText storageErrorPayload S state) →
          Conducted.Tracks S same
            (lastAsked errorText storageErrorPayload S asked state (.mutate call))
            (call.run errorText storageErrorPayload S state).2 := by
        intro hdelivers
        rw [lastAsked_of_kept errorText storageErrorPayload hdelivers.kept]
        exact hkept.deliver hdelivers hunused
      cases hperforms with
      | refused _ hdelivers => exact hnothing hdelivers
      | kept event hevent hcase hdelivers => exact hnothing hdelivers
      | commits event next hevent hcommits hdelivers =>
        have hnext := hkept.commit hmem htime hevent hcommits
        have hne := hkept.last_ne hmem hcommits
        have hlast : lastAsked errorText storageErrorPayload S asked state (.mutate call) =
            some (pending.token, call.request.action) := by
          rw [htoken] at hne ⊢
          unfold lastAsked
          refine if_pos ⟨hne, ?_⟩
          refine (congrArg S.lastCommittedMutationId hdelivers.kept).trans ?_
          rw [hcommits.named, htoken]
        have hfresh : Unused S ({ committed := next, pendingActions } : Conducted Bundle)
            call.newToken := by
          refine ⟨hunused.1, fun heq => hunused.1 ?_⟩
          rw [← Option.some.inj (hcommits.named.symm.trans heq)]
          exact List.mem_map_of_mem hmem
        rw [hlast]
        exact hnext.deliver hdelivers hfresh

theorem honoured_of_asksAgain (hS : S.Lawful same) {asked : LastAsked} {state : Conducted Bundle}
    (htracks : state.Tracks S same asked) {op : ConductorOp} (h : AsksAgain S asked state op) :
    Honoured errorText storageErrorPayload S same state op := by
  cases op with
  | mutate call =>
    intro view hview
    rcases mutateConductor_performs errorText storageErrorPayload hS call.faults state call.request
      call.now call.newToken with ⟨error, pendingActions, -, hrun⟩ |
      ⟨pending, pendingActions, hresolve, -, hperforms⟩
    · cases hview.symm.trans (congrArg (·.1) hrun)
    · have htoken := (resolveAction_renews hresolve).2.2.1
      have hderives : ∀ event, S.eventForAction state.committed pending call.request.action =
          .ok event → call.event? S state = some event := by
        intro event hevent
        simp [ConductorCall.event?, hresolve, hevent, Except.toOption]
      cases hperforms with
      | refused hnone hdelivers => exact absurd hview (hnone view)
      | kept event hevent hcase hdelivers =>
        rw [(hdelivers.view view hview).1]
        refine ⟨hdelivers.kept.symm, event, hderives event hevent, ?_⟩
        rw [← htoken]
        rcases hcase with hholds | hlast
        · exact hholds
        · obtain ⟨-, hmem, -, -⟩ := resolveAction_renews hresolve
          obtain ⟨-, action, earlier, hasked, hearlier, hholds⟩ :=
            (htracks.renew hS (resolveAction_renews hresolve).1).last pending hmem hlast
          have hsame := h.2 pending pendingActions action hresolve (htoken ▸ hasked)
          obtain rfl : event = earlier :=
            Except.ok.inj (hevent.symm.trans (hsame.trans hearlier))
          exact hholds
      | commits event next hevent hcommits hdelivers =>
        rw [(hdelivers.view view hview).1]
        obtain ⟨record, hevents, hid, hsame⟩ := hcommits.added
        refine ⟨hdelivers.kept.symm, event, hderives event hevent, record, ?_, hid.trans htoken,
          hsame⟩
        rw [hevents]
        exact List.mem_append_right _ (List.mem_singleton_self record)
  | read faults newToken => trivial
  | authorize token now => trivial
  | rebase token sessionId expectedRevision committedRevision => trivial

/-- No step takes an event away, and none adds a second event to a token. -/
theorem conduct_tokenCount (hS : S.Lawful same) (state : Conducted Bundle) (op : ConductorOp)
    (token : String) :
    tokenCount S token (conduct errorText storageErrorPayload S state op) ≤
      max 1 (tokenCount S token state) := by
  cases op with
  | mutate call =>
    have hcall := mutateConductor_performs errorText storageErrorPayload hS call.faults state
      call.request call.now call.newToken
    have hkept : (call.run errorText storageErrorPayload S state).2.committed = state.committed →
        tokenCount S token (conduct errorText storageErrorPayload S state (.mutate call)) ≤
          max 1 (tokenCount S token state) := by
      intro hcommitted
      unfold tokenCount conduct
      rw [hcommitted]
      exact le_max_right _ _
    rcases hcall with ⟨error, pendingActions, -, hrun⟩ | ⟨pending, pendingActions, -, -, hperforms⟩
    · exact hkept (congrArg (·.2.committed) hrun)
    · cases hperforms with
      | refused _ hdelivers => exact hkept hdelivers.kept
      | kept _ _ _ hdelivers => exact hkept hdelivers.kept
      | commits event next hevent hcommits hdelivers =>
        obtain ⟨record, hevents, hid, -⟩ := hcommits.added
        unfold tokenCount conduct
        rw [show (call.run errorText storageErrorPayload S state).2.committed = next from
          hdelivers.kept, hevents, List.map_append, List.count_append, List.map_singleton,
          List.count_singleton, hid]
        by_cases htoken : pending.token = token
        · have hnone : ((S.events state.committed).map S.mutationId).count token = 0 := by
            rw [List.count_eq_zero]
            intro hmem
            obtain ⟨earlier, hearlier, heq⟩ := List.mem_map.1 hmem
            exact hcommits.fresh earlier hearlier (heq.trans htoken.symm)
          simp [hnone, htoken]
        · have hbeq : (pending.token == token) = false := by simpa using htoken
          simp [hbeq]
  | read faults newToken =>
    unfold tokenCount conduct
    rw [(deliverView_delivers errorText storageErrorPayload S faults state newToken).kept]
    exact le_max_right _ _
  | authorize token' now => exact le_max_right _ _
  | rebase token' sessionId expectedRevision committedRevision => exact le_max_right _ _

theorem honoured_run (hS : S.Lawful same) {ops : List ConductorOp} {asked : LastAsked}
    {state : Conducted Bundle} (htracks : state.Tracks S same asked)
    (h : EveryStep errorText storageErrorPayload S (AsksAgain S) asked state ops) :
    EveryStep errorText storageErrorPayload S
      (fun _ => Honoured errorText storageErrorPayload S same) asked state ops := by
  induction ops generalizing asked state with
  | nil => trivial
  | cons op rest ih =>
    exact ⟨honoured_of_asksAgain errorText storageErrorPayload hS htracks h.1,
      ih (conduct_tracks errorText storageErrorPayload hS htracks h.1) h.2⟩

theorem tokenCount_run (hS : S.Lawful same) (ops : List ConductorOp) (state : Conducted Bundle)
    (token : String) :
    tokenCount S token (ops.foldl (conduct errorText storageErrorPayload S) state) ≤
      max 1 (tokenCount S token state) := by
  induction ops generalizing state with
  | nil => exact le_max_right _ _
  | cons op rest ih =>
    have hstep := conduct_tokenCount errorText storageErrorPayload hS state op token
    exact (ih _).trans (by omega)

end

/-- No run commits a second event for a token, and in every run that asks under the token of
the last commit only for what was asked for then, every acknowledged call is honoured. -/
def ExactlyOnce {Bundle Event : Type} (errorText : LivePersistenceError → String)
    (storageErrorPayload : BundleStoreError → SessionErrorPayload)
    (S : CheckpointedStore Bundle Event) (same : Event → Event → Prop) : Prop :=
  ∀ state ops,
    (state.Opened S → EveryStep errorText storageErrorPayload S (AsksAgain S) none state ops →
      EveryStep errorText storageErrorPayload S
        (fun _ => Honoured errorText storageErrorPayload S same) none state ops) ∧
    ∀ token, tokenCount S token (ops.foldl (conduct errorText storageErrorPayload S) state) ≤
      max 1 (tokenCount S token state)

theorem mutateConductor_exactlyOnce (errorText : LivePersistenceError → String)
    (storageErrorPayload : BundleStoreError → SessionErrorPayload) (packageVersion : String)
    (profile : BundleResourceProfile) (E : Env) (strictReport : BundleContents → List String)
    (checkpointHeads : BundleV2Contents →
      Except LivePersistenceError (List (String × StreamCheckpointV2)))
    (context : Option RuntimeContextV6) (paths : ResolvedBundlePathsV2) :
    ExactlyOnce errorText storageErrorPayload
        (storeV2 packageVersion profile E strictReport checkpointHeads) SameActionV2 ∧
      ExactlyOnce errorText storageErrorPayload (storeV3 packageVersion profile E context paths)
        SameActionV3 := by
  have hv2 := storeV2_lawful packageVersion profile E strictReport checkpointHeads
  have hv3 := storeV3_lawful packageVersion profile E context paths
  constructor
  · intro state ops
    exact ⟨fun hopened => honoured_run errorText storageErrorPayload hv2 hopened.tracks,
      tokenCount_run errorText storageErrorPayload hv2 ops state⟩
  · intro state ops
    exact ⟨fun hopened => honoured_run errorText storageErrorPayload hv3 hopened.tracks,
      tokenCount_run errorText storageErrorPayload hv3 ops state⟩

namespace Scenario

def readyBundle : BundleV3Contents :=
  { correctedBundle with
    sessionState := { correctedBundle.sessionState with lifecycle := .ready }
    schedule := ⟨3, "s1", .wholeStationAb, .dx, none, [], [], []⟩
    events := [] }

def noFaults : CallFaults := ⟨none, none, none, .none, none, none, none, none⟩

def plainText (_ : LivePersistenceError) : String := "live persistence failed"

def plainPayload (_ : BundleStoreError) : SessionErrorPayload where
  kind := .filesystem
  message := "The session bundle could not be read."
  detail := "store"

def conductorStore : CheckpointedStore BundleV3Contents OperatorEventV3 :=
  storeV3 "0.1.0" localStandardV1 (env unknown) none session.paths

/-- A view has issued the token t1 for the ready session. -/
def issued : Conducted BundleV3Contents := ⟨readyBundle, [⟨"t1", "s1", 0, none⟩]⟩

def startCall : ConductorCall := ⟨noFaults, ⟨"t1", 0, .start none⟩, noon 60, "t2"⟩

/-- The start is committed, and its answer gets lost. -/
def lostCall : ConductorCall :=
  ⟨{ noFaults with
      commit := .afterReplace (.io "synchronize checkpoint" none)
      recheck := some (.io "read checkpoint" none) },
    ⟨"t1", 0, .start none⟩, noon 60, "t2"⟩

/-- The start is asked for again under its token. -/
def retryCall : ConductorCall := ⟨noFaults, ⟨"t1", 0, .start none⟩, noon 90, "t3"⟩

/-- The same token with another action. -/
def endCall : ConductorCall := ⟨noFaults, ⟨"t1", 0, .finish none⟩, noon 120, "t3"⟩

def started : Conducted BundleV3Contents :=
  conduct plainText plainPayload conductorStore issued (.mutate startCall)

def isStart : OperatorEventPayloadV3 → Bool
  | .sessionStarted _ => true
  | _ => false

def isEnd : OperatorEventPayloadV3 → Bool
  | .sessionEnded _ => true
  | _ => false

/-- The end of the session is acknowledged, and only its start is committed. -/
theorem endCall_acknowledged :
    ((endCall.run plainText plainPayload conductorStore started).1.toOption.any fun view =>
      view.bundle.events.all fun record => isStart record.payload &&
        (endCall.event? conductorStore started).all fun event =>
          isEnd event.payload && !sameV3EventBusinessValue record event) = true := by
  decide +kernel

theorem endCall_swallowed :
    ¬Honoured plainText plainPayload conductorStore SameActionV3 started (.mutate endCall) := by
  intro h
  obtain ⟨view, hview, hall⟩ := exists_ok_of_any endCall_acknowledged
  obtain ⟨-, event, hevent, record, hrecord, -, hsame⟩ := h view hview
  have hboth := List.all_eq_true.1 hall record hrecord
  rw [hevent, Option.all_some, Bool.and_eq_true, Bool.and_eq_true, Bool.not_eq_true'] at hboth
  obtain ⟨hstart, hend, hdiffer⟩ := hboth
  rcases hsame with hsame | hsame
  · have hpayload : record.payload = event.payload := by rw [hsame]
    rw [hpayload] at hstart
    cases hcase : event.payload <;> simp [hcase, isStart, isEnd] at hstart hend
  · rw [hdiffer] at hsame
    cases hsame

/-- The lost call is answered with an error, its retry is acknowledged. -/
theorem retryCall_acknowledged :
    ((lostCall.run plainText plainPayload conductorStore issued).1.toOption.isNone &&
      (retryCall.run plainText plainPayload conductorStore
        (lostCall.run plainText plainPayload conductorStore issued).2).1.toOption.isSome) =
          true := by
  decide +kernel

theorem issued_opened : issued.Opened conductorStore where
  distinct := by simp [issued]
  unused := by
    intro pending hpending
    obtain rfl := List.mem_singleton.1 hpending
    decide +kernel

theorem retryCall_exactlyOnce :
    (retryCall.run plainText plainPayload conductorStore
        (lostCall.run plainText plainPayload conductorStore issued).2).1.toOption.isSome ∧
      EveryStep plainText plainPayload conductorStore
        (fun _ => Honoured plainText plainPayload conductorStore SameActionV3) none issued
        [.mutate lostCall, .mutate retryCall] := by
  have hacknowledged := retryCall_acknowledged
  rw [Bool.and_eq_true] at hacknowledged
  refine ⟨hacknowledged.2, ?_⟩
  refine ((mutateConductor_exactlyOnce plainText plainPayload "0.1.0" localStandardV1
    (env unknown) (fun _ => []) (fun _ => .ok []) none session.paths).2 issued
      [.mutate lostCall, .mutate retryCall]).1 issued_opened ⟨⟨?_, ?_⟩, ⟨?_, ?_⟩, trivial⟩
  · unfold Unused
    decide +kernel
  · intro pending renewed action _ hasked
    cases hasked
  · unfold Unused
    decide +kernel
  · intro pending renewed action _ hasked
    rcases lastAsked_mutate plainText plainPayload none issued lostCall with hlast | hlast
    · cases hlast.symm.trans hasked
      rfl
    · cases hlast.symm.trans hasked

end Scenario

end AntennaBench
