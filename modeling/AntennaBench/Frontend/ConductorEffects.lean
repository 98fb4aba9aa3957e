import AntennaBench.Conductor.ExactlyOnce

/-!
# What a conductor call does

A mutation commits a bundle only for a token of the session and at the revision of the
committed bundle, and the view it answers with is the one its new token stands for.
-/

namespace AntennaBench

variable {Bundle Event : Type} {S : CheckpointedStore Bundle Event} {same : Event → Event → Prop}

/-- The tokens a call leaves, and the view it answers with. -/
structure ConductorEffect (S : CheckpointedStore Bundle Event) (state : Conducted Bundle)
    (newToken : String)
    (result : Except SessionErrorPayload (ConductorView Bundle) × Conducted Bundle) : Prop where
  pending : ∀ action ∈ result.2.pendingActions,
    (∃ earlier ∈ state.pendingActions,
      action.token = earlier.token ∧ action.sessionId = earlier.sessionId) ∨
    action.token = newToken ∧ action.sessionId = S.sessionId result.2.committed
  view : ∀ view, result.1 = .ok view →
    view.bundle = result.2.committed ∧ view.actionToken = newToken

theorem RenewsAll.exists_token {pendingActions renewed : List PendingAction}
    (h : RenewsAll pendingActions renewed) {action : PendingAction} (haction : action ∈ renewed) :
    ∃ earlier ∈ pendingActions,
      action.token = earlier.token ∧ action.sessionId = earlier.sessionId := by
  obtain ⟨earlier, hearlier, hrenews⟩ := h.exists_earlier haction
  exact ⟨earlier, hearlier, hrenews.token, hrenews.sessionId⟩

theorem Delivers.effect {state : Conducted Bundle} {committed : Bundle}
    {pendingActions : List PendingAction} {newToken : String}
    {result : Except SessionErrorPayload (ConductorView Bundle) × Conducted Bundle}
    (h : Delivers S committed pendingActions newToken result)
    (hrenews : RenewsAll state.pendingActions pendingActions) :
    ConductorEffect S state newToken result where
  pending := by
    intro action haction
    rcases h.issues with hsame | ⟨issued, htoken, hsession, hissued⟩
    · rw [hsame] at haction
      exact .inl (hrenews.exists_token haction)
    · rw [hissued] at haction
      rcases mem_registerAction haction with hold | rfl
      · exact .inl (hrenews.exists_token hold)
      · exact .inr ⟨htoken, hsession.trans (congrArg S.sessionId h.kept.symm)⟩
  view := by
    intro view hview
    rw [h.kept]
    exact h.view view hview

variable (errorText : LivePersistenceError → String)
  (storageErrorPayload : BundleStoreError → SessionErrorPayload)

/-- What a mutation does: its tokens and its view, and a later bundle only for a token of the
session and at the revision of the committed bundle. -/
theorem mutateConductor_effect (hS : S.Lawful same) (faults : CallFaults) (state : Conducted Bundle)
    (request : ConductorMutationRequest) (now : DateTime) (newToken : String) :
    ConductorEffect S state newToken (mutateConductor errorText storageErrorPayload S faults state
        request now newToken) ∧
      ((mutateConductor errorText storageErrorPayload S faults state request now
          newToken).2.committed ≠ state.committed →
        (∃ action ∈ state.pendingActions, action.token = request.actionToken ∧
          action.sessionId = S.sessionId state.committed) ∧
        request.expectedRevision = S.revision state.committed ∧
          S.sessionId (mutateConductor errorText storageErrorPayload S faults state request now
            newToken).2.committed = S.sessionId state.committed ∧
          S.revision state.committed < S.revision (mutateConductor errorText storageErrorPayload S
            faults state request now newToken).2.committed) := by
  rcases mutateConductor_performs errorText storageErrorPayload hS faults state request now newToken
    with ⟨error, pendingActions, hrenews, hrun⟩ |
    ⟨pending, pendingActions, hresolve, hsession, hperforms⟩
  · rw [hrun]
    exact ⟨(delivers_error S _ newToken error).effect hrenews, fun hne => absurd rfl hne⟩
  · obtain ⟨hrenews, hmem, htoken, -⟩ := resolveAction_renews hresolve
    cases hperforms with
    | refused _ hdelivers =>
      exact ⟨hdelivers.effect hrenews, fun hne => absurd hdelivers.kept hne⟩
    | kept _ _ _ hdelivers =>
      exact ⟨hdelivers.effect hrenews, fun hne => absurd hdelivers.kept hne⟩
    | commits event next _ hcommits hdelivers =>
      refine ⟨hdelivers.effect hrenews, fun _ => ?_⟩
      obtain ⟨earlier, hearlier, hsameToken, hsameSession⟩ := hrenews.exists_token hmem
      rw [hdelivers.kept]
      exact ⟨⟨earlier, hearlier, hsameToken.symm.trans htoken,
        hsameSession.symm.trans hsession⟩, hcommits.expected, hcommits.session, hcommits.later⟩

end AntennaBench
