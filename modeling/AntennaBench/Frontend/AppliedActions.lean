import AntennaBench.Frontend.ActiveRun
import AntennaBench.Frontend.ConductorEffects
import AntennaBench.Frontend.DisplayedViews
import AntennaBench.Frontend.Dialogs

/-!
# Actions apply to what was shown

A request of the front end changes the committed bundle only where the view it was sent from
shows that bundle. The token of the request names the session of the view, the writer takes a
request only at its own revision, and a session has one bundle for each revision. An abort may
follow the attempt of an antenna controller that was stopped for it.
-/

namespace AntennaBench

open Timeline

section

variable {Bundle Event : Type} (errorText : LivePersistenceError → String)
  (storageErrorPayload : BundleStoreError → SessionErrorPayload)
  (schema : ConductedSchema Bundle Event) {same : Event → Event → Prop}

/-- The view was issued with its token, for a bundle it shows. -/
def ConductedSchema.Issued (issued : List (String × Bundle)) (view : ConductorResponse) : Prop :=
  ∃ bundle, (view.actionToken, bundle) ∈ issued ∧ schema.Shows view bundle

/-- The bundle of the attempt an abort was stopped for: it follows the revision of the request
in the session of the request's token, and its checkpoint names the attempt. -/
structure SentMutation.FollowsAttempt (history : List Bundle) (issued : List (String × Bundle))
    (mutation : SentMutation) (commit : AttemptCommit) : Prop where
  abandons : mutation.request.action.isAbandon = true
  expected : commit.expectedRevision = mutation.request.expectedRevision
  committed : ∃ bundle after, (mutation.request.actionToken, bundle) ∈ issued ∧ after ∈ history ∧
    schema.store.sessionId after = schema.store.sessionId bundle ∧
    schema.store.revision after = commit.committedRevision ∧
    schema.store.lastCommittedMutationId after = some commit.mutationId

/-- An abort that waits or is admitted. -/
def InFlight.StagedSoundly (history : List Bundle) (issued : List (String × Bundle))
    (inFlight : InFlight) : Prop :=
  ∀ mutation, inFlight.call = .mutateConductor mutation →
    (∀ sessionId, inFlight.stage = .stopping sessionId → mutation.request.action.isAbandon = true) ∧
      ∀ commit, inFlight.stage = .admitted (some commit) →
        mutation.FollowsAttempt schema history issued commit

/-- What holds in every state of a desktop. -/
structure ActiveRun.Consistent (run : ActiveRun Bundle) : Prop where
  sound : run.controller.Sound
  versioned : Versioned schema.store.sessionId schema.store.revision run.history
    run.conducted.committed
  tokens : (run.issued.map (·.1)).Nodup
  issued : ∀ entry ∈ run.issued, entry.2 ∈ run.history
  pending : ∀ action ∈ run.conducted.pendingActions, ∃ bundle, (action.token, bundle) ∈ run.issued ∧
    schema.store.sessionId bundle = action.sessionId
  views : run.controller.ShowsOnly (schema.Issued run.issued)
  staged : ∀ inFlight ∈ run.controller.calls,
    inFlight.StagedSoundly schema run.history run.issued

variable {schema} {run : ActiveRun Bundle}

theorem mem_modify {α : Type} {items : List α} {index : ℕ} {f : α → α} {item : α}
    (h : item ∈ items.modify index f) :
    item ∈ items ∨ ∃ earlier, items[index]? = some earlier ∧ item = f earlier := by
  obtain ⟨position, hposition⟩ := List.mem_iff_getElem?.1 h
  rw [List.getElem?_modify] at hposition
  obtain ⟨earlier, hearlier, heq⟩ := Option.map_eq_some_iff.1 hposition
  split_ifs at heq with hindex
  · subst hindex
    exact .inr ⟨earlier, hearlier, heq.symm⟩
  · obtain rfl : earlier = item := heq
    exact .inl (List.mem_of_getElem? hearlier)

section

variable {controller : DesktopController} {inFlight : InFlight}

theorem mem_invoke {call : FrontendCall} (h : inFlight ∈ (controller.invoke call).calls) :
    inFlight ∈ controller.calls ∨ inFlight.stage = .sent := by
  rcases List.mem_append.1 h with hold | hnew
  · exact .inl hold
  · rw [List.mem_singleton.1 hnew]
    exact .inr rfl

/-- An action sends a call or leaves the calls as they are. -/
theorem mem_act {action : UserAction} (h : inFlight ∈ (controller.act action).calls) :
    inFlight ∈ controller.calls ∨ inFlight.stage = .sent := by
  cases action with
  | selectWorkflow workflow => exact .inl h
  | refreshConductor silent =>
    change inFlight ∈ (controller.refreshConductor silent).calls at h
    unfold DesktopController.refreshConductor at h
    split_ifs at h
    · exact .inl h
    · exact mem_invoke h
    · exact mem_invoke h
  | submitConductorAction action =>
    change inFlight ∈ (controller.submitConductorAction action).calls at h
    unfold DesktopController.submitConductorAction at h
    split at h
    · exact .inl h
    · split_ifs at h
      · exact .inl h
      · exact mem_invoke h
  | requestSkipCycle => exact .inl h
  | cancelSkipCycle => exact .inl h
  | submitSkipCycle reason =>
    change inFlight ∈ (controller.submitSkipCycle reason).calls at h
    unfold DesktopController.submitSkipCycle at h
    split at h
    · exact .inl h
    · split_ifs at h
      · exact .inl h
      · exact mem_invoke h
  | requestAbortRun => exact .inl h
  | cancelAbortRun => exact .inl h
  | submitAbortRun reason =>
    change inFlight ∈ (controller.submitAbortRun reason).calls at h
    unfold DesktopController.submitAbortRun at h
    split at h
    · exact .inl h
    · split_ifs at h
      · exact .inl h
      · exact mem_invoke h
  | openSession =>
    change inFlight ∈ controller.openSession.calls at h
    unfold DesktopController.openSession at h
    split_ifs at h
    · exact .inl h
    · exact mem_invoke h
  | createSession => exact mem_invoke h
  | queryStatus => exact mem_invoke h
  | showSession session openStatus => exact .inl h

theorem complete_calls (call : FrontendCall) (answer : FrontendAnswer) :
    (controller.complete call answer).calls = controller.calls := by
  cases call <;> cases answer <;> rfl

theorem mem_deliver {index : ℕ} {answer : FrontendAnswer}
    (h : inFlight ∈ (controller.deliver index answer).calls) : inFlight ∈ controller.calls := by
  unfold DesktopController.deliver at h
  split at h
  · exact h
  · rw [complete_calls] at h
    exact List.mem_of_mem_eraseIdx h

theorem stagedSoundly_sent {history : List Bundle} {issued : List (String × Bundle)}
    (h : inFlight.stage = .sent) : inFlight.StagedSoundly schema history issued := by
  intro mutation _
  rw [h]
  exact ⟨nofun, nofun⟩

theorem InFlight.StagedSoundly.mono {history history' : List Bundle}
    {issued issued' : List (String × Bundle)} (h : inFlight.StagedSoundly schema history issued)
    (hhistory : history ⊆ history') (hissued : issued ⊆ issued') :
    inFlight.StagedSoundly schema history' issued' := by
  intro mutation hcall
  refine ⟨(h mutation hcall).1, fun commit hstage => ?_⟩
  obtain ⟨habandons, hexpected, bundle, after, hbundle, hafter, hfacts⟩ :=
    (h mutation hcall).2 commit hstage
  exact ⟨habandons, hexpected, bundle, after, hissued hbundle, hhistory hafter, hfacts⟩

end

namespace ActiveRun

theorem Consistent.setStage (h : run.Consistent schema) {index : ℕ} {stage : CallStage}
    (hstage : stage.ShowsOnly (schema.Issued run.issued))
    (hstaged : ∀ call, (∃ earlier, run.controller.calls[index]? = some ⟨call, earlier⟩) →
      InFlight.StagedSoundly schema run.history run.issued ⟨call, stage⟩) :
    (run.setStage index stage).Consistent schema where
  sound := by
    refine ⟨h.sound.dialogs, ?_⟩
    intro inFlight hmem
    rcases mem_modify hmem with hold | ⟨earlier, hearlier, rfl⟩
    · exact h.sound.calls inFlight hold
    · exact h.sound.calls earlier (List.mem_of_getElem? hearlier)
  versioned := h.versioned
  tokens := h.tokens
  issued := h.issued
  pending := h.pending
  views := by
    refine ⟨h.views.state, ?_, ?_⟩
    · intro inFlight hmem
      rcases mem_modify hmem with hold | ⟨earlier, hearlier, rfl⟩
      · exact h.views.calls inFlight hold
      · exact h.views.calls earlier (List.mem_of_getElem? hearlier)
    · intro inFlight hmem
      rcases mem_modify hmem with hold | ⟨earlier, hearlier, rfl⟩
      · exact h.views.stages inFlight hold
      · exact hstage
  staged := by
    intro inFlight hmem
    rcases mem_modify hmem with hold | ⟨earlier, hearlier, rfl⟩
    · exact h.staged inFlight hold
    · exact hstaged earlier.call ⟨earlier.stage, hearlier⟩

/-- Answers leave nothing of an abort. -/
theorem stagedSoundly_answered (history : List Bundle) (issued : List (String × Bundle))
    (call : FrontendCall) (answer : FrontendAnswer) :
    InFlight.StagedSoundly schema history issued ⟨call, .answered answer⟩ :=
  fun _ _ => ⟨nofun, nofun⟩

theorem Consistent.answer (h : run.Consistent schema) (index : ℕ) {answer : FrontendAnswer}
    (hanswer : answer.ShowsOnly (schema.Issued run.issued)) :
    (run.setStage index (.answered answer)).Consistent schema :=
  h.setStage hanswer fun call _ => stagedSoundly_answered _ _ call answer

theorem Consistent.refuse (h : run.Consistent schema) (index : ℕ) (error : SessionErrorPayload) :
    (run.refuse index error).Consistent schema := by
  apply h.answer
  trivial

theorem Consistent.withPending (h : run.Consistent schema) {pendingActions : List PendingAction}
    (hrenews : ∀ action ∈ pendingActions, ∃ earlier ∈ run.conducted.pendingActions,
      action.token = earlier.token ∧ action.sessionId = earlier.sessionId) :
    (run.withPending pendingActions).Consistent schema where
  sound := h.sound
  versioned := h.versioned
  tokens := h.tokens
  issued := h.issued
  pending := by
    intro action haction
    obtain ⟨earlier, hearlier, htoken, hsession⟩ := hrenews action haction
    obtain ⟨bundle, hissued, hbundle⟩ := h.pending earlier hearlier
    exact ⟨bundle, htoken ▸ hissued, hbundle.trans hsession.symm⟩
  views := h.views
  staged := h.staged

theorem Consistent.commitBundle (h : run.Consistent schema) {next : Bundle}
    (hnext : run.Continues schema next) : (run.commitBundle next).Consistent schema where
  sound := h.sound
  versioned := h.versioned.push hnext
  tokens := h.tokens
  issued := fun entry hentry => List.mem_append_left _ (h.issued entry hentry)
  pending := h.pending
  views := h.views
  staged := fun inFlight hmem =>
    (h.staged inFlight hmem).mono (List.subset_append_left _ _) (List.Subset.refl _)

theorem Consistent.answered (h : run.Consistent schema) (index : ℕ) (now : DateTime)
    {newToken : String}
    {result : Except SessionErrorPayload (ConductorView Bundle) × Conducted Bundle}
    (heffect : ConductorEffect schema.store run.conducted newToken result)
    (hnext : run.Continues schema result.2.committed) (hfresh : newToken ∉ run.issued.map (·.1)) :
    (run.answered schema index now newToken result).Consistent schema := by
  have hissues : ∀ view, schema.Issued run.issued view →
      schema.Issued (run.issued ++ [(newToken, result.2.committed)]) view := by
    rintro view ⟨bundle, hissued, hshows⟩
    exact ⟨bundle, List.mem_append_left _ hissued, hshows⟩
  have hlast : (newToken, result.2.committed) ∈ run.issued ++ [(newToken, result.2.committed)] :=
    List.mem_append_right _ (List.mem_singleton_self _)
  have hrun : ({ run with
      conducted := result.2
      history := run.history ++ [result.2.committed]
      issued := run.issued ++ [(newToken, result.2.committed)] } : ActiveRun Bundle).Consistent
      schema := by
    constructor
    · exact h.sound
    · exact h.versioned.push hnext
    · rw [List.map_append, List.nodup_append]
      refine ⟨h.tokens, List.nodup_singleton _, ?_⟩
      intro token htoken other hother
      obtain rfl := List.mem_singleton.1 hother
      exact ne_of_mem_of_not_mem htoken hfresh
    · intro entry hentry
      rcases List.mem_append.1 hentry with hold | hnew
      · exact List.mem_append_left _ (h.issued entry hold)
      · obtain rfl := List.mem_singleton.1 hnew
        exact List.mem_append_right _ (List.mem_singleton_self _)
    · intro action haction
      rcases heffect.pending action haction with
        ⟨earlier, hearlier, htoken, hsession⟩ | ⟨htoken, hsession⟩
      · obtain ⟨bundle, hissued, hbundle⟩ := h.pending earlier hearlier
        exact ⟨bundle, List.mem_append_left _ (htoken ▸ hissued), hbundle.trans hsession.symm⟩
      · exact ⟨result.2.committed, htoken ▸ hlast, hsession.symm⟩
    · exact h.views.mono hissues
    · exact fun inFlight hmem => (h.staged inFlight hmem).mono (List.subset_append_left _ _)
        (List.subset_append_left _ _)
  apply hrun.answer index
  cases hresult : result.1 with
  | error error => trivial
  | ok view =>
    obtain ⟨hbundle, htoken⟩ := heffect.view view hresult
    unfold ConductedSchema.answer
    dsimp only
    rw [hbundle, htoken]
    exact ⟨result.2.committed, hlast, rfl, rfl, rfl, rfl⟩

/-- The committed bundle continues its own history. -/
theorem Consistent.continues_same (h : run.Consistent schema) {next : Bundle}
    (hnext : next = run.conducted.committed) : run.Continues schema next :=
  hnext ▸ h.versioned.latest

theorem Consistent.readConductor (h : run.Consistent schema) (index : ℕ) (faults : CallFaults)
    (now : DateTime) {newToken : String} (hfresh : newToken ∉ run.issued.map (·.1)) :
    (run.readConductor errorText storageErrorPayload schema index faults now
      newToken).Consistent schema := by
  unfold ActiveRun.readConductor
  split
  · apply h.answered index now
    · exact (deliverView_delivers errorText storageErrorPayload schema.store faults run.conducted
        newToken).effect (.refl _)
    · exact h.continues_same (deliverView_delivers errorText storageErrorPayload schema.store faults
        run.conducted newToken).kept
    · exact hfresh
  · exact h

theorem Consistent.admitAbort (h : run.Consistent schema) (index : ℕ) (now : DateTime) :
    (run.admitAbort schema index now).Consistent schema := by
  unfold ActiveRun.admitAbort
  split
  · rename_i mutation hcall
    dsimp only
    split_ifs with habandon hrevision
    · exact h
    · exact h.refuse index _
    · cases hresolve : resolveAction run.conducted.pendingActions mutation.request.actionToken
        now with
      | none => exact h.refuse index _
      | some found =>
        have hpending := h.withPending
          fun action haction => (resolveAction_renews hresolve).1.exists_token haction
        dsimp only
        split_ifs with hforeign
        · exact hpending.refuse index _
        · apply hpending.setStage
          · trivial
          · rintro call ⟨earlier, hearlier⟩ other hother
            have hsame : (⟨call, earlier⟩ : InFlight) = ⟨.mutateConductor mutation, .sent⟩ :=
              Option.some.inj (hearlier.symm.trans hcall)
            cases hsame
            cases hother
            refine ⟨?_, nofun⟩
            intro _ _
            simpa using habandon
  · exact h

theorem stored_eq_some {sessionId : String} {after : Bundle}
    (h : run.stored schema sessionId = some after) :
    after ∈ run.history ∧ schema.store.sessionId after = sessionId := by
  refine ⟨List.mem_reverse.1 (List.mem_of_find?_eq_some h), ?_⟩
  simpa using List.find?_some h

theorem Consistent.settleAbort (h : run.Consistent schema) (index : ℕ)
    (commit : Option AttemptCommit) : (run.settleAbort schema index commit).Consistent schema := by
  unfold ActiveRun.settleAbort
  split
  · rename_i mutation sessionId hcall
    have habandon : mutation.request.action.isAbandon = true :=
      (h.staged _ (List.mem_of_getElem? hcall) mutation rfl).1 sessionId rfl
    have hadmitted : ∀ {attempt : Option AttemptCommit}, (∀ commit, attempt = some commit →
          mutation.FollowsAttempt schema run.history run.issued commit) →
        ∀ call, (∃ earlier, run.controller.calls[index]? = some ⟨call, earlier⟩) →
          InFlight.StagedSoundly schema run.history run.issued ⟨call, .admitted attempt⟩ := by
      rintro attempt hfollows call ⟨earlier, hearlier⟩ other hother
      have hsame : (⟨call, earlier⟩ : InFlight) =
          ⟨.mutateConductor mutation, .stopping sessionId⟩ :=
        Option.some.inj (hearlier.symm.trans hcall)
      cases hsame
      cases hother
      exact ⟨nofun, fun commit hstage => hfollows commit (CallStage.admitted.inj hstage)⟩
    cases commit with
    | none => exact h.setStage trivial (hadmitted nofun)
    | some commit =>
      cases hstored : run.stored schema sessionId with
      | none => exact h.refuse index _
      | some after =>
        dsimp only
        split_ifs with hovertaken
        · exact h.refuse index _
        · simp only [not_or, not_not] at hovertaken
          obtain ⟨hexpected, hcommitted, hnamed⟩ := hovertaken
          obtain ⟨hafter, hafterSession⟩ := stored_eq_some hstored
          unfold ActiveRun.rebaseAbort
          cases hfound : run.conducted.pendingActions.find?
              (·.token == mutation.request.actionToken) with
          | none => exact h.refuse index _
          | some pending =>
            dsimp only
            split_ifs with hforeign
            · exact h.refuse index _
            · obtain ⟨bundle, hissued, hbundle⟩ :=
                h.pending pending (List.mem_of_find?_eq_some hfound)
              have htoken : pending.token = mutation.request.actionToken := by
                simpa using List.find?_some hfound
              have hsession : pending.sessionId = sessionId := not_not.1 (not_or.1 hforeign).1
              have hfollows : mutation.FollowsAttempt schema run.history run.issued commit :=
                ⟨habandon, hexpected, bundle, after, htoken ▸ hissued, hafter,
                  hafterSession.trans (hsession.symm.trans hbundle.symm), hcommitted.symm, hnamed⟩
              apply (h.withPending fun action haction =>
                (rebaseAction_renews _ _ _ _ _).exists_token haction).setStage
              · trivial
              · apply hadmitted
                rintro _ ⟨⟩
                exact hfollows
  · exact h

/-- A mutation commits nothing or a later bundle of the session. -/
theorem Consistent.mutate_continues (h : run.Consistent schema) (hS : schema.store.Lawful same)
    (faults : CallFaults) (request : ConductorMutationRequest) (now : DateTime)
    (newToken : String) :
    run.Continues schema (AntennaBench.mutateConductor errorText storageErrorPayload schema.store
      faults run.conducted request now newToken).2.committed := by
  obtain ⟨-, hchanged⟩ := mutateConductor_effect errorText storageErrorPayload hS faults
    run.conducted request now newToken
  by_cases hsame : (AntennaBench.mutateConductor errorText storageErrorPayload schema.store
      faults run.conducted request now newToken).2.committed = run.conducted.committed
  · exact h.continues_same hsame
  · obtain ⟨-, -, hsession, hlater⟩ := hchanged hsame
    exact h.versioned.continues_of_later hsession hlater

theorem Consistent.mutateConductor (h : run.Consistent schema) (hS : schema.store.Lawful same)
    (index : ℕ) (faults : CallFaults) (now : DateTime) {newToken : String}
    (hfresh : newToken ∉ run.issued.map (·.1)) :
    (run.mutateConductor errorText storageErrorPayload schema index faults now
      newToken).Consistent schema := by
  unfold ActiveRun.mutateConductor
  split
  · rename_i mutation stage hcall
    split
    · exact h
    · rename_i expectedRevision hexpected
      apply h.answered index now
      · exact (mutateConductor_effect errorText storageErrorPayload hS faults run.conducted _ now
          newToken).1
      · exact h.mutate_continues errorText storageErrorPayload hS faults _ now newToken
      · exact hfresh
  · exact h

theorem Consistent.step (h : run.Consistent schema) (hS : schema.store.Lawful same)
    (step : ActiveRunStep Bundle) (hallows : run.Allows schema step) :
    (run.step errorText storageErrorPayload schema step).Consistent schema := by
  cases step with
  | act action =>
    constructor
    · exact h.sound.act action
    · exact h.versioned
    · exact h.tokens
    · exact h.issued
    · exact h.pending
    · exact h.views.act action
    · intro inFlight hmem
      rcases mem_act hmem with hold | hsent
      · exact h.staged inFlight hold
      · exact stagedSoundly_sent hsent
  | deliver index =>
    dsimp only [ActiveRun.step]
    split
    · rename_i call answer hcall
      have hanswer : answer.ShowsOnly (schema.Issued run.issued) :=
        h.views.stages _ (List.mem_of_getElem? hcall)
      constructor
      · exact h.sound.deliver index answer
      · exact h.versioned
      · exact h.tokens
      · exact h.issued
      · exact h.pending
      · exact h.views.deliver index hanswer
      · exact fun inFlight hmem => h.staged inFlight (mem_deliver hmem)
    · exact h
  | respond index answer =>
    apply h.answer index
    cases answer with
    | conductor view => exact absurd rfl (hallows view)
    | _ => trivial
  | readConductor index faults now newToken =>
    exact h.readConductor errorText storageErrorPayload index faults now hallows
  | admitAbort index now => exact h.admitAbort index now
  | settleAbort index commit => exact h.settleAbort index commit
  | mutateConductor index faults now newToken =>
    exact h.mutateConductor errorText storageErrorPayload hS index faults now hallows
  | commitElsewhere next bundleName =>
    have hnext := h.commitBundle hallows
    exact ⟨hnext.sound, hnext.versioned, hnext.tokens, hnext.issued, hnext.pending, hnext.views,
      hnext.staged⟩
  | recover next =>
    apply (h.commitBundle hallows).withPending
    intro action haction
    cases haction

theorem Reached.consistent (hS : schema.store.Lawful same)
    (h : Reached errorText storageErrorPayload schema run) : run.Consistent schema := by
  induction h with
  | start bundle bundleName =>
    constructor
    · constructor
      · exact FrontendState.dialogsCurrent_of_closed rfl rfl
      · intro inFlight hmem
        cases hmem
    · exact versioned_singleton bundle
    · exact List.nodup_nil
    · intro entry hentry
      cases hentry
    · intro action haction
      cases haction
    · constructor
      · intro view hview
        cases hview
      · intro inFlight hmem
        cases hmem
      · intro inFlight hmem
        cases hmem
    · intro inFlight hmem
      cases hmem
  | step step _ hallows ih => exact ih.step errorText storageErrorPayload hS step hallows

end ActiveRun

end

namespace Scenario

end Scenario

end AntennaBench
