import AntennaBench.Conductor.Actions
import AntennaBench.Storage.MutationV2

/-!
# Mutations of the live conductor

A request carries a token the conductor issued. The token gives the event its
mutation identity, the store decides whether that mutation is new, and a failed
append counts as a success when the checkpoint names the token. Where a call
fails is an input of the call.
-/

namespace AntennaBench

/-- A committed schema, as the conductor uses it: the events of a checkpoint and their
mutations, the event an action becomes, and the decision of the writer on it. A
decision is `none` for a mutation that was committed before. -/
structure CheckpointedStore (Bundle Event : Type) where
  sessionId : Bundle → String
  revision : Bundle → ℕ
  lastCommittedMutationId : Bundle → Option String
  events : Bundle → List Event
  mutationId : Event → String
  eventForAction : Bundle → PendingAction → ConductorAction → Except SessionErrorPayload Event
  append : Bundle → ℕ → String → Event → DateTime → Except LivePersistenceError (Option Bundle)

def maxPendingActionTokens : ℕ := 32

/-- `register_action`: the newest tokens stay. -/
def registerAction (pendingActions : List PendingAction) (action : PendingAction) :
    List PendingAction :=
  let pendingActions := pendingActions ++ [action]
  pendingActions.drop (pendingActions.length - maxPendingActionTokens)

/-- `resolve_action`: the first use of a token sets its time. -/
def resolveAction : List PendingAction → String → DateTime →
    Option (PendingAction × List PendingAction)
  | [], _, _ => none
  | pending :: rest, token, now =>
    if pending.token = token then
      let pending := { pending with occurredAt := some (pending.occurredAt.getD now) }
      some (pending, pending :: rest)
    else (resolveAction rest token now).map fun found => (found.1, pending :: found.2)

section

variable (errorText : LivePersistenceError → String)
  (storageErrorPayload : BundleStoreError → SessionErrorPayload)

/-- An error of the live writer with the operation it belongs to. -/
def liveError (kind : SessionErrorKind) (message detail code stage : String) :
    SessionErrorPayload :=
  { kind, message, detail, operation := some ⟨code, stage⟩ }

def liveErrorPayload (error : LivePersistenceError) : SessionErrorPayload :=
  match error with
  | .store source => storageErrorPayload source
  | .writerBusy => liveError .busy "Another local operation is updating this session."
      "session writer lock is busy" "session.writer_busy" "admission"
  | .staleRevision expected actual => liveError .staleRevision
      "The session changed. Refresh the conductor before retrying."
      ("expected checkpoint revision " ++ toString expected ++ ", actual revision " ++
        toString actual) "session.stale_revision" "admission"
  | .mutationConflict mutationId => liveError .conflict
      "That action token was already used for different evidence."
      ("conflicting mutation ID " ++ mutationId) "session.mutation_conflict" "admission"
  | .capability message => liveError .unsupported
      "This filesystem cannot safely conduct a live session." message
      "session.capability_unavailable" "admission"
  | .recoveryRequired _ => liveError .verification
      "The session must be recovered before it can be changed." (errorText error)
      "session.recovery_required" "recover"
  | .invalidMutation _ | .planFrozen _ => liveError .validation
      "The requested conductor action is not valid for this session." (errorText error)
      "session.invalid_mutation" "preflight"
  | .resourceLimit code stream observed limit =>
    { kind := .resource
      message := "The local operation was stopped by its resource policy."
      detail := "code=" ++ code ++ " stage=" ++ stream ++ " limit=" ++ toString limit ++
        " observed=" ++ toString observed ++ " unit=bounded_units complete=false"
      operation := some ⟨code, stream⟩ }
  | .externalModification _ => liveError .verification
      "The session changed outside AntennaBench and live mutation was stopped." (errorText error)
      "session.external_modification" "checkpoint"
  | .io .. => liveError .filesystem "The conductor could not durably update the session."
      (errorText error) "session.persistence_io" "checkpoint"
  | .checkpointVerification _ => liveError .verification
      "The conductor could not verify a coherent checkpoint." (errorText error)
      "session.checkpoint_verification" "checkpoint"

def missingToken : SessionErrorPayload where
  kind := .staleRevision
  message := "Refresh the conductor before submitting this action."
  detail := "the Rust-issued action token is missing or expired"

def foreignToken : SessionErrorPayload where
  kind := .staleRevision
  message := "Refresh the conductor before submitting this action."
  detail := "the action token does not match this session revision"

/-- Where the commit of an admitted mutation fails: before the checkpoint is replaced, with
the streams rolled back, or after it, with the handle on the committed bundle. -/
inductive CommitFault where
  | none
  | beforeReplace (error : LivePersistenceError)
  | afterReplace (error : LivePersistenceError)

/-- Where a call fails outside the decisions of its code; `project` is the update of the
active session, which schema v2 does not have. -/
structure CallFaults where
  admission : Option SessionErrorPayload
  snapshot : Option LivePersistenceError
  openWriter : Option LivePersistenceError
  commit : CommitFault
  recheck : Option LivePersistenceError
  reread : Option LivePersistenceError
  project : Option SessionErrorPayload
  deliver : Option SessionErrorPayload

/-- The committed checkpoint and the tokens the conductor has issued. -/
structure Conducted (Bundle : Type) where
  committed : Bundle
  pendingActions : List PendingAction

/-- The view of a call: the bundle it shows and the token it issues. -/
structure ConductorView (Bundle : Type) where
  bundle : Bundle
  actionToken : String

variable {Bundle Event : Type} (S : CheckpointedStore Bundle Event)

/-- The call to the opened writer: its result and the checkpoint it leaves. -/
def appendUnder (fault : CommitFault) (committed : Bundle) (expectedRevision : ℕ)
    (mutationId : String) (event : Event) (now : DateTime) :
    Except LivePersistenceError Unit × Bundle :=
  match S.append committed expectedRevision mutationId event now with
  | .error error => (.error error, committed)
  | .ok none => (.ok (), committed)
  | .ok (some next) =>
    match fault with
    | .none => (.ok (), next)
    | .beforeReplace error => (.error error, committed)
    | .afterReplace error => (.error error, next)

/-- The end of a call: the checkpoint is read again and a new token is issued. -/
def deliverView (faults : CallFaults) (state : Conducted Bundle) (newToken : String) :
    Except SessionErrorPayload (ConductorView Bundle) × Conducted Bundle :=
  match faults.reread with
  | some error => (.error (liveErrorPayload errorText storageErrorPayload error), state)
  | none =>
    match faults.project with
    | some error => (.error error, state)
    | none =>
      let action : PendingAction :=
        ⟨newToken, S.sessionId state.committed, S.revision state.committed, none⟩
      let state := { state with pendingActions := registerAction state.pendingActions action }
      match faults.deliver with
      | some error => (.error error, state)
      | none => (.ok ⟨state.committed, newToken⟩, state)

/-- The answer to an append: where it failed, the checkpoint may still name the token. -/
def answerAppend (faults : CallFaults) (state : Conducted Bundle) (token newToken : String) :
    Except LivePersistenceError Unit →
      Except SessionErrorPayload (ConductorView Bundle) × Conducted Bundle
  | .ok () => deliverView errorText storageErrorPayload S faults state newToken
  | .error error =>
    let isCommitted := faults.recheck.isNone &&
      S.lastCommittedMutationId state.committed == some token
    if isCommitted then deliverView errorText storageErrorPayload S faults state newToken
    else (.error (liveErrorPayload errorText storageErrorPayload error), state)

/-- The part of a call behind its token: the event, the writer, the append and its outcome.
A writer that cannot be opened ends the call. -/
def performAction (faults : CallFaults) (state : Conducted Bundle)
    (request : ConductorMutationRequest) (pending : PendingAction) (now : DateTime)
    (newToken : String) :
    Except SessionErrorPayload (ConductorView Bundle) × Conducted Bundle :=
  match S.eventForAction state.committed pending request.action with
  | .error error => (.error error, state)
  | .ok event =>
    match faults.openWriter with
    | some error => (.error (liveErrorPayload errorText storageErrorPayload error), state)
    | none =>
      let appended := appendUnder S faults.commit state.committed request.expectedRevision
        pending.token event now
      answerAppend errorText storageErrorPayload S faults { state with committed := appended.2 }
        pending.token newToken appended.1

/-- `mutate_conductor_v2` and `mutate_conductor_v3`. -/
def mutateConductor (faults : CallFaults) (state : Conducted Bundle)
    (request : ConductorMutationRequest) (now : DateTime) (newToken : String) :
    Except SessionErrorPayload (ConductorView Bundle) × Conducted Bundle :=
  match faults.admission with
  | some error => (.error error, state)
  | none =>
    match faults.snapshot with
    | some error => (.error (liveErrorPayload errorText storageErrorPayload error), state)
    | none =>
      match resolveAction state.pendingActions request.actionToken now with
      | none => (.error missingToken, state)
      | some (pending, pendingActions) =>
        let state := { state with pendingActions }
        if pending.sessionId ≠ S.sessionId state.committed ∨
            pending.expectedRevision ≠ request.expectedRevision then
          (.error foreignToken, state)
        else performAction errorText storageErrorPayload S faults state request pending now newToken

end

section

variable (packageVersion : String) (profile : BundleResourceProfile) (E : Env)
  (strictReport : BundleContents → List String)
  (checkpointHeads : BundleV2Contents →
    Except LivePersistenceError (List (String × StreamCheckpointV2)))
  (context : Option RuntimeContextV6)

def storeV2 : CheckpointedStore BundleV2Contents OperatorEventV2 where
  sessionId bundle := bundle.manifest.sessionId
  revision bundle := bundle.sessionState.revision
  lastCommittedMutationId bundle := bundle.sessionState.lastCommittedMutationId
  events bundle := bundle.events
  mutationId event := event.recordMeta.mutation.mutationId
  eventForAction bundle := eventForAction packageVersion bundle.manifest.sessionId
  append bundle expectedRevision mutationId event now :=
    planAppendV2 E profile strictReport checkpointHeads bundle
      ⟨expectedRevision, mutationId, [.event event]⟩ now

/-- The session `open_v3_writer_with_hooks` opens for the current build. -/
def writerOn (bundle : BundleV3Contents) (paths : ResolvedBundlePathsV2) : LiveSessionV3 where
  bundle := bundle
  paths := paths
  frozen := false
  pendingRuntimeContext := context.filter fun context =>
    bundle.sessionState.activeRuntimeContextId != some context.contextId

/-- The next bundle of a decision of the v3 writer. -/
def Decision.next? {ρ : Type} : Decision ρ → Option BundleV3Contents
  | settled _ => none
  | commit plan _ => some plan.candidate

def storeV3 (paths : ResolvedBundlePathsV2) :
    CheckpointedStore BundleV3Contents OperatorEventV3 where
  sessionId bundle := bundle.manifest.sessionId
  revision bundle := bundle.sessionState.revision
  lastCommittedMutationId bundle := bundle.sessionState.lastCommittedMutationId
  events bundle := bundle.events
  mutationId event := event.recordMeta.mutation.mutationId
  eventForAction bundle pending :=
    eventForActionV3 packageVersion bundle.manifest.sessionId bundle.manifest.schemaVersion pending
  append bundle expectedRevision mutationId event now := do
    let decision ← planEvent E profile (writerOn context bundle paths)
      ⟨expectedRevision, mutationId, event⟩ now
    return decision.next?

end

end AntennaBench
