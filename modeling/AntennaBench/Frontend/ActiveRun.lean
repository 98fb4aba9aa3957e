import AntennaBench.Frontend.Controller
import AntennaBench.Conductor.ExactlyOnce
import AntennaBench.Conductor.Transition
import AntennaBench.Controller.Policy
import AntennaBench.Scenario.Encoding
import AntennaBench.Timeline.Versions

/-!
# The front end and the conductor

One desktop: the front end sends its calls, the backend handles them one at a time, the
answers arrive in any order, and other writers, recovery and the opening of other sessions
change the committed bundle in between.
-/

namespace AntennaBench

/-- A committed schema with what `build_view` reads off its bundles. -/
structure ConductedSchema (Bundle Event : Type) where
  store : CheckpointedStore Bundle Event
  lifecycle : Bundle → SessionLifecycleV2
  nextIntent : Bundle → Option ConductorIntentView
  timing : Bundle → DateTime → ConductorPhase × Option ConductorSlotView

def ConductedSchema.buildView {Bundle Event : Type} (schema : ConductedSchema Bundle Event)
    (bundleName : String) (bundle : Bundle) (now : DateTime) (actionToken : String) :
    ConductorResponse where
  bundleName := bundleName
  sessionId := schema.store.sessionId bundle
  revision := schema.store.revision bundle
  lifecycle := schema.lifecycle bundle
  actionToken := actionToken
  phase := (schema.timing bundle now).1
  currentSlot := (schema.timing bundle now).2
  nextIntent := schema.nextIntent bundle

/-- The view is one of the bundle. -/
structure ConductedSchema.Shows {Bundle Event : Type} (schema : ConductedSchema Bundle Event)
    (view : ConductorResponse) (bundle : Bundle) : Prop where
  sessionId : view.sessionId = schema.store.sessionId bundle
  revision : view.revision = schema.store.revision bundle
  lifecycle : view.lifecycle = schema.lifecycle bundle
  nextIntent : view.nextIntent = schema.nextIntent bundle

section

variable (packageVersion : String) (profile : BundleResourceProfile) (E : Env)

end

/-- The front end, the open session and the conductor. The code does not keep `history`, the
bundles that were committed, and `issued`, the bundle each token was issued for. -/
structure ActiveRun (Bundle : Type) where
  controller : DesktopController
  bundleName : String
  conducted : Conducted Bundle
  history : List Bundle
  issued : List (String × Bundle)

/-- One step: of the front end, of the backend on the call at an index, or of another writer. -/
inductive ActiveRunStep (Bundle : Type) where
  | act (action : UserAction)
  | deliver (index : ℕ)
  | respond (index : ℕ) (answer : FrontendAnswer)
  | readConductor (index : ℕ) (faults : CallFaults) (now : DateTime) (newToken : String)
  | admitAbort (index : ℕ) (now : DateTime)
  | settleAbort (index : ℕ) (commit : Option AttemptCommit)
  | mutateConductor (index : ℕ) (faults : CallFaults) (now : DateTime) (newToken : String)
  | commitElsewhere (next : Bundle) (bundleName : String)
  | recover (next : Bundle)

def SessionErrorPayload.uiError (error : SessionErrorPayload) : UiError :=
  ⟨error.kind, error.message, error.detail⟩

def ConductorAction.isAbandon : ConductorAction → Bool
  | abandon _ => true
  | _ => false

/-- The revision a mutation is handed to the conductor with. An abort waits for its
admission. -/
def SentMutation.expectedRevision? (mutation : SentMutation) : CallStage → Option ℕ
  | .sent =>
    if mutation.request.action.isAbandon then none else some mutation.request.expectedRevision
  | .admitted attempt => some (attempt.elim mutation.request.expectedRevision (·.committedRevision))
  | _ => none

def abortChanged (expected actual : ℕ) : SessionErrorPayload where
  kind := .staleRevision
  message := "The session changed. Refresh Active Run before confirming Abort."
  detail := "expected checkpoint revision " ++ toString expected ++ ", actual revision " ++
    toString actual

def controllerTokenMissing : SessionErrorPayload where
  kind := .staleRevision
  message := "Refresh Active Run before submitting this controller action."
  detail := "the Rust-issued action token is missing or expired"

def controllerTokenForeign : SessionErrorPayload where
  kind := .staleRevision
  message := "Refresh Active Run before submitting this controller action."
  detail := "the action token does not match this session revision"

def abortOvertaken : SessionErrorPayload where
  kind := .staleRevision
  message := "The session changed while Abort was stopping controller work."
  detail := "only the matching captured controller attempt may precede abandonment"

def abortTokenMissing : SessionErrorPayload where
  kind := .staleRevision
  message := "Refresh Active Run before confirming Abort."
  detail := "the Rust-issued action token is missing or expired"

def abortTokenForeign : SessionErrorPayload where
  kind := .staleRevision
  message := "Refresh Active Run before confirming Abort."
  detail := "the Abort action token does not match the pre-cancellation session revision"

/-- The answer of a conductor call. -/
def ConductedSchema.answer {Bundle Event : Type} (schema : ConductedSchema Bundle Event)
    (bundleName : String) (now : DateTime) :
    Except SessionErrorPayload (ConductorView Bundle) → FrontendAnswer
  | .ok view => .conductor (schema.buildView bundleName view.bundle now view.actionToken)
  | .error error => .failed error.uiError

namespace ActiveRun

section

variable {Bundle : Type} (run : ActiveRun Bundle)

def setStage (index : ℕ) (stage : CallStage) : ActiveRun Bundle :=
  { run with controller := { run.controller with
      calls := run.controller.calls.modify index fun inFlight => { inFlight with stage } } }

def refuse (index : ℕ) (error : SessionErrorPayload) : ActiveRun Bundle :=
  run.setStage index (.answered (.failed error.uiError))

def withPending (pendingActions : List PendingAction) : ActiveRun Bundle :=
  { run with conducted := { run.conducted with pendingActions } }

/-- Another bundle is committed. -/
def commitBundle (next : Bundle) : ActiveRun Bundle :=
  { run with
    conducted := { run.conducted with committed := next }
    history := run.history ++ [next] }

end

variable (errorText : LivePersistenceError → String)
  (storageErrorPayload : BundleStoreError → SessionErrorPayload)
  {Bundle Event : Type} (schema : ConductedSchema Bundle Event) (run : ActiveRun Bundle)

/-- The end of a call of the conductor, which has used a token. -/
def answered (index : ℕ) (now : DateTime) (newToken : String)
    (result : Except SessionErrorPayload (ConductorView Bundle) × Conducted Bundle) :
    ActiveRun Bundle :=
  { run.setStage index (.answered (schema.answer run.bundleName now result.1)) with
    conducted := result.2
    history := run.history ++ [result.2.committed]
    issued := run.issued ++ [(newToken, result.2.committed)] }

/-- `active_session_conductor` over an initialized session. -/
def readConductor (index : ℕ) (faults : CallFaults) (now : DateTime) (newToken : String) :
    ActiveRun Bundle :=
  match run.controller.calls[index]? with
  | some ⟨.readConductor _, .sent⟩ => run.answered schema index now newToken
    (deliverView errorText storageErrorPayload schema.store faults run.conducted newToken)
  | _ => run

/-- What `mutate_active_session_conductor` checks before it stops controller work. -/
def admitAbort (index : ℕ) (now : DateTime) : ActiveRun Bundle :=
  match run.controller.calls[index]? with
  | some ⟨.mutateConductor mutation, .sent⟩ =>
    let request := mutation.request
    let before := run.conducted.committed
    if !request.action.isAbandon then run
    else if schema.store.revision before ≠ request.expectedRevision then
      run.refuse index (abortChanged request.expectedRevision (schema.store.revision before))
    else
      match resolveAction run.conducted.pendingActions request.actionToken now with
      | none => run.refuse index controllerTokenMissing
      | some (pending, pendingActions) =>
        let run := run.withPending pendingActions
        if pending.sessionId ≠ schema.store.sessionId before ∨
            pending.expectedRevision ≠ request.expectedRevision then
          run.refuse index controllerTokenForeign
        else run.setStage index (.stopping (schema.store.sessionId before))
  | _ => run

/-- The token of the abort moves to the revision the stopped attempt committed. -/
def rebaseAbort (index : ℕ) (request : ConductorMutationRequest) (sessionId : String)
    (commit : AttemptCommit) : ActiveRun Bundle :=
  match run.conducted.pendingActions.find? (·.token == request.actionToken) with
  | none => run.refuse index abortTokenMissing
  | some pending =>
    if pending.sessionId ≠ sessionId ∨ pending.expectedRevision ≠ request.expectedRevision then
      run.refuse index abortTokenForeign
    else
      (run.withPending (rebaseAction run.conducted.pendingActions request.actionToken sessionId
        request.expectedRevision commit.committedRevision)).setStage index
          (.admitted (some commit))

/-- The bundle that is stored for a session: the last one that was committed. -/
def stored (sessionId : String) : Option Bundle :=
  run.history.reverse.find? (schema.store.sessionId · == sessionId)

/-- What `mutate_active_session_conductor` checks of the attempt it stopped, in the bundle of
the session the abort was admitted for. -/
def settleAbort (index : ℕ) (commit : Option AttemptCommit) : ActiveRun Bundle :=
  match run.controller.calls[index]? with
  | some ⟨.mutateConductor mutation, .stopping sessionId⟩ =>
    let request := mutation.request
    match commit with
    | none => run.setStage index (.admitted none)
    | some commit =>
      match run.stored schema sessionId with
      | none => run.refuse index abortOvertaken
      | some after =>
      if commit.expectedRevision ≠ request.expectedRevision ∨
          commit.committedRevision ≠ schema.store.revision after ∨
          schema.store.lastCommittedMutationId after ≠ some commit.mutationId then
        run.refuse index abortOvertaken
      else run.rebaseAbort index request sessionId commit
  | _ => run

/-- `mutate_active_session_conductor`, an abort once it is admitted. -/
def mutateConductor (index : ℕ) (faults : CallFaults) (now : DateTime) (newToken : String) :
    ActiveRun Bundle :=
  match run.controller.calls[index]? with
  | some ⟨.mutateConductor mutation, stage⟩ =>
    match mutation.expectedRevision? stage with
    | none => run
    | some expectedRevision => run.answered schema index now newToken
      (AntennaBench.mutateConductor errorText storageErrorPayload schema.store faults run.conducted
        { mutation.request with expectedRevision } now newToken)
  | _ => run

def step : ActiveRunStep Bundle → ActiveRun Bundle
  | .act action => { run with controller := run.controller.act action }
  | .deliver index =>
    match run.controller.calls[index]? with
    | some ⟨_, .answered answer⟩ => { run with controller := run.controller.deliver index answer }
    | _ => run
  | .respond index answer => run.setStage index (.answered answer)
  | .readConductor index faults now newToken =>
    run.readConductor errorText storageErrorPayload schema index faults now newToken
  | .admitAbort index now => run.admitAbort schema index now
  | .settleAbort index commit => run.settleAbort schema index commit
  | .mutateConductor index faults now newToken =>
    run.mutateConductor errorText storageErrorPayload schema index faults now newToken
  | .commitElsewhere next bundleName => { run.commitBundle next with bundleName }
  | .recover next => (run.commitBundle next).withPending []

/-- A bundle that is committed is later than the bundles of its session before it. -/
def Continues (next : Bundle) : Prop :=
  Timeline.Continues schema.store.sessionId schema.store.revision run.history next

/-- Tokens are new, other writers commit later bundles, and only the conductor sends views. -/
def Allows : ActiveRunStep Bundle → Prop
  | .readConductor _ _ _ newToken => newToken ∉ run.issued.map (·.1)
  | .mutateConductor _ _ _ newToken => newToken ∉ run.issued.map (·.1)
  | .respond _ answer => ∀ view, answer ≠ .conductor view
  | .commitElsewhere next _ => run.Continues schema next
  | .recover next => run.Continues schema next
  | _ => True

/-- The states of a desktop that starts over a committed bundle. -/
inductive Reached : ActiveRun Bundle → Prop
  | start (bundle : Bundle) (bundleName : String) :
      Reached ⟨{}, bundleName, ⟨bundle, []⟩, [bundle], []⟩
  | step {run : ActiveRun Bundle} (step : ActiveRunStep Bundle) : Reached run →
      run.Allows schema step → Reached (run.step errorText storageErrorPayload schema step)

end ActiveRun

end AntennaBench
