import AntennaBench.Conductor.Actions

/-!
# The state of the desktop front end

The part of the state a run is conducted from: the displayed conductor view, the dialogs that
confirm a skipped cycle and an abort, and the transitions that write them. Every transition
makes a new state from the one it is given.
-/

namespace AntennaBench

inductive Workflow where
  | saved
  | setup
  | run
  | report
  deriving DecidableEq

inductive ConductorPhase where
  | ready
  | awaitingSlot
  | guard
  | active
  | betweenSlots
  | switching
  | finalizing
  | complete
  | interrupted
  | ended
  | abandoned
  deriving DecidableEq

structure ConductorIntentView where
  intentId : String
  sequenceNumber : ℕ
  band : String
  antennaLabel : String
  direction : Option String
  operatorActionRequired : Bool
  deriving DecidableEq

structure ConductorSlotView where
  sequenceNumber : ℕ
  band : String
  plannedAntenna : String
  direction : Option String
  deriving DecidableEq

/-- A conductor view as the front end receives it. -/
structure ConductorResponse where
  bundleName : String
  sessionId : String
  revision : ℕ
  lifecycle : SessionLifecycleV2
  actionToken : String
  phase : ConductorPhase
  currentSlot : Option ConductorSlotView
  nextIntent : Option ConductorIntentView
  deriving DecidableEq

/-- `normalizeOpenError`. -/
structure UiError where
  kind : SessionErrorKind
  message : String
  detail : String
  deriving DecidableEq

inductive ConductorStatus where
  | idle
  | loading
  | refreshing
  | mutating
  | ready
  | error
  deriving DecidableEq

def ConductorStatus.isBusy (status : ConductorStatus) : Bool :=
  status = .loading || status = .refreshing || status = .mutating

inductive OpenStatus where
  | idle
  | loading
  | ready
  | error
  deriving DecidableEq

inductive DialogStatus where
  | idle
  | confirming
  | submitting
  | succeeded
  | error
  deriving DecidableEq

/-- The open session, as far as the conductor writes it. -/
structure DisplayedSession where
  sessionId : String
  bundleName : String
  lifecycle : SessionLifecycleV2
  revision : ℕ
  deriving DecidableEq

structure SkipCycleDialog where
  actionToken : String
  expectedRevision : ℕ
  intentId : String
  sequenceNumber : ℕ
  antennaLabel : String
  direction : Option String
  band : String
  deriving DecidableEq

structure AbortRunDialog where
  actionToken : String
  expectedRevision : ℕ
  sessionId : String
  sessionName : String
  lifecycle : SessionLifecycleV2
  cycleContext : String
  deriving DecidableEq

/-- A dialog that asks for a confirmation, what became of it and what it last said. -/
structure Confirmation (α : Type) where
  dialog : Option α := none
  status : DialogStatus := .idle
  error : Option UiError := none
  notice : Option String := none

namespace Confirmation

variable {α : Type} (confirmation : Confirmation α)

def present (dialog : α) : Confirmation α where
  dialog := some dialog
  status := .confirming

def cancel : Confirmation α :=
  if confirmation.status = .submitting then confirmation else {}

def submit : Confirmation α :=
  { confirmation with status := .submitting, error := none, notice := none }

def succeeded (notice : String) : Confirmation α where
  status := .succeeded
  notice := some notice

def failed (error : UiError) : Confirmation α where
  status := .error
  error := some error

/-- What the start of another mutation leaves of the last outcome. -/
def withoutOutcome : Confirmation α :=
  { confirmation with error := none, notice := none }

/-- A dialog that is not being submitted stays only over the view it was opened on. -/
def reconcile (unchanged : α → Bool) (stale : UiError) : Confirmation α :=
  match confirmation.dialog with
  | none => confirmation
  | some presented =>
    if confirmation.status = .submitting || unchanged presented then confirmation
    else failed stale

end Confirmation

structure FrontendState where
  activeWorkflow : Workflow := .saved
  openStatus : OpenStatus := .idle
  session : Option DisplayedSession := none
  conductorStatus : ConductorStatus := .idle
  conductor : Option ConductorResponse := none
  conductorError : Option UiError := none
  conductorPendingAction : Option String := none
  conductorNotice : Option String := none
  skipCycle : Confirmation SkipCycleDialog := {}
  abortRun : Confirmation AbortRunDialog := {}

/-- `conductorActionAvailable` for a skipped cycle. -/
def skipCycleAvailable (view : ConductorResponse) : Bool :=
  view.lifecycle = .running && view.nextIntent.isSome &&
    (view.phase = .betweenSlots || view.phase = .switching)

def abortAvailable (lifecycle : SessionLifecycleV2) : Bool :=
  lifecycle = .running || lifecycle = .interrupted

def conductorActionCompletedLabel : String → String
  | "start" => "Session started."
  | "resume" => "Session resumed."
  | "arm_wspr_cycle" => "Next WSPR cycle scheduled."
  | "skip_wspr_cycle" => "Cycle skipped."
  | "interrupt" => "Session paused."
  | "end" => "Session ended."
  | "abandon" => "Session abandoned."
  | _ => "Entry saved."

/-- The cycle a dialog is about, part by part without the empty ones. -/
def cycleContextOf (sequenceNumber : ℕ) (antenna : String) (direction : Option String)
    (band : String) : String :=
  " · ".intercalate
    ((["Cycle " ++ toString sequenceNumber, antenna, direction.getD "", band]).filter (!·.isEmpty))

def abortCycleContext (conductor : ConductorResponse) : String :=
  match conductor.currentSlot, conductor.nextIntent with
  | some slot, _ => cycleContextOf slot.sequenceNumber slot.plannedAntenna slot.direction slot.band
  | none, some intent =>
    cycleContextOf intent.sequenceNumber intent.antennaLabel intent.direction intent.band
  | none, none => "No current or next planned cycle"

def staleSkipCycle : UiError where
  kind := .staleRevision
  message := "The cycle changed before it was skipped."
  detail := "Review the current run state, then choose Skip this cycle again " ++
    "if it is still appropriate."

def SkipCycleDialog.unchanged (conductor : ConductorResponse) (presented : SkipCycleDialog) :
    Bool :=
  conductor.lifecycle = .running && conductor.revision = presented.expectedRevision &&
    conductor.actionToken = presented.actionToken &&
    conductor.nextIntent.any (·.intentId = presented.intentId)

def staleAbortRun : UiError where
  kind := .staleRevision
  message := "The run changed before Abort was confirmed."
  detail := "Review the current run state, then choose Abort run again if it is still appropriate."

def AbortRunDialog.unchanged (conductor : ConductorResponse) (presented : AbortRunDialog) : Bool :=
  abortAvailable conductor.lifecycle && conductor.sessionId = presented.sessionId &&
    conductor.lifecycle = presented.lifecycle &&
    conductor.revision = presented.expectedRevision &&
    conductor.actionToken = presented.actionToken

namespace FrontendState

variable (state : FrontendState)

def selectWorkflow (workflow : Workflow) : FrontendState :=
  if state.activeWorkflow = workflow then state
  else if workflow = .run then { state with activeWorkflow := workflow }
  else { state with activeWorkflow := workflow, skipCycle := {}, abortRun := {} }

def beginOpenSession : FrontendState :=
  { state with openStatus := .loading }

/-- Nothing of the last run is shown over a session that was opened. -/
def openSessionSucceeded (session : DisplayedSession) (workflow : Workflow) : FrontendState where
  activeWorkflow := workflow
  openStatus := .ready
  session := some session

def setupCreationSucceeded (session : DisplayedSession) : FrontendState where
  activeWorkflow := .run
  openStatus := .ready
  session := some session

def openSessionCancelled : FrontendState :=
  { state with openStatus := if state.session.isSome then .ready else .idle }

def openSessionFailed : FrontendState :=
  { state with openStatus := .error }

def beginConductorLoad : FrontendState :=
  { state with
    conductorStatus := if state.conductor.isSome then .refreshing else .loading
    conductorError := none }

def reconcileConductorDialogs (conductor : ConductorResponse) : FrontendState :=
  { state with
    skipCycle := state.skipCycle.reconcile (SkipCycleDialog.unchanged conductor) staleSkipCycle
    abortRun := state.abortRun.reconcile (AbortRunDialog.unchanged conductor) staleAbortRun }

def reconcileSessionWithConductor (conductor : ConductorResponse) :
    Option DisplayedSession → Option DisplayedSession
  | none => none
  | some session => some { session with
    lifecycle := conductor.lifecycle
    revision := conductor.revision }

def conductorLoadSucceeded (conductor : ConductorResponse) : FrontendState :=
  reconcileConductorDialogs { state with
    conductorStatus := .ready
    conductor := some conductor
    session := reconcileSessionWithConductor conductor state.session
    conductorError := none
    conductorPendingAction := none
    conductorNotice := match state.conductorPendingAction with
      | some completedAction => some (conductorActionCompletedLabel completedAction)
      | none => state.conductorNotice } conductor

def conductorPollSucceeded (conductor : ConductorResponse) : FrontendState :=
  reconcileConductorDialogs { state with
    conductor := some conductor
    session := reconcileSessionWithConductor conductor state.session } conductor

def beginConductorMutation (action : String) : FrontendState :=
  { state with
    conductorStatus := .mutating
    conductorError := none
    conductorPendingAction := some action
    conductorNotice := none
    skipCycle := if action = "skip_wspr_cycle" then state.skipCycle
      else state.skipCycle.withoutOutcome
    abortRun := if action = "abandon" then state.abortRun else state.abortRun.withoutOutcome }

def conductorMutationFailed (error : UiError) : FrontendState :=
  { state with
    conductorStatus := .error
    conductorError := some error
    conductorPendingAction := none
    conductorNotice := none }

def requestSkipCycle : FrontendState :=
  match state.conductor with
  | none => state
  | some conductor =>
    match conductor.nextIntent with
    | none => state
    | some intent =>
      if state.skipCycle.status = .submitting || !skipCycleAvailable conductor then state
      else { state with
        skipCycle := .present {
          actionToken := conductor.actionToken
          expectedRevision := conductor.revision
          intentId := intent.intentId
          sequenceNumber := intent.sequenceNumber
          antennaLabel := intent.antennaLabel
          direction := intent.direction
          band := intent.band } }

def cancelSkipCycle : FrontendState :=
  { state with skipCycle := state.skipCycle.cancel }

def beginSkipCycleMutation : FrontendState :=
  if state.skipCycle.dialog.isNone || state.skipCycle.status = .submitting then state
  else { state.beginConductorMutation "skip_wspr_cycle" with skipCycle := state.skipCycle.submit }

def skipCycleMutationSucceeded (conductor : ConductorResponse) : FrontendState :=
  { conductorLoadSucceeded { state with skipCycle := { state.skipCycle with dialog := none } }
      conductor with
    skipCycle := .succeeded "Cycle skipped." }

def skipCycleMutationFailed (error : UiError) : FrontendState :=
  { state.conductorMutationFailed error with skipCycle := .failed error }

def requestAbortRun : FrontendState :=
  match state.conductor with
  | none => state
  | some conductor =>
    if !abortAvailable conductor.lifecycle || state.abortRun.status = .submitting then state
    else { state with
      abortRun := .present {
        actionToken := conductor.actionToken
        expectedRevision := conductor.revision
        sessionId := conductor.sessionId
        sessionName := conductor.bundleName
        lifecycle := conductor.lifecycle
        cycleContext := abortCycleContext conductor } }

def cancelAbortRun : FrontendState :=
  { state with abortRun := state.abortRun.cancel }

def beginAbortRunMutation : FrontendState :=
  if state.abortRun.dialog.isNone || state.abortRun.status = .submitting then state
  else { state.beginConductorMutation "abandon" with abortRun := state.abortRun.submit }

def abortRunMutationSucceeded (conductor : ConductorResponse) : FrontendState :=
  { conductorLoadSucceeded { state with abortRun := { state.abortRun with dialog := none } }
      conductor with
    abortRun := .succeeded "Run aborted. Preserved evidence remains available." }

def abortRunMutationFailed (error : UiError) : FrontendState :=
  { state.conductorMutationFailed error with abortRun := .failed error }

end FrontendState

end AntennaBench
