import AntennaBench.Controller.Policy
import AntennaBench.Frontend.State

/-!
# The desktop controller

The functions of `createDesktopController` that display and change a run. Each runs up to the
command it awaits; the command is in flight until an answer is delivered, in any order. A
mutation and a status query spread their result over the state they were sent from.
-/

namespace AntennaBench

def ConductorAction.kind : ConductorAction → String
  | start _ => "start"
  | interrupt _ => "interrupt"
  | resume _ => "resume"
  | finish _ => "end"
  | abandon _ => "abandon"
  | armWsprCycle .. => "arm_wspr_cycle"
  | skipWsprCycle .. => "skip_wspr_cycle"
  | confirmAntenna .. => "confirm_antenna"
  | confirmSignal .. => "confirm_signal"
  | markMissed .. => "mark_missed"
  | markBad .. => "mark_bad"
  | addNote .. => "add_note"
  | retractEvent .. => "retract_event"
  | replaceEvent .. => "replace_event"

/-- Which function sent a mutation. -/
inductive MutationOrigin where
  | operatorAction
  | skipCycle
  | abortRun
  deriving DecidableEq

/-- A mutation in flight: its request and the state its result is spread over. `shown` is the
view that was displayed when it was sent. -/
structure SentMutation where
  origin : MutationOrigin
  request : ConductorMutationRequest
  captured : FrontendState
  shown : Option ConductorResponse

inductive FrontendCall where
  | readConductor (silent : Bool)
  | mutateConductor (mutation : SentMutation)
  | openSession
  | createSession
  | queryStatus (captured : FrontendState)

inductive FrontendAnswer where
  | conductor (view : ConductorResponse)
  | opened (session : DisplayedSession) (workflow : Workflow)
  | created (session : DisplayedSession)
  | cancelled
  | status
  | failed (error : UiError)

/-- How far the backend is with a call. An abort is admitted once the controller work of its
session has stopped, with what the stopped attempt committed. -/
inductive CallStage where
  | sent
  | stopping (sessionId : String)
  | admitted (attempt : Option AttemptCommit)
  | answered (answer : FrontendAnswer)

structure InFlight where
  call : FrontendCall
  stage : CallStage := .sent

/-- The state of `createDesktopController`. -/
structure DesktopController where
  state : FrontendState := {}
  conductorPollInFlight : Bool := false
  calls : List InFlight := []

/-- The state the result of a mutation makes. -/
def SentMutation.succeeded (mutation : SentMutation) (view : ConductorResponse) : FrontendState :=
  match mutation.origin with
  | .operatorAction => mutation.captured.conductorLoadSucceeded view
  | .skipCycle => mutation.captured.skipCycleMutationSucceeded view
  | .abortRun => mutation.captured.abortRunMutationSucceeded view

/-- A failure is spread over the state there is. -/
def MutationOrigin.failed (origin : MutationOrigin) (state : FrontendState) (error : UiError) :
    FrontendState :=
  match origin with
  | .operatorAction => state.conductorMutationFailed error
  | .skipCycle => state.skipCycleMutationFailed error
  | .abortRun => state.abortRunMutationFailed error

namespace DesktopController

variable (controller : DesktopController)

def commit (state : FrontendState) : DesktopController :=
  { controller with state }

def invoke (call : FrontendCall) : DesktopController :=
  { controller with calls := controller.calls ++ [⟨call, .sent⟩] }

def refreshConductor (silent : Bool) : DesktopController :=
  if controller.state.openStatus = .loading || controller.state.conductorStatus.isBusy ||
      controller.conductorPollInFlight then controller
  else if silent then
    { controller with conductorPollInFlight := true }.invoke (.readConductor true)
  else (controller.commit controller.state.beginConductorLoad).invoke (.readConductor false)

/-- A mutation is sent from the state its start left. -/
def sendMutation (origin : MutationOrigin) (request : ConductorMutationRequest)
    (state : FrontendState) : DesktopController :=
  (controller.commit state).invoke
    (.mutateConductor ⟨origin, request, state, controller.state.conductor⟩)

def submitConductorAction (action : ConductorAction) : DesktopController :=
  match controller.state.conductor with
  | none => controller
  | some conductor =>
    if controller.state.conductorStatus = .mutating then controller
    else controller.sendMutation .operatorAction
      ⟨conductor.actionToken, conductor.revision, action⟩
      (controller.state.beginConductorMutation action.kind)

def submitSkipCycle (reason : String) : DesktopController :=
  match controller.state.skipCycle.dialog with
  | none => controller
  | some presented =>
    if controller.state.skipCycle.status = .submitting then controller
    else controller.sendMutation .skipCycle
      ⟨presented.actionToken, presented.expectedRevision,
        .skipWsprCycle presented.intentId (some reason)⟩
      controller.state.beginSkipCycleMutation

/-- `submitAbortRun`, with the reason as it is sent. -/
def submitAbortRun (reason : String) : DesktopController :=
  match controller.state.abortRun.dialog with
  | none => controller
  | some presented =>
    if controller.state.abortRun.status = .submitting then controller
    else controller.sendMutation .abortRun
      ⟨presented.actionToken, presented.expectedRevision, .abandon (some reason)⟩
      controller.state.beginAbortRunMutation

def openSession : DesktopController :=
  if controller.state.openStatus = .loading || controller.state.conductorStatus.isBusy ||
      controller.conductorPollInFlight then controller
  else (controller.commit controller.state.beginOpenSession).invoke .openSession

def createSession : DesktopController :=
  controller.invoke .createSession

/-- The functions that ask for the state of the receiver or of the antenna controller. -/
def queryStatus : DesktopController :=
  controller.invoke (.queryStatus controller.state)

end DesktopController

/-- What the operator, a timer or another part of the front end does. Imports, the acquisition
and the reports write the session they show. -/
inductive UserAction where
  | selectWorkflow (workflow : Workflow)
  | refreshConductor (silent : Bool)
  | submitConductorAction (action : ConductorAction)
  | requestSkipCycle
  | cancelSkipCycle
  | submitSkipCycle (reason : String)
  | requestAbortRun
  | cancelAbortRun
  | submitAbortRun (reason : String)
  | openSession
  | createSession
  | queryStatus
  | showSession (session : Option DisplayedSession) (openStatus : OpenStatus)

namespace DesktopController

variable (controller : DesktopController)

def act : UserAction → DesktopController
  | .selectWorkflow workflow => controller.commit (controller.state.selectWorkflow workflow)
  | .refreshConductor silent => controller.refreshConductor silent
  | .submitConductorAction action => controller.submitConductorAction action
  | .requestSkipCycle => controller.commit controller.state.requestSkipCycle
  | .cancelSkipCycle => controller.commit controller.state.cancelSkipCycle
  | .submitSkipCycle reason => controller.submitSkipCycle reason
  | .requestAbortRun => controller.commit controller.state.requestAbortRun
  | .cancelAbortRun => controller.commit controller.state.cancelAbortRun
  | .submitAbortRun reason => controller.submitAbortRun reason
  | .openSession => controller.openSession
  | .createSession => controller.createSession
  | .queryStatus => controller.queryStatus
  | .showSession session openStatus =>
    controller.commit { controller.state with session, openStatus }

/-- The state after the answer of a call that was awaited. An answer that does not belong to
its call counts as a failure where the code checks it. -/
def complete : FrontendCall → FrontendAnswer → DesktopController
  | .readConductor silent, .conductor view =>
    { controller with
      state := if silent then controller.state.conductorPollSucceeded view
        else controller.state.conductorLoadSucceeded view
      conductorPollInFlight := false }
  | .readConductor silent, .failed error =>
    { controller with
      state := if silent then controller.state else controller.state.conductorMutationFailed error
      conductorPollInFlight := false }
  | .mutateConductor mutation, .conductor view => controller.commit (mutation.succeeded view)
  | .mutateConductor mutation, .failed error =>
    controller.commit (mutation.origin.failed controller.state error)
  | .openSession, .opened session workflow =>
    controller.commit (FrontendState.openSessionSucceeded session workflow)
  | .openSession, .cancelled => controller.commit controller.state.openSessionCancelled
  | .openSession, _ => controller.commit controller.state.openSessionFailed
  | .createSession, .created session =>
    controller.commit (FrontendState.setupCreationSucceeded session)
  | .queryStatus captured, .status => controller.commit captured
  | _, _ => controller

def deliver (index : ℕ) (answer : FrontendAnswer) : DesktopController :=
  match controller.calls[index]? with
  | none => controller
  | some inFlight =>
    { controller with calls := controller.calls.eraseIdx index }.complete inFlight.call answer

end DesktopController

end AntennaBench
