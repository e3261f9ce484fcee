import Octoscript.Capabilities.ExternalTool
import Octoscript.Lib.Transcript

namespace Octoscript

open Effectful

/-- A nonzero host deadline, in nanoseconds. -/
structure WorkerInvocationDeadline where
  maximum : ℕ
  nonzero : maximum ≠ 0
  deriving DecidableEq

inductive WorkerInvocationOutcome (T : Type)
  | completed
  | deadlineElapsed (termination : T)
  | sessionDeadlineElapsed (termination : T)
  | terminated (termination : T)

inductive MultiplexedWorkerError
  | protocol (error : ProtocolError)
  | io (kind message : String)
  | requiresHostAuthenticator
  | sessionMismatch (authenticator manifest : String)
  | busy
  | noActiveInvocation
  | targetMismatch
  | cancellationPending
  | externalBindingTerminal
  | unexpectedMessage (kind : String)
  | unavailable
  | abandoned
  | coordinatorPanicked
  deriving DecidableEq

inductive MultiplexedWorkerInvocationOutcome
  | completed (result : ToolResult)
  | cancelled (result : WorkerCancellationResult)
  deriving DecidableEq

/-- The handle of a call that was sent. -/
structure PendingWorkerInvocation where
  (requestId tool : String)
  deriving DecidableEq

structure PendingWorkerCancellation where
  cancellationId : String
  deriving DecidableEq

/-- What a session asks of its supervisor, its transport and the runtime. -/
inductive SupervisedOp (I : Type)
  | beginInvocation (deadline : WorkerInvocationDeadline)
  | finishInvocation (supervision : I)
  | terminate
  | start (invocation : ToolInvocation)
  | requestCancellation (pending : PendingWorkerInvocation) (cancellationId : String)
  | tryWait (pending : PendingWorkerInvocation)
  | tryWaitCancellation (cancellation : PendingWorkerCancellation)
  | completeExternalTool (id : ExternalToolId) (output : String)
  | confirmExternalToolCancellation (id : ExternalToolId)

/-- The supervisor fails with an `S` and reports a `T`; the runtime evaluates to a `V`. -/
@[reducible] def SupervisedOp.Answer {I : Type} (S T V : Type) : SupervisedOp I → Type
  | .beginInvocation _ => Except S I
  | .finishInvocation _ => Except S (WorkerInvocationOutcome T)
  | .terminate => Except S T
  | .start _ => Except MultiplexedWorkerError Unit
  | .requestCancellation .. => Except MultiplexedWorkerError Unit
  | .tryWait _ => Except MultiplexedWorkerError (Option MultiplexedWorkerInvocationOutcome)
  | .tryWaitCancellation _ => Except MultiplexedWorkerError (Option WorkerCancellationResult)
  | .completeExternalTool .. => Except ExternalToolError V
  | .confirmExternalToolCancellation _ => Except ExternalToolError V

inductive ExternalToolWorkerBridgeError
  | external (error : ExternalToolError)
  | protocol (error : ProtocolError)
  | transport (error : MultiplexedWorkerError)
  | cancellationBindingMismatch
  | cancellationAlreadyRequested
  | invalidCancelledOutcome
  | alreadyTerminal
  deriving DecidableEq

/-- A claimed external tool and the call that was sent for it. -/
structure ExternalToolWorkerBinding where
  id : ExternalToolId
  name : String
  callIndex : ℕ
  attempt : UInt32
  idempotencyKey : String
  pending : PendingWorkerInvocation
  cancellation : Option PendingWorkerCancellation
  (cancellationRequested terminal : Bool)
  deriving DecidableEq

inductive ExternalToolWorkerObservation
  | pending
  | cancellationTooLate
  | cancellationUnsupported
  | terminal (outcome : MultiplexedWorkerInvocationOutcome)
  deriving DecidableEq

inductive ExternalToolWorkerEvent
  | pending
  | cancellationTooLate
  | cancellationUnsupported
  | completed (externalId : ExternalToolId) (output : String)
  | cancelled (externalId : ExternalToolId) (acknowledgement : WorkerCancellationResult)
  deriving DecidableEq

namespace ExternalToolWorkerBinding

/-- The message for an invocation, and its binding once it is sent. -/
def prepare [JsonReader] (sessionId : String) (invocation : ExternalToolInvocation)
    (requestId : String) :
    Except ExternalToolWorkerBridgeError (ToolInvocation × ExternalToolWorkerBinding) := do
  let payload ← invocation.workerPayload.mapError .external
  let worker ← (ToolInvocation.new sessionId requestId invocation.name payload).mapError .protocol
  return (worker, {
    id := invocation.id
    name := invocation.name
    callIndex := invocation.callIndex
    attempt := invocation.attempt
    idempotencyKey := invocation.idempotencyKey
    pending := ⟨worker.requestId, worker.tool⟩
    cancellation := none
    cancellationRequested := false
    terminal := false })

/-- What `request_cancellation` checks before it sends anything. -/
def checkCancellation (self : ExternalToolWorkerBinding) (request : ExternalToolCancellationRequest) :
    Except ExternalToolWorkerBridgeError Unit := do
  rejectIf (self.terminal = true) .alreadyTerminal
  rejectIf (request.id ≠ self.id ∨ request.name ≠ self.name ∨ request.callIndex ≠ self.callIndex ∨
    request.attempt ≠ self.attempt ∨ request.idempotencyKey ≠ self.idempotencyKey)
    .cancellationBindingMismatch
  rejectIf (self.cancellationRequested = true) .cancellationAlreadyRequested

/-- The observation that a disposition of a cancellation stands for. -/
def ofDisposition (result : WorkerCancellationResult) : ExternalToolWorkerObservation :=
  match result.outcome with
  | .acknowledged => .terminal (.cancelled result)
  | .tooLate => .cancellationTooLate
  | .unsupported => .cancellationUnsupported

def eventFromObservation (self : ExternalToolWorkerBinding) :
    ExternalToolWorkerObservation → Except ExternalToolWorkerBridgeError ExternalToolWorkerEvent
  | .pending => .ok .pending
  | .cancellationTooLate => .ok .cancellationTooLate
  | .cancellationUnsupported => .ok .cancellationUnsupported
  | .terminal (.completed result) => .ok (.completed self.id (match result.payload with
    | .text output => output
    | .json output => Json.text output))
  | .terminal (.cancelled result) => do
    rejectIf (result.outcome ≠ .acknowledged) .invalidCancelledOutcome
    return .cancelled self.id result

end ExternalToolWorkerBinding

inductive InvocationIndeterminateCause
  | deadlineElapsed
  | sessionDeadlineElapsed
  | workerTerminated
  deriving DecidableEq

inductive SupervisedMultiplexedWorkerError (S T : Type)
  | bridge (error : ExternalToolWorkerBridgeError)
  | transport (source : MultiplexedWorkerError) (termination : Except S T)
  | supervisor (source : S) (termination : Except S T)
  | indeterminate (externalId : ExternalToolId) (cause : InvocationIndeterminateCause)
      (termination : T)
  | busy
  | noActiveInvocation
  | poisoned

inductive SupervisedExternalToolWorkerEvent (T : Type)
  | worker (event : ExternalToolWorkerEvent)
  | indeterminate (externalId : ExternalToolId) (cause : InvocationIndeterminateCause)
      (termination : T)

inductive ExternalToolWorkerPoll (V : Type)
  | pending
  | cancellationTooLate
  | cancellationUnsupported
  | completed (evaluation : V)
  | cancelled (evaluation : V)

inductive SupervisedExternalToolWorkerPoll (T V : Type)
  | worker (poll : ExternalToolWorkerPoll V)
  | indeterminate (externalId : ExternalToolId) (cause : InvocationIndeterminateCause)
      (termination : T)

structure SupervisedExternalToolInvocation (I : Type) where
  binding : ExternalToolWorkerBinding
  supervision : I

structure SupervisedMultiplexedWorkerSession (I : Type) where
  sessionId : String
  deadline : WorkerInvocationDeadline
  active : Option (SupervisedExternalToolInvocation I)
  poisoned : Bool

namespace SupervisedMultiplexedWorkerSession
variable {I S T V α : Type}

abbrev Call (I S T V α : Type) :=
  Effectful (SupervisedOp I) (SupervisedOp.Answer S T V) (SupervisedMultiplexedWorkerSession I)
    (SupervisedMultiplexedWorkerError S T) α

def new (sessionId : String) (deadline : WorkerInvocationDeadline) :
    SupervisedMultiplexedWorkerSession I :=
  ⟨sessionId, deadline, none, false⟩

def requireAvailable (self : SupervisedMultiplexedWorkerSession I) :
    Except (SupervisedMultiplexedWorkerError S T) Unit :=
  rejectIf (self.poisoned = true) .poisoned

/-- Poisons the session, finishes the call and stops the worker. -/
def failTransport (self : SupervisedMultiplexedWorkerSession I) (externalId : ExternalToolId)
    (supervision : I) (source : MultiplexedWorkerError) : Call I S T V α := do
  assign { self with active := none, poisoned := true }
  let finished ← perform (SupervisedOp.finishInvocation supervision)
  match finished with
  | .ok .completed => do
    let termination ← perform SupervisedOp.terminate
    fail (.transport source termination)
  | .ok (.deadlineElapsed termination) =>
    fail (.indeterminate externalId .deadlineElapsed termination)
  | .ok (.sessionDeadlineElapsed termination) =>
    fail (.indeterminate externalId .sessionDeadlineElapsed termination)
  | .ok (.terminated termination) =>
    fail (.indeterminate externalId .workerTerminated termination)
  | .error source => do
    let termination ← perform SupervisedOp.terminate
    fail (.supervisor source termination)

def startExternalTool [JsonReader] (invocation : ExternalToolInvocation) (requestId : String) :
    Call I S T V Unit := do
  let self ← self
  check self.requireAvailable
  check (rejectIf (self.active.isSome = true) .busy)
  let (worker, binding) ← check
    ((ExternalToolWorkerBinding.prepare self.sessionId invocation requestId).mapError .bridge)
  let begun ← perform (SupervisedOp.beginInvocation self.deadline)
  match begun with
  | .error source => do
    assign { self with poisoned := true }
    let termination ← perform SupervisedOp.terminate
    fail (.supervisor source termination)
  | .ok supervision => do
    let sent ← perform (SupervisedOp.start worker)
    match sent with
    | .ok () => assign { self with active := some ⟨binding, supervision⟩ }
    | .error source => self.failTransport binding.id supervision source

def requestExternalToolCancellation (request : ExternalToolCancellationRequest)
    (cancellationId : String) : Call I S T V Unit := do
  let self ← self
  check self.requireAvailable
  let active ← check (self.active.okOr .noActiveInvocation)
  check ((active.binding.checkCancellation request).mapError .bridge)
  let sent ← perform (SupervisedOp.requestCancellation active.binding.pending cancellationId)
  match sent with
  | .ok () => assign { self with
      active := some { active with binding := { active.binding with
        cancellation := some ⟨cancellationId⟩, cancellationRequested := true } } }
  | .error source => self.failTransport active.binding.id active.supervision source

/-- What the worker said so far, and the binding after it was read. -/
def pollObservation (binding : ExternalToolWorkerBinding) :
    Call I S T V (Except MultiplexedWorkerError ExternalToolWorkerObservation ×
      ExternalToolWorkerBinding) :=
  if binding.terminal then
    return (.error .externalBindingTerminal, binding)
  else do
    let outcome ← perform (SupervisedOp.tryWait binding.pending)
    match outcome, binding.cancellation with
    | .error error, _ => return (.error error, binding)
    | .ok (some outcome), _ => return (.ok (.terminal outcome), binding)
    | .ok none, none => return (.ok .pending, binding)
    | .ok none, some cancellation => do
      let result ← perform (SupervisedOp.tryWaitCancellation cancellation)
      match result with
      | .error error => return (.error error, binding)
      | .ok none => return (.ok .pending, binding)
      | .ok (some result) =>
        return (.ok (ExternalToolWorkerBinding.ofDisposition result),
          { binding with cancellation := none })

/-- Disarms the watchdog before a final observation becomes an event. -/
def finishObservation (self : SupervisedMultiplexedWorkerSession I)
    (binding : ExternalToolWorkerBinding) (supervision : I)
    (outcome : MultiplexedWorkerInvocationOutcome) :
    Call I S T V (SupervisedExternalToolWorkerEvent T) := do
  assign { self with active := none }
  let finished ← perform (SupervisedOp.finishInvocation supervision)
  match finished with
  | .ok .completed => do
    let event ← check
      ((binding.eventFromObservation (.terminal outcome)).mapError .bridge)
    return .worker event
  | .ok (.deadlineElapsed termination) => do
    assign { self with active := none, poisoned := true }
    return .indeterminate binding.id .deadlineElapsed termination
  | .ok (.sessionDeadlineElapsed termination) => do
    assign { self with active := none, poisoned := true }
    return .indeterminate binding.id .sessionDeadlineElapsed termination
  | .ok (.terminated termination) => do
    assign { self with active := none, poisoned := true }
    return .indeterminate binding.id .workerTerminated termination
  | .error source => do
    assign { self with active := none, poisoned := true }
    let termination ← perform SupervisedOp.terminate
    fail (.supervisor source termination)

def pollExternalToolEvent : Call I S T V (SupervisedExternalToolWorkerEvent T) := do
  let self ← self
  check self.requireAvailable
  let active ← check (self.active.okOr .noActiveInvocation)
  let (observation, binding) ← pollObservation active.binding
  match observation with
  | .error source => self.failTransport active.binding.id active.supervision source
  | .ok (.terminal outcome) => self.finishObservation binding active.supervision outcome
  | .ok observation => do
    assign { self with active := some { active with binding } }
    let event ← check ((binding.eventFromObservation observation).mapError .bridge)
    return .worker event

/-- `ExternalToolWorkerEvent::apply_to_runtime`. -/
def applyToRuntime : ExternalToolWorkerEvent → Call I S T V (ExternalToolWorkerPoll V)
  | .pending => return .pending
  | .cancellationTooLate => return .cancellationTooLate
  | .cancellationUnsupported => return .cancellationUnsupported
  | .completed externalId output => do
    let answer ← perform (SupervisedOp.completeExternalTool externalId output)
    let evaluation ← check (answer.mapError fun error => .bridge (.external error))
    return .completed evaluation
  | .cancelled externalId acknowledgement => do
    check (rejectIf (acknowledgement.outcome ≠ .acknowledged)
      (.bridge .invalidCancelledOutcome))
    let answer ← perform (SupervisedOp.confirmExternalToolCancellation externalId)
    let evaluation ← check (answer.mapError fun error => .bridge (.external error))
    return .cancelled evaluation

def pollExternalTool : Call I S T V (SupervisedExternalToolWorkerPoll T V) := do
  let event ← pollExternalToolEvent
  match event with
  | .worker event => do
    let poll ← applyToRuntime event
    return .worker poll
  | .indeterminate externalId cause termination =>
    return .indeterminate externalId cause termination

end SupervisedMultiplexedWorkerSession

end Octoscript
