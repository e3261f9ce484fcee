import Octoscript.Capabilities.Host

namespace Octoscript

open CapabilityHost Effectful

structure HandleSlot where
  generation : UInt8
  promise : Option ScriptHandle
  deriving DecidableEq

/-- The slots, of which the first is never used, and the free handles, newest first. -/
structure HandleHeap where
  slots : List HandleSlot
  free : List ScriptHandle
  deriving DecidableEq

namespace HandleHeap

def new : HandleHeap := ⟨[⟨0, none⟩], []⟩

def newHandle (self : HandleHeap) (ty : UInt8) : ScriptHandle × HandleHeap :=
  match self.free with
  | handle :: free =>
    let handle := { handle with ty }
    (handle, ⟨self.slots.modify handle.index.toNat fun slot => { slot with promise := some handle }, free⟩)
  | [] =>
    let handle : ScriptHandle := ⟨ty, .ofNat self.slots.length, 0⟩
    (handle, ⟨self.slots ++ [⟨0, some handle⟩], []⟩)

/-- The sweep over one slot. -/
def sweepSlot (reachable : ℕ → Bool) (state : HandleHeap × CapabilityHost) (index : ℕ) :
    HandleHeap × CapabilityHost :=
  match state.1.slots[index]? with
  | some ⟨generation, some handle⟩ =>
    if reachable index then state
    else
      (⟨state.1.slots.set index ⟨generation + 1, none⟩,
          ⟨0, .ofNat index, generation + 1⟩ :: state.1.free⟩,
        state.2.gcPromise handle)
  | some ⟨_, none⟩ | none => state

def sweep (reachable : ℕ → Bool) (self : HandleHeap) (host : CapabilityHost) :
    HandleHeap × CapabilityHost :=
  (List.range' 1 (self.slots.length - 1)).foldl (sweepSlot reachable) (self, host)

end HandleHeap

/-- A running script clears the active lease when it ends, unless it was evaluated without
one. -/
inductive ScriptStatus
  | idle
  | running (thread : ScriptThreadId) (clearsLease : Bool)
  | paused
  deriving DecidableEq

structure CapabilityRuntime where
  host : CapabilityHost
  heap : HandleHeap
  script : ScriptStatus
  moduleCatalogSealed : Bool
  promiseType : UInt8
  maxPendingTools : ℕ

inductive ScriptAction
  | call (name input : String) (expectedFormat : Option ToolDataFormat)
  | start (name input : String) (expectedFormat : Option ToolDataFormat)
  | await (handle : ScriptHandle)
  deriving DecidableEq

/-- The calls of the host on a runtime, the actions of a running script and its end. -/
inductive RuntimeCall
  | register (policy : ToolPolicy) (metadata : ToolMetadata)
      (inputValidator outputValidator : Option ToolValidator) (dispatch : ToolDispatch)
  | setExternalStreamRedactor (name : String)
  | registerCapabilityModule (material : Wire.Bytes)
  | issueCapabilityLease (grants : List CapabilityLeaseGrant) (hasAuthorizer : Bool)
  | issueFullCapabilityLease
  | eval
  | evalWithCapabilityLease (lease : ℕ)
  | script (action : ScriptAction)
  | finish (suspended : Bool)
  | pump
  | expireTimedOutTools (maxExpirations : ℕ)
  | resumePendingEvaluation (thread : ScriptThreadId)
  | collectGarbage (reachable : ℕ → Bool)
  | claimNextExternalTool
  | claimExternalTool (id : ExternalToolId)
  | validateClaimedExternalTool (id : ExternalToolId)
  | externalReconcileRequest (id : ExternalToolId) (sessionId requestId : String)
  | reconcileExternalTool (id : ExternalToolId) (request : OperationReconcileRequest)
      (result : OperationReconcileResult)
  | requestExternalToolCancellation (id : ExternalToolId)
  | retryExternalTool (id : ExternalToolId) (retryClass : RetryClass)
  | pushExternalToolChunk (id : ExternalToolId) (chunk : String)
  | completeExternalTool (id : ExternalToolId) (result : Except ToolError String)
  | confirmExternalToolCancellation (id : ExternalToolId)
  | cancelExternalTool (id : ExternalToolId)

inductive RuntimeReply
  | done
  | lease (lease : ℕ)
  | output (output : String)
  | promise (handle : ScriptHandle)
  | awaited (result : Option (Except ToolError String))
  | claimed (invocation : Option ExternalToolInvocation)
  | retried (invocation : ExternalToolInvocation)
  | reconcileRequest (request : OperationReconcileRequest)
  | cancellationRequested (request : ExternalToolCancellationRequest)
  | chunk (chunk : ExternalToolStreamChunk)
  | completed (completions : List PendingCompletion)

inductive RuntimeCallError
  | registration (error : ToolRegistrationError)
  | stream (error : StreamConfigurationError)
  | catalogSealed
  | lease (error : CapabilityLeaseError)
  | runtime
  | tool (error : ToolError)
  | promise (message : String)
  | external (error : ExternalToolError)
  | scriptRunning
  | noScript
  deriving DecidableEq

namespace CapabilityRuntime
variable [JsonReader] [Blake3] {ε α : Type}

abbrev Call (α : Type) := Effectful HostOp HostOp.Answer CapabilityRuntime RuntimeCallError α

def new (host : CapabilityHost) (promiseType : UInt8) (maxPendingTools : ℕ) : CapabilityRuntime :=
  ⟨host, .new, .idle, false, promiseType, maxPendingTools⟩

/-- A method of the host. -/
def onHost (wrap : ε → RuntimeCallError) (x : CapabilityHost.Call ε α) : Call α :=
  mapErr wrap
    (zoom CapabilityRuntime.host (fun self host => { self with host }) x)

def setScript (script : ScriptStatus) : Call Unit := do
  let self ← self
  assign { self with script }

def sealCatalog : Call Unit := do
  let self ← self
  assign { self with moduleCatalogSealed := true }

def clearActiveCapabilityLease : Call Unit :=
  onHost .external CapabilityHost.clearActiveCapabilityLease

/-- The engine starts a script, unless one is suspended. -/
def evaluate (clearsLease : Bool) : Call Unit := do
  let self ← self
  if self.script = .paused then fail .runtime
  else do
    let thread ← perform HostOp.evaluate
    match thread with
    | some thread => setScript (.running thread clearsLease)
    | none => fail .runtime

def eval : Call Unit := do
  sealCatalog
  evaluate false

def evalWithCapabilityLease (lease : ℕ) : Call Unit := do
  onHost .lease (activateCapabilityLease lease)
  sealCatalog
  let evaluation ← attempt (evaluate true)
  match evaluation with
  | .ok () => pure ()
  | .error error => do
    clearActiveCapabilityLease
    fail error

/-- The script on a thread goes on, if the engine knows the thread. -/
def resumePendingEvaluation (thread : ScriptThreadId) : Call Unit := do
  let known ← perform (HostOp.resume thread)
  if known then setScript (.running thread true)
  else do
    clearActiveCapabilityLease
    fail .runtime

def resumeCompletion (completion : PendingCompletion) : Call Unit :=
  match completion.waitingThread with
  | some thread => resumePendingEvaluation thread
  | none => pure ()

/-- The running script is suspended or ends. -/
def finish (suspended clearsLease : Bool) : Call Unit :=
  if suspended then setScript .paused
  else do
    setScript .idle
    if clearsLease then clearActiveCapabilityLease else pure ()

/-- `new_tool_promise`. -/
def newToolPromise (ticket : ToolTicket) (id : ExternalToolId) (idempotencyKey : String) :
    Call ScriptHandle := do
  let self ← self
  let (handle, heap) := self.heap.newHandle self.promiseType
  assign { self with heap }
  onHost .external (insertPending handle id ticket idempotencyKey)
  return handle

def runAction (thread : ScriptThreadId) : ScriptAction → Call RuntimeReply
  | .call name input expectedFormat => do
    let output ← onHost .tool (call name input expectedFormat)
    return .output output
  | .start name input expectedFormat => do
    let self ← self
    let (ticket, id, idempotencyKey) ← onHost .tool
      (beginAsync name input self.maxPendingTools expectedFormat)
    let handle ← newToolPromise ticket id idempotencyKey
    return .promise handle
  | .await handle => do
    let result ← onHost .promise (awaitPromise handle thread)
    return .awaited result

/-- The completion of an external operation resumes the script that waits for it. -/
def resolveExternal (x : CapabilityHost.Call ExternalToolError PendingCompletion) :
    Call RuntimeReply := do
  let completion ← onHost .external x
  resumeCompletion completion
  return .completed [completion]

/-- A call of the host while no script runs. -/
def serveHost : RuntimeCall → Call RuntimeReply
  | .register policy metadata inputValidator outputValidator dispatch => do
    onHost .registration
      (register policy metadata inputValidator outputValidator dispatch)
    return .done
  | .setExternalStreamRedactor name => do
    onHost .stream (setExternalStreamRedactor name)
    return .done
  | .registerCapabilityModule material => do
    let self ← self
    check (rejectIf (self.moduleCatalogSealed = true) .catalogSealed)
    assign { self with host := { self.host with directModuleMaterial := material } }
    return .done
  | .issueCapabilityLease grants hasAuthorizer => do
    let lease ← onHost .lease (issueCapabilityLease grants hasAuthorizer)
    sealCatalog
    return .lease lease
  | .issueFullCapabilityLease => do
    let lease ← onHost .lease issueFullCapabilityLease
    sealCatalog
    return .lease lease
  | .eval => do
    eval
    return .done
  | .evalWithCapabilityLease lease => do
    evalWithCapabilityLease lease
    return .done
  | .pump => do
    let completion ← onHost .external runNextPending
    match completion with
    | some completion => do
      resumeCompletion completion
      return .completed [completion]
    | none => return .completed []
  | .expireTimedOutTools maxExpirations => do
    let now ← perform HostOp.now
    let completions ← onHost .external (expireDuePending now maxExpirations)
    return .completed completions
  | .resumePendingEvaluation thread => do
    resumePendingEvaluation thread
    return .done
  | .collectGarbage reachable => do
    let self ← self
    let (heap, host) := self.heap.sweep reachable self.host
    assign { self with heap, host }
    return .done
  | .claimNextExternalTool => do
    let invocation ← onHost .external claimNextExternal
    return .claimed invocation
  | .claimExternalTool id => do
    let invocation ← onHost .external (claimExternal id)
    return .claimed (some invocation)
  | .validateClaimedExternalTool id => do
    onHost .external (validateClaimedExternal id)
    return .done
  | .externalReconcileRequest id sessionId requestId => do
    let request ← onHost .external (externalReconcileRequest id sessionId requestId)
    return .reconcileRequest request
  | .reconcileExternalTool id request result => do
    let completion ← onHost .external (reconcileExternal id request result)
    match completion with
    | some completion => do
      resumeCompletion completion
      return .completed [completion]
    | none => return .completed []
  | .requestExternalToolCancellation id => do
    let request ← onHost .external (requestExternalCancellation id)
    return .cancellationRequested request
  | .retryExternalTool id retryClass => do
    let invocation ← onHost .external (retryExternal id retryClass)
    return .retried invocation
  | .pushExternalToolChunk id chunk => do
    let chunk ← onHost .external (pushExternalStreamChunk id chunk)
    return .chunk chunk
  | .completeExternalTool id result => resolveExternal (completeExternal id result)
  | .confirmExternalToolCancellation id =>
    resolveExternal (confirmExternalCancellation id)
  | .cancelExternalTool id => resolveExternal (cancelExternal id)
  | .script _ | .finish _ => fail .noScript

/-- While a script runs, only the script acts. -/
def serve (call : RuntimeCall) : Call RuntimeReply := do
  let self ← self
  match self.script, call with
  | .running thread _, .script action => runAction thread action
  | .running _ clearsLease, .finish suspended => do
    finish suspended clearsLease
    return .done
  | .running .., _ => fail .scriptRunning
  | .idle, _ | .paused, _ => serveHost call

end CapabilityRuntime

end Octoscript
