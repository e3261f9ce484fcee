import Octoscript.Protocol.Channel
import Octoscript.Worker.JournalStore

namespace Octoscript

open Effectful SessionAuthorizer WorkerOp WorkerOperationJournal

def defaultMaxReconciliationsPerTool : UInt32 := 16
def defaultMaxReconciliationsPerSession : UInt32 := 64

structure WorkerSessionLimits where
  (maxReconciliationsPerTool maxReconciliationsPerSession : UInt32)
  perTool_nonzero : maxReconciliationsPerTool ≠ 0
  perSession_nonzero : maxReconciliationsPerSession ≠ 0
  deriving DecidableEq

namespace WorkerSessionLimits

def default : WorkerSessionLimits :=
  ⟨defaultMaxReconciliationsPerTool, defaultMaxReconciliationsPerSession, by decide, by decide⟩

end WorkerSessionLimits

inductive WorkerSessionOpenError (A : Type)
  | requiresWorkerAuthenticator
  | protocol (error : ProtocolError)
  | unexpectedOpeningMessage
  | missingAdapter (tool : String)
  | invalidJournalLease
  | admission (error : A)

/-- How the journal store failed to persist. -/
inductive JournalPersistenceFailure (SE : Type)
  | store (error : SE)
  | invalidRevision (expected actual : UInt64)

/-- Why a worker cannot report an effect that an adapter may have caused. -/
inductive WorkerIndeterminateCause (SE : Type)
  | adapter (error : WorkerAdapterError)
  | protocol (error : ProtocolError)
  | journal (error : SE)
  | invalidJournalRevision (expected actual : UInt64)

def WorkerIndeterminateCause.fromPersistenceFailure {SE : Type} :
    JournalPersistenceFailure SE → WorkerIndeterminateCause SE
  | .store error => .journal error
  | .invalidRevision expected actual => .invalidJournalRevision expected actual

inductive WorkerSessionError (SE : Type)
  | protocol (error : ProtocolError)
  | journal (error : SE)
  | invalidJournalRevision (expected actual : UInt64)
  | sessionPoisoned
  | missingAdapter (tool : String)
  | invocationSafetyNotDeclared (tool : String)
  | durableOperationContractNotDeclared (tool : String)
  | adapter (tool : String) (error : WorkerAdapterError)
  | indeterminateOperation (operationKey : String) (cause : WorkerIndeterminateCause SE)
  | indeterminateCompensation (operationKey compensationKey : String)
      (cause : WorkerIndeterminateCause SE)
  | pendingOperation (operationKey : String)
  | pendingCompensation (operationKey : String)
  | reconciliationBudgetExhausted (tool : String) (maximum : UInt32)
  | reconciliationSessionBudgetExhausted (maximum : UInt32)
  | unexpectedMessage (message : String)

def WorkerSessionError.fromPersistenceFailure {SE : Type} :
    JournalPersistenceFailure SE → WorkerSessionError SE
  | .store error => .journal error
  | .invalidRevision expected actual => .invalidJournalRevision expected actual

/-- The state of an effect that the journal knows already. -/
def WorkerOperationAdmission.existing? : WorkerOperationAdmission → Option WorkerOperationState
  | .dispatch => none
  | .existing state => some state

def WorkerCompensationAdmission.existing? : WorkerCompensationAdmission → Option WorkerOperationState
  | .dispatch => none
  | .existing state => some state

/-- A worker session. The adapters are their names; what is behind a name is the
environment. -/
structure WorkerSession where
  authenticator : SessionAuthenticator
  authorizer : SessionAuthorizer
  journal : WorkerOperationJournal
  journalRevision : UInt64
  journalLease : WorkerJournalLease
  adapters : Finset String
  limits : WorkerSessionLimits
  reconciliationsByTool : Std.ExtTreeMap String UInt32
  reconciliationsTotal : UInt32
  poisoned : Bool

namespace WorkerSession

/-- Every granted tool has an adapter. -/
def requireAdapters {A : Type} (adapters : Finset String) :
    List CapabilityGrant → Except (WorkerSessionOpenError A) Unit
  | [] => .ok ()
  | grant :: grants => do
    rejectIf (grant.tool ∉ adapters) (.missingAdapter grant.tool)
    requireAdapters adapters grants

def openingManifest {A : Type} : WorkerMessage → Except (WorkerSessionOpenError A) CapabilityManifest
  | .openSession manifest => .ok manifest
  | _ => .error .unexpectedOpeningMessage

/-- `open`, as a method of the authenticator it consumes; `provenance` is the address of
the authorizer's fresh cell. -/
def openSession [Blake3] {E A : Type} (provenance : ℕ) (openingFrame : AuthenticatedWorkerMessage)
    (journal : WorkerOperationJournal) (journalRevision : UInt64) (adapters : Finset String)
    (limits : WorkerSessionLimits) : Effectful WorkerOp (Answer E A) SessionAuthenticator
      (WorkerSessionOpenError A) WorkerSession := do
  let authenticator ← self
  check (rejectIf (authenticator.role ≠ .worker) .requiresWorkerAuthenticator)
  let message ← mapErr .protocol
    (ofMut (SessionAuthenticator.openFrame openingFrame))
  let manifest ← check (openingManifest message)
  let authorizer ← check ((new provenance manifest).mapError .protocol)
  check (requireAdapters adapters authorizer.manifest.grants)
  let answer ← perform (admitSession authorizer.manifest journal.scope)
  let fencingToken ← check (answer.mapError .admission)
  let journalLease ← check
    ((WorkerJournalLease.fromFencingToken fencingToken).okOr .invalidJournalLease)
  let authenticator ← self
  return { authenticator, authorizer, journal, journalRevision, journalLease, adapters, limits,
           reconciliationsByTool := ∅, reconciliationsTotal := 0, poisoned := false }

variable {E A α : Type}

/-- The errors of the journal store. -/
abbrev StoreError (E : Type) := AuthenticatedWorkerJournalStoreError E

/-- A method of the session. -/
abbrev Call (E A α : Type) :=
  Effectful WorkerOp (Answer E A) WorkerSession (WorkerSessionError (StoreError E)) α

@[simps]
def setAuthenticator (self : WorkerSession) (authenticator : SessionAuthenticator) :
    WorkerSession := { self with authenticator }

@[simps]
def setAuthorizer (self : WorkerSession) (authorizer : SessionAuthorizer) : WorkerSession :=
  { self with authorizer }

@[simps]
def setJournal (self : WorkerSession) (journal : WorkerOperationJournal) : WorkerSession :=
  { self with journal }

@[simps]
def setRevision (self : WorkerSession) (journalRevision : UInt64) : WorkerSession :=
  { self with journalRevision }

/-- The journal is restored and the session is unsafe to continue. -/
@[simps]
def poison (self : WorkerSession) (journal : WorkerOperationJournal) : WorkerSession :=
  { self with journal, poisoned := true }

def onAuthenticator (x : SessionAuthenticator.Call α) : Call E A α :=
  ofMut (Mut.mapErr .protocol (x.onField authenticator setAuthenticator))

def onAuthorizer (x : SessionAuthorizer.Call α) : Call E A α :=
  ofMut (Mut.mapErr .protocol (x.onField authorizer setAuthorizer))

/-- A call on the journal, with its `map_err`. -/
def onJournal (toError : ProtocolError → WorkerSessionError (StoreError E))
    (x : WorkerOperationJournal.Call α) : Call E A α :=
  ofMut (Mut.mapErr toError (x.onField journal setJournal))

def requireAdapter (tool : String) : Call E A Unit := do
  let self ← self
  check (rejectIf (tool ∉ self.adapters) (.missingAdapter tool))

def sealResponse [Blake3] (response : WorkerMessage) : Call E A AuthenticatedWorkerMessage :=
  onAuthenticator (SessionAuthenticator.sealFrame response)

/-- What a session makes of the store's answer to a persist. -/
def finishPersist (before : WorkerOperationJournal) (answer : Except (StoreError E) UInt64) :
    Mut WorkerSession (JournalPersistenceFailure (StoreError E)) Unit := do
  let self ← Mut.self
  match answer with
  | .ok actualRevision =>
    if actualRevision > self.journalRevision then
      Mut.assign (self.setRevision actualRevision)
    else
      Mut.assign (self.poison before)
      throw (.invalidRevision self.journalRevision actualRevision)
  | .error error =>
    Mut.assign (self.poison before)
    throw (.store error)

def persistJournal [Blake3] [EnvelopeReader] (store : AuthenticatedWorkerJournalStore)
    (before : WorkerOperationJournal) : Effectful WorkerOp (Answer E A) WorkerSession
      (JournalPersistenceFailure (StoreError E)) Unit := do
  let self ← self
  let answer ← attempt (store.persist self.journal self.journalRevision self.journalLease)
  ofMut (finishPersist before answer)

def persistAdmission [Blake3] [EnvelopeReader] (store : AuthenticatedWorkerJournalStore)
    (before : WorkerOperationJournal) : Call E A Unit :=
  mapErr .fromPersistenceFailure (persistJournal store before)

def persistObservation [Blake3] [EnvelopeReader] (store : AuthenticatedWorkerJournalStore)
    (before : WorkerOperationJournal) : Effectful WorkerOp (Answer E A) WorkerSession
      (JournalPersistenceFailure (StoreError E)) Unit :=
  persistJournal store before

/-- The count of the tool is entered before it is compared. -/
def reserveReconciliation (tool : String) : Mut WorkerSession (WorkerSessionError (StoreError E))
    Unit := do
  let self ← Mut.self
  rejectIf (self.reconciliationsTotal ≥ self.limits.maxReconciliationsPerSession)
    (.reconciliationSessionBudgetExhausted self.limits.maxReconciliationsPerSession)
  let reconciliations := self.reconciliationsByTool.getD tool 0
  Mut.assign { self with
    reconciliationsByTool := self.reconciliationsByTool.insert tool reconciliations }
  rejectIf (reconciliations ≥ self.limits.maxReconciliationsPerTool)
    (.reconciliationBudgetExhausted tool self.limits.maxReconciliationsPerTool)
  Mut.assign { self with
    reconciliationsByTool := self.reconciliationsByTool.insert tool reconciliations.saturatingSucc
    reconciliationsTotal := self.reconciliationsTotal.saturatingSucc }

/-- The adapter must have declared how its durable effects are recovered. -/
def requireDurableContract (tool : String) : Call E A Unit := do
  requireAdapter tool
  let contract ← perform (durableOperationContract tool)
  check (rejectIf (contract = none) (.durableOperationContractNotDeclared tool))

/-- One durable effect: the call to the adapter, the journal's admission and observation
of it, and its errors. -/
structure DurableEffect (E A : Type) where
  tool : String
  admitIntent : WorkerOperationJournal.Call (Option WorkerOperationState)
  run : Call E A (Except WorkerAdapterError OperationStatus)
  observe : OperationStatus → WorkerOperationJournal.Call WorkerOperationState
  indeterminate : WorkerIndeterminateCause (StoreError E) → WorkerSessionError (StoreError E)
  pending : WorkerSessionError (StoreError E)

namespace DurableEffect

def adapterError (effect : DurableEffect E A) :
    WorkerAdapterError → WorkerSessionError (StoreError E)
  | .indeterminate => effect.indeterminate (.adapter .indeterminate)
  | error => .adapter effect.tool error

variable [Blake3] [EnvelopeReader] (store : AuthenticatedWorkerJournalStore)

/-- The adapter is called, and what it reports is journaled and persisted. -/
def perform (effect : DurableEffect E A) : Call E A OperationStatus := do
  requireAdapter effect.tool
  let answer ← effect.run
  let status ← Effectful.check (answer.mapError effect.adapterError)
  let self ← self
  let _ ← onJournal (fun error => effect.indeterminate (.protocol error)) (effect.observe status)
  mapErr (fun failure => effect.indeterminate (.fromPersistenceFailure failure))
    (persistObservation store self.journal)
  return status

/-- A new effect is performed once its intent is durable; a known one is answered from
the journal. -/
def settle (effect : DurableEffect E A) : Call E A OperationStatus := do
  let self ← self
  let existing ← onJournal .protocol effect.admitIntent
  match existing with
  | none => do
    persistAdmission store self.journal
    effect.perform store
  | some state => Effectful.check (state.asStatus.okOr effect.pending)

end DurableEffect

def dispatchEffect [Blake3] (authorized : AuthorizedOperationInvocation) : DurableEffect E A where
  tool := authorized.request.tool
  admitIntent := do
    let admission ← admitOperation authorized
    return admission.existing?
  run := perform (dispatchOperation authorized.request authorized.grant)
  observe := observe authorized
  indeterminate := .indeterminateOperation authorized.request.operationKey
  pending := .pendingOperation authorized.request.operationKey

def compensateEffect [Blake3] (authorized : AuthorizedOperationCompensation) :
    DurableEffect E A where
  tool := authorized.request.tool
  admitIntent := do
    let admission ← admitCompensation authorized
    return admission.existing?
  run := perform (compensateOperation authorized.request authorized.grant)
  observe := observeCompensation authorized
  indeterminate := .indeterminateCompensation authorized.request.operationKey
    authorized.request.compensationKey
  pending := .pendingCompensation authorized.request.operationKey

variable [Blake3] [EnvelopeReader] (store : AuthenticatedWorkerJournalStore)

omit [EnvelopeReader] in
def handleInvoke (invocation : ToolInvocation) : Call E A AuthenticatedWorkerMessage := do
  let authorized ← onAuthorizer (SessionAuthorizer.authorize invocation)
  let request := authorized.invocation
  requireAdapter request.tool
  let safety ← perform (invocationSafety request.tool)
  check (rejectIf (safety = none) (.invocationSafetyNotDeclared request.tool))
  let answer ← Effectful.perform (WorkerOp.invoke request authorized.grant)
  let payload ← check (answer.mapError (.adapter request.tool))
  let result ← check
    ((ToolResult.new request.sessionId request.requestId payload).mapError .protocol)
  onAuthorizer (SessionAuthorizer.validateResult authorized result)
  sealResponse (.result result)

def handleOperationDispatch (request : OperationDispatchRequest) :
    Call E A AuthenticatedWorkerMessage := do
  let authorized ← onAuthorizer (SessionAuthorizer.authorizeOperation request)
  let request := authorized.request
  requireDurableContract request.tool
  let status ← (dispatchEffect authorized).settle store
  let result ← check ((OperationReconcileResult.new request.sessionId request.requestId
    request.tool request.operationKey status).mapError .protocol)
  onAuthorizer (SessionAuthorizer.validateOperationResult authorized result)
  sealResponse (.operationResult result)

def handleCompensation (request : OperationCompensationRequest) :
    Call E A AuthenticatedWorkerMessage := do
  let authorized ← onAuthorizer (SessionAuthorizer.authorizeCompensation request)
  let request := authorized.request
  requireDurableContract request.tool
  let status ← (compensateEffect authorized).settle store
  let binding ← check ((OperationCompensationBinding.new request.tool
    request.operationKey request.compensationKey request.tenantScope
    request.grantFingerprint).mapError .protocol)
  let result ← check ((OperationCompensationResult.new request.sessionId
    request.requestId binding status).mapError .protocol)
  onAuthorizer (SessionAuthorizer.validateCompensationResult authorized result)
  sealResponse (.compensationResult result)

def handleReconciliation (request : OperationReconcileRequest) :
    Call E A AuthenticatedWorkerMessage := do
  let authorized ← onAuthorizer (SessionAuthorizer.authorizeReconciliation request)
  let request := authorized.request
  let self ← self
  check ((self.journal.validateReconciliation authorized).mapError .protocol)
  ofMut (reserveReconciliation request.tool)
  requireAdapter request.tool
  let answer ← perform (reconcileOperation request authorized.grant)
  let status ← check (answer.mapError (.adapter request.tool))
  let self ← Effectful.self
  let _ ← onJournal .protocol (WorkerOperationJournal.observeReconciliation authorized status)
  Effectful.mapErr .fromPersistenceFailure (persistObservation store self.journal)
  let result ← check ((OperationReconcileResult.new request.sessionId request.requestId
    request.tool request.operationKey status).mapError .protocol)
  onAuthorizer (SessionAuthorizer.validateReconciliationResult authorized result)
  sealResponse (.reconciledOperation result)

def handle (frame : AuthenticatedWorkerMessage) : Call E A AuthenticatedWorkerMessage := do
  let self ← self
  check (rejectIf (self.poisoned = true) .sessionPoisoned)
  let message ← onAuthenticator (SessionAuthenticator.openFrame frame)
  match message with
  | .invoke invocation => handleInvoke invocation
  | .dispatchOperation request => handleOperationDispatch store request
  | .compensateOperation request => handleCompensation store request
  | .reconcileOperation request => handleReconciliation store request
  | .openSession _ => check (.error (.unexpectedMessage "open_session"))
  | .result _ => check (.error (.unexpectedMessage "result"))
  | .operationResult _ => check (.error (.unexpectedMessage "operation_result"))
  | .compensationResult _ => check (.error (.unexpectedMessage "compensation_result"))
  | .reconciledOperation _ => check (.error (.unexpectedMessage "reconciled_operation"))
  | .cancel _ => check (.error (.unexpectedMessage "cancel"))
  | .cancellationResult _ => check (.error (.unexpectedMessage "cancellation_result"))
  | .closeSession .. => check (.error (.unexpectedMessage "close_session"))

end WorkerSession

end Octoscript
