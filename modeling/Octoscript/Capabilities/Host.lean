import Octoscript.Capabilities.Tool
import Octoscript.Lib.Transcript

namespace Octoscript
open Wire Effectful

structure ScriptHandle where
  ty : UInt8
  index : UInt32
  generation : UInt8
  deriving DecidableEq

/-- The derived order: type, index, generation. -/
instance : Ord ScriptHandle :=
  ⟨compareLex (compareOn fun h => h.ty.toNat) (compareLex (compareOn fun h => h.index.toNat)
    (compareOn fun h => h.generation.toNat))⟩

instance : Std.TransOrd ScriptHandle :=
  inferInstanceAs (Std.TransCmp (compareLex (compareOn fun h : ScriptHandle => h.ty.toNat)
    (compareLex (compareOn fun h => h.index.toNat) (compareOn fun h => h.generation.toNat))))

instance : Std.LawfulEqOrd ScriptHandle where
  eq_of_compare {a b} h := by
    obtain ⟨hty, hindex, hgeneration⟩ : compare a.ty.toNat b.ty.toNat = .eq ∧
        compare a.index.toNat b.index.toNat = .eq ∧
        compare a.generation.toNat b.generation.toNat = .eq := by
      simpa [compare, compareLex, compareOn, Ordering.then_eq_eq] using h
    have hty := UInt8.toNat_inj.mp (Std.LawfulEqCmp.eq_of_compare hty)
    have hindex := UInt32.toNat_inj.mp (Std.LawfulEqCmp.eq_of_compare hindex)
    have hgeneration := UInt8.toNat_inj.mp (Std.LawfulEqCmp.eq_of_compare hgeneration)
    cases a
    cases b
    simp_all

structure ScriptThreadId where
  index : ℕ
  deriving DecidableEq

inductive PendingDispatch
  | hostPump
  | externalQueued
  | externalClaimed
  | externalCancellationRequested
  deriving DecidableEq

inductive PendingToolState
  | pending (dispatch : PendingDispatch) (waitingThread : Option ScriptThreadId)
  | ready (result : Except ToolError String)

structure StreamAccounting where
  (chunks sourceBytes emittedBytes : ℕ)
  deriving DecidableEq

structure PendingTool where
  id : ExternalToolId
  ticket : ToolTicket
  attempt : UInt32
  idempotencyKey : String
  streamed : StreamAccounting
  state : PendingToolState
  orphaned : Bool

structure ExternalToolStreamChunk where
  id : ExternalToolId
  name : String
  callIndex : ℕ
  attempt : UInt32
  chunkIndex : ℕ
  (idempotencyKey text : String)
  deriving DecidableEq

structure PendingCompletion where
  waitingThread : Option ScriptThreadId
  deriving DecidableEq

namespace PendingTool
variable {α : Type}

/-- What a call on a claimed operation does while it is claimed and once its cancellation
is requested; in every other state it is refused. -/
def whenClaimed (self : PendingTool)
    (claimed requested : Option ScriptThreadId → Except ExternalToolError α) :
    Except ExternalToolError α :=
  match self.state with
  | .pending .externalClaimed waitingThread => claimed waitingThread
  | .pending .externalCancellationRequested waitingThread => requested waitingThread
  | .pending .externalQueued _ => .error (.notClaimed self.id)
  | .pending .hostPump _ => .error (.notExternal self.id)
  | .ready _ => .error (.alreadyCompleted self.id)

def externalInvocation (self : PendingTool) (now : ℕ) : ExternalToolInvocation where
  id := self.id
  name := self.ticket.name
  input := self.ticket.input
  callIndex := self.ticket.callIndex
  attempt := self.attempt
  maxAttempts := self.ticket.maxAttempts
  idempotencyKey := self.idempotencyKey
  stream := self.ticket.stream
  format := self.ticket.dataFormat
  maxOutputBytes := self.ticket.maxOutputBytes
  remainingDeadlineMillis := self.ticket.remainingDeadlineMillis now

def externalCancellationRequest (self : PendingTool) : ExternalToolCancellationRequest where
  id := self.id
  name := self.ticket.name
  callIndex := self.ticket.callIndex
  attempt := self.attempt
  idempotencyKey := self.idempotencyKey

end PendingTool

structure CapabilityLeaseGrant where
  name : String
  maxCalls : ℕ
  deriving DecidableEq

inductive CapabilityLeaseError
  | unknownTool (name : String)
  | duplicateTool (name : String)
  | zeroCallLimit (name : String)
  | callLimitExceedsPolicy (tool : String) (requested maximum : ℕ)
  | runtimeMismatch
  | catalogChanged
  | leaseAlreadyActive
  deriving DecidableEq

structure CapabilityLeaseState where
  runtimeId : UInt64
  catalogFingerprint : String
  (grants calls : Std.ExtTreeMap String ℕ)
  hasAuthorizer : Bool

namespace CapabilityLeaseState

def validateFor (self : CapabilityLeaseState) (runtimeId : UInt64) (catalogFingerprint : String) :
    Except CapabilityLeaseError Unit := do
  rejectIf (self.runtimeId ≠ runtimeId) .runtimeMismatch
  rejectIf (self.catalogFingerprint ≠ catalogFingerprint) .catalogChanged

def callsOf (self : CapabilityLeaseState) (name : String) : ℕ := self.calls.getD name 0

end CapabilityLeaseState

/-- What an observer of a run learns. -/
inductive HostNote
  | issued (lease : Option ℕ) (ticket : ToolTicket)
  | queued (id : ExternalToolId) (ticket : ToolTicket) (idempotencyKey : String)
  | resolved (id : ExternalToolId) (result : Except ToolError String)
  | audited (event : AuditEvent)

/-- The engine runs a script on a thread or refuses it, and resumes a thread that it knows. -/
inductive HostOp
  | now
  | authorize (lease : ℕ) (request : ToolRequest) (descriptor : ToolDescriptor)
  | handle (request : ToolRequest)
  | redact (name chunk : String)
  | evaluate
  | resume (thread : ScriptThreadId)
  | note (note : HostNote)

@[reducible] def HostOp.Answer : HostOp → Type
  | .now => ℕ
  | .authorize .. => Except ToolError Unit
  | .handle _ => Except ToolError String
  | .redact .. => String
  | .evaluate => Option ScriptThreadId
  | .resume _ => Bool
  | .note _ => Unit

structure CapabilityCatalogLimits where
  (maxTools maxSerializedBytes : ℕ)
  deriving DecidableEq

/-- Leases are shared: the host keeps them all, and refers to the active one. -/
structure CapabilityHost where
  sessionId : UInt64
  sessionNonce : Option String
  catalogLimits : CapabilityCatalogLimits
  tools : Std.ExtTreeMap String RegisteredTool
  directModuleMaterial : Bytes
  leases : List CapabilityLeaseState
  activeLease : Option ℕ
  (nextSequence nextPendingId : UInt64)
  pending : Std.ExtTreeMap ScriptHandle PendingTool

namespace CapabilityHost

abbrev Call (ε α : Type) := Effectful HostOp HostOp.Answer CapabilityHost ε α

def new (sessionId : UInt64) (sessionNonce : Option String) (catalogLimits : CapabilityCatalogLimits) :
    CapabilityHost where
  sessionId := sessionId
  sessionNonce := sessionNonce
  catalogLimits := catalogLimits
  tools := ∅
  directModuleMaterial := []
  leases := []
  activeLease := none
  nextSequence := 0
  nextPendingId := 0
  pending := ∅

variable {ε : Type}

def auditToolLabel [Blake3] (self : CapabilityHost) (name : String) : String :=
  if isValidToolName name then name
  else
    let nonce := match self.sessionNonce with
      | some nonce => 1 :: component (utf8 nonce)
      | none => [0]
    unrecognizedAuditToolLabel ++ (Blake3.hash (utf8 "octoscript-capability-audit-label-v1" ++
      beBytes self.sessionId ++ nonce ++ component (utf8 name))).toHex

/-- The audit view numbers the event and retains it. -/
def recordAudit (event : AuditEvent) : Call ε Unit :=
  perform (HostOp.note (.audited event))

def outcomeOf : Except ToolError String → ℕ × AuditOutcome
  | .ok output => (output.utf8ByteSize, .allowed)
  | .error (.denied _) => (0, .denied)
  | .error (.failed _) => (0, .failed)
  | .error (.cancelled _) => (0, .cancelled)
  | .error (.timedOut _) => (0, .timedOut)

/-- One audit record about a call. -/
def recordCall [Blake3] (sequence : UInt64) (name : String) (inputBytes outputBytes : ℕ)
    (outcome : AuditOutcome) (retryClass : Option RetryClass) : Call ε Unit := do
  let self ← self
  recordAudit ⟨0, sequence, self.auditToolLabel name, inputBytes, outputBytes, outcome, retryClass⟩

def recordTicketResult [Blake3] (ticket : ToolTicket) (result : Except ToolError String) :
    Call ε Unit :=
  recordCall ticket.sequence ticket.name ticket.inputBytes (outcomeOf result).1 (outcomeOf result).2
    none

def recordResult [Blake3] (sequence : UInt64) (name : String) (inputBytes : ℕ) (error : ToolError) :
    Call ε Unit :=
  recordCall sequence name inputBytes 0 (outcomeOf (.error error)).2 none

def recordRetry [Blake3] (ticket : ToolTicket) (retryClass : RetryClass) : Call ε Unit :=
  recordCall ticket.sequence ticket.name ticket.inputBytes 0 .retryScheduled (some retryClass)

def recordCancellationRequested [Blake3] (ticket : ToolTicket) : Call ε Unit :=
  recordCall ticket.sequence ticket.name ticket.inputBytes 0 .cancellationRequested none

def recordStream [Blake3] (ticket : ToolTicket) (sourceBytes emittedBytes : ℕ)
    (outcome : AuditOutcome) : Call ε Unit :=
  recordCall ticket.sequence ticket.name sourceBytes emittedBytes outcome none

def toolCatalog (self : CapabilityHost) : List ToolDescriptor :=
  self.tools.toList.map fun tool => tool.2.descriptor

def encodeCatalog (catalog : List ToolDescriptor) : Bytes :=
  Json.encode (.array (catalog.map ToolDescriptor.toJson))

def catalogFingerprint [Blake3] (self : CapabilityHost) : String :=
  let catalog := component (encodeCatalog self.toolCatalog)
  (Blake3.hash (if self.directModuleMaterial = [] then
      utf8 "octoscript-capability-catalog-v1" ++ catalog
    else
      utf8 "octoscript-capability-catalog-with-direct-modules-v1" ++ catalog ++
        component self.directModuleMaterial)).toHex

def ensureCatalogCapacity (self : CapabilityHost) (candidate : RegisteredTool) :
    Except ToolRegistrationError Unit := do
  rejectIf (self.tools.size ≥ self.catalogLimits.maxTools)
    (.catalogToolLimitExceeded self.catalogLimits.maxTools)
  let actual := (encodeCatalog (self.toolCatalog ++ [candidate.descriptor])).length
  rejectIf (actual > self.catalogLimits.maxSerializedBytes)
    (.catalogByteLimitExceeded actual self.catalogLimits.maxSerializedBytes)

/-- `register_with_validators`, through which every tool is registered. -/
def register (policy : ToolPolicy) (metadata : ToolMetadata)
    (inputValidator outputValidator : Option ToolValidator) (dispatch : ToolDispatch) :
    Call ToolRegistrationError Unit := do
  let self ← self
  check (rejectIf (self.activeLease.isSome = true) .activeCapabilityLease)
  check (rejectIf (dispatch ≠ .external ∧ policy.stream.isSome = true)
    (.invalidPolicy "stream policy requires an external tool"))
  check policy.validate
  check (metadata.validateFor policy.dataFormat)
  check (rejectIf (dispatch = .external ∧ self.sessionNonce.isNone = true)
    .externalIdempotencyNonceUnavailable)
  check (rejectIf (policy.name ∈ self.tools) (.duplicate policy.name))
  let registered : RegisteredTool := {
    policy, metadata, dispatch
    contractEnforced := inputValidator.isSome && outputValidator.isSome
    calls := 0
    inputValidator, outputValidator
    hasStreamRedactor := false
    implementation := dispatch }
  check (self.ensureCatalogCapacity registered)
  assign { self with tools := self.tools.insert policy.name registered }

inductive StreamConfigurationError
  | unknownTool (name : String)
  | notExternal (name : String)
  | streamingDisabled (name : String)
  | alreadyReserved (name : String)
  deriving DecidableEq

def setExternalStreamRedactor (name : String) : Call StreamConfigurationError Unit := do
  let self ← self
  let registered ← check (self.tools[name]?.okOr (.unknownTool name))
  check (rejectIf (registered.dispatch ≠ .external) (.notExternal name))
  check (rejectIf (registered.policy.stream.isNone = true) (.streamingDisabled name))
  check (rejectIf (registered.calls ≠ 0) (.alreadyReserved name))
  assign { self with
    tools := self.tools.insert name { registered with hasStreamRedactor := true } }

/-- The loop over the grants of a new lease. -/
def grantedCalls (self : CapabilityHost) :
    Std.ExtTreeMap String ℕ → List CapabilityLeaseGrant →
      Except CapabilityLeaseError (Std.ExtTreeMap String ℕ)
  | granted, [] => .ok granted
  | granted, grant :: grants => do
    rejectIf (grant.maxCalls = 0) (.zeroCallLimit grant.name)
    let registered ← self.tools[grant.name]?.okOr (.unknownTool grant.name)
    rejectIf (grant.maxCalls > registered.policy.maxCalls)
      (.callLimitExceedsPolicy grant.name grant.maxCalls registered.policy.maxCalls)
    rejectIf (grant.name ∈ granted) (.duplicateTool grant.name)
    self.grantedCalls (granted.insert grant.name grant.maxCalls) grants

/-- Returns a reference to the new lease. -/
def issueCapabilityLease [Blake3] (grants : List CapabilityLeaseGrant) (hasAuthorizer : Bool) :
    Call CapabilityLeaseError ℕ := do
  let self ← self
  check (rejectIf (self.activeLease.isSome = true) .leaseAlreadyActive)
  let granted ← check (self.grantedCalls ∅ grants)
  let lease : CapabilityLeaseState := {
    runtimeId := self.sessionId
    catalogFingerprint := self.catalogFingerprint
    grants := granted
    calls := ∅
    hasAuthorizer }
  assign { self with leases := self.leases ++ [lease] }
  return self.leases.length

def issueFullCapabilityLease [Blake3] : Call CapabilityLeaseError ℕ := do
  let self ← self
  issueCapabilityLease (self.tools.toList.map fun tool =>
    ⟨tool.2.policy.name, tool.2.policy.maxCalls⟩) false

/-- The state of a lease; a reference that was never given out permits nothing. -/
def leaseState (self : CapabilityHost) (lease : ℕ) : CapabilityLeaseState :=
  self.leases.getD lease ⟨0, "", ∅, ∅, false⟩

def activateCapabilityLease [Blake3] (lease : ℕ) : Call CapabilityLeaseError Unit := do
  let self ← self
  check (rejectIf (self.activeLease.isSome = true) .leaseAlreadyActive)
  check ((self.leaseState lease).validateFor self.sessionId self.catalogFingerprint)
  assign { self with activeLease := some lease }

def clearActiveCapabilityLease : Call ε Unit := do
  let self ← self
  assign { self with activeLease := none }

/-- The authorizer of a lease, if it has one, may refuse the call. -/
def askAuthorizer (lease : ℕ) (state : CapabilityLeaseState) (request : ToolRequest)
    (descriptor : ToolDescriptor) : Call ToolError Unit :=
  if state.hasAuthorizer then do
    let answer ← perform (HostOp.authorize lease request descriptor)
    check answer
  else pure ()

/-- `CapabilityLeaseState::authorize` on a shared lease. -/
def authorize (lease : ℕ) (request : ToolRequest) (descriptor : ToolDescriptor) :
    Call ToolError Unit := do
  let self ← self
  let state := self.leaseState lease
  let maximum ← check (state.grants[request.name]?.okOr
    (.denied s!"{request.name} is not granted by the active capability lease"))
  let calls := state.callsOf request.name
  check (rejectIf (calls ≥ maximum)
    (.denied s!"{request.name} exhausted its capability lease call budget of {maximum}"))
  askAuthorizer lease state request descriptor
  let state := { state with calls := state.calls.insert request.name (calls + 1) }
  assign { self with leases := self.leases.set lease state }

def RegisteredTool.validateInput (registered : RegisteredTool) (input : String) :
    Except ToolError Unit :=
  match registered.inputValidator with
  | some validator => validator input
  | none => .ok ()

/-- The deadline of a deferred call starts with its reservation. -/
def startDeadline (kind : ToolInvocationKind) (maximum : Option ℕ) :
    Call ε (Option DeferredDeadline) :=
  match kind, maximum with
  | .deferred, some maximum => do
    let now ← perform HostOp.now
    return some ⟨now, maximum⟩
  | .deferred, none | .synchronous, _ => return none

/-- Without an active lease a call is not charged to one. -/
def authorizeActive (request : ToolRequest) (descriptor : ToolDescriptor) :
    Option ℕ → Call ToolError Unit
  | some lease => authorize lease request descriptor
  | none => pure ()

def reserveRegistered (sequence : UInt64) (name input : String) (kind : ToolInvocationKind)
    (registered : RegisteredTool) : Call ToolError ToolTicket := do
  check (RegisteredTool.validateInput registered input)
  check (rejectIf (registered.calls ≥ registered.policy.maxCalls)
    (.denied s!"{name} exhausted its {registered.policy.maxCalls} call budget"))
  let callIndex := registered.calls + 1
  let self ← self
  let lease := self.activeLease
  authorizeActive ⟨name, input, callIndex⟩ registered.descriptor lease
  let self ← Effectful.self
  Effectful.assign { self with
    tools := self.tools.insert name { registered with calls := callIndex } }
  let deadline ← startDeadline kind registered.policy.maxDeferredDuration
  let ticket : ToolTicket := {
    sequence, name, input, callIndex, deadline
    inputBytes := input.utf8ByteSize
    maxOutputBytes := registered.policy.maxOutputBytes
    maxAttempts := registered.policy.maxAttempts
    stream := registered.policy.stream
    dataFormat := registered.policy.dataFormat
    dispatch := registered.dispatch }
  perform (HostOp.note (.issued lease ticket))
  return ticket

def validateInputEnvelope [JsonReader] (registered : RegisteredTool) (name input : String) :
    Except ToolError Unit :=
  match registered.policy.dataFormat with
  | .json => validateJsonEnvelope input name "input"
  | .text => .ok ()

/-- What a reservation checks before the tool's own limits. -/
def checkReservation [JsonReader] (self : CapabilityHost) (name input : String)
    (expectedFormat : Option ToolDataFormat) (kind : ToolInvocationKind) :
    Except ToolError RegisteredTool := do
  let registered ← self.tools[name]?.okOr (.denied s!"no capability grants {name}")
  rejectIf (expectedFormat.isSome = true ∧ expectedFormat ≠ some registered.policy.dataFormat)
    (.denied s!"{name} is not registered for JSON envelopes")
  rejectIf (kind = .synchronous ∧ registered.dispatch = .external)
    (.denied s!"{name} is available only through tool.start")
  rejectIf (input.utf8ByteSize > registered.policy.maxInputBytes)
    (.denied s!"{name} input exceeds {registered.policy.maxInputBytes} bytes")
  validateInputEnvelope registered name input
  return registered

/-- The number of the next call. -/
def takeSequence : Call ε UInt64 := do
  let self ← self
  assign { self with nextSequence := self.nextSequence.saturatingSucc }
  return self.nextSequence

def reserve [JsonReader] [Blake3] (name input : String) (expectedFormat : Option ToolDataFormat)
    (kind : ToolInvocationKind) : Call ToolError ToolTicket := do
  let sequence ← takeSequence
  let self ← self
  let result ← attempt (do
    let registered ← check (self.checkReservation name input expectedFormat kind)
    reserveRegistered sequence name input kind registered)
  match result with
  | .ok ticket => return ticket
  | .error error => do
    recordResult sequence name input.utf8ByteSize error
    fail error

def validateOutput [JsonReader] (self : CapabilityHost) (ticket : ToolTicket) (output : String) :
    Except ToolError String := do
  rejectIf (output.utf8ByteSize > ticket.maxOutputBytes)
    (.denied s!"{ticket.name} output exceeds {ticket.maxOutputBytes} bytes")
  match ticket.dataFormat with
  | .text => return output
  | .json =>
    validateJsonEnvelope output ticket.name "output"
    let registered ← self.tools[ticket.name]?.okOr
      (.failed s!"registered capability disappeared: {ticket.name}")
    match registered.outputValidator with
    | some validator => validator output
    | none => pure ()
    return output

def completeTicket [JsonReader] [Blake3] (ticket : ToolTicket) (result : Except ToolError String) :
    Call ε (Except ToolError String) := do
  let now ← perform HostOp.now
  let self ← self
  let result : Except ToolError String := if ticket.expiredAt now then .error ticket.timeoutError
    else result >>= self.validateOutput ticket
  recordTicketResult ticket result
  return result

def execute [JsonReader] [Blake3] (ticket : ToolTicket) : Call ε (Except ToolError String) := do
  let self ← self
  match self.tools[ticket.name]? with
  | some registered => do
    match registered.implementation with
    | .hostPump => do
      let result ← perform
        (HostOp.handle ⟨ticket.name, ticket.input, ticket.callIndex⟩)
      completeTicket ticket result
    | .external =>
      completeTicket ticket
        (.error (.failed s!"{ticket.name} is registered for external completion"))
  | none =>
    completeTicket ticket (.error (.failed s!"registered capability disappeared: {ticket.name}"))

/-- `tool.call` and `tool.call_json`. -/
def call [JsonReader] [Blake3] (name input : String) (expectedFormat : Option ToolDataFormat) :
    Call ToolError String := do
  let ticket ← reserve name input expectedFormat .synchronous
  let result ← execute ticket
  check result

/-- A call that is refused before its reservation. -/
def refuseDeferred [Blake3] (name : String) (inputBytes : ℕ) (error : ToolError) {α : Type} :
    Call ToolError α := do
  let sequence ← takeSequence
  recordResult sequence name inputBytes error
  fail error

def allocatePendingId [Blake3] (name : String) (inputBytes : ℕ) : Call ToolError ExternalToolId := do
  let self ← self
  if self.nextPendingId = .maxValue then
    refuseDeferred name inputBytes (.failed "deferred tool identifier space exhausted")
  else do
    assign { self with nextPendingId := self.nextPendingId + 1 }
    return ⟨self.nextPendingId + 1⟩

def idempotencyKey (self : CapabilityHost) (ticket : ToolTicket) : String :=
  match self.sessionNonce with
  | some nonce => s!"octoscript-{nonce}-{ticket.sequence.toNat}"
  | none => s!"local-{self.sessionId.toNat}-{ticket.sequence.toNat}"

def beginAsync [JsonReader] [Blake3] (name input : String) (maxPending : ℕ)
    (expectedFormat : Option ToolDataFormat) :
    Call ToolError (ToolTicket × ExternalToolId × String) := do
  let self ← self
  if self.pending.size ≥ maxPending then
    refuseDeferred name input.utf8ByteSize (.denied s!"pending tool budget of {maxPending} exhausted")
  else do
    let id ← allocatePendingId name input.utf8ByteSize
    let ticket ← reserve name input expectedFormat .deferred
    let self ← Effectful.self
    return (ticket, id, self.idempotencyKey ticket)

/-- The record of a new promise under its handle. -/
def insertPending (handle : ScriptHandle) (id : ExternalToolId) (ticket : ToolTicket)
    (idempotencyKey : String) : Call ε Unit := do
  let self ← self
  let dispatch : PendingDispatch := match ticket.dispatch with
    | .hostPump => .hostPump
    | .external => .externalQueued
  perform (HostOp.note (.queued id ticket idempotencyKey))
  let entry : PendingTool :=
    ⟨id, ticket, 1, idempotencyKey, ⟨0, 0, 0⟩, .pending dispatch none, false⟩
  assign { self with pending := self.pending.insert handle entry }

/-- The first record of the operation in the order of the handles. -/
def findPending (self : CapabilityHost) (id : ExternalToolId) : Option (ScriptHandle × PendingTool) :=
  self.pending.toList.find? fun entry => entry.2.id = id

def setPending (handle : ScriptHandle) (entry : PendingTool) : Call ε Unit := do
  let self ← self
  assign { self with pending := self.pending.insert handle entry }

/-- The record of an operation, or that it is unknown. -/
def lookup (self : CapabilityHost) (id : ExternalToolId) :
    Except ExternalToolError (ScriptHandle × PendingTool) :=
  (self.findPending id).okOr (.unknown id)

/-- Stores a final result, if the record is there; a record that no promise refers to is
dropped at once. -/
def resolve (handle : ScriptHandle) (result : Except ToolError String) : Call ε Bool := do
  let self ← self
  match self.pending[handle]? with
  | none => return false
  | some entry => do
    perform (HostOp.note (.resolved entry.id result))
    assign { self with
      pending := if entry.orphaned then self.pending.erase handle
        else self.pending.insert handle { entry with state := .ready result } }
    return true

/-- `ToolPromiseGc::gc`. -/
def gcPromise (self : CapabilityHost) (handle : ScriptHandle) : CapabilityHost :=
  match self.pending[handle]? with
  | none => self
  | some entry =>
    match entry.state with
    | .pending .externalClaimed _ | .pending .externalCancellationRequested _ =>
      { self with pending := self.pending.insert handle { entry with orphaned := true } }
    | .pending .hostPump _ | .pending .externalQueued _ | .ready _ =>
      { self with pending := self.pending.erase handle }

/-- `promise.await()` by a script on the thread. -/
def awaitPromise (handle : ScriptHandle) (thread : ScriptThreadId) :
    Call String (Option (Except ToolError String)) := do
  let self ← self
  let entry ← check (self.pending[handle]?.okOr "unknown tool promise")
  match entry.state with
  | .ready result => return some result
  | .pending dispatch none => do
    setPending handle { entry with state := .pending dispatch (some thread) }
    return none
  | .pending _ (some _) => fail "tool promise is already awaited"

def claimedExternalTicket (self : CapabilityHost) (id : ExternalToolId) :
    Except ExternalToolError (ToolTicket × String × Bool) := do
  let (_, entry) ← self.lookup id
  entry.whenClaimed (fun _ => .ok (entry.ticket, entry.idempotencyKey, false))
    (fun _ => .ok (entry.ticket, entry.idempotencyKey, true))

def validateClaimedExternal (id : ExternalToolId) : Call ExternalToolError Unit := do
  let self ← self
  let (ticket, _, cancellationRequested) ← check (self.claimedExternalTicket id)
  check (rejectIf (cancellationRequested = true) (.cancellationRequested id))
  let now ← perform HostOp.now
  check (rejectIf (ticket.expiredAt now = true) (.deadlineElapsed id))

def requestExternalCancellation [Blake3] (id : ExternalToolId) :
    Call ExternalToolError ExternalToolCancellationRequest := do
  let self ← self
  let (handle, entry) ← check (self.lookup id)
  let (waitingThread, newlyRequested) ← check
    (entry.whenClaimed (fun waiting => .ok (waiting, true)) (fun waiting => .ok (waiting, false)))
  if newlyRequested then do
    setPending handle { entry with state := .pending .externalCancellationRequested waitingThread }
    recordCancellationRequested entry.ticket
  else pure ()
  return entry.externalCancellationRequest

def externalReconcileRequest (id : ExternalToolId) (sessionId requestId : String) :
    Call ExternalToolError OperationReconcileRequest := do
  let self ← self
  let (ticket, operationKey, _) ← check (self.claimedExternalTicket id)
  let now ← perform HostOp.now
  check (rejectIf (ticket.expiredAt now = true) (.deadlineElapsed id))
  check
    ((OperationReconcileRequest.new sessionId requestId ticket.name operationKey).mapError .protocol)

def completeExternal [JsonReader] [Blake3] (id : ExternalToolId) (result : Except ToolError String) :
    Call ExternalToolError PendingCompletion := do
  let self ← self
  let (handle, entry) ← check (self.lookup id)
  let waitingThread ← check (entry.whenClaimed .ok .ok)
  let result ← completeTicket entry.ticket result
  let resolved ← resolve handle result
  check (rejectIf (resolved = false) (.unknown id))
  return ⟨waitingThread⟩

def cancelExternal [JsonReader] [Blake3] (id : ExternalToolId) :
    Call ExternalToolError PendingCompletion :=
  completeExternal id (.error (.cancelled "external operation was reported cancelled"))

def confirmExternalCancellation [JsonReader] [Blake3] (id : ExternalToolId) :
    Call ExternalToolError PendingCompletion := do
  let self ← self
  let (_, entry) ← check (self.lookup id)
  check (entry.whenClaimed (fun _ => .error (.cancellationNotRequested id))
    (fun _ => .ok ()))
  cancelExternal id

/-- `None` is a running operation. -/
def reconcileExternal [JsonReader] [Blake3] (id : ExternalToolId)
    (request : OperationReconcileRequest) (result : OperationReconcileResult) :
    Call ExternalToolError (Option PendingCompletion) := do
  check (request.validate.mapError .protocol)
  check (result.validate.mapError .protocol)
  let self ← self
  let (ticket, operationKey, _) ← check (self.claimedExternalTicket id)
  check (rejectIf (request.tool ≠ ticket.name ∨ request.operationKey ≠ operationKey)
    (.reconciliationMismatch id))
  check (rejectIf (¬result.MatchesRequest request) (.reconciliationMismatch id))
  match result.status with
  | .running => do
    let now ← perform HostOp.now
    check (rejectIf (ticket.expiredAt now = true) (.deadlineElapsed id))
    return none
  | .succeeded payload => do
    let expected := envelopeFormat ticket.dataFormat
    check (rejectIf (payload.format ≠ expected)
      (.protocol (.payloadFormatMismatch expected payload.format)))
    let output := match payload with
      | .text value => value
      | .json value => Json.text value
    let completion ← completeExternal id (.ok output)
    return some completion
  | .failed message => do
    let completion ← completeExternal id (.error (.failed message))
    return some completion
  | .cancelled => do
    let completion ← cancelExternal id
    return some completion

def peekNextExternal (self : CapabilityHost) : Option PendingTool :=
  (self.pending.toList.find? fun entry => match entry.2.state with
    | .pending .externalQueued _ => true
    | .pending .hostPump _ | .pending .externalClaimed _
    | .pending .externalCancellationRequested _ | .ready _ => false).map Prod.snd

def claimExternal (id : ExternalToolId) : Call ExternalToolError ExternalToolInvocation := do
  let self ← self
  let (handle, entry) ← check (self.lookup id)
  let waitingThread ← check (match entry.state with
    | .pending .externalQueued waitingThread => .ok waitingThread
    | .pending .externalClaimed _ | .pending .externalCancellationRequested _ =>
      .error (.alreadyClaimed id)
    | .pending .hostPump _ => .error (.notExternal id)
    | .ready _ => .error (.alreadyCompleted id))
  let now ← perform HostOp.now
  setPending handle { entry with state := .pending .externalClaimed waitingThread }
  return entry.externalInvocation now

def claimNextExternal : Call ε (Option ExternalToolInvocation) := do
  let self ← self
  match self.peekNextExternal with
  | none => return none
  | some entry => do
    let claimed ← attempt (claimExternal entry.id)
    return claimed.toOption

def retryExternal [Blake3] (id : ExternalToolId) (retryClass : RetryClass) :
    Call ExternalToolError ExternalToolInvocation := do
  let now ← perform HostOp.now
  let self ← self
  let (handle, entry) ← check (self.lookup id)
  check (entry.whenClaimed (fun _ => .ok ()) (fun _ => .error (.cancellationRequested id)))
  check (rejectIf (entry.ticket.expiredAt now = true) (.deadlineElapsed id))
  check (rejectIf (entry.attempt ≥ entry.ticket.maxAttempts) (.retryLimitReached id))
  let entry := { entry with attempt := entry.attempt + 1 }
  setPending handle entry
  recordRetry entry.ticket retryClass
  return entry.externalInvocation now

def rejectStream [Blake3] {α : Type} (ticket : ToolTicket) (sourceBytes : ℕ)
    (error : ExternalToolError) : Call ExternalToolError α := do
  recordStream ticket sourceBytes 0 .streamDenied
  fail error

/-- The limits that hold before a chunk is redacted. -/
def checkChunk (id : ExternalToolId) (entry : PendingTool) (sourceBytes : ℕ) :
    Except ExternalToolError ToolStreamPolicy := do
  let stream ← entry.ticket.stream.okOr (.streamingDisabled id)
  rejectIf (entry.streamed.chunks ≥ stream.maxChunks ∨ sourceBytes > stream.maxChunkBytes ∨
    sourceBytes > stream.maxTotalBytes - entry.streamed.sourceBytes) (.streamLimitExceeded id)
  return stream

def redactChunk (name chunk : String) (registered : RegisteredTool) : Call ε String :=
  if registered.hasStreamRedactor then perform (HostOp.redact name chunk)
  else return chunk

def pushExternalStreamChunk [Blake3] (id : ExternalToolId) (chunk : String) :
    Call ExternalToolError ExternalToolStreamChunk := do
  let now ← perform HostOp.now
  let sourceBytes := chunk.utf8ByteSize
  let self ← self
  let (handle, entry) ← check (self.lookup id)
  check (entry.whenClaimed (fun _ => .ok ()) (fun _ => .error (.cancellationRequested id)))
  check (rejectIf (entry.ticket.expiredAt now = true) (.deadlineElapsed id))
  match checkChunk id entry sourceBytes with
  | .error error => rejectStream entry.ticket sourceBytes error
  | .ok stream => do
    match self.tools[entry.ticket.name]? with
    | none => rejectStream entry.ticket sourceBytes (.toolUnavailable id)
    | some registered => do
      let text ← redactChunk entry.ticket.name chunk registered
      if text.utf8ByteSize > stream.maxEmittedBytes - entry.streamed.emittedBytes then
        rejectStream entry.ticket sourceBytes (.streamLimitExceeded id)
      else do
        -- The record is looked up again; the redactor cannot have changed it.
        let now ← perform HostOp.now
        check (rejectIf (entry.ticket.expiredAt now = true) (.deadlineElapsed id))
        let streamed : StreamAccounting := ⟨entry.streamed.chunks + 1,
          entry.streamed.sourceBytes + sourceBytes, entry.streamed.emittedBytes + text.utf8ByteSize⟩
        setPending handle { entry with streamed }
        recordStream entry.ticket sourceBytes text.utf8ByteSize .streamed
        return ⟨id, entry.ticket.name, entry.ticket.callIndex, entry.attempt, streamed.chunks,
          entry.idempotencyKey, text⟩

/-- The records that are due, in the order of the handles. -/
def duePending (self : CapabilityHost) (now maxExpirations : ℕ) : List (ScriptHandle × PendingTool) :=
  (self.pending.toList.filter fun entry => match entry.2.state with
    | .pending .. => entry.2.ticket.expiredAt now
    | .ready _ => false).take maxExpirations

def PendingTool.waitingThread (entry : PendingTool) : Option ScriptThreadId :=
  match entry.state with
  | .pending _ waitingThread => waitingThread
  | .ready _ => none

/-- The loop over the due records. -/
def expireAll [JsonReader] [Blake3] :
    List (ScriptHandle × PendingTool) → Call ε (List PendingCompletion)
  | [] => return []
  | (handle, entry) :: due => do
    let result ← completeTicket entry.ticket (.error entry.ticket.timeoutError)
    let resolved ← resolve handle result
    let completions ← expireAll due
    return if resolved then ⟨PendingTool.waitingThread entry⟩ :: completions else completions

def expireDuePending [JsonReader] [Blake3] (now maxExpirations : ℕ) :
    Call ε (List PendingCompletion) := do
  let self ← self
  expireAll (self.duePending now maxExpirations)

/-- The next call for the pump. -/
def nextHostPump (self : CapabilityHost) : Option (ScriptHandle × PendingTool) :=
  self.pending.toList.find? fun entry => match entry.2.state with
    | .pending .hostPump _ => true
    | .pending .externalQueued _ | .pending .externalClaimed _
    | .pending .externalCancellationRequested _ | .ready _ => false

/-- The result of a call that the pump made. -/
def finishHostPump (handle : ScriptHandle) (result : Except ToolError String) : Call ε Unit := do
  let self ← self
  match self.pending[handle]? with
  | none => return ()
  | some entry => do
    perform (HostOp.note (.resolved entry.id result))
    setPending handle { entry with state := .ready result }

/-- A call that is due is not made any more. -/
def pumpTicket [JsonReader] [Blake3] (ticket : ToolTicket) (now : ℕ) :
    Call ε (Except ToolError String) :=
  if ticket.expiredAt now then completeTicket ticket (.error ticket.timeoutError)
  else execute ticket

def runNextPending [JsonReader] [Blake3] : Call ε (Option PendingCompletion) := do
  let self ← self
  match self.nextHostPump with
  | none => return none
  | some (handle, entry) => do
    let now ← perform HostOp.now
    let result ← pumpTicket entry.ticket now
    finishHostPump handle result
    return some ⟨PendingTool.waitingThread entry⟩

end CapabilityHost

end Octoscript
