import Octoscript.Protocol.Grant

namespace Octoscript
open Wire Json Octoscript

inductive ToolPayload
  | text (value : String)
  | json (value : Value)
  deriving DecidableEq

mutual

def validateJsonPayloadDepth (depth : ℕ) : Value → Except ProtocolError Unit
  | .array values => do
    rejectIf (depth > maxJsonPayloadDepth) (.jsonPayloadTooDeep maxJsonPayloadDepth)
    validateItemsDepth (depth + 1) values
  | .object values => do
    rejectIf (depth > maxJsonPayloadDepth) (.jsonPayloadTooDeep maxJsonPayloadDepth)
    validateMembersDepth (depth + 1) values
  | .null | .bool _ | .number _ | .string _ =>
    rejectIf (depth > maxJsonPayloadDepth) (.jsonPayloadTooDeep maxJsonPayloadDepth)

def validateItemsDepth (depth : ℕ) : List Value → Except ProtocolError Unit
  | [] => pure ()
  | v :: vs => do
    validateJsonPayloadDepth depth v
    validateItemsDepth depth vs

def validateMembersDepth (depth : ℕ) : List (String × Value) → Except ProtocolError Unit
  | [] => pure ()
  | (_, v) :: vs => do
    validateJsonPayloadDepth depth v
    validateMembersDepth depth vs

end

namespace ToolPayload

def format : ToolPayload → EnvelopeFormat
  | .text _ => .text
  | .json _ => .json

/-- The payload's size in bytes, if it is an envelope of the given format. -/
def validateFor (p : ToolPayload) (format : EnvelopeFormat) : Except ProtocolError ℕ := do
  rejectIf (p.format ≠ format) (.payloadFormatMismatch format p.format)
  match p with
  | .text value => return value.utf8ByteSize
  | .json value =>
    match value with
    | .object _ | .array _ =>
      validateJsonPayloadDepth 1 value
      return (encode value).length
    | .null | .bool _ | .number _ | .string _ => throw .invalidJsonEnvelope

def toJson : ToolPayload → Value
  | .text value => .object [("format", .string "text"), ("value", .string value)]
  | .json value => .object [("format", .string "json"), ("value", value)]

@[simp] theorem toJson_inj {a b : ToolPayload} : a.toJson = b.toJson ↔ a = b := by
  cases a <;> cases b <;> simp [toJson]

end ToolPayload

mutual

/-- The value with the members of every object in the order of their keys:
`write_canonical_json` writes its compact text. -/
def canonicalJson : Value → Value
  | .null => .null
  | .bool b => .bool b
  | .number n => .number n
  | .string s => .string s
  | .array values => .array (canonicalItems values)
  | .object values =>
    .object ((canonicalMembers values).insertionSort fun a b => a.1 ≤ b.1)

def canonicalItems : List Value → List Value
  | [] => []
  | v :: vs => canonicalJson v :: canonicalItems vs

def canonicalMembers : List (String × Value) → List (String × Value)
  | [] => []
  | (k, v) :: vs => (k, canonicalJson v) :: canonicalMembers vs

end

def canonicalOperationInputBytes (payload : ToolPayload) : Except ProtocolError Bytes := do
  let _ ← payload.validateFor payload.format
  match payload with
  | .text value => return utf8 "text" ++ component (utf8 value)
  | .json value => return utf8 "json" ++ component (encode (canonicalJson value))

/-- The durable identity of an operation's input. -/
def workerOperationInputFingerprint [Blake3] (payload : ToolPayload) :
    Except ProtocolError String := do
  let input ← canonicalOperationInputBytes payload
  return (Blake3.hash (utf8 "octoscript-worker-operation-input-v1" ++ input)).toHex

/-- The state a worker reports for an operation. -/
inductive OperationStatus
  | running
  | succeeded (payload : ToolPayload)
  | failed (message : String)
  | cancelled
  deriving DecidableEq

namespace OperationStatus

def validate : OperationStatus → Except ProtocolError Unit
  | .running | .cancelled => pure ()
  | .succeeded payload => do
    let _ ← payload.validateFor payload.format
  | .failed message => do
    rejectIf (message = "") .invalidOperationFailure
    rejectIf (message.utf8ByteSize > maxOperationErrorBytes)
      (.operationFailureTooLarge message.utf8ByteSize maxOperationErrorBytes)

def toJson : OperationStatus → Value
  | .running => .object [("state", .string "running")]
  | .succeeded payload => .object [("state", .string "succeeded"), ("payload", payload.toJson)]
  | .failed message => .object [("state", .string "failed"), ("message", .string message)]
  | .cancelled => .object [("state", .string "cancelled")]

@[simp] theorem toJson_inj {a b : OperationStatus} : a.toJson = b.toJson ↔ a = b := by
  cases a <;> cases b <;> simp [toJson]

end OperationStatus

@[ext] structure ToolInvocation where
  protocolVersion : UInt16
  (sessionId requestId tool : String)
  payload : ToolPayload
  deriving DecidableEq

@[ext] structure ToolResult where
  protocolVersion : UInt16
  (sessionId requestId : String)
  payload : ToolPayload
  deriving DecidableEq

@[ext] structure WorkerCancellationRequest where
  protocolVersion : UInt16
  (sessionId cancellationId requestId tool : String)
  deriving DecidableEq

inductive WorkerCancellationOutcome
  | acknowledged
  | tooLate
  | unsupported
  deriving DecidableEq

@[ext] structure WorkerCancellationResult where
  protocolVersion : UInt16
  (sessionId cancellationId requestId tool : String)
  outcome : WorkerCancellationOutcome
  deriving DecidableEq

@[ext] structure OperationDispatchRequest where
  protocolVersion : UInt16
  (sessionId requestId tool operationKey : String)
  payload : ToolPayload
  deriving DecidableEq

structure OperationCompensationBinding where
  (tool operationKey compensationKey tenantScope grantFingerprint : String)
  deriving DecidableEq

@[ext] structure OperationCompensationRequest where
  protocolVersion : UInt16
  (sessionId requestId tool operationKey compensationKey tenantScope grantFingerprint : String)
  payload : ToolPayload
  deriving DecidableEq

@[ext] structure OperationCompensationResult where
  protocolVersion : UInt16
  (sessionId requestId tool operationKey compensationKey tenantScope grantFingerprint : String)
  status : OperationStatus
  deriving DecidableEq

@[ext] structure OperationReconcileRequest where
  protocolVersion : UInt16
  (sessionId requestId tool operationKey : String)
  deriving DecidableEq

@[ext] structure OperationReconcileResult where
  protocolVersion : UInt16
  (sessionId requestId tool operationKey : String)
  status : OperationStatus
  deriving DecidableEq

def ToolInvocation.validateHeader (r : ToolInvocation) : Except ProtocolError Unit := do
  validateProtocolVersion r.protocolVersion
  validateToken "session id" r.sessionId
  validateToken "request id" r.requestId
  validateToken "tool" r.tool

def ToolInvocation.new (sessionId requestId tool : String) (payload : ToolPayload) :
    Except ProtocolError ToolInvocation := do
  let invocation : ToolInvocation :=
    { protocolVersion := Octoscript.protocolVersion, sessionId, requestId, tool, payload }
  invocation.validateHeader
  return invocation

def ToolResult.validateHeader (r : ToolResult) : Except ProtocolError Unit := do
  validateProtocolVersion r.protocolVersion
  validateToken "session id" r.sessionId
  validateToken "request id" r.requestId

def ToolResult.new (sessionId requestId : String) (payload : ToolPayload) :
    Except ProtocolError ToolResult := do
  let result : ToolResult :=
    { protocolVersion := Octoscript.protocolVersion, sessionId, requestId, payload }
  result.validateHeader
  return result

/-- The header that a cancellation request and its result share. -/
def validateCancellationHeader (version : UInt16) (sessionId cancellationId requestId tool : String) :
    Except ProtocolError Unit := do
  validateProtocolVersion version
  validateToken "session id" sessionId
  validateToken "cancellation id" cancellationId
  validateToken "request id" requestId
  validateToken "tool" tool
  rejectIf (cancellationId = requestId) .cancellationIdMatchesRequest

def WorkerCancellationRequest.validate (r : WorkerCancellationRequest) :
    Except ProtocolError Unit :=
  validateCancellationHeader r.protocolVersion r.sessionId r.cancellationId r.requestId r.tool

def WorkerCancellationRequest.new (sessionId cancellationId requestId tool : String) :
    Except ProtocolError WorkerCancellationRequest := do
  let request : WorkerCancellationRequest :=
    { protocolVersion := Octoscript.protocolVersion, sessionId, cancellationId, requestId, tool }
  request.validate
  return request

namespace WorkerCancellationResult

def validate (r : WorkerCancellationResult) : Except ProtocolError Unit :=
  validateCancellationHeader r.protocolVersion r.sessionId r.cancellationId r.requestId r.tool

def MatchesRequest (r : WorkerCancellationResult) (q : WorkerCancellationRequest) : Prop :=
  r.protocolVersion = q.protocolVersion ∧ r.sessionId = q.sessionId ∧
    r.cancellationId = q.cancellationId ∧ r.requestId = q.requestId ∧ r.tool = q.tool

instance (r : WorkerCancellationResult) (q : WorkerCancellationRequest) :
    Decidable (r.MatchesRequest q) := by unfold MatchesRequest; infer_instance

def new (q : WorkerCancellationRequest) (outcome : WorkerCancellationOutcome) :
    Except ProtocolError WorkerCancellationResult := do
  q.validate
  let result : WorkerCancellationResult :=
    { protocolVersion := Octoscript.protocolVersion, sessionId := q.sessionId,
      cancellationId := q.cancellationId, requestId := q.requestId, tool := q.tool, outcome }
  result.validate
  return result

end WorkerCancellationResult

/-- The header of a message about one durable operation. -/
def validateOperationHeader (version : UInt16) (sessionId requestId tool operationKey : String) :
    Except ProtocolError Unit := do
  validateProtocolVersion version
  validateToken "session id" sessionId
  validateToken "request id" requestId
  validateToken "tool" tool
  validateToken "operation key" operationKey

namespace OperationCompensationBinding

def validate (b : OperationCompensationBinding) : Except ProtocolError Unit := do
  validateToken "tool" b.tool
  validateToken "operation key" b.operationKey
  validateCompensationKey b.compensationKey
  validateToken "tenant scope" b.tenantScope
  rejectIf (isBlake3Fingerprint b.grantFingerprint = false) .invalidCompensationGrantFingerprint

def new (tool operationKey compensationKey tenantScope grantFingerprint : String) :
    Except ProtocolError OperationCompensationBinding := do
  let binding : OperationCompensationBinding :=
    { tool, operationKey, compensationKey, tenantScope, grantFingerprint }
  binding.validate
  return binding

theorem operationKey_of_new {tool operationKey compensationKey tenantScope grantFingerprint : String}
    {binding : OperationCompensationBinding}
    (h : new tool operationKey compensationKey tenantScope grantFingerprint = .ok binding) :
    binding.operationKey = operationKey := by
  obtain ⟨_, _, h⟩ := Except.bind_ok_iff.mp h
  obtain rfl := Except.ok.inj h
  rfl

end OperationCompensationBinding

/-- The header of a message about one compensation. -/
def validateCompensationHeader (version : UInt16) (sessionId requestId : String)
    (binding : OperationCompensationBinding) : Except ProtocolError Unit := do
  validateProtocolVersion version
  validateToken "session id" sessionId
  validateToken "request id" requestId
  binding.validate

namespace OperationDispatchRequest

def validateHeader (r : OperationDispatchRequest) : Except ProtocolError Unit :=
  validateOperationHeader r.protocolVersion r.sessionId r.requestId r.tool r.operationKey

def validate (r : OperationDispatchRequest) : Except ProtocolError Unit := do
  r.validateHeader
  let _ ← r.payload.validateFor r.payload.format

def new (sessionId requestId tool operationKey : String) (payload : ToolPayload) :
    Except ProtocolError OperationDispatchRequest := do
  let request : OperationDispatchRequest :=
    { protocolVersion := Octoscript.protocolVersion, sessionId, requestId, tool, operationKey,
      payload }
  request.validate
  return request

end OperationDispatchRequest

namespace OperationCompensationRequest

def validateHeader (r : OperationCompensationRequest) : Except ProtocolError Unit :=
  validateCompensationHeader r.protocolVersion r.sessionId r.requestId
    ⟨r.tool, r.operationKey, r.compensationKey, r.tenantScope, r.grantFingerprint⟩

def validate (r : OperationCompensationRequest) : Except ProtocolError Unit := do
  r.validateHeader
  let _ ← r.payload.validateFor r.payload.format

def new (sessionId requestId : String) (binding : OperationCompensationBinding)
    (payload : ToolPayload) : Except ProtocolError OperationCompensationRequest := do
  let request : OperationCompensationRequest :=
    { protocolVersion := Octoscript.protocolVersion, sessionId, requestId, tool := binding.tool,
      operationKey := binding.operationKey, compensationKey := binding.compensationKey,
      tenantScope := binding.tenantScope, grantFingerprint := binding.grantFingerprint, payload }
  request.validate
  return request

end OperationCompensationRequest

namespace OperationCompensationResult

def validate (r : OperationCompensationResult) : Except ProtocolError Unit := do
  validateCompensationHeader r.protocolVersion r.sessionId r.requestId
    ⟨r.tool, r.operationKey, r.compensationKey, r.tenantScope, r.grantFingerprint⟩
  r.status.validate

def new (sessionId requestId : String) (binding : OperationCompensationBinding)
    (status : OperationStatus) : Except ProtocolError OperationCompensationResult := do
  let result : OperationCompensationResult :=
    { protocolVersion := Octoscript.protocolVersion, sessionId, requestId, tool := binding.tool,
      operationKey := binding.operationKey, compensationKey := binding.compensationKey,
      tenantScope := binding.tenantScope, grantFingerprint := binding.grantFingerprint, status }
  result.validate
  return result

def MatchesRequest (r : OperationCompensationResult) (q : OperationCompensationRequest) : Prop :=
  r.protocolVersion = q.protocolVersion ∧ r.sessionId = q.sessionId ∧ r.requestId = q.requestId ∧
    r.tool = q.tool ∧ r.operationKey = q.operationKey ∧ r.compensationKey = q.compensationKey ∧
    r.tenantScope = q.tenantScope ∧ r.grantFingerprint = q.grantFingerprint

instance (r : OperationCompensationResult) (q : OperationCompensationRequest) :
    Decidable (r.MatchesRequest q) := by unfold MatchesRequest; infer_instance

theorem new_ok {sessionId requestId : String} {binding : OperationCompensationBinding}
    {status : OperationStatus} {result : OperationCompensationResult}
    (h : new sessionId requestId binding status = .ok result) :
    result.operationKey = binding.operationKey ∧ result.status = status := by
  obtain ⟨_, _, h⟩ := Except.bind_ok_iff.mp h
  obtain rfl := Except.ok.inj h
  exact ⟨rfl, rfl⟩

end OperationCompensationResult

namespace OperationReconcileRequest

def validate (r : OperationReconcileRequest) : Except ProtocolError Unit :=
  validateOperationHeader r.protocolVersion r.sessionId r.requestId r.tool r.operationKey

def new (sessionId requestId tool operationKey : String) :
    Except ProtocolError OperationReconcileRequest := do
  let request : OperationReconcileRequest :=
    { protocolVersion := Octoscript.protocolVersion, sessionId, requestId, tool, operationKey }
  request.validate
  return request

end OperationReconcileRequest

namespace OperationReconcileResult

def validate (r : OperationReconcileResult) : Except ProtocolError Unit := do
  validateOperationHeader r.protocolVersion r.sessionId r.requestId r.tool r.operationKey
  r.status.validate

def new (sessionId requestId tool operationKey : String) (status : OperationStatus) :
    Except ProtocolError OperationReconcileResult := do
  let result : OperationReconcileResult :=
    { protocolVersion := Octoscript.protocolVersion, sessionId, requestId, tool, operationKey,
      status }
  result.validate
  return result

def MatchesRequest (r : OperationReconcileResult) (q : OperationReconcileRequest) : Prop :=
  r.protocolVersion = q.protocolVersion ∧ r.sessionId = q.sessionId ∧ r.requestId = q.requestId ∧
    r.tool = q.tool ∧ r.operationKey = q.operationKey

instance (r : OperationReconcileResult) (q : OperationReconcileRequest) :
    Decidable (r.MatchesRequest q) := by unfold MatchesRequest; infer_instance

def MatchesDispatch (r : OperationReconcileResult) (q : OperationDispatchRequest) : Prop :=
  r.protocolVersion = q.protocolVersion ∧ r.sessionId = q.sessionId ∧ r.requestId = q.requestId ∧
    r.tool = q.tool ∧ r.operationKey = q.operationKey

instance (r : OperationReconcileResult) (q : OperationDispatchRequest) :
    Decidable (r.MatchesDispatch q) := by unfold MatchesDispatch; infer_instance

theorem new_ok {sessionId requestId tool operationKey : String} {status : OperationStatus}
    {result : OperationReconcileResult}
    (h : new sessionId requestId tool operationKey status = .ok result) :
    result.operationKey = operationKey ∧ result.status = status := by
  obtain ⟨_, _, h⟩ := Except.bind_ok_iff.mp h
  obtain rfl := Except.ok.inj h
  exact ⟨rfl, rfl⟩

end OperationReconcileResult

inductive WorkerMessage
  | openSession (manifest : CapabilityManifest)
  | invoke (invocation : ToolInvocation)
  | result (result : ToolResult)
  | dispatchOperation (request : OperationDispatchRequest)
  | operationResult (result : OperationReconcileResult)
  | compensateOperation (request : OperationCompensationRequest)
  | compensationResult (result : OperationCompensationResult)
  | reconcileOperation (request : OperationReconcileRequest)
  | reconciledOperation (result : OperationReconcileResult)
  | cancel (request : WorkerCancellationRequest)
  | cancellationResult (result : WorkerCancellationResult)
  | closeSession (protocolVersion : UInt16) (sessionId : String)
  deriving DecidableEq

namespace WorkerMessage

def validate : WorkerMessage → Except ProtocolError Unit
  | .openSession manifest => manifest.validate
  | .invoke invocation => invocation.validateHeader
  | .result answer => answer.validateHeader
  | .dispatchOperation request => request.validate
  | .operationResult answer => answer.validate
  | .compensateOperation request => request.validate
  | .compensationResult answer => answer.validate
  | .reconcileOperation request => request.validate
  | .reconciledOperation answer => answer.validate
  | .cancel request => request.validate
  | .cancellationResult answer => answer.validate
  | .closeSession version sessionId => do
    validateProtocolVersion version
    validateToken "session id" sessionId

/-- The session that scopes the message. -/
def sessionId : WorkerMessage → String
  | .openSession manifest => manifest.sessionId
  | .invoke invocation => invocation.sessionId
  | .result answer => answer.sessionId
  | .dispatchOperation request => request.sessionId
  | .operationResult answer => answer.sessionId
  | .compensateOperation request => request.sessionId
  | .compensationResult answer => answer.sessionId
  | .reconcileOperation request => request.sessionId
  | .reconciledOperation answer => answer.sessionId
  | .cancel request => request.sessionId
  | .cancellationResult answer => answer.sessionId
  | .closeSession _ sessionId => sessionId

end WorkerMessage

def ToolInvocation.toJson (r : ToolInvocation) : Value :=
  .object [("protocol_version", .nat r.protocolVersion.toNat), ("session_id", .string r.sessionId),
    ("request_id", .string r.requestId), ("tool", .string r.tool), ("payload", r.payload.toJson)]

def ToolResult.toJson (r : ToolResult) : Value :=
  .object [("protocol_version", .nat r.protocolVersion.toNat), ("session_id", .string r.sessionId),
    ("request_id", .string r.requestId), ("payload", r.payload.toJson)]

def WorkerCancellationRequest.toJson (r : WorkerCancellationRequest) : Value :=
  .object [("protocol_version", .nat r.protocolVersion.toNat), ("session_id", .string r.sessionId),
    ("cancellation_id", .string r.cancellationId), ("request_id", .string r.requestId),
    ("tool", .string r.tool)]

def WorkerCancellationOutcome.toJson : WorkerCancellationOutcome → Value
  | .acknowledged => .string "acknowledged"
  | .tooLate => .string "too_late"
  | .unsupported => .string "unsupported"

def WorkerCancellationResult.toJson (r : WorkerCancellationResult) : Value :=
  .object [("protocol_version", .nat r.protocolVersion.toNat), ("session_id", .string r.sessionId),
    ("cancellation_id", .string r.cancellationId), ("request_id", .string r.requestId),
    ("tool", .string r.tool), ("outcome", r.outcome.toJson)]

def OperationDispatchRequest.toJson (r : OperationDispatchRequest) : Value :=
  .object [("protocol_version", .nat r.protocolVersion.toNat), ("session_id", .string r.sessionId),
    ("request_id", .string r.requestId), ("tool", .string r.tool),
    ("operation_key", .string r.operationKey), ("payload", r.payload.toJson)]

def OperationCompensationRequest.toJson (r : OperationCompensationRequest) : Value :=
  .object [("protocol_version", .nat r.protocolVersion.toNat), ("session_id", .string r.sessionId),
    ("request_id", .string r.requestId), ("tool", .string r.tool),
    ("operation_key", .string r.operationKey), ("compensation_key", .string r.compensationKey),
    ("tenant_scope", .string r.tenantScope), ("grant_fingerprint", .string r.grantFingerprint),
    ("payload", r.payload.toJson)]

def OperationCompensationResult.toJson (r : OperationCompensationResult) : Value :=
  .object [("protocol_version", .nat r.protocolVersion.toNat), ("session_id", .string r.sessionId),
    ("request_id", .string r.requestId), ("tool", .string r.tool),
    ("operation_key", .string r.operationKey), ("compensation_key", .string r.compensationKey),
    ("tenant_scope", .string r.tenantScope), ("grant_fingerprint", .string r.grantFingerprint),
    ("status", r.status.toJson)]

def OperationReconcileRequest.toJson (r : OperationReconcileRequest) : Value :=
  .object [("protocol_version", .nat r.protocolVersion.toNat), ("session_id", .string r.sessionId),
    ("request_id", .string r.requestId), ("tool", .string r.tool),
    ("operation_key", .string r.operationKey)]

def OperationReconcileResult.toJson (r : OperationReconcileResult) : Value :=
  .object [("protocol_version", .nat r.protocolVersion.toNat), ("session_id", .string r.sessionId),
    ("request_id", .string r.requestId), ("tool", .string r.tool),
    ("operation_key", .string r.operationKey), ("status", r.status.toJson)]

def WorkerMessage.toJson : WorkerMessage → Value
  | .openSession manifest =>
    .object [("type", .string "open_session"), ("manifest", manifest.toJson)]
  | .invoke invocation => .object [("type", .string "invoke"), ("invocation", invocation.toJson)]
  | .result answer => .object [("type", .string "result"), ("result", answer.toJson)]
  | .dispatchOperation request =>
    .object [("type", .string "dispatch_operation"), ("request", request.toJson)]
  | .operationResult answer =>
    .object [("type", .string "operation_result"), ("result", answer.toJson)]
  | .compensateOperation request =>
    .object [("type", .string "compensate_operation"), ("request", request.toJson)]
  | .compensationResult answer =>
    .object [("type", .string "compensation_result"), ("result", answer.toJson)]
  | .reconcileOperation request =>
    .object [("type", .string "reconcile_operation"), ("request", request.toJson)]
  | .reconciledOperation answer =>
    .object [("type", .string "reconciled_operation"), ("result", answer.toJson)]
  | .cancel request => .object [("type", .string "cancel"), ("request", request.toJson)]
  | .cancellationResult answer =>
    .object [("type", .string "cancellation_result"), ("result", answer.toJson)]
  | .closeSession version sessionId =>
    .object [("type", .string "close_session"), ("protocol_version", .nat version.toNat),
      ("session_id", .string sessionId)]

@[simp] theorem WorkerCancellationOutcome.toJson_inj {a b : WorkerCancellationOutcome} :
    a.toJson = b.toJson ↔ a = b := by
  cases a <;> cases b <;> simp [toJson]

theorem WorkerMessage.toJson_inj {a b : WorkerMessage} : a.toJson = b.toJson ↔ a = b := by
  cases a <;> cases b <;> simp [toJson, UInt16.toNat_inj, ToolInvocation.toJson,
    ToolInvocation.ext_iff, ToolResult.toJson, ToolResult.ext_iff,
    WorkerCancellationRequest.toJson, WorkerCancellationRequest.ext_iff,
    WorkerCancellationResult.toJson, WorkerCancellationResult.ext_iff,
    OperationDispatchRequest.toJson, OperationDispatchRequest.ext_iff,
    OperationCompensationRequest.toJson, OperationCompensationRequest.ext_iff,
    OperationCompensationResult.toJson, OperationCompensationResult.ext_iff,
    OperationReconcileRequest.toJson, OperationReconcileRequest.ext_iff,
    OperationReconcileResult.toJson, OperationReconcileResult.ext_iff]

end Octoscript
