import Octoscript.Protocol.Message

namespace Octoscript

structure ExternalToolId where
  value : UInt64
  deriving DecidableEq

inductive ToolDataFormat
  | text
  | json
  deriving DecidableEq

structure ToolStreamPolicy where
  (maxChunks maxChunkBytes maxTotalBytes maxEmittedBytes : ℕ)
  deriving DecidableEq

structure ExternalToolInvocation where
  id : ExternalToolId
  (name input : String)
  callIndex : ℕ
  (attempt maxAttempts : UInt32)
  idempotencyKey : String
  stream : Option ToolStreamPolicy
  format : ToolDataFormat
  maxOutputBytes : ℕ
  remainingDeadlineMillis : Option UInt64
  deriving DecidableEq

structure ExternalToolCancellationRequest where
  id : ExternalToolId
  name : String
  callIndex : ℕ
  attempt : UInt32
  idempotencyKey : String
  deriving DecidableEq

inductive ExternalToolError
  | unknown (id : ExternalToolId)
  | notExternal (id : ExternalToolId)
  | notClaimed (id : ExternalToolId)
  | alreadyClaimed (id : ExternalToolId)
  | alreadyCompleted (id : ExternalToolId)
  | invalidPayload (id : ExternalToolId)
  | retryLimitReached (id : ExternalToolId)
  | deadlineElapsed (id : ExternalToolId)
  | streamingDisabled (id : ExternalToolId)
  | streamLimitExceeded (id : ExternalToolId)
  | toolUnavailable (id : ExternalToolId)
  | reconciliationMismatch (id : ExternalToolId)
  | cancellationRequested (id : ExternalToolId)
  | cancellationNotRequested (id : ExternalToolId)
  | reconciliationRequiresHostAuthenticator
  | unexpectedReconciliationMessage
  | protocol (error : ProtocolError)
  | runtime (message : String)
  deriving DecidableEq

/-- `serde_json::from_str` for values. -/
class JsonReader where
  fromStr : String → Option Json.Value

/-- The payload that a worker gets for the input. -/
def ExternalToolInvocation.workerPayload [JsonReader] (self : ExternalToolInvocation) :
    Except ExternalToolError ToolPayload :=
  match self.format with
  | .text => .ok (.text self.input)
  | .json => do
    let value ← (JsonReader.fromStr self.input).okOr (.invalidPayload self.id)
    let _ ← (ToolPayload.validateFor (.json value) .json).mapError fun _ => .invalidPayload self.id
    return .json value

end Octoscript
