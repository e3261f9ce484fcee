import Octoscript.Capabilities.AuditJournal
import Octoscript.Capabilities.ExternalTool

namespace Octoscript
open Wire

def maxToolDescriptionBytes : ℕ := 4 * 1024
def maxToolSchemaBytes : ℕ := 32 * 1024

inductive ToolError
  | denied (message : String)
  | failed (message : String)
  | cancelled (message : String)
  | timedOut (message : String)
  deriving DecidableEq

inductive ToolRegistrationError
  | duplicate (name : String)
  | invalidName (name : String)
  | invalidPolicy (message : String)
  | invalidMetadata (message : String)
  | externalIdempotencyNonceUnavailable
  | catalogToolLimitExceeded (maximum : ℕ)
  | catalogByteLimitExceeded (actual maximum : ℕ)
  | activeCapabilityLease
  deriving DecidableEq

inductive ToolDispatch
  | hostPump
  | external
  deriving DecidableEq

def ToolDataFormat.toJson : ToolDataFormat → Json.Value
  | .text => .string "text"
  | .json => .string "json"

def ToolDispatch.toJson : ToolDispatch → Json.Value
  | .hostPump => .string "host_pump"
  | .external => .string "external"

def envelopeFormat : ToolDataFormat → EnvelopeFormat
  | .text => .text
  | .json => .json

namespace ToolStreamPolicy

def validate (self : ToolStreamPolicy) : Except ToolRegistrationError Unit := do
  rejectIf (self.maxChunks = 0 ∨ self.maxChunkBytes = 0 ∨ self.maxTotalBytes = 0 ∨
    self.maxEmittedBytes = 0) (.invalidPolicy "stream limits must be greater than zero")
  rejectIf (self.maxChunkBytes > self.maxTotalBytes)
    (.invalidPolicy "max stream chunk bytes cannot exceed the total stream byte limit")

def toJson (self : ToolStreamPolicy) : Json.Value :=
  .object [("max_chunks", .nat self.maxChunks), ("max_chunk_bytes", .nat self.maxChunkBytes),
    ("max_total_bytes", .nat self.maxTotalBytes), ("max_emitted_bytes", .nat self.maxEmittedBytes)]

end ToolStreamPolicy

structure ToolMetadata where
  description : String
  (inputSchema outputSchema : Option Json.Value)
  deriving DecidableEq

def ToolMetadata.validateSchema (schema : Json.Value) : Except ToolRegistrationError Unit := do
  match schema with
  | .object _ => pure ()
  | .null | .bool _ | .number _ | .string _ | .array _ =>
    throw (.invalidMetadata "tool schemas must be JSON objects")
  rejectIf ((Json.encode schema).length > maxToolSchemaBytes)
    (.invalidMetadata "tool schema exceeds the byte limit")

def ToolMetadata.validateFor (self : ToolMetadata) (format : ToolDataFormat) :
    Except ToolRegistrationError Unit := do
  rejectIf (self.description.utf8ByteSize > maxToolDescriptionBytes)
    (.invalidMetadata "tool description exceeds the byte limit")
  rejectIf (format ≠ .json ∧ (self.inputSchema.isSome ∨ self.outputSchema.isSome))
    (.invalidMetadata "schemas require a JSON tool policy")
  forM (self.inputSchema.toList ++ self.outputSchema.toList) validateSchema

/-- Durations and instants are in nanoseconds. -/
structure ToolPolicy where
  name : String
  maxCalls : ℕ
  maxAttempts : UInt32
  (maxInputBytes maxOutputBytes : ℕ)
  maxDeferredDuration : Option ℕ
  stream : Option ToolStreamPolicy
  dataFormat : ToolDataFormat
  deriving DecidableEq

def ToolPolicy.validate (self : ToolPolicy) : Except ToolRegistrationError Unit := do
  rejectIf (¬isValidToolName self.name) (.invalidName self.name)
  rejectIf (self.maxCalls = 0) (.invalidPolicy "max_calls must be greater than zero")
  rejectIf (self.maxAttempts = 0) (.invalidPolicy "max_attempts must be greater than zero")
  rejectIf (self.maxInputBytes = 0 ∨ self.maxOutputBytes = 0)
    (.invalidPolicy "tool byte limits must be greater than zero")
  match self.stream with
  | some stream => stream.validate
  | none => pure ()

def durationMillis (duration : ℕ) : UInt64 :=
  if duration / 1000000 < 2 ^ 64 then .ofNat (duration / 1000000) else .maxValue

structure ToolDescriptor where
  name : String
  format : ToolDataFormat
  dispatch : ToolDispatch
  contractEnforced : Bool
  maxCalls : ℕ
  maxAttempts : UInt32
  (maxInputBytes maxOutputBytes : ℕ)
  maxDeferredMillis : Option UInt64
  stream : Option ToolStreamPolicy
  metadata : ToolMetadata
  deriving DecidableEq

/-- Absent options are skipped; the metadata is flattened. -/
def ToolDescriptor.toJson (self : ToolDescriptor) : Json.Value :=
  .object ([("name", .string self.name), ("format", self.format.toJson),
    ("dispatch", self.dispatch.toJson), ("contract_enforced", .bool self.contractEnforced),
    ("max_calls", .nat self.maxCalls), ("max_attempts", .nat self.maxAttempts.toNat),
    ("max_input_bytes", .nat self.maxInputBytes), ("max_output_bytes", .nat self.maxOutputBytes)] ++
    (self.maxDeferredMillis.map fun millis => ("max_deferred_millis", .nat millis.toNat)).toList ++
    (self.stream.map fun stream => ("stream", stream.toJson)).toList ++
    [("description", .string self.metadata.description)] ++
    (self.metadata.inputSchema.map fun schema => ("input_schema", schema)).toList ++
    (self.metadata.outputSchema.map fun schema => ("output_schema", schema)).toList)

abbrev ToolValidator := String → Except ToolError Unit

/-- The handler of a tool and its stream redactor are the host's; the fields say
whether it has one. -/
structure RegisteredTool where
  policy : ToolPolicy
  metadata : ToolMetadata
  dispatch : ToolDispatch
  contractEnforced : Bool
  calls : ℕ
  (inputValidator outputValidator : Option ToolValidator)
  hasStreamRedactor : Bool
  implementation : ToolDispatch

def RegisteredTool.descriptor (self : RegisteredTool) : ToolDescriptor where
  name := self.policy.name
  format := self.policy.dataFormat
  dispatch := self.dispatch
  contractEnforced := self.contractEnforced
  maxCalls := self.policy.maxCalls
  maxAttempts := self.policy.maxAttempts
  maxInputBytes := self.policy.maxInputBytes
  maxOutputBytes := self.policy.maxOutputBytes
  maxDeferredMillis := self.policy.maxDeferredDuration.map durationMillis
  stream := self.policy.stream
  metadata := self.metadata

def validateJsonEnvelope [JsonReader] (json toolName direction : String) :
    Except ToolError Unit := do
  let value ← (JsonReader.fromStr json).okOr (.denied s!"{toolName} {direction} is not valid JSON")
  match value with
  | .object _ | .array _ => pure ()
  | .null | .bool _ | .number _ | .string _ =>
    throw (.denied s!"{toolName} {direction} must be a JSON object or array")

structure ToolRequest where
  (name input : String)
  callIndex : ℕ
  deriving DecidableEq

structure DeferredDeadline where
  (startedAt maximum : ℕ)
  deriving DecidableEq

def DeferredDeadline.expiredAt (self : DeferredDeadline) (now : ℕ) : Bool :=
  now - self.startedAt ≥ self.maximum

def DeferredDeadline.remainingAt (self : DeferredDeadline) (now : ℕ) : ℕ :=
  self.maximum - (now - self.startedAt)

/-- The right to one invocation. -/
structure ToolTicket where
  sequence : UInt64
  (name input : String)
  (inputBytes callIndex maxOutputBytes : ℕ)
  maxAttempts : UInt32
  stream : Option ToolStreamPolicy
  dataFormat : ToolDataFormat
  dispatch : ToolDispatch
  deadline : Option DeferredDeadline
  deriving DecidableEq

namespace ToolTicket

def expiredAt (self : ToolTicket) (now : ℕ) : Bool :=
  match self.deadline with
  | some deadline => deadline.expiredAt now
  | none => false

def remainingDeadlineMillis (self : ToolTicket) (now : ℕ) : Option UInt64 :=
  self.deadline.map fun deadline => durationMillis (deadline.remainingAt now)

def timeoutError (self : ToolTicket) : ToolError :=
  .timedOut s!"{self.name} exceeded its deferred deadline"

end ToolTicket

inductive ToolInvocationKind
  | synchronous
  | deferred
  deriving DecidableEq

end Octoscript
