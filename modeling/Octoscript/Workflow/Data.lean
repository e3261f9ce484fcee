import Octoscript.Lib.Json
import Octoscript.Lib.Machine
import Octoscript.Schema.Validation
import Octoscript.Workflow.Plan

namespace Octoscript
open Wire

def maxWorkflowDataBytes : ℕ := 64 * 1024
def maxWorkflowDataDepth : ℕ := 64
def workflowDataFormatVersion : UInt8 := 1

inductive RuntimeJsonError
  | invalidLimit
  | tooLarge (actual maximum : ℕ)
  | tooDeep (maximum : ℕ)
  deriving DecidableEq

mutual

/-- The containers around a value are counted from the outermost. -/
def validateJsonDepth (maximum : ℕ) (containerDepth : ℕ) :
    Json.Value → Except RuntimeJsonError Unit
  | .array values => do
    rejectIf (containerDepth ≥ maximum) (.tooDeep maximum)
    validateItemDepths maximum (Usize.saturatingAdd containerDepth 1) values
  | .object values => do
    rejectIf (containerDepth ≥ maximum) (.tooDeep maximum)
    validateMemberDepths maximum (Usize.saturatingAdd containerDepth 1) values
  | .null | .bool _ | .number _ | .string _ => pure ()

def validateItemDepths (maximum : ℕ) (containerDepth : ℕ) :
    List Json.Value → Except RuntimeJsonError Unit
  | [] => pure ()
  | value :: values => do
    validateJsonDepth maximum containerDepth value
    validateItemDepths maximum containerDepth values

def validateMemberDepths (maximum : ℕ) (containerDepth : ℕ) :
    List (String × Json.Value) → Except RuntimeJsonError Unit
  | [] => pure ()
  | (_, value) :: values => do
    validateJsonDepth maximum containerDepth value
    validateMemberDepths maximum containerDepth values

end

def serializeBoundedJson (value : Json.Value) (maxBytes maxDepth : ℕ) :
    Except RuntimeJsonError String := do
  rejectIf (maxBytes = 0 ∨ maxDepth = 0) .invalidLimit
  validateJsonDepth maxDepth 0 value
  let encoded := Json.text value
  rejectIf (encoded.utf8ByteSize > maxBytes) (.tooLarge encoded.utf8ByteSize maxBytes)
  return encoded

inductive WorkflowDataError
  | json (error : RuntimeJsonError)
  | invalidContractFingerprint
  | completedStepCountOutOfRange (completed total : ℕ)
  | outputPrefixMismatch
  deriving DecidableEq

structure WorkflowData where
  input : Json.Value
  outputs : Std.ExtTreeMap String Json.Value
  contractFingerprint : Option String

namespace WorkflowData

def scriptContext (self : WorkflowData) : Json.Value :=
  .object [("input", self.input), ("outputs", .object self.outputs.toList)]

/-- The members in the order of their names. -/
def persistenceDocument (self : WorkflowData) : Json.Value :=
  .object ((self.contractFingerprint.map fun fingerprint =>
      ("contract_fingerprint", Json.Value.string fingerprint)).toList ++
    [("format_version", .nat workflowDataFormatVersion.toNat), ("input", self.input),
      ("outputs", .object self.outputs.toList)])

def encode (document : Json.Value) : Except WorkflowDataError String :=
  (serializeBoundedJson document maxWorkflowDataBytes maxWorkflowDataDepth).mapError .json

def encodeScriptContext (self : WorkflowData) : Except WorkflowDataError String :=
  encode self.scriptContext

def encodePersistenceDocument (self : WorkflowData) : Except WorkflowDataError String :=
  encode self.persistenceDocument

/-- The contract is not part of what the digest binds. -/
def fingerprint [Blake3] (self : WorkflowData) : Except WorkflowDataError String := do
  let encoded ← self.encodeScriptContext
  return (Blake3.hash (utf8 "octoscript-workflow-data-v1" ++ component (utf8 encoded))).toHex

def validate (self : WorkflowData) : Except WorkflowDataError Unit := do
  rejectIf (self.contractFingerprint.any (!isPlanFingerprint ·) = true) .invalidContractFingerprint
  let _ ← self.encodePersistenceDocument

def validateForCompletedPrefix (self : WorkflowData) (plan : WorkflowPlan)
    (completedStepCount : ℕ) : Except WorkflowDataError Unit := do
  self.validate
  rejectIf (completedStepCount > plan.steps.length)
    (.completedStepCountOutOfRange completedStepCount plan.steps.length)
  let completed := plan.steps.take completedStepCount
  rejectIf (self.outputs.size ≠ completed.length ∨ ∃ step ∈ completed, step.id ∉ self.outputs)
    .outputPrefixMismatch

end WorkflowData

structure WorkflowStepOutputContract where
  stepId : String
  schema : JsonSchema

structure WorkflowDataContract where
  inputSchema : JsonSchema
  outputContracts : List WorkflowStepOutputContract

def WorkflowDataContract.fingerprint [Blake3] (self : WorkflowDataContract) : String :=
  (Blake3.hash (utf8 "octoscript-workflow-data-contract-v1" ++
    beBytes (UInt64.ofNat self.outputContracts.length) ++
    component (Json.encode self.inputSchema.source) ++
    self.outputContracts.flatMap fun outputContract =>
      component (utf8 outputContract.stepId) ++
        component (Json.encode outputContract.schema.source))).toHex

end Octoscript
