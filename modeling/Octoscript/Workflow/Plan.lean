import Octoscript.Protocol.Error

namespace Octoscript
open Wire

def maxWorkflowSteps : ℕ := 1024
def maxWorkflowStepIdBytes : ℕ := 128
def maxWorkflowPlanSourceBytes : ℕ := 1048576

structure WorkflowStep where
  (id source : String)
  deriving DecidableEq

structure WorkflowPlan where
  (engineId id : UInt64)
  fingerprint : String
  steps : List WorkflowStep
  deriving DecidableEq

def planFingerprint [Blake3] (steps : List WorkflowStep) : String :=
  (Blake3.hash (utf8 "octoscript-workflow-plan-v1" ++ beBytes (UInt64.ofNat steps.length) ++
    steps.flatMap fun step => component (utf8 step.id) ++ component (utf8 step.source))).toHex

def isPlanFingerprint (value : String) : Bool :=
  value.utf8ByteSize == 64 && value.toList.all isHexDigit

/-- A digest has the length of a fingerprint and its alphabet. -/
theorem isPlanFingerprint_toHex (d : Digest) : isPlanFingerprint d.toHex = true := by
  have hall := hexEncode_all d.bytes
  have hascii : ∀ c ∈ hexEncode d.bytes, c.toNat < 128 := by
    intro c hc
    have := toNat_of_isHexDigit (List.all_eq_true.mp hall c hc)
    omega
  have hsize : d.toHex.utf8ByteSize = 64 := by
    rw [Digest.toHex, String.utf8ByteSize_ofList, utf8Len_of_ascii hascii, hexEncode_length, d.size]
  have htext : d.toHex.toList = hexEncode d.bytes := String.toList_ofList
  simp [isPlanFingerprint, hsize, htext, hall]

def isValidOperationToken (value : String) : Bool :=
  value ≠ "" && value.utf8ByteSize ≤ 128 && value.toList.all isTokenChar

def isValidWorkflowOperationKey (value : String) : Bool :=
  isValidOperationToken value && !"cmp-".toList.isPrefixOf value.toList

def isValidCompensationKey (value : String) : Bool :=
  "cmp-".toList.isPrefixOf value.toList && isValidOperationToken value

def isValidStepId (id : String) : Bool :=
  id ≠ "" && id.utf8ByteSize ≤ maxWorkflowStepIdBytes && id.toList.all isTokenChar

theorem isValidOperationToken_iff {value : String} :
    isValidOperationToken value = true ↔ IsToken value := by
  simp [isValidOperationToken, IsToken, maxTokenBytes, and_assoc]

end Octoscript
