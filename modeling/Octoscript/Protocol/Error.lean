import Octoscript.Lib.Json
import Octoscript.Lib.Mutation

namespace Octoscript
open Wire

def protocolVersion : UInt16 := 5
def maxWireFrameBytes : ℕ := 1048576
def maxOperationErrorBytes : ℕ := 4 * 1024
def maxJsonPayloadDepth : ℕ := 32
def maxWorkerOperationJournalBytes : ℕ := 256 * 1024
def maxWorkerOperationRecords : ℕ := 64
def workerOperationJournalFormatVersion : UInt8 := 2
def maxCapabilityGrantsPerManifest : ℕ := 128
def maxSessionRequestIds : ℕ := 1024
def maxResourcesPerGrant : ℕ := 64
def maxTokenBytes : ℕ := 128

inductive EnvelopeFormat
  | text
  | json
  deriving DecidableEq

inductive WorkerOperationStateKind
  | pending
  | running
  | succeeded
  | failed
  | cancelled
  deriving DecidableEq

inductive ProtocolError
  | unsupportedVersion (actual : UInt16)
  | invalidToken (field value : String)
  | duplicateGrant (tool : String)
  | invalidGrant (reason : String)
  | tooManyGrants (maximum : ℕ)
  | tooManyResources (maximum : ℕ)
  | attenuationWidensLimits
  | attenuationExpandsResources
  | unknownSession (sessionId : String)
  | unknownTool (tool : String)
  | weakSessionKey
  | invalidSequence
  | sequenceExhausted
  | unexpectedSequence (expected actual : UInt64)
  | invalidAuthenticationTag
  | authorizationProvenanceMismatch
  | duplicateRequest (requestId : String)
  | sessionRequestLimitExceeded (maximum : ℕ)
  | duplicateResult (requestId : String)
  | cancellationIdMatchesRequest
  | cancellationTargetMismatch
  | cancellationResultMismatch
  | requestAlreadyCancelled (requestId : String)
  | cancellationAlreadyRequested (requestId : String)
  | resultAfterCancellation (requestId : String)
  | cancellationAcknowledgedAfterResult (requestId : String)
  | cancellationTooLateBeforeResult (requestId : String)
  | cancellationUnsupportedAfterResult (requestId : String)
  | operationResultMismatch
  | invalidCompensationKey
  | invalidCompensationGrantFingerprint
  | compensationNotGranted (tool : String)
  | compensationBudgetExhausted (tool : String) (maximum : UInt32)
  | compensationGrantMismatch
  | compensationResultMismatch
  | compensationToolMismatch (operationKey : String)
  | compensationRequiresSucceededOperation (operationKey : String)
      (state : WorkerOperationStateKind)
  | unknownCompensation (operationKey : String)
  | compensationIdentityMismatch (operationKey : String)
  | invalidWorkerCompensationTransition (operationKey : String)
      (current observed : WorkerOperationStateKind)
  | unsupportedOperationJournalVersion (version : UInt8)
  | operationJournalTooLarge (actual maximum : ℕ)
  | operationJournalScopeMismatch (expected actual : String)
  | tooManyWorkerOperations (maximum : ℕ)
  | invalidOperationFingerprint
  | duplicateOperationKey (operationKey : String)
  | unknownOperation (operationKey : String)
  | operationIdentityMismatch (operationKey : String)
  | invalidWorkerOperationTransition (operationKey : String)
      (current observed : WorkerOperationStateKind)
  | payloadFormatMismatch (expected actual : EnvelopeFormat)
  | invalidJsonEnvelope
  | jsonPayloadTooDeep (maximum : ℕ)
  | invalidOperationFailure
  | operationFailureTooLarge (actual maximum : ℕ)
  | inputTooLarge (actual maximum : ℕ)
  | outputTooLarge (actual maximum : ℕ)
  | callBudgetExhausted (tool : String) (maximum : UInt32)
  | requestMismatch (expected actual : String)
  | wireFrameTooLarge (actual maximum : ℕ)
  | serialization (message : String)
  deriving DecidableEq

def isTokenChar (c : Char) : Bool :=
  c.isLower || c.isDigit || c == '.' || c == '_' || c == '-'

/-- No character of a token needs an escape in JSON. -/
theorem isPlain_of_isTokenChar {c : Char} (h : isTokenChar c = true) : Json.isPlain c = true := by
  simp only [isTokenChar, Bool.or_eq_true, beq_iff_eq] at h
  rcases h with (((h | h) | rfl) | rfl) | rfl
  · have hrange := toNat_of_isLower h
    exact Json.isPlain_of_toNat (by omega) (by omega) (by omega)
  · have hrange := toNat_of_isDigit h
    exact Json.isPlain_of_toNat (by omega) (by omega) (by omega)
  all_goals decide

theorem all_isPlain_of_token {l : List Char} (h : l.all isTokenChar = true) :
    l.all Json.isPlain = true :=
  List.all_eq_true.mpr fun c hc => isPlain_of_isTokenChar (List.all_eq_true.mp h c hc)

/-- What `validate_token` accepts. -/
def IsToken (value : String) : Prop :=
  value ≠ "" ∧ value.utf8ByteSize ≤ maxTokenBytes ∧ value.toList.all isTokenChar = true

instance (value : String) : Decidable (IsToken value) := by unfold IsToken; infer_instance

def validateToken (field value : String) : Except ProtocolError Unit :=
  rejectIf (¬IsToken value) (.invalidToken field value)

@[simp] theorem validateToken_ok_iff {field value : String} {u : Unit} :
    validateToken field value = .ok u ↔ IsToken value := by
  simp [validateToken]

def validateProtocolVersion (version : UInt16) : Except ProtocolError Unit :=
  rejectIf (version ≠ protocolVersion) (.unsupportedVersion version)

@[simp] theorem validateProtocolVersion_ok_iff {version : UInt16} {u : Unit} :
    validateProtocolVersion version = .ok u ↔ version = protocolVersion := by
  simp [validateProtocolVersion]

/-- The 32 bytes of a BLAKE3 output. -/
structure Digest where
  bytes : Bytes
  size : bytes.length = 32
  deriving DecidableEq

/-- The 32 bytes of a BLAKE3 key. -/
structure HashKey where
  bytes : Bytes
  size : bytes.length = 32
  deriving DecidableEq

/-- BLAKE3 in its two modes. -/
class Blake3 where
  hash : Bytes → Digest
  keyedHash : HashKey → Bytes → Digest

def Digest.toHex (d : Digest) : String := String.ofList (hexEncode d.bytes)

theorem Digest.toHex_injective : Function.Injective Digest.toHex := by
  intro d d' h
  have hbytes : d.bytes = d'.bytes := hexEncode_injective (String.ofList_injective h)
  cases d
  cases d'
  simp_all

def isBlake3Fingerprint (value : String) : Bool :=
  value.utf8ByteSize == 64 && value.toList.all isHexDigit

def validateCompensationKey (value : String) : Except ProtocolError Unit := do
  validateToken "compensation key" value
  rejectIf (¬"cmp-".toList <+: value.toList) .invalidCompensationKey

end Octoscript
