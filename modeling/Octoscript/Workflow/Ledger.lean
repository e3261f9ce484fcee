import Octoscript.Lib.Machine
import Octoscript.Protocol.Message
import Octoscript.Workflow.Plan

namespace Octoscript
open Wire

def maxWorkflowOperations : ℕ := 64
def maxWorkflowOperationInputBytes : ℕ := 256 * 1024
def maxWorkflowOperationLedgerBytes : ℕ := 64 * 1024
def workflowOperationLedgerFormatVersion : UInt8 := 2

def workflowOperationInputFingerprint [Blake3] (input : Bytes) : String :=
  (Blake3.hash (utf8 "octoscript-workflow-operation-input-v1" ++ component input)).toHex

inductive WorkflowOperationState
  | pending
  | running
  | succeeded
  | failed
  | cancelled
  deriving DecidableEq

namespace WorkflowOperationState

def isTerminal : WorkflowOperationState → Bool
  | .succeeded | .failed | .cancelled => true
  | .pending | .running => false

/-- Whether an observation may follow this state. -/
def accepts (self observed : WorkflowOperationState) : Bool :=
  match self with
  | .pending | .running => observed ≠ .pending
  | .succeeded | .failed | .cancelled => self = observed

/-- The state that a worker's status stands for; its output is not kept. -/
def ofStatus : OperationStatus → WorkflowOperationState
  | .running => .running
  | .succeeded _ => .succeeded
  | .failed _ => .failed
  | .cancelled => .cancelled

theorem eq_of_accepts {s t : WorkflowOperationState} (h : s.accepts t = true)
    (hs : s.isTerminal = true) : t = s := by
  cases s <;> simp_all [accepts, isTerminal]

end WorkflowOperationState

inductive WorkflowOperationLedgerError
  | tooLarge
  | invalidEncoding
  | unsupportedVersion (version : UInt8)
  | invalidPlanFingerprint
  | tooManyOperations
  | revisionExhausted
  | inputTooLarge (actual maximum : ℕ)
  | invalidStepId (stepId : String)
  | invalidTool (tool : String)
  | invalidOperationKey (operationKey : String)
  | invalidInputFingerprint
  | inputFingerprintMismatch (operationKey : String)
  | emptyOperationNonce
  | operationNonceTooLarge (actual maximum : ℕ)
  | operationBindingMismatch (operationKey : String)
  | operationAlreadyTerminal (operationKey : String) (state : WorkflowOperationState)
  | invalidCompensationKey (compensationKey : String)
  | invalidCompensationTenantScope (tenantScope : String)
  | invalidCompensationGrantFingerprint
  | compensationInputFingerprintMismatch (compensationKey : String)
  | compensationAlreadyRecorded (operationKey : String)
  | compensationRequiresSucceededOperation (operationKey : String) (state : WorkflowOperationState)
  | compensationPolicyMismatch (operationKey : String)
  | unknownCompensation (operationKey : String)
  | compensationRequestMismatch
  | invalidCompensationStateTransition (compensationKey : String)
      (current observed : WorkflowOperationState)
  | duplicateOperationKey (operationKey : String)
  | planMismatch
  | unknownStep (stepId : String)
  | unknownOperation (operationKey : String)
  | reconciliationMismatch
  | invalidStateTransition (current observed : WorkflowOperationState)
  | protocol (error : ProtocolError)
  deriving DecidableEq

/-- A check of the protocol, with `map_err`. -/
def ofProtocol {α : Type} (x : Except ProtocolError α) : Except WorkflowOperationLedgerError α :=
  x.mapError .protocol

@[simp] theorem ofProtocol_ok_iff {α : Type} {x : Except ProtocolError α} {a : α} :
    ofProtocol x = .ok a ↔ x = .ok a := Except.mapError_ok_iff

def validateOperationInputSize (input : Bytes) : Except WorkflowOperationLedgerError Unit :=
  rejectIf (input.length > maxWorkflowOperationInputBytes)
    (.inputTooLarge input.length maxWorkflowOperationInputBytes)

/-- Whether a record with this fingerprint was created for exactly these bytes. -/
def matchesInput [Blake3] (inputFingerprint : String) (input : Bytes) : Bool :=
  input.length ≤ maxWorkflowOperationInputBytes &&
    inputFingerprint = workflowOperationInputFingerprint input

structure WorkflowCompensationPolicy where
  (tool tenantScope grantFingerprint : String)
  deriving DecidableEq

def WorkflowCompensationPolicy.validateSyntax (policy : WorkflowCompensationPolicy) :
    Except WorkflowOperationLedgerError Unit := do
  rejectIf (isValidOperationToken policy.tool = false) (.invalidTool policy.tool)
  rejectIf (isValidOperationToken policy.tenantScope = false)
    (.invalidCompensationTenantScope policy.tenantScope)
  rejectIf (isPlanFingerprint policy.grantFingerprint = false) .invalidCompensationGrantFingerprint

/-- Durable intent for the inverse of one succeeded operation. -/
structure WorkflowCompensation where
  (compensationKey inputFingerprint tenantScope grantFingerprint : String)
  state : WorkflowOperationState
  deriving DecidableEq

namespace WorkflowCompensation

@[simps]
def withState (c : WorkflowCompensation) (state : WorkflowOperationState) : WorkflowCompensation :=
  { c with state }

def verifyInput [Blake3] (c : WorkflowCompensation) (input : Bytes) :
    Except WorkflowOperationLedgerError Unit := do
  validateOperationInputSize input
  rejectIf (matchesInput c.inputFingerprint input = false)
    (.compensationInputFingerprintMismatch c.compensationKey)

def validateSyntax (c : WorkflowCompensation) : Except WorkflowOperationLedgerError Unit := do
  rejectIf (isValidCompensationKey c.compensationKey = false)
    (.invalidCompensationKey c.compensationKey)
  rejectIf (isPlanFingerprint c.inputFingerprint = false) .invalidInputFingerprint
  rejectIf (isValidOperationToken c.tenantScope = false)
    (.invalidCompensationTenantScope c.tenantScope)
  rejectIf (isPlanFingerprint c.grantFingerprint = false) .invalidCompensationGrantFingerprint

end WorkflowCompensation

structure WorkflowOperation where
  (stepId tool operationKey inputFingerprint : String)
  state : WorkflowOperationState
  compensation : Option WorkflowCompensation
  deriving DecidableEq

namespace WorkflowOperation

@[simps]
def withState (o : WorkflowOperation) (state : WorkflowOperationState) : WorkflowOperation :=
  { o with state }

@[simps]
def withCompensation (o : WorkflowOperation) (compensation : WorkflowCompensation) :
    WorkflowOperation := { o with compensation := some compensation }

def verifyInput [Blake3] (o : WorkflowOperation) (input : Bytes) :
    Except WorkflowOperationLedgerError Unit := do
  validateOperationInputSize input
  rejectIf (matchesInput o.inputFingerprint input = false)
    (.inputFingerprintMismatch o.operationKey)

/-- The check of a compensation and of the operation it belongs to. -/
def validateCompensation (o : WorkflowOperation) : Except WorkflowOperationLedgerError Unit :=
  match o.compensation with
  | none => pure ()
  | some compensation => do
    rejectIf (o.state ≠ .succeeded)
      (.compensationRequiresSucceededOperation o.operationKey o.state)
    compensation.validateSyntax

def validateSyntax (o : WorkflowOperation) : Except WorkflowOperationLedgerError Unit := do
  rejectIf (isValidStepId o.stepId = false) (.invalidStepId o.stepId)
  rejectIf (isValidOperationToken o.tool = false) (.invalidTool o.tool)
  rejectIf (isValidWorkflowOperationKey o.operationKey = false) (.invalidOperationKey o.operationKey)
  rejectIf (isPlanFingerprint o.inputFingerprint = false) .invalidInputFingerprint
  o.validateCompensation

def requireCompensation (o : WorkflowOperation) (operationKey : String) :
    Except WorkflowOperationLedgerError WorkflowCompensation :=
  o.compensation.okOr (.unknownCompensation operationKey)

end WorkflowOperation

structure WorkflowOperationLedger where
  formatVersion : UInt8
  revision : UInt64
  planFingerprint : String
  operations : List WorkflowOperation
  deriving DecidableEq

namespace WorkflowOperationLedger
variable {l : WorkflowOperationLedger} {key : String}

def forPlan (plan : WorkflowPlan) : WorkflowOperationLedger :=
  ⟨workflowOperationLedgerFormatVersion, 0, plan.fingerprint, []⟩

def operation (self : WorkflowOperationLedger) (operationKey : String) :
    Option WorkflowOperation :=
  self.operations.find? (·.operationKey = operationKey)

def validateSyntax (self : WorkflowOperationLedger) : Except WorkflowOperationLedgerError Unit := do
  rejectIf (self.formatVersion ≠ workflowOperationLedgerFormatVersion)
    (.unsupportedVersion self.formatVersion)
  rejectIf (isPlanFingerprint self.planFingerprint = false) .invalidPlanFingerprint
  rejectIf (self.operations.length > maxWorkflowOperations) .tooManyOperations
  Except.checkDistinct WorkflowOperation.validateSyntax WorkflowOperation.operationKey
    .duplicateOperationKey [] self.operations

def validateFor (self : WorkflowOperationLedger) (plan : WorkflowPlan) :
    Except WorkflowOperationLedgerError Unit := do
  self.validateSyntax
  rejectIf (self.planFingerprint ≠ plan.fingerprint) .planMismatch
  self.operations.forM fun operation =>
    rejectIf (¬∃ step ∈ plan.steps, step.id = operation.stepId) (.unknownStep operation.stepId)

def nextRevision (self : WorkflowOperationLedger) : Except WorkflowOperationLedgerError UInt64 :=
  self.revision.checkedSucc.okOr .revisionExhausted

def position (self : WorkflowOperationLedger) (operationKey : String) :
    Except WorkflowOperationLedgerError (Fin self.operations.length) :=
  (self.operations.findFinIdx? (·.operationKey = operationKey)).okOr
    (.unknownOperation operationKey)

/-- A method of the ledger. -/
abbrev Call (α : Type) := Mut WorkflowOperationLedger WorkflowOperationLedgerError α

/-- The ledger with one operation replaced, under a new revision. -/
def setOperation (l : WorkflowOperationLedger) (i : Fin l.operations.length) (o : WorkflowOperation)
    (revision : UInt64) : WorkflowOperationLedger :=
  { l with operations := l.operations.set i o, revision }

/-- Records durable intent before the host dispatches an external effect. -/
def record [Blake3] (stepId tool operationKey : String) (input : Bytes) : Call Unit := do
  let self ← Mut.self
  self.validateSyntax
  validateOperationInputSize input
  rejectIf (self.operations.length ≥ maxWorkflowOperations) .tooManyOperations
  let revision ← self.nextRevision
  let operation : WorkflowOperation :=
    { stepId, tool, operationKey, inputFingerprint := workflowOperationInputFingerprint input,
      state := .pending, compensation := none }
  operation.validateSyntax
  rejectIf (∃ existing ∈ self.operations, existing.operationKey = operation.operationKey)
    (.duplicateOperationKey operation.operationKey)
  Mut.assign { self with operations := self.operations ++ [operation], revision }

/-- Records one compensation intent for a succeeded operation. -/
def recordCompensation [Blake3] (operationKey : String) (policy : WorkflowCompensationPolicy)
    (compensationKey : String) (input : Bytes) : Call Unit := do
  let self ← Mut.self
  self.validateSyntax
  policy.validateSyntax
  validateOperationInputSize input
  let index ← self.position operationKey
  let operation := self.operations.get index
  rejectIf (operation.state ≠ .succeeded)
    (.compensationRequiresSucceededOperation operation.operationKey operation.state)
  rejectIf (operation.tool ≠ policy.tool) (.compensationPolicyMismatch operation.operationKey)
  rejectIf (operation.compensation ≠ none) (.compensationAlreadyRecorded operation.operationKey)
  rejectIf (isValidCompensationKey compensationKey = false) (.invalidCompensationKey compensationKey)
  let revision ← self.nextRevision
  Mut.assign (self.setOperation index (operation.withCompensation
    { compensationKey, inputFingerprint := workflowOperationInputFingerprint input,
      tenantScope := policy.tenantScope, grantFingerprint := policy.grantFingerprint,
      state := .pending }) revision)

/-- Applies a worker's observation of a compensation. -/
def applyVerifiedCompensation [Blake3] (request : OperationCompensationRequest)
    (result : OperationCompensationResult) : Call WorkflowOperationState := do
  let self ← Mut.self
  self.validateSyntax
  ofProtocol request.validate
  ofProtocol result.validate
  rejectIf (¬result.MatchesRequest request) .compensationRequestMismatch
  let index ← self.position request.operationKey
  let operation := self.operations.get index
  rejectIf (operation.tool ≠ request.tool) .compensationRequestMismatch
  let compensation ← operation.requireCompensation request.operationKey
  let input ← ofProtocol (canonicalOperationInputBytes request.payload)
  compensation.verifyInput input
  rejectIf (compensation.compensationKey ≠ request.compensationKey ∨
      compensation.tenantScope ≠ request.tenantScope ∨
      compensation.grantFingerprint ≠ request.grantFingerprint) .compensationRequestMismatch
  let observed := WorkflowOperationState.ofStatus result.status
  rejectIf (compensation.state.accepts observed = false)
    (.invalidCompensationStateTransition compensation.compensationKey compensation.state observed)
  if compensation.state ≠ observed then
    let revision ← self.nextRevision
    Mut.assign (self.setOperation index
      (operation.withCompensation (compensation.withState observed)) revision)
  return observed

/-- The reconciliation request for a recorded operation. -/
def reconcileRequest [Blake3] (self : WorkflowOperationLedger) (operationKey : String)
    (input : Bytes) (sessionId requestId : String) :
    Except WorkflowOperationLedgerError OperationReconcileRequest := do
  self.validateSyntax
  rejectIf (isValidOperationToken operationKey = false) (.invalidOperationKey operationKey)
  let operation ← (self.operation operationKey).okOr (.unknownOperation operationKey)
  operation.verifyInput input
  ofProtocol (OperationReconcileRequest.new sessionId requestId operation.tool
    operation.operationKey)

/-- Applies a worker's observation of an operation. -/
def applyVerifiedReconciliation (request : OperationReconcileRequest)
    (result : OperationReconcileResult) : Call WorkflowOperationState := do
  let self ← Mut.self
  self.validateSyntax
  ofProtocol request.validate
  ofProtocol result.validate
  rejectIf (¬result.MatchesRequest request) .reconciliationMismatch
  let observed := WorkflowOperationState.ofStatus result.status
  let index ← self.position request.operationKey
  let operation := self.operations.get index
  rejectIf (operation.tool ≠ request.tool) .reconciliationMismatch
  rejectIf (operation.state.accepts observed = false)
    (.invalidStateTransition operation.state observed)
  if operation.state ≠ observed then
    let revision ← self.nextRevision
    Mut.assign (self.setOperation index (operation.withState observed) revision)
  return observed

structure Valid (l : WorkflowOperationLedger) : Prop where
  version : l.formatVersion = workflowOperationLedgerFormatVersion
  plan : isPlanFingerprint l.planFingerprint = true
  size : l.operations.length ≤ maxWorkflowOperations
  operations : ∀ o ∈ l.operations, o.validateSyntax = .ok ()
  keys : (l.operations.map WorkflowOperation.operationKey).Nodup

theorem validateSyntax_ok_iff {u : Unit} :
    l.validateSyntax = .ok u ↔ l.Valid := by
  simp only [validateSyntax, Except.bind_ok_iff, Except.rejectIf_ok_iff, Except.checkDistinct_ok_iff,
    not_not, not_lt, Bool.not_eq_false, List.not_mem_nil, not_false_eq_true, implies_true, and_true]
  constructor
  · rintro ⟨_, hver, _, hplan, _, hsize, hops, hkeys⟩
    exact ⟨hver, hplan, hsize, hops, hkeys⟩
  · rintro ⟨hver, hplan, hsize, hops, hkeys⟩
    exact ⟨(), hver, (), hplan, (), hsize, hops, hkeys⟩

theorem valid_forPlan {plan : WorkflowPlan} (h : isPlanFingerprint plan.fingerprint = true) :
    (forPlan plan).Valid where
  version := rfl
  plan := h
  size := Nat.zero_le _
  operations _ ho := nomatch ho
  keys := List.nodup_nil

theorem nextRevision_ok_iff {revision : UInt64} :
    l.nextRevision = .ok revision ↔ revision.toNat = l.revision.toNat + 1 := by
  rw [nextRevision, Option.okOr_ok_iff, UInt64.checkedSucc_eq_some_iff]

theorem operationKey_of_position {i : Fin l.operations.length} (h : l.position key = .ok i) :
    (l.operations.get i).operationKey = key := by
  rw [position, Option.okOr_ok_iff, List.findFinIdx?_eq_some_iff] at h
  simpa using h.1

theorem Valid.operation_eq_some_iff (h : l.Valid) {o : WorkflowOperation} :
    l.operation key = some o ↔ o ∈ l.operations ∧ o.operationKey = key := by
  constructor
  · intro ho
    exact ⟨List.mem_of_find?_eq_some ho, by simpa using List.find?_some ho⟩
  · rintro ⟨hmem, rfl⟩
    cases hfind : l.operation o.operationKey with
    | none => simpa using List.find?_eq_none.mp hfind o hmem
    | some o' =>
      have hkey : o'.operationKey = o.operationKey := by simpa using List.find?_some hfind
      rw [List.inj_on_of_nodup_map h.keys (List.mem_of_find?_eq_some hfind) hmem hkey]

theorem Valid.operation_of_position (h : l.Valid)
    {i : Fin l.operations.length} (hi : l.position key = .ok i) :
    l.operation key = some (l.operations.get i) :=
  h.operation_eq_some_iff.mpr ⟨List.get_mem _ _, operationKey_of_position hi⟩

variable {l l' : WorkflowOperationLedger}

theorem returns_record [Blake3] {stepId tool operationKey : String} {input : Bytes} {u : Unit}
    (h : (record stepId tool operationKey input).Returns l u l') :
    l.Valid ∧ l.operations.length < maxWorkflowOperations ∧
    (∀ existing ∈ l.operations, existing.operationKey ≠ operationKey) ∧
    ∃ (revision : UInt64) (operation : WorkflowOperation), operation =
        ⟨stepId, tool, operationKey, workflowOperationInputFingerprint input, .pending, none⟩ ∧
      operation.validateSyntax = .ok () ∧ revision.toNat = l.revision.toNat + 1 ∧
      l' = { l with operations := l.operations ++ [operation], revision } := by
  simp only [record, Mut.returns_steps, validateSyntax_ok_iff, nextRevision_ok_iff] at h
  obtain ⟨_, hvalid, _, _, hsize, revision, hrev, _, hop, hfresh, rfl⟩ := h
  exact ⟨hvalid, not_le.mp hsize, fun o ho hkey => hfresh ⟨o, ho, hkey⟩, revision, _, rfl,
    hop, hrev, rfl⟩

theorem returns_recordCompensation [Blake3] {operationKey : String}
    {policy : WorkflowCompensationPolicy} {compensationKey : String} {input : Bytes} {u : Unit}
    (h : (recordCompensation operationKey policy compensationKey input).Returns l u l') :
    l.Valid ∧ policy.validateSyntax = .ok () ∧ isValidCompensationKey compensationKey = true ∧
    ∃ i, ∃ revision : UInt64, l.position operationKey = .ok i ∧
      (l.operations.get i).state = .succeeded ∧ (l.operations.get i).compensation = none ∧
      revision.toNat = l.revision.toNat + 1 ∧
      l' = l.setOperation i ((l.operations.get i).withCompensation
        ⟨compensationKey, workflowOperationInputFingerprint input, policy.tenantScope,
          policy.grantFingerprint, .pending⟩) revision := by
  simp only [recordCompensation, Mut.returns_steps, validateSyntax_ok_iff, nextRevision_ok_iff,
    not_not, Bool.not_eq_false] at h
  obtain ⟨_, hvalid, _, hpolicy, _, _, i, hi, hstate, _, hnone, hkey, revision, hrev, rfl⟩ := h
  exact ⟨hvalid, hpolicy, hkey, i, revision, hi, hstate, hnone, hrev, rfl⟩

theorem returns_applyVerifiedCompensation [Blake3] {request : OperationCompensationRequest}
    {result : OperationCompensationResult} {observed : WorkflowOperationState}
    (h : (applyVerifiedCompensation request result).Returns l observed l') :
    l.Valid ∧ result.MatchesRequest request ∧ observed = .ofStatus result.status ∧
    ∃ i c, l.position request.operationKey = .ok i ∧
      (l.operations.get i).compensation = some c ∧ c.compensationKey = request.compensationKey ∧
      c.state.accepts observed = true ∧
      (c.state = observed ∧ l' = l ∨ c.state ≠ observed ∧ ∃ revision : UInt64,
        revision.toNat = l.revision.toNat + 1 ∧
        l' = l.setOperation i ((l.operations.get i).withCompensation (c.withState observed))
          revision) := by
  simp only [applyVerifiedCompensation, Mut.returns_steps, ofProtocol_ok_iff, validateSyntax_ok_iff,
    not_not, Bool.not_eq_false, WorkflowOperation.requireCompensation, Option.okOr_ok_iff,
    not_or] at h
  obtain ⟨_, hvalid, _, _, _, _, hmatch, i, hi, _, c, hc, _, _, _, _, ⟨hkey, _, _⟩, hacc, h⟩ := h
  split_ifs at h with hsame
  · simp only [Mut.returns_steps, nextRevision_ok_iff] at h
    obtain ⟨revision, hrev, rfl, rfl⟩ := h
    exact ⟨hvalid, hmatch, rfl, i, c, hi, hc, hkey, hacc, .inr ⟨hsame, revision, hrev, rfl⟩⟩
  · simp only [Mut.returns_pure] at h
    obtain ⟨rfl, rfl⟩ := h
    exact ⟨hvalid, hmatch, rfl, i, c, hi, hc, hkey, hacc, .inl ⟨not_not.mp hsame, rfl⟩⟩

theorem returns_applyVerifiedReconciliation {request : OperationReconcileRequest}
    {result : OperationReconcileResult} {observed : WorkflowOperationState}
    (h : (applyVerifiedReconciliation request result).Returns l observed l') :
    l.Valid ∧ result.MatchesRequest request ∧ observed = .ofStatus result.status ∧
    ∃ i, l.position request.operationKey = .ok i ∧ (l.operations.get i).tool = request.tool ∧
      (l.operations.get i).state.accepts observed = true ∧
      ((l.operations.get i).state = observed ∧ l' = l ∨
        (l.operations.get i).state ≠ observed ∧ ∃ revision : UInt64,
        revision.toNat = l.revision.toNat + 1 ∧
        l' = l.setOperation i ((l.operations.get i).withState observed) revision) := by
  simp only [applyVerifiedReconciliation, Mut.returns_steps, ofProtocol_ok_iff,
    validateSyntax_ok_iff, not_not, Bool.not_eq_false] at h
  obtain ⟨_, hvalid, _, _, _, _, hmatch, i, hi, htool, hacc, h⟩ := h
  split_ifs at h with hsame
  · simp only [Mut.returns_steps, nextRevision_ok_iff] at h
    obtain ⟨revision, hrev, rfl, rfl⟩ := h
    exact ⟨hvalid, hmatch, rfl, i, hi, htool, hacc, .inr ⟨hsame, revision, hrev, rfl⟩⟩
  · simp only [Mut.returns_pure] at h
    obtain ⟨rfl, rfl⟩ := h
    exact ⟨hvalid, hmatch, rfl, i, hi, htool, hacc, .inl ⟨not_not.mp hsame, rfl⟩⟩

end WorkflowOperationLedger

end Octoscript
