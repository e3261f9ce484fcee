import Octoscript.Capabilities.ExternalTool
import Octoscript.Lib.JsonRecord
import Octoscript.Workflow.Data
import Octoscript.Workflow.LedgerHistory

namespace Octoscript
open Wire

def maxWorkflowCheckpointBytes : ℕ := 16 * 1024
def maxWorkflowCheckpointSteps : ℕ := maxWorkflowSteps
def workflowCheckpointFormatVersion : UInt8 := 1

section
variable {ε : Type}

/-- `to_json` of a record with its check, its estimate and its limit. -/
def encodeWithin (maximum : ℕ) (tooLarge : ε) (check : Except ε Unit) (estimate : Option ℕ)
    (document : Json.Value) : Except ε String := do
  check
  let upperBound ← estimate.okOr tooLarge
  rejectIf (upperBound > maximum) tooLarge
  let encoded := Json.text document
  rejectIf (encoded.utf8ByteSize > maximum) tooLarge
  return encoded

/-- `from_json` of a record with its reader and its check. -/
def decodeWithin {α : Type} [JsonReader] (maximum : ℕ) (tooLarge invalidEncoding : ε)
    (deserialize : Json.Value → Option α) (check : α → Except ε Unit) (encoded : String) :
    Except ε α := do
  rejectIf (encoded.utf8ByteSize > maximum) tooLarge
  let value ← ((JsonReader.fromStr encoded).bind deserialize).okOr invalidEncoding
  check value
  return value

theorem encodeWithin_ok_iff {maximum : ℕ} {tooLarge : ε} {check : Except ε Unit}
    {estimate : Option ℕ} {document : Json.Value} {text : String} :
    encodeWithin maximum tooLarge check estimate document = .ok text ↔
      check = .ok () ∧ (∃ upperBound ≤ maximum, estimate = some upperBound) ∧
        text.utf8ByteSize ≤ maximum ∧ text = Json.text document := by
  simp only [encodeWithin, Except.bind_ok_iff, Option.okOr_ok_iff, Except.rejectIf_ok_iff, not_lt,
    pure, Except.pure, Except.ok.injEq]
  constructor
  · rintro ⟨_, hcheck, bound, hest, _, hbound, _, hsize, rfl⟩
    exact ⟨hcheck, ⟨bound, hbound, hest⟩, hsize, rfl⟩
  · rintro ⟨hcheck, ⟨bound, hbound, hest⟩, hsize, rfl⟩
    exact ⟨(), hcheck, bound, hest, (), hbound, (), hsize, rfl⟩

/-- A text that was stored is read back when the reader takes back its document. -/
theorem decodeWithin_of_encodeWithin {α : Type} [JsonReader] {maximum : ℕ}
    {tooLarge invalidEncoding : ε} {deserialize : Json.Value → Option α}
    {check : α → Except ε Unit} {a : α} {estimate : Option ℕ} {document : Json.Value}
    {text : String} (htext : encodeWithin maximum tooLarge (check a) estimate document = .ok text)
    (hread : JsonReader.fromStr (Json.text document) = some document)
    (hback : deserialize document = some a) :
    decodeWithin maximum tooLarge invalidEncoding deserialize check text = .ok a := by
  obtain ⟨hcheck, _, hsize, rfl⟩ := encodeWithin_ok_iff.mp htext
  simp only [decodeWithin, Except.bind_ok_iff, Except.rejectIf_ok_iff, not_lt, Option.okOr_ok_iff,
    hread, Option.bind_some, hback, pure, Except.pure]
  exact ⟨(), hsize, a, rfl, (), hcheck, rfl⟩

end

namespace WorkflowOperationState

def name : WorkflowOperationState → String
  | .pending => "pending"
  | .running => "running"
  | .succeeded => "succeeded"
  | .failed => "failed"
  | .cancelled => "cancelled"

def serialize (state : WorkflowOperationState) : Json.Value := .string state.name

def deserialize (value : Json.Value) : Option WorkflowOperationState := do
  let name ← Json.asUnitVariant value
  [pending, running, succeeded, failed, cancelled].find? (·.name = name)

end WorkflowOperationState

/-- A member that must be there, under its reader. -/
def required {α : Type} (read : Json.Value → Option α) (member : Option Json.Value) : Option α :=
  member.bind read

namespace WorkflowCompensation

def serialize (c : WorkflowCompensation) : Json.Value :=
  .object [("compensation_key", .string c.compensationKey),
    ("input_fingerprint", .string c.inputFingerprint), ("tenant_scope", .string c.tenantScope),
    ("grant_fingerprint", .string c.grantFingerprint), ("state", c.state.serialize)]

def deserialize (value : Json.Value) : Option WorkflowCompensation := do
  let member ← Json.record
    ["compensation_key", "input_fingerprint", "tenant_scope", "grant_fingerprint", "state"] value
  let compensationKey ← required Json.asString (member "compensation_key")
  let inputFingerprint ← required Json.asString (member "input_fingerprint")
  let tenantScope ← required Json.asString (member "tenant_scope")
  let grantFingerprint ← required Json.asString (member "grant_fingerprint")
  let state ← required WorkflowOperationState.deserialize (member "state")
  return { compensationKey, inputFingerprint, tenantScope, grantFingerprint, state }

/-- What a compensation adds to the estimate of its ledger. -/
def addends (c : WorkflowCompensation) : List ℕ :=
  [320, c.compensationKey.utf8ByteSize, c.inputFingerprint.utf8ByteSize, c.tenantScope.utf8ByteSize,
    c.grantFingerprint.utf8ByteSize]

end WorkflowCompensation

namespace WorkflowOperation

def serialize (o : WorkflowOperation) : Json.Value :=
  .object [("step_id", .string o.stepId), ("tool", .string o.tool),
    ("operation_key", .string o.operationKey), ("input_fingerprint", .string o.inputFingerprint),
    ("state", o.state.serialize),
    ("compensation", (o.compensation.map WorkflowCompensation.serialize).getD .null)]

def deserialize (value : Json.Value) : Option WorkflowOperation := do
  let member ← Json.record
    ["step_id", "tool", "operation_key", "input_fingerprint", "state", "compensation"] value
  let stepId ← required Json.asString (member "step_id")
  let tool ← required Json.asString (member "tool")
  let operationKey ← required Json.asString (member "operation_key")
  let inputFingerprint ← required Json.asString (member "input_fingerprint")
  let state ← required WorkflowOperationState.deserialize (member "state")
  let compensation ← Json.asOptional WorkflowCompensation.deserialize (member "compensation")
  return { stepId, tool, operationKey, inputFingerprint, state, compensation }

def addends (o : WorkflowOperation) : List ℕ :=
  [256, o.stepId.utf8ByteSize, o.tool.utf8ByteSize, o.operationKey.utf8ByteSize,
    o.inputFingerprint.utf8ByteSize] ++ (o.compensation.map WorkflowCompensation.addends).getD []

end WorkflowOperation

namespace WorkflowOperationLedger

def serialize (l : WorkflowOperationLedger) : Json.Value :=
  .object [("format_version", .nat l.formatVersion.toNat), ("revision", .nat l.revision.toNat),
    ("plan_fingerprint", .string l.planFingerprint),
    ("operations", .array (l.operations.map WorkflowOperation.serialize))]

def deserialize (value : Json.Value) : Option WorkflowOperationLedger := do
  let member ← Json.record ["format_version", "revision", "plan_fingerprint", "operations"] value
  let formatVersion ← required (Json.asNat (2 ^ 8)) (member "format_version")
  let revision ← required (Json.asNat (2 ^ 64)) (member "revision")
  let planFingerprint ← required Json.asString (member "plan_fingerprint")
  let items ← required Json.asItems (member "operations")
  let operations ← items.mapM WorkflowOperation.deserialize
  return ⟨.ofNat formatVersion, .ofNat revision, planFingerprint, operations⟩

def encodedSizeUpperBound (l : WorkflowOperationLedger) : Option ℕ :=
  (32 :: l.operations.flatMap WorkflowOperation.addends).foldlM Usize.checkedAdd 192

def toJson (l : WorkflowOperationLedger) : Except WorkflowOperationLedgerError String :=
  encodeWithin maxWorkflowOperationLedgerBytes .tooLarge l.validateSyntax l.encodedSizeUpperBound
    l.serialize

def fromJson [JsonReader] (encoded : String) :
    Except WorkflowOperationLedgerError WorkflowOperationLedger :=
  decodeWithin maxWorkflowOperationLedgerBytes .tooLarge .invalidEncoding deserialize validateSyntax
    encoded

end WorkflowOperationLedger

inductive WorkflowCheckpointError
  | tooLarge
  | invalidEncoding
  | unsupportedVersion (version : UInt8)
  | invalidPlanFingerprint
  | invalidDataFingerprint
  | invalidDataContractFingerprint
  | tooManyCompletedSteps
  | invalidStepId (stepId : String)
  | duplicateStepId (stepId : String)
  | completedStepCountOutOfRange (completed total : ℕ)
  | planMismatch
  | stepPrefixMismatch
  | dataflowContextRequired
  | dataflowContextMismatch
  | dataflowContractRequired
  | dataflowContractMissing
  | dataflowContractMismatch
  | dataflowContractWithoutContext
  | dataflow (error : WorkflowDataError)
  deriving DecidableEq

structure WorkflowCheckpoint where
  formatVersion : UInt8
  planFingerprint : String
  completedStepIds : List String
  (dataFingerprint dataContractFingerprint : Option String)
  deriving DecidableEq

namespace WorkflowCheckpoint

def validateSyntax (c : WorkflowCheckpoint) : Except WorkflowCheckpointError Unit := do
  rejectIf (c.formatVersion ≠ workflowCheckpointFormatVersion) (.unsupportedVersion c.formatVersion)
  rejectIf (isPlanFingerprint c.planFingerprint = false) .invalidPlanFingerprint
  rejectIf (c.dataFingerprint.any (!isPlanFingerprint ·) = true) .invalidDataFingerprint
  rejectIf (c.dataContractFingerprint.any (!isPlanFingerprint ·) = true)
    .invalidDataContractFingerprint
  rejectIf (c.dataContractFingerprint.isSome = true ∧ c.dataFingerprint.isNone = true)
    .dataflowContractWithoutContext
  rejectIf (c.completedStepIds.length > maxWorkflowCheckpointSteps) .tooManyCompletedSteps
  Except.checkDistinct
    (fun stepId => rejectIf (isValidStepId stepId = false) (.invalidStepId stepId)) id
    .duplicateStepId [] c.completedStepIds

/-- A member that is left out when there is no value. -/
def optionalMember (name : String) (value : Option String) : List (String × Json.Value) :=
  (value.map fun text => (name, Json.Value.string text)).toList

def serialize (c : WorkflowCheckpoint) : Json.Value :=
  .object ([("format_version", .nat c.formatVersion.toNat),
    ("plan_fingerprint", .string c.planFingerprint),
    ("completed_step_ids", .array (c.completedStepIds.map .string))] ++
    optionalMember "data_fingerprint" c.dataFingerprint ++
    optionalMember "data_contract_fingerprint" c.dataContractFingerprint)

def deserialize (value : Json.Value) : Option WorkflowCheckpoint := do
  let member ← Json.record ["format_version", "plan_fingerprint", "completed_step_ids",
    "data_fingerprint", "data_contract_fingerprint"] value
  let formatVersion ← required (Json.asNat (2 ^ 8)) (member "format_version")
  let planFingerprint ← required Json.asString (member "plan_fingerprint")
  let items ← required Json.asItems (member "completed_step_ids")
  let completedStepIds ← items.mapM Json.asString
  let dataFingerprint ← Json.asOptional Json.asString (member "data_fingerprint")
  let dataContractFingerprint ← Json.asOptional Json.asString (member "data_contract_fingerprint")
  return ⟨.ofNat formatVersion, planFingerprint, completedStepIds, dataFingerprint,
    dataContractFingerprint⟩

/-- What an optional fingerprint adds to the estimate. -/
def bindingAddend (overhead : ℕ) (fingerprint : Option String) : List ℕ :=
  (fingerprint.map fun text => text.utf8ByteSize + overhead).toList

def encodedSizeUpperBound (c : WorkflowCheckpoint) : Option ℕ :=
  (c.completedStepIds.map (fun stepId : String => stepId.utf8ByteSize + 3) ++
    bindingAddend 32 c.dataFingerprint ++
    bindingAddend 40 c.dataContractFingerprint).foldlM Usize.checkedAdd 128

def toJson (c : WorkflowCheckpoint) : Except WorkflowCheckpointError String :=
  encodeWithin maxWorkflowCheckpointBytes .tooLarge c.validateSyntax c.encodedSizeUpperBound
    c.serialize

def fromJson [JsonReader] (encoded : String) : Except WorkflowCheckpointError WorkflowCheckpoint :=
  decodeWithin maxWorkflowCheckpointBytes .tooLarge .invalidEncoding deserialize validateSyntax
    encoded

end WorkflowCheckpoint

namespace WorkflowOperationState

@[simp] theorem deserialize_serialize (state : WorkflowOperationState) :
    deserialize state.serialize = some state := by
  cases state <;> decide

end WorkflowOperationState

@[simp] theorem WorkflowCompensation.deserialize_serialize (c : WorkflowCompensation) :
    deserialize c.serialize = some c := by
  simp [deserialize, serialize, Json.record, required, Json.asString]

theorem asOptional_serialize (compensation : Option WorkflowCompensation) :
    Json.asOptional WorkflowCompensation.deserialize
      (some ((compensation.map WorkflowCompensation.serialize).getD .null)) = some compensation := by
  cases compensation with
  | none => rfl
  | some c =>
    have hread : WorkflowCompensation.deserialize c.serialize = some c := by simp
    rw [WorkflowCompensation.serialize] at hread
    simp [Json.asOptional, WorkflowCompensation.serialize, hread]

@[simp] theorem WorkflowOperation.deserialize_serialize (o : WorkflowOperation) :
    deserialize o.serialize = some o := by
  simp [deserialize, serialize, Json.record, required, Json.asString, asOptional_serialize]

theorem WorkflowOperationLedger.deserialize_serialize (l : WorkflowOperationLedger) :
    deserialize l.serialize = some l := by
  have hver := Json.asNat_nat l.formatVersion.toNat_lt
  have hrev := Json.asNat_nat l.revision.toNat_lt
  have hops := Json.mapM_read WorkflowOperation.deserialize_serialize l.operations
  simp [deserialize, serialize, Json.record, required, Json.asString, Json.asItems, hver,
    hrev, hops]

theorem WorkflowCheckpoint.deserialize_serialize (c : WorkflowCheckpoint) :
    deserialize c.serialize = some c := by
  have hver := Json.asNat_nat c.formatVersion.toNat_lt
  have hsteps : (c.completedStepIds.map Json.Value.string).mapM Json.asString =
      some c.completedStepIds := Json.mapM_read Json.asString_string c.completedStepIds
  obtain ⟨version, plan, steps, data, contract⟩ := c
  cases data <;> cases contract <;>
    simp_all [deserialize, serialize, optionalMember, Json.record, required, Json.asString,
      Json.asItems, Json.asOptional]

/-- A reader of JSON texts that takes back the documents of workflow records. -/
class LawfulRecordReader extends JsonReader where
  fromStr_ledger : ∀ l : WorkflowOperationLedger,
    fromStr (Json.text l.serialize) = some l.serialize
  fromStr_checkpoint : ∀ c : WorkflowCheckpoint,
    fromStr (Json.text c.serialize) = some c.serialize

theorem WorkflowOperationLedger.fromJson_of_toJson [LawfulRecordReader]
    {l : WorkflowOperationLedger} {text : String} (h : l.toJson = .ok text) :
    fromJson text = .ok l :=
  decodeWithin_of_encodeWithin h (LawfulRecordReader.fromStr_ledger l) (deserialize_serialize l)

theorem WorkflowCheckpoint.fromJson_of_toJson [LawfulRecordReader] {c : WorkflowCheckpoint}
    {text : String} (h : c.toJson = .ok text) : fromJson text = .ok c :=
  decodeWithin_of_encodeWithin h (LawfulRecordReader.fromStr_checkpoint c) (deserialize_serialize c)

/-- A text determines its value, so such a reader exists. -/
theorem nonempty_lawfulRecordReader : Nonempty LawfulRecordReader :=
  ⟨{ fromStr := Function.partialInv Json.text
     fromStr_ledger := fun l => Function.partialInv_left Json.text_injective l.serialize
     fromStr_checkpoint := fun c => Function.partialInv_left Json.text_injective c.serialize }⟩

/-- The size of a value's text. -/
def jsonSize (value : Json.Value) : ℕ := String.utf8Len (Json.chars value)

theorem utf8ByteSize_text (value : Json.Value) :
    (Json.text value).utf8ByteSize = jsonSize value := by
  rw [Json.text, String.utf8ByteSize_ofList, jsonSize]

theorem utf8ByteSize_token {value : String} (h : isValidOperationToken value = true) :
    value.utf8ByteSize ≤ 128 := (isValidOperationToken_iff.mp h).2.1

theorem jsonSize_token {value : String} (h : isValidOperationToken value = true) :
    jsonSize (.string value) = value.utf8ByteSize + 2 := by
  have hplain := all_isPlain_of_token (isValidOperationToken_iff.mp h).2.2
  rw [jsonSize, Json.chars_string, Json.utf8Len_stringChars hplain]

theorem utf8ByteSize_fingerprint {value : String} (h : isPlanFingerprint value = true) :
    value.utf8ByteSize = 64 := by
  simp only [isPlanFingerprint, Bool.and_eq_true, beq_iff_eq] at h
  exact h.1

theorem jsonSize_fingerprint {value : String} (h : isPlanFingerprint value = true) :
    jsonSize (.string value) = 66 := by
  simp only [isPlanFingerprint, Bool.and_eq_true, beq_iff_eq] at h
  have hplain : value.toList.all Json.isPlain = true :=
    List.all_eq_true.mpr fun c hc => Json.isPlain_of_isHexDigit (List.all_eq_true.mp h.2 c hc)
  rw [jsonSize, Json.chars_string, Json.utf8Len_stringChars hplain, h.1]

theorem WorkflowOperationState.jsonSize_le (state : WorkflowOperationState) :
    jsonSize state.serialize ≤ 11 := by
  cases state <;> decide

theorem jsonSize_object {fields : List (String × Json.Value)} (h : fields ≠ []) :
    jsonSize (.object fields) =
      (fields.map fun f => String.utf8Len (Json.stringChars f.1) + jsonSize f.2 + 2).sum + 1 :=
  Json.utf8Len_object h

theorem WorkflowCompensation.validateSyntax_ok_iff {c : WorkflowCompensation} {u : Unit} :
    c.validateSyntax = .ok u ↔ isValidCompensationKey c.compensationKey = true ∧
      isPlanFingerprint c.inputFingerprint = true ∧ isValidOperationToken c.tenantScope = true ∧
      isPlanFingerprint c.grantFingerprint = true := by
  simp [validateSyntax]

theorem WorkflowCompensation.jsonSize_le {c : WorkflowCompensation}
    (h : c.validateSyntax = .ok ()) : jsonSize c.serialize ≤ c.addends.sum := by
  obtain ⟨hkey, hinput, hscope, hgrant⟩ := validateSyntax_ok_iff.mp h
  simp only [isValidCompensationKey, Bool.and_eq_true] at hkey
  have hnames : ["compensation_key", "input_fingerprint", "tenant_scope", "grant_fingerprint",
      "state"].map (fun name => String.utf8Len (Json.stringChars name)) = [18, 19, 14, 19, 7] := by
    decide
  simp only [List.map_cons, List.map_nil, List.cons.injEq, and_true] at hnames
  obtain ⟨hname₁, hname₂, hname₃, hname₄, hname₅⟩ := hnames
  have hstate := c.state.jsonSize_le
  rw [serialize, jsonSize_object (by simp)]
  simp only [List.map_cons, List.map_nil, List.sum_cons, List.sum_nil, addends, hname₁, hname₂,
    hname₃, hname₄, hname₅, jsonSize_token hkey.2, jsonSize_fingerprint hinput,
    jsonSize_token hscope, jsonSize_fingerprint hgrant, utf8ByteSize_fingerprint hinput,
    utf8ByteSize_fingerprint hgrant]
  omega

theorem WorkflowCompensation.sum_addends_le {c : WorkflowCompensation}
    (h : c.validateSyntax = .ok ()) : c.addends.sum ≤ 704 := by
  obtain ⟨hkey, hinput, hscope, hgrant⟩ := validateSyntax_ok_iff.mp h
  simp only [isValidCompensationKey, Bool.and_eq_true] at hkey
  have hkeySize := utf8ByteSize_token hkey.2
  have hinputSize := utf8ByteSize_fingerprint hinput
  have hscopeSize := utf8ByteSize_token hscope
  have hgrantSize := utf8ByteSize_fingerprint hgrant
  simp only [addends, List.sum_cons, List.sum_nil]
  omega

namespace WorkflowOperation
variable {o : WorkflowOperation}

/-- The member of an operation that holds its compensation. -/
theorem jsonSize_compensation_le (h : o.validateCompensation = .ok ()) :
    jsonSize ((o.compensation.map WorkflowCompensation.serialize).getD .null) ≤
      4 + ((o.compensation.map WorkflowCompensation.addends).getD []).sum := by
  cases hc : o.compensation with
  | none => decide
  | some c =>
    have hsize := WorkflowCompensation.jsonSize_le (validateCompensation_ok_iff.mp h c hc).2
    simp only [Option.map_some, Option.getD_some]
    omega

theorem jsonSize_lt (h : o.validateSyntax = .ok ()) : jsonSize o.serialize < o.addends.sum := by
  obtain ⟨hstep, htool, hkey, hinput, hcmp⟩ := validateSyntax_ok_iff.mp h
  simp only [isValidWorkflowOperationKey, Bool.and_eq_true] at hkey
  have hnames : ["step_id", "tool", "operation_key", "input_fingerprint", "state",
      "compensation"].map (fun name => String.utf8Len (Json.stringChars name)) =
      [9, 6, 15, 19, 7, 14] := by decide
  simp only [List.map_cons, List.map_nil, List.cons.injEq, and_true] at hnames
  obtain ⟨hname₁, hname₂, hname₃, hname₄, hname₅, hname₆⟩ := hnames
  have hstate := o.state.jsonSize_le
  have hlast := jsonSize_compensation_le hcmp
  rw [serialize, jsonSize_object (by simp)]
  simp only [List.map_cons, List.map_nil, List.sum_cons, List.sum_nil, addends, List.sum_append,
    hname₁, hname₂, hname₃, hname₄, hname₅, hname₆, jsonSize_token hstep, jsonSize_token htool,
    jsonSize_token hkey.1, jsonSize_fingerprint hinput, utf8ByteSize_fingerprint hinput]
  omega

/-- What one operation can add to the estimate at most. -/
theorem sum_addends_le (h : o.validateSyntax = .ok ()) : o.addends.sum ≤ 1408 := by
  obtain ⟨hstep, htool, hkey, hinput, hcmp⟩ := validateSyntax_ok_iff.mp h
  simp only [isValidWorkflowOperationKey, Bool.and_eq_true] at hkey
  have hstepSize := utf8ByteSize_token hstep
  have htoolSize := utf8ByteSize_token htool
  have hkeySize := utf8ByteSize_token hkey.1
  have hinputSize := utf8ByteSize_fingerprint hinput
  have hlast : ((o.compensation.map WorkflowCompensation.addends).getD []).sum ≤ 704 := by
    cases hc : o.compensation with
    | none => simp
    | some c =>
      exact WorkflowCompensation.sum_addends_le
        (validateCompensation_ok_iff.mp hcmp c hc).2
  simp only [addends, List.sum_append, List.sum_cons, List.sum_nil]
  omega

end WorkflowOperation

namespace WorkflowOperationLedger
variable {l : WorkflowOperationLedger}

theorem sum_flatMap_addends_le {operations : List WorkflowOperation}
    (h : ∀ o ∈ operations, o.validateSyntax = .ok ()) :
    (operations.flatMap WorkflowOperation.addends).sum ≤ 1408 * operations.length := by
  induction operations with
  | nil => simp
  | cons o operations ih =>
    have ho := WorkflowOperation.sum_addends_le (h o (by simp))
    have hrest := ih fun o' ho' => h o' (by simp [ho'])
    simp only [List.flatMap_cons, List.sum_append, List.length_cons]
    omega

/-- The estimate of a ledger that passes its check never overflows. -/
theorem Valid.encodedSizeUpperBound_eq (h : l.Valid) : l.encodedSizeUpperBound =
    some (224 + (l.operations.flatMap WorkflowOperation.addends).sum) := by
  have hsum := sum_flatMap_addends_le h.operations
  have hsize : l.operations.length ≤ 64 := h.size
  rw [encodedSizeUpperBound, Usize.foldlM_checkedAdd]
  · rw [List.sum_cons]
    congr 1
    omega
  · rw [List.sum_cons]
    omega

theorem jsonSize_operations_le {operations : List WorkflowOperation}
    (h : ∀ o ∈ operations, o.validateSyntax = .ok ()) :
    ((operations.map WorkflowOperation.serialize).map fun v =>
        String.utf8Len (Json.chars v) + 1).sum ≤
      (operations.flatMap WorkflowOperation.addends).sum := by
  induction operations with
  | nil => simp
  | cons o operations ih =>
    have ho := WorkflowOperation.jsonSize_lt (h o (by simp))
    have hrest := ih fun o' ho' => h o' (by simp [ho'])
    simp only [List.map_cons, List.sum_cons, List.flatMap_cons, List.sum_append]
    unfold jsonSize at ho
    omega

theorem Valid.jsonSize_le (h : l.Valid) : jsonSize l.serialize ≤
    224 + (l.operations.flatMap WorkflowOperation.addends).sum := by
  have hnames : ["format_version", "revision", "plan_fingerprint", "operations"].map
      (fun name => String.utf8Len (Json.stringChars name)) = [16, 10, 18, 12] := by decide
  simp only [List.map_cons, List.map_nil, List.cons.injEq, and_true] at hnames
  obtain ⟨hname₁, hname₂, hname₃, hname₄⟩ := hnames
  have hver : jsonSize (.nat l.formatVersion.toNat) ≤ 3 :=
    Json.utf8Len_nat (by decide) (lt_of_lt_of_le l.formatVersion.toNat_lt (by decide))
  have hrev : jsonSize (.nat l.revision.toNat) ≤ 20 :=
    Json.utf8Len_nat (by decide) (lt_of_lt_of_le l.revision.toNat_lt (by decide))
  have hitems : jsonSize (.array (l.operations.map WorkflowOperation.serialize)) ≤
      (l.operations.flatMap WorkflowOperation.addends).sum + 2 :=
    (Json.utf8Len_array_le _).trans (Nat.add_le_add_right (jsonSize_operations_le h.operations) 2)
  rw [serialize, jsonSize_object (by simp)]
  simp only [List.map_cons, List.map_nil, List.sum_cons, List.sum_nil, hname₁, hname₂, hname₃,
    hname₄, jsonSize_fingerprint h.plan]
  omega

end WorkflowOperationLedger

namespace WorkflowCheckpoint
variable {c : WorkflowCheckpoint}

structure Valid (c : WorkflowCheckpoint) : Prop where
  version : c.formatVersion = workflowCheckpointFormatVersion
  plan : isPlanFingerprint c.planFingerprint = true
  data : ∀ fingerprint, c.dataFingerprint = some fingerprint → isPlanFingerprint fingerprint = true
  contract : ∀ fingerprint, c.dataContractFingerprint = some fingerprint →
    isPlanFingerprint fingerprint = true
  context : c.dataFingerprint = none → c.dataContractFingerprint = none
  size : c.completedStepIds.length ≤ maxWorkflowCheckpointSteps
  steps : ∀ stepId ∈ c.completedStepIds, isValidStepId stepId = true

theorem valid_of_validateSyntax {u : Unit} (h : c.validateSyntax = .ok u) : c.Valid := by
  simp only [validateSyntax, Except.bind_ok_iff, Except.rejectIf_ok_iff, not_not, not_lt,
    Except.checkDistinct_ok_iff, Bool.not_eq_false] at h
  obtain ⟨_, hver, _, hplan, _, hdata, _, hcontract, _, hcontext, _, hsize, hsteps, _⟩ := h
  refine ⟨hver, hplan, ?_, ?_, ?_, hsize, hsteps⟩
  · intro fingerprint hsome
    simpa [hsome] using hdata
  · intro fingerprint hsome
    simpa [hsome] using hcontract
  · intro hnone
    cases hc : c.dataContractFingerprint with
    | none => rfl
    | some fingerprint => simp [hnone, hc] at hcontext

/-- The members of a checkpoint that are always there. -/
theorem Valid.jsonSize_eq (h : c.Valid) : jsonSize c.serialize =
    128 + jsonSize (.array (c.completedStepIds.map .string)) +
      (if c.dataFingerprint = none then 0 else 86) +
      (if c.dataContractFingerprint = none then 0 else 95) := by
  have hnames : ["format_version", "plan_fingerprint", "completed_step_ids", "data_fingerprint",
      "data_contract_fingerprint"].map (fun name => String.utf8Len (Json.stringChars name)) =
      [16, 18, 20, 18, 27] := by decide
  simp only [List.map_cons, List.map_nil, List.cons.injEq, and_true] at hnames
  obtain ⟨hname₁, hname₂, hname₃, hname₄, hname₅⟩ := hnames
  have hver : jsonSize (.nat c.formatVersion.toNat) = 1 := by
    rw [h.version]
    decide
  have hdata : ((optionalMember "data_fingerprint" c.dataFingerprint).map fun f =>
      String.utf8Len (Json.stringChars f.1) + jsonSize f.2 + 2).sum =
      if c.dataFingerprint = none then 0 else 86 := by
    cases hd : c.dataFingerprint with
    | none => simp [optionalMember]
    | some fingerprint =>
      simp [optionalMember, hname₄, jsonSize_fingerprint (h.data fingerprint hd)]
  have hcontract : ((optionalMember "data_contract_fingerprint" c.dataContractFingerprint).map
      fun f => String.utf8Len (Json.stringChars f.1) + jsonSize f.2 + 2).sum =
      if c.dataContractFingerprint = none then 0 else 95 := by
    cases hd : c.dataContractFingerprint with
    | none => simp [optionalMember]
    | some fingerprint =>
      simp [optionalMember, hname₅, jsonSize_fingerprint (h.contract fingerprint hd)]
  rw [serialize, jsonSize_object (by simp)]
  simp only [List.map_append, List.sum_append, List.map_cons, List.map_nil, List.sum_cons,
    List.sum_nil, hdata, hcontract, hname₁, hname₂, hname₃, hver, jsonSize_fingerprint h.plan]
  omega

theorem sum_completed_eq {stepIds : List String}
    (h : ∀ stepId ∈ stepIds, isValidStepId stepId = true) :
    ((stepIds.map Json.Value.string).map fun v => String.utf8Len (Json.chars v) + 1).sum =
      (stepIds.map fun stepId => stepId.utf8ByteSize + 3).sum := by
  induction stepIds with
  | nil => rfl
  | cons stepId stepIds ih =>
    have hid := jsonSize_token (h stepId (by simp))
    have hrest := ih fun other hother => h other (by simp [hother])
    unfold jsonSize at hid
    simp only [List.map_cons, List.sum_cons, hid] at hrest ⊢
    omega

/-- The array of completed steps is always longer than what the estimate counts for it. -/
theorem Valid.jsonSize_completed (h : c.Valid) :
    let counted := (c.completedStepIds.map fun stepId => stepId.utf8ByteSize + 3).sum
    counted < jsonSize (.array (c.completedStepIds.map .string)) ∧
      jsonSize (.array (c.completedStepIds.map .string)) ≤ counted + 2 := by
  intro counted
  have hsum := sum_completed_eq h.steps
  refine ⟨?_, (Json.utf8Len_array_le _).trans (by omega)⟩
  by_cases hnil : c.completedStepIds = []
  · simp only [counted, hnil]
    decide
  · have harray : jsonSize (.array (c.completedStepIds.map .string)) = _ :=
      Json.utf8Len_array (by simpa using hnil)
    omega

theorem Valid.encodedSizeUpperBound_eq (h : c.Valid) : c.encodedSizeUpperBound =
    some (128 + (c.completedStepIds.map fun stepId => stepId.utf8ByteSize + 3).sum +
      (if c.dataFingerprint = none then 0 else 96) +
      (if c.dataContractFingerprint = none then 0 else 104)) := by
  have hdata : (bindingAddend 32 c.dataFingerprint).sum =
      if c.dataFingerprint = none then 0 else 96 := by
    cases hd : c.dataFingerprint with
    | none => simp [bindingAddend]
    | some fingerprint => simp [bindingAddend, utf8ByteSize_fingerprint (h.data fingerprint hd)]
  have hcontract : (bindingAddend 40 c.dataContractFingerprint).sum =
      if c.dataContractFingerprint = none then 0 else 104 := by
    cases hd : c.dataContractFingerprint with
    | none => simp [bindingAddend]
    | some fingerprint =>
      simp [bindingAddend, utf8ByteSize_fingerprint (h.contract fingerprint hd)]
  have hsteps : (c.completedStepIds.map fun stepId => stepId.utf8ByteSize + 3).sum ≤
      131 * c.completedStepIds.length := by
    refine (List.sum_le_card_nsmul _ 131 ?_).trans (by simp [mul_comm])
    intro n hn
    obtain ⟨stepId, hstepId, rfl⟩ := List.mem_map.mp hn
    have hsize := utf8ByteSize_token (h.steps stepId hstepId)
    omega
  have hlen : c.completedStepIds.length ≤ 1024 := h.size
  rw [encodedSizeUpperBound, Usize.foldlM_checkedAdd]
  · simp only [List.sum_append, hdata, hcontract]
    congr 1
    omega
  · simp only [List.sum_append, hdata, hcontract]
    split_ifs <;> omega

/-- The estimate covers the text exactly when the checkpoint is bound to dataflow context. -/
theorem Valid.jsonSize_le_iff (h : c.Valid) {bound : ℕ}
    (hbound : c.encodedSizeUpperBound = some bound) :
    jsonSize c.serialize ≤ bound ↔ c.dataFingerprint ≠ none := by
  obtain ⟨hmore, hless⟩ := h.jsonSize_completed
  have heq := h.encodedSizeUpperBound_eq.symm.trans hbound
  rw [Option.some.injEq] at heq
  rw [h.jsonSize_eq, ← heq]
  by_cases hdata : c.dataFingerprint = none
  · have hcontract := h.context hdata
    simp only [hdata, hcontract, if_true, ne_eq, not_true_eq_false, iff_false, not_le]
    omega
  · simp only [hdata, if_false, ne_eq, not_false_eq_true, iff_true]
    split_ifs <;> omega

end WorkflowCheckpoint

/-- The estimate of a ledger covers the text that is stored. The estimate of a checkpoint
covers it exactly when the checkpoint is bound to dataflow context. -/
theorem encodedSizeUpperBound_covers (l : WorkflowOperationLedger) (c : WorkflowCheckpoint)
    (text : String) :
    (l.toJson = .ok text →
      ∃ bound, l.encodedSizeUpperBound = some bound ∧ text.utf8ByteSize ≤ bound) ∧
    (c.toJson = .ok text → ∃ bound, c.encodedSizeUpperBound = some bound ∧
      (text.utf8ByteSize ≤ bound ↔ c.dataFingerprint ≠ none)) := by
  constructor
  · intro htext
    obtain ⟨hcheck, _, _, rfl⟩ := encodeWithin_ok_iff.mp htext
    have hvalid := WorkflowOperationLedger.validateSyntax_ok_iff.mp hcheck
    refine ⟨_, hvalid.encodedSizeUpperBound_eq, ?_⟩
    rw [utf8ByteSize_text]
    exact hvalid.jsonSize_le
  · intro htext
    obtain ⟨hcheck, ⟨bound, _, hbound⟩, _, rfl⟩ := encodeWithin_ok_iff.mp htext
    refine ⟨bound, hbound, ?_⟩
    rw [utf8ByteSize_text]
    exact (WorkflowCheckpoint.valid_of_validateSyntax hcheck).jsonSize_le_iff hbound

/-- A ledger with one operation and a checkpoint with one completed step and its context. -/
theorem encodedSizeUpperBound_covers_echo :
    ∃ (l : WorkflowOperationLedger) (c : WorkflowCheckpoint) (ledgerText checkpointText : String),
      l.operations.length = 1 ∧ c.completedStepIds.length = 1 ∧
      l.toJson = .ok ledgerText ∧ c.toJson = .ok checkpointText ∧
      (∃ bound, l.encodedSizeUpperBound = some bound ∧ ledgerText.utf8ByteSize ≤ bound) ∧
      ∃ bound, c.encodedSizeUpperBound = some bound ∧ checkpointText.utf8ByteSize ≤ bound := by
  let fingerprint := String.ofList (List.replicate 64 '7')
  let l : WorkflowOperationLedger :=
    ⟨2, 1, fingerprint, [⟨"step", "echo", "op-1", fingerprint, .running, none⟩]⟩
  let c : WorkflowCheckpoint := ⟨1, fingerprint, ["step"], some fingerprint, none⟩
  have hl : l.toJson = .ok (Json.text l.serialize) := by decide +kernel
  have hc : c.toJson = .ok (Json.text c.serialize) := by decide +kernel
  obtain ⟨bound, hbound, hiff⟩ := (encodedSizeUpperBound_covers l c _).2 hc
  exact ⟨l, c, _, _, rfl, rfl, hl, hc, (encodedSizeUpperBound_covers l c _).1 hl, bound, hbound,
    hiff.mpr (by decide)⟩

/-- The text of a checkpoint before the first step is longer than its estimate. -/
theorem encodedSizeUpperBound_too_small :
    ∃ (c : WorkflowCheckpoint) (text : String), c.validateSyntax = .ok () ∧
      c.encodedSizeUpperBound = some 128 ∧ c.toJson = .ok text ∧ text.utf8ByteSize = 130 := by
  let c : WorkflowCheckpoint := ⟨1, String.ofList (List.replicate 64 '7'), [], none, none⟩
  exact ⟨c, Json.text c.serialize, by decide +kernel, by decide +kernel, by decide +kernel,
    by decide +kernel⟩

end Octoscript
