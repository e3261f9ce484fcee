import Octoscript.Protocol.Authorizer

namespace Octoscript
open Wire Mut

/-- The persisted state of one operation or compensation. -/
inductive WorkerOperationState
  | pending
  | running
  | succeeded (payload : ToolPayload)
  | failed (message : String)
  | cancelled
  deriving DecidableEq

namespace WorkerOperationState

def kind : WorkerOperationState → WorkerOperationStateKind
  | .pending => .pending
  | .running => .running
  | .succeeded _ => .succeeded
  | .failed _ => .failed
  | .cancelled => .cancelled

/-- The protocol status of an observed state; `pending` has none. -/
def asStatus : WorkerOperationState → Option OperationStatus
  | .pending => none
  | .running => some .running
  | .succeeded payload => some (.succeeded payload)
  | .failed message => some (.failed message)
  | .cancelled => some .cancelled

def fromStatus : OperationStatus → WorkerOperationState
  | .running => .running
  | .succeeded payload => .succeeded payload
  | .failed message => .failed message
  | .cancelled => .cancelled

@[simp] theorem asStatus_fromStatus (status : OperationStatus) :
    (fromStatus status).asStatus = some status := by
  cases status <;> rfl

def validate : WorkerOperationState → Except ProtocolError Unit
  | .pending | .running | .cancelled => pure ()
  | .succeeded payload => do
    let _ ← payload.validateFor payload.format
  | .failed message => (OperationStatus.failed message).validate

/-- Whether an observation may follow this state. -/
def accepts (self observed : WorkerOperationState) : Bool :=
  match self with
  | .pending | .running => observed != .pending
  | .succeeded _ | .failed _ | .cancelled => self = observed

def IsTerminal : WorkerOperationState → Prop
  | .pending | .running => False
  | .succeeded _ | .failed _ | .cancelled => True

theorem eq_of_accepts {s t : WorkerOperationState} (h : s.accepts t = true) (hs : s.IsTerminal) :
    t = s := by
  cases s <;> simp_all [accepts, IsTerminal]

theorem isTerminal_of_kind {s : WorkerOperationState} (h : s.kind = .succeeded) :
    s.IsTerminal := by
  cases s <;> simp_all [kind, IsTerminal]

def toJson : WorkerOperationState → Json.Value
  | .pending => .object [("state", .string "pending")]
  | .running => .object [("state", .string "running")]
  | .succeeded payload => .object [("state", .string "succeeded"), ("payload", payload.toJson)]
  | .failed message => .object [("state", .string "failed"), ("message", .string message)]
  | .cancelled => .object [("state", .string "cancelled")]

end WorkerOperationState

def validateWorkerOperationStateForGrant (state : WorkerOperationState) (grant : CapabilityGrant) :
    Except ProtocolError Unit := do
  state.validate
  match state.asStatus with
  | some status => validateOperationStatusForGrant status grant
  | none => pure ()

structure WorkerCompensationRecord where
  (compensationKey inputFingerprint grantFingerprint : String)
  state : WorkerOperationState
  deriving DecidableEq

namespace WorkerCompensationRecord

@[simps]
def withState (c : WorkerCompensationRecord) (state : WorkerOperationState) :
    WorkerCompensationRecord := { c with state }

def validate (c : WorkerCompensationRecord) : Except ProtocolError Unit := do
  validateCompensationKey c.compensationKey
  rejectIf (isBlake3Fingerprint c.inputFingerprint = false) .invalidOperationFingerprint
  rejectIf (isBlake3Fingerprint c.grantFingerprint = false) .invalidCompensationGrantFingerprint
  c.state.validate

def toJson (c : WorkerCompensationRecord) : Json.Value :=
  .object [("compensation_key", .string c.compensationKey),
    ("input_fingerprint", .string c.inputFingerprint),
    ("grant_fingerprint", .string c.grantFingerprint), ("state", c.state.toJson)]

end WorkerCompensationRecord

structure WorkerOperationRecord where
  (tool operationKey inputFingerprint : String)
  state : WorkerOperationState
  compensation : Option WorkerCompensationRecord
  deriving DecidableEq

namespace WorkerOperationRecord

@[simps]
def withState (r : WorkerOperationRecord) (state : WorkerOperationState) :
    WorkerOperationRecord := { r with state }

@[simps]
def withCompensation (r : WorkerOperationRecord) (compensation : WorkerCompensationRecord) :
    WorkerOperationRecord := { r with compensation := some compensation }

/-- The check of a compensation and of the operation it belongs to. -/
def validateCompensation (r : WorkerOperationRecord) : Except ProtocolError Unit :=
  match r.compensation with
  | none => pure ()
  | some compensation => do
    rejectIf (r.state.kind ≠ .succeeded)
      (.compensationRequiresSucceededOperation r.operationKey r.state.kind)
    compensation.validate

def validate (r : WorkerOperationRecord) : Except ProtocolError Unit := do
  validateToken "tool" r.tool
  validateToken "operation key" r.operationKey
  rejectIf (isBlake3Fingerprint r.inputFingerprint = false) .invalidOperationFingerprint
  r.state.validate
  r.validateCompensation

def toJson (r : WorkerOperationRecord) : Json.Value :=
  .object [("tool", .string r.tool), ("operation_key", .string r.operationKey),
    ("input_fingerprint", .string r.inputFingerprint), ("state", r.state.toJson),
    ("compensation", (r.compensation.map WorkerCompensationRecord.toJson).getD .null)]

def requireCompensation (r : WorkerOperationRecord) (operationKey : String) :
    Except ProtocolError WorkerCompensationRecord :=
  r.compensation.okOr (.unknownCompensation operationKey)

end WorkerOperationRecord

def ensureOperationIdentity (record : WorkerOperationRecord) (request : OperationDispatchRequest)
    (inputFingerprint : String) : Except ProtocolError Unit :=
  rejectIf (record.tool ≠ request.tool ∨ record.inputFingerprint ≠ inputFingerprint)
    (.operationIdentityMismatch request.operationKey)

def ensureCompensationTarget (operation : WorkerOperationRecord)
    (request : OperationCompensationRequest) : Except ProtocolError Unit :=
  rejectIf (operation.tool ≠ request.tool) (.compensationToolMismatch request.operationKey)

def ensureCompensationIdentity (compensation : WorkerCompensationRecord)
    (request : OperationCompensationRequest) (inputFingerprint : String) :
    Except ProtocolError Unit :=
  rejectIf (compensation.compensationKey ≠ request.compensationKey ∨
      compensation.inputFingerprint ≠ inputFingerprint ∨
      compensation.grantFingerprint ≠ request.grantFingerprint)
    (.compensationIdentityMismatch request.operationKey)

structure WorkerOperationJournal where
  formatVersion : UInt8
  scope : String
  records : List WorkerOperationRecord
  deriving DecidableEq

inductive WorkerOperationAdmission
  | dispatch
  | existing (state : WorkerOperationState)
  deriving DecidableEq

inductive WorkerCompensationAdmission
  | dispatch
  | existing (state : WorkerOperationState)
  deriving DecidableEq

namespace WorkerOperationJournal
variable {j : WorkerOperationJournal} {key : String} {status : OperationStatus}

def new (scope : String) : Except ProtocolError WorkerOperationJournal := do
  validateToken "operation journal scope" scope
  return { formatVersion := workerOperationJournalFormatVersion, scope, records := [] }

def validateScope (self : WorkerOperationJournal) (expectedScope : String) :
    Except ProtocolError Unit := do
  validateToken "operation journal scope" expectedScope
  rejectIf (self.scope ≠ expectedScope) (.operationJournalScopeMismatch expectedScope self.scope)

def operation (self : WorkerOperationJournal) (operationKey : String) :
    Option WorkerOperationRecord :=
  self.records.find? (·.operationKey = operationKey)

def toJson (self : WorkerOperationJournal) : Json.Value :=
  .object [("format_version", .nat self.formatVersion.toNat), ("scope", .string self.scope),
    ("records", .array (self.records.map WorkerOperationRecord.toJson))]

def validateAndBound (self : WorkerOperationJournal) : Except ProtocolError Unit := do
  rejectIf (self.formatVersion ≠ workerOperationJournalFormatVersion)
    (.unsupportedOperationJournalVersion self.formatVersion)
  validateToken "operation journal scope" self.scope
  rejectIf (self.records.length > maxWorkerOperationRecords)
    (.tooManyWorkerOperations maxWorkerOperationRecords)
  Except.checkDistinct WorkerOperationRecord.validate WorkerOperationRecord.operationKey
    .duplicateOperationKey [] self.records
  let encoded := Json.encode self.toJson
  rejectIf (encoded.length > maxWorkerOperationJournalBytes)
    (.operationJournalTooLarge encoded.length maxWorkerOperationJournalBytes)

/-- `to_json`, the text that is persisted. -/
def encode (self : WorkerOperationJournal) : Except ProtocolError String := do
  self.validateAndBound
  return Json.text self.toJson

/-- A method of the journal. -/
abbrev Call (α : Type) := Mut WorkerOperationJournal ProtocolError α

def position (self : WorkerOperationJournal) (operationKey : String) :
    Except ProtocolError (Fin self.records.length) :=
  (self.records.findFinIdx? (·.operationKey = operationKey)).okOr (.unknownOperation operationKey)

/-- The journal with one record replaced. -/
def setRecord (j : WorkerOperationJournal) (i : Fin j.records.length) (r : WorkerOperationRecord) :
    WorkerOperationJournal := { j with records := j.records.set i r }

/-- `*self = candidate`, once the candidate is found valid. -/
def commit (candidate : WorkerOperationJournal) : Call Unit := do
  candidate.validateAndBound
  assign candidate

/-- Records durable intent for an operation, or returns the state of an exact
duplicate. -/
def admitOperation [Blake3] (authorized : AuthorizedOperationInvocation) :
    Call WorkerOperationAdmission := do
  let self ← self
  self.validateAndBound
  let request := authorized.request
  let inputFingerprint ← workerOperationInputFingerprint request.payload
  match self.operation request.operationKey with
  | some record =>
    ensureOperationIdentity record request inputFingerprint
    validateWorkerOperationStateForGrant record.state authorized.grant
    return .existing record.state
  | none =>
    rejectIf (self.records.length ≥ maxWorkerOperationRecords)
      (.tooManyWorkerOperations maxWorkerOperationRecords)
    commit { self with records := self.records ++
      [{ tool := request.tool, operationKey := request.operationKey, inputFingerprint,
         state := .pending, compensation := none }] }
    return .dispatch

/-- The common end of the two observations of an operation: the transition is
checked, and an unchanged state is not written again. -/
def recordState (operationKey : String) (self : WorkerOperationJournal)
    (index : Fin self.records.length) (observed : WorkerOperationState) :
    Call WorkerOperationState := do
  let record := self.records.get index
  rejectIf (record.state.accepts observed = false)
    (.invalidWorkerOperationTransition operationKey record.state.kind observed.kind)
  if record.state = observed then
    return observed
  else
    commit (self.setRecord index (record.withState observed))
    return observed

/-- Records a worker observation of an admitted operation. -/
def observe [Blake3] (authorized : AuthorizedOperationInvocation) (status : OperationStatus) :
    Call WorkerOperationState := do
  let self ← self
  self.validateAndBound
  validateOperationStatusForGrant status authorized.grant
  let request := authorized.request
  let inputFingerprint ← workerOperationInputFingerprint request.payload
  let index ← self.position request.operationKey
  ensureOperationIdentity (self.records.get index) request inputFingerprint
  recordState request.operationKey self index (.fromStatus status)

/-- The check that a reconciliation asks about an operation of this journal. -/
def validateReconciliation (self : WorkerOperationJournal)
    (authorized : AuthorizedOperationReconciliation) : Except ProtocolError Unit := do
  self.validateAndBound
  let request := authorized.request
  let record ← (self.operation request.operationKey).okOr (.unknownOperation request.operationKey)
  rejectIf (record.tool ≠ request.tool) (.operationIdentityMismatch request.operationKey)
  validateWorkerOperationStateForGrant record.state authorized.grant

/-- Records an adapter's reconciliation observation. -/
def observeReconciliation (authorized : AuthorizedOperationReconciliation)
    (status : OperationStatus) : Call WorkerOperationState := do
  let self ← self
  self.validateReconciliation authorized
  validateOperationStatusForGrant status authorized.grant
  let request := authorized.request
  let index ← self.position request.operationKey
  recordState request.operationKey self index (.fromStatus status)

/-- Records a compensating intent for a succeeded operation, or returns the state of
an exact duplicate. -/
def admitCompensation [Blake3] (authorized : AuthorizedOperationCompensation) :
    Call WorkerCompensationAdmission := do
  let self ← self
  self.validateAndBound
  let request := authorized.request
  self.validateScope request.tenantScope
  let inputFingerprint ← workerOperationInputFingerprint request.payload
  let index ← self.position request.operationKey
  let operation := self.records.get index
  ensureCompensationTarget operation request
  rejectIf (operation.state.kind ≠ .succeeded)
    (.compensationRequiresSucceededOperation request.operationKey operation.state.kind)
  match operation.compensation with
  | some compensation =>
    ensureCompensationIdentity compensation request inputFingerprint
    validateWorkerOperationStateForGrant compensation.state authorized.grant
    return .existing compensation.state
  | none =>
    let admitted : WorkerCompensationRecord :=
      { compensationKey := request.compensationKey, inputFingerprint,
        grantFingerprint := request.grantFingerprint, state := .pending }
    commit (self.setRecord index (operation.withCompensation admitted))
    return .dispatch

/-- Records a worker observation of an admitted compensation. -/
def observeCompensation [Blake3] (authorized : AuthorizedOperationCompensation)
    (status : OperationStatus) : Call WorkerOperationState := do
  let self ← self
  self.validateAndBound
  validateOperationStatusForGrant status authorized.grant
  let request := authorized.request
  self.validateScope request.tenantScope
  let inputFingerprint ← workerOperationInputFingerprint request.payload
  let index ← self.position request.operationKey
  let operation := self.records.get index
  ensureCompensationTarget operation request
  let compensation ← operation.requireCompensation request.operationKey
  ensureCompensationIdentity compensation request inputFingerprint
  let observed := WorkerOperationState.fromStatus status
  rejectIf (compensation.state.accepts observed = false)
    (.invalidWorkerCompensationTransition request.operationKey compensation.state.kind
      observed.kind)
  if compensation.state = observed then
    return observed
  else
    commit (self.setRecord index (operation.withCompensation (compensation.withState observed)))
    return observed

/-- The facts that `validate_and_bound` checks. -/
structure Valid (j : WorkerOperationJournal) : Prop where
  version : j.formatVersion = workerOperationJournalFormatVersion
  scope : IsToken j.scope
  size : j.records.length ≤ maxWorkerOperationRecords
  records : ∀ r ∈ j.records, r.validate = .ok ()
  keys : (j.records.map WorkerOperationRecord.operationKey).Nodup
  bytes : (Json.encode j.toJson).length ≤ maxWorkerOperationJournalBytes

theorem validateAndBound_ok_iff {u : Unit} :
    j.validateAndBound = .ok u ↔ j.Valid := by
  simp only [validateAndBound, Except.bind_ok_iff, Except.rejectIf_ok_iff, validateToken_ok_iff,
    Except.checkDistinct_ok_iff, not_not, gt_iff_lt, not_lt]
  constructor
  · rintro ⟨_, hver, _, hscope, _, hsize, _, ⟨hrecs, hkeys, _⟩, hbytes⟩
    exact ⟨hver, hscope, hsize, hrecs, hkeys, hbytes⟩
  · rintro ⟨hver, hscope, hsize, hrecs, hkeys, hbytes⟩
    exact ⟨(), hver, (), hscope, (), hsize, (), ⟨hrecs, hkeys, by simp⟩, hbytes⟩

theorem Valid.operation_eq_some_iff (h : j.Valid) {r : WorkerOperationRecord} :
    j.operation key = some r ↔ r ∈ j.records ∧ r.operationKey = key := by
  constructor
  · intro hr
    exact ⟨List.mem_of_find?_eq_some hr, by simpa using List.find?_some hr⟩
  · rintro ⟨hr, rfl⟩
    obtain ⟨r', hr'⟩ : ∃ r', j.operation r.operationKey = some r' := by
      rw [← Option.isSome_iff_exists, operation, List.find?_isSome]
      exact ⟨r, hr, by simp⟩
    have hkey : r'.operationKey = r.operationKey := by simpa using List.find?_some hr'
    rw [hr', List.inj_on_of_nodup_map h.keys (List.mem_of_find?_eq_some hr') hr hkey]

theorem operation_eq_none_iff :
    j.operation key = none ↔ ∀ r ∈ j.records, r.operationKey ≠ key := by
  simp [operation]

theorem operationKey_of_position {i : Fin j.records.length} (h : j.position key = .ok i) :
    (j.records.get i).operationKey = key := by
  rw [position, Option.okOr_ok_iff, List.findFinIdx?_eq_some_iff] at h
  simpa using h.1

theorem Valid.operation_of_position (hj : j.Valid)
    {i : Fin j.records.length} (h : j.position key = .ok i) :
    j.operation key = some (j.records.get i) :=
  hj.operation_eq_some_iff.mpr ⟨List.get_mem _ _, operationKey_of_position h⟩

variable {j j' : WorkerOperationJournal}

theorem setRecord_self (i : Fin j.records.length) : j.setRecord i (j.records.get i) = j := by
  simp [setRecord]

theorem mem_setRecord (i : Fin j.records.length) (r : WorkerOperationRecord) :
    r ∈ (j.setRecord i r).records :=
  List.mem_set i.isLt r

@[simp] theorem returns_commit {c : WorkerOperationJournal} {u : Unit} :
    (commit c).Returns j u j' ↔ c.Valid ∧ c = j' := by
  simp [commit, validateAndBound_ok_iff]

theorem returns_commit_bind {c : WorkerOperationJournal} {α : Type} {f : Unit → Call α} {a : α} :
    (commit c >>= f).Returns j a j' ↔ c.Valid ∧ (f ()).Returns c a j' := by
  simp [Unique.exists_iff]

theorem returns_admitOperation [Blake3] {a : AuthorizedOperationInvocation}
    {out : WorkerOperationAdmission} (h : (admitOperation a).Returns j out j') :
    j.Valid ∧ j'.Valid ∧ ∃ fingerprint,
      workerOperationInputFingerprint a.request.payload = .ok fingerprint ∧
      ((∃ r, j.operation a.request.operationKey = some r ∧ out = .existing r.state ∧ j' = j) ∨
        (j.operation a.request.operationKey = none ∧ out = .dispatch ∧
          j' = { j with records := j.records ++
            [⟨a.request.tool, a.request.operationKey, fingerprint, .pending, none⟩] })) := by
  simp only [admitOperation, returns_steps, validateAndBound_ok_iff] at h
  obtain ⟨_, hvalid, fingerprint, hprint, h⟩ := h
  refine ⟨hvalid, ?_⟩
  cases hop : j.operation a.request.operationKey with
  | some r =>
    simp only [hop, returns_steps] at h
    obtain ⟨_, _, _, _, rfl, rfl⟩ := h
    exact ⟨hvalid, fingerprint, hprint, .inl ⟨r, rfl, rfl, rfl⟩⟩
  | none =>
    simp only [hop, returns_steps, returns_commit_bind] at h
    obtain ⟨_, hvalid', rfl, rfl⟩ := h
    exact ⟨hvalid', fingerprint, hprint, .inr ⟨rfl, rfl, rfl⟩⟩

theorem returns_recordState (hj : j.Valid) {i : Fin j.records.length}
    {observed out : WorkerOperationState} (h : (recordState key j i observed).Returns j out j') :
    out = observed ∧ (j.records.get i).state.accepts observed = true ∧ j'.Valid ∧
      j' = j.setRecord i ((j.records.get i).withState observed) := by
  simp only [recordState, returns_steps, Bool.not_eq_false] at h
  obtain ⟨hacc, h⟩ := h
  split_ifs at h with hsame
  · obtain ⟨rfl, rfl⟩ := returns_pure.mp h
    refine ⟨rfl, hacc, hj, ?_⟩
    rw [← hsame]
    exact (setRecord_self i).symm
  · obtain ⟨hvalid, rfl, rfl⟩ := returns_commit_bind.mp h
    exact ⟨rfl, hacc, hvalid, rfl⟩

theorem returns_observe [Blake3] {a : AuthorizedOperationInvocation}
    {out : WorkerOperationState} (h : (observe a status).Returns j out j') :
    j.Valid ∧ j'.Valid ∧ ∃ i, j.position a.request.operationKey = .ok i ∧
      (j.records.get i).state.accepts (.fromStatus status) = true ∧
      j' = j.setRecord i ((j.records.get i).withState (.fromStatus status)) := by
  simp only [observe, returns_steps, validateAndBound_ok_iff] at h
  obtain ⟨_, hvalid, _, _, _, _, i, hi, _, _, h⟩ := h
  obtain ⟨_, hacc, hvalid', hj'⟩ := returns_recordState hvalid h
  exact ⟨hvalid, hvalid', i, hi, hacc, hj'⟩

theorem returns_observeReconciliation {a : AuthorizedOperationReconciliation}
    {out : WorkerOperationState} (h : (observeReconciliation a status).Returns j out j') :
    j.Valid ∧ j'.Valid ∧ ∃ i, j.position a.request.operationKey = .ok i ∧
      (j.records.get i).state.accepts (.fromStatus status) = true ∧
      j' = j.setRecord i ((j.records.get i).withState (.fromStatus status)) := by
  simp only [observeReconciliation, returns_steps] at h
  obtain ⟨_, hrec, _, _, i, hi, h⟩ := h
  have hvalid : j.Valid := by
    simp only [validateReconciliation, Except.bind_ok_iff, validateAndBound_ok_iff] at hrec
    exact hrec.choose_spec.1
  obtain ⟨_, hacc, hvalid', hj'⟩ := returns_recordState hvalid h
  exact ⟨hvalid, hvalid', i, hi, hacc, hj'⟩

/-- The identity that a compensation request claims for an operation. -/
def CompensationMatches (c : WorkerCompensationRecord) (request : OperationCompensationRequest)
    (fingerprint : String) : Prop :=
  c.compensationKey = request.compensationKey ∧ c.inputFingerprint = fingerprint ∧
    c.grantFingerprint = request.grantFingerprint

theorem ensureCompensationIdentity_ok_iff {c : WorkerCompensationRecord}
    {request : OperationCompensationRequest} {fingerprint : String} {u : Unit} :
    ensureCompensationIdentity c request fingerprint = .ok u ↔
      CompensationMatches c request fingerprint := by
  simp [ensureCompensationIdentity, CompensationMatches]

theorem returns_admitCompensation [Blake3] {a : AuthorizedOperationCompensation}
    {out : WorkerCompensationAdmission} (h : (admitCompensation a).Returns j out j') :
    j.Valid ∧ j'.Valid ∧ ∃ fingerprint i,
      workerOperationInputFingerprint a.request.payload = .ok fingerprint ∧
      j.position a.request.operationKey = .ok i ∧
      (j.records.get i).state.kind = .succeeded ∧
      ((∃ c, (j.records.get i).compensation = some c ∧
          CompensationMatches c a.request fingerprint ∧ out = .existing c.state ∧ j' = j) ∨
        ((j.records.get i).compensation = none ∧ out = .dispatch ∧
          j' = j.setRecord i ((j.records.get i).withCompensation
            ⟨a.request.compensationKey, fingerprint, a.request.grantFingerprint, .pending⟩))) := by
  simp only [admitCompensation, returns_steps, validateAndBound_ok_iff, not_not] at h
  obtain ⟨_, hvalid, _, _, fingerprint, hprint, i, hi, _, _, hkind, h⟩ := h
  refine ⟨hvalid, ?_⟩
  cases hc : (j.records.get i).compensation with
  | some c =>
    simp only [hc, returns_steps, ensureCompensationIdentity_ok_iff] at h
    obtain ⟨_, hmat, _, _, rfl, rfl⟩ := h
    exact ⟨hvalid, fingerprint, i, hprint, hi, hkind, .inl ⟨c, hc, hmat, rfl, rfl⟩⟩
  | none =>
    simp only [hc, returns_steps, returns_commit_bind] at h
    obtain ⟨hvalid', rfl, rfl⟩ := h
    exact ⟨hvalid', fingerprint, i, hprint, hi, hkind, .inr ⟨hc, rfl, rfl⟩⟩

theorem returns_observeCompensation [Blake3] {a : AuthorizedOperationCompensation}
    {out : WorkerOperationState} (h : (observeCompensation a status).Returns j out j') :
    j.Valid ∧ j'.Valid ∧ ∃ i c, j.position a.request.operationKey = .ok i ∧
      (j.records.get i).compensation = some c ∧
      c.state.accepts (.fromStatus status) = true ∧
      j' = j.setRecord i
        ((j.records.get i).withCompensation (c.withState (.fromStatus status))) := by
  simp only [observeCompensation, returns_steps, validateAndBound_ok_iff,
    WorkerOperationRecord.requireCompensation, Option.okOr_ok_iff, Bool.not_eq_false] at h
  obtain ⟨_, hvalid, _, _, _, _, _, _, i, hi, _, _, c, hc, _, _, hacc, h⟩ := h
  split_ifs at h with hsame
  · obtain ⟨rfl, rfl⟩ := returns_pure.mp h
    refine ⟨hvalid, hvalid, i, c, hi, hc, hacc, ?_⟩
    have hself : (j.records.get i).withCompensation (c.withState c.state) = j.records.get i := by
      rw [WorkerOperationRecord.withCompensation, WorkerCompensationRecord.withState, ← hc]
    rw [← hsame, hself]
    exact (setRecord_self i).symm
  · obtain ⟨hvalid', rfl, rfl⟩ := returns_commit_bind.mp h
    exact ⟨hvalid, hvalid', i, c, hi, hc, hacc, rfl⟩

section
variable [Blake3] {fingerprint : String} {status : OperationStatus}
variable {i : Fin j.records.length}

theorem admitOperation_returns {a : AuthorizedOperationInvocation} (hj : j.Valid)
    (hinput : workerOperationInputFingerprint a.request.payload = .ok fingerprint)
    (hnone : j.operation a.request.operationKey = none)
    (hsize : j.records.length < maxWorkerOperationRecords) (hnew : ({ j with records := j.records ++
      [⟨a.request.tool, a.request.operationKey, fingerprint, .pending, none⟩] } :
        WorkerOperationJournal) = j') (hj' : j'.Valid) :
    (admitOperation a).Returns j .dispatch j' := by
  subst hnew
  simp only [admitOperation, returns_steps, validateAndBound_ok_iff]
  refine ⟨(), hj, _, hinput, ?_⟩
  simp [hnone, hsize, hj']

omit [Blake3] in
theorem recordState_returns {key : String}
    {observed : WorkerOperationState} (hacc : (j.records.get i).state.accepts observed = true)
    (hnew : j.setRecord i ((j.records.get i).withState observed) = j') (hj' : j'.Valid) :
    (recordState key j i observed).Returns j observed j' := by
  subst hnew
  simp only [recordState, returns_steps, Bool.not_eq_false]
  refine ⟨hacc, ?_⟩
  split_ifs with hsame
  · rw [← hsame]
    exact returns_pure.mpr ⟨rfl, (setRecord_self i).symm⟩
  · exact returns_commit_bind.mpr ⟨hj', rfl⟩

theorem observe_returns {a : AuthorizedOperationInvocation} (hj : j.Valid)
    (hgrant : validateOperationStatusForGrant status a.grant = .ok ())
    (hinput : workerOperationInputFingerprint a.request.payload = .ok fingerprint)
    (hi : j.position a.request.operationKey = .ok i)
    (hidentity : ensureOperationIdentity (j.records.get i) a.request fingerprint = .ok ())
    (hacc : (j.records.get i).state.accepts (.fromStatus status) = true)
    (hnew : j.setRecord i ((j.records.get i).withState (.fromStatus status)) = j') (hj' : j'.Valid) :
    (observe a status).Returns j (.fromStatus status) j' := by
  simp only [observe, returns_steps, validateAndBound_ok_iff]
  exact ⟨(), hj, (), hgrant, _, hinput, i, hi, (), hidentity, recordState_returns hacc hnew hj'⟩

theorem admitCompensation_returns {a : AuthorizedOperationCompensation}
    (hj : j.Valid) (hscope : j.validateScope a.request.tenantScope = .ok ())
    (hinput : workerOperationInputFingerprint a.request.payload = .ok fingerprint)
    (hi : j.position a.request.operationKey = .ok i)
    (htar : ensureCompensationTarget (j.records.get i) a.request = .ok ())
    (hkind : (j.records.get i).state.kind = .succeeded)
    (hnone : (j.records.get i).compensation = none)
    (hnew : j.setRecord i ((j.records.get i).withCompensation
      ⟨a.request.compensationKey, fingerprint, a.request.grantFingerprint, .pending⟩) = j')
    (hj' : j'.Valid) : (admitCompensation a).Returns j .dispatch j' := by
  subst hnew
  simp only [admitCompensation, returns_steps, validateAndBound_ok_iff, not_not]
  refine ⟨(), hj, (), hscope, _, hinput, i, hi, (), htar, hkind, ?_⟩
  simp only [hnone]
  exact returns_commit_bind.mpr ⟨hj', rfl⟩

theorem observeCompensation_returns {a : AuthorizedOperationCompensation}
    {c : WorkerCompensationRecord} (hj : j.Valid)
    (hgrant : validateOperationStatusForGrant status a.grant = .ok ())
    (hscope : j.validateScope a.request.tenantScope = .ok ())
    (hinput : workerOperationInputFingerprint a.request.payload = .ok fingerprint)
    (hi : j.position a.request.operationKey = .ok i)
    (htar : ensureCompensationTarget (j.records.get i) a.request = .ok ())
    (hc : (j.records.get i).compensation = some c)
    (hidentity : CompensationMatches c a.request fingerprint)
    (hnew : j.setRecord i ((j.records.get i).withCompensation (c.withState (.fromStatus status))) =
      j') (hacc : c.state.accepts (.fromStatus status) = true)
    (hchanged : c.state ≠ .fromStatus status) (hj' : j'.Valid) :
    (observeCompensation a status).Returns j (.fromStatus status) j' := by
  subst hnew
  simp only [observeCompensation, returns_steps, validateAndBound_ok_iff,
    WorkerOperationRecord.requireCompensation, Option.okOr_ok_iff, Bool.not_eq_false,
    ensureCompensationIdentity_ok_iff]
  refine ⟨(), hj, (), hgrant, (), hscope, _, hinput, i, hi, (), htar, c, hc, (), hidentity,
    hacc, ?_⟩
  rw [if_neg hchanged]
  exact returns_commit_bind.mpr ⟨hj', rfl⟩

end

open Mut

theorem keepsOnError_commit (c : WorkerOperationJournal) : (commit c).KeepsOnError := by
  simp only [keepsOnError_iff, commit, keepsOnError_steps, implies_true]

theorem keepsOnError_admitOperation [Blake3] (a : AuthorizedOperationInvocation) :
    (admitOperation a).KeepsOnError := by
  simp only [keepsOnError_iff, admitOperation, keepsOnError_steps]
  intro j _ _ fingerprint _
  split
  · simp only [keepsOnError_steps, implies_true]
  · simp only [keepsOnError_steps]
    exact fun _ => keepsOnError_commit _ j

theorem keepsOnError_recordState (key : String) (j₀ : WorkerOperationJournal)
    (i : Fin j₀.records.length) (observed : WorkerOperationState) :
    (recordState key j₀ i observed).KeepsOnError := by
  simp only [keepsOnError_iff, recordState, keepsOnError_steps]
  intro j _
  split_ifs
  · simp only [keepsOnError_steps]
  · simp only [keepsOnError_steps]
    exact keepsOnError_commit _ j

theorem keepsOnError_observe [Blake3] (a : AuthorizedOperationInvocation)
    (status : OperationStatus) : (observe a status).KeepsOnError := by
  simp only [keepsOnError_iff, observe, keepsOnError_steps]
  exact fun j _ _ _ _ _ _ i _ _ _ => keepsOnError_recordState _ j i _ j

theorem keepsOnError_observeReconciliation (a : AuthorizedOperationReconciliation)
    (status : OperationStatus) : (observeReconciliation a status).KeepsOnError := by
  simp only [keepsOnError_iff, observeReconciliation, keepsOnError_steps]
  exact fun j _ _ _ _ i _ => keepsOnError_recordState _ j i _ j

theorem keepsOnError_admitCompensation [Blake3] (a : AuthorizedOperationCompensation) :
    (admitCompensation a).KeepsOnError := by
  simp only [keepsOnError_iff, admitCompensation, keepsOnError_steps]
  intro j _ _ _ _ fingerprint _ i _ _ _ _
  split
  · simp only [keepsOnError_steps, implies_true]
  · simp only [keepsOnError_steps]
    exact keepsOnError_commit _ j

theorem keepsOnError_observeCompensation [Blake3] (a : AuthorizedOperationCompensation)
    (status : OperationStatus) : (observeCompensation a status).KeepsOnError := by
  simp only [keepsOnError_iff, observeCompensation, keepsOnError_steps]
  intro j _ _ _ _ _ _ fingerprint _ i _ _ _ c _ _ _ _
  split_ifs
  · simp only [keepsOnError_steps]
  · simp only [keepsOnError_steps]
    exact keepsOnError_commit _ j

end WorkerOperationJournal

end Octoscript
