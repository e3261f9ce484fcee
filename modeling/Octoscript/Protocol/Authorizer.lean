import Octoscript.Lib.Machine
import Octoscript.Protocol.Message

namespace Octoscript

open Mut

structure AuthorizedInvocation where
  invocation : ToolInvocation
  grant : CapabilityGrant
  provenance : ℕ
  deriving DecidableEq

structure AuthorizedWorkerCancellation where
  request : WorkerCancellationRequest
  target : ToolInvocation
  provenance : ℕ
  deriving DecidableEq

structure AuthorizedOperationInvocation where
  request : OperationDispatchRequest
  grant : CapabilityGrant
  provenance : ℕ
  deriving DecidableEq

structure AuthorizedOperationReconciliation where
  request : OperationReconcileRequest
  grant : CapabilityGrant
  provenance : ℕ
  deriving DecidableEq

structure AuthorizedOperationCompensation where
  request : OperationCompensationRequest
  grant : CapabilityGrant
  provenance : ℕ
  deriving DecidableEq

/-- The identity of one compensation effect within a session. -/
structure CompensationRequestIdentity where
  (tool operationKey compensationKey tenantScope grantFingerprint inputFingerprint : String)
  deriving DecidableEq

def CompensationRequestIdentity.fromRequest [Blake3] (request : OperationCompensationRequest) :
    Except ProtocolError CompensationRequestIdentity := do
  let inputFingerprint ← workerOperationInputFingerprint request.payload
  return { tool := request.tool, operationKey := request.operationKey,
           compensationKey := request.compensationKey, tenantScope := request.tenantScope,
           grantFingerprint := request.grantFingerprint, inputFingerprint }

structure SessionAuthorizer where
  provenance : ℕ
  manifest : CapabilityManifest
  (callsByTool compensationsByTool : Std.ExtTreeMap String UInt32)
  compensationIdentities : Finset CompensationRequestIdentity
  (seenRequestIds completedRequestIds cancellationRequestedIds cancelledRequestIds : Finset String)

def validateOperationStatusForGrant (status : OperationStatus) (grant : CapabilityGrant) :
    Except ProtocolError Unit := do
  status.validate
  match status with
  | .succeeded payload =>
    let outputBytes ← payload.validateFor grant.format
    rejectIf (outputBytes > grant.maxOutputBytes.toNat)
      (.outputTooLarge outputBytes grant.maxOutputBytes.toNat)
  | .running | .failed _ | .cancelled => pure ()

namespace SessionAuthorizer

/-- `new`, with the address of the fresh provenance cell. -/
def new (provenance : ℕ) (manifest : CapabilityManifest) :
    Except ProtocolError SessionAuthorizer := do
  manifest.validate
  return { provenance, manifest, callsByTool := ∅, compensationsByTool := ∅,
           compensationIdentities := ∅, seenRequestIds := ∅, completedRequestIds := ∅,
           cancellationRequestedIds := ∅, cancelledRequestIds := ∅ }

def callsFor (self : SessionAuthorizer) (tool : String) : UInt32 := self.callsByTool.getD tool 0

def compensationsFor (self : SessionAuthorizer) (tool : String) : UInt32 :=
  self.compensationsByTool.getD tool 0

@[simps]
def addSeen (self : SessionAuthorizer) (requestId : String) : SessionAuthorizer :=
  { self with seenRequestIds := insert requestId self.seenRequestIds }

@[simps]
def addCall (self : SessionAuthorizer) (tool : String) : SessionAuthorizer :=
  { self with callsByTool := self.callsByTool.insert tool (self.callsFor tool).saturatingSucc }

@[simps]
def addCancellationRequested (self : SessionAuthorizer) (requestId : String) : SessionAuthorizer :=
  { self with cancellationRequestedIds := insert requestId self.cancellationRequestedIds }

@[simps]
def addCompensation (self : SessionAuthorizer) (tool : String)
    (identity : CompensationRequestIdentity) : SessionAuthorizer :=
  { self with
    compensationIdentities := insert identity self.compensationIdentities
    compensationsByTool :=
      self.compensationsByTool.insert tool (self.compensationsFor tool).saturatingSucc }

@[simps]
def addCompleted (self : SessionAuthorizer) (id : String) : SessionAuthorizer :=
  { self with completedRequestIds := insert id self.completedRequestIds }

@[simps]
def addCancelled (self : SessionAuthorizer) (requestId : String) : SessionAuthorizer :=
  { self with cancelledRequestIds := insert requestId self.cancelledRequestIds }

/-- A method of the authorizer. -/
abbrev Call (α : Type) := Mut SessionAuthorizer ProtocolError α

def ensureLocalAuthorization (provenance : ℕ) : Call Unit := do
  let self ← self
  rejectIf (self.provenance ≠ provenance) .authorizationProvenanceMismatch

def reserveRequestId (requestId : String) : Call Unit := do
  let self ← self
  rejectIf (requestId ∈ self.seenRequestIds) (.duplicateRequest requestId)
  rejectIf (self.seenRequestIds.card ≥ maxSessionRequestIds)
    (.sessionRequestLimitExceeded maxSessionRequestIds)
  assign (self.addSeen requestId)

/-- `f` applied to the receiver. -/
def update (f : SessionAuthorizer → SessionAuthorizer) : Call Unit := do
  let self ← self
  assign (f self)

def authorizePayload (sessionId requestId tool : String) (payload : ToolPayload) :
    Call CapabilityGrant := do
  let self ← self
  rejectIf (sessionId ≠ self.manifest.sessionId) (.unknownSession sessionId)
  let grant ← self.manifest.requireGrant tool
  let inputBytes ← payload.validateFor grant.format
  rejectIf (inputBytes > grant.maxInputBytes.toNat)
    (.inputTooLarge inputBytes grant.maxInputBytes.toNat)
  rejectIf (requestId ∈ self.seenRequestIds) (.duplicateRequest requestId)
  rejectIf (self.callsFor grant.tool ≥ grant.maxCalls)
    (.callBudgetExhausted grant.tool grant.maxCalls)
  reserveRequestId requestId
  update (·.addCall grant.tool)
  return grant

def authorize (invocation : ToolInvocation) : Call AuthorizedInvocation := do
  invocation.validateHeader
  let grant ← authorizePayload invocation.sessionId invocation.requestId invocation.tool
    invocation.payload
  let self ← self
  return { invocation, grant, provenance := self.provenance }

def authorizeOperation (request : OperationDispatchRequest) :
    Call AuthorizedOperationInvocation := do
  request.validateHeader
  let grant ← authorizePayload request.sessionId request.requestId request.tool request.payload
  let self ← self
  return { request, grant, provenance := self.provenance }

def authorizeCancellation (request : WorkerCancellationRequest) (target : AuthorizedInvocation) :
    Call AuthorizedWorkerCancellation := do
  ensureLocalAuthorization target.provenance
  request.validate
  let self ← self
  rejectIf (request.sessionId ≠ self.manifest.sessionId) (.unknownSession request.sessionId)
  let invocation := target.invocation
  rejectIf (request.sessionId ≠ invocation.sessionId ∨ request.requestId ≠ invocation.requestId ∨
    request.tool ≠ invocation.tool) .cancellationTargetMismatch
  rejectIf (request.requestId ∈ self.cancelledRequestIds)
    (.requestAlreadyCancelled request.requestId)
  rejectIf (request.requestId ∈ self.cancellationRequestedIds)
    (.cancellationAlreadyRequested request.requestId)
  rejectIf (request.cancellationId ∈ self.seenRequestIds)
    (.duplicateRequest request.cancellationId)
  reserveRequestId request.cancellationId
  update (·.addCancellationRequested request.requestId)
  return { request, target := invocation, provenance := self.provenance }

def authorizeReconciliation (request : OperationReconcileRequest) :
    Call AuthorizedOperationReconciliation := do
  request.validate
  let self ← self
  rejectIf (request.sessionId ≠ self.manifest.sessionId) (.unknownSession request.sessionId)
  let grant ← self.manifest.requireGrant request.tool
  rejectIf (request.requestId ∈ self.seenRequestIds) (.duplicateRequest request.requestId)
  reserveRequestId request.requestId
  return { request, grant, provenance := self.provenance }

def authorizeCompensation [Blake3] (request : OperationCompensationRequest) :
    Call AuthorizedOperationCompensation := do
  request.validateHeader
  let self ← self
  rejectIf (request.sessionId ≠ self.manifest.sessionId) (.unknownSession request.sessionId)
  let grant ← self.manifest.requireGrant request.tool
  rejectIf (grant.maxCompensations = 0) (.compensationNotGranted grant.tool)
  let fingerprint ← grant.compensationFingerprint
  rejectIf (fingerprint ≠ request.grantFingerprint) .compensationGrantMismatch
  let inputBytes ← request.payload.validateFor grant.format
  rejectIf (inputBytes > grant.maxInputBytes.toNat)
    (.inputTooLarge inputBytes grant.maxInputBytes.toNat)
  rejectIf (request.requestId ∈ self.seenRequestIds) (.duplicateRequest request.requestId)
  let identity ← CompensationRequestIdentity.fromRequest request
  let alreadyAuthorized := decide (identity ∈ self.compensationIdentities)
  rejectIf (!alreadyAuthorized ∧ self.compensationsFor grant.tool ≥ grant.maxCompensations)
    (.compensationBudgetExhausted grant.tool grant.maxCompensations)
  reserveRequestId request.requestId
  update fun self => if alreadyAuthorized then self else self.addCompensation grant.tool identity
  return { request, grant, provenance := self.provenance }

def validateResult (authorized : AuthorizedInvocation) (result : ToolResult) : Call Unit := do
  ensureLocalAuthorization authorized.provenance
  result.validateHeader
  let self ← self
  rejectIf (result.sessionId ≠ self.manifest.sessionId) (.unknownSession result.sessionId)
  rejectIf (result.requestId ≠ authorized.invocation.requestId)
    (.requestMismatch authorized.invocation.requestId result.requestId)
  rejectIf (result.requestId ∈ self.cancelledRequestIds)
    (.resultAfterCancellation result.requestId)
  rejectIf (result.requestId ∈ self.completedRequestIds) (.duplicateResult result.requestId)
  let outputBytes ← result.payload.validateFor authorized.grant.format
  rejectIf (outputBytes > authorized.grant.maxOutputBytes.toNat)
    (.outputTooLarge outputBytes authorized.grant.maxOutputBytes.toNat)
  update (·.addCompleted result.requestId)

/-- The check that one outcome makes, and its effect on the cancelled requests. -/
def applyOutcome (requestId : String) : WorkerCancellationOutcome → Call Unit
  | .acknowledged => do
    let self ← self
    rejectIf (requestId ∈ self.completedRequestIds)
      (.cancellationAcknowledgedAfterResult requestId)
    assign (self.addCancelled requestId)
  | .tooLate => do
    let self ← self
    rejectIf (requestId ∉ self.completedRequestIds) (.cancellationTooLateBeforeResult requestId)
  | .unsupported => do
    let self ← self
    rejectIf (requestId ∈ self.completedRequestIds)
      (.cancellationUnsupportedAfterResult requestId)

def validateCancellationResult (authorized : AuthorizedWorkerCancellation)
    (result : WorkerCancellationResult) : Call Unit := do
  ensureLocalAuthorization authorized.provenance
  result.validate
  let self ← self
  rejectIf (result.sessionId ≠ self.manifest.sessionId) (.unknownSession result.sessionId)
  rejectIf (¬result.MatchesRequest authorized.request) .cancellationResultMismatch
  rejectIf (result.cancellationId ∈ self.completedRequestIds)
    (.duplicateResult result.cancellationId)
  applyOutcome result.requestId result.outcome
  update (·.addCompleted result.cancellationId)

/-- The part that the validations of an operation's, a reconciliation's and a
compensation's result share. -/
def validateStatus (provenance : ℕ) (formCheck : Except ProtocolError Unit)
    (sessionId requestId : String) (matchesToken : Prop) [Decidable matchesToken]
    (mismatch : ProtocolError) (status : OperationStatus) (grant : CapabilityGrant) :
    Call Unit := do
  ensureLocalAuthorization provenance
  formCheck
  let self ← self
  rejectIf (sessionId ≠ self.manifest.sessionId) (.unknownSession sessionId)
  rejectIf (¬matchesToken) mismatch
  rejectIf (requestId ∈ self.completedRequestIds) (.duplicateResult requestId)
  validateOperationStatusForGrant status grant
  update (·.addCompleted requestId)

def validateOperationResult (authorized : AuthorizedOperationInvocation)
    (result : OperationReconcileResult) : Call Unit :=
  validateStatus authorized.provenance result.validate result.sessionId result.requestId
    (result.MatchesDispatch authorized.request) .operationResultMismatch result.status
    authorized.grant

def validateReconciliationResult (authorized : AuthorizedOperationReconciliation)
    (result : OperationReconcileResult) : Call Unit :=
  validateStatus authorized.provenance result.validate result.sessionId result.requestId
    (result.MatchesRequest authorized.request) .operationResultMismatch result.status
    authorized.grant

def validateCompensationResult (authorized : AuthorizedOperationCompensation)
    (result : OperationCompensationResult) : Call Unit :=
  validateStatus authorized.provenance result.validate result.sessionId result.requestId
    (result.MatchesRequest authorized.request) .compensationResultMismatch result.status
    authorized.grant

variable {s s' : SessionAuthorizer}

theorem new_ok_iff {p : ℕ} {m : CapabilityManifest} :
    SessionAuthorizer.new p m = .ok s ↔ m.Valid ∧ s = ⟨p, m, ∅, ∅, ∅, ∅, ∅, ∅, ∅⟩ := by
  simp only [SessionAuthorizer.new, Except.bind_ok_iff, CapabilityManifest.validate_ok_iff, pure,
    Except.pure, Except.ok.injEq]
  constructor
  · rintro ⟨_, hm, rfl⟩
    exact ⟨hm, rfl⟩
  · rintro ⟨hm, rfl⟩
    exact ⟨(), hm, rfl⟩

@[simp] theorem returns_update {f : SessionAuthorizer → SessionAuthorizer} {u : Unit} :
    (update f).Returns s u s' ↔ f s = s' := by
  simp [update]

@[simp] theorem fails_update {f : SessionAuthorizer → SessionAuthorizer} {e : ProtocolError} :
    ¬(update f).Fails s e s' := by
  simp [update]

@[simp] theorem returns_ensureLocalAuthorization {p : ℕ} {u : Unit} :
    (ensureLocalAuthorization p).Returns s u s' ↔ s.provenance = p ∧ s = s' := by
  simp [ensureLocalAuthorization, and_comm]

@[simp] theorem returns_reserveRequestId {id : String} {u : Unit} :
    (reserveRequestId id).Returns s u s' ↔
      (id ∉ s.seenRequestIds ∧ s.seenRequestIds.card < maxSessionRequestIds) ∧
        s.addSeen id = s' := by
  simp [reserveRequestId, and_assoc]

/-- The rules for what the authorizer's calls have in common. -/
theorem returns_helpers {α : Type} {f : Unit → Call α} {a : α} :
    (∀ p, (ensureLocalAuthorization p >>= f).Returns s a s' ↔
      s.provenance = p ∧ (f ()).Returns s a s') ∧
    (∀ id, (reserveRequestId id >>= f).Returns s a s' ↔
      (id ∉ s.seenRequestIds ∧ s.seenRequestIds.card < maxSessionRequestIds) ∧
        (f ()).Returns (s.addSeen id) a s') ∧
    ∀ g, (update g >>= f).Returns s a s' ↔ (f ()).Returns (g s) a s' := by
  simp [Unique.exists_iff, and_assoc]

@[simp] theorem callsFor_addSeen (id tool : String) :
    (s.addSeen id).callsFor tool = s.callsFor tool := rfl

theorem returns_authorizePayload {sessionId id tool : String} {payload : ToolPayload}
    {g : CapabilityGrant} :
    (authorizePayload sessionId id tool payload).Returns s g s' ↔
      sessionId = s.manifest.sessionId ∧ s.manifest.grantFor tool = some g ∧
      (∃ n, payload.validateFor g.format = .ok n ∧ n ≤ g.maxInputBytes.toNat) ∧
      s.callsFor g.tool < g.maxCalls ∧
      id ∉ s.seenRequestIds ∧ s.seenRequestIds.card < maxSessionRequestIds ∧
      (s.addSeen id).addCall g.tool = s' := by
  simp only [authorizePayload, returns_steps, returns_helpers,
    CapabilityManifest.requireGrant_ok_iff]
  constructor
  · rintro ⟨hsess, _, hgrant, n, hpay, hsize, _, hcalls, ⟨hfresh, hroom⟩, rfl, rfl⟩
    exact ⟨not_not.mp hsess, hgrant, ⟨n, hpay, not_lt.mp hsize⟩, UInt32.not_le.mp hcalls,
      hfresh, hroom, rfl⟩
  · rintro ⟨hsess, hgrant, ⟨n, hpay, hsize⟩, hcalls, hfresh, hroom, rfl⟩
    simp [hsess, hgrant, hpay, hsize, hcalls, hfresh, hroom]

theorem returns_authorize {invocation : ToolInvocation} {t : AuthorizedInvocation} :
    (authorize invocation).Returns s t s' ↔
      invocation.validateHeader = .ok () ∧
      (authorizePayload invocation.sessionId invocation.requestId invocation.tool
        invocation.payload).Returns s t.grant s' ∧
      t = ⟨invocation, t.grant, s'.provenance⟩ := by
  obtain ⟨i, g, p⟩ := t
  simp only [authorize, returns_bind, returns_lift, returns_self, returns_pure,
    AuthorizedInvocation.mk.injEq]
  constructor
  · rintro ⟨_, _, ⟨hheader, rfl⟩, _, _, hpay, _, _, ⟨rfl, rfl⟩, ⟨rfl, rfl, rfl⟩, rfl⟩
    exact ⟨hheader, hpay, rfl, trivial, rfl⟩
  · rintro ⟨hheader, hpay, rfl, _, rfl⟩
    exact ⟨_, _, ⟨hheader, rfl⟩, _, _, hpay, _, _, ⟨rfl, rfl⟩, ⟨rfl, rfl, rfl⟩, rfl⟩

theorem returns_authorizeOperation {request : OperationDispatchRequest}
    {t : AuthorizedOperationInvocation} :
    (authorizeOperation request).Returns s t s' ↔
      request.validateHeader = .ok () ∧
      (authorizePayload request.sessionId request.requestId request.tool
        request.payload).Returns s t.grant s' ∧
      t = ⟨request, t.grant, s'.provenance⟩ := by
  obtain ⟨r, g, p⟩ := t
  simp only [authorizeOperation, returns_bind, returns_lift, returns_self,
    returns_pure, AuthorizedOperationInvocation.mk.injEq]
  constructor
  · rintro ⟨_, _, ⟨hheader, rfl⟩, _, _, hpay, _, _, ⟨rfl, rfl⟩, ⟨rfl, rfl, rfl⟩, rfl⟩
    exact ⟨hheader, hpay, rfl, trivial, rfl⟩
  · rintro ⟨hheader, hpay, rfl, _, rfl⟩
    exact ⟨_, _, ⟨hheader, rfl⟩, _, _, hpay, _, _, ⟨rfl, rfl⟩, ⟨rfl, rfl, rfl⟩, rfl⟩

theorem returns_authorizeReconciliation {request : OperationReconcileRequest}
    {t : AuthorizedOperationReconciliation} :
    (authorizeReconciliation request).Returns s t s' ↔
      request.validate = .ok () ∧ request.sessionId = s.manifest.sessionId ∧
      s.manifest.grantFor request.tool = some t.grant ∧
      request.requestId ∉ s.seenRequestIds ∧ s.seenRequestIds.card < maxSessionRequestIds ∧
      s.addSeen request.requestId = s' ∧ t = ⟨request, t.grant, s.provenance⟩ := by
  obtain ⟨r, g, p⟩ := t
  simp only [authorizeReconciliation, returns_steps, returns_helpers,
    CapabilityManifest.requireGrant_ok_iff, AuthorizedOperationReconciliation.mk.injEq]
  constructor
  · rintro ⟨_, hform, hsess, _, hgrant, _, ⟨hfresh, hroom⟩, ⟨rfl, rfl, rfl⟩, rfl⟩
    exact ⟨hform, not_not.mp hsess, hgrant, hfresh, hroom, rfl, rfl, trivial, rfl⟩
  · rintro ⟨hform, hsess, hgrant, hfresh, hroom, rfl, rfl, _, rfl⟩
    exact ⟨(), hform, not_not.mpr hsess, _, hgrant, hfresh, ⟨hfresh, hroom⟩, ⟨rfl, rfl, rfl⟩, rfl⟩

theorem returns_authorizeCancellation {request : WorkerCancellationRequest}
    {target : AuthorizedInvocation} {t : AuthorizedWorkerCancellation}
    (h : (authorizeCancellation request target).Returns s t s') :
    s.provenance = target.provenance ∧ request.requestId = target.invocation.requestId ∧
      request.requestId ∉ s.cancelledRequestIds ∧
      request.requestId ∉ s.cancellationRequestedIds ∧
      request.cancellationId ∉ s.seenRequestIds ∧
      s' = (s.addSeen request.cancellationId).addCancellationRequested request.requestId ∧
      t = ⟨request, target.invocation, s.provenance⟩ := by
  simp only [authorizeCancellation, returns_steps, returns_helpers, not_or, not_not] at h
  obtain ⟨hlocal, _, _, _, ⟨_, hreq, _⟩, hcancelled, hrequested, _, ⟨hfresh, _⟩, rfl, rfl⟩ := h
  exact ⟨hlocal, hreq, hcancelled, hrequested, hfresh, rfl, rfl⟩

theorem returns_authorizeCompensation [Blake3] {request : OperationCompensationRequest}
    {t : AuthorizedOperationCompensation} (h : (authorizeCompensation request).Returns s t s') :
    request.requestId ∉ s.seenRequestIds ∧ t = ⟨request, t.grant, s.provenance⟩ ∧
      s.manifest.grantFor request.tool = some t.grant ∧
      ∃ identity, CompensationRequestIdentity.fromRequest request = .ok identity ∧
        ((identity ∈ s.compensationIdentities ∧ s' = s.addSeen request.requestId) ∨
          (identity ∉ s.compensationIdentities ∧
            s.compensationsFor t.grant.tool < t.grant.maxCompensations ∧
            s' = (s.addSeen request.requestId).addCompensation t.grant.tool identity)) := by
  simp only [authorizeCompensation, returns_steps, returns_helpers,
    CapabilityManifest.requireGrant_ok_iff] at h
  obtain ⟨_, _, _, g, hgrant, _, _, _, _, _, _, _, _, identity, hidentity, hroom, ⟨hfresh, _⟩, rfl,
    rfl⟩ := h
  refine ⟨hfresh, rfl, hgrant, identity, hidentity, ?_⟩
  by_cases hknown : identity ∈ s.compensationIdentities
  · left
    exact ⟨hknown, by rw [if_pos (by simpa using hknown)]⟩
  · right
    have hbudget : s.compensationsFor g.tool < g.maxCompensations := by
      simpa [hknown] using hroom
    exact ⟨hknown, hbudget, by rw [if_neg (by simpa using hknown)]⟩

theorem returns_validateResult {authorized : AuthorizedInvocation} {result : ToolResult} {u : Unit}
    (h : (validateResult authorized result).Returns s u s') :
    s.provenance = authorized.provenance ∧
      result.requestId = authorized.invocation.requestId ∧
      result.requestId ∉ s.cancelledRequestIds ∧ result.requestId ∉ s.completedRequestIds ∧
      s' = s.addCompleted result.requestId := by
  simp only [validateResult, returns_steps, returns_helpers, returns_update] at h
  obtain ⟨hlocal, _, _, _, hreq, hcancelled, hcompleted, _, _, _, rfl⟩ := h
  exact ⟨hlocal, not_not.mp hreq, hcancelled, hcompleted, rfl⟩

theorem returns_validateCancellationResult {authorized : AuthorizedWorkerCancellation}
    {result : WorkerCancellationResult} {u : Unit}
    (h : (validateCancellationResult authorized result).Returns s u s') :
    s.provenance = authorized.provenance ∧ result.MatchesRequest authorized.request ∧
      result.cancellationId ∉ s.completedRequestIds ∧
      (result.outcome = .tooLate ↔ result.requestId ∈ s.completedRequestIds) ∧
      s' = (if result.outcome = .acknowledged then s.addCancelled result.requestId
        else s).addCompleted result.cancellationId := by
  simp only [validateCancellationResult, returns_steps, returns_helpers, not_not] at h
  obtain ⟨hlocal, _, _, _, hmat, hcompleted, h⟩ := h
  obtain ⟨_, _, hout, hupdate⟩ := returns_bind.mp h
  obtain rfl := returns_update.mp hupdate
  refine ⟨hlocal, hmat, hcompleted, ?_⟩
  cases ho : result.outcome with
  | acknowledged =>
    simp only [ho, applyOutcome, returns_steps] at hout
    obtain ⟨hopen, rfl⟩ := hout
    simp [hopen]
  | tooLate =>
    simp only [ho, applyOutcome, returns_steps, not_not] at hout
    obtain ⟨hdone, rfl⟩ := hout
    simp [hdone]
  | unsupported =>
    simp only [ho, applyOutcome, returns_steps] at hout
    obtain ⟨hopen, rfl⟩ := hout
    simp [hopen]

theorem returns_validateStatus {provenance : ℕ} {formCheck : Except ProtocolError Unit}
    {sessionId requestId : String} {matchesToken : Prop} [Decidable matchesToken]
    {mismatch : ProtocolError} {status : OperationStatus} {grant : CapabilityGrant} {u : Unit}
    (h : (validateStatus provenance formCheck sessionId requestId matchesToken mismatch status
      grant).Returns s u s') :
    s.provenance = provenance ∧ matchesToken ∧ requestId ∉ s.completedRequestIds ∧
      s' = s.addCompleted requestId := by
  simp only [validateStatus, returns_steps, returns_helpers, returns_update, not_not] at h
  obtain ⟨hlocal, _, _, _, hmat, hcompleted, _, _, rfl⟩ := h
  exact ⟨hlocal, hmat, hcompleted, rfl⟩

theorem keepsOnError_reserveRequestId (id : String) : (reserveRequestId id).KeepsOnError := by
  intro s e s' h
  simp [reserveRequestId] at h
  grind

theorem keepsOnError_authorizePayload (sessionId id tool : String) (payload : ToolPayload) :
    (authorizePayload sessionId id tool payload).KeepsOnError := by
  intro s e s' h
  have hreserve := keepsOnError_reserveRequestId id s e s'
  simp [authorizePayload] at h
  grind

theorem keepsOnError_authorize (invocation : ToolInvocation) :
    (authorize invocation).KeepsOnError := by
  intro s e s' h
  have hpay := keepsOnError_authorizePayload invocation.sessionId invocation.requestId
    invocation.tool invocation.payload s e s'
  simp [authorize] at h
  grind

theorem keepsOnError_authorizeOperation (request : OperationDispatchRequest) :
    (authorizeOperation request).KeepsOnError := by
  intro s e s' h
  have hpay := keepsOnError_authorizePayload request.sessionId request.requestId
    request.tool request.payload s e s'
  simp [authorizeOperation] at h
  grind

theorem keepsOnError_authorizeCancellation (request : WorkerCancellationRequest)
    (target : AuthorizedInvocation) : (authorizeCancellation request target).KeepsOnError := by
  intro s e s' h
  have hreserve := keepsOnError_reserveRequestId request.cancellationId s e s'
  simp [authorizeCancellation, ensureLocalAuthorization] at h
  grind

theorem keepsOnError_authorizeReconciliation (request : OperationReconcileRequest) :
    (authorizeReconciliation request).KeepsOnError := by
  intro s e s' h
  have hreserve := keepsOnError_reserveRequestId request.requestId s e s'
  simp [authorizeReconciliation] at h
  grind

theorem keepsOnError_authorizeCompensation [Blake3] (request : OperationCompensationRequest) :
    (authorizeCompensation request).KeepsOnError := by
  intro s e s' h
  have hreserve := keepsOnError_reserveRequestId request.requestId s e s'
  simp [authorizeCompensation] at h
  grind

theorem keepsOnError_validateResult (authorized : AuthorizedInvocation) (result : ToolResult) :
    (validateResult authorized result).KeepsOnError := by
  intro s e s' h
  simp [validateResult, ensureLocalAuthorization] at h
  grind

theorem keepsOnError_validateCancellationResult (authorized : AuthorizedWorkerCancellation)
    (result : WorkerCancellationResult) :
    (validateCancellationResult authorized result).KeepsOnError := by
  intro s e s' h
  cases ho : result.outcome <;>
    simp [validateCancellationResult, ensureLocalAuthorization, applyOutcome, ho] at h <;> grind

theorem keepsOnError_validateStatus (provenance : ℕ) (formCheck : Except ProtocolError Unit)
    (sessionId requestId : String) (matchesToken : Prop) [Decidable matchesToken]
    (mismatch : ProtocolError) (status : OperationStatus) (grant : CapabilityGrant) :
    (validateStatus provenance formCheck sessionId requestId matchesToken mismatch status
      grant).KeepsOnError := by
  intro s e s' h
  simp [validateStatus, ensureLocalAuthorization] at h
  grind

end SessionAuthorizer

end Octoscript
