import Octoscript.Capabilities.PendingTickets
import Octoscript.Workflow.Engine

namespace Octoscript
open Wire Effectful

/-- An operation of a step, bound to an engine, a plan and a queued call. -/
structure PreparedWorkflowExternalOperation where
  (engineId planId : UInt64)
  externalToolId : ExternalToolId
  stepId : String
  completedSteps : ℕ
  operationKey : String
  payload : ToolPayload
  canonicalInput : Bytes
  deriving DecidableEq

structure ClaimedWorkflowExternalOperation where
  (engineId planId : UInt64)
  stepId : String
  completedSteps : ℕ
  operationKey : String
  payload : ToolPayload
  canonicalInput : Bytes
  invocation : ExternalToolInvocation
  deriving DecidableEq

namespace WorkflowEngine
variable [JsonReader] [Blake3]

abbrev Call (α : Type) := Effectful HostOp HostOp.Answer WorkflowEngine WorkflowError α

/-- A method on the engine and on the ledger of a plan. -/
abbrev LedgerCall (α : Type) :=
  Effectful HostOp HostOp.Answer (WorkflowEngine × WorkflowOperationLedger) WorkflowError α

/-- The bytes that stand for a payload in the ledger. -/
def canonicalInputOf (payload : ToolPayload) : Except WorkflowError Bytes :=
  (canonicalOperationInputBytes payload).mapError fun error => .operationLedger (.protocol error)

/-- An operation that the ledger has must be this one; another one is recorded. -/
def ensureOperation (plan : WorkflowPlan) (stepId tool operationKey : String)
    (canonicalInput : Bytes) : LedgerCall Unit := do
  let receivers ← self
  if (receivers.2.operation operationKey).isSome then
    check (receivers.1.validateExternalOperationBinding plan receivers.2 stepId tool
      operationKey canonicalInput)
  else ofMut (recordOperation plan stepId tool operationKey canonicalInput)

def prepareInvocation (plan : WorkflowPlan) (operationNonce : Bytes) (stepIndex : ℕ)
    (stepId : String) (invocation : ExternalToolInvocation) :
    LedgerCall PreparedWorkflowExternalOperation := do
  let receivers ← self
  let payload ← check (invocation.workerPayload.mapError .externalTool)
  let canonicalInput ← check (canonicalInputOf payload)
  let operationKey ← check
    (receivers.1.deriveOperationKey plan stepId invocation.name canonicalInput operationNonce)
  check (receivers.1.validateOperationLedger plan receivers.2)
  ensureOperation plan stepId invocation.name operationKey canonicalInput
  return {
    engineId := receivers.1.engineId
    planId := plan.id
    externalToolId := invocation.id
    stepId
    completedSteps := stepIndex
    operationKey, payload, canonicalInput }

def prepareNextExternalOperation (plan : WorkflowPlan) (operationNonce : Bytes) :
    LedgerCall (Option PreparedWorkflowExternalOperation) := do
  let receivers ← self
  check (rejectIf (receivers.1.ownsPlan plan = false) .planOwnershipMismatch)
  let step ← check (receivers.1.suspendedStepForPlan plan)
  match receivers.1.runtime.host.peekNextExternal with
  | none => return none
  | some entry => do
    let now ← perform HostOp.now
    let prepared ← prepareInvocation plan operationNonce step.1 step.2 (entry.externalInvocation now)
    return some prepared

def claimExternalTool (id : ExternalToolId) : Call ExternalToolInvocation :=
  mapErr .externalTool (zoom (fun self => self.runtime.host)
    (fun self host => { self with runtime := { self.runtime with host } })
    (CapabilityHost.claimExternal id))

/-- What is checked before the operation is taken. -/
def checkPrepared (self : WorkflowEngine) (plan : WorkflowPlan) (ledger : WorkflowOperationLedger)
    (prepared : PreparedWorkflowExternalOperation) : Except WorkflowError Unit := do
  rejectIf (self.ownsPlan plan = false) .planOwnershipMismatch
  rejectIf (prepared.engineId ≠ self.engineId ∨ prepared.planId ≠ plan.id) .approvalMismatch
  let step ← self.suspendedStepForPlan plan
  rejectIf (prepared.stepId ≠ step.2 ∨ prepared.completedSteps ≠ step.1)
    (.operationLedger (.operationBindingMismatch prepared.operationKey))
  let operation ← (ledger.operation prepared.operationKey).okOr
    (.operationLedger (.unknownOperation prepared.operationKey))
  self.validateExternalOperationBinding plan ledger prepared.stepId operation.tool
    prepared.operationKey prepared.canonicalInput

/-- What is checked of the operation that was taken. -/
def checkClaimed (self : WorkflowEngine) (plan : WorkflowPlan) (ledger : WorkflowOperationLedger)
    (prepared : PreparedWorkflowExternalOperation) (invocation : ExternalToolInvocation) :
    Except WorkflowError (ToolPayload × Bytes) := do
  let payload ← invocation.workerPayload.mapError .externalTool
  let canonicalInput ← canonicalInputOf payload
  rejectIf (payload ≠ prepared.payload ∨ canonicalInput ≠ prepared.canonicalInput)
    (.operationLedger (.operationBindingMismatch prepared.operationKey))
  self.validateExternalOperationBinding plan ledger prepared.stepId invocation.name
    prepared.operationKey canonicalInput
  return (payload, canonicalInput)

def claimPreparedExternalOperation (plan : WorkflowPlan) (ledger : WorkflowOperationLedger)
    (prepared : PreparedWorkflowExternalOperation) : Call ClaimedWorkflowExternalOperation := do
  let self ← self
  check (self.checkPrepared plan ledger prepared)
  let invocation ← claimExternalTool prepared.externalToolId
  let self ← Effectful.self
  let checked ← Effectful.check (self.checkClaimed plan ledger prepared invocation)
  return {
    engineId := prepared.engineId
    planId := prepared.planId
    stepId := prepared.stepId
    completedSteps := prepared.completedSteps
    operationKey := prepared.operationKey
    payload := checked.1
    canonicalInput := checked.2
    invocation }

end WorkflowEngine

/-- The payload is the one of the calls with this ticket. -/
structure PreparedWorkflowExternalOperation.Of [JsonReader]
    (prepared : PreparedWorkflowExternalOperation) (ticket : ToolTicket) : Prop where
  payload : ∀ (entry : PendingTool) (now : ℕ), entry.id = prepared.externalToolId →
    entry.ticket = ticket → (entry.externalInvocation now).workerPayload = .ok prepared.payload
  canonicalInput : canonicalOperationInputBytes prepared.payload = .ok prepared.canonicalInput

/-- A worker's payload depends on the identifier and the ticket only. -/
theorem PendingTool.workerPayload_congr [JsonReader] {entry entry' : PendingTool} {now now' : ℕ}
    (hid : entry'.id = entry.id) (hticket : entry'.ticket = entry.ticket) :
    (entry'.externalInvocation now').workerPayload = (entry.externalInvocation now).workerPayload := by
  unfold ExternalToolInvocation.workerPayload
  simp only [externalInvocation, hid, hticket]

theorem CapabilityHost.holds_of_peekNextExternal {k : CapabilityHost} {entry : PendingTool}
    (h : k.peekNextExternal = some entry) : k.Holds entry.id entry.ticket := by
  obtain ⟨⟨handle, entry'⟩, hfind, rfl⟩ := Option.map_eq_some_iff.mp h
  have hmem := List.mem_of_find?_eq_some hfind
  exact ⟨handle, entry', Std.ExtTreeMap.mem_toList_iff_getElem?_eq_some.mp hmem, rfl, rfl⟩

namespace WorkflowEngine
variable [Blake3] {t : List (Said HostOp HostOp.Answer)} {plan : WorkflowPlan}
  {stepId tool operationKey : String} {input : Bytes}
variable {s s' : WorkflowEngine × WorkflowOperationLedger}

theorem recordOperation_returns {u : Unit}
    (h : (recordOperation plan stepId tool operationKey input).Returns s u s') :
    s'.1.runtime = s.1.runtime := by
  simp only [recordOperation, Mut.returns_bind, Mut.returns_self, Mut.returns_lift,
    Mut.returns_rejectIf, Mut.returns_mapErr, Mut.returns_onField, Mut.returns_assign] at h
  obtain ⟨_, _, ⟨rfl, rfl⟩, _, _, ⟨-, rfl⟩, _, _, ⟨-, rfl⟩, _, _, ⟨-, rfl⟩, _, _,
    ⟨ledger, -, rfl⟩, _, _, ⟨rfl, rfl⟩, rfl⟩ := h
  rfl

theorem says_ensureOperation {u : Unit}
    (h : (ensureOperation plan stepId tool operationKey input).Says s t (.ok u) s') :
    s'.1.runtime = s.1.runtime := by
  rw [ensureOperation, says_self_bind] at h
  split_ifs at h
  · obtain ⟨-, -, rfl⟩ := says_check.mp h
    rfl
  · exact recordOperation_returns (says_ofMut.mp h).2

theorem says_prepareInvocation [JsonReader] {operationNonce : Bytes} {stepIndex : ℕ}
    {entry : PendingTool} {now : ℕ} {prepared : PreparedWorkflowExternalOperation}
    (h : (prepareInvocation plan operationNonce stepIndex stepId (entry.externalInvocation now)).Says
      s t (.ok prepared) s') :
    s'.1.runtime = s.1.runtime ∧ prepared.externalToolId = entry.id ∧ prepared.Of entry.ticket := by
  simp only [prepareInvocation, says_self_bind, says_check_bind_ok, Except.mapError_ok_iff,
    canonicalInputOf] at h
  obtain ⟨payload, hpay, canonicalInput, hcanonical, key, -, _, -, h⟩ := h
  obtain ⟨_, _, _, _, -, hensure, h⟩ := says_bind_ok.mp h
  obtain ⟨-, hprepared, rfl⟩ := says_pure.mp h
  cases hprepared
  refine ⟨says_ensureOperation hensure, rfl, ?_, hcanonical⟩
  intro entry' now' hid hticket
  rw [PendingTool.workerPayload_congr hid hticket, hpay]

/-- A prepared operation belongs to a call that is there. -/
theorem says_prepareNextExternalOperation [JsonReader] {operationNonce : Bytes}
    {prepared : PreparedWorkflowExternalOperation}
    (h : (prepareNextExternalOperation plan operationNonce).Says s t (.ok (some prepared)) s') :
    s'.1.runtime = s.1.runtime ∧ ∃ ticket, s.1.runtime.host.Holds prepared.externalToolId ticket ∧
      prepared.Of ticket := by
  simp only [prepareNextExternalOperation, says_self_bind, says_check_bind_ok] at h
  obtain ⟨_, -, step, -, h⟩ := h
  cases hpeek : s.1.runtime.host.peekNextExternal with
  | none =>
    simp only [hpeek] at h
    cases (says_pure.mp h).2.1
  | some entry =>
    simp only [hpeek, says_perform_bind] at h
    obtain ⟨now, _, -, h⟩ := h
    obtain ⟨_, _, _, _, -, hprep, h⟩ := says_bind_ok.mp h
    obtain ⟨-, hprepared, rfl⟩ := says_pure.mp h
    cases hprepared
    obtain ⟨hruntime, hid, hof⟩ := says_prepareInvocation hprep
    exact ⟨hruntime, entry.ticket, hid ▸ CapabilityHost.holds_of_peekNextExternal hpeek, hof⟩

end WorkflowEngine

namespace CapabilityHost

/-- Whether a worker has the call under the handle. -/
def isClaimed (self : CapabilityHost) (handle : ScriptHandle) : Bool :=
  match self.pending[handle]?.map PendingTool.state with
  | some (.pending .externalClaimed _) => true
  | _ => false

/-- The call that a worker can take. -/
def queued (self : CapabilityHost) (id : ExternalToolId) : Option (ScriptHandle × PendingTool) :=
  (self.findPending id).filter fun call => match call.2.state with
    | .pending .externalQueued _ => true
    | _ => false

variable {k k' : CapabilityHost} {id : ExternalToolId} {handle : ScriptHandle} {entry : PendingTool}

theorem mem_of_queued (h : k.queued id = some (handle, entry)) :
    k.pending[handle]? = some entry ∧ entry.id = id :=
  mem_of_findPending (Option.filter_eq_some_iff.mp h).1

theorem isClaimed_of_queued (h : k.queued id = some (handle, entry)) :
    k.isClaimed handle = false := by
  obtain ⟨hentry, -⟩ := mem_of_queued h
  obtain ⟨-, hstate⟩ := Option.filter_eq_some_iff.mp h
  rw [isClaimed, hentry]
  split at hstate <;> simp_all

/-- A call that is not queued is refused and nothing changes; another one is claimed. -/
theorem says_claimExternal {t : List (Said HostOp HostOp.Answer)}
    {r : Except ExternalToolError ExternalToolInvocation} (h : (claimExternal id).Says k t r k') :
    (k' = k ∧ k.queued id = none ∧ ∃ error, r = .error error) ∨
      ∃ (handle : ScriptHandle) (entry : PendingTool) (now : ℕ),
        k.queued id = some (handle, entry) ∧ k'.isClaimed handle = true ∧
        r = .ok (entry.externalInvocation now) := by
  simp only [claimExternal, says_self_bind, says_check_bind] at h
  rcases h with ⟨error, hlook, _, rfl, rfl⟩ | ⟨⟨handle, entry⟩, hlook, h⟩
  · refine .inl ⟨rfl, ?_, error, rfl⟩
    cases hfind : k'.findPending id with
    | none => simp [queued, hfind]
    | some found => simp [lookup, hfind, Option.okOr] at hlook
  have hfind := Option.okOr_ok_iff.mp hlook
  rcases h with ⟨error, hstate, _, rfl, rfl⟩ | ⟨waitingThread, hstate, h⟩
  · refine .inl ⟨rfl, ?_, error, rfl⟩
    rw [queued, hfind]
    split at hstate <;> simp_all
  simp only [says_perform_bind, setPending] at h
  obtain ⟨now, _, -, h⟩ := h
  obtain ⟨_, hset, rfl⟩ := says_bind_pure.mp h
  rw [says_self_bind] at hset
  obtain ⟨-, rfl, rfl⟩ := says_assign.mp hset
  refine .inr ⟨handle, entry, now, ?_, by simp [isClaimed], rfl⟩
  rw [queued, hfind]
  split at hstate <;> simp_all

end CapabilityHost

namespace WorkflowEngine
variable [Blake3] [JsonReader] {t : List (Said HostOp HostOp.Answer)} {plan : WorkflowPlan}
  {engine engine' : WorkflowEngine} {ledger : WorkflowOperationLedger}
  {prepared : PreparedWorkflowExternalOperation} {ticket : ToolTicket} {error : WorkflowError}

omit [JsonReader] in
theorem validateExternalOperationBinding_congr {stepId tool operationKey : String} {input : Bytes}
    (h : engine'.engineId = engine.engineId) :
    engine'.validateExternalOperationBinding plan ledger stepId tool operationKey input =
      engine.validateExternalOperationBinding plan ledger stepId tool operationKey input := by
  have howns : engine'.ownsPlan plan = engine.ownsPlan plan := by simp only [ownsPlan, h]
  simp only [validateExternalOperationBinding, validateOperationLedger, howns]

/-- The second check follows from the first one, if the record names the tool of the call. -/
theorem checkClaimed_of_checkPrepared {u : Unit} {entry : PendingTool} {now : ℕ}
    (hchk : engine.checkPrepared plan ledger prepared = .ok u)
    (hengine : engine'.engineId = engine.engineId) (hof : prepared.Of ticket)
    (hid : entry.id = prepared.externalToolId) (hticket : entry.ticket = ticket)
    (htool : ∀ operation, ledger.operation prepared.operationKey = some operation →
      operation.tool = entry.ticket.name) :
    engine'.checkClaimed plan ledger prepared (entry.externalInvocation now) =
      .ok (prepared.payload, prepared.canonicalInput) := by
  simp only [checkPrepared, Except.bind_ok_iff, Option.okOr_ok_iff] at hchk
  obtain ⟨_, -, _, -, _, -, _, -, operation, hop, hbind⟩ := hchk
  have hbind : engine'.validateExternalOperationBinding plan ledger prepared.stepId
      entry.ticket.name prepared.operationKey prepared.canonicalInput = .ok u := by
    rw [validateExternalOperationBinding_congr hengine, ← htool operation hop]
    exact hbind
  simp only [checkClaimed, canonicalInputOf, Except.bind_ok_iff, Except.mapError_ok_iff,
    Except.rejectIf_ok_iff]
  exact ⟨prepared.payload, hof.payload entry now hid hticket, prepared.canonicalInput,
    hof.canonicalInput, (), by simp, u, hbind, rfl⟩

omit [Blake3] [JsonReader] in
theorem says_claimExternalTool {id : ExternalToolId} {r : Except WorkflowError ExternalToolInvocation}
    (h : (claimExternalTool id).Says engine t r engine') :
    (engine' = engine ∧ engine.runtime.host.queued id = none ∧ ∃ error, r = .error error) ∨
      engine'.engineId = engine.engineId ∧ ∃ (handle : ScriptHandle) (entry : PendingTool) (now : ℕ),
        engine.runtime.host.queued id = some (handle, entry) ∧
        engine'.runtime.host.isClaimed handle = true ∧ r = .ok (entry.externalInvocation now) := by
  obtain ⟨r, hzoom, rfl⟩ := says_mapErr.mp h
  obtain ⟨host, hhost, rfl⟩ := says_zoom.mp hzoom
  rcases CapabilityHost.says_claimExternal hhost with ⟨rfl, hnone, _, rfl⟩ |
    ⟨_, entry, now, hqueued, hclaimed, rfl⟩
  · exact .inl ⟨rfl, hnone, _, rfl⟩
  · exact .inr ⟨rfl, _, entry, now, hqueued, hclaimed, rfl⟩

/-- The first checks pass and the call is queued, but the ledger has the operation for another
tool. -/
structure TakesOther (engine : WorkflowEngine) (plan : WorkflowPlan)
    (ledger : WorkflowOperationLedger) (prepared : PreparedWorkflowExternalOperation) : Prop where
  checked : engine.checkPrepared plan ledger prepared = .ok ()
  other : ∃ handle entry operation,
    engine.runtime.host.queued prepared.externalToolId = some (handle, entry) ∧
    ledger.operation prepared.operationKey = some operation ∧ operation.tool ≠ entry.ticket.name

/-- A claim fails before it takes the call, or once it has taken it. -/
theorem claimPrepared_cases
    (h : (claimPreparedExternalOperation plan ledger prepared).Says engine t (.error error) engine') :
    (engine' = engine ∧ (engine.checkPrepared plan ledger prepared = .ok () →
      engine.runtime.host.queued prepared.externalToolId = none)) ∨
    engine'.engineId = engine.engineId ∧ engine.checkPrepared plan ledger prepared = .ok () ∧
      ∃ (handle : ScriptHandle) (entry : PendingTool) (now : ℕ),
        engine.runtime.host.queued prepared.externalToolId = some (handle, entry) ∧
        engine'.runtime.host.isClaimed handle = true ∧
        ∃ e, engine'.checkClaimed plan ledger prepared (entry.externalInvocation now) = .error e := by
  rw [claimPreparedExternalOperation, says_self_bind, says_check_bind] at h
  rcases h with ⟨_, hchk, _, _, rfl⟩ | ⟨_, hchk, h⟩
  · exact .inl ⟨rfl, fun hok => by simp [hok] at hchk⟩
  rcases says_bind.mp h with ⟨_, hclaim, _⟩ | ⟨invocation, engine₁, _, _, _, hclaim, h⟩
  · rcases says_claimExternalTool hclaim with ⟨rfl, hnone, _⟩ | ⟨_, _, _, _, _, _, hok⟩
    · exact .inl ⟨rfl, fun _ => hnone⟩
    · cases hok
  · rcases says_claimExternalTool hclaim with ⟨_, _, _, hok⟩ |
      ⟨hengine, handle, entry, now, hqueued, hclaimed, hok⟩
    · cases hok
    cases hok
    rw [says_self_bind, says_check_bind] at h
    rcases h with ⟨e, herror, _, _, rfl⟩ | ⟨_, _, h⟩
    · exact .inr ⟨hengine, hchk, handle, entry, now, hqueued, hclaimed, e, herror⟩
    · cases (says_pure.mp h).2.1

open CapabilityRuntime in
/-- Whatever happens to the runtime between the preparation and the claim: a claim that fails
leaves every call claimed or not as it was exactly if it does not come upon a queued call that the
ledger has for another tool, and then it changes nothing at all. -/
theorem failed_claim_iff {sessionId : UInt64} {sessionNonce : Option String}
    {limits : CapabilityCatalogLimits} {promiseType : UInt8} {maxPendingTools : ℕ}
    {h h' : List (Exchange RuntimeCall HostOp HostOp.Answer (Except RuntimeCallError RuntimeReply))}
    {engine₀ engine₁ : WorkflowEngine} {ledger₀ ledger₁ : WorkflowOperationLedger}
    {plan₀ : WorkflowPlan} {operationNonce : Bytes} {t₀ : List (Said HostOp HostOp.Answer)}
    (hstart : Conversation serve
      (new (CapabilityHost.new sessionId sessionNonce limits) promiseType maxPendingTools) h
      engine₀.runtime)
    (hprepare : (prepareNextExternalOperation plan₀ operationNonce).Says (engine₀, ledger₀) t₀
      (.ok (some prepared)) (engine₁, ledger₁))
    (hlater : Conversation serve engine₁.runtime h' engine.runtime)
    (hclaim : (claimPreparedExternalOperation plan ledger prepared).Says engine t (.error error)
      engine') :
    ((∀ handle, engine'.runtime.host.isClaimed handle = engine.runtime.host.isClaimed handle) ↔
      ¬engine.TakesOther plan ledger prepared) ∧
    (¬engine.TakesOther plan ledger prepared → engine' = engine) := by
  obtain ⟨hruntime, ticket, hholds, hof⟩ := says_prepareNextExternalOperation hprepare
  have hbelongs := (distinct_of_conversation hstart).belongs hholds
  have hbelongs' := belongs_of_conversation hlater (hruntime ▸ hbelongs)
  rcases claimPrepared_cases hclaim with ⟨rfl, hnone⟩ |
    ⟨hengine, hchk, handle, entry, now, hqueued, hclaimed, e, herror⟩
  · refine ⟨iff_of_true (fun _ => rfl) ?_, fun _ => rfl⟩
    rintro ⟨hchk, handle, entry, operation, hqueued, -⟩
    rw [hnone hchk] at hqueued
    cases hqueued
  · -- The call was taken; only its tool can have made the second check fail.
    have hother : engine.TakesOther plan ledger prepared := by
      by_contra hsame
      obtain ⟨hentry, hid⟩ := CapabilityHost.mem_of_queued hqueued
      have hticket : entry.ticket = ticket := hbelongs'.only _ ⟨handle, entry, hentry, hid, rfl⟩
      rw [checkClaimed_of_checkPrepared hchk hengine hof hid hticket] at herror
      · cases herror
      · intro operation hop
        by_contra hne
        exact hsame ⟨hchk, handle, entry, operation, hqueued, hop, hne⟩
    refine ⟨iff_of_false (fun hsame => ?_) (not_not.mpr hother), fun hnot => absurd hother hnot⟩
    have hstatus := hsame handle
    rw [hclaimed, CapabilityHost.isClaimed_of_queued hqueued] at hstatus
    cases hstatus

end WorkflowEngine

namespace WorkflowEngine

def mailAnswer : (op : HostOp) → op.Answer
  | .now => 0
  | .authorize .. => .ok ()
  | .handle _ => .ok ""
  | .redact _ chunk => chunk
  | .evaluate => some ⟨1⟩
  | .resume _ => true
  | .note _ => ()

def mailCalls : List RuntimeCall :=
  [.finish true, .script (.start "mail" "hello" none), .eval,
    .register ⟨"mail", 1, 1, 16, 16, none, none, .text⟩ ⟨"", none, none⟩ none none .external]

def mailRuntime : CapabilityRuntime := .new (.new 1 (some "session") ⟨8, 4096⟩) 0 4

section
variable [JsonReader] [Blake3]

def mailPlan : WorkflowPlan := ⟨1, 1, planFingerprint [⟨"send", ""⟩], [⟨"send", ""⟩]⟩

def mailRun := Conversation.play CapabilityRuntime.serve mailAnswer mailRuntime mailCalls

def mailEngine : WorkflowEngine := ⟨1, mailRun.2, .new 16, 2, some ⟨mailPlan, 0⟩⟩

theorem mailEngine_reached :
    Conversation CapabilityRuntime.serve mailRuntime mailRun.1 mailEngine.runtime := by
  simp only [mailEngine, mailRun]
  exact .of_play mailAnswer mailCalls

def mailPreparation :=
  (prepareNextExternalOperation mailPlan [1] (mailEngine, .forPlan mailPlan)).play mailAnswer

theorem says_mailPreparation {r : Except WorkflowError (Option PreparedWorkflowExternalOperation)}
    (h : mailPreparation.2.1 = r) : (prepareNextExternalOperation mailPlan [1]).Says
      (mailEngine, .forPlan mailPlan) mailPreparation.1 r
      (mailPreparation.2.2.1, mailPreparation.2.2.2) := by
  rw [Prod.mk.eta]
  unfold mailPreparation at h ⊢
  exact says_of_play mailAnswer h

def mailPrepared : PreparedWorkflowExternalOperation :=
  let canonicalInput := utf8 "text" ++ component (utf8 "hello")
  ⟨1, 1, ⟨1⟩, "send", 0, derivedWorkflowOperationKey mailPlan.fingerprint "send" "mail"
    canonicalInput [1], .text "hello", canonicalInput⟩

/-- A ledger of the plan that has the same key for another tool. -/
def printLedger : WorkflowOperationLedger :=
  (recordOperation mailPlan "send" "print" mailPrepared.operationKey mailPrepared.canonicalInput
    (mailEngine, .forPlan mailPlan)).2.2

/-- The runtime after a claim without the engine. -/
def mailClaimed := Conversation.play CapabilityRuntime.serve mailAnswer
  mailPreparation.2.2.1.runtime [.claimExternalTool ⟨1⟩]

def claimedEngine : WorkflowEngine := { mailEngine with runtime := mailClaimed.2 }

theorem claimedEngine_reached : Conversation CapabilityRuntime.serve
    mailPreparation.2.2.1.runtime mailClaimed.1 claimedEngine.runtime := by
  simp only [claimedEngine, mailClaimed]
  exact .of_play mailAnswer [RuntimeCall.claimExternalTool ⟨1⟩]

end

/-- The operation is claimed again. -/
theorem failed_claim_of_claimed_mail : ∃ (_ : JsonReader) (_ : Blake3),
    ∃ (engine engine' : WorkflowEngine) (t : List (Said HostOp HostOp.Answer)),
      (claimPreparedExternalOperation mailPlan mailPreparation.2.2.2 mailPrepared).Says engine t
        (.error (.externalTool (.alreadyClaimed ⟨1⟩))) engine' ∧ engine' = engine := by
  let reader : JsonReader := ⟨fun _ => none⟩
  let blake : Blake3 := ⟨fun _ => ⟨List.replicate 32 0, rfl⟩, fun _ _ => ⟨List.replicate 32 0, rfl⟩⟩
  have hprep := says_mailPreparation (r := .ok (some mailPrepared)) (by decide +kernel)
  have hclaim := says_of_play (k := claimedEngine) mailAnswer
    (r := .error (.externalTool (.alreadyClaimed ⟨1⟩)))
    (x := claimPreparedExternalOperation mailPlan mailPreparation.2.2.2 mailPrepared)
    (by decide +kernel)
  refine ⟨reader, blake, _, _, _, hclaim, (failed_claim_iff mailEngine_reached hprep
    claimedEngine_reached hclaim).2 ?_⟩
  rintro ⟨-, handle, entry, operation, hqueued, -⟩
  have hnone : claimedEngine.runtime.host.queued mailPrepared.externalToolId = none := by
    decide +kernel
  rw [hnone] at hqueued
  cases hqueued

/-- The ledger has the key for another tool: the claim fails once the call is taken. -/
theorem failed_claim_of_other_tool : ∃ (_ : JsonReader) (_ : Blake3),
    ∃ (h : List (Exchange RuntimeCall HostOp HostOp.Answer (Except RuntimeCallError RuntimeReply)))
      (t₀ t : List (Said HostOp HostOp.Answer)) (engine engine' : WorkflowEngine)
      (ledger : WorkflowOperationLedger),
      Conversation CapabilityRuntime.serve mailRuntime h mailEngine.runtime ∧
      (prepareNextExternalOperation mailPlan [1]).Says (mailEngine, .forPlan mailPlan) t₀
        (.ok (some mailPrepared)) (engine, ledger) ∧
      printLedger.validateFor mailPlan = .ok () ∧
      (claimPreparedExternalOperation mailPlan printLedger mailPrepared).Says engine t
        (.error (.operationLedger (.operationBindingMismatch mailPrepared.operationKey))) engine' ∧
      ∃ handle, engine.runtime.host.isClaimed handle = false ∧
        engine'.runtime.host.isClaimed handle = true := by
  let reader : JsonReader := ⟨fun _ => none⟩
  let blake : Blake3 := ⟨fun _ => ⟨List.replicate 32 0, rfl⟩, fun _ _ => ⟨List.replicate 32 0, rfl⟩⟩
  have hclaim := says_of_play (k := mailPreparation.2.2.1) mailAnswer
    (r := .error (.operationLedger (.operationBindingMismatch mailPrepared.operationKey)))
    (x := claimPreparedExternalOperation mailPlan printLedger mailPrepared) (by decide +kernel)
  refine ⟨reader, blake, _, _, _, _, _, _, mailEngine_reached, says_mailPreparation ?_, ?_, hclaim,
    ⟨0, 1, 0⟩, ?_, ?_⟩
  · decide +kernel
  · decide +kernel
  · decide +kernel
  · decide +kernel

end WorkflowEngine

end Octoscript
