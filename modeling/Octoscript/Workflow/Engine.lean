import Octoscript.Capabilities.Runtime
import Octoscript.Workflow.DerivedKeys
import Octoscript.Workflow.Event
import Octoscript.Workflow.EventLog
import Octoscript.Workflow.Ledger

namespace Octoscript
open Wire

def maxWorkflowOperationNonceBytes : ℕ := 128

inductive WorkflowError
  | emptyPlan
  | tooManySteps (maximum : ℕ)
  | planSourceTooLarge (actual maximum : ℕ)
  | invalidStepId (id : String)
  | duplicateStepId (id : String)
  | planOwnershipMismatch
  | approvalMismatch
  | noSuspendedExecution
  | externalTool (error : ExternalToolError)
  | operationLedger (error : WorkflowOperationLedgerError)
  deriving DecidableEq

/-- A step that waits for an external operation. -/
structure SuspendedWorkflowExecution where
  plan : WorkflowPlan
  stepIndex : ℕ
  deriving DecidableEq

structure WorkflowEngine where
  engineId : UInt64
  runtime : CapabilityRuntime
  log : EventLog WorkflowEvent
  nextPlanId : UInt64
  suspendedExecution : Option SuspendedWorkflowExecution

def validateSteps (steps : List WorkflowStep) : Except WorkflowError Unit := do
  rejectIf (steps = []) .emptyPlan
  rejectIf (steps.length > maxWorkflowSteps) (.tooManySteps maxWorkflowSteps)
  let sourceBytes := steps.foldl
    (fun total step => Usize.saturatingAdd total step.source.utf8ByteSize) 0
  rejectIf (sourceBytes > maxWorkflowPlanSourceBytes)
    (.planSourceTooLarge sourceBytes maxWorkflowPlanSourceBytes)
  Except.checkDistinct
    (fun step => rejectIf (isValidStepId step.id = false) (.invalidStepId step.id))
    WorkflowStep.id .duplicateStepId [] steps

theorem valid_of_validateSteps {steps : List WorkflowStep} {u : Unit}
    (h : validateSteps steps = .ok u) : steps.length ≤ maxWorkflowSteps ∧
      (∀ step ∈ steps, isValidStepId step.id = true) ∧ (steps.map WorkflowStep.id).Nodup := by
  simp only [validateSteps, Except.bind_ok_iff, Except.rejectIf_ok_iff, Except.checkDistinct_ok_iff,
    not_lt, Bool.not_eq_false] at h
  obtain ⟨_, -, _, hlen, _, -, hids, hnodup, -⟩ := h
  exact ⟨hlen, hids, hnodup⟩

namespace WorkflowEngine

def recordEvent (self : WorkflowEngine) (event : WorkflowEvent) : WorkflowEngine :=
  { self with log := self.log.recordEvent event }

def plan [Blake3] (steps : List WorkflowStep) : Mut WorkflowEngine WorkflowError WorkflowPlan := do
  validateSteps steps
  let self ← Mut.self
  let plan : WorkflowPlan := ⟨self.engineId, self.nextPlanId, planFingerprint steps, steps⟩
  Mut.assign ({ self with nextPlanId := self.nextPlanId.saturatingSucc }.recordEvent
    (.planned plan.id plan.steps.length))
  return plan

def ownsPlan (self : WorkflowEngine) (plan : WorkflowPlan) : Bool := plan.engineId = self.engineId

/-- The step that waits, with its index. -/
def suspendedStepForPlan (self : WorkflowEngine) (plan : WorkflowPlan) :
    Except WorkflowError (ℕ × String) := do
  let execution ← self.suspendedExecution.okOr .noSuspendedExecution
  rejectIf (execution.plan.id ≠ plan.id ∨ execution.plan.fingerprint ≠ plan.fingerprint)
    .approvalMismatch
  let step ← plan.steps[execution.stepIndex]?.okOr .approvalMismatch
  return (execution.stepIndex, step.id)

def validateOperationLedger (self : WorkflowEngine) (plan : WorkflowPlan)
    (ledger : WorkflowOperationLedger) : Except WorkflowError Unit := do
  rejectIf (self.ownsPlan plan = false) .planOwnershipMismatch
  (ledger.validateFor plan).mapError .operationLedger

variable [Blake3]

def validateExternalOperationBinding (self : WorkflowEngine) (plan : WorkflowPlan)
    (ledger : WorkflowOperationLedger) (stepId tool operationKey : String)
    (canonicalInput : Bytes) : Except WorkflowError Unit := do
  self.validateOperationLedger plan ledger
  let operation ← (ledger.operation operationKey).okOr
    (.operationLedger (.unknownOperation operationKey))
  rejectIf (operation.stepId ≠ stepId ∨ operation.tool ≠ tool)
    (.operationLedger (.operationBindingMismatch operationKey))
  rejectIf (operation.state.isTerminal = true)
    (.operationLedger (.operationAlreadyTerminal operation.operationKey operation.state))
  (operation.verifyInput canonicalInput).mapError .operationLedger

def deriveOperationKey (self : WorkflowEngine) (plan : WorkflowPlan) (stepId tool : String)
    (input operationNonce : Bytes) : Except WorkflowError String := do
  rejectIf (self.ownsPlan plan = false) .planOwnershipMismatch
  rejectIf (¬∃ step ∈ plan.steps, step.id = stepId) (.operationLedger (.unknownStep stepId))
  rejectIf (isValidOperationToken tool = false) (.operationLedger (.invalidTool tool))
  rejectIf (input.length > maxWorkflowOperationInputBytes)
    (.operationLedger (.inputTooLarge input.length maxWorkflowOperationInputBytes))
  rejectIf (operationNonce = []) (.operationLedger .emptyOperationNonce)
  rejectIf (operationNonce.length > maxWorkflowOperationNonceBytes)
    (.operationLedger
      (.operationNonceTooLarge operationNonce.length maxWorkflowOperationNonceBytes))
  return derivedWorkflowOperationKey plan.fingerprint stepId tool input operationNonce

/-- Records intent in the ledger of the plan, and the event in the log. -/
def recordOperation (plan : WorkflowPlan) (stepId tool operationKey : String) (input : Bytes) :
    Mut (WorkflowEngine × WorkflowOperationLedger) WorkflowError Unit := do
  let receivers ← Mut.self
  rejectIf (receivers.1.ownsPlan plan = false) .planOwnershipMismatch
  (receivers.2.validateFor plan).mapError WorkflowError.operationLedger
  rejectIf (¬∃ step ∈ plan.steps, step.id = stepId) (.operationLedger (.unknownStep stepId))
  Mut.mapErr .operationLedger ((WorkflowOperationLedger.record stepId tool operationKey input).onField
    Prod.snd fun receivers ledger => (receivers.1, ledger))
  let receivers ← Mut.self
  Mut.assign (receivers.1.recordEvent (.operationRecorded plan.id stepId tool), receivers.2)

end WorkflowEngine

/-- The plans that engines make. -/
def WorkflowPlan.Planned [Blake3] (plan : WorkflowPlan) : Prop :=
  ∃ steps engine engine', (WorkflowEngine.plan steps).Returns engine plan engine'

theorem WorkflowPlan.planned_of_validateSteps [Blake3] {steps : List WorkflowStep}
    (h : validateSteps steps = .ok ()) (engine : WorkflowEngine) :
    Planned ⟨engine.engineId, engine.nextPlanId, planFingerprint steps, steps⟩ := by
  refine ⟨steps, engine, { engine with nextPlanId := engine.nextPlanId.saturatingSucc }.recordEvent
    (.planned engine.nextPlanId steps.length), ?_⟩
  simp only [WorkflowEngine.plan, Mut.returns_bind, Mut.returns_self, Mut.returns_lift,
    Mut.returns_assign, Mut.returns_pure]
  exact ⟨(), engine, ⟨h, rfl⟩, engine, engine, ⟨rfl, rfl⟩, (), _, rfl, rfl, rfl⟩

/-- A plan carries the fingerprint of its steps, which passed their check. -/
theorem WorkflowPlan.Planned.spec [Blake3] {plan : WorkflowPlan} (h : plan.Planned) :
    plan.fingerprint = planFingerprint plan.steps ∧ plan.steps.length ≤ maxWorkflowSteps ∧
      (∀ step ∈ plan.steps, isValidStepId step.id = true) ∧
      (plan.steps.map WorkflowStep.id).Nodup := by
  obtain ⟨steps, engine, engine', h⟩ := h
  simp only [WorkflowEngine.plan, Mut.returns_bind, Mut.returns_self, Mut.returns_lift,
    Mut.returns_assign, Mut.returns_pure] at h
  obtain ⟨_, _, ⟨hsteps, rfl⟩, _, _, ⟨rfl, rfl⟩, _, _, _, rfl, -⟩ := h
  exact ⟨rfl, valid_of_validateSteps hsteps⟩

theorem EventLog.mem_recordEvent {Event : Type} {log : EventLog Event} {event event' : Event}
    (h : event' ∈ (log.recordEvent event).events) : event' ∈ log.events ∨ event' = event := by
  unfold recordEvent evict at h
  split_ifs at h
  · exact .inl h
  · exact (List.mem_append.mp h).imp List.mem_of_mem_tail List.mem_singleton.mp
  · exact (List.mem_append.mp h).imp_right List.mem_singleton.mp

namespace WorkflowEngine
variable [Blake3]

/-- Calls of an engine, with the plans it has made. A call that fails records nothing. -/
inductive Step : WorkflowEngine × List WorkflowPlan → WorkflowEngine × List WorkflowPlan → Prop
  | plan {e e' plans p steps} (h : (plan steps).Returns e p e') : Step (e, plans) (e', p :: plans)
  | recordOperation {e e' plans p stepId tool key input l l'} (hp : p ∈ plans)
      (h : (recordOperation p stepId tool key input).Returns (e, l) () (e', l')) :
      Step (e, plans) (e', plans)

structure Replayable (s : WorkflowEngine × List WorkflowPlan) : Prop where
  next : s.1.nextPlanId ≠ 0
  plans : ∀ p ∈ s.2, p.id ≠ 0
  events : ∀ event ∈ s.1.log.events, event.validateForDurableReplay = .ok ()

theorem Replayable.step {s s' : WorkflowEngine × List WorkflowPlan} (hs : Replayable s)
    (h : Step s s') : Replayable s' := by
  cases h with
  | plan h =>
    simp only [WorkflowEngine.plan, Mut.returns_bind, Mut.returns_self, Mut.returns_lift,
      Mut.returns_assign, Mut.returns_pure] at h
    obtain ⟨_, _, ⟨hsteps, rfl⟩, _, _, ⟨rfl, rfl⟩, _, _, rfl, rfl, rfl⟩ := h
    simp only [validateSteps, Except.bind_ok_iff, Except.rejectIf_ok_iff] at hsteps
    obtain ⟨_, hne, _, hlen, -⟩ := hsteps
    refine ⟨?_, by simpa using ⟨hs.next, hs.plans⟩, fun event hmem => ?_⟩
    · simp only [recordEvent, UInt64.saturatingSucc]
      split_ifs with hlt
      · rw [ne_eq, ← UInt64.toNat_inj, UInt64.toNat_succ hlt]
        exact Nat.succ_ne_zero _
      · exact hs.next
    · obtain hmem | rfl := EventLog.mem_recordEvent hmem
      · exact hs.events event hmem
      · simp [WorkflowEvent.validateForDurableReplay, validateEventPlanId, hs.next, hne, hlen]
  | recordOperation hp h =>
    simp only [WorkflowEngine.recordOperation, Mut.returns_bind, Mut.returns_self,
      Mut.returns_lift, Mut.returns_rejectIf, Mut.returns_mapErr, Mut.returns_onField,
      Mut.returns_assign] at h
    obtain ⟨_, _, ⟨rfl, rfl⟩, _, _, ⟨-, rfl⟩, _, _, ⟨-, rfl⟩, _, _, ⟨-, rfl⟩, _, _,
      ⟨ledger, hrec, rfl⟩, _, _, ⟨rfl, rfl⟩, h⟩ := h
    obtain ⟨rfl, rfl⟩ := Prod.mk.inj h
    obtain ⟨-, -, -, _, _, rfl, hop, -, -⟩ := WorkflowOperationLedger.returns_record hrec
    simp only [WorkflowOperation.validateSyntax, Except.bind_ok_iff, Except.rejectIf_ok_iff] at hop
    obtain ⟨_, hstep, _, htool, -⟩ := hop
    refine ⟨hs.next, hs.plans, fun event hmem => ?_⟩
    obtain hmem | rfl := EventLog.mem_recordEvent hmem
    · exact hs.events event hmem
    · simp [WorkflowEvent.validateForDurableReplay, validateEventPlanId, hs.plans _ hp, hstep,
        htool]

/-- In every run of an engine, durable replay accepts all events that it retains. -/
theorem events_replayable {engineId : UInt64} {runtime : CapabilityRuntime} {maxEvents : ℕ+}
    {s : WorkflowEngine × List WorkflowPlan}
    (h : Relation.ReflTransGen Step (⟨engineId, runtime, .new maxEvents, 1, none⟩, []) s) :
    ∀ event ∈ s.1.log.events, event.validateForDurableReplay = .ok () := by
  have hs : Replayable s := by
    induction h with
    | refl => exact ⟨show (1 : UInt64) ≠ 0 by decide, by simp, by simp [EventLog.new]⟩
    | tail _ h ih => exact ih.step h
  exact hs.events

omit [Blake3] in
theorem events_replayable_of_plan : ∃ s : WorkflowEngine × List WorkflowPlan,
    s.1.log.events = [.planned 1 1] ∧
      ∀ event ∈ s.1.log.events, event.validateForDurableReplay = .ok () := by
  let digest : Digest := ⟨List.replicate 32 0, rfl⟩
  let _ : Blake3 := ⟨fun _ => digest, fun _ _ => digest⟩
  have hplan : (plan [⟨"build", "1"⟩]).Returns
    ⟨1, .new (.new 1 none ⟨8, 4096⟩) 0 8, .new 16, 1, none⟩ _ _ := rfl
  exact ⟨_, rfl, events_replayable (.single (.plan hplan))⟩

end WorkflowEngine

end Octoscript
