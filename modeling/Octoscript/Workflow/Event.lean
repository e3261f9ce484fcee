import Octoscript.Language.Lexer
import Octoscript.Workflow.Ledger

namespace Octoscript

inductive WorkflowEvent
  | planned (planId : UInt64) (stepCount : ℕ)
  | approved (planId : UInt64)
  | checkpointed (planId : UInt64) (completedSteps : ℕ)
  | operationLedgerCreated (planId : UInt64)
  | operationRecorded (planId : UInt64) (stepId tool : String)
  | operationObserved (planId : UInt64) (stepId tool : String) (state : WorkflowOperationState)
  | compensationRecorded (planId : UInt64) (operationKey compensationKey : String)
  | compensationApproved (planId : UInt64) (operationKey compensationKey : String)
  | compensationObserved (planId : UInt64) (operationKey compensationKey : String)
      (state : WorkflowOperationState)
  | resumeApproved (planId : UInt64) (completedSteps : ℕ)
  | started (planId : UInt64)
  | resumed (planId : UInt64) (completedSteps : ℕ)
  | stepSucceeded (planId : UInt64) (stepId : String)
  | stepSuspended (planId : UInt64) (stepId : String) (completedSteps : ℕ)
  | stepRejected (planId : UInt64) (stepId : String) (diagnosticCount : ℕ)
      (diagnosticsTruncated : Bool) (completedSteps : ℕ)
  | stepFailed (planId : UInt64) (stepId : String) (diagnosticCount completedSteps : ℕ)
  | completed (planId : UInt64)
  deriving DecidableEq

inductive WorkflowEventValidationError
  | invalidPlanId
  | invalidStepCount
  | invalidCompletedSteps
  | invalidDiagnosticCount
  | invalidStepId
  | invalidTool
  | invalidOperationKey
  | invalidCompensationKey
  deriving DecidableEq

def validateEventPlanId (planId : UInt64) : Except WorkflowEventValidationError Unit :=
  rejectIf (planId = 0) .invalidPlanId

def validateEventCompletedSteps (completedSteps : ℕ) : Except WorkflowEventValidationError Unit :=
  rejectIf (completedSteps > maxWorkflowSteps) .invalidCompletedSteps

namespace WorkflowEvent

def validateForDurableReplay : WorkflowEvent → Except WorkflowEventValidationError Unit
  | .planned planId stepCount => do
    validateEventPlanId planId
    rejectIf (stepCount = 0 ∨ stepCount > maxWorkflowSteps) .invalidStepCount
  | .approved planId | .operationLedgerCreated planId | .started planId | .completed planId =>
    validateEventPlanId planId
  | .checkpointed planId completedSteps | .resumeApproved planId completedSteps
  | .resumed planId completedSteps => do
    validateEventPlanId planId
    validateEventCompletedSteps completedSteps
  | .operationRecorded planId stepId tool | .operationObserved planId stepId tool _ => do
    validateEventPlanId planId
    rejectIf (isValidStepId stepId = false) .invalidStepId
    rejectIf (isValidOperationToken tool = false) .invalidTool
  | .compensationRecorded planId operationKey compensationKey
  | .compensationApproved planId operationKey compensationKey
  | .compensationObserved planId operationKey compensationKey _ => do
    validateEventPlanId planId
    rejectIf (isValidOperationToken operationKey = false) .invalidOperationKey
    rejectIf (isValidCompensationKey compensationKey = false) .invalidCompensationKey
  | .stepSucceeded planId stepId => do
    validateEventPlanId planId
    rejectIf (isValidStepId stepId = false) .invalidStepId
  | .stepSuspended planId stepId completedSteps => do
    validateEventPlanId planId
    rejectIf (isValidStepId stepId = false) .invalidStepId
    validateEventCompletedSteps completedSteps
  | .stepRejected planId stepId diagnosticCount _ completedSteps
  | .stepFailed planId stepId diagnosticCount completedSteps => do
    validateEventPlanId planId
    rejectIf (isValidStepId stepId = false) .invalidStepId
    rejectIf (diagnosticCount > Language.maxSyntaxDiagnostics) .invalidDiagnosticCount
    validateEventCompletedSteps completedSteps

end WorkflowEvent

end Octoscript
