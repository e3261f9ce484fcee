import Octoscript.Capabilities.SupervisedSession
import Octoscript.Lib.Mailbox
import Octoscript.Protocol.Authorizer

namespace Octoscript

open Function

structure ActiveInvocation where
  authorized : AuthorizedInvocation
  completed : Option ToolResult
  cancellation : Option AuthorizedWorkerCancellation
  deriving DecidableEq

def ActiveInvocation.requestId (self : ActiveInvocation) : String :=
  self.authorized.invocation.requestId

abbrev InvocationMailbox :=
  Mailbox (Except MultiplexedWorkerError MultiplexedWorkerInvocationOutcome)

abbrev CancellationMailbox := Mailbox (Except MultiplexedWorkerError WorkerCancellationResult)

structure Coordinator where
  authorizer : SessionAuthorizer
  active : Option ActiveInvocation
  running : Bool
  results : String → InvocationMailbox
  dispositions : String → CancellationMailbox

/-- The kind of a message, as errors name it. -/
def WorkerMessage.kind : WorkerMessage → String
  | .openSession _ => "open_session"
  | .invoke _ => "invoke"
  | .result _ => "result"
  | .dispatchOperation _ => "dispatch_operation"
  | .operationResult _ => "operation_result"
  | .compensateOperation _ => "compensate_operation"
  | .compensationResult _ => "compensation_result"
  | .reconcileOperation _ => "reconcile_operation"
  | .reconciledOperation _ => "reconciled_operation"
  | .cancel _ => "cancel"
  | .cancellationResult _ => "cancellation_result"
  | .closeSession _ _ => "close_session"

namespace Coordinator

/-- The state when the session is open and no command was taken. -/
def new (authorizer : SessionAuthorizer) : Coordinator where
  authorizer
  active := none
  running := true
  results _ := Mailbox.new.disconnect
  dispositions _ := Mailbox.new.disconnect

/-- Sends the outcome of a call and drops the sender. -/
def deliver (self : Coordinator) (requestId : String)
    (outcome : Except MultiplexedWorkerError MultiplexedWorkerInvocationOutcome) : Coordinator :=
  { self with
    results :=
      update self.results requestId ((self.results requestId).send outcome).disconnect }

/-- Sends the disposition of a cancellation and drops the sender. -/
def dispose (self : Coordinator) (cancellationId : String)
    (disposition : Except MultiplexedWorkerError WorkerCancellationResult) : Coordinator :=
  { self with
    dispositions := update self.dispositions cancellationId
      ((self.dispositions cancellationId).send disposition).disconnect }

/-- Drops the sender of a cancellation. -/
def abandon (self : Coordinator) (cancellationId : String) : Coordinator :=
  { self with
    dispositions := update self.dispositions cancellationId
      (self.dispositions cancellationId).disconnect }

def failActive (self : Coordinator) (error : MultiplexedWorkerError) : Coordinator :=
  match self.active with
  | none => self
  | some current =>
    let self := { self with active := none }
    let self := if (self.results current.requestId).connected then
      self.deliver current.requestId (.error error) else self
    match current.cancellation with
    | none => self
    | some cancellation => self.dispose cancellation.request.cancellationId (.error error)

/-- The loop ends with an error for the active call. -/
def stop (self : Coordinator) (error : MultiplexedWorkerError) : Coordinator :=
  { self.failActive error with running := false }

def start (self : Coordinator) (invocation : ToolInvocation)
    (written : Except MultiplexedWorkerError Unit) :
    Except MultiplexedWorkerError Unit × Coordinator :=
  if self.running = false then (.error .unavailable, self)
  else if self.active.isSome then (.error .busy, self)
  else match SessionAuthorizer.authorize invocation self.authorizer with
    | (.error error, authorizer) => (.error (.protocol error), { self with authorizer })
    | (.ok authorized, authorizer) =>
      let self := { self with authorizer }
      match written with
      | .error error => (.error error, self.stop error)
      | .ok () => (.ok (), { self with
          active := some ⟨authorized, none, none⟩
          results := update self.results invocation.requestId .new })

def cancel (self : Coordinator) (cancellationId requestId tool : String)
    (written : Except MultiplexedWorkerError Unit) :
    Except MultiplexedWorkerError Unit × Coordinator :=
  if self.running = false then (.error .unavailable, self)
  else match self.active with
  | none => (.error .noActiveInvocation, self)
  | some current =>
    if current.requestId ≠ requestId ∨ current.authorized.invocation.tool ≠ tool then
      (.error .targetMismatch, self)
    else if current.cancellation.isSome then (.error .cancellationPending, self)
    else match WorkerCancellationRequest.new self.authorizer.manifest.sessionId cancellationId
        requestId tool with
    | .error error => (.error (.protocol error), self)
    | .ok request =>
      match SessionAuthorizer.authorizeCancellation request current.authorized self.authorizer with
      | (.error error, authorizer) => (.error (.protocol error), { self with authorizer })
      | (.ok cancellation, authorizer) =>
        let self := { self with authorizer }
        match written with
        | .error error => (.error error, self.stop error)
        | .ok () => (.ok (), { self with
            active := some { current with cancellation := some cancellation }
            dispositions := update self.dispositions cancellationId .new })

/-- The worker's disposition of a cancellation that was taken from the active call. -/
def handleDisposition (self : Coordinator) (current : ActiveInvocation)
    (cancellationId : String) (result : WorkerCancellationResult) :
    Except MultiplexedWorkerError Unit × Coordinator :=
  match result.outcome with
  | .acknowledged =>
    let self := self.dispose cancellationId (.ok result)
    if (self.results current.requestId).connected = false then
      (.error (.unexpectedMessage "cancellation after completed result"), self)
    else (.ok (), { self.deliver current.requestId (.ok (.cancelled result)) with active := none })
  | .tooLate => match current.completed with
    | none => (.error (.unexpectedMessage "too_late before result"), self.abandon cancellationId)
    | some completed =>
      if (self.results current.requestId).connected = false then
        (.error (.unexpectedMessage "too_late after delivered result"), self.abandon cancellationId)
      else
        let self := self.deliver current.requestId (.ok (.completed completed))
        (.ok (), { self.dispose cancellationId (.ok result) with active := none })
  | .unsupported => (.ok (), self.dispose cancellationId (.ok result))

def handleWorkerMessage (self : Coordinator) :
    WorkerMessage → Except MultiplexedWorkerError Unit × Coordinator
  | .result result => match self.active with
    | none => (.error (.unexpectedMessage "result"), self)
    | some current =>
      match SessionAuthorizer.validateResult current.authorized result self.authorizer with
      | (.error error, authorizer) => (.error (.protocol error), { self with authorizer })
      | (.ok (), authorizer) =>
        let self := { self with authorizer }
        if (self.results current.requestId).connected = false ∨ current.completed.isSome then
          (.error (.unexpectedMessage "duplicate result"), self)
        else if current.cancellation.isSome then
          (.ok (), { self with active := some { current with completed := some result } })
        else (.ok (), { self.deliver current.requestId (.ok (.completed result)) with
          active := none })
  | .cancellationResult result => match self.active with
    | none => (.error (.unexpectedMessage "cancellation_result"), self)
    | some current => match current.cancellation with
      | none => (.error (.unexpectedMessage "unsolicited cancellation_result"), self)
      | some cancellation =>
        let current := { current with cancellation := none }
        let cancellationId := cancellation.request.cancellationId
        match SessionAuthorizer.validateCancellationResult cancellation result self.authorizer with
        | (.error error, authorizer) => (.error (.protocol error),
            { self.abandon cancellationId with authorizer, active := some current })
        | (.ok (), authorizer) =>
          handleDisposition { self with authorizer, active := some current } current cancellationId
            result
  | message => (.error (.unexpectedMessage message.kind), self)

/-- One event of the reader: a message that was opened, or what went wrong. -/
def takeFrame (self : Coordinator) (frame : Except MultiplexedWorkerError WorkerMessage) :
    Coordinator :=
  if self.running = false then self
  else match frame with
  | .error error => self.stop error
  | .ok message => match self.handleWorkerMessage message with
    | (.ok (), self) => self
    | (.error error, self) => self.stop error

/-- `PendingWorkerInvocation::try_wait`. -/
def tryWait (self : Coordinator) (requestId : String) :
    Except MultiplexedWorkerError (Option MultiplexedWorkerInvocationOutcome) × Coordinator :=
  let (received, box) := (self.results requestId).tryRecv
  (match received with
    | .ok result => result.map some
    | .error .empty => .ok none
    | .error .disconnected => .error .unavailable,
    { self with results := update self.results requestId box })

/-- `PendingWorkerCancellation::try_wait`. -/
def tryWaitCancellation (self : Coordinator) (cancellationId : String) :
    Except MultiplexedWorkerError (Option WorkerCancellationResult) × Coordinator :=
  let (received, box) := (self.dispositions cancellationId).tryRecv
  (match received with
    | .ok result => result.map some
    | .error .empty => .ok none
    | .error .disconnected => .error .unavailable,
    { self with dispositions := update self.dispositions cancellationId box })

/-- The active call has no outcome yet, and its sender is there. -/
def Waiting (self : Coordinator) : Prop :=
  ∀ current, self.active = some current → self.results current.requestId = .new

/-- The call that is active in `c'` was active in `c`. -/
def KeepsCall (c c' : Coordinator) : Prop :=
  ∀ current', c'.active = some current' →
    ∃ current, c.active = some current ∧ current'.requestId = current.requestId

/-- All that the coordinator does to the mailboxes of calls that were sent. -/
inductive Moves (c c' : Coordinator) : Prop
  | keep : c'.results = c.results → KeepsCall c c' → Moves c c'
  | settle (current : ActiveInvocation) (box : InvocationMailbox) : c.active = some current →
      c'.active = none → c'.results = update c.results current.requestId box → Moves c c'

variable {c c' : Coordinator} {current : ActiveInvocation} {requestId : String}

theorem KeepsCall.of_eq (h : c'.active = c.active) : KeepsCall c c' := by
  intro current hcur
  exact ⟨current, h ▸ hcur, rfl⟩

theorem KeepsCall.of_some {current' : ActiveInvocation} (h : c.active = some current)
    (h' : c'.active = some current') (hid : current'.requestId = current.requestId) :
    KeepsCall c c' := by
  intro current'' hcur''
  rw [h'] at hcur''
  exact ⟨current, h, Option.some.inj hcur'' ▸ hid⟩

theorem KeepsCall.of_none (h : c'.active = none) : KeepsCall c c' := by
  intro current hcur
  rw [h] at hcur
  cases hcur

theorem Moves.waiting (h : Moves c c') (hc : c.Waiting) : c'.Waiting := by
  intro current' hact'
  cases h with
  | keep hresults hkeeps =>
    obtain ⟨current, hcur, hid⟩ := hkeeps current' hact'
    rw [hresults, hid]
    exact hc current hcur
  | settle current box hcur hnone hresults =>
    rw [hnone] at hact'
    cases hact'

/-- A mailbox with a message in it is not that of the active call. -/
theorem Waiting.ne (hc : c.Waiting) (hqueue : (c.results requestId).queue ≠ [])
    (hcur : c.active = some current) : current.requestId ≠ requestId := by
  rintro rfl
  rw [hc current hcur] at hqueue
  exact hqueue rfl

/-- What was delivered is not touched. -/
theorem Moves.results_eq (h : Moves c c') (hc : c.Waiting)
    (hqueue : (c.results requestId).queue ≠ []) : c'.results requestId = c.results requestId := by
  cases h with
  | keep hresults => rw [hresults]
  | settle current box hcur _ hresults =>
    rw [hresults, update_of_ne (hc.ne hqueue hcur).symm]

theorem failActive_active (error : MultiplexedWorkerError) : (c.failActive error).active = none := by
  unfold failActive
  cases hact : c.active with
  | none => exact hact
  | some current =>
    by_cases hconnected : (c.results current.requestId).connected = true
    · cases hcancel : current.cancellation <;> simp [hcancel, hconnected, deliver, dispose]
    · cases hcancel : current.cancellation <;> simp [hcancel, hconnected, dispose]

theorem failActive_results (error : MultiplexedWorkerError) :
    (c.failActive error).results = c.results ∨ ∃ current box, c.active = some current ∧
      (c.failActive error).results = update c.results current.requestId box := by
  unfold failActive
  cases hact : c.active with
  | none => exact .inl rfl
  | some current =>
    by_cases hconnected : (c.results current.requestId).connected = true
    · refine .inr ⟨current, ((c.results current.requestId).send (.error error)).disconnect, rfl, ?_⟩
      cases hcancel : current.cancellation <;> simp [hcancel, hconnected, deliver, dispose]
    · refine .inl ?_
      cases hcancel : current.cancellation <;> simp [hcancel, hconnected, dispose]

/-- A failure after a step that kept the active call is a move. -/
theorem moves_stop (error : MultiplexedWorkerError) (hresults : c'.results = c.results)
    (hkeeps : KeepsCall c c') : Moves c (c'.stop error) := by
  have hnone : (c'.stop error).active = none := failActive_active error
  rcases failActive_results (c := c') error with h | ⟨current', box, hcur', h⟩
  · exact .keep (h.trans hresults) (.of_none hnone)
  · obtain ⟨current, hcur, hid⟩ := hkeeps current' hcur'
    refine .settle current box hcur hnone ?_
    rw [← hid, ← hresults]
    exact h

/-- What a message does to the mailboxes, before an error of it is reported. -/
def Handles (c : Coordinator) : Except MultiplexedWorkerError Unit × Coordinator → Prop
  | (.ok (), c') => Moves c c'
  | (.error _, c') => c'.results = c.results ∧ KeepsCall c c'

/-- The state `b` differs from `c` in the active call's own record. -/
theorem handles_disposition {b : Coordinator} {current' : ActiveInvocation} {cancellationId : String}
    {result : WorkerCancellationResult} (hcur : c.active = some current)
    (hid : current'.requestId = current.requestId) (hresults : b.results = c.results)
    (hact : b.active = some current') :
    Handles c (b.handleDisposition current' cancellationId result) := by
  have hkeeps (b' : Coordinator) (h : b'.active = b.active) : KeepsCall c b' :=
    .of_some hcur (h.trans hact) hid
  have hset (box : InvocationMailbox) (b' : Coordinator) (hnone : b'.active = none)
      (h : b'.results = update b.results current'.requestId box) : Moves c b' :=
    .settle current box hcur hnone (by rw [h, hid, hresults])
  unfold handleDisposition
  cases result.outcome with
  | acknowledged =>
    dsimp only
    split
    · exact ⟨hresults, hkeeps _ rfl⟩
    · exact hset _ _ rfl rfl
  | tooLate =>
    cases current'.completed with
    | none => exact ⟨hresults, hkeeps _ rfl⟩
    | some completed =>
      dsimp only
      split
      · exact ⟨hresults, hkeeps _ rfl⟩
      · exact hset _ _ rfl rfl
  | unsupported => exact .keep hresults (hkeeps _ rfl)

theorem handles_result {result : ToolResult} : Handles c (c.handleWorkerMessage (.result result)) := by
  unfold handleWorkerMessage
  cases hact : c.active with
  | none => exact ⟨rfl, .of_eq rfl⟩
  | some current =>
    dsimp only
    split
    · exact ⟨rfl, .of_some hact rfl rfl⟩
    · split
      · exact ⟨rfl, .of_some hact rfl rfl⟩
      · split
        · exact .keep rfl (.of_some hact rfl rfl)
        · exact .settle current _ hact rfl rfl

theorem handles_cancellationResult {result : WorkerCancellationResult} :
    Handles c (c.handleWorkerMessage (.cancellationResult result)) := by
  unfold handleWorkerMessage
  cases hact : c.active with
  | none => exact ⟨rfl, .of_eq rfl⟩
  | some current =>
    cases hcancel : current.cancellation with
    | none =>
      simp only [hcancel]
      exact ⟨rfl, .of_eq rfl⟩
    | some cancellation =>
      simp only [hcancel]
      split
      · exact ⟨rfl, .of_some hact rfl rfl⟩
      · exact handles_disposition hact rfl rfl rfl

theorem handles_workerMessage (message : WorkerMessage) :
    Handles c (c.handleWorkerMessage message) := by
  cases message with
  | result result => exact handles_result
  | cancellationResult result => exact handles_cancellationResult
  | _ => exact ⟨rfl, .of_eq rfl⟩

theorem moves_takeFrame (frame : Except MultiplexedWorkerError WorkerMessage) :
    Moves c (c.takeFrame frame) := by
  unfold takeFrame
  split
  · exact .keep rfl (.of_eq rfl)
  · cases frame with
    | error error => exact moves_stop error rfl (.of_eq rfl)
    | ok message =>
      have h := handles_workerMessage (c := c) message
      dsimp only
      split
      · rename_i heq
        rw [heq] at h
        exact h
      · rename_i heq
        rw [heq] at h
        exact moves_stop _ h.1 h.2

theorem waiting_start {invocation : ToolInvocation} {written answer : Except MultiplexedWorkerError Unit}
    (h : c.start invocation written = (answer, c')) (hc : c.Waiting) : c'.Waiting := by
  obtain rfl : (c.start invocation written).2 = c' := by rw [h]
  unfold start
  split
  · exact hc
  · split
    · exact hc
    · split
      · exact hc
      · rename_i authorized authorizer heq
        cases written with
        | error error => exact (moves_stop error rfl (.of_eq rfl)).waiting hc
        | ok _ =>
          have hinvocation : authorized.invocation = invocation := by
            rw [(SessionAuthorizer.returns_authorize.mp heq).2.2]
          rintro _ ⟨⟩
          simp [ActiveInvocation.requestId, hinvocation]

theorem moves_cancel {cancellationId tool : String}
    {written answer : Except MultiplexedWorkerError Unit}
    (h : c.cancel cancellationId requestId tool written = (answer, c')) : Moves c c' := by
  obtain rfl : (c.cancel cancellationId requestId tool written).2 = c' := by rw [h]
  have hself : Moves c c := .keep rfl (.of_eq rfl)
  unfold cancel
  split
  · exact hself
  · cases hact : c.active with
    | none => exact hself
    | some current =>
      dsimp only
      split
      · exact hself
      · split
        · exact hself
        · split
          · exact hself
          · split
            · exact .keep rfl (.of_some hact rfl rfl)
            · cases written with
              | error error => exact moves_stop error rfl (.of_some hact rfl rfl)
              | ok _ => exact .keep rfl (.of_some hact rfl rfl)

theorem waiting_tryWait
    {answer : Except MultiplexedWorkerError (Option MultiplexedWorkerInvocationOutcome)}
    (h : c.tryWait requestId = (answer, c')) (hc : c.Waiting) : c'.Waiting := by
  obtain rfl : (c.tryWait requestId).2 = c' := by rw [h]
  intro current hcur
  have hnew := hc current hcur
  by_cases hid : current.requestId = requestId
  · subst hid
    simp [tryWait, hnew, Mailbox.tryRecv, Mailbox.new]
  · simpa [tryWait, update_of_ne hid] using hnew

/-- The mailbox of the call holds the worker's result. -/
def Delivered (self : Coordinator) (requestId : String) (result : ToolResult) : Prop :=
  (self.results requestId).queue = [.ok (.completed result)]

theorem tryWait_of_delivered {result : ToolResult} (h : c.Delivered requestId result) :
    (c.tryWait requestId).1 = .ok (some (.completed result)) := by
  simp [tryWait, Mailbox.tryRecv_of_queue h, Except.map]

theorem Delivered.queue_ne_nil {result : ToolResult} (h : c.Delivered requestId result) :
    (c.results requestId).queue ≠ [] := by
  rw [h]
  exact List.cons_ne_nil _ _

theorem Delivered.takeFrame {result : ToolResult} (h : c.Delivered requestId result)
    (hc : c.Waiting) (frame : Except MultiplexedWorkerError WorkerMessage) :
    (c.takeFrame frame).Delivered requestId result := by
  unfold Delivered
  rw [(moves_takeFrame frame).results_eq hc h.queue_ne_nil]
  exact h

end Coordinator

end Octoscript
