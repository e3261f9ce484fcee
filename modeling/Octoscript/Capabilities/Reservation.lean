import Octoscript.Capabilities.Runtime

namespace Octoscript
open Effectful HostOp

/-- The tickets that were issued, each with the lease that was active. -/
def ticketsIn (t : List (Said HostOp Answer)) : List (Option ℕ × ToolTicket) :=
  t.filterMap fun s => match s.1 with
    | .note (.issued lease ticket) => some (lease, ticket)
    | .note (.queued ..) | .note (.resolved ..) | .note (.audited _) | .now | .authorize .. | .handle _
    | .redact .. | .evaluate | .resume _ => none

@[simp] theorem ticketsIn_nil : ticketsIn [] = [] := rfl

theorem ticketsIn_append (t t' : List (Said HostOp Answer)) :
    ticketsIn (t ++ t') = ticketsIn t ++ ticketsIn t' :=
  List.filterMap_append

/-- The audit events that were recorded. -/
def auditedIn (t : List (Said HostOp Answer)) : List AuditEvent :=
  t.filterMap fun s => match s.1 with
    | .note (.audited event) => some event
    | .note (.queued ..) | .note (.resolved ..) | .note (.issued ..) | .now | .authorize .. | .handle _
    | .redact .. | .evaluate | .resume _ => none

theorem auditedIn_append (t t' : List (Said HostOp Answer)) :
    auditedIn (t ++ t') = auditedIn t ++ auditedIn t' :=
  List.filterMap_append

/-- Neither a ticket nor an audit event. -/
structure Silent (t : List (Said HostOp Answer)) : Prop where
  tickets : ticketsIn t = []
  audited : auditedIn t = []

theorem Silent.nil : Silent [] := ⟨rfl, rfl⟩

namespace CapabilityHost
variable {ε α : Type} {k k' : CapabilityHost}
variable {t : List (Said HostOp Answer)} {id : ExternalToolId} {handle : ScriptHandle}
  {kind : ToolInvocationKind}

/-- The guarantees that hold of what every such call is made of: it says anything but that it
issues a ticket, records audit events that are valid once they have a number, numbers a call, gives out an identifier, and changes or drops records of deferred
calls, which keep their identifiers and tickets. -/
class Minds (G : Guarantee HostOp Answer CapabilityHost) : Prop where
  said : ∀ {k : CapabilityHost} {op : HostOp} (a : op.Answer),
    (∀ lease ticket, op ≠ .note (.issued lease ticket)) →
    (∀ event, op = .note (.audited event) → event.Recordable) → G.rel k [⟨op, a⟩] k
  sequence : ∀ {k : CapabilityHost} {nextSequence : UInt64}, G.rel k [] { k with nextSequence }
  identifier : ∀ {k : CapabilityHost}, k.nextPendingId ≠ .maxValue →
    G.rel k [] { k with nextPendingId := k.nextPendingId + 1 }
  update : ∀ {k : CapabilityHost} {handle : ScriptHandle} {entry entry' : PendingTool},
    k.pending[handle]? = some entry → entry'.id = entry.id → entry'.ticket = entry.ticket →
      G.rel k [] { k with pending := k.pending.insert handle entry' }
  drop : ∀ {k : CapabilityHost} {handle : ScriptHandle},
    G.rel k [] { k with pending := k.pending.erase handle }

/-- Nothing is said about tickets, and the catalog, the leases and the counts stay. -/
def quiet : Guarantee HostOp Answer CapabilityHost where
  rel k t k' := ticketsIn t = [] ∧ k'.tools = k.tools ∧ k'.leases = k.leases ∧
    k'.activeLease = k.activeLease ∧ k'.directModuleMaterial = k.directModuleMaterial
  refl _ := ⟨rfl, rfl, rfl, rfl, rfl⟩
  trans := by
    rintro k k₁ k' t t' ⟨ht, htools, hleases, hactive, hmaterial⟩
      ⟨ht', htools', hleases', hactive', hmaterial'⟩
    exact ⟨by rw [ticketsIn_append, ht, ht']; rfl, htools'.trans htools, hleases'.trans hleases,
      hactive'.trans hactive, hmaterial'.trans hmaterial⟩

theorem ticketsIn_singleton {op : HostOp} {a : op.Answer}
    (h : ∀ lease ticket, op ≠ .note (.issued lease ticket)) : ticketsIn [⟨op, a⟩] = [] := by
  match op with
  | .note (.issued lease ticket) => exact absurd rfl (h lease ticket)
  | .note (.queued ..) | .note (.resolved ..) | .note (.audited _) | .now | .authorize ..
  | .handle _ | .redact .. | .evaluate | .resume _ => rfl

instance : Minds quiet where
  said _ h _ := ⟨ticketsIn_singleton h, rfl, rfl, rfl, rfl⟩
  sequence := ⟨rfl, rfl, rfl, rfl, rfl⟩
  identifier _ := ⟨rfl, rfl, rfl, rfl, rfl⟩
  update _ _ _ := ⟨rfl, rfl, rfl, rfl, rfl⟩
  drop := ⟨rfl, rfl, rfl, rfl, rfl⟩

theorem Minds.of_quiet {G : Guarantee HostOp Answer CapabilityHost}
    (h : ∀ {k t k'}, quiet.rel k t k' → G.rel k t k') : Minds G where
  said a hop haudited := h (Minds.said a hop haudited)
  sequence := h Minds.sequence
  identifier hroom := h (Minds.identifier hroom)
  update hentry hid hticket := h (Minds.update hentry hid hticket)
  drop := h Minds.drop

theorem mem_of_findPending {entry : PendingTool} (h : k.findPending id = some (handle, entry)) :
    k.pending[handle]? = some entry ∧ entry.id = id := by
  have hmem := List.mem_of_find?_eq_some h
  have hid := List.find?_some h
  exact ⟨Std.ExtTreeMap.mem_toList_iff_getElem?_eq_some.mp hmem, of_decide_eq_true hid⟩

theorem mem_of_lookup {entry : PendingTool}
    (h : k.lookup id = .ok (handle, entry)) : k.pending[handle]? = some entry ∧ entry.id = id :=
  mem_of_findPending (Option.okOr_ok_iff.mp h)

section
variable {G : Guarantee HostOp Answer CapabilityHost} [Minds G]
variable {handle : ScriptHandle} {id : ExternalToolId}

/-- What is said without a ticket and an audit event changes nothing. -/
theorem Minds.silent {t : List (Said HostOp Answer)} (h : Silent t) : G.rel k t k := by
  induction t with
  | nil => exact G.refl k
  | cons said t ih =>
    obtain ⟨op, a⟩ := said
    have htickets : ticketsIn [⟨op, a⟩] ++ ticketsIn t = [] :=
      (ticketsIn_append _ _).symm.trans h.tickets
    have haud : auditedIn [⟨op, a⟩] ++ auditedIn t = [] :=
      (auditedIn_append _ _).symm.trans h.audited
    obtain ⟨hticket, htickets⟩ := List.append_eq_nil_iff.mp htickets
    obtain ⟨hevent, haud⟩ := List.append_eq_nil_iff.mp haud
    refine G.trans (Minds.said a ?_ ?_) (ih ⟨htickets, haud⟩)
    · rintro lease ticket rfl
      exact nomatch hticket
    · rintro event rfl
      exact nomatch hevent

theorem minds_takeSequence : Obeys G (takeSequence : Call ε UInt64) k :=
  obeys_self_bind (obeys_assign_bind Minds.sequence (obeys_pure _))

theorem minds_setPending {entry entry' : PendingTool}
    (hentry : k.pending[handle]? = some entry) (hid : entry'.id = entry.id)
    (hticket : entry'.ticket = entry.ticket) :
    Obeys G (setPending handle entry' : Call ε Unit) k :=
  obeys_self_bind (obeys_assign (Minds.update hentry hid hticket))

theorem minds_now_bind {f : ℕ → Call ε α} (h : ∀ now, Obeys G (f now) k) :
    Obeys G (Effectful.perform now >>= f) k :=
  obeys_perform_bind (fun now => Minds.said now (by simp) (by simp)) h

theorem minds_resolve {result : Except ToolError String} :
    Obeys G (resolve handle result : Call ε Bool) k := by
  apply obeys_self_bind
  cases hentry : k.pending[handle]? with
  | none => exact obeys_pure _
  | some entry =>
    refine obeys_perform_bind (fun a => Minds.said a (by simp) (by simp)) fun _ =>
      obeys_assign_bind ?_ (obeys_pure _)
    by_cases horphaned : entry.orphaned = true
    · rw [if_pos horphaned]
      exact Minds.drop
    · rw [if_neg horphaned]
      exact Minds.update hentry rfl rfl

theorem minds_awaitPromise {thread : ScriptThreadId} :
    Obeys G (awaitPromise handle thread) k := by
  apply obeys_self_bind
  apply obeys_check_bind
  intro entry hentry
  rw [Option.okOr_ok_iff] at hentry
  match entry.state with
  | .ready result => exact obeys_pure _
  | .pending dispatch none =>
    exact obeys_bind (minds_setPending hentry rfl rfl) fun _ _ _ _ => obeys_pure _
  | .pending _ (some _) => exact obeys_fail _

theorem minds_validateClaimedExternal :
    Obeys G (validateClaimedExternal id) k := by
  apply obeys_self_bind
  apply obeys_check_bind
  intro _ _
  apply obeys_check_bind
  intro _ _
  exact minds_now_bind fun _ => obeys_check _

theorem minds_externalReconcileRequest {sessionId requestId : String} :
    Obeys G (externalReconcileRequest id sessionId requestId) k := by
  apply obeys_self_bind
  apply obeys_check_bind
  intro _ _
  exact minds_now_bind fun _ => obeys_check_bind fun _ _ => obeys_check _

theorem minds_claimExternal : Obeys G (claimExternal id) k := by
  apply obeys_self_bind
  apply obeys_check_bind
  rintro ⟨handle, entry⟩ hlook
  apply obeys_check_bind
  intro waitingThread _
  refine minds_now_bind fun _ => obeys_bind ?_ fun _ _ _ _ => obeys_pure _
  exact minds_setPending (mem_of_lookup hlook).1 rfl rfl

theorem minds_claimNextExternal : Obeys G (claimNextExternal : Call ε _) k := by
  apply obeys_self_bind
  cases k.peekNextExternal with
  | none => exact obeys_pure _
  | some entry => exact obeys_bind_pure (obeys_attempt minds_claimExternal)

theorem minds_redactChunk {name chunk : String} {registered : RegisteredTool} :
    Obeys G (redactChunk name chunk registered : Call ε String) k := by
  unfold redactChunk
  cases registered.hasStreamRedactor with
  | false => exact obeys_pure _
  | true => exact obeys_perform fun text => Minds.said text (by simp) (by simp)

omit [Minds G] in
theorem host_of_redactChunk {name chunk : String} {registered : RegisteredTool}
    {t : List (Said HostOp Answer)} {r : Except ε String}
    (h : (redactChunk name chunk registered : Call ε String).Says k t r k') : k' = k := by
  unfold redactChunk at h
  cases hredactor : registered.hasStreamRedactor with
  | false =>
    simp only [hredactor] at h
    exact (says_pure.mp h).2.2
  | true =>
    simp only [hredactor] at h
    obtain ⟨_, _, _, rfl⟩ := says_performs.mp h
    rfl

theorem minds_finishHostPump {result : Except ToolError String} :
    Obeys G (finishHostPump handle result : Call ε Unit) k := by
  apply obeys_self_bind
  cases hentry : k.pending[handle]? with
  | none => exact obeys_pure _
  | some entry =>
    exact obeys_perform_bind (fun a => Minds.said a (by simp) (by simp)) fun _ =>
      minds_setPending hentry rfl rfl

section
variable [Blake3]
variable {id : ExternalToolId} {ticket : ToolTicket} {name : String} {inputBytes : ℕ}

theorem isValidAuditToolLabel_auditToolLabel (name : String) :
    isValidAuditToolLabel (k.auditToolLabel name) = true := by
  unfold auditToolLabel
  by_cases hname : isValidToolName name = true
  · rw [if_pos hname, isValidAuditToolLabel, hname, Bool.true_or]
  · rw [if_neg hname]
    exact isValidAuditToolLabel_digest _

/-- Every recording path leaves output bytes to a result and a retry class to a retry. -/
theorem minds_recordCall {sequence : UInt64} {inputBytes outputBytes : ℕ}
    {outcome : AuditOutcome} {retryClass : Option RetryClass}
    (hretry : retryClass ≠ none ↔ outcome = .retryScheduled)
    (hbytes : outputBytes ≠ 0 → outcome = .allowed ∨ outcome = .streamed) :
    Obeys G (recordCall sequence name inputBytes outputBytes outcome retryClass : Call ε Unit) k := by
  refine obeys_self_bind (obeys_perform fun a => Minds.said a (by simp) ?_)
  rintro event hevent
  cases hevent
  exact AuditEvent.recordable_of (isValidAuditToolLabel_auditToolLabel name) hretry hbytes

theorem minds_recordTicketResult {result : Except ToolError String} :
    Obeys G (recordTicketResult ticket result : Call ε Unit) k := by
  apply minds_recordCall
  · rcases result with (_ | _ | _ | _) | _ <;> simp [outcomeOf]
  · rcases result with (_ | _ | _ | _) | _ <;> simp [outcomeOf]

theorem minds_recordResult {sequence : UInt64} {error : ToolError} :
    Obeys G (recordResult sequence name inputBytes error : Call ε Unit) k := by
  apply minds_recordCall
  · cases error <;> simp [outcomeOf]
  · simp

theorem minds_refuseDeferred {error : ToolError} :
    Obeys G (refuseDeferred name inputBytes error : Call ToolError α) k := by
  apply obeys_bind minds_takeSequence
  intro _ _ _ _
  exact obeys_bind minds_recordResult fun _ _ _ _ => obeys_fail _

theorem minds_allocatePendingId :
    Obeys G (allocatePendingId name inputBytes) k := by
  apply obeys_self_bind
  by_cases h : k.nextPendingId = .maxValue
  · rw [if_pos h]
    exact minds_refuseDeferred
  · rw [if_neg h]
    exact obeys_assign_bind (Minds.identifier h) (obeys_pure _)

theorem minds_requestExternalCancellation :
    Obeys G (requestExternalCancellation id) k := by
  apply obeys_self_bind
  apply obeys_check_bind
  rintro ⟨handle, entry⟩ hlook
  apply obeys_check_bind
  rintro ⟨waitingThread, newlyRequested⟩ _
  cases newlyRequested with
  | false => exact obeys_bind (obeys_pure _) fun _ _ _ _ => obeys_pure _
  | true =>
    refine obeys_bind (minds_setPending (mem_of_lookup hlook).1 rfl rfl) fun _ _ _ _ => ?_
    exact obeys_bind (minds_recordCall (by simp) (by simp)) fun _ _ _ _ => obeys_pure _

theorem minds_retryExternal {retryClass : RetryClass} :
    Obeys G (retryExternal id retryClass) k := by
  apply minds_now_bind
  intro now
  apply obeys_self_bind
  apply obeys_check_bind
  rintro ⟨handle, entry⟩ hlook
  apply obeys_check_bind
  intro _ _
  apply obeys_check_bind
  intro _ _
  apply obeys_check_bind
  intro _ _
  refine obeys_bind (minds_setPending (mem_of_lookup hlook).1 rfl rfl) fun _ _ _ _ => ?_
  exact obeys_bind (minds_recordCall (by simp) (by simp)) fun _ _ _ _ => obeys_pure _

theorem minds_rejectStream {sourceBytes : ℕ} {error : ExternalToolError} :
    Obeys G (rejectStream ticket sourceBytes error : Call ExternalToolError α) k :=
  obeys_bind (minds_recordCall (by simp) (by simp)) fun _ _ _ _ => obeys_fail _

theorem minds_pushExternalStreamChunk {chunk : String} :
    Obeys G (pushExternalStreamChunk id chunk) k := by
  apply minds_now_bind
  intro now
  apply obeys_self_bind
  apply obeys_check_bind
  rintro ⟨handle, entry⟩ hlook
  apply obeys_check_bind
  intro _ _
  apply obeys_check_bind
  intro _ _
  cases checkChunk id entry chunk.utf8ByteSize with
  | error error => exact minds_rejectStream
  | ok stream =>
    cases k.tools[entry.ticket.name]? with
    | none => exact minds_rejectStream
    | some registered =>
      apply obeys_bind minds_redactChunk
      intro _ text _ hredact
      obtain rfl := host_of_redactChunk hredact
      by_cases h : text.utf8ByteSize > stream.maxEmittedBytes - entry.streamed.emittedBytes
      · simp only [if_pos h]
        exact minds_rejectStream
      · simp only [if_neg h]
        refine minds_now_bind fun _ => obeys_check_bind fun _ _ => obeys_bind
          (minds_setPending (mem_of_lookup hlook).1 rfl rfl) fun _ _ _ _ => ?_
        exact obeys_bind (minds_recordCall (by simp) (by simp)) fun _ _ _ _ => obeys_pure _

variable [JsonReader]

theorem minds_completeTicket {result : Except ToolError String} :
    Obeys G (completeTicket ticket result : Call ε _) k := by
  apply minds_now_bind
  intro now
  apply obeys_self_bind
  exact obeys_bind minds_recordTicketResult fun _ _ _ _ => obeys_pure _

theorem minds_execute : Obeys G (execute ticket : Call ε _) k := by
  apply obeys_self_bind
  cases k.tools[ticket.name]? with
  | none => exact minds_completeTicket
  | some registered =>
    cases himpl : registered.implementation with
    | hostPump =>
      simp only [himpl]
      exact obeys_perform_bind (fun a => Minds.said a (by simp) (by simp)) fun _ => minds_completeTicket
    | external =>
      simp only [himpl]
      exact minds_completeTicket

theorem minds_completeExternal {result : Except ToolError String} :
    Obeys G (completeExternal id result) k := by
  apply obeys_self_bind
  apply obeys_check_bind
  rintro ⟨handle, entry⟩ _
  apply obeys_check_bind
  intro waitingThread _
  apply obeys_bind minds_completeTicket
  intro _ _ _ _
  apply obeys_bind minds_resolve
  intro _ _ _ _
  exact obeys_check_bind fun _ _ => obeys_pure _

theorem minds_confirmExternalCancellation :
    Obeys G (confirmExternalCancellation id) k := by
  apply obeys_self_bind
  apply obeys_check_bind
  rintro ⟨_, entry⟩ _
  exact obeys_check_bind fun _ _ => minds_completeExternal

theorem minds_reconcileExternal {request : OperationReconcileRequest}
    {result : OperationReconcileResult} : Obeys G (reconcileExternal id request result) k := by
  apply obeys_check_bind
  intro _ _
  apply obeys_check_bind
  intro _ _
  apply obeys_self_bind
  apply obeys_check_bind
  rintro ⟨ticket, operationKey, _⟩ _
  apply obeys_check_bind
  intro _ _
  apply obeys_check_bind
  intro _ _
  cases result.status with
  | running => exact minds_now_bind fun _ => obeys_check_bind fun _ _ => obeys_pure _
  | succeeded payload => exact obeys_check_bind fun _ _ => obeys_bind_pure minds_completeExternal
  | failed message => exact obeys_bind_pure minds_completeExternal
  | cancelled => exact obeys_bind_pure minds_completeExternal

theorem minds_expireAll {due : List (ScriptHandle × PendingTool)} :
    Obeys G (expireAll due : Call ε _) k := by
  induction due generalizing k with
  | nil => exact obeys_pure _
  | cons entry due ih =>
    apply obeys_bind minds_completeTicket
    intro _ _ _ _
    apply obeys_bind minds_resolve
    intro _ _ _ _
    exact obeys_bind_pure ih

theorem minds_pumpTicket {now : ℕ} :
    Obeys G (pumpTicket ticket now : Call ε _) k := by
  unfold pumpTicket
  by_cases h : ticket.expiredAt now = true
  · rw [if_pos h]
    exact minds_completeTicket
  · rw [if_neg h]
    exact minds_execute

theorem minds_runNextPending : Obeys G (runNextPending : Call ε _) k := by
  apply obeys_self_bind
  cases k.nextHostPump with
  | none => exact obeys_pure _
  | some next =>
    obtain ⟨handle, entry⟩ := next
    apply minds_now_bind
    intro now
    exact obeys_bind minds_pumpTicket fun _ _ _ _ => obeys_bind_pure minds_finishHostPump

end

end

theorem quiet_insertPending {ticket : ToolTicket}
    {key : String} : Obeys quiet (insertPending handle id ticket key : Call ε Unit) k := by
  apply obeys_self_bind
  exact obeys_perform_bind (fun a => Minds.said a (by simp) (by simp)) fun _ =>
    obeys_assign ⟨rfl, rfl, rfl, rfl, rfl⟩

/-- The lease that is active has a call left for the tool, and is charged with it. -/
def Charged (k : CapabilityHost) (name : String) (leases : List CapabilityLeaseState) : Prop :=
  match k.activeLease with
  | none => leases = k.leases
  | some lease => ∃ maximum, (k.leaseState lease).grants[name]? = some maximum ∧
      (k.leaseState lease).callsOf name < maximum ∧
      leases = k.leases.set lease { k.leaseState lease with
        calls := (k.leaseState lease).calls.insert name ((k.leaseState lease).callsOf name + 1) }

/-- One ticket is issued and counted. -/
structure Issues (k : CapabilityHost) (t : List (Said HostOp Answer)) (ticket : ToolTicket)
    (k' : CapabilityHost) : Prop where
  tickets : ticketsIn t = [(k.activeLease, ticket)]
  audited : auditedIn t = []
  tools : ∃ registered, k.tools[ticket.name]? = some registered ∧
    registered.calls < registered.policy.maxCalls ∧
    k'.tools = k.tools.insert ticket.name { registered with calls := registered.calls + 1 }
  leases : k.Charged ticket.name k'.leases
  activeLease : k'.activeLease = k.activeLease
  directModuleMaterial : k'.directModuleMaterial = k.directModuleMaterial
  pending : k'.pending = k.pending
  nextPendingId : k'.nextPendingId = k.nextPendingId

theorem says_askAuthorizer {lease : ℕ} {state : CapabilityLeaseState} {request : ToolRequest}
    {descriptor : ToolDescriptor} {r : Except ToolError Unit}
    (h : (askAuthorizer lease state request descriptor).Says k t r k') :
    Silent t ∧ k' = k := by
  unfold askAuthorizer at h
  by_cases hauth : state.hasAuthorizer = true
  · rw [if_pos hauth, says_perform_bind] at h
    obtain ⟨answer, t', rfl, h⟩ := h
    obtain ⟨rfl, _, rfl⟩ := says_check.mp h
    exact ⟨⟨rfl, rfl⟩, rfl⟩
  · rw [if_neg hauth] at h
    obtain ⟨rfl, _, rfl⟩ := says_pure.mp h
    exact ⟨.nil, rfl⟩

/-- The lease is charged exactly if the call is allowed. -/
theorem says_authorizeActive {request : ToolRequest} {descriptor : ToolDescriptor}
    {r : Except ToolError Unit}
    (h : (authorizeActive request descriptor k.activeLease).Says k t r k') :
    Silent t ∧ ((∃ error, r = .error error ∧ k' = k) ∨
      ∃ leases, r = .ok () ∧ k.Charged request.name leases ∧ k' = { k with leases }) := by
  cases hlease : k.activeLease with
  | none =>
    rw [hlease] at h
    obtain ⟨rfl, rfl, rfl⟩ := says_pure.mp h
    have hcharged : k'.Charged request.name k'.leases := by simp [Charged, hlease]
    exact ⟨.nil, .inr ⟨_, rfl, hcharged, by rw [← hlease]⟩⟩
  | some lease =>
    simp only [hlease, authorizeActive, authorize, says_self_bind, says_check_bind] at h
    rcases h with ⟨error, _, rfl, rfl, rfl⟩ | ⟨maximum, hmax, h⟩
    · exact ⟨.nil, .inl ⟨error, rfl, rfl⟩⟩
    rcases h with ⟨error, _, rfl, rfl, rfl⟩ | ⟨_, hcalls, h⟩
    · exact ⟨.nil, .inl ⟨error, rfl, rfl⟩⟩
    rw [says_bind] at h
    rcases h with ⟨error, h, rfl⟩ | ⟨_, k₁, t₁, t₂, rfl, hask, h⟩
    · exact ⟨(says_askAuthorizer h).1, .inl ⟨error, rfl, (says_askAuthorizer h).2⟩⟩
    obtain ⟨ht, rfl⟩ := says_askAuthorizer hask
    obtain ⟨rfl, rfl, rfl⟩ := says_assign.mp h
    refine ⟨by rwa [List.append_nil], .inr ⟨_, rfl, ?_, by rw [← hlease]⟩⟩
    rw [Except.rejectIf_ok_iff] at hcalls
    simp only [Charged, hlease]
    exact ⟨maximum, Option.okOr_ok_iff.mp hmax, not_le.mp hcalls, trivial⟩

theorem says_startDeadline {maximum : Option ℕ} {r : Except ε (Option DeferredDeadline)}
    (h : (startDeadline kind maximum).Says k t r k') :
    Silent t ∧ k' = k ∧ ∃ deadline, r = .ok deadline := by
  match kind, maximum with
  | .deferred, some maximum =>
    simp only [startDeadline, says_perform_bind, says_pure] at h
    obtain ⟨now, _, rfl, rfl, rfl, rfl⟩ := h
    exact ⟨⟨rfl, rfl⟩, rfl, _, rfl⟩
  | .deferred, none | .synchronous, _ =>
    obtain ⟨rfl, rfl, rfl⟩ := says_pure.mp h
    exact ⟨.nil, rfl, _, rfl⟩

theorem says_reserveRegistered {sequence : UInt64} {name input : String}
    {registered : RegisteredTool}
    {r : Except ToolError ToolTicket} (htool : k.tools[name]? = some registered)
    (h : (reserveRegistered sequence name input kind registered).Says k t r k') :
    (∃ error, r = .error error ∧ Silent t ∧ k' = k) ∨
      ∃ ticket, r = .ok ticket ∧ k.Issues t ticket k' ∧ ticket.name = name ∧
        ticket.sequence = sequence := by
  simp only [reserveRegistered, says_check_bind, says_self_bind] at h
  rcases h with ⟨error, _, rfl, rfl, rfl⟩ | ⟨_, _, h⟩
  · exact .inl ⟨error, rfl, .nil, rfl⟩
  rcases h with ⟨error, _, rfl, rfl, rfl⟩ | ⟨_, hcalls, h⟩
  · exact .inl ⟨error, rfl, .nil, rfl⟩
  rw [says_bind] at h
  rcases h with ⟨error, h, rfl⟩ | ⟨_, k₁, t₁, t₂, rfl, hauth, h⟩
  · obtain ⟨ht, ⟨_, _, hk⟩ | ⟨_, hok, _⟩⟩ := says_authorizeActive h
    · exact .inl ⟨error, rfl, ht, hk⟩
    · cases hok
  obtain ⟨ht₁, ⟨_, herror, _⟩ | ⟨leases, _, hcharged, rfl⟩⟩ := says_authorizeActive hauth
  · cases herror
  simp only [says_self_bind, says_assign_bind] at h
  rw [says_bind] at h
  rcases h with ⟨error, h, _⟩ | ⟨deadline, k₂, t₃, t₄, rfl, hdeadline, h⟩
  · obtain ⟨_, _, _, hok⟩ := says_startDeadline h
    cases hok
  obtain ⟨ht₃, rfl, _⟩ := says_startDeadline hdeadline
  simp only [says_perform_bind, says_pure] at h
  obtain ⟨_, _, rfl, rfl, rfl, rfl⟩ := h
  rw [Except.rejectIf_ok_iff] at hcalls
  refine .inr ⟨_, rfl, ⟨?_, ?_, ⟨registered, htool, not_le.mp hcalls, rfl⟩, hcharged, rfl, rfl,
    rfl, rfl⟩, rfl, rfl⟩
  · rw [ticketsIn_append, ticketsIn_append, ht₁.tickets, ht₃.tickets]
    rfl
  · rw [auditedIn_append, auditedIn_append, ht₁.audited, ht₃.audited]
    rfl

theorem says_takeSequence_bind {f : UInt64 → Call ε α}
    {r : Except ε α} : (takeSequence >>= f).Says k t r k' ↔
      (f k.nextSequence).Says { k with nextSequence := k.nextSequence.saturatingSucc } t r k' :=
  Iff.rfl

theorem checkReservation_ok [JsonReader] {name input : String} {expectedFormat : Option ToolDataFormat}
    {registered : RegisteredTool}
    (h : k.checkReservation name input expectedFormat kind = .ok registered) :
    k.tools[name]? = some registered := by
  simp only [checkReservation, Except.bind_ok_iff] at h
  obtain ⟨_, htool, _, _, _, _, _, _, _, _, hreturn⟩ := h
  cases hreturn
  exact Option.okOr_ok_iff.mp htool

section
variable [JsonReader] [Blake3]

/-- A refused reservation leaves the counts as they were. -/
theorem says_reserve {G : Guarantee HostOp Answer CapabilityHost} [Minds G] {name input : String} {expectedFormat : Option ToolDataFormat}
    {kind : ToolInvocationKind} {t : List (Said HostOp Answer)}
    {r : Except ToolError ToolTicket} (h : (reserve name input expectedFormat kind).Says k t r k') :
    (∃ error, r = .error error ∧ G.rel k t k') ∨
      ∃ ticket, r = .ok ticket ∧ k.Issues t ticket k' ∧ ticket.name = name := by
  simp only [reserve, says_takeSequence_bind, says_self_bind] at h
  rw [says_bind] at h
  rcases h with ⟨_, hattempt, _⟩ | ⟨result, k₁, t₁, t₂, rfl, hattempt, h⟩
  · obtain ⟨_, _, hok⟩ := says_attempt.mp hattempt
    cases hok
  obtain ⟨result', hres, hok⟩ := says_attempt.mp hattempt
  cases hok
  have hspec : (∃ error, result = .error error ∧ Silent t₁ ∧
      k₁ = { k with nextSequence := k.nextSequence.saturatingSucc }) ∨
      ∃ ticket, result = .ok ticket ∧ k.Issues t₁ ticket k₁ ∧ ticket.name = name := by
    rw [says_check_bind] at hres
    rcases hres with ⟨error, _, rfl, rfl, rfl⟩ | ⟨registered, hreg, hres⟩
    · exact .inl ⟨error, rfl, .nil, rfl⟩
    · rcases says_reserveRegistered (checkReservation_ok hreg) hres with
        ⟨error, rfl, ht, rfl⟩ | ⟨ticket, rfl, hissues, hname, _⟩
      · exact .inl ⟨error, rfl, ht, rfl⟩
      · exact .inr ⟨ticket, rfl, ⟨hissues.tickets, hissues.audited, hissues.tools, hissues.leases,
          hissues.activeLease, hissues.directModuleMaterial, hissues.pending,
          hissues.nextPendingId⟩, hname⟩
  rcases hspec with ⟨error, rfl, ht, rfl⟩ | ⟨ticket, rfl, hissues, hname⟩
  · rw [says_bind] at h
    have hstart : G.rel k t₁ { k with nextSequence := k.nextSequence.saturatingSucc } :=
      G.trans Minds.sequence (Minds.silent ht)
    rcases h with ⟨_, h, rfl⟩ | ⟨_, _, t₃, _, rfl, hrec, h⟩
    · exact .inl ⟨_, rfl, G.trans hstart (minds_recordResult h)⟩
    · obtain ⟨rfl, rfl, rfl⟩ := says_fail.mp h
      rw [List.append_nil]
      exact .inl ⟨error, rfl, G.trans hstart (minds_recordResult hrec)⟩
  · obtain ⟨rfl, rfl, rfl⟩ := says_pure.mp h
    rw [List.append_nil]
    exact .inr ⟨ticket, rfl, hissues, hname⟩

end

end CapabilityHost

end Octoscript
