import Octoscript.Lib.Calls
import Octoscript.Lib.History
import Octoscript.Protocol.Authorizer

namespace Octoscript

open History List Mut SessionAuthorizer

inductive Token
  | invocation (t : AuthorizedInvocation)
  | cancellation (t : AuthorizedWorkerCancellation)
  | operation (t : AuthorizedOperationInvocation)
  | reconciliation (t : AuthorizedOperationReconciliation)
  | compensation (t : AuthorizedOperationCompensation)
  deriving DecidableEq

namespace Token

def provenance : Token → ℕ
  | .invocation t => t.provenance
  | .cancellation t => t.provenance
  | .operation t => t.provenance
  | .reconciliation t => t.provenance
  | .compensation t => t.provenance

/-- The identifier that the token's request reserved. -/
def requestId : Token → String
  | .invocation t => t.invocation.requestId
  | .cancellation t => t.request.cancellationId
  | .operation t => t.request.requestId
  | .reconciliation t => t.request.requestId
  | .compensation t => t.request.requestId

end Token

inductive AuthorizerCall
  | authorize (invocation : ToolInvocation)
  | authorizeCancellation (request : WorkerCancellationRequest) (target : AuthorizedInvocation)
  | authorizeOperation (request : OperationDispatchRequest)
  | authorizeReconciliation (request : OperationReconcileRequest)
  | authorizeCompensation (request : OperationCompensationRequest)
  | validateResult (authorized : AuthorizedInvocation) (result : ToolResult)
  | validateCancellationResult (authorized : AuthorizedWorkerCancellation)
      (result : WorkerCancellationResult)
  | validateOperationResult (authorized : AuthorizedOperationInvocation)
      (result : OperationReconcileResult)
  | validateReconciliationResult (authorized : AuthorizedOperationReconciliation)
      (result : OperationReconcileResult)
  | validateCompensationResult (authorized : AuthorizedOperationCompensation)
      (result : OperationCompensationResult)

namespace AuthorizerCall

/-- The token that an accepted call issues, if it is a request. -/
def run [Blake3] : AuthorizerCall → Call (Option Token)
  | .authorize invocation => do
    let t ← SessionAuthorizer.authorize invocation
    return some (.invocation t)
  | .authorizeCancellation request target => do
    let t ← SessionAuthorizer.authorizeCancellation request target
    return some (.cancellation t)
  | .authorizeOperation request => do
    let t ← SessionAuthorizer.authorizeOperation request
    return some (.operation t)
  | .authorizeReconciliation request => do
    let t ← SessionAuthorizer.authorizeReconciliation request
    return some (.reconciliation t)
  | .authorizeCompensation request => do
    let t ← SessionAuthorizer.authorizeCompensation request
    return some (.compensation t)
  | .validateResult authorized result => do
    SessionAuthorizer.validateResult authorized result
    return none
  | .validateCancellationResult authorized result => do
    SessionAuthorizer.validateCancellationResult authorized result
    return none
  | .validateOperationResult authorized result => do
    SessionAuthorizer.validateOperationResult authorized result
    return none
  | .validateReconciliationResult authorized result => do
    SessionAuthorizer.validateReconciliationResult authorized result
    return none
  | .validateCompensationResult authorized result => do
    SessionAuthorizer.validateCompensationResult authorized result
    return none

/-- The token a result is checked against. -/
def resultOf : AuthorizerCall → Option Token
  | .validateResult authorized _ => some (.invocation authorized)
  | .validateCancellationResult authorized _ => some (.cancellation authorized)
  | .validateOperationResult authorized _ => some (.operation authorized)
  | .validateReconciliationResult authorized _ => some (.reconciliation authorized)
  | .validateCompensationResult authorized _ => some (.compensation authorized)
  | .authorize _ | .authorizeCancellation _ _ | .authorizeOperation _
  | .authorizeReconciliation _ | .authorizeCompensation _ => none

/-- The token the call takes. -/
def token : AuthorizerCall → Option Token
  | .authorizeCancellation _ target => some (.invocation target)
  | c => c.resultOf

/-- The identifier a request asks for, over all five kinds of request. -/
def requestId : AuthorizerCall → Option String
  | .authorize invocation => some invocation.requestId
  | .authorizeCancellation request _ => some request.cancellationId
  | .authorizeOperation request => some request.requestId
  | .authorizeReconciliation request => some request.requestId
  | .authorizeCompensation request => some request.requestId
  | .validateResult _ _ | .validateCancellationResult _ _ | .validateOperationResult _ _
  | .validateReconciliationResult _ _ | .validateCompensationResult _ _ => none

/-- The tool whose call budget a request spends. -/
def charges : AuthorizerCall → Option String
  | .authorize invocation => some invocation.tool
  | .authorizeOperation request => some request.tool
  | .authorizeCancellation _ _ | .authorizeReconciliation _ | .authorizeCompensation _
  | .validateResult _ _ | .validateCancellationResult _ _ | .validateOperationResult _ _
  | .validateReconciliationResult _ _ | .validateCompensationResult _ _ => none

/-- The request that a cancellation targets. -/
def cancels : AuthorizerCall → Option String
  | .authorizeCancellation request _ => some request.requestId
  | .authorize _ | .authorizeOperation _ | .authorizeReconciliation _ | .authorizeCompensation _
  | .validateResult _ _ | .validateCancellationResult _ _ | .validateOperationResult _ _
  | .validateReconciliationResult _ _ | .validateCompensationResult _ _ => none

/-- The request whose cancellation the call acknowledges. -/
def acknowledges : AuthorizerCall → Option String
  | .validateCancellationResult _ result =>
    if result.outcome = .acknowledged then some result.requestId else none
  | .authorize _ | .authorizeCancellation _ _ | .authorizeOperation _
  | .authorizeReconciliation _ | .authorizeCompensation _ | .validateResult _ _
  | .validateOperationResult _ _ | .validateReconciliationResult _ _
  | .validateCompensationResult _ _ => none

end AuthorizerCall

/-- What an accepted call of any kind does to the authorizer's books. -/
structure AuthorizerCall.Effect (c : AuthorizerCall) (o : Option Token)
    (s s' : SessionAuthorizer) : Prop where
  manifest : s'.manifest = s.manifest
  provenance : s'.provenance = s.provenance
  localToken : ∀ t, c.token = some t → t.provenance = s.provenance
  issuedHere : ∀ t, o = some t → t.provenance = s.provenance
  issuedId : o.map Token.requestId = c.requestId
  fresh : ∀ id, c.requestId = some id → id ∉ s.seenRequestIds
  seen : s'.seenRequestIds = s.seenRequestIds ∪ c.requestId.toFinset
  budget : ∀ tool, c.charges = some tool →
    ∃ g, s.manifest.grantFor tool = some g ∧ s.callsFor tool < g.maxCalls
  calls : ∀ tool, (s'.callsFor tool).toNat =
    (s.callsFor tool).toNat + if c.charges = some tool then 1 else 0
  uncompleted : ∀ t, c.resultOf = some t → t.requestId ∉ s.completedRequestIds
  completed : s'.completedRequestIds =
    s.completedRequestIds ∪ (c.resultOf.map Token.requestId).toFinset
  unrequested : ∀ id, c.cancels = some id → id ∉ s.cancellationRequestedIds
  requested : s'.cancellationRequestedIds = s.cancellationRequestedIds ∪ c.cancels.toFinset
  cancelled : s'.cancelledRequestIds = s.cancelledRequestIds ∪ c.acknowledges.toFinset

namespace SessionAuthorizer
variable {s s' : SessionAuthorizer}

theorem callsFor_addCall {g : CapabilityGrant} (h : s.callsFor g.tool < g.maxCalls)
    (tool : String) : ((s.addCall g.tool).callsFor tool).toNat =
      (s.callsFor tool).toNat + if some g.tool = some tool then 1 else 0 := by
  by_cases ht : g.tool = tool
  · subst ht
    simpa [callsFor] using UInt32.toNat_saturatingSucc h
  · simp [callsFor, Std.ExtTreeMap.getD_insert, ht]

end SessionAuthorizer

namespace AuthorizerCall
variable {s s' : SessionAuthorizer}
variable {c : AuthorizerCall} {o : Option Token}

theorem effect_of_payload {t : Token} {sessionId id tool : String}
    {payload : ToolPayload} {g : CapabilityGrant}
    (h : (authorizePayload sessionId id tool payload).Returns s g s')
    (hp : t.provenance = s.provenance) (hid : t.requestId = id) (htoken : c.token = none)
    (hreq : c.requestId = some id) (hcharges : c.charges = some tool)
    (hres : c.resultOf = none) (hcancels : c.cancels = none)
    (hacknowledges : c.acknowledges = none) : c.Effect (some t) s s' := by
  obtain ⟨_, hgrant, _, hcalls, hfresh, _, rfl⟩ := returns_authorizePayload.mp h
  have htool := CapabilityManifest.tool_of_grantFor hgrant
  subst htool
  exact {
    manifest := rfl
    provenance := rfl
    localToken := by simp [htoken]
    issuedHere := by simpa using hp
    issuedId := by simp [hid, hreq]
    fresh := by simpa [hreq] using hfresh
    seen := by simp [hreq]
    budget := by simpa [hcharges] using ⟨g, hgrant, hcalls⟩
    calls := by
      intro tool
      rw [hcharges, callsFor_addCall (by simpa using hcalls)]
      simp
    uncompleted := by simp [hres]
    completed := by simp [hres]
    unrequested := by simp [hcancels]
    requested := by simp [hcancels]
    cancelled := by simp [hacknowledges] }

theorem effect_of_reserve {t : Token} {id : String}
    (hfresh : id ∉ s.seenRequestIds) (hp : t.provenance = s.provenance) (hid : t.requestId = id)
    (htoken : c.token = none) (hreq : c.requestId = some id) (hcharges : c.charges = none)
    (hres : c.resultOf = none) (hcancels : c.cancels = none)
    (hacknowledges : c.acknowledges = none) : c.Effect (some t) s (s.addSeen id) where
  manifest := rfl
  provenance := rfl
  localToken := by simp [htoken]
  issuedHere := by simpa using hp
  issuedId := by simp [hid, hreq]
  fresh := by simpa [hreq] using hfresh
  seen := by simp [hreq]
  budget := by simp [hcharges]
  calls := by simp [hcharges]
  uncompleted := by simp [hres]
  completed := by simp [hres]
  unrequested := by simp [hcancels]
  requested := by simp [hcancels]
  cancelled := by simp [hacknowledges]

/-- The compensation books are none of those that `Effect` speaks of. -/
theorem Effect.addCompensation (h : c.Effect o s s')
    (tool : String) (identity : CompensationRequestIdentity) :
    c.Effect o s (s'.addCompensation tool identity) :=
  ⟨h.manifest, h.provenance, h.localToken, h.issuedHere, h.issuedId, h.fresh, h.seen, h.budget,
    h.calls, h.uncompleted, h.completed, h.unrequested, h.requested, h.cancelled⟩

theorem effect_of_result {t : Token} (hp : s.provenance = t.provenance)
    (hopen : t.requestId ∉ s.completedRequestIds) (hres : c.resultOf = some t)
    (htoken : c.token = some t) (hreq : c.requestId = none) (hcharges : c.charges = none)
    (hcancels : c.cancels = none) (hacknowledges : c.acknowledges = none) :
    c.Effect none s (s.addCompleted t.requestId) where
  manifest := rfl
  provenance := rfl
  localToken := by simp [htoken, hp]
  issuedHere := by simp
  issuedId := by simp [hreq]
  fresh := by simp [hreq]
  seen := by simp [hreq]
  budget := by simp [hcharges]
  calls := by simp [hcharges, callsFor]
  uncompleted := by simpa [hres] using hopen
  completed := by simp [hres]
  unrequested := by simp [hcancels]
  requested := by simp [hcancels]
  cancelled := by simp [hacknowledges]

theorem effect_of_cancellation {request : WorkerCancellationRequest}
    {target : AuthorizedInvocation} {t : AuthorizedWorkerCancellation}
    (h : (SessionAuthorizer.authorizeCancellation request target).Returns s t s') :
    (authorizeCancellation request target).Effect (some (.cancellation t)) s s' := by
  obtain ⟨hlocal, _, _, hreq, hfresh, rfl, rfl⟩ :=
    returns_authorizeCancellation h
  exact {
    manifest := rfl
    provenance := rfl
    localToken := by simpa [token, Token.provenance] using hlocal.symm
    issuedHere := by simp [Token.provenance]
    issuedId := rfl
    fresh := by simpa [requestId] using hfresh
    seen := by simp [requestId]
    budget := by simp [charges]
    calls := by simp [charges, callsFor]
    uncompleted := by simp [resultOf]
    completed := by simp [resultOf]
    unrequested := by simpa [cancels] using hreq
    requested := by simp [cancels]
    cancelled := by simp [acknowledges] }

theorem effect_of_answer {authorized : AuthorizedWorkerCancellation}
    {result : WorkerCancellationResult} {u : Unit}
    (h : (SessionAuthorizer.validateCancellationResult authorized result).Returns s u s') :
    (validateCancellationResult authorized result).Effect none s s' := by
  obtain ⟨hlocal, ⟨_, _, hid, _, _⟩, hopen, _, rfl⟩ :=
    returns_validateCancellationResult h
  -- The books apart from the cancelled requests do not depend on the outcome.
  by_cases ho : result.outcome = .acknowledged
  · rw [if_pos ho]
    exact {
      manifest := rfl
      provenance := rfl
      localToken := by simpa [token, resultOf, Token.provenance] using hlocal.symm
      issuedHere := by simp
      issuedId := rfl
      fresh := by simp [requestId]
      seen := by simp [requestId]
      budget := by simp [charges]
      calls := by simp [charges, callsFor]
      uncompleted := by simpa [resultOf, Token.requestId, ← hid] using hopen
      completed := by simp [resultOf, Token.requestId, hid]
      unrequested := by simp [cancels]
      requested := by simp [cancels]
      cancelled := by simp [acknowledges, ho] }
  · rw [if_neg ho, hid]
    exact effect_of_result (t := .cancellation authorized) hlocal
      (by simpa [Token.requestId, hid] using hopen) rfl rfl rfl rfl rfl (by simp [acknowledges, ho])

theorem run_effect [Blake3] (h : c.run.Returns s o s') :
    c.Effect o s s' := by
  cases c with
  | authorize invocation =>
    simp only [run, returns_bind, returns_pure] at h
    obtain ⟨t, _, h, rfl, rfl⟩ := h
    obtain ⟨_, hpay, ht⟩ := returns_authorize.mp h
    obtain ⟨_, _, _, _, _, _, rfl⟩ := SessionAuthorizer.returns_authorizePayload.mp hpay
    exact effect_of_payload hpay (by rw [ht]; rfl) (by rw [ht]; rfl) rfl rfl rfl rfl rfl rfl
  | authorizeCancellation request target =>
    simp only [run, returns_bind, returns_pure] at h
    obtain ⟨t, _, h, rfl, rfl⟩ := h
    exact effect_of_cancellation h
  | authorizeOperation request =>
    simp only [run, returns_bind, returns_pure] at h
    obtain ⟨t, _, h, rfl, rfl⟩ := h
    obtain ⟨_, hpay, ht⟩ := returns_authorizeOperation.mp h
    obtain ⟨_, _, _, _, _, _, rfl⟩ := SessionAuthorizer.returns_authorizePayload.mp hpay
    exact effect_of_payload hpay (by rw [ht]; rfl) (by rw [ht]; rfl) rfl rfl rfl rfl rfl rfl
  | authorizeReconciliation request =>
    simp only [run, returns_bind, returns_pure] at h
    obtain ⟨t, _, h, rfl, rfl⟩ := h
    obtain ⟨_, _, _, hfresh, _, rfl, ht⟩ := SessionAuthorizer.returns_authorizeReconciliation.mp h
    exact effect_of_reserve hfresh (by rw [ht]; rfl) (by rw [ht]; rfl) rfl rfl rfl rfl rfl rfl
  | authorizeCompensation request =>
    simp only [run, returns_bind, returns_pure] at h
    obtain ⟨t, _, h, rfl, rfl⟩ := h
    obtain ⟨hfresh, ht, _, identity, _, hs⟩ := returns_authorizeCompensation h
    have heff : (authorizeCompensation request).Effect (some (.compensation t)) s
        (s.addSeen request.requestId) :=
      effect_of_reserve hfresh (by rw [ht]; rfl) (by rw [ht]; rfl) rfl rfl rfl rfl rfl rfl
    obtain ⟨_, rfl⟩ | ⟨_, _, rfl⟩ := hs
    · exact heff
    · exact heff.addCompensation t.grant.tool identity
  | validateResult authorized result =>
    simp only [run, returns_bind, returns_pure] at h
    obtain ⟨_, _, h, rfl, rfl⟩ := h
    obtain ⟨hlocal, hid, _, hopen, rfl⟩ := SessionAuthorizer.returns_validateResult h
    rw [hid] at hopen ⊢
    exact effect_of_result (t := .invocation authorized) hlocal hopen rfl rfl rfl rfl rfl rfl
  | validateCancellationResult authorized result =>
    simp only [run, returns_bind, returns_pure] at h
    obtain ⟨_, _, h, rfl, rfl⟩ := h
    exact effect_of_answer h
  | validateOperationResult authorized result =>
    simp only [run, returns_bind, returns_pure] at h
    obtain ⟨_, _, h, rfl, rfl⟩ := h
    obtain ⟨hlocal, ⟨_, _, hid, _⟩, hopen, rfl⟩ := SessionAuthorizer.returns_validateStatus h
    rw [hid] at hopen ⊢
    exact effect_of_result (t := .operation authorized) hlocal hopen rfl rfl rfl rfl rfl rfl
  | validateReconciliationResult authorized result =>
    simp only [run, returns_bind, returns_pure] at h
    obtain ⟨_, _, h, rfl, rfl⟩ := h
    obtain ⟨hlocal, ⟨_, _, hid, _⟩, hopen, rfl⟩ := SessionAuthorizer.returns_validateStatus h
    rw [hid] at hopen ⊢
    exact effect_of_result (t := .reconciliation authorized) hlocal hopen rfl rfl rfl rfl rfl rfl
  | validateCompensationResult authorized result =>
    simp only [run, returns_bind, returns_pure] at h
    obtain ⟨_, _, h, rfl, rfl⟩ := h
    obtain ⟨hlocal, ⟨_, _, hid, _⟩, hopen, rfl⟩ := SessionAuthorizer.returns_validateStatus h
    rw [hid] at hopen ⊢
    exact effect_of_result (t := .compensation authorized) hlocal hopen rfl rfl rfl rfl rfl rfl

theorem token_of_resultOf {t : Token} (h : c.resultOf = some t) :
    c.token = some t := by
  cases c <;> simp_all [token, resultOf]

theorem eq_validateResult {t : AuthorizedInvocation}
    (h : c.resultOf = some (.invocation t)) : ∃ r, c = .validateResult t r := by
  cases c <;> simp_all [resultOf]

theorem run_result [Blake3] {t : AuthorizedInvocation} {r : ToolResult}
    (h : (validateResult t r).run.Returns s o s') :
    r.requestId = t.invocation.requestId ∧ r.requestId ∉ s.cancelledRequestIds := by
  simp only [run, returns_bind, returns_pure] at h
  obtain ⟨_, _, h, -, -⟩ := h
  obtain ⟨_, hid, hcancelled, _⟩ := returns_validateResult h
  exact ⟨hid, hcancelled⟩

theorem run_answer [Blake3] {t : AuthorizedWorkerCancellation} {r : WorkerCancellationResult}
    (h : (validateCancellationResult t r).run.Returns s o s') :
    r.requestId = t.request.requestId ∧
      (r.outcome = .tooLate ↔ r.requestId ∈ s.completedRequestIds) := by
  simp only [run, returns_bind, returns_pure] at h
  obtain ⟨_, _, h, -, -⟩ := h
  obtain ⟨_, ⟨_, _, _, hid, _⟩, _, hout, _⟩ :=
    returns_validateCancellationResult h
  exact ⟨hid, hout⟩

/-- A cancellation is issued for the request of the invocation token it was given. -/
theorem run_target [Blake3] {t : AuthorizedWorkerCancellation}
    (h : c.run.Returns s (some (.cancellation t)) s') :
    ∃ u, c.token = some (.invocation u) ∧ u.invocation.requestId = t.request.requestId := by
  cases c with
  | authorizeCancellation request target =>
    simp only [run, returns_bind, returns_pure] at h
    obtain ⟨_, _, h, ht, rfl⟩ := h
    obtain ⟨_, hid, _, _, _, _, rfl⟩ := SessionAuthorizer.returns_authorizeCancellation h
    obtain rfl : _ = t := by simpa using ht
    exact ⟨target, rfl, hid.symm⟩
  | _ => simp [run] at h

theorem run_keepsOnError [Blake3] (c : AuthorizerCall) : c.run.KeepsOnError := by
  cases c with
  | authorize _ => exact (SessionAuthorizer.keepsOnError_authorize _).bind_pure
  | authorizeCancellation _ _ =>
    exact (SessionAuthorizer.keepsOnError_authorizeCancellation _ _).bind_pure
  | authorizeOperation _ => exact (SessionAuthorizer.keepsOnError_authorizeOperation _).bind_pure
  | authorizeReconciliation _ =>
    exact (SessionAuthorizer.keepsOnError_authorizeReconciliation _).bind_pure
  | authorizeCompensation _ =>
    exact (SessionAuthorizer.keepsOnError_authorizeCompensation _).bind_pure
  | validateResult _ _ => exact (SessionAuthorizer.keepsOnError_validateResult _ _).bind_pure
  | validateCancellationResult _ _ =>
    exact (SessionAuthorizer.keepsOnError_validateCancellationResult _ _).bind_pure
  | validateOperationResult _ _ =>
    exact (SessionAuthorizer.keepsOnError_validateStatus _ _ _ _ _ _ _ _).bind_pure
  | validateReconciliationResult _ _ =>
    exact (SessionAuthorizer.keepsOnError_validateStatus _ _ _ _ _ _ _ _).bind_pure
  | validateCompensationResult _ _ =>
    exact (SessionAuthorizer.keepsOnError_validateStatus _ _ _ _ _ _ _ _).bind_pure

/-- Calls made one after the other, with what each of them returned. -/
def runs [Blake3] : List AuthorizerCall → SessionAuthorizer →
    List ((_ : AuthorizerCall) × Except ProtocolError (Option Token)) × SessionAuthorizer :=
  Calls.run fun s c => c.run s

/-- A refused call leaves the authorizer as it was, and whatever is called later goes as if it had
not been made. -/
theorem runs_refused [Blake3] {c : AuthorizerCall} {e : ProtocolError}
    (h : c.run s = (.error e, s')) :
    s' = s ∧
      ∀ later, runs (c :: later) s = (⟨c, .error e⟩ :: (runs later s).1, (runs later s).2) := by
  have hkept : s' = s := run_keepsOnError c s e s' h
  refine ⟨hkept, fun later => ?_⟩
  simp only [runs, Calls.run, h, hkept]

/-- Two calls are refused between two that are authorized, the one for its tool and the other for
its identifier; the run goes as if they had not been made. -/
theorem runs_refused_between : ∃ (_ : Blake3) (s s₁ : SessionAuthorizer)
    (first unknown again second : AuthorizerCall),
    new 0 ⟨5, "session", [.text "echo", .text "print"]⟩ = .ok s ∧ (first.run s).1.isOk = true ∧
      (first.run s).2 = s₁ ∧ (second.run s₁).1.isOk = true ∧
      (runs [unknown, again, second] s₁).1 = [⟨unknown, .error (.unknownTool "erase")⟩,
        ⟨again, .error (.duplicateRequest "call-1")⟩, ⟨second, (second.run s₁).1⟩] ∧
      (runs [unknown, again, second] s₁).2 = (second.run s₁).2 := by
  let digest : Digest := ⟨replicate 32 0, rfl⟩
  let _ : Blake3 := ⟨fun _ => digest, fun _ _ => digest⟩
  let s : SessionAuthorizer :=
    ⟨0, ⟨5, "session", [.text "echo", .text "print"]⟩, ∅, ∅, ∅, ∅, ∅, ∅, ∅⟩
  let call (id tool : String) : AuthorizerCall := authorize ⟨5, "session", id, tool, .text "hello"⟩
  let s₁ := ((call "call-1" "echo").run s).2
  have hunknown : (call "call-2" "erase").run s₁ = (.error (.unknownTool "erase"), s₁) := by rfl
  have hagain : (call "call-1" "echo").run s₁ = (.error (.duplicateRequest "call-1"), s₁) := by rfl
  refine ⟨_, s, s₁, call "call-1" "echo", call "call-2" "erase", call "call-1" "echo",
    call "call-2" "print", by rfl, by rfl, rfl, by rfl, ?_⟩
  rw [(runs_refused hunknown).2, (runs_refused hagain).2]
  exact ⟨rfl, rfl⟩

end AuthorizerCall

structure AuthorizerEvent where
  authorizer : ℕ
  call : AuthorizerCall
  outcome : Except ProtocolError (Option Token)

/-- The token that an event issued. -/
def AuthorizerEvent.issued (e : AuthorizerEvent) : Option Token :=
  match e.outcome with
  | .ok t => t
  | .error _ => none

/-- The call, if authorizer `i` accepted it. -/
def AuthorizerEvent.acceptedBy (i : ℕ) (e : AuthorizerEvent) : Option AuthorizerCall :=
  if e.authorizer = i ∧ e.outcome.isOk then some e.call else none

/-- The token, if authorizer `i` issued it. -/
def AuthorizerEvent.issuedBy (i : ℕ) (e : AuthorizerEvent) : Option Token :=
  if e.authorizer = i then e.issued else none

/-- The authorizers created so far, by their provenance, and the calls made on
them, newest first. -/
structure AuthorizerWorld where
  authorizers : List SessionAuthorizer
  events : List AuthorizerEvent

namespace AuthorizerWorld
variable {i : ℕ} {w : AuthorizerWorld} {c : AuthorizerCall} {s : SessionAuthorizer}
  {calls : List AuthorizerCall} {tokens : List Token} {o : Option Token}

/-- The calls that authorizer `i` accepted. -/
def accepted (i : ℕ) (events : List AuthorizerEvent) : List AuthorizerCall :=
  events.filterMap (·.acceptedBy i)

/-- The tokens that authorizer `i` issued. -/
def issued (i : ℕ) (events : List AuthorizerEvent) : List Token :=
  events.filterMap (·.issuedBy i)

inductive Step [Blake3] : AuthorizerWorld → AuthorizerWorld → Prop
  | create {w manifest s} : new w.authorizers.length manifest = .ok s →
      Step w ⟨w.authorizers ++ [s], w.events⟩
  | call {w i s r s'} (c : AuthorizerCall) : w.authorizers[i]? = some s →
      (∀ t, c.token = some t → ∃ e ∈ w.events, e.issued = some t) → c.run s = (r, s') →
      Step w ⟨w.authorizers.set i s', ⟨i, c, r⟩ :: w.events⟩

def Reachable [Blake3] : AuthorizerWorld → Prop :=
  Relation.ReflTransGen Step ⟨[], []⟩

/-- The books of authorizer `i` agree with the calls it accepted. -/
structure Ledger (i : ℕ) (s : SessionAuthorizer) (calls : List AuthorizerCall)
    (tokens : List Token) : Prop where
  valid : s.manifest.Valid
  provenance : s.provenance = i
  counted : ∀ tool, (s.callsFor tool).toNat =
    (calls.filterMap AuthorizerCall.charges).count tool
  budget : ∀ tool g, s.manifest.grantFor tool = some g → s.callsFor tool ≤ g.maxCalls
  issuedIds : tokens.map Token.requestId =
    calls.filterMap AuthorizerCall.requestId
  seen : ∀ id, id ∈ s.seenRequestIds ↔
    id ∈ calls.filterMap AuthorizerCall.requestId
  fresh : (calls.filterMap AuthorizerCall.requestId).Nodup
  completed : ∀ id, id ∈ s.completedRequestIds ↔
    id ∈ (calls.filterMap AuthorizerCall.resultOf).map Token.requestId
  oneResult : ((calls.filterMap AuthorizerCall.resultOf).map Token.requestId).Nodup
  requested : ∀ id, id ∈ s.cancellationRequestedIds ↔
    id ∈ calls.filterMap AuthorizerCall.cancels
  oneCancellation : (calls.filterMap AuthorizerCall.cancels).Nodup
  cancelled : ∀ id, id ∈ s.cancelledRequestIds ↔
    id ∈ calls.filterMap AuthorizerCall.acknowledges
  localTokens : ∀ c ∈ calls, ∀ t, c.token = some t → t ∈ tokens

theorem Ledger.extend {s s' : SessionAuthorizer}
    (h : Ledger i s calls tokens) (he : c.Effect o s s')
    (htoken : ∀ t, c.token = some t → t ∈ tokens) :
    Ledger i s' (c :: calls) (o.toList ++ tokens) where
  valid := he.manifest ▸ h.valid
  provenance := he.provenance.trans h.provenance
  counted tool := by
    rw [History.filterMap_cons, List.count_append, he.calls, h.counted, add_comm]
    congr 1
    cases c.charges <;> simp [count_singleton]
  budget tool g hg := by
    rw [he.manifest] at hg
    rw [UInt32.le_iff_toNat_le, he.calls]
    split_ifs with hc
    · obtain ⟨g', hg', hlt⟩ := he.budget tool hc
      obtain rfl : g = g' := Option.some.inj (hg.symm.trans hg')
      exact UInt32.lt_iff_toNat_lt.mp hlt
    · exact UInt32.le_iff_toNat_le.mp (h.budget tool g hg)
  issuedIds := by
    rw [History.filterMap_cons, List.map_append, h.issuedIds,
      ← he.issuedId]
    cases o <;> rfl
  seen id := by
    rw [History.filterMap_cons, he.seen, History.mem_union_toFinset h.seen]
  fresh := by
    rw [History.filterMap_cons]
    exact nodup_toList_append h.seen h.fresh he.fresh
  completed id := by
    rw [History.filterMap_cons, he.completed,
      mem_union_toFinset h.completed, map_append]
    cases c.resultOf <;> rfl
  oneResult := by
    rw [History.filterMap_cons, List.map_append]
    have hnodup := nodup_toList_append h.completed h.oneResult
      (o := c.resultOf.map Token.requestId) (by simpa using he.uncompleted)
    cases hc : c.resultOf <;> simpa [hc] using hnodup
  requested id := by
    rw [History.filterMap_cons, he.requested,
      mem_union_toFinset h.requested]
  oneCancellation := by
    rw [History.filterMap_cons]
    exact nodup_toList_append h.requested h.oneCancellation he.unrequested
  cancelled id := by
    rw [History.filterMap_cons, he.cancelled,
      mem_union_toFinset h.cancelled]
  localTokens c' hc' t ht := by
    rw [mem_cons] at hc'
    apply mem_append_right
    rcases hc' with rfl | hc'
    · exact htoken t ht
    · exact h.localTokens c' hc' t ht

/-- How an accepted call relates to those that the same authorizer accepted before. -/
def InOrder : AuthorizerCall → List AuthorizerCall → Prop
  | .validateResult _ r, earlier => r.requestId ∉ earlier.filterMap AuthorizerCall.acknowledges
  | .validateCancellationResult _ r, earlier =>
    r.outcome = .tooLate ↔ ∃ t r', .validateResult t r' ∈ earlier ∧ r'.requestId = r.requestId
  | _, _ => True

/-- The order in which authorizer `i` accepted results and cancellation answers. -/
structure Order (calls : List AuthorizerCall) (tokens : List Token) : Prop where
  targets : ∀ t, .cancellation t ∈ tokens →
    ∃ u, .invocation u ∈ tokens ∧ u.invocation.requestId = t.request.requestId
  resultIds : ∀ t r, .validateResult t r ∈ calls →
    r.requestId = t.invocation.requestId
  order : Each InOrder calls

/-- An identifier that an invocation reserved is completed exactly when a result
for it was accepted: no other kind of token carries the same identifier. -/
theorem Ledger.completed_iff
    (h : Ledger i s calls tokens) (ho : Order calls tokens) {u : AuthorizedInvocation}
    (hu : .invocation u ∈ tokens) :
    u.invocation.requestId ∈ s.completedRequestIds ↔
      ∃ t r, .validateResult t r ∈ calls ∧
        r.requestId = u.invocation.requestId := by
  simp only [h.completed, mem_map, mem_filterMap]
  constructor
  · rintro ⟨t, ⟨c, hc, hct⟩, hid⟩
    have hissued := h.localTokens c hc t (AuthorizerCall.token_of_resultOf hct)
    have hnodup : (tokens.map Token.requestId).Nodup := h.issuedIds ▸ h.fresh
    obtain rfl : t = .invocation u := inj_on_of_nodup_map hnodup hissued hu hid
    obtain ⟨r, rfl⟩ := AuthorizerCall.eq_validateResult hct
    exact ⟨u, r, hc, ho.resultIds u r hc⟩
  · rintro ⟨t, r, hc, hid⟩
    exact ⟨.invocation t, ⟨_, hc, rfl⟩, (ho.resultIds t r hc).symm.trans hid⟩

theorem Order.extend [Blake3] {s s' : SessionAuthorizer}
    (h : Ledger i s calls tokens) (ho : Order calls tokens)
    (hrun : c.run.Returns s o s') (htoken : ∀ t, c.token = some t → t ∈ tokens) :
    Order (c :: calls) (o.toList ++ tokens) where
  targets t ht := by
    rw [mem_append] at ht
    have hold : ∃ u, .invocation u ∈ tokens ∧
        u.invocation.requestId = t.request.requestId := by
      rcases ht with ht | ht
      · obtain rfl : o = some (.cancellation t) := by simpa using ht
        obtain ⟨u, hu, hid⟩ := AuthorizerCall.run_target hrun
        exact ⟨u, htoken _ hu, hid⟩
      · exact ho.targets t ht
    obtain ⟨u, hu, hid⟩ := hold
    exact ⟨u, mem_append_right _ hu, hid⟩
  resultIds t r hr := by
    rw [mem_cons] at hr
    rcases hr with rfl | hr
    · exact (AuthorizerCall.run_result hrun).1
    · exact ho.resultIds t r hr
  order := by
    rw [each_cons]
    refine ⟨?_, ho.order⟩
    cases c with
    | validateResult t r =>
      exact fun hack => (AuthorizerCall.run_result hrun).2 ((h.cancelled _).mpr hack)
    | validateCancellationResult t r =>
      obtain ⟨hid, hout⟩ := AuthorizerCall.run_answer hrun
      obtain ⟨u, hu, hut⟩ := ho.targets t (htoken _ rfl)
      rw [InOrder, hout, hid, ← hut]
      exact h.completed_iff ho hu
    | _ => trivial

theorem accepted_cons (i : ℕ) (c : AuthorizerCall) (o : Option Token)
    (events : List AuthorizerEvent) :
    accepted i (⟨i, c, .ok o⟩ :: events) = c :: accepted i events := by
  simp [accepted, AuthorizerEvent.acceptedBy, Except.isOk, Except.toBool]

theorem issued_cons (i : ℕ) (c : AuthorizerCall) (o : Option Token)
    (events : List AuthorizerEvent) :
    issued i (⟨i, c, .ok o⟩ :: events) = o.toList ++ issued i events := by
  simp [issued, History.filterMap_cons, AuthorizerEvent.issuedBy, AuthorizerEvent.issued]

theorem accepted_other {i j : ℕ} (hij : j ≠ i) (c : AuthorizerCall)
    (r : Except ProtocolError (Option Token)) (events : List AuthorizerEvent) :
    accepted i (⟨j, c, r⟩ :: events) = accepted i events ∧
      issued i (⟨j, c, r⟩ :: events) = issued i events := by
  simp [accepted, issued, AuthorizerEvent.acceptedBy, AuthorizerEvent.issuedBy, hij]

theorem accepted_refused (i j : ℕ) (c : AuthorizerCall) (e : ProtocolError)
    (events : List AuthorizerEvent) :
    accepted i (⟨j, c, .error e⟩ :: events) = accepted i events ∧
      issued i (⟨j, c, .error e⟩ :: events) = issued i events := by
  simp [accepted, issued, AuthorizerEvent.acceptedBy, AuthorizerEvent.issuedBy,
    AuthorizerEvent.issued, Except.isOk, Except.toBool]

/-- The books of every authorizer agree with the events, and a token carries the
provenance of the authorizer that issued it. -/
structure Inv (w : AuthorizerWorld) : Prop where
  created : ∀ e ∈ w.events, e.authorizer < w.authorizers.length
  issuer : ∀ e ∈ w.events, ∀ t, e.issued = some t → t.provenance = e.authorizer
  ledger : ∀ i s, w.authorizers[i]? = some s →
    Ledger i s (accepted i w.events) (issued i w.events)
  order : ∀ i, Order (accepted i w.events) (issued i w.events)

theorem Ledger.new {manifest : CapabilityManifest}
    (h : new i manifest = .ok s) : Ledger i s [] [] := by
  obtain ⟨hvalid, rfl⟩ := new_ok_iff.mp h
  exact {
    valid := hvalid
    provenance := rfl
    counted := by simp [callsFor]
    budget := by simp [callsFor]
    issuedIds := rfl
    seen := by simp
    fresh := by simp
    completed := by simp
    oneResult := by simp
    requested := by simp
    oneCancellation := by simp
    cancelled := by simp
    localTokens := by simp }

theorem accepted_unborn {n : ℕ} {events : List AuthorizerEvent}
    (h : ∀ e ∈ events, e.authorizer < n) : accepted n events = [] ∧ issued n events = [] := by
  simp only [accepted, issued, filterMap_eq_nil_iff]
  constructor
  · intro e he
    exact if_neg fun hn => (h e he).ne hn.1
  · intro e he
    exact if_neg (h e he).ne

theorem Inv.create {manifest : CapabilityManifest}
    (h : Inv w) (hs : new w.authorizers.length manifest = .ok s) :
    Inv ⟨w.authorizers ++ [s], w.events⟩ where
  created e he := by
    simpa using (h.created e he).trans (Nat.lt_succ_self _)
  issuer := h.issuer
  ledger i s' hi := by
    rw [getElem?_append] at hi
    split_ifs at hi with hlt
    · exact h.ledger i s' hi
    · obtain ⟨hi0, rfl⟩ : i - w.authorizers.length = 0 ∧ s = s' := by
        simpa [getElem?_singleton] using hi
      obtain rfl : i = w.authorizers.length := by omega
      obtain ⟨hacc, hiss⟩ := accepted_unborn h.created
      simpa only [hacc, hiss] using Ledger.new hs
  order := h.order

/-- A token that some authorizer issued and that this one takes as its own is one
that this one issued. -/
theorem Inv.token_issued (h : Inv w) {t : Token}
    (hpool : ∃ e ∈ w.events, e.issued = some t) (ht : t.provenance = i) :
    t ∈ issued i w.events := by
  obtain ⟨e, he, het⟩ := hpool
  have hi : e.authorizer = i := (h.issuer e he t het).symm.trans ht
  exact mem_filterMap.mpr ⟨e, he, by rw [AuthorizerEvent.issuedBy, if_pos hi, het]⟩

theorem Inv.refused (h : Inv w) {e : ProtocolError} (hs : w.authorizers[i]? = some s) :
    Inv ⟨w.authorizers.set i s, ⟨i, c, .error e⟩ :: w.events⟩ := by
  have hset : w.authorizers.set i s = w.authorizers := by
    obtain ⟨hlt, rfl⟩ := List.getElem?_eq_some_iff.mp hs
    exact set_getElem_self hlt
  rw [hset]
  constructor
  · intro e' he'
    rcases mem_cons.mp he' with rfl | he'
    · exact (List.getElem?_eq_some_iff.mp hs).1
    · exact h.created e' he'
  · intro e' he' t ht
    rcases mem_cons.mp he' with rfl | he'
    · simp [AuthorizerEvent.issued] at ht
    · exact h.issuer e' he' t ht
  · intro j s' hj
    obtain ⟨hacc, hiss⟩ := accepted_refused j i c e w.events
    rw [hacc, hiss]
    exact h.ledger j s' hj
  · intro j
    obtain ⟨hacc, hiss⟩ := accepted_refused j i c e w.events
    rw [hacc, hiss]
    exact h.order j

theorem Inv.call [Blake3] (h : Inv w) {s s' : SessionAuthorizer} (hs : w.authorizers[i]? = some s)
    (hpool : ∀ t, c.token = some t → ∃ e ∈ w.events, e.issued = some t)
    (hrun : c.run.Returns s o s') :
    Inv ⟨w.authorizers.set i s', ⟨i, c, .ok o⟩ :: w.events⟩ := by
  have hledger := h.ledger i s hs
  have heff := AuthorizerCall.run_effect hrun
  have htoken : ∀ t, c.token = some t → t ∈ issued i w.events := fun t ht =>
    h.token_issued (hpool t ht) ((heff.localToken t ht).trans hledger.provenance)
  constructor
  · intro e he
    rw [length_set]
    rcases mem_cons.mp he with rfl | he
    · exact (List.getElem?_eq_some_iff.mp hs).1
    · exact h.created e he
  · intro e he t ht
    rcases mem_cons.mp he with rfl | he
    · exact (heff.issuedHere t (by simpa [AuthorizerEvent.issued] using ht)).trans
        hledger.provenance
    · exact h.issuer e he t ht
  · intro j s₁ hj
    by_cases hij : i = j
    · subst hij
      obtain rfl : s' = s₁ := by
        have hlt := (List.getElem?_eq_some_iff.mp hs).1
        simpa [getElem?_set, hlt] using hj
      rw [accepted_cons, issued_cons]
      exact hledger.extend heff htoken
    · obtain ⟨hacc, hiss⟩ := accepted_other hij c (.ok o) w.events
      rw [hacc, hiss]
      exact h.ledger j s₁ (by simpa [getElem?_set, hij] using hj)
  · intro j
    by_cases hij : i = j
    · subst hij
      rw [accepted_cons, issued_cons]
      exact Order.extend hledger (h.order i) hrun htoken
    · obtain ⟨hacc, hiss⟩ := accepted_other hij c (.ok o) w.events
      rw [hacc, hiss]
      exact h.order j

theorem inv_reachable [Blake3] (h : w.Reachable) : Inv w := by
  induction h with
  | refl =>
    exact {
      created := by simp
      issuer := by simp
      ledger := by simp
      order := fun i => ⟨by simp [issued], by simp [accepted], each_nil _⟩ }
  | tail _ hstep ih =>
    cases hstep with
    | create hs => exact ih.create hs
    | @call i s r s' c hs hpool hrun =>
      cases r with
      | error e =>
        obtain rfl : s' = s := AuthorizerCall.run_keepsOnError c s e s' hrun
        exact ih.refused hs
      | ok o => exact ih.call hs hpool hrun

/-- What an authorizer's books owe to the calls it accepted, newest first. -/
structure Accounting (i : ℕ) (s : SessionAuthorizer) (events : List AuthorizerEvent) : Prop where
  calls : ∀ tool, (s.callsFor tool).toNat =
    ((accepted i events).filterMap AuthorizerCall.charges).count tool
  maxCalls : ∀ g ∈ s.manifest.grants, s.callsFor g.tool ≤ g.maxCalls
  freshIds : ((accepted i events).filterMap AuthorizerCall.requestId).Nodup
  oneResultPerToken : ((accepted i events).filterMap AuthorizerCall.resultOf).Nodup
  noResultAfterAcknowledged : ∀ later t r earlier,
    accepted i events = later ++ .validateResult t r :: earlier →
    ∀ t' r', .validateCancellationResult t' r' ∈ earlier → r'.outcome = .acknowledged →
      r'.requestId ≠ r.requestId
  noAnswerAfterResult : ∀ later t r earlier,
    accepted i events = later ++ .validateCancellationResult t r :: earlier →
    r.outcome = .acknowledged ∨ r.outcome = .unsupported →
    ∀ t' r', .validateResult t' r' ∈ earlier → r'.requestId ≠ r.requestId
  tooLateAfterResult : ∀ later t r earlier,
    accepted i events = later ++ .validateCancellationResult t r :: earlier →
    r.outcome = .tooLate →
    ∃ t' r', .validateResult t' r' ∈ earlier ∧ r'.requestId = r.requestId
  oneCancellationPerTarget : ((accepted i events).filterMap AuthorizerCall.cancels).Nodup
  ownTokens : ∀ c ∈ accepted i events, ∀ t, c.token = some t → t ∈ issued i events

/-- In every state that any sequence of calls reaches, the authorizer's counters and
sets account for exactly the calls it accepted. -/
theorem reachable_accounting [Blake3] {w : AuthorizerWorld} (h : w.Reachable) {i : ℕ}
    {s : SessionAuthorizer} (hs : w.authorizers[i]? = some s) : Accounting i s w.events := by
  have hinv := inv_reachable h
  have hledger := hinv.ledger i s hs
  have horder := (hinv.order i).order
  exact {
    calls := hledger.counted
    maxCalls := fun g hg => hledger.budget g.tool g (hledger.valid.grantFor_mem hg)
    freshIds := hledger.fresh
    oneResultPerToken := hledger.oneResult.of_map
    noResultAfterAcknowledged := by
      intro later t r earlier hl t' r' hr' hack hid
      refine horder later _ earlier hl (mem_filterMap.mpr ⟨_, hr', ?_⟩)
      simp [AuthorizerCall.acknowledges, hack, hid]
    noAnswerAfterResult := by
      intro later t r earlier hl hout t' r' hr' hid
      have htooLate : r.outcome = .tooLate := (horder later _ earlier hl).mpr ⟨t', r', hr', hid⟩
      rcases hout with hout | hout <;> simp [hout] at htooLate
    tooLateAfterResult := fun later _ _ earlier hl hout => (horder later _ earlier hl).mp hout
    oneCancellationPerTarget := hledger.oneCancellation
    ownTokens := hledger.localTokens }

/-- Creates an authorizer, if its manifest is valid. -/
def create (w : AuthorizerWorld) (manifest : CapabilityManifest) : AuthorizerWorld :=
  match new w.authorizers.length manifest with
  | .ok s => ⟨w.authorizers ++ [s], w.events⟩
  | .error _ => w

/-- Calls authorizer `i`. -/
def perform [Blake3] (w : AuthorizerWorld) (i : ℕ) (c : AuthorizerCall) : AuthorizerWorld :=
  match w.authorizers[i]? with
  | some s => ⟨w.authorizers.set i (c.run s).2, ⟨i, c, (c.run s).1⟩ :: w.events⟩
  | none => w

theorem Reachable.create [Blake3] (h : w.Reachable)
    (manifest : CapabilityManifest) : (w.create manifest).Reachable := by
  unfold AuthorizerWorld.create
  split
  · next s hs => exact h.tail (.create hs)
  · exact h

theorem Reachable.perform [Blake3] (h : w.Reachable) (i : ℕ)
    (hpool : c.token = none ∨ ∃ e ∈ w.events, e.issued = c.token) :
    (w.perform i c).Reachable := by
  unfold AuthorizerWorld.perform
  split
  · next s hs =>
    refine h.tail (.call c hs (fun t ht => ?_) rfl)
    rw [ht] at hpool
    simpa using hpool
  · exact h

/-- One authorizer, one invocation, its cancellation, its result, and the answer
that the cancellation came too late. -/
def lateCancellation [Blake3] : AuthorizerWorld :=
  let invocation : ToolInvocation := ⟨5, "session", "call-1", "echo", .text "hello"⟩
  let request : WorkerCancellationRequest := ⟨5, "session", "stop-1", "call-1", "echo"⟩
  let target : AuthorizedInvocation := ⟨invocation, .text "echo", 0⟩
  ((((AuthorizerWorld.mk [] []).create ⟨5, "session", [.text "echo"]⟩).perform 0
    (.authorize invocation)).perform 0
    (.authorizeCancellation request target)).perform 0
    (.validateResult target ⟨5, "session", "call-1", .text "hello"⟩) |>.perform 0
    (.validateCancellationResult ⟨request, invocation, 0⟩
      ⟨5, "session", "stop-1", "call-1", "echo", .tooLate⟩)

theorem lateCancellation_accounting :
    ∃ (_ : Blake3) (s : SessionAuthorizer), lateCancellation.authorizers[0]? = some s ∧
      (accepted 0 lateCancellation.events).length = 4 ∧
        Accounting 0 s lateCancellation.events := by
  let digest : Digest := ⟨replicate 32 0, rfl⟩
  let _ : Blake3 := ⟨fun _ => digest, fun _ _ => digest⟩
  have h : Reachable lateCancellation := by
    unfold lateCancellation
    refine Reachable.perform (Reachable.perform (Reachable.perform (Reachable.perform
      (Reachable.create .refl _) 0 ?_) 0 ?_) 0 ?_) 0 ?_
    · decide +kernel
    · decide +kernel
    · decide +kernel
    · decide +kernel
  obtain ⟨s, hs⟩ : ∃ s, lateCancellation.authorizers[0]? = some s :=
    Option.isSome_iff_exists.mp (by decide +kernel)
  exact ⟨_, s, hs, by decide +kernel, reachable_accounting h hs⟩

end AuthorizerWorld

end Octoscript
