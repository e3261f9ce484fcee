import Octoscript.Capabilities.Reservation

namespace Octoscript
open Effectful

namespace CapabilityHost
variable {ε α : Type} {k k' : CapabilityHost} {t : List (Said HostOp HostOp.Answer)}

section
variable [JsonReader] [Blake3] {G : Guarantee HostOp HostOp.Answer CapabilityHost} [Minds G]
  (hissues : ∀ {k t ticket k'}, Issues k t ticket k' → G.rel k t k')
variable {name input : String} {expectedFormat : Option ToolDataFormat}
include hissues

theorem obeys_reserve
    {kind : ToolInvocationKind} : Obeys G (reserve name input expectedFormat kind) k := by
  intro t r k' h
  rcases says_reserve (G := G) h with ⟨_, _, hrel⟩ | ⟨_, _, hrel, _⟩
  · exact hrel
  · exact hissues hrel

theorem obeys_call :
    Obeys G (call name input expectedFormat) k := by
  apply obeys_bind (obeys_reserve hissues)
  intro _ _ _ _
  apply obeys_bind minds_execute
  intro _ _ _ _
  exact obeys_check _

theorem obeys_beginAsync {maxPending : ℕ}
    :
    Obeys G (beginAsync name input maxPending expectedFormat) k := by
  apply obeys_self_bind
  by_cases h : k.pending.size ≥ maxPending
  · rw [if_pos h]
    exact minds_refuseDeferred
  · rw [if_neg h]
    apply obeys_bind minds_allocatePendingId
    intro _ _ _ _
    apply obeys_bind (obeys_reserve hissues)
    intro _ _ _ _
    exact obeys_self_bind (obeys_pure _)

end

theorem says_register {policy : ToolPolicy} {metadata : ToolMetadata}
    {inputValidator outputValidator : Option ToolValidator} {dispatch : ToolDispatch}
    {r : Except ToolRegistrationError Unit}
    (h : (register policy metadata inputValidator outputValidator dispatch).Says k t r k') :
    t = [] ∧ (k' = k ∨ k.activeLease = none ∧ policy.name ∉ k.tools ∧
      ∃ registered : RegisteredTool, registered.calls = 0 ∧
        k' = { k with tools := k.tools.insert policy.name registered }) := by
  simp only [register, says_self_bind, says_check_bind, says_assign] at h
  rcases h with ⟨_, _, rfl, _, rfl⟩ | ⟨_, hact, h⟩
  · exact ⟨rfl, .inl rfl⟩
  rcases h with ⟨_, _, rfl, _, rfl⟩ | ⟨_, _, h⟩
  · exact ⟨rfl, .inl rfl⟩
  rcases h with ⟨_, _, rfl, _, rfl⟩ | ⟨_, _, h⟩
  · exact ⟨rfl, .inl rfl⟩
  rcases h with ⟨_, _, rfl, _, rfl⟩ | ⟨_, _, h⟩
  · exact ⟨rfl, .inl rfl⟩
  rcases h with ⟨_, _, rfl, _, rfl⟩ | ⟨_, _, h⟩
  · exact ⟨rfl, .inl rfl⟩
  rcases h with ⟨_, _, rfl, _, rfl⟩ | ⟨_, hnew, h⟩
  · exact ⟨rfl, .inl rfl⟩
  rcases h with ⟨_, _, rfl, _, rfl⟩ | ⟨_, _, rfl, _, rfl⟩
  · exact ⟨rfl, .inl rfl⟩
  rw [Except.rejectIf_ok_iff] at hact hnew
  exact ⟨rfl, .inr ⟨by simpa using hact, hnew, _, rfl, rfl⟩⟩

theorem says_setExternalStreamRedactor {name : String} {r : Except StreamConfigurationError Unit}
    (h : (setExternalStreamRedactor name).Says k t r k') :
    t = [] ∧ (k' = k ∨ ∃ registered, k.tools[name]? = some registered ∧
      k' = { k with tools := k.tools.insert name { registered with hasStreamRedactor := true } }) := by
  simp only [setExternalStreamRedactor, says_self_bind, says_check_bind, says_assign] at h
  rcases h with ⟨_, _, rfl, _, rfl⟩ | ⟨registered, hreg, h⟩
  · exact ⟨rfl, .inl rfl⟩
  rcases h with ⟨_, _, rfl, _, rfl⟩ | ⟨_, _, h⟩
  · exact ⟨rfl, .inl rfl⟩
  rcases h with ⟨_, _, rfl, _, rfl⟩ | ⟨_, _, h⟩
  · exact ⟨rfl, .inl rfl⟩
  rcases h with ⟨_, _, rfl, _, rfl⟩ | ⟨_, _, rfl, _, rfl⟩
  · exact ⟨rfl, .inl rfl⟩
  exact ⟨rfl, .inr ⟨registered, Option.okOr_ok_iff.mp hreg, rfl⟩⟩

section
variable [Blake3]

theorem says_issueCapabilityLease {grants : List CapabilityLeaseGrant} {hasAuthorizer : Bool}
    {r : Except CapabilityLeaseError ℕ}
    (h : (issueCapabilityLease grants hasAuthorizer).Says k t r k') :
    t = [] ∧ (k' = k ∨ ∃ lease : CapabilityLeaseState, lease.calls = ∅ ∧
      k' = { k with leases := k.leases ++ [lease] }) := by
  simp only [issueCapabilityLease, says_self_bind, says_check_bind, says_assign_bind, says_pure] at h
  rcases h with ⟨_, _, rfl, _, rfl⟩ | ⟨_, _, h⟩
  · exact ⟨rfl, .inl rfl⟩
  rcases h with ⟨_, _, rfl, _, rfl⟩ | ⟨_, _, rfl, _, rfl⟩
  · exact ⟨rfl, .inl rfl⟩
  · exact ⟨rfl, .inr ⟨_, rfl, rfl⟩⟩

theorem says_activateCapabilityLease {lease : ℕ} {r : Except CapabilityLeaseError Unit}
    (h : (activateCapabilityLease lease).Says k t r k') :
    t = [] ∧ (k' = k ∧ (∃ e, r = .error e) ∨ k' = { k with activeLease := some lease }) := by
  simp only [activateCapabilityLease, says_self_bind, says_check_bind, says_assign] at h
  rcases h with ⟨e, _, rfl, rfl, rfl⟩ | ⟨_, _, h⟩
  · exact ⟨rfl, .inl ⟨rfl, e, rfl⟩⟩
  rcases h with ⟨e, _, rfl, rfl, rfl⟩ | ⟨_, _, rfl, _, rfl⟩
  · exact ⟨rfl, .inl ⟨rfl, e, rfl⟩⟩
  · exact ⟨rfl, .inr rfl⟩

end

/-- The guarantees that hold of every call but a registration and a reservation. -/
class Admits (G : Guarantee HostOp HostOp.Answer CapabilityHost) : Prop extends Minds G where
  activeLease : ∀ {k : CapabilityHost} {activeLease : Option ℕ}, G.rel k [] { k with activeLease }
  material : ∀ {k : CapabilityHost} {material : Wire.Bytes},
    G.rel k [] { k with directModuleMaterial := material }
  redactor : ∀ {k : CapabilityHost} {name registered}, k.tools[name]? = some registered → G.rel k []
    { k with tools := k.tools.insert name { registered with hasStreamRedactor := true } }
  lease : ∀ {k : CapabilityHost} {lease : CapabilityLeaseState}, lease.calls = ∅ →
    G.rel k [] { k with leases := k.leases ++ [lease] }

end CapabilityHost

namespace CapabilityRuntime
open CapabilityHost
variable {ε α : Type} {k k' : CapabilityRuntime} {t : List (Said HostOp HostOp.Answer)}
  {G : Guarantee HostOp HostOp.Answer CapabilityHost}

/-- A guarantee about the host of a runtime. -/
def hostGuarantee (G : Guarantee HostOp HostOp.Answer CapabilityHost) :
    Guarantee HostOp HostOp.Answer CapabilityRuntime where
  rel k t k' := G.rel k.host t k'.host
  refl k := G.refl k.host
  trans := G.trans

theorem says_onHost {wrap : ε → RuntimeCallError} {x : CapabilityHost.Call ε α}
    {r : Except RuntimeCallError α} (h : (onHost wrap x).Says k t r k') :
    ∃ r' host, x.Says k.host t r' host ∧ r = r'.mapError wrap ∧ k' = { k with host } := by
  obtain ⟨r', hzoom, hr⟩ := says_mapErr.mp h
  obtain ⟨host, hx, hk'⟩ := says_zoom.mp hzoom
  exact ⟨r', host, hx, hr, hk'⟩

theorem obeys_onHost {wrap : ε → RuntimeCallError} {x : CapabilityHost.Call ε α}
    (h : Obeys G x k.host) : Obeys (hostGuarantee G) (onHost wrap x) k := by
  intro t r k' hsays
  obtain ⟨_, host, hhost, _, rfl⟩ := says_onHost hsays
  exact h hhost

theorem obeys_setScript {script : ScriptStatus} : Obeys (hostGuarantee G) (setScript script) k :=
  obeys_self_bind (obeys_assign (G.refl _))

theorem obeys_sealCatalog : Obeys (hostGuarantee G) sealCatalog k :=
  obeys_self_bind (obeys_assign (G.refl _))

section
variable [Admits G]

theorem obeys_clearActiveCapabilityLease : Obeys (hostGuarantee G) clearActiveCapabilityLease k :=
  obeys_onHost (obeys_self_bind (obeys_assign Admits.activeLease))

theorem obeys_evaluate {clearsLease : Bool} : Obeys (hostGuarantee G) (evaluate clearsLease) k := by
  apply obeys_self_bind
  by_cases h : k.script = .paused
  · rw [if_pos h]
    exact obeys_fail _
  · rw [if_neg h]
    apply obeys_perform_bind
    · exact fun a => Minds.said a (by simp) (by simp)
    · rintro (_ | thread)
      · exact obeys_fail _
      · exact obeys_setScript

theorem obeys_evalWithCapabilityLease [Blake3] {lease : ℕ} :
    Obeys (hostGuarantee G) (evalWithCapabilityLease lease) k := by
  apply obeys_bind
  · apply obeys_onHost
    intro t r k' hsays
    obtain ⟨rfl, ⟨rfl, _⟩ | rfl⟩ := says_activateCapabilityLease hsays
    · exact G.refl _
    · exact Admits.activeLease
  intro _ _ _ _
  apply obeys_bind obeys_sealCatalog
  intro _ _ _ _
  apply obeys_bind (obeys_attempt obeys_evaluate)
  rintro _ (error | _) _ _
  · exact obeys_bind obeys_clearActiveCapabilityLease fun _ _ _ _ => obeys_fail _
  · exact obeys_pure _

theorem obeys_resumePendingEvaluation {thread : ScriptThreadId} :
    Obeys (hostGuarantee G) (resumePendingEvaluation thread) k := by
  apply obeys_perform_bind
  · exact fun a => Minds.said a (by simp) (by simp)
  · rintro (_ | _)
    · exact obeys_bind obeys_clearActiveCapabilityLease fun _ _ _ _ => obeys_fail _
    · exact obeys_setScript

theorem obeys_resumeCompletion {completion : PendingCompletion} :
    Obeys (hostGuarantee G) (resumeCompletion completion) k := by
  unfold resumeCompletion
  cases completion.waitingThread with
  | none => exact obeys_pure _
  | some thread => exact obeys_resumePendingEvaluation

theorem obeys_resolveExternal {x : CapabilityHost.Call ExternalToolError PendingCompletion}
    (h : Obeys G x k.host) : Obeys (hostGuarantee G) (resolveExternal x) k := by
  apply obeys_bind (obeys_onHost h)
  intro _ _ _ _
  exact obeys_bind obeys_resumeCompletion fun _ _ _ _ => obeys_pure _

theorem obeys_finish {suspended clearsLease : Bool} :
    Obeys (hostGuarantee G) (finish suspended clearsLease) k := by
  unfold finish
  cases suspended with
  | true => exact obeys_setScript
  | false =>
    apply obeys_bind obeys_setScript
    intro _ _ _ _
    cases clearsLease with
    | true => exact obeys_clearActiveCapabilityLease
    | false => exact obeys_pure _

end

theorem minds_gcPromise [Minds G] (host : CapabilityHost) (handle : ScriptHandle) :
    G.rel host [] (host.gcPromise handle) := by
  unfold gcPromise
  split
  · exact G.refl host
  next entry hentry =>
    split
    · exact Minds.update hentry rfl rfl
    · exact Minds.update hentry rfl rfl
    · exact Minds.drop
    · exact Minds.drop
    · exact Minds.drop

/-- A sweep marks and drops records of deferred calls, one after the other. -/
theorem minds_sweep [Minds G] (reachable : ℕ → Bool) (heap : HandleHeap) (host : CapabilityHost) :
    G.rel host [] (heap.sweep reachable host).2 := by
  unfold HandleHeap.sweep
  generalize List.range' 1 (heap.slots.length - 1) = indices
  suffices h : ∀ state : HandleHeap × CapabilityHost,
      G.rel state.2 [] (indices.foldl (HandleHeap.sweepSlot reachable) state).2 from h (heap, host)
  induction indices with
  | nil => exact fun state => G.refl state.2
  | cons index indices ih =>
    intro state
    rw [List.foldl_cons]
    refine G.trans (t := []) ?_ (ih (HandleHeap.sweepSlot reachable state index))
    unfold HandleHeap.sweepSlot
    split
    · split
      · exact G.refl state.2
      · exact minds_gcPromise state.2 _
    · exact G.refl state.2
    · exact G.refl state.2

section
variable [JsonReader] [Blake3] [Admits G]

/-- A call of the host that is not a registration. -/
theorem obeys_serveHost {call : RuntimeCall} (hcall : ∀ policy metadata inputValidator
      outputValidator dispatch,
      call ≠ .register policy metadata inputValidator outputValidator dispatch) :
    Obeys (hostGuarantee G) (serveHost call) k := by
  cases call with
  | register policy metadata inputValidator outputValidator dispatch =>
    exact absurd rfl (hcall policy metadata inputValidator outputValidator dispatch)
  | setExternalStreamRedactor name =>
    apply obeys_bind_pure
    apply obeys_onHost
    intro t r k' hsays
    obtain ⟨rfl, rfl | ⟨registered, htool, rfl⟩⟩ := says_setExternalStreamRedactor hsays
    · exact G.refl _
    · exact Admits.redactor htool
  | registerCapabilityModule material =>
    apply obeys_self_bind
    apply obeys_check_bind
    intro _ _
    exact obeys_assign_bind Admits.material (obeys_pure _)
  | issueCapabilityLease grants hasAuthorizer =>
    refine obeys_bind (obeys_onHost ?_) fun _ _ _ _ =>
      obeys_bind obeys_sealCatalog fun _ _ _ _ => obeys_pure _
    intro t r k' hsays
    obtain ⟨rfl, rfl | ⟨lease, hcalls, rfl⟩⟩ := says_issueCapabilityLease hsays
    · exact G.refl _
    · exact Admits.lease hcalls
  | issueFullCapabilityLease =>
    refine obeys_bind (obeys_onHost (obeys_self_bind ?_)) fun _ _ _ _ =>
      obeys_bind obeys_sealCatalog fun _ _ _ _ => obeys_pure _
    intro t r k' hsays
    obtain ⟨rfl, rfl | ⟨lease, hcalls, rfl⟩⟩ := says_issueCapabilityLease hsays
    · exact G.refl _
    · exact Admits.lease hcalls
  | eval =>
    refine obeys_bind ?_ fun _ _ _ _ => obeys_pure _
    exact obeys_bind obeys_sealCatalog fun _ _ _ _ => obeys_evaluate
  | evalWithCapabilityLease lease =>
    exact obeys_bind obeys_evalWithCapabilityLease fun _ _ _ _ => obeys_pure _
  | script action => exact obeys_fail _
  | finish suspended => exact obeys_fail _
  | pump =>
    apply obeys_bind (obeys_onHost minds_runNextPending)
    rintro _ (_ | completion) _ _
    · exact obeys_pure _
    · exact obeys_bind obeys_resumeCompletion fun _ _ _ _ => obeys_pure _
  | expireTimedOutTools maxExpirations =>
    refine obeys_perform_bind (fun a => Minds.said a (by simp) (by simp)) fun _ => obeys_bind_pure ?_
    exact obeys_onHost (obeys_self_bind minds_expireAll)
  | resumePendingEvaluation thread =>
    exact obeys_bind obeys_resumePendingEvaluation fun _ _ _ _ => obeys_pure _
  | collectGarbage reachable =>
    apply obeys_self_bind
    exact obeys_assign_bind (minds_sweep reachable k.heap k.host) (obeys_pure _)
  | claimNextExternalTool => exact obeys_bind_pure (obeys_onHost minds_claimNextExternal)
  | claimExternalTool id => exact obeys_bind_pure (obeys_onHost minds_claimExternal)
  | validateClaimedExternalTool id =>
    exact obeys_bind_pure (obeys_onHost minds_validateClaimedExternal)
  | externalReconcileRequest id sessionId requestId =>
    exact obeys_bind_pure (obeys_onHost minds_externalReconcileRequest)
  | reconcileExternalTool id request result =>
    apply obeys_bind (obeys_onHost minds_reconcileExternal)
    rintro _ (_ | completion) _ _
    · exact obeys_pure _
    · exact obeys_bind obeys_resumeCompletion fun _ _ _ _ => obeys_pure _
  | requestExternalToolCancellation id =>
    exact obeys_bind_pure (obeys_onHost minds_requestExternalCancellation)
  | retryExternalTool id retryClass => exact obeys_bind_pure (obeys_onHost minds_retryExternal)
  | pushExternalToolChunk id chunk =>
    exact obeys_bind_pure (obeys_onHost minds_pushExternalStreamChunk)
  | completeExternalTool id result => exact obeys_resolveExternal minds_completeExternal
  | confirmExternalToolCancellation id =>
    exact obeys_resolveExternal minds_confirmExternalCancellation
  | cancelExternalTool id => exact obeys_resolveExternal minds_completeExternal

end

section
variable [JsonReader] [Blake3]

/-- An action of a running script. -/
theorem obeys_runAction [Minds G] (hissues : ∀ {k t ticket k'}, Issues k t ticket k' → G.rel k t k')
    (hinsert : ∀ {k : CapabilityHost} {handle id ticket key},
      Obeys G (insertPending handle id ticket key : CapabilityHost.Call ExternalToolError Unit) k)
    {thread : ScriptThreadId} {action : ScriptAction} : Obeys (hostGuarantee G) (runAction thread action) k := by
  cases action with
  | call name input expectedFormat =>
    exact obeys_bind_pure (obeys_onHost (obeys_call hissues))
  | start name input expectedFormat =>
    apply obeys_self_bind
    apply obeys_bind (obeys_onHost (obeys_beginAsync hissues))
    rintro _ ⟨ticket, id, key⟩ _ _
    refine obeys_bind_pure (obeys_self_bind (obeys_assign_bind (G.refl _) ?_))
    exact obeys_bind_pure (obeys_onHost hinsert)
  | await handle =>
    exact obeys_bind_pure (obeys_onHost minds_awaitPromise)

/-- What a call can do. -/
theorem serve_cases {call : RuntimeCall} {r : Except RuntimeCallError RuntimeReply}
    (h : (serve call).Says k t r k') :
    (∃ thread action, (runAction thread action).Says k t r k') ∨
      (∃ suspended clearsLease,
        (finish suspended clearsLease >>= fun _ => pure .done : Call RuntimeReply).Says k t r k') ∨
      (t = [] ∧ k' = k) ∨ (serveHost call).Says k t r k' := by
  unfold serve at h
  rw [says_self_bind] at h
  cases hscript : k.script with
  | idle =>
    simp only [hscript] at h
    exact .inr (.inr (.inr h))
  | paused =>
    simp only [hscript] at h
    exact .inr (.inr (.inr h))
  | running thread clearsLease =>
    simp only [hscript] at h
    cases call with
    | script action => exact .inl ⟨thread, action, h⟩
    | finish suspended => exact .inr (.inl ⟨suspended, clearsLease, h⟩)
    | _ =>
      obtain ⟨rfl, _, rfl⟩ := says_fail.mp h
      exact .inr (.inr (.inl ⟨rfl, rfl⟩))

/-- A registration, while no script runs. -/
theorem says_serveHost_register {policy : ToolPolicy} {metadata : ToolMetadata}
    {inputValidator outputValidator : Option ToolValidator} {dispatch : ToolDispatch}
    {r : Except RuntimeCallError RuntimeReply}
    (h : (serveHost (.register policy metadata inputValidator outputValidator dispatch)).Says
      k t r k') :
    t = [] ∧ (k'.host = k.host ∨ k.host.activeLease = none ∧ policy.name ∉ k.host.tools ∧
      ∃ registered : RegisteredTool, registered.calls = 0 ∧
        k'.host = { k.host with tools := k.host.tools.insert policy.name registered }) := by
  unfold serveHost at h
  obtain ⟨_, honHost, _⟩ := says_bind_pure.mp h
  obtain ⟨_, host, hreg, _, rfl⟩ := says_onHost honHost
  exact says_register hreg

end

end CapabilityRuntime

end Octoscript
