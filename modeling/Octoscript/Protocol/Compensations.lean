import Octoscript.Protocol.Accounting
import Octoscript.Protocol.CanonicalInput

namespace Octoscript
open Wire AuthorizerCall CompensationRequestIdentity SessionAuthorizer

namespace AuthorizerCall

/-- The request, if the call asks for a compensation. -/
def compensates : AuthorizerCall → Option OperationCompensationRequest
  | .authorizeCompensation request => some request
  | .authorize _ | .authorizeCancellation _ _ | .authorizeOperation _ | .authorizeReconciliation _
  | .validateResult _ _ | .validateCancellationResult _ _ | .validateOperationResult _ _
  | .validateReconciliationResult _ _ | .validateCompensationResult _ _ => none

/-- What a compensation request is counted as. -/
def identity [Blake3] (c : AuthorizerCall) : Option CompensationRequestIdentity :=
  c.compensates.bind fun request => (fromRequest request).toOption

/-- What an accepted call does to the compensation books. -/
structure CompensationEffect [Blake3] (c : AuthorizerCall) (s s' : SessionAuthorizer) : Prop where
  named : ∀ r, c.compensates = some r → ∃ x, fromRequest r = .ok x
  identities : s'.compensationIdentities = s.compensationIdentities ∪ c.identity.toFinset
  budget : ∀ identity, c.identity = some identity → identity ∉ s.compensationIdentities →
    ∃ g, s.manifest.grantFor identity.tool = some g ∧
      s.compensationsFor identity.tool < g.maxCompensations ∧
      s'.compensationsByTool = s.compensationsByTool.insert identity.tool
        (s.compensationsFor identity.tool).saturatingSucc
  repeated : (∀ identity, c.identity = some identity → identity ∈ s.compensationIdentities) →
    s'.compensationsByTool = s.compensationsByTool

variable {s s' : SessionAuthorizer}

theorem compensationEffect_of_keeps [Blake3] {c : AuthorizerCall} (hc : c.compensates = none)
    (hidentities : s'.compensationIdentities = s.compensationIdentities)
    (hcounts : s'.compensationsByTool = s.compensationsByTool) : c.CompensationEffect s s' where
  named := by simp [hc]
  identities := by simp [identity, hc, hidentities]
  budget := by simp [identity, hc]
  repeated _ := hcounts

theorem run_compensation [Blake3] {request : OperationCompensationRequest}
    {t : AuthorizedOperationCompensation}
    (h : (SessionAuthorizer.authorizeCompensation request).Returns s t s') :
    (authorizeCompensation request).CompensationEffect s s' := by
  obtain ⟨_, _, hgrant, known, hknown, hs⟩ := returns_authorizeCompensation h
  have hidentity : (authorizeCompensation request).identity = some known := by
    simp [identity, compensates, hknown, Except.toOption]
  have htool : known.tool = request.tool := by
    obtain ⟨_, _, heq⟩ := Except.bind_ok_iff.mp hknown
    rw [← Except.ok.inj heq]
  have hgrantTool := CapabilityManifest.tool_of_grantFor hgrant
  have hnamed : ∀ r, (authorizeCompensation request).compensates = some r →
      ∃ x, fromRequest r = .ok x := by
    intro r hr
    obtain rfl : request = r := Option.some.inj hr
    exact ⟨known, hknown⟩
  obtain ⟨hmem, rfl⟩ | ⟨hnew, hroom, rfl⟩ := hs
  · exact {
      named := hnamed
      identities := by simp [hidentity, hmem]
      budget := by simp [hidentity, hmem]
      repeated := fun _ => rfl }
  · exact {
      named := hnamed
      identities := by simp [hidentity]
      budget := by
        intro identity' heq _
        obtain rfl : known = identity' := Option.some.inj (hidentity.symm.trans heq)
        rw [htool]
        exact ⟨_, hgrant, hgrantTool ▸ hroom, by rw [← hgrantTool]; rfl⟩
      repeated := fun hall => absurd (hall known hidentity) hnew }

theorem run_compensationEffect [Blake3] {c : AuthorizerCall} {o : Option Token}
    (h : c.run.Returns s o s') : c.CompensationEffect s s' := by
  cases c with
  | authorize invocation =>
    simp only [run, Mut.returns_bind, Mut.returns_pure] at h
    obtain ⟨t, _, h, rfl, rfl⟩ := h
    obtain ⟨_, hpay, _⟩ := returns_authorize.mp h
    obtain ⟨_, _, _, _, _, _, rfl⟩ := returns_authorizePayload.mp hpay
    exact compensationEffect_of_keeps rfl rfl rfl
  | authorizeCancellation request target =>
    simp only [run, Mut.returns_bind, Mut.returns_pure] at h
    obtain ⟨t, _, h, rfl, rfl⟩ := h
    obtain ⟨_, _, _, _, _, rfl, _⟩ := returns_authorizeCancellation h
    exact compensationEffect_of_keeps rfl rfl rfl
  | authorizeOperation request =>
    simp only [run, Mut.returns_bind, Mut.returns_pure] at h
    obtain ⟨t, _, h, rfl, rfl⟩ := h
    obtain ⟨_, hpay, _⟩ := returns_authorizeOperation.mp h
    obtain ⟨_, _, _, _, _, _, rfl⟩ := returns_authorizePayload.mp hpay
    exact compensationEffect_of_keeps rfl rfl rfl
  | authorizeReconciliation request =>
    simp only [run, Mut.returns_bind, Mut.returns_pure] at h
    obtain ⟨t, _, h, rfl, rfl⟩ := h
    obtain ⟨_, _, _, _, _, rfl, _⟩ := returns_authorizeReconciliation.mp h
    exact compensationEffect_of_keeps rfl rfl rfl
  | authorizeCompensation request =>
    simp only [run, Mut.returns_bind, Mut.returns_pure] at h
    obtain ⟨t, _, h, rfl, rfl⟩ := h
    exact run_compensation h
  | validateResult authorized result =>
    simp only [run, Mut.returns_bind, Mut.returns_pure] at h
    obtain ⟨_, _, h, rfl, rfl⟩ := h
    obtain ⟨_, _, _, _, rfl⟩ := returns_validateResult h
    exact compensationEffect_of_keeps rfl rfl rfl
  | validateCancellationResult authorized result =>
    simp only [run, Mut.returns_bind, Mut.returns_pure] at h
    obtain ⟨_, _, h, rfl, rfl⟩ := h
    obtain ⟨_, _, _, _, rfl⟩ := returns_validateCancellationResult h
    by_cases ho : result.outcome = .acknowledged
    · rw [if_pos ho]
      exact compensationEffect_of_keeps rfl rfl rfl
    · rw [if_neg ho]
      exact compensationEffect_of_keeps rfl rfl rfl
  | validateOperationResult authorized result
  | validateReconciliationResult authorized result
  | validateCompensationResult authorized result =>
    simp only [run, Mut.returns_bind, Mut.returns_pure] at h
    obtain ⟨_, _, h, rfl, rfl⟩ := h
    obtain ⟨_, _, _, rfl⟩ := returns_validateStatus h
    exact compensationEffect_of_keeps rfl rfl rfl

end AuthorizerCall

namespace AuthorizerWorld

/-- What holds of a new authorizer and is kept by every call it accepts holds of every authorizer
and the calls it accepted so far. -/
theorem Reachable.induct [Blake3] {P : SessionAuthorizer → List AuthorizerCall → Prop}
    (hnew : ∀ i manifest s, new i manifest = .ok s → P s [])
    (hcall : ∀ s s' c o calls, P s calls → c.run.Returns s o s' → P s' (c :: calls))
    {w : AuthorizerWorld} (h : w.Reachable) :
    ∀ i s, w.authorizers[i]? = some s → P s (accepted i w.events) := by
  induction h with
  | refl => simp
  | @tail w _ hw hstep ih =>
    cases hstep with
    | @create _ created hs =>
      intro i s hi
      rw [List.getElem?_append] at hi
      split_ifs at hi with hlt
      · exact ih i s hi
      · obtain ⟨hi0, rfl⟩ : i - w.authorizers.length = 0 ∧ created = s := by
          simpa [List.getElem?_singleton] using hi
        obtain rfl : i = w.authorizers.length := by omega
        rw [(accepted_unborn (inv_reachable hw).created).1]
        exact hnew _ _ _ hs
    | @call j before r after c hs _ hrun =>
      intro i s hi
      by_cases hij : j = i
      · subst hij
        obtain rfl : after = s := by
          have hlt := (List.getElem?_eq_some_iff.mp hs).1
          simpa [List.getElem?_set, hlt] using hi
        cases r with
        | error e =>
          obtain rfl : after = before := run_keepsOnError c before e after hrun
          rw [(accepted_refused _ _ c e w.events).1]
          exact ih _ _ hs
        | ok o =>
          rw [accepted_cons]
          exact hcall _ _ _ _ _ (ih _ _ hs) hrun
      · rw [(accepted_other hij c r w.events).1]
        exact ih i s (by simpa [List.getElem?_set, hij] using hi)

/-- The compensation books agree with the calls that were accepted. -/
structure CompensationLedger [Blake3] (s : SessionAuthorizer) (calls : List AuthorizerCall) :
    Prop where
  named : ∀ r ∈ calls.filterMap compensates,
    ∃ x, fromRequest r = .ok x
  identities : ∀ x, x ∈ s.compensationIdentities ↔ x ∈ calls.filterMap identity
  counted : ∀ tool, (s.compensationsFor tool).toNat =
    (s.compensationIdentities.filter (·.tool = tool)).card
  budget : ∀ tool g, s.manifest.grantFor tool = some g →
    s.compensationsFor tool ≤ g.maxCompensations

theorem CompensationLedger.new [Blake3] {i : ℕ} {manifest : CapabilityManifest}
    {s : SessionAuthorizer} (h : new i manifest = .ok s) :
    CompensationLedger s [] := by
  obtain ⟨_, rfl⟩ := new_ok_iff.mp h
  exact {
    named := by simp
    identities := by simp
    counted := by simp [compensationsFor]
    budget := by simp [compensationsFor] }

theorem CompensationLedger.extend [Blake3] {s s' : SessionAuthorizer} {c : AuthorizerCall}
    {o : Option Token} {calls : List AuthorizerCall} (h : CompensationLedger s calls)
    (hrun : c.run.Returns s o s') : CompensationLedger s' (c :: calls) := by
  have heff := run_compensationEffect hrun
  have hman := (run_effect hrun).manifest
  have hidentities : ∀ x, x ∈ s'.compensationIdentities ↔
      x ∈ (c :: calls).filterMap identity := by
    intro x
    rw [History.filterMap_cons, heff.identities, History.mem_union_toFinset h.identities]
  have hnamed : ∀ r ∈ (c :: calls).filterMap compensates,
      ∃ x, fromRequest r = .ok x := by
    intro r hr
    rw [History.filterMap_cons, List.mem_append] at hr
    rcases hr with hr | hr
    · exact heff.named r (by simpa using hr)
    · exact h.named r hr
  by_cases hknown : ∀ x, c.identity = some x → x ∈ s.compensationIdentities
  · -- Nothing is counted that was not counted before.
    have hcounts : ∀ tool, s'.compensationsFor tool = s.compensationsFor tool := by
      intro tool
      rw [compensationsFor, heff.repeated hknown]
      rfl
    have hsame : s'.compensationIdentities = s.compensationIdentities := by
      rw [heff.identities, Finset.union_eq_left]
      intro x hx
      exact hknown x (by simpa using hx)
    refine ⟨hnamed, hidentities, fun tool => ?_, fun tool g hg => ?_⟩
    · rw [hcounts, hsame, h.counted]
    · rw [hcounts]
      exact h.budget tool g (hman ▸ hg)
  · push Not at hknown
    obtain ⟨x, hx, hfresh⟩ := hknown
    obtain ⟨g, hgrant, hroom, hbooks⟩ := heff.budget x hx hfresh
    have hset : s'.compensationIdentities = insert x s.compensationIdentities := by
      rw [heff.identities, hx, Option.toFinset_some, Finset.union_comm]
      rfl
    have hone : (s'.compensationsFor x.tool).toNat = (s.compensationsFor x.tool).toNat + 1 := by
      rw [compensationsFor, hbooks, Std.ExtTreeMap.getD_insert_self]
      exact UInt32.toNat_saturatingSucc hroom
    have hothers : ∀ tool, x.tool ≠ tool → s'.compensationsFor tool = s.compensationsFor tool := by
      intro tool hne
      rw [compensationsFor, hbooks, Std.ExtTreeMap.getD_insert]
      simp [hne, compensationsFor]
    refine ⟨hnamed, hidentities, fun tool => ?_, fun tool g' hg' => ?_⟩
    · by_cases htool : x.tool = tool
      · subst htool
        rw [hset, Finset.filter_insert, if_pos rfl, hone, h.counted,
          Finset.card_insert_of_notMem (by simp [hfresh])]
      · rw [hset, Finset.filter_insert, if_neg htool, hothers tool htool, h.counted]
    · rw [hman] at hg'
      by_cases htool : x.tool = tool
      · subst htool
        obtain rfl : g = g' := Option.some.inj (hgrant.symm.trans hg')
        rw [UInt32.le_iff_toNat_le, hone]
        exact UInt32.lt_iff_toNat_lt.mp hroom
      · rw [hothers tool htool]
        exact h.budget tool g' hg'

theorem compensationLedger_reachable [Blake3] {w : AuthorizerWorld} (h : w.Reachable) {i : ℕ}
    {s : SessionAuthorizer} (hs : w.authorizers[i]? = some s) :
    CompensationLedger s (accepted i w.events) :=
  h.induct (fun _ _ _ => CompensationLedger.new) (fun _ _ _ _ _ => CompensationLedger.extend) i s hs

end AuthorizerWorld

/-- What is hashed for the inputs of the requests. -/
def hashedInputs (requests : List OperationCompensationRequest) : Set Bytes :=
  {bytes | ∃ r ∈ requests, bytes =
    utf8 "octoscript-worker-operation-input-v1" ++ r.payload.canonicalBytes}

/-- The requests ask for the same compensation: all but their identifiers agree, the inputs up to
the order of object members. -/
structure OperationCompensationRequest.Repeats (r r' : OperationCompensationRequest) : Prop where
  tool : r.tool = r'.tool
  operationKey : r.operationKey = r'.operationKey
  compensationKey : r.compensationKey = r'.compensationKey
  tenantScope : r.tenantScope = r'.tenantScope
  grantFingerprint : r.grantFingerprint = r'.grantFingerprint
  payload : r.payload.Same r'.payload

theorem fromRequest_eq [Blake3] {r : OperationCompensationRequest}
    {x : CompensationRequestIdentity} (h : fromRequest r = .ok x) :
    x = ⟨r.tool, r.operationKey, r.compensationKey, r.tenantScope, r.grantFingerprint,
      (Blake3.hash (utf8 "octoscript-worker-operation-input-v1" ++
        r.payload.canonicalBytes)).toHex⟩ := by
  obtain ⟨fingerprint, hprint, hx⟩ := Except.bind_ok_iff.mp h
  obtain ⟨input, hinput, hhash⟩ := Except.bind_ok_iff.mp hprint
  rw [← Except.ok.inj hx, ← Except.ok.inj hhash, canonicalOperationInputBytes_eq hinput]

/-- Where the hash has no collision, requests with one identity are repetitions. -/
theorem fromRequest_eq_iff [Blake3] {requests : List OperationCompensationRequest}
    (hinj : Set.InjOn Blake3.hash (hashedInputs requests)) {r r' : OperationCompensationRequest}
    (hr : r ∈ requests) (hr' : r' ∈ requests) (hkeys : r.payload.distinctKeys = true)
    {x x' : CompensationRequestIdentity} (hx : fromRequest r = .ok x)
    (hx' : CompensationRequestIdentity.fromRequest r' = .ok x') : x = x' ↔ r.Repeats r' := by
  rw [fromRequest_eq hx, fromRequest_eq hx', CompensationRequestIdentity.mk.injEq,
    Digest.toHex_injective.eq_iff, hinj.eq_iff ⟨r, hr, rfl⟩ ⟨r', hr', rfl⟩,
    List.append_cancel_left_eq, ToolPayload.canonicalBytes_eq_iff hkeys]
  constructor
  · rintro ⟨htool, hop, hcmp, hscope, hgrant, hpay⟩
    exact ⟨htool, hop, hcmp, hscope, hgrant, hpay⟩
  · rintro ⟨htool, hop, hcmp, hscope, hgrant, hpay⟩
    exact ⟨htool, hop, hcmp, hscope, hgrant, hpay⟩

namespace AuthorizerWorld

/-- What an authorizer's compensation counts owe to the calls it accepted. -/
structure CompensationAccounting [Blake3] (s : SessionAuthorizer) (calls : List AuthorizerCall) :
    Prop where
  counted : ∀ tool, (s.compensationsFor tool).toNat =
    ((calls.filterMap identity).toFinset.filter (·.tool = tool)).card
  budget : ∀ g ∈ s.manifest.grants, s.compensationsFor g.tool ≤ g.maxCompensations
  retransmitted : ∀ earlier ∈ calls.filterMap compensates, ∀ id t s',
    (SessionAuthorizer.authorizeCompensation { earlier with requestId := id }).Returns s t s' →
      s'.compensationsByTool = s.compensationsByTool
  separate : Set.InjOn Blake3.hash (hashedInputs (calls.filterMap compensates)) →
    ∀ r ∈ calls.filterMap compensates,
    ∀ r' ∈ calls.filterMap compensates, r.payload.distinctKeys = true →
      ((AuthorizerCall.authorizeCompensation r).identity =
        (AuthorizerCall.authorizeCompensation r').identity ↔ r.Repeats r')

/-- The identity of a request that was accepted is in the books. -/
theorem CompensationLedger.known [Blake3] {s : SessionAuthorizer} {calls : List AuthorizerCall}
    (h : CompensationLedger s calls) {r : OperationCompensationRequest}
    (hr : r ∈ calls.filterMap compensates) {x : CompensationRequestIdentity}
    (hx : fromRequest r = .ok x) : x ∈ s.compensationIdentities := by
  obtain ⟨c, hc, hcr⟩ := List.mem_filterMap.mp hr
  rw [h.identities, List.mem_filterMap]
  exact ⟨c, hc, by simp [identity, hcr, hx, Except.toOption]⟩

theorem CompensationLedger.retransmitted [Blake3] {s s' : SessionAuthorizer}
    {calls : List AuthorizerCall} (h : CompensationLedger s calls)
    {earlier : OperationCompensationRequest}
    (hearlier : earlier ∈ calls.filterMap compensates) {id : String}
    {t : AuthorizedOperationCompensation}
    (hrun : (SessionAuthorizer.authorizeCompensation { earlier with requestId := id }).Returns
      s t s') : s'.compensationsByTool = s.compensationsByTool := by
  apply (run_compensation hrun).repeated
  intro x hx
  -- The request's identifier is no part of its identity.
  obtain ⟨known, hknown⟩ := h.named earlier hearlier
  have hsame : fromRequest { earlier with requestId := id } =
      .ok known := hknown
  obtain rfl : known = x := by
    simpa [AuthorizerCall.identity, AuthorizerCall.compensates, hsame, Except.toOption] using hx
  exact h.known hearlier hknown

/-- In every state that any sequence of calls reaches, the compensations counted for a tool are
the distinct identities accepted for it, and no more than its grant allows. -/
theorem reachable_compensations [Blake3] {w : AuthorizerWorld} (h : w.Reachable) {i : ℕ}
    {s : SessionAuthorizer} (hs : w.authorizers[i]? = some s) :
    CompensationAccounting s (accepted i w.events) := by
  have hledger := compensationLedger_reachable h hs
  have hvalid := ((inv_reachable h).ledger i s hs).valid
  have hset : ((accepted i w.events).filterMap identity).toFinset =
      s.compensationIdentities := by
    ext x
    rw [List.mem_toFinset, hledger.identities]
  constructor
  · intro tool
    rw [hset, hledger.counted]
  · intro g hg
    exact hledger.budget g.tool g (hvalid.grantFor_mem hg)
  · intro earlier hearlier id t s' hrun
    exact hledger.retransmitted hearlier hrun
  · intro hinj r hr r' hr' hkeys
    obtain ⟨x, hx⟩ := hledger.named r hr
    obtain ⟨x', hx'⟩ := hledger.named r' hr'
    rw [← fromRequest_eq_iff hinj hr hr' hkeys hx hx']
    simp [identity, compensates, hx, hx', Except.toOption]

/-- One compensation, asked for twice under different identifiers. -/
def repeatedCompensation [Blake3] : AuthorizerWorld :=
  let grant : CapabilityGrant := { CapabilityGrant.text "echo" with maxCompensations := 1 }
  let request : OperationCompensationRequest :=
    ⟨5, "session", "undo-1", "echo", "operation-1", "cmp-1", "tenant",
      (Blake3.hash []).toHex, .text "hello"⟩
  (((AuthorizerWorld.mk [] []).create ⟨5, "session", [grant]⟩).perform 0
    (.authorizeCompensation request)).perform 0
    (.authorizeCompensation { request with requestId := "undo-2" })

theorem repeatedCompensation_accounting :
    ∃ (_ : Blake3) (s : SessionAuthorizer), repeatedCompensation.authorizers[0]? = some s ∧
      (accepted 0 repeatedCompensation.events).length = 2 ∧ s.compensationsFor "echo" = 1 ∧
      CompensationAccounting s (accepted 0 repeatedCompensation.events) := by
  let digest : Digest := ⟨List.replicate 32 0, rfl⟩
  let _ : Blake3 := ⟨fun _ => digest, fun _ _ => digest⟩
  have h : Reachable repeatedCompensation := by
    unfold repeatedCompensation
    exact Reachable.perform (Reachable.perform (Reachable.create .refl _) 0 (.inl rfl)) 0 (.inl rfl)
  have hcount : (repeatedCompensation.authorizers[0]?.map (·.compensationsFor "echo")) =
      some 1 := by decide +kernel
  obtain ⟨s, hs, hone⟩ := Option.map_eq_some_iff.mp hcount
  exact ⟨_, s, hs, by decide +kernel, hone, reachable_compensations h hs⟩

end AuthorizerWorld

end Octoscript
