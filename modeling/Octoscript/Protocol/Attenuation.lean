import Octoscript.Protocol.Authorizer

namespace Octoscript

open CapabilityManifest SessionAuthorizer

/-- `g'` has no more authority than `g`. -/
structure CapabilityGrant.Narrows (g' g : CapabilityGrant) : Prop where
  tool : g'.tool = g.tool
  format : g'.format = g.format
  maxCalls : g'.maxCalls ≤ g.maxCalls
  maxInputBytes : g'.maxInputBytes ≤ g.maxInputBytes
  maxOutputBytes : g'.maxOutputBytes ≤ g.maxOutputBytes
  maxCompensations : g'.maxCompensations ≤ g.maxCompensations
  resources : ∀ r ∈ g'.resources, r ∈ g.resources

namespace CapabilityGrant.Narrows
variable {g g' g'' : CapabilityGrant}

theorem refl (g : CapabilityGrant) : g.Narrows g :=
  ⟨rfl, rfl, UInt32.le_refl _, UInt32.le_refl _, UInt32.le_refl _, UInt32.le_refl _, fun _ h => h⟩

theorem trans (h' : g''.Narrows g') (h : g'.Narrows g) : g''.Narrows g where
  tool := h'.tool.trans h.tool
  format := h'.format.trans h.format
  maxCalls := UInt32.le_trans h'.maxCalls h.maxCalls
  maxInputBytes := UInt32.le_trans h'.maxInputBytes h.maxInputBytes
  maxOutputBytes := UInt32.le_trans h'.maxOutputBytes h.maxOutputBytes
  maxCompensations := UInt32.le_trans h'.maxCompensations h.maxCompensations
  resources r hr := h.resources r (h'.resources r hr)

end CapabilityGrant.Narrows

theorem CapabilityGrant.attenuate_narrows {g g' : CapabilityGrant} {a : GrantAttenuation}
    (h : g.attenuate a = .ok g') : g'.Narrows g := by
  simp only [attenuate, Except.bind_ok_iff, Except.rejectIf_ok_iff, not_or, not_not, gt_iff_lt,
    UInt32.not_lt, Std.ExtTreeSet.mem_toList] at h
  obtain ⟨_, _, _, _, _, ⟨hcalls, hin, hout, hcomp⟩, _, hres, _, _, h⟩ := h
  obtain rfl := Except.ok.inj h
  exact ⟨rfl, rfl, hcalls, hin, hout, hcomp, hres⟩

namespace CapabilityManifest

/-- Every grant of `m'` is a narrowed grant of `m`, for the same session. -/
structure Narrows (m' m : CapabilityManifest) : Prop where
  sessionId : m'.sessionId = m.sessionId
  grants : ∀ g' ∈ m'.grants, ∃ g ∈ m.grants, g'.Narrows g

/-- One successful attenuation. -/
def AttenuatesTo (m m' : CapabilityManifest) : Prop := ∃ a, m.attenuate a = .ok m'

theorem restrict_narrows {a : ManifestAttenuation} {g g' : CapabilityGrant}
    (h : restrict a g = .ok g') : g'.Narrows g := by
  unfold restrict at h
  split at h
  · obtain rfl := Except.ok.inj h
    exact .refl g
  · exact CapabilityGrant.attenuate_narrows h

theorem AttenuatesTo.spec {m m' : CapabilityManifest} (h : m.AttenuatesTo m') :
    m.Valid ∧ m'.Narrows m := by
  obtain ⟨a, h⟩ := h
  simp only [attenuate, new, Except.bind_ok_iff, validate_ok_iff] at h
  obtain ⟨_, hvalid, _, _, _, _, grants, hgrants, _, _, h⟩ := h
  obtain rfl := Except.ok.inj h
  refine ⟨hvalid, rfl, fun g' hg' => ?_⟩
  obtain ⟨g, hg, hrestrict⟩ := Except.exists_of_mem_mapM hgrants hg'
  exact ⟨g, (List.mem_filter.mp hg).1, restrict_narrows hrestrict⟩

theorem Narrows.trans {m m' m'' : CapabilityManifest} (h' : m''.Narrows m') (h : m'.Narrows m) :
    m''.Narrows m where
  sessionId := h'.sessionId.trans h.sessionId
  grants g'' hg'' := by
    obtain ⟨g', hg', hn'⟩ := h'.grants g'' hg''
    obtain ⟨g, hg, hn⟩ := h.grants g' hg'
    exact ⟨g, hg, hn'.trans hn⟩

/-- A chain of attenuations narrows. -/
theorem narrows_of_chain {m m' : CapabilityManifest}
    (h : Relation.ReflTransGen AttenuatesTo m m') : m'.Narrows m := by
  induction h with
  | refl => exact ⟨rfl, fun g hg => ⟨g, hg, .refl g⟩⟩
  | tail _ hstep ih => exact hstep.spec.2.trans ih

/-- The first manifest of a chain is valid if the last one is. -/
theorem valid_of_chain {m m' : CapabilityManifest}
    (h : Relation.ReflTransGen AttenuatesTo m m') (hm' : m'.Valid) : m.Valid := by
  cases h.cases_head with
  | inl h => exact h ▸ hm'
  | inr h =>
    obtain ⟨_, hstep, _⟩ := h
    exact hstep.spec.1

theorem Narrows.grantFor {m m' : CapabilityManifest} (h : m'.Narrows m) (hm : m.Valid)
    {tool : String} {g' : CapabilityGrant} (hg' : m'.grantFor tool = some g') :
    ∃ g, m.grantFor tool = some g ∧ g'.Narrows g := by
  obtain ⟨g, hg, hn⟩ := h.grants g' (List.mem_of_find?_eq_some hg')
  have htool : g.tool = tool := hn.tool.symm.trans (tool_of_grantFor hg')
  exact ⟨g, htool ▸ hm.grantFor_mem hg, hn⟩

end CapabilityManifest

/-- The requests that spend or use a capability grant. -/
inductive CapabilityRequest
  | authorize (invocation : ToolInvocation)
  | authorizeOperation (request : OperationDispatchRequest)
  | authorizeReconciliation (request : OperationReconcileRequest)

namespace CapabilityRequest

/-- The call, whose token is not used here. -/
def run : CapabilityRequest → Call Unit
  | .authorize invocation => do
    let _ ← SessionAuthorizer.authorize invocation
  | .authorizeOperation request => do
    let _ ← SessionAuthorizer.authorizeOperation request
  | .authorizeReconciliation request => do
    let _ ← SessionAuthorizer.authorizeReconciliation request

end CapabilityRequest

namespace SessionAuthorizer

/-- The authorizer accepts every request of the sequence, in order. -/
def AcceptsAll : SessionAuthorizer → List CapabilityRequest → Prop
  | _, [] => True
  | s, r :: rs => ∃ s', r.run.Returns s () s' ∧ s'.AcceptsAll rs

/-- `s` has the books of `s'` and a manifest that `s'`'s manifest narrows. -/
structure Widens (s s' : SessionAuthorizer) : Prop where
  valid : s.manifest.Valid
  manifest : s'.manifest.Narrows s.manifest
  seen : s.seenRequestIds = s'.seenRequestIds
  calls : ∀ tool, s.callsFor tool = s'.callsFor tool

variable {s s' t' : SessionAuthorizer}

theorem Widens.addSeen (h : s.Widens s') (id : String) : (s.addSeen id).Widens (s'.addSeen id) where
  valid := h.valid
  manifest := h.manifest
  seen := by simp [h.seen]
  calls := h.calls

theorem Widens.addCall (h : s.Widens s') (tool : String) :
    (s.addCall tool).Widens (s'.addCall tool) where
  valid := h.valid
  manifest := h.manifest
  seen := h.seen
  calls tool' := by
    have htool := h.calls tool
    have htool' := h.calls tool'
    simp only [callsFor] at htool htool'
    simp [callsFor, Std.ExtTreeMap.getD_insert, htool, htool']

theorem Widens.authorizePayload (h : s.Widens s') {sessionId id tool : String}
    {payload : ToolPayload} {g' : CapabilityGrant}
    (hs' : (authorizePayload sessionId id tool payload).Returns s' g' t') :
    ∃ g t, (authorizePayload sessionId id tool payload).Returns s g t ∧
      t.Widens t' := by
  obtain ⟨hsess, hgrant, ⟨n, hn, hsize⟩, hcalls, hfresh, hroom, rfl⟩ :=
    returns_authorizePayload.mp hs'
  obtain ⟨g, hg, hnarrow⟩ := h.manifest.grantFor h.valid hgrant
  refine ⟨g, (s.addSeen id).addCall g.tool, returns_authorizePayload.mpr
    ⟨hsess.trans h.manifest.sessionId, hg, ⟨n, ?_, ?_⟩, ?_, ?_, ?_, rfl⟩, ?_⟩
  · rw [← hnarrow.format, hn]
  · exact hsize.trans (UInt32.le_iff_toNat_le.mp hnarrow.maxInputBytes)
  · rw [← hnarrow.tool, h.calls]
    exact UInt32.lt_of_lt_of_le hcalls hnarrow.maxCalls
  · rwa [h.seen]
  · rwa [h.seen]
  · rw [← hnarrow.tool]
    exact (h.addSeen id).addCall g'.tool

theorem Widens.run (h : s.Widens s') {r : CapabilityRequest} (hr : r.run.Returns s' () t') :
    ∃ t, r.run.Returns s () t ∧ t.Widens t' := by
  cases r with
  | authorize invocation =>
    simp only [CapabilityRequest.run, Mut.returns_bind, Mut.returns_pure] at hr
    obtain ⟨a', _, ha', -, rfl⟩ := hr
    obtain ⟨hheader, hpay, _⟩ := returns_authorize.mp ha'
    obtain ⟨g, t, ht, hwide⟩ := h.authorizePayload hpay
    have ha := returns_authorize (t := ⟨invocation, g, t.provenance⟩).mpr ⟨hheader, ht, rfl⟩
    exact ⟨t, Mut.returns_bind.mpr ⟨_, _, ha, by simp⟩, hwide⟩
  | authorizeOperation request =>
    simp only [CapabilityRequest.run, Mut.returns_bind, Mut.returns_pure] at hr
    obtain ⟨a', _, ha', -, rfl⟩ := hr
    obtain ⟨hheader, hpay, _⟩ := returns_authorizeOperation.mp ha'
    obtain ⟨g, t, ht, hwide⟩ := h.authorizePayload hpay
    have ha := returns_authorizeOperation (t := ⟨request, g, t.provenance⟩).mpr
      ⟨hheader, ht, rfl⟩
    exact ⟨t, Mut.returns_bind.mpr ⟨_, _, ha, by simp⟩, hwide⟩
  | authorizeReconciliation request =>
    simp only [CapabilityRequest.run, Mut.returns_bind, Mut.returns_pure] at hr
    obtain ⟨a', _, ha', -, rfl⟩ := hr
    obtain ⟨hform, hsess, hgrant, hfresh, hroom, rfl, _⟩ :=
      returns_authorizeReconciliation.mp ha'
    obtain ⟨g, hg, _⟩ := h.manifest.grantFor h.valid hgrant
    have ha := returns_authorizeReconciliation (t := ⟨request, g, s.provenance⟩).mpr ⟨hform,
      hsess.trans h.manifest.sessionId, hg, h.seen ▸ hfresh, h.seen ▸ hroom, rfl, rfl⟩
    exact ⟨_, Mut.returns_bind.mpr ⟨_, _, ha, by simp⟩, h.addSeen request.requestId⟩

theorem Widens.acceptsAll (h : s.Widens s') {rs : List CapabilityRequest}
    (hs' : s'.AcceptsAll rs) : s.AcceptsAll rs := by
  induction rs generalizing s s' with
  | nil => trivial
  | cons r rs ih =>
    obtain ⟨t', hr, hrest⟩ := hs'
    obtain ⟨t, ht, hwide⟩ := h.run hr
    exact ⟨t, ht, ih hwide hrest⟩

end SessionAuthorizer

/-- Whatever attenuations produced the last manifest, its grants are narrowed grants
of the first, and a sequence of requests that an authorizer for the last accepts is
accepted by one for the first. -/
theorem attenuation_never_widens {m m' : CapabilityManifest}
    (h : Relation.ReflTransGen AttenuatesTo m m') :
    (∀ g' ∈ m'.grants, ∃ g ∈ m.grants, g'.Narrows g) ∧
      ∀ p p' s' requests, new p' m' = .ok s' → s'.AcceptsAll requests →
        ∃ s, new p m = .ok s ∧ s.AcceptsAll requests := by
  refine ⟨(narrows_of_chain h).grants, fun p p' s' requests hs' hacc => ?_⟩
  obtain ⟨hm', rfl⟩ := new_ok_iff.mp hs'
  have hm := valid_of_chain h hm'
  have hwidens : Widens ⟨p, m, ∅, ∅, ∅, ∅, ∅, ∅, ∅⟩
      ⟨p', m', ∅, ∅, ∅, ∅, ∅, ∅, ∅⟩ :=
    ⟨hm, narrows_of_chain h, rfl, fun _ => rfl⟩
  exact ⟨_, new_ok_iff.mpr ⟨hm, rfl⟩, hwidens.acceptsAll hacc⟩

/-- A grant of three calls restricted to one. -/
theorem attenuation_of_three_calls :
    ∃ m' : CapabilityManifest,
      AttenuatesTo ⟨5, "session", [{ CapabilityGrant.text "echo" with
        maxCalls := 3 }]⟩ m' ∧
      (∀ p p' s' requests, new p' m' = .ok s' → s'.AcceptsAll requests →
        ∃ s, new p ⟨5, "session", [{ CapabilityGrant.text "echo" with
          maxCalls := 3 }]⟩ = .ok s ∧ s.AcceptsAll requests) := by
  refine ⟨⟨5, "session", [.text "echo"]⟩, ?_, (attenuation_never_widens (.single ?_)).2⟩
  all_goals exact ⟨⟨none, .insert ∅ "echo" ⟨some 1, none, none, none, none⟩⟩, by decide +kernel⟩

end Octoscript
