import Octoscript.Workflow.Plan

namespace Octoscript
open Wire

def planFingerprintBytes (steps : List WorkflowStep) : Bytes :=
  utf8 "octoscript-workflow-plan-v1" ++ beBytes (UInt64.ofNat steps.length) ++
    steps.flatMap fun step => component (utf8 step.id) ++ component (utf8 step.source)

/-- What an operation key is derived from. -/
structure OperationKeyParts where
  (planFingerprint stepId tool : String)
  (input operationNonce : Bytes)
  deriving DecidableEq

/-- What a compensation key is derived from. -/
structure CompensationKeyParts where
  (planFingerprint operationKey tool tenantScope grantFingerprint : String)
  (input compensationNonce : Bytes)
  deriving DecidableEq

namespace OperationKeyParts

def parts (x : OperationKeyParts) : List Bytes :=
  [utf8 x.planFingerprint, utf8 x.stepId, utf8 x.tool, x.input, x.operationNonce]

def keyBytes (x : OperationKeyParts) : Bytes :=
  utf8 "octoscript-workflow-operation-key-v1" ++ components x.parts

theorem parts_injective : Function.Injective parts := by
  rintro ⟨plan, step, tool, input, nonce⟩ ⟨plan', step', tool', input', nonce'⟩ h
  simpa [parts, utf8_injective.eq_iff] using h

end OperationKeyParts

namespace CompensationKeyParts

def parts (x : CompensationKeyParts) : List Bytes :=
  [utf8 x.planFingerprint, utf8 x.operationKey, utf8 x.tool, utf8 x.tenantScope,
    utf8 x.grantFingerprint, x.input, x.compensationNonce]

def keyBytes (x : CompensationKeyParts) : Bytes :=
  utf8 "octoscript-workflow-compensation-key-v1" ++ components x.parts

theorem parts_injective : Function.Injective parts := by
  rintro ⟨plan, key, tool, scope, grant, input, nonce⟩
    ⟨plan', key', tool', scope', grant', input', nonce'⟩ h
  simpa [parts, utf8_injective.eq_iff] using h

end CompensationKeyParts

def derivedWorkflowOperationKey [Blake3] (planFingerprint stepId tool : String)
    (input operationNonce : Bytes) : String :=
  "op-" ++ (Blake3.hash
    (OperationKeyParts.keyBytes ⟨planFingerprint, stepId, tool, input, operationNonce⟩)).toHex

def derivedWorkflowCompensationKey [Blake3]
    (planFingerprint operationKey tool tenantScope grantFingerprint : String)
    (input compensationNonce : Bytes) : String :=
  "cmp-" ++ (Blake3.hash (CompensationKeyParts.keyBytes
    ⟨planFingerprint, operationKey, tool, tenantScope, grantFingerprint, input,
      compensationNonce⟩)).toHex

def OperationKeyParts.key [Blake3] (x : OperationKeyParts) : String :=
  derivedWorkflowOperationKey x.planFingerprint x.stepId x.tool x.input x.operationNonce

def CompensationKeyParts.key [Blake3] (x : CompensationKeyParts) : String :=
  derivedWorkflowCompensationKey x.planFingerprint x.operationKey x.tool x.tenantScope
    x.grantFingerprint x.input x.compensationNonce

/-- Each part is a slice: a machine word counts its bytes. -/
def Addressable (parts : List Bytes) : Prop := ∀ b ∈ parts, b.length < 2 ^ 64

instance (parts : List Bytes) : Decidable (Addressable parts) :=
  inferInstanceAs (Decidable (∀ b ∈ parts, _))

def planParts (steps : List WorkflowStep) : List Bytes :=
  steps.flatMap fun step => [utf8 step.id, utf8 step.source]

theorem planFingerprintBytes_eq (steps : List WorkflowStep) : planFingerprintBytes steps =
    utf8 "octoscript-workflow-plan-v1" ++
      (beBytes (UInt64.ofNat steps.length) ++ components (planParts steps)) := by
  simp [planFingerprintBytes, planParts, components, List.flatMap_assoc]

theorem planParts_injective : Function.Injective planParts := by
  intro steps
  induction steps with
  | nil =>
    rintro (_ | ⟨step, steps⟩) h
    · rfl
    · simp [planParts] at h
  | cons step steps ih =>
    rintro (_ | ⟨step', steps'⟩) h
    · simp [planParts] at h
    · simp only [planParts, List.flatMap_cons, List.cons_append, List.nil_append, List.cons.injEq,
        utf8_injective.eq_iff] at h
      obtain ⟨hid, hsource, hrest⟩ := h
      cases step
      cases step'
      rw [ih hrest]
      simp_all

theorem length_planParts (steps : List WorkflowStep) :
    (planParts steps).length = 2 * steps.length := by
  simp [planParts, List.length_flatMap, Nat.mul_comm]

theorem planFingerprintBytes_inj {steps steps' : List WorkflowStep} (hlen : steps.length < 2 ^ 64)
    (hlen' : steps'.length < 2 ^ 64) (hsteps : Addressable (planParts steps))
    (hsteps' : Addressable (planParts steps'))
    (h : planFingerprintBytes steps = planFingerprintBytes steps') : steps = steps' := by
  rw [planFingerprintBytes_eq, planFingerprintBytes_eq, List.append_cancel_left_eq] at h
  obtain ⟨hcount, hparts⟩ := beBytes_append_inj h
  have hcount := congrArg UInt64.toNat hcount
  rw [UInt64.toNat_ofNat_of_lt' hlen, UInt64.toNat_ofNat_of_lt' hlen'] at hcount
  apply planParts_injective
  exact components_inj (by simp [length_planParts, hcount]) hsteps hsteps' hparts

theorem OperationKeyParts.keyBytes_inj {x y : OperationKeyParts} (hx : Addressable x.parts)
    (hy : Addressable y.parts) (h : x.keyBytes = y.keyBytes) : x = y := by
  apply parts_injective
  exact components_inj rfl hx hy (List.append_cancel_left h)

theorem CompensationKeyParts.keyBytes_inj {x y : CompensationKeyParts} (hx : Addressable x.parts)
    (hy : Addressable y.parts) (h : x.keyBytes = y.keyBytes) : x = y := by
  apply parts_injective
  exact components_inj rfl hx hy (List.append_cancel_left h)

/-- The domains differ in a byte that both have. -/
theorem keyBytes_ne (x : OperationKeyParts) (y : CompensationKeyParts) : x.keyBytes ≠ y.keyBytes := by
  intro h
  have hbyte := congrArg (fun b : Bytes => b[20]?) h
  simp only [OperationKeyParts.keyBytes, CompensationKeyParts.keyBytes] at hbyte
  rw [List.getElem?_append_left (by decide), List.getElem?_append_left (by decide)] at hbyte
  exact absurd hbyte (by decide)

theorem key_ne [Blake3] (x : OperationKeyParts) (y : CompensationKeyParts) : x.key ≠ y.key := by
  intro h
  have hhead := congrArg (fun key : String => key.toList.head?) h
  simp [OperationKeyParts.key, CompensationKeyParts.key, derivedWorkflowOperationKey,
    derivedWorkflowCompensationKey] at hhead

/-- The two strings do not collide. -/
def Apart [Blake3] (a b : Bytes) : Prop := Blake3.hash a = Blake3.hash b → a = b

theorem Apart.eq_of_toHex_eq [Blake3] {a b : Bytes} (hapart : Apart a b) {s : String}
    (h : s ++ (Blake3.hash a).toHex = s ++ (Blake3.hash b).toHex) : a = b := by
  apply hapart
  apply Digest.toHex_injective
  have hlist := congrArg String.toList h
  rw [String.toList_append, String.toList_append, List.append_cancel_left_eq] at hlist
  exact String.toList_inj.mp hlist

/-- The hashed strings are injective, the strings of operations and of compensations are disjoint
and so are their keys, and equal fingerprints or keys come from equal parts unless BLAKE3 collides
on the two strings. -/
theorem derived_keys_injective [Blake3] (steps steps' : List WorkflowStep) (x y : OperationKeyParts)
    (c d : CompensationKeyParts) (hlength : steps.length < 2 ^ 64) (hlength' : steps'.length < 2 ^ 64)
    (hsteps : Addressable (planParts steps)) (hsteps' : Addressable (planParts steps'))
    (hx : Addressable x.parts) (hy : Addressable y.parts) (hc : Addressable c.parts)
    (hd : Addressable d.parts) :
    (planFingerprintBytes steps = planFingerprintBytes steps' ↔ steps = steps') ∧
    (x.keyBytes = y.keyBytes ↔ x = y) ∧ (c.keyBytes = d.keyBytes ↔ c = d) ∧
    x.keyBytes ≠ c.keyBytes ∧ x.key ≠ c.key ∧
    (Apart (planFingerprintBytes steps) (planFingerprintBytes steps') →
      (planFingerprint steps = planFingerprint steps' ↔ steps = steps')) ∧
    (Apart x.keyBytes y.keyBytes → (x.key = y.key ↔ x = y)) ∧
    (Apart c.keyBytes d.keyBytes → (c.key = d.key ↔ c = d)) := by
  refine ⟨⟨planFingerprintBytes_inj hlength hlength' hsteps hsteps', congrArg _⟩,
    ⟨OperationKeyParts.keyBytes_inj hx hy, congrArg _⟩,
    ⟨CompensationKeyParts.keyBytes_inj hc hd, congrArg _⟩, keyBytes_ne x c, key_ne x c, ?_, ?_, ?_⟩
  · intro hapart
    refine ⟨fun h => ?_, congrArg _⟩
    exact planFingerprintBytes_inj hlength hlength' hsteps hsteps'
      (hapart (Digest.toHex_injective h))
  · intro hapart
    exact ⟨fun h => OperationKeyParts.keyBytes_inj hx hy (hapart.eq_of_toHex_eq h), congrArg _⟩
  · intro hapart
    exact ⟨fun h => CompensationKeyParts.keyBytes_inj hc hd (hapart.eq_of_toHex_eq h), congrArg _⟩

/-- A boundary moved between two parts. -/
theorem derived_keys_injective_of_moved_boundary :
    planFingerprintBytes [⟨"a", "bc"⟩] ≠ planFingerprintBytes [⟨"ab", "c"⟩] ∧
    OperationKeyParts.keyBytes ⟨"p", "s", "t", [1, 2], [3]⟩ ≠
      OperationKeyParts.keyBytes ⟨"p", "s", "t", [1], [2, 3]⟩ ∧
    CompensationKeyParts.keyBytes ⟨"p", "k", "t", "scope", "g", [1, 2], [3]⟩ ≠
      CompensationKeyParts.keyBytes ⟨"p", "k", "t", "scope", "g", [1], [2, 3]⟩ := by
  let digest : Digest := ⟨List.replicate 32 0, rfl⟩
  let _ : Blake3 := ⟨fun _ => digest, fun _ _ => digest⟩
  have h := derived_keys_injective [⟨"a", "bc"⟩] [⟨"ab", "c"⟩] ⟨"p", "s", "t", [1, 2], [3]⟩
    ⟨"p", "s", "t", [1], [2, 3]⟩ ⟨"p", "k", "t", "scope", "g", [1, 2], [3]⟩
    ⟨"p", "k", "t", "scope", "g", [1], [2, 3]⟩ (by decide) (by decide) (by decide) (by decide)
    (by decide) (by decide) (by decide) (by decide)
  obtain ⟨hplan, hop, hcmp, -⟩ := h
  refine ⟨?_, ?_, ?_⟩
  · rw [Ne, hplan]
    decide
  · rw [Ne, hop]
    decide
  · rw [Ne, hcmp]
    decide

end Octoscript
