import Octoscript.Lib.History
import Octoscript.Workflow.Ledger

namespace Octoscript
open Wire List WorkflowOperation

/-- `c'` is a later version of the compensation `c`. -/
structure WorkflowCompensation.Evolves (c c' : WorkflowCompensation) : Prop where
  compensationKey : c'.compensationKey = c.compensationKey
  inputFingerprint : c'.inputFingerprint = c.inputFingerprint
  tenantScope : c'.tenantScope = c.tenantScope
  grantFingerprint : c'.grantFingerprint = c.grantFingerprint
  terminal : c.state.isTerminal = true → c'.state = c.state

/-- `o'` is a later version of the operation `o`. -/
structure WorkflowOperation.Evolves (o o' : WorkflowOperation) : Prop where
  stepId : o'.stepId = o.stepId
  tool : o'.tool = o.tool
  operationKey : o'.operationKey = o.operationKey
  inputFingerprint : o'.inputFingerprint = o.inputFingerprint
  terminal : o.state.isTerminal = true → o'.state = o.state
  compensation : ∀ c, o.compensation = some c → ∃ c', o'.compensation = some c' ∧ c.Evolves c'

namespace WorkflowCompensation.Evolves
variable {c c' c'' : WorkflowCompensation}

theorem refl (c : WorkflowCompensation) : c.Evolves c := ⟨rfl, rfl, rfl, rfl, fun _ => rfl⟩

theorem trans (h : c.Evolves c') (h' : c'.Evolves c'') : c.Evolves c'' where
  compensationKey := h'.compensationKey.trans h.compensationKey
  inputFingerprint := h'.inputFingerprint.trans h.inputFingerprint
  tenantScope := h'.tenantScope.trans h.tenantScope
  grantFingerprint := h'.grantFingerprint.trans h.grantFingerprint
  terminal ht := by
    have hc := h.terminal ht
    exact (h'.terminal (hc ▸ ht)).trans hc

end WorkflowCompensation.Evolves

namespace WorkflowOperation.Evolves
variable {o o' o'' : WorkflowOperation}

theorem refl (o : WorkflowOperation) : o.Evolves o :=
  ⟨rfl, rfl, rfl, rfl, fun _ => rfl, fun c hc => ⟨c, hc, .refl c⟩⟩

theorem trans (h : o.Evolves o') (h' : o'.Evolves o'') : o.Evolves o'' where
  stepId := h'.stepId.trans h.stepId
  tool := h'.tool.trans h.tool
  operationKey := h'.operationKey.trans h.operationKey
  inputFingerprint := h'.inputFingerprint.trans h.inputFingerprint
  terminal ht := by
    have ho := h.terminal ht
    exact (h'.terminal (ho ▸ ht)).trans ho
  compensation c hc := by
    obtain ⟨c', hc', he⟩ := h.compensation c hc
    obtain ⟨c'', hc'', he'⟩ := h'.compensation c' hc'
    exact ⟨c'', hc'', he.trans he'⟩

theorem of_accepts {observed : WorkflowOperationState} (h : o.state.accepts observed = true) :
    o.Evolves (o.withState observed) :=
  ⟨rfl, rfl, rfl, rfl, WorkflowOperationState.eq_of_accepts h, fun c hc => ⟨c, hc, .refl c⟩⟩

end WorkflowOperation.Evolves

namespace WorkflowOperation

/-- A compensation stands only on a succeeded operation. -/
theorem validateCompensation_ok_iff {o : WorkflowOperation} {u : Unit} :
    o.validateCompensation = .ok u ↔
      ∀ c, o.compensation = some c → o.state = .succeeded ∧ c.validateSyntax = .ok () := by
  unfold validateCompensation
  cases o.compensation with
  | none => simp [pure, Except.pure]
  | some c => simp

theorem validateSyntax_ok_iff {o : WorkflowOperation} {u : Unit} :
    o.validateSyntax = .ok u ↔ isValidStepId o.stepId = true ∧ isValidOperationToken o.tool = true ∧
      isValidWorkflowOperationKey o.operationKey = true ∧
      isPlanFingerprint o.inputFingerprint = true ∧ o.validateCompensation = .ok () := by
  simp [validateSyntax]

/-- A check passes again when only a compensation or a state changed. -/
theorem validateSyntax_of_congr {o o' : WorkflowOperation} (h : o.validateSyntax = .ok ())
    (hev : o.Evolves o') (hcmp : o'.validateCompensation = .ok ()) :
    o'.validateSyntax = .ok () := by
  obtain ⟨hstep, htool, hkey, hinput, _⟩ := validateSyntax_ok_iff.mp h
  rw [validateSyntax_ok_iff, hev.stepId, hev.tool, hev.operationKey,
    hev.inputFingerprint]
  exact ⟨hstep, htool, hkey, hinput, hcmp⟩

end WorkflowOperation

namespace WorkflowOperationLedger
variable {l l' l'' : WorkflowOperationLedger}
variable {o : WorkflowOperation} {revision : UInt64} {observed : WorkflowOperationState}

/-- Every operation of `l` is still at its place in `l'`, in a later version. -/
structure Evolves (l l' : WorkflowOperationLedger) : Prop where
  plan : l'.planFingerprint = l.planFingerprint
  operations : History.Grows WorkflowOperation.Evolves l.operations l'.operations

theorem Evolves.refl (l : WorkflowOperationLedger) : l.Evolves l :=
  ⟨rfl, History.Grows.refl .refl l.operations⟩

theorem Evolves.trans (h : l.Evolves l') (h' : l'.Evolves l'') : l.Evolves l'' :=
  ⟨h'.plan.trans h.plan, History.Grows.trans .trans h.operations h'.operations⟩

/-- The operation of a key evolves into the operation of that key. -/
theorem Evolves.operation (h : l.Evolves l') (hvalid : l'.Valid) {key : String}
    (ho : l.operation key = some o) :
    ∃ o', l'.operation key = some o' ∧ o.Evolves o' := by
  obtain ⟨o', hmem, he⟩ := h.operations.of_mem (List.mem_of_find?_eq_some ho)
  have hkey : o.operationKey = key := by simpa using find?_some ho
  exact ⟨o', hvalid.operation_eq_some_iff.mpr ⟨hmem, he.operationKey.trans hkey⟩, he⟩

theorem Valid.operation_setOperation {i : Fin l.operations.length}
    {key : String} (h : (l.setOperation i o revision).Valid)
    (hkey : o.operationKey = key) : (l.setOperation i o revision).operation key = some o :=
  h.operation_eq_some_iff.mpr ⟨mem_set i.isLt o, hkey⟩

/-- A call really changed the ledger. -/
structure Changes (l l' : WorkflowOperationLedger) : Prop where
  valid : l'.Valid
  evolves : l.Evolves l'
  revision : l'.revision.toNat = l.revision.toNat + 1
  operations : l'.operations ≠ l.operations

theorem changes_append (hl : l.Valid) (hsize : l.operations.length < maxWorkflowOperations)
    (hfresh : ∀ existing ∈ l.operations, existing.operationKey ≠ o.operationKey)
    (ho : o.validateSyntax = .ok ()) (hrev : revision.toNat = l.revision.toNat + 1) :
    Changes l { l with operations := l.operations ++ [o], revision } where
  valid := by
    refine ⟨hl.version, hl.plan, ?_, ?_, ?_⟩
    · simpa using hsize
    · intro o' ho'
      rcases mem_append.mp ho' with ho' | ho'
      · exact hl.operations o' ho'
      · exact mem_singleton.mp ho' ▸ ho
    · simp only [map_append, map_cons, map_nil]
      refine nodup_append.mpr ⟨hl.keys, nodup_singleton _, ?_⟩
      intro key hkey key' hkey' heq
      obtain ⟨o', ho', rfl⟩ := mem_map.mp hkey
      exact hfresh o' ho' (heq.trans (mem_singleton.mp hkey'))
  evolves := ⟨rfl, History.grows_append .refl l.operations [o]⟩
  revision := hrev
  operations := by simp

theorem changes_setOperation (hl : l.Valid) {i : Fin l.operations.length}
    (ho : o.validateCompensation = .ok ())
    (hev : (l.operations.get i).Evolves o) (hne : o ≠ l.operations.get i)
    (hrev : revision.toNat = l.revision.toNat + 1) :
    Changes l (l.setOperation i o revision) where
  valid := by
    refine ⟨hl.version, hl.plan, by simpa [setOperation] using hl.size, ?_, ?_⟩
    · intro o' ho'
      rcases mem_or_eq_of_mem_set ho' with ho' | rfl
      · exact hl.operations o' ho'
      · exact validateSyntax_of_congr (hl.operations _ (get_mem _ i)) hev
          ho
    · have hkeys : (l.operations.set i o).map operationKey =
          l.operations.map operationKey := by
        rw [map_set, hev.operationKey]
        exact ext_getElem? fun k => by
          by_cases hk : (i : ℕ) = k <;> simp [getElem?_set, hk]
          simp [← hk]
      rw [setOperation, hkeys]
      exact hl.keys
  evolves := ⟨rfl, History.grows_set .refl hev⟩
  revision := hrev
  operations := by
    intro heq
    have hget := congrArg (·[(i : ℕ)]?) heq
    simp [setOperation] at hget
    exact hne hget

theorem changes_record [Blake3] {stepId tool operationKey : String} {input : Bytes} {u : Unit}
    (h : (record stepId tool operationKey input).Returns l u l') : Changes l l' := by
  obtain ⟨hvalid, hsize, hfresh, revision, operation, rfl, hop, hrev, rfl⟩ :=
    returns_record h
  exact changes_append hvalid hsize hfresh hop hrev

theorem changes_recordCompensation [Blake3] {operationKey : String}
    {policy : WorkflowCompensationPolicy} {compensationKey : String} {input : Bytes} {u : Unit}
    (h : (recordCompensation operationKey policy compensationKey input).Returns l u l') :
    Changes l l' := by
  obtain ⟨hvalid, hpolicy, hkey, i, revision, _, hstate, hnone, hrev, rfl⟩ :=
    returns_recordCompensation h
  refine changes_setOperation hvalid ?_ ⟨rfl, rfl, rfl, rfl, fun _ => rfl, ?_⟩ ?_ hrev
  · have hinput := isPlanFingerprint_toHex
      (Blake3.hash (utf8 "octoscript-workflow-operation-input-v1" ++ component input))
    simp only [WorkflowCompensationPolicy.validateSyntax, Except.bind_ok_iff,
      Except.rejectIf_ok_iff, Bool.not_eq_false] at hpolicy
    obtain ⟨_, _, _, hscope, hgrant⟩ := hpolicy
    refine validateCompensation_ok_iff.mpr fun c hc => ⟨hstate, ?_⟩
    obtain rfl := Option.some.inj hc
    simp [WorkflowCompensation.validateSyntax, hkey, hscope, hgrant,
      workflowOperationInputFingerprint, hinput]
  · intro c hc
    cases hnone.symm.trans hc
  · intro heq
    cases (congrArg compensation heq).trans hnone

theorem changes_applyVerifiedCompensation [Blake3] {request : OperationCompensationRequest}
    {result : OperationCompensationResult}
    (h : (applyVerifiedCompensation request result).Returns l observed l') :
    l' = l ∨ Changes l l' := by
  obtain ⟨hvalid, _, _, i, c, _, hc, _, hacc, ⟨_, rfl⟩ | ⟨hne, revision, hrev, rfl⟩⟩ :=
    returns_applyVerifiedCompensation h
  · exact .inl rfl
  refine .inr (changes_setOperation hvalid ?_ ⟨rfl, rfl, rfl, rfl, fun _ => rfl, ?_⟩ ?_ hrev)
  · have hop := hvalid.operations _ (get_mem _ i)
    obtain ⟨_, _, _, _, hop⟩ := WorkflowOperation.validateSyntax_ok_iff.mp hop
    obtain ⟨hstate, hcheck⟩ := WorkflowOperation.validateCompensation_ok_iff.mp hop c hc
    refine validateCompensation_ok_iff.mpr fun c' hc' => ⟨hstate, ?_⟩
    obtain rfl := Option.some.inj hc'
    exact hcheck
  · intro c' hc'
    obtain rfl := Option.some.inj (hc.symm.trans hc')
    exact ⟨_, rfl, rfl, rfl, rfl, rfl, WorkflowOperationState.eq_of_accepts hacc⟩
  · intro heq
    have hsame := congrArg compensation heq
    simp only [withCompensation_compensation, hc, Option.some.injEq] at hsame
    exact hne (congrArg WorkflowCompensation.state hsame).symm

theorem changes_applyVerifiedReconciliation {request : OperationReconcileRequest}
    {result : OperationReconcileResult}
    (h : (applyVerifiedReconciliation request result).Returns l observed l') :
    l' = l ∨ Changes l l' := by
  obtain ⟨hvalid, _, _, i, _, _, hacc, ⟨_, rfl⟩ | ⟨hne, revision, hrev, rfl⟩⟩ :=
    returns_applyVerifiedReconciliation h
  · exact .inl rfl
  refine .inr (changes_setOperation hvalid ?_ (.of_accepts hacc) ?_ hrev)
  · have hop := hvalid.operations _ (get_mem _ i)
    obtain ⟨_, _, _, _, hop⟩ := WorkflowOperation.validateSyntax_ok_iff.mp hop
    refine validateCompensation_ok_iff.mpr fun c hc => ?_
    -- A compensated operation has succeeded, and then no other state is accepted.
    obtain ⟨hstate, hcheck⟩ := WorkflowOperation.validateCompensation_ok_iff.mp hop c hc
    have hterm := WorkflowOperationState.eq_of_accepts hacc (by rw [hstate]; rfl)
    exact absurd hterm.symm hne
  · intro heq
    exact hne (congrArg state heq).symm

inductive LedgerCall
  | record (stepId tool operationKey : String) (input : Bytes)
  | recordCompensation (operationKey : String) (policy : WorkflowCompensationPolicy)
      (compensationKey : String) (input : Bytes)
  | applyVerifiedCompensation (request : OperationCompensationRequest)
      (result : OperationCompensationResult)
  | applyVerifiedReconciliation (request : OperationReconcileRequest)
      (result : OperationReconcileResult)

namespace LedgerCall

/-- The call, whose result is not used here. -/
def run [Blake3] : LedgerCall → Call Unit
  | .record stepId tool operationKey input =>
    WorkflowOperationLedger.record stepId tool operationKey input
  | .recordCompensation operationKey policy compensationKey input =>
    WorkflowOperationLedger.recordCompensation operationKey policy compensationKey input
  | .applyVerifiedCompensation request result => do
    let _ ← WorkflowOperationLedger.applyVerifiedCompensation request result
  | .applyVerifiedReconciliation request result => do
    let _ ← WorkflowOperationLedger.applyVerifiedReconciliation request result

theorem run_returns [Blake3] {c : LedgerCall} (h : c.run.Returns l () l') :
    l' = l ∨ Changes l l' := by
  cases c with
  | record => exact .inr (changes_record h)
  | recordCompensation => exact .inr (changes_recordCompensation h)
  | applyVerifiedCompensation =>
    simp only [run, Mut.returns_bind, Mut.returns_pure] at h
    obtain ⟨_, _, h, -, rfl⟩ := h
    exact changes_applyVerifiedCompensation h
  | applyVerifiedReconciliation =>
    simp only [run, Mut.returns_bind, Mut.returns_pure] at h
    obtain ⟨_, _, h, -, rfl⟩ := h
    exact changes_applyVerifiedReconciliation h

end LedgerCall

/-- The end of an observation writes nothing when it fails. -/
theorem keepsOnError_commit {c : Prop} [Decidable c] {candidate : UInt64 → WorkflowOperationLedger}
    {self : WorkflowOperationLedger} :
    (if c then do
        let revision ← (liftM self.nextRevision : Call UInt64)
        Mut.assign (candidate revision)
        pure observed
      else pure observed : Call WorkflowOperationState).KeepsOnError := by
  simp only [Mut.keepsOnError_iff]
  intro l
  split_ifs
  · simp only [Mut.keepsOnError_steps, implies_true]
  · simp only [Mut.keepsOnError_steps]

theorem keepsOnError_record [Blake3] (stepId tool operationKey : String) (input : Bytes) :
    (record stepId tool operationKey input).KeepsOnError := by
  simp only [Mut.keepsOnError_iff, record, Mut.keepsOnError_steps, implies_true]

theorem keepsOnError_recordCompensation [Blake3] (operationKey : String)
    (policy : WorkflowCompensationPolicy) (compensationKey : String) (input : Bytes) :
    (recordCompensation operationKey policy compensationKey input).KeepsOnError := by
  simp only [Mut.keepsOnError_iff, recordCompensation, Mut.keepsOnError_steps, implies_true]

theorem keepsOnError_applyVerifiedCompensation [Blake3] (request : OperationCompensationRequest)
    (result : OperationCompensationResult) :
    (applyVerifiedCompensation request result).KeepsOnError := by
  simp only [Mut.keepsOnError_iff, applyVerifiedCompensation, Mut.keepsOnError_steps]
  intros
  exact keepsOnError_commit _

theorem keepsOnError_applyVerifiedReconciliation (request : OperationReconcileRequest)
    (result : OperationReconcileResult) :
    (applyVerifiedReconciliation request result).KeepsOnError := by
  simp only [Mut.keepsOnError_iff, applyVerifiedReconciliation, Mut.keepsOnError_steps]
  intros
  exact keepsOnError_commit _

theorem LedgerCall.run_keepsOnError [Blake3] (c : LedgerCall) : c.run.KeepsOnError := by
  cases c with
  | record stepId tool key input => exact keepsOnError_record stepId tool key input
  | recordCompensation key policy compensationKey input =>
    exact keepsOnError_recordCompensation key policy compensationKey input
  | applyVerifiedCompensation request result =>
    exact (keepsOnError_applyVerifiedCompensation request result).bind_pure
  | applyVerifiedReconciliation request result =>
    exact (keepsOnError_applyVerifiedReconciliation request result).bind_pure

/-- One call on the ledger, whatever it returns. -/
def Step [Blake3] (l l' : WorkflowOperationLedger) : Prop :=
  ∃ c : LedgerCall, (c.run l).2 = l'

theorem Step.spec [Blake3] (h : l.Step l') : l' = l ∨ Changes l l' := by
  obtain ⟨c, rfl⟩ := h
  rcases c.run.returns_or_fails l with ⟨u, hr⟩ | ⟨e, hf⟩
  · exact LedgerCall.run_returns hr
  · exact .inl (c.run_keepsOnError l e _ hf)

theorem run_spec [Blake3] (hl : l.Valid) (h : Relation.ReflTransGen Step l l') :
    l'.Valid ∧ l.Evolves l' := by
  induction h with
  | refl => exact ⟨hl, .refl l⟩
  | tail _ hstep ih =>
    rcases hstep.spec with rfl | hchanges
    · exact ih
    · exact ⟨hchanges.valid, ih.2.trans hchanges.evolves⟩

theorem Valid.compensation_succeeded (h : l.Valid) (ho : o ∈ l.operations)
    (hc : o.compensation ≠ none) : o.state = .succeeded := by
  obtain ⟨c, hc⟩ := Option.ne_none_iff_exists'.mp hc
  obtain ⟨_, _, _, _, hcheck⟩ := WorkflowOperation.validateSyntax_ok_iff.mp (h.operations o ho)
  exact (WorkflowOperation.validateCompensation_ok_iff.mp hcheck c hc).1

/-- After a compensation is recorded, no later call records one for the operation. -/
theorem recordCompensation_once [Blake3] {operationKey : String}
    {policy policy' : WorkflowCompensationPolicy} {compensationKey compensationKey' : String}
    {input input' : Bytes} {l₁ l₂ l₃ : WorkflowOperationLedger}
    (h : (recordCompensation operationKey policy compensationKey input).Returns l () l₁)
    (hrun : Relation.ReflTransGen Step l₁ l₂) :
    ¬(recordCompensation operationKey policy' compensationKey' input').Returns l₂ () l₃ := by
  intro hagain
  have hchanges := changes_recordCompensation h
  obtain ⟨hvalid, _, _, i, revision, hi, _, _, _, rfl⟩ := returns_recordCompensation h
  obtain ⟨hvalid₂, _, _, k, _, hk, _, hnone, _, _⟩ := returns_recordCompensation hagain
  obtain ⟨_, hev⟩ := run_spec hchanges.valid hrun
  -- The operation carries its compensation from the first call to the second.
  have hfirst := hchanges.valid.operation_setOperation (operationKey_of_position hi)
  obtain ⟨o, ho, he⟩ := hev.operation hvalid₂ hfirst
  obtain ⟨c, hc, _⟩ := he.compensation _ rfl
  obtain rfl := Option.some.inj (ho.symm.trans (hvalid₂.operation_of_position hk))
  exact absurd (hnone.symm.trans hc) nofun

/-- In every ledger that any sequence of calls reaches, keys are unique and a compensation
stands on a succeeded operation; operations only evolve; a call that fails leaves the
ledger as it was; a call that succeeds either changes nothing or takes the next revision;
and an operation is compensated at most once. -/
theorem ledger_invariants [Blake3] {l₀ : WorkflowOperationLedger}
    (h₀ : l₀.validateSyntax = .ok ()) (h : Relation.ReflTransGen Step l₀ l)
    (h' : Relation.ReflTransGen Step l l') :
    (l'.operations.map operationKey).Nodup ∧
    (∀ o ∈ l'.operations, o.compensation ≠ none → o.state = .succeeded) ∧
    l.Evolves l' ∧ (∀ (c : LedgerCall) e l'', c.run.Fails l' e l'' → l'' = l') ∧
    (∀ (c : LedgerCall) l'', c.run.Returns l' () l'' → l'' = l' ∨
      l''.operations ≠ l'.operations ∧ l''.revision.toNat = l'.revision.toNat + 1) ∧
    ∀ operationKey policy compensationKey input l₁ l₂ policy' compensationKey' input' l₃,
      (recordCompensation operationKey policy compensationKey input).Returns l' () l₁ →
      Relation.ReflTransGen Step l₁ l₂ →
      ¬(recordCompensation operationKey policy' compensationKey' input').Returns l₂ () l₃ := by
  obtain ⟨hl, _⟩ := run_spec (validateSyntax_ok_iff.mp h₀) h
  obtain ⟨hl', hev⟩ := run_spec hl h'
  refine ⟨hl'.keys, fun o ho hc => hl'.compensation_succeeded ho hc, hev,
    fun c => c.run_keepsOnError l', ?_, ?_⟩
  · intro c l'' hr
    rcases LedgerCall.run_returns hr with heq | hchanges
    · exact .inl heq
    · exact .inr ⟨hchanges.operations, hchanges.revision⟩
  · intro operationKey policy compensationKey input l₁ l₂ policy' compensationKey' input' l₃
    exact recordCompensation_once

/-- One operation is recorded, succeeds and is compensated. -/
theorem ledger_invariants_of_echo :
    ∃ (_ : Blake3) (l : WorkflowOperationLedger), l.revision = 3 ∧
      l.operations.map (fun o => (o.state, o.compensation.map (·.state))) =
        [(.succeeded, some .pending)] ∧
      (l.operations.map operationKey).Nodup ∧
      ∀ (c : LedgerCall) e l', c.run.Fails l e l' → l' = l := by
  let digest : Digest := ⟨replicate 32 7, rfl⟩
  let _ : Blake3 := ⟨fun _ => digest, fun _ _ => digest⟩
  let l₀ : WorkflowOperationLedger := ⟨2, 0, digest.toHex, []⟩
  let l₁ := (LedgerCall.run (.record "step" "echo" "op-1" []) l₀).2
  let l₂ := (LedgerCall.run (.applyVerifiedReconciliation ⟨5, "session", "call", "echo", "op-1"⟩
    ⟨5, "session", "call", "echo", "op-1", .succeeded (.text "ok")⟩) l₁).2
  let l₃ := (LedgerCall.run (.recordCompensation "op-1" ⟨"echo", "tenant", digest.toHex⟩ "cmp-1" [])
    l₂).2
  have h₀ : l₀.validateSyntax = .ok () := by decide
  have h₁ : Relation.ReflTransGen Step l₀ l₂ := .tail (.single ⟨_, rfl⟩) ⟨_, rfl⟩
  have h₂ : Relation.ReflTransGen Step l₂ l₃ := .single ⟨_, rfl⟩
  have h := ledger_invariants h₀ h₁ h₂
  exact ⟨_, l₃, by decide +kernel, by decide +kernel, h.1, h.2.2.2.1⟩

end WorkflowOperationLedger

end Octoscript
