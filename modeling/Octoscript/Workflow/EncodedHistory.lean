import Octoscript.Workflow.Encoding

namespace Octoscript
open Wire List

namespace WorkflowOperationLedger
variable {l l' : WorkflowOperationLedger}

theorem Valid.toJson_ok_iff (h : l.Valid) : (∃ text, l.toJson = .ok text) ↔
    ∃ bound ≤ maxWorkflowOperationLedgerBytes, l.encodedSizeUpperBound = some bound := by
  constructor
  · rintro ⟨text, htext⟩
    exact (encodeWithin_ok_iff.mp htext).2.1
  · rintro ⟨bound, hle, hbound⟩
    -- The estimate covers the text, so the second measurement passes as well.
    have hsize := h.jsonSize_le
    have heq := h.encodedSizeUpperBound_eq.symm.trans hbound
    rw [Option.some.injEq] at heq
    refine ⟨_, encodeWithin_ok_iff.mpr ⟨validateSyntax_ok_iff.mpr h, ⟨bound, hle, hbound⟩, ?_, rfl⟩⟩
    rw [utf8ByteSize_text]
    omega

/-- After any calls, the ledger is stored and read back exactly when its estimate is within
the limit. -/
theorem fromJson_toJson_iff [Blake3] [LawfulRecordReader] {l₀ : WorkflowOperationLedger}
    (h₀ : l₀.validateSyntax = .ok ()) (h : Relation.ReflTransGen Step l₀ l) :
    (∃ text, l.toJson = .ok text ∧ fromJson text = .ok l) ↔
      ∃ bound ≤ maxWorkflowOperationLedgerBytes, l.encodedSizeUpperBound = some bound := by
  obtain ⟨hvalid, _⟩ := run_spec (validateSyntax_ok_iff.mp h₀) h
  rw [← hvalid.toJson_ok_iff]
  constructor
  · rintro ⟨text, htext, _⟩
    exact ⟨text, htext⟩
  · rintro ⟨text, htext⟩
    exact ⟨text, htext, fromJson_of_toJson htext⟩

/-- One operation is recorded, succeeds and is compensated, and the ledger is stored. -/
theorem fromJson_toJson_of_echo :
    ∃ (_ : Blake3) (_ : LawfulRecordReader) (l₀ l : WorkflowOperationLedger),
      l₀.validateSyntax = .ok () ∧ Relation.ReflTransGen Step l₀ l ∧
      l.operations.map (fun o => (o.state, o.compensation.map (·.state))) =
        [(.succeeded, some .pending)] ∧
      ∃ text, l.toJson = .ok text ∧ fromJson text = .ok l := by
  let digest : Digest := ⟨replicate 32 7, rfl⟩
  let _ : Blake3 := ⟨fun _ => digest, fun _ _ => digest⟩
  obtain ⟨reader⟩ := nonempty_lawfulRecordReader
  let l₀ : WorkflowOperationLedger := ⟨2, 0, digest.toHex, []⟩
  let l₁ := (LedgerCall.run (.record "step" "echo" "op-1" []) l₀).2
  let l₂ := (LedgerCall.run (.applyVerifiedReconciliation ⟨5, "session", "call", "echo", "op-1"⟩
    ⟨5, "session", "call", "echo", "op-1", .succeeded (.text "ok")⟩) l₁).2
  let l₃ := (LedgerCall.run (.recordCompensation "op-1" ⟨"echo", "tenant", digest.toHex⟩ "cmp-1" [])
    l₂).2
  have h₀ : l₀.validateSyntax = .ok () := by decide
  have h₂ : Relation.ReflTransGen Step l₀ l₂ := .tail (.single ⟨_, rfl⟩) ⟨_, rfl⟩
  have h : Relation.ReflTransGen Step l₀ l₃ := .tail h₂ ⟨_, rfl⟩
  have hbound : l₃.encodedSizeUpperBound = some 1015 := by decide +kernel
  exact ⟨_, reader, l₀, l₃, h₀, h, by decide +kernel,
    (fromJson_toJson_iff h₀ h).mpr ⟨1015, by decide, hbound⟩⟩

theorem nextRevision_of_lt (h : l.revision.toNat + 1 < 2 ^ 64) :
    l.nextRevision = .ok (l.revision + 1) :=
  nextRevision_ok_iff.mpr (UInt64.toNat_succ h)

theorem Valid.position_get (h : l.Valid) (i : Fin l.operations.length) :
    l.position (l.operations.get i).operationKey = .ok i := by
  rw [position, Option.okOr_ok_iff, findFinIdx?_eq_some_iff]
  refine ⟨by simp, ?_⟩
  intro k hk
  simp only [Bool.not_eq_true, decide_eq_false_iff_not]
  intro hsame
  have heq := inj_on_of_nodup_map h.keys (get_mem _ k) (get_mem _ i) hsame
  have hindex := nodup_iff_injective_get.mp h.keys.of_map heq
  exact absurd hindex hk.ne

section
variable [Blake3] {stepId tool operationKey : String} {input : Bytes}

theorem record_returns (hl : l.Valid) (hinput : input.length ≤ maxWorkflowOperationInputBytes)
    (hsize : l.operations.length < maxWorkflowOperations)
    (hrev : l.revision.toNat + 1 < 2 ^ 64)
    (hfresh : ∀ existing ∈ l.operations, existing.operationKey ≠ operationKey)
    (hop : WorkflowOperation.validateSyntax ⟨stepId, tool, operationKey,
      workflowOperationInputFingerprint input, .pending, none⟩ = .ok ()) :
    (record stepId tool operationKey input).Returns l ()
      { l with
        operations := l.operations ++ [⟨stepId, tool, operationKey,
          workflowOperationInputFingerprint input, .pending, none⟩]
        revision := l.revision + 1 } := by
  simp only [record, Mut.returns_steps, validateSyntax_ok_iff, validateOperationInputSize,
    Except.rejectIf_ok_iff]
  refine ⟨(), hl, (), not_lt.mpr hinput, not_le.mpr hsize, l.revision + 1,
    nextRevision_of_lt hrev, (), hop, ?_, rfl⟩
  rintro ⟨existing, hmem, hkey⟩
  exact hfresh existing hmem hkey

theorem recordCompensation_returns (hl : l.Valid) {i : Fin l.operations.length}
    {policy : WorkflowCompensationPolicy} {compensationKey : String}
    (hinput : input.length ≤ maxWorkflowOperationInputBytes)
    (hrev : l.revision.toNat + 1 < 2 ^ 64) (hpolicy : policy.validateSyntax = .ok ())
    (htool : (l.operations.get i).tool = policy.tool)
    (hstate : (l.operations.get i).state = .succeeded)
    (hnone : (l.operations.get i).compensation = none)
    (hkey : isValidCompensationKey compensationKey = true) :
    (recordCompensation (l.operations.get i).operationKey policy compensationKey input).Returns l ()
      (l.setOperation i ((l.operations.get i).withCompensation
        ⟨compensationKey, workflowOperationInputFingerprint input, policy.tenantScope,
          policy.grantFingerprint, .pending⟩) (l.revision + 1)) := by
  simp only [recordCompensation, Mut.returns_steps, validateSyntax_ok_iff,
    validateOperationInputSize, Except.rejectIf_ok_iff, not_not]
  exact ⟨(), hl, (), hpolicy, (), not_lt.mpr hinput, i, hl.position_get i, hstate, htool, hnone,
    by simp [hkey], l.revision + 1, nextRevision_of_lt hrev, rfl⟩

end

/-- A worker's report of success for the operation at a place. -/
def successReport (l : WorkflowOperationLedger) (i : Fin l.operations.length) :
    OperationReconcileRequest × OperationReconcileResult :=
  (⟨protocolVersion, "session", "call", (l.operations.get i).tool,
      (l.operations.get i).operationKey⟩,
    ⟨protocolVersion, "session", "call", (l.operations.get i).tool,
      (l.operations.get i).operationKey, .succeeded (.text "ok")⟩)

theorem applyVerifiedReconciliation_returns (hl : l.Valid) {i : Fin l.operations.length}
    (hrev : l.revision.toNat + 1 < 2 ^ 64) (hstate : (l.operations.get i).state = .pending) :
    (applyVerifiedReconciliation (l.successReport i).1 (l.successReport i).2).Returns l .succeeded
      (l.setOperation i ((l.operations.get i).withState .succeeded) (l.revision + 1)) := by
  obtain ⟨_, htool, hkey, _, _⟩ :=
    WorkflowOperation.validateSyntax_ok_iff.mp (hl.operations _ (get_mem _ i))
  simp only [isValidWorkflowOperationKey, Bool.and_eq_true] at hkey
  have hheader : validateOperationHeader protocolVersion "session" "call" (l.operations.get i).tool
      (l.operations.get i).operationKey = .ok () := by
    simp only [validateOperationHeader, Except.bind_ok_iff, validateProtocolVersion_ok_iff,
      validateToken_ok_iff]
    exact ⟨(), trivial, (), by decide, (), by decide, (), isValidOperationToken_iff.mp htool,
      isValidOperationToken_iff.mp hkey.1⟩
  have hstat : (OperationStatus.succeeded (.text "ok")).validate = .ok () := by decide
  have hres : (l.successReport i).2.validate = .ok () := by
    simp only [OperationReconcileResult.validate, Except.bind_ok_iff]
    exact ⟨(), hheader, hstat⟩
  have hobs : WorkflowOperationState.ofStatus (l.successReport i).2.status = .succeeded := rfl
  have hacc : (l.operations.get i).state.accepts .succeeded = true := by rw [hstate]; decide
  have hne : (l.operations.get i).state ≠ .succeeded := by rw [hstate]; decide
  simp only [applyVerifiedReconciliation, Mut.returns_steps, ofProtocol_ok_iff,
    validateSyntax_ok_iff, not_not]
  refine ⟨(), hl, (), hheader, (), hres, ⟨rfl, rfl, rfl, rfl, rfl⟩, i, hl.position_get i, rfl,
    by rw [Bool.not_eq_false]; exact hacc, ?_⟩
  rw [hobs, if_pos hne]
  simp only [Mut.returns_steps]
  exact ⟨l.revision + 1, nextRevision_of_lt hrev, trivial, rfl⟩

/-- The ledger with one more operation at its end. -/
def appended (l : WorkflowOperationLedger) (o : WorkflowOperation) (revision : UInt64) :
    WorkflowOperationLedger := { l with operations := l.operations ++ [o], revision }

def lastIndex (l : WorkflowOperationLedger) (o : WorkflowOperation) (revision : UInt64) :
    Fin (l.appended o revision).operations.length := ⟨l.operations.length, by simp [appended]⟩

@[simp] theorem get_lastIndex (l : WorkflowOperationLedger) (o : WorkflowOperation)
    (revision : UInt64) :
    (l.appended o revision).operations.get (l.lastIndex o revision) = o := by
  simp [appended, lastIndex]

theorem setOperation_lastIndex (l : WorkflowOperationLedger) (o o' : WorkflowOperation)
    (revision revision' : UInt64) :
    (l.appended o revision).setOperation (l.lastIndex o revision) o' revision' =
      l.appended o' revision' := by
  simp [appended, lastIndex, setOperation]

theorem LedgerCall.step [Blake3] {c : LedgerCall} (h : c.run.Returns l () l') : l.Step l' :=
  ⟨c, congrArg Prod.snd h⟩

/-- A ledger with room takes one more operation through its whole life. -/
theorem reaches_compensated [Blake3] {stepId operationKey : String}
    {policy : WorkflowCompensationPolicy} {compensationKey : String} (hl : l.Valid)
    (hsize : l.operations.length < maxWorkflowOperations)
    (hrev : l.revision.toNat + 3 < 2 ^ 64)
    (hfresh : ∀ existing ∈ l.operations, existing.operationKey ≠ operationKey)
    (hstep : isValidStepId stepId = true) (hpolicy : policy.validateSyntax = .ok ())
    (hkey : isValidWorkflowOperationKey operationKey = true)
    (hcmp : isValidCompensationKey compensationKey = true) :
    Relation.ReflTransGen Step l (l.appended ⟨stepId, policy.tool, operationKey,
      workflowOperationInputFingerprint [], .succeeded, some ⟨compensationKey,
        workflowOperationInputFingerprint [], policy.tenantScope, policy.grantFingerprint,
        .pending⟩⟩ (l.revision + 3)) := by
  have htool : isValidOperationToken policy.tool = true := by
    simp only [WorkflowCompensationPolicy.validateSyntax, Except.bind_ok_iff,
      Except.rejectIf_ok_iff, Bool.not_eq_false] at hpolicy
    exact hpolicy.choose_spec.1
  have hinput : ([] : Bytes).length ≤ maxWorkflowOperationInputBytes := Nat.zero_le _
  let o₁ : WorkflowOperation :=
    ⟨stepId, policy.tool, operationKey, workflowOperationInputFingerprint [], .pending, none⟩
  have hnext : (l.revision + 1).toNat = l.revision.toNat + 1 := UInt64.toNat_succ (by omega)
  have hnext' : (l.revision + 1 + 1).toNat = l.revision.toNat + 2 := by
    rw [UInt64.toNat_succ (by omega), hnext]
  -- The intent is recorded.
  have h₁ : (record stepId policy.tool operationKey []).Returns l ()
      (l.appended o₁ (l.revision + 1)) :=
    record_returns hl hinput hsize (by omega) hfresh (WorkflowOperation.validateSyntax_ok_iff.mpr
      ⟨hstep, htool, hkey, isPlanFingerprint_toHex _, rfl⟩)
  have hstep₁ : l.Step (l.appended o₁ (l.revision + 1)) := LedgerCall.step (c := .record ..) h₁
  have hl₁ := (changes_record h₁).valid
  -- The worker reports success.
  have h₂ := applyVerifiedReconciliation_returns hl₁ (i := l.lastIndex o₁ (l.revision + 1))
    (by rw [appended, hnext]; omega) (by rw [get_lastIndex])
  rw [get_lastIndex, setOperation_lastIndex] at h₂
  have hstep₂ := LedgerCall.step (c := .applyVerifiedReconciliation ..) (Mut.returns_bind.mpr
    ⟨_, _, h₂, Mut.returns_pure.mpr ⟨rfl, rfl⟩⟩)
  obtain ⟨hl₂, _⟩ := run_spec hl₁ (.single hstep₂)
  -- The success is compensated.
  have h₃ := recordCompensation_returns hl₂ (i := l.lastIndex (o₁.withState .succeeded) _) hinput
    (by simp only [appended]; omega) hpolicy (by rw [get_lastIndex]; rfl)
    (by rw [get_lastIndex]; rfl) (by rw [get_lastIndex]; rfl) hcmp
  rw [get_lastIndex, setOperation_lastIndex] at h₃
  have hstep₃ := LedgerCall.step (c := .recordCompensation ..) h₃
  have hrun := ((Relation.ReflTransGen.single hstep₁).tail hstep₂).tail hstep₃
  have hthree : l.revision + 1 + 1 + 1 = l.revision + 3 := by
    simp only [add_assoc]
    rfl
  simp only [appended, hthree] at hrun ⊢
  exact hrun

/-- A text of token characters within the limit is a token. -/
theorem isValidOperationToken_ofList {s : List Char} (hne : s ≠ [])
    (h : ∀ c ∈ s, isTokenChar c = true) (hsize : s.length ≤ 128) :
    isValidOperationToken (String.ofList s) = true ∧
      (String.ofList s).utf8ByteSize = s.length := by
  have hascii : ∀ c ∈ s, c.toNat < 128 := by
    intro c hc
    have htoken := h c hc
    simp only [isTokenChar, Bool.or_eq_true, beq_iff_eq] at htoken
    rcases htoken with (((hc | hc) | rfl) | rfl) | rfl
    · have hrange := toNat_of_isLower hc
      omega
    · have hrange := toNat_of_isDigit hc
      omega
    all_goals decide
  have hlen : (String.ofList s).utf8ByteSize = s.length := by
    rw [String.utf8ByteSize_ofList, utf8Len_of_ascii hascii]
  refine ⟨isValidOperationToken_iff.mpr ⟨?_, ?_, ?_⟩, hlen⟩
  · intro hempty
    rw [hempty] at hlen
    exact hne (length_eq_zero_iff.mp hlen.symm)
  · rw [hlen]
    exact hsize
  · rw [String.toList_ofList]
    exact all_eq_true.mpr h

/-- Names of a given length; the keys differ in one character. -/
def longName (length : ℕ) : String := String.ofList (replicate length 'a')

def longKey (length n : ℕ) : String := String.ofList ((replicate length 'a').set n 'b')

def longCompensationKey (length : ℕ) : String :=
  String.ofList ('c' :: 'm' :: 'p' :: '-' :: replicate length 'a')

/-- The `n`-th operation after it was compensated. -/
def longOperation [Blake3] (n : ℕ) : WorkflowOperation :=
  ⟨longName 128, longName 128, longKey 128 n, workflowOperationInputFingerprint [], .succeeded,
    some ⟨longCompensationKey 124, workflowOperationInputFingerprint [], longName 128,
      workflowOperationInputFingerprint [], .pending⟩⟩

theorem longName_valid {m : ℕ} (hpos : 0 < m) (hm : m ≤ 128) :
    isValidOperationToken (longName m) = true ∧ (longName m).utf8ByteSize = m := by
  have hne : replicate m 'a' ≠ [] := by
    simp only [ne_eq, replicate_eq_nil_iff]
    omega
  have htoken : ∀ c ∈ replicate m 'a', isTokenChar c = true := by
    intro c hc
    rw [eq_of_mem_replicate hc]
    decide
  have h := isValidOperationToken_ofList hne htoken (by rw [length_replicate]; exact hm)
  rwa [length_replicate] at h

theorem longCompensationKey_valid {m : ℕ} (hm : m ≤ 124) :
    isValidCompensationKey (longCompensationKey m) = true ∧
      (longCompensationKey m).utf8ByteSize = m + 4 := by
  have h := isValidOperationToken_ofList (s := 'c' :: 'm' :: 'p' :: '-' :: replicate m 'a')
    (cons_ne_nil _ _) ?_ (by simp only [length_cons, length_replicate]; omega)
  · simp only [length_cons, length_replicate] at h
    refine ⟨?_, h.2⟩
    have hhead : "cmp-".toList.isPrefixOf (longCompensationKey m).toList = true := by
      rw [longCompensationKey, String.toList_ofList]
      simp
    rw [isValidCompensationKey, hhead]
    exact h.1
  · intro c hc
    simp only [mem_cons] at hc
    rcases hc with rfl | rfl | rfl | rfl | hc
    iterate 4 decide
    rw [eq_of_mem_replicate hc]
    decide

theorem longKey_valid {m n : ℕ} (hpos : 0 < m) (hm : m ≤ 128) :
    isValidWorkflowOperationKey (longKey m n) = true ∧ (longKey m n).utf8ByteSize = m := by
  obtain ⟨m, rfl⟩ := Nat.exists_eq_succ_of_ne_zero hpos.ne'
  have h := isValidOperationToken_ofList (s := (replicate (m + 1) 'a').set n 'b') ?_ ?_
    (by rw [length_set, length_replicate]; exact hm)
  · rw [length_set, length_replicate] at h
    refine ⟨?_, h.2⟩
    have hhead : "cmp-".toList.isPrefixOf (longKey (m + 1) n).toList = false := by
      rw [longKey, String.toList_ofList, replicate_succ]
      cases n <;> simp [isPrefixOf]
    rw [isValidWorkflowOperationKey, hhead, longKey, h.1]
    rfl
  · rw [replicate_succ]
    cases n <;> simp
  · intro c hc
    rcases mem_or_eq_of_mem_set hc with hc | rfl
    · rw [eq_of_mem_replicate hc]
      decide
    · decide

theorem longKey_ne {m n k : ℕ} (hn : n < m) (h : k ≠ n) : longKey m k ≠ longKey m n := by
  intro heq
  have hat := congrArg (·[n]?) (String.ofList_injective heq)
  simp [hn, h] at hat

theorem sum_addends_longOperation [Blake3] (n : ℕ) : (longOperation n).addends.sum = 1408 := by
  have hkey := (longKey_valid (m := 128) (n := n) (by decide) le_rfl).2
  have hname := (longName_valid (m := 128) (by decide) le_rfl).2
  have hcmp := (longCompensationKey_valid (m := 124) le_rfl).2
  have hinput : (workflowOperationInputFingerprint []).utf8ByteSize = 64 :=
    utf8ByteSize_fingerprint (isPlanFingerprint_toHex _)
  simp only [longOperation, WorkflowOperation.addends, WorkflowCompensation.addends, hkey, hname,
    hcmp, hinput, Option.map_some, Option.getD_some, sum_append, sum_cons,
    sum_nil]
  omega

theorem sum_longOperations [Blake3] (n : ℕ) :
    (((range n).map longOperation).flatMap WorkflowOperation.addends).sum = 1408 * n := by
  induction n with
  | zero => rfl
  | succ n ih =>
    have hlast := sum_addends_longOperation n
    simp only [range_succ, map_append, map_cons, map_nil, flatMap_append,
      flatMap_cons, flatMap_nil, append_nil, sum_append, ih, hlast]
    omega

/-- Calls fill a ledger with operations of the largest size. -/
theorem reaches_long [Blake3] {plan : WorkflowPlan}
    (hplan : isPlanFingerprint plan.fingerprint = true) {n : ℕ} (hn : n ≤ maxWorkflowOperations) :
    ∃ l, Relation.ReflTransGen Step (forPlan plan) l ∧ l.Valid ∧ l.revision.toNat = 3 * n ∧
      l.operations = (range n).map longOperation := by
  induction n with
  | zero => exact ⟨_, .refl, valid_forPlan hplan, rfl, rfl⟩
  | succ n ih =>
    obtain ⟨l, hrun, hvalid, hrev, hops⟩ := ih (by omega)
    have hbound : n < 64 := hn
    have hmore : Relation.ReflTransGen Step l (l.appended (longOperation n) (l.revision + 3)) := by
      have hname := (longName_valid (m := 128) (by decide) le_rfl).1
      refine @reaches_compensated l _ (longName 128) (longKey 128 n)
        ⟨longName 128, longName 128, workflowOperationInputFingerprint []⟩ (longCompensationKey 124)
        hvalid ?_ (by omega) ?_ hname ?_ (longKey_valid (by decide) le_rfl).1
        (longCompensationKey_valid le_rfl).1
      · simpa [hops] using hn
      · intro o ho
        rw [hops] at ho
        obtain ⟨k, hk, rfl⟩ := mem_map.mp ho
        exact longKey_ne (by omega) (mem_range.mp hk).ne
      · have hgrant : isPlanFingerprint (workflowOperationInputFingerprint []) = true :=
          isPlanFingerprint_toHex _
        simp [WorkflowCompensationPolicy.validateSyntax, hname, hgrant]
    refine ⟨_, hrun.trans hmore, (run_spec hvalid hmore).1, ?_, ?_⟩
    · have hthree : (3 : UInt64).toNat = 3 := rfl
      have hadd : (l.revision + 3).toNat = (l.revision.toNat + 3) % 2 ^ 64 := by
        rw [UInt64.toNat_add, hthree]
      simp only [appended]
      omega
    · simp [appended, hops, range_succ]

/-- Forty-seven operations with the longest names, each compensated, are more than the
ledger can store, though it takes sixty-four. -/
theorem toJson_too_large : ∃ (_ : Blake3) (plan : WorkflowPlan) (l : WorkflowOperationLedger),
    Relation.ReflTransGen Step (forPlan plan) l ∧ l.operations.length = 47 ∧
      l.validateSyntax = .ok () ∧ l.toJson = .error .tooLarge := by
  let digest : Digest := ⟨replicate 32 7, rfl⟩
  let _ : Blake3 := ⟨fun _ => digest, fun _ _ => digest⟩
  let plan : WorkflowPlan := ⟨0, 0, digest.toHex, []⟩
  have hplan : isPlanFingerprint plan.fingerprint = true := isPlanFingerprint_toHex digest
  obtain ⟨l, hrun, hvalid, _, hops⟩ := reaches_long (n := 47) hplan (by decide)
  have hbound := hvalid.encodedSizeUpperBound_eq
  rw [hops, sum_longOperations] at hbound
  have hcheck : l.validateSyntax = .ok () := validateSyntax_ok_iff.mpr hvalid
  refine ⟨_, _, l, hrun, by rw [hops]; simp, hcheck, ?_⟩
  rw [toJson, hcheck, hbound]
  rfl

end WorkflowOperationLedger

end Octoscript
