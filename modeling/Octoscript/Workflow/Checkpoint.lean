import Octoscript.Workflow.Encoding
import Octoscript.Workflow.Engine

namespace Octoscript

namespace WorkflowCheckpoint

/-- The fields of a checkpoint after `completedStepCount` steps. -/
def ofPrefix (plan : WorkflowPlan) (completedStepCount : ℕ) (dataFingerprint : Option String)
    (dataContractFingerprint : Option String) : WorkflowCheckpoint where
  formatVersion := workflowCheckpointFormatVersion
  planFingerprint := plan.fingerprint
  completedStepIds := (plan.steps.take completedStepCount).map WorkflowStep.id
  dataFingerprint := dataFingerprint
  dataContractFingerprint := dataContractFingerprint

def forPlan (plan : WorkflowPlan) (completedStepCount : ℕ) :
    Except WorkflowCheckpointError WorkflowCheckpoint := do
  rejectIf (completedStepCount > plan.steps.length)
    (.completedStepCountOutOfRange completedStepCount plan.steps.length)
  let checkpoint := ofPrefix plan completedStepCount none none
  checkpoint.validateSyntax
  return checkpoint

def validatePlanBinding (self : WorkflowCheckpoint) (plan : WorkflowPlan) :
    Except WorkflowCheckpointError Unit := do
  self.validateSyntax
  rejectIf (self.planFingerprint ≠ plan.fingerprint) .planMismatch
  rejectIf (self.completedStepIds.length > plan.steps.length)
    (.completedStepCountOutOfRange self.completedStepIds.length plan.steps.length)
  rejectIf ((self.completedStepIds.zip plan.steps).any (fun pair => pair.1 ≠ pair.2.id) = true)
    .stepPrefixMismatch

def validateFor (self : WorkflowCheckpoint) (plan : WorkflowPlan) :
    Except WorkflowCheckpointError Unit := do
  self.validatePlanBinding plan
  rejectIf (self.dataFingerprint.isSome = true) .dataflowContextRequired

/-- The data is the one that the digest stands for. -/
def validateData [Blake3] (self : WorkflowCheckpoint) (plan : WorkflowPlan) (data : WorkflowData)
    (expectedFingerprint : String) : Except WorkflowCheckpointError Unit := do
  (data.validateForCompletedPrefix plan self.completedStepIds.length).mapError .dataflow
  let actualFingerprint ← data.fingerprint.mapError .dataflow
  rejectIf (actualFingerprint ≠ expectedFingerprint) .dataflowContextMismatch

def validateDataflowFor [Blake3] (self : WorkflowCheckpoint) (plan : WorkflowPlan)
    (data : WorkflowData) : Except WorkflowCheckpointError Unit := do
  self.validatePlanBinding plan
  let expectedFingerprint ← self.dataFingerprint.okOr .dataflowContextRequired
  rejectIf (self.dataContractFingerprint.isSome = true) .dataflowContractRequired
  self.validateData plan data expectedFingerprint

def validateDataflowContractFor [Blake3] (self : WorkflowCheckpoint) (plan : WorkflowPlan)
    (data : WorkflowData) (dataContract : WorkflowDataContract) :
    Except WorkflowCheckpointError Unit := do
  self.validatePlanBinding plan
  let expectedDataFingerprint ← self.dataFingerprint.okOr .dataflowContextRequired
  let expectedContractFingerprint ← self.dataContractFingerprint.okOr .dataflowContractMissing
  self.validateData plan data expectedDataFingerprint
  rejectIf (dataContract.fingerprint ≠ expectedContractFingerprint) .dataflowContractMismatch
  rejectIf (data.contractFingerprint.any (· ≠ expectedContractFingerprint) = true)
    .dataflowContractMismatch

section
variable {c : WorkflowCheckpoint} {plan : WorkflowPlan}

/-- No pair of a step id and a longer plan differs exactly if the ids are a prefix. -/
theorem zip_any_ne_iff {ids : List String} {steps : List WorkflowStep}
    (h : ids.length ≤ steps.length) :
    ¬(ids.zip steps).any (fun pair => pair.1 ≠ pair.2.id) = true ↔
      ids <+: steps.map WorkflowStep.id := by
  induction ids generalizing steps with
  | nil => simp
  | cons id ids ih =>
    cases steps with
    | nil => simp at h
    | cons step steps =>
      rw [List.map_cons, List.cons_prefix_cons, ← ih (Nat.le_of_succ_le_succ h)]
      simp

/-- What binds a checkpoint to a plan, whatever else it carries. -/
theorem validatePlanBinding_ok_iff {u : Unit} : c.validatePlanBinding plan = .ok u ↔
    c.validateSyntax = .ok () ∧ c.planFingerprint = plan.fingerprint ∧
      c.completedStepIds <+: plan.steps.map WorkflowStep.id := by
  simp only [validatePlanBinding, Except.bind_ok_iff, Except.rejectIf_ok_iff, not_not, not_lt]
  constructor
  · rintro ⟨_, hwell, _, hplan, _, hlen, hsteps⟩
    exact ⟨hwell, hplan, (zip_any_ne_iff hlen).mp hsteps⟩
  · rintro ⟨hwell, hplan, hsteps⟩
    have hlen : c.completedStepIds.length ≤ plan.steps.length := by
      simpa using hsteps.length_le
    exact ⟨(), hwell, (), hplan, (), hlen, (zip_any_ne_iff hlen).mpr hsteps⟩

/-- A prefix of a plan that an engine made has the form that the check of a checkpoint asks for. -/
theorem validateSyntax_of_prefix [Blake3] (hplan : plan.Planned)
    (hver : c.formatVersion = workflowCheckpointFormatVersion)
    (hprint : c.planFingerprint = plan.fingerprint)
    (hsteps : c.completedStepIds <+: plan.steps.map WorkflowStep.id)
    (hdata : ∀ fingerprint, c.dataFingerprint = some fingerprint →
      isPlanFingerprint fingerprint = true)
    (hcontract : ∀ fingerprint, c.dataContractFingerprint = some fingerprint →
      isPlanFingerprint fingerprint = true)
    (hcontext : c.dataFingerprint = none → c.dataContractFingerprint = none) :
    c.validateSyntax = .ok () := by
  obtain ⟨hhash, hlen, hids, hnodup⟩ := hplan.spec
  have hform : isPlanFingerprint c.planFingerprint = true := by
    rw [hprint, hhash]
    exact isPlanFingerprint_toHex _
  simp only [validateSyntax, Except.bind_ok_iff, Except.rejectIf_ok_iff, not_not, not_lt,
    Except.checkDistinct_ok_iff, Bool.not_eq_false]
  refine ⟨(), hver, (), hform, (), ?_, (), ?_, (), ?_, (), ?_, ?_, ?_, ?_⟩
  · cases hd : c.dataFingerprint with
    | none => simp
    | some fingerprint => simp [hdata fingerprint hd]
  · cases hc : c.dataContractFingerprint with
    | none => simp
    | some fingerprint => simp [hcontract fingerprint hc]
  · rintro ⟨hsome, hnone⟩
    rw [hcontext (Option.isNone_iff_eq_none.mp hnone)] at hsome
    exact nomatch hsome
  · exact (hsteps.length_le.trans_eq (List.length_map _)).trans hlen
  · intro stepId hmem
    obtain ⟨step, hstep, rfl⟩ := List.mem_map.mp (hsteps.subset hmem)
    exact hids step hstep
  · rw [List.map_id]
    exact hnodup.sublist hsteps.sublist
  · simp

/-- A checkpoint is resumed without data exactly if it is of the current format, belongs to the
plan, names its first steps in order and has no digest of data. -/
theorem validateFor_ok_iff [Blake3] (hplan : plan.Planned) : c.validateFor plan = .ok () ↔
    c.formatVersion = workflowCheckpointFormatVersion ∧ c.planFingerprint = plan.fingerprint ∧
      c.completedStepIds <+: plan.steps.map WorkflowStep.id ∧ c.dataFingerprint = none ∧
      c.dataContractFingerprint = none := by
  simp only [validateFor, Except.bind_ok_iff, Except.rejectIf_ok_iff, validatePlanBinding_ok_iff,
    Bool.not_eq_true, Option.isSome_eq_false_iff, Option.isNone_iff_eq_none]
  constructor
  · rintro ⟨_, ⟨hwell, hprint, hsteps⟩, hnone⟩
    have hvalid := valid_of_validateSyntax hwell
    exact ⟨hvalid.version, hprint, hsteps, hnone, hvalid.context hnone⟩
  · rintro ⟨hver, hprint, hsteps, hnone, hcontract⟩
    refine ⟨(), ⟨?_, hprint, hsteps⟩, hnone⟩
    apply validateSyntax_of_prefix hplan hver hprint hsteps
    · simp [hnone]
    · simp [hcontract]
    · exact fun _ => hcontract

theorem digests_of_validateFor {u : Unit} (h : c.validateFor plan = .ok u) :
    c.dataFingerprint = none := by
  obtain ⟨_, -, hnone⟩ := Except.bind_ok_iff.mp h
  simpa using hnone

theorem digests_of_validateDataflowFor [Blake3] {data : WorkflowData} {u : Unit}
    (h : c.validateDataflowFor plan data = .ok u) :
    c.dataFingerprint ≠ none ∧ c.dataContractFingerprint = none := by
  simp only [validateDataflowFor, Except.bind_ok_iff, Option.okOr_ok_iff, Except.rejectIf_ok_iff,
    Bool.not_eq_true, Option.isSome_eq_false_iff, Option.isNone_iff_eq_none] at h
  obtain ⟨_, -, fingerprint, hdata, _, hcontract, -⟩ := h
  exact ⟨by simp [hdata], hcontract⟩

theorem digests_of_validateDataflowContractFor [Blake3] {data : WorkflowData}
    {dataContract : WorkflowDataContract} {u : Unit}
    (h : c.validateDataflowContractFor plan data dataContract = .ok u) :
    c.dataFingerprint ≠ none ∧ c.dataContractFingerprint ≠ none := by
  simp only [validateDataflowContractFor, Except.bind_ok_iff, Option.okOr_ok_iff] at h
  obtain ⟨_, -, fingerprint, hdata, contract, hcontract, -⟩ := h
  exact ⟨by simp [hdata], by simp [hcontract]⟩

end

/-- A checkpoint is resumed without data exactly if it is of the current format, belongs to the
plan, names its first steps in order and has no digest; and no checkpoint passes two of the three
validations, whatever plans, data and contracts they are given. -/
theorem checkpoint_binding [Blake3] {plan : WorkflowPlan} (hplan : plan.Planned)
    (c : WorkflowCheckpoint) :
    (c.validateFor plan = .ok () ↔
      c.formatVersion = workflowCheckpointFormatVersion ∧ c.planFingerprint = plan.fingerprint ∧
        c.completedStepIds <+: plan.steps.map WorkflowStep.id ∧ c.dataFingerprint = none ∧
        c.dataContractFingerprint = none) ∧
    ∀ (p p' p'' : WorkflowPlan) (data data' : WorkflowData) (dataContract : WorkflowDataContract),
      ¬(c.validateFor p = .ok () ∧ c.validateDataflowFor p' data = .ok ()) ∧
      ¬(c.validateFor p = .ok () ∧
        c.validateDataflowContractFor p'' data' dataContract = .ok ()) ∧
      ¬(c.validateDataflowFor p' data = .ok () ∧
        c.validateDataflowContractFor p'' data' dataContract = .ok ()) := by
  refine ⟨validateFor_ok_iff hplan, fun p p' p'' data data' dataContract => ⟨?_, ?_, ?_⟩⟩
  · rintro ⟨hplain, hflow⟩
    exact (digests_of_validateDataflowFor hflow).1 (digests_of_validateFor hplain)
  · rintro ⟨hplain, hcontract⟩
    exact (digests_of_validateDataflowContractFor hcontract).1 (digests_of_validateFor hplain)
  · rintro ⟨hflow, hcontract⟩
    exact (digests_of_validateDataflowContractFor hcontract).2
      (digests_of_validateDataflowFor hflow).2

/-- The first of two steps is completed. -/
theorem checkpoint_binding_of_first_step : ∃ (_ : Blake3) (plan : WorkflowPlan)
    (c : WorkflowCheckpoint), plan.Planned ∧ plan.steps.length = 2 ∧
      c.completedStepIds = ["build"] ∧ c.validateFor plan = .ok () ∧
      ∀ plan' data, c.validateDataflowFor plan' data ≠ .ok () := by
  let digest : Digest := ⟨List.replicate 32 0, rfl⟩
  let _ : Blake3 := ⟨fun _ => digest, fun _ _ => digest⟩
  let engine : WorkflowEngine :=
    ⟨1, .new (.new 1 none ⟨8, 4096⟩) 0 8, .new 16, 1, none⟩
  have hsteps : validateSteps [⟨"build", "1"⟩, ⟨"ship", "2"⟩] = .ok () := rfl
  have hplan := WorkflowPlan.planned_of_validateSteps hsteps engine
  let c : WorkflowCheckpoint := ⟨1, digest.toHex, ["build"], none, none⟩
  obtain ⟨hiff, hexclusive⟩ := checkpoint_binding hplan c
  have hplain := hiff.mpr ⟨rfl, rfl, by decide, rfl, rfl⟩
  refine ⟨_, _, c, hplan, rfl, rfl, hplain, fun plan' data hflow => ?_⟩
  exact (hexclusive _ plan' plan' data data ⟨⟨.null, ⟨.any, none⟩⟩, []⟩).1 ⟨hplain, hflow⟩

/-- A document of a later format, read without its check, names the plan and no data. -/
theorem checkpoint_of_later_format : ∃ (_ : Blake3) (plan : WorkflowPlan)
    (document : Json.Value) (c : WorkflowCheckpoint), plan.Planned ∧
      deserialize document = some c ∧ c.planFingerprint = plan.fingerprint ∧
      c.completedStepIds <+: plan.steps.map WorkflowStep.id ∧ c.dataFingerprint = none ∧
      c.dataContractFingerprint = none ∧
      c.validateFor plan = .error (.unsupportedVersion 2) := by
  let digest : Digest := ⟨List.replicate 32 0, rfl⟩
  let _ : Blake3 := ⟨fun _ => digest, fun _ _ => digest⟩
  let engine : WorkflowEngine :=
    ⟨1, .new (.new 1 none ⟨8, 4096⟩) 0 8, .new 16, 1, none⟩
  have hsteps : validateSteps [⟨"build", "1"⟩] = .ok () := rfl
  have hplan := WorkflowPlan.planned_of_validateSteps hsteps engine
  let c : WorkflowCheckpoint := ⟨2, digest.toHex, [], none, none⟩
  exact ⟨_, _, c.serialize, c, hplan, deserialize_serialize c, rfl, List.nil_prefix, rfl, rfl, rfl⟩

theorem validateFor_ofPrefix [Blake3] {plan : WorkflowPlan} (hplan : plan.Planned) (n : ℕ) :
    (ofPrefix plan n none none).validateFor plan = .ok () := by
  have htaken : plan.steps.take n <+: plan.steps := ⟨_, List.take_append_drop n plan.steps⟩
  exact (validateFor_ok_iff hplan).mpr ⟨rfl, rfl, htaken.map _, rfl, rfl⟩

theorem validateSyntax_ofPrefix [Blake3] {plan : WorkflowPlan} (hplan : plan.Planned) (n : ℕ) :
    (ofPrefix plan n none none).validateSyntax = .ok () := by
  obtain ⟨_, hbinding, -⟩ := Except.bind_ok_iff.mp (validateFor_ofPrefix hplan n)
  exact (validatePlanBinding_ok_iff.mp hbinding).1

theorem forPlan_ok_iff [Blake3] {plan : WorkflowPlan} (hplan : plan.Planned) {n : ℕ}
    {c : WorkflowCheckpoint} : forPlan plan n = .ok c ↔
      n ≤ plan.steps.length ∧ c = ofPrefix plan n none none := by
  simp [forPlan, Except.bind_ok_iff, validateSyntax_ofPrefix hplan, pure, Except.pure,
    eq_comm (a := c)]

/-- Checkpoints are issued for every number of completed steps that the plan has, and one that was
stored is read back as one that resumes the plan after the same steps. -/
theorem checkpoint_resumes [Blake3] [LawfulRecordReader] {plan : WorkflowPlan}
    (hplan : plan.Planned) (n : ℕ) :
    ((∃ c, forPlan plan n = .ok c) ↔ n ≤ plan.steps.length) ∧
    ∀ c text, forPlan plan n = .ok c → c.toJson = .ok text →
      ∃ c', fromJson text = .ok c' ∧ c'.validateFor plan = .ok () ∧
        c'.completedStepIds = (plan.steps.take n).map WorkflowStep.id := by
  simp only [forPlan_ok_iff hplan]
  constructor
  · simp
  · rintro _ text ⟨-, rfl⟩ htext
    exact ⟨_, fromJson_of_toJson htext, validateFor_ofPrefix hplan n, rfl⟩

theorem checkpoint_resumes_second_step : ∃ (_ : Blake3) (_ : LawfulRecordReader)
    (plan : WorkflowPlan) (c : WorkflowCheckpoint) (text : String), plan.Planned ∧
      forPlan plan 1 = .ok c ∧ c.toJson = .ok text ∧
      ∃ c', fromJson text = .ok c' ∧ c'.validateFor plan = .ok () ∧
        c'.completedStepIds = ["build"] := by
  let digest : Digest := ⟨List.replicate 32 0, rfl⟩
  let hash : Blake3 := ⟨fun _ => digest, fun _ _ => digest⟩
  obtain ⟨reader⟩ := nonempty_lawfulRecordReader
  let plan : WorkflowPlan := ⟨1, 1, digest.toHex, [⟨"build", "1"⟩, ⟨"ship", "2"⟩]⟩
  have hplan : plan.Planned := WorkflowPlan.planned_of_validateSteps rfl
    ⟨1, .new (.new 1 none ⟨8, 4096⟩) 0 8, .new 16, 1, none⟩
  have hc := (forPlan_ok_iff hplan).mpr ⟨show 1 ≤ 2 by decide, rfl⟩
  have htext : (ofPrefix plan 1 none none).toJson = .ok _ := encodeWithin_ok_iff.mpr
    ⟨validateSyntax_ofPrefix hplan 1, ⟨_, show 136 ≤ _ by decide, rfl⟩, by decide +kernel, rfl⟩
  exact ⟨hash, reader, plan, _, _, hplan, hc, htext,
    (checkpoint_resumes hplan 1).2 _ _ hc htext⟩

end WorkflowCheckpoint

end Octoscript
