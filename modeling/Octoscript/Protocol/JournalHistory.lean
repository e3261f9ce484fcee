import Octoscript.Lib.History
import Octoscript.Protocol.Journal

namespace Octoscript

open WorkerOperationJournal

/-- `r'` is a later version of the record `r`. -/
structure WorkerOperationRecord.Evolves (r r' : WorkerOperationRecord) : Prop where
  tool : r'.tool = r.tool
  operationKey : r'.operationKey = r.operationKey
  inputFingerprint : r'.inputFingerprint = r.inputFingerprint
  terminal : r.state.IsTerminal → r'.state = r.state
  compensation : ∀ c, r.compensation = some c → ∃ c', r'.compensation = some c' ∧
    c'.compensationKey = c.compensationKey ∧ c'.inputFingerprint = c.inputFingerprint ∧
    c'.grantFingerprint = c.grantFingerprint ∧ (c.state.IsTerminal → c'.state = c.state)

namespace WorkerOperationRecord.Evolves
variable {r r' r'' : WorkerOperationRecord}

theorem refl (r : WorkerOperationRecord) : r.Evolves r :=
  ⟨rfl, rfl, rfl, fun _ => rfl, fun c hc => ⟨c, hc, rfl, rfl, rfl, fun _ => rfl⟩⟩

theorem trans (h : r.Evolves r') (h' : r'.Evolves r'') : r.Evolves r'' where
  tool := h'.tool.trans h.tool
  operationKey := h'.operationKey.trans h.operationKey
  inputFingerprint := h'.inputFingerprint.trans h.inputFingerprint
  terminal ht := by
    have hr := h.terminal ht
    exact (h'.terminal (hr ▸ ht)).trans hr
  compensation c hc := by
    obtain ⟨c', hc', hkey, hinput, hgrant, hstate⟩ := h.compensation c hc
    obtain ⟨c'', hc'', hkey', hinput', hgrant', hstate'⟩ := h'.compensation c' hc'
    refine ⟨c'', hc'', hkey'.trans hkey, hinput'.trans hinput, hgrant'.trans hgrant, fun ht => ?_⟩
    have hs := hstate ht
    exact (hstate' (hs ▸ ht)).trans hs

end WorkerOperationRecord.Evolves

namespace WorkerOperationJournal
variable {r : WorkerOperationRecord} {status : OperationStatus}

/-- Every record of `j` is still at its place in `j'`, in a later version. -/
structure Evolves (j j' : WorkerOperationJournal) : Prop where
  scope : j'.scope = j.scope
  records : ∀ (i : ℕ) r, j.records[i]? = some r → ∃ r', j'.records[i]? = some r' ∧ r.Evolves r'

variable {j j' j'' : WorkerOperationJournal}

theorem Evolves.refl (j : WorkerOperationJournal) : j.Evolves j :=
  ⟨rfl, History.Grows.refl .refl j.records⟩

theorem Evolves.trans (h : j.Evolves j') (h' : j'.Evolves j'') : j.Evolves j'' :=
  ⟨h'.scope.trans h.scope, History.Grows.trans .trans h.records h'.records⟩

theorem Evolves.of_mem (h : j.Evolves j') (hr : r ∈ j.records) :
    ∃ r' ∈ j'.records, r.Evolves r' :=
  History.Grows.of_mem h.records hr

/-- The record of a key evolves into the record of that key. -/
theorem Evolves.operation (h : j.Evolves j') (hvalid : j'.Valid) {key : String}
    {r r' : WorkerOperationRecord} (hr : j.operation key = some r) (hr' : j'.operation key = some r') :
    r.Evolves r' := by
  obtain ⟨later, hmem, he⟩ := h.of_mem (List.mem_of_find?_eq_some hr)
  have hkey : r.operationKey = key := by simpa using List.find?_some hr
  have hlater := hvalid.operation_eq_some_iff.mpr ⟨hmem, he.operationKey.trans hkey⟩
  exact Option.some.inj (hlater.symm.trans hr') ▸ he

theorem evolves_append (j : WorkerOperationJournal) (r : WorkerOperationRecord) :
    j.Evolves { j with records := j.records ++ [r] } :=
  ⟨rfl, History.grows_append .refl j.records [r]⟩

theorem evolves_setRecord {i : Fin j.records.length}
    (h : (j.records.get i).Evolves r) : j.Evolves (j.setRecord i r) :=
  ⟨rfl, History.grows_set .refl h⟩

theorem evolves_of_accepts {observed : WorkerOperationState}
    (h : r.state.accepts observed = true) : r.Evolves (r.withState observed) :=
  ⟨rfl, rfl, rfl, fun ht => WorkerOperationState.eq_of_accepts h ht,
    fun c hc => ⟨c, hc, rfl, rfl, rfl, fun _ => rfl⟩⟩

inductive JournalCall
  | admitOperation (authorized : AuthorizedOperationInvocation)
  | observe (authorized : AuthorizedOperationInvocation) (status : OperationStatus)
  | observeReconciliation (authorized : AuthorizedOperationReconciliation)
      (status : OperationStatus)
  | admitCompensation (authorized : AuthorizedOperationCompensation)
  | observeCompensation (authorized : AuthorizedOperationCompensation) (status : OperationStatus)

namespace JournalCall

/-- The call, whose result is not used here. -/
def run [Blake3] : JournalCall → Call Unit
  | .admitOperation authorized => do
    let _ ← WorkerOperationJournal.admitOperation authorized
  | .observe authorized status => do
    let _ ← WorkerOperationJournal.observe authorized status
  | .observeReconciliation authorized status => do
    let _ ← WorkerOperationJournal.observeReconciliation authorized status
  | .admitCompensation authorized => do
    let _ ← WorkerOperationJournal.admitCompensation authorized
  | .observeCompensation authorized status => do
    let _ ← WorkerOperationJournal.observeCompensation authorized status

end JournalCall

theorem evolves_of_admitOperation [Blake3] {a : AuthorizedOperationInvocation}
    {out : WorkerOperationAdmission} (h : (admitOperation a).Returns j out j') : j.Evolves j' := by
  obtain ⟨_, _, _, _, ⟨_, _, _, rfl⟩ | ⟨_, _, rfl⟩⟩ := returns_admitOperation h
  · exact .refl j'
  · exact evolves_append j _

theorem evolves_of_observe [Blake3] {a : AuthorizedOperationInvocation}
    {out : WorkerOperationState} (h : (observe a status).Returns j out j') : j.Evolves j' := by
  obtain ⟨_, _, _, _, hacc, rfl⟩ := returns_observe h
  exact evolves_setRecord (evolves_of_accepts hacc)

theorem evolves_of_observeReconciliation {a : AuthorizedOperationReconciliation}
    {out : WorkerOperationState}
    (h : (observeReconciliation a status).Returns j out j') : j.Evolves j' := by
  obtain ⟨_, _, _, _, hacc, rfl⟩ := returns_observeReconciliation h
  exact evolves_setRecord (evolves_of_accepts hacc)

theorem evolves_of_admitCompensation [Blake3] {a : AuthorizedOperationCompensation}
    {out : WorkerCompensationAdmission} (h : (admitCompensation a).Returns j out j') :
    j.Evolves j' := by
  obtain ⟨_, _, _, _, _, _, _, ⟨_, _, _, _, rfl⟩ | ⟨hnone, _, rfl⟩⟩ := returns_admitCompensation h
  · exact .refl j'
  · exact evolves_setRecord ⟨rfl, rfl, rfl, fun _ => rfl,
      fun c hc => absurd (hnone.symm.trans hc) (by simp)⟩

theorem evolves_of_observeCompensation [Blake3] {a : AuthorizedOperationCompensation}
    {out : WorkerOperationState}
    (h : (observeCompensation a status).Returns j out j') : j.Evolves j' := by
  obtain ⟨_, _, i, c, _, hc, hacc, rfl⟩ := returns_observeCompensation h
  refine evolves_setRecord ⟨rfl, rfl, rfl, fun _ => rfl, fun c' hc' => ?_⟩
  obtain rfl : c = c' := Option.some.inj (hc.symm.trans hc')
  exact ⟨_, rfl, rfl, rfl, rfl, fun ht => WorkerOperationState.eq_of_accepts hacc ht⟩

namespace JournalCall

theorem run_returns [Blake3] {c : JournalCall} (h : c.run.Returns j () j') :
    j'.Valid ∧ j.Evolves j' := by
  cases c with
  | admitOperation a =>
    simp only [run, Mut.returns_bind, Mut.returns_pure] at h
    obtain ⟨_, _, h, -, rfl⟩ := h
    exact ⟨(returns_admitOperation h).2.1, evolves_of_admitOperation h⟩
  | observe a status =>
    simp only [run, Mut.returns_bind, Mut.returns_pure] at h
    obtain ⟨_, _, h, -, rfl⟩ := h
    exact ⟨(returns_observe h).2.1, evolves_of_observe h⟩
  | observeReconciliation a status =>
    simp only [run, Mut.returns_bind, Mut.returns_pure] at h
    obtain ⟨_, _, h, -, rfl⟩ := h
    exact ⟨(returns_observeReconciliation h).2.1, evolves_of_observeReconciliation h⟩
  | admitCompensation a =>
    simp only [run, Mut.returns_bind, Mut.returns_pure] at h
    obtain ⟨_, _, h, -, rfl⟩ := h
    exact ⟨(returns_admitCompensation h).2.1, evolves_of_admitCompensation h⟩
  | observeCompensation a status =>
    simp only [run, Mut.returns_bind, Mut.returns_pure] at h
    obtain ⟨_, _, h, -, rfl⟩ := h
    exact ⟨(returns_observeCompensation h).2.1, evolves_of_observeCompensation h⟩

theorem run_keepsOnError [Blake3] (c : JournalCall) : c.run.KeepsOnError := by
  cases c with
  | admitOperation a => exact (keepsOnError_admitOperation a).bind_pure
  | observe a status => exact (keepsOnError_observe a status).bind_pure
  | observeReconciliation a status => exact (keepsOnError_observeReconciliation a status).bind_pure
  | admitCompensation a => exact (keepsOnError_admitCompensation a).bind_pure
  | observeCompensation a status => exact (keepsOnError_observeCompensation a status).bind_pure

end JournalCall

/-- One call on the journal, whatever it returns. -/
def Step [Blake3] (j j' : WorkerOperationJournal) : Prop :=
  ∃ c : JournalCall, (c.run j).2 = j'

theorem Step.spec [Blake3] (hj : j.Valid) (h : j.Step j') : j'.Valid ∧ j.Evolves j' := by
  obtain ⟨c, rfl⟩ := h
  cases hr : c.run j with
  | mk r t =>
    cases r with
    | ok u => exact JournalCall.run_returns (c := c) hr
    | error e =>
      obtain rfl : t = j := c.run_keepsOnError j e t hr
      exact ⟨hj, .refl t⟩

theorem run_spec [Blake3] (hj : j.Valid) (h : Relation.ReflTransGen Step j j') :
    j'.Valid ∧ j.Evolves j' := by
  induction h with
  | refl => exact ⟨hj, .refl j⟩
  | tail _ hstep ih =>
    obtain ⟨hvalid, hev⟩ := hstep.spec ih.1
    exact ⟨hvalid, ih.2.trans hev⟩

theorem valid_of_new {scope : String} (h : new scope = .ok j) :
    j.Valid := by
  simp only [new, Except.bind_ok_iff, validateToken_ok_iff] at h
  obtain ⟨_, hscope, h⟩ := h
  obtain rfl := Except.ok.inj h
  refine ⟨rfl, hscope, by simp, by simp, by simp, ?_⟩
  have hplain := all_isPlain_of_token hscope.2.2
  have hsize : scope.utf8ByteSize ≤ 128 := hscope.2.1
  -- The text is a fixed head, the scope and a fixed tail.
  let head := '\x7b' :: (Json.stringChars "format_version" ++
    ':' :: (Json.chars (.nat 2) ++ ',' :: (Json.stringChars "scope" ++ [':'])))
  let tail := ',' :: (Json.stringChars "records" ++ [':', '[', ']', '\x7d'])
  have htext : Json.chars (toJson ⟨workerOperationJournalFormatVersion, scope, []⟩) =
      head ++ (Json.stringChars scope ++ tail) := by
    simp [head, tail, toJson, Json.chars, Json.fieldsChars, workerOperationJournalFormatVersion]
  have hhead : String.utf8Len head = 28 := by decide
  have htail : String.utf8Len tail = 14 := by decide
  rw [Json.encode_length, htext, String.utf8Len_append, String.utf8Len_append, hhead, htail,
    Json.utf8Len_stringChars hplain, maxWorkerOperationJournalBytes]
  omega

/-- A compensation stands only on a succeeded operation. -/
theorem Valid.compensation_succeeded (h : j.Valid)
    (hr : r ∈ j.records) (hc : r.compensation ≠ none) : r.state.kind = .succeeded := by
  have hvalid := h.records r hr
  cases hcomp : r.compensation with
  | none => exact absurd hcomp hc
  | some c =>
    simp only [WorkerOperationRecord.validate, WorkerOperationRecord.validateCompensation, hcomp,
      Except.bind_ok_iff, Except.rejectIf_ok_iff, not_not] at hvalid
    obtain ⟨_, _, _, _, _, _, _, _, _, hkind, _⟩ := hvalid
    exact hkind

/-- In every journal that any sequence of calls reaches from an empty one, the keys
are unique, compensations stand on succeeded operations and the bounds hold; records
only evolve from then on; and a call that fails leaves the journal as it was. -/
theorem journal_invariants [Blake3] {scope : String} {j₀ : WorkerOperationJournal}
    (h₀ : new scope = .ok j₀) (h : Relation.ReflTransGen Step j₀ j)
    (h' : Relation.ReflTransGen Step j j') :
    (j'.records.map WorkerOperationRecord.operationKey).Nodup ∧
    (∀ r ∈ j'.records, r.compensation ≠ none → r.state.kind = .succeeded) ∧
    j'.records.length ≤ maxWorkerOperationRecords ∧
    (Json.encode j'.toJson).length ≤ maxWorkerOperationJournalBytes ∧
    j.Evolves j' ∧
    ∀ (c : JournalCall) e j'', c.run.Fails j' e j'' → j'' = j' := by
  obtain ⟨hj, _⟩ := run_spec (valid_of_new h₀) h
  obtain ⟨hj', hev⟩ := run_spec hj h'
  exact ⟨hj'.keys, fun r hr hc => hj'.compensation_succeeded hr hc, hj'.size, hj'.bytes, hev,
    fun c => c.run_keepsOnError j'⟩

/-- One operation is admitted and then succeeds. -/
theorem journal_invariants_of_hello :
    ∃ (_ : Blake3) (j : WorkerOperationJournal), j.records.map (·.state) = [.succeeded (.text "ok")] ∧
      (j.records.map WorkerOperationRecord.operationKey).Nodup ∧
      ∀ (c : JournalCall) e j', c.run.Fails j e j' → j' = j := by
  -- The digest of the input that binds the text payload "hello".
  let digest : Digest := ⟨[107, 165, 103, 195, 95, 47, 233, 206, 173, 54, 206, 141, 10, 249, 168,
    124, 113, 14, 26, 154, 223, 184, 16, 192, 158, 232, 246, 237, 99, 247, 44, 71], rfl⟩
  let _ : Blake3 := ⟨fun _ => digest, fun _ _ => digest⟩
  let authorized : AuthorizedOperationInvocation :=
    ⟨⟨5, "session", "call-1", "echo", "op-1", .text "hello"⟩, .text "echo", 0⟩
  let j₀ : WorkerOperationJournal := ⟨2, "tenant", []⟩
  let j₁ := (JournalCall.run (.admitOperation authorized) j₀).2
  let j₂ := (JournalCall.run (.observe authorized (.succeeded (.text "ok"))) j₁).2
  have h₀ : new "tenant" = .ok j₀ := by decide +kernel
  have h₁ : Relation.ReflTransGen Step j₀ j₁ := .single ⟨_, rfl⟩
  have h₂ : Relation.ReflTransGen Step j₁ j₂ := .single ⟨_, rfl⟩
  have h := journal_invariants h₀ h₁ h₂
  exact ⟨_, j₂, by decide +kernel, h.1, h.2.2.2.2.2⟩

end WorkerOperationJournal

end Octoscript
