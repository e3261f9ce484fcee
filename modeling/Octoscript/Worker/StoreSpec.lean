import Octoscript.Worker.Invariant

namespace Octoscript
open Wire WriteAhead History Interaction Interaction.Rules AuthenticatedStore Except WorkerOperationJournal

namespace WorkerWorld

section
variable [Blake3] [LawfulEnvelopeReader] [LawfulJournalReader] {P E A : Type} [DecidableEq P]
  {place : StorageRecordKey} {rings : P → StorageKeyring}

def outline (P E A : Type) [DecidableEq P] (place : StorageRecordKey) (rings : P → StorageKeyring) :
    Outline (system P E A place rings) where
  inv := Inv place
  may := May place
  unborn p s := ¬Failed s.log p
  rest := Rest place
  unborn_stable _ _ _ _ _ hq hmay h := hmay.not_failed hq h
  rest_stable _ _ _ _ _ _ hq hmay h := h.stable hq hmay

/-- What a record holds is what opening it gives. -/
theorem journalIn_of_openRecord {ring : StorageKeyring} {key : StorageRecordKey}
    {record : StoredRecord} {opened : AuthenticatedRecord}
    (h : (openRecord ring key record : Except (AuthenticatedStoreError E) _) =
      .ok opened) : journalIn record = journalOf opened.payload := by
  obtain ⟨_, _, _, _, _, _, _, hread, _⟩ := openRecord_ok_iff.mp h
  simp [journalIn, hread, Base64.decode_encode]

theorem journalIn_sealedRecord (storageKey : StorageKey) (keyId : StorageKeyId)
    (key : StorageRecordKey) (revision : UInt64) (payload : Bytes) :
    journalIn (sealedRecord storageKey keyId key revision payload) =
      journalOf payload := by
  simp [journalIn, sealedRecord,
    LawfulEnvelopeReader.fromSlice_encode, sealedEnvelope, Base64.decode_encode]

omit [Blake3] [LawfulEnvelopeReader] in
theorem journalOf_text {j : WorkerOperationJournal} (h : j.Valid) :
    journalOf (utf8 (Json.text j.toJson)) = some j := by
  simp [journalOf, fromUtf8_utf8, LawfulJournalReader.fromStr_text j h, Except.toOption]

variable {p : P} {s : WorkerWorld P E} {ring : StorageKeyring} {session : WorkerSession}

/-- The rules for the calls to the backend. -/
abbrev storeRules (P E A : Type) [DecidableEq P] (place : StorageRecordKey)
    (rings : P → StorageKeyring) : Rules P (WorkerWorld P E) BackendOp (BackendOp.Answer E) :=
  (outline P E A place rings).rules.restrict WorkerOp.backend fun _ a => a

theorem meets_backend (op : BackendOp) {ok : op.Reply → StorageKeyring → WorkerWorld P E → Prop}
    {err : AuthenticatedStoreError E → StorageKeyring → WorkerWorld P E → Prop}
    (K : WorkerWorld P E → Prop) (hK : K s)
    (hstable : ∀ s s' q, Inv place s → q ≠ p → May place q s s' → K s → K s')
    (h : ∀ s', Inv place s' → K s' → ∀ (a : op.Answer E) s'', s'.BackendAnswers place p op a s'' →
      May place p s' s'' ∧ (∀ e, a = .error e → err (.backend e) ring s'') ∧
        ∀ reply, a = .ok reply → ok reply ring s'') :
    (storeRules P E A place rings).Meets p ok err (backend op) ring s := by
  apply meets_perform_bind K hK hstable
  rintro s' hs' hK _ s'' ⟨a, rfl, ha⟩
  obtain ⟨hmay, herr, hok⟩ := h s' hs' hK a s'' ha
  refine ⟨hmay.inv, hmay, ?_⟩
  cases a with
  | ok reply => exact meets_check (fun _ h => nomatch h) fun b hb => Except.ok.inj hb ▸ hok reply rfl
  | error e => exact meets_check (fun _ he => error.inj he ▸ herr e rfl) fun _ h => nomatch h

/-- Loading gives the last journal of the log, with its number. -/
theorem meets_load (K : WorkerWorld P E → Prop) (hK : K s)
    (hstable : ∀ s s' q, Inv place s → q ≠ p → May place q s s' → K s → K s') :
    (storeRules P E A place rings).Meets p (fun loaded _ s' => Inv place s' ∧ K s' ∧
      ∀ opened, loaded = some opened → opened.revision.toNat = s'.log.version ∧
        journalOf opened.payload = some (s'.log.latest (.empty place.name)))
      (fun _ _ s' => Inv place s' ∧ K s') (load place) ring s := by
  apply meets_self_bind
  refine meets_bind (meets_backend (.load place) K hK hstable ?_)
  rintro s' hs' hK a s'' ⟨hans, rfl⟩
  refine ⟨.refl hs', fun _ _ => ⟨hs', hK⟩, fun snapshot hsnap => ?_⟩
  refine meets_check (fun _ _ => ⟨hs', hK⟩) fun loaded hopen => ⟨hs', hK, ?_⟩
  rintro opened rfl
  obtain rfl := hans rfl snapshot hsnap
  obtain ⟨record, hrec, _, hopened⟩ := openSnapshot_ok_some_iff.mp hopen
  obtain ⟨_, _, hrev, _⟩ := openRecord_ok_iff.mp hopened
  obtain ⟨_, hjour⟩ := hs'.stored record hrec
  have hnumber := hs'.numbered
  rw [WorkerWorld.revision, show s''.record = some record from hrec] at hnumber
  exact ⟨hrev ▸ hnumber, (journalIn_of_openRecord hopened).symm.trans hjour⟩

/-- The process knows the journal that stood at a revision, and no write of it failed. -/
def Knows (place : StorageRecordKey) (p : P) (revision : UInt64) (before : WorkerOperationJournal)
    (s : WorkerWorld P E) : Prop :=
  ¬Failed s.log p ∧ s.log.At (.empty place.name) revision.toNat before

omit [DecidableEq P] in
theorem Knows.stable {revision : UInt64} {before : WorkerOperationJournal} {s s' : WorkerWorld P E}
    {q : P} (h : Knows place p revision before s) (hq : q ≠ p) (hmay : May place q s s') :
    Knows place p revision before s' := by
  obtain ⟨new, hlog, hnew⟩ := hmay.of_others hq
  rw [Knows, hlog]
  exact ⟨not_failed_append h.1 hnew, h.2.append new⟩

/-- The process has just replaced the journal `before` by `j`. -/
def JustWrote (place : StorageRecordKey) (p : P) (before j : WorkerOperationJournal)
    (s : WorkerWorld P E) : Prop :=
  ∃ l, s.log = .commit p j :: l ∧ Log.latest (.empty place.name) l = before ∧
    (journalDiscipline place.name).Sound l

variable {before j : WorkerOperationJournal} {revision token : UInt64}

/-- The swap itself: it is committed on the journal the process knows, or not at all. -/
theorem meets_swap {replacement : StoredRecord} (hjour : journalIn replacement = some j)
    (hnumber : replacement.revision.toNat = revision.toNat + 1) (hvalid : j.Valid)
    (hev : before.Evolves j) (h : Knows place p revision before s) :
    (storeRules P E A place rings).Meets p
      (fun outcome _ s' => Inv place s' ∧ ¬Failed s'.log p ∧ ∀ floor, outcome = .stored floor →
        JustWrote place p before j s' ∧ s'.log.version = revision.toNat + 1)
      (fun _ _ s' => Inv place s' ∧ ¬Failed s'.log p)
      (backend (.compareAndSwapFenced place
        (if revision = 0 then none else some revision) replacement token)) ring s := by
  refine meets_backend _ (Knows place p revision before) h
    (fun _ _ _ _ hq hmay h => h.stable hq hmay) ?_
  intro s' hs' hknows a s'' ha
  rcases ha with ⟨_, hcur, _, _, rfl⟩ | ⟨hnot, rfl⟩
  · -- The record is at the known revision, so the last journal is the known one.
    have hver : s'.log.version = revision.toNat := by
      rw [← hs'.numbered, hcur]
      split_ifs with hzero
      · rw [hzero]
        rfl
      · rfl
    have hbefore : s'.log.latest (.empty place.name) = before := by
      have hself := Log.at_self (.empty place.name) s'.log
      rw [hver] at hself
      exact hself.unique hknows.2
    have hlog : (s'.commit p replacement).log = .commit p j :: s'.log := by
      simp [WorkerWorld.commit, hjour]
    have hinv : Inv place (s'.commit p replacement) :=
      hs'.commit hknows.1 hjour hvalid (hbefore ▸ hev) (hver ▸ hnumber)
    have hclean : ¬Failed (s'.commit p replacement).log p := by
      rw [hlog]
      exact not_failed_cons hknows.1 fun _ he => by cases he
    refine ⟨⟨hinv, [.commit p j], hlog, by simp [Entry.process]⟩, fun _ _ => ⟨hinv, hclean⟩,
      fun outcome _ => ⟨hinv, hclean, fun _ _ => ⟨⟨s'.log, hlog, hbefore, hs'.sound⟩, ?_⟩⟩⟩
    rw [hlog, Log.version, hver]
  · exact ⟨.refl hs', fun _ _ => ⟨hs', hknows.1⟩, fun outcome hout => ⟨hs', hknows.1,
      fun floor hfloor => absurd (hout.trans (congrArg _ hfloor)) (hnot rfl floor)⟩⟩

theorem meets_prepare {payload : Bytes} (hpay : journalOf payload = some j)
    (hinv : Inv place s) (h : Knows place p revision before s) :
    (storeRules P E A place rings).Meets p
      (fun prepared _ s' => Inv place s' ∧ Knows place p revision before s' ∧
        prepared.1.toNat = revision.toNat + 1 ∧ prepared.2.revision = prepared.1 ∧
        journalIn prepared.2 = some j)
      (fun _ _ s' => Inv place s' ∧ ¬Failed s'.log p)
      (prepareCompareAndSwap place (if revision = 0 then none else some revision)
        payload) ring s := by
  apply meets_self_bind
  refine meets_check_bind (fun _ _ => ⟨hinv, h.1⟩) fun _ _ => ?_
  refine meets_bind (meets_backend (.load place) _ h
    (fun _ _ _ _ hq hmay h => h.stable hq hmay) ?_)
  rintro s₁ hs₁ hknows a s₂ ⟨_, rfl⟩
  refine ⟨.refl hs₁, fun _ _ => ⟨hs₁, hknows.1⟩, fun snapshot _ => ?_⟩
  refine meets_check (fun _ _ => ⟨hs₁, hknows.1⟩) ?_
  rintro ⟨next, replacement⟩ hprepared
  obtain ⟨_, hnext, rfl, _⟩ := prepareReplacement_ok_iff.mp hprepared
  refine ⟨hs₁, hknows, ?_, rfl, (journalIn_sealedRecord _ _ _ _ _).trans hpay⟩
  rw [hnext]
  split_ifs with hzero
  · rw [hzero]
    rfl
  · rfl

theorem meets_compareAndSwapFenced {payload : Bytes} (hpay : journalOf payload = some j)
    (hvalid : j.Valid) (hev : before.Evolves j) (h : Knows place p revision before s) :
    (storeRules P E A place rings).Meets p
      (fun record _ s' => Inv place s' ∧ ¬Failed s'.log p ∧ JustWrote place p before j s' ∧
        record.revision.toNat = s'.log.version ∧ record.revision > revision)
      (fun _ _ s' => Inv place s' ∧ ¬Failed s'.log p)
      (compareAndSwapFenced place (if revision = 0 then none else some revision)
        payload token) ring s := by
  apply meets_self_bind
  refine meets_bind (meets_backend (.establishFence place token) _ h
    (fun _ _ _ _ hq hmay h => h.stable hq hmay) ?_)
  rintro s' hs' hknows a s'' ⟨fence, rfl⟩
  refine ⟨.setFence hs' fence, fun _ _ => ⟨hs'.setFence fence, hknows.1⟩, fun _ _ => ?_⟩
  refine meets_bind ((meets_prepare hpay (hs'.setFence fence) hknows).mono ?_ fun _ _ _ h => h)
  rintro ⟨next, replacement⟩ _ s₁ ⟨hs₁, hknows, hnext, hnumber, hjour⟩
  refine meets_bind ((meets_swap hjour (hnumber ▸ hnext) hvalid hev hknows).mono ?_
    fun _ _ _ h => h)
  rintro outcome _ s₂ ⟨hs₂, hclean, hwrote⟩
  refine meets_check (fun _ _ => ⟨hs₂, hclean⟩) fun record hrec => ?_
  obtain ⟨rfl, hrev⟩ := finishCompareAndSwap_ok hrec
  obtain ⟨hwrote, hver⟩ := hwrote next rfl
  refine ⟨hs₂, hclean, hwrote, ?_, ?_⟩
  · rw [hrev, hver, hnext]
  · rw [hrev, gt_iff_lt, UInt64.lt_iff_toNat_lt, hnext]
    exact Nat.lt_succ_self _

/-- A write through the store of a session. -/
theorem meets_persist {lease : WorkerJournalLease} (hev : before.Evolves j)
    (hinv : Inv place s) (h : Knows place p revision before s) :
    (outline P E A place rings).rules.Meets p
      (fun number session' s' => session' = session ∧ Inv place s' ∧ ¬Failed s'.log p ∧
        JustWrote place p before j s' ∧ number.toNat = s'.log.version ∧ number > revision)
      (fun _ session' s' => session' = session ∧ Inv place s' ∧ ¬Failed s'.log p)
      ((storeAt place ring).persist j revision lease) session s := by
  refine meets_check_bind (fun _ _ => ⟨rfl, hinv, h.1⟩) fun _ _ => ?_
  refine meets_check_bind (fun _ _ => ⟨rfl, hinv, h.1⟩) fun encoded henc => ?_
  simp only [mapError_ok_iff, encode, bind_ok_iff,
    validateAndBound_ok_iff] at henc
  obtain ⟨_, hvalid, henc⟩ := henc
  obtain rfl := ok.inj henc
  refine meets_bind (meets_mapErr (meets_within ((meets_compareAndSwapFenced (journalOf_text hvalid)
    hvalid hev h).mono ?_ fun _ _ _ h => ⟨rfl, h⟩)))
  rintro record _ s' hs'
  exact meets_pure ⟨rfl, hs'⟩

/-- A session's snapshot is a journal that stood at its revision. -/
theorem meets_loadSnapshot {σ : Type} {receiver : σ} (hclean : ¬Failed s.log p) :
    (outline P E A place rings).rules.Meets p
      (fun snapshot _ s' => Inv place s' ∧ Knows place p snapshot.revision snapshot.journal s')
      (fun _ _ s' => Inv place s' ∧ ¬Failed s'.log p) ((storeAt place ring).load) receiver s := by
  refine meets_bind (meets_mapErr (meets_within ((meets_load (fun s' => ¬Failed s'.log p) hclean
    fun _ _ _ _ hq hmay h => hmay.not_failed hq h).mono ?_ fun _ _ _ h => h)))
  rintro record _ s' ⟨hinv, hclean, hrec⟩
  cases record with
  | none =>
    refine meets_check_bind (fun _ _ => ⟨hinv, hclean⟩) fun journal hjour => meets_pure ?_
    simp only [mapError_ok_iff, new, bind_ok_iff] at hjour
    obtain ⟨_, _, hjour⟩ := hjour
    obtain rfl := ok.inj hjour
    exact ⟨hinv, hclean, s'.log, [], by simp, rfl, rfl⟩
  | some opened =>
    obtain ⟨hver, hopened⟩ := hrec opened rfl
    refine meets_check_bind (fun _ _ => ⟨hinv, hclean⟩) fun encoded henc => ?_
    refine meets_check_bind (fun _ _ => ⟨hinv, hclean⟩) fun journal hjour => meets_pure ?_
    have hlatest : journal = s'.log.latest (.empty place.name) := by
      simp only [mapError_ok_iff, fromJsonForScope,
        fromJson, bind_ok_iff] at hjour
      obtain ⟨_, ⟨_, _, read, hread, _, _, hsame⟩, _, _, hjour⟩ := hjour
      obtain rfl := ok.inj hsame
      obtain rfl := ok.inj hjour
      rw [Option.okOr_ok_iff] at henc
      simpa [journalOf, henc, hread, Except.toOption] using hopened
    refine ⟨hinv, hclean, ?_⟩
    rw [hlatest, hver]
    exact Log.at_self _ _

end

end WorkerWorld

end Octoscript
