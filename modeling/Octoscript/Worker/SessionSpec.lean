import Octoscript.Worker.StoreSpec

namespace Octoscript
open Wire WriteAhead History Interaction Interaction.Rules Except Mut
open WorkerOperationJournal WorkerSession

namespace WorkerOperationJournal
variable [Blake3] {j j' : WorkerOperationJournal} {status : OperationStatus}
  {out : WorkerOperationState}

theorem claims_of_admitOperation {a : AuthorizedOperationInvocation}
    (h : (admitOperation a).Returns j .dispatch j') :
    ¬Claims (.operation a.request.operationKey) j ∧ Claims (.operation a.request.operationKey) j' ∧
      Fits (.dispatch a.request) j' := by
  obtain ⟨_, _, fingerprint, hinput, ⟨_, _, hout, _⟩ | ⟨hnone, _, rfl⟩⟩ := returns_admitOperation h
  · cases hout
  · have hmem := List.mem_append_right j.records (List.mem_singleton_self
      (⟨a.request.tool, a.request.operationKey, fingerprint, .pending, none⟩ :
        WorkerOperationRecord))
    refine ⟨?_, ⟨_, hmem, rfl⟩, _, hmem, rfl, rfl, hinput⟩
    rintro ⟨r, hr, hkey⟩
    exact operation_eq_none_iff.mp hnone r hr hkey

theorem reports_of_admitOperation {a : AuthorizedOperationInvocation}
    (h : (admitOperation a).Returns j (.existing out) j') :
    j' = j ∧ ∀ status, out.asStatus = some status →
      ReportsOperation a.request.operationKey status j := by
  obtain ⟨_, _, _, _, ⟨r, hr, hout, rfl⟩ | ⟨_, hout, _⟩⟩ := returns_admitOperation h
  · obtain rfl := WorkerOperationAdmission.existing.inj hout
    exact ⟨rfl, fun status hstat => ⟨r, hr, hstat⟩⟩
  · cases hout

theorem claims_of_admitCompensation {a : AuthorizedOperationCompensation}
    (h : (admitCompensation a).Returns j .dispatch j') :
    ¬Claims (.compensation a.request.operationKey) j ∧
      Claims (.compensation a.request.operationKey) j' ∧ Fits (.compensate a.request) j' := by
  obtain ⟨hj, _, fingerprint, i, hinput, hi, hkind, ⟨_, _, _, hout, _⟩ | ⟨hnone, _, rfl⟩⟩ :=
    returns_admitCompensation h
  · cases hout
  · have hkey := operationKey_of_position hi
    refine ⟨?_, ⟨_, mem_setRecord i _, hkey, by simp [WorkerOperationRecord.withCompensation]⟩,
      _, mem_setRecord i _, hkey, hkind, _, rfl, fingerprint, hinput, rfl, rfl, rfl⟩
    -- The record of the key is the one that the admission found.
    rintro ⟨r, hr, hrkey, hc⟩
    have hfound := hj.operation_eq_some_iff.mpr ⟨hr, hrkey⟩
    obtain rfl := Option.some.inj ((hj.operation_of_position hi).symm.trans hfound)
    exact hc hnone

theorem reports_of_admitCompensation {a : AuthorizedOperationCompensation}
    (h : (admitCompensation a).Returns j (.existing out) j') :
    j' = j ∧ ∀ status, out.asStatus = some status →
      ReportsCompensation a.request.operationKey status j := by
  obtain ⟨hj, _, _, i, _, hi, _, ⟨c, hc, _, hout, rfl⟩ | ⟨_, hout, _⟩⟩ :=
    returns_admitCompensation h
  · obtain rfl := WorkerCompensationAdmission.existing.inj hout
    exact ⟨rfl, fun status hstat => ⟨_, c, hj.operation_of_position hi, hc, hstat⟩⟩
  · cases hout

omit [Blake3] in
theorem reports_of_setRecord {key : String} {i : Fin j.records.length} (hi : j.position key = .ok i)
    (h : (j.setRecord i ((j.records.get i).withState (.fromStatus status))).Valid) :
    ReportsOperation key status (j.setRecord i ((j.records.get i).withState (.fromStatus status))) :=
  ⟨_, h.operation_eq_some_iff.mpr ⟨mem_setRecord i _, operationKey_of_position hi⟩, by
    simp [WorkerOperationRecord.withState]⟩

theorem reports_of_observe {a : AuthorizedOperationInvocation}
    (h : (observe a status).Returns j out j') :
    ReportsOperation a.request.operationKey status j' := by
  obtain ⟨_, hvalid, i, hi, _, rfl⟩ := returns_observe h
  exact reports_of_setRecord hi hvalid

omit [Blake3] in
theorem reports_of_observeReconciliation {a : AuthorizedOperationReconciliation}
    (h : (observeReconciliation a status).Returns j out j') :
    ReportsOperation a.request.operationKey status j' := by
  obtain ⟨_, hvalid, i, hi, _, rfl⟩ := returns_observeReconciliation h
  exact reports_of_setRecord hi hvalid

theorem reports_of_observeCompensation {a : AuthorizedOperationCompensation}
    (h : (observeCompensation a status).Returns j out j') :
    ReportsCompensation a.request.operationKey status j' := by
  obtain ⟨_, hvalid, i, c, hi, _, _, rfl⟩ := returns_observeCompensation h
  exact ⟨_, _, hvalid.operation_eq_some_iff.mpr
    ⟨mem_setRecord i _, operationKey_of_position hi⟩, rfl, by
      simp [WorkerCompensationRecord.withState]⟩

end WorkerOperationJournal

namespace WorkerWorld

section
variable [Blake3] [LawfulEnvelopeReader] [LawfulJournalReader] {P E A : Type} [DecidableEq P]
  {place : StorageRecordKey} {rings : P → StorageKeyring} {p : P} {s : WorkerWorld P E}
  {session session' : WorkerSession} {α : Type}
variable {tool : String} {frame : AuthenticatedWorkerMessage}

/-- How a frame may fail: only a failed write is a persistence error, and it poisons the
session. -/
structure Ended (place : StorageRecordKey) (p : P)
    (error : WorkerSessionError (StoreError E)) (session : WorkerSession)
    (s : WorkerWorld P E) : Prop where
  inv : Inv place s
  clean : ¬Failed s.log p
  synced : session.poisoned = false → Synced place session s
  poisoned : error.IsPersistence → session.poisoned = true

omit [DecidableEq P] in
theorem Live.ended {error : WorkerSessionError (StoreError E)}
    (h : Live place p session s) (he : ¬error.IsPersistence) : Ended place p error session s :=
  ⟨h.inv, h.clean, fun _ => h.synced, fun hp => absurd hp he⟩

omit [DecidableEq P] in
theorem Live.refused (h : Live place p session s) (error : ProtocolError) :
    Ended place p (.protocol error) session s :=
  h.ended fun he => he

variable {ok : α → WorkerSession → WorkerWorld P E → Prop} {β : Type}
  {f : β → Call E A α}

theorem meets_onAuthorizer_bind {x : SessionAuthorizer.Call β} (h : Live place p session s)
    (hok : ∀ b authorizer, x.Returns session.authorizer b authorizer →
      Live place p (session.setAuthorizer authorizer) s →
      (outline P E A place rings).rules.Meets p ok (Ended place p) (f b)
        (session.setAuthorizer authorizer) s) :
    (outline P E A place rings).rules.Meets p ok (Ended place p)
      (onAuthorizer x >>= f) session s := by
  refine meets_bind (meets_onField (fun b authorizer hx => ?_) fun e authorizer _ => ?_)
  · exact hok b authorizer hx (h.setAuthorizer authorizer)
  · exact (h.setAuthorizer authorizer).refused e

theorem meets_requireAdapter_bind {f : Unit → Call E A α} (h : Live place p session s)
    (hok : (outline P E A place rings).rules.Meets p ok (Ended place p) (f ()) session s) :
    (outline P E A place rings).rules.Meets p ok (Ended place p)
      (requireAdapter tool >>= f) session s := by
  refine meets_bind (meets_self_bind (meets_check (fun e he => ?_) fun _ _ => hok))
  obtain ⟨_, rfl⟩ := rejectIf_error_iff.mp he
  exact h.ended fun he => he

/-- A call to the environment that only asks. -/
theorem meets_ask_bind {op : WorkerOp} {f : op.Answer E A → Call E A α}
    (hask : ∀ (s s' : WorkerWorld P E) (a : op.Answer E A), s.Answers place p op a s' → s' = s)
    (h : Live place p session s) (hok : ∀ a s', Live place p session s' →
      (outline P E A place rings).rules.Meets p ok (Ended place p) (f a) session s') :
    (outline P E A place rings).rules.Meets p ok (Ended place p)
      (Effectful.perform op >>= f) session s := by
  apply meets_perform_bind (Live place p session) h fun _ _ _ _ hq hmay h => h.stable hq hmay
  intro s' hs' hlive a s'' ha
  obtain rfl := hask s' s'' a ha
  exact ⟨hs', .refl hs', hok a s'' hlive⟩

theorem meets_requireDurableContract_bind {f : Unit → Call E A α}
    (h : Live place p session s) (hok : ∀ s', Live place p session s' →
      (outline P E A place rings).rules.Meets p ok (Ended place p) (f ()) session s') :
    (outline P E A place rings).rules.Meets p ok (Ended place p)
      (requireDurableContract tool >>= f) session s := by
  refine meets_bind (meets_requireAdapter_bind h (meets_ask_bind (fun _ _ _ ha => ha) h ?_))
  intro contract s' h'
  refine meets_check (fun e he => ?_) fun _ _ => hok s' h'
  obtain ⟨_, rfl⟩ := rejectIf_error_iff.mp he
  exact h'.ended fun he => he

/-- The answer is sealed as it is. -/
theorem meets_sealResponse {response : WorkerMessage} (h : Live place p session s)
    (hbacked : Backed s.log response) : (outline P E A place rings).rules.Meets p
      (fun frame session' s' => Live place p session' s' ∧ Backed s'.log frame.message)
      (Ended place p) (sealResponse response) session s := by
  refine meets_onField (fun frame authenticator hseal => ⟨h.setAuthenticator authenticator, ?_⟩)
    fun e authenticator _ => (h.setAuthenticator authenticator).refused e
  rw [(SessionAuthenticator.returns_sealFrame hseal).2.2.1]
  exact hbacked

/-- What the frame ends with: results are checked, validated and sealed. -/
theorem meets_finish {result : Except ProtocolError β} {validate : β → SessionAuthorizer.Call Unit}
    {response : β → WorkerMessage} (h : Live place p session s)
    (hbacked : ∀ b, result = .ok b → Backed s.log (response b)) :
    (outline P E A place rings).rules.Meets p
      (fun frame session' s' => Live place p session' s' ∧ Backed s'.log frame.message)
      (Ended place p) (do
        let b ← Effectful.check (result.mapError .protocol)
        onAuthorizer (validate b)
        sealResponse (response b)) session s := by
  refine meets_check_bind (fun e he => ?_) fun b hb => ?_
  · obtain ⟨e', _, rfl⟩ := mapError_error_iff.mp he
    exact h.refused e'
  · refine meets_onAuthorizer_bind h fun _ authorizer _ h' => meets_sealResponse h' ?_
    exact hbacked b (mapError_ok_iff.mp hb)

variable {ring : StorageKeyring} {before : WorkerOperationJournal}

omit [Blake3] [LawfulEnvelopeReader] [LawfulJournalReader] [DecidableEq P] in
theorem returns_finishPersist {number : UInt64} {u : Unit} (h : number > session.journalRevision) :
    (finishPersist before (.ok number : Except (StoreError E) _)).Returns
      session u session' ↔ session' = session.setRevision number := by
  simp [finishPersist, h, eq_comm]

omit [Blake3] [LawfulEnvelopeReader] [LawfulJournalReader] [DecidableEq P] in
theorem poisoned_of_fails {answer : Except (StoreError E) UInt64}
    {failure : JournalPersistenceFailure (StoreError E)}
    (h : (finishPersist before answer).Fails session failure session') :
    session'.poisoned = true := by
  simp only [finishPersist, fails_bind, fails_self, returns_self,
    false_or] at h
  obtain ⟨_, _, ⟨rfl, rfl⟩, h⟩ := h
  cases answer with
  | ok number =>
    simp only at h
    split_ifs at h
    · simp at h
    · simp only [fails_bind, fails_assign, returns_assign, fails_throw,
        false_or] at h
      obtain ⟨_, _, rfl, _, rfl⟩ := h
      rfl
  | error e =>
    simp only [fails_bind, fails_assign, returns_assign, fails_throw,
      false_or] at h
    obtain ⟨_, _, rfl, _, rfl⟩ := h
    rfl

/-- The journal of the session becomes durable, or the session is poisoned. -/
theorem meets_persistJournal (hhealthy : session.poisoned = false)
    (hev : before.Evolves session.journal) (hinv : Inv place s)
    (h : Knows place p session.journalRevision before s) :
    (outline P E A place rings).rules.Meets p
      (fun _ session' s' => Live place p session' s' ∧ session'.journal = session.journal ∧
        JustWrote place p before session.journal s')
      (fun _ session' s' => Inv place s' ∧ ¬Failed s'.log p ∧ session'.poisoned = true)
      (persistJournal (storeAt place ring) before) session s := by
  apply meets_self_bind
  refine meets_bind (meets_attempt ((meets_persist hev hinv h).mono ?_ ?_))
  · rintro number _ s' ⟨rfl, hs', hclean, hwrote, hnumber, hgreater⟩
    refine meets_ofMut (fun _ session' hfinish => ?_) fun e session' hfinish => ?_
    · obtain rfl := (returns_finishPersist hgreater).mp hfinish
      refine ⟨⟨hs', hclean, hhealthy, ?_⟩, rfl, hwrote⟩
      obtain ⟨l, hlog, _⟩ := hwrote
      have hself := Log.at_self (.empty place.name) s'.log
      rw [← hnumber] at hself
      simpa [Synced, hlog, Log.latest] using hself
    · exact ⟨hs', hclean, poisoned_of_fails hfinish⟩
  · rintro error _ s' ⟨rfl, hs', hclean⟩
    refine meets_ofMut (fun _ session' hfinish => ?_) fun e session' hfinish => ?_
    · simp [finishPersist] at hfinish
    · exact ⟨hs', hclean, poisoned_of_fails hfinish⟩

omit [DecidableEq P] in
/-- A failed write ends the frame and poisons the session. -/
theorem ended_of_poisoned {error : WorkerSessionError (StoreError E)}
    (h : Inv place s ∧ ¬Failed s.log p ∧ session.poisoned = true) :
    Ended place p error session s :=
  ⟨h.1, h.2.1, fun hp => absurd (h.2.2.symm.trans hp) (by simp), fun _ => h.2.2⟩

/-- A refused change leaves the journal as it was. -/
theorem meets_onJournal_bind {x : Call β}
    {toError : ProtocolError → WorkerSessionError (StoreError E)}
    (h : Live place p session s) (hkeeps : x.KeepsOnError)
    (hrefused : ∀ e, ¬(toError e).IsPersistence) (hok : ∀ b j, x.Returns session.journal b j →
      (outline P E A place rings).rules.Meets p ok (Ended place p) (f b) (session.setJournal j) s) :
    (outline P E A place rings).rules.Meets p ok (Ended place p)
      (onJournal toError x >>= f) session s := by
  refine meets_bind (meets_onField (fun b j hx => hok b j hx) fun e j hx => ?_)
  obtain rfl := hkeeps _ _ _ hx
  exact h.ended (hrefused e)

/-- A change that was made in memory becomes durable. -/
theorem meets_persistChange {j : WorkerOperationJournal} (h : Live place p session s)
    (hev : session.journal.Evolves j) :
    (outline P E A place rings).rules.Meets p
      (fun _ session' s' => Live place p session' s' ∧ session'.journal = j ∧
        JustWrote place p session.journal j s')
      (fun _ session' s' => Inv place s' ∧ ¬Failed s'.log p ∧ session'.poisoned = true)
      (persistJournal (storeAt place ring) session.journal) (session.setJournal j) s := by
  have hhealthy : (session.setJournal j).poisoned = false := h.healthy
  exact meets_persistJournal hhealthy hev h.inv ⟨h.clean, h.synced⟩

/-- What the journal and the adapter must make of a durable effect for it to be done once;
`Reports status j` says that the record of the effect has the status in `j`. -/
structure Lawful (place : StorageRecordKey) (rings : P → StorageKeyring)
    (effect : DurableEffect E A) (action : WorkerEffect)
    (Reports : OperationStatus → WorkerOperationJournal → Prop) : Prop where
  admit_keeps : effect.admitIntent.KeepsOnError
  admit_new : ∀ j j', effect.admitIntent.Returns j none j' → j.Evolves j' ∧
    ¬Claims action.slot j ∧ Claims action.slot j' ∧
    Fits action j'
  admit_existing : ∀ j state j', effect.admitIntent.Returns j (some state) j' → j' = j ∧
    ∀ status, state.asStatus = some status → Reports status j
  observe_keeps : ∀ status, (effect.observe status).KeepsOnError
  observe_reports : ∀ j status out j', (effect.observe status).Returns j out j' →
    j.Evolves j' ∧ Reports status j'
  not_reports : ∀ scope status, ¬Reports status (.empty scope)
  run_acts : ∀ p session s, Live place p session s →
    (journalDiscipline place.name).Ready p action s.log →
    (outline P E A place rings).rules.Meets p
      (fun _ session' s' => session' = session ∧ Live place p session s') (Ended place p)
      effect.run session s
  indeterminate : ∀ cause, (effect.indeterminate cause).IsPersistence ↔ cause.IsPersistence
  pending : ¬effect.pending.IsPersistence

variable {effect : DurableEffect E A} {action : WorkerEffect}
  {Reports : OperationStatus → WorkerOperationJournal → Prop}

/-- What an effect ends with: a status that is durable. -/
def Settled (place : StorageRecordKey) (Reports : OperationStatus → WorkerOperationJournal → Prop)
    (p : P) (status : OperationStatus) (session : WorkerSession) (s : WorkerWorld P E) : Prop :=
  Live place p session s ∧ ∃ q j, .commit q j ∈ s.log ∧ Reports status j

omit [Blake3] [LawfulEnvelopeReader] [LawfulJournalReader] [DecidableEq P] in
theorem adapterError_not_persistence {error : WorkerAdapterError}
    (h : ∀ cause, (effect.indeterminate cause).IsPersistence ↔ cause.IsPersistence) :
    ¬(effect.adapterError error).IsPersistence := by
  cases error
  all_goals first | exact fun he => he | exact fun he => (h _).mp he

theorem meets_perform (hlaw : Lawful place rings effect action Reports)
    (h : Live place p session s) (hready : (journalDiscipline place.name).Ready p action s.log) :
    (outline P E A place rings).rules.Meets p (Settled place Reports p) (Ended place p)
      (effect.perform (storeAt place ring)) session s := by
  refine meets_requireAdapter_bind h (meets_bind ((hlaw.run_acts p session s h hready).mono ?_
    fun _ _ _ he => he))
  rintro answer _ s₁ ⟨rfl, h₁⟩
  refine meets_check_bind (fun e he => ?_) fun status _ => meets_self_bind ?_
  · obtain ⟨error, _, rfl⟩ := mapError_error_iff.mp he
    exact h₁.ended (adapterError_not_persistence hlaw.indeterminate)
  refine meets_onJournal_bind h₁ (hlaw.observe_keeps status)
    (fun e he => (hlaw.indeterminate _).mp he) fun out j hout => ?_
  obtain ⟨hev, hreports⟩ := hlaw.observe_reports _ _ _ _ hout
  refine meets_bind (meets_mapErr ((meets_persistChange h₁ hev).mono ?_
    fun _ _ _ he => ended_of_poisoned he))
  rintro _ session' s' ⟨h', _, l, hlog, _⟩
  exact meets_pure ⟨h', p, j, by simp [hlog], hreports⟩

theorem meets_settle (hlaw : Lawful place rings effect action Reports)
    (h : Live place p session s) :
    (outline P E A place rings).rules.Meets p (Settled place Reports p) (Ended place p)
      (effect.settle (storeAt place ring)) session s := by
  refine meets_self_bind (meets_onJournal_bind h hlaw.admit_keeps (fun _ he => he) ?_)
  intro existing j hadm
  cases existing with
  | none =>
    -- The intent is durable before the adapter is asked.
    obtain ⟨hev, hfree, hclaims, hfits⟩ := hlaw.admit_new _ _ hadm
    refine meets_bind (meets_mapErr ((meets_persistChange h hev).mono ?_
      fun _ _ _ he => ended_of_poisoned he))
    rintro _ session' s' ⟨h', _, l, hlog, hbefore, hsound⟩
    refine meets_perform hlaw h' ?_
    rw [hlog]
    exact hsound.ready_commit (hbefore ▸ hfree) hclaims hfits
  | some state =>
    obtain ⟨rfl, hreports⟩ := hlaw.admit_existing _ _ _ hadm
    refine meets_check (fun e he => ?_) fun status hstat => ⟨h, ?_⟩
    · obtain rfl : effect.pending = e := by
        cases hs : state.asStatus <;> simp_all [Option.okOr]
      exact h.ended hlaw.pending
    · have hreports := hreports status (Option.okOr_ok_iff.mp hstat)
      rcases h.synced.eq_base_or_mem with hbase | ⟨q, hq⟩
      · exact absurd (hbase ▸ hreports) (hlaw.not_reports _ _)
      · exact ⟨q, _, hq, hreports⟩

/-- Asking an adapter for an effect that is ready. -/
theorem meets_act {op : WorkerOp} {err : WorkerSessionError (StoreError E) →
      WorkerSession → WorkerWorld P E → Prop}
    (hact : ∀ (s s' : WorkerWorld P E) (a : op.Answer E A), s.Answers place p op a s' →
      s' = s.act p action)
    (h : Live place p session s) (hready : (journalDiscipline place.name).Ready p action s.log) :
    (outline P E A place rings).rules.Meets p
      (fun _ session' s' => session' = session ∧ Live place p session s') err
      (Effectful.perform op) session s := by
  apply meets_perform_bind (f := pure) (fun s => Live place p session s ∧
    (journalDiscipline place.name).Ready p action s.log) ⟨h, hready⟩
  · exact fun s s' q _ hq hmay h => ⟨h.1.stable hq hmay, ready_stable h.2 hq hmay⟩
  · rintro s₁ hs₁ ⟨h₁, hready₁⟩ a s₂ ha
    obtain rfl := hact s₁ s₂ a ha
    have hinv := hs₁.act h₁.clean hready₁
    have hclean : ¬Failed (s₁.act p action).log p :=
      not_failed_cons h₁.clean fun _ he => nomatch he
    have hmay : May place p s₁ (s₁.act p action) :=
      ⟨hinv, [.act p action], rfl, by simp [Entry.process]⟩
    exact ⟨hinv, hmay, meets_pure ⟨rfl, hinv, hclean, h₁.healthy, h₁.synced.stable hmay⟩⟩

theorem lawful_dispatchEffect (authorized : AuthorizedOperationInvocation) :
    Lawful place rings (dispatchEffect (E := E) (A := A) authorized)
      (.dispatch authorized.request)
      (ReportsOperation authorized.request.operationKey) where
  admit_keeps := (keepsOnError_admitOperation authorized).bind_pure
  admit_new j j' h := by
    simp only [dispatchEffect, returns_bind, returns_pure] at h
    obtain ⟨admission, _, hadm, hnone, rfl⟩ := h
    cases admission with
    | dispatch =>
      exact ⟨evolves_of_admitOperation hadm,
        claims_of_admitOperation hadm⟩
    | existing state => cases hnone
  admit_existing j state j' h := by
    simp only [dispatchEffect, returns_bind, returns_pure] at h
    obtain ⟨admission, _, hadm, hsome, rfl⟩ := h
    cases admission with
    | dispatch => cases hsome
    | existing state' =>
      obtain rfl := Option.some.inj hsome
      exact reports_of_admitOperation hadm
  observe_keeps := keepsOnError_observe authorized
  observe_reports j status out j' h := ⟨evolves_of_observe h,
    reports_of_observe h⟩
  not_reports scope status := by
    rintro ⟨r, hr, _⟩
    simp [empty, operation] at hr
  run_acts p session s h hready := meets_act (fun _ _ _ ha => ha) h hready
  indeterminate _ := Iff.rfl
  pending h := h

theorem lawful_compensateEffect (authorized : AuthorizedOperationCompensation) :
    Lawful place rings (compensateEffect (E := E) (A := A) authorized)
      (.compensate authorized.request)
      (ReportsCompensation authorized.request.operationKey) where
  admit_keeps := (keepsOnError_admitCompensation authorized).bind_pure
  admit_new j j' h := by
    simp only [compensateEffect, returns_bind, returns_pure] at h
    obtain ⟨admission, _, hadm, hnone, rfl⟩ := h
    cases admission with
    | dispatch =>
      exact ⟨evolves_of_admitCompensation hadm,
        claims_of_admitCompensation hadm⟩
    | existing state => cases hnone
  admit_existing j state j' h := by
    simp only [compensateEffect, returns_bind, returns_pure] at h
    obtain ⟨admission, _, hadm, hsome, rfl⟩ := h
    cases admission with
    | dispatch => cases hsome
    | existing state' =>
      obtain rfl := Option.some.inj hsome
      exact reports_of_admitCompensation hadm
  observe_keeps := keepsOnError_observeCompensation authorized
  observe_reports j status out j' h := ⟨evolves_of_observeCompensation h,
    reports_of_observeCompensation h⟩
  not_reports scope status := by
    rintro ⟨r, _, hr, _⟩
    simp [empty, operation] at hr
  run_acts p session s h hready := meets_act (fun _ _ _ ha => ha) h hready
  indeterminate _ := Iff.rfl
  pending h := h

/-- What a frame that is answered leaves. -/
def Answered (place : StorageRecordKey) (p : P) (frame : AuthenticatedWorkerMessage)
    (session : WorkerSession) (s : WorkerWorld P E) : Prop :=
  Live place p session s ∧ Backed s.log frame.message

theorem meets_handleInvoke {invocation : ToolInvocation} (h : Live place p session s) :
    (outline P E A place rings).rules.Meets p (Answered place p) (Ended place p)
      (handleInvoke invocation) session s := by
  refine meets_onAuthorizer_bind h fun authorized authorizer _ h => ?_
  refine meets_requireAdapter_bind h (meets_ask_bind (fun _ _ _ ha => ha) h fun safety s₁ h₁ => ?_)
  refine meets_check_bind (fun e he => ?_) fun _ _ =>
    meets_ask_bind (fun _ _ _ ha => ha) h₁ fun answer s₂ h₂ => ?_
  · obtain ⟨_, rfl⟩ := rejectIf_error_iff.mp he
    exact h₁.ended fun he => he
  refine meets_check_bind (fun e he => ?_) fun payload _ => meets_finish h₂ fun _ _ => trivial
  obtain ⟨_, _, rfl⟩ := mapError_error_iff.mp he
  exact h₂.ended fun he => he

theorem meets_handleOperationDispatch {request : OperationDispatchRequest}
    (h : Live place p session s) :
    (outline P E A place rings).rules.Meets p (Answered place p) (Ended place p)
      (handleOperationDispatch (storeAt place ring) request) session s := by
  refine meets_onAuthorizer_bind h fun authorized authorizer _ h =>
    meets_requireDurableContract_bind h fun s₁ h₁ => ?_
  refine meets_bind ((meets_settle (lawful_dispatchEffect authorized) h₁).mono ?_
    fun _ _ _ he => he)
  rintro status session' s' ⟨h', q, j, hcommit, hreports⟩
  refine meets_finish h' fun result hres => ⟨q, j, hcommit, ?_⟩
  obtain ⟨hkey, hstat⟩ := OperationReconcileResult.new_ok hres
  rw [hkey, hstat]
  exact hreports

theorem meets_handleCompensation {request : OperationCompensationRequest}
    (h : Live place p session s) :
    (outline P E A place rings).rules.Meets p (Answered place p) (Ended place p)
      (handleCompensation (storeAt place ring) request) session s := by
  refine meets_onAuthorizer_bind h fun authorized authorizer _ h =>
    meets_requireDurableContract_bind h fun s₁ h₁ => ?_
  refine meets_bind ((meets_settle (lawful_compensateEffect authorized) h₁).mono ?_
    fun _ _ _ he => he)
  rintro status session' s' ⟨h', q, j, hcommit, hreports⟩
  refine meets_check_bind (fun e he => ?_) fun binding hbind => meets_finish h' ?_
  · obtain ⟨e', _, rfl⟩ := mapError_error_iff.mp he
    exact h'.refused e'
  intro result hres
  refine ⟨q, j, hcommit, ?_⟩
  obtain ⟨hkey, hstat⟩ := OperationCompensationResult.new_ok hres
  rw [hkey, hstat, OperationCompensationBinding.operationKey_of_new
    (mapError_ok_iff.mp hbind)]
  exact hreports

omit [DecidableEq P] in
/-- Counting a reconciliation touches the counters only. -/
theorem live_of_reserveReconciliation {u : Unit} (h : Live place p session s)
    (hx : (reserveReconciliation (E := E) tool).Returns session u session') :
    Live place p session' s := by
  simp only [reserveReconciliation, returns_bind, returns_self,
    returns_rejectIf, returns_assign] at hx
  obtain ⟨_, _, ⟨rfl, rfl⟩, _, _, ⟨_, rfl⟩, _, _, rfl, _, _, ⟨_, rfl⟩, rfl⟩ := hx
  exact h.congr rfl rfl rfl

omit [DecidableEq P] in
theorem ended_of_reserveReconciliation
    {error : WorkerSessionError (StoreError E)} (h : Live place p session s)
    (hx : (reserveReconciliation tool).Fails session error session') :
    Ended place p error session' s := by
  simp only [reserveReconciliation, fails_bind, returns_self, fails_self,
    fails_rejectIf, returns_rejectIf, fails_assign, returns_assign, false_or, and_false,
    exists_false, or_false] at hx
  obtain ⟨_, _, ⟨rfl, rfl⟩, ⟨⟨_, rfl⟩, rfl⟩ | ⟨_, _, ⟨_, rfl⟩, _, _, rfl, ⟨_, rfl⟩, rfl⟩⟩ := hx
  · exact h.ended fun he => he
  · exact Live.ended (h.congr rfl rfl rfl) fun he => he

theorem meets_handleReconciliation {request : OperationReconcileRequest}
    (h : Live place p session s) :
    (outline P E A place rings).rules.Meets p (Answered place p) (Ended place p)
      (handleReconciliation (storeAt place ring) request) session s := by
  refine meets_onAuthorizer_bind h fun authorized authorizer _ h => meets_self_bind ?_
  refine meets_check_bind (fun e he => ?_) fun _ _ => ?_
  · obtain ⟨e', _, rfl⟩ := mapError_error_iff.mp he
    exact h.refused e'
  refine meets_ofMut_bind (fun _ session₁ hreserve => ?_) fun e session₁ hreserve => ?_
  · have h₁ := live_of_reserveReconciliation h hreserve
    refine meets_requireAdapter_bind h₁ (meets_ask_bind (fun _ _ _ ha => ha) h₁
      fun answer s₂ h₂ => ?_)
    refine meets_check_bind (fun e he => ?_) fun status _ => meets_self_bind ?_
    · obtain ⟨_, _, rfl⟩ := mapError_error_iff.mp he
      exact h₂.ended fun he => he
    refine meets_onJournal_bind h₂
      (keepsOnError_observeReconciliation authorized status)
      (fun _ he => he) fun out j hout => ?_
    refine meets_bind (meets_mapErr ((meets_persistChange h₂
      (evolves_of_observeReconciliation hout)).mono ?_
      fun _ _ _ he => ended_of_poisoned he))
    rintro _ session' s' ⟨h', _, l, hlog, _⟩
    refine meets_finish h' fun result hres => ⟨p, j, by simp [hlog], ?_⟩
    obtain ⟨hkey, hstat⟩ := OperationReconcileResult.new_ok hres
    rw [hkey, hstat]
    exact reports_of_observeReconciliation hout
  · exact ended_of_reserveReconciliation h hreserve

theorem meets_handle (h : Live place p session s) :
    (outline P E A place rings).rules.Meets p (Answered place p) (Ended place p)
      (handle (storeAt place ring) frame) session s := by
  refine meets_self_bind (meets_check_bind (fun e he => ?_) fun _ _ => ?_)
  · obtain ⟨hpois, _⟩ := rejectIf_error_iff.mp he
    exact absurd (h.healthy.symm.trans hpois) (by simp)
  refine meets_bind (meets_onField (fun message authenticator _ => ?_) fun e authenticator _ =>
    (h.setAuthenticator authenticator).refused e)
  have h' := h.setAuthenticator authenticator
  have hunexpected : ∀ text, (outline P E A place rings).rules.Meets p (Answered place p)
      (Ended place p) (Effectful.check (.error (.unexpectedMessage text)) :
        Call E A AuthenticatedWorkerMessage) (session.setAuthenticator authenticator)
      s := fun text => meets_check (fun e he => error.inj he ▸ h'.ended fun he => he)
        fun _ h => nomatch h
  cases message with
  | invoke invocation => exact meets_handleInvoke h'
  | dispatchOperation request => exact meets_handleOperationDispatch h'
  | compensateOperation request => exact meets_handleCompensation h'
  | reconcileOperation request => exact meets_handleReconciliation h'
  | _ => exact hunexpected _

/-- A session starts from what it loaded. -/
theorem meets_openSession {provenance : ℕ} {openingFrame : AuthenticatedWorkerMessage}
    {journal : WorkerOperationJournal} {revision : UInt64} {adapters : Finset String}
    {limits : WorkerSessionLimits} {authenticator : SessionAuthenticator} (hinv : Inv place s)
    (h : Knows place p revision journal s) :
    (outline P E A place rings).rules.Meets p
      (fun session _ s' => Live place p session s') (fun _ _ s' => Inv place s')
      (openSession provenance openingFrame journal revision adapters limits)
      authenticator s := by
  refine meets_self_bind (meets_check_bind (fun _ _ => hinv) fun _ _ => ?_)
  refine meets_bind (meets_mapErr (meets_ofMut (fun message _ _ => ?_) fun _ _ _ => hinv))
  refine meets_check_bind (fun _ _ => hinv) fun manifest _ => ?_
  refine meets_check_bind (fun _ _ => hinv) fun authorizer _ => ?_
  refine meets_check_bind (fun _ _ => hinv) fun _ _ => ?_
  refine meets_perform_bind (Knows place p revision journal) h
    (fun _ _ _ _ hq hmay h => h.stable hq hmay) ?_
  rintro s₁ hs₁ h₁ answer s₂ ⟨fence, rfl⟩
  have hs₂ : Inv place { s₁ with fence } := hs₁.setFence fence
  refine ⟨hs₂, .setFence hs₁ fence, meets_check_bind (fun _ _ => hs₂) fun token _ => ?_⟩
  exact meets_check_bind (fun _ _ => hs₂) fun lease _ =>
    meets_self_bind (meets_pure ⟨hs₂, h₁.1, rfl, h₁.2⟩)

omit [DecidableEq P] in
theorem May.note {handled : Handled E} (h : Inv place (s.note p (some handled))) :
    May place p s (s.note p (some handled)) :=
  ⟨h, [.note p handled], rfl, by simp [Entry.process]⟩

theorem post_of_answered (h : Answered place p frame session s) :
    (outline P E A place rings).Post p (some (.ok frame), some session) s := by
  obtain ⟨hlive, hbacked⟩ := h
  have hinv : Inv place (s.note p (some (.ok frame))) :=
    hlive.inv.note (fun _ he => ok.inj he ▸ hbacked) fun hfail => absurd hfail hlive.clean
  refine ⟨hinv, .note hinv, ?_⟩
  rintro _ ⟨⟩ _
  exact ⟨not_failed_cons hlive.clean fun _ he => (nomatch (Entry.note.inj he).2),
    hlive.synced.stable (.note hinv)⟩

theorem post_of_ended {error : WorkerSessionError (StoreError E)}
    (h : Ended place p error session s) :
    (outline P E A place rings).Post p (some (.error error), some session) s := by
  have hinv : Inv place (s.note p (some (.error error))) :=
    h.inv.note (fun _ he => nomatch he) fun hfail => absurd hfail h.clean
  refine ⟨hinv, .note hinv, ?_⟩
  rintro _ ⟨⟩ hhealthy
  refine ⟨not_failed_cons h.clean ?_, (h.synced hhealthy).stable (.note hinv)⟩
  intro error' he hpersistence
  obtain rfl := Except.error.inj (Entry.note.inj he).2
  exact absurd (hhealthy.symm.trans (h.poisoned hpersistence)) (by simp)

/-- A poisoned session refuses the frame and does nothing. -/
theorem meets_handle_poisoned (h : session.poisoned = true) :
    (outline P E A place rings).rules.Meets p (fun _ _ _ => False)
      (fun error session' s' => error = .sessionPoisoned ∧ session' = session ∧ s' = s)
      (handle (storeAt place ring) frame) session s := by
  refine meets_self_bind (meets_check_bind (fun e he => ?_) fun _ hok => ?_)
  · obtain ⟨_, rfl⟩ := rejectIf_error_iff.mp he
    exact ⟨rfl, rfl, rfl⟩
  · exact absurd h (rejectIf_ok_iff.mp hok)

theorem outline_valid : (outline P E A place rings).Valid where
  start p t s := by
    rintro ⟨provenance, openingFrame, adapters, limits, authenticator, rfl⟩ hinv hclean
    have hstart : (outline P E A place rings).rules.Meets p (fun session _ s' =>
        Live place p session s') (fun _ _ s' => Inv place s') (startSession (storeAt place (rings p))
          provenance openingFrame adapters limits) authenticator s :=
      meets_bind (meets_mapErr ((meets_loadSnapshot hclean).mono
        (fun _ _ _ h => meets_mapErr (meets_openSession h.1 h.2)) fun _ _ _ h => h.1))
    refine Ensures.bind (Ensures.mono hstart ?_)
    rintro ⟨result, _⟩ s' ⟨hok, herr⟩
    cases result with
    | ok session =>
      have h := hok session rfl
      refine ⟨h.inv, .refl h.inv, ?_⟩
      rintro _ ⟨⟩ _
      exact ⟨h.clean, h.synced⟩
    | error e => exact ⟨herr e rfl, .refl (herr e rfl), fun _ h => nomatch h⟩
  serve p session frame s hinv hrest := by
    cases hpois : session.poisoned with
    | false =>
      obtain ⟨hclean, hsynced⟩ := hrest hpois
      exact (meets_handle ⟨hinv, hclean, hpois, hsynced⟩).answer
        (fun _ _ _ => post_of_answered) fun _ _ _ => post_of_ended
    | true =>
      refine (meets_handle_poisoned hpois).answer (fun _ _ _ h => h.elim) ?_
      rintro _ _ s' ⟨rfl, rfl, rfl⟩
      have hinv' : Inv place (s'.note p (some (.error .sessionPoisoned))) :=
        hinv.note (fun _ he => nomatch he) fun _ => rfl
      refine ⟨hinv', .note hinv', ?_⟩
      rintro _ ⟨⟩ hhealthy
      exact absurd (hhealthy.symm.trans hpois) (by simp)

end

end WorkerWorld

end Octoscript
