import Octoscript.Capabilities.AuditStore

namespace Octoscript
open Wire History WriteAhead Interaction Interaction.Rules Option
open CapabilityAuditStore (Call appendAttempts appendBatch decode extend load write)
open CapabilityAuditJournal (appendBatch encode encodedLen fromJsonWithCapacity)

/-- A valid journal whose events are the ones of the source. -/
structure CapabilityAuditJournal.Kept (source : ℕ → AuditEvent) (j : CapabilityAuditJournal) :
    Prop where
  valid : j.Valid maxDurableCapabilityAuditEvents
  events : ∀ event ∈ j.events, event = source event.number

namespace CapabilityAuditJournal
variable {source : ℕ → AuditEvent} {j j' : CapabilityAuditJournal} {batch : AuditEventBatch}

theorem Kept.segment (h : j.Kept source) : j.events = (List.range' j.firstEventSequence.toNat
      (j.nextEventSequence.toNat - j.firstEventSequence.toNat)).map source := by
  have hlen : j.nextEventSequence.toNat - j.firstEventSequence.toNat = j.events.length := by
    rw [h.valid.next, Nat.add_sub_cancel_left]
  rw [hlen]
  exact h.valid.numbered.eq_map h.events

/-- An append of a batch of the source leaves a journal of the source that reaches
further. -/
theorem kept_of_returns {maxEvents : ℕ+} {n : ℕ}
    (hbound : (maxEvents : ℕ) ≤ maxDurableCapabilityAuditEvents) (hfrom : batch.From source)
    (hj : ∀ event ∈ j.events, event = source event.number) (hn : n ≠ 0)
    (h : (appendBatch batch maxEvents).Returns j n j') :
    j'.Kept source ∧ j.Evolves j' ∧ j.nextEventSequence < j'.nextEventSequence ∧
      j'.nextEventSequence = batch.nextEventSequence := by
  obtain ⟨rfl, _⟩ | ⟨_, hlt, hev, hnext, hvalid, hevs⟩ := returns_appendBatch h
  · exact absurd rfl hn
  · refine ⟨⟨{ hvalid with length := hvalid.length.trans hbound }, fun e he => ?_⟩, hev,
      hnext ▸ hlt, hnext⟩
    exact (hevs e he).elim (hj e) (hfrom e)

end CapabilityAuditJournal

namespace AuditWorld
variable {P E : Type} [AuditJournalReader] {source : ℕ → AuditEvent}
variable {record : AuthenticatedRecord}

/-- A failed append committed nothing; or storage failed, and its one commit is the journal up to
the end of the batch. -/
def Failed (p : P) (batch : AuditEventBatch) (error : CapabilityAuditStoreError E)
    (log : Log P (Option CapabilityAuditJournal) Empty (Appended E)) : Prop :=
  log.Quiet p ∨ (∃ cause, error = .storage cause) ∧
    log.Once p fun v => ∃ j, v = some j ∧ j.nextEventSequence = batch.nextEventSequence

structure Inv (source : ℕ → AuditEvent) (s : AuditWorld P E) : Prop where
  sound : auditDiscipline.Sound s.log
  kept : ∀ p v, .commit p v ∈ s.log → ∃ j, v = some j ∧ j.Kept source
  rises : Each (fun e earlier => ∀ p j j₀, e = .commit p (some j) →
    Log.latest none earlier = some j₀ → j₀.nextEventSequence < j.nextEventSequence) s.log
  numbered : s.record.elim 0 (·.revision.toNat) = s.log.version
  stored : s.persisted = s.log.latest none
  present : s.record ≠ none → s.persisted ≠ none
  failed : Each (fun e earlier => ∀ p batch error, e = .note p (batch, .error error) →
    Failed p batch error earlier) s.log

/-- A process adds entries of its own. -/
structure May (source : ℕ → AuditEvent) (p : P) (s s' : AuditWorld P E) : Prop where
  inv : Inv source s'
  grows : ∃ new, s'.log = new ++ s.log ∧ ∀ e ∈ new, e.process = p

variable {p q : P} {s s' : AuditWorld P E} {j : CapabilityAuditJournal}

theorem inv_initial : Inv source (initial : AuditWorld P E) where
  sound := Discipline.sound_nil
  kept _ _ h := nomatch h
  rises := each_nil _
  numbered := rfl
  stored := rfl
  present h := absurd rfl h
  failed := each_nil _

theorem May.refl (h : Inv source s) : May source p s s := ⟨h, [], rfl, fun _ he => nomatch he⟩

theorem May.quiet (h : May source q s s') (hq : q ≠ p) (hquiet : s.log.Quiet p) :
    s'.log.Quiet p := by
  obtain ⟨new, hlog, hnew⟩ := h.grows
  rw [hlog]
  exact hquiet.append fun e he => hnew e he ▸ hq

theorem Inv.kept_latest (h : Inv source s) (hj : s.log.latest none = some j) : j.Kept source := by
  obtain hbase | ⟨p, hmem⟩ := Log.latest_eq_base_or_mem none s.log
  · simp [hj] at hbase
  · obtain ⟨j', hj', hkept⟩ := h.kept p _ hmem
    obtain rfl := some.inj (hj.symm.trans hj')
    exact hkept

theorem Inv.commit (h : Inv source s)
    (hjour : auditJournalOf record.payload = some j) (hkept : j.Kept source)
    (hnumber : record.revision.toNat = s.log.version + 1)
    (hfol : ∀ j₀, s.log.latest none = some j₀ →
      j₀.Evolves j ∧ j₀.nextEventSequence < j.nextEventSequence) :
    Inv source (s.commit p record) := by
  have hlog : (s.commit p record).log = .commit p (some j) :: s.log := by
    simp [AuditWorld.commit, hjour]
  constructor
  · rw [hlog]
    exact h.sound.commit fun j₀ hj₀ => ⟨j, rfl, (hfol j₀ hj₀).1⟩
  · rw [hlog]
    intro q v hmem
    rcases List.mem_cons.mp hmem with he | hmem
    · obtain ⟨-, rfl⟩ := Entry.commit.inj he
      exact ⟨j, rfl, hkept⟩
    · exact h.kept q v hmem
  · rw [hlog]
    refine each_cons.mpr ⟨fun q j' j₀ he hj₀ => ?_, h.rises⟩
    obtain ⟨-, hj⟩ := Entry.commit.inj he
    obtain rfl := some.inj hj
    exact (hfol j₀ hj₀).2
  · rw [hlog]
    exact hnumber
  · rw [hlog]
    exact hjour
  · intro _
    simp [persisted, AuditWorld.commit, hjour]
  · rw [hlog]
    exact each_cons.mpr ⟨fun _ _ _ he => (nomatch he), h.failed⟩

theorem May.commit (h : Inv source (s.commit p record)) :
    May source p s (s.commit p record) :=
  ⟨h, [.commit p (auditJournalOf record.payload)], rfl, by simp [Entry.process]⟩

theorem Inv.note {appended : Appended E} (h : Inv source s)
    (hfailed : ∀ error, appended.2 = .error error → Failed p appended.1 error s.log) :
    Inv source (s.note p (some appended)) where
  sound := h.sound.note appended
  kept q v hmem := h.kept q v (by simpa [AuditWorld.note] using hmem)
  rises := each_cons.mpr ⟨fun _ _ _ he => (nomatch he), h.rises⟩
  numbered := h.numbered
  stored := h.stored
  present := h.present
  failed := by
    refine each_cons.mpr ⟨fun q batch error he => ?_, h.failed⟩
    obtain ⟨rfl, rfl⟩ := Entry.note.inj he
    exact hfailed error rfl

def outline (P E : Type) [DecidableEq P] (source : ℕ → AuditEvent) : Outline (system P E source) where
  inv := Inv source
  may := May source
  unborn p s := s.log.Quiet p
  rest p _ s := s.log.Quiet p
  unborn_stable _ _ _ _ _ hq hmay h := hmay.quiet hq h
  rest_stable _ _ _ _ _ _ hq hmay h := hmay.quiet hq h

/-- What a recorder saw: it has committed nothing since, and at this revision the journal
was this one. -/
structure Seen (p : P) (revision : Option UInt64) (v : Option CapabilityAuditJournal)
    (s : AuditWorld P E) : Prop where
  quiet : s.log.Quiet p
  atRevision : s.log.At none (revision.elim 0 UInt64.toNat) v

theorem Seen.stable {revision : Option UInt64} {v : Option CapabilityAuditJournal}
    (h : Seen p revision v s) (hq : q ≠ p) (hmay : May source q s s') : Seen p revision v s' := by
  refine ⟨hmay.quiet hq h.quiet, ?_⟩
  obtain ⟨new, hlog, _⟩ := hmay.grows
  rw [hlog]
  exact h.atRevision.append new

omit [AuditJournalReader] in
/-- While the revision stands, the journal is the one that was seen. -/
theorem Seen.latest {revision : Option UInt64} {v : Option CapabilityAuditJournal}
    (h : Seen p revision v s) (hver : s.log.version = revision.elim 0 UInt64.toNat) :
    s.log.latest none = v :=
  Log.At.unique (Log.at_self none s.log) (hver ▸ h.atRevision)

/-- A recorder reads the journal that the payload holds. -/
theorem decode_ok {store : CapabilityAuditStore}
    {persisted : PersistedCapabilityAuditJournal} (h : store.decode record = .ok persisted) :
    persisted.storageRevision = record.revision ∧
      auditJournalOf record.payload = some persisted.journal := by
  simp only [decode, fromJsonWithCapacity,
    Except.bind_ok_iff, Except.rejectIf_ok_iff, okOr_ok_iff] at h
  obtain ⟨document, hdocument, journal, ⟨_, _, _, _, wire, hwire, journal', hread, _, _, hsame⟩, _, _,
    _, _, h⟩ := h
  obtain rfl := Except.ok.inj hsame
  obtain rfl := Except.ok.inj h
  exact ⟨rfl, by simp [auditJournalOf, hdocument, hwire, hread, Except.toOption]⟩

end AuditWorld

namespace AuditWorld
variable {P E : Type} [DecidableEq P] [LawfulAuditJournalReader] {source : ℕ → AuditEvent} {p : P}
  {s : AuditWorld P E} {store : CapabilityAuditStore} {batch : AuditEventBatch}
  {j j' : CapabilityAuditJournal} {revision : Option UInt64} {payload : Bytes}
variable {record : AuthenticatedRecord}

omit [DecidableEq P] in
theorem auditJournalOf_text (j : CapabilityAuditJournal) :
    auditJournalOf (utf8 (Json.text j.toJson)) = some j := by
  simp [auditJournalOf, fromUtf8_utf8, LawfulAuditJournalReader.fromStr_text,
    CapabilityAuditJournal.ofWire_wire, Except.toOption]

theorem meets_load (hquiet : s.log.Quiet p) :
    (outline P E source).rules.Meets p
      (fun existing store' s' => store' = store ∧ Inv source s' ∧
        Seen p (existing.map (·.storageRevision)) (existing.map (·.journal)) s')
      (fun _ _ s' => Inv source s' ∧ s'.log.Quiet p) load store s := by
  apply meets_self_bind
  refine meets_perform_bind (fun s => s.log.Quiet p) hquiet
    (fun _ _ _ _ hq hmay h => hmay.quiet hq h) ?_
  rintro s' hs' hquiet answer s'' ⟨hans, rfl⟩
  refine ⟨hs', .refl hs', meets_check_bind (fun _ _ => ⟨hs', hquiet⟩) fun record hrec => ?_⟩
  obtain rfl : s''.record = record := by
    obtain rfl | ⟨error, rfl⟩ := hans
    · simpa [Except.mapError] using hrec
    · simp [Except.mapError] at hrec
  have hnum := hs'.numbered
  have hstored := hs'.stored
  cases hcase : s''.record with
  | none =>
    refine meets_pure ⟨rfl, hs', hquiet, ?_⟩
    rw [hcase] at hnum
    rw [persisted, hcase] at hstored
    have hself := Log.at_self none s''.log
    rwa [← hnum, ← hstored] at hself
  | some record =>
    refine meets_check_bind (fun _ _ => ⟨hs', hquiet⟩) fun persisted hpersisted =>
      meets_pure ⟨rfl, hs', hquiet, ?_⟩
    obtain ⟨hrev, hjour⟩ := decode_ok (Except.mapError_ok_iff.mp hpersisted)
    rw [hcase] at hnum
    rw [AuditWorld.persisted, hcase, bind_some, hjour] at hstored
    have hself := Log.at_self none s''.log
    rw [← hnum, ← hstored, elim_some, ← hrev] at hself
    exact hself

/-- A write is made on the journal that the recorder saw. -/
theorem meets_write {β : Type} {ok : β → CapabilityAuditStore → AuditWorld P E → Prop}
    {err : CapabilityAuditStoreError E → CapabilityAuditStore → AuditWorld P E → Prop}
    {f : Except (AuthenticatedStoreError E) AuthenticatedRecord → Call E β}
    {v : Option CapabilityAuditJournal}
    (hpay : auditJournalOf payload = some j) (hkept : j.Kept source)
    (hfol : ∀ j₀, v = some j₀ → j₀.Evolves j ∧ j₀.nextEventSequence < j.nextEventSequence)
    (hseen : Seen p revision v s)
    (hmade : ∀ record answer s', Inv source s' → s'.log.Once p (· = some j) →
      Reports record answer → (outline P E source).rules.Meets p ok err (f answer) store s')
    (herr : ∀ error s', Inv source s' → s'.log.Quiet p →
      (outline P E source).rules.Meets p ok err (f (.error error)) store s') :
    (outline P E source).rules.Meets p ok err (write revision payload >>= f)
      store s := by
  -- In both kinds of write the new revision is one after the version that was seen.
  have hcommit : ∀ (s' : AuditWorld P E) record, Inv source s' → Seen p revision v s' →
      s'.log.version = revision.elim 0 UInt64.toNat → record.payload = payload →
      record.revision.toNat = s'.log.version + 1 → Inv source (s'.commit p record) ∧
        (s'.commit p record).log.Once p (· = some j) := by
    rintro s' record hs' hseen' hver rfl hnumber
    have hlatest := hseen'.latest hver
    exact ⟨hs'.commit hpay hkept hnumber fun j₀ hj₀ => hfol j₀ (hlatest ▸ hj₀),
      .inl ⟨rfl, hpay, hseen'.quiet⟩⟩
  cases revision with
  | none =>
    refine meets_perform_bind _ hseen (fun _ _ _ _ hq hmay h => h.stable hq hmay) ?_
    rintro s' hs' hseen' answer s'' (⟨record, hrec, hone, hbody, hans, rfl⟩ | ⟨⟨error, rfl⟩, rfl⟩)
    · have hnum := hs'.numbered
      rw [hrec] at hnum
      obtain ⟨hinv, honce⟩ :=
        hcommit s' record hs' hseen' hnum.symm hbody (by rw [hone, ← hnum]; rfl)
      exact ⟨hinv, .commit hinv, hmade record answer _ hinv honce hans⟩
    · exact ⟨hs', .refl hs', herr error _ hs' hseen'.quiet⟩
  | some expected =>
    refine meets_perform_bind _ hseen (fun _ _ _ _ hq hmay h => h.stable hq hmay) ?_
    rintro s' hs' hseen' answer s''
      (⟨old, record, hrec, rfl, hnext, hbody, hans, rfl⟩ | ⟨⟨error, rfl⟩, rfl⟩)
    · have hnum := hs'.numbered
      rw [hrec] at hnum
      obtain ⟨hinv, honce⟩ := hcommit s' record hs' hseen' hnum.symm hbody
        (by rw [UInt64.checkedSucc_eq_some_iff.mp hnext, ← hnum]; rfl)
      exact ⟨hinv, .commit hinv, hmade record answer _ hinv honce hans⟩
    · exact ⟨hs', .refl hs', herr error _ hs' hseen'.quiet⟩

omit [DecidableEq P] [LawfulAuditJournalReader] in
theorem extend_ok_iff {maxEvents : ℕ+} {n : ℕ} :
    (extend j batch maxEvents : Except (CapabilityAuditStoreError E) _) =
      .ok (n, j') ↔ (appendBatch batch maxEvents).Returns j n j' := by
  rw [extend, Mut.Returns]
  split <;> rename_i h <;> simp [h]

omit [DecidableEq P] in
/-- A recorder extends the journal that it saw, or an empty one. -/
theorem target_spec (store : CapabilityAuditStore)
    {existing : Option PersistedCapabilityAuditJournal} (hinv : Inv source s)
    (hseen : Seen p (existing.map (·.storageRevision)) (existing.map (·.journal)) s) :
    (store.target existing).1 = existing.map (·.storageRevision) ∧
      (∀ j₀, existing.map (·.journal) = some j₀ → j₀ = (store.target existing).2) ∧
      ∀ event ∈ (store.target existing).2.events, event = source event.number := by
  cases existing with
  | none => exact ⟨rfl, fun _ h => (nomatch h), fun _ h => (nomatch h)⟩
  | some existing =>
    refine ⟨rfl, fun j₀ hj₀ => (some.inj hj₀).symm, ?_⟩
    obtain hbase | ⟨q, hmem⟩ := hseen.atRevision.eq_base_or_mem
    · exact absurd hbase (by simp)
    · obtain ⟨j, hj, hkept⟩ := hinv.kept q _ hmem
      obtain rfl := some.inj hj
      exact hkept.events

/-- One attempt after another, each from a fresh load. -/
theorem meets_appendAttempts (n : ℕ) (hfrom : batch.From source) (hinv : Inv source s)
    (hquiet : s.log.Quiet p) :
    (outline P E source).rules.Meets p (fun _ _ s' => Inv source s')
      (fun error _ s' => Inv source s' ∧ Failed p batch error s'.log)
      (appendAttempts batch n) store s := by
  -- on the attempts left; in those before, this recorder has written nothing
  induction n generalizing s with
  | zero => exact meets_check (fun _ _ => ⟨hinv, .inl hquiet⟩) fun _ h => by cases h
  | succ n ih =>
    apply meets_self_bind
    refine meets_bind ((meets_load hquiet).mono ?_ fun _ _ _ h => ⟨h.1, .inl h.2⟩)
    rintro existing k s' ⟨hk, hs', hseen⟩
    have htar := target_spec store hs' hseen
    rw [hk]
    generalize store.target existing = target at htar
    obtain ⟨hrev, hsame, hevs⟩ := htar
    refine meets_check_bind (fun _ _ => ⟨hs', .inl hseen.quiet⟩) ?_
    rintro ⟨appended, journal⟩ hextend
    rw [extend_ok_iff] at hextend
    dsimp only
    -- a batch that is there already is answered from what was read
    by_cases hzero : appended = 0
    · rw [if_pos hzero]
      exact meets_check_bind (fun _ _ => ⟨hs', .inl hseen.quiet⟩) fun _ _ => meets_pure hs'
    · rw [if_neg hzero]
      generalize hencode : journal.encode = encoded
      obtain ⟨hkept, hev, hlt, hend⟩ :=
        CapabilityAuditJournal.kept_of_returns store.bounded hfrom hevs hzero hextend
      refine meets_check_bind (fun _ _ => ⟨hs', .inl hseen.quiet⟩) fun payload hpay => ?_
      rw [← hencode] at hpay
      simp only [Except.mapError_ok_iff, encode, Except.bind_ok_iff,
        Except.rejectIf_ok_iff, pure, Except.pure, Except.ok.injEq] at hpay
      obtain ⟨_, _, rfl⟩ := hpay
      rw [hrev]
      refine meets_write (auditJournalOf_text journal) hkept ?_ hseen ?_ ?_
      · intro j₀ hj₀
        rw [hsame j₀ hj₀]
        exact ⟨hev, hlt⟩
      · intro record answer s'' hs'' honce hans
        cases answer with
        | ok answer => exact meets_pure hs''
        | error error =>
          -- the write was made, and its answer is lost
          have hfailed : Failed p batch (.storage error) s''.log :=
            .inr ⟨⟨error, rfl⟩, honce.mono fun v hv => ⟨journal, hv, hend⟩⟩
          cases error with
          | writeConflict _ _ _ => exact hans.elim
          | _ =>
            refine meets_check (fun _ h => ?_) fun _ h => by cases h
            cases h
            exact ⟨hs'', hfailed⟩
      · intro error s'' hs'' hquiet
        cases error with
        | writeConflict _ _ _ => exact ih hs'' hquiet
        | _ => exact meets_check (fun _ _ => ⟨hs'', .inl hquiet⟩) fun _ h => by cases h

theorem outline_valid : (outline P E source).Valid where
  start p t s ht hinv hquiet := by
    obtain ⟨store, rfl⟩ := ht
    exact ⟨hinv, .refl hinv, fun _ _ => hquiet⟩
  serve p store batch s hinv hquiet := by
    have hcall : (outline P E source).rules.Meets p (fun _ _ s' => Inv source s')
        (fun error _ s' => Inv source s' ∧ Failed p batch.1 error s'.log)
        (appendBatch batch.1) store s :=
      meets_check_bind (fun _ _ => ⟨hinv, .inl hquiet⟩) fun _ _ =>
        meets_check_bind (fun _ _ => ⟨hinv, .inl hquiet⟩) fun _ _ =>
          meets_appendAttempts _ batch.2 hinv hquiet
    have hnote : ∀ (appended : Appended E) (s' : AuditWorld P E), Inv source s' →
        (∀ error, appended.2 = .error error → Failed p appended.1 error s'.log) → ∀ l,
        (outline P E source).Post p (some appended, some l) s' := by
      intro appended s' hs' hfailed l
      have hinv := hs'.note hfailed
      exact ⟨hinv, ⟨hinv, [.note p appended], rfl, by simp [Entry.process]⟩,
        fun _ _ => Or.inl rfl⟩
    refine hcall.answer (g := fun result => some (batch.1, result)) ?_ ?_
    · exact fun b l s' hs' => hnote (batch.1, .ok b) s' hs' (fun _ h => nomatch h) l
    · intro error l s' hs'
      refine hnote (batch.1, .error error) s' hs'.1 (fun _ h => ?_) l
      exact Except.error.inj h ▸ hs'.2

/-- The batch lies within the window. -/
structure Retains (j : CapabilityAuditJournal) (batch : AuditEventBatch) : Prop where
  valid : batch.Valid
  nonempty : batch.events ≠ []
  first : j.firstEventSequence ≤ batch.firstEventSequence
  next : batch.nextEventSequence ≤ j.nextEventSequence

/-- The rules for a recorder that is alone. -/
def aloneRules (P : Type) (source : ℕ → AuditEvent) (s : AuditWorld P E) :
    Rules P (AuditWorld P E) RecordOp (RecordOp.Answer E) where
  exec := (system P E source).exec
  inv s' := s' = s
  may _ _ s' := s' = s

omit [DecidableEq P] in
theorem meets_load_alone (hrec : s.record = some record) :
    (aloneRules P source s).Meets p
      (fun existing store' s' => store' = store ∧ s' = s ∧
        ∃ persisted, existing = some persisted ∧ store.decode record = .ok persisted)
      (fun error _ s' => s' = s ∧ ((∃ e, error = .storage e) ∨
        ∃ e, store.decode record = .error e ∧ error = .journal e))
      load store s := by
  apply meets_self_bind
  refine meets_perform_bind (· = s) rfl (fun _ _ _ _ _ hmay _ => hmay) ?_
  rintro s' - rfl answer s'' ⟨hans, rfl⟩
  refine ⟨rfl, rfl, ?_⟩
  obtain rfl | ⟨e, rfl⟩ := hans
  · rw [hrec]
    refine meets_check_bind (fun _ h => nomatch h) ?_
    rintro _ ⟨⟩
    refine meets_check_bind (fun error herror => ?_) fun persisted hpersisted => ?_
    · obtain ⟨e, he, rfl⟩ := Except.mapError_error_iff.mp herror
      exact ⟨rfl, .inr ⟨e, he, rfl⟩⟩
    · exact meets_pure ⟨rfl, rfl, persisted, rfl, Except.mapError_ok_iff.mp hpersisted⟩
  · refine meets_check_bind (fun error herror => ?_) fun _ h => nomatch h
    obtain rfl := Except.error.inj herror
    exact ⟨rfl, .inl ⟨e, rfl⟩⟩

omit [DecidableEq P] [LawfulAuditJournalReader] in
theorem validate_of_decode [AuditJournalReader]
    {persisted : PersistedCapabilityAuditJournal} (h : store.decode record = .ok persisted) :
    persisted.journal.validate store.maxEvents = .ok () := by
  simp only [decode, fromJsonWithCapacity,
    Except.bind_ok_iff, Except.rejectIf_ok_iff, okOr_ok_iff] at h
  obtain ⟨_, _, journal, ⟨_, _, _, _, _, _, journal', _, _, hvalid, hsame⟩, _, _, _, _, h⟩ := h
  obtain rfl := Except.ok.inj hsame
  obtain rfl := Except.ok.inj h
  exact hvalid

omit [DecidableEq P] in
/-- A recorder that is alone finds a retained batch in the record and leaves it. -/
theorem meets_replay (hrec : s.record = some record)
    (hjour : auditJournalOf record.payload = some j) (hkept : j.Kept source)
    (hfrom : batch.From source) (hretains : Retains j batch) :
    (aloneRules P source s).Meets p
      (fun result _ s' => s' = s ∧ result = ⟨record.revision, j⟩)
      (fun error _ s' => s' = s ∧ ((∃ e, error = .storage e) ∨
        ∃ e, store.decode record = .error e ∧ error = .journal e))
      (appendBatch batch) store s := by
  refine meets_check_bind (fun error herror => ?_) fun _ _ => ?_
  · exact absurd (Except.rejectIf_error_iff.mp herror).1 hretains.nonempty
  have hvalid : validateBatch batch = .ok () := validateBatch_ok_iff.mpr hretains.valid
  rw [hvalid]
  refine meets_check_bind (fun error herror => nomatch herror) fun _ _ => ?_
  apply meets_self_bind
  refine meets_bind ((meets_load_alone hrec).mono ?_ fun _ _ _ h => h)
  rintro _ k _ ⟨hk, rfl, persisted, rfl, hdecode⟩
  obtain ⟨hrev, hsame⟩ := decode_ok hdecode
  have hval := validate_of_decode hdecode
  obtain ⟨revision, journal⟩ := persisted
  obtain rfl := some.inj (hjour.symm.trans hsame)
  have hextend : (extend j batch store.maxEvents :
      Except (CapabilityAuditStoreError E) _) = .ok (0, j) :=
    extend_ok_iff.mpr (CapabilityAuditJournal.appendBatch_of_retained hkept.events hfrom hval
      hretains.valid hretains.nonempty hretains.first hretains.next)
  change (aloneRules P source _).Meets p _ _ (Effectful.check (extend j batch
    store.maxEvents) >>= _) k _
  rw [hextend]
  refine meets_check_bind (fun _ h => nomatch h) ?_
  rintro _ ⟨⟩
  exact meets_pure ⟨rfl, congrArg (PersistedCapabilityAuditJournal.mk · j) hrev⟩

omit [DecidableEq P] in
/-- The first batch of a segment is written at revision one. -/
theorem runs_appendBatch_new {n : ℕ} (lost : Option E) (hs : s.record = none)
    (hbatch : batch.Valid) (hne : batch.events ≠ []) (hn : n ≠ 0)
    (hextend : (appendBatch batch store.maxEvents).Returns
      (.newFromEventSequence store.streamId store.segmentStartEventSequence) n j)
    (hsize : j.encodedLen ≤ maxDurableCapabilityAuditJournalBytes) (hrev : record.revision = 1)
    (hpay : record.payload = utf8 (Json.text j.toJson)) :
    (system P E source).Runs p s (appendBatch batch store)
      (lost.elim (.ok ⟨1, j⟩) (.error <| .storage <| .backend ·), store) (s.commit p record) := by
  have hencode : j.encode = .ok (Json.text j.toJson) := by
    simp only [encode, Except.bind_ok_iff, Except.rejectIf_ok_iff]
    exact ⟨(), not_lt.mpr hsize, rfl⟩
  have hval : validateBatch batch = .ok () := validateBatch_ok_iff.mpr hbatch
  refine (System.runs_rejectIf hne).andThen
    ((System.runs_check (Except.mapError_ok_iff.mpr hval)).andThen ?_)
  rw [maxDurableCapabilityAuditStoreRetries, appendAttempts]
  have hload : (system P E source).Runs p s
      ((load : Call E _) store) (.ok none, store) s :=
    .perform (.ok none) ⟨.inl (by rw [hs]), rfl⟩ .done
  refine System.Runs.andThen .done (System.Runs.andThen hload ?_)
  refine (System.runs_check (extend_ok_iff.mpr hextend)).andThen ?_
  dsimp only
  rw [if_neg hn, hencode]
  refine (System.runs_check rfl).andThen ?_
  have hmade : ∀ answer, Reports record answer → (system P E source).exec p s
      (.create (utf8 (Json.text j.toJson))) answer (s.commit p record) :=
    fun answer hanswer => .inl ⟨record, hs, hrev, hpay, hanswer, rfl⟩
  cases lost with
  | none =>
    refine System.Runs.andThen (System.runs_perform (hmade (.ok record) rfl)) ?_
    rw [← hrev]
    exact .done
  | some error =>
    exact System.Runs.andThen (System.runs_perform (hmade (.error (.backend error)) trivial)) .done

/-- So the record of one recorder can hold the first batch of its segment, reported or not. -/
theorem reachable_new {n : ℕ} (lost : Option E) (hfrom : batch.From source)
    (hbatch : batch.Valid) (hne : batch.events ≠ []) (hn : n ≠ 0)
    (hextend : (appendBatch batch store.maxEvents).Returns
      (.newFromEventSequence store.streamId store.segmentStartEventSequence) n j)
    (hsize : j.encodedLen ≤ maxDurableCapabilityAuditJournalBytes) (hrev : record.revision = 1)
    (hpay : record.payload = utf8 (Json.text j.toJson)) (p : P) :
    ∃ c, (system P E source).Reachable initial c ∧ c.shared.record = some record ∧
      c.shared.log = [.note p (batch, lost.elim (.ok ⟨1, j⟩) (.error <| .storage <| .backend ·)),
        .commit p (auditJournalOf record.payload)] := by
  have hrun : (system P E source).Runs p initial ((system P E source).serve p store ⟨batch, hfrom⟩)
      (some (batch, lost.elim (.ok ⟨1, j⟩) (.error <| .storage <| .backend ·)), some store)
      (initial.commit p record) :=
    (runs_appendBatch_new lost rfl hbatch hne hn hextend hsize hrev hpay).answer
      fun result => some (batch, result)
  have h₁ := (System.Reachable.start (Y := system P E source) initial).spawn (p := p) rfl
    ⟨store, rfl⟩ .done rfl
  exact ⟨_, h₁.serve ⟨batch, hfrom⟩ (Function.update_self p _ _) hrun rfl, rfl, rfl⟩

/-- The record only ever gets journals that the log gets too. -/
theorem log_grows {c c' : Config P (AuditWorld P E) RecordOp (RecordOp.Answer E) CapabilityAuditStore
    (Option (Appended E))} (h : Relation.ReflTransGen (system P E source).Step c c') :
    ∃ new, c'.shared.log = new ++ c.shared.log := by
  refine System.steps_shared (fun s s' => ∃ new, s'.log = new ++ s.log) (fun s => ⟨[], rfl⟩)
    ?_ ?_ ?_ h
  · rintro s s' s'' ⟨new, hnew⟩ ⟨new', hnew'⟩
    exact ⟨new' ++ new, by rw [hnew', hnew, List.append_assoc]⟩
  · rintro p s (_ | payload | ⟨expected, payload⟩) answer s' hexec
    · exact ⟨[], hexec.2 ▸ rfl⟩
    · obtain ⟨record, _, _, _, _, rfl⟩ | ⟨_, rfl⟩ := hexec
      · exact ⟨[_], rfl⟩
      · exact ⟨[], rfl⟩
    · obtain ⟨old, record, _, _, _, _, _, rfl⟩ | ⟨_, rfl⟩ := hexec
      · exact ⟨[_], rfl⟩
      · exact ⟨[], rfl⟩
  · rintro p (_ | appended) s
    · exact ⟨[], rfl⟩
    · exact ⟨[.note p appended], rfl⟩

/-- However recorders interleave, restart and repeat their batches, the record holds a
journal that is exactly the source from its first to its next event; it never goes back;
an append that fails has committed nothing, or at most its own batch if storage failed; and a
replay of a retained batch changes nothing. -/
theorem audit_journal_window {c : Config P (AuditWorld P E) RecordOp (RecordOp.Answer E)
      CapabilityAuditStore (Option (Appended E))}
    (h : (system P E source).Reachable initial c) :
    (∀ record, c.shared.record = some record → ∃ j, auditJournalOf record.payload = some j ∧
      j.firstEventSequence ≤ j.nextEventSequence ∧
      j.events = (List.range' j.firstEventSequence.toNat
        (j.nextEventSequence.toNat - j.firstEventSequence.toNat)).map source ∧
      j.segmentStartEventSequence ≤ j.firstEventSequence ∧
      j.droppedAuditEvents = j.firstEventSequence - j.segmentStartEventSequence) ∧
    (∀ c', Relation.ReflTransGen (system P E source).Step c c' → ∀ j,
      c.shared.persisted = some j → ∃ j', c'.shared.persisted = some j' ∧
        j.nextEventSequence ≤ j'.nextEventSequence ∧
        j'.segmentStartEventSequence = j.segmentStartEventSequence) ∧
    Each (fun e earlier => ∀ p batch error, e = .note p (batch, .error error) →
      Failed p batch error earlier) c.shared.log ∧
    ∀ p store batch record j r s', c.shared.record = some record →
      auditJournalOf record.payload = some j → batch.From source → Retains j batch →
      (system P E source).Runs p c.shared (appendBatch batch store) r s' →
      s' = c.shared ∧ (r.1 = .ok ⟨record.revision, j⟩ ∨ (∃ error, r.1 = .error (.storage error)) ∨
        ∃ error, store.decode record = .error error ∧ r.1 = .error (.journal error)) := by
  obtain ⟨hinv, _⟩ := outline_valid.reachable _ inv_initial (fun _ => trivial) h
  have hkept : ∀ j, c.shared.persisted = some j → j.Kept source := fun j hj =>
    hinv.kept_latest (hinv.stored ▸ hj)
  have hpersisted : ∀ {record j}, c.shared.record = some record →
      auditJournalOf record.payload = some j → c.shared.persisted = some j := by
    intro record j hrec hj
    rw [persisted, hrec, bind_some, hj]
  refine ⟨fun record hrec => ?_, fun c' hsteps j hj => ?_, hinv.failed, ?_⟩
  · obtain ⟨j, hj⟩ := ne_none_iff_exists'.mp (hinv.present (by simp [hrec]))
    have hkept := hkept j hj
    have hnext := hkept.valid.next
    have hfirst := hkept.valid.first
    rw [persisted, hrec, bind_some] at hj
    have hle : j.segmentStartEventSequence ≤ j.firstEventSequence := by
      rw [UInt64.le_iff_toNat_le]
      omega
    refine ⟨j, hj, ?_, hkept.segment, hle, ?_⟩
    · rw [UInt64.le_iff_toNat_le]
      omega
    · rw [← UInt64.toNat_inj, UInt64.toNat_sub_of_le _ _ hle]
      omega
  · have hinv' := (outline_valid.reachable _ inv_initial (fun _ => trivial) (h.trans hsteps)).1
    obtain ⟨new, hlog⟩ := log_grows hsteps
    have hsound := hinv'.sound
    rw [hlog] at hsound
    obtain ⟨j', hj', hev⟩ := hsound.latest_le new j (hinv.stored ▸ hj)
    exact ⟨j', by rw [hinv'.stored, hlog]; exact hj', hev.next, hev.segmentStart⟩
  · intro p store batch record j r s' hrec hj hfrom hretains hruns
    obtain ⟨hok, herr⟩ := Ensures.of_runs (G := aloneRules P source c.shared) (fun _ _ _ _ _ he => he)
      hruns rfl (meets_replay hrec hj (hkept j (hpersisted hrec hj)) hfrom hretains)
    cases hr : r.1 with
    | ok result =>
      obtain ⟨hs', rfl⟩ := hok result hr
      exact ⟨hs', .inl rfl⟩
    | error error =>
      obtain ⟨hs', hcause⟩ := herr error hr
      refine ⟨hs', .inr (hcause.imp ?_ ?_)⟩
      · rintro ⟨e, rfl⟩
        exact ⟨e, rfl⟩
      · rintro ⟨e, he, rfl⟩
        exact ⟨e, he, rfl⟩

end AuditWorld

namespace AuditWorld

/-- A source whose every event is an allowed call of one tool. -/
def echoSource (n : ℕ) : AuditEvent := ⟨.ofNat n, .ofNat n, "text.echo", 5, 5, .allowed, none⟩

def echoStore : CapabilityAuditStore where
  streamId := ⟨"stream-1", by decide⟩
  segmentStartEventSequence := 1
  nonzero := by decide
  maxEvents := 8
  bounded := by decide

def echoBatch : AuditEventBatch := ⟨[echoSource 1, echoSource 2], 3⟩

theorem valid_echoBatch : echoBatch.Valid where
  numbered := rfl
  events := by
    have hvalid : ∀ event ∈ echoBatch.events, event.validateForDurableTelemetry = .ok () := by
      decide +kernel
    exact hvalid
  next := rfl
  nonzero := by decide

theorem from_echoBatch : echoBatch.From echoSource := by
  simp [AuditEventBatch.From, echoBatch, AuditEvent.number, echoSource]

def echoJournal : CapabilityAuditJournal := .holding echoStore.streamId echoBatch

theorem size_echoJournal : echoJournal.encodedLen ≤ maxDurableCapabilityAuditJournalBytes := by
  rw [encodedLen, Json.text, String.utf8ByteSize_ofList]
  decide +kernel

def echoRecord : AuthenticatedRecord :=
  ⟨1, ⟨"key-1", by decide⟩, utf8 (Json.text echoJournal.toJson)⟩

theorem payload_echoRecord : echoRecord.payload = utf8 (Json.text echoJournal.toJson) := by
  simp only [echoRecord]

theorem size_empty : (CapabilityAuditJournal.newFromEventSequence echoStore.streamId 1).encodedLen ≤
    maxDurableCapabilityAuditJournalBytes := by
  rw [encodedLen, Json.text, String.utf8ByteSize_ofList]
  decide +kernel

theorem events_echoBatch : echoBatch.events ≠ [] := by simp [echoBatch]

theorem extends_echoJournal : (appendBatch echoBatch echoStore.maxEvents).Returns
    (.newFromEventSequence echoStore.streamId 1) 2 echoJournal :=
  CapabilityAuditJournal.appendBatch_new echoStore.bounded valid_echoBatch events_echoBatch
    (by decide) size_empty size_echoJournal

/-- A recorder writes the first two events of the source; appending them again leaves the
record as it is. -/
theorem audit_journal_window_of_echo :
    ∃ (_ : LawfulAuditJournalReader) (c : Config Unit (AuditWorld Unit Unit) RecordOp
        (RecordOp.Answer Unit) CapabilityAuditStore (Option (Appended Unit))),
      (system Unit Unit echoSource).Reachable initial c ∧ c.shared.record ≠ none ∧
      echoJournal.events = (List.range' 1 2).map echoSource ∧
      ∀ r s', (system Unit Unit echoSource).Runs () c.shared
        (appendBatch echoBatch echoStore) r s' → s' = c.shared := by
  obtain ⟨_⟩ := nonempty_lawfulAuditJournalReader
  obtain ⟨c, hreach, hrec, -⟩ := reachable_new (P := Unit) (E := Unit) none from_echoBatch
    valid_echoBatch events_echoBatch (by decide) extends_echoJournal size_echoJournal rfl
    payload_echoRecord ()
  obtain ⟨hwindow, _, _, hreplay⟩ := audit_journal_window hreach
  obtain ⟨j, hj, _, hseg, _⟩ := hwindow echoRecord hrec
  obtain rfl : echoJournal = j := by
    rw [payload_echoRecord, auditJournalOf_text] at hj
    exact some.inj hj
  have hretains : Retains echoJournal echoBatch :=
    ⟨valid_echoBatch, events_echoBatch, UInt64.le_refl _, UInt64.le_refl _⟩
  exact ⟨_, c, hreach, by simp [hrec], hseg, fun r s' hr =>
    (hreplay () echoStore echoBatch echoRecord _ r s' hrec hj from_echoBatch hretains hr).1⟩

/-- The write is made and its answer is lost: the append fails, and the record holds its batch. -/
theorem failed_append_of_lost_answer :
    ∃ (_ : LawfulAuditJournalReader) (c : Config Unit (AuditWorld Unit Unit) RecordOp
        (RecordOp.Answer Unit) CapabilityAuditStore (Option (Appended Unit))),
      (system Unit Unit echoSource).Reachable initial c ∧
      c.shared.log = [.note () (echoBatch, .error (.storage (.backend ()))),
        .commit () (some echoJournal)] ∧ c.shared.persisted = some echoJournal := by
  obtain ⟨_⟩ := nonempty_lawfulAuditJournalReader
  obtain ⟨c, hreach, hrec, hlog⟩ := reachable_new (P := Unit) (E := Unit) (some ()) from_echoBatch
    valid_echoBatch events_echoBatch (by decide) extends_echoJournal size_echoJournal rfl
    payload_echoRecord ()
  rw [payload_echoRecord, auditJournalOf_text] at hlog
  refine ⟨_, c, hreach, hlog, ?_⟩
  rw [persisted, hrec, bind_some, payload_echoRecord, auditJournalOf_text]

end AuditWorld

end Octoscript
