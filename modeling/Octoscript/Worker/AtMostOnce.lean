import Octoscript.Worker.Runs

namespace Octoscript
open Wire WriteAhead History Interaction

namespace WorkerWorld

section
variable {P E : Type}

/-- The key of an operation that an adapter was asked to dispatch. -/
def dispatchedKey : Entry P WorkerOperationJournal WorkerEffect (Handled E) → Option String
  | .act _ (.dispatch request) => some request.operationKey
  | _ => none

/-- The key of an operation that an adapter was asked to compensate. -/
def compensatedKey : Entry P WorkerOperationJournal WorkerEffect (Handled E) → Option String
  | .act _ (.compensate request) => some request.operationKey
  | _ => none

theorem filterMap_dispatchedKey (l : Log P WorkerOperationJournal WorkerEffect (Handled E)) :
    l.filterMap dispatchedKey = (l.slots WorkerEffect.slot).filterMap fun
      | .operation key => some key
      | .compensation _ => none := by
  rw [Log.slots, List.filterMap_filterMap]
  congr 1
  funext e
  rcases e with _ | ⟨_, _ | _⟩ | _ <;> rfl

theorem filterMap_compensatedKey (l : Log P WorkerOperationJournal WorkerEffect (Handled E)) :
    l.filterMap compensatedKey = (l.slots WorkerEffect.slot).filterMap fun
      | .operation _ => none
      | .compensation key => some key := by
  rw [Log.slots, List.filterMap_filterMap]
  congr 1
  funext e
  rcases e with _ | ⟨_, _ | _⟩ | _ <;> rfl

variable [Blake3] [LawfulEnvelopeReader] [LawfulJournalReader] {A : Type} [DecidableEq P]
  {place : StorageRecordKey} {rings : P → StorageKeyring}
  {c : Config P (WorkerWorld P E) WorkerOp (WorkerOp.Answer E A) WorkerSession (Option (Handled E))}

theorem good_of_reachable (h : (system P E A place rings).Reachable initial c) :
    (outline P E A place rings).Good c :=
  outline_valid.reachable _ inv_initial (fun _ hfail => nomatch hfail.choose_spec.1) h

/-- No adapter is asked twice to dispatch the operation of a key. -/
theorem dispatch_at_most_once (h : (system P E A place rings).Reachable initial c) :
    (c.shared.log.filterMap dispatchedKey).Nodup := by
  have hnodup := (good_of_reachable h).1.sound.slots_nodup
  rw [filterMap_dispatchedKey]
  refine hnodup.filterMap ?_
  rintro (_ | _) (_ | _) key <;> simp +contextual

end

/-- The echo run dispatches one operation. -/
theorem dispatch_at_most_once_of_echo :
    ∃ (_ : Blake3) (_ : LawfulEnvelopeReader) (_ : LawfulJournalReader)
      (c : Config Unit (WorkerWorld Unit Unit) WorkerOp (WorkerOp.Answer Unit Unit) WorkerSession
        (Option (Handled Unit))),
      (system Unit Unit Unit EchoRun.place fun _ => EchoRun.ring).Reachable initial c ∧
      c.shared.log.filterMap dispatchedKey = ["op-1"] ∧
      (c.shared.log.filterMap dispatchedKey).Nodup := by
  obtain ⟨_⟩ := Ledger.nonempty_lawfulEnvelopeReader
  obtain ⟨_⟩ := nonempty_lawfulJournalReader
  let _ : Blake3 := EchoRun.blake3
  obtain ⟨c, hreach, hlog, _⟩ := EchoRun.reachable_compensated
  exact ⟨_, _, _, c, hreach, congrArg (List.filterMap dispatchedKey) hlog,
    dispatch_at_most_once hreach⟩

section
variable [Blake3] [LawfulEnvelopeReader] [LawfulJournalReader] {P E A : Type} [DecidableEq P]
  {place : StorageRecordKey} {rings : P → StorageKeyring}
  {c : Config P (WorkerWorld P E) WorkerOp (WorkerOp.Answer E A) WorkerSession (Option (Handled E))}

omit [DecidableEq P] in
/-- A compensation was asked for when the last journal had it admitted and its operation
succeeded. -/
theorem Inv.compensated {s : WorkerWorld P E} (hinv : Inv place s) {p : P}
    {request : OperationCompensationRequest}
    {later earlier : Log P WorkerOperationJournal WorkerEffect (Handled E)}
    (hlog : s.log = later ++ .act p (.compensate request) :: earlier) :
    ∃ q j r k fingerprint, Log.latest (.empty place.name) earlier = j ∧ .commit q j ∈ s.log ∧
      j.operation request.operationKey = some r ∧ r.state.kind = .succeeded ∧
      r.compensation = some k ∧
      workerOperationInputFingerprint request.payload = .ok fingerprint ∧
      WorkerOperationJournal.CompensationMatches k request fingerprint := by
  have hready := hinv.sound.acts later _ earlier hlog p _ rfl
  obtain ⟨r, hr, hkey, hkind, k, hk, fingerprint, hprint, hmat⟩ := hready.fits
  rcases Log.latest_eq_base_or_mem (.empty place.name) earlier with hbase | ⟨q, hq⟩
  · rw [show Log.latest (journalDiscipline place.name).base earlier = _ from hbase] at hr
    cases hr
  · have hcommit : .commit q (Log.latest (.empty place.name) earlier) ∈ s.log :=
      hlog ▸ List.mem_append_right later (List.mem_cons_of_mem _ hq)
    have hop := (hinv.valid q _ hcommit).operation_eq_some_iff.mpr ⟨hr, hkey⟩
    exact ⟨q, _, r, k, fingerprint, rfl, hcommit, hop, hkind, hk, hprint, hmat⟩

omit [DecidableEq P] in
/-- Journals that were committed agree on the identity of a compensation. -/
theorem Inv.compensation_unique {s : WorkerWorld P E} (hinv : Inv place s) {p q : P}
    {j j' : WorkerOperationJournal} {r r' : WorkerOperationRecord} {k k' : WorkerCompensationRecord}
    {key : String} (hj : .commit p j ∈ s.log) (hj' : .commit q j' ∈ s.log)
    (hr : j.operation key = some r) (hr' : j'.operation key = some r')
    (hk : r.compensation = some k) (hk' : r'.compensation = some k') :
    k'.compensationKey = k.compensationKey ∧ k'.inputFingerprint = k.inputFingerprint ∧
      k'.grantFingerprint = k.grantFingerprint := by
  rcases hinv.sound.comparable hj hj' with hle | hle
  · have hev := WorkerOperationJournal.Evolves.operation hle (hinv.valid q j' hj') hr hr'
    obtain ⟨l, hl, hkey, hinput, hgrant, _⟩ := hev.compensation k hk
    obtain rfl := Option.some.inj (hk'.symm.trans hl)
    exact ⟨hkey, hinput, hgrant⟩
  · have hev := WorkerOperationJournal.Evolves.operation hle (hinv.valid p j hj) hr' hr
    obtain ⟨l, hl, hkey, hinput, hgrant, _⟩ := hev.compensation k' hk'
    obtain rfl := Option.some.inj (hk.symm.trans hl)
    exact ⟨hkey.symm, hinput.symm, hgrant.symm⟩

/-- No adapter is asked twice to compensate the operation of a key; when it is asked, the
operation has succeeded in the last journal; and every journal that has a compensation of
the operation has the compensation key, input and grant of that request. The last journal
is what the backend holds. -/
theorem compensation_at_most_once (h : (system P E A place rings).Reachable initial c) :
    (c.shared.log.filterMap compensatedKey).Nodup ∧
    Each (fun e earlier => ∀ p request, e = .act p (.compensate request) →
      ∃ r, (Log.latest (.empty place.name) earlier).operation request.operationKey = some r ∧
        r.state.kind = .succeeded) c.shared.log ∧
    (∀ p request, .act p (.compensate request) ∈ c.shared.log →
      ∀ q j r k, .commit q j ∈ c.shared.log → j.operation request.operationKey = some r →
        r.compensation = some k → ∃ fingerprint,
          workerOperationInputFingerprint request.payload = .ok fingerprint ∧
          WorkerOperationJournal.CompensationMatches k request fingerprint) ∧
    ∀ record, c.shared.record = some record →
      journalIn record = some (c.shared.log.latest (.empty place.name)) := by
  have hinv := (good_of_reachable h).1
  refine ⟨?_, ?_, ?_, fun record hrec => (hinv.stored record hrec).2⟩
  · rw [filterMap_compensatedKey]
    refine hinv.sound.slots_nodup.filterMap ?_
    rintro (_ | _) (_ | _) key <;> simp +contextual
  · rintro later _ earlier hlog p request rfl
    obtain ⟨_, _, r, _, _, rfl, _, hr, hkind, _⟩ := hinv.compensated hlog
    exact ⟨r, hr, hkind⟩
  · intro p request hmem q j r k hj hr hk
    obtain ⟨later, earlier, hlog⟩ := List.append_of_mem hmem
    obtain ⟨_, j₀, r₀, k₀, fingerprint, _, hj₀, hr₀, _, hk₀, hprint, hmat⟩ :=
      hinv.compensated hlog
    obtain ⟨hkey, hinput, hgrant⟩ := hinv.compensation_unique hj₀ hj hr₀ hr hk₀ hk
    exact ⟨fingerprint, hprint, hkey.trans hmat.1, hinput.trans hmat.2.1,
      hgrant.trans hmat.2.2⟩

end

/-- The echo run compensates the operation once, after it succeeded. -/
theorem compensation_at_most_once_of_echo :
    ∃ (_ : Blake3) (_ : LawfulEnvelopeReader) (_ : LawfulJournalReader)
      (c : Config Unit (WorkerWorld Unit Unit) WorkerOp (WorkerOp.Answer Unit Unit) WorkerSession
        (Option (Handled Unit))),
      (system Unit Unit Unit EchoRun.place fun _ => EchoRun.ring).Reachable initial c ∧
      .act () (.compensate EchoRun.undo) ∈ c.shared.log ∧
      (c.shared.log.filterMap compensatedKey).Nodup ∧
      ∀ q j r k, .commit q j ∈ c.shared.log → j.operation "op-1" = some r →
        r.compensation = some k → k.compensationKey = "cmp-1" := by
  obtain ⟨_⟩ := Ledger.nonempty_lawfulEnvelopeReader
  obtain ⟨_⟩ := nonempty_lawfulJournalReader
  let _ : Blake3 := EchoRun.blake3
  obtain ⟨c, hreach, hlog, _⟩ := EchoRun.reachable_compensated
  obtain ⟨hnodup, _, hidentity, _⟩ := compensation_at_most_once hreach
  have hact : .act () (.compensate EchoRun.undo) ∈ c.shared.log := by simp [hlog, EchoRun.log]
  refine ⟨_, _, _, c, hreach, hact, hnodup, fun q j r k hj hr hk => ?_⟩
  obtain ⟨_, _, hkey, _⟩ := hidentity () EchoRun.undo hact q j r k hj hr hk
  exact hkey

section
variable [Blake3] [LawfulEnvelopeReader] [LawfulJournalReader] {P E A : Type} [DecidableEq P]
  {place : StorageRecordKey} {rings : P → StorageKeyring}
  {c : Config P (WorkerWorld P E) WorkerOp (WorkerOp.Answer E A) WorkerSession (Option (Handled E))}

/-- Every status that is answered is in a journal that was committed before; the journal
of a session at rest is the one committed at its revision, unless the session is poisoned;
and a session whose write failed refuses every later frame. -/
theorem response_durability (h : (system P E A place rings).Reachable initial c) :
    Each (fun e earlier => ∀ p frame, e = .note p (.ok frame) → Backed earlier frame.message)
      c.shared.log ∧
    (∀ p session, c.procs p = .idle session → session.poisoned = false →
      ∀ j, c.shared.log.At (.empty place.name) session.journalRevision.toNat j ↔
        j = session.journal) ∧
    (∀ p session, c.procs p = .idle session → Failed c.shared.log p → session.poisoned = true) ∧
    Each (fun e earlier => Failed earlier e.process → Refuses e) c.shared.log := by
  obtain ⟨hinv, hall⟩ := good_of_reachable h
  have hrest : ∀ p session, c.procs p = .idle session → Rest place p session c.shared := by
    intro p session hp
    have hholds := hall p
    rw [hp] at hholds
    exact hholds
  refine ⟨hinv.answers, fun p session hp hhealthy j => ?_, fun p session hp hfail => ?_,
    hinv.silent⟩
  · have hsynced := (hrest p session hp hhealthy).2
    exact ⟨fun hat => hat.unique hsynced, fun hj => hj ▸ hsynced⟩
  · by_contra hhealthy
    exact (hrest p session hp (by simpa using hhealthy)).1 hfail

end

/-- The two statuses of the echo run are durable, and so is the journal of its session. -/
theorem response_durability_of_echo :
    ∃ (_ : Blake3) (_ : LawfulEnvelopeReader) (_ : LawfulJournalReader)
      (c : Config Unit (WorkerWorld Unit Unit) WorkerOp (WorkerOp.Answer Unit Unit) WorkerSession
        (Option (Handled Unit))),
      (system Unit Unit Unit EchoRun.place fun _ => EchoRun.ring).Reachable initial c ∧
      .note () (.ok EchoRun.answer₂) ∈ c.shared.log ∧
      Each (fun e earlier => ∀ p frame, e = .note p (.ok frame) → Backed earlier frame.message)
        c.shared.log ∧
      c.shared.log.At (.empty EchoRun.place.name) 4
        (EchoRun.journal EchoRun.done (some EchoRun.done)) := by
  obtain ⟨_⟩ := Ledger.nonempty_lawfulEnvelopeReader
  obtain ⟨_⟩ := nonempty_lawfulJournalReader
  let _ : Blake3 := EchoRun.blake3
  obtain ⟨c, hreach, hlog, hidle⟩ := EchoRun.reachable_compensated
  obtain ⟨hanswers, hsynced, _⟩ := response_durability hreach
  exact ⟨_, _, _, c, hreach, by simp [hlog, EchoRun.log], hanswers,
    (hsynced () EchoRun.session₂ hidle rfl _).mpr rfl⟩

end WorkerWorld

end Octoscript
