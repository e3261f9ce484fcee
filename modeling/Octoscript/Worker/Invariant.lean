import Octoscript.Worker.System

namespace Octoscript
open Wire WriteAhead History

def WorkerIndeterminateCause.IsPersistence {SE : Type} : WorkerIndeterminateCause SE → Prop
  | .journal _ | .invalidJournalRevision .. => True
  | .adapter _ | .protocol _ => False

/-- The error of a frame whose journal could not be persisted. -/
def WorkerSessionError.IsPersistence {SE : Type} : WorkerSessionError SE → Prop
  | .journal _ | .invalidJournalRevision .. => True
  | .indeterminateOperation _ cause => cause.IsPersistence
  | .indeterminateCompensation _ _ cause => cause.IsPersistence
  | _ => False

namespace WorkerOperationJournal

/-- The record of the operation has this status. -/
def ReportsOperation (key : String) (status : OperationStatus) (j : WorkerOperationJournal) : Prop :=
  ∃ r, j.operation key = some r ∧ r.state.asStatus = some status

/-- The record of the operation's compensation has this status. -/
def ReportsCompensation (key : String) (status : OperationStatus) (j : WorkerOperationJournal) :
    Prop :=
  ∃ r c, j.operation key = some r ∧ r.compensation = some c ∧ c.state.asStatus = some status

end WorkerOperationJournal

namespace WorkerWorld
variable {P E A : Type}

/-- The status in an answer is the one that a committed journal has. -/
def Backed (l : Log P WorkerOperationJournal WorkerEffect (Handled E)) : WorkerMessage → Prop
  | .operationResult result => ∃ p j, .commit p j ∈ l ∧
      j.ReportsOperation result.operationKey result.status
  | .reconciledOperation result => ∃ p j, .commit p j ∈ l ∧
      j.ReportsOperation result.operationKey result.status
  | .compensationResult result => ∃ p j, .commit p j ∈ l ∧
      j.ReportsCompensation result.operationKey result.status
  | _ => True

/-- A write of the process failed. -/
def Failed (l : Log P WorkerOperationJournal WorkerEffect (Handled E)) (p : P) : Prop :=
  ∃ error : WorkerSessionError _, .note p (.error error) ∈ l ∧ error.IsPersistence

/-- The process only refuses frames. -/
def Refuses (e : Entry P WorkerOperationJournal WorkerEffect (Handled E)) : Prop :=
  e = .note e.process (.error .sessionPoisoned)

section
variable [Blake3] [EnvelopeReader] [JournalReader] (place : StorageRecordKey)

structure Inv (s : WorkerWorld P E) : Prop where
  sound : (journalDiscipline place.name).Sound s.log
  valid : ∀ p j, .commit p j ∈ s.log → j.Valid
  numbered : (s.revision.getD 0).toNat = s.log.version
  stored : ∀ record, s.record = some record → record.revision ≠ 0 ∧
    journalIn record = some (s.log.latest (.empty place.name))
  answers : Each (fun e earlier => ∀ p frame, e = .note p (.ok frame) →
    Backed earlier frame.message) s.log
  silent : Each (fun e earlier => Failed earlier e.process → Refuses e) s.log

/-- A process adds entries of its own. -/
structure May (p : P) (s s' : WorkerWorld P E) : Prop where
  inv : Inv place s'
  grows : ∃ new, s'.log = new ++ s.log ∧ ∀ e ∈ new, e.process = p

/-- The journal of the session is the one committed at its revision. -/
def Synced (session : WorkerSession) (s : WorkerWorld P E) : Prop :=
  s.log.At (.empty place.name) session.journalRevision.toNat session.journal

/-- A session in the middle of a frame. -/
structure Live (p : P) (session : WorkerSession) (s : WorkerWorld P E) : Prop where
  inv : Inv place s
  clean : ¬Failed s.log p
  healthy : session.poisoned = false
  synced : Synced place session s

/-- A session between two frames. -/
def Rest (p : P) (session : WorkerSession) (s : WorkerWorld P E) : Prop :=
  session.poisoned = false → ¬Failed s.log p ∧ Synced place session s

variable {place} {p q : P} {s s' : WorkerWorld P E} {session session' : WorkerSession}

theorem inv_initial : Inv place (initial : WorkerWorld P E) where
  sound := Discipline.sound_nil
  valid _ _ h := nomatch h
  numbered := rfl
  stored _ h := nomatch h
  answers := each_nil _
  silent := each_nil _

theorem May.refl (h : Inv place s) : May place p s s := ⟨h, [], rfl, fun _ he => nomatch he⟩

omit [Blake3] [EnvelopeReader] [JournalReader] in
theorem not_failed_append {l new : Log P WorkerOperationJournal WorkerEffect (Handled E)}
    (h : ¬Failed l p) (hnew : ∀ e ∈ new, e.process ≠ p) : ¬Failed (new ++ l) p := by
  rintro ⟨error, hmem, hpersistence⟩
  rcases List.mem_append.mp hmem with hmem | hmem
  · exact hnew _ hmem rfl
  · exact h ⟨error, hmem, hpersistence⟩

theorem May.of_others (h : May place q s s') (hq : q ≠ p) :
    ∃ new, s'.log = new ++ s.log ∧ ∀ e ∈ new, e.process ≠ p := by
  obtain ⟨new, hlog, hnew⟩ := h.grows
  exact ⟨new, hlog, fun e he => hnew e he ▸ hq⟩

theorem Synced.stable (h : Synced place session s) (hmay : May place q s s') :
    Synced place session s' := by
  obtain ⟨new, hlog, _⟩ := hmay.grows
  rw [Synced, hlog]
  exact h.append new

theorem May.not_failed (hmay : May place q s s') (hq : q ≠ p) (h : ¬Failed s.log p) :
    ¬Failed s'.log p := by
  obtain ⟨new, hlog, hnew⟩ := hmay.of_others hq
  exact hlog ▸ not_failed_append h hnew

theorem Live.stable (h : Live place p session s) (hq : q ≠ p) (hmay : May place q s s') :
    Live place p session s' :=
  ⟨hmay.inv, hmay.not_failed hq h.clean, h.healthy, h.synced.stable hmay⟩

theorem Rest.stable (h : Rest place p session s) (hq : q ≠ p) (hmay : May place q s s') :
    Rest place p session s' := by
  intro hhealthy
  obtain ⟨hclean, hsynced⟩ := h hhealthy
  exact ⟨hmay.not_failed hq hclean, hsynced.stable hmay⟩

theorem ready_stable {effect : WorkerEffect}
    (h : (journalDiscipline place.name).Ready p effect s.log) (hq : q ≠ p)
    (hmay : May place q s s') : (journalDiscipline place.name).Ready p effect s'.log := by
  obtain ⟨new, hlog, hnew⟩ := hmay.of_others hq
  have hsound := hmay.inv.sound
  rw [hlog] at hsound ⊢
  exact h.stable hsound hnew

/-- Steps on other fields of a session. -/
theorem Live.congr (h : Live place p session s) (hjour : session'.journal = session.journal)
    (hrev : session'.journalRevision = session.journalRevision)
    (hpois : session'.poisoned = session.poisoned) : Live place p session' s where
  inv := h.inv
  clean := h.clean
  healthy := hpois.trans h.healthy
  synced := by
    rw [Synced, hjour, hrev]
    exact h.synced

theorem Live.setAuthorizer (h : Live place p session s) (authorizer : SessionAuthorizer) :
    Live place p (session.setAuthorizer authorizer) s :=
  h.congr rfl rfl rfl

theorem Live.setAuthenticator (h : Live place p session s) (authenticator : SessionAuthenticator) :
    Live place p (session.setAuthenticator authenticator) s :=
  h.congr rfl rfl rfl

theorem Inv.setFence (h : Inv place s) (fence : UInt64) : Inv place { s with fence } :=
  ⟨h.sound, h.valid, h.numbered, h.stored, h.answers, h.silent⟩

theorem May.setFence (h : Inv place s) (fence : UInt64) : May place p s { s with fence } :=
  ⟨h.setFence fence, [], rfl, fun _ he => nomatch he⟩

/-- A process in good standing may add an entry that is not an answer. -/
theorem each_silent_cons {e : Entry P WorkerOperationJournal WorkerEffect (Handled E)}
    (h : Inv place s) (hclean : ¬Failed s.log e.process) :
    Each (fun e earlier => Failed earlier e.process → Refuses e) (e :: s.log) :=
  each_cons.mpr ⟨fun hfail => absurd hfail hclean, h.silent⟩

theorem Inv.act {effect : WorkerEffect} (h : Inv place s) (hclean : ¬Failed s.log p)
    (hready : (journalDiscipline place.name).Ready p effect s.log) :
    Inv place (s.act p effect) where
  sound := h.sound.act hready
  valid q j hmem := h.valid q j (by simpa [WorkerWorld.act] using hmem)
  numbered := h.numbered
  stored := h.stored
  answers := each_cons.mpr ⟨fun _ _ he => (nomatch he), h.answers⟩
  silent := each_silent_cons h hclean

theorem Inv.commit {record : StoredRecord} {j : WorkerOperationJournal} (h : Inv place s)
    (hclean : ¬Failed s.log p) (hjour : journalIn record = some j) (hvalid : j.Valid)
    (hev : (s.log.latest (.empty place.name)).Evolves j)
    (hnumber : record.revision.toNat = s.log.version + 1) : Inv place (s.commit p record) := by
  have hlog : (s.commit p record).log = .commit p j :: s.log := by
    simp [WorkerWorld.commit, hjour]
  constructor
  · rw [hlog]
    exact h.sound.commit hev
  · rw [hlog]
    intro q j' hmem
    rcases List.mem_cons.mp hmem with he | hmem
    · obtain ⟨-, rfl⟩ := Entry.commit.inj he
      exact hvalid
    · exact h.valid q j' hmem
  · rw [hlog]
    exact hnumber
  · rw [hlog]
    rintro _ ⟨⟩
    refine ⟨?_, hjour⟩
    rintro hzero
    simp [hzero] at hnumber
  · rw [hlog]
    exact each_cons.mpr ⟨fun _ _ he => (nomatch he), h.answers⟩
  · rw [hlog]
    exact each_silent_cons h hclean

theorem Inv.note {handled : Handled E} (h : Inv place s)
    (hans : ∀ frame, handled = .ok frame → Backed s.log frame.message)
    (hsilent : Failed s.log p → handled = .error .sessionPoisoned) :
    Inv place (s.note p (some handled)) where
  sound := h.sound.note handled
  valid q j hmem := h.valid q j (by simpa [WorkerWorld.note] using hmem)
  numbered := h.numbered
  stored := h.stored
  answers := by
    refine each_cons.mpr ⟨fun q frame he => ?_, h.answers⟩
    obtain ⟨rfl, rfl⟩ := Entry.note.inj he
    exact hans frame rfl
  silent := by
    refine each_cons.mpr ⟨fun hfail => ?_, h.silent⟩
    rw [hsilent hfail]
    rfl

omit [Blake3] [EnvelopeReader] [JournalReader] in
theorem not_failed_cons {l : Log P WorkerOperationJournal WorkerEffect (Handled E)}
    {e : Entry P WorkerOperationJournal WorkerEffect (Handled E)} (h : ¬Failed l p)
    (he : ∀ error : WorkerSessionError _, e = .note p (.error error) → ¬error.IsPersistence) :
    ¬Failed (e :: l) p := by
  rintro ⟨error, hmem, hpersistence⟩
  rcases List.mem_cons.mp hmem with heq | hmem
  · exact he error heq.symm hpersistence
  · exact h ⟨error, hmem, hpersistence⟩

end

end WorkerWorld

end Octoscript
