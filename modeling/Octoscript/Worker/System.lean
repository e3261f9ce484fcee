import Octoscript.Lib.WriteAhead
import Octoscript.Worker.Session

namespace Octoscript
open Wire WriteAhead

inductive WorkerEffect
  | dispatch (request : OperationDispatchRequest)
  | compensate (request : OperationCompensationRequest)

/-- What may happen once: the operation of a key, and its compensation. -/
inductive EffectSlot
  | operation (operationKey : String)
  | compensation (operationKey : String)
  deriving DecidableEq

def WorkerEffect.slot : WorkerEffect → EffectSlot
  | .dispatch request => .operation request.operationKey
  | .compensate request => .compensation request.operationKey

namespace WorkerOperationJournal

def empty (scope : String) : WorkerOperationJournal :=
  ⟨workerOperationJournalFormatVersion, scope, []⟩

/-- The intent for the slot is recorded. -/
def Claims : EffectSlot → WorkerOperationJournal → Prop
  | .operation key, j => ∃ r ∈ j.records, r.operationKey = key
  | .compensation key, j => ∃ r ∈ j.records, r.operationKey = key ∧ r.compensation ≠ none

/-- The record is of this effect; a compensation is of a succeeded operation. -/
def Fits [Blake3] : WorkerEffect → WorkerOperationJournal → Prop
  | .dispatch request, j => ∃ r ∈ j.records, r.operationKey = request.operationKey ∧
      r.tool = request.tool ∧
      workerOperationInputFingerprint request.payload = .ok r.inputFingerprint
  | .compensate request, j => ∃ r ∈ j.records, r.operationKey = request.operationKey ∧
      r.state.kind = .succeeded ∧ ∃ c, r.compensation = some c ∧
      ∃ fingerprint, workerOperationInputFingerprint request.payload = .ok fingerprint ∧
        CompensationMatches c request fingerprint

variable {j j' : WorkerOperationJournal}

theorem Claims.mono {slot : EffectSlot} (h : j.Evolves j') (hj : Claims slot j) :
    Claims slot j' := by
  cases slot with
  | operation key =>
    obtain ⟨r, hr, rfl⟩ := hj
    obtain ⟨r', hr', he⟩ := h.of_mem hr
    exact ⟨r', hr', he.operationKey⟩
  | compensation key =>
    obtain ⟨r, hr, rfl, hc⟩ := hj
    obtain ⟨r', hr', he⟩ := h.of_mem hr
    obtain ⟨c, hc⟩ := Option.ne_none_iff_exists'.mp hc
    obtain ⟨c', hc', _⟩ := he.compensation c hc
    exact ⟨r', hr', he.operationKey, by simp [hc']⟩

theorem Fits.mono [Blake3] {effect : WorkerEffect} (h : j.Evolves j') (hj : Fits effect j) :
    Fits effect j' := by
  cases effect with
  | dispatch request =>
    obtain ⟨r, hr, hkey, htool, hinput⟩ := hj
    obtain ⟨r', hr', he⟩ := h.of_mem hr
    exact ⟨r', hr', he.operationKey.trans hkey, he.tool.trans htool, he.inputFingerprint ▸ hinput⟩
  | compensate request =>
    obtain ⟨r, hr, hkey, hstate, c, hc, fingerprint, hprint, hcomp, hinput, hgrant⟩ := hj
    obtain ⟨r', hr', he⟩ := h.of_mem hr
    obtain ⟨c', hc', hcomp', hinput', hgrant', _⟩ := he.compensation c hc
    have hstate' := he.terminal (WorkerOperationState.isTerminal_of_kind hstate)
    exact ⟨r', hr', he.operationKey.trans hkey, hstate' ▸ hstate, c', hc', fingerprint,
      hprint, hcomp'.trans hcomp, hinput'.trans hinput, hgrant'.trans hgrant⟩

end WorkerOperationJournal

def journalDiscipline [Blake3] (scope : String) :
    Discipline WorkerOperationJournal WorkerEffect EffectSlot where
  base := .empty scope
  le := WorkerOperationJournal.Evolves
  refl := .refl
  trans := .trans
  slot := WorkerEffect.slot
  claims := WorkerOperationJournal.Claims
  fits := WorkerOperationJournal.Fits
  claims_mono := .mono
  fits_mono := .mono

/-- The answer to a frame. -/
abbrev Handled (E : Type) :=
  Except (WorkerSessionError (WorkerSession.StoreError E)) AuthenticatedWorkerMessage

/-- The record of the journal in the backend, its fence, and the log. -/
structure WorkerWorld (P E : Type) where
  record : Option StoredRecord
  fence : UInt64
  log : Log P WorkerOperationJournal WorkerEffect (Handled E)

/-- The journal that a payload holds. -/
def journalOf [JournalReader] (payload : Bytes) : Option WorkerOperationJournal := do
  let encoded ← fromUtf8 payload
  (JournalReader.fromStr encoded).toOption

/-- The journal that a record holds. -/
def journalIn [EnvelopeReader] [JournalReader] (record : StoredRecord) :
    Option WorkerOperationJournal := do
  let envelope ← EnvelopeReader.fromSlice record.bytes
  let payload ← Base64.decode envelope.payload.toList
  journalOf payload

namespace WorkerWorld
variable {P E A : Type}

def initial : WorkerWorld P E := ⟨none, 0, []⟩

def revision (s : WorkerWorld P E) : Option UInt64 := s.record.map (·.revision)

def snapshot (s : WorkerWorld P E) : StorageSnapshot := ⟨s.record, s.revision.getD 0⟩

def commit [EnvelopeReader] [JournalReader] (s : WorkerWorld P E) (p : P) (record : StoredRecord) :
    WorkerWorld P E :=
  { s with
    record := some record
    log := match journalIn record with
      | some journal => .commit p journal :: s.log
      | none => s.log }

def act (s : WorkerWorld P E) (p : P) (effect : WorkerEffect) : WorkerWorld P E :=
  { s with log := .act p effect :: s.log }

def note (s : WorkerWorld P E) (p : P) : Option (Handled E) → WorkerWorld P E
  | none => s
  | some handled => { s with log := .note p handled :: s.log }

/-- The contract of the backend at the place of the journal. -/
def BackendAnswers [EnvelopeReader] [JournalReader] (place : StorageRecordKey) (p : P)
    (s : WorkerWorld P E) : (op : BackendOp) → op.Answer E → WorkerWorld P E → Prop
  | .load key, answer, s' =>
    (key = place → ∀ snapshot, answer = .ok snapshot → snapshot = s.snapshot) ∧ s' = s
  | .compareAndSwap key expected replacement, answer, s' =>
    (key = place ∧ s.revision = expected ∧ s.fence = 0 ∧
      (answer = .ok (.stored replacement.revision) ∨ ∃ e, answer = .error e) ∧
      s' = s.commit p replacement) ∨
    (key = place → ∀ floor, answer ≠ .ok (.stored floor)) ∧ s' = s
  | .compareAndSwapFenced key expected replacement token, answer, s' =>
    (key = place ∧ s.revision = expected ∧ s.fence = token ∧
      (answer = .ok (.stored replacement.revision) ∨ ∃ e, answer = .error e) ∧
      s' = s.commit p replacement) ∨
    (key = place → ∀ floor, answer ≠ .ok (.stored floor)) ∧ s' = s
  | .currentFence _, _, s' => s' = s
  | .reserveFence _, _, s' => ∃ fence, s' = { s with fence }
  | .establishFence _ _, _, s' => ∃ fence, s' = { s with fence }

/-- What the environment may answer. Adapters answer as they like. -/
def Answers [EnvelopeReader] [JournalReader] (place : StorageRecordKey) (p : P)
    (s : WorkerWorld P E) : (op : WorkerOp) → op.Answer E A → WorkerWorld P E → Prop
  | .backend op, answer, s' => s.BackendAnswers place p op answer s'
  | .admitSession .., _, s' => ∃ fence, s' = { s with fence }
  | .invocationSafety _, _, s' => s' = s
  | .durableOperationContract _, _, s' => s' = s
  | .invoke .., _, s' => s' = s
  | .dispatchOperation request _, _, s' => s' = s.act p (.dispatch request)
  | .compensateOperation request _, _, s' => s' = s.act p (.compensate request)
  | .reconcileOperation .., _, s' => s' = s

/-- The handle of a process for the journal at `place`. -/
def storeAt (place : StorageRecordKey) (ring : StorageKeyring) : AuthenticatedWorkerJournalStore :=
  ⟨ring, place, place.name, rfl⟩

inductive StartError (E A : Type)
  | store (error : WorkerSession.StoreError E)
  | opening (error : WorkerSessionOpenError A)

section
variable [Blake3] [EnvelopeReader] [JournalReader]

/-- A session is opened from a snapshot of the store. -/
def startSession (store : AuthenticatedWorkerJournalStore) (provenance : ℕ)
    (openingFrame : AuthenticatedWorkerMessage) (adapters : Finset String)
    (limits : WorkerSessionLimits) : Effectful WorkerOp (WorkerOp.Answer E A) SessionAuthenticator
      (StartError E A) WorkerSession := do
  let snapshot ← Effectful.mapErr .store store.load
  Effectful.mapErr .opening (WorkerSession.openSession provenance openingFrame snapshot.journal
    snapshot.revision adapters limits)

/-- The session that a start leaves. -/
def started : Except (StartError E A) WorkerSession × SessionAuthenticator →
    Prog WorkerOp (WorkerOp.Answer E A) (Option (Handled E) × Option WorkerSession)
  | (.ok session, _) => .done (none, some session)
  | (.error _, _) => .done (none, none)

/-- Each process has its own key ring; `place` names the scope of the journal. -/
def system (P E A : Type) (place : StorageRecordKey) (rings : P → StorageKeyring) :
    Interaction.System P (WorkerWorld P E) WorkerOp (WorkerOp.Answer E A) WorkerSession
      (Option (Handled E)) AuthenticatedWorkerMessage where
  exec p s := s.Answers place p
  start p t := ∃ provenance openingFrame adapters limits authenticator,
    t = (startSession (storeAt place (rings p)) provenance openingFrame adapters limits
      authenticator).bind started
  serve p session frame := (WorkerSession.handle (storeAt place (rings p)) frame).answer some session
  record p handled s := s.note p handled

end

end WorkerWorld

end Octoscript
