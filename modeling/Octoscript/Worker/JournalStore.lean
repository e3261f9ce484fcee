import Octoscript.Protocol.JournalHistory
import Octoscript.Storage.Authenticated

namespace Octoscript
open Wire

inductive WorkerAdapterError
  | unsupported (operation : String)
  | invalidJsonInput
  | invalidJsonOutput
  | failed
  | indeterminate
  deriving DecidableEq

inductive WorkerInvocationSafety
  | readOnly
  | independentlyIdempotent
  deriving DecidableEq

inductive WorkerDurableOperationContract
  | reconciliation
  | providerIdempotencyAndReconciliation
  deriving DecidableEq

/-- A call of a worker to its environment. -/
inductive WorkerOp
  | backend (op : BackendOp)
  | admitSession (manifest : CapabilityManifest) (journalScope : String)
  | invocationSafety (tool : String)
  | durableOperationContract (tool : String)
  | invoke (request : ToolInvocation) (grant : CapabilityGrant)
  | dispatchOperation (request : OperationDispatchRequest) (grant : CapabilityGrant)
  | compensateOperation (request : OperationCompensationRequest) (grant : CapabilityGrant)
  | reconcileOperation (request : OperationReconcileRequest) (grant : CapabilityGrant)

/-- The backend fails with an `E`, the admission policy with an `A`. -/
@[reducible] def WorkerOp.Answer (E A : Type) : WorkerOp → Type
  | .backend op => op.Answer E
  | .admitSession .. => Except A UInt64
  | .invocationSafety _ => Option WorkerInvocationSafety
  | .durableOperationContract _ => Option WorkerDurableOperationContract
  | .invoke .. => Except WorkerAdapterError ToolPayload
  | .dispatchOperation .. => Except WorkerAdapterError OperationStatus
  | .compensateOperation .. => Except WorkerAdapterError OperationStatus
  | .reconcileOperation .. => Except WorkerAdapterError OperationStatus

/-- `serde_json::from_str` for journals; an error carries its text. -/
class JournalReader where
  fromStr : String → Except String WorkerOperationJournal

/-- The reader takes back what the serialiser wrote. Only valid journals are written. -/
class LawfulJournalReader extends JournalReader where
  fromStr_text : ∀ j : WorkerOperationJournal, j.Valid → fromStr (Json.text j.toJson) = .ok j

@[simp] theorem WorkerOperationState.toJson_inj {a b : WorkerOperationState} :
    a.toJson = b.toJson ↔ a = b := by
  cases a <;> cases b <;> simp [toJson]

@[simp] theorem WorkerCompensationRecord.toJson_inj {a b : WorkerCompensationRecord} :
    a.toJson = b.toJson ↔ a = b := by
  cases a
  cases b
  simp [toJson]

@[simp] theorem WorkerOperationRecord.toJson_inj {a b : WorkerOperationRecord} :
    a.toJson = b.toJson ↔ a = b := by
  obtain ⟨_, _, _, _, c⟩ := a
  obtain ⟨_, _, _, _, d⟩ := b
  have hnull : ∀ c : WorkerCompensationRecord, c.toJson ≠ .null := fun _ h => nomatch h
  cases c <;> cases d <;> simp [toJson, hnull, Ne.symm (hnull _)]

theorem WorkerOperationJournal.toJson_injective :
    Function.Injective WorkerOperationJournal.toJson := by
  have hmap : Function.Injective WorkerOperationRecord.toJson :=
    fun _ _ => WorkerOperationRecord.toJson_inj.mp
  rintro ⟨_, _, _⟩ ⟨_, _, _⟩ h
  simpa [toJson, hmap.list_map.eq_iff, UInt8.toNat_inj] using h

/-- The text of a journal determines it, so a lawful reader exists. -/
theorem nonempty_lawfulJournalReader : Nonempty LawfulJournalReader :=
  ⟨{ fromStr := fun text => (Function.partialInv
        (fun j : WorkerOperationJournal => Json.text j.toJson) text).okOr ""
     fromStr_text := fun j _ => by
      have hinv := Function.partialInv_left
        (Json.text_injective.comp WorkerOperationJournal.toJson_injective) j
      rw [Option.okOr_ok_iff]
      exact hinv }⟩

namespace WorkerOperationJournal
variable [JournalReader]

def fromJson (encoded : String) : Except ProtocolError WorkerOperationJournal := do
  rejectIf (encoded.utf8ByteSize > maxWorkerOperationJournalBytes)
    (.operationJournalTooLarge encoded.utf8ByteSize maxWorkerOperationJournalBytes)
  let journal ← (JournalReader.fromStr encoded).mapError .serialization
  journal.validateAndBound
  return journal

def fromJsonForScope (encoded expectedScope : String) :
    Except ProtocolError WorkerOperationJournal := do
  let journal ← fromJson encoded
  journal.validateScope expectedScope
  return journal

end WorkerOperationJournal

/-- A nonzero fencing token. -/
structure WorkerJournalLease where
  fencingToken : UInt64
  nonzero : fencingToken ≠ 0
  deriving DecidableEq

def WorkerJournalLease.fromFencingToken (value : UInt64) : Option WorkerJournalLease :=
  if h : value ≠ 0 then some ⟨value, h⟩ else none

structure WorkerJournalSnapshot where
  journal : WorkerOperationJournal
  revision : UInt64

inductive AuthenticatedWorkerJournalStoreInitError
  | protocol (error : ProtocolError)
  | recordKey (error : StorageRecordKeyError)

inductive AuthenticatedWorkerJournalStoreError (E : Type)
  | protocol (error : ProtocolError)
  | storage (error : AuthenticatedStoreError E)
  | invalidJournalEncoding

/-- The handle of one process: its key ring, and the record that its scope names. -/
structure AuthenticatedWorkerJournalStore where
  ring : StorageKeyring
  recordKey : StorageRecordKey
  journalScope : String
  named : recordKey.name = journalScope

namespace AuthenticatedWorkerJournalStore

def new (ring : StorageKeyring) (journalNamespace journalScope : String) :
    Except AuthenticatedWorkerJournalStoreInitError AuthenticatedWorkerJournalStore := do
  let _ ← (WorkerOperationJournal.new journalScope).mapError .protocol
  match h : StorageRecordKey.new journalNamespace journalScope with
  | .error error => .error (.recordKey error)
  | .ok recordKey => .ok ⟨ring, recordKey, journalScope, StorageRecordKey.name_of_new h⟩

variable {E A σ α : Type}

/-- A method of the store, called on a receiver that it leaves alone. -/
abbrev Call (E A σ α : Type) :=
  Effectful WorkerOp (WorkerOp.Answer E A) σ (AuthenticatedWorkerJournalStoreError E) α

/-- A method of the authenticated store below. -/
def inner (self : AuthenticatedWorkerJournalStore) (x : AuthenticatedStore.Call E α) :
    Call E A σ α :=
  Effectful.mapErr .storage (Effectful.within WorkerOp.backend (fun _ a => a) self.ring x)

variable [Blake3] [EnvelopeReader]

def load [JournalReader] (self : AuthenticatedWorkerJournalStore) :
    Call E A σ WorkerJournalSnapshot := do
  let record ← self.inner (AuthenticatedStore.load self.recordKey)
  match record with
  | none => do
    let journal ← Effectful.check ((WorkerOperationJournal.new self.journalScope).mapError .protocol)
    return ⟨journal, 0⟩
  | some record => do
    let encoded ← Effectful.check ((fromUtf8 record.payload).okOr .invalidJournalEncoding)
    let journal ← Effectful.check
      ((WorkerOperationJournal.fromJsonForScope encoded self.journalScope).mapError .protocol)
    return ⟨journal, record.revision⟩

def reserveFence (self : AuthenticatedWorkerJournalStore) : Call E A σ UInt64 :=
  self.inner (AuthenticatedStore.reserveFence self.recordKey)

def persist (self : AuthenticatedWorkerJournalStore) (journal : WorkerOperationJournal)
    (expectedRevision : UInt64) (journalLease : WorkerJournalLease) : Call E A σ UInt64 := do
  Effectful.check ((journal.validateScope self.journalScope).mapError .protocol)
  let encoded ← Effectful.check (journal.encode.mapError .protocol)
  let stored ← self.inner (AuthenticatedStore.compareAndSwapFenced self.recordKey
    (if expectedRevision = 0 then none else some expectedRevision) (utf8 encoded)
    journalLease.fencingToken)
  return stored.revision

end AuthenticatedWorkerJournalStore

end Octoscript
