import Octoscript.Capabilities.AuditJournal
import Octoscript.Lib.Effectful
import Octoscript.Lib.WriteAhead
import Octoscript.Storage.Record

namespace Octoscript
open Wire History WriteAhead CapabilityAuditJournal Effectful

/-- A call to the record that the recorders share. -/
inductive RecordOp
  | load
  | create (payload : Bytes)
  | replace (expectedRevision : UInt64) (payload : Bytes)

@[reducible] def RecordOp.Answer (E : Type) : RecordOp → Type
  | .load => Except (AuthenticatedStoreError E) (Option AuthenticatedRecord)
  | .create _ => Except (AuthenticatedStoreError E) AuthenticatedRecord
  | .replace .. => Except (AuthenticatedStoreError E) AuthenticatedRecord

/-- What `serde_json::from_str` gives for a journal: its stream identifier is text. -/
structure CapabilityAuditJournalWire where
  formatVersion : UInt8
  streamId : String
  (segmentStartEventSequence firstEventSequence nextEventSequence droppedAuditEvents : UInt64)
  events : List AuditEvent

def CapabilityAuditJournal.wire (j : CapabilityAuditJournal) : CapabilityAuditJournalWire :=
  ⟨j.formatVersion, j.streamId.value, j.segmentStartEventSequence, j.firstEventSequence,
    j.nextEventSequence, j.droppedAuditEvents, j.events⟩

class AuditJournalReader where
  fromStr : String → Option CapabilityAuditJournalWire

/-- The reader takes back what the serialiser wrote. -/
class LawfulAuditJournalReader extends AuditJournalReader where
  fromStr_text : ∀ j : CapabilityAuditJournal, fromStr (Json.text j.toJson) = some j.wire

@[simp] theorem AuditOutcome.toJson_inj {a b : AuditOutcome} : a.toJson = b.toJson ↔ a = b := by
  cases a <;> cases b <;> simp [toJson]

@[simp] theorem RetryClass.toJson_inj {a b : RetryClass} : a.toJson = b.toJson ↔ a = b := by
  cases a <;> cases b <;> simp [toJson]

theorem AuditEvent.toJson_injective : Function.Injective AuditEvent.toJson := by
  rintro ⟨_, _, _, _, _, _, a⟩ ⟨_, _, _, _, _, _, b⟩ h
  cases a <;> cases b <;> simp_all [toJson, UInt64.toNat_inj]

theorem CapabilityAuditJournal.toJson_injective :
    Function.Injective toJson := by
  rintro ⟨_, ⟨_, _⟩, _, _, _, _, _⟩ ⟨_, ⟨_, _⟩, _, _, _, _, _⟩ h
  simpa [toJson, AuditEvent.toJson_injective.list_map.eq_iff, UInt8.toNat_inj, UInt64.toNat_inj]
    using h

/-- The text of a journal determines it, so a lawful reader exists. -/
theorem nonempty_lawfulAuditJournalReader : Nonempty LawfulAuditJournalReader :=
  ⟨{ fromStr := fun text => (Function.partialInv
        (fun j : CapabilityAuditJournal => Json.text j.toJson) text).map (·.wire)
     fromStr_text := fun j => by
      have hinv := Function.partialInv_left
        (Json.text_injective.comp toJson_injective) j
      exact congrArg (Option.map (·.wire)) hinv }⟩

namespace CapabilityAuditJournal
variable [AuditJournalReader]

/-- The journal that a decoded document stands for. -/
def ofWire (wire : CapabilityAuditJournalWire) :
    Except CapabilityAuditJournalError CapabilityAuditJournal := do
  let streamId ← (CapabilityAuditStreamId.new wire.streamId).mapError .invalidStreamId
  return ⟨wire.formatVersion, streamId, wire.segmentStartEventSequence, wire.firstEventSequence,
    wire.nextEventSequence, wire.droppedAuditEvents, wire.events⟩

omit [AuditJournalReader] in
theorem ofWire_wire (j : CapabilityAuditJournal) : ofWire j.wire = .ok j := by
  simp [ofWire, wire, CapabilityAuditStreamId.new, j.streamId.valid, pure, Except.pure]

def fromJsonWithCapacity (document : String) (maxEvents : ℕ+) :
    Except CapabilityAuditJournalError CapabilityAuditJournal := do
  validateCapacity maxEvents
  rejectIf (document.utf8ByteSize > maxDurableCapabilityAuditJournalBytes)
    (.tooLarge document.utf8ByteSize maxDurableCapabilityAuditJournalBytes)
  let wire ← (AuditJournalReader.fromStr document).okOr .invalidEncoding
  let journal ← ofWire wire
  journal.validate maxEvents
  return journal

end CapabilityAuditJournal

structure PersistedCapabilityAuditJournal where
  storageRevision : UInt64
  journal : CapabilityAuditJournal
  deriving DecidableEq

inductive CapabilityAuditStoreError (E : Type)
  | storage (error : AuthenticatedStoreError E)
  | journal (error : CapabilityAuditJournalError)
  | contended (attempts : ℕ)

/-- The configuration of one recorder. -/
structure CapabilityAuditStore where
  streamId : CapabilityAuditStreamId
  segmentStartEventSequence : UInt64
  nonzero : segmentStartEventSequence ≠ 0
  maxEvents : ℕ+
  bounded : (maxEvents : ℕ) ≤ maxDurableCapabilityAuditEvents

namespace CapabilityAuditStore
variable {E : Type} [AuditJournalReader]

abbrev Call (E α : Type) :=
  Effectful RecordOp (RecordOp.Answer E) CapabilityAuditStore (CapabilityAuditStoreError E) α

/-- Reads the journal of a loaded record. -/
def decode (self : CapabilityAuditStore) (record : AuthenticatedRecord) :
    Except CapabilityAuditJournalError PersistedCapabilityAuditJournal := do
  let document ← (fromUtf8 record.payload).okOr .invalidEncoding
  let journal ← fromJsonWithCapacity document self.maxEvents
  rejectIf (journal.streamId ≠ self.streamId) (.streamMismatch self.streamId journal.streamId)
  rejectIf (journal.segmentStartEventSequence ≠ self.segmentStartEventSequence)
    (.segmentStartMismatch self.segmentStartEventSequence journal.segmentStartEventSequence)
  return ⟨record.revision, journal⟩

def load : Call E (Option PersistedCapabilityAuditJournal) := do
  let self ← self
  let answer ← perform RecordOp.load
  let record ← check (answer.mapError .storage)
  match record with
  | none => return none
  | some record =>
    let persisted ← check ((self.decode record).mapError .journal)
    return some persisted

/-- The revision to replace and the journal to extend. -/
def target (self : CapabilityAuditStore) :
    Option PersistedCapabilityAuditJournal → Option UInt64 × CapabilityAuditJournal
  | some existing => (some existing.storageRevision, existing.journal)
  | none => (none, .newFromEventSequence self.streamId self.segmentStartEventSequence)

def write (expectedRevision : Option UInt64) (payload : Bytes) :
    Call E (Except (AuthenticatedStoreError E) AuthenticatedRecord) :=
  match expectedRevision with
  | some revision => perform (RecordOp.replace revision payload)
  | none => perform (RecordOp.create payload)

/-- A journal's append, as a value: the number of new events and the journal after it. -/
def extend (journal : CapabilityAuditJournal) (batch : AuditEventBatch) (maxEvents : ℕ+) :
    Except (CapabilityAuditStoreError E) (ℕ × CapabilityAuditJournal) :=
  match appendBatch batch maxEvents journal with
  | (.ok appended, journal) => .ok (appended, journal)
  | (.error error, _) => .error (.journal error)

/-- The attempts that remain. -/
def appendAttempts (batch : AuditEventBatch) : ℕ → Call E PersistedCapabilityAuditJournal
  | 0 => check (.error (.contended maxDurableCapabilityAuditStoreRetries))
  | remaining + 1 => do
    let self ← self
    let existing ← load
    let (expectedRevision, journal) := self.target existing
    let (appended, journal) ← check (extend journal batch self.maxEvents)
    if appended = 0 then
      let storageRevision ← check (expectedRevision.okOr (.journal .invalidSequence))
      return ⟨storageRevision, journal⟩
    else
      let payload ← check (journal.encode.mapError .journal)
      let answer ← write expectedRevision (utf8 payload)
      match answer with
      | .ok record => return ⟨record.revision, journal⟩
      | .error (.writeConflict ..) => appendAttempts batch remaining
      | .error error => check (.error (.storage error))

def appendBatch (batch : AuditEventBatch) : Call E PersistedCapabilityAuditJournal := do
  check (rejectIf (batch.events = []) (.journal .emptyBatch))
  check ((validateBatch batch).mapError fun error => .journal (.invalidBatch error))
  appendAttempts batch maxDurableCapabilityAuditStoreRetries

end CapabilityAuditStore

/-- The batch's events are the ones the source has under their numbers. -/
def AuditEventBatch.From (source : ℕ → AuditEvent) (batch : AuditEventBatch) : Prop :=
  ∀ event ∈ batch.events, event = source event.number

/-- A batch and the result of its append. -/
abbrev Appended (E : Type) :=
  AuditEventBatch × Except (CapabilityAuditStoreError E) PersistedCapabilityAuditJournal

structure AuditWorld (P E : Type) where
  record : Option AuthenticatedRecord
  log : Log P (Option CapabilityAuditJournal) Empty (Appended E)

/-- The journal that a payload holds. -/
def auditJournalOf [AuditJournalReader] (payload : Bytes) : Option CapabilityAuditJournal := do
  let document ← fromUtf8 payload
  let wire ← AuditJournalReader.fromStr document
  (ofWire wire).toOption

/-- Journals follow each other as appends leave them; no journal comes first. -/
def auditDiscipline : Discipline (Option CapabilityAuditJournal) Empty Empty where
  base := none
  le a b := ∀ j, a = some j → ∃ j', b = some j' ∧ j.Evolves j'
  refl a j h := ⟨j, h, .refl j⟩
  trans h h' j hj := by
    obtain ⟨j', hj', he⟩ := h j hj
    obtain ⟨j'', hj'', he'⟩ := h' j' hj'
    exact ⟨j'', hj'', he.trans he'⟩
  slot a := a
  claims s := nomatch s
  fits a := nomatch a
  claims_mono {s} := nomatch s
  fits_mono {a} := nomatch a

namespace AuditWorld
variable {P E : Type} [AuditJournalReader]

def initial : AuditWorld P E := ⟨none, []⟩

def persisted (s : AuditWorld P E) : Option CapabilityAuditJournal :=
  s.record.bind fun record => auditJournalOf record.payload

def commit (s : AuditWorld P E) (p : P) (record : AuthenticatedRecord) : AuditWorld P E :=
  ⟨some record, .commit p (auditJournalOf record.payload) :: s.log⟩

def note (s : AuditWorld P E) (p : P) : Option (Appended E) → AuditWorld P E
  | none => s
  | some appended => { s with log := .note p appended :: s.log }

/-- The answers to a write that was made: the record, or an error that hides it. -/
def Reports (record : AuthenticatedRecord) :
    Except (AuthenticatedStoreError E) AuthenticatedRecord → Prop
  | .ok answer => answer = record
  | .error (.writeConflict ..) => False
  | .error _ => True

/-- The contract of the record: a write that is reported is made at the next revision, one that
conflicts is not made, and one that fails otherwise may have been made or not. -/
def Answers (p : P) (s : AuditWorld P E) : (op : RecordOp) → op.Answer E → AuditWorld P E → Prop
  | .load, answer, s' => (answer = .ok s.record ∨ ∃ error, answer = .error error) ∧ s' = s
  | .create payload, answer, s' =>
    (∃ record, s.record = none ∧ record.revision = 1 ∧ record.payload = payload ∧
      Reports record answer ∧ s' = s.commit p record) ∨
    (∃ error, answer = .error error) ∧ s' = s
  | .replace expected payload, answer, s' =>
    (∃ old record, s.record = some old ∧ old.revision = expected ∧
      expected.checkedSucc = some record.revision ∧ record.payload = payload ∧
      Reports record answer ∧ s' = s.commit p record) ∨
    (∃ error, answer = .error error) ∧ s' = s

/-- Each recorder starts with a configuration of its own and appends batches of `source`. -/
def system (P E : Type) (source : ℕ → AuditEvent) :
    Interaction.System P (AuditWorld P E) RecordOp (RecordOp.Answer E) CapabilityAuditStore
      (Option (Appended E)) { batch : AuditEventBatch // batch.From source } where
  exec p s := s.Answers p
  start _ t := ∃ store, t = .done (none, some store)
  serve _ store batch :=
    (CapabilityAuditStore.appendBatch batch.1).answer (fun result => some (batch.1, result)) store
  record p appended s := s.note p appended

end AuditWorld

end Octoscript
