import Octoscript.Storage.RollbackAnchor

namespace Octoscript
open Wire Effectful

def maxPendingSqliteCandidates : ℕ := 16
def maxAnchorCasRetries : ℕ := 8

/-- A row of `octoscript_storage_versions`. -/
structure SqliteRow where
  key : StorageRecordKey
  revision : UInt64
  commitment : RecordCommitment
  record : Bytes
  deriving DecidableEq

inductive AnchoredSqliteStoreError (AE SE : Type)
  | anchor (error : AE)
  | sqlite (error : SE)
  | invalidAnchorState (error : RollbackAnchorStateError)
  | anchorRecordMissing (revision : UInt64)
  | anchorRecordCommitmentMismatch (revision : UInt64)
  | storedRecordTooLarge (actual maximum : ℕ)
  | revisionExhausted
  | invalidReplacementRevision (expected actual : UInt64)
  | fencingRequired (current : UInt64)
  | invalidFencingToken
  | fencingTokenExhausted
  | fencingTokenRejected (current supplied : UInt64)
  | anchorContention
  | pendingCandidateLimit (maximum : ℕ)
  | candidateCommitmentCollision (revision : UInt64)

def recordCommitment [Blake3] (key : StorageRecordKey) (record : StoredRecord) : RecordCommitment :=
  Blake3.hash (utf8 "octoscript-storage/anchored-sqlite-record/v1" ++ component (utf8 key.space) ++
    component (utf8 key.name) ++ beBytes record.revision ++ component record.bytes)

namespace SqliteRow

/-- The primary key of the row. -/
def isAt (row : SqliteRow) (key : StorageRecordKey) (revision : UInt64)
    (commitment : RecordCommitment) : Prop :=
  row.key = key ∧ row.revision = revision ∧ row.commitment = commitment

instance (row : SqliteRow) (key : StorageRecordKey) (revision : UInt64)
    (commitment : RecordCommitment) : Decidable (row.isAt key revision commitment) :=
  inferInstanceAs (Decidable (_ ∧ _))

/-- The row is older than the anchored one, or a rival of it. -/
def isHistory (row : SqliteRow) (key : StorageRecordKey) (revision : UInt64)
    (commitment : RecordCommitment) : Prop :=
  row.key = key ∧ (beBytes row.revision < beBytes revision ∨
    row.revision = revision ∧ row.commitment ≠ commitment)

instance (row : SqliteRow) (key : StorageRecordKey) (revision : UInt64)
    (commitment : RecordCommitment) : Decidable (row.isHistory key revision commitment) :=
  inferInstanceAs (Decidable (_ ∧ _))

end SqliteRow

namespace Sqlite

abbrev Rows := List SqliteRow

def selectLength (rows : Rows) (key : StorageRecordKey) (revision : UInt64)
    (commitment : RecordCommitment) : Option ℕ :=
  (rows.find? (·.isAt key revision commitment)).map (·.record.length)

def selectRecord (rows : Rows) (key : StorageRecordKey) (revision : UInt64)
    (commitment : RecordCommitment) (maximum : ℕ) : Option Bytes :=
  (rows.find? fun row => row.isAt key revision commitment ∧ row.record.length ≤ maximum).map
    (·.record)

def pruneHistory (rows : Rows) (key : StorageRecordKey) (current : RollbackAnchorState) : Rows :=
  if current.revisionFloor = 0 then rows
  else match current.recordCommitment with
    | none => rows
    | some commitment => rows.filter fun row =>
      ¬row.isHistory key current.revisionFloor commitment

def pending (rows : Rows) (key : StorageRecordKey) (current : RollbackAnchorState) : ℕ :=
  rows.countP fun row => row.key = key ∧ beBytes current.revisionFloor < beBytes row.revision

/-- What the transaction of `persist_candidate` makes of the table. -/
def persistCandidate {AE SE : Type} (rows : Rows) (key : StorageRecordKey)
    (current : RollbackAnchorState) (replacement : StoredRecord) (commitment : RecordCommitment) :
    Except (AnchoredSqliteStoreError AE SE) Rows :=
  let rows := pruneHistory rows key current
  match rows.find? (·.isAt key replacement.revision commitment) with
  | some existing =>
    if existing.record ≠ replacement.bytes then
      .error (.candidateCommitmentCollision replacement.revision)
    else .ok rows
  | none =>
    if maxPendingSqliteCandidates ≤ pending rows key current then
      .error (.pendingCandidateLimit maxPendingSqliteCandidates)
    else .ok (⟨key, replacement.revision, commitment, replacement.bytes⟩ :: rows)

/-- What `discard_unanchored_candidates` leaves. -/
def discardUnanchored (rows : Rows) (key : StorageRecordKey) (current : RollbackAnchorState) :
    Rows :=
  if current.revisionFloor = 0 then rows.filter (·.key ≠ key)
  else match current.recordCommitment with
    | none => rows
    | some commitment => rows.filter fun row =>
      ¬(row.key = key ∧ ¬(row.revision = current.revisionFloor ∧ row.commitment = commitment))

section
variable {AE SE : Type} {rows rows' : Rows} {key : StorageRecordKey}
  {current : RollbackAnchorState} {row : SqliteRow}

/-- Pruning keeps the rows above the current revision and the current row. -/
theorem mem_pruneHistory (h : row ∈ rows) (hkeep : row.key = key →
    current.revisionFloor < row.revision ∨
      row.revision = current.revisionFloor ∧ current.recordCommitment = some row.commitment) :
    row ∈ pruneHistory rows key current := by
  unfold pruneHistory
  split_ifs with hzero
  · exact h
  cases hc : current.recordCommitment with
  | none => exact h
  | some commitment =>
    refine List.mem_filter.mpr ⟨h, decide_eq_true ?_⟩
    rintro ⟨hkey, hold⟩
    rw [beBytes_lt_iff] at hold
    rcases hkeep hkey with hlt | ⟨heq, hcommit⟩
    · rcases hold with hlt' | ⟨heq, _⟩
      · exact UInt64.lt_asymm hlt hlt'
      · exact UInt64.lt_irrefl _ (heq ▸ hlt)
    · rcases hold with hlt' | ⟨_, hne⟩
      · exact UInt64.lt_irrefl _ (heq ▸ hlt')
      · exact hne (Option.some.inj (hcommit.symm.trans hc))

/-- A persisted candidate is in the table, with every row that pruning keeps. -/
theorem persistCandidate_ok {replacement : StoredRecord} {commitment : RecordCommitment}
    (h : (persistCandidate rows key current replacement commitment :
      Except (AnchoredSqliteStoreError AE SE) _) = .ok rows') :
    (∀ row ∈ pruneHistory rows key current, row ∈ rows') ∧
      ∃ row ∈ rows', row.isAt key replacement.revision commitment := by
  simp only [persistCandidate] at h
  cases hfind : (pruneHistory rows key current).find? (·.isAt key replacement.revision commitment)
    with
  | some existing =>
    rw [hfind] at h
    simp only at h
    split_ifs at h
    obtain rfl := Except.ok.inj h
    have hat := List.find?_some hfind
    exact ⟨fun _ h => h, existing, List.mem_of_find?_eq_some hfind, of_decide_eq_true hat⟩
  | none =>
    rw [hfind] at h
    simp only at h
    split_ifs at h
    obtain rfl := Except.ok.inj h
    exact ⟨fun _ h => List.mem_cons_of_mem _ h, _, List.mem_cons_self, rfl, rfl, rfl⟩

/-- A discard keeps the current row and the rows of other keys. -/
theorem mem_discardUnanchored (h : row ∈ rows) (hkeep : row.key = key →
    row.revision = current.revisionFloor ∧ current.recordCommitment = some row.commitment) :
    row ∈ discardUnanchored rows key current := by
  unfold discardUnanchored
  split_ifs with hzero
  · refine List.mem_filter.mpr ⟨h, decide_eq_true fun hkey => ?_⟩
    exact nomatch (current.valid.mp hzero).symm.trans (hkeep hkey).2
  · cases hc : current.recordCommitment with
    | none => exact h
    | some commitment =>
      refine List.mem_filter.mpr ⟨h, decide_eq_true ?_⟩
      rintro ⟨hkey, hother⟩
      obtain ⟨hrev, hcommit⟩ := hkeep hkey
      exact hother ⟨hrev, (Option.some.inj (hc.symm.trans hcommit)).symm⟩

end

end Sqlite

inductive SqliteOp
  | anchorLoad (key : StorageRecordKey)
  | anchorCompareAndSwap (key : StorageRecordKey) (expected replacement : RollbackAnchorState)
  | selectLength (key : StorageRecordKey) (revision : UInt64) (commitment : RecordCommitment)
  | selectRecord (key : StorageRecordKey) (revision : UInt64) (commitment : RecordCommitment)
      (maximum : ℕ)
  | persistCandidate (key : StorageRecordKey) (current : RollbackAnchorState)
      (replacement : StoredRecord) (commitment : RecordCommitment)
  | discardUnanchored (key : StorageRecordKey) (current : RollbackAnchorState)

/-- The anchor fails with an `AE`, SQLite with an `SE`; a transaction may also end in
an error of the store. -/
@[reducible] def SqliteOp.Answer (AE SE : Type) : SqliteOp → Type
  | .anchorLoad _ => Except AE RollbackAnchorState
  | .anchorCompareAndSwap .. => Except AE RollbackAnchorCompareAndSwapOutcome
  | .selectLength .. => Except SE (Option ℕ)
  | .selectRecord .. => Except SE (Option Bytes)
  | .persistCandidate .. => Except (AnchoredSqliteStoreError AE SE) Unit
  | .discardUnanchored .. => Except SE ℕ

structure AnchoredSqliteRecoveryFence where
  key : StorageRecordKey
  fencingToken : UInt64

inductive PersistCandidateOutcome
  | stored
  | anchorChanged (actual : RollbackAnchorState)

namespace AnchoredSqliteStore
variable {AE SE σ : Type}

abbrev Call (AE SE σ α : Type) := Effectful SqliteOp (SqliteOp.Answer AE SE) σ
  (AnchoredSqliteStoreError AE SE) α

def loadAnchorState (key : StorageRecordKey) : Call AE SE σ RollbackAnchorState := do
  let answer ← perform (SqliteOp.anchorLoad key)
  check (answer.mapError .anchor)

def recordAtAnchor [Blake3] (key : StorageRecordKey) (state : RollbackAnchorState) :
    Call AE SE σ (Option StoredRecord) :=
  match state.recordCommitment with
  | none => pure none
  | some commitment => do
    let answer ← perform (SqliteOp.selectLength key state.revisionFloor commitment)
    let length ← check (answer.mapError .sqlite)
    let length ← check (length.okOr (.anchorRecordMissing state.revisionFloor))
    check (rejectIf (length > maxAuthenticatedRecordBytes)
      (.storedRecordTooLarge length maxAuthenticatedRecordBytes))
    let answer ← perform
      (SqliteOp.selectRecord key state.revisionFloor commitment maxAuthenticatedRecordBytes)
    let bytes ← check (answer.mapError .sqlite)
    let bytes ← check (bytes.okOr (.anchorRecordMissing state.revisionFloor))
    check (rejectIf (recordCommitment key ⟨state.revisionFloor, bytes⟩ ≠ commitment)
      (.anchorRecordCommitmentMismatch state.revisionFloor))
    return some ⟨state.revisionFloor, bytes⟩

def checkedAnchorState [Blake3] (key : StorageRecordKey) : Call AE SE σ RollbackAnchorState := do
  let state ← loadAnchorState key
  let _ ← recordAtAnchor key state
  return state

def expectedMatches (state : RollbackAnchorState) : Option UInt64 → Bool
  | none => state.revisionFloor = 0
  | some expected => state.revisionFloor ≠ 0 && state.revisionFloor = expected

def conflict (state : RollbackAnchorState) : CompareAndSwapOutcome :=
  .conflict (if state.revisionFloor ≠ 0 then some state.revisionFloor else none)
    state.revisionFloor

def validateReplacement (current : RollbackAnchorState) (replacement : StoredRecord) :
    Except (AnchoredSqliteStoreError AE SE) Unit := do
  rejectIf (replacement.bytes.length > maxAuthenticatedRecordBytes)
    (.storedRecordTooLarge replacement.bytes.length maxAuthenticatedRecordBytes)
  let expected ← current.revisionFloor.checkedSucc.okOr .revisionExhausted
  rejectIf (replacement.revision ≠ expected)
    (.invalidReplacementRevision expected replacement.revision)

def persistCandidate (key : StorageRecordKey) (current : RollbackAnchorState)
    (replacement : StoredRecord) (commitment : RecordCommitment) :
    Call AE SE σ PersistCandidateOutcome := do
  let actual ← loadAnchorState key
  if actual ≠ current then return .anchorChanged actual
  let answer ← perform (SqliteOp.persistCandidate key current replacement commitment)
  check answer
  return .stored

def advanceAnchor (key : StorageRecordKey) (current next : RollbackAnchorState) :
    Call AE SE σ RollbackAnchorCompareAndSwapOutcome := do
  let answer ← perform (SqliteOp.anchorCompareAndSwap key current next)
  check (answer.mapError .anchor)

/-- The fence under which a write starts. -/
def checkFence (current : RollbackAnchorState) :
    Option UInt64 → Except (AnchoredSqliteStoreError AE SE) Unit
  | some fencingToken => do
    rejectIf (fencingToken = 0) .invalidFencingToken
    rejectIf (fencingToken ≠ current.fencingToken)
      (.fencingTokenRejected current.fencingToken fencingToken)
  | none => rejectIf (current.fencingToken ≠ 0) (.fencingRequired current.fencingToken)

/-- The anchor changed before the candidate was written. -/
def checkChangedFence (actual : RollbackAnchorState) :
    Option UInt64 → Except (AnchoredSqliteStoreError AE SE) Unit
  | some fencingToken => rejectIf (fencingToken ≠ actual.fencingToken)
      (.fencingTokenRejected actual.fencingToken fencingToken)
  | none => rejectIf (actual.fencingToken ≠ 0) (.fencingRequired actual.fencingToken)

/-- The anchor changed after the candidate was written: an unfenced write is then only a
conflict. -/
def checkConflictFence (actual : RollbackAnchorState) :
    Option UInt64 → Except (AnchoredSqliteStoreError AE SE) Unit
  | some fencingToken => rejectIf (fencingToken ≠ actual.fencingToken)
      (.fencingTokenRejected actual.fencingToken fencingToken)
  | none => .ok ()

def finishCommit [Blake3] (key : StorageRecordKey) (replacement : StoredRecord)
    (fencingToken : Option UInt64) :
    RollbackAnchorCompareAndSwapOutcome → Call AE SE σ CompareAndSwapOutcome
  | .stored => pure (.stored replacement.revision)
  | .conflict actual => do
    let _ ← recordAtAnchor key actual
    check (checkConflictFence actual fencingToken)
    return conflict actual

/-- The anchor is moved to a candidate that was persisted. -/
def commitCandidate [Blake3] (key : StorageRecordKey) (current : RollbackAnchorState)
    (replacement : StoredRecord) (commitment : RecordCommitment) (fencingToken : Option UInt64) :
    Call AE SE σ CompareAndSwapOutcome := do
  let next ← check
    ((current.withRecordCommitment replacement.revision commitment).mapError .invalidAnchorState)
  let outcome ← advanceAnchor key current next
  finishCommit key replacement fencingToken outcome

def compareAndSwapUnderFence [Blake3] (key : StorageRecordKey) (expectedRevision : Option UInt64)
    (replacement : StoredRecord) (fencingToken : Option UInt64) :
    Call AE SE σ CompareAndSwapOutcome := do
  let current ← checkedAnchorState key
  check (checkFence current fencingToken)
  if ¬(expectedMatches current expectedRevision = true) then return conflict current
  check (validateReplacement current replacement)
  let commitment := recordCommitment key replacement
  let outcome ← persistCandidate key current replacement commitment
  match outcome with
  | .stored => commitCandidate key current replacement commitment fencingToken
  | .anchorChanged actual => do
    let _ ← recordAtAnchor key actual
    check (checkChangedFence actual fencingToken)
    return conflict actual

def load [Blake3] (key : StorageRecordKey) : Call AE SE σ StorageSnapshot := do
  let state ← loadAnchorState key
  let record ← recordAtAnchor key state
  return ⟨record, state.revisionFloor⟩

def compareAndSwap [Blake3] (key : StorageRecordKey) (expectedRevision : Option UInt64)
    (replacement : StoredRecord) : Call AE SE σ CompareAndSwapOutcome :=
  compareAndSwapUnderFence key expectedRevision replacement none

def compareAndSwapFenced [Blake3] (key : StorageRecordKey) (expectedRevision : Option UInt64)
    (replacement : StoredRecord) (fencingToken : UInt64) : Call AE SE σ CompareAndSwapOutcome :=
  compareAndSwapUnderFence key expectedRevision replacement (some fencingToken)

def currentFence (key : StorageRecordKey) : Call AE SE σ UInt64 := do
  let state ← loadAnchorState key
  return state.fencingToken

/-- The attempts of `reserve_fence` that are left. -/
def reserveFenceIn [Blake3] (key : StorageRecordKey) : ℕ → Call AE SE σ UInt64
  | 0 => check (.error .anchorContention)
  | retries + 1 => do
    let current ← checkedAnchorState key
    let fencingToken ← check
      (current.fencingToken.checkedSucc.okOr .fencingTokenExhausted)
    let outcome ← advanceAnchor key current (current.withFencingToken fencingToken)
    match outcome with
    | .stored => return fencingToken
    | .conflict _ => reserveFenceIn key retries

def reserveFence [Blake3] (key : StorageRecordKey) : Call AE SE σ UInt64 :=
  reserveFenceIn key maxAnchorCasRetries

/-- The attempts of `establish_fence` that are left. -/
def establishFenceIn [Blake3] (key : StorageRecordKey) (fencingToken : UInt64) :
    ℕ → Call AE SE σ Unit
  | 0 => check (.error .anchorContention)
  | retries + 1 => do
    let current ← checkedAnchorState key
    check (rejectIf (fencingToken < current.fencingToken)
      (.fencingTokenRejected current.fencingToken fencingToken))
    if fencingToken = current.fencingToken then return ()
    let outcome ← advanceAnchor key current (current.withFencingToken fencingToken)
    match outcome with
    | .stored => return ()
    | .conflict actual => do
      let _ ← recordAtAnchor key actual
      check (rejectIf (fencingToken < actual.fencingToken)
        (.fencingTokenRejected actual.fencingToken fencingToken))
      if fencingToken = actual.fencingToken then return ()
      establishFenceIn key fencingToken retries

def establishFence [Blake3] (key : StorageRecordKey) (fencingToken : UInt64) :
    Call AE SE σ Unit := do
  check (rejectIf (fencingToken = 0) .invalidFencingToken)
  establishFenceIn key fencingToken maxAnchorCasRetries

def reserveRecoveryFence [Blake3] (key : StorageRecordKey) :
    Call AE SE σ AnchoredSqliteRecoveryFence := do
  let fencingToken ← reserveFence key
  return ⟨key, fencingToken⟩

def discardUnanchoredCandidates [Blake3] (recovery : AnchoredSqliteRecoveryFence) :
    Call AE SE σ ℕ := do
  let current ← checkedAnchorState recovery.key
  check (rejectIf (recovery.fencingToken ≠ current.fencingToken)
    (.fencingTokenRejected current.fencingToken recovery.fencingToken))
  let answer ← perform (SqliteOp.discardUnanchored recovery.key current)
  check (answer.mapError .sqlite)

end AnchoredSqliteStore

end Octoscript
