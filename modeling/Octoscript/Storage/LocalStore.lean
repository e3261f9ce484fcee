import Octoscript.Lib.Calls
import Octoscript.Lib.Sequential
import Octoscript.Storage.AnchoredSqlite

namespace Octoscript
open Effectful
open VolatileMemoryStore (commit compareAndSwapFenced compareAndSwapWithoutFence establishFence
  fencingToken insertFence insertRecord reserveFence revisionFloor)
open AnchoredSqliteStore (advanceAnchor checkFence checkedAnchorState commitCandidate
  compareAndSwapUnderFence expectedMatches persistCandidate recordAtAnchor validateReplacement)
open Function (update_of_ne update_self)

/-- The connection and the anchor of an `AnchoredSqliteStore` that nobody else uses. -/
structure LocalSqliteStore where
  connection : Sqlite.Rows
  anchor : VolatileRollbackAnchor

namespace LocalSqliteStore
variable {SE : Type}

abbrev Error (SE : Type) := AnchoredSqliteStoreError VolatileRollbackAnchorError SE

abbrev Call (SE : Type) := AnchoredSqliteStore.Call VolatileRollbackAnchorError SE Unit

def empty : LocalSqliteStore := ⟨[], .empty⟩

/-- A transaction that fails is rolled back. -/
def environment (s : LocalSqliteStore) :
    (op : SqliteOp) → op.Answer VolatileRollbackAnchorError SE × LocalSqliteStore
  | .anchorLoad key => (s.anchor.load key, s)
  | .anchorCompareAndSwap key expected replacement =>
    let (outcome, anchor) := VolatileRollbackAnchor.compareAndSwap key expected replacement s.anchor
    (outcome, { s with anchor })
  | .selectLength key revision commitment =>
    (.ok (Sqlite.selectLength s.connection key revision commitment), s)
  | .selectRecord key revision commitment maximum =>
    (.ok (Sqlite.selectRecord s.connection key revision commitment maximum), s)
  | .persistCandidate key current replacement commitment =>
    match Sqlite.persistCandidate s.connection key current replacement commitment with
    | .ok connection => (.ok (), { s with connection })
    | .error e => (.error e, s)
  | .discardUnanchored key current =>
    let connection := Sqlite.discardUnanchored s.connection key current
    (.ok (s.connection.length - connection.length), { s with connection })

/-- A call of the store from start to end. -/
def call {α : Type} (x : Call SE α) (s : LocalSqliteStore) :
    Except (Error SE) α × LocalSqliteStore :=
  let ((result, _), s') := runIn environment x () s
  (result, s')

def answer (SE : Type) [Blake3] (s : LocalSqliteStore) :
    (op : BackendOp) → op.Answer (Error SE) × LocalSqliteStore
  | .load key => call (AnchoredSqliteStore.load key) s
  | .compareAndSwap key expected replacement =>
    call (AnchoredSqliteStore.compareAndSwap key expected replacement) s
  | .currentFence key => call (AnchoredSqliteStore.currentFence key) s
  | .reserveFence key => call (AnchoredSqliteStore.reserveFence key) s
  | .establishFence key token => call (AnchoredSqliteStore.establishFence key token) s
  | .compareAndSwapFenced key expected replacement token =>
    call (AnchoredSqliteStore.compareAndSwapFenced key expected replacement token) s

end LocalSqliteStore

/-- The error of the anchored store that corresponds to one of the in-memory store. -/
def VolatileMemoryStoreError.anchored {SE : Type} :
    VolatileMemoryStoreError → LocalSqliteStore.Error SE
  | .revisionExhausted => .revisionExhausted
  | .fencingTokenExhausted => .fencingTokenExhausted
  | .invalidFencingToken => .invalidFencingToken
  | .invalidReplacementRevision expected actual => .invalidReplacementRevision expected actual
  | .fencingRequired current => .fencingRequired current
  | .fencingTokenRejected current supplied => .fencingTokenRejected current supplied

/-- The answer of the anchored store that corresponds to one of the in-memory store. -/
def BackendOp.anchoredAnswer (SE : Type) (op : BackendOp) :
    op.Answer VolatileMemoryStoreError → op.Answer (LocalSqliteStore.Error SE) :=
  Except.mapError VolatileMemoryStoreError.anchored

/-- The call's replacement is no larger than a record may be. -/
def BackendOp.WithinLimit : BackendOp → Prop
  | .compareAndSwap _ _ replacement | .compareAndSwapFenced _ _ replacement _ =>
    replacement.bytes.length ≤ maxAuthenticatedRecordBytes
  | .load _ | .currentFence _ | .reserveFence _ | .establishFence _ _ => True

/-- Anchor and rows together hold what the in-memory store holds. Every row is anchored or older:
nothing is left behind between two calls. -/
structure Mirrors [Blake3] (m : VolatileMemoryStore) (s : LocalSqliteStore) : Prop where
  floor : ∀ key, m.revisionFloor key = (s.anchor.state key).revisionFloor
  fence : ∀ key, m.fencingToken key = (s.anchor.state key).fencingToken
  commitment : ∀ key, (s.anchor.state key).recordCommitment =
    m.records[key]?.map (recordCommitment key)
  revision : ∀ (key : StorageRecordKey) (r : StoredRecord), m.records[key]? = some r →
    r.revision = (s.anchor.state key).revisionFloor
  size : ∀ (key : StorageRecordKey) (r : StoredRecord), m.records[key]? = some r →
    r.bytes.length ≤ maxAuthenticatedRecordBytes
  stored : ∀ (key : StorageRecordKey) (r : StoredRecord), m.records[key]? = some r →
    ⟨key, r.revision, recordCommitment key r, r.bytes⟩ ∈ s.connection
  primaryKey : ∀ row ∈ s.connection, ∀ row' ∈ s.connection,
    row.isAt row'.key row'.revision row'.commitment → row = row'
  anchored : ∀ row ∈ s.connection, row.revision ≤ (s.anchor.state row.key).revisionFloor

namespace Mirrors
open LocalSqliteStore (environment)
variable {SE : Type} [Blake3] {m : VolatileMemoryStore} {s : LocalSqliteStore}
  {key : StorageRecordKey}
variable {replacement : StoredRecord} {expected : Option UInt64} {m' : VolatileMemoryStore}

theorem empty : Mirrors .empty .empty where
  floor key := by
    simp [VolatileMemoryStore.empty, revisionFloor, LocalSqliteStore.empty,
      VolatileRollbackAnchor.empty, VolatileRollbackAnchor.state, RollbackAnchorState.initial]
  fence key := by
    simp [VolatileMemoryStore.empty, VolatileMemoryStore.fencingToken, LocalSqliteStore.empty,
      VolatileRollbackAnchor.empty, VolatileRollbackAnchor.state, RollbackAnchorState.initial]
  commitment key := by
    simp [VolatileMemoryStore.empty, LocalSqliteStore.empty, VolatileRollbackAnchor.empty,
      VolatileRollbackAnchor.state, RollbackAnchorState.initial]
  revision := by simp [VolatileMemoryStore.empty]
  size := by simp [VolatileMemoryStore.empty]
  stored := by simp [VolatileMemoryStore.empty]
  primaryKey := by simp [LocalSqliteStore.empty]
  anchored := by simp [LocalSqliteStore.empty]

/-- A record is there exactly if the floor is above zero, and then it is at the floor. -/
theorem actualRevision (h : Mirrors m s) (key : StorageRecordKey) :
    m.actualRevision key = if (s.anchor.state key).revisionFloor ≠ 0 then
      some (s.anchor.state key).revisionFloor else none := by
  have hvalid := (s.anchor.state key).valid
  rw [h.commitment key] at hvalid
  cases hr : m.records[key]? with
  | none =>
    rw [hr] at hvalid
    have hzero : (s.anchor.state key).revisionFloor = 0 := hvalid.mpr rfl
    simp [VolatileMemoryStore.actualRevision, hr, hzero]
  | some r =>
    rw [hr] at hvalid
    have hnz : (s.anchor.state key).revisionFloor ≠ 0 := by simp [hvalid]
    simp [VolatileMemoryStore.actualRevision, hr, hnz, h.revision key r hr]

/-- The primary key finds the row of the current record. -/
theorem find? (h : Mirrors m s) {r : StoredRecord} (hr : m.records[key]? = some r)
    {p : SqliteRow → Bool} (hp : ∀ row, p row = true → row.isAt key r.revision (recordCommitment key r))
    (hrow : p ⟨key, r.revision, recordCommitment key r, r.bytes⟩ = true) :
    s.connection.find? p = some ⟨key, r.revision, recordCommitment key r, r.bytes⟩ := by
  have hstored := h.stored key r hr
  cases hfind : s.connection.find? p with
  | none => exact absurd hrow (by simpa using List.find?_eq_none.mp hfind _ hstored)
  | some row =>
    have hmem := List.mem_of_find?_eq_some hfind
    rw [h.primaryKey row hmem _ hstored (hp row (List.find?_some hfind))]

omit [Blake3] in
theorem runIn_loadAnchorState :
    runIn environment
      (AnchoredSqliteStore.loadAnchorState key : LocalSqliteStore.Call SE _) () s =
      ((.ok (s.anchor.state key), ()), s) := rfl

theorem runIn_recordAtAnchor (h : Mirrors m s) :
    runIn environment
      (recordAtAnchor key (s.anchor.state key) : LocalSqliteStore.Call SE _) () s =
      ((.ok m.records[key]?, ()), s) := by
  have hcommitment := h.commitment key
  unfold recordAtAnchor
  cases hr : m.records[key]? with
  | none =>
    rw [hr] at hcommitment
    simp only [Option.map_none] at hcommitment
    rw [hcommitment]
    rfl
  | some r =>
    rw [hr] at hcommitment
    simp only [Option.map_some] at hcommitment
    have hsize := h.size key r hr
    have hrev := h.revision key r hr
    have hlen : Sqlite.selectLength s.connection key (s.anchor.state key).revisionFloor
        (recordCommitment key r) = some r.bytes.length := by
      rw [Sqlite.selectLength, ← hrev, h.find? hr (by simp) (by simp [SqliteRow.isAt])]
      rfl
    have hbytes : Sqlite.selectRecord s.connection key (s.anchor.state key).revisionFloor
        (recordCommitment key r) maxAuthenticatedRecordBytes = some r.bytes := by
      rw [Sqlite.selectRecord, ← hrev,
        h.find? hr (by simp_all) (by simp [SqliteRow.isAt, hsize])]
      rfl
    have hsame : (⟨(s.anchor.state key).revisionFloor, r.bytes⟩ : StoredRecord) = r := by
      rw [← hrev]
    rw [hcommitment]
    simp only [runIn_perform_bind, environment, hlen, hbytes, Except.mapError,
      Option.okOr, runIn_check_ok, runIn_not_rejected (not_lt.mpr hsize), hsame,
      runIn_not_rejected (not_not.mpr rfl), runIn_pure]

theorem runIn_checkedAnchorState (h : Mirrors m s) :
    runIn environment
      (checkedAnchorState key : LocalSqliteStore.Call SE _) () s =
      ((.ok (s.anchor.state key), ()), s) := by
  rw [checkedAnchorState, runIn_bind_ok runIn_loadAnchorState,
    runIn_bind_ok h.runIn_recordAtAnchor, runIn_pure]

omit [Blake3] in
theorem mem_of_mem_pruneHistory {rows : Sqlite.Rows} {current : RollbackAnchorState}
    {row : SqliteRow} (h : row ∈ Sqlite.pruneHistory rows key current) : row ∈ rows := by
  unfold Sqlite.pruneHistory at h
  split_ifs at h with hzero
  · exact h
  · cases hc : current.recordCommitment with
    | none => rwa [hc] at h
    | some commitment =>
      rw [hc] at h
      exact List.mem_of_mem_filter h

/-- No row stands above the floor, so a candidate above it is new and the only one. -/
theorem persistCandidate_eq (h : Mirrors m s)
    (hlt : (s.anchor.state key).revisionFloor < replacement.revision)
    (commitment : RecordCommitment) :
    (Sqlite.persistCandidate s.connection key (s.anchor.state key) replacement commitment :
      Except (LocalSqliteStore.Error SE) Sqlite.Rows) =
      .ok (⟨key, replacement.revision, commitment, replacement.bytes⟩ ::
        Sqlite.pruneHistory s.connection key (s.anchor.state key)) := by
  have hbelow : ∀ row ∈ Sqlite.pruneHistory s.connection key (s.anchor.state key),
      row.key = key → row.revision ≤ (s.anchor.state key).revisionFloor := by
    intro row hrow hkey
    exact hkey ▸ h.anchored row (mem_of_mem_pruneHistory hrow)
  have hnew : (Sqlite.pruneHistory s.connection key (s.anchor.state key)).find?
      (fun row => decide (row.isAt key replacement.revision commitment)) = none := by
    rw [List.find?_eq_none]
    intro row hrow hat
    obtain ⟨hkey, hrev, _⟩ := of_decide_eq_true hat
    exact absurd (hrev ▸ hbelow row hrow hkey) (UInt64.not_le.mpr hlt)
  have hpending : Sqlite.pending (Sqlite.pruneHistory s.connection key (s.anchor.state key)) key
      (s.anchor.state key) = 0 := by
    rw [Sqlite.pending, List.countP_eq_zero]
    intro row hrow hover
    obtain ⟨hkey, hover⟩ := of_decide_eq_true hover
    rw [Wire.beBytes_lt_iff] at hover
    exact absurd (hbelow row hrow hkey) (UInt64.not_le.mpr hover)
  simp [Sqlite.persistCandidate, hnew, hpending, maxPendingSqliteCandidates]

/-- What the store holds once the anchor has moved to a candidate. -/
def written (s : LocalSqliteStore) (key : StorageRecordKey) (replacement : StoredRecord)
    (next : RollbackAnchorState) : LocalSqliteStore :=
  ⟨⟨key, replacement.revision, recordCommitment key replacement, replacement.bytes⟩ ::
    Sqlite.pruneHistory s.connection key (s.anchor.state key), ⟨s.anchor.states.insert key next⟩⟩

theorem write (h : Mirrors m s) {next : RollbackAnchorState}
    (hlt : (s.anchor.state key).revisionFloor < replacement.revision)
    (hsize : replacement.bytes.length ≤ maxAuthenticatedRecordBytes)
    (hfloor : next.revisionFloor = replacement.revision)
    (hcommitment : next.recordCommitment = some (recordCommitment key replacement))
    (hfence : next.fencingToken = (s.anchor.state key).fencingToken) :
    Mirrors (m.insertRecord key replacement replacement.revision)
      (written s key replacement next) := by
  have hstate : (written s key replacement next).anchor.state =
      Function.update s.anchor.state key next := VolatileRollbackAnchor.state_insert _ _ _
  have hrecs := VolatileMemoryStore.records_insertRecord m key replacement replacement.revision
  have hrec : ∀ k r, (m.insertRecord key replacement replacement.revision).records[k]? = some r →
      k = key ∧ r = replacement ∨ k ≠ key ∧ m.records[k]? = some r := by
    intro k r hr
    rw [hrecs] at hr
    by_cases hk : k = key
    · rw [hk, update_self] at hr
      exact .inl ⟨hk, (Option.some.inj hr).symm⟩
    · rw [update_of_ne hk] at hr
      exact .inr ⟨hk, hr⟩
  constructor
  · intro k
    rw [hstate]
    by_cases hk : key = k
    · subst hk
      simp [revisionFloor, insertRecord, hfloor]
    · rw [update_of_ne (Ne.symm hk), ← h.floor k]
      simp [revisionFloor, insertRecord,
        Std.ExtTreeMap.getElem?_insert, hk]
  · intro k
    rw [hstate]
    by_cases hk : key = k
    · subst hk
      rw [update_self, hfence]
      exact h.fence key
    · rw [update_of_ne (Ne.symm hk)]
      exact h.fence k
  · intro k
    rw [hstate, hrecs]
    by_cases hk : key = k
    · subst hk
      simp [hcommitment]
    · rw [update_of_ne (Ne.symm hk), update_of_ne (Ne.symm hk)]
      exact h.commitment k
  · intro k r hr
    rw [hstate]
    rcases hrec k r hr with ⟨rfl, rfl⟩ | ⟨hk, hr⟩
    · rw [update_self, hfloor]
    · rw [update_of_ne hk]
      exact h.revision k r hr
  · intro k r hr
    rcases hrec k r hr with ⟨rfl, rfl⟩ | ⟨_, hr⟩
    · exact hsize
    · exact h.size k r hr
  · intro k r hr
    rcases hrec k r hr with ⟨rfl, rfl⟩ | ⟨hk, hr⟩
    · exact List.mem_cons_self
    · apply List.mem_cons_of_mem
      exact Sqlite.mem_pruneHistory (h.stored k r hr) fun hkey => absurd hkey hk
  · -- The new row is above all others of its key.
    have hfresh : ∀ row ∈ Sqlite.pruneHistory s.connection key (s.anchor.state key),
        row.key = key → row.revision ≠ replacement.revision := by
      intro row hrow hkey heq
      have hbelow := h.anchored row (mem_of_mem_pruneHistory hrow)
      rw [hkey, heq] at hbelow
      exact absurd hbelow (UInt64.not_le.mpr hlt)
    intro row hrow row' hrow' hat
    rcases List.mem_cons.mp hrow with rfl | hrow <;> rcases List.mem_cons.mp hrow' with rfl | hrow'
    · rfl
    · exact absurd hat.2.1.symm (hfresh row' hrow' hat.1.symm)
    · exact absurd hat.2.1 (hfresh row hrow hat.1)
    · exact h.primaryKey row (mem_of_mem_pruneHistory hrow) row' (mem_of_mem_pruneHistory hrow') hat
  · intro row hrow
    rw [hstate]
    rcases List.mem_cons.mp hrow with rfl | hrow
    · rw [update_self, hfloor]
      exact UInt64.le_refl _
    · have hbelow := h.anchored row (mem_of_mem_pruneHistory hrow)
      by_cases hk : row.key = key
      · rw [hk, update_self, hfloor]
        exact UInt64.le_trans (hk ▸ hbelow) (UInt64.le_of_lt hlt)
      · rw [update_of_ne hk]
        exact hbelow

/-- The anchor moved to a new fence and the rows were left alone. -/
def fenced (s : LocalSqliteStore) (key : StorageRecordKey) (token : UInt64) : LocalSqliteStore :=
  ⟨s.connection, ⟨s.anchor.states.insert key ((s.anchor.state key).withFencingToken token)⟩⟩

theorem moveFence (h : Mirrors m s) (key : StorageRecordKey) (token : UInt64) :
    Mirrors (m.insertFence key token) (fenced s key token) := by
  have hstate : (fenced s key token).anchor.state =
      Function.update s.anchor.state key ((s.anchor.state key).withFencingToken token) :=
    VolatileRollbackAnchor.state_insert _ _ _
  have hfloor : ∀ k, ((fenced s key token).anchor.state k).revisionFloor =
      (s.anchor.state k).revisionFloor := by
    intro k
    rw [hstate]
    by_cases hk : k = key
    · rw [hk, update_self]
      rfl
    · rw [update_of_ne hk]
  constructor
  · intro k
    rw [hfloor]
    exact h.floor k
  · intro k
    rw [hstate]
    by_cases hk : key = k
    · subst hk
      simp [fencingToken, insertFence,
        RollbackAnchorState.withFencingToken]
    · rw [update_of_ne (Ne.symm hk), ← h.fence k]
      simp [fencingToken, insertFence,
        Std.ExtTreeMap.getElem?_insert, hk]
  · intro k
    rw [hstate]
    by_cases hk : key = k
    · subst hk
      rw [update_self]
      exact h.commitment key
    · rw [update_of_ne (Ne.symm hk)]
      exact h.commitment k
  · intro k r hr
    rw [hfloor]
    exact h.revision k r hr
  · exact h.size
  · exact h.stored
  · exact h.primaryKey
  · intro row hrow
    rw [hfloor]
    exact h.anchored row hrow

/-- The calls returned the same, errors up to their name, and the stores still correspond. -/
def Agrees {α : Type} (r : Except VolatileMemoryStoreError α × VolatileMemoryStore)
    (r' : (Except (LocalSqliteStore.Error SE) α × Unit) × LocalSqliteStore) : Prop :=
  r'.1.1 = r.1.mapError VolatileMemoryStoreError.anchored ∧ Mirrors r.2 r'.2

omit [Blake3] in
theorem runIn_advanceAnchor {next : RollbackAnchorState} (rows : Sqlite.Rows)
    (hle : s.anchor.state key ≤ next) :
    runIn environment
      (advanceAnchor key (s.anchor.state key) next : LocalSqliteStore.Call SE _) () ⟨rows, s.anchor⟩ =
      ((.ok .stored, ()), ⟨rows, ⟨s.anchor.states.insert key next⟩⟩) := by
  have hstored : VolatileRollbackAnchor.compareAndSwap key (s.anchor.state key) next s.anchor =
      (.ok .stored, ⟨s.anchor.states.insert key next⟩) := by
    rw [VolatileRollbackAnchor.compareAndSwap_eq, if_neg (not_not.mpr rfl)]
    exact VolatileRollbackAnchor.returns_advance.mpr ⟨hle, rfl, rfl⟩
  rw [advanceAnchor, runIn_perform_bind]
  simp only [environment, hstored]
  rfl

theorem runIn_persistCandidate (h : Mirrors m s)
    (hlt : (s.anchor.state key).revisionFloor < replacement.revision)
    (commitment : RecordCommitment) :
    runIn environment
      (persistCandidate key (s.anchor.state key) replacement commitment : LocalSqliteStore.Call SE _) () s =
      ((.ok .stored, ()), ⟨⟨key, replacement.revision, commitment, replacement.bytes⟩ ::
        Sqlite.pruneHistory s.connection key (s.anchor.state key), s.anchor⟩) := by
  rw [persistCandidate, runIn_bind_ok runIn_loadAnchorState,
    if_neg (not_not.mpr rfl), runIn_perform_bind]
  simp only [environment, h.persistCandidate_eq hlt]
  rfl

/-- The anchor state after a candidate was committed. -/
def committed (current : RollbackAnchorState) (key : StorageRecordKey) (replacement : StoredRecord)
    (hlt : current.revisionFloor < replacement.revision) : RollbackAnchorState where
  revisionFloor := replacement.revision
  recordCommitment := some (recordCommitment key replacement)
  fencingToken := current.fencingToken
  valid := by
    have hpos : 0 < replacement.revision := UInt64.lt_of_le_of_lt UInt64.zero_le hlt
    simp [UInt64.pos_iff_ne_zero.mp hpos]

theorem runIn_commitCandidate {token : Option UInt64}
    (rows : Sqlite.Rows) (hlt : (s.anchor.state key).revisionFloor < replacement.revision) :
    runIn environment
      (commitCandidate key (s.anchor.state key) replacement
        (recordCommitment key replacement) token :
        LocalSqliteStore.Call SE _) () ⟨rows, s.anchor⟩ =
      ((.ok (.stored replacement.revision), ()),
        ⟨rows, ⟨s.anchor.states.insert key (committed _ key replacement hlt)⟩⟩) := by
  have hnext : (s.anchor.state key).withRecordCommitment replacement.revision
      (recordCommitment key replacement) = .ok (committed _ key replacement hlt) :=
    RollbackAnchorState.new_ok_iff.mpr ⟨rfl, rfl, rfl⟩
  have hle : s.anchor.state key ≤ committed _ key replacement hlt :=
    ⟨UInt64.le_of_lt hlt, UInt64.le_refl _, fun heq => absurd heq (UInt64.ne_of_lt hlt)⟩
  rw [commitCandidate, hnext, Except.mapError, runIn_check_ok,
    runIn_bind_ok (runIn_advanceAnchor rows hle), AnchoredSqliteStore.finishCommit, runIn_pure]

omit [Blake3] in
theorem returns_commit {o : CompareAndSwapOutcome}
    (h : (commit key expected replacement).Returns m o m') :
    o = .stored replacement.revision ∧
      m' = m.insertRecord key replacement replacement.revision := by
  simp only [commit, Mut.returns_bind, Mut.returns_self, Mut.returns_lift,
    Mut.returns_rejectIf, Mut.returns_assign, Mut.returns_pure, not_not] at h
  obtain ⟨_, _, ⟨rfl, rfl⟩, _, _, ⟨_, rfl⟩, _, _, ⟨rfl, rfl⟩, _, _, rfl, rfl, rfl⟩ := h
  exact ⟨rfl, rfl⟩

variable (SE) in
omit [Blake3] in
/-- The replacements that the in-memory store accepts pass the checks of the anchored one. -/
theorem validateReplacement_ok {o : CompareAndSwapOutcome}
    (hexp : expected.getD 0 = (s.anchor.state key).revisionFloor)
    (hsize : replacement.bytes.length ≤ maxAuthenticatedRecordBytes)
    (h : (commit key expected replacement).Returns m o m') :
    (validateReplacement (s.anchor.state key) replacement :
      Except (LocalSqliteStore.Error SE) Unit) = .ok () ∧
      (s.anchor.state key).revisionFloor < replacement.revision := by
  simp only [commit, Mut.returns_bind, Mut.returns_self, Mut.returns_lift,
    Mut.returns_rejectIf, Option.okOr_ok_iff, not_not] at h
  obtain ⟨_, _, ⟨rfl, rfl⟩, _, _, ⟨hnext, rfl⟩, _, _, ⟨rfl, rfl⟩, _⟩ := h
  rw [hexp] at hnext
  constructor
  · simp only [validateReplacement, Except.bind_ok_iff, Except.rejectIf_ok_iff,
      Option.okOr_ok_iff, not_not]
    exact ⟨(), not_lt.mpr hsize, _, hnext, rfl⟩
  · have hsucc := UInt64.checkedSucc_eq_some_iff.mp hnext
    rw [UInt64.lt_iff_toNat_lt]
    omega

variable (SE) in
omit [Blake3] in
/-- What the in-memory store refuses, the anchored one refuses for the same reason. -/
theorem validateReplacement_error {e : VolatileMemoryStoreError}
    (hexp : expected.getD 0 = (s.anchor.state key).revisionFloor)
    (hsize : replacement.bytes.length ≤ maxAuthenticatedRecordBytes)
    (h : (commit key expected replacement).Fails m e m') :
    (validateReplacement (s.anchor.state key) replacement :
      Except (LocalSqliteStore.Error SE) Unit) = .error e.anchored ∧ m' = m := by
  simp only [commit, Mut.fails_bind, Mut.fails_self, Mut.returns_self,
    Mut.fails_lift, Mut.returns_lift, Mut.fails_rejectIf, Mut.returns_rejectIf, Mut.fails_assign,
    Mut.fails_pure, hexp, and_false, exists_false, or_false, false_or] at h
  simp only [validateReplacement, Except.bind_error_iff,
    Except.rejectIf_ok_iff, Except.rejectIf_error_iff, not_lt]
  obtain ⟨_, _, ⟨rfl, rfl⟩, h⟩ := h
  rcases h with ⟨hnext, rfl⟩ | ⟨next, _, ⟨hnext, rfl⟩, ⟨hrev, rfl⟩, rfl⟩
  · cases hsucc : (s.anchor.state key).revisionFloor.checkedSucc with
    | none =>
      rw [hsucc] at hnext
      obtain rfl := Except.error.inj hnext
      exact ⟨.inr ⟨(), hsize, .inl rfl⟩, rfl⟩
    | some next =>
      rw [hsucc] at hnext
      cases hnext
  · rw [Option.okOr_ok_iff] at hnext
    rw [hnext]
    exact ⟨.inr ⟨(), hsize, .inr ⟨next, rfl, hrev, rfl⟩⟩, rfl⟩

theorem expectedMatches_iff (h : Mirrors m s) :
    expectedMatches (s.anchor.state key) expected = true ↔
      m.actualRevision key = expected := by
  rw [h.actualRevision key]
  cases expected with
  | none =>
    simp [expectedMatches]
  | some expected =>
    simp [expectedMatches]

theorem agrees_underFence (h : Mirrors m s) {expected token : Option UInt64}
    (hfence : (checkFence (s.anchor.state key) token :
      Except (LocalSqliteStore.Error SE) Unit) = .ok ())
    (hsize : replacement.bytes.length ≤ maxAuthenticatedRecordBytes) :
    Agrees (compareAndSwapWithoutFence key expected replacement m)
      (runIn environment
        (compareAndSwapUnderFence key expected replacement token : LocalSqliteStore.Call SE _) () s) := by
  have hfloor : (m.actualRevision key).getD 0 = m.revisionFloor key := by
    rw [h.actualRevision key, h.floor key]
    split_ifs with hzero
    · rfl
    · exact (not_not.mp hzero).symm
  rw [compareAndSwapUnderFence, runIn_bind_ok h.runIn_checkedAnchorState,
    hfence, runIn_check_ok, compareAndSwapWithoutFence]
  by_cases hcur : m.actualRevision key = expected
  · have hexp : expected.getD 0 = (s.anchor.state key).revisionFloor := by
      rw [← hcur, hfloor, h.floor key]
    rw [if_neg (by simp [hcur, ← hfloor]), if_neg (by simp [h.expectedMatches_iff, hcur])]
    rcases Mut.returns_or_fails (commit key expected replacement) m with
      ⟨o, hcommit⟩ | ⟨e, hcommit⟩
    · obtain ⟨hvalid, hlt⟩ := validateReplacement_ok SE hexp hsize hcommit
      obtain ⟨rfl, hstored⟩ := returns_commit hcommit
      rw [hvalid, runIn_check_ok, runIn_bind_ok (h.runIn_persistCandidate hlt _)]
      simp only
      rw [runIn_commitCandidate _ hlt, hcommit, hstored]
      exact ⟨rfl, h.write hlt hsize rfl rfl rfl⟩
    · obtain ⟨hrefused, hkept⟩ := validateReplacement_error SE hexp hsize hcommit
      rw [hrefused, runIn_check_error, hcommit, hkept]
      exact ⟨rfl, h⟩
  · rw [if_pos (.inl hcur), if_pos (by simp [h.expectedMatches_iff, hcur]), runIn_pure]
    refine ⟨?_, h⟩
    simp only [AnchoredSqliteStore.conflict, h.actualRevision key, h.floor key]
    rfl

/-- A write that the fence does not allow fails before anything is read or written. -/
theorem runIn_underFence_error (h : Mirrors m s) {expected token : Option UInt64}
    {e : LocalSqliteStore.Error SE}
    (hfence : checkFence (s.anchor.state key) token = .error e) :
    runIn environment
      (compareAndSwapUnderFence key expected replacement token : LocalSqliteStore.Call SE _) () s =
      ((.error e, ()), s) := by
  rw [compareAndSwapUnderFence, runIn_bind_ok h.runIn_checkedAnchorState,
    hfence, runIn_check_error]

theorem agrees_compareAndSwap (h : Mirrors m s)
    (hsize : replacement.bytes.length ≤ maxAuthenticatedRecordBytes) :
    Agrees (VolatileMemoryStore.compareAndSwap key expected replacement m)
      (runIn environment
        (AnchoredSqliteStore.compareAndSwap key expected replacement : LocalSqliteStore.Call SE _) () s) := by
  rw [AnchoredSqliteStore.compareAndSwap]
  by_cases hfence : m.fencingToken key = 0
  · have hunfenced : VolatileMemoryStore.compareAndSwap key expected replacement m =
        compareAndSwapWithoutFence key expected replacement m := by
      simp [VolatileMemoryStore.compareAndSwap, hfence, rejectIf, bind, Mut.self, pure]
    rw [hunfenced]
    apply h.agrees_underFence _ hsize
    rw [checkFence, ← h.fence key, Except.rejectIf_ok_iff]
    exact not_not.mpr hfence
  · have hrefused : (VolatileMemoryStore.compareAndSwap key expected replacement).Fails m
        (.fencingRequired (m.fencingToken key)) m := by
      simp [VolatileMemoryStore.compareAndSwap, hfence]
    have hcheck : (checkFence (s.anchor.state key) none :
        Except (LocalSqliteStore.Error SE) Unit) =
          .error (.fencingRequired (m.fencingToken key)) := by
      rw [checkFence, ← h.fence key, Except.rejectIf_error_iff]
      exact ⟨hfence, rfl⟩
    rw [h.runIn_underFence_error hcheck, hrefused]
    exact ⟨rfl, h⟩

theorem agrees_compareAndSwapFenced (h : Mirrors m s) {token : UInt64}
    (hsize : replacement.bytes.length ≤ maxAuthenticatedRecordBytes) :
    Agrees (compareAndSwapFenced key expected replacement token m)
      (runIn environment
        (AnchoredSqliteStore.compareAndSwapFenced key expected replacement token : LocalSqliteStore.Call SE _) () s) := by
  rw [AnchoredSqliteStore.compareAndSwapFenced]
  by_cases hzero : token = 0
  · have hrefused : (compareAndSwapFenced key expected replacement token).Fails
        m .invalidFencingToken m := by
      simp [compareAndSwapFenced, hzero]
    have hcheck : (checkFence (s.anchor.state key) (some token) :
        Except (LocalSqliteStore.Error SE) Unit) = .error .invalidFencingToken := by
      rw [checkFence, Except.bind_error_iff, Except.rejectIf_error_iff]
      exact .inl ⟨hzero, rfl⟩
    rw [h.runIn_underFence_error hcheck, hrefused]
    exact ⟨rfl, h⟩
  by_cases hfence : token = m.fencingToken key
  · have hcur : compareAndSwapFenced key expected replacement token m =
        compareAndSwapWithoutFence key expected replacement m := by
      simp [compareAndSwapFenced, hzero, ← hfence, rejectIf, bind, Mut.self,
        pure]
    rw [hcur]
    apply h.agrees_underFence _ hsize
    rw [checkFence, ← h.fence key, Except.bind_ok_iff]
    exact ⟨(), Except.rejectIf_ok_iff.mpr hzero, Except.rejectIf_ok_iff.mpr (not_not.mpr hfence)⟩
  · have hrefused : (compareAndSwapFenced key expected replacement token).Fails
        m (.fencingTokenRejected (m.fencingToken key) token) m := by
      simp [compareAndSwapFenced, hzero, hfence]
    have hcheck : (checkFence (s.anchor.state key) (some token) :
        Except (LocalSqliteStore.Error SE) Unit) =
          .error (.fencingTokenRejected (m.fencingToken key) token) := by
      rw [checkFence, ← h.fence key, Except.bind_error_iff]
      exact .inr ⟨(), Except.rejectIf_ok_iff.mpr hzero,
        Except.rejectIf_error_iff.mpr ⟨hfence, rfl⟩⟩
    rw [h.runIn_underFence_error hcheck, hrefused]
    exact ⟨rfl, h⟩

omit [Blake3] in
theorem runIn_advanceFence {token : UInt64} (hle : (s.anchor.state key).fencingToken ≤ token) :
    runIn environment
      (advanceAnchor key (s.anchor.state key)
        ((s.anchor.state key).withFencingToken token) :
        LocalSqliteStore.Call SE _) () s =
      ((.ok .stored, ()), fenced s key token) :=
  runIn_advanceAnchor s.connection ⟨UInt64.le_refl _, hle, fun _ => rfl⟩

theorem agrees_reserveFence (h : Mirrors m s) :
    Agrees (reserveFence key m)
      (runIn environment
        (AnchoredSqliteStore.reserveFence key : LocalSqliteStore.Call SE _) () s) := by
  rw [AnchoredSqliteStore.reserveFence, maxAnchorCasRetries, AnchoredSqliteStore.reserveFenceIn,
    runIn_bind_ok h.runIn_checkedAnchorState]
  cases hnext : (m.fencingToken key).checkedSucc with
  | none =>
    have hrefused : (reserveFence key).Fails m .fencingTokenExhausted m := by
      simp [reserveFence, hnext, Option.okOr]
    rw [← h.fence key, hnext, Option.okOr, runIn_check_error, hrefused]
    exact ⟨rfl, h⟩
  | some token =>
    have hreserved : (reserveFence key).Returns m token
        (m.insertFence key token) := by
      simp [reserveFence, hnext, Option.okOr]
    have hle : (s.anchor.state key).fencingToken ≤ token := by
      have hsucc := UInt64.checkedSucc_eq_some_iff.mp hnext
      rw [← h.fence key, UInt64.le_iff_toNat_le]
      omega
    rw [← h.fence key, hnext, Option.okOr, runIn_check_ok, runIn_bind_ok (runIn_advanceFence hle),
      hreserved]
    exact ⟨rfl, h.moveFence key token⟩

theorem agrees_establishFence (h : Mirrors m s) {token : UInt64} :
    Agrees (establishFence key token m)
      (runIn environment
        (AnchoredSqliteStore.establishFence key token : LocalSqliteStore.Call SE _) () s) := by
  rw [AnchoredSqliteStore.establishFence]
  by_cases hzero : token = 0
  · have hrefused : (establishFence key token).Fails m
        .invalidFencingToken m := by
      simp [establishFence, hzero]
    rw [runIn_rejected hzero, hrefused]
    exact ⟨rfl, h⟩
  rw [runIn_not_rejected hzero, maxAnchorCasRetries, AnchoredSqliteStore.establishFenceIn,
    runIn_bind_ok h.runIn_checkedAnchorState, ← h.fence key]
  by_cases hstale : token < m.fencingToken key
  · have hrefused : (establishFence key token).Fails m
        (.fencingTokenRejected (m.fencingToken key) token) m := by
      simp [establishFence, hzero, hstale]
    rw [runIn_rejected hstale, hrefused]
    exact ⟨rfl, h⟩
  rw [runIn_not_rejected hstale]
  by_cases hsame : token = m.fencingToken key
  · have hkept : (establishFence key token).Returns m () m := by
      simp [establishFence, ← hsame, hzero]
    rw [if_pos hsame, runIn_pure, hkept]
    exact ⟨rfl, h⟩
  · have hle : m.fencingToken key ≤ token := UInt64.not_lt.mp hstale
    have hlt : m.fencingToken key < token := UInt64.lt_of_le_of_ne hle (Ne.symm hsame)
    have hmoved : (establishFence key token).Returns m ()
        (m.insertFence key token) := by
      simp [establishFence, hzero, hle, hlt]
    rw [if_neg hsame, runIn_bind_ok (runIn_advanceFence (h.fence key ▸ hle)), hmoved]
    exact ⟨rfl, h.moveFence key token⟩

/-- Each call is answered alike and leaves corresponding stores. -/
theorem answer (h : Mirrors m s) {op : BackendOp} (hop : op.WithinLimit) :
    (LocalSqliteStore.answer SE s op).1 = op.anchoredAnswer SE (m.answer op).1 ∧
      Mirrors (m.answer op).2 (LocalSqliteStore.answer SE s op).2 := by
  cases op with
  | load key =>
    simp only [LocalSqliteStore.answer, LocalSqliteStore.call, AnchoredSqliteStore.load,
      runIn_bind_ok runIn_loadAnchorState, runIn_bind_ok h.runIn_recordAtAnchor, runIn_pure,
      VolatileMemoryStore.answer, VolatileMemoryStore.load, h.floor key]
    exact ⟨rfl, h⟩
  | compareAndSwap key expected replacement => exact h.agrees_compareAndSwap hop
  | currentFence key =>
    simp only [LocalSqliteStore.answer, LocalSqliteStore.call, AnchoredSqliteStore.currentFence,
      runIn_bind_ok runIn_loadAnchorState, runIn_pure, VolatileMemoryStore.answer, h.fence key]
    exact ⟨rfl, h⟩
  | reserveFence key => exact h.agrees_reserveFence
  | establishFence key token => exact h.agrees_establishFence
  | compareAndSwapFenced key expected replacement token =>
    exact h.agrees_compareAndSwapFenced hop

end Mirrors

/-- For every sequence of calls, the in-memory store and one process with an anchored store return
the same outcomes and records, and corresponding errors. -/
theorem stores_answer_alike [Blake3] {SE : Type} {calls : List BackendOp}
    (h : ∀ op ∈ calls, op.WithinLimit) :
    (Calls.run (LocalSqliteStore.answer SE) calls .empty).1 =
      (Calls.run VolatileMemoryStore.answer calls .empty).1.map
        fun a => ⟨a.1, a.1.anchoredAnswer SE a.2⟩ := by
  have hstep : ∀ (op : BackendOp) m s, op.WithinLimit → Mirrors m s →
      (LocalSqliteStore.answer SE s op).1 = op.anchoredAnswer SE (m.answer op).1 ∧
        Mirrors (m.answer op).2 (LocalSqliteStore.answer SE s op).2 :=
    fun op m s hop hstores => hstores.answer hop
  exact (Calls.run_related (BackendOp.anchoredAnswer SE) hstep h Mirrors.empty).1

/-- A record is written and read back, then fenced, and an unfenced write is refused. -/
theorem stores_answer_alike_fenced : ∃ (_ : Blake3) (key : StorageRecordKey),
    let calls : List BackendOp := [.compareAndSwap key none ⟨1, [7]⟩, .load key, .reserveFence key,
      .compareAndSwap key (some 1) ⟨2, [8]⟩]
    (Calls.run (LocalSqliteStore.answer Empty) calls .empty).1 =
      (Calls.run VolatileMemoryStore.answer calls .empty).1.map
        fun a => ⟨a.1, a.1.anchoredAnswer Empty a.2⟩ := by
  let key : StorageRecordKey := ⟨"workflow-ledger", "release-42", by decide, by decide⟩
  let digest : Digest := ⟨List.replicate 32 0, rfl⟩
  let _ : Blake3 := ⟨fun _ => digest, fun _ _ => digest⟩
  refine ⟨_, key, stores_answer_alike ?_⟩
  simp [BackendOp.WithinLimit, maxAuthenticatedRecordBytes]

end Octoscript
