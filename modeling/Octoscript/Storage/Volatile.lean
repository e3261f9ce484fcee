import Octoscript.Storage.Authenticated

namespace Octoscript

/-- A backend that holds at most one record for each key, whose floor is the
record's revision, and whose compare-and-swap is atomic. -/
structure CorrectBackend (B E : Type) where
  answer : B → (op : BackendOp) → op.Answer E × B
  Valid : B → Prop
  record : B → StorageRecordKey → Option StoredRecord
  load_eq : ∀ b key, Valid b → answer b (.load key) =
    (.ok ⟨record b key, ((record b key).map (·.revision)).getD 0⟩, b)
  conflict_eq : ∀ b key expected replacement, Valid b →
    (record b key).map (·.revision) ≠ expected →
    answer b (.compareAndSwap key expected replacement) =
      (.ok (.conflict ((record b key).map (·.revision))
        (((record b key).map (·.revision)).getD 0)), b)
  stored_eq : ∀ b key expected replacement, Valid b →
    (record b key).map (·.revision) = expected →
    replacement.revision.toNat = (expected.getD 0).toNat + 1 →
    ∃ b', answer b (.compareAndSwap key expected replacement) =
        (.ok (.stored replacement.revision), b') ∧ Valid b' ∧
      record b' = Function.update (record b) key (some replacement)

namespace StorageRecordKey

instance : Ord StorageRecordKey :=
  ⟨compareLex (compareOn (·.space)) (compareOn (·.name))⟩

instance : Std.TransOrd StorageRecordKey :=
  inferInstanceAs (Std.TransCmp (compareLex (compareOn StorageRecordKey.space)
    (compareOn StorageRecordKey.name)))

instance : Std.LawfulEqOrd StorageRecordKey where
  eq_of_compare := fun {a b} h => by
    obtain ⟨hs, hn⟩ := compareLex_eq_eq.mp h
    exact StorageRecordKey.ext (compare_eq_iff_eq.mp hs) (compare_eq_iff_eq.mp hn)

end StorageRecordKey

inductive VolatileMemoryStoreError
  | revisionExhausted
  | fencingTokenExhausted
  | invalidFencingToken
  | invalidReplacementRevision (expected actual : UInt64)
  | fencingRequired (current : UInt64)
  | fencingTokenRejected (current supplied : UInt64)
  deriving DecidableEq

structure VolatileMemoryStore where
  records : Std.ExtTreeMap StorageRecordKey StoredRecord
  (revisionFloors fencingTokens : Std.ExtTreeMap StorageRecordKey UInt64)

namespace VolatileMemoryStore

/-- A method of the store. -/
abbrev Call (α : Type) := Mut VolatileMemoryStore VolatileMemoryStoreError α

/-- `VolatileMemoryStore::default`. -/
def empty : VolatileMemoryStore := ⟨∅, ∅, ∅⟩

def actualRevision (self : VolatileMemoryStore) (key : StorageRecordKey) : Option UInt64 :=
  self.records[key]?.map (·.revision)

def revisionFloor (self : VolatileMemoryStore) (key : StorageRecordKey) : UInt64 :=
  self.revisionFloors[key]?.getD 0

def fencingToken (self : VolatileMemoryStore) (key : StorageRecordKey) : UInt64 :=
  self.fencingTokens[key]?.getD 0

def insertRecord (self : VolatileMemoryStore) (key : StorageRecordKey) (record : StoredRecord)
    (floor : UInt64) : VolatileMemoryStore :=
  { self with
    records := self.records.insert key record
    revisionFloors := self.revisionFloors.insert key floor }

def insertFence (self : VolatileMemoryStore) (key : StorageRecordKey) (token : UInt64) :
    VolatileMemoryStore :=
  { self with fencingTokens := self.fencingTokens.insert key token }

def load (self : VolatileMemoryStore) (key : StorageRecordKey) : StorageSnapshot :=
  ⟨self.records[key]?, self.revisionFloor key⟩

/-- Commits a replacement that was found current. -/
def commit (key : StorageRecordKey) (expectedRevision : Option UInt64)
    (replacement : StoredRecord) : Call CompareAndSwapOutcome := do
  let self ← Mut.self
  let expectedReplacementRevision ←
    ((expectedRevision.getD 0).checkedSucc.okOr .revisionExhausted :
      Except VolatileMemoryStoreError UInt64)
  rejectIf (replacement.revision ≠ expectedReplacementRevision)
    (.invalidReplacementRevision expectedReplacementRevision replacement.revision)
  Mut.assign (self.insertRecord key replacement expectedReplacementRevision)
  return .stored expectedReplacementRevision

def compareAndSwapWithoutFence (key : StorageRecordKey) (expectedRevision : Option UInt64)
    (replacement : StoredRecord) : Call CompareAndSwapOutcome := fun self =>
  if self.actualRevision key ≠ expectedRevision ∨
      (self.actualRevision key).getD 0 ≠ self.revisionFloor key then
    (.ok (.conflict (self.actualRevision key) (self.revisionFloor key)), self)
  else commit key expectedRevision replacement self

def compareAndSwap (key : StorageRecordKey) (expectedRevision : Option UInt64)
    (replacement : StoredRecord) : Call CompareAndSwapOutcome := do
  let self ← Mut.self
  rejectIf (self.fencingToken key ≠ 0) (.fencingRequired (self.fencingToken key))
  compareAndSwapWithoutFence key expectedRevision replacement

def reserveFence (key : StorageRecordKey) : Call UInt64 := do
  let self ← Mut.self
  let nextToken ← ((self.fencingToken key).checkedSucc.okOr .fencingTokenExhausted :
    Except VolatileMemoryStoreError UInt64)
  Mut.assign (self.insertFence key nextToken)
  return nextToken

def establishFence (key : StorageRecordKey) (fencingToken : UInt64) : Call Unit := do
  let self ← Mut.self
  rejectIf (fencingToken = 0) .invalidFencingToken
  rejectIf (fencingToken < self.fencingToken key)
    (.fencingTokenRejected (self.fencingToken key) fencingToken)
  Mut.assign (if self.fencingToken key < fencingToken then self.insertFence key fencingToken
    else self)

def compareAndSwapFenced (key : StorageRecordKey) (expectedRevision : Option UInt64)
    (replacement : StoredRecord) (fencingToken : UInt64) : Call CompareAndSwapOutcome := do
  let self ← Mut.self
  rejectIf (fencingToken = 0) .invalidFencingToken
  rejectIf (fencingToken ≠ self.fencingToken key)
    (.fencingTokenRejected (self.fencingToken key) fencingToken)
  compareAndSwapWithoutFence key expectedRevision replacement

def answer (self : VolatileMemoryStore) :
    (op : BackendOp) → op.Answer VolatileMemoryStoreError × VolatileMemoryStore
  | .load key => (.ok (self.load key), self)
  | .compareAndSwap key expected replacement => compareAndSwap key expected replacement self
  | .currentFence key => (.ok (self.fencingToken key), self)
  | .reserveFence key => reserveFence key self
  | .establishFence key token => establishFence key token self
  | .compareAndSwapFenced key expected replacement token =>
    compareAndSwapFenced key expected replacement token self

/-- No fence is reserved and every floor is its record's revision. -/
structure Unfenced (s : VolatileMemoryStore) : Prop where
  token : ∀ key, s.fencingToken key = 0
  floor : ∀ key, s.revisionFloor key = (s.actualRevision key).getD 0

theorem unfenced_empty : empty.Unfenced where
  token key := by simp [empty, fencingToken]
  floor key := by simp [empty, revisionFloor, actualRevision]

theorem records_insertRecord (self : VolatileMemoryStore) (key : StorageRecordKey)
    (record : StoredRecord) (floor : UInt64) (k : StorageRecordKey) :
    (self.insertRecord key record floor).records[k]? =
      Function.update (fun k => self.records[k]?) key (some record) k := by
  by_cases h : key = k
  · simp [insertRecord, h]
  · simp [insertRecord, Std.ExtTreeMap.getElem?_insert, h, Ne.symm h]

theorem Unfenced.insertRecord {self : VolatileMemoryStore} (h : self.Unfenced)
    (key : StorageRecordKey) (record : StoredRecord) :
    (self.insertRecord key record record.revision).Unfenced where
  token := h.token
  floor k := by
    have hk := h.floor k
    rw [revisionFloor, actualRevision] at hk ⊢
    rw [records_insertRecord]
    by_cases he : key = k
    · subst he
      simp [VolatileMemoryStore.insertRecord]
    · simpa [VolatileMemoryStore.insertRecord, Std.ExtTreeMap.getElem?_insert, he, Ne.symm he]
        using hk

/-- Without a fence, a write is decided by the revision alone. -/
theorem Unfenced.compareAndSwap_eq {self : VolatileMemoryStore} (h : self.Unfenced)
    {key : StorageRecordKey} {expected : Option UInt64} {replacement : StoredRecord} :
    compareAndSwap key expected replacement self =
      if self.actualRevision key ≠ expected then
        (.ok (.conflict (self.actualRevision key) ((self.actualRevision key).getD 0)), self)
      else commit key expected replacement self := by
  have hunfold : compareAndSwap key expected replacement self =
      compareAndSwapWithoutFence key expected replacement self := by
    simp [compareAndSwap, h.token key, rejectIf, bind, Mut.self, pure]
  rw [hunfold, compareAndSwapWithoutFence, h.floor key]
  simp

theorem commit_eq {self : VolatileMemoryStore} {key : StorageRecordKey} {expected : Option UInt64}
    {replacement : StoredRecord} (h : replacement.revision.toNat = (expected.getD 0).toNat + 1) :
    (commit key expected replacement).Returns self (.stored replacement.revision)
      (self.insertRecord key replacement replacement.revision) := by
  have hnext := UInt64.checkedSucc_eq_some_iff.mpr h
  simp only [commit, Mut.returns_bind, Mut.returns_self, Mut.returns_lift, Mut.returns_rejectIf,
    Mut.returns_assign, Mut.returns_pure, Option.okOr_ok_iff, not_not]
  exact ⟨_, _, ⟨rfl, rfl⟩, _, _, ⟨hnext, rfl⟩, (), _, ⟨rfl, rfl⟩, (), _, rfl, rfl, rfl⟩

/-- The in-memory store is a correct backend while it is unfenced. -/
def correct : CorrectBackend VolatileMemoryStore VolatileMemoryStoreError where
  answer := answer
  Valid := Unfenced
  record self key := self.records[key]?
  load_eq self key h := by
    have hfloor := h.floor key
    rw [answer, load, hfloor]
    rfl
  conflict_eq self key expected replacement h hne := by
    rw [answer, h.compareAndSwap_eq]
    exact if_pos hne
  stored_eq self key expected replacement h heq hrevision := by
    refine ⟨self.insertRecord key replacement replacement.revision, ?_, h.insertRecord key _, ?_⟩
    · rw [answer, h.compareAndSwap_eq]
      exact (if_neg (not_not.mpr heq)).trans (commit_eq hrevision)
    · funext k
      exact records_insertRecord self key replacement _ k

end VolatileMemoryStore

end Octoscript
