import Octoscript.Lib.Lists
import Octoscript.Storage.AnchoredSystem

namespace Octoscript

open List Sqlite

namespace AnchoredSqliteStore
variable {AE SE : Type} {s : AnchoredState} {rows rows' : Rows} {key : StorageRecordKey}
  {current next : RollbackAnchorState}

/-- The primary key of a row. -/
def primaryKey (row : SqliteRow) : StorageRecordKey × UInt64 × RecordCommitment :=
  (row.key, row.revision, row.commitment)

/-- The rows of a key. -/
def rowsOf (rows : Rows) (key : StorageRecordKey) : ℕ := rows.countP (·.key = key)

/-- The rows of a key above a revision. -/
def rowsAbove (rows : Rows) (key : StorageRecordKey) (revision : UInt64) : ℕ :=
  rows.countP fun row => row.key = key ∧ revision < row.revision

theorem pending_eq : pending rows key current = rowsAbove rows key current.revisionFloor := by
  unfold pending rowsAbove
  simp only [Wire.beBytes_lt_iff]

theorem rowsAbove_mono {revision revision' : UInt64} (h : revision ≤ revision') :
    rowsAbove rows key revision' ≤ rowsAbove rows key revision := by
  apply countP_mono_left
  intro row _ hrow
  obtain ⟨hkey, hlt⟩ := of_decide_eq_true hrow
  exact decide_eq_true ⟨hkey, UInt64.lt_of_le_of_lt h hlt⟩

theorem pruneHistory_sublist (rows : Rows) (key : StorageRecordKey)
    (current : RollbackAnchorState) :
    (pruneHistory rows key current).Sublist rows := by
  unfold pruneHistory
  split_ifs
  · exact List.Sublist.refl _
  · cases current.recordCommitment with
    | none => exact List.Sublist.refl _
    | some commitment => exact filter_sublist

theorem discardUnanchored_sublist : (discardUnanchored rows key current).Sublist rows := by
  unfold discardUnanchored
  split_ifs
  · exact filter_sublist
  · cases current.recordCommitment with
    | none => exact List.Sublist.refl _
    | some commitment => exact filter_sublist

/-- What pruning leaves of a key is above the floor, or the anchored row itself. -/
theorem above_of_mem_pruneHistory {row : SqliteRow}
    (h : row ∈ pruneHistory rows key current) (hkey : row.key = key)
    (hpos : 0 < row.revision) : current.revisionFloor < row.revision ∨
      row.revision = current.revisionFloor ∧ current.recordCommitment = some row.commitment := by
  unfold pruneHistory at h
  split_ifs at h with hzero
  · rw [hzero]
    exact .inl hpos
  · cases hc : current.recordCommitment with
    | none => exact absurd (current.valid.mpr hc) hzero
    | some commitment =>
      rw [hc] at h
      have hkept := of_decide_eq_true (mem_filter.mp h).2
      simp only [SqliteRow.isHistory, hkey, true_and, not_or, not_and, not_not,
        Wire.beBytes_lt_iff, UInt64.not_lt] at hkept
      rcases UInt64.lt_or_eq_of_le hkept.1 with hlt | heq
      · exact .inl hlt
      · exact .inr ⟨heq.symm, by rw [hkept.2 heq.symm]⟩

/-- The primary key admits one anchored row. -/
theorem countP_anchored_le (h : (rows.map primaryKey).Nodup) :
    rows.countP (fun row => row.key = key ∧ row.revision = current.revisionFloor ∧
      current.recordCommitment = some row.commitment) ≤ 1 := by
  cases hc : current.recordCommitment with
  | none => simp
  | some commitment =>
    have hone := nodup_iff_count_le_one.mp h (key, current.revisionFloor, commitment)
    rw [count, countP_map] at hone
    refine (countP_mono_left ?_).trans hone
    intro row _ hrow
    obtain ⟨hkey, hrev, hcommitment⟩ := of_decide_eq_true hrow
    simp [primaryKey, hkey, hrev, Option.some.inj hcommitment]

/-- No key has more rows than it may. -/
structure Bounded (s : AnchoredState) : Prop where
  unique : (s.rows.map primaryKey).Nodup
  positive : ∀ row ∈ s.rows, 0 < row.revision
  above : ∀ key, rowsAbove s.rows key (s.anchor key).revisionFloor ≤ maxPendingSqliteCandidates
  total : ∀ key, rowsOf s.rows key ≤ maxPendingSqliteCandidates + 1

theorem Bounded.sublist (h : Bounded s) (hrows : rows.Sublist s.rows) :
    Bounded { s with rows := rows } where
  unique := h.unique.sublist (hrows.map _)
  positive row hrow := h.positive row (hrows.subset hrow)
  above key := hrows.countP_le.trans (h.above key)
  total key := hrows.countP_le.trans (h.total key)

theorem Bounded.advance (h : Bounded s) (hle : s.anchor key ≤ next) :
    Bounded (s.advance key next) where
  unique := h.unique
  positive := h.positive
  above k := by
    refine (rowsAbove_mono ?_).trans (h.above k)
    by_cases hk : k = key
    · subst hk
      simpa [AnchoredState.advance] using hle.1
    · simp [AnchoredState.advance, hk]
  total := h.total

/-- A candidate is added only while fewer than the maximum are above the floor that its writer
saw, and what was below that floor is gone. -/
theorem Bounded.insert (h : Bounded s) (hle : current ≤ s.anchor key) {row : SqliteRow}
    (hkey : row.key = key) (hlt : current.revisionFloor < row.revision)
    (hnew : ∀ row' ∈ pruneHistory s.rows key current, primaryKey row' ≠ primaryKey row)
    (hroom : rowsAbove (pruneHistory s.rows key current) key current.revisionFloor <
      maxPendingSqliteCandidates) :
    Bounded { s with rows := row :: pruneHistory s.rows key current } := by
  have hpruned := h.sublist (pruneHistory_sublist s.rows key current)
  have hunique : ((row :: pruneHistory s.rows key current).map primaryKey).Nodup := by
    rw [map_cons, nodup_cons]
    refine ⟨fun hmem => ?_, hpruned.unique⟩
    obtain ⟨row', hrow', heq⟩ := mem_map.mp hmem
    exact hnew row' hrow' heq
  have hfloor : rowsAbove (row :: pruneHistory s.rows key current) key
      current.revisionFloor ≤ maxPendingSqliteCandidates := by
    have hcons : rowsAbove (row :: pruneHistory s.rows key current) key
        current.revisionFloor ≤
          rowsAbove (pruneHistory s.rows key current) key current.revisionFloor + 1 := by
      rw [rowsAbove, countP_cons]
      split_ifs <;> simp [rowsAbove]
    omega
  constructor
  · exact hunique
  · intro row' hrow'
    rcases mem_cons.mp hrow' with rfl | hrow'
    · exact UInt64.lt_of_le_of_lt UInt64.zero_le hlt
    · exact hpruned.positive row' hrow'
  · intro k
    by_cases hk : k = key
    · subst hk
      exact (rowsAbove_mono hle.1).trans hfloor
    · have hother : rowsAbove (row :: pruneHistory s.rows key current) k
          (s.anchor k).revisionFloor =
            rowsAbove (pruneHistory s.rows key current) k (s.anchor k).revisionFloor := by
        rw [rowsAbove, countP_cons_of_neg (by simp [hkey, Ne.symm hk])]
        rfl
      exact hother.trans_le (hpruned.above k)
  · intro k
    by_cases hk : k = key
    · subst hk
      -- Each row of the key is above the floor that was seen, or is the row anchored there.
      have hsplit : rowsOf (row :: pruneHistory s.rows k current) k ≤
          rowsAbove (row :: pruneHistory s.rows k current) k current.revisionFloor +
            (row :: pruneHistory s.rows k current).countP fun row => row.key = k ∧
              row.revision = current.revisionFloor ∧
                current.recordCommitment = some row.commitment := by
        apply countP_le_add
        intro row' hmem hkey'
        rw [decide_eq_true_iff] at hkey'
        rw [decide_eq_true_iff, decide_eq_true_iff]
        rcases mem_cons.mp hmem with rfl | hmem
        · exact .inl ⟨hkey', hlt⟩
        · exact (above_of_mem_pruneHistory hmem hkey' (hpruned.positive row' hmem)).imp
            (⟨hkey', ·⟩) (⟨hkey', ·⟩)
      exact hsplit.trans (Nat.add_le_add hfloor (countP_anchored_le hunique))
    · have hother : rowsOf (row :: pruneHistory s.rows key current) k =
          rowsOf (pruneHistory s.rows key current) k := by
        rw [rowsOf, countP_cons_of_neg (by simp [hkey, Ne.symm hk])]
        rfl
      exact hother.trans_le (hpruned.total k)

theorem Bounded.write {replacement : StoredRecord} {commitment : RecordCommitment} (h : Bounded s)
    (hle : current ≤ s.anchor key)
    (hrev : replacement.revision.toNat = current.revisionFloor.toNat + 1)
    (hpersist : (Sqlite.persistCandidate s.rows key current replacement commitment :
      Except (AnchoredSqliteStoreError AE SE) _) = .ok rows) :
    Bounded { s with rows := rows } := by
  simp only [Sqlite.persistCandidate] at hpersist
  split at hpersist
  · split_ifs at hpersist
    obtain rfl := Except.ok.inj hpersist
    exact h.sublist (pruneHistory_sublist _ _ _)
  next hfind =>
    split_ifs at hpersist with hfull
    obtain rfl := Except.ok.inj hpersist
    have hlt : current.revisionFloor < replacement.revision :=
      UInt64.lt_iff_toNat_lt.mpr (by omega)
    apply h.insert hle rfl hlt
    · intro row hrow heq
      simp only [primaryKey, Prod.mk.injEq] at heq
      exact find?_eq_none.mp hfind row hrow (decide_eq_true heq)
    · rw [← pending_eq]
      exact Nat.lt_of_not_le hfull

/-- The bound is a discipline, with or without a proviso for discards. -/
def bound (AE SE : Type)
    (proviso : AnchoredState → StorageRecordKey → RollbackAnchorState → Prop) :
    Discipline AE SE proviso where
  inv := Bounded
  may s s' := ∀ key, s.anchor key ≤ s'.anchor key
  seen key current s := current ≤ s.anchor key
  written _ _ _ _ _ := True
  may_refl _ _ := le_refl _
  may_report s event := by
    match event with
    | none | some (.stored ..) | some (.fence ..) => exact fun _ => le_refl _
  seen_anchor _ _ := le_refl _
  seen_stable hmay hseen := hseen.trans (hmay _)
  seen_fence hseen := hseen.2.1
  written_stable _ _ _ := trivial
  write hinv hseen hrevision hpersist := by
    obtain ⟨hunique, hpositive, habove, htotal⟩ := hinv.write hseen hrevision hpersist
    exact ⟨⟨hunique, hpositive, habove, htotal⟩, fun _ => le_refl _, trivial⟩
  discard hinv _ _ := ⟨hinv.sublist discardUnanchored_sublist, fun _ => le_refl _⟩
  advanceFence {s key token} hinv hlt := by
    have hle := RollbackAnchorState.le_withFencingToken hlt
    exact ⟨hinv.advance hle, AnchoredState.le_advance hle⟩
  advanceRecord {s key next commitment} hinv _ hrevision _ hfence := by
    have hle := RollbackAnchorState.le_of_next hrevision hfence
    exact ⟨hinv.advance hle, AnchoredState.le_advance hle⟩
  reportFence hinv _ := ⟨hinv.unique, hinv.positive, hinv.above, hinv.total⟩
  reportStored hinv _ := ⟨hinv.unique, hinv.positive, hinv.above, hinv.total⟩

theorem bounded_initial : Bounded .initial where
  unique := nodup_nil
  positive _ h := nomatch h
  above _ := Nat.zero_le _
  total _ := Nat.zero_le _

/-- However the processes write, fence, discard, fail and stop: a key has at most sixteen rows
above its anchored revision and at most seventeen rows. -/
theorem candidates_bounded [Blake3] {P : Type} [DecidableEq P]
    {proviso : AnchoredState → StorageRecordKey → RollbackAnchorState → Prop}
    {c : Interaction.Config P AnchoredState SqliteOp (SqliteOp.Answer AE SE) Held
      (Option AnchoredEvent)} (h : (system P AE SE proviso).Reachable .initial c)
    (key : StorageRecordKey) :
    c.shared.rows.countP (fun row => row.key = key ∧
      (c.shared.anchor key).revisionFloor < row.revision) ≤ 16 ∧
    c.shared.rows.countP (fun row => row.key = key) ≤ 17 := by
  have hinv := ((bound AE SE proviso).outline_valid.reachable _ bounded_initial
    (fun _ => trivial) h).1
  exact ⟨hinv.above key, hinv.total key⟩

/-- One process writes the first record of a key and stops before it moves the anchor. -/
theorem candidates_bounded_of_stopped_write :
    ∃ (_ : Blake3) (key : StorageRecordKey) (c : Interaction.Config Unit AnchoredState SqliteOp
        (SqliteOp.Answer Unit Unit) Held (Option AnchoredEvent)),
      (system Unit Unit Unit fun _ _ _ => True).Reachable .initial c ∧
      c.shared.anchor key = .initial ∧ c.shared.rows ≠ [] ∧
      c.shared.rows.countP (fun row => row.key = key ∧
        (c.shared.anchor key).revisionFloor < row.revision) ≤ 16 ∧
      c.shared.rows.countP (fun row => row.key = key) ≤ 17 := by
  let digest : RecordCommitment := ⟨replicate 32 0, rfl⟩
  let _ : Blake3 := ⟨fun _ => digest, fun _ _ => digest⟩
  let key : StorageRecordKey := ⟨"workflow-ledger", "release-42", by decide, by decide⟩
  have hwrite : FirstWrite Unit Unit .initial key ⟨1, []⟩ none [⟨key, 1, digest, []⟩]
      ⟨1, some digest, 0, by simp⟩ := firstWrite_empty rfl rfl rfl
  have hspawn := (Interaction.System.Reachable.start
    (Y := system Unit Unit Unit fun _ _ _ => True) .initial).spawn (p := ()) rfl rfl .done rfl
  have h := hspawn.pause (p := ()) (AnchoredRequest.compareAndSwap key none ⟨1, []⟩) rfl
    (hwrite.pauses.bind _)
  exact ⟨_, key, _, h, rfl, by simp [AnchoredState.write], candidates_bounded h key⟩

end AnchoredSqliteStore

end Octoscript
