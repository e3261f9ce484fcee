import Octoscript.Storage.AnchoredSystem

namespace Octoscript

open AnchoredState List Sqlite

namespace AnchoredSqliteStore

/-- The anchored row is in the table. -/
def HasRow (rows : Rows) (key : StorageRecordKey) (state : RollbackAnchorState) : Prop :=
  ∀ commitment, state.recordCommitment = some commitment →
    ∃ row ∈ rows, row.isAt key state.revisionFloor commitment

/-- A write under a fence comes after no higher fence. -/
def InFenceOrder (e : AnchoredEvent) (earlier : List AnchoredEvent) : Prop :=
  ∀ key revision token, e = .stored key revision (some token) →
    ∀ token', .fence key token' ∈ earlier → token' ≤ token

structure Inv (s : AnchoredState) : Prop where
  row : ∀ key, HasRow s.rows key (s.anchor key)
  revisions : ∀ key, (s.storedRevisions key ++ s.unreported key).Perm
    (range' 1 (s.anchor key).revisionFloor.toNat)
  ascending : ∀ key, (s.storedRevisions key).Pairwise (· > ·)
  fences : ∀ key token, .fence key token ∈ s.events → token ≤ (s.anchor key).fencingToken
  order : History.Each InFenceOrder s.events

/-- What a process may do: the anchor moves forward, no candidate of the current fence
for the next revision is lost, and a revision is added only after a candidate was
written under the fence of that moment. -/
structure May (s s' : AnchoredState) : Prop where
  le : ∀ key, s.anchor key ≤ s'.anchor key
  kept : ∀ row ∈ s.rows, row.revision.toNat = (s.anchor row.key).revisionFloor.toNat + 1 →
    (row.key, (s.anchor row.key).fencingToken) ∈ s.candidates → row ∈ s'.rows
  candidates : ∀ c ∈ s.candidates, c ∈ s'.candidates
  grown : ∀ key, (s'.anchor key).fencingToken = (s.anchor key).fencingToken →
    s'.anchor key = s.anchor key ∨ (key, (s.anchor key).fencingToken) ∈ s.candidates

theorem May.refl (s : AnchoredState) : May s s where
  le _ := le_refl _
  kept _ h _ _ := h
  candidates _ h := h
  grown _ _ := Or.inl rfl

/-- The process has seen `current` anchored. -/
def Seen (key : StorageRecordKey) (current : RollbackAnchorState) (s : AnchoredState) : Prop :=
  current ≤ s.anchor key ∧ ((s.anchor key).fencingToken = current.fencingToken →
    s.anchor key = current ∨ (key, current.fencingToken) ∈ s.candidates)

/-- The process has written the candidate that follows `current`. -/
structure Written (key : StorageRecordKey) (current : RollbackAnchorState) (revision : UInt64)
    (commitment : RecordCommitment) (s : AnchoredState) : Prop where
  le : current ≤ s.anchor key
  logged : (key, current.fencingToken) ∈ s.candidates
  row : s.anchor key = current → ∃ row ∈ s.rows, row.isAt key revision commitment

section
variable {s s' : AnchoredState} {key : StorageRecordKey} {current : RollbackAnchorState}

theorem Seen.of_anchor (h : s.anchor key = current) : Seen key current s :=
  ⟨h ▸ le_refl _, fun _ => Or.inl h⟩

theorem Seen.stable (hmay : May s s') (h : Seen key current s) : Seen key current s' := by
  obtain ⟨hle, hsame⟩ := h
  refine ⟨hle.trans (hmay.le key), fun hfence => ?_⟩
  have hs : (s.anchor key).fencingToken = current.fencingToken :=
    UInt64.le_antisymm (hfence ▸ (hmay.le key).2.1) hle.2.1
  rcases hsame hs with heq | hlogged
  · rcases hmay.grown key (hfence.trans hs.symm) with hsame' | hlogged
    · exact Or.inl (hsame'.trans heq)
    · exact Or.inr (hmay.candidates _ (hs ▸ hlogged))
  · exact Or.inr (hmay.candidates _ hlogged)

theorem Written.stable {revision : UInt64} {commitment : RecordCommitment}
    (hrev : revision.toNat = current.revisionFloor.toNat + 1) (hmay : May s s')
    (h : Written key current revision commitment s) : Written key current revision commitment s' := by
  refine ⟨h.le.trans (hmay.le key), hmay.candidates _ h.logged, fun heq => ?_⟩
  -- The anchor did not move, since it never comes back to where it was.
  have hs : s.anchor key = current := le_antisymm (heq ▸ hmay.le key) h.le
  obtain ⟨row, hrow, hat⟩ := h.row hs
  refine ⟨row, hmay.kept row hrow ?_ ?_, hat⟩
  · rw [hat.1, hs, hat.2.1, hrev]
  · rw [hat.1, hs]
    exact h.logged

end

section
variable {AE SE : Type} {s : AnchoredState} {key : StorageRecordKey}
  {current next : RollbackAnchorState} {rows : Rows}

/-- The anchored row survives the pruning of any process that saw the anchor. -/
theorem HasRow.prune {state : RollbackAnchorState} (h : HasRow rows key state)
    (hle : current ≤ state) : HasRow (pruneHistory rows key current) key state := by
  intro commitment hcommit
  obtain ⟨row, hrow, hat⟩ := h commitment hcommit
  refine ⟨row, mem_pruneHistory hrow fun _ => ?_, hat⟩
  rcases UInt64.lt_or_eq_of_le hle.1 with hlt | heq
  · exact Or.inl (hat.2.1 ▸ hlt)
  · exact Or.inr ⟨hat.2.1.trans heq.symm, (hle.2.2 heq).trans (hcommit.trans (by rw [hat.2.2]))⟩

theorem HasRow.prune_other {key' : StorageRecordKey} {state : RollbackAnchorState}
    (h : HasRow rows key' state) (hne : key' ≠ key) :
    HasRow (pruneHistory rows key current) key' state := by
  intro commitment hcommit
  obtain ⟨row, hrow, hat⟩ := h commitment hcommit
  exact ⟨row, mem_pruneHistory hrow fun hkey => absurd (hat.1.symm.trans hkey) hne, hat⟩

theorem Inv.write {replacement : StoredRecord} {commitment : RecordCommitment} (h : Inv s)
    (hle : current ≤ s.anchor key)
    (hpersist : (Sqlite.persistCandidate s.rows key current replacement commitment :
      Except (AnchoredSqliteStoreError AE SE) _) = .ok rows) :
    Inv (s.write key current.fencingToken rows) ∧ May s (s.write key current.fencingToken rows) ∧
      Written key current replacement.revision commitment
        (s.write key current.fencingToken rows) := by
  obtain ⟨hkept, hcandidate⟩ := persistCandidate_ok hpersist
  refine ⟨⟨fun k => ?_, h.revisions, h.ascending, h.fences, h.order⟩, ⟨fun _ => le_refl _, ?_,
    fun c hc => mem_cons_of_mem _ hc, fun _ _ => Or.inl rfl⟩, ⟨hle, mem_cons_self,
    fun _ => hcandidate⟩⟩
  · have hrow : HasRow (pruneHistory s.rows key current) k (s.anchor k) := by
      by_cases hk : k = key
      · subst hk
        exact (h.row k).prune hle
      · exact (h.row k).prune_other hk
    intro c hc
    obtain ⟨row, hmem, hat⟩ := hrow c hc
    exact ⟨row, hkept row hmem, hat⟩
  · intro row hrow hrev _
    refine hkept row (mem_pruneHistory hrow fun hkey => Or.inl ?_)
    have hfloor := UInt64.le_iff_toNat_le.mp hle.1
    rw [hkey] at hrev
    exact UInt64.lt_iff_toNat_lt.mpr (by omega)

theorem Inv.discard (h : Inv s) (hseen : Seen key current s) (hquiet : QuietRecovery s key current) :
    Inv { s with rows := discardUnanchored s.rows key current } ∧
      May s { s with rows := discardUnanchored s.rows key current } := by
  obtain ⟨hfence, hnone⟩ := hquiet
  have hcur : s.anchor key = current := (hseen.2 hfence).resolve_right hnone
  refine ⟨⟨fun k => ?_, h.revisions, h.ascending, h.fences, h.order⟩, ⟨fun _ => le_refl _, ?_,
    fun _ hc => hc, fun _ _ => Or.inl rfl⟩⟩
  · intro commitment hcommit
    obtain ⟨row, hrow, hat⟩ := h.row k commitment hcommit
    refine ⟨row, mem_discardUnanchored hrow fun hkey => ?_, hat⟩
    obtain rfl : k = key := hat.1.symm.trans hkey
    rw [hcur] at hcommit hat
    exact ⟨hat.2.1, hcommit.trans (by rw [hat.2.2])⟩
  · intro row hrow _ hlogged
    refine mem_discardUnanchored hrow fun hkey => ?_
    rw [hkey, hfence] at hlogged
    exact absurd hlogged hnone

theorem Inv.advance (h : Inv s) (hcur : s.anchor key = current) (hle : current ≤ next)
    (hrow : HasRow s.rows key next) (hrev : next.revisionFloor = current.revisionFloor ∨
      next.revisionFloor.toNat = current.revisionFloor.toNat + 1) : Inv (s.advance key next) := by
  subst hcur
  refine ⟨fun k => ?_, fun k => ?_, h.ascending, fun k token hmem => ?_, h.order⟩
  · by_cases hk : k = key
    · subst hk
      simpa [advance] using hrow
    · simpa [advance, hk] using h.row k
  · have hperm := h.revisions k
    by_cases hk : k = key
    · subst hk
      rcases hrev with hsame | hnext
      · simpa [advance, hsame, storedRevisions] using hperm
      · have hne : next.revisionFloor ≠ (s.anchor k).revisionFloor := by
          intro heq
          rw [heq] at hnext
          omega
        simp only [advance, if_neg hne, Function.update_self, hnext,
          range'_concat, Nat.one_mul]
        rw [Nat.add_comm 1]
        exact (perm_middle.trans (hperm.cons _)).trans (perm_append_singleton _ _).symm
    · have hother : (s.advance key next).unreported k = s.unreported k := by
        unfold advance
        split_ifs
        · rfl
        · exact Function.update_of_ne hk _ _
      have hanchor : (s.advance key next).anchor k = s.anchor k := Function.update_of_ne hk _ _
      rw [hother, hanchor]
      exact hperm
  · have hfence := h.fences k token hmem
    by_cases hk : k = key
    · subst hk
      simpa [advance] using UInt64.le_trans hfence hle.2.1
    · simpa [advance, hk] using hfence

theorem May.advance (hcur : s.anchor key = current) (hle : current ≤ next)
    (hgrown : next.fencingToken = current.fencingToken →
      (key, current.fencingToken) ∈ s.candidates) : May s (s.advance key next) := by
  subst hcur
  refine ⟨le_advance hle, fun _ hrow _ _ => hrow, fun _ hc => hc, fun k hfence => ?_⟩
  by_cases hk : k = key
  · subst hk
    exact Or.inr (hgrown (by simpa [advance] using hfence))
  · exact Or.inl (by simp [advance, hk])

theorem Inv.reportFence {token : UInt64} (h : Inv s)
    (htoken : token ≤ (s.anchor key).fencingToken) : Inv (s.report (some (.fence key token))) := by
  refine ⟨h.row, h.revisions, h.ascending, fun k t hmem => ?_, ?_⟩
  · rcases mem_cons.mp hmem with heq | hmem
    · obtain ⟨rfl, rfl⟩ := AnchoredEvent.fence.inj heq
      exact htoken
    · exact h.fences k t hmem
  · exact History.each_cons.mpr ⟨fun _ _ _ he => (nomatch he), h.order⟩

theorem Inv.reportStored {revision : UInt64} {token : Option UInt64} (h : Inv s)
    (hmem : revision.toNat ∈ s.unreported key) (htop : revision = (s.anchor key).revisionFloor)
    (htoken : ∀ t, token = some t → t = (s.anchor key).fencingToken) :
    Inv (s.report (some (.stored key revision token))) := by
  refine ⟨h.row, fun k => ?_, fun k => ?_, fun k t hmem => ?_, ?_⟩
  · by_cases hk : k = key
    · subst hk
      have hstored : (s.report (some (.stored k revision token))).storedRevisions k =
          revision.toNat :: s.storedRevisions k := by
        simp [report, storedRevisions]
      rw [hstored]
      simp only [report, Function.update_self]
      refine List.Perm.trans ?_ (h.revisions k)
      exact perm_middle.symm.trans ((perm_cons_erase hmem).symm.append_left _)
    · have hstored : (s.report (some (.stored key revision token))).storedRevisions k =
          s.storedRevisions k := by
        simp [report, storedRevisions, Ne.symm hk]
      rw [hstored]
      simpa [report, hk] using h.revisions k
  · by_cases hk : k = key
    · subst hk
      have hstored : (s.report (some (.stored k revision token))).storedRevisions k =
          revision.toNat :: s.storedRevisions k := by
        simp [report, storedRevisions]
      rw [hstored]
      refine pairwise_cons.mpr ⟨fun n hn => ?_, h.ascending k⟩
      -- The revisions reached so far are distinct and none is above the current one.
      have hnodup : (s.storedRevisions k ++ s.unreported k).Nodup :=
        (h.revisions k).nodup_iff.mpr nodup_range'
      have hne : n ≠ revision.toNat := fun heq =>
        disjoint_of_nodup_append hnodup hn (heq ▸ hmem)
      have hbound := mem_range'_1.mp ((h.revisions k).subset (mem_append_left _ hn))
      rw [← htop] at hbound
      omega
    · have hstored : (s.report (some (.stored key revision token))).storedRevisions k =
          s.storedRevisions k := by
        simp [report, storedRevisions, Ne.symm hk]
      rw [hstored]
      exact h.ascending k
  · rcases mem_cons.mp hmem with heq | hmem
    · exact nomatch heq
    · exact h.fences k t hmem
  · refine History.each_cons.mpr ⟨fun k r t he token' hfence => ?_, h.order⟩
    obtain ⟨rfl, rfl, rfl⟩ := AnchoredEvent.stored.inj he
    rw [htoken t rfl]
    exact h.fences key token' hfence

end

/-- Safety is a discipline. -/
def safety (AE SE : Type) : Discipline AE SE QuietRecovery where
  inv := Inv
  may := May
  seen := Seen
  written := Written
  may_refl := May.refl
  may_report s event := by
    match event with
    | none => exact May.refl s
    | some (.stored ..) | some (.fence ..) =>
      exact ⟨fun _ => le_refl _, fun _ h _ _ => h, fun _ h => h, fun _ _ => Or.inl rfl⟩
  seen_anchor _ _ := Seen.of_anchor rfl
  seen_stable := Seen.stable
  seen_fence h := h.1.2.1
  written_stable := Written.stable
  write hinv hseen _ := hinv.write hseen.1
  discard := Inv.discard
  advanceFence {s key token} hinv hlt := by
    have hle := RollbackAnchorState.le_withFencingToken hlt
    refine ⟨hinv.advance rfl hle (hinv.row key) (Or.inl rfl), May.advance rfl hle fun hsame => ?_⟩
    exact absurd (hsame ▸ hlt) (UInt64.lt_irrefl _)
  advanceRecord {s key next commitment} hinv hwritten hrevision hcommitment hfence := by
    have hle := RollbackAnchorState.le_of_next hrevision hfence
    have hrow : HasRow s.rows key next := by
      intro c hc
      obtain ⟨row, hrow, hat⟩ := hwritten.row rfl
      exact ⟨row, hrow, hat.1, hat.2.1, hat.2.2.trans (Option.some.inj (hcommitment.symm.trans hc))⟩
    exact ⟨hinv.advance rfl hle hrow (Or.inr hrevision),
      May.advance rfl hle fun _ => hwritten.logged⟩
  reportFence := Inv.reportFence
  reportStored hinv hstored := hinv.reportStored hstored.1 hstored.2.1 hstored.2.2

theorem inv_initial : Inv .initial where
  row _ _ h := nomatch h
  revisions _ := List.Perm.refl _
  ascending _ := List.Pairwise.nil
  fences _ _ h := nomatch h
  order := History.each_nil _

section
variable [Blake3] {P AE SE : Type} [DecidableEq P]

/-- In every reachable state: the anchored row is in the table; the revisions reported
as stored ascend, and with those whose report was lost they are each of the revisions up
to the anchored one, once; and no write under a fence is stored after a higher fence was
established. Discards take part as long as, from the reservation of the recovery fence to
the end of the discard, the key gets no other fence and no candidate under that one. -/
theorem anchored_safety {c : Interaction.Config P AnchoredState SqliteOp (SqliteOp.Answer AE SE)
      Held (Option AnchoredEvent)}
    (h : (system P AE SE QuietRecovery).Reachable .initial c) :
    (∀ key commitment, (c.shared.anchor key).recordCommitment = some commitment →
      ∃ row ∈ c.shared.rows, row.isAt key (c.shared.anchor key).revisionFloor commitment) ∧
    (∀ key, (c.shared.storedRevisions key).Pairwise (· > ·) ∧
      (c.shared.storedRevisions key ++ c.shared.unreported key).Perm
        (range' 1 (c.shared.anchor key).revisionFloor.toNat)) ∧
    ∀ later key revision token earlier,
      c.shared.events = later ++ .stored key revision (some token) :: earlier →
      ∀ token', .fence key token' ∈ earlier → token' ≤ token := by
  have hinv := ((safety AE SE).outline_valid.reachable _ inv_initial (fun _ => trivial) h).1
  refine ⟨hinv.row, fun key => ⟨hinv.ascending key, hinv.revisions key⟩, ?_⟩
  intro later key revision token earlier hevs
  exact hinv.order later _ earlier hevs key revision token rfl

end

open Interaction.System in
/-- Two processes reserve a fence each, and the second writes the first record of the key under
its own. -/
theorem exists_fenced_write [Blake3] (key : StorageRecordKey) :
    ∃ (c : Interaction.Config Bool AnchoredState SqliteOp (SqliteOp.Answer Unit Unit) Held
        (Option AnchoredEvent)) (commitment : RecordCommitment),
      (system Bool Unit Unit QuietRecovery).Reachable .initial c ∧
      c.shared.anchor key = ⟨1, some commitment, 2, by simp⟩ ∧
      c.shared.events = [.stored key 1 (some 2), .fence key 2, .fence key 1] := by
  let first := (initial.advance key ⟨0, none, 1, by decide⟩).report (some (.fence key 1))
  have hfirst : first.anchor key = ⟨0, none, 1, by decide⟩ := Function.update_self ..
  let second := (first.advance key ⟨0, none, 2, by decide⟩).report (some (.fence key 2))
  have hsecond : second.anchor key = ⟨0, none, 2, by decide⟩ := Function.update_self ..
  have hwrite : FirstWrite Unit Unit second key ⟨1, []⟩ (some 2) _ _ :=
    firstWrite_empty hsecond rfl (by rw [hsecond]; rfl)
  have hspawn := ((Reachable.start (Y := system Bool Unit Unit QuietRecovery) .initial).spawn
    (p := true) rfl rfl .done rfl).spawn (p := false) rfl rfl .done rfl
  have htrue : (system Bool Unit Unit QuietRecovery).Reachable .initial ⟨first, _⟩ :=
    hspawn.serve (p := true) (AnchoredRequest.reserveFence key) rfl
      ((runs_reserveFence rfl rfl).answer (fenceReport (.fence key))) rfl
  have hrun : (system Bool Unit Unit QuietRecovery).Runs false first
      (reserveFence key ([] : Held)) (.ok 2, []) (first.advance key ⟨0, none, 2, by decide⟩) := by
    have hnext : (first.anchor key).withFencingToken 2 = ⟨0, none, 2, by decide⟩ := by
      rw [hfirst]
      rfl
    rw [← hnext]
    exact runs_reserveFence (by rw [hfirst]) (by rw [hfirst]; rfl)
  have hfalse : (system Bool Unit Unit QuietRecovery).Reachable .initial ⟨second, _⟩ :=
    htrue.serve (p := false) (AnchoredRequest.reserveFence key) rfl
      (hrun.answer (fenceReport (.fence key))) rfl
  have h := hfalse.serve (p := false) (AnchoredRequest.compareAndSwapFenced key none ⟨1, []⟩ 2) rfl
    (hwrite.runs.answer (storedReport key (some 2))) rfl
  exact ⟨_, _, h, Function.update_self .., rfl⟩

theorem anchored_safety_of_fenced_write :
    ∃ (_ : Blake3) (key : StorageRecordKey) (c : Interaction.Config Bool AnchoredState SqliteOp
        (SqliteOp.Answer Unit Unit) Held (Option AnchoredEvent)) (commitment : RecordCommitment),
      (system Bool Unit Unit QuietRecovery).Reachable .initial c ∧
      c.shared.events = [.stored key 1 (some 2), .fence key 2, .fence key 1] ∧
      (∃ row ∈ c.shared.rows, row.isAt key 1 commitment) ∧
      (c.shared.storedRevisions key ++ c.shared.unreported key).Perm (range' 1 1) ∧
      ∀ token, .fence key token ∈ [AnchoredEvent.fence key 2, .fence key 1] → token ≤ 2 := by
  let digest : Digest := ⟨replicate 32 0, rfl⟩
  let _ : Blake3 := ⟨fun _ => digest, fun _ _ => digest⟩
  let key : StorageRecordKey := ⟨"workflow-ledger", "release-42", by decide, by decide⟩
  obtain ⟨c, commitment, h, hanchor, hevents⟩ := exists_fenced_write key
  obtain ⟨hrow, hrevisions, horder⟩ := anchored_safety h
  obtain ⟨-, hperm⟩ := hrevisions key
  obtain ⟨row, hmem, hat⟩ := hrow key commitment (by rw [hanchor])
  rw [hanchor] at hperm hat
  exact ⟨_, key, c, commitment, h, hevents, ⟨row, hmem, hat⟩, hperm, horder [] key 1 2 _ hevents⟩

open Interaction.System in
/-- Two processes, and no fence but the recovery fence: one process writes a candidate
under it, the other discards that candidate, and the first then moves the anchor to it. -/
theorem exists_lost_row [Blake3] (key : StorageRecordKey) :
    ∃ (c : Interaction.Config Bool AnchoredState SqliteOp (SqliteOp.Answer Unit Unit) Held
        (Option AnchoredEvent)) (commitment : RecordCommitment),
      (system Bool Unit Unit NoOtherFence).Reachable .initial c ∧
      c.shared.anchor key = ⟨1, some commitment, 1, by simp⟩ ∧ c.shared.rows = [] := by
  let reserved := (initial.advance key ⟨0, none, 1, by decide⟩).report
    (some (.fence key 1))
  have hanchor : reserved.anchor key = ⟨0, none, 1, by decide⟩ := Function.update_self ..
  let candidate : SqliteRow := ⟨key, 1, recordCommitment key ⟨1, []⟩, []⟩
  have hwrite : FirstWrite Unit Unit reserved key ⟨1, []⟩ (some 1) [candidate] _ :=
    firstWrite_empty hanchor rfl (by rw [hanchor]; rfl)
  have hspawn := ((Reachable.start (Y := system Bool Unit Unit NoOtherFence) .initial).spawn
    (p := true) rfl rfl .done rfl).spawn (p := false) rfl rfl .done rfl
  have hreserve := hspawn.serve (p := true) (.reserveRecoveryFence key) rfl
    ((runs_hold rfl rfl).answer _) rfl
  have hpause := hreserve.pause (p := false) (.compareAndSwapFenced key none ⟨1, []⟩ 1) rfl
    (hwrite.pauses.bind _)
  have hrun : (system Bool Unit Unit NoOtherFence).Runs true
      (reserved.write key (reserved.anchor key).fencingToken [candidate])
      (discardUnanchoredCandidates ⟨key, 1⟩ []) _ _ :=
    runs_discard hwrite.new (congrArg (·.fencingToken) hanchor).symm rfl
  have hdiscard := hpause.serve (p := true) (AnchoredRequest.discardUnanchoredCandidates 0) rfl
    (hrun.answer fun _ => none) rfl
  have hresume := hdiscard.resume (p := false) (.ok .stored) rfl (Or.inl ⟨rfl, Or.inl rfl, rfl⟩)
    .done rfl
  refine ⟨_, _, hresume, Function.update_self .., ?_⟩
  change discardUnanchored [candidate] key (reserved.anchor key) = []
  rw [hanchor]
  simp [discardUnanchored, candidate]

/-- The anchor names a row that is not in the table. -/
theorem anchored_row_lost :
    ∃ (_ : Blake3) (key : StorageRecordKey) (c : Interaction.Config Bool AnchoredState SqliteOp
        (SqliteOp.Answer Unit Unit) Held (Option AnchoredEvent)) (commitment : RecordCommitment),
      (system Bool Unit Unit NoOtherFence).Reachable .initial c ∧
      c.shared.anchor key = ⟨1, some commitment, 1, by simp⟩ ∧ c.shared.rows = [] := by
  let digest : Digest := ⟨replicate 32 0, rfl⟩
  let _ : Blake3 := ⟨fun _ => digest, fun _ _ => digest⟩
  exact ⟨_, ⟨"workflow-ledger", "release-42", by decide, by decide⟩, exists_lost_row _⟩

end AnchoredSqliteStore

end Octoscript
