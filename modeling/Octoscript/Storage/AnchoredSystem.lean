import Octoscript.Lib.History
import Octoscript.Storage.AnchoredSqlite

namespace Octoscript

open Except Sqlite

inductive AnchoredEvent
  | stored (key : StorageRecordKey) (revision : UInt64) (fencingToken : Option UInt64)
  | fence (key : StorageRecordKey) (fencingToken : UInt64)

structure AnchoredState where
  anchor : StorageRecordKey → RollbackAnchorState
  rows : Rows
  candidates : List (StorageRecordKey × UInt64)
  unreported : StorageRecordKey → List ℕ
  events : List AnchoredEvent

inductive AnchoredRequest
  | load (key : StorageRecordKey)
  | compareAndSwap (key : StorageRecordKey) (expectedRevision : Option UInt64)
      (replacement : StoredRecord)
  | compareAndSwapFenced (key : StorageRecordKey) (expectedRevision : Option UInt64)
      (replacement : StoredRecord) (fencingToken : UInt64)
  | currentFence (key : StorageRecordKey)
  | reserveFence (key : StorageRecordKey)
  | establishFence (key : StorageRecordKey) (fencingToken : UInt64)
  | reserveRecoveryFence (key : StorageRecordKey)
  | discardUnanchoredCandidates (i : ℕ)

namespace AnchoredState

def initial : AnchoredState := ⟨fun _ => .initial, [], [], fun _ => [], []⟩

/-- The anchor moves; a new revision waits for its report. -/
def advance (s : AnchoredState) (key : StorageRecordKey) (next : RollbackAnchorState) :
    AnchoredState :=
  { s with
    anchor := Function.update s.anchor key next
    unreported := if next.revisionFloor = (s.anchor key).revisionFloor then s.unreported
      else Function.update s.unreported key (next.revisionFloor.toNat :: s.unreported key) }

def write (s : AnchoredState) (key : StorageRecordKey) (fence : UInt64) (rows : Rows) :
    AnchoredState :=
  { s with rows, candidates := (key, fence) :: s.candidates }

def report (s : AnchoredState) : Option AnchoredEvent → AnchoredState
  | none => s
  | some (.stored key revision token) =>
    { s with
      events := .stored key revision token :: s.events
      unreported := Function.update s.unreported key ((s.unreported key).erase revision.toNat) }
  | some (.fence key token) => { s with events := .fence key token :: s.events }

/-- The revisions of `key` that were reported as stored, newest first. -/
def storedRevisions (s : AnchoredState) (key : StorageRecordKey) : List ℕ :=
  s.events.filterMap fun
    | .stored k revision _ => if k = key then some revision.toNat else none
    | .fence .. => none

theorem le_advance {s : AnchoredState} {key : StorageRecordKey} {next : RollbackAnchorState}
    (h : s.anchor key ≤ next) (k : StorageRecordKey) :
    s.anchor k ≤ (s.advance key next).anchor k := by
  by_cases hk : k = key
  · subst hk
    simpa [advance] using h
  · simp [advance, hk]

end AnchoredState

theorem RollbackAnchorState.le_withFencingToken {state : RollbackAnchorState} {token : UInt64}
    (h : state.fencingToken < token) : state ≤ state.withFencingToken token :=
  ⟨UInt64.le_refl _, UInt64.le_of_lt h, fun _ => rfl⟩

theorem RollbackAnchorState.le_of_next {state next : RollbackAnchorState}
    (hrev : next.revisionFloor.toNat = state.revisionFloor.toNat + 1)
    (hfence : next.fencingToken = state.fencingToken) : state ≤ next := by
  refine ⟨UInt64.le_iff_toNat_le.mpr (by omega), hfence ▸ UInt64.le_refl _, fun heq => ?_⟩
  rw [heq] at hrev
  omega

namespace AnchoredSqliteStore
variable {P AE SE : Type}

/-- What the anchor and SQLite may answer. A discard needs the proviso at the moment its
transaction commits. -/
def Answers (proviso : AnchoredState → StorageRecordKey → RollbackAnchorState → Prop) (_ : P)
    (s : AnchoredState) : (op : SqliteOp) → op.Answer AE SE → AnchoredState → Prop
  | .anchorLoad key, answer, s' => (∀ state, answer = .ok state → state = s.anchor key) ∧ s' = s
  | .anchorCompareAndSwap key expected replacement, answer, s' =>
    (s.anchor key = expected ∧ (answer = .ok .stored ∨ ∃ e, answer = .error e) ∧
      s' = s.advance key replacement) ∨
    (s.anchor key ≠ expected ∧ answer = .ok (.conflict (s.anchor key)) ∧ s' = s) ∨
    (∃ e, answer = .error e) ∧ s' = s
  | .selectLength key revision commitment, answer, s' =>
    (∀ n, answer = .ok n → n = selectLength s.rows key revision commitment) ∧ s' = s
  | .selectRecord key revision commitment maximum, answer, s' =>
    (∀ b, answer = .ok b → b = selectRecord s.rows key revision commitment maximum) ∧ s' = s
  | .persistCandidate key current replacement commitment, answer, s' =>
    (∃ rows, (Sqlite.persistCandidate s.rows key current replacement commitment :
        Except (AnchoredSqliteStoreError AE SE) _) = .ok rows ∧
      (answer = .ok () ∨ ∃ e, answer = .error (.sqlite e)) ∧
      s' = s.write key current.fencingToken rows) ∨
    (∃ e, answer = .error e ∧ ((∃ e', e = .sqlite e') ∨
      Sqlite.persistCandidate s.rows key current replacement commitment = .error e)) ∧ s' = s
  | .discardUnanchored key current, answer, s' =>
    (proviso s key current ∧
      (answer = .ok (s.rows.length - (discardUnanchored s.rows key current).length) ∨
        ∃ e, answer = .error e) ∧
      s' = { s with rows := discardUnanchored s.rows key current }) ∨
    (∃ e, answer = .error e) ∧ s' = s

/-- A write that returned `Stored`. -/
def storedReport (key : StorageRecordKey) (token : Option UInt64) :
    Except (AnchoredSqliteStoreError AE SE) CompareAndSwapOutcome → Option AnchoredEvent
  | .ok (.stored revision) => some (.stored key revision token)
  | _ => none

def fenceReport {α : Type} (event : α → AnchoredEvent) :
    Except (AnchoredSqliteStoreError AE SE) α → Option AnchoredEvent
  | .ok a => some (event a)
  | .error _ => none

/-- The recovery fences a process holds. -/
abbrev Held := List AnchoredSqliteRecoveryFence

def hold [Blake3] (key : StorageRecordKey) : Call AE SE Held AnchoredSqliteRecoveryFence := do
  let recovery ← reserveRecoveryFence key
  Effectful.ofMut do
    let held ← Mut.self
    Mut.assign (recovery :: held)
  return recovery

/-- A recovery fence is used up by the discard it is given to. -/
def serve [Blake3] (held : Held) : AnchoredRequest →
    Prog SqliteOp (SqliteOp.Answer AE SE) (Option AnchoredEvent × Option Held)
  | .load key => (load key).answer (fun _ => none) held
  | .compareAndSwap key expected replacement =>
    (compareAndSwap key expected replacement).answer (storedReport key none) held
  | .compareAndSwapFenced key expected replacement token =>
    (compareAndSwapFenced key expected replacement token).answer (storedReport key (some token)) held
  | .currentFence key => (currentFence key).answer (fun _ => none) held
  | .reserveFence key => (reserveFence key).answer (fenceReport (.fence key)) held
  | .establishFence key token =>
    (establishFence key token).answer (fenceReport fun _ => .fence key token) held
  | .reserveRecoveryFence key =>
    (hold key).answer (fenceReport fun recovery => .fence key recovery.fencingToken) held
  | .discardUnanchoredCandidates i =>
    match held[i]? with
    | none => .done (none, some held)
    | some recovery =>
      (discardUnanchoredCandidates recovery).answer (fun _ => none) (held.eraseIdx i)

def system [Blake3] (P AE SE : Type)
    (proviso : AnchoredState → StorageRecordKey → RollbackAnchorState → Prop) :
    Interaction.System P AnchoredState SqliteOp (SqliteOp.Answer AE SE) Held
      (Option AnchoredEvent) AnchoredRequest where
  exec := Answers proviso
  start _ t := t = .done (none, some [])
  serve _ := serve
  record _ event s := s.report event

/-- No other fence has been reserved or established since the state was loaded. -/
def NoOtherFence (s : AnchoredState) (key : StorageRecordKey) (current : RollbackAnchorState) :
    Prop :=
  (s.anchor key).fencingToken = current.fencingToken

/-- Nor has a candidate been written under the recovery fence itself. -/
def QuietRecovery (s : AnchoredState) (key : StorageRecordKey) (current : RollbackAnchorState) :
    Prop :=
  NoOtherFence s key current ∧ (key, current.fencingToken) ∉ s.candidates

/-- A write under `token` has just been stored: its revision waits for the report. -/
def JustStored (key : StorageRecordKey) (token : Option UInt64) (revision : UInt64)
    (s : AnchoredState) : Prop :=
  revision.toNat ∈ s.unreported key ∧ revision = (s.anchor key).revisionFloor ∧
    ∀ t, token = some t → t = (s.anchor key).fencingToken

/-- An invariant, what a process may do to the shared state, what it knows once it has seen a
state anchored and once it has written the candidate that follows, and that each effect of a call
keeps to them. -/
structure Discipline (AE SE : Type)
    (proviso : AnchoredState → StorageRecordKey → RollbackAnchorState → Prop) where
  inv : AnchoredState → Prop
  may : AnchoredState → AnchoredState → Prop
  seen : StorageRecordKey → RollbackAnchorState → AnchoredState → Prop
  written : StorageRecordKey → RollbackAnchorState → UInt64 → RecordCommitment → AnchoredState →
    Prop
  may_refl : ∀ s, may s s
  may_report : ∀ s event, may s (s.report event)
  seen_anchor : ∀ s key, seen key (s.anchor key) s
  seen_stable : ∀ {key current s s'}, may s s' → seen key current s → seen key current s'
  seen_fence : ∀ {key current s}, seen key current s →
    current.fencingToken ≤ (s.anchor key).fencingToken
  written_stable : ∀ {key current revision commitment s s'},
    revision.toNat = current.revisionFloor.toNat + 1 → may s s' →
      written key current revision commitment s → written key current revision commitment s'
  write : ∀ {s key current replacement commitment rows}, inv s → seen key current s →
    replacement.revision.toNat = current.revisionFloor.toNat + 1 →
    (Sqlite.persistCandidate s.rows key current replacement commitment :
      Except (AnchoredSqliteStoreError AE SE) _) = .ok rows →
    inv (s.write key current.fencingToken rows) ∧ may s (s.write key current.fencingToken rows) ∧
      written key current replacement.revision commitment (s.write key current.fencingToken rows)
  discard : ∀ {s key current}, inv s → seen key current s → proviso s key current →
    inv { s with rows := discardUnanchored s.rows key current } ∧
      may s { s with rows := discardUnanchored s.rows key current }
  advanceFence : ∀ {s key token}, inv s → (s.anchor key).fencingToken < token →
    inv (s.advance key ((s.anchor key).withFencingToken token)) ∧
      may s (s.advance key ((s.anchor key).withFencingToken token))
  advanceRecord : ∀ {s key next commitment}, inv s →
    written key (s.anchor key) next.revisionFloor commitment s →
    next.revisionFloor.toNat = (s.anchor key).revisionFloor.toNat + 1 →
    next.recordCommitment = some commitment →
    next.fencingToken = (s.anchor key).fencingToken →
    inv (s.advance key next) ∧ may s (s.advance key next)
  reportFence : ∀ {s key token}, inv s → token ≤ (s.anchor key).fencingToken →
    inv (s.report (some (.fence key token)))
  reportStored : ∀ {s key revision token}, inv s → JustStored key token revision s →
    inv (s.report (some (.stored key revision token)))

section
variable [Blake3] {P AE SE : Type} [DecidableEq P]
  {proviso : AnchoredState → StorageRecordKey → RollbackAnchorState → Prop}

namespace Discipline
variable (D : Discipline AE SE proviso)

/-- The invariant is all that is known of a process at rest. -/
def outline (P : Type) [DecidableEq P] : Interaction.Outline (system P AE SE proviso) where
  inv := D.inv
  may _ := D.may
  unborn _ _ := True
  rest _ _ _ := True
  unborn_stable _ _ _ _ _ _ _ _ := trivial
  rest_stable _ _ _ _ _ _ _ _ _ := trivial

open Interaction.Rules

variable {α β : Type} {p : P} {held : Held} {s : AnchoredState} {key : StorageRecordKey}
  {current : RollbackAnchorState} {A : AnchoredState → Prop}

/-- An operation that only reads keeps what the others keep. -/
theorem meets_read {op : SqliteOp} {f : op.Answer AE SE → Call AE SE Held β}
    {ok : β → Held → AnchoredState → Prop} {err : AnchoredSqliteStoreError AE SE → Held → AnchoredState → Prop}
    (hstable : ∀ s s', D.may s s' → A s → A s') (hA : A s)
    (hread : ∀ s (a : op.Answer AE SE) s', Answers proviso p s op a s' → s' = s)
    (h : ∀ s', D.inv s' → A s' → ∀ a, Answers proviso p s' op a s' →
      (D.outline P).rules.Meets p ok err (f a) held s') :
    (D.outline P).rules.Meets p ok err (Effectful.perform op >>= f) held s := by
  apply meets_perform_bind A hA fun s s' _ _ _ hmay => hstable s s' hmay
  intro s' hinv hA a s'' ha
  obtain rfl := hread s' a s'' ha
  exact ⟨hinv, D.may_refl _, h s'' hinv hA a ha⟩

theorem meets_loadAnchorState (hstable : ∀ s s', D.may s s' → A s → A s') (hA : A s) :
    (D.outline P).rules.Meets p (fun state _ s' => D.inv s' ∧ A s' ∧ s'.anchor key = state)
      (fun _ _ => D.inv) (loadAnchorState key) held s := by
  refine D.meets_read hstable hA (fun _ _ _ h => h.2) fun s' hinv hA a ha => ?_
  refine meets_check (fun _ _ => hinv) fun state hstate => ⟨hinv, hA, ?_⟩
  exact (ha.1 state (mapError_ok_iff.mp hstate)).symm

theorem meets_recordAtAnchor {state : RollbackAnchorState}
    (hstable : ∀ s s', D.may s s' → A s → A s') (hinv : D.inv s) (hA : A s) :
    (D.outline P).rules.Meets p (fun _ _ s' => D.inv s' ∧ A s') (fun _ _ => D.inv)
      (recordAtAnchor key state) held s := by
  unfold recordAtAnchor
  cases state.recordCommitment with
  | none => exact meets_pure ⟨hinv, hA⟩
  | some commitment =>
    refine D.meets_read hstable hA (fun _ _ _ h => h.2) fun s' hinv hA a _ => ?_
    refine meets_check_bind (fun _ _ => hinv) fun _ _ => meets_check_bind (fun _ _ => hinv) fun _ _ =>
      meets_check_bind (fun _ _ => hinv) fun _ _ => ?_
    refine D.meets_read hstable hA (fun _ _ _ h => h.2) fun s'' hinv hA a _ => ?_
    exact meets_check_bind (fun _ _ => hinv) fun _ _ => meets_check_bind (fun _ _ => hinv) fun _ _ =>
      meets_check_bind (fun _ _ => hinv) fun _ _ => meets_pure ⟨hinv, hA⟩

theorem meets_checkedAnchorState : (D.outline P).rules.Meets p
    (fun state _ s' => D.inv s' ∧ D.seen key state s') (fun _ _ => D.inv) (checkedAnchorState key) held s := by
  refine meets_bind ((D.meets_loadAnchorState (A := fun _ => True) (fun _ _ _ _ => trivial)
    trivial).mono ?_ fun _ _ _ h => h)
  rintro state _ s' ⟨hinv, _, hstate⟩
  have hseen := hstate ▸ D.seen_anchor s' key
  refine meets_bind ((D.meets_recordAtAnchor (fun _ _ => D.seen_stable) hinv hseen).mono ?_
    fun _ _ _ h => h)
  rintro _ _ s'' ⟨hinv, hseen⟩
  exact meets_pure ⟨hinv, hseen⟩

/-- A swap of the anchor by a process that knows `A` of the shared state. -/
theorem meets_advanceAnchor {next : RollbackAnchorState} (stored : AnchoredState → Prop)
    (hstable : ∀ s s', D.may s s' → A s → A s') (hA : A s)
    (hadv : ∀ s, D.inv s → A s → s.anchor key = current → D.inv (s.advance key next) ∧
      D.may s (s.advance key next) ∧ stored (s.advance key next)) :
    (D.outline P).rules.Meets p
      (fun outcome _ s' => D.inv s' ∧ (outcome = .stored → stored s') ∧
        ∀ actual, outcome = .conflict actual → D.seen key actual s') (fun _ _ => D.inv)
      (advanceAnchor key current next) held s := by
  apply meets_perform_bind A hA fun s s' _ _ _ hmay => hstable s s' hmay
  intro s' hinv hA a s'' ha
  rcases ha with ⟨hcur, hans, rfl⟩ | ⟨_, rfl, rfl⟩ | ⟨⟨e, rfl⟩, rfl⟩
  · obtain ⟨hinv', hmay, hstored⟩ := hadv s' hinv hA hcur
    refine ⟨hinv', hmay, meets_check (fun _ _ => hinv') fun outcome hout => ⟨hinv', fun _ => hstored, ?_⟩⟩
    rintro actual rfl
    rw [mapError_ok_iff] at hout
    rcases hans with rfl | ⟨e, rfl⟩
    · exact nomatch hout
    · exact nomatch hout
  · refine ⟨hinv, D.may_refl _, meets_check (fun _ _ => hinv) fun outcome hout => ⟨hinv, ?_, ?_⟩⟩
    · rintro rfl
      exact nomatch mapError_ok_iff.mp hout
    · rintro actual rfl
      have hactual := ok.inj (mapError_ok_iff.mp hout)
      exact RollbackAnchorCompareAndSwapOutcome.conflict.inj hactual ▸ D.seen_anchor _ key
  · refine ⟨hinv, D.may_refl _, meets_check (fun _ _ => hinv) fun outcome hout => ?_⟩
    exact nomatch mapError_ok_iff.mp hout

theorem meets_advanceFence {token : UInt64} (hlt : current.fencingToken < token)
    (hseen : D.seen key current s) : (D.outline P).rules.Meets p
      (fun outcome _ s' => D.inv s' ∧
        (outcome = .stored → token ≤ (s'.anchor key).fencingToken) ∧
        ∀ actual, outcome = .conflict actual → D.seen key actual s') (fun _ _ => D.inv)
      (advanceAnchor key current (current.withFencingToken token)) held s := by
  refine D.meets_advanceAnchor (fun s => token ≤ (s.anchor key).fencingToken)
    (fun _ _ => D.seen_stable) hseen fun s hinv _ hcur => ?_
  subst hcur
  obtain ⟨hinv', hmay⟩ := D.advanceFence hinv hlt
  refine ⟨hinv', hmay, ?_⟩
  simp [AnchoredState.advance, RollbackAnchorState.withFencingToken]

theorem meets_reserveFenceIn (retries : ℕ) (hinv : D.inv s) : (D.outline P).rules.Meets p
    (fun token _ s' => D.inv s' ∧ token ≤ (s'.anchor key).fencingToken) (fun _ _ => D.inv)
    (reserveFenceIn key retries) held s := by
  induction retries generalizing s held with
  | zero => exact meets_check (fun _ _ => hinv) fun _ h => nomatch h
  | succ retries ih =>
    refine meets_bind (D.meets_checkedAnchorState.mono ?_ fun _ _ _ h => h)
    rintro current _ s' ⟨hinv, hseen⟩
    refine meets_check_bind (fun _ _ => hinv) fun token htoken => ?_
    rw [Option.okOr_ok_iff, UInt64.checkedSucc_eq_some_iff] at htoken
    have hlt : current.fencingToken < token := UInt64.lt_iff_toNat_lt.mpr (by omega)
    refine meets_bind ((D.meets_advanceFence hlt hseen).mono ?_ fun _ _ _ h => h)
    rintro (_ | actual) _ s'' ⟨hinv, hstored, _⟩
    · exact meets_pure ⟨hinv, hstored rfl⟩
    · exact ih hinv

theorem meets_establishFenceIn {token : UInt64} (retries : ℕ) (hinv : D.inv s) :
    (D.outline P).rules.Meets p
      (fun _ _ s' => D.inv s' ∧ token ≤ (s'.anchor key).fencingToken) (fun _ _ => D.inv)
      (establishFenceIn key token retries) held s := by
  induction retries generalizing s held with
  | zero => exact meets_check (fun _ _ => hinv) fun _ h => nomatch h
  | succ retries ih =>
    refine meets_bind (D.meets_checkedAnchorState.mono ?_ fun _ _ _ h => h)
    rintro current _ s' ⟨hinv, hseen⟩
    refine meets_check_bind (fun _ _ => hinv) fun _ hnot => ?_
    rw [rejectIf_ok_iff, UInt64.not_lt] at hnot
    split_ifs with heq
    · exact meets_pure ⟨hinv, heq ▸ D.seen_fence hseen⟩
    have hlt : current.fencingToken < token :=
      UInt64.lt_of_le_of_ne hnot (Ne.symm heq)
    refine meets_bind ((D.meets_advanceFence hlt hseen).mono ?_ fun _ _ _ h => h)
    rintro (_ | actual) _ s'' ⟨hinv, hstored, hconflict⟩
    · exact meets_pure ⟨hinv, hstored rfl⟩
    · refine meets_bind ((D.meets_recordAtAnchor (fun _ _ => D.seen_stable) hinv
        (hconflict actual rfl)).mono ?_ fun _ _ _ h => h)
      rintro _ _ s₃ ⟨hinv, hseen⟩
      refine meets_check_bind (fun _ _ => hinv) fun _ _ => ?_
      split_ifs with heq
      · exact meets_pure ⟨hinv, heq ▸ D.seen_fence hseen⟩
      · exact ih hinv

theorem meets_commitCandidate {replacement : StoredRecord} {commitment : RecordCommitment}
    {token : Option UInt64} (htoken : ∀ t, token = some t → t = current.fencingToken)
    (hrev : replacement.revision.toNat = current.revisionFloor.toNat + 1) (hinv : D.inv s)
    (hwritten : D.written key current replacement.revision commitment s) :
    (D.outline P).rules.Meets p
      (fun outcome _ s' => D.inv s' ∧
        ∀ revision, outcome = .stored revision → JustStored key token revision s')
      (fun _ _ => D.inv) (commitCandidate key current replacement commitment token) held s := by
  refine meets_check_bind (fun _ _ => hinv) fun next hnext => ?_
  rw [mapError_ok_iff] at hnext
  obtain ⟨hnextRevision, hnextCommitment, hnextFence⟩ := RollbackAnchorState.new_ok_iff.mp hnext
  have hne : next.revisionFloor ≠ current.revisionFloor := by
    rw [hnextRevision]
    intro heq
    rw [heq] at hrev
    omega
  refine meets_bind ((D.meets_advanceAnchor (JustStored key token replacement.revision)
    (fun _ _ => D.written_stable hrev) hwritten fun s hinv hwritten hcur => ?_).mono ?_
    fun _ _ _ h => h)
  · subst hcur
    obtain ⟨hinv', hmay⟩ := D.advanceRecord hinv (hnextRevision ▸ hwritten)
      (hnextRevision ▸ hrev) hnextCommitment hnextFence
    refine ⟨hinv', hmay, ?_, ?_, fun t ht => ?_⟩
    · rw [← hnextRevision]
      simp [AnchoredState.advance, hne]
    · simp [AnchoredState.advance, hnextRevision]
    · simp [AnchoredState.advance, hnextFence, htoken t ht]
  · rintro (_ | actual) _ s' ⟨hinv, hstored, hconflict⟩
    · refine meets_pure ⟨hinv, fun revision heq => ?_⟩
      obtain rfl := CompareAndSwapOutcome.stored.inj heq
      exact hstored rfl
    · refine meets_bind ((D.meets_recordAtAnchor (A := fun _ => True) (fun _ _ _ _ => trivial) hinv
        trivial).mono ?_ fun _ _ _ h => h)
      rintro _ _ s'' ⟨hinv, _⟩
      exact meets_check_bind (fun _ _ => hinv) fun _ _ => meets_pure ⟨hinv, fun _ h => nomatch h⟩

theorem meets_persistCandidate {replacement : StoredRecord} {commitment : RecordCommitment}
    (hrev : replacement.revision.toNat = current.revisionFloor.toNat + 1)
    (hseen : D.seen key current s) : (D.outline P).rules.Meets p
      (fun outcome _ s' => D.inv s' ∧ (outcome = .stored →
        D.written key current replacement.revision commitment s')) (fun _ _ => D.inv)
      (persistCandidate key current replacement commitment) held s := by
  refine meets_bind ((D.meets_loadAnchorState (fun _ _ => D.seen_stable) hseen).mono ?_ fun _ _ _ h => h)
  rintro actual _ s' ⟨hinv, hseen, _⟩
  split_ifs with hchanged
  · exact meets_pure ⟨hinv, fun h => nomatch h⟩
  apply meets_perform_bind (D.seen key current) hseen fun _ _ _ _ _ hmay => D.seen_stable hmay
  intro s₁ hinv hseen a s₂ ha
  rcases ha with ⟨rows, hpersist, _, rfl⟩ | ⟨⟨e, rfl, _⟩, rfl⟩
  · obtain ⟨hinv', hmay, hwritten⟩ := D.write hinv hseen hrev hpersist
    exact ⟨hinv', hmay, meets_check_bind (fun _ _ => hinv') fun _ _ => meets_pure ⟨hinv', fun _ => hwritten⟩⟩
  · exact ⟨hinv, D.may_refl _, meets_check_bind (fun _ _ => hinv) fun _ h => nomatch h⟩

theorem meets_compareAndSwapUnderFence {expected : Option UInt64} {replacement : StoredRecord}
    {token : Option UInt64} : (D.outline P).rules.Meets p
      (fun outcome _ s' => D.inv s' ∧
        ∀ revision, outcome = .stored revision → JustStored key token revision s')
      (fun _ _ => D.inv) (compareAndSwapUnderFence key expected replacement token) held s := by
  refine meets_bind (D.meets_checkedAnchorState.mono ?_ fun _ _ _ h => h)
  rintro current _ s' ⟨hinv, hseen⟩
  refine meets_check_bind (fun _ _ => hinv) fun _ hfence => ?_
  have htoken : ∀ t, token = some t → t = current.fencingToken := by
    rintro t rfl
    simp only [checkFence, bind_ok_iff, rejectIf_ok_iff, not_not] at hfence
    exact hfence.choose_spec.2
  split_ifs with hmat
  swap
  · exact meets_pure ⟨hinv, fun _ h => by cases h⟩
  refine meets_check_bind (fun _ _ => hinv) fun _ hvalid => ?_
  simp only [validateReplacement, bind_ok_iff, rejectIf_ok_iff, Option.okOr_ok_iff,
    UInt64.checkedSucc_eq_some_iff, not_not] at hvalid
  obtain ⟨_, _, next, hnext, hrev⟩ := hvalid
  refine meets_bind ((D.meets_persistCandidate (hrev ▸ hnext) hseen).mono ?_ fun _ _ _ h => h)
  rintro (_ | actual) _ s'' ⟨hinv, hwritten⟩
  · exact D.meets_commitCandidate htoken (hrev ▸ hnext) hinv (hwritten rfl)
  · refine meets_bind ((D.meets_recordAtAnchor (A := fun _ => True) (fun _ _ _ _ => trivial) hinv
      trivial).mono ?_ fun _ _ _ h => h)
    rintro _ _ s₃ ⟨hinv, _⟩
    exact meets_check_bind (fun _ _ => hinv) fun _ _ => meets_pure ⟨hinv, fun _ h => by cases h⟩

theorem meets_discardUnanchoredCandidates {recovery : AnchoredSqliteRecoveryFence} :
    (D.outline P).rules.Meets p (fun _ _ => D.inv) (fun _ _ => D.inv)
      (discardUnanchoredCandidates recovery) held s := by
  refine meets_bind (D.meets_checkedAnchorState.mono ?_ fun _ _ _ h => h)
  rintro current _ s' ⟨hinv, hseen⟩
  refine meets_check_bind (fun _ _ => hinv) fun _ _ => ?_
  apply meets_perform_bind (D.seen recovery.key current) hseen
    fun _ _ _ _ _ hmay => D.seen_stable hmay
  intro s₁ hinv hseen a s₂ ha
  rcases ha with ⟨hquiet, _, rfl⟩ | ⟨_, rfl⟩
  · obtain ⟨hinv', hmay⟩ := D.discard hinv hseen hquiet
    exact ⟨hinv', hmay, meets_check (fun _ _ => hinv') fun _ _ => hinv'⟩
  · exact ⟨hinv, D.may_refl _, meets_check (fun _ _ => hinv) fun _ _ => hinv⟩

theorem meets_hold (hinv : D.inv s) : (D.outline P).rules.Meets p
    (fun recovery _ s' => D.inv s' ∧ recovery.fencingToken ≤ (s'.anchor key).fencingToken)
    (fun _ _ => D.inv) (hold key) held s := by
  refine meets_bind (meets_bind ((D.meets_reserveFenceIn _ hinv).mono ?_ fun _ _ _ h => h))
  rintro token held' s' ⟨hinv, htoken⟩
  apply meets_pure
  refine meets_ofMut_bind (fun _ _ _ => ?_) fun _ _ h => ?_
  · exact meets_pure ⟨hinv, htoken⟩
  · simp at h

theorem post_report {event : Option AnchoredEvent} {o : Option Held} (hinv : D.inv (s.report event)) :
    (D.outline P).Post p (event, o) s := by
  exact ⟨hinv, D.may_report s event, fun _ _ => trivial⟩

/-- A call that reports nothing. -/
theorem ensures_silent {x : Call AE SE Held α}
    (h : (D.outline P).rules.Meets p (fun _ _ => D.inv) (fun _ _ => D.inv) x held s) :
    (D.outline P).rules.Ensures p ((D.outline P).Post p) (x.answer (fun _ => none) held) s :=
  Meets.answer h (fun _ _ _ hinv => D.post_report hinv) fun _ _ _ hinv => D.post_report hinv

theorem ensures_write {token : Option UInt64} {x : Call AE SE Held CompareAndSwapOutcome}
    (h : (D.outline P).rules.Meets p (fun outcome _ s' => D.inv s' ∧
      ∀ revision, outcome = .stored revision → JustStored key token revision s') (fun _ _ => D.inv) x
      held s) : (D.outline P).rules.Ensures p ((D.outline P).Post p)
        (x.answer (storedReport key token) held) s := by
  refine Meets.answer h ?_ fun _ _ _ hinv => D.post_report hinv
  rintro (revision | ⟨actual, floor⟩) held' s' ⟨hinv, hstored⟩
  · exact D.post_report (D.reportStored hinv (hstored revision rfl))
  · exact D.post_report hinv

theorem ensures_fence {token : α → UInt64} {x : Call AE SE Held α} (h : (D.outline P).rules.Meets p
      (fun a _ s' => D.inv s' ∧ token a ≤ (s'.anchor key).fencingToken) (fun _ _ => D.inv) x held s) :
    (D.outline P).rules.Ensures p ((D.outline P).Post p)
      (x.answer (fenceReport fun a => .fence key (token a)) held) s :=
  Meets.answer h (fun _ _ _ h => D.post_report (D.reportFence h.1 h.2)) fun _ _ _ hinv =>
    D.post_report hinv

theorem outline_valid : (D.outline P).Valid where
  start := by
    rintro p t s rfl hinv _
    exact D.post_report hinv
  serve := by
    intro p held request s hinv _
    have htrue (s s' : AnchoredState) (_ : D.may s s') (_ : True) : True := trivial
    cases request with
    | load key =>
      apply D.ensures_silent
      refine meets_bind ((D.meets_loadAnchorState htrue trivial).mono ?_ fun _ _ _ h => h)
      rintro state _ s' ⟨hinv, _⟩
      refine meets_bind ((D.meets_recordAtAnchor htrue hinv trivial).mono ?_ fun _ _ _ h => h)
      rintro _ _ s'' ⟨hinv, _⟩
      exact meets_pure hinv
    | compareAndSwap key expected replacement => exact D.ensures_write D.meets_compareAndSwapUnderFence
    | compareAndSwapFenced key expected replacement token =>
      exact D.ensures_write D.meets_compareAndSwapUnderFence
    | currentFence key =>
      apply D.ensures_silent
      refine meets_bind ((D.meets_loadAnchorState htrue trivial).mono ?_ fun _ _ _ h => h)
      rintro state _ s' ⟨hinv, _⟩
      exact meets_pure hinv
    | reserveFence key => exact D.ensures_fence (D.meets_reserveFenceIn _ hinv)
    | establishFence key token =>
      apply D.ensures_fence
      exact meets_check_bind (fun _ _ => hinv) fun _ _ => D.meets_establishFenceIn _ hinv
    | reserveRecoveryFence key => exact D.ensures_fence (D.meets_hold hinv)
    | discardUnanchoredCandidates i =>
      change (D.outline P).rules.Ensures p _ (match held[i]? with | none => _ | some recovery => _) s
      cases held[i]? with
      | none => exact D.post_report hinv
      | some recovery => exact D.ensures_silent D.meets_discardUnanchoredCandidates

end Discipline

open Interaction Interaction.System

variable {p : P} {held : Held} {s : AnchoredState} {key : StorageRecordKey}

omit [DecidableEq P] in
theorem runs_checkedAnchorState (h : (s.anchor key).recordCommitment = none) :
    (system P AE SE proviso).Runs p s (checkedAnchorState key held)
      (.ok (s.anchor key), held) s := by
  refine .perform (.ok (s.anchor key)) ⟨fun _ hstate => (ok.inj hstate).symm, rfl⟩ ?_
  have hrec : (recordAtAnchor key (s.anchor key) : Call AE SE Held _) = pure none := by
    rw [recordAtAnchor, h]
  change (system P AE SE proviso).Runs p s
    (((recordAtAnchor key (s.anchor key) : Call AE SE Held _) >>= fun _ => pure (s.anchor key)) held)
    _ _
  rw [hrec]
  exact .done

omit [DecidableEq P] in
/-- A fence is reserved at the first attempt. -/
theorem runs_reserveFence {token : UInt64} (h : (s.anchor key).recordCommitment = none)
    (htoken : (s.anchor key).fencingToken.checkedSucc = some token) :
    (system P AE SE proviso).Runs p s (reserveFence key held) (.ok token, held)
      (s.advance key ((s.anchor key).withFencingToken token)) := by
  refine Runs.bind (runs_checkedAnchorState h) ?_
  change (system P AE SE proviso).Runs p s ((Effectful.check _ >>= fun fencingToken => _) held) _ _
  rw [htoken]
  exact .perform (.ok .stored) (Or.inl ⟨rfl, Or.inl rfl, rfl⟩) .done

omit [DecidableEq P] in
theorem runs_hold {token : UInt64} (h : (s.anchor key).recordCommitment = none)
    (htoken : (s.anchor key).fencingToken.checkedSucc = some token) :
    (system P AE SE proviso).Runs p s (hold key held) (.ok ⟨key, token⟩, ⟨key, token⟩ :: held)
      (s.advance key ((s.anchor key).withFencingToken token)) :=
  Runs.bind (Runs.bind (runs_reserveFence h htoken) .done) .done

omit [DecidableEq P] in
theorem runs_discard {recovery : AnchoredSqliteRecoveryFence}
    (h : (s.anchor recovery.key).recordCommitment = none)
    (htoken : recovery.fencingToken = (s.anchor recovery.key).fencingToken)
    (hproviso : proviso s recovery.key (s.anchor recovery.key)) :
    (system P AE SE proviso).Runs p s (discardUnanchoredCandidates recovery held)
      (.ok (s.rows.length -
        (discardUnanchored s.rows recovery.key (s.anchor recovery.key)).length), held)
      { s with rows := discardUnanchored s.rows recovery.key (s.anchor recovery.key) } := by
  refine Runs.bind (runs_checkedAnchorState h) ?_
  have hcheck : (rejectIf (recovery.fencingToken ≠ (s.anchor recovery.key).fencingToken)
      (.fencingTokenRejected (s.anchor recovery.key).fencingToken recovery.fencingToken) :
      Except (AnchoredSqliteStoreError AE SE) Unit) = .ok () := if_neg (not_not.mpr htoken)
  change (system P AE SE proviso).Runs p s ((Effectful.check _ >>= fun _ => _) held) _ _
  rw [hcheck]
  exact .perform (.ok _) (Or.inl ⟨hproviso, Or.inl rfl, rfl⟩) .done

/-- What a first write needs to reach the anchor. -/
structure FirstWrite (AE SE : Type) (s : AnchoredState) (key : StorageRecordKey)
    (replacement : StoredRecord) (token : Option UInt64) (rows : Rows)
    (next : RollbackAnchorState) : Prop where
  new : (s.anchor key).recordCommitment = none
  fence : (checkFence (s.anchor key) token : Except (AnchoredSqliteStoreError AE SE) _) = .ok ()
  valid : (validateReplacement (s.anchor key) replacement :
    Except (AnchoredSqliteStoreError AE SE) _) = .ok ()
  persist : (Sqlite.persistCandidate s.rows key (s.anchor key) replacement
    (recordCommitment key replacement) : Except (AnchoredSqliteStoreError AE SE) _) = .ok rows
  next : (s.anchor key).withRecordCommitment replacement.revision
    (recordCommitment key replacement) = .ok next

variable {replacement : StoredRecord} {token : Option UInt64} {rows : Rows}
  {next : RollbackAnchorState}

omit [DecidableEq P] in
/-- The candidate is written, and the process is about to move the anchor to it. -/
theorem FirstWrite.pauses (h : FirstWrite AE SE s key replacement token rows next) :
    (system P AE SE proviso).Pauses p s (compareAndSwapUnderFence key none replacement token held)
      (.anchorCompareAndSwap key (s.anchor key) next)
      (fun answer => (Effectful.check (answer.mapError .anchor) >>=
        finishCommit key replacement token) held)
      (s.write key (s.anchor key).fencingToken rows) := by
  have hmat : expectedMatches (s.anchor key) none = true :=
    decide_eq_true ((s.anchor key).valid.mpr h.new)
  have hpersist : (system P AE SE proviso).Runs p s
      (persistCandidate key (s.anchor key) replacement (recordCommitment key replacement) held)
      (.ok .stored, held) (s.write key (s.anchor key).fencingToken rows) := by
    refine .perform (.ok (s.anchor key)) ⟨fun _ hstate => (ok.inj hstate).symm, rfl⟩ ?_
    change (system P AE SE proviso).Runs p s ((if s.anchor key ≠ s.anchor key then _ else _ :
      Call AE SE Held _) held) _ _
    rw [if_neg (not_not.mpr rfl)]
    exact .perform (.ok ()) (Or.inl ⟨rows, h.persist, Or.inl rfl, rfl⟩) .done
  refine Runs.pauses (runs_checkedAnchorState h.new) ?_
  change (system P AE SE proviso).Pauses p s ((Effectful.check _ >>= fun _ => _) held) _ _ _
  rw [h.fence]
  change (system P AE SE proviso).Pauses p s ((if ¬_ then _ else _ : Call AE SE Held _) held) _ _ _
  rw [if_neg (not_not.mpr hmat)]
  change (system P AE SE proviso).Pauses p s ((Effectful.check _ >>= fun _ => _) held) _ _ _
  rw [h.valid]
  change (system P AE SE proviso).Pauses p s
    ((persistCandidate key (s.anchor key) replacement _ >>= fun _ => _) held) _ _ _
  refine Runs.pauses hpersist ?_
  change (system P AE SE proviso).Pauses p _ ((Effectful.check _ >>= fun _ => _) held) _ _ _
  rw [h.next]
  exact .here

omit [DecidableEq P] in
/-- The anchor moves to the candidate. -/
theorem FirstWrite.runs (h : FirstWrite AE SE s key replacement token rows next) :
    (system P AE SE proviso).Runs p s (compareAndSwapUnderFence key none replacement token held)
      (.ok (.stored replacement.revision), held)
      ((s.write key (s.anchor key).fencingToken rows).advance key next) :=
  h.pauses.runs (.ok .stored) (Or.inl ⟨rfl, Or.inl rfl, rfl⟩) .done

/-- An empty record is the first candidate of a key. -/
theorem firstWrite_empty {fence : UInt64} (hanchor : s.anchor key = ⟨0, none, fence, by decide⟩)
    (hrows : s.rows = [])
    (hfence : (checkFence (s.anchor key) token : Except (AnchoredSqliteStoreError AE SE) _) = .ok ()) :
    FirstWrite AE SE s key ⟨1, []⟩ token [⟨key, 1, recordCommitment key ⟨1, []⟩, []⟩]
      ⟨1, some (recordCommitment key ⟨1, []⟩), fence, by simp⟩ where
  new := by rw [hanchor]
  fence := hfence
  valid := by
    rw [hanchor]
    rfl
  persist := by
    rw [hanchor, hrows]
    rfl
  next := by
    rw [hanchor]
    exact RollbackAnchorState.new_ok_iff.mpr ⟨rfl, rfl, rfl⟩

end

end AnchoredSqliteStore

end Octoscript
