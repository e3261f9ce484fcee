import Octoscript.Storage.Volatile

namespace Octoscript

/-- The hash of the exact persisted record. -/
abbrev RecordCommitment := Digest

inductive RollbackAnchorStateError
  | missingRecordCommitment
  | unexpectedRecordCommitment
  deriving DecidableEq

/-- A revision floor, the commitment of the record at that revision, and the current
fencing token. Exactly the floor zero carries no commitment. -/
@[ext]
structure RollbackAnchorState where
  revisionFloor : UInt64
  recordCommitment : Option RecordCommitment
  fencingToken : UInt64
  valid : revisionFloor = 0 ↔ recordCommitment = none
  deriving DecidableEq

namespace RollbackAnchorState

def initial : RollbackAnchorState := ⟨0, none, 0, by decide⟩

def new (revisionFloor : UInt64) (recordCommitment : Option RecordCommitment)
    (fencingToken : UInt64) : Except RollbackAnchorStateError RollbackAnchorState :=
  if h : revisionFloor = 0 ↔ recordCommitment = none then
    .ok ⟨revisionFloor, recordCommitment, fencingToken, h⟩
  else if revisionFloor = 0 then .error .unexpectedRecordCommitment
  else .error .missingRecordCommitment

theorem new_ok_iff {revision fence : UInt64} {commitment : Option RecordCommitment}
    {s : RollbackAnchorState} : new revision commitment fence = .ok s ↔
      s.revisionFloor = revision ∧ s.recordCommitment = commitment ∧ s.fencingToken = fence := by
  unfold new
  constructor
  · intro h
    split_ifs at h
    obtain rfl := Except.ok.inj h
    exact ⟨rfl, rfl, rfl⟩
  · rintro ⟨rfl, rfl, rfl⟩
    rw [dif_pos s.valid]

def withFencingToken (self : RollbackAnchorState) (fencingToken : UInt64) : RollbackAnchorState :=
  { self with fencingToken }

def withRecordCommitment (self : RollbackAnchorState) (revisionFloor : UInt64)
    (recordCommitment : RecordCommitment) : Except RollbackAnchorStateError RollbackAnchorState :=
  new revisionFloor (some recordCommitment) self.fencingToken

/-- An anchor may move from one state to a later one: neither the floor nor the fence
falls, and the commitment changes only with the floor. -/
instance : LE RollbackAnchorState where
  le a b := a.revisionFloor ≤ b.revisionFloor ∧ a.fencingToken ≤ b.fencingToken ∧
    (a.revisionFloor = b.revisionFloor → a.recordCommitment = b.recordCommitment)

instance : DecidableLE RollbackAnchorState := fun _ _ => inferInstanceAs (Decidable (_ ∧ _))

theorem le_trans' {a b c : RollbackAnchorState} (h : a ≤ b) (h' : b ≤ c) : a ≤ c := by
  obtain ⟨hrev, hfence, hsame⟩ := h
  obtain ⟨hrev', hfence', hsame'⟩ := h'
  refine ⟨UInt64.le_trans hrev hrev', UInt64.le_trans hfence hfence', fun heq => ?_⟩
  -- The floor in between is squeezed, so neither move changed the commitment.
  have hb : a.revisionFloor = b.revisionFloor := UInt64.le_antisymm hrev (heq ▸ hrev')
  exact (hsame hb).trans (hsame' (hb.symm.trans heq))

instance : PartialOrder RollbackAnchorState where
  le_refl a := ⟨UInt64.le_refl _, UInt64.le_refl _, fun _ => rfl⟩
  le_trans _ _ _ := le_trans'
  le_antisymm a b h h' := by
    have hrev := UInt64.le_antisymm h.1 h'.1
    exact RollbackAnchorState.ext hrev (h.2.2 hrev) (UInt64.le_antisymm h.2.1 h'.2.1)

theorem initial_le (s : RollbackAnchorState) : initial ≤ s := by
  refine ⟨UInt64.zero_le, UInt64.zero_le, fun h => ?_⟩
  exact (s.valid.mp h.symm).symm

end RollbackAnchorState

inductive RollbackAnchorStateTransitionError
  | revisionRegressed
  | fencingTokenRegressed
  | commitmentChangedWithoutRevision
  deriving DecidableEq

def validateStateTransition (previous next : RollbackAnchorState) :
    Except RollbackAnchorStateTransitionError Unit := do
  rejectIf (next.revisionFloor < previous.revisionFloor) .revisionRegressed
  rejectIf (next.fencingToken < previous.fencingToken) .fencingTokenRegressed
  rejectIf (next.revisionFloor = previous.revisionFloor ∧
    next.recordCommitment ≠ previous.recordCommitment) .commitmentChangedWithoutRevision

/-- The check accepts exactly the moves of the order. -/
theorem validateStateTransition_ok_iff {previous next : RollbackAnchorState} {u : Unit} :
    validateStateTransition previous next = .ok u ↔ previous ≤ next := by
  simp only [validateStateTransition, Except.bind_ok_iff, Except.rejectIf_ok_iff, UInt64.not_lt,
    not_and, not_not, exists_const]
  constructor
  · rintro ⟨hrev, hfence, hsame⟩
    exact ⟨hrev, hfence, fun h => (hsame h.symm).symm⟩
  · rintro ⟨hrev, hfence, hsame⟩
    exact ⟨hrev, hfence, fun h => (hsame h.symm).symm⟩

inductive RollbackAnchorCompareAndSwapOutcome
  | stored
  | conflict (actual : RollbackAnchorState)
  deriving DecidableEq

/-- A host-provided anchor with state `A` and error `E`. -/
class RollbackAnchor (A : Type) (E : outParam Type) where
  load : A → StorageRecordKey → Except E RollbackAnchorState
  compareAndSwap : StorageRecordKey → RollbackAnchorState → RollbackAnchorState →
    Mut A E RollbackAnchorCompareAndSwapOutcome

/-- What an anchor promises: `load` shows the current state, a swap is stored only over
the current state and only for a later one, a conflict changes nothing, and whatever
fails never moves a state back. A request that could not be stored changes nothing. -/
structure CorrectAnchor (A E : Type) [RollbackAnchor A E] where
  current : A → StorageRecordKey → RollbackAnchorState
  load_eq : ∀ a key s, RollbackAnchor.load a key = .ok s → s = current a key
  stored_eq : ∀ a a' key expected replacement,
    (RollbackAnchor.compareAndSwap key expected replacement).Returns a .stored a' →
      expected = current a key ∧ expected ≤ replacement ∧
        current a' = Function.update (current a) key replacement
  conflict_eq : ∀ a a' key expected replacement actual,
    (RollbackAnchor.compareAndSwap key expected replacement).Returns a (.conflict actual) a' →
      actual = current a key ∧ a' = a
  fails_le : ∀ a a' key expected replacement e,
    (RollbackAnchor.compareAndSwap key expected replacement).Fails a e a' →
      ∀ k, current a k ≤ current a' k
  refused_eq : ∀ a a' key expected replacement r,
    RollbackAnchor.compareAndSwap key expected replacement a = (r, a') →
      expected ≠ current a key ∨ ¬expected ≤ replacement → a' = a

inductive VolatileRollbackAnchorError
  | revisionRegressed (current replacement : UInt64)
  | fencingTokenRegressed (current replacement : UInt64)
  | commitmentChangedWithoutRevision
  deriving DecidableEq

structure VolatileRollbackAnchor where
  states : Std.ExtTreeMap StorageRecordKey RollbackAnchorState

namespace VolatileRollbackAnchor

def empty : VolatileRollbackAnchor := ⟨∅⟩

def state (self : VolatileRollbackAnchor) (key : StorageRecordKey) : RollbackAnchorState :=
  (self.states[key]?).getD .initial

def load (self : VolatileRollbackAnchor) (key : StorageRecordKey) :
    Except VolatileRollbackAnchorError RollbackAnchorState :=
  .ok (self.state key)

/-- Replaces `actual`, the current state. -/
def advance (key : StorageRecordKey) (actual replacement : RollbackAnchorState) :
    Mut VolatileRollbackAnchor VolatileRollbackAnchorError RollbackAnchorCompareAndSwapOutcome := do
  rejectIf (replacement.revisionFloor < actual.revisionFloor)
    (.revisionRegressed actual.revisionFloor replacement.revisionFloor)
  rejectIf (replacement.fencingToken < actual.fencingToken)
    (.fencingTokenRegressed actual.fencingToken replacement.fencingToken)
  rejectIf (replacement.revisionFloor = actual.revisionFloor ∧
    replacement.recordCommitment ≠ actual.recordCommitment) .commitmentChangedWithoutRevision
  let self ← Mut.self
  Mut.assign ⟨self.states.insert key replacement⟩
  return .stored

def compareAndSwap (key : StorageRecordKey) (expected replacement : RollbackAnchorState) :
    Mut VolatileRollbackAnchor VolatileRollbackAnchorError RollbackAnchorCompareAndSwapOutcome := do
  let self ← Mut.self
  let actual := self.state key
  if actual ≠ expected then return .conflict actual
  advance key actual replacement

instance : RollbackAnchor VolatileRollbackAnchor VolatileRollbackAnchorError := ⟨load, compareAndSwap⟩

theorem compareAndSwap_eq (self : VolatileRollbackAnchor) (key : StorageRecordKey)
    (expected replacement : RollbackAnchorState) : compareAndSwap key expected replacement self =
      if self.state key ≠ expected then (.ok (.conflict (self.state key)), self)
      else advance key (self.state key) replacement self := by
  simp only [compareAndSwap, bind, Mut.self]
  split_ifs <;> rfl

theorem state_insert (self : VolatileRollbackAnchor) (key : StorageRecordKey)
    (s : RollbackAnchorState) :
    (⟨self.states.insert key s⟩ : VolatileRollbackAnchor).state =
      Function.update self.state key s := by
  funext k
  by_cases hk : k = key
  · subst hk
    simp [state]
  · have hne : key ≠ k := Ne.symm hk
    simp [state, Function.update_of_ne hk, Std.ExtTreeMap.getElem?_insert, hne]

theorem returns_advance {self self' : VolatileRollbackAnchor} {key : StorageRecordKey}
    {actual replacement : RollbackAnchorState} {o : RollbackAnchorCompareAndSwapOutcome} :
    (advance key actual replacement).Returns self o self' ↔
      actual ≤ replacement ∧ o = .stored ∧ self' = ⟨self.states.insert key replacement⟩ := by
  simp only [advance, Mut.returns_bind, Mut.returns_rejectIf, Mut.returns_self, Mut.returns_assign,
    Mut.returns_pure, UInt64.not_lt, not_and, not_not]
  constructor
  · rintro ⟨_, _, ⟨hrev, rfl⟩, _, _, ⟨hfence, rfl⟩, _, _, ⟨hsame, rfl⟩, _, _, ⟨rfl, rfl⟩, _, _, rfl,
      rfl, rfl⟩
    exact ⟨⟨hrev, hfence, fun h => (hsame h.symm).symm⟩, rfl, rfl⟩
  · rintro ⟨⟨hrev, hfence, hsame⟩, rfl, rfl⟩
    exact ⟨(), _, ⟨hrev, rfl⟩, (), _, ⟨hfence, rfl⟩, (), _, ⟨fun h => (hsame h.symm).symm, rfl⟩, _, _,
      ⟨rfl, rfl⟩, (), _, rfl, rfl, rfl⟩

theorem keepsOnError_advance (key : StorageRecordKey) (actual replacement : RollbackAnchorState) :
    (advance key actual replacement).KeepsOnError :=
  Mut.keepsOnError_rejectIf_bind <| Mut.keepsOnError_rejectIf_bind <|
    Mut.keepsOnError_rejectIf_bind <| Mut.keepsOnError_self_bind fun _ _ _ _ h => by
      simp at h

/-- A swap is stored over the current state, or changes nothing. -/
theorem compareAndSwap_cases {self self' : VolatileRollbackAnchor} {key : StorageRecordKey}
    {expected replacement : RollbackAnchorState}
    {r : Except VolatileRollbackAnchorError RollbackAnchorCompareAndSwapOutcome}
    (h : compareAndSwap key expected replacement self = (r, self')) :
    (r = .ok .stored ∧ expected = self.state key ∧ expected ≤ replacement ∧
      self' = ⟨self.states.insert key replacement⟩) ∨
    (self' = self ∧ (∀ o, r = .ok o → o = .conflict (self.state key))) := by
  rw [compareAndSwap_eq] at h
  split_ifs at h with hexp
  · obtain ⟨rfl, rfl⟩ := Prod.mk.inj h
    exact Or.inr ⟨rfl, fun o ho => (Except.ok.inj ho).symm⟩
  · rw [not_not] at hexp
    cases r with
    | ok o =>
      obtain ⟨hle, rfl, rfl⟩ := returns_advance.mp h
      exact Or.inl ⟨rfl, hexp.symm, hexp ▸ hle, rfl⟩
    | error e => exact Or.inr ⟨keepsOnError_advance _ _ _ self e self' h, fun _ h => nomatch h⟩

/-- The in-memory anchor keeps the promise. -/
def correct : CorrectAnchor VolatileRollbackAnchor VolatileRollbackAnchorError where
  current := state
  load_eq self key s h := (Except.ok.inj h).symm
  stored_eq self self' key expected replacement h := by
    rcases compareAndSwap_cases h with ⟨_, hexpected, hle, rfl⟩ | ⟨_, hconflict⟩
    · exact ⟨hexpected, hle, state_insert self key replacement⟩
    · exact nomatch hconflict _ rfl
  conflict_eq self self' key expected replacement actual h := by
    rcases compareAndSwap_cases h with ⟨hstored, _⟩ | ⟨rfl, hconflict⟩
    · exact nomatch hstored
    · have hactual := hconflict _ rfl
      exact ⟨RollbackAnchorCompareAndSwapOutcome.conflict.inj hactual, rfl⟩
  fails_le self self' key expected replacement e h k := by
    rcases compareAndSwap_cases h with ⟨hstored, _⟩ | ⟨rfl, _⟩
    · exact nomatch hstored
    · exact le_refl _
  refused_eq self self' key expected replacement r h hrefused := by
    rcases compareAndSwap_cases h with ⟨_, hexpected, hle, _⟩ | ⟨hsame, _⟩
    · rcases hrefused with hne | hnot
      · exact absurd hexpected hne
      · exact absurd hle hnot
    · exact hsame

end VolatileRollbackAnchor

end Octoscript
