import Octoscript.Storage.Authenticated

namespace Octoscript
open Wire AuthenticatedStore StorageKeyring

namespace HostileBackend

/-- A record that `load` returned, with the trusted floor it was read under. -/
structure LoadEvent where
  key : StorageRecordKey
  record : AuthenticatedRecord
  floor : UInt64

/-- The trusted floors, the sealed records the backend was handed, the floor each
holder read last, and the loads that succeeded. -/
structure Vault (P : Type) where
  floor : StorageRecordKey → UInt64
  handed : List (StorageRecordKey × StoredRecord)
  lastFloor : P → UInt64
  loads : List LoadEvent

/-- What a holder is asked to do. A key that joins a ring is a held one. -/
inductive Request (Held : StorageKey → Prop)
  | load (key : StorageRecordKey)
  | compareAndSwap (key : StorageRecordKey) (expectedRevision : Option UInt64) (payload : Bytes)
  | currentFence (key : StorageRecordKey)
  | reserveFence (key : StorageRecordKey)
  | compareAndSwapFenced (key : StorageRecordKey) (expectedRevision : Option UInt64)
      (payload : Bytes) (fencingToken : UInt64)
  | addReadKey (keyId : StorageKeyId) (key : Subtype Held)
  | rotateTo (keyId : StorageKeyId) (key : Subtype Held)
  | retire (keyId : StorageKeyId)

inductive Outcome
  | loaded (key : StorageRecordKey) (record : AuthenticatedRecord)
  | other

section
variable [Blake3] [EnvelopeReader] {P E : Type}
variable {payload : Bytes} {key : StorageRecordKey} {expected : Option UInt64}

/-- A holder has released a tag over `input` under `storageKey`. -/
def Tagged (handed : List (StorageRecordKey × StoredRecord)) (storageKey : StorageKey)
    (input : Bytes) : Prop :=
  ∃ key keyId revision payload,
    (key, sealedRecord storageKey keyId key revision payload) ∈ handed ∧
    authenticatedRecordInput key authenticatedRecordFormatVersion keyId revision payload = input

/-- If the record verifies at `key` under a held key, its bytes were tagged with it. -/
def Unforged (Held : StorageKey → Prop) (handed : List (StorageRecordKey × StoredRecord))
    (key : StorageRecordKey) (record : StoredRecord) : Prop :=
  ∀ storageKey opened, Held storageKey → Verifies storageKey key record opened →
    Tagged handed storageKey (authenticatedRecordInput key authenticatedRecordFormatVersion
      opened.keyId opened.revision opened.payload)

/-- The backend's choices. Floors may move at any call. -/
def Answers [DecidableEq P] (Held : StorageKey → Prop) (p : P) (s : Vault P) :
    (op : BackendOp) → op.Answer E → Vault P → Prop
  | .load key, answer, s' =>
    (∀ snapshot : StorageSnapshot, answer = .ok snapshot → snapshot.revisionFloor = s.floor key ∧
      ∀ record ∈ snapshot.record, Unforged Held s.handed key record) ∧
    ∃ floor, s' = { s with floor, lastFloor := Function.update s.lastFloor p (s.floor key) }
  | .compareAndSwap key _ replacement, _, s' =>
    ∃ floor, s' = { s with floor, handed := (key, replacement) :: s.handed }
  | .compareAndSwapFenced key _ replacement _, _, s' =>
    ∃ floor, s' = { s with floor, handed := (key, replacement) :: s.handed }
  | .currentFence _, _, s' => ∃ floor, s' = { s with floor }
  | .reserveFence _, _, s' => ∃ floor, s' = { s with floor }
  | .establishFence _ _, _, s' => ∃ floor, s' = { s with floor }

def loadOutcome (key : StorageRecordKey) :
    Except (AuthenticatedStoreError E) (Option AuthenticatedRecord) → Outcome
  | .ok (some record) => .loaded key record
  | _ => .other

def serve (Held : StorageKey → Prop) (ring : StorageKeyring) :
    Request Held → Prog BackendOp (BackendOp.Answer E) (Outcome × Option StorageKeyring)
  | .load key => (load key).answer (loadOutcome key) ring
  | .compareAndSwap key expected payload =>
    (compareAndSwap key expected payload).answer (fun _ => .other) ring
  | .currentFence key => (currentFence key).answer (fun _ => .other) ring
  | .reserveFence key => (reserveFence key).answer (fun _ => .other) ring
  | .compareAndSwapFenced key expected payload token =>
    (compareAndSwapFenced key expected payload token).answer (fun _ => .other) ring
  | .addReadKey keyId key =>
    (Effectful.ofMut (addReadKey keyId key)).answer (fun _ => .other) ring
  | .rotateTo keyId key =>
    (Effectful.ofMut (rotateTo keyId key)).answer (fun _ => .other) ring
  | .retire keyId => (Effectful.ofMut (retire keyId)).answer (fun _ => .other) ring

/-- Every key of the ring is a held one. -/
def AllHeld (Held : StorageKey → Prop) (ring : StorageKeyring) : Prop :=
  ∀ keyId key, ring.verificationKey keyId = some key → Held key

def system [DecidableEq P] (Held : StorageKey → Prop) : Interaction.System P (Vault P) BackendOp
    (BackendOp.Answer E) StorageKeyring Outcome (Request Held) where
  exec := Answers Held
  start _ t := ∃ ring, AllHeld Held ring ∧ t = .done (.other, some ring)
  serve _ := serve Held
  record p outcome s := match outcome with
    | .loaded key record => { s with loads := ⟨key, record, s.lastFloor p⟩ :: s.loads }
    | .other => s

/-- No record sealed yet, no load made, any floors. -/
def initial (floor : StorageRecordKey → UInt64) (lastFloor : P → UInt64) : Vault P :=
  ⟨floor, [], lastFloor, []⟩

/-- The record is what `seal` gives for some payload within the limit. -/
def Sealed (key : StorageRecordKey) (record : StoredRecord) : Prop :=
  ∃ storageKey keyId revision payload, payload.length ≤ maxAuthenticatedPayloadBytes ∧
    record = sealedRecord storageKey keyId key revision payload

/-- A holder has sealed the payload for this place and revision. -/
def WasSealed (handed : List (StorageRecordKey × StoredRecord)) (key : StorageRecordKey)
    (revision : UInt64) (payload : Bytes) : Prop :=
  ∃ storageKey keyId, (key, sealedRecord storageKey keyId key revision payload) ∈ handed

structure Inv (s : Vault P) : Prop where
  handed : ∀ e ∈ s.handed, Sealed e.1 e.2
  loads : ∀ e ∈ s.loads, e.record.revision = e.floor ∧
    WasSealed s.handed e.key e.record.revision e.record.payload

omit [EnvelopeReader] in
theorem WasSealed.cons {handed : List (StorageRecordKey × StoredRecord)}
    {revision : UInt64} (h : WasSealed handed key revision payload)
    (e : StorageRecordKey × StoredRecord) : WasSealed (e :: handed) key revision payload := by
  obtain ⟨storageKey, keyId, hmem⟩ := h
  exact ⟨storageKey, keyId, List.mem_cons_of_mem _ hmem⟩

omit [EnvelopeReader] in
theorem Inv.hand {s : Vault P} {record : StoredRecord} (h : Inv s)
    (hsealed : Sealed key record) (floor : StorageRecordKey → UInt64) :
    Inv { s with floor, handed := (key, record) :: s.handed } where
  handed := by
    rintro e he
    rcases List.mem_cons.mp he with rfl | he
    · exact hsealed
    · exact h.handed e he
  loads e he := ⟨(h.loads e he).1, (h.loads e he).2.cons _⟩

/-- The tag that verifies was released for this very place, revision and payload:
the tagged bytes name them. -/
theorem wasSealed_of_unforged {Held : StorageKey → Prop} {s : Vault P}
    {record : StoredRecord} {ring : StorageKeyring} {opened : AuthenticatedRecord} (hinv : Inv s)
    (hring : AllHeld Held ring) (hunforged : Unforged Held s.handed key record)
    (hopen : (openRecord ring key record : Except (AuthenticatedStoreError E) _) = .ok opened) :
    WasSealed s.handed key opened.revision opened.payload := by
  obtain ⟨_, _, _, hsize, storageKey, hkey, hverifies⟩ := openRecord_ok_iff.mp hopen
  obtain ⟨key', keyId, revision, payload, hmem, hinput⟩ :=
    hunforged storageKey opened (hring _ _ hkey) hverifies
  obtain ⟨_, _, _, payload', hbound, hrec⟩ := hinv.handed _ hmem
  obtain ⟨_, _, rfl⟩ := sealedRecord_inj hrec
  have hlimit : maxAuthenticatedPayloadBytes < 2 ^ 64 := by decide
  obtain ⟨rfl, _, _, rfl, rfl⟩ := (authenticatedRecordInput_inj (lt_of_le_of_lt hbound hlimit)
    (lt_of_le_of_lt hsize hlimit)).mp hinput
  exact ⟨storageKey, keyId, hmem⟩

variable [DecidableEq P] {Held : StorageKey → Prop}

/-- A write hands over a sealed record. -/
def Safe : BackendOp → Prop
  | .compareAndSwap key _ replacement => Sealed key replacement
  | .compareAndSwapFenced key _ replacement _ => Sealed key replacement
  | _ => True

theorem Inv.answers {p : P} {s s' : Vault P} {op : BackendOp} {a : op.Answer E} (h : Inv s)
    (hsafe : Safe op) (ha : Answers Held p s op a s') : Inv s' := by
  cases op with
  | load key =>
    obtain ⟨_, floor, rfl⟩ := ha
    exact ⟨h.handed, h.loads⟩
  | compareAndSwap key expected replacement =>
    obtain ⟨floor, rfl⟩ := ha
    exact h.hand hsafe floor
  | compareAndSwapFenced key expected replacement token =>
    obtain ⟨floor, rfl⟩ := ha
    exact h.hand hsafe floor
  | currentFence key =>
    obtain ⟨floor, rfl⟩ := ha
    exact ⟨h.handed, h.loads⟩
  | reserveFence key =>
    obtain ⟨floor, rfl⟩ := ha
    exact ⟨h.handed, h.loads⟩
  | establishFence key token =>
    obtain ⟨floor, rfl⟩ := ha
    exact ⟨h.handed, h.loads⟩

/-- The invariant is all that is shared; a holder at rest has only held keys. -/
def outline (P E : Type) [DecidableEq P] (Held : StorageKey → Prop) :
    Interaction.Outline (system (P := P) (E := E) Held) where
  inv := Inv
  may _ _ _ := True
  unborn _ _ := True
  rest _ ring _ := AllHeld Held ring
  unborn_stable _ _ _ _ _ _ _ _ := trivial
  rest_stable _ _ _ _ _ _ _ _ h := h

/-- A holder between calls. -/
def Fine (Held : StorageKey → Prop) (ring : StorageKeyring) (s : Vault P) : Prop :=
  AllHeld Held ring ∧ Inv s

open Interaction.Rules

variable {p : P} {ring : StorageKeyring} {s : Vault P} {key : StorageRecordKey}

theorem meets_backend {op : BackendOp} {ok : op.Reply → StorageKeyring → Vault P → Prop}
    (hring : AllHeld Held ring) (hsafe : Safe op)
    (hok : ∀ s' reply s'', Inv s' → Inv s'' → Answers (E := E) Held p s' op (.ok reply) s'' →
      ok reply ring s'') :
    (outline P E Held).rules.Meets p ok (fun _ => Fine Held) (backend op) ring s := by
  apply meets_perform_bind (fun _ => True) trivial (fun _ _ _ _ _ _ _ => trivial)
  intro s' hs' _ a s'' ha
  have hs'' := Inv.answers hs' hsafe ha
  refine ⟨hs'', trivial, meets_check (fun _ _ => ⟨hring, hs''⟩) fun reply hreply => ?_⟩
  rw [Except.mapError_ok_iff] at hreply
  exact hok s' reply s'' hs' hs'' (hreply ▸ ha)

theorem meets_load (hring : AllHeld Held ring) : (outline P E Held).rules.Meets p
    (fun loaded ring' s' => Fine Held ring' s' ∧ ∀ opened, loaded = some opened →
      opened.revision = s'.lastFloor p ∧ WasSealed s'.handed key opened.revision opened.payload)
    (fun _ => Fine Held) (load key) ring s := by
  apply meets_self_bind
  refine meets_bind (meets_backend hring trivial fun s' snapshot s'' hs' hs'' ha => ?_)
  refine meets_check (fun _ _ => ⟨hring, hs''⟩) fun loaded hopen => ⟨⟨hring, hs''⟩, ?_⟩
  rintro opened rfl
  obtain ⟨hans, floor, rfl⟩ := ha
  obtain ⟨hfloor, hunforged⟩ := hans snapshot rfl
  obtain ⟨record, hrec, hrevision, hopened⟩ := openSnapshot_ok_some_iff.mp hopen
  obtain ⟨_, _, hrev, _⟩ := openRecord_ok_iff.mp hopened
  refine ⟨?_, wasSealed_of_unforged hs'' hring (hunforged record hrec) hopened⟩
  rw [hrev, hrevision, hfloor]
  exact (Function.update_self p _ s'.lastFloor).symm

theorem meets_prepareCompareAndSwap (h : Fine Held ring s) : (outline P E Held).rules.Meets p
    (fun prepared ring' s' => Fine Held ring' s' ∧ Sealed key prepared.2) (fun _ => Fine Held)
    (prepareCompareAndSwap key expected payload) ring s := by
  apply meets_self_bind
  refine meets_check_bind (fun _ _ => h) fun _ hsize => ?_
  refine meets_bind (meets_backend h.1 trivial fun _ snapshot s'' _ hs'' _ => ?_)
  have h'' : Fine Held ring s'' := ⟨h.1, hs''⟩
  refine meets_check (fun _ _ => h'') fun prepared hprepared => ⟨h'', ?_⟩
  obtain ⟨_, _, hsealed, _⟩ := prepareReplacement_ok_iff.mp hprepared
  exact ⟨_, _, _, payload, not_lt.mp (Except.rejectIf_ok_iff.mp hsize), hsealed⟩

theorem meets_compareAndSwap (h : Fine Held ring s) :
    (outline P E Held).rules.Meets p (fun _ => Fine Held) (fun _ => Fine Held)
      (compareAndSwap key expected payload) ring s := by
  apply meets_self_bind
  refine meets_bind ((meets_prepareCompareAndSwap h).mono ?_ fun _ _ _ h => h)
  rintro ⟨revision, replacement⟩ ring' s' ⟨h', hsealed⟩
  refine meets_bind (meets_backend h'.1 hsealed fun _ outcome s'' _ hs'' _ => ?_)
  exact meets_check (fun _ _ => ⟨h'.1, hs''⟩) fun _ _ => ⟨h'.1, hs''⟩

theorem meets_compareAndSwapFenced {token : UInt64}
    (h : Fine Held ring s) : (outline P E Held).rules.Meets p (fun _ => Fine Held) (fun _ => Fine Held)
      (compareAndSwapFenced key expected payload token) ring s := by
  apply meets_self_bind
  refine meets_bind (meets_backend h.1 trivial fun _ _ s₁ _ hs₁ _ => ?_)
  refine meets_bind ((meets_prepareCompareAndSwap ⟨h.1, hs₁⟩).mono ?_ fun _ _ _ h => h)
  rintro ⟨revision, replacement⟩ ring' s' ⟨h', hsealed⟩
  refine meets_bind (meets_backend h'.1 hsealed fun _ outcome s'' _ hs'' _ => ?_)
  exact meets_check (fun _ _ => ⟨h'.1, hs''⟩) fun _ _ => ⟨h'.1, hs''⟩

end

section
variable {Held : StorageKey → Prop} {ring ring' : StorageKeyring} {keyId : StorageKeyId} {u : Unit}

theorem AllHeld.insertKey (h : AllHeld Held ring) (keyId : StorageKeyId) (key : Subtype Held) :
    AllHeld Held (ring.insertKey keyId key) := by
  intro id k hk
  rw [verificationKey_insertKey] at hk
  split_ifs at hk with hid
  · cases hk
    exact key.2
  · exact h id k hk

theorem AllHeld.activate (h : AllHeld Held ring) (keyId : StorageKeyId) :
    AllHeld Held (ring.activate keyId) := by
  intro id k hk
  rw [verificationKey_activate] at hk
  exact h id k hk

theorem AllHeld.eraseKey (h : AllHeld Held ring) (keyId : StorageKeyId) :
    AllHeld Held (ring.eraseKey keyId) := by
  intro id k hk
  rw [verificationKey_eraseKey] at hk
  split_ifs at hk
  exact h id k hk

end

section
variable [Blake3] [EnvelopeReader] {P E : Type} [DecidableEq P] {Held : StorageKey → Prop}
  {p : P} {ring : StorageKeyring} {s : Vault P}

open Interaction.Rules

theorem post_other (h : Fine Held ring s) : (outline P E Held).Post p (.other, some ring) s :=
  ⟨h.2, trivial, fun _ hring => Option.some.inj hring ▸ h.1⟩

theorem ensures_call {ε α : Type} {x : Effectful BackendOp (BackendOp.Answer E) StorageKeyring ε α}
    (h : (outline P E Held).rules.Meets p (fun _ => Fine Held) (fun _ => Fine Held) x ring s) :
    (outline P E Held).rules.Ensures p ((outline P E Held).Post p)
      (x.answer (fun _ => .other) ring) s :=
  Meets.answer h (fun _ _ _ h => post_other h) (fun _ _ _ h => post_other h)

/-- A key ring change that keeps held keys keeps everything. -/
theorem ensures_ringCall {x : Call} (h : Fine Held ring s) (hkeep : x.KeepsOnError)
    (hok : ∀ u ring', x.Returns ring u ring' → AllHeld Held ring') :
    (outline P E Held).rules.Ensures p ((outline P E Held).Post p)
      ((Effectful.ofMut x).answer (fun _ => .other) ring) s := by
  apply ensures_call
  refine ⟨fun u hu => ⟨hok u _ (Prod.ext hu rfl), h.2⟩, fun e he => ?_⟩
  have hsame : (x ring).2 = ring := hkeep ring e _ (Prod.ext he rfl)
  exact hsame.symm ▸ h

theorem outline_valid : (outline P E Held).Valid where
  start := by
    rintro p t s ⟨ring, hring, rfl⟩ hinv _
    exact post_other ⟨hring, hinv⟩
  serve := by
    intro p ring request s hinv hring
    have h : Fine Held ring s := ⟨hring, hinv⟩
    cases request with
    | load key =>
      refine (meets_load hring).answer ?_ fun _ _ _ h => post_other h
      rintro (_ | opened) ring' s' ⟨h', hopened⟩
      · exact post_other h'
      · refine ⟨⟨h'.2.handed, ?_⟩, trivial, fun _ hring => Option.some.inj hring ▸ h'.1⟩
        intro e he
        rcases List.mem_cons.mp he with rfl | he
        · exact hopened opened rfl
        · exact h'.2.loads e he
    | compareAndSwap key expected payload => exact ensures_call (meets_compareAndSwap h)
    | compareAndSwapFenced key expected payload token =>
      exact ensures_call (meets_compareAndSwapFenced h)
    | currentFence key =>
      apply ensures_call
      exact meets_backend hring trivial fun _ _ _ _ hs _ => ⟨hring, hs⟩
    | reserveFence key =>
      apply ensures_call
      exact meets_backend hring trivial fun _ _ _ _ hs _ => ⟨hring, hs⟩
    | addReadKey keyId key =>
      refine ensures_ringCall h (keepsOnError_addReadKey _ _) fun _ _ hret => ?_
      obtain ⟨_, rfl⟩ := returns_addReadKey.mp hret
      exact hring.insertKey keyId key
    | rotateTo keyId key =>
      refine ensures_ringCall h (keepsOnError_rotateTo _ _) fun _ _ hret => ?_
      obtain ⟨_, rfl⟩ := returns_rotateTo.mp hret
      exact (hring.insertKey keyId key).activate keyId
    | retire keyId =>
      refine ensures_ringCall h (keepsOnError_retire _) fun _ _ hret => ?_
      obtain ⟨_, _, rfl⟩ := returns_retire.mp hret
      exact hring.eraseKey keyId

/-- Whatever the backend answers, a record that `load` returns was sealed for exactly
its place and revision, and its revision is the trusted floor. The tagged bytes
determine place, format, key identifier, revision and payload. -/
theorem load_authentic {floor : StorageRecordKey → UInt64} {lastFloor : P → UInt64}
    {c : Interaction.Config P (Vault P) BackendOp (BackendOp.Answer E) StorageKeyring Outcome}
    (h : (system Held).Reachable (initial floor lastFloor) c) :
    (∀ e ∈ c.shared.loads, e.record.revision = e.floor ∧
      WasSealed c.shared.handed e.key e.record.revision e.record.payload) ∧
    ∀ key key' version version' keyId keyId' revision revision' (payload payload' : Bytes),
      payload.length < 2 ^ 64 → payload'.length < 2 ^ 64 →
      (authenticatedRecordInput key version keyId revision payload =
        authenticatedRecordInput key' version' keyId' revision' payload' ↔
      key = key' ∧ version = version' ∧ keyId = keyId' ∧ revision = revision' ∧
        payload = payload') := by
  have hinv : Inv (initial floor lastFloor) := ⟨by simp [initial], by simp [initial]⟩
  exact ⟨(outline_valid.reachable _ hinv (fun _ => trivial) h).1.loads,
    fun _ _ _ _ _ _ _ _ _ _ hp hp' => authenticatedRecordInput_inj hp hp'⟩

open Interaction Interaction.System

variable {key : StorageRecordKey} {payload : Bytes} {record : StoredRecord}
  {opened : AuthenticatedRecord} (Held)

/-- Giving back a sealed record at its own place forges nothing. -/
theorem unforged_of_handed {handed : List (StorageRecordKey × StoredRecord)}
    {storageKey : StorageKey} {keyId : StorageKeyId} {revision : UInt64}
    (hread : EnvelopeReader.fromSlice (sealedRecord storageKey keyId key revision payload).bytes =
      some (sealedEnvelope storageKey keyId key revision payload))
    (hmem : (key, sealedRecord storageKey keyId key revision payload) ∈ handed) :
    Unforged (· = storageKey) handed key (sealedRecord storageKey keyId key revision payload) := by
  rintro _ opened rfl ⟨authTag, hfrom, _⟩
  rw [hread, sealedEnvelope, Option.some.injEq, StoredEnvelope.mk.injEq] at hfrom
  obtain ⟨_, hkeyId, hrev, hpay, _⟩ := hfrom
  have hpay' := Base64.encode_injective (String.ofList_injective hpay)
  rw [← StorageKeyId.ext hkeyId, ← hrev, ← hpay']
  exact ⟨key, keyId, revision, payload, hmem, rfl⟩

theorem runs_create {s : Vault P} (hfloor : s.floor key = 0)
    (hsize : payload.length ≤ maxAuthenticatedPayloadBytes)
    (hprepared : (prepareReplacement ring key none payload ⟨none, 0⟩ :
      Except (AuthenticatedStoreError E) _) = .ok (1, record)) :
    (system (E := E) Held).Runs p s (serve Held ring (.compareAndSwap key none payload))
      (.other, some ring)
      ⟨fun _ => 1, (key, record) :: s.handed, Function.update s.lastFloor p 0, s.loads⟩ := by
  refine Runs.bind (a := (.ok ⟨1, ring.activeKeyId, payload⟩, ring)) ?_ .done
  rw [compareAndSwap_eq ring hsize]
  refine .perform (.ok ⟨none, 0⟩) ⟨?_, s.floor, rfl⟩ ?_
  · intro snapshot hsnap
    have hs : snapshot = ⟨none, 0⟩ := (Except.ok.inj hsnap).symm
    rw [hs, hfloor]
    exact ⟨rfl, fun _ h => nomatch h⟩
  · rw [Except.mapError_ok_bind, hprepared]
    refine .perform (.ok (.stored 1)) ⟨fun _ => 1, ?_⟩ .done
    rw [hfloor]

theorem runs_load {s : Vault P} (hfloor : s.floor key = record.revision)
    (hunforged : Unforged Held s.handed key record)
    (hopen : (openRecord ring key record : Except (AuthenticatedStoreError E) _) = .ok opened) :
    (system (E := E) Held).Runs p s (serve Held ring (.load key))
      (.loaded key opened, some ring)
      { s with lastFloor := Function.update s.lastFloor p record.revision } := by
  have hsnap : (openSnapshot ring key ⟨some record, record.revision⟩ :
      Except (AuthenticatedStoreError E) _) = .ok (some opened) :=
    openSnapshot_ok_some_iff.mpr ⟨record, rfl, rfl, hopen⟩
  refine Runs.bind (a := (.ok (some opened), ring)) ?_ .done
  rw [load_eq ring]
  refine .perform (.ok ⟨some record, record.revision⟩) ⟨?_, s.floor, rfl⟩ ?_
  · intro snapshot hs
    rw [← Except.ok.inj hs, hfloor]
    exact ⟨rfl, fun _ h => Option.some.inj h ▸ hunforged⟩
  · rw [Except.mapError_ok_bind, hsnap, hfloor]
    exact .done

theorem reachable_create_load (floor : StorageRecordKey → UInt64) (lastFloor : P → UInt64)
    (p : P) (hfloor : floor key = 0) (hring : AllHeld Held ring)
    (hsize : payload.length ≤ maxAuthenticatedPayloadBytes)
    (hprepared : (prepareReplacement ring key none payload ⟨none, 0⟩ :
      Except (AuthenticatedStoreError E) _) = .ok (1, record))
    (hunforged : Unforged Held [(key, record)] key record) (hrev : record.revision = 1)
    (hopen : (openRecord ring key record : Except (AuthenticatedStoreError E) _) = .ok opened) :
    ∃ c, (system (E := E) Held).Reachable (initial floor lastFloor) c ∧
      c.shared.loads = [⟨key, opened, record.revision⟩] := by
  have hcreate := runs_create Held (p := p) (s := initial floor lastFloor) hfloor hsize
    hprepared
  have hload := runs_load Held (p := p)
    (s := ⟨fun _ => 1, [(key, record)], Function.update lastFloor p 0, []⟩) hrev.symm
    hunforged hopen
  have h₁ := Reachable.spawn (Y := system (E := E) Held) (p := p)
    (Reachable.start (initial floor lastFloor)) rfl ⟨ring, hring, rfl⟩ .done rfl
  have h₂ := Reachable.serve (Request.compareAndSwap key none payload) h₁
    (Function.update_self ..) hcreate rfl
  have h₃ := Reachable.serve (Request.load key) h₂ (Function.update_self ..) hload rfl
  refine ⟨_, h₃, ?_⟩
  simp [system]

end

open Interaction.System in
/-- A holder creates a record and loads it back. -/
theorem load_authentic_of_create :
    ∃ (_ : Blake3) (_ : EnvelopeReader) (Held : StorageKey → Prop)
      (c : Interaction.Config Unit (Vault Unit) BackendOp (BackendOp.Answer Unit) StorageKeyring
        Outcome),
      (system Held).Reachable (initial (fun _ => 0) (fun _ => 0)) c ∧ c.shared.loads.length = 1 ∧
      ∀ e ∈ c.shared.loads, e.record.revision = e.floor ∧
        WasSealed c.shared.handed e.key e.record.revision e.record.payload := by
  -- The keyed digest of the one input that is tagged in this run.
  let digest : Digest := ⟨[150, 196, 69, 207, 244, 134, 251, 213, 233, 37, 49, 227, 139, 58, 99, 27,
    246, 48, 74, 217, 27, 2, 251, 65, 87, 120, 51, 202, 243, 96, 39, 229], rfl⟩
  let _ : Blake3 := ⟨fun _ => digest, fun _ _ => digest⟩
  let storageKey : StorageKey := ⟨1 :: List.replicate 31 0, rfl⟩
  let keyId : StorageKeyId := ⟨"key-1", by decide +kernel⟩
  let key : StorageRecordKey := ⟨"workflow-ledger", "run", by decide +kernel, by decide +kernel⟩
  let ring := new keyId storageKey
  let record := sealedRecord storageKey keyId key 1 (utf8 "v1")
  let _ : EnvelopeReader := ⟨fun bytes => if bytes = record.bytes then
    some (sealedEnvelope storageKey keyId key 1 (utf8 "v1")) else none⟩
  have hopen : (openRecord ring key record : Except (AuthenticatedStoreError Unit) _) =
      .ok ⟨1, keyId, utf8 "v1"⟩ := by decide +kernel
  have hprepared : (prepareReplacement ring key none (utf8 "v1") ⟨none, 0⟩ :
      Except (AuthenticatedStoreError Unit) _) = .ok (1, record) := by decide +kernel
  have hring : AllHeld (· = storageKey) ring := by
    intro id k hk
    simp only [ring, new, verificationKey,
      Std.ExtTreeMap.getElem?_insert] at hk
    split_ifs at hk
    · exact (Option.some.inj hk).symm
    · simp at hk
  have hunforged : Unforged (· = storageKey) [(key, record)] key record :=
    unforged_of_handed (if_pos rfl) (List.mem_singleton.mpr rfl)
  obtain ⟨c, hc, hloads⟩ := reachable_create_load _ (fun _ => 0) (fun _ => 0) () rfl hring
    (by decide) hprepared hunforged rfl hopen
  exact ⟨_, _, _, c, hc, by rw [hloads]; rfl, (load_authentic hc).1⟩

end HostileBackend

end Octoscript
