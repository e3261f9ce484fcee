import Octoscript.Storage.Volatile

namespace Octoscript
open Wire AuthenticatedStore Function StorageKeyring VolatileMemoryStore

/-- A write that succeeded: the payload it was called with and the key that seals it. -/
structure Write where
  payload : Bytes
  keyId : StorageKeyId

/-- A store, its backend, and the successful writes to each record, newest first. -/
structure Ledger (B : Type) where
  ring : StorageKeyring
  backend : B
  writes : StorageRecordKey → List Write

inductive LedgerCall
  | compareAndSwap (key : StorageRecordKey) (expectedRevision : Option UInt64) (payload : Bytes)
  | addReadKey (keyId : StorageKeyId) (key : StorageKey)
  | rotateTo (keyId : StorageKeyId) (key : StorageKey)
  | retire (keyId : StorageKeyId)

namespace Ledger
variable {B E : Type}

/-- Notes a write that returned a record. -/
def note (writes : StorageRecordKey → List Write) (key : StorageRecordKey) (payload : Bytes) :
    Except (AuthenticatedStoreError E) AuthenticatedRecord → StorageRecordKey → List Write
  | .ok record => update writes key (⟨payload, record.keyId⟩ :: writes key)
  | .error _ => writes

theorem note_of_ne (writes : StorageRecordKey → List Write) {key key' : StorageRecordKey}
    (h : key ≠ key') (payload : Bytes)
    (result : Except (AuthenticatedStoreError E) AuthenticatedRecord) :
    note writes key' payload result key = writes key := by
  cases result with
  | ok record => exact update_of_ne h _ _
  | error e => rfl

section
variable [Blake3] [EnvelopeReader] (C : CorrectBackend B E)

/-- Runs a method of the store to its end. -/
def run {α : Type} (w : Ledger B) (x : Call E α) :
    (Except (AuthenticatedStoreError E) α × StorageKeyring) × B :=
  (x w.ring).run C.answer w.backend

def apply (w : Ledger B) : LedgerCall → Ledger B
  | .compareAndSwap key expected payload =>
    let result := w.run C (AuthenticatedStore.compareAndSwap key expected payload)
    ⟨result.1.2, result.2, note w.writes key payload result.1.1⟩
  | .addReadKey keyId key => { w with ring := (addReadKey keyId key w.ring).2 }
  | .rotateTo keyId key => { w with ring := (rotateTo keyId key w.ring).2 }
  | .retire keyId => { w with ring := (retire keyId w.ring).2 }

/-- No key is retired while it seals the current record at `key`. -/
def Allowed (key : StorageRecordKey) (w : Ledger B) : LedgerCall → Prop
  | .retire keyId => ∀ last ∈ (w.writes key).head?, last.keyId ≠ keyId
  | _ => True

def Step (key : StorageRecordKey) (w w' : Ledger B) : Prop :=
  ∃ call, Allowed key w call ∧ w' = w.apply C call

/-- What `load` should return: the last write, numbered by how many there were. -/
def current (writes : List Write) : Option AuthenticatedRecord :=
  writes.head?.map fun last => ⟨UInt64.ofNat writes.length, last.keyId, last.payload⟩

/-- The backend holds the sealed last write of `key`, and its key is in the ring. -/
structure Inv (key : StorageRecordKey) (w : Ledger B) : Prop where
  valid : C.Valid w.backend
  bound : (w.writes key).length < 2 ^ 64
  empty : w.writes key = [] → C.record w.backend key = none
  last : ∀ last ∈ (w.writes key).head?, last.payload.length ≤ maxAuthenticatedPayloadBytes ∧
    ∃ storageKey, w.ring.verificationKey last.keyId = some storageKey ∧
      C.record w.backend key = some (sealedRecord storageKey last.keyId key
        (UInt64.ofNat (w.writes key).length) last.payload)

end

section
variable [Blake3] [EnvelopeReader] {C : CorrectBackend B E} {w : Ledger B} {key : StorageRecordKey}

/-- The snapshot that a valid backend gives for `key`. -/
def snapshot (C : CorrectBackend B E) (w : Ledger B) (key : StorageRecordKey) : StorageSnapshot :=
  ⟨C.record w.backend key, ((C.record w.backend key).map (·.revision)).getD 0⟩

theorem run_compareAndSwap_eq {expected : Option UInt64} {payload : Bytes}
    (hvalid : C.Valid w.backend) (hsize : payload.length ≤ maxAuthenticatedPayloadBytes) :
    w.run C (compareAndSwap key expected payload) =
      (swapPrepared w.ring key expected payload
        (prepareReplacement w.ring key expected payload (snapshot C w key))).run C.answer
        w.backend := by
  rw [run, compareAndSwap_eq w.ring hsize, Prog.run, C.load_eq _ key hvalid,
    Except.mapError_ok_bind]
  rfl

omit [Blake3] [EnvelopeReader] in
/-- A prepared write at the backend's own revision is stored. -/
theorem run_swapPrepared {expected : Option UInt64} {payload : Bytes} {revision : UInt64}
    {replacement : StoredRecord} (hvalid : C.Valid w.backend)
    (hcur : (C.record w.backend key).map (·.revision) = expected)
    (hrev : revision.toNat = (expected.getD 0).toNat + 1)
    (hnumber : replacement.revision = revision) :
    ∃ b, (swapPrepared w.ring key expected payload (.ok (revision, replacement))).run C.answer
        w.backend = ((.ok ⟨revision, w.ring.activeKeyId, payload⟩, w.ring), b) ∧ C.Valid b ∧
      C.record b = update (C.record w.backend) key (some replacement) := by
  obtain ⟨b, hans, hb, hrec⟩ := C.stored_eq w.backend key expected replacement hvalid
    hcur (hnumber ▸ hrev)
  refine ⟨b, ?_, hb, hrec⟩
  rw [swapPrepared, Prog.run, hans, hnumber, Except.mapError_ok_bind,
    finishCompareAndSwap_stored]
  rfl

/-- A write that does not return a record changes nothing; one that does has replaced
exactly the expected revision by the next. -/
theorem run_compareAndSwap (key : StorageRecordKey) (expected : Option UInt64) (payload : Bytes)
    (hvalid : C.Valid w.backend) :
    (∃ e, w.run C (compareAndSwap key expected payload) = ((.error e, w.ring), w.backend)) ∨
    ∃ revision b, w.run C (compareAndSwap key expected payload) =
        ((.ok ⟨revision, w.ring.activeKeyId, payload⟩, w.ring), b) ∧
      payload.length ≤ maxAuthenticatedPayloadBytes ∧
      expected = (C.record w.backend key).map (·.revision) ∧
      revision.toNat = (expected.getD 0).toNat + 1 ∧ C.Valid b ∧
      C.record b = update (C.record w.backend) key
        (some (sealedRecord w.ring.activeKey w.ring.activeKeyId key revision payload)) := by
  rcases Nat.lt_or_ge maxAuthenticatedPayloadBytes payload.length with hsize | hsize
  · rw [run, compareAndSwap_oversized w.ring hsize]
    exact Or.inl ⟨_, rfl⟩
  rw [run_compareAndSwap_eq hvalid hsize]
  rcases hprepared : prepareReplacement w.ring key expected payload _ with e | ⟨revision, replacement⟩
  · exact Or.inl ⟨e, rfl⟩
  obtain ⟨_, hrev, hrepl, _⟩ := prepareReplacement_ok_iff.mp hprepared
  have hnumber : replacement.revision = revision := by rw [hrepl, sealedRecord]
  by_cases hcur : (C.record w.backend key).map (·.revision) = expected
  · obtain ⟨b, hrun, hb, hrec⟩ := run_swapPrepared hvalid hcur hrev hnumber
    exact Or.inr ⟨revision, b, hrun, hsize, hcur.symm, hrev, hb, hrepl ▸ hrec⟩
  · left
    rw [swapPrepared, Prog.run, C.conflict_eq w.backend key expected replacement hvalid hcur,
      Except.mapError_ok_bind]
    obtain ⟨e, he⟩ := finishCompareAndSwap_conflict w.ring expected _ revision _ payload
    rw [he]
    exact ⟨e, rfl⟩

omit [EnvelopeReader] in
theorem Inv.revision_eq (h : Inv C key w) :
    (C.record w.backend key).map (·.revision) = (current (w.writes key)).map (·.revision) := by
  cases hw : w.writes key with
  | nil => simp [h.empty hw, current]
  | cons last older =>
    obtain ⟨_, storageKey, _, hrec⟩ := h.last last (by simp [hw])
    simp [hrec, sealedRecord, current, hw]

omit [EnvelopeReader] in
/-- The backend's revision counts the writes. -/
theorem Inv.revision (h : Inv C key w) :
    (((C.record w.backend key).map fun r : StoredRecord => r.revision).getD 0).toNat =
      (w.writes key).length := by
  have hbound := h.bound
  rw [h.revision_eq]
  cases hw : w.writes key with
  | nil => rfl
  | cons last older =>
    rw [hw] at hbound
    exact UInt64.toNat_ofNat_of_lt' hbound

omit [EnvelopeReader] in
theorem Inv.ringChange (h : Inv C key w) {ring : StorageKeyring}
    (hkeep : ∀ last ∈ (w.writes key).head?, ∀ k, w.ring.verificationKey last.keyId = some k →
      ring.verificationKey last.keyId = some k) : Inv C key { w with ring } where
  valid := h.valid
  bound := h.bound
  empty := h.empty
  last last hlast := by
    obtain ⟨hsize, storageKey, hkey, hrec⟩ := h.last last hlast
    exact ⟨hsize, storageKey, hkeep last hlast storageKey hkey, hrec⟩

theorem Inv.swap (h : Inv C key w) (key' : StorageRecordKey) (expected : Option UInt64)
    (payload : Bytes) : Inv C key (w.apply C (.compareAndSwap key' expected payload)) := by
  rcases run_compareAndSwap key' expected payload h.valid with ⟨e, hrun⟩ |
    ⟨revision, b, hrun, hsize, hexp, hrev, hvalid, hrec⟩
  · rw [apply, hrun]
    exact h
  · rw [apply, hrun]
    by_cases hkey : key = key'
    · subst hkey
      rw [hexp, h.revision] at hrev
      have hbound : (w.writes key).length + 1 < 2 ^ 64 := hrev ▸ revision.toNat_lt
      have hnumber : UInt64.ofNat ((w.writes key).length + 1) = revision :=
        UInt64.toNat_inj.mp ((UInt64.toNat_ofNat_of_lt' hbound).trans hrev.symm)
      refine ⟨hvalid, by simpa [note] using hbound, by simp [note], ?_⟩
      simp only [note, update_self, List.head?_cons, Option.mem_some_iff,
        List.length_cons, forall_eq']
      exact ⟨hsize, w.ring.activeKey, w.ring.verificationKey_active, by
        rw [hrec, update_self, hnumber]⟩
    · have hother : C.record b key = C.record w.backend key := by
        rw [hrec, update_of_ne hkey]
      exact ⟨hvalid, by simpa only [note_of_ne _ hkey] using h.bound,
        by simpa only [note_of_ne _ hkey, hother] using h.empty,
        by simpa only [note_of_ne _ hkey, hother] using h.last⟩

theorem Inv.step (h : Inv C key w) {w' : Ledger B} (hstep : Step C key w w') : Inv C key w' := by
  obtain ⟨call, hallowed, rfl⟩ := hstep
  cases call with
  | compareAndSwap key' expected payload => exact h.swap key' expected payload
  | addReadKey keyId k =>
    exact h.ringChange fun _ _ _ hk => verificationKey_of_addReadKey hk
  | rotateTo keyId k =>
    exact h.ringChange fun _ _ _ hk => verificationKey_of_rotateTo hk
  | retire keyId =>
    exact h.ringChange fun last hlast _ hk =>
      verificationKey_of_retire hk (hallowed last hlast)

end

section
variable [Blake3] [LawfulEnvelopeReader] {C : CorrectBackend B E} {w : Ledger B}
  {key : StorageRecordKey}

theorem Inv.openSnapshot (h : Inv C key w) :
    (openSnapshot w.ring key (snapshot C w key) : Except (AuthenticatedStoreError E) _) =
      .ok (current (w.writes key)) := by
  have hrev := h.revision
  rw [snapshot]
  cases hw : w.writes key with
  | nil =>
    rw [h.empty hw]
    rfl
  | cons last older =>
    obtain ⟨hsize, storageKey, hkey, hrec⟩ := h.last last (by simp [hw])
    rw [hw] at hrec hrev
    rw [hrec] at hrev ⊢
    refine openSnapshot_ok_some_iff.mpr ⟨_, rfl, rfl, openRecord_sealedRecord hkey ?_ hsize⟩
    intro hzero
    rw [Option.map_some, Option.getD_some, sealedRecord, hzero] at hrev
    simp at hrev

theorem Inv.run_load (h : Inv C key w) :
    w.run C (load key) = ((.ok (current (w.writes key)), w.ring), w.backend) := by
  have hopen := h.openSnapshot
  rw [snapshot] at hopen
  rw [run, load_eq, Prog.run, C.load_eq _ key h.valid, Except.mapError_ok_bind, hopen]
  rfl

theorem Inv.run_stale (h : Inv C key w) {expected : Option UInt64} {payload : Bytes}
    (hstale : expected ≠ (current (w.writes key)).map (·.revision)) :
    ∃ error, w.run C (compareAndSwap key expected payload) =
      ((.error error, w.ring), w.backend) ∧
      (payload.length ≤ maxAuthenticatedPayloadBytes →
        ∃ actual floor, error = .writeConflict expected actual floor) := by
  by_cases hsize : payload.length ≤ maxAuthenticatedPayloadBytes
  · rw [run_compareAndSwap_eq h.valid hsize, prepareReplacement_stale h.openSnapshot hstale]
    exact ⟨_, rfl, fun _ => ⟨_, _, rfl⟩⟩
  · -- the payload is measured before the record is loaded
    rw [run, compareAndSwap_oversized w.ring (not_le.mp hsize)]
    exact ⟨_, rfl, fun h => absurd h hsize⟩

/-- A write at the current revision succeeds until the revisions run out. -/
theorem Inv.run_current (h : Inv C key w) (payload : Bytes)
    (hsize : payload.length ≤ maxAuthenticatedPayloadBytes)
    (hroom : (w.writes key).length + 1 < 2 ^ 64) :
    ∃ revision b, w.run C (compareAndSwap key ((current (w.writes key)).map (·.revision)) payload) =
      ((.ok ⟨revision, w.ring.activeKeyId, payload⟩, w.ring), b) := by
  let revision := UInt64.ofNat ((w.writes key).length + 1)
  have hnext : revision.toNat =
      (((current (w.writes key)).map fun r : AuthenticatedRecord => r.revision).getD 0).toNat +
        1 := by
    rw [UInt64.toNat_ofNat_of_lt' hroom, ← h.revision_eq, h.revision]
  have hexp : (checkExpected ((current (w.writes key)).map (·.revision))
      (current (w.writes key)) : Except (AuthenticatedStoreError E) Unit) = .ok () := by
    rw [checkExpected_eq, if_pos rfl]
  have hnumber : (sealedRecord w.ring.activeKey w.ring.activeKeyId key revision payload).revision =
      revision := rfl
  rw [run_compareAndSwap_eq h.valid hsize, prepareReplacement_ok_iff.mpr
    ⟨⟨_, h.openSnapshot, hexp⟩, hnext, rfl, sealedRecord_size hsize⟩]
  obtain ⟨b, hrun, _⟩ := run_swapPrepared h.valid h.revision_eq hnext hnumber
  exact ⟨revision, b, hrun⟩

theorem Inv.writes_current (h : Inv C key w) {expected : Option UInt64} {payload : Bytes}
    (hexp : expected = (current (w.writes key)).map (·.revision))
    (hsize : payload.length ≤ maxAuthenticatedPayloadBytes)
    (hroom : (w.writes key).length + 1 < 2 ^ 64) :
    (w.apply C (.compareAndSwap key expected payload)).writes key =
      ⟨payload, w.ring.activeKeyId⟩ :: w.writes key := by
  obtain ⟨revision, b, hrun⟩ := h.run_current payload hsize hroom
  rw [apply, hexp, hrun]
  exact update_self key _ w.writes

/-- Through any sequence of writes and key ring changes, `load` returns the payload
of the last successful write with the number of successful writes as its revision; a
stale write changes nothing, and is a conflict if its payload is within the limit; and a
payload within the limit is never refused for the size of its record. -/
theorem round_trip {ring : StorageKeyring} {b : B} (hvalid : C.Valid b)
    (hempty : C.record b key = none)
    (h : Relation.ReflTransGen (Step C key) ⟨ring, b, fun _ => []⟩ w) :
    (∃ loaded, w.run C (load key) = ((.ok loaded, w.ring), w.backend) ∧
      loaded.map (·.payload) = (w.writes key).head?.map (·.payload) ∧
      (∀ record ∈ loaded, record.revision.toNat = (w.writes key).length) ∧
      ∀ expected payload, expected ≠ loaded.map (·.revision) →
        ∃ error, w.run C (compareAndSwap key expected payload) =
          ((.error error, w.ring), w.backend) ∧
          (payload.length ≤ maxAuthenticatedPayloadBytes →
            ∃ actual floor, error = .writeConflict expected actual floor)) ∧
    ∀ (ring : StorageKeyring) (key : StorageRecordKey) (revision : UInt64) (payload : Bytes),
      payload.length ≤ maxAuthenticatedPayloadBytes →
      ∃ record, (sealRecord ring key revision payload : Except (AuthenticatedStoreError E) _) =
        .ok record := by
  have hinv : Inv C key w := by
    induction h with
    | refl => exact ⟨hvalid, by simp, fun _ => hempty, by simp⟩
    | tail _ hstep ih => exact ih.step hstep
  refine ⟨⟨current (w.writes key), hinv.run_load, ?_, ?_, fun _ _ => hinv.run_stale⟩, ?_⟩
  · simp [current, comp_def]
  · intro record hrec
    obtain ⟨_, _, rfl⟩ := Option.map_eq_some_iff.mp hrec
    exact UInt64.toNat_ofNat_of_lt' hinv.bound
  · intro ring key revision payload hsize
    exact ⟨_, sealRecord_ok_iff.mpr ⟨rfl, sealedRecord_size hsize⟩⟩

end

/-- The text of an envelope determines it, so a lawful reader exists. -/
theorem nonempty_lawfulEnvelopeReader : Nonempty LawfulEnvelopeReader :=
  ⟨{ fromSlice := partialInv fun e : StoredEnvelope => Json.encode e.toJson
     fromSlice_encode := partialInv_left
      (Json.encode_injective.comp StoredEnvelope.toJson_injective) }⟩

/-- A record can be created in an empty store and the key rotated after it. -/
theorem exists_rotation [Blake3] [LawfulEnvelopeReader] {C : CorrectBackend B E} {b : B}
    {key : StorageRecordKey} (ring : StorageKeyring) {payload : Bytes} (keyId : StorageKeyId)
    (storageKey : StorageKey) (hvalid : C.Valid b) (hempty : C.record b key = none)
    (hsize : payload.length ≤ maxAuthenticatedPayloadBytes) :
    ∃ w, Relation.ReflTransGen (Step C key) ⟨ring, b, fun _ => []⟩ w ∧
      w.writes key = [⟨payload, ring.activeKeyId⟩] := by
  have hinv : Inv C key ⟨ring, b, fun _ => []⟩ :=
    ⟨hvalid, by simp, fun _ => hempty, by simp⟩
  refine ⟨_, (Relation.ReflTransGen.single ⟨.compareAndSwap key none payload, trivial, rfl⟩).tail
    ⟨.rotateTo keyId storageKey, trivial, rfl⟩, ?_⟩
  exact hinv.writes_current rfl hsize (by simp)

/-- A record is created, the key is rotated, and the record still loads. -/
theorem round_trip_of_rotation :
    ∃ (_ : Blake3) (_ : LawfulEnvelopeReader) (key : StorageRecordKey) (ring : StorageKeyring)
      (w : Ledger VolatileMemoryStore), Relation.ReflTransGen (Step correct key)
        ⟨ring, empty, fun _ => []⟩ w ∧ (w.writes key).length = 1 ∧
      ∃ loaded, w.run correct (load key) = ((.ok loaded, w.ring), w.backend) ∧
        loaded.map (·.payload) = some (utf8 "v1") ∧
        ∀ record ∈ loaded, record.revision.toNat = 1 := by
  -- The keyed digest of the one input that is tagged in this run.
  let digest : Digest := ⟨[150, 196, 69, 207, 244, 134, 251, 213, 233, 37, 49, 227, 139, 58, 99, 27,
    246, 48, 74, 217, 27, 2, 251, 65, 87, 120, 51, 202, 243, 96, 39, 229], rfl⟩
  let _ : Blake3 := ⟨fun _ => digest, fun _ _ => digest⟩
  obtain ⟨_⟩ := nonempty_lawfulEnvelopeReader
  let key : StorageRecordKey := ⟨"workflow-ledger", "run", by decide +kernel, by decide +kernel⟩
  let ring := new ⟨"key-1", by decide +kernel⟩ ⟨1 :: List.replicate 31 0, rfl⟩
  have hempty : correct.record empty key = none := rfl
  have hsize : (utf8 "v1").length ≤ maxAuthenticatedPayloadBytes := by decide
  obtain ⟨w, hreach, hwrites⟩ := exists_rotation ring ⟨"key-2", by decide +kernel⟩
    ⟨2 :: List.replicate 31 0, rfl⟩ unfenced_empty hempty hsize
  obtain ⟨⟨loaded, hload, hpay, hrev, _⟩, _⟩ :=
    round_trip unfenced_empty hempty hreach
  rw [hwrites] at hpay hrev
  exact ⟨_, _, key, ring, w, hreach, by rw [hwrites]; rfl, loaded, hload, hpay, hrev⟩

/-- The payload is measured before the revision is looked at: a stale write of one byte
too many is refused for its size. -/
theorem stale_write_not_conflict :
    ∃ (_ : Blake3) (_ : LawfulEnvelopeReader) (key : StorageRecordKey) (ring : StorageKeyring),
      let w : Ledger VolatileMemoryStore := ⟨ring, empty, fun _ => []⟩
      w.run correct (load key) = ((.ok none, w.ring), w.backend) ∧
      w.run correct (compareAndSwap key (some 1) (List.replicate 262145 0)) =
        ((.error (.payloadTooLarge 262145 262144), w.ring), w.backend) := by
  let digest : Digest := ⟨List.replicate 32 0, rfl⟩
  let _ : Blake3 := ⟨fun _ => digest, fun _ _ => digest⟩
  obtain ⟨_⟩ := nonempty_lawfulEnvelopeReader
  let key : StorageRecordKey := ⟨"workflow-ledger", "run", by decide, by decide⟩
  let ring := new ⟨"key-1", by decide⟩ ⟨1 :: List.replicate 31 0, rfl⟩
  let w : Ledger VolatileMemoryStore := ⟨ring, empty, fun _ => []⟩
  have hinv : Inv correct key w :=
    ⟨unfenced_empty, by simp [w], fun _ => rfl, by simp [w]⟩
  have hsize : maxAuthenticatedPayloadBytes < (List.replicate 262145 (0 : UInt8)).length := by
    rw [List.length_replicate]
    decide
  refine ⟨_, _, key, ring, hinv.run_load, ?_⟩
  rw [run, compareAndSwap_oversized w.ring hsize, List.length_replicate]
  rfl

end Ledger

end Octoscript
