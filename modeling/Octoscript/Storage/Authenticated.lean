import Octoscript.Lib.Effectful
import Octoscript.Lib.Machine
import Octoscript.Storage.Record

namespace Octoscript
open Wire Json String

/-- A call to the fenced, rollback-protected backend. -/
inductive BackendOp
  | load (key : StorageRecordKey)
  | compareAndSwap (key : StorageRecordKey) (expectedRevision : Option UInt64)
      (replacement : StoredRecord)
  | currentFence (key : StorageRecordKey)
  | reserveFence (key : StorageRecordKey)
  | establishFence (key : StorageRecordKey) (fencingToken : UInt64)
  | compareAndSwapFenced (key : StorageRecordKey) (expectedRevision : Option UInt64)
      (replacement : StoredRecord) (fencingToken : UInt64)

/-- What the backend returns. -/
@[reducible] def BackendOp.Reply : BackendOp → Type
  | .load _ => StorageSnapshot
  | .compareAndSwap .. => CompareAndSwapOutcome
  | .currentFence _ => UInt64
  | .reserveFence _ => UInt64
  | .establishFence .. => Unit
  | .compareAndSwapFenced .. => CompareAndSwapOutcome

/-- An answer of a backend with error type `E`. -/
abbrev BackendOp.Answer (E : Type) (op : BackendOp) : Type := Except E op.Reply

namespace AuthenticatedStore
variable {E : Type}
variable {key : StorageRecordKey} {self : StorageKeyring} {revision : UInt64} {payload : Bytes}

/-- The envelope that `seal` writes. -/
def sealedEnvelope [Blake3] (storageKey : StorageKey) (keyId : StorageKeyId)
    (key : StorageRecordKey) (revision : UInt64) (payload : Bytes) : StoredEnvelope where
  formatVersion := authenticatedRecordFormatVersion
  keyId := keyId.value
  revision
  payload := ofList (Base64.encode payload)
  authTag := encodeTag (authenticatedRecordTag storageKey key authenticatedRecordFormatVersion keyId
    revision payload)

def sealedRecord [Blake3] (storageKey : StorageKey) (keyId : StorageKeyId)
    (key : StorageRecordKey) (revision : UInt64) (payload : Bytes) : StoredRecord :=
  ⟨revision, encode (sealedEnvelope storageKey keyId key revision payload).toJson⟩

/-- A sealed record shows its key identifier, revision and payload. -/
theorem sealedRecord_inj [Blake3] {storageKey storageKey' : StorageKey}
    {keyId keyId' : StorageKeyId} {key key' : StorageRecordKey} {revision revision' : UInt64}
    {payload payload' : Bytes} (h : sealedRecord storageKey keyId key revision payload =
      sealedRecord storageKey' keyId' key' revision' payload') :
    keyId = keyId' ∧ revision = revision' ∧ payload = payload' := by
  have he := StoredEnvelope.toJson_injective (Json.encode_injective (congrArg StoredRecord.bytes h))
  simp only [sealedEnvelope, StoredEnvelope.mk.injEq] at he
  obtain ⟨_, hkeyId, hrev, hpay, _⟩ := he
  exact ⟨StorageKeyId.ext hkeyId, hrev,
    Base64.encode_injective (ofList_injective hpay)⟩

theorem sextetChar_range {c : Char} (h : Base64.isSextetChar c = true) :
    43 ≤ c.toNat ∧ c.toNat ≤ 57 ∨ 65 ≤ c.toNat ∧ c.toNat ≤ 90 ∨ 97 ≤ c.toNat ∧ c.toNat ≤ 122 := by
  simp only [Base64.isSextetChar, Char.isAlphanum, Char.isAlpha, Bool.or_eq_true, beq_iff_eq] at h
  rcases h with ((((h | h) | h) | rfl) | rfl)
  · exact Or.inr (Or.inl (toNat_of_isUpper h))
  · exact Or.inr (Or.inr (toNat_of_isLower h))
  · have hrange := toNat_of_isDigit h
    omega
  all_goals decide

theorem utf8Len_keyId (keyId : StorageKeyId) :
    utf8Len (stringChars keyId.value) ≤ maxStorageKeyIdBytes + 2 := by
  have hplain := all_isPlain_of_token (isValidToken_chars keyId.valid)
  rw [utf8Len_stringChars hplain]
  have hsize := isValidToken_size keyId.valid
  omega

theorem utf8Len_tag (tag : Digest) : utf8Len (stringChars (encodeTag tag)) = 66 := by
  have hplain : (encodeTag tag).toList.all isPlain = true := by
    rw [encodeTag, Digest.toHex, toList_ofList]
    refine List.all_eq_true.mpr fun c hc => ?_
    have hrange := hexEncode_range hc
    exact isPlain_of_toNat (by omega) (by omega) (by omega)
  rw [utf8Len_stringChars hplain, encodeTag_size]

theorem utf8Len_base64 (payload : Bytes) :
    utf8Len (stringChars (ofList (Base64.encode payload))) =
      (4 * payload.length + 2) / 3 + 2 := by
  have hrange (c : Char) (hc : c ∈ Base64.encode payload) :=
    sextetChar_range (List.all_eq_true.mp (Base64.encode_all payload) c hc)
  have hplain : (ofList (Base64.encode payload)).toList.all isPlain = true := by
    rw [toList_ofList]
    refine List.all_eq_true.mpr fun c hc => ?_
    have hr := hrange c hc
    exact isPlain_of_toNat (by omega) (by omega) (by omega)
  have hascii : ∀ c ∈ Base64.encode payload, c.toNat < 128 := by
    intro c hc
    have hr := hrange c hc
    omega
  rw [utf8Len_stringChars hplain, utf8ByteSize_ofList, utf8Len_of_ascii hascii,
    Base64.encode_length]

/-- A payload within its limit always fits a record. -/
theorem sealedRecord_size [Blake3] {storageKey : StorageKey} {keyId : StorageKeyId}
    (h : payload.length ≤ maxAuthenticatedPayloadBytes) :
    (sealedRecord storageKey keyId key revision payload).bytes.length ≤
      maxAuthenticatedRecordBytes := by
  have hver : utf8Len (chars (.nat authenticatedRecordFormatVersion.toNat)) ≤ 1 :=
    utf8Len_nat (by decide) (by decide)
  have hrev : utf8Len (chars (.nat revision.toNat)) ≤ 20 :=
    utf8Len_nat (by decide) (lt_of_lt_of_le revision.toNat_lt (by decide))
  have hkeyId := utf8Len_keyId keyId
  have htag := utf8Len_tag (authenticatedRecordTag storageKey key authenticatedRecordFormatVersion
    keyId revision payload)
  have hpay := utf8Len_base64 payload
  have hnames : utf8Len (stringChars "format_version") +
      utf8Len (stringChars "key_id") + utf8Len (stringChars "revision") +
      utf8Len (stringChars "payload") + utf8Len (stringChars "auth_tag") =
      53 := by decide +kernel
  have hpunctuation (c : Char) (hc : c.toNat < 128) : c.utf8Size = 1 := by
    simpa using utf8Len_of_ascii (l := [c]) (by simpa using hc)
  simp only [sealedRecord, Json.encode_length, StoredEnvelope.toJson, sealedEnvelope, Json.chars,
    fieldsChars, utf8Len_cons, utf8Len_append, utf8Len_nil]
  rw [hpunctuation '{' (by decide), hpunctuation ':' (by decide), hpunctuation ',' (by decide),
    hpunctuation '}' (by decide)]
  simp only [maxAuthenticatedPayloadBytes, maxAuthenticatedRecordBytes, maxStorageKeyIdBytes] at *
  omega

def sealRecord [Blake3] (self : StorageKeyring) (key : StorageRecordKey) (revision : UInt64)
    (payload : Bytes) : Except (AuthenticatedStoreError E) StoredRecord := do
  let record := sealedRecord self.activeKey self.activeKeyId key revision payload
  rejectIf (record.bytes.length > maxAuthenticatedRecordBytes)
    (.recordTooLarge record.bytes.length maxAuthenticatedRecordBytes)
  return record

theorem sealRecord_ok_iff [Blake3] {record : StoredRecord} :
    (sealRecord self key revision payload : Except (AuthenticatedStoreError E) _) = .ok record ↔
      record = sealedRecord self.activeKey self.activeKeyId key revision payload ∧
        record.bytes.length ≤ maxAuthenticatedRecordBytes := by
  simp only [sealRecord, Except.bind_ok_iff, Except.rejectIf_ok_iff, not_lt, pure, Except.pure,
    Except.ok.injEq]
  constructor
  · rintro ⟨_, hsize, rfl⟩
    exact ⟨rfl, hsize⟩
  · rintro ⟨rfl, hsize⟩
    exact ⟨(), hsize, rfl⟩

def openRecord [Blake3] [EnvelopeReader] (self : StorageKeyring) (key : StorageRecordKey)
    (record : StoredRecord) : Except (AuthenticatedStoreError E) AuthenticatedRecord := do
  rejectIf (record.bytes.length > maxAuthenticatedRecordBytes)
    (.recordTooLarge record.bytes.length maxAuthenticatedRecordBytes)
  let envelope ← (EnvelopeReader.fromSlice record.bytes).okOr .invalidEnvelope
  rejectIf (envelope.formatVersion ≠ authenticatedRecordFormatVersion)
    (.unsupportedFormat envelope.formatVersion)
  rejectIf (envelope.revision = 0) .invalidRevision
  rejectIf (envelope.revision ≠ record.revision)
    (.revisionMismatch record.revision envelope.revision)
  let keyId ← (StorageKeyId.new envelope.keyId).mapError fun _ => .invalidKeyId
  let payload ← (Base64.decode envelope.payload.toList).okOr .invalidEnvelope
  rejectIf (payload.length > maxAuthenticatedPayloadBytes)
    (.payloadTooLarge payload.length maxAuthenticatedPayloadBytes)
  rejectIf (ofList (Base64.encode payload) ≠ envelope.payload) .invalidEnvelope
  let actualTag ← (decodeTag envelope.authTag).okOr .invalidAuthenticationTag
  let verificationKey ← (self.verificationKey keyId).okOr .unknownKeyId
  let expectedTag := authenticatedRecordTag verificationKey key envelope.formatVersion keyId
    envelope.revision payload
  rejectIf (expectedTag ≠ actualTag) .invalidAuthenticationTag
  return { revision := envelope.revision, keyId, payload }

def openSnapshot [Blake3] [EnvelopeReader] (self : StorageKeyring) (key : StorageRecordKey)
    (snapshot : StorageSnapshot) :
    Except (AuthenticatedStoreError E) (Option AuthenticatedRecord) := do
  validateRevisionPair (snapshot.record.map (·.revision)) snapshot.revisionFloor
  match snapshot.record with
  | none => return none
  | some record =>
    let opened ← openRecord self key record
    return some opened

/-- The bytes of a record hold exactly this header and payload, with a tag that is
right for it under `storageKey` at the place `key`. -/
def Verifies [Blake3] [EnvelopeReader] (storageKey : StorageKey) (key : StorageRecordKey)
    (record : StoredRecord) (opened : AuthenticatedRecord) : Prop :=
  ∃ authTag, EnvelopeReader.fromSlice record.bytes =
      some ⟨authenticatedRecordFormatVersion, opened.keyId.value, opened.revision,
        ofList (Base64.encode opened.payload), authTag⟩ ∧
    decodeTag authTag = some (authenticatedRecordTag storageKey key
      authenticatedRecordFormatVersion opened.keyId opened.revision opened.payload)

theorem openRecord_ok_iff [Blake3] [EnvelopeReader]
    {record : StoredRecord} {opened : AuthenticatedRecord} :
    (openRecord self key record : Except (AuthenticatedStoreError E) _) = .ok opened ↔
      record.bytes.length ≤ maxAuthenticatedRecordBytes ∧ opened.revision ≠ 0 ∧
      opened.revision = record.revision ∧
      opened.payload.length ≤ maxAuthenticatedPayloadBytes ∧
      ∃ storageKey, self.verificationKey opened.keyId = some storageKey ∧
        Verifies storageKey key record opened := by
  simp only [openRecord, Except.bind_ok_iff, Except.rejectIf_ok_iff, Option.okOr_ok_iff,
    Except.mapError_ok_iff, StorageKeyId.new_ok_iff, not_lt, not_not, pure, Except.pure, Except.ok.injEq]
  constructor
  · rintro ⟨_, hsize, ⟨version, keyIdText, revision, payloadText, authTag⟩, hread, _, hver, _,
      hzero, _, hrev, keyId, hkeyId, payload, _, _, hpay, _, htext, tag, htag,
      storageKey, hkey, _, hverify, rfl⟩
    simp only at hver hrev hkeyId htext htag hverify hzero
    subst hver hkeyId htext
    exact ⟨hsize, hzero, hrev, hpay, storageKey, hkey, authTag, hread, htag.trans
      (congrArg some hverify.symm)⟩
  · rintro ⟨hsize, hzero, hrev, hpay, storageKey, hkey, authTag, hread, htag⟩
    refine ⟨(), hsize, _, hread, (), rfl, (), hzero, (), hrev, opened.keyId, rfl,
      opened.payload, ?_, (), hpay, (), rfl, _, htag, storageKey, hkey, (), rfl, rfl⟩
    rw [toList_ofList, Base64.decode_encode]

/-- What was sealed opens, wherever its key is still in the ring. -/
theorem openRecord_sealedRecord [Blake3] [LawfulEnvelopeReader]
    {storageKey : StorageKey} {keyId : StorageKeyId}
    (hkey : self.verificationKey keyId = some storageKey) (hrev : revision ≠ 0)
    (hsize : payload.length ≤ maxAuthenticatedPayloadBytes) :
    (openRecord self key (sealedRecord storageKey keyId key revision payload) :
      Except (AuthenticatedStoreError E) _) = .ok ⟨revision, keyId, payload⟩ :=
  openRecord_ok_iff.mpr ⟨sealedRecord_size hsize, hrev, rfl, hsize, storageKey, hkey, _,
    LawfulEnvelopeReader.fromSlice_encode _, decodeTag_encodeTag _⟩

theorem openSnapshot_ok_some_iff [Blake3] [EnvelopeReader]
    {snapshot : StorageSnapshot} {opened : AuthenticatedRecord} :
    (openSnapshot self key snapshot : Except (AuthenticatedStoreError E) _) = .ok (some opened) ↔
      ∃ record, snapshot.record = some record ∧ record.revision = snapshot.revisionFloor ∧
        (openRecord self key record : Except (AuthenticatedStoreError E) _) = .ok opened := by
  obtain ⟨record, floor⟩ := snapshot
  cases record with
  | none => simp [openSnapshot, pure, Except.pure]
  | some record =>
    simp only [openSnapshot, Option.map_some, Except.bind_ok_iff, validateRevisionPair_ok_iff,
      Option.getD_some, pure, Except.pure, Except.ok.injEq, Option.some.injEq, ne_eq]
    constructor
    · rintro ⟨_, ⟨hfloor, _⟩, _, hopen, rfl⟩
      exact ⟨record, rfl, hfloor, hopen⟩
    · rintro ⟨_, rfl, hfloor, hopen⟩
      obtain ⟨_, hzero, hrev, _⟩ := openRecord_ok_iff.mp hopen
      exact ⟨(), ⟨hfloor, fun h => hzero (hrev.trans h)⟩, opened, hopen, rfl⟩

/-- Compares the caller's expected revision with the verified current record. -/
def checkExpected (expectedRevision : Option UInt64) (current : Option AuthenticatedRecord) :
    Except (AuthenticatedStoreError E) Unit :=
  match expectedRevision, current with
  | none, none => .ok ()
  | none, some current => .error (.writeConflict none (some current.revision) current.revision)
  | some expected, some current =>
    if expected = current.revision then .ok ()
    else .error (.writeConflict (some expected) (some current.revision) current.revision)
  | some expected, none => .error (.writeConflict (some expected) none 0)

theorem checkExpected_eq (expected : Option UInt64) (current : Option AuthenticatedRecord) :
    (checkExpected expected current : Except (AuthenticatedStoreError E) Unit) =
      if expected = current.map (·.revision) then .ok ()
      else .error (.writeConflict expected (current.map (·.revision))
        ((current.map (·.revision)).getD 0)) := by
  cases expected <;> cases current <;> simp [checkExpected]

def finishCompareAndSwap (self : StorageKeyring) (expectedRevision : Option UInt64)
    (revision : UInt64) (payload : Bytes) :
    CompareAndSwapOutcome → Except (AuthenticatedStoreError E) AuthenticatedRecord
  | .stored revisionFloor => do
    rejectIf (revisionFloor ≠ revision) (.revisionFloorMismatch revision revisionFloor)
    return { revision, keyId := self.activeKeyId, payload }
  | .conflict actualRevision revisionFloor => do
    validateRevisionPair actualRevision revisionFloor
    throw (.writeConflict expectedRevision actualRevision revisionFloor)

theorem finishCompareAndSwap_stored (self : StorageKeyring) (expected : Option UInt64)
    (revision : UInt64) (payload : Bytes) :
    (finishCompareAndSwap self expected revision payload (.stored revision) :
      Except (AuthenticatedStoreError E) _) = .ok ⟨revision, self.activeKeyId, payload⟩ := by
  rw [finishCompareAndSwap, rejectIf, if_neg (not_not.mpr rfl)]
  rfl

theorem finishCompareAndSwap_conflict (self : StorageKeyring) (expected actual : Option UInt64)
    (revision floor : UInt64) (payload : Bytes) :
    ∃ e, (finishCompareAndSwap self expected revision payload (.conflict actual floor) :
      Except (AuthenticatedStoreError E) _) = .error e := by
  rw [finishCompareAndSwap]
  cases validateRevisionPair actual floor with
  | ok u => exact ⟨_, rfl⟩
  | error e => exact ⟨e, rfl⟩

theorem finishCompareAndSwap_ok {expected : Option UInt64} {outcome : CompareAndSwapOutcome}
    {record : AuthenticatedRecord} (h : (finishCompareAndSwap self expected revision payload outcome :
      Except (AuthenticatedStoreError E) _) = .ok record) :
    outcome = .stored revision ∧ record.revision = revision := by
  cases outcome with
  | stored floor =>
    simp only [finishCompareAndSwap, Except.bind_ok_iff, Except.rejectIf_ok_iff, not_not] at h
    obtain ⟨_, rfl, h⟩ := h
    exact ⟨rfl, (Except.ok.inj h) ▸ rfl⟩
  | conflict actual floor =>
    obtain ⟨e, he⟩ := finishCompareAndSwap_conflict (E := E) self expected actual revision floor
      payload
    cases he.symm.trans h

/-- A method of the store. -/
abbrev Call (E α : Type) :=
  Effectful BackendOp (BackendOp.Answer E) StorageKeyring (AuthenticatedStoreError E) α

/-- A call to the backend, with `map_err(AuthenticatedStoreError::Backend)?`. -/
def backend (op : BackendOp) : Call E op.Reply := do
  let answer ← Effectful.perform op
  Effectful.check (answer.mapError .backend)

section
variable [Blake3] [EnvelopeReader]

def load (key : StorageRecordKey) : Call E (Option AuthenticatedRecord) := do
  let self ← Effectful.self
  let snapshot ← backend (.load key)
  Effectful.check (openSnapshot self key snapshot)

/-- What a write computes from the snapshot: its revision and its sealed record. -/
def prepareReplacement (self : StorageKeyring) (key : StorageRecordKey)
    (expectedRevision : Option UInt64) (payload : Bytes) (snapshot : StorageSnapshot) :
    Except (AuthenticatedStoreError E) (UInt64 × StoredRecord) := do
  let current ← openSnapshot self key snapshot
  checkExpected expectedRevision current
  let previousRevision := expectedRevision.getD 0
  let revision ← previousRevision.checkedSucc.okOr .revisionExhausted
  let replacement ← sealRecord self key revision payload
  return (revision, replacement)

def prepareCompareAndSwap (key : StorageRecordKey) (expectedRevision : Option UInt64)
    (payload : Bytes) : Call E (UInt64 × StoredRecord) := do
  let self ← Effectful.self
  Effectful.check (rejectIf (payload.length > maxAuthenticatedPayloadBytes)
    (.payloadTooLarge payload.length maxAuthenticatedPayloadBytes))
  let snapshot ← backend (.load key)
  Effectful.check (prepareReplacement self key expectedRevision payload snapshot)

def compareAndSwap (key : StorageRecordKey) (expectedRevision : Option UInt64) (payload : Bytes) :
    Call E AuthenticatedRecord := do
  let self ← Effectful.self
  let (revision, replacement) ← prepareCompareAndSwap key expectedRevision payload
  let outcome ← backend (.compareAndSwap key expectedRevision replacement)
  Effectful.check (finishCompareAndSwap self expectedRevision revision payload outcome)

/-- Creates an absent record at revision one. -/
def create (key : StorageRecordKey) (payload : Bytes) : Call E AuthenticatedRecord :=
  compareAndSwap key none payload

def replace (key : StorageRecordKey) (expectedRevision : UInt64) (payload : Bytes) :
    Call E AuthenticatedRecord :=
  compareAndSwap key (some expectedRevision) payload

def currentFence (key : StorageRecordKey) : Call E UInt64 := backend (.currentFence key)

def reserveFence (key : StorageRecordKey) : Call E UInt64 := backend (.reserveFence key)

/-- The fence is established before the snapshot is read. -/
def compareAndSwapFenced (key : StorageRecordKey) (expectedRevision : Option UInt64)
    (payload : Bytes) (fencingToken : UInt64) : Call E AuthenticatedRecord := do
  let self ← Effectful.self
  backend (.establishFence key fencingToken)
  let (revision, replacement) ← prepareCompareAndSwap key expectedRevision payload
  let outcome ← backend (.compareAndSwapFenced key expectedRevision replacement fencingToken)
  Effectful.check (finishCompareAndSwap self expectedRevision revision payload outcome)

theorem prepareReplacement_ok_iff {self : StorageKeyring} {key : StorageRecordKey}
    {expected : Option UInt64} {payload : Bytes} {snapshot : StorageSnapshot} {revision : UInt64}
    {replacement : StoredRecord} :
    (prepareReplacement self key expected payload snapshot :
        Except (AuthenticatedStoreError E) _) = .ok (revision, replacement) ↔
      (∃ current, (openSnapshot self key snapshot : Except (AuthenticatedStoreError E) _) =
        .ok current ∧ (checkExpected expected current : Except (AuthenticatedStoreError E) _) =
        .ok ()) ∧ revision.toNat = (expected.getD 0).toNat + 1 ∧
      replacement = sealedRecord self.activeKey self.activeKeyId key revision payload ∧
      replacement.bytes.length ≤ maxAuthenticatedRecordBytes := by
  simp only [prepareReplacement, Except.bind_ok_iff, Option.okOr_ok_iff,
    UInt64.checkedSucc_eq_some_iff, sealRecord_ok_iff, pure, Except.pure, Except.ok.injEq,
    Prod.mk.injEq]
  constructor
  · rintro ⟨current, hopen, _, hexp, _, hrev, _, ⟨rfl, hsize⟩, rfl, rfl⟩
    exact ⟨⟨current, hopen, hexp⟩, hrev, rfl, hsize⟩
  · rintro ⟨⟨current, hopen, hexp⟩, hrev, rfl, hsize⟩
    exact ⟨current, hopen, (), hexp, revision, hrev, _, ⟨rfl, hsize⟩, rfl, rfl⟩

variable {key : StorageRecordKey} {expected : Option UInt64} {payload : Bytes}

theorem prepareReplacement_stale {self : StorageKeyring} {snapshot : StorageSnapshot}
    {current : Option AuthenticatedRecord}
    (hopen : (openSnapshot self key snapshot : Except (AuthenticatedStoreError E) _) = .ok current)
    (hstale : expected ≠ current.map (·.revision)) :
    (prepareReplacement self key expected payload snapshot :
        Except (AuthenticatedStoreError E) _) =
      .error (.writeConflict expected (current.map (·.revision))
        ((current.map (·.revision)).getD 0)) := by
  rw [prepareReplacement, hopen, Except.ok_bind, checkExpected_eq, if_neg hstale]
  rfl

theorem load_eq (ring : StorageKeyring) : (load key : Call E _) ring =
    .perform (.load key) fun a => .done (a.mapError .backend >>= openSnapshot ring key, ring) := by
  apply congrArg (Prog.perform (BackendOp.load key))
  funext a
  cases a <;> rfl

/-- An oversized payload is refused before the backend is asked. -/
theorem compareAndSwap_oversized (ring : StorageKeyring)
    (h : maxAuthenticatedPayloadBytes < payload.length) :
    (compareAndSwap key expected payload : Call E _) ring =
      .done (.error (.payloadTooLarge payload.length maxAuthenticatedPayloadBytes), ring) := by
  have hcheck : (rejectIf (payload.length > maxAuthenticatedPayloadBytes)
      (.payloadTooLarge payload.length maxAuthenticatedPayloadBytes) :
      Except (AuthenticatedStoreError E) Unit) =
      .error (.payloadTooLarge payload.length maxAuthenticatedPayloadBytes) := if_pos h
  rw [compareAndSwap, prepareCompareAndSwap, hcheck]
  rfl

/-- The swap of a write that was prepared. -/
def swapPrepared (ring : StorageKeyring) (key : StorageRecordKey) (expected : Option UInt64)
    (payload : Bytes) : Except (AuthenticatedStoreError E) (UInt64 × StoredRecord) →
    Prog BackendOp (BackendOp.Answer E)
      (Except (AuthenticatedStoreError E) AuthenticatedRecord × StorageKeyring)
  | .error e => .done (.error e, ring)
  | .ok (revision, replacement) =>
    .perform (.compareAndSwap key expected replacement) fun o =>
      .done (o.mapError .backend >>= finishCompareAndSwap ring expected revision payload, ring)

omit [Blake3] [EnvelopeReader] in
theorem swapPrepared_eq (ring : StorageKeyring)
    (r : Except (AuthenticatedStoreError E) (UInt64 × StoredRecord)) :
    ((Effectful.check r >>= fun (revision, replacement) => do
      let outcome ← backend (.compareAndSwap key expected replacement)
      Effectful.check (finishCompareAndSwap ring expected revision payload outcome)) :
        Call E _) ring = swapPrepared ring key expected payload r := by
  cases r with
  | error e => rfl
  | ok r =>
    apply congrArg (Prog.perform (BackendOp.compareAndSwap key expected r.2))
    funext o
    cases o <;> rfl

/-- A write reads once and, if the snapshot allows it, swaps once. -/
theorem compareAndSwap_eq (ring : StorageKeyring)
    (h : payload.length ≤ maxAuthenticatedPayloadBytes) :
    (compareAndSwap key expected payload : Call E _) ring = .perform (.load key) fun a =>
      swapPrepared ring key expected payload
        (a.mapError .backend >>= prepareReplacement ring key expected payload) := by
  have hcheck : (rejectIf (payload.length > maxAuthenticatedPayloadBytes)
      (.payloadTooLarge payload.length maxAuthenticatedPayloadBytes) :
      Except (AuthenticatedStoreError E) Unit) = .ok () := if_neg (not_lt.mpr h)
  rw [compareAndSwap, prepareCompareAndSwap, hcheck]
  apply congrArg (Prog.perform (BackendOp.load key))
  funext a
  cases a with
  | error e => rfl
  | ok snapshot => exact swapPrepared_eq ring (prepareReplacement ring key expected payload snapshot)

end

end AuthenticatedStore

end Octoscript
