import Octoscript.Lib.Base64
import Octoscript.Lib.Json
import Octoscript.Protocol.Error

namespace Octoscript
open Wire

def maxStorageKeyIdBytes : ℕ := 64
def maxStorageRecordNamespaceBytes : ℕ := 64
def maxStorageRecordNameBytes : ℕ := 128
def maxAuthenticatedPayloadBytes : ℕ := 256 * 1024
def maxAuthenticatedRecordBytes : ℕ := 384 * 1024
def authenticatedRecordFormatVersion : UInt8 := 1

def isValidToken (value : String) (maximumBytes : ℕ) : Bool :=
  value != "" && decide (value.utf8ByteSize ≤ maximumBytes) && value.toList.all isTokenChar

theorem isValidToken_size {value : String} {n : ℕ} (h : isValidToken value n = true) :
    value.utf8ByteSize ≤ n := by
  simp only [isValidToken, Bool.and_eq_true, decide_eq_true_eq] at h
  exact h.1.2

theorem isValidToken_chars {value : String} {n : ℕ} (h : isValidToken value n = true) :
    value.toList.all isTokenChar = true := by
  simp only [isValidToken, Bool.and_eq_true] at h
  exact h.2

/-- A storage authentication key. -/
abbrev StorageKey := HashKey

inductive StorageKeyIdError
  | invalid
  deriving DecidableEq

@[ext]
structure StorageKeyId where
  value : String
  valid : isValidToken value maxStorageKeyIdBytes = true
  deriving DecidableEq

namespace StorageKeyId

def new (value : String) : Except StorageKeyIdError StorageKeyId :=
  if h : isValidToken value maxStorageKeyIdBytes = true then .ok ⟨value, h⟩ else .error .invalid

theorem new_ok_iff {value : String} {id : StorageKeyId} : new value = .ok id ↔ id.value = value := by
  unfold new
  split_ifs with h
  · simp [StorageKeyId.ext_iff, eq_comm]
  · simp only [false_iff]
    rintro rfl
    exact h id.valid

instance : Ord StorageKeyId := ⟨fun a b => compare a.value b.value⟩

instance : Std.TransOrd StorageKeyId where
  eq_swap := fun {a b} => @Std.OrientedCmp.eq_swap String compare _ a.value b.value
  isLE_trans := fun {a b c} => @Std.TransCmp.isLE_trans String compare _ a.value b.value c.value

instance : Std.LawfulEqOrd StorageKeyId where
  eq_of_compare := fun {a b} h =>
    StorageKeyId.ext (@Std.LawfulEqCmp.eq_of_compare String compare _ a.value b.value h)

end StorageKeyId

inductive StorageRecordKeyError
  | invalidNamespace
  | invalidName
  deriving DecidableEq

/-- Where a record lives: a namespace token and a name token. -/
@[ext]
structure StorageRecordKey where
  (space name : String)
  space_valid : isValidToken space maxStorageRecordNamespaceBytes = true
  name_valid : isValidToken name maxStorageRecordNameBytes = true
  deriving DecidableEq

namespace StorageRecordKey

def new (space name : String) : Except StorageRecordKeyError StorageRecordKey :=
  if hs : isValidToken space maxStorageRecordNamespaceBytes = true then
    if hn : isValidToken name maxStorageRecordNameBytes = true then .ok ⟨space, name, hs, hn⟩
    else .error .invalidName
  else .error .invalidNamespace

theorem name_of_new {space name : String} {key : StorageRecordKey} (h : new space name = .ok key) :
    key.name = name := by
  unfold new at h
  split_ifs at h
  obtain rfl := Except.ok.inj h
  rfl

end StorageRecordKey

inductive StorageKeyringError
  | duplicateKeyId (keyId : StorageKeyId)
  | unknownKeyId (keyId : StorageKeyId)
  | activeKeyCannotBeRetired
  deriving DecidableEq

/-- The keys a holder verifies with, and the one it seals with. -/
structure StorageKeyring where
  activeKeyId : StorageKeyId
  keys : Std.ExtTreeMap StorageKeyId StorageKey
  active_mem : activeKeyId ∈ keys

namespace StorageKeyring
variable {id : StorageKeyId} {k : StorageKey}

def new (activeKeyId : StorageKeyId) (activeKey : StorageKey) : StorageKeyring where
  activeKeyId
  keys := (∅ : Std.ExtTreeMap StorageKeyId StorageKey).insert activeKeyId activeKey
  active_mem := by simp

def activeKey (self : StorageKeyring) : StorageKey := self.keys.get self.activeKeyId self.active_mem

def verificationKey (self : StorageKeyring) (keyId : StorageKeyId) : Option StorageKey :=
  self.keys[keyId]?

theorem verificationKey_active (self : StorageKeyring) :
    self.verificationKey self.activeKeyId = some self.activeKey :=
  Std.ExtTreeMap.getElem?_eq_some_getElem self.active_mem

@[simps]
def insertKey (self : StorageKeyring) (keyId : StorageKeyId) (key : StorageKey) :
    StorageKeyring where
  activeKeyId := self.activeKeyId
  keys := self.keys.insert keyId key
  active_mem := by simp [self.active_mem]

def activate (self : StorageKeyring) (keyId : StorageKeyId) : StorageKeyring :=
  if h : keyId ∈ self.keys then ⟨keyId, self.keys, h⟩ else self

def eraseKey (self : StorageKeyring) (keyId : StorageKeyId) : StorageKeyring :=
  if h : keyId = self.activeKeyId then self
  else ⟨self.activeKeyId, self.keys.erase keyId, by simp [self.active_mem, h]⟩

/-- A method of the key ring. -/
abbrev Call := Mut StorageKeyring StorageKeyringError Unit

def addReadKey (keyId : StorageKeyId) (key : StorageKey) : Call := do
  let self ← Mut.self
  rejectIf (keyId ∈ self.keys) (.duplicateKeyId keyId)
  Mut.assign (self.insertKey keyId key)

def rotateTo (keyId : StorageKeyId) (key : StorageKey) : Call := do
  addReadKey keyId key
  let self ← Mut.self
  Mut.assign (self.activate keyId)

def retire (keyId : StorageKeyId) : Call := do
  let self ← Mut.self
  rejectIf (keyId = self.activeKeyId) .activeKeyCannotBeRetired
  rejectIf (keyId ∉ self.keys) (.unknownKeyId keyId)
  Mut.assign (self.eraseKey keyId)

theorem verificationKey_insertKey {self : StorageKeyring} {keyId : StorageKeyId} {key : StorageKey}
    (id : StorageKeyId) : (self.insertKey keyId key).verificationKey id =
      if keyId = id then some key else self.verificationKey id := by
  simp [verificationKey, Std.ExtTreeMap.getElem?_insert]

theorem verificationKey_eraseKey {self : StorageKeyring} (keyId id : StorageKeyId) :
    (self.eraseKey keyId).verificationKey id =
      if keyId = id ∧ id ≠ self.activeKeyId then none else self.verificationKey id := by
  unfold eraseKey
  split_ifs with ha h h
  · exact absurd (h.1.symm.trans ha) h.2
  · rfl
  · simp [verificationKey, h.1]
  · have hid : keyId ≠ id := fun hid => h ⟨hid, fun hact => ha (hid.trans hact)⟩
    simp [verificationKey, Std.ExtTreeMap.getElem?_erase, hid]

@[simp] theorem verificationKey_activate (self : StorageKeyring) (keyId : StorageKeyId) :
    (self.activate keyId).verificationKey = self.verificationKey := by
  unfold activate
  split_ifs <;> rfl

variable {s s' : StorageKeyring} {keyId : StorageKeyId} {key : StorageKey} {u : Unit}

theorem returns_addReadKey : (addReadKey keyId key).Returns s u s' ↔
    keyId ∉ s.keys ∧ s' = s.insertKey keyId key := by
  simp only [addReadKey, Mut.returns_bind, Mut.returns_self, Mut.returns_rejectIf,
    Mut.returns_assign]
  constructor
  · rintro ⟨_, _, ⟨rfl, rfl⟩, _, _, ⟨hfresh, rfl⟩, rfl⟩
    exact ⟨hfresh, rfl⟩
  · rintro ⟨hfresh, rfl⟩
    exact ⟨_, _, ⟨rfl, rfl⟩, (), _, ⟨hfresh, rfl⟩, rfl⟩

theorem returns_rotateTo : (rotateTo keyId key).Returns s u s' ↔
    keyId ∉ s.keys ∧ s' = (s.insertKey keyId key).activate keyId := by
  simp only [rotateTo, Mut.returns_bind, returns_addReadKey, Mut.returns_self, Mut.returns_assign]
  constructor
  · rintro ⟨_, _, ⟨hfresh, rfl⟩, _, _, ⟨rfl, rfl⟩, rfl⟩
    exact ⟨hfresh, rfl⟩
  · rintro ⟨hfresh, rfl⟩
    exact ⟨(), _, ⟨hfresh, rfl⟩, _, _, ⟨rfl, rfl⟩, rfl⟩

theorem returns_retire : (retire keyId).Returns s u s' ↔
    keyId ≠ s.activeKeyId ∧ keyId ∈ s.keys ∧ s' = s.eraseKey keyId := by
  simp only [retire, Mut.returns_bind, Mut.returns_self, Mut.returns_rejectIf, Mut.returns_assign,
    not_not]
  constructor
  · rintro ⟨_, _, ⟨rfl, rfl⟩, _, _, ⟨hact, rfl⟩, _, _, ⟨hknown, rfl⟩, rfl⟩
    exact ⟨hact, hknown, rfl⟩
  · rintro ⟨hact, hknown, rfl⟩
    exact ⟨_, _, ⟨rfl, rfl⟩, (), _, ⟨hact, rfl⟩, (), _, ⟨hknown, rfl⟩, rfl⟩

open Mut

theorem keepsOnError_addReadKey (keyId : StorageKeyId) (key : StorageKey) :
    (addReadKey keyId key).KeepsOnError :=
  keepsOnError_self_bind fun _ => keepsOnError_rejectIf_bind fun _ _ _ h => absurd h fails_assign

theorem keepsOnError_rotateTo (keyId : StorageKeyId) (key : StorageKey) :
    (rotateTo keyId key).KeepsOnError := by
  intro s e s' h
  simp only [rotateTo, fails_bind, fails_self, fails_assign, and_false, exists_false, or_false] at h
  exact keepsOnError_addReadKey keyId key s e s' h

theorem keepsOnError_retire (keyId : StorageKeyId) : (retire keyId).KeepsOnError :=
  keepsOnError_self_bind fun _ => keepsOnError_rejectIf_bind <| keepsOnError_rejectIf_bind
    fun _ _ _ h => absurd h fails_assign

/-- A new key takes no other key's place. -/
theorem verificationKey_of_fresh (hfresh : keyId ∉ s.keys)
    (h : s.verificationKey id = some k) : (s.insertKey keyId key).verificationKey id = some k := by
  have hid : keyId ≠ id := by
    rintro rfl
    exact hfresh (Std.ExtTreeMap.isSome_getElem?_iff_mem.mp (Option.isSome_of_eq_some h))
  rw [verificationKey_insertKey, if_neg hid, h]

theorem verificationKey_of_addReadKey (h : s.verificationKey id = some k) :
    (addReadKey keyId key s).2.verificationKey id = some k := by
  rcases returns_or_fails (addReadKey keyId key) s with ⟨_, hret⟩ | ⟨e, hfail⟩
  · obtain ⟨hfresh, hs⟩ := returns_addReadKey.mp hret
    rw [hs, verificationKey_of_fresh hfresh h]
  · rw [keepsOnError_addReadKey keyId key s e _ hfail, h]

theorem verificationKey_of_rotateTo (h : s.verificationKey id = some k) :
    (rotateTo keyId key s).2.verificationKey id = some k := by
  rcases returns_or_fails (rotateTo keyId key) s with ⟨_, hret⟩ | ⟨e, hfail⟩
  · obtain ⟨hfresh, hs⟩ := returns_rotateTo.mp hret
    rw [hs, verificationKey_activate, verificationKey_of_fresh hfresh h]
  · rw [keepsOnError_rotateTo keyId key s e _ hfail, h]

theorem verificationKey_of_retire (h : s.verificationKey id = some k) (hid : id ≠ keyId) :
    (retire keyId s).2.verificationKey id = some k := by
  rcases returns_or_fails (retire keyId) s with ⟨_, hret⟩ | ⟨e, hfail⟩
  · obtain ⟨_, _, hs⟩ := returns_retire.mp hret
    rw [hs, verificationKey_eraseKey, if_neg fun h => hid h.1.symm, h]
  · rw [keepsOnError_retire keyId s e _ hfail, h]

end StorageKeyring

structure StoredRecord where
  revision : UInt64
  bytes : Bytes
  deriving DecidableEq

/-- A record and its trusted anti-rollback floor, read together. -/
structure StorageSnapshot where
  record : Option StoredRecord
  revisionFloor : UInt64
  deriving DecidableEq

inductive CompareAndSwapOutcome
  | stored (revisionFloor : UInt64)
  | conflict (actualRevision : Option UInt64) (revisionFloor : UInt64)
  deriving DecidableEq

structure AuthenticatedRecord where
  revision : UInt64
  keyId : StorageKeyId
  payload : Bytes
  deriving DecidableEq

inductive AuthenticatedStoreError (E : Type)
  | backend (error : E)
  | payloadTooLarge (actual maximum : ℕ)
  | recordTooLarge (actual maximum : ℕ)
  | encoding
  | invalidEnvelope
  | unsupportedFormat (version : UInt8)
  | invalidKeyId
  | unknownKeyId
  | invalidRevision
  | revisionMismatch (backend envelope : UInt64)
  | invalidAuthenticationTag
  | rollbackDetected (recordRevision : Option UInt64) (revisionFloor : UInt64)
  | revisionFloorMismatch (recordRevision revisionFloor : UInt64)
  | revisionExhausted
  | writeConflict (expected actual : Option UInt64) (revisionFloor : UInt64)
  deriving DecidableEq

def validateRevisionPair {E : Type} (recordRevision : Option UInt64) (revisionFloor : UInt64) :
    Except (AuthenticatedStoreError E) Unit :=
  match recordRevision with
  | none => if revisionFloor = 0 then .ok () else .error (.rollbackDetected none revisionFloor)
  | some recordRevision =>
    if recordRevision = 0 then .error .invalidRevision
    else if recordRevision < revisionFloor then
      .error (.rollbackDetected (some recordRevision) revisionFloor)
    else if revisionFloor < recordRevision then
      .error (.revisionFloorMismatch recordRevision revisionFloor)
    else .ok ()

theorem validateRevisionPair_ok_iff {E : Type} {revision : Option UInt64} {floor : UInt64}
    {u : Unit} : (validateRevisionPair revision floor : Except (AuthenticatedStoreError E) Unit) =
      .ok u ↔ revision.getD 0 = floor ∧ revision ≠ some 0 := by
  cases revision with
  | none =>
    simp only [validateRevisionPair, Option.getD_none]
    split_ifs with h
    · simp [h]
    · simp [eq_comm, h]
  | some r =>
    simp only [validateRevisionPair, Option.getD_some, ne_eq, Option.some.injEq]
    split_ifs with h0 hl hg
    · simp [h0]
    · simpa using fun h : r = floor => absurd (h ▸ hl) (UInt64.lt_irrefl _)
    · simpa using fun h : r = floor => absurd (h ▸ hg) (UInt64.lt_irrefl _)
    · simpa [h0] using UInt64.le_antisymm (UInt64.not_lt.mp hg) (UInt64.not_lt.mp hl)

structure StoredEnvelope where
  formatVersion : UInt8
  keyId : String
  revision : UInt64
  (payload authTag : String)
  deriving DecidableEq

def StoredEnvelope.toJson (e : StoredEnvelope) : Json.Value :=
  .object [("format_version", .nat e.formatVersion.toNat), ("key_id", .string e.keyId),
    ("revision", .nat e.revision.toNat), ("payload", .string e.payload),
    ("auth_tag", .string e.authTag)]

theorem StoredEnvelope.toJson_injective : Function.Injective toJson := by
  rintro ⟨_, _, _, _, _⟩ ⟨_, _, _, _, _⟩ h
  simpa [toJson, UInt8.toNat_inj, UInt64.toNat_inj] using h

/-- `serde_json::from_slice` at the envelope type. -/
class EnvelopeReader where
  fromSlice : Bytes → Option StoredEnvelope

/-- The reader takes back what the serialiser wrote. -/
class LawfulEnvelopeReader extends EnvelopeReader where
  fromSlice_encode : ∀ e : StoredEnvelope, fromSlice (Json.encode e.toJson) = some e

/-- The bytes that a record's tag authenticates. -/
def authenticatedRecordInput (recordKey : StorageRecordKey) (formatVersion : UInt8)
    (keyId : StorageKeyId) (revision : UInt64) (payload : Bytes) : Bytes :=
  utf8 "octoscript-storage-record-v1" ++ (formatVersion :: (component (utf8 recordKey.space) ++
    (component (utf8 recordKey.name) ++ (component (utf8 keyId.value) ++
    (beBytes revision ++ component payload)))))

def authenticatedRecordTag [Blake3] (key : StorageKey) (recordKey : StorageRecordKey)
    (formatVersion : UInt8) (keyId : StorageKeyId) (revision : UInt64) (payload : Bytes) : Digest :=
  Blake3.keyedHash key (authenticatedRecordInput recordKey formatVersion keyId revision payload)

theorem utf8_length_lt_of_isValidToken {value : String} {n : ℕ} (h : isValidToken value n = true)
    (hn : n < 2 ^ 64) : (utf8 value).length < 2 ^ 64 := by
  rw [utf8_length]
  exact lt_of_le_of_lt (isValidToken_size h) hn

/-- Equal inputs are of one record key, format, key identifier, revision and payload. -/
theorem authenticatedRecordInput_inj {k k' : StorageRecordKey} {v v' : UInt8}
    {id id' : StorageKeyId} {r r' : UInt64} {p p' : Bytes} (hp : p.length < 2 ^ 64)
    (hp' : p'.length < 2 ^ 64) :
    authenticatedRecordInput k v id r p = authenticatedRecordInput k' v' id' r' p' ↔
      k = k' ∧ v = v' ∧ id = id' ∧ r = r' ∧ p = p' := by
  constructor
  · intro h
    simp only [authenticatedRecordInput, List.append_cancel_left_eq, List.cons.injEq] at h
    obtain ⟨hv, h⟩ := h
    have hspace (k : StorageRecordKey) :=
      utf8_length_lt_of_isValidToken k.space_valid (by decide)
    have hname (k : StorageRecordKey) := utf8_length_lt_of_isValidToken k.name_valid (by decide)
    have hid (id : StorageKeyId) := utf8_length_lt_of_isValidToken id.valid (by decide)
    obtain ⟨hs, h⟩ := component_append_inj (hspace k) (hspace k') h
    obtain ⟨hn, h⟩ := component_append_inj (hname k) (hname k') h
    obtain ⟨hi, h⟩ := component_append_inj (hid id) (hid id') h
    obtain ⟨hr, h⟩ := beBytes_append_inj h
    have hpay : component p ++ [] = component p' ++ [] := by simpa using h
    obtain ⟨hpp, -⟩ := component_append_inj hp hp' hpay
    exact ⟨StorageRecordKey.ext (utf8_injective hs) (utf8_injective hn), hv,
      StorageKeyId.ext (utf8_injective hi), hr, hpp⟩
  · rintro ⟨rfl, rfl, rfl, rfl, rfl⟩
    rfl

def encodeTag (tag : Digest) : String := tag.toHex

def decodeTag (value : String) : Option Digest :=
  if value.utf8ByteSize ≠ 64 then none
  else match hexDecode value.toList with
    | some bytes => if h : bytes.length = 32 then some ⟨bytes, h⟩ else none
    | none => none

theorem hexEncode_range {b : Bytes} {c : Char} (hc : c ∈ hexEncode b) :
    48 ≤ c.toNat ∧ c.toNat ≤ 57 ∨ 97 ≤ c.toNat ∧ c.toNat ≤ 102 :=
  toNat_of_isHexDigit (List.all_eq_true.mp (hexEncode_all b) c hc)

theorem encodeTag_size (tag : Digest) : (encodeTag tag).utf8ByteSize = 64 := by
  have hascii : ∀ c ∈ hexEncode tag.bytes, c.toNat < 128 := by
    intro c hc
    have hrange := hexEncode_range hc
    omega
  rw [encodeTag, Digest.toHex, String.utf8ByteSize_ofList, utf8Len_of_ascii hascii,
    hexEncode_length, tag.size]

theorem decodeTag_encodeTag (tag : Digest) : decodeTag (encodeTag tag) = some tag := by
  rw [decodeTag, if_neg (not_not.mpr (encodeTag_size tag)), encodeTag, Digest.toHex,
    String.toList_ofList, hexDecode_hexEncode]
  exact dif_pos tag.size

end Octoscript
