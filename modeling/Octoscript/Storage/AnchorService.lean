import Octoscript.Storage.RollbackAnchor

namespace Octoscript
open Wire Json List String

def rollbackAnchorServiceProtocolVersion : UInt8 := 1
def maxRollbackAnchorServiceRequestBytes : ℕ := 4 * 1024
def maxRollbackAnchorServiceResponseBytes : ℕ := 4 * 1024

structure WireKey where
  (space name : String)
  deriving DecidableEq

structure WireState where
  revisionFloor : String
  recordCommitment : Option String
  fencingToken : String
  deriving DecidableEq

inductive WireRequest
  | load (version : UInt8) (key : WireKey)
  | compareAndSwap (version : UInt8) (key : WireKey) (expected replacement : WireState)
  deriving DecidableEq

inductive WireResponse
  | state (version : UInt8) (state : WireState)
  | stored (version : UInt8)
  | conflict (version : UInt8) (actual : WireState)
  deriving DecidableEq

namespace WireKey

def ofDomain (key : StorageRecordKey) : WireKey := ⟨key.space, key.name⟩

def intoDomain (self : WireKey) : Option StorageRecordKey :=
  (StorageRecordKey.new self.space self.name).toOption

def toJson (self : WireKey) : Value :=
  .object [("namespace", .string self.space), ("name", .string self.name)]

end WireKey

/-- `u64::to_string`. -/
def decimal (n : UInt64) : String := ofList (Nat.toDigits 10 n.toNat)

/-- `str::parse::<u64>` on a text of decimal digits. -/
def parseDigits (digits : List Char) : Option UInt64 :=
  let n := Nat.ofDigitChars 10 digits 0
  if n < 2 ^ 64 then some (UInt64.ofNat n) else none

def parseCanonicalU64 (value : String) : Option UInt64 :=
  if value = "0" then some 0
  else if value.toList = [] ∨ value.toList.head? = some '0' ∨
      ¬(value.toList.all Char.isDigit = true) then none
  else parseDigits value.toList

def encodeCommitment (commitment : RecordCommitment) : String :=
  ofList (Base64.urlEncode commitment.bytes)

def decodeCommitment (encoded : String) : Option RecordCommitment := do
  let bytes ← Base64.urlDecode encoded.toList
  if h : bytes.length = 32 then
    if encodeCommitment ⟨bytes, h⟩ = encoded then some ⟨bytes, h⟩ else none
  else none

namespace WireState

def ofDomain (state : RollbackAnchorState) : WireState where
  revisionFloor := decimal state.revisionFloor
  recordCommitment := state.recordCommitment.map encodeCommitment
  fencingToken := decimal state.fencingToken

def commitment (self : WireState) : Option (Option RecordCommitment) :=
  match self.recordCommitment with
  | some encoded => (decodeCommitment encoded).map some
  | none => some none

def intoDomain (self : WireState) : Option RollbackAnchorState := do
  let revisionFloor ← parseCanonicalU64 self.revisionFloor
  let fencingToken ← parseCanonicalU64 self.fencingToken
  let recordCommitment ← self.commitment
  (RollbackAnchorState.new revisionFloor recordCommitment fencingToken).toOption

def toJson (self : WireState) : Value :=
  .object [("revision_floor", .string self.revisionFloor),
    ("record_commitment", (self.recordCommitment.map Json.Value.string).getD .null),
    ("fencing_token", .string self.fencingToken)]

end WireState

/-- A request with its key and states checked. -/
inductive DecodedWireRequest
  | load (key : StorageRecordKey)
  | compareAndSwap (key : StorageRecordKey) (expected replacement : RollbackAnchorState)
  deriving DecidableEq

namespace WireRequest

/-- `WireRequest::load` and `WireRequest::compare_and_swap`. -/
def ofDomain : DecodedWireRequest → WireRequest
  | .load key => .load rollbackAnchorServiceProtocolVersion (.ofDomain key)
  | .compareAndSwap key expected replacement =>
    .compareAndSwap rollbackAnchorServiceProtocolVersion (.ofDomain key) (.ofDomain expected)
      (.ofDomain replacement)

def version : WireRequest → UInt8
  | .load version _ => version
  | .compareAndSwap version .. => version

def intoDomain : WireRequest → Option DecodedWireRequest
  | .load _ key => do return .load (← key.intoDomain)
  | .compareAndSwap _ key expected replacement => do
    return .compareAndSwap (← key.intoDomain) (← expected.intoDomain) (← replacement.intoDomain)

/-- The variant's name stands in the field `operation`. -/
def toJson : WireRequest → Value
  | .load version key =>
    .object [("operation", .string "load"), ("version", .nat version.toNat), ("key", key.toJson)]
  | .compareAndSwap version key expected replacement =>
    .object [("operation", .string "compare_and_swap"), ("version", .nat version.toNat),
      ("key", key.toJson), ("expected", expected.toJson), ("replacement", replacement.toJson)]

end WireRequest

namespace WireResponse

def version : WireResponse → UInt8
  | .state version _ => version
  | .stored version => version
  | .conflict version _ => version

/-- The variant's name stands in the field `outcome`. -/
def toJson : WireResponse → Value
  | .state version current =>
    .object [("outcome", .string "state"), ("version", .nat version.toNat),
      ("state", current.toJson)]
  | .stored version => .object [("outcome", .string "stored"), ("version", .nat version.toNat)]
  | .conflict version actual =>
    .object [("outcome", .string "conflict"), ("version", .nat version.toNat),
      ("actual", actual.toJson)]

end WireResponse

/-- `serde_json::from_slice` at the two message types. -/
class WireReader where
  request : Bytes → Option WireRequest
  response : Bytes → Option WireResponse

/-- The reader takes back what the serialiser wrote, and a blank after a JSON text does
not change what it says. -/
class LawfulWireReader extends WireReader where
  request_encode : ∀ r : WireRequest, request (encode r.toJson) = some r
  response_encode : ∀ r : WireResponse, response (encode r.toJson) = some r
  request_blank : ∀ b : Bytes, request (b ++ [0x20]) = request b

theorem decimal_eq_zero_iff {n : UInt64} : decimal n = "0" ↔ n = 0 := by
  constructor
  · intro h
    have hdig : Nat.toDigits 10 n.toNat = Nat.toDigits 10 0 := ofList_injective h
    have hn := congrArg (Nat.ofDigitChars 10 · 0) hdig
    simp only [Nat.ofDigitChars_toDigits (show 1 < 10 by decide) (by decide)] at hn
    exact UInt64.toNat_inj.mp hn
  · rintro rfl
    rfl

theorem parseCanonicalU64_eq_some_iff {value : String} {n : UInt64} :
    parseCanonicalU64 value = some n ↔ value = decimal n := by
  constructor
  · intro h
    unfold parseCanonicalU64 at h
    split_ifs at h with hzero hshape
    · rw [hzero, ← Option.some.inj h]
      rfl
    · simp only [not_or, not_not, all_eq_true] at hshape
      obtain ⟨hne, hhead, hdig⟩ := hshape
      obtain ⟨_, hback⟩ := toDigits_ofDigitChars hne hdig fun c hc hzero => hhead (hzero ▸ hc)
      simp only [parseDigits] at h
      split_ifs at h with hbound
      rw [decimal, ← Option.some.inj h, UInt64.toNat_ofNat_of_lt' hbound, hback,
        ofList_toList]
  · rintro rfl
    unfold parseCanonicalU64
    split_ifs with hzero hshape
    · rw [decimal_eq_zero_iff.mp hzero]
    · have hpos : 0 < n.toNat := by
        refine Nat.pos_of_ne_zero fun h => hzero (decimal_eq_zero_iff.mpr ?_)
        exact UInt64.toNat_inj.mp h
      rw [decimal, toList_ofList] at hshape
      rcases hshape with hnil | hhead | hdig
      · simp at hnil
      · exact absurd rfl (toDigits_head_ne_zero hpos '0' hhead)
      · refine absurd (all_eq_true.mpr fun c hc => ?_) hdig
        exact Nat.isDigit_of_mem_toDigits (by decide) (by decide) hc
    · rw [decimal, toList_ofList, parseDigits,
        Nat.ofDigitChars_toDigits (by decide) (by decide)]
      simp [n.toNat_lt]

theorem decodeCommitment_eq_some_iff {encoded : String} {commitment : RecordCommitment} :
    decodeCommitment encoded = some commitment ↔ encoded = encodeCommitment commitment := by
  constructor
  · intro h
    simp only [decodeCommitment, Option.bind_eq_bind, Option.bind_eq_some_iff] at h
    obtain ⟨bytes, _, h⟩ := h
    split_ifs at h with hsize hback
    rw [← Option.some.inj h, hback]
  · rintro rfl
    have hdecode : Base64.urlDecode (encodeCommitment commitment).toList = some commitment.bytes := by
      rw [encodeCommitment, toList_ofList, Base64.urlDecode_urlEncode]
    simp [decodeCommitment, hdecode, commitment.size]

namespace WireState

theorem commitment_eq_some_iff {self : WireState} {c : Option RecordCommitment} :
    self.commitment = some c ↔ self.recordCommitment = c.map encodeCommitment := by
  unfold commitment
  cases self.recordCommitment with
  | none => cases c <;> simp
  | some encoded => cases c <;> simp [decodeCommitment_eq_some_iff]

/-- A wire state is accepted exactly when it is the encoding of the state it gives. -/
theorem intoDomain_eq_some_iff {self : WireState} {state : RollbackAnchorState} :
    self.intoDomain = some state ↔ self = ofDomain state := by
  have hnew (revision fence : UInt64) (c : Option RecordCommitment) :
      (RollbackAnchorState.new revision c fence).toOption = some state ↔
        state.revisionFloor = revision ∧ state.recordCommitment = c ∧
          state.fencingToken = fence := by
    rw [← RollbackAnchorState.new_ok_iff]
    cases RollbackAnchorState.new revision c fence <;> simp [Except.toOption]
  obtain ⟨revisionFloor, recordCommitment, fencingToken⟩ := self
  simp only [intoDomain, Option.bind_eq_bind, Option.bind_eq_some_iff,
    parseCanonicalU64_eq_some_iff, commitment_eq_some_iff, hnew, ofDomain, WireState.mk.injEq]
  constructor
  · rintro ⟨revision, rfl, fence, rfl, c, rfl, rfl, rfl, rfl⟩
    exact ⟨rfl, rfl, rfl⟩
  · rintro ⟨rfl, rfl, rfl⟩
    exact ⟨_, rfl, _, rfl, _, rfl, rfl, rfl, rfl⟩

end WireState

theorem WireKey.intoDomain_eq_some_iff {self : WireKey} {key : StorageRecordKey} :
    self.intoDomain = some key ↔ self = ofDomain key := by
  obtain ⟨space, name⟩ := self
  unfold intoDomain StorageRecordKey.new
  constructor
  · intro h
    split_ifs at h with hspace hname
    · rw [← Option.some.inj h]
      rfl
    all_goals simp [Except.toOption] at h
  · intro h
    simp only [ofDomain, WireKey.mk.injEq] at h
    obtain ⟨rfl, rfl⟩ := h
    rw [dif_pos key.space_valid, dif_pos key.name_valid]
    rfl

/-- A request of the protocol's version is accepted exactly when it is the encoding of
the request it gives. -/
theorem WireRequest.intoDomain_eq_some_iff {self : WireRequest} {request : DecodedWireRequest}
    (hver : self.version = rollbackAnchorServiceProtocolVersion) :
    self.intoDomain = some request ↔ self = ofDomain request := by
  cases self with
  | load version key =>
    obtain rfl : version = _ := hver
    cases request with
    | load k => simp [intoDomain, ofDomain, WireKey.intoDomain_eq_some_iff, Option.bind_eq_some_iff]
    | compareAndSwap k expected replacement =>
      simp [intoDomain, ofDomain, Option.bind_eq_some_iff]
  | compareAndSwap version key expected replacement =>
    obtain rfl : version = _ := hver
    cases request with
    | load k => simp [intoDomain, ofDomain, Option.bind_eq_some_iff]
    | compareAndSwap k e r =>
      simp [intoDomain, ofDomain, WireKey.intoDomain_eq_some_iff,
        WireState.intoDomain_eq_some_iff, Option.bind_eq_some_iff]

theorem WireKey.toJson_inj {a b : WireKey} : a.toJson = b.toJson ↔ a = b := by
  cases a
  cases b
  simp [toJson]

theorem WireState.toJson_inj {a b : WireState} : a.toJson = b.toJson ↔ a = b := by
  obtain ⟨r, c, f⟩ := a
  obtain ⟨r', c', f'⟩ := b
  cases c <;> cases c' <;> simp [toJson]

theorem WireRequest.toJson_injective : Function.Injective toJson := by
  intro a b h
  cases a <;> cases b <;>
    simp_all [toJson, UInt8.toNat_inj, WireKey.toJson_inj, WireState.toJson_inj]

theorem WireResponse.toJson_injective : Function.Injective toJson := by
  intro a b h
  cases a <;> cases b <;> simp_all [toJson, UInt8.toNat_inj, WireState.toJson_inj]

/-- A reader as the laws ask for exists: drop the blanks at the end, then take back the
message whose text is left. -/
theorem nonempty_lawfulWireReader : Nonempty LawfulWireReader := by
  let clean (b : Bytes) : Bytes := b.rdropWhile (· == 0x20)
  have hclean (r : WireRequest) : clean (encode r.toJson) = encode r.toJson := by
    obtain ⟨b, hb⟩ : ∃ b, encode r.toJson = b ++ utf8 "\x7d" := by
      cases r <;> exact encode_object_closed _
    rw [hb]
    exact rdropWhile_concat_neg _ _ _ (by decide)
  refine ⟨{
    request b := Function.partialInv (fun r : WireRequest => encode r.toJson) (clean b)
    response := Function.partialInv fun r : WireResponse => encode r.toJson
    request_encode r := ?_
    response_encode := Function.partialInv_left
      (encode_injective.comp WireResponse.toJson_injective)
    request_blank b := ?_ }⟩
  · rw [hclean]
    exact Function.partialInv_left (encode_injective.comp WireRequest.toJson_injective) r
  · exact congrArg _ (rdropWhile_concat_pos _ _ _ (by decide))

theorem utf8Len_decimal (n : UInt64) : utf8Len (stringChars (decimal n)) ≤ 22 := by
  have hdigit (c : Char) (hc : c ∈ Nat.toDigits 10 n.toNat) : 48 ≤ c.toNat ∧ c.toNat ≤ 57 :=
    toNat_of_isDigit (Nat.isDigit_of_mem_toDigits (by decide) (by decide) hc)
  have hplain : (decimal n).toList.all isPlain = true := by
    rw [decimal, toList_ofList]
    refine all_eq_true.mpr fun c hc => ?_
    have hr := hdigit c hc
    exact isPlain_of_toNat (by omega) (by omega) (by omega)
  have hlen : (Nat.toDigits 10 n.toNat).length ≤ 20 :=
    Nat.toDigits_length 10 n.toNat 20 (by decide) (lt_of_lt_of_le n.toNat_lt (by decide))
  rw [utf8Len_stringChars hplain, decimal, utf8ByteSize_ofList,
    utf8Len_of_ascii fun c hc => by have hr := hdigit c hc; omega]
  omega

theorem urlSafe_range {c : Char} (h : Base64.isSextetChar c = true) :
    45 ≤ (Base64.urlSafe c).toNat ∧ (Base64.urlSafe c).toNat ≤ 122 ∧
      (Base64.urlSafe c).toNat ≠ 92 := by
  have hrange := AuthenticatedStore.sextetChar_range h
  unfold Base64.urlSafe
  split_ifs with hplus hslash
  · decide
  · decide
  · have hne : c.toNat ≠ 43 := fun h => hplus (Char.toNat_inj.mp h)
    have hc44 : c.toNat ≠ 44 := by
      intro hc
      obtain rfl : c = ',' := Char.toNat_inj.mp hc
      exact absurd h (by decide)
    omega

theorem utf8Len_commitment (commitment : RecordCommitment) :
    utf8Len (stringChars (encodeCommitment commitment)) = 45 := by
  have hrange (c : Char) (hc : c ∈ Base64.urlEncode commitment.bytes) :
      45 ≤ c.toNat ∧ c.toNat ≤ 122 ∧ c.toNat ≠ 92 := by
    obtain ⟨d, hd, rfl⟩ := mem_map.mp hc
    exact urlSafe_range (all_eq_true.mp (Base64.encode_all _) d hd)
  have hplain : (encodeCommitment commitment).toList.all isPlain = true := by
    rw [encodeCommitment, toList_ofList]
    refine all_eq_true.mpr fun c hc => ?_
    have hr := hrange c hc
    exact isPlain_of_toNat (by omega) (by omega) (by omega)
  rw [utf8Len_stringChars hplain, encodeCommitment, utf8ByteSize_ofList,
    utf8Len_of_ascii fun c hc => by have hr := hrange c hc; omega, Base64.urlEncode_length,
    commitment.size]

theorem utf8Len_token {value : String} {n : ℕ} (h : isValidToken value n = true) :
    utf8Len (stringChars value) ≤ n + 2 := by
  rw [utf8Len_stringChars (all_isPlain_of_token (isValidToken_chars h))]
  have hsize := isValidToken_size h
  omega

/-- The names of the members, with their quotes. -/
theorem utf8Len_names : ["operation", "outcome", "version", "key", "expected", "replacement",
    "namespace", "name", "state", "actual", "revision_floor", "record_commitment",
    "fencing_token"].map (fun s => utf8Len (stringChars s)) =
    [11, 9, 9, 5, 10, 13, 11, 6, 7, 8, 16, 19, 15] := by
  decide +kernel

theorem WireState.utf8Len_toJson (state : RollbackAnchorState) :
    utf8Len (chars (ofDomain state).toJson) ≤ 146 := by
  have hnames := utf8Len_names
  simp only [map_cons, map_nil, cons.injEq, and_true] at hnames
  obtain ⟨_, _, _, _, _, _, _, _, _, _, hrev, hcommitment, hfence⟩ := hnames
  have hr := utf8Len_decimal state.revisionFloor
  have hf := utf8Len_decimal state.fencingToken
  have hc : utf8Len (chars
      (((ofDomain state).recordCommitment.map Json.Value.string).getD .null)) ≤ 45 := by
    rw [ofDomain]
    cases state.recordCommitment with
    | none => exact (by decide : utf8Len (chars .null) ≤ 45)
    | some c => exact le_of_eq ((congrArg _ (chars_string _)).trans (utf8Len_commitment c))
  rw [toJson, utf8Len_object (by simp)]
  simp only [map_cons, map_nil, sum_cons, sum_nil, hrev, hcommitment,
    hfence, chars_string, ofDomain] at hc ⊢
  omega

theorem WireKey.utf8Len_toJson (key : StorageRecordKey) :
    utf8Len (chars (ofDomain key).toJson) ≤ 218 := by
  have hnames := utf8Len_names
  simp only [map_cons, map_nil, cons.injEq, and_true] at hnames
  obtain ⟨_, _, _, _, _, _, hspace, hname, _⟩ := hnames
  have hs := utf8Len_token key.space_valid
  have hn := utf8Len_token key.name_valid
  simp only [maxStorageRecordNamespaceBytes, maxStorageRecordNameBytes] at hs hn
  rw [toJson, utf8Len_object (by simp)]
  simp only [map_cons, map_nil, sum_cons, sum_nil, hspace, hname,
    chars_string, ofDomain]
  omega

/-- No request the client builds is too large. -/
theorem WireRequest.size_ofDomain (request : DecodedWireRequest) :
    (encode (ofDomain request).toJson).length < maxRollbackAnchorServiceRequestBytes := by
  have hnames := utf8Len_names
  simp only [map_cons, map_nil, cons.injEq, and_true] at hnames
  obtain ⟨hop, _, hver, hkey, hexp, hrepl, _⟩ := hnames
  have hv : utf8Len (chars (.nat rollbackAnchorServiceProtocolVersion.toNat)) ≤ 1 :=
    utf8Len_nat (by decide) (by decide)
  have hload : utf8Len (stringChars "load") = 6 := by decide +kernel
  have hswap : utf8Len (stringChars "compare_and_swap") = 18 := by decide +kernel
  rw [encode_length]
  cases request with
  | load key =>
    have hk := WireKey.utf8Len_toJson key
    rw [ofDomain, toJson, utf8Len_object (by simp)]
    simp only [map_cons, map_nil, sum_cons, sum_nil, hop, hver,
      hkey, chars_string, hload, maxRollbackAnchorServiceRequestBytes]
    omega
  | compareAndSwap key expected replacement =>
    have hk := WireKey.utf8Len_toJson key
    have he := WireState.utf8Len_toJson expected
    have hr := WireState.utf8Len_toJson replacement
    rw [ofDomain, toJson, utf8Len_object (by simp)]
    simp only [map_cons, map_nil, sum_cons, sum_nil, hop, hver,
      hkey, hexp, hrepl, chars_string, hswap, maxRollbackAnchorServiceRequestBytes]
    omega

theorem WireResponse.size_aux {name field : String} {state : RollbackAnchorState}
    (hname : utf8Len (stringChars name) ≤ 10)
    (hfield : utf8Len (stringChars field) ≤ 10) :
    utf8Len (chars (.object [("outcome", .string name),
      ("version", .nat rollbackAnchorServiceProtocolVersion.toNat),
      (field, (WireState.ofDomain state).toJson)])) ≤ maxRollbackAnchorServiceResponseBytes := by
  have hnames := utf8Len_names
  simp only [map_cons, map_nil, cons.injEq, and_true] at hnames
  obtain ⟨_, hout, hver, _⟩ := hnames
  have hv : utf8Len (chars (.nat rollbackAnchorServiceProtocolVersion.toNat)) ≤ 1 :=
    utf8Len_nat (by decide) (by decide)
  have hs := WireState.utf8Len_toJson state
  rw [utf8Len_object (by simp)]
  simp only [map_cons, map_nil, sum_cons, sum_nil, hout, hver,
    chars_string, maxRollbackAnchorServiceResponseBytes]
  omega

inductive RollbackAnchorServiceError
  | requestTooLarge (maximum : ℕ)
  | invalidRequest
  | unsupportedRequestVersion
  | invalidRequestedTransition (error : RollbackAnchorStateTransitionError)
  | backend
  | responseTooLarge (maximum : ℕ)
  deriving DecidableEq

def decodeServiceRequest [WireReader] (request : Bytes) :
    Except RollbackAnchorServiceError DecodedWireRequest := do
  rejectIf (request.length > maxRollbackAnchorServiceRequestBytes)
    (.requestTooLarge maxRollbackAnchorServiceRequestBytes)
  let request ← (WireReader.request request).okOr .invalidRequest
  rejectIf (request.version ≠ rollbackAnchorServiceProtocolVersion) .unsupportedRequestVersion
  request.intoDomain.okOr .invalidRequest

def encodeServiceResponse (response : WireResponse) : Except RollbackAnchorServiceError Bytes := do
  let bytes := encode response.toJson
  rejectIf (bytes.length > maxRollbackAnchorServiceResponseBytes)
    (.responseTooLarge maxRollbackAnchorServiceResponseBytes)
  return bytes

/-- What an anchor returns for a request. -/
inductive AnchorReply
  | state (state : RollbackAnchorState)
  | outcome (outcome : RollbackAnchorCompareAndSwapOutcome)
  deriving DecidableEq

def WireResponse.ofReply : AnchorReply → WireResponse
  | .state s => .state rollbackAnchorServiceProtocolVersion (.ofDomain s)
  | .outcome .stored => .stored rollbackAnchorServiceProtocolVersion
  | .outcome (.conflict actual) => .conflict rollbackAnchorServiceProtocolVersion (.ofDomain actual)

/-- No response the service builds is too large. -/
theorem WireResponse.size_ofReply (reply : AnchorReply) :
    (encode (ofReply reply).toJson).length ≤ maxRollbackAnchorServiceResponseBytes := by
  rw [encode_length]
  match reply with
  | .state s => exact size_aux (by decide +kernel) (by decide +kernel)
  | .outcome .stored => decide +kernel
  | .outcome (.conflict actual) => exact size_aux (by decide +kernel) (by decide +kernel)

theorem encodeServiceResponse_ofReply (reply : AnchorReply) :
    encodeServiceResponse (.ofReply reply) = .ok (encode (WireResponse.ofReply reply).toJson) := by
  have hsize := WireResponse.size_ofReply reply
  simp [encodeServiceResponse, rejectIf, Nat.not_lt.mpr hsize, pure, Except.pure, bind, Except.bind]

namespace RollbackAnchorService
variable {A E : Type} [RollbackAnchor A E]

abbrev Call (A α : Type) := Mut A RollbackAnchorServiceError α

/-- The anchor's own operation. -/
def call : DecodedWireRequest → Mut A E AnchorReply
  | .load key => do
    let anchor ← Mut.self
    let state ← RollbackAnchor.load anchor key
    return .state state
  | .compareAndSwap key expected replacement => do
    let outcome ← RollbackAnchor.compareAndSwap key expected replacement
    return .outcome outcome

def respond : DecodedWireRequest → Call A WireResponse
  | .load key => do
    let reply ← (call (.load key)).mapErr fun _ => RollbackAnchorServiceError.backend
    return .ofReply reply
  | .compareAndSwap key expected replacement => do
    (validateStateTransition expected replacement).mapError
      RollbackAnchorServiceError.invalidRequestedTransition
    let reply ← (call (.compareAndSwap key expected replacement)).mapErr
      fun _ => RollbackAnchorServiceError.backend
    return .ofReply reply

def handleDecodedRequest (request : DecodedWireRequest) : Call A Bytes := do
  let response ← respond request
  encodeServiceResponse response

def handleRequest [WireReader] (request : Bytes) : Call A Bytes := do
  let request ← decodeServiceRequest request
  handleDecodedRequest request

end RollbackAnchorService

inductive TrustedServiceRollbackAnchorError
  | transport
  | requestTooLarge (maximum : ℕ)
  | responseTooLarge (maximum : ℕ)
  | invalidResponse
  | unsupportedResponseVersion
  | unexpectedResponse
  | expectedStateRegressed (error : RollbackAnchorStateTransitionError)
  | invalidRequestedTransition (error : RollbackAnchorStateTransitionError)
  | observedStateRegression (error : RollbackAnchorStateTransitionError)
  deriving DecidableEq

/-- The transport sends a request and returns the complete response body. -/
inductive TransportOp
  | exchange (request : Bytes) (maximumResponseBytes : ℕ)

@[reducible] def TransportOp.Answer (E : Type) : TransportOp → Type
  | .exchange .. => Except E Bytes

/-- The states this process has observed. -/
structure TrustedServiceRollbackAnchor where
  observed : Std.ExtTreeMap StorageRecordKey RollbackAnchorState

namespace TrustedServiceRollbackAnchor
variable {E : Type}

abbrev Call (E α : Type) := Effectful TransportOp (TransportOp.Answer E) TrustedServiceRollbackAnchor
  TrustedServiceRollbackAnchorError α

def new : TrustedServiceRollbackAnchor := ⟨∅⟩

/-- What `exchange` makes of the transport's answer. -/
def readResponse [WireReader] (answer : Except E Bytes) :
    Except TrustedServiceRollbackAnchorError WireResponse := do
  let response ← answer.mapError fun _ => .transport
  rejectIf (response.length > maxRollbackAnchorServiceResponseBytes)
    (.responseTooLarge maxRollbackAnchorServiceResponseBytes)
  let response ← (WireReader.response response).okOr .invalidResponse
  rejectIf (response.version ≠ rollbackAnchorServiceProtocolVersion) .unsupportedResponseVersion
  return response

def exchange [WireReader] (request : WireRequest) : Call E WireResponse := do
  let request := encode request.toJson
  Effectful.check (rejectIf (request.length > maxRollbackAnchorServiceRequestBytes)
    (.requestTooLarge maxRollbackAnchorServiceRequestBytes))
  let answer ← Effectful.perform
    (TransportOp.exchange request maxRollbackAnchorServiceResponseBytes)
  Effectful.check (readResponse answer)

/-- A state must follow what was observed for the key, if anything was. -/
def validateAgainstObserved (self : TrustedServiceRollbackAnchor) (key : StorageRecordKey)
    (state : RollbackAnchorState) : Except RollbackAnchorStateTransitionError Unit :=
  match self.observed[key]? with
  | some previous => validateStateTransition previous state
  | none => .ok ()

def observe (key : StorageRecordKey) (state : RollbackAnchorState) :
    Mut TrustedServiceRollbackAnchor TrustedServiceRollbackAnchorError Unit := do
  let self ← Mut.self
  (self.validateAgainstObserved key state).mapError
    TrustedServiceRollbackAnchorError.observedStateRegression
  Mut.assign ⟨self.observed.insert key state⟩

def decodeState (state : WireState) : Except TrustedServiceRollbackAnchorError RollbackAnchorState :=
  state.intoDomain.okOr .invalidResponse

def validateExpectedAgainstObserved (self : TrustedServiceRollbackAnchor) (key : StorageRecordKey)
    (expected : RollbackAnchorState) : Except TrustedServiceRollbackAnchorError Unit :=
  (self.validateAgainstObserved key expected).mapError .expectedStateRegressed

def receiveLoad (key : StorageRecordKey) : WireResponse →
    Mut TrustedServiceRollbackAnchor TrustedServiceRollbackAnchorError RollbackAnchorState
  | .state _ state => do
    let state ← decodeState state
    observe key state
    return state
  | .stored _ => throw .unexpectedResponse
  | .conflict .. => throw .unexpectedResponse

def load [WireReader] (key : StorageRecordKey) : Call E RollbackAnchorState := do
  let response ← exchange (.ofDomain (.load key))
  Effectful.ofMut (receiveLoad key response)

def receiveCompareAndSwap (key : StorageRecordKey) (replacement : RollbackAnchorState) :
    WireResponse → Mut TrustedServiceRollbackAnchor TrustedServiceRollbackAnchorError
      RollbackAnchorCompareAndSwapOutcome
  | .stored _ => do
    observe key replacement
    return .stored
  | .conflict _ actual => do
    let actual ← decodeState actual
    observe key actual
    return .conflict actual
  | .state .. => throw .unexpectedResponse

/-- What is checked before a swap is sent. -/
def checkRequest (self : TrustedServiceRollbackAnchor) (key : StorageRecordKey)
    (expected replacement : RollbackAnchorState) :
    Except TrustedServiceRollbackAnchorError Unit := do
  self.validateExpectedAgainstObserved key expected
  (validateStateTransition expected replacement).mapError .invalidRequestedTransition

def compareAndSwap [WireReader] (key : StorageRecordKey)
    (expected replacement : RollbackAnchorState) : Call E RollbackAnchorCompareAndSwapOutcome := do
  let self ← Effectful.self
  Effectful.check (self.checkRequest key expected replacement)
  let response ← exchange (.ofDomain (.compareAndSwap key expected replacement))
  Effectful.ofMut (receiveCompareAndSwap key replacement response)

end TrustedServiceRollbackAnchor

end Octoscript
