import Octoscript.Lib.Machine
import Octoscript.Protocol.Message

namespace Octoscript
open Wire

inductive SessionRole
  | host
  | worker
  deriving DecidableEq

namespace SessionRole

def peer : SessionRole → SessionRole
  | .host => .worker
  | .worker => .host

def tag : SessionRole → String
  | .host => "host"
  | .worker => "worker"

theorem tag_injective : Function.Injective tag := by
  intro a b h
  cases a <;> cases b <;> simp_all [tag]

end SessionRole

/-- A session key; the all-zero key is refused. -/
structure SessionKey extends HashKey where
  strong : bytes.all (· == 0) = false
  deriving DecidableEq

def SessionKey.fromBytes (key : HashKey) : Except ProtocolError SessionKey :=
  if h : key.bytes.all (· == 0) = false then .ok ⟨key, h⟩ else .error .weakSessionKey

/-- The bytes that a tag authenticates. -/
def authenticationPayload (sessionId : String) (sender : SessionRole) (sequence : UInt64)
    (message : WorkerMessage) : Bytes :=
  Json.encode (.object [("domain", .string "octoscript-worker-auth-v5"),
    ("protocol_version", .nat protocolVersion.toNat), ("sender", .string sender.tag),
    ("sequence", .nat sequence.toNat), ("session_id", .string sessionId),
    ("message", message.toJson)])

/-- Equal payloads are of one sender, sequence number, session and message. -/
theorem authenticationPayload_inj {sessionId sessionId' : String} {sender sender' : SessionRole}
    {sequence sequence' : UInt64} {message message' : WorkerMessage} :
    authenticationPayload sessionId sender sequence message =
        authenticationPayload sessionId' sender' sequence' message' ↔
      sender = sender' ∧ sequence = sequence' ∧ sessionId = sessionId' ∧ message = message' := by
  rw [authenticationPayload, authenticationPayload, Json.encode_injective.eq_iff]
  simp [SessionRole.tag_injective.eq_iff, UInt64.toNat_inj, WorkerMessage.toJson_inj]

def authenticationTag [Blake3] (key : SessionKey) (sessionId : String) (sender : SessionRole)
    (sequence : UInt64) (message : WorkerMessage) : Except ProtocolError Digest := do
  let encoded := authenticationPayload sessionId sender sequence message
  rejectIf (encoded.length > maxWireFrameBytes)
    (.wireFrameTooLarge encoded.length maxWireFrameBytes)
  return Blake3.keyedHash key.toHashKey encoded

/-- A message that fits a frame has a tag. -/
theorem authenticationTag_ok [Blake3] {key : SessionKey} {sessionId : String} {sender : SessionRole}
    {sequence : UInt64} {message : WorkerMessage}
    (h : (authenticationPayload sessionId sender sequence message).length ≤ maxWireFrameBytes) :
    authenticationTag key sessionId sender sequence message =
      .ok (Blake3.keyedHash key.toHashKey
        (authenticationPayload sessionId sender sequence message)) := by
  rw [authenticationTag, Except.bind_ok_iff]
  exact ⟨(), Except.rejectIf_ok_iff.mpr (not_lt.mpr h), rfl⟩

def encodeAuthTag (tag : Digest) : String := tag.toHex

def decodeAuthTag (encoded : String) : Except ProtocolError Digest := do
  rejectIf (encoded.utf8ByteSize ≠ 64) .invalidAuthenticationTag
  match hexDecode encoded.toList with
  | some bytes => if h : bytes.length = 32 then return ⟨bytes, h⟩ else throw .invalidAuthenticationTag
  | none => throw .invalidAuthenticationTag

structure AuthenticatedWorkerMessage where
  sequence : UInt64
  message : WorkerMessage
  authTag : String
  deriving DecidableEq

namespace AuthenticatedWorkerMessage

def validateSyntax (f : AuthenticatedWorkerMessage) : Except ProtocolError Unit := do
  rejectIf (f.sequence = 0) .invalidSequence
  f.message.validate
  let _ ← decodeAuthTag f.authTag

def toJson (f : AuthenticatedWorkerMessage) : Json.Value :=
  .object [("sequence", .nat f.sequence.toNat), ("message", f.message.toJson),
    ("auth_tag", .string f.authTag)]

def toJsonLine (f : AuthenticatedWorkerMessage) : Except ProtocolError String := do
  f.validateSyntax
  let encoded := Json.text f.toJson
  rejectIf (encoded.utf8ByteSize > maxWireFrameBytes)
    (.wireFrameTooLarge encoded.utf8ByteSize maxWireFrameBytes)
  return encoded

theorem toJsonLine_ok {f : AuthenticatedWorkerMessage} (hshape : f.validateSyntax = .ok ())
    (hsize : String.utf8Len (Json.chars f.toJson) ≤ maxWireFrameBytes) :
    f.toJsonLine = .ok (Json.text f.toJson) := by
  rw [toJsonLine, Except.bind_ok_iff]
  refine ⟨(), hshape, Except.bind_ok_iff.mpr ⟨(), Except.rejectIf_ok_iff.mpr (not_lt.mpr ?_), rfl⟩⟩
  rwa [Json.text, String.utf8ByteSize_ofList]

end AuthenticatedWorkerMessage

/-- `u64::MAX`. -/
def maxSequence : UInt64 := 18446744073709551615

/-- One end of a session, with its next outgoing and incoming sequence numbers. -/
structure SessionAuthenticator where
  sessionId : String
  key : SessionKey
  role : SessionRole
  (nextOutgoingSequence nextIncomingSequence : UInt64)
  deriving DecidableEq

namespace SessionAuthenticator
variable {message : WorkerMessage} {frame : AuthenticatedWorkerMessage}

def new (sessionId : String) (key : SessionKey) (role : SessionRole) :
    Except ProtocolError SessionAuthenticator := do
  validateToken "session id" sessionId
  return { sessionId, key, role, nextOutgoingSequence := 1, nextIncomingSequence := 1 }

/-- A method of the authenticator. -/
abbrev Call (α : Type) := Mut SessionAuthenticator ProtocolError α

@[simps]
def advanceOutgoing (self : SessionAuthenticator) : SessionAuthenticator :=
  { self with nextOutgoingSequence := self.nextOutgoingSequence.saturatingSucc }

@[simps]
def advanceIncoming (self : SessionAuthenticator) : SessionAuthenticator :=
  { self with nextIncomingSequence := self.nextIncomingSequence.saturatingSucc }

def sealFrame [Blake3] (message : WorkerMessage) : Call AuthenticatedWorkerMessage := do
  let self ← Mut.self
  message.validate
  rejectIf (message.sessionId ≠ self.sessionId) (.unknownSession message.sessionId)
  rejectIf (self.nextOutgoingSequence = maxSequence) .sequenceExhausted
  let sequence := self.nextOutgoingSequence
  let tag ← authenticationTag self.key self.sessionId self.role sequence message
  let frame : AuthenticatedWorkerMessage := { sequence, message, authTag := encodeAuthTag tag }
  let _ ← frame.toJsonLine
  Mut.assign self.advanceOutgoing
  return frame

def openFrame [Blake3] (frame : AuthenticatedWorkerMessage) : Call WorkerMessage := do
  let self ← Mut.self
  frame.validateSyntax
  let suppliedTag ← decodeAuthTag frame.authTag
  let expectedTag ← authenticationTag self.key self.sessionId self.role.peer frame.sequence
    frame.message
  rejectIf (expectedTag ≠ suppliedTag) .invalidAuthenticationTag
  rejectIf (frame.message.sessionId ≠ self.sessionId) (.unknownSession frame.message.sessionId)
  rejectIf (frame.sequence ≠ self.nextIncomingSequence)
    (.unexpectedSequence self.nextIncomingSequence frame.sequence)
  rejectIf (self.nextIncomingSequence = maxSequence) .sequenceExhausted
  Mut.assign self.advanceIncoming
  return frame.message

variable {s s' : SessionAuthenticator}

theorem returns_sealFrame [Blake3] (h : (sealFrame message).Returns s frame s') :
    s.nextOutgoingSequence ≠ maxSequence ∧ frame.sequence = s.nextOutgoingSequence ∧
      frame.message = message ∧ s' = s.advanceOutgoing := by
  simp only [sealFrame, Mut.returns_bind, Mut.returns_self, Mut.returns_lift,
    Mut.returns_rejectIf, Mut.returns_assign, Mut.returns_pure] at h
  obtain ⟨_, _, ⟨rfl, rfl⟩, _, _, ⟨_, rfl⟩, _, _, ⟨_, rfl⟩, _, _, ⟨hbound, rfl⟩, _, _, ⟨_, rfl⟩, _, _,
    ⟨_, rfl⟩, _, _, rfl, rfl, rfl⟩ := h
  exact ⟨hbound, rfl, rfl, rfl⟩

theorem returns_openFrame [Blake3] (h : (openFrame frame).Returns s message s') :
    (∃ tag, decodeAuthTag frame.authTag = .ok tag ∧
      authenticationTag s.key s.sessionId s.role.peer frame.sequence frame.message = .ok tag) ∧
      frame.sequence = s.nextIncomingSequence ∧ s.nextIncomingSequence ≠ maxSequence ∧
      message = frame.message ∧ s' = s.advanceIncoming := by
  simp only [openFrame, Mut.returns_bind, Mut.returns_self, Mut.returns_lift, Mut.returns_rejectIf,
    Mut.returns_assign, Mut.returns_pure, not_not] at h
  obtain ⟨_, _, ⟨rfl, rfl⟩, _, _, ⟨_, rfl⟩, tag, _, ⟨hsupplied, rfl⟩, _, _, ⟨hexp, rfl⟩, _, _,
    ⟨rfl, rfl⟩, _, _, ⟨_, rfl⟩, _, _, ⟨hseq, rfl⟩, _, _, ⟨hbound, rfl⟩, _, _, rfl, rfl, rfl⟩ := h
  exact ⟨⟨_, hsupplied, hexp⟩, hseq, hbound, rfl, rfl⟩

theorem openFrame_returns [Blake3] {tag : Digest}
    (hshape : frame.validateSyntax = .ok ()) (hsupplied : decodeAuthTag frame.authTag = .ok tag)
    (hexp : authenticationTag s.key s.sessionId s.role.peer frame.sequence frame.message =
      .ok tag) (hsess : frame.message.sessionId = s.sessionId)
    (hseq : frame.sequence = s.nextIncomingSequence)
    (hbound : s.nextIncomingSequence ≠ maxSequence) :
    (openFrame frame).Returns s frame.message s.advanceIncoming := by
  rw [hseq] at hexp
  simp [openFrame, hshape, hsupplied, hexp, hsess, hseq, hbound]

theorem sealFrame_returns [Blake3] {tag : Digest}
    (hvalid : message.validate = .ok ()) (hsess : message.sessionId = s.sessionId)
    (hbound : s.nextOutgoingSequence ≠ maxSequence)
    (htag : authenticationTag s.key s.sessionId s.role s.nextOutgoingSequence message = .ok tag)
    {line : String} (hline : AuthenticatedWorkerMessage.toJsonLine
      ⟨s.nextOutgoingSequence, message, encodeAuthTag tag⟩ = .ok line) :
    (sealFrame message).Returns s ⟨s.nextOutgoingSequence, message, encodeAuthTag tag⟩
      s.advanceOutgoing := by
  simp [sealFrame, hvalid, hsess, hbound, htag, hline]

open Mut

theorem keepsOnError_sealFrame [Blake3] (message : WorkerMessage) :
    (sealFrame message).KeepsOnError := by
  refine keepsOnError_self_bind fun _ => keepsOnError_lift_bind fun _ =>
    keepsOnError_rejectIf_bind <| keepsOnError_rejectIf_bind <| keepsOnError_lift_bind fun _ =>
    keepsOnError_lift_bind fun _ => ?_
  exact KeepsOnError.bind_pure fun _ _ _ h => absurd h fails_assign

theorem keepsOnError_openFrame [Blake3] (frame : AuthenticatedWorkerMessage) :
    (openFrame frame).KeepsOnError := by
  refine keepsOnError_self_bind fun _ => keepsOnError_lift_bind fun _ =>
    keepsOnError_lift_bind fun _ => keepsOnError_lift_bind fun _ => keepsOnError_rejectIf_bind <|
    keepsOnError_rejectIf_bind <| keepsOnError_rejectIf_bind <| keepsOnError_rejectIf_bind ?_
  exact KeepsOnError.bind_pure fun _ _ _ h => absurd h fails_assign

end SessionAuthenticator

end Octoscript
