import Octoscript.Lib.Stream
import Octoscript.Protocol.Channel

namespace Octoscript
open Wire

def privatePipeWorkerBootstrapVersion : UInt8 := 1

/-- `SPLPBOOT`. -/
def privatePipeWorkerBootstrapMagic : Bytes := [83, 80, 76, 80, 66, 79, 79, 84]

inductive PrivatePipeWorkerBootstrapError
  | io
  | invalidMagic
  | unsupportedVersion (version : UInt8)
  | invalidSessionIdLength (actual maximum : ℕ)
  | invalidSessionIdEncoding
  | protocol (error : ProtocolError)
  deriving DecidableEq

/-- A bootstrap is bound to a session whose name is a token. -/
structure PrivatePipeWorkerBootstrap where
  sessionId : String
  key : SessionKey
  token : IsToken sessionId
  deriving DecidableEq

namespace PrivatePipeWorkerBootstrap

/-- A method on one end of the pipe. -/
abbrev Call (α : Type) := Mut Bytes PrivatePipeWorkerBootstrapError α

/-- `validate_token`, with what it found out. -/
def checkSessionId (sessionId : String) :
    Except ProtocolError {value : String // IsToken value} :=
  if h : IsToken sessionId then .ok ⟨sessionId, h⟩
  else .error (.invalidToken "session id" sessionId)

def new (sessionId : String) (key : SessionKey) :
    Except ProtocolError PrivatePipeWorkerBootstrap := do
  let sessionId ← checkSessionId sessionId
  return ⟨sessionId.1, key, sessionId.2⟩

def writeTo (self : PrivatePipeWorkerBootstrap) : Call Unit := do
  let sessionId := utf8 self.sessionId
  rejectIf (sessionId.length > 255) (.invalidSessionIdLength sessionId.length maxTokenBytes)
  let sessionIdLen := UInt8.ofNat sessionId.length
  writeAll privatePipeWorkerBootstrapMagic
  writeAll [privatePipeWorkerBootstrapVersion]
  writeAll [sessionIdLen]
  writeAll sessionId
  writeAll self.key.bytes

def readFrom : Call PrivatePipeWorkerBootstrap := do
  let magic ← readExact .io privatePipeWorkerBootstrapMagic.length
  rejectIf (magic.1 ≠ privatePipeWorkerBootstrapMagic) .invalidMagic
  let version ← readByte .io
  rejectIf (version ≠ privatePipeWorkerBootstrapVersion) (.unsupportedVersion version)
  let sessionIdLen ← readByte .io
  let sessionIdLen := sessionIdLen.toNat
  rejectIf (sessionIdLen = 0 ∨ sessionIdLen > maxTokenBytes)
    (.invalidSessionIdLength sessionIdLen maxTokenBytes)
  let sessionId ← readExact .io sessionIdLen
  let sessionId ← (fromUtf8 sessionId.1).okOr
    PrivatePipeWorkerBootstrapError.invalidSessionIdEncoding
  let sessionId ← (checkSessionId sessionId).mapError PrivatePipeWorkerBootstrapError.protocol
  let key ← readExact .io 32
  let key ← (SessionKey.fromBytes ⟨key.1, key.2⟩).mapError PrivatePipeWorkerBootstrapError.protocol
  return ⟨sessionId.1, key, sessionId.2⟩

/-- The bytes of a bootstrap on the pipe. -/
def frame (self : PrivatePipeWorkerBootstrap) : Bytes :=
  privatePipeWorkerBootstrapMagic ++ privatePipeWorkerBootstrapVersion ::
    UInt8.ofNat (utf8 self.sessionId).length :: (utf8 self.sessionId ++ self.key.bytes)

/-- A name is neither empty nor longer than a length byte can say. -/
theorem length_sessionId (self : PrivatePipeWorkerBootstrap) :
    0 < (utf8 self.sessionId).length ∧ (utf8 self.sessionId).length ≤ maxTokenBytes := by
  obtain ⟨hne, hsize, _⟩ := self.token
  rw [utf8_length]
  refine ⟨?_, hsize⟩
  rw [Nat.pos_iff_ne_zero]
  simpa using hne

theorem toNat_length (self : PrivatePipeWorkerBootstrap) :
    (UInt8.ofNat (utf8 self.sessionId).length).toNat = (utf8 self.sessionId).length := by
  have hsize := (length_sessionId self).2
  simp only [maxTokenBytes] at hsize
  exact UInt8.toNat_ofNat_of_lt' (by simpa using (by omega : _ < 256))

theorem returns_writeTo {self : PrivatePipeWorkerBootstrap} {out out' : Bytes} {u : Unit} :
    self.writeTo.Returns out u out' ↔ out' = out ++ self.frame := by
  have hsize := (length_sessionId self).2
  simp only [maxTokenBytes] at hsize
  simp only [writeTo, Mut.returns_bind, Mut.returns_rejectIf, returns_writeAll, frame]
  constructor
  · rintro ⟨_, _, ⟨_, rfl⟩, _, _, rfl, _, _, rfl, _, _, rfl, _, _, rfl, rfl⟩
    simp
  · rintro rfl
    exact ⟨(), _, ⟨by omega, rfl⟩, (), _, rfl, (), _, rfl, (), _, rfl, (), _, rfl, by simp⟩

theorem checkSessionId_ok_iff {sessionId : String} {value : {value : String // IsToken value}} :
    checkSessionId sessionId = .ok value ↔ sessionId = value.1 := by
  unfold checkSessionId
  split
  · next h => simp [Subtype.ext_iff]
  · next h =>
    simp only [reduceCtorEq, false_iff]
    rintro rfl
    exact h value.2

theorem fromBytes_ok_iff {key : HashKey} {strong : SessionKey} :
    SessionKey.fromBytes key = .ok strong ↔ key = strong.toHashKey := by
  unfold SessionKey.fromBytes
  split
  · next h =>
    rw [Except.ok.injEq]
    constructor
    · rintro rfl
      rfl
    · rintro rfl
      rfl
  · next h =>
    simp only [reduceCtorEq, false_iff]
    rintro rfl
    exact h strong.strong

theorem returns_readFrom {stream rest : Bytes} {self : PrivatePipeWorkerBootstrap} :
    readFrom.Returns stream self rest ↔ stream = self.frame ++ rest := by
  simp only [readFrom, Mut.returns_bind, Mut.returns_rejectIf, returns_readExact,
    returns_readByte, Mut.returns_lift, Mut.returns_pure, Option.okOr_ok_iff,
    Except.mapError_ok_iff, checkSessionId_ok_iff, fromBytes_ok_iff, not_not, not_or]
  constructor
  · rintro ⟨magic, _, rfl, _, _, ⟨hmagic, rfl⟩, _, _, rfl, _, _, ⟨rfl, rfl⟩, len, _, rfl, _, _,
      ⟨hlen, rfl⟩, name, _, rfl, text, _, ⟨htext, rfl⟩, id, _, ⟨rfl, rfl⟩, bytes, _, rfl, key, _,
      ⟨hkey, rfl⟩, rfl, rfl⟩
    have hname : utf8 id.1 = name.1 := utf8_of_fromUtf8 htext
    have hbytes : key.bytes = bytes.1 := by rw [← hkey]
    rw [frame, hname, hbytes, hmagic, name.2, UInt8.ofNat_toNat]
    simp
  · rintro rfl
    have hlength := length_sessionId self
    have hbyte := toNat_length self
    have hstream : self.frame ++ rest = privatePipeWorkerBootstrapMagic ++
        privatePipeWorkerBootstrapVersion :: UInt8.ofNat (utf8 self.sessionId).length ::
          (utf8 self.sessionId ++ (self.key.bytes ++ rest)) := by
      simp [frame]
    exact ⟨⟨privatePipeWorkerBootstrapMagic, rfl⟩, _, hstream, (), _, ⟨rfl, rfl⟩, _, _, rfl, (), _,
      ⟨rfl, rfl⟩, _, _, rfl, (), _, ⟨⟨by omega, by omega⟩, rfl⟩,
      ⟨utf8 self.sessionId, hbyte.symm⟩, _, rfl, _, _, ⟨fromUtf8_utf8 _, rfl⟩,
      ⟨self.sessionId, self.token⟩, _, ⟨rfl, rfl⟩, ⟨self.key.bytes, self.key.size⟩, rest, rfl,
      self.key, _, ⟨rfl, rfl⟩, rfl, rfl⟩

/-- Writing a bootstrap succeeds, and what a worker reads back from a stream is the bootstrap
whose bytes the stream starts with; it leaves the rest unread. -/
theorem returns_readFrom_writeTo (self : PrivatePipeWorkerBootstrap) :
    ∃ written, self.writeTo.Returns [] () written ∧
      ∀ stream rest, readFrom.Returns stream self rest ↔ stream = written ++ rest :=
  ⟨self.frame, returns_writeTo.mpr rfl, fun _ _ => returns_readFrom⟩

end PrivatePipeWorkerBootstrap

end Octoscript
