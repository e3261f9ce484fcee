import Octoscript.Lib.Calls
import Octoscript.Protocol.Channel

namespace Octoscript

open SessionAuthenticator

/-- The outgoing half of an authenticator. -/
structure SessionFrameSealer where
  sessionId : String
  key : SessionKey
  role : SessionRole
  nextOutgoingSequence : UInt64
  deriving DecidableEq

/-- The incoming half of an authenticator. -/
structure SessionFrameOpener where
  sessionId : String
  key : SessionKey
  role : SessionRole
  nextIncomingSequence : UInt64
  deriving DecidableEq

namespace SessionFrameSealer

def sealFrame [Blake3] (message : WorkerMessage) :
    Mut SessionFrameSealer ProtocolError AuthenticatedWorkerMessage := do
  let self ← Mut.self
  message.validate
  rejectIf (message.sessionId ≠ self.sessionId) (.unknownSession message.sessionId)
  rejectIf (self.nextOutgoingSequence = maxSequence) .sequenceExhausted
  let sequence := self.nextOutgoingSequence
  let tag ← authenticationTag self.key self.sessionId self.role sequence message
  let frame : AuthenticatedWorkerMessage := { sequence, message, authTag := encodeAuthTag tag }
  let _ ← frame.toJsonLine
  Mut.assign { self with nextOutgoingSequence := self.nextOutgoingSequence.saturatingSucc }
  return frame

end SessionFrameSealer

namespace SessionFrameOpener

def openFrame [Blake3] (frame : AuthenticatedWorkerMessage) :
    Mut SessionFrameOpener ProtocolError WorkerMessage := do
  let self ← Mut.self
  frame.validateSyntax
  let suppliedTag ← decodeAuthTag frame.authTag
  let expectedTag ← authenticationTag self.key self.sessionId self.role.peer frame.sequence
    frame.message
  rejectIf (expectedTag ≠ suppliedTag) .invalidAuthenticationTag
  rejectIf (frame.message.sessionId ≠ self.sessionId) (.unknownSession frame.message.sessionId)
  rejectIf (frame.sequence ≠ self.nextIncomingSequence)
    (.unexpectedSequence self.nextIncomingSequence frame.sequence)
  rejectIf (self.nextIncomingSequence = maxSequence) .sequenceExhausted
  Mut.assign { self with nextIncomingSequence := self.nextIncomingSequence.saturatingSucc }
  return frame.message

end SessionFrameOpener

namespace SessionAuthenticator

@[simps]
def sealer (self : SessionAuthenticator) : SessionFrameSealer where
  sessionId := self.sessionId
  key := self.key
  role := self.role
  nextOutgoingSequence := self.nextOutgoingSequence

@[simps]
def opener (self : SessionAuthenticator) : SessionFrameOpener where
  sessionId := self.sessionId
  key := self.key
  role := self.role
  nextIncomingSequence := self.nextIncomingSequence

def intoDirectional (self : SessionAuthenticator) : SessionFrameSealer × SessionFrameOpener :=
  (self.sealer, self.opener)

variable {s : SessionAuthenticator}

open Mut

theorem through_sealFrame [Blake3] (message : WorkerMessage) :
    Through sealer (sealFrame message) (SessionFrameSealer.sealFrame message) s := by
  apply through_self_bind
  apply through_lift_bind
  intro _
  apply through_rejectIf_bind
  apply through_rejectIf_bind
  apply through_lift_bind
  intro _
  apply through_lift_bind
  intro _
  exact through_assign_bind rfl (through_pure _)

theorem through_openFrame [Blake3] (frame : AuthenticatedWorkerMessage) :
    Through opener (openFrame frame) (SessionFrameOpener.openFrame frame) s := by
  apply through_self_bind
  apply through_lift_bind
  intro _
  apply through_lift_bind
  intro _
  apply through_lift_bind
  intro _
  apply through_rejectIf_bind
  apply through_rejectIf_bind
  apply through_rejectIf_bind
  apply through_rejectIf_bind
  exact through_assign_bind rfl (through_pure _)

/-- Sealing does not touch what the opener reads. -/
theorem opener_sealFrame [Blake3] (message : WorkerMessage) :
    (sealFrame message s).2.opener = s.opener := by
  rcases returns_or_fails (sealFrame message) s with ⟨frame, h⟩ | ⟨e, h⟩
  · rw [(returns_sealFrame h).2.2.2]
    rfl
  · rw [keepsOnError_sealFrame message s e _ h]

/-- Opening does not touch what the sealer reads. -/
theorem sealer_openFrame [Blake3] (frame : AuthenticatedWorkerMessage) :
    (openFrame frame s).2.sealer = s.sealer := by
  rcases returns_or_fails (openFrame frame) s with ⟨message, h⟩ | ⟨e, h⟩
  · rw [(returns_openFrame h).2.2.2.2]
    rfl
  · rw [keepsOnError_openFrame frame s e _ h]

end SessionAuthenticator

inductive ChannelCall
  | sealFrame (message : WorkerMessage)
  | openFrame (frame : AuthenticatedWorkerMessage)

namespace ChannelCall

/-- What a call returns. -/
@[reducible] def Answer : ChannelCall → Type
  | .sealFrame _ => Except ProtocolError AuthenticatedWorkerMessage
  | .openFrame _ => Except ProtocolError WorkerMessage

/-- A call on the authenticator. -/
def unsplit [Blake3] (s : SessionAuthenticator) :
    (c : ChannelCall) → c.Answer × SessionAuthenticator
  | .sealFrame message => SessionAuthenticator.sealFrame message s
  | .openFrame frame => SessionAuthenticator.openFrame frame s

/-- A call on the half that it is for. -/
def split [Blake3] (halves : SessionFrameSealer × SessionFrameOpener) :
    (c : ChannelCall) → c.Answer × (SessionFrameSealer × SessionFrameOpener)
  | .sealFrame message =>
    let (answer, sealer) := SessionFrameSealer.sealFrame message halves.1
    (answer, sealer, halves.2)
  | .openFrame frame =>
    let (answer, opener) := SessionFrameOpener.openFrame frame halves.2
    (answer, halves.1, opener)

theorem split_eq [Blake3] (c : ChannelCall) (s : SessionAuthenticator) :
    split s.intoDirectional c = ((unsplit s c).1, (unsplit s c).2.intoDirectional) := by
  cases c with
  | sealFrame message =>
    have hsealer := through_sealFrame (s := s) message
    have hopener := opener_sealFrame (s := s) message
    simp only [split, unsplit, intoDirectional]
    rw [hsealer, hopener]
  | openFrame frame =>
    have hopener := through_openFrame (s := s) frame
    have hsealer := sealer_openFrame (s := s) frame
    simp only [split, unsplit, intoDirectional]
    rw [hopener, hsealer]

/-- From any state and for any interleaving of calls, the halves return what the unsplit
authenticator returns, and end as its halves. -/
theorem run_split [Blake3] (calls : List ChannelCall) (s : SessionAuthenticator) :
    Calls.run split calls s.intoDirectional =
      ((Calls.run unsplit calls s).1, (Calls.run unsplit calls s).2.intoDirectional) :=
  Calls.run_view split_eq calls s

end ChannelCall

end Octoscript
