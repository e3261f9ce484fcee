import Octoscript.Lib.Lists
import Octoscript.Protocol.Channel

namespace Octoscript
open Wire Function SessionAuthenticator

/-- The two ends, with the messages each was given to seal and returned on opening and the frames
these went in, oldest first. -/
structure Channel where
  ends : SessionRole → SessionAuthenticator
  (given returned : SessionRole → List WorkerMessage)
  (sealedFrames accepted : SessionRole → List AuthenticatedWorkerMessage)

namespace Channel

/-- Both peers right after the session was set up. -/
def start (sessionId : String) (key : SessionKey) : Channel where
  ends role := ⟨sessionId, key, role, 1, 1⟩
  given _ := []
  returned _ := []
  sealedFrames _ := []
  accepted _ := []

/-- Some peer has released a tag over these bytes. -/
def Tagged (c : Channel) (bytes : Bytes) : Prop :=
  ∃ r, ∃ f ∈ c.sealedFrames r,
    authenticationPayload (c.ends r).sessionId r f.sequence f.message = bytes

/-- If the tag of a frame verifies at `r`, its bytes were tagged by a peer. -/
def Unforged [Blake3] (c : Channel) (r : SessionRole) (f : AuthenticatedWorkerMessage) : Prop :=
  ∀ tag, decodeAuthTag f.authTag = .ok tag →
    authenticationTag (c.ends r).key (c.ends r).sessionId r.peer f.sequence f.message = .ok tag →
    c.Tagged (authenticationPayload (c.ends r).sessionId r.peer f.sequence f.message)

inductive Step [Blake3] : Channel → Channel → Prop
  | sealed {c r m f s} : (sealFrame m).Returns (c.ends r) f s →
      Step c { c with
        ends := update c.ends r s
        given := update c.given r (c.given r ++ [m])
        sealedFrames := update c.sealedFrames r (c.sealedFrames r ++ [f]) }
  | sealRefused {c r m e s} : (sealFrame m).Fails (c.ends r) e s →
      Step c { c with ends := update c.ends r s }
  | opened {c r f m s} : c.Unforged r f →
      (openFrame f).Returns (c.ends r) m s →
      Step c { c with
        ends := update c.ends r s
        returned := update c.returned r (c.returned r ++ [m])
        accepted := update c.accepted r (c.accepted r ++ [f]) }
  | openRefused {c r f e s} : (openFrame f).Fails (c.ends r) e s →
      Step c { c with ends := update c.ends r s }

/-- One end counts what it has sealed and accepted. -/
structure Counts (sessionId : String) (r : SessionRole) (s : SessionAuthenticator)
    (sealedFrames accepted : List AuthenticatedWorkerMessage) : Prop where
  sessionId : s.sessionId = sessionId
  role : s.role = r
  outgoing : s.nextOutgoingSequence.toNat = sealedFrames.length + 1
  incoming : s.nextIncomingSequence.toNat = accepted.length + 1
  sealedNumbers : sealedFrames.map (·.sequence.toNat) = List.range' 1 sealedFrames.length
  acceptedNumbers : accepted.map (·.sequence.toNat) = List.range' 1 accepted.length

/-- Both ends count, frames carry the messages of the calls, and what one end returned is what the
other was given first. -/
structure Inv (sessionId : String) (c : Channel) : Prop where
  counts : ∀ r, Counts sessionId r (c.ends r) (c.sealedFrames r) (c.accepted r)
  carried : ∀ r, c.given r = (c.sealedFrames r).map (·.message)
  length : ∀ r, (c.returned r).length = (c.accepted r).length
  inOrder : ∀ r, c.returned r <+: c.given r.peer

theorem toNat_lt_of_ne_max {n : UInt64} (h : n ≠ maxSequence) : n < maxSequence := by
  rw [UInt64.lt_iff_toNat_lt]
  have hne : n.toNat ≠ maxSequence.toNat := fun hn => h (UInt64.toNat_inj.mp hn)
  have hlt := n.toNat_lt
  have hmax : maxSequence.toNat = 18446744073709551615 := rfl
  omega

/-- The frame that carries a sequence number stands at that place. -/
theorem getElem?_of_number {l : List AuthenticatedWorkerMessage}
    (h : l.map (·.sequence.toNat) = List.range' 1 l.length) {f : AuthenticatedWorkerMessage}
    (hf : f ∈ l) : l[f.sequence.toNat - 1]? = some f := by
  obtain ⟨i, hi⟩ := List.mem_iff_getElem?.mp hf
  obtain ⟨hlt, hget⟩ := List.getElem?_eq_some_iff.mp hi
  have hseq : f.sequence.toNat = 1 + i := by
    have hat := congrArg (·[i]?) h
    simpa [hlt, hget] using hat
  have hn : f.sequence.toNat - 1 = i := by omega
  rw [hn, hi]

theorem numbers_concat {l : List AuthenticatedWorkerMessage} {f : AuthenticatedWorkerMessage}
    (h : l.map (·.sequence.toNat) = List.range' 1 l.length) (hf : f.sequence.toNat = l.length + 1) :
    (l ++ [f]).map (·.sequence.toNat) = List.range' 1 (l ++ [f]).length := by
  simp [h, hf, List.range'_1_concat, add_comm]

theorem nodup_of_numbers {l : List AuthenticatedWorkerMessage}
    (h : l.map (·.sequence.toNat) = List.range' 1 l.length) : (l.map (·.sequence)).Nodup := by
  have hn : ((l.map (·.sequence)).map UInt64.toNat).Nodup := by
    rw [List.map_map]
    exact h ▸ List.nodup_range'
  exact hn.of_map

theorem Inv.refused {sessionId : String} {c : Channel} {r : SessionRole}
    {s : SessionAuthenticator} (h : Inv sessionId c) (hs : s = c.ends r) :
    Inv sessionId { c with ends := update c.ends r s } := by
  rw [hs, update_eq_self]
  exact h

section
variable [Blake3] {sessionId : String} {c : Channel} {r : SessionRole}
  {s : SessionAuthenticator} {f : AuthenticatedWorkerMessage} {m : WorkerMessage}

theorem Inv.seal (h : Inv sessionId c)
    (hs : (sealFrame m).Returns (c.ends r) f s) :
    Inv sessionId { c with
      ends := update c.ends r s
      given := update c.given r (c.given r ++ [m])
      sealedFrames := update c.sealedFrames r (c.sealedFrames r ++ [f]) } := by
  obtain ⟨hbound, hseq, hmsg, rfl⟩ := returns_sealFrame hs
  have hr := h.counts r
  have hcounts : Counts sessionId r (c.ends r).advanceOutgoing (c.sealedFrames r ++ [f])
      (c.accepted r) :=
    { hr with
      outgoing := by
        rw [advanceOutgoing_nextOutgoingSequence,
          UInt64.toNat_saturatingSucc (toNat_lt_of_ne_max hbound), hr.outgoing]
        simp
      sealedNumbers := numbers_concat hr.sealedNumbers (by rw [hseq, hr.outgoing]) }
  refine ⟨fun q => ?_, fun q => ?_, h.length, fun q => ?_⟩
  · by_cases hq : q = r
    · subst hq
      simpa using hcounts
    · simpa [hq] using h.counts q
  · by_cases hq : q = r
    · subst hq
      simp [h.carried, hmsg]
    · simpa [hq] using h.carried q
  · by_cases hq : q.peer = r
    · simpa [hq] using (hq ▸ h.inOrder q).trans (List.prefix_append _ _)
    · simpa [hq] using h.inOrder q

theorem Inv.open (h : Inv sessionId c) (hf : c.Unforged r f)
    (hs : (openFrame f).Returns (c.ends r) m s) :
    Inv sessionId { c with
      ends := update c.ends r s
      returned := update c.returned r (c.returned r ++ [m])
      accepted := update c.accepted r (c.accepted r ++ [f]) } := by
  obtain ⟨⟨tag, hsupplied, hexp⟩, hseq, hbound, rfl, rfl⟩ :=
    returns_openFrame hs
  have hr := h.counts r
  have hnumber : f.sequence.toNat = (c.accepted r).length + 1 := by rw [hseq, hr.incoming]
  have hcounts : Counts sessionId r (c.ends r).advanceIncoming (c.sealedFrames r)
      (c.accepted r ++ [f]) :=
    { hr with
      incoming := by
        rw [advanceIncoming_nextIncomingSequence,
          UInt64.toNat_saturatingSucc (toNat_lt_of_ne_max hbound), hr.incoming]
        simp
      acceptedNumbers := numbers_concat hr.acceptedNumbers hnumber }
  -- The tagged bytes name their sender, number and message, so the frame is the
  -- peer's next one.
  rw [hr.role] at hexp
  obtain ⟨q, g, hg, hbytes⟩ := hf tag hsupplied hexp
  obtain ⟨rfl, hgseq, _, hgmessage⟩ := authenticationPayload_inj.mp hbytes
  have hnext : (c.given r.peer)[(c.returned r).length]? = some f.message := by
    have hat := getElem?_of_number (h.counts r.peer).sealedNumbers hg
    rw [hgseq, hnumber] at hat
    rw [h.carried, h.length]
    simpa [hgmessage] using congrArg (Option.map (·.message)) hat
  refine ⟨fun q => ?_, h.carried, fun q => ?_, fun q => ?_⟩
  · by_cases hq : q = r
    · subst hq
      simpa using hcounts
    · simpa [hq] using h.counts q
  · by_cases hq : q = r
    · subst hq
      simp [h.length]
    · simpa [hq] using h.length q
  · by_cases hq : q = r
    · subst hq
      simpa using (h.inOrder q).append_getElem? hnext
    · simpa [hq] using h.inOrder q

theorem inv_reachable {key : SessionKey} (h : Relation.ReflTransGen Step (start sessionId key) c) :
    Inv sessionId c := by
  induction h with
  | refl =>
    exact ⟨fun _ => ⟨rfl, rfl, rfl, rfl, rfl, rfl⟩, fun _ => rfl, fun _ => rfl,
      fun _ => List.nil_prefix⟩
  | tail _ hstep ih =>
    cases hstep with
    | sealed hs => exact ih.seal hs
    | sealRefused hs =>
      exact ih.refused (keepsOnError_sealFrame _ _ _ _ hs)
    | opened hf hs => exact ih.open hf hs
    | openRefused hs =>
      exact ih.refused (keepsOnError_openFrame _ _ _ _ hs)

/-- Whatever the adversary does, the messages that one end returns on opening are, in order and each
once, a prefix of those that the other end was given to seal; no end uses a sequence number twice;
and a refused call leaves an end as it was. -/
theorem channel_order {key : SessionKey}
    (h : Relation.ReflTransGen Step (start sessionId key) c) (r : SessionRole) :
    c.returned r <+: c.given r.peer ∧
    ((c.sealedFrames r).map (·.sequence)).Nodup ∧ ((c.accepted r).map (·.sequence)).Nodup ∧
    (∀ m e s, (sealFrame m).Fails (c.ends r) e s → s = c.ends r) ∧
    ∀ f e s, (openFrame f).Fails (c.ends r) e s → s = c.ends r := by
  have hinv := inv_reachable h
  exact ⟨hinv.inOrder r, nodup_of_numbers (hinv.counts r).sealedNumbers,
    nodup_of_numbers (hinv.counts r).acceptedNumbers,
    fun m => keepsOnError_sealFrame m _,
    fun f => keepsOnError_openFrame f _⟩

end

/-- The host closes the session and the worker accepts the frame. -/
theorem channel_order_of_close :
    ∃ (_ : Blake3) (key : SessionKey) (c : Channel),
      Relation.ReflTransGen Step (start "session" key) c ∧
      c.returned .worker = [.closeSession 5 "session"] ∧ c.returned .worker <+: c.given .host := by
  -- The keyed digest of the one payload that is tagged in this run.
  let digest : Digest := ⟨[73, 173, 59, 217, 219, 167, 235, 121, 227, 121, 18, 189, 41, 224, 55,
    108, 178, 47, 11, 95, 223, 145, 52, 180, 6, 99, 89, 101, 219, 54, 126, 19], rfl⟩
  let _ : Blake3 := ⟨fun _ => digest, fun _ _ => digest⟩
  let key : SessionKey := ⟨⟨1 :: List.replicate 31 0, rfl⟩, rfl⟩
  let message : WorkerMessage := .closeSession 5 "session"
  let frame : AuthenticatedWorkerMessage :=
    ⟨1, message, "49ad3bd9dba7eb79e37912bd29e0376cb22f0b5fdf9134b406635965db367e13"⟩
  have hseal : (sealFrame message).Returns ⟨"session", key, .host, 1, 1⟩ frame
      ⟨"session", key, .host, 2, 1⟩ := by
    unfold Mut.Returns
    decide +kernel
  have hopen : (openFrame frame).Returns ⟨"session", key, .worker, 1, 1⟩
      message ⟨"session", key, .worker, 1, 2⟩ := by
    unfold Mut.Returns
    decide +kernel
  have h₁ := Relation.ReflTransGen.single (Step.sealed (c := start "session" key) hseal)
  have h₂ := h₁.tail (Step.opened (r := .worker) (f := frame)
    (fun _ _ _ => ⟨.host, frame, by simp [start], rfl⟩) hopen)
  exact ⟨_, key, _, h₂, by simp [start, message], (channel_order h₂ .worker).1⟩

end Channel

end Octoscript
