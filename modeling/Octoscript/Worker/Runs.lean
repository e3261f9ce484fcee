import Octoscript.Storage.RoundTrip
import Octoscript.Worker.SessionSpec

namespace Octoscript
open Wire WriteAhead History Interaction Except
open AuthenticatedStore AuthenticatedWorkerMessage SessionAuthenticator SessionAuthorizer System
open WorkerOperationJournal WorkerSession

namespace WorkerWorld

section
variable [Blake3] [LawfulEnvelopeReader] [LawfulJournalReader] {P E A : Type}
  {place : StorageRecordKey} {rings : P → StorageKeyring} {p : P} {s : WorkerWorld P E}
  {ring : StorageKeyring} {j : WorkerOperationJournal} {revision next : UInt64}

/-- The backend holds a record of this revision that the ring sealed, or none at zero. -/
def SealedAt (place : StorageRecordKey) (ring : StorageKeyring) (s : WorkerWorld P E)
    (revision : UInt64) : Prop :=
  if revision = 0 then s.record = none
  else ∃ payload, payload.length ≤ maxAuthenticatedPayloadBytes ∧
    s.record = some (sealedRecord ring.activeKey ring.activeKeyId place revision
      payload)

omit [LawfulJournalReader] in
theorem SealedAt.prepare {payload : Bytes} (h : SealedAt place ring s revision)
    (hsize : payload.length ≤ maxAuthenticatedPayloadBytes)
    (hnext : next.toNat = revision.toNat + 1) :
    (prepareReplacement ring place (if revision = 0 then none else some revision)
      payload s.snapshot : Except (AuthenticatedStoreError E) _) =
      .ok (next, sealedRecord ring.activeKey ring.activeKeyId place next
        payload) := by
  refine prepareReplacement_ok_iff.mpr
    ⟨?_, ?_, rfl, sealedRecord_size hsize⟩
  · by_cases hzero : revision = 0
    · rw [SealedAt, if_pos hzero] at h
      exact ⟨none, by simp [snapshot, WorkerWorld.revision, h]; rfl, by simp [hzero]; rfl⟩
    · rw [SealedAt, if_neg hzero] at h
      obtain ⟨old, hold, hrec⟩ := h
      refine ⟨some ⟨revision, ring.activeKeyId, old⟩, ?_, by simp [hzero, checkExpected]⟩
      refine openSnapshot_ok_some_iff.mpr ⟨_, hrec, ?_, ?_⟩
      · simp [snapshot, WorkerWorld.revision, hrec]
      · exact openRecord_sealedRecord ring.verificationKey_active hzero hold
  · rw [hnext]
    split_ifs with hzero
    · rw [hzero]
      rfl
    · rfl

/-- The system as the store sees it. -/
abbrev storeSystem (P E A : Type) (place : StorageRecordKey) (rings : P → StorageKeyring) :
    System P (WorkerWorld P E) BackendOp (BackendOp.Answer E) Empty Unit Unit :=
  (system P E A place rings).inside WorkerOp.backend fun _ a => a

theorem runs_backend {op : BackendOp} {reply : op.Reply} {s' : WorkerWorld P E}
    (h : s.BackendAnswers place p op (.ok reply) s') :
    (storeSystem P E A place rings).Runs p s (backend op ring)
      (.ok reply, ring) s' := by
  have hexec : (storeSystem P E A place rings).exec p s op (.ok reply) s' := ⟨.ok reply, rfl, h⟩
  exact (runs_perform hexec).andThen (runs_check rfl)

theorem runs_compareAndSwapFenced {payload : Bytes} {token : UInt64}
    (h : SealedAt place ring s revision) (hsize : payload.length ≤ maxAuthenticatedPayloadBytes)
    (hnext : next.toNat = revision.toNat + 1) :
    (storeSystem P E A place rings).Runs p s
      (compareAndSwapFenced place (if revision = 0 then none else some revision)
        payload token ring) (.ok ⟨next, ring.activeKeyId, payload⟩, ring)
      (({ s with fence := token } : WorkerWorld P E).commit p
        (sealedRecord ring.activeKey ring.activeKeyId place next payload)) := by
  have hcur : s.revision = if revision = 0 then none else some revision := by
    rw [SealedAt] at h
    split_ifs at h ⊢ with hzero
    · simp [WorkerWorld.revision, h]
    · obtain ⟨_, _, hrec⟩ := h
      rw [WorkerWorld.revision, hrec]
      rfl
  have hfence : (storeSystem P E A place rings).Runs p s
      (backend (.establishFence place token) ring) (.ok (), ring)
      { s with fence := token } := runs_backend ⟨token, rfl⟩
  have hload : (storeSystem P E A place rings).Runs p { s with fence := token }
      (backend (.load place) ring) (.ok s.snapshot, ring)
      { s with fence := token } := runs_backend ⟨fun _ _ h => (ok.inj h).symm, rfl⟩
  have hprep : (storeSystem P E A place rings).Runs p { s with fence := token }
      (prepareCompareAndSwap place
        (if revision = 0 then none else some revision) payload ring)
      (.ok (next, sealedRecord ring.activeKey ring.activeKeyId place next
        payload), ring) { s with fence := token } :=
    (runs_rejectIf (not_lt.mpr hsize)).andThen
      (hload.andThen (runs_check (h.prepare hsize hnext)))
  refine hfence.andThen (hprep.andThen (System.Runs.andThen (runs_backend ?_)
    (runs_check (finishCompareAndSwap_stored _ _ _ _))))
  exact Or.inl ⟨rfl, hcur, rfl, Or.inl rfl, rfl⟩

/-- A write that nobody disturbs. -/
theorem runs_persist {lease : WorkerJournalLease} {σ : Type} {receiver : σ}
    (h : SealedAt place ring s revision) (hvalid : j.Valid) (hscope : j.scope = place.name)
    (hnext : next.toNat = revision.toNat + 1) :
    ∃ s', (system P E A place rings).Runs p s
        ((storeAt place ring).persist j revision lease receiver) (.ok next, receiver) s' ∧
      SealedAt place ring s' next ∧ s'.log = .commit p j :: s.log := by
  have hcheck : (j.validateScope place.name).mapError
      (AuthenticatedWorkerJournalStoreError.protocol (E := E)) = .ok () := by
    rw [mapError_ok_iff, validateScope, bind_ok_iff]
    exact ⟨(), validateToken_ok_iff.mpr (hscope ▸ hvalid.scope),
      rejectIf_ok_iff.mpr (not_not.mpr hscope)⟩
  have hencode : j.encode.mapError (AuthenticatedWorkerJournalStoreError.protocol (E := E)) =
      .ok (Json.text j.toJson) := by
    rw [mapError_ok_iff, encode, bind_ok_iff]
    exact ⟨(), validateAndBound_ok_iff.mpr hvalid, rfl⟩
  have hsize : (utf8 (Json.text j.toJson)).length ≤ maxAuthenticatedPayloadBytes := hvalid.bytes
  have hnz : next ≠ 0 := by
    rintro rfl
    simp at hnext
  refine ⟨_, (runs_check hcheck).andThen ((runs_check hencode).andThen
    (((runs_compareAndSwapFenced h hsize hnext).within.mapErr _).andThen .done)), ?_, ?_⟩
  · rw [SealedAt, if_neg hnz]
    exact ⟨_, hsize, rfl⟩
  · simp [WorkerWorld.commit, journalIn_sealedRecord, journalOf_text hvalid]

variable {session : WorkerSession}

theorem runs_persistJournal (rings : P → StorageKeyring) (p : P) (before : WorkerOperationJournal)
    (session : WorkerSession) (h : SealedAt place ring s session.journalRevision)
    (hvalid : session.journal.Valid) (hscope : session.journal.scope = place.name)
    (hnext : next.toNat = session.journalRevision.toNat + 1) :
    ∃ s', (system P E A place rings).Runs p s
        (persistJournal (storeAt place ring) before session)
        (.ok (), session.setRevision next) s' ∧
      SealedAt place ring s' next ∧ s'.log = .commit p session.journal :: s.log := by
  have hgreater : next > session.journalRevision := by
    rw [gt_iff_lt, UInt64.lt_iff_toNat_lt, hnext]
    exact Nat.lt_succ_self _
  obtain ⟨s', hrun, hsealed, hlog⟩ := runs_persist h hvalid hscope hnext
  exact ⟨s', hrun.attempt.andThen (runs_ofMut ((returns_finishPersist hgreater).mpr rfl)),
    hsealed, hlog⟩

/-- A new effect whose adapter answers. -/
theorem runs_settle (session : WorkerSession) {effect : DurableEffect E A} {action : WorkerEffect}
    {status : OperationStatus} {j₁ j₂ : WorkerOperationJournal} {out : WorkerOperationState}
    (next next' : UInt64) (h : SealedAt place ring s session.journalRevision)
    (hadm : effect.admitIntent.Returns session.journal none j₁) (htool : effect.tool ∈ session.adapters)
    (hact : ∀ session (s : WorkerWorld P E), (system P E A place rings).Runs p s
      (effect.run session) (.ok (.ok status), session) (s.act p action))
    (hobs : (effect.observe status).Returns j₁ out j₂)
    (h₁ : j₁.Valid ∧ j₁.scope = place.name) (h₂ : j₂.Valid ∧ j₂.scope = place.name)
    (hnext : next.toNat = session.journalRevision.toNat + 1)
    (hnext' : next'.toNat = next.toNat + 1) :
    ∃ s', (system P E A place rings).Runs p s (effect.settle (storeAt place ring) session)
        (.ok status, (session.setJournal j₂).setRevision next') s' ∧
      SealedAt place ring s' next' ∧
      s'.log = .commit p j₂ :: .act p action :: .commit p j₁ :: s.log := by
  obtain ⟨s₁, hpersist₁, hsealed₁, hlog₁⟩ := runs_persistJournal (A := A) rings p session.journal
    (session.setJournal j₁) h h₁.1 h₁.2 hnext
  have hsealed : SealedAt place ring (s₁.act p action) next := hsealed₁
  obtain ⟨s₂, hpersist₂, hsealed₂, hlog₂⟩ := runs_persistJournal (A := A) rings p j₁
    ((session.setJournal j₂).setRevision next) hsealed h₂.1 h₂.2 hnext'
  have hadapter : (system P E A place rings).Runs p s₁ (requireAdapter effect.tool
      ((session.setJournal j₁).setRevision next)) _ s₁ := runs_rejectIf (not_not.mpr htool)
  have hperform : (system P E A place rings).Runs p s₁ (effect.perform (storeAt place ring)
      ((session.setJournal j₁).setRevision next))
      (.ok status, (session.setJournal j₂).setRevision next') s₂ := hadapter.andThen ((hact _ s₁).andThen ((runs_check rfl).andThen
    ((runs_onField hobs).andThen ((hpersist₂.mapErr _).andThen .done))))
  refine ⟨s₂, (runs_onField hadm).andThen ((hpersist₁.mapErr _).andThen hperform), hsealed₂, ?_⟩
  rw [hlog₂]
  exact congrArg _ (congrArg _ hlog₁)

theorem runs_requireDurableContract {tool : String} (htool : tool ∈ session.adapters) :
    (system P E A place rings).Runs p s (requireDurableContract tool session)
      (.ok (), session) s := by
  have hadapter : (system P E A place rings).Runs p s (requireAdapter tool session)
      (.ok (), session) s := runs_rejectIf (not_not.mpr htool)
  have hcontract : (system P E A place rings).exec p s (.durableOperationContract tool)
      (some .reconciliation) s := rfl
  exact hadapter.andThen ((runs_perform hcontract).andThen (runs_rejectIf (by simp)))

variable {frame : AuthenticatedWorkerMessage} {session' : WorkerSession} {s' : WorkerWorld P E}
  {authenticator authenticator' : SessionAuthenticator} {authorizer : SessionAuthorizer}
  {handled : Handled E}

theorem runs_handle_dispatch {request : OperationDispatchRequest}
    (hhealthy : session.poisoned = false) (hopen : (openFrame frame).Returns session.authenticator
      (.dispatchOperation request) authenticator)
    (h : (system P E A place rings).Runs p s (handleOperationDispatch (storeAt place ring) request
      (session.setAuthenticator authenticator)) (handled, session') s') :
    (system P E A place rings).Runs p s (handle (storeAt place ring) frame session)
      (handled, session') s' :=
  (runs_rejectIf (by simp [hhealthy])).andThen ((runs_onField hopen).andThen h)

theorem runs_handle_compensation {request : OperationCompensationRequest}
    (hhealthy : session.poisoned = false) (hopen : (openFrame frame).Returns session.authenticator
      (.compensateOperation request) authenticator)
    (h : (system P E A place rings).Runs p s (handleCompensation (storeAt place ring) request
      (session.setAuthenticator authenticator)) (handled, session') s') :
    (system P E A place rings).Runs p s (handle (storeAt place ring) frame session)
      (handled, session') s' :=
  (runs_rejectIf (by simp [hhealthy])).andThen ((runs_onField hopen).andThen h)

/-- A session starts on a journal that was never written. -/
theorem runs_startSession {provenance : ℕ} {adapters : Finset String}
    {limits : WorkerSessionLimits} {manifest : CapabilityManifest} {lease : WorkerJournalLease}
    (hempty : s.record = none) (hscope : WorkerOperationJournal.new place.name = .ok j)
    (hrole : authenticator.role = .worker)
    (hopen : (openFrame frame).Returns authenticator (.openSession manifest)
      authenticator')
    (hman : new provenance manifest = .ok authorizer)
    (hadapters : requireAdapters (A := A) adapters authorizer.manifest.grants = .ok ()) :
    (system P E A place rings).Runs p s
      (startSession (storeAt place ring) provenance frame adapters limits authenticator)
      (.ok ⟨authenticator', authorizer, j, 0, lease, adapters, limits, ∅, 0, false⟩, authenticator')
      s := by
  have hload : (storeSystem P E A place rings).Runs p s (load place ring)
      (.ok none, ring) s := by
    have hask : (storeSystem P E A place rings).Runs p s
        (backend (.load place) ring) (.ok s.snapshot, ring) s :=
      runs_backend ⟨fun _ _ h => (ok.inj h).symm, rfl⟩
    refine hask.andThen (runs_check ?_)
    simp [snapshot, WorkerWorld.revision, hempty]
    rfl
  have hadm : (system P E A place rings).exec p s (.admitSession authorizer.manifest j.scope)
      (.ok lease.fencingToken) s := ⟨s.fence, rfl⟩
  have hlease : WorkerJournalLease.fromFencingToken lease.fencingToken = some lease :=
    dif_pos lease.nonzero
  have hsnap : (system P E A place rings).Runs p s ((storeAt place ring).load authenticator)
      (.ok ⟨j, 0⟩, authenticator) s :=
    (hload.within.mapErr _).andThen ((runs_check (mapError_ok_iff.mpr hscope)).andThen
      .done)
  have hstart : (system P E A place rings).Runs p s (openSession provenance frame j 0
      adapters limits authenticator) (.ok ⟨authenticator', authorizer, j, 0, lease, adapters,
        limits, ∅, 0, false⟩, authenticator') s :=
    (runs_rejectIf (not_not.mpr hrole)).andThen (((runs_ofMut hopen).mapErr _).andThen
      ((runs_check rfl).andThen ((runs_check (mapError_ok_iff.mpr hman)).andThen
        ((runs_check hadapters).andThen ((runs_perform hadm).andThen
          ((runs_check rfl).andThen ((runs_check (Option.okOr_ok_iff.mpr hlease)).andThen
            .done)))))))
  exact (hsnap.mapErr _).andThen (hstart.mapErr _)

theorem runs_serve (h : (system P E A place rings).Runs p s
      (handle (storeAt place (rings p)) frame session) (handled, session') s') :
    (system P E A place rings).Runs p s ((system P E A place rings).serve p session frame)
      (some handled, some session') s' :=
  h.answer some

end

namespace EchoRun

def digest : Digest := ⟨List.replicate 32 7, rfl⟩

theorem key_size : (1 :: List.replicate 31 0 : Bytes).length = 32 := rfl

theorem key_strong : (1 :: List.replicate 31 0 : Bytes).all (· == 0) = false := rfl

theorem keyId_valid : isValidToken "key-1" maxStorageKeyIdBytes = true := by decide

theorem lease_nonzero : (1 : UInt64) ≠ 0 := by decide

local instance blake3 : Blake3 := ⟨fun _ => digest, fun _ _ => digest⟩

def place : StorageRecordKey := ⟨"worker-journal", "tenant", by decide, by decide⟩

def ring : StorageKeyring :=
  .new ⟨"key-1", keyId_valid⟩ ⟨1 :: List.replicate 31 0, key_size⟩

def grant : CapabilityGrant := ⟨"echo", .text, 1, 64, 64, 1, ∅⟩

def manifest : CapabilityManifest := ⟨5, "session", [grant]⟩

def request : OperationDispatchRequest := ⟨5, "session", "call-1", "echo", "op-1", .text "hello"⟩

def undo : OperationCompensationRequest :=
  ⟨5, "session", "call-2", "echo", "op-1", "cmp-1", "tenant", digest.toHex, .text "hello"⟩

def status : OperationStatus := .succeeded (.text "ok")

def result : OperationReconcileResult := ⟨5, "session", "call-1", "echo", "op-1", status⟩

def binding : OperationCompensationBinding := ⟨"echo", "op-1", "cmp-1", "tenant", digest.toHex⟩

def undone : OperationCompensationResult :=
  ⟨5, "session", "call-2", "echo", "op-1", "cmp-1", "tenant", digest.toHex, status⟩

def authorized : AuthorizedOperationInvocation := ⟨request, grant, 0⟩

def authorizedUndo : AuthorizedOperationCompensation := ⟨undo, grant, 0⟩

/-- The worker's end, with its next outgoing and incoming sequence numbers. -/
def authenticator (outgoing incoming : UInt64) : SessionAuthenticator :=
  ⟨"session", ⟨⟨1 :: List.replicate 31 0, key_size⟩, key_strong⟩, .worker, outgoing, incoming⟩

def opened : SessionAuthorizer := ⟨0, manifest, ∅, ∅, ∅, ∅, ∅, ∅, ∅⟩

def dispatching : SessionAuthorizer := (opened.addSeen "call-1").addCall "echo"

def dispatched : SessionAuthorizer := dispatching.addCompleted "call-1"

def compensating : SessionAuthorizer :=
  (dispatched.addSeen "call-2").addCompensation "echo"
    ⟨"echo", "op-1", "cmp-1", "tenant", digest.toHex, digest.toHex⟩

def compensated : SessionAuthorizer := compensating.addCompleted "call-2"

def done : WorkerOperationState := .fromStatus status

/-- The journal once the operation is in a state, and its compensation. -/
def journal (state : WorkerOperationState) (compensation : Option WorkerOperationState) :
    WorkerOperationJournal :=
  ⟨2, "tenant", [⟨"echo", "op-1", digest.toHex, state, compensation.map fun state =>
    ⟨"cmp-1", digest.toHex, digest.toHex, state⟩⟩]⟩

def session (authenticator : SessionAuthenticator) (authorizer : SessionAuthorizer)
    (journal : WorkerOperationJournal) (revision : UInt64) : WorkerSession :=
  ⟨authenticator, authorizer, journal, revision, ⟨1, lease_nonzero⟩, {"echo"}, .default, ∅, 0, false⟩

abbrev session₀ : WorkerSession := session (authenticator 1 2) opened (.empty "tenant") 0

abbrev session₁ : WorkerSession := session (authenticator 2 3) dispatched (journal done none) 2

abbrev session₂ : WorkerSession :=
  session (authenticator 3 4) compensated (journal done (some done)) 4

def answer₁ : AuthenticatedWorkerMessage := ⟨1, .operationResult result, digest.toHex⟩

def answer₂ : AuthenticatedWorkerMessage := ⟨2, .compensationResult undone, digest.toHex⟩

/-- What the run leaves in the log. -/
def log : Log Unit WorkerOperationJournal WorkerEffect (Handled Unit) :=
  [.note () (.ok answer₂), .commit () (journal done (some done)), .act () (.compensate undo),
    .commit () (journal done (some .pending)), .note () (.ok answer₁),
    .commit () (journal done none), .act () (.dispatch request), .commit () (journal .pending none)]

theorem journal_valid {state : WorkerOperationState} {compensation : Option WorkerOperationState}
    (hrecs : ∀ r ∈ (journal state compensation).records, r.validate = .ok ())
    (hbytes : String.utf8Len (Json.chars (journal state compensation).toJson) ≤
      maxWorkerOperationJournalBytes) : (journal state compensation).Valid :=
  ⟨rfl, (by decide : IsToken "tenant"), (by decide : 1 ≤ maxWorkerOperationRecords),
    hrecs, List.nodup_singleton _, by rwa [Json.encode_length]⟩

/-- The journals that the run commits. -/
theorem valid_of_mem : ∀ c ∈ [(.pending, none), (done, none), (done, some .pending),
    (done, some done)], (journal c.1 c.2).Valid := by
  have hbytes : ∀ c ∈ [(.pending, none), (done, none), (done, some .pending), (done, some done)],
      String.utf8Len (Json.chars (journal c.1 c.2).toJson) ≤ maxWorkerOperationJournalBytes := by
    decide +kernel
  have hrecs : ∀ c ∈ [(.pending, none), (done, none), (done, some .pending), (done, some done)],
      ∀ r ∈ (journal c.1 c.2).records, r.validate = .ok () := by
    decide +kernel
  exact fun c hc => journal_valid (hrecs c hc) (hbytes c hc)

theorem valid_pending : (journal .pending none).Valid := valid_of_mem (.pending, none) (by simp)

theorem valid_done : (journal done none).Valid := valid_of_mem (done, none) (by simp)

theorem valid_compensating : (journal done (some .pending)).Valid :=
  valid_of_mem (done, some .pending) (by simp)

theorem valid_compensated : (journal done (some done)).Valid :=
  valid_of_mem (done, some done) (by simp)

theorem new_journal : WorkerOperationJournal.new "tenant" = .ok (.empty "tenant") := by decide

theorem inputFingerprint : workerOperationInputFingerprint (.text "hello") = .ok digest.toHex := by
  decide

theorem status_granted : validateOperationStatusForGrant status grant = .ok () := by decide

theorem journal_position (state : WorkerOperationState)
    (compensation : Option WorkerOperationState) :
    (journal state compensation).position "op-1" = .ok ⟨0, Nat.one_pos⟩ := by
  simp [position, journal, List.findFinIdx?_cons, Option.okOr]

theorem journal_scope (state : WorkerOperationState) (compensation : Option WorkerOperationState) :
    (journal state compensation).validateScope "tenant" = .ok () := by
  rw [validateScope, bind_ok_iff]
  exact ⟨(), validateToken_ok_iff.mpr (by decide),
    rejectIf_ok_iff.mpr (not_not.mpr rfl)⟩

theorem decode_digest : decodeAuthTag digest.toHex = .ok digest := by decide

/-- A message that fits is accepted. -/
theorem opens {incoming outgoing : UInt64} {message : WorkerMessage}
    (hmsg : message.validate = .ok ()) (hsess : message.sessionId = "session")
    (hpos : incoming ≠ 0) (hbound : incoming ≠ maxSequence)
    (hsize : (authenticationPayload "session" .host incoming message).length ≤ maxWireFrameBytes) :
    (openFrame ⟨incoming, message, digest.toHex⟩).Returns
      (authenticator outgoing incoming) message
      (authenticator outgoing incoming).advanceIncoming := by
  refine openFrame_returns ?_ decode_digest (authenticationTag_ok hsize)
    hsess rfl hbound
  simp [validateSyntax, hmsg, decode_digest, hpos]

/-- A message that fits is sealed. -/
theorem seals {incoming outgoing : UInt64} {message : WorkerMessage}
    (hmsg : message.validate = .ok ()) (hsess : message.sessionId = "session")
    (hpos : outgoing ≠ 0) (hbound : outgoing ≠ maxSequence)
    (hsize : (authenticationPayload "session" .worker outgoing message).length ≤ maxWireFrameBytes)
    (hline : String.utf8Len (Json.chars (toJson
      ⟨outgoing, message, digest.toHex⟩)) ≤ maxWireFrameBytes) :
    (sealFrame message).Returns (authenticator outgoing incoming)
      ⟨outgoing, message, digest.toHex⟩ (authenticator outgoing incoming).advanceOutgoing := by
  refine sealFrame_returns hmsg hsess hbound (authenticationTag_ok hsize)
    (toJsonLine_ok ?_ hline)
  have htag : decodeAuthTag (encodeAuthTag digest) = .ok digest := decode_digest
  have hnumber : (authenticator outgoing incoming).nextOutgoingSequence ≠ 0 := hpos
  simp [validateSyntax, hmsg, htag, hnumber]

variable [LawfulEnvelopeReader] [LawfulJournalReader]

theorem runs_start : (system Unit Unit Unit place fun _ => ring).Runs () initial
    (startSession (storeAt place ring) 0 ⟨1, .openSession manifest, digest.toHex⟩ {"echo"} .default
      (authenticator 1 1)) (.ok session₀, authenticator 1 2) initial := by
  have hopen : (openFrame ⟨1, .openSession manifest, digest.toHex⟩).Returns
      (authenticator 1 1) (.openSession manifest) (authenticator 1 2) := by
    refine opens (by decide) rfl (by decide) (by decide) ?_
    rw [authenticationPayload, Json.encode_length]
    decide +kernel
  have hman : manifest.validate = .ok () := by decide
  have hnew : new 0 manifest = .ok opened := by
    rw [SessionAuthorizer.new, hman]
    rfl
  exact runs_startSession rfl new_journal rfl hopen hnew rfl

theorem runs_dispatch : ∃ s, (system Unit Unit Unit place fun _ => ring).Runs () initial
    (handle (storeAt place ring) ⟨2, .dispatchOperation request, digest.toHex⟩
      session₀) (.ok ⟨1, .operationResult result, digest.toHex⟩, session₁) s ∧
    SealedAt place ring s 2 ∧
    s.log = [.commit () (journal done none), .act () (.dispatch request),
      .commit () (journal .pending none)] := by
  have hopen : (openFrame ⟨2, .dispatchOperation request, digest.toHex⟩).Returns
      session₀.authenticator (.dispatchOperation request) (authenticator 1 3) := by
    refine opens (by decide) rfl (by decide) (by decide) ?_
    rw [authenticationPayload, Json.encode_length]
    decide +kernel
  have hauth : (authorizeOperation request).Returns
      (session₀.setAuthenticator (authenticator 1 3)).authorizer authorized dispatching :=
    Prod.ext (by decide) rfl
  let session := session (authenticator 1 3) dispatching (.empty "tenant") 0
  let after := (session.setJournal (journal done none)).setRevision 2
  have htool : "echo" ∈ session.adapters := by decide
  have hintent : (admitOperation authorized).Returns (.empty "tenant")
      .dispatch (journal .pending none) :=
    WorkerOperationJournal.admitOperation_returns (WorkerOperationJournal.valid_of_new new_journal)
      inputFingerprint rfl (by decide) rfl valid_pending
  have hadm : (dispatchEffect (E := Unit) (A := Unit) authorized).admitIntent.Returns
      (.empty "tenant") none (journal .pending none) :=
    Mut.returns_bind.mpr ⟨_, _, hintent, Mut.returns_pure.mpr ⟨rfl, rfl⟩⟩
  have hobs : (observe authorized status).Returns
      (journal .pending none) done (journal done none) :=
    observe_returns valid_pending status_granted inputFingerprint
      (journal_position _ _) (by decide) rfl rfl valid_done
  have hsealed : SealedAt place ring (initial : WorkerWorld Unit Unit) 0 := rfl
  obtain ⟨s, hset, hsealed, hlog⟩ := runs_settle (A := Unit) (p := ()) session 1 2 hsealed hadm
    htool (fun _ _ => runs_perform rfl) hobs ⟨valid_pending, rfl⟩ ⟨valid_done, rfl⟩ rfl
    rfl
  have hres : OperationReconcileResult.new "session" "call-1" "echo" "op-1" status =
    .ok result := by decide
  have hval : (validateOperationResult authorized result).Returns
      after.authorizer () dispatched := Prod.ext (by decide) rfl
  have hseal : (sealFrame (.operationResult result)).Returns
      after.authenticator ⟨1, .operationResult result, digest.toHex⟩ (authenticator 2 3) := by
    refine seals (by decide) rfl (by decide) (by decide) ?_ (by decide +kernel)
    rw [authenticationPayload, Json.encode_length]
    decide +kernel
  have hdispatch : (system Unit Unit Unit place fun _ => ring).Runs () initial
      (handleOperationDispatch (storeAt place ring) request
        (session₀.setAuthenticator (authenticator 1 3))) (.ok answer₁, session₁) s :=
    (runs_onField hauth).andThen ((runs_requireDurableContract htool).andThen
      (hset.andThen ((runs_check (mapError_ok_iff.mpr hres)).andThen
        ((runs_onField hval).andThen (runs_onField hseal)))))
  exact ⟨s, runs_handle_dispatch rfl hopen hdispatch, hsealed, hlog⟩

theorem runs_compensation {s : WorkerWorld Unit Unit} (hsealed : SealedAt place ring s 2) :
    ∃ s', (system Unit Unit Unit place fun _ => ring).Runs () s
      (handle (storeAt place ring) ⟨3, .compensateOperation undo, digest.toHex⟩
        session₁) (.ok ⟨2, .compensationResult undone, digest.toHex⟩, session₂) s' ∧
      s'.log = .commit () (journal done (some done)) :: .act () (.compensate undo) ::
        .commit () (journal done (some .pending)) :: s.log := by
  have hopen : (openFrame ⟨3, .compensateOperation undo, digest.toHex⟩).Returns
      session₁.authenticator (.compensateOperation undo) (authenticator 2 4) := by
    refine opens (by decide) rfl (by decide) (by decide) ?_
    rw [authenticationPayload, Json.encode_length]
    decide +kernel
  have hauth : (authorizeCompensation undo).Returns
      (session₁.setAuthenticator (authenticator 2 4)).authorizer authorizedUndo compensating :=
    Prod.ext (by decide) rfl
  let session := session (authenticator 2 4) compensating (journal done none) 2
  let after := (session.setJournal (journal done (some done))).setRevision 4
  have htool : "echo" ∈ session.adapters := by decide
  have hintent : (admitCompensation authorizedUndo).Returns
      (journal done none) .dispatch (journal done (some .pending)) :=
    admitCompensation_returns valid_done (journal_scope _ _) inputFingerprint
      (journal_position _ _) (by decide) rfl rfl rfl valid_compensating
  have hadm : (compensateEffect (E := Unit) (A := Unit) authorizedUndo).admitIntent.Returns
      (journal done none) none (journal done (some .pending)) :=
    Mut.returns_bind.mpr ⟨_, _, hintent, Mut.returns_pure.mpr ⟨rfl, rfl⟩⟩
  have hobs : (observeCompensation authorizedUndo status).Returns
      (journal done (some .pending)) done (journal done (some done)) :=
    observeCompensation_returns valid_compensating status_granted
      (journal_scope _ _) inputFingerprint (journal_position _ _) (by decide) rfl
      ⟨rfl, rfl, rfl⟩ rfl rfl (by decide) valid_compensated
  obtain ⟨s', hset, _, hlog⟩ := runs_settle (A := Unit) (p := ()) session 3 4 hsealed hadm
    htool (fun _ _ => runs_perform rfl) hobs ⟨valid_compensating, rfl⟩
    ⟨valid_compensated, rfl⟩ rfl rfl
  have hbind : OperationCompensationBinding.new "echo" "op-1" "cmp-1" "tenant" digest.toHex =
    .ok binding := by decide
  have hres : OperationCompensationResult.new "session" "call-2" binding status =
    .ok undone := by decide
  have hval : (validateCompensationResult authorizedUndo undone).Returns
      after.authorizer () compensated := Prod.ext (by decide) rfl
  have hseal : (sealFrame (.compensationResult undone)).Returns
      after.authenticator ⟨2, .compensationResult undone, digest.toHex⟩ (authenticator 3 4) := by
    refine seals (by decide) rfl (by decide) (by decide) ?_ (by decide +kernel)
    rw [authenticationPayload, Json.encode_length]
    decide +kernel
  have hcompensate : (system Unit Unit Unit place fun _ => ring).Runs () s
      (handleCompensation (storeAt place ring) undo
        (session₁.setAuthenticator (authenticator 2 4))) (.ok answer₂, session₂) s' :=
    (runs_onField hauth).andThen ((runs_requireDurableContract htool).andThen
      (hset.andThen ((runs_check (mapError_ok_iff.mpr hbind)).andThen
        ((runs_check (mapError_ok_iff.mpr hres)).andThen
          ((runs_onField hval).andThen (runs_onField hseal))))))
  exact ⟨s', runs_handle_compensation rfl hopen hcompensate, hlog⟩

/-- The session dispatches the operation and compensates it. -/
theorem reachable_compensated :
    ∃ c : Config Unit (WorkerWorld Unit Unit) WorkerOp (WorkerOp.Answer Unit Unit) WorkerSession
        (Option (Handled Unit)),
      (system Unit Unit Unit place fun _ => ring).Reachable initial c ∧ c.shared.log = log ∧
      c.procs () = .idle session₂ := by
  obtain ⟨s₁, hrun₁, hsealed, hlog₁⟩ := runs_dispatch
  have hnoted : SealedAt place ring (s₁.note () (some (.ok answer₁))) 2 := hsealed
  obtain ⟨s₂, hrun₂, hlog₂⟩ := runs_compensation hnoted
  have h₀ := System.Reachable.start (Y := system Unit Unit Unit place fun _ => ring) initial
  have h₁ := h₀.spawn (p := ()) rfl ⟨_, _, _, _, _, rfl⟩ (runs_start.bind .done) rfl
  have h₂ := h₁.serve _ (Function.update_self _ _ _) (runs_serve hrun₁) rfl
  have h₃ := h₂.serve _ (Function.update_self _ _ _) (runs_serve hrun₂) rfl
  refine ⟨_, h₃, ?_, by simp⟩
  change Entry.note () (.ok answer₂) :: s₂.log = log
  rw [hlog₂]
  exact congrArg _ (congrArg _ (congrArg _ (congrArg _ (congrArg _ hlog₁))))

end EchoRun

end WorkerWorld

end Octoscript
