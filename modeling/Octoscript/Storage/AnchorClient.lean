import Octoscript.Storage.AnchorService

namespace Octoscript
open Wire VolatileRollbackAnchor WireRequest WireResponse

/-- The key a request is about. -/
def DecodedWireRequest.key : DecodedWireRequest → StorageRecordKey
  | .load key => key
  | .compareAndSwap key .. => key

/-- The state of the key that a reply vouches for. -/
def AnchorReply.reported : DecodedWireRequest → AnchorReply → Option RollbackAnchorState
  | _, .state s => some s
  | _, .outcome (.conflict actual) => some actual
  | .compareAndSwap _ _ replacement, .outcome .stored => some replacement
  | .load _, .outcome .stored => none

namespace TrustedServiceRollbackAnchor
variable {E : Type} [WireReader]

def call : DecodedWireRequest → Call E AnchorReply
  | .load key => do
    let state ← load key
    return .state state
  | .compareAndSwap key expected replacement => do
    let outcome ← compareAndSwap key expected replacement
    return .outcome outcome

/-- What the client checks before it sends a request. -/
def checkCall (self : TrustedServiceRollbackAnchor) :
    DecodedWireRequest → Except TrustedServiceRollbackAnchorError Unit
  | .load _ => .ok ()
  | .compareAndSwap key expected replacement => self.checkRequest key expected replacement

/-- What the client makes of a response. -/
def receive : DecodedWireRequest → WireResponse →
    Mut TrustedServiceRollbackAnchor TrustedServiceRollbackAnchorError AnchorReply
  | .load key, response => do
    let state ← receiveLoad key response
    return .state state
  | .compareAndSwap key _ replacement, response => do
    let outcome ← receiveCompareAndSwap key replacement response
    return .outcome outcome

/-- A response is read, then acted on. -/
def finish (request : DecodedWireRequest) (answer : Except E Bytes) :
    Mut TrustedServiceRollbackAnchor TrustedServiceRollbackAnchorError AnchorReply := do
  let response ← readResponse answer
  receive request response

theorem exchange_ofDomain (request : DecodedWireRequest) (self : TrustedServiceRollbackAnchor) :
    (exchange (.ofDomain request) : Call E WireResponse) self =
      .perform (.exchange (Json.encode (ofDomain request).toJson)
        maxRollbackAnchorServiceResponseBytes) fun answer => .done (readResponse answer, self) := by
  have hsize := size_ofDomain request
  have hcheck : (rejectIf ((Json.encode (ofDomain request).toJson).length >
      maxRollbackAnchorServiceRequestBytes) (.requestTooLarge maxRollbackAnchorServiceRequestBytes) :
      Except TrustedServiceRollbackAnchorError Unit) = .ok () := if_neg (Nat.lt_asymm hsize)
  rw [exchange, hcheck]
  rfl

theorem load_eq (key : StorageRecordKey) (self : TrustedServiceRollbackAnchor) :
    (call (.load key) : Call E AnchorReply) self =
      .perform (.exchange (Json.encode (ofDomain (.load key)).toJson)
        maxRollbackAnchorServiceResponseBytes) fun answer =>
          .done (finish (.load key) answer self) := by
  rw [call, Effectful.bind_apply, load, Effectful.bind_apply, exchange_ofDomain]
  apply congrArg (Prog.perform _)
  funext answer
  rw [finish]
  beta_reduce
  cases readResponse answer with
  | error e => rfl
  | ok response => exact Effectful.ofMut_bind_pure (receiveLoad key response) AnchorReply.state self

theorem compareAndSwap_eq {key : StorageRecordKey} {expected replacement : RollbackAnchorState}
    {self : TrustedServiceRollbackAnchor}
    (h : self.checkRequest key expected replacement = .ok ()) :
    (call (.compareAndSwap key expected replacement) : Call E AnchorReply) self =
      .perform (.exchange
        (Json.encode (ofDomain (.compareAndSwap key expected replacement)).toJson)
        maxRollbackAnchorServiceResponseBytes) fun answer =>
          .done (finish (.compareAndSwap key expected replacement) answer self) := by
  have hswap : (compareAndSwap key expected replacement : Call E _) self =
      ((exchange (.ofDomain (.compareAndSwap key expected replacement))) self).bind
        (Effectful.next fun response => Effectful.ofMut
          (receiveCompareAndSwap key replacement response)) := by
    rw [compareAndSwap, Effectful.bind_apply, Effectful.self, Prog.bind, Effectful.next,
      Effectful.bind_apply, h]
    rfl
  rw [call, Effectful.bind_apply, hswap, exchange_ofDomain]
  apply congrArg (Prog.perform _)
  funext answer
  rw [finish]
  beta_reduce
  cases readResponse answer with
  | error e => rfl
  | ok response =>
    exact Effectful.ofMut_bind_pure (receiveCompareAndSwap key replacement response)
      AnchorReply.outcome self

theorem compareAndSwap_refused {key : StorageRecordKey} {expected replacement : RollbackAnchorState}
    {self : TrustedServiceRollbackAnchor} {e : TrustedServiceRollbackAnchorError}
    (h : self.checkRequest key expected replacement = .error e) :
    (call (.compareAndSwap key expected replacement) : Call E AnchorReply) self =
      .done (.error e, self) := by
  rw [call, Effectful.bind_apply, compareAndSwap, Effectful.bind_apply, Effectful.self, Prog.bind,
    Effectful.next, Effectful.bind_apply, h]
  rfl

/-- Every call is a check, one exchange, and what is made of the answer. -/
theorem call_eq (request : DecodedWireRequest) (self : TrustedServiceRollbackAnchor) :
    (call request : Call E AnchorReply) self = match self.checkCall request with
      | .error e => .done (.error e, self)
      | .ok _ => .perform (.exchange (Json.encode (ofDomain request).toJson)
          maxRollbackAnchorServiceResponseBytes) fun answer =>
            .done (finish request answer self) := by
  cases request with
  | load key => exact load_eq key self
  | compareAndSwap key expected replacement =>
    rw [checkCall]
    cases h : self.checkRequest key expected replacement with
    | error e => exact compareAndSwap_refused h
    | ok u => exact compareAndSwap_eq h

section
variable {self self' : TrustedServiceRollbackAnchor} {key : StorageRecordKey}
  {s : RollbackAnchorState} {request : DecodedWireRequest} {reply : AnchorReply}

/-- The client may take `s` as the state of `key`. -/
def Follows (self : TrustedServiceRollbackAnchor) (key : StorageRecordKey)
    (s : RollbackAnchorState) : Prop :=
  ∀ previous ∈ self.observed[key]?, previous ≤ s

omit [WireReader] in
theorem validateAgainstObserved_ok_iff {u : Unit} :
    self.validateAgainstObserved key s = .ok u ↔ self.Follows key s := by
  unfold validateAgainstObserved Follows
  cases self.observed[key]? with
  | none => simp
  | some previous => simpa using validateStateTransition_ok_iff

omit [WireReader] in
theorem checkRequest_ok_iff {expected replacement : RollbackAnchorState} {u : Unit} :
    self.checkRequest key expected replacement = .ok u ↔
      self.Follows key expected ∧ expected ≤ replacement := by
  simp [checkRequest, validateExpectedAgainstObserved, validateAgainstObserved_ok_iff,
    validateStateTransition_ok_iff]

omit [WireReader] in
theorem returns_observe {u : Unit} : (observe key s).Returns self u self' ↔
    self.Follows key s ∧ self' = ⟨self.observed.insert key s⟩ := by
  simp only [observe, Mut.returns_bind, Mut.returns_self, Mut.returns_lift, Mut.returns_assign,
    Except.mapError_ok_iff, validateAgainstObserved_ok_iff]
  constructor
  · rintro ⟨_, _, ⟨rfl, rfl⟩, _, _, ⟨hfol, rfl⟩, rfl⟩
    exact ⟨hfol, rfl⟩
  · rintro ⟨hfol, rfl⟩
    exact ⟨_, _, ⟨rfl, rfl⟩, (), _, ⟨hfol, rfl⟩, rfl⟩

omit [WireReader] in
theorem keepsOnError_observe (key : StorageRecordKey) (s : RollbackAnchorState) :
    (observe key s).KeepsOnError :=
  Mut.keepsOnError_self_bind fun _ => Mut.keepsOnError_lift_bind fun _ _ _ _ h =>
    absurd h Mut.fails_assign

omit [WireReader] in
/-- The observation made for a swap that was stored succeeds: what was observed is not
after `expected`, which is not after `replacement`. -/
theorem observe_of_checkRequest {expected replacement : RollbackAnchorState}
    (h : self.checkRequest key expected replacement = .ok ()) :
    (observe key replacement).Returns self () ⟨self.observed.insert key replacement⟩ := by
  obtain ⟨hfol, hle⟩ := checkRequest_ok_iff.mp h
  exact returns_observe.mpr ⟨fun previous hp => (hfol previous hp).trans hle, rfl⟩

/-- A call that returns has observed the state it reports. -/
theorem returns_finish {answer : Except E Bytes}
    (h : (finish request answer).Returns self reply self') :
    ∃ s, reply.reported request = some s ∧ self.Follows request.key s ∧
      self' = ⟨self.observed.insert request.key s⟩ := by
  simp only [finish, Mut.returns_bind, Mut.returns_lift] at h
  obtain ⟨response, _, ⟨_, rfl⟩, h⟩ := h
  cases request with
  | load key =>
    cases response with
    | state version w =>
      simp only [receive, receiveLoad, Mut.returns_bind, Mut.returns_lift, Mut.returns_pure,
        returns_observe] at h
      obtain ⟨_, _, ⟨s, _, ⟨_, rfl⟩, _, _, ⟨hfol, rfl⟩, rfl, rfl⟩, rfl, rfl⟩ := h
      exact ⟨s, rfl, hfol, rfl⟩
    | stored version => simp [receive, receiveLoad] at h
    | conflict version w => simp [receive, receiveLoad] at h
  | compareAndSwap key expected replacement =>
    cases response with
    | state version w => simp [receive, receiveCompareAndSwap] at h
    | stored version =>
      simp only [receive, receiveCompareAndSwap, Mut.returns_bind, Mut.returns_pure,
        returns_observe] at h
      obtain ⟨_, _, ⟨_, _, ⟨hfol, rfl⟩, rfl, rfl⟩, rfl, rfl⟩ := h
      exact ⟨replacement, rfl, hfol, rfl⟩
    | conflict version w =>
      simp only [receive, receiveCompareAndSwap, Mut.returns_bind, Mut.returns_lift,
        Mut.returns_pure, returns_observe] at h
      obtain ⟨_, _, ⟨s, _, ⟨_, rfl⟩, _, _, ⟨hfol, rfl⟩, rfl, rfl⟩, rfl, rfl⟩ := h
      exact ⟨s, rfl, hfol, rfl⟩

theorem keepsOnError_finish (request : DecodedWireRequest) (answer : Except E Bytes) :
    (finish request answer).KeepsOnError := by
  refine Mut.keepsOnError_lift_bind fun response => ?_
  cases request with
  | load key =>
    cases response with
    | state version w =>
      exact (Mut.keepsOnError_lift_bind fun s => (keepsOnError_observe key s).bind_pure).bind_pure
    | stored version => exact fun _ _ _ h => by simp_all [receive, receiveLoad]
    | conflict version w => exact fun _ _ _ h => by simp_all [receive, receiveLoad]
  | compareAndSwap key expected replacement =>
    cases response with
    | state version w => exact fun _ _ _ h => by simp_all [receive, receiveCompareAndSwap]
    | stored version => exact (keepsOnError_observe key replacement).bind_pure.bind_pure
    | conflict version w =>
      exact (Mut.keepsOnError_lift_bind fun s => (keepsOnError_observe key s).bind_pure).bind_pure

end

end TrustedServiceRollbackAnchor

theorem readResponse_encode [LawfulWireReader] {E : Type} (reply : AnchorReply) :
    TrustedServiceRollbackAnchor.readResponse
      (.ok (Json.encode (ofReply reply).toJson) : Except E Bytes) =
        .ok (.ofReply reply) := by
  have hver : (ofReply reply).version = rollbackAnchorServiceProtocolVersion := by
    match reply with
    | .state _ => rfl
    | .outcome .stored => rfl
    | .outcome (.conflict _) => rfl
  simp only [TrustedServiceRollbackAnchor.readResponse, Except.bind_ok_iff, Except.mapError_ok_iff,
    Except.rejectIf_ok_iff, Option.okOr_ok_iff, not_lt, not_not, pure, Except.pure]
  exact ⟨_, rfl, (), size_ofReply reply, _, LawfulWireReader.response_encode _, (),
    hver, rfl⟩

/-- A client, the transport behind it, and the states it reported, newest first. -/
structure ClientRun (T : Type) where
  client : TrustedServiceRollbackAnchor
  transport : T
  reported : List (StorageRecordKey × RollbackAnchorState)

namespace ClientRun
open TrustedServiceRollbackAnchor (finish receive checkRequest_ok_iff readResponse Follows call_eq
  returns_finish keepsOnError_finish observe_of_checkRequest)

section
variable {T E : Type} [WireReader]

def new (transport : T) : ClientRun T := ⟨.new, transport, []⟩

variable (answer : T → (op : TransportOp) → op.Answer E × T)

/-- Runs one call to its end. -/
def result (w : ClientRun T) (request : DecodedWireRequest) :
    (Except TrustedServiceRollbackAnchorError AnchorReply × TrustedServiceRollbackAnchor) × T :=
  (TrustedServiceRollbackAnchor.call request w.client).run answer w.transport

def note (reported : List (StorageRecordKey × RollbackAnchorState)) (request : DecodedWireRequest) :
    Except TrustedServiceRollbackAnchorError AnchorReply →
      List (StorageRecordKey × RollbackAnchorState)
  | .ok reply => ((reply.reported request).map (request.key, ·)).toList ++ reported
  | .error _ => reported

def step (w : ClientRun T) (request : DecodedWireRequest) : ClientRun T :=
  let r := w.result answer request
  ⟨r.1.2, r.2, note w.reported request r.1.1⟩

def run (w : ClientRun T) (requests : List DecodedWireRequest) : ClientRun T :=
  requests.foldl (step answer) w

variable {answer} {w : ClientRun T} {request : DecodedWireRequest}

/-- What the transport answers to a request that is sent. -/
def sent (answer : T → (op : TransportOp) → op.Answer E × T) (w : ClientRun T)
    (request : DecodedWireRequest) : Except E Bytes × T :=
  answer w.transport (.exchange (Json.encode (ofDomain request).toJson)
    maxRollbackAnchorServiceResponseBytes)

theorem result_refused {e : TrustedServiceRollbackAnchorError}
    (h : w.client.checkCall request = .error e) :
    w.result answer request = ((.error e, w.client), w.transport) := by
  rw [result, call_eq, h]
  rfl

theorem result_sent (request : DecodedWireRequest) (h : w.client.checkCall request = .ok ()) :
    w.result answer request =
      (finish request (sent answer w request).1 w.client,
        (sent answer w request).2) := by
  rw [result, call_eq, h]
  rfl

/-- A call reports a state that follows what was observed, or changes nothing. -/
theorem result_cases (answer : T → (op : TransportOp) → op.Answer E × T) (w : ClientRun T)
    (request : DecodedWireRequest) :
    (∃ reply s t, reply.reported request = some s ∧ w.client.Follows request.key s ∧
      w.result answer request = ((.ok reply, ⟨w.client.observed.insert request.key s⟩), t)) ∨
    ∃ e t, w.result answer request = ((.error e, w.client), t) := by
  cases hcheck : w.client.checkCall request with
  | error e => exact Or.inr ⟨e, _, result_refused hcheck⟩
  | ok u =>
    rw [result_sent request hcheck]
    rcases Mut.returns_or_fails (finish request
      (sent answer w request).1) w.client with ⟨reply, h⟩ | ⟨e, h⟩
    · obtain ⟨s, hrep, hfol, hclient⟩ := returns_finish h
      exact Or.inl ⟨reply, s, _, hrep, hfol, Prod.ext (h.trans (by rw [hclient])) rfl⟩
    · have hclient := keepsOnError_finish _ _ _ _ _ h
      exact Or.inr ⟨e, _, Prod.ext (h.trans (by rw [hclient])) rfl⟩

/-- The later report of one key is not before the earlier one, and every report is at
or below what is observed now. -/
structure Ordered (w : ClientRun T) : Prop where
  pairwise : w.reported.Pairwise fun later earlier =>
    earlier.1 = later.1 → earlier.2 ≤ later.2
  observed : ∀ r ∈ w.reported, ∃ floor ∈ w.client.observed[r.1]?, r.2 ≤ floor

omit [WireReader] in
theorem ordered_new (t : T) : (new t).Ordered :=
  ⟨List.Pairwise.nil, fun _ h => nomatch h⟩

omit [WireReader] in
theorem Ordered.report (h : w.Ordered) {key : StorageRecordKey} {s : RollbackAnchorState}
    (hfol : w.client.Follows key s) (t : T) :
    Ordered ⟨⟨w.client.observed.insert key s⟩, t, (key, s) :: w.reported⟩ := by
  refine ⟨List.pairwise_cons.mpr ⟨fun r hr hkey => ?_, h.pairwise⟩, fun r hr => ?_⟩
  · obtain ⟨floor, hfloor, hle⟩ := h.observed r hr
    rw [hkey] at hfloor
    exact hle.trans (hfol floor hfloor)
  · rcases List.mem_cons.mp hr with rfl | hr
    · exact ⟨s, by simp, le_refl s⟩
    · obtain ⟨floor, hfloor, hle⟩ := h.observed r hr
      by_cases hkey : r.1 = key
      · rw [hkey] at hfloor
        exact ⟨s, by simp [hkey], hle.trans (hfol floor hfloor)⟩
      · refine ⟨floor, ?_, hle⟩
        rw [Std.ExtTreeMap.getElem?_insert, if_neg (by simpa using Ne.symm hkey)]
        exact hfloor

theorem Ordered.step (h : w.Ordered) (request : DecodedWireRequest) :
    (w.step answer request).Ordered := by
  rcases result_cases answer w request with ⟨reply, s, t, hrep, hfol, hres⟩ |
    ⟨e, t, hres⟩
  · rw [ClientRun.step, hres, note, hrep]
    exact h.report hfol t
  · rw [ClientRun.step, hres, note]
    exact ⟨h.pairwise, h.observed⟩

theorem ordered_run (t : T) (requests : List DecodedWireRequest) :
    ((new t).run answer requests).Ordered := by
  suffices ∀ w : ClientRun T, w.Ordered → (w.run answer requests).Ordered from
    this _ (ordered_new t)
  induction requests with
  | nil => exact fun _ h => h
  | cons request requests ih => exact fun w h => ih _ (h.step request)

/-- Whatever the transport answers, through any sequence of calls: the states reported
for one key never fall in revision or fence, two with one revision have one commitment,
and a swap that the service answers with `stored` is never refused by the client's own
observation of it. -/
theorem reports_never_regress (t : T) (requests : List DecodedWireRequest) :
    let w := (new t).run answer requests
    (w.reported.Pairwise fun later earlier => earlier.1 = later.1 →
      earlier.2.revisionFloor ≤ later.2.revisionFloor ∧
      earlier.2.fencingToken ≤ later.2.fencingToken ∧
      (earlier.2.revisionFloor = later.2.revisionFloor →
        earlier.2.recordCommitment = later.2.recordCommitment)) ∧
    ∀ key expected replacement version,
      w.client.checkRequest key expected replacement = .ok () →
      readResponse
        (sent answer w (.compareAndSwap key expected replacement)).1 = .ok (.stored version) →
      (w.result answer (.compareAndSwap key expected replacement)).1 =
        (.ok (.outcome .stored), ⟨w.client.observed.insert key replacement⟩) := by
  intro w
  refine ⟨(ordered_run t requests).pairwise, ?_⟩
  intro key expected replacement version hcheck hstored
  have hobs := observe_of_checkRequest hcheck
  rw [result_sent (.compareAndSwap key expected replacement) hcheck]
  change (finish _ _).Returns _ _ _
  simp only [finish, receive,
    Mut.returns_bind, Mut.returns_lift, hstored]
  exact ⟨_, _, ⟨rfl, rfl⟩, .stored, _, Mut.returns_bind.mpr ⟨(), _, hobs, rfl⟩, rfl⟩

end

/-- A swap that was answered with `stored` is reported. -/
theorem run_concat_of_stored {T E : Type} [WireReader]
    {answer : T → (op : TransportOp) → op.Answer E × T} {t : T} {requests : List DecodedWireRequest}
    {key : StorageRecordKey} {expected replacement : RollbackAnchorState}
    (h : (((new t).run answer requests).result answer (.compareAndSwap key expected replacement)).1 =
      (.ok (.outcome .stored),
        ⟨((new t).run answer requests).client.observed.insert key replacement⟩)) :
    let w := (new t).run answer (requests ++ [.compareAndSwap key expected replacement])
    w.client.observed = ((new t).run answer requests).client.observed.insert key replacement ∧
      w.reported = (key, replacement) :: ((new t).run answer requests).reported := by
  rw [run] at h
  simp only [run, List.foldl_append, List.foldl_cons, List.foldl_nil, step, h]
  exact ⟨trivial, rfl⟩

/-- A transport that answers `stored` to everything is believed, twice. -/
theorem reports_never_regress_of_stored :
    ∃ (_ : WireReader) (answer : Unit → (op : TransportOp) → op.Answer Unit × Unit)
      (key : StorageRecordKey) (first second : RollbackAnchorState),
      let w := (new ()).run answer
        [.compareAndSwap key .initial first, .compareAndSwap key first second]
      first.revisionFloor = 1 ∧ second.revisionFloor = 2 ∧
      w.reported = [(key, second), (key, first)] ∧
      first.fencingToken ≤ second.fencingToken := by
  obtain ⟨_⟩ := nonempty_lawfulWireReader
  let answer : Unit → (op : TransportOp) → op.Answer Unit × Unit := fun _ op =>
    op.casesOn fun _ _ => (.ok (Json.encode (ofReply (.outcome .stored)).toJson), ())
  let key : StorageRecordKey := ⟨"workflow-ledger", "release-42", by decide +kernel, by decide +kernel⟩
  let first : RollbackAnchorState := ⟨1, some ⟨List.replicate 32 7, rfl⟩, 2, by decide⟩
  let second : RollbackAnchorState := ⟨2, some ⟨List.replicate 32 8, rfl⟩, 2, by decide⟩
  have hcheck : (new ()).client.checkRequest key .initial first = .ok () :=
    checkRequest_ok_iff.mpr ⟨by
      simp [Follows, new, TrustedServiceRollbackAnchor.new],
      RollbackAnchorState.initial_le first⟩
  have hfirst : (((new ()).run answer []).result answer (.compareAndSwap key .initial first)).1 = _ :=
    (reports_never_regress () []).2 key .initial first _ hcheck
      (readResponse_encode (.outcome .stored))
  obtain ⟨hobserved, hreported⟩ := run_concat_of_stored hfirst
  have hnext : ((new ()).run answer [.compareAndSwap key .initial first]).client.checkRequest key
      first second = .ok () := by
    refine checkRequest_ok_iff.mpr ⟨?_, by decide⟩
    intro floor hfloor
    rw [List.nil_append] at hobserved
    rw [hobserved, Std.ExtTreeMap.getElem?_insert_self] at hfloor
    exact (Option.some.inj hfloor).ge
  have hsecond : (((new ()).run answer [.compareAndSwap key .initial first]).result answer
      (.compareAndSwap key first second)).1 = _ :=
    (reports_never_regress () [.compareAndSwap key .initial first]).2 key first second _ hnext
      (readResponse_encode (.outcome .stored))
  obtain ⟨-, hreported'⟩ := run_concat_of_stored hsecond
  have hordered : ((new ()).run answer
      ([.compareAndSwap key .initial first] ++ [.compareAndSwap key first second])).reported.Pairwise
      _ := (reports_never_regress () _).1
  have hboth := hreported'.trans (congrArg ((key, second) :: ·) hreported)
  rw [hboth] at hordered
  obtain ⟨-, hfence, -⟩ := (List.pairwise_cons.mp hordered).1 _ (List.mem_singleton.mpr rfl) rfl
  exact ⟨_, answer, key, first, second, rfl, rfl, hboth, hfence⟩

end ClientRun

section
variable [LawfulWireReader]

theorem decodeServiceRequest_encode (request : DecodedWireRequest) :
    decodeServiceRequest (Json.encode (ofDomain request).toJson) = .ok request := by
  have hver : (ofDomain request).version = rollbackAnchorServiceProtocolVersion := by
    cases request <;> rfl
  simp only [decodeServiceRequest, LawfulWireReader.request_encode, Except.bind_ok_iff,
    Except.rejectIf_ok_iff, Option.okOr_ok_iff, not_lt, not_not]
  exact ⟨(), (size_ofDomain request).le, _, rfl, (), hver,
    (intoDomain_eq_some_iff hver).mpr rfl⟩

theorem decodeServiceRequest_blank (request : DecodedWireRequest) :
    decodeServiceRequest (Json.encode (ofDomain request).toJson ++ [0x20]) =
      .ok request := by
  have hsize := size_ofDomain request
  have hplain := decodeServiceRequest_encode request
  simp only [decodeServiceRequest, Except.bind_ok_iff, Except.rejectIf_ok_iff] at hplain ⊢
  obtain ⟨_, _, hrest⟩ := hplain
  rw [LawfulWireReader.request_blank]
  exact ⟨(), by simpa using hsize, hrest⟩

omit [LawfulWireReader] in
/-- A request that is accepted says no more than the request it gives. -/
theorem request_of_decodeServiceRequest [WireReader] {b : Bytes} {request : DecodedWireRequest}
    (h : decodeServiceRequest b = .ok request) :
    WireReader.request b = some (.ofDomain request) := by
  simp only [decodeServiceRequest, Except.bind_ok_iff, Except.rejectIf_ok_iff, Option.okOr_ok_iff,
    not_lt, not_not] at h
  obtain ⟨_, _, wire, hread, _, hver, hdomain⟩ := h
  rw [hread, (intoDomain_eq_some_iff hver).mp hdomain]

end

namespace RollbackAnchorService
variable {A E : Type} [RollbackAnchor A E] [LawfulWireReader]

/-- A transport that delivers every request and every response. -/
def serve (anchor : A) : (op : TransportOp) → op.Answer RollbackAnchorServiceError × A
  | .exchange request _ => handleRequest request anchor

/-- The request asks for a move of the order. -/
def Monotone : DecodedWireRequest → Prop
  | .load _ => True
  | .compareAndSwap _ expected replacement => expected ≤ replacement

omit [LawfulWireReader] in
theorem respond_eq {request : DecodedWireRequest} (h : Monotone request) (a : A) :
    respond request a = match call request a with
      | (.ok reply, a') => (.ok (.ofReply reply), a')
      | (.error _, a') => (.error .backend, a') := by
  cases request with
  | load key =>
    simp only [respond, bind, Mut.mapErr]
    rcases call (.load key) a with ⟨_ | _, a'⟩ <;> rfl
  | compareAndSwap key expected replacement =>
    have hvalid : validateStateTransition expected replacement = .ok () :=
      validateStateTransition_ok_iff.mpr h
    rw [respond, hvalid]
    change (Mut.mapErr _ (call (.compareAndSwap key expected replacement)) >>= _) a = _
    simp only [bind, Mut.mapErr]
    rcases call (.compareAndSwap key expected replacement) a with ⟨_ | _, a'⟩ <;> rfl

/-- The service's answer is the anchor's reply. -/
theorem handleRequest_encode {request : DecodedWireRequest} (h : Monotone request) (a : A) :
    handleRequest (Json.encode (ofDomain request).toJson) a =
      match call request a with
      | (.ok reply, a') => (.ok (Json.encode (ofReply reply).toJson), a')
      | (.error _, a') => (.error .backend, a') := by
  rw [handleRequest, decodeServiceRequest_encode]
  change (respond request >>= fun response => _) a = _
  simp only [bind, respond_eq h]
  rcases call request a with ⟨_ | reply, a'⟩
  · rfl
  · change ((encodeServiceResponse (.ofReply reply)), a') = _
    rw [encodeServiceResponse_ofReply]

end RollbackAnchorService

namespace ClientRun
open RollbackAnchorService (call serve Monotone handleRequest_encode)
open TrustedServiceRollbackAnchor (finish receive checkRequest_ok_iff Follows decodeState observe
  returns_observe receiveLoad receiveCompareAndSwap checkCall checkRequest
  validateExpectedAgainstObserved validateAgainstObserved)

section
variable {A E : Type} [RollbackAnchor A E] [LawfulWireReader] {C : CorrectAnchor A E}
  {w : ClientRun A} {request : DecodedWireRequest}

/-- What the client observed is not after the anchor's own state. -/
def Behind (C : CorrectAnchor A E) (w : ClientRun A) : Prop :=
  ∀ key, w.client.Follows key (C.current w.transport key)

omit [LawfulWireReader] in
/-- A reply of the anchor shows the state the key has after it. -/
theorem reported_call {a a' : A} {reply : AnchorReply}
    (h : (call request).Returns a reply a') :
    reply.reported request = some (C.current a' request.key) := by
  cases request with
  | load key =>
    simp only [call, Mut.returns_bind, Mut.returns_self, Mut.returns_lift,
      Mut.returns_pure] at h
    obtain ⟨_, _, ⟨rfl, rfl⟩, s, _, ⟨hload, rfl⟩, rfl, rfl⟩ := h
    exact congrArg some (C.load_eq a key s hload)
  | compareAndSwap key expected replacement =>
    simp only [call, Mut.returns_bind, Mut.returns_pure] at h
    obtain ⟨outcome, a₁, hswap, rfl, rfl⟩ := h
    cases outcome with
    | stored =>
      obtain ⟨_, _, hcur⟩ := C.stored_eq _ _ _ _ _ hswap
      have hkey : C.current a₁ key = replacement := by rw [hcur, Function.update_self]
      exact congrArg some hkey.symm
    | conflict actual =>
      obtain ⟨rfl, rfl⟩ := C.conflict_eq _ _ _ _ _ _ hswap
      rfl

omit [LawfulWireReader] in
/-- Whatever the anchor returns, no state moves back. -/
theorem current_le_call (C : CorrectAnchor A E) (request : DecodedWireRequest) (a : A)
    (k : StorageRecordKey) :
    C.current a k ≤ C.current (call request a).2 k := by
  cases request with
  | load key =>
    have hsame : (call (.load key) a).2 = a := by
      rcases Mut.returns_or_fails (call (.load key)) a with ⟨_, h⟩ | ⟨e, h⟩
      · simp only [call, Mut.returns_bind, Mut.returns_self,
          Mut.returns_lift, Mut.returns_pure] at h
        obtain ⟨_, _, ⟨rfl, rfl⟩, _, _, ⟨_, rfl⟩, _, hsame⟩ := h
        exact hsame.symm
      · exact Mut.keepsOnError_self_bind (fun _ => Mut.keepsOnError_lift_bind fun s =>
          Mut.keepsOnError_pure (AnchorReply.state s)) a e _ h
    rw [hsame]
  | compareAndSwap key expected replacement =>
    have hsame : (call (.compareAndSwap key expected replacement) a).2 =
        (RollbackAnchor.compareAndSwap key expected replacement a).2 := by
      simp only [call, bind]
      rcases RollbackAnchor.compareAndSwap key expected replacement a with ⟨_ | _, _⟩ <;> rfl
    rw [hsame]
    rcases Mut.returns_or_fails (RollbackAnchor.compareAndSwap key expected replacement) a with
      ⟨outcome, h⟩ | ⟨e, h⟩
    · cases outcome with
      | stored =>
        obtain ⟨hexp, hle, hcur⟩ := C.stored_eq _ _ _ _ _ h
        rw [hcur]
        by_cases hk : k = key
        · subst hk
          rw [Function.update_self]
          exact hexp ▸ hle
        · rw [Function.update_of_ne hk]
      | conflict actual => rw [(C.conflict_eq _ _ _ _ _ _ h).2]
    · exact C.fails_le _ _ _ _ _ _ h k

/-- The client takes a reply of the anchor as its own. -/
theorem finish_reply {a a' : A} {reply : AnchorReply} {s : RollbackAnchorState}
    {c : TrustedServiceRollbackAnchor} {F : Type}
    (h : (call request).Returns a reply a')
    (hrep : reply.reported request = some s) (hfol : c.Follows request.key s) :
    (finish request
      (.ok (Json.encode (ofReply reply).toJson) : Except F Bytes)).Returns c reply
        ⟨c.observed.insert request.key s⟩ := by
  have hobs : (observe request.key s).Returns c ()
      ⟨c.observed.insert request.key s⟩ :=
    returns_observe.mpr ⟨hfol, rfl⟩
  have hstate (s : RollbackAnchorState) :
      decodeState (WireState.ofDomain s) = .ok s := by
    rw [decodeState, WireState.intoDomain_eq_some_iff.mpr rfl]
    rfl
  simp only [finish, Mut.returns_bind, Mut.returns_lift,
    readResponse_encode]
  refine ⟨_, _, ⟨rfl, rfl⟩, ?_⟩
  cases request with
  | load key =>
    simp only [call, Mut.returns_bind, Mut.returns_self, Mut.returns_lift,
      Mut.returns_pure] at h
    obtain ⟨_, _, ⟨rfl, rfl⟩, _, _, ⟨_, rfl⟩, rfl, rfl⟩ := h
    obtain rfl := Option.some.inj hrep
    simp only [receive, ofReply,
      receiveLoad, hstate, Mut.returns_bind, Mut.returns_lift]
    exact ⟨_, _, ⟨_, _, ⟨rfl, rfl⟩, (), _, hobs, rfl⟩, rfl⟩
  | compareAndSwap key expected replacement =>
    simp only [call, Mut.returns_bind, Mut.returns_pure] at h
    obtain ⟨outcome, _, _, rfl, rfl⟩ := h
    cases outcome with
    | stored =>
      obtain rfl := Option.some.inj hrep
      simp only [receive, ofReply,
        receiveCompareAndSwap, Mut.returns_bind]
      exact ⟨_, _, ⟨(), _, hobs, rfl⟩, rfl⟩
    | conflict actual =>
      obtain rfl := Option.some.inj hrep
      simp only [receive, ofReply,
        receiveCompareAndSwap, hstate, Mut.returns_bind,
        Mut.returns_lift]
      exact ⟨_, _, ⟨_, _, ⟨rfl, rfl⟩, (), _, hobs, rfl⟩, rfl⟩

/-- A request that is sent and answered. -/
theorem result_of_reply {a' : A} {reply : AnchorReply} {s : RollbackAnchorState}
    (hcheck : w.client.checkCall request = .ok ())
    (hmono : Monotone request)
    (h : (call request).Returns w.transport reply a')
    (hrep : reply.reported request = some s) (hfol : w.client.Follows request.key s) :
    w.result serve request =
      ((.ok reply, ⟨w.client.observed.insert request.key s⟩), a') := by
  have hsent : sent serve w request = _ :=
    handleRequest_encode hmono w.transport
  rw [h] at hsent
  rw [result_sent request hcheck, hsent]
  exact Prod.ext (finish_reply h hrep hfol) rfl

/-- A request the client sends gets the anchor's own reply. -/
theorem result_of_sent (hbehind : Behind C w) (hcheck : w.client.checkCall request = .ok ()) :
    (w.result serve request).1.1 =
        (call request w.transport).1.mapError (fun _ => .transport) ∧
      (w.result serve request).2 =
        (call request w.transport).2 ∧
      Behind C (w.step serve request) := by
  have hmono : Monotone request := by
    cases request with
    | load key => trivial
    | compareAndSwap key expected replacement =>
      exact (checkRequest_ok_iff.mp hcheck).2
  have hle := current_le_call C request w.transport
  rcases h : call request w.transport with ⟨e | reply, a'⟩
  -- the anchor failed, and nothing is observed
  · rw [h] at hle
    have hsent : sent serve w request = _ :=
      handleRequest_encode hmono w.transport
    rw [h] at hsent
    have hres : w.result serve request =
        ((.error .transport, w.client), a') := by
      rw [result_sent request hcheck, hsent]
      rfl
    refine ⟨by rw [hres]; rfl, by rw [hres], ?_⟩
    rw [step, hres]
    exact fun key previous hp => (hbehind key previous hp).trans (hle key)
  -- the anchor answered, and the client observes the state that it reports
  · rw [h] at hle
    have hfol : w.client.Follows request.key (C.current a' request.key) :=
      fun previous hp => (hbehind request.key previous hp).trans (hle request.key)
    have hres := result_of_reply hcheck hmono h (reported_call h) hfol
    refine ⟨by rw [hres]; rfl, by rw [hres], ?_⟩
    rw [step, hres]
    intro key previous hp
    simp only [Std.ExtTreeMap.getElem?_insert] at hp
    split_ifs at hp with hkey
    · obtain rfl := Std.LawfulEqCmp.eq_of_compare hkey
      obtain rfl := Option.some.inj hp
      exact le_refl _
    · exact (hbehind key previous hp).trans (hle key)

/-- A request the client refuses could not have been stored, and changes nothing. -/
theorem result_of_refused {e : TrustedServiceRollbackAnchorError} (hbehind : Behind C w)
    (hcheck : w.client.checkCall request = .error e) :
    w.result serve request = ((.error e, w.client), w.transport) ∧
      (call request w.transport).2 = w.transport ∧
      (call request w.transport).1 ≠ .ok (.outcome .stored) := by
  cases request with
  | load key => exact nomatch hcheck
  | compareAndSwap key expected replacement =>
    refine ⟨result_refused hcheck, ?_⟩
    have hrefused : expected ≠ C.current w.transport key ∨ ¬expected ≤ replacement := by
      by_contra hnot
      simp only [not_or, not_not] at hnot
      obtain ⟨rfl, hle⟩ := hnot
      have hok : w.client.checkRequest key _ replacement = .ok () :=
        checkRequest_ok_iff.mpr ⟨hbehind key, hle⟩
      exact nomatch hok.symm.trans hcheck
    have hcall : call (.compareAndSwap key expected replacement) w.transport =
        ((RollbackAnchor.compareAndSwap key expected replacement w.transport).1.map .outcome,
          (RollbackAnchor.compareAndSwap key expected replacement w.transport).2) := by
      simp only [call, bind]
      rcases RollbackAnchor.compareAndSwap key expected replacement w.transport with ⟨_ | _, _⟩ <;>
        rfl
    rw [hcall]
    refine ⟨C.refused_eq _ _ _ _ _ _ rfl hrefused, fun hstored => ?_⟩
    rcases Mut.returns_or_fails (RollbackAnchor.compareAndSwap key expected replacement)
      w.transport with ⟨outcome, h⟩ | ⟨e', h⟩
    · rw [h] at hstored
      obtain rfl := AnchorReply.outcome.inj (Except.ok.inj hstored)
      obtain ⟨hexp, hle, _⟩ := C.stored_eq _ _ _ _ _ h
      exact hrefused.elim (absurd hexp) (absurd hle)
    · rw [h] at hstored
      exact nomatch hstored

/-- The anchor after a sequence of requests made to it directly. -/
def direct (a : A) (requests : List DecodedWireRequest) : A :=
  requests.foldl (fun a request => (call request a).2) a

theorem behind_step (hbehind : Behind C w) (request : DecodedWireRequest) :
    Behind C (w.step serve request) ∧
      (w.step serve request).transport =
        (call request w.transport).2 := by
  cases hcheck : w.client.checkCall request with
  | ok u =>
    obtain ⟨_, htrans, hstep⟩ := result_of_sent hbehind hcheck
    exact ⟨hstep, htrans⟩
  | error e =>
    obtain ⟨hres, hsame, _⟩ := result_of_refused hbehind hcheck
    rw [step, hres, hsame]
    exact ⟨hbehind, rfl⟩

theorem behind_run (C : CorrectAnchor A E) (a : A) (requests : List DecodedWireRequest) :
    Behind C ((new a).run serve requests) ∧
      ((new a).run serve requests).transport = direct a requests := by
  suffices ∀ w : ClientRun A, Behind C w →
      Behind C (w.run serve requests) ∧
        (w.run serve requests).transport = direct w.transport requests from
    this _ fun key previous hp => by simp [new, TrustedServiceRollbackAnchor.new] at hp
  induction requests with
  | nil => exact fun w h => ⟨h, rfl⟩
  | cons request requests ih =>
    intro w h
    obtain ⟨hstep, htrans⟩ := behind_step h request
    obtain ⟨hrun, hdirect⟩ := ih _ hstep
    refine ⟨hrun, hdirect.trans ?_⟩
    rw [htrans]
    rfl

omit [LawfulWireReader] in
theorem checkCall_ok_iff {client : TrustedServiceRollbackAnchor} {request : DecodedWireRequest} :
    client.checkCall request = .ok () ↔ ∀ key expected replacement,
      request = .compareAndSwap key expected replacement →
        client.Follows key expected ∧ expected ≤ replacement := by
  cases request with
  | load key => simp [checkCall]
  | compareAndSwap key expected replacement =>
    rw [checkCall, checkRequest_ok_iff]
    constructor
    · rintro h _ _ _ ⟨rfl, rfl, rfl⟩
      exact h
    · intro h
      exact h key expected replacement rfl

/-- Through any sequence of requests, the anchor behind the client and the service moves
as if it were used directly. Each request the client sends gets the anchor's reply; the
client refuses exactly the swaps whose expected state falls behind what it observed or whose
replacement falls behind the expected state, and those the anchor does not store. Requests
and states are read back as they were written, and what is accepted is, field by field,
the encoding of what it means. -/
theorem service_refines_anchor (C : CorrectAnchor A E) (a : A)
    (requests : List DecodedWireRequest) :
    let w := (new a).run serve requests
    (w.transport = direct a requests ∧ ∀ request,
      (w.client.checkCall request = .ok () ↔ ∀ key expected replacement,
        request = .compareAndSwap key expected replacement →
          w.client.Follows key expected ∧ expected ≤ replacement) ∧
      (w.client.checkCall request = .ok () →
        (w.result serve request).1.1 =
          (call request w.transport).1.mapError (fun _ => .transport)) ∧
      ∀ e, w.client.checkCall request = .error e →
        (w.result serve request).1.1 = .error e ∧
        (call request w.transport).1 ≠ .ok (.outcome .stored) ∧
        (call request w.transport).2 = w.transport) ∧
    (∀ request, decodeServiceRequest (Json.encode (ofDomain request).toJson) =
      .ok request) ∧
    (∀ b request, decodeServiceRequest b = .ok request →
      WireReader.request b = some (.ofDomain request)) ∧
    ∀ (wire : WireState) state, wire.intoDomain = some state ↔ wire = .ofDomain state := by
  intro w
  obtain ⟨hbehind, htrans⟩ := behind_run C a requests
  refine ⟨⟨htrans, fun request => ⟨checkCall_ok_iff, fun hcheck =>
    (result_of_sent hbehind hcheck).1, fun e hcheck => ?_⟩⟩, decodeServiceRequest_encode,
    fun _ _ => request_of_decodeServiceRequest, fun _ _ => WireState.intoDomain_eq_some_iff⟩
  obtain ⟨hres, hsame, hnot⟩ := result_of_refused hbehind hcheck
  exact ⟨by rw [hres], hnot, hsame⟩

end

/-- The first swap of a key, through the client to the in-memory anchor. -/
theorem run_first [LawfulWireReader] (key : StorageRecordKey) (first : RollbackAnchorState) :
    (new empty).run serve
      [.compareAndSwap key .initial first] =
        ⟨⟨(∅ : Std.ExtTreeMap _ _).insert key first⟩, ⟨(∅ : Std.ExtTreeMap _ _).insert key first⟩,
          [(key, first)]⟩ := by
  have hstate : VolatileRollbackAnchor.empty.state key = .initial := by
    simp [VolatileRollbackAnchor.state, VolatileRollbackAnchor.empty]
  have hcall : (call (.compareAndSwap key .initial first)).Returns
      empty (.outcome .stored) ⟨(∅ : Std.ExtTreeMap _ _).insert key first⟩ := by
    refine Mut.returns_bind.mpr ⟨.stored, _, ?_, rfl⟩
    refine (compareAndSwap_eq _ key .initial first).trans ?_
    rw [if_neg (not_not.mpr hstate), hstate]
    exact returns_advance.mpr ⟨RollbackAnchorState.initial_le first, rfl, rfl⟩
  have hfol (s : RollbackAnchorState) : TrustedServiceRollbackAnchor.new.Follows key s := by
    simp [Follows, TrustedServiceRollbackAnchor.new]
  have hcheck : (new empty).client.checkCall
      (.compareAndSwap key .initial first) = .ok () :=
    checkRequest_ok_iff.mpr
      ⟨hfol _, RollbackAnchorState.initial_le first⟩
  have hres := result_of_reply hcheck (RollbackAnchorState.initial_le first) hcall rfl
    (hfol first)
  rw [run, List.foldl_cons, List.foldl_nil, step, hres]
  rfl

/-- A record is anchored through the client over the in-memory anchor. -/
theorem service_refines_anchor_of_swap :
    ∃ (_ : LawfulWireReader) (key : StorageRecordKey) (first : RollbackAnchorState),
      let w := (new empty).run serve
        [.compareAndSwap key .initial first]
      first.revisionFloor = 1 ∧ w.transport = direct .empty [.compareAndSwap key .initial first] ∧
      w.client.checkCall (.load key) = .ok () ∧
      (w.result serve (.load key)).1.1 =
        (call (.load key) w.transport).1.mapError fun _ => .transport := by
  obtain ⟨_⟩ := nonempty_lawfulWireReader
  let key : StorageRecordKey := ⟨"workflow-ledger", "release-42", by decide +kernel, by decide +kernel⟩
  let first : RollbackAnchorState := ⟨1, some ⟨List.replicate 32 7, rfl⟩, 3, by decide⟩
  obtain ⟨⟨htrans, hcalls⟩, _⟩ := service_refines_anchor correct .empty
    [.compareAndSwap key .initial first]
  exact ⟨_, key, first, rfl, htrans, rfl, (hcalls (.load key)).2.1 rfl⟩

/-- Two ways in which the service is not the anchor: a swap from a state that the client
saw pass is refused where the anchor reports a conflict, and a request with a blank after
it is accepted though it is not what the client writes. -/
theorem service_not_transparent :
    ∃ (_ : LawfulWireReader) (key : StorageRecordKey) (first second : RollbackAnchorState) (b : Bytes)
      (request : DecodedWireRequest),
      let w := (new empty).run serve
        [.compareAndSwap key .initial first]
      ((w.result serve (.compareAndSwap key .initial second)).1.1 =
          .error (.expectedStateRegressed .revisionRegressed) ∧
        (call (.compareAndSwap key .initial second) w.transport).1 =
          .ok (.outcome (.conflict first))) ∧
      decodeServiceRequest b = .ok request ∧
        Json.encode (ofDomain request).toJson ≠ b := by
  obtain ⟨reader⟩ := nonempty_lawfulWireReader
  refine ⟨reader, ?_⟩
  let key : StorageRecordKey := ⟨"workflow-ledger", "release-42", by decide, by decide⟩
  let first : RollbackAnchorState := ⟨1, some ⟨List.replicate 32 7, rfl⟩, 0, by decide⟩
  let second : RollbackAnchorState := ⟨2, some ⟨List.replicate 32 8, rfl⟩, 0, by decide⟩
  let text := Json.encode (ofDomain (.load key)).toJson
  refine ⟨key, first, second, text ++ [0x20], .load key, ⟨?_, ?_⟩, ?_, ?_⟩
  · rw [run_first]
    have hcheck : checkCall
        ⟨(∅ : Std.ExtTreeMap _ _).insert key first⟩ (.compareAndSwap key .initial second) =
          .error (.expectedStateRegressed .revisionRegressed) := by
      simp only [checkCall, checkRequest,
        validateExpectedAgainstObserved,
        validateAgainstObserved, Std.ExtTreeMap.getElem?_insert_self]
      rfl
    rw [result_refused hcheck]
  · rw [run_first]
    have hstate : state ⟨(∅ : Std.ExtTreeMap _ _).insert key first⟩ key =
        first := by
      simp [VolatileRollbackAnchor.state]
    have hswap := compareAndSwap_eq
      ⟨(∅ : Std.ExtTreeMap _ _).insert key first⟩ key .initial second
    rw [hstate, if_pos (by decide)] at hswap
    let anchor : VolatileRollbackAnchor := ⟨(∅ : Std.ExtTreeMap _ _).insert key first⟩
    have hcall : (call (.compareAndSwap key .initial second)).Returns anchor
        (.outcome (.conflict first)) anchor :=
      Mut.returns_bind.mpr ⟨.conflict first, anchor, hswap, rfl⟩
    rw [hcall]
  · exact decodeServiceRequest_blank (.load key)
  · intro h
    exact absurd (congrArg List.length h) (by simp [text])

end ClientRun

end Octoscript
