import Octoscript.Capabilities.SupervisedSession

namespace Octoscript

open SupervisedOp
open ExternalToolWorkerBinding (eventFromObservation prepare)

inductive SupervisedCall
  | start (invocation : ExternalToolInvocation) (requestId : String)
  | requestCancellation (request : ExternalToolCancellationRequest) (cancellationId : String)
  | pollEvent
  | poll
  deriving DecidableEq

inductive SupervisedReply (T V : Type)
  | started
  | requested
  | event (event : SupervisedExternalToolWorkerEvent T)
  | poll (poll : SupervisedExternalToolWorkerPoll T V)

section
variable (I S T V : Type)

abbrev SupervisedResult := Except (SupervisedMultiplexedWorkerError S T) (SupervisedReply T V)

abbrev SupervisedEvent :=
  Event SupervisedCall (SupervisedOp I) (Answer S T V) (SupervisedResult S T V)

abbrev SupervisedExchange :=
  Exchange SupervisedCall (SupervisedOp I) (Answer S T V) (SupervisedResult S T V)

end

namespace SupervisedMultiplexedWorkerSession
variable {I S T V : Type} [JsonReader]

def serve : SupervisedCall → Call I S T V (SupervisedReply T V)
  | .start invocation requestId => do
    startExternalTool invocation requestId
    return .started
  | .requestCancellation request cancellationId => do
    requestExternalToolCancellation request cancellationId
    return .requested
  | .pollEvent => do
    let event ← pollExternalToolEvent
    return .event event
  | .poll => do
    let poll ← pollExternalTool
    return .poll poll

end SupervisedMultiplexedWorkerSession

section
variable {I S T V : Type}

/-- An answer of the transport that keeps the call going. -/
inductive Waits : Said (SupervisedOp I) (Answer S T V) → Prop
  | requestCancellation {pending id} : Waits ⟨.requestCancellation pending id, .ok ()⟩
  | tryWait {pending outcome} : Waits ⟨.tryWait pending, .ok outcome⟩
  | tryWaitCancellation {cancellation result} : Waits ⟨.tryWaitCancellation cancellation, .ok result⟩

/-- An error of the transport while a call is armed. -/
inductive Breaks : Said (SupervisedOp I) (Answer S T V) → Prop
  | requestCancellation {pending id error} : Breaks ⟨.requestCancellation pending id, .error error⟩
  | tryWait {pending error} : Breaks ⟨.tryWait pending, .error error⟩
  | tryWaitCancellation {cancellation error} :
      Breaks ⟨.tryWaitCancellation cancellation, .error error⟩

/-- The runtime's operation is completed or cancelled. -/
inductive Settles (id : ExternalToolId) : Said (SupervisedOp I) (Answer S T V) → Prop
  | complete {output answer} : Settles id ⟨.completeExternalTool id output, answer⟩
  | confirm {answer} : Settles id ⟨.confirmExternalToolCancellation id, answer⟩

/-- A deadline, a forced stop, or a failure of the transport or of the supervisor. -/
inductive IsFailure : SupervisedEvent I S T V → Prop
  | begin {deadline source} : IsFailure (.said ⟨.beginInvocation deadline, .error source⟩)
  | start {worker source} : IsFailure (.said ⟨.start worker, .error source⟩)
  | broken {s} : Breaks s → IsFailure (.said s)
  | finish {i answer} : answer ≠ .ok .completed → IsFailure (.said ⟨.finishInvocation i, answer⟩)
  | terminate {answer} : IsFailure (.said ⟨.terminate, answer⟩)

/-- A completed or cancelled event of the operation, or its effect on the runtime. -/
inductive Exposes (id : ExternalToolId) : SupervisedEvent I S T V → Prop
  | completed {output} : Exposes id (.returned (.ok (.event (.worker (.completed id output)))))
  | cancelled {acknowledgement} :
      Exposes id (.returned (.ok (.event (.worker (.cancelled id acknowledgement)))))
  | settled {s} : Settles id s → Exposes id (.said s)

/-- A poll that reports the runtime's evaluation of a result. -/
inductive IsSettledPoll : SupervisedEvent I S T V → Prop
  | completed {evaluation} :
      IsSettledPoll (.returned (.ok (.poll (.worker (.completed evaluation)))))
  | cancelled {evaluation} :
      IsSettledPoll (.returned (.ok (.poll (.worker (.cancelled evaluation)))))

/-- Reports of a failure. -/
inductive ReportsFailure : SupervisedResult S T V → Prop
  | error {e} : ReportsFailure (.error e)
  | event {id cause termination} :
      ReportsFailure (.ok (.event (.indeterminate id cause termination)))
  | poll {id cause termination} : ReportsFailure (.ok (.poll (.indeterminate id cause termination)))

/-- Replies while the call is still open. -/
inductive ReportsOpen : SupervisedResult S T V → Prop
  | error {e} : ReportsOpen (.error e)
  | requested : ReportsOpen (.ok .requested)
  | pending : ReportsOpen (.ok (.event (.worker .pending)))
  | tooLate : ReportsOpen (.ok (.event (.worker .cancellationTooLate)))
  | unsupported : ReportsOpen (.ok (.event (.worker .cancellationUnsupported)))
  | pendingPoll : ReportsOpen (.ok (.poll (.worker .pending)))
  | tooLatePoll : ReportsOpen (.ok (.poll (.worker .cancellationTooLate)))
  | unsupportedPoll : ReportsOpen (.ok (.poll (.worker .cancellationUnsupported)))

/-- All that may follow a failure: the call in which it happened is finished and the worker
stopped, and this and the later calls report a failure. -/
inductive IsAftermath : SupervisedEvent I S T V → Prop
  | called {call} : IsAftermath (.called call)
  | finish {i answer} : IsAftermath (.said ⟨.finishInvocation i, answer⟩)
  | terminate {answer} : IsAftermath (.said ⟨.terminate, answer⟩)
  | returned {r} : ReportsFailure r → IsAftermath (.returned r)

/-- Neither arms nor finishes a call. -/
inductive IsIdleFor : SupervisedEvent I S T V → Prop
  | called {call} : IsIdleFor (.called call)
  | started {worker answer} : IsIdleFor (.said ⟨.start worker, answer⟩)
  | waits {s} : Waits s → IsIdleFor (.said s)
  | broken {s} : Breaks s → IsIdleFor (.said s)
  | returned {r} : IsIdleFor (.returned r)

/-- The watchdog is armed with `i`, and was neither finished nor armed again. -/
def Armed (i : I) (past : List (SupervisedEvent I S T V)) : Prop :=
  ∃ before deadline since, past = before ++ .said ⟨.beginInvocation deadline, .ok i⟩ :: since ∧
    ∀ e ∈ since, IsIdleFor e

/-- The operation was started with the watchdog armed with `i`, and is still armed. -/
def ArmedFor (id : ExternalToolId) (i : I) (past : List (SupervisedEvent I S T V)) : Prop :=
  ∃ before invocation requestId deadline worker since, invocation.id = id ∧
    past = before ++ .called (.start invocation requestId) ::
      .said ⟨.beginInvocation deadline, .ok i⟩ :: .said ⟨.start worker, .ok ()⟩ ::
      .returned (.ok .started) :: since ∧
    ∀ e ∈ since, IsIdleFor e

/-- The armed call of the operation was finished in time a moment ago. -/
def Disarmed (id : ExternalToolId) (past : List (SupervisedEvent I S T V)) : Prop :=
  ∃ before i, ArmedFor id i before ∧ past = before ++ [.said ⟨.finishInvocation i, .ok .completed⟩]

end

inductive Watchdog (I : Type)
  | idle
  | starting (id : ExternalToolId)
  | begun (id : ExternalToolId) (i : I)
  | sent (id : ExternalToolId) (i : I)
  | armed (id : ExternalToolId) (i : I)
  | disarmed (id : ExternalToolId)
  | settled (id : ExternalToolId)
  | failing (unfinished : Option I)
  | stopped

namespace Watchdog
variable {I S T V : Type}

inductive Step : Watchdog I → SupervisedEvent I S T V → Watchdog I → Prop
  | start {invocation requestId} :
      Step .idle (.called (.start invocation requestId)) (.starting invocation.id)
  | other {call} (h : ∀ invocation requestId, call ≠ .start invocation requestId) :
      Step .idle (.called call) .idle
  | refuse {e} : Step .idle (.returned (.error e)) .idle
  | refuseStart {id e} : Step (.starting id) (.returned (.error e)) .idle
  | begin {id deadline i} :
      Step (.starting id) (.said ⟨.beginInvocation deadline, .ok i⟩) (.begun id i)
  | failBegin {id deadline source} :
      Step (.starting id) (.said ⟨.beginInvocation deadline, .error source⟩) (.failing none)
  | send {id i worker} : Step (.begun id i) (.said ⟨.start worker, .ok ()⟩) (.sent id i)
  | failSend {id i worker source} :
      Step (.begun id i) (.said ⟨.start worker, .error source⟩) (.failing (some i))
  | started {id i} : Step (.sent id i) (.returned (.ok .started)) (.armed id i)
  | call {id i call} : Step (.armed id i) (.called call) (.armed id i)
  | wait {id i s} : Waits s → Step (.armed id i) (.said s) (.armed id i)
  | break {id i s} : Breaks s → Step (.armed id i) (.said s) (.failing (some i))
  | report {id i r} : ReportsOpen r → Step (.armed id i) (.returned r) (.armed id i)
  | finish {id i} :
      Step (.armed id i) (.said ⟨.finishInvocation i, .ok .completed⟩) (.disarmed id)
  | cut {id i answer} : answer ≠ .ok .completed →
      Step (.armed id i) (.said ⟨.finishInvocation i, answer⟩) (.failing none)
  | settle {id s} : Settles id s → Step (.disarmed id) (.said s) (.settled id)
  | expose {id r} : Exposes id (.returned r : SupervisedEvent I S T V) →
      Step (.disarmed id) (.returned r) .idle
  | reject {id e} : Step (.disarmed id) (.returned (.error e)) .idle
  | settledPoll {id r} : IsSettledPoll (.returned r : SupervisedEvent I S T V) →
      Step (.settled id) (.returned r) .idle
  | rejectSettled {id e} : Step (.settled id) (.returned (.error e)) .idle
  | finishFailed {i answer} :
      Step (.failing (some i)) (.said ⟨.finishInvocation i, answer⟩) (.failing none)
  | terminate {answer} : Step (.failing none) (.said ⟨.terminate, answer⟩) (.failing none)
  | reportFailure {r} : ReportsFailure r → Step (.failing none) (.returned r) .stopped
  | callStopped {call} : Step .stopped (.called call) .stopped
  | reportStopped : Step .stopped (.returned (.error .poisoned)) .stopped

/-- What a state tells about the past. -/
def Means : Watchdog I → List (SupervisedEvent I S T V) → Prop
  | .idle, _ | .failing none, _ | .stopped, _ => True
  | .starting id, past => ∃ before invocation requestId, invocation.id = id ∧
      past = before ++ [.called (.start invocation requestId)]
  | .begun id i, past => ∃ before invocation requestId deadline, invocation.id = id ∧
      past = before ++ [.called (.start invocation requestId),
        .said ⟨.beginInvocation deadline, .ok i⟩]
  | .sent id i, past => ∃ before invocation requestId deadline worker, invocation.id = id ∧
      past = before ++ [.called (.start invocation requestId),
        .said ⟨.beginInvocation deadline, .ok i⟩, .said ⟨.start worker, .ok ()⟩]
  | .armed id i, past => ArmedFor id i past
  | .disarmed id, past => Disarmed id past
  | .settled id, past => ∃ before s, Disarmed id before ∧ Settles id s ∧ past = before ++ [.said s]
  | .failing (some i), past => Armed i past

variable {g g' : Watchdog I} {e : SupervisedEvent I S T V} {past : List (SupervisedEvent I S T V)}
  {id : ExternalToolId} {i : I}

theorem ArmedFor.snoc (h : ArmedFor id i past) (he : IsIdleFor e) : ArmedFor id i (past ++ [e]) := by
  obtain ⟨before, invocation, requestId, deadline, worker, since, hid, rfl, hsince⟩ := h
  refine ⟨before, invocation, requestId, deadline, worker, since ++ [e], hid, by simp, ?_⟩
  simpa [or_imp, forall_and] using ⟨hsince, he⟩

theorem ArmedFor.armed (h : ArmedFor id i past) : Armed i past := by
  obtain ⟨before, invocation, requestId, deadline, worker, since, _, rfl, hsince⟩ := h
  refine ⟨before ++ [.called (.start invocation requestId)], deadline,
    .said ⟨.start worker, .ok ()⟩ :: .returned (.ok .started) :: since, by simp, ?_⟩
  simpa using ⟨.started, .returned, hsince⟩

theorem Armed.snoc (h : Armed i past) (he : IsIdleFor e) : Armed i (past ++ [e]) := by
  obtain ⟨before, deadline, since, rfl, hsince⟩ := h
  refine ⟨before, deadline, since ++ [e], by simp, ?_⟩
  simpa [or_imp, forall_and] using ⟨hsince, he⟩

theorem Step.means (h : Means g past) (hstep : Step g e g') : Means g' (past ++ [e]) := by
  cases hstep with
  | start => exact ⟨past, _, _, rfl, rfl⟩
  | other | refuse | refuseStart | failBegin | cut | expose | reject | settledPoll | rejectSettled
  | finishFailed | terminate | reportFailure | callStopped | reportStopped => trivial
  | begin =>
    obtain ⟨before, invocation, requestId, hid, rfl⟩ := h
    exact ⟨before, invocation, requestId, _, hid, List.append_assoc ..⟩
  | send =>
    obtain ⟨before, invocation, requestId, deadline, hid, rfl⟩ := h
    exact ⟨before, invocation, requestId, deadline, _, hid, List.append_assoc ..⟩
  | @failSend id i worker source =>
    obtain ⟨before, invocation, requestId, deadline, hid, rfl⟩ := h
    refine ⟨before ++ [.called (.start invocation requestId)], deadline,
      [.said ⟨.start worker, .error source⟩], ?_, List.forall_mem_singleton.mpr .started⟩
    simp only [List.append_assoc, List.cons_append, List.nil_append]
  | started =>
    obtain ⟨before, invocation, requestId, deadline, worker, hid, rfl⟩ := h
    exact ⟨before, invocation, requestId, deadline, worker, [], hid, by simp, by simp⟩
  | call => exact ArmedFor.snoc h .called
  | wait hs => exact ArmedFor.snoc h (.waits hs)
  | «break» hs => exact Armed.snoc (ArmedFor.armed h) (.broken hs)
  | report => exact ArmedFor.snoc h .returned
  | finish => exact ⟨past, _, h, rfl⟩
  | settle hs => exact ⟨past, _, h, hs, rfl⟩

/-- Results are let out only by a disarmed watchdog. -/
theorem Step.disarmed_of_exposes (h : Means g past) (hstep : Step g e g') (he : Exposes id e) :
    Disarmed id past := by
  cases he with
  | completed =>
    cases hstep with
    | report hr => cases hr
    | expose hr =>
      cases hr
      exact h
    | settledPoll hr => cases hr
    | reportFailure hr => cases hr
  | cancelled =>
    cases hstep with
    | report hr => cases hr
    | expose hr =>
      cases hr
      exact h
    | settledPoll hr => cases hr
    | reportFailure hr => cases hr
  | settled hs =>
    cases hs <;> cases hstep with
    | wait hs => cases hs
    | «break» hs => cases hs
    | settle hs =>
      cases hs
      exact h

theorem Step.disarmed_of_isSettledPoll (h : Means g past) (hstep : Step g e g')
    (he : IsSettledPoll e) :
    ∃ id before s, Disarmed id before ∧ Settles id s ∧ past = before ++ [.said s] := by
  cases he <;> cases hstep with
  | report hr => cases hr
  | expose hr => cases hr
  | settledPoll => exact ⟨_, h⟩
  | reportFailure hr => cases hr

/-- Only an armed call is finished. -/
theorem Step.armed_of_finish {answer : Except S (WorkerInvocationOutcome T)} (h : Means g past)
    (hstep : Step g (.said ⟨.finishInvocation i, answer⟩ : SupervisedEvent I S T V) g') :
    Armed i past := by
  cases hstep with
  | wait hs => cases hs
  | «break» hs => cases hs
  | finish => exact ArmedFor.armed h
  | cut => exact ArmedFor.armed h
  | settle hs => cases hs
  | finishFailed => exact h

/-- The watchdog saw a failure. -/
inductive Down : Watchdog I → Prop
  | failing {unfinished} : Down (.failing unfinished)
  | stopped : Down .stopped

theorem Step.down_of_isFailure (hstep : Step g e g') (he : IsFailure e) : Down g' := by
  cases he with
  | begin =>
    cases hstep with
    | failBegin => exact .failing
    | wait hs => cases hs
    | «break» hs => cases hs
    | settle hs => cases hs
  | start =>
    cases hstep with
    | failSend => exact .failing
    | wait hs => cases hs
    | «break» hs => cases hs
    | settle hs => cases hs
  | broken hs =>
    cases hs <;> cases hstep with
    | wait hs => cases hs
    | «break» => exact .failing
    | settle hs => cases hs
  | finish hne =>
    cases hstep with
    | wait hs => cases hs
    | «break» hs => cases hs
    | finish => exact absurd rfl hne
    | cut => exact .failing
    | settle hs => cases hs
    | finishFailed => exact .failing
  | terminate =>
    cases hstep with
    | wait hs => cases hs
    | «break» hs => cases hs
    | settle hs => cases hs
    | terminate => exact .failing

/-- After a failure nothing but its aftermath is seen. -/
theorem Step.down (hg : Down g) (hstep : Step g e g') : Down g' ∧ IsAftermath e := by
  cases hg with
  | failing =>
    cases hstep with
    | finishFailed => exact ⟨.failing, .finish⟩
    | terminate => exact ⟨.failing, .terminate⟩
    | reportFailure hr => exact ⟨.stopped, .returned hr⟩
  | stopped =>
    cases hstep with
    | callStopped => exact ⟨.stopped, .called⟩
    | reportStopped => exact ⟨.stopped, .returned .error⟩

end Watchdog

namespace SupervisedMultiplexedWorkerSession
variable {I S T V α : Type} {k k' : SupervisedMultiplexedWorkerSession I}
  {t : List (Said (SupervisedOp I) (Answer S T V))}
variable {active : SupervisedExternalToolInvocation I} {g : Watchdog I}

open Effectful Watchdog

/-- The state of the watchdog between two calls. -/
def watchdog (self : SupervisedMultiplexedWorkerSession I) : Watchdog I :=
  if self.poisoned then .stopped
  else match self.active with
    | none => .idle
    | some active => .armed active.binding.id active.supervision

/-- The active call has no result yet. -/
def IsOpen (self : SupervisedMultiplexedWorkerSession I) : Prop :=
  ∀ active, self.active = some active → active.binding.terminal = false

/-- The monitor reads what a call says and returns from the state `g`. -/
structure Keeps (g : Watchdog I) (t : List (Said (SupervisedOp I) (Answer S T V)))
    (r : SupervisedResult S T V) (k' : SupervisedMultiplexedWorkerSession I) : Prop where
  isOpen : k'.IsOpen
  accepts : Accepts Step g (t.map .said ++ [.returned r] : List (SupervisedEvent I S T V)) k'.watchdog

theorem watchdog_idle (hpois : k.poisoned = false) (hact : k.active = none) :
    k.watchdog = .idle := by
  simp [watchdog, hpois, hact]

theorem watchdog_armed (hpois : k.poisoned = false) (hact : k.active = some active) :
    k.watchdog = .armed active.binding.id active.supervision := by
  simp [watchdog, hpois, hact]

theorem isOpen_of_active_none (hact : k.active = none) : k.IsOpen := by
  intro active h
  rw [hact] at h
  cases h

theorem isOpen_of_active
    (hact : k.active = some active) (hopen : active.binding.terminal = false) : k.IsOpen := by
  intro active' h
  rw [hact] at h
  exact Option.some.inj h ▸ hopen

theorem Keeps.of_armed
    {r : SupervisedResult S T V} (hpois : k.poisoned = false) (hact : k.active = some active)
    (hopen : active.binding.terminal = false)
    (h : Accepts Step g (t.map .said ++ [.returned r] : List (SupervisedEvent I S T V))
      (.armed active.binding.id active.supervision)) : Keeps g t r k := by
  refine ⟨isOpen_of_active hact hopen, ?_⟩
  rwa [watchdog_armed hpois hact]

theorem Keeps.of_idle {r : SupervisedResult S T V} (hpois : k.poisoned = false)
    (hact : k.active = none)
    (h : Accepts Step g (t.map .said ++ [.returned r] : List (SupervisedEvent I S T V)) .idle) :
    Keeps g t r k := by
  refine ⟨isOpen_of_active_none hact, ?_⟩
  rwa [watchdog_idle hpois hact]

/-- The session is poisoned and the call reports it. -/
structure Stops (g : Watchdog I) (t : List (Said (SupervisedOp I) (Answer S T V)))
    (k' : SupervisedMultiplexedWorkerSession I) : Prop where
  active : k'.active = none
  poisoned : k'.poisoned = true
  accepts : Accepts Step g (t.map .said : List (SupervisedEvent I S T V)) (.failing none)

theorem Stops.keeps {r : SupervisedResult S T V} (h : Stops g t k')
    (hr : ReportsFailure r) : Keeps g t r k' := by
  refine ⟨isOpen_of_active_none h.active, ?_⟩
  rw [watchdog, if_pos h.poisoned]
  exact h.accepts.append (.cons (.reportFailure hr) .nil)

theorem Stops.after {g g' : Watchdog I} {s : List (Said (SupervisedOp I) (Answer S T V))}
    (h : Stops g' t k') (hs : Accepts Step g (s.map .said : List (SupervisedEvent I S T V)) g') :
    Stops g (s ++ t) k' := by
  refine ⟨h.active, h.poisoned, ?_⟩
  rw [List.map_append]
  exact hs.append h.accepts

theorem says_failTransport {id : ExternalToolId} {i : I} {source : MultiplexedWorkerError}
    {s : SupervisedMultiplexedWorkerSession I} {r : Except (SupervisedMultiplexedWorkerError S T) α}
    (h : (k.failTransport id i source : Call I S T V α).Says s t r k') :
    Stops (.failing (some i)) t k' ∧ ∃ e, r = .error e := by
  unfold failTransport at h
  rw [says_assign_bind, says_perform_bind] at h
  obtain ⟨finished, t, rfl, h⟩ := h
  -- However the call ended, at most a stop of the worker follows.
  rcases finished with source | ⟨⟩ | ⟨termination⟩ | ⟨termination⟩ | ⟨termination⟩
  all_goals simp only [says_perform_bind, says_fail] at h
  · obtain ⟨termination, t, rfl, rfl, rfl, rfl⟩ := h
    exact ⟨⟨rfl, rfl, .cons .finishFailed (.cons .terminate .nil)⟩, _, rfl⟩
  · obtain ⟨termination, t, rfl, rfl, rfl, rfl⟩ := h
    exact ⟨⟨rfl, rfl, .cons .finishFailed (.cons .terminate .nil)⟩, _, rfl⟩
  all_goals
    obtain ⟨rfl, rfl, rfl⟩ := h
    exact ⟨⟨rfl, rfl, .cons .finishFailed .nil⟩, _, rfl⟩

section
variable {f : SupervisedMultiplexedWorkerSession I → Call I S T V α}
  {r : Except (SupervisedMultiplexedWorkerError S T) α}

theorem requireAvailable_of_poisoned (hk : k.poisoned = true) :
    k.requireAvailable = (.error .poisoned : Except (SupervisedMultiplexedWorkerError S T) Unit) :=
  Except.rejectIf_error_iff.mpr ⟨hk, rfl⟩

theorem requireAvailable_of_available (hk : k.poisoned = false) :
    k.requireAvailable = (.ok () : Except (SupervisedMultiplexedWorkerError S T) Unit) :=
  Except.rejectIf_ok_iff.mpr (by simp [hk])

/-- A poisoned session refuses. -/
theorem says_refuse (hk : k.poisoned = true) (h : (Effectful.self >>= fun self =>
      Effectful.check self.requireAvailable >>= fun _ => f self : Call I S T V α).Says k t r k') :
    t = [] ∧ r = .error .poisoned ∧ k' = k := by
  simp only [says_self_bind, says_check_bind, requireAvailable_of_poisoned hk] at h
  simpa using h

/-- A call that needs an active call. -/
theorem says_active {f : SupervisedMultiplexedWorkerSession I → SupervisedExternalToolInvocation I →
      Call I S T V α} (hk : k.poisoned = false)
    (h : (Effectful.self >>= fun self => Effectful.check self.requireAvailable >>= fun _ =>
      Effectful.check (self.active.okOr .noActiveInvocation) >>= f self : Call I S T V α).Says
      k t r k') :
    (k.active = none ∧ t = [] ∧ r = .error .noActiveInvocation ∧ k' = k) ∨
      ∃ active, k.active = some active ∧ (f k active).Says k t r k' := by
  simp only [says_self_bind, says_check_bind, requireAvailable_of_available hk] at h
  cases hact : k.active with
  | none => simpa [hact, Option.okOr] using h
  | some active => simpa [hact, Option.okOr] using h

end

/-- Nothing can be done with a poisoned session. -/
theorem says_poisoned [JsonReader] {call : SupervisedCall} {r : SupervisedResult S T V}
    (hk : k.poisoned = true) (h : (serve call).Says k t r k') :
    t = [] ∧ r = .error .poisoned ∧ k' = k := by
  cases call <;> unfold serve at h <;> rw [says_bind_pure] at h <;> obtain ⟨r, h, rfl⟩ := h
  case poll =>
    unfold pollExternalTool at h
    rw [says_bind] at h
    rcases h with ⟨e, h, rfl⟩ | ⟨event, k₁, t₁, t₂, rfl, h, _⟩
    · obtain ⟨ht, he, hk'⟩ := says_refuse hk h
      cases he
      exact ⟨ht, rfl, hk'⟩
    · cases (says_refuse hk h).2.1
  all_goals
    obtain ⟨rfl, rfl, rfl⟩ := says_refuse hk h
    exact ⟨rfl, rfl, rfl⟩

section
variable [JsonReader] {invocation : ExternalToolInvocation} {requestId : String}

theorem prepare_spec {sessionId : String} {worker : ToolInvocation}
    {binding : ExternalToolWorkerBinding}
    (h : prepare sessionId invocation requestId = .ok (worker, binding)) :
    binding.id = invocation.id ∧ binding.terminal = false := by
  simp only [prepare, Except.bind_ok_iff] at h
  obtain ⟨payload, _, worker, _, h⟩ := h
  simp only [pure, Except.pure, Except.ok.injEq, Prod.mk.injEq] at h
  exact h.2 ▸ ⟨rfl, rfl⟩

theorem startExternalTool_keeps {r : Except (SupervisedMultiplexedWorkerError S T) Unit}
    (hpois : k.poisoned = false) (hact : k.active = none)
    (h : (startExternalTool invocation requestId : Call I S T V Unit).Says k t r k') :
    Keeps (.starting invocation.id) t (r.map fun _ => .started) k' := by
  have hrefused (e : SupervisedMultiplexedWorkerError S T) :
      Keeps (V := V) (.starting invocation.id) [] (.error e) k :=
    .of_idle hpois hact (.cons .refuseStart .nil)
  unfold startExternalTool at h
  simp only [says_self_bind, says_check_bind, requireAvailable_of_available hpois, reduceCtorEq,
    false_and, exists_false, false_or] at h
  obtain ⟨_, _, ⟨e, _, rfl, rfl, rfl⟩ | ⟨_, _, ⟨e, _, rfl, rfl, rfl⟩ |
    ⟨⟨worker, binding⟩, hprep, h⟩⟩⟩ := h
  · exact hrefused e
  · exact hrefused e
  obtain ⟨hid, hopen⟩ := prepare_spec (Except.mapError_ok_iff.mp hprep)
  simp only [says_perform_bind] at h
  obtain ⟨source | i, t, rfl, h⟩ := h
  · simp only [says_assign_bind, says_perform_bind, says_fail] at h
    obtain ⟨termination, t, rfl, rfl, rfl, rfl⟩ := h
    exact Stops.keeps ⟨hact, rfl, .cons .failBegin (.cons .terminate .nil)⟩ .error
  · simp only [says_perform_bind] at h
    obtain ⟨source | ⟨⟨⟩⟩, t, rfl, h⟩ := h
    · obtain ⟨hstops, e, rfl⟩ := says_failTransport h
      exact (hstops.after (s := [_, _]) (.cons .begin (.cons .failSend .nil))).keeps .error
    · obtain ⟨rfl, rfl, rfl⟩ := says_assign.mp h
      refine Keeps.of_armed hpois rfl hopen ?_
      rw [hid]
      exact .cons .begin (.cons .send (.cons .started .nil))

end

section
variable {active : SupervisedExternalToolInvocation I}

theorem requestExternalToolCancellation_keeps {request : ExternalToolCancellationRequest}
    {cancellationId : String} {r : Except (SupervisedMultiplexedWorkerError S T) Unit}
    (hpois : k.poisoned = false) (hopen : k.IsOpen)
    (h : (requestExternalToolCancellation request cancellationId : Call I S T V Unit).Says k t r k') :
    Keeps k.watchdog t (r.map fun _ => .requested) k' := by
  replace h := says_active hpois h
  rcases h with ⟨hact, rfl, rfl, rfl⟩ | ⟨active, hact, h⟩
  · rw [watchdog_idle hpois hact]
    exact .of_idle hpois hact (.cons .refuse .nil)
  have hterm := hopen _ hact
  rw [watchdog_armed hpois hact]
  rw [says_check_bind] at h
  rcases h with ⟨e, _, rfl, rfl, rfl⟩ | ⟨_, _, h⟩
  · exact .of_armed hpois hact hterm (.cons (.report .error) .nil)
  simp only [says_perform_bind] at h
  obtain ⟨source | ⟨⟨⟩⟩, t, rfl, h⟩ := h
  · obtain ⟨hstops, e, rfl⟩ := says_failTransport h
    exact (hstops.after (s := [_]) (.cons (.break .requestCancellation) .nil)).keeps .error
  · obtain ⟨rfl, rfl, rfl⟩ := says_assign.mp h
    refine Keeps.of_armed hpois rfl hterm ?_
    exact .cons (.wait .requestCancellation) (.cons (.report .requested) .nil)

end

/-- An event that leaves the call open. -/
inductive IsPendingEvent : ExternalToolWorkerEvent → Prop
  | pending : IsPendingEvent .pending
  | tooLate : IsPendingEvent .cancellationTooLate
  | unsupported : IsPendingEvent .cancellationUnsupported

/-- An event that ends the call of the operation. -/
inductive IsFinalEvent (id : ExternalToolId) : ExternalToolWorkerEvent → Prop
  | completed {output} : IsFinalEvent id (.completed id output)
  | cancelled {acknowledgement} : IsFinalEvent id (.cancelled id acknowledgement)

/-- How a poll of the armed call ends, and where it leaves the watchdog. -/
inductive Polled (active : SupervisedExternalToolInvocation I)
    (t : List (Said (SupervisedOp I) (Answer S T V)))
    (k' : SupervisedMultiplexedWorkerSession I) :
    Except (SupervisedMultiplexedWorkerError S T) (SupervisedExternalToolWorkerEvent T) → Prop
  | pending {event} {active' : SupervisedExternalToolInvocation I} : IsPendingEvent event →
      k'.poisoned = false → k'.active = some active' → active'.binding.terminal = false →
      active'.binding.id = active.binding.id → active'.supervision = active.supervision →
      Accepts Step (.armed active.binding.id active.supervision)
        (t.map .said : List (SupervisedEvent I S T V))
        (.armed active.binding.id active.supervision) → Polled active t k' (.ok (.worker event))
  | final {event} : IsFinalEvent active.binding.id event →
      k'.poisoned = false → k'.active = none →
      Accepts Step (.armed active.binding.id active.supervision)
        (t.map .said : List (SupervisedEvent I S T V)) (.disarmed active.binding.id) →
      Polled active t k' (.ok (.worker event))
  | invalid {e} : k'.poisoned = false → k'.active = none →
      Accepts Step (.armed active.binding.id active.supervision)
        (t.map .said : List (SupervisedEvent I S T V)) (.disarmed active.binding.id) →
      Polled active t k' (.error e)
  | stopped {e} : Stops (.armed active.binding.id active.supervision) t k' → Polled active t k' (.error e)
  | cut {id cause termination} : Stops (.armed active.binding.id active.supervision) t k' →
      Polled active t k' (.ok (.indeterminate id cause termination))

section
variable {active : SupervisedExternalToolInvocation I} {binding : ExternalToolWorkerBinding}
variable {event : ExternalToolWorkerEvent}

theorem Polled.after {s : List (Said (SupervisedOp I) (Answer S T V))}
    {r : Except (SupervisedMultiplexedWorkerError S T) (SupervisedExternalToolWorkerEvent T)}
    (h : Polled active t k' r) (hs : Accepts Step (.armed active.binding.id active.supervision)
      (s.map .said : List (SupervisedEvent I S T V))
      (.armed active.binding.id active.supervision)) : Polled active (s ++ t) k' r := by
  cases h with
  | pending hevent hpois hact hterm hid hsup h =>
    refine .pending hevent hpois hact hterm hid hsup ?_
    rw [List.map_append]
    exact hs.append h
  | final hevent hpois hact h =>
    refine .final hevent hpois hact ?_
    rw [List.map_append]
    exact hs.append h
  | invalid hpois hact h =>
    refine .invalid hpois hact ?_
    rw [List.map_append]
    exact hs.append h
  | stopped h => exact .stopped (h.after hs)
  | cut h => exact .cut (h.after hs)

/-- What the worker said while the call was armed. -/
theorem says_pollObservation {r : Except (SupervisedMultiplexedWorkerError S T)
      (Except MultiplexedWorkerError ExternalToolWorkerObservation × ExternalToolWorkerBinding)}
    (id : ExternalToolId) (i : I) (hopen : binding.terminal = false)
    (h : (pollObservation binding : Call I S T V _).Says k t r k') :
    k' = k ∧ ∃ observation binding', r = .ok (observation, binding') ∧ binding'.id = binding.id ∧
      binding'.terminal = false ∧
      Accepts Step (.armed id i) (t.map .said : List (SupervisedEvent I S T V))
        (match observation with
          | .error _ => .failing (some i)
          | .ok _ => .armed id i) := by
  unfold pollObservation at h
  rw [if_neg (by simp [hopen])] at h
  simp only [says_perform_bind] at h
  obtain ⟨error | _ | outcome, t, rfl, h⟩ := h
  · obtain ⟨rfl, rfl, rfl⟩ := says_pure.mp h
    exact ⟨rfl, _, _, rfl, rfl, hopen, .cons (.break .tryWait) .nil⟩
  · cases hcancel : binding.cancellation with
    | none =>
      rw [hcancel] at h
      obtain ⟨rfl, rfl, rfl⟩ := says_pure.mp h
      exact ⟨rfl, _, _, rfl, rfl, hopen, .cons (.wait .tryWait) .nil⟩
    | some cancellation =>
      rw [hcancel] at h
      simp only [says_perform_bind] at h
      obtain ⟨error | _ | result, t, rfl, h⟩ := h <;> obtain ⟨rfl, rfl, rfl⟩ := says_pure.mp h
      · exact ⟨rfl, _, _, rfl, rfl, hopen,
          .cons (.wait .tryWait) (.cons (.break .tryWaitCancellation) .nil)⟩
      · exact ⟨rfl, _, _, rfl, rfl, hopen,
          .cons (.wait .tryWait) (.cons (.wait .tryWaitCancellation) .nil)⟩
      · exact ⟨rfl, _, _, rfl, rfl, hopen,
          .cons (.wait .tryWait) (.cons (.wait .tryWaitCancellation) .nil)⟩
  · obtain ⟨rfl, rfl, rfl⟩ := says_pure.mp h
    exact ⟨rfl, _, _, rfl, rfl, hopen, .cons (.wait .tryWait) .nil⟩

theorem isFinalEvent_of_ok {outcome : MultiplexedWorkerInvocationOutcome}
    (h : binding.eventFromObservation (.terminal outcome) = .ok event) :
    IsFinalEvent binding.id event := by
  cases outcome with
  | completed result =>
    simp only [eventFromObservation, Except.ok.injEq] at h
    exact h ▸ .completed
  | cancelled result =>
    simp only [eventFromObservation, Except.bind_ok_iff] at h
    obtain ⟨_, _, h⟩ := h
    exact Except.ok.inj h ▸ .cancelled

/-- The watchdog is disarmed before the result is used. -/
theorem says_finishObservation {outcome : MultiplexedWorkerInvocationOutcome}
    {s : SupervisedMultiplexedWorkerSession I}
    {r : Except (SupervisedMultiplexedWorkerError S T) (SupervisedExternalToolWorkerEvent T)}
    (hpois : k.poisoned = false) (hid : binding.id = active.binding.id)
    (h : (k.finishObservation binding active.supervision outcome : Call I S T V _).Says s t r k') :
    Polled active t k' r := by
  unfold finishObservation at h
  rw [says_assign_bind, says_perform_bind] at h
  obtain ⟨finished, t, rfl, h⟩ := h
  rcases finished with source | ⟨⟩ | ⟨termination⟩ | ⟨termination⟩ | ⟨termination⟩
  all_goals simp only [says_assign_bind, says_perform_bind, says_fail, says_pure] at h
  · obtain ⟨termination, t, rfl, rfl, rfl, rfl⟩ := h
    exact .stopped ⟨rfl, rfl, .cons (.cut (by simp)) (.cons .terminate .nil)⟩
  · rcases says_check_bind.mp h with ⟨e, _, rfl, rfl, rfl⟩ | ⟨event, hevent, h⟩
    · exact .invalid hpois rfl (.cons .finish .nil)
    · obtain ⟨rfl, rfl, rfl⟩ := says_pure.mp h
      have hfinal := isFinalEvent_of_ok (Except.mapError_ok_iff.mp hevent)
      exact .final (hid ▸ hfinal) hpois rfl (.cons .finish .nil)
  all_goals
    obtain ⟨rfl, rfl, rfl⟩ := h
    exact .cut ⟨rfl, rfl, .cons (.cut (by simp)) .nil⟩

theorem says_pollExternalToolEvent
    {r : Except (SupervisedMultiplexedWorkerError S T) (SupervisedExternalToolWorkerEvent T)}
    (hpois : k.poisoned = false) (hopen : k.IsOpen)
    (h : (pollExternalToolEvent : Call I S T V _).Says k t r k') :
    (k.active = none ∧ t = [] ∧ (∃ e, r = .error e) ∧ k' = k) ∨
      ∃ active, k.active = some active ∧ Polled active t k' r := by
  replace h := says_active hpois h
  rcases h with ⟨hact, rfl, rfl, rfl⟩ | ⟨active, hact, h⟩
  · exact .inl ⟨hact, rfl, ⟨_, rfl⟩, rfl⟩
  refine .inr ⟨active, hact, ?_⟩
  rw [says_bind] at h
  rcases h with ⟨e, h, rfl⟩ | ⟨⟨observation, binding⟩, k₁, t₁, t₂, rfl, hobs, h⟩
  · obtain ⟨_, _, _, h, _⟩ := says_pollObservation active.binding.id active.supervision
      (hopen _ hact) h
    cases h
  obtain ⟨rfl, _, _, hok, hid, hterm, hacc⟩ := says_pollObservation
    active.binding.id active.supervision (hopen _ hact) hobs
  cases hok
  -- A final observation disarms the watchdog; any other leaves the call armed.
  rcases observation with source | _ | _ | _ | outcome
  · obtain ⟨hstops, e, rfl⟩ := says_failTransport h
    exact .stopped (hstops.after hacc)
  case ok.terminal => exact (says_finishObservation hpois hid h).after hacc
  all_goals
    simp only [says_assign_bind, eventFromObservation, says_check_bind] at h
    obtain ⟨_, h, _⟩ | ⟨event, hevent, h⟩ := h
    · cases h
    obtain ⟨rfl, rfl, rfl⟩ := says_pure.mp h
    cases hevent
    rw [List.append_nil]
  · exact .pending .pending hpois rfl hterm hid rfl hacc
  · exact .pending .tooLate hpois rfl hterm hid rfl hacc
  · exact .pending .unsupported hpois rfl hterm hid rfl hacc

theorem reportsOpen_event (h : IsPendingEvent event) :
    ReportsOpen (.ok (.event (.worker event)) : SupervisedResult S T V) := by
  cases h with
  | pending => exact .pending
  | tooLate => exact .tooLate
  | unsupported => exact .unsupported

theorem pollEvent_keeps
    {r : Except (SupervisedMultiplexedWorkerError S T) (SupervisedExternalToolWorkerEvent T)}
    (hpois : k.poisoned = false) (hopen : k.IsOpen)
    (h : (pollExternalToolEvent : Call I S T V _).Says k t r k') :
    Keeps k.watchdog t (r.map .event) k' := by
  replace h := says_pollExternalToolEvent hpois hopen h
  rcases h with ⟨hact, rfl, ⟨e, rfl⟩, rfl⟩ | ⟨active, hact, h⟩
  · rw [watchdog_idle hpois hact]
    exact .of_idle hpois hact (.cons .refuse .nil)
  rw [watchdog_armed hpois hact]
  cases h with
  | pending hevent hpois hact hterm hid hsup h =>
    refine .of_armed hpois hact hterm ?_
    rw [hid, hsup]
    exact h.append (.cons (.report (reportsOpen_event hevent)) .nil)
  | final hevent hpois hact h =>
    refine .of_idle hpois hact (h.append (.cons (.expose ?_) .nil))
    cases hevent with
    | completed => exact .completed
    | cancelled => exact .cancelled
  | invalid hpois hact h => exact .of_idle hpois hact (h.append (.cons .reject .nil))
  | stopped h => exact h.keeps .error
  | cut h => exact h.keeps .event

/-- The runtime is told of a result only when the watchdog is disarmed. -/
theorem says_applyToRuntime {id : ExternalToolId}
    {r : Except (SupervisedMultiplexedWorkerError S T) (ExternalToolWorkerPoll V)}
    (hpois : k.poisoned = false) (hact : k.active = none) (hevent : IsFinalEvent id event)
    (h : (applyToRuntime event : Call I S T V _).Says k t r k') :
    Keeps (.disarmed id) t (r.map fun poll => .poll (.worker poll)) k' := by
  cases hevent with
  | completed =>
    simp only [applyToRuntime, says_perform_bind, says_check_bind] at h
    obtain ⟨error | evaluation, t, rfl, ⟨e, _, rfl, rfl, rfl⟩ | ⟨_, hok, h⟩⟩ := h
    · exact .of_idle hpois hact (.cons (.settle .complete) (.cons .rejectSettled .nil))
    · cases hok
    · exact .of_idle hpois hact (.cons (.settle .complete) (.cons .rejectSettled .nil))
    · obtain ⟨rfl, rfl, rfl⟩ := says_pure.mp h
      exact .of_idle hpois hact
        (.cons (.settle .complete) (.cons (.settledPoll .completed) .nil))
  | cancelled =>
    simp only [applyToRuntime, says_perform_bind, says_check_bind] at h
    obtain ⟨e, _, rfl, rfl, rfl⟩ | ⟨_, _, answer, t, rfl, ⟨e, _, rfl, rfl, rfl⟩ | ⟨_, _, h⟩⟩ := h
    · exact .of_idle hpois hact (.cons .reject .nil)
    · exact .of_idle hpois hact (.cons (.settle .confirm) (.cons .rejectSettled .nil))
    · obtain ⟨rfl, rfl, rfl⟩ := says_pure.mp h
      exact .of_idle hpois hact
        (.cons (.settle .confirm) (.cons (.settledPoll .cancelled) .nil))

theorem poll_keeps
    {r : Except (SupervisedMultiplexedWorkerError S T) (SupervisedExternalToolWorkerPoll T V)}
    (hpois : k.poisoned = false) (hopen : k.IsOpen)
    (h : (pollExternalTool : Call I S T V _).Says k t r k') :
    Keeps k.watchdog t (r.map .poll) k' := by
  unfold pollExternalTool at h
  rw [says_bind] at h
  rcases h with ⟨e, h, rfl⟩ | ⟨event, k₁, t₁, t₂, rfl, hpolled, h⟩
  · replace h := says_pollExternalToolEvent hpois hopen h
    rcases h with ⟨hact, rfl, _, rfl⟩ | ⟨active, hact, h⟩
    · rw [watchdog_idle hpois hact]
      exact .of_idle hpois hact (.cons .refuse .nil)
    rw [watchdog_armed hpois hact]
    cases h with
    | invalid hpois hact h => exact .of_idle hpois hact (h.append (.cons .reject .nil))
    | stopped h => exact h.keeps .error
  · replace hpolled := says_pollExternalToolEvent hpois hopen hpolled
    rcases hpolled with ⟨_, _, ⟨_, he⟩, _⟩ | ⟨active, hact, hpolled⟩
    · cases he
    rw [watchdog_armed hpois hact]
    cases hpolled with
    | pending hevent hpois hact hterm hid hsup hacc =>
      simp only [says_bind_pure] at h
      obtain ⟨r, h, rfl⟩ := h
      cases hevent <;> obtain ⟨rfl, rfl, rfl⟩ := says_pure.mp h <;> rw [List.append_nil]
        <;> refine .of_armed hpois hact hterm ?_ <;> rw [hid, hsup]
      · exact hacc.append (.cons (.report .pendingPoll) .nil)
      · exact hacc.append (.cons (.report .tooLatePoll) .nil)
      · exact hacc.append (.cons (.report .unsupportedPoll) .nil)
    | final hevent hpois hact hacc =>
      simp only [says_bind_pure] at h
      obtain ⟨r, h, rfl⟩ := h
      obtain ⟨hopen', hset⟩ := says_applyToRuntime hpois hact hevent h
      refine ⟨hopen', ?_⟩
      rw [List.map_append, List.append_assoc]
      cases r <;> exact hacc.append hset
    | cut hstops =>
      obtain ⟨rfl, rfl, rfl⟩ := says_pure.mp h
      rw [List.append_nil]
      exact hstops.keeps .poll

end

theorem poisoned_of_down (h : Down k.watchdog) : k.poisoned = true := by
  by_contra hpois
  rw [watchdog, if_neg hpois] at h
  cases hact : k.active with
  | none =>
    rw [hact] at h
    cases h
  | some active =>
    rw [hact] at h
    cases h

section
variable [JsonReader] {call : SupervisedCall} {r : SupervisedResult S T V}

/-- A session with an active call starts no other. -/
theorem says_busy {invocation : ExternalToolInvocation} {requestId : String}
    {r : Except (SupervisedMultiplexedWorkerError S T) Unit} (hpois : k.poisoned = false)
    (hact : k.active.isSome = true)
    (h : (startExternalTool invocation requestId : Call I S T V Unit).Says k t r k') :
    t = [] ∧ r = .error .busy ∧ k' = k := by
  unfold startExternalTool at h
  have hbusy : (rejectIf (k.active.isSome = true) .busy :
      Except (SupervisedMultiplexedWorkerError S T) Unit) = .error .busy :=
    Except.rejectIf_error_iff.mpr ⟨hact, rfl⟩
  simpa [says_self_bind, says_check_bind, requireAvailable_of_available hpois, hbusy] using h

/-- The monitor reads every call. -/
theorem serve_accepts (hopen : k.IsOpen) (h : (serve call).Says k t r k') :
    k'.IsOpen ∧ Accepts Step k.watchdog (Exchange.events ⟨call, t, r⟩) k'.watchdog := by
  by_cases hpois : k.poisoned = true
  · obtain ⟨rfl, rfl, rfl⟩ := says_poisoned hpois h
    refine ⟨hopen, ?_⟩
    rw [watchdog, if_pos hpois]
    exact .cons .callStopped (.cons .reportStopped .nil)
  replace hpois : k.poisoned = false := by simpa using hpois
  -- A call is read in the state the watchdog is in; only a start changes it at once.
  have hcalled (hcall : ∀ invocation requestId, call ≠ .start invocation requestId) :
      Step k.watchdog (.called call : SupervisedEvent I S T V) k.watchdog := by
    cases hact : k.active with
    | none =>
      rw [watchdog_idle hpois hact]
      exact .other hcall
    | some active =>
      rw [watchdog_armed hpois hact]
      exact .call
  cases call <;> unfold serve at h <;> rw [says_bind_pure] at h <;> obtain ⟨r, h, rfl⟩ := h
  case start invocation requestId =>
    cases hact : k.active with
    | none =>
      obtain ⟨hopen', hacc⟩ := startExternalTool_keeps hpois hact h
      rw [watchdog_idle hpois hact]
      exact ⟨hopen', .cons .start hacc⟩
    | some active =>
      obtain ⟨rfl, rfl, rfl⟩ := says_busy hpois (by rw [hact]; rfl) h
      rw [watchdog_armed hpois hact]
      exact ⟨hopen, .cons .call (.cons (.report .error) .nil)⟩
  case requestCancellation =>
    obtain ⟨hopen', hacc⟩ := requestExternalToolCancellation_keeps hpois hopen h
    exact ⟨hopen', .cons (hcalled nofun) hacc⟩
  case pollEvent =>
    obtain ⟨hopen', hacc⟩ := pollEvent_keeps hpois hopen h
    exact ⟨hopen', .cons (hcalled nofun) hacc⟩
  case poll =>
    obtain ⟨hopen', hacc⟩ := poll_keeps hpois hopen h
    exact ⟨hopen', .cons (hcalled nofun) hacc⟩

variable {sessionId : String} {deadline : WorkerInvocationDeadline}
  {h : List (SupervisedExchange I S T V)}

/-- The monitor reads every conversation. -/
theorem conversation_accepts (hc : Conversation serve (new sessionId deadline) h k) :
    Accepts Step .idle (Exchange.trace h) k.watchdog := by
  refine (hc.invariant (I := fun h k => k.IsOpen ∧
    Accepts Step .idle (Exchange.trace h) k.watchdog) ⟨isOpen_of_active_none rfl, .nil⟩ ?_).2
  rintro h k call t r k' ⟨hopen, hacc⟩ hsays
  obtain ⟨hopen', hcall⟩ := serve_accepts hopen hsays
  exact ⟨hopen', hacc.append hcall⟩

/-- Nothing is said in a conversation with a poisoned session. -/
theorem poisoned_conversation {k₀ : SupervisedMultiplexedWorkerSession I} (hk : k₀.poisoned = true)
    (hc : Conversation serve k₀ h k) :
    k = k₀ ∧ ∀ x ∈ h, x.said = [] ∧ x.result = .error .poisoned := by
  refine hc.invariant (I := fun h k => k = k₀ ∧ ∀ x ∈ h, x.said = [] ∧ x.result = .error .poisoned)
    ⟨rfl, by simp⟩ ?_
  rintro h k call t r k' ⟨rfl, hsaid⟩ hsays
  obtain ⟨rfl, rfl, rfl⟩ := says_poisoned hk hsays
  exact ⟨rfl, List.forall_mem_cons.mpr ⟨⟨rfl, rfl⟩, hsaid⟩⟩

/-- Whatever the transport and the supervisor do, a result of an operation is exposed, and
the runtime told, only after its armed call was finished in time; an armed call is
finished at most once; and after a failure the session is poisoned for good, and nothing
follows but the end of the failed call. -/
theorem watchdog_race (hc : Conversation serve (new sessionId deadline) h k) :
    (∀ earlier e later, Exchange.trace h = earlier ++ e :: later →
      (∀ id, Exposes id e → Disarmed id earlier) ∧
      (IsSettledPoll e →
        ∃ id before s, Disarmed id before ∧ Settles id s ∧ earlier = before ++ [.said s]) ∧
      (∀ i answer, e = .said ⟨.finishInvocation i, answer⟩ → Armed i earlier) ∧
      (IsFailure e → k.poisoned = true ∧ ∀ x ∈ later, IsAftermath x)) ∧
    (k.poisoned = true → ∀ (h' : List (SupervisedExchange I S T V)) k', Conversation serve k h' k' →
      k' = k ∧ ∀ x ∈ h', x.said = [] ∧ x.result = .error .poisoned) := by
  refine ⟨?_, fun hk h' k' hc' => poisoned_conversation hk hc'⟩
  intro earlier e later htrace
  have hacc := conversation_accepts hc
  rw [htrace] at hacc
  obtain ⟨g, hearlier, _ | ⟨hstep, hlater⟩⟩ := hacc.split
  have hmeans : Means g ([] ++ earlier) :=
    hearlier.means (M := Means) trivial fun _ _ _ _ => Step.means
  refine ⟨fun id he => hstep.disarmed_of_exposes hmeans he,
    hstep.disarmed_of_isSettledPoll hmeans, ?_, ?_⟩
  · rintro i answer rfl
    exact hstep.armed_of_finish hmeans
  · intro he
    obtain ⟨hdown, haftermath⟩ := hlater.forall_mem (hstep.down_of_isFailure he) fun _ _ _ => Step.down
    exact ⟨poisoned_of_down hdown, haftermath⟩

end

/-- A call of the tool `echo` that is completed in time. -/
def echoInvocation : ExternalToolInvocation where
  id := ⟨1⟩
  name := "echo"
  input := "hi"
  callIndex := 0
  attempt := 1
  maxAttempts := 1
  idempotencyKey := "key"
  stream := none
  format := .text
  maxOutputBytes := 8
  remainingDeadlineMillis := none

def echoWorker : ToolInvocation where
  protocolVersion := protocolVersion
  sessionId := "session"
  requestId := "request"
  tool := "echo"
  payload := .text "hi"

def echoResult : ToolResult where
  protocolVersion := protocolVersion
  sessionId := "session"
  requestId := "request"
  payload := .text "hi"

def echoDeadline : WorkerInvocationDeadline := ⟨1, by decide⟩

def echoConversation : List (SupervisedExchange Unit Unit Unit Unit) :=
  [⟨.pollEvent, [⟨.tryWait ⟨"request", "echo"⟩, .ok (some (.completed echoResult))⟩,
      ⟨.finishInvocation (), .ok .completed⟩], .ok (.event (.worker (.completed ⟨1⟩ "hi")))⟩,
    ⟨.start echoInvocation "request", [⟨.beginInvocation echoDeadline, .ok ()⟩,
      ⟨.start echoWorker, .ok ()⟩], .ok .started⟩]

theorem watchdog_race_of_echo : ∃ (_ : JsonReader) (k : SupervisedMultiplexedWorkerSession Unit),
    Conversation serve (new "session" echoDeadline) echoConversation k ∧ k.poisoned = false ∧
      Disarmed ⟨1⟩ (Exchange.trace echoConversation).dropLast := by
  let reader : JsonReader := ⟨fun _ => none⟩
  have hc : Conversation serve (new "session" echoDeadline) echoConversation
      (new "session" echoDeadline) := by
    refine .next (k := ⟨"session", echoDeadline, some ⟨⟨⟨1⟩, "echo", 0, 1, "key",
      ⟨"request", "echo"⟩, none, false, false⟩, ()⟩, false⟩) (.next .start ?_) ?_
    · exact .perform _ (.perform _ .done)
    · exact .perform _ (.perform _ .done)
  exact ⟨reader, _, hc, rfl, ((watchdog_race hc).1 _ _ [] rfl).1 _ .completed⟩

end SupervisedMultiplexedWorkerSession

end Octoscript
