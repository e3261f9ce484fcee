import Octoscript.Capabilities.Multiplexer
import Octoscript.Capabilities.WatchdogRace

namespace Octoscript

open Coordinator SupervisedMultiplexedWorkerSession SupervisedOp

/-- The text with which the runtime's operation is completed. -/
def ToolResult.output (result : ToolResult) : String :=
  match result.payload with
  | .text output => output
  | .json output => Json.text output

section
variable {I S T V : Type}

/-- What the coordinator answers to a session, and any answer of the others. The watchdog
does not fire: a call is always finished in time. -/
inductive Answers (c : Coordinator) :
    Said (SupervisedOp I) (Answer S T V) → Coordinator → Prop
  | beginInvocation {deadline answer} : Answers c ⟨.beginInvocation deadline, answer⟩ c
  | finishInvocation {i} : Answers c ⟨.finishInvocation i, .ok .completed⟩ c
  | terminate {answer} : Answers c ⟨.terminate, answer⟩ c
  | start {invocation answer c'} (written : Except MultiplexedWorkerError Unit) :
      c.start invocation written = (answer, c') → Answers c ⟨.start invocation, answer⟩ c'
  | requestCancellation {pending cancellationId answer c'}
      (written : Except MultiplexedWorkerError Unit) :
      c.cancel cancellationId pending.requestId pending.tool written = (answer, c') →
      Answers c ⟨.requestCancellation pending cancellationId, answer⟩ c'
  | tryWait {pending answer c'} : c.tryWait pending.requestId = (answer, c') →
      Answers c ⟨.tryWait pending, answer⟩ c'
  | tryWaitCancellation {cancellation answer c'} :
      c.tryWaitCancellation cancellation.cancellationId = (answer, c') →
      Answers c ⟨.tryWaitCancellation cancellation, answer⟩ c'
  | completeExternalTool {id output answer} : Answers c ⟨.completeExternalTool id output, answer⟩ c
  | confirmExternalToolCancellation {id answer} :
      Answers c ⟨.confirmExternalToolCancellation id, answer⟩ c

/-- The coordinator answers one step of a call after the other, and takes frames in between. -/
inductive Serves :
    Coordinator → List (Said (SupervisedOp I) (Answer S T V)) → Coordinator → Prop
  | done {c} : Serves c [] c
  | frame {c t c'} (frame : Except MultiplexedWorkerError WorkerMessage) :
      Serves (c.takeFrame frame) t c' → Serves c t c'
  | answer {c s c₁ t c'} : Answers c s c₁ → Serves c₁ t c' → Serves c (s :: t) c'

variable {c c' : Coordinator} {s : Said (SupervisedOp I) (Answer S T V)}
  {t : List (Said (SupervisedOp I) (Answer S T V))}

theorem Answers.waiting (h : Answers c s c') (hc : c.Waiting) : c'.Waiting := by
  cases h with
  | start _ h => exact waiting_start h hc
  | requestCancellation _ h => exact (moves_cancel h).waiting hc
  | tryWait h => exact waiting_tryWait h hc
  | tryWaitCancellation h =>
    cases h
    exact hc
  | _ => exact hc

theorem Serves.waiting (h : Serves c t c') (hc : c.Waiting) : c'.Waiting := by
  induction h with
  | done => exact hc
  | frame frame _ ih => exact ih ((moves_takeFrame frame).waiting hc)
  | answer hans _ ih => exact ih (hans.waiting hc)

/-- Before a step is answered, only frames are taken. -/
theorem Serves.cons_inv (h : Serves c (s :: t) c') :
    ∃ c₁ c₂, Serves c ([] : List (Said (SupervisedOp I) (Answer S T V))) c₁ ∧
      Answers c₁ s c₂ ∧ Serves c₂ t c' := by
  generalize hl : s :: t = l at h
  induction h with
  | done => cases hl
  | frame frame _ ih =>
    obtain ⟨c₁, c₂, hframes, hans, hrest⟩ := ih hl
    exact ⟨c₁, c₂, .frame frame hframes, hans, hrest⟩
  | answer hans hrest =>
    cases hl
    exact ⟨_, _, .done, hans, hrest⟩

/-- Frames leave what was delivered in its mailbox. -/
theorem Serves.delivered {requestId : String} {result : ToolResult}
    (h : Serves c ([] : List (Said (SupervisedOp I) (Answer S T V))) c')
    (hc : c.Waiting) (hdel : c.Delivered requestId result) :
    c'.Delivered requestId result := by
  generalize hl : ([] : List (Said (SupervisedOp I) (Answer S T V))) = l at h
  induction h with
  | done => exact hdel
  | frame frame _ ih =>
    exact ih ((moves_takeFrame frame).waiting hc) (hdel.takeFrame hc frame) hl
  | answer => cases hl

end

namespace SupervisedMultiplexedWorkerSession
variable {I S T V α : Type} {k k' : SupervisedMultiplexedWorkerSession I}
  {t : List (Said (SupervisedOp I) (Answer S T V))}
variable {request : ExternalToolCancellationRequest} {cancellationId : String}

open Effectful

/-- A poisoned session has no active call. -/
def Discards (self : SupervisedMultiplexedWorkerSession I) : Prop :=
  self.poisoned = true → self.active = none

def discarding : Guarantee (SupervisedOp I) (Answer S T V)
    (SupervisedMultiplexedWorkerSession I) where
  rel k _ k' := k.Discards → k'.Discards
  refl _ := id
  trans h h' := h' ∘ h

theorem obeys_failTransport {self : SupervisedMultiplexedWorkerSession I} {id : ExternalToolId}
    {i : I} {source : MultiplexedWorkerError} :
    Obeys discarding (self.failTransport id i source : Call I S T V α) k := by
  unfold failTransport
  apply obeys_assign_bind (fun _ _ => rfl)
  apply obeys_perform_bind (fun _ h => h)
  rintro (source | ⟨⟩ | ⟨termination⟩ | ⟨termination⟩ | ⟨termination⟩)
  · exact obeys_perform_bind (fun _ h => h) fun _ => obeys_fail _
  · exact obeys_perform_bind (fun _ h => h) fun _ => obeys_fail _
  · exact obeys_fail _
  · exact obeys_fail _
  · exact obeys_fail _

theorem poisoned_eq_false_of_available
    (h : k.requireAvailable = (.ok () : Except (SupervisedMultiplexedWorkerError S T) Unit)) :
    k.poisoned = false := by
  simpa [requireAvailable] using h

theorem obeys_startExternalTool [JsonReader] {invocation : ExternalToolInvocation}
    {requestId : String} :
    Obeys discarding (startExternalTool invocation requestId : Call I S T V Unit) k := by
  unfold startExternalTool
  apply obeys_self_bind
  apply obeys_check_bind
  intro _ havailable
  have hpois := poisoned_eq_false_of_available havailable
  apply obeys_check_bind
  intro _ hidle
  have hact : k.active = none := by simpa using hidle
  apply obeys_check_bind
  rintro ⟨worker, binding⟩ _
  apply obeys_perform_bind (fun _ h => h)
  rintro (source | supervision)
  · apply obeys_assign_bind (fun _ _ => hact)
    exact obeys_perform_bind (fun _ h => h) fun _ => obeys_fail _
  · apply obeys_perform_bind (fun _ h => h)
    rintro (source | ⟨⟨⟩⟩)
    · exact obeys_failTransport
    · refine obeys_assign fun _ h => ?_
      rw [hpois] at h
      cases h

theorem obeys_requestExternalToolCancellation :
    Obeys discarding (requestExternalToolCancellation request cancellationId : Call I S T V Unit)
      k := by
  unfold requestExternalToolCancellation
  apply obeys_self_bind
  apply obeys_check_bind
  intro _ havailable
  have hpois := poisoned_eq_false_of_available havailable
  apply obeys_check_bind
  intro active _
  apply obeys_check_bind
  intro _ _
  apply obeys_perform_bind (fun _ h => h)
  rintro (source | ⟨⟨⟩⟩)
  · exact obeys_failTransport
  · refine obeys_assign fun _ h => ?_
    rw [hpois] at h
    cases h

theorem obeys_pollObservation {binding : ExternalToolWorkerBinding} :
    Obeys discarding (pollObservation binding : Call I S T V _) k := by
  unfold pollObservation
  split
  · exact obeys_pure _
  · apply obeys_perform_bind (fun _ h => h)
    intro outcome
    split
    · exact obeys_pure _
    · exact obeys_pure _
    · exact obeys_pure _
    · apply obeys_perform_bind (fun _ h => h)
      rintro (error | _ | result)
      · exact obeys_pure _
      · exact obeys_pure _
      · exact obeys_pure _

theorem obeys_finishObservation {self : SupervisedMultiplexedWorkerSession I}
    {binding : ExternalToolWorkerBinding} {i : I} {outcome : MultiplexedWorkerInvocationOutcome} :
    Obeys discarding (self.finishObservation binding i outcome : Call I S T V _) k := by
  unfold finishObservation
  apply obeys_assign_bind (fun _ _ => rfl)
  apply obeys_perform_bind (fun _ h => h)
  rintro (source | ⟨⟩ | ⟨termination⟩ | ⟨termination⟩ | ⟨termination⟩)
  · apply obeys_assign_bind (fun _ _ => rfl)
    exact obeys_perform_bind (fun _ h => h) fun _ => obeys_fail _
  · exact obeys_check_bind fun _ _ => obeys_pure _
  · exact obeys_assign_bind (fun _ _ => rfl) (obeys_pure _)
  · exact obeys_assign_bind (fun _ _ => rfl) (obeys_pure _)
  · exact obeys_assign_bind (fun _ _ => rfl) (obeys_pure _)

theorem obeys_pollExternalToolEvent :
    Obeys discarding (pollExternalToolEvent : Call I S T V _) k := by
  unfold pollExternalToolEvent
  apply obeys_self_bind
  apply obeys_check_bind
  intro _ havailable
  have hpois := poisoned_eq_false_of_available havailable
  have hopen (active : SupervisedExternalToolInvocation I) :
      Discards { k with active := some active } := by
    intro h
    rw [hpois] at h
    cases h
  apply obeys_check_bind
  intro active _
  apply obeys_bind obeys_pollObservation
  rintro _ ⟨source | _ | _ | _ | outcome, binding⟩ k₁ _
  · exact obeys_failTransport
  · exact obeys_assign_bind (fun _ => hopen _) (obeys_check_bind fun _ _ => obeys_pure _)
  · exact obeys_assign_bind (fun _ => hopen _) (obeys_check_bind fun _ _ => obeys_pure _)
  · exact obeys_assign_bind (fun _ => hopen _) (obeys_check_bind fun _ _ => obeys_pure _)
  · exact obeys_finishObservation

theorem obeys_applyToRuntime {event : ExternalToolWorkerEvent} :
    Obeys discarding (applyToRuntime event : Call I S T V _) k := by
  cases event with
  | completed externalId output =>
    exact obeys_perform_bind (fun _ h => h) fun _ => obeys_check_bind fun _ _ => obeys_pure _
  | cancelled externalId acknowledgement =>
    apply obeys_check_bind
    intro _ _
    exact obeys_perform_bind (fun _ h => h) fun _ => obeys_check_bind fun _ _ => obeys_pure _
  | _ => exact obeys_pure _

theorem obeys_pollExternalTool : Obeys discarding (pollExternalTool : Call I S T V _) k := by
  unfold pollExternalTool
  apply obeys_bind obeys_pollExternalToolEvent
  rintro _ (event | ⟨externalId, cause, termination⟩) k₁ _
  · exact obeys_bind_pure obeys_applyToRuntime
  · exact obeys_pure _

theorem obeys_serve [JsonReader] (call : SupervisedCall) :
    Obeys discarding (serve call : Call I S T V _) k := by
  cases call with
  | start => exact obeys_bind_pure obeys_startExternalTool
  | requestCancellation => exact obeys_bind_pure obeys_requestExternalToolCancellation
  | pollEvent => exact obeys_bind_pure obeys_pollExternalToolEvent
  | poll => exact obeys_bind_pure obeys_pollExternalTool

variable {active : SupervisedExternalToolInvocation I}

/-- A cancellation that the binding refuses is not told to anybody. -/
theorem says_refusedCancellation {r : Except (SupervisedMultiplexedWorkerError S T) Unit}
    {error : ExternalToolWorkerBridgeError} (hpois : k.poisoned = false)
    (hact : k.active = some active)
    (hcheck : active.binding.checkCancellation request = .error error)
    (h : (requestExternalToolCancellation request cancellationId : Call I S T V Unit).Says k t r k') :
    t = [] ∧ r = .error (.bridge error) ∧ k' = k := by
  replace h := says_active hpois h
  rcases h with ⟨hnone, _⟩ | ⟨active', hact', h⟩
  · rw [hact] at hnone
    cases hnone
  obtain rfl : active = active' := Option.some.inj (hact.symm.trans hact')
  rw [hcheck] at h
  simpa [says_check_bind, Except.mapError] using h

/-- A cancellation that the binding lets through is put to the coordinator. -/
theorem says_sentCancellation {r : Except (SupervisedMultiplexedWorkerError S T) Unit}
    (hpois : k.poisoned = false) (hact : k.active = some active)
    (hcheck : active.binding.checkCancellation request = .ok ())
    (h : (requestExternalToolCancellation request cancellationId : Call I S T V Unit).Says k t r k') :
    ∃ sent t', t = ⟨.requestCancellation active.binding.pending cancellationId, sent⟩ :: t' ∧
      match sent with
      | .ok () => t' = [] ∧ r = .ok () ∧ k' = { k with
          active := some { active with binding := { active.binding with
            cancellation := some ⟨cancellationId⟩, cancellationRequested := true } } }
      | .error _ => k'.poisoned = true ∧ ∃ e, r = .error e := by
  replace h := says_active hpois h
  rcases h with ⟨hnone, _⟩ | ⟨active', hact', h⟩
  · rw [hact] at hnone
    cases hnone
  obtain rfl : active = active' := Option.some.inj (hact.symm.trans hact')
  rw [hcheck] at h
  simp only [Except.mapError, says_check_bind, reduceCtorEq, false_and, exists_false, false_or,
    says_perform_bind] at h
  obtain ⟨_, _, source | ⟨⟨⟩⟩, t', rfl, h⟩ := h
  · obtain ⟨hstops, he⟩ := says_failTransport h
    exact ⟨_, _, rfl, hstops.poisoned, he⟩
  · exact ⟨_, _, rfl, says_assign.mp h⟩

/-- A poll reads the mailbox of the call first; a result that it finds is returned if the
call is finished in time. -/
theorem says_pollCompleted (result : ToolResult)
    {r : Except (SupervisedMultiplexedWorkerError S T) (SupervisedExternalToolWorkerEvent T)}
    (hpois : k.poisoned = false) (hact : k.active = some active)
    (hopen : active.binding.terminal = false)
    (h : (pollExternalToolEvent : Call I S T V _).Says k t r k') :
    ∃ outcome t', t = ⟨.tryWait active.binding.pending, outcome⟩ :: t' ∧
      (outcome = .ok (some (.completed result)) →
        ∃ finished t'', t' = ⟨.finishInvocation active.supervision, finished⟩ :: t'' ∧
          (finished = .ok .completed →
            t'' = [] ∧ r = .ok (.worker (.completed active.binding.id result.output)))) := by
  replace h := says_active hpois h
  rcases h with ⟨hnone, _⟩ | ⟨active', hact', h⟩
  · rw [hact] at hnone
    cases hnone
  obtain rfl : active = active' := Option.some.inj (hact.symm.trans hact')
  rw [says_bind] at h
  rcases h with ⟨e, h, rfl⟩ | ⟨⟨observation, binding⟩, k₁, t₁, t₂, rfl, hobs, h⟩
  · obtain ⟨_, _, _, h, _⟩ := says_pollObservation active.binding.id active.supervision hopen h
    cases h
  unfold pollObservation at hobs
  rw [if_neg (by simp [hopen]), says_perform_bind] at hobs
  obtain ⟨outcome, t', rfl, hobs⟩ := hobs
  refine ⟨outcome, t' ++ t₂, rfl, ?_⟩
  rintro rfl
  obtain ⟨rfl, hok, rfl⟩ := says_pure.mp hobs
  cases hok
  unfold finishObservation at h
  rw [says_assign_bind, says_perform_bind] at h
  obtain ⟨finished, t'', rfl, h⟩ := h
  refine ⟨finished, t'', rfl, ?_⟩
  rintro rfl
  simp only [ExternalToolWorkerBinding.eventFromObservation, Except.mapError, says_check_bind,
    reduceCtorEq, false_and, exists_false, false_or, Except.ok.injEq, exists_eq_left',
    says_pure] at h
  exact ⟨h.1, h.2.1⟩

end SupervisedMultiplexedWorkerSession

structure SupervisedSystem (I : Type) where
  session : SupervisedMultiplexedWorkerSession I
  coordinator : Coordinator

namespace SupervisedSystem
variable (I S T V : Type)

open SupervisedMultiplexedWorkerSession Effectful

inductive Happening
  | frame (frame : Except MultiplexedWorkerError WorkerMessage)
  | exchange (exchange : SupervisedExchange I S T V)

variable {I S T V}

inductive Step [JsonReader] : SupervisedSystem I → Happening I S T V → SupervisedSystem I → Prop
  | frame {s} (frame : Except MultiplexedWorkerError WorkerMessage) :
      Step s (.frame frame) { s with coordinator := s.coordinator.takeFrame frame }
  | exchange {s call t r session coordinator} :
      (serve call).Says s.session t r session →
      Serves s.coordinator t coordinator →
      Step s (.exchange ⟨call, t, r⟩) ⟨session, coordinator⟩

/-- The session of a manifest before its first call. -/
inductive Opened (manifest : CapabilityManifest) (deadline : WorkerInvocationDeadline) :
    SupervisedSystem I → Prop
  | opened {authorizer} (provenance : ℕ) : SessionAuthorizer.new provenance manifest = .ok authorizer →
      Opened manifest deadline ⟨.new manifest.sessionId deadline, .new authorizer⟩

structure Inv (s : SupervisedSystem I) : Prop where
  discards : s.session.Discards
  isOpen : s.session.IsOpen
  waiting : s.coordinator.Waiting

variable {s s' s₀ : SupervisedSystem I} {e : Happening I S T V} {l : List (Happening I S T V)}
  {manifest : CapabilityManifest} {deadline : WorkerInvocationDeadline}

theorem Opened.inv (h : Opened manifest deadline s) : s.Inv := by
  cases h with
  | opened => exact ⟨nofun, isOpen_of_active_none rfl, nofun⟩

variable {active : SupervisedExternalToolInvocation I} {result : ToolResult}

/-- The result of the session's call waits in its mailbox. -/
structure Ready (s : SupervisedSystem I) (active : SupervisedExternalToolInvocation I)
    (result : ToolResult) : Prop where
  inv : s.Inv
  isActive : s.session.active = some active
  delivered : s.coordinator.Delivered active.binding.pending.requestId result

theorem Inv.poisoned (h : s.Inv) (hact : s.session.active = some active) :
    s.session.poisoned = false := by
  by_contra hpois
  have hnone := h.discards (by simpa using hpois)
  rw [hact] at hnone
  cases hnone

/-- What leaves a delivered result alone: frames, a second start, and cancellations that
the session refuses before they reach the coordinator. -/
inductive Spares (binding : ExternalToolWorkerBinding) : Happening I S T V → Prop
  | frame {frame} : Spares binding (.frame frame)
  | start {invocation requestId t r} :
      Spares binding (.exchange ⟨.start invocation requestId, t, r⟩)
  | requestCancellation {request cancellationId t r} {error : ExternalToolWorkerBridgeError} :
      binding.checkCancellation request = .error error →
      Spares binding (.exchange ⟨.requestCancellation request cancellationId, t, r⟩)

theorem Ready.says_pollExternalToolEvent {c : Coordinator} {k : SupervisedMultiplexedWorkerSession I}
    {t t' : List (Said (SupervisedOp I) (Answer S T V))}
    {r : Except (SupervisedMultiplexedWorkerError S T) (SupervisedExternalToolWorkerEvent T)}
    (hs : s.Ready active result) (h : (pollExternalToolEvent : Call I S T V _).Says s.session t r k)
    (hserves : Serves s.coordinator (t ++ t') c) :
    r = .ok (.worker (.completed active.binding.id result.output)) := by
  obtain ⟨outcome, t₁, rfl, hfound⟩ := says_pollCompleted result
    (hs.inv.poisoned hs.isActive) hs.isActive (hs.inv.isOpen _ hs.isActive) h
  obtain ⟨c₁, c₂, hframes, hans, hserves⟩ := hserves.cons_inv
  have hdel := hframes.delivered hs.inv.waiting hs.delivered
  have hout : outcome = .ok (some (.completed result)) := by
    cases hans with
    | tryWait h =>
      rw [← tryWait_of_delivered hdel, h]
  obtain ⟨finished, t₂, rfl, hfinished⟩ := hfound hout
  obtain ⟨c₃, c₄, _, hans, _⟩ := hserves.cons_inv
  refine (hfinished ?_).2
  cases hans
  rfl

section
variable [JsonReader]
variable {t : List (Said (SupervisedOp I) (Answer S T V))}

theorem Step.inv (h : Step s e s') (hs : s.Inv) : s'.Inv := by
  cases h with
  | frame frame =>
    exact ⟨hs.discards, hs.isOpen, (moves_takeFrame frame).waiting hs.waiting⟩
  | exchange hsays hserves =>
    exact ⟨obeys_serve _ hsays hs.discards,
      (serve_accepts hs.isOpen hsays).1,
      hserves.waiting hs.waiting⟩

theorem inv_of_accepts (h : Accepts Step s l s') (hs : s.Inv) : s'.Inv := by
  induction h with
  | nil => exact hs
  | cons hstep _ ih => exact ih (hstep.inv hs)

theorem Step.ready (h : Step s e s') (hs : s.Ready active result) (he : Spares active.binding e) :
    s'.Ready active result := by
  have hinv := h.inv hs.inv
  cases he with
  | frame =>
    cases h with
    | frame => exact ⟨hinv, hs.isActive, hs.delivered.takeFrame hs.inv.waiting _⟩
  | start =>
    cases h with
    | exchange hsays hserves =>
      unfold serve at hsays
      rw [says_bind_pure] at hsays
      obtain ⟨_, hsays, _⟩ := hsays
      obtain ⟨rfl, _, rfl⟩ := says_busy (hs.inv.poisoned hs.isActive) (by rw [hs.isActive]; rfl) hsays
      exact ⟨hinv, hs.isActive, hserves.delivered hs.inv.waiting hs.delivered⟩
  | requestCancellation hcheck =>
    cases h with
    | exchange hsays hserves =>
      unfold serve at hsays
      rw [says_bind_pure] at hsays
      obtain ⟨_, hsays, _⟩ := hsays
      obtain ⟨rfl, _, rfl⟩ := says_refusedCancellation (hs.inv.poisoned hs.isActive) hs.isActive hcheck hsays
      exact ⟨hinv, hs.isActive, hserves.delivered hs.inv.waiting hs.delivered⟩

theorem ready_of_accepts (h : Accepts Step s l s') (hs : s.Ready active result)
    (hl : ∀ e ∈ l, Spares active.binding e) : s'.Ready active result := by
  induction h with
  | nil => exact hs
  | cons hstep _ ih =>
    obtain ⟨he, hl⟩ := List.forall_mem_cons.mp hl
    exact ih (hstep.ready hs he) hl

theorem Step.accepted {request : ExternalToolCancellationRequest} {cancellationId : String}
    (h : Step s (.exchange ⟨.requestCancellation request cancellationId, t, .ok .requested⟩) s')
    (hs : s.Inv) (hact : s.session.active = some active) :
    s'.session.poisoned = false ∧ ∃ active', s'.session.active = some active' ∧
      active'.binding.id = active.binding.id ∧
      active'.binding.pending = active.binding.pending := by
  have hpois := hs.poisoned hact
  cases h with
  | exchange hsays _ =>
    unfold serve at hsays
    rw [says_bind_pure] at hsays
    obtain ⟨r, hsays, hr⟩ := hsays
    cases hcheck : active.binding.checkCancellation request with
    | error error =>
      obtain ⟨_, rfl, _⟩ := says_refusedCancellation hpois hact hcheck hsays
      cases hr
    | ok _ =>
      obtain ⟨sent, t, rfl, hsent⟩ := says_sentCancellation hpois hact hcheck hsays
      cases sent with
      | error error =>
        obtain ⟨_, e, rfl⟩ := hsent
        cases hr
      | ok _ =>
        obtain ⟨_, _, rfl⟩ := hsent
        exact ⟨hpois, _, rfl, rfl, rfl⟩

theorem Step.pollEvent {r : SupervisedResult S T V} (h : Step s (.exchange ⟨.pollEvent, t, r⟩) s')
    (hs : s.Ready active result) :
    r = .ok (.event (.worker (.completed active.binding.id result.output))) := by
  cases h with
  | exchange hsays hserves =>
    unfold serve at hsays
    rw [says_bind_pure] at hsays
    obtain ⟨r, hsays, rfl⟩ := hsays
    rw [← List.append_nil t] at hserves
    obtain rfl := hs.says_pollExternalToolEvent hsays hserves
    rfl

theorem Step.poll {r : SupervisedResult S T V} (h : Step s (.exchange ⟨.poll, t, r⟩) s')
    (hs : s.Ready active result) :
    ∃ answer, ⟨.completeExternalTool active.binding.id result.output, answer⟩ ∈ t ∧
      r = (answer.mapError fun error => .bridge (.external error)).map
        fun evaluation => .poll (.worker (.completed evaluation)) := by
  cases h with
  | exchange hsays hserves =>
    unfold serve at hsays
    rw [says_bind_pure] at hsays
    obtain ⟨r, hsays, rfl⟩ := hsays
    unfold pollExternalTool at hsays
    rw [says_bind] at hsays
    rcases hsays with ⟨e, hsays, rfl⟩ | ⟨event, k, t, t', rfl, hsays, happly⟩
    · rw [← List.append_nil t] at hserves
      cases hs.says_pollExternalToolEvent hsays hserves
    · cases hs.says_pollExternalToolEvent hsays hserves
      simp only [says_bind_pure, applyToRuntime, says_perform_bind, says_check] at happly
      obtain ⟨_, ⟨answer, t', rfl, _, ⟨_, rfl, _⟩, rfl⟩, rfl⟩ := happly
      refine ⟨answer, by simp, ?_⟩
      cases answer <;> rfl

/-- While the watchdog does not fire: a cancellation that the coordinator accepts leaves the
call active, and a result that was delivered is returned by a later poll, also after
cancellations that the binding refuses itself. -/
theorem delivered_result_survives (hopened : Opened manifest deadline s₀)
    (hrun : Accepts Step s₀ l s) (hactive : s.session.active = some active) :
    (∀ request cancellationId t s',
      Step s (.exchange ⟨.requestCancellation request cancellationId, t, .ok .requested⟩ :
        Happening I S T V) s' →
      s'.session.poisoned = false ∧ ∃ active', s'.session.active = some active' ∧
        active'.binding.id = active.binding.id ∧
        active'.binding.pending = active.binding.pending) ∧
    ∀ result, s.coordinator.Delivered active.binding.pending.requestId result →
      ∀ (l' : List (Happening I S T V)) s', Accepts Step s l' s' →
        (∀ e ∈ l', Spares active.binding e) →
        s'.session.poisoned = false ∧
        (∀ t r s'', Step s' (.exchange ⟨.pollEvent, t, r⟩ : Happening I S T V) s'' →
          r = .ok (.event (.worker (.completed active.binding.id result.output)))) ∧
        ∀ t r s'', Step s' (.exchange ⟨.poll, t, r⟩ : Happening I S T V) s'' →
          ∃ answer, ⟨.completeExternalTool active.binding.id result.output, answer⟩ ∈ t ∧
            r = (answer.mapError fun error => .bridge (.external error)).map
              fun evaluation => .poll (.worker (.completed evaluation)) := by
  have hinv := inv_of_accepts hrun hopened.inv
  refine ⟨fun request cancellationId t s' h => ?_, fun result hdel l' s' hrun' hspares => ?_⟩
  · exact h.accepted hinv hactive
  · have hs := ready_of_accepts hrun' ⟨hinv, hactive, hdel⟩ hspares
    exact ⟨hs.inv.poisoned hs.isActive, fun t r s'' h => h.pollEvent hs, fun t r s'' h => h.poll hs⟩

end

def echoManifest : CapabilityManifest := ⟨5, "session", [.text "echo"]⟩

def echoAuthorizer : SessionAuthorizer := ⟨0, echoManifest, ∅, ∅, ∅, ∅, ∅, ∅, ∅⟩

def echoSupervision : SupervisedExternalToolInvocation Unit :=
  ⟨⟨⟨1⟩, "echo", 0, 1, "key", ⟨"request", "echo"⟩, none, false, false⟩, ()⟩

def echoCancellation : ExternalToolCancellationRequest := ⟨⟨1⟩, "echo", 0, 1, "key"⟩

/-- The call was sent. -/
def echoStarted : Coordinator := ((new echoAuthorizer).start echoWorker (.ok ())).2

/-- Its result was taken. -/
def echoDelivered : Coordinator := echoStarted.takeFrame (.ok (.result echoResult))

theorem echo_opened : Opened echoManifest echoDeadline
    (⟨.new "session" echoDeadline, .new echoAuthorizer⟩ : SupervisedSystem Unit) :=
  .opened 0 rfl

theorem echo_start [JsonReader] : Step (S := Unit) (T := Unit) (V := Unit)
    ⟨.new "session" echoDeadline, .new echoAuthorizer⟩
    (.exchange ⟨.start echoInvocation "request", [⟨.beginInvocation echoDeadline, .ok ()⟩,
      ⟨.start echoWorker, .ok ()⟩], .ok .started⟩)
    ⟨⟨"session", echoDeadline, some echoSupervision, false⟩, echoStarted⟩ := by
  refine .exchange (.perform _ (.perform _ .done)) (.answer .beginInvocation (.answer ?_ .done))
  exact .start (.ok ()) (Prod.ext (by rfl) rfl)

theorem echo_delivered : echoDelivered.Delivered "request" echoResult := by rfl

/-- The result was delivered, then a cancellation of the call is requested. The coordinator
has no active call any more, so the session is poisoned and the result is lost. -/
theorem late_cancellation_loses_result : ∃ (_ : JsonReader) (s₀ s₁ s₂ : SupervisedSystem Unit)
    (active : SupervisedExternalToolInvocation Unit) (l : List (Happening Unit Unit Unit Unit))
    (t : List (Said (SupervisedOp Unit) (Answer Unit Unit Unit))),
    Opened echoManifest echoDeadline s₀ ∧ Accepts Step s₀ l s₁ ∧
      s₁.session.active = some active ∧
      s₁.coordinator.Delivered active.binding.pending.requestId echoResult ∧
      Step s₁ (.exchange ⟨.requestCancellation echoCancellation "cancel", t,
        .error (.transport .noActiveInvocation (.ok ()))⟩) s₂ ∧
      s₂.session.poisoned = true ∧
      ∀ t r s₃, Step s₂ (.exchange ⟨.pollEvent, t, r⟩ : Happening Unit Unit Unit Unit) s₃ →
        r = .error .poisoned := by
  let reader : JsonReader := ⟨fun _ => none⟩
  refine ⟨reader, _, ⟨⟨"session", echoDeadline, some echoSupervision, false⟩, echoDelivered⟩,
    ⟨⟨"session", echoDeadline, none, true⟩, echoDelivered⟩, echoSupervision, _,
    [⟨.requestCancellation ⟨"request", "echo"⟩ "cancel", .error .noActiveInvocation⟩,
      ⟨.finishInvocation (), .ok .completed⟩, ⟨.terminate, .ok ()⟩],
    echo_opened, .cons echo_start (.cons (.frame (.ok (.result echoResult))) .nil), rfl,
    echo_delivered, ?_, rfl, ?_⟩
  · refine .exchange (.perform _ (.perform _ (.perform _ .done))) ?_
    refine .answer (.requestCancellation (.ok ()) (Prod.ext (by rfl) rfl)) ?_
    exact .answer .finishInvocation (.answer .terminate .done)
  · intro t r s₃ h
    cases h with
    | exchange hsays _ => exact (says_poisoned rfl hsays).2.1

/-- The call was sent, and a cancellation of it. -/
def echoCancelling : Coordinator := (echoStarted.cancel "cancel" "request" "echo" (.ok ())).2

def echoDisposition : WorkerCancellationResult :=
  ⟨protocolVersion, "session", "cancel", "request", "echo", .tooLate⟩

/-- The worker's result and its answer to the cancellation were taken. -/
def echoTooLate : Coordinator :=
  (echoCancelling.takeFrame (.ok (.result echoResult))).takeFrame
    (.ok (.cancellationResult echoDisposition))

def echoRequested : SupervisedExternalToolInvocation Unit :=
  ⟨⟨⟨1⟩, "echo", 0, 1, "key", ⟨"request", "echo"⟩, some ⟨"cancel"⟩, true, false⟩, ()⟩

theorem delivered_result_survives_second_cancellation :
    ∃ (_ : JsonReader) (s : SupervisedSystem Unit),
      Step s (.exchange ⟨.requestCancellation echoCancellation "cancel-again", [],
        .error (.bridge .cancellationAlreadyRequested)⟩ : Happening Unit Unit Unit Unit) s ∧
      s.session.poisoned = false ∧
      ∀ t r s', Step s (.exchange ⟨.pollEvent, t, r⟩ : Happening Unit Unit Unit Unit) s' →
        r = .ok (.event (.worker (.completed ⟨1⟩ "hi"))) := by
  let reader : JsonReader := ⟨fun _ => none⟩
  let s : SupervisedSystem Unit :=
    ⟨⟨"session", echoDeadline, some echoRequested, false⟩, echoTooLate⟩
  have hcancel : Step (S := Unit) (T := Unit) (V := Unit)
      ⟨⟨"session", echoDeadline, some echoSupervision, false⟩, echoStarted⟩
      (.exchange ⟨.requestCancellation echoCancellation "cancel",
        [⟨.requestCancellation ⟨"request", "echo"⟩ "cancel", .ok ()⟩], .ok .requested⟩)
      ⟨⟨"session", echoDeadline, some echoRequested, false⟩, echoCancelling⟩ := by
    refine .exchange (.perform _ .done) (.answer ?_ .done)
    exact .requestCancellation (.ok ()) (Prod.ext (by rfl) rfl)
  have hagain : Step (S := Unit) (T := Unit) (V := Unit) s
      (.exchange ⟨.requestCancellation echoCancellation "cancel-again", [],
        .error (.bridge .cancellationAlreadyRequested)⟩) s :=
    .exchange .done .done
  have hcheck : echoRequested.binding.checkCancellation echoCancellation =
      .error .cancellationAlreadyRequested := rfl
  have hdel : echoTooLate.Delivered "request" echoResult := by rfl
  have hrun := Accepts.cons echo_start (.cons hcancel (.cons (.frame (.ok (.result echoResult)))
    (.cons (.frame (.ok (.cancellationResult echoDisposition))) .nil)))
  obtain ⟨hpois, hpoll, _⟩ := (delivered_result_survives echo_opened hrun rfl).2 echoResult
    hdel [_] s (.cons hagain .nil) (List.forall_mem_singleton.mpr (.requestCancellation hcheck))
  exact ⟨reader, s, hagain, hpois, hpoll⟩

end SupervisedSystem

end Octoscript
