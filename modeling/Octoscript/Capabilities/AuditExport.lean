import Octoscript.Capabilities.Guarantees

namespace Octoscript
open Effectful History CapabilityRuntime List

def defaultMaxAuditEvents : ℕ+ := 1024
def maxAuditEvents : ℕ := 8192

/-- The audit fields of a host. -/
structure AuditView where
  audit : List AuditEvent
  maxAuditEvents : ℕ+
  (droppedAuditEvents firstAuditEventSequence nextAuditEventSequence : UInt64)

inductive AuditEventCursorError
  | invalidCursor
  | evicted (requested earliestAvailable : UInt64)
  | ahead (requested nextAvailable : UInt64)
  deriving DecidableEq

namespace AuditView

def new : AuditView := ⟨[], defaultMaxAuditEvents, 0, 1, 1⟩

/-- The oldest event is dropped. -/
def popFront (self : AuditView) : AuditView :=
  { self with
    audit := self.audit.tail
    droppedAuditEvents := self.droppedAuditEvents.saturatingSucc
    firstAuditEventSequence := self.firstAuditEventSequence.saturatingSucc }

def pushBack (self : AuditView) (event : AuditEvent) : AuditView :=
  { self with
    audit := self.audit ++ [event]
    nextAuditEventSequence := self.nextAuditEventSequence.saturatingSucc }

/-- The event with the number that it gets; `u64::MAX` is a cursor only. -/
def numbered (self : AuditView) (event : AuditEvent) : Option AuditEvent :=
  if self.nextAuditEventSequence = .maxValue then none
  else some { event with eventSequence := self.nextAuditEventSequence }

def recordAudit (self : AuditView) (event : AuditEvent) : AuditView :=
  match self.numbered event with
  | none => { self with droppedAuditEvents := self.droppedAuditEvents.saturatingSucc }
  | some event =>
    if self.audit.length = self.maxAuditEvents then self.popFront.pushBack event
    else self.pushBack event

/-- Events are dropped while there are more than the capacity. -/
def trimAuditToCapacity (self : AuditView) : AuditView :=
  popFront^[self.audit.length - self.maxAuditEvents] self

def setMaxAuditEvents (self : AuditView) (maximum : ℕ+) : Except String AuditView := do
  rejectIf ((maximum : ℕ) > Octoscript.maxAuditEvents) "max_audit_events exceeds the hard limit"
  return trimAuditToCapacity { self with maxAuditEvents := maximum }

def clearAudit (self : AuditView) : AuditView :=
  { self with
    audit := []
    droppedAuditEvents := 0
    firstAuditEventSequence := self.nextAuditEventSequence }

def auditSince (self : AuditView) (nextEventSequence : UInt64) :
    Except AuditEventCursorError AuditEventBatch := do
  rejectIf (nextEventSequence = 0) .invalidCursor
  rejectIf (nextEventSequence < self.firstAuditEventSequence)
    (.evicted nextEventSequence self.firstAuditEventSequence)
  rejectIf (nextEventSequence > self.nextAuditEventSequence)
    (.ahead nextEventSequence self.nextAuditEventSequence)
  let skipped := nextEventSequence.toNat - self.firstAuditEventSequence.toNat
  return ⟨self.audit.drop skipped, self.nextAuditEventSequence⟩

end AuditView

/-- A runtime with its audit view, all the events that the view has numbered, and a follower with
its cursor and the batches that it got. -/
structure AuditExport where
  runtime : CapabilityRuntime
  view : AuditView
  recorded : List AuditEvent
  cursor : UInt64
  batches : List AuditEventBatch

namespace AuditExport

def new (runtime : CapabilityRuntime) : AuditExport := ⟨runtime, .new, [], 1, []⟩

def record (self : AuditExport) (event : AuditEvent) : AuditExport :=
  { self with
    view := self.view.recordAudit event
    recorded := self.recorded ++ (self.view.numbered event).toList }

/-- What the follower has read. -/
def received (self : AuditExport) : List AuditEvent := self.batches.flatMap AuditEventBatch.events

def receive (self : AuditExport) (batch : AuditEventBatch) : AuditExport :=
  { self with cursor := batch.nextEventSequence, batches := self.batches ++ [batch] }

variable [JsonReader] [Blake3]

/-- A call on the runtime records the events that it audits; in between, the host changes the
capacity or clears the view, and the follower reads. -/
inductive Step : AuditExport → AuditExport → Prop
  | call {s call t r runtime} : (serve call).Says s.runtime t r runtime →
      Step s ((auditedIn t).foldl record { s with runtime })
  | capacity {s : AuditExport} {maximum view} : s.view.setMaxAuditEvents maximum = .ok view →
      Step s { s with view }
  | clear {s : AuditExport} : Step s { s with view := s.view.clearAudit }
  | read {s : AuditExport} {batch} : s.view.auditSince s.cursor = .ok batch → Step s (s.receive batch)
  | failedRead {s : AuditExport} {error} : s.view.auditSince s.cursor = .error error → Step s s

inductive Reachable : AuditExport → Prop
  | start (runtime : CapabilityRuntime) : Reachable (.new runtime)
  | step {s s'} : Reachable s → Step s s' → Reachable s'

end AuditExport

namespace CapabilityHost

/-- Every audit event is valid once it has a number. -/
def auditsValid : Guarantee HostOp HostOp.Answer CapabilityHost where
  rel _ t _ := ∀ event ∈ auditedIn t, event.Recordable
  refl _ := by simp [auditedIn]
  trans := by
    intro _ _ _ t t' h h' event hevent
    rw [auditedIn_append, mem_append] at hevent
    exact hevent.elim (h event) (h' event)

theorem auditsValid_nil {k k' : CapabilityHost} : auditsValid.rel k [] k' := by
  simp [auditsValid, auditedIn]

instance : Minds auditsValid where
  said {k op} a _ haudited := by
    intro event hevent
    match op with
    | .note (.audited recorded) =>
      obtain rfl : event = recorded := by simpa [auditedIn] using hevent
      exact haudited event rfl
    | .note (.issued ..) | .note (.queued ..) | .note (.resolved ..) | .now | .authorize ..
    | .handle _ | .redact .. | .evaluate | .resume _ => exact nomatch hevent
  sequence := auditsValid_nil
  identifier _ := auditsValid_nil
  update _ _ _ := auditsValid_nil
  drop := auditsValid_nil

instance : Admits auditsValid where
  activeLease := auditsValid_nil
  material := auditsValid_nil
  redactor _ := auditsValid_nil
  lease _ := auditsValid_nil

theorem auditsValid_of_issues {k k' : CapabilityHost} {t : List (Said HostOp HostOp.Answer)}
    {ticket : ToolTicket} (h : k.Issues t ticket k') : auditsValid.rel k t k' := by
  intro event hevent
  rw [h.audited] at hevent
  exact nomatch hevent

theorem auditsValid_insertPending {ε : Type} {k : CapabilityHost} {handle : ScriptHandle}
    {id : ExternalToolId} {ticket : ToolTicket} {key : String} :
    Obeys auditsValid (insertPending handle id ticket key : Call ε Unit) k := by
  apply obeys_self_bind
  exact obeys_perform_bind (fun a => Minds.said a (by simp) (by simp)) fun _ =>
    obeys_assign auditsValid_nil

end CapabilityHost

namespace CapabilityRuntime
open CapabilityHost
variable [JsonReader] [Blake3]

theorem recordable_of_serve {call : RuntimeCall} {k k' : CapabilityRuntime}
    {t : List (Said HostOp HostOp.Answer)} {r : Except RuntimeCallError RuntimeReply}
    (h : (serve call).Says k t r k') : ∀ event ∈ auditedIn t, event.Recordable := by
  rcases serve_cases h with ⟨thread, action, h⟩ | ⟨suspended, clearsLease, h⟩ | ⟨rfl, _⟩ | h
  · exact obeys_runAction auditsValid_of_issues (fun h => auditsValid_insertPending h) h
  · exact obeys_bind (G := hostGuarantee auditsValid) obeys_finish (fun _ _ _ _ => obeys_pure _) h
  · simp [auditedIn]
  · by_cases hreg : ∃ policy metadata inputValidator outputValidator dispatch,
        call = .register policy metadata inputValidator outputValidator dispatch
    · obtain ⟨policy, metadata, inputValidator, outputValidator, dispatch, rfl⟩ := hreg
      rw [(says_serveHost_register h).1]
      simp [auditedIn]
    · refine obeys_serveHost (G := auditsValid) ?_ h
      rintro policy metadata inputValidator outputValidator dispatch rfl
      exact hreg ⟨_, _, _, _, _, rfl⟩

end CapabilityRuntime

namespace AuditExport
variable {s : AuditExport} {batch : AuditEventBatch} {view : AuditView}

/-- The view holds the newest of the recorded events, and the follower has read up to its cursor. -/
structure Inv (s : AuditExport) : Prop where
  next : s.view.nextAuditEventSequence.toNat = s.recorded.length + 1
  numbered : Numbered AuditEvent.number 1 s.recorded
  valid : ∀ event ∈ s.recorded, event.Valid
  first : 1 ≤ s.view.firstAuditEventSequence.toNat
  window : s.view.firstAuditEventSequence.toNat + s.view.audit.length =
    s.view.nextAuditEventSequence.toNat
  audit : s.view.audit = s.recorded.drop (s.view.firstAuditEventSequence.toNat - 1)
  cursor : 1 ≤ s.cursor.toNat ∧ s.cursor.toNat ≤ s.view.nextAuditEventSequence.toNat
  received : s.received = s.recorded.take (s.cursor.toNat - 1)
  batches : ∀ batch ∈ s.batches, batch.events ≠ [] → validateBatch batch = .ok ()

theorem inv_new (runtime : CapabilityRuntime) : Inv (.new runtime) where
  next := rfl
  numbered := numbered_nil
  valid := by simp [new]
  first := le_rfl
  window := rfl
  audit := rfl
  cursor := ⟨le_rfl, le_rfl⟩
  received := rfl
  batches := by simp [new]

theorem toNat_saturatingSucc {n : UInt64} {m : ℕ} (h : n.toNat < m) (hm : m < 2 ^ 64) :
    n.saturatingSucc.toNat = n.toNat + 1 := by
  unfold UInt64.saturatingSucc
  rw [if_pos (by omega), UInt64.toNat_succ (by omega)]

/-- Dropping the oldest event moves the window on. -/
theorem Inv.popFront (h : s.Inv) (hsome : s.view.audit ≠ []) :
    Inv { s with view := s.view.popFront } := by
  have hpos : 0 < s.view.audit.length := length_pos_iff.mpr hsome
  have hwindow := h.window
  have hlt := s.view.nextAuditEventSequence.toNat_lt
  have hfirst : s.view.firstAuditEventSequence.saturatingSucc.toNat =
      s.view.firstAuditEventSequence.toNat + 1 := toNat_saturatingSucc (by omega) hlt
  refine ⟨h.next, h.numbered, h.valid, ?_, ?_, ?_, h.cursor, h.received, h.batches⟩
  · simp only [AuditView.popFront, hfirst]
    omega
  · simp only [AuditView.popFront, hfirst, length_tail]
    omega
  · have hone := h.first
    simp only [AuditView.popFront, hfirst]
    rw [h.audit, tail_drop]
    congr 1
    omega

theorem Inv.trim (h : s.Inv) (n : ℕ) (hn : n ≤ s.view.audit.length) :
    Inv { s with view := AuditView.popFront^[n] s.view } ∧
      (AuditView.popFront^[n] s.view).audit.length = s.view.audit.length - n := by
  induction n with
  | zero => exact ⟨h, rfl⟩
  | succ n ih =>
    obtain ⟨hinv, hlen⟩ := ih (by omega)
    rw [Function.iterate_succ_apply']
    refine ⟨hinv.popFront ?_, ?_⟩
    · apply ne_nil_of_length_pos
      simp only
      omega
    · rw [AuditView.popFront, length_tail]
      omega

theorem Inv.pushBack {event : AuditEvent} (h : s.Inv) (hevent : event.Recordable)
    (hroom : s.view.nextAuditEventSequence ≠ .maxValue) :
    Inv { s with
      view := s.view.pushBack { event with eventSequence := s.view.nextAuditEventSequence }
      recorded := s.recorded ++ [{ event with eventSequence := s.view.nextAuditEventSequence }] } := by
  have hnext := h.next
  have hwindow := h.window
  have hfirst := h.first
  have hmax : UInt64.maxValue.toNat = 2 ^ 64 - 1 := by decide
  have hlt := s.view.nextAuditEventSequence.toNat_lt
  have hne : s.view.nextAuditEventSequence.toNat ≠ UInt64.maxValue.toNat := fun heq =>
    hroom (UInt64.toNat_inj.mp heq)
  have hsucc : s.view.nextAuditEventSequence.saturatingSucc.toNat =
      s.view.nextAuditEventSequence.toNat + 1 := by
    unfold UInt64.saturatingSucc
    rw [if_pos (by omega), UInt64.toNat_succ (by omega)]
  refine ⟨?_, ?_, ?_, h.first, ?_, ?_, ?_, ?_, h.batches⟩
  · simp only [AuditView.pushBack, hsucc, length_append, length_singleton]
    omega
  · refine numbered_append.mpr ⟨h.numbered, numbered_cons.mpr ⟨?_, numbered_nil⟩⟩
    simp only [AuditEvent.number]
    omega
  · intro recorded hrecorded
    rcases mem_append.mp hrecorded with hold | hnew
    · exact h.valid recorded hold
    · rw [mem_singleton.mp hnew]
      apply hevent _ _ hroom
      intro hzero
      rw [hzero] at hnext
      exact absurd hnext (by simp)
  · simp only [AuditView.pushBack, hsucc, length_append, length_singleton]
    omega
  · simp only [AuditView.pushBack]
    rw [drop_append_of_le_length (by omega), ← h.audit]
  · simp only [AuditView.pushBack, hsucc]
    have := h.cursor
    omega
  · have := h.cursor
    simp only
    rw [take_append_of_le_length (by omega)]
    exact h.received

theorem Inv.record {event : AuditEvent} (h : s.Inv) (hevent : event.Recordable) :
    (s.record event).Inv := by
  unfold AuditExport.record AuditView.recordAudit
  by_cases hroom : s.view.nextAuditEventSequence = .maxValue
  · have hnone : s.view.numbered event = none := by rw [AuditView.numbered, if_pos hroom]
    simp only [hnone, Option.toList_none, append_nil]
    exact ⟨h.next, h.numbered, h.valid, h.first, h.window, h.audit, h.cursor, h.received, h.batches⟩
  · have hsome : s.view.numbered event =
        some { event with eventSequence := s.view.nextAuditEventSequence } := by
      rw [AuditView.numbered, if_neg hroom]
    simp only [hsome, Option.toList_some]
    split
    · next hfull =>
      have hne : s.view.audit ≠ [] := by
        apply ne_nil_of_length_pos
        rw [hfull]
        exact s.view.maxAuditEvents.pos
      exact (h.popFront hne).pushBack hevent hroom
    · exact h.pushBack hevent hroom

theorem Inv.recordAll {events : List AuditEvent} (hevs : ∀ event ∈ events, event.Recordable) :
    ∀ {s : AuditExport}, s.Inv → (events.foldl AuditExport.record s).Inv := by
  induction events with
  | nil => exact fun h => h
  | cons event events ih =>
    intro s h
    rw [forall_mem_cons] at hevs
    exact ih hevs.2 (h.record hevs.1)

theorem Inv.setMaxAuditEvents {maximum : ℕ+} (h : s.Inv)
    (hset : s.view.setMaxAuditEvents maximum = .ok view) : Inv { s with view } := by
  simp only [AuditView.setMaxAuditEvents, Except.bind_ok_iff] at hset
  obtain ⟨_, _, hview⟩ := hset
  cases hview
  have hchanged : Inv { s with view := { s.view with maxAuditEvents := maximum } } :=
    ⟨h.next, h.numbered, h.valid, h.first, h.window, h.audit, h.cursor, h.received, h.batches⟩
  exact (hchanged.trim _ (Nat.sub_le _ _)).1

theorem Inv.clearAudit (h : s.Inv) : Inv { s with view := s.view.clearAudit } := by
  have hnext := h.next
  refine ⟨h.next, h.numbered, h.valid, ?_, rfl, ?_, h.cursor, h.received, h.batches⟩
  · simp only [AuditView.clearAudit]
    omega
  · simp only [AuditView.clearAudit]
    rw [drop_eq_nil_of_le (by omega)]

theorem auditSince_ok {cursor : UInt64} (h : view.auditSince cursor = .ok batch) :
    view.firstAuditEventSequence.toNat ≤ cursor.toNat ∧
      batch = ⟨view.audit.drop (cursor.toNat - view.firstAuditEventSequence.toNat),
        view.nextAuditEventSequence⟩ := by
  simp only [AuditView.auditSince, Except.bind_ok_iff, Except.rejectIf_ok_iff] at h
  obtain ⟨_, _, _, hfirst, _, _, hbatch⟩ := h
  cases hbatch
  exact ⟨UInt64.le_iff_toNat_le.mp (UInt64.not_lt.mp hfirst), rfl⟩

theorem auditSince_error {cursor : UInt64} {error : AuditEventCursorError}
    (hcursor : cursor ≠ 0) (h : view.auditSince cursor = .error error) :
    (∃ earliest, error = .evicted cursor earliest) ∨ ∃ next, error = .ahead cursor next := by
  unfold AuditView.auditSince rejectIf at h
  rw [if_neg hcursor] at h
  by_cases hfirst : cursor < view.firstAuditEventSequence
  · rw [if_pos hfirst] at h
    cases h
    exact .inl ⟨_, rfl⟩
  rw [if_neg hfirst] at h
  by_cases hnext : cursor > view.nextAuditEventSequence
  · rw [if_pos hnext] at h
    cases h
    exact .inr ⟨_, rfl⟩
  · rw [if_neg hnext] at h
    cases h

/-- A batch is what was recorded from the cursor on. -/
theorem Inv.events_eq (h : s.Inv) (hread : s.view.auditSince s.cursor = .ok batch) :
    batch.events = s.recorded.drop (s.cursor.toNat - 1) ∧
      batch.nextEventSequence = s.view.nextAuditEventSequence := by
  obtain ⟨hfirst, rfl⟩ := auditSince_ok hread
  have hone := h.first
  refine ⟨?_, rfl⟩
  simp only
  rw [h.audit, drop_drop]
  congr 1
  omega

theorem Inv.received_eq (h : s.Inv)
    (hread : s.view.auditSince s.cursor = .ok batch) : (s.receive batch).received = s.recorded := by
  have hreceived : s.batches.flatMap AuditEventBatch.events = s.recorded.take (s.cursor.toNat - 1) :=
    h.received
  rw [AuditExport.received, AuditExport.receive, flatMap_append, flatMap_singleton,
    hreceived, (h.events_eq hread).1, take_append_drop]

theorem Inv.validateBatch_ok (h : s.Inv)
    (hread : s.view.auditSince s.cursor = .ok batch) (hsome : batch.events ≠ []) :
    validateBatch batch = .ok () := by
  obtain ⟨hevs, hnext⟩ := h.events_eq hread
  have hcursor := h.cursor
  have htotal := h.next
  have hnum : Numbered AuditEvent.number s.cursor.toNat batch.events := by
    have := h.numbered.drop (s.cursor.toNat - 1) (by omega)
    rw [← hevs] at this
    rwa [show 1 + (s.cursor.toNat - 1) = s.cursor.toNat by omega] at this
  have hfirst : batch.firstEventSequence.toNat = s.cursor.toNat := by
    obtain ⟨event, events, hcons⟩ := exists_cons_of_ne_nil hsome
    rw [hcons, numbered_cons] at hnum
    rw [AuditEventBatch.firstEventSequence, hcons]
    exact hnum.1
  have hlen : batch.events.length = s.recorded.length - (s.cursor.toNat - 1) := by
    rw [hevs, length_drop]
  refine validateBatch_ok_iff.mpr ⟨?_, ?_, ?_, ?_⟩
  · rwa [hfirst]
  · intro event hevent
    rw [hevs] at hevent
    exact h.valid event (mem_of_mem_drop hevent)
  · rw [hfirst, hnext, htotal, hlen]
    omega
  · intro hzero
    rw [← hnext, hzero] at htotal
    exact absurd htotal (by simp)

theorem Inv.receive (h : s.Inv)
    (hread : s.view.auditSince s.cursor = .ok batch) : (s.receive batch).Inv := by
  have hcursor : (s.receive batch).cursor.toNat = s.recorded.length + 1 := by
    rw [← h.next, ← (h.events_eq hread).2]
    rfl
  refine ⟨h.next, h.numbered, h.valid, h.first, h.window, h.audit, ?_, ?_, ?_⟩
  · rw [hcursor]
    exact ⟨Nat.le_add_left 1 _, h.next.ge⟩
  · rw [h.received_eq hread, hcursor]
    exact (take_of_length_le le_rfl).symm
  · intro b hb hsome
    rcases mem_append.mp hb with hold | hnew
    · exact h.batches b hold hsome
    · rw [mem_singleton.mp hnew] at hsome ⊢
      exact h.validateBatch_ok hread hsome

variable [JsonReader] [Blake3] {s s' : AuditExport}

theorem Inv.step (h : s.Inv) (hstep : Step s s') : s'.Inv := by
  cases hstep with
  | call hsays =>
    refine Inv.recordAll (recordable_of_serve hsays) ?_
    exact ⟨h.next, h.numbered, h.valid, h.first, h.window, h.audit, h.cursor, h.received, h.batches⟩
  | capacity hset => exact h.setMaxAuditEvents hset
  | clear => exact h.clearAudit
  | read hread => exact h.receive hread
  | failedRead _ => exact h

theorem Reachable.inv (h : Reachable s) : s.Inv := by
  induction h with
  | start runtime => exact inv_new runtime
  | step _ hstep ih => exact ih.step hstep

/-- Whatever is called, cleared and resized in between: a read gives the follower the rest of what
was recorded, or fails because its cursor is evicted or ahead, and a batch passes the validation of
the durable journal. -/
theorem follower_receives_recorded (h : Reachable s) :
    (∀ batch, s.view.auditSince s.cursor = .ok batch →
      (s.receive batch).received = s.recorded ∧
        (batch.events ≠ [] → validateBatch batch = .ok ())) ∧
    (∀ error, s.view.auditSince s.cursor = .error error →
      (∃ earliest, error = .evicted s.cursor earliest) ∨ ∃ next, error = .ahead s.cursor next) ∧
    s.received <+: s.recorded ∧
    ∀ batch ∈ s.batches, batch.events ≠ [] → validateBatch batch = .ok () := by
  have hinv := h.inv
  refine ⟨fun batch hread => ⟨hinv.received_eq hread, hinv.validateBatch_ok hread⟩, ?_, ?_,
    hinv.batches⟩
  · intro error hread
    apply auditSince_error _ hread
    intro hzero
    have hcursor := hinv.cursor.1
    rw [hzero] at hcursor
    exact absurd hcursor (by decide)
  · rw [hinv.received]
    exact take_prefix _ _

theorem reachable_call (answer : (op : HostOp) → op.Answer) (runtime : CapabilityRuntime)
    (call : RuntimeCall) :
    Reachable ((auditedIn ((serve call runtime).play answer).1).foldl record
      { new runtime with runtime := ((serve call runtime).play answer).2.2 }) :=
  .step (.start runtime) (.call (Prog.says_play answer _))

end AuditExport

def refusedRuntime : CapabilityRuntime :=
  { new (CapabilityHost.new 1 none ⟨8, 4096⟩) 0 4 with script := .running ⟨1⟩ false }

def refusedAnswer : (op : HostOp) → op.Answer
  | .now => 0
  | .authorize .. => .ok ()
  | .handle request => .ok request.input
  | .redact _ chunk => chunk
  | .evaluate => none
  | .resume _ => false
  | .note _ => ()

def refusedCall [JsonReader] [Blake3] : AuditExport :=
  let played := (serve (.script (.call "?" "x" none)) refusedRuntime).play refusedAnswer
  (auditedIn played.1).foldl AuditExport.record
    { AuditExport.new refusedRuntime with runtime := played.2.2 }

theorem AuditExport.follower_receives_refusal : ∃ (_ : JsonReader) (_ : Blake3), ∃ s batch,
    Reachable s ∧ s.view.auditSince s.cursor = .ok batch ∧ batch.events.length = 1 ∧
      (s.receive batch).received = s.recorded ∧ validateBatch batch = .ok () := by
  let reader : JsonReader := ⟨fun _ => none⟩
  let blake : Blake3 := ⟨fun _ => ⟨replicate 32 0, rfl⟩, fun _ _ => ⟨replicate 32 0, rfl⟩⟩
  have hreachable : Reachable refusedCall := reachable_call refusedAnswer refusedRuntime _
  have hread : refusedCall.view.auditSince refusedCall.cursor =
      .ok ⟨refusedCall.view.audit, refusedCall.view.nextAuditEventSequence⟩ := by decide +kernel
  have hone : refusedCall.view.audit.length = 1 := by decide +kernel
  obtain ⟨hreceived, hvalid⟩ := (follower_receives_recorded hreachable).1 _ hread
  refine ⟨reader, blake, refusedCall, _, hreachable, hread, hone, hreceived, hvalid ?_⟩
  exact ne_nil_of_length_pos (by rw [hone]; exact Nat.one_pos)

end Octoscript
