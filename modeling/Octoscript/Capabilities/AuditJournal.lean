import Octoscript.Lib.History
import Octoscript.Lib.Json
import Octoscript.Lib.Machine
import Octoscript.Protocol.Error

namespace Octoscript
open Wire History Mut

def maxToolNameBytes : ℕ := 128
def capabilityAuditJournalFormatVersion : UInt8 := 1
def maxDurableCapabilityAuditEvents : ℕ := 1024
def maxDurableCapabilityAuditJournalBytes : ℕ := 192 * 1024
def maxDurableCapabilityAuditStoreRetries : ℕ := 4
def unrecognizedAuditToolLabel : String := "unrecognized:"

def isValidToolName (name : String) : Bool :=
  name ≠ "" && name.utf8ByteSize ≤ maxToolNameBytes && name.toList.all isTokenChar

inductive RetryClass
  | transient
  | rateLimited
  deriving DecidableEq

inductive AuditOutcome
  | allowed
  | denied
  | failed
  | cancelled
  | timedOut
  | cancellationRequested
  | retryScheduled
  | streamed
  | streamDenied
  deriving DecidableEq

structure AuditEvent where
  (eventSequence sequence : UInt64)
  tool : String
  (inputBytes outputBytes : ℕ)
  outcome : AuditOutcome
  retryClass : Option RetryClass
  deriving DecidableEq

inductive AuditEventValidationError
  | invalidEventSequence
  | invalidTool
  | retryClassRequired
  | retryClassUnexpected
  | unexpectedOutputBytes
  deriving DecidableEq

/-- A registered name, or the digest label of an unrecognized one. -/
def isValidAuditToolLabel (value : String) : Bool :=
  isValidToolName value ||
    let label := unrecognizedAuditToolLabel.toList
    let digest := value.toList.drop label.length
    label.isPrefixOf value.toList && (String.ofList digest).utf8ByteSize == 64 && digest.all isHexDigit

theorem isValidAuditToolLabel_digest (digest : Digest) :
    isValidAuditToolLabel (unrecognizedAuditToolLabel ++ digest.toHex) = true := by
  have hdig : (unrecognizedAuditToolLabel ++ digest.toHex).toList.drop
      unrecognizedAuditToolLabel.toList.length = hexEncode digest.bytes := by
    rw [String.toList_append, List.drop_left, Digest.toHex, String.toList_ofList]
  have hascii : ∀ c ∈ hexEncode digest.bytes, c.toNat < 128 := fun c hc => by
    have := toNat_of_isHexDigit (List.all_eq_true.mp (hexEncode_all _) c hc)
    omega
  have hlabel : unrecognizedAuditToolLabel.toList.isPrefixOf
      (unrecognizedAuditToolLabel ++ digest.toHex).toList = true := by
    rw [String.toList_append, List.isPrefixOf_iff_prefix]
    exact List.prefix_append _ _
  simp only [isValidAuditToolLabel, hdig, hlabel, String.utf8ByteSize_ofList,
    utf8Len_of_ascii hascii, hexEncode_length, digest.size, hexEncode_all]
  simp

namespace AuditEvent

def number (event : AuditEvent) : ℕ := event.eventSequence.toNat

def validateForDurableTelemetry (self : AuditEvent) : Except AuditEventValidationError Unit := do
  rejectIf (self.eventSequence = 0 ∨ self.eventSequence = .maxValue) .invalidEventSequence
  rejectIf (¬isValidAuditToolLabel self.tool) .invalidTool
  match self.outcome, self.retryClass with
  | .retryScheduled, some _ => pure ()
  | .retryScheduled, none => throw .retryClassRequired
  | _, some _ => throw .retryClassUnexpected
  | _, none => pure ()
  rejectIf (self.outcome ≠ .allowed ∧ self.outcome ≠ .streamed ∧ self.outputBytes ≠ 0)
    .unexpectedOutputBytes

def Valid (self : AuditEvent) : Prop := self.validateForDurableTelemetry = .ok ()

theorem Valid.eventSequence_ne {event : AuditEvent} (h : event.Valid) :
    event.eventSequence ≠ 0 ∧ event.eventSequence ≠ .maxValue := by
  simp only [Valid, validateForDurableTelemetry, Except.bind_ok_iff, Except.rejectIf_ok_iff,
    not_or] at h
  obtain ⟨_, hseq, _⟩ := h
  exact hseq

/-- Valid as soon as it has a number. -/
def Recordable (self : AuditEvent) : Prop :=
  ∀ number : UInt64, number ≠ 0 → number ≠ .maxValue → Valid { self with eventSequence := number }

theorem recordable_of {self : AuditEvent} (hlabel : isValidAuditToolLabel self.tool = true)
    (hretry : self.retryClass ≠ none ↔ self.outcome = .retryScheduled)
    (hbytes : self.outputBytes ≠ 0 → self.outcome = .allowed ∨ self.outcome = .streamed) :
    self.Recordable := by
  intro number hzero hmax
  obtain ⟨_, sequence, tool, inputBytes, outputBytes, outcome, retryClass⟩ := self
  simp only at hlabel hretry hbytes
  simp only [Valid, validateForDurableTelemetry, Except.bind_ok_iff, Except.rejectIf_ok_iff, not_or,
    not_not]
  refine ⟨(), ⟨hzero, hmax⟩, (), hlabel, ?_⟩
  cases outcome <;> cases retryClass <;> simp_all

end AuditEvent

/-- The loop over events that must be valid and consecutive from `expected`; it returns
the number after the last. -/
def checkEvents {ε : Type} (gap : ε) (invalid : AuditEventValidationError → ε) (exhausted : ε) :
    UInt64 → List AuditEvent → Except ε UInt64
  | expected, [] => pure expected
  | expected, event :: events => do
    rejectIf (event.eventSequence ≠ expected ∨ event.eventSequence = .maxValue) gap
    event.validateForDurableTelemetry.mapError invalid
    let expected ← expected.checkedSucc.okOr exhausted
    checkEvents gap invalid exhausted expected events

theorem checkEvents_ok_iff {ε : Type} {gap exhausted : ε} {invalid : AuditEventValidationError → ε}
    {expected next : UInt64} {events : List AuditEvent} :
    checkEvents gap invalid exhausted expected events = .ok next ↔
      Numbered AuditEvent.number expected.toNat events ∧ (∀ event ∈ events, event.Valid) ∧
        next.toNat = expected.toNat + events.length := by
  induction events generalizing expected with
  | nil =>
    simp [checkEvents, pure, Except.pure, numbered_nil, ← UInt64.toNat_inj, eq_comm]
  | cons event events ih =>
    simp only [checkEvents, Except.bind_ok_iff, Except.rejectIf_ok_iff, Except.mapError_ok_iff,
      Option.okOr_ok_iff, UInt64.checkedSucc_eq_some_iff, ih, numbered_cons, List.forall_mem_cons,
      List.length_cons, AuditEvent.Valid, not_or, not_not, AuditEvent.number, UInt64.toNat_inj]
    constructor
    · rintro ⟨_, ⟨hseq, _⟩, _, hvalid, after, hafter, hnum, hall, hnext⟩
      rw [hafter] at hnum hnext
      exact ⟨⟨hseq, hnum⟩, ⟨hvalid, hall⟩, by omega⟩
    · rintro ⟨⟨hseq, hnum⟩, ⟨hvalid, hall⟩, hnext⟩
      have hlt := next.toNat_lt
      have hafter : (expected + 1).toNat = expected.toNat + 1 := UInt64.toNat_succ (by omega)
      refine ⟨(), ⟨hseq, (AuditEvent.Valid.eventSequence_ne hvalid).2⟩, (), hvalid, expected + 1,
        hafter, ?_, hall, ?_⟩
      · rwa [hafter]
      · omega

structure AuditEventBatch where
  events : List AuditEvent
  nextEventSequence : UInt64
  deriving DecidableEq

inductive CapabilityAuditBatchError
  | invalidEventSequence
  | invalidNextEventSequence
  | nonContiguousEventSequence
  | invalidEvent (error : AuditEventValidationError)
  deriving DecidableEq

def AuditEventBatch.firstEventSequence (batch : AuditEventBatch) : UInt64 :=
  match batch.events with
  | [] => batch.nextEventSequence
  | event :: _ => event.eventSequence

def validateBatch (batch : AuditEventBatch) : Except CapabilityAuditBatchError Unit := do
  rejectIf (batch.nextEventSequence = 0) .invalidNextEventSequence
  match batch.events with
  | [] => pure ()
  | first :: _ => do
    rejectIf (first.eventSequence = 0 ∨ first.eventSequence = .maxValue) .invalidEventSequence
    let expected ← checkEvents .nonContiguousEventSequence .invalidEvent .invalidNextEventSequence
      first.eventSequence batch.events
    rejectIf (expected ≠ batch.nextEventSequence) .invalidNextEventSequence

/-- Valid consecutive events up to the next one. -/
structure AuditEventBatch.Valid (batch : AuditEventBatch) : Prop where
  numbered : Numbered AuditEvent.number batch.firstEventSequence.toNat batch.events
  events : ∀ event ∈ batch.events, event.Valid
  next : batch.nextEventSequence.toNat = batch.firstEventSequence.toNat + batch.events.length
  nonzero : batch.nextEventSequence ≠ 0

theorem validateBatch_ok_iff {batch : AuditEventBatch} {u : Unit} :
    validateBatch batch = .ok u ↔ batch.Valid := by
  obtain ⟨events, next⟩ := batch
  cases events with
  | nil =>
    simp only [validateBatch, Except.bind_ok_iff, Except.rejectIf_ok_iff]
    constructor
    · rintro ⟨_, hnext, _⟩
      exact ⟨numbered_nil, by simp, rfl, hnext⟩
    · intro h
      exact ⟨(), h.nonzero, rfl⟩
  | cons first rest =>
    simp only [validateBatch, Except.bind_ok_iff, Except.rejectIf_ok_iff, checkEvents_ok_iff, not_not]
    constructor
    · rintro ⟨_, hnext, _, _, expected, ⟨hnum, hall, hlast⟩, rfl⟩
      exact ⟨hnum, hall, hlast, hnext⟩
    · rintro ⟨hnum, hall, hlast, hnext⟩
      have hfirst := (hall first List.mem_cons_self).eventSequence_ne
      exact ⟨(), hnext, (), not_or.mpr hfirst, next, ⟨hnum, hall, hlast⟩, rfl⟩

inductive CapabilityAuditStreamIdError
  | invalid
  deriving DecidableEq

structure CapabilityAuditStreamId where
  value : String
  valid : isValidToolName value = true
  deriving DecidableEq

def CapabilityAuditStreamId.new (value : String) :
    Except CapabilityAuditStreamIdError CapabilityAuditStreamId :=
  if h : isValidToolName value = true then .ok ⟨value, h⟩ else .error .invalid

structure CapabilityAuditJournal where
  formatVersion : UInt8
  streamId : CapabilityAuditStreamId
  (segmentStartEventSequence firstEventSequence nextEventSequence droppedAuditEvents : UInt64)
  events : List AuditEvent
  deriving DecidableEq

inductive CapabilityAuditJournalError
  | capacityTooLarge (requested maximum : ℕ)
  | tooManyEvents (actual maximum : ℕ)
  | tooLarge (actual maximum : ℕ)
  | invalidEncoding
  | unsupportedFormatVersion (actual expected : UInt8)
  | invalidStreamId (error : CapabilityAuditStreamIdError)
  | streamMismatch (expected actual : CapabilityAuditStreamId)
  | segmentStartMismatch (expected actual : UInt64)
  | invalidSequence
  | emptyBatch
  | invalidBatch (error : CapabilityAuditBatchError)
  | invalidEvent (error : AuditEventValidationError)
  | sourceSequenceGap (expected actual : UInt64)
  | replayBeforeRetention (supplied firstRetained : UInt64)
  | overlappingEventMismatch (eventSequence : UInt64)
  deriving DecidableEq

def validateCapacity (maxEvents : ℕ+) : Except CapabilityAuditJournalError Unit :=
  rejectIf ((maxEvents : ℕ) > maxDurableCapabilityAuditEvents)
    (.capacityTooLarge maxEvents maxDurableCapabilityAuditEvents)

def RetryClass.toJson : RetryClass → Json.Value
  | .transient => .string "transient"
  | .rateLimited => .string "rate_limited"

def AuditOutcome.toJson : AuditOutcome → Json.Value
  | .allowed => .string "allowed"
  | .denied => .string "denied"
  | .failed => .string "failed"
  | .cancelled => .string "cancelled"
  | .timedOut => .string "timed_out"
  | .cancellationRequested => .string "cancellation_requested"
  | .retryScheduled => .string "retry_scheduled"
  | .streamed => .string "streamed"
  | .streamDenied => .string "stream_denied"

/-- The retry class is written only where there is one. -/
def AuditEvent.toJson (event : AuditEvent) : Json.Value :=
  .object ([("event_sequence", .nat event.eventSequence.toNat), ("sequence", .nat event.sequence.toNat),
    ("tool", .string event.tool), ("input_bytes", .nat event.inputBytes),
    ("output_bytes", .nat event.outputBytes), ("outcome", event.outcome.toJson)] ++
    match event.retryClass with
    | none => []
    | some retryClass => [("retry_class", retryClass.toJson)])

namespace CapabilityAuditJournal
variable {batch : AuditEventBatch} {j j' : CapabilityAuditJournal}

def toJson (self : CapabilityAuditJournal) : Json.Value :=
  .object [("format_version", .nat self.formatVersion.toNat), ("stream_id", .string self.streamId.value),
    ("segment_start_event_sequence", .nat self.segmentStartEventSequence.toNat),
    ("first_event_sequence", .nat self.firstEventSequence.toNat),
    ("next_event_sequence", .nat self.nextEventSequence.toNat),
    ("dropped_audit_events", .nat self.droppedAuditEvents.toNat),
    ("events", .array (self.events.map AuditEvent.toJson))]

def encodedLen (self : CapabilityAuditJournal) : ℕ := (Json.text self.toJson).utf8ByteSize

def encode (self : CapabilityAuditJournal) : Except CapabilityAuditJournalError String := do
  let encoded := Json.text self.toJson
  rejectIf (encoded.utf8ByteSize > maxDurableCapabilityAuditJournalBytes)
    (.tooLarge encoded.utf8ByteSize maxDurableCapabilityAuditJournalBytes)
  return encoded

def newFromEventSequence (streamId : CapabilityAuditStreamId) (segmentStart : UInt64) :
    CapabilityAuditJournal :=
  ⟨capabilityAuditJournalFormatVersion, streamId, segmentStart, segmentStart, segmentStart, 0, []⟩

def validate (self : CapabilityAuditJournal) (maxEvents : ℕ+) :
    Except CapabilityAuditJournalError Unit := do
  validateCapacity maxEvents
  rejectIf (self.formatVersion ≠ capabilityAuditJournalFormatVersion)
    (.unsupportedFormatVersion self.formatVersion capabilityAuditJournalFormatVersion)
  rejectIf (¬isValidToolName self.streamId.value) (.invalidStreamId .invalid)
  rejectIf (self.segmentStartEventSequence = 0 ∨ self.firstEventSequence = 0 ∨
    self.nextEventSequence = 0) .invalidSequence
  let first ← (self.segmentStartEventSequence.checkedAdd self.droppedAuditEvents).okOr .invalidSequence
  rejectIf (self.firstEventSequence ≠ first) .invalidSequence
  rejectIf (self.events.length > maxEvents) (.tooManyEvents self.events.length maxEvents)
  let expected ← checkEvents .invalidSequence .invalidEvent .invalidSequence
    self.firstEventSequence self.events
  rejectIf (expected ≠ self.nextEventSequence) .invalidSequence
  rejectIf (self.encodedLen > maxDurableCapabilityAuditJournalBytes)
    (.tooLarge self.encodedLen maxDurableCapabilityAuditJournalBytes)

/-- What `validate` accepts. -/
structure Valid (j : CapabilityAuditJournal) (maxEvents : ℕ) : Prop where
  version : j.formatVersion = capabilityAuditJournalFormatVersion
  segmentStart : j.segmentStartEventSequence ≠ 0
  first : j.firstEventSequence.toNat =
    j.segmentStartEventSequence.toNat + j.droppedAuditEvents.toNat
  length : j.events.length ≤ maxEvents
  numbered : Numbered AuditEvent.number j.firstEventSequence.toNat j.events
  events : ∀ event ∈ j.events, event.Valid
  next : j.nextEventSequence.toNat = j.firstEventSequence.toNat + j.events.length
  size : j.encodedLen ≤ maxDurableCapabilityAuditJournalBytes

theorem validate_ok_iff {j : CapabilityAuditJournal} {maxEvents : ℕ+} {u : Unit} :
    j.validate maxEvents = .ok u ↔
      (maxEvents : ℕ) ≤ maxDurableCapabilityAuditEvents ∧ j.Valid maxEvents := by
  simp only [validate, validateCapacity, Except.bind_ok_iff, Except.rejectIf_ok_iff, Option.okOr_ok_iff,
    UInt64.checkedAdd_eq_some_iff, checkEvents_ok_iff, j.streamId.valid, not_true, not_not, not_or,
    not_lt, gt_iff_lt]
  constructor
  · rintro ⟨_, hcap, _, hver, _, _, _, ⟨hseg, _, _⟩, _, hfirst, _, rfl, _, hlen, _,
      ⟨hnum, hevs, hnext⟩, _, rfl, hsize⟩
    exact ⟨hcap, hver, hseg, hfirst, hlen, hnum, hevs, hnext, hsize⟩
  · rintro ⟨hcap, h⟩
    have hseg : j.segmentStartEventSequence.toNat ≠ 0 := by
      simpa [← UInt64.toNat_inj] using h.segmentStart
    have hfirst : j.firstEventSequence ≠ 0 := by
      have := h.first
      intro hzero
      simp [hzero] at this
      omega
    have hnext : j.nextEventSequence ≠ 0 := by
      have := h.first
      have := h.next
      intro hzero
      simp [hzero] at this
      omega
    exact ⟨(), hcap, (), h.version, (), not_false, (), ⟨h.segmentStart, hfirst, hnext⟩, _, h.first, (),
      rfl, (), h.length, _, ⟨h.numbered, h.events, h.next⟩, (), rfl, h.size⟩

/-- Compares the part of a batch that is retained with what is retained. -/
def checkOverlap (self : CapabilityAuditJournal) (batch : AuditEventBatch) :
    Except CapabilityAuditJournalError Unit :=
  let sourceFirst := batch.firstEventSequence.toNat
  let overlapEnd := min batch.nextEventSequence.toNat self.nextEventSequence.toNat
  forM (List.range' sourceFirst (overlapEnd - sourceFirst)) fun eventSequence => do
    let existing ← (self.events[eventSequence - self.firstEventSequence.toNat]?).okOr .invalidSequence
    let incoming ← (batch.events[eventSequence - sourceFirst]?).okOr .invalidSequence
    rejectIf (existing ≠ incoming) (.overlappingEventMismatch (.ofNat eventSequence))

/-- The number of new events, and the journal with them. -/
def appendBatchInner (self : CapabilityAuditJournal) (batch : AuditEventBatch) :
    Except CapabilityAuditJournalError (ℕ × CapabilityAuditJournal) := do
  let sourceFirst := batch.firstEventSequence
  rejectIf (sourceFirst > self.nextEventSequence)
    (.sourceSequenceGap self.nextEventSequence sourceFirst)
  rejectIf (sourceFirst < self.firstEventSequence)
    (.replayBeforeRetention sourceFirst self.firstEventSequence)
  self.checkOverlap batch
  if batch.nextEventSequence ≤ self.nextEventSequence then
    return (0, self)
  else
    let appendFrom := self.nextEventSequence.toNat - sourceFirst.toNat
    rejectIf (appendFrom > batch.events.length) .invalidSequence
    let events := batch.events.drop appendFrom
    return (events.length, { self with
      events := self.events ++ events
      nextEventSequence := batch.nextEventSequence })

def OverLimits (self : CapabilityAuditJournal) (maxEvents : ℕ+) : Prop :=
  self.events.length > maxEvents ∨ self.encodedLen > maxDurableCapabilityAuditJournalBytes

instance (self : CapabilityAuditJournal) (maxEvents : ℕ+) : Decidable (self.OverLimits maxEvents) :=
  inferInstanceAs (Decidable (_ ∨ _))

/-- The loop of `trim_to_limits` on a journal with these events. -/
def trimEvents (maxEvents : ℕ+) :
    CapabilityAuditJournal → List AuditEvent → Except CapabilityAuditJournalError CapabilityAuditJournal
  | self, [] => do
    rejectIf ({ self with events := [] }.OverLimits maxEvents) .invalidSequence
    return { self with events := [] }
  | self, event :: rest => do
    let current := { self with events := event :: rest }
    if current.OverLimits maxEvents then
      rejectIf (rest = []) (.tooLarge current.encodedLen maxDurableCapabilityAuditJournalBytes)
      let first ← self.firstEventSequence.checkedSucc.okOr .invalidSequence
      let dropped ← self.droppedAuditEvents.checkedSucc.okOr .invalidSequence
      trimEvents maxEvents { self with firstEventSequence := first, droppedAuditEvents := dropped } rest
    else
      return current

def trimToLimits (self : CapabilityAuditJournal) (maxEvents : ℕ+) :
    Except CapabilityAuditJournalError CapabilityAuditJournal :=
  trimEvents maxEvents self self.events

def ofBatch {α : Type} (x : Except CapabilityAuditBatchError α) : Except CapabilityAuditJournalError α :=
  x.mapError .invalidBatch

def appendBatch (batch : AuditEventBatch) (maxEvents : ℕ+) :
    Mut CapabilityAuditJournal CapabilityAuditJournalError ℕ := do
  validateCapacity maxEvents
  ofBatch (validateBatch batch)
  rejectIf (batch.events = []) .emptyBatch
  let self ← self
  self.validate maxEvents
  let (appended, candidate) ← self.appendBatchInner batch
  if appended = 0 then
    return 0
  else
    let candidate ← candidate.trimToLimits maxEvents
    candidate.validate maxEvents
    assign candidate
    return appended

/-- The same stream and segment, no further back and no shorter. -/
structure Evolves (j j' : CapabilityAuditJournal) : Prop where
  streamId : j'.streamId = j.streamId
  segmentStart : j'.segmentStartEventSequence = j.segmentStartEventSequence
  first : j.firstEventSequence ≤ j'.firstEventSequence
  next : j.nextEventSequence ≤ j'.nextEventSequence

theorem Evolves.refl (j : CapabilityAuditJournal) : j.Evolves j :=
  ⟨rfl, rfl, UInt64.le_refl _, UInt64.le_refl _⟩

theorem Evolves.trans {j j' j'' : CapabilityAuditJournal} (h : j.Evolves j') (h' : j'.Evolves j'') :
    j.Evolves j'' :=
  ⟨h'.streamId.trans h.streamId, h'.segmentStart.trans h.segmentStart, UInt64.le_trans h.first h'.first,
    UInt64.le_trans h.next h'.next⟩

/-- Trimming drops the oldest events. -/
theorem trimEvents_ok {maxEvents : ℕ+} {events : List AuditEvent}
    (h : trimEvents maxEvents j events = .ok j') :
    j.Evolves j' ∧ j'.nextEventSequence = j.nextEventSequence ∧ ∀ e ∈ j'.events, e ∈ events := by
  induction events generalizing j with
  | nil =>
    simp only [trimEvents, Except.bind_ok_iff, Except.rejectIf_ok_iff] at h
    obtain ⟨_, _, h⟩ := h
    obtain rfl := Except.ok.inj h
    exact ⟨⟨rfl, rfl, UInt64.le_refl _, UInt64.le_refl _⟩, rfl, fun _ he => he⟩
  | cons event rest ih =>
    rw [trimEvents] at h
    split_ifs at h with hover
    · simp only [Except.bind_ok_iff, Except.rejectIf_ok_iff, Option.okOr_ok_iff] at h
      obtain ⟨_, _, first, hfirst, dropped, _, h⟩ := h
      obtain ⟨hev, hnext, hevs⟩ := ih h
      have hle : j.firstEventSequence ≤ first := by
        rw [UInt64.le_iff_toNat_le, UInt64.checkedSucc_eq_some_iff.mp hfirst]
        exact Nat.le_succ _
      exact ⟨⟨hev.streamId, hev.segmentStart, UInt64.le_trans hle hev.first,
        hev.next⟩,
        hnext, fun e he => List.mem_cons_of_mem _ (hevs e he)⟩
    · obtain rfl := Except.ok.inj h
      exact ⟨⟨rfl, rfl, UInt64.le_refl _, UInt64.le_refl _⟩, rfl, fun _ he => he⟩

/-- Either nothing was new, or the journal ends where the batch ends. -/
theorem appendBatchInner_ok {n : ℕ} (h : j.appendBatchInner batch = .ok (n, j')) :
    n = 0 ∧ j' = j ∨ j.nextEventSequence < batch.nextEventSequence ∧ j.Evolves j' ∧
      j'.nextEventSequence = batch.nextEventSequence ∧
      ∀ e ∈ j'.events, e ∈ j.events ∨ e ∈ batch.events := by
  simp only [appendBatchInner, Except.bind_ok_iff, Except.rejectIf_ok_iff] at h
  obtain ⟨_, _, _, _, _, _, h⟩ := h
  split_ifs at h with hnext
  · obtain ⟨rfl, rfl⟩ := Prod.mk.inj (Except.ok.inj h)
    exact .inl ⟨rfl, rfl⟩
  · simp only [Except.bind_ok_iff, Except.rejectIf_ok_iff] at h
    obtain ⟨_, _, h⟩ := h
    obtain ⟨rfl, rfl⟩ := Prod.mk.inj (Except.ok.inj h)
    have hlt := UInt64.not_le.mp hnext
    refine .inr ⟨hlt, ⟨rfl, rfl, UInt64.le_refl _, UInt64.le_of_lt hlt⟩, rfl, fun e he => ?_⟩
    exact (List.mem_append.mp he).imp_right List.mem_of_mem_drop

/-- What a successful append leaves. -/
theorem returns_appendBatch {maxEvents : ℕ+}
    {n : ℕ} (h : (appendBatch batch maxEvents).Returns j n j') :
    (n = 0 ∧ j' = j) ∨ n ≠ 0 ∧ j.nextEventSequence < batch.nextEventSequence ∧ j.Evolves j' ∧
      j'.nextEventSequence = batch.nextEventSequence ∧ j'.Valid maxEvents ∧
      ∀ e ∈ j'.events, e ∈ j.events ∨ e ∈ batch.events := by
  simp only [appendBatch, ofBatch, returns_bind, returns_lift, returns_rejectIf,
    returns_self] at h
  obtain ⟨_, _, ⟨_, rfl⟩, _, _, ⟨_, rfl⟩, _, _, ⟨_, rfl⟩, _, _, ⟨rfl, rfl⟩, _, _, ⟨_, rfl⟩,
    ⟨appended, candidate⟩, _, ⟨hinner, rfl⟩, h⟩ := h
  have happend := appendBatchInner_ok hinner
  split_ifs at h with hzero
  · simp only [returns_pure] at h
    exact .inl ⟨h.1.symm, h.2.symm⟩
  · simp only [returns_bind, returns_lift, returns_assign, returns_pure] at h
    obtain ⟨trimmed, _, ⟨htrim, rfl⟩, _, _, ⟨hvalid, rfl⟩, _, _, rfl, rfl, rfl⟩ := h
    obtain ⟨rfl, _⟩ | ⟨hlt, hev, hnext, hevs⟩ := happend
    · exact absurd rfl hzero
    obtain ⟨htrims, hsame, hsub⟩ := trimEvents_ok htrim
    exact .inr ⟨hzero, hlt, hev.trans htrims, hsame.trans hnext, (validate_ok_iff.mp hvalid).2,
      fun e he => hevs e (hsub e he)⟩

/-- A journal that holds exactly one batch. -/
def holding (streamId : CapabilityAuditStreamId) (batch : AuditEventBatch) : CapabilityAuditJournal :=
  { newFromEventSequence streamId batch.firstEventSequence with
    events := batch.events
    nextEventSequence := batch.nextEventSequence }

theorem valid_holding {streamId : CapabilityAuditStreamId} {maxEvents : ℕ}
    (hbatch : batch.Valid) (hfirst : batch.firstEventSequence ≠ 0)
    (hlen : batch.events.length ≤ maxEvents)
    (hsize : (holding streamId batch).encodedLen ≤ maxDurableCapabilityAuditJournalBytes) :
    (holding streamId batch).Valid maxEvents :=
  ⟨rfl, hfirst, rfl, hlen, hbatch.numbered, hbatch.events, hbatch.next, hsize⟩

/-- A new journal takes the first batch of its segment, if it fits. -/
theorem appendBatch_new {maxEvents : ℕ+} {streamId : CapabilityAuditStreamId}
    (hcap : (maxEvents : ℕ) ≤ maxDurableCapabilityAuditEvents) (hbatch : batch.Valid)
    (hne : batch.events ≠ []) (hlen : batch.events.length ≤ maxEvents)
    (hempty : (newFromEventSequence streamId batch.firstEventSequence).encodedLen ≤
      maxDurableCapabilityAuditJournalBytes)
    (hsize : (holding streamId batch).encodedLen ≤ maxDurableCapabilityAuditJournalBytes) :
    (appendBatch batch maxEvents).Returns (newFromEventSequence streamId batch.firstEventSequence)
      batch.events.length (holding streamId batch) := by
  obtain ⟨event, rest, hevs⟩ := List.exists_cons_of_ne_nil hne
  have hfirst : batch.firstEventSequence ≠ 0 := by
    rw [AuditEventBatch.firstEventSequence, hevs]
    exact (hbatch.events event (by simp [hevs])).eventSequence_ne.1
  have hpos : 0 < batch.events.length := List.length_pos_of_ne_nil hne
  have hend := hbatch.next
  have hcapacity : validateCapacity maxEvents = .ok () := by
    simpa [validateCapacity] using hcap
  have hvalid : (newFromEventSequence streamId batch.firstEventSequence).validate maxEvents = .ok () :=
    validate_ok_iff.mpr ⟨hcap, rfl, hfirst, rfl, Nat.zero_le _, numbered_nil, by simp
      [newFromEventSequence], rfl, hempty⟩
  have hinner : (newFromEventSequence streamId batch.firstEventSequence).appendBatchInner batch =
      .ok (batch.events.length, holding streamId batch) := by
    have hnext : ¬batch.nextEventSequence ≤ batch.firstEventSequence := by
      rw [UInt64.le_iff_toNat_le]
      omega
    have hoverlap : (newFromEventSequence streamId batch.firstEventSequence).checkOverlap batch =
        .ok () := by
      simp [checkOverlap, newFromEventSequence, hend, pure, Except.pure]
    simp only [appendBatchInner, Except.bind_ok_iff, Except.rejectIf_ok_iff]
    refine ⟨(), UInt64.lt_irrefl _, (), UInt64.lt_irrefl _, (), hoverlap, ?_⟩
    rw [newFromEventSequence, if_neg hnext]
    simp [newFromEventSequence, holding, rejectIf, pure, Except.pure, bind, Except.bind]
  have htrim : (holding streamId batch).trimToLimits maxEvents = .ok (holding streamId batch) := by
    have hfits : ¬(holding streamId batch).OverLimits maxEvents :=
      not_or.mpr ⟨not_lt.mpr hlen, not_lt.mpr hsize⟩
    have hsame : { holding streamId batch with events := event :: rest } = holding streamId batch := by
      simp [holding, hevs]
    rw [trimToLimits, show (holding streamId batch).events = event :: rest from hevs, trimEvents,
      hsame, if_neg hfits]
    rfl
  have hfinal : (holding streamId batch).validate maxEvents = .ok () :=
    validate_ok_iff.mpr ⟨hcap, valid_holding hbatch hfirst hlen hsize⟩
  simp only [appendBatch, ofBatch, returns_bind, returns_lift, returns_rejectIf,
    returns_self, Except.mapError_ok_iff, validateBatch_ok_iff]
  refine ⟨(), _, ⟨hcapacity, rfl⟩, (), _, ⟨hbatch, rfl⟩, (), _, ⟨hne, rfl⟩, _, _, ⟨rfl, rfl⟩, (), _,
    ⟨hvalid, rfl⟩, _, _, ⟨hinner, rfl⟩, ?_⟩
  rw [if_neg hpos.ne']
  simp only [returns_bind, returns_lift, returns_assign, returns_pure]
  exact ⟨_, _, ⟨htrim, rfl⟩, (), _, ⟨hfinal, rfl⟩, (), _, rfl, trivial, rfl⟩

/-- Appending a batch that is still retained changes nothing. -/
theorem appendBatch_of_retained {source : ℕ → AuditEvent} {maxEvents : ℕ+}
    {j : CapabilityAuditJournal} (hj : ∀ e ∈ j.events, e = source e.number)
    (hb : ∀ e ∈ batch.events, e = source e.number) (hvalid : j.validate maxEvents = .ok ())
    (hbatch : batch.Valid) (hne : batch.events ≠ [])
    (hfirst : j.firstEventSequence ≤ batch.firstEventSequence)
    (hnext : batch.nextEventSequence ≤ j.nextEventSequence) :
    (appendBatch batch maxEvents).Returns j 0 j := by
  obtain ⟨hcap, hv⟩ := validate_ok_iff.mp hvalid
  have hcapacity : validateCapacity maxEvents = .ok () := by
    simpa [validateCapacity] using hcap
  have hlo := UInt64.le_iff_toNat_le.mp hfirst
  have hhi := UInt64.le_iff_toNat_le.mp hnext
  have hend := hbatch.next
  have hoverlap : j.checkOverlap batch = .ok () := by
    rw [checkOverlap, Except.forM_ok_iff]
    intro k hk
    obtain ⟨hk, hlt⟩ := List.mem_range'_1.mp hk
    have hold := hv.numbered.getElem?_sub hj (hlo.trans hk) (by rw [← hv.next]; omega)
    have hnew := hbatch.numbered.getElem?_sub hb hk (by omega)
    simp [hold, hnew]
  have hinner : j.appendBatchInner batch = .ok (0, j) := by
    simp only [appendBatchInner, Except.bind_ok_iff, Except.rejectIf_ok_iff]
    refine ⟨(), ?_, (), ?_, (), hoverlap, ?_⟩
    · rw [gt_iff_lt, UInt64.lt_iff_toNat_lt]
      omega
    · rw [UInt64.lt_iff_toNat_lt]
      omega
    · rw [if_pos hnext]
      rfl
  simp only [appendBatch, ofBatch, returns_bind, returns_lift, returns_rejectIf,
    returns_self, Except.mapError_ok_iff, validateBatch_ok_iff]
  exact ⟨(), j, ⟨hcapacity, rfl⟩, (), j, ⟨hbatch, rfl⟩, (), j, ⟨hne, rfl⟩, j, j, ⟨rfl, rfl⟩, (), j,
    ⟨hvalid, rfl⟩, (0, j), j, ⟨hinner, rfl⟩, rfl⟩

end CapabilityAuditJournal

end Octoscript
