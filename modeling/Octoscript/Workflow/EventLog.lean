import Octoscript.Lib.Machine
import Octoscript.Lib.Mutation

namespace Octoscript

open List

structure WorkflowEventRecord (Event : Type) where
  sequence : UInt64
  event : Event

structure WorkflowEventBatch (Event : Type) where
  records : List (WorkflowEventRecord Event)
  nextSequence : UInt64

inductive WorkflowEventCursorError
  | invalidCursor
  | evicted (requested earliestAvailable : UInt64)
  | ahead (requested nextAvailable : UInt64)
  deriving DecidableEq

/-- The event fields of a workflow engine. -/
structure EventLog (Event : Type) where
  events : List Event
  maxEvents : ℕ+
  (droppedEvents firstEventSequence nextEventSequence : UInt64)

namespace EventLog
variable {Event : Type}

def new (maxEvents : ℕ+) : EventLog Event := ⟨[], maxEvents, 0, 1, 1⟩

/-- Evicts the oldest event of a full view. -/
def evict (self : EventLog Event) : EventLog Event :=
  if self.events.length = self.maxEvents then
    { self with
      events := self.events.tail
      droppedEvents := self.droppedEvents.saturatingSucc
      firstEventSequence := self.firstEventSequence.saturatingSucc }
  else self

/-- The largest number is a cursor only: there an event is dropped. -/
def recordEvent (event : Event) (self : EventLog Event) : EventLog Event :=
  if self.nextEventSequence = .maxValue then
    { self with droppedEvents := self.droppedEvents.saturatingSucc }
  else
    { self.evict with
      events := self.evict.events ++ [event]
      nextEventSequence := self.nextEventSequence.saturatingSucc }

def clearEvents (self : EventLog Event) : EventLog Event :=
  { self with events := [], droppedEvents := 0, firstEventSequence := self.nextEventSequence }

def eventsSince (self : EventLog Event) (nextSequence : UInt64) :
    Except WorkflowEventCursorError (WorkflowEventBatch Event) := do
  rejectIf (nextSequence = 0) .invalidCursor
  rejectIf (nextSequence < self.firstEventSequence)
    (.evicted nextSequence self.firstEventSequence)
  rejectIf (nextSequence > self.nextEventSequence) (.ahead nextSequence self.nextEventSequence)
  let skipped := (nextSequence - self.firstEventSequence).toNat
  return {
    records := (self.events.drop skipped).mapIdx fun offset event =>
      ⟨nextSequence.saturatingAdd offset, event⟩
    nextSequence := self.nextEventSequence }

/-- The events that got a number. -/
def numbered (recorded : List Event) : List Event := recorded.take (2 ^ 64 - 2)

/-- The log is the end of what was recorded, from its first number on. -/
structure Holds (recorded : List Event) (log : EventLog Event) : Prop where
  next : log.nextEventSequence.toNat = (numbered recorded).length + 1
  positive : 1 ≤ log.firstEventSequence.toNat
  first : log.firstEventSequence.toNat ≤ log.nextEventSequence.toNat
  events : log.events = (numbered recorded).drop (log.firstEventSequence.toNat - 1)
  bound : log.events.length ≤ log.maxEvents

variable {recorded : List Event} {log : EventLog Event}

theorem holds_new (maxEvents : ℕ+) : Holds [] (new maxEvents : EventLog Event) where
  next := rfl
  positive := le_rfl
  first := le_rfl
  events := rfl
  bound := Nat.zero_le _

/-- The retained numbers are contiguous. -/
theorem Holds.length (h : Holds recorded log) :
    log.firstEventSequence.toNat + log.events.length = log.nextEventSequence.toNat := by
  have hnext := h.next
  have hpos := h.positive
  have hfirst := h.first
  rw [h.events, length_drop]
  omega

theorem toNat_ne_max {n : UInt64} (h : n ≠ .maxValue) : n.toNat + 1 < 2 ^ 64 := by
  have hlt := n.toNat_lt
  have hne : n.toNat ≠ (UInt64.maxValue).toNat := fun heq => h (UInt64.toNat_inj.mp heq)
  have hmax : (UInt64.maxValue).toNat = 2 ^ 64 - 1 := rfl
  omega

theorem toNat_saturatingSucc_of_ne {n : UInt64} (h : n ≠ .maxValue) :
    n.saturatingSucc.toNat = n.toNat + 1 := by
  have hlt := toNat_ne_max h
  rw [UInt64.saturatingSucc, if_pos hlt, UInt64.toNat_succ hlt]

theorem Holds.evict (h : Holds recorded log) (hnext : log.nextEventSequence ≠ .maxValue) :
    Holds recorded log.evict ∧ log.evict.events.length < log.evict.maxEvents := by
  unfold EventLog.evict
  have hlen := h.length
  split_ifs with hfull
  · have hpos := log.maxEvents.pos
    have hroom := toNat_ne_max hnext
    have hne : log.firstEventSequence ≠ .maxValue := by
      rintro heq
      have hmax : (UInt64.maxValue).toNat = 2 ^ 64 - 1 := rfl
      rw [heq] at hlen
      omega
    have hsucc := toNat_saturatingSucc_of_ne hne
    refine ⟨⟨h.next, ?_, ?_, ?_, ?_⟩, ?_⟩
    · rw [hsucc]
      omega
    · rw [hsucc]
      change _ ≤ log.nextEventSequence.toNat
      omega
    · have hpositive := h.positive
      change log.events.tail = _
      rw [hsucc, h.events, tail_drop]
      congr 1
      omega
    · change log.events.tail.length ≤ log.maxEvents
      rw [length_tail]
      omega
    · change log.events.tail.length < log.maxEvents
      rw [length_tail]
      omega
  · have hbound := h.bound
    exact ⟨h, by omega⟩

theorem Holds.recordEvent (h : Holds recorded log) (event : Event) :
    Holds (recorded ++ [event]) (log.recordEvent event) := by
  have hnext := h.next
  unfold EventLog.recordEvent
  split_ifs with hmax
  · -- All numbers are used up, so the event gets none.
    have hall : numbered (recorded ++ [event]) = numbered recorded := by
      have hvalue : (UInt64.maxValue).toNat = 2 ^ 64 - 1 := rfl
      have hsize : (numbered recorded).length = min (2 ^ 64 - 2) recorded.length := length_take
      rw [hmax, hvalue] at hnext
      exact take_append_of_le_length (by omega)
    exact ⟨by rw [hall]; exact h.next, h.positive, h.first, by rw [hall]; exact h.events, h.bound⟩
  · obtain ⟨hevict, hroom⟩ := h.evict hmax
    have hlt := toNat_ne_max hmax
    have hshort : numbered (recorded ++ [event]) = numbered recorded ++ [event] := by
      have hsize : (numbered recorded).length = min (2 ^ 64 - 2) recorded.length := length_take
      have hall : numbered recorded = recorded := take_of_length_le (by omega)
      rw [hall]
      exact take_of_length_le (by simp; omega)
    have hfirst := hevict.first
    have hsame : log.evict.nextEventSequence = log.nextEventSequence := by
      unfold EventLog.evict
      split_ifs <;> rfl
    have hsucc := toNat_saturatingSucc_of_ne hmax
    refine ⟨?_, hevict.positive, ?_, ?_, ?_⟩
    · change log.nextEventSequence.saturatingSucc.toNat = _
      rw [hsucc, hnext, hshort, length_append, length_singleton]
    · change log.evict.firstEventSequence.toNat ≤ log.nextEventSequence.saturatingSucc.toNat
      rw [hsame] at hfirst
      omega
    · change log.evict.events ++ [event] =
        (numbered (recorded ++ [event])).drop (log.evict.firstEventSequence.toNat - 1)
      have hnumber := hevict.next
      have hpos := hevict.positive
      rw [hshort, hevict.events, drop_append_of_le_length (by omega)]
    · change (log.evict.events ++ [event]).length ≤ log.evict.maxEvents
      rw [length_append, length_singleton]
      omega

theorem Holds.clearEvents (h : Holds recorded log) : Holds recorded log.clearEvents := by
  have hnext := h.next
  refine ⟨h.next, ?_, le_rfl, ?_, Nat.zero_le _⟩
  · change 1 ≤ log.nextEventSequence.toNat
    omega
  · change [] = _
    rw [EventLog.clearEvents, hnext, Nat.add_sub_cancel, drop_length]

/-- A read returns what was numbered from the cursor on, and the next cursor. -/
theorem Holds.eventsSince (h : Holds recorded log) {cursor : UInt64}
    {batch : WorkflowEventBatch Event} (hread : log.eventsSince cursor = .ok batch) :
    1 ≤ cursor.toNat ∧ cursor.toNat ≤ log.nextEventSequence.toNat ∧
    batch.nextSequence = log.nextEventSequence ∧
    batch.records.map (·.event) = (numbered recorded).drop (cursor.toNat - 1) ∧
    ∀ (i : ℕ) r, batch.records[i]? = some r → r.sequence.toNat = cursor.toNat + i := by
  simp only [EventLog.eventsSince, Except.bind_ok_iff, Except.rejectIf_ok_iff, gt_iff_lt,
    UInt64.lt_iff_toNat_lt, not_lt] at hread
  obtain ⟨_, hzero, _, hfirst, _, hnext, hread⟩ := hread
  obtain rfl := Except.ok.inj hread
  have hpos := h.positive
  have hcount := h.next
  have hlen := h.length
  have hbound := log.nextEventSequence.toNat_lt
  have hskipped : (cursor - log.firstEventSequence).toNat =
      cursor.toNat - log.firstEventSequence.toNat :=
    UInt64.toNat_sub_of_le _ _ (UInt64.le_iff_toNat_le.mpr hfirst)
  refine ⟨by omega, hnext, rfl, ?_, ?_⟩
  · have hdrop : log.events.drop (cursor.toNat - log.firstEventSequence.toNat) =
        (numbered recorded).drop (cursor.toNat - 1) := by
      rw [h.events, drop_drop]
      congr 1
      omega
    rw [hskipped, hdrop]
    exact ext_getElem? fun i => by simp [Function.comp_def]
  · intro i r hr
    simp only [getElem?_mapIdx, Option.map_eq_some_iff, hskipped, getElem?_drop] at hr
    obtain ⟨event, hevent, rfl⟩ := hr
    have hi := (List.getElem?_eq_some_iff.mp hevent).1
    exact UInt64.toNat_saturatingAdd (by omega)

/-- A log, what was recorded in it, and a follower with its cursor and what it read. -/
structure Followed (Event : Type) where
  log : EventLog Event
  recorded : List Event
  cursor : UInt64
  joined : List Event
  failed : Option WorkflowEventCursorError

inductive Followed.Step : Followed Event → Followed Event → Prop
  | record (s : Followed Event) (event : Event) :
    Step s { s with log := s.log.recordEvent event, recorded := s.recorded ++ [event] }
  | clear (s : Followed Event) : Step s { s with log := s.log.clearEvents }
  | read {s : Followed Event} {batch : WorkflowEventBatch Event}
      (h : s.log.eventsSince s.cursor = .ok batch) :
    Step s { s with
      cursor := batch.nextSequence, joined := s.joined ++ batch.records.map (·.event) }
  | fail {s : Followed Event} {error : WorkflowEventCursorError}
      (h : s.log.eventsSince s.cursor = .error error) : Step s { s with failed := some error }

def Followed.start (maxEvents : ℕ+) (cursor : UInt64) : Followed Event :=
  ⟨.new maxEvents, [], cursor, [], none⟩

/-- As long as no read fails, the follower has what was numbered from its first cursor up
to its present one. -/
structure Followed.Inv (start : UInt64) (s : Followed Event) : Prop where
  log : Holds s.recorded s.log
  nonzero : start ≠ 0 → s.cursor ≠ 0
  cursor : s.failed = none → start.toNat ≤ s.cursor.toNat ∧
    (s.cursor = start ∨ s.cursor.toNat ≤ s.log.nextEventSequence.toNat)
  joined : s.failed = none →
    s.joined = ((numbered s.recorded).take (s.cursor.toNat - 1)).drop (start.toNat - 1)

/-- What was numbered before a cursor does not change later. -/
theorem take_numbered_append {recorded new : List Event} {j k : ℕ}
    (h : k = j ∨ k ≤ (numbered recorded).length) :
    ((numbered (recorded ++ new)).take k).drop j = ((numbered recorded).take k).drop j := by
  rcases h with rfl | h
  · rw [drop_take_self, drop_take_self]
  · have hstart : numbered (recorded ++ new) =
        numbered recorded ++ new.take (2 ^ 64 - 2 - recorded.length) := take_append
    rw [hstart, take_append_of_le_length h]

namespace Followed
variable {start : UInt64} {s s' : Followed Event}

theorem inv_start (maxEvents : ℕ+) (start : UInt64) :
    Inv start (Followed.start maxEvents start : Followed Event) where
  log := holds_new maxEvents
  nonzero h := h
  cursor _ := ⟨le_rfl, .inl rfl⟩
  joined _ := drop_take_self.symm

/-- What a read adds completes what the follower has. -/
theorem Inv.read (h : Inv start s) (hfail : s.failed = none) {batch : WorkflowEventBatch Event}
    (hread : s.log.eventsSince s.cursor = .ok batch) :
    s.joined ++ batch.records.map (·.event) = (numbered s.recorded).drop (start.toNat - 1) := by
  obtain ⟨hpos, hnext, _, hevs, _⟩ := h.log.eventsSince hread
  obtain ⟨hstart, _⟩ := h.cursor hfail
  have hcount := h.log.next
  have hlen : ((numbered s.recorded).take (s.cursor.toNat - 1)).length = s.cursor.toNat - 1 := by
    rw [length_take]
    omega
  rw [h.joined hfail, hevs, ← drop_append_of_le_length (by omega), take_append_drop]

theorem Inv.step (h : Inv start s) (hstep : Step s s') : Inv start s' := by
  cases hstep with
  | record event =>
    have hlog := h.log.recordEvent event
    refine ⟨hlog, h.nonzero, fun hfail => ?_, fun hfail => ?_⟩
    · obtain ⟨hstart, hcursor⟩ := h.cursor hfail
      refine ⟨hstart, hcursor.imp_right fun hle => hle.trans ?_⟩
      have hgrows : (numbered s.recorded).length ≤ (numbered (s.recorded ++ [event])).length := by
        simp only [numbered, length_take, length_append]
        omega
      rw [h.log.next]
      exact (Nat.succ_le_succ hgrows).trans_eq hlog.next.symm
    · rw [h.joined hfail]
      refine (take_numbered_append ?_).symm
      have hcount := h.log.next
      rcases (h.cursor hfail).2 with heq | hle
      · exact .inl (by rw [heq])
      · exact .inr (by omega)
  | clear => exact ⟨h.log.clearEvents, h.nonzero, h.cursor, h.joined⟩
  | @read batch hread =>
    obtain ⟨hpos, hnext, hcursor, _⟩ := h.log.eventsSince hread
    have hcount := h.log.next
    refine ⟨h.log, fun _ => ?_, fun hfail => ?_, fun hfail => ?_⟩
    · intro hzero
      change batch.nextSequence = 0 at hzero
      rw [← hcursor, hzero] at hcount
      simp at hcount
    · obtain ⟨hstart, _⟩ := h.cursor hfail
      change start.toNat ≤ batch.nextSequence.toNat ∧ (batch.nextSequence = start ∨
        batch.nextSequence.toNat ≤ s.log.nextEventSequence.toNat)
      rw [hcursor]
      exact ⟨hstart.trans hnext, .inr le_rfl⟩
    · change s.joined ++ _ = ((numbered s.recorded).take (batch.nextSequence.toNat - 1)).drop _
      rw [h.read hfail hread, hcursor, hcount, Nat.add_sub_cancel, take_length]
  | fail hread => exact ⟨h.log, h.nonzero, nofun, nofun⟩

theorem Inv.run (h : Inv start s) (hrun : Relation.ReflTransGen Step s s') : Inv start s' := by
  induction hrun with
  | refl => exact h
  | tail _ hstep ih => exact ih.step hstep

theorem eventsSince_error {log : EventLog Event} {cursor : UInt64}
    {error : WorkflowEventCursorError} (hcursor : cursor ≠ 0)
    (h : log.eventsSince cursor = .error error) :
    error = .evicted cursor log.firstEventSequence ∨ error = .ahead cursor log.nextEventSequence := by
  simp only [eventsSince, Except.bind_error_iff, Except.rejectIf_error_iff, hcursor, false_and,
    false_or] at h
  obtain ⟨_, _, ⟨_, rfl⟩ | ⟨_, _, ⟨_, rfl⟩ | ⟨_, _, h⟩⟩⟩ := h
  · exact .inl rfl
  · exact .inr rfl
  · cases h

/-- The log is contiguous and bounded. A follower that no read has failed has exactly the
numbered events from its first cursor on, once each and in order; the next read completes
them. Only an eviction and a cursor ahead of the log make a read fail. -/
theorem follower_exact {maxEvents : ℕ+}
    (h : Relation.ReflTransGen Step (Followed.start maxEvents start) s) :
    (s.log.events = (numbered s.recorded).drop (s.log.firstEventSequence.toNat - 1) ∧
      s.log.firstEventSequence.toNat + s.log.events.length = s.log.nextEventSequence.toNat ∧
      s.log.nextEventSequence.toNat = (numbered s.recorded).length + 1 ∧
      s.log.events.length ≤ s.log.maxEvents) ∧
    (s.failed = none →
      s.joined = ((numbered s.recorded).take (s.cursor.toNat - 1)).drop (start.toNat - 1)) ∧
    (s.failed = none → ∀ batch, s.log.eventsSince s.cursor = .ok batch →
      s.joined ++ batch.records.map (·.event) = (numbered s.recorded).drop (start.toNat - 1) ∧
      ∀ (i : ℕ) r, batch.records[i]? = some r → r.sequence.toNat = s.cursor.toNat + i) ∧
    (start ≠ 0 → ∀ error, s.log.eventsSince s.cursor = .error error →
      error = .evicted s.cursor s.log.firstEventSequence ∨
      error = .ahead s.cursor s.log.nextEventSequence) := by
  have hinv := (inv_start maxEvents start).run h
  refine ⟨⟨hinv.log.events, hinv.log.length, hinv.log.next, hinv.log.bound⟩, hinv.joined, ?_, ?_⟩
  · intro hfail batch hread
    obtain ⟨_, _, _, _, hseq⟩ := hinv.log.eventsSince hread
    exact ⟨hinv.read hfail hread, hseq⟩
  · intro hstart error
    exact eventsSince_error (hinv.nonzero hstart)

/-- A follower that reads after every event of a log with room for one. -/
theorem rounds (n : ℕ) : ∃ s : Followed Unit,
    Relation.ReflTransGen Step (Followed.start 1 1) s ∧ s.failed = none ∧
      s.recorded = replicate n () ∧ s.cursor = s.log.nextEventSequence ∧
      s.log.maxEvents = 1 := by
  induction n with
  | zero => exact ⟨Followed.start 1 1, .refl, rfl, rfl, rfl, rfl⟩
  | succ n ih =>
    obtain ⟨s, hreach, hfail, hrecorded, hcursor, hmax⟩ := ih
    have hrec := hreach.tail (.record s ())
    have hinv := (inv_start 1 1).run hreach
    have hlog := hinv.log.recordEvent ()
    have hnz := hinv.nonzero (by decide)
    have hone : (s.log.recordEvent ()).maxEvents = 1 := by
      rw [← hmax, recordEvent, evict]
      split_ifs <;> rfl
    have hlen := hlog.length
    have hbound := hlog.bound
    rw [hone, PNat.one_coe] at hbound
    -- The view holds one event at most, so the cursor is not evicted.
    have hahead : s.log.nextEventSequence.toNat ≤ (s.log.recordEvent ()).nextEventSequence.toNat ∧
        (s.log.recordEvent ()).firstEventSequence.toNat ≤ s.log.nextEventSequence.toNat := by
      rw [recordEvent] at hlen hbound ⊢
      split_ifs at hlen hbound ⊢ with hlast
      · exact ⟨le_rfl, hinv.log.first⟩
      · have hsucc := toNat_saturatingSucc_of_ne hlast
        simp only [length_append, length_singleton] at hlen hbound
        constructor
        · change _ ≤ s.log.nextEventSequence.saturatingSucc.toNat
          omega
        · change s.log.evict.firstEventSequence.toNat ≤ _
          change s.log.evict.firstEventSequence.toNat + _ =
            s.log.nextEventSequence.saturatingSucc.toNat at hlen
          omega
    have hread : ∃ batch, (s.log.recordEvent ()).eventsSince s.cursor = .ok batch := by
      rw [hcursor] at hnz ⊢
      simp only [eventsSince, Except.bind_ok_iff, Except.rejectIf_ok_iff, gt_iff_lt,
        UInt64.lt_iff_toNat_lt, not_lt]
      exact ⟨_, (), hnz, (), hahead.2, (), hahead.1, rfl⟩
    obtain ⟨batch, hread⟩ := hread
    refine ⟨_, hrec.tail (.read hread), hfail, ?_, (hlog.eventsSince hread).2.2.1, hone⟩
    rw [replicate_succ', ← hrecorded]

theorem follower_exact_of_rounds :
    ∃ s : Followed Unit, s.recorded = [(), (), ()] ∧
      s.joined = ((numbered s.recorded).take (s.cursor.toNat - 1)).drop 0 := by
  obtain ⟨s, hreach, hfail, hrecorded, _⟩ := rounds 3
  exact ⟨s, hrecorded, (follower_exact hreach).2.1 hfail⟩

/-- At the largest number an event is lost although no read fails. -/
theorem lost_at_max : ∃ s : Followed Unit,
    Relation.ReflTransGen Step (Followed.start 1 1) s ∧ s.failed = none ∧
      s.cursor = s.log.nextEventSequence ∧ s.joined ≠ s.recorded := by
  obtain ⟨s, hreach, hfail, hrecorded, hcursor, _⟩ := rounds (2 ^ 64 - 1)
  refine ⟨s, hreach, hfail, hcursor, fun heq => ?_⟩
  have hinv := (inv_start 1 1).run hreach
  have hjoined := congrArg length (hinv.joined hfail)
  have hrecordedLength := congrArg length hrecorded
  rw [heq] at hjoined
  simp only [numbered, length_drop, length_take, length_replicate] at hjoined hrecordedLength
  omega

end Followed

end EventLog

end Octoscript
