import Octoscript.Capabilities.Guarantees

namespace Octoscript
open Effectful

namespace CapabilityHost
variable {k k₁ k' : CapabilityHost} {id : ExternalToolId} {ticket : ToolTicket}
  {fresh : Option (ExternalToolId × ToolTicket)}

/-- There is a deferred call with this identifier and this ticket. -/
def Holds (k : CapabilityHost) (id : ExternalToolId) (ticket : ToolTicket) : Prop :=
  ∃ (handle : ScriptHandle) (entry : PendingTool),
    k.pending[handle]? = some entry ∧ entry.id = id ∧ entry.ticket = ticket

/-- The deferred calls were there before, but for at most one, whose identifier is new. -/
structure Extends (k : CapabilityHost) (fresh : Option (ExternalToolId × ToolTicket))
    (k' : CapabilityHost) : Prop where
  next : k.nextPendingId ≤ k'.nextPendingId
  new : ∀ call ∈ fresh, k.nextPendingId < call.1.value ∧ call.1.value ≤ k'.nextPendingId
  holds : ∀ id ticket, k'.Holds id ticket → k.Holds id ticket ∨ (id, ticket) ∈ fresh

/-- No call is added. -/
theorem Extends.of_holds (hnext : k.nextPendingId ≤ k'.nextPendingId)
    (h : ∀ id ticket, k'.Holds id ticket → k.Holds id ticket) : k.Extends none k' :=
  ⟨hnext, by simp, fun id ticket hholds => .inl (h id ticket hholds)⟩

theorem Extends.of_eq (hpending : k'.pending = k.pending)
    (hnext : k'.nextPendingId = k.nextPendingId) : k.Extends none k' :=
  .of_holds (UInt64.le_of_eq hnext.symm) fun id ticket h => by
    unfold Holds at h ⊢
    rwa [hpending] at h

theorem Extends.trans (h : k.Extends none k₁) (h' : k₁.Extends none k') : k.Extends none k' := by
  apply Extends.of_holds (UInt64.le_trans h.next h'.next)
  intro id ticket hholds
  have hholds : k₁.Holds id ticket := by simpa using h'.holds id ticket hholds
  simpa using h.holds id ticket hholds

/-- An entry that is put into the table. -/
theorem holds_insert {handle : ScriptHandle} {entry : PendingTool}
    (h : Holds { k with pending := k.pending.insert handle entry } id ticket) :
    k.Holds id ticket ∨ id = entry.id ∧ ticket = entry.ticket := by
  obtain ⟨handle', entry', hentry, hid, hticket⟩ := h
  simp only [Std.ExtTreeMap.getElem?_insert] at hentry
  split at hentry
  · cases hentry
    exact .inr ⟨hid.symm, hticket.symm⟩
  · exact .inl ⟨handle', entry', hentry, hid, hticket⟩

/-- Part of a call that starts none. -/
def startsNone : Guarantee HostOp HostOp.Answer CapabilityHost where
  rel k _ k' := k.Extends none k'
  refl _ := .of_eq rfl rfl
  trans := Extends.trans

theorem lt_succ_nextPendingId (h : k.nextPendingId ≠ .maxValue) :
    k.nextPendingId < k.nextPendingId + 1 := by
  have hroom : k.nextPendingId.toNat ≠ UInt64.maxValue.toNat := fun heq =>
    h (UInt64.toNat_inj.mp heq)
  have hmax : UInt64.maxValue.toNat = 2 ^ 64 - 1 := by decide
  have hbound := k.nextPendingId.toNat_lt
  rw [UInt64.lt_iff_toNat_lt, UInt64.toNat_add]
  have hone : (1 : UInt64).toNat = 1 := rfl
  omega

instance : Minds startsNone where
  said _ _ _ := .of_eq rfl rfl
  sequence := .of_eq rfl rfl
  identifier h := .of_holds (UInt64.le_of_lt (lt_succ_nextPendingId h)) fun _ _ hholds => hholds
  update {k handle entry entry'} hentry hid hticket := by
    refine .of_holds (UInt64.le_refl _) fun id ticket hholds => ?_
    rcases holds_insert hholds with hholds | ⟨rfl, rfl⟩
    · exact hholds
    · exact ⟨handle, entry, hentry, hid.symm, hticket.symm⟩
  drop {k handle} := by
    refine .of_holds (UInt64.le_refl _) fun id ticket hholds => ?_
    obtain ⟨handle', entry, hentry, hholds⟩ := hholds
    simp only [Std.ExtTreeMap.getElem?_erase] at hentry
    split at hentry
    · cases hentry
    · exact ⟨handle', entry, hentry, hholds⟩

instance : Admits startsNone where
  activeLease := .of_eq rfl rfl
  material := .of_eq rfl rfl
  redactor _ := .of_eq rfl rfl
  lease _ := .of_eq rfl rfl

theorem startsNone_of_issues {t : List (Said HostOp HostOp.Answer)} (h : Issues k t ticket k') :
    startsNone.rel k t k' :=
  .of_eq h.pending h.nextPendingId

/-- No two deferred calls share an identifier that was given out. -/
structure Distinct (k : CapabilityHost) : Prop where
  given : ∀ id ticket, k.Holds id ticket → id.value ≤ k.nextPendingId
  unique : ∀ id ticket ticket', k.Holds id ticket → k.Holds id ticket' → ticket = ticket'

/-- The identifier was given out, and to no other ticket. -/
structure Belongs (k : CapabilityHost) (id : ExternalToolId) (ticket : ToolTicket) : Prop where
  given : id.value ≤ k.nextPendingId
  only : ∀ ticket', k.Holds id ticket' → ticket' = ticket

theorem distinct_new (sessionId : UInt64) (sessionNonce : Option String)
    (limits : CapabilityCatalogLimits) : (new sessionId sessionNonce limits).Distinct := by
  have hnone : ∀ id ticket, ¬(new sessionId sessionNonce limits).Holds id ticket := by
    rintro id ticket ⟨handle, entry, hentry, -⟩
    simp [new] at hentry
  exact ⟨fun id ticket h => absurd h (hnone id ticket),
    fun id ticket _ h => absurd h (hnone id ticket)⟩

theorem Distinct.belongs (hk : k.Distinct) (h : k.Holds id ticket) : k.Belongs id ticket :=
  ⟨hk.given id ticket h, fun ticket' h' => hk.unique id ticket' ticket h' h⟩

theorem Belongs.extends (hk : k.Belongs id ticket) (h : k.Extends fresh k') :
    k'.Belongs id ticket := by
  refine ⟨UInt64.le_trans hk.given h.next, fun ticket' hholds => ?_⟩
  rcases h.holds id ticket' hholds with hholds | hnew
  · exact hk.only ticket' hholds
  · exact absurd hk.given (UInt64.not_le.mpr (h.new _ hnew).1)

theorem Distinct.extends (hk : k.Distinct) (h : k.Extends fresh k') : k'.Distinct := by
  constructor
  · intro id ticket hholds
    rcases h.holds id ticket hholds with hholds | hnew
    · exact UInt64.le_trans (hk.given id ticket hholds) h.next
    · exact (h.new _ hnew).2
  · intro id ticket ticket' hholds hholds'
    rcases h.holds id ticket hholds with hold | hnew
    · exact (((hk.belongs hold).extends h).only ticket' hholds').symm
    · rcases h.holds id ticket' hholds' with hold | hnew'
      · exact ((hk.belongs hold).extends h).only ticket hholds
      · exact (Prod.mk.inj (Option.mem_unique hnew hnew')).2

section
variable [Blake3] {t : List (Said HostOp HostOp.Answer)} {name input : String}

theorem not_ok_of_refuseDeferred {α : Type} {inputBytes : ℕ} {error : ToolError} {a : α}
    (h : (refuseDeferred name inputBytes error).Says k t (.ok a) k') : False := by
  rw [refuseDeferred, says_takeSequence_bind, says_bind] at h
  rcases h with ⟨_, _, hr⟩ | ⟨_, _, _, _, _, _, h⟩
  · cases hr
  · cases (says_fail.mp h).2.1

theorem says_allocatePendingId {inputBytes : ℕ}
    (h : (allocatePendingId name inputBytes).Says k t (.ok id) k') :
    k.nextPendingId < id.value ∧ id.value = k'.nextPendingId := by
  rw [allocatePendingId, says_self_bind] at h
  by_cases hfull : k.nextPendingId = .maxValue
  · rw [if_pos hfull] at h
    exact (not_ok_of_refuseDeferred h).elim
  · rw [if_neg hfull, says_assign_bind] at h
    obtain ⟨_, hid, rfl⟩ := says_pure.mp h
    cases hid
    exact ⟨lt_succ_nextPendingId hfull, rfl⟩

/-- The identifier of a new call is new. -/
theorem says_beginAsync [JsonReader] {maxPending : ℕ} {expectedFormat : Option ToolDataFormat}
    {key : String} (h : (beginAsync name input maxPending expectedFormat).Says k t
      (.ok (ticket, id, key)) k') :
    k.nextPendingId < id.value ∧ id.value ≤ k'.nextPendingId := by
  rw [beginAsync, says_self_bind] at h
  by_cases hfull : k.pending.size ≥ maxPending
  · rw [if_pos hfull] at h
    exact (not_ok_of_refuseDeferred h).elim
  · rw [if_neg hfull] at h
    rcases says_bind.mp h with ⟨_, _, hr⟩ | ⟨_, k₁, _, _, _, hallocate, h⟩
    · cases hr
    rcases says_bind.mp h with ⟨_, _, hr⟩ | ⟨_, k₂, _, _, _, hreserve, h⟩
    · cases hr
    rw [says_self_bind] at h
    obtain ⟨_, hr, rfl⟩ := says_pure.mp h
    cases hr
    obtain ⟨hnew, hgiven⟩ := says_allocatePendingId hallocate
    have hreserve := obeys_reserve startsNone_of_issues hreserve
    exact ⟨hnew, hgiven ▸ hreserve.next⟩

end

theorem says_insertPending {ε : Type} {t : List (Said HostOp HostOp.Answer)}
    {handle : ScriptHandle} {key : String} {r : Except ε Unit}
    (h : (insertPending handle id ticket key : Call ε Unit).Says k t r k')
    (hk : k₁.Extends none k) (hnew : k₁.nextPendingId < id.value)
    (hgiven : id.value ≤ k.nextPendingId) : k₁.Extends (some (id, ticket)) k' := by
  simp only [insertPending, says_self_bind, says_perform_bind, says_assign] at h
  obtain ⟨_, _, _, _, _, rfl⟩ := h
  refine ⟨hk.next, ?_, fun id' ticket' hholds => ?_⟩
  · rintro _ ⟨⟩
    exact ⟨hnew, hgiven⟩
  · rcases holds_insert hholds with hholds | ⟨rfl, rfl⟩
    · exact .inl (by simpa using hk.holds id' ticket' hholds)
    · exact .inr rfl

end CapabilityHost

namespace CapabilityRuntime
open CapabilityHost
variable [JsonReader] [Blake3] {k₀ k k' : CapabilityRuntime} {t : List (Said HostOp HostOp.Answer)}

/-- `tool.start`: the call is numbered and reserved, then its record is made. -/
theorem runAction_start_extends {thread : ScriptThreadId} {name input : String}
    {expectedFormat : Option ToolDataFormat} {r : Except RuntimeCallError RuntimeReply}
    (h : (runAction thread (.start name input expectedFormat)).Says k t r k') :
    ∃ fresh, k.host.Extends fresh k'.host := by
  rw [runAction, says_self_bind] at h
  rcases says_bind.mp h with ⟨_, hbegin, _⟩ | ⟨⟨ticket, id, key⟩, k₁, _, _, _, hbegin, h⟩
  · exact ⟨none, obeys_onHost (obeys_beginAsync startsNone_of_issues) hbegin⟩
  have hstart : k.host.Extends none k₁.host :=
    obeys_onHost (obeys_beginAsync startsNone_of_issues) hbegin
  obtain ⟨r', host, hhost, hr, rfl⟩ := says_onHost hbegin
  obtain rfl := Except.mapError_ok_iff.mp hr.symm
  obtain ⟨hnew, hgiven⟩ := says_beginAsync hhost
  obtain ⟨_, hpromise, _⟩ := says_bind_pure.mp h
  rw [newToolPromise, says_self_bind, says_assign_bind] at hpromise
  obtain ⟨_, honHost, _⟩ := says_bind_pure.mp hpromise
  obtain ⟨_, _, hinsert, _, rfl⟩ := says_onHost honHost
  exact ⟨_, says_insertPending hinsert hstart hnew hgiven⟩

/-- A call of a runtime starts at most one deferred call. -/
theorem serve_extends {call : RuntimeCall} {r : Except RuntimeCallError RuntimeReply}
    (h : (serve call).Says k t r k') : ∃ fresh, k.host.Extends fresh k'.host := by
  rcases serve_cases h with ⟨thread, action, h⟩ | ⟨_, _, h⟩ | ⟨_, rfl⟩ | h
  · cases action with
    | call name input expectedFormat =>
      exact ⟨none, obeys_bind_pure (obeys_onHost (obeys_call startsNone_of_issues)) h⟩
    | start name input expectedFormat => exact runAction_start_extends h
    | await handle => exact ⟨none, obeys_bind_pure (obeys_onHost (G := startsNone) minds_awaitPromise) h⟩
  · exact ⟨none, obeys_bind_pure (obeys_finish (G := startsNone)) h⟩
  · exact ⟨none, .of_eq rfl rfl⟩
  · by_cases hcall : ∃ policy metadata inputValidator outputValidator dispatch,
        call = .register policy metadata inputValidator outputValidator dispatch
    · obtain ⟨_, _, _, _, _, rfl⟩ := hcall
      obtain ⟨_, hhost | ⟨_, _, _, _, hhost⟩⟩ := says_serveHost_register h
      · exact ⟨none, .of_eq (by rw [hhost]) (by rw [hhost])⟩
      · exact ⟨none, .of_eq (by rw [hhost]) (by rw [hhost])⟩
    · exact ⟨none, obeys_serveHost (G := startsNone)
        (fun _ _ _ _ _ heq => hcall ⟨_, _, _, _, _, heq⟩) h⟩

theorem distinct_of_conversation {sessionId : UInt64} {sessionNonce : Option String}
    {limits : CapabilityCatalogLimits} {promiseType : UInt8} {maxPendingTools : ℕ}
    {h : List (Exchange RuntimeCall HostOp HostOp.Answer (Except RuntimeCallError RuntimeReply))}
    (hc : Conversation serve
      (new (CapabilityHost.new sessionId sessionNonce limits) promiseType maxPendingTools) h k) :
    k.host.Distinct := by
  refine hc.invariant (I := fun _ k => k.host.Distinct) (distinct_new _ _ _) ?_
  intro _ _ _ _ _ _ hdistinct hsays
  obtain ⟨fresh, hextends⟩ := serve_extends hsays
  exact hdistinct.extends hextends

theorem belongs_of_conversation {id : ExternalToolId} {ticket : ToolTicket}
    {h : List (Exchange RuntimeCall HostOp HostOp.Answer (Except RuntimeCallError RuntimeReply))}
    (hc : Conversation serve k₀ h k) (hstart : k₀.host.Belongs id ticket) :
    k.host.Belongs id ticket := by
  refine hc.invariant (I := fun _ k => k.host.Belongs id ticket) hstart ?_
  intro _ _ _ _ _ _ hbelongs hsays
  obtain ⟨fresh, hextends⟩ := serve_extends hsays
  exact hbelongs.extends hextends

/-- The identifier of a deferred call is that call's for the rest of the session: whatever scripts
and the host do, no other call has it, also after the first one is completed and collected. -/
theorem deferred_identifier_unique {sessionId : UInt64} {sessionNonce : Option String}
    {limits : CapabilityCatalogLimits} {promiseType : UInt8} {maxPendingTools : ℕ}
    {h h' : List (Exchange RuntimeCall HostOp HostOp.Answer (Except RuntimeCallError RuntimeReply))}
    (hc : Conversation serve
      (new (CapabilityHost.new sessionId sessionNonce limits) promiseType maxPendingTools) h k)
    {id : ExternalToolId} {ticket ticket' : ToolTicket} (hheld : k.host.Holds id ticket)
    (hc' : Conversation serve k h' k') (hheld' : k'.host.Holds id ticket') : ticket' = ticket :=
  have hbelongs := (distinct_of_conversation hc).belongs hheld
  (belongs_of_conversation hc' hbelongs).only ticket' hheld'

omit [JsonReader] [Blake3] in
/-- A script starts an external call. -/
theorem deferred_identifier_unique_of_start : ∃ (_ : JsonReader) (_ : Blake3)
    (k : CapabilityRuntime) (id : ExternalToolId) (ticket : ToolTicket), k.host.Holds id ticket ∧
      ∀ h' k' ticket', Conversation serve k h' k' → k'.host.Holds id ticket' →
        ticket' = ticket := by
  let digest : Digest := ⟨List.replicate 32 0, rfl⟩
  let _ : Blake3 := ⟨fun _ => digest, fun _ _ => digest⟩
  let _ : JsonReader := ⟨fun _ => none⟩
  let answer (op : HostOp) : op.Answer := by
    cases op with
    | now => exact 0
    | authorize => exact .ok ()
    | handle => exact .ok ""
    | redact _ chunk => exact chunk
    | evaluate => exact some ⟨1⟩
    | resume => exact true
    | note => exact ()
  let calls : List RuntimeCall := [.script (.start "mail" "hello" none), .eval,
    .register ⟨"mail", 1, 1, 16, 16, none, none, .text⟩ ⟨"", none, none⟩ none none .external]
  let k₀ : CapabilityRuntime := new (.new 1 (some "session") ⟨8, 4096⟩) 0 4
  let k := (Conversation.play serve answer k₀ calls).2
  have hsome : (k.host.pending[(⟨0, 1, 0⟩ : ScriptHandle)]?).isSome = true := by decide +kernel
  obtain ⟨entry, hentry⟩ := Option.isSome_iff_exists.mp hsome
  have hheld : k.host.Holds entry.id entry.ticket := ⟨_, entry, hentry, rfl, rfl⟩
  exact ⟨_, _, k, _, _, hheld, fun _ _ _ hc' =>
    deferred_identifier_unique (.of_play answer calls) hheld hc'⟩

end CapabilityRuntime

end Octoscript
