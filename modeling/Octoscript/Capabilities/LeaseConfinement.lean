import Octoscript.Capabilities.Guarantees

namespace Octoscript
open Effectful CapabilityLeaseState Std.ExtTreeMap

/-- The tickets that were issued for a tool. -/
def issuedFor (name : String) (tickets : List (Option ℕ × ToolTicket)) : ℕ :=
  tickets.countP fun issued => issued.2.name = name

/-- The tickets that were issued for a tool while a lease was active. -/
def issuedUnder (lease : ℕ) (name : String) (tickets : List (Option ℕ × ToolTicket)) : ℕ :=
  tickets.countP fun issued => issued.1 = some lease ∧ issued.2.name = name

theorem issuedFor_append (name : String) (l l' : List (Option ℕ × ToolTicket)) :
    issuedFor name (l ++ l') = issuedFor name l + issuedFor name l' :=
  List.countP_append

theorem issuedUnder_append (lease : ℕ) (name : String) (l l' : List (Option ℕ × ToolTicket)) :
    issuedUnder lease name (l ++ l') = issuedUnder lease name l + issuedUnder lease name l' :=
  List.countP_append

namespace CapabilityLeaseState

/-- One more call. -/
def charge (self : CapabilityLeaseState) (name : String) : CapabilityLeaseState :=
  { self with calls := self.calls.insert name (self.callsOf name + 1) }

theorem callsOf_charge (self : CapabilityLeaseState) (name name' : String) :
    (self.charge name).callsOf name' =
      if name = name' then self.callsOf name + 1 else self.callsOf name' := by
  simp [charge, callsOf, getD_insert]

end CapabilityLeaseState

namespace CapabilityHost
variable {ε α : Type} {k k' : CapabilityHost} {t : List (Said HostOp HostOp.Answer)}
  {ticket : ToolTicket}

/-- The calls that are counted with a tool, and how many its policy allows. -/
def toolCalls (self : CapabilityHost) (name : String) : ℕ :=
  (self.tools[name]?.map RegisteredTool.calls).getD 0

def toolLimit (self : CapabilityHost) (name : String) : ℕ :=
  (self.tools[name]?.map fun registered => registered.policy.maxCalls).getD 0

/-- The calls that a lease grants for a tool. -/
def granted (self : CapabilityHost) (lease : ℕ) (name : String) : ℕ :=
  (self.leaseState lease).grants.getD name 0

def descriptorOf (self : CapabilityHost) (name : String) : Option ToolDescriptor :=
  self.tools[name]?.map RegisteredTool.descriptor

/-- No count passes its limit. -/
structure Within (k : CapabilityHost) : Prop where
  tools : ∀ name, k.toolCalls name ≤ k.toolLimit name
  leases : ∀ lease name, (k.leaseState lease).callsOf name ≤ k.granted lease name

/-- The tickets in the transcript are counted, and no count passes its limit. -/
structure Counted (k : CapabilityHost) (t : List (Said HostOp HostOp.Answer)) (k' : CapabilityHost) :
    Prop where
  toolCalls : ∀ name, k'.toolCalls name = k.toolCalls name + issuedFor name (ticketsIn t)
  leaseCalls : ∀ lease name, (k'.leaseState lease).callsOf name =
    (k.leaseState lease).callsOf name + issuedUnder lease name (ticketsIn t)
  descriptors : ∀ name d, k.descriptorOf name = some d → k'.descriptorOf name = some d
  length : k.leases.length ≤ k'.leases.length
  grants : ∀ lease < k.leases.length, (k'.leaseState lease).grants = (k.leaseState lease).grants
  within : k.Within → k'.Within

def counted : Guarantee HostOp HostOp.Answer CapabilityHost where
  rel := Counted
  refl _ := ⟨fun _ => rfl, fun _ _ => rfl, fun _ _ h => h, le_rfl, fun _ _ => rfl, id⟩
  trans := by
    intro k k₁ k' t t' h h'
    refine ⟨?_, ?_, fun name d hd => h'.descriptors name d (h.descriptors name d hd),
      h.length.trans h'.length, ?_, fun hk => h'.within (h.within hk)⟩
    · intro name
      rw [h'.toolCalls, h.toolCalls, ticketsIn_append, issuedFor_append, Nat.add_assoc]
    · intro lease name
      rw [h'.leaseCalls, h.leaseCalls, ticketsIn_append, issuedUnder_append, Nat.add_assoc]
    · intro lease hlease
      rw [h'.grants lease (hlease.trans_le h.length), h.grants lease hlease]

/-- The catalog stays, and every ticket is issued under the lease that is active. -/
def acting : Guarantee HostOp HostOp.Answer CapabilityHost where
  rel k t k' := k'.toolCatalog = k.toolCatalog ∧ k'.activeLease = k.activeLease ∧
    ∀ issued ∈ ticketsIn t, issued.1 = k.activeLease
  refl _ := ⟨rfl, rfl, by simp⟩
  trans := by
    rintro k k₁ k' t t' ⟨hcatalog, hactive, ht⟩ ⟨hcatalog', hactive', ht'⟩
    refine ⟨hcatalog'.trans hcatalog, hactive'.trans hactive, ?_⟩
    intro issued hissued
    rw [ticketsIn_append, List.mem_append] at hissued
    rcases hissued with h | h
    · exact ht issued h
    · rw [ht' issued h, hactive]

/-- No ticket is issued and the catalog stays. -/
def settled : Guarantee HostOp HostOp.Answer CapabilityHost where
  rel k t k' := ticketsIn t = [] ∧ k'.toolCatalog = k.toolCatalog
  refl _ := ⟨rfl, rfl⟩
  trans := by
    rintro k k₁ k' t t' ⟨ht, hcatalog⟩ ⟨ht', hcatalog'⟩
    exact ⟨by rw [ticketsIn_append, ht, ht']; rfl, hcatalog'.trans hcatalog⟩

/-- What depends on the tools and the leases only. -/
theorem counted_of_eq (ht : ticketsIn t = []) (htools : k'.tools = k.tools)
    (hleases : k'.leases = k.leases) : Counted k t k' := by
  have hstate : ∀ lease, k'.leaseState lease = k.leaseState lease := by
    intro lease
    unfold leaseState
    rw [hleases]
  have hcalls : ∀ name, k'.toolCalls name = k.toolCalls name := by
    intro name
    unfold toolCalls
    rw [htools]
  refine ⟨?_, ?_, ?_, by rw [hleases], fun lease _ => by rw [hstate], ?_⟩
  · intro name
    rw [hcalls, ht]
    rfl
  · intro lease name
    rw [hstate, ht]
    rfl
  · intro name d hd
    unfold descriptorOf at *
    rwa [htools]
  · rintro ⟨hk, hk'⟩
    refine ⟨?_, ?_⟩
    · intro name
      have hlimit : k'.toolLimit name = k.toolLimit name := by unfold toolLimit; rw [htools]
      rw [hcalls, hlimit]
      exact hk name
    · intro lease name
      unfold granted
      rw [hstate]
      exact hk' lease name

theorem counted_of_quiet (h : quiet.rel k t k') : Counted k t k' :=
  counted_of_eq h.1 h.2.1 h.2.2.1

theorem acting_of_quiet (h : quiet.rel k t k') : acting.rel k t k' := by
  obtain ⟨ht, htools, _, hact, _⟩ := h
  refine ⟨?_, hact, by simp [ht]⟩
  unfold toolCatalog
  rw [htools]

instance : Minds acting := .of_quiet acting_of_quiet

theorem toolCatalog_eq_of_descriptorOf (h : ∀ name, k'.descriptorOf name = k.descriptorOf name) :
    k'.toolCatalog = k.toolCatalog := by
  have hmaps : k'.tools.map (fun _ => RegisteredTool.descriptor) =
      k.tools.map (fun _ => RegisteredTool.descriptor) := by
    apply Std.ExtTreeMap.ext_getElem?
    intro name
    rw [Std.ExtTreeMap.getElem?_map, Std.ExtTreeMap.getElem?_map]
    exact h name
  have hlists := congrArg (fun m => (toList m).map Prod.snd) hmaps
  simpa [toList_map, toolCatalog, Function.comp_def] using hlists

theorem getElem?_insert_tools {tools : Std.ExtTreeMap String RegisteredTool} {name name' : String}
    {registered : RegisteredTool} :
    (tools.insert name registered)[name']? = if name = name' then some registered else tools[name']? := by
  rw [Std.ExtTreeMap.getElem?_insert]
  simp only [Std.LawfulEqCmp.compare_eq_iff_eq]

namespace Issues
variable (h : k.Issues t ticket k')
include h

theorem issuedFor_eq (name : String) :
    issuedFor name (ticketsIn t) = if ticket.name = name then 1 else 0 := by
  rw [h.tickets]
  simp [issuedFor, List.countP_cons]

theorem descriptorOf_eq (name : String) : k'.descriptorOf name = k.descriptorOf name := by
  obtain ⟨registered, htool, _, htools⟩ := h.tools
  unfold descriptorOf
  rw [htools, getElem?_insert_tools]
  by_cases hname : ticket.name = name
  · rw [if_pos hname, ← hname, htool]
    rfl
  · rw [if_neg hname]

theorem toolCalls_eq (name : String) :
    k'.toolCalls name = k.toolCalls name + issuedFor name (ticketsIn t) := by
  obtain ⟨registered, htool, _, htools⟩ := h.tools
  rw [h.issuedFor_eq]
  unfold toolCalls
  rw [htools, getElem?_insert_tools]
  by_cases hname : ticket.name = name
  · rw [if_pos hname, if_pos hname, ← hname, htool]
    rfl
  · rw [if_neg hname, if_neg hname]
    rfl

theorem tools_le (hk : k.Within) (name : String) : k'.toolCalls name ≤ k'.toolLimit name := by
  obtain ⟨registered, htool, hcalls, htools⟩ := h.tools
  unfold toolCalls toolLimit
  rw [htools, getElem?_insert_tools]
  by_cases hname : ticket.name = name
  · rw [if_pos hname]
    exact hcalls
  · rw [if_neg hname]
    exact hk.tools name

/-- The state of every lease after the ticket. -/
theorem leaseState_cases (lease : ℕ) :
    (k'.leaseState lease = k.leaseState lease ∧ k.activeLease ≠ some lease) ∨
      (k.activeLease = some lease ∧ lease < k.leases.length ∧
        (∃ maximum, (k.leaseState lease).grants[ticket.name]? = some maximum ∧
          (k.leaseState lease).callsOf ticket.name < maximum) ∧
        k'.leaseState lease = (k.leaseState lease).charge ticket.name) := by
  have hcharged := h.leases
  unfold Charged at hcharged
  cases hact : k.activeLease with
  | none =>
    rw [hact] at hcharged
    exact .inl ⟨by unfold leaseState; rw [hcharged], by simp⟩
  | some active =>
    rw [hact] at hcharged
    obtain ⟨maximum, hmax, hcalls, hleases⟩ := hcharged
    -- A reference that was never given out grants nothing, so this one was.
    have hlen : active < k.leases.length := by
      by_contra hlen
      have hempty : (k.leaseState active).grants = ∅ := by
        unfold leaseState
        rw [List.getD_eq_default _ _ (not_lt.mp hlen)]
      rw [hempty] at hmax
      simp at hmax
    by_cases hlease : active = lease
    · refine .inr ⟨congrArg some hlease, hlease ▸ hlen, hlease ▸ ⟨maximum, hmax, hcalls⟩, ?_⟩
      subst hlease
      have hset : k'.leaseState active = (k.leases.set active _).getD active _ :=
        congrArg (fun leases => List.getD leases active _) hleases
      rw [hset, List.getD_eq_getElem?_getD, List.getElem?_set_self hlen]
      rfl
    · refine .inl ⟨?_, by simpa using hlease⟩
      unfold leaseState
      rw [hleases, List.getD_eq_getElem?_getD, List.getElem?_set_ne hlease,
        ← List.getD_eq_getElem?_getD]

theorem grants_eq (lease : ℕ) : (k'.leaseState lease).grants = (k.leaseState lease).grants := by
  rcases h.leaseState_cases lease with ⟨heq, _⟩ | ⟨_, _, _, heq⟩
  · rw [heq]
  · rw [heq]
    rfl

theorem leaseCalls_eq (lease : ℕ) (name : String) : (k'.leaseState lease).callsOf name =
    (k.leaseState lease).callsOf name + issuedUnder lease name (ticketsIn t) := by
  have hissued : issuedUnder lease name (ticketsIn t) =
      if k.activeLease = some lease ∧ ticket.name = name then 1 else 0 := by
    rw [h.tickets]
    simp [issuedUnder, List.countP_cons]
  rcases h.leaseState_cases lease with ⟨heq, hother⟩ | ⟨hact, _, _, heq⟩
  · rw [heq, hissued, if_neg fun hboth => hother hboth.1]
    rfl
  · rw [heq, hissued, callsOf_charge]
    by_cases hname : ticket.name = name
    · rw [if_pos hname, if_pos ⟨hact, hname⟩, hname]
    · rw [if_neg hname, if_neg fun hboth => hname hboth.2]
      rfl

theorem leases_le (hk : k.Within) (lease : ℕ) (name : String) :
    (k'.leaseState lease).callsOf name ≤ k'.granted lease name := by
  have hgranted : k'.granted lease name = k.granted lease name := by
    unfold granted
    rw [h.grants_eq]
  rw [hgranted]
  rcases h.leaseState_cases lease with ⟨heq, _⟩ | ⟨hact, _, ⟨maximum, hmax, hcalls⟩, heq⟩
  · rw [heq]
    exact hk.leases lease name
  · rw [heq, callsOf_charge]
    by_cases hname : ticket.name = name
    · have hgrant : k.granted lease ticket.name = maximum := by
        simp [granted, getD_eq_getD_getElem?, hmax]
      rw [if_pos hname, ← hname, hgrant]
      exact hcalls
    · rw [if_neg hname]
      exact hk.leases lease name

theorem counted : Counted k t k' where
  toolCalls := h.toolCalls_eq
  leaseCalls := h.leaseCalls_eq
  descriptors name d hd := by rw [h.descriptorOf_eq, hd]
  length := by
    have hcharged := h.leases
    unfold Charged at hcharged
    cases hact : k.activeLease with
    | none =>
      rw [hact] at hcharged
      rw [hcharged]
    | some active =>
      rw [hact] at hcharged
      obtain ⟨_, _, _, hleases⟩ := hcharged
      rw [hleases, List.length_set]
  grants lease _ := h.grants_eq lease
  within hk := ⟨h.tools_le hk, h.leases_le hk⟩

theorem acting : acting.rel k t k' := by
  refine ⟨toolCatalog_eq_of_descriptorOf h.descriptorOf_eq, h.activeLease, ?_⟩
  rw [h.tickets]
  simp

end Issues

/-- A tool that was not there before is registered with no calls. -/
theorem counted_insert_new {name : String} {registered : RegisteredTool} (hnew : name ∉ k.tools)
    (hcalls : registered.calls = 0) :
    Counted k [] { k with tools := k.tools.insert name registered } := by
  have hnone : k.tools[name]? = none := by simpa using hnew
  refine ⟨?_, fun _ _ => rfl, ?_, le_rfl, fun _ _ => rfl, fun hk => ⟨?_, hk.leases⟩⟩
  · intro name'
    unfold toolCalls
    rw [getElem?_insert_tools]
    by_cases hname : name = name'
    · rw [if_pos hname, ← hname, hnone]
      exact hcalls
    · rw [if_neg hname]
      rfl
  · intro name' d hd
    unfold descriptorOf at *
    rw [getElem?_insert_tools]
    by_cases hname : name = name'
    · rw [← hname, hnone] at hd
      cases hd
    · rwa [if_neg hname]
  · intro name'
    unfold toolCalls toolLimit
    rw [getElem?_insert_tools]
    by_cases hname : name = name'
    · rw [if_pos hname]
      change registered.calls ≤ registered.policy.maxCalls
      rw [hcalls]
      exact Nat.zero_le _
    · rw [if_neg hname]
      exact hk.tools name'

section
variable {name : String} {registered registered' : RegisteredTool}
  (htool : k.tools[name]? = some registered)
  (hdesc : registered'.descriptor = registered.descriptor)
include htool hdesc

/-- A tool that keeps its description keeps the catalog. -/
theorem descriptorOf_insert (name' : String) :
    descriptorOf { k with tools := k.tools.insert name registered' } name' = k.descriptorOf name' := by
  unfold descriptorOf
  rw [getElem?_insert_tools]
  by_cases hname : name = name'
  · rw [if_pos hname, ← hname, htool]
    exact congrArg some hdesc
  · rw [if_neg hname]

theorem counted_insert_same (hcalls : registered'.calls = registered.calls) :
    Counted k [] { k with tools := k.tools.insert name registered' } := by
  have htoolCalls : ∀ name', toolCalls { k with tools := k.tools.insert name registered' } name' =
      k.toolCalls name' := by
    intro name'
    unfold toolCalls
    rw [getElem?_insert_tools]
    by_cases hname : name = name'
    · rw [if_pos hname, ← hname, htool]
      exact hcalls
    · rw [if_neg hname]
  refine ⟨htoolCalls, fun _ _ => rfl, ?_, le_rfl, fun _ _ => rfl, fun hk => ⟨?_, hk.leases⟩⟩
  · intro name' d hd
    rwa [descriptorOf_insert htool hdesc]
  · intro name'
    rw [htoolCalls]
    have hlimit : toolLimit { k with tools := k.tools.insert name registered' } name' =
        k.toolLimit name' := by
      unfold toolLimit
      rw [getElem?_insert_tools]
      by_cases hname : name = name'
      · rw [if_pos hname, ← hname, htool]
        exact congrArg ToolDescriptor.maxCalls hdesc
      · rw [if_neg hname]
    rw [hlimit]
    exact hk.tools name'

end

/-- A new lease has no calls yet. -/
theorem counted_append_lease {lease : CapabilityLeaseState} (hcalls : lease.calls = ∅) :
    Counted k [] { k with leases := k.leases ++ [lease] } := by
  have hold : ∀ l < k.leases.length,
      leaseState { k with leases := k.leases ++ [lease] } l = k.leaseState l := by
    intro l hl
    simp only [leaseState, List.getD_eq_getElem?_getD, List.getElem?_append_left hl]
  have hnew : ∀ l name, k.leases.length ≤ l →
      (leaseState { k with leases := k.leases ++ [lease] } l).callsOf name = 0 ∧
        (k.leaseState l).callsOf name = 0 := by
    intro l name hl
    refine ⟨?_, ?_⟩
    · simp only [leaseState, List.getD_eq_getElem?_getD, List.getElem?_append_right hl]
      rcases hindex : [lease][l - k.leases.length]? with _ | found
      · simp [callsOf]
      · have hfound : found = lease := by
          simpa using List.mem_of_getElem? hindex
        simp [hfound, callsOf, hcalls]
    · simp [leaseState, List.getElem?_eq_none hl, callsOf]
  have hcallsOf : ∀ l name, (leaseState { k with leases := k.leases ++ [lease] } l).callsOf name =
      (k.leaseState l).callsOf name := by
    intro l name
    by_cases hl : l < k.leases.length
    · rw [hold l hl]
    · rw [(hnew l name (not_lt.mp hl)).1, (hnew l name (not_lt.mp hl)).2]
  refine ⟨fun _ => rfl, hcallsOf, fun _ _ hd => hd, by simp, fun l hl => by rw [hold l hl],
    fun hk => ⟨hk.tools, ?_⟩⟩
  intro l name
  by_cases hl : l < k.leases.length
  · unfold granted
    rw [hold l hl]
    exact hk.leases l name
  · rw [(hnew l name (not_lt.mp hl)).1]
    exact Nat.zero_le _

instance : Admits counted where
  toMinds := .of_quiet counted_of_quiet
  activeLease := counted_of_eq rfl rfl rfl
  material := counted_of_eq rfl rfl rfl
  redactor htool := counted_insert_same htool rfl rfl
  lease := counted_append_lease

instance : Admits settled where
  toMinds := .of_quiet fun h => ⟨h.1, by unfold toolCatalog; rw [h.2.1]⟩
  activeLease := ⟨rfl, rfl⟩
  material := ⟨rfl, rfl⟩
  redactor htool := ⟨rfl, toolCatalog_eq_of_descriptorOf (descriptorOf_insert htool rfl)⟩
  lease _ := ⟨rfl, rfl⟩

end CapabilityHost

namespace CapabilityRuntime
open CapabilityHost
variable {k k' : CapabilityRuntime} {t : List (Said HostOp HostOp.Answer)}

section
variable [JsonReader] [Blake3]

theorem counted_serve {call : RuntimeCall} : Obeys (hostGuarantee counted) (serve call) k := by
  intro t r k' h
  rcases serve_cases h with ⟨thread, action, h⟩ | ⟨suspended, clearsLease, h⟩ | ⟨rfl, rfl⟩ | h
  · exact obeys_runAction Issues.counted (fun h => counted_of_quiet (quiet_insertPending h)) h
  · exact obeys_bind_pure obeys_finish h
  · exact (hostGuarantee counted).refl _
  · by_cases hreg : ∃ policy metadata inputValidator outputValidator dispatch,
        call = .register policy metadata inputValidator outputValidator dispatch
    · obtain ⟨_, _, _, _, _, rfl⟩ := hreg
      obtain ⟨rfl, hhost | ⟨_, hnew, _, hcalls, hhost⟩⟩ := says_serveHost_register h
      · change Counted k.host [] k'.host
        rw [hhost]
        exact counted.refl _
      · change Counted k.host [] k'.host
        rw [hhost]
        exact counted_insert_new hnew hcalls
    · push Not at hreg
      exact obeys_serveHost hreg h

/-- The tickets of a call are issued under the lease that is active before it, and the catalog
changes only if no lease is active before and after it. -/
theorem catalog_serve {call : RuntimeCall} {r : Except RuntimeCallError RuntimeReply}
    (h : (serve call).Says k t r k') :
    (∀ issued ∈ ticketsIn t, issued.1 = k.host.activeLease) ∧
      (k.host.activeLease.isSome ∨ k'.host.activeLease.isSome →
        k'.host.toolCatalog = k.host.toolCatalog) := by
  have hset : settled.rel k.host t k'.host → (∀ issued ∈ ticketsIn t,
      issued.1 = k.host.activeLease) ∧ (k.host.activeLease.isSome ∨ k'.host.activeLease.isSome →
        k'.host.toolCatalog = k.host.toolCatalog) := by
    rintro ⟨ht, hcat⟩
    exact ⟨by simp [ht], fun _ => hcat⟩
  rcases serve_cases h with ⟨thread, action, h⟩ | ⟨suspended, clearsLease, h⟩ | ⟨rfl, rfl⟩ | h
  · obtain ⟨hcat, _, ht⟩ := obeys_runAction Issues.acting
      (fun h => acting_of_quiet (quiet_insertPending h)) h
    exact ⟨ht, fun _ => hcat⟩
  · exact hset (obeys_bind_pure (obeys_finish (G := settled)) h)
  · exact hset (settled.refl _)
  · by_cases hreg : ∃ policy metadata inputValidator outputValidator dispatch,
        call = .register policy metadata inputValidator outputValidator dispatch
    · obtain ⟨_, _, _, _, _, rfl⟩ := hreg
      obtain ⟨rfl, hhost | ⟨hact, _, _, _, hhost⟩⟩ := says_serveHost_register h
      · exact ⟨by simp, fun _ => by rw [hhost]⟩
      · refine ⟨by simp, fun hlease => ?_⟩
        rw [hhost, hact] at hlease
        simp at hlease
    · push Not at hreg
      exact hset (obeys_serveHost (G := settled) hreg h)

/-- The tickets that were issued in a conversation, in the order of time. -/
def tickets : List (Exchange RuntimeCall HostOp HostOp.Answer (Except RuntimeCallError RuntimeReply)) →
    List (Option ℕ × ToolTicket)
  | [] => []
  | x :: h => tickets h ++ ticketsIn x.said

/-- The counts of a host are the numbers of the tickets, and keep to their limits. -/
structure Tallied (h : List (Exchange RuntimeCall HostOp HostOp.Answer
    (Except RuntimeCallError RuntimeReply))) (k : CapabilityRuntime) : Prop where
  tools : ∀ name, k.host.toolCalls name = issuedFor name (tickets h)
  leases : ∀ lease name,
    (k.host.leaseState lease).callsOf name = issuedUnder lease name (tickets h)
  within : k.host.Within

omit [JsonReader] [Blake3] in
theorem tallied_new {sessionId : UInt64} {sessionNonce : Option String}
    {catalogLimits : CapabilityCatalogLimits} {promiseType : UInt8} {maxPendingTools : ℕ} :
    Tallied []
      (new (CapabilityHost.new sessionId sessionNonce catalogLimits) promiseType maxPendingTools) where
  tools name := by simp [new, CapabilityHost.new, toolCalls, tickets, issuedFor]
  leases lease name := by
    simp [new, CapabilityHost.new, leaseState, callsOf, tickets, issuedUnder]
  within := by
    refine ⟨?_, ?_⟩
    · intro name
      simp [new, CapabilityHost.new, toolCalls]
    · intro lease name
      simp [new, CapabilityHost.new, leaseState, callsOf]

theorem Tallied.next {h : List (Exchange RuntimeCall HostOp HostOp.Answer
    (Except RuntimeCallError RuntimeReply))} {call : RuntimeCall}
    {r : Except RuntimeCallError RuntimeReply} (hk : Tallied h k)
    (hcall : (serve call).Says k t r k') : Tallied (⟨call, t, r⟩ :: h) k' := by
  have hcounted := counted_serve hcall
  refine ⟨?_, ?_, hcounted.within hk.within⟩
  · intro name
    rw [hcounted.toolCalls, hk.tools, tickets, issuedFor_append]
  · intro lease name
    rw [hcounted.leaseCalls, hk.leases, tickets, issuedUnder_append]

/-- In every run of a new runtime, every ticket under a lease is for a tool that it grants; the
tickets under a lease and the tickets of a tool keep to what was granted and to the policy; a
refused reservation changes no count; and the catalog stays while a lease is active. -/
theorem lease_confinement {sessionId : UInt64} {sessionNonce : Option String}
    {catalogLimits : CapabilityCatalogLimits} {promiseType : UInt8} {maxPendingTools : ℕ}
    {h : List (Exchange RuntimeCall HostOp HostOp.Answer (Except RuntimeCallError RuntimeReply))}
    (hc : Conversation serve
      (new (CapabilityHost.new sessionId sessionNonce catalogLimits) promiseType maxPendingTools) h k) :
    (∀ lease ticket, (some lease, ticket) ∈ tickets h →
      ticket.name ∈ (k.host.leaseState lease).grants) ∧
    (∀ lease name, issuedUnder lease name (tickets h) ≤ k.host.granted lease name) ∧
    (∀ lease ticket, (lease, ticket) ∈ tickets h → ticket.name ∈ k.host.tools) ∧
    (∀ name, issuedFor name (tickets h) ≤ k.host.toolLimit name) ∧
    (∀ call t r k', (serve call).Says k t r k' →
      (∀ issued ∈ ticketsIn t, issued.1 = k.host.activeLease) ∧
      (∀ lease < k.host.leases.length,
        (k'.host.leaseState lease).grants = (k.host.leaseState lease).grants) ∧
      (∀ name d, k.host.descriptorOf name = some d → k'.host.descriptorOf name = some d) ∧
      (k.host.activeLease.isSome ∨ k'.host.activeLease.isSome →
        k'.host.toolCatalog = k.host.toolCatalog)) ∧
    (∀ name input expectedFormat kind t error host',
      (reserve name input expectedFormat kind).Says k.host t (.error error) host' →
      ticketsIn t = [] ∧ host'.tools = k.host.tools ∧ host'.leases = k.host.leases) := by
  have htallied : Tallied h k := hc.invariant tallied_new fun _ _ _ _ _ _ hk hsays => hk.next hsays
  have hunder : ∀ lease name, issuedUnder lease name (tickets h) ≤ k.host.granted lease name := by
    intro lease name
    rw [← htallied.leases]
    exact htallied.within.leases lease name
  have hfor : ∀ name, issuedFor name (tickets h) ≤ k.host.toolLimit name := by
    intro name
    rw [← htallied.tools]
    exact htallied.within.tools name
  refine ⟨?_, hunder, ?_, hfor, ?_, ?_⟩
  · intro lease ticket hticket
    have hpos : 0 < issuedUnder lease ticket.name (tickets h) :=
      List.countP_pos_iff.mpr ⟨_, hticket, by simp⟩
    by_contra hgrant
    have hzero : k.host.granted lease ticket.name = 0 := by
      simp [granted, getD_eq_fallback hgrant]
    have := hunder lease ticket.name
    omega
  · intro lease ticket hticket
    have hpos : 0 < issuedFor ticket.name (tickets h) :=
      List.countP_pos_iff.mpr ⟨_, hticket, by simp⟩
    by_contra htool
    have hzero : k.host.toolLimit ticket.name = 0 := by
      simp [toolLimit, htool]
    have := hfor ticket.name
    omega
  · intro call t r k' hsays
    obtain ⟨htickets, hcat⟩ := catalog_serve hsays
    have hcounted := counted_serve hsays
    exact ⟨htickets, hcounted.grants, hcounted.descriptors, hcat⟩
  · intro name input expectedFormat kind t error host' hsays
    rcases says_reserve (G := quiet) hsays with ⟨_, _, ht, htools, hleases, _⟩ | ⟨_, hok, _⟩
    · exact ⟨ht, htools, hleases⟩
    · cases hok

end

def echoPolicy : ToolPolicy := ⟨"echo", 2, 1, 16, 16, none, none, .text⟩

def echoAnswer : (op : HostOp) → op.Answer
  | .now => 0
  | .authorize .. => .ok ()
  | .handle request => .ok request.input
  | .redact _ chunk => chunk
  | .evaluate => some ⟨1⟩
  | .resume _ => true
  | .note _ => ()

def echoCalls : List RuntimeCall :=
  [.script (.call "echo" "b" none), .script (.call "echo" "a" none), .evalWithCapabilityLease 0,
    .issueCapabilityLease [⟨"echo", 1⟩] false,
    .register echoPolicy ⟨"", none, none⟩ none none .hostPump]

def echoRuntime : CapabilityRuntime := new (CapabilityHost.new 1 none ⟨8, 4096⟩) 0 4

theorem lease_confinement_echo : ∃ (_ : JsonReader) (_ : Blake3), ∃ h k,
    Conversation serve echoRuntime h k ∧ tickets h ≠ [] ∧
      ∀ name, issuedUnder 0 name (tickets h) ≤ k.host.granted 0 name := by
  let reader : JsonReader := ⟨fun _ => none⟩
  let blake : Blake3 := ⟨fun _ => ⟨List.replicate 32 0, rfl⟩, fun _ _ => ⟨List.replicate 32 0, rfl⟩⟩
  have hc : Conversation serve echoRuntime (Conversation.play serve echoAnswer echoRuntime echoCalls).1
      (Conversation.play serve echoAnswer echoRuntime echoCalls).2 :=
    .of_play echoAnswer echoCalls
  refine ⟨reader, blake, _, _, hc, ?_, (lease_confinement hc).2.1 0⟩
  decide +kernel

end CapabilityRuntime

end Octoscript
