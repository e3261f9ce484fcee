import Octoscript.Ui.Atomic
import Octoscript.Ui.Scoping
import Octoscript.Ui.Shapes

namespace Octoscript.Ui

open List Option Realizer Unfolding

variable {scope : ValueScope}

/-- What the injected data hold under the keys of a path is what the scope has for it: the status of
a source, a copy, or what the frame that binds its root holds along the rest. A path whose root no
frame binds leads into the data, if it has no index by another path. -/
def ValueScope.Mirrored (scope : ValueScope) (path : Path) : Prop :=
  match path.statusOwner with
  | some source => dataPath scope.data path = some (.string (scope.lookupStatus source))
  | none =>
    match path with
    | [] => False
    | root :: rest =>
      if root = "copy" then dataPath scope.data (root :: rest) = rest.head?.bind scope.lookupCopy
      else
        match scope.frames.find? fun frame => frame.name = root with
        | some frame => dataPath scope.data (root :: rest) = rest.foldlM scope.descend frame.value
        | none => (parseUsize root = none ∧ ∀ segment ∈ rest, indexSegment segment = none) ∨
            dataPath scope.data (root :: rest) =
              (getKey scope.data root).bind fun value => rest.foldlM scope.descend value

theorem ValueScope.foldlM_descend_of_not_index {segments : List String}
    (h : ∀ segment ∈ segments, indexSegment segment = none) (value : Json.Value) :
    segments.foldlM scope.descend value = segments.foldlM getSegment value := by
  induction segments generalizing value with
  | nil => rfl
  | cons segment segments ih =>
    have hseg : scope.descend value segment = getSegment value segment := by
      rw [descend, h segment mem_cons_self]
    rw [foldlM_cons, foldlM_cons, hseg]
    congr 1
    funext inner
    exact ih (fun segment hmem => h segment (mem_cons_of_mem _ hmem)) inner

theorem ValueScope.lookup_eq_dataPath_iff {path : Path} :
    scope.lookup path = dataPath scope.data path ↔ scope.Mirrored path := by
  unfold lookup Mirrored
  cases path.statusOwner with
  | some source => exact eq_comm
  | none =>
    cases path with
    | nil => simp [dataPath]
    | cons root rest =>
      dsimp only
      by_cases hcopy : root = "copy"
      · rw [if_pos hcopy, if_pos hcopy]
        exact eq_comm
      · rw [if_neg hcopy, if_neg hcopy, lookupName]
        cases scope.frames.find? fun frame => frame.name = root with
        | some frame => exact eq_comm
        | none =>
          refine ⟨fun h => .inr h.symm, ?_⟩
          rintro (⟨hname, hplain⟩ | h)
          · rw [dataPath, foldlM_cons, getSegment, hname]
            dsimp only
            congr 1
            funext value
            exact foldlM_descend_of_not_index hplain value
          · exact h.symm

/-- The state is read by its name: it is one segment, not the word for copies, and no other
declaration has it. -/
structure ReadByName (states : List StateDecl) (state : StateDecl) : Prop where
  mem : state ∈ states
  name : ∃ name, state.path = [name] ∧ name ≠ "copy"
  once : ∀ other ∈ states, other.path.text = state.path.text → other = state

theorem ReadByName.lookup {states : List StateDecl} {state : StateDecl}
    (h : ReadByName states state) (scope : ValueScope) :
    scope.lookup state.path = scope.lookupName state.path.text := by
  obtain ⟨name, hpath, hne⟩ := h.name
  have htext : Path.text [name] = name := by simp [Path.text]
  rw [hpath, htext]
  exact ValueScope.lookup_singleton hne

section
variable [F64Ops]

/-- What a state holds if its cell reads `stored`. -/
def resolvedValue (stored initial : Option Json.Value) (state : StateDecl) : Json.Value :=
  (stored.or initial).getD (initialFor state.shape)

theorem cardStates_cons (store : InstanceStore) (data : Json.Value) (state : StateDecl)
    (states : List StateDecl) :
    (cardStates (some store) data (state :: states)).1 =
      (cardStates (some store) data states).1 ++ [⟨state.path.text,
        resolvedValue ((store.get cardStateKey state.path).or (getKey data state.path.text))
          (declaredInitial state data) state, none⟩] := by
  conv_lhs => unfold cardStates
  unfold declaredInitial resolvedValue
  rw [Option.bind_some, ← Option.or_assoc]
  dsimp only
  cases ((store.get cardStateKey state.path).or (getKey data state.path.text)).or state.initial with
  | some value => rfl
  | none =>
    cases state.initialPath.bind (dataPath data) with
    | some value => rfl
    | none => rfl

/-- A card's state is realized as its cell, its seed or its initial. -/
theorem find?_cardStates (store : InstanceStore) (data : Json.Value) {states : List StateDecl}
    {state : StateDecl} (hmem : state ∈ states)
    (honce : ∀ other ∈ states, other.path.text = state.path.text → other = state) :
    ((cardStates (some store) data states).1.find? fun frame =>
      frame.name = state.path.text).map Frame.value =
      some (resolvedValue ((store.get cardStateKey state.path).or (getKey data state.path.text))
        (declaredInitial state data) state) := by
  induction states with
  | nil => exact absurd hmem not_mem_nil
  | cons first states ih =>
    rw [cardStates_cons, find?_append]
    by_cases hlater : ∃ other ∈ states, other.path.text = state.path.text
    · obtain ⟨other, hother, htext⟩ := hlater
      obtain rfl := honce other (mem_cons_of_mem _ hother) htext
      have hfound := ih hother fun s hs => honce s (mem_cons_of_mem _ hs)
      obtain ⟨frame, hframe, hvalue⟩ := map_eq_some_iff.mp hfound
      rw [hframe]
      simpa using hvalue
    · have hnone : (cardStates (some store) data states).1.find? (fun frame =>
          frame.name = state.path.text) = none := by
        rw [find?_eq_none]
        intro frame hframe hname
        have hname' : frame.name ∈ (cardStates (some store) data states).1.map Frame.name :=
          mem_map_of_mem hframe
        rw [names_cardStates, List.mem_reverse, List.mem_map] at hname'
        obtain ⟨other, hother, htext⟩ := hname'
        exact hlater ⟨other, hother, htext.trans (by simpa using hname)⟩
      have hfirst : state = first :=
        (mem_cons.mp hmem).resolve_right fun h => hlater ⟨state, h, rfl⟩
      subst hfirst
      rw [hnone]
      simp

theorem Realizer.bindStates_append [Unicode] (self : Realizer) (component : Component)
    (key : String) (before after : List StateDecl) (scope : ValueScope) :
    self.bindStates component key (before ++ after) scope =
      self.bindStates component key after (self.bindStates component key before scope) := by
  induction before generalizing scope with
  | nil => rfl
  | cons state before ih => exact ih _

/-- A state of an instance is realized as its cell or its initial, which is read where the states
before it are bound. -/
theorem lookupName_bindStates_self [Unicode] (self : Realizer) (component : Component)
    (key : String) {before after : List StateDecl} {state : StateDecl} {scope : ValueScope}
    (hafter : state.path.text ∉ after.map fun other => other.path.text) :
    (self.bindStates component key (before ++ state :: after) scope).lookupName state.path.text =
      some (resolvedValue (self.liveCell component key state) (state.initial.or
        (state.initialPath.bind (self.bindStates component key before scope).lookup)) state) := by
  rw [bindStates_append]
  change (self.bindStates component key after (ValueScope.push _ _)).lookupName _ = _
  rw [lookupName_bindStates hafter, resolvedValue, ← Option.or_assoc]
  exact ValueScope.lookupName_push_self

/-- Two initials of a state show the same exactly if no cell and no literal initial stands before
them, or they give the same. -/
theorem resolvedValue_eq_iff {stored : Option Json.Value} {state : StateDecl}
    {read read' : Path → Option Json.Value} :
    resolvedValue stored (state.initial.or (state.initialPath.bind read)) state =
        resolvedValue stored (state.initial.or (state.initialPath.bind read')) state ↔
      (stored = none → state.initial = none → ∀ path ∈ state.initialPath,
        (read path).getD (initialFor state.shape) =
          (read' path).getD (initialFor state.shape)) := by
  unfold resolvedValue
  cases stored <;> cases state.initial <;> cases state.initialPath <;> simp

/-- The schemas that the store recorded are those of the card. -/
def InstanceStore.Matches [Unicode] (store : InstanceStore) (card : Card) : Prop :=
  ∀ component ∈ card.components, ∀ known ∈ store.schemas[component.name]?,
    known = schemaId component

section
variable [Unicode] {card : Card} {data : Json.Value} {store : InstanceStore}

omit [F64Ops] in
theorem liveCell_of_matches (hstore : store.Matches card) {limits : RealizeLimits} {stack : ℕ}
    {component : Component} (hmem : component ∈ card.components) (key : String)
    (state : StateDecl) :
    liveCell ⟨card, limits, some store, stack⟩ component key state =
      store.get key state.path := by
  unfold liveCell
  rw [bind_some]
  cases hknown : store.schemas[component.name]? with
  | none => simp
  | some known =>
    obtain rfl := hstore component hmem known hknown
    simp

omit [F64Ops] in
theorem get_reconcile_of_matches (hstore : store.Matches card) {routed : Routed}
    (hmem : ∀ component ∈ routed.component, component ∈ card.components) (key : String)
    (field : Path) : (routed.reconcile store).get key field = store.get key field := by
  unfold Routed.reconcile
  cases hcomp : routed.component with
  | none => rfl
  | some component =>
    dsimp only
    unfold InstanceStore.reconcileSchema
    cases hknown : store.schemas[component.name]? with
    | none => rfl
    | some known =>
      rw [hstore component (hmem component hcomp) known hknown]
      simp

omit [Unicode] in
/-- Where the batch has not written the state, dispatch finds the cell, the seed of a card's state
or the initial. -/
theorem currentValue_of_unwritten {key : String} {state : StateDecl} {staged : List StagedWrite}
    (hnone : (staged.reverse.find? fun write => write.target.text = state.path.text) = none) :
    currentValue store key data state staged =
      resolvedValue ((store.get key state.path).or
        (if key = cardStateKey then getKey data state.path.text else none))
        (declaredInitial state data) state := by
  unfold currentValue resolvedValue
  rw [hnone]
  rfl

end

/-- Where an event's declaration stands, in a walk from a start: the scope in which its states are
bound and the one in which its names are realized. -/
inductive Realizer.Declares [Unicode] (self : Realizer) (start : Spot) :
    Routed → ValueScope → ValueScope → Prop
  | card {routed : Routed} (hcomponent : routed.component = none) :
      Declares self start routed start.scope start.scope
  | live {routed : Routed} {spot : Spot} {component : Component}
      (hspot : spot ∈ visits self.nexts self.limits.maxDepth start)
      (hcalled : self.called spot = some component) (hcomponent : routed.component = some component)
      (hkey : routed.key = spot.key ++ "/" ++ component.name) :
      Declares self start routed (bindProps spot.element component.params spot.scope)
        (self.bodyScope component spot.element routed.key spot.scope)

/-- Dispatch steps from what is shown: the batch wrote just that before; or the state is the card's,
its cell is stored, its initial is literal, or the path of its initial gives the same in the scope
of the states before it as in the data. -/
structure Settled [Unicode] (realizer : Realizer) (routed : Routed) (store : InstanceStore)
    (base scope : ValueScope) (before : List StateDecl) (state : StateDecl)
    (staged : List StagedWrite) : Prop where
  written : ∀ write ∈ staged.reverse.find? fun write => write.target.text = state.path.text,
    scope.lookup state.path = some write.value
  initial : (staged.reverse.find? fun write => write.target.text = state.path.text) = none →
    ∀ component ∈ routed.component, store.get routed.key state.path = none →
    state.initial = none → ∀ path ∈ state.initialPath,
      ((realizer.bindStates component routed.key before base).lookup path).getD
        (initialFor state.shape) = (dataPath base.data path).getD (initialFor state.shape)

section
variable [Unicode] {self : Realizer} {card : Card} {data : Json.Value} {store : InstanceStore}
  {limits : RealizeLimits} {stack : ℕ} {start : Spot} {routed : Routed}
  {base scope : ValueScope}

theorem Realizer.Declares.scope_data (h : self.Declares start routed base scope) :
    scope.data = start.scope.data ∧ base.data = start.scope.data := by
  cases h with
  | card _ => exact ⟨rfl, rfl⟩
  | @live spot component hspot _ _ _ =>
    -- every scope of a walk is over the data that were injected
    have hdata : spot.scope.data = start.scope.data :=
      visits_induction (P := fun c : Spot => c.scope.data = start.scope.data)
        (fun _ ha _ hb => (grows_of_mem_nexts hb).data.trans ha) rfl _ spot hspot
    exact ⟨(grows_bodyScope _ _ _ _ _).data.trans hdata, (grows_bindProps _ _ _).data.trans hdata⟩

/-- In the scope of its declaration a state is bound to what dispatch resolves it to exactly if the
path of its initial gives the same. -/
theorem Realizer.Declares.lookupName_state_iff (hstore : store.Matches card) {key event : String}
    (hroute : route card key event = some routed)
    {slots : Slots} {element : Element} {rootKey : String}
    (h : Declares ⟨card, limits, some store, stack⟩
      ⟨slots, card.valueScope (some store) data, element, rootKey⟩ routed base scope)
    {before after : List StateDecl} {state : StateDecl}
    (hstates : routed.states = before ++ state :: after)
    (hafter : state.path.text ∉ after.map fun other => other.path.text)
    (hname : ReadByName routed.states state) :
    scope.lookupName state.path.text =
        some (resolvedValue (((routed.reconcile store).get routed.key state.path).or
          (if routed.key = cardStateKey then getKey data state.path.text else none))
          (declaredInitial state data) state) ↔
      ∀ component ∈ routed.component, store.get routed.key state.path = none →
        state.initial = none → ∀ path ∈ state.initialPath,
          ((bindStates ⟨card, limits, some store, stack⟩ component routed.key before base).lookup
            path).getD (initialFor state.shape) =
          (dataPath base.data path).getD (initialFor state.shape) := by
  have hmem : ∀ component ∈ routed.component, component ∈ card.components := by
    intro component hcomp
    rcases route_cases hroute with ⟨hnone, _⟩ | ⟨owner, howner, hsome, _⟩
    · rw [hnone] at hcomp
      cases hcomp
    · rw [hsome] at hcomp
      exact some.inj hcomp ▸ howner
  rw [get_reconcile_of_matches hstore hmem, h.scope_data.2]
  cases h with
  | card hcomp =>
    rcases route_cases hroute with ⟨_, hcard, hkey⟩ | ⟨owner, _, hsome, _⟩
    · rw [hcard] at hname
      rw [hkey, if_pos rfl, hcomp]
      have hfound := find?_cardStates store data hname.mem hname.once
      obtain ⟨frame, hframe, hvalue⟩ := map_eq_some_iff.mp hfound
      unfold ValueScope.lookupName Card.valueScope
      rw [hframe]
      exact iff_of_true (congrArg some hvalue) nofun
    · rw [hcomp] at hsome
      cases hsome
  | @live spot component _ _ hcomp hkey =>
    rcases route_cases hroute with ⟨hnone, _⟩ | ⟨owner, _, hsome, hown⟩
    · rw [hcomp] at hnone
      cases hnone
    · obtain rfl : component = owner := some.inj (hcomp.symm.trans hsome)
      -- the key of an instance ends in the name of its component
      have hne : routed.key ≠ cardStateKey := by
        intro heq
        have hslash : '/' ∈ (spot.key ++ "/" ++ component.name).toList := by simp
        rw [← hkey, heq] at hslash
        exact absurd hslash (by decide)
      rw [bodyScope, ← hown, hstates, lookupName_bindStates_self _ _ _ hafter,
        liveCell_of_matches hstore (hmem component hcomp), if_neg hne, or_none, hcomp]
      simp only [Option.some.injEq, declaredInitial, resolvedValue_eq_iff, Option.mem_def,
        forall_eq']
      rfl

end

end

/-- A lamp that starts as a path tells. -/
def lamp (start : Path) : Component where
  name := "Lamp"
  params := [⟨"on", .bool, none⟩]
  states := [⟨["lit"], .bool, none, some start, false⟩]
  events := [⟨"flip", [⟨["lit"], .toggle, []⟩]⟩, ⟨"restore", [⟨["lit"], .set (.path ["on"]), []⟩]⟩]
  body := .call "Chip" [⟨"active", .path ["lit"]⟩, ⟨"on_tap", .path ["flip"]⟩] []

def lampCard (start : Path) : Card where
  sources := [⟨["here"], "sys.gps", []⟩]
  states := []
  events := []
  copies := []
  components := [lamp start]
  views := [⟨"root", .call "Lamp" [⟨"on", .path ["here", "ok"]⟩] []⟩]

def litData : Json.Value := .object [("here", .object [("ok", .bool true)])]

/-- The tap on a lamp whose initial reads the data. -/
def litRouted : Routed where
  declared := ⟨"flip", [⟨["lit"], .toggle, []⟩]⟩
  states := (lamp ["here", "ok"]).states
  key := "root/Lamp"
  component := some (lamp ["here", "ok"])

end Octoscript.Ui
