import Octoscript.Ui.Atomic

namespace Octoscript.Ui

open List Option

namespace Card

def allStates (card : Card) : List StateDecl :=
  card.states ++ card.components.flatMap Component.states

def allEvents (card : Card) : List EventDecl :=
  card.events ++ card.components.flatMap Component.events

/-- The declarations whose cells lie under a key: the card's own, or those of a component whose
name the key ends in. -/
def ScopeAt (card : Card) (key : String) (states : List StateDecl) (events : List EventDecl) :
    Prop :=
  (key = cardStateKey ∧ states = card.states ∧ events = card.events) ∨
    ∃ component ∈ card.components, '/' :: component.name.toList <:+ key.toList ∧
      states = component.states ∧ events = component.events

/-- The value fits the shape of the state that has its cell here, the first that is declared under
its path. -/
def CellFits (card : Card) (key : String) (field : Path) (value : Json.Value) : Prop :=
  ∃ states events, card.ScopeAt key states events ∧
    ∃ state, (states.find? fun other => other.path = state.path) = some state ∧
      state.path.text = field.text ∧ valueFitsShape state.shape value = true

/-- What the data holds for an initial fits the state it is the initial of. -/
def InitialsFit (card : Card) (data : Json.Value) : Prop :=
  ∀ state ∈ card.allStates, state.initial = none →
    ∀ value ∈ state.initialPath.bind (dataPath data), valueFitsShape state.shape value = true

def FiniteLiterals [F64Ops] (card : Card) : Prop :=
  ∀ event ∈ card.allEvents, ∀ transition ∈ event.transitions, ∀ n,
    transition.form = .set (.num n) → F64Ops.isFinite n = true

variable {card : Card} {key : String} {states : List StateDecl} {events : List EventDecl}

theorem ScopeAt.mem_allStates (h : card.ScopeAt key states events) {state : StateDecl}
    (hstate : state ∈ states) : state ∈ card.allStates := by
  obtain ⟨-, rfl, -⟩ | ⟨component, hcomp, -, rfl, -⟩ := h
  · exact mem_append_left _ hstate
  · exact mem_append_right _ (mem_flatMap.mpr ⟨component, hcomp, hstate⟩)

theorem ScopeAt.mem_allEvents (h : card.ScopeAt key states events) {event : EventDecl}
    (hevent : event ∈ events) : event ∈ card.allEvents := by
  obtain ⟨-, -, rfl⟩ | ⟨component, hcomp, -, -, rfl⟩ := h
  · exact mem_append_left _ hevent
  · exact mem_append_right _ (mem_flatMap.mpr ⟨component, hcomp, hevent⟩)

section
variable [F64Ops]

theorem Accepted.transitions (h : card.Accepted) : validateTransitions card = [] := by
  unfold Accepted validate at h
  simp only [append_eq_nil_iff] at h
  exact h.1.1.1.2

theorem Accepted.initial_fits (h : card.Accepted) {state : StateDecl}
    (hstate : state ∈ card.allStates) {value : Json.Value} (hini : state.initial = some value) :
    valueFitsShape state.shape value = true := by
  have hvalid := h.transitions
  unfold validateTransitions at hvalid
  simp only [append_eq_nil_iff, flatMap_eq_nil_iff] at hvalid
  have hrep :
      report (valueFitsShape state.shape value = false) (.initialShape state.path) = [] := by
    obtain hcard | hcomponents := mem_append.mp hstate
    · have hchk := flatMap_eq_nil_iff.mp hvalid.1.1.1.1.1 state hcard
      rwa [hini] at hchk
    · obtain ⟨component, hcomp, hstate⟩ := mem_flatMap.mp hcomponents
      have hstates := (hvalid.1.1.1.1.2 component hcomp).1
      have hchk := flatMap_eq_nil_iff.mp hstates state hstate
      rwa [hini] at hchk
  simpa using hrep

theorem Accepted.checkTransition (h : card.Accepted) (hscope : card.ScopeAt key states events)
    {event : EventDecl} (hevent : event ∈ events) {transition : Transition}
    (htran : transition ∈ event.transitions) :
    ∃ readable names,
      Ui.checkTransition states readable names card.copies card.sources transition = [] := by
  have hvalid := h.transitions
  unfold validateTransitions at hvalid
  simp only [append_eq_nil_iff, flatMap_eq_nil_iff] at hvalid
  have hbatch : ∃ readable names,
      checkEventBatch events states readable names card.copies card.sources = [] := by
    obtain ⟨-, rfl, rfl⟩ | ⟨component, hcomp, -, rfl, rfl⟩ := hscope
    · exact ⟨_, _, hvalid.1.2⟩
    · exact ⟨_, _, hvalid.2 component hcomp⟩
  obtain ⟨readable, names, hbatch⟩ := hbatch
  exact ⟨readable, names, flatMap_eq_nil_iff.mp
    (flatMap_eq_nil_iff.mp hbatch event hevent) transition htran⟩

end

end Card

theorem walkValue_isText {data current value : Json.Value} {path : Path} {forward : Bool}
    (h : walkValue data path current forward = some value) : ∃ text, value = .string text := by
  obtain ⟨text, -, rfl⟩ := map_eq_some_iff.mp h
  exact ⟨text, rfl⟩

section
variable [F64Ops]

/-- A literal that the checker admits for a state fits it. -/
theorem setValue_fits {state : StateDecl} {transition : Transition} {source : SetSource}
    {readable names : List String} {copies : List CopyDecl} {sources : List SourceDecl}
    {payload : Option Json.Value} {data value : Json.Value} (hform : transition.form = .set source)
    (hcheck : checkStateTransition state readable names copies sources transition = [])
    (hfinite : ∀ n, source = .num n → F64Ops.isFinite n = true)
    (h : setValue state.shape payload data source = some value) :
    valueFitsShape state.shape value = true := by
  unfold checkStateTransition at hcheck
  rw [hform] at hcheck
  cases source with
  | payload => exact (filter_eq_some_iff.mp h).2
  | path path => exact (filter_eq_some_iff.mp h).2
  | token token =>
    obtain rfl := some_inj.mp h
    cases hshape : state.shape <;> simp_all [valueFitsShape]
  | text text =>
    obtain rfl := some_inj.mp h
    cases hshape : state.shape <;> simp_all [valueFitsShape]
  | num n =>
    obtain rfl := some_inj.mp h
    have hnumber : n.toValue = .number (F64Ops.toNumber n) := by
      simp [F64.toValue, hfinite n rfl]
    cases hshape : state.shape <;> simp_all [valueFitsShape]
  | bool b =>
    obtain rfl := some_inj.mp h
    cases hshape : state.shape <;> simp_all [valueFitsShape]

theorem initialFor_fits {shape : Shape} (h : shape ≠ .enum []) :
    valueFitsShape shape (initialFor shape) = true := by
  cases shape with
  | enum members =>
    cases members with
    | nil => exact absurd rfl h
    | cons member members => simp [initialFor, valueFitsShape]
  | number => simp [initialFor, F64.toValue, F64Ops.isFinite_zero, valueFitsShape]
  | text | bool | record | collection | event | other => rfl

/-- What a checked transition writes fits, if the initial does. -/
theorem nextValue_fits {state : StateDecl} {transition : Transition}
    {readable names : List String} {copies : List CopyDecl} {sources : List SourceDecl}
    {payload : Option Json.Value} {data current value : Json.Value}
    (hcheck : checkStateTransition state readable names copies sources transition = [])
    (hini : ∀ value ∈ declaredInitial state data, valueFitsShape state.shape value = true)
    (hmems : state.shape ≠ .enum [])
    (hfinite : ∀ n, transition.form = .set (.num n) → F64Ops.isFinite n = true)
    (h : nextValue transition.form state payload data current = some value) :
    valueFitsShape state.shape value = true := by
  cases hform : transition.form with
  | set source =>
    rw [hform] at h
    have hset : setValue state.shape payload data source = some value := by
      unfold nextValue at h
      cases hshape : state.shape <;> simpa [hshape] using h
    exact setValue_fits hform hcheck (fun n hn => hfinite n (hn ▸ hform)) hset
  | clear =>
    rw [hform] at h
    have hclear : (declaredInitial state data).getD (initialFor state.shape) = value := by
      unfold nextValue at h
      cases hshape : state.shape <;> simpa [hshape] using h
    rw [← hclear]
    cases hdecl : declaredInitial state data with
    | none => exact initialFor_fits hmems
    | some initial => exact hini initial hdecl
  | toggle =>
    -- only a bool state resolves
    rw [hform] at h
    unfold nextValue at h
    cases hshape : state.shape <;> simp [hshape] at h
    rw [← h]
    rfl
  | cycle =>
    rw [hform] at h
    unfold nextValue at h
    cases hshape : state.shape <;> simp [hshape] at h
    obtain ⟨-, member, hmember, rfl⟩ := h
    simpa [valueFitsShape] using mem_of_getElem? hmember
  | next path =>
    rw [hform] at h
    unfold nextValue at h
    cases hshape : state.shape <;> simp [hshape] at h
    obtain ⟨text, rfl⟩ := walkValue_isText h
    rfl
  | prev path =>
    rw [hform] at h
    unfold nextValue at h
    cases hshape : state.shape <;> simp [hshape] at h
    obtain ⟨text, rfl⟩ := walkValue_isText h
    rfl
  | append | remove | notTotal _ =>
    rw [hform] at h
    unfold nextValue at h
    cases state.shape <;> simp at h

end

theorem splitLast_suffix {marker key before after : List Char}
    (h : splitLast marker key = some (before, after)) : marker <:+ before := by
  induction key generalizing before with
  | nil => cases h
  | cons c rest ih =>
    unfold splitLast at h
    cases hrest : splitLast marker rest with
    | some split =>
      rw [hrest] at h
      simp only [some_inj, Prod.mk.injEq] at h
      obtain ⟨rfl, rfl⟩ := h
      exact (ih hrest).trans (suffix_cons _ _)
    | none =>
      rw [hrest] at h
      simp only [ite_none_right_eq_some, some_inj, Prod.mk.injEq] at h
      obtain ⟨-, rfl, -⟩ := h
      exact suffix_rfl

theorem instanceOf_suffix {component : String} {key boundary : List Char}
    (h : instanceOf component key = some boundary) : '/' :: component.toList <:+ boundary := by
  unfold instanceOf at h
  cases hsplit : splitLast ('/' :: component.toList) key with
  | none =>
    rw [hsplit] at h
    cases h
  | some split =>
    rw [hsplit] at h
    simp only [ite_none_right_eq_some, some_inj] at h
    obtain ⟨-, rfl⟩ := h
    exact splitLast_suffix hsplit

theorem considerOwner_cases {key : List Char} {event : String}
    {owner : Option (Component × List Char)} {component : Component}
    {found : Component × List Char} (h : considerOwner key event owner component = some found) :
    owner = some found ∨ found.1 = component ∧ '/' :: component.name.toList <:+ found.2 := by
  unfold considerOwner at h
  split at h
  · split at h
    · next boundary hinstance =>
      split at h
      · obtain rfl := some_inj.mp h
        exact .inr ⟨rfl, instanceOf_suffix hinstance⟩
      · exact .inl h
    · exact .inl h
  · exact .inl h

theorem foldl_considerOwner {key : List Char} {event : String} (components : List Component)
    {owner : Option (Component × List Char)} {found : Component × List Char}
    (h : components.foldl (considerOwner key event) owner = some found) :
    owner = some found ∨ found.1 ∈ components ∧ '/' :: found.1.name.toList <:+ found.2 := by
  induction components generalizing owner with
  | nil => exact .inl h
  | cons component components ih =>
    obtain hstep | ⟨hmem, hsuffix⟩ := ih h
    · obtain hown | ⟨rfl, hsuffix⟩ := considerOwner_cases hstep
      · exact .inl hown
      · exact .inr ⟨mem_cons_self, hsuffix⟩
    · exact .inr ⟨mem_cons_of_mem _ hmem, hsuffix⟩

/-- The key of an event's owner ends in the name of a declared component. -/
theorem findOwner_spec {components : List Component} {key : List Char} {event : String}
    {found : Component × List Char} (h : findOwner components key event = some found) :
    found.1 ∈ components ∧ '/' :: found.1.name.toList <:+ found.2 :=
  (foldl_considerOwner components h).resolve_left (by simp)

theorem route_scope {card : Card} {key event : String} {routed : Routed}
    (h : route card key event = some routed) :
    ∃ events, card.ScopeAt routed.key routed.states events ∧ routed.declared ∈ events := by
  unfold route at h
  cases howner : findOwner card.components key.toList event with
  | none =>
    rw [howner] at h
    obtain ⟨declared, hdecl, rfl⟩ := map_eq_some_iff.mp h
    exact ⟨card.events, .inl ⟨rfl, rfl, rfl⟩, mem_of_find?_eq_some hdecl⟩
  | some owner =>
    rw [howner] at h
    obtain ⟨declared, hdecl, rfl⟩ := map_eq_some_iff.mp h
    obtain ⟨hmem, hsuffix⟩ := findOwner_spec howner
    refine ⟨owner.1.events, .inr ⟨owner.1, hmem, ?_, rfl, rfl⟩,
      mem_of_find?_eq_some hdecl⟩
    simpa using hsuffix

/-- The states of the card, or of the component that owns the event. -/
theorem route_cases {card : Card} {key event : String} {routed : Routed}
    (h : route card key event = some routed) :
    routed.component = none ∧ routed.states = card.states ∧ routed.key = cardStateKey ∨
      ∃ component ∈ card.components, routed.component = some component ∧
        routed.states = component.states := by
  unfold route at h
  cases howner : findOwner card.components key.toList event with
  | none =>
    rw [howner] at h
    obtain ⟨declared, _, rfl⟩ := map_eq_some_iff.mp h
    exact .inl ⟨rfl, rfl, rfl⟩
  | some owner =>
    rw [howner] at h
    obtain ⟨declared, _, rfl⟩ := map_eq_some_iff.mp h
    exact .inr ⟨owner.1, (findOwner_spec howner).1, rfl, rfl⟩

section
variable [F64Ops] {card : Card} {routed : Routed} {store : InstanceStore}
  {payload : Option Json.Value} {data : Json.Value}

/-- A staged write is the value of a declared transition on its state. -/
theorem stageTransition_cases {batch next : Batch} {transition : Transition}
    (h : stageTransition card routed store payload data batch transition = some next) :
    next.staged = batch.staged ∨
      (card.sources.find? fun source => source.name = transition.target) = none ∧
      ∃ state, (routed.states.find? fun state => state.path = transition.target) = some state ∧
      ∃ current value, nextValue transition.form state payload data current = some value ∧
        next.staged = batch.staged ++ [⟨transition.target, value, current⟩] := by
  unfold stageTransition at h
  cases hsource : card.sources.find? fun source => source.name = transition.target with
  | some source =>
    rw [hsource] at h
    obtain ⟨write, -, hnext⟩ := bind_eq_some_iff.mp h
    obtain rfl := some_inj.mp hnext
    exact .inl rfl
  | none =>
    rw [hsource] at h
    obtain ⟨state, hstate, hrest⟩ := bind_eq_some_iff.mp h
    obtain ⟨value, hvalue, hnext⟩ := bind_eq_some_iff.mp hrest
    obtain rfl := some_inj.mp hnext
    exact .inr ⟨rfl, state, hstate, _, value, hvalue, rfl⟩

/-- Staging keeps a property that every transition of the batch gives to its write. -/
theorem stageTransitions_forall {P : StagedWrite → Prop} (transitions : List Transition)
    (hstep : ∀ transition ∈ transitions, ∀ batch next,
      stageTransition card routed store payload data batch transition = some next →
      (∀ write ∈ batch.staged, P write) → ∀ write ∈ next.staged, P write)
    {batch final : Batch}
    (h : transitions.foldlM (stageTransition card routed store payload data) batch = some final)
    (hbatch : ∀ write ∈ batch.staged, P write) : ∀ write ∈ final.staged, P write := by
  induction transitions generalizing batch with
  | nil =>
    obtain rfl := some_inj.mp h
    exact hbatch
  | cons transition transitions ih =>
    rw [foldlM_cons] at h
    obtain ⟨next, hnext, hrest⟩ := bind_eq_some_iff.mp h
    exact ih (fun t ht => hstep t (mem_cons_of_mem _ ht)) hrest
      (hstep transition mem_cons_self batch next hnext hbatch)

/-- Every write that an accepted card stages fits the shape of its state. -/
theorem staged_fits (hacc : card.Accepted) (hinitials : card.InitialsFit data)
    (hmems : ∀ state ∈ card.allStates, state.shape ≠ .enum []) (hfinite : card.FiniteLiterals)
    {events : List EventDecl} (hscope : card.ScopeAt routed.key routed.states events)
    (hdecl : routed.declared ∈ events) {batch : Batch}
    (h : stageBatch card routed store payload data = some batch) :
    ∀ write ∈ batch.staged, card.CellFits routed.key write.target write.value := by
  refine stageTransitions_forall _ (fun transition htran batch next hstage hbatch => ?_) h
    (by simp)
  obtain hsame | ⟨hsource, state, hstate, current, value, hvalue, hnext⟩ :=
    stageTransition_cases hstage
  · rwa [hsame]
  · have hmem := mem_of_find?_eq_some hstate
    have hpath : state.path = transition.target := by simpa using find?_some hstate
    have hall := hscope.mem_allStates hmem
    obtain ⟨readable, names, hcheck⟩ :=
      hacc.checkTransition hscope hdecl htran
    have hform : transition.form.isCollection = false := by
      unfold checkTransition at hcheck
      rw [hsource] at hcheck
      cases hcoll : transition.form.isCollection with
      | false => rfl
      | true => simp [hcoll] at hcheck
    have hchk : checkStateTransition state readable names card.copies card.sources
        transition = [] := by
      unfold checkTransition at hcheck
      simpa [hsource, hform, hstate] using hcheck
    have hini : ∀ value ∈ declaredInitial state data,
        valueFitsShape state.shape value = true := by
      intro initial hini
      unfold declaredInitial at hini
      cases hlit : state.initial with
      | some literal =>
        rw [hlit] at hini
        obtain rfl := some_inj.mp hini
        exact hacc.initial_fits hall hlit
      | none =>
        rw [hlit, none_or] at hini
        exact hinitials state hall hlit initial hini
    have hfits := nextValue_fits hchk hini (hmems state hall)
      (hfinite _ (hscope.mem_allEvents hdecl) transition htran) hvalue
    rw [hnext]
    intro write hwrite
    obtain hold | hnew := mem_append.mp hwrite
    · exact hbatch write hold
    · obtain rfl := mem_singleton.mp hnew
      exact ⟨_, _, hscope, state, hpath ▸ hstate, congrArg Path.text hpath, hfits⟩

variable [Unicode]

/-- A cell after a dispatch held its value before, or it was staged. -/
theorem dispatchWrites_get {key event : String} {other : String} {field : Path} {value : Json.Value}
    (h : (dispatchWrites card store key event payload data).store.get other field = some value) :
    store.get other field = some value ∨
      ∃ routed, route card key event = some routed ∧ other = routed.key ∧
      ∃ batch, stageBatch card routed (routed.reconcile store) payload data = some batch ∧
      ∃ write ∈ batch.staged, write.target.text = field.text ∧ write.value = value := by
  have hkept : ∀ {routed : Routed}, (routed.reconcile store).cellsAt other field.text = some value →
      store.get other field = some value := by
    intro routed hget
    rw [routed.cellsAt_reconcile, Routed.keptCells] at hget
    split at hget
    · cases hget
    · exact hget
  unfold dispatchWrites at h
  cases hroute : route card key event with
  | none =>
    rw [hroute] at h
    exact .inl h
  | some routed =>
    rw [hroute] at h
    cases hbatch : stageBatch card routed (routed.reconcile store) payload data with
    | none =>
      simp only [hbatch] at h
      exact .inl (hkept h)
    | some batch =>
      simp only [hbatch, InstanceStore.get_eq_cellsAt, commit] at h
      obtain ⟨hself, hother⟩ :=
        cellsAt_foldl_commitWrite routed.key batch.staged (routed.reconcile store, [])
      by_cases hkey : other = routed.key
      · -- the owner's cells: the last staged write, or what was there
        rw [hkey, hself, overlay_eq_find] at h
        cases hfind : batch.staged.reverse.find? fun write => write.target.text = field.text with
        | none =>
          rw [hfind, map_none, none_or] at h
          exact .inl (hkept (hkey ▸ h))
        | some write =>
          rw [hfind] at h
          have hmem := mem_reverse.mp (mem_of_find?_eq_some hfind)
          have htext : write.target.text = field.text := by simpa using find?_some hfind
          exact .inr ⟨routed, rfl, hkey, batch, hbatch, write, hmem, htext, some_inj.mp h⟩
      · rw [hother other hkey] at h
        exact .inl (hkept h)

end

/-- One dispatch that a host asks for. -/
structure Request where
  (key event : String)
  payload : Option Json.Value
  data : Json.Value

section
variable [F64Ops] [Unicode]

def dispatchAll (card : Card) (store : InstanceStore) (requests : List Request) : InstanceStore :=
  requests.foldl (fun store request =>
    (dispatchWrites card store request.key request.event request.payload request.data).store) store

/-- Every cell of the store fits its state. -/
def InstanceStore.Fits (store : InstanceStore) (card : Card) : Prop :=
  ∀ key field value, store.get key field = some value → card.CellFits key field value

/-- The card keeps to the literals and enumerations that the checker does not look at. -/
structure Card.Regular (card : Card) : Prop where
  accepted : card.Accepted
  members : ∀ state ∈ card.allStates, state.shape ≠ .enum []
  finite : card.FiniteLiterals

theorem dispatchWrites_fits {card : Card} (hcard : card.Regular) {store : InstanceStore}
    (hstore : store.Fits card) {request : Request} (hdata : card.InitialsFit request.data) :
    (dispatchWrites card store request.key request.event request.payload
      request.data).store.Fits card := by
  intro key field value h
  obtain hold | ⟨routed, hroute, rfl, batch, hbatch, write, hwrite, htext, rfl⟩ :=
    dispatchWrites_get h
  · exact hstore key field value hold
  · obtain ⟨events, hscope, hdecl⟩ := route_scope hroute
    obtain ⟨states, events, hat, state, hstate, hpath, hfits⟩ :=
      staged_fits hcard.accepted hdata hcard.members hcard.finite hscope hdecl hbatch
        write hwrite
    exact ⟨states, events, hat, state, hstate, hpath.trans htext, hfits⟩

/-- Every cell that a run of dispatches leaves fits its state, if the card is regular and the
data fits the initials that are read from it. -/
theorem dispatchAll_fits (card : Card) (hcard : card.Regular) (requests : List Request)
    (hdata : ∀ request ∈ requests, card.InitialsFit request.data) :
    (dispatchAll card .empty requests).Fits card := by
  have hempty : InstanceStore.empty.Fits card := by
    intro key field value h
    simp [InstanceStore.get, InstanceStore.empty] at h
  revert hempty
  generalize InstanceStore.empty = store
  intro hstore
  induction requests generalizing store with
  | nil => exact hstore
  | cons request requests ih =>
    apply ih (fun r hr => hdata r (mem_cons_of_mem _ hr))
    exact dispatchWrites_fits hcard hstore (hdata request mem_cons_self)

end

/-- A number that a tap replaces, and the position at which a count was last put back. -/
def countCard : Card where
  sources := [⟨["here"], "sys.gps", []⟩]
  states := [⟨["count"], .number, some (.nat 1), none, false⟩,
    ⟨["pin"], .number, none, some ["here", "lat"], false⟩]
  events := [⟨"put", [⟨["count"], .set .payload, []⟩]⟩,
    ⟨"reset", [⟨["pin"], .clear, []⟩, ⟨["count"], .clear, []⟩]⟩]
  copies := []
  components := []
  views := [⟨"root", .call "Col" []
    [.call "TextHero" [⟨"value", .path ["count"]⟩, ⟨"on_tap", .path ["put"]⟩] [],
      .call "TextHero" [⟨"value", .path ["pin"]⟩, ⟨"on_tap", .path ["reset"]⟩] []]⟩]

theorem dispatchAll_fits_countCard :
    let located (lat : ℕ) : Json.Value := .object [("here", .object [("lat", .nat lat)])]
    let requests : List Request := [⟨"root", "put", some (.nat 5), .null⟩,
      ⟨"root", "put", some (.string "six"), located 60⟩, ⟨"root", "reset", none, located 61⟩,
      ⟨"root", "put", some (.nat 7), located 62⟩]
    ∃ (_ : F64Ops) (_ : Unicode), let store := dispatchAll countCard .empty requests
      store.get cardStateKey ["count"] = some (.nat 7) ∧
      store.get cardStateKey ["pin"] = some (.nat 61) ∧ store.Fits countCard := by
  refine ⟨F64Ops.counting, Unicode.ascii, by decide +kernel, by decide +kernel, ?_⟩
  have hregular : @Card.Regular F64Ops.counting countCard :=
    @Card.Regular.mk F64Ops.counting countCard (by decide) (by simp [Card.allStates, countCard])
      (by simp [Card.FiniteLiterals, Card.allEvents, countCard])
  refine @dispatchAll_fits F64Ops.counting Unicode.ascii countCard hregular _ fun request hmem => ?_
  have hinitials : ∀ data, (∀ value ∈ dataPath data ["here", "lat"],
      valueFitsShape .number value = true) → countCard.InitialsFit data := by
    intro data h
    simpa [Card.InitialsFit, Card.allStates, countCard] using h
  simp only [mem_cons, not_mem_nil, or_false] at hmem
  rcases hmem with rfl | rfl | rfl | rfl <;> refine hinitials _ fun value hvalue => ?_
  · cases hvalue
  all_goals
    obtain rfl := some_inj.mp hvalue
    rfl

/-- A number whose initial is the position of the device. -/
def pinCard : Card where
  sources := [⟨["here"], "sys.gps", []⟩]
  states := [⟨["pin"], .number, none, some ["here", "lat"], false⟩]
  events := [⟨"reset", [⟨["pin"], .clear, []⟩]⟩]
  copies := []
  components := []
  views := [⟨"root", .call "TextHero" [⟨"value", .path ["pin"]⟩, ⟨"on_tap", .path ["reset"]⟩] []⟩]

/-- `clear` writes what the data holds for the initial, whatever it is. -/
theorem pinCard_holds_text :
    ∃ (_ : F64Ops) (_ : Unicode) (card : Card) (requests : List Request) (value : Json.Value),
      card.Accepted ∧ (dispatchAll card .empty requests).get cardStateKey ["pin"] = some value ∧
      ¬card.CellFits cardStateKey ["pin"] value := by
  refine ⟨F64Ops.counting, Unicode.ascii, pinCard, [⟨"root", "reset", none,
    .object [("here", .object [("lat", .string "unknown")])]⟩], .string "unknown", by decide,
    by decide +kernel, ?_⟩
  rintro ⟨states, events, ⟨-, rfl, -⟩ | ⟨component, hcomp, -⟩, state, hstate, -, hfits⟩
  · obtain rfl := mem_singleton.mp (mem_of_find?_eq_some hstate)
    simp [valueFitsShape] at hfits
  · simp [pinCard] at hcomp

end Octoscript.Ui
