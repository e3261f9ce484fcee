import Octoscript.Ui.Dispatch

namespace Octoscript.Ui

open Std (ExtTreeMap)
open Json (Value)

/-- The cells of one owner, by the text of their paths. -/
abbrev Cells := String → Option Value

inductive Effect
  | cell (target : Path) (value : Value)
  | durable (write : CollectionWrite)

section
variable [F64Ops]

/-- What a state holds where its cell does not say. -/
def settledValue (key : String) (data : Value) (state : StateDecl)
    (cell : Option Value) : Value :=
  let seeded := if key = cardStateKey then getKey data state.path.text else none
  ((cell.or seeded).or (declaredInitial state data)).getD (initialFor state.shape)

/-- What one transition does to these cells, if it resolves. -/
def effect (card : Card) (routed : Routed) (payload : Option Value) (data : Value)
    (cells : Cells) (transition : Transition) : Option Effect :=
  match card.sources.find? fun source => source.name = transition.target with
  | some source => (collectionWrite source transition.form payload).map .durable
  | none =>
    (routed.states.find? fun state => state.path = transition.target).bind fun state =>
      (nextValue transition.form state payload data
        (settledValue routed.key data state (cells state.path.text))).map
        (.cell transition.target)

/-- The transitions one after the other: the cells they leave and their durable writes. -/
def runTransitions (card : Card) (routed : Routed) (payload : Option Value)
    (data : Value) : Cells → List Transition → Option (Cells × List CollectionWrite)
  | cells, [] => some (cells, [])
  | cells, transition :: transitions =>
    match effect card routed payload data cells transition with
    | none => none
    | some (.cell target value) => runTransitions card routed payload data
        (Function.update cells target.text (some value)) transitions
    | some (.durable write) => (runTransitions card routed payload data cells transitions).map
        fun (cells, writes) => (cells, write :: writes)

end

namespace InstanceStore

variable (store : InstanceStore)

/-- The cells under one key. -/
def cellsAt (key : String) : Cells :=
  fun field => store.cells[key]?.bind fun fields => fields[field]?

theorem get_eq_cellsAt (key : String) (field : Path) :
    store.get key field = store.cellsAt key field.text := rfl

theorem cellsAt_set_self (key : String) (field : Path) (value : Value) :
    (store.set key field value).cellsAt key =
      Function.update (store.cellsAt key) field.text (some value) := by
  funext other
  by_cases h : other = field.text
  · subst h
    simp [cellsAt, set]
  · rw [Function.update_of_ne h]
    have hne : field.text ≠ other := fun he => h he.symm
    cases hcells : store.cells[key]? <;>
      simp [cellsAt, set, ExtTreeMap.getElem?_insert, hne, hcells]

theorem cellsAt_set_of_ne {key other : String} (h : other ≠ key) (field : Path)
    (value : Value) : (store.set key field value).cellsAt other = store.cellsAt other := by
  have hne : key ≠ other := fun he => h he.symm
  funext field
  simp [cellsAt, set, ExtTreeMap.getElem?_insert, hne]

theorem cellsAt_resetComponent (component : String) (keep : List Path) (key field : String) :
    (store.resetComponent component keep).cellsAt key field =
      if ("/" ++ component).toList <:+: key.toList ∧ field ∉ keep.map Path.text then none
      else store.cellsAt key field := by
  unfold cellsAt resetComponent
  rw [ExtTreeMap.getElem?_filterMap']
  cases hcells : store.cells[key]? with
  | none => simp
  | some fields =>
    by_cases hkey : ("/" ++ component).toList <:+: key.toList
    · -- the empty rest of a cell map is removed, which reads the same
      have hrest : ∀ kept : ExtTreeMap String Value,
          ((if kept.isEmpty then none else some kept).bind fun fields => fields[field]?) =
            kept[field]? := by
        intro kept
        by_cases hempty : kept.isEmpty = true
        · rw [if_pos hempty, ExtTreeMap.isEmpty_iff.mp hempty]
          simp
        · rw [if_neg hempty]
          rfl
      rw [Option.bind_some, if_pos hkey, hrest, ExtTreeMap.getElem?_filter']
      by_cases hfield : field ∈ keep.map Path.text
      · rw [if_neg fun h => h.2 hfield]
        cases hcell : fields[field]? <;> simp [hcell, hfield]
      · rw [if_pos ⟨hkey, hfield⟩]
        cases fields[field]? <;> simp [hfield]
    · rw [Option.bind_some, if_neg hkey, if_neg fun h => hkey h.1]

section
variable [Unicode]

/-- The owner's schema was recorded under other declarations, the cell belongs to one of its
instances, and no state keeps it. -/
def Drops (component : Component) (key field : String) : Prop :=
  (∃ known, store.schemas[component.name]? = some known ∧ known ≠ schemaId component) ∧
    ("/" ++ component.name).toList <:+: key.toList ∧
    ∀ state ∈ component.states, state.path.text = field →
      ¬(state.keep = true ∧ store.shapeUnchanged component state = true)

theorem cellsAt_reconcileSchema (component : Component) (key field : String)
    [Decidable (store.Drops component key field)] :
    (store.reconcileSchema component (schemaId component)).cellsAt key field =
      if store.Drops component key field then none else store.cellsAt key field := by
  unfold reconcileSchema
  cases hknown : store.schemas[component.name]? with
  | none =>
    rw [if_neg fun hdrops => ?_]
    · rfl
    · obtain ⟨⟨known, hsome, -⟩, -⟩ := hdrops
      rw [hknown] at hsome
      cases hsome
  | some known =>
    by_cases hsame : known = schemaId component
    · rw [if_neg fun hdrops => ?_]
      · simp [hsame]
      · obtain ⟨⟨known', hsome, hother⟩, -⟩ := hdrops
        rw [hknown, Option.some_inj] at hsome
        exact hother (hsome ▸ hsame)
    · simp only [if_neg hsame]
      change (store.resetComponent _ _).cellsAt key field = _
      rw [cellsAt_resetComponent]
      refine if_congr ?_ rfl rfl
      constructor
      · rintro ⟨hkey, hkeep⟩
        refine ⟨⟨known, hknown, hsame⟩, hkey, fun state hstate htext hkept => hkeep ?_⟩
        rw [← htext, List.map_map, List.mem_map]
        exact ⟨state, List.mem_filter.mpr ⟨hstate, by simpa using hkept⟩, rfl⟩
      · rintro ⟨-, hkey, hkeep⟩
        refine ⟨hkey, fun hmem => ?_⟩
        rw [List.map_map, List.mem_map] at hmem
        obtain ⟨state, hstate, htext⟩ := hmem
        obtain ⟨hdecl, hkept⟩ := List.mem_filter.mp hstate
        exact hkeep state hdecl htext (by simpa using hkept)

end

end InstanceStore

/-- The cells under a key with the staged writes over them. -/
def overlay (cells : Cells) (staged : List StagedWrite) : Cells :=
  staged.foldl (fun cells write => Function.update cells write.target.text (some write.value)) cells

theorem overlay_concat (cells : Cells) (staged : List StagedWrite) (write : StagedWrite) :
    overlay cells (staged ++ [write]) =
      Function.update (overlay cells staged) write.target.text (some write.value) := by
  simp [overlay]

theorem overlay_eq_find (cells : Cells) (staged : List StagedWrite) (field : String) :
    overlay cells staged field =
      ((staged.reverse.find? fun write => write.target.text = field).map StagedWrite.value).or
        (cells field) := by
  induction staged using List.reverseRecOn with
  | nil => simp [overlay]
  | append_singleton staged write ih =>
    rw [overlay_concat, List.reverse_append]
    by_cases h : field = write.target.text
    · subst h
      simp
    · have hne : write.target.text ≠ field := fun he => h he.symm
      rw [Function.update_of_ne h, ih]
      simp [hne]

theorem cellsAt_foldl_commitWrite (key : String) (staged : List StagedWrite)
    (done : InstanceStore × List Path) :
    (staged.foldl (commitWrite key) done).1.cellsAt key = overlay (done.1.cellsAt key) staged ∧
      ∀ other ≠ key,
        (staged.foldl (commitWrite key) done).1.cellsAt other = done.1.cellsAt other := by
  induction staged generalizing done with
  | nil => exact ⟨rfl, fun _ _ => rfl⟩
  | cons write staged ih =>
    obtain ⟨hself, hother⟩ := ih (commitWrite key done write)
    refine ⟨?_, fun other hne => ?_⟩
    · rw [List.foldl_cons, hself, commitWrite, InstanceStore.cellsAt_set_self]
      rfl
    · rw [List.foldl_cons, hother other hne, commitWrite, InstanceStore.cellsAt_set_of_ne _ hne]

section
variable [F64Ops] (card : Card) (routed : Routed) (store : InstanceStore)
  (payload : Option Value) (data : Value)

theorem currentValue_eq (state : StateDecl) (staged : List StagedWrite) :
    currentValue store routed.key data state staged =
      settledValue routed.key data state
        (overlay (store.cellsAt routed.key) staged state.path.text) := by
  rw [overlay_eq_find]
  rfl

/-- Staging one transition is its effect on what is staged so far. -/
theorem stageTransition_eq (batch : Batch) (transition : Transition) :
    (stageTransition card routed store payload data batch transition).map
        (fun batch => (overlay (store.cellsAt routed.key) batch.staged, batch.durable)) =
      (effect card routed payload data (overlay (store.cellsAt routed.key) batch.staged)
        transition).map fun
          | .cell target value => (Function.update (overlay (store.cellsAt routed.key) batch.staged)
              target.text (some value), batch.durable)
          | .durable write => (overlay (store.cellsAt routed.key) batch.staged,
              batch.durable ++ [write]) := by
  unfold stageTransition effect
  cases card.sources.find? fun source => source.name = transition.target with
  | some source => cases hwrite : collectionWrite source transition.form payload <;> simp [hwrite]
  | none =>
    cases routed.states.find? fun state => state.path = transition.target with
    | none => rfl
    | some state =>
      simp only [Option.bind_eq_bind, Option.bind_some, currentValue_eq]
      generalize nextValue transition.form state payload data _ = next
      cases next with
      | none => rfl
      | some value => simp [overlay_concat]

theorem stageTransitions_eq (transitions : List Transition) (batch : Batch) :
    (transitions.foldlM (stageTransition card routed store payload data) batch).map
        (fun batch => (overlay (store.cellsAt routed.key) batch.staged, batch.durable)) =
      (runTransitions card routed payload data (overlay (store.cellsAt routed.key) batch.staged)
        transitions).map fun result => (result.1, batch.durable ++ result.2) := by
  induction transitions generalizing batch with
  | nil => simp [runTransitions]
  | cons transition transitions ih =>
    have hstep := stageTransition_eq card routed store payload data batch transition
    rw [List.foldlM_cons]
    unfold runTransitions
    -- the staged batch and the effect resolve together
    cases hstage : stageTransition card routed store payload data batch transition with
    | none =>
      rw [hstage, Option.map_none] at hstep
      rw [Option.map_eq_none_iff.mp hstep.symm]
      rfl
    | some next =>
      rw [hstage, Option.map_some] at hstep
      obtain ⟨done, hdone, heq⟩ := Option.map_eq_some_iff.mp hstep.symm
      rw [hdone, Option.bind_eq_bind, Option.bind_some, ih next]
      cases done with
      | cell target value =>
        obtain ⟨hcells, hdurable⟩ := Prod.mk.injEq .. ▸ heq
        rw [← hcells, ← hdurable]
      | durable write =>
        obtain ⟨hcells, hdurable⟩ := Prod.mk.injEq .. ▸ heq
        rw [← hcells, ← hdurable, Option.map_map]
        simp [Function.comp_def]

theorem stageBatch_eq :
    (stageBatch card routed store payload data).map
        (fun batch => (overlay (store.cellsAt routed.key) batch.staged, batch.durable)) =
      runTransitions card routed payload data (store.cellsAt routed.key)
        routed.declared.transitions := by
  have h := stageTransitions_eq card routed store payload data routed.declared.transitions ⟨[], []⟩
  simpa [stageBatch, overlay] using h

end

section
variable [Unicode]

/-- The cells under a key that the owner's schema leaves. -/
noncomputable def Routed.keptCells (routed : Routed) (store : InstanceStore) (key : String) :
    Cells :=
  open scoped Classical in fun field =>
    if ∃ component ∈ routed.component, store.Drops component key field then none
    else store.cellsAt key field

/-- The store knows the owner's state declarations as they are. -/
def Routed.Current (routed : Routed) (store : InstanceStore) : Prop :=
  ∀ component ∈ routed.component, store.schemas[component.name]? = some (schemaId component)

theorem Routed.cellsAt_reconcile (routed : Routed) (store : InstanceStore) (key : String) :
    (routed.reconcile store).cellsAt key = routed.keptCells store key := by
  classical
  funext field
  unfold Routed.reconcile Routed.keptCells
  cases routed.component with
  | none => simp
  | some component => simp [InstanceStore.cellsAt_reconcileSchema]

/-- Reconciling leaves the schema of the owner recorded, so it changes every store that did not
have it. -/
theorem Routed.reconcile_eq_self_iff {routed : Routed} {store : InstanceStore} :
    routed.reconcile store = store ↔ routed.Current store := by
  unfold Routed.reconcile Routed.Current
  cases routed.component with
  | none => simp
  | some component =>
    simp only [Option.mem_def, Option.some.injEq, forall_eq']
    refine ⟨fun h => ?_, fun h => by simp [InstanceStore.reconcileSchema, h]⟩
    rw [← h]
    unfold InstanceStore.reconcileSchema
    cases hknown : store.schemas[component.name]? with
    | none => simp [InstanceStore.recordSchema]
    | some known =>
      by_cases hsame : known = schemaId component
      · simp [hsame, hknown]
      · simp [hsame, InstanceStore.recordSchema]

/-- Either every transition resolves, and the owner's cells are those of the whole batch; or one
does not, and nothing is reported. The store is then as it was exactly if it knew the owner's
schema. -/
theorem dispatchWrites_atomic [F64Ops] (card : Card) (store : InstanceStore) (key event : String)
    (payload : Option Value) (data : Value) :
    let dispatched := dispatchWrites card store key event payload data
    match route card key event with
    | none => dispatched = ⟨store, [], []⟩
    | some routed =>
      match runTransitions card routed payload data (routed.keptCells store routed.key)
        routed.declared.transitions with
      | some (cells, writes) =>
        (∀ field, dispatched.store.get routed.key field = cells field.text) ∧
        (∀ other ≠ routed.key, ∀ field,
          dispatched.store.get other field = routed.keptCells store other field.text) ∧
        dispatched.durable = writes
      | none =>
        (dispatched.store = store ↔ routed.Current store) ∧
        dispatched.changed = [] ∧ dispatched.durable = [] := by
  intro dispatched
  cases hroute : route card key event with
  | none => simp [dispatched, dispatchWrites, hroute]
  | some routed =>
    have hstage := stageBatch_eq card routed (routed.reconcile store) payload data
    rw [routed.cellsAt_reconcile] at hstage
    cases hbatch : stageBatch card routed (routed.reconcile store) payload data with
    | none =>
      have hres : dispatched = ⟨routed.reconcile store, [], []⟩ := by
        simp [dispatched, dispatchWrites, hroute, hbatch]
      rw [hbatch, Option.map_none] at hstage
      simp only [← hstage, hres]
      exact ⟨Routed.reconcile_eq_self_iff, trivial, trivial⟩
    | some batch =>
      have hres : dispatched = ⟨(commit (routed.reconcile store) routed.key batch.staged).1,
          (commit (routed.reconcile store) routed.key batch.staged).2, batch.durable⟩ := by
        simp [dispatched, dispatchWrites, hroute, hbatch]
      obtain ⟨hself, hother⟩ :=
        cellsAt_foldl_commitWrite routed.key batch.staged (routed.reconcile store, [])
      rw [hbatch, Option.map_some] at hstage
      simp only [← hstage, hres]
      refine ⟨fun field => ?_, fun other hne field => ?_, trivial⟩
      · rw [InstanceStore.get_eq_cellsAt, commit, hself, routed.cellsAt_reconcile]
      · rw [InstanceStore.get_eq_cellsAt, commit, hother other hne, routed.cellsAt_reconcile]

end

def pickRow : Component :=
  ⟨"Row", [], [⟨["picked"], .bool, some (.bool false), none, false⟩],
    [⟨"pick", [⟨["picked"], .set .payload, []⟩]⟩], .call "Rule" [] []⟩

/-- A row whose event needs the payload of the tap. -/
def pickCard : Card where
  sources := []
  states := []
  events := []
  copies := []
  components := [pickRow]
  views := [⟨"root", .call "Row" [] []⟩]

/-- A store whose row was written under other declarations. -/
def pickedStore : InstanceStore where
  cells := (∅ : ExtTreeMap String (ExtTreeMap String Value)).insert "root/Row"
    ((∅ : ExtTreeMap String Value).insert "picked" (.bool true))
  schemas := (∅ : ExtTreeMap String UInt64).insert "Row" 0
  shapes := ∅

/-- Once the row's schema is recorded, a tap without a payload leaves the store alone. -/
theorem dispatchWrites_atomic_pickCard :
    ∃ (_ : F64Ops) (_ : Unicode) (store : InstanceStore) (routed : Routed),
      pickCard.Accepted ∧ route pickCard "root/Row" "pick" = some routed ∧
      routed.component = some pickRow ∧
      store.get "root/Row" ["picked"] = some (.bool true) ∧
      let dispatched := dispatchWrites pickCard store "root/Row" "pick" none .null
      dispatched.store = store ∧ dispatched.changed = [] ∧ dispatched.durable = [] := by
  let _ := F64Ops.counting
  let _ := Unicode.ascii
  let store : InstanceStore := { pickedStore with
    schemas := (∅ : ExtTreeMap String UInt64).insert "Row" (schemaId pickRow) }
  let routed : Routed := ⟨⟨"pick", [⟨["picked"], .set .payload, []⟩]⟩, pickRow.states, "root/Row",
    some pickRow⟩
  have hroute : route pickCard "root/Row" "pick" = some routed := rfl
  have hcurrent : routed.Current store := by
    rintro component hcomp
    obtain rfl : pickRow = component := by simpa [routed] using hcomp
    simp [store, pickRow]
  have hatomic := dispatchWrites_atomic pickCard store "root/Row" "pick" none .null
  have hrefused : runTransitions pickCard routed none .null (routed.keptCells store routed.key)
    routed.declared.transitions = none := rfl
  simp only [hroute, hrefused] at hatomic
  obtain ⟨hstore, hchanged, hdurable⟩ := hatomic
  exact ⟨inferInstance, inferInstance, store, routed, by decide, hroute, rfl,
    by decide +kernel, hstore.mpr hcurrent, hchanged, hdurable⟩

/-- A tap without a payload does not resolve, and takes the row's cell all the same. -/
theorem dispatchWrites_pickCard_drops :
    ∃ (_ : F64Ops) (_ : Unicode) (card : Card) (store : InstanceStore) (key event : String)
      (routed : Routed), card.Accepted ∧ route card key event = some routed ∧
      runTransitions card routed none .null (store.cellsAt routed.key)
        routed.declared.transitions = none ∧
      store.get routed.key ["picked"] = some (.bool true) ∧
      (dispatchWrites card store key event none .null).store.get routed.key ["picked"] = none := by
  refine ⟨F64Ops.counting, Unicode.ascii, pickCard, pickedStore, "root/Row", "pick",
    ⟨⟨"pick", [⟨["picked"], .set .payload, []⟩]⟩,
      [⟨["picked"], .bool, some (.bool false), none, false⟩], "root/Row",
      some pickRow⟩, ?_, ?_, ?_, ?_, ?_⟩
  · decide
  · rfl
  · rfl
  · decide +kernel
  · decide +kernel

end Octoscript.Ui
