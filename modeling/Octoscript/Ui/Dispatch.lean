import Octoscript.Ui.Store

namespace Octoscript.Ui

open Json

/-- The text up to and with the last occurrence of a marker, and what follows it. -/
def splitLast (marker : List Char) : List Char → Option (List Char × List Char)
  | [] => none
  | c :: rest =>
    match splitLast marker rest with
    | some (before, after) => some (c :: before, after)
    | none =>
      if marker <+: c :: rest then some (marker, (c :: rest).drop marker.length) else none

/-- The instance of a component that a key lies in: the last occurrence of its name must be a
whole segment. -/
def instanceOf (component : String) (key : List Char) : Option (List Char) :=
  match splitLast ('/' :: component.toList) key with
  | some (boundary, after) =>
    if after.head? = none ∨ after.head? = some '/' ∨ after.head? = some '[' then some boundary
    else none
  | none => none

/-- A component that declares the event owns it if its instance lies further in. -/
def considerOwner (key : List Char) (event : String) (owner : Option (Component × List Char))
    (component : Component) : Option (Component × List Char) :=
  if event ∈ component.events.map EventDecl.name then
    match instanceOf component.name key with
    | some boundary =>
      if owner.all fun best => best.2.length < boundary.length then some (component, boundary)
      else owner
    | none => owner
  else owner

/-- The innermost component that declares the event, and the key of its instance. -/
def findOwner (components : List Component) (key : List Char) (event : String) :
    Option (Component × List Char) :=
  components.foldl (considerOwner key event) none

/-- The declaration that an event runs, the states it may write, and the key of their cells. -/
structure Routed where
  declared : EventDecl
  states : List StateDecl
  key : String
  component : Option Component

def route (card : Card) (key event : String) : Option Routed :=
  match findOwner card.components key.toList event with
  | some (component, boundary) =>
    (component.events.find? fun declared => declared.name = event).map fun declared =>
      ⟨declared, component.states, String.ofList boundary, some component⟩
  | none =>
    (card.events.find? fun declared => declared.name = event).map fun declared =>
      ⟨declared, card.states, cardStateKey, none⟩

inductive CollectionOp
  | append
  | remove
  | clear
  | set
  deriving DecidableEq

/-- A write that the host must perform against its durable store. -/
structure CollectionWrite where
  source : Path
  helper : String
  op : CollectionOp
  (value field : String)
  deriving DecidableEq

def Form.collectionOp : Form → Option CollectionOp
  | .append => some .append
  | .remove => some .remove
  | .clear => some .clear
  | .set _ => some .set
  | .toggle | .cycle | .next _ | .prev _ | .notTotal _ => none

/-- A transition that targets a source. -/
def collectionWrite (source : SourceDecl) (form : Form) (payload : Option Value) :
    Option CollectionWrite := do
  let op ← form.collectionOp
  let value ← if op = .clear then some "" else payload.map jsonToKey
  let field := match source.list? "fields" with
    | some [field] => field.text
    | _ => ""
  return ⟨source.name, source.helper, op, value, field⟩

/-- The texts that a collection walk steps through. -/
def walkRows (data : Value) (path : Path) : List String :=
  (((getKey data path.root).bind asArray).getD []).filterMap fun row =>
    (getKey row (Path.text path.tail)).bind asStr

/-- Where a walk goes from a row, or from outside the list. -/
def walkTo (rows : List String) (current : Option String) (forward : Bool) : ℕ :=
  match current.bind fun text => rows.idxOf? text, forward with
  | some i, true => (i + 1) % rows.length
  | some i, false => (i + rows.length - 1) % rows.length
  | none, true => 0
  | none, false => rows.length - 1

section
variable [F64Ops]

def setValue (shape : Shape) (payload : Option Value) (data : Value) :
    SetSource → Option Value
  | .payload => payload.filter (valueFitsShape shape)
  | .path path => (dataPath data path).filter (valueFitsShape shape)
  | .token text | .text text => some (.string text)
  | .num n => some n.toValue
  | .bool b => some (.bool b)

def walkValue (data : Value) (path : Path) (current : Value) (forward : Bool) :
    Option Value :=
  let rows := walkRows data path
  (rows[walkTo rows (asStr current) forward]?).map Json.Value.string

/-- The declared initial, literal or read from the data. -/
def declaredInitial (state : StateDecl) (data : Value) : Option Value :=
  state.initial.or (state.initialPath.bind (dataPath data))

/-- What a transition writes into a state, if it resolves. -/
def nextValue (form : Form) (state : StateDecl) (payload : Option Value)
    (data current : Value) : Option Value :=
  match form, state.shape with
  | .toggle, .bool => some (.bool !((asBool current).getD false))
  | .clear, shape => some ((declaredInitial state data).getD (initialFor shape))
  | .cycle, .enum members =>
    if members = [] then none
    else
      let position := ((asStr current).bind fun text => members.idxOf? text).getD 0
      (members[(position + 1) % members.length]?).map Json.Value.string
  | .next path, .text => walkValue data path current true
  | .prev path, .text => walkValue data path current false
  | .set source, shape => setValue shape payload data source
  | _, _ => none

structure StagedWrite where
  target : Path
  (value previous : Value)

structure Batch where
  staged : List StagedWrite
  durable : List CollectionWrite

/-- What a transition finds in its state: an earlier write of the batch, the cell, the value the
host seeds for the card, or the initial. -/
def currentValue (store : InstanceStore) (key : String) (data : Value) (state : StateDecl)
    (staged : List StagedWrite) : Value :=
  let written := staged.reverse.find? fun write => write.target.text = state.path.text
  let seeded := if key = cardStateKey then getKey data state.path.text else none
  ((((written.map StagedWrite.value).or (store.get key state.path)).or seeded).or
    (declaredInitial state data)).getD (initialFor state.shape)

/-- One transition, or a batch that does not resolve. -/
def stageTransition (card : Card) (routed : Routed) (store : InstanceStore)
    (payload : Option Value) (data : Value) (batch : Batch) (transition : Transition) :
    Option Batch :=
  match card.sources.find? fun source => source.name = transition.target with
  | some source => do
    let write ← collectionWrite source transition.form payload
    return { batch with durable := batch.durable ++ [write] }
  | none => do
    let state ← routed.states.find? fun state => state.path = transition.target
    let current := currentValue store routed.key data state batch.staged
    let value ← nextValue transition.form state payload data current
    return { batch with staged := batch.staged ++ [⟨transition.target, value, current⟩] }

def stageBatch (card : Card) (routed : Routed) (store : InstanceStore)
    (payload : Option Value) (data : Value) : Option Batch :=
  routed.declared.transitions.foldlM (stageTransition card routed store payload data) ⟨[], []⟩

/-- A staged value is written, and reported if it moved. -/
def commitWrite (key : String) (done : InstanceStore × List Path) (write : StagedWrite) :
    InstanceStore × List Path :=
  (done.1.set key write.target write.value,
    if write.value = write.previous ∨ done.2.contains write.target then done.2
    else done.2 ++ [write.target])

def commit (store : InstanceStore) (key : String) (staged : List StagedWrite) :
    InstanceStore × List Path :=
  staged.foldl (commitWrite key) (store, [])

structure Dispatched where
  store : InstanceStore
  changed : List Path
  durable : List CollectionWrite

variable [Unicode]

/-- The store of the owner's schema. -/
def Routed.reconcile (routed : Routed) (store : InstanceStore) : InstanceStore :=
  match routed.component with
  | some component => store.reconcileSchema component (schemaId component)
  | none => store

/-- `dispatch_writes`. -/
def dispatchWrites (card : Card) (store : InstanceStore) (key event : String)
    (payload : Option Value) (data : Value) : Dispatched :=
  match route card key event with
  | none => ⟨store, [], []⟩
  | some routed =>
    let store := routed.reconcile store
    match stageBatch card routed store payload data with
    | none => ⟨store, [], []⟩
    | some batch =>
      let (store, changed) := commit store routed.key batch.staged
      ⟨store, changed, batch.durable⟩

end

end Octoscript.Ui
