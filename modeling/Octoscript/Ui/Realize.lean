import Octoscript.Ui.Lower
import Octoscript.Ui.Store

namespace Octoscript.Ui

open Json

/-- A bound name and its value; a loop binder also knows its collection and index. -/
structure Frame where
  name : String
  value : Value
  origin : Option (Path × ℕ)

/-- The innermost frame comes first. -/
structure ValueScope where
  frames : List Frame
  data : Value
  copies : List CopyDecl

namespace ValueScope

def push (self : ValueScope) (frame : Frame) : ValueScope :=
  { self with frames := frame :: self.frames }

/-- The lifecycle that the host reports for a source. -/
def lookupStatus (self : ValueScope) (source : Path) : String :=
  (((getKey self.data "$status").bind (getKey · source.text)).bind asStr).getD
    (if (dataPath self.data source).isSome then "ready" else "pending")

/-- The text of a copy in the reported language, in English or in any. -/
def lookupCopy (self : ValueScope) (name : String) : Option Value := do
  let entry ← self.copies.find? fun copy => copy.name = name
  let lang := ((((getKey self.data "env").bind (getKey · "locale")).bind (getKey · "lang")).bind
    asStr).getD "en"
  let text ← ((entry.locales.find? fun locale => locale.1 = lang).or
    (entry.locales.find? fun locale => locale.1 = "en")).or entry.locales.head?
  return .string text.2

/-- A frame, or what the host injected. -/
def lookupName (self : ValueScope) (root : String) : Option Value :=
  match self.frames.find? fun frame => frame.name = root with
  | some frame => some frame.value
  | none => getKey self.data root

/-- One segment of a path. The path inside an index is one segment, which is its root. -/
def descend (self : ValueScope) (current : Value) (segment : String) : Option Value :=
  match indexSegment segment with
  | some inner =>
    if inner = "copy" then none
    else (self.lookupName inner).bind fun key => match key with
      | .string k => getKey current k
      | key => (asU64 key).bind (getIndex current)
  | none => getSegment current segment

def lookup (self : ValueScope) (path : Path) : Option Value :=
  match path.statusOwner with
  | some source => some (.string (self.lookupStatus source))
  | none =>
    match path with
    | [] => none
    | root :: rest =>
      if root = "copy" then rest.head?.bind self.lookupCopy
      else (self.lookupName root).bind fun value => rest.foldlM self.descend value

/-- Where the innermost binder of this name that iterates a collection stands. -/
def originOf (self : ValueScope) (root : String) : Option (Path × ℕ) :=
  (self.frames.find? fun frame => frame.name = root ∧ frame.origin.isSome).bind Frame.origin

end ValueScope

section
variable [F64Ops]

/-- `literal_of`. -/
def literalOf : Operand → Value
  | .str text => .string text
  | .num n => n.toValue
  | .token token => .string (bareToken token)
  | .path path | .predicate path _ _ => .string path.text
  | .expr .. => .null

/-- `scope_value` and `eval_expr`. -/
def scopeValue (scope : ValueScope) : Operand → Option Value
  | .path path => scope.lookup path
  | .token token => some (.string (bareToken token))
  | .str text => some (.string text)
  | .num n => some n.toValue
  | .predicate .. => none
  | .expr lhs op rhs => do
    let a ← (scopeValue scope lhs).bind asF64
    let b ← (scopeValue scope rhs).bind asF64
    (applyOp a op b).map F64.toValue

inductive NodeValue
  | text (text : String)
  | number (n : F64)
  | bool (b : Bool)
  | token (token : String)
  | event (name : String)
  | missing
  deriving DecidableEq

/-- What a resolved path shows. -/
def NodeValue.ofLookup : Option Value → NodeValue
  | some (.string s) => .text s
  | some (.bool b) => .bool b
  | some value => ((asF64 value).map NodeValue.number).getD .missing
  | none => .missing

/-- `Realizer::value`. -/
def nodeValue (constructor arg : String) (operand : Operand) (scope : ValueScope) : NodeValue :=
  match operand with
  | .path path =>
    if Catalog.argKind constructor arg = some .event then
      match scope.lookup path with
      | some (.string name) => .event name
      | _ => .event path.text
    else .ofLookup (scope.lookup path)
  | .token token => .token (bareToken token)
  | .str text => .text text
  | .num n => .number n
  | .predicate path cmp rhs => .bool (compareValues (scope.lookup path) cmp (scopeValue scope rhs))
  | .expr lhs op rhs =>
    (((scopeValue scope (.expr lhs op rhs)).bind asF64).map NodeValue.number).getD .missing

/-- An expression, resolved for the backend: live calls and constants. -/
inductive ExprPart
  | call (binding : SourceBinding)
  | const (text : String)
  | bin (lhs : ExprPart) (op : Operator) (rhs : ExprPart)
  deriving DecidableEq

structure UiNode where
  (kind key : String)
  args : List (String × NodeValue)
  children : List UiNode
  bindings : List (String × SourceBinding)
  exprs : List (String × ExprPart)

variable [Unicode]

/-- An argument list without the structural `fields`. -/
def SourceDecl.valueArgs (source : SourceDecl) : List (String × SourceArg) :=
  source.args.filter fun arg => match arg with
    | (name, .list _) => decide (name ≠ "fields")
    | (_, .path _) | (_, .text _) | (_, .number _) => true

/-- Arguments in order, up to the first that does not resolve. -/
def resolveArgs (resolve : SourceArg → Option (Option String)) :
    List (String × SourceArg) → Option (Option (List (String × String)))
  | [] => some (some [])
  | (name, arg) :: args =>
    match resolve arg with
    | none => none
    | some none => some none
    | some (some text) =>
      (resolveArgs resolve args).map fun rest => rest.map ((name, text) :: ·)

/-- An item of a list inside a nested call: a call, a value, or the text as written. -/
def nestedItem (call : Path → Option (Option String)) (scope : ValueScope) (item : Path) :
    Option String :=
  (call item.stripState).map fun found =>
    found.getD (((scope.lookup item.stripState).map jsonToKey).getD item.text)

def nestedArg (call : Path → Option (Option String)) (scope : ValueScope) :
    SourceArg → Option (Option String)
  | .text text => some (some text)
  | .number n => some (some (trimNum n))
  | .list items => (items.mapM (nestedItem call scope)).map fun parts =>
      some ("\x01".intercalate parts)
  | .path path => some ((scope.lookup path.stripState).map jsonToKey)

/-- The source that `<source>.<field>` names, and the field. -/
def nestedSource (card : Card) : Path → Option (SourceDecl × Path)
  | owner :: segment :: rest =>
    (card.sources.find? fun source => source.name = [owner]).map fun source =>
      (source, segment :: rest)
  | _ => none

/-- `nested_source_call`: the live call for `<source>.<field>`. -/
def nestedSourceCall (card : Card) (scope : ValueScope) : ℕ → Path → Option (Option String)
  | 0, path => if (nestedSource card path).isSome then none else some none
  | stack + 1, path =>
    match nestedSource card path with
    | none => some none
    | some (source, field) =>
      (resolveArgs (nestedArg (nestedSourceCall card scope stack) scope) source.valueArgs).map
        fun args => args.bind fun args => vmCall ⟨source.helper, args, field⟩

/-- The items of a list, up to the first that neither calls nor resolves. -/
def bindingItems (call : Path → Option (Option String)) (scope : ValueScope) :
    List Path → Option (Option (List String))
  | [] => some (some [])
  | item :: items =>
    match call item.stripState with
    | none => none
    | some found =>
      match found.or ((scope.lookup item.stripState).map jsonToKey) with
      | none => some none
      | some text => (bindingItems call scope items).map fun rest => rest.map (text :: ·)

def bindingArg (call : Path → Option (Option String)) (scope : ValueScope) :
    SourceArg → Option (Option String)
  | .path path => (call path.stripState).map fun found =>
      found.or ((scope.lookup path.stripState).map jsonToKey)
  | .text text => some (some text)
  | .number n => some (some (trimNum n))
  | .list items => (bindingItems call scope items).map fun resolved =>
      some (match resolved with
        | some parts => "\x01".intercalate parts
        | none => ",".intercalate (items.map Path.text))

/-- A path inside a loop is rooted at the binder, and read as one of the collection. -/
def rewriteOrigin (scope : ValueScope) (path : Path) : Path :=
  match scope.originOf path.root with
  | some (collection, index) => collection ++ toString index :: path.tail
  | none => path

/-- The longest declared name that the path starts with; of equal ones the last. -/
def declarationOf (sources : List SourceDecl) (path : Path) : Option SourceDecl :=
  sources.foldl (fun best source =>
    if source.name <+: path ∧ best.all fun other => other.name.length ≤ source.name.length then
      some source
    else best) none

/-- The name of a collection is not part of the field of a row. -/
def bindingField (source : SourceDecl) (path : Path) : Path :=
  match path.drop source.name.length with
  | head :: index :: rest =>
    if isIndex head = false ∧ isIndex index = true then index :: rest else head :: index :: rest
  | field => field

/-- `Realizer::source_binding`. -/
def sourceBinding (card : Card) (scope : ValueScope) (stack : ℕ) (path : Path) :
    Option (Option SourceBinding) :=
  let path := rewriteOrigin scope path
  match declarationOf card.sources path with
  | none => some none
  | some source =>
    (resolveArgs (bindingArg (nestedSourceCall card scope stack) scope) source.valueArgs).map
      fun args => args.map fun args => ⟨source.helper, args, bindingField source path⟩

/-- `Realizer::expr_shape`. -/
def exprShape (card : Card) (scope : ValueScope) (stack : ℕ) : Operand → Option (Option ExprPart)
  | .expr lhs op rhs =>
    match exprShape card scope stack lhs with
    | none => none
    | some none => some none
    | some (some left) => (exprShape card scope stack rhs).map fun right =>
        right.map (.bin left op)
  | .num n => some (some (.const (trimNum n)))
  | .path path => (sourceBinding card scope stack path).map fun
      | some binding => some (.call binding)
      | none => ((scope.lookup path).bind asF64).map fun n => .const (trimNum n)
  | .token _ | .str _ | .predicate .. => some none

structure RealizeLimits where
  (maxNodes maxDepth maxCollection maxWork : ℕ)

inductive RealizeProblem
  | notACollection (path : Path)
  | duplicateKey (key : String)
  | notAView (name : String)
  deriving DecidableEq

/-- What the walk has done so far. -/
structure Walk where
  (work nodes : ℕ)
  truncated : Bool
  live : List String
  problems : List RealizeProblem

/-- A step of the walk; it fails where a source call exhausts the stack. -/
abbrev Realize := StateT Walk Option

/-- What a walk does not change. -/
structure Realizer where
  card : Card
  limits : RealizeLimits
  store : Option InstanceStore
  stack : ℕ

/-- The children of the enclosing component calls by slot, the innermost call first. -/
abbrev Slots := List (List (String × List Element))

/-- `sibling_segments`: siblings are numbered within their name. -/
def siblingSegments : List String → List Element → List (String × Element)
  | _, [] => []
  | seen, child :: children =>
    (child.name ++ "#" ++ toString (seen.count child.name), child) ::
      siblingSegments (child.name :: seen) children

/-- `split_slots`. -/
def splitSlots (children : List Element) : List (String × List Element) :=
  ("", children.filter fun child => child.name ≠ "into") ::
    (children.filter fun child => child.name = "into").map fun group =>
      (group.binders.headD "", group.children)

/-- Something realized for each segment, one after the other. -/
def realizeEach {α : Type} (each : α → Realize (List UiNode)) : List α → Realize (List UiNode)
  | [] => pure []
  | item :: items => do
    let nodes ← each item
    let rest ← realizeEach each items
    return nodes ++ rest

namespace Realizer

variable (self : Realizer)

def chargeWork : Realize Bool := fun walk =>
  if self.limits.maxWork ≤ walk.work ∨ self.limits.maxNodes ≤ walk.nodes then
    some (false, { walk with truncated := true })
  else some (true, { walk with work := walk.work + 1 })

def truncate : Realize (List UiNode) := fun walk => some ([], { walk with truncated := true })

def diagnose (problem : RealizeProblem) : Realize (List UiNode) := fun walk =>
  some ([], { walk with problems := walk.problems ++ [problem] })

/-- `declared_count`. -/
def declaredCount (path : Path) : Option ℕ := do
  let source ← self.card.sources.find? fun source => source.name = path ∨ source.name = [path.root]
  let (_, arg) ← source.args.find? fun arg => arg.1 = "count" ∨ arg.1 = "days"
  let n ← match arg with
    | .number n => some n
    | .path path => do
      let state ← self.card.states.find? fun state => state.path = path.stripState
      state.initial.bind asF64
    | .text _ | .list _ => none
  if F64Ops.le (F64Ops.ofNat 1) n then some (min (F64Ops.truncate n) self.limits.maxCollection)
  else none

def guardHolds (element : Element) (scope : ValueScope) : Bool :=
  match element.args with
  | ⟨_, .path path⟩ :: _ =>
    match element.cmp with
    | none => scope.lookup path = some (.bool true)
    | some cmp => compareValues (scope.lookup path) cmp (element.rhs.bind (scopeValue scope))
  | _ => false

/-- The items a loop runs over; a counted source without data has that many empty rows. -/
def loopItems (path : Path) (scope : ValueScope) : Option Value :=
  match scope.lookup path with
  | some collection => some collection
  | none => (self.declaredCount path).map fun n => .array (List.replicate n (.object []))

/-- The key of a loop's item: what the key expression reads off it, or its index. -/
def itemKey (keyPath : Option Path) (item : Value) (index : ℕ) : String :=
  ((keyPath.bind fun path => path.tail.foldlM getKey item).map jsonToKey).getD (toString index)

/-- The binders of a loop: the item and its number, which counts from one. -/
def loopFrames (binders : List String) (path : Path) (item : Value) (index : ℕ)
    (scope : ValueScope) : ValueScope :=
  match binders with
  | [] => scope
  | [binder] => scope.push ⟨binder, item, some (path, index)⟩
  | binder :: number :: _ => (scope.push ⟨binder, item, some (path, index)⟩).push
      ⟨number, .nat (index + 1), none⟩

/-- What a parameter is bound to. -/
def propValue (param : Param) (supplied : Option Arg) (scope : ValueScope) : Value :=
  match supplied with
  | none => param.default.getD .null
  | some arg =>
    if param.shape = .event then literalOf arg.value
    else
      match arg.value with
      | .token token => .string (bareToken token)
      | .path path | .predicate path _ _ => (scope.lookup path).getD (.string path.text)
      | .str _ | .num _ | .expr .. => literalOf arg.value

/-- The place in a collection that an argument hands on. -/
def propOrigin (supplied : Option Arg) (scope : ValueScope) : Option (Path × ℕ) :=
  match supplied with
  | some ⟨_, .path path⟩ | some ⟨_, .predicate path _ _⟩ => scope.originOf path.root
  | _ => none

/-- Parameters are bound one after the other, each on top of the earlier ones. -/
def bindProps (call : Element) : List Param → ValueScope → ValueScope
  | [], scope => scope
  | param :: params, scope =>
    let supplied := call.args.find? fun arg => arg.name = param.name
    bindProps call params
      (scope.push ⟨param.name, propValue param supplied scope, propOrigin supplied scope⟩)

/-- The cell of a state, if the store holds it under a schema that still counts. -/
def liveCell (component : Component) (instanceKey : String) (state : StateDecl) :
    Option Value :=
  self.store.bind fun store =>
    let current := match store.schemas[component.name]? with
      | none => true
      | some known => known = schemaId component ||
          state.keep && store.shapeUnchanged component state
    if current then store.get instanceKey state.path else none

def bindStates (component : Component) (instanceKey : String) :
    List StateDecl → ValueScope → ValueScope
  | [], scope => scope
  | state :: states, scope =>
    let fromPath := state.initialPath.bind scope.lookup
    let value := (((self.liveCell component instanceKey state).or state.initial).or fromPath).getD
      (initialFor state.shape)
    bindStates component instanceKey states (scope.push ⟨state.path.text, value, none⟩)

/-- One argument of a node: its value, and for the backend its binding or its expression. -/
def nodeArg (scope : ValueScope) (arg : Arg) :
    Option (Option SourceBinding × Option ExprPart) :=
  match arg.value with
  | .path path => (sourceBinding self.card scope self.stack path).map fun binding => (binding, none)
  | .expr lhs op rhs => (exprShape self.card scope self.stack (.expr lhs op rhs)).map fun shape =>
      (none, shape)
  | .token _ | .str _ | .num _ | .predicate .. => some (none, none)

/-- The arguments of a node in order. -/
def nodeArgs (constructor key : String) (scope : ValueScope) (args : List Arg) : Option UiNode :=
  (args.mapM fun arg => (nodeArg self scope arg).map fun lowered => (arg, lowered)).map
    fun lowered =>
      { kind := constructor
        key := key
        args := args.map fun arg => (arg.name, nodeValue constructor arg.name arg.value scope)
        children := []
        bindings := lowered.filterMap fun (arg, binding, _) => binding.map ((arg.name, ·))
        exprs := lowered.filterMap fun (arg, _, shape) => shape.map ((arg.name, ·)) }

/-- How the walk goes on below an element. -/
abbrev Descent := Slots → ValueScope → Element → String → Realize (List UiNode)

def siblings (descend : Element → String → Realize (List UiNode)) (key : String)
    (children : List Element) : Realize (List UiNode) :=
  realizeEach (fun (segment, child) => descend child (key ++ segment)) (siblingSegments [] children)

def realizeConstructor (descend : Descent) (slots : Slots) (scope : ValueScope)
    (element : Element) (key : String) : Realize (List UiNode) := do
  modify fun walk => { walk with nodes := walk.nodes + 1 }
  let node ← self.nodeArgs element.name key scope element.args
  let children ← siblings (descend slots scope) (key ++ "/") element.children
  return [{ node with children }]

/-- The scope of a component's body: the caller's, then the props, then the states. -/
def bodyScope (component : Component) (call : Element) (instanceKey : String)
    (scope : ValueScope) : ValueScope :=
  self.bindStates component instanceKey component.states (bindProps call component.params scope)

def realizeComponent (descend : Descent) (slots : Slots) (scope : ValueScope)
    (component : Component) (call : Element) (key : String) : Realize (List UiNode) := do
  let instanceKey := key ++ "/" ++ component.name
  modify fun walk => { walk with live := walk.live ++ [instanceKey] }
  descend (splitSlots call.children :: slots) (self.bodyScope component call instanceKey scope)
    component.body instanceKey

/-- One item of a loop, with the keys that were seen. A repeated key gets the index. -/
def loopItem (descend : ValueScope → Element → String → Realize (List UiNode))
    (element : Element) (path : Path) (scope : ValueScope) (key : String) (index : ℕ)
    (seen : List String) (item : Value) : Realize (List UiNode × List String) :=
  let itemKey := itemKey element.keyPath item index
  let scope := loopFrames element.binders path item index scope
  if itemKey ∈ seen then do
    let _ ← diagnose (.duplicateKey itemKey)
    let nodes ← siblings (descend scope)
      (key ++ "[" ++ itemKey ++ "#" ++ toString index ++ "]/") element.children
    return (nodes, seen)
  else do
    let nodes ← siblings (descend scope) (key ++ "[" ++ itemKey ++ "]/") element.children
    return (nodes, seen ++ [itemKey])

def loopOver (descend : ValueScope → Element → String → Realize (List UiNode))
    (element : Element) (path : Path) (scope : ValueScope) (key : String) :
    ℕ → List String → List Value → Realize (List UiNode)
  | _, _, [] => pure []
  | index, seen, item :: items => do
    if ← self.chargeWork then
      if self.limits.maxCollection ≤ index then truncate
      else do
        let (nodes, seen) ← loopItem descend element path scope key index seen item
        let rest ← loopOver descend element path scope key (index + 1) seen items
        return nodes ++ rest
    else return []

def realizeLoop (descend : ValueScope → Element → String → Realize (List UiNode))
    (element : Element) (scope : ValueScope) (key : String) : Realize (List UiNode) :=
  match element.args with
  | ⟨_, .path path⟩ :: _ =>
    match self.loopItems path scope with
    | none => pure []
    | some collection =>
      match asArray collection with
      | none => diagnose (.notACollection path)
      | some items => self.loopOver descend element path scope key 0 [] items
  | _ => pure []

/-- `element_inner`. -/
def elementInner (descend : Descent) (slots : Slots) (scope : ValueScope) (element : Element)
    (key : String) : Realize (List UiNode) :=
  if element.name = "" then pure []
  else if element.name = "slot" then
    match slots with
    | [] => pure []
    | groups :: slots =>
      match groups.find? fun group => group.1 = element.binders.headD "" with
      | none => pure []
      | some (_, children) => siblings (descend slots scope) (key ++ "/s:") children
  else if element.name = "for" then self.realizeLoop (descend slots) element scope key
  else if element.name = "when" then
    if guardHolds element scope then siblings (descend slots scope) (key ++ "/w:") element.children
    else pure []
  else if element.isReference then
    match self.card.view? element.name with
    | some view => descend slots scope view.body (key ++ "/" ++ element.name)
    | none => diagnose (.notAView element.name)
  else
    match self.card.component? element.name with
    | some component => self.realizeComponent descend slots scope component element key
    | none => self.realizeConstructor descend slots scope element key

/-- `element`, with the depth that is left. -/
def element : ℕ → Descent
  | 0, _, _, _, _ => do
    let _ ← self.chargeWork
    truncate
  | depth + 1, slots, scope, e, key => do
    if ← self.chargeWork then self.elementInner (element depth) slots scope e key else truncate

end Realizer

/-- What a card's state starts from: its cell, the host's value, the initial, or a capture. -/
def cardStates (store : Option InstanceStore) (data : Value) :
    List StateDecl → List Frame × List (Path × Value)
  | [] => ([], [])
  | state :: states =>
    let (frames, captured) := cardStates store data states
    let stored := ((store.bind (·.get cardStateKey state.path)).or (getKey data state.path.text)).or
      state.initial
    match stored with
    | some value => (frames ++ [⟨state.path.text, value, none⟩], captured)
    | none =>
      match state.initialPath.bind (dataPath data) with
      | some value => (frames ++ [⟨state.path.text, value, none⟩], (state.path, value) :: captured)
      | none => (frames ++ [⟨state.path.text, initialFor state.shape, none⟩], captured)

/-- The scope that the root view is realized in. -/
def Card.valueScope (card : Card) (store : Option InstanceStore) (data : Value) : ValueScope :=
  ⟨(cardStates store data card.states).1, data, card.copies⟩

structure RealizeReport where
  root : Option UiNode
  nodes : ℕ
  truncated : Bool
  problems : List RealizeProblem
  liveKeys : List String
  captured : List (Path × Value)

/-- `realize_inner` for a card that was accepted. -/
def realize (card : Card) (data : Value) (store : Option InstanceStore)
    (limits : RealizeLimits) (stack : ℕ) : Option RealizeReport := do
  let root ← card.view? "root"
  let realizer : Realizer := ⟨card, limits, store, stack⟩
  let (nodes, walk) ← realizer.element limits.maxDepth [] (card.valueScope store data) root.body
    "root" ⟨0, 0, false, [cardStateKey], []⟩
  return ⟨nodes.head?, walk.nodes, walk.truncated, walk.problems, walk.live,
    (cardStates store data card.states).2⟩

end

end Octoscript.Ui
