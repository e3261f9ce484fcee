import Octoscript.Lib.Sight
import Octoscript.Ui.Props
import Octoscript.Ui.Walk

namespace Octoscript.Ui

open Sight Unfolding

section
variable [F64Ops] [Unicode]

/-- `sourceBinding`, with the arguments of the source read at the card. -/
def sourceBindingAt (card : Card) (top scope : ValueScope) (stack : ℕ) (path : Path) :
    Option (Option SourceBinding) :=
  let path := rewriteOrigin scope path
  match declarationOf card.sources path with
  | none => some none
  | some source =>
    (resolveArgs (bindingArg (nestedSourceCall card top stack) top) source.valueArgs).map
      fun args => args.map fun args => ⟨source.helper, args, bindingField source path⟩

/-- `exprShape`, with the arguments of the sources read at the card. -/
def exprShapeAt (card : Card) (top scope : ValueScope) (stack : ℕ) :
    Operand → Option (Option ExprPart)
  | .expr lhs op rhs =>
    match exprShapeAt card top scope stack lhs with
    | none => none
    | some none => some none
    | some (some left) => (exprShapeAt card top scope stack rhs).map fun right =>
        right.map (.bin left op)
  | .num n => some (some (.const (trimNum n)))
  | .path path => (sourceBindingAt card top scope stack path).map fun
      | some binding => some (.call binding)
      | none => ((scope.lookup path).bind asF64).map fun n => .const (trimNum n)
  | .token _ | .str _ | .predicate .. => some none

/-- The children of the enclosing component calls by slot, with the scope of the caller. -/
abbrev Closures := List (List (String × List Element) × ValueScope)

abbrev LexicalDescent := Closures → ValueScope → Element → String → Realize (List UiNode)

namespace Realizer

variable (self : Realizer) (top : ValueScope)

def nodeArgAt (scope : ValueScope) (arg : Arg) : Option (Option SourceBinding × Option ExprPart) :=
  match arg.value with
  | .path path =>
    (sourceBindingAt self.card top scope self.stack path).map fun binding => (binding, none)
  | .expr lhs op rhs =>
    (exprShapeAt self.card top scope self.stack (.expr lhs op rhs)).map fun shape => (none, shape)
  | .token _ | .str _ | .num _ | .predicate .. => some (none, none)

def nodeArgsAt (constructor key : String) (scope : ValueScope) (args : List Arg) :
    Option UiNode :=
  (args.mapM fun arg => (nodeArgAt self top scope arg).map fun lowered => (arg, lowered)).map
    fun lowered =>
      { kind := constructor
        key := key
        args := args.map fun arg => (arg.name, nodeValue constructor arg.name arg.value scope)
        children := []
        bindings := lowered.filterMap fun (arg, binding, _) => binding.map ((arg.name, ·))
        exprs := lowered.filterMap fun (arg, _, shape) => shape.map ((arg.name, ·)) }

def lexicalConstructor (descend : LexicalDescent) (closures : Closures) (scope : ValueScope)
    (element : Element) (key : String) : Realize (List UiNode) := do
  modify fun walk => { walk with nodes := walk.nodes + 1 }
  let node ← self.nodeArgsAt top element.name key scope element.args
  let children ← siblings (descend closures scope) (key ++ "/") element.children
  return [{ node with children }]

/-- The frame of a parameter; its argument is read in the caller's scope. -/
def propFrame (call : Element) (caller : ValueScope) (param : Param) : Frame :=
  let supplied := call.args.find? fun arg => arg.name = param.name
  ⟨param.name, propValue param supplied caller, propOrigin supplied caller⟩

/-- The frames of the parameters, the last one innermost. -/
def propFrames (call : Element) (params : List Param) (caller : ValueScope) : List Frame :=
  (params.map (propFrame call caller)).reverse

/-- The scope of a component's body: its parameters and states, over the card's sources. -/
def lexicalScope (component : Component) (call : Element) (instanceKey : String)
    (caller : ValueScope) : ValueScope :=
  self.bindStates component instanceKey component.states
    ⟨propFrames call component.params caller, top.data, top.copies⟩

def lexicalComponent (descend : LexicalDescent) (closures : Closures) (scope : ValueScope)
    (component : Component) (call : Element) (key : String) : Realize (List UiNode) := do
  let instanceKey := key ++ "/" ++ component.name
  modify fun walk => { walk with live := walk.live ++ [instanceKey] }
  descend ((splitSlots call.children, scope) :: closures)
    (self.lexicalScope top component call instanceKey scope) component.body instanceKey

/-- `elementInner` by the text. -/
def lexicalInner (descend : LexicalDescent) (closures : Closures) (scope : ValueScope)
    (element : Element) (key : String) : Realize (List UiNode) :=
  if element.name = "" then pure []
  else if element.name = "slot" then
    match closures with
    | [] => pure []
    | (groups, caller) :: closures =>
      match groups.find? fun group => group.1 = element.binders.headD "" with
      | none => pure []
      | some (_, children) => siblings (descend closures caller) (key ++ "/s:") children
  else if element.name = "for" then self.realizeLoop (descend closures) element scope key
  else if element.name = "when" then
    if guardHolds element scope then
      siblings (descend closures scope) (key ++ "/w:") element.children
    else pure []
  else if element.isReference then
    match self.card.view? element.name with
    | some view => descend closures top view.body (key ++ "/" ++ element.name)
    | none => diagnose (.notAView element.name)
  else
    match self.card.component? element.name with
    | some component => self.lexicalComponent top descend closures scope component element key
    | none => self.lexicalConstructor top descend closures scope element key

/-- `element` by the text. -/
def lexicalElement : ℕ → LexicalDescent
  | 0, _, _, _, _ => do
    let _ ← self.chargeWork
    truncate
  | depth + 1, closures, scope, e, key => do
    if ← self.chargeWork then self.lexicalInner top (lexicalElement depth) closures scope e key
    else truncate

end Realizer

/-- `realize` by the text. -/
def realizeLexical (card : Card) (data : Json.Value) (store : Option InstanceStore)
    (limits : RealizeLimits) (stack : ℕ) : Option RealizeReport := do
  let root ← card.view? "root"
  let realizer : Realizer := ⟨card, limits, store, stack⟩
  let top := card.valueScope store data
  let (nodes, walk) ← realizer.lexicalElement top limits.maxDepth [] top root.body "root"
    ⟨0, 0, false, [cardStateKey], []⟩
  return ⟨nodes.head?, walk.nodes, walk.truncated, walk.problems, walk.live,
    (cardStates store data card.states).2⟩

end

/-- The names that a loop binds for its children. -/
def Element.loopNames (element : Element) : List String := element.binders.take 2

/-- The names that a component binds for its body. -/
def Component.ownNames (component : Component) : List String :=
  component.params.map Param.name ++ component.states.map fun state => state.path.text

def Card.stateNames (card : Card) : List String := card.states.map fun state => state.path.text

/-- The binders in sight by the text, the innermost first, with the heights of their frames. -/
abbrev Sights := List (String × ℕ)

/-- A path is looked up for its value, or a name for the place in a collection that it stands for;
with the stack that it is looked up on. -/
inductive Reading
  | value (scope : ValueScope) (sights : Sights) (path : Path)
  | place (scope : ValueScope) (sights : Sights) (name : String)

namespace Reading

/-- What is found is the binder in sight. -/
def Resolves : Reading → Prop
  | value scope sights path => ∀ name ∈ ValueScope.pathNames path,
      topmost (fun frame => frame.name = name) scope.frames = sights.lookup name
  | place scope sights name =>
      ∀ height ∈ topmost (fun frame => frame.name = name && frame.origin.isSome) scope.frames,
        sights.lookup name = some height

/-- A name is bound again above its binder; or, if its binder stands for no place, another binder of
the name does. -/
def Rebound : Reading → Prop
  | value scope sights path => ∃ name ∈ ValueScope.pathNames path,
      Covered Frame.name scope.frames sights name
  | place scope sights name =>
      ∃ height ∈ topmost (fun frame => frame.name = name && frame.origin.isSome) scope.frames,
        sights.lookup name ≠ some height

instance : DecidablePred Resolves
  | value .. => inferInstanceAs (Decidable (∀ _ ∈ _, _))
  | place scope sights name =>
    match h : topmost (fun frame => frame.name = name && frame.origin.isSome) scope.frames with
    | none => isTrue (by simp [Resolves, h])
    | some height => decidable_of_iff (sights.lookup name = some height) (by simp [Resolves, h])

instance : DecidablePred Rebound
  | value .. => inferInstanceAs (Decidable (∃ _ ∈ _, _))
  | place scope sights name =>
    match h : topmost (fun frame => frame.name = name && frame.origin.isSome) scope.frames with
    | none => isFalse (by simp [Rebound, h])
    | some height => decidable_of_iff (sights.lookup name ≠ some height) (by simp [Rebound, h])

end Reading

/-- A place that the walk comes to, with the binders in sight there and at the enclosing calls. -/
structure Place where
  spot : Spot
  sights : Sights
  callers : List Sights

/-- The paths of an operand that are bound to sources. -/
def boundPaths : Operand → List Path
  | .path path => [path]
  | .expr lhs _ rhs => boundPaths lhs ++ boundPaths rhs
  | .token _ | .str _ | .num _ | .predicate .. => []

section
variable [F64Ops] [Unicode]

/-- The paths that a call looks up: those of the calls in it, and the path if nothing answers. -/
def callPaths (call : Path → Option (Option String)) (nested : Path → List Path) (path : Path) :
    List Path :=
  nested path ++ if call path = some none then [path] else []

/-- The paths that `nestedSourceCall` looks up. -/
def nestedPaths (card : Card) (scope : ValueScope) : ℕ → Path → List Path
  | 0, _ => []
  | stack + 1, path =>
    match nestedSource card path with
    | none => []
    | some (source, _) => source.valueArgs.flatMap fun arg => match arg.2 with
      | .path path => [path.stripState]
      | .list items => items.flatMap fun item => callPaths (nestedSourceCall card scope stack)
          (nestedPaths card scope stack) item.stripState
      | .text _ | .number _ => []

/-- The paths that `sourceBinding` looks up. -/
def bindingPaths (card : Card) (scope : ValueScope) (stack : ℕ) (path : Path) : List Path :=
  match declarationOf card.sources (rewriteOrigin scope path) with
  | none => []
  | some source => source.valueArgs.flatMap fun arg => match arg.2 with
    | .path path =>
      callPaths (nestedSourceCall card scope stack) (nestedPaths card scope stack) path.stripState
    | .list items => items.flatMap fun item =>
        callPaths (nestedSourceCall card scope stack) (nestedPaths card scope stack) item.stripState
    | .text _ | .number _ => []

namespace Realizer

variable (self : Realizer)

def cardSights : Sights := stacked 0 self.card.stateNames.reverse

/-- What the arguments of a call read, each over the parameters before it. -/
def propReadings (call : Element) (sights : Sights) : List Param → ValueScope → List Reading
  | [], _ => []
  | param :: params, scope =>
    (match call.args.find? fun arg => arg.name = param.name with
      | some ⟨_, .path path⟩ | some ⟨_, .predicate path _ _⟩ => .place scope sights path.root ::
          if param.shape = .event then [] else [.value scope sights path]
      | _ => []) ++ propReadings call sights params (bindProps call [param] scope)

/-- What the initials of states read, each over the states before it. -/
def stateReadings (component : Component) (key : String) (height : ℕ) :
    List String → List StateDecl → ValueScope → List Reading
  | _, [], _ => []
  | names, state :: states, scope =>
    (if ((self.liveCell component key state).or state.initial).isNone then
      state.initialPath.toList.map (.value scope (stacked height names))
    else []) ++ stateReadings component key height (state.path.text :: names) states
      (self.bindStates component key [state] scope)

/-- What an argument of a node reads; the arguments of its sources are read at the card. -/
def argReadings (scope : ValueScope) (sights : Sights) (arg : Arg) : List Reading :=
  (exprPaths arg.value).map (.value scope sights) ++
    (boundPaths arg.value).flatMap fun path => .place scope sights path.root ::
      (bindingPaths self.card scope self.stack path).map (.value scope self.cardSights)

/-- What a guard reads; without a comparison it has no right side. -/
def guardReadings (scope : ValueScope) (sights : Sights) (element : Element) : List Reading :=
  match element.args with
  | ⟨_, .path path⟩ :: _ => .value scope sights path ::
      if element.cmp.isSome then (element.rhs.elim [] exprPaths).map (.value scope sights) else []
  | _ => []

/-- What is read at a place. -/
def readings (p : Place) : List Reading :=
  let scope := p.spot.scope
  let element := p.spot.element
  if element.name = "" ∨ element.name = "slot" then []
  else if element.name = "for" then
    match element.args with
    | ⟨_, .path path⟩ :: _ => [.value scope p.sights path]
    | _ => []
  else if element.name = "when" then guardReadings scope p.sights element
  else if element.isReference then []
  else
    match self.card.component? element.name with
    | some component => propReadings element p.sights component.params scope ++
        self.stateReadings component (p.spot.key ++ "/" ++ component.name) scope.frames.length
          (component.params.map Param.name).reverse component.states
          (bindProps element component.params scope)
    | none => element.args.flatMap (self.argReadings scope p.sights)

/-- The binders in sight below a place, and at the calls that enclose it. -/
def sightsBelow (p : Place) : Sights × List Sights :=
  let height := p.spot.scope.frames.length
  let element := p.spot.element
  if element.name = "slot" then
    match p.callers with
    | [] => (p.sights, [])
    | sights :: callers => (sights, callers)
  else if element.name = "for" then
    (stacked height element.loopNames.reverse ++ p.sights, p.callers)
  else if element.name = "when" then (p.sights, p.callers)
  else if element.isReference then (self.cardSights, p.callers)
  else
    match self.card.component? element.name with
    | some component => (stacked height component.ownNames.reverse, p.sights :: p.callers)
    | none => (p.sights, p.callers)

/-- Where the walk goes on from a place. -/
def nextPlaces (p : Place) : List Place :=
  (self.nexts p.spot).map fun spot => ⟨spot, (self.sightsBelow p).1, (self.sightsBelow p).2⟩

/-- The places that a realization comes to. -/
def places (root : View) (data : Json.Value) : List Place :=
  visits self.nextPlaces self.limits.maxDepth
    ⟨⟨[], self.card.valueScope self.store data, root.body, "root"⟩, self.cardSights, []⟩

end Realizer

end

end Octoscript.Ui
