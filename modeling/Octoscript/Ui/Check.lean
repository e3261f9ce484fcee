import Octoscript.Lib.Search
import Octoscript.Ui.Catalog

namespace Octoscript.Ui

open F64Ops

def maxUiL0Declarations : ℕ := 1024

inductive Problem
  | noRootView
  | recursive (record : String)
  | defaultShape (component param : String)
  | initialShape (state : Path)
  | readOnlySource (target : Path)
  | verbNotAccepted (helper verb : String)
  | preferenceFields (target : Path) (fields : ℕ)
  | notACollection (target : Path)
  | notAState (target : Path)
  | notTotal (text : String)
  | toggleShape (target : Path)
  | setNumberShape (target : Path)
  | setBoolShape (target : Path)
  | setTokenShape (token : String) (target : Path)
  | tokenNotMember (token : String) (target : Path)
  | setTextShape (target : Path)
  | modelCopyWritten (name : String)
  | copyNotDeclared (name : String)
  | eventRead (root : String)
  | notReadable (root : String)
  | cyclePath (bare : String)
  | cycleMember (member : String) (target : Path)
  | cycleOrder (target : Path)
  | cycleShape (target : Path)
  | walkShape (target : Path)
  | walkSource (path : Path)
  | walkField (path : Path)
  | sourceIsState (path : Path)
  | neverRead (source : Path)
  | unknownHelper (helper : String)
  | fieldNotAnswered (helper : String) (field : Path)
  | stateNotDeclared (root : String)
  | unknownSourceArg (helper name : String)
  | modelCopyRendered (name : String)
  | statusOfNoSource (owner : Path)
  | statusNotLast
  | fieldNotDeclared (root field : String)
  | cardStateInComponent (root : String)
  | notDeclared (root : String)
  | loopKey (root binder : String)
  | constantExpression
  | ignoredReads
  | notAView (name : String)
  | noSlot (component slot : String)
  | notAConstructor (name : String)
  | noArgument (constructor arg : String)
  | noProp (component arg : String)
  | literalReachesData (component arg : String)
  | illegalToken (token constructor arg : String)
  | literalForPath (constructor arg : String)
  | literalForData (constructor arg : String)
  | textForNumber (constructor arg : String)
  | tokenForPath (constructor arg : String)
  | pathForToken (constructor arg : String)
  | notAnEvent (path : Path)
  | propTakesEvent (component param : String)
  | propTakesValue (component param : String)
  | notAMember (token component param : String)
  deriving DecidableEq

/-- A problem, if the condition holds. -/
def report (p : Prop) [Decidable p] (problem : Problem) : List Problem :=
  if p then [problem] else []

@[simp] theorem report_eq_nil {p : Prop} [Decidable p] {problem : Problem} :
    report p problem = [] ↔ ¬p := by
  by_cases h : p <;> simp [report, h]

structure Scope where
  (roots sourceRoots : List Path)
  copies : List CopyDecl
  (events forbiddenState : List String)
  fields : List (Path × List String)

/-- What each source was asked for, if it was asked for fields. -/
def declaredFields (card : Card) : List (Path × List String) :=
  let list (source : SourceDecl) (want : String) : Option (List String) :=
    source.args.findSome? fun arg => match arg with
      | (name, .list items) => if name = want then some (items.map Path.text) else none
      | (_, .path _) | (_, .text _) | (_, .number _) => none
  card.sources.filterMap fun source =>
    (list source "fields").map fun names =>
      (source.name, names ++ (list source "aggregate").getD [])

namespace Scope

def card (card : Card) : Scope where
  roots := card.sources.map SourceDecl.name ++ card.states.map (fun state => [state.path.root]) ++
    [["copy"]]
  sourceRoots := card.sources.map SourceDecl.name
  copies := card.copies
  events := card.events.map EventDecl.name
  forbiddenState := []
  fields := declaredFields card

def component (card : Card) (component : Component) : Scope where
  roots := card.sources.map SourceDecl.name ++ [["copy"]] ++
    component.params.map (fun param => [param.name]) ++
    component.states.map (fun state => [state.path.root])
  sourceRoots := card.sources.map SourceDecl.name
  copies := card.copies
  events := component.events.map EventDecl.name ++
    (component.params.filter fun param => param.shape = .event).map Param.name
  forbiddenState := card.states.map fun state => state.path.root
  fields := declaredFields card

def fieldIsDeclared (self : Scope) (root field : String) : Option Bool :=
  (self.fields.find? fun entry => entry.1 = [root]).map fun entry => decide (field ∈ entry.2)

/-- The first source of this root also answers a nested collection. -/
def noteStructural (self : Scope) : Path → Scope
  | root :: segment :: rest =>
    let field := Path.text (segment :: rest)
    let rec note : List (Path × List String) → List (Path × List String)
      | [] => []
      | (name, names) :: fields =>
        if name = [root] then (name, if field ∈ names then names else names ++ [field]) :: fields
        else (name, names) :: note fields
    { self with fields := note self.fields }
  | _ => self

/-- Whether a path is covered by a declared name. -/
def knows (self : Scope) (path : Path) : Bool :=
  self.roots.any fun root => root.isPrefixOf path

end Scope

def isIndex (segment : String) : Bool :=
  segment ≠ "" ∧ segment.toList.all Char.isDigit

/-- The field that a path reads off its root: the first segment that is not an index. -/
def fieldOf (path : Path) : String := (path.tail.dropWhile isIndex).headD ""

/-- The known root of a path was asked for the field it reads. -/
def checkField (scope : Scope) (path : Path) : List Problem :=
  let field := fieldOf path
  report (field ≠ "" ∧ field.toList.head? ≠ some '$' ∧ field.toList.head? ≠ some '[' ∧
    scope.fieldIsDeclared path.root field = some false) (.fieldNotDeclared path.root field)

def checkCopy (scope : Scope) (name : String) : List Problem :=
  match scope.copies.find? fun copy => copy.name = name with
  | some copy => report (copy.provenance = .modelCopy) (.modelCopyRendered name)
  | none => [.copyNotDeclared name]

/-- An index segment holds a path of its own, shorter than the whole. -/
def checkPathWithin : ℕ → Scope → Path → List Problem
  | 0, _, _ => []
  | fuel + 1, scope, path =>
    if path.isEmpty then []
    else
      match path with
      | "copy" :: segment :: rest => checkCopy scope (Path.text (segment :: rest))
      | _ =>
        (path.filterMap indexSegment).flatMap (fun inner => checkPathWithin fuel scope [inner]) ++
        match path.statusOwner with
        | some owner => report (owner ∉ scope.sourceRoots) (.statusOfNoSource owner)
        | none =>
          if ∃ segment ∈ path, "$state".toList <:+: segment.toList then [.statusNotLast]
          else if scope.knows path then checkField scope path
          else if path.root ∈ scope.forbiddenState then [.cardStateInComponent path.root]
          else [.notDeclared path.root]

def checkPath (scope : Scope) (path : Path) : List Problem :=
  checkPathWithin (path.text.length + 1) scope path

section
variable [F64Ops]

def applyOp (a : F64) (op : Operator) (b : F64) : Option F64 :=
  let finite (v : F64) : Option F64 := if isFinite v then some v else none
  match op with
  | .add => finite (add a b)
  | .sub => finite (sub a b)
  | .mul => finite (mul a b)
  | .div => if eq b (ofNat 0) then none else finite (div a b)
  | .rem => if eq b (ofNat 0) then none else finite (rem a b)

def foldExpr (resolve : Path → Option F64) : Operand → Option F64
  | .num n => some n
  | .path path => resolve path
  | .expr lhs op rhs => do
    let a ← foldExpr resolve lhs
    let b ← foldExpr resolve rhs
    applyOp a op b
  | .predicate .. | .token _ | .str _ => none

/-- The paths of an expression, in order and each once. -/
def sortedPaths (expr : Operand) : List Path :=
  ((exprPaths expr).insertionSort fun a b => a.text ≤ b.text).destutter (· ≠ ·)

/-- The answer with every path bound to its own number. -/
def probe (expr : Operand) (base step : ℕ) : Option F64 :=
  foldExpr (fun path => (List.idxOf? path (sortedPaths expr)).map fun i =>
    add (ofNat base) (mul (ofNat step) (ofNat i))) expr

/-- The answer does not move with what the expression reads. -/
def exprIsConstant (expr : Operand) : Bool :=
  if exprPaths expr = [] then false
  else
    match probe expr 2 1, probe expr 5 3, probe expr 11 7 with
    | some a, some b, some c => eq a b && eq b c
    | _, _, _ => false

/-- An expression reads something and depends on it; every path is checked. -/
def checkExpr (scope : Scope) (operand : Operand) : List Problem :=
  (match operand with
    | .expr .. =>
      if exprPaths operand = [] then [.constantExpression]
      else report (exprIsConstant operand = true) .ignoredReads
    | .path _ | .token _ | .str _ | .num _ | .predicate .. => []) ++
  (exprPaths operand).flatMap (checkPath scope)

end

/-- Which parameters of which components end up in a data position. -/
abbrev DataPositions := List (String × List String)

namespace DataPositions

def params (self : DataPositions) (component : String) : List String :=
  ((self.find? fun entry => entry.1 = component).map Prod.snd).getD []

/-- The parameters that are not there yet are added. -/
def add (self : DataPositions) (component : String) (found : List String) : DataPositions :=
  let extend (names : List String) : List String :=
    found.foldl (fun names name => if name ∈ names then names else names ++ [name]) names
  match self with
  | [] => [(component, extend [])]
  | (name, names) :: rest =>
    if name = component then (name, extend names) :: rest
    else (name, names) :: add rest component found

end DataPositions

mutual

/-- The parameters that an element puts into a data position, itself or by way of a component
that does. -/
def dataParams (names : List String) (tainted : DataPositions) : Element → List String
  | ⟨name, args, children, _, _, _, _, _⟩ =>
    (args.filterMap fun arg => match arg.value with
      | .path path =>
        if path.root ∈ names ∧ (Catalog.argKind name arg.name = some .data ∨
            Catalog.argKind name arg.name = some .path ∨ arg.name ∈ tainted.params name) then
          some path.root
        else none
      | .token _ | .str _ | .num _ | .expr .. | .predicate .. => none) ++
      dataParamsOf names tainted children

def dataParamsOf (names : List String) (tainted : DataPositions) : List Element → List String
  | [] => []
  | child :: children => dataParams names tainted child ++ dataParamsOf names tainted children

end

/-- One round over the components. -/
def dataPositionRound (card : Card) (tainted : DataPositions) : DataPositions :=
  card.components.foldl (fun tainted component =>
    tainted.add component.name
      (dataParams (component.params.map Param.name) tainted component.body)) tainted

/-- `data_position_params`. -/
def dataPositionParams (card : Card) : DataPositions :=
  (dataPositionRound card)^[card.components.length +
    (card.components.map fun component => component.params.length).sum + 2] []

def checkProp (component : String) (arg : Arg) (param : Param) (scope : Scope) : List Problem :=
  match param.shape, arg.value with
  | .event, .path path =>
    report (path ∉ scope.events.map ([·])) (.propTakesEvent component param.name)
  | .event, .str _ | .event, .num _ | .event, .token _ => [.propTakesEvent component param.name]
  | .event, .expr .. | .event, .predicate .. => []
  | _, .path path => report (path ∈ scope.events.map ([·])) (.propTakesValue component param.name)
  | .enum members, .token token =>
    report (bareToken token ∉ members) (.notAMember token component param.name)
  | _, _ => []

section
variable [F64Ops]

/-- The value of an argument against what its position admits; a component's prop has no kind. -/
def checkValue (constructor : String) (arg : Arg) (kind : Option Catalog.ArgKind) (scope : Scope) :
    List Problem :=
  match arg.value, kind with
  | .token token, some (.token set) | .token token, some (.tokenOrPath set) =>
    report (bareToken token ∉ set) (.illegalToken token constructor arg.name)
  | .str _, some .path | .num _, some .path => [.literalForPath constructor arg.name]
  | .token _, some .data | .str _, some .data | .num _, some .data =>
    [.literalForData constructor arg.name]
  | .str _, some .number => [.textForNumber constructor arg.name]
  | .token _, some .path => [.tokenForPath constructor arg.name]
  | .path _, some (.token _) => [.pathForToken constructor arg.name]
  | .path path, some .event => report (path ∉ scope.events.map ([·])) (.notAnEvent path)
  | .path path, none => if path ∈ scope.events.map ([·]) then [] else checkPath scope path
  | .path path, some _ => checkPath scope path
  | .predicate path _ rhs, _ => checkPath scope path ++ checkExpr scope rhs
  | .expr lhs op rhs, _ => checkExpr scope (.expr lhs op rhs)
  | _, _ => []

/-- An argument of a component: it names a prop, and a literal does not reach a data position. -/
def checkComponentArg (dataPositions : DataPositions) (component : Component) (arg : Arg)
    (scope : Scope) : List Problem :=
  match component.params.find? fun param => param.name = arg.name with
  | some param =>
    checkProp component.name arg param scope ++
    match arg.value with
    | .str _ | .num _ => report (arg.name ∈ dataPositions.params component.name)
        (.literalReachesData component.name arg.name)
    | .path _ | .token _ | .expr .. | .predicate .. => []
  | none => [.noProp component.name arg.name]

def checkArg (card : Card) (dataPositions : DataPositions) (constructor : String) (arg : Arg)
    (scope : Scope) : List Problem :=
  match Catalog.lookup constructor with
  | some args =>
    match args.find? fun entry => entry.1 = arg.name with
    | some (_, kind) => checkValue constructor arg (some kind) scope
    | none => [.noArgument constructor arg.name]
  | none =>
    match card.component? constructor with
    | some component =>
      checkComponentArg dataPositions component arg scope ++ checkValue constructor arg none scope
    | none => []

/-- The groups that a call site directs at named slots name slots that the component has. -/
def checkSlots (component : Component) (children : List Element) : List Problem :=
  children.flatMap fun child =>
    report (child.name = "into" ∧ child.binders.headD "" ∉ component.body.slots)
      (.noSlot component.name (child.binders.headD ""))

/-- What a `for` element introduces and reads. -/
def walkFor (args : List Arg) (binders : List String) (keyPath : Option Path) (scope : Scope) :
    Scope × List Problem :=
  let keyProblems := match binders.head?, keyPath with
    | some binder, some key => report (key.root ≠ binder) (.loopKey key.root binder)
    | _, _ => []
  let scope := { scope with roots := scope.roots ++ binders.map ([·]) }
  match args with
  | ⟨_, .path path⟩ :: _ =>
    let scope := scope.noteStructural path
    let problems := checkPath scope path
    let scope := match binders.head?, scope.fields.find? fun entry => entry.1 = [path.root] with
      | some binder, some (_, names) => { scope with fields := scope.fields ++ [([binder], names)] }
      | _, _ => scope
    (scope, keyProblems ++ problems)
  | _ => (scope, keyProblems)

def walkWhen (args : List Arg) (rhs : Option Operand) (scope : Scope) : List Problem :=
  match args with
  | ⟨_, .path path⟩ :: _ => checkPath scope path ++ rhs.elim [] (checkExpr scope)
  | _ => []

/-- An element by itself. -/
def walkElement (card : Card) (dataPositions : DataPositions) (element : Element) (scope : Scope) :
    Scope × List Problem :=
  if element.name = "" ∨ element.name = "slot" ∨ element.name = "into" then (scope, [])
  else if element.name = "for" then walkFor element.args element.binders element.keyPath scope
  else if element.name = "when" then (scope, walkWhen element.args element.rhs scope)
  else if element.isReference then
    (scope, report (element.name ∉ card.views.map View.name) (.notAView element.name))
  else
    (scope,
      ((card.component? element.name).elim [] fun component =>
        checkSlots component element.children) ++
      report (Catalog.lookup element.name = none ∧ card.component? element.name = none)
        (.notAConstructor element.name) ++
      element.args.flatMap fun arg => checkArg card dataPositions element.name arg scope)

mutual

/-- Binders go out of scope with their loop; what was noted about fields stays. -/
def walk (card : Card) (dataPositions : DataPositions) : Element → Scope → Scope × List Problem
  | ⟨name, args, children, binders, isReference, cmp, rhs, keyPath⟩, scope =>
    let (scope, problems) := walkElement card dataPositions
      ⟨name, args, children, binders, isReference, cmp, rhs, keyPath⟩ scope
    let (scope, inner) := walkAll card dataPositions children scope
    let scope := if name = "for" then
        { scope with roots := scope.roots.take (scope.roots.length - binders.length) }
      else scope
    (scope, problems ++ inner)

def walkAll (card : Card) (dataPositions : DataPositions) :
    List Element → Scope → Scope × List Problem
  | [], scope => (scope, [])
  | child :: children, scope =>
    let (scope, problems) := walk card dataPositions child scope
    let (scope, rest) := walkAll card dataPositions children scope
    (scope, problems ++ rest)

end

end

/-- `value_fits_shape`. -/
def valueFitsShape (shape : Shape) (value : Json.Value) : Bool :=
  match shape, value with
  | .text, .string _ => true
  | .number, .number _ => true
  | .bool, .bool _ => true
  | .enum members, .string text => decide (text ∈ members)
  | .record, _ | .collection, _ | .event, _ | .other, _ => true
  | _, _ => false

def checkStateInitials (states : List StateDecl) : List Problem :=
  states.flatMap fun state => match state.initial with
    | some initial => report (valueFitsShape state.shape initial = false) (.initialShape state.path)
    | none => []

def Form.verb : Form → String
  | .append => "append"
  | .remove => "remove"
  | .set _ => "set"
  | .clear => "clear"
  | .toggle => "toggle"
  | .cycle => "cycle"
  | .next _ | .prev _ | .notTotal _ => ""

def Form.isPreferenceWrite : Form → Bool
  | .set _ | .clear => true
  | .toggle | .cycle | .append | .remove | .next _ | .prev _ | .notTotal _ => false

/-- The key of a written preference is the one field that its source declares. -/
def checkPreference (source : SourceDecl) (transition : Transition) : List Problem :=
  let fields := ((source.list? "fields").map List.length).getD 0
  report (source.helper = "sys.prefs" ∧ transition.form.isPreferenceWrite = true ∧ fields ≠ 1)
    (.preferenceFields transition.target fields)

/-- A transition that writes through a source. -/
def checkSourceTransition (source : SourceDecl) (transition : Transition) : List Problem :=
  (match Catalog.mutable source.helper with
    | none => [.readOnlySource transition.target]
    | some verbs => report (transition.form.verb ∉ verbs)
        (.verbNotAccepted source.helper transition.form.verb)) ++
  checkPreference source transition

/-- What `set(path)` may read. -/
def checkSetPath (readable eventNames : List String) (copies : List CopyDecl) (path : Path) :
    List Problem :=
  (match path with
    | "copy" :: segment :: rest =>
      let name := Path.text (segment :: rest)
      match copies.find? fun copy => copy.name = name with
      | some copy => report (copy.provenance = .modelCopy) (.modelCopyWritten name)
      | none => [.copyNotDeclared name]
    | _ => []) ++
  if path.root ∈ eventNames then [.eventRead path.root]
  else report (path.root ∉ readable) (.notReadable path.root)

def checkCycle (members tokens : List String) (target : Path) : List Problem :=
  (tokens.flatMap fun member => match member.toList with
    | '!' :: bare => [.cyclePath (String.ofList bare)]
    | _ => report (member ∉ members) (.cycleMember member target)) ++
  report (tokens ≠ [] ∧ (∀ token ∈ tokens, token ∈ members) ∧ tokens ≠ members) (.cycleOrder target)

/-- The collection walk: a text state over a declared field of a source. -/
def checkWalk (state : StateDecl) (sources : List SourceDecl) (target path : Path) : List Problem :=
  report (state.shape ≠ .text) (.walkShape target) ++
  match sources.find? fun source => source.name = [path.root] with
  | none => [.walkSource path]
  | some source =>
    let field := Path.text path.tail
    let declared := (source.list? "fields").map (·.map Path.text)
    report (field = "" ∨ declared.any (field ∉ ·) = true) (.walkField path)

def checkStateTransition (state : StateDecl) (readable eventNames : List String)
    (copies : List CopyDecl) (sources : List SourceDecl) (transition : Transition) : List Problem :=
  match transition.form with
  | .notTotal text => [.notTotal text]
  | .toggle => report (state.shape ≠ .bool) (.toggleShape transition.target)
  | .set (.num _) => report (state.shape ≠ .number ∧ state.shape ≠ .other)
      (.setNumberShape transition.target)
  | .set (.bool _) => report (state.shape ≠ .bool ∧ state.shape ≠ .other)
      (.setBoolShape transition.target)
  | .set (.token token) =>
    match state.shape with
    | .enum members => report (token ∉ members) (.tokenNotMember token transition.target)
    | .other => []
    | .text | .number | .bool | .record | .collection | .event =>
      [.setTokenShape token transition.target]
  | .set (.text _) => report (state.shape ≠ .text ∧ state.shape ≠ .other)
      (.setTextShape transition.target)
  | .set (.path path) => checkSetPath readable eventNames copies path
  | .set .payload => []
  | .cycle =>
    match state.shape with
    | .enum members => checkCycle members transition.tokens transition.target
    | .text | .number | .bool | .record | .collection | .event | .other =>
      [.cycleShape transition.target]
  | .next path | .prev path => checkWalk state sources transition.target path
  | .clear | .append | .remove => []

def checkTransition (states : List StateDecl) (readable eventNames : List String)
    (copies : List CopyDecl) (sources : List SourceDecl) (transition : Transition) : List Problem :=
  match sources.find? fun source => source.name = transition.target with
  | some source => checkSourceTransition source transition
  | none =>
    if transition.form.isCollection then [.notACollection transition.target]
    else
      match states.find? fun state => state.path = transition.target with
      | none => [.notAState transition.target]
      | some state => checkStateTransition state readable eventNames copies sources transition

/-- `check_event_batch`. -/
def checkEventBatch (events : List EventDecl) (states : List StateDecl)
    (readable eventNames : List String) (copies : List CopyDecl) (sources : List SourceDecl) :
    List Problem :=
  events.flatMap fun event =>
    event.transitions.flatMap (checkTransition states readable eventNames copies sources)

def checkDefaults (component : Component) : List Problem :=
  component.params.flatMap fun param => match param.default with
    | some default => report (valueFitsShape param.shape default = false)
        (.defaultShape component.name param.name)
    | none => []

def checkInitialPaths (scope : Scope) (states : List StateDecl) : List Problem :=
  states.flatMap fun state => state.initialPath.elim [] (checkPath scope)

def validateTransitions (card : Card) : List Problem :=
  checkStateInitials card.states ++
  (card.components.flatMap fun component =>
    checkStateInitials component.states ++ checkDefaults component) ++
  checkInitialPaths (.card card) card.states ++
  (card.components.flatMap fun component =>
    checkInitialPaths (.component card component) component.states) ++
  checkEventBatch card.events card.states
    (card.sources.map (·.name.root) ++ card.states.map (·.path.root) ++ ["copy"])
    (card.events.map EventDecl.name) card.copies card.sources ++
  card.components.flatMap fun component =>
    checkEventBatch component.events component.states
      (card.sources.map (·.name.root) ++ ["copy"] ++
        (component.params.filter fun param => param.shape ≠ .event).map Param.name ++
        component.states.map (·.path.root))
      (component.events.map EventDecl.name ++
        (component.params.filter fun param => param.shape = .event).map Param.name)
      card.copies card.sources

/-- The names that something in the card reads. -/
def readNames (card : Card) : List String :=
  (card.views.map View.body ++ card.components.map Component.body).flatMap
    (fun body => body.reads.1 ++ body.reads.2) ++
  (card.sources.flatMap fun source => source.args.flatMap fun arg => match arg with
    | (_, .path path) => [path.root]
    | (name, .list items) => if name ≠ "fields" then items.map Path.root else []
    | (_, .text _) | (_, .number _) => []) ++
  (card.states.filterMap fun state => state.initialPath.map Path.root) ++
  (if card.copies ≠ [] then ["env", "env.locale"] else []) ++
  card.events.flatMap fun event => event.transitions.map fun transition => transition.target.root

/-- The fields that a source asks for are ones its capability answers. -/
def checkRequested (source : SourceDecl) : List Problem :=
  source.args.flatMap fun arg => match arg with
    | (name, .list requested) =>
      let known := if name = "fields" then Catalog.answers source.helper
        else if name = "aggregate" then some (Catalog.aggregates source.helper) else none
      known.elim [] fun known =>
        requested.flatMap fun field =>
          report (field.text ∉ known) (.fieldNotAnswered source.helper field)
    | (_, .path _) | (_, .text _) | (_, .number _) => []

def checkSourceArgs (card : Card) (source : SourceDecl) (accepted : List String) : List Problem :=
  source.args.flatMap fun arg =>
    (match arg.2 with
      | .path ("state" :: segment :: rest) =>
        report (∀ state ∈ card.states, state.path.root ≠ Path.root (segment :: rest))
          (.stateNotDeclared segment)
      | .path path => checkPath (.card card) path
      | .text _ | .number _ | .list _ => []) ++
    report (arg.1 ∉ accepted) (.unknownSourceArg source.helper arg.1)

def validateSources (card : Card) : List Problem :=
  (card.states.flatMap fun state =>
    report (state.path ∈ card.sources.map SourceDecl.name) (.sourceIsState state.path)) ++
  (card.sources.flatMap fun source =>
    report (source.name.text ∉ readNames card ∧ source.name.root ∉ readNames card)
      (.neverRead source.name)) ++
  card.sources.flatMap fun source => match Catalog.source source.helper with
    | none => [.unknownHelper source.helper]
    | some accepted => checkRequested source ++ checkSourceArgs card source accepted

/-- The records of a card and the names that each refers to. -/
def declarations (card : Card) : List (String × List String) :=
  card.components.map (fun component =>
    (component.name, component.body.constructors ++ component.body.references)) ++
  card.views.map fun view => (view.name, view.body.constructors ++ view.body.references)

/-- Only the names of records, adjacent repetitions left out. -/
def declarationEdges (card : Card) : List (String × List String) :=
  let names := (declarations card).map Prod.fst
  (declarations card).map fun record =>
    (record.1, (record.2.filter (· ∈ names)).destutter (· ≠ ·))

def referenced (edges : List (String × List String)) (name : String) : List String :=
  ((edges.find? fun record => record.1 = name).map Prod.snd).getD []

/-- The references of a record, the last one first: they are popped from the end. -/
def pending (edges : List (String × List String)) (name : String) : List String :=
  (referenced edges name).reverse

/-- No record finds a way back to itself; the search gives up after so many steps. -/
def checkComponentAcyclicity (card : Card) : List Problem :=
  let edges := declarationEdges card
  edges.flatMap fun record =>
    report (Search.finds (pending edges) record.1 maxUiL0Declarations (pending edges record.1)
      [record.1] = true) (.recursive record.1)

section
variable [F64Ops]

def validate (card : Card) : List Problem :=
  report ("root" ∉ card.views.map View.name) .noRootView ++
  checkComponentAcyclicity card ++
  validateTransitions card ++
  validateSources card ++
  (card.views.flatMap fun view => (walk card (dataPositionParams card) view.body (.card card)).2) ++
  card.components.flatMap fun component =>
    (walk card (dataPositionParams card) component.body (.component card component)).2

/-- The checker accepts the card. -/
def Card.Accepted (card : Card) : Prop := validate card = []

instance (card : Card) : Decidable card.Accepted := inferInstanceAs (Decidable (_ = _))

end

end Octoscript.Ui
