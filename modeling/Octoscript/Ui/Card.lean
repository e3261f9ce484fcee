import Octoscript.Lib.Json

namespace Octoscript.Ui

structure F64 where
  bits : UInt64
  deriving DecidableEq

class F64Ops where
  (add sub mul div rem : F64 → F64 → F64)
  (eq lt le : F64 → F64 → Bool)
  isFinite : F64 → Bool
  ofNat : ℕ → F64
  /-- `as usize`. -/
  truncate : F64 → ℕ
  /-- The double nearest to a JSON number, and the JSON number of a finite double. -/
  ofNumber : Json.Number → F64
  toNumber : F64 → Json.Number
  (round abs : F64 → F64)
  epsilon : F64
  /-- `as i64`. -/
  toI64 : F64 → ℤ
  /-- With one digit after the point. -/
  oneDecimal : F64 → String
  /-- `str::parse` succeeds. -/
  parses : String → Bool
  ofNumber_toNumber : ∀ x, isFinite x = true → ofNumber (toNumber x) = x
  isFinite_zero : isFinite (ofNat 0) = true

/-- Counting numbers in place of doubles; their arithmetic wraps around. -/
@[reducible] def F64Ops.counting : F64Ops where
  add a b := ⟨a.bits + b.bits⟩
  sub a b := ⟨a.bits - b.bits⟩
  mul a b := ⟨a.bits * b.bits⟩
  div a b := ⟨a.bits / b.bits⟩
  rem a b := ⟨a.bits % b.bits⟩
  eq a b := a = b
  lt a b := a.bits < b.bits
  le a b := a.bits ≤ b.bits
  isFinite _ := true
  ofNat n := ⟨UInt64.ofNat n⟩
  truncate a := a.bits.toNat
  ofNumber n := ⟨UInt64.ofNat (Nat.ofDigitChars 10 n.text.toList 0)⟩
  toNumber a := .ofNat a.bits.toNat
  round a := a
  abs a := a
  epsilon := ⟨1⟩
  toI64 a := a.bits.toNat
  oneDecimal a := (Json.Number.ofNat a.bits.toNat).text
  parses s := s ≠ "" && s.toList.all Char.isDigit
  ofNumber_toNumber := by
    intro x _
    simp [Json.Number.ofNat]
  isFinite_zero := rfl

/-- `makepad::trim_num`. -/
def trimNum [F64Ops] (n : F64) : String :=
  if F64Ops.lt (F64Ops.abs (F64Ops.sub n (F64Ops.round n))) F64Ops.epsilon then
    toString (F64Ops.toI64 n)
  else F64Ops.oneDecimal n

/-- A dotted path, as the list of its segments. -/
abbrev Path := List String

namespace Path

/-- The path as it is written. -/
def text (path : Path) : String := ".".intercalate path

/-- `root_of`. -/
def root (path : Path) : String := path.headD ""

def isEmpty (path : Path) : Bool := path.text = ""

/-- Without the leading `state.` by which a source argument names card state. -/
def stripState : Path → Path
  | "state" :: segment :: rest => segment :: rest
  | path => path

/-- The owner in `<owner>.$state`. -/
def statusOwner (path : Path) : Option Path :=
  if 2 ≤ path.length ∧ path.getLast? = some "$state" then some path.dropLast else none

end Path

/-- `[inner]`: an index by the value of another path, which is one segment itself. -/
def indexSegment (segment : String) : Option String :=
  match segment.toList with
  | '[' :: rest => if rest.getLast? = some ']' then some (String.ofList rest.dropLast) else none
  | _ => none

/-- `str::parse::<usize>`. -/
def parseUsize (segment : String) : Option ℕ :=
  let digits := match segment.toList with
    | '+' :: rest => rest
    | chars => chars
  if digits ≠ [] ∧ digits.all Char.isDigit then
    let n := digits.foldl (fun n c => 10 * n + (c.toNat - '0'.toNat)) 0
    if n < 2 ^ 64 then some n else none
  else none

inductive Comparator
  | eq
  | ne
  | lt
  | le
  | gt
  | ge
  deriving DecidableEq

inductive Operator
  | add
  | sub
  | mul
  | div
  | rem
  deriving DecidableEq

inductive Operand
  | path (path : Path)
  | token (token : String)
  | str (text : String)
  | num (n : F64)
  | expr (lhs : Operand) (op : Operator) (rhs : Operand)
  | predicate (path : Path) (cmp : Comparator) (rhs : Operand)
  deriving DecidableEq

/-- `trim_start_matches('.')`. -/
def bareToken (token : String) : String :=
  String.ofList (token.toList.dropWhile (· = '.'))

/-- Every path an operand reads, however deeply nested in an expression. -/
def exprPaths : Operand → List Path
  | .path path => [path]
  | .predicate path _ rhs => path :: exprPaths rhs
  | .expr lhs _ rhs => exprPaths lhs ++ exprPaths rhs
  | .token _ | .str _ | .num _ => []

inductive SourceArg
  | path (path : Path)
  | text (text : String)
  | number (n : F64)
  | list (items : List Path)
  deriving DecidableEq

structure SourceDecl where
  name : Path
  helper : String
  args : List (String × SourceArg)
  deriving DecidableEq

/-- The list a source declares under a name. -/
def SourceDecl.list? (self : SourceDecl) (name : String) : Option (List Path) :=
  match self.args.find? fun arg => arg.1 = name with
  | some (_, .list items) => some items
  | some (_, .path _) | some (_, .text _) | some (_, .number _) | none => none

inductive Shape
  | text
  | number
  | bool
  | enum (members : List String)
  | record
  | collection
  | event
  | other
  deriving DecidableEq

inductive Provenance
  | vocabulary
  | userCopy
  | modelCopy
  deriving DecidableEq

structure CopyDecl where
  name : String
  provenance : Provenance
  locales : List (String × String)
  deriving DecidableEq

structure Param where
  name : String
  shape : Shape
  default : Option Json.Value
  deriving DecidableEq

structure StateDecl where
  path : Path
  shape : Shape
  initial : Option Json.Value
  initialPath : Option Path
  keep : Bool
  deriving DecidableEq

inductive SetSource
  | payload
  | token (token : String)
  | text (text : String)
  | path (path : Path)
  | num (n : F64)
  | bool (b : Bool)
  deriving DecidableEq

inductive Form
  | set (source : SetSource)
  | toggle
  | cycle
  | clear
  | append
  | remove
  | next (path : Path)
  | prev (path : Path)
  | notTotal (text : String)
  deriving DecidableEq

def Form.isCollection : Form → Bool
  | .append | .remove => true
  | .set _ | .toggle | .cycle | .clear | .next _ | .prev _ | .notTotal _ => false

structure Transition where
  target : Path
  form : Form
  tokens : List String
  deriving DecidableEq

structure EventDecl where
  name : String
  transitions : List Transition
  deriving DecidableEq

structure Arg where
  name : String
  value : Operand
  deriving DecidableEq

/-- A constructor, a reference to a view or a component, a loop, a guard or a slot. -/
structure Element where
  name : String
  args : List Arg
  children : List Element
  binders : List String
  isReference : Bool
  cmp : Option Comparator
  rhs : Option Operand
  keyPath : Option Path

/-- A call of a constructor or a component. -/
def Element.call (name : String) (args : List Arg) (children : List Element) : Element :=
  ⟨name, args, children, [], false, none, none, none⟩

/-- A reference to a view. -/
def Element.splice (name : String) : Element := ⟨name, [], [], [], true, none, none, none⟩

structure Component where
  name : String
  params : List Param
  states : List StateDecl
  events : List EventDecl
  body : Element

structure View where
  name : String
  body : Element

structure Card where
  sources : List SourceDecl
  states : List StateDecl
  events : List EventDecl
  copies : List CopyDecl
  components : List Component
  views : List View

namespace Card

def component? (self : Card) (name : String) : Option Component :=
  self.components.find? fun component => component.name = name

def view? (self : Card) (name : String) : Option View :=
  self.views.find? fun view => view.name = name

end Card

namespace Element

mutual

/-- `collect_constructors`. -/
def constructors : Element → List String
  | ⟨name, _, children, _, _, _, _, _⟩ =>
    (if name ≠ "" ∧ name ≠ "for" ∧ name ≠ "when" ∧ name ≠ "slot" then [name] else []) ++
      constructorsOf children

def constructorsOf : List Element → List String
  | [] => []
  | child :: children => child.constructors ++ constructorsOf children

end

mutual

/-- `collect_references`: the views that a body splices. -/
def references : Element → List String
  | ⟨name, _, children, _, isReference, _, _, _⟩ =>
    (if isReference then [name] else []) ++ referencesOf children

def referencesOf : List Element → List String
  | [] => []
  | child :: children => child.references ++ referencesOf children

end

mutual

/-- The slots that appear in an element; an unnamed one is `""`. -/
def slots : Element → List String
  | ⟨name, _, children, binders, _, _, _, _⟩ =>
    (if name = "slot" then [binders.headD ""] else []) ++ slotsOf children

def slotsOf : List Element → List String
  | [] => []
  | child :: children => child.slots ++ slotsOf children

end

mutual

/-- `collect_reads`: the roots that are read, and the records that are pulled in. A loop binder
shadows. -/
def reads : Element → List String × List String
  | ⟨name, args, children, binders, isReference, _, rhs, _⟩ =>
    let own := (args.flatMap fun arg => exprPaths arg.value) ++ (rhs.elim [] exprPaths)
    let pulled := if (isReference ∨ name ≠ "") ∧ name ≠ "" ∧ name ≠ "for" ∧ name ≠ "when" ∧
      name ≠ "slot" then [name] else []
    let inner := readsOf children
    ((own.map Path.root).filter (· ∉ binders) ++ inner.1.filter (· ∉ binders), pulled ++ inner.2)

def readsOf : List Element → List String × List String
  | [] => ([], [])
  | child :: children =>
    (child.reads.1 ++ (readsOf children).1, child.reads.2 ++ (readsOf children).2)

end

end Element

end Octoscript.Ui
