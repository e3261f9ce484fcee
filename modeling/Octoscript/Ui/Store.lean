import Octoscript.Lib.Bytes
import Octoscript.Lib.Debug
import Octoscript.Ui.Values

namespace Octoscript.Ui

open Std (ExtTreeMap)

/-- The key of the card's own cells. -/
def cardStateKey : String := "@card"

section
variable [Unicode]

/-- `format!("{:?}", shape)`. -/
def Shape.debug : Shape → String
  | .text => "Text"
  | .number => "Number"
  | .bool => "Bool"
  | .enum members => "Enum([" ++ Debug.joined (members.map Debug.quoted) ++ "])"
  | .record => "Record"
  | .collection => "Collection"
  | .event => "Event"
  | .other => "Other"

def StateDecl.schemaText (state : StateDecl) : String :=
  state.path.text ++ ":" ++ state.shape.debug ++ ":" ++ Debug.option Debug.value state.initial ++
    ":" ++ Debug.option (fun path => Debug.quoted (Path.text path)) state.initialPath

/-- `schema_id`: the FNV-1a hash of the sorted state declarations. -/
def schemaId (component : Component) : UInt64 :=
  let fields := (component.states.map StateDecl.schemaText).insertionSort (· ≤ ·)
  (Wire.utf8 (",".intercalate fields)).foldl
    (fun acc byte => (acc ^^^ byte.toUInt64) * 0x100000001b3) 0xcbf29ce484222325

end

structure InstanceStore where
  cells : ExtTreeMap String (ExtTreeMap String Json.Value)
  schemas : ExtTreeMap String UInt64
  shapes : ExtTreeMap String (ExtTreeMap String String)

namespace InstanceStore

def empty : InstanceStore := ⟨∅, ∅, ∅⟩

def get (self : InstanceStore) (key : String) (field : Path) : Option Json.Value :=
  self.cells[key]?.bind fun fields => fields[field.text]?

def set (self : InstanceStore) (key : String) (field : Path) (value : Json.Value) : InstanceStore :=
  { self with cells := self.cells.insert key ((self.cells[key]?.getD ∅).insert field.text value) }

/-- The cells of a component's instances go, apart from the fields to keep. -/
def resetComponent (self : InstanceStore) (component : String) (keep : List Path) :
    InstanceStore :=
  { self with
    cells := self.cells.filterMap fun key fields =>
      if ("/" ++ component).toList <:+: key.toList then
        let kept := fields.filter fun field _ => decide (field ∈ keep.map Path.text)
        if kept.isEmpty then none else some kept
      else some fields }

/-- `prune`. -/
def prune (self : InstanceStore) (live : List String) : InstanceStore :=
  { self with cells := self.cells.filter fun key _ => decide (key ∈ live) }

section
variable [Unicode]

def shapeUnchanged (self : InstanceStore) (component : Component) (state : StateDecl) : Bool :=
  (self.shapes[component.name]?.bind fun shapes => shapes[state.path.text]?) =
    some state.shape.debug

/-- The schema and the shapes that the component's cells are written under from now on. -/
def recordSchema (self : InstanceStore) (component : Component) (schema : UInt64) :
    InstanceStore :=
  { self with
    schemas := self.schemas.insert component.name schema
    shapes := self.shapes.insert component.name
      (ExtTreeMap.ofList (component.states.map fun state => (state.path.text, state.shape.debug))) }

def reconcileSchema (self : InstanceStore) (component : Component) (schema : UInt64) :
    InstanceStore :=
  match self.schemas[component.name]? with
  | some known =>
    if known = schema then self
    else
      let keep := (component.states.filter fun state =>
        state.keep && self.shapeUnchanged component state).map StateDecl.path
      (self.resetComponent component.name keep).recordSchema component schema
  | none => self.recordSchema component schema

end

end InstanceStore

end Octoscript.Ui
