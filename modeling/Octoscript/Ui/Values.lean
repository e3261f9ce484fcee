import Octoscript.Ui.Check

namespace Octoscript.Ui

open Json

/-- `Value::get` with a key. -/
def getKey (value : Value) (key : String) : Option Value :=
  match value with
  | .object fields => (fields.find? fun field => field.1 = key).map Prod.snd
  | .null | .bool _ | .number _ | .string _ | .array _ => none

/-- `Value::get` with an index. -/
def getIndex (value : Value) (index : ℕ) : Option Value :=
  match value with
  | .array items => items[index]?
  | .null | .bool _ | .number _ | .string _ | .object _ => none

def asStr : Value → Option String
  | .string s => some s
  | .null | .bool _ | .number _ | .array _ | .object _ => none

def asBool : Value → Option Bool
  | .bool b => some b
  | .null | .number _ | .string _ | .array _ | .object _ => none

def asArray : Value → Option (List Value)
  | .array items => some items
  | .null | .bool _ | .number _ | .string _ | .object _ => none

def asU64 : Value → Option ℕ
  | .number n => parseUsize n.text
  | .null | .bool _ | .string _ | .array _ | .object _ => none

/-- One segment of a path into data. -/
def getSegment (value : Value) (segment : String) : Option Value :=
  match parseUsize segment with
  | some index => getIndex value index
  | none => getKey value segment

/-- `data_path`. -/
def dataPath (data : Value) (path : Path) : Option Value := path.foldlM getSegment data

/-- `json_to_key`. -/
def jsonToKey : Value → String
  | .string s => s
  | value => text value

section
variable [F64Ops]

def asF64 : Value → Option F64
  | .number n => if F64Ops.isFinite (F64Ops.ofNumber n) then some (F64Ops.ofNumber n) else none
  | .null | .bool _ | .string _ | .array _ | .object _ => none

/-- `Value::from` of a double. -/
def F64.toValue (x : F64) : Value :=
  if F64Ops.isFinite x then .number (F64Ops.toNumber x) else .null

/-- `initial_for`. -/
def initialFor : Shape → Value
  | .bool => .bool false
  | .enum members => (members.head?.map Json.Value.string).getD .null
  | .text => .string ""
  | .number => (F64Ops.ofNat 0).toValue
  | .record | .collection | .event | .other => .null

def compareNumbers (a : F64) (cmp : Comparator) (b : F64) : Bool :=
  match cmp with
  | .eq => F64Ops.eq a b
  | .ne => !F64Ops.eq a b
  | .lt => F64Ops.lt a b
  | .le => F64Ops.le a b
  | .gt => F64Ops.lt b a
  | .ge => F64Ops.le b a

/-- `compare`: numbers as numbers, anything else only for equality. -/
def compareValues (left : Option Value) (cmp : Comparator) (right : Option Value) :
    Bool :=
  match left, right with
  | some left, some right =>
    match asF64 left, asF64 right with
    | some a, some b => compareNumbers a cmp b
    | _, _ =>
      match cmp with
      | .eq => left = right
      | .ne => left ≠ right
      | .lt | .le | .gt | .ge => false
  | _, _ => false

end

end Octoscript.Ui
