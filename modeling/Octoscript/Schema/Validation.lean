import Octoscript.Lib.Debug
import Octoscript.Schema.ExactNumber

namespace Octoscript
open Wire Json

def maxSchemaDepth : ℕ := 32
def maxSchemaProperties : ℕ := 128
def maxSchemaEnumValues : ℕ := 128
def maxSchemaBytes : ℕ := 32 * 1024

inductive SchemaError
  | expectedObject (path : String)
  | invalidKeyword (path keyword message : String)
  | unsupportedKeyword (path keyword : String)
  | tooDeep (maximum : ℕ)
  | tooManyProperties (maximum : ℕ)
  | tooManyEnumValues (maximum : ℕ)
  | tooLarge (maximum : ℕ)
  deriving DecidableEq

structure StringConstraints where
  (minLength maxLength : Option ℕ)

mutual

inductive SchemaKind
  | any
  | null
  | boolean
  | number (constraints : NumericConstraints)
  | integer (constraints : NumericConstraints)
  | string (constraints : StringConstraints)
  | array (constraints : ArrayConstraints)
  | object (constraints : ObjectConstraints)

structure ArrayConstraints where
  items : Option SchemaNode
  (minItems maxItems : Option ℕ)

structure ObjectConstraints where
  properties : List (String × SchemaNode)
  required : Std.ExtTreeSet String
  additionalProperties : Bool

structure SchemaNode where
  kind : SchemaKind
  enumValues : Option (List Value)

end

structure JsonSchema where
  source : Value
  node : SchemaNode

namespace Schema
variable [Unicode]

/-- The members of an object. -/
abbrev Members := List (String × Value)

def asObject : Value → Option Members
  | .object members => some members
  | .null | .bool _ | .number _ | .string _ | .array _ => none

def asArray : Value → Option (List Value)
  | .array items => some items
  | .null | .bool _ | .number _ | .string _ | .object _ => none

def asStr : Value → Option String
  | .string s => some s
  | .null | .bool _ | .number _ | .array _ | .object _ => none

/-- `Value::as_u64`: a text of digits that fits. -/
def asU64 : Value → Option ℕ
  | .number n =>
    if n.text.toList.all Char.isDigit = true ∧ Nat.ofDigitChars 10 n.text.toList 0 < 2 ^ 64 then
      some (Nat.ofDigitChars 10 n.text.toList 0)
    else none
  | .null | .bool _ | .string _ | .array _ | .object _ => none

def containsKey (object : Members) (key : String) : Bool := (object.lookup key).isSome

def supportedKeywords : List String :=
  ["type", "properties", "required", "additionalProperties", "items", "minItems", "maxItems",
    "minLength", "maxLength", "minimum", "maximum", "enum", "title", "description", "default",
    "examples", "$schema", "$id"]

def annotations : List String :=
  ["title", "description", "default", "examples", "$schema", "$id"]

def universalKeywords : List String := ["type", "enum"]

def validateKeywords (object : Members) (path : String) : Except SchemaError Unit :=
  object.forM fun member =>
    rejectIf (member.1 ∉ supportedKeywords) (.unsupportedKeyword path member.1)

def unsupportedType (kind path : String) : SchemaError :=
  .invalidKeyword path "type" ("unsupported type " ++ Debug.quoted kind)

def typeKeywords (kind path : String) : Except SchemaError (List String) :=
  if kind = "number" ∨ kind = "integer" then .ok ["minimum", "maximum"]
  else if kind = "string" then .ok ["minLength", "maxLength"]
  else if kind = "array" then .ok ["items", "minItems", "maxItems"]
  else if kind = "object" then .ok ["properties", "required", "additionalProperties"]
  else if kind = "null" ∨ kind = "boolean" ∨ kind = "any" then .ok []
  else .error (unsupportedType kind path)

def validateTypeKeywords (object : Members) (path kind : String) : Except SchemaError Unit := do
  let keywords ← typeKeywords kind path
  object.forM fun member =>
    rejectIf (member.1 ∉ annotations ∧ member.1 ∉ universalKeywords ∧ member.1 ∉ keywords)
      (.invalidKeyword path member.1 ("does not apply to " ++ kind))

/-- The value of a keyword, if there is one. -/
def parseKeyword {α : Type} (read : Value → Option α) (message : String) (object : Members)
    (keyword path : String) : Except SchemaError (Option α) :=
  match object.lookup keyword with
  | none => .ok none
  | some value => do
    let read ← (read value).okOr (.invalidKeyword path keyword message)
    return some read

def parseUsize (object : Members) (keyword path : String) : Except SchemaError (Option ℕ) :=
  parseKeyword asU64 "must be a non-negative integer" object keyword path

def parseNumber (object : Members) (keyword path : String) :
    Except SchemaError (Option ExactNumber) :=
  parseKeyword ExactNumber.fromValue "must be a supported JSON number" object keyword path

def parseNumeric (object : Members) (path : String) : Except SchemaError NumericConstraints := do
  let minimum ← parseNumber object "minimum" path
  let maximum ← parseNumber object "maximum" path
  rejectIf (∃ lo ∈ minimum, ∃ hi ∈ maximum, lo.compare hi = .gt)
    (.invalidKeyword path "minimum" "cannot exceed maximum")
  return ⟨minimum, maximum⟩

/-- A lower and an upper limit of a count. -/
def parseLimits (object : Members) (path lower upper : String) :
    Except SchemaError (Option ℕ × Option ℕ) := do
  let minimum ← parseUsize object lower path
  let maximum ← parseUsize object upper path
  rejectIf (∃ lo ∈ minimum, ∃ hi ∈ maximum, lo > hi)
    (.invalidKeyword path lower ("cannot exceed " ++ upper))
  return (minimum, maximum)

def parseString (object : Members) (path : String) : Except SchemaError StringConstraints := do
  let limits ← parseLimits object path "minLength" "maxLength"
  return ⟨limits.1, limits.2⟩

def propertyPath (path key : String) : String := path ++ "[" ++ Debug.quoted key ++ "]"

section
variable (compile : Value → String → Except SchemaError SchemaNode)

def parseArray (object : Members) (path : String) : Except SchemaError ArrayConstraints := do
  let limits ← parseLimits object path "minItems" "maxItems"
  let items ← match object.lookup "items" with
    | none => .ok none
    | some schema => (compile schema (path ++ ".items")).map some
  return ⟨items, limits.1, limits.2⟩

def parseProperties (object : Members) (path : String) :
    Except SchemaError (List (String × SchemaNode)) :=
  match object.lookup "properties" with
  | none => .ok []
  | some schemas => do
    let schemas ← (asObject schemas).okOr (.invalidKeyword path "properties" "must be an object")
    rejectIf (schemas.length > maxSchemaProperties) (.tooManyProperties maxSchemaProperties)
    schemas.mapM fun member => do
      let node ← compile member.2 (propertyPath path member.1)
      return (member.1, node)

def parseRequiredKeys (path : String) :
    Std.ExtTreeSet String → List Value → Except SchemaError (Std.ExtTreeSet String)
  | required, [] => .ok required
  | required, value :: values => do
    let key ← (asStr value).okOr (.invalidKeyword path "required" "must contain strings")
    rejectIf (key ∈ required) (.invalidKeyword path "required" "cannot contain duplicates")
    parseRequiredKeys path (required.insert key) values

def parseRequired (object : Members) (path : String) :
    Except SchemaError (Std.ExtTreeSet String) :=
  match object.lookup "required" with
  | none => .ok ∅
  | some values => do
    let values ← (asArray values).okOr (.invalidKeyword path "required" "must be an array")
    parseRequiredKeys path ∅ values

def parseAdditionalProperties (object : Members) (path : String) : Except SchemaError Bool :=
  match object.lookup "additionalProperties" with
  | some (.bool value) => .ok value
  | some _ => .error (.invalidKeyword path "additionalProperties"
      "must be a boolean in the Octoscript subset")
  | none => .ok true

def parseObject (object : Members) (path : String) : Except SchemaError ObjectConstraints := do
  let properties ← parseProperties compile object path
  let required ← parseRequired object path
  let additionalProperties ← parseAdditionalProperties object path
  return ⟨properties, required, additionalProperties⟩

def parseKind (kind : String) (object : Members) (path : String) :
    Except SchemaError SchemaKind := do
  validateTypeKeywords object path kind
  if kind = "null" then return .null
  else if kind = "boolean" then return .boolean
  else if kind = "number" then (parseNumeric object path).map .number
  else if kind = "integer" then (parseNumeric object path).map .integer
  else if kind = "string" then (parseString object path).map .string
  else if kind = "array" then (parseArray compile object path).map .array
  else if kind = "object" then (parseObject compile object path).map .object
  else .error (unsupportedType kind path)

/-- A source without a type has the one that its keywords imply. -/
def parseImpliedKind (object : Members) (path : String) : Except SchemaError SchemaKind :=
  let hasObjectKeywords := containsKey object "properties" || containsKey object "required" ||
    containsKey object "additionalProperties"
  let hasArrayKeywords := containsKey object "items" || containsKey object "minItems" ||
    containsKey object "maxItems"
  if hasObjectKeywords ∧ hasArrayKeywords then .error (.invalidKeyword path "type"
    "is required when object and array keywords are mixed")
  else if hasObjectKeywords then do
    validateTypeKeywords object path "object"
    (parseObject compile object path).map .object
  else if hasArrayKeywords then do
    validateTypeKeywords object path "array"
    (parseArray compile object path).map .array
  else do
    validateTypeKeywords object path "any"
    return .any

def parseSchemaKind (object : Members) (path : String) : Except SchemaError SchemaKind :=
  match object.lookup "type" with
  | some (.string kind) => parseKind compile kind object path
  | some _ => .error (.invalidKeyword path "type" "must be a string")
  | none => parseImpliedKind compile object path

end

def parseEnum (object : Members) (path : String) :
    Except SchemaError (Option (List Value)) :=
  match object.lookup "enum" with
  | none => .ok none
  | some values => do
    let values ← (asArray values).okOr (.invalidKeyword path "enum" "must be an array")
    rejectIf (values.length > maxSchemaEnumValues) (.tooManyEnumValues maxSchemaEnumValues)
    return some values

/-- `SchemaNode::compile`, by the number of levels that are left. -/
def compileNode : ℕ → Value → String → Except SchemaError SchemaNode
  | 0, _, _ => .error (.tooDeep maxSchemaDepth)
  | levels + 1, source, path => do
    let object ← (asObject source).okOr (.expectedObject path)
    validateKeywords object path
    let kind ← parseSchemaKind (compileNode levels) object path
    let enumValues ← parseEnum object path
    return ⟨kind, enumValues⟩

def expectType (matched : Bool) (path expected : String) : Except SchemaViolation Unit :=
  rejectIf (matched = false) ⟨path, "expected " ++ expected⟩

def validateString (constraints : StringConstraints) (value : Value) (path : String) :
    Except SchemaViolation Unit := do
  let string ← (asStr value).okOr ⟨path, "expected string"⟩
  rejectIf (∃ minimum ∈ constraints.minLength, string.length < minimum)
    ⟨path, "string is shorter than minLength"⟩
  rejectIf (∃ maximum ∈ constraints.maxLength, string.length > maximum)
    ⟨path, "string is longer than maxLength"⟩

def validateItemCount (constraints : ArrayConstraints) (count : ℕ) (path : String) :
    Except SchemaViolation Unit := do
  rejectIf (∃ minimum ∈ constraints.minItems, count < minimum)
    ⟨path, "array has fewer than minItems values"⟩
  rejectIf (∃ maximum ∈ constraints.maxItems, count > maximum)
    ⟨path, "array has more than maxItems values"⟩

def validateRequired (constraints : ObjectConstraints) (values : Members) (path : String) :
    Except SchemaViolation Unit :=
  constraints.required.toList.forM fun key => rejectIf (containsKey values key = false)
    ⟨path, "missing required property " ++ Debug.quoted key⟩

def validateEnum (enumValues : Option (List Value)) (value : Value) (path : String) :
    Except SchemaViolation Unit :=
  match enumValues with
  | none => .ok ()
  | some values => rejectIf (value ∉ values) ⟨path, "value is not in enum"⟩

end Schema

open Schema

mutual

def SchemaNode.validate [Unicode] (self : SchemaNode) (value : Value) (path : String) :
    Except SchemaViolation Unit := do
  (match self.kind, value with
    | .any, _ => .ok ()
    | .null, value => expectType (value = .null) path "null"
    | .boolean, value => expectType (value = .bool true ∨ value = .bool false) path "boolean"
    | .number constraints, value => validateNumber constraints value path
    | .integer constraints, value => validateInteger constraints value path
    | .string constraints, value => validateString constraints value path
    | .array constraints, .array values => do
      validateItemCount constraints values.length path
      match constraints.items with
      | some items => items.validateItems values 0 path
      | none => .ok ()
    | .array _, _ => .error ⟨path, "expected array"⟩
    | .object constraints, .object values => do
      validateRequired constraints values path
      constraints.validateMembers values path
    | .object _, _ => .error ⟨path, "expected object"⟩)
  validateEnum self.enumValues value path

def SchemaNode.validateItems [Unicode] (items : SchemaNode) (values : List Value) (index : ℕ)
    (path : String) : Except SchemaViolation Unit :=
  match values with
  | [] => .ok ()
  | value :: values => do
    items.validate value (path ++ "[" ++ toString index ++ "]")
    items.validateItems values (index + 1) path

def ObjectConstraints.validateMembers [Unicode] (constraints : ObjectConstraints)
    (values : List (String × Value)) (path : String) : Except SchemaViolation Unit :=
  match values with
  | [] => .ok ()
  | (key, value) :: values => do
    (match constraints.properties.lookup key with
      | some schema => schema.validate value (propertyPath path key)
      | none => rejectIf (constraints.additionalProperties = false)
          ⟨path, "additional property " ++ Debug.quoted key ++ " is not allowed"⟩)
    constraints.validateMembers values path

end

namespace JsonSchema

def compile [Unicode] (source : Value) : Except SchemaError JsonSchema := do
  rejectIf ((text source).utf8ByteSize > maxSchemaBytes) (.tooLarge maxSchemaBytes)
  let node ← compileNode (maxSchemaDepth + 1) source "$"
  return ⟨source, node⟩

def validate [Unicode] (self : JsonSchema) (value : Value) : Except SchemaViolation Unit :=
  self.node.validate value "$"

end JsonSchema

end Octoscript
