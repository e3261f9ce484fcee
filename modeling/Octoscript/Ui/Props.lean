import Octoscript.Ui.Scopes

namespace Octoscript.Ui

open Realizer

section
variable [F64Ops]

namespace Realizer

theorem bindProps_cons (call : Element) (param : Param) (params : List Param)
    (scope : ValueScope) :
    bindProps call (param :: params) scope = bindProps call params (scope.push ⟨param.name,
      propValue param (call.args.find? fun arg => arg.name = param.name) scope,
      propOrigin (call.args.find? fun arg => arg.name = param.name) scope⟩) := rfl

theorem bindProps_append (call : Element) (before after : List Param) (scope : ValueScope) :
    bindProps call (before ++ after) scope =
      bindProps call after (bindProps call before scope) := by
  induction before generalizing scope with
  | nil => rfl
  | cons param before ih => exact ih _

theorem lookupName_bindProps {call : Element} {params : List Param} {scope : ValueScope}
    {name : String} (h : name ∉ params.map Param.name) :
    (bindProps call params scope).lookupName name = scope.lookupName name := by
  induction params generalizing scope with
  | nil => rfl
  | cons param params ih =>
    simp only [List.map_cons, List.mem_cons, not_or] at h
    rw [bindProps_cons, ih h.2, ValueScope.lookupName_push_of_ne fun he => h.1 he.symm]

theorem lookupName_bindStates [Unicode] {self : Realizer} {component : Component}
    {instanceKey name : String} {states : List StateDecl} {scope : ValueScope}
    (h : name ∉ states.map fun state => state.path.text) :
    (self.bindStates component instanceKey states scope).lookupName name =
      scope.lookupName name := by
  induction states generalizing scope with
  | nil => rfl
  | cons state states ih =>
    simp only [List.map_cons, List.mem_cons, not_or] at h
    unfold bindStates
    rw [ih h.2, ValueScope.lookupName_push_of_ne fun he => h.1 he.symm]

end Realizer

/-- The operands that show the same on both sides of the call: `scope` is the caller's, and
`inner` has the parameters bound so far. -/
def HandedOn (scope inner : ValueScope) : Operand → Prop
  | .str _ => True
  | .num n => F64Ops.isFinite n = true
  | .token _ => False
  -- a path is looked up among the earlier parameters, and stands for its text if it has no value
  | .path path =>
    match inner.lookup path with
    | some value => NodeValue.ofLookup (some value) = .ofLookup (scope.lookup path)
    | none => scope.lookup path = some (.string path.text)
  -- a comparison hands on its left side
  | .predicate path cmp rhs => inner.lookup path =
      some (.bool (compareValues (scope.lookup path) cmp (scopeValue scope rhs)))
  | .expr lhs op rhs => (scopeValue scope (.expr lhs op rhs)).bind asF64 = none

namespace NodeValue

theorem ofLookup_eq_text_iff {value : Option Json.Value} {text : String} :
    ofLookup value = .text text ↔ value = some (.string text) := by
  unfold ofLookup
  split
  any_goals grind
  next value _ _ => cases asF64 value <;> grind

theorem ofLookup_eq_bool_iff {value : Option Json.Value} {b : Bool} :
    ofLookup value = .bool b ↔ value = some (.bool b) := by
  unfold ofLookup
  split
  any_goals grind
  next value _ _ => cases asF64 value <;> grind

end NodeValue

/-- What a parameter shows is what its operand shows exactly if the operand is handed on. -/
theorem ofLookup_propValue_iff {param : Param} {arg : Arg} {scope inner : ValueScope}
    (hshape : param.shape ≠ .event) {constructor position : String}
    (hkind : Catalog.argKind constructor position ≠ some .event) :
    NodeValue.ofLookup (some (propValue param (some arg) inner)) =
      nodeValue constructor position arg.value scope ↔ HandedOn scope inner arg.value := by
  unfold propValue
  simp only [if_neg hshape]
  cases hvalue : arg.value with
  | str text => simp [literalOf, nodeValue, NodeValue.ofLookup, HandedOn]
  | num n =>
    by_cases hfinite : F64Ops.isFinite n = true
    · simp [literalOf, nodeValue, NodeValue.ofLookup, F64.toValue, asF64, hfinite, HandedOn,
        F64Ops.ofNumber_toNumber n hfinite]
    · simp [literalOf, nodeValue, NodeValue.ofLookup, F64.toValue, asF64, hfinite, HandedOn]
  | token token => simp [nodeValue, NodeValue.ofLookup, HandedOn]
  | path path =>
    simp only [nodeValue, if_neg hkind, HandedOn]
    cases inner.lookup path with
    | some value => rfl
    | none => exact eq_comm.trans NodeValue.ofLookup_eq_text_iff
  | predicate path cmp rhs =>
    simp only [nodeValue, HandedOn, NodeValue.ofLookup_eq_bool_iff]
    cases inner.lookup path <;> simp
  | expr lhs op rhs =>
    simp only [nodeValue, HandedOn, literalOf]
    cases (scopeValue scope (.expr lhs op rhs)).bind asF64 <;>
      simp [NodeValue.ofLookup, asF64]

variable [Unicode]

end

/-- A badge that is given one name twice, the second time under a parameter of that name. -/
def badge : Component where
  name := "Badge"
  params := [⟨"name", .text, none⟩, ⟨"label", .text, none⟩]
  states := []
  events := []
  body := .call "TextBody" [⟨"text", .path ["label"]⟩] []

def badgeCall : Element :=
  .call "Badge" [⟨"name", .path ["name"]⟩, ⟨"label", .path ["name"]⟩] []

def badgeScope : ValueScope := ⟨[], .object [("name", .string "Kyoto")], []⟩

/-- A tab that is given whether its range is selected. -/
def tab : Component where
  name := "Tab"
  params := [⟨"on", .bool, none⟩]
  states := []
  events := []
  body := .call "TextHero" [⟨"value", .path ["on"]⟩] []

def tabCall : Element :=
  .call "Tab" [⟨"on", .predicate ["range"] .eq (.token ".d1")⟩] []

def tabCard : Card where
  sources := []
  states := [⟨["range"], .enum ["d1", "w1"], none, none, false⟩]
  events := []
  copies := []
  components := [tab]
  views := [⟨"root", tabCall⟩]

end Octoscript.Ui
