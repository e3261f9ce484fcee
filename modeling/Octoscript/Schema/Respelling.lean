import Octoscript.Lib.Lists
import Octoscript.Schema.NumberOrder
import Octoscript.Schema.Validation

namespace Octoscript

open Json List

theorem digitValue_injective : Function.Injective digitValue := by
  intro a b h
  have h := UInt8.toNat_inj.mp h
  calc a = a - '0'.toUInt8 + '0'.toUInt8 := by simp
    _ = b := by rw [h]; simp

namespace ExactNumber
variable {m n : ExactNumber}

theorem Normal.digits_eq (hm : m.Normal) (hn : n.Normal)
    (h : digitsValue m.digits = digitsValue n.digits) : m.digits = n.digits := by
  obtain ⟨a, as, hmdigits, ha⟩ := hm.lead
  obtain ⟨b, bs, hndigits, hb⟩ := hn.lead
  have hmlt := digits_lt hm.ascii
  have hnlt := digits_lt hn.ascii
  rw [digitsValue, digitsValue] at h
  apply map_injective_iff.mpr digitValue_injective
  rw [hmdigits, map_cons] at h hmlt ⊢
  rw [hndigits, map_cons] at h hnlt ⊢
  exact Decimal.eq_of_ofDigits_eq_of_lead hmlt hnlt ha hb h

/-- The last digit is not a zero, so the scale is the largest one. -/
theorem Normal.scale_le (hm : m.Normal) (h : m.magnitude = n.magnitude) : n.scale ≤ m.scale := by
  by_contra hlt
  obtain ⟨k, hk⟩ : ∃ k : ℕ, n.scale = m.scale + (k + 1) := ⟨(n.scale - m.scale - 1).toNat, by omega⟩
  have hten : (10 : ℚ) ≠ 0 := by norm_num
  rw [magnitude, magnitude, hk, zpow_add₀ hten, mul_left_comm, mul_comm] at h
  have hvalue : (digitsValue m.digits : ℚ) = digitsValue n.digits * 10 ^ ((k : ℤ) + 1) :=
    mul_left_cancel₀ (zpow_ne_zero _ hten) h
  have hnat : digitsValue m.digits = digitsValue n.digits * 10 ^ (k + 1) := by exact_mod_cast hvalue
  apply hm.last
  rw [hnat, pow_succ, ← mul_assoc]
  exact Nat.mul_mod_left _ _

theorem Normal.value_ne_zero (hn : n.Normal) : n.value ≠ 0 := by
  have hpos := hn.magnitude_pos
  unfold value
  split_ifs <;> linarith

theorem Normal.eq_of_value_eq (hm : m.Normal) (hn : n.Normal) (h : m.value = n.value) : m = n := by
  have hmpos := hm.magnitude_pos
  have hnpos := hn.magnitude_pos
  -- Both magnitudes are positive, so the signs agree.
  have hsign : m.negative = n.negative ∧ m.magnitude = n.magnitude := by
    unfold value at h
    cases hmneg : m.negative <;> cases hnneg : n.negative <;> simp only [hmneg, hnneg] at h <;>
      norm_num at h ⊢ <;> linarith
  have hscale : m.scale = n.scale :=
    le_antisymm (hn.scale_le hsign.2.symm) (hm.scale_le hsign.2)
  have hvalue : digitsValue m.digits = digitsValue n.digits := by
    have hmag := hsign.2
    rw [magnitude, magnitude, hscale] at hmag
    exact_mod_cast mul_right_cancel₀ (zpow_ne_zero _ (by norm_num)) hmag
  have hdig := hm.digits_eq hn hvalue
  cases m
  cases n
  simp_all

/-- A value has one normal form. -/
theorem eq_of_value_eq (hm : m = zero ∨ m.Normal) (hn : n = zero ∨ n.Normal)
    (h : m.value = n.value) : m = n := by
  have hzero : zero.value = 0 := by rw [value, magnitude_zero, mul_zero]
  rcases hm with rfl | hm <;> rcases hn with rfl | hn
  · rfl
  · exact absurd (h.symm.trans hzero) hn.value_ne_zero
  · exact absurd (h.trans hzero) hm.value_ne_zero
  · exact hm.eq_of_value_eq hn h

/-- Two spellings of one number are read as the same. -/
theorem parse_eq_of_denotes {s s' : String} {q : ℚ} (h : Denotes s q) (h' : Denotes s' q)
    (hs : parse s ≠ none) (hs' : parse s' ≠ none) : parse s = parse s' := by
  obtain ⟨m, hm⟩ := Option.ne_none_iff_exists'.mp hs
  obtain ⟨n, hn⟩ := Option.ne_none_iff_exists'.mp hs'
  obtain ⟨hnormal, hvalue⟩ := parse_spec hm h
  obtain ⟨hnormal', hvalue'⟩ := parse_spec hn h'
  rw [hm, hn, eq_of_value_eq hnormal hnormal' (hvalue.trans hvalue'.symm)]

end ExactNumber

namespace Schema
open ExactNumber

mutual

/-- The values differ only in how equal numbers are written. -/
def Respelled : Value → Value → Prop
  | .null, w => w = .null
  | .bool b, w => w = .bool b
  | .number n, w => ∃ m, w = .number m ∧ ∃ q, Denotes n.text q ∧ Denotes m.text q
  | .string s, w => w = .string s
  | .array vs, w => ∃ ws, w = .array ws ∧ RespelledItems vs ws
  | .object fs, w => ∃ gs, w = .object gs ∧ RespelledMembers fs gs

def RespelledItems : List Value → List Value → Prop
  | [], ws => ws = []
  | v :: vs, ws => ∃ w ws', ws = w :: ws' ∧ Respelled v w ∧ RespelledItems vs ws'

def RespelledMembers : List (String × Value) → List (String × Value) → Prop
  | [], gs => gs = []
  | (key, v) :: fs, gs => ∃ w gs', gs = (key, w) :: gs' ∧ Respelled v w ∧ RespelledMembers fs gs'

end

mutual

theorem Respelled.symm : ∀ {v w : Value}, Respelled v w → Respelled w v
  | .null, _, h | .bool _, _, h | .string _, _, h => by
    rw [Respelled] at h
    rw [h, Respelled]
  | .number n, _, h => by
    rw [Respelled] at h
    obtain ⟨m, rfl, q, hn, hm⟩ := h
    rw [Respelled]
    exact ⟨n, rfl, q, hm, hn⟩
  | .array vs, _, h => by
    rw [Respelled] at h
    obtain ⟨ws, rfl, h⟩ := h
    rw [Respelled]
    exact ⟨vs, rfl, h.symm⟩
  | .object fs, _, h => by
    rw [Respelled] at h
    obtain ⟨gs, rfl, h⟩ := h
    rw [Respelled]
    exact ⟨fs, rfl, h.symm⟩

theorem RespelledItems.symm : ∀ {vs ws : List Value}, RespelledItems vs ws → RespelledItems ws vs
  | [], _, h => by
    rw [RespelledItems] at h
    rw [h, RespelledItems]
  | v :: vs, _, h => by
    rw [RespelledItems] at h
    obtain ⟨w, ws, rfl, hv, hvs⟩ := h
    rw [RespelledItems]
    exact ⟨v, vs, rfl, hv.symm, hvs.symm⟩

theorem RespelledMembers.symm : ∀ {fs gs : Members}, RespelledMembers fs gs → RespelledMembers gs fs
  | [], _, h => by
    rw [RespelledMembers] at h
    rw [h, RespelledMembers]
  | (key, v) :: fs, _, h => by
    rw [RespelledMembers] at h
    obtain ⟨w, gs, rfl, hv, hfs⟩ := h
    rw [RespelledMembers]
    exact ⟨v, fs, rfl, hv.symm, hfs.symm⟩

end

variable {v w : Value}

/-- Numbers, arrays and objects keep their kind, all other values are the same. -/
theorem same_kind (h : Respelled v w) :
    w = v ∨ (∃ n m, v = .number n ∧ w = .number m) ∨
      (∃ vs ws, v = .array vs ∧ w = .array ws) ∨ ∃ fs gs, v = .object fs ∧ w = .object gs := by
  cases v with
  | number n =>
    rw [Respelled] at h
    obtain ⟨m, rfl, _⟩ := h
    exact .inr (.inl ⟨n, m, rfl, rfl⟩)
  | array vs =>
    rw [Respelled] at h
    obtain ⟨ws, rfl, _⟩ := h
    exact .inr (.inr (.inl ⟨vs, ws, rfl, rfl⟩))
  | object fs =>
    rw [Respelled] at h
    obtain ⟨gs, rfl, _⟩ := h
    exact .inr (.inr (.inr ⟨fs, gs, rfl, rfl⟩))
  | null | bool | string =>
    rw [Respelled] at h
    exact .inl h

theorem length_of_respelled {vs ws : List Value} (h : RespelledItems vs ws) :
    ws.length = vs.length := by
  induction vs generalizing ws with
  | nil =>
    rw [RespelledItems] at h
    rw [h]
  | cons v vs ih =>
    rw [RespelledItems] at h
    obtain ⟨w, ws, rfl, _, h⟩ := h
    rw [length_cons, length_cons, ih h]

theorem keys_of_respelled {fs gs : Members} (h : RespelledMembers fs gs) :
    gs.map Prod.fst = fs.map Prod.fst := by
  induction fs generalizing gs with
  | nil =>
    rw [RespelledMembers] at h
    rw [h]
  | cons member fs ih =>
    obtain ⟨name, v⟩ := member
    rw [RespelledMembers] at h
    obtain ⟨w, gs, rfl, _, h⟩ := h
    rw [map_cons, map_cons, ih h]

theorem containsKey_eq (fs : Members) (key : String) :
    containsKey fs key = decide (key ∈ fs.map Prod.fst) := by
  unfold containsKey
  induction fs with
  | nil => rfl
  | cons member fs ih =>
    rw [lookup_cons]
    cases hkey : key == member.1 with
    | true => simp [beq_iff_eq.mp hkey]
    | false => simp [beq_eq_false_iff_ne.mp hkey, ih]

end Schema

/-- A part of a value, the schema that it is checked against, and its path. -/
abbrev Place := SchemaNode × Value × String

namespace SchemaNode
open Schema
variable [Unicode]

mutual

/-- The parts of a value that a schema is about. -/
def places (node : SchemaNode) (value : Value) (path : String) : List Place :=
  (node, value, path) :: match value with
    | .array values => match node.kind with
      | .array ⟨some items, _, _⟩ => items.placesOf values 0 path
      | _ => []
    | .object members => match node.kind with
      | .object constraints => placesIn constraints members path
      | _ => []
    | .null | .bool _ | .number _ | .string _ => []

def placesOf (items : SchemaNode) (values : List Value) (index : ℕ) (path : String) : List Place :=
  match values with
  | [] => []
  | value :: values =>
    items.places value (path ++ "[" ++ toString index ++ "]") ++ items.placesOf values (index + 1) path

def placesIn (constraints : ObjectConstraints) (members : Members) (path : String) : List Place :=
  match members with
  | [] => []
  | (key, value) :: members =>
    (match constraints.properties.lookup key with
      | some node => node.places value (propertyPath path key)
      | none => []) ++ placesIn constraints members path

end

end SchemaNode

namespace Place
open Schema ExactNumber
variable [Unicode]

/-- The check of a part, without those of its own parts. -/
def Passes : Place → Prop
  | (node, value, path) =>
    (match node.kind, value with
      | .any, _ => True
      | .null, value => value = .null
      | .boolean, value => value = .bool true ∨ value = .bool false
      | .number constraints, value => validateNumber constraints value path = .ok ()
      | .integer constraints, value => validateInteger constraints value path = .ok ()
      | .string constraints, value => validateString constraints value path = .ok ()
      | .array constraints, .array values =>
        validateItemCount constraints values.length path = .ok ()
      | .object constraints, .object members =>
        validateRequired constraints members path = .ok () ∧ ∀ key ∈ members.map Prod.fst,
          constraints.properties.lookup key = none → constraints.additionalProperties = true
      | .array _, _ | .object _, _ => False) ∧
    ∀ values, node.enumValues = some values → value ∈ values

omit [Unicode] in
/-- The part is written in a way that its check can read: a number that `ExactNumber` can
represent, and as in the `enum` that lists it. -/
def Written : Place → Prop
  | (node, value, _) =>
    ((∃ constraints, node.kind = .number constraints ∨ node.kind = .integer constraints) →
      fromValue value ≠ none) ∧
    ∀ values, node.enumValues = some values → ∀ listed ∈ values, Respelled value listed →
      value ∈ values

omit [Unicode] in
theorem fromValue_of_respelled {v w : Value} (h : Respelled v w) (hv : fromValue v ≠ none)
    (hw : fromValue w ≠ none) : fromValue v = fromValue w := by
  cases v with
  | number n =>
    rw [Respelled] at h
    obtain ⟨m, rfl, q, hn, hm⟩ := h
    exact parse_eq_of_denotes hn hm hv hw
  | null | bool | string | array | object => exact absurd rfl hv

theorem Passes.written : ∀ {p : Place}, p.Passes → p.Written
  | (node, value, path), ⟨hkind, henum⟩ => by
    refine ⟨?_, fun values hvalues _ _ _ => henum values hvalues⟩
    rintro ⟨constraints, hnum | hint⟩ hnone
    · rw [hnum] at hkind
      simp [validateNumber, hnone, Option.okOr] at hkind
    · rw [hint] at hkind
      simp [validateInteger, hnone, Option.okOr] at hkind

/-- The same place in two spellings of a value. -/
def Paired (p q : Place) : Prop := p.1 = q.1 ∧ Respelled p.2.1 q.2.1 ∧ p.2.2 = q.2.2

/-- A part passes if another spelling does and it is written as the check can read. -/
theorem passes_of_written : ∀ {p q : Place}, Paired p q → q.Passes → p.Written → p.Passes
  | (node, v, path), (_, w, _), ⟨rfl, h, rfl⟩, hpasses, ⟨hnumber, henum⟩ => by
    have hwritten := hpasses.written
    obtain ⟨hkind, hlisted⟩ := hpasses
    refine ⟨?_, fun values hvalues => henum values hvalues w (hlisted values hvalues) h⟩
    -- two numbers that can be represented are the same number
    have hsame := fromValue_of_respelled h
    obtain ⟨kind, enumValues⟩ := node
    dsimp only at hkind ⊢
    cases kind with
    | any => trivial
    | number constraints =>
      have hv := hnumber ⟨constraints, .inl rfl⟩
      have hw := hwritten.1 ⟨constraints, .inl rfl⟩
      simpa only [validateNumber, hsame hv hw] using hkind
    | integer constraints =>
      have hv := hnumber ⟨constraints, .inr rfl⟩
      have hw := hwritten.1 ⟨constraints, .inr rfl⟩
      simpa only [validateInteger, hsame hv hw] using hkind
    | null | boolean | string =>
      rcases same_kind h with rfl | ⟨_, _, rfl, rfl⟩ | ⟨_, _, rfl, rfl⟩ | ⟨_, _, rfl, rfl⟩
      · exact hkind
      all_goals simp [validateString, asStr, Option.okOr] at hkind
    | array constraints =>
      rcases same_kind h with rfl | ⟨_, _, rfl, rfl⟩ | ⟨vs, ws, rfl, rfl⟩ | ⟨_, _, rfl, rfl⟩
      · exact hkind
      · exact hkind.elim
      · rw [Respelled] at h
        obtain ⟨_, hws, h⟩ := h
        cases hws
        simpa only [length_of_respelled h] using hkind
      · exact hkind.elim
    | object constraints =>
      rcases same_kind h with rfl | ⟨_, _, rfl, rfl⟩ | ⟨_, _, rfl, rfl⟩ | ⟨fs, gs, rfl, rfl⟩
      · exact hkind
      · exact hkind.elim
      · exact hkind.elim
      · rw [Respelled] at h
        obtain ⟨_, hgs, h⟩ := h
        cases hgs
        simpa only [validateRequired, containsKey_eq, keys_of_respelled h] using hkind

end Place

namespace SchemaNode
open Schema
variable [Unicode]

omit [Unicode] in
theorem bind_unit_ok_iff {ε : Type} {x y : Except ε Unit} :
    (x >>= fun _ => y) = .ok () ↔ x = .ok () ∧ y = .ok () := by
  cases x <;> simp [bind, Except.bind]

omit [Unicode] in
theorem validateEnum_ok_iff {enumValues : Option (List Value)} {value : Value} {path : String} :
    validateEnum enumValues value path = .ok () ↔
      ∀ values, enumValues = some values → value ∈ values := by
  cases enumValues <;> simp [validateEnum]

/-- A value passes if it does and its own parts do. -/
theorem validate_ok_iff_of {node : SchemaNode} {value : Value} {path : String}
    (hitems : ∀ (items : SchemaNode) values, value = .array values →
      (items.validateItems values 0 path = .ok () ↔
        ∀ place ∈ items.placesOf values 0 path, Place.Passes place))
    (hmembers : ∀ (constraints : ObjectConstraints) members, value = .object members →
      (constraints.validateMembers members path = .ok () ↔
        (∀ key ∈ members.map Prod.fst,
          constraints.properties.lookup key = none → constraints.additionalProperties = true) ∧
        ∀ place ∈ placesIn constraints members path, Place.Passes place)) :
    node.validate value path = .ok () ↔ ∀ place ∈ node.places value path, Place.Passes place := by
  obtain ⟨kind, enumValues⟩ := node
  rw [validate.eq_def, places.eq_def, forall_mem_cons, bind_unit_ok_iff, validateEnum_ok_iff,
    Place.Passes.eq_def, and_right_comm]
  refine and_congr_left' ?_
  cases kind with
  | any | number | integer | string => cases value <;> simp
  | null | boolean => cases value <;> simp [expectType]
  | array constraints =>
    obtain ⟨items, lo, hi⟩ := constraints
    cases value with
    | array values =>
      cases items with
      | none => exact bind_unit_ok_iff.trans (and_congr_right' (by simp))
      | some items => exact bind_unit_ok_iff.trans (and_congr_right' (hitems items values rfl))
    | null | bool | number | string | object => simp
  | object constraints =>
    cases value with
    | object members =>
      exact bind_unit_ok_iff.trans
        ((and_congr_right' (hmembers constraints members rfl)).trans and_assoc.symm)
    | null | bool | number | string | array => simp

mutual

/-- Validation accepts a value exactly if every part passes its check. -/
theorem validate_ok_iff : ∀ (value : Value) {node : SchemaNode} {path : String},
    node.validate value path = .ok () ↔ ∀ place ∈ node.places value path, Place.Passes place
  | .array values, _, _ => validate_ok_iff_of
      (fun items _ hvalues => by
        cases hvalues
        exact validateItems_ok_iff values) nofun
  | .object members, _, _ => validate_ok_iff_of nofun
      (fun constraints _ hmembers => by
        cases hmembers
        exact validateMembers_ok_iff members)
  | .null, _, _ | .bool _, _, _ | .number _, _, _ | .string _, _, _ =>
    validate_ok_iff_of nofun nofun

theorem validateItems_ok_iff : ∀ (values : List Value) {items : SchemaNode} {index : ℕ}
    {path : String}, items.validateItems values index path = .ok () ↔
      ∀ place ∈ items.placesOf values index path, Place.Passes place
  | [], _, _, _ => by simp [validateItems, placesOf]
  | value :: values, items, index, path => by
    rw [validateItems, placesOf, bind_unit_ok_iff, forall_mem_append, validate_ok_iff value,
      validateItems_ok_iff values]

theorem validateMembers_ok_iff : ∀ (members : Members) {constraints : ObjectConstraints}
    {path : String}, constraints.validateMembers members path = .ok () ↔
      (∀ key ∈ members.map Prod.fst,
        constraints.properties.lookup key = none → constraints.additionalProperties = true) ∧
      ∀ place ∈ placesIn constraints members path, Place.Passes place
  | [], _, _ => by simp [ObjectConstraints.validateMembers, placesIn]
  | (key, value) :: members, constraints, path => by
    rw [ObjectConstraints.validateMembers, placesIn, bind_unit_ok_iff, forall_mem_append,
      validateMembers_ok_iff members, map_cons, forall_mem_cons]
    cases hlookup : constraints.properties.lookup key with
    | none => simp [and_assoc]
    | some node =>
      dsimp only
      rw [validate_ok_iff value]
      tauto

end

mutual

/-- Two spellings of a value have the same places. -/
theorem places_of_respelled : ∀ {v w : Value} {node : SchemaNode} {path : String}, Respelled v w →
    Forall₂ Place.Paired (node.places v path) (node.places w path)
  | .array vs, _, ⟨kind, enumValues⟩, path, h => by
    have hhead := h
    rw [Respelled] at h
    obtain ⟨ws, rfl, h⟩ := h
    rw [places.eq_def, places.eq_def]
    refine .cons ⟨rfl, hhead, rfl⟩ ?_
    cases kind with
    | array constraints =>
      obtain ⟨items, lo, hi⟩ := constraints
      cases items with
      | none => exact .nil
      | some items => exact placesOf_of_respelled h
    | any | null | boolean | number | integer | string | object => exact .nil
  | .object fs, _, ⟨kind, enumValues⟩, path, h => by
    have hhead := h
    rw [Respelled] at h
    obtain ⟨gs, rfl, h⟩ := h
    rw [places.eq_def, places.eq_def]
    refine .cons ⟨rfl, hhead, rfl⟩ ?_
    cases kind with
    | object constraints => exact placesIn_of_respelled h
    | any | null | boolean | number | integer | string | array => exact .nil
  | .null, _, _, _, h | .bool _, _, _, _, h | .string _, _, _, _, h => by
    have hhead := h
    rw [Respelled] at h
    subst h
    rw [places]
    exact .cons ⟨rfl, hhead, rfl⟩ .nil
  | .number _, _, _, _, h => by
    have hhead := h
    rw [Respelled] at h
    obtain ⟨m, rfl, -⟩ := h
    rw [places, places]
    exact .cons ⟨rfl, hhead, rfl⟩ .nil

theorem placesOf_of_respelled : ∀ {vs ws : List Value} {items : SchemaNode} {index : ℕ}
    {path : String}, RespelledItems vs ws →
      Forall₂ Place.Paired (items.placesOf vs index path) (items.placesOf ws index path)
  | [], _, _, _, _, h => by
    rw [RespelledItems] at h
    rw [h, placesOf]
    exact .nil
  | v :: vs, _, _, _, _, h => by
    rw [RespelledItems] at h
    obtain ⟨w, ws, rfl, hhead, hrest⟩ := h
    rw [placesOf, placesOf]
    exact rel_append (places_of_respelled hhead) (placesOf_of_respelled hrest)

theorem placesIn_of_respelled : ∀ {fs gs : Members} {constraints : ObjectConstraints}
    {path : String}, RespelledMembers fs gs →
      Forall₂ Place.Paired (placesIn constraints fs path) (placesIn constraints gs path)
  | [], _, _, _, h => by
    rw [RespelledMembers] at h
    rw [h, placesIn]
    exact .nil
  | (key, v) :: fs, _, constraints, _, h => by
    rw [RespelledMembers] at h
    obtain ⟨w, gs, rfl, hhead, hrest⟩ := h
    rw [placesIn, placesIn]
    refine rel_append ?_ (placesIn_of_respelled hrest)
    cases constraints.properties.lookup key with
    | none => exact .nil
    | some node => exact places_of_respelled hhead

end

end SchemaNode

namespace Schema

def one : Number := ⟨"1", by simp, by simp [isNumberChar]⟩

def onePointZero : Number := ⟨"1.0", by simp, by simp [isNumberChar]⟩

def zero : Number := ⟨"0", by simp, by simp [isNumberChar]⟩

/-- The exponent does not fit in an `i64`. -/
def scaledZero : Number := ⟨"0e99999999999999999999", by simp, by simp [isNumberChar]⟩

theorem denotes_one : Denotes one.text 1 := by
  refine ⟨⟨false, ['1'.toUInt8], [], none, by simp, by decide +kernel⟩, by decide +kernel, ?_⟩
  norm_num [NumberText.value, NumberText.exponentValue, digitsValue, Decimal.ofDigits,
    show digitValue '1'.toUInt8 = 1 from rfl]

theorem denotes_onePointZero : Denotes onePointZero.text 1 := by
  refine ⟨⟨false, ['1'.toUInt8], ['0'.toUInt8], none, by simp, by decide +kernel⟩,
    by decide +kernel, ?_⟩
  norm_num [NumberText.value, NumberText.exponentValue, digitsValue, Decimal.ofDigits,
    show digitValue '1'.toUInt8 = 1 from rfl, show digitValue '0'.toUInt8 = 0 from rfl]

theorem denotes_zero : Denotes zero.text 0 := by
  refine ⟨⟨false, ['0'.toUInt8], [], none, by simp, by decide +kernel⟩, by decide +kernel, ?_⟩
  simp [NumberText.value, digitsValue, Decimal.ofDigits, show digitValue '0'.toUInt8 = 0 from rfl]

theorem denotes_scaledZero : Denotes scaledZero.text 0 := by
  refine ⟨⟨false, ['0'.toUInt8], [], some ⟨false, none, replicate 20 '9'.toUInt8, by simp,
    by decide +kernel⟩, by simp, by decide +kernel⟩, by decide +kernel, ?_⟩
  simp [NumberText.value, digitsValue, Decimal.ofDigits, show digitValue '0'.toUInt8 = 0 from rfl]

end Schema

open Schema ExactNumber

/-- Two spellings of a value are accepted or rejected together exactly if, unless some part fails
its check in both, both or neither are written as the checks can read. -/
theorem JsonSchema.validate_ignores_spelling_iff [Unicode] {source : Value} {schema : JsonSchema}
    (_ : JsonSchema.compile source = .ok schema) {v w : Value} (h : Respelled v w) :
    (schema.validate v = .ok () ↔ schema.validate w = .ok ()) ↔
      (Forall₂ (fun p q => Place.Passes p ∨ Place.Passes q) (schema.node.places v "$")
        (schema.node.places w "$") →
      ((∀ p ∈ schema.node.places v "$", Place.Written p) ↔
        ∀ p ∈ schema.node.places w "$", Place.Written p)) := by
  rw [JsonSchema.validate, JsonSchema.validate, SchemaNode.validate_ok_iff,
    SchemaNode.validate_ok_iff]
  refine forall_iff_forall_iff (fun p => Place.Passes.written) ?_
  refine (SchemaNode.places_of_respelled h).imp fun p q hpair => ⟨Place.passes_of_written hpair, ?_⟩
  exact Place.passes_of_written ⟨hpair.1.symm, hpair.2.1.symm, hpair.2.2.symm⟩

theorem JsonSchema.validate_one_spelled_twice :
    let schema : JsonSchema := ⟨.object [("type", .string "integer")],
      ⟨.integer ⟨none, none⟩, none⟩⟩
    let _ := Unicode.ascii
    JsonSchema.compile schema.source = .ok schema ∧ Respelled (.number one) (.number onePointZero) ∧
      (schema.validate (.number one) = .ok () ↔ schema.validate (.number onePointZero) = .ok ()) := by
  intro schema _
  have hc : JsonSchema.compile schema.source = .ok schema := by rfl
  have h : Respelled (.number one) (.number onePointZero) :=
    ⟨_, rfl, 1, denotes_one, denotes_onePointZero⟩
  refine ⟨hc, h, (JsonSchema.validate_ignores_spelling_iff hc h).mpr fun _ => ?_⟩
  have hwritten : ∀ n : Number, parse n.text ≠ none →
      ∀ p ∈ schema.node.places (.number n) "$", Place.Written p := by
    intro n hn p hp
    rw [SchemaNode.places, mem_singleton] at hp
    rw [hp]
    exact ⟨fun _ => hn, nofun⟩
  exact iff_of_true (hwritten one (by decide +kernel)) (hwritten onePointZero (by decide +kernel))

/-- An `enum` with a number accepts only its own spelling of it, and a number with an exponent
beyond `i64` is no number to the validator. -/
theorem JsonSchema.enum_rejects_other_spelling :
    let listed : JsonSchema := ⟨.object [("enum", .array [.number one])],
      ⟨.any, some [.number one]⟩⟩
    let typed : JsonSchema := ⟨.object [("type", .string "number")], ⟨.number ⟨none, none⟩, none⟩⟩
    let _ := Unicode.ascii
    (JsonSchema.compile listed.source = .ok listed ∧
      Respelled (.number one) (.number onePointZero) ∧
      listed.validate (.number one) = .ok () ∧
      listed.validate (.number onePointZero) = .error ⟨"$", "value is not in enum"⟩) ∧
    JsonSchema.compile typed.source = .ok typed ∧
      Respelled (.number zero) (.number scaledZero) ∧
      typed.validate (.number zero) = .ok () ∧
      typed.validate (.number scaledZero) = .error ⟨"$", "expected number"⟩ := by
  intro listed typed _
  refine ⟨⟨rfl, ⟨_, rfl, 1, denotes_one, denotes_onePointZero⟩, ?_, ?_⟩,
    rfl, ⟨_, rfl, 0, denotes_zero, denotes_scaledZero⟩, ?_, ?_⟩
  all_goals rfl

end Octoscript
