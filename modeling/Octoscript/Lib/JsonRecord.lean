import Octoscript.Lib.Json

namespace Json

def asString : Value → Option String
  | .string s => some s
  | .null | .bool _ | .number _ | .array _ | .object _ => none

def asItems : Value → Option (List Value)
  | .array items => some items
  | .null | .bool _ | .number _ | .string _ | .object _ => none

/-- An unsigned integer below a bound, written with digits only. -/
def asNat (bound : ℕ) : Value → Option ℕ
  | .number n =>
    let digits := n.text.toList
    if digits.all Char.isDigit = true ∧ Nat.ofDigitChars 10 digits 0 < bound then
      some (Nat.ofDigitChars 10 digits 0)
    else none
  | .null | .bool _ | .string _ | .array _ | .object _ => none

/-- The name of a variant that holds no data. -/
def asUnitVariant : Value → Option String
  | .string name => some name
  | .object [(name, .null)] => some name
  | .null | .bool _ | .number _ | .array _ | .object _ => none

/-- A member that may be absent or null. -/
def asOptional {α : Type} (read : Value → Option α) : Option Value → Option (Option α)
  | none | some .null => some none
  | some value => (read value).map some

/-- The members of a record with these names. -/
def record (names : List String) : Value → Option (String → Option Value)
  | .object fields =>
    if (fields.map Prod.fst).Nodup ∧ ∀ field ∈ fields, field.1 ∈ names then
      some fun name => (fields.find? (·.1 = name)).map Prod.snd
    else none
  | .array items =>
    if items.length ≤ names.length then some fun name => items[names.idxOf name]? else none
  | .null | .bool _ | .number _ | .string _ => none

theorem asString_string (s : String) : asString (.string s) = some s := rfl

theorem asNat_nat {bound n : ℕ} (h : n < bound) : asNat bound (.nat n) = some n := by
  have hback : Nat.ofDigitChars 10 (Nat.toDigits 10 n) 0 = n :=
    Nat.ofDigitChars_toDigits (by decide) (by decide)
  have hdig : (Nat.toDigits 10 n).all Char.isDigit = true :=
    List.all_eq_true.mpr fun c hc => Nat.isDigit_of_mem_toDigits (by decide) (by decide) hc
  simp only [asNat, Value.nat, Number.ofNat, String.toList_ofList, hdig, hback, h, and_self,
    if_true]

/-- Items that are read back one by one are read back as a list. -/
theorem mapM_read {α : Type} {write : α → Value} {read : Value → Option α}
    (h : ∀ a, read (write a) = some a) (l : List α) : (l.map write).mapM read = some l := by
  induction l with
  | nil => rfl
  | cons a l ih => simp [h a, ih]

end Json
