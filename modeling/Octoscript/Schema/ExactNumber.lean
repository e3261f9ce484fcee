import Octoscript.Lib.Decimal
import Octoscript.Lib.Json
import Octoscript.Lib.Mutation

namespace Octoscript
open Wire

def isAsciiDigit (b : UInt8) : Bool := '0'.toUInt8 ≤ b && b ≤ '9'.toUInt8

def digitValue (b : UInt8) : ℕ := (b - '0'.toUInt8).toNat

/-- The result of checked `i64` arithmetic. -/
def checkedI64 (n : ℤ) : Option ℤ := if -2 ^ 63 ≤ n ∧ n < 2 ^ 63 then some n else none

/-- The result of saturating `i64` arithmetic. -/
def saturatingI64 (n : ℤ) : ℤ := max (-2 ^ 63) (min n (2 ^ 63 - 1))

/-- The represented value is `digits` times ten to the `scale`. -/
structure ExactNumber where
  negative : Bool
  digits : Bytes
  scale : ℤ
  deriving DecidableEq

namespace ExactNumber

/-- The digits after a decimal point, and the rest of the text. -/
def parseFraction : Bytes → Option (Bytes × Bytes)
  | [] => some ([], [])
  | b :: rest =>
    if b = '.'.toUInt8 then
      if rest.takeWhile isAsciiDigit = [] then none
      else some (rest.takeWhile isAsciiDigit, rest.dropWhile isAsciiDigit)
    else some ([], b :: rest)

/-- Whether an exponent is negative, and its digits with the rest of the text. -/
def parseExponentSign : Bytes → Bool × Bytes
  | [] => (false, [])
  | b :: rest =>
    if b = '-'.toUInt8 then (true, rest)
    else if b = '+'.toUInt8 then (false, rest)
    else (false, b :: rest)

def pushExponentDigit (exponent : ℤ) (b : UInt8) : Option ℤ := do
  let shifted ← checkedI64 (exponent * 10)
  checkedI64 (shifted + digitValue b)

/-- The exponent, and the rest of the text. -/
def parseExponent : Bytes → Option (ℤ × Bytes)
  | [] => some (0, [])
  | b :: rest =>
    if b = 'e'.toUInt8 ∨ b = 'E'.toUInt8 then do
      let (exponentNegative, rest) := parseExponentSign rest
      let exponent ← (rest.takeWhile isAsciiDigit).foldlM pushExponentDigit 0
      if rest.takeWhile isAsciiDigit = [] then none
      else
        let exponent ← if exponentNegative then checkedI64 (-exponent) else some exponent
        return (exponent, rest.dropWhile isAsciiDigit)
    else some (0, b :: rest)

/-- Pops the trailing zeros, from the last digit on. -/
def trimZeros : Bytes → ℤ → Option (Bytes × ℤ)
  | [], scale => some ([], scale)
  | b :: reversed, scale =>
    if b = '0'.toUInt8 then do
      let scale ← checkedI64 (scale + 1)
      trimZeros reversed scale
    else some (b :: reversed, scale)

/-- Every spelling of zero. -/
def zero : ExactNumber := ⟨false, ['0'.toUInt8], 0⟩

def normalize (negative : Bool) (digits : Bytes) (fractionalDigits : ℕ) (exponent : ℤ) :
    Option ExactNumber :=
  if digits.dropWhile (· = '0'.toUInt8) = [] then some zero
  else do
    let fractionalDigits ← checkedI64 fractionalDigits
    let scale ← checkedI64 (exponent - fractionalDigits)
    let (reversed, scale) ← trimZeros (digits.dropWhile (· = '0'.toUInt8)).reverse scale
    let digitCount ← checkedI64 reversed.length
    let _ ← checkedI64 (scale + digitCount)
    return ⟨negative, reversed.reverse, scale⟩

def parseUnsigned (negative : Bool) (bytes : Bytes) : Option ExactNumber :=
  if bytes.takeWhile isAsciiDigit = [] then none
  else do
    let (fraction, rest) ← parseFraction (bytes.dropWhile isAsciiDigit)
    let (exponent, rest) ← parseExponent rest
    if rest ≠ [] then none
    else
      normalize negative (bytes.takeWhile isAsciiDigit ++ fraction) fraction.length exponent

def parse (source : String) : Option ExactNumber :=
  match utf8 source with
  | [] => none
  | b :: rest =>
    if b = '-'.toUInt8 then parseUnsigned true rest else parseUnsigned false (b :: rest)

def isInteger (self : ExactNumber) : Bool := 0 ≤ self.scale

/-- The place of the decimal point before the first digit. -/
def order (self : ExactNumber) : ℤ :=
  saturatingI64 (self.scale + (checkedI64 self.digits.length).getD (2 ^ 63 - 1))

def compareMagnitude (self other : ExactNumber) : Ordering :=
  (Ord.compare self.order other.order).then
    (Decimal.compareDigits (self.digits.map digitValue) (other.digits.map digitValue))

def compare (self other : ExactNumber) : Ordering :=
  match self.negative, other.negative with
  | true, false => .lt
  | false, true => .gt
  | false, false => self.compareMagnitude other
  | true, true => other.compareMagnitude self

def fromValue : Json.Value → Option ExactNumber
  | .number n => parse n.text
  | _ => none

end ExactNumber

structure NumericConstraints where
  (minimum maximum : Option ExactNumber)

structure SchemaViolation where
  (path message : String)
  deriving DecidableEq

def validateNumeric (value : ExactNumber) (constraints : NumericConstraints) (path : String) :
    Except SchemaViolation Unit := do
  rejectIf (∃ minimum ∈ constraints.minimum, value.compare minimum = .lt)
    ⟨path, "number is below minimum"⟩
  rejectIf (∃ maximum ∈ constraints.maximum, value.compare maximum = .gt)
    ⟨path, "number is above maximum"⟩

/-- The check of a value against a schema of type `number`. -/
def validateNumber (constraints : NumericConstraints) (value : Json.Value) (path : String) :
    Except SchemaViolation Unit := do
  let number ← (ExactNumber.fromValue value).okOr ⟨path, "expected number"⟩
  validateNumeric number constraints path

/-- The check of a value against a schema of type `integer`. -/
def validateInteger (constraints : NumericConstraints) (value : Json.Value) (path : String) :
    Except SchemaViolation Unit := do
  let number ← (ExactNumber.fromValue value).okOr ⟨path, "expected integer"⟩
  rejectIf (number.isInteger = false) ⟨path, "expected integer"⟩
  validateNumeric number constraints path

end Octoscript
