import Octoscript.Lib.Json

class Unicode where
  (isPrintable isGraphemeExtended isWhitespace : Char → Bool)
  isPrintable_of_ascii : ∀ c : Char, 32 ≤ c.toNat → c.toNat < 127 → isPrintable c = true
  not_isGraphemeExtended_of_ascii : ∀ c : Char, c.toNat < 127 → isGraphemeExtended c = false

/-- The printable characters are those of ASCII. -/
@[reducible] def Unicode.ascii : Unicode where
  isPrintable c := 32 ≤ c.toNat && c.toNat < 127
  isGraphemeExtended _ := false
  isWhitespace := Char.isWhitespace
  isPrintable_of_ascii := by
    intro c hlow hhigh
    simp [hlow, hhigh]
  not_isGraphemeExtended_of_ascii _ _ := rfl

/-- `str::trim`. -/
def Unicode.trim [Unicode] (s : String) : String :=
  String.ofList (((s.toList.dropWhile isWhitespace).reverse.dropWhile isWhitespace).reverse)

namespace Debug

variable [Unicode]

/-- `char::escape_debug_ext` inside a string: the single quote stays. -/
def escapeChar (c : Char) : List Char :=
  if c = '\x00' then ['\\', '0']
  else if c = '\t' then ['\\', 't']
  else if c = '\r' then ['\\', 'r']
  else if c = '\n' then ['\\', 'n']
  else if c = '\\' then ['\\', '\\']
  else if c = '"' then ['\\', '"']
  else if Unicode.isGraphemeExtended c = false ∧ Unicode.isPrintable c = true then [c]
  else ['\\', 'u', '\x7b'] ++ Nat.toDigits 16 c.toNat ++ ['\x7d']

def quoted (s : String) : String :=
  String.ofList ('"' :: (s.toList.flatMap escapeChar ++ ['"']))

/-- The elements of a list or a map. -/
def joined (items : List String) : String := ", ".intercalate items

mutual

def value : Json.Value → String
  | .null => "Null"
  | .bool b => "Bool(" ++ toString b ++ ")"
  | .number n => "Number(" ++ n.text ++ ")"
  | .string s => "String(" ++ quoted s ++ ")"
  | .array items => "Array [" ++ joined (values items) ++ "]"
  | .object fields => "Object \x7b" ++ joined (members fields) ++ "\x7d"

def values : List Json.Value → List String
  | [] => []
  | v :: vs => value v :: values vs

def members : List (String × Json.Value) → List String
  | [] => []
  | (key, v) :: fields => (quoted key ++ ": " ++ value v) :: members fields

end

/-- `Option`. -/
def option {α : Type*} (text : α → String) : Option α → String
  | none => "None"
  | some a => "Some(" ++ text a ++ ")"

end Debug
