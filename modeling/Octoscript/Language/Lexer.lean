import Mathlib.Data.Rat.Defs
import Mathlib.Algebra.Order.Ring.Rat
import Octoscript.Lib.Bytes

namespace Octoscript.Language

inductive TokenKind
  | identifier (name : String)
  | number
  | stringLiteral
  | newline
  | semicolon
  | comma
  | openCurly
  | closeCurly
  | openRound
  | closeRound
  | openSquare
  | closeSquare
  | operator (text : String)
  | eof
  deriving DecidableEq

structure Token where
  kind : TokenKind
  (line column startByte endByte : ℕ)
  deriving DecidableEq

structure SyntaxDiagnostic where
  (line column : ℕ)
  message : String
  deriving DecidableEq

def maxSyntaxDiagnostics : ℕ := 32

def isIdentifierStart (c : Char) : Bool := c.isAlpha || c == '_'

def isIdentifierCharacter (c : Char) : Bool := c.isAlphanum || c == '_'

def isAsciiHexdigit (c : Char) : Bool :=
  c.isDigit || ('a' ≤ c && c ≤ 'f') || ('A' ≤ c && c ≤ 'F')

def hexDigitValue (c : Char) : ℕ :=
  if c.isDigit then c.toNat - '0'.toNat
  else if 'a' ≤ c then c.toNat - 'a'.toNat + 10
  else c.toNat - 'A'.toNat + 10

def hexValue (digits : List Char) : ℕ := digits.foldl (fun value c => value * 16 + hexDigitValue c) 0

def isOperatorCharacter (c : Char) : Bool :=
  c ∈ ['!', '^', '&', '*', '+', '-', '|', '?', ':', '=', '@', '>', '<', '.', '/', '~', '%']

def isCanonicalOperator (operator : String) : Bool :=
  operator ∈ ["!", "-", "+", "~", "=", "+=", "-=", "*=", "/=", "%=", "||", "&&", "==", "!=", "<",
    "<=", ">", ">=", "*", "/", "%", ".", ":", "|"]

/-- The tokens of one character. -/
def singleToken (c : Char) : Option TokenKind :=
  [('{', .openCurly), ('}', .closeCurly), ('(', .openRound), (')', .closeRound),
    ('[', .openSquare), (']', .closeSquare), (',', .comma), (';', .semicolon)].lookup c

def decimalValue (digits : List Char) : ℕ := Nat.ofDigitChars 10 digits 0

/-- The number that `parse::<f64>` rounds; an exponent without digits does not parse. -/
def parseDecimal (spelling : List Char) : Option ℚ :=
  let mantissa := spelling.takeWhile fun c => c != 'e' && c != 'E'
  let integer := mantissa.takeWhile (· != '.')
  let fraction := (mantissa.dropWhile (· != '.')).tail
  let value : ℚ := decimalValue (integer ++ fraction) / 10 ^ fraction.length
  match spelling.dropWhile fun c => c != 'e' && c != 'E' with
  | [] => some value
  | [_] | [_, '+'] | [_, '-'] => none
  | _ :: '-' :: digits => some (value / 10 ^ decimalValue digits)
  | _ :: '+' :: digits => some (value * 10 ^ decimalValue digits)
  | _ :: digits => some (value * 10 ^ decimalValue digits)

/-- From `2 ^ 53 - 1 / 2` on the nearest `f64` is an integer above `MAX_SAFE_JSON_INTEGER`, or not
finite; below it is not. -/
def outOfRange (spelling : List Char) : Bool :=
  match parseDecimal spelling with
  | none => false
  | some value => decide (2 ^ 53 - 1 / 2 ≤ value)

structure ProfileLexer where
  rest : List Char
  (byte line column maxTokens : ℕ)
  tokens : List Token
  diagnostics : List SyntaxDiagnostic
  (diagnosticsTruncated tokenLimitReported : Bool)
  deriving DecidableEq

namespace ProfileLexer

def new (source : String) (maxTokens : ℕ) : ProfileLexer where
  rest := source.toList
  byte := 0
  line := 1
  column := 1
  maxTokens := maxTokens
  tokens := []
  diagnostics := []
  diagnosticsTruncated := false
  tokenLimitReported := false

def current (self : ProfileLexer) : Option Char := self.rest.head?

def peek (self : ProfileLexer) : Option Char := self.rest.tail.head?

def advance (self : ProfileLexer) : ProfileLexer :=
  match self.rest with
  | [] => self
  | c :: rest =>
    { self with
      rest := rest
      byte := self.byte + c.utf8Size
      line := if c = '\n' then self.line + 1 else self.line
      column := if c = '\n' then 1 else self.column + 1 }

def advanceOver : List Char → ProfileLexer → ProfileLexer
  | [], self => self
  | _ :: cs, self => advanceOver cs self.advance

/-- `while self.current().is_some_and(p)`, taking a character each time. -/
def advanceWhile (p : Char → Bool) (self : ProfileLexer) : ProfileLexer :=
  advanceOver (self.rest.takeWhile p) self

/-- The characters that were read from one state to another. -/
def slice (start stop : ProfileLexer) : List Char :=
  start.rest.take (start.rest.length - stop.rest.length)

def report (self : ProfileLexer) (line column : ℕ) (message : String) : ProfileLexer :=
  if self.diagnostics.length < maxSyntaxDiagnostics then
    { self with diagnostics := self.diagnostics ++ [⟨line, column, message⟩] }
  else { self with diagnosticsTruncated := true }

/-- A report at the place that the lexer has reached. -/
def reportHere (self : ProfileLexer) (message : String) : ProfileLexer :=
  self.report self.line self.column message

def reportTokenLimitAt (self : ProfileLexer) (line column : ℕ) : ProfileLexer :=
  if self.tokenLimitReported then self
  else
    { self.report line column
        ("canonical Octoscript token count exceeds the maximum of " ++ toString self.maxTokens) with
      tokenLimitReported := true }

/-- A token from `start` up to where the lexer is. -/
def emit (self : ProfileLexer) (kind : TokenKind) (start : ProfileLexer) : ProfileLexer :=
  if self.tokens.length ≥ self.maxTokens then self.reportTokenLimitAt start.line start.column
  else { self with
    tokens := self.tokens ++ [⟨kind, start.line, start.column, start.byte, self.byte⟩] }

def emitSingle (self : ProfileLexer) (kind : TokenKind) : ProfileLexer := self.advance.emit kind self

def emitNewline (self : ProfileLexer) : ProfileLexer := self.advance.emit .newline self

def emitCarriageReturnNewline (self : ProfileLexer) : ProfileLexer :=
  if self.peek ≠ some '\n' then
    (self.reportHere
      "bare carriage returns are not supported; use `\\n` or `\\r\\n` line endings").advance
  else self.advance.advance.emit .newline self

def scanIdentifier (self : ProfileLexer) : ProfileLexer :=
  let stop := self.advance.advanceWhile isIdentifierCharacter
  stop.emit (.identifier (String.ofList (self.slice stop))) self

def consumeAsciiDigits (self : ProfileLexer) : ProfileLexer := self.advanceWhile Char.isDigit

def scanFraction (self : ProfileLexer) : ProfileLexer :=
  if self.current = some '.' then
    if self.peek.any Char.isDigit then self.advance.consumeAsciiDigits
    else self.reportHere
      ("numeric literal decimal points must be followed by a digit; use whitespace or " ++
        "parentheses before field access")
  else self

def scanExponent (self : ProfileLexer) : ProfileLexer :=
  if self.current = some 'e' ∨ self.current = some 'E' then
    let after := self.advance
    let signed := if after.current = some '+' ∨ after.current = some '-' then after.advance else after
    if signed.current.any Char.isDigit then signed.consumeAsciiDigits
    else signed.report self.line self.column "exponents require at least one digit"
  else self

def checkSuffix (self : ProfileLexer) : ProfileLexer :=
  if self.current.any isIdentifierStart then self.reportHere
    "numeric literal suffixes are not part of the canonical Octoscript profile"
  else self

def scanNumber (self : ProfileLexer) : ProfileLexer :=
  let stop := self.consumeAsciiDigits.scanFraction.scanExponent.checkSuffix
  let stop := if outOfRange (self.slice stop) then stop.report self.line self.column
      ("numeric literals must be finite; integers outside +/-9007199254740991 must be " ++
        "strings") else stop
  stop.emit .number self

def invalidUnicodeEscape : String :=
  "unicode escapes must use four hexadecimal digits or `\\u\x7b...\x7d` with one to six " ++
    "hexadecimal digits"

def invalidUnicodeScalar : String := "unicode escapes must encode a valid Unicode scalar value"

/-- `start` is where the string begins. -/
def scanBracedEscape (self start : ProfileLexer) : ProfileLexer :=
  let inside := self.advance
  let digits := inside.rest.takeWhile isAsciiHexdigit
  let after := inside.advanceWhile isAsciiHexdigit
  let checked :=
    if ¬(1 ≤ digits.length ∧ digits.length ≤ 6) ∨ after.current ≠ some '}' then
      (after.report start.line start.column invalidUnicodeEscape).advanceWhile
        fun c => c != '}' && c != '\n'
    else if ¬(hexValue (digits.take 6)).isValidChar then
      after.report start.line start.column invalidUnicodeScalar
    else after
  if checked.current = some '}' then checked.advance else checked

def scanUnicodeEscape (self start : ProfileLexer) : ProfileLexer :=
  if self.current = some '{' then self.scanBracedEscape start
  else
    let digits := (self.rest.take 4).takeWhile isAsciiHexdigit
    let after := advanceOver digits self
    if digits.length ≠ 4 then after.report start.line start.column invalidUnicodeEscape
    else if ¬(hexValue digits).isValidChar then
      after.report start.line start.column invalidUnicodeScalar
    else after

def unterminatedString (self start : ProfileLexer) : ProfileLexer :=
  self.report start.line start.column "unterminated string literal"

def scanEscapeSequence (self start : ProfileLexer) : ProfileLexer :=
  match self.current with
  | none => self.unterminatedString start
  | some c =>
    if c ∈ ['"', '\\', 'n', 'r', 't'] then self.advance
    else if c = 'u' then self.advance.scanUnicodeEscape start
    else (self.reportHere "unsupported string escape in the canonical Octoscript profile").advance

/-- The characters of a string up to its end, and whether it has one. -/
def scanStringBody (start : ProfileLexer) : ℕ → ProfileLexer → ProfileLexer × Bool
  | 0, self => (self, false)
  | fuel + 1, self =>
    match self.current with
    | none => (self, false)
    | some c =>
      if c = '"' then (self.advance, true)
      else if c = '\\' then scanStringBody start fuel (self.advance.scanEscapeSequence start)
      else if c = '\n' ∨ c = '\r' then (self.unterminatedString start, false)
      else scanStringBody start fuel self.advance

def scanString (self : ProfileLexer) : ProfileLexer :=
  let body := scanStringBody self self.rest.length self.advance
  let stop := if body.2 = false ∧ body.1.current = none then body.1.unterminatedString self
    else body.1
  stop.emit .stringLiteral self

def skipSingleQuoted : ℕ → ProfileLexer → ProfileLexer
  | 0, self => self
  | fuel + 1, self =>
    match self.current with
    | none => self
    | some c =>
      if c = '\n' ∨ c = '\r' then self
      else if c = '\\' then skipSingleQuoted fuel self.advance.advance
      else if c = '\'' then self.advance
      else skipSingleQuoted fuel self.advance

def scanSingleQuotedString (self : ProfileLexer) : ProfileLexer :=
  let reported := self.reportHere
    "only double-quoted strings are part of the canonical Octoscript profile"
  skipSingleQuoted reported.rest.length reported.advance

def isLineCharacter (c : Char) : Bool := c != '\n' && c != '\r'

def skipLineComment (self : ProfileLexer) : ProfileLexer :=
  self.advance.advance.advanceWhile isLineCharacter

/-- The characters of a block comment up to its end, and whether it has one. A character that
follows a star is taken without a look at it, so `**/` does not end a comment. -/
def skipBlockBody : ℕ → Bool → ProfileLexer → ProfileLexer × Bool
  | 0, _, self => (self, false)
  | fuel + 1, possibleTerminator, self =>
    match self.current with
    | none => (self, false)
    | some c =>
      if possibleTerminator then
        if c = '/' then (self.advance, true) else skipBlockBody fuel false self.advance
      else if c = '*' ∧ self.peek = some '/' then (self.advance.advance, true)
      else if c = '*' then skipBlockBody fuel true self.advance
      else if c = '\n' then skipBlockBody fuel false self.emitNewline
      else if c = '\r' then skipBlockBody fuel false self.emitCarriageReturnNewline
      else skipBlockBody fuel false self.advance

def skipBlockComment (self : ProfileLexer) : ProfileLexer :=
  let body := skipBlockBody self.rest.length false self.advance.advance
  if body.2 then body.1
  else body.1.report self.line self.column "unterminated block comment"

def scanOperator (self : ProfileLexer) : ProfileLexer :=
  let stop := self.advanceWhile isOperatorCharacter
  let operator := String.ofList (self.slice stop)
  if operator = "~" then stop.report self.line self.column
    "direct logging (`~`) is not part of the canonical Octoscript profile"
  else if isCanonicalOperator operator then stop.emit (.operator operator) self
  else stop.report self.line self.column
    ("operator `" ++ operator ++ "` is not part of the canonical Octoscript profile")

def unsupportedCharacter (self : ProfileLexer) (c : Char) : ProfileLexer :=
  (self.reportHere ("unsupported character `" ++ String.singleton c ++
    "` in the canonical Octoscript profile")).advance

/-- One round of the lexer, at a character. -/
def scan (self : ProfileLexer) (c : Char) : ProfileLexer :=
  if c = ' ' ∨ c = '\t' ∨ c = '\x0c' then self.advance
  else if c = '\n' then self.emitNewline
  else if c = '\r' then self.emitCarriageReturnNewline
  else if c = '/' ∧ self.peek = some '/' then self.skipLineComment
  else if c = '/' ∧ self.peek = some '*' then self.skipBlockComment
  else if isIdentifierStart c then self.scanIdentifier
  else if c.isDigit then self.scanNumber
  else if c = '"' then self.scanString
  else if c = '\'' then self.scanSingleQuotedString
  else match singleToken c with
    | some kind => self.emitSingle kind
    | none => if isOperatorCharacter c then self.scanOperator else self.unsupportedCharacter c

def scanAll : ℕ → ProfileLexer → ProfileLexer
  | 0, self => self
  | fuel + 1, self =>
    match self.current with
    | none => self
    | some c => scanAll fuel (self.scan c)

/-- `End` is appended outside the token budget. -/
def finish (self : ProfileLexer) : ProfileLexer :=
  { self with tokens := self.tokens ++ [⟨.eof, self.line, self.column, self.byte, self.byte⟩] }

end ProfileLexer

/-- The lexer when it has read a source. -/
def tokenize (source : String) (maxTokens : ℕ) : ProfileLexer :=
  (ProfileLexer.scanAll source.toList.length (.new source maxTokens)).finish

example : (tokenize "let x = 1" 9).tokens.map Token.kind =
    [.identifier "let", .identifier "x", .operator "=", .number, .eof] := by decide +kernel

example : (tokenize "a /* **/ b */ c" 9).tokens.map Token.kind =
    [.identifier "a", .identifier "c", .eof] := by decide +kernel

end Octoscript.Language
