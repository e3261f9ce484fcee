import Octoscript.Language.Lexer
import Octoscript.Lib.Json
import Octoscript.Lib.Machine
import Octoscript.Lib.Mutation

namespace Octoscript.Language

inductive RuntimeJsonError
  | tooLarge (actual maximum : ℕ)

structure BoundedJsonWriter where
  output : String
  maximum : ℕ

namespace BoundedJsonWriter

abbrev Call := Mut BoundedJsonWriter RuntimeJsonError

def append (text : String) : Call Unit := do
  let self ← Mut.self
  let actual := Usize.saturatingAdd self.output.utf8ByteSize text.utf8ByteSize
  rejectIf (self.maximum < actual) (.tooLarge actual self.maximum)
  Mut.assign { self with output := self.output ++ text }

/-- One character of the string, with the escapes of the compact serialiser. -/
def appendEscaped (character : Char) : Call Unit :=
  append (String.ofList (Json.escapeChar character))

def appendEach : List Char → Call Unit
  | [] => pure ()
  | character :: characters => do
    appendEscaped character
    appendEach characters

def appendString (value : String) : Call Unit := do
  append "\""
  appendEach value.toList
  append "\""

/-- The code unit of four hexadecimal digits. -/
def codeUnit (digits : List Char) : Option ℕ :=
  if digits.all isAsciiHexdigit then some (hexValue digits) else none

def simpleEscape (character : Char) : Option Char :=
  [('"', '"'), ('\\', '\\'), ('/', '/'), ('b', '\x08'), ('f', '\x0c'), ('n', '\n'), ('r', '\r'),
    ('t', '\t')].lookup character

/-- The characters up to the closing quotation mark, which ends the text. A surrogate stands for a
character only together with its other half. -/
def decodeBody : List Char → Option (List Char)
  | ['"'] => some []
  | '\\' :: 'u' :: a :: b :: c :: d :: rest => do
    let unit ← codeUnit [a, b, c, d]
    if unit.isValidChar then return Char.ofNat unit :: (← decodeBody rest)
    else match rest with
      | '\\' :: 'u' :: e :: f :: g :: h :: rest =>
        let next ← codeUnit [e, f, g, h]
        if unit < 0xdc00 ∧ 0xdc00 ≤ next ∧ next < 0xe000 then
          return Char.ofNat (0x10000 + (unit - 0xd800) * 0x400 + (next - 0xdc00)) ::
            (← decodeBody rest)
        else none
      | _ => none
  | '\\' :: character :: rest => do return (← simpleEscape character) :: (← decodeBody rest)
  | character :: rest =>
    if character = '"' ∨ character = '\\' ∨ character.toNat < 0x20 then none
    else (decodeBody rest).map (character :: ·)
  | [] => none

def decodeString : List Char → Option String
  | '"' :: body => (decodeBody body).map String.ofList
  | _ => none

example : decodeString "\"\\ud83d\\ude00\\u00e9\"".toList = some "😀é" := by decide +kernel

theorem codeUnit_control (n : ℕ) (h : n < 32) :
    codeUnit ['0', '0', Wire.hexDigit (n / 16), Wire.hexDigit (n % 16)] = some n := by
  interval_cases n <;> rfl

/-- What is written for one character is read as that character. -/
theorem decodeBody_escapeChar (c : Char) (rest : List Char) :
    decodeBody (Json.escapeChar c ++ rest) = (decodeBody rest).map (c :: ·) := by
  have hshort : ∀ d e, simpleEscape d = some e → d ≠ 'u' →
      decodeBody ('\\' :: d :: rest) = (decodeBody rest).map (e :: ·) := by
    intro d e hescape hne
    rw [decodeBody.eq_def]
    cases hread : decodeBody rest <;> simp [hescape, hne, hread]
  have hcode : ∀ n, c.toNat = n → ∀ d, simpleEscape d = some (Char.ofNat n) → d ≠ 'u' →
      decodeBody ('\\' :: d :: rest) = (decodeBody rest).map (c :: ·) :=
    fun n hn d hescape hne => Json.ofNat_of_toNat hn ▸ hshort d _ hescape hne
  unfold Json.escapeChar
  split_ifs with hquote hslash h8 h9 h10 h12 h13 hcontrol
  · exact hquote ▸ hshort '"' '"' rfl (by decide)
  · exact hslash ▸ hshort '\\' '\\' rfl (by decide)
  · exact hcode 8 h8 'b' rfl (by decide)
  · exact hcode 9 h9 't' rfl (by decide)
  · exact hcode 10 h10 'n' rfl (by decide)
  · exact hcode 12 h12 'f' rfl (by decide)
  · exact hcode 13 h13 'r' rfl (by decide)
  · have hvalid : c.toNat.isValidChar := .inl (by omega)
    simp only [List.cons_append, List.nil_append, decodeBody.eq_def ('\\' :: _),
      codeUnit_control _ hcontrol]
    cases hread : decodeBody rest <;> simp [hvalid]
  · rw [List.singleton_append, decodeBody.eq_def]
    simp [hquote, hslash, not_lt.mpr (not_lt.mp hcontrol)]

theorem decodeBody_escape (characters : List Char) :
    decodeBody (Json.escape characters ++ ['"']) = some characters := by
  induction characters with
  | nil => rfl
  | cons c characters ih =>
    rw [Json.escape, List.flatMap_cons, List.append_assoc, decodeBody_escapeChar c]
    exact congrArg (Option.map (c :: ·)) ih

variable {writer writer' : BoundedJsonWriter}

theorem output_of_returns_append {text : String} {u : Unit}
    (h : (append text).Returns writer u writer') : writer'.output = writer.output ++ text := by
  simp only [append, Mut.returns_steps] at h
  rw [← h.2]

theorem output_of_returns_appendEach {characters : List Char} {u : Unit}
    (h : (appendEach characters).Returns writer u writer') :
    writer'.output = writer.output ++ String.ofList (Json.escape characters) := by
  induction characters generalizing writer with
  | nil =>
    obtain ⟨-, rfl⟩ := Mut.returns_pure.mp h
    simp [Json.escape]
  | cons c characters ih =>
    obtain ⟨_, next, hfirst, hrest⟩ := Mut.returns_bind.mp h
    rw [ih hrest, output_of_returns_append hfirst, String.append_assoc, ← String.ofList_append]
    rfl

/-- What the writer appends for a string is a JSON string that is read as the same string. -/
theorem appendString_decodes (value : String)
    (h : (appendString value).Returns writer () writer') :
    ∃ text, writer'.output = writer.output ++ text ∧ decodeString text.toList = some value := by
  obtain ⟨_, first, hopen, h⟩ := Mut.returns_bind.mp h
  obtain ⟨_, second, heach, hclose⟩ := Mut.returns_bind.mp h
  refine ⟨String.ofList (Json.stringChars value), ?_, ?_⟩
  · rw [output_of_returns_append hclose, output_of_returns_appendEach heach,
      output_of_returns_append hopen]
    simp [Json.stringChars, String.append_assoc, String.ofList_append, String.ofList_cons]
  · simp [Json.stringChars, decodeString, decodeBody_escape]

theorem appendString_decodes_tab :
    ∃ writer : BoundedJsonWriter, (appendString "a\t\"").Returns ⟨"", 9⟩ () writer ∧
      ∃ text, writer.output = "" ++ text ∧ decodeString text.toList = some "a\t\"" := by
  have h : (appendString "a\t\"").Returns ⟨"", 9⟩ () ⟨"\"a\\t\\\"\"", 9⟩ := rfl
  exact ⟨_, h, appendString_decodes _ h⟩

end BoundedJsonWriter

end Octoscript.Language
