import Octoscript.Language.Lexer
import Octoscript.Lib.Text

namespace Octoscript.Language
open List
open Text (lastLineFrom)

namespace ProfileLexer

/-- Kept by each step, at a place where it held. All that the lexer does is to take characters, to
report and to emit tokens, at places that it has come to. -/
structure Kept (P : ProfileLexer → Prop) : Prop where
  advance {a : ProfileLexer} : P a → P a.advance
  report {a start : ProfileLexer} (message : String) : P a → P start →
    P (a.report start.line start.column message)
  emit {a start : ProfileLexer} (kind : TokenKind) : P a → P start → P (a.emit kind start)

namespace Kept
variable {P : ProfileLexer → Prop} (hP : Kept P) {a start : ProfileLexer}
include hP

theorem advanceOver (cs : List Char) (h : P a) : P (advanceOver cs a) := by
  induction cs generalizing a with
  | nil => exact h
  | cons c cs ih => exact ih (hP.advance h)

theorem advanceWhile (p : Char → Bool) (h : P a) : P (a.advanceWhile p) := hP.advanceOver _ h

theorem emitCarriageReturnNewline (h : P a) : P a.emitCarriageReturnNewline := by
  unfold ProfileLexer.emitCarriageReturnNewline
  split_ifs
  · exact hP.advance (hP.report _ h h)
  · exact hP.emit _ (hP.advance (hP.advance h)) h

theorem scanNumber (h : P a) : P a.scanNumber := by
  have hfraction {a : ProfileLexer} (h : P a) : P a.scanFraction := by
    unfold scanFraction
    split_ifs
    · exact hP.advanceWhile _ (hP.advance h)
    · exact hP.report _ h h
    · exact h
  have hexponent {a : ProfileLexer} (h : P a) : P a.scanExponent := by
    unfold scanExponent
    dsimp only
    have hafter := hP.advance h
    split_ifs
    · exact hP.advanceWhile _ (hP.advance hafter)
    · exact hP.report _ (hP.advance hafter) h
    · exact hP.advanceWhile _ hafter
    · exact hP.report _ hafter h
    · exact h
  have hsuffix {a : ProfileLexer} (h : P a) : P a.checkSuffix := by
    unfold checkSuffix
    split_ifs
    · exact hP.report _ h h
    · exact h
  have hstop := hsuffix (hexponent (hfraction (hP.advanceWhile Char.isDigit h)))
  unfold ProfileLexer.scanNumber
  refine hP.emit _ ?_ h
  split_ifs
  · exact hP.report _ hstop h
  · exact hstop

theorem scanUnicodeEscape (h : P a) (hstart : P start) : P (a.scanUnicodeEscape start) := by
  have hinside : P (a.advance.advanceWhile isAsciiHexdigit) := hP.advanceWhile _ (hP.advance h)
  have hdigits := hP.advanceOver ((a.rest.take 4).takeWhile isAsciiHexdigit) h
  unfold ProfileLexer.scanUnicodeEscape scanBracedEscape
  dsimp only
  split_ifs
  · exact hP.advance (hP.advanceWhile _ (hP.report _ hinside hstart))
  · exact hP.advanceWhile _ (hP.report _ hinside hstart)
  · exact hP.advance hinside
  · exact hinside
  · exact hP.advance (hP.report _ hinside hstart)
  · exact hP.report _ hinside hstart
  · exact hP.report _ hdigits hstart
  · exact hdigits
  · exact hP.report _ hdigits hstart

theorem scanStringBody (fuel : ℕ) (h : P a) (hstart : P start) :
    P (scanStringBody start fuel a).1 := by
  have hescape {a : ProfileLexer} (h : P a) : P (a.scanEscapeSequence start) := by
    unfold scanEscapeSequence
    split
    · exact hP.report _ h hstart
    · split_ifs
      · exact hP.advance h
      · exact hP.scanUnicodeEscape (hP.advance h) hstart
      · exact hP.advance (hP.report _ h h)
  induction fuel generalizing a with
  | zero => exact h
  | succ fuel ih =>
    unfold ProfileLexer.scanStringBody
    split
    · exact h
    · split_ifs
      · exact hP.advance h
      · exact ih (hescape (hP.advance h))
      · exact hP.report _ h hstart
      · exact ih (hP.advance h)

theorem scanString (h : P a) : P a.scanString := by
  have hbody := hP.scanStringBody a.rest.length (hP.advance h) h
  unfold ProfileLexer.scanString
  refine hP.emit _ ?_ h
  split_ifs
  · exact hP.report _ hbody h
  · exact hbody

theorem skipSingleQuoted (fuel : ℕ) (h : P a) : P (skipSingleQuoted fuel a) := by
  induction fuel generalizing a with
  | zero => exact h
  | succ fuel ih =>
    unfold ProfileLexer.skipSingleQuoted
    split
    · exact h
    · split_ifs
      · exact h
      · exact ih (hP.advance (hP.advance h))
      · exact hP.advance h
      · exact ih (hP.advance h)

theorem skipBlockBody (fuel : ℕ) (possible : Bool) (h : P a) :
    P (skipBlockBody fuel possible a).1 := by
  induction fuel generalizing possible a with
  | zero => exact h
  | succ fuel ih =>
    have hnext := hP.advance h
    unfold ProfileLexer.skipBlockBody
    split
    · exact h
    · split_ifs
      · exact hnext
      · exact ih false hnext
      · exact hP.advance hnext
      · exact ih true hnext
      · exact ih false (hP.emit _ hnext h)
      · exact ih false (hP.emitCarriageReturnNewline h)
      · exact ih false hnext

theorem scanOperator (h : P a) : P a.scanOperator := by
  have hstop := hP.advanceWhile isOperatorCharacter h
  unfold ProfileLexer.scanOperator
  dsimp only
  split_ifs
  · exact hP.report _ hstop h
  · exact hP.emit _ hstop h
  · exact hP.report _ hstop h

theorem scan (h : P a) (c : Char) : P (a.scan c) := by
  have hnext := hP.advance h
  unfold ProfileLexer.scan
  split_ifs
  · exact hnext
  · exact hP.emit _ hnext h
  · exact hP.emitCarriageReturnNewline h
  · exact hP.advanceWhile _ (hP.advance hnext)
  · unfold skipBlockComment
    dsimp only
    have hbody := hP.skipBlockBody a.rest.length false (hP.advance hnext)
    split_ifs
    · exact hbody
    · exact hP.report _ hbody h
  · exact hP.emit _ (hP.advanceWhile _ hnext) h
  · exact hP.scanNumber h
  · exact hP.scanString h
  · exact hP.skipSingleQuoted _ (hP.advance (hP.report _ h h))
  · split
    · exact hP.emit _ hnext h
    · exact hP.scanOperator h
  · split
    · exact hP.emit _ hnext h
    · exact hP.advance (hP.report _ h h)

theorem scanAll (fuel : ℕ) (h : P a) : P (scanAll fuel a) := by
  induction fuel generalizing a with
  | zero => exact h
  | succ fuel ih =>
    unfold ProfileLexer.scanAll
    split
    · exact h
    · exact ih (hP.scan h _)

end Kept

end ProfileLexer

/-- The line and the column behind a part of the source. -/
def IsPlace (source : List Char) (line column : ℕ) : Prop :=
  ∃ before after, source = before ++ after ∧ line = before.count '\n' + 1 ∧
    column = (lastLineFrom [] before).length + 1

/-- The lexer stands behind what it has read, and reports where it stood. -/
structure ProfileLexer.Placed (source : List Char) (a : ProfileLexer) : Prop where
  here : ∃ read, source = read ++ a.rest ∧ a.line = read.count '\n' + 1 ∧
    a.column = (lastLineFrom [] read).length + 1
  reports : ∀ diagnostic ∈ a.diagnostics, IsPlace source diagnostic.line diagnostic.column

theorem lastLineFrom_concat (current text : List Char) (c : Char) :
    lastLineFrom current (text ++ [c]) =
      if c = '\n' then [] else lastLineFrom current text ++ [c] := by
  induction text generalizing current with
  | nil => rfl
  | cons d text ih =>
    rw [cons_append, lastLineFrom, lastLineFrom]
    split_ifs <;> simp_all

namespace ProfileLexer.Placed
variable {source : List Char} {a start : ProfileLexer}

theorem isPlace (h : Placed source a) : IsPlace source a.line a.column := by
  obtain ⟨read, hsource, hplace⟩ := h.here
  exact ⟨read, a.rest, hsource, hplace⟩

theorem advance (h : Placed source a) : Placed source a.advance := by
  obtain ⟨⟨read, hsource, hline, hcolumn⟩, hreports⟩ := h
  unfold ProfileLexer.advance
  split
  · exact ⟨⟨read, hsource, hline, hcolumn⟩, hreports⟩
  · rename_i c rest hrest
    refine ⟨⟨read ++ [c], by rw [hsource, hrest]; simp, ?_, ?_⟩, hreports⟩
    · simp only [count_append, count_singleton, hline, beq_iff_eq]
      split_ifs <;> omega
    · simp only [lastLineFrom_concat, hcolumn]
      split_ifs
      · rfl
      · rw [length_append, length_singleton]

theorem report (message : String) (h : Placed source a) (hstart : Placed source start) :
    Placed source (a.report start.line start.column message) := by
  unfold ProfileLexer.report
  split_ifs
  · exact ⟨h.here, forall_mem_append.mpr ⟨h.reports, forall_mem_singleton.mpr hstart.isPlace⟩⟩
  · exact ⟨h.here, h.reports⟩

theorem emit (kind : TokenKind) (h : Placed source a) (hstart : Placed source start) :
    Placed source (a.emit kind start) := by
  unfold ProfileLexer.emit reportTokenLimitAt
  split_ifs
  · exact h
  · obtain ⟨hhere, hreports⟩ := h.report _ hstart
    exact ⟨hhere, hreports⟩
  · exact ⟨h.here, h.reports⟩

end ProfileLexer.Placed

/-- Every diagnostic stands behind a part of the source. -/
theorem isPlace_of_mem_diagnostics {source : String} {maxTokens : ℕ} {diagnostic : SyntaxDiagnostic}
    (h : diagnostic ∈ (tokenize source maxTokens).diagnostics) :
    IsPlace source.toList diagnostic.line diagnostic.column := by
  have hkept : ProfileLexer.Kept (ProfileLexer.Placed source.toList) := ⟨.advance, .report, .emit⟩
  have hstart : ProfileLexer.Placed source.toList (.new source maxTokens) :=
    ⟨⟨[], rfl, rfl, rfl⟩, nofun⟩
  exact (hkept.scanAll source.toList.length hstart).reports diagnostic h

end Octoscript.Language
