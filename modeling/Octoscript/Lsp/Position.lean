import Octoscript.Language.Places

namespace Octoscript.Lsp
open Text Octoscript.Language List String
open String (utf8Len)

/-- A line and a column, each a `u32`. -/
structure Position where
  (line character : ℕ)
  deriving DecidableEq

structure Range where
  (start stop : Position)
  deriving DecidableEq

def u32Max : ℕ := 2 ^ 32 - 1

def saturatingAdd (a b : ℕ) : ℕ := min (a + b) u32Max

theorem saturatingAdd_eq {a b : ℕ} (h : a + b ≤ u32Max) : saturatingAdd a b = a + b := min_eq_left h

def byteAtUtf16ColumnFrom (character : ℕ) : (column byte : ℕ) → List Char → Option ℕ
  | column, byte, [] => if column = character then some byte else none
  | column, byte, c :: cs =>
    if column = character then some byte
    else if column + lenUtf16 c > u32Max then none
    else if column + lenUtf16 c > character then none
    else byteAtUtf16ColumnFrom character (column + lenUtf16 c) (byte + c.utf8Size) cs

def byteAtUtf16Column (line : List Char) (character : ℕ) : Option ℕ :=
  byteAtUtf16ColumnFrom character 0 0 line

/-- The byte of a position on the line that has just ended. -/
def byteOnLine (position : Position) (lineStart : ℕ) (current : List Char) : Option ℕ :=
  (byteAtUtf16Column current position.character).map (lineStart + ·)

/-- `current` is the line so far, which begins at `lineStart`. -/
def byteAtPositionFrom (position : Position) :
    (line lineStart : ℕ) → (current : List Char) → List Char → Option ℕ
  | line, lineStart, current, [] =>
    if line = position.line then byteOnLine position lineStart current else none
  | line, lineStart, current, '\r' :: '\n' :: cs =>
    if line = position.line then byteOnLine position lineStart current
    else byteAtPositionFrom position (saturatingAdd line 1) (lineStart + utf8Len current + 2) [] cs
  | line, lineStart, current, c :: cs =>
    if c = '\r' ∨ c = '\n' then
      if line = position.line then byteOnLine position lineStart current
      else byteAtPositionFrom position (saturatingAdd line 1) (lineStart + utf8Len current + 1) [] cs
    else byteAtPositionFrom position line lineStart (current ++ [c]) cs

def byteAtPosition (source : String) (position : Position) : Option ℕ :=
  byteAtPositionFrom position 0 0 [] source.toList

/-- Where a walk over the characters stands. -/
structure Walk where
  (line character : ℕ)
  previousWasCarriageReturn : Bool

def Walk.step (self : Walk) (c : Char) : Walk :=
  if c = '\r' then ⟨saturatingAdd self.line 1, 0, true⟩
  else if c = '\n' then
    if self.previousWasCarriageReturn then { self with previousWasCarriageReturn := false }
    else ⟨saturatingAdd self.line 1, 0, false⟩
  else ⟨self.line, saturatingAdd self.character (lenUtf16 c), false⟩

def Walk.position (self : Walk) : Position := ⟨self.line, self.character⟩

/-- The source is sliced at the offset, which has to be a character boundary. -/
def positionAtByte (source : String) (byteOffset : ℕ) : Option Position := do
  let parts ← splitBytes source.toList byteOffset
  return (parts.1.foldl Walk.step ⟨0, 0, false⟩).position

/-- The offset lies inside a line ending of two characters. -/
def BetweenCrLf (source : String) (byteOffset : ℕ) : Prop :=
  ∃ a b, source.toList = a ++ '\r' :: '\n' :: b ∧ byteOffset = utf8Len a + 1

theorem byteAtUtf16ColumnFrom_append (a b : List Char) (column byte : ℕ)
    (hmax : column + utf16Len a ≤ u32Max) :
    byteAtUtf16ColumnFrom (column + utf16Len a) column byte (a ++ b) = some (byte + utf8Len a) := by
  induction a generalizing column byte with
  | nil => cases b <;> simp [byteAtUtf16ColumnFrom]
  | cons c a ih =>
    have hc := lenUtf16_pos c
    simp only [utf16Len_cons] at hmax ⊢
    rw [cons_append, byteAtUtf16ColumnFrom, if_neg (by omega), if_neg (by omega),
      if_neg (by omega), ← Nat.add_assoc, ih _ _ (by omega)]
    simp only [utf8Len_cons]
    congr 1
    omega

theorem byteOnLine_append (a b : List Char) {line lineStart : ℕ} (hmax : utf16Len a ≤ u32Max) :
    byteOnLine ⟨line, utf16Len a⟩ lineStart (a ++ b) = some (lineStart + utf8Len a) := by
  have h := byteAtUtf16ColumnFrom_append a b 0 0 (by omega)
  simp only [Nat.zero_add] at h
  simp [byteOnLine, byteAtUtf16Column, h]

/-- On the line of the position the loop reads on to the end of the line. -/
theorem byteAtPositionFrom_line (a b cs : List Char) (line lineStart : ℕ)
    (hmax : utf16Len a ≤ u32Max) :
    byteAtPositionFrom ⟨line, utf16Len a⟩ line lineStart (a ++ b) cs =
      some (lineStart + utf8Len a) := by
  induction cs generalizing b with
  | nil => rw [byteAtPositionFrom, if_pos rfl, byteOnLine_append a b hmax]
  | cons c cs ih =>
    rw [byteAtPositionFrom.eq_def]
    split
    · next h => cases h
    · rw [if_pos rfl, byteOnLine_append a b hmax]
    · next h =>
      cases h
      by_cases hend : c = '\r' ∨ c = '\n'
      · rw [if_pos hend, if_pos rfl, byteOnLine_append a b hmax]
      · rw [if_neg hend, List.append_assoc]
        exact ih (b ++ [c])

theorem byteAtPositionFrom_cons {position : Position} {line lineStart : ℕ} {current cs : List Char}
    {c : Char} (h : ¬(c = '\r' ∧ cs.head? = some '\n')) :
    byteAtPositionFrom position line lineStart current (c :: cs) =
      if c = '\r' ∨ c = '\n' then
        if line = position.line then byteOnLine position lineStart current
        else byteAtPositionFrom position (saturatingAdd line 1) (lineStart + utf8Len current + 1) [] cs
      else byteAtPositionFrom position line lineStart (current ++ [c]) cs := by
  apply byteAtPositionFrom.eq_3
  rintro cs' rfl rfl
  exact h ⟨rfl, rfl⟩

/-- The number of the line that `a` ends in, and that line up to there, if `b` follows: a line ends
at a line feed, and at a carriage return that no line feed follows. -/
def sourceLine (b : List Char) : ℕ → List Char → List Char → ℕ × List Char
  | n, current, [] => (n, current)
  | n, current, c :: a =>
    if c = '\n' ∨ c = '\r' ∧ (a ++ b).head? ≠ some '\n' then sourceLine b (n + 1) [] a
    else sourceLine b n (current ++ [c]) a

theorem sourceLine_suffix (b a current : List Char) (n : ℕ) :
    (sourceLine b n current a).2 <:+ current ++ a := by
  induction a generalizing n current with
  | nil => simp [sourceLine]
  | cons c a ih =>
    rw [sourceLine]
    split_ifs
    · exact (ih [] (n + 1)).trans ⟨current ++ [c], by simp⟩
    · simpa using ih (current ++ [c]) n

theorem sourceLine_le (b a current : List Char) (n : ℕ) :
    (sourceLine b n current a).1 ≤ n + a.length := by
  induction a generalizing n current with
  | nil => simp [sourceLine]
  | cons c a ih =>
    rw [sourceLine, length_cons]
    split_ifs
    · have := ih [] (n + 1)
      omega
    · have := ih (current ++ [c]) n
      omega

/-- Later in a text the line is later, or the column is by the characters between. -/
theorem sourceLine_later (b a current : List Char) (n : ℕ) :
    n < (sourceLine b n current a).1 ∨ (sourceLine b n current a).1 = n ∧
      (sourceLine b n current a).2.length = current.length + a.length := by
  induction a generalizing n current with
  | nil => simp [sourceLine]
  | cons c a ih =>
    rw [sourceLine]
    split_ifs
    · have := ih [] (n + 1)
      omega
    · simpa [Nat.add_assoc, Nat.add_comm 1] using ih (current ++ [c]) n

/-- The loop finds the end of `a` on its line, from any line. -/
theorem byteAtPositionFrom_sourceLine (a b current : List Char) (line lineStart : ℕ)
    (hmax : line + utf16Len current + utf8Len a ≤ u32Max)
    (hsplit : a.getLast? = some '\r' → b.head? ≠ some '\n') :
    byteAtPositionFrom ⟨(sourceLine b line current a).1, utf16Len (sourceLine b line current a).2⟩ line
      lineStart current (a ++ b) = some (lineStart + utf8Len current + utf8Len a) := by
  -- a line ending may take two characters at once, so the induction is on the length
  induction hlen : a.length using Nat.strong_induction_on generalizing a current line lineStart with
  | _ n ih =>
  subst hlen
  -- a line that ends in `a` is not the one that is looked for
  have hnext (width : ℕ) (a' : List Char) (hshort : a'.length < a.length)
      (hbytes : utf8Len a = utf8Len a' + width) (hwidth : 0 < width)
      (hlast : a'.getLast? = some '\r' → b.head? ≠ some '\n') :
      line ≠ (sourceLine b (line + 1) [] a').1 ∧
      byteAtPositionFrom ⟨(sourceLine b (line + 1) [] a').1, utf16Len (sourceLine b (line + 1) [] a').2⟩
        (saturatingAdd line 1) (lineStart + utf8Len current + width) [] (a' ++ b) =
          some (lineStart + utf8Len current + utf8Len a) := by
    have hlater := sourceLine_later b a' [] (line + 1)
    have hrest := ih a'.length hshort a' [] (line + 1) (lineStart + utf8Len current + width)
      (by simp only [utf16Len_nil]; omega) hlast rfl
    refine ⟨by omega, ?_⟩
    rw [saturatingAdd_eq (by omega), hrest, utf8Len_nil, hbytes]
    congr 1
    omega
  cases a with
  | nil =>
    have h := byteAtPositionFrom_line current [] b line lineStart (by omega)
    rw [append_nil] at h
    exact h
  | cons c a =>
    have hrest (h : a.getLast? = some '\r') : b.head? ≠ some '\n' :=
      hsplit (by simp [getLast?_cons, h])
    by_cases hcrlf : c = '\r' ∧ a.head? = some '\n'
    · obtain ⟨rfl, hhead⟩ := hcrlf
      obtain ⟨a, rfl⟩ := head?_eq_some_iff.mp hhead
      obtain ⟨hline, hfound⟩ := hnext 2 a (by simp only [length_cons]; omega) rfl (by omega)
        fun h => hrest (by simp [getLast?_cons, h])
      have hnewline : sourceLine b line current ('\r' :: '\n' :: a) = sourceLine b (line + 1) [] a := by
        simp [sourceLine]
      rw [hnewline, cons_append, cons_append, byteAtPositionFrom, if_neg hline, hfound]
    · have hcons : ¬(c = '\r' ∧ (a ++ b).head? = some '\n') := by
        rintro ⟨rfl, hhead⟩
        cases a with
        | nil => exact hsplit rfl hhead
        | cons d a => exact hcrlf ⟨rfl, hhead⟩
      rw [cons_append, byteAtPositionFrom_cons hcons, sourceLine]
      by_cases hend : c = '\r' ∨ c = '\n'
      · have hsize : c.utf8Size = 1 := by rcases hend with rfl | rfl <;> rfl
        obtain ⟨hline, hfound⟩ := hnext 1 a (by simp) (by simp [hsize]) (by omega) hrest
        have hbreak : c = '\n' ∨ c = '\r' ∧ (a ++ b).head? ≠ some '\n' :=
          hend.symm.imp_right fun hc => ⟨hc, fun hhead => hcons ⟨hc, hhead⟩⟩
        rw [if_pos hend, if_pos hbreak, if_neg hline, hfound]
      · have hsize := lenUtf16_le_utf8Size c
        have hcur : utf16Len (current ++ [c]) = utf16Len current + lenUtf16 c := by simp
        simp only [utf8Len_cons] at hmax
        have hfound := ih a.length (by simp) a (current ++ [c]) line lineStart (by omega) hrest rfl
        rw [if_neg hend, if_neg fun h => hend (h.symm.imp_left And.left), hfound]
        simp only [utf8Len_append, utf8Len_cons, utf8Len_nil]
        congr 1
        omega

/-- The walk stands on this line, behind this part of it; inside a line ending it is already on the
next line. -/
def Walk.Tracks (self : Walk) (rest : List Char) (found : ℕ × List Char) : Prop :=
  if self.previousWasCarriageReturn = true ∧ rest.head? = some '\n' then
    self.position = ⟨found.1 + 1, 0⟩
  else self.position = ⟨found.1, utf16Len found.2⟩

theorem Walk.tracks_foldl (a b current : List Char) (n : ℕ) {s : Walk}
    (h : s.Tracks (a ++ b) (n, current)) (hmax : n + utf16Len current + utf8Len a ≤ u32Max) :
    (a.foldl Walk.step s).Tracks b (sourceLine b n current a) := by
  induction a generalizing s n current with
  | nil => exact h
  | cons c a ih =>
    have hbytes := lenUtf16_le_utf8Size c
    have hbyte := c.utf8Size_pos
    rw [utf8Len_cons] at hmax
    have hline : saturatingAdd n 1 = n + 1 := saturatingAdd_eq (by omega)
    -- the line ends at `c`, or goes on with it
    have hbreak (hend : c = '\n' ∨ c = '\r' ∧ (a ++ b).head? ≠ some '\n')
        (hstep : (s.step c).Tracks (a ++ b) (n + 1, [])) :
        ((c :: a).foldl Walk.step s).Tracks b (sourceLine b n current (c :: a)) := by
      rw [sourceLine, if_pos hend]
      exact ih [] (n + 1) hstep (by rw [utf16Len_nil]; omega)
    have hkeep (hend : ¬(c = '\n' ∨ c = '\r' ∧ (a ++ b).head? ≠ some '\n'))
        (hstep : (s.step c).Tracks (a ++ b) (n, current ++ [c])) :
        ((c :: a).foldl Walk.step s).Tracks b (sourceLine b n current (c :: a)) := by
      rw [sourceLine, if_neg hend]
      refine ih (current ++ [c]) n hstep ?_
      simp only [utf16Len_append, utf16Len_cons, utf16Len_nil]
      omega
    obtain ⟨line, character, flag⟩ := s
    by_cases hn : c = '\n'
    · subst hn
      refine hbreak (.inl rfl) ?_
      -- behind a carriage return the line feed was counted with it
      cases flag <;> simp_all [Tracks, Walk.step, Walk.position]
    have hhere : line = n ∧ character = utf16Len current := by
      simpa [Tracks, hn, Walk.position] using h
    obtain ⟨rfl, rfl⟩ := hhere
    by_cases hr : c = '\r'
    · subst hr
      by_cases hhead : (a ++ b).head? = some '\n'
      · exact hkeep (by simp [hhead]) (by simp [Tracks, Walk.step, Walk.position, hhead, hline])
      · refine hbreak (.inr ⟨rfl, hhead⟩) ?_
        rw [Tracks, if_neg fun h => hhead h.2]
        simp [Walk.step, Walk.position, hline]
    · refine hkeep (by simp [hn, hr]) ?_
      have hunits := saturatingAdd_eq (show utf16Len current + lenUtf16 c ≤ u32Max by omega)
      simp [Tracks, Walk.step, Walk.position, hn, hr, hunits]

theorem Walk.flag_foldl (a : List Char) :
    (a.foldl Walk.step ⟨0, 0, false⟩).previousWasCarriageReturn = true ↔ a.getLast? = some '\r' := by
  rcases eq_nil_or_concat' a with rfl | ⟨a, c, rfl⟩
  · simp
  · rw [foldl_append, foldl_cons, foldl_nil, getLast?_concat, Walk.step]
    split_ifs <;> simp_all

theorem betweenCrLf_iff {source : String} {pre post : List Char}
    (hsource : source.toList = pre ++ post) :
    BetweenCrLf source (utf8Len pre) ↔ pre.getLast? = some '\r' ∧ post.head? = some '\n' := by
  constructor
  · rintro ⟨a, b, hsplit, hlen⟩
    obtain ⟨rfl, rfl⟩ := append_inj_of_utf8Len
      (show pre ++ post = (a ++ ['\r']) ++ '\n' :: b by simpa [← hsource] using hsplit)
      (by rw [hlen, utf8Len_append]; rfl)
    simp
  · rintro ⟨hlast, hhead⟩
    obtain ⟨a, rfl⟩ := getLast?_eq_some_iff.mp hlast
    obtain ⟨b, rfl⟩ := head?_eq_some_iff.mp hhead
    exact ⟨a, b, by simpa using hsource, by rw [utf8Len_append]; rfl⟩

/-- The walk up to a byte ends in its line, or behind it if that is inside a line ending. -/
theorem exists_positionAtByte {source : String} {pre post : List Char}
    (hsource : source.toList = pre ++ post) (hmax : utf8Len pre ≤ u32Max) :
    ∃ position, positionAtByte source (utf8Len pre) = some position ∧
      (BetweenCrLf source (utf8Len pre) → position.line = (sourceLine post 0 [] pre).1 + 1) ∧
      (¬BetweenCrLf source (utf8Len pre) →
        position = ⟨(sourceLine post 0 [] pre).1, utf16Len (sourceLine post 0 [] pre).2⟩) := by
  have htracks := @Walk.tracks_foldl pre post [] 0 ⟨0, 0, false⟩ (by simp [Walk.Tracks, Walk.position])
    (by simpa using hmax)
  have hflag := (betweenCrLf_iff hsource).trans (and_congr_left' (Walk.flag_foldl pre).symm)
  rw [Walk.Tracks] at htracks
  refine ⟨_, by rw [positionAtByte, hsource, splitBytes_append]; rfl, fun h => ?_, fun h => ?_⟩
  · rw [if_pos (hflag.mp h)] at htracks
    exact congrArg Position.line htracks
  · rwa [if_neg (mt hflag.mpr h)] at htracks

theorem utf8Len_le_u32Max {source : String} {pre post : List Char}
    (hsource : source.toList = pre ++ post) (hsize : source.utf8ByteSize < 2 ^ 32) :
    utf8Len pre + utf8Len post ≤ u32Max := by
  rw [← utf8Len_append, ← hsource, ← utf8ByteSize_ofList, ofList_toList]
  unfold u32Max
  omega

theorem byteAtPosition_positionAtByte {source : String} {b : ℕ} {position : Position}
    (hsize : source.utf8ByteSize < 2 ^ 32) (h : positionAtByte source b = some position)
    (hbetween : ¬BetweenCrLf source b) : byteAtPosition source position = some b := by
  obtain ⟨⟨pre, post⟩, hparts, -⟩ := Option.bind_eq_some_iff.mp h
  obtain ⟨hsource, rfl⟩ := splitBytes_eq_some hparts
  have hmax := utf8Len_le_u32Max hsource hsize
  obtain ⟨found, hfound, -, hplace⟩ := exists_positionAtByte hsource (by omega)
  obtain rfl : position = found := Option.some_inj.mp (h.symm.trans hfound)
  have hbyte := byteAtPositionFrom_sourceLine pre post [] 0 0 (by simp only [utf16Len_nil]; omega)
    fun hlast hhead => hbetween ((betweenCrLf_iff hsource).mpr ⟨hlast, hhead⟩)
  rw [hplace hbetween, byteAtPosition, hsource, hbyte, utf8Len_nil, Nat.zero_add]

def sourceByteAtPositionFrom (line column : ℕ) :
    (currentLine currentColumn byte : ℕ) → List Char → Option ℕ
  | currentLine, currentColumn, byte, [] =>
    if currentLine = line ∧ currentColumn = column then some byte else none
  | currentLine, currentColumn, byte, c :: cs =>
    if currentLine = line ∧ currentColumn = column then some byte
    else if c = '\n' ∨ c = '\r' ∧ cs.head? ≠ some '\n' then
      sourceByteAtPositionFrom line column (currentLine + 1) 1 (byte + c.utf8Size) cs
    else sourceByteAtPositionFrom line column currentLine (currentColumn + 1) (byte + c.utf8Size) cs

def sourceByteAtPosition (source : String) (line column : ℕ) : Option ℕ :=
  if line = 0 ∨ column = 0 then none
  else sourceByteAtPositionFrom line column 1 1 0 source.toList

/-- The requested line and its index, or the last ones. -/
def lineAt : ℕ → List (List Char) → ℕ × List Char
  | _, [] => (0, [])
  | 0, line :: _ => (0, line)
  | _ + 1, [line] => (0, line)
  | n + 1, _ :: line :: lines =>
    let found := lineAt n (line :: lines)
    (found.1 + 1, found.2)

def toU32 (value : ℕ) : ℕ := min value u32Max

def diagnosticPosition (source : String) (line column : ℕ) : Position :=
  let found := lineAt (line - 1) (source.toList.splitOn '\n')
  ⟨toU32 found.1,
    (found.2.take (column - 1)).foldl (fun offset c => saturatingAdd offset (lenUtf16 c)) 0⟩

/-- The part of a published diagnostic that depends on the source. -/
structure Diagnostic where
  range : Range
  message : String
  deriving DecidableEq

def syntaxDiagnostic (source : String) (diagnostic : SyntaxDiagnostic) : Diagnostic :=
  let position := diagnosticPosition source diagnostic.line diagnostic.column
  ⟨⟨position, position⟩, diagnostic.message⟩

/-- The byte that is found ends a part of the text in the line and the column. -/
theorem sourceByteAtPositionFrom_eq_some {line column : ℕ} (cs : List Char) :
    ∀ (current : List Char) {n byte found : ℕ},
    sourceByteAtPositionFrom line column (n + 1) (current.length + 1) byte cs = some found →
    ∃ a b, cs = a ++ b ∧ found = byte + utf8Len a ∧ line = (sourceLine b n current a).1 + 1 ∧
      column = (sourceLine b n current a).2.length + 1 := by
  induction cs with
  | nil =>
    intro current n byte found h
    rw [sourceByteAtPositionFrom] at h
    split_ifs at h with hhere
    cases h
    exact ⟨[], [], rfl, rfl, hhere.1.symm, hhere.2.symm⟩
  | cons c cs ih =>
    intro current n byte found h
    rw [sourceByteAtPositionFrom] at h
    by_cases hhere : n + 1 = line ∧ current.length + 1 = column
    · rw [if_pos hhere] at h
      cases h
      exact ⟨[], c :: cs, rfl, rfl, hhere.1.symm, hhere.2.symm⟩
    rw [if_neg hhere] at h
    by_cases hend : c = '\n' ∨ c = '\r' ∧ cs.head? ≠ some '\n'
    · rw [if_pos hend] at h
      obtain ⟨a, b, rfl, rfl, hline⟩ := ih [] h
      refine ⟨c :: a, b, rfl, ?_, ?_⟩
      · simp only [utf8Len_cons]
        omega
      · rwa [sourceLine, if_pos hend]
    · rw [if_neg hend, show current.length + 1 + 1 = (current ++ [c]).length + 1 by simp] at h
      obtain ⟨a, b, rfl, rfl, hline⟩ := ih (current ++ [c]) h
      refine ⟨c :: a, b, rfl, ?_, ?_⟩
      · simp only [utf8Len_cons]
        omega
      · rwa [sourceLine, if_neg hend]

theorem sourceByteAtPositionFrom_sourceLine (b a current : List Char) (n byte : ℕ) :
    sourceByteAtPositionFrom ((sourceLine b n current a).1 + 1)
      ((sourceLine b n current a).2.length + 1) (n + 1) (current.length + 1) byte (a ++ b) =
        some (byte + utf8Len a) := by
  induction a generalizing n current byte with
  | nil => cases b <;> simp [sourceByteAtPositionFrom, sourceLine]
  | cons c a ih =>
    have hlater := sourceLine_later b (c :: a) current n
    rw [length_cons] at hlater
    rw [cons_append, sourceByteAtPositionFrom, if_neg (by omega), sourceLine, utf8Len_cons,
      Nat.add_comm (utf8Len a), ← Nat.add_assoc]
    split_ifs
    · exact ih [] (n + 1) _
    · simpa using ih (current ++ [c]) n (byte + c.utf8Size)

theorem lineAt_of_getElem? {n : ℕ} {lines : List (List Char)} {line : List Char}
    (h : lines[n]? = some line) : lineAt n lines = (n, line) := by
  fun_induction lineAt n lines <;> simp_all +zetaDelta

theorem lineAt_le (n : ℕ) (lines : List (List Char)) : (lineAt n lines).1 ≤ n := by
  fun_induction lineAt n lines <;> simp_all +zetaDelta

theorem lineAt_lt {n : ℕ} {lines : List (List Char)} (hne : lines ≠ []) (h : lines[n]? = none) :
    (lineAt n lines).1 < n := by
  fun_induction lineAt n lines <;> simp_all +zetaDelta

theorem foldl_saturatingAdd (cs : List Char) : ∀ offset : ℕ, offset + utf16Len cs ≤ u32Max →
    cs.foldl (fun offset c => saturatingAdd offset (lenUtf16 c)) offset = offset + utf16Len cs := by
  induction cs with
  | nil => exact fun offset _ => rfl
  | cons c cs ih =>
    intro offset hmax
    rw [utf16Len_cons] at hmax
    rw [foldl_cons, saturatingAdd_eq (by omega), ih _ (by omega), utf16Len_cons]
    omega

/-- The line behind the `line - 1`-th line feed exists, and its first `column - 1` characters take
as many UTF-16 units as the `column - 1` characters before the byte. -/
def SameWidth (source : String) (line column b : ℕ) : Prop :=
  ∃ a c found, source.toList = a ++ c ∧ b = utf8Len a ∧
    (source.toList.splitOn '\n')[line - 1]? = some found ∧
    utf16Len (found.take (column - 1)) = utf16Len (a.rtake (column - 1))

/-- Before the byte, a carriage return has no line feed after it. -/
def BareReturnBefore (source : String) (b : ℕ) : Prop :=
  ∃ x y, source.toList = x ++ '\r' :: y ∧ y.head? ≠ some '\n' ∧ utf8Len x < b

section
variable {source : String} {line column b : ℕ}

/-- The two parts of the source at the byte, and where the line of the byte begins. -/
theorem exists_sourceLine (h : sourceByteAtPosition source line column = some b) :
    ∃ pre post, source.toList = pre ++ post ∧ b = utf8Len pre ∧
      line - 1 = (sourceLine post 0 [] pre).1 ∧ column - 1 = (sourceLine post 0 [] pre).2.length ∧
      (sourceLine post 0 [] pre).2 = pre.rtake (column - 1) := by
  unfold sourceByteAtPosition at h
  split_ifs at h
  obtain ⟨pre, post, hsource, rfl, rfl, rfl⟩ := sourceByteAtPositionFrom_eq_some _ [] h
  refine ⟨pre, post, hsource, Nat.zero_add _, rfl, rfl, ?_⟩
  exact suffix_iff_eq_drop.mp (sourceLine_suffix post pre [] 0)

theorem diagnosticPosition_of_line {found : List Char} (hline : line - 1 ≤ u32Max)
    (hfound : (source.toList.splitOn '\n')[line - 1]? = some found)
    (hbytes : utf8Len source.toList ≤ u32Max) :
    diagnosticPosition source line column = ⟨line - 1, utf16Len (found.take (column - 1))⟩ := by
  have hsub := (take_sublist (column - 1) found).trans
    (sublist_of_mem_splitOn _ found (mem_of_getElem? hfound))
  have hunits := (utf16Len_le_of_sublist hsub).trans (utf16Len_le_utf8Len source.toList)
  rw [diagnosticPosition, lineAt_of_getElem? hfound]
  dsimp only
  rw [foldl_saturatingAdd _ 0 (by omega), toU32, min_eq_left hline, Nat.zero_add]

theorem sameWidth_iff {pre post found : List Char} (hsource : source.toList = pre ++ post)
    (hfound : (source.toList.splitOn '\n')[line - 1]? = some found) :
    SameWidth source line column (utf8Len pre) ↔
      utf16Len (found.take (column - 1)) = utf16Len (pre.rtake (column - 1)) := by
  constructor
  · rintro ⟨a, c, other, hsplit, hlen, hother, heq⟩
    obtain ⟨rfl, rfl⟩ := append_inj_of_utf8Len (hsource.symm.trans hsplit) hlen
    rw [hfound] at hother
    cases hother
    exact heq
  · exact fun heq => ⟨pre, post, found, hsource, rfl, hfound, heq⟩

/-- A diagnostic is published at the position of its byte exactly where the two lines that are
looked at are as wide, outside of a line ending. -/
theorem positionAtByte_eq_diagnosticPosition_iff (hsize : source.utf8ByteSize < 2 ^ 32)
    (h : sourceByteAtPosition source line column = some b) :
    positionAtByte source b = some (diagnosticPosition source line column) ↔
      ¬BetweenCrLf source b ∧ SameWidth source line column b := by
  obtain ⟨pre, post, hsource, rfl, hline, hcolumn, hwidth⟩ := exists_sourceLine h
  have hbytes := utf8Len_le_u32Max hsource hsize
  obtain ⟨position, hposition, hinside, houtside⟩ := exists_positionAtByte hsource (by omega)
  rw [hposition, Option.some_inj]
  by_cases hbetween : BetweenCrLf source (utf8Len pre)
  · -- the walk is one line further than the line that is looked up
    refine iff_of_false (fun heq => ?_) fun hboth => hboth.1 hbetween
    have hle : (diagnosticPosition source line column).line ≤ line - 1 :=
      (min_le_left _ _).trans (lineAt_le _ _)
    have hnext := hinside hbetween
    rw [heq] at hnext
    omega
  · rw [houtside hbetween, hwidth, ← hline, and_iff_right hbetween]
    have hmany : line - 1 ≤ u32Max := by
      have := sourceLine_le post pre [] 0
      have := length_le_utf8Len pre
      omega
    cases hfound : (source.toList.splitOn '\n')[line - 1]? with
    | none =>
      have hlt := lineAt_lt (splitOn_ne_nil '\n' source.toList) hfound
      refine iff_of_false (fun heq => ?_) ?_
      · have hle : (diagnosticPosition source line column).line ≤ _ := min_le_left _ _
        rw [← heq] at hle
        exact absurd hlt (not_lt.mpr hle)
      · rintro ⟨_, _, _, _, _, hsome, _⟩
        rw [hfound] at hsome
        cases hsome
    | some found =>
      rw [sameWidth_iff hsource hfound, diagnosticPosition_of_line hmany hfound
        (by rw [hsource, utf8Len_append]; exact hbytes), Position.mk.injEq, eq_self_iff_true,
        true_and, eq_comm]

theorem sourceLine_of_no_bare (b a current : List Char) (n : ℕ)
    (h : ∀ x y, a = x ++ '\r' :: y → (y ++ b).head? = some '\n') :
    sourceLine b n current a = (n + a.count '\n', lastLineFrom current a) := by
  induction a generalizing n current with
  | nil => rfl
  | cons c a ih =>
    have hrest : ∀ x y, a = x ++ '\r' :: y → (y ++ b).head? = some '\n' := fun x y ha =>
      h (c :: x) y (by rw [ha, cons_append])
    rw [sourceLine, lastLineFrom]
    by_cases hc : c = '\n'
    · subst hc
      rw [if_pos (.inl rfl), if_pos rfl, ih _ _ hrest, count_cons_self]
      congr 1
      omega
    · have hnot : ¬(c = '\n' ∨ c = '\r' ∧ (a ++ b).head? ≠ some '\n') := by
        rintro (hline | ⟨rfl, hbare⟩)
        · exact hc hline
        · exact hbare (h [] a rfl)
      rw [if_neg hnot, if_neg hc, ih _ _ hrest, count_cons_of_ne hc]

theorem sourceLine_of_not_bareReturnBefore {pre post : List Char}
    (hsource : source.toList = pre ++ post) (hbare : ¬BareReturnBefore source (utf8Len pre)) :
    sourceLine post 0 [] pre = (pre.count '\n', lastLineFrom [] pre) := by
  have hlines := sourceLine_of_no_bare post pre [] 0
  rw [Nat.zero_add] at hlines
  apply hlines
  rintro x y rfl
  by_contra hhead
  refine hbare ⟨x, y ++ post, by simpa using hsource, hhead, ?_⟩
  have : ('\r' : Char).utf8Size = 1 := rfl
  simp only [utf8Len_append, utf8Len_cons]
  omega

/-- Where no carriage return stands alone, both count the same lines. -/
theorem sameWidth_of_no_bare (h : sourceByteAtPosition source line column = some b)
    (hbare : ¬BareReturnBefore source b) : SameWidth source line column b := by
  obtain ⟨pre, post, hsource, rfl, hline, hcolumn, hwidth⟩ := exists_sourceLine h
  rw [sourceLine_of_not_bareReturnBefore hsource hbare] at hline hcolumn hwidth
  obtain ⟨more, hfound⟩ := splitOn_lastLineFrom pre post []
  refine ⟨pre, post, lastLineFrom [] pre ++ more, hsource, rfl, ?_, ?_⟩
  · rw [hline, hsource, ← hfound]
    cases (pre ++ post).splitOn '\n' <;> rfl
  · rw [← hwidth, hcolumn, take_left]

/-- A diagnostic of the lexer stands at a byte, which is found if the lines are those of the line
feeds up to there. -/
theorem exists_byte_of_mem_diagnostics {maxTokens : ℕ} {diagnostic : SyntaxDiagnostic}
    (h : diagnostic ∈ (tokenize source maxTokens).diagnostics) :
    ∃ b, (splitBytes source.toList b).isSome ∧ (¬BareReturnBefore source b →
      sourceByteAtPosition source diagnostic.line diagnostic.column = some b) := by
  obtain ⟨before, after, hsource, hline, hcolumn⟩ := isPlace_of_mem_diagnostics h
  refine ⟨utf8Len before, by rw [hsource, splitBytes_append]; rfl, fun hbare => ?_⟩
  have hfound := sourceByteAtPositionFrom_sourceLine after before [] 0 0
  rw [sourceLine_of_not_bareReturnBefore hsource hbare, ← hsource] at hfound
  rw [sourceByteAtPosition, if_neg (by omega), hline, hcolumn]
  exact hfound.trans (congrArg some (Nat.zero_add _))

end

/-- Positions and bytes of a text that `u32` can count. A diagnostic is published at the position of
its byte exactly if that byte does not lie inside a line ending and the line that is found by line
feeds alone is as wide up to the column; it is the same line if no carriage return before the byte
stands alone. Then a diagnostic of the lexer has a byte. -/
theorem editor_positions_iff {source : String} (hsize : source.utf8ByteSize < 2 ^ 32) :
    (∀ b position, positionAtByte source b = some position → ¬BetweenCrLf source b →
      byteAtPosition source position = some b) ∧
    (∀ (diagnostic : SyntaxDiagnostic) b,
      sourceByteAtPosition source diagnostic.line diagnostic.column = some b →
      ((∃ position, positionAtByte source b = some position ∧
          (syntaxDiagnostic source diagnostic).range = ⟨position, position⟩) ↔
        ¬BetweenCrLf source b ∧ SameWidth source diagnostic.line diagnostic.column b) ∧
      (¬BareReturnBefore source b → SameWidth source diagnostic.line diagnostic.column b)) ∧
    ∀ maxTokens, ∀ diagnostic ∈ (tokenize source maxTokens).diagnostics, ∃ b,
      (splitBytes source.toList b).isSome ∧ (¬BareReturnBefore source b →
        sourceByteAtPosition source diagnostic.line diagnostic.column = some b) := by
  refine ⟨?_, ?_, fun _ _ hreported => exists_byte_of_mem_diagnostics hreported⟩
  · intro b position h hbetween
    exact byteAtPosition_positionAtByte hsize h hbetween
  · intro diagnostic b h
    refine ⟨?_, sameWidth_of_no_bare h⟩
    rw [← positionAtByte_eq_diagnosticPosition_iff hsize h]
    constructor
    · rintro ⟨position, hposition, hrange⟩
      rw [hposition, (Range.mk.inj hrange).1]
    · exact fun hposition => ⟨_, hposition, rfl⟩

/-- A carriage return behind the byte of the diagnostic does not move it. -/
theorem editor_positions_of_emoji :
    let source := "😀\n 😀@\r"
    let diagnostic : SyntaxDiagnostic :=
      ⟨2, 3, "operator `@` is not part of the canonical Octoscript profile"⟩
    byteAtPosition source ⟨1, 3⟩ = some 10 ∧ diagnostic ∈ (tokenize source 9).diagnostics ∧
      ∃ position, positionAtByte source 10 = some position ∧
        (syntaxDiagnostic source diagnostic).range = ⟨position, position⟩ := by
  intro source diagnostic
  have hplain : ∀ x y, source.toList = x ++ '\r' :: y → x = source.toList.dropLast ∧ y = [] := by
    intro x y h
    have hends : source.toList = source.toList.dropLast ++ '\r' :: [] := by decide +kernel
    obtain ⟨hx, -, hy⟩ :=
      (append_cons_inj_of_notMem (by decide +kernel) (by simp)).mp (hends.symm.trans h)
    exact ⟨hx.symm, hy.symm⟩
  have hbetween (b : ℕ) : ¬BetweenCrLf source b := by
    rintro ⟨x, y, h, _⟩
    cases (hplain x _ h).2
  have hsize : source.utf8ByteSize < 2 ^ 32 := by decide +kernel
  obtain ⟨hinverse, hpublished, -⟩ := editor_positions_iff hsize
  obtain ⟨hiff, hwidth⟩ := hpublished diagnostic 10 (by decide +kernel)
  refine ⟨hinverse 10 ⟨1, 3⟩ (by decide +kernel) (hbetween 10), by decide +kernel, ?_⟩
  refine hiff.mpr ⟨hbetween 10, hwidth ?_⟩
  rintro ⟨x, y, h, _, hlt⟩
  rw [(hplain x y h).1] at hlt
  exact absurd hlt (by decide +kernel)

/-- A lone carriage return ends a line for the byte of a diagnostic, but not for the place where the
diagnostic is published. -/
theorem diagnostic_after_carriage_return_misplaced :
    let source := "a\r😀b\n @"
    let diagnostic : SyntaxDiagnostic :=
      ⟨2, 2, "operator `@` is not part of the canonical Octoscript profile"⟩
    diagnostic ∈ (tokenize source 9).diagnostics ∧
      sourceByteAtPosition source diagnostic.line diagnostic.column = some 6 ∧
      positionAtByte source 6 = some ⟨1, 2⟩ ∧
      (syntaxDiagnostic source diagnostic).range = ⟨⟨1, 1⟩, ⟨1, 1⟩⟩ := by
  decide +kernel

end Octoscript.Lsp
