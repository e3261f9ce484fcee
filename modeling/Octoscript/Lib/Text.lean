import Mathlib

namespace Text
open String (utf8Len)

/-- The two parts of a text at a byte offset, if a character begins or the text ends there. -/
def splitBytes : List Char → ℕ → Option (List Char × List Char)
  | cs, 0 => some ([], cs)
  | [], _ + 1 => none
  | c :: cs, n + 1 =>
    if c.utf8Size ≤ n + 1 then
      (splitBytes cs (n + 1 - c.utf8Size)).map fun parts => (c :: parts.1, parts.2)
    else none

theorem splitBytes_append (a b : List Char) : splitBytes (a ++ b) (utf8Len a) = some (a, b) := by
  induction a with
  | nil =>
    cases b <;> rfl
  | cons c a ih =>
    obtain ⟨n, hn⟩ : ∃ n, utf8Len (c :: a) = n + 1 := by
      refine ⟨utf8Len a + c.utf8Size - 1, ?_⟩
      have := c.utf8Size_pos
      simp only [String.utf8Len_cons]
      omega
    have hrest : n + 1 - c.utf8Size = utf8Len a := by
      rw [← hn, String.utf8Len_cons]
      omega
    have hle : c.utf8Size ≤ n + 1 := by
      rw [← hn, String.utf8Len_cons]
      omega
    rw [hn, List.cons_append, splitBytes, if_pos hle, hrest, ih]
    rfl

theorem append_inj_of_utf8Len {a b c d : List Char} (h : a ++ b = c ++ d)
    (hlen : utf8Len a = utf8Len c) : a = c ∧ b = d := by
  have hparts := splitBytes_append a b
  rw [h, hlen, splitBytes_append] at hparts
  simpa [eq_comm] using hparts

theorem splitBytes_eq_some {cs a b : List Char} {n : ℕ} (h : splitBytes cs n = some (a, b)) :
    cs = a ++ b ∧ utf8Len a = n := by
  induction cs generalizing n a with
  | nil =>
    cases n with
    | zero =>
      cases h
      exact ⟨rfl, rfl⟩
    | succ n => cases h
  | cons c cs ih =>
    cases n with
    | zero =>
      cases h
      exact ⟨rfl, rfl⟩
    | succ n =>
      rw [splitBytes] at h
      split_ifs at h with hle
      obtain ⟨parts, hparts, heq⟩ := Option.map_eq_some_iff.mp h
      cases heq
      obtain ⟨rfl, hlen⟩ := ih hparts
      refine ⟨rfl, ?_⟩
      rw [String.utf8Len_cons, hlen]
      omega

/-- The code units that UTF-16 takes for a character. -/
def lenUtf16 (c : Char) : ℕ := if c.toNat < 0x10000 then 1 else 2

def utf16Len (cs : List Char) : ℕ := (cs.map lenUtf16).sum

@[simp] theorem utf16Len_nil : utf16Len [] = 0 := rfl

@[simp] theorem utf16Len_cons (c : Char) (cs : List Char) :
    utf16Len (c :: cs) = lenUtf16 c + utf16Len cs := by
  simp [utf16Len]

@[simp] theorem utf16Len_append (a b : List Char) :
    utf16Len (a ++ b) = utf16Len a + utf16Len b := by
  simp [utf16Len]

theorem lenUtf16_pos (c : Char) : 0 < lenUtf16 c := by
  unfold lenUtf16
  split_ifs <;> omega

theorem lenUtf16_le_utf8Size (c : Char) : lenUtf16 c ≤ c.utf8Size := by
  unfold lenUtf16
  have hpos := c.utf8Size_pos
  split_ifs with h
  · omega
  · by_contra hlt
    have hone : c.utf8Size = 1 := by omega
    have hascii := UInt32.le_iff_toNat_le.mp (Char.utf8Size_eq_one_iff.mp hone)
    change c.toNat ≤ 127 at hascii
    omega

theorem utf16Len_le_utf8Len (cs : List Char) : utf16Len cs ≤ utf8Len cs := by
  induction cs with
  | nil => exact le_rfl
  | cons c cs ih =>
    have := lenUtf16_le_utf8Size c
    rw [utf16Len_cons, String.utf8Len_cons]
    omega

theorem utf16Len_le_of_sublist {a b : List Char} (h : a.Sublist b) : utf16Len a ≤ utf16Len b :=
  (h.map lenUtf16).sum_le_sum fun _ _ => Nat.zero_le _

theorem length_le_utf8Len (cs : List Char) : cs.length ≤ utf8Len cs := by
  induction cs with
  | nil => exact le_rfl
  | cons c cs ih =>
    have := c.utf8Size_pos
    rw [List.length_cons, String.utf8Len_cons]
    omega

/-- The characters after the last line feed, on a line that has begun with `current`. -/
def lastLineFrom : List Char → List Char → List Char
  | current, [] => current
  | current, c :: cs => if c = '\n' then lastLineFrom [] cs else lastLineFrom (current ++ [c]) cs

/-- The line that a part of a text ends in begins with the characters after its last line feed. -/
theorem splitOn_lastLineFrom (a b : List Char) : ∀ current : List Char, ∃ more,
    (((a ++ b).splitOn '\n').modifyHead (current ++ ·))[a.count '\n']? =
      some (lastLineFrom current a ++ more) := by
  induction a with
  | nil =>
    intro current
    obtain ⟨line, lines, hlines⟩ := List.exists_cons_of_ne_nil (List.splitOn_ne_nil '\n' b)
    exact ⟨line, by rw [List.nil_append, hlines]; rfl⟩
  | cons c a ih =>
    intro current
    rw [List.cons_append, List.splitOn_cons_eq_if_modifyHead]
    by_cases hc : c = '\n'
    · subst hc
      obtain ⟨more, hmore⟩ := ih []
      refine ⟨more, ?_⟩
      rw [if_pos (by rfl), List.modifyHead_cons, List.count_cons_self, List.getElem?_cons_succ,
        lastLineFrom, if_pos rfl, ← hmore]
      cases (a ++ b).splitOn '\n' <;> rfl
    · obtain ⟨more, hmore⟩ := ih (current ++ [c])
      refine ⟨more, ?_⟩
      rw [if_neg (by simpa using hc), List.count_cons_of_ne hc, lastLineFrom, if_neg hc, ← hmore,
        List.modifyHead_modifyHead]
      congr 2
      funext line
      simp

theorem sublist_of_mem_splitOn (cs : List Char) : ∀ line ∈ cs.splitOn '\n', line.Sublist cs := by
  induction cs with
  | nil => simp
  | cons c cs ih =>
    intro line hline
    rw [List.splitOn_cons_eq_if_modifyHead] at hline
    split_ifs at hline
    · rcases List.mem_cons.mp hline with rfl | hline
      · exact List.nil_sublist _
      · exact (ih line hline).cons c
    · obtain ⟨first, lines, hlines⟩ := List.exists_cons_of_ne_nil (List.splitOn_ne_nil '\n' cs)
      rw [hlines, List.modifyHead_cons] at hline
      rw [hlines] at ih
      rcases List.mem_cons.mp hline with rfl | hline
      · exact (ih first List.mem_cons_self).cons_cons c
      · exact (ih line (List.mem_cons_of_mem _ hline)).cons c

end Text
