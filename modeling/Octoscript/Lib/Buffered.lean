import Octoscript.Lib.Json

namespace Wire
variable {ε : Type} {bytes : Bytes}

def newline : UInt8 := 10

/-- The buffers that `fill_buf` will return, one after the other as they are used up. -/
abbrev BufReader (ε : Type) := List (Except ε Bytes)

namespace BufReader

def consume (n : ℕ) : BufReader ε → BufReader ε
  | .ok available :: rest => if n < available.length then .ok (available.drop n) :: rest else rest
  | reader => reader

/-- The reader will return these bytes, cut somehow into buffers. -/
inductive Carries : BufReader ε → Bytes → Prop
  | nil : Carries [] []
  | cons {buffer reader bytes} : buffer ≠ [] → Carries reader bytes →
      Carries (.ok buffer :: reader) (buffer ++ bytes)

theorem Carries.unique {reader : BufReader ε} {bytes' : Bytes} (h : reader.Carries bytes)
    (h' : reader.Carries bytes') : bytes = bytes' := by
  induction h generalizing bytes' with
  | nil =>
    cases h'
    rfl
  | cons _ _ ih =>
    cases h' with
    | cons _ h' => rw [ih h']

theorem Carries.consume {reader : BufReader ε} (h : reader.Carries bytes) (buffer tail : Bytes) :
    (BufReader.consume buffer.length (.ok (buffer ++ tail) :: reader)).Carries (tail ++ bytes) := by
  cases tail with
  | nil => simpa [BufReader.consume] using h
  | cons b tail => simpa [BufReader.consume] using h.cons (List.cons_ne_nil b tail)

end BufReader

theorem findIdx?_newline {l : Bytes} (h : newline ∉ l) : l.findIdx? (· = newline) = none := by
  simp only [List.findIdx?_eq_none_iff, decide_eq_false_iff_not]
  rintro b hb rfl
  exact h hb

/-- The first line of a text is where its first line feed is. -/
theorem append_newline_inj {a b c d : Bytes} (ha : newline ∉ a) (hc : newline ∉ c) :
    a ++ newline :: b = c ++ newline :: d ↔ a = c ∧ b = d := by
  constructor
  · intro h
    induction a generalizing c with
    | nil =>
      cases c with
      | nil => simpa using h
      | cons x c =>
        obtain ⟨rfl, _⟩ := List.cons.inj h
        simp at hc
    | cons x a ih =>
      cases c with
      | nil =>
        obtain ⟨rfl, _⟩ := List.cons.inj h
        simp at ha
      | cons y c =>
        obtain ⟨rfl, hrest⟩ := List.cons.inj h
        simp only [List.mem_cons, not_or] at ha hc
        simpa using ih ha.2 hc.2 hrest
  · rintro ⟨rfl, rfl⟩
    rfl

theorem eq_of_newline_mem_utf8EncodeChar {c : Char} (h : newline ∈ String.utf8EncodeChar c) :
    c = '\n' := by
  have hbyte : ∀ n < 256, newline = UInt8.ofNat n → n = 10 := by
    intro n hn heq
    have hval := congrArg UInt8.toNat heq
    rw [UInt8.toNat_ofNat_of_lt' hn] at hval
    exact hval.symm
  -- Every byte of a longer encoding is 128 or more.
  have hval : c.val.toNat = 10 := by
    simp only [String.utf8EncodeChar] at h
    split_ifs at h
    all_goals simp only [List.mem_cons, List.not_mem_nil, or_false] at h
    · exact hbyte _ (by omega) h
    · rcases h with h | h <;> have := hbyte _ (by omega) h <;> omega
    · rcases h with h | h | h <;> have := hbyte _ (by omega) h <;> omega
    · rcases h with h | h | h | h <;> have := hbyte _ (by omega) h <;> omega
  exact Char.ext (UInt32.toNat_inj.mp hval)

theorem newline_not_mem_utf8 {l : List Char} (h : '\n' ∉ l) : newline ∉ utf8 (String.ofList l) := by
  intro hmem
  simp only [utf8, String.toUTF8_eq_toByteArray, String.toByteArray_ofList, List.utf8Encode] at hmem
  obtain ⟨c, hc, hmem⟩ : ∃ c ∈ l, newline ∈ String.utf8EncodeChar c := by simpa using hmem
  exact h (eq_of_newline_mem_utf8EncodeChar hmem ▸ hc)

end Wire

namespace Json

theorem newline_not_mem_escapeChar (c : Char) : '\n' ∉ escapeChar c := by
  have hhex : ∀ n < 16, '\n' ≠ Wire.hexDigit n := by decide
  unfold escapeChar
  split_ifs with _ _ _ _ hnl _ _ hlow
  any_goals decide
  · simpa using ⟨hhex _ (by omega), hhex _ (by omega)⟩
  · rw [List.mem_singleton]
    rintro rfl
    exact hnl rfl

theorem newline_not_mem_stringChars (s : String) : '\n' ∉ stringChars s := by
  simp [stringChars, escape, newline_not_mem_escapeChar]

mutual

theorem newline_not_mem_chars : ∀ v : Value, '\n' ∉ chars v
  | .null => by simp [chars]
  | .bool true => by simp [chars]
  | .bool false => by simp [chars]
  | .number n => fun h => absurd (n.chars _ (by simpa [chars] using h)) (by decide)
  | .string s => by simpa [chars] using newline_not_mem_stringChars s
  | .array [] => by simp [chars]
  | .array (v :: vs) => by
    simp [chars, newline_not_mem_chars v, newline_not_mem_itemsChars vs]
  | .object [] => by simp [chars]
  | .object ((k, v) :: fs) => by
    simp [chars, newline_not_mem_stringChars k, newline_not_mem_chars v,
      newline_not_mem_fieldsChars fs]

theorem newline_not_mem_itemsChars : ∀ vs : List Value, '\n' ∉ itemsChars vs
  | [] => by simp [itemsChars]
  | v :: vs => by simp [itemsChars, newline_not_mem_chars v, newline_not_mem_itemsChars vs]

theorem newline_not_mem_fieldsChars : ∀ fs : List (String × Value), '\n' ∉ fieldsChars fs
  | [] => by simp [fieldsChars]
  | (k, v) :: fs => by
    simp [fieldsChars, newline_not_mem_stringChars k, newline_not_mem_chars v,
      newline_not_mem_fieldsChars fs]

end

theorem newline_not_mem_encode (v : Value) : Wire.newline ∉ encode v :=
  Wire.newline_not_mem_utf8 (newline_not_mem_chars v)

end Json
