import Octoscript.Lib.Bytes

namespace Json

open List String

/-- A character of a JSON number. -/
def isNumberChar (c : Char) : Bool :=
  c.isDigit || c == '-' || c == '+' || c == '.' || c == 'e' || c == 'E'

/-- A number, held as the text it was written with. -/
structure Number where
  text : String
  nonempty : text.toList ≠ []
  chars : ∀ c ∈ text.toList, isNumberChar c = true
  deriving DecidableEq

theorem isNumberChar_of_isDigit {c : Char} (h : c.isDigit = true) : isNumberChar c = true := by
  simp [isNumberChar, h]

/-- The decimal text of an unsigned integer. -/
def Number.ofNat (n : ℕ) : Number where
  text := ofList (Nat.toDigits 10 n)
  nonempty := by simp
  chars := by
    intro c hc
    rw [toList_ofList] at hc
    exact isNumberChar_of_isDigit (Nat.isDigit_of_mem_toDigits (by decide) (by decide) hc)

theorem Number.ofNat_injective : Function.Injective Number.ofNat := by
  intro a b h
  have ht : Nat.toDigits 10 a = Nat.toDigits 10 b := ofList_injective (congrArg Number.text h)
  have hd := congrArg (Nat.ofDigitChars 10 · 0) ht
  simpa using hd

inductive Value
  | null
  | bool (b : Bool)
  | number (n : Number)
  | string (s : String)
  | array (items : List Value)
  | object (fields : List (String × Value))

namespace Value

mutual

/-- Structural equality, member by member. -/
def decEq : (v w : Value) → Decidable (v = w)
  | .null, w => match w with
    | .null => isTrue rfl
    | .bool _ | .number _ | .string _ | .array _ | .object _ => isFalse Value.noConfusion
  | .bool a, w => match w with
    | .bool b => decidable_of_iff (a = b) (by simp)
    | .null | .number _ | .string _ | .array _ | .object _ => isFalse Value.noConfusion
  | .number a, w => match w with
    | .number b => decidable_of_iff (a = b) (by simp)
    | .null | .bool _ | .string _ | .array _ | .object _ => isFalse Value.noConfusion
  | .string a, w => match w with
    | .string b => decidable_of_iff (a = b) (by simp)
    | .null | .bool _ | .number _ | .array _ | .object _ => isFalse Value.noConfusion
  | .array a, w => match w with
    | .array b => @decidable_of_iff _ (a = b) (by simp) (decEqItems a b)
    | .null | .bool _ | .number _ | .string _ | .object _ => isFalse Value.noConfusion
  | .object a, w => match w with
    | .object b => @decidable_of_iff _ (a = b) (by simp) (decEqFields a b)
    | .null | .bool _ | .number _ | .string _ | .array _ => isFalse Value.noConfusion

def decEqItems : (v w : List Value) → Decidable (v = w)
  | [], [] => isTrue rfl
  | [], _ :: _ => isFalse (by simp)
  | _ :: _, [] => isFalse (by simp)
  | v :: vs, w :: ws =>
    @decidable_of_iff _ (v = w ∧ vs = ws) (by simp)
      (@instDecidableAnd _ _ (decEq v w) (decEqItems vs ws))

def decEqFields : (v w : List (String × Value)) → Decidable (v = w)
  | [], [] => isTrue rfl
  | [], _ :: _ => isFalse (by simp)
  | _ :: _, [] => isFalse (by simp)
  | (k, v) :: vs, (l, w) :: ws =>
    @decidable_of_iff _ (k = l ∧ v = w ∧ vs = ws) (by simp [and_assoc])
      (@instDecidableAnd _ _ _ (@instDecidableAnd _ _ (decEq v w) (decEqFields vs ws)))

end

instance : DecidableEq Value := decEq

end Value

/-- An unsigned integer. -/
def Value.nat (n : ℕ) : Value := .number (.ofNat n)

@[simp] theorem Value.nat_inj {n m : ℕ} : Value.nat n = Value.nat m ↔ n = m := by
  simp [Value.nat, Number.ofNat_injective.eq_iff]

mutual

/-- How deep arrays and objects are nested. -/
def Value.depth : Value → ℕ
  | .null | .bool _ | .number _ | .string _ => 0
  | .array items => itemsDepth items + 1
  | .object fields => fieldsDepth fields + 1

def itemsDepth : List Value → ℕ
  | [] => 0
  | v :: vs => max v.depth (itemsDepth vs)

def fieldsDepth : List (String × Value) → ℕ
  | [] => 0
  | (_, v) :: fs => max v.depth (fieldsDepth fs)

end

/-- One character of a string body. -/
def escapeChar (c : Char) : List Char :=
  if c = '"' then ['\\', '"']
  else if c = '\\' then ['\\', '\\']
  else if c.toNat = 8 then ['\\', 'b']
  else if c.toNat = 9 then ['\\', 't']
  else if c.toNat = 10 then ['\\', 'n']
  else if c.toNat = 12 then ['\\', 'f']
  else if c.toNat = 13 then ['\\', 'r']
  else if c.toNat < 32 then
    ['\\', 'u', '0', '0', Wire.hexDigit (c.toNat / 16), Wire.hexDigit (c.toNat % 16)]
  else [c]

def escape (s : List Char) : List Char := s.flatMap escapeChar

def stringChars (s : String) : List Char := '"' :: (escape s.toList ++ ['"'])

mutual

/-- The characters of the compact text. -/
def chars : Value → List Char
  | .null => ['n', 'u', 'l', 'l']
  | .bool true => ['t', 'r', 'u', 'e']
  | .bool false => ['f', 'a', 'l', 's', 'e']
  | .number n => n.text.toList
  | .string s => stringChars s
  | .array [] => ['[', ']']
  | .array (v :: vs) => '[' :: (chars v ++ itemsChars vs)
  | .object [] => ['{', '}']
  | .object ((k, v) :: fs) => '{' :: (stringChars k ++ ':' :: (chars v ++ fieldsChars fs))

/-- The items after the first, and the closing bracket. -/
def itemsChars : List Value → List Char
  | [] => [']']
  | v :: vs => ',' :: (chars v ++ itemsChars vs)

/-- The members after the first, and the closing brace. -/
def fieldsChars : List (String × Value) → List Char
  | [] => ['}']
  | (k, v) :: fs => ',' :: (stringChars k ++ ':' :: (chars v ++ fieldsChars fs))

end

theorem chars_string (s : String) : chars (.string s) = stringChars s := by rw [chars]

/-- `serde_json::to_string`. -/
def text (v : Value) : String := ofList (chars v)

/-- `serde_json::to_vec`. -/
def encode (v : Value) : Wire.Bytes := Wire.utf8 (text v)

/-- Reads one character of a string body. -/
def readChar : List Char → Option (Char × List Char)
  | '\\' :: '"' :: r => some ('"', r)
  | '\\' :: '\\' :: r => some ('\\', r)
  | '\\' :: 'b' :: r => some (Char.ofNat 8, r)
  | '\\' :: 't' :: r => some (Char.ofNat 9, r)
  | '\\' :: 'n' :: r => some (Char.ofNat 10, r)
  | '\\' :: 'f' :: r => some (Char.ofNat 12, r)
  | '\\' :: 'r' :: r => some (Char.ofNat 13, r)
  | '\\' :: 'u' :: '0' :: '0' :: hi :: lo :: r => do
    let high ← Wire.hexNibble hi
    let low ← Wire.hexNibble lo
    return (Char.ofNat (high * 16 + low), r)
  | c :: r => some (c, r)
  | [] => none

theorem ofNat_of_toNat {c : Char} {n : ℕ} (h : c.toNat = n) : Char.ofNat n = c := by
  rw [← h, Char.ofNat_toNat]

theorem readChar_escapeChar (c : Char) (r : List Char) :
    readChar (escapeChar c ++ r) = some (c, r) := by
  unfold escapeChar
  split_ifs with hq hb h8 h9 h10 h12 h13 hlow
  · simp [readChar, hq]
  · simp [readChar, hb]
  · simpa [readChar] using ofNat_of_toNat h8
  · simpa [readChar] using ofNat_of_toNat h9
  · simpa [readChar] using ofNat_of_toNat h10
  · simpa [readChar] using ofNat_of_toNat h12
  · simpa [readChar] using ofNat_of_toNat h13
  · have hd : c.toNat / 16 < 16 := by omega
    have hm : c.toNat % 16 < 16 := by omega
    have hv : c.toNat / 16 * 16 + c.toNat % 16 = c.toNat := by omega
    simp [readChar, Wire.hexNibble_hexDigit _ hd, Wire.hexNibble_hexDigit _ hm, hv]
  · simp [readChar, hb]

theorem escapeChar_append_inj {c d : Char} {r r' : List Char}
    (h : escapeChar c ++ r = escapeChar d ++ r') : c = d ∧ r = r' := by
  have hr := congrArg readChar h
  rw [readChar_escapeChar, readChar_escapeChar] at hr
  simpa using hr

/-- A string body never starts with its closing quote. -/
theorem escapeChar_ne_quote (c : Char) (r r' : List Char) : escapeChar c ++ r ≠ '"' :: r' := by
  unfold escapeChar
  split_ifs with hq <;> simp [hq]

theorem escape_append_inj {s t r r' : List Char}
    (h : escape s ++ '"' :: r = escape t ++ '"' :: r') : s = t ∧ r = r' := by
  induction s generalizing t with
  | nil =>
    cases t with
    | nil => simpa [escape] using h
    | cons d t =>
      simp only [escape, List.flatMap_nil, List.nil_append, List.flatMap_cons,
        List.append_assoc] at h
      exact absurd h.symm (escapeChar_ne_quote d _ _)
  | cons c s ih =>
    cases t with
    | nil =>
      simp only [escape, List.flatMap_nil, List.nil_append, List.flatMap_cons,
        List.append_assoc] at h
      exact absurd h (escapeChar_ne_quote c _ _)
    | cons d t =>
      simp only [escape, List.flatMap_cons, List.append_assoc] at h
      obtain ⟨hc, hr⟩ := escapeChar_append_inj h
      obtain ⟨ht, hr⟩ := ih hr
      exact ⟨by rw [hc, ht], hr⟩

theorem stringChars_append_inj {s t : String} {r r' : List Char}
    (h : stringChars s ++ r = stringChars t ++ r') : s = t ∧ r = r' := by
  simp only [stringChars, List.cons_append, List.append_assoc, List.nil_append, List.cons.injEq,
    true_and] at h
  obtain ⟨hs, hr⟩ := escape_append_inj h
  exact ⟨String.toList_injective hs, hr⟩

/-- What may follow a value: nothing that would continue a number. -/
def Delimited (r : List Char) : Prop := ∀ c ∈ r.head?, isNumberChar c = false

theorem takeWhile_number (n : Number) {r : List Char} (h : Delimited r) :
    (n.text.toList ++ r).takeWhile isNumberChar = n.text.toList := by
  rw [List.takeWhile_append_of_pos n.chars]
  cases r with
  | nil => simp
  | cons c r =>
    have hc : isNumberChar c = false := h c (by simp)
    simp [hc]

theorem number_append_inj {n m : Number} {r r' : List Char} (hr : Delimited r)
    (hr' : Delimited r') (h : n.text.toList ++ r = m.text.toList ++ r') : n = m ∧ r = r' := by
  have ht : n.text.toList = m.text.toList := by
    rw [← takeWhile_number n hr, ← takeWhile_number m hr', h]
  have hn : n.text = m.text := String.toList_injective ht
  refine ⟨?_, ?_⟩
  · cases n
    cases m
    simpa using hn
  · rw [ht] at h
    exact List.append_cancel_left h

theorem itemsChars_delimited (vs : List Value) (r : List Char) :
    Delimited (itemsChars vs ++ r) := by
  cases vs <;> simp [itemsChars, Delimited, isNumberChar]

theorem fieldsChars_delimited (fs : List (String × Value)) (r : List Char) :
    Delimited (fieldsChars fs ++ r) := by
  cases fs <;> simp [fieldsChars, Delimited, isNumberChar]

/-- The kinds of value that a reader tells apart by one character. -/
inductive Kind
  | null | true | false | number | string | array | object
  deriving DecidableEq

def kind : Value → Kind
  | .null => .null
  | .bool true => .true
  | .bool false => .false
  | .number _ => .number
  | .string _ => .string
  | .array _ => .array
  | .object _ => .object

/-- The kind of value that starts with a character. -/
def kindOfLeader (c : Char) : Kind :=
  if c = 'n' then .null else if c = 't' then .true else if c = 'f' then .false
  else if c = '"' then .string else if c = '[' then .array else if c = '{' then .object
  else .number

theorem kindOfLeader_number {c : Char} (h : isNumberChar c = true) : kindOfLeader c = .number := by
  unfold kindOfLeader
  split_ifs with h1 h2 h3 h4 h5 h6
  all_goals first
    | rfl
    | (subst_vars; exact absurd h (by decide))

theorem chars_leader (v : Value) : ∃ c r, chars v = c :: r ∧ kindOfLeader c = kind v := by
  match v with
  | .null => exact ⟨_, _, rfl, rfl⟩
  | .bool true => exact ⟨_, _, rfl, rfl⟩
  | .bool false => exact ⟨_, _, rfl, rfl⟩
  | .number n =>
    obtain ⟨c, r, h⟩ := exists_cons_of_ne_nil n.nonempty
    exact ⟨c, r, h, kindOfLeader_number (n.chars c (by simp [h]))⟩
  | .string s => exact ⟨_, _, rfl, rfl⟩
  | .array [] => exact ⟨_, _, rfl, rfl⟩
  | .array (v :: vs) => exact ⟨_, _, rfl, rfl⟩
  | .object [] => exact ⟨_, _, rfl, rfl⟩
  | .object ((k, v) :: fs) => exact ⟨_, _, rfl, rfl⟩

theorem kind_of_append_eq {v w : Value} {r r' : List Char} (h : chars v ++ r = chars w ++ r') :
    kind v = kind w := by
  obtain ⟨c, t, hv, hkv⟩ := chars_leader v
  obtain ⟨d, u, hw, hkw⟩ := chars_leader w
  rw [hv, hw, cons_append, cons_append, cons.injEq] at h
  rw [← hkv, ← hkw, h.1]

/-- No value's text starts like the end of an array. -/
theorem chars_ne_bracket (v : Value) (r r' : List Char) : chars v ++ r ≠ ']' :: r' := by
  intro h
  obtain ⟨c, t, hv, hk⟩ := chars_leader v
  rw [hv, cons_append, cons.injEq] at h
  rw [h.1] at hk
  have hn : kind v = .number := hk.symm.trans (by decide)
  match v, hn with
  | .number n, _ =>
    have hc := n.chars c (by rw [chars] at hv; simp [hv])
    rw [h.1] at hc
    exact absurd hc (by decide)

theorem stringChars_ne_brace (s : String) (r r' : List Char) : stringChars s ++ r ≠ '}' :: r' := by
  simp [stringChars]

mutual

/-- A value's text followed by anything that does not continue a number is read
back in one way. The induction is on the first value. -/
theorem chars_append_inj : ∀ (v w : Value) {r r' : List Char}, Delimited r → Delimited r' →
    chars v ++ r = chars w ++ r' → v = w ∧ r = r'
  | .null, w, r, r', _, _, h => by
    have hk := kind_of_append_eq h
    match w, hk with
    | .null, _ => simpa [chars] using h
  | .bool true, w, r, r', _, _, h => by
    have hk := kind_of_append_eq h
    match w, hk with
    | .bool true, _ => simpa [chars] using h
  | .bool false, w, r, r', _, _, h => by
    have hk := kind_of_append_eq h
    match w, hk with
    | .bool false, _ => simpa [chars] using h
  | .number n, w, r, r', hr, hr', h => by
    have hk := kind_of_append_eq h
    match w, hk with
    | .number m, _ => simpa using number_append_inj hr hr' (by simpa [chars] using h)
  | .string s, w, r, r', _, _, h => by
    have hk := kind_of_append_eq h
    match w, hk with
    | .string t, _ => simpa using stringChars_append_inj (by simpa [chars] using h)
  | .array [], w, r, r', _, _, h => by
    have hk := kind_of_append_eq h
    match w, hk with
    | .array [], _ => simpa [chars] using h
    | .array (w :: ws), _ =>
      simp only [chars, List.cons_append, List.cons.injEq, true_and, List.append_assoc,
        nil_append] at h
      exact absurd h.symm (chars_ne_bracket w _ _)
  | .array (v :: vs), w, r, r', _, _, h => by
    have hk := kind_of_append_eq h
    match w, hk with
    | .array [], _ =>
      simp only [chars, List.cons_append, List.cons.injEq, true_and, List.append_assoc,
        nil_append] at h
      exact absurd h (chars_ne_bracket v _ _)
    | .array (w :: ws), _ =>
      simp only [chars, List.cons_append, List.cons.injEq, true_and, List.append_assoc] at h
      obtain ⟨hv, hrest⟩ := chars_append_inj v w (itemsChars_delimited vs r)
        (itemsChars_delimited ws r') h
      obtain ⟨hvs, hr⟩ := itemsChars_append_inj vs ws hrest
      exact ⟨by rw [hv, hvs], hr⟩
  | .object [], w, r, r', _, _, h => by
    have hk := kind_of_append_eq h
    match w, hk with
    | .object [], _ => simpa [chars] using h
    | .object ((l, w) :: gs), _ =>
      simp only [chars, List.cons_append, List.cons.injEq, true_and, List.append_assoc,
        nil_append] at h
      exact absurd h.symm (stringChars_ne_brace l _ _)
  | .object ((k, v) :: fs), w, r, r', _, _, h => by
    have hk := kind_of_append_eq h
    match w, hk with
    | .object [], _ =>
      simp only [chars, List.cons_append, List.cons.injEq, true_and, List.append_assoc,
        nil_append] at h
      exact absurd h (stringChars_ne_brace k _ _)
    | .object ((l, w) :: gs), _ =>
      simp only [chars, List.cons_append, List.cons.injEq, true_and, List.append_assoc] at h
      obtain ⟨hkey, h⟩ := stringChars_append_inj h
      obtain ⟨hv, hrest⟩ := chars_append_inj v w (fieldsChars_delimited fs r)
        (fieldsChars_delimited gs r') (cons.inj h).2
      obtain ⟨hfs, hr⟩ := fieldsChars_append_inj fs gs hrest
      exact ⟨by rw [hkey, hv, hfs], hr⟩

theorem itemsChars_append_inj : ∀ (vs ws : List Value) {r r' : List Char},
    itemsChars vs ++ r = itemsChars ws ++ r' → vs = ws ∧ r = r'
  | [], [], r, r', h => by simpa [itemsChars] using h
  | [], w :: ws, r, r', h => by simp [itemsChars] at h
  | v :: vs, [], r, r', h => by simp [itemsChars] at h
  | v :: vs, w :: ws, r, r', h => by
    simp only [itemsChars, List.cons_append, List.cons.injEq, true_and, List.append_assoc] at h
    obtain ⟨hv, hrest⟩ := chars_append_inj v w (itemsChars_delimited vs r)
      (itemsChars_delimited ws r') h
    obtain ⟨hvs, hr⟩ := itemsChars_append_inj vs ws hrest
    exact ⟨by rw [hv, hvs], hr⟩

theorem fieldsChars_append_inj : ∀ (fs gs : List (String × Value)) {r r' : List Char},
    fieldsChars fs ++ r = fieldsChars gs ++ r' → fs = gs ∧ r = r'
  | [], [], r, r', h => by simpa [fieldsChars] using h
  | [], (l, w) :: gs, r, r', h => by simp [fieldsChars] at h
  | (k, v) :: fs, [], r, r', h => by simp [fieldsChars] at h
  | (k, v) :: fs, (l, w) :: gs, r, r', h => by
    simp only [fieldsChars, List.cons_append, List.cons.injEq, true_and, List.append_assoc] at h
    obtain ⟨hkey, h⟩ := stringChars_append_inj h
    obtain ⟨hv, hrest⟩ := chars_append_inj v w (fieldsChars_delimited fs r)
      (fieldsChars_delimited gs r') (cons.inj h).2
    obtain ⟨hfs, hr⟩ := fieldsChars_append_inj fs gs hrest
    exact ⟨by rw [hkey, hv, hfs], hr⟩

end

theorem text_injective : Function.Injective text := by
  intro v w h
  have hc : chars v ++ [] = chars w ++ [] := by
    simpa using ofList_injective h
  exact (chars_append_inj v w (by simp [Delimited]) (by simp [Delimited]) hc).1

theorem encode_injective : Function.Injective encode :=
  Wire.utf8_injective.comp text_injective

theorem fieldsChars_closed (fs : List (String × Value)) : ∃ l, fieldsChars fs = l ++ ['}'] := by
  induction fs with
  | nil => exact ⟨[], rfl⟩
  | cons f fs ih =>
    obtain ⟨k, v⟩ := f
    obtain ⟨l, hl⟩ := ih
    refine ⟨',' :: (stringChars k ++ ':' :: (chars v ++ l)), ?_⟩
    rw [fieldsChars, hl]
    simp

/-- The text of an object ends with its brace. -/
theorem encode_object_closed (fs : List (String × Value)) :
    ∃ b, encode (.object fs) = b ++ Wire.utf8 "\x7d" := by
  obtain ⟨l, hl⟩ : ∃ l, chars (.object fs) = l ++ ['}'] := by
    cases fs with
    | nil => exact ⟨['{'], rfl⟩
    | cons f fs =>
      obtain ⟨k, v⟩ := f
      obtain ⟨l, hl⟩ := fieldsChars_closed fs
      refine ⟨'{' :: (stringChars k ++ ':' :: (chars v ++ l)), ?_⟩
      rw [chars, hl]
      simp
  refine ⟨Wire.utf8 (ofList l), ?_⟩
  rw [encode, text, hl, ofList_append, Wire.utf8_append]

theorem encode_length (v : Value) : (encode v).length = utf8Len (chars v) := by
  rw [encode, Wire.utf8_length, text, utf8ByteSize_ofList]

theorem utf8Len_nat {n e : ℕ} (he : 0 < e) (h : n < 10 ^ e) :
    utf8Len (chars (.nat n)) ≤ e := by
  have hascii : ∀ c ∈ Nat.toDigits 10 n, c.toNat < 128 := by
    intro c hc
    have hd := Wire.toNat_of_isDigit (Nat.isDigit_of_mem_toDigits (by decide) (by decide) hc)
    omega
  have hchars : chars (.nat n) = Nat.toDigits 10 n := toList_ofList
  rw [hchars, Wire.utf8Len_of_ascii hascii]
  exact Nat.toDigits_length 10 n e he h

/-- A character that a string body holds as it is. -/
def isPlain (c : Char) : Bool := 32 ≤ c.toNat && c != '"' && c != '\\'

theorem isPlain_of_toNat {c : Char} (hlow : 32 ≤ c.toNat) (hquote : c.toNat ≠ 34)
    (hslash : c.toNat ≠ 92) : isPlain c = true := by
  simp only [isPlain, Bool.and_eq_true, decide_eq_true_eq, bne_iff_ne]
  refine ⟨⟨hlow, ?_⟩, ?_⟩
  · rintro rfl
    exact hquote rfl
  · rintro rfl
    exact hslash rfl

theorem isPlain_of_isHexDigit {c : Char} (h : Wire.isHexDigit c = true) : isPlain c = true := by
  have hrange := Wire.toNat_of_isHexDigit h
  exact isPlain_of_toNat (by omega) (by omega) (by omega)

theorem escape_of_isPlain {l : List Char} (h : l.all isPlain = true) : escape l = l := by
  induction l with
  | nil => rfl
  | cons c l ih =>
    simp only [all_cons, isPlain, Bool.and_eq_true, decide_eq_true_eq, bne_iff_ne, ne_eq] at h
    obtain ⟨⟨⟨hlow, hquote⟩, hslash⟩, hl⟩ := h
    have hc : escapeChar c = [c] := by
      rw [escapeChar, if_neg hquote, if_neg hslash, if_neg (by omega), if_neg (by omega),
        if_neg (by omega), if_neg (by omega), if_neg (by omega), if_neg (by omega)]
    rw [escape, flatMap_cons, hc, singleton_append]
    exact congrArg (c :: ·) (ih (by simpa [isPlain] using hl))

/-- The size of a string of plain characters. -/
theorem utf8Len_stringChars {s : String} (h : s.toList.all isPlain = true) :
    utf8Len (stringChars s) = s.utf8ByteSize + 2 := by
  rw [stringChars, escape_of_isPlain h, utf8Len_cons, utf8Len_append,
    ← utf8ByteSize_ofList, ofList_toList]
  rfl

theorem utf8Len_fieldsChars (fs : List (String × Value)) : utf8Len (fieldsChars fs) =
    (fs.map fun f => utf8Len (stringChars f.1) + utf8Len (chars f.2) + 2).sum + 1 := by
  have hcolon : (':' : Char).utf8Size = 1 := by decide
  have hcomma : (',' : Char).utf8Size = 1 := by decide
  have hclose : ('}' : Char).utf8Size = 1 := by decide
  induction fs with
  | nil => simp [fieldsChars, hclose]
  | cons f fs ih =>
    obtain ⟨k, v⟩ := f
    simp only [fieldsChars, utf8Len_cons, utf8Len_append, ih, hcolon, hcomma,
      map_cons, sum_cons]
    omega

theorem utf8Len_itemsChars (vs : List Value) : utf8Len (itemsChars vs) =
    (vs.map fun v => utf8Len (chars v) + 1).sum + 1 := by
  have hcomma : (',' : Char).utf8Size = 1 := by decide
  have hclose : (']' : Char).utf8Size = 1 := by decide
  induction vs with
  | nil => simp [itemsChars, hclose]
  | cons v vs ih =>
    simp only [itemsChars, utf8Len_cons, utf8Len_append, ih, hcomma, map_cons,
      sum_cons]
    omega

/-- The size of an array with at least one item. -/
theorem utf8Len_array {vs : List Value} (h : vs ≠ []) : utf8Len (chars (.array vs)) =
    (vs.map fun v => utf8Len (chars v) + 1).sum + 1 := by
  have hopen : ('[' : Char).utf8Size = 1 := by decide
  cases vs with
  | nil => exact absurd rfl h
  | cons v vs =>
    simp only [chars, utf8Len_cons, utf8Len_append, utf8Len_itemsChars, hopen,
      map_cons, sum_cons]
    omega

theorem utf8Len_array_le (vs : List Value) : utf8Len (chars (.array vs)) ≤
    (vs.map fun v => utf8Len (chars v) + 1).sum + 2 := by
  cases vs with
  | nil => simp [chars]; decide
  | cons v vs =>
    rw [utf8Len_array (cons_ne_nil v vs)]
    omega

/-- The size of an object with at least one member. -/
theorem utf8Len_object {fs : List (String × Value)} (h : fs ≠ []) :
    utf8Len (chars (.object fs)) =
      (fs.map fun f => utf8Len (stringChars f.1) + utf8Len (chars f.2) + 2).sum +
        1 := by
  have hcolon : (':' : Char).utf8Size = 1 := by decide
  have hbrace : ('{' : Char).utf8Size = 1 := by decide
  cases fs with
  | nil => exact absurd rfl h
  | cons f fs =>
    obtain ⟨k, v⟩ := f
    simp only [chars, utf8Len_cons, utf8Len_append, utf8Len_fieldsChars, hcolon,
      hbrace, map_cons, sum_cons]
    omega

end Json
