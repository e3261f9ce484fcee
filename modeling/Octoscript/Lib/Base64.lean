import Octoscript.Lib.Bytes

namespace Base64
open Wire

/-- The character of a six-bit value. -/
def sextetChar (n : ℕ) : Char :=
  if n < 26 then Char.ofNat (65 + n)
  else if n < 52 then Char.ofNat (71 + n)
  else if n < 62 then Char.ofNat (n - 4)
  else if n = 62 then '+'
  else '/'

def sextetValue (c : Char) : Option ℕ :=
  if c.isUpper then some (c.toNat - 65)
  else if c.isLower then some (c.toNat - 71)
  else if c.isDigit then some (c.toNat + 4)
  else if c = '+' then some 62
  else if c = '/' then some 63
  else none

def encode : Bytes → List Char
  | a :: b :: c :: r =>
    sextetChar (a.toNat / 4) :: sextetChar (a.toNat % 4 * 16 + b.toNat / 16) ::
      sextetChar (b.toNat % 16 * 4 + c.toNat / 64) :: sextetChar (c.toNat % 64) :: encode r
  | [a, b] => [sextetChar (a.toNat / 4), sextetChar (a.toNat % 4 * 16 + b.toNat / 16),
      sextetChar (b.toNat % 16 * 4)]
  | [a] => [sextetChar (a.toNat / 4), sextetChar (a.toNat % 4 * 16)]
  | [] => []

def decode : List Char → Option Bytes
  | w :: x :: y :: z :: r => do
    let w ← sextetValue w
    let x ← sextetValue x
    let y ← sextetValue y
    let z ← sextetValue z
    let rest ← decode r
    return UInt8.ofNat (w * 4 + x / 16) :: UInt8.ofNat (x % 16 * 16 + y / 4) ::
      UInt8.ofNat (y % 4 * 64 + z) :: rest
  | [w, x, y] => do
    let w ← sextetValue w
    let x ← sextetValue x
    let y ← sextetValue y
    if y % 4 = 0 then
      some [UInt8.ofNat (w * 4 + x / 16), UInt8.ofNat (x % 16 * 16 + y / 4)]
    else none
  | [w, x] => do
    let w ← sextetValue w
    let x ← sextetValue x
    if x % 16 = 0 then some [UInt8.ofNat (w * 4 + x / 16)] else none
  | [_] => none
  | [] => some []

theorem sextetValue_sextetChar : ∀ n < 64, sextetValue (sextetChar n) = some n := by decide

/-- A byte put together again from its six-bit pieces. -/
theorem ofNat_of_eq {a : UInt8} {n : ℕ} (h : n = a.toNat) : UInt8.ofNat n = a := by
  rw [h, UInt8.ofNat_toNat]

theorem decode_encode (b : Bytes) : decode (encode b) = some b := by
  induction b using encode.induct with
  | case1 a b c r ih =>
    have ha : a.toNat < 256 := a.toNat_lt
    have hb : b.toNat < 256 := b.toNat_lt
    have hc : c.toNat < 256 := c.toNat_lt
    simp only [encode, decode, sextetValue_sextetChar _ (show a.toNat / 4 < 64 by omega),
      sextetValue_sextetChar _ (show a.toNat % 4 * 16 + b.toNat / 16 < 64 by omega),
      sextetValue_sextetChar _ (show b.toNat % 16 * 4 + c.toNat / 64 < 64 by omega),
      sextetValue_sextetChar _ (show c.toNat % 64 < 64 by omega), ih,
      Option.bind_eq_bind, Option.bind_some]
    rw [ofNat_of_eq (a := a) (by omega), ofNat_of_eq (a := b) (by omega),
      ofNat_of_eq (a := c) (by omega)]
    rfl
  | case2 a b =>
    have ha : a.toNat < 256 := a.toNat_lt
    have hb : b.toNat < 256 := b.toNat_lt
    simp only [encode, decode, sextetValue_sextetChar _ (show a.toNat / 4 < 64 by omega),
      sextetValue_sextetChar _ (show a.toNat % 4 * 16 + b.toNat / 16 < 64 by omega),
      sextetValue_sextetChar _ (show b.toNat % 16 * 4 < 64 by omega),
      Option.bind_eq_bind, Option.bind_some]
    rw [if_pos (by omega), ofNat_of_eq (a := a) (by omega), ofNat_of_eq (a := b) (by omega)]
  | case3 a =>
    have ha : a.toNat < 256 := a.toNat_lt
    simp only [encode, decode, sextetValue_sextetChar _ (show a.toNat / 4 < 64 by omega),
      sextetValue_sextetChar _ (show a.toNat % 4 * 16 < 64 by omega),
      Option.bind_eq_bind, Option.bind_some]
    rw [if_pos (by omega), ofNat_of_eq (a := a) (by omega)]
  | case4 => rfl

theorem encode_injective : Function.Injective encode := by
  intro a b h
  have hd := congrArg decode h
  rw [decode_encode, decode_encode] at hd
  exact Option.some.inj hd

theorem encode_length (b : Bytes) : (encode b).length = (4 * b.length + 2) / 3 := by
  induction b using encode.induct with
  | case1 a b c r ih =>
    simp only [encode, List.length_cons, ih]
    omega
  | case2 a b => simp [encode]
  | case3 a => simp [encode]
  | case4 => rfl

/-- A character that `encode` can write. -/
def isSextetChar (c : Char) : Bool := c.isAlphanum || c == '+' || c == '/'

theorem isSextetChar_sextetChar : ∀ n < 64, isSextetChar (sextetChar n) = true := by decide

theorem encode_all (b : Bytes) : (encode b).all isSextetChar = true := by
  induction b using encode.induct with
  | case1 a b c r ih =>
    have ha : a.toNat < 256 := a.toNat_lt
    have hb : b.toNat < 256 := b.toNat_lt
    have hc : c.toNat < 256 := c.toNat_lt
    simp only [encode, List.all_cons, ih, Bool.and_true,
      isSextetChar_sextetChar _ (show a.toNat / 4 < 64 by omega),
      isSextetChar_sextetChar _ (show a.toNat % 4 * 16 + b.toNat / 16 < 64 by omega),
      isSextetChar_sextetChar _ (show b.toNat % 16 * 4 + c.toNat / 64 < 64 by omega),
      isSextetChar_sextetChar _ (show c.toNat % 64 < 64 by omega)]
  | case2 a b =>
    have ha : a.toNat < 256 := a.toNat_lt
    have hb : b.toNat < 256 := b.toNat_lt
    simp only [encode, List.all_cons, List.all_nil, Bool.and_true,
      isSextetChar_sextetChar _ (show a.toNat / 4 < 64 by omega),
      isSextetChar_sextetChar _ (show a.toNat % 4 * 16 + b.toNat / 16 < 64 by omega),
      isSextetChar_sextetChar _ (show b.toNat % 16 * 4 < 64 by omega)]
  | case3 a =>
    have ha : a.toNat < 256 := a.toNat_lt
    simp only [encode, List.all_cons, List.all_nil, Bool.and_true,
      isSextetChar_sextetChar _ (show a.toNat / 4 < 64 by omega),
      isSextetChar_sextetChar _ (show a.toNat % 4 * 16 < 64 by omega)]
  | case4 => rfl

def urlSafe (c : Char) : Char := if c = '+' then '-' else if c = '/' then '_' else c

def ofUrlSafe (c : Char) : Char := if c = '-' then '+' else if c = '_' then '/' else c

def urlEncode (b : Bytes) : List Char := (encode b).map urlSafe

def urlDecode (l : List Char) : Option Bytes :=
  if '+' ∈ l ∨ '/' ∈ l then none else decode (l.map ofUrlSafe)

theorem ofUrlSafe_urlSafe {c : Char} (h : isSextetChar c = true) : ofUrlSafe (urlSafe c) = c := by
  by_cases hplus : c = '+'
  · subst hplus
    decide
  by_cases hslash : c = '/'
  · subst hslash
    decide
  have hminus : c ≠ '-' := by
    rintro rfl
    exact absurd h (by decide)
  have hunder : c ≠ '_' := by
    rintro rfl
    exact absurd h (by decide)
  rw [urlSafe, if_neg hplus, if_neg hslash, ofUrlSafe, if_neg hminus, if_neg hunder]

theorem urlSafe_ne (c : Char) : urlSafe c ≠ '+' ∧ urlSafe c ≠ '/' := by
  unfold urlSafe
  split_ifs with hplus hslash
  · decide
  · decide
  · exact ⟨hplus, hslash⟩

theorem urlDecode_urlEncode (b : Bytes) : urlDecode (urlEncode b) = some b := by
  have hclean : ¬('+' ∈ urlEncode b ∨ '/' ∈ urlEncode b) := by
    rintro (h | h) <;> obtain ⟨c, _, hc⟩ := List.mem_map.mp h
    · exact (urlSafe_ne c).1 hc
    · exact (urlSafe_ne c).2 hc
  have hback : (urlEncode b).map ofUrlSafe = encode b := by
    rw [urlEncode, List.map_map]
    refine (List.map_congr_left fun c hc => ?_).trans (List.map_id _)
    exact ofUrlSafe_urlSafe (List.all_eq_true.mp (encode_all b) c hc)
  rw [urlDecode, if_neg hclean, hback, decode_encode]

theorem urlEncode_length (b : Bytes) : (urlEncode b).length = (4 * b.length + 2) / 3 := by
  rw [urlEncode, List.length_map, encode_length]

end Base64
