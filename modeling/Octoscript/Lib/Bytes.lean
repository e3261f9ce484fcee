import Mathlib

namespace Wire

open Nat

abbrev Bytes := List UInt8

/-- The bytes of a string, as `as_bytes` gives them. -/
def utf8 (s : String) : Bytes := s.toUTF8.data.toList

theorem utf8_injective : Function.Injective utf8 := by
  intro a b h
  apply String.toByteArray_inj.mp
  exact ByteArray.ext (Array.toList_inj.mp h)

theorem utf8_length (s : String) : (utf8 s).length = s.utf8ByteSize := by
  simp [utf8]

theorem utf8_append (s t : String) : utf8 (s ++ t) = utf8 s ++ utf8 t := by
  simp [utf8]

/-- ASCII characters take one byte each. -/
theorem utf8Len_of_ascii {l : List Char} (h : ∀ c ∈ l, c.toNat < 128) :
    String.utf8Len l = l.length := by
  induction l with
  | nil => rfl
  | cons c l ih =>
    have hc : c.utf8Size = 1 := Char.utf8Size_eq_one_iff.mpr (by
      have := h c (by simp)
      exact UInt32.le_iff_toNat_le.mpr (by change c.toNat ≤ 127; omega))
    rw [String.utf8Len_cons, ih fun d hd => h d (by simp [hd]), hc, List.length_cons]

/-- `str::from_utf8`. -/
def fromUtf8 (b : Bytes) : Option String := String.fromUTF8? ⟨b.toArray⟩

theorem fromUtf8_utf8 (s : String) : fromUtf8 (utf8 s) = some s := by
  have hs : (⟨(utf8 s).toArray⟩ : ByteArray) = s.toByteArray := by
    apply ByteArray.ext
    simp [utf8]
  rw [fromUtf8, hs, String.fromUTF8?, dif_pos s.isValidUTF8]
  rfl

theorem utf8_of_fromUtf8 {b : Bytes} {s : String} (h : fromUtf8 b = some s) : utf8 s = b := by
  unfold fromUtf8 String.fromUTF8? at h
  split at h
  · rw [← Option.some.inj h]
    simp [utf8, String.fromUTF8]
  · simp at h

/-- The last `k` base-256 digits of `n`, most significant first. -/
def beDigits : ℕ → ℕ → Bytes
  | 0, _ => []
  | k + 1, n => UInt8.ofNat (n / 256 ^ k) :: beDigits k (n % 256 ^ k)

/-- The number a big-endian digit string stands for. -/
def ofBeDigits (b : Bytes) : ℕ := b.foldl (fun acc d => acc * 256 + d.toNat) 0

@[simp] theorem beDigits_length (k n : ℕ) : (beDigits k n).length = k := by
  induction k generalizing n with
  | zero => rfl
  | succ k ih => simp [beDigits, ih]

theorem foldl_beDigits (k n acc : ℕ) (h : n < 256 ^ k) :
    (beDigits k n).foldl (fun acc d => acc * 256 + d.toNat) acc = acc * 256 ^ k + n := by
  induction k generalizing n acc with
  | zero =>
    have hn : n = 0 := by simpa using h
    simp [beDigits, hn]
  | succ k ih =>
    have hq : n / 256 ^ k < 256 := by
      apply Nat.div_lt_of_lt_mul
      rwa [← pow_succ]
    have hr : n % 256 ^ k < 256 ^ k := mod_lt _ (by positivity)
    simp only [beDigits, List.foldl_cons]
    rw [ih _ _ hr, UInt8.toNat_ofNat_of_lt' hq]
    have hn := div_add_mod n (256 ^ k)
    calc (acc * 256 + n / 256 ^ k) * 256 ^ k + n % 256 ^ k
        = acc * 256 ^ (k + 1) + (256 ^ k * (n / 256 ^ k) + n % 256 ^ k) := by ring
      _ = acc * 256 ^ (k + 1) + n := by rw [hn]

theorem ofBeDigits_beDigits {k n : ℕ} (h : n < 256 ^ k) : ofBeDigits (beDigits k n) = n := by
  simpa [ofBeDigits] using foldl_beDigits k n 0 h

/-- Digit strings of one length compare as the numbers they stand for. -/
theorem beDigits_lt_iff {k n m : ℕ} (hn : n < 256 ^ k) (hm : m < 256 ^ k) :
    beDigits k n < beDigits k m ↔ n < m := by
  induction k generalizing n m with
  | zero =>
    simp only [pow_zero, lt_one_iff] at hn hm
    simp [beDigits, hn, hm]
  | succ k ih =>
    have hpos : 0 < 256 ^ k := by positivity
    have hq : n / 256 ^ k < 256 := Nat.div_lt_of_lt_mul (by rwa [← pow_succ])
    have hq' : m / 256 ^ k < 256 := Nat.div_lt_of_lt_mul (by rwa [← pow_succ])
    have hdn := div_add_mod n (256 ^ k)
    have hdm := div_add_mod m (256 ^ k)
    have hrn := mod_lt n hpos
    have hrm := mod_lt m hpos
    simp only [beDigits, List.cons_lt_cons_iff, UInt8.lt_iff_toNat_lt,
      ← UInt8.toNat_inj, UInt8.toNat_ofNat_of_lt' hq, UInt8.toNat_ofNat_of_lt' hq', ih hrn hrm]
    constructor
    · rintro (h | ⟨h, hlt⟩)
      · by_contra hc
        exact absurd (Nat.div_le_div_right (c := 256 ^ k) (Nat.le_of_not_lt hc)) (by omega)
      · rw [← hdn, ← hdm, h]
        omega
    · intro h
      rcases Nat.lt_or_eq_of_le (Nat.div_le_div_right (c := 256 ^ k) (Nat.le_of_lt h)) with hl | he
      · exact Or.inl hl
      · refine Or.inr ⟨he, ?_⟩
        rw [he] at hdn
        omega

/-- `u64::to_be_bytes`. -/
def beBytes (n : UInt64) : Bytes := beDigits 8 n.toNat

@[simp] theorem beBytes_length (n : UInt64) : (beBytes n).length = 8 := beDigits_length 8 _

theorem ofBeDigits_beBytes (n : UInt64) : ofBeDigits (beBytes n) = n.toNat :=
  ofBeDigits_beDigits (by simpa using n.toNat_lt)

theorem beBytes_injective : Function.Injective beBytes := by
  intro a b h
  apply UInt64.toNat_inj.mp
  rw [← ofBeDigits_beBytes a, ← ofBeDigits_beBytes b, h]

theorem beBytes_lt_iff (a b : UInt64) : beBytes a < beBytes b ↔ a < b := by
  rw [beBytes, beBytes, beDigits_lt_iff (by simpa using a.toNat_lt) (by simpa using b.toNat_lt),
    UInt64.lt_iff_toNat_lt]

/-- One component of a hashed transcript: its byte count, then its bytes. -/
def component (b : Bytes) : Bytes := beBytes (UInt64.ofNat b.length) ++ b

theorem component_append_inj {a b r r' : Bytes} (ha : a.length < 2 ^ 64) (hb : b.length < 2 ^ 64)
    (h : component a ++ r = component b ++ r') : a = b ∧ r = r' := by
  simp only [component, List.append_assoc] at h
  obtain ⟨hl, hr⟩ := List.append_inj h (by simp)
  have hn := congrArg UInt64.toNat (beBytes_injective hl)
  rw [UInt64.toNat_ofNat_of_lt' ha, UInt64.toNat_ofNat_of_lt' hb] at hn
  exact List.append_inj hr hn

/-- Components one after the other. -/
def components (l : List Bytes) : Bytes := l.flatMap component

/-- As many components, each shorter than a length can say, are read back from their start. -/
theorem components_append_inj {l l' : List Bytes} {r r' : Bytes} (hcount : l.length = l'.length)
    (hl : ∀ b ∈ l, b.length < 2 ^ 64) (hl' : ∀ b ∈ l', b.length < 2 ^ 64)
    (h : components l ++ r = components l' ++ r') : l = l' ∧ r = r' := by
  induction l generalizing l' with
  | nil =>
    obtain rfl := List.length_eq_zero_iff.mp hcount.symm
    exact ⟨rfl, h⟩
  | cons b l ih =>
    obtain ⟨b', l', rfl⟩ := List.exists_cons_of_length_eq_add_one hcount.symm
    simp only [components, List.flatMap_cons, List.append_assoc] at h
    rw [List.forall_mem_cons] at hl hl'
    obtain ⟨rfl, hrest⟩ := component_append_inj hl.1 hl'.1 h
    obtain ⟨rfl, hr⟩ := ih (succ.inj hcount) hl.2 hl'.2 hrest
    exact ⟨rfl, hr⟩

theorem components_inj {l l' : List Bytes} (hcount : l.length = l'.length)
    (hl : ∀ b ∈ l, b.length < 2 ^ 64) (hl' : ∀ b ∈ l', b.length < 2 ^ 64)
    (h : components l = components l') : l = l' :=
  (components_append_inj hcount hl hl' (congrArg (· ++ []) h)).1

theorem beBytes_append_inj {a b : UInt64} {r r' : Bytes}
    (h : beBytes a ++ r = beBytes b ++ r') : a = b ∧ r = r' := by
  obtain ⟨hl, hr⟩ := List.append_inj h (by simp)
  exact ⟨beBytes_injective hl, hr⟩

theorem toNat_of_isDigit {c : Char} (h : c.isDigit = true) : 48 ≤ c.toNat ∧ c.toNat ≤ 57 := by
  simp only [Char.isDigit, Bool.and_eq_true, decide_eq_true_eq, ge_iff_le,
    UInt32.le_iff_toNat_le] at h
  exact h

theorem toNat_of_isLower {c : Char} (h : c.isLower = true) : 97 ≤ c.toNat ∧ c.toNat ≤ 122 := by
  simp only [Char.isLower, Bool.and_eq_true, decide_eq_true_eq, ge_iff_le,
    UInt32.le_iff_toNat_le] at h
  exact h

theorem toNat_of_isUpper {c : Char} (h : c.isUpper = true) : 65 ≤ c.toNat ∧ c.toNat ≤ 90 := by
  simp only [Char.isUpper, decide_eq_true_eq, ge_iff_le, UInt32.le_iff_toNat_le] at h
  exact h

/-- The characters `0`-`9` and `a`-`f`, by value. -/
def hexDigit (n : ℕ) : Char := if n < 10 then Char.ofNat (48 + n) else Char.ofNat (87 + n)

/-- Only the lower-case digits are read. -/
def hexNibble (c : Char) : Option ℕ :=
  if 48 ≤ c.toNat ∧ c.toNat ≤ 57 then some (c.toNat - 48)
  else if 97 ≤ c.toNat ∧ c.toNat ≤ 102 then some (c.toNat - 97 + 10)
  else none

def hexEncode : Bytes → List Char
  | [] => []
  | b :: bs => hexDigit (b.toNat / 16) :: hexDigit (b.toNat % 16) :: hexEncode bs

def hexDecode : List Char → Option Bytes
  | [] => some []
  | [_] => none
  | hi :: lo :: cs => do
    let high ← hexNibble hi
    let low ← hexNibble lo
    let rest ← hexDecode cs
    return UInt8.ofNat (high * 16 + low) :: rest

theorem hexNibble_hexDigit : ∀ n < 16, hexNibble (hexDigit n) = some n := by decide

theorem hexDecode_hexEncode (b : Bytes) : hexDecode (hexEncode b) = some b := by
  induction b with
  | nil => rfl
  | cons b bs ih =>
    have hb : b.toNat < 256 := b.toNat_lt
    have hq : b.toNat / 16 < 16 := by omega
    have hr : b.toNat % 16 < 16 := by omega
    have hv : b.toNat / 16 * 16 + b.toNat % 16 = b.toNat := by omega
    simp only [hexEncode, hexDecode, hexNibble_hexDigit _ hq, hexNibble_hexDigit _ hr, ih,
      Option.bind_eq_bind, Option.bind_some, hv, UInt8.ofNat_toNat]
    rfl

theorem hexEncode_injective : Function.Injective hexEncode := by
  intro a b h
  have hd := congrArg hexDecode h
  rw [hexDecode_hexEncode, hexDecode_hexEncode] at hd
  exact Option.some.inj hd

@[simp] theorem hexEncode_length (b : Bytes) : (hexEncode b).length = 2 * b.length := by
  induction b with
  | nil => rfl
  | cons b bs ih => simp [hexEncode, ih]; omega

/-- A character that `hexEncode` can write. -/
def isHexDigit (c : Char) : Bool := c.isDigit || ('a' ≤ c && c ≤ 'f')

theorem isHexDigit_hexDigit : ∀ n < 16, isHexDigit (hexDigit n) = true := by decide

theorem hexEncode_all (b : Bytes) : (hexEncode b).all isHexDigit = true := by
  induction b with
  | nil => rfl
  | cons b bs ih =>
    have hb : b.toNat < 256 := b.toNat_lt
    simp only [hexEncode, List.all_cons, ih, isHexDigit_hexDigit _ (show b.toNat / 16 < 16 by omega),
      isHexDigit_hexDigit _ (show b.toNat % 16 < 16 by omega), Bool.and_self]

theorem toNat_of_isHexDigit {c : Char} (h : isHexDigit c = true) :
    48 ≤ c.toNat ∧ c.toNat ≤ 57 ∨ 97 ≤ c.toNat ∧ c.toNat ≤ 102 := by
  simp only [isHexDigit, Bool.or_eq_true, Bool.and_eq_true, decide_eq_true_eq] at h
  rcases h with h | h
  · exact Or.inl (toNat_of_isDigit h)
  · exact Or.inr ⟨UInt32.le_iff_toNat_le.mp h.1, UInt32.le_iff_toNat_le.mp h.2⟩

theorem digitChar_toNat_sub {c : Char} (h : c.isDigit = true) : digitChar (c.toNat - 48) = c := by
  obtain ⟨hlow, hhigh⟩ := toNat_of_isDigit h
  have hc : c = Char.ofNat (48 + (c.toNat - 48)) := by
    rw [Nat.add_sub_cancel' hlow, Char.ofNat_toNat]
  have hdigit : ∀ d < 10, digitChar d = Char.ofNat (48 + d) := by decide
  exact (hdigit _ (by omega)).trans hc.symm

/-- Digits that do not start with a zero are the digits of the number they write. -/
theorem toDigits_ofDigitChars {l : List Char} (hne : l ≠ []) (hdig : ∀ c ∈ l, c.isDigit = true)
    (hzero : ∀ c ∈ l.head?, c ≠ '0') :
    0 < ofDigitChars 10 l 0 ∧ toDigits 10 (ofDigitChars 10 l 0) = l := by
  induction l using List.reverseRecOn with
  | nil => exact absurd rfl hne
  | append_singleton l c ih =>
    have hc : c.isDigit = true := hdig c (by simp)
    obtain ⟨hlow, hhigh⟩ := toNat_of_isDigit hc
    have hsum : ofDigitChars 10 (l ++ [c]) 0 =
        10 * ofDigitChars 10 l 0 + (c.toNat - 48) := by
      rw [ofDigitChars_append]
      rfl
    rw [hsum]
    by_cases hl : l = []
    · subst hl
      have hpos : c.toNat ≠ 48 := by
        intro h
        refine hzero c (by simp) ?_
        rw [← Char.ofNat_toNat c, h]
      refine ⟨by omega, ?_⟩
      rw [show ofDigitChars 10 [] 0 = 0 from rfl, mul_zero, zero_add,
        toDigits_of_lt_base (by omega), digitChar_toNat_sub hc]
      rfl
    · obtain ⟨hpos, hback⟩ := ih hl (fun d hd => hdig d (List.mem_append_left _ hd)) fun d hd =>
        hzero d (by rwa [List.head?_append_of_ne_nil _ hl])
      refine ⟨by omega, ?_⟩
      rw [← toDigits_append_toDigits (by decide) hpos (by omega), hback,
        toDigits_of_lt_base (by omega), digitChar_toNat_sub hc]

theorem toDigits_head_ne_zero {n : ℕ} (h : 0 < n) : ∀ c ∈ (toDigits 10 n).head?, c ≠ '0' := by
  induction n using Nat.strongRecOn with
  | ind n ih =>
    by_cases hn : n < 10
    · rw [toDigits_of_lt_base hn]
      have hdigit : ∀ d < 10, 0 < d → digitChar d ≠ '0' := by decide
      simpa using hdigit n hn h
    · rw [← div_add_mod n 10, ← toDigits_append_toDigits (by decide) (by omega)
        (mod_lt _ (by decide)), List.head?_append_of_ne_nil _ (by simp)]
      exact ih (n / 10) (by omega) (by omega)

end Wire
