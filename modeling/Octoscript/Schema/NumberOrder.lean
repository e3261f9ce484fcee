import Octoscript.Schema.ExactNumber

namespace Octoscript
open Wire Decimal List Option

def digitsValue (digits : Bytes) : ℕ := ofDigits (digits.map digitValue)

structure ExponentText where
  upper : Bool
  /-- The sign, if one is written, and whether it is a minus. -/
  sign : Option Bool
  digits : Bytes
  nonempty : digits ≠ []
  ascii : ∀ b ∈ digits, isAsciiDigit b = true

/-- The parts of a number text; an empty fraction is one that is not written. -/
structure NumberText where
  negative : Bool
  (integer fraction : Bytes)
  exponent : Option ExponentText
  nonempty : integer ≠ []
  ascii : ∀ b ∈ integer ++ fraction, isAsciiDigit b = true

namespace ExponentText

def signText : Option Bool → Bytes
  | none => []
  | some true => ['-'.toUInt8]
  | some false => ['+'.toUInt8]

def text (e : ExponentText) : Bytes :=
  (if e.upper then 'E'.toUInt8 else 'e'.toUInt8) :: (signText e.sign ++ e.digits)

def value (e : ExponentText) : ℤ :=
  if e.sign = some true then -digitsValue e.digits else digitsValue e.digits

end ExponentText

namespace NumberText

def fractionText (t : NumberText) : Bytes :=
  if t.fraction = [] then [] else '.'.toUInt8 :: t.fraction

def exponentText (t : NumberText) : Bytes := t.exponent.elim [] ExponentText.text

def text (t : NumberText) : Bytes :=
  (if t.negative then ['-'.toUInt8] else []) ++ (t.integer ++ (t.fractionText ++ t.exponentText))

def exponentValue (t : NumberText) : ℤ := t.exponent.elim 0 ExponentText.value

def value (t : NumberText) : ℚ :=
  (if t.negative then -1 else 1) * digitsValue (t.integer ++ t.fraction) *
    10 ^ (t.exponentValue - t.fraction.length)

end NumberText

/-- The number that a text denotes. -/
def Denotes (source : String) (q : ℚ) : Prop := ∃ t : NumberText, t.text = utf8 source ∧ t.value = q

theorem digitValue_lt {b : UInt8} (h : isAsciiDigit b = true) : digitValue b < 10 := by
  simp only [isAsciiDigit, Bool.and_eq_true, decide_eq_true_eq] at h
  have hall : ∀ b : UInt8, '0'.toUInt8 ≤ b ∧ b ≤ '9'.toUInt8 → digitValue b < 10 := by decide +kernel
  exact hall b h

theorem digitValue_eq_zero_iff {b : UInt8} (h : isAsciiDigit b = true) :
    digitValue b = 0 ↔ b = '0'.toUInt8 := by
  have hall : ∀ b : UInt8, isAsciiDigit b = true → (digitValue b = 0 ↔ b = '0'.toUInt8) := by
    decide +kernel
  exact hall b h

theorem digits_lt {digits : Bytes} (h : ∀ b ∈ digits, isAsciiDigit b = true) :
    ∀ d ∈ digits.map digitValue, d < 10 := by
  intro d hd
  obtain ⟨b, hb, rfl⟩ := mem_map.mp hd
  exact digitValue_lt (h b hb)

/-- A run of digits ends where a text goes on with something else. -/
theorem span_digits {digits rest : Bytes} (h : ∀ b ∈ digits, isAsciiDigit b = true)
    (hrest : ∀ b ∈ rest.head?, isAsciiDigit b = false) :
    (digits ++ rest).takeWhile isAsciiDigit = digits ∧
      (digits ++ rest).dropWhile isAsciiDigit = rest := by
  have hstop : rest.takeWhile isAsciiDigit = [] ∧ rest.dropWhile isAsciiDigit = rest := by
    cases rest with
    | nil => exact ⟨rfl, rfl⟩
    | cons b rest => simp [hrest b rfl]
  rw [takeWhile_append_of_pos h, dropWhile_append_of_pos h, hstop.1, hstop.2]
  simp

namespace ExactNumber

theorem parseFraction_text {fraction rest : Bytes} (h : ∀ b ∈ fraction, isAsciiDigit b = true)
    (hrest : ∀ b ∈ rest.head?, isAsciiDigit b = false ∧ b ≠ '.'.toUInt8) :
    parseFraction ((if fraction = [] then [] else '.'.toUInt8 :: fraction) ++ rest) =
      some (fraction, rest) := by
  split_ifs with hempty
  · subst hempty
    cases rest with
    | nil => rfl
    | cons b rest => simp [parseFraction, (hrest b rfl).2]
  · obtain ⟨htake, hdrop⟩ := span_digits h fun b hb => (hrest b hb).1
    simp [parseFraction, htake, hdrop, hempty]

/-- The exponent that `parse` computes for its text. -/
def exponentOf (exponent : Option ExponentText) : Option ℤ :=
  match exponent with
  | none => some 0
  | some e => do
    let value ← e.digits.foldlM pushExponentDigit 0
    if e.sign = some true then checkedI64 (-value) else some value

theorem parseExponentSign_text (e : ExponentText) :
    parseExponentSign (ExponentText.signText e.sign ++ e.digits) =
      (decide (e.sign = some true), e.digits) := by
  obtain ⟨upper, sign, digits, hnonempty, hascii⟩ := e
  cases digits with
  | nil => exact absurd rfl hnonempty
  | cons b digits =>
    have hb : b ≠ '-'.toUInt8 ∧ b ≠ '+'.toUInt8 := by
      have := hascii b (by simp)
      constructor <;> rintro rfl <;> revert this <;> decide
    have hsigns : '+'.toUInt8 ≠ '-'.toUInt8 := by decide
    rcases sign with _ | _ | _ <;>
      simp [ExponentText.signText, parseExponentSign, hb.1, hb.2, hsigns]

theorem parseExponent_text (exponent : Option ExponentText) :
    parseExponent (exponent.elim [] ExponentText.text) =
      (exponentOf exponent).map fun e => (e, []) := by
  cases exponent with
  | none => rfl
  | some e =>
    have hmarker : (if e.upper then 'E'.toUInt8 else 'e'.toUInt8) = 'e'.toUInt8 ∨
        (if e.upper then 'E'.toUInt8 else 'e'.toUInt8) = 'E'.toUInt8 := by
      cases e.upper <;> simp
    have hspan := @span_digits _ [] e.ascii (by simp)
    rw [append_nil] at hspan
    obtain ⟨htake, hdrop⟩ := hspan
    simp only [Option.elim, ExponentText.text, parseExponent, hmarker, if_true,
      parseExponentSign_text, htake, hdrop, e.nonempty, if_false, decide_eq_true_eq, exponentOf,
      Option.pure_def, Option.bind_eq_bind, Option.map_bind]
    congr 1
    funext value
    simp only [Function.comp]
    split_ifs <;> cases checkedI64 (-value) <;> rfl

theorem head_exponentText {exponent : Option ExponentText} {b : UInt8}
    (h : b ∈ (exponent.elim [] ExponentText.text).head?) :
    isAsciiDigit b = false ∧ b ≠ '.'.toUInt8 := by
  cases exponent with
  | none => simp at h
  | some e =>
    obtain rfl : (if e.upper then 'E'.toUInt8 else 'e'.toUInt8) = b := by
      simpa [ExponentText.text] using h
    cases e.upper <;> decide

theorem parseUnsigned_text (negative : Bool) (t : NumberText) :
    parseUnsigned negative (t.integer ++ (t.fractionText ++ t.exponentText)) =
      (exponentOf t.exponent).bind fun e =>
        normalize negative (t.integer ++ t.fraction) t.fraction.length e := by
  have hint : ∀ b ∈ t.integer, isAsciiDigit b = true := fun b hb => t.ascii b (by simp [hb])
  have hfrac : ∀ b ∈ t.fraction, isAsciiDigit b = true := fun b hb => t.ascii b (by simp [hb])
  have hrest : ∀ b ∈ (t.fractionText ++ t.exponentText).head?, isAsciiDigit b = false := by
    intro b hb
    by_cases hempty : t.fraction = []
    · rw [NumberText.fractionText, if_pos hempty, nil_append] at hb
      exact (head_exponentText hb).1
    · rw [NumberText.fractionText, if_neg hempty] at hb
      obtain rfl : '.'.toUInt8 = b := by simpa using hb
      decide
  obtain ⟨htake, hdrop⟩ := span_digits hint hrest
  have hparsed := parseFraction_text hfrac fun b => @head_exponentText t.exponent b
  rw [parseUnsigned, htake, hdrop, if_neg t.nonempty]
  simp only [NumberText.fractionText, NumberText.exponentText, hparsed, parseExponent_text,
    bind_eq_bind, bind_some]
  cases exponentOf t.exponent <;> simp

/-- What `parse` makes of a number text. -/
theorem parse_text {source : String} {t : NumberText} (h : t.text = utf8 source) :
    parse source = (exponentOf t.exponent).bind fun e =>
      normalize t.negative (t.integer ++ t.fraction) t.fraction.length e := by
  rw [← parseUnsigned_text t.negative t, parse, ← h, NumberText.text]
  cases t.negative with
  | true => simp
  | false =>
    cases hint : t.integer with
    | nil => exact absurd hint t.nonempty
    | cons b rest =>
      have hb : b ≠ '-'.toUInt8 := by
        have := t.ascii b (by simp [hint])
        rintro rfl
        revert this
        decide
      simp [hb]

theorem exists_fraction {bytes fraction rest : Bytes}
    (h : parseFraction bytes = some (fraction, rest)) :
    (∀ b ∈ fraction, isAsciiDigit b = true) ∧
      bytes = (if fraction = [] then [] else '.'.toUInt8 :: fraction) ++ rest := by
  cases bytes with
  | nil =>
    obtain ⟨rfl, rfl⟩ : [] = fraction ∧ [] = rest := by simpa [parseFraction] using h
    simp
  | cons b bytes =>
    rw [parseFraction] at h
    split_ifs at h with hpoint hempty
    · obtain ⟨rfl, rfl⟩ : bytes.takeWhile isAsciiDigit = fraction ∧
          bytes.dropWhile isAsciiDigit = rest := by simpa using h
      refine ⟨fun b hb => mem_takeWhile_imp hb, ?_⟩
      rw [if_neg hempty, hpoint, cons_append, takeWhile_append_dropWhile]
    · obtain ⟨rfl, rfl⟩ : [] = fraction ∧ b :: bytes = rest := by simpa using h
      simp

theorem exists_exponentSign (bytes : Bytes) :
    ∃ sign, bytes = ExponentText.signText sign ++ (parseExponentSign bytes).2 := by
  cases bytes with
  | nil => exact ⟨none, rfl⟩
  | cons b bytes =>
    rw [parseExponentSign]
    split_ifs with hminus hplus
    · exact ⟨some true, by rw [hminus]; rfl⟩
    · exact ⟨some false, by rw [hplus]; rfl⟩
    · exact ⟨none, rfl⟩

theorem exists_exponent {bytes : Bytes} {e : ℤ} (h : parseExponent bytes = some (e, [])) :
    ∃ exponent : Option ExponentText, bytes = exponent.elim [] ExponentText.text := by
  cases bytes with
  | nil => exact ⟨none, rfl⟩
  | cons b bytes =>
    rw [parseExponent] at h
    split_ifs at h with hmarker
    · obtain ⟨sign, hsign⟩ := exists_exponentSign bytes
      set digits := (parseExponentSign bytes).2 with hdig
      simp only [Option.bind_eq_bind, Option.bind_eq_some_iff, Option.pure_def] at h
      obtain ⟨value, _, h⟩ := h
      by_cases hempty : digits.takeWhile isAsciiDigit = []
      · rw [if_pos hempty] at h
        cases h
      rw [if_neg hempty] at h
      have hend : digits.dropWhile isAsciiDigit = [] := by
        split_ifs at h
        · obtain ⟨_, _, h⟩ := bind_eq_some_iff.mp h
          exact (Prod.mk.inj (some.inj h)).2
        · exact (Prod.mk.inj (some.inj h)).2
      have hall : ∀ b ∈ digits, isAsciiDigit b = true := dropWhile_eq_nil_iff.mp hend
      have hne : digits ≠ [] := by
        intro hnil
        exact hempty (by rw [hnil]; rfl)
      refine ⟨some ⟨decide (b = 'E'.toUInt8), sign, digits, hne, hall⟩, ?_⟩
      rw [Option.elim, ExponentText.text, hsign]
      rcases hmarker with rfl | rfl <;> rfl
    · simp at h

theorem exists_text {source : String} {n : ExactNumber} (h : parse source = some n) :
    ∃ t : NumberText, t.text = utf8 source := by
  have hunsigned : ∀ {negative : Bool} {bytes : Bytes}, parseUnsigned negative bytes = some n →
      ∃ t : NumberText, t.negative = negative ∧
        t.integer ++ (t.fractionText ++ t.exponentText) = bytes := by
    intro negative bytes hparse
    rw [parseUnsigned] at hparse
    split_ifs at hparse with hempty
    simp only [bind_eq_bind, bind_eq_some_iff] at hparse
    obtain ⟨⟨fraction, rest⟩, hfrac, ⟨e, rest'⟩, hexp, hparse⟩ := hparse
    split_ifs at hparse with hend
    obtain rfl : rest' = [] := not_not.mp hend
    obtain ⟨hascii, hrest⟩ := exists_fraction hfrac
    obtain ⟨exponent, rfl⟩ := exists_exponent hexp
    refine ⟨⟨negative, bytes.takeWhile isAsciiDigit, fraction, exponent, hempty, ?_⟩, rfl, ?_⟩
    · intro b hb
      rcases mem_append.mp hb with hb | hb
      · exact mem_takeWhile_imp hb
      · exact hascii b hb
    · exact (congrArg _ hrest.symm).trans (takeWhile_append_dropWhile)
  rw [parse] at h
  cases hbytes : utf8 source with
  | nil => simp [hbytes] at h
  | cons b bytes =>
    simp only [hbytes] at h
    split_ifs at h with hminus
    · obtain ⟨t, hneg, htext⟩ := hunsigned h
      exact ⟨t, by rw [NumberText.text, hneg, htext, hminus]; rfl⟩
    · obtain ⟨t, hneg, htext⟩ := hunsigned h
      exact ⟨t, by rw [NumberText.text, hneg, htext]; rfl⟩

/-- The absolute value. -/
def magnitude (n : ExactNumber) : ℚ := digitsValue n.digits * 10 ^ n.scale

def value (n : ExactNumber) : ℚ := (if n.negative then -1 else 1) * n.magnitude

/-- A number other than zero, as `parse` leaves it. -/
structure Normal (n : ExactNumber) : Prop where
  ascii : ∀ b ∈ n.digits, isAsciiDigit b = true
  lead : ∃ b rest, n.digits = b :: rest ∧ digitValue b ≠ 0
  last : digitsValue n.digits % 10 ≠ 0
  order : n.order = n.scale + n.digits.length

theorem checkedI64_eq_some_iff {n m : ℤ} :
    checkedI64 n = some m ↔ n = m ∧ -2 ^ 63 ≤ n ∧ n < 2 ^ 63 := by
  unfold checkedI64
  split_ifs with h
  · exact ⟨fun heq => ⟨some.inj heq, h⟩, fun heq => congrArg some heq.1⟩
  · exact ⟨nofun, fun heq => absurd heq.2 h⟩

theorem foldlM_pushExponentDigit {digits : Bytes} {acc value : ℤ}
    (h : digits.foldlM pushExponentDigit acc = some value) :
    value = acc * 10 ^ digits.length + digitsValue digits := by
  induction digits generalizing acc with
  | nil =>
    obtain rfl : acc = value := by simpa using h
    simp [digitsValue, ofDigits]
  | cons b digits ih =>
    simp only [foldlM_cons, bind_eq_bind, bind_eq_some_iff, pushExponentDigit,
      checkedI64_eq_some_iff] at h
    obtain ⟨_, ⟨_, ⟨rfl, _⟩, ⟨rfl, _⟩⟩, h⟩ := h
    rw [ih h, digitsValue, digitsValue, map_cons, ofDigits_cons, length_cons,
      length_map, pow_succ]
    push_cast
    ring

theorem exponentOf_eq {t : NumberText} {e : ℤ} (h : exponentOf t.exponent = some e) :
    e = t.exponentValue := by
  rw [NumberText.exponentValue]
  cases hexp : t.exponent with
  | none =>
    rw [hexp] at h
    exact (some.inj h).symm
  | some x =>
    simp only [exponentOf, hexp, bind_eq_bind, bind_eq_some_iff] at h
    obtain ⟨value, hvalue, h⟩ := h
    have hdig := foldlM_pushExponentDigit hvalue
    rw [zero_mul, zero_add] at hdig
    rw [Option.elim, ExponentText.value]
    split_ifs at h ⊢
    · rw [← (checkedI64_eq_some_iff.mp h).1, hdig]
    · rw [← some.inj h, hdig]

/-- Popping zeros from the end raises the scale by their number. -/
theorem trimZeros_eq {reversed reversed' : Bytes} {scale scale' : ℤ}
    (h : trimZeros reversed scale = some (reversed', scale')) :
    ∃ k : ℕ, reversed = replicate k '0'.toUInt8 ++ reversed' ∧ scale' = scale + k ∧
      reversed'.head? ≠ some '0'.toUInt8 := by
  induction reversed generalizing scale with
  | nil =>
    obtain ⟨rfl, rfl⟩ : [] = reversed' ∧ scale = scale' := by simpa [trimZeros] using h
    exact ⟨0, by simp⟩
  | cons b reversed ih =>
    rw [trimZeros] at h
    split_ifs at h with hzero
    · obtain ⟨next, hnext, h⟩ := bind_eq_some_iff.mp h
      obtain ⟨rfl, _⟩ := checkedI64_eq_some_iff.mp hnext
      obtain ⟨k, rfl, rfl, hhead⟩ := ih h
      refine ⟨k + 1, by rw [hzero]; rfl, ?_, hhead⟩
      push_cast
      ring
    · obtain ⟨rfl, rfl⟩ : b :: reversed = reversed' ∧ scale = scale' := by simpa using h
      exact ⟨0, by simp, by simp, by simpa using hzero⟩

theorem digitsValue_append_zeros (digits : Bytes) (k : ℕ) :
    digitsValue (digits ++ replicate k '0'.toUInt8) = digitsValue digits * 10 ^ k := by
  have hzeros : ofDigits (replicate k 0) = 0 := by
    induction k with
    | zero => rfl
    | succ k ih => rw [replicate_succ, ofDigits_cons, ih]; simp
  rw [digitsValue, map_append, ofDigits_append, map_replicate, length_replicate,
    show digitValue '0'.toUInt8 = 0 from rfl, hzeros]
  rfl

/-- Leading zeros do not count. -/
theorem digitsValue_dropZeros (digits : Bytes) :
    digitsValue (digits.dropWhile (· = '0'.toUInt8)) = digitsValue digits := by
  induction digits with
  | nil => rfl
  | cons b digits ih =>
    by_cases hb : b = '0'.toUInt8
    · subst hb
      rw [dropWhile_cons_of_pos (by simp), ih, digitsValue, digitsValue, map_cons,
        ofDigits_cons, show digitValue '0'.toUInt8 = 0 from rfl]
      simp
    · rw [dropWhile_cons_of_neg (by simpa using hb)]

theorem normalize_spec {negative : Bool} {digits : Bytes} {fractionalDigits : ℕ} {e : ℤ}
    {n : ExactNumber} (hascii : ∀ b ∈ digits, isAsciiDigit b = true)
    (h : normalize negative digits fractionalDigits e = some n) :
    (n = zero ∨ n.Normal) ∧
      n.value = (if negative then -1 else 1) * digitsValue digits * 10 ^ (e - fractionalDigits) := by
  rw [normalize] at h
  rw [← digitsValue_dropZeros digits]
  have hkept : ∀ b ∈ digits.dropWhile (· = '0'.toUInt8), isAsciiDigit b = true :=
    fun b hb => hascii b (dropWhile_subset _ hb)
  have hhead := head?_dropWhile_not (· = '0'.toUInt8) digits
  -- of the digits that are kept only this matters: no zero leads them
  revert h hkept hhead
  generalize digits.dropWhile (· = '0'.toUInt8) = kept
  intro h hkept hhead
  split_ifs at h with hempty
  · obtain rfl := some.inj h
    subst hempty
    refine ⟨.inl rfl, ?_⟩
    simp [value, magnitude, zero, digitsValue, ofDigits,
      show digitValue '0'.toUInt8 = 0 from rfl]
  simp only [bind_eq_bind, bind_eq_some_iff, checkedI64_eq_some_iff] at h
  obtain ⟨_, ⟨rfl, _⟩, _, ⟨rfl, _⟩, ⟨reversed, scale⟩, htrim, _, ⟨rfl, hcount⟩, _, ⟨rfl, horder⟩, h⟩ := h
  obtain rfl := some.inj h
  obtain ⟨k, hreversed, rfl, hlast⟩ := trimZeros_eq htrim
  have hsplit : kept = reversed.reverse ++ replicate k '0'.toUInt8 := by
    rw [← reverse_reverse kept, hreversed, reverse_append, reverse_replicate]
  have hall : ∀ b ∈ reversed.reverse, isAsciiDigit b = true :=
    fun b hb => hkept b (by rw [hsplit]; exact mem_append_left _ hb)
  -- The first digit that is kept is not a zero, so it is not one of those popped.
  obtain ⟨b, rest, hdig, hb⟩ : ∃ b rest, reversed.reverse = b :: rest ∧ b ≠ '0'.toUInt8 := by
    cases hdig : reversed.reverse with
    | nil =>
      rw [hdig, nil_append] at hsplit
      cases k with
      | zero => exact absurd hsplit hempty
      | succ k => simp [hsplit, replicate_succ] at hhead
    | cons b rest => exact ⟨b, rest, rfl, by simpa [hsplit, hdig] using hhead⟩
  refine ⟨.inr ⟨hall, ⟨b, rest, hdig, ?_⟩, ?_, ?_⟩, ?_⟩
  · rw [Ne, digitValue_eq_zero_iff (hall b (by simp [hdig]))]
    exact hb
  · cases reversed with
    | nil => simp at hdig
    | cons c reversed =>
      have hc : isAsciiDigit c = true := hall c (by simp)
      have hne : digitValue c ≠ 0 := by
        rw [Ne, digitValue_eq_zero_iff hc]
        simpa using hlast
      have hlt := digitValue_lt hc
      simp only [reverse_cons, digitsValue, map_append, map_cons, map_nil,
        ofDigits_concat]
      omega
  · have hlen : checkedI64 (reversed.length : ℤ) = some (reversed.length : ℤ) :=
      checkedI64_eq_some_iff.mpr ⟨rfl, hcount⟩
    simp only [order, length_reverse, hlen, getD_some, saturatingI64]
    simp only at horder
    omega
  · have hten : (10 : ℚ) ≠ 0 := by norm_num
    simp only [value, magnitude]
    rw [hsplit, digitsValue_append_zeros, zpow_add₀ hten]
    push_cast
    rw [zpow_natCast]
    ring

/-- A number that `parse` returns is normalised and has the value its text denotes. -/
theorem parse_spec {source : String} {n : ExactNumber} {q : ℚ} (h : parse source = some n)
    (hq : Denotes source q) : (n = zero ∨ n.Normal) ∧ n.value = q := by
  obtain ⟨t, htext, rfl⟩ := hq
  rw [parse_text htext] at h
  obtain ⟨e, he, h⟩ := bind_eq_some_iff.mp h
  obtain ⟨hnormal, hvalue⟩ := normalize_spec t.ascii h
  refine ⟨hnormal, ?_⟩
  rw [hvalue, exponentOf_eq he]
  rfl

/-- The digits of a number behind a decimal point. -/
def fraction (n : ExactNumber) : ℚ := Decimal.fraction (n.digits.map digitValue)

variable {m n : ExactNumber} {p q : ℚ}

theorem magnitude_eq (n : ExactNumber) :
    n.magnitude = n.fraction * 10 ^ (n.scale + n.digits.length) := by
  have hten : (10 : ℚ) ≠ 0 := by norm_num
  have hdig := fraction_mul_pow (n.digits.map digitValue)
  rw [length_map] at hdig
  rw [magnitude, digitsValue, ← hdig, zpow_add₀ hten, zpow_natCast, fraction]
  ring

theorem Normal.tenth_le (h : n.Normal) : 1 / 10 ≤ n.fraction := by
  obtain ⟨b, rest, hdig, hb⟩ := h.lead
  rw [fraction, hdig, List.map_cons]
  exact tenth_le_fraction hb

theorem Normal.magnitude_pos (h : n.Normal) : 0 < n.magnitude := by
  have := h.tenth_le
  rw [magnitude_eq]
  have hpow : (0 : ℚ) < 10 ^ (n.scale + n.digits.length) := by positivity
  nlinarith

theorem ascii_zero : ∀ b ∈ zero.digits, isAsciiDigit b = true := by
  intro b hb
  obtain rfl : b = '0'.toUInt8 := by simpa [zero] using hb
  rfl

theorem order_zero : zero.order = zero.scale + zero.digits.length := by
  have hlen : checkedI64 (zero.digits.length : ℤ) = some 1 :=
    checkedI64_eq_some_iff.mpr ⟨rfl, by norm_num [zero], by norm_num [zero]⟩
  rw [order, hlen, getD_some, saturatingI64]
  norm_num [zero]

theorem magnitude_zero : zero.magnitude = 0 := by
  simp [magnitude, zero, digitsValue, ofDigits, show digitValue '0'.toUInt8 = 0 from rfl]

/-- Magnitudes are compared by order and then by digits, provided that the one with the
larger order starts with a significant digit. -/
theorem compareMagnitude_eq (hm : ∀ b ∈ m.digits, isAsciiDigit b = true)
    (hn : ∀ b ∈ n.digits, isAsciiDigit b = true)
    (hmo : m.order = m.scale + m.digits.length) (hno : n.order = n.scale + n.digits.length)
    (hlt : m.order < n.order → 1 / 10 ≤ n.fraction)
    (hgt : n.order < m.order → 1 / 10 ≤ m.fraction) :
    m.compareMagnitude n = Ord.compare m.magnitude n.magnitude := by
  have hm1 := fraction_lt_one (digits_lt hm)
  have hn1 := fraction_lt_one (digits_lt hn)
  rw [compareMagnitude, magnitude_eq, magnitude_eq, ← hmo, ← hno]
  rcases lt_trichotomy m.order n.order with h | h | h
  · rw [compare_lt_iff_lt.mpr h, Ordering.lt_then]
    exact (compare_lt_iff_lt.mpr (Decimal.scaled_lt hm1 (hlt h) h)).symm
  · have hpow : (0 : ℚ) < 10 ^ n.order := by positivity
    rw [compare_eq_iff_eq.mpr h, Ordering.eq_then, h, compare_mul_right hpow]
    exact Decimal.compareDigits_eq (digits_lt hm) (digits_lt hn)
  · rw [compare_gt_iff_gt.mpr h, Ordering.gt_then]
    exact (compare_gt_iff_gt.mpr (Decimal.scaled_lt hn1 (hgt h) h)).symm

/-- A number of at least one has a digit before its decimal point. -/
theorem one_le_order (h : n.Normal) (hone : 1 ≤ n.magnitude) : 1 ≤ n.order := by
  have hlt := fraction_lt_one (digits_lt h.ascii)
  by_contra horder
  have hpow : (10 : ℚ) ^ n.order ≤ 10 ^ (0 : ℤ) := zpow_le_zpow_right₀ (by norm_num) (by omega)
  have hpos : (0 : ℚ) < 10 ^ n.order := by positivity
  rw [zpow_zero] at hpow
  rw [magnitude_eq, ← h.order, fraction] at hone
  nlinarith

/-- A number below one has no digit before its decimal point. -/
theorem order_nonpos (h : n.Normal) (hone : n.magnitude < 1) : n.order ≤ 0 := by
  have hge := h.tenth_le
  by_contra horder
  have hpow : (10 : ℚ) ^ (1 : ℤ) ≤ 10 ^ n.order := zpow_le_zpow_right₀ (by norm_num) (by omega)
  rw [zpow_one] at hpow
  rw [magnitude_eq, ← h.order] at hone
  nlinarith

theorem isInteger_iff (h : n = zero ∨ n.Normal) : n.isInteger = true ↔ ∃ k : ℤ, n.value = k := by
  rcases h with rfl | h
  · have hvalue : zero.value = (0 : ℤ) := by simp [value, magnitude_zero]
    exact iff_of_true rfl ⟨0, hvalue⟩
  rw [isInteger, decide_eq_true_eq]
  constructor
  · intro hscale
    refine ⟨(if n.negative then -1 else 1) * (digitsValue n.digits * 10 ^ n.scale.toNat), ?_⟩
    have hpow : (10 : ℚ) ^ n.scale = 10 ^ n.scale.toNat := by
      rw [← zpow_natCast, Int.toNat_of_nonneg hscale]
    rw [value, magnitude, hpow]
    split_ifs <;> push_cast <;> ring
  · rintro ⟨k, hk⟩
    by_contra hscale
    -- The digits would be an integer times a power of ten, but they do not end in zero.
    obtain ⟨j, hj⟩ : ∃ j : ℕ, n.scale = -(j + 1 : ℕ) := ⟨(-n.scale - 1).toNat, by omega⟩
    have hpow : (10 : ℚ) ^ n.scale * 10 ^ (j + 1) = 1 := by
      rw [hj, zpow_neg, zpow_natCast]
      exact inv_mul_cancel₀ (by positivity)
    have hmag : (digitsValue n.digits : ℚ) = n.magnitude * 10 ^ (j + 1) := by
      rw [magnitude, mul_assoc, hpow, mul_one]
    obtain ⟨i, hi⟩ : ∃ i : ℤ, n.magnitude = i := by
      rw [value] at hk
      split_ifs at hk
      · exact ⟨-k, by push_cast; linarith⟩
      · exact ⟨k, by linarith⟩
    rw [hi] at hmag
    have hdvd : (10 : ℤ) ∣ digitsValue n.digits := by
      refine ⟨i * 10 ^ j, ?_⟩
      have : ((digitsValue n.digits : ℤ) : ℚ) = ((10 * (i * 10 ^ j) : ℤ) : ℚ) := by
        push_cast
        rw [hmag]
        ring
      exact_mod_cast this
    have := h.last
    omega

/-- The values are not zero and a number strictly between zero and one. -/
def Apart (p q : ℚ) : Prop := ¬(p = 0 ∧ 0 < q ∧ q < 1) ∧ ¬(q = 0 ∧ 0 < p ∧ p < 1)

theorem compareMagnitude_zero_left (h : n.Normal) (hone : 1 ≤ n.magnitude) :
    zero.compareMagnitude n = Ord.compare zero.magnitude n.magnitude := by
  have horder := one_le_order h hone
  refine compareMagnitude_eq ascii_zero h.ascii order_zero h.order (fun _ => h.tenth_le) ?_
  intro hlt
  rw [order_zero] at hlt
  simp only [zero, length_singleton] at hlt
  omega

theorem compareMagnitude_zero_right (h : n.Normal) (hone : 1 ≤ n.magnitude) :
    n.compareMagnitude zero = Ord.compare n.magnitude zero.magnitude := by
  have horder := one_le_order h hone
  refine compareMagnitude_eq h.ascii ascii_zero h.order order_zero ?_ (fun _ => h.tenth_le)
  intro hlt
  rw [order_zero] at hlt
  simp only [zero, length_singleton] at hlt
  omega

theorem compare_value (hm : m = zero ∨ m.Normal) (hn : n = zero ∨ n.Normal)
    (h : Apart m.value n.value) : m.compare n = Ord.compare m.value n.value := by
  have hzero : zero.value = 0 := by simp [value, magnitude_zero]
  have hpos : ∀ {x : ExactNumber}, x.negative = false → x.value = x.magnitude := by
    intro x hx
    simp [value, hx]
  have hneg : ∀ {x : ExactNumber}, x.negative = true → x.value = -x.magnitude := by
    intro x hx
    simp [value, hx]
  -- zero has the order of a number from one to ten, so it has cases of its own
  rcases hm with rfl | hm <;> rcases hn with rfl | hn
  · rw [hzero, ← magnitude_zero, ← compareMagnitude_eq ascii_zero ascii_zero order_zero order_zero
      (fun h => absurd h (lt_irrefl _)) fun h => absurd h (lt_irrefl _)]
    rfl
  · cases hsign : n.negative with
    | true =>
      rw [hzero, hneg hsign]
      have hlt : -n.magnitude < 0 := neg_lt_zero.mpr hn.magnitude_pos
      simp [compare, zero, hsign, compare_gt_iff_gt.mpr hlt]
    | false =>
      have hone : 1 ≤ n.magnitude := by
        by_contra hlt
        rw [hzero, hpos hsign] at h
        exact h.1 ⟨rfl, hn.magnitude_pos, not_le.mp hlt⟩
      rw [hpos hsign, hzero, ← magnitude_zero, ← compareMagnitude_zero_left hn hone]
      simp [compare, zero, hsign]
  · cases hsign : m.negative with
    | true =>
      rw [hzero, hneg hsign]
      have hlt : -m.magnitude < 0 := neg_lt_zero.mpr hm.magnitude_pos
      simp [compare, zero, hsign, compare_lt_iff_lt.mpr hlt]
    | false =>
      have hone : 1 ≤ m.magnitude := by
        by_contra hlt
        rw [hzero, hpos hsign] at h
        exact h.2 ⟨rfl, hm.magnitude_pos, not_le.mp hlt⟩
      rw [hpos hsign, hzero, ← magnitude_zero, ← compareMagnitude_zero_right hm hone]
      simp [compare, zero, hsign]
  · have hmn := compareMagnitude_eq hm.ascii hn.ascii hm.order hn.order (fun _ => hn.tenth_le)
      fun _ => hm.tenth_le
    have hnm := compareMagnitude_eq hn.ascii hm.ascii hn.order hm.order (fun _ => hm.tenth_le)
      fun _ => hn.tenth_le
    have hmpos := hm.magnitude_pos
    have hnpos := hn.magnitude_pos
    cases hms : m.negative <;> cases hns : n.negative
    · rw [hpos hms, hpos hns, ← hmn]
      simp [compare, hms, hns]
    · have hlt : -n.magnitude < m.magnitude := by linarith
      rw [hpos hms, hneg hns, compare_gt_iff_gt.mpr hlt]
      simp [compare, hms, hns]
    · have hlt : -m.magnitude < n.magnitude := by linarith
      rw [hneg hms, hpos hns, compare_lt_iff_lt.mpr hlt]
      simp [compare, hms, hns]
    · rw [hneg hms, hneg hns, compare_neg, ← hnm]
      simp [compare, hms, hns]

theorem normal_of_value_pos (h : n = zero ∨ n.Normal) (hpos : 0 < n.value) :
    n.Normal ∧ n.negative = false ∧ n.value = n.magnitude := by
  rcases h with rfl | h
  · simp [value, magnitude_zero] at hpos
  cases hsign : n.negative with
  | false => exact ⟨h, rfl, by simp [value, hsign]⟩
  | true =>
    have hneg : n.value = -n.magnitude := by simp [value, hsign]
    have := h.magnitude_pos
    linarith

theorem eq_zero_of_value (h : n = zero ∨ n.Normal) (hvalue : n.value = 0) : n = zero := by
  refine h.resolve_right fun h => h.magnitude_pos.ne' ?_
  rw [value] at hvalue
  split_ifs at hvalue <;> linarith

/-- Zero has the order of a number with one digit before the point, so against a number
between zero and one the answer is the wrong way round. -/
theorem compare_swap_of_not_apart (hm : m = zero ∨ m.Normal) (hn : n = zero ∨ n.Normal)
    (h : ¬Apart m.value n.value) : m.compare n = (Ord.compare m.value n.value).swap := by
  have hzero : zero.order = 1 := order_zero
  rw [Apart, ← not_or, not_not] at h
  rcases h with ⟨hvalue, hpos, hlt⟩ | ⟨hvalue, hpos, hlt⟩
  · obtain ⟨hnormal, hsign, hmag⟩ := normal_of_value_pos hn hpos
    have horder := order_nonpos hnormal (hmag ▸ hlt)
    obtain rfl := eq_zero_of_value hm hvalue
    rw [hvalue, compare_lt_iff_lt.mpr hpos]
    have hgt : Ord.compare zero.order n.order = .gt := compare_gt_iff_gt.mpr (by omega)
    simp [compare, hsign, zero, compareMagnitude] at hgt ⊢
    simp [hgt]
  · obtain ⟨hnormal, hsign, hmag⟩ := normal_of_value_pos hm hpos
    have horder := order_nonpos hnormal (hmag ▸ hlt)
    obtain rfl := eq_zero_of_value hn hvalue
    rw [hvalue, compare_gt_iff_gt.mpr hpos]
    have hlt : Ord.compare m.order zero.order = .lt := compare_lt_iff_lt.mpr (by omega)
    simp [compare, hsign, zero, compareMagnitude] at hlt ⊢
    simp [hlt]

/-- The number was parsed from a text that denotes `q`. -/
def Reads (n : ExactNumber) (q : ℚ) : Prop := ∃ source, parse source = some n ∧ Denotes source q

theorem Reads.compare (hm : Reads m p) (hn : Reads n q) (h : Apart p q) :
    m.compare n = Ord.compare p q := by
  obtain ⟨_, hparse, hdenotes⟩ := hm
  obtain ⟨_, hparse', hdenotes'⟩ := hn
  obtain ⟨hm, rfl⟩ := parse_spec hparse hdenotes
  obtain ⟨hn, rfl⟩ := parse_spec hparse' hdenotes'
  exact compare_value hm hn h

theorem Reads.compare_swap (hm : Reads m p) (hn : Reads n q) (h : ¬Apart p q) :
    m.compare n = (Ord.compare p q).swap := by
  obtain ⟨_, hparse, hdenotes⟩ := hm
  obtain ⟨_, hparse', hdenotes'⟩ := hn
  obtain ⟨hm, rfl⟩ := parse_spec hparse hdenotes
  obtain ⟨hn, rfl⟩ := parse_spec hparse' hdenotes'
  exact compare_swap_of_not_apart hm hn h

theorem ne_of_not_apart (h : ¬Apart p q) : p ≠ q := by
  rintro rfl
  refine h ⟨?_, ?_⟩ <;>
  · rintro ⟨hzero, hpos, _⟩
    exact hpos.ne' hzero

theorem Reads.compare_iff (hm : Reads m p) (hn : Reads n q) :
    m.compare n = Ord.compare p q ↔ Apart p q := by
  refine ⟨fun h => ?_, hm.compare hn⟩
  by_contra hapart
  rw [hm.compare_swap hn hapart] at h
  rcases lt_or_gt_of_ne (ne_of_not_apart hapart) with hlt | hlt
  · simp [compare_lt_iff_lt.mpr hlt] at h
  · simp [compare_gt_iff_gt.mpr hlt] at h

/-- A bound is tested rightly exactly where it is apart from the value. -/
theorem Reads.not_lt_iff (hm : Reads m p) (hn : Reads n q) :
    (m.compare n ≠ .lt ↔ q ≤ p) ↔ Apart p q := by
  refine ⟨fun h => ?_, fun h => by rw [hm.compare hn h, Ne, compare_lt_iff_lt, not_lt]⟩
  by_contra hapart
  rw [hm.compare_swap hn hapart] at h
  rcases lt_or_gt_of_ne (ne_of_not_apart hapart) with hlt | hlt
  · simp [compare_lt_iff_lt.mpr hlt, hlt.not_ge] at h
  · simp [compare_gt_iff_gt.mpr hlt, hlt.le] at h

theorem Reads.not_gt_iff (hm : Reads m p) (hn : Reads n q) :
    (m.compare n ≠ .gt ↔ p ≤ q) ↔ Apart p q := by
  refine ⟨fun h => ?_, fun h => by rw [hm.compare hn h, Ne, compare_gt_iff_gt, not_lt]⟩
  by_contra hapart
  rw [hm.compare_swap hn hapart] at h
  rcases lt_or_gt_of_ne (ne_of_not_apart hapart) with hlt | hlt
  · simp [compare_lt_iff_lt.mpr hlt, hlt.le] at h
  · simp [compare_gt_iff_gt.mpr hlt, hlt.not_ge] at h

theorem Reads.isInteger (hn : Reads n q) : n.isInteger = true ↔ ∃ k : ℤ, q = k := by
  obtain ⟨_, hparse, hdenotes⟩ := hn
  obtain ⟨hn, rfl⟩ := parse_spec hparse hdenotes
  exact isInteger_iff hn

theorem validateNumeric_ok_iff {c : NumericConstraints} {lo hi : Option ℚ} {path : String}
    (hn : Reads n q) (hlo : Rel Reads c.minimum lo) (hhi : Rel Reads c.maximum hi)
    (hloApart : ∀ r ∈ lo, Apart q r) (hhiApart : ∀ r ∈ hi, Apart q r) :
    validateNumeric n c path = .ok () ↔ (∀ r ∈ lo, r ≤ q) ∧ ∀ r ∈ hi, q ≤ r := by
  obtain ⟨minimum, maximum⟩ := c
  have hmin : (¬∃ bound ∈ minimum, n.compare bound = .lt) ↔ ∀ r ∈ lo, r ≤ q := by
    cases hlo with
    | none => simp
    | some hr => simp [hn.compare hr (hloApart _ rfl), compare_lt_iff_lt]
  have hmax : (¬∃ bound ∈ maximum, n.compare bound = .gt) ↔ ∀ r ∈ hi, q ≤ r := by
    cases hhi with
    | none => simp
    | some hr => simp [hn.compare hr (hhiApart _ rfl), compare_gt_iff_gt]
  simp only [validateNumeric, Except.bind_ok_iff, Except.rejectIf_ok_iff, hmin, hmax]
  simp

theorem validateNumeric_minimum {bound : ExactNumber} {path : String} :
    validateNumeric n ⟨some bound, none⟩ path = .ok () ↔ n.compare bound ≠ .lt := by
  simp [validateNumeric, Except.bind_ok_iff]

theorem validateNumeric_maximum {bound : ExactNumber} {path : String} :
    validateNumeric n ⟨none, some bound⟩ path = .ok () ↔ n.compare bound ≠ .gt := by
  simp [validateNumeric]

theorem validateNumber_ok_iff {value : Json.Number} {c : NumericConstraints} {path : String}
    (hn : parse value.text = some n) :
    validateNumber c (.number value) path = .ok () ↔ validateNumeric n c path = .ok () := by
  have hvalue : fromValue (.number value) = some n := hn
  simp only [validateNumber, hvalue, Except.bind_ok_iff, okOr_ok_iff, some.injEq, exists_eq_left']

theorem validateInteger_ok_iff {value : Json.Number} {c : NumericConstraints} {path : String}
    (hn : parse value.text = some n) :
    validateInteger c (.number value) path = .ok () ↔
      n.isInteger = true ∧ validateNumeric n c path = .ok () := by
  have hvalue : fromValue (.number value) = some n := hn
  simp [validateInteger, hvalue]

/-- Every accepted text denotes one number, and `is_integer` says whether it is integral.
`compare` is the order exactly where the two numbers are apart; there, and only there, a
value passes the one bound as it should. With `type: integer` the bound is compared with
integral values only. -/
theorem exact_iff_apart {source : String} (hn : parse source = some n) :
    ∃ q, Denotes source q ∧ (∀ r, Denotes source r → r = q) ∧
      (n.isInteger = true ↔ ∃ k : ℤ, q = k) ∧
      (∀ bound r, Reads bound r → (n.compare bound = Ord.compare q r ↔ Apart q r)) ∧
      (∀ (value : Json.Number) (path : String), value.text = source → ∀ bound r, Reads bound r →
        ((validateNumber ⟨some bound, none⟩ (.number value) path = .ok () ↔ r ≤ q) ↔
          Apart q r) ∧
        ((validateNumber ⟨none, some bound⟩ (.number value) path = .ok () ↔ q ≤ r) ↔
          Apart q r) ∧
        ((validateInteger ⟨some bound, none⟩ (.number value) path = .ok () ↔
          (∃ k : ℤ, q = k) ∧ r ≤ q) ↔ ((∃ k : ℤ, q = k) → Apart q r)) ∧
        ((validateInteger ⟨none, some bound⟩ (.number value) path = .ok () ↔
          (∃ k : ℤ, q = k) ∧ q ≤ r) ↔ ((∃ k : ℤ, q = k) → Apart q r))) ∧
      ∀ (value : Json.Number) (c : NumericConstraints) (lo hi : Option ℚ) (path : String),
        value.text = source → Rel Reads c.minimum lo → Rel Reads c.maximum hi →
        (∀ r ∈ lo, Apart q r) → (∀ r ∈ hi, Apart q r) →
        (validateNumber c (.number value) path = .ok () ↔ (∀ r ∈ lo, r ≤ q) ∧ ∀ r ∈ hi, q ≤ r) ∧
        (validateInteger c (.number value) path = .ok () ↔
          (∃ k : ℤ, q = k) ∧ (∀ r ∈ lo, r ≤ q) ∧ ∀ r ∈ hi, q ≤ r) := by
  obtain ⟨t, htext⟩ := exists_text hn
  have hdenotes : Denotes source t.value := ⟨t, htext, rfl⟩
  have hreads : Reads n t.value := ⟨source, hn, hdenotes⟩
  refine ⟨t.value, hdenotes, ?_, hreads.isInteger, fun _ _ => hreads.compare_iff, ?_, ?_⟩
  · intro r hr
    exact (parse_spec hn hr).2.symm.trans (parse_spec hn hdenotes).2
  · rintro value path rfl bound r hr
    rw [validateNumber_ok_iff hn, validateNumber_ok_iff hn, validateInteger_ok_iff hn,
      validateInteger_ok_iff hn, validateNumeric_minimum, validateNumeric_maximum,
      hreads.isInteger, and_congr_right_iff, and_congr_right_iff, hreads.not_lt_iff hr,
      hreads.not_gt_iff hr]
    exact ⟨.rfl, .rfl, .rfl, .rfl⟩
  · rintro value c lo hi path rfl hlo hhi hloApart hhiApart
    rw [validateNumber_ok_iff hn, validateInteger_ok_iff hn, hreads.isInteger,
      validateNumeric_ok_iff hreads hlo hhi hloApart hhiApart]
    exact ⟨.rfl, .rfl⟩

theorem denotes_half : Denotes "0.5" (1 / 2) := by
  refine ⟨⟨false, ['0'.toUInt8], ['5'.toUInt8], none, by simp, by decide +kernel⟩,
    by decide +kernel, ?_⟩
  norm_num [NumberText.value, NumberText.exponentValue, digitsValue, ofDigits,
    show digitValue '0'.toUInt8 = 0 from rfl, show digitValue '5'.toUInt8 = 5 from rfl]

theorem parse_half : parse "0.5" = some ⟨false, ['5'.toUInt8], -1⟩ := by decide +kernel

/-- The value two and a bound of one half. -/
theorem exact_iff_apart_of_two :
    (⟨false, ['2'.toUInt8], 0⟩ : ExactNumber).compare ⟨false, ['5'.toUInt8], -1⟩ =
      Ord.compare (2 : ℚ) (1 / 2) := by
  have hparse : parse "2" = some ⟨false, ['2'.toUInt8], 0⟩ := by decide +kernel
  have htwo : Denotes "2" 2 := by
    refine ⟨⟨false, ['2'.toUInt8], [], none, by simp, by decide +kernel⟩, by decide +kernel, ?_⟩
    simp [NumberText.value, NumberText.exponentValue, digitsValue, ofDigits,
      show digitValue '2'.toUInt8 = 2 from rfl]
  obtain ⟨q, _, hunique, _, hcompare, _⟩ := exact_iff_apart hparse
  obtain rfl := hunique 2 htwo
  exact (hcompare _ _ ⟨"0.5", parse_half, denotes_half⟩).mpr ⟨by norm_num, by norm_num⟩

/-- Zero is ordered above one half, and passes a minimum of one half. -/
theorem compare_zero_half :
    ∃ m n : ExactNumber, parse "0" = some m ∧ parse "0.5" = some n ∧ Denotes "0" 0 ∧
      Denotes "0.5" (1 / 2) ∧ m.compare n = .gt ∧
      ∀ path, validateNumber ⟨some n, none⟩ (.number (Json.Number.ofNat 0)) path = .ok () := by
  let n : ExactNumber := ⟨false, ['5'.toUInt8], -1⟩
  have hm : parse "0" = some zero := by decide +kernel
  have hzero : Denotes "0" 0 := by
    refine ⟨⟨false, ['0'.toUInt8], [], none, by simp, by decide +kernel⟩, by decide +kernel, ?_⟩
    simp [NumberText.value, digitsValue, ofDigits, show digitValue '0'.toUInt8 = 0 from rfl]
  have hgt : zero.compare n = .gt := by decide +kernel
  refine ⟨zero, n, hm, parse_half, hzero, denotes_half, hgt, fun path => ?_⟩
  have hvalue : fromValue (.number (Json.Number.ofNat 0)) = some zero := hm
  simp [validateNumber, hvalue, validateNumeric, hgt]

end ExactNumber

end Octoscript
