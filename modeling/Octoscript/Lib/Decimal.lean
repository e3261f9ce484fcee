import Mathlib

namespace Decimal

/-- The natural number with these digits. -/
def ofDigits (ds : List ℕ) : ℕ := ds.foldl (fun acc d => 10 * acc + d) 0

/-- The number `0.d₁d₂…`. -/
def fraction : List ℕ → ℚ
  | [] => 0
  | d :: ds => (d + fraction ds) / 10

/-- The order of two digit strings, the shorter one padded with zeros. -/
def compareDigits : List ℕ → List ℕ → Ordering
  | [], [] => .eq
  | a :: as, [] => (compare a 0).then (compareDigits as [])
  | [], b :: bs => (compare 0 b).then (compareDigits [] bs)
  | a :: as, b :: bs => (compare a b).then (compareDigits as bs)

theorem foldl_eq (ds : List ℕ) (acc : ℕ) :
    ds.foldl (fun acc d => 10 * acc + d) acc = acc * 10 ^ ds.length + ofDigits ds := by
  induction ds generalizing acc with
  | nil => simp [ofDigits]
  | cons d ds ih =>
    rw [ofDigits, List.foldl_cons, List.foldl_cons, ih, ih (10 * 0 + d), List.length_cons, pow_succ]
    ring

theorem ofDigits_cons (d : ℕ) (ds : List ℕ) :
    ofDigits (d :: ds) = d * 10 ^ ds.length + ofDigits ds := by
  rw [ofDigits, List.foldl_cons, foldl_eq]
  simp

theorem ofDigits_append (as bs : List ℕ) :
    ofDigits (as ++ bs) = ofDigits as * 10 ^ bs.length + ofDigits bs := by
  rw [ofDigits, List.foldl_append, foldl_eq]
  rfl

theorem ofDigits_concat (ds : List ℕ) (d : ℕ) : ofDigits (ds ++ [d]) = 10 * ofDigits ds + d := by
  rw [ofDigits_append, ofDigits_cons]
  simp [ofDigits, mul_comm]

theorem ofDigits_lt {ds : List ℕ} (h : ∀ d ∈ ds, d < 10) : ofDigits ds < 10 ^ ds.length := by
  induction ds with
  | nil => simp [ofDigits]
  | cons d ds ih =>
    have hd := h d List.mem_cons_self
    have hds := ih fun e he => h e (List.mem_cons_of_mem d he)
    rw [ofDigits_cons, List.length_cons, pow_succ]
    have hle : d * 10 ^ ds.length ≤ 9 * 10 ^ ds.length := Nat.mul_le_mul_right _ (by omega)
    omega

theorem pow_le_ofDigits {d : ℕ} (h : d ≠ 0) (ds : List ℕ) :
    10 ^ ds.length ≤ ofDigits (d :: ds) := by
  rw [ofDigits_cons]
  exact (Nat.le_mul_of_pos_left _ (Nat.pos_of_ne_zero h)).trans (Nat.le_add_right _ _)

/-- Digits of one length are determined by their number. -/
theorem eq_of_ofDigits_eq {as bs : List ℕ} (ha : ∀ d ∈ as, d < 10) (hb : ∀ d ∈ bs, d < 10)
    (hlen : as.length = bs.length) (h : ofDigits as = ofDigits bs) : as = bs := by
  induction as generalizing bs with
  | nil => exact (List.length_eq_zero_iff.mp hlen.symm).symm
  | cons a as ih =>
    obtain _ | ⟨b, bs⟩ := bs
    · simp at hlen
    have ha' : ∀ d ∈ as, d < 10 := fun d hd => ha d (List.mem_cons_of_mem a hd)
    have hb' : ∀ d ∈ bs, d < 10 := fun d hd => hb d (List.mem_cons_of_mem b hd)
    have hlen : as.length = bs.length := Nat.succ.inj hlen
    rw [ofDigits_cons, ofDigits_cons, hlen] at h
    have has := hlen ▸ ofDigits_lt ha'
    have hbs := ofDigits_lt hb'
    -- The rest of each is below the weight of its first digit.
    have hpos : 0 < 10 ^ bs.length := by positivity
    have hdiv := congrArg (· / 10 ^ bs.length) h
    have hmod := congrArg (· % 10 ^ bs.length) h
    simp only [Nat.mul_add_mod_self_right, Nat.mod_eq_of_lt has, Nat.mod_eq_of_lt hbs] at hmod
    simp only [Nat.add_comm (_ * _), Nat.add_mul_div_right _ _ hpos, Nat.div_eq_of_lt has,
      Nat.div_eq_of_lt hbs, Nat.zero_add] at hdiv
    rw [hdiv, ih ha' hb' hlen hmod]

/-- Digits that do not begin with a zero are determined by their number. -/
theorem eq_of_ofDigits_eq_of_lead {a b : ℕ} {as bs : List ℕ} (ha : ∀ d ∈ a :: as, d < 10)
    (hb : ∀ d ∈ b :: bs, d < 10) (ha0 : a ≠ 0) (hb0 : b ≠ 0)
    (h : ofDigits (a :: as) = ofDigits (b :: bs)) : a :: as = b :: bs := by
  apply eq_of_ofDigits_eq ha hb _ h
  have hlow := pow_le_ofDigits ha0 as
  have hlow' := pow_le_ofDigits hb0 bs
  have hlt := ofDigits_lt ha
  have hlt' := ofDigits_lt hb
  rw [List.length_cons] at hlt hlt' ⊢
  rw [List.length_cons]
  have hle : as.length < bs.length + 1 :=
    (Nat.pow_lt_pow_iff_right (by norm_num)).mp (hlow.trans_lt (h ▸ hlt'))
  have hle' : bs.length < as.length + 1 :=
    (Nat.pow_lt_pow_iff_right (by norm_num)).mp (hlow'.trans_lt (h ▸ hlt))
  omega

theorem fraction_mul_pow (ds : List ℕ) : fraction ds * 10 ^ ds.length = ofDigits ds := by
  induction ds with
  | nil => simp [fraction, ofDigits]
  | cons d ds ih =>
    rw [fraction, ofDigits_cons, List.length_cons, pow_succ]
    push_cast
    rw [← ih]
    ring

theorem fraction_nonneg (ds : List ℕ) : 0 ≤ fraction ds := by
  induction ds with
  | nil => exact le_rfl
  | cons d ds ih =>
    rw [fraction]
    positivity

theorem fraction_lt_one {ds : List ℕ} (h : ∀ d ∈ ds, d < 10) : fraction ds < 1 := by
  induction ds with
  | nil => simp [fraction]
  | cons d ds ih =>
    have hd : (d : ℚ) ≤ 9 := by
      have := h d (by simp)
      exact_mod_cast (by omega : d ≤ 9)
    have hds := ih fun x hx => h x (by simp [hx])
    rw [fraction, div_lt_one (by norm_num)]
    linarith

/-- The leading digit decides, and what follows it breaks a tie. -/
theorem compare_step {a b : ℕ} {f g : ℚ} (hf : 0 ≤ f) (hf' : f < 1) (hg : 0 ≤ g) (hg' : g < 1) :
    compare ((a + f) / 10) ((b + g) / 10) = (compare a b).then (compare f g) := by
  rcases lt_trichotomy a b with h | rfl | h
  · have hab : (a : ℚ) + 1 ≤ b := by exact_mod_cast h
    rw [compare_lt_iff_lt.mpr h, Ordering.lt_then, compare_lt_iff_lt]
    linarith
  · rw [compare_eq_iff_eq.mpr rfl, Ordering.eq_then]
    rcases lt_trichotomy f g with h | rfl | h
    · rw [compare_lt_iff_lt.mpr h, compare_lt_iff_lt]
      linarith
    · rw [compare_eq_iff_eq.mpr rfl, compare_eq_iff_eq.mpr rfl]
    · rw [compare_gt_iff_gt.mpr h, compare_gt_iff_gt]
      linarith
  · have hab : (b : ℚ) + 1 ≤ a := by exact_mod_cast h
    rw [compare_gt_iff_gt.mpr h, Ordering.gt_then, compare_gt_iff_gt]
    linarith

theorem compareDigits_eq {as bs : List ℕ} (ha : ∀ d ∈ as, d < 10) (hb : ∀ d ∈ bs, d < 10) :
    compareDigits as bs = compare (fraction as) (fraction bs) := by
  induction as, bs using compareDigits.induct with
  | case1 => simp [compareDigits, fraction]
  | case2 a as ih =>
    have hrest : ∀ d ∈ as, d < 10 := fun d hd => ha d (by simp [hd])
    have hstep := compare_step (a := a) (b := 0) (fraction_nonneg as) (fraction_lt_one hrest)
      le_rfl one_pos
    rw [compareDigits, ih hrest hb, fraction, fraction, ← hstep]
    simp
  | case3 b bs ih =>
    have hrest : ∀ d ∈ bs, d < 10 := fun d hd => hb d (by simp [hd])
    have hstep := compare_step (a := 0) (b := b) le_rfl one_pos (fraction_nonneg bs)
      (fraction_lt_one hrest)
    rw [compareDigits, ih ha hrest, fraction, fraction, ← hstep]
    simp
  | case4 a as b bs ih =>
    have hrest : ∀ d ∈ as, d < 10 := fun d hd => ha d (by simp [hd])
    have hrest' : ∀ d ∈ bs, d < 10 := fun d hd => hb d (by simp [hd])
    rw [compareDigits, ih hrest hrest', fraction, fraction]
    exact (compare_step (fraction_nonneg as) (fraction_lt_one hrest) (fraction_nonneg bs)
      (fraction_lt_one hrest')).symm

/-- A string that starts with a significant digit is at least a tenth. -/
theorem tenth_le_fraction {d : ℕ} {ds : List ℕ} (h : d ≠ 0) : 1 / 10 ≤ fraction (d :: ds) := by
  have hd : (1 : ℚ) ≤ d := by exact_mod_cast Nat.one_le_iff_ne_zero.mpr h
  have hds := fraction_nonneg ds
  rw [fraction]
  linarith

/-- Of two numbers `0.d₁d₂… · 10ᵒ` with a significant first digit, a larger exponent wins. -/
theorem scaled_lt {f g : ℚ} {m n : ℤ} (hf : f < 1) (hg : 1 / 10 ≤ g) (h : m < n) :
    f * 10 ^ m < g * 10 ^ n := by
  have hm : (0 : ℚ) < 10 ^ m := by positivity
  have hstep : (10 : ℚ) ^ (m + 1) ≤ 10 ^ n := zpow_le_zpow_right₀ (by norm_num) (by omega)
  rw [zpow_add_one₀ (by norm_num)] at hstep
  calc f * 10 ^ m < 1 * 10 ^ m := by gcongr
    _ = 1 / 10 * (10 ^ m * 10) := by ring
    _ ≤ 1 / 10 * 10 ^ n := by gcongr
    _ ≤ g * 10 ^ n := by gcongr

theorem compare_mul_right {f g c : ℚ} (hc : 0 < c) : compare (f * c) (g * c) = compare f g := by
  rcases lt_trichotomy f g with h | rfl | h
  · rw [compare_lt_iff_lt.mpr h, compare_lt_iff_lt.mpr (mul_lt_mul_of_pos_right h hc)]
  · rw [compare_eq_iff_eq.mpr rfl, compare_eq_iff_eq.mpr rfl]
  · rw [compare_gt_iff_gt.mpr h, compare_gt_iff_gt.mpr (mul_lt_mul_of_pos_right h hc)]

theorem compare_neg (f g : ℚ) : compare (-f) (-g) = compare g f := by
  rcases lt_trichotomy f g with h | rfl | h
  · rw [compare_gt_iff_gt.mpr h, compare_gt_iff_gt.mpr (neg_lt_neg h)]
  · rw [compare_eq_iff_eq.mpr rfl, compare_eq_iff_eq.mpr rfl]
  · rw [compare_lt_iff_lt.mpr h, compare_lt_iff_lt.mpr (neg_lt_neg h)]

end Decimal
