import Mathlib

namespace UInt32

def saturatingSucc (n : UInt32) : UInt32 := if n.toNat + 1 < 2 ^ 32 then n + 1 else n

theorem toNat_saturatingSucc {n m : UInt32} (h : n < m) :
    n.saturatingSucc.toNat = n.toNat + 1 := by
  have hm := m.toNat_lt
  have hn : n.toNat < m.toNat := UInt32.lt_iff_toNat_lt.mp h
  rw [saturatingSucc, if_pos (by omega), UInt32.toNat_add]
  exact Nat.mod_eq_of_lt (by simpa using (by omega : n.toNat + 1 < 2 ^ 32))

end UInt32

namespace UInt64

def saturatingSucc (n : UInt64) : UInt64 := if n.toNat + 1 < 2 ^ 64 then n + 1 else n

def maxValue : UInt64 := 18446744073709551615

def saturatingAdd (n : UInt64) (k : ℕ) : UInt64 :=
  if n.toNat + k < 2 ^ 64 then .ofNat (n.toNat + k) else maxValue

theorem toNat_saturatingAdd {n : UInt64} {k : ℕ} (h : n.toNat + k < 2 ^ 64) :
    (n.saturatingAdd k).toNat = n.toNat + k := by
  rw [saturatingAdd, if_pos h, UInt64.toNat_ofNat']
  exact Nat.mod_eq_of_lt h

def checkedSucc (n : UInt64) : Option UInt64 := if n.toNat + 1 < 2 ^ 64 then some (n + 1) else none

def checkedAdd (n m : UInt64) : Option UInt64 :=
  if n.toNat + m.toNat < 2 ^ 64 then some (n + m) else none

theorem checkedAdd_eq_some_iff {n m k : UInt64} :
    n.checkedAdd m = some k ↔ k.toNat = n.toNat + m.toNat := by
  have hk := k.toNat_lt
  unfold checkedAdd
  split_ifs with h
  · have hadd : (n + m).toNat = n.toNat + m.toNat := by
      rw [UInt64.toNat_add]
      exact Nat.mod_eq_of_lt h
    rw [Option.some.injEq, ← UInt64.toNat_inj, hadd, eq_comm]
  · simp only [false_iff]
    omega

theorem toNat_succ {n : UInt64} (h : n.toNat + 1 < 2 ^ 64) : (n + 1).toNat = n.toNat + 1 := by
  rw [UInt64.toNat_add]
  exact Nat.mod_eq_of_lt (by simpa using h)

theorem toNat_saturatingSucc {n m : UInt64} (h : n < m) :
    n.saturatingSucc.toNat = n.toNat + 1 := by
  have hm := m.toNat_lt
  have hn : n.toNat < m.toNat := UInt64.lt_iff_toNat_lt.mp h
  have hb : n.toNat + 1 < 2 ^ 64 := by omega
  rw [saturatingSucc, if_pos hb, toNat_succ hb]

theorem checkedSucc_eq_some_iff {n m : UInt64} :
    n.checkedSucc = some m ↔ m.toNat = n.toNat + 1 := by
  unfold checkedSucc
  split_ifs with h
  · constructor
    · rintro ⟨⟩
      exact toNat_succ h
    · intro hm
      simp only [Option.some.injEq]
      exact UInt64.toNat_inj.mp ((toNat_succ h).trans hm.symm)
  · have := m.toNat_lt
    constructor
    · simp
    · omega

end UInt64

namespace Usize

def checkedAdd (n m : ℕ) : Option ℕ := if n + m < 2 ^ 64 then some (n + m) else none

def saturatingAdd (n m : ℕ) : ℕ := min (n + m) (2 ^ 64 - 1)

/-- A sum of sizes that fits is what its additions compute. -/
theorem foldlM_checkedAdd {n : ℕ} {l : List ℕ} (h : n + l.sum < 2 ^ 64) :
    l.foldlM checkedAdd n = some (n + l.sum) := by
  induction l generalizing n with
  | nil => simp
  | cons m l ih =>
    rw [List.sum_cons, ← add_assoc] at h
    have hfits : n + m < 2 ^ 64 := by omega
    rw [List.foldlM_cons, checkedAdd, if_pos hfits, List.sum_cons, ← add_assoc]
    exact ih h

end Usize
