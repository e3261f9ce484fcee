import Mathlib

namespace Unfolding

variable {α β : Type*} {next : α → List α}

/-- What a walk of fewer than `n` steps over the tree that unfolds from a start comes to, each
before what it leads to. -/
def visits (next : α → List α) : ℕ → α → List α
  | 0, _ => []
  | n + 1, a => a :: (next a).flatMap (visits next n)

theorem forall_visits_succ {P : α → Prop} {n : ℕ} {a : α} :
    (∀ c ∈ visits next (n + 1) a, P c) ↔ P a ∧ ∀ b ∈ next a, ∀ c ∈ visits next n b, P c := by
  simp only [visits, List.forall_mem_cons, List.forall_mem_flatMap]

/-- What holds at the start and is kept by each step holds wherever the walk comes. -/
theorem visits_induction {P : α → Prop} (hstep : ∀ a, P a → ∀ b ∈ next a, P b) {a : α} (ha : P a)
    (n : ℕ) : ∀ c ∈ visits next n a, P c := by
  induction n generalizing a with
  | zero => exact fun c hc => absurd hc List.not_mem_nil
  | succ n ih => exact forall_visits_succ.mpr ⟨ha, fun b hb => ih (hstep a ha b hb)⟩

theorem filterMap_visits_succ (f : α → Option β) (n : ℕ) (a : α) :
    (visits next (n + 1) a).filterMap f =
      (f a).toList ++ (next a).flatMap fun b => (visits next n b).filterMap f := by
  rw [visits, List.filterMap_cons, List.filterMap_flatMap]
  cases f a <;> rfl

end Unfolding
