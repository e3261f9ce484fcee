import Mathlib

namespace Search

open List

variable {α : Type*} [DecidableEq α]

/-- Whether a search from the stack comes upon the target within so many pops. -/
def finds (succ : α → List α) (target : α) : ℕ → List α → List α → Bool
  | 0, _, _ => false
  | _ + 1, [], _ => false
  | fuel + 1, next :: stack, seen =>
    if next = target then true
    else if next ∈ seen then finds succ target fuel stack seen
    else finds succ target fuel (succ next ++ stack) (next :: seen)

/-- A way to the target on which no name but the target was seen before. -/
inductive Fresh (succ : α → List α) (target : α) (seen : List α) : α → Prop
  | target : Fresh succ target seen target
  | step {x y : α} : x ∉ seen → y ∈ succ x → Fresh succ target seen y → Fresh succ target seen x

variable {succ : α → List α} {target : α} {seen stack : List α}

/-- Seeing one more name leaves the way open, or cuts it right behind that name. -/
theorem Fresh.see {x : α} (next : α) (h : Fresh succ target seen x) :
    Fresh succ target (next :: seen) x ∨ ∃ y ∈ succ next, Fresh succ target (next :: seen) y := by
  induction h with
  | target => exact .inl .target
  | @step x y hx hy _ ih =>
    obtain hfresh | hcut := ih
    · by_cases hn : x = next
      · subst hn
        exact .inr ⟨y, hy, hfresh⟩
      · refine .inl (.step ?_ hy hfresh)
        simp [hn, hx]
    · exact .inr hcut

/-- What is left to pop: the stack, and the successors of what is not seen yet. -/
def cost (succ : α → List α) (names : Finset α) (stack seen : List α) : ℕ :=
  stack.length + ∑ x ∈ names \ seen.toFinset, (succ x).length

theorem cost_see {names : Finset α} {next : α} (hseen : next ∉ seen)
    (houter : next ∉ names → succ next = []) :
    cost succ names (succ next ++ stack) (next :: seen) = cost succ names stack seen := by
  unfold cost
  by_cases hnext : next ∈ names
  · -- the successors move from the sum onto the stack
    have hin : next ∈ names \ seen.toFinset := by simp [hnext, hseen]
    have hset : names \ (next :: seen).toFinset = (names \ seen.toFinset).erase next := by
      ext x
      simp only [toFinset_cons, Finset.mem_sdiff, Finset.mem_insert, Finset.mem_erase]
      tauto
    have hsum := Finset.add_sum_erase _ (fun x => (succ x).length) hin
    rw [hset, length_append]
    omega
  · have hset : names \ (next :: seen).toFinset = names \ seen.toFinset := by
      ext x
      simp only [toFinset_cons, Finset.mem_sdiff, Finset.mem_insert]
      constructor
      · rintro ⟨hx, hne⟩
        exact ⟨hx, fun h => hne (.inr h)⟩
      · rintro ⟨hx, hne⟩
        exact ⟨hx, fun h => h.elim (fun he => hnext (he ▸ hx)) hne⟩
    rw [hset, houter hnext, nil_append]

/-- A way from the stack to the target is found if the steps suffice. -/
theorem finds_of_fresh {names : Finset α} (houter : ∀ x ∉ names, succ x = []) (fuel : ℕ)
    (hfuel : cost succ names stack seen ≤ fuel) (hway : ∃ x ∈ stack, Fresh succ target seen x) :
    finds succ target fuel stack seen = true := by
  induction fuel generalizing stack seen with
  | zero =>
    obtain ⟨x, hx, -⟩ := hway
    have hpos := length_pos_of_mem hx
    unfold cost at hfuel
    omega
  | succ fuel ih =>
    obtain ⟨x, hx, hfresh⟩ := hway
    cases stack with
    | nil => cases hx
    | cons next stack =>
      unfold finds
      by_cases htar : next = target
      · rw [if_pos htar]
      rw [if_neg htar]
      by_cases hseen : next ∈ seen
      · -- the way does not start here
        rw [if_pos hseen]
        apply ih
        · simp only [cost, length_cons] at hfuel ⊢
          omega
        · refine ⟨x, (mem_cons.mp hx).resolve_left ?_, hfresh⟩
          rintro rfl
          cases hfresh with
          | target => exact htar rfl
          | step hx _ _ => exact hx hseen
      · rw [if_neg hseen]
        apply ih
        · rw [cost_see hseen (houter next)]
          simp only [cost, length_cons] at hfuel ⊢
          omega
        · obtain hopen | ⟨y, hy, hcut⟩ := hfresh.see next
          · obtain rfl | hx := mem_cons.mp hx
            · cases hopen with
              | target => exact absurd rfl htar
              | step hx _ _ => exact absurd mem_cons_self hx
            · exact ⟨x, mem_append_right _ hx, hopen⟩
          · exact ⟨y, mem_append_left _ hy, hcut⟩

theorem fresh_of_reflTransGen {x : α}
    (h : Relation.ReflTransGen (fun a b => b ∈ succ a) x target) : Fresh succ target [target] x := by
  induction h using Relation.ReflTransGen.head_induction_on with
  | refl => exact .target
  | @head x y hy _ ih =>
    by_cases hx : x = target
    · subst hx
      exact .target
    · exact .step (by simpa using hx) hy ih

/-- A name on a cycle is found from its own successors. -/
theorem finds_of_cycle {names : Finset α} (houter : ∀ x ∉ names, succ x = []) {fuel : ℕ}
    (hfuel : ∑ x ∈ names, (succ x).length ≤ fuel)
    (hcycle : Relation.TransGen (fun a b => b ∈ succ a) target target) :
    finds succ target fuel (succ target) [target] = true := by
  obtain ⟨y, hy, hback⟩ := Relation.TransGen.head'_iff.mp hcycle
  refine finds_of_fresh houter fuel (le_trans ?_ hfuel) ⟨y, hy, fresh_of_reflTransGen hback⟩
  have hcost : cost succ names (succ target ++ []) [target] = cost succ names [] [] :=
    cost_see not_mem_nil (houter target)
  rw [append_nil] at hcost
  rw [hcost]
  simp [cost]

omit [DecidableEq α] in
theorem acyclic_induction {r : α → α → Prop} (hacyclic : ∀ a, ¬Relation.TransGen r a a)
    (names : List α) {P : ℕ → α → Prop}
    (step : ∀ stack, ∀ a ∈ names, (∀ b ∈ names, r a b → P stack b) → P (stack + 1) a)
    {a : α} (ha : a ∈ names) : P names.length a := by
  -- the names that lead here are distinct, and this one is none of them
  suffices hvisited : ∀ stack (visited : List α) (a : α), visited.Nodup → visited ⊆ names →
      (∀ v ∈ visited, Relation.TransGen r v a) → names.length ≤ stack + visited.length →
      a ∈ names → P stack a from
    hvisited names.length [] a nodup_nil (nil_subset _) (by simp) (by simp) ha
  intro stack
  induction stack with
  | zero =>
    intro visited a hnodup hsub hreach hlen ha
    have hnew : a ∉ visited := fun h => hacyclic a (hreach a h)
    have hsub' : a :: visited ⊆ names := cons_subset.mpr ⟨ha, hsub⟩
    have hle := (nodup_cons.mpr ⟨hnew, hnodup⟩).subperm hsub' |>.length_le
    simp only [length_cons] at hle
    omega
  | succ stack ih =>
    intro visited a hnodup hsub hreach hlen ha
    have hnew : a ∉ visited := fun h => hacyclic a (hreach a h)
    refine step stack a ha fun b hb hab => ?_
    apply ih (a :: visited) b (nodup_cons.mpr ⟨hnew, hnodup⟩)
      (cons_subset.mpr ⟨ha, hsub⟩) _ _ hb
    · intro v hv
      obtain rfl | hv := mem_cons.mp hv
      · exact .single hab
      · exact (hreach v hv).tail hab
    · simp only [length_cons]
      omega

end Search
